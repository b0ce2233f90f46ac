import NodeVolumes.Decimal.Numeral
import NodeVolumes.Text.Search

/-!
# Characters of documents

What the readers of settings documents share: the values of escapes, and integers of 64 bits.
-/

namespace NodeVolumes.Document

def charOf? (code : Nat) : Option Char :=
  if code.isValidChar then some (Char.ofNat code) else none

def hexNumber? (ds : List Char) : Option Nat := do
  let values ← ds.mapM Json.hexValue?
  return values.foldl (fun n d => n * 16 + d) 0

/-- Reads the character with a code of `count` hexadecimal digits. -/
def hexChar? (count : Nat) (cs : List Char) : Option (Char × List Char) := do
  if cs.length < count then none
  else
    let code ← hexNumber? (cs.take count)
    let c ← charOf? code
    return (c, cs.drop count)

def isSigned64 (n : Int) : Bool :=
  -0x8000000000000000 ≤ n && n < 0x8000000000000000

/-- Whether a number fits into 64 bits without a sign. -/
def isUnsigned64 (n : Int) : Bool :=
  0 ≤ n && n < 0x10000000000000000

/-- An integer between a sign and the end: digits only, at least one. -/
def integer? (cs : List Char) : Option Int :=
  let (negative, ds) := Decimal.Numeral.sign cs
  if ds ≠ [] ∧ ds.all Char.isDigit then
    let n : Int := Json.digitsValue ds
    some (if negative then -n else n)
  else
    none

end NodeVolumes.Document
