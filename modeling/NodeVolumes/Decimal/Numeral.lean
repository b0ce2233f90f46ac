import NodeVolumes.Json.Reader

/-!
# Decimal numerals

Numerals with an optional sign, point and exponent, and the binary number nearest to one.
-/

namespace NodeVolumes.Decimal

/-- A numeral: `(-1)^negative * whole.fraction * 10 ^ exponent`. -/
structure Numeral where
  negative : Bool
  whole : List Char
  fraction : List Char
  exponent : Int
  deriving DecidableEq, Repr

namespace Numeral

def sign : List Char → Bool × List Char
  | '-' :: rest => (true, rest)
  | '+' :: rest => (false, rest)
  | rest => (false, rest)

/-- Reads an exponent from behind its letter, to the end. -/
def exponent? (cs : List Char) : Option Int :=
  let (negative, ds) := sign cs
  if ds ≠ [] ∧ ds.all Char.isDigit then
    let n : Int := Json.digitsValue ds
    some (if negative then -n else n)
  else
    none

/-- Reads a numeral: a digit at least, on either side of the point, and nothing behind it. -/
def parse? (cs : List Char) : Option Numeral :=
  let (negative, cs) := sign cs
  let whole := cs.takeWhile Char.isDigit
  let rest := cs.dropWhile Char.isDigit
  let (fraction, rest) :=
    match rest with
    | '.' :: more => (more.takeWhile Char.isDigit, more.dropWhile Char.isDigit)
    | _ => ([], rest)
  if whole = [] ∧ fraction = [] then none
  else
    match rest with
    | [] => some ⟨negative, whole, fraction, 0⟩
    | c :: more =>
        if c = 'e' ∨ c = 'E' then (exponent? more).map fun e => ⟨negative, whole, fraction, e⟩
        else none

/--
The binary number nearest to a numeral.

Exponents at which every number is zero or beyond the format are not worked out.
-/
def toFloat (n : Numeral) : Float :=
  let digits := Json.digitsValue (n.whole ++ n.fraction)
  let exponent := n.exponent - n.fraction.length
  let magnitude :=
    if digits = 0 ∨ exponent < -400 - (n.whole.length + n.fraction.length : Nat) then 0.0
    else if 400 < exponent then 1.0 / 0.0
    else Float.ofScientific digits (exponent < 0) exponent.natAbs
  if n.negative then -magnitude else magnitude

def toNumber (n : Numeral) : Json.Number :=
  .float n.toFloat.toBits

end Numeral

end NodeVolumes.Decimal
