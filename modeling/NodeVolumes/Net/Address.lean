import NodeVolumes.Json.Reader
import NodeVolumes.Text.Blank

/-!
# Internet addresses

Addresses of the two families and their text.

An address of four octets is written and read in decimal without leading zeros.  An address of
eight groups is written with its longest run of zero groups (two at least, the first of equals)
left out.
-/

namespace NodeVolumes.Net

open Text

structure Ipv4 where
  a : UInt8
  b : UInt8
  c : UInt8
  d : UInt8
  deriving DecidableEq, Repr

structure Ipv6 where
  groups : List UInt16
  length_groups : groups.length = 8
  deriving DecidableEq

inductive Address where
  | v4 (address : Ipv4)
  | v6 (address : Ipv6)
  deriving DecidableEq

namespace Ipv4

def text (x : Ipv4) : String :=
  ".".intercalate ([x.a, x.b, x.c, x.d].map fun octet => Decimal.digitText octet.toNat)

/-- Reads an octet: one to three digits, no zero in front of another digit, at most 255. -/
def octet? (ds : List Char) : Option UInt8 :=
  if ds ≠ [] ∧ ds.length ≤ 3 ∧ ds.all Char.isDigit ∧ ¬(1 < ds.length ∧ ds.head? = some '0') ∧
      Json.digitsValue ds ≤ 255 then
    some (Json.digitsValue ds).toUInt8
  else
    none

def ofChars? (cs : List Char) : Option Ipv4 :=
  match pieces (· == '.') cs with
  | [w, x, y, z] => do
      let a ← octet? w
      let b ← octet? x
      let c ← octet? y
      let d ← octet? z
      return ⟨a, b, c, d⟩
  | _ => none

def parse? (s : String) : Option Ipv4 :=
  ofChars? s.toList

def groups (x : Ipv4) : List UInt16 :=
  [x.a.toUInt16 * 256 + x.b.toUInt16, x.c.toUInt16 * 256 + x.d.toUInt16]

end Ipv4

namespace Ipv6

def group? (cs : List Char) : Option UInt16 :=
  if cs = [] ∨ 4 < cs.length then none
  else (cs.mapM Json.hexValue?).map fun ds => (ds.foldl (fun n d => n * 16 + d) 0).toUInt16

/-- Reads groups between colons, of which the last two may be written as four octets. -/
def groups? : List (List Char) → Option (List UInt16)
  | [] => some []
  | [last] =>
      match group? last with
      | some g => some [g]
      | none => (Ipv4.ofChars? last).map Ipv4.groups
  | piece :: more => do
      let g ← group? piece
      let gs ← groups? more
      return g :: gs

def plainGroups? (ps : List (List Char)) : Option (List UInt16) :=
  ps.mapM group?

def side (cs : List Char) : List (List Char) :=
  if cs = [] then [] else pieces (· == ':') cs

def atGap? : List Char → Option (List Char × List Char)
  | [] => none
  | ':' :: ':' :: rest => some ([], rest)
  | c :: rest => (atGap? rest).map fun (head, tail) => (c :: head, tail)

def ofGroups? (gs : List UInt16) : Option Ipv6 :=
  if h : gs.length = 8 then some ⟨gs, h⟩ else none

/-- Reads the text of an address; a pair of colons stands for one zero group or more. -/
def ofChars? (cs : List Char) : Option Ipv6 :=
  match atGap? cs with
  | none => (groups? (side cs)).bind ofGroups?
  | some (head, tail) => do
      let before ← plainGroups? (side head)
      let after ← groups? (side tail)
      if before.length + after.length ≤ 7 then
        ofGroups? (before ++ List.replicate (8 - (before.length + after.length)) 0 ++ after)
      else none

def parse? (s : String) : Option Ipv6 :=
  ofChars? s.toList

def zeroRun (gs : List UInt16) : Nat :=
  (gs.takeWhile (· == 0)).length

/-- Start and length of the first longest run of zero groups, from position `start` on. -/
def longestRun (start : Nat) : List UInt16 → Nat × Nat
  | [] => (start, 0)
  | g :: rest =>
      let later := longestRun (start + 1) rest
      let here := zeroRun (g :: rest)
      if later.2 ≤ here then (start, here) else later

def groupText (gs : List UInt16) : String :=
  ":".intercalate (gs.map fun g => String.ofList (Nat.toDigits 16 g.toNat))

def embedded? (x : Ipv6) : Option Ipv4 :=
  match x.groups with
  | [0, 0, 0, 0, 0, 0xFFFF, high, low] =>
      some ⟨(high / 256).toUInt8, high.toUInt8, (low / 256).toUInt8, low.toUInt8⟩
  | _ => none

def text (x : Ipv6) : String :=
  match x.embedded? with
  | some inner => "::ffff:" ++ inner.text
  | none =>
      let (start, length) := longestRun 0 x.groups
      if 2 ≤ length then
        groupText (x.groups.take start) ++ "::" ++ groupText (x.groups.drop (start + length))
      else
        groupText x.groups

end Ipv6

namespace Address

def parse? (s : String) : Option Address :=
  match Ipv4.parse? s with
  | some x => some (.v4 x)
  | none => (Ipv6.parse? s).map .v6

def text : Address → String
  | .v4 x => x.text
  | .v6 x => x.text

def v4? : Address → Option Ipv4
  | .v4 x => some x
  | .v6 _ => none

end Address

end NodeVolumes.Net
