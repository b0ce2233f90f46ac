/-!
# Shortest decimals

The decimal with the fewest digits that reads back as a given binary number, and of those the
nearest.

A binary number `m * 2 ^ q` is read back from every real in its rounding interval, whose ends
belong to it when `m` is even.  For one digit, two digits and so on the two neighbours of the
number on the grid of that many digits are tried; the first grid with a hit wins.
-/

namespace NodeVolumes

/-- The decimal `(-1)^negative * digits * 10 ^ exponent`. -/
structure Decimal where
  negative : Bool
  digits : Nat
  exponent : Int
  deriving DecidableEq, Repr

namespace Decimal

/-- The magnitude of a finite binary64 number: `significand * 2 ^ power`. -/
structure Binary where
  significand : Nat
  power : Int
  /-- The gap below the number is half the gap above it. -/
  narrowBelow : Bool

def Binary.ofBits (bits : UInt64) : Binary :=
  let fraction : Nat := bits.toNat % 0x10000000000000
  let field : Nat := bits.toNat / 0x10000000000000 % 0x800
  if field = 0 then
    ⟨fraction, -1074, false⟩
  else
    ⟨fraction + 0x10000000000000, (field : Int) - 1075, fraction = 0 && field > 1⟩

abbrev Ratio := Nat × Nat

def ratioPow (base : Nat) (power : Int) : Ratio :=
  if power < 0 then (1, base.pow power.natAbs) else (base.pow power.natAbs, 1)

def scaled (count : Nat) (unit : Ratio) : Ratio :=
  (count * unit.1, unit.2)

def ratioLe (a b : Ratio) : Bool :=
  a.1 * b.2 ≤ b.1 * a.2

def ratioLt (a b : Ratio) : Bool :=
  a.1 * b.2 < b.1 * a.2

def ratioQuotient (a b : Ratio) : Nat :=
  a.1 * b.2 / (a.2 * b.1)

/-- How many places the point of a positive number below one has to move right to reach one. -/
def leadingZeros (value : Ratio) : Nat → Nat
  | 0 => 0
  | limit + 1 =>
      if value.2 ≤ value.1 then 0 else leadingZeros (value.1 * 10, value.2) limit + 1

def decimalExponent (value : Ratio) : Int :=
  if value.2 ≤ value.1 then
    ((Nat.toDigits 10 (value.1 / value.2)).length : Int)
  else
    1 - (leadingZeros value 400 : Int)

structure Interval where
  low : Ratio
  value : Ratio
  high : Ratio
  closed : Bool

/-- The interval of the numbers that are read back as `b`. -/
def Binary.interval (b : Binary) : Interval :=
  let quarter := ratioPow 2 (b.power - 2)
  let below := if b.narrowBelow then 1 else 2
  { low := scaled (4 * b.significand - below) quarter
    value := scaled (4 * b.significand) quarter
    high := scaled (4 * b.significand + 2) quarter
    closed := b.significand % 2 = 0 }

def Interval.contains (i : Interval) (x : Ratio) : Bool :=
  if i.closed then ratioLe i.low x && ratioLe x i.high else ratioLt i.low x && ratioLt x i.high

/-- Of the neighbour `lower` and the one above it the nearer; of equally near ones the even one. -/
def Interval.nearer (i : Interval) (lower : Nat) (unit : Ratio) : Nat :=
  let middle := scaled (2 * lower + 1) unit
  let twice := (2 * i.value.1, i.value.2)
  if ratioLt twice middle then lower
  else if ratioLt middle twice then lower + 1
  else if lower % 2 = 0 then lower else lower + 1

/-- The hit on the grid with unit `10 ^ exponent`, if there is one. -/
def Interval.hit (i : Interval) (exponent : Int) : Option Nat :=
  let unit := ratioPow 10 exponent
  let lower := ratioQuotient i.value unit
  match i.contains (scaled lower unit), i.contains (scaled (lower + 1) unit) with
  | true, true => some (i.nearer lower unit)
  | true, false => some lower
  | false, true => some (lower + 1)
  | false, false => none

/-- The first hit on the grids of `count` digits and more, `left` of them at most. -/
def Interval.firstHit (i : Interval) (top : Int) : (count left : Nat) → Nat × Int
  | count, 0 => (ratioQuotient i.value (ratioPow 10 (top - count)), top - count)
  | count, left + 1 =>
      match i.hit (top - count) with
      | some digits => (digits, top - count)
      | none => i.firstHit top (count + 1) left

/-- Removes zeros at the end of the digits, `limit` of them at most. -/
def dropZeros : Nat → Nat × Int → Nat × Int
  | 0, d => d
  | limit + 1, (digits, exponent) =>
      if digits % 10 = 0 && digits ≠ 0 then dropZeros limit (digits / 10, exponent + 1)
      else (digits, exponent)

/-- The shortest decimal of a finite binary64 number. -/
def shortest (bits : UInt64) : Decimal :=
  let negative := 0x8000000000000000 ≤ bits.toNat
  let b := Binary.ofBits bits
  if b.significand = 0 then
    ⟨negative, 0, 0⟩
  else
    let i := b.interval
    let (digits, exponent) := dropZeros 20 (i.firstHit (decimalExponent i.value) 1 17)
    ⟨negative, digits, exponent⟩

def digitText (n : Nat) : String :=
  String.ofList (Nat.toDigits 10 n)

def zeros (count : Nat) : String :=
  String.ofList (List.replicate count '0')

/-- A decimal in positional notation; a whole number ends in `.0`. -/
def positional (d : Decimal) : String :=
  let digits := Nat.toDigits 10 d.digits
  let point := (digits.length : Int) + d.exponent
  let body :=
    if d.digits = 0 then "0.0"
    else if 0 ≤ d.exponent then digitText d.digits ++ zeros d.exponent.natAbs ++ ".0"
    else if 0 < point then
      String.ofList (digits.take point.toNat) ++ "." ++ String.ofList (digits.drop point.toNat)
    else "0." ++ zeros point.natAbs ++ digitText d.digits
  if d.negative then "-" ++ body else body

/--
A decimal as data formats write it: positional from 10^-5 up to 10^16, otherwise with a signed
exponent after the first digit.
-/
def compact (d : Decimal) : String :=
  let digits := Nat.toDigits 10 d.digits
  let point := (digits.length : Int) + d.exponent
  if d.digits = 0 ∨ (-5 < point ∧ point ≤ 16) then
    d.positional
  else
    let sign := if d.negative then "-" else ""
    let fraction :=
      match digits.drop 1 with
      | [] => ""
      | rest => "." ++ String.ofList rest
    let power := point - 1
    let exponent :=
      if power < 0 then "-" ++ digitText power.natAbs else "+" ++ digitText power.natAbs
    sign ++ String.ofList (digits.take 1) ++ fraction ++ "e" ++ exponent

end Decimal

end NodeVolumes
