import Mathlib.Data.List.Lex
import Mathlib.Data.String.Basic
import NodeVolumes.Text.Utf8

/-!
# The order of texts

Texts in ascending order are in the order of their bytes, as the bytes of a character grow with it
(`utf8Bytes_lt_iff`).  In a list in ascending order a search comes to the least text that it can
(`find?_eq_some_iff_of_ascending`).
-/

namespace NodeVolumes.Text

/-- The bytes of a greater character are greater, whatever follows. -/
theorem utf8EncodeChar_append_lt {c d : Char} (h : c < d) (rest rest' : List UInt8) :
    String.utf8EncodeChar c ++ rest < String.utf8EncodeChar d ++ rest' := by
  have hlt : c.val.toNat < d.val.toNat := h
  have hmax : d.val.toNat < 0x110000 := by
    rcases d.valid with hd | ⟨-, hd⟩ <;> omega
  have hsecond (n : Nat) : n / 4096 = n / 64 / 64 := by omega
  have hthird (n : Nat) : n / 262144 = n / 64 / 64 / 64 := by omega
  unfold String.utf8EncodeChar
  dsimp only
  split_ifs <;>
    simp only [List.cons_append, List.nil_append, List.cons_lt_cons_iff, UInt8.lt_iff_toNat_lt,
      ← UInt8.toNat_inj, UInt8.toNat_ofNat', hsecond, hthird] <;> omega

theorem flatMap_utf8EncodeChar_lt {cs ds : List Char} (h : cs < ds) :
    cs.flatMap String.utf8EncodeChar < ds.flatMap String.utf8EncodeChar := by
  induction cs generalizing ds with
  | nil =>
      cases ds with
      | nil => exact absurd h (by simp)
      | cons d ds =>
          have hlength : 0 < (String.utf8EncodeChar d).length := by
            simp [String.length_utf8EncodeChar, Char.utf8Size_pos]
          obtain ⟨byte, bytes, hbytes⟩ := List.exists_cons_of_length_pos hlength
          simp [hbytes]
  | cons c cs ih =>
      cases ds with
      | nil => exact absurd h (by simp)
      | cons d ds =>
          rw [List.flatMap_cons, List.flatMap_cons]
          rcases List.cons_lt_cons_iff.mp h with hlt | ⟨rfl, hrest⟩
          · exact utf8EncodeChar_append_lt hlt _ _
          · exact List.Lex.append_left _ (ih hrest) _

/-- Texts are in the order of their bytes. -/
theorem utf8Bytes_lt_iff {s t : String} : utf8Bytes s < utf8Bytes t ↔ s < t := by
  have hmono : ∀ {s t : String}, s < t → utf8Bytes s < utf8Bytes t :=
    fun h => flatMap_utf8EncodeChar_lt (String.lt_iff_toList_lt.mp h)
  refine ⟨fun hbytes => ?_, hmono⟩
  rcases lt_trichotomy s t with hlt | rfl | hgt
  · exact hlt
  · exact absurd hbytes (List.lt_irrefl _)
  · exact absurd (hmono hgt) (List.lt_asymm hbytes)

/-- In an ascending list the first hit is the least one. -/
theorem find?_eq_some_iff_of_ascending {texts : List String} {p : String → Bool} {text : String}
    (h : texts.Pairwise (· < ·)) :
    texts.find? p = some text ↔
      text ∈ texts ∧ p text = true ∧ ∀ other ∈ texts, p other = true → ¬other < text := by
  have hleast {text : String} (hfind : texts.find? p = some text) :
      ∀ other ∈ texts, p other = true → ¬other < text := by
    obtain ⟨-, front, rest, rfl, hfront⟩ := List.find?_eq_some_iff_append.mp hfind
    obtain ⟨hrest, -⟩ := List.pairwise_cons.mp (List.pairwise_append.mp h).2.1
    intro other hother hp
    rcases List.mem_append.mp hother with hmem | hmem
    · have hmissed := hfront other hmem
      simp [hp] at hmissed
    · rcases List.mem_cons.mp hmem with rfl | hmem
      · exact lt_irrefl other
      · exact lt_asymm (hrest other hmem)
  constructor
  · intro hfind
    exact ⟨List.mem_of_find?_eq_some hfind, List.find?_some hfind, hleast hfind⟩
  · rintro ⟨hmem, hp, hfirst⟩
    obtain ⟨found, hfound⟩ : ∃ found, texts.find? p = some found :=
      Option.isSome_iff_exists.mp (List.find?_isSome.mpr ⟨text, hmem, hp⟩)
    have hnot := hleast hfound text hmem hp
    have hnot' := hfirst found (List.mem_of_find?_eq_some hfound) (List.find?_some hfound)
    rw [hfound, le_antisymm (not_lt.mp hnot) (not_lt.mp hnot')]

end NodeVolumes.Text
