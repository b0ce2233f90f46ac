import NodeVolumes.Proofs.Json.Members
import NodeVolumes.Proofs.Json.Reading

/-!
# Texts without spaces

The spaces of a text that stand outside of its strings can be taken out (`squeeze`).  A string is
read again from what is left, since nothing in it was taken out (`readAgain_of_stringFrom`).
-/

namespace NodeVolumes.Json

/-- The characters without the spaces outside of strings; a string may be open at the first one. -/
def squeezeFrom : Bool → List Char → List Char
  | _, [] => []
  | true, ['\\'] => ['\\']
  | true, '\\' :: ch :: rest => '\\' :: ch :: squeezeFrom true rest
  | true, ch :: rest => ch :: squeezeFrom (ch != '"') rest
  | false, ch :: rest =>
      if Cursor.isSpace ch then squeezeFrom false rest
      else ch :: squeezeFrom (ch == '"') rest

def squeeze (chars : List Char) : List Char :=
  squeezeFrom false chars

/-- The text without the spaces outside of its strings. -/
def squeezed (s : String) : String :=
  String.ofList (squeeze s.toList)

variable {α : Type} {c c' d : Cursor} {ch : Char} {rest : List Char}

/-! ## Squeezing -/

/-- A character that is neither a space nor opens a string. -/
def IsPlain (ch : Char) : Prop :=
  Cursor.isSpace ch = false ∧ ch ≠ '"'

instance (ch : Char) : Decidable (IsPlain ch) :=
  inferInstanceAs (Decidable (_ ∧ _))

theorem squeeze_space (h : Cursor.isSpace ch = true) (rest : List Char) :
    squeeze (ch :: rest) = squeeze rest := by
  rw [squeeze, squeezeFrom, if_pos h]
  rfl

theorem squeeze_plain (h : IsPlain ch) (rest : List Char) :
    squeeze (ch :: rest) = ch :: squeeze rest := by
  have hspace : ¬Cursor.isSpace ch = true := by simp [h.1]
  rw [squeeze, squeezeFrom, if_neg hspace, beq_false_of_ne h.2]
  rfl

theorem squeeze_quote (rest : List Char) : squeeze ('"' :: rest) = '"' :: squeezeFrom true rest :=
  rfl

theorem squeeze_append {text : List Char} (h : ∀ ch ∈ text, IsPlain ch) (rest : List Char) :
    squeeze (text ++ rest) = text ++ squeeze rest := by
  induction text with
  | nil => rfl
  | cons ch text ih =>
      have hrest := ih fun x hx => h x (List.mem_cons_of_mem ch hx)
      rw [List.cons_append, squeeze_plain (h ch List.mem_cons_self), hrest, List.cons_append]

theorem squeeze_skipSpace (c : Cursor) : squeeze c.skipSpace.rest = squeeze c.rest := by
  have hfrom : ∀ line column chars,
      squeeze (Cursor.skipSpaceFrom line column chars).rest = squeeze chars := by
    intro line column chars
    fun_induction Cursor.skipSpaceFrom line column chars with
    | case1 => rfl
    | case2 line column rest hspace ih => rw [ih, squeeze_space hspace]
    | case3 line column ch rest hspace hline ih => rw [ih, squeeze_space hspace]
    | case4 => rfl
  exact hfrom c.line c.column c.rest

theorem isSpace_of_squeeze {chars : List Char} (h : squeeze chars = ch :: rest) :
    Cursor.isSpace ch = false := by
  induction chars with
  | nil => cases h
  | cons first more ih =>
      by_cases hspace : Cursor.isSpace first = true
      · rw [squeeze_space hspace] at h
        exact ih h
      · rw [squeeze, squeezeFrom, if_neg hspace] at h
        cases h
        simpa using hspace

theorem skipSpace_of_squeezed {chars : List Char} (h : d.rest = squeeze chars) :
    d.skipSpace = d :=
  skipSpace_of_forall fun _ _ hrest => isSpace_of_squeeze (h.symm.trans hrest)

theorem rest_advance (h : c.rest = ch :: rest) : c.advance.rest = rest := by
  unfold Cursor.advance
  rw [h]
  split
  · rename_i hnil
    cases hnil
  · rename_i hline
    cases hline
    rfl
  · rename_i hother
    cases hother
    rfl

/-! ## Strings -/

theorem ne_of_hexValue? {n : Nat} (h : hexValue? ch = some n) : ch ≠ '"' ∧ ch ≠ '\\' := by
  have hquote : hexValue? '"' = none := by decide
  have hbackslash : hexValue? '\\' = none := by decide
  constructor
  · rintro rfl
    rw [hquote] at h
    cases h
  · rintro rfl
    rw [hbackslash] at h
    cases h

theorem squeezeFrom_inside (h : ch ≠ '"' ∧ ch ≠ '\\') (rest : List Char) :
    squeezeFrom true (ch :: rest) = ch :: squeezeFrom true rest := by
  rw [squeezeFrom]
  · rw [bne_iff_ne.mpr h.1]
  all_goals simp_all

theorem squeezeFrom_escape (ch : Char) (rest : List Char) :
    squeezeFrom true ('\\' :: ch :: rest) = '\\' :: ch :: squeezeFrom true rest := by
  rw [squeezeFrom]

theorem squeezeFrom_hex4 {a b c d : Char} {n : Nat} (h : hex4? a b c d = some n)
    (rest : List Char) :
    squeezeFrom true ('\\' :: 'u' :: a :: b :: c :: d :: rest) =
      '\\' :: 'u' :: a :: b :: c :: d :: squeezeFrom true rest := by
  simp only [hex4?, Option.bind_eq_bind, Option.bind_eq_some_iff] at h
  obtain ⟨w, ha, x, hb, y, hc, z, hd, -⟩ := h
  rw [squeezeFrom_escape, squeezeFrom_inside (ne_of_hexValue? ha),
    squeezeFrom_inside (ne_of_hexValue? hb), squeezeFrom_inside (ne_of_hexValue? hc),
    squeezeFrom_inside (ne_of_hexValue? hd)]

/-- What stands for one character of a string, spelled in any way. -/
structure Spells (piece : List Char) (ch : Char) : Prop where
  read : ∀ taken line column rest, ∃ column',
    stringFrom taken line column (piece ++ rest) = stringFrom (ch :: taken) line column' rest
  kept : ∀ rest, squeezeFrom true (piece ++ rest) = piece ++ squeezeFrom true rest

theorem spells_plain (hquote : ch ≠ '"') (hbackslash : ch ≠ '\\') (hcontrol : ¬ch.toNat < 0x20) :
    Spells [ch] ch :=
  ⟨fun taken line column rest =>
      ⟨_, stringFrom_plain hquote hbackslash hcontrol taken line column rest⟩,
    squeezeFrom_inside ⟨hquote, hbackslash⟩⟩

theorem spells_simple {e : Char} (h : simpleEscape? e = some ch) : Spells ['\\', e] ch :=
  ⟨fun taken line column rest => ⟨_, stringFrom_simple h taken line column rest⟩,
    squeezeFrom_escape e⟩

theorem spells_hex4 {a b c d : Char} {n : Nat} (h : hex4? a b c d = some n)
    (htrailing : ¬isTrailingSurrogate n = true) (hleading : ¬isLeadingSurrogate n = true) :
    Spells ['\\', 'u', a, b, c, d] (Char.ofNat n) := by
  refine ⟨fun taken line column rest => ⟨column + 6, ?_⟩, squeezeFrom_hex4 h⟩
  change stringFrom taken line column ('\\' :: 'u' :: a :: b :: c :: d :: rest) = _
  rw [stringFrom, h]
  simp only [htrailing, hleading, Bool.false_eq_true, if_false]

theorem spells_surrogates {a b c d e f g i : Char} {m n : Nat} (hn : hex4? a b c d = some n)
    (htrailing : ¬isTrailingSurrogate n = true) (hleading : isLeadingSurrogate n = true)
    (hm : hex4? e f g i = some m) (hpaired : isTrailingSurrogate m = true) :
    Spells ['\\', 'u', a, b, c, d, '\\', 'u', e, f, g, i] (ofSurrogates n m) := by
  refine ⟨fun taken line column rest => ⟨column + 12, ?_⟩, fun rest => ?_⟩
  · change stringFrom taken line column
      ('\\' :: 'u' :: a :: b :: c :: d :: '\\' :: 'u' :: e :: f :: g :: i :: rest) = _
    rw [stringFrom, hn]
    simp only [htrailing, hleading, Bool.false_eq_true, if_false, if_true, hm, hpaired]
  · change squeezeFrom true
      ('\\' :: 'u' :: a :: b :: c :: d :: '\\' :: 'u' :: e :: f :: g :: i :: rest) = _
    rw [squeezeFrom_hex4 hn, squeezeFrom_hex4 hm]
    rfl

/-- A string is read again, whatever follows it, and nothing in it is squeezed. -/
def ReadAgain (taken chars : List Char) (s : String) (after : List Char) : Prop :=
  ∃ text, chars = text ++ after ∧
    (∀ tail, squeezeFrom true (text ++ tail) = text ++ squeeze tail) ∧
    ∀ line column tail, ∃ line' column',
      stringFrom taken line column (text ++ tail) = .ok (s, ⟨line', column', tail⟩)

theorem Spells.readAgain {piece taken after : List Char} {s : String} (spells : Spells piece ch)
    (h : ReadAgain (ch :: taken) rest s after) : ReadAgain taken (piece ++ rest) s after := by
  obtain ⟨text, rfl, hkept, hread⟩ := h
  refine ⟨piece ++ text, (List.append_assoc _ _ _).symm, fun tail => ?_, ?_⟩
  · rw [List.append_assoc, spells.kept, hkept, List.append_assoc]
  · intro line column tail
    obtain ⟨column', hpiece⟩ := spells.read taken line column (text ++ tail)
    obtain ⟨line', column'', hrest⟩ := hread line column' tail
    exact ⟨line', column'', by rw [List.append_assoc, hpiece, hrest]⟩

theorem hexFault_ne_ok (c : Cursor) (a : α) : hexFault c ≠ .ok a := by
  unfold hexFault
  split <;> simp

theorem readAgain_of_stringFrom {taken : List Char} {line column : Nat} {chars : List Char}
    {s : String} (h : stringFrom taken line column chars = .ok (s, c')) :
    ReadAgain taken chars s c'.rest := by
  fun_induction stringFrom taken line column chars
  case case2 taken column rest =>
    cases h
    exact ⟨['"'], rfl, fun tail => rfl, fun line column tail => ⟨_, _, rfl⟩⟩
  case case9 hn htrailing hleading _ _ _ _ _ _ hm hpaired ih =>
    exact (spells_surrogates hn htrailing hleading hm hpaired).readAgain (ih h)
  case case14 hn htrailing hleading ih => exact (spells_hex4 hn htrailing hleading).readAgain (ih h)
  case case16 hsimple ih => exact (spells_simple hsimple).readAgain (ih h)
  case case19 ch rest hquote hlast _ _ hescape hcontrol ih =>
    have hbackslash : ch ≠ '\\' := by
      rintro rfl
      cases rest with
      | nil => exact hlast rfl rfl
      | cons e more => exact hescape e more rfl rfl
    exact (spells_plain hquote hbackslash hcontrol).readAgain (ih h)
  all_goals first | cases h | exact absurd h (hexFault_ne_ok _ _)

end NodeVolumes.Json
