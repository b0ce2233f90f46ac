import NodeVolumes.Text.ShellWord

/-!
# Shell words read back

A word that was quoted is read back wherever it stands in a line (`splitFrom_quoteChars`), so a
line is split into the words that it was joined from (`split_join`), and lines of different words
differ.

No colon stands bare in such a line.  The line is therefore still told apart when a text with a
bare colon follows it (`beforeColon_join`).
-/

namespace NodeVolumes.Text.ShellWord

/-! ## Words -/

theorem ne_of_isSafe {c other : Char} (h : isSafe c = true) (hother : isSafe other = false) :
    c ≠ other := by
  rintro rfl
  cases h.symm.trans hother

theorem splitFrom_of_isSafe {c : Char} (h : isSafe c = true) (word : Option (List Char))
    (rest : List Char) :
    splitFrom .plain word (c :: rest) = splitFrom .plain (some (c :: word.getD [])) rest := by
  have hspace : c ≠ ' ' := ne_of_isSafe h (by decide)
  have hquote : c ≠ '\'' := ne_of_isSafe h (by decide)
  have hslash : c ≠ '\\' := ne_of_isSafe h (by decide)
  simp [splitFrom, hspace, hquote, hslash, isSpecial, h]

theorem splitFrom_safe {word : List Char} (h : word.all isSafe = true) (read rest : List Char) :
    splitFrom .plain (some read) (word ++ rest) =
      splitFrom .plain (some (word.reverse ++ read)) rest := by
  induction word generalizing read with
  | nil => rfl
  | cons c word ih =>
      rw [List.all_cons, Bool.and_eq_true] at h
      rw [List.cons_append, splitFrom_of_isSafe h.1, ih h.2]
      simp

/-- From inside the quotes a word is read up to the quote that ends it. -/
theorem splitFrom_quoteBody (word read rest : List Char) :
    splitFrom .quoted (some read) (quoteBody word ++ '\'' :: rest) =
      splitFrom .plain (some (word.reverse ++ read)) rest := by
  induction word generalizing read with
  | nil => rfl
  | cons c word ih =>
      have hread := ih (c :: read)
      rw [quoteBody]
      by_cases hleaves : c = '\'' ∨ c = '!'
      · -- the quotes end, the character follows behind a backslash, and quotes start again
        have hline : c ≠ '\n' := by
          rcases hleaves with rfl | rfl <;> decide
        rw [if_pos hleaves]
        simpa [splitFrom, hline] using hread
      · have hquote : c ≠ '\'' := fun hc => hleaves (.inl hc)
        rw [if_neg hleaves]
        simpa [splitFrom, hquote] using hread

/-- A quoted word is read as that word, whatever follows it. -/
theorem splitFrom_quoteChars (word rest : List Char) :
    splitFrom .plain none (quoteChars word ++ rest) = splitFrom .plain (some word.reverse) rest := by
  rw [quoteChars]
  by_cases hbare : word ≠ [] ∧ word.all isSafe = true
  · rw [if_pos hbare]
    obtain ⟨c, word, rfl⟩ := List.exists_cons_of_ne_nil hbare.1
    have hsafe := hbare.2
    rw [List.all_cons, Bool.and_eq_true] at hsafe
    rw [List.cons_append, splitFrom_of_isSafe hsafe.1, splitFrom_safe hsafe.2]
    simp
  · rw [if_neg hbare]
    have hread := splitFrom_quoteBody word [] rest
    simpa [splitFrom] using hread

theorem quote_of_safe {word : String} (hne : word ≠ "") (h : word.toList.all isSafe = true) :
    quote word = word := by
  have hchars : word.toList ≠ [] := by simpa using hne
  rw [quote, quoteChars, if_pos ⟨hchars, h⟩, String.ofList_toList]

/-! ## Lines -/

theorem join_singleton (word : String) : join [word] = quote word := by
  simp [join]

theorem join_cons_cons (word next : String) (more : List String) :
    join (word :: next :: more) = quote word ++ " " ++ join (next :: more) := by
  simp [join, String.intercalate_cons_cons]

theorem join_append {words more : List String} (hwords : words ≠ []) (hmore : more ≠ []) :
    join (words ++ more) = join words ++ " " ++ join more := by
  simp [join, String.intercalate_append_of_ne_nil, hwords, hmore]

theorem splitFrom_join (words : List String) :
    splitFrom .plain none (join words).toList = some (words.map String.toList) := by
  induction words with
  | nil => rfl
  | cons word rest ih =>
      cases rest with
      | nil =>
          have hread := splitFrom_quoteChars word.toList []
          simpa [join_singleton, quote, splitFrom] using hread
      | cons next more =>
          have hread := splitFrom_quoteChars word.toList (' ' :: (join (next :: more)).toList)
          have hline : (join (word :: next :: more)).toList =
              quoteChars word.toList ++ ' ' :: (join (next :: more)).toList := by
            simp [join_cons_cons, quote]
          rw [hline, hread, splitFrom, if_pos rfl, ih]
          simp

/-- A line of words is split into those words. -/
theorem split_join (words : List String) : split (join words) = some words := by
  rw [split, splitFrom_join]
  simp [Function.comp_def]

theorem join_injective {words words' : List String} (h : join words = join words') :
    words = words' := by
  have hsplit := split_join words
  rw [h, split_join] at hsplit
  exact (Option.some.inj hsplit).symm

/-! ## Bare colons -/

def beforeColon : Mode → List Char → List Char
  | _, [] => []
  | .plain, c :: rest =>
      if c = ':' then []
      else if c = '\'' then c :: beforeColon .quoted rest
      else if c = '\\' then c :: beforeColon .escaped rest
      else c :: beforeColon .plain rest
  | .escaped, c :: rest => c :: beforeColon .plain rest
  | .quoted, c :: rest => c :: beforeColon (if c = '\'' then .plain else .quoted) rest

theorem beforeColon_safe {word : List Char} (h : word.all isSafe = true) (rest : List Char) :
    beforeColon .plain (word ++ rest) = word ++ beforeColon .plain rest := by
  induction word with
  | nil => rfl
  | cons c word ih =>
      rw [List.all_cons, Bool.and_eq_true] at h
      have hcolon : c ≠ ':' := ne_of_isSafe h.1 (by decide)
      have hquote : c ≠ '\'' := ne_of_isSafe h.1 (by decide)
      have hslash : c ≠ '\\' := ne_of_isSafe h.1 (by decide)
      simp [beforeColon, hcolon, hquote, hslash, ih h.2]

theorem beforeColon_quoteBody (word rest : List Char) :
    beforeColon .quoted (quoteBody word ++ '\'' :: rest) =
      quoteBody word ++ '\'' :: beforeColon .plain rest := by
  induction word with
  | nil => rfl
  | cons c word ih =>
      rw [quoteBody]
      by_cases hleaves : c = '\'' ∨ c = '!'
      · rw [if_pos hleaves]
        simp [beforeColon, ih]
      · have hquote : c ≠ '\'' := fun hc => hleaves (.inl hc)
        rw [if_neg hleaves]
        simp [beforeColon, hquote, ih]

theorem beforeColon_quoteChars (word rest : List Char) :
    beforeColon .plain (quoteChars word ++ rest) = quoteChars word ++ beforeColon .plain rest := by
  rw [quoteChars]
  by_cases hbare : word ≠ [] ∧ word.all isSafe = true
  · rw [if_pos hbare, beforeColon_safe hbare.2]
  · have hread := beforeColon_quoteBody word rest
    rw [if_neg hbare]
    simpa [beforeColon] using hread

/-- A line of words stands in front of the first bare colon as a whole. -/
theorem beforeColon_join (words : List String) (rest : List Char) :
    beforeColon .plain ((join words).toList ++ rest) =
      (join words).toList ++ beforeColon .plain rest := by
  induction words with
  | nil => rfl
  | cons word more ih =>
      cases more with
      | nil => simp [join_singleton, quote, beforeColon_quoteChars]
      | cons next more =>
          have hblank (rest : List Char) :
              beforeColon .plain (' ' :: rest) = ' ' :: beforeColon .plain rest := rfl
          simp [join_cons_cons, quote, beforeColon_quoteChars, hblank, ih]

end NodeVolumes.Text.ShellWord
