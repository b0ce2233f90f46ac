import NodeVolumes.Text.Blank

/-!
# Pieces, lines and words of texts put together

A text that is put together from pieces with separators between them has those pieces.  So lines
written one after the other are the lines of the text (`lines_append_line`), and words with blanks
between them are its words (`words_intercalate`).
-/

namespace NodeVolumes.Text

section Pieces

variable {sep : Char → Bool}

theorem pieces_of_none {cs : List Char} (h : ∀ c ∈ cs, sep c = false) : pieces sep cs = [cs] := by
  induction cs with
  | nil => rfl
  | cons c rest ih =>
      have hc := h c List.mem_cons_self
      have hrest := ih fun d hd => h d (List.mem_cons_of_mem c hd)
      simp [pieces, hc, hrest]

theorem pieces_append_cons {c : Char} (hc : sep c = true) (front rest : List Char) :
    pieces sep (front ++ c :: rest) = pieces sep front ++ pieces sep rest := by
  induction front with
  | nil => simp [pieces, hc]
  | cons d more ih =>
      by_cases hd : sep d = true
      · simp [pieces, hd, ih]
      · cases hp : pieces sep more with
        | nil => exact absurd hp (pieces_ne_nil sep more)
        | cons piece others => simp [pieces, hd, ih, hp]

theorem sep_eq_false_of_mem_pieces {cs piece : List Char} (h : piece ∈ pieces sep cs) :
    ∀ c ∈ piece, sep c = false := by
  induction cs generalizing piece with
  | nil =>
      rw [pieces, List.mem_singleton] at h
      simp [h]
  | cons d rest ih =>
      unfold pieces at h
      by_cases hd : sep d = true
      · rw [if_pos hd] at h
        rcases List.mem_cons.mp h with rfl | h
        · simp
        · exact ih h
      · rw [if_neg hd] at h
        cases hp : pieces sep rest with
        | nil => exact absurd hp (pieces_ne_nil sep rest)
        | cons first others =>
            simp only [hp] at h ih
            rcases List.mem_cons.mp h with rfl | h
            · have hfirst := ih List.mem_cons_self
              intro c hc
              rcases List.mem_cons.mp hc with rfl | hc
              · simpa using hd
              · exact hfirst c hc
            · exact ih (List.mem_cons_of_mem first h)

/-- What is no separator stands in a piece. -/
theorem exists_piece_of_mem {cs : List Char} {c : Char} (hmem : c ∈ cs) (hc : sep c = false) :
    ∃ piece ∈ pieces sep cs, c ∈ piece := by
  induction cs with
  | nil => cases hmem
  | cons d rest ih =>
      by_cases hd : sep d = true
      · have hrest : c ∈ rest := by
          rcases List.mem_cons.mp hmem with rfl | hrest
          · rw [hd] at hc
            cases hc
          · exact hrest
        obtain ⟨piece, hpiece, hin⟩ := ih hrest
        exact ⟨piece, by simp [pieces, hd, hpiece], hin⟩
      · cases hp : pieces sep rest with
        | nil => exact absurd hp (pieces_ne_nil sep rest)
        | cons first others =>
            rcases List.mem_cons.mp hmem with rfl | hrest
            · exact ⟨c :: first, by simp [pieces, hd, hp], List.mem_cons_self⟩
            · obtain ⟨piece, hpiece, hin⟩ := ih hrest
              rw [hp] at hpiece
              rcases List.mem_cons.mp hpiece with rfl | hlater
              · exact ⟨d :: piece, by simp [pieces, hd, hp], List.mem_cons_of_mem d hin⟩
              · exact ⟨piece, by simp [pieces, hd, hp, hlater], hin⟩

end Pieces

/-! ## Lines -/

/-- A line as it is read: without a carriage return at its end. -/
def readLine (line : String) : String :=
  String.ofList (dropReturn line.toList)

theorem lineChars_append_newline {front : List Char} (h : '\n' ∉ front) (rest : List Char) :
    lineChars (front ++ '\n' :: rest) = dropReturn front :: lineChars rest := by
  have hone : pieces (· == '\n') front = [front] := by
    refine pieces_of_none fun c hc => ?_
    have hne : c ≠ '\n' := fun he => h (he ▸ hc)
    simpa using hne
  have hparts : pieces (· == '\n') (front ++ '\n' :: rest) =
      front :: pieces (· == '\n') rest := by
    rw [pieces_append_cons rfl front rest, hone]
    rfl
  have hrest : pieces (· == '\n') rest ≠ [] := pieces_ne_nil _ rest
  obtain ⟨last, hlast⟩ : ∃ last, (pieces (· == '\n') rest).getLast? = some last :=
    Option.isSome_iff_exists.mp (by simpa using hrest)
  have hlast' : (front :: pieces (· == '\n') rest).getLast? = some last := by
    rw [List.getLast?_cons, hlast]
    rfl
  simp only [lineChars, hparts, List.dropLast_cons_of_ne_nil hrest, hlast, hlast', List.map_cons]
  cases last <;> simp

/-- A line that is written in front of others is the first one read. -/
theorem lines_append_line {line : String} (h : '\n' ∉ line.toList) (rest : String) :
    lines (line ++ "\n" ++ rest) = readLine line :: lines rest := by
  have hchars : (line ++ "\n" ++ rest).toList = line.toList ++ '\n' :: rest.toList := by simp
  rw [lines, hchars, lineChars_append_newline h]
  rfl

theorem readLine_of_ne {line : String} (h : line.toList.getLast? ≠ some '\r') :
    readLine line = line := by
  simp [readLine, dropReturn, h]

/-! ## Words -/

/-- A text that is one word: not empty, and without blanks. -/
structure IsWord (text : String) : Prop where
  nonempty : text ≠ ""
  blankless : ∀ c ∈ text.toList, isBlank c = false

theorem isWord_iff {text : String} :
    IsWord text ↔ text ≠ "" ∧ text.toList.all (!isBlank ·) = true := by
  constructor
  · intro h
    exact ⟨h.nonempty, by simpa using h.blankless⟩
  · rintro ⟨hnonempty, hblankless⟩
    exact ⟨hnonempty, by simpa using hblankless⟩

instance (text : String) : Decidable (IsWord text) :=
  decidable_of_iff _ isWord_iff.symm

theorem IsWord.notMem {text : String} (h : IsWord text) {c : Char} (hc : isBlank c = true) :
    c ∉ text.toList := by
  intro hmem
  rw [h.blankless c hmem] at hc
  exact Bool.false_ne_true hc

theorem words_append_blank {word rest : String} (h : IsWord word) :
    words (word ++ " " ++ rest) = word :: words rest := by
  have hchars : (word ++ " " ++ rest).toList = word.toList ++ ' ' :: rest.toList := by simp
  have hpieces : pieces isBlank (word.toList ++ ' ' :: rest.toList) =
      pieces isBlank word.toList ++ pieces isBlank rest.toList :=
    pieces_append_cons (by decide) word.toList rest.toList
  have hone : pieces isBlank word.toList = [word.toList] := pieces_of_none h.blankless
  simp [words, hchars, hpieces, hone, h.nonempty]

theorem words_of_isWord {word : String} (h : IsWord word) : words word = [word] := by
  have hone : pieces isBlank word.toList = [word.toList] := pieces_of_none h.blankless
  simp [words, hone, h.nonempty]

/-- Words with single blanks between them are the words of the text. -/
theorem words_intercalate {texts : List String} (h : ∀ text ∈ texts, IsWord text) :
    words (" ".intercalate texts) = texts := by
  induction texts with
  | nil => decide
  | cons word rest ih =>
      have hword := h word List.mem_cons_self
      cases rest with
      | nil => simpa using words_of_isWord hword
      | cons next more =>
          have hrest := ih fun text htext => h text (List.mem_cons_of_mem word htext)
          rw [String.intercalate_cons_cons, words_append_blank hword, hrest]

/-- Between words there is no blank but the single ones. -/
theorem notMem_intercalate {texts : List String} (h : ∀ text ∈ texts, IsWord text) {c : Char}
    (hblank : isBlank c = true) (hc : c ≠ ' ') : c ∉ (" ".intercalate texts).toList := by
  induction texts with
  | nil => simp
  | cons word rest ih =>
      have hword := (h word List.mem_cons_self).notMem hblank
      have hrest := ih fun text htext => h text (List.mem_cons_of_mem word htext)
      cases rest with
      | nil => simpa using hword
      | cons next more =>
          rw [String.intercalate_cons_cons, String.toList_append, String.toList_append]
          simp only [List.mem_append, not_or]
          exact ⟨⟨hword, by simpa using hc⟩, hrest⟩

end NodeVolumes.Text
