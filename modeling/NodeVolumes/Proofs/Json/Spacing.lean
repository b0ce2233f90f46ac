import NodeVolumes.Proofs.Json.Numbers

/-!
# Spaces between tokens

A text without its spaces outside of strings is read as the text with them, if that is read at all
(`members_squeezed`).  What has to be shown is that a reader that has succeeded succeeds again on
what is left of its text (`Squeezes`): a number still ends where it ended, since what follows it in
an array or an object stops it, and the loops have fuel enough for a text that is shorter.
-/

namespace NodeVolumes.Json

variable {α : Type} {c c' d start : Cursor} {ch : Char} {rest : List Char} {first : Bool}

/-- A reader reads the same once the spaces are gone, and ends where it ended. -/
def Squeezes (reader : Reader α) (c : Cursor) (a : α) (c' : Cursor) : Prop :=
  ∀ d : Cursor, d.rest = squeeze c.rest →
    ∃ d', reader d = .ok (a, d') ∧ d'.rest = squeeze c'.rest ∧ d'.rest <:+ d.rest

/-- A reader reads the same once the spaces are gone, if what follows stops a number. -/
def Steady (reader : Reader α) : Prop :=
  ∀ c a c', reader c = .ok (a, c') → Stops (squeeze c'.rest) → Squeezes reader c a c'

/-! ## Tokens -/

theorem advance_squeezed (head : c.rest = ch :: rest) (plain : IsPlain ch)
    (hd : d.rest = squeeze c.rest) :
    d.rest = ch :: squeeze rest ∧ d.advance.rest = squeeze c.advance.rest := by
  rw [head, squeeze_plain plain] at hd
  exact ⟨hd, by rw [rest_advance hd, rest_advance head]⟩

theorem advance_suffix (head : c.rest = ch :: rest) : c.advance.rest <:+ c.rest := by
  rw [rest_advance head, head]
  exact List.suffix_cons _ _

theorem length_advance (head : c.rest = ch :: rest) :
    c.advance.rest.length + 1 = c.rest.length := by
  rw [rest_advance head, head, List.length_cons]

theorem letters_squeezed {ls : List Char} (plain : ∀ l ∈ ls, IsPlain l)
    (h : letters ls c = .ok c') (hd : d.rest = squeeze c.rest) :
    ∃ d', letters ls d = .ok d' ∧ d'.rest = squeeze c'.rest ∧ d'.rest <:+ d.rest := by
  induction ls generalizing c d with
  | nil =>
      cases h
      exact ⟨d, rfl, hd, List.suffix_rfl⟩
  | cons l more ih =>
      rw [letters] at h
      split at h
      · cases h
      · rename_i ch rest head
        split at h
        · rename_i hl
          subst hl
          obtain ⟨hrest, hadvance⟩ := advance_squeezed head (plain ch List.mem_cons_self) hd
          obtain ⟨d', hread, htail, hsuffix⟩ :=
            ih (fun l hl => plain l (List.mem_cons_of_mem _ hl)) h hadvance
          refine ⟨d', ?_, htail, hsuffix.trans (advance_suffix hrest)⟩
          rw [letters, hrest]
          exact (if_pos rfl).trans hread
        · cases h

theorem word_squeezed {ls : List Char} (plain : ∀ l ∈ ch :: ls, IsPlain l)
    (head : c.rest = ch :: rest) (read : letters ls c.advance = .ok c')
    (hd : d.rest = squeeze c.rest) :
    ∃ d', d.rest = ch :: squeeze rest ∧ letters ls d.advance = .ok d' ∧
      d'.rest = squeeze c'.rest ∧ d'.rest <:+ d.rest := by
  obtain ⟨hrest, hadvance⟩ := advance_squeezed head (plain ch List.mem_cons_self) hd
  obtain ⟨d', hread, hd', hsuffix⟩ :=
    letters_squeezed (fun l hl => plain l (List.mem_cons_of_mem ch hl)) read hadvance
  exact ⟨d', hrest, hread, hd', hsuffix.trans (advance_suffix hrest)⟩

theorem squeezes_readString {s : String} (head : c.rest = '"' :: rest)
    (h : readString c = .ok (s, c')) : Squeezes readString c s c' := by
  intro d hd
  rw [readString, head] at h
  obtain ⟨text, hrest, hkept, hread⟩ := readAgain_of_stringFrom h
  have hquoted : d.rest = '"' :: (text ++ squeeze c'.rest) := by
    rw [hd, head, squeeze_quote, ← hkept, ← hrest]
    rfl
  obtain ⟨line', column', hagain⟩ := hread d.line (d.column + 1) (squeeze c'.rest)
  refine ⟨⟨line', column', squeeze c'.rest⟩, ?_, rfl, ?_⟩
  · rw [readString, hquoted]
    exact hagain
  · rw [hquoted]
    exact (List.suffix_append _ _).trans (List.suffix_cons _ _)

theorem ReadsPlain.squeezes {reader : Reader α} {a : α} (h : ReadsPlain reader c a c')
    (stops : Stops (squeeze c'.rest)) : Squeezes reader c a c' := by
  intro d hd
  obtain ⟨text, hrest, plain, hagain⟩ := h
  rw [hrest, squeeze_append plain] at hd
  obtain ⟨d', hread, htail⟩ := hagain d (squeeze c'.rest) hd stops
  refine ⟨d', hread, htail, ?_⟩
  rw [htail, hd]
  exact List.suffix_append _ _

theorem pass_squeezed (head : c.skipSpace.rest = ch :: rest) (plain : IsPlain ch)
    (hd : d.rest = squeeze c.rest) :
    d.skipSpace.rest = ch :: squeeze rest ∧
      d.skipSpace.advance.rest = squeeze c.skipSpace.advance.rest ∧
      d.skipSpace.advance.rest <:+ d.rest := by
  rw [skipSpace_of_squeezed hd]
  rw [← squeeze_skipSpace] at hd
  obtain ⟨hrest, hadvance⟩ := advance_squeezed head plain hd
  exact ⟨hrest, hadvance, advance_suffix hrest⟩

theorem colon_eq_ok_iff :
    colon c = .ok c' ↔ ∃ rest, c.skipSpace.rest = ':' :: rest ∧ c' = c.skipSpace.advance := by
  unfold colon
  dsimp only
  cases hc : c.skipSpace.rest <;> grind [Cursor.faultNext]

theorem colon_squeezed (h : colon c = .ok c') (hd : d.rest = squeeze c.rest) :
    ∃ d', colon d = .ok d' ∧ d'.rest = squeeze c'.rest ∧ d'.rest <:+ d.rest := by
  obtain ⟨rest, head, rfl⟩ := colon_eq_ok_iff.mp h
  obtain ⟨hrest, hadvance, hsuffix⟩ := pass_squeezed head (by decide) hd
  exact ⟨_, colon_eq_ok_iff.mpr ⟨_, hrest, rfl⟩, hadvance, hsuffix⟩

theorem stops_squeeze (head : c.skipSpace.rest = ch :: rest) (plain : IsPlain ch)
    (stops : ch.isDigit = false ∧ ch ≠ '.' ∧ ch ≠ 'e' ∧ ch ≠ 'E') : Stops (squeeze c.rest) := by
  rw [← squeeze_skipSpace, head, squeeze_plain plain]
  intro x hx
  cases hx
  exact stops

theorem exists_squeeze_cons (h : Cursor.isSpace ch = false) (rest : List Char) :
    ∃ tail, squeeze (ch :: rest) = ch :: tail := by
  by_cases hquote : ch = '"'
  · subst hquote
    exact ⟨_, squeeze_quote rest⟩
  · exact ⟨_, squeeze_plain ⟨h, hquote⟩ rest⟩

/-! ## Arrays and objects -/

/-- Where an item or a member starts: behind the comma that stands before any but the first. -/
def Reaches (first : Bool) (c start : Cursor) : Prop :=
  if first then start = c.skipSpace
  else ∃ rest, c.skipSpace.rest = ',' :: rest ∧ start = c.skipSpace.advance.skipSpace

theorem Reaches.squeezed (h : Reaches first c start) (hd : d.rest = squeeze c.rest) :
    ∃ start', Reaches first d start' ∧ start'.rest = squeeze start.rest ∧
      d.rest = (if first then [] else [',']) ++ start'.rest := by
  have hspace := skipSpace_of_squeezed hd
  cases first with
  | true =>
      obtain rfl : start = c.skipSpace := h
      exact ⟨d, hspace.symm, hd.trans (squeeze_skipSpace c).symm, rfl⟩
  | false =>
      obtain ⟨rest, head, rfl⟩ := h
      rw [← squeeze_skipSpace] at hd
      obtain ⟨hrest, hadvance⟩ := advance_squeezed head (by decide) hd
      have hstart := skipSpace_of_squeezed hadvance
      refine ⟨d.advance, ⟨squeeze rest, ?_, ?_⟩, ?_, ?_⟩
      · rw [hspace, hrest]
      · rw [hspace, hstart]
      · rw [squeeze_skipSpace, hadvance]
      · rw [rest_advance hrest, hrest]
        rfl

theorem Reaches.head_squeezed (h : Reaches first c start) (head : start.rest = ch :: rest) :
    ∃ tail, squeeze start.rest = ch :: tail := by
  have hspace : Cursor.isSpace ch = false := by
    cases first with
    | true =>
        obtain rfl : start = c.skipSpace := h
        exact isSpace_skipSpaceFrom head
    | false =>
        obtain ⟨before, hcomma, rfl⟩ := h
        exact isSpace_skipSpaceFrom head
  rw [head]
  exact exists_squeeze_cons hspace rest

theorem nextMember_eq_true_iff :
    nextMember first c = .ok (true, start) ↔
      Reaches first c start ∧ ∃ rest, start.rest = '"' :: rest := by
  unfold nextMember Reaches
  dsimp only
  cases hc : c.skipSpace.rest with
  | nil => cases first <;> grind [Cursor.faultNext]
  | cons ch rest => cases first <;> grind [Cursor.faultNext]

theorem nextMember_eq_false_iff :
    nextMember first c = .ok (false, c') ↔
      ∃ rest, c.skipSpace.rest = '\x7d' :: rest ∧ c' = c.skipSpace.advance := by
  unfold nextMember
  dsimp only
  cases hc : c.skipSpace.rest with
  | nil => cases first <;> grind [Cursor.faultNext]
  | cons ch rest => cases first <;> grind [Cursor.faultNext]

theorem itemThen_eq_ok_iff (item : Reader α) (fuel : Nat) (found : List α) (start c' : Cursor) :
    (do
      let (value, c) ← item start
      let (values, c) ← itemLoop item fuel false c
      return (value :: values, c)) = Except.ok (found, c') ↔
        ∃ value c₁ values, item start = .ok (value, c₁) ∧
          itemLoop item fuel false c₁ = .ok (values, c') ∧ found = value :: values := by
  rw [bind_eq_ok_iff]
  constructor
  · rintro ⟨⟨value, c₁⟩, hvalue, h⟩
    obtain ⟨⟨values, c₂⟩, hvalues, h⟩ := exists_of_bind_eq_ok h
    cases h
    exact ⟨value, c₁, values, hvalue, hvalues, rfl⟩
  · rintro ⟨value, c₁, values, hvalue, hvalues, rfl⟩
    exact ⟨_, hvalue, bind_eq_ok_iff.mpr ⟨_, hvalues, rfl⟩⟩

/-- The loop over items ends at a bracket, or reads one item more. -/
theorem itemLoop_succ_eq_ok_iff {item : Reader α} {fuel : Nat} {found : List α} :
    itemLoop item (fuel + 1) first c = .ok (found, c') ↔
      (∃ rest, c.skipSpace.rest = ']' :: rest ∧ c' = c.skipSpace.advance ∧ found = []) ∨
        ∃ start, Reaches first c start ∧ (∃ ch rest, start.rest = ch :: rest ∧ ch ≠ ']') ∧
          ∃ value c₁ values, item start = .ok (value, c₁) ∧
            itemLoop item fuel false c₁ = .ok (values, c') ∧ found = value :: values := by
  have hitem := itemThen_eq_ok_iff item fuel found
  rw [itemLoop]
  unfold Reaches
  dsimp only
  cases hc : c.skipSpace.rest with
  | nil => cases first <;> grind [Cursor.faultNext]
  | cons ch rest =>
      cases hnext : c.skipSpace.advance.skipSpace.rest <;> cases first <;>
        grind [Cursor.faultNext]

theorem stops_of_itemLoop {item : Reader α} {fuel : Nat} {found : List α}
    (h : itemLoop item fuel false c = .ok (found, c')) : Stops (squeeze c.rest) := by
  cases fuel with
  | zero => cases h
  | succ fuel =>
      rcases itemLoop_succ_eq_ok_iff.mp h with ⟨rest, head, -⟩ | ⟨start, ⟨rest, head, -⟩, -⟩
      · exact stops_squeeze head (by decide) (by decide)
      · exact stops_squeeze head (by decide) (by decide)

theorem itemLoop_squeezed {item : Reader α} (steady : Steady item) {fuel fuel' : Nat}
    {found : List α} (h : itemLoop item fuel first c = .ok (found, c'))
    (hd : d.rest = squeeze c.rest) (room : d.rest.length + (if first then 2 else 1) ≤ fuel') :
    ∃ d', itemLoop item fuel' first d = .ok (found, d') ∧ d'.rest = squeeze c'.rest ∧
      d'.rest <:+ d.rest := by
  induction fuel generalizing first c d found fuel' with
  | zero => cases h
  | succ fuel ih =>
      obtain ⟨fuel', rfl⟩ : ∃ n, fuel' = n + 1 := ⟨fuel' - 1, by grind⟩
      rcases itemLoop_succ_eq_ok_iff.mp h with ⟨rest, head, rfl, rfl⟩ |
        ⟨start, reaches, ⟨ch, rest, head, hch⟩, value, c₁, values, hvalue, hvalues, rfl⟩
      · obtain ⟨hrest, hadvance, hsuffix⟩ := pass_squeezed head (by decide) hd
        exact ⟨_, itemLoop_succ_eq_ok_iff.mpr (.inl ⟨_, hrest, rfl, rfl⟩), hadvance, hsuffix⟩
      · obtain ⟨start', reaches', hstart, hcomma⟩ := reaches.squeezed hd
        obtain ⟨tail, htail⟩ := reaches.head_squeezed head
        obtain ⟨d₁, hitem, hd₁, hsuffix₁⟩ :=
          steady start value c₁ hvalue (stops_of_itemLoop hvalues) start' hstart
        have hroom : d₁.rest.length + 1 ≤ fuel' := by
          have hlength := congrArg List.length hcomma
          have hshorter := hsuffix₁.length_le
          cases first <;> grind
        obtain ⟨d', hloop, hd', hsuffix'⟩ := ih hvalues hd₁ hroom
        refine ⟨d', itemLoop_succ_eq_ok_iff.mpr (.inr ⟨start', reaches', ⟨ch, tail, ?_, hch⟩, value,
          d₁, values, hitem, hloop, rfl⟩), hd', ?_⟩
        · rw [hstart, htail]
        · rw [hcomma]
          exact (hsuffix'.trans hsuffix₁).trans (List.suffix_append _ _)

theorem stops_of_memberLoop {member : String → Reader α} {fuel : Nat} {found : List (String × α)}
    (h : memberLoop member fuel false c = .ok (found, c')) : Stops (squeeze c.rest) := by
  cases fuel with
  | zero => cases h
  | succ fuel =>
      rcases memberLoop_succ_eq_ok_iff.mp h with ⟨hend, -⟩ | ⟨start, _, _, _, _, _, _, hnext, -⟩
      · obtain ⟨rest, head, -⟩ := nextMember_eq_false_iff.mp hend
        exact stops_squeeze head (by decide) (by decide)
      · obtain ⟨⟨rest, head, -⟩, -⟩ := nextMember_eq_true_iff.mp hnext
        exact stops_squeeze head (by decide) (by decide)

theorem memberLoop_squeezed {member : String → Reader α} (steady : ∀ name, Steady (member name))
    {fuel fuel' : Nat} {found : List (String × α)}
    (h : memberLoop member fuel first c = .ok (found, c'))
    (hd : d.rest = squeeze c.rest) (room : d.rest.length + (if first then 2 else 1) ≤ fuel') :
    ∃ d', memberLoop member fuel' first d = .ok (found, d') ∧ d'.rest = squeeze c'.rest ∧
      d'.rest <:+ d.rest := by
  induction fuel generalizing first c d found fuel' with
  | zero => cases h
  | succ fuel ih =>
      obtain ⟨fuel', rfl⟩ : ∃ n, fuel' = n + 1 := ⟨fuel' - 1, by grind⟩
      rcases memberLoop_succ_eq_ok_iff.mp h with ⟨hend, rfl⟩ |
        ⟨start, name, c₁, c₂, value, c₃, more, hnext, hname, hcolon, hvalue, hmore, rfl⟩
      · obtain ⟨rest, head, rfl⟩ := nextMember_eq_false_iff.mp hend
        obtain ⟨hrest, hadvance, hsuffix⟩ := pass_squeezed head (by decide) hd
        have hend' : nextMember first d = .ok (false, d.skipSpace.advance) :=
          nextMember_eq_false_iff.mpr ⟨_, hrest, rfl⟩
        exact ⟨_, memberLoop_succ_eq_ok_iff.mpr (.inl ⟨hend', rfl⟩), hadvance, hsuffix⟩
      · obtain ⟨reaches, rest, head⟩ := nextMember_eq_true_iff.mp hnext
        obtain ⟨start', reaches', hstart, hcomma⟩ := reaches.squeezed hd
        obtain ⟨tail, htail⟩ := reaches.head_squeezed head
        have hnext' := nextMember_eq_true_iff.mpr ⟨reaches', tail, hstart.trans htail⟩
        obtain ⟨d₁, hname', hd₁, hsuffix₁⟩ := squeezes_readString head hname start' hstart
        obtain ⟨d₂, hcolon', hd₂, hsuffix₂⟩ := colon_squeezed hcolon hd₁
        obtain ⟨d₃, hvalue', hd₃, hsuffix₃⟩ :=
          steady name c₂ value c₃ hvalue (stops_of_memberLoop hmore) d₂ hd₂
        have hsuffix : d₃.rest <:+ start'.rest := (hsuffix₃.trans hsuffix₂).trans hsuffix₁
        have hroom : d₃.rest.length + 1 ≤ fuel' := by
          have hlength := congrArg List.length hcomma
          have hshorter := hsuffix.length_le
          cases first <;> grind
        obtain ⟨d', hloop, hd', hsuffix'⟩ := ih hmore hd₃ hroom
        refine ⟨d', memberLoop_succ_eq_ok_iff.mpr (.inr ⟨start', name, d₁, d₂, value, d₃, more,
          hnext', hname', hcolon', hvalue', hloop, rfl⟩), hd', ?_⟩
        rw [hcomma]
        exact (hsuffix'.trans hsuffix).trans (List.suffix_append _ _)

theorem squeezes_readItems {item : Reader α} (steady : Steady item) {found : List α}
    (head : c.rest = '[' :: rest) (h : readItems item c = .ok (found, c')) :
    Squeezes (readItems item) c found c' := by
  intro d hd
  obtain ⟨hrest, hadvance⟩ := advance_squeezed head (by decide) hd
  have hroom : d.advance.rest.length + 2 ≤ d.rest.length + 1 :=
    Nat.succ_le_succ (Nat.le_of_eq (length_advance hrest))
  obtain ⟨d', hloop, hd', hsuffix⟩ := itemLoop_squeezed steady h hadvance hroom
  exact ⟨d', hloop, hd', hsuffix.trans (advance_suffix hrest)⟩

theorem squeezes_readMembers {member : String → Reader α} (steady : ∀ name, Steady (member name))
    {found : List (String × α)} (head : c.rest = '\x7b' :: rest)
    (h : readMembers member c = .ok (found, c')) : Squeezes (readMembers member) c found c' := by
  intro d hd
  obtain ⟨hrest, hadvance⟩ := advance_squeezed head (by decide) hd
  have hroom : d.advance.rest.length + 2 ≤ d.rest.length + 1 :=
    Nat.succ_le_succ (Nat.le_of_eq (length_advance hrest))
  obtain ⟨d', hloop, hd', hsuffix⟩ := memberLoop_squeezed steady h hadvance hroom
  exact ⟨d', hloop, hd', hsuffix.trans (advance_suffix hrest)⟩

/-! ## Values -/

theorem valueAt_squeezed {levels : Nat} {v : Json}
    (steady : ∀ inner, levels = inner + 1 → Steady (readValue inner))
    (h : ValueAt levels c v c') (stops : Stops (squeeze c'.rest)) (hd : d.rest = squeeze c.rest) :
    ∃ d', ValueAt levels d v d' ∧ d'.rest = squeeze c'.rest ∧ d'.rest <:+ d.rest := by
  cases h with
  | null head read =>
      have hplain : ∀ l ∈ ['n', 'u', 'l', 'l'], IsPlain l := by simp [IsPlain, Cursor.isSpace]
      obtain ⟨d', hrest, hread, hd', hsuffix⟩ := word_squeezed hplain head read hd
      exact ⟨d', .null hrest hread, hd', hsuffix⟩
  | true head read =>
      have hplain : ∀ l ∈ ['t', 'r', 'u', 'e'], IsPlain l := by simp [IsPlain, Cursor.isSpace]
      obtain ⟨d', hrest, hread, hd', hsuffix⟩ := word_squeezed hplain head read hd
      exact ⟨d', .true hrest hread, hd', hsuffix⟩
  | false head read =>
      have hplain : ∀ l ∈ ['f', 'a', 'l', 's', 'e'], IsPlain l := by simp [IsPlain, Cursor.isSpace]
      obtain ⟨d', hrest, hread, hd', hsuffix⟩ := word_squeezed hplain head read hd
      exact ⟨d', .false hrest hread, hd', hsuffix⟩
  | string head read =>
      obtain ⟨d', hread, hd', hsuffix⟩ := squeezes_readString head read d hd
      rw [head, squeeze_quote] at hd
      exact ⟨d', .string hd hread, hd', hsuffix⟩
  | negative head read =>
      obtain ⟨hrest, hadvance⟩ := advance_squeezed head (by decide) hd
      obtain ⟨d', hread, hd', hsuffix⟩ :=
        (readsPlain_readNumber read).squeezes stops d.advance hadvance
      exact ⟨d', .negative hrest hread, hd', hsuffix.trans (advance_suffix hrest)⟩
  | number head digit read =>
      obtain ⟨d', hread, hd', hsuffix⟩ := (readsPlain_readNumber read).squeezes stops d hd
      rw [head, squeeze_plain (isPlain_of_isDigit digit)] at hd
      exact ⟨d', .number hd digit hread, hd', hsuffix⟩
  | array head read =>
      obtain ⟨d', hread, hd', hsuffix⟩ := squeezes_readItems (steady _ rfl) head read d hd
      rw [head, squeeze_plain (by decide)] at hd
      exact ⟨d', .array hd hread, hd', hsuffix⟩
  | object head read =>
      obtain ⟨d', hread, hd', hsuffix⟩ :=
        squeezes_readMembers (fun _ => steady _ rfl) head read d hd
      rw [head, squeeze_plain (by decide)] at hd
      exact ⟨d', .object hd hread, hd', hsuffix⟩

theorem steady_readValue (levels : Nat) : Steady (readValue levels) := by
  induction levels using Nat.strongRecOn with
  | ind levels ih =>
    intro c v c' h stops d hd
    have hspaced : d.rest = squeeze c.skipSpace.rest := hd.trans (squeeze_skipSpace c).symm
    obtain ⟨d', hvalue, hd', hsuffix⟩ := valueAt_squeezed
      (fun inner hinner => ih inner (by omega)) (readValue_eq_ok_iff.mp h) stops hspaced
    refine ⟨d', readValue_eq_ok_iff.mpr ?_, hd', hsuffix⟩
    rwa [skipSpace_of_squeezed hd]

/-- What is read of a text is read of it without its spaces. -/
theorem members_squeezed {s : String} {ms : List (String × Json)} (h : members s = .ok ms) :
    members (squeezed s) = .ok ms := by
  obtain ⟨c, hread, hend⟩ := readAll_eq_ok_iff.mp h
  obtain ⟨rest, head, hmembers⟩ := objectAt_eq_ok_iff.mp hread
  have htext : (Cursor.ofText (squeezed s)).rest = squeeze (Cursor.ofText s).rest := by
    simp [Cursor.ofText, squeezed]
  have hspaced : (Cursor.ofText (squeezed s)).rest = squeeze (Cursor.ofText s).skipSpace.rest :=
    htext.trans (squeeze_skipSpace _).symm
  obtain ⟨d, hsqueezed, hd, -⟩ :=
    squeezes_readMembers (fun _ => steady_readValue _) head hmembers _ hspaced
  have hempty : d.rest = [] := by rw [hd, ← squeeze_skipSpace, hend]; rfl
  refine readAll_eq_ok_iff.mpr ⟨d, objectAt_eq_ok_iff.mpr ⟨squeeze rest, ?_, ?_⟩, ?_⟩
  · rw [skipSpace_of_squeezed htext, hspaced, head, squeeze_plain (by decide)]
  · rwa [skipSpace_of_squeezed htext]
  · rw [Cursor.skipSpace, hempty]
    rfl

end NodeVolumes.Json
