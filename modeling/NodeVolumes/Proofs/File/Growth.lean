import NodeVolumes.Proofs.File.Listing

/-!
# Trees that grow

A tree grows if files are written in it that held something else or were not there
(`Tree.Grown`), as writing by a path does (`Tree.WellFormed.grown_put`).  A look-up ends in the
grown tree where it ended before, unless a file was made just where it had found nothing
(`grownEnd_lookup`); so directories open as before, and what stood in them still does.  A text that
was written to a path is not written anew by writing it again (`Filled`).
-/

namespace NodeVolumes.File

/-- What stands at a place of a tree, and what stands there after files were written with a text. -/
inductive GrownAt (text : String) : Option Entry → Option Entry → Prop where
  | kept (entry : Option Entry) : GrownAt text entry entry
  | made : GrownAt text none (some (.file text))
  | rewritten (old : String) : GrownAt text (some (.file old)) (some (.file text))

/-- A tree grows by files that hold a text. -/
def Tree.Grown (text : String) (t u : Tree) : Prop :=
  ∀ place, GrownAt text (t.get? place) (u.get? place)

theorem GrownAt.trans {text : String} {a b c : Option Entry} (first : GrownAt text a b)
    (second : GrownAt text b c) : GrownAt text a c := by
  cases first with
  | kept => exact second
  | made =>
      cases second with
      | kept => exact .made
      | rewritten => exact .made
  | rewritten old =>
      cases second with
      | kept => exact .rewritten old
      | rewritten => exact .rewritten old

namespace Tree

variable {text : String} {t u v : Tree}

theorem Grown.refl (t : Tree) : t.Grown text t :=
  fun place => .kept (t.get? place)

theorem Grown.trans (first : t.Grown text u) (second : u.Grown text v) : t.Grown text v :=
  fun place => (first place).trans (second place)

/-- Directories are not made. -/
theorem Grown.directory_iff (h : t.Grown text u) {place : Location} :
    u.get? place = some .directory ↔ t.get? place = some .directory := by
  have hplace := h place
  cases hbefore : t.get? place <;> cases hafter : u.get? place <;>
    rw [hbefore, hafter] at hplace <;> cases hplace <;> simp

theorem Grown.isSome (h : t.Grown text u) {place : Location}
    (hsome : (t.get? place).isSome = true) : (u.get? place).isSome = true := by
  have hplace := h place
  cases hbefore : t.get? place <;> cases hafter : u.get? place <;>
    rw [hbefore, hafter] at hplace <;> cases hplace <;> simp_all

end Tree

/-! ## Look-ups -/

/-- How a look-up ends in a tree, and in what the tree grew into. -/
inductive GrownEnd (t u : Tree) : Except IoError Found → Except IoError Found → Prop where
  | ended (place : Location) : GrownEnd t u (.ok ⟨place, t.get? place⟩) (.ok ⟨place, u.get? place⟩)
  | failed (e : IoError) : GrownEnd t u (.error e) (.error e)
  /-- A file was made where the look-up missed a directory. -/
  | blocked (place : Location) (hfree : t.get? place = none)
      (hmade : (u.get? place).isSome = true) :
      GrownEnd t u (.error .notFound) (.error .notADirectory)

section Lookup

variable {text : String} {t u : Tree} {origin : Origin} {follow : Bool}

theorem GrownEnd.ended_of_eq {place : Location} {before after : Option Entry}
    (hbefore : t.get? place = before) (hafter : u.get? place = after) :
    GrownEnd t u (.ok ⟨place, before⟩) (.ok ⟨place, after⟩) := by
  subst hbefore hafter
  exact .ended place

theorem walk_of_file {onLink : Location → String → List String → Except IoError Found}
    {here : Location} {names : List String} (hhere : t.get? here = some (.file text))
    (hnames : names ≠ []) : walk t origin follow onLink here names = .error .notADirectory := by
  obtain ⟨name, rest, rfl⟩ := List.exists_cons_of_ne_nil hnames
  rw [walk, hhere]

/-- Step by step the names lead to the same places, up to the first file that was made. -/
theorem grownEnd_walk {before after : Location → String → List String → Except IoError Found}
    (h : t.Grown text u)
    (hlink : ∀ here target rest, GrownEnd t u (before here target rest) (after here target rest))
    (here : Location) (names : List String) :
    GrownEnd t u (walk t origin follow before here names)
      (walk u origin follow after here names) := by
  induction names generalizing here with
  | nil => exact .ended here
  | cons name rest ih =>
      have hhere := h here
      rw [walk, walk]
      generalize hbefore : t.get? here = stood at hhere
      generalize hafter : u.get? here = stands at hhere
      cases hhere with
      | made => exact .blocked here hbefore (by rw [hafter]; rfl)
      | rewritten old => exact .failed _
      | kept =>
          obtain _ | (_ | content | target) := stood
          · exact .failed _
          · -- a directory: it is left, or the next name leads on
            dsimp only
            by_cases hdot : name = "."
            · rw [if_pos hdot, if_pos hdot]
              exact ih here
            by_cases hdots : name = ".."
            · rw [if_neg hdot, if_pos hdots, if_neg hdot, if_pos hdots]
              split
              · exact .failed _
              · exact ih here.dropLast
            rw [if_neg hdot, if_neg hdots, if_neg hdot, if_neg hdots]
            have hnext := h (here ++ [name])
            generalize hbefore' : t.get? (here ++ [name]) = stood at hnext
            generalize hafter' : u.get? (here ++ [name]) = stands at hnext
            have hended := GrownEnd.ended_of_eq hbefore' hafter'
            by_cases hrest : rest = []
            · -- what the last name leads to may be missing, and a link there may be left alone
              cases hnext with
              | made => simpa [hrest] using hended
              | rewritten old => simpa [hrest] using hended
              | kept =>
                  obtain _ | (_ | content | target) := stood
                  · simpa [hrest] using hended
                  · simpa [hrest] using hended
                  · simpa [hrest] using hended
                  · simp only [hrest, true_and]
                    split
                    · exact hended
                    · exact hlink here target []
            · cases hnext with
              | made =>
                  simp only [hrest, if_false, walk_of_file hafter' hrest]
                  exact .blocked _ hbefore' (by rw [hafter']; rfl)
              | rewritten old => simpa [hrest] using ih (here ++ [name])
              | kept =>
                  obtain _ | (_ | content | target) := stood
                  · simpa [hrest] using GrownEnd.failed _
                  · simpa [hrest] using ih (here ++ [name])
                  · simpa [hrest] using ih (here ++ [name])
                  · simpa [hrest] using hlink here target rest
          · exact .failed _
          · exact .failed _

theorem grownEnd_followLinks (h : t.Grown text u) (left : Nat) (here : Location) (target : String)
    (rest : List String) :
    GrownEnd t u (followLinks t origin follow left here target rest)
      (followLinks u origin follow left here target rest) := by
  induction left generalizing here target rest with
  | zero => exact .failed _
  | succ left ih =>
      rw [followLinks, followLinks]
      split
      · split
        · exact .failed _
        · exact grownEnd_walk h ih [] _
      · exact grownEnd_walk h ih here _

theorem grownEnd_lookup (h : t.Grown text u) (origin : Origin) (follow : Bool) (path : String) :
    GrownEnd t u (lookup t origin follow path) (lookup u origin follow path) := by
  have hwalk (here : Location) :
      GrownEnd t u (walk t origin follow (followLinks t origin follow maxLinks) here (steps path))
        (walk u origin follow (followLinks u origin follow maxLinks) here (steps path)) :=
    grownEnd_walk h (grownEnd_followLinks h maxLinks) here _
  unfold lookup
  dsimp only
  split
  · exact .failed _
  · split
    · split
      · exact .failed _
      · exact hwalk []
    · exact hwalk origin.directory

end Lookup

/-! ## Directories and entries -/

section Entries

variable {text : String} {t u : Tree} {origin : Origin} {follow : Bool} {path : String}

/-- A path leads to an entry at the same place, or fails as before, or it failed for a place where a
file was made. -/
theorem lookupEntry_cases (h : t.Grown text u) (origin : Origin) (follow : Bool) (path : String) :
    (∃ place entry entry', lookupEntry t origin follow path = .ok (place, entry) ∧
      lookupEntry u origin follow path = .ok (place, entry') ∧
      GrownAt text (some entry) (some entry')) ∨
    (∃ e, lookupEntry t origin follow path = .error e ∧
      lookupEntry u origin follow path = .error e) ∨
    (lookupEntry t origin follow path = .error .notFound ∧
      ∃ place, t.get? place = none ∧ (u.get? place).isSome = true) := by
  have hend := grownEnd_lookup h origin follow path
  unfold lookupEntry
  generalize lookup t origin follow path = before at hend
  generalize lookup u origin follow path = after at hend
  cases hend with
  | failed e => exact .inr (.inl ⟨e, rfl, rfl⟩)
  | blocked place hfree hmade => exact .inr (.inr ⟨rfl, place, hfree, hmade⟩)
  | ended place =>
      have hplace := h place
      generalize hbefore : t.get? place = stood at hplace
      generalize hafter : u.get? place = stands at hplace
      cases stood with
      | none =>
          cases stands with
          | none => exact .inr (.inl ⟨.notFound, rfl, rfl⟩)
          | some entry' => exact .inr (.inr ⟨rfl, place, hbefore, by rw [hafter]; rfl⟩)
      | some entry =>
          cases stands with
          | none => cases hplace
          | some entry' => exact .inl ⟨place, entry, entry', rfl, rfl, hplace⟩

/-- Paths lead to the same directories. -/
theorem Tree.Grown.openDirectory_iff (h : t.Grown text u) {place : Location} :
    openDirectory u origin path = .ok place ↔ openDirectory t origin path = .ok place := by
  have hend := grownEnd_lookup h origin true path
  rw [openDirectory_eq_ok_iff, openDirectory_eq_ok_iff]
  generalize lookup t origin true path = before at hend
  generalize lookup u origin true path = after at hend
  cases hend with
  | failed e => simp
  | blocked => simp
  | ended there =>
      simp only [Except.ok.injEq, Found.mk.injEq]
      exact and_congr_right fun _ => h.directory_iff

theorem HasEntry.grown {directory name : String} (h : t.Grown text u)
    (hentry : HasEntry t origin directory name) : HasEntry u origin directory name := by
  obtain ⟨place, hopen, hsome⟩ := hentry
  exact ⟨place, h.openDirectory_iff.mpr hopen, h.isSome hsome⟩

end Entries

/-! ## Writing -/

section Writing

variable {text : String} {t u : Tree} {origin : Origin} {path : String}

/-- Where something is written there was no directory, and no link, as that is followed. -/
theorem Tree.WellFormed.grownAt_of_writePlace (htree : t.WellFormed) {place : Location}
    (h : writePlace t origin path = .ok place) (text : String) :
    place ≠ [] ∧ GrownAt text (t.get? place) (some (.file text)) := by
  obtain ⟨hlookup, hleaf⟩ := writePlace_eq_ok_iff.mp h
  rcases isSettled_of_lookup htree hlookup with hdirectory | ⟨here, name, rfl, -, hlink⟩
  · exact absurd hdirectory hleaf
  · refine ⟨by simp, ?_⟩
    match hget : t.get? (here ++ [name]) with
    | none => exact .made
    | some .directory => exact absurd hget hleaf
    | some (.file old) => exact .rewritten old
    | some (.link target) => exact absurd hget (hlink rfl target)

theorem Tree.WellFormed.grown_put (htree : t.WellFormed) {place : Location}
    (h : writePlace t origin path = .ok place) (text : String) :
    t.Grown text (t.put place (.file text)) := by
  obtain ⟨hroot, hplace⟩ := htree.grownAt_of_writePlace h text
  intro other
  rw [get?_put t _ hroot]
  split
  · rename_i heq
    rw [heq]
    exact hplace
  · exact .kept _

/-- What is written ends up where it did before. -/
theorem Tree.Grown.writePlace_iff (h : t.Grown text u) {place : Location} :
    writePlace u origin path = .ok place ↔ writePlace t origin path = .ok place := by
  have hend := grownEnd_lookup h origin true path
  rw [writePlace_eq_ok_iff, writePlace_eq_ok_iff]
  generalize lookup t origin true path = before at hend
  generalize lookup u origin true path = after at hend
  cases hend with
  | failed e => simp
  | blocked => simp
  | ended there =>
      simp only [Except.ok.injEq, Found.mk.injEq, ne_eq, h.directory_iff]
      constructor
      · rintro ⟨⟨rfl, -⟩, hleaf⟩
        exact ⟨⟨rfl, rfl⟩, hleaf⟩
      · rintro ⟨⟨rfl, -⟩, hleaf⟩
        exact ⟨⟨rfl, rfl⟩, hleaf⟩

/-- Where a text written to a path would end up, it is there already. -/
def Filled (text : String) (tree : Tree) (origin : Origin) (path : String) : Prop :=
  ∀ place, writePlace tree origin path = .ok place → tree.get? place = some (.file text)

/-- Once a text is written to a path, it stays as the tree grows by it. -/
theorem Filled.grown (hfilled : Filled text t origin path) (h : t.Grown text u) :
    Filled text u origin path := by
  intro place hwrite
  have hfile := hfilled place (h.writePlace_iff.mp hwrite)
  have hplace := h place
  rw [hfile] at hplace
  generalize u.get? place = stands at hplace ⊢
  cases hplace <;> rfl

theorem Tree.WellFormed.filled_put (htree : t.WellFormed) {place : Location}
    (h : writePlace t origin path = .ok place) (text : String) :
    Filled text (t.put place (.file text)) origin path := by
  have hroot := (htree.grownAt_of_writePlace h text).1
  intro other hother
  rw [(htree.grown_put h text).writePlace_iff, h] at hother
  cases hother
  rw [get?_put t _ hroot, if_pos rfl]

theorem get?_put_of_filled (hfilled : Filled text t origin path) {place : Location}
    (h : writePlace t origin path = .ok place) (other : Location) :
    (t.put place (.file text)).get? other = t.get? other := by
  have hfile := hfilled place h
  have hroot : place ≠ [] := by
    rintro rfl
    rw [Tree.get?_nil] at hfile
    cases hfile
  rw [Tree.get?_put t _ hroot]
  split
  · rename_i heq
    rw [heq, hfile]
  · rfl

theorem Filled.readText (hfilled : Filled text t origin path) {place : Location}
    (h : writePlace t origin path = .ok place) : File.readText t origin path = .ok text := by
  have hfile := hfilled place h
  obtain ⟨hlookup, -⟩ := writePlace_eq_ok_iff.mp h
  rw [hfile] at hlookup
  rw [File.readText, lookupEntry_eq_ok_iff.mpr hlookup]
  rfl

end Writing

end NodeVolumes.File
