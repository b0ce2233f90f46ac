import Mathlib.Logic.Relation
import NodeVolumes.File.Change
import NodeVolumes.Proofs.File.Names

/-!
# Edits of trees

Whatever is done to a tree by paths comes down to edits at places where look-ups ended
(`edits_applyChanges`), so what an edit keeps is kept by all of it.  Edits put entries under file
names only (`Tree.IsNamed.edits`), and they keep a tree well-formed: no place has two entries, and
each entry stands in a directory (`Tree.WellFormed.edits`).
-/

namespace NodeVolumes.File

inductive Edit (origin : Origin) (tree : Tree) : Tree → Prop where
  | make {follow : Bool} {path : String} {place : Location} (entry : Entry)
      (hfree : lookup tree origin follow path = .ok ⟨place, none⟩) :
      Edit origin tree (tree.put place entry)
  | write {path : String} {place : Location} {found : Option Entry} (text : String)
      (hplace : lookup tree origin true path = .ok ⟨place, found⟩)
      (hfound : found ≠ some .directory) :
      Edit origin tree (tree.put place (.file text))
  | remove (place : Location) : Edit origin tree (tree.removeAll place)

abbrev Edits (origin : Origin) : Tree → Tree → Prop :=
  Relation.ReflTransGen (Edit origin)

section Change

variable {tree tree' : Tree} {origin : Origin} {path text : String}

theorem writePlace_eq_ok_iff {place : Location} :
    writePlace tree origin path = .ok place ↔
      lookup tree origin true path = .ok ⟨place, tree.get? place⟩ ∧
        tree.get? place ≠ some .directory := by
  rw [writePlace, bind_eq_ok_iff]
  constructor
  · rintro ⟨⟨there, found⟩, hlookup, hplace⟩
    have hget : found = tree.get? there := get?_of_lookup hlookup
    have hwritten : found ≠ some .directory ∧ there = place := by
      obtain _ | _ | _ | _ := found <;> cases hplace <;> simp
    obtain ⟨hfound, rfl⟩ := hwritten
    exact ⟨hget ▸ hlookup, hget ▸ hfound⟩
  · rintro ⟨hlookup, hleaf⟩
    refine ⟨_, hlookup, ?_⟩
    match hget : tree.get? place with
    | none => rfl
    | some .directory => exact absurd hget hleaf
    | some (.file content) => rfl
    | some (.link target) => rfl

theorem edit_of_writePlace {place : Location} (h : writePlace tree origin path = .ok place)
    (text : String) : Edit origin tree (tree.put place (.file text)) := by
  obtain ⟨hlookup, hleaf⟩ := writePlace_eq_ok_iff.mp h
  exact .write text hlookup hleaf

theorem edits_writeText (h : writeText tree origin path text = .ok tree') :
    Edits origin tree tree' := by
  obtain ⟨place, hplace, hput⟩ := exists_of_bind_eq_ok h
  cases hput
  exact .single (edit_of_writePlace hplace text)

theorem edits_appendText (h : appendText tree origin path text = .ok tree') :
    Edits origin tree tree' := by
  obtain ⟨place, hplace, hput⟩ := exists_of_bind_eq_ok h
  split at hput <;> cases hput <;> exact .single (edit_of_writePlace hplace _)

theorem edits_ensureDirectory (origin : Origin) (tree : Tree) (path : String) :
    Edits origin tree (ensureDirectory origin tree path) := by
  unfold ensureDirectory
  split
  · rename_i place hfree
    exact .single (.make _ hfree)
  · exact .refl

theorem edits_foldl_ensureDirectory (origin : Origin) (tree : Tree) (paths : List String) :
    Edits origin tree (paths.foldl (ensureDirectory origin) tree) := by
  induction paths generalizing tree with
  | nil => exact .refl
  | cons path rest ih => exact (edits_ensureDirectory origin tree path).trans (ih _)

theorem edits_change (base : Location) (tree : Tree) (change : Change) :
    Edits ⟨base, false⟩ tree (change.apply base tree) := by
  have hfold : ∀ paths : List String,
      Edits ⟨base, false⟩ tree (paths.foldl (ensureDirectory ⟨base, false⟩) tree) :=
    edits_foldl_ensureDirectory _ tree
  unfold Change.apply
  cases change with
  | directory path => exact hfold _
  | file path content =>
      dsimp only
      cases hwrite : writeText (ensureAbove ⟨base, false⟩ tree path) ⟨base, false⟩ path
          content with
      | error e => exact hfold _
      | ok written => exact (hfold _).trans (edits_writeText hwrite)
  | link path target =>
      dsimp only
      split
      · rename_i place hfree
        exact (hfold _).tail (.make _ hfree)
      · exact hfold _
  | remove path =>
      dsimp only
      split
      · exact .single (.remove _)
      · exact .refl

/-- Changes made by paths are edits. -/
theorem edits_applyChanges (base : Location) (tree : Tree) (changes : List Change) :
    Edits ⟨base, false⟩ tree (applyChanges base tree changes) := by
  unfold applyChanges
  induction changes generalizing tree with
  | nil => exact .refl
  | cons change rest ih => exact (edits_change base tree change).trans (ih _)

end Change

/-! ## Named trees -/

namespace Tree

variable {tree tree' : Tree} {origin : Origin}

theorem IsNamed.edit (h : tree.IsNamed) (horigin : IsPlace origin.directory)
    (hedit : Edit origin tree tree') : tree'.IsNamed := by
  cases hedit with
  | make entry hfree => exact h.put (isPlace_of_lookup horigin hfree) entry
  | write text hplace _ => exact h.put (isPlace_of_lookup horigin hplace) _
  | remove place => exact h.removeAll place

theorem IsNamed.edits (h : tree.IsNamed) (horigin : IsPlace origin.directory)
    (hedits : Edits origin tree tree') : tree'.IsNamed := by
  induction hedits with
  | refl => exact h
  | tail _ hedit ih => exact ih.edit horigin hedit

end Tree

/-! ## Well-formed trees -/

/-- A tree with one entry at a place, and each in a directory. -/
structure Tree.WellFormed (tree : Tree) : Prop where
  distinct : (tree.entries.map Prod.fst).Nodup
  above : ∀ {place name entry}, tree.get? (place ++ [name]) = some entry →
    tree.get? place = some .directory

/-- A look-up ends at a directory or in one, and follows a last link if it is to. -/
def IsSettled (tree : Tree) (follow : Bool) (found : Found) : Prop :=
  found.entry = some .directory ∨
    ∃ here name, found.place = here ++ [name] ∧ tree.get? here = some .directory ∧
      (follow = true → ∀ target, found.entry ≠ some (.link target))

section Settled

variable {tree : Tree} {origin : Origin} {follow : Bool} {found : Found}

theorem isSettled_of_walk {onLink : Location → String → List String → Except IoError Found}
    (htree : tree.WellFormed)
    (hlink : ∀ here target rest, tree.get? here = some .directory →
      onLink here target rest = .ok found → IsSettled tree follow found)
    {here : Location} {names : List String}
    (hhere : names = [] → tree.get? here = some .directory)
    (h : walk tree origin follow onLink here names = .ok found) :
    IsSettled tree follow found := by
  induction names generalizing here with
  | nil =>
      cases h
      exact .inl (hhere rfl)
  | cons name rest ih =>
      unfold walk at h
      split at h
      · rename_i hdirectory
        split at h
        · exact ih (fun _ => hdirectory) h
        · split at h
          · split at h
            · cases h
            · refine ih (fun _ => ?_) h
              rcases List.eq_nil_or_concat here with rfl | ⟨front, last, rfl⟩
              · rfl
              · rw [List.concat_eq_append] at hdirectory
                simpa using htree.above hdirectory
          · -- the look-up ends below a directory, except that a link may lead it on
            have last (entry : Option Entry)
                (hentry : follow = true → ∀ target, entry ≠ some (.link target)) :
                IsSettled tree follow ⟨here ++ [name], entry⟩ :=
              .inr ⟨here, name, rfl, hdirectory, hentry⟩
            dsimp only at h
            split at h
            · split at h
              · cases h
                exact last none fun _ _ => by simp
              · cases h
            · split at h
              · rename_i hnext htarget
                cases h
                exact last _ fun hfollow => absurd hfollow htarget.2
              · exact hlink here _ rest hdirectory h
            · rename_i entry hlinks hnext
              split at h
              · cases h
                refine last _ fun _ target heq => ?_
                cases heq
                exact hlinks target rfl
              · rename_i hrest
                exact ih (fun hnil => absurd hnil hrest) h
      · cases h
      · cases h

theorem isSettled_of_followLinks (htree : tree.WellFormed) {left : Nat} {here : Location}
    {target : String} {rest : List String} (hhere : tree.get? here = some .directory)
    (h : followLinks tree origin follow left here target rest = .ok found) :
    IsSettled tree follow found := by
  induction left generalizing here target rest with
  | zero => cases h
  | succ left ih =>
      unfold followLinks at h
      split at h
      · split at h
        · cases h
        · exact isSettled_of_walk htree (fun _ _ _ => ih) (fun _ => rfl) h
      · exact isSettled_of_walk htree (fun _ _ _ => ih) (fun _ => hhere) h

/-- A path that is not empty asks for something. -/
theorem steps_ne_nil {path : String} (h : path ≠ "") : steps path ≠ [] := by
  unfold steps
  split
  · simp
  · rename_i hlast
    obtain ⟨c, hc⟩ : ∃ c, path.toList.getLast? = some c :=
      Option.isSome_iff_exists.mp (by simpa using h)
    have hne : c ≠ '/' := by
      rintro rfl
      exact hlast hc
    obtain ⟨piece, hpiece, hin⟩ : ∃ piece ∈ Text.pieces (· == '/') path.toList, c ∈ piece :=
      Text.exists_piece_of_mem (List.mem_of_getLast? hc) (by simpa using hne)
    refine List.ne_nil_of_mem (a := String.ofList piece) (List.mem_filter.mpr ⟨?_, ?_⟩)
    · exact List.mem_map_of_mem hpiece
    · simpa using List.ne_nil_of_mem hin

theorem isSettled_of_lookup (htree : tree.WellFormed) {path : String}
    (h : lookup tree origin follow path = .ok found) : IsSettled tree follow found := by
  unfold lookup at h
  dsimp only at h
  split at h
  · cases h
  · rename_i hempty
    have hsteps (here : Location) (hnil : steps path = []) : tree.get? here = some .directory :=
      absurd hnil (steps_ne_nil hempty)
    split at h
    · split at h
      · cases h
      · exact isSettled_of_walk htree (fun _ _ _ => isSettled_of_followLinks htree) (hsteps _) h
    · exact isSettled_of_walk htree (fun _ _ _ => isSettled_of_followLinks htree) (hsteps _) h

end Settled

namespace Tree

variable {tree tree' : Tree} {origin : Origin}

theorem wellFormed_empty : empty.WellFormed where
  distinct := List.nodup_nil
  above h := by simp [get?, empty] at h

theorem WellFormed.of_forall (distinct : (tree.entries.map Prod.fst).Nodup)
    (h : ∀ e ∈ tree.entries, tree.get? e.1.dropLast = some .directory) : tree.WellFormed where
  distinct := distinct
  above := by
    intro place name entry hentry
    rw [get?, if_neg (by simp), Option.map_eq_some_iff] at hentry
    obtain ⟨e, hfind, -⟩ := hentry
    have hplace : e.1 = place ++ [name] := by simpa using List.find?_some hfind
    simpa [hplace] using h e (List.mem_of_find?_eq_some hfind)

theorem WellFormed.put (h : tree.WellFormed) {here : Location} {name : String}
    (hhere : tree.get? here = some .directory)
    (hleaf : tree.get? (here ++ [name]) ≠ some .directory) (entry : Entry) :
    (tree.put (here ++ [name]) entry).WellFormed where
  distinct := by
    refine List.nodup_cons.mpr ⟨?_, ?_⟩
    · simp
    · exact h.distinct.sublist (List.filter_sublist.map _)
  above := by
    intro place last found hfound
    rw [get?_put tree entry (by simp)] at hfound ⊢
    have hplace : place ≠ here ++ [name] → tree.get? place = some .directory →
        (if place = here ++ [name] then some entry else tree.get? place) = some .directory := by
      intro hne hdirectory
      rw [if_neg hne, hdirectory]
    split at hfound
    · rename_i heq
      obtain ⟨rfl, -⟩ := List.append_inj' heq rfl
      exact hplace (by simp) hhere
    · have hdirectory := h.above hfound
      refine hplace ?_ hdirectory
      rintro rfl
      exact hleaf hdirectory

theorem get?_removeAll (tree : Tree) (place other : Location) :
    (tree.removeAll place).get? other =
      if other ≠ [] ∧ place <+: other then none else tree.get? other := by
  by_cases hroot : other = []
  · simp [hroot, get?]
  · by_cases hbelow : place <+: other
    · rw [if_pos ⟨hroot, hbelow⟩, get?, if_neg hroot, Option.map_eq_none_iff, List.find?_eq_none]
      intro e he heq
      have hkept := (List.mem_filter.mp he).2
      have hplace : e.1 = other := by simpa using heq
      simp [hplace, List.isPrefixOf_iff_prefix.mpr hbelow] at hkept
    · rw [if_neg fun hboth => hbelow hboth.2, get?, get?, if_neg hroot, if_neg hroot, removeAll,
        List.find?_filter]
      have hkept : place.isPrefixOf other = false :=
        Bool.eq_false_iff.mpr fun hprefix => hbelow (List.isPrefixOf_iff_prefix.mp hprefix)
      congr 1
      congr 1
      funext e
      by_cases hplace : e.1 = other <;> simp [hplace, hkept]

theorem WellFormed.removeAll (h : tree.WellFormed) (place : Location) :
    (tree.removeAll place).WellFormed where
  distinct := h.distinct.sublist (List.filter_sublist.map _)
  above := by
    intro there name entry hentry
    rw [get?_removeAll] at hentry ⊢
    split at hentry
    · cases hentry
    · rename_i hkept
      rw [if_neg, h.above hentry]
      rintro ⟨-, hbelow⟩
      exact hkept ⟨by simp, hbelow.trans (List.prefix_append there [name])⟩

theorem WellFormed.edit (h : tree.WellFormed) (hedit : Edit origin tree tree') :
    tree'.WellFormed := by
  have hput {follow : Bool} {path : String} {place : Location} {found : Option Entry}
      (hlookup : lookup tree origin follow path = .ok ⟨place, found⟩)
      (hfound : found ≠ some .directory) (entry : Entry) : (tree.put place entry).WellFormed := by
    rcases isSettled_of_lookup h hlookup with hdirectory | ⟨here, name, rfl, hhere, -⟩
    · exact absurd hdirectory hfound
    · have hget : found = tree.get? (here ++ [name]) := get?_of_lookup hlookup
      exact h.put hhere (hget ▸ hfound) entry
  cases hedit with
  | make entry hfree => exact hput hfree (by simp) entry
  | write text hplace hfound => exact hput hplace hfound _
  | remove place => exact h.removeAll place

theorem WellFormed.edits (h : tree.WellFormed) (hedits : Edits origin tree tree') :
    tree'.WellFormed := by
  induction hedits with
  | refl => exact h
  | tail _ hedit ih => exact ih.edit hedit

end Tree

end NodeVolumes.File
