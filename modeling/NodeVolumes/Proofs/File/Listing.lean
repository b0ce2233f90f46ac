import Mathlib.Data.List.Nodup
import NodeVolumes.Proofs.File.Edits
import NodeVolumes.Proofs.Text.Order

/-!
# Entries of directories

A look-up of a name in a directory is a look-up of the directory and then a step to the name,
whatever links there are on the way (`lookup_append_name`).  So what stands under a name of a
directory is what the directory lists (`HasEntry`).
-/

namespace NodeVolumes.File

namespace Tree

variable {tree : Tree} {place : Location} {name : String}

theorem childName?_eq_some_iff {other : Location} :
    childName? place other = some name ↔ other = place ++ [name] := by
  unfold childName?
  constructor
  · intro h
    split at h
    · rename_i last hlast
      obtain ⟨front, rfl⟩ := List.getLast?_eq_some_iff.mp hlast
      split at h
      · rename_i hplace
        cases h
        rw [← hplace, List.dropLast_concat]
      · cases h
    · cases h
  · rintro rfl
    simp

theorem mem_names_iff : name ∈ tree.names place ↔ (tree.get? (place ++ [name])).isSome = true := by
  have hget : (tree.get? (place ++ [name])).isSome = true ↔
      ∃ e ∈ tree.entries, e.1 = place ++ [name] := by
    rw [get?, if_neg (by simp), Option.isSome_map, List.find?_isSome]
    simp
  rw [names, List.mem_mergeSort, List.mem_filterMap, hget]
  simp only [childName?_eq_some_iff]

/-- Names are listed in ascending order, and each once. -/
theorem WellFormed.pairwise_names (h : tree.WellFormed) (place : Location) :
    (tree.names place).Pairwise (· < ·) := by
  have hnodup : (tree.names place).Nodup := by
    have hmap : (tree.entries.filterMap fun e => childName? place e.1) =
        (tree.entries.map Prod.fst).filterMap (childName? place) := by
      rw [List.filterMap_map]
      rfl
    rw [names, (List.mergeSort_perm _ _).nodup_iff, hmap]
    refine List.Nodup.filterMap (fun one other name hone hother => ?_) h.distinct
    rw [childName?_eq_some_iff.mp hone, childName?_eq_some_iff.mp hother]
  have hsorted : (tree.names place).Pairwise (· ≤ ·) := by
    have hle : (tree.names place).Pairwise fun a b => decide (a ≤ b) = true :=
      List.pairwise_mergeSort (fun a b c => by simpa using le_trans)
        (fun a b => by simpa using le_total a b) _
    simpa using hle
  exact (hsorted.and hnodup).imp fun hboth => lt_of_le_of_ne hboth.1 hboth.2

end Tree

/-- A path that ends with a name, and not with a slash. -/
def IsBare (path : String) : Prop :=
  path.toList.getLast? ≠ some '/'

theorem isBare_append_slash (directory : String) {name : String} (hname : Path.IsName name) :
    IsBare (directory ++ "/" ++ name) := by
  intro h
  obtain ⟨c, hc⟩ : ∃ c, name.toList.getLast? = some c :=
    Option.isSome_iff_exists.mp (by simpa using hname.1.1)
  rw [String.toList_append, List.getLast?_append, hc] at h
  cases h
  exact hname.1.2 (List.mem_of_getLast? hc)

theorem steps_append_slash {directory name : String} (hbare : IsBare directory)
    (hname : Path.IsName name) : steps (directory ++ "/" ++ name) = steps directory ++ [name] := by
  rw [steps, if_neg (isBare_append_slash directory hname), Path.segments_append_slash,
    Path.segments_of_isSegment hname.1, steps, if_neg hbare]

/-! ## A name in a directory -/

def enter (tree : Tree) (name : String) : Found → Except IoError Found
  | ⟨place, some .directory⟩ => .ok ⟨place ++ [name], tree.get? (place ++ [name])⟩
  | ⟨_, some _⟩ => .error .notADirectory
  | ⟨_, none⟩ => .error .notFound

theorem enter_eq_ok_iff {tree : Tree} {name : String} {found next : Found} :
    enter tree name found = .ok next ↔
      ∃ place, found = ⟨place, some .directory⟩ ∧
        next = ⟨place ++ [name], tree.get? (place ++ [name])⟩ := by
  obtain ⟨place, entry⟩ := found
  cases entry with
  | none => simp [enter]
  | some entry => cases entry <;> simp [enter, eq_comm]

section Walk

variable {tree : Tree} {origin : Origin} {name : String}

/-- On the way to a name its directory is reached, as links on the way are followed anyway. -/
theorem walk_append_name
    {onName onDirectory : Location → String → List String → Except IoError Found}
    (hname : Path.IsName name)
    (hlink : ∀ here target rest,
      onName here target (rest ++ [name]) = onDirectory here target rest >>= enter tree name)
    (here : Location) (names : List String) :
    walk tree origin false onName here (names ++ [name]) =
      walk tree origin true onDirectory here names >>= enter tree name := by
  induction names generalizing here with
  | nil =>
      rw [List.nil_append, walk, walk]
      cases hhere : tree.get? here with
      | none => rfl
      | some entry =>
          cases entry with
          | directory =>
              have henter : (Except.ok ⟨here, some .directory⟩ : Except IoError Found) >>=
                  enter tree name = .ok ⟨here ++ [name], tree.get? (here ++ [name])⟩ := rfl
              rw [henter]
              simp only [hname.2.1, hname.2.2, if_false]
              cases tree.get? (here ++ [name]) with
              | none => rfl
              | some entry => cases entry <;> rfl
          | file content => rfl
          | link target => rfl
  | cons first rest ih =>
      rw [List.cons_append, walk, walk]
      cases hhere : tree.get? here with
      | none => rfl
      | some entry =>
          cases entry with
          | file content => rfl
          | link target => rfl
          | directory =>
              dsimp only
              by_cases hdot : first = "."
              · rw [if_pos hdot, if_pos hdot]
                exact ih here
              by_cases hdots : first = ".."
              · rw [if_neg hdot, if_pos hdots, if_neg hdot, if_pos hdots]
                split
                · rfl
                · exact ih here.dropLast
              rw [if_neg hdot, if_neg hdots, if_neg hdot, if_neg hdots]
              have hlonger : rest ++ [name] ≠ [] := by simp
              have plain {entry : Entry} (hnext : tree.get? (here ++ [first]) = some entry) :
                  walk tree origin false onName (here ++ [first]) (rest ++ [name]) =
                    (if rest = [] then .ok ⟨here ++ [first], some entry⟩
                      else walk tree origin true onDirectory (here ++ [first]) rest) >>=
                        enter tree name := by
                rw [ih]
                by_cases hrest : rest = []
                · subst hrest
                  rw [walk, hnext, if_pos rfl]
                · rw [if_neg hrest]
              cases hnext : tree.get? (here ++ [first]) with
              | none =>
                  simp only [if_neg hlonger]
                  split <;> rfl
              | some entry =>
                  cases entry with
                  | link target => simp [hlink]
                  | directory =>
                      simp only [if_neg hlonger]
                      exact plain hnext
                  | file content =>
                      simp only [if_neg hlonger]
                      exact plain hnext

theorem followLinks_append_name (hname : Path.IsName name) (left : Nat) (here : Location)
    (target : String) (rest : List String) :
    followLinks tree origin false left here target (rest ++ [name]) =
      followLinks tree origin true left here target rest >>= enter tree name := by
  induction left generalizing here target rest with
  | zero => rfl
  | succ left ih =>
      rw [followLinks, followLinks, ← List.append_assoc]
      simp only [walk_append_name hname ih]
      split
      · split <;> rfl
      · rfl

end Walk

section Listing

variable {tree : Tree} {origin : Origin} {directory name : String}

theorem isAbsolute_append_slash (hempty : directory ≠ "") :
    Path.isAbsolute (directory ++ "/" ++ name) = Path.isAbsolute directory := by
  obtain ⟨c, cs, hcs⟩ := List.exists_cons_of_ne_nil
    (l := directory.toList) (by simpa using hempty)
  simp [Path.isAbsolute, hcs]

/-- A name in a directory is looked up from the directory. -/
theorem lookup_append_name (hempty : directory ≠ "") (hbare : IsBare directory)
    (hname : Path.IsName name) :
    lookup tree origin false (directory ++ "/" ++ name) =
      lookup tree origin true directory >>= enter tree name := by
  have hjoined : directory ++ "/" ++ name ≠ "" := by simp
  unfold lookup
  rw [if_neg hjoined, if_neg hempty, isAbsolute_append_slash hempty,
    steps_append_slash hbare hname]
  simp only [walk_append_name hname (followLinks_append_name hname maxLinks)]
  split
  · split <;> rfl
  · rfl

theorem lookupEntry_eq_ok_iff {follow : Bool} {path : String} {place : Location} {entry : Entry} :
    lookupEntry tree origin follow path = .ok (place, entry) ↔
      lookup tree origin follow path = .ok ⟨place, some entry⟩ := by
  rw [lookupEntry, bind_eq_ok_iff]
  constructor
  · rintro ⟨⟨there, _ | stands⟩, hlookup, hentry⟩
    · cases hentry
    · cases hentry
      exact hlookup
  · intro hlookup
    exact ⟨_, hlookup, rfl⟩

theorem openDirectory_eq_ok_iff {path : String} {place : Location} :
    openDirectory tree origin path = .ok place ↔
      lookup tree origin true path = .ok ⟨place, some .directory⟩ := by
  rw [openDirectory, bind_eq_ok_iff, ← lookupEntry_eq_ok_iff]
  constructor
  · rintro ⟨⟨there, stands⟩, hlookup, hentry⟩
    cases stands <;> cases hentry
    exact hlookup
  · intro hlookup
    exact ⟨_, hlookup, rfl⟩

/-! ## A last link -/

/-- A look-up that comes to no link is the same whether a last link is to be followed or not. -/
theorem walk_follow {onLast onLink : Location → String → List String → Except IoError Found}
    (hlink : ∀ here target rest,
      (∀ place target', onLast here target rest ≠ .ok ⟨place, some (.link target')⟩) →
        onLink here target rest = onLast here target rest)
    (here : Location) (names : List String)
    (h : ∀ place target,
      walk tree origin false onLast here names ≠ .ok ⟨place, some (.link target)⟩) :
    walk tree origin true onLink here names = walk tree origin false onLast here names := by
  induction names generalizing here with
  | nil => rfl
  | cons name rest ih =>
      rw [walk] at h ⊢
      rw [walk]
      cases hhere : tree.get? here with
      | none => rfl
      | some entry =>
          cases entry with
          | file content => rfl
          | link target => rfl
          | directory =>
              simp only [hhere] at h
              dsimp only
              by_cases hdot : name = "."
              · rw [if_pos hdot] at h
                rw [if_pos hdot, if_pos hdot]
                exact ih here h
              by_cases hdots : name = ".."
              · rw [if_neg hdot, if_pos hdots] at h
                rw [if_neg hdot, if_pos hdots, if_neg hdot, if_pos hdots]
                split
                · rfl
                · rename_i hinside
                  rw [if_neg hinside] at h
                  exact ih here.dropLast h
              rw [if_neg hdot, if_neg hdots] at h
              rw [if_neg hdot, if_neg hdots, if_neg hdot, if_neg hdots]
              cases hnext : tree.get? (here ++ [name]) with
              | none => rfl
              | some entry =>
                  simp only [hnext] at h
                  by_cases hrest : rest = []
                  · cases entry with
                    | directory => simp [hrest]
                    | file content => simp [hrest]
                    | link target => simp [hrest] at h
                  · cases entry with
                    | directory => simpa [hrest] using ih _ (by simpa [hrest] using h)
                    | file content => simpa [hrest] using ih _ (by simpa [hrest] using h)
                    | link target =>
                        simpa [hrest] using hlink here target rest (by simpa [hrest] using h)

theorem followLinks_follow (left : Nat) (here : Location) (target : String) (rest : List String)
    (h : ∀ place target',
      followLinks tree origin false left here target rest ≠ .ok ⟨place, some (.link target')⟩) :
    followLinks tree origin true left here target rest =
      followLinks tree origin false left here target rest := by
  induction left generalizing here target rest with
  | zero => rfl
  | succ left ih =>
      rw [followLinks] at h ⊢
      rw [followLinks]
      split at h
      · rename_i habsolute
        rw [if_pos habsolute, if_pos habsolute]
        split at h
        · rename_i hconfined
          rw [if_pos hconfined, if_pos hconfined]
        · rename_i hfree
          rw [if_neg hfree, if_neg hfree]
          exact walk_follow ih [] _ h
      · rename_i hrelative
        rw [if_neg hrelative, if_neg hrelative]
        exact walk_follow ih here _ h

theorem lookup_follow {path : String}
    (h : ∀ place target, lookup tree origin false path ≠ .ok ⟨place, some (.link target)⟩) :
    lookup tree origin true path = lookup tree origin false path := by
  unfold lookup at h ⊢
  dsimp only at h ⊢
  split at h
  · rename_i hempty
    rw [if_pos hempty, if_pos hempty]
  · rename_i hpath
    rw [if_neg hpath, if_neg hpath]
    split at h
    · rename_i habsolute
      rw [if_pos habsolute, if_pos habsolute]
      split at h
      · rename_i hconfined
        rw [if_pos hconfined, if_pos hconfined]
      · rename_i hfree
        rw [if_neg hfree, if_neg hfree]
        exact walk_follow (followLinks_follow maxLinks) [] _ h
    · rename_i hrelative
      rw [if_neg hrelative, if_neg hrelative]
      exact walk_follow (followLinks_follow maxLinks) origin.directory _ h

/-- Something stands under a name in the directory that a path leads to. -/
def HasEntry (tree : Tree) (origin : Origin) (directory name : String) : Prop :=
  ∃ place, openDirectory tree origin directory = .ok place ∧
    (tree.get? (place ++ [name])).isSome = true

/-- What a directory lists are its entries. -/
theorem mem_iff_hasEntry {names : List String}
    (h : listNames tree origin directory = .ok names) :
    name ∈ names ↔ HasEntry tree origin directory name := by
  obtain ⟨place, hopen, hnames⟩ := exists_of_bind_eq_ok h
  cases hnames
  rw [Tree.mem_names_iff, HasEntry, hopen]
  simp

theorem HasEntry.exists_listNames (h : HasEntry tree origin directory name) :
    ∃ names, listNames tree origin directory = .ok names ∧ name ∈ names := by
  obtain ⟨place, hopen, hentry⟩ := h
  refine ⟨tree.names place, ?_, Tree.mem_names_iff.mpr hentry⟩
  rw [listNames, hopen]
  rfl

/-- What is looked up in a directory are its entries. -/
theorem isOk_lookupEntry_iff_hasEntry (hempty : directory ≠ "") (hbare : IsBare directory)
    (hname : Path.IsName name) :
    (lookupEntry tree origin false (directory ++ "/" ++ name)).isOk = true ↔
      HasEntry tree origin directory name := by
  have hisOk : (lookupEntry tree origin false (directory ++ "/" ++ name)).isOk = true ↔
      ∃ place entry, lookupEntry tree origin false (directory ++ "/" ++ name) =
        .ok (place, entry) := by
    cases lookupEntry tree origin false (directory ++ "/" ++ name) with
    | error e => simp [Except.isOk, Except.toBool]
    | ok result => simpa [Except.isOk, Except.toBool] using ⟨result.1, result.2, rfl⟩
  simp only [hisOk, lookupEntry_eq_ok_iff, lookup_append_name hempty hbare hname, bind_eq_ok_iff,
    enter_eq_ok_iff, HasEntry, openDirectory_eq_ok_iff, Option.isSome_iff_exists]
  constructor
  · rintro ⟨_, entry, found, hdirectory, place, rfl, hnext⟩
    obtain ⟨-, hentry⟩ := Found.mk.inj hnext
    exact ⟨place, hdirectory, entry, hentry.symm⟩
  · rintro ⟨place, hdirectory, entry, hentry⟩
    exact ⟨_, entry, _, hdirectory, place, rfl, by rw [hentry]⟩

/-- A file in a directory is what its path leads to. -/
theorem lookup_of_file (hempty : directory ≠ "") (hbare : IsBare directory)
    (hname : Path.IsName name) {place : Location} {content : String}
    (hopen : openDirectory tree origin directory = .ok place)
    (hfile : tree.get? (place ++ [name]) = some (.file content)) :
    lookup tree origin true (directory ++ "/" ++ name) =
      .ok ⟨place ++ [name], some (.file content)⟩ := by
  have hlast : lookup tree origin false (directory ++ "/" ++ name) =
      .ok ⟨place ++ [name], some (.file content)⟩ := by
    rw [lookup_append_name hempty hbare hname, openDirectory_eq_ok_iff.mp hopen, ← hfile]
    rfl
  rw [lookup_follow (by simp [hlast]), hlast]

/-- What leads to a name in a directory opens the directory, and to something there if the name
stands for something. -/
theorem exists_openDirectory_of_lookup (hempty : directory ≠ "") (hbare : IsBare directory)
    (hname : Path.IsName name) {found : Found}
    (h : lookup tree origin true (directory ++ "/" ++ name) = .ok found) :
    ∃ place, openDirectory tree origin directory = .ok place ∧
      (found.entry = none ∨ (tree.get? (place ++ [name])).isSome = true) := by
  have hstep : lookup tree origin false (directory ++ "/" ++ name) =
      lookup tree origin true directory >>= enter tree name :=
    lookup_append_name hempty hbare hname
  have hsame (hlast : ∀ place target, lookup tree origin false (directory ++ "/" ++ name) ≠
      .ok ⟨place, some (.link target)⟩) :
      lookup tree origin false (directory ++ "/" ++ name) = .ok found := by
    rw [← lookup_follow hlast, h]
  cases hlast : lookup tree origin false (directory ++ "/" ++ name) with
  | error e =>
      rw [hlast] at hsame
      cases hsame (by simp)
  | ok next =>
      rw [hlast] at hstep hsame
      obtain ⟨_, hdirectory, henter⟩ := exists_of_bind_eq_ok hstep.symm
      obtain ⟨place, rfl, rfl⟩ := enter_eq_ok_iff.mp henter
      refine ⟨place, openDirectory_eq_ok_iff.mpr hdirectory, ?_⟩
      cases hget : tree.get? (place ++ [name]) with
      | some entry => exact .inr rfl
      | none =>
          cases hsame (by simp [hget])
          exact .inl hget

end Listing

end NodeVolumes.File
