import Mathlib.Data.List.Nodup
import NodeVolumes.SortedMap

/-!
# Maps told by their look-ups

A map is told by what is found at each key (`ext_get?`).  So what an operation does to a map is said
by its look-ups: of entries put into a map one after the other the last one with a key is found
(`get?_foldl_insert`), an overlay wins where it has an entry (`get?_overlay`), and a removal takes
the keys that it names and no others (`get?_without`).
-/

namespace NodeVolumes.SortedMap

variable {β γ : Type}

theorem lookupEntry_append (key : String) (front rest : List (String × β)) :
    lookupEntry key (front ++ rest) = (lookupEntry key front).or (lookupEntry key rest) := by
  induction front with
  | nil => simp [lookupEntry]
  | cons e front ih =>
      by_cases h : key = e.1
      · simp [lookupEntry, h]
      · simp [lookupEntry, h, ih]

theorem lookupEntry_eq_none_iff {key : String} {list : List (String × β)} :
    lookupEntry key list = none ↔ key ∉ list.map Prod.fst := by
  induction list with
  | nil => simp [lookupEntry]
  | cons e rest ih =>
      by_cases h : key = e.1
      · simp [lookupEntry, h]
      · simp [lookupEntry, h, ih]

theorem mem_of_lookupEntry {key : String} {value : β} {list : List (String × β)}
    (h : lookupEntry key list = some value) : (key, value) ∈ list := by
  induction list with
  | nil => simp [lookupEntry] at h
  | cons e rest ih =>
      by_cases hkey : key = e.1
      · simp only [lookupEntry, hkey, if_true, Option.some.injEq] at h
        rw [hkey, ← h]
        exact List.mem_cons_self
      · simp only [lookupEntry, hkey, if_false] at h
        exact List.mem_cons_of_mem e (ih h)

/-- With distinct keys, every entry is found at its key. -/
theorem lookupEntry_of_mem {key : String} {value : β} {list : List (String × β)}
    (distinct : (list.map Prod.fst).Nodup) (h : (key, value) ∈ list) :
    lookupEntry key list = some value := by
  induction list with
  | nil => cases h
  | cons e rest ih =>
      rw [List.map_cons, List.nodup_cons] at distinct
      rcases List.mem_cons.mp h with rfl | hrest
      · simp [lookupEntry]
      · have hne : key ≠ e.1 := by
          rintro rfl
          exact distinct.1 (List.mem_map.mpr ⟨_, hrest, rfl⟩)
        simp only [lookupEntry, hne, if_false]
        exact ih distinct.2 hrest

/-- With distinct keys, the order of entries does not matter to a look-up. -/
theorem lookupEntry_perm {list list' : List (String × β)} (h : list.Perm list')
    (distinct : (list.map Prod.fst).Nodup) (key : String) :
    lookupEntry key list = lookupEntry key list' := by
  have distinct' : (list'.map Prod.fst).Nodup := (h.map Prod.fst).nodup_iff.mp distinct
  cases hfound : lookupEntry key list with
  | some value =>
      have hmem := h.mem_iff.mp (mem_of_lookupEntry hfound)
      exact (lookupEntry_of_mem distinct' hmem).symm
  | none =>
      rw [lookupEntry_eq_none_iff, (h.map Prod.fst).mem_iff, ← lookupEntry_eq_none_iff] at hfound
      exact hfound.symm

/-- The last entry with a key is the one that nothing of this key comes after. -/
theorem lookupEntry_reverse_eq_some_iff {key : String} {value : β} {list : List (String × β)} :
    lookupEntry key list.reverse = some value ↔
      ∃ front rest, list = front ++ (key, value) :: rest ∧ key ∉ rest.map Prod.fst := by
  constructor
  · intro h
    induction list with
    | nil => cases h
    | cons e list ih =>
        rw [List.reverse_cons, lookupEntry_append] at h
        cases hlater : lookupEntry key list.reverse with
        | some found =>
            rw [hlater] at h
            obtain ⟨front, rest, rfl, hrest⟩ := ih (hlater.trans h)
            exact ⟨e :: front, rest, rfl, hrest⟩
        | none =>
            rw [hlater, Option.none_or] at h
            rw [lookupEntry_eq_none_iff, List.map_reverse, List.mem_reverse] at hlater
            obtain rfl := List.mem_singleton.mp (mem_of_lookupEntry h)
            exact ⟨[], list, rfl, hlater⟩
  · rintro ⟨front, rest, rfl, hrest⟩
    have hnone : lookupEntry key rest.reverse = none := by
      rwa [lookupEntry_eq_none_iff, List.map_reverse, List.mem_reverse]
    rw [List.reverse_append, List.reverse_cons, lookupEntry_append, lookupEntry_append, hnone]
    simp [lookupEntry]

theorem pairwise_keys (m : SortedMap β) : m.keys.Pairwise (· < ·) :=
  List.pairwise_map.mpr m.ascending

theorem nodup_keys (m : SortedMap β) : m.keys.Nodup :=
  m.pairwise_keys.imp fun {a b} (hlt : a < b) (heq : a = b) => String.lt_irrefl b (heq ▸ hlt)

theorem mem_entries_iff {m : SortedMap β} {key : String} {value : β} :
    (key, value) ∈ m.entries ↔ m.get? key = some value :=
  ⟨lookupEntry_of_mem m.nodup_keys, mem_of_lookupEntry⟩

theorem get?_eq_none_iff {m : SortedMap β} {key : String} : m.get? key = none ↔ key ∉ m.keys :=
  lookupEntry_eq_none_iff

theorem ext_get? {m n : SortedMap β} (h : ∀ key, m.get? key = n.get? key) : m = n := by
  have hmem : ∀ e, e ∈ m.entries ↔ e ∈ n.entries := by
    rintro ⟨key, value⟩
    rw [mem_entries_iff, h, ← mem_entries_iff]
  have hperm : m.entries.Perm n.entries :=
    (List.perm_ext_iff_of_nodup (List.Nodup.of_map _ m.nodup_keys)
      (List.Nodup.of_map _ n.nodup_keys)).mpr hmem
  refine eq_of_entries (hperm.eq_of_pairwise ?_ m.ascending n.ascending)
  intro a b _ _ hab hba
  exact absurd hba (String.lt_asymm hab)

/-- Of entries that are put into a map one after the other the last one with a key is found. -/
theorem get?_foldl_insert (list : List (String × β)) (m : SortedMap β) (key : String) :
    (list.foldl (fun m e => m.insert e.1 e.2) m).get? key =
      (lookupEntry key list.reverse).or (m.get? key) := by
  induction list generalizing m with
  | nil => simp [lookupEntry]
  | cons e rest ih =>
      rw [List.foldl_cons, ih, get?_insert, List.reverse_cons, lookupEntry_append]
      by_cases h : key = e.1
      · simp [lookupEntry, h]
      · simp [lookupEntry, h]

theorem get?_overlay (m upper : SortedMap β) (key : String) :
    (m.overlay upper).get? key = (upper.get? key).or (m.get? key) := by
  have hlast : lookupEntry key upper.entries.reverse = upper.get? key :=
    (lookupEntry_perm upper.entries.reverse_perm.symm upper.nodup_keys key).symm
  rw [overlay, get?_foldl_insert, hlast]

theorem get?_foldl_erase (keys : List String) (m : SortedMap β) (key : String) :
    (keys.foldl erase m).get? key = if key ∈ keys then none else m.get? key := by
  induction keys generalizing m with
  | nil => simp
  | cons k rest ih =>
      rw [List.foldl_cons, ih, get?_erase]
      by_cases h : key = k
      · simp [h]
      · simp [h]

theorem get?_without (m : SortedMap β) (other : SortedMap γ) (key : String) :
    (m.without other).get? key = if (other.get? key).isSome then none else m.get? key := by
  rw [without, get?_foldl_erase]
  cases h : other.get? key with
  | none => simp [get?_eq_none_iff.mp h]
  | some value =>
      have hmem : key ∈ other.keys := by
        by_contra hmissing
        rw [get?_eq_none_iff.mpr hmissing] at h
        cases h
      simp [hmem]

end NodeVolumes.SortedMap
