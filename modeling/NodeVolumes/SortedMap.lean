/-!
# Sorted maps

Maps from text keys, kept in ascending order of the keys, so that equal maps are equal values.

Main statements: `get?_insert` and `get?_erase` say what the two basic operations do to look-ups.
-/

namespace NodeVolumes

/-- A map from text keys to values, in ascending order of its keys. -/
structure SortedMap (β : Type) where
  entries : List (String × β)
  ascending : entries.Pairwise fun a b => a.1 < b.1
  deriving DecidableEq

namespace SortedMap

variable {β : Type}

instance [Repr β] : Repr (SortedMap β) where
  reprPrec m n := reprPrec m.entries n

def empty : SortedMap β := ⟨[], List.Pairwise.nil⟩

instance : EmptyCollection (SortedMap β) := ⟨empty⟩

/-- Puts an entry in its place in an ascending list, over an entry with its key. -/
def insertEntry (key : String) (value : β) : List (String × β) → List (String × β)
  | [] => [(key, value)]
  | (k, v) :: rest =>
      if key < k then (key, value) :: (k, v) :: rest
      else if key = k then (key, value) :: rest
      else (k, v) :: insertEntry key value rest

theorem mem_insertEntry {key : String} {value : β} {list : List (String × β)} {e : String × β}
    (h : e ∈ insertEntry key value list) : e = (key, value) ∨ e ∈ list := by
  induction list with
  | nil => simpa [insertEntry] using h
  | cons head rest ih =>
      unfold insertEntry at h
      split at h
      · simpa using h
      · split at h
        · simp only [List.mem_cons] at h ⊢
          exact h.imp id Or.inr
        · simp only [List.mem_cons] at h ⊢
          rcases h with h | h
          · exact .inr (.inl h)
          · exact (ih h).imp id Or.inr

theorem ascending_insertEntry {key : String} {value : β} {list : List (String × β)}
    (h : list.Pairwise fun a b => a.1 < b.1) :
    (insertEntry key value list).Pairwise fun a b => a.1 < b.1 := by
  induction list with
  | nil => simp [insertEntry]
  | cons head rest ih =>
      obtain ⟨hhead, hrest⟩ := List.pairwise_cons.1 h
      unfold insertEntry
      split
      · rename_i hlt
        refine List.pairwise_cons.2 ⟨fun e he => ?_, h⟩
        rcases List.mem_cons.1 he with rfl | he
        · exact hlt
        · exact String.lt_trans hlt (hhead e he)
      · rename_i hge
        split
        · rename_i heq
          subst heq
          exact List.pairwise_cons.2 ⟨fun e he => hhead e he, hrest⟩
        · rename_i hne
          refine List.pairwise_cons.2 ⟨fun e he => ?_, ih hrest⟩
          rcases mem_insertEntry he with rfl | he
          · exact Decidable.byContradiction fun hle =>
              hne (String.le_antisymm (String.not_lt.1 hle) (String.not_lt.1 hge))
          · exact hhead e he

def insert (m : SortedMap β) (key : String) (value : β) : SortedMap β :=
  ⟨insertEntry key value m.entries, ascending_insertEntry m.ascending⟩

def erase (m : SortedMap β) (key : String) : SortedMap β :=
  ⟨m.entries.filter fun e => e.1 ≠ key, m.ascending.filter _⟩

def lookupEntry (key : String) : List (String × β) → Option β
  | [] => none
  | (k, v) :: rest => if key = k then some v else lookupEntry key rest

def get? (m : SortedMap β) (key : String) : Option β :=
  lookupEntry key m.entries

def keys (m : SortedMap β) : List String :=
  m.entries.map Prod.fst

/-- The map of a list of entries, in which later ones win. -/
def ofList (list : List (String × β)) : SortedMap β :=
  list.foldl (fun m e => m.insert e.1 e.2) ∅

def overlay (m upper : SortedMap β) : SortedMap β :=
  upper.entries.foldl (fun m e => m.insert e.1 e.2) m

def without {γ : Type} (m : SortedMap β) (other : SortedMap γ) : SortedMap β :=
  other.keys.foldl erase m

theorem lookupEntry_insertEntry (key : String) (value : β) (list : List (String × β))
    (k : String) :
    lookupEntry k (insertEntry key value list) =
      if k = key then some value else lookupEntry k list := by
  induction list with
  | nil => simp [insertEntry, lookupEntry]
  | cons head rest ih =>
      unfold insertEntry
      split
      · simp [lookupEntry]
      · split
        · rename_i heq
          by_cases h : k = key <;> simp_all [lookupEntry]
        · rename_i hne
          by_cases h : k = head.1
          · simp [lookupEntry, h, Ne.symm hne]
          · simp [lookupEntry, h, ih]

theorem get?_insert (m : SortedMap β) (key : String) (value : β) (k : String) :
    (m.insert key value).get? k = if k = key then some value else m.get? k :=
  lookupEntry_insertEntry key value m.entries k

theorem lookupEntry_filter_ne (key k : String) (list : List (String × β)) :
    lookupEntry k (list.filter fun e => e.1 ≠ key) =
      if k = key then none else lookupEntry k list := by
  induction list with
  | nil => simp [lookupEntry]
  | cons head rest ih =>
      by_cases hk : head.1 = key
      · rw [List.filter_cons_of_neg (by simp [hk]), ih]
        by_cases h : k = key <;> simp [lookupEntry, h, hk]
      · rw [List.filter_cons_of_pos (by simp [hk])]
        by_cases h : k = head.1
        · simp [lookupEntry, h, hk]
        · simpa [lookupEntry, h] using ih

theorem get?_erase (m : SortedMap β) (key k : String) :
    (m.erase key).get? k = if k = key then none else m.get? k :=
  lookupEntry_filter_ne key k m.entries

theorem eq_of_entries {m n : SortedMap β} (h : m.entries = n.entries) : m = n := by
  cases m
  cases n
  cases h
  rfl

theorem insertEntry_of_above {key : String} {value : β} {list : List (String × β)}
    (above : ∀ e ∈ list, e.1 < key) : insertEntry key value list = list ++ [(key, value)] := by
  induction list with
  | nil => rfl
  | cons head rest ih =>
      have hhead : head.1 < key := above head List.mem_cons_self
      have hne : key ≠ head.1 := fun h => String.lt_irrefl key (h ▸ hhead)
      rw [insertEntry, if_neg (String.lt_asymm hhead), if_neg hne,
        ih fun e he => above e (List.mem_cons_of_mem _ he)]
      rfl

theorem entries_foldl_insert (list : List (String × β)) (m : SortedMap β)
    (ascending : (m.entries ++ list).Pairwise fun a b => a.1 < b.1) :
    (list.foldl (fun m e => m.insert e.1 e.2) m).entries = m.entries ++ list := by
  induction list generalizing m with
  | nil => simp
  | cons head rest ih =>
      have above : ∀ e ∈ m.entries, e.1 < head.1 := fun e he =>
        (List.pairwise_append.1 ascending).2.2 e he head List.mem_cons_self
      have hinsert : (m.insert head.1 head.2).entries = m.entries ++ [head] :=
        insertEntry_of_above above
      rw [List.foldl_cons, ih, hinsert, List.append_assoc]
      · rfl
      · rwa [hinsert, List.append_assoc]

/-- A map is that of its own entries. -/
theorem ofList_entries (m : SortedMap β) : ofList m.entries = m := by
  have hentries : (ofList m.entries).entries = m.entries :=
    entries_foldl_insert m.entries ∅ m.ascending
  exact eq_of_entries hentries

end SortedMap

end NodeVolumes
