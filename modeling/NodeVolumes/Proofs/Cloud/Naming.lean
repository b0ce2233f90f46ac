import NodeVolumes.Cloud.Memory

/-!
# Names on volumes

The name that a volume has in the cluster is a metadata entry of its own.  Recording a name
changes the first volume with an identifier and leaves the others (`Memory.others`) as they are,
so afterwards the name is that volume's alone exactly if none of the others had it
(`carriers_withName`), and names stay unique under the same condition
(`namesUnique_withName_iff`).
-/

namespace NodeVolumes.Cloud

theorem modifyFirst_append_cons {α : Type} {p : α → Bool} {f : α → α} {before rest : List α}
    {a : α} (hbefore : ∀ b ∈ before, p b = false) (ha : p a = true) :
    modifyFirst p f (before ++ a :: rest) = before ++ f a :: rest := by
  induction before with
  | nil => simp [modifyFirst, ha]
  | cons b more ih =>
      have hb := hbefore b List.mem_cons_self
      have hmore := ih fun c hc => hbefore c (List.mem_cons_of_mem b hc)
      simp [modifyFirst, hb, hmore]

namespace Volume

def name? (v : Volume) : Option String :=
  v.metadata.get? nameKey

theorem hasMetadata_nameKey {v : Volume} {name : String} :
    v.hasMetadata nameKey name = true ↔ v.name? = some name := by
  simp [hasMetadata, name?]

def named (v : Volume) (name : String) : Volume :=
  v.withMetadata (v.metadata.insert nameKey name)

@[simp] theorem id_named (v : Volume) (name : String) : (v.named name).id = v.id := rfl

@[simp] theorem name?_named (v : Volume) (name : String) : (v.named name).name? = some name := by
  have h := v.metadata.get?_insert nameKey name nameKey
  rwa [if_pos rfl] at h

end Volume

namespace Memory

def others (m : Memory) (id : String) : List Volume :=
  m.volumes.eraseP fun v => v.id == id

def carriers (m : Memory) (name : String) : List Volume :=
  m.volumes.filter fun v => v.hasMetadata nameKey name

def names (m : Memory) : List String :=
  m.volumes.filterMap Volume.name?

/-- No two volumes have the same name. -/
def NamesUnique (m : Memory) : Prop :=
  m.names.Nodup

instance (m : Memory) : Decidable m.NamesUnique :=
  inferInstanceAs (Decidable m.names.Nodup)

def withName (m : Memory) (id name : String) : Memory :=
  { m with volumes := modifyFirst (fun v => v.id == id) (fun v => v.named name) m.volumes }

theorem namesUnique_congr {m m' : Memory} (h : m.volumes = m'.volumes) :
    m.NamesUnique ↔ m'.NamesUnique := by
  rw [NamesUnique, NamesUnique, names, names, h]

theorem length_carriers (m : Memory) (name : String) :
    (m.carriers name).length = m.names.count name := by
  rw [names, List.count_filterMap, carriers, ← List.countP_eq_length_filter]
  rfl

theorem namesUnique_iff {m : Memory} :
    m.NamesUnique ↔ ∀ name, (m.carriers name).length ≤ 1 := by
  simp only [length_carriers]
  exact List.nodup_iff_count

/-! ## The place of a volume -/

/-- A volume that is found stands behind volumes with other identifiers. -/
theorem place_of_volume? {m : Memory} {id : String} {v : Volume} (h : m.volume? id = some v) :
    v.id = id ∧ ∃ before rest, m.volumes = before ++ v :: rest ∧
      ∀ u ∈ before, (u.id == id) = false := by
  obtain ⟨hv, before, rest, hplace, hbefore⟩ := List.find?_eq_some_iff_append.mp h
  exact ⟨eq_of_beq hv, before, rest, hplace, fun u hu => by simpa using hbefore u hu⟩

variable {m : Memory} {id name : String} {v : Volume} {before rest : List Volume}

theorem others_of_place (hplace : m.volumes = before ++ v :: rest)
    (hbefore : ∀ u ∈ before, (u.id == id) = false) (hv : v.id = id) :
    m.others id = before ++ rest := by
  have hnone : ∀ u ∈ before, ¬(u.id == id) = true := fun u hu => by simp [hbefore u hu]
  rw [others, hplace, List.eraseP_append_right _ hnone, List.eraseP_cons_of_pos (by simp [hv])]

theorem volumes_withName_of_place (hplace : m.volumes = before ++ v :: rest)
    (hbefore : ∀ u ∈ before, (u.id == id) = false) (hv : v.id = id) :
    (m.withName id name).volumes = before ++ v.named name :: rest := by
  rw [withName, hplace]
  exact modifyFirst_append_cons hbefore (by simp [hv])

theorem volume?_withName (h : m.volume? id = some v) :
    (m.withName id name).volume? id = some (v.named name) := by
  obtain ⟨hv, before, rest, hplace, hbefore⟩ := place_of_volume? h
  have hnone : ∀ u ∈ before, ¬(u.id == id) = true := fun u hu => by simp [hbefore u hu]
  rw [volume?, volumes_withName_of_place hplace hbefore hv, List.find?_append,
    List.find?_eq_none.mpr hnone]
  simp [hv]

/-! ## Whose name it is -/

/-- A recorded name is of one volume alone if none of the others has it. -/
theorem carriers_withName (h : m.volume? id = some v)
    (alone : ∀ u ∈ m.others id, u.name? ≠ some name) :
    (m.withName id name).carriers name = [v.named name] := by
  obtain ⟨hv, before, rest, hplace, hbefore⟩ := place_of_volume? h
  rw [others_of_place hplace hbefore hv] at alone
  have hnone : ∀ list : List Volume, (∀ u ∈ list, u ∈ before ++ rest) →
      list.filter (fun u => u.hasMetadata nameKey name) = [] := by
    intro list hlist
    refine List.filter_eq_nil_iff.mpr fun u hu => ?_
    rw [Volume.hasMetadata_nameKey]
    exact alone u (hlist u hu)
  have hself : (v.named name).hasMetadata nameKey name = true :=
    Volume.hasMetadata_nameKey.mpr (v.name?_named name)
  rw [carriers, volumes_withName_of_place hplace hbefore hv, List.filter_append,
    List.filter_cons, if_pos hself,
    hnone before fun u hu => List.mem_append_left rest hu,
    hnone rest fun u hu => List.mem_append_right before hu]
  rfl

/-- Recording a name keeps names unique exactly if none of the other volumes has it. -/
theorem namesUnique_withName_iff (h : m.volume? id = some v) (unique : m.NamesUnique) :
    (m.withName id name).NamesUnique ↔ ∀ u ∈ m.others id, u.name? ≠ some name := by
  obtain ⟨hv, before, rest, hplace, hbefore⟩ := place_of_volume? h
  rw [others_of_place hplace hbefore hv]
  have hrest : ((before ++ rest).filterMap Volume.name?).Nodup := by
    rw [NamesUnique, names, hplace] at unique
    refine unique.sublist (List.Sublist.filterMap _ ?_)
    exact (List.sublist_cons_self v rest).append_left before
  -- up to order the recorded name comes first, so that uniqueness splits at it
  have hperm : ((before ++ v.named name :: rest).filterMap Volume.name?).Perm
      (name :: (before ++ rest).filterMap Volume.name?) := by
    have hmiddle := List.Perm.filterMap Volume.name?
      (List.perm_middle : (before ++ v.named name :: rest).Perm _)
    rwa [List.filterMap_cons_some (v.name?_named name)] at hmiddle
  rw [NamesUnique, names, volumes_withName_of_place hplace hbefore hv, hperm.nodup_iff,
    List.nodup_cons]
  constructor
  · rintro ⟨hfresh, -⟩ u hu hname
    exact hfresh (List.mem_filterMap.mpr ⟨u, hu, hname⟩)
  · intro hfresh
    refine ⟨fun hmem => ?_, hrest⟩
    obtain ⟨u, hu, hname⟩ := List.mem_filterMap.mp hmem
    exact hfresh u hu hname

end Memory

end NodeVolumes.Cloud
