import NodeVolumes.Proofs.Cloud.Naming
import NodeVolumes.Proofs.SortedMap

/-!
# Changes of metadata

A change of metadata is told key by key: it decides about the keys that it names and leaves the
others (`get?_changed_of_some`, `get?_changed_of_none`).  From this follows that a change made twice
is made once, and that changes which name no key in common can be made in either order.  In a cloud
a change reaches one volume, the first with its identifier (`changeMetadata_eq`), so the same laws
hold there, and changes to different volumes can be made in either order too.
-/

namespace NodeVolumes.Cloud

/-! ## Lists changed in one place -/

section ModifyFirst

variable {α : Type} {p q : α → Bool} {f g : α → α}

theorem modifyFirst_of_find?_eq_none {list : List α} (h : list.find? p = none) :
    modifyFirst p f list = list := by
  induction list with
  | nil => rfl
  | cons a rest ih =>
      have hnone : ∀ b ∈ a :: rest, ¬p b = true := List.find?_eq_none.mp h
      have ha : ¬p a = true := hnone a List.mem_cons_self
      have hrest : rest.find? p = none :=
        List.find?_eq_none.mpr fun b hb => hnone b (List.mem_cons_of_mem a hb)
      simp [modifyFirst, ha, ih hrest]

theorem modifyFirst_modifyFirst (hf : ∀ a, p (f a) = p a) (list : List α) :
    modifyFirst p g (modifyFirst p f list) = modifyFirst p (fun a => g (f a)) list := by
  induction list with
  | nil => rfl
  | cons a rest ih => by_cases ha : p a = true <;> simp [modifyFirst, ha, hf, ih]

theorem modifyFirst_comm_of_disjoint (hpq : ∀ a, p a = true → q a = false)
    (hf : ∀ a, q (f a) = q a) (hg : ∀ a, p (g a) = p a) (list : List α) :
    modifyFirst p f (modifyFirst q g list) = modifyFirst q g (modifyFirst p f list) := by
  induction list with
  | nil => rfl
  | cons a rest ih =>
      by_cases hp : p a = true
      · simp [modifyFirst, hp, hpq a hp, hf]
      · by_cases hq : q a = true <;> simp [modifyFirst, hp, hq, hg, ih]

theorem mem_or_of_mem_modifyFirst {list : List α} {b : α} (h : b ∈ modifyFirst p f list) :
    b ∈ list ∨ ∃ a ∈ list, b = f a := by
  induction list with
  | nil => cases h
  | cons a rest ih =>
      by_cases ha : p a = true
      · simp only [modifyFirst, ha, if_true] at h
        rcases List.mem_cons.mp h with rfl | h
        · exact .inr ⟨a, List.mem_cons_self, rfl⟩
        · exact .inl (List.mem_cons_of_mem a h)
      · simp only [modifyFirst, ha] at h
        rcases List.mem_cons.mp h with rfl | h
        · exact .inl List.mem_cons_self
        · rcases ih h with h | ⟨c, hc, rfl⟩
          · exact .inl (List.mem_cons_of_mem a h)
          · exact .inr ⟨c, List.mem_cons_of_mem a hc, rfl⟩

theorem find?_modifyFirst_isSome (hf : ∀ a, q (f a) = q a) (list : List α) :
    ((modifyFirst p f list).find? q).isSome = (list.find? q).isSome := by
  induction list with
  | nil => rfl
  | cons a rest ih =>
      by_cases hp : p a = true
      · by_cases hq : q a = true <;> simp [modifyFirst, hp, hq, hf]
      · by_cases hq : q a = true <;> simp [modifyFirst, hp, hq, ih]

end ModifyFirst

/-! ## Metadata and volumes -/

namespace Memory

variable {change change' : MetadataChange} {old entries entries' : SortedMap String}

theorem get?_changed (change : MetadataChange) (old entries : SortedMap String) (key : String) :
    (changed change old entries).get? key =
      match entries.get? key, change with
      | none, _ => old.get? key
      | some value, .merge => some value
      | some _, .remove => none := by
  cases change with
  | merge =>
      rw [changed, SortedMap.get?_overlay]
      cases entries.get? key <;> rfl
  | remove =>
      rw [changed, SortedMap.get?_without]
      cases entries.get? key <;> rfl

theorem changed_changed (change : MetadataChange) (old entries : SortedMap String) :
    changed change (changed change old entries) entries = changed change old entries := by
  apply SortedMap.ext_get?
  intro key
  simp only [get?_changed]
  cases entries.get? key <;> cases change <;> rfl

theorem changed_comm (disjoint : ∀ key, entries.get? key = none ∨ entries'.get? key = none)
    (change change' : MetadataChange) (old : SortedMap String) :
    changed change (changed change' old entries') entries =
      changed change' (changed change old entries) entries' := by
  apply SortedMap.ext_get?
  intro key
  simp only [get?_changed]
  rcases disjoint key with h | h
  · cases hkey : entries'.get? key <;> cases change' <;> simp [h]
  · cases hkey : entries.get? key <;> cases change <;> simp [h]

end Memory

namespace Volume

structure IsChanged (change : MetadataChange) (entries : SortedMap String) (v v' : Volume) :
    Prop where
  id : v'.id = v.id
  backendHost : v'.backendHost = v.backendHost
  status : v'.status = v.status
  metadata : ∀ key, v'.metadata.get? key =
    match change with
    | .merge => (entries.get? key).or (v.metadata.get? key)
    | .remove => if (entries.get? key).isSome then none else v.metadata.get? key

def updated (change : MetadataChange) (entries : SortedMap String) (v : Volume) : Volume :=
  v.withMetadata (Memory.changed change v.metadata entries)

theorem id_updated (change : MetadataChange) (entries : SortedMap String) (id : String)
    (v : Volume) : ((v.updated change entries).id == id) = (v.id == id) := rfl

theorem isChanged_updated (change : MetadataChange) (entries : SortedMap String) (v : Volume) :
    v.IsChanged change entries (v.updated change entries) := by
  refine ⟨rfl, rfl, rfl, ?_⟩
  intro key
  refine (Memory.get?_changed change v.metadata entries key).trans ?_
  cases entries.get? key <;> cases change <;> rfl

theorem updated_updated (change : MetadataChange) (entries : SortedMap String) (v : Volume) :
    (v.updated change entries).updated change entries = v.updated change entries :=
  congrArg v.withMetadata (Memory.changed_changed change v.metadata entries)

theorem updated_comm {entries entries' : SortedMap String}
    (disjoint : ∀ key, entries.get? key = none ∨ entries'.get? key = none)
    (change change' : MetadataChange) (v : Volume) :
    (v.updated change' entries').updated change entries =
      (v.updated change entries).updated change' entries' :=
  congrArg v.withMetadata (Memory.changed_comm disjoint change change' v.metadata)

/-- The names of a volume are what its metadata hold for them, blanks around them taken away and
blank ones left out. -/
def TellsMetadata (v : Volume) : Prop :=
  (∀ name, v.displayName = some name ↔
      ∃ text, v.metadata.get? nameKey = some text ∧ Text.trim text = name ∧ name ≠ "") ∧
    ∀ wwn, v.wwn = some wwn ↔
      ∃ text, v.metadata.get? wwnKey = some text ∧ Text.trim text = wwn ∧ wwn ≠ ""

theorem nonBlank?_eq_some_iff {value : Option String} {name : String} :
    Text.nonBlank? value = some name ↔
      ∃ text, value = some text ∧ Text.trim text = name ∧ name ≠ "" := by
  cases value with
  | none => simp [Text.nonBlank?]
  | some text =>
      change Text.nonBlank text = some name ↔ _
      by_cases hblank : Text.trim text = ""
      · rw [Text.nonBlank_eq_none_iff.mpr hblank]
        constructor
        · intro h
          cases h
        · rintro ⟨text', htext, rfl, hname⟩
          cases htext
          exact absurd hblank hname
      · rw [Text.nonBlank, if_neg hblank]
        constructor
        · intro h
          cases h
          exact ⟨text, rfl, rfl, hblank⟩
        · rintro ⟨text', htext, rfl, hname⟩
          cases htext
          rfl

theorem IsConsistent.tellsMetadata {v : Volume} (h : v.IsConsistent) : v.TellsMetadata := by
  obtain ⟨hname, hwwn⟩ := h
  constructor
  · intro name
    rw [hname, nonBlank?_eq_some_iff]
  · intro wwn
    rw [hwwn, nonBlank?_eq_some_iff]

end Volume

/-! ## Clouds -/

namespace Memory

def unrecorded (m : Memory) : Memory :=
  { m with history := [] }

def updated (id : String) (change : MetadataChange) (entries : SortedMap String) (m : Memory) :
    Memory :=
  { m with volumes := modifyFirst (fun v => v.id == id) (Volume.updated change entries) m.volumes }

variable {m : Memory} {id id' : String} {entries entries' : SortedMap String}

theorem volume?_eq_none_of_unknown (h : ∀ v ∈ m.volumes, v.id ≠ id) : m.volume? id = none :=
  List.find?_eq_none.mpr fun v hv hid => h v hv (beq_iff_eq.mp hid)

theorem updated_of_volume?_eq_none (h : m.volume? id = none) (change : MetadataChange)
    (entries : SortedMap String) : m.updated id change entries = m := by
  rw [updated, modifyFirst_of_find?_eq_none h]

theorem respond_changeMetadata (m : Memory) (id : String) (entries : SortedMap String)
    (change : MetadataChange) :
    m.respond (.changeMetadata id entries change) =
      (if (m.volume? id).isSome then .ok () else .error (noVolume id),
        m.updated id change entries) := by
  cases hv : m.volume? id with
  | some v =>
      simp only [respond, hv]
      rfl
  | none =>
      simp only [respond, hv, updated_of_volume?_eq_none hv]
      rfl

theorem answer_changeMetadata (m : Memory) (id : String) (entries : SortedMap String)
    (change : MetadataChange) :
    answer (.changeMetadata id entries change) m =
      (if (m.volume? id).isSome then .ok () else .error (noVolume id),
        { m.updated id change entries with
          history := .changeMetadata id entries change :: m.history }) :=
  respond_changeMetadata _ id entries change

theorem reply_changeMetadata (m : Memory) (id : String) (entries : SortedMap String)
    (change : MetadataChange) :
    (answer (.changeMetadata id entries change) m).1 =
      if (m.volume? id).isSome then .ok () else .error (noVolume id) := by
  rw [answer_changeMetadata]

theorem unrecorded_changeMetadata (m : Memory) (id : String) (entries : SortedMap String)
    (change : MetadataChange) :
    (answer (.changeMetadata id entries change) m).2.unrecorded =
      m.unrecorded.updated id change entries := by
  rw [answer_changeMetadata]
  rfl

/-- No volume comes or goes. -/
theorem isSome_volume?_changeMetadata (m : Memory) (id id' : String) (entries : SortedMap String)
    (change : MetadataChange) :
    ((answer (.changeMetadata id entries change) m).2.volume? id').isSome =
      (m.volume? id').isSome := by
  rw [answer_changeMetadata]
  exact find?_modifyFirst_isSome (Volume.id_updated change entries id') m.volumes

theorem updated_updated (change : MetadataChange) (m : Memory) :
    (m.updated id change entries).updated id change entries = m.updated id change entries := by
  have hvolumes := modifyFirst_modifyFirst (p := fun v : Volume => v.id == id)
    (g := Volume.updated change entries)
    (Volume.id_updated change entries id) m.volumes
  simp only [Volume.updated_updated] at hvolumes
  exact congrArg (fun volumes => { m with volumes }) hvolumes

theorem updated_comm
    (independent : id ≠ id' ∨ ∀ key, entries.get? key = none ∨ entries'.get? key = none)
    (change change' : MetadataChange) (m : Memory) :
    (m.updated id' change' entries').updated id change entries =
      (m.updated id change entries).updated id' change' entries' := by
  suffices h :
      modifyFirst (fun v => v.id == id) (Volume.updated change entries)
          (modifyFirst (fun v => v.id == id') (Volume.updated change' entries') m.volumes) =
        modifyFirst (fun v => v.id == id') (Volume.updated change' entries')
          (modifyFirst (fun v => v.id == id) (Volume.updated change entries) m.volumes) from
    congrArg (fun volumes => { m with volumes }) h
  by_cases hid : id = id'
  · -- both changes reach the same volume, where they name no key in common
    subst hid
    have hkeys := independent.resolve_left fun h => h rfl
    rw [modifyFirst_modifyFirst (Volume.id_updated change' entries' id),
      modifyFirst_modifyFirst (Volume.id_updated change entries id)]
    exact congrArg (fun f => modifyFirst (fun v : Volume => v.id == id) f m.volumes)
      (funext (Volume.updated_comm hkeys change change'))
  · refine modifyFirst_comm_of_disjoint ?_ (Volume.id_updated change entries id')
      (Volume.id_updated change' entries' id) m.volumes
    intro v hv
    have hv : v.id = id := beq_iff_eq.mp hv
    exact beq_false_of_ne fun h => hid (hv.symm.trans h)

theorem exists_updated_of_volume? {v : Volume} (h : m.volume? id = some v)
    (change : MetadataChange) (entries : SortedMap String) :
    ∃ before rest v', m.volumes = before ++ v :: rest ∧ v.IsChanged change entries v' ∧
      m.updated id change entries = { m with volumes := before ++ v' :: rest } := by
  obtain ⟨hv, before, rest, hplace, hbefore⟩ := place_of_volume? h
  refine ⟨before, rest, v.updated change entries, hplace, v.isChanged_updated change entries, ?_⟩
  rw [updated, hplace, modifyFirst_append_cons hbefore (by simp [hv])]

/-! ## Names told by metadata -/

theorem volumes_respond (m : Memory) (r : Request) :
    (m.respond r).2.volumes = m.volumes ∨
      ∃ id change entries, (m.respond r).2.volumes = (m.updated id change entries).volumes := by
  cases r with
  | changeMetadata id entries change =>
      refine .inr ⟨id, change, entries, ?_⟩
      rw [respond_changeMetadata]
  | getVolume id =>
      left
      simp only [respond]
      split <;> rfl
  | attach instanceId volumeId =>
      left
      simp only [respond]
      split <;> rfl
  | detach instanceId volumeId =>
      left
      simp only [respond]
      split <;> rfl
  | findVolumes key value => exact .inl rfl
  | getAttachment instanceId volumeId => exact .inl rfl
  | listInstances => exact .inl rfl
  | listHypervisors => exact .inl rfl
  | getRegistration host => exact .inl rfl

theorem consistent_respond (r : Request) (h : ∀ v ∈ m.volumes, v.IsConsistent) :
    ∀ v ∈ (m.respond r).2.volumes, v.IsConsistent := by
  intro v hv
  rcases m.volumes_respond r with hsame | ⟨id, change, entries, hchanged⟩
  · rw [hsame] at hv
    exact h v hv
  · rw [hchanged] at hv
    rcases mem_or_of_mem_modifyFirst hv with hv | ⟨u, -, rfl⟩
    · exact h v hv
    · exact Volume.isConsistent_ofMetadata _ _ _ _

end Memory

end NodeVolumes.Cloud
