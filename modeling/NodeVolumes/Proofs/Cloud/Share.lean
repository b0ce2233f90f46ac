import NodeVolumes.Proofs.Cloud.Metadata

/-!
# Shares of a cloud

What is about one volume: the volumes with an identifier and their attachments, beside all that
does not belong to volumes.  A request that names a volume is answered from the share of that
volume and leaves the shares of all others as they are (`respond_share`, `share_respond_of_ne`).
The shares together tell all volumes and, up to their order, all attachments
(`volumes_eq_of_share`, `attachments_perm_of_share`).
-/

namespace NodeVolumes.Cloud

/-! ## Lists told by the elements of each key -/

section Keyed

variable {α β γ : Type} {list list' : List α}

theorem find?_filter_self (p : α → Bool) (list : List α) :
    (list.filter p).find? p = list.find? p := by
  simp [List.find?_filter]

theorem eq_of_filter_eq [DecidableEq γ] {key : α → γ} (keys : list.map key = list'.map key)
    (same : ∀ k, list.filter (fun a => key a == k) = list'.filter (fun a => key a == k)) :
    list = list' := by
  induction list generalizing list' with
  | nil => exact (List.map_eq_nil_iff.mp keys.symm).symm
  | cons a rest ih =>
      obtain ⟨b, rest', rfl, hkey, hkeys⟩ := List.map_eq_cons_iff.mp keys.symm
      have hfirst := same (key a)
      simp only [List.filter_cons, hkey, beq_self_eq_true, if_true, List.cons.injEq] at hfirst
      obtain ⟨rfl, -⟩ := hfirst
      have hrest : rest = rest' := by
        refine ih hkeys.symm fun k => ?_
        have hk := same k
        by_cases hak : (key a == k) = true <;> simpa [List.filter_cons, hak] using hk
      rw [hrest]

theorem perm_of_filter_eq [DecidableEq α] [DecidableEq γ] (key : α → γ)
    (same : ∀ k, list.filter (fun a => key a == k) = list'.filter (fun a => key a == k)) :
    list.Perm list' := by
  refine List.perm_iff_count.mpr fun a => ?_
  have hcount : ∀ list : List α, (list.filter fun b => key b == key a).count a = list.count a :=
    fun list => List.count_filter (p := fun b => key b == key a) (beq_self_eq_true (key a))
  rw [← hcount list, same (key a), hcount list']

theorem filter_flatMap_of_forall_ne [DecidableEq γ] {key : α → γ} {part : β → List α}
    {keyOf : β → γ} {parts : List β} {k : γ} (keyed : ∀ b, ∀ a ∈ part b, key a = keyOf b)
    (other : ∀ b ∈ parts, keyOf b ≠ k) :
    (parts.flatMap part).filter (fun a => key a == k) = [] := by
  refine List.filter_eq_nil_iff.mpr fun a ha hk => ?_
  obtain ⟨b, hb, hab⟩ := List.mem_flatMap.mp ha
  exact other b hb ((keyed b a hab).symm.trans (beq_iff_eq.mp hk))

/-- Where the parts of a list have keys of their own, the elements of a key are those of its
part. -/
theorem filter_flatMap_of_pairwise [DecidableEq γ] {key : α → γ} {part : β → List α}
    {keyOf : β → γ} {parts : List β} (keyed : ∀ b, ∀ a ∈ part b, key a = keyOf b)
    (apart : parts.Pairwise fun b b' => keyOf b ≠ keyOf b') {b : β} (hb : b ∈ parts) :
    (parts.flatMap part).filter (fun a => key a == keyOf b) = part b := by
  obtain ⟨before, after, rfl⟩ := List.append_of_mem hb
  obtain ⟨-, hafter, hbefore⟩ := List.pairwise_append.mp apart
  have hself : (part b).filter (fun a => key a == keyOf b) = part b :=
    List.filter_eq_self.mpr fun a ha => beq_iff_eq.mpr (keyed b a ha)
  rw [List.flatMap_append, List.flatMap_cons, List.filter_append, List.filter_append, hself,
    filter_flatMap_of_forall_ne keyed fun c hc => hbefore c hc b List.mem_cons_self,
    filter_flatMap_of_forall_ne keyed fun c hc => ((List.pairwise_cons.mp hafter).1 c hc).symm,
    List.nil_append, List.append_nil]

end Keyed

section ModifyFirst

variable {α β : Type} {p q : α → Bool} {f : α → α}

theorem map_modifyFirst {g : α → β} (hf : ∀ a, g (f a) = g a) (list : List α) :
    (modifyFirst p f list).map g = list.map g := by
  induction list with
  | nil => rfl
  | cons a rest ih => by_cases ha : p a = true <;> simp [modifyFirst, ha, hf, ih]

theorem filter_modifyFirst (hf : ∀ a, p (f a) = p a) (list : List α) :
    (modifyFirst p f list).filter p = modifyFirst p f (list.filter p) := by
  induction list with
  | nil => rfl
  | cons a rest ih => by_cases ha : p a = true <;> simp [modifyFirst, ha, hf, ih]

theorem filter_modifyFirst_of_disjoint (hpq : ∀ a, p a = true → q a = false)
    (hf : ∀ a, q (f a) = q a) (list : List α) :
    (modifyFirst p f list).filter q = list.filter q := by
  induction list with
  | nil => rfl
  | cons a rest ih =>
      by_cases hp : p a = true
      · simp [modifyFirst, hp, hf, hpq a hp]
      · simp [modifyFirst, hp, List.filter_cons, ih]

end ModifyFirst

/-! ## Shares -/

/-- The request is about one volume, or about none. -/
def Request.KeepsTo (id : String) : Request → Prop
  | .getVolume volumeId => volumeId = id
  | .changeMetadata volumeId _ _ => volumeId = id
  | .attach _ volumeId => volumeId = id
  | .detach _ volumeId => volumeId = id
  | .getAttachment _ volumeId => volumeId = id
  | .findVolumes _ _ => False
  | .listInstances => True
  | .listHypervisors => True
  | .getRegistration _ => True

namespace Memory

/-- The cloud with the volumes of one identifier alone, and without records. -/
def share (id : String) (m : Memory) : Memory :=
  { m with
    volumes := m.volumes.filter fun v => v.id == id
    attachments := m.attachments.filter fun a => a.volumeId == id
    history := [] }

variable {m m' : Memory} {id id' : String}

theorem volume?_share (m : Memory) (id : String) : (m.share id).volume? id = m.volume? id :=
  find?_filter_self (fun v : Volume => v.id == id) m.volumes

theorem share_updated (m : Memory) (id : String) (change : MetadataChange)
    (entries : SortedMap String) :
    (m.updated id change entries).share id = (m.share id).updated id change entries := by
  have hvolumes := filter_modifyFirst (p := fun v : Volume => v.id == id)
    (Volume.id_updated change entries id) m.volumes
  exact congrArg (fun volumes => { m.share id with volumes }) hvolumes

theorem share_updated_of_ne (h : id' ≠ id) (m : Memory) (change : MetadataChange)
    (entries : SortedMap String) : (m.updated id change entries).share id' = m.share id' := by
  have hapart : ∀ v : Volume, (v.id == id) = true → (v.id == id') = false := by
    intro v hv
    exact beq_false_of_ne fun hv' => h (hv'.symm.trans (beq_iff_eq.mp hv))
  have hvolumes := filter_modifyFirst_of_disjoint hapart
    (Volume.id_updated change entries id') m.volumes
  exact congrArg (fun volumes => { m.share id' with volumes }) hvolumes

/-- The share of a volume answers what is about it. -/
theorem respond_share {r : Request} (h : r.KeepsTo id) :
    (m.share id).respond r = ((m.respond r).1, (m.respond r).2.share id) := by
  cases r with
  | getVolume volumeId =>
      cases h
      simp only [respond, volume?_share]
      split <;> rfl
  | changeMetadata volumeId entries change =>
      cases h
      rw [respond_changeMetadata, respond_changeMetadata, volume?_share, share_updated]
  | attach instanceId volumeId =>
      cases h
      cases hverdict : m.attachVerdict with
      | accept => simp [respond, share, addAttachment, hverdict]
      | refuse => simp [respond, share, hverdict]
      | fail e => simp [respond, share, hverdict]
  | detach instanceId volumeId =>
      cases h
      cases hverdict : m.detachVerdict with
      | accept => simp [respond, share, hverdict, List.filter_filter, Bool.and_comm]
      | refuse => simp [respond, share, hverdict]
      | fail e => simp [respond, share, hverdict]
  | getAttachment instanceId volumeId =>
      cases h
      have hfound := find?_filter_self (fun a : Attachment => a.volumeId == id) m.attachments
      exact congrArg (fun found => (Except.ok found, m.share id)) hfound
  | findVolumes key value => cases h
  | listInstances => rfl
  | listHypervisors => rfl
  | getRegistration host => rfl

theorem share_respond_of_ne {r : Request} (h : r.KeepsTo id) (hne : id' ≠ id) :
    (m.respond r).2.share id' = m.share id' := by
  cases r with
  | changeMetadata volumeId entries change =>
      cases h
      rw [respond_changeMetadata, share_updated_of_ne hne]
  | attach instanceId volumeId =>
      cases h
      cases hverdict : m.attachVerdict with
      | accept => simp [respond, share, addAttachment, hverdict, hne.symm]
      | refuse => simp [respond, hverdict]
      | fail e => simp [respond, hverdict]
  | detach instanceId volumeId =>
      cases h
      cases hverdict : m.detachVerdict with
      | accept =>
          have hkept : ∀ a : Attachment, (a.volumeId == id' && !a.joins instanceId id) =
              (a.volumeId == id') := by
            intro a
            by_cases ha : a.volumeId = id'
            · simp [Attachment.joins, ha, hne]
            · simp [ha]
          simp [respond, share, hverdict, List.filter_filter, hkept]
      | refuse => simp [respond, hverdict]
      | fail e => simp [respond, hverdict]
  | getVolume volumeId =>
      simp only [respond]
      split <;> rfl
  | findVolumes key value => cases h
  | getAttachment instanceId volumeId => rfl
  | listInstances => rfl
  | listHypervisors => rfl
  | getRegistration host => rfl

theorem volumes_eq_of_share (ids : m.volumes.map Volume.id = m'.volumes.map Volume.id)
    (same : ∀ id, m.share id = m'.share id) : m.volumes = m'.volumes :=
  eq_of_filter_eq ids fun id => congrArg Memory.volumes (same id)

theorem attachments_perm_of_share (same : ∀ id, m.share id = m'.share id) :
    m.attachments.Perm m'.attachments :=
  perm_of_filter_eq Attachment.volumeId fun id => congrArg Memory.attachments (same id)

end Memory

end NodeVolumes.Cloud
