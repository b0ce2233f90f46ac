import Mathlib.Data.List.Forall2
import NodeVolumes.Proofs.Placement.Attachment

/-!
# What an attachment leaves behind

An attachment writes twice, first the name of its volume and then the attachment itself, and it can
end before, between and after the two.  How it ends tells which of them are there (`Leaves`), and
nothing else in the cloud has changed (`attach_leaves`).
-/

namespace NodeVolumes

namespace Cloud

/-- The same volume up to its name. -/
structure Volume.SameButName (v v' : Volume) : Prop where
  id : v'.id = v.id
  backendHost : v'.backendHost = v.backendHost
  status : v'.status = v.status
  metadata : ∀ key, key ≠ nameKey → v'.metadata.get? key = v.metadata.get? key

theorem Volume.SameButName.refl (v : Volume) : v.SameButName v :=
  ⟨rfl, rfl, rfl, fun _ _ => rfl⟩

theorem Volume.sameButName_named (v : Volume) (name : String) : v.SameButName (v.named name) := by
  refine ⟨rfl, rfl, rfl, ?_⟩
  intro key hkey
  have hinsert := v.metadata.get?_insert nameKey name key
  rwa [if_neg hkey] at hinsert

theorem forall₂_modifyFirst {α : Type} {R : α → α → Prop} {p : α → Bool} {f : α → α}
    (same : ∀ a, R a a) (step : ∀ a, R a (f a)) (list : List α) :
    List.Forall₂ R list (modifyFirst p f list) := by
  induction list with
  | nil => exact .nil
  | cons a rest ih =>
      unfold modifyFirst
      split
      · exact .cons (step a) (List.forall₂_same.mpr fun b _ => same b)
      · exact .cons (same a) ih

/-- The same cloud up to the names of volumes and what is attached. -/
structure Memory.SameButPlacement (m m' : Memory) : Prop where
  instances : m'.instances = m.instances
  hypervisors : m'.hypervisors = m.hypervisors
  registrations : m'.registrations = m.registrations
  volumes : List.Forall₂ Volume.SameButName m.volumes m'.volumes

theorem Memory.SameButPlacement.withHistory {m m' : Memory} (h : m.SameButPlacement m')
    (history : List Request) : m.SameButPlacement { m' with history } :=
  ⟨h.instances, h.hypervisors, h.registrations, h.volumes⟩

end Cloud

namespace Placement

open Text

namespace World

/-- An attachment gets a volume from the cloud. -/
def Fetches (w : World) (d : Demand) (v : Cloud.Volume) : Prop :=
  .getVolume (trim d.volumeId) ∈ calls (attach d) w ∧ w.cloud.volume? (trim d.volumeId) = some v

/-- The cloud is asked for an attachment, and accepts. -/
def Accepts (w : World) (d : Demand) (instanceId volumeId : String) : Prop :=
  .attach instanceId volumeId ∈ calls (attach d) w ∧ w.cloud.attachVerdict = .accept

/-- The name that an attachment is given, if any, is that of its volume. -/
def Recorded (d : Demand) (after : Cloud.Memory) : Prop :=
  ∀ name, nonBlank? d.displayName = some name →
    (after.volume? (trim d.volumeId)).bind Cloud.Volume.name? = some name

/-- The volume of an attachment has been attached to an instance. -/
def Joined (d : Demand) (before after : Cloud.Memory) (instanceId : String) : Prop :=
  after.attachments = before.attachments ++
    [{ serverId := instanceId, volumeId := trim d.volumeId }]

/-- How far an attachment came, told by how it ended. -/
def Leaves (d : Demand) (before after : Cloud.Memory) : Except Error Outcome → Prop
  | .error (.missingArgument _) | .error (.correlation _) | .error (.cloud _) =>
      after.volumes = before.volumes ∧ after.attachments = before.attachments
  | .error (.attachRejected _ _ _) =>
      Recorded d after ∧ after.attachments = before.attachments
  | .error (.hypervisorNotFound _) | .error (.link _) =>
      Recorded d after ∧ ∃ instanceId, Joined d before after instanceId
  | .ok outcome => Recorded d after ∧ Joined d before after outcome.instanceId
  | .error (.detachRejected _ _ _) => False

variable {w : World} {d : Demand} {i : Cloud.Instance} {v : Cloud.Volume}

/-! ## What is asked -/

theorem getVolume_mem_finding_iff {id : String} :
    Request.cloud (.getVolume id) ∈ w.findingAttachment d ↔
      trim d.volumeId ≠ "" ∧ id = trim d.volumeId ∧ ∃ i, w.locate d.node = .ok i := by
  have hlocating : Request.cloud (.getVolume id) ∉ w.locating d.node := by
    intro h
    rcases request_of_mem_locating h with ⟨hostname, h⟩ | h <;> cases h
  unfold findingAttachment
  cases hid : required "volumeID" d.volumeId with
  | error e =>
      have hblank : trim d.volumeId = "" := by
        refine Decidable.byContradiction fun hnamed => ?_
        rw [required_eq_ok_iff.mpr ⟨hnamed, rfl⟩] at hid
        cases hid
      simp [hblank]
  | ok volumeId =>
      obtain ⟨hnamed, rfl⟩ := required_eq_ok_iff.mp hid
      cases hlocate : w.locate d.node with
      | error e => simp [hlocating]
      | ok i => simp [hlocating, hnamed]

/-- Nothing that is asked after the volume is found asks for a volume. -/
theorem getVolume_not_mem_recording {id : String} (name : Option String) :
    Request.cloud (.getVolume id) ∉ recording v.id name := by
  cases name <;> simp [recording]

theorem getVolume_not_mem_expecting {id : String} :
    Request.cloud (.getVolume id) ∉ w.expecting i v := by
  intro h
  rcases request_of_mem_expecting h with h | ⟨host, h⟩ <;> cases h

theorem getVolume_mem_calls_iff {id : String} :
    .getVolume id ∈ calls (attach d) w ↔
      Request.cloud (.getVolume id) ∈ w.findingAttachment d := by
  cases htarget : w.attachment d with
  | error e => rw [(settles_attach_of_error htarget).calls, mem_filterMap_cloud?_iff]
  | ok target =>
      cases hverdict : rejection w.cloud.attachVerdict with
      | some message =>
          rw [(settles_attach_of_reject htarget hverdict).calls, mem_filterMap_cloud?_iff]
          simp [getVolume_not_mem_recording]
      | none =>
          rw [(settles_attach_of_accept htarget hverdict).calls, mem_filterMap_cloud?_iff]
          simp [getVolume_not_mem_recording, getVolume_not_mem_expecting]

theorem fetches_iff : Fetches w d v ↔ ∃ i, w.attachment d = .ok (i, v) := by
  simp only [Fetches, getVolume_mem_calls_iff, getVolume_mem_finding_iff, attachment_eq_ok_iff]
  constructor
  · rintro ⟨⟨hnamed, -, i, hlocate⟩, hv⟩
    exact ⟨i, hnamed, hlocate, hv⟩
  · rintro ⟨i, hnamed, hlocate, hv⟩
    exact ⟨⟨hnamed, trivial, i, hlocate⟩, hv⟩

theorem accepts_iff {instanceId volumeId : String} :
    Accepts w d instanceId volumeId ↔
      (∃ i v, w.attachment d = .ok (i, v) ∧ i.id = instanceId ∧ v.id = volumeId) ∧
        w.cloud.attachVerdict = .accept := by
  constructor
  · rintro ⟨hcalled, haccept⟩
    exact ⟨attachment_of_mem_calls hcalled, haccept⟩
  · rintro ⟨⟨i, v, htarget, rfl, rfl⟩, haccept⟩
    refine ⟨?_, haccept⟩
    have hchanges := changes_attach w d
    rw [htarget] at hchanges
    have hmem : Cloud.Request.attach i.id v.id ∈ changes (attach d) w := by
      rw [hchanges]
      simp
    exact (List.mem_filter.mp hmem).1

/-! ## How it ends -/

theorem attachment_error_cases {e : Error} (h : w.attachment d = .error e) :
    (∃ name, e = .missingArgument name) ∨ (∃ fault, e = .correlation fault) ∨
      ∃ fault, e = .cloud fault := by
  unfold attachment at h
  cases hid : required "volumeID" d.volumeId with
  | error e' =>
      rw [hid] at h
      cases h
      unfold required at hid
      split at hid
      · cases hid
      · cases hid
        exact .inl ⟨_, rfl⟩
  | ok volumeId =>
      simp only [hid] at h
      split at h
      · cases h
        exact .inr (.inl ⟨_, rfl⟩)
      · split at h
        · cases h
          exact .inr (.inr ⟨_, rfl⟩)
        · cases h

/-- Where instances could be listed, hypervisors can. -/
theorem expected_cases (listed : w.cloud.listError = none) :
    (∃ outcome, w.expected i v = .ok outcome ∧ outcome.instanceId = i.id) ∨
      (∃ hostname, w.expected i v = .error (.hypervisorNotFound hostname)) ∨
      ∃ fault, w.expected i v = .error (.link fault) := by
  unfold expected hypervisor
  rw [listed]
  cases w.cloud.hypervisors.find? fun h => h.hostname == i.hypervisorHost with
  | none => exact .inr (.inl ⟨_, rfl⟩)
  | some h =>
      dsimp only
      unfold linked
      cases Disk.link h.kind (w.backendOn h.kind v) v with
      | error fault => exact .inr (.inr ⟨_, rfl⟩)
      | ok path => exact .inl ⟨_, rfl, rfl⟩

/-! ## What is left -/

theorem sameButPlacement_withName (w : World) (volumeId : String) (name : Option String) :
    w.cloud.SameButPlacement (w.withName volumeId name).cloud := by
  cases name with
  | none => exact ⟨rfl, rfl, rfl, List.forall₂_same.mpr fun v _ => .refl v⟩
  | some name =>
      exact ⟨rfl, rfl, rfl,
        Cloud.forall₂_modifyFirst Cloud.Volume.SameButName.refl
          (fun v => v.sameButName_named name) w.cloud.volumes⟩

theorem attachments_withName (w : World) (volumeId : String) (name : Option String) :
    (w.withName volumeId name).cloud.attachments = w.cloud.attachments := by
  cases name <;> rfl

theorem recorded_withName (htarget : w.attachment d = .ok (i, v)) :
    Recorded d (w.withName v.id (nonBlank? d.displayName)).cloud := by
  obtain ⟨-, -, hv⟩ := attachment_eq_ok_iff.mp htarget
  have hid := (Cloud.Memory.place_of_volume? hv).1
  intro name hname
  rw [hname]
  have hnamed : (w.cloud.withName v.id name).volume? v.id = some (v.named name) :=
    Cloud.Memory.volume?_withName (volume?_of_attachment htarget)
  rw [← hid]
  change ((w.cloud.withName v.id name).volume? v.id).bind Cloud.Volume.name? = some name
  rw [hnamed]
  exact v.name?_named name

theorem sameButPlacement_remains (w : World) (d : Demand) :
    w.cloud.SameButPlacement (w.remains d).cloud := by
  have hsame := fun v : Cloud.Volume =>
    sameButPlacement_withName w v.id (nonBlank? d.displayName)
  unfold remains
  split
  · exact sameButPlacement_withName w "" none
  · split
    · exact hsame _
    · exact ⟨(hsame _).instances, (hsame _).hypervisors, (hsame _).registrations, (hsame _).volumes⟩

theorem attachments_remains (w : World) (d : Demand) :
    (w.remains d).cloud.attachments =
      match w.attachment d, rejection w.cloud.attachVerdict with
      | .ok (i, v), none => w.cloud.attachments ++ [{ serverId := i.id, volumeId := v.id }]
      | _, _ => w.cloud.attachments := by
  unfold remains
  cases w.attachment d with
  | error e => rfl
  | ok target =>
      have hkept := attachments_withName w target.2.id (nonBlank? d.displayName)
      cases rejection w.cloud.attachVerdict with
      | some message => exact hkept
      | none => exact congrArg (· ++ _) hkept

theorem leaves_remains (w : World) (d : Demand) :
    Leaves d w.cloud (w.remains d).cloud (attempt (attach d) w).1 := by
  cases htarget : w.attachment d with
  | error e =>
      have hresult := congrArg Prod.fst (settles_attach_of_error htarget).attempt
      have hremains : w.remains d = w := by simp [remains, htarget]
      rw [hresult, hremains]
      rcases attachment_error_cases htarget with ⟨name, rfl⟩ | ⟨fault, rfl⟩ | ⟨fault, rfl⟩ <;>
        exact ⟨rfl, rfl⟩
  | ok target =>
      obtain ⟨i, v⟩ := target
      obtain ⟨-, hlocate, hv⟩ := attachment_eq_ok_iff.mp htarget
      have hid := (Cloud.Memory.place_of_volume? hv).1
      have hrecorded := recorded_withName htarget
      have hkept := attachments_withName w v.id (nonBlank? d.displayName)
      cases hverdict : rejection w.cloud.attachVerdict with
      | some message =>
          have hresult := congrArg Prod.fst (settles_attach_of_reject htarget hverdict).attempt
          have hremains : w.remains d = w.withName v.id (nonBlank? d.displayName) := by
            simp [remains, htarget, hverdict]
          rw [hresult, hremains]
          exact ⟨hrecorded, hkept⟩
      | none =>
          have hresult := congrArg Prod.fst (settles_attach_of_accept htarget hverdict).attempt
          have hremains : w.remains d =
              (w.withName v.id (nonBlank? d.displayName)).attached i v := by
            simp [remains, htarget, hverdict]
          have hjoined : Joined d w.cloud (w.remains d).cloud i.id := by
            rw [Joined, attachments_remains, htarget, hverdict, ← hid]
          rw [hremains] at hjoined
          rw [hresult, hremains]
          rcases expected_cases (i := i) (v := v) (locate_eq_ok_iff.mp hlocate).1 with
            ⟨outcome, hexpected, howner⟩ | ⟨hostname, hexpected⟩ | ⟨fault, hexpected⟩
          · rw [hexpected]
            exact ⟨hrecorded, howner ▸ hjoined⟩
          · rw [hexpected]
            exact ⟨hrecorded, i.id, hjoined⟩
          · rw [hexpected]
            exact ⟨hrecorded, i.id, hjoined⟩

theorem Leaves.congr {before after after' : Cloud.Memory} {result : Except Error Outcome}
    (hvolumes : after'.volumes = after.volumes)
    (hattachments : after'.attachments = after.attachments)
    (h : Leaves d before after result) : Leaves d before after' result := by
  have hrecorded : Recorded d after → Recorded d after' := by
    intro hafter
    rwa [Recorded, Cloud.Memory.volume?, hvolumes]
  unfold Leaves at h ⊢
  split
  all_goals simp_all [Joined]

/-- A name that is given comes to be on the volume that was fetched, in its place. -/
theorem exists_place_remains {name : String} (hfetched : Fetches w d v)
    (hname : nonBlank? d.displayName = some name) :
    ∃ front rest, w.cloud.volumes = front ++ v :: rest ∧
      (w.remains d).cloud.volumes = front ++ v.named name :: rest := by
  obtain ⟨i, htarget⟩ := fetches_iff.mp hfetched
  obtain ⟨hid, front, rest, hplace, hfront⟩ :=
    Cloud.Memory.place_of_volume? (volume?_of_attachment htarget)
  refine ⟨front, rest, hplace, ?_⟩
  rw [volumes_remains, htarget, hname]
  exact Cloud.Memory.volumes_withName_of_place hplace hfront hid

theorem volumes_remains_of_unnamed
    (unnamed : (∀ v, ¬Fetches w d v) ∨ nonBlank? d.displayName = none) :
    (w.remains d).cloud.volumes = w.cloud.volumes := by
  rw [volumes_remains]
  cases htarget : w.attachment d with
  | error e => rfl
  | ok target =>
      rcases unnamed with hunfetched | hnone
      · exact absurd (fetches_iff.mpr ⟨target.1, htarget⟩) (hunfetched target.2)
      · rw [hnone]
        rfl

theorem attachments_remains_of_accepts {instanceId volumeId : String}
    (h : Accepts w d instanceId volumeId) :
    (w.remains d).cloud.attachments =
      w.cloud.attachments ++ [{ serverId := instanceId, volumeId := volumeId }] := by
  obtain ⟨⟨i, v, htarget, rfl, rfl⟩, haccept⟩ := accepts_iff.mp h
  rw [attachments_remains, htarget, haccept]
  rfl

theorem attachments_remains_of_not_accepts
    (h : ∀ instanceId volumeId, ¬Accepts w d instanceId volumeId) :
    (w.remains d).cloud.attachments = w.cloud.attachments := by
  rw [attachments_remains]
  cases htarget : w.attachment d with
  | error e => rfl
  | ok target =>
      cases hverdict : w.cloud.attachVerdict with
      | accept =>
          have haccepts := accepts_iff.mpr ⟨⟨target.1, target.2, htarget, rfl, rfl⟩, hverdict⟩
          exact absurd haccepts (h _ _)
      | refuse => rfl
      | fail e => rfl

/--
Whatever becomes of an attachment, all that it has changed is the name of the volume that it
fetched, if it was given one, and one attachment more, if the cloud accepted it; and how it ends
tells which of the two are there.
-/
theorem attach_leaves (w : World) (d : Demand) :
    let result := (attempt (attach d) w).1
    let before := w.cloud
    let after := (attempt (attach d) w).2.cloud
    before.SameButPlacement after ∧
      (∀ v name, Fetches w d v → nonBlank? d.displayName = some name →
        ∃ front rest, before.volumes = front ++ v :: rest ∧
          after.volumes = front ++ v.named name :: rest) ∧
      ((∀ v, ¬Fetches w d v) ∨ nonBlank? d.displayName = none →
        after.volumes = before.volumes) ∧
      (∀ instanceId volumeId, Accepts w d instanceId volumeId →
        after.attachments =
          before.attachments ++ [{ serverId := instanceId, volumeId := volumeId }]) ∧
      ((∀ instanceId volumeId, ¬Accepts w d instanceId volumeId) →
        after.attachments = before.attachments) ∧
      Leaves d before after result := by
  have hsame := sameButPlacement_remains w d
  have hleaves := leaves_remains w d
  obtain ⟨history, hafter⟩ := exists_cloud_after_attach w d
  generalize (attempt (attach d) w).1 = result at hleaves ⊢
  generalize (attempt (attach d) w).2.cloud = after at hafter ⊢
  have hvolumes : after.volumes = (w.remains d).cloud.volumes := by rw [hafter]
  have hattachments : after.attachments = (w.remains d).cloud.attachments := by rw [hafter]
  refine ⟨?_, ?_, ?_, ?_, ?_, hleaves.congr hvolumes hattachments⟩
  · rw [hafter]
    exact hsame.withHistory history
  · intro v name hfetched hname
    rw [hvolumes]
    exact exists_place_remains hfetched hname
  · intro unnamed
    rw [hvolumes]
    exact volumes_remains_of_unnamed unnamed
  · intro instanceId volumeId haccepts
    rw [hattachments]
    exact attachments_remains_of_accepts haccepts
  · intro hrejected
    rw [hattachments]
    exact attachments_remains_of_not_accepts hrejected

/-- A volume without a world-wide name is attached and has its new name, although no device can be
told for it. -/
theorem attach_leaves_unlinked :
    let d : Demand := ⟨" vol_2 ", some " disk ", "1.2.3.4"⟩
    let v := Cloud.Volume.ofMetadata "vol_2" "svc" "available"
      (SortedMap.empty.insert Cloud.nameKey "data")
    let after := (attempt (attach d) oneNamed).2.cloud
    (attempt (attach d) oneNamed).1 = .error (.link (.missingWwn "vol_2")) ∧
      Fetches oneNamed d v ∧ Accepts oneNamed d "vm_1" "vol_2" ∧
      (∃ front rest, oneNamed.cloud.volumes = front ++ v :: rest ∧
        after.volumes = front ++ v.named "disk" :: rest) ∧
      after.attachments = [{ serverId := "vm_1", volumeId := "vol_2" }] := by
  intro d v after
  have hfetches : Fetches oneNamed d v := by
    unfold Fetches
    decide +kernel
  have haccepts : Accepts oneNamed d "vm_1" "vol_2" := by
    unfold Accepts
    decide +kernel
  obtain ⟨-, hnamed, -, hjoined, -, -⟩ := attach_leaves oneNamed d
  exact ⟨by decide +kernel, hfetches, haccepts, hnamed v "disk" hfetches (by decide +kernel),
    hjoined "vm_1" "vol_2" haccepts⟩

end World

end Placement

end NodeVolumes
