import NodeVolumes.Proofs.Placement.Attachment

/-!
# Detaching what was attached

An accepted attachment leaves a world in which the recorded name and the node single out what was
attached (`singlesOut_attached`), provided that no other volume had the name before.  So detaching
by that name takes back that attachment and nothing else (`detach_after_attach`).
-/

namespace NodeVolumes.Placement.World

open Text

variable {w : World} {d : Demand} {volumeName node label : String} {i : Cloud.Instance}
  {v : Cloud.Volume} {requests : List Request}

/-- Names are looked up in a host table whatever was looked up before. -/
theorem addressOf?_noted : addressOf? (w.noted requests).names node = addressOf? w.names node := by
  simp only [addressOf?, Net.HostTable.addresses?, names_noted]

theorem singlesOut_noted_iff :
    SinglesOut (w.noted requests) volumeName node v i ↔ SinglesOut w volumeName node v i := by
  constructor
  · rintro ⟨hnamed, hcarrier, hlisted, hport⟩
    rw [addressOf?_noted] at hport
    rw [cloud_noted] at hcarrier hlisted hport
    exact ⟨hnamed, hcarrier, hlisted, hport⟩
  · rintro ⟨hnamed, hcarrier, hlisted, hport⟩
    refine ⟨hnamed, ?_, ?_, ?_⟩
    · rw [cloud_noted]
      exact hcarrier
    · rw [cloud_noted]
      exact hlisted
    · rw [addressOf?_noted, cloud_noted]
      exact hport

/-- A recorded name and the node single out what was attached. -/
theorem singlesOut_attached (htarget : w.attachment d = .ok (i, v)) (named : trim label ≠ "")
    (alone : ∀ u ∈ w.cloud.others v.id, u.name? ≠ some (trim label)) :
    SinglesOut ((w.withName v.id (some (trim label))).attached i v) label d.node
      (v.named (trim label)) i := by
  obtain ⟨-, hlocate, -⟩ := attachment_eq_ok_iff.mp htarget
  obtain ⟨hlisted, hport⟩ := locate_eq_ok_iff.mp hlocate
  have hcarrier : (w.cloud.withName v.id (trim label)).carriers (trim label) =
      [v.named (trim label)] :=
    Cloud.Memory.carriers_withName (volume?_of_attachment htarget) alone
  exact ⟨named, hcarrier, hlisted, hport⟩

theorem exists_noted_attached (htarget : w.attachment d = .ok (i, v))
    (accepts : w.cloud.attachVerdict = .accept) :
    ∃ requests, (attempt (attach d) w).2 =
      ((w.withName v.id (nonBlank? d.displayName)).attached i v).noted requests := by
  have hsettles := settles_attach_of_accept htarget (by rw [accepts]; rfl)
  exact ⟨_, congrArg Prod.snd hsettles.attempt⟩

/-- What is singled out is detached, and nothing else. -/
theorem detach_of_singlesOut (h : SinglesOut w volumeName node v i)
    (accepts : w.cloud.detachVerdict = .accept) :
    (attempt (detach volumeName node) w).1 = .ok v ∧
      (calls (detach volumeName node) w).filter Cloud.Request.detaches = [.detach i.id v.id] ∧
      (attempt (detach volumeName node) w).2.cloud.attachments =
        (w.cloud.attachments.filter fun a => !a.joins i.id v.id) ∧
      (attempt (detach volumeName node) w).2.cloud.volumes = w.cloud.volumes := by
  have htarget : w.detachment volumeName node = .ok (v, i) := detachment_eq_ok_iff.mpr h
  have hcalls := filter_detaches_calls_detach w volumeName node
  have hrun := (settles_detach_of_target htarget).attempt
  rw [htarget] at hcalls
  rw [accepts] at hrun
  refine ⟨congrArg Prod.fst hrun, hcalls, ?_, ?_⟩
  · rw [hrun, cloud_noted]
    rfl
  · rw [hrun, cloud_noted]
    rfl

/-- Taking an attachment back leaves those that do not join the same two. -/
theorem filter_attachments_attached :
    ((w.attached i v).cloud.attachments.filter fun a => !a.joins i.id v.id) =
      w.cloud.attachments.filter fun a => !a.joins i.id v.id := by
  simp [attached, Cloud.Memory.addAttachment, Cloud.Attachment.joins]

/--
Once the cloud has accepted to attach a volume under a name that no other volume has, detaching by
that name succeeds, for the same volume and the same instance, whether or not the attachment could
tell where the device would be seen.  Only the name on the volume stays.
-/
theorem detach_after_attach {w : World} {volumeId name node instanceId volume : String}
    (named : trim name ≠ "") (attaches : w.cloud.attachVerdict = .accept)
    (detaches : w.cloud.detachVerdict = .accept)
    (called : .attach instanceId volume ∈ calls (attach ⟨volumeId, some name, node⟩) w)
    (alone : ∀ u ∈ w.cloud.others (trim volumeId), u.name? ≠ some (trim name)) :
    let after := (attempt (attach ⟨volumeId, some name, node⟩) w).2
    let detached := (attempt (detach name node) after).2.cloud
    volume = trim volumeId ∧
      ∃ v, (attempt (detach name node) after).1 = .ok v ∧ v.id = volume ∧
        after.cloud.volume? volume = some v ∧ v.name? = some (trim name) ∧
        (calls (detach name node) after).filter Cloud.Request.detaches =
          [.detach instanceId volume] ∧
        detached.attachments =
          (w.cloud.attachments.filter fun a => !a.joins instanceId volume) ∧
        detached.volumes = after.cloud.volumes := by
  obtain ⟨i, v, htarget, rfl, rfl⟩ := attachment_of_mem_calls called
  have hfound := volume?_of_attachment htarget
  obtain ⟨-, -, hvolume⟩ := attachment_eq_ok_iff.mp htarget
  have hid : v.id = trim volumeId := (Cloud.Memory.place_of_volume? hvolume).1
  have hname : nonBlank? (some name) = some (trim name) := by
    simp [nonBlank?, nonBlank, named]
  obtain ⟨requests, hafter⟩ := exists_noted_attached htarget attaches
  rw [hname] at hafter
  rw [hafter]
  have hsingles : SinglesOut
      (((w.withName v.id (some (trim name))).attached i v).noted requests) name node
      (v.named (trim name)) i :=
    singlesOut_noted_iff.mpr (singlesOut_attached htarget named (hid ▸ alone))
  have hverdict : (((w.withName v.id (some (trim name))).attached i v).noted
      requests).cloud.detachVerdict = .accept := by
    rw [cloud_noted]
    exact detaches
  obtain ⟨hresult, hcalls, hattachments, hvolumes⟩ := detach_of_singlesOut hsingles hverdict
  refine ⟨hid, v.named (trim name), hresult, rfl, ?_, v.name?_named (trim name), hcalls, ?_,
    hvolumes⟩
  · rw [cloud_noted]
    exact Cloud.Memory.volume?_withName hfound
  · rw [hattachments, cloud_noted]
    exact filter_attachments_attached (w := w.withName v.id (some (trim name)))

/-- The small cloud without its hypervisors, where no device is expected anywhere. -/
def unhosted : World :=
  ⟨{ Cloud.Memory.reference with hypervisors := [] }, {}⟩

/-- An attachment that fails for want of a hypervisor can be taken back. -/
theorem detach_after_attach_unhosted :
    let after := attempt (attach ⟨" vol_1 ", some " data ", "1.2.3.4"⟩) unhosted
    after.1.toOption = none ∧
      ∃ v, (attempt (detach " data " "1.2.3.4") after.2).1 = .ok v ∧ v.id = "vol_1" ∧
        v.name? = some (trim " data ") := by
  have hcalled : .attach "vm_1" "vol_1" ∈
      calls (attach ⟨" vol_1 ", some " data ", "1.2.3.4"⟩) unhosted := by decide +kernel
  obtain ⟨-, v, hresult, hid, -, hname, -⟩ :=
    detach_after_attach (w := unhosted) (by decide +kernel) rfl rfl hcalled (by decide +kernel)
  exact ⟨by decide +kernel, v, hresult, hid, hname⟩

end NodeVolumes.Placement.World
