import NodeVolumes.Proofs.Cloud.Share
import NodeVolumes.Proofs.Flow.Interleaving
import NodeVolumes.Proofs.Placement.Remains

/-!
# Attachments at the same time

An attachment reads its volume and then writes to it, so two that overlap may read and write in any
order.  All that an attachment asks is about its own volume or about none (`keepsTo_of_mem_asked`),
and the shares of different volumes are separate (`separate_share`).  Attachments of different
volumes therefore end as they do alone, and leave what they leave one after the other, whatever the
order of their requests (`attach_overlapping`).
-/

namespace NodeVolumes

def Cloud.Request.attachment? : Cloud.Request → Option Cloud.Attachment
  | .attach instanceId volumeId => some { serverId := instanceId, volumeId := volumeId }
  | _ => none

namespace Placement

open Text

def Request.KeepsTo (id : String) : Request → Prop
  | .cloud r => r.KeepsTo id
  | .addresses _ => True

namespace World

/-- The world with the volumes of one identifier alone, and without records. -/
def share (id : String) (w : World) : World :=
  ⟨w.cloud.share id, { w.names with history := [] }⟩

theorem attachments_share (id : String) (w : World) :
    (w.share id).cloud.attachments =
      w.cloud.attachments.filter fun a => a.volumeId == id := rfl

theorem share_note (id : String) (r : Request) (w : World) : (note r w).share id = w.share id := by
  cases r <;> rfl

theorem separate_share : Flow.Separate (I := interface) answer reply share Request.KeepsTo where
  reply := by
    intro id r w h
    rw [answer_eq_note_reply]
    cases r with
    | addresses hostname => rfl
    | cloud r => exact (congrArg Prod.fst (Cloud.Memory.respond_share h)).symm
  view_own := by
    intro id r w h
    rw [answer_eq_note_reply, share_note]
    cases r with
    | addresses hostname => rfl
    | cloud r =>
        have hcloud := congrArg Prod.snd (Cloud.Memory.respond_share (m := w.cloud) h)
        exact congrArg (fun cloud => (⟨cloud, _⟩ : World)) hcloud.symm
  view_other := by
    intro id id' r w h hne
    rw [answer_eq_note_reply, share_note]
    cases r with
    | addresses hostname => rfl
    | cloud r =>
        have hcloud := Cloud.Memory.share_respond_of_ne (m := w.cloud) h hne
        exact congrArg (fun cloud => (⟨cloud, _⟩ : World)) hcloud

/-- No answer brings a volume or takes one away. -/
theorem ids_answer (r : Request) (w : World) :
    (answer r w).2.cloud.volumes.map Cloud.Volume.id = w.cloud.volumes.map Cloud.Volume.id := by
  rw [answer_eq_note_reply]
  cases r with
  | addresses hostname => rfl
  | cloud r =>
      rcases w.cloud.volumes_respond r with hsame | ⟨id, change, entries, hchanged⟩
      · exact congrArg (List.map Cloud.Volume.id) hsame
      · refine (congrArg (List.map Cloud.Volume.id) hchanged).trans ?_
        exact Cloud.map_modifyFirst (f := Cloud.Volume.updated change entries)
          (g := Cloud.Volume.id) (fun _ => rfl) w.cloud.volumes

variable {w : World} {d : Demand} {i : Cloud.Instance} {v : Cloud.Volume} {id : String}

/-! ## What an attachment asks -/

theorem keepsTo_of_mem_locating {node : String} {r : Request} (h : r ∈ w.locating node) :
    r.KeepsTo id := by
  rcases request_of_mem_locating h with ⟨hostname, rfl⟩ | rfl <;> trivial

theorem keepsTo_of_mem_findingAttachment {r : Request} (h : r ∈ w.findingAttachment d) :
    r.KeepsTo (trim d.volumeId) := by
  rcases request_of_mem_findingAttachment h with h | rfl
  · exact keepsTo_of_mem_locating h
  · exact rfl

theorem keepsTo_of_mem_recording {name : Option String} {r : Request}
    (h : r ∈ recording id name) : r.KeepsTo id := by
  cases name with
  | none => cases h
  | some name =>
      rw [List.mem_singleton.mp h]
      exact rfl

theorem keepsTo_of_mem_expecting {r : Request} (h : r ∈ w.expecting i v) : r.KeepsTo id := by
  rcases request_of_mem_expecting h with rfl | ⟨host, rfl⟩ <;> trivial

/-- All that an attachment asks is about the volume that it is given, or about none. -/
theorem keepsTo_of_mem_asked {r : Request} (h : r ∈ ((attach d).run.play reply w).asked) :
    r.KeepsTo (trim d.volumeId) := by
  cases htarget : w.attachment d with
  | error e =>
      rw [(settles_attach_of_error htarget).asked_eq] at h
      exact keepsTo_of_mem_findingAttachment h
  | ok target =>
      obtain ⟨i, v⟩ := target
      obtain ⟨-, -, hv⟩ := attachment_eq_ok_iff.mp htarget
      have hid : v.id = trim d.volumeId := (Cloud.Memory.place_of_volume? hv).1
      have hwritten : ∀ r ∈ recording v.id (nonBlank? d.displayName) ++
          [.cloud (.attach i.id v.id)], r.KeepsTo (trim d.volumeId) := by
        rw [hid]
        intro r hr
        rcases List.mem_append.mp hr with hr | hr
        · exact keepsTo_of_mem_recording hr
        · rw [List.mem_singleton.mp hr]
          exact rfl
      cases hverdict : rejection w.cloud.attachVerdict with
      | some message =>
          rw [(settles_attach_of_reject htarget hverdict).asked_eq] at h
          rcases List.mem_append.mp h with h | h
          · exact keepsTo_of_mem_findingAttachment h
          · exact hwritten r h
      | none =>
          rw [(settles_attach_of_accept htarget hverdict).asked_eq, ← List.append_assoc,
            ← List.append_assoc, List.append_assoc (w.findingAttachment d)] at h
          rcases List.mem_append.mp h with h | h
          · rcases List.mem_append.mp h with h | h
            · exact keepsTo_of_mem_findingAttachment h
            · exact hwritten r h
          · exact keepsTo_of_mem_expecting h

/-! ## What an attachment gains -/

/-- The attachments that an attachment asks for in a world, if the cloud accepts them. -/
def gained (w : World) (d : Demand) : List Cloud.Attachment :=
  if w.cloud.attachVerdict = .accept then
    (calls (attach d) w).filterMap Cloud.Request.attachment?
  else []

theorem attachments_changes_attach (w : World) (d : Demand) :
    (changes (attach d) w).filterMap Cloud.Request.attachment? =
      match w.attachment d with
      | .error _ => []
      | .ok (i, v) => [{ serverId := i.id, volumeId := v.id }] := by
  rw [changes_attach]
  cases w.attachment d with
  | error e => rfl
  | ok target => cases nonBlank? d.displayName <;> rfl

theorem gained_eq (w : World) (d : Demand) :
    gained w d =
      match w.attachment d, rejection w.cloud.attachVerdict with
      | .ok (i, v), none => [{ serverId := i.id, volumeId := v.id }]
      | _, _ => [] := by
  have hcalls : (calls (attach d) w).filterMap Cloud.Request.attachment? =
      (changes (attach d) w).filterMap Cloud.Request.attachment? := by
    rw [changes, List.filterMap_filter]
    refine List.filterMap_congr fun r _ => ?_
    cases r <;> rfl
  rw [gained, hcalls, attachments_changes_attach]
  cases hverdict : w.cloud.attachVerdict with
  | accept => cases w.attachment d <;> rfl
  | refuse => cases w.attachment d <;> rfl
  | fail e => cases w.attachment d <;> rfl

theorem attachments_append_gained (w : World) (d : Demand) :
    (attempt (attach d) w).2.cloud.attachments = w.cloud.attachments ++ gained w d := by
  obtain ⟨history, hafter⟩ := exists_cloud_after_attach w d
  rw [hafter, gained_eq]
  refine (attachments_remains w d).trans ?_
  cases w.attachment d with
  | error e => exact (List.append_nil _).symm
  | ok target =>
      cases rejection w.cloud.attachVerdict with
      | some message => exact (List.append_nil _).symm
      | none => rfl

theorem volumeId_of_mem_gained {w : World} {d : Demand} {a : Cloud.Attachment}
    (h : a ∈ gained w d) : a.volumeId = trim d.volumeId := by
  rw [gained_eq] at h
  cases htarget : w.attachment d with
  | error e => simp [htarget] at h
  | ok target =>
      obtain ⟨-, -, hv⟩ := attachment_eq_ok_iff.mp htarget
      cases hverdict : rejection w.cloud.attachVerdict with
      | some message => simp [htarget, hverdict] at h
      | none =>
          simp only [htarget, hverdict, List.mem_singleton] at h
          rw [h]
          exact (Cloud.Memory.place_of_volume? hv).1

/-! ## Attachments that overlap -/

section Overlapping

variable {final final' : World} {ds : List Demand} {results : List (Except Error Outcome)}

/-- The attachments are of different volumes. -/
def Apart (ds : List Demand) : Prop :=
  ds.Pairwise fun d d' => trim d.volumeId ≠ trim d'.volumeId

/-- The attachments run at the same time. -/
def Overlap (ds : List Demand) (w : World) (results : List (Except Error Outcome))
    (final : World) : Prop :=
  Flow.Interleaves answer (ds.map fun d => (attach d).run) w results final

def task (d : Demand) : String × Flow interface (Except Error Outcome) :=
  (trim d.volumeId, (attach d).run)

def lone (d : Demand) (w : World) : Run interface World (Except Error Outcome) :=
  (attach d).run.play reply (w.share (trim d.volumeId))

theorem overlap_alone (apart : Apart ds) (run : Overlap ds w results final) :
    results = ds.map (fun d => (lone d w).value) ∧
      (∀ d ∈ ds, final.share (trim d.volumeId) = (lone d w).final) ∧
      ∀ id, (∀ d ∈ ds, trim d.volumeId ≠ id) → final.share id = w.share id := by
  have distinct : ((ds.map task).map Prod.fst).Nodup := by
    rw [List.map_map]
    exact List.pairwise_map.mpr apart
  have owned : ∀ t ∈ ds.map task,
      ∀ r ∈ (Flow.Separate.alone reply share t w).asked, r.KeepsTo t.1 := by
    intro t ht r hr
    obtain ⟨d, -, rfl⟩ := List.mem_map.mp ht
    exact keepsTo_of_mem_asked hr
  have hrun : Flow.Interleaves answer ((ds.map task).map Prod.snd) w results final := by
    rw [List.map_map]
    exact run
  obtain ⟨hvalues, hviews, hothers⟩ := separate_share.value_and_view distinct owned hrun
  refine ⟨?_, ?_, ?_⟩
  · rw [hvalues, List.map_map]
    rfl
  · intro d hd
    exact hviews (task d) (List.mem_map_of_mem hd)
  · intro id hid
    refine hothers id fun hmem => ?_
    rw [List.map_map] at hmem
    obtain ⟨d, hd, hkey⟩ := List.mem_map.mp hmem
    exact hid d hd hkey

/-- One attachment overlaps with none. -/
theorem lone_eq (d : Demand) (w : World) :
    (attempt (attach d) w).1 = (lone d w).value ∧
      (attempt (attach d) w).2.share (trim d.volumeId) = (lone d w).final := by
  have hrun : Overlap [d] w [(attempt (attach d) w).1] (attempt (attach d) w).2 := by
    rw [attempt, Flow.foldM_eq_play]
    exact Flow.Interleaves.cons_play (attach d).run (.ended [] _)
  obtain ⟨hvalues, hviews, -⟩ := overlap_alone (List.pairwise_singleton _ d) hrun
  exact ⟨List.head_eq_of_cons_eq hvalues, hviews d List.mem_cons_self⟩

theorem share_of_overlap (apart : Apart ds) (run : Overlap ds w results final) :
    (∀ d ∈ ds, final.share (trim d.volumeId) =
        (attempt (attach d) w).2.share (trim d.volumeId)) ∧
      ∀ id, (∀ d ∈ ds, trim d.volumeId ≠ id) → final.share id = w.share id := by
  obtain ⟨-, hviews, hothers⟩ := overlap_alone apart run
  refine ⟨fun d hd => ?_, hothers⟩
  rw [hviews d hd, (lone_eq d w).2]

/-- What overlapping attachments leave does not depend on the order of their requests. -/
theorem share_eq_of_overlap {ds' : List Demand} {results' : List (Except Error Outcome)}
    (perm : ds'.Perm ds) (apart : Apart ds) (run : Overlap ds w results final)
    (run' : Overlap ds' w results' final') (id : String) : final.share id = final'.share id := by
  have apart' : Apart ds' := perm.symm.pairwise apart fun h => h.symm
  obtain ⟨hown, hothers⟩ := share_of_overlap apart run
  obtain ⟨hown', hothers'⟩ := share_of_overlap apart' run'
  by_cases hid : ∃ d ∈ ds, trim d.volumeId = id
  · obtain ⟨d, hd, rfl⟩ := hid
    rw [hown d hd, hown' d (perm.mem_iff.mpr hd)]
  · have hnone : ∀ d ∈ ds, trim d.volumeId ≠ id := fun d hd h => hid ⟨d, hd, h⟩
    rw [hothers id hnone, hothers' id fun d hd => hnone d (perm.mem_iff.mp hd)]

theorem ids_of_overlap (run : Overlap ds w results final) :
    final.cloud.volumes.map Cloud.Volume.id = w.cloud.volumes.map Cloud.Volume.id :=
  run.view_eq (fun w => w.cloud.volumes.map Cloud.Volume.id) ids_answer

theorem attachments_of_overlap (apart : Apart ds) (run : Overlap ds w results final) :
    final.cloud.attachments.Perm (w.cloud.attachments ++ ds.flatMap (gained w)) := by
  obtain ⟨hown, hothers⟩ := share_of_overlap apart run
  have keyed : ∀ d, ∀ a ∈ gained w d, a.volumeId = trim d.volumeId :=
    fun _ _ => volumeId_of_mem_gained
  refine Cloud.perm_of_filter_eq Cloud.Attachment.volumeId fun id => ?_
  rw [List.filter_append]
  by_cases hid : ∃ d ∈ ds, trim d.volumeId = id
  · obtain ⟨d, hd, rfl⟩ := hid
    have hshare := congrArg (fun w : World => w.cloud.attachments) (hown d hd)
    rw [attachments_share, attachments_share, attachments_append_gained] at hshare
    have hself : (gained w d).filter (fun a => a.volumeId == trim d.volumeId) = gained w d :=
      List.filter_eq_self.mpr fun a ha => beq_iff_eq.mpr (keyed d a ha)
    rw [hshare, List.filter_append, hself, Cloud.filter_flatMap_of_pairwise keyed apart hd]
  · have hnone : ∀ d ∈ ds, trim d.volumeId ≠ id := fun d hd h => hid ⟨d, hd, h⟩
    have hshare := congrArg (fun w : World => w.cloud.attachments) (hothers id hnone)
    rw [Cloud.filter_flatMap_of_forall_ne keyed hnone, List.append_nil]
    exact hshare

/--
Attachments of different volumes may overlap in any order of their requests: each ends as it does
alone, the volumes are as after the attachments one after the other, in any order, and so are the
attachments up to their order, one for each that the cloud accepted.
-/
theorem attach_overlapping
    (apart : ds.Pairwise fun d d' => trim d.volumeId ≠ trim d'.volumeId)
    (run : Flow.Interleaves answer (ds.map fun d => (attach d).run) w results final) :
    results = ds.map (fun d => (attempt (attach d) w).1) ∧
      (∀ order : List Demand, order.Perm ds →
        let inTurn := (order.mapM (fun d => attempt (attach d)) w).2
        final.cloud.volumes = inTurn.cloud.volumes ∧
          final.cloud.attachments.Perm inTurn.cloud.attachments) ∧
      final.cloud.attachments.Perm (w.cloud.attachments ++ ds.flatMap (gained w)) := by
  refine ⟨?_, ?_, attachments_of_overlap apart run⟩
  · rw [(overlap_alone apart run).1]
    exact List.map_congr_left fun d _ => (lone_eq d w).1.symm
  · intro order horder inTurn
    have hinTurn : Overlap order w (order.mapM (fun d => attempt (attach d)) w).1 inTurn := by
      have h := Flow.interleaves_mapM answer (order.map fun d => (attach d).run) w
      rw [List.mapM_map] at h
      exact h
    have hshare := fun id =>
      congrArg World.cloud (share_eq_of_overlap horder apart run hinTurn id)
    have hids : final.cloud.volumes.map Cloud.Volume.id =
        inTurn.cloud.volumes.map Cloud.Volume.id := by
      rw [ids_of_overlap run, ids_of_overlap hinTurn]
    exact ⟨Cloud.Memory.volumes_eq_of_share hids hshare,
      Cloud.Memory.attachments_perm_of_share hshare⟩

end Overlapping

def shared : World :=
  ⟨(Cloud.Memory.reference.addNamedVolume "vol_2" "data").addAttachment ⟨"vm_2", "vol_2", none⟩, {}⟩

/-- The second one is without a device, and there is no third one. -/
def threeDemands : List Demand :=
  [⟨" vol_1 ", some "disk", "1.2.3.4"⟩, ⟨"vol_2", some " disk ", "1.2.3.4"⟩,
    ⟨"vol_3", none, "1.2.3.4"⟩]

theorem three_overlapping :
    ∃ results final,
      (threeDemands.Pairwise fun d d' => trim d.volumeId ≠ trim d'.volumeId) ∧
        Flow.Interleaves answer (threeDemands.map fun d => (attach d).run) shared results final ∧
        results = [.ok ⟨"/dev/disk/by-id/wwn-0xwwn_1", "vm_1", .powerVios, .generic⟩,
          .error (.link (.missingWwn "vol_2")), .error (.cloud (.notFound "volume" "vol_3"))] ∧
        results = threeDemands.map (fun d => (attempt (attach d) shared).1) ∧
        final.cloud.attachments.Perm
          [⟨"vm_2", "vol_2", none⟩, ⟨"vm_1", "vol_1", none⟩, ⟨"vm_1", "vol_2", none⟩] := by
  have apart : threeDemands.Pairwise fun d d' => trim d.volumeId ≠ trim d'.volumeId := by
    decide +kernel
  have hfollow : (Flow.follow answer [0, 1, 2, 1, 0, 2, 0, 1, 1, 0, 0, 1, 0, 1]
      (threeDemands.map fun d => (attach d).run) shared).1 =
        some [.ok ⟨"/dev/disk/by-id/wwn-0xwwn_1", "vm_1", .powerVios, .generic⟩,
          .error (.link (.missingWwn "vol_2")), .error (.cloud (.notFound "volume" "vol_3"))] := by
    decide +kernel
  have hgained : shared.cloud.attachments ++ threeDemands.flatMap (gained shared) =
      [⟨"vm_2", "vol_2", none⟩, ⟨"vm_1", "vol_1", none⟩, ⟨"vm_1", "vol_2", none⟩] := by
    decide +kernel
  have hrun := Flow.interleaves_of_follow hfollow
  obtain ⟨hresults, -, hattachments⟩ := attach_overlapping apart hrun
  exact ⟨_, _, apart, hrun, rfl, hresults, hgained ▸ hattachments⟩

end World

end Placement

end NodeVolumes
