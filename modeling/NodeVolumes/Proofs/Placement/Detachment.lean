import NodeVolumes.Proofs.Placement.Correlation

/-!
# Detachments

A detachment is told a name and a node.  They have to single out one volume and one instance
(`World.SinglesOut`); only then is the cloud asked to detach, once, and only if it accepts does
anything change (`detach_only_singled_out`).
-/

namespace NodeVolumes

def Cloud.Request.detaches : Cloud.Request → Bool
  | .detach _ _ => true
  | _ => false

/-- The cloud without the attachments of a volume to an instance. -/
def Cloud.Memory.withoutAttachment (m : Memory) (instanceId volumeId : String) : Memory :=
  { m with attachments := m.attachments.filter fun a => !a.joins instanceId volumeId }

namespace Placement

open Text

/-- Why a cloud with a verdict rejects what it is asked, if it does. -/
def rejection : Cloud.Verdict → Option String
  | .accept => none
  | .refuse => some notAccepted
  | .fail e => some e.message

theorem rejection_eq_none_iff {verdict : Cloud.Verdict} :
    rejection verdict = none ↔ verdict = .accept := by
  cases verdict <;> simp [rejection]

/-! ## Two parts of a detachment -/

def findDetachment (volumeName node : String) :
    Action Error (Cloud.Volume × Cloud.Instance) := do
  let name ← required "volume name" volumeName
  let v ← correlated (resolveVolume name)
  let i ← correlated (resolveInstanceFor node)
  return (v, i)

def detachFrom (v : Cloud.Volume) (i : Cloud.Instance) : Action Error Cloud.Volume := do
  let rejected := Error.detachRejected v.id i.id
  let answer ← askCloud (fun e => rejected e.message) (.detach i.id v.id)
  accepted answer rejected
  return v

theorem detach_eq (volumeName node : String) :
    detach volumeName node =
      findDetachment volumeName node >>= fun target => detachFrom target.1 target.2 := by
  simp [detach, findDetachment, detachFrom]

namespace World

/-- The volume and the instance that a detachment is about, or why there are none. -/
def detachment (w : World) (volumeName node : String) :
    Except Error (Cloud.Volume × Cloud.Instance) :=
  match required "volume name" volumeName with
  | .error e => .error e
  | .ok name =>
      match w.volumeNamed name with
      | .error e => .error (.correlation e)
      | .ok v =>
          match w.locate node with
          | .error e => .error (.correlation e)
          | .ok i => .ok (v, i)

def findingDetachment (w : World) (volumeName node : String) : List Request :=
  match required "volume name" volumeName with
  | .error _ => []
  | .ok name =>
      [.cloud (.findVolumes Cloud.nameKey name)] ++
        match w.volumeNamed name with
        | .error _ => []
        | .ok _ => w.locating node

/-- A name and a node single out a volume and an instance. -/
structure SinglesOut (w : World) (volumeName node : String) (v : Cloud.Volume)
    (i : Cloud.Instance) : Prop where
  named : trim volumeName ≠ ""
  onlyCarrier : w.cloud.carriers (trim volumeName) = [v]
  listed : w.cloud.listError = none
  ownsPort : ∃ address, addressOf? w.names node = some address ∧
    w.cloud.ports.count address = 1 ∧ i ∈ w.cloud.instances ∧ address ∈ i.addresses

variable {w : World} {volumeName node : String} {v : Cloud.Volume} {i : Cloud.Instance}

theorem detachment_eq_ok_iff :
    w.detachment volumeName node = .ok (v, i) ↔ SinglesOut w volumeName node v i := by
  constructor
  · intro h
    unfold detachment at h
    cases hname : required "volume name" volumeName with
    | error e => simp [hname] at h
    | ok name =>
        cases hv : w.volumeNamed name with
        | error e => simp [hname, hv] at h
        | ok found =>
            cases hi : w.locate node with
            | error e => simp [hname, hv, hi] at h
            | ok owner =>
                simp only [hname, hv, hi, Except.ok.injEq, Prod.mk.injEq] at h
                obtain ⟨rfl, rfl⟩ := h
                obtain ⟨hblank, rfl⟩ := required_eq_ok_iff.mp hname
                obtain ⟨hlisted, hport⟩ := locate_eq_ok_iff.mp hi
                exact ⟨hblank, volumeNamed_eq_ok_iff.mp hv, hlisted, hport⟩
  · rintro ⟨hblank, hcarrier, hlisted, hport⟩
    have hname : required "volume name" volumeName = .ok (trim volumeName) :=
      required_eq_ok_iff.mpr ⟨hblank, rfl⟩
    have hv : w.volumeNamed (trim volumeName) = .ok v := volumeNamed_eq_ok_iff.mpr hcarrier
    have hi : w.locate node = .ok i := locate_eq_ok_iff.mpr ⟨hlisted, hport⟩
    simp [detachment, hname, hv, hi]

/-- Something is singled out exactly if the name and the address are unique. -/
theorem exists_singlesOut_iff :
    (∃ v i, SinglesOut w volumeName node v i) ↔
      trim volumeName ≠ "" ∧ (w.cloud.carriers (trim volumeName)).length = 1 ∧
        w.cloud.listError = none ∧
          ∃ address, addressOf? w.names node = some address ∧
            w.cloud.ports.count address = 1 := by
  constructor
  · rintro ⟨v, i, hblank, hcarrier, hlisted, address, haddress, hcount, -⟩
    exact ⟨hblank, by rw [hcarrier]; rfl, hlisted, address, haddress, hcount⟩
  · rintro ⟨hblank, hlength, hlisted, address, haddress, hcount⟩
    obtain ⟨v, hcarrier⟩ := List.length_eq_one_iff.mp hlength
    have hmem : address ∈ w.cloud.ports := List.count_pos_iff.mp (by omega)
    obtain ⟨i, hi, howns⟩ := List.mem_flatMap.mp hmem
    exact ⟨v, i, hblank, hcarrier, hlisted, address, haddress, hcount, hi, howns⟩

/-! ## The run of a detachment -/

/-- Finding the target of a detachment changes nothing. -/
theorem settles_findDetachment (w : World) (volumeName node : String) :
    Settles (findDetachment volumeName node) w (w.detachment volumeName node) w
      (w.findingDetachment volumeName node) := by
  have hrequired := Settles.ofExcept (required "volume name" volumeName) w
  unfold findDetachment
  cases hname : required "volume name" volumeName with
  | error e =>
      simp only [detachment, findingDetachment, hname] at hrequired ⊢
      exact hrequired.bind_error
  | ok name =>
      have hvolume := (settles_resolveVolume w name).correlated
      simp only [detachment, findingDetachment, hname] at hrequired ⊢
      apply hrequired.bind_of_silent
      cases hv : w.volumeNamed name with
      | error e =>
          rw [hv] at hvolume
          exact hvolume.bind_error
      | ok v =>
          have hlocate := (settles_resolveInstanceFor w node).correlated
          rw [hv] at hvolume
          apply hvolume.bind
          cases hi : w.locate node with
          | error e =>
              rw [hi] at hlocate
              exact hlocate.bind_error
          | ok i =>
              rw [hi] at hlocate
              exact hlocate.bind_pure rfl

/-- The cloud that accepts a detachment loses the attachments; any other stays as it is. -/
theorem settles_detachFrom (w : World) (v : Cloud.Volume) (i : Cloud.Instance) :
    Settles (detachFrom v i) w
      (match rejection w.cloud.detachVerdict with
        | none => .ok v
        | some message => .error (.detachRejected v.id i.id message))
      (match rejection w.cloud.detachVerdict with
        | none => { w with cloud := w.cloud.withoutAttachment i.id v.id }
        | some _ => w)
      [.cloud (.detach i.id v.id)] := by
  have hask := Settles.askCloud (fun e => Error.detachRejected v.id i.id e.message)
    (.detach i.id v.id) w
  unfold detachFrom
  cases hverdict : w.cloud.detachVerdict with
  | accept =>
      have hreply : w.cloud.respond (.detach i.id v.id) =
          (.ok true, w.cloud.withoutAttachment i.id v.id) := by
        simp [Cloud.Memory.respond, hverdict, Cloud.Memory.withoutAttachment]
      rw [hreply] at hask
      exact hask.bind ((Settles.ofExcept _ _).bind (Settles.pure v _))
  | refuse =>
      have hreply : w.cloud.respond (.detach i.id v.id) = (.ok false, w.cloud) := by
        simp [Cloud.Memory.respond, hverdict]
      rw [hreply] at hask
      exact hask.bind (Settles.ofExcept (.error _) w).bind_error
  | fail e =>
      have hreply : w.cloud.respond (.detach i.id v.id) = (.error e, w.cloud) := by
        simp [Cloud.Memory.respond, hverdict]
      rw [hreply] at hask
      exact hask.bind_error

theorem settles_detach_of_error {e : Error} (h : w.detachment volumeName node = .error e) :
    Settles (detach volumeName node) w (.error e) w (w.findingDetachment volumeName node) := by
  have hfind := settles_findDetachment w volumeName node
  rw [h] at hfind
  rw [detach_eq]
  exact hfind.bind_error

theorem settles_detach_of_target (h : w.detachment volumeName node = .ok (v, i)) :
    Settles (detach volumeName node) w
      (match rejection w.cloud.detachVerdict with
        | none => .ok v
        | some message => .error (.detachRejected v.id i.id message))
      (match rejection w.cloud.detachVerdict with
        | none => { w with cloud := w.cloud.withoutAttachment i.id v.id }
        | some _ => w)
      (w.findingDetachment volumeName node ++ [.cloud (.detach i.id v.id)]) := by
  have hfind := settles_findDetachment w volumeName node
  rw [h] at hfind
  rw [detach_eq]
  exact hfind.bind (settles_detachFrom w v i)

theorem isQuery_of_mem_findingDetachment {r : Request}
    (h : r ∈ w.findingDetachment volumeName node) : r.isQuery = true := by
  unfold findingDetachment at h
  split at h
  · cases h
  · rcases List.mem_append.mp h with h | h
    · rw [List.mem_singleton.mp h]
      rfl
    · split at h
      · cases h
      · exact isQuery_of_mem_locating h

/-- All that a detachment asks to be changed is that its target be detached. -/
theorem changes_detach (w : World) (volumeName node : String) :
    changes (detach volumeName node) w =
      match w.detachment volumeName node with
      | .error _ => []
      | .ok (v, i) => [.detach i.id v.id] := by
  have hfinding : ((w.findingDetachment volumeName node).filterMap Request.cloud?).filter
      Cloud.Request.changes = [] :=
    filter_changes_of_queries fun r => isQuery_of_mem_findingDetachment
  cases htarget : w.detachment volumeName node with
  | error e => rw [(settles_detach_of_error htarget).changes, hfinding]
  | ok target =>
      obtain ⟨v, i⟩ := target
      rw [(settles_detach_of_target htarget).changes, List.filterMap_append, List.filter_append,
        hfinding]
      rfl

theorem filter_detaches_calls_detach (w : World) (volumeName node : String) :
    (calls (detach volumeName node) w).filter Cloud.Request.detaches =
      match w.detachment volumeName node with
      | .error _ => []
      | .ok (v, i) => [.detach i.id v.id] := by
  have hp : ∀ r : Cloud.Request, r.detaches = true → r.changes = true := by
    intro r hr
    cases r <;> simp_all [Cloud.Request.detaches, Cloud.Request.changes]
  rw [filter_calls hp, changes_detach]
  cases w.detachment volumeName node <;> rfl

theorem exists_detaches_iff :
    (∃ r ∈ calls (detach volumeName node) w, r.detaches = true) ↔
      ∃ v i, SinglesOut w volumeName node v i := by
  have hdetaches := filter_detaches_calls_detach w volumeName node
  constructor
  · rintro ⟨r, hr, hdetach⟩
    have hmem := List.mem_filter.mpr ⟨hr, hdetach⟩
    rw [hdetaches] at hmem
    cases htarget : w.detachment volumeName node with
    | error e => simp [htarget] at hmem
    | ok target => exact ⟨target.1, target.2, detachment_eq_ok_iff.mp htarget⟩
  · rintro ⟨v, i, htarget⟩
    rw [detachment_eq_ok_iff.mpr htarget] at hdetaches
    have hmem : Cloud.Request.detach i.id v.id ∈
        (calls (detach volumeName node) w).filter Cloud.Request.detaches := by
      rw [hdetaches]
      exact List.mem_cons_self
    exact ⟨_, (List.mem_filter.mp hmem).1, rfl⟩

theorem detach_effect (w : World) (volumeName node : String) :
    let result := (attempt (detach volumeName node) w).1
    let after := (attempt (detach volumeName node) w).2.cloud
    (∃ e, result = .error e ∧ after.volumes = w.cloud.volumes ∧
        after.attachments = w.cloud.attachments) ∨
      ∃ v i, result = .ok v ∧ SinglesOut w volumeName node v i ∧
        after.volumes = w.cloud.volumes ∧
          after.attachments = w.cloud.attachments.filter fun a => !a.joins i.id v.id := by
  cases htarget : w.detachment volumeName node with
  | error e =>
      left
      exact ⟨e, by simp [(settles_detach_of_error htarget).attempt]⟩
  | ok target =>
      have hrun := (settles_detach_of_target htarget).attempt
      cases hverdict : rejection w.cloud.detachVerdict with
      | some message =>
          left
          exact ⟨.detachRejected target.1.id target.2.id message, by simp [hrun, hverdict]⟩
      | none =>
          right
          refine ⟨target.1, target.2, ?_, detachment_eq_ok_iff.mp htarget, ?_⟩
          · simp [hrun, hverdict]
          · simp [hrun, hverdict, Cloud.Memory.withoutAttachment]

/--
A detachment reaches the cloud exactly if the name is that of one volume and the address of the
node that of one port, and then once, for that volume and the instance of that port.  If it fails,
volumes and attachments are as before; if it succeeds, the attachments of the volume to the
instance are gone and nothing else.
-/
theorem detach_only_singled_out (w : World) (volumeName node : String) :
    let requests := calls (detach volumeName node) w
    let result := (attempt (detach volumeName node) w).1
    let after := (attempt (detach volumeName node) w).2.cloud
    ((∃ r ∈ requests, r.detaches = true) ↔
        trim volumeName ≠ "" ∧ (w.cloud.carriers (trim volumeName)).length = 1 ∧
          w.cloud.listError = none ∧
            ∃ address, addressOf? w.names node = some address ∧
              w.cloud.ports.count address = 1) ∧
      (∀ v i, SinglesOut w volumeName node v i →
        requests.filter Cloud.Request.detaches = [.detach i.id v.id]) ∧
      (∀ e, result = .error e →
        after.volumes = w.cloud.volumes ∧ after.attachments = w.cloud.attachments) ∧
      (∀ v, result = .ok v →
        after.volumes = w.cloud.volumes ∧
          ∃ i, SinglesOut w volumeName node v i ∧
            after.attachments = w.cloud.attachments.filter fun a => !a.joins i.id v.id) := by
  intro requests result after
  have heffect := detach_effect w volumeName node
  refine ⟨exists_detaches_iff.trans exists_singlesOut_iff, ?_, ?_, ?_⟩
  · intro v i htarget
    have hdetaches := filter_detaches_calls_detach w volumeName node
    rwa [detachment_eq_ok_iff.mpr htarget] at hdetaches
  · intro e hresult
    rcases heffect with ⟨_, -, hsame⟩ | ⟨v, i, hok, -⟩
    · exact hsame
    · rw [show result = .ok v from hok] at hresult
      contradiction
  · intro v hresult
    rcases heffect with ⟨e, herror, -⟩ | ⟨v', i, hok, htarget, hvolumes, hattachments⟩
    · rw [show result = .error e from herror] at hresult
      contradiction
    · rw [show result = .ok v' from hok] at hresult
      cases hresult
      exact ⟨hvolumes, i, htarget, hattachments⟩

/-- The small cloud with one more volume, which has a name. -/
def oneNamed : World :=
  ⟨Cloud.Memory.reference.addNamedVolume "vol_2" "data", {}⟩

/-- A name on one volume of two is enough to detach that one. -/
theorem detach_only_named :
    let v := Cloud.Volume.ofMetadata "vol_2" "svc" "available"
      (SortedMap.empty.insert Cloud.nameKey "data")
    let i : Cloud.Instance := ⟨"vm_1", "host_1", [⟨1, 2, 3, 4⟩]⟩
    SinglesOut oneNamed " data " "1.2.3.4" v i ∧
      (calls (detach " data " "1.2.3.4") oneNamed).filter Cloud.Request.detaches =
        [.detach "vm_1" "vol_2"] := by
  intro v i
  have hsingles : SinglesOut oneNamed " data " "1.2.3.4" v i :=
    ⟨by decide +kernel, by decide +kernel, rfl, ⟨1, 2, 3, 4⟩, by decide +kernel,
      by decide +kernel, by decide +kernel, by decide +kernel⟩
  obtain ⟨-, hcalls, -⟩ := detach_only_singled_out oneNamed " data " "1.2.3.4"
  exact ⟨hsingles, hcalls v i hsingles⟩

end World

end Placement

end NodeVolumes
