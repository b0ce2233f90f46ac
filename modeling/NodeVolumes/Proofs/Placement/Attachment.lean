import NodeVolumes.Proofs.Placement.Detachment

/-!
# Attachments

An attachment finds an instance and a volume, records the name of the volume if it is given one,
and asks the cloud to attach.  Once that is accepted, all that is left is to tell where the device
will be seen, which changes nothing more (`settles_expectDevice`); so how it ends has no influence
on what it leaves behind (`settles_attach_of_accept`).
-/

namespace NodeVolumes

namespace Placement

open Text

/-! ## Two parts of an attachment -/

def findAttachment (d : Demand) : Action Error (Cloud.Instance × Cloud.Volume) := do
  let volumeId ← required "volumeID" d.volumeId
  let i ← correlated (resolveInstanceFor d.node)
  let v ← askCloud .cloud (.getVolume volumeId)
  return (i, v)

/-- Attaches a volume to an instance, with a name to record. -/
def attachTo (displayName : Option String) (i : Cloud.Instance) (v : Cloud.Volume) :
    Action Error Outcome := do
  recordName v.id displayName
  let rejected := Error.attachRejected v.id i.id
  let answer ← askCloud (fun e => rejected e.message) (.attach i.id v.id)
  accepted answer rejected
  expectDevice i v

theorem attach_eq (d : Demand) :
    attach d = findAttachment d >>= fun target => attachTo d.displayName target.1 target.2 := by
  simp [attach, findAttachment, attachTo]

/-- Where the device of an attached volume is linked, by hypervisor and storage. -/
def linked (kind : Cloud.HypervisorKind) (backend : Cloud.Backend) (i : Cloud.Instance)
    (v : Cloud.Volume) : Except Error Outcome :=
  match Disk.link kind backend v with
  | .error e => .error (.link e)
  | .ok path => .ok ⟨path, i.id, kind, backend⟩

namespace World

/-- The instance and the volume that an attachment is about, or why there are none. -/
def attachment (w : World) (d : Demand) : Except Error (Cloud.Instance × Cloud.Volume) :=
  match required "volumeID" d.volumeId with
  | .error e => .error e
  | .ok volumeId =>
      match w.locate d.node with
      | .error e => .error (.correlation e)
      | .ok i =>
          match w.cloud.volume? volumeId with
          | none => .error (.cloud (Cloud.Memory.noVolume volumeId))
          | some v => .ok (i, v)

def findingAttachment (w : World) (d : Demand) : List Request :=
  match required "volumeID" d.volumeId with
  | .error _ => []
  | .ok volumeId =>
      match w.locate d.node with
      | .error _ => w.locating d.node
      | .ok _ => w.locating d.node ++ [.cloud (.getVolume volumeId)]

/-- The world with a name recorded on a volume, if one is given. -/
def withName (w : World) (volumeId : String) : Option String → World
  | none => w
  | some name => { w with cloud := w.cloud.withName volumeId name }

def recording (volumeId : String) : Option String → List Request
  | none => []
  | some name =>
      [.cloud (.changeMetadata volumeId (SortedMap.empty.insert Cloud.nameKey name) .merge)]

def backend (w : World) (v : Cloud.Volume) : Cloud.Backend :=
  if trim v.backendHost = "" then .unregistered
  else .ofRegistration (w.cloud.registrations.get? v.backendHost)

def askingBackend (v : Cloud.Volume) : List Request :=
  if trim v.backendHost = "" then [] else [.cloud (.getRegistration v.backendHost)]

/-- The storage that counts on a kind of hypervisor. -/
def backendOn (w : World) (kind : Cloud.HypervisorKind) (v : Cloud.Volume) : Cloud.Backend :=
  if kind.isPowerVm then w.backend v else .unregistered

def hypervisor (w : World) (i : Cloud.Instance) : Except Error Cloud.HypervisorKind :=
  match w.cloud.listError with
  | some e => .error (.cloud e)
  | none =>
      match w.cloud.hypervisors.find? fun h => h.hostname == i.hypervisorHost with
      | none => .error (.hypervisorNotFound i.hypervisorHost)
      | some h => .ok h.kind

/-- Where the device of an attached volume will be seen in a world. -/
def expected (w : World) (i : Cloud.Instance) (v : Cloud.Volume) : Except Error Outcome :=
  match w.hypervisor i with
  | .error e => .error e
  | .ok kind => linked kind (w.backendOn kind v) i v

def expecting (w : World) (i : Cloud.Instance) (v : Cloud.Volume) : List Request :=
  [.cloud .listHypervisors] ++
    match w.hypervisor i with
    | .error _ => []
    | .ok kind => if kind.isPowerVm then askingBackend v else []

variable {w : World} {d : Demand} {i : Cloud.Instance} {v : Cloud.Volume}

/-! ## The target -/

theorem attachment_eq_ok_iff :
    w.attachment d = .ok (i, v) ↔
      trim d.volumeId ≠ "" ∧ w.locate d.node = .ok i ∧
        w.cloud.volume? (trim d.volumeId) = some v := by
  constructor
  · intro h
    unfold attachment at h
    cases hid : required "volumeID" d.volumeId with
    | error e => simp [hid] at h
    | ok volumeId =>
        obtain ⟨hblank, rfl⟩ := required_eq_ok_iff.mp hid
        cases hi : w.locate d.node with
        | error e => simp [hid, hi] at h
        | ok owner =>
            cases hv : w.cloud.volume? (trim d.volumeId) with
            | none => simp [hid, hi, hv] at h
            | some found =>
                simp only [hid, hi, hv, Except.ok.injEq, Prod.mk.injEq] at h
                exact ⟨hblank, congrArg Except.ok h.1, congrArg some h.2⟩
  · rintro ⟨hblank, hi, hv⟩
    have hid : required "volumeID" d.volumeId = .ok (trim d.volumeId) :=
      required_eq_ok_iff.mpr ⟨hblank, rfl⟩
    simp [attachment, hid, hi, hv]

/-- Finding the target of an attachment changes nothing. -/
theorem settles_findAttachment (w : World) (d : Demand) :
    Settles (findAttachment d) w (w.attachment d) w (w.findingAttachment d) := by
  have hrequired := Settles.ofExcept (required "volumeID" d.volumeId) w
  have hlocate := (settles_resolveInstanceFor w d.node).correlated
  unfold findAttachment
  cases hid : required "volumeID" d.volumeId with
  | error e =>
      simp only [attachment, findingAttachment, hid] at hrequired ⊢
      exact hrequired.bind_error
  | ok volumeId =>
      simp only [attachment, findingAttachment, hid] at hrequired ⊢
      apply hrequired.bind_of_silent
      cases hi : w.locate d.node with
      | error e =>
          rw [hi] at hlocate
          exact hlocate.bind_error
      | ok i =>
          have hask := Settles.askCloud Error.cloud (.getVolume volumeId) w
          rw [hi] at hlocate
          apply hlocate.bind
          cases hv : w.cloud.volume? volumeId with
          | none =>
              have hreply : w.cloud.respond (.getVolume volumeId) =
                  (.error (Cloud.Memory.noVolume volumeId), w.cloud) := by
                simp [Cloud.Memory.respond, hv]
              rw [hreply] at hask
              exact hask.bind_error
          | some v =>
              have hreply : w.cloud.respond (.getVolume volumeId) = (.ok v, w.cloud) := by
                simp [Cloud.Memory.respond, hv]
              rw [hreply] at hask
              exact hask.bind_pure rfl

/-! ## Recording, and what is told afterwards -/

theorem settles_recordName {volumeId : String} (displayName : Option String)
    (h : w.cloud.volume? volumeId = some v) :
    Settles (recordName volumeId displayName) w (.ok ())
      (w.withName volumeId (nonBlank? displayName))
      (recording volumeId (nonBlank? displayName)) := by
  unfold recordName
  cases nonBlank? displayName with
  | none => exact Settles.pure () w
  | some name =>
      have hask := Settles.askCloud Error.cloud (.changeMetadata volumeId
        (SortedMap.empty.insert Cloud.nameKey name) .merge) w
      have hreply : w.cloud.respond (.changeMetadata volumeId
          (SortedMap.empty.insert Cloud.nameKey name) .merge) =
          (.ok (), w.cloud.withName volumeId name) := by
        simp only [Cloud.Memory.respond, h]
        rfl
      rw [hreply] at hask
      exact hask

theorem settles_hypervisorOf (w : World) (i : Cloud.Instance) :
    Settles (hypervisorOf i) w (w.hypervisor i) w [.cloud .listHypervisors] := by
  have hask := Settles.askCloud Error.cloud .listHypervisors w
  unfold hypervisorOf hypervisor
  cases hlist : w.cloud.listError with
  | some e =>
      have hreply : w.cloud.respond .listHypervisors = (.error e, w.cloud) := by
        simp [Cloud.Memory.respond, Cloud.Memory.listed, hlist]
      rw [hreply] at hask
      exact hask.bind_error
  | none =>
      have hreply : w.cloud.respond .listHypervisors = (.ok w.cloud.hypervisors, w.cloud) := by
        simp [Cloud.Memory.respond, Cloud.Memory.listed, hlist]
      rw [hreply] at hask
      apply hask.bind
      cases w.cloud.hypervisors.find? fun h => h.hostname == i.hypervisorHost with
      | none => exact Settles.throw _ w
      | some h => exact Settles.pure _ w

theorem settles_backendOf (w : World) (v : Cloud.Volume) :
    Settles (backendOf v) w (.ok (w.backend v)) w (askingBackend v) := by
  unfold backendOf backend askingBackend
  split
  · exact Settles.pure _ w
  · exact (Settles.askCloud Error.cloud (.getRegistration v.backendHost) w).bind_pure rfl

theorem settles_linked (w : World) (kind : Cloud.HypervisorKind) (backend : Cloud.Backend)
    (i : Cloud.Instance) (v : Cloud.Volume) :
    Settles (liftM ((Disk.link kind backend v).mapError Error.link) >>= fun path =>
        (pure ⟨path, i.id, kind, backend⟩ : Action Error Outcome)) w
      (linked kind backend i v) w [] := by
  have hpath := Settles.ofExcept ((Disk.link kind backend v).mapError Error.link) w
  unfold linked
  cases hlink : Disk.link kind backend v with
  | error e =>
      rw [hlink] at hpath
      exact hpath.bind_error
  | ok path =>
      rw [hlink] at hpath
      exact hpath.bind_pure rfl

/-- Telling where a device will be seen changes nothing. -/
theorem settles_expectDevice (w : World) (i : Cloud.Instance) (v : Cloud.Volume) :
    Settles (expectDevice i v) w (w.expected i v) w (w.expecting i v) := by
  have hkind := settles_hypervisorOf w i
  unfold expectDevice
  cases hhyp : w.hypervisor i with
  | error e =>
      simp only [expected, expecting, hhyp] at hkind ⊢
      exact hkind.bind_error
  | ok kind =>
      simp only [expected, expecting, hhyp] at hkind ⊢
      apply hkind.bind
      unfold backendOn
      by_cases hpower : kind.isPowerVm = true
      · simp only [hpower, if_true]
        rw [← List.append_nil (askingBackend v)]
        apply (settles_backendOf w v).bind
        exact settles_linked w kind (w.backend v) i v
      · simp only [hpower, Bool.false_eq_true, if_false]
        apply (Settles.pure Cloud.Backend.unregistered w).bind_of_silent
        exact settles_linked w kind .unregistered i v

/-! ## The run of an attachment -/

def attached (w : World) (i : Cloud.Instance) (v : Cloud.Volume) : World :=
  { w with cloud := w.cloud.addAttachment { serverId := i.id, volumeId := v.id } }

/-- Neither a recorded name nor an attachment shows in where a device will be seen. -/
theorem settles_expectDevice_attached (w : World) (name : Option String) (i : Cloud.Instance)
    (v : Cloud.Volume) :
    Settles (expectDevice i v) ((w.withName v.id name).attached i v) (w.expected i v)
      ((w.withName v.id name).attached i v) (w.expecting i v) := by
  -- what is read there are listings and registrations, which neither of them touches
  have h := settles_expectDevice ((w.withName v.id name).attached i v) i v
  cases name <;> exact h

theorem verdict_withName (w : World) (volumeId : String) (name : Option String) :
    (w.withName volumeId name).cloud.attachVerdict = w.cloud.attachVerdict := by
  cases name <;> rfl

theorem settles_attachTo_of_accept (displayName : Option String)
    (hv : w.cloud.volume? v.id = some v) (haccept : rejection w.cloud.attachVerdict = none) :
    Settles (attachTo displayName i v) w (w.expected i v)
      ((w.withName v.id (nonBlank? displayName)).attached i v)
      (recording v.id (nonBlank? displayName) ++
        ([.cloud (.attach i.id v.id)] ++ w.expecting i v)) := by
  have hask := Settles.askCloud (fun e => Error.attachRejected v.id i.id e.message)
    (.attach i.id v.id) (w.withName v.id (nonBlank? displayName))
  have hverdict : (w.withName v.id (nonBlank? displayName)).cloud.attachVerdict = .accept := by
    rw [verdict_withName]
    exact rejection_eq_none_iff.mp haccept
  have hreply : (w.withName v.id (nonBlank? displayName)).cloud.respond (.attach i.id v.id) =
      (.ok true, ((w.withName v.id (nonBlank? displayName)).attached i v).cloud) := by
    simp [Cloud.Memory.respond, hverdict, attached]
  rw [hreply] at hask
  apply (settles_recordName displayName hv).bind
  apply hask.bind
  apply (Settles.ofExcept (.ok ()) _).bind_of_silent
  exact settles_expectDevice_attached w (nonBlank? displayName) i v

theorem settles_attachTo_of_reject {message : String} (displayName : Option String)
    (hv : w.cloud.volume? v.id = some v)
    (hreject : rejection w.cloud.attachVerdict = some message) :
    Settles (attachTo displayName i v) w (.error (.attachRejected v.id i.id message))
      (w.withName v.id (nonBlank? displayName))
      (recording v.id (nonBlank? displayName) ++ [.cloud (.attach i.id v.id)]) := by
  have hask := Settles.askCloud (fun e => Error.attachRejected v.id i.id e.message)
    (.attach i.id v.id) (w.withName v.id (nonBlank? displayName))
  rw [← verdict_withName w v.id (nonBlank? displayName)] at hreject
  apply (settles_recordName displayName hv).bind
  cases hverdict : (w.withName v.id (nonBlank? displayName)).cloud.attachVerdict with
  | accept => simp [rejection, hverdict] at hreject
  | refuse =>
      have hreply : (w.withName v.id (nonBlank? displayName)).cloud.respond
          (.attach i.id v.id) =
          (.ok false, (w.withName v.id (nonBlank? displayName)).cloud) := by
        simp [Cloud.Memory.respond, hverdict]
      rw [hreply] at hask
      rw [hverdict] at hreject
      cases hreject
      exact hask.bind (Settles.ofExcept (.error _) _).bind_error
  | fail e =>
      have hreply : (w.withName v.id (nonBlank? displayName)).cloud.respond
          (.attach i.id v.id) =
          (.error e, (w.withName v.id (nonBlank? displayName)).cloud) := by
        simp [Cloud.Memory.respond, hverdict]
      rw [hreply] at hask
      rw [hverdict] at hreject
      cases hreject
      exact hask.bind_error

/-- Without a target nothing is recorded or attached. -/
theorem settles_attach_of_error {e : Error} (h : w.attachment d = .error e) :
    Settles (attach d) w (.error e) w (w.findingAttachment d) := by
  have hfind := settles_findAttachment w d
  rw [h] at hfind
  rw [attach_eq]
  exact hfind.bind_error

theorem volume?_of_attachment (h : w.attachment d = .ok (i, v)) :
    w.cloud.volume? v.id = some v := by
  obtain ⟨-, -, hv⟩ := attachment_eq_ok_iff.mp h
  rw [(Cloud.Memory.place_of_volume? hv).1]
  exact hv

/-- An accepted attachment is there however telling the place of the device ends. -/
theorem settles_attach_of_accept (h : w.attachment d = .ok (i, v))
    (haccept : rejection w.cloud.attachVerdict = none) :
    Settles (attach d) w (w.expected i v)
      ((w.withName v.id (nonBlank? d.displayName)).attached i v)
      (w.findingAttachment d ++ (recording v.id (nonBlank? d.displayName) ++
        ([.cloud (.attach i.id v.id)] ++ w.expecting i v))) := by
  have hfind := settles_findAttachment w d
  rw [h] at hfind
  rw [attach_eq]
  exact hfind.bind (settles_attachTo_of_accept d.displayName (volume?_of_attachment h) haccept)

/-- A rejected attachment leaves the name on record. -/
theorem settles_attach_of_reject {message : String} (h : w.attachment d = .ok (i, v))
    (hreject : rejection w.cloud.attachVerdict = some message) :
    Settles (attach d) w (.error (.attachRejected v.id i.id message))
      (w.withName v.id (nonBlank? d.displayName))
      (w.findingAttachment d ++ (recording v.id (nonBlank? d.displayName) ++
        [.cloud (.attach i.id v.id)])) := by
  have hfind := settles_findAttachment w d
  rw [h] at hfind
  rw [attach_eq]
  exact hfind.bind (settles_attachTo_of_reject d.displayName (volume?_of_attachment h) hreject)

theorem request_of_mem_findingAttachment {r : Request} (h : r ∈ w.findingAttachment d) :
    r ∈ w.locating d.node ∨ r = .cloud (.getVolume (trim d.volumeId)) := by
  unfold findingAttachment at h
  cases hid : required "volumeID" d.volumeId with
  | error e => simp [hid] at h
  | ok volumeId =>
      obtain ⟨-, rfl⟩ := required_eq_ok_iff.mp hid
      simp only [hid] at h
      split at h
      · exact .inl h
      · exact (List.mem_append.mp h).imp id List.mem_singleton.mp

theorem isQuery_of_mem_findingAttachment {r : Request} (h : r ∈ w.findingAttachment d) :
    r.isQuery = true := by
  rcases request_of_mem_findingAttachment h with h | rfl
  · exact isQuery_of_mem_locating h
  · rfl

/-- All that is asked to tell where a device will be seen is the hypervisors and a registration. -/
theorem request_of_mem_expecting {r : Request} (h : r ∈ w.expecting i v) :
    r = .cloud .listHypervisors ∨ ∃ host, r = .cloud (.getRegistration host) := by
  unfold expecting askingBackend at h
  rcases List.mem_append.mp h with h | h
  · exact .inl (List.mem_singleton.mp h)
  · split at h
    · cases h
    · split at h
      · split at h
        · cases h
        · exact .inr ⟨_, List.mem_singleton.mp h⟩
      · cases h

theorem isQuery_of_mem_expecting {r : Request} (h : r ∈ w.expecting i v) : r.isQuery = true := by
  rcases request_of_mem_expecting h with rfl | ⟨host, rfl⟩ <;> rfl

/-- All that an attachment asks to be changed is the name and the attachment of its target. -/
theorem changes_attach (w : World) (d : Demand) :
    changes (attach d) w =
      match w.attachment d with
      | .error _ => []
      | .ok (i, v) =>
          (recording v.id (nonBlank? d.displayName)).filterMap Request.cloud? ++
            [.attach i.id v.id] := by
  have hfinding : ((w.findingAttachment d).filterMap Request.cloud?).filter
      Cloud.Request.changes = [] :=
    filter_changes_of_queries fun r => isQuery_of_mem_findingAttachment
  cases htarget : w.attachment d with
  | error e => rw [(settles_attach_of_error htarget).changes, hfinding]
  | ok target =>
      obtain ⟨i, v⟩ := target
      have hrecording : ((recording v.id (nonBlank? d.displayName)).filterMap
          Request.cloud?).filter Cloud.Request.changes =
            (recording v.id (nonBlank? d.displayName)).filterMap Request.cloud? := by
        cases nonBlank? d.displayName <;> rfl
      cases hverdict : rejection w.cloud.attachVerdict with
      | some message =>
          rw [(settles_attach_of_reject htarget hverdict).changes]
          simp only [List.filterMap_append, List.filter_append, hfinding, hrecording]
          rfl
      | none =>
          have hexpecting : ((w.expecting i v).filterMap Request.cloud?).filter
              Cloud.Request.changes = [] :=
            filter_changes_of_queries fun r => isQuery_of_mem_expecting
          rw [(settles_attach_of_accept htarget hverdict).changes]
          simp only [List.filterMap_append, List.filter_append, hfinding, hrecording, hexpecting]
          rfl

/-- An attachment that the cloud is asked for is that of the target. -/
theorem attachment_of_mem_calls {instanceId volumeId : String}
    (called : .attach instanceId volumeId ∈ calls (attach d) w) :
    ∃ i v, w.attachment d = .ok (i, v) ∧ i.id = instanceId ∧ v.id = volumeId := by
  have hmem : .attach instanceId volumeId ∈ changes (attach d) w :=
    List.mem_filter.mpr ⟨called, rfl⟩
  rw [changes_attach] at hmem
  cases htarget : w.attachment d with
  | error e => simp [htarget] at hmem
  | ok target =>
      obtain ⟨i, v⟩ := target
      refine ⟨i, v, rfl, ?_⟩
      cases hname : nonBlank? d.displayName <;>
        simp_all [recording, Request.cloud?]

/-! ## What is left -/

/-- The cloud after an attachment, but for what it has on record. -/
def remains (w : World) (d : Demand) : World :=
  match w.attachment d with
  | .error _ => w
  | .ok (i, v) =>
      match rejection w.cloud.attachVerdict with
      | some _ => w.withName v.id (nonBlank? d.displayName)
      | none => (w.withName v.id (nonBlank? d.displayName)).attached i v

theorem exists_cloud_after_attach (w : World) (d : Demand) :
    ∃ history, (attempt (attach d) w).2.cloud = { (w.remains d).cloud with history } := by
  unfold remains
  cases htarget : w.attachment d with
  | error e =>
      rw [(settles_attach_of_error htarget).attempt, cloud_noted]
      exact ⟨_, rfl⟩
  | ok target =>
      cases hverdict : rejection w.cloud.attachVerdict with
      | some message =>
          rw [(settles_attach_of_reject htarget hverdict).attempt, cloud_noted]
          exact ⟨_, rfl⟩
      | none =>
          rw [(settles_attach_of_accept htarget hverdict).attempt, cloud_noted]
          exact ⟨_, rfl⟩

theorem volumes_remains (w : World) (d : Demand) :
    (w.remains d).cloud.volumes =
      match w.attachment d with
      | .error _ => w.cloud.volumes
      | .ok (_, v) => (w.withName v.id (nonBlank? d.displayName)).cloud.volumes := by
  unfold remains
  cases w.attachment d with
  | error e => rfl
  | ok target => cases rejection w.cloud.attachVerdict <;> rfl

end World

end Placement

end NodeVolumes
