import NodeVolumes.Proofs.Disk.Link
import NodeVolumes.Proofs.Placement.Remains

/-!
# Where an attached volume will be seen

An attachment that succeeds tells the path of a device that is not there yet.  Path, hypervisor and
storage are those that the cloud has on record for the instance and the volume (`Foretells`), and
once the cloud has accepted, all that can still go wrong is that they do not lead to a path
(`attach_predicts`).
-/

namespace NodeVolumes.Placement

open Text

/-- The first hypervisor on record with a host name. -/
def FirstHypervisor (m : Cloud.Memory) (hostname : String) (h : Cloud.Hypervisor) : Prop :=
  ∃ front rest, m.hypervisors = front ++ h :: rest ∧ h.hostname = hostname ∧
    ∀ other ∈ front, other.hostname ≠ hostname

/-- The storage behind a volume that counts on a kind of hypervisor. -/
inductive StorageOn (m : Cloud.Memory) (v : Cloud.Volume) :
    Cloud.HypervisorKind → Cloud.Backend → Prop where
  | registered {kind : Cloud.HypervisorKind} {r : Cloud.Registration}
      (hkind : kind ∈ Disk.powerVmKinds) (hhost : trim v.backendHost ≠ "")
      (hregistered : m.registrations.get? v.backendHost = some r) : StorageOn m v kind r.backend
  | blank {kind : Cloud.HypervisorKind} (hkind : kind ∈ Disk.powerVmKinds)
      (hhost : trim v.backendHost = "") : StorageOn m v kind .unregistered
  | unknown {kind : Cloud.HypervisorKind} (hkind : kind ∈ Disk.powerVmKinds)
      (hunknown : m.registrations.get? v.backendHost = none) : StorageOn m v kind .unregistered
  | other {kind : Cloud.HypervisorKind} (hkind : kind ∉ Disk.powerVmKinds) :
      StorageOn m v kind .unregistered

/-- An outcome tells what a cloud has on record for an instance and a volume. -/
structure Foretells (m : Cloud.Memory) (i : Cloud.Instance) (v : Cloud.Volume)
    (outcome : Outcome) : Prop where
  instanceId : outcome.instanceId = i.id
  hypervisor : ∃ h, FirstHypervisor m i.hypervisorHost h ∧ outcome.hypervisor = h.kind
  backend : StorageOn m v outcome.hypervisor outcome.backend
  devicePath : Disk.link outcome.hypervisor outcome.backend v = .ok outcome.devicePath

/-- Why what a cloud has on record for an instance and a volume leads to no path. -/
inductive Untold (m : Cloud.Memory) (i : Cloud.Instance) (v : Cloud.Volume) : Error → Prop where
  | unhosted (hnone : ∀ h ∈ m.hypervisors, h.hostname ≠ i.hypervisorHost) :
      Untold m i v (.hypervisorNotFound i.hypervisorHost)
  | unlinked {h : Cloud.Hypervisor} {backend : Cloud.Backend} {fault : Disk.LinkError}
      (hfirst : FirstHypervisor m i.hypervisorHost h) (hstorage : StorageOn m v h.kind backend)
      (hlink : Disk.link h.kind backend v = .error fault) : Untold m i v (.link fault)

namespace World

/-- An attachment is about an instance and a volume: the node has an address of which the instance
has the only port, and the volume is on record. -/
structure Targets (w : World) (d : Demand) (i : Cloud.Instance) (v : Cloud.Volume) : Prop where
  named : trim d.volumeId ≠ ""
  listed : w.cloud.listError = none
  ownsPort : ∃ address, addressOf? w.names d.node = some address ∧
    w.cloud.ports.count address = 1 ∧ i ∈ w.cloud.instances ∧ address ∈ i.addresses
  stored : w.cloud.volume? (trim d.volumeId) = some v

variable {w : World} {d : Demand} {i : Cloud.Instance} {v : Cloud.Volume}

theorem attachment_eq_ok_iff_targets : w.attachment d = .ok (i, v) ↔ Targets w d i v := by
  rw [attachment_eq_ok_iff, locate_eq_ok_iff]
  constructor
  · rintro ⟨hnamed, ⟨hlisted, hport⟩, hstored⟩
    exact ⟨hnamed, hlisted, hport, hstored⟩
  · rintro ⟨hnamed, hlisted, hport, hstored⟩
    exact ⟨hnamed, ⟨hlisted, hport⟩, hstored⟩

theorem Targets.unique {i' : Cloud.Instance} {v' : Cloud.Volume} (h : Targets w d i v)
    (h' : Targets w d i' v') : i' = i ∧ v' = v := by
  have htarget := attachment_eq_ok_iff_targets.mpr h
  rw [attachment_eq_ok_iff_targets.mpr h', Except.ok.injEq, Prod.mk.injEq] at htarget
  exact htarget

/-! ## Hypervisor and storage -/

theorem find?_hypervisors_eq_some_iff {m : Cloud.Memory} {hostname : String}
    {h : Cloud.Hypervisor} :
    (m.hypervisors.find? fun h => h.hostname == hostname) = some h ↔
      FirstHypervisor m hostname h := by
  simp only [List.find?_eq_some_iff_append, FirstHypervisor, beq_iff_eq, Bool.not_eq_true',
    beq_eq_false_iff_ne]
  constructor
  · rintro ⟨hname, front, rest, hsplit, hfront⟩
    exact ⟨front, rest, hsplit, hname, hfront⟩
  · rintro ⟨front, rest, hsplit, hname, hfront⟩
    exact ⟨hname, front, rest, hsplit, hfront⟩

theorem hypervisor_eq_ok_iff (listed : w.cloud.listError = none) {kind : Cloud.HypervisorKind} :
    w.hypervisor i = .ok kind ↔
      ∃ h, FirstHypervisor w.cloud i.hypervisorHost h ∧ kind = h.kind := by
  simp only [← find?_hypervisors_eq_some_iff]
  unfold hypervisor
  rw [listed]
  cases w.cloud.hypervisors.find? fun h => h.hostname == i.hypervisorHost <;> simp [eq_comm]

theorem hypervisor_eq_error_iff (listed : w.cloud.listError = none) {e : Error} :
    w.hypervisor i = .error e ↔
      (∀ h ∈ w.cloud.hypervisors, h.hostname ≠ i.hypervisorHost) ∧
        e = .hypervisorNotFound i.hypervisorHost := by
  have hnone : (w.cloud.hypervisors.find? fun h => h.hostname == i.hypervisorHost) = none ↔
      ∀ h ∈ w.cloud.hypervisors, h.hostname ≠ i.hypervisorHost := by
    simp [List.find?_eq_none]
  rw [← hnone]
  unfold hypervisor
  rw [listed]
  cases w.cloud.hypervisors.find? fun h => h.hostname == i.hypervisorHost <;> simp [eq_comm]

theorem isPowerVm_iff {kind : Cloud.HypervisorKind} :
    kind.isPowerVm = true ↔ kind ∈ Disk.powerVmKinds := by
  cases kind <;> simp [Cloud.HypervisorKind.isPowerVm, Disk.powerVmKinds]

theorem backendOn_of_powerVm {kind : Cloud.HypervisorKind} (h : kind ∈ Disk.powerVmKinds) :
    w.backendOn kind v = w.backend v :=
  if_pos (isPowerVm_iff.mpr h)

theorem backendOn_of_not_powerVm {kind : Cloud.HypervisorKind} (h : kind ∉ Disk.powerVmKinds) :
    w.backendOn kind v = .unregistered :=
  if_neg fun hpower => h (isPowerVm_iff.mp hpower)

theorem backendOn_eq_iff {kind : Cloud.HypervisorKind} {backend : Cloud.Backend} :
    w.backendOn kind v = backend ↔ StorageOn w.cloud v kind backend := by
  constructor
  · rintro rfl
    by_cases hkind : kind ∈ Disk.powerVmKinds
    · rw [backendOn_of_powerVm hkind, World.backend]
      by_cases hhost : trim v.backendHost = ""
      · rw [if_pos hhost]
        exact .blank hkind hhost
      · rw [if_neg hhost]
        cases hregistered : w.cloud.registrations.get? v.backendHost with
        | none => exact .unknown hkind hregistered
        | some r => exact .registered hkind hhost hregistered
    · rw [backendOn_of_not_powerVm hkind]
      exact .other hkind
  · intro h
    cases h with
    | registered hkind hhost hregistered =>
        rw [backendOn_of_powerVm hkind, World.backend, if_neg hhost, hregistered]
        rfl
    | blank hkind hhost => rw [backendOn_of_powerVm hkind, World.backend, if_pos hhost]
    | unknown hkind hunknown =>
        rw [backendOn_of_powerVm hkind, World.backend, hunknown]
        exact ite_self _
    | other hkind => exact backendOn_of_not_powerVm hkind

/-! ## The path -/

theorem linked_eq_ok_iff {kind : Cloud.HypervisorKind} {backend : Cloud.Backend}
    {outcome : Outcome} :
    linked kind backend i v = .ok outcome ↔
      outcome.instanceId = i.id ∧ outcome.hypervisor = kind ∧ outcome.backend = backend ∧
        Disk.link kind backend v = .ok outcome.devicePath := by
  cases outcome
  unfold linked
  cases Disk.link kind backend v with
  | error fault => simp
  | ok path =>
      simp only [Except.ok.injEq, Outcome.mk.injEq]
      grind

theorem linked_eq_error_iff {kind : Cloud.HypervisorKind} {backend : Cloud.Backend} {e : Error} :
    linked kind backend i v = .error e ↔
      ∃ fault, Disk.link kind backend v = .error fault ∧ e = .link fault := by
  unfold linked
  cases Disk.link kind backend v <;> simp [eq_comm]

theorem expected_eq_ok_iff (listed : w.cloud.listError = none) {outcome : Outcome} :
    w.expected i v = .ok outcome ↔ Foretells w.cloud i v outcome := by
  unfold expected
  constructor
  · intro h
    cases hhypervisor : w.hypervisor i with
    | error e => simp [hhypervisor] at h
    | ok kind =>
        simp only [hhypervisor] at h
        obtain ⟨hid, rfl, hbackend, hlink⟩ := linked_eq_ok_iff.mp h
        rw [← hbackend] at hlink
        exact ⟨hid, (hypervisor_eq_ok_iff listed).mp hhypervisor, backendOn_eq_iff.mp hbackend.symm, hlink⟩
  · rintro ⟨hid, hhypervisor, hbackend, hlink⟩
    have hseen := backendOn_eq_iff.mpr hbackend
    simp only [(hypervisor_eq_ok_iff listed).mpr hhypervisor, hseen]
    exact linked_eq_ok_iff.mpr ⟨hid, rfl, rfl, hlink⟩

theorem expected_eq_error_iff (listed : w.cloud.listError = none) {e : Error} :
    w.expected i v = .error e ↔ Untold w.cloud i v e := by
  unfold expected
  constructor
  · intro h
    cases hhypervisor : w.hypervisor i with
    | error e' =>
        simp only [hhypervisor, Except.error.injEq] at h
        obtain ⟨hnone, rfl⟩ := (hypervisor_eq_error_iff listed).mp hhypervisor
        rw [← h]
        exact .unhosted hnone
    | ok kind =>
        simp only [hhypervisor] at h
        obtain ⟨first, hfirst, rfl⟩ := (hypervisor_eq_ok_iff listed).mp hhypervisor
        obtain ⟨fault, hlink, rfl⟩ := linked_eq_error_iff.mp h
        exact .unlinked hfirst (backendOn_eq_iff.mp rfl) hlink
  · intro h
    cases h with
    | unhosted hnone => rw [(hypervisor_eq_error_iff listed).mpr ⟨hnone, rfl⟩]
    | unlinked hfirst hstorage hlink =>
        have hseen := backendOn_eq_iff.mpr hstorage
        simp only [(hypervisor_eq_ok_iff listed).mpr ⟨_, hfirst, rfl⟩, hseen]
        exact linked_eq_error_iff.mpr ⟨_, hlink, rfl⟩

/-! ## The run -/

theorem value_attach_of_accept (h : Targets w d i v)
    (haccept : w.cloud.attachVerdict = .accept) :
    (attempt (attach d) w).1 = w.expected i v := by
  have hsettled := settles_attach_of_accept (attachment_eq_ok_iff_targets.mpr h)
    (rejection_eq_none_iff.mpr haccept)
  exact congrArg Prod.fst hsettled.attempt

/-- An attachment succeeds only where there is a target and the cloud accepts. -/
theorem exists_targets_of_attach_ok {outcome : Outcome}
    (h : (attempt (attach d) w).1 = .ok outcome) :
    w.cloud.attachVerdict = .accept ∧ ∃ i v, Targets w d i v := by
  cases htarget : w.attachment d with
  | error e =>
      rw [(settles_attach_of_error htarget).attempt] at h
      cases h
  | ok target =>
      refine ⟨?_, target.1, target.2, attachment_eq_ok_iff_targets.mp htarget⟩
      cases hrejection : rejection w.cloud.attachVerdict with
      | none => exact rejection_eq_none_iff.mp hrejection
      | some message =>
          rw [(settles_attach_of_reject htarget hrejection).attempt] at h
          cases h

theorem attach_eq_ok_iff {outcome : Outcome} :
    (attempt (attach d) w).1 = .ok outcome ↔
      w.cloud.attachVerdict = .accept ∧
        ∃ i v, Targets w d i v ∧ Foretells w.cloud i v outcome := by
  constructor
  · intro h
    obtain ⟨haccept, i, v, htargets⟩ := exists_targets_of_attach_ok h
    rw [value_attach_of_accept htargets haccept] at h
    exact ⟨haccept, i, v, htargets, (expected_eq_ok_iff htargets.listed).mp h⟩
  · rintro ⟨haccept, i, v, htargets, hforetells⟩
    rw [value_attach_of_accept htargets haccept]
    exact (expected_eq_ok_iff htargets.listed).mpr hforetells

theorem attach_eq_error_iff_of_accept (h : Targets w d i v)
    (haccept : w.cloud.attachVerdict = .accept) {e : Error} :
    (attempt (attach d) w).1 = .error e ↔ Untold w.cloud i v e := by
  rw [value_attach_of_accept h haccept]
  exact expected_eq_error_iff h.listed

/-- Registrations are asked for only once the kind of hypervisor is known. -/
theorem getRegistration_mem_calls_iff (h : Targets w d i v)
    (haccept : w.cloud.attachVerdict = .accept) {host : String} :
    .getRegistration host ∈ calls (attach d) w ↔
      .cloud (.getRegistration host) ∈ w.expecting i v := by
  have hfinding : Request.cloud (.getRegistration host) ∉ w.findingAttachment d := by
    intro h
    rcases request_of_mem_findingAttachment h with h | h
    · rcases request_of_mem_locating h with ⟨hostname, h⟩ | h <;> cases h
    · cases h
  have hrecording : Request.cloud (.getRegistration host) ∉
      recording v.id (nonBlank? d.displayName) := by
    cases nonBlank? d.displayName <;> simp [recording]
  have hsettled := settles_attach_of_accept (attachment_eq_ok_iff_targets.mpr h)
    (rejection_eq_none_iff.mpr haccept)
  rw [hsettled.calls, mem_filterMap_cloud?_iff]
  simp [hfinding, hrecording]

theorem getRegistration_mem_expecting_iff {kind : Cloud.HypervisorKind} {host : String}
    (hkind : w.hypervisor i = .ok kind) :
    .cloud (.getRegistration host) ∈ w.expecting i v ↔
      kind ∈ Disk.powerVmKinds ∧ trim v.backendHost ≠ "" ∧ host = v.backendHost := by
  unfold expecting askingBackend
  rw [hkind, ← isPowerVm_iff]
  by_cases hpower : kind.isPowerVm = true <;> by_cases hhost : trim v.backendHost = "" <;>
    simp [hpower, hhost]

/--
An attachment that succeeds tells what the cloud has on record for its instance and its volume, and
asks for a registration only where the hypervisor makes it count.  Once the cloud has accepted, an
attachment fails only if these records lead to no path.
-/
theorem attach_predicts (w : World) (d : Demand) :
    let result := (attempt (attach d) w).1
    (∀ outcome, result = .ok outcome ↔
      w.cloud.attachVerdict = .accept ∧
        ∃ i v, Targets w d i v ∧ Foretells w.cloud i v outcome) ∧
      (∀ outcome i v, result = .ok outcome → Targets w d i v →
        ∀ host, .getRegistration host ∈ calls (attach d) w ↔
          outcome.hypervisor ∈ Disk.powerVmKinds ∧ trim v.backendHost ≠ "" ∧
            host = v.backendHost) ∧
      (∀ instanceId volumeId, Accepts w d instanceId volumeId →
        ∃ i v, Targets w d i v ∧ i.id = instanceId ∧ v.id = volumeId ∧
          ∀ e, result = .error e ↔ Untold w.cloud i v e) := by
  refine ⟨fun outcome => attach_eq_ok_iff, ?_, ?_⟩
  · intro outcome i v hok htargets host
    obtain ⟨haccept, i', v', htargets', hforetells⟩ := attach_eq_ok_iff.mp hok
    obtain ⟨rfl, rfl⟩ := htargets.unique htargets'
    have hkind := (hypervisor_eq_ok_iff htargets.listed).mpr hforetells.hypervisor
    rw [getRegistration_mem_calls_iff htargets haccept, getRegistration_mem_expecting_iff hkind]
  · intro instanceId volumeId haccepts
    obtain ⟨⟨i, v, htarget, hi, hv⟩, haccept⟩ := accepts_iff.mp haccepts
    have htargets := attachment_eq_ok_iff_targets.mp htarget
    exact ⟨i, v, htargets, hi, hv, fun e => attach_eq_error_iff_of_accept htargets haccept⟩

/-- Of two volumes on one host the first has a path, on storage that is asked for, and the second,
of which no world-wide name is on record, has none. -/
theorem attach_predicts_two_volumes :
    let first : Demand := ⟨" vol_1 ", some "data", "1.2.3.4"⟩
    let second : Demand := ⟨"vol_2", none, "1.2.3.4"⟩
    let outcome : Outcome := ⟨"/dev/disk/by-id/wwn-0xwwn_1", "vm_1", .powerVios, .generic⟩
    (attempt (attach first) oneNamed).1 = .ok outcome ∧
      Accepts oneNamed second "vm_1" "vol_2" ∧
      .getRegistration "svc" ∈ calls (attach first) oneNamed ∧
      (∃ i v, Targets oneNamed first i v ∧ Foretells oneNamed.cloud i v outcome ∧
        v.backendHost = "svc") ∧
      ∃ i v, Targets oneNamed second i v ∧
        Untold oneNamed.cloud i v (.link (.missingWwn "vol_2")) := by
  intro first second outcome
  have hok : (attempt (attach first) oneNamed).1 = .ok outcome := by decide +kernel
  have haccepts : Accepts oneNamed second "vm_1" "vol_2" := by
    unfold Accepts
    decide +kernel
  have hregistered : .getRegistration "svc" ∈ calls (attach first) oneNamed := by decide +kernel
  have herror : (attempt (attach second) oneNamed).1 = .error (.link (.missingWwn "vol_2")) := by
    decide +kernel
  obtain ⟨hforetold, hasked, -⟩ := attach_predicts oneNamed first
  obtain ⟨-, i, v, htargets, hforetells⟩ := (hforetold outcome).mp hok
  obtain ⟨-, -, haccepted⟩ := attach_predicts oneNamed second
  obtain ⟨i', v', htargets', -, -, huntold⟩ := haccepted "vm_1" "vol_2" haccepts
  obtain ⟨-, -, hhost⟩ := (hasked outcome i v hok htargets "svc").mp hregistered
  exact ⟨hok, haccepts, hregistered, ⟨i, v, htargets, hforetells, hhost.symm⟩,
    i', v', htargets', (huntold _).mp herror⟩

end World

end NodeVolumes.Placement
