import NodeVolumes.Cloud.Request

/-!
# Clouds in memory

A cloud as a value: its records, whether it accepts what is asked of it, and what has been asked.

Answering a request changes volumes only by their metadata, and attachments only when attaching or
detaching is accepted.
-/

namespace NodeVolumes.Cloud

inductive Verdict where
  | accept
  | refuse
  | fail (error : Error)
  deriving DecidableEq, Repr

/-- The list with its first element that `p` picks out changed. -/
def modifyFirst {α : Type} (p : α → Bool) (f : α → α) : List α → List α
  | [] => []
  | a :: rest => if p a then f a :: rest else a :: modifyFirst p f rest

structure Memory where
  volumes : List Volume := []
  instances : List Instance := []
  hypervisors : List Hypervisor := []
  registrations : SortedMap Registration := ∅
  attachments : List Attachment := []
  attachVerdict : Verdict := .accept
  detachVerdict : Verdict := .accept
  /-- The failure of every listing, if listings fail. -/
  listError : Option Error := none
  /-- The requests made, latest first. -/
  history : List Request := []
  deriving DecidableEq

namespace Memory

def empty : Memory := {}

def addVolume (m : Memory) (v : Volume) : Memory :=
  { m with volumes := m.volumes ++ [v] }

/-- The cloud with one more volume, of a name and nothing else. -/
def addNamedVolume (m : Memory) (id name : String) : Memory :=
  m.addVolume (.ofMetadata id "svc" "available" (SortedMap.empty.insert nameKey name))

def addInstance (m : Memory) (i : Instance) : Memory :=
  { m with instances := m.instances ++ [i] }

def addHypervisor (m : Memory) (h : Hypervisor) : Memory :=
  { m with hypervisors := m.hypervisors ++ [h] }

def addRegistration (m : Memory) (r : Registration) : Memory :=
  { m with registrations := m.registrations.insert r.backendHost r }

def addAttachment (m : Memory) (a : Attachment) : Memory :=
  { m with attachments := m.attachments ++ [a] }

/--
A small cloud: instance `vm_1` at `1.2.3.4` on the PowerVM host `host_1`, and volume `vol_1` with
world-wide name `wwn_1` on the registered storage host `svc`.
-/
def reference : Memory :=
  empty
    |>.addInstance ⟨"vm_1", "host_1", [⟨1, 2, 3, 4⟩]⟩
    |>.addHypervisor ⟨"host_1", .powerVios⟩
    |>.addVolume (.ofMetadata "vol_1" "svc" "available" (SortedMap.empty.insert wwnKey "wwn_1"))
    |>.addRegistration ⟨"svc", .generic⟩

def volume? (m : Memory) (id : String) : Option Volume :=
  m.volumes.find? fun v => v.id == id

def wasAskedToMove (m : Memory) : Bool :=
  m.history.any Request.movesVolume

def noVolume (id : String) : Error :=
  .notFound "volume" id

def changed (change : MetadataChange) (old entries : SortedMap String) : SortedMap String :=
  match change with
  | .merge => old.overlay entries
  | .remove => old.without entries

def listed {α : Type} (m : Memory) (list : List α) : Except Error (List α) :=
  match m.listError with
  | some e => .error e
  | none => .ok list

def respond (m : Memory) : (r : Request) → r.Answer × Memory
  | .getVolume id =>
      match m.volume? id with
      | some v => (.ok v, m)
      | none => (.error (noVolume id), m)
  | .findVolumes key value => (.ok (m.volumes.filter fun v => v.hasMetadata key value), m)
  | .changeMetadata id entries change =>
      match m.volume? id with
      | some _ =>
          (.ok (),
            { m with
              volumes := modifyFirst (fun v => v.id == id)
                (fun v => v.withMetadata (changed change v.metadata entries)) m.volumes })
      | none => (.error (noVolume id), m)
  | .attach instanceId volumeId =>
      match m.attachVerdict with
      | .accept =>
          (.ok true, m.addAttachment { serverId := instanceId, volumeId := volumeId })
      | .refuse => (.ok false, m)
      | .fail e => (.error e, m)
  | .detach instanceId volumeId =>
      match m.detachVerdict with
      | .accept =>
          (.ok true,
            { m with
              attachments := m.attachments.filter fun a => !a.joins instanceId volumeId })
      | .refuse => (.ok false, m)
      | .fail e => (.error e, m)
  | .getAttachment _ volumeId => (.ok (m.attachments.find? fun a => a.volumeId == volumeId), m)
  | .listInstances => (m.listed m.instances, m)
  | .listHypervisors => (m.listed m.hypervisors, m)
  | .getRegistration host => (.ok (m.registrations.get? host), m)

def answer (r : Request) : StateM Memory r.Answer := fun m =>
  { m with history := r :: m.history }.respond r

end Memory

end NodeVolumes.Cloud
