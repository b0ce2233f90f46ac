import NodeVolumes.Net.Address
import NodeVolumes.SortedMap
import NodeVolumes.Text.Lowercase

/-!
# Cloud records

The records of a cloud that volume operations work with: volumes and their metadata, instances
and the hypervisors that run them, storage hosts, and attachments.

Main statement: `Volume.ofMetadata` reads the name and the world-wide name of a volume off its
metadata, so that both agree with it (`Volume.IsConsistent`).
-/

namespace NodeVolumes.Cloud

open Text

def nameKey : String := "k8s_pvOrVolumeName"

/-- The metadata key of the world-wide name of the storage unit behind a volume. -/
def wwnKey : String := "volume_wwn"

structure Volume where
  id : String
  /-- The name in the cluster. -/
  displayName : Option String := none
  /-- The world-wide name of the storage unit behind the volume. -/
  wwn : Option String := none
  /-- The storage host that serves the volume. -/
  backendHost : String := ""
  status : String := ""
  metadata : SortedMap String := ∅
  deriving DecidableEq

namespace Volume

/-- The volume with this metadata, named as the metadata says; blank values name nothing. -/
def ofMetadata (id backendHost status : String) (metadata : SortedMap String) : Volume where
  id := id
  displayName := nonBlank? (metadata.get? nameKey)
  wwn := nonBlank? (metadata.get? wwnKey)
  backendHost := backendHost
  status := status
  metadata := metadata

def IsConsistent (v : Volume) : Prop :=
  v.displayName = nonBlank? (v.metadata.get? nameKey) ∧ v.wwn = nonBlank? (v.metadata.get? wwnKey)

theorem isConsistent_ofMetadata (id backendHost status : String) (metadata : SortedMap String) :
    (ofMetadata id backendHost status metadata).IsConsistent :=
  ⟨rfl, rfl⟩

def withMetadata (v : Volume) (metadata : SortedMap String) : Volume :=
  ofMetadata v.id v.backendHost v.status metadata

def hasMetadata (v : Volume) (key value : String) : Bool :=
  v.metadata.get? key == some value

end Volume

structure Instance where
  id : String
  /-- The host name of the hypervisor that runs the machine. -/
  hypervisorHost : String := ""
  /-- The addresses of its network ports, one for each port. -/
  addresses : List Net.Ipv4 := []
  deriving DecidableEq

inductive HypervisorKind where
  | kvm
  | libvirt
  /-- KVM on a Power system. -/
  | powerKvm
  /-- PowerVM with its disks behind a Virtual I/O Server. -/
  | powerVios
  /-- PowerVM managed from its console. -/
  | powerPhyp
  /-- Any other kind, by its label. -/
  | unsupported (label : String)
  deriving DecidableEq, Repr

namespace HypervisorKind

def label : HypervisorKind → String
  | .kvm => "kvm"
  | .libvirt => "libvirt"
  | .powerKvm => "novalink-kvm"
  | .powerVios => "powervm"
  | .powerPhyp => "phyp"
  | .unsupported label => label

def supported : List HypervisorKind :=
  [.kvm, .libvirt, .powerKvm, .powerVios, .powerPhyp]

def ofLabel (text : String) : HypervisorKind :=
  (supported.find? fun kind => kind.label = lowerAscii (trim text)).getD
    (.unsupported (trim text))

/-- Kinds whose device paths depend on the storage behind a volume. -/
def isPowerVm : HypervisorKind → Bool
  | .powerVios | .powerPhyp => true
  | _ => false

end HypervisorKind

structure Hypervisor where
  hostname : String
  kind : HypervisorKind
  deriving DecidableEq

inductive Backend where
  | gpfs
  | xiv
  /-- Any other registered controller. -/
  | generic
  /-- Storage hosts without a registration. -/
  | unregistered
  deriving DecidableEq, Repr

def Backend.ofHostType (text : String) : Backend :=
  match lowerAscii (trim text) with
  | "gpfs" => .gpfs
  | "xiv" => .xiv
  | _ => .generic

structure Registration where
  backendHost : String
  backend : Backend
  deriving DecidableEq

/-- The storage behind a host, told by its registration. -/
def Backend.ofRegistration (registration : Option Registration) : Backend :=
  match registration with
  | none => .unregistered
  | some r => r.backend

structure Attachment where
  serverId : String
  volumeId : String
  /-- The device name that the hypervisor reports. -/
  device : Option String := none
  deriving DecidableEq

def Attachment.joins (a : Attachment) (serverId volumeId : String) : Bool :=
  a.serverId == serverId && a.volumeId == volumeId

end NodeVolumes.Cloud
