import NodeVolumes.Cloud.Basic
import NodeVolumes.Decimal.Shortest
import NodeVolumes.Path
import NodeVolumes.Text.Utf8

/-!
# Device links

The link under which a guest sees an attached volume.  Its name follows from the hypervisor, the
storage behind the volume, and either the identifier or the world-wide name of the volume, so it
is known before the device is there.
-/

namespace NodeVolumes.Disk

open Cloud Text

def linkDirectory : String := "/dev/disk/by-id"

inductive Naming where
  /-- By the start of the volume identifier. -/
  | qemuSerial
  /-- By the start of the volume identifier without hyphens. -/
  | lioSerial
  /-- By the world-wide name, behind the prefix of XIV. -/
  | xivName
  /-- By the world-wide name, behind the general prefix. -/
  | viosName
  deriving DecidableEq, Repr

namespace Naming

def start : Naming → String
  | .qemuSerial => "scsi-0QEMU_QEMU_HARDDISK_"
  | .lioSerial => "wwn-0x6001405"
  | .xivName => "scsi-2"
  | .viosName => "wwn-0x"

end Naming

def qemuSerialLength : Nat := 20

def lioSerialLength : Nat := 25

inductive LinkError where
  | unsupportedHypervisor (label : String)
  | missingWwn (volumeId : String)
  | identifierTooShort (volumeId : String) (required : Nat)
  deriving DecidableEq, Repr

def LinkError.message : LinkError → String
  | .unsupportedHypervisor label => "unsupported hypervisor type: " ++ label
  | .missingWwn volumeId => "volume " ++ volumeId ++ " has no world-wide name"
  | .identifierTooShort volumeId required =>
      "volume identifier " ++ volumeId ++ " is shorter than " ++ Decimal.digitText required ++
        " characters"

def naming : HypervisorKind → Backend → Except LinkError Naming
  | .kvm, _ | .libvirt, _ | .powerKvm, _ => .ok .qemuSerial
  | .powerVios, .gpfs | .powerPhyp, .gpfs => .ok .lioSerial
  | .powerVios, .xiv | .powerPhyp, .xiv => .ok .xivName
  | .powerVios, .generic | .powerPhyp, .generic => .ok .viosName
  | .powerVios, .unregistered | .powerPhyp, .unregistered => .ok .viosName
  | .unsupported label, _ => .error (.unsupportedHypervisor label)

def serial (cs : List Char) (volumeId : String) (count : Nat) : Except LinkError String :=
  match takeBytes? count cs with
  | some taken => .ok (String.ofList taken)
  | none => .error (.identifierTooShort volumeId count)

def lowerWwn (v : Volume) : Except LinkError String :=
  match v.wwn with
  | some name => .ok (lower name)
  | none => .error (.missingWwn v.id)

def Naming.serialOf (n : Naming) (v : Volume) : Except LinkError String :=
  match n with
  | .qemuSerial => serial v.id.toList v.id qemuSerialLength
  | .lioSerial => serial (v.id.toList.filter (· ≠ '-')) v.id lioSerialLength
  | .xivName | .viosName => lowerWwn v

def linkIn (directory : String) (kind : HypervisorKind) (backend : Backend) (v : Volume) :
    Except LinkError String := do
  let n ← naming kind backend
  let rest ← n.serialOf v
  return Path.join directory (n.start ++ rest)

def link (kind : HypervisorKind) (backend : Backend) (v : Volume) : Except LinkError String :=
  linkIn linkDirectory kind backend v

end NodeVolumes.Disk
