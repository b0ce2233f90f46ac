import NodeVolumes.Host.Request
import NodeVolumes.Text.Search

/-!
# Disk topology

The kernel's view of disks below a directory such as `/sys`: the hosts of the SCSI bus, which can
be told to look for new disks, and block devices, of which device-mapper ones have slaves.
-/

namespace NodeVolumes.Disk

open Host

structure Layout where
  sysfsRoot : String := "/sys"
  devRoot : String := "/dev"
  deriving DecidableEq, Repr

def hostDirectory : String := "class/scsi_host"

def blockDirectory : String := "block"

def scanAll : String := "- - -"

def deleteNow : String := "1"

def scanAttribute (host : String) : String :=
  hostDirectory ++ "/" ++ host ++ "/scan"

def slaveDirectory (device : String) : String :=
  blockDirectory ++ "/" ++ device ++ "/slaves"

def deleteAttribute (device : String) : String :=
  blockDirectory ++ "/" ++ device ++ "/device/delete"

def isMapped (device : String) : Bool :=
  Text.startsWith device "dm-"

/-- Tells hosts to look for disks, each whatever becomes of the others; how many took it. -/
def scanHosts (root : String) : List String → Program Nat
  | [] => return 0
  | host :: rest => do
      let written ← ask (.write root (scanAttribute host) scanAll)
      let others ← scanHosts root rest
      return if written.isOk then others + 1 else others

/-- Tells every host to look for disks; how many took it. -/
def rescan (root : String) : Program Nat := do
  ask .countPass
  match ← ask (.names root hostDirectory) with
  | .error _ => return 0
  | .ok hosts => scanHosts root hosts

def firstWithSlave (root slave : String) : List String → Program (Option String)
  | [] => return none
  | device :: rest => do
      if ← ask (.entryExists root (slaveDirectory device ++ "/" ++ slave)) then
        return some device
      else
        firstWithSlave root slave rest

def parentOf (root device : String) : Program (Option String) := do
  match ← ask (.names root blockDirectory) with
  | .error _ => return none
  | .ok names => firstWithSlave root device (names.filter isMapped)

/-- The slaves of a device; none if they cannot be listed. -/
def slavesOf (root device : String) : Program (List String) := do
  match ← ask (.names root (slaveDirectory device)) with
  | .error _ => return []
  | .ok names => return names

def delete (root device : String) : Action File.IoError Unit :=
  ExceptT.mk (ask (.write root (deleteAttribute device) deleteNow))

end NodeVolumes.Disk
