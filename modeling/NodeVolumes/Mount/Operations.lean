import NodeVolumes.Disk.Topology
import NodeVolumes.Kubelet.Options
import NodeVolumes.Mount.Table

/-!
# Mounting

A volume is mounted in two steps: its device at a global path, and that path bound into the
directory of a pod.  Unmounting the global path can also release the disks behind the device, so
that a later detach leaves no dead paths; problems with that never fail the unmount.
-/

namespace NodeVolumes.Mount

open Host
open Kubelet (Options)

inductive Error where
  | command (error : Command.Error)
  | missingVolumeName
  | table (error : TableError)
  /-- The mounted source is no device node. -/
  | invalidDevice (path : String)
  | notMultipath (device line : String)
  | unexpectedMultipathOutput (line : String)
  | missingParent (path : String)
  deriving DecidableEq, Repr

def Error.message : Error → String
  | .command e => e.message
  | .missingVolumeName => "missing kubernetes.io/pvOrVolumeName option"
  | .table e => e.message
  | .invalidDevice path => "device path is not valid: " ++ path
  | .notMultipath device line =>
      "multipath error: " ++ device ++ " is not a multipath device: " ++ line
  | .unexpectedMultipathOutput line => "multipath error: unexpected multipath output: " ++ line
  | .missingParent path =>
      "multipath error: device mapper parent " ++ path ++ " does not exist"

def lsblk : String := "/bin/lsblk"

def mkdir : String := "/bin/mkdir"

def mountTool : String := "/bin/mount"

def umount : String := "/bin/umount"

def multipath : String := "/usr/sbin/multipath"

def mkfs (fsType : String) : String :=
  "/sbin/mkfs." ++ fsType

def knownFileSystems : List String :=
  ["ext2", "ext3", "ext4", "jfs", "ReiserFS", "XFS", "Btrfs"]

structure Setup where
  /-- The program in front of every command. -/
  helper : Option String := none
  layout : Disk.Layout := {}
  /-- The directory of the global paths. -/
  globalMounts : String
  /-- Whether unmounting a device also releases its disks. -/
  releasesDisks : Bool := true
  deriving DecidableEq, Repr

def run (s : Setup) (program : String) (args : List String) : Action Error String := do
  let output ← ExceptT.adapt Error.command (runChecked s.helper (.ofTexts program args))
  return output.stdout

/-- Whether a listing of file system types names one that is not made anew. -/
def namesKnown (listing : String) : Bool :=
  let reported := Text.lower (Text.trim listing)
  knownFileSystems.any fun fs => Text.contains reported (Text.lower fs)

def hasFileSystem (s : Setup) (device : String) : Action Error Bool := do
  let listing ← run s lsblk [device, "--noheadings", "-o", "FSTYPE", "-f"]
  return namesKnown listing

/-- Types whose makers ask before they work on a whole disk, unless they are told not to. -/
def asksBack (fsType : String) : Bool :=
  Text.startsWith fsType "ext" || Text.startsWith fsType "ntfs"

def formatArgs (fsType device : String) : List String :=
  if asksBack fsType then [device, "-F"] else [device]

def format (s : Setup) (device fsType : String) : Action Error Unit := do
  if ← hasFileSystem s device then
    return ()
  else
    let _ ← run s (mkfs fsType) (formatArgs fsType device)
    return ()

def deviceMountArgs (readOnly : Bool) (device path : String) : List String :=
  if readOnly then ["-r", device, path] else [device, path]

/-- Mounts a device at a global path, with a file system made on it if it has none. -/
def mountDevice (s : Setup) (path device : String) (options : Options) : Action Error Unit := do
  format s device options.fileSystem
  let _ ← run s mkdir ["-p", path]
  let _ ← run s mountTool (deviceMountArgs options.readOnly device path)
  return ()

def bind (s : Setup) (directory : String) (options : Options) : Action Error Unit := do
  match options.volumeName with
  | none => throw .missingVolumeName
  | some name =>
      let _ ← run s mkdir ["-p", directory]
      let _ ← run s mountTool ["--bind", Path.join s.globalMounts name, directory]
      return ()

def unmount (s : Setup) (directory : String) : Action Error Unit := do
  let _ ← run s umount [directory]
  return ()

def deviceOfMount (s : Setup) (path : String) : Action Error String := do
  let table ← run s mountTool []
  (deviceAt path table).mapError Error.table

structure BlockDevices where
  /-- The device-mapper device, if there is one. -/
  parent : Option String := none
  devices : List String
  deriving DecidableEq, Repr

def isMultipath (device : String) : Bool :=
  Text.startsWith device "/dev/mapper/mpath"

def mapperOfListing (device listing : String) : Except Error String :=
  let first := (Text.lines listing).head?.getD ""
  if Text.contains first "not a valid argument" then
    .error (.notMultipath device first)
  else
    match (Text.words first)[2]? with
    | some field =>
        if Disk.isMapped field then .ok field else .error (.unexpectedMultipathOutput first)
    | none => .error (.unexpectedMultipathOutput first)

def blockDevices (s : Setup) (device : String) : Action Error BlockDevices := do
  if !Text.contains device "/dev" then
    throw (.invalidDevice device)
  else if !isMultipath device then
    return { devices := [device] }
  else
    let listing ← run s multipath ["-l", device]
    let mapper ← mapperOfListing device listing
    let parent := Path.join s.layout.devRoot mapper
    if ← ExceptT.lift (ask (.pathExists parent)) then
      let slaves ← ExceptT.lift (Disk.slavesOf s.layout.sysfsRoot mapper)
      return { parent := some parent, devices := slaves.map (Path.join s.layout.devRoot) }
    else
      throw (.missingParent parent)

/-- Makes the kernel forget devices, each whatever becomes of the others. -/
def deleteAll (root : String) : List String → Program Unit
  | [] => return ()
  | device :: rest => do
      let _ ← (Disk.delete root device).run
      deleteAll root rest

/-- Releases the disks behind a device that is no longer mounted. -/
def release (s : Setup) (device : String) : Action Error Unit := do
  let block ← blockDevices s device
  if block.parent.isSome then
    let _ ← run s multipath ["-f", (Path.fileName device).getD device]
  ExceptT.lift (deleteAll s.layout.sysfsRoot (block.devices.filterMap Path.fileName))

/-- The device at a path, if disks are to be released and it can be told. -/
def deviceToRelease (s : Setup) (path : String) : Program (Option String) := do
  if s.releasesDisks then
    return (← (deviceOfMount s path).run).toOption
  else
    return none

/-- Unmounts a global path and releases the disks behind it. -/
def unmountDevice (s : Setup) (path : String) : Action Error Unit := do
  let device ← ExceptT.lift (deviceToRelease s path)
  let _ ← run s umount [path]
  match device with
  | none => return ()
  | some device =>
      let _ ← ExceptT.lift (release s device).run
      return ()

end NodeVolumes.Mount
