import NodeVolumes.Disk.Topology

/-!
# Discovery

Waiting for an attached disk to be seen.  A scan of the bus ends without notice, so discovery
waits before each of a fixed number of attempts.  An attempt scans the bus, asks for device events
to be replayed, and then looks for the link of the disk without following it.
-/

namespace NodeVolumes.Disk

open Host

/-- How often to look, and how long to wait before each look. -/
structure Policy where
  attempts : Nat := 24
  /-- In milliseconds. -/
  interval : Nat := 5000
  deriving DecidableEq, Repr

structure Descriptor where
  /-- The link, as it was foretold. -/
  expected : String
  /-- The device that the link leads to. -/
  resolved : String
  /-- The device-mapper device on top of it. -/
  parent : Option String := none
  /-- All devices below that one. -/
  slaves : List String := []
  deriving DecidableEq, Repr

def Descriptor.devicePath (d : Descriptor) : String :=
  d.parent.getD d.resolved

inductive LinkFault where
  | io (error : File.IoError)
  /-- The target has no last name. -/
  | unnamed (target : String)
  deriving DecidableEq, Repr

def LinkFault.message : LinkFault → String
  | .io e => e.message
  | .unnamed target => "target " ++ target ++ " has no device name"

inductive DiscoveryError where
  | deviceNotFound (path : String) (attempts : Nat)
  | unresolvable (path : String) (fault : LinkFault)
  /-- The path has no last name. -/
  | unnamedPath (path : String)
  deriving DecidableEq, Repr

def DiscoveryError.message : DiscoveryError → String
  | .deviceNotFound path attempts =>
      "device " ++ path ++ " did not appear after " ++ Decimal.digitText attempts ++ " attempts"
  | .unresolvable path fault => "cannot resolve symlink " ++ path ++ ": " ++ fault.message
  | .unnamedPath path => "invalid device path " ++ path ++ ": path has no file name"

def udevadm : String := "/sbin/udevadm"

/-- Asks for device events to be replayed, for the path alone if something stands there. -/
def replayEvents (helper : Option String) (expected : String) : Action Command.Error Unit := do
  let _ ← runChecked helper (.ofTexts udevadm ["settle"])
  let present ← ExceptT.lift (ask (.pathExists expected))
  let args := if present then ["trigger", expected] else ["trigger"]
  let _ ← runChecked helper (.ofTexts udevadm args)
  return ()

def describe (layout : Layout) (expected : String) (isLink : Bool) :
    Action DiscoveryError Descriptor :=
  if !isLink then
    return { expected, resolved := expected }
  else ExceptT.mk do
    match ← ask (.canonical expected) with
    | .error e => return .error (.unresolvable expected (.io e))
    | .ok target =>
        match Path.fileName target with
        | none => return .error (.unresolvable expected (.unnamed target))
        | some device =>
            match ← parentOf layout.sysfsRoot device with
            | none => return .ok { expected, resolved := target }
            | some parent =>
                let slaves ← slavesOf layout.sysfsRoot parent
                return .ok
                  { expected
                    resolved := target
                    parent := some (Path.join layout.devRoot parent)
                    slaves := slaves.map (Path.join layout.devRoot) }

/-- Looks for a name in a directory, for as long as attempts are left. -/
def poll (helper : Option String) (policy : Policy) (layout : Layout)
    (expected directory name : String) : Nat → Action DiscoveryError Descriptor
  | 0 => throw (.deviceNotFound expected policy.attempts)
  | left + 1 => do
      ExceptT.lift (ask (.sleep policy.interval))
      let _ ← ExceptT.lift (rescan layout.sysfsRoot)
      let _ ← ExceptT.lift (replayEvents helper expected).run
      match ← ExceptT.lift (ask (.isLink directory name)) with
      | .ok isLink => describe layout expected isLink
      | .error _ => poll helper policy layout expected directory name left

def waitFor (helper : Option String) (policy : Policy) (layout : Layout) (expected : String) :
    Action DiscoveryError Descriptor :=
  match Path.fileName expected with
  | none => throw (.unnamedPath expected)
  | some name =>
      poll helper policy layout expected ((Path.parent expected).getD "/") name policy.attempts

end NodeVolumes.Disk
