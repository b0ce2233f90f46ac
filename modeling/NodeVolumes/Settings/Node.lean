import NodeVolumes.Disk.Discovery
import NodeVolumes.Mount.Operations

/-!
# Node settings

Settings of the node that the driver runs on, and what follows from them.
-/

namespace NodeVolumes.Settings

open Text

structure Node where
  /-- The name of the driver where the program's own name tells none. -/
  driverName : String := "power-openstack-k8s"
  /-- Where kubelet keeps what plugins mount. -/
  kubeletPlugins : String := "/var/lib/kubelet/plugins"
  /-- The same on nodes of OpenShift, used if it is there. -/
  openshiftPlugins : String := "/var/lib/origin/openshift.local.volumes/plugins"
  /-- How often discovery looks for a disk. -/
  discoveryAttempts : Nat := 24
  /-- Seconds before each look. -/
  discoverySeconds : Nat := 5
  sysfsRoot : String := "/sys"
  devRoot : String := "/dev"
  /-- The program in front of every command; a blank one stands for none. -/
  helper : String := "/usr/bin/sudo"
  logFile : Option String := none
  logLevel : String := "warn"
  /-- Whether unmounting a device also releases its disks. -/
  releasesDisks : Bool := true
  deriving DecidableEq, Repr

namespace Node

def driverEnding : String := "-volume-flex"

def vendorDirectory : String := "kubernetes.io/flexvolume/ibm"

def driverNameFor (s : Node) (binary : String) : String :=
  match dropEnding? binary driverEnding with
  | some name => if name = "" then s.driverName else name
  | none => s.driverName

def policy (s : Node) : Disk.Policy :=
  ⟨s.discoveryAttempts, s.discoverySeconds * 1000⟩

def layout (s : Node) : Disk.Layout :=
  ⟨s.sysfsRoot, s.devRoot⟩

def pluginDirectory (s : Node) : Host.Program String := do
  if ← Host.ask (.isDirectory s.openshiftPlugins) then
    return s.openshiftPlugins
  else
    return s.kubeletPlugins

def globalMountsIn (plugins name : String) : String :=
  Path.join (Path.join (Path.join plugins vendorDirectory) (name ++ driverEnding)) "mounts"

def globalMounts (s : Node) (name : String) : Host.Program String := do
  return globalMountsIn (← s.pluginDirectory) name

def logFileFor (s : Node) (binary : String) : String :=
  (nonBlank? s.logFile).getD ("/var/log/" ++ binary ++ ".log")

def mountSetup (s : Node) (globalMounts : String) : Mount.Setup where
  helper := Command.helperOf s.helper
  layout := s.layout
  globalMounts := globalMounts
  releasesDisks := s.releasesDisks

end Node

end NodeVolumes.Settings
