import NodeVolumes.Kubelet.Operation
import NodeVolumes.Kubelet.Response
import NodeVolumes.Kubelet.Session
import NodeVolumes.Placement.Attach
import NodeVolumes.Settings.Node

/-!
# Dispatch

Serving an operation: cloud operations open one session and ask nothing of the host, the others
ask only the host.  Whatever fails becomes a response that says so.
-/

namespace NodeVolumes.Kubelet

inductive Error where
  | connect (error : Cloud.Error)
  | placement (error : Placement.Error)
  | discovery (error : Disk.DiscoveryError)
  | mount (error : Mount.Error)
  | missingArgument (name : String)
  deriving DecidableEq

def Error.message : Error → String
  | .connect e => "cannot open cloud session: " ++ e.message
  | .placement e => e.message
  | .discovery e => e.message
  | .mount e => e.message
  | .missingArgument name => name ++ " is required"

def inSession {α : Type} (action : Placement.Action Placement.Error α) : Action Error α := do
  ExceptT.adapt Error.connect (ExceptT.mk (ask .connect))
  ExceptT.adapt Error.placement (ExceptT.mk (ofPlacement action.run))

def onHost {ε α : Type} (fault : ε → Error) (action : Host.Action ε α) : Action Error α :=
  ExceptT.adapt fault (ExceptT.mk (ofHost action.run))

def mountSetup (settings : Settings.Node) (driverName : String) : Host.Program Mount.Setup := do
  return settings.mountSetup (← settings.globalMounts driverName)

def mounting (settings : Settings.Node) (driverName : String)
    (action : Mount.Setup → Host.Action Mount.Error Unit) : Action Error Unit :=
  onHost .mount do
    let setup ← ExceptT.lift (mountSetup settings driverName)
    action setup

/-- What `init` answers: that volumes are attached by this driver. -/
def capabilities : Response :=
  Response.success.withCapability "attach" true

/-- The name that tells a volume apart: its identifier. -/
def volumeNameOf (options : Options) : Except Error String :=
  match Text.nonBlank options.volumeIdText with
  | some id => .ok id
  | none => .error (.missingArgument "volumeID")

def demandOf (options : Options) (node : String) : Placement.Demand where
  volumeId := options.volumeIdText
  displayName := options.volumeName
  node := node

def execute (settings : Settings.Node) (driverName : String) :
    Operation → Action Error Response
  | .init => return capabilities
  | .getVolumeName options => do
      let name ← volumeNameOf options
      return Response.success.withVolumeName name
  | .isAttached options node => do
      let attached ← inSession (Placement.isAttached options.volumeIdText node)
      return Response.success.withAttached attached
  | .attach options node => do
      let outcome ← inSession (Placement.attach (demandOf options node))
      return Response.success.withDevice outcome.devicePath
  | .waitForAttach device => do
      let found ← onHost .discovery
        (Disk.waitFor (Command.helperOf settings.helper) settings.policy settings.layout device)
      return Response.success.withDevice found.devicePath
  | .mountDevice path device options => do
      mounting settings driverName fun setup => Mount.mountDevice setup path device options
      return Response.success
  | .mount directory options => do
      mounting settings driverName fun setup => Mount.bind setup directory options
      return Response.success
  | .detach volumeName node => do
      let _ ← inSession (Placement.detach volumeName node)
      return Response.success
  | .waitForDetach _ => return Response.success
  | .unmountDevice path => do
      mounting settings driverName fun setup => Mount.unmountDevice setup path
      return Response.success
  | .unmount directory => do
      mounting settings driverName fun setup => Mount.unmount setup directory
      return Response.successWith ("Unmounted volume directory " ++ directory)

def responseOf : Except Error Response → Response
  | .ok response => response
  | .error e => .failure e.message

def dispatch (settings : Settings.Node) (driverName : String) (operation : Operation) :
    Program Response := do
  return responseOf (← (execute settings driverName operation).run)

end NodeVolumes.Kubelet
