import NodeVolumes.Disk.Link
import NodeVolumes.Placement.Correlation

/-!
# Attaching and detaching

Detaching is told only the name that a volume has in the cluster, so attaching records that name
in the metadata of the volume and leaves it there.  Attaching also tells where the device will be
seen; whether it is there is asked for elsewhere.
-/

namespace NodeVolumes.Placement

open Text Cloud

/-- Why a volume was not attached or detached, or its state not told. -/
inductive Error where
  | missingArgument (name : String)
  | attachRejected (volumeId instanceId message : String)
  | detachRejected (volumeId instanceId message : String)
  | hypervisorNotFound (hostname : String)
  | correlation (error : CorrelationError)
  | link (error : Disk.LinkError)
  | cloud (error : Cloud.Error)
  deriving DecidableEq

def Error.message : Error → String
  | .missingArgument name => "missing required argument: " ++ name
  | .attachRejected volumeId instanceId message =>
      "could not attach volume " ++ volumeId ++ " to instance " ++ instanceId ++ ": " ++ message
  | .detachRejected volumeId instanceId message =>
      "could not detach volume " ++ volumeId ++ " from instance " ++ instanceId ++ ": " ++ message
  | .hypervisorNotFound hostname => "hypervisor " ++ hostname ++ " not found"
  | .correlation e => e.message
  | .link e => e.message
  | .cloud e => e.message

/-- What a rejection says if the cloud gave no reason. -/
def notAccepted : String := "the cloud did not accept the request"

/-- A volume to attach: its identifier, the name to record, and the node to attach it to. -/
structure Demand where
  volumeId : String
  displayName : Option String := none
  node : String
  deriving DecidableEq

/-- An attached volume: where its device will be seen, and what that follows from. -/
structure Outcome where
  devicePath : String
  instanceId : String
  hypervisor : HypervisorKind
  backend : Backend
  deriving DecidableEq

/-- The trimmed value of an argument that may not be blank. -/
def required (name value : String) : Except Error String :=
  match nonBlank value with
  | some text => .ok text
  | none => .error (.missingArgument name)

def correlated {α : Type} (action : Action CorrelationError α) : Action Error α :=
  ExceptT.adapt .correlation action

def accepted (answer : Bool) (rejected : String → Error) : Except Error Unit :=
  if answer then .ok () else .error (rejected notAccepted)

/-- Records the name that a volume has in the cluster, if it has one. -/
def recordName (volumeId : String) (displayName : Option String) : Action Error Unit :=
  match nonBlank? displayName with
  | none => return ()
  | some name =>
      askCloud .cloud (.changeMetadata volumeId (SortedMap.empty.insert nameKey name) .merge)

def hypervisorOf (i : Instance) : Action Error HypervisorKind := do
  let hypervisors ← askCloud .cloud .listHypervisors
  match hypervisors.find? fun h => h.hostname == i.hypervisorHost with
  | some h => return h.kind
  | none => throw (.hypervisorNotFound i.hypervisorHost)

/-- The storage behind a volume; without a storage host nothing is asked. -/
def backendOf (v : Volume) : Action Error Backend := do
  if trim v.backendHost = "" then
    return .unregistered
  else
    let registration ← askCloud .cloud (.getRegistration v.backendHost)
    return .ofRegistration registration

/-- Where the device of an attached volume will be seen. -/
def expectDevice (i : Instance) (v : Volume) : Action Error Outcome := do
  let kind ← hypervisorOf i
  let backend ← if kind.isPowerVm then backendOf v else pure Backend.unregistered
  let path ← (Disk.link kind backend v).mapError Error.link
  return ⟨path, i.id, kind, backend⟩

def attach (d : Demand) : Action Error Outcome := do
  let volumeId ← required "volumeID" d.volumeId
  let i ← correlated (resolveInstanceFor d.node)
  let v ← askCloud .cloud (.getVolume volumeId)
  recordName v.id d.displayName
  let rejected := Error.attachRejected v.id i.id
  let answer ← askCloud (fun e => rejected e.message) (.attach i.id v.id)
  accepted answer rejected
  expectDevice i v

def detach (volumeName node : String) : Action Error Volume := do
  let name ← required "volume name" volumeName
  let v ← correlated (resolveVolume name)
  let i ← correlated (resolveInstanceFor node)
  let rejected := Error.detachRejected v.id i.id
  let answer ← askCloud (fun e => rejected e.message) (.detach i.id v.id)
  accepted answer rejected
  return v

def isAttached (volumeId node : String) : Action Error Bool := do
  let id ← required "volumeID" volumeId
  let i ← correlated (resolveInstanceFor node)
  let found ← askCloud .cloud (.getAttachment i.id id)
  return found.any fun a => a.joins i.id id

end NodeVolumes.Placement
