import NodeVolumes.Rest.Login
import NodeVolumes.Rest.Payload

/-!
# The cloud client

Serving the requests of a cloud session over HTTP.

Every answer is classified in one place, `send`: not found is told apart from success, and any
other status is an error.

A listing follows the links of its pages for as long as there are any, and a service can link its
pages so that there always is one more.  So a listing is given fuel for a number of pages, and has
no value (`none`) while it is still going on when these are read: that is no answer of the client,
but that there is none yet.
-/

namespace NodeVolumes.Rest

open Cloud

structure Client where
  session : Session
  /-- How often a volume is asked for while it is being created. -/
  creatingPolls : Nat := 100
  /-- Milliseconds between two of these requests. -/
  creatingInterval : Nat := 3000
  deriving DecidableEq, Repr

def creatingStatus : String := "creating"

def resourceUrl (base : String) (segments : List String) : Except Error Http.Url :=
  match Http.Url.parse base with
  | .error e => .error (.config ("invalid endpoint " ++ base ++ ": " ++ e.message))
  | .ok url =>
      match url.extend? segments with
      | some url => .ok url
      | none => .error (.config ("endpoint " ++ base ++ " cannot carry a path"))

namespace Client

def computeUrl (c : Client) (segments : List String) : Action Error Http.Url :=
  ExceptT.mk (pure (resourceUrl c.session.computeUrl segments))

def volumeUrl (c : Client) (segments : List String) : Action Error Http.Url :=
  ExceptT.mk (pure (resourceUrl c.session.volumeUrl segments))

/-- What an answer says: nothing if the resource is not there, an error if it is no success. -/
def classify (r : Http.Request) (response : Http.Response) : Except Error (Option Http.Response) :=
  if response.status = 404 then .ok none
  else if response.isSuccess then .ok (some response)
  else
    .error (.http r.method.name r.url.text response.status (Text.trim response.text))

def send (c : Client) (method : Http.Method) (url : Http.Url) (body : Option Json := none) :
    Action Error (Option Http.Response) := do
  let request : Http.Request :=
    { method, url, token := some c.session.token, accept := "application/json", body }
  let response ← exchange request
  ExceptT.mk (pure (classify request response))

def getOptional {α : Type} (c : Client) (url : Http.Url) (resource : String)
    (decoder : Json.Decoder α) : Action Error (Option α) := do
  match ← c.send .get url with
  | none => return none
  | some response => some <$> ExceptT.mk (pure (decodeBody decoder resource response))

def getJson {α : Type} (c : Client) (url : Http.Url) (resource : String)
    (decoder : Json.Decoder α) : Action Error α := do
  match ← c.getOptional url resource decoder with
  | some a => return a
  | none => throw (.notFound resource url.text)

/-! ## Listings -/

/-- The page after the one at `current`; a link to that same page is none. -/
def nextPage (current : Http.Url) (links : List Link) : Except Error (Option Http.Url) :=
  match nextLink links with
  | none => .ok none
  | some href =>
      match Http.Url.parse href with
      | .error e => .error (.parse "pagination link" e.message)
      | .ok url => .ok (if url = current then none else some url)

/-- Gathers the items of a page and of those after it, unless they are more than there is fuel
for. -/
def collect {α : Type} (c : Client) (resource : String) (page : Json.Record (Page α)) :
    Nat → Http.Url → Action Error (Option (List α))
  | 0, _ => return none
  | fuel + 1, url => do
      let found ← c.getJson url resource page.decoder
      match ← ExceptT.mk (pure (nextPage url found.links)) with
      | none => return some found.items
      | some next =>
          let rest ← collect c resource page fuel next
          return rest.map (found.items ++ ·)

def listInstances (c : Client) (fuel : Nat) : Action Error (Option (List Instance)) := do
  let url ← c.computeUrl ["servers", "detail"]
  let servers ← c.collect "server list" serverPage fuel url
  return servers.map (·.map Server.toInstance)

def listHypervisors (c : Client) (fuel : Nat) : Action Error (Option (List Hypervisor)) := do
  let url ← c.computeUrl ["os-hypervisors", "detail"]
  let hosts ← c.collect "hypervisor list" hypervisorPage fuel url
  return hosts.map (·.map HypervisorEntry.toHypervisor)

def metadataFilter (key value : String) : String :=
  (Json.object [(key, .string value)]).compact

/-- The volumes with a value at a metadata key, whether or not the service minds the filter. -/
def findVolumes (c : Client) (fuel : Nat) (key value : String) :
    Action Error (Option (List Volume)) := do
  let url ← c.volumeUrl ["volumes", "detail"]
  let entries ← c.collect "volume list" volumePage fuel
    (url.withPair "metadata" (metadataFilter key value))
  return entries.map fun entries =>
    (entries.map VolumeEntry.toVolume).filter (·.hasMetadata key value)

/-! ## Volumes -/

def fetchVolume (c : Client) (volumeId : String) : Action Error Volume := do
  let url ← c.volumeUrl ["volumes", volumeId]
  match ← c.getOptional url "volume" volumeBody.decoder with
  | some (some entry) => return entry.toVolume
  | _ => throw (.notFound "volume" volumeId)

/-- Asks for a volume, and again that many times while it is being created. -/
def awaitVolume (c : Client) (volumeId : String) : Nat → Action Error Volume
  | 0 => c.fetchVolume volumeId
  | again + 1 => do
      let volume ← c.fetchVolume volumeId
      if volume.status = creatingStatus then
        ExceptT.lift (ask (.host (.sleep c.creatingInterval)))
        awaitVolume c volumeId again
      else
        return volume

/-- Deletes metadata keys in order; keys that are not there are passed over. -/
def deleteMetadata (c : Client) (volumeId : String) : List String → Action Error Unit
  | [] => return ()
  | key :: rest => do
      let url ← c.volumeUrl ["volumes", volumeId, "metadata", key]
      let _ ← c.send .delete url
      deleteMetadata c volumeId rest

def mergeMetadata (c : Client) (volumeId : String) (entries : SortedMap String) :
    Action Error Unit := do
  let url ← c.volumeUrl ["volumes", volumeId, "metadata"]
  match ← c.send .post url (some (.object [("metadata", .ofTexts entries)])) with
  | some _ => return ()
  | none => throw (.notFound "volume" volumeId)

/-! ## Attachments and registrations -/

/-- Asks for an attachment; the answer tells whether that was accepted. -/
def attach (c : Client) (instanceId volumeId : String) : Action Error Bool := do
  let url ← c.computeUrl ["servers", instanceId, "os-volume_attachments"]
  let body : Json := .object [("volumeAttachment", .object [("volumeId", .string volumeId)])]
  return (← c.send .post url (some body)).isSome

/-- Asks for the end of an attachment; the answer tells whether that was accepted. -/
def detach (c : Client) (instanceId volumeId : String) : Action Error Bool := do
  let url ← c.computeUrl ["servers", instanceId, "os-volume_attachments", volumeId]
  return (← c.send .delete url).isSome

def attachment (c : Client) (instanceId volumeId : String) : Action Error (Option Attachment) := do
  let url ← c.computeUrl ["servers", instanceId, "os-volume_attachments", volumeId]
  return (← c.getOptional url "volume attachment" attachmentBody.decoder).bind id

def registration (c : Client) (backendHost : String) : Action Error (Option Registration) := do
  let url ← c.volumeUrl ["os-hosts", backendHost]
  let entries ← c.getOptional url "storage host" hostBody.decoder
  return entries.bind (registrationOf backendHost)

/-- What a listing has come to, if it is not still going on. -/
def ended {α : Type} : Except Error (Option α) → Option (Except Error α)
  | .ok none => none
  | .ok (some a) => some (.ok a)
  | .error e => some (.error e)

/-- Serves a request of the session, with fuel for that many pages if it lists. -/
def serve (c : Client) (fuel : Nat) : (r : Cloud.Request) → OptionT Program r.Answer
  | .getVolume volumeId => OptionT.lift (c.awaitVolume volumeId (c.creatingPolls - 1)).run
  | .findVolumes key value => OptionT.mk (ended <$> (c.findVolumes fuel key value).run)
  | .changeMetadata volumeId entries .merge => OptionT.lift (c.mergeMetadata volumeId entries).run
  | .changeMetadata volumeId entries .remove =>
      OptionT.lift (c.deleteMetadata volumeId entries.keys).run
  | .attach instanceId volumeId => OptionT.lift (c.attach instanceId volumeId).run
  | .detach instanceId volumeId => OptionT.lift (c.detach instanceId volumeId).run
  | .getAttachment instanceId volumeId => OptionT.lift (c.attachment instanceId volumeId).run
  | .listInstances => OptionT.mk (ended <$> (c.listInstances fuel).run)
  | .listHypervisors => OptionT.mk (ended <$> (c.listHypervisors fuel).run)
  | .getRegistration backendHost => OptionT.lift (c.registration backendHost).run

end Client

end NodeVolumes.Rest
