import NodeVolumes.Json.Decoder

/-!
# Responses

The one JSON object that answers a volume operation, as kubelet reads it, and the reader for it.

Absent fields are left out of the text; the fields stand in a fixed order and capabilities in
ascending order of their names.
-/

namespace NodeVolumes.Kubelet

inductive Status where
  | success
  | failed
  | notSupported
  deriving DecidableEq, Repr

namespace Status

def word : Status → String
  | .success => "Success"
  | .failed => "Failed"
  | .notSupported => "Not supported"

def table : List (String × Status) :=
  [.success, .failed, .notSupported].map fun s => (s.word, s)

end Status

structure Response where
  status : Status
  message : Option String := none
  device : Option String := none
  volumeName : Option String := none
  attached : Option Bool := none
  capabilities : Option (SortedMap Bool) := none
  deriving DecidableEq, Repr

namespace Response

/-- The message of operations that have nothing else to say. -/
def successMessage : String := "Operation Success"

def success : Response :=
  { status := .success, message := some successMessage }

def successWith (message : String) : Response :=
  { status := .success, message := some message }

def failure (message : String) : Response :=
  { status := .failed, message := some message }

def notSupported (message : String) : Response :=
  { status := .notSupported, message := some message }

def withDevice (r : Response) (device : String) : Response :=
  { r with device := some device }

def withVolumeName (r : Response) (name : String) : Response :=
  { r with volumeName := some name }

def withAttached (r : Response) (attached : Bool) : Response :=
  { r with attached := some attached }

def withCapability (r : Response) (name : String) (enabled : Bool) : Response :=
  { r with capabilities := some ((r.capabilities.getD ∅).insert name enabled) }

def member {α : Type} (name : String) (toJson : α → Json) : Option α → List (String × Json)
  | none => []
  | some a => [(name, toJson a)]

def toJson (r : Response) : Json :=
  .object <|
    [("status", .string r.status.word)] ++
      member "message" .string r.message ++
      member "device" .string r.device ++
      member "volumeName" .string r.volumeName ++
      member "attached" .bool r.attached ++
      member "capabilities"
        (fun m => .object (m.entries.map fun (name, enabled) => (name, .bool enabled)))
        r.capabilities

def encode (r : Response) : String :=
  r.toJson.compact

/-- How a response is read: its status is required, null stands for an absent field. -/
def record : Json.Record Response where
  name := "DriverResponse"
  initial := { status := .success }
  fields :=
    [ .mandatory "status" (.variant Status.table) fun v r => { r with status := v },
      .optional "message" (.optional .text) fun v r => { r with message := v },
      .optional "device" (.optional .text) fun v r => { r with device := v },
      .optional "volumeName" (.optional .text) fun v r => { r with volumeName := v },
      .optional "attached" (.optional .bool) fun v r => { r with attached := v },
      .optional "capabilities" (.optional (.map .bool)) fun v r => { r with capabilities := v } ]

def decode (s : String) : Except Json.Fault Response :=
  Json.decode record.decoder s

end Response

end NodeVolumes.Kubelet
