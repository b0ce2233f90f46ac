import NodeVolumes.Cloud.Basic
import NodeVolumes.Decimal.Shortest
import NodeVolumes.Flow

/-!
# Requests to a cloud

What volume operations ask of a cloud session, and how a session fails.
-/

namespace NodeVolumes.Cloud

inductive Error where
  /-- The configuration does not suffice. -/
  | config (message : String)
  | authentication (message : String)
  | missingEndpoint (service : String)
  /-- A request was answered with a status that is no success. -/
  | http (method url : String) (status : Nat) (message : String)
  | notFound (resource id : String)
  /-- An answer was not understood. -/
  | parse (resource message : String)
  /-- No answer came. -/
  | provider (message : String)
  deriving DecidableEq, Repr

def Error.message : Error → String
  | .config message => "configuration error: " ++ message
  | .authentication message => "authentication failed: " ++ message
  | .missingEndpoint service => "no " ++ service ++ " endpoint in the service catalog"
  | .http method url status message =>
      method ++ " " ++ url ++ " returned " ++ Decimal.digitText status ++ ": " ++ message
  | .notFound resource id => resource ++ " " ++ id ++ " not found"
  | .parse resource message => "failed to parse " ++ resource ++ " response: " ++ message
  | .provider message => "provider error: " ++ message

inductive MetadataChange where
  | merge
  | remove
  deriving DecidableEq, Repr

inductive Request where
  | getVolume (volumeId : String)
  /-- The volumes whose metadata hold a value at a key. -/
  | findVolumes (key value : String)
  | changeMetadata (volumeId : String) (entries : SortedMap String) (change : MetadataChange)
  /-- Attaches a volume; the answer tells whether that was accepted. -/
  | attach (instanceId volumeId : String)
  /-- Detaches a volume; the answer tells whether that was accepted. -/
  | detach (instanceId volumeId : String)
  | getAttachment (instanceId volumeId : String)
  | listInstances
  | listHypervisors
  | getRegistration (backendHost : String)
  deriving DecidableEq

@[reducible] def Request.Value : Request → Type
  | .getVolume _ => Volume
  | .findVolumes _ _ => List Volume
  | .changeMetadata _ _ _ => Unit
  | .attach _ _ => Bool
  | .detach _ _ => Bool
  | .getAttachment _ _ => Option Attachment
  | .listInstances => List Instance
  | .listHypervisors => List Hypervisor
  | .getRegistration _ => Option Registration

@[reducible] def Request.Answer (r : Request) : Type :=
  Except Error r.Value

def Request.movesVolume : Request → Bool
  | .attach _ _ | .detach _ _ => true
  | _ => false

end NodeVolumes.Cloud
