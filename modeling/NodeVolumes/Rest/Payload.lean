import NodeVolumes.Cloud.Basic
import NodeVolumes.Json.Decoder

/-!
# Payloads

How the answers of the compute and block-storage services are read, and what they say.  Whatever
else an answer holds is passed over.
-/

namespace NodeVolumes.Rest

open Cloud

structure Link where
  rel : String := ""
  href : String := ""
  deriving DecidableEq, Repr

def Link.record : Json.Record Link where
  name := "Link"
  initial := {}
  fields :=
    [ .optional "rel" .text fun v l => { l with rel := v },
      .optional "href" .text fun v l => { l with href := v } ]

def nextLink (links : List Link) : Option String :=
  (links.find? fun l => l.rel == "next" && l.href != "").map Link.href

structure Page (α : Type) where
  items : List α := []
  links : List Link := []
  deriving DecidableEq

def Page.record {α : Type} (name key : String) (item : Json.Decoder α) : Json.Record (Page α) where
  name := name
  initial := {}
  fields :=
    [ .optional key (.list item) fun v p => { p with items := v },
      .optional (key ++ "_links") (.list Link.record.decoder) fun v p => { p with links := v } ]

def single {α : Type} (name key : String) (decoder : Json.Decoder α) : Json.Record (Option α) where
  name := name
  initial := none
  fields := [ .mandatory key decoder fun v _ => some v ]

/-! ## Instances and hypervisors -/

def portRecord : Json.Record String where
  name := "ServerAddress"
  initial := ""
  fields := [ .optional "addr" .text fun v _ => v ]

structure Server where
  id : String := ""
  hypervisorHost : Option String := none
  /-- The addresses of its ports, by network. -/
  networks : SortedMap (List String) := ∅

def Server.record : Json.Record Server where
  name := "Server"
  initial := {}
  fields :=
    [ .mandatory "id" .text fun v s => { s with id := v },
      .optional "OS-EXT-SRV-ATTR:hypervisor_hostname" (.optional .text)
        fun v s => { s with hypervisorHost := v },
      .optional "addresses" (.map (.list portRecord.decoder))
        fun v s => { s with networks := v } ]

def Server.toInstance (s : Server) : Instance where
  id := s.id
  hypervisorHost := s.hypervisorHost.getD ""
  addresses := (s.networks.entries.flatMap Prod.snd).filterMap Net.Ipv4.parse?

structure HypervisorEntry where
  hostname : String := ""
  kind : String := ""

def HypervisorEntry.record : Json.Record HypervisorEntry where
  name := "Hypervisor"
  initial := {}
  fields :=
    [ .optional "hypervisor_hostname" .text fun v h => { h with hostname := v },
      .optional "hypervisor_type" .text fun v h => { h with kind := v } ]

def HypervisorEntry.toHypervisor (h : HypervisorEntry) : Hypervisor :=
  ⟨h.hostname, .ofLabel h.kind⟩

def serverPage : Json.Record (Page Server) :=
  Page.record "ServerPage" "servers" Server.record.decoder

def hypervisorPage : Json.Record (Page HypervisorEntry) :=
  Page.record "HypervisorPage" "hypervisors" HypervisorEntry.record.decoder

/-! ## Volumes -/

structure VolumeEntry where
  id : String := ""
  status : String := ""
  metadata : SortedMap String := ∅
  backendHost : Option String := none
  hostAttribute : Option String := none
  deriving DecidableEq

def VolumeEntry.record : Json.Record VolumeEntry where
  name := "Volume"
  initial := {}
  fields :=
    [ .mandatory "id" .text fun v e => { e with id := v },
      .optional "status" .text fun v e => { e with status := v },
      .optional "metadata" (.map .text) fun v e => { e with metadata := v },
      .optional "backend_host" (.optional .text) fun v e => { e with backendHost := v },
      .optional "os-vol-host-attr:host" (.optional .text)
        fun v e => { e with hostAttribute := v } ]

/-- The storage host of a volume: the attribute stands in for one that is not told or blank. -/
def VolumeEntry.host (e : VolumeEntry) : String :=
  match e.backendHost with
  | some host => if Text.trim host = "" then e.hostAttribute.getD "" else host
  | none => e.hostAttribute.getD ""

def VolumeEntry.toVolume (e : VolumeEntry) : Volume :=
  .ofMetadata e.id e.host e.status e.metadata

def volumeBody : Json.Record (Option VolumeEntry) :=
  single "VolumeBody" "volume" VolumeEntry.record.decoder

def volumePage : Json.Record (Page VolumeEntry) :=
  Page.record "VolumePage" "volumes" VolumeEntry.record.decoder

/-! ## Attachments and registrations -/

def attachmentRecord : Json.Record Attachment where
  name := "Attachment"
  initial := { serverId := "", volumeId := "" }
  fields :=
    [ .optional "serverId" .text fun v a => { a with serverId := v },
      .optional "volumeId" .text fun v a => { a with volumeId := v },
      .optional "device" (.optional .text) fun v a => { a with device := v } ]

def attachmentBody : Json.Record (Option Attachment) :=
  single "AttachmentBody" "volumeAttachment" attachmentRecord.decoder

def registrationRecord : Json.Record String where
  name := "Registration"
  initial := ""
  fields := [ .optional "host_type" .text fun v _ => v ]

/-- How an entry of a storage host is read: the host type, if it is a registration. -/
def hostEntryRecord : Json.Record (Option String) where
  name := "HostEntry"
  initial := none
  fields := [ .optional "registration" (.optional registrationRecord.decoder) fun v _ => v ]

def hostBody : Json.Record (List (Option String)) where
  name := "HostBody"
  initial := []
  fields := [ .optional "host" (.list hostEntryRecord.decoder) fun v _ => v ]

/-- The registration of a storage host: the first that its entries hold. -/
def registrationOf (backendHost : String) (entries : List (Option String)) : Option Registration :=
  (entries.findSome? id).map fun kind => ⟨backendHost, .ofHostType kind⟩

end NodeVolumes.Rest
