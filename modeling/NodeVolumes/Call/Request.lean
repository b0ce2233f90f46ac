import NodeVolumes.Kubelet.Session
import NodeVolumes.Rest.Client

/-!
# Requests of a call

One call of the program talks to a cloud over HTTP, looks host names up and works on its host.
Sessions and placements, as operations ask for them, are served with these requests.  A listing of
the cloud may go on without end; what needs one is served with fuel for a number of its pages, and
has no value while the listing is still going on.
-/

namespace NodeVolumes.Call

inductive Request where
  | exchange (request : Http.Request)
  | addresses (hostname : String)
  | host (request : Host.Request)

@[reducible] def Request.Answer : Request → Type
  | .exchange _ => Except Http.TransportError Http.Response
  | .addresses _ => Option (List Net.Address)
  | .host r => r.Answer

@[reducible] def interface : Interface :=
  ⟨Request, Request.Answer⟩

abbrev Program (α : Type) : Type :=
  Flow interface α

abbrev Action (ε α : Type) : Type :=
  ExceptT ε Program α

def ask (r : Request) : Program r.Answer :=
  Flow.request (I := interface) r

def ofHost {α : Type} (program : Host.Program α) : Program α :=
  program.foldM (m := Program) fun r => ask (.host r)

def clientRequest : (r : Rest.Request) → Program r.Answer
  | .exchange r => ask (.exchange r)
  | .host r => ask (.host r)

def ofClient {α : Type} (program : Rest.Program α) : Program α :=
  program.foldM (m := Program) clientRequest

def placementRequest (fuel : Nat) (client : Rest.Client) :
    (r : Placement.Request) → OptionT Program r.Answer
  | .cloud r => OptionT.mk (ofClient (client.serve fuel r).run)
  | .addresses hostname => OptionT.lift (ask (.addresses hostname))

def ofPlacement {α : Type} (fuel : Nat) (client : Rest.Client)
    (flow : Flow Placement.interface α) : OptionT Program α :=
  flow.foldM (m := OptionT Program) (placementRequest fuel client)

def noSession : Cloud.Error :=
  .provider "no session is open"

/-- Serves a placement's request in the session that is open, if one is. -/
def sessionRequest (fuel : Nat) (open? : Option Rest.Client) :
    (r : Placement.Request) → OptionT Program r.Answer
  | .cloud r =>
      match open? with
      | some client => placementRequest fuel client (.cloud r)
      | none => return .error noSession
  | .addresses hostname => OptionT.lift (ask (.addresses hostname))

/--
Serves a request of an operation.

`connect` opens sessions; the state is the session that is open.
-/
def operationRequest (fuel : Nat) (connect : Action Cloud.Error Rest.Client) :
    (r : Kubelet.Request) → StateT (Option Rest.Client) (OptionT Program) r.Answer
  | .connect => fun open? => do
      match ← OptionT.lift connect.run with
      | .ok client => return (.ok (), some client)
      | .error e => return (.error e, open?)
  | .placement r => fun open? => do return (← sessionRequest fuel open? r, open?)
  | .host r => fun open? => do return (← OptionT.lift (ask (.host r)), open?)

/-- An operation as a call, with `connect` for its sessions. -/
def ofOperation {α : Type} (fuel : Nat) (connect : Action Cloud.Error Rest.Client)
    (program : Kubelet.Program α) : OptionT Program α := do
  let (result, _) ← (program.foldM (operationRequest fuel connect)).run none
  return result

end NodeVolumes.Call
