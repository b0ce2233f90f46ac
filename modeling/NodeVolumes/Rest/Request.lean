import NodeVolumes.Host.Request
import NodeVolumes.Http.Message

/-!
# Requests of the cloud client

What talking to a cloud over HTTP takes: exchanges of messages, and waiting and reading files on
the host.
-/

namespace NodeVolumes.Rest

inductive Request where
  | exchange (request : Http.Request)
  | host (request : Host.Request)

@[reducible] def Request.Answer : Request → Type
  | .exchange _ => Except Http.TransportError Http.Response
  | .host r => r.Answer

@[reducible] def interface : Interface :=
  ⟨Request, Request.Answer⟩

abbrev Program (α : Type) : Type :=
  Flow interface α

abbrev Action (ε α : Type) : Type :=
  ExceptT ε Program α

def ask (r : Request) : Program r.Answer :=
  Flow.request (I := interface) r

def onHost {ε α : Type} (action : Host.Action ε α) : Action ε α :=
  ExceptT.mk (action.run.foldM (m := Program) fun r => ask (.host r))

end NodeVolumes.Rest
