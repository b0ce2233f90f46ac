import NodeVolumes.Cloud.Memory
import NodeVolumes.Net.HostTable

/-!
# Requests of placements

Placing a volume on a node takes two kinds of requests: to the cloud, and for the addresses of a
host name.
-/

namespace NodeVolumes.Placement

inductive Request where
  | cloud (request : Cloud.Request)
  | addresses (hostname : String)
  deriving DecidableEq

/-- What is answered; a name that is not known has no addresses. -/
@[reducible] def Request.Answer : Request → Type
  | .cloud r => r.Answer
  | .addresses _ => Option (List Net.Address)

@[reducible] def interface : Interface :=
  ⟨Request, Request.Answer⟩

abbrev Action (ε α : Type) : Type :=
  ExceptT ε (Flow interface) α

/-- Asks the cloud, whose failures become failures of the action. -/
def askCloud {ε : Type} (fault : Cloud.Error → ε) (r : Cloud.Request) : Action ε r.Value :=
  ExceptT.mk do
    let answer ← Flow.request (I := interface) (.cloud r)
    return answer.mapError fault

def askAddresses {ε : Type} (hostname : String) : Action ε (Option (List Net.Address)) :=
  ExceptT.lift (Flow.request (I := interface) (.addresses hostname))

structure World where
  cloud : Cloud.Memory
  names : Net.HostTable
  deriving DecidableEq

namespace World

def answer : (r : Request) → StateM World r.Answer
  | .cloud r => fun w =>
      let (reply, cloud) := Cloud.Memory.answer r w.cloud
      (reply, { w with cloud })
  | .addresses hostname => fun w =>
      let (reply, names) := Net.HostTable.lookup hostname w.names
      (reply, { w with names })

def attempt {ε α : Type} (action : Action ε α) : StateM World (Except ε α) :=
  action.run.foldM answer

end World

end NodeVolumes.Placement
