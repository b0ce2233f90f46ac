import NodeVolumes.Host.Station
import NodeVolumes.Placement.Request

/-!
# Sessions

What an operation asks of its surroundings: to open a cloud session, what a placement asks of
cloud and names, and what the host is asked.
-/

namespace NodeVolumes.Kubelet

inductive Request where
  /-- Opens the cloud session that later requests to the cloud go to. -/
  | connect
  | placement (request : Placement.Request)
  | host (request : Host.Request)

@[reducible] def Request.Answer : Request → Type
  | .connect => Except Cloud.Error Unit
  | .placement r => r.Answer
  | .host r => r.Answer

@[reducible] def interface : Interface :=
  ⟨Request, Request.Answer⟩

abbrev Program (α : Type) : Type :=
  Flow interface α

abbrev Action (ε α : Type) : Type :=
  ExceptT ε Program α

def ask (r : Request) : Program r.Answer :=
  Flow.request (I := interface) r

def ofPlacement {α : Type} (flow : Flow Placement.interface α) : Program α :=
  flow.foldM (m := Program) fun r => ask (.placement r)

def ofHost {α : Type} (program : Host.Program α) : Program α :=
  program.foldM (m := Program) fun r => ask (.host r)

/-- Surroundings as values: a cloud with names, a host, and what becomes of connecting. -/
structure World where
  placement : Placement.World
  station : Host.Station
  /-- The failure of every connection, if connections fail. -/
  connectError : Option Cloud.Error := none
  /-- How many sessions have been asked for. -/
  connects : Nat := 0

namespace World

def answer : (r : Request) → StateM World r.Answer
  | .connect => fun w =>
      let w := { w with connects := w.connects + 1 }
      match w.connectError with
      | some e => (.error e, w)
      | none => (.ok (), w)
  | .placement r => fun w =>
      let (reply, placement) := Placement.World.answer r w.placement
      (reply, { w with placement })
  | .host r => fun w =>
      let (reply, station) := Host.Station.answer r w.station
      (reply, { w with station })

def perform {α : Type} (program : Program α) : StateM World α :=
  program.foldM answer

end World

end NodeVolumes.Kubelet
