import NodeVolumes.Call.Request
import NodeVolumes.Http.Network
import NodeVolumes.Net.Numeral

/-!
# Worlds of calls

A network, a name service and a host that answer what a call asks.
-/

namespace NodeVolumes.Call

/-- Where the addresses of host names come from. -/
inductive Resolver where
  | table (names : Net.HostTable)
  /-- Only names that spell an address out are known. -/
  | literals
  deriving DecidableEq

structure World where
  network : Http.Network := {}
  resolver : Resolver := .literals
  station : Host.Station

def Resolver.lookup (hostname : String) : StateM Resolver (Option (List Net.Address))
  | .table names =>
      let (reply, names) := Net.HostTable.lookup hostname names
      (reply, .table names)
  | .literals => ((Net.spelledOut hostname).toOption, .literals)

namespace World

def answer : (r : Request) → StateM World r.Answer
  | .exchange r => fun w =>
      let (reply, network) := w.network.exchange r
      (reply, { w with network })
  | .addresses hostname => fun w =>
      let (reply, resolver) := Resolver.lookup hostname w.resolver
      (reply, { w with resolver })
  | .host r => fun w =>
      let (reply, station) := Host.Station.answer r w.station
      (reply, { w with station })

def perform {α : Type} (program : Program α) : StateM World α :=
  program.foldM answer

end World

end NodeVolumes.Call
