import NodeVolumes.Kubelet.Session
import NodeVolumes.Proofs.Flow.Run

/-!
# Parts of operations

A placement that is part of an operation runs as it does alone in the cloud and the names of the
world, and work on the host as it does alone on the host.  Each leaves the other half of the world
as it was, and its dialogue is the same one, told as part of the operation.
-/

namespace NodeVolumes.Kubelet

def Request.connects : Request → Bool
  | .connect => true
  | .placement _ | .host _ => false

def Request.placement? : Request → Option Placement.Request
  | .placement r => some r
  | .connect | .host _ => none

def Request.host? : Request → Option Host.Request
  | .host r => some r
  | .connect | .placement _ => none

def ofPlacementExchange (x : Exchange Placement.interface) : Exchange interface :=
  ⟨.placement x.1, x.2⟩

def ofHostExchange (x : Exchange Host.interface) : Exchange interface :=
  ⟨.host x.1, x.2⟩

section Embedding

variable {dialogue : List (Exchange Placement.interface)} {r : Request}

theorem exists_of_mem_ofPlacement (h : r ∈ (dialogue.map ofPlacementExchange).map Sigma.fst) :
    ∃ q, r = .placement q := by
  rw [List.map_map] at h
  obtain ⟨x, -, hx⟩ := List.mem_map.mp h
  exact ⟨x.1, hx.symm⟩

theorem exists_of_mem_ofHost {dialogue : List (Exchange Host.interface)}
    (h : r ∈ (dialogue.map ofHostExchange).map Sigma.fst) : ∃ q, r = .host q := by
  rw [List.map_map] at h
  obtain ⟨x, -, hx⟩ := List.mem_map.mp h
  exact ⟨x.1, hx.symm⟩

/-- No part of an operation opens a session. -/
theorem countP_ofPlacement (dialogue : List (Exchange Placement.interface)) :
    ((dialogue.map ofPlacementExchange).map Sigma.fst).countP Request.connects = 0 := by
  refine List.countP_eq_zero.mpr fun r hr => ?_
  obtain ⟨q, rfl⟩ := exists_of_mem_ofPlacement hr
  simp [Request.connects]

theorem countP_ofHost (dialogue : List (Exchange Host.interface)) :
    ((dialogue.map ofHostExchange).map Sigma.fst).countP Request.connects = 0 := by
  refine List.countP_eq_zero.mpr fun r hr => ?_
  obtain ⟨q, rfl⟩ := exists_of_mem_ofHost hr
  simp [Request.connects]

end Embedding

namespace World

variable {α : Type}

theorem play_ofPlacement (flow : Flow Placement.interface α) (w : World) :
    (ofPlacement flow).play World.answer w =
      let part := flow.play Placement.World.answer w.placement
      ⟨part.value, { w with placement := part.final }, part.dialogue.map ofPlacementExchange⟩ := by
  induction flow generalizing w with
  | done value => rfl
  | ask r next ih =>
      have hask : ofPlacement (.ask r next) =
          .ask (I := interface) (.placement r) fun reply => ofPlacement (next reply) := rfl
      rw [hask, Flow.play_ask, ih]
      rfl

theorem play_ofHost (program : Host.Program α) (w : World) :
    (ofHost program).play World.answer w =
      let part := program.play Host.Station.answer w.station
      ⟨part.value, { w with station := part.final }, part.dialogue.map ofHostExchange⟩ := by
  induction program generalizing w with
  | done value => rfl
  | ask r next ih =>
      have hask : ofHost (.ask r next) =
          .ask (I := interface) (.host r) fun reply => ofHost (next reply) := rfl
      rw [hask, Flow.play_ask, ih]
      rfl

end World

end NodeVolumes.Kubelet
