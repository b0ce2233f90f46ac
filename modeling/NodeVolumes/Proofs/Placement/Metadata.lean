import NodeVolumes.Proofs.Cloud.Metadata
import NodeVolumes.Proofs.Placement.Run

/-!
# Metadata over whole runs

Volumes keep their names twice, in their metadata and beside them.  Every answer that changes a
volume names it anew from its metadata, so the two agree in all states of all runs
(`tellsMetadata_of_mem_states`).
-/

namespace NodeVolumes.Placement.World

open Cloud

theorem consistent_answer (r : Request) (w : World) (h : ∀ v ∈ w.cloud.volumes, v.IsConsistent) :
    ∀ v ∈ (answer r w).2.cloud.volumes, v.IsConsistent := by
  cases r with
  | addresses hostname => exact h
  | cloud r => exact Memory.consistent_respond r h

theorem tellsMetadata_of_mem_states {α : Type} (program : Flow interface α) {w : World}
    (seeded : ∀ v ∈ w.cloud.volumes, ∃ id backendHost status metadata,
      v = .ofMetadata id backendHost status metadata) :
    ∀ s ∈ program.states answer w, ∀ v ∈ s.cloud.volumes, v.TellsMetadata := by
  have hfirst : ∀ v ∈ w.cloud.volumes, v.IsConsistent := by
    intro v hv
    obtain ⟨id, backendHost, status, metadata, rfl⟩ := seeded v hv
    exact Volume.isConsistent_ofMetadata id backendHost status metadata
  intro s hs v hv
  have hconsistent := Flow.kept_of_mem_states answer consistent_answer program hfirst s hs v hv
  exact hconsistent.tellsMetadata

/--
Whatever a program asks, in all states it passes through the names of all volumes are the trimmed
entries of their metadata, if they were to begin with.  A change of metadata merges its entries
over those of the volume, or removes the keys that it names, and keeps all else; it fails and
keeps everything if there is no such volume.  Made twice it is made once, and two changes can be
made in either order if they reach different volumes or name no key in common.
-/
theorem metadata_told_and_changed :
    (∀ {α : Type} (program : Flow interface α) (w : World),
      (∀ v ∈ w.cloud.volumes, ∃ id backendHost status metadata,
        v = .ofMetadata id backendHost status metadata) →
      ∀ s ∈ program.states answer w, ∀ v ∈ s.cloud.volumes, v.TellsMetadata) ∧
    ∀ (m : Memory) (id : String) (entries : SortedMap String) (change : MetadataChange),
      let ask := Memory.answer (.changeMetadata id entries change)
      ((∀ v ∈ m.volumes, v.id ≠ id) →
        (ask m).1 = .error (.notFound "volume" id) ∧ (ask m).2.unrecorded = m.unrecorded) ∧
      (∀ v, m.volume? id = some v →
        (ask m).1 = .ok () ∧ ∃ before rest v', m.volumes = before ++ v :: rest ∧
          v.IsChanged change entries v' ∧
          (ask m).2.unrecorded = { m.unrecorded with volumes := before ++ v' :: rest }) ∧
      ((ask (ask m).2).1 = (ask m).1 ∧ (ask (ask m).2).2.unrecorded = (ask m).2.unrecorded) ∧
      ∀ id' entries' change',
        (id ≠ id' ∨ ∀ key, entries.get? key = none ∨ entries'.get? key = none) →
        let ask' := Memory.answer (.changeMetadata id' entries' change')
        (ask (ask' m).2).1 = (ask m).1 ∧ (ask' (ask m).2).1 = (ask' m).1 ∧
          (ask (ask' m).2).2.unrecorded = (ask' (ask m).2).2.unrecorded := by
  refine ⟨fun program w seeded => tellsMetadata_of_mem_states program seeded, ?_⟩
  intro m id entries change ask
  refine ⟨?_, ?_, ?_, ?_⟩
  · intro unknown
    have hnone := Memory.volume?_eq_none_of_unknown unknown
    constructor
    · rw [Memory.reply_changeMetadata, hnone]
      rfl
    · rw [Memory.unrecorded_changeMetadata]
      exact Memory.updated_of_volume?_eq_none (m := m.unrecorded) hnone change entries
  · intro v hv
    obtain ⟨before, rest, v', hplace, hv', hafter⟩ :=
      Memory.exists_updated_of_volume? (m := m.unrecorded) hv change entries
    refine ⟨?_, before, rest, v', hplace, hv', ?_⟩
    · rw [Memory.reply_changeMetadata, hv]
      rfl
    · rw [Memory.unrecorded_changeMetadata, hafter]
  · constructor
    · rw [Memory.reply_changeMetadata, Memory.isSome_volume?_changeMetadata,
        ← Memory.reply_changeMetadata]
    · simp only [ask, Memory.unrecorded_changeMetadata, Memory.updated_updated]
  · intro id' entries' change' independent ask'
    refine ⟨?_, ?_, ?_⟩
    · rw [Memory.reply_changeMetadata, Memory.isSome_volume?_changeMetadata,
        ← Memory.reply_changeMetadata]
    · rw [Memory.reply_changeMetadata, Memory.isSome_volume?_changeMetadata,
        ← Memory.reply_changeMetadata]
    · simp only [ask, ask', Memory.unrecorded_changeMetadata]
      exact Memory.updated_comm independent change change' m.unrecorded

/-- An attachment that records a name, a removal of the other one, and a detachment. -/
def relabelling : Flow interface Unit := do
  let _ ← (attach ⟨"vol_1", some " data ", "1.2.3.4"⟩).run
  let _ ← Flow.request (I := interface)
    (.cloud (.changeMetadata "vol_1" (SortedMap.empty.insert wwnKey "") .remove))
  let _ ← (detach "data" "1.2.3.4").run

theorem metadata_of_relabelling :
    let w : World := ⟨.reference, {}⟩
    let name := SortedMap.empty.insert nameKey "data"
    let wwn := SortedMap.empty.insert wwnKey "wwn_2"
    let record := Memory.answer (.changeMetadata "vol_1" name .merge)
    let forget := Memory.answer (.changeMetadata "vol_1" wwn .remove)
    (∀ v ∈ w.cloud.volumes, v = .ofMetadata v.id v.backendHost v.status v.metadata) ∧
      (∀ s ∈ relabelling.states answer w, ∀ v ∈ s.cloud.volumes, v.TellsMetadata) ∧
      (∀ v ∈ w.cloud.volumes, v.id ≠ "vol_2") ∧
      (Memory.answer (.changeMetadata "vol_2" name .merge) w.cloud).1 =
        .error (.notFound "volume" "vol_2") ∧
      (w.cloud.volume? "vol_1").isSome ∧ (record w.cloud).1 = .ok () ∧
      (∀ key, name.get? key = none ∨ wwn.get? key = none) ∧
      (record (forget w.cloud).2).2.unrecorded = (forget (record w.cloud).2).2.unrecorded := by
  intro w name wwn record forget
  have seeded : ∀ v ∈ w.cloud.volumes, v = .ofMetadata v.id v.backendHost v.status v.metadata := by
    decide +kernel
  have unknown : ∀ v ∈ w.cloud.volumes, v.id ≠ "vol_2" := by
    decide +kernel
  have known : (w.cloud.volume? "vol_1").isSome := by
    decide +kernel
  have disjoint : ∀ key, name.get? key = none ∨ wwn.get? key = none := by
    intro key
    by_cases hkey : key = nameKey
    · exact .inr (by rw [hkey]; decide +kernel)
    · exact .inl ((SortedMap.get?_insert _ _ _ _).trans (if_neg hkey))
  obtain ⟨hstates, hchanges⟩ := metadata_told_and_changed
  refine ⟨seeded, ?_, unknown, ?_, known, ?_, disjoint, ?_⟩
  · exact hstates relabelling w fun v hv => ⟨_, _, _, _, seeded v hv⟩
  · exact ((hchanges w.cloud "vol_2" name .merge).1 unknown).1
  · exact ((hchanges w.cloud "vol_1" name .merge).2.1 _ (Option.some_get known).symm).1
  · exact ((hchanges w.cloud "vol_1" name .merge).2.2.2 "vol_1" wwn .remove (.inr disjoint)).2.2

end NodeVolumes.Placement.World
