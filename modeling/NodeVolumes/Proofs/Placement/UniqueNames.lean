import NodeVolumes.Proofs.Placement.Attachment

/-!
# Names over many calls

An attachment records a name without looking at other volumes, and a detachment leaves it where it
is.  So a series of calls that starts with unique names keeps them unique exactly if no attachment
records a name that another volume has at the time (`names_unique_throughout_iff`).
-/

namespace NodeVolumes

def Cloud.Request.renames : Cloud.Request → Bool
  | .changeMetadata _ _ _ => true
  | _ => false

/-- A request that records a name does so on a volume when no other volume has that name. -/
def Cloud.Memory.FreshFor (m : Memory) : Request → Prop
  | .changeMetadata id entries .merge =>
      ∀ name, entries.get? nameKey = some name → ∀ u ∈ m.others id, u.name? ≠ some name
  | _ => True

namespace Placement

open Text

/-- A call: an attachment, or a detachment of a name from a node. -/
inductive Move where
  | attach (d : Demand)
  | detach (volumeName node : String)

/-- A call, and how the cloud takes requests to attach and detach while it lasts. -/
structure Turn where
  move : Move
  attachVerdict : Cloud.Verdict := .accept
  detachVerdict : Cloud.Verdict := .accept

namespace World

/-! ## Series of calls -/

/-- The world in which a turn is taken. -/
def entered (t : Turn) (w : World) : World :=
  { w with
    cloud :=
      { w.cloud with attachVerdict := t.attachVerdict, detachVerdict := t.detachVerdict } }

def statesOf : Move → World → List World
  | .attach d, w => (attach d).run.states answer w
  | .detach volumeName node, w => (detach volumeName node).run.states answer w

def callsOf : Move → World → List Cloud.Request
  | .attach d, w => calls (attach d) w
  | .detach volumeName node, w => calls (detach volumeName node) w

def afterMove : Move → World → World
  | .attach d, w => (attempt (attach d) w).2
  | .detach volumeName node, w => (attempt (detach volumeName node) w).2

/-- All states that a series of calls passes through. -/
def visited : List Turn → World → List World
  | [], w => [w]
  | t :: rest, w =>
      w :: statesOf t.move (entered t w) ++ visited rest (afterMove t.move (entered t w))

/-- No call of a series records a name that another volume has at the time. -/
def RecordsFresh : List Turn → World → Prop
  | [], _ => True
  | t :: rest, w =>
      (∀ r ∈ callsOf t.move (entered t w), (entered t w).cloud.FreshFor r) ∧
        RecordsFresh rest (afterMove t.move (entered t w))

/-! ## One call -/

variable {w : World}

theorem changes_of_renames (r : Cloud.Request) (h : r.renames = true) : r.changes = true := by
  cases r <;> simp_all [Cloud.Request.renames, Cloud.Request.changes]

/-- Only a change of metadata changes volumes. -/
theorem volumes_answer (r : Request) (w : World)
    (h : r.asksCloud Cloud.Request.renames = false) :
    (answer r w).2.cloud.volumes = w.cloud.volumes := by
  cases r with
  | addresses hostname => rfl
  | cloud r =>
      rw [answer_eq_note_reply]
      cases r with
      | changeMetadata id entries change => simp [Request.asksCloud, Cloud.Request.renames] at h
      | getVolume id =>
          simp only [note, reply, Cloud.Memory.respond]
          split <;> rfl
      | attach instanceId volumeId =>
          simp only [note, reply, Cloud.Memory.respond]
          split <;> rfl
      | detach instanceId volumeId =>
          simp only [note, reply, Cloud.Memory.respond]
          split <;> rfl
      | findVolumes key value => rfl
      | getAttachment instanceId volumeId => rfl
      | listInstances => rfl
      | listHypervisors => rfl
      | getRegistration host => rfl

section Action

variable {ε α : Type} {action : Action ε α}

theorem final_mem_states (action : Action ε α) (w : World) :
    (attempt action w).2 ∈ action.run.states answer w := by
  rw [attempt, Flow.foldM_eq_play]
  exact Flow.mem_states_final answer action.run w

/-- With one change of metadata at most, names are unique throughout if they end up unique. -/
theorem states_namesUnique_iff (unique : w.cloud.NamesUnique)
    (single : (calls action w).countP Cloud.Request.renames ≤ 1) :
    (∀ s ∈ action.run.states answer w, s.cloud.NamesUnique) ↔
      (attempt action w).2.cloud.NamesUnique := by
  constructor
  · intro throughout
    exact throughout _ (final_mem_states action w)
  · intro hfinal s hs
    rw [countP_calls] at single
    have hview := Flow.view_of_mem_states_of_single (fun s => s.cloud.volumes)
      volumes_answer action.run w single s hs
    rw [attempt, Flow.foldM_eq_play] at hfinal
    rcases hview with hfirst | hlast
    · exact (Cloud.Memory.namesUnique_congr hfirst).mpr unique
    · exact (Cloud.Memory.namesUnique_congr hlast).mpr hfinal

theorem freshFor_calls_iff {m : Cloud.Memory} :
    (∀ r ∈ calls action w, m.FreshFor r) ↔ ∀ r ∈ changes action w, m.FreshFor r := by
  constructor
  · intro h r hr
    exact h r (List.mem_filter.mp hr).1
  · intro h r hr
    cases hchanges : r.changes with
    | true => exact h r (List.mem_filter.mpr ⟨hr, hchanges⟩)
    | false =>
        cases r with
        | changeMetadata id entries change => simp [Cloud.Request.changes] at hchanges
        | _ => trivial

end Action

theorem countP_renames_attach (w : World) (d : Demand) :
    (calls (attach d) w).countP Cloud.Request.renames ≤ 1 := by
  rw [countP_calls_of_changes changes_of_renames, changes_attach]
  cases w.attachment d with
  | error e => exact Nat.zero_le 1
  | ok target =>
      cases nonBlank? d.displayName with
      | none => exact Nat.zero_le 1
      | some name => exact Nat.le_refl 1

/-- An attachment keeps names unique exactly if no other volume has the name it records. -/
theorem attach_namesUnique_iff (unique : w.cloud.NamesUnique) (d : Demand) :
    (∀ s ∈ (attach d).run.states answer w, s.cloud.NamesUnique) ↔
      ∀ r ∈ calls (attach d) w, w.cloud.FreshFor r := by
  have hvolumes : (attempt (attach d) w).2.cloud.volumes = (w.remains d).cloud.volumes := by
    obtain ⟨history, hafter⟩ := exists_cloud_after_attach w d
    rw [hafter]
  rw [volumes_remains] at hvolumes
  rw [states_namesUnique_iff unique (countP_renames_attach w d), freshFor_calls_iff, changes_attach]
  cases htarget : w.attachment d with
  | error e =>
      rw [htarget] at hvolumes
      simp [(Cloud.Memory.namesUnique_congr hvolumes).mpr unique]
  | ok target =>
      obtain ⟨i, v⟩ := target
      rw [htarget] at hvolumes
      rw [Cloud.Memory.namesUnique_congr hvolumes]
      cases nonBlank? d.displayName with
      | none => simpa [recording, withName, Cloud.Memory.FreshFor] using unique
      | some name =>
          have hentries : ∀ other,
              (SortedMap.empty.insert Cloud.nameKey name).get? Cloud.nameKey = some other ↔
                other = name := by
            intro other
            rw [SortedMap.get?_insert, if_pos rfl, Option.some.injEq, eq_comm]
          have hiff : (w.cloud.withName v.id name).NamesUnique ↔
              ∀ u ∈ w.cloud.others v.id, u.name? ≠ some name :=
            Cloud.Memory.namesUnique_withName_iff (volume?_of_attachment htarget) unique
          simpa [recording, withName, Request.cloud?, Cloud.Memory.FreshFor, hentries] using hiff

theorem detach_namesUnique (unique : w.cloud.NamesUnique) (volumeName node : String) :
    (∀ s ∈ (detach volumeName node).run.states answer w, s.cloud.NamesUnique) ∧
      ∀ r ∈ calls (detach volumeName node) w, w.cloud.FreshFor r := by
  have hsingle : (calls (detach volumeName node) w).countP Cloud.Request.renames ≤ 1 := by
    rw [countP_calls_of_changes changes_of_renames, changes_detach]
    cases w.detachment volumeName node <;> simp [Cloud.Request.renames]
  have hvolumes : (attempt (detach volumeName node) w).2.cloud.volumes = w.cloud.volumes := by
    rcases detach_effect w volumeName node with ⟨e, -, h, -⟩ | ⟨v, i, -, -, h, -⟩ <;> exact h
  rw [states_namesUnique_iff unique hsingle, freshFor_calls_iff, changes_detach]
  refine ⟨(Cloud.Memory.namesUnique_congr hvolumes).mpr unique, ?_⟩
  cases w.detachment volumeName node <;> simp [Cloud.Memory.FreshFor]

/-- A call keeps names unique exactly if it records no name that another volume has. -/
theorem move_namesUnique_iff (unique : w.cloud.NamesUnique) (move : Move) :
    (∀ s ∈ statesOf move w, s.cloud.NamesUnique) ↔
      ∀ r ∈ callsOf move w, w.cloud.FreshFor r := by
  cases move with
  | attach d => exact attach_namesUnique_iff unique d
  | detach volumeName node =>
      have h := detach_namesUnique unique volumeName node
      exact ⟨fun _ => h.2, fun _ => h.1⟩

theorem afterMove_mem_statesOf (move : Move) (w : World) :
    afterMove move w ∈ statesOf move w := by
  cases move with
  | attach d => exact final_mem_states (attach d) w
  | detach volumeName node => exact final_mem_states (detach volumeName node) w

/-! ## Many calls -/

theorem locate_ne_ambiguousVolume (w : World) (node name : String) (count : Nat) :
    w.locate node ≠ .error (.ambiguousVolume name count) := by
  intro h
  unfold locate at h
  split at h
  · cases h
  · split at h
    · cases h
    · unfold owner at h
      split at h <;> cases h

theorem volumeNamed_ne_ambiguousVolume (unique : w.cloud.NamesUnique) (text name : String)
    (count : Nat) : w.volumeNamed text ≠ .error (.ambiguousVolume name count) := by
  intro h
  have hlength := Cloud.Memory.namesUnique_iff.mp unique text
  unfold volumeNamed at h
  match hcarriers : w.cloud.carriers text with
  | [] => simp [hcarriers, onlyVolume] at h
  | [v] => simp [hcarriers, onlyVolume] at h
  | _ :: _ :: _ => simp [hcarriers] at hlength

theorem detachment_ne_ambiguousVolume (unique : w.cloud.NamesUnique)
    (volumeName node name : String) (count : Nat) :
    w.detachment volumeName node ≠ .error (.correlation (.ambiguousVolume name count)) := by
  intro h
  unfold detachment required at h
  cases hname : nonBlank volumeName with
  | none => simp [hname] at h
  | some text =>
      cases hvolume : w.volumeNamed text with
      | error e =>
          simp only [hname, hvolume, Except.error.injEq, Error.correlation.injEq] at h
          subst h
          exact volumeNamed_ne_ambiguousVolume unique text name count hvolume
      | ok v =>
          cases hlocate : w.locate node with
          | ok i => simp [hname, hvolume, hlocate] at h
          | error e =>
              simp only [hname, hvolume, hlocate, Except.error.injEq,
                Error.correlation.injEq] at h
              subst h
              exact locate_ne_ambiguousVolume w node name count hlocate

/-- With unique names no detachment is refused for the choice between two volumes. -/
theorem detach_ne_ambiguousVolume (unique : w.cloud.NamesUnique)
    (volumeName node name : String) (count : Nat) :
    (attempt (detach volumeName node) w).1 ≠
      .error (.correlation (.ambiguousVolume name count)) := by
  intro hresult
  cases htarget : w.detachment volumeName node with
  | ok target =>
      rw [(settles_detach_of_target htarget).attempt] at hresult
      cases hverdict : rejection w.cloud.detachVerdict <;> simp [hverdict] at hresult
  | error e =>
      rw [(settles_detach_of_error htarget).attempt] at hresult
      cases hresult
      exact detachment_ne_ambiguousVolume unique volumeName node name count htarget

theorem visited_namesUnique_iff (turns : List Turn) (unique : w.cloud.NamesUnique) :
    (∀ s ∈ visited turns w, s.cloud.NamesUnique) ↔ RecordsFresh turns w := by
  induction turns generalizing w with
  | nil => simp [visited, RecordsFresh, unique]
  | cons t rest ih =>
      have hcall := move_namesUnique_iff (w := entered t w) unique t.move
      have hlast := afterMove_mem_statesOf t.move (entered t w)
      simp only [visited, RecordsFresh, List.forall_mem_append, List.forall_mem_cons,
        List.cons_append]
      constructor
      · rintro ⟨-, hstates, hrest⟩
        exact ⟨hcall.mp hstates, (ih (hstates _ hlast)).mp hrest⟩
      · rintro ⟨hfresh, hrest⟩
        have hstates := hcall.mpr hfresh
        exact ⟨unique, hstates, (ih (hstates _ hlast)).mpr hrest⟩

/--
A series of calls that starts with unique names keeps them unique exactly if none of its calls
records a name that another volume has at the time, and then no name is ever ambiguous.
-/
theorem names_unique_throughout_iff {w : World} (unique : w.cloud.NamesUnique)
    (turns : List Turn) :
    ((∀ s ∈ visited turns w, s.cloud.NamesUnique) ↔ RecordsFresh turns w) ∧
      (RecordsFresh turns w → ∀ s ∈ visited turns w, ∀ volumeName node name count,
        (attempt (detach volumeName node) s).1 ≠
          .error (.correlation (.ambiguousVolume name count))) := by
  have hiff := visited_namesUnique_iff turns unique
  refine ⟨hiff, fun hfresh s hs volumeName node name count => ?_⟩
  exact detach_ne_ambiguousVolume (hiff.mpr hfresh s hs) volumeName node name count

/-- Two volumes without names and an instance at `1.2.3.4`. -/
def twoVolumes : World :=
  ⟨Cloud.Memory.reference.addVolume (.ofMetadata "vol_2" "svc" "available"
    (SortedMap.empty.insert Cloud.wwnKey "wwn_2")), {}⟩

def again : List Turn :=
  [⟨.attach ⟨"vol_1", some "data", "1.2.3.4"⟩, .accept, .accept⟩,
    ⟨.detach "data" "1.2.3.4", .accept, .accept⟩,
    ⟨.attach ⟨"vol_1", some "data", "1.2.3.4"⟩, .accept, .accept⟩]

def reuse : List Turn :=
  [⟨.attach ⟨"vol_1", some "data", "1.2.3.4"⟩, .accept, .accept⟩,
    ⟨.detach "data" "1.2.3.4", .accept, .accept⟩,
    ⟨.attach ⟨"vol_2", some "data", "1.2.3.4"⟩, .accept, .accept⟩]

/-- The name of a volume may be recorded on it again. -/
theorem recordsFresh_again :
    twoVolumes.cloud.NamesUnique ∧ RecordsFresh again twoVolumes := by
  have hunique : twoVolumes.cloud.NamesUnique := by decide +kernel
  exact ⟨hunique, (names_unique_throughout_iff hunique again).1.mp (by decide +kernel)⟩

/-- A name that was left behind may come to be that of two volumes. -/
theorem reuse_leaves_two :
    twoVolumes.cloud.NamesUnique ∧
      ∃ s ∈ visited reuse twoVolumes, ¬s.cloud.NamesUnique ∧
        (attempt (detach "data" "1.2.3.4") s).1.toOption = none := by
  decide +kernel

end World

end Placement

end NodeVolumes
