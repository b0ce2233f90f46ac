import NodeVolumes.Proofs.Host.Station

/-!
# Looking at files and passing time

Requests that only look at files change nothing and are answered from the files alone, so a program
that only looks comes to the same on stations with the same files (`SameFiles.value_play`).

Time passes and passes over the disk buses are counted by requests of their own
(`Station.waited_play`, `Station.passes_play`).
-/

namespace NodeVolumes

def File.Entry.isLink : File.Entry → Bool
  | .link _ => true
  | _ => false

namespace Host

open File

namespace Request

/-- A request that is answered from the files and leaves them. -/
def looks : Request → Bool
  | .pathExists _ | .isDirectory _ | .isLink _ _ | .canonical _ | .names _ _ | .entryExists _ _
  | .isFile _ | .read _ | .readBelow _ _ => true
  | _ => false

/-- A request that lets time pass or counts a pass over the disk buses. -/
def paces : Request → Bool
  | .sleep _ | .countPass => true
  | _ => false

def slept : Request → Nat
  | .sleep ms => ms
  | _ => 0

def passed : Request → Nat
  | .countPass => 1
  | _ => 0

def command? : Request → Option Command
  | .run c => some c
  | _ => none

theorem paces_of_looks {r : Request} (h : r.looks = true) : r.paces = false := by
  cases r <;> first | rfl | cases h

theorem writes_of_looks {r : Request} (h : r.looks = true) : r.writes = false := by
  cases r <;> first | rfl | cases h

theorem command?_of_looks {r : Request} (h : r.looks = true) : r.command? = none := by
  cases r <;> first | rfl | cases h

end Request

/-! ## Looking -/

/-- A program that asks nothing but to look. -/
abbrev OnlyLooks {α : Type} (program : Program α) : Prop :=
  Flow.AsksOnly (I := interface) (fun r => r.looks = true) program

/-- Two stations have the same files and the same directory to start from. -/
structure SameFiles (s t : Station) : Prop where
  tree : s.tree = t.tree
  workingDirectory : s.workingDirectory = t.workingDirectory

namespace Station

theorem answer_of_looks {r : Request} (h : r.looks = true) (s : Station) :
    (Station.answer r s).2 = s := by
  cases r <;> first | rfl | cases h

theorem final_play_of_onlyLooks {α : Type} {program : Program α} (h : OnlyLooks program)
    (s : Station) : (program.play Station.answer s).final = s := by
  induction program with
  | done value => rfl
  | ask r next ih =>
      rw [Flow.play_ask, Run.final_after, answer_of_looks h.1]
      exact ih _ (h.2 _)

/-- Beside the time and the passes, a request changes the files and what the commands leave. -/
theorem exists_answer (r : Request) (s : Station) :
    ∃ tree runner history, (Station.answer r s).2 =
      { s with tree, runner, history, waited := s.waited + r.slept,
               passes := s.passes + r.passed } := by
  have hchanged : ∀ result : Except IoError Tree,
      ∃ tree, (s.changed result).2 = { s with tree } := by
    intro result
    cases result with
    | error e => exact ⟨s.tree, rfl⟩
    | ok tree => exact ⟨tree, rfl⟩
  cases r with
  | run c =>
      change ∃ tree runner history, (s.run c).2 = _
      unfold Station.run
      dsimp only
      split <;> exact ⟨_, _, _, rfl⟩
  | write root path text =>
      obtain ⟨tree, htree⟩ := hchanged (s.write root path text)
      exact ⟨tree, s.runner, s.history, htree⟩
  | append path text =>
      obtain ⟨tree, htree⟩ := hchanged (s.append path text)
      exact ⟨tree, s.runner, s.history, htree⟩
  | _ => exact ⟨s.tree, s.runner, s.history, rfl⟩

theorem workingDirectory_play {α : Type} (program : Program α) (s : Station) :
    (program.play Station.answer s).final.workingDirectory = s.workingDirectory := by
  have hstep : ∀ r (t : Station), t.workingDirectory = s.workingDirectory →
      (Station.answer r t).2.workingDirectory = s.workingDirectory := by
    intro r t ht
    obtain ⟨tree, runner, history, hanswer⟩ := exists_answer r t
    rw [hanswer]
    exact ht
  exact Flow.play_kept (I := interface) Station.answer hstep program rfl

end Station

namespace SameFiles

variable {s t : Station}

theorem answer (h : SameFiles s t) {r : Request} (hlooks : r.looks = true) :
    (Station.answer r s).1 = (Station.answer r t).1 := by
  obtain ⟨htree, hdirectory⟩ := h
  cases s
  cases t
  simp only at htree hdirectory
  subst htree hdirectory
  cases r <;> first | rfl | cases hlooks

/-- What only looks comes to the same wherever the files are the same. -/
theorem value_play (h : SameFiles s t) {α : Type} {program : Program α}
    (hlooks : OnlyLooks program) :
    (program.play Station.answer s).value = (program.play Station.answer t).value := by
  induction program with
  | done value => rfl
  | ask r next ih =>
      rw [Flow.play_ask, Flow.play_ask, Station.answer_of_looks hlooks.1,
        Station.answer_of_looks hlooks.1, h.answer hlooks.1]
      exact ih _ (hlooks.2 _)

end SameFiles

/-! ## Commands that leave the files alone -/

def Runner.KeepsFiles : Runner → Prop
  | .script queue => ∀ next ∈ queue, next.changes = []
  | .programs _ => True

namespace Station

variable {s : Station}

theorem keepsFiles_run (h : s.runner.KeepsFiles) (c : Command) :
    (s.run c).2.tree = s.tree ∧ (s.run c).2.runner.KeepsFiles := by
  unfold Station.run
  dsimp only
  split
  · rename_i hrunner
    exact ⟨rfl, h⟩
  · rename_i next queue hrunner
    rw [hrunner] at h
    have hnext := h next List.mem_cons_self
    refine ⟨?_, fun later hlater => h later (List.mem_cons_of_mem next hlater)⟩
    dsimp only
    rw [hnext]
    rfl
  · exact ⟨rfl, h⟩

theorem keepsFiles_answer (h : s.runner.KeepsFiles) (r : Request) :
    (Station.answer r s).2.runner.KeepsFiles := by
  have hchanged : ∀ result : Except IoError Tree, (s.changed result).2.runner = s.runner := by
    intro result
    cases result <;> rfl
  cases r with
  | run c => exact (keepsFiles_run h c).2
  | write root path text =>
      change (s.changed (s.write root path text)).2.runner.KeepsFiles
      rwa [hchanged]
  | append path text =>
      change (s.changed (s.append path text)).2.runner.KeepsFiles
      rwa [hchanged]
  | _ => exact h

/-- Where commands leave the files alone, only writing changes the tree. -/
theorem tree_answer (h : s.runner.KeepsFiles) {r : Request} (hr : r.writes = false) :
    (Station.answer r s).2.tree = s.tree := by
  cases r with
  | run c => exact (keepsFiles_run h c).1
  | write root path text => cases hr
  | append path text => cases hr
  | _ => rfl

theorem tree_play (h : s.runner.KeepsFiles) {α : Type} {program : Program α}
    (hquiet : Flow.AsksOnly (I := interface) (fun r => r.writes = false) program) :
    (program.play Station.answer s).final.tree = s.tree := by
  have hstep : ∀ r (t : Station), r.writes = false → t.tree = s.tree ∧ t.runner.KeepsFiles →
      (Station.answer r t).2.tree = s.tree ∧ (Station.answer r t).2.runner.KeepsFiles := by
    intro r t hr ht
    exact ⟨(tree_answer ht.2 hr).trans ht.1, keepsFiles_answer ht.2 r⟩
  exact (hquiet.play_kept (I := interface) Station.answer hstep ⟨rfl, h⟩).1

theorem keepsFiles_play (h : s.runner.KeepsFiles) {α : Type} (program : Program α) :
    (program.play Station.answer s).final.runner.KeepsFiles := by
  have hstep : ∀ r (t : Station), t.runner.KeepsFiles →
      (Station.answer r t).2.runner.KeepsFiles := fun r _ ht => keepsFiles_answer ht r
  exact Flow.play_kept (I := interface) Station.answer hstep program h

end Station

/-! ## A look that follows no link -/

namespace Station

/-- What stands under a name of a directory, the name itself not followed. -/
def entryAt? (s : Station) (directory name : String) : Option Entry :=
  match openDirectory s.tree s.ambient directory with
  | .ok place => s.tree.get? (place ++ [name])
  | .error _ => none

variable {s : Station} {directory name : String}

theorem isLink_of_openDirectory {place : Location} (hname : Path.IsName name)
    (h : openDirectory s.tree s.ambient directory = .ok place) :
    s.isLink directory name =
      match s.tree.get? (place ++ [name]) with
      | some entry => .ok entry.isLink
      | none => .error .notFound := by
  have hbelow : s.below directory = .ok ⟨place, true⟩ := by
    unfold below
    rw [h]
    rfl
  unfold isLink
  rw [hbelow]
  change (lookupEntry s.tree ⟨place, true⟩ false name >>= _) = _
  unfold lookupEntry
  rw [lookup_of_isName (get?_of_openDirectory h) hname]
  cases s.tree.get? (place ++ [name]) with
  | none => rfl
  | some entry => cases entry <;> rfl

theorem isLink_of_entryAt? {entry : Entry} (hname : Path.IsName name)
    (h : s.entryAt? directory name = some entry) :
    s.isLink directory name = .ok entry.isLink := by
  unfold entryAt? at h
  cases hopen : openDirectory s.tree s.ambient directory with
  | error e => simp [hopen] at h
  | ok place =>
      simp only [hopen] at h
      rw [isLink_of_openDirectory hname hopen, h]

theorem exists_isLink_eq_error (hname : Path.IsName name)
    (h : s.entryAt? directory name = none) : ∃ e, s.isLink directory name = .error e := by
  unfold entryAt? at h
  cases hopen : openDirectory s.tree s.ambient directory with
  | error e =>
      refine ⟨e, ?_⟩
      unfold isLink below
      rw [hopen]
      rfl
  | ok place =>
      simp only [hopen] at h
      exact ⟨.notFound, by rw [isLink_of_openDirectory hname hopen, h]⟩

end Station

/-! ## Time -/

namespace Station

/-- Time only passes by waiting. -/
theorem waited_play {α : Type} (program : Program α) (s : Station) :
    (program.play Station.answer s).final.waited = s.waited +
      Flow.total (I := interface) Request.slept
        ((program.play Station.answer s).asked.filter Request.paces) :=
  Flow.play_tally (I := interface) Station.answer
    (fun r t => by
      obtain ⟨tree, runner, history, hanswer⟩ := exists_answer r t
      rw [hanswer])
    (fun r hr => by cases r <;> first | rfl | cases hr) program s

/-- Passes over the disk buses are only counted as told. -/
theorem passes_play {α : Type} (program : Program α) (s : Station) :
    (program.play Station.answer s).final.passes = s.passes +
      Flow.total (I := interface) Request.passed
        ((program.play Station.answer s).asked.filter Request.paces) :=
  Flow.play_tally (I := interface) Station.answer
    (fun r t => by
      obtain ⟨tree, runner, history, hanswer⟩ := exists_answer r t
      rw [hanswer])
    (fun r hr => by cases r <;> first | rfl | cases hr) program s

end Station

end Host

end NodeVolumes
