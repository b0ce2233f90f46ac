import NodeVolumes.Host.Station
import NodeVolumes.Proofs.File.Edits
import NodeVolumes.Proofs.Flow.Run

/-!
# Runs on stations

A station is sound if its tree and the directories that it starts from are reached by file names.
Whatever it is asked, it stays sound, so all that a sound station ever lists are file names
(`Station.listsNames_of_mem_dialogue`).

What a command that has to succeed is part of goes on with its output, or ends with its failure.
-/

namespace NodeVolumes.Host

open File

def Request.writes : Request → Bool
  | .write _ _ _ | .append _ _ => true
  | _ => false

/-- If names are listed, they are file names. -/
def ListsNames : Exchange interface → Prop
  | ⟨.names _ _, .ok names⟩ => ∀ name ∈ names, Path.IsName name
  | _ => True

namespace Station

/-- File names lead to all that a station knows. -/
structure IsSound (s : Station) : Prop where
  tree : s.tree.IsNamed
  base : IsPlace s.base
  workingDirectory : IsPlace s.workingDirectory

def fresh (changes : List Change) (runner : Runner) : Station where
  tree := applyChanges [] .empty changes
  base := []
  workingDirectory := []
  runner

theorem isSound_fresh (changes : List Change) (runner : Runner) :
    (fresh changes runner).IsSound :=
  ⟨Tree.isNamed_empty.edits isPlace_nil (edits_applyChanges [] .empty changes), isPlace_nil,
    isPlace_nil⟩

variable {s : Station}

theorem isPlace_of_below (h : s.IsSound) {root : String} {origin : Origin}
    (hbelow : s.below root = .ok origin) : IsPlace origin.directory := by
  obtain ⟨place, hopen, horigin⟩ := exists_of_bind_eq_ok hbelow
  cases horigin
  exact isPlace_of_openDirectory h.workingDirectory hopen

theorem IsSound.run (h : s.IsSound) (c : Command) : (s.run c).2.IsSound := by
  unfold Station.run
  dsimp only
  split
  · exact ⟨h.tree, h.base, h.workingDirectory⟩
  · exact ⟨h.tree.edits h.base (edits_applyChanges _ _ _), h.base, h.workingDirectory⟩
  · exact ⟨h.tree, h.base, h.workingDirectory⟩

theorem IsSound.write (h : s.IsSound) {root path text : String} {tree : Tree}
    (hwrite : s.write root path text = .ok tree) : tree.IsNamed := by
  obtain ⟨origin, hbelow, htext⟩ := exists_of_bind_eq_ok hwrite
  exact h.tree.edits (isPlace_of_below h hbelow) (edits_writeText htext)

theorem IsSound.changed (h : s.IsSound) {result : Except IoError Tree}
    (hresult : ∀ tree, result = .ok tree → tree.IsNamed) : (s.changed result).2.IsSound := by
  cases result with
  | error e => exact h
  | ok tree => exact ⟨hresult tree rfl, h.base, h.workingDirectory⟩

theorem IsSound.answer (h : s.IsSound) (r : Request) : (Station.answer r s).2.IsSound := by
  cases r with
  | run c => exact h.run c
  | sleep ms => exact ⟨h.tree, h.base, h.workingDirectory⟩
  | countPass => exact ⟨h.tree, h.base, h.workingDirectory⟩
  | write root path text => exact h.changed fun tree => h.write
  | append path text =>
      exact h.changed fun tree happend => h.tree.edits h.workingDirectory (edits_appendText happend)
  | _ => exact h

/-- Whatever a station is asked, its tree changes by edits. -/
theorem edits_answer (r : Request) (s : Station) :
    ∃ origin, Edits origin s.tree (Station.answer r s).2.tree := by
  have hchanged : ∀ {result : Except IoError Tree} {origin : Origin},
      (∀ tree, result = .ok tree → Edits origin s.tree tree) →
        Edits origin s.tree (s.changed result).2.tree := by
    intro result origin hresult
    cases result with
    | error e => exact .refl
    | ok tree => exact hresult tree rfl
  cases r with
  | run c =>
      change ∃ origin, Edits origin s.tree (s.run c).2.tree
      refine ⟨⟨s.base, false⟩, ?_⟩
      unfold Station.run
      dsimp only
      split
      · exact .refl
      · exact edits_applyChanges _ _ _
      · exact .refl
  | write root path text =>
      cases hbelow : s.below root with
      | error e =>
          refine ⟨s.ambient, hchanged fun tree hwrite => ?_⟩
          rw [Station.write, hbelow] at hwrite
          cases hwrite
      | ok origin =>
          refine ⟨origin, hchanged fun tree hwrite => ?_⟩
          rw [Station.write, hbelow] at hwrite
          exact edits_writeText hwrite
  | append path text => exact ⟨s.ambient, hchanged fun tree => edits_appendText⟩
  | _ => exact ⟨s.ambient, .refl⟩

theorem IsSound.play (h : s.IsSound) {α : Type} (program : Program α) :
    (program.play Station.answer s).final.IsSound :=
  Flow.play_kept (I := interface) Station.answer (fun r _ hs => hs.answer r) program h

theorem wellFormed_answer (r : Request) (s : Station) (h : s.tree.WellFormed) :
    (Station.answer r s).2.tree.WellFormed := by
  obtain ⟨origin, hedits⟩ := edits_answer r s
  exact h.edits hedits

theorem wellFormed_play (h : s.tree.WellFormed) {α : Type} (program : Program α) :
    (program.play Station.answer s).final.tree.WellFormed := by
  have hstep : ∀ r (t : Station), t.tree.WellFormed → (Station.answer r t).2.tree.WellFormed :=
    wellFormed_answer
  exact Flow.play_kept (I := interface) Station.answer hstep program h

theorem wellFormed_fresh (changes : List Change) (runner : Runner) :
    (fresh changes runner).tree.WellFormed :=
  Tree.wellFormed_empty.edits (edits_applyChanges [] .empty changes)

theorem IsSound.listsNames (h : s.IsSound) (r : Request) :
    ListsNames ⟨r, (Station.answer r s).1⟩ := by
  cases r with
  | names root path =>
      change ListsNames ⟨.names root path, s.names root path⟩
      cases hnames : s.names root path with
      | error e => trivial
      | ok names =>
          obtain ⟨origin, -, hlisted⟩ := exists_of_bind_eq_ok hnames
          exact isName_of_listNames h.tree hlisted
  | _ => trivial

/-- A sound station stays sound, and all that it lists are file names. -/
theorem listsNames_of_mem_dialogue (h : s.IsSound) {α : Type} (program : Program α)
    {x : Exchange interface} (hx : x ∈ (program.play Station.answer s).dialogue) :
    ListsNames x :=
  (Flow.play_invariant (I := interface) Station.answer
    (fun r _ hs => ⟨hs.answer r, hs.listsNames r⟩) program h).2 x hx

end Station

/-! ## Commands that have to succeed -/

def checked (c : Command) :
    Except Command.SpawnFailure Command.Output → Except Command.Error Command.Output
  | .error failure => .error (.spawn failure)
  | .ok output => c.check output

section Checked

variable {α : Type} {helper : Option String} {c : Command}
  {f : Command.Output → Action Command.Error α} {s : Station}

theorem run_runChecked_bind :
    (runChecked helper c >>= f).run =
      .ask (I := interface) (.run (c.behind helper)) fun reply =>
        ExceptT.bindCont f (checked c reply) := by
  refine congrArg (Flow.ask (I := interface) (.run (c.behind helper))) (funext fun reply => ?_)
  cases reply <;> rfl

theorem runChecked_bind_asksOnly {P : Request → Prop} (hrun : P (.run (c.behind helper)))
    (rest : ∀ output, (f output).run.AsksOnly P) :
    (runChecked helper c >>= f).run.AsksOnly P := by
  rw [run_runChecked_bind]
  refine ⟨hrun, fun reply => ?_⟩
  dsimp only
  cases checked c reply with
  | error e => trivial
  | ok output => exact rest output

theorem play_runChecked_bind_of_ok {output : Command.Output}
    (h : checked c (s.run (c.behind helper)).1 = .ok output) :
    (runChecked helper c >>= f).run.play Station.answer s =
      ((f output).run.play Station.answer (s.run (c.behind helper)).2).after
        [⟨Request.run (c.behind helper), (s.run (c.behind helper)).1⟩] := by
  have hanswer : Station.answer (.run (c.behind helper)) s = s.run (c.behind helper) := rfl
  rw [run_runChecked_bind, Flow.play_ask, hanswer, h]
  rfl

theorem play_runChecked_bind_of_error {e : Command.Error}
    (h : checked c (s.run (c.behind helper)).1 = .error e) :
    (runChecked helper c >>= f).run.play Station.answer s =
      ⟨.error e, (s.run (c.behind helper)).2,
        [⟨Request.run (c.behind helper), (s.run (c.behind helper)).1⟩]⟩ := by
  have hanswer : Station.answer (.run (c.behind helper)) s = s.run (c.behind helper) := rfl
  rw [run_runChecked_bind, Flow.play_ask, hanswer, h]
  rfl

/-- A last command is issued, whatever becomes of it. -/
theorem asked_runChecked_bind_pure (a : α) :
    ((runChecked helper c >>= fun _ => pure a).run.play Station.answer s).asked =
      [.run (c.behind helper)] := by
  cases h : checked c (s.run (c.behind helper)).1 with
  | error e =>
      rw [play_runChecked_bind_of_error h]
      rfl
  | ok output =>
      rw [play_runChecked_bind_of_ok h]
      rfl

end Checked

end NodeVolumes.Host
