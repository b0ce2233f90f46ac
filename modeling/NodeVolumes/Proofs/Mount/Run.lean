import NodeVolumes.Mount.Operations
import NodeVolumes.Proofs.Flow.Run

/-!
# Runs of mount operations

A mount operation issues its commands behind the helper of its setup, one request each
(`run_run`).  The helper hides no command: commands of different programs stay different
(`issued_ne`).
-/

namespace NodeVolumes

theorem Command.behind_injective (helper : Option String) :
    Function.Injective (Command.behind helper) := by
  intro c c' h
  cases helper with
  | none => exact h
  | some helper =>
      cases c
      cases c'
      simp_all [behind]

namespace Mount

open Host

def issued (s : Setup) (program : String) (args : List String) : Command :=
  (Command.ofTexts program args).behind s.helper

theorem issued_ne {s : Setup} {program program' : String} (h : program ≠ program')
    (args args' : List String) : issued s program args ≠ issued s program' args' := by
  intro hissued
  have hcommand := Command.behind_injective s.helper hissued
  exact h (congrArg Command.program hcommand)

abbrev ran (c : Command) (reply : Except Command.SpawnFailure Command.Output) :
    Exchange interface :=
  ⟨.run c, reply⟩

/-- What a command printed, or how it failed, told by the answer to it. -/
def printed (c : Command) : Except Command.SpawnFailure Command.Output → Except Error String
  | .error failure => .error (.command (.spawn failure))
  | .ok output =>
      match c.check output with
      | .error e => .error (.command e)
      | .ok output => .ok output.stdout

theorem printed_of_isSuccess (c : Command) {output : Command.Output}
    (h : output.isSuccess = true) : printed c (.ok output) = .ok output.stdout := by
  simp [printed, Command.check, h]

theorem run_run (s : Setup) (program : String) (args : List String) :
    (run s program args).run =
      .ask (I := interface) (.run (issued s program args)) fun reply =>
        .done (printed (.ofTexts program args) reply) := by
  refine congrArg (Flow.ask (I := interface) (.run (issued s program args)))
    (funext fun reply => ?_)
  cases reply with
  | error failure => rfl
  | ok output =>
      simp only [printed]
      change (ExceptT.adapt Error.command (ExceptT.mk (Flow.done (Command.check _ output)))
        >>= fun output => pure output.stdout : Action Error String).run = _
      cases (Command.ofTexts program args).check output <;> rfl

theorem run_bind_run {α : Type} (s : Setup) (program : String) (args : List String)
    (f : String → Action Error α) :
    (run s program args >>= f).run =
      .ask (I := interface) (.run (issued s program args)) fun reply =>
        ExceptT.bindCont f (printed (.ofTexts program args) reply) := by
  have hrun : (run s program args >>= f).run =
      (run s program args).run >>= fun result => ExceptT.bindCont f result := rfl
  rw [hrun, run_run]
  rfl

theorem run_asksOnly {P : Host.Request → Prop} {s : Setup} {program : String}
    {args : List String} (h : P (.run (issued s program args))) :
    (run s program args).run.AsksOnly P := by
  rw [run_run]
  exact ⟨h, fun _ => trivial⟩

section Play

variable {σ α : Type} {answer : (r : Host.Request) → StateM σ r.Answer} {host : σ}
  {s : Setup} {program : String} {args : List String} {f : String → Action Error α}

/-- A first command that is not issued again has one answer. -/
theorem answer_of_ran {reply : Except Command.SpawnFailure Command.Output}
    (once : ∀ text, (f text).run.AsksOnly fun r =>
      r ≠ Request.run (issued s program args))
    (h : ran (issued s program args) reply ∈
      ((run s program args >>= f).run.play answer host).dialogue) :
    (answer (.run (issued s program args)) host).1 = reply := by
  rw [run_bind_run] at h
  refine Flow.answer_of_mem_dialogue (I := interface) answer (fun reply => ?_) h
  cases printed (.ofTexts program args) reply with
  | error e => trivial
  | ok text => exact once text

theorem play_run_bind {output : Command.Output}
    (hreply : (answer (.run (issued s program args)) host).1 = .ok output)
    (hsuccess : output.isSuccess = true) :
    (run s program args >>= f).run.play answer host =
      ((f output.stdout).run.play answer
        (answer (.run (issued s program args)) host).2).after
          [ran (issued s program args) (.ok output)] := by
  rw [run_bind_run, Flow.play_ask, hreply, printed_of_isSuccess _ hsuccess]
  rfl

theorem play_run_bind_of_printed {text : String}
    (h : printed (.ofTexts program args) (answer (.run (issued s program args)) host).1 =
      .ok text) :
    (run s program args >>= f).run.play answer host =
      ((f text).run.play answer (answer (.run (issued s program args)) host).2).after
        [ran (issued s program args) (answer (.run (issued s program args)) host).1] := by
  rw [run_bind_run, Flow.play_ask, h]
  rfl

/-- A command that fails ends what it is part of. -/
theorem play_run_bind_of_error {e : Error}
    (h : printed (.ofTexts program args) (answer (.run (issued s program args)) host).1 =
      .error e) :
    (run s program args >>= f).run.play answer host =
      ⟨.error e, (answer (.run (issued s program args)) host).2,
        [ran (issued s program args) (answer (.run (issued s program args)) host).1]⟩ := by
  rw [run_bind_run, Flow.play_ask, h]
  rfl

end Play

end Mount

end NodeVolumes
