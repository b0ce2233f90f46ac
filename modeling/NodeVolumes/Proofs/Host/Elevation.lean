import NodeVolumes.Proofs.Host.Looking

/-!
# Programs behind a helper

Behind a helper, a program runs each of its commands as arguments of the helper and asks everything
else as it is (`elevate`).  Where a script has an outcome for each command, this changes nothing
but the commands: the program comes to the same value and leaves the same station
(`play_elevate`).
-/

namespace NodeVolumes.Host

open File

variable {ε ε' α β : Type} (helper : String)

/-! ## Programs -/

def behindHelper : (r : Request) → Program r.Answer
  | .run c => ask (.run (c.behind (some helper)))
  | r => ask r

/-- A program with all its commands behind the helper. -/
def elevate (program : Program α) : Program α :=
  Flow.foldM (I := interface) (behindHelper helper) program

theorem elevate_bind (program : Program α) (f : α → Program β) :
    elevate helper (program >>= f) = elevate helper program >>= fun a => elevate helper (f a) :=
  Flow.foldM_bind (I := interface) (behindHelper helper) program f

theorem elevate_ask_run (c : Command) (next : (Request.run c).Answer → Program α) :
    elevate helper (.ask (Request.run c) next) =
      .ask (Request.run (c.behind (some helper))) fun reply => elevate helper (next reply) :=
  rfl

theorem elevate_ask {r : Request} (h : r.command? = none) (next : r.Answer → Program α) :
    elevate helper (.ask r next) = .ask r fun reply => elevate helper (next reply) := by
  cases r <;> first | rfl | cases h

/-- A program that runs no command stays as it is. -/
theorem elevate_eq_self {program : Program α}
    (h : Flow.AsksOnly (I := interface) (fun r => r.command? = none) program) :
    elevate helper program = program := by
  induction program with
  | done value => rfl
  | ask r next ih =>
      rw [elevate_ask helper h.1]
      exact congrArg (Flow.ask r) (funext fun reply => ih reply (h.2 reply))

/-! ## Actions -/

/-- An action with all its commands behind the helper. -/
def elevated (action : Action ε α) : Action ε α :=
  ExceptT.mk (elevate helper action.run)

theorem elevated_bind (action : Action ε α) (f : α → Action ε β) :
    elevated helper (action >>= f) = elevated helper action >>= fun a => elevated helper (f a) := by
  change elevate helper (action.run >>= ExceptT.bindCont f) = _
  rw [elevate_bind]
  refine congrArg (elevate helper action.run >>= ·) (funext fun result => ?_)
  cases result <;> rfl

/-- A sequence is behind the helper part by part. -/
theorem elevated_bind_eq {action action' : Action ε α} {f g : α → Action ε β}
    (first : elevated helper action = action') (rest : ∀ a, elevated helper (f a) = g a) :
    elevated helper (action >>= f) = action' >>= g := by
  rw [elevated_bind, first]
  exact congrArg (action' >>= ·) (funext rest)

theorem elevated_lift_eq {program program' : Program α} (h : elevate helper program = program') :
    elevated helper (ExceptT.lift program : Action ε α) = ExceptT.lift program' := by
  change elevate helper (program >>= fun a => .done (Except.ok a)) = _
  rw [elevate_bind, h]
  rfl

theorem elevated_adapt (f : ε → ε') (action : Action ε α) :
    elevated helper (ExceptT.adapt f action) = ExceptT.adapt f (elevated helper action) := by
  change elevate helper (action.run >>= fun result => .done (result.mapError f)) = _
  rw [elevate_bind]
  rfl

theorem elevated_runChecked (c : Command) :
    elevated helper (runChecked none c) = runChecked (some helper) c := by
  refine congrArg (Flow.ask (I := interface) (Request.run (c.behind (some helper))))
    (funext fun reply => ?_)
  cases reply <;> rfl

/-! ## Runs -/

def commandsOf (r : Run interface Station α) : List Command :=
  r.asked.filterMap Request.command?

theorem commandsOf_after (r : Run interface Station α) (x : Exchange interface) :
    commandsOf (r.after [x]) = x.1.command?.toList ++ commandsOf r := by
  unfold commandsOf
  rw [Run.asked_after, List.filterMap_append]
  cases h : x.1.command? <;> simp [h]

namespace Station

variable {s : Station} {r : Request}

def recalling (s : Station) (history : List Command) : Station :=
  { s with history }

theorem runner_answer (h : r.command? = none) (s : Station) :
    (Station.answer r s).2.runner = s.runner := by
  have hchanged (result : Except IoError Tree) : (s.changed result).2.runner = s.runner := by
    cases result <;> rfl
  cases r with
  | run c => cases h
  | write root path text => exact hchanged _
  | append path text => exact hchanged _
  | _ => rfl

theorem answer_recalling (h : r.command? = none) (s : Station) (history : List Command) :
    Station.answer r (s.recalling history) =
      ((Station.answer r s).1, (Station.answer r s).2.recalling history) := by
  have hchanged (result : Except IoError Tree) : (s.recalling history).changed result =
      ((s.changed result).1, (s.changed result).2.recalling history) := by
    cases result <;> rfl
  cases r with
  | run c => cases h
  | write root path text => exact hchanged _
  | append path text => exact hchanged _
  | _ => rfl

theorem run_of_script {c : Command} {next : Canned} {queue : List Canned}
    (h : s.runner = .script (next :: queue)) :
    s.run c = (.ok next.output,
      { s with history := c :: s.history, runner := .script queue,
               tree := applyChanges s.base s.tree next.changes }) := by
  unfold run
  simp only [h]

end Station

/-- Two runs that differ only in what stands in front of their commands. -/
structure DiffersByHelper (direct behind : Run interface Station α) : Prop where
  value : behind.value = direct.value
  final : ∃ history, behind.final = direct.final.recalling history
  commands : commandsOf behind = (commandsOf direct).map (Command.behind (some helper))

variable {helper}

theorem DiffersByHelper.after {direct behind : Run interface Station α}
    (h : DiffersByHelper helper direct behind) {x y : Exchange interface}
    (hcommand : y.1.command? = x.1.command?.map (Command.behind (some helper))) :
    DiffersByHelper helper (direct.after [x]) (behind.after [y]) where
  value := h.value
  final := h.final
  commands := by
    rw [commandsOf_after, commandsOf_after, h.commands, hcommand]
    cases x.1.command? <;> rfl

/-- While the script lasts, the helper makes no difference but in the commands. -/
theorem play_elevate (program : Program α) {s : Station} {queue : List Canned}
    (hscript : s.runner = .script queue) (history : List Command)
    (hlasts : (commandsOf (program.play Station.answer s)).length ≤ queue.length ∨
      (commandsOf ((elevate helper program).play Station.answer
        (s.recalling history))).length ≤ queue.length) :
    DiffersByHelper helper (program.play Station.answer s)
      ((elevate helper program).play Station.answer (s.recalling history)) := by
  induction program generalizing s queue history with
  | done value => exact ⟨rfl, ⟨history, rfl⟩, rfl⟩
  | ask r next ih =>
      cases hr : r.command? with
      | none =>
          have hplay := Station.answer_recalling hr s history
          rw [elevate_ask helper hr, Flow.play_ask, Flow.play_ask, commandsOf_after,
            commandsOf_after, hr, hplay] at hlasts
          rw [elevate_ask helper hr, Flow.play_ask, Flow.play_ask, hplay]
          refine DiffersByHelper.after (ih _ ?_ history hlasts) (by rw [hr]; rfl)
          rw [Station.runner_answer hr, hscript]
      | some c =>
          obtain rfl : r = .run c := by
            cases r with
            | run c' => rw [Option.some.inj hr]
            | _ => cases hr
          rw [elevate_ask_run, Flow.play_ask, Flow.play_ask, commandsOf_after,
            commandsOf_after] at hlasts
          rw [elevate_ask_run, Flow.play_ask, Flow.play_ask]
          cases queue with
          | nil => simp [Request.command?] at hlasts
          | cons canned queue =>
              have hdirect := Station.run_of_script (c := c) hscript
              have hbehind := Station.run_of_script (s := s.recalling history)
                (c := c.behind (some helper)) hscript
              have hanswer (q : Command) (t : Station) : Station.answer (.run q) t = t.run q := rfl
              rw [hanswer, hanswer, hdirect, hbehind] at hlasts ⊢
              refine DiffersByHelper.after (ih _ rfl _ ?_) rfl
              exact hlasts.imp Nat.le_of_succ_le_succ Nat.le_of_succ_le_succ

end NodeVolumes.Host
