import NodeVolumes.Proofs.Host.Station
import NodeVolumes.Proofs.Text.ShellWord

/-!
# Texts of commands

The text of a command is read back as its words by the rules of a shell (`split_render`), so no two
commands share a text.  Nor do two commands share the message of a failure of theirs: of the words
of a message, those in front of the last four name the command (`words_eq_of_message`).
-/

namespace NodeVolumes

open Text

namespace Command

theorem words_ofTexts (program : String) (args : List String) :
    (ofTexts program args).words = program :: args := by
  simp [words, ofTexts, RawText.lossy, Function.comp_def]

theorem split_render (c : Command) : ShellWord.split c.render = some c.words :=
  ShellWord.split_join c.words

/-! ## Messages -/

def statusText : Option Int → String
  | some code => Json.integerText code
  | none => "unknown"

theorem message_failed (text : String) (status : Option Int) (stderr : String) :
    (Error.failed text status stderr).message =
      text ++ " exited with status " ++ statusText status ++ ": " ++ stderr := by
  cases status <;> rfl

theorem isSafe_of_mem_digitText {n : Nat} {c : Char} (h : c ∈ (Decimal.digitText n).toList) :
    ShellWord.isSafe c = true := by
  rw [Decimal.digitText, String.toList_ofList] at h
  have hdigit : c.isDigit = true := Nat.isDigit_of_mem_toDigits (by decide) (by decide) h
  simp [ShellWord.isSafe, Char.isAlphanum, hdigit]

theorem digitText_ne_empty (n : Nat) : Decimal.digitText n ≠ "" := by
  simp [Decimal.digitText]

theorem quote_statusText (status : Option Int) :
    ShellWord.quote (statusText status) = statusText status := by
  cases status with
  | none => decide +kernel
  | some code =>
      rw [statusText, Json.integerText]
      by_cases hnegative : code < 0
      · rw [if_pos hnegative]
        refine ShellWord.quote_of_safe (by simp) (List.all_eq_true.mpr fun c hc => ?_)
        rw [String.toList_append, List.mem_append] at hc
        rcases hc with hc | hc
        · rw [List.mem_singleton.mp hc]
          rfl
        · exact isSafe_of_mem_digitText hc
      · rw [if_neg hnegative]
        exact ShellWord.quote_of_safe (digitText_ne_empty _)
          (List.all_eq_true.mpr fun c hc => isSafe_of_mem_digitText hc)

/-- The words of a failure, as far as they are told in front of its output. -/
def failureWords (c : Command) (status : Option Int) : List String :=
  c.words ++ ["exited", "with", "status", statusText status]

theorem message_failed_render (c : Command) (status : Option Int) (stderr : String) :
    (Error.failed c.render status stderr).message =
      ShellWord.join (c.failureWords status) ++ ": " ++ stderr := by
  have hwords : c.words ≠ [] := List.cons_ne_nil _ _
  have hplain : ∀ word ∈ ["exited", "with", "status"], ShellWord.quote word = word := by
    decide +kernel
  rw [message_failed, render, failureWords, ShellWord.join_append hwords (List.cons_ne_nil _ _)]
  simp only [ShellWord.join_cons_cons, ShellWord.join_singleton, quote_statusText,
    hplain "exited" (by simp), hplain "with" (by simp), hplain "status" (by simp)]
  apply String.toList_injective
  simp

/-- The same message is about the same command. -/
theorem words_eq_of_message {c c' : Command} {status status' : Option Int}
    {stderr stderr' : String}
    (h : (Error.failed c.render status stderr).message =
      (Error.failed c'.render status' stderr').message) : c.words = c'.words := by
  have hfront (c : Command) (status : Option Int) (stderr : String) :
      ShellWord.beforeColon .plain (Error.failed c.render status stderr).message.toList =
        (ShellWord.join (c.failureWords status)).toList := by
    rw [message_failed_render, String.append_assoc, String.toList_append,
      ShellWord.beforeColon_join]
    simp [ShellWord.beforeColon]
  have hjoin : ShellWord.join (c.failureWords status) =
      ShellWord.join (c'.failureWords status') := by
    apply String.toList_injective
    rw [← hfront c status stderr, ← hfront c' status' stderr', h]
  exact List.append_inj_left' (ShellWord.join_injective hjoin) rfl

end Command

/-! ## Reported failures -/

namespace Host

/-- A checked run of a command, in some world and behind some helper, is reported as failed. -/
inductive ReportsFailed (c : Command) : Command.Error → Prop where
  | run {σ : Type} (answer : (r : Request) → StateM σ r.Answer) (w : σ) (helper : Option String)
      {text stderr : String} {status : Option Int} :
      ((runChecked helper c).run.play answer w).value = .error (.failed text status stderr) →
      ReportsFailed c (.failed text status stderr)

theorem value_runChecked {σ : Type} (answer : (r : Request) → StateM σ r.Answer) (w : σ)
    (helper : Option String) (c : Command) :
    ((runChecked helper c).run.play answer w).value =
      checked c (answer (.run (c.behind helper)) w).1 := by
  have hrun : (runChecked helper c).run =
      .ask (I := interface) (.run (c.behind helper)) fun reply => .done (checked c reply) := by
    refine congrArg (Flow.ask (I := interface) (.run (c.behind helper)))
      (funext fun reply => ?_)
    cases reply <;> rfl
  rw [hrun]
  rfl

/-- What is reported tells the text of the command, without any helper. -/
theorem ReportsFailed.exists_eq {c : Command} {e : Command.Error} (h : ReportsFailed c e) :
    ∃ status stderr, e = .failed c.render status stderr := by
  obtain ⟨answer, w, helper, hvalue⟩ := h
  rw [value_runChecked] at hvalue
  cases hreply : (answer (.run (c.behind helper)) w).1 with
  | error failure =>
      rw [hreply] at hvalue
      cases hvalue
  | ok output =>
      rw [hreply, checked, Command.check] at hvalue
      split at hvalue
      · cases hvalue
      · cases hvalue
        exact ⟨_, _, rfl⟩

end Host

namespace Command

open Host (ReportsFailed)

/--
Whatever its program and arguments, the text of a command is split by a shell into just these, and
nothing in it stands bare that a shell might act on.  A checked run that fails is reported with that
text.  So neither two texts nor two messages of such failures are the same unless the commands are.
-/
theorem render_unambiguous (program : String) (args : List String) :
    ShellWord.split (ofTexts program args).render = some (program :: args) ∧
    (∀ e, ReportsFailed (ofTexts program args) e →
      ∃ status stderr, e = .failed (ofTexts program args).render status stderr) ∧
    ∀ other others,
      ((ofTexts program args).render = (ofTexts other others).render →
        program = other ∧ args = others) ∧
      ∀ e e', ReportsFailed (ofTexts program args) e → ReportsFailed (ofTexts other others) e' →
        e.message = e'.message → program = other ∧ args = others := by
  have hsplit (program : String) (args : List String) :
      ShellWord.split (ofTexts program args).render = some (program :: args) := by
    rw [split_render, words_ofTexts]
  refine ⟨hsplit program args, fun e he => he.exists_eq, fun other others => ⟨?_, ?_⟩⟩
  · intro htext
    have hwords := hsplit program args
    rw [htext, hsplit] at hwords
    cases hwords
    exact ⟨rfl, rfl⟩
  · intro e e' he he' hmessage
    obtain ⟨status, stderr, rfl⟩ := he.exists_eq
    obtain ⟨status', stderr', rfl⟩ := he'.exists_eq
    have hwords := words_eq_of_message hmessage
    rw [words_ofTexts, words_ofTexts] at hwords
    exact List.cons.inj hwords

def failingHost : Host.Station :=
  { tree := .empty, base := [], workingDirectory := []
    runner := .script [{ output := ⟨some 32, "", "not mounted\n"⟩ }] }

theorem reportsFailed_failingHost (c : Command) :
    ReportsFailed c (.failed c.render (some 32) "not mounted") := by
  refine .run Host.Station.answer failingHost none ?_
  have htrim : trim "not mounted\n" = "not mounted" := by decide +kernel
  have hcheck : c.check ⟨some 32, "", "not mounted\n"⟩ =
      .error (.failed c.render (some 32) (trim "not mounted\n")) := rfl
  rw [htrim] at hcheck
  rw [Host.value_runChecked]
  exact hcheck

/-- A quote in an argument and an empty argument are read back, and failures tell them apart. -/
theorem render_unambiguous_quote :
    let c := ofTexts "/bin/umount" ["/mnt/it's", ""]
    let c' := ofTexts "/bin/umount" ["/mnt/it's"]
    c.render = "/bin/umount '/mnt/it'\\''s' ''" ∧
      ShellWord.split "/bin/umount '/mnt/it'\\''s' ''" = some ["/bin/umount", "/mnt/it's", ""] ∧
      (Error.failed c.render (some 32) "not mounted").message ≠
        (Error.failed c'.render (some 32) "not mounted").message := by
  intro c c'
  have htext : c.render = "/bin/umount '/mnt/it'\\''s' ''" := by decide +kernel
  obtain ⟨hsplit, -, hapart⟩ := render_unambiguous "/bin/umount" ["/mnt/it's", ""]
  refine ⟨htext, htext ▸ hsplit, fun hmessage => ?_⟩
  obtain ⟨-, hargs⟩ := (hapart "/bin/umount" ["/mnt/it's"]).2 _ _
    (reportsFailed_failingHost c) (reportsFailed_failingHost c') hmessage
  cases hargs

end Command

end NodeVolumes
