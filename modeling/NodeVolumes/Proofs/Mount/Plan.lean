import Mathlib.Data.List.Infix
import NodeVolumes.Proofs.Mount.Formatting

/-!
# The plan of a mount

What a listing prints settles all commands that mount a device (`plan`).  They are issued one after
the other, until one cannot be started or does not report success (`Course`).  So a file system is
made only where a listing named no known one, and nothing is mounted after making one failed
(`mounting_follows_plan`).
-/

namespace NodeVolumes.Mount

open Host
open Kubelet (Options)

/-! ## Plans -/

instance (fsType : String) : Decidable (Recognised fsType) :=
  inferInstanceAs (Decidable (∃ fs ∈ knownFileSystems, _ <:+: _))

/-- A type of file system whose maker is told not to ask back. -/
def Forced (fsType : String) : Prop :=
  "ext".toList <+: fsType.toList ∨ "ntfs".toList <+: fsType.toList
  deriving Decidable

/-- One of the access flags is `ro`, but for blanks around it. -/
def ReadOnly (o : Options) : Prop :=
  ∃ flag ∈ [o.readWrite, o.actualReadWrite], ∃ text ∈ flag, Text.trim text = "ro"
  deriving Decidable

/-- The commands that make a file system on a device of which `text` is listed. -/
def formatting (device : String) (o : Options) (text : String) : List Command :=
  if Recognised (Text.trim text) then []
  else [.ofTexts (mkfs o.fileSystem) (device :: if Forced o.fileSystem then ["-F"] else [])]

def placing (path device : String) (o : Options) : List Command :=
  [.ofTexts mkdir ["-p", path],
    .ofTexts mountTool ((if ReadOnly o then ["-r"] else []) ++ [device, path])]

/-- The commands that mount a device of which `text` is listed, without a helper. -/
def plan (path device : String) (o : Options) (text : String) : List Command :=
  .ofTexts lsblk [device, "--noheadings", "-o", "FSTYPE", "-f"] ::
    (formatting device o text ++ placing path device o)

theorem formatArgs_eq (fsType device : String) :
    formatArgs fsType device = device :: if Forced fsType then ["-F"] else [] := by
  have hforced : asksBack fsType = true ↔ Forced fsType := by
    simp [asksBack, Forced, Text.startsWith, Text.hasStart_iff]
  by_cases h : Forced fsType <;> simp [formatArgs, hforced, h]

theorem deviceMountArgs_eq (o : Options) (device path : String) :
    deviceMountArgs o.readOnly device path =
      (if ReadOnly o then ["-r"] else []) ++ [device, path] := by
  have hreadOnly : o.readOnly = true ↔ ReadOnly o := by
    simp [Options.readOnly, Options.asksReadOnly, ReadOnly]
  by_cases h : ReadOnly o <;> simp [deviceMountArgs, hreadOnly, h]

/-! ## Courses -/

def requests (helper : Option String) (commands : List Command) : List Host.Request :=
  commands.map fun c => .run (c.behind helper)

def Succeeds (x : Exchange interface) : Prop :=
  ∃ (c : Command) (output : Command.Output), x = ran c (.ok output) ∧ output.code = some 0

/-- How commands are issued behind a helper up to the first that fails, whose failure is the
outcome. -/
inductive Course (helper : Option String) :
    List Command → List (Exchange interface) → Except Error Unit → Prop where
  | finished : Course helper [] [] (.ok ())
  | goesOn {c : Command} {commands : List Command} {output : Command.Output}
      {dialogue : List (Exchange interface)} {outcome : Except Error Unit}
      (hcode : output.code = some 0) (rest : Course helper commands dialogue outcome) :
      Course helper (c :: commands) (ran (c.behind helper) (.ok output) :: dialogue) outcome
  | unstarted {c : Command} {commands : List Command} {failure : Command.SpawnFailure} :
      Course helper (c :: commands) [ran (c.behind helper) (.error failure)]
        (.error (.command (.spawn failure)))
  | failed {c : Command} {commands : List Command} {output : Command.Output}
      (hcode : output.code ≠ some 0) :
      Course helper (c :: commands) [ran (c.behind helper) (.ok output)]
        (.error (.command (.failed c.render output.code (Text.trim output.stderr))))

namespace Course

variable {helper : Option String} {commands : List Command}
  {dialogue : List (Exchange interface)} {outcome : Except Error Unit}

theorem asked_isPrefix (h : Course helper commands dialogue outcome) :
    dialogue.map Sigma.fst <+: requests helper commands := by
  induction h with
  | finished => exact List.nil_prefix
  | goesOn hcode rest ih => exact List.cons_prefix_cons.mpr ⟨rfl, ih⟩
  | unstarted => exact List.cons_prefix_cons.mpr ⟨rfl, List.nil_prefix⟩
  | failed hcode => exact List.cons_prefix_cons.mpr ⟨rfl, List.nil_prefix⟩

theorem succeeds_of_ok (h : Course helper commands dialogue (.ok ())) :
    dialogue.map Sigma.fst = requests helper commands ∧ ∀ x ∈ dialogue, Succeeds x := by
  generalize houtcome : (.ok () : Except Error Unit) = outcome at h
  induction h with
  | finished => exact ⟨rfl, by simp⟩
  | @goesOn c commands output dialogue outcome hcode rest ih =>
      obtain ⟨hasked, hall⟩ := ih houtcome
      refine ⟨congrArg (Request.run (c.behind helper) :: ·) hasked, ?_⟩
      exact List.forall_mem_cons.mpr ⟨⟨_, output, rfl, hcode⟩, hall⟩
  | unstarted => cases houtcome
  | failed hcode => cases houtcome

theorem not_succeeds_of_error {e : Error} (h : Course helper commands dialogue (.error e)) :
    ∃ x ∈ dialogue, ¬Succeeds x := by
  generalize houtcome : (.error e : Except Error Unit) = outcome at h
  induction h with
  | finished => cases houtcome
  | goesOn hcode rest ih =>
      obtain ⟨x, hx, hfailed⟩ := ih houtcome
      exact ⟨x, List.mem_cons_of_mem _ hx, hfailed⟩
  | unstarted =>
      refine ⟨_, List.mem_singleton.mpr rfl, ?_⟩
      rintro ⟨c, output, hran, hcode⟩
      cases hran
  | failed hcode =>
      refine ⟨_, List.mem_singleton.mpr rfl, ?_⟩
      rintro ⟨c, output, hran, hsuccess⟩
      cases hran
      exact hcode hsuccess

theorem ok_iff (h : Course helper commands dialogue outcome) :
    outcome = .ok () ↔
      dialogue.map Sigma.fst = requests helper commands ∧ ∀ x ∈ dialogue, Succeeds x := by
  constructor
  · rintro rfl
    exact h.succeeds_of_ok
  · rintro ⟨-, hall⟩
    cases outcome with
    | ok value => rfl
    | error e =>
        obtain ⟨x, hx, hfailed⟩ := h.not_succeeds_of_error
        exact absurd (hall x hx) hfailed

/-- Either the first command is the only one, or it succeeded. -/
theorem of_cons {c : Command} (h : Course helper (c :: commands) dialogue outcome) :
    (∃ reply, dialogue = [ran (c.behind helper) reply]) ∨
      ∃ (output : Command.Output) (later : List (Exchange interface)), output.code = some 0 ∧
        dialogue = ran (c.behind helper) (.ok output) :: later ∧
        Course helper commands later outcome := by
  cases h with
  | goesOn hcode rest => exact .inr ⟨_, _, hcode, rfl, rest⟩
  | unstarted => exact .inl ⟨_, rfl⟩
  | failed hcode => exact .inl ⟨_, rfl⟩

/-- Later commands are issued only after all earlier ones succeeded. -/
theorem of_append (first second : List Command)
    (h : Course helper (first ++ second) dialogue outcome) :
    Course helper first dialogue outcome ∨
      ∃ before after, dialogue = before ++ after ∧ Course helper first before (.ok ()) ∧
        Course helper second after outcome := by
  induction first generalizing dialogue with
  | nil => exact .inr ⟨[], dialogue, rfl, .finished, h⟩
  | cons c first ih =>
      cases h with
      | goesOn hcode rest =>
          rcases ih rest with hearly | ⟨before, after, rfl, hbefore, hafter⟩
          · exact .inl (.goesOn hcode hearly)
          · exact .inr ⟨_ :: before, after, rfl, .goesOn hcode hbefore, hafter⟩
      | unstarted => exact .inl .unstarted
      | failed hcode => exact .inl (.failed hcode)

theorem mem_requests (h : Course helper commands dialogue outcome) {x : Exchange interface}
    (hx : x ∈ dialogue) : x.1 ∈ requests helper commands :=
  h.asked_isPrefix.subset (List.mem_map_of_mem hx)

end Course

/-! ## The course of a mount -/

def standardOutput : Except Command.SpawnFailure Command.Output → String
  | .ok output => output.stdout
  | .error _ => ""

section Play

variable {σ : Type} {answer : (r : Host.Request) → StateM σ r.Answer} {s : Setup}
  {program path device : String} {args : List String} {o : Options}

/-- An action goes by a list of commands on any host that answers like this. -/
def GoesBy (answer : (r : Host.Request) → StateM σ r.Answer) (s : Setup)
    (action : Action Error Unit) (commands : List Command) : Prop :=
  ∀ host, Course s.helper commands (action.run.play answer host).dialogue
    (action.run.play answer host).value

theorem goesBy_done : GoesBy answer s (pure ()) [] :=
  fun _ => .finished

/-- One command, and what follows by what it printed. -/
theorem course_run_bind {f : String → Action Error Unit} {commands : String → List Command}
    (rest : ∀ text, GoesBy answer s (f text) (commands text)) (host : σ) :
    Course s.helper
      (.ofTexts program args ::
        commands (standardOutput (answer (.run (issued s program args)) host).1))
      ((run s program args >>= f).run.play answer host).dialogue
      ((run s program args >>= f).run.play answer host).value := by
  generalize hreply : (answer (.run (issued s program args)) host).1 = reply
  cases reply with
  | error failure =>
      have hprinted : printed (.ofTexts program args)
          (answer (.run (issued s program args)) host).1 = .error (.command (.spawn failure)) := by
        rw [hreply]
        rfl
      rw [play_run_bind_of_error hprinted, hreply]
      exact .unstarted
  | ok output =>
      by_cases hcode : output.code = some 0
      · have hsuccess : output.isSuccess = true := beq_iff_eq.mpr hcode
        rw [play_run_bind hreply hsuccess]
        exact .goesOn hcode (rest output.stdout _)
      · have hprinted : printed (.ofTexts program args)
            (answer (.run (issued s program args)) host).1 =
              .error (.command (.failed (Command.ofTexts program args).render output.code
                (Text.trim output.stderr))) := by
          simp [hreply, printed, Command.check, Command.Output.isSuccess, hcode]
        rw [play_run_bind_of_error hprinted, hreply]
        exact .failed hcode

theorem GoesBy.run_bind {f : String → Action Error Unit} {commands : List Command}
    (rest : ∀ text, GoesBy answer s (f text) commands) :
    GoesBy answer s (run s program args >>= f) (.ofTexts program args :: commands) :=
  fun host => course_run_bind rest host

theorem goesBy_place : GoesBy answer s (place s path device o) (placing path device o) := by
  unfold place placing
  rw [← deviceMountArgs_eq]
  exact .run_bind fun _ => .run_bind fun _ => goesBy_done

theorem goesBy_afterListing (text : String) :
    GoesBy answer s (afterListing s path device o text)
      (formatting device o text ++ placing path device o) := by
  unfold formatting
  rw [← formatArgs_eq]
  cases hknown : namesKnown text with
  | true =>
      rw [if_pos (namesKnown_iff.mp hknown), afterListing_of_known hknown]
      exact goesBy_place
  | false =>
      have hunknown : ¬Recognised (Text.trim text) := by
        rw [← namesKnown_iff, hknown]
        exact Bool.false_ne_true
      rw [if_neg hunknown, afterListing_of_unknown hknown]
      exact .run_bind fun _ => goesBy_place

theorem course_mounting (host : σ) :
    Course s.helper
      (plan path device o (standardOutput (answer (.run (listing s device)) host).1))
      (mounting answer s path device o host).dialogue
      (mounting answer s path device o host).value := by
  rw [mounting, mountDevice_eq]
  exact course_run_bind goesBy_afterListing host

/-! ## What a mount never does -/

theorem not_isMaker_of_mem_placing {r : Host.Request}
    (h : r ∈ requests s.helper (placing path device o)) : ¬IsMaker s r := by
  simp only [requests, placing, List.map_cons, List.map_nil, List.mem_cons, List.not_mem_nil,
    or_false] at h
  rcases h with rfl | rfl
  · exact not_isMaker (by decide) _
  · exact not_isMaker (by decide) _

theorem mount_not_mem_formatting {text : String} :
    .run (issued s mountTool args) ∉ requests s.helper (formatting device o text) := by
  unfold formatting
  split
  · exact List.not_mem_nil
  · intro h
    exact issued_ne (mkfs_ne (by decide) _) _ _ (Request.run.inj (List.mem_singleton.mp h))

/-- Whatever makes a file system is run after a listing without a known one. -/
theorem exists_listed_of_isMaker {host : σ} {r : Host.Request}
    (hr : r ∈ (mounting answer s path device o host).asked) (hmaker : IsMaker s r) :
    ∃ output : Command.Output,
      ran (listing s device) (.ok output) ∈ (mounting answer s path device o host).dialogue ∧
        output.code = some 0 ∧ ¬Recognised (Text.trim output.stdout) := by
  obtain ⟨x, hx, rfl⟩ := List.mem_map.mp hr
  have hlisting : ∀ args, x.1 ≠ .run (issued s lsblk args) := by
    intro args hx
    exact not_isMaker (by decide) args (hx ▸ hmaker)
  rcases (course_mounting host).of_cons with
    ⟨reply, hdialogue⟩ | ⟨output, later, hcode, hdialogue, hlater⟩
  · rw [hdialogue] at hx
    rw [List.mem_singleton.mp hx] at hlisting
    exact absurd rfl (hlisting _)
  · have hlisted : ran (listing s device) (.ok output) ∈
        (mounting answer s path device o host).dialogue := by
      rw [hdialogue]
      exact List.mem_cons_self
    refine ⟨output, hlisted, hcode, fun hrecognised => ?_⟩
    rw [answer_of_listed hlisted, formatting, standardOutput, if_pos hrecognised] at hlater
    rw [hdialogue] at hx
    rcases List.mem_cons.mp hx with rfl | hx
    · exact hlisting _ rfl
    · exact not_isMaker_of_mem_placing (hlater.mem_requests hx) hmaker

theorem mount_not_mem_of_not_succeeds {host : σ} {x : Exchange interface}
    (hx : x ∈ (mounting answer s path device o host).dialogue) (hmaker : IsMaker s x.1)
    (hfailed : ¬Succeeds x) :
    .run (issued s mountTool args) ∉ (mounting answer s path device o host).asked := by
  intro hmount
  obtain ⟨y, hy, hmounts⟩ := List.mem_map.mp hmount
  rcases Course.of_append (_ :: formatting device o _) (placing path device o)
    (course_mounting host) with
    hearly | ⟨before, after, hdialogue, hbefore, hafter⟩
  · have hmem := hearly.mem_requests hy
    rw [hmounts] at hmem
    rcases List.mem_cons.mp hmem with hlisting | hformatting
    · exact issued_ne (by decide) _ _ (Request.run.inj hlisting)
    · exact mount_not_mem_formatting hformatting
  · rw [hdialogue] at hx
    rcases List.mem_append.mp hx with hx | hx
    · exact hfailed (hbefore.succeeds_of_ok.2 x hx)
    · exact not_isMaker_of_mem_placing (hafter.mem_requests hx) hmaker

end Play

/--
On any host a mount issues the commands of its plan, in their order, up to the first that fails, and
its outcome is that failure.  It succeeds exactly if all of them are issued and succeed.
-/
theorem mounting_follows_plan {σ : Type} (answer : (r : Host.Request) → StateM σ r.Answer)
    (s : Setup) (path device : String) (o : Options) (host : σ) :
    let mounted := mounting answer s path device o host
    let commands :=
      plan path device o (standardOutput (answer (.run (listing s device)) host).1)
    Course s.helper commands mounted.dialogue mounted.value ∧
      mounted.asked <+: requests s.helper commands ∧
      (mounted.value = .ok () ↔
        mounted.asked = requests s.helper commands ∧ ∀ x ∈ mounted.dialogue, Succeeds x) ∧
      (∀ r ∈ mounted.asked, IsMaker s r →
        ∃ output : Command.Output, ran (listing s device) (.ok output) ∈ mounted.dialogue ∧
          output.code = some 0 ∧ ¬Recognised (Text.trim output.stdout)) ∧
      ∀ x ∈ mounted.dialogue, IsMaker s x.1 → ¬Succeeds x →
        ∀ args, .run (issued s mountTool args) ∉ mounted.asked := by
  intro mounted commands
  have hcourse : Course s.helper commands mounted.dialogue mounted.value := course_mounting host
  refine ⟨hcourse, hcourse.asked_isPrefix, hcourse.ok_iff, ?_, ?_⟩
  · intro r hr hmaker
    exact exists_listed_of_isMaker hr hmaker
  · intro x hx hmaker hfailed args
    exact mount_not_mem_of_not_succeeds hx hmaker hfailed

def busy : Station :=
  { idle with
    runner := .script [⟨⟨some 0, "\n", ""⟩, []⟩, ⟨⟨some 1, "", "device is busy\n"⟩, []⟩] }

def inUse : Station :=
  { idle with
    runner := .script
      [⟨⟨some 0, "  xFs\n", ""⟩, []⟩, ⟨⟨some 0, "", ""⟩, []⟩, ⟨⟨some 0, "", ""⟩, []⟩] }

/-- Nothing is mounted where making a file system fails, and none is made where one is listed. -/
theorem mounting_follows_plan_busy :
    let s : Setup := { helper := some "sudo", globalMounts := "/mnt" }
    let mounted := mounting Station.answer s "/mnt/a" "/dev/dm-3" {} busy
    let kept := mounting Station.answer s "/mnt/a" "/dev/dm-3" {} inUse
    let maker := making s "/dev/dm-3" "ext4"
    mounted.value = .error (.command
        (.failed "/sbin/mkfs.ext4 /dev/dm-3 -F" (some 1) "device is busy")) ∧
      mounted.asked = [.run (listing s "/dev/dm-3"), .run maker] ∧ IsMaker s (.run maker) ∧
      (∃ output : Command.Output, ran (listing s "/dev/dm-3") (.ok output) ∈ mounted.dialogue ∧
        output.code = some 0 ∧ ¬Recognised (Text.trim output.stdout)) ∧
      (∀ args, .run (issued s mountTool args) ∉ mounted.asked) ∧
      kept.value = .ok () ∧
      kept.asked = [.run (listing s "/dev/dm-3"), .run (issued s mkdir ["-p", "/mnt/a"]),
        .run (issued s mountTool ["/dev/dm-3", "/mnt/a"])] ∧
      ∀ r ∈ kept.asked, ¬IsMaker s r := by
  intro s mounted kept maker
  have hdialogue : mounted.dialogue = [ran (listing s "/dev/dm-3") (.ok ⟨some 0, "\n", ""⟩),
      ran maker (.ok ⟨some 1, "", "device is busy\n"⟩)] := by rfl
  have hasked : mounted.asked = [.run (listing s "/dev/dm-3"), .run maker] :=
    congrArg (List.map Sigma.fst) hdialogue
  have hmaker : IsMaker s (.run maker) := ⟨"ext4", _, rfl⟩
  have hfailed : ¬Succeeds (ran maker (.ok ⟨some 1, "", "device is busy\n"⟩)) := by
    rintro ⟨c, output, hran, hcode⟩
    cases hran
    cases hcode
  have hran : ran maker (.ok ⟨some 1, "", "device is busy\n"⟩) ∈ mounted.dialogue := by
    rw [hdialogue]
    exact List.mem_cons_of_mem _ List.mem_cons_self
  obtain ⟨-, -, -, hlisted, hunmounted⟩ :=
    mounting_follows_plan Station.answer s "/mnt/a" "/dev/dm-3" {} busy
  obtain ⟨-, -, -, hmade, -⟩ :=
    mounting_follows_plan Station.answer s "/mnt/a" "/dev/dm-3" {} inUse
  refine ⟨by rfl, hasked, hmaker, hlisted (.run maker) (List.mem_map_of_mem hran) hmaker,
    hunmounted _ hran hmaker hfailed, by rfl, by rfl, ?_⟩
  intro r hr hmakes
  obtain ⟨output, houtput, -, hunknown⟩ := hmade r hr hmakes
  have hlisting : (Station.answer (.run (listing s "/dev/dm-3")) inUse).1 =
      .ok ⟨some 0, "  xFs\n", ""⟩ := rfl
  obtain rfl := Except.ok.inj ((answer_of_listed houtput).symm.trans hlisting)
  exact hunknown (by decide +kernel)

end NodeVolumes.Mount
