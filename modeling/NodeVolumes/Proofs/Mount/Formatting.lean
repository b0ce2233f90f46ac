import NodeVolumes.Host.Station
import NodeVolumes.Proofs.Mount.Run

/-!
# Formatting

Mounting a device lists its file system and makes one unless the listing names a known one.  What
is made is of any type that options name, so a device is formatted once only if its type is one
that is recognised afterwards (`formatsOnce_iff`).
-/

namespace NodeVolumes.Mount

open Host
open Kubelet (Options)

def listing (s : Setup) (device : String) : Command :=
  issued s lsblk [device, "--noheadings", "-o", "FSTYPE", "-f"]

def making (s : Setup) (device fsType : String) : Command :=
  issued s (mkfs fsType) (formatArgs fsType device)

/-- A request to make a file system of some type. -/
def IsMaker (s : Setup) (r : Host.Request) : Prop :=
  ∃ fsType args, r = .run (issued s (mkfs fsType) args)

/-- A type of file system is told from others: the name of a known one occurs in it, in any
case. -/
def Recognised (fsType : String) : Prop :=
  ∃ fs ∈ knownFileSystems, (Text.lower fs).toList <:+: (Text.lower fsType).toList

/-- A run made a file system of a type on a device. -/
def Formats {σ α : Type} (s : Setup) (device fsType : String) (r : Run interface σ α) : Prop :=
  ∃ output : Command.Output, output.isSuccess = true ∧
    ran (making s device fsType) (.ok output) ∈ r.dialogue

/-- In a run a device was listed with a file system of a type. -/
def Reports {σ α : Type} (s : Setup) (device fsType : String) (r : Run interface σ α) : Prop :=
  ∃ output : Command.Output, output.isSuccess = true ∧ Text.trim output.stdout = fsType ∧
    ran (listing s device) (.ok output) ∈ r.dialogue

section Run

variable {σ : Type} (answer : (r : Host.Request) → StateM σ r.Answer)

def mounting (s : Setup) (path device : String) (o : Options) (host : σ) :
    Run interface σ (Except Error Unit) :=
  (mountDevice s path device o).run.play answer host

end Run

/--
On any host, with any program in front of its commands: a device that one mount formatted is not
formatted by a later one that finds it listed with the type that was made, whatever was done in
between.
-/
def FormatsOnce (o : Options) : Prop :=
  ∀ (σ : Type) (answer : (r : Host.Request) → StateM σ r.Answer) (s : Setup)
    (path path' device : String) (host : σ) (between : Program Unit),
    let first := mounting answer s path device o host
    let later := mounting answer s path' device o (between.play answer first.final).final
    Formats s device o.fileSystem first → Reports s device o.fileSystem later →
      ∀ r ∈ later.asked, ¬IsMaker s r

/-! ## What is recognised -/

/-- Blanks around a listing do not count. -/
theorem namesKnown_iff {text : String} :
    namesKnown text = true ↔ Recognised (Text.trim text) := by
  simp only [namesKnown, Recognised, List.any_eq_true, Text.contains, Text.occursIn_iff]

/-! ## The run of mounting a device -/

def place (s : Setup) (path device : String) (o : Options) : Action Error Unit := do
  let _ ← run s mkdir ["-p", path]
  let _ ← run s mountTool (deviceMountArgs o.readOnly device path)
  return ()

def afterListing (s : Setup) (path device : String) (o : Options) (text : String) :
    Action Error Unit :=
  if namesKnown text then
    place s path device o
  else
    run s (mkfs o.fileSystem) (formatArgs o.fileSystem device) >>= fun _ => place s path device o

theorem mountDevice_eq (s : Setup) (path device : String) (o : Options) :
    mountDevice s path device o =
      run s lsblk [device, "--noheadings", "-o", "FSTYPE", "-f"] >>=
        afterListing s path device o := by
  simp only [mountDevice, format, hasFileSystem, bind_assoc, pure_bind]
  refine bind_congr fun text => ?_
  unfold afterListing place
  cases namesKnown text <;> simp

theorem afterListing_of_known {s : Setup} {path device text : String} {o : Options}
    (h : namesKnown text = true) : afterListing s path device o text = place s path device o :=
  if_pos h

theorem afterListing_of_unknown {s : Setup} {path device text : String} {o : Options}
    (h : namesKnown text = false) :
    afterListing s path device o text =
      run s (mkfs o.fileSystem) (formatArgs o.fileSystem device) >>= fun _ =>
        place s path device o := by
  unfold afterListing
  rw [h]
  rfl

theorem place_asksOnly {P : Host.Request → Prop} {s : Setup} {path device : String}
    {o : Options} (hmkdir : ∀ args, P (.run (issued s mkdir args)))
    (hmount : ∀ args, P (.run (issued s mountTool args))) :
    (place s path device o).run.AsksOnly P :=
  Flow.AsksOnly.bind_run (run_asksOnly (hmkdir _)) fun _ =>
    Flow.AsksOnly.bind_run (run_asksOnly (hmount _)) fun _ => trivial

theorem mkfs_ne {program : String} (h : Text.startsWith program "/sbin/mkfs." = false)
    (fsType : String) : program ≠ mkfs fsType := by
  rintro rfl
  have hstart : Text.startsWith (mkfs fsType) "/sbin/mkfs." = true := by
    simp [Text.startsWith, Text.hasStart_iff, mkfs]
  rw [hstart] at h
  contradiction

theorem not_isMaker {s : Setup} {program : String}
    (h : Text.startsWith program "/sbin/mkfs." = false) (args : List String) :
    ¬IsMaker s (.run (issued s program args)) := by
  rintro ⟨fsType, args', hissued⟩
  exact issued_ne (mkfs_ne h fsType) args args' (Request.run.inj hissued)

section Run

variable {σ : Type} {answer : (r : Host.Request) → StateM σ r.Answer} {s : Setup}
  {path device : String} {o : Options} {host : σ} {output : Command.Output}

/-- A device is listed once in a run. -/
theorem answer_of_listed
    (h : ran (listing s device) (.ok output) ∈
      (mounting answer s path device o host).dialogue) :
    (answer (.run (listing s device)) host).1 = .ok output := by
  have hother : ∀ program, program ≠ lsblk → ∀ args,
      Request.run (issued s program args) ≠ .run (listing s device) := by
    intro program hprogram args hissued
    exact issued_ne hprogram _ _ (Request.run.inj hissued)
  have hplace : (place s path device o).run.AsksOnly fun r =>
      r ≠ Request.run (listing s device) :=
    place_asksOnly (hother mkdir (by decide)) (hother mountTool (by decide))
  rw [mounting, mountDevice_eq] at h
  refine answer_of_ran (fun text => ?_) h
  cases hknown : namesKnown text with
  | true =>
      rw [afterListing_of_known hknown]
      exact hplace
  | false =>
      rw [afterListing_of_unknown hknown]
      exact Flow.AsksOnly.bind_run (run_asksOnly (hother _ (mkfs_ne (by decide) _).symm _))
        fun _ => hplace

theorem mounting_of_listed (hreply : (answer (.run (listing s device)) host).1 = .ok output)
    (hsuccess : output.isSuccess = true) :
    mounting answer s path device o host =
      ((afterListing s path device o output.stdout).run.play answer
        (answer (.run (listing s device)) host).2).after
          [ran (listing s device) (.ok output)] := by
  rw [mounting, mountDevice_eq]
  exact play_run_bind hreply hsuccess

/-- A mount makes a file system exactly if the one reported is not recognised. -/
theorem makes_iff {fsType : String}
    (reports : Reports s device fsType (mounting answer s path device o host)) :
    (∃ r ∈ (mounting answer s path device o host).asked, IsMaker s r) ↔ ¬Recognised fsType := by
  obtain ⟨output, hsuccess, rfl, hmem⟩ := reports
  rw [mounting_of_listed (answer_of_listed hmem) hsuccess, ← namesKnown_iff]
  cases hknown : namesKnown output.stdout with
  | true =>
      have hplace : (place s path device o).run.AsksOnly fun r => ¬IsMaker s r :=
        place_asksOnly (not_isMaker (by decide)) (not_isMaker (by decide))
      rw [afterListing_of_known hknown, Run.asked_after]
      simp only [not_true, iff_false]
      rintro ⟨r, hr, hmaker⟩
      rcases List.mem_append.mp hr with hr | hr
      · rw [List.mem_singleton.mp hr] at hmaker
        exact not_isMaker (by decide) _ hmaker
      · exact hplace.of_mem_asked answer hr hmaker
  | false =>
      rw [afterListing_of_unknown hknown, run_bind_run, Flow.play_ask, Run.asked_after,
        Run.asked_after]
      simp only [Bool.false_eq_true, not_false_eq_true, iff_true]
      refine ⟨.run (making s device o.fileSystem), ?_, o.fileSystem, _, rfl⟩
      exact List.mem_append_right _ (List.mem_append_left _ (List.mem_singleton.mpr rfl))

end Run

/-! ## A device that can be formatted -/

/-- A host on which nothing can be started and nothing is found. -/
def idle : Station :=
  { tree := .empty, base := [], workingDirectory := [], runner := .script [] }

/-- A host on which every command succeeds, and prints `text` once `maker` has run. -/
def formattable (maker : Command) (text : String) : (r : Host.Request) → StateM Bool r.Answer
  | .run c => fun made => (.ok ⟨some 0, if made then text else "", ""⟩, made || c == maker)
  | r => fun made => ((Station.answer r idle).1, made)

section Formattable

variable {maker : Command} {text : String}

theorem final_formattable {α : Type} (program : Program α) :
    (program.play (formattable maker text) true).final = true := by
  induction program with
  | done value => rfl
  | ask r next ih =>
      have hmade : (formattable maker text r true).2 = true := by
        cases r <;> rfl
      rw [Flow.play_ask, Run.final_after, hmade]
      exact ih _

theorem formattable_maker (made : Bool) :
    formattable maker text (.run maker) made =
      (.ok ⟨some 0, if made then text else "", ""⟩, true) := by
  simp [formattable]

/-- A device without a file system is formatted, and has one from then on. -/
theorem formats_formattable (s : Setup) (path device text : String) (o : Options) :
    Formats s device o.fileSystem
        (mounting (formattable (making s device o.fileSystem) text) s path device o false) ∧
      (mounting (formattable (making s device o.fileSystem) text) s path device o false).final =
        true := by
  have hblank : namesKnown "" = false := by decide +kernel
  have hlisted :
      mounting (formattable (making s device o.fileSystem) text) s path device o false =
        ((afterListing s path device o "").run.play
          (formattable (making s device o.fileSystem) text)
          (false || listing s device == making s device o.fileSystem)).after
            [ran (listing s device) (.ok ⟨some 0, "", ""⟩)] := mounting_of_listed rfl rfl
  generalize (false || listing s device == making s device o.fileSystem) = made at hlisted
  have hmaker : formattable _ text (.run (making s device o.fileSystem)) made = _ :=
    formattable_maker made
  have hreply := congrArg Prod.fst hmaker
  have hmade := congrArg Prod.snd hmaker
  rw [hlisted, afterListing_of_unknown hblank, play_run_bind hreply rfl]
  constructor
  · refine ⟨⟨some 0, if made then text else "", ""⟩, rfl, ?_⟩
    exact List.mem_append_right _ (List.mem_append_left _ (List.mem_singleton.mpr rfl))
  · rw [Run.final_after, Run.final_after]
    change ((place s path device o).run.play _ (formattable (making s device o.fileSystem) text
      (.run (making s device o.fileSystem)) made).2).final = true
    rw [hmade]
    exact final_formattable _

theorem reports_formattable {s : Setup} {path device : String} {o : Options}
    (h : Text.trim text = o.fileSystem) :
    Reports s device o.fileSystem (mounting (formattable maker text) s path device o true) := by
  refine ⟨⟨some 0, text, ""⟩, rfl, h, ?_⟩
  rw [mounting_of_listed rfl rfl]
  exact List.mem_append_left _ (List.mem_singleton.mpr rfl)

end Formattable

theorem exists_trim_eq_fileSystem (o : Options) : ∃ text, Text.trim text = o.fileSystem := by
  have hdefault : Text.trim Options.defaultFsType = Options.defaultFsType := by decide +kernel
  unfold Options.fileSystem Text.nonBlank? Text.nonBlank
  cases o.fsType with
  | none => exact ⟨_, hdefault⟩
  | some raw =>
      by_cases hraw : Text.trim raw = ""
      · exact ⟨_, by simpa [hraw] using hdefault⟩
      · exact ⟨raw, by simp [hraw]⟩

/-- A type that is formatted once only is recognised, or it would be made again at once. -/
theorem recognised_of_formatsOnce {σ : Type} {answer : (r : Host.Request) → StateM σ r.Answer}
    {s : Setup} {path device : String} {o : Options} {host : σ} (once : FormatsOnce o)
    (hformats : Formats s device o.fileSystem (mounting answer s path device o host))
    (hreports : Reports s device o.fileSystem
      (mounting answer s path device o (mounting answer s path device o host).final)) :
    Recognised o.fileSystem := by
  have hnever := once σ answer s path path device host (.done ()) hformats hreports
  refine Classical.byContradiction fun hunknown => ?_
  obtain ⟨r, hr, hmaker⟩ := (makes_iff hreports).mpr hunknown
  exact hnever r hr hmaker

theorem formatsOnce_iff_recognised {o : Options} :
    FormatsOnce o ↔ Recognised o.fileSystem := by
  constructor
  · intro once
    obtain ⟨text, htext⟩ := exists_trim_eq_fileSystem o
    obtain ⟨hformats, hfinal⟩ :=
      formats_formattable { globalMounts := "/mnt" } "/mnt/a" "/dev/dm-3" text o
    refine recognised_of_formatsOnce once hformats ?_
    rw [hfinal]
    exact reports_formattable htext
  · intro hrecognised σ answer s path path' device host between first later _ hreports r hr hmaker
    exact (makes_iff hreports).mp ⟨r, hr, hmaker⟩ hrecognised

/--
A device is formatted once only exactly if its type is recognised: any mount of a device that is
listed with a type makes a file system exactly if the type is not.
-/
theorem formatsOnce_iff (o : Options) :
    (FormatsOnce o ↔ Recognised o.fileSystem) ∧
      ∀ (σ : Type) (answer : (r : Host.Request) → StateM σ r.Answer) (s : Setup)
        (path device : String) (host : σ),
        Reports s device o.fileSystem (mounting answer s path device o host) →
          ((∃ r ∈ (mounting answer s path device o host).asked, IsMaker s r) ↔
            ¬Recognised o.fileSystem) := by
  exact ⟨formatsOnce_iff_recognised, fun σ answer s path device host => makes_iff⟩

/-- The type that is made where options name none is made once only. -/
theorem ext4_formatted_once :
    let s : Setup := { globalMounts := "/mnt" }
    let later := mounting (formattable (making s "/dev/dm-3" "ext4") "ext4") s "/mnt/a"
      "/dev/dm-3" {} true
    FormatsOnce {} ∧ Reports s "/dev/dm-3" "ext4" later ∧ ¬∃ r ∈ later.asked, IsMaker s r := by
  intro s later
  have htrim : Text.trim "ext4" = "ext4" := by decide +kernel
  have hrecognised : Recognised "ext4" := htrim ▸ namesKnown_iff.mp (by decide +kernel)
  have hreports : Reports s "/dev/dm-3" (Options.fileSystem {}) later :=
    reports_formattable htrim
  obtain ⟨honce, hmakes⟩ := formatsOnce_iff {}
  refine ⟨honce.mpr hrecognised, hreports, fun hmaker => ?_⟩
  exact (hmakes _ _ s "/mnt/a" "/dev/dm-3" true hreports).mp hmaker hrecognised

/-- File systems that options can ask for are made again, although there is one. -/
theorem ntfs_formatted_again : ¬FormatsOnce { fsType := some "ntfs" } := by
  intro once
  have hrecognised : Recognised (Options.fileSystem { fsType := some "ntfs" }) :=
    formatsOnce_iff_recognised.mp once
  have htrim : Text.trim "ntfs" = Options.fileSystem { fsType := some "ntfs" } := by
    decide +kernel
  rw [← htrim, ← namesKnown_iff] at hrecognised
  revert hrecognised
  decide +kernel

end NodeVolumes.Mount
