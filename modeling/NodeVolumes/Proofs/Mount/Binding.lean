import NodeVolumes.Proofs.Mount.Release

/-!
# Binding volumes

A volume is bound from the path that its name is joined to below the directory of the global paths.
The name is any text, so the path is that directory with the name below it only if the name leads
down and nowhere else (`bind_source_isPlacedBelow_iff`): an absolute name takes the place of the
directory, and two dots lead out of it.
-/

namespace NodeVolumes

/-! ## Paths below a directory -/

namespace Path

/-- An absolute path that is reached from a directory by going down alone, at least once. -/
structure IsBelow (directory path : String) : Prop where
  absolute : isAbsolute path = true
  down : ∃ rest, parts path = parts directory ++ rest ∧ rest ≠ [] ∧ ".." ∉ rest

/-- A path is `name` written behind a directory, and below that directory. -/
structure IsPlacedBelow (directory name path : String) : Prop where
  behind : parts path = parts (directory ++ "/" ++ name)
  below : IsBelow directory path

/-- A name of which some piece leads down and none leads up. -/
def LeadsDown (name : String) : Prop :=
  ".." ∉ segments name ∧ ∃ text ∈ segments name, text ≠ "."
  deriving Decidable

variable {directory name : String}

theorem parts_of_isAbsolute {path : String} (h : isAbsolute path = true) :
    parts path = (segments path).filter (· ≠ ".") := by
  unfold parts
  rw [h]

theorem isAbsolute_append (h : isAbsolute directory = true) (rest : String) :
    isAbsolute (directory ++ rest) = true := by
  unfold isAbsolute at h ⊢
  cases hcs : directory.toList with
  | nil => simp [hcs] at h
  | cons c cs => simpa [hcs] using h

theorem isAbsolute_join (h : isAbsolute directory = true) (name : String) :
    isAbsolute (join directory name) = true := by
  unfold join
  split
  · assumption
  · split
    · exact isAbsolute_append h name
    · rw [String.append_assoc]
      exact isAbsolute_append h ("/" ++ name)

theorem parts_append_slash (h : isAbsolute directory = true) (name : String) :
    parts (directory ++ "/" ++ name) =
      parts directory ++ (segments name).filter (· ≠ ".") := by
  have happended : isAbsolute (directory ++ "/" ++ name) = true := by
    rw [String.append_assoc]
    exact isAbsolute_append h ("/" ++ name)
  rw [parts_of_isAbsolute happended, parts_of_isAbsolute h, segments_append_slash,
    List.filter_append]

theorem leadsDown_iff :
    LeadsDown name ↔ (segments name).filter (· ≠ ".") ≠ [] ∧
      ".." ∉ (segments name).filter (· ≠ ".") := by
  simp [LeadsDown, List.filter_eq_nil_iff, and_comm]

theorem parts_join (h : isAbsolute directory = true) (name : String) :
    parts (join directory name) =
      (if isAbsolute name then [] else parts directory) ++ (segments name).filter (· ≠ ".") := by
  cases hname : isAbsolute name with
  | true =>
      have hjoin : join directory name = name := by simp [join, hname]
      simp [hjoin, parts_of_isAbsolute hname]
  | false =>
      rw [parts_of_isAbsolute (isAbsolute_join h name), segments_join_of_relative hname,
        List.filter_append, ← parts_of_isAbsolute h]
      rfl

/-- A name joined to an absolute directory stays below it exactly if it leads down, and if it does
not start at a root that is not the directory. -/
theorem isPlacedBelow_join_iff (h : isAbsolute directory = true) :
    IsPlacedBelow directory name (join directory name) ↔
      (isAbsolute name = true → parts directory = []) ∧ LeadsDown name := by
  have hbehind : parts (join directory name) = parts (directory ++ "/" ++ name) ↔
      (isAbsolute name = true → parts directory = []) := by
    rw [parts_join h, parts_append_slash h, List.append_cancel_right_eq]
    cases isAbsolute name <;> simp
  constructor
  · rintro ⟨hparts, -, rest, hrest, hne, hdots⟩
    refine ⟨hbehind.mp hparts, leadsDown_iff.mpr ?_⟩
    rw [hparts, parts_append_slash h, List.append_cancel_left_eq] at hrest
    rw [hrest]
    exact ⟨hne, hdots⟩
  · rintro ⟨hroot, hdown⟩
    have hparts := hbehind.mpr hroot
    obtain ⟨hne, hdots⟩ := leadsDown_iff.mp hdown
    refine ⟨hparts, isAbsolute_join h name, _, ?_, hne, hdots⟩
    rw [hparts, parts_append_slash h]

end Path

/-! ## The source that is bound -/

namespace Mount

open Host
open Kubelet (Options)

def binding (s : Setup) (source directory : String) : Command :=
  issued s mountTool ["--bind", source, directory]

theorem binding_injective {s : Setup} {source source' directory directory' : String}
    (h : binding s source directory = binding s source' directory') :
    source = source' ∧ directory = directory' := by
  have hcommand := Command.behind_injective s.helper h
  simpa [Command.ofTexts] using congrArg Command.args hcommand

section Bind

variable {σ : Type} (answer : (r : Host.Request) → StateM σ r.Answer)

def bound (s : Setup) (directory : String) (o : Options) (host : σ) :
    Run interface σ (Except Error Unit) :=
  (bind s directory o).run.play answer host

variable {answer} {s : Setup} {directory name : String} {o : Options} {host : σ}

/-- The directory is made first, and the path is bound only if that succeeded. -/
theorem asked_bound (hname : o.volumeName = some name) :
    (bound answer s directory o host).asked =
      .run (issued s mkdir ["-p", directory]) ::
        match printed (.ofTexts mkdir ["-p", directory])
            (answer (.run (issued s mkdir ["-p", directory])) host).1 with
        | .ok _ => [.run (binding s (Path.join s.globalMounts name) directory)]
        | .error _ => [] := by
  unfold bound bind
  rw [hname]
  dsimp only
  cases hmade : printed (.ofTexts mkdir ["-p", directory])
      (answer (.run (issued s mkdir ["-p", directory])) host).1 with
  | error e =>
      rw [play_run_bind_of_error hmade]
      rfl
  | ok text =>
      rw [play_run_bind_of_printed hmade, Run.asked_after, run_bind_run, Flow.play_ask,
        Run.asked_after]
      cases printed (.ofTexts mountTool ["--bind", Path.join s.globalMounts name, directory])
          (answer (.run (issued s mountTool ["--bind", Path.join s.globalMounts name, directory]))
            (answer (.run (issued s mkdir ["-p", directory])) host).2).1 <;> rfl

theorem binding_mem_asked_iff (hname : o.volumeName = some name) {source target : String} :
    .run (binding s source target) ∈ (bound answer s directory o host).asked ↔
      Succeeded (answer (.run (issued s mkdir ["-p", directory])) host).1 ∧
        source = Path.join s.globalMounts name ∧ target = directory := by
  have hmake : Request.run (binding s source target) ≠ .run (issued s mkdir ["-p", directory]) :=
    fun h => issued_ne (by decide) _ _ (Request.run.inj h)
  rw [asked_bound hname, succeeded_iff_exists_printed (c := .ofTexts mkdir ["-p", directory])]
  cases printed (.ofTexts mkdir ["-p", directory])
      (answer (.run (issued s mkdir ["-p", directory])) host).1 with
  | error e => simp [hmake]
  | ok text =>
      simp only [List.mem_cons, hmake, List.not_mem_nil, or_false, false_or, Except.ok.injEq,
        exists_eq', true_and]
      constructor
      · intro h
        exact binding_injective (Request.run.inj h)
      · rintro ⟨rfl, rfl⟩
        rfl

end Bind

/-- All that is bound for a volume is below the directory of the global paths, under its name. -/
def BindsBelow : Prop :=
  ∀ (σ : Type) (answer : (r : Host.Request) → StateM σ r.Answer) (s : Setup) (directory : String)
    (o : Options) (host : σ) (name : String), Path.isAbsolute s.globalMounts = true →
      o.volumeName = some name → ∀ source target,
        .run (binding s source target) ∈ (bound answer s directory o host).asked →
          Path.IsPlacedBelow s.globalMounts name source

/--
On any host the name of a volume, joined to the directory of the global paths, is what is bound,
once the target is made.  That path is the one of the name below the directory exactly if some piece
of the name leads down, none leads up, and the name is not absolute, unless the directory is the
root.
-/
theorem bind_source_isPlacedBelow_iff {σ : Type} (answer : (r : Host.Request) → StateM σ r.Answer)
    (s : Setup) (directory : String) (o : Options) (host : σ) {name : String}
    (habsolute : Path.isAbsolute s.globalMounts = true) (hname : o.volumeName = some name) :
    (∀ source target, .run (binding s source target) ∈ (bound answer s directory o host).asked ↔
      Succeeded (answer (.run (issued s mkdir ["-p", directory])) host).1 ∧
        source = Path.join s.globalMounts name ∧ target = directory) ∧
    (Path.IsPlacedBelow s.globalMounts name (Path.join s.globalMounts name) ↔
      (Path.isAbsolute name = true → Path.parts s.globalMounts = []) ∧ Path.LeadsDown name) :=
  ⟨fun _ _ => binding_mem_asked_iff hname, Path.isPlacedBelow_join_iff habsolute⟩

def obliging : Station :=
  .fresh [] (.script [⟨⟨some 0, "", ""⟩, []⟩, ⟨⟨some 0, "", ""⟩, []⟩])

def named (name : String) : Options :=
  { pvOrVolumeName := some name }

theorem bind_source_named :
    let s : Setup := { helper := some "sudo", globalMounts := "/global/mounts" }
    Path.isAbsolute s.globalMounts = true ∧ (named " a/./b\n").volumeName = some "a/./b" ∧
      .run (binding s "/global/mounts/a/./b" "/pods/a") ∈
        (bound Station.answer s "/pods/a" (named " a/./b\n") obliging).asked ∧
      Path.IsPlacedBelow "/global/mounts" "a/./b" "/global/mounts/a/./b" := by
  intro s
  have habsolute : Path.isAbsolute s.globalMounts = true := by decide
  have hname : (named " a/./b\n").volumeName = some "a/./b" := by decide +kernel
  have hjoin : Path.join s.globalMounts "a/./b" = "/global/mounts/a/./b" := by decide +kernel
  obtain ⟨hbound, hplaced⟩ := bind_source_isPlacedBelow_iff Station.answer s "/pods/a"
    (named " a/./b\n") obliging habsolute hname
  rw [hjoin] at hbound hplaced
  refine ⟨habsolute, hname, (hbound _ _).mpr ⟨⟨_, rfl, rfl⟩, rfl, rfl⟩, hplaced.mpr ⟨?_, ?_⟩⟩
  · decide
  · decide +kernel

/-- An absolute name is bound in place of the path below the directory. -/
theorem not_bindsBelow : ¬BindsBelow := by
  intro hbelow
  let s : Setup := { globalMounts := "/global/mounts" }
  have hname : (named "/etc/kubernetes").volumeName = some "/etc/kubernetes" := by decide +kernel
  have hbound : .run (binding s "/etc/kubernetes" "/pods/a") ∈
      (bound Station.answer s "/pods/a" (named "/etc/kubernetes") obliging).asked := by
    decide +kernel
  have hplaced := hbelow Station Station.answer s "/pods/a" (named "/etc/kubernetes") obliging
    "/etc/kubernetes" (by decide) hname _ _ hbound
  have hbehind := hplaced.behind
  revert hbehind
  decide +kernel

end Mount

end NodeVolumes
