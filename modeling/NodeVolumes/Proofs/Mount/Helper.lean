import NodeVolumes.Proofs.Disk.Discovery
import NodeVolumes.Proofs.Host.Elevation
import NodeVolumes.Proofs.Mount.Release

/-!
# The privilege helper

A helper in front of every command is not seen in what operations come to.  Each operation behind
a helper is the operation without one, elevated (`Task.elevate_serve`), so a series of them comes
to the same results, files and waits, and issues the same commands, each as arguments of the
helper (`helper_transparent`).
-/

namespace NodeVolumes

open Host
open Kubelet (Options)

/-! ## Discovery behind a helper -/

namespace Disk

variable (helper : String)

theorem elevated_replayEvents (expected : String) :
    elevated helper (replayEvents none expected) = replayEvents (some helper) expected := by
  unfold replayEvents
  refine elevated_bind_eq helper (elevated_runChecked helper _) fun _ => ?_
  refine elevated_bind_eq helper (elevated_lift_eq helper rfl) fun present => ?_
  exact elevated_bind_eq helper (elevated_runChecked helper _) fun _ => rfl

theorem elevate_rescan (root : String) : elevate helper (rescan root) = rescan root := by
  obtain ⟨rest, hrescan, hquiet⟩ := rescan_eq root
  refine elevate_eq_self helper ?_
  rw [hrescan]
  exact ⟨rfl, fun _ => hquiet.mono fun r hr => hr.2⟩

theorem elevated_describe (layout : Layout) (expected : String) (isLink : Bool) :
    elevated helper (describe layout expected isLink) = describe layout expected isLink :=
  congrArg ExceptT.mk (elevate_eq_self helper
    ((describe_onlyLooks layout expected isLink).mono fun _ => Request.command?_of_looks))

theorem elevated_poll (policy : Policy) (layout : Layout) (expected directory name : String)
    (left : Nat) :
    elevated helper (poll none policy layout expected directory name left) =
      poll (some helper) policy layout expected directory name left := by
  induction left with
  | zero => rfl
  | succ left ih =>
      have hreplay := congrArg ExceptT.run (elevated_replayEvents helper expected)
      unfold poll
      refine elevated_bind_eq helper (elevated_lift_eq helper rfl) fun _ => ?_
      refine elevated_bind_eq helper (elevated_lift_eq helper (elevate_rescan helper _)) fun _ => ?_
      refine elevated_bind_eq helper (elevated_lift_eq helper hreplay) fun _ => ?_
      refine elevated_bind_eq helper (elevated_lift_eq helper rfl) fun looked => ?_
      cases looked with
      | error e => exact ih
      | ok isLink => exact elevated_describe helper layout expected isLink

theorem elevated_waitFor (policy : Policy) (layout : Layout) (expected : String) :
    elevated helper (waitFor none policy layout expected) =
      waitFor (some helper) policy layout expected := by
  unfold waitFor
  cases Path.fileName expected with
  | none => rfl
  | some name => exact elevated_poll helper policy layout expected _ name policy.attempts

end Disk

namespace Mount

def Setup.behind (s : Setup) (helper : Option String) : Setup :=
  { s with helper }

/-! ## Operations behind a helper -/

section Operations

variable (helper : String) (s : Setup)

theorem elevated_run (program : String) (args : List String) :
    elevated helper (run (s.behind none) program args) =
      run (s.behind (some helper)) program args := by
  unfold run
  rw [elevated_bind, elevated_adapt]
  exact congrArg (fun action => ExceptT.adapt Error.command action >>= _)
    (elevated_runChecked helper _)

theorem elevated_run_bind {α : Type} (program : String) (args : List String)
    {f g : String → Action Error α} (h : ∀ text, elevated helper (f text) = g text) :
    elevated helper (run (s.behind none) program args >>= f) =
      run (s.behind (some helper)) program args >>= g :=
  elevated_bind_eq helper (elevated_run helper s program args) h

theorem elevated_hasFileSystem (device : String) :
    elevated helper (hasFileSystem (s.behind none) device) =
      hasFileSystem (s.behind (some helper)) device :=
  elevated_run_bind helper s _ _ fun _ => rfl

theorem elevated_format (device fsType : String) :
    elevated helper (format (s.behind none) device fsType) =
      format (s.behind (some helper)) device fsType := by
  unfold format
  refine elevated_bind_eq helper (elevated_hasFileSystem helper s device) fun known => ?_
  cases known with
  | true => rfl
  | false => exact elevated_run_bind helper s _ _ fun _ => rfl

theorem elevated_mountDevice (path device : String) (options : Options) :
    elevated helper (mountDevice (s.behind none) path device options) =
      mountDevice (s.behind (some helper)) path device options := by
  unfold mountDevice
  refine elevated_bind_eq helper (elevated_format helper s device _) fun _ => ?_
  refine elevated_run_bind helper s _ _ fun _ => ?_
  exact elevated_run_bind helper s _ _ fun _ => rfl

theorem elevated_bindMount (directory : String) (options : Options) :
    elevated helper (Mount.bind (s.behind none) directory options) =
      Mount.bind (s.behind (some helper)) directory options := by
  unfold Mount.bind
  cases options.volumeName with
  | none => rfl
  | some name =>
      refine elevated_run_bind helper s _ _ fun _ => ?_
      exact elevated_run_bind helper s _ _ fun _ => rfl

theorem elevated_unmount (directory : String) :
    elevated helper (unmount (s.behind none) directory) =
      unmount (s.behind (some helper)) directory :=
  elevated_run_bind helper s _ _ fun _ => rfl

theorem elevated_deviceOfMount (path : String) :
    elevated helper (deviceOfMount (s.behind none) path) =
      deviceOfMount (s.behind (some helper)) path := by
  refine elevated_run_bind helper s _ _ fun table => ?_
  cases deviceAt path table <;> rfl

theorem elevated_mappedDevices (device listing : String) :
    elevated helper (mappedDevices (s.behind none) device listing) =
      mappedDevices (s.behind (some helper)) device listing := by
  unfold mappedDevices
  cases mapperOfListing device listing with
  | error e => rfl
  | ok mapper =>
      refine congrArg ExceptT.mk (elevate_eq_self helper ?_)
      refine ⟨rfl, fun present => ?_⟩
      cases present with
      | false => trivial
      | true =>
          refine ⟨rfl, fun slaves => ?_⟩
          cases slaves <;> trivial

theorem elevated_blockDevices (device : String) :
    elevated helper (blockDevices (s.behind none) device) =
      blockDevices (s.behind (some helper)) device := by
  cases hdev : Text.contains device "/dev" with
  | false =>
      rw [blockDevices_of_foreign hdev, blockDevices_of_foreign hdev]
      rfl
  | true =>
      cases hmulti : isMultipath device with
      | false =>
          rw [blockDevices_of_plain hdev hmulti, blockDevices_of_plain hdev hmulti]
          rfl
      | true =>
          rw [blockDevices_of_multipath hmulti, blockDevices_of_multipath hmulti]
          exact elevated_run_bind helper s _ _ (elevated_mappedDevices helper s device)

theorem elevate_deleteAll (root : String) (names : List String) :
    elevate helper (deleteAll root names) = deleteAll root names := by
  induction names with
  | nil => rfl
  | cons name rest ih =>
      have hdelete : deleteAll root (name :: rest) =
          .ask (.write root (Disk.deleteAttribute name) Disk.deleteNow) fun _ =>
            deleteAll root rest := rfl
      rw [hdelete, elevate_ask helper rfl, ih]

theorem elevated_releaseBlocks (device : String) (block : BlockDevices) :
    elevated helper (releaseBlocks (s.behind none) device block) =
      releaseBlocks (s.behind (some helper)) device block := by
  have hdelete : elevated helper (ExceptT.lift
      (deleteAll s.layout.sysfsRoot (block.devices.filterMap Path.fileName)) : Action Error Unit) =
      ExceptT.lift (deleteAll s.layout.sysfsRoot (block.devices.filterMap Path.fileName)) :=
    elevated_lift_eq helper (elevate_deleteAll helper _ _)
  unfold releaseBlocks
  cases block.parent with
  | none => exact hdelete
  | some parent => exact elevated_run_bind helper s _ _ fun _ => hdelete

theorem elevated_release (device : String) :
    elevated helper (release (s.behind none) device) =
      release (s.behind (some helper)) device := by
  rw [release_eq, release_eq]
  exact elevated_bind_eq helper (elevated_blockDevices helper s device)
    (elevated_releaseBlocks helper s device)

theorem elevate_deviceToRelease (path : String) :
    elevate helper (deviceToRelease (s.behind none) path) =
      deviceToRelease (s.behind (some helper)) path := by
  unfold deviceToRelease
  cases hreleases : s.releasesDisks with
  | false => simp [Setup.behind, hreleases]; rfl
  | true =>
      have hrun := congrArg ExceptT.run (elevated_deviceOfMount helper s path)
      simp only [Setup.behind, hreleases, if_true] at hrun ⊢
      rw [elevate_bind]
      exact congrArg (· >>= _) hrun

theorem elevated_unmountDevice (path : String) :
    elevated helper (unmountDevice (s.behind none) path) =
      unmountDevice (s.behind (some helper)) path := by
  unfold unmountDevice
  have hdevice := elevate_deviceToRelease helper s path
  refine elevated_bind_eq helper (elevated_lift_eq helper hdevice) fun device => ?_
  refine elevated_run_bind helper s _ _ fun _ => ?_
  cases device with
  | none => rfl
  | some device =>
      have hrelease := congrArg ExceptT.run (elevated_release helper s device)
      exact elevated_bind_eq helper (elevated_lift_eq helper hrelease) fun _ => rfl

end Operations

/-! ## Failures that name their commands -/

/-- A failure of the action is that of a command it ran, under its own name. -/
def NamesFailures {α : Type} (action : Action Error α) : Prop :=
  ∀ (host : Station) (e : Command.Error),
    (action.run.play Station.answer host).value = .error (.command e) →
      ∃ c reply, ran c reply ∈ (action.run.play Station.answer host).dialogue ∧
        checked c reply = .error e

theorem checked_of_printed {c : Command} {reply : Except Command.SpawnFailure Command.Output}
    {e : Command.Error} (h : printed c reply = .error (.command e)) :
    checked c reply = .error e := by
  cases reply with
  | error failure =>
      cases h
      rfl
  | ok output =>
      simp only [printed] at h
      change c.check output = .error e
      cases hcheck : c.check output with
      | error e' =>
          rw [hcheck] at h
          cases h
          rfl
      | ok output' =>
          rw [hcheck] at h
          cases h

namespace NamesFailures

variable {α β : Type}

theorem of_ne_command {action : Action Error α}
    (h : ∀ (host : Station) (e : Command.Error),
      (action.run.play Station.answer host).value ≠ .error (.command e)) :
    NamesFailures action :=
  fun host e he => absurd he (h host e)

theorem pure (a : α) : NamesFailures (Pure.pure a : Action Error α) :=
  of_ne_command fun _ _ h => by cases h

theorem of_except {result : Except Error α} (h : ∀ e, result ≠ .error (.command e)) :
    NamesFailures (liftM result : Action Error α) :=
  of_ne_command fun _ e he => h e he

theorem lift (program : Program α) : NamesFailures (ExceptT.lift program : Action Error α) :=
  of_ne_command fun host e h => by
    rw [Flow.play_lift] at h
    cases h

theorem bind {action : Action Error α} {f : α → Action Error β} (first : NamesFailures action)
    (rest : ∀ a, NamesFailures (f a)) : NamesFailures (action >>= f) := by
  intro host e he
  cases hplay : action.run.play Station.answer host with
  | mk value final dialogue =>
      cases value with
      | error e' =>
          rw [Flow.play_bind_error (I := interface) Station.answer hplay] at he ⊢
          have hnamed := first host e
          rw [hplay] at hnamed
          cases he
          exact hnamed rfl
      | ok a =>
          rw [Flow.play_bind_ok (I := interface) Station.answer hplay] at he ⊢
          obtain ⟨c, reply, hran, hfailed⟩ := rest a final e he
          exact ⟨c, reply, List.mem_append_right dialogue hran, hfailed⟩

theorem run (s : Setup) (program : String) (args : List String) :
    NamesFailures (Mount.run (s.behind none) program args) := by
  intro host e he
  rw [run_run] at he ⊢
  refine ⟨.ofTexts program args, _, List.mem_singleton.mpr rfl, ?_⟩
  exact checked_of_printed he

theorem run_bind {s : Setup} {program : String} {args : List String} {f : String → Action Error α}
    (rest : ∀ text, NamesFailures (f text)) :
    NamesFailures (Mount.run (s.behind none) program args >>= f) :=
  (run s program args).bind rest

theorem format (s : Setup) (device fsType : String) :
    NamesFailures (Mount.format (s.behind none) device fsType) := by
  refine bind (run_bind fun _ => pure _) fun known => ?_
  cases known with
  | true => exact pure _
  | false => exact run_bind fun _ => pure _

theorem mountDevice (s : Setup) (path device : String) (options : Options) :
    NamesFailures (Mount.mountDevice (s.behind none) path device options) :=
  (format s device options.fileSystem).bind fun _ => run_bind fun _ => run_bind fun _ => pure _

theorem bindMount (s : Setup) (directory : String) (options : Options) :
    NamesFailures (Mount.bind (s.behind none) directory options) := by
  unfold Mount.bind
  cases options.volumeName with
  | none => exact of_ne_command fun _ _ h => by cases h
  | some name => exact run_bind fun _ => run_bind fun _ => pure _

theorem deviceOfMount (s : Setup) (path : String) :
    NamesFailures (Mount.deviceOfMount (s.behind none) path) := by
  refine run_bind fun table => of_except fun e h => ?_
  cases hdevice : deviceAt path table with
  | error e' =>
      rw [hdevice] at h
      cases h
  | ok device =>
      rw [hdevice] at h
      cases h

theorem mappedDevices (s : Setup) (device listing : String) :
    NamesFailures (Mount.mappedDevices s device listing) := by
  refine (of_except fun e h => ?_).bind fun mapper => (lift _).bind fun present => ?_
  · simp only [mapperOfListing] at h
    split at h
    · cases h
    · split at h
      · split at h <;> cases h
      · cases h
  · cases present with
    | false => exact of_ne_command fun _ _ h => by cases h
    | true => exact (lift _).bind fun _ => pure _

theorem blockDevices (s : Setup) (device : String) :
    NamesFailures (Mount.blockDevices (s.behind none) device) := by
  cases hdev : Text.contains device "/dev" with
  | false =>
      rw [blockDevices_of_foreign hdev]
      exact of_ne_command fun _ _ h => by cases h
  | true =>
      cases hmulti : isMultipath device with
      | false =>
          rw [blockDevices_of_plain hdev hmulti]
          exact pure _
      | true =>
          rw [blockDevices_of_multipath hmulti]
          exact run_bind fun listing => mappedDevices _ device listing

theorem unmountDevice (s : Setup) (path : String) :
    NamesFailures (Mount.unmountDevice (s.behind none) path) := by
  refine (lift _).bind fun device => run_bind fun _ => ?_
  cases device with
  | none => exact pure _
  | some device => exact (lift _).bind fun _ => pure _

theorem unmount (s : Setup) (directory : String) :
    NamesFailures (Mount.unmount (s.behind none) directory) :=
  run_bind fun _ => pure _

end NamesFailures

/-! ## Series of operations -/

/-- An operation on the host, of those that mount and of the one that waits for a disk, each with
what it needs but for the helper. -/
inductive Task where
  | mountDevice (setup : Setup) (path device : String) (options : Options)
  | bind (setup : Setup) (directory : String) (options : Options)
  | unmount (setup : Setup) (directory : String)
  | unmountDevice (setup : Setup) (path : String)
  | deviceOfMount (setup : Setup) (path : String)
  | blockDevices (setup : Setup) (device : String)
  | waitFor (policy : Disk.Policy) (layout : Disk.Layout) (expected : String)

/-- What an operation comes to. -/
inductive Outcome where
  | mounting (result : Except Error Unit)
  | device (result : Except Error String)
  | blocks (result : Except Error BlockDevices)
  | disk (result : Except Disk.DiscoveryError Disk.Descriptor)

def commandError? {α : Type} : Except Error α → Option Command.Error
  | .error (.command e) => some e
  | _ => none

theorem eq_of_commandError? {α : Type} {result : Except Error α} {e : Command.Error}
    (h : commandError? result = some e) : result = .error (.command e) := by
  unfold commandError? at h
  split at h
  · rw [Option.some.inj h]
  · cases h

def Outcome.commandError? : Outcome → Option Command.Error
  | .mounting result => Mount.commandError? result
  | .device result => Mount.commandError? result
  | .blocks result => Mount.commandError? result
  | .disk _ => none

/-- Serves an operation with its commands behind the helper, if there is one. -/
def Task.serve (helper : Option String) : Task → Program Outcome
  | .mountDevice s path device options => do
      return .mounting (← (Mount.mountDevice (s.behind helper) path device options).run)
  | .bind s directory options => do
      return .mounting (← (Mount.bind (s.behind helper) directory options).run)
  | .unmount s directory => do
      return .mounting (← (Mount.unmount (s.behind helper) directory).run)
  | .unmountDevice s path => do
      return .mounting (← (Mount.unmountDevice (s.behind helper) path).run)
  | .deviceOfMount s path => do
      return .device (← (Mount.deviceOfMount (s.behind helper) path).run)
  | .blockDevices s device => do
      return .blocks (← (Mount.blockDevices (s.behind helper) device).run)
  | .waitFor policy layout expected => do
      return .disk (← (Disk.waitFor helper policy layout expected).run)

/-- Serves operations one after the other, each whatever became of those before it. -/
def serveAll (helper : Option String) : List Task → Program (List Outcome)
  | [] => return []
  | task :: rest => do
      let outcome ← task.serve helper
      let others ← serveAll helper rest
      return outcome :: others

theorem Task.elevate_serve (helper : String) (task : Task) :
    elevate helper (task.serve none) = task.serve (some helper) := by
  have served {ε α : Type} {direct behind : Action ε α} (make : Except ε α → Outcome)
      (h : elevated helper direct = behind) :
      elevate helper (direct.run >>= fun result => Flow.done (make result)) =
        behind.run >>= fun result => Flow.done (make result) := by
    rw [elevate_bind, ← h]
    rfl
  cases task with
  | mountDevice s path device options =>
      exact served _ (elevated_mountDevice helper s path device options)
  | bind s directory options => exact served _ (elevated_bindMount helper s directory options)
  | unmount s directory => exact served _ (elevated_unmount helper s directory)
  | unmountDevice s path => exact served _ (elevated_unmountDevice helper s path)
  | deviceOfMount s path => exact served _ (elevated_deviceOfMount helper s path)
  | blockDevices s device => exact served _ (elevated_blockDevices helper s device)
  | waitFor policy layout expected =>
      exact served _ (Disk.elevated_waitFor helper policy layout expected)

theorem elevate_serveAll (helper : String) (tasks : List Task) :
    elevate helper (serveAll none tasks) = serveAll (some helper) tasks := by
  induction tasks with
  | nil => rfl
  | cons task rest ih =>
      unfold serveAll
      rw [elevate_bind, Task.elevate_serve]
      refine congrArg (_ >>= ·) (funext fun outcome => ?_)
      rw [elevate_bind, ih]
      rfl

theorem Task.exists_ran_of_commandError? (task : Task) (host : Station) {e : Command.Error}
    (h : ((task.serve none).play Station.answer host).value.commandError? = some e) :
    ∃ c reply, ran c reply ∈ ((task.serve none).play Station.answer host).dialogue ∧
      checked c reply = .error e := by
  have named {α : Type} {action : Action Error α} (make : Except Error α → Outcome)
      (hmake : ∀ result, (make result).commandError? = Mount.commandError? result)
      (hnames : NamesFailures action)
      (h : ((action.run >>= fun result => Flow.done (make result)).play Station.answer
        host).value.commandError? = some e) :
      ∃ c reply, ran c reply ∈ ((action.run >>= fun result => Flow.done (make result)).play
        Station.answer host).dialogue ∧ checked c reply = .error e := by
    rw [Flow.play_bind] at h ⊢
    obtain ⟨c, reply, hran, hfailed⟩ :=
      hnames host e (eq_of_commandError? ((hmake _).symm.trans h))
    exact ⟨c, reply, List.mem_append_left _ hran, hfailed⟩
  cases task with
  | mountDevice s path device options =>
      exact named _ (fun _ => rfl) (.mountDevice s path device options) h
  | bind s directory options => exact named _ (fun _ => rfl) (.bindMount s directory options) h
  | unmount s directory => exact named _ (fun _ => rfl) (.unmount s directory) h
  | unmountDevice s path => exact named _ (fun _ => rfl) (.unmountDevice s path) h
  | deviceOfMount s path => exact named _ (fun _ => rfl) (.deviceOfMount s path) h
  | blockDevices s device => exact named _ (fun _ => rfl) (.blockDevices s device) h
  | waitFor policy layout expected =>
      unfold Task.serve at h
      rw [Flow.play_bind] at h
      cases h

theorem exists_ran_of_mem_serveAll {tasks : List Task} {host : Station} {outcome : Outcome}
    {e : Command.Error}
    (hmem : outcome ∈ ((serveAll none tasks).play Station.answer host).value)
    (h : outcome.commandError? = some e) :
    ∃ c reply, ran c reply ∈ ((serveAll none tasks).play Station.answer host).dialogue ∧
      checked c reply = .error e := by
  induction tasks generalizing host with
  | nil => cases hmem
  | cons task rest ih =>
      unfold serveAll at hmem ⊢
      rw [Flow.play_bind, Flow.play_bind] at hmem ⊢
      rcases List.mem_cons.mp hmem with rfl | hmem
      · obtain ⟨c, reply, hran, hfailed⟩ := task.exists_ran_of_commandError? host h
        exact ⟨c, reply, List.mem_append_left _ hran, hfailed⟩
      · obtain ⟨c, reply, hran, hfailed⟩ := ih hmem
        exact ⟨c, reply, List.mem_append_right _ (List.mem_append_left _ hran), hfailed⟩

theorem mem_commandsOf {α : Type} {r : Run interface Station α} {c : Command}
    {reply : Except Command.SpawnFailure Command.Output} (h : ran c reply ∈ r.dialogue) :
    c ∈ commandsOf r :=
  List.mem_filterMap.mpr ⟨.run c, List.mem_map_of_mem h, rfl⟩

abbrev serving (helper : Option String) (tasks : List Task) (host : Station) :
    Run interface Station (List Outcome) :=
  (serveAll helper tasks).play Station.answer host

/-- While a script lasts, operations behind a helper come to what they come to without one, and
leave the host as they leave it without one.  Their commands are the same, each behind the helper,
and a command that failed is named without it. -/
theorem helper_transparent (setting : String) (tasks : List Task) (host : Station)
    (queue : List Canned) (hsetting : Text.trim setting ≠ "")
    (hscript : host.runner = .script queue)
    (hlasts : (commandsOf (serving none tasks host)).length ≤ queue.length ∨
      (commandsOf (serving (Command.helperOf setting) tasks host)).length ≤ queue.length) :
    let direct := serving none tasks host
    let behind := serving (Command.helperOf setting) tasks host
    behind.value = direct.value ∧
    behind.final = { direct.final with history := behind.final.history } ∧
    commandsOf behind =
      (commandsOf direct).map (fun c => ⟨Text.trim setting, .text c.program :: c.args⟩) ∧
    ∀ outcome ∈ behind.value, ∀ text status stderr,
      outcome.commandError? = some (.failed text status stderr) →
        ∃ c ∈ commandsOf direct, text = c.render := by
  intro direct behind
  have hhelper : Command.helperOf setting = some (Text.trim setting) := if_neg hsetting
  have hbehind : behind =
      (elevate (Text.trim setting) (serveAll none tasks)).play Station.answer host := by
    rw [elevate_serveAll, ← hhelper]
  have differs : DiffersByHelper (Text.trim setting) direct behind := by
    rw [hbehind]
    refine play_elevate (serveAll none tasks) hscript host.history ?_
    rw [elevate_serveAll, ← hhelper]
    exact hlasts
  obtain ⟨history, hfinal⟩ := differs.final
  refine ⟨differs.value, ?_, differs.commands, fun outcome hmem text status stderr h => ?_⟩
  · rw [hfinal]
    rfl
  · rw [differs.value] at hmem
    obtain ⟨c, reply, hran, hfailed⟩ := exists_ran_of_mem_serveAll hmem h
    refine ⟨c, mem_commandsOf hran, ?_⟩
    cases reply with
    | error failure => cases hfailed
    | ok output =>
        change c.check output = _ at hfailed
        unfold Command.check at hfailed
        split at hfailed
        · cases hfailed
        · cases hfailed
          rfl

/-- A mount point that cannot be made, behind `sudo`. -/
theorem helper_transparent_mkdir_fails :
    let tasks : List Task := [.mountDevice { globalMounts := "/mnt" } "/mnt/v" "/dev/sdb" {},
      .unmount { globalMounts := "/mnt" } "/mnt/v"]
    let queue : List Canned := [⟨⟨some 0, "ext4\n", ""⟩, []⟩, ⟨⟨some 1, "", "no space\n"⟩, []⟩,
      ⟨⟨some 0, "", ""⟩, []⟩]
    let host := Station.fresh [] (.script queue)
    let behind := serving (Command.helperOf " sudo ") tasks host
    Text.trim " sudo " ≠ "" ∧ (commandsOf (serving none tasks host)).length ≤ queue.length ∧
    behind.value = [.mounting (.error (.command (.failed "/bin/mkdir -p /mnt/v" (some 1)
      "no space"))), .mounting (.ok ())] ∧
    commandsOf behind = [.ofTexts "sudo" ["/bin/lsblk", "/dev/sdb", "--noheadings", "-o", "FSTYPE",
      "-f"], .ofTexts "sudo" ["/bin/mkdir", "-p", "/mnt/v"],
      .ofTexts "sudo" ["/bin/umount", "/mnt/v"]] := by
  intro tasks queue host behind
  have hsetting : Text.trim " sudo " ≠ "" := by decide
  have hlasts : (commandsOf (serving none tasks host)).length ≤ queue.length := by decide +kernel
  have hvalue : (serving none tasks host).value = [.mounting (.error (.command (.failed
      "/bin/mkdir -p /mnt/v" (some 1) "no space"))), .mounting (.ok ())] := by rfl
  have hcommands : (commandsOf (serving none tasks host)).map
      (fun c => (⟨Text.trim " sudo ", .text c.program :: c.args⟩ : Command)) =
      [.ofTexts "sudo" ["/bin/lsblk", "/dev/sdb", "--noheadings", "-o", "FSTYPE", "-f"],
        .ofTexts "sudo" ["/bin/mkdir", "-p", "/mnt/v"],
        .ofTexts "sudo" ["/bin/umount", "/mnt/v"]] := by decide +kernel
  have h := helper_transparent " sudo " tasks host queue hsetting rfl (.inl hlasts)
  exact ⟨hsetting, hlasts, h.1.trans hvalue, h.2.2.1.trans hcommands⟩

end Mount

end NodeVolumes
