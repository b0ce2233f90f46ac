import NodeVolumes.Proofs.Host.Station
import NodeVolumes.Proofs.Mount.Run

/-!
# Releasing disks

How the release of the disks behind a device goes on any host (`Released`).  For a device of the
multipath mapper there is an order to it: the map is listed, its parent looked for, its slaves are
listed, the map is flushed, and only then the slaves are deleted, one after the other.
-/

namespace NodeVolumes.Mount

open Host

def Succeeded (reply : Except Command.SpawnFailure Command.Output) : Prop :=
  ∃ output : Command.Output, reply = .ok output ∧ output.isSuccess = true

theorem printed_eq_ok_iff {c : Command} {reply : Except Command.SpawnFailure Command.Output}
    {text : String} :
    printed c reply = .ok text ↔
      ∃ output : Command.Output, reply = .ok output ∧ output.isSuccess = true ∧
        output.stdout = text := by
  cases reply with
  | error failure => simp [printed]
  | ok output =>
      cases hsuccess : output.isSuccess <;> simp [printed, Command.check, hsuccess]

theorem succeeded_iff_exists_printed {c : Command}
    {reply : Except Command.SpawnFailure Command.Output} :
    Succeeded reply ↔ ∃ text, printed c reply = .ok text := by
  simp only [Succeeded, printed_eq_ok_iff]
  constructor
  · rintro ⟨output, hreply, hsuccess⟩
    exact ⟨_, output, hreply, hsuccess, rfl⟩
  · rintro ⟨-, output, hreply, hsuccess, -⟩
    exact ⟨output, hreply, hsuccess⟩

theorem not_succeeded_of_printed {c : Command}
    {reply : Except Command.SpawnFailure Command.Output} {e : Error}
    (h : printed c reply = .error e) : ¬Succeeded reply := by
  rw [succeeded_iff_exists_printed (c := c), h]
  rintro ⟨text, htext⟩
  cases htext

def mapListing (s : Setup) (device : String) : Command :=
  issued s multipath ["-l", device]

def flushing (s : Setup) (device : String) : Command :=
  issued s multipath ["-f", (Path.fileName device).getD device]

def deletion (s : Setup) (name : String) : Host.Request :=
  .write s.layout.sysfsRoot (Disk.deleteAttribute name) Disk.deleteNow

/-- The device-mapper device that a listing of the map reports. -/
def reported (device : String) (reply : Except Command.SpawnFailure Command.Output) :
    Option String :=
  match printed (.ofTexts multipath ["-l", device]) reply with
  | .error _ => none
  | .ok text => (mapperOfListing device text).toOption

theorem reported_of_printed_error {device : String}
    {reply : Except Command.SpawnFailure Command.Output} {e : Error}
    (h : printed (.ofTexts multipath ["-l", device]) reply = .error e) :
    reported device reply = none := by
  rw [reported, h]

theorem reported_of_printed {device text : String}
    {reply : Except Command.SpawnFailure Command.Output}
    (h : printed (.ofTexts multipath ["-l", device]) reply = .ok text) :
    reported device reply = (mapperOfListing device text).toOption := by
  rw [reported, h]

def listedNames (reply : Except File.IoError (List String)) : List String :=
  reply.toOption.getD []

/-- What is asked until the slaves of a map are known. -/
def preparing (s : Setup) (device mapper : String)
    (reply : Except Command.SpawnFailure Command.Output)
    (slaves : Except File.IoError (List String)) : List (Exchange interface) :=
  [ran (mapListing s device) reply,
    ⟨.pathExists (Path.join s.layout.devRoot mapper), true⟩,
    ⟨.names s.layout.sysfsRoot (Disk.slaveDirectory mapper), slaves⟩]

/-- How the disks behind a device are released. -/
inductive Released (s : Setup) (device : String) : List (Exchange interface) → Prop where
  | foreign (hdev : Text.contains device "/dev" = false) : Released s device []
  | plain {deletes : List (Exchange interface)} (hdev : Text.contains device "/dev" = true)
      (hplain : isMultipath device = false)
      (hdeletes : deletes.map Sigma.fst = (Path.fileName device).toList.map (deletion s)) :
      Released s device deletes
  | unreported {reply : Except Command.SpawnFailure Command.Output}
      (hmulti : isMultipath device = true) (hreported : reported device reply = none) :
      Released s device [ran (mapListing s device) reply]
  | parentless {reply : Except Command.SpawnFailure Command.Output} {mapper : String}
      (hmulti : isMultipath device = true) (hreported : reported device reply = some mapper) :
      Released s device
        [ran (mapListing s device) reply, ⟨.pathExists (Path.join s.layout.devRoot mapper), false⟩]
  | unflushed {reply flush : Except Command.SpawnFailure Command.Output} {mapper : String}
      {slaves : Except File.IoError (List String)}
      (hmulti : isMultipath device = true) (hreported : reported device reply = some mapper)
      (hflush : ¬Succeeded flush) :
      Released s device (preparing s device mapper reply slaves ++ [ran (flushing s device) flush])
  | flushed {reply flush : Except Command.SpawnFailure Command.Output} {mapper : String}
      {slaves : Except File.IoError (List String)} {deletes : List (Exchange interface)}
      (hmulti : isMultipath device = true) (hreported : reported device reply = some mapper)
      (hflush : Succeeded flush)
      (hdeletes : deletes.map Sigma.fst = ((listedNames slaves).filterMap fun slave =>
        Path.fileName (Path.join s.layout.devRoot slave)).map (deletion s)) :
      Released s device
        (preparing s device mapper reply slaves ++ ran (flushing s device) flush :: deletes)

/-! ## The steps -/

/-- The block devices behind a device whose map has been listed. -/
def mappedDevices (s : Setup) (device listing : String) : Action Error BlockDevices := do
  let mapper ← mapperOfListing device listing
  let parent := Path.join s.layout.devRoot mapper
  if ← ExceptT.lift (ask (.pathExists parent)) then
    let slaves ← ExceptT.lift (Disk.slavesOf s.layout.sysfsRoot mapper)
    return { parent := some parent, devices := slaves.map (Path.join s.layout.devRoot) }
  else
    throw (.missingParent parent)

theorem blockDevices_of_foreign {s : Setup} {device : String}
    (h : Text.contains device "/dev" = false) :
    blockDevices s device = throw (.invalidDevice device) := by
  simp [blockDevices, h]

theorem blockDevices_of_plain {s : Setup} {device : String}
    (hdev : Text.contains device "/dev" = true) (h : isMultipath device = false) :
    blockDevices s device = pure { devices := [device] } := by
  simp [blockDevices, hdev, h]

theorem contains_of_isMultipath {device : String} (h : isMultipath device = true) :
    Text.contains device "/dev" = true := by
  rw [isMultipath, Text.startsWith, Text.hasStart_iff] at h
  rw [Text.contains, Text.occursIn_iff]
  have hdev : "/dev".toList <+: "/dev/mapper/mpath".toList := by decide
  exact (hdev.trans h).isInfix

theorem blockDevices_of_multipath {s : Setup} {device : String} (h : isMultipath device = true) :
    blockDevices s device = run s multipath ["-l", device] >>= mappedDevices s device := by
  simp [blockDevices, contains_of_isMultipath h, h]
  rfl

/-- Releases the disks behind a device that are known. -/
def releaseBlocks (s : Setup) (device : String) (block : BlockDevices) : Action Error Unit := do
  if block.parent.isSome then
    let _ ← run s multipath ["-f", (Path.fileName device).getD device]
  ExceptT.lift (deleteAll s.layout.sysfsRoot (block.devices.filterMap Path.fileName))

theorem release_eq (s : Setup) (device : String) :
    release s device = blockDevices s device >>= releaseBlocks s device :=
  rfl

section Play

variable {σ : Type} {answer : (r : Host.Request) → StateM σ r.Answer} {host : σ} {s : Setup}
  {device : String}

/-- Every disk is deleted, whatever becomes of the others. -/
theorem asked_deleteAll (names : List String) :
    ((deleteAll s.layout.sysfsRoot names).play answer host).asked = names.map (deletion s) := by
  induction names generalizing host with
  | nil => rfl
  | cons name rest ih =>
      have hdelete : deleteAll s.layout.sysfsRoot (name :: rest) =
          .ask (deletion s name) fun _ => deleteAll s.layout.sysfsRoot rest := rfl
      rw [hdelete, Flow.play_ask, Run.asked_after, ih]
      rfl

theorem play_mappedDevices_of_error {listing : String} {e : Error}
    {f : BlockDevices → Action Error Unit} (h : mapperOfListing device listing = .error e) :
    (mappedDevices s device listing >>= f).run.play answer host = ⟨.error e, host, []⟩ := by
  unfold mappedDevices
  rw [h]
  rfl

/-- Once the map is listed, its parent is looked for, and then its slaves are listed. -/
theorem run_mappedDevices_bind {listing mapper : String} {f : BlockDevices → Action Error Unit}
    (h : mapperOfListing device listing = .ok mapper) :
    (mappedDevices s device listing >>= f).run =
      .ask (I := interface) (.pathExists (Path.join s.layout.devRoot mapper)) fun present =>
        if present then
          .ask (I := interface) (.names s.layout.sysfsRoot (Disk.slaveDirectory mapper))
            fun slaves => (f
              { parent := some (Path.join s.layout.devRoot mapper)
                devices := (listedNames slaves).map (Path.join s.layout.devRoot) }).run
        else .done (.error (.missingParent (Path.join s.layout.devRoot mapper))) := by
  unfold mappedDevices
  rw [h]
  refine congrArg (Flow.ask (I := interface) _) (funext fun present => ?_)
  cases present with
  | false => rfl
  | true =>
      refine congrArg (Flow.ask (I := interface) _) (funext fun slaves => ?_)
      cases slaves <;> rfl

theorem asked_releaseBlocks_of_none {devices : List String} :
    ((releaseBlocks s device { parent := none, devices }).run.play answer host).asked =
      (devices.filterMap Path.fileName).map (deletion s) := by
  have hlift : (releaseBlocks s device { parent := none, devices } : Action Error Unit) =
      ExceptT.lift (deleteAll s.layout.sysfsRoot (devices.filterMap Path.fileName)) := rfl
  rw [hlift, Flow.play_lift]
  exact asked_deleteAll _

/-- A map is flushed before anything behind it is deleted. -/
theorem dialogue_releaseBlocks_of_some {parent : String} {devices : List String} :
    ∃ flush deletes,
      ((releaseBlocks s device { parent := some parent, devices }).run.play answer
        host).dialogue = ran (flushing s device) flush :: deletes ∧
      (¬Succeeded flush ∧ deletes = [] ∨ Succeeded flush ∧
        deletes.map Sigma.fst = (devices.filterMap Path.fileName).map (deletion s)) := by
  have hbind : (releaseBlocks s device { parent := some parent, devices } : Action Error Unit) =
      run s multipath ["-f", (Path.fileName device).getD device] >>= fun _ =>
        ExceptT.lift (deleteAll s.layout.sysfsRoot (devices.filterMap Path.fileName)) := rfl
  rw [hbind]
  refine ⟨(answer (.run (flushing s device)) host).1, ?_⟩
  cases hprinted : printed (.ofTexts multipath ["-f", (Path.fileName device).getD device])
      (answer (.run (flushing s device)) host).1 with
  | error e =>
      rw [play_run_bind_of_error hprinted]
      exact ⟨[], rfl, .inl ⟨not_succeeded_of_printed hprinted, rfl⟩⟩
  | ok text =>
      rw [play_run_bind_of_printed hprinted, Flow.play_lift]
      exact ⟨_, rfl, .inr ⟨succeeded_iff_exists_printed.mpr ⟨text, hprinted⟩, asked_deleteAll _⟩⟩

theorem released_of_reported {reply : Except Command.SpawnFailure Command.Output}
    {listing mapper : String} (hmulti : isMultipath device = true)
    (hmapper : mapperOfListing device listing = .ok mapper)
    (hreported : reported device reply = some mapper) :
    Released s device (ran (mapListing s device) reply ::
      ((mappedDevices s device listing >>= releaseBlocks s device).run.play answer
        host).dialogue) := by
  rw [run_mappedDevices_bind hmapper, Flow.play_ask, Run.dialogue_after]
  cases (answer (.pathExists (Path.join s.layout.devRoot mapper)) host).1 with
  | false => exact .parentless hmulti hreported
  | true =>
      rw [if_pos rfl, Flow.play_ask, Run.dialogue_after]
      -- what the slaves are deleted by is this listing, whatever the flush does to the tree
      generalize (answer (.names s.layout.sysfsRoot (Disk.slaveDirectory mapper)) _).1 = slaves
      obtain ⟨flush, deletes, hdialogue, ⟨hfailed, rfl⟩ | ⟨hflushed, hdeletes⟩⟩ :=
        dialogue_releaseBlocks_of_some
      · rw [hdialogue]
        exact .unflushed hmulti hreported hfailed
      · rw [hdialogue]
        rw [List.filterMap_map] at hdeletes
        exact .flushed hmulti hreported hflushed hdeletes

/-- The release of the disks behind a device goes as told on any host. -/
theorem released_play (answer : (r : Host.Request) → StateM σ r.Answer) (s : Setup)
    (device : String) (host : σ) :
    Released s device ((release s device).run.play answer host).dialogue := by
  rw [release_eq]
  cases hdev : Text.contains device "/dev" with
  | false =>
      rw [blockDevices_of_foreign hdev]
      exact .foreign hdev
  | true =>
      cases hmulti : isMultipath device with
      | false =>
          rw [blockDevices_of_plain hdev hmulti, pure_bind]
          refine .plain hdev hmulti (asked_releaseBlocks_of_none.trans ?_)
          cases hname : Path.fileName device <;> simp [hname]
      | true =>
          rw [blockDevices_of_multipath hmulti, bind_assoc]
          cases hprinted : printed (.ofTexts multipath ["-l", device])
              (answer (.run (mapListing s device)) host).1 with
          | error e =>
              rw [play_run_bind_of_error hprinted]
              exact .unreported hmulti (reported_of_printed_error hprinted)
          | ok text =>
              have hreported := reported_of_printed hprinted
              rw [play_run_bind_of_printed hprinted]
              cases hmapper : mapperOfListing device text with
              | error e =>
                  rw [hmapper] at hreported
                  rw [play_mappedDevices_of_error hmapper]
                  exact .unreported hmulti hreported
              | ok mapper =>
                  rw [hmapper] at hreported
                  exact released_of_reported hmulti hmapper hreported

end Play

/-! ## What is asked -/

theorem flushing_ne_mapListing (s : Setup) (device device' : String) :
    flushing s device ≠ mapListing s device' := by
  intro h
  have hcommand := Command.behind_injective s.helper h
  simp [Command.ofTexts] at hcommand

/-- The disks of a device are left alone, or its map is flushed first, and then exactly the slaves
that were listed before are deleted if that succeeded, and none otherwise. -/
def FlushesFirst (s : Setup) (device : String) (after : List (Exchange interface)) : Prop :=
  (∀ x ∈ after, x.1.writes = false ∧ x.1 ≠ .run (flushing s device)) ∨
    ∃ reply mapper slaves flush deletes, reported device reply = some mapper ∧
      after = preparing s device mapper reply slaves ++ ran (flushing s device) flush :: deletes ∧
      (¬Succeeded flush → deletes = []) ∧
      (Succeeded flush → deletes.map Sigma.fst = (listedNames slaves).map (deletion s))

theorem filterMap_fileName_join {names : List String} (root : String)
    (h : ∀ name ∈ names, Path.IsName name) :
    (names.filterMap fun name => Path.fileName (Path.join root name)) = names := by
  induction names with
  | nil => rfl
  | cons name rest ih =>
      have hname : Path.fileName (Path.join root name) = some name :=
        Path.fileName_join (h name List.mem_cons_self)
      have hrest := ih fun other hother => h other (List.mem_cons_of_mem name hother)
      simp [hname, hrest]

namespace Released

variable {s : Setup} {device : String} {after : List (Exchange interface)}

/-- Where only file names are listed, it is the slaves themselves that are deleted. -/
theorem flushesFirst (h : Released s device after) (hmulti : isMultipath device = true)
    (hnames : ∀ x ∈ after, ListsNames x) : FlushesFirst s device after := by
  have hne : ∀ device', Request.run (mapListing s device') ≠ .run (flushing s device) :=
    fun device' h => flushing_ne_mapListing s device device' (Request.run.inj h).symm
  cases h with
  | foreign hdev =>
      rw [contains_of_isMultipath hmulti] at hdev
      cases hdev
  | plain hdev hplain hdeletes =>
      rw [hmulti] at hplain
      cases hplain
  | unreported _ hreported =>
      left
      simp [Host.Request.writes, hne]
  | parentless _ hreported =>
      left
      simp [Host.Request.writes, hne]
  | unflushed _ hreported hflush =>
      exact .inr ⟨_, _, _, _, [], hreported, rfl, fun _ => rfl, fun h => absurd h hflush⟩
  | @flushed reply flush mapper slaves deletes _ hreported hflush hdeletes =>
      refine .inr ⟨_, _, _, _, _, hreported, rfl, fun h => absurd hflush h, fun _ => ?_⟩
      have hlisted : ∀ name ∈ listedNames slaves, Path.IsName name := by
        cases slaves with
        | error e => simp [listedNames, Except.toOption]
        | ok names =>
            exact hnames ⟨.names s.layout.sysfsRoot (Disk.slaveDirectory mapper), .ok names⟩
              (by simp [preparing])
      rw [hdeletes, filterMap_fileName_join _ hlisted]

end Released

end NodeVolumes.Mount
