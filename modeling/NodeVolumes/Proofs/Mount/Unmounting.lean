import NodeVolumes.Proofs.Mount.Release

/-!
# Unmounting devices

What is mounted at a path is looked up before it is unmounted, and its disks are released only after
the unmounting succeeded (`unmounting_course`).  Nothing but the unmounting decides how it ends, and
the disks of a multipath device are deleted only once its map is flushed (`unmountDevice_gated`).
-/

namespace NodeVolumes.Mount

open Host

def tableListing (s : Setup) : Command :=
  issued s mountTool []

def umounting (s : Setup) (path : String) : Command :=
  issued s umount [path]

/-- A table has exactly one line about a path, and that is a well-formed entry. -/
def MountedAlone (path table source : String) : Prop :=
  ∃ line fsType options, (Text.lines table).filter (isAbout path) = [line] ∧
    Text.words line = [source, "on", path, "type", fsType, options]

theorem deviceOfLine_eq_ok_iff {path line source : String} (h : isAbout path line = true) :
    deviceOfLine line = .ok source ↔
      ∃ fsType options, Text.words line = [source, "on", path, "type", fsType, options] := by
  have hpath : (Text.words line)[2]? = some path := eq_of_beq h
  unfold deviceOfLine
  split
  · rename_i device there fsType options hwords
    rw [hwords] at hpath ⊢
    cases hpath
    simp
  · rename_i hother
    simp only [reduceCtorEq, false_iff]
    rintro ⟨fsType, options, hwords⟩
    exact hother _ _ _ _ hwords

theorem deviceAt_eq_ok_iff {path table source : String} :
    deviceAt path table = .ok source ↔ MountedAlone path table source := by
  unfold deviceAt MountedAlone
  split
  · rename_i hnone
    simp [hnone]
  · rename_i line hline
    have habout : isAbout path line = true := by
      have hmem : line ∈ (Text.lines table).filter (isAbout path) := by
        rw [hline]
        exact List.mem_cons_self
      exact (List.mem_filter.mp hmem).2
    rw [deviceOfLine_eq_ok_iff habout]
    simp [hline]
  · rename_i hnone hone
    simp only [reduceCtorEq, false_iff]
    rintro ⟨line, fsType, options, hline, -⟩
    exact hone line hline

def mountedSource (path : String) (reply : Except Command.SpawnFailure Command.Output) :
    Option String :=
  match printed (.ofTexts mountTool []) reply with
  | .error _ => none
  | .ok table => (deviceAt path table).toOption

theorem mountedSource_of_printed_error {path : String}
    {reply : Except Command.SpawnFailure Command.Output} {e : Error}
    (h : printed (.ofTexts mountTool []) reply = .error e) : mountedSource path reply = none := by
  rw [mountedSource, h]

theorem mountedSource_of_printed {path table : String}
    {reply : Except Command.SpawnFailure Command.Output}
    (h : printed (.ofTexts mountTool []) reply = .ok table) :
    mountedSource path reply = (deviceAt path table).toOption := by
  rw [mountedSource, h]

theorem mountedSource_eq_some_iff {path source : String}
    {reply : Except Command.SpawnFailure Command.Output} :
    mountedSource path reply = some source ↔
      ∃ table : Command.Output, reply = .ok table ∧ table.isSuccess = true ∧
        MountedAlone path table.stdout source := by
  constructor
  · intro h
    cases hprinted : printed (.ofTexts mountTool []) reply with
    | error e =>
        rw [mountedSource_of_printed_error hprinted] at h
        cases h
    | ok text =>
        rw [mountedSource_of_printed hprinted] at h
        obtain ⟨table, hreply, hsuccess, rfl⟩ := printed_eq_ok_iff.mp hprinted
        refine ⟨table, hreply, hsuccess, deviceAt_eq_ok_iff.mp ?_⟩
        cases hdevice : deviceAt path table.stdout with
        | error e => simp [hdevice, Except.toOption] at h
        | ok device => simpa [hdevice, Except.toOption] using h
  · rintro ⟨table, rfl, hsuccess, halone⟩
    rw [mountedSource_of_printed (printed_of_isSuccess _ hsuccess),
      deviceAt_eq_ok_iff.mpr halone]
    rfl

/-- How the unmounting of a device goes: what is asked before, the reply, and what is asked
after. -/
inductive Unmounted (s : Setup) (path : String) :
    List (Exchange interface) → Except Command.SpawnFailure Command.Output →
      List (Exchange interface) → Prop where
  | plain {reply : Except Command.SpawnFailure Command.Output} (hkeeps : s.releasesDisks = false) :
      Unmounted s path [] reply []
  | failed {listed reply : Except Command.SpawnFailure Command.Output}
      (hreleases : s.releasesDisks = true) (hreply : ¬Succeeded reply) :
      Unmounted s path [ran (tableListing s) listed] reply []
  | unidentified {listed reply : Except Command.SpawnFailure Command.Output}
      (hreleases : s.releasesDisks = true) (hreply : Succeeded reply)
      (hsource : mountedSource path listed = none) :
      Unmounted s path [ran (tableListing s) listed] reply []
  | released {listed reply : Except Command.SpawnFailure Command.Output} {source : String}
      {after : List (Exchange interface)} (hreleases : s.releasesDisks = true)
      (hreply : Succeeded reply) (hsource : mountedSource path listed = some source)
      (hafter : Released s source after) :
      Unmounted s path [ran (tableListing s) listed] reply after

section Run

variable {σ : Type} (answer : (r : Host.Request) → StateM σ r.Answer)

def unmounting (s : Setup) (path : String) (host : σ) : Run interface σ (Except Error Unit) :=
  (unmountDevice s path).run.play answer host

variable {answer} {s : Setup} {path : String} {host : σ}

/-- Unmounts a path, and then releases the disks behind a device that was found there. -/
def unmountThen (s : Setup) (path : String) (device : Option String) : Action Error Unit :=
  run s umount [path] >>= fun _ =>
    match device with
    | none => return ()
    | some device => do
        let _ ← ExceptT.lift (release s device).run
        return ()

theorem unmountDevice_eq (s : Setup) (path : String) :
    unmountDevice s path = ExceptT.lift (deviceToRelease s path) >>= unmountThen s path :=
  rfl

theorem play_deviceToRelease (hreleases : s.releasesDisks = true) :
    (deviceToRelease s path).play answer host =
      ⟨mountedSource path (answer (.run (tableListing s)) host).1,
        (answer (.run (tableListing s)) host).2,
        [ran (tableListing s) (answer (.run (tableListing s)) host).1]⟩ := by
  have hbind : deviceToRelease s path =
      (run s mountTool [] >>= fun table =>
        liftM ((deviceAt path table).mapError Error.table) : Action Error String).run >>=
          fun device => pure device.toOption := by
    simp [deviceToRelease, deviceOfMount, hreleases]
  rw [hbind, Flow.play_bind]
  cases hprinted : printed (.ofTexts mountTool []) (answer (.run (tableListing s)) host).1 with
  | error e =>
      rw [play_run_bind_of_error hprinted, mountedSource_of_printed_error hprinted]
      rfl
  | ok table =>
      rw [play_run_bind_of_printed hprinted, mountedSource_of_printed hprinted]
      cases deviceAt path table <;> rfl

/-- The unmounting decides how all of it ends, and comes first. -/
theorem play_unmountThen (answer : (r : Host.Request) → StateM σ r.Answer) (s : Setup)
    (path : String) (host : σ) (device : Option String) :
    ∃ reply after,
      ((unmountThen s path device).run.play answer host).value =
        (printed (.ofTexts umount [path]) reply).map (fun _ => ()) ∧
      ((unmountThen s path device).run.play answer host).dialogue =
        ran (umounting s path) reply :: after ∧
      (¬Succeeded reply ∧ after = [] ∨ Succeeded reply ∧ device = none ∧ after = [] ∨
        Succeeded reply ∧ ∃ source, device = some source ∧ Released s source after) := by
  refine ⟨(answer (.run (umounting s path)) host).1, ?_⟩
  unfold unmountThen
  cases hprinted : printed (.ofTexts umount [path]) (answer (.run (umounting s path)) host).1 with
  | error e =>
      rw [play_run_bind_of_error hprinted]
      exact ⟨[], rfl, rfl, .inl ⟨not_succeeded_of_printed hprinted, rfl⟩⟩
  | ok text =>
      have hreply := succeeded_iff_exists_printed.mpr ⟨text, hprinted⟩
      rw [play_run_bind_of_printed hprinted]
      cases device with
      | none => exact ⟨[], rfl, rfl, .inr (.inl ⟨hreply, rfl, rfl⟩)⟩
      | some source =>
          dsimp only
          rw [Flow.play_lift_bind]
          refine ⟨_, rfl, rfl, .inr (.inr ⟨hreply, source, rfl, ?_⟩)⟩
          have hreleased := released_play answer s source
            (answer (.run (umounting s path)) host).2
          rw [← List.append_nil (Run.dialogue _)] at hreleased
          exact hreleased

/-- Any unmounting of a device goes as told. -/
theorem unmounting_course (answer : (r : Host.Request) → StateM σ r.Answer) (s : Setup)
    (path : String) (host : σ) :
    ∃ before reply after,
      (unmounting answer s path host).dialogue = before ++ ran (umounting s path) reply :: after ∧
      (unmounting answer s path host).value =
        (printed (.ofTexts umount [path]) reply).map (fun _ => ()) ∧
      Unmounted s path before reply after := by
  unfold unmounting
  rw [unmountDevice_eq, Flow.play_lift_bind]
  cases hreleases : s.releasesDisks with
  | false =>
      have hnone : deviceToRelease s path = pure none := by simp [deviceToRelease, hreleases]
      obtain ⟨reply, after, hvalue, hdialogue, hafter⟩ := play_unmountThen answer s path host none
      have hsilent : after = [] := by
        rcases hafter with ⟨-, h⟩ | ⟨-, -, h⟩ | ⟨-, source, hsource, -⟩
        · exact h
        · exact h
        · cases hsource
      rw [hnone]
      refine ⟨[], reply, after, hdialogue, hvalue, ?_⟩
      rw [hsilent]
      exact .plain hreleases
  | true =>
      rw [play_deviceToRelease hreleases]
      obtain ⟨reply, after, hvalue, hdialogue, hafter⟩ :=
        play_unmountThen answer s path (answer (.run (tableListing s)) host).2
          (mountedSource path (answer (.run (tableListing s)) host).1)
      refine ⟨[ran (tableListing s) (answer (.run (tableListing s)) host).1], reply, after, ?_,
        hvalue, ?_⟩
      · rw [Run.dialogue_after, hdialogue]
      · rcases hafter with ⟨hreply, rfl⟩ | ⟨hreply, hsource, rfl⟩ | ⟨hreply, source, hsource, h⟩
        · exact .failed hreleases hreply
        · exact .unidentified hreleases hreply hsource
        · exact .released hreleases hreply hsource h

end Run

/-! ## What decides about it -/

theorem map_printed_eq_ok_iff {c : Command} {reply : Except Command.SpawnFailure Command.Output} :
    (printed c reply).map (fun _ => ()) = .ok () ↔ Succeeded reply := by
  rw [succeeded_iff_exists_printed (c := c)]
  cases printed c reply <;> simp [Except.map]

theorem map_printed_eq_error_iff {c : Command}
    {reply : Except Command.SpawnFailure Command.Output} {e : Error} :
    (printed c reply).map (fun _ => ()) = .error e ↔ printed c reply = .error e := by
  cases printed c reply <;> simp [Except.map]

namespace Unmounted

variable {s : Setup} {path : String} {before after : List (Exchange interface)}
  {reply : Except Command.SpawnFailure Command.Output}

theorem before_cases (h : Unmounted s path before reply after) :
    before = [] ∨ ∃ listed, before = [ran (tableListing s) listed] := by
  cases h with
  | plain _ => exact .inl rfl
  | failed _ _ => exact .inr ⟨_, rfl⟩
  | unidentified _ _ _ => exact .inr ⟨_, rfl⟩
  | released _ _ _ _ => exact .inr ⟨_, rfl⟩

theorem eq_nil_of_keeps (h : Unmounted s path before reply after)
    (hkeeps : s.releasesDisks = false) : before = [] ∧ after = [] := by
  cases h with
  | plain _ => exact ⟨rfl, rfl⟩
  | failed hreleases _ => simp [hreleases] at hkeeps
  | unidentified hreleases _ _ => simp [hreleases] at hkeeps
  | released hreleases _ _ _ => simp [hreleases] at hkeeps

theorem eq_nil_of_not_succeeded (h : Unmounted s path before reply after)
    (hreply : ¬Succeeded reply) : after = [] := by
  cases h with
  | plain _ => rfl
  | failed _ _ => rfl
  | unidentified _ _ _ => rfl
  | released _ hsucceeded _ _ => exact absurd hsucceeded hreply

/-- Whatever is asked after the unmounting is the release of the one source found before it. -/
theorem exists_source (h : Unmounted s path before reply after) (hafter : after ≠ []) :
    ∃ table source, before = [ran (tableListing s) (.ok table)] ∧ table.isSuccess = true ∧
      MountedAlone path table.stdout source ∧ Succeeded reply ∧ Released s source after := by
  cases h with
  | plain _ => exact absurd rfl hafter
  | failed _ _ => exact absurd rfl hafter
  | unidentified _ _ _ => exact absurd rfl hafter
  | released _ hreply hsource hreleased =>
      obtain ⟨table, rfl, hsuccess, halone⟩ := mountedSource_eq_some_iff.mp hsource
      exact ⟨table, _, rfl, hsuccess, halone, hreply, hreleased⟩

theorem released_of_source {table : Command.Output} {source : String}
    (h : Unmounted s path [ran (tableListing s) (.ok table)] reply after)
    (hsuccess : table.isSuccess = true) (halone : MountedAlone path table.stdout source)
    (hreply : Succeeded reply) : Released s source after := by
  have hsource : mountedSource path (.ok table) = some source :=
    mountedSource_eq_some_iff.mpr ⟨table, rfl, hsuccess, halone⟩
  cases h with
  | failed _ hfailed => exact absurd hreply hfailed
  | unidentified _ _ hnone =>
      rw [hsource] at hnone
      cases hnone
  | released _ _ hsome hreleased =>
      rw [hsource] at hsome
      cases hsome
      exact hreleased

end Unmounted

/--
The unmounting of a device ends as its one command to unmount ends; before that, and unless that
succeeds, nothing is asked but what is mounted.  A file is written only if the table of what is
mounted told one source for the path, and if that is a multipath device, only its slaves are deleted
and only after its map was flushed.
-/
theorem unmountDevice_gated {host : Station} (sound : host.IsSound) (s : Setup) (path : String) :
    let r := unmounting Station.answer s path host
    ∃ before reply after,
      r.dialogue = before ++ ran (umounting s path) reply :: after ∧
      (r.value = .ok () ↔ Succeeded reply) ∧
      (∀ e, r.value = .error e ↔ printed (.ofTexts umount [path]) reply = .error e) ∧
      (before = [] ∨ ∃ listed, before = [ran (tableListing s) listed]) ∧
      (s.releasesDisks = false → before = [] ∧ after = []) ∧
      (¬Succeeded reply → after = []) ∧
      ((∃ x ∈ after, x.1.writes = true) →
        ∃ table source, before = [ran (tableListing s) (.ok table)] ∧ table.isSuccess = true ∧
          MountedAlone path table.stdout source) ∧
      ∀ table source, before = [ran (tableListing s) (.ok table)] → table.isSuccess = true →
        MountedAlone path table.stdout source → isMultipath source = true → Succeeded reply →
          FlushesFirst s source after := by
  obtain ⟨before, reply, after, hdialogue, hvalue, hcourse⟩ :=
    unmounting_course Station.answer s path host
  have hnames : ∀ x ∈ after, ListsNames x := by
    intro x hx
    refine Station.listsNames_of_mem_dialogue sound (unmountDevice s path).run (x := x) ?_
    change x ∈ (unmounting Station.answer s path host).dialogue
    rw [hdialogue]
    exact List.mem_append_right before (List.mem_cons_of_mem _ hx)
  refine ⟨before, reply, after, hdialogue, ?_, ?_, hcourse.before_cases, hcourse.eq_nil_of_keeps,
    hcourse.eq_nil_of_not_succeeded, ?_, ?_⟩
  · rw [hvalue]
    exact map_printed_eq_ok_iff
  · intro e
    rw [hvalue]
    exact map_printed_eq_error_iff
  · rintro ⟨x, hx, -⟩
    obtain ⟨table, source, hbefore, hsuccess, halone, -⟩ :=
      hcourse.exists_source (List.ne_nil_of_mem hx)
    exact ⟨table, source, hbefore, hsuccess, halone⟩
  · rintro table source rfl hsuccess halone hmulti hreply
    exact (hcourse.released_of_source hsuccess halone hreply).flushesFirst hmulti hnames

/-- A host with a multipath device; flushing its map takes it out of the tree. -/
def flushable : Station :=
  .fresh [.file "sys/block/dm-3/slaves/sdb" "", .directory "sys/block/sdb/device",
      .file "dev/dm-3" ""]
    (.script
      [⟨⟨some 0, "/dev/mapper/mpatha on /mnt/vol type ext4 (rw,relatime)\n", ""⟩, []⟩,
        ⟨⟨some 0, "", ""⟩, []⟩,
        ⟨⟨some 0, "mpatha (36005076) dm-3 AIX     ,VDASD\n", ""⟩, []⟩,
        ⟨⟨some 0, "", ""⟩, [.remove "sys/block/dm-3"]⟩])

/-- The slave that was listed before the flush is deleted after it, although the map is gone. -/
theorem unmountDevice_gated_flushable :
    let s : Setup := { globalMounts := "/mnt" }
    let r := unmounting Station.answer s "/mnt/vol" flushable
    flushable.IsSound ∧
      r.asked = [.run (tableListing s), .run (umounting s "/mnt/vol"),
        .run (mapListing s "/dev/mapper/mpatha"), .pathExists "/dev/dm-3",
        .names "/sys" "block/dm-3/slaves", .run (flushing s "/dev/mapper/mpatha"),
        deletion s "sdb"] ∧
      (r.final.read "/sys/block/sdb/device/delete").toOption = some "1" ∧
      ∃ before reply after,
        r.dialogue = before ++ ran (umounting s "/mnt/vol") reply :: after ∧ Succeeded reply := by
  intro s r
  have hsound : flushable.IsSound := Station.isSound_fresh _ _
  have hvalue : r.value = .ok () := by
    have hisOk : r.value.isOk = true := by decide +kernel
    generalize r.value = value at hisOk ⊢
    cases value with
    | error e => cases hisOk
    | ok _ => rfl
  obtain ⟨before, reply, after, hdialogue, hok, -⟩ := unmountDevice_gated hsound s "/mnt/vol"
  exact ⟨hsound, by decide +kernel, by decide +kernel, before, reply, after, hdialogue,
    hok.mp hvalue⟩

end NodeVolumes.Mount
