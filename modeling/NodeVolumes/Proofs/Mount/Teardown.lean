import NodeVolumes.Proofs.Mount.Unmounting

/-!
# What is torn down

An unmounting tears down the disks behind the source that was mounted alone at the path.  It does so
for every source that has `/dev` in it somewhere and ends with a name (`tearsDown_iff`), and what it
deletes is the disk of that name.  A source need not be a device for that: an exported directory of
another host is torn down as the local disk that its last name is also the name of
(`not_onlyDevices`).
-/

namespace NodeVolumes.Mount

open Host

/-- Makes the kernel forget a disk, or uses the tool for multipath devices. -/
def TearsDown (s : Setup) (r : Host.Request) : Prop :=
  (∃ name, r = deletion s name) ∨ ∃ args, r = .run (issued s multipath args)

/-- The device test: the source has `/dev` in it. -/
def HasDev (source : String) : Prop :=
  "/dev".toList <:+: source.toList

theorem contains_dev_iff {source : String} :
    Text.contains source "/dev" = true ↔ HasDev source :=
  Text.occursIn_iff

theorem contains_dev_eq_false_iff {source : String} :
    Text.contains source "/dev" = false ↔ ¬HasDev source := by
  rw [← contains_dev_iff, Bool.not_eq_true]

theorem not_tearsDown_run {s : Setup} {program : String} (h : program ≠ multipath)
    (args : List String) : ¬TearsDown s (.run (issued s program args)) := by
  rintro (⟨name, hname⟩ | ⟨args', hargs⟩)
  · cases hname
  · exact issued_ne h args args' (Request.run.inj hargs)

namespace Released

variable {s : Setup} {device : String} {after : List (Exchange interface)}

/-- Beside the requests that tear down, only slaves and their parent are looked up. -/
theorem request_cases (h : Released s device after) {x : Exchange interface} (hx : x ∈ after) :
    TearsDown s x.1 ∨ (∃ path, x.1 = .pathExists path) ∨
      ∃ path, x.1 = .names s.layout.sysfsRoot path := by
  have hdeletion : ∀ {deletes : List (Exchange interface)} {names : List String},
      deletes.map Sigma.fst = names.map (deletion s) → x ∈ deletes → TearsDown s x.1 := by
    intro deletes names hdeletes hmem
    have hmap : x.1 ∈ names.map (deletion s) := hdeletes ▸ List.mem_map_of_mem hmem
    obtain ⟨name, -, hname⟩ := List.mem_map.mp hmap
    exact .inl ⟨name, hname.symm⟩
  have hprepared : ∀ {mapper reply slaves}, x ∈ preparing s device mapper reply slaves →
      TearsDown s x.1 ∨ (∃ path, x.1 = .pathExists path) ∨
        ∃ path, x.1 = .names s.layout.sysfsRoot path := by
    intro mapper reply slaves hmem
    rcases List.mem_cons.mp hmem with rfl | hmem
    · exact .inl (.inr ⟨_, rfl⟩)
    rcases List.mem_cons.mp hmem with rfl | hmem
    · exact .inr (.inl ⟨_, rfl⟩)
    · rw [List.mem_singleton.mp hmem]
      exact .inr (.inr ⟨_, rfl⟩)
  cases h with
  | foreign _ => cases hx
  | plain _ _ hdeletes => exact .inl (hdeletion hdeletes hx)
  | unreported _ _ =>
      rw [List.mem_singleton.mp hx]
      exact .inl (.inr ⟨_, rfl⟩)
  | parentless _ _ =>
      rcases List.mem_cons.mp hx with rfl | hx
      · exact .inl (.inr ⟨_, rfl⟩)
      · rw [List.mem_singleton.mp hx]
        exact .inr (.inl ⟨_, rfl⟩)
  | unflushed _ _ _ =>
      rcases List.mem_append.mp hx with hx | hx
      · exact hprepared hx
      · rw [List.mem_singleton.mp hx]
        exact .inl (.inr ⟨_, rfl⟩)
  | flushed _ _ _ hdeletes =>
      rcases List.mem_append.mp hx with hx | hx
      · exact hprepared hx
      rcases List.mem_cons.mp hx with rfl | hx
      · exact .inl (.inr ⟨_, rfl⟩)
      · exact .inl (hdeletion hdeletes hx)

/-- A release runs the tool for multipath devices and no other. -/
theorem request_ne_run (h : Released s device after) {program : String}
    (hprogram : program ≠ multipath) {args : List String} {x : Exchange interface}
    (hx : x ∈ after) : x.1 ≠ .run (issued s program args) := by
  intro hrun
  rcases h.request_cases hx with htears | ⟨path, hpath⟩ | ⟨path, hpath⟩
  · rw [hrun] at htears
    exact not_tearsDown_run hprogram args htears
  · rw [hrun] at hpath
    cases hpath
  · rw [hrun] at hpath
    cases hpath

theorem exists_tearsDown_iff (h : Released s device after) :
    (∃ x ∈ after, TearsDown s x.1) ↔
      HasDev device ∧ (isMultipath device = true ∨ ∃ name, Path.fileName device = some name) := by
  -- a release for a multipath device always begins with the listing of its map
  have hmapped : isMultipath device = true → HasDev device := fun hmulti =>
    contains_dev_iff.mp (contains_of_isMultipath hmulti)
  have hlisting : ∀ {reply} {rest : List (Exchange interface)},
      ∃ x ∈ ran (mapListing s device) reply :: rest, TearsDown s x.1 :=
    ⟨_, List.mem_cons_self, .inr ⟨_, rfl⟩⟩
  cases h with
  | foreign hdev =>
      have hforeign := contains_dev_eq_false_iff.mp hdev
      simp [hforeign]
  | plain hdev hplain hdeletes =>
      have hhas := contains_dev_iff.mp hdev
      simp only [hhas, hplain, Bool.false_eq_true, false_or, true_and]
      constructor
      · rintro ⟨x, hx, -⟩
        have hmem : x.1 ∈ (Path.fileName device).toList.map (deletion s) :=
          hdeletes ▸ List.mem_map_of_mem hx
        obtain ⟨name, hname, -⟩ := List.mem_map.mp hmem
        exact ⟨name, Option.mem_toList.mp hname⟩
      · rintro ⟨name, hname⟩
        have hmem : deletion s name ∈ after.map Sigma.fst := by simp [hdeletes, hname]
        obtain ⟨x, hx, hfst⟩ := List.mem_map.mp hmem
        exact ⟨x, hx, .inl ⟨name, hfst⟩⟩
  | unreported hmulti _ => exact iff_of_true hlisting ⟨hmapped hmulti, .inl hmulti⟩
  | parentless hmulti _ => exact iff_of_true hlisting ⟨hmapped hmulti, .inl hmulti⟩
  | unflushed hmulti _ _ => exact iff_of_true hlisting ⟨hmapped hmulti, .inl hmulti⟩
  | flushed hmulti _ _ _ => exact iff_of_true hlisting ⟨hmapped hmulti, .inl hmulti⟩

/-- For a source that is no multipath device it is the disk of its last name that goes. -/
theorem asked_of_fileName (h : Released s device after) (hdev : HasDev device)
    (hplain : isMultipath device = false) {name : String}
    (hname : Path.fileName device = some name) : after.map Sigma.fst = [deletion s name] := by
  cases h with
  | foreign hforeign => exact absurd hdev (contains_dev_eq_false_iff.mp hforeign)
  | plain _ _ hdeletes => simpa [hname] using hdeletes
  | unreported hmulti _ => simp [hplain] at hmulti
  | parentless hmulti _ => simp [hplain] at hmulti
  | unflushed hmulti _ _ => simp [hplain] at hmulti
  | flushed hmulti _ _ _ => simp [hplain] at hmulti

end Released

/-! ## The source that is found -/

/-- In a run a table of what is mounted was read that has the source alone at the path. -/
def Identifies {σ α : Type} (s : Setup) (path : String) (r : Run interface σ α)
    (source : String) : Prop :=
  ∃ table : Command.Output, table.isSuccess = true ∧
    ran (tableListing s) (.ok table) ∈ r.dialogue ∧ MountedAlone path table.stdout source

namespace Unmounted

variable {s : Setup} {path : String} {before after : List (Exchange interface)}
  {reply : Except Command.SpawnFailure Command.Output}

theorem request_ne_tableListing (h : Unmounted s path before reply after)
    {x : Exchange interface} (hx : x ∈ ran (umounting s path) reply :: after) :
    x.1 ≠ .run (tableListing s) := by
  rcases List.mem_cons.mp hx with rfl | hx
  · have hissued : umounting s path ≠ tableListing s := issued_ne (by decide) [path] []
    exact fun hrun => hissued (Request.run.inj hrun)
  · obtain ⟨table, source, -, -, -, -, hreleased⟩ := h.exists_source (List.ne_nil_of_mem hx)
    exact hreleased.request_ne_run (by decide) hx

/-- What is mounted is only looked up once. -/
theorem before_eq_of_mem (h : Unmounted s path before reply after)
    {listed : Except Command.SpawnFailure Command.Output}
    (hlisted : ran (tableListing s) listed ∈ before ++ ran (umounting s path) reply :: after) :
    before = [ran (tableListing s) listed] := by
  rcases List.mem_append.mp hlisted with hmem | hmem
  · rcases h.before_cases with rfl | ⟨listed', rfl⟩
    · cases hmem
    · rw [List.mem_singleton.mp hmem]
  · exact absurd rfl (h.request_ne_tableListing hmem)

end Unmounted

section Run

variable {σ : Type} {answer : (r : Host.Request) → StateM σ r.Answer} {s : Setup}
  {path source : String} {host : σ}

/-- What is torn down was found in a table and has been unmounted. -/
theorem exists_released {q : Host.Request} (hq : q ∈ (unmounting answer s path host).asked)
    (htears : TearsDown s q) :
    ∃ source after, Identifies s path (unmounting answer s path host) source ∧
      (unmounting answer s path host).value = .ok () ∧ Released s source after ∧
      ∃ x ∈ after, TearsDown s x.1 := by
  obtain ⟨before, reply, after, hdialogue, hvalue, hcourse⟩ :=
    unmounting_course answer s path host
  have hlater : ∃ x ∈ after, x.1 = q := by
    obtain ⟨x, hx, rfl⟩ := List.mem_map.mp hq
    rw [hdialogue] at hx
    rcases List.mem_append.mp hx with hx | hx
    · rcases hcourse.before_cases with rfl | ⟨listed, rfl⟩
      · cases hx
      · rw [List.mem_singleton.mp hx] at htears
        exact absurd htears (not_tearsDown_run (by decide) [])
    rcases List.mem_cons.mp hx with rfl | hx
    · exact absurd htears (not_tearsDown_run (by decide) [path])
    · exact ⟨x, hx, rfl⟩
  obtain ⟨x, hx, rfl⟩ := hlater
  obtain ⟨table, source, rfl, hsuccess, halone, hreply, hreleased⟩ :=
    hcourse.exists_source (List.ne_nil_of_mem hx)
  refine ⟨source, after, ⟨table, hsuccess, ?_, halone⟩, ?_, hreleased, x, hx, htears⟩
  · rw [hdialogue]
    exact List.mem_append_left _ (List.mem_singleton_self _)
  · rw [hvalue]
    exact map_printed_eq_ok_iff.mpr hreply

/-- What was found in a table and has been unmounted is released. -/
theorem Identifies.exists_released
    (h : Identifies s path (unmounting answer s path host) source)
    (hok : (unmounting answer s path host).value = .ok ()) :
    ∃ listed reply after,
      (unmounting answer s path host).dialogue =
        ran (tableListing s) listed :: ran (umounting s path) reply :: after ∧
      Released s source after := by
  obtain ⟨before, reply, after, hdialogue, hvalue, hcourse⟩ :=
    unmounting_course answer s path host
  obtain ⟨table, hsuccess, hmem, halone⟩ := h
  rw [hdialogue] at hmem
  have hbefore := hcourse.before_eq_of_mem hmem
  subst hbefore
  rw [hvalue] at hok
  exact ⟨_, reply, after, hdialogue,
    hcourse.released_of_source hsuccess halone (map_printed_eq_ok_iff.mp hok)⟩

theorem Identifies.unique {other : String}
    (h : Identifies s path (unmounting answer s path host) source)
    (hother : Identifies s path (unmounting answer s path host) other) : source = other := by
  obtain ⟨before, reply, after, hdialogue, -, hcourse⟩ := unmounting_course answer s path host
  obtain ⟨table, -, hmem, halone⟩ := h
  obtain ⟨table', -, hmem', halone'⟩ := hother
  rw [hdialogue] at hmem hmem'
  have hbefore := (hcourse.before_eq_of_mem hmem).symm.trans (hcourse.before_eq_of_mem hmem')
  cases hbefore
  rw [← deviceAt_eq_ok_iff] at halone halone'
  rw [halone] at halone'
  exact Except.ok.inj halone'

/-- Where disks are released, the first listing is the one that counts. -/
theorem identifies_of_mountedSource (hreleases : s.releasesDisks = true)
    (h : mountedSource path (answer (.run (tableListing s)) host).1 = some source) :
    Identifies s path (unmounting answer s path host) source := by
  obtain ⟨table, hreply, hsuccess, halone⟩ := mountedSource_eq_some_iff.mp h
  refine ⟨table, hsuccess, ?_, halone⟩
  unfold unmounting
  rw [unmountDevice_eq, Flow.play_lift_bind, play_deviceToRelease hreleases, Run.dialogue_after,
    hreply]
  exact List.mem_cons_self

end Run

/-! ## Devices and other sources -/

/--
Disks are torn down exactly if the source that was found passes the device test and ends with a name
or is a multipath device, and unmounting it succeeded.  A source that does not pass has no block
devices; for one that does and is no multipath device, the one thing done after unmounting is to
delete the disk of its last name.
-/
theorem tearsDown_iff {σ : Type} (answer : (r : Host.Request) → StateM σ r.Answer) (s : Setup)
    (path : String) (host : σ) :
    let r := unmounting answer s path host
    ((∃ q ∈ r.asked, TearsDown s q) ↔
      ∃ source, Identifies s path r source ∧ r.value = .ok () ∧ HasDev source ∧
        (isMultipath source = true ∨ ∃ name, Path.fileName source = some name)) ∧
    (∀ source, ¬HasDev source → ∀ host' : σ, (blockDevices s source).run.play answer host' =
      ⟨.error (.invalidDevice source), host', []⟩) ∧
    ∀ source name, Identifies s path r source → r.value = .ok () → HasDev source →
      isMultipath source = false → Path.fileName source = some name →
        r.asked = [.run (tableListing s), .run (umounting s path), deletion s name] := by
  refine ⟨⟨?_, ?_⟩, ?_, ?_⟩
  · rintro ⟨q, hq, htears⟩
    obtain ⟨source, after, hsource, hok, hreleased, hexists⟩ := exists_released hq htears
    exact ⟨source, hsource, hok, hreleased.exists_tearsDown_iff.mp hexists⟩
  · rintro ⟨source, hsource, hok, hdevice⟩
    obtain ⟨listed, reply, after, hdialogue, hreleased⟩ := hsource.exists_released hok
    obtain ⟨x, hx, htears⟩ := hreleased.exists_tearsDown_iff.mpr hdevice
    refine ⟨x.1, List.mem_map_of_mem ?_, htears⟩
    rw [hdialogue]
    exact List.mem_cons_of_mem _ (List.mem_cons_of_mem _ hx)
  · intro source hforeign host'
    rw [blockDevices_of_foreign (contains_dev_eq_false_iff.mpr hforeign)]
    rfl
  · intro source name hsource hok hdev hplain hname
    obtain ⟨listed, reply, after, hdialogue, hreleased⟩ := hsource.exists_released hok
    have hafter := hreleased.asked_of_fileName hdev hplain hname
    rw [Run.asked, hdialogue, List.map_cons, List.map_cons, hafter]

/-- A host with a disk `sdb`, and with a source mounted. -/
def withDisk (source : String) : Station :=
  .fresh [.directory "sys/block/sdb/device"]
    (.script
      [⟨⟨some 0, source ++ " on /mnt/vol type nfs4 (rw)\n", ""⟩, []⟩, ⟨⟨some 0, "", ""⟩, []⟩])

theorem tearsDown_iff_withDisk :
    let s : Setup := { globalMounts := "/mnt" }
    let r := unmounting Station.answer s "/mnt/vol" (withDisk "/dev/sdb")
    Identifies s "/mnt/vol" r "/dev/sdb" ∧ (∃ q ∈ r.asked, TearsDown s q) ∧
      r.asked = [.run (tableListing s), .run (umounting s "/mnt/vol"), deletion s "sdb"] := by
  intro s r
  have hsource : Identifies s "/mnt/vol" r "/dev/sdb" :=
    identifies_of_mountedSource rfl (by decide +kernel)
  have hdev : HasDev "/dev/sdb" := contains_dev_iff.mp (by decide +kernel)
  have hname : Path.fileName "/dev/sdb" = some "sdb" := by decide +kernel
  obtain ⟨hexists, -, hasked⟩ := tearsDown_iff Station.answer s "/mnt/vol" (withDisk "/dev/sdb")
  exact ⟨hsource, hexists.mpr ⟨"/dev/sdb", hsource, rfl, hdev, .inr ⟨"sdb", hname⟩⟩,
    hasked "/dev/sdb" "sdb" hsource rfl hdev (by decide +kernel) hname⟩

/-- Disks are torn down for absolute paths below `/dev/` only. -/
def OnlyDevices : Prop :=
  ∀ (σ : Type) (answer : (r : Host.Request) → StateM σ r.Answer) (s : Setup) (path : String)
    (host : σ), (∃ q ∈ (unmounting answer s path host).asked, TearsDown s q) →
      ∃ source, Identifies s path (unmounting answer s path host) source ∧
        "/dev/".toList <+: source.toList

/-- A directory that another host exports is torn down as the disk of this one that its last name is
also the name of. -/
theorem not_onlyDevices : ¬OnlyDevices := by
  intro honly
  let s : Setup := { globalMounts := "/mnt" }
  let host := withDisk "nas:/export/dev/sdb"
  have hfound : Identifies s "/mnt/vol" (unmounting Station.answer s "/mnt/vol" host)
      "nas:/export/dev/sdb" :=
    identifies_of_mountedSource rfl (by decide +kernel)
  have hdeletion : deletion s "sdb" ∈ (unmounting Station.answer s "/mnt/vol" host).asked := by
    decide +kernel
  obtain ⟨source, hsource, hbelow⟩ :=
    honly Station Station.answer s "/mnt/vol" host ⟨_, hdeletion, .inl ⟨"sdb", rfl⟩⟩
  rw [hsource.unique hfound] at hbelow
  revert hbelow
  decide

end NodeVolumes.Mount
