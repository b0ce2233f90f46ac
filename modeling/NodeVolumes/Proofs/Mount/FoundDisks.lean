import NodeVolumes.Proofs.Disk.Parent
import NodeVolumes.Proofs.Mount.Teardown

/-!
# The disks that discovery found

Discovery goes from a disk up to its parent, unmounting from the map of a multipath device down to
its slaves.  Where both come to the same device-mapper device and see the same slaves, unmounting
deletes what discovery described, and the disk that was waited for with it
(`unmounting_deletes_found`).
-/

namespace NodeVolumes.Mount

open Host

/-- A listing of a map names a device in the third field of its first line, and is no complaint. -/
def NamesMapper (listing mapper : String) : Prop :=
  let first := (Text.lines listing).head?.getD ""
  Text.contains first "not a valid argument" = false ∧ (Text.words first)[2]? = some mapper

instance (listing mapper : String) : Decidable (NamesMapper listing mapper) :=
  inferInstanceAs (Decidable (_ ∧ _))

theorem mapperOfListing_of_namesMapper {device listing mapper : String}
    (h : NamesMapper listing mapper) (hmapped : Disk.isMapped mapper = true) :
    mapperOfListing device listing = .ok mapper := by
  simp only [mapperOfListing, h.1, h.2, hmapped, if_true, Bool.false_eq_true, if_false]

theorem reported_of_namesMapper {device mapper : String}
    {reply : Except Command.SpawnFailure Command.Output} (hreply : Succeeded reply)
    (hnames : ∀ listing : Command.Output, reply = .ok listing → NamesMapper listing.stdout mapper)
    (hmapped : Disk.isMapped mapper = true) : reported device reply = some mapper := by
  obtain ⟨listing, rfl, hsuccess⟩ := hreply
  rw [reported_of_printed (printed_of_isSuccess _ hsuccess),
    mapperOfListing_of_namesMapper (hnames listing rfl) hmapped]
  rfl

/-- A multipath device was mounted alone at a path and is unmounted.  All commands succeed, the
listing of its map names the mapper device, and that is there. -/
structure Dismantles {σ : Type} (s : Setup) (path source mapper : String)
    (r : Run interface σ (Except Error Unit)) : Prop where
  alone : Identifies s path r source
  multipath : isMultipath source = true
  succeeds : ∀ c reply, ran c reply ∈ r.dialogue → Succeeded reply
  listing : ∀ listing : Command.Output, ran (mapListing s source) (.ok listing) ∈ r.dialogue →
    NamesMapper listing.stdout mapper
  present : ∀ present, (⟨.pathExists (Path.join s.layout.devRoot mapper), present⟩ :
    Exchange interface) ∈ r.dialogue → present = true

/-- All that a run lists below a root is as it is on a host. -/
def ListsAsOn {σ α : Type} (host : Station) (root : String) (r : Run interface σ α) : Prop :=
  ∀ path reply, (⟨.names root path, reply⟩ : Exchange interface) ∈ r.dialogue →
    reply = host.names root path

section Dismantling

variable {σ : Type} {answer : (r : Host.Request) → StateM σ r.Answer} {s : Setup}
  {path source mapper : String} {host : σ}

/-- Where nothing fails, the slaves that are listed are deleted, and no other file is written. -/
theorem Dismantles.exists_slaves
    (h : Dismantles s path source mapper (unmounting answer s path host))
    (hmapped : Disk.isMapped mapper = true) :
    ∃ slaves, (⟨.names s.layout.sysfsRoot (Disk.slaveDirectory mapper), slaves⟩ :
      Exchange interface) ∈ (unmounting answer s path host).dialogue ∧
      (unmounting answer s path host).asked.filter Request.writes =
        ((listedNames slaves).filterMap fun slave =>
          Path.fileName (Path.join s.layout.devRoot slave)).map (deletion s) := by
  obtain ⟨before, reply, after, hdialogue, -, hcourse⟩ := unmounting_course answer s path host
  obtain ⟨⟨table, hsuccess, hlisted, halone⟩, hmulti, hsucceeds, hlisting, hpresent⟩ := h
  unfold Run.asked
  rw [hdialogue] at hlisted hsucceeds hlisting hpresent ⊢
  obtain rfl := hcourse.before_eq_of_mem hlisted
  have hlater {x : Exchange interface} (hx : x ∈ after) :
      x ∈ [ran (tableListing s) (.ok table)] ++ ran (umounting s path) reply :: after :=
    List.mem_append_right _ (List.mem_cons_of_mem _ hx)
  have hreply : Succeeded reply := hsucceeds _ reply (List.mem_append_right _ List.mem_cons_self)
  have hreleased := hcourse.released_of_source hsuccess halone hreply
  have hreported {reply : Except Command.SpawnFailure Command.Output}
      (hran : ran (mapListing s source) reply ∈ after) : reported source reply = some mapper :=
    reported_of_namesMapper (hsucceeds _ reply (hlater hran))
      (fun listing hlisted => hlisting listing (hlater (hlisted ▸ hran))) hmapped
  -- every way to release the disks but the last one has something in it that went wrong
  cases hreleased with
  | foreign hforeign => simp [contains_of_isMultipath hmulti] at hforeign
  | plain _ hplain _ => simp [hmulti] at hplain
  | unreported _ hnone =>
      rw [hreported List.mem_cons_self] at hnone
      cases hnone
  | parentless _ hsome =>
      rw [hreported List.mem_cons_self] at hsome
      cases hsome
      cases hpresent false (hlater (List.mem_cons_of_mem _ List.mem_cons_self))
  | unflushed _ _ hfailed =>
      exact absurd (hsucceeds _ _ (hlater (List.mem_append_right _ List.mem_cons_self))) hfailed
  | @flushed _ _ _ slaves deletes _ hsome _ hdeletes =>
      rw [hreported List.mem_cons_self] at hsome
      cases hsome
      refine ⟨slaves, hlater (List.mem_append_left _ (by simp [preparing])), ?_⟩
      have hwrites : ∀ r ∈ deletes.map Sigma.fst, r.writes = true := by
        rw [hdeletes]
        intro r hr
        obtain ⟨name, -, rfl⟩ := List.mem_map.mp hr
        rfl
      rw [← hdeletes]
      simp [preparing, Request.writes, List.filter_eq_self.mpr hwrites]

end Dismantling

/-- Unmounting a multipath device deletes the slaves of the descriptor that discovery found for it,
in their order, if both come to the same mapper device and see the same slaves; the disk that the
link led to is one of them. -/
theorem unmounting_deletes_found {host later : Station} (sound : host.IsSound)
    {helper : Option String} {policy : Disk.Policy} {s : Setup}
    {expected path source mapper : String} {d : Disk.Descriptor}
    (hmapped : Disk.isMapped mapper = true)
    (hfound : ((Disk.waitFor helper policy s.layout expected).run.play Station.answer
      host).value = .ok d)
    (hparent : d.parent = some (Path.join s.layout.devRoot mapper))
    (hdismantles : Dismantles s path source mapper (unmounting Station.answer s path later))
    (hsame : ListsAsOn ((Disk.waitFor helper policy s.layout expected).run.play Station.answer
      host).final s.layout.sysfsRoot (unmounting Station.answer s path later)) :
    ∃ names : List String, d.slaves = names.map (Path.join s.layout.devRoot) ∧
      d.slaves.map Path.fileName = names.map some ∧
      (unmounting Station.answer s path later).asked.filter Request.writes =
        names.map (deletion s) ∧
      ∃ device ∈ names, Path.fileName d.resolved = some device := by
  obtain ⟨parent, hleads⟩ := Disk.leadsTo_of_waitFor (by rw [hparent]; rfl) hfound
  obtain rfl : parent = mapper := by
    have hpath := hleads.path
    rw [hparent, Option.some.injEq, Path.join_right_inj (Disk.not_isAbsolute_of_isMapped hmapped)
      (Disk.not_isAbsolute_of_isMapped hleads.mapped)] at hpath
    exact hpath.symm
  obtain ⟨names, hnames, hslaves, hdevice⟩ := hleads.slaves
  obtain ⟨slaves, hlisted, hwrites⟩ := hdismantles.exists_slaves hmapped
  rw [hsame _ slaves hlisted, hnames] at hwrites
  have hsound : ∀ name ∈ names, Path.IsName name := by
    have hfinal : ((Disk.waitFor helper policy s.layout expected).run.play Station.answer
        host).final.IsSound :=
      Flow.play_kept (I := interface) Station.answer (fun r t (ht : t.IsSound) => ht.answer r) _
        sound
    have hlists := hfinal.listsNames
      (.names s.layout.sysfsRoot (Disk.slaveDirectory parent))
    change ListsNames ⟨.names _ _, Station.names _ _ _⟩ at hlists
    rw [hnames] at hlists
    exact hlists
  refine ⟨names, hslaves, ?_, ?_, hdevice⟩
  · rw [hslaves, List.map_map]
    exact List.map_congr_left fun name hname => Path.fileName_join (hsound name hname)
  · rw [hwrites]
    exact congrArg (List.map (deletion s)) (filterMap_fileName_join s.layout.devRoot hsound)

/-- A test for exchanges in which all goes well, on a host as another one was. -/
def goesWell (before : Station) (s : Setup) (source mapper : String) :
    Exchange interface → Bool
  | ⟨.run c, .ok output⟩ =>
      output.isSuccess && (c ≠ mapListing s source || decide (NamesMapper output.stdout mapper))
  | ⟨.run _, .error _⟩ => false
  | ⟨.pathExists _, present⟩ => present
  | ⟨.names root path, .ok names⟩ => (before.names root path).toOption == some names
  | ⟨.names _ _, .error _⟩ => false
  | _ => true

section GoesWell

variable {before : Station} {s : Setup} {path source mapper : String}
  {r : Run interface Station (Except Error Unit)}

theorem dismantles_of_goesWell (halone : Identifies s path r source)
    (hmulti : isMultipath source = true)
    (h : r.dialogue.all (goesWell before s source mapper) = true) :
    Dismantles s path source mapper r := by
  rw [List.all_eq_true] at h
  refine ⟨halone, hmulti, fun c reply hran => ?_, fun listing hran => ?_, fun present hasked =>
    h _ hasked⟩
  · have hreply := h _ hran
    cases reply with
    | error failure => cases hreply
    | ok output => exact ⟨output, rfl, (Bool.and_eq_true_iff.mp hreply).1⟩
  · have hreply := (Bool.and_eq_true_iff.mp (h _ hran)).2
    simpa using hreply

theorem listsAsOn_of_goesWell {root : String}
    (h : r.dialogue.all (goesWell before s source mapper) = true) : ListsAsOn before root r := by
  rw [List.all_eq_true] at h
  intro path reply hasked
  have hlisted := h _ hasked
  cases reply with
  | error e => cases hlisted
  | ok names =>
      have hnames : (before.names root path).toOption = some names := eq_of_beq hlisted
      cases hbefore : before.names root path with
      | error e =>
          rw [hbefore] at hnames
          cases hnames
      | ok listed =>
          rw [hbefore] at hnames
          rw [Option.some.inj hnames]

end GoesWell

/-- A multipath device with one path, which a link leads to. -/
def multipathed : Station :=
  .fresh [.file "sys/block/dm-3/slaves/sdb" "", .file "dev/dm-3" "", .file "dev/sdb" "",
      .link "dev/disk/by-id/wwn-0x1" "../../sdb"]
    (.script [⟨⟨some 0, "", ""⟩, []⟩, ⟨⟨some 0, "", ""⟩, []⟩])

def multipathedSetup : Setup := { globalMounts := "/mnt" }

def multipathedFound : Run interface Station (Except Disk.DiscoveryError Disk.Descriptor) :=
  (Disk.waitFor none { attempts := 1 } multipathedSetup.layout "/dev/disk/by-id/wwn-0x1").run.play
    Station.answer multipathed

def multipathedUnmounting : Run interface Station (Except Error Unit) :=
  unmounting Station.answer multipathedSetup "/mnt/vol"
    { multipathed with runner := flushable.runner }

theorem value_multipathedFound : multipathedFound.value =
    .ok ⟨"/dev/disk/by-id/wwn-0x1", "/dev/sdb", some "/dev/dm-3", ["/dev/sdb"]⟩ := by
  have hoption : multipathedFound.value.toOption =
      some ⟨"/dev/disk/by-id/wwn-0x1", "/dev/sdb", some "/dev/dm-3", ["/dev/sdb"]⟩ := by
    decide +kernel
  generalize multipathedFound.value = value at hoption ⊢
  cases value with
  | error e => cases hoption
  | ok d => rw [Option.some.inj hoption]

theorem goesWell_multipathedUnmounting :
    multipathedUnmounting.dialogue.all
      (goesWell multipathedFound.final multipathedSetup "/dev/mapper/mpatha" "dm-3") = true := by
  decide +kernel

/-- The disk that was found is the one whose deletion is asked for. -/
theorem unmounting_deletes_found_multipathed :
    multipathed.IsSound ∧
      multipathedFound.value =
        .ok ⟨"/dev/disk/by-id/wwn-0x1", "/dev/sdb", some "/dev/dm-3", ["/dev/sdb"]⟩ ∧
      Dismantles multipathedSetup "/mnt/vol" "/dev/mapper/mpatha" "dm-3" multipathedUnmounting ∧
      ListsAsOn multipathedFound.final "/sys" multipathedUnmounting ∧
      multipathedUnmounting.asked.filter Request.writes = [deletion multipathedSetup "sdb"] := by
  have hsound : multipathed.IsSound := Station.isSound_fresh _ _
  have halone : Identifies multipathedSetup "/mnt/vol" multipathedUnmounting
      "/dev/mapper/mpatha" :=
    identifies_of_mountedSource rfl (by decide +kernel)
  have hdismantles := dismantles_of_goesWell halone (by decide +kernel)
    goesWell_multipathedUnmounting
  have hsame : ListsAsOn multipathedFound.final "/sys" multipathedUnmounting :=
    listsAsOn_of_goesWell goesWell_multipathedUnmounting
  have hparent : some "/dev/dm-3" = some (Path.join "/dev" "dm-3") := by decide +kernel
  obtain ⟨names, -, hnames, hwrites, -⟩ := unmounting_deletes_found hsound (by decide +kernel)
    value_multipathedFound hparent hdismantles hsame
  have hsdb : names = ["sdb"] := by
    have hfileName : Path.fileName "/dev/sdb" = some "sdb" := by decide +kernel
    simpa [hfileName] using hnames.symm
  refine ⟨hsound, value_multipathedFound, hdismantles, hsame, ?_⟩
  rw [hsdb] at hwrites
  exact hwrites

end NodeVolumes.Mount
