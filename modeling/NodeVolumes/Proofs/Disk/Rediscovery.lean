import Mathlib.Data.List.Sort
import NodeVolumes.Proofs.Disk.Coherence
import NodeVolumes.Proofs.Disk.Rescan

/-!
# Discovery again

Who waits again for a disk that was found waits once, and the scan before the look makes the tree
grow at most by the attributes of hosts.  What is found is described as before, unless the scan made
what the link had lacked or a slave of the parent (`value_describe_iff`), and it makes nothing where
the scan before it was the last to change the tree (`waitFor_again`).
-/

namespace NodeVolumes.Disk

open Host File

/-! ## Descriptions of a tree that grew -/

namespace Grows

variable {s u : Station} {root directory name device mapper path : String}

theorem ambient (h : Grows s u) : u.ambient = s.ambient := by
  rw [Station.ambient, h.workingDirectory]
  rfl

/-- A path leads where it led, or fails as before, or it failed as a file was missing that is there
now. -/
theorem canonical_cases (h : Grows s u) (path : String) :
    u.canonical path = s.canonical path ∨
      (s.canonical path = .error .notFound ∧
        ∃ place, s.tree.get? place = none ∧ (u.tree.get? place).isSome = true) := by
  unfold Station.canonical
  rw [h.ambient]
  rcases lookupEntry_cases h.tree s.ambient true path with
    ⟨place, entry, entry', hbefore, hafter, -⟩ | ⟨e, hbefore, hafter⟩ | ⟨hbefore, hmade⟩
  · left
    rw [hbefore, hafter]
    rfl
  · left
    rw [hbefore, hafter]
  · right
    rw [hbefore]
    exact ⟨rfl, hmade⟩

/-- What stood under a name still does, and is a link if it was. -/
theorem entryAt? (h : Grows s u) {entry : Entry}
    (hentry : s.entryAt? directory name = some entry) :
    ∃ entry', u.entryAt? directory name = some entry' ∧ entry'.isLink = entry.isLink := by
  unfold Station.entryAt? at hentry ⊢
  rw [h.ambient]
  cases hopen : openDirectory s.tree s.ambient directory with
  | error e =>
      rw [hopen] at hentry
      cases hentry
  | ok place =>
      rw [hopen] at hentry
      rw [h.tree.openDirectory_iff.mpr hopen]
      dsimp only at hentry ⊢
      have hplace := h.tree (place ++ [name])
      rw [hentry] at hplace
      generalize u.tree.get? (place ++ [name]) = stands at hplace ⊢
      cases hplace with
      | kept => exact ⟨entry, rfl, rfl⟩
      | rewritten old => exact ⟨_, rfl, rfl⟩

/-- A directory that lists nothing new lists the same. -/
theorem names_eq (h : Grows s u) (htree : s.tree.WellFormed) (htree' : u.tree.WellFormed)
    {names names' : List String} (hnames : s.names root directory = .ok names)
    (hnames' : u.names root directory = .ok names')
    (hnone : ∀ name, u.HasEntry root directory name → s.HasEntry root directory name) :
    names' = names := by
  have hascending := Station.pairwise_names htree hnames
  have hascending' := Station.pairwise_names htree' hnames'
  have hmem (name : String) : name ∈ names' ↔ name ∈ names := by
    rw [Station.mem_iff_hasEntry hnames, Station.mem_iff_hasEntry hnames']
    exact ⟨hnone name, h.hasEntry⟩
  have hperm : names'.Perm names := by
    refine (List.perm_ext_iff_of_nodup ?_ ?_).mpr hmem
    · exact hascending'.imp fun hlt => ne_of_lt hlt
    · exact hascending.imp fun hlt => ne_of_lt hlt
  exact hperm.eq_of_pairwise (fun a b _ _ hab hba => absurd hba (lt_asymm hab)) hascending'
    hascending

theorem maps (h : Grows s u) (hmaps : Maps s root device mapper) : Maps u root device mapper :=
  ⟨hmaps.mapped, h.hasEntry hmaps.listed, h.hasEntry hmaps.slave⟩

end Grows

theorem slaveDirectory_eq (mapper : String) :
    slaveDirectory mapper = blockDirectory ++ "/" ++ mapper ++ "/" ++ "slaves" := by
  apply String.toList_injective
  simp [slaveDirectory]

/-- A device with slaves is listed with the block devices. -/
theorem hasEntry_blockDirectory {s : Station} {root mapper slave : String}
    (hmapper : Path.IsName mapper) (h : s.HasEntry root (slaveDirectory mapper) slave) :
    s.HasEntry root blockDirectory mapper := by
  have hempty : blockDirectory ≠ "" := by decide
  have hbare : blockDirectory.toList.getLast? ≠ some '/' := by decide
  have hslaves : Path.IsName "slaves" := ⟨⟨by decide, by decide⟩, by decide, by decide⟩
  obtain ⟨origin, hbelow, place, hopen, -⟩ := h
  rw [slaveDirectory_eq, openDirectory_eq_ok_iff] at hopen
  obtain ⟨device, hdevice, -⟩ := exists_openDirectory_of_lookup (by simp)
    (isBare_append_slash blockDirectory hmapper) hslaves hopen
  rw [openDirectory_eq_ok_iff] at hdevice
  obtain ⟨block, hblock, hnone | hsome⟩ :=
    exists_openDirectory_of_lookup hempty hbare hmapper hdevice
  · cases hnone
  · exact ⟨origin, hbelow, block, hblock, hsome⟩

section Describe

variable {s u : Station} {layout : Layout} {expected : String} {isLink : Bool} {d : Descriptor}
  {mapper : String}

theorem canonical_of_unresolvable {e : IoError}
    (h : ((describe layout expected isLink).run.play Station.answer s).value =
      .error (.unresolvable expected (.io e))) : s.canonical expected = .error e := by
  cases isLink with
  | false => cases h
  | true =>
      rw [value_describe_link] at h
      cases htarget : s.canonical expected with
      | error fault =>
          rw [htarget] at h
          cases h
          rfl
      | ok target =>
          rw [htarget] at h
          dsimp only at h
          rw [value_describeTarget] at h
          split at h
          · cases h
          · split at h <;> cases h

/-- One description leads to one device-mapper device, with the same slaves on both hosts. -/
theorem LeadsTo.hasEntry (hsound : s.IsSound) (hsound' : u.IsSound) {mapper' : String}
    (h : LeadsTo s layout d mapper) (h' : LeadsTo u layout d mapper') {slave : String}
    (hslave : u.HasEntry layout.sysfsRoot (slaveDirectory mapper') slave) :
    s.HasEntry layout.sysfsRoot (slaveDirectory mapper') slave := by
  have hpath := h.path
  rw [h'.path, Option.some.injEq, Path.join_right_inj (not_isAbsolute_of_isMapped h'.mapped)
    (not_isAbsolute_of_isMapped h.mapped)] at hpath
  subst hpath
  obtain ⟨names, hnames, hslaves, -⟩ := h.slaves
  obtain ⟨names', hnames', hslaves', -⟩ := h'.slaves
  have hmem : Path.join layout.devRoot slave ∈ names.map (Path.join layout.devRoot) := by
    rw [← hslaves, hslaves']
    exact List.mem_map_of_mem ((Station.mem_iff_hasEntry hnames').mpr hslave)
  obtain ⟨name, hname, hjoin⟩ := List.mem_map.mp hmem
  have hentry := (Station.mem_iff_hasEntry hnames).mp hname
  rw [Path.join_right_inj (Path.not_isAbsolute_of_isSegment (hsound.isName_of_hasEntry hentry).1)
    (Path.not_isAbsolute_of_isSegment (hsound'.isName_of_hasEntry hslave).1)] at hjoin
  rwa [← hjoin]

/-- The parent is the same if none of its slaves is new. -/
theorem Grows.parentOn_eq (h : Grows s u) (hsound' : u.IsSound) (htree : s.tree.WellFormed)
    (htree' : u.tree.WellFormed) {root device : String} (hdevice : Path.IsName device)
    (hnone : ∀ mapper, MapsFirst u root device mapper →
      s.HasEntry root (slaveDirectory mapper) device) :
    parentOn s root device = parentOn u root device := by
  cases hfound : parentOn u root device with
  | none =>
      cases hbefore : parentOn s root device with
      | none => rfl
      | some mapper =>
          have hmaps := ((parentOn_eq_some_iff htree hdevice).mp hbefore).maps
          exact absurd hfound (parentOn_ne_none hdevice (h.maps hmaps))
  | some mapper =>
      have hfirst := (parentOn_eq_some_iff htree' hdevice).mp hfound
      have hslave := hnone mapper hfirst
      have hmapper : Path.IsName mapper := hsound'.isName_of_hasEntry hfirst.maps.listed
      rw [parentOn_eq_some_iff htree hdevice]
      exact
        { maps := ⟨hfirst.maps.mapped, hasEntry_blockDirectory hmapper hslave, hslave⟩
          first := fun other hother => hfirst.first other (h.maps hother) }

/-- A device is described as before if none of the slaves of its parent is new. -/
theorem Grows.value_describeTarget_eq (h : Grows s u) (hsound' : u.IsSound)
    (htree : s.tree.WellFormed) (htree' : u.tree.WellFormed) {target : String}
    (hnone : ∀ d mapper,
      ((describeTarget layout expected target).play Station.answer u).value = .ok d →
        LeadsTo u layout d mapper → ∀ slave,
          u.HasEntry layout.sysfsRoot (slaveDirectory mapper) slave →
            s.HasEntry layout.sysfsRoot (slaveDirectory mapper) slave) :
    ((describeTarget layout expected target).play Station.answer u).value =
      ((describeTarget layout expected target).play Station.answer s).value := by
  rw [value_describeTarget] at hnone
  rw [value_describeTarget, value_describeTarget]
  cases hdevice : Path.fileName target with
  | none => rfl
  | some device =>
      have hname := Path.isName_of_fileName hdevice
      rw [hdevice] at hnone
      dsimp only at hnone ⊢
      -- whatever the parent is now, its slaves were there before, the device among them
      have hold (mapper : String) (hfound : parentOn u layout.sysfsRoot device = some mapper) :
          ∀ slave, u.HasEntry layout.sysfsRoot (slaveDirectory mapper) slave →
            s.HasEntry layout.sysfsRoot (slaveDirectory mapper) slave :=
        hnone _ mapper (by rw [hfound]) (leadsTo_below hdevice hfound)
      have hparent : parentOn s layout.sysfsRoot device = parentOn u layout.sysfsRoot device := by
        refine h.parentOn_eq hsound' htree htree' hname fun mapper hfirst => ?_
        exact hold mapper ((parentOn_eq_some_iff htree' hname).mpr hfirst) device hfirst.maps.slave
      rw [hparent]
      cases hfound : parentOn u layout.sysfsRoot device with
      | none => rfl
      | some mapper =>
          have hslave := (hasEntry_of_parentOn hname hfound).2
          obtain ⟨names', hnames', -⟩ := hslave.exists_names
          obtain ⟨names, hnames, -⟩ := (hold mapper hfound _ hslave).exists_names
          have hsame := h.names_eq htree htree' hnames hnames' (hold mapper hfound)
          dsimp only
          rw [below, below, hnames, hnames', hsame]

/-- A path is described as before exactly if what the link had led to no place still does, and no
slave of the parent is new. -/
theorem value_describe_iff (h : Grows s u) (hsound : s.IsSound) (hsound' : u.IsSound)
    (htree : s.tree.WellFormed) (htree' : u.tree.WellFormed) (layout : Layout) (expected : String)
    (isLink : Bool) :
    let before := ((describe layout expected isLink).run.play Station.answer s).value
    let after := ((describe layout expected isLink).run.play Station.answer u).value
    after = before ↔
      (before = .error (.unresolvable expected (.io .notFound)) →
        u.canonical expected = .error .notFound) ∧
      ∀ d mapper, after = .ok d → LeadsTo u layout d mapper → ∀ slave,
        u.HasEntry layout.sysfsRoot (slaveDirectory mapper) slave →
          s.HasEntry layout.sysfsRoot (slaveDirectory mapper) slave := by
  intro before after
  constructor
  · intro hsame
    constructor
    · intro hlost
      exact canonical_of_unresolvable (hsame.trans hlost)
    · intro d mapper hd hleads slave hslave
      obtain ⟨mapper', hleads'⟩ := leadsTo_of_describe (by rw [hleads.path]; rfl)
        (hsame.symm.trans hd)
      exact hleads'.hasEntry hsound hsound' hleads hslave
  · rintro ⟨hlost, hnone⟩
    cases isLink with
    | false => rfl
    | true =>
        have hbefore : before = _ := value_describe_link
        have hafter : after = _ := value_describe_link
        -- a link that leads nowhere yet is the only one whose target the growth can make
        rcases h.canonical_cases expected with hsame | ⟨hfree, -⟩
        · rw [hsame] at hafter
          cases htarget : s.canonical expected with
          | error e => rw [hbefore, hafter, htarget]
          | ok target =>
              rw [htarget] at hbefore hafter
              rw [hafter] at hnone
              rw [hbefore, hafter]
              exact h.value_describeTarget_eq hsound' htree htree' hnone
        · rw [hfree] at hbefore
          rw [hlost hbefore] at hafter
          rw [hbefore, hafter]

end Describe

/-! ## Another attempt -/

section Attempt

variable {helper : Option String} {policy : Policy} {layout : Layout} {expected : String}
  {s : Station}

theorem replayEvents_asksOnly (helper : Option String) (expected : String) :
    Flow.AsksOnly (I := interface) (fun r => r.writes = false)
      (replayEvents helper expected).run := by
  refine runChecked_bind_asksOnly rfl fun _ => ⟨rfl, fun present => ?_⟩
  exact runChecked_bind_asksOnly rfl fun _ => trivial

/-- An attempt without commands that change files leaves the files as its pass does. -/
theorem tree_nudged (h : s.runner.KeepsFiles) :
    (nudged helper policy layout expected s).tree = (scanned policy layout s).tree := by
  unfold nudged
  rw [play_nudge]
  exact Station.tree_play (Station.keepsFiles_play h (scan policy layout))
    (replayEvents_asksOnly helper expected)

theorem grows_nudged (htree : s.tree.WellFormed) (h : s.runner.KeepsFiles) :
    Grows s (nudged helper policy layout expected s) := by
  let waited : Station := { s with waited := s.waited + policy.interval }
  have hpassed : Grows waited (passed layout.sysfsRoot waited) := grows_passed htree
  refine ⟨?_, Station.workingDirectory_play _ s⟩
  rw [tree_nudged h]
  exact hpassed.tree

/-- Where all that a scan can write is there, an attempt changes no file. -/
theorem get?_nudged_of_saturated (htree : s.tree.WellFormed) (h : s.runner.KeepsFiles)
    (hsaturated : Saturated layout.sysfsRoot s) (place : Location) :
    (nudged helper policy layout expected s).tree.get? place = s.tree.get? place := by
  let waited : Station := { s with waited := s.waited + policy.interval }
  have hpassed : (passed layout.sysfsRoot waited).tree.get? place = waited.tree.get? place :=
    get?_passed_of_saturated (s := waited) htree hsaturated place
  rw [tree_nudged h]
  exact hpassed

theorem readBelow_nudged (hsound : s.IsSound) (htree : s.tree.WellFormed)
    (h : s.runner.KeepsFiles) {host : String} (hlisted : host ∈ listedHosts layout.sysfsRoot s)
    (hwrite : (s.write layout.sysfsRoot (scanAttribute host) scanAll).isOk = true) :
    (nudged helper policy layout expected s).readBelow layout.sysfsRoot (scanAttribute host) =
      .ok scanAll := by
  let waited : Station := { s with waited := s.waited + policy.interval }
  have hwaited : waited.IsSound := ⟨hsound.tree, hsound.base, hsound.workingDirectory⟩
  have hpassed : (scanned policy layout s).readBelow layout.sysfsRoot (scanAttribute host) =
      .ok scanAll := readBelow_passed hwaited htree hlisted hwrite
  have hsame : SameFiles (nudged helper policy layout expected s) (scanned policy layout s) := by
    refine ⟨tree_nudged h, ?_⟩
    unfold nudged scanned
    rw [Station.workingDirectory_play, Station.workingDirectory_play]
  rw [← hpassed]
  exact hsame.answer (r := .readBelow layout.sysfsRoot (scanAttribute host)) rfl

theorem kept_nudged (hsound : s.IsSound) (htree : s.tree.WellFormed) :
    (nudged helper policy layout expected s).IsSound ∧
      (nudged helper policy layout expected s).tree.WellFormed :=
  ⟨hsound.play _, Station.wellFormed_play htree _⟩

theorem kept_moment (hsound : s.IsSound) (htree : s.tree.WellFormed) (k : Nat) :
    (moment helper policy layout expected s k).IsSound ∧
      (moment helper policy layout expected s k).tree.WellFormed := by
  induction k with
  | zero => exact ⟨hsound, htree⟩
  | succ k ih =>
      rw [moment_succ]
      exact kept_nudged ih.1 ih.2

/-- After an attempt whose commands changed no files, all that a scan can write is there. -/
theorem saturated_of_tree_eq {u : Station} (hsound : s.IsSound) (htree : s.tree.WellFormed)
    (hsame : u.tree = (scanned policy layout s).tree)
    (hdirectory : u.workingDirectory = s.workingDirectory) : Saturated layout.sysfsRoot u := by
  let waited : Station := { s with waited := s.waited + policy.interval }
  have hwaited : waited.IsSound := ⟨hsound.tree, hsound.base, hsound.workingDirectory⟩
  have hpassed : Saturated layout.sysfsRoot (scanned policy layout s) :=
    saturated_passed hwaited htree
  have hdirectory' : (scanned policy layout s).workingDirectory = s.workingDirectory :=
    Station.workingDirectory_play _ s
  have hback := hdirectory'.trans hdirectory.symm
  refine hpassed.grows ⟨?_, hback.symm⟩ ⟨?_, hback⟩
  · rw [hsame]
    exact .refl _
  · rw [hsame]
    exact .refl _

theorem writes_round (directory name : String) (s : Station) :
    ((round helper policy layout expected directory name s).map Sigma.fst).filter Request.writes =
      (listedHosts layout.sysfsRoot s).map fun host =>
        .write layout.sysfsRoot (scanAttribute host) scanAll := by
  let waited : Station := { s with waited := s.waited + policy.interval }
  have hscan : ((scan policy layout).play Station.answer s).asked =
      .sleep policy.interval :: .countPass :: .names layout.sysfsRoot hostDirectory ::
        (listedHosts layout.sysfsRoot s).map fun host =>
          .write layout.sysfsRoot (scanAttribute host) scanAll :=
    congrArg (Request.sleep policy.interval :: ·) (play_rescan layout.sysfsRoot waited).2
  have hreplay := (replayEvents_asksOnly helper expected).filter_asked Station.answer
    (scanned policy layout s)
  have hasked : (round helper policy layout expected directory name s).map Sigma.fst =
      ((scan policy layout).play Station.answer s).asked ++
        ((replayEvents helper expected).run.play Station.answer
          (scanned policy layout s)).asked ++ [.isLink directory name] := by
    rw [round, play_nudge, List.map_append, List.map_append]
    rfl
  have hwrites : ((listedHosts layout.sysfsRoot s).map fun host =>
      Request.write layout.sysfsRoot (scanAttribute host) scanAll).filter Request.writes =
      (listedHosts layout.sysfsRoot s).map fun host =>
        .write layout.sysfsRoot (scanAttribute host) scanAll := by
    refine List.filter_eq_self.mpr fun r hr => ?_
    obtain ⟨host, -, rfl⟩ := List.mem_map.mp hr
    rfl
  rw [hasked, List.filter_append, List.filter_append, hreplay, hscan]
  simp [Request.writes, hwrites]

end Attempt

/-! ## Waiting again -/

section Again

variable (helper : Option String) (policy : Policy) (layout : Layout) (expected : String)

def waiting (host : Station) : Run interface Station (Except DiscoveryError Descriptor) :=
  (waitFor helper policy layout expected).run.play Station.answer host

/-- A wait on a station that an earlier wait left. -/
structure Repeated (first : Run interface Station (Except DiscoveryError Descriptor))
    (later : Station) (second : Run interface Station (Except DiscoveryError Descriptor)) :
    Prop where
  attempted : Attempted helper policy layout expected later 1 second
  writes : second.asked.filter Request.writes =
    (listedHosts layout.sysfsRoot first.final).map fun host =>
      .write layout.sysfsRoot (scanAttribute host) scanAll
  written : ∀ host ∈ listedHosts layout.sysfsRoot first.final,
    (first.final.write layout.sysfsRoot (scanAttribute host) scanAll).isOk = true →
      second.final.readBelow layout.sysfsRoot (scanAttribute host) = .ok scanAll
  grown : first.final.tree.Grown scanAll second.final.tree
  /-- It comes to the same unless its scan made what the link lacked, or a slave of the parent. -/
  same_iff : second.value = first.value ↔
    (first.value = .error (.unresolvable expected (.io .notFound)) →
      second.final.canonical expected = .error .notFound) ∧
    ∀ d mapper, second.value = .ok d → LeadsTo second.final layout d mapper → ∀ slave,
      second.final.HasEntry layout.sysfsRoot (slaveDirectory mapper) slave →
        first.final.HasEntry layout.sysfsRoot (slaveDirectory mapper) slave

variable {helper policy layout expected}

/-- What is there is seen by the first attempt, and described as that leaves it. -/
theorem waiting_of_entry {name : String} {entry : Entry} {s : Station}
    (hname : Path.fileName expected = some name) (hattempts : 0 < policy.attempts)
    (htree : s.tree.WellFormed) (hfiles : s.runner.KeepsFiles)
    (hentry : s.entryAt? ((Path.parent expected).getD "/") name = some entry) :
    waiting helper policy layout expected s =
      ((describe layout expected entry.isLink).run.play Station.answer
        (nudged helper policy layout expected s)).after
          (round helper policy layout expected ((Path.parent expected).getD "/") name s) := by
  have hgrows : Grows s (nudged helper policy layout expected s) := grows_nudged htree hfiles
  obtain ⟨entry', hentry', hlink⟩ := hgrows.entryAt? hentry
  obtain ⟨left, hleft⟩ : ∃ left, policy.attempts = left + 1 := ⟨policy.attempts - 1, by omega⟩
  have hlook := Station.isLink_of_entryAt? (Path.isName_of_fileName hname) hentry'
  unfold waiting
  rw [waitFor_eq_poll helper policy layout hname, hleft, play_poll_succ, hlook, hlink]
  rfl

theorem not_isVerdict_deviceNotFound (attempts : Nat) :
    ¬IsVerdict expected (.error (.deviceNotFound expected attempts)) := by
  rintro ⟨fault, hfault⟩
  cases hfault

/-- A wait that comes to a verdict described what its host has when it ends. -/
theorem exists_entry_of_isVerdict {host : Station}
    (h : IsVerdict expected (waiting helper policy layout expected host).value) :
    ∃ name entry, Path.fileName expected = some name ∧ 0 < policy.attempts ∧
      (waiting helper policy layout expected host).final.entryAt?
        ((Path.parent expected).getD "/") name = some entry ∧
      (waiting helper policy layout expected host).value =
        ((describe layout expected entry.isLink).run.play Station.answer
          (waiting helper policy layout expected host).final).value := by
  cases hname : Path.fileName expected with
  | none =>
      unfold waiting waitFor at h
      rw [hname] at h
      obtain ⟨fault, hfault⟩ := h
      cases hfault
  | some name =>
      rcases Nat.eq_zero_or_pos policy.attempts with hnone | hattempts
      · unfold waiting at h
        rw [waitFor_eq_poll helper policy layout hname, hnone] at h
        exact absurd h (not_isVerdict_deviceNotFound _)
      · rcases waitFor_cases helper layout hname hattempts host with
          ⟨entry, hentry, hvalue⟩ | ⟨-, hvalue⟩
        · exact ⟨name, entry, rfl, hattempts, hentry, hvalue⟩
        · unfold waiting at h
          rw [hvalue] at h
          exact absurd h (not_isVerdict_deviceNotFound _)

/-- Where nothing is made, a path is described as before. -/
theorem value_describe_of_back {s u : Station} (there : Grows s u) (back : Grows u s)
    (hsound : s.IsSound) (hsound' : u.IsSound) (htree : s.tree.WellFormed)
    (htree' : u.tree.WellFormed) (isLink : Bool) :
    ((describe layout expected isLink).run.play Station.answer u).value =
      ((describe layout expected isLink).run.play Station.answer s).value := by
  refine (value_describe_iff there hsound hsound' htree htree' layout expected isLink).mpr
    ⟨fun hlost => ?_, fun d mapper _ _ slave hslave => back.hasEntry hslave⟩
  have hbefore := canonical_of_unresolvable hlost
  rcases there.canonical_cases expected with hsame | ⟨-, place, hfree, hmade⟩
  · rw [hsame, hbefore]
  · have hsome := back.tree.isSome hmade
    rw [hfree] at hsome
    cases hsome

section Later

variable {first : Run interface Station (Except DiscoveryError Descriptor)} {runner : Runner}
  {name : String} {entry : Entry} (hname : Path.fileName expected = some name)
  (hattempts : 0 < policy.attempts) (hsound : first.final.IsSound)
  (htree : first.final.tree.WellFormed) (hfiles : runner.KeepsFiles)
  (hentry : first.final.entryAt? ((Path.parent expected).getD "/") name = some entry)
  (hvalue : first.value =
    ((describe layout expected entry.isLink).run.play Station.answer first.final).value)

include hname hattempts htree hfiles hentry

/-- What a wait leaves and comes to after one that saw its path. -/
theorem again_eq :
    let later : Station := { first.final with runner }
    let looked := nudged helper policy layout expected later
    Grows first.final looked ∧
      (waiting helper policy layout expected later).final = looked ∧
      (waiting helper policy layout expected later).value =
        ((describe layout expected entry.isLink).run.play Station.answer looked).value := by
  intro later looked
  have hgrows : Grows later looked := grows_nudged htree hfiles
  have hplay : waiting helper policy layout expected later = _ :=
    waiting_of_entry hname hattempts htree hfiles hentry
  rw [hplay, Run.final_after, Run.value_after]
  exact ⟨⟨hgrows.tree, hgrows.workingDirectory⟩,
    Station.final_play_of_onlyLooks (describe_onlyLooks layout expected _) _, rfl⟩

theorem attempted_again :
    let later : Station := { first.final with runner }
    Attempted helper policy layout expected later 1
      (waiting helper policy layout expected later) := by
  intro later
  have hplay : waiting helper policy layout expected later =
      ((describe layout expected entry.isLink).run.play Station.answer
        (moment helper policy layout expected later 1)).after
          (rounds helper policy layout expected ((Path.parent expected).getD "/") name
            later 1) := by
    rw [rounds_succ]
    exact waiting_of_entry hname hattempts htree hfiles hentry
  exact attempted_of_eq (describe_onlyLooks layout expected entry.isLink) hplay

theorem writes_again :
    (waiting helper policy layout expected { first.final with runner }).asked.filter
        Request.writes =
      (listedHosts layout.sysfsRoot first.final).map fun host =>
        .write layout.sysfsRoot (scanAttribute host) scanAll := by
  let later : Station := { first.final with runner }
  have hplay : waiting helper policy layout expected later = _ :=
    waiting_of_entry hname hattempts htree hfiles hentry
  have hlooks := (describe_onlyLooks layout expected entry.isLink).mono
    fun r => Request.writes_of_looks
  rw [hplay, Run.asked_after, List.filter_append, writes_round, hlooks.filter_asked,
    List.append_nil]
  rfl

include hsound hvalue

theorem repeated_again :
    let later : Station := { first.final with runner }
    Repeated helper policy layout expected first later
      (waiting helper policy layout expected later) := by
  intro later
  let looked := nudged helper policy layout expected later
  obtain ⟨hgrows, hfinal, hvalue'⟩ : Grows first.final looked ∧ _ ∧ _ :=
    again_eq hname hattempts htree hfiles hentry
  have hlater : later.IsSound := ⟨hsound.tree, hsound.base, hsound.workingDirectory⟩
  obtain ⟨hsound', htree'⟩ : looked.IsSound ∧ looked.tree.WellFormed := kept_nudged hlater htree
  exact
    { attempted := attempted_again hname hattempts htree hfiles hentry
      writes := writes_again hname hattempts htree hfiles hentry
      written := by
        intro host hlisted hwrite
        rw [hfinal]
        exact readBelow_nudged hlater htree hfiles hlisted hwrite
      grown := by
        rw [hfinal]
        exact hgrows.tree
      same_iff := by
        rw [hfinal, hvalue', hvalue]
        exact value_describe_iff hgrows hsound hsound' htree htree' layout expected entry.isLink }

/-- Where all that a scan can write is there, another wait changes and finds nothing. -/
theorem same_again (hsaturated : Saturated layout.sysfsRoot first.final) :
    let later : Station := { first.final with runner }
    (∀ place, (waiting helper policy layout expected later).final.tree.get? place =
        first.final.tree.get? place) ∧
      (waiting helper policy layout expected later).value = first.value := by
  intro later
  let looked := nudged helper policy layout expected later
  obtain ⟨hgrows, hfinal, hvalue'⟩ : Grows first.final looked ∧ _ ∧ _ :=
    again_eq hname hattempts htree hfiles hentry
  have hlater : later.IsSound := ⟨hsound.tree, hsound.base, hsound.workingDirectory⟩
  obtain ⟨hsound', htree'⟩ : looked.IsSound ∧ looked.tree.WellFormed := kept_nudged hlater htree
  have hsaturated' : Saturated layout.sysfsRoot later :=
    hsaturated.grows ⟨.refl _, rfl⟩ ⟨.refl _, rfl⟩
  have hsame (place : Location) : looked.tree.get? place = first.final.tree.get? place :=
    get?_nudged_of_saturated (s := later) htree hfiles hsaturated' place
  have hback : Grows looked first.final := by
    refine ⟨fun place => ?_, hgrows.workingDirectory.symm⟩
    rw [hsame place]
    exact .kept _
  rw [hfinal, hvalue', hvalue]
  exact ⟨hsame, value_describe_of_back hgrows hback hsound hsound' htree htree' entry.isLink⟩

end Later

end Again

/--
Who waits again for a path that was seen waits once and scans the bus once, whatever becomes of the
commands, if they leave the files alone.  The scan writes the attribute of every host that is
listed, and the tree grows by no more.  The wait comes to the same unless the scan made what the
link had lacked or a slave of the parent; and it makes nothing at all if the tree is as the scan of
the attempt that saw the path left it.
-/
theorem waitFor_again (helper : Option String) (policy : Policy) (layout : Layout)
    (expected : String) {host : Station} (hsound : host.IsSound) (htree : host.tree.WellFormed)
    {runner : Runner} (hfiles : runner.KeepsFiles)
    (hverdict : IsVerdict expected (waiting helper policy layout expected host).value) :
    let first := waiting helper policy layout expected host
    let later := { first.final with runner }
    let second := waiting helper policy layout expected later
    Repeated helper policy layout expected first later second ∧
      ∀ k, first.final = moment helper policy layout expected host (k + 1) →
        first.final.tree = (scanned policy layout
          (moment helper policy layout expected host k)).tree →
            (∀ place, second.final.tree.get? place = first.final.tree.get? place) ∧
              second.value = first.value := by
  intro first later second
  obtain ⟨name, entry, hname, hattempts, hentry, hvalue⟩ := exists_entry_of_isVerdict hverdict
  have hsound' : first.final.IsSound := hsound.play _
  have htree' : first.final.tree.WellFormed := Station.wellFormed_play htree _
  constructor
  · exact repeated_again hname hattempts hsound' htree' hfiles hentry hvalue
  · intro k hmoment hunchanged
    let before := moment helper policy layout expected host k
    obtain ⟨hsoundk, htreek⟩ : before.IsSound ∧ before.tree.WellFormed := kept_moment hsound htree k
    have hdirectory : first.final.workingDirectory = before.workingDirectory := by
      rw [hmoment, moment_succ]
      exact Station.workingDirectory_play _ _
    have hsaturated : Saturated layout.sysfsRoot first.final :=
      saturated_of_tree_eq hsoundk htreek hunchanged hdirectory
    exact same_again hname hattempts hsound' htree' hfiles hentry hvalue hsaturated

/-- A host of the bus and a link to a disk that is no slave. -/
def settled : Station :=
  .fresh [.directory "sys/class/scsi_host/host0", .file "dev/sdb" "",
      .link "dev/disk/by-id/wwn-0x1" "../../sdb"]
    (.script [⟨⟨some 0, "", ""⟩, []⟩, ⟨⟨some 0, "", ""⟩, []⟩])

theorem waitFor_again_settled :
    let policy : Policy := { attempts := 1, interval := 5 }
    let expected := "/dev/disk/by-id/wwn-0x1"
    let first := waiting none policy {} expected settled
    let later : Station := { first.final with runner := .script [] }
    let second := waiting none policy {} expected later
    settled.IsSound ∧ settled.tree.WellFormed ∧ Runner.KeepsFiles (.script []) ∧
      IsVerdict expected first.value ∧ first.value = .ok { expected, resolved := "/dev/sdb" } ∧
      second.asked.filter Request.writes =
        [.write "/sys" "class/scsi_host/host0/scan" "- - -"] ∧
      Repeated none policy {} expected first later second ∧ second.value = first.value := by
  intro policy expected first later second
  have hsound : settled.IsSound := Station.isSound_fresh _ _
  have htree : settled.tree.WellFormed := Station.wellFormed_fresh _ _
  have hfiles : Runner.KeepsFiles (.script []) := by simp [Runner.KeepsFiles]
  have hfirst : first.value = .ok { expected, resolved := "/dev/sdb" } :=
    eq_ok_of_toOption (by decide +kernel)
  have hverdict : IsVerdict expected first.value := by
    rw [hfirst]
    rfl
  obtain ⟨hrepeated, hsame⟩ := waitFor_again none policy {} expected hsound htree hfiles hverdict
  have hmoment : first.final = moment none policy {} expected settled 1 := by
    have hname : Path.fileName expected = some "wwn-0x1" := by decide +kernel
    unfold first waiting
    rw [waitFor_eq_poll none policy {} hname]
    rcases poll_cases none policy {} expected _ (Path.isName_of_fileName hname) settled 1 with
      ⟨m, -, hm, -, -, hfinal, -⟩ | ⟨-, hfinal, -⟩
    · obtain rfl : m = 0 := Nat.lt_one_iff.mp hm
      exact hfinal
    · exact hfinal
  have hunchanged : first.final.tree = (scanned policy {} settled).tree := by
    have hkeeps : settled.runner.KeepsFiles := by simp [settled, Runner.KeepsFiles, Station.fresh]
    rw [hmoment, moment_succ]
    exact tree_nudged hkeeps
  exact ⟨hsound, htree, hfiles, hverdict, hfirst, by decide +kernel, hrepeated,
    (hsame 0 hmoment hunchanged).2⟩

/-- Waiting for a path that was seen comes to the same again. -/
def ComesToTheSame : Prop :=
  ∀ (helper : Option String) (policy : Policy) (layout : Layout) (expected : String)
    (host : Station) (runner : Runner), host.IsSound → host.tree.WellFormed → runner.KeepsFiles →
      let first := waiting helper policy layout expected host
      IsVerdict expected first.value →
        (waiting helper policy layout expected { first.final with runner }).value = first.value

/-- A host on which the commands that make the disk known make a link of an attribute. -/
def redirected : Station :=
  .fresh [.file "dev/sdb" "", .link "dev/disk/by-id/wwn-0x1" "../../sdb",
      .directory "sys/block/dm-3/slaves"]
    (.script
      [⟨⟨some 0, "", ""⟩, []⟩,
        ⟨⟨some 0, "", ""⟩,
          [.link "sys/class/scsi_host/host0/scan" "../../../block/dm-3/slaves/sdb"]⟩])

/-- The scan of the other wait writes a slave of a device-mapper device, which is the parent from
then on. -/
theorem not_comesToTheSame : ¬ComesToTheSame := by
  intro h
  let expected := "/dev/disk/by-id/wwn-0x1"
  let first := waiting none { attempts := 1, interval := 5 } {} expected redirected
  let second := waiting none { attempts := 1, interval := 5 } {} expected
    { first.final with runner := .script [] }
  have hfirst : first.value = .ok { expected, resolved := "/dev/sdb" } :=
    eq_ok_of_toOption (by decide +kernel)
  have hsecond : second.value = .ok { expected, resolved := "/dev/sdb", parent := some "/dev/dm-3",
                                      slaves := ["/dev/sdb"] } :=
    eq_ok_of_toOption (by decide +kernel)
  have hverdict : IsVerdict expected first.value := by
    rw [hfirst]
    rfl
  have hsame : second.value = first.value := h none { attempts := 1, interval := 5 } {} expected
    redirected (.script []) (Station.isSound_fresh _ _) (Station.wellFormed_fresh _ _)
    (by simp [Runner.KeepsFiles]) hverdict
  rw [hfirst, hsecond] at hsame
  simp at hsame

end NodeVolumes.Disk
