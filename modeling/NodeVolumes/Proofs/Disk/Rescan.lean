import NodeVolumes.Proofs.Disk.Parent
import NodeVolumes.Proofs.File.Growth

/-!
# Passes over the disk buses

A pass writes one attribute for each host of the SCSI bus that is listed (`play_rescan`).  By that
the tree of the station grows (`grows_passed`), and all that a pass can write is there after it,
also for hosts that the pass itself made up by writing through a link (`saturated_passed`).  So a
pass over what another one left changes nothing (`get?_passed_of_saturated`).
-/

namespace NodeVolumes

open Host File

/-! ## Writing below a root -/

namespace Host

def Station.placeBelow (s : Station) (root path : String) : Except IoError Location := do
  writePlace s.tree (← s.below root) path

theorem Station.answer_write (root path text : String) (s : Station) :
    Station.answer (.write root path text) s =
      match s.placeBelow root path with
      | .error e => (.error e, s)
      | .ok place => (.ok (), { s with tree := s.tree.put place (.file text) }) := by
  change s.changed (s.write root path text) = _
  unfold Station.write Station.placeBelow writeText
  cases s.below root with
  | error e => rfl
  | ok origin =>
      change s.changed (writePlace s.tree origin path >>= _) =
        match writePlace s.tree origin path with
        | .error e => _
        | .ok place => _
      cases writePlace s.tree origin path <;> rfl

end Host

namespace Disk

/-- The tree of a station grew by scans. -/
structure Grows (s u : Station) : Prop where
  tree : s.tree.Grown scanAll u.tree
  workingDirectory : u.workingDirectory = s.workingDirectory

namespace Grows

variable {s u v : Station}

theorem refl (s : Station) : Grows s s :=
  ⟨.refl s.tree, rfl⟩

theorem trans (first : Grows s u) (second : Grows u v) : Grows s v :=
  ⟨first.tree.trans second.tree, second.workingDirectory.trans first.workingDirectory⟩

theorem below_iff (h : Grows s u) {root : String} {origin : Origin} :
    u.below root = .ok origin ↔ s.below root = .ok origin := by
  have hambient : u.ambient = s.ambient := by rw [Station.ambient, h.workingDirectory]; rfl
  unfold Station.below
  rw [hambient, bind_eq_ok_iff, bind_eq_ok_iff]
  simp only [h.tree.openDirectory_iff]

theorem hasEntry (h : Grows s u) {root directory name : String}
    (hentry : s.HasEntry root directory name) : u.HasEntry root directory name := by
  obtain ⟨origin, hbelow, hfile⟩ := hentry
  exact ⟨origin, h.below_iff.mpr hbelow, hfile.grown h.tree⟩

end Grows

/-! ## One host -/

section Told

variable {root host : String} {s u : Station}

/-- The station after a host was told to look for disks. -/
def told (root : String) (s : Station) (host : String) : Station :=
  (Station.answer (.write root (scanAttribute host) scanAll) s).2

/-- What tells a host to look for disks stands in its attribute, if it can be written. -/
def Fills (root : String) (s : Station) (host : String) : Prop :=
  ∀ origin, s.below root = .ok origin → Filled scanAll s.tree origin (scanAttribute host)

/-- A host is told by a file that is written, or nothing is. -/
theorem told_cases (root : String) (s : Station) (host : String) :
    (told root s host = s ∧ ∀ origin place, s.below root = .ok origin →
      writePlace s.tree origin (scanAttribute host) ≠ .ok place) ∨
    ∃ origin place, s.below root = .ok origin ∧
      writePlace s.tree origin (scanAttribute host) = .ok place ∧
      told root s host = { s with tree := s.tree.put place (.file scanAll) } := by
  unfold told
  rw [Station.answer_write]
  cases hplace : s.placeBelow root (scanAttribute host) with
  | error e =>
      left
      refine ⟨rfl, fun origin place hbelow h => ?_⟩
      cases (bind_eq_ok_iff.mpr ⟨origin, hbelow, h⟩).symm.trans hplace
  | ok place =>
      obtain ⟨origin, hbelow, h⟩ := exists_of_bind_eq_ok hplace
      exact .inr ⟨origin, place, hbelow, h, rfl⟩

theorem wellFormed_told (htree : s.tree.WellFormed) : (told root s host).tree.WellFormed :=
  Station.wellFormed_answer _ s htree

theorem grows_told (htree : s.tree.WellFormed) : Grows s (told root s host) := by
  rcases told_cases root s host with ⟨hsame, -⟩ | ⟨origin, place, -, hplace, hput⟩
  · rw [hsame]
    exact .refl s
  · rw [hput]
    exact ⟨htree.grown_put hplace scanAll, rfl⟩

theorem fills_told (htree : s.tree.WellFormed) : Fills root (told root s host) host := by
  intro origin hbelow
  rw [(grows_told htree).below_iff] at hbelow
  rcases told_cases root s host with ⟨hsame, hfails⟩ | ⟨origin', place, hbelow', hplace, hput⟩
  · -- what failed fails again, as the tree is the same
    rw [hsame]
    intro place hplace
    exact absurd hplace (hfails origin place hbelow)
  · rw [hbelow] at hbelow'
    cases hbelow'
    rw [hput]
    exact htree.filled_put hplace scanAll

theorem Fills.grows (h : Fills root s host) (hgrows : Grows s u) : Fills root u host :=
  fun origin hbelow => (h origin (hgrows.below_iff.mp hbelow)).grown hgrows.tree

/-- Telling a host again changes nothing. -/
theorem get?_told_of_fills (h : Fills root s host) (place : Location) :
    (told root s host).tree.get? place = s.tree.get? place := by
  rcases told_cases root s host with ⟨hsame, -⟩ | ⟨origin, there, hbelow, hplace, hput⟩
  · rw [hsame]
  · rw [hput]
    exact get?_put_of_filled (h origin hbelow) hplace place

end Told

/-! ## A pass -/

section Pass

variable {root : String} {hosts : List String} {s u : Station}

def listedHosts (root : String) (s : Station) : List String :=
  (s.names root hostDirectory).toOption.getD []

def passed (root : String) (s : Station) : Station :=
  ((rescan root).play Station.answer s).final

/-- Whatever a pass can write is there. -/
def Saturated (root : String) (s : Station) : Prop :=
  ∀ host ∈ listedHosts root s, Fills root s host

def accepted : Exchange interface → Bool
  | ⟨.write _ _ _, .ok _⟩ => true
  | _ => false

theorem play_scanHosts_cons {σ : Type} (answer : (r : Request) → StateM σ r.Answer)
    (root host : String) (rest : List String) (s : σ) :
    let first := answer (.write root (scanAttribute host) scanAll) s
    let others := (scanHosts root rest).play answer first.2
    (scanHosts root (host :: rest)).play answer s =
      ⟨if first.1.isOk then others.value + 1 else others.value, others.final,
        ⟨.write root (scanAttribute host) scanAll, first.1⟩ :: others.dialogue⟩ := by
  intro first others
  have hfirst : scanHosts root (host :: rest) =
      .ask (I := interface) (.write root (scanAttribute host) scanAll) fun written =>
        scanHosts root rest >>= fun others =>
          .done (if written.isOk then others + 1 else others) := rfl
  rw [hfirst, Flow.play_ask, Flow.play_bind_done]
  rfl

/-- In any world each host is told in turn, and those that took it are counted. -/
theorem play_scanHosts {σ : Type} (answer : (r : Request) → StateM σ r.Answer) (root : String)
    (hosts : List String) (s : σ) :
    let run := (scanHosts root hosts).play answer s
    run.asked = hosts.map (fun host => .write root (scanAttribute host) scanAll) ∧
      run.value = run.dialogue.countP accepted := by
  induction hosts generalizing s with
  | nil => exact ⟨rfl, rfl⟩
  | cons host rest ih =>
      let first := answer (.write root (scanAttribute host) scanAll) s
      obtain ⟨hasked, hvalue⟩ := ih first.2
      rw [play_scanHosts_cons]
      refine ⟨congrArg (Request.write root (scanAttribute host) scanAll :: ·) hasked, ?_⟩
      dsimp only
      rw [List.countP_cons, ← hvalue]
      cases (answer (.write root (scanAttribute host) scanAll) s).1 <;> rfl

theorem final_scanHosts (root : String) (hosts : List String) (s : Station) :
    ((scanHosts root hosts).play Station.answer s).final = hosts.foldl (told root) s := by
  induction hosts generalizing s with
  | nil => rfl
  | cons host rest ih =>
      rw [play_scanHosts_cons]
      exact ih (told root s host)

theorem rescan_eq_ask (root : String) :
    rescan root = .ask (I := interface) .countPass fun _ =>
      .ask (I := interface) (.names root hostDirectory) fun reply =>
        scanHosts root (reply.toOption.getD []) := by
  refine congrArg (Flow.ask (I := interface) _) (funext fun _ =>
    congrArg (Flow.ask (I := interface) _) (funext fun reply => ?_))
  cases reply <;> rfl

theorem play_rescan (root : String) (s : Station) :
    passed root s = (listedHosts root s).foldl (told root) { s with passes := s.passes + 1 } ∧
      ((rescan root).play Station.answer s).asked = .countPass :: .names root hostDirectory ::
        (listedHosts root s).map fun host => .write root (scanAttribute host) scanAll := by
  let counted : Station := { s with passes := s.passes + 1 }
  unfold passed
  rw [rescan_eq_ask, ← (play_scanHosts Station.answer root (listedHosts root s) counted).1]
  exact ⟨final_scanHosts root (listedHosts root s) counted, rfl⟩

/-- Telling hosts in turn makes the tree grow, and each that was told stays so. -/
theorem grows_foldl_told (root : String) (htree : s.tree.WellFormed) (hosts : List String) :
    Grows s (hosts.foldl (told root) s) ∧ (hosts.foldl (told root) s).tree.WellFormed ∧
      ∀ host ∈ hosts, Fills root (hosts.foldl (told root) s) host := by
  induction hosts generalizing s with
  | nil => exact ⟨.refl s, htree, by simp⟩
  | cons host rest ih =>
      have hfirst : (told root s host).tree.WellFormed := wellFormed_told htree
      obtain ⟨hgrows, hwell, hfills⟩ := ih hfirst
      refine ⟨(grows_told htree).trans hgrows, hwell, fun other hother => ?_⟩
      rcases List.mem_cons.mp hother with rfl | hlater
      · exact (fills_told htree).grows hgrows
      · exact hfills other hlater

/-- Hosts that were told are told again without a change. -/
theorem get?_foldl_told_of_fills (htree : s.tree.WellFormed)
    (h : ∀ host ∈ hosts, Fills root s host) (place : Location) :
    (hosts.foldl (told root) s).tree.get? place = s.tree.get? place := by
  induction hosts generalizing s with
  | nil => rfl
  | cons host rest ih =>
      have hgrows : Grows s (told root s host) := grows_told htree
      have hrest := ih (wellFormed_told htree) fun other hother =>
        (h other (List.mem_cons_of_mem host hother)).grows hgrows
      rw [List.foldl_cons, hrest, get?_told_of_fills (h host List.mem_cons_self)]

theorem mem_listedHosts_iff {host : String} :
    host ∈ listedHosts root s ↔ s.HasEntry root hostDirectory host := by
  unfold listedHosts
  cases hnames : s.names root hostDirectory with
  | ok names => exact Station.mem_iff_hasEntry hnames
  | error e =>
      constructor
      · intro h
        cases h
      · intro h
        obtain ⟨names, hlisted, -⟩ := h.exists_names
        rw [hnames] at hlisted
        cases hlisted

theorem grows_passed (htree : s.tree.WellFormed) : Grows s (passed root s) := by
  obtain ⟨hpassed, -⟩ := play_rescan root s
  have hcounted : Grows s { s with passes := s.passes + 1 } := ⟨.refl s.tree, rfl⟩
  rw [hpassed]
  exact hcounted.trans (grows_foldl_told (s := { s with passes := s.passes + 1 }) root htree _).1

theorem scanAttribute_eq (host : String) :
    scanAttribute host = hostDirectory ++ "/" ++ host ++ "/" ++ "scan" := by
  apply String.toList_injective
  simp [scanAttribute]

/-- Where a file stands for a host, its attribute cannot be written. -/
theorem fills_of_file {host : String} {origin : Origin} {place : Location} {content : String}
    (hname : Path.IsName host) (hbelow : s.below root = .ok origin)
    (hopen : openDirectory s.tree origin hostDirectory = .ok place)
    (hfile : s.tree.get? (place ++ [host]) = some (.file content)) : Fills root s host := by
  have hempty : hostDirectory ≠ "" := by decide
  have hbare : hostDirectory.toList.getLast? ≠ some '/' := by decide
  have hscan : Path.IsName "scan" := ⟨⟨by decide, by decide⟩, by decide, by decide⟩
  have hhost := lookup_of_file hempty hbare hname hopen hfile
  intro origin' hbelow' there hthere
  rw [hbelow] at hbelow'
  cases hbelow'
  obtain ⟨hlookup, -⟩ := writePlace_eq_ok_iff.mp hthere
  rw [scanAttribute_eq] at hlookup
  obtain ⟨place', hopen', -⟩ := exists_openDirectory_of_lookup (by simp)
    (isBare_append_slash hostDirectory hname) hscan hlookup
  rw [openDirectory_eq_ok_iff, hhost] at hopen'
  cases hopen'

/-- After a pass all that a pass can write is there, also for what the pass itself made. -/
theorem saturated_passed (hsound : s.IsSound) (htree : s.tree.WellFormed) :
    Saturated root (passed root s) := by
  intro host hlisted
  have hentry := mem_listedHosts_iff.mp hlisted
  by_cases hbefore : s.HasEntry root hostDirectory host
  · obtain ⟨hpassed, -⟩ := play_rescan root s
    obtain ⟨-, -, hfills⟩ := grows_foldl_told (s := { s with passes := s.passes + 1 }) root htree
      (listedHosts root s)
    rw [hpassed]
    exact hfills host (mem_listedHosts_iff.mpr hbefore)
  · -- the pass made what is listed, so it is a file
    have hgrows : Grows s (passed root s) := grows_passed htree
    have hname : Path.IsName host := (hsound.play (rescan root)).isName_of_hasEntry hentry
    obtain ⟨origin, hbelow, place, hopen, hsome⟩ := hentry
    have hfree : s.tree.get? (place ++ [host]) = none := by
      by_contra hne
      exact hbefore ⟨origin, hgrows.below_iff.mp hbelow, place,
        hgrows.tree.openDirectory_iff.mp hopen, Option.isSome_iff_ne_none.mpr hne⟩
    have hplace := hgrows.tree (place ++ [host])
    rw [hfree] at hplace
    generalize hmade : (passed root s).tree.get? (place ++ [host]) = stands at hplace hsome
    cases hplace with
    | kept => cases hsome
    | made => exact fills_of_file hname hbelow hopen hmade

theorem Saturated.grows (h : Saturated root s) (there : Grows s u) (back : Grows u s) :
    Saturated root u := by
  intro host hlisted
  have hbefore := mem_listedHosts_iff.mpr (back.hasEntry (mem_listedHosts_iff.mp hlisted))
  exact (h host hbefore).grows there

/-- What a pass can write for a host is read there after it. -/
theorem readBelow_passed (hsound : s.IsSound) (htree : s.tree.WellFormed) {host : String}
    (hlisted : host ∈ listedHosts root s)
    (hwrite : (s.write root (scanAttribute host) scanAll).isOk = true) :
    (passed root s).readBelow root (scanAttribute host) = .ok scanAll := by
  have hgrows : Grows s (passed root s) := grows_passed htree
  have hlisted' : host ∈ listedHosts root (passed root s) :=
    mem_listedHosts_iff.mpr (hgrows.hasEntry (mem_listedHosts_iff.mp hlisted))
  unfold Station.write at hwrite
  cases hbelow : s.below root with
  | error e =>
      rw [hbelow] at hwrite
      cases hwrite
  | ok origin =>
      rw [hbelow] at hwrite
      have hbelow' := hgrows.below_iff.mpr hbelow
      have hfilled := saturated_passed hsound htree host hlisted' origin hbelow'
      change (writePlace s.tree origin (scanAttribute host) >>= _).isOk = true at hwrite
      cases hplace : writePlace s.tree origin (scanAttribute host) with
      | error e =>
          rw [hplace] at hwrite
          cases hwrite
      | ok place =>
          rw [Station.readBelow, hbelow']
          exact hfilled.readText (hgrows.tree.writePlace_iff.mpr hplace)

/-- A pass over what a pass left changes nothing. -/
theorem get?_passed_of_saturated (htree : s.tree.WellFormed) (h : Saturated root s)
    (place : Location) : (passed root s).tree.get? place = s.tree.get? place := by
  obtain ⟨hpassed, -⟩ := play_rescan root s
  rw [hpassed]
  exact get?_foldl_told_of_fills (s := { s with passes := s.passes + 1 }) htree h place

end Pass

end Disk

end NodeVolumes
