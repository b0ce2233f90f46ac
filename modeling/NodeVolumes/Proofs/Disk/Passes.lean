import NodeVolumes.Proofs.Disk.Coherence
import NodeVolumes.Proofs.Disk.Rescan
import NodeVolumes.Proofs.Host.Looking

/-!
# What a pass reaches

A host may refuse what a station would do, for want of a right or for any fault of its own
(`MayRefuse`).  A pass over the disk buses goes on all the same: each host that is listed is told,
those that took it are counted, and the tree changes where those have their attributes and nowhere
else (`rescan_reaches_every_host`).

Passes are counted apart from the host that they are made on.  Views of a tree of disks that were
copied from one another have one count in common, and each shows the passes made through all of them
(`View.answer`, `tally_afterUses`).
-/

namespace NodeVolumes

open Host File

/-! ## Hosts that refuse -/

namespace Host

def Request.Refuses : (r : Request) → r.Answer → Prop
  | .run _, reply | .isLink _ _, reply | .canonical _, reply | .names _ _, reply
  | .write _ _ _, reply | .read _, reply | .readBelow _ _, reply | .append _ _, reply =>
      reply.isOk = false
  | .pathExists _, found | .isDirectory _, found | .entryExists _ _, found | .isFile _, found =>
      found = false
  | .sleep _, _ | .countPass, _ => False

/-- A world in which a request is answered as a station does, or is refused and changes nothing. -/
def MayRefuse (answer : (r : Request) → StateM Station r.Answer) : Prop :=
  ∀ r s, answer r s = Station.answer r s ∨ ∃ reply, r.Refuses reply ∧ answer r s = (reply, s)

theorem mayRefuse_answer : MayRefuse Station.answer :=
  fun _ _ => .inl rfl

namespace MayRefuse

variable {answer : (r : Request) → StateM Station r.Answer} {s : Station}

theorem answer_countPass (h : MayRefuse answer) (s : Station) :
    answer .countPass s = ((), { s with passes := s.passes + 1 }) := by
  rcases h .countPass s with hsame | ⟨-, ⟨⟩, -⟩
  exact hsame

theorem passes_answer (h : MayRefuse answer) (r : Request) (s : Station) :
    (answer r s).2.passes = s.passes + r.passed := by
  rcases h r s with hsame | ⟨reply, hrefused, hreply⟩
  · obtain ⟨tree, runner, history, hanswer⟩ := Station.exists_answer r s
    rw [hsame, hanswer]
  · have hpassed : r.passed = 0 := by cases r <;> first | rfl | cases hrefused
    rw [hreply, hpassed, Nat.add_zero]

/-- Names are listed as they are, or not at all. -/
theorem names_cases (h : MayRefuse answer) (root path : String) (s : Station) :
    answer (.names root path) s = (s.names root path, s) ∨
      ∃ e, answer (.names root path) s = (.error e, s) := by
  rcases h (.names root path) s with hsame | ⟨e | names, hrefused, hreply⟩
  · exact .inl hsame
  · exact .inr ⟨e, hreply⟩
  · cases hrefused

/-- A file is written where it has its place, or nothing is. -/
theorem write_cases (h : MayRefuse answer) (root path text : String) (s : Station) :
    (∃ place, s.placeBelow root path = .ok place ∧ answer (.write root path text) s =
      (.ok (), { s with tree := s.tree.put place (.file text) })) ∨
    ∃ e, answer (.write root path text) s = (.error e, s) := by
  rcases h (.write root path text) s with hsame | ⟨e | _, hrefused, hreply⟩
  · rw [hsame, Station.answer_write]
    cases s.placeBelow root path with
    | error e => exact .inr ⟨e, rfl⟩
    | ok place => exact .inl ⟨place, rfl, rfl⟩
  · exact .inr ⟨e, hreply⟩
  · cases hrefused

end MayRefuse

end Host

namespace Disk

/-! ## Where a pass writes -/

section Scan

variable {answer : (r : Request) → StateM Station r.Answer} {root path : String} {s u : Station}
variable {dialogue : List (Exchange interface)} {place : Location}

/-- An attribute took what it was told. -/
def took (root path : String) : Exchange interface :=
  ⟨Request.write root path scanAll, (.ok () : Except IoError Unit)⟩

/-- A place where something was written, as a dialogue tells. -/
def WrittenAt (s : Station) (root : String) (dialogue : List (Exchange interface))
    (place : Location) : Prop :=
  ∃ path, took root path ∈ dialogue ∧ s.placeBelow root path = .ok place

theorem Grows.placeBelow_iff (h : Grows s u) :
    u.placeBelow root path = .ok place ↔ s.placeBelow root path = .ok place := by
  unfold Station.placeBelow
  rw [bind_eq_ok_iff, bind_eq_ok_iff]
  simp only [h.below_iff, h.tree.writePlace_iff]

theorem Grows.isOk_placeBelow (h : Grows s u) (root path : String) :
    (u.placeBelow root path).isOk = (s.placeBelow root path).isOk := by
  have hiff (place : Location) :
      u.placeBelow root path = .ok place ↔ s.placeBelow root path = .ok place := h.placeBelow_iff
  cases hbefore : s.placeBelow root path with
  | ok place => rw [(hiff place).mpr hbefore]
  | error e =>
      cases hafter : u.placeBelow root path with
      | error e => rfl
      | ok place =>
          rw [(hiff place).mp hafter] at hbefore
          cases hbefore

theorem Grows.writtenAt_iff (h : Grows s u) :
    WrittenAt u root dialogue place ↔ WrittenAt s root dialogue place := by
  simp only [WrittenAt, h.placeBelow_iff]

theorem grows_put (htree : s.tree.WellFormed) (hplace : s.placeBelow root path = .ok place) :
    place ≠ [] ∧ (s.tree.put place (.file scanAll)).WellFormed ∧
      Grows s { s with tree := s.tree.put place (.file scanAll) } := by
  obtain ⟨origin, -, hplaced⟩ := exists_of_bind_eq_ok hplace
  exact ⟨(htree.grownAt_of_writePlace hplaced scanAll).1,
    htree.edit (edit_of_writePlace hplaced scanAll), htree.grown_put hplaced scanAll, rfl⟩

/-- What a station turned into, if its hosts were told and this is what they answered. -/
structure Scanned (s : Station) (root : String) (dialogue : List (Exchange interface))
    (u : Station) : Prop where
  grows : Grows s u
  kept : { u with tree := s.tree } = s
  placed : ∀ path, took root path ∈ dialogue → ∃ place, s.placeBelow root path = .ok place
  written : ∀ place, WrittenAt s root dialogue place → u.tree.get? place = some (.file scanAll)
  unwritten : ∀ place, ¬WrittenAt s root dialogue place → u.tree.get? place = s.tree.get? place

theorem scanned_nil (s : Station) (root : String) : Scanned s root [] s where
  grows := .refl s
  kept := rfl
  placed path htook := absurd htook (by simp)
  written := by simp [WrittenAt]
  unwritten place _ := rfl

theorem Scanned.refused (h : Scanned s root dialogue u) {x : Exchange interface}
    (hx : ∀ path, took root path ≠ x) : Scanned s root (x :: dialogue) u where
  grows := h.grows
  kept := h.kept
  placed path htook := h.placed path (by simpa [hx] using htook)
  written place hplace := h.written place (by simpa [WrittenAt, hx] using hplace)
  unwritten place hplace := h.unwritten place (by simpa [WrittenAt, hx] using hplace)

theorem took_inj {path' : String} : took root path' = took root path ↔ path' = path := by
  constructor
  · rintro ⟨⟩
    rfl
  · rintro rfl
    rfl

theorem Scanned.took (htree : s.tree.WellFormed) (hplace : s.placeBelow root path = .ok place)
    (h : Scanned { s with tree := s.tree.put place (.file scanAll) } root dialogue u) :
    Scanned s root (took root path :: dialogue) u := by
  obtain ⟨hroot, -, hgrows⟩ := grows_put htree hplace
  have hput := s.tree.get?_put (.file scanAll) hroot
  have hwritten (other : Location) : WrittenAt s root (Disk.took root path :: dialogue) other ↔
      place = other ∨ WrittenAt s root dialogue other := by
    simp [WrittenAt, took_inj, or_and_right, exists_or, hplace]
  exact
    { grows := hgrows.trans h.grows
      kept := congrArg (fun u : Station => { u with tree := s.tree }) h.kept
      placed := by
        intro path' htook
        rcases List.mem_cons.mp htook with hfirst | hlater
        · exact ⟨place, took_inj.mp hfirst ▸ hplace⟩
        · obtain ⟨place', hplace'⟩ := h.placed path' hlater
          exact ⟨place', hgrows.placeBelow_iff.mp hplace'⟩
      written := by
        intro other hother
        by_cases hlater : WrittenAt s root dialogue other
        · exact h.written other (hgrows.writtenAt_iff.mpr hlater)
        · have hfirst : place = other := ((hwritten other).mp hother).resolve_right hlater
          rw [h.unwritten other (mt hgrows.writtenAt_iff.mp hlater), hput, if_pos hfirst.symm]
      unwritten := by
        intro other hother
        obtain ⟨hfirst, hlater⟩ := not_or.mp (mt (hwritten other).mpr hother)
        rw [h.unwritten other (mt hgrows.writtenAt_iff.mp hlater), hput, if_neg (Ne.symm hfirst)] }

/-- Each host in its turn is refused or takes it, and the tree only grows, so all places stay. -/
theorem scanned_scanHosts (h : MayRefuse answer) (htree : s.tree.WellFormed) (root : String)
    (hosts : List String) :
    let run := (scanHosts root hosts).play answer s
    Scanned s root run.dialogue run.final := by
  induction hosts generalizing s with
  | nil => exact scanned_nil s root
  | cons host rest ih =>
      intro run
      have hrun : run = (scanHosts root (host :: rest)).play answer s := rfl
      rw [play_scanHosts_cons] at hrun
      rcases h.write_cases root (scanAttribute host) scanAll s with
        ⟨place, hplace, htook⟩ | ⟨e, hrefused⟩
      · rw [hrun, htook]
        exact (ih (grows_put htree hplace).2.1).took htree hplace
      · rw [hrun, hrefused]
        refine (ih htree).refused fun path => ?_
        rintro ⟨⟩

theorem reply_write (s : Station) (root path : String) :
    (Station.answer (.write root path scanAll) s).1 =
      (s.placeBelow root path).map fun _ => () := by
  rw [Station.answer_write]
  cases s.placeBelow root path <;> rfl

/-- On a station those hosts take it whose attribute could be written from the start. -/
theorem value_scanHosts (htree : s.tree.WellFormed) (root : String) (hosts : List String) :
    ((scanHosts root hosts).play Station.answer s).value =
      hosts.countP fun host => (s.placeBelow root (scanAttribute host)).isOk := by
  induction hosts generalizing s with
  | nil => rfl
  | cons host rest ih =>
      have hgrows : Grows s (told root s host) := grows_told htree
      have hfirst : (told root s host).tree.WellFormed := wellFormed_told htree
      have hrest := ih hfirst
      simp only [hgrows.isOk_placeBelow] at hrest
      rw [play_scanHosts_cons, List.countP_cons, ← hrest, reply_write]
      cases s.placeBelow root (scanAttribute host) <;> rfl

theorem took_mem_scanHosts (htree : s.tree.WellFormed) {hosts : List String} {host : String}
    (hhost : host ∈ hosts) (hplace : s.placeBelow root (scanAttribute host) = .ok place) :
    took root (scanAttribute host) ∈ ((scanHosts root hosts).play Station.answer s).dialogue := by
  induction hosts generalizing s with
  | nil => cases hhost
  | cons first rest ih =>
      rw [play_scanHosts_cons, reply_write]
      rcases List.mem_cons.mp hhost with rfl | hlater
      · rw [hplace]
        exact .head _
      · have hgrows : Grows s (told root s first) := grows_told htree
        exact .tail _ (ih (wellFormed_told htree) hlater (hgrows.placeBelow_iff.mpr hplace))

/-- A pass is counted, and then the hosts are told that were listed. -/
theorem play_rescan_of_mayRefuse (h : MayRefuse answer) (root : String) (s : Station) :
    let counted : Station := { s with passes := s.passes + 1 }
    let listed := (answer (.names root hostDirectory) counted).1
    (rescan root).play answer s =
      ((scanHosts root (listed.toOption.getD [])).play answer counted).after
        [⟨Request.countPass, ()⟩, ⟨Request.names root hostDirectory, listed⟩] := by
  intro counted listed
  have hlisting : (answer (.names root hostDirectory) counted).2 = counted := by
    rcases h.names_cases root hostDirectory counted with hnames | ⟨e, hrefused⟩
    · rw [hnames]
    · rw [hrefused]
  rw [rescan_eq_ask, Flow.play_ask, h.answer_countPass, Flow.play_ask, hlisting, Run.after_after]
  rfl

theorem names_of_mayRefuse (h : MayRefuse answer) {path : String} {names : List String}
    (hnames : (answer (.names root path) s).1 = .ok names) : s.names root path = .ok names := by
  rcases h.names_cases root path s with hsame | ⟨e, hrefused⟩
  · rwa [hsame] at hnames
  · rw [hrefused] at hnames
    cases hnames

end Scan

/-! ## Views with counts -/

/-- A view of the tree of disks at a root, with the number of its count of passes.  A copy of a view
has the same count. -/
structure View where
  root : String
  count : Nat

/-- What is done by a view. -/
inductive Use where
  | rescan
  | parentOf (device : String)
  | slavesOf (device : String)
  | delete (device : String)

def Use.program (root : String) : Use → Program Unit
  | .rescan => do let _ ← Disk.rescan root
  | .parentOf device => do let _ ← Disk.parentOf root device
  | .slavesOf device => do let _ ← Disk.slavesOf root device
  | .delete device => do let _ ← (Disk.delete root device).run

def Use.isRescan : Use → Bool
  | .rescan => true
  | _ => false

/-- A world with counts of passes beside it. -/
structure Counted (σ : Type) where
  world : σ
  passes : Nat → Nat

/-- A view counts its passes in its count, and the world answers the rest. -/
def View.answer {σ : Type} (answer : (r : Request) → StateM σ r.Answer) (v : View) :
    (r : Request) → StateM (Counted σ) r.Answer
  | .countPass => fun c =>
      ((), { c with passes := Function.update c.passes v.count (c.passes v.count + 1) })
  | r => fun c => ((answer r c.world).1, { c with world := (answer r c.world).2 })

def afterUses {σ : Type} (answer : View → (r : Request) → StateM σ r.Answer) (s : σ)
    (uses : List (View × Use)) : σ :=
  uses.foldl (fun s (v, use) => ((use.program v.root).play (answer v) s).final) s

/-- To rescan counts one pass, and nothing else counts any. -/
theorem Use.paced_program (root : String) (use : Use) :
    (use.isRescan = true ∧ ∃ rest : Program Unit,
        use.program root = .ask (I := interface) .countPass (fun _ => rest) ∧
          Flow.AsksOnly (I := interface) (fun r => r.paces = false) rest) ∨
      (use.isRescan = false ∧
        Flow.AsksOnly (I := interface) (fun r => r.paces = false) (use.program root)) := by
  have quiet {α : Type} {program : Program α} (h : OnlyLooks program) :
      Flow.AsksOnly (I := interface) (fun r => r.paces = false) (program >>= fun _ => .done ()) :=
    (h.mono fun _ => Request.paces_of_looks).bind fun _ => trivial
  cases use with
  | rescan =>
      obtain ⟨rest, hrescan, hrest⟩ := rescan_eq root
      refine .inl ⟨rfl, rest >>= fun _ => .done (), ?_, ?_⟩
      · exact congrArg (· >>= fun _ => Flow.done ()) hrescan
      · exact (hrest.mono fun _ => And.left).bind fun _ => trivial
  | parentOf device => exact .inr ⟨rfl, quiet (parentOf_onlyLooks root device)⟩
  | slavesOf device => exact .inr ⟨rfl, quiet (slavesOf_onlyLooks root device)⟩
  | delete device => exact .inr ⟨rfl, rfl, fun _ => trivial⟩

theorem Use.total_passed {σ : Type} (answer : (r : Request) → StateM σ r.Answer) (root : String)
    (use : Use) (s : σ) :
    Flow.total (I := interface) Request.passed
        (((use.program root).play answer s).asked.filter Request.paces) =
      if use.isRescan then 1 else 0 := by
  rcases use.paced_program root with ⟨huse, rest, hprogram, hquiet⟩ | ⟨huse, hquiet⟩
  · rw [hprogram, Flow.play_ask, Run.asked_after, List.filter_append, hquiet.filter_asked, huse]
    rfl
  · rw [hquiet.filter_asked, huse]
    rfl

/-- A tally of passes tells how often views rescanned that are charged for. -/
theorem tally_afterUses {σ : Type} {answer : View → (r : Request) → StateM σ r.Answer}
    (tally : σ → Nat) (charged : View → Bool)
    (adds : ∀ v r s, tally (answer v r s).2 = tally s + if charged v then r.passed else 0)
    (s : σ) (uses : List (View × Use)) :
    tally (afterUses answer s uses) =
      tally s + uses.countP fun u => u.2.isRescan && charged u.1 := by
  induction uses generalizing s with
  | nil => rfl
  | cons first rest ih =>
      obtain ⟨v, use⟩ := first
      have hfree : ∀ r : Request, r.paces = false → (if charged v then r.passed else 0) = 0 := by
        intro r hr
        cases r <;> simp_all [Request.passed, Request.paces]
      have hfirst : tally ((use.program v.root).play (answer v) s).final =
          tally s + if use.isRescan && charged v then 1 else 0 := by
        rw [Flow.play_tally (I := interface) (answer v) (adds v) hfree]
        cases hcharged : charged v with
        | true => simp [use.total_passed]
        | false => simp [Flow.total_zero]
      have hrest := ih ((use.program v.root).play (answer v) s).final
      rw [hfirst] at hrest
      rw [List.countP_cons]
      exact hrest.trans (by dsimp only; omega)

theorem passes_viewAnswer {σ : Type} (answer : (r : Request) → StateM σ r.Answer) (v w : View)
    (r : Request) (c : Counted σ) :
    (w.answer answer r c).2.passes v.count =
      c.passes v.count + if w.count == v.count then r.passed else 0 := by
  cases r with
  | countPass =>
      by_cases hcount : w.count = v.count
      · simp [View.answer, Request.passed, hcount]
      · simp [View.answer, hcount, Function.update_of_ne (Ne.symm hcount)]
  | _ => simp [View.answer, Request.passed]

/-- What a pass over the hosts of a station comes to, with these that were listed. -/
structure Rescanned (s : Station) (root : String) (listed : Except IoError (List String))
    (run : Run interface Station Nat) : Prop where
  /-- Each host that is listed is told, whatever became of the others. -/
  asked : run.asked = .countPass :: .names root hostDirectory ::
    (listed.toOption.getD []).map fun host => .write root (scanAttribute host) scanAll
  complete : ∀ names, listed = .ok names →
    names.Pairwise (· < ·) ∧ ∀ host, host ∈ names ↔ s.HasEntry root hostDirectory host
  unlisted : ∀ e, listed = .error e → run.value = 0 ∧ run.final.tree = s.tree
  value : run.value = run.dialogue.countP accepted
  kept : { run.final with tree := s.tree } = { s with passes := s.passes + 1 }
  written : ∀ path, took root path ∈ run.dialogue → ∃ place, s.placeBelow root path = .ok place ∧
    run.final.tree.get? place = some (.file scanAll)
  unwritten : ∀ place, (∀ path, took root path ∈ run.dialogue →
    s.placeBelow root path ≠ .ok place) → run.final.tree.get? place = s.tree.get? place

theorem rescanned_rescan {answer : (r : Request) → StateM Station r.Answer}
    (hanswer : MayRefuse answer) {s : Station} (htree : s.tree.WellFormed) (root : String) :
    Rescanned s root (answer (.names root hostDirectory) { s with passes := s.passes + 1 }).1
      ((rescan root).play answer s) := by
  let counted : Station := { s with passes := s.passes + 1 }
  have hlisted {names : List String}
      (h : (answer (.names root hostDirectory) counted).1 = .ok names) :
      s.names root hostDirectory = .ok names := names_of_mayRefuse (s := counted) hanswer h
  have hrun := play_rescan_of_mayRefuse hanswer root s
  dsimp only at hrun
  rw [hrun]
  generalize (answer (.names root hostDirectory) counted).1 = listed at hlisted ⊢
  let told := (scanHosts root (listed.toOption.getD [])).play answer counted
  have hscanned : Scanned counted root told.dialogue told.final :=
    scanned_scanHosts (s := counted) hanswer htree root _
  obtain ⟨hasked, hvalue⟩ := play_scanHosts answer root (listed.toOption.getD []) counted
  have htook (path : String) : took root path ∈ (told.after
      [⟨Request.countPass, ()⟩, ⟨Request.names root hostDirectory, listed⟩]).dialogue ↔
        took root path ∈ told.dialogue := by
    rw [Run.dialogue_after]
    constructor
    · rintro (⟨⟩ | ⟨_, ⟨⟩ | ⟨_, h⟩⟩)
      exact h
    · exact fun h => .tail _ (.tail _ h)
  exact
    { asked := by
        rw [Run.asked_after]
        exact congrArg ([Request.countPass, .names root hostDirectory] ++ ·) hasked
      complete := by
        intro names hnames
        exact ⟨Station.pairwise_names htree (hlisted hnames),
          fun host => Station.mem_iff_hasEntry (hlisted hnames)⟩
      unlisted := by
        rintro e rfl
        exact ⟨rfl, rfl⟩
      value := hvalue
      kept := hscanned.kept
      written := by
        intro path hpath
        rw [htook] at hpath
        obtain ⟨place, hplace⟩ := hscanned.placed path hpath
        exact ⟨place, hplace, hscanned.written place ⟨path, hpath, hplace⟩⟩
      unwritten := by
        intro place hfree
        refine hscanned.unwritten place fun ⟨path, hpath, hplace⟩ => ?_
        exact hfree path ((htook path).mpr hpath) hplace }

/--
A pass counts itself, lists the hosts and tells each that is listed to look for disks, whatever
became of the others; where the hosts cannot be listed it ends with none.  As many as took it are
counted, and on a station that are those whose attributes can be written.  What they were told is
in their attributes after it, and nothing else of the host changes.

Each view shows as many passes as were made through it and the views that it shares its count with.
-/
theorem rescan_reaches_every_host {answer : (r : Request) → StateM Station r.Answer}
    (hanswer : MayRefuse answer) {s : Station} (htree : s.tree.WellFormed) (root : String) :
    Rescanned s root (answer (.names root hostDirectory) { s with passes := s.passes + 1 }).1
      ((rescan root).play answer s) ∧
    (∀ hosts, s.names root hostDirectory = .ok hosts →
      let run := (rescan root).play Station.answer s
      run.value = hosts.countP (fun host => (s.placeBelow root (scanAttribute host)).isOk) ∧
      ∀ host ∈ hosts, ∀ place, s.placeBelow root (scanAttribute host) = .ok place →
        run.final.tree.get? place = some (.file scanAll)) ∧
    ∀ (uses : List (View × Use)) (v : View),
      (afterUses (fun _ => answer) s uses).passes =
        s.passes + uses.countP (fun u => u.2.isRescan) ∧
      ∀ c : Counted Station, (afterUses (View.answer answer) c uses).passes v.count =
        c.passes v.count + uses.countP fun u => u.2.isRescan && u.1.count == v.count := by
  refine ⟨rescanned_rescan hanswer htree root, ?_, ?_⟩
  · intro hosts hlisted
    let counted : Station := { s with passes := s.passes + 1 }
    have hrun := play_rescan_of_mayRefuse mayRefuse_answer root s
    have hhosts : (Station.answer (.names root hostDirectory) counted).1.toOption.getD [] = hosts :=
      congrArg (fun listed => listed.toOption.getD []) hlisted
    dsimp only at hrun ⊢
    rw [hrun, hhosts]
    refine ⟨value_scanHosts (s := counted) htree root hosts, fun host hhost place hplace => ?_⟩
    exact (scanned_scanHosts (s := counted) mayRefuse_answer htree root hosts).written place
      ⟨_, took_mem_scanHosts (s := counted) htree hhost hplace, hplace⟩
  · intro uses v
    refine ⟨?_, fun c => ?_⟩
    · simpa using tally_afterUses Station.passes (fun _ => true)
        (fun _ r s => hanswer.passes_answer r s) s uses
    · exact tally_afterUses (fun c : Counted Station => c.passes v.count)
        (fun w => w.count == v.count) (passes_viewAnswer answer v) c uses

/-- Of these hosts one is a file, one has a directory for an attribute, and one leads nowhere. -/
def mixedHosts : Station where
  tree :=
    let bus : Location := ["sys", "class", "scsi_host"]
    ⟨[(["sys"], .directory), (["sys", "class"], .directory), (bus, .directory),
      (bus ++ ["host0"], .directory), (bus ++ ["host1"], .file ""),
      (bus ++ ["host2"], .directory), (bus ++ ["host2", "scan"], .directory),
      (bus ++ ["host3"], .link "gone"), (bus ++ ["host4"], .directory),
      (bus ++ ["host4", "scan"], .file "old")]⟩
  base := []
  workingDirectory := []
  runner := .script []

/-- The first and the last of five hosts take it. -/
theorem rescan_reaches_every_host_mixed :
    let run := (rescan "/sys").play Station.answer mixedHosts
    let scan (host : String) : Location := ["sys", "class", "scsi_host", host, "scan"]
    run.value = 2 ∧ run.asked.length = 7 ∧
      run.final.tree.get? (scan "host0") = some (.file scanAll) ∧
      run.final.tree.get? (scan "host4") = some (.file scanAll) ∧
      ∀ (v : View) (c : Counted Station), (afterUses (View.answer Station.answer) c
        [(v, .rescan), (⟨"/gone", v.count⟩, .rescan)]).passes v.count = c.passes v.count + 2 := by
  intro run scan
  have htree : mixedHosts.tree.WellFormed := .of_forall (by decide) (by decide)
  have hlisted : mixedHosts.names "/sys" hostDirectory =
      .ok ["host0", "host1", "host2", "host3", "host4"] := by
    have hbelow : mixedHosts.below "/sys" = .ok ⟨["sys"], true⟩ := rfl
    have hopen : openDirectory mixedHosts.tree ⟨["sys"], true⟩ hostDirectory =
        .ok ["sys", "class", "scsi_host"] := by decide +kernel
    have hnames : mixedHosts.tree.names ["sys", "class", "scsi_host"] =
        ["host0", "host1", "host2", "host3", "host4"] :=
      List.mergeSort_of_pairwise (by decide +kernel)
    have hlist : listNames mixedHosts.tree ⟨["sys"], true⟩ hostDirectory =
        .ok (mixedHosts.tree.names ["sys", "class", "scsi_host"]) := by
      rw [listNames, hopen]
      rfl
    rw [Station.names, hbelow, ← hnames]
    exact hlist
  have hscan0 : mixedHosts.placeBelow "/sys" (scanAttribute "host0") = .ok (scan "host0") := by
    decide +kernel
  have hscan4 : mixedHosts.placeBelow "/sys" (scanAttribute "host4") = .ok (scan "host4") := by
    decide +kernel
  obtain ⟨hrescanned, hstation, hpasses⟩ := rescan_reaches_every_host mayRefuse_answer htree "/sys"
  obtain ⟨hvalue, hwritten⟩ := hstation _ hlisted
  have hhosts : (Station.answer (.names "/sys" hostDirectory)
      { mixedHosts with passes := mixedHosts.passes + 1 }).1 = .ok _ := hlisted
  have hasked := hrescanned.asked
  rw [hhosts] at hasked
  refine ⟨hvalue.trans (by decide +kernel), congrArg List.length hasked,
    hwritten "host0" (by decide) _ hscan0, hwritten "host4" (by decide) _ hscan4, ?_⟩
  intro v c
  refine ((hpasses _ v).2 c).trans ?_
  simp [Use.isRescan]

end Disk

end NodeVolumes
