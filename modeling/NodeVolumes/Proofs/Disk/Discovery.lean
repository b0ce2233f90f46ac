import Mathlib.Data.Nat.Find
import Mathlib.Logic.Function.Iterate
import NodeVolumes.Disk.Discovery
import NodeVolumes.Proofs.Host.Looking

/-!
# Runs of discovery

An attempt of discovery turns a station into the one that the attempt looks at (`nudged`), so the
station at the look of each attempt is an iterate (`moment`).  Attempts that see nothing only move
discovery on (`play_poll_of_missed`); the first one that sees the link ends it, and if none does, it
ends with the attempts (`waitFor_bounded`).
-/

namespace NodeVolumes.Disk

open Host

section Attempt

variable (helper : Option String) (policy : Policy) (layout : Layout) (expected : String)

def scan : Program Nat := do
  ask (.sleep policy.interval)
  rescan layout.sysfsRoot

/-- What an attempt does before it looks. -/
def nudge : Program Unit := do
  let _ ← scan policy layout
  let _ ← (replayEvents helper expected).run
  return ()

def scanned (s : Station) : Station :=
  ((scan policy layout).play Station.answer s).final

def nudged (s : Station) : Station :=
  ((nudge helper policy layout expected).play Station.answer s).final

/-- The station when attempt `k` looks; at 0, the one before all attempts. -/
def moment (s : Station) (k : Nat) : Station :=
  (nudged helper policy layout expected)^[k] s

/-- What an attempt asks and is answered. -/
def round (directory name : String) (s : Station) : List (Exchange interface) :=
  ((nudge helper policy layout expected).play Station.answer s).dialogue ++
    [⟨.isLink directory name, (nudged helper policy layout expected s).isLink directory name⟩]

def rounds (directory name : String) (s : Station) (k : Nat) : List (Exchange interface) :=
  (List.range k).flatMap fun j =>
    round helper policy layout expected directory name (moment helper policy layout expected s j)

def settling : Command :=
  (Command.ofTexts udevadm ["settle"]).behind helper

def triggering (present : Bool) : Command :=
  (Command.ofTexts udevadm (if present then ["trigger", expected] else ["trigger"])).behind helper

/-- The commands of a replay: the second one only if the first succeeds. -/
def replaying (s : Station) : List Command :=
  let (reply, settled) := s.run (settling helper)
  match reply with
  | .ok output =>
      if output.isSuccess then
        [settling helper, triggering helper expected (settled.pathExists expected)]
      else [settling helper]
  | .error _ => [settling helper]

variable {helper policy layout expected} {directory name : String} {s : Station}

theorem moment_succ (s : Station) (k : Nat) :
    moment helper policy layout expected s (k + 1) =
      nudged helper policy layout expected (moment helper policy layout expected s k) :=
  Function.iterate_succ_apply' _ k s

theorem rounds_succ (s : Station) (k : Nat) :
    rounds helper policy layout expected directory name s (k + 1) =
      rounds helper policy layout expected directory name s k ++
        round helper policy layout expected directory name
          (moment helper policy layout expected s k) := by
  simp [rounds, List.range_succ]

def afterLook (helper : Option String) (policy : Policy) (layout : Layout)
    (expected directory name : String) (left : Nat) :
    Except File.IoError Bool → Action DiscoveryError Descriptor
  | .ok isLink => describe layout expected isLink
  | .error _ => poll helper policy layout expected directory name left

theorem poll_succ (left : Nat) :
    poll helper policy layout expected directory name (left + 1) = (do
      ExceptT.lift (ask (.sleep policy.interval))
      let _ ← ExceptT.lift (rescan layout.sysfsRoot)
      let _ ← ExceptT.lift (replayEvents helper expected).run
      ExceptT.lift (ask (.isLink directory name)) >>=
        afterLook helper policy layout expected directory name left) := by
  unfold poll
  refine congrArg _ (funext fun _ => congrArg _ (funext fun _ => congrArg _ (funext fun _ =>
    congrArg _ (funext fun found => ?_))))
  cases found <;> rfl

theorem play_nudge (s : Station) :
    (nudge helper policy layout expected).play Station.answer s =
      ⟨(), ((replayEvents helper expected).run.play Station.answer (scanned policy layout s)).final,
        ((scan policy layout).play Station.answer s).dialogue ++
          ((replayEvents helper expected).run.play Station.answer
            (scanned policy layout s)).dialogue⟩ := by
  unfold nudge scanned
  rw [Flow.play_bind, Flow.play_bind, Flow.pure_eq_done, Flow.play_done]
  simp [Run.after]

/-- An attempt, and what follows from what it saw. -/
theorem play_poll_succ (left : Nat) :
    (poll helper policy layout expected directory name (left + 1)).run.play Station.answer s =
      ((afterLook helper policy layout expected directory name left
          ((nudged helper policy layout expected s).isLink directory name)).run.play Station.answer
            (nudged helper policy layout expected s)).after
        (round helper policy layout expected directory name s) := by
  have hlook : ∀ t : Station, (ask (.isLink directory name)).play Station.answer t =
      ⟨t.isLink directory name, t, [⟨.isLink directory name, t.isLink directory name⟩]⟩ :=
    fun _ => rfl
  rw [poll_succ, Flow.play_lift_bind, Flow.play_lift_bind, Flow.play_lift_bind,
    Flow.play_lift_bind, hlook]
  unfold round nudged
  rw [play_nudge]
  unfold scanned scan
  rw [Flow.play_bind]
  simp only [Run.after_after, Run.final_after, Run.dialogue_after, List.append_assoc]

end Attempt

/-! ## What an attempt asks -/

section Asked

variable {helper : Option String} {policy : Policy} {layout : Layout} {expected : String}

/-- A request that neither lets time pass nor runs a command. -/
def IsQuiet (r : Request) : Prop :=
  r.paces = false ∧ r.command? = none

theorem scanHosts_asksOnly (root : String) (hosts : List String) :
    Flow.AsksOnly (I := interface) IsQuiet (scanHosts root hosts) := by
  induction hosts with
  | nil => trivial
  | cons host rest ih => exact ⟨⟨rfl, rfl⟩, fun _ => ih.bind fun _ => trivial⟩

theorem rescan_eq (root : String) : ∃ rest : Program Nat,
    rescan root = .ask (I := interface) .countPass (fun _ => rest) ∧
      Flow.AsksOnly (I := interface) IsQuiet rest := by
  refine ⟨_, rfl, ⟨rfl, rfl⟩, fun reply => ?_⟩
  cases reply with
  | error e => trivial
  | ok hosts => exact scanHosts_asksOnly root hosts

theorem asked_scan (policy : Policy) (layout : Layout) (s : Station) :
    ∃ quiet : List Request, ((scan policy layout).play Station.answer s).asked =
      .sleep policy.interval :: .countPass :: quiet ∧ ∀ r ∈ quiet, IsQuiet r := by
  obtain ⟨rest, hrescan, hrest⟩ := rescan_eq layout.sysfsRoot
  let begun : Station := { s with waited := s.waited + policy.interval, passes := s.passes + 1 }
  refine ⟨(rest.play Station.answer begun).asked, ?_,
    fun r hr => hrest.of_mem_asked Station.answer hr⟩
  unfold scan
  rw [hrescan]
  rfl

theorem asked_replayEvents_of_ok {s : Station} {output : Command.Output}
    (hreply : (s.run (settling helper)).1 = .ok output) (hsuccess : output.isSuccess = true) :
    ((replayEvents helper expected).run.play Station.answer s).asked =
      [.run (settling helper), .pathExists expected,
        .run (triggering helper expected ((s.run (settling helper)).2.pathExists expected))] := by
  have hchecked : checked (.ofTexts udevadm ["settle"]) (s.run (settling helper)).1 =
      .ok output := by
    rw [hreply]
    simp [checked, Command.check, hsuccess]
  unfold replayEvents
  rw [play_runChecked_bind_of_ok hchecked, Flow.play_lift_bind, Run.asked_after, Run.asked_after]
  dsimp only
  rw [asked_runChecked_bind_pure]
  rfl

theorem asked_replayEvents_of_failed {s : Station}
    (hfailed : ∀ output, (s.run (settling helper)).1 = .ok output → output.isSuccess = false) :
    ((replayEvents helper expected).run.play Station.answer s).asked =
      [.run (settling helper)] := by
  obtain ⟨e, hchecked⟩ : ∃ e, checked (.ofTexts udevadm ["settle"]) (s.run (settling helper)).1 =
      .error e := by
    cases hreply : (s.run (settling helper)).1 with
    | error failure => exact ⟨_, rfl⟩
    | ok output => simp [checked, Command.check, hfailed output hreply]
  unfold replayEvents
  rw [play_runChecked_bind_of_error hchecked]
  rfl

/-- What a replay asks, whatever it comes to. -/
theorem asked_replayEvents (helper : Option String) (expected : String) (s : Station) :
    ((replayEvents helper expected).run.play Station.answer s).asked.filter Request.paces = [] ∧
    ((replayEvents helper expected).run.play Station.answer s).asked.filterMap Request.command? =
      replaying helper expected s := by
  unfold replaying
  cases hreply : (s.run (settling helper)).1 with
  | error failure =>
      rw [asked_replayEvents_of_failed (by simp [hreply])]
      simp [hreply, Request.paces, Request.command?]
  | ok output =>
      cases hsuccess : output.isSuccess with
      | true =>
          rw [asked_replayEvents_of_ok hreply hsuccess]
          simp only [hreply, hsuccess, if_true]
          exact ⟨rfl, rfl⟩
      | false =>
          rw [asked_replayEvents_of_failed (by simp [hreply, hsuccess])]
          simp [hreply, hsuccess, Request.paces, Request.command?]

/-- The time that an attempt lets pass, its scan and its commands. -/
theorem asked_round (helper : Option String) (policy : Policy) (layout : Layout)
    (expected directory name : String) (s : Station) :
    ((round helper policy layout expected directory name s).map Sigma.fst).filter Request.paces =
      [.sleep policy.interval, .countPass] ∧
    ((round helper policy layout expected directory name s).map Sigma.fst).filterMap
      Request.command? = replaying helper expected (scanned policy layout s) := by
  obtain ⟨quiet, hscan, hquiet⟩ := asked_scan policy layout s
  obtain ⟨hpaces, hcommands⟩ := asked_replayEvents helper expected (scanned policy layout s)
  have hfilter : quiet.filter Request.paces = [] :=
    List.filter_eq_nil_iff.mpr fun r hr => by simp [(hquiet r hr).1]
  have hfilterMap : quiet.filterMap Request.command? = [] :=
    List.filterMap_eq_nil_iff.mpr fun r hr => (hquiet r hr).2
  have hasked : (round helper policy layout expected directory name s).map Sigma.fst =
      .sleep policy.interval :: .countPass :: quiet ++
        ((replayEvents helper expected).run.play Station.answer
          (scanned policy layout s)).asked ++ [.isLink directory name] := by
    rw [← hscan, round, play_nudge, List.map_append, List.map_append]
    rfl
  rw [hasked, List.filter_append, List.filter_append, List.filterMap_append,
    List.filterMap_append, hpaces, hcommands]
  constructor
  · change (.sleep policy.interval :: .countPass :: quiet.filter Request.paces) ++ [] ++ [] = _
    rw [hfilter]
    rfl
  · change quiet.filterMap Request.command? ++ replaying helper expected _ ++ [] = _
    rw [hfilterMap, List.append_nil]
    rfl

end Asked

/-! ## What a link is described as -/

theorem firstWithSlave_onlyLooks (root slave : String) (devices : List String) :
    OnlyLooks (firstWithSlave root slave devices) := by
  induction devices with
  | nil => trivial
  | cons device rest ih =>
      refine ⟨rfl, fun found => ?_⟩
      cases found with
      | true => trivial
      | false => exact ih

theorem parentOf_onlyLooks (root device : String) : OnlyLooks (parentOf root device) := by
  refine ⟨rfl, fun reply => ?_⟩
  cases reply with
  | error e => trivial
  | ok names => exact firstWithSlave_onlyLooks root device _

theorem slavesOf_onlyLooks (root device : String) : OnlyLooks (slavesOf root device) := by
  refine ⟨rfl, fun reply => ?_⟩
  cases reply <;> trivial

def describeTarget (layout : Layout) (expected target : String) :
    Program (Except DiscoveryError Descriptor) :=
  match Path.fileName target with
  | none => .done (.error (.unresolvable expected (.unnamed target)))
  | some device =>
      parentOf layout.sysfsRoot device >>= fun parent =>
        match parent with
        | none => .done (.ok { expected, resolved := target })
        | some parent => slavesOf layout.sysfsRoot parent >>= fun slaves =>
            .done (.ok
              { expected
                resolved := target
                parent := some (Path.join layout.devRoot parent)
                slaves := slaves.map (Path.join layout.devRoot) })

theorem run_describe_link (layout : Layout) (expected : String) :
    (describe layout expected true).run =
      .ask (I := interface) (.canonical expected) fun target =>
        match target with
        | .error e => .done (.error (.unresolvable expected (.io e)))
        | .ok target => describeTarget layout expected target := by
  refine congrArg (Flow.ask (I := interface) _) (funext fun target => ?_)
  cases target with
  | error e => rfl
  | ok target =>
      unfold describeTarget
      simp only [Flow.bind]
      cases Path.fileName target with
      | none => rfl
      | some device =>
          refine congrArg (parentOf layout.sysfsRoot device >>= ·) (funext fun parent => ?_)
          cases parent <;> rfl

theorem describe_onlyLooks (layout : Layout) (expected : String) (isLink : Bool) :
    OnlyLooks (describe layout expected isLink).run := by
  cases isLink with
  | false => trivial
  | true =>
      rw [run_describe_link]
      refine ⟨rfl, fun target => ?_⟩
      cases target with
      | error e => trivial
      | ok target =>
          change OnlyLooks (describeTarget layout expected target)
          unfold describeTarget
          cases Path.fileName target with
          | none => trivial
          | some device =>
              refine (parentOf_onlyLooks _ device).bind fun parent => ?_
              cases parent with
              | none => trivial
              | some parent => exact (slavesOf_onlyLooks _ parent).bind fun _ => trivial

/-- What a path that is there comes to: a description, or that it leads to no device. -/
def IsVerdict (expected : String) : Except DiscoveryError Descriptor → Prop
  | .ok d => d.expected = expected
  | .error e => ∃ fault, e = .unresolvable expected fault

theorem isVerdict_describe (layout : Layout) (expected : String) (isLink : Bool) (s : Station) :
    IsVerdict expected ((describe layout expected isLink).run.play Station.answer s).value := by
  cases isLink with
  | false => rfl
  | true =>
      rw [run_describe_link, Flow.play_ask, Run.value_after]
      cases (Station.answer (.canonical expected) s).1 with
      | error e => exact ⟨_, rfl⟩
      | ok target =>
          dsimp only
          unfold describeTarget
          cases Path.fileName target with
          | none => exact ⟨_, rfl⟩
          | some device =>
              rw [Flow.play_bind, Run.value_after]
              cases ((parentOf layout.sysfsRoot device).play Station.answer _).value with
              | none => rfl
              | some parent =>
                  rw [Flow.play_bind]
                  rfl

/-! ## Runs of attempts -/

section Attempts

variable {helper : Option String} {policy : Policy} {layout : Layout}
  {expected directory name : String}

/-- Attempts that see nothing move discovery on to the attempts that are left. -/
theorem play_poll_of_missed {s : Station} {m : Nat} (hname : Path.IsName name)
    (missed : ∀ j, 1 ≤ j → j ≤ m →
      (moment helper policy layout expected s j).entryAt? directory name = none) (left : Nat) :
    (poll helper policy layout expected directory name (m + left)).run.play Station.answer s =
      ((poll helper policy layout expected directory name left).run.play Station.answer
        (moment helper policy layout expected s m)).after
          (rounds helper policy layout expected directory name s m) := by
  induction m generalizing left with
  | zero =>
      rw [Nat.zero_add]
      rfl
  | succ m ih =>
      have hearlier := ih (fun j hpos hle => missed j hpos (by omega)) (left + 1)
      obtain ⟨e, hlook⟩ :=
        Station.exists_isLink_eq_error hname (missed (m + 1) (by omega) (by omega))
      rw [Nat.add_right_comm m 1 left, Nat.add_assoc, hearlier, play_poll_succ, ← moment_succ,
        hlook, Run.after_after, ← rounds_succ]
      rfl

/-- The attempt that sees the link ends discovery. -/
theorem play_poll_of_seen {s : Station} {m : Nat} {entry : File.Entry} (hname : Path.IsName name)
    (missed : ∀ j, 1 ≤ j → j ≤ m →
      (moment helper policy layout expected s j).entryAt? directory name = none)
    (hseen : (moment helper policy layout expected s (m + 1)).entryAt? directory name = some entry)
    (left : Nat) :
    (poll helper policy layout expected directory name (m + (left + 1))).run.play
        Station.answer s =
      ((describe layout expected entry.isLink).run.play Station.answer
        (moment helper policy layout expected s (m + 1))).after
          (rounds helper policy layout expected directory name s (m + 1)) := by
  rw [play_poll_of_missed hname missed, play_poll_succ, ← moment_succ,
    Station.isLink_of_entryAt? hname hseen, Run.after_after, ← rounds_succ]
  rfl

/-- Discovery leaves the station of the first look that saw the path, described as it stood there,
or that of the last look. -/
theorem poll_cases (helper : Option String) (policy : Policy) (layout : Layout)
    (expected directory : String) {name : String} (hname : Path.IsName name) (s : Station)
    (attempts : Nat) :
    let r := (poll helper policy layout expected directory name attempts).run.play
      Station.answer s
    let moment := moment helper policy layout expected s
    (∃ m entry, m < attempts ∧ (∀ j, 1 ≤ j → j ≤ m → (moment j).entryAt? directory name = none) ∧
      (moment (m + 1)).entryAt? directory name = some entry ∧ r.final = moment (m + 1) ∧
      r.value = ((describe layout expected entry.isLink).run.play Station.answer
        (moment (m + 1))).value) ∨
    ((∀ j, 1 ≤ j → j ≤ attempts → (moment j).entryAt? directory name = none) ∧
      r.final = moment attempts ∧
      r.value = .error (.deviceNotFound expected policy.attempts)) := by
  intro r moment
  by_cases hseen : ∃ m, m < attempts ∧ (moment (m + 1)).entryAt? directory name ≠ none
  · left
    let m := Nat.find hseen
    obtain ⟨hlt, hsome⟩ : m < attempts ∧ (moment (m + 1)).entryAt? directory name ≠ none :=
      Nat.find_spec hseen
    obtain ⟨entry, hentry⟩ := Option.ne_none_iff_exists'.mp hsome
    have hmissed : ∀ j, 1 ≤ j → j ≤ m → (moment j).entryAt? directory name = none := by
      intro j hpos hle
      obtain ⟨i, rfl⟩ : ∃ i, j = i + 1 := ⟨j - 1, by omega⟩
      by_contra hne
      have hmin : m ≤ i := Nat.find_min' hseen ⟨by omega, hne⟩
      omega
    obtain ⟨left, hleft⟩ : ∃ left, attempts = m + (left + 1) := ⟨attempts - (m + 1), by omega⟩
    have hplay := play_poll_of_seen hname hmissed hentry left
    rw [← hleft] at hplay
    refine ⟨m, entry, hlt, hmissed, hentry, ?_, ?_⟩ <;> unfold r <;> rw [hplay]
    · exact Station.final_play_of_onlyLooks (describe_onlyLooks layout expected _) _
    · rfl
  · right
    have hmissed : ∀ j, 1 ≤ j → j ≤ attempts →
        (moment j).entryAt? directory name = none := by
      intro j hpos hle
      by_contra hne
      refine hseen ⟨j - 1, by omega, ?_⟩
      rwa [Nat.sub_add_cancel hpos]
    have hplay := play_poll_of_missed hname hmissed 0
    rw [Nat.add_zero] at hplay
    refine ⟨hmissed, ?_, ?_⟩ <;> unfold r <;> rw [hplay] <;> rfl

theorem waitFor_eq_poll (helper : Option String) (policy : Policy) (layout : Layout)
    (hname : Path.fileName expected = some name) :
    waitFor helper policy layout expected = poll helper policy layout expected
      ((Path.parent expected).getD "/") name policy.attempts := by
  rw [waitFor, hname]

/-- With an attempt at least, discovery describes the path as it is there in the end, or tells that
it is not. -/
theorem waitFor_cases (helper : Option String) (layout : Layout)
    (hname : Path.fileName expected = some name) (hattempts : 0 < policy.attempts) (s : Station) :
    let r := (waitFor helper policy layout expected).run.play Station.answer s
    (∃ entry, r.final.entryAt? ((Path.parent expected).getD "/") name = some entry ∧
      r.value = ((describe layout expected entry.isLink).run.play Station.answer r.final).value) ∨
    (r.final.entryAt? ((Path.parent expected).getD "/") name = none ∧
      r.value = .error (.deviceNotFound expected policy.attempts)) := by
  intro r
  have hcases := poll_cases helper policy layout expected ((Path.parent expected).getD "/")
    (Path.isName_of_fileName hname) s policy.attempts
  rw [← waitFor_eq_poll helper policy layout hname] at hcases
  rcases hcases with ⟨m, entry, -, -, hseen, hfinal, hvalue⟩ | ⟨hmissed, hfinal, hvalue⟩
  · left
    rw [← hfinal] at hseen hvalue
    exact ⟨entry, hseen, hvalue⟩
  · right
    have hlast := hmissed policy.attempts hattempts (Nat.le_refl _)
    rw [← hfinal] at hlast
    exact ⟨hlast, hvalue⟩

theorem asked_rounds (helper : Option String) (policy : Policy) (layout : Layout)
    (expected directory name : String) (s : Station) (k : Nat) :
    ((rounds helper policy layout expected directory name s k).map Sigma.fst).filter
        Request.paces = (List.replicate k [.sleep policy.interval, .countPass]).flatten ∧
    ((rounds helper policy layout expected directory name s k).map Sigma.fst).filterMap
        Request.command? = (List.range k).flatMap fun j => replaying helper expected
          (scanned policy layout (moment helper policy layout expected s j)) := by
  induction k with
  | zero => exact ⟨rfl, rfl⟩
  | succ k ih =>
      obtain ⟨hpaces, hcommands⟩ := asked_round helper policy layout expected directory name
        (moment helper policy layout expected s k)
      rw [rounds_succ, List.map_append, List.filter_append, List.filterMap_append, hpaces,
        hcommands, ih.1, ih.2, List.replicate_succ', List.flatten_append, List.range_succ,
        List.flatMap_append]
      simp

variable (helper policy layout expected) in
/-- What a run of `k` attempts does on a station. -/
structure Attempted {α : Type} (host : Station) (k : Nat) (r : Run interface Station α) :
    Prop where
  /-- It waits and scans the bus in turn, `k` times each. -/
  pacing : r.asked.filter Request.paces =
    (List.replicate k [.sleep policy.interval, .countPass]).flatten
  waited : r.final.waited = host.waited + k * policy.interval
  passes : r.final.passes = host.passes + k
  /-- Its commands are those that ask for events to be replayed after each scan. -/
  commands : r.asked.filterMap Request.command? = (List.range k).flatMap fun j =>
    replaying helper expected (scanned policy layout (moment helper policy layout expected host j))

theorem total_pacing (cost : Request → Nat) (policy : Policy) (k : Nat) :
    Flow.total (I := interface) cost
      (List.replicate k [Request.sleep policy.interval, .countPass]).flatten =
        k * (cost (.sleep policy.interval) + cost .countPass) := by
  induction k with
  | zero => simp [Flow.total]
  | succ k ih =>
      rw [List.replicate_succ, List.flatten_cons, Flow.total_append, ih, Nat.succ_mul]
      simp [Flow.total, Nat.add_comm]

theorem attempted_of_eq {α : Type} {program rest : Program α} {host : Station} {k : Nat}
    (hlooks : OnlyLooks rest)
    (h : program.play Station.answer host =
      (rest.play Station.answer (moment helper policy layout expected host k)).after
        (rounds helper policy layout expected directory name host k)) :
    Attempted helper policy layout expected host k (program.play Station.answer host) := by
  obtain ⟨hpaces, hcommands⟩ := asked_rounds helper policy layout expected directory name host k
  have hpacing : (program.play Station.answer host).asked.filter Request.paces =
      (List.replicate k [.sleep policy.interval, .countPass]).flatten := by
    rw [h, Run.asked_after, List.filter_append, hpaces,
      (hlooks.mono fun r => Request.paces_of_looks).filter_asked, List.append_nil]
  refine ⟨hpacing, ?_, ?_, ?_⟩
  · rw [Station.waited_play, hpacing, total_pacing]
    rfl
  · rw [Station.passes_play, hpacing, total_pacing]
    simp [Request.passed]
  · rw [h, Run.asked_after, List.filterMap_append, hcommands,
      (hlooks.mono fun r => Request.command?_of_looks).filterMap_asked, List.append_nil]

/-- Nothing but the files that the attempts see decides what they come to. -/
theorem value_poll_congr {s t : Station} {left : Nat}
    (hdirectory : s.workingDirectory = t.workingDirectory)
    (htrees : ∀ j, 1 ≤ j → j ≤ left → (moment helper policy layout expected s j).tree =
      (moment helper policy layout expected t j).tree) :
    ((poll helper policy layout expected directory name left).run.play Station.answer s).value =
      ((poll helper policy layout expected directory name left).run.play Station.answer
        t).value := by
  induction left generalizing s t with
  | zero => rfl
  | succ left ih =>
      have hsame : SameFiles (nudged helper policy layout expected s)
          (nudged helper policy layout expected t) := by
        refine ⟨htrees 1 (by omega) (by omega), ?_⟩
        unfold nudged
        rw [Station.workingDirectory_play, Station.workingDirectory_play, hdirectory]
      have hlook : (nudged helper policy layout expected s).isLink directory name =
          (nudged helper policy layout expected t).isLink directory name :=
        hsame.answer (r := .isLink directory name) rfl
      rw [play_poll_succ, play_poll_succ, Run.value_after, Run.value_after, hlook]
      cases (nudged helper policy layout expected t).isLink directory name with
      | ok isLink => exact hsame.value_play (describe_onlyLooks layout expected isLink)
      | error e =>
          exact ih hsame.workingDirectory fun j hpos hle => htrees (j + 1) (by omega) (by omega)

end Attempts

/--
Discovery is bounded.  A path without a last name is refused at once.  Otherwise the first attempt
that sees the link ends discovery with what the link is described as at that moment; if no attempt
does, discovery ends with the attempts.  Only the files that the attempts see decide about it, not
what becomes of the commands.
-/
theorem waitFor_bounded (helper : Option String) (policy : Policy) (layout : Layout)
    (expected : String) (host : Station) :
    let r := (waitFor helper policy layout expected).run.play Station.answer host
    let moment := moment helper policy layout expected
    (Path.fileName expected = none → r = ⟨.error (.unnamedPath expected), host, []⟩) ∧
    (∀ name, Path.fileName expected = some name →
      let seen j := (moment host j).entryAt? ((Path.parent expected).getD "/") name
      (∀ k entry, 1 ≤ k → k ≤ policy.attempts → (∀ j, 1 ≤ j → j < k → seen j = none) →
        seen k = some entry →
          Attempted helper policy layout expected host k r ∧
          r.value = ((describe layout expected entry.isLink).run.play Station.answer
            (moment host k)).value ∧ IsVerdict expected r.value) ∧
      ((∀ j, 1 ≤ j → j ≤ policy.attempts → seen j = none) →
          Attempted helper policy layout expected host policy.attempts r ∧
          r.value = .error (.deviceNotFound expected policy.attempts))) ∧
    ∀ other : Station, other.workingDirectory = host.workingDirectory →
      (∀ j, 1 ≤ j → j ≤ policy.attempts → (moment other j).tree = (moment host j).tree) →
        ((waitFor helper policy layout expected).run.play Station.answer other).value =
          r.value := by
  have hwait : ∀ name, Path.fileName expected = some name →
      waitFor helper policy layout expected = poll helper policy layout expected
        ((Path.parent expected).getD "/") name policy.attempts := by
    intro name hfileName
    rw [waitFor, hfileName]
  refine ⟨?_, ?_, ?_⟩
  · intro hnone
    simp only [waitFor, hnone]
    rfl
  · intro name hfileName
    have hname := Path.isName_of_fileName hfileName
    rw [hwait name hfileName]
    constructor
    · intro k entry hpos hle hmissed hseen
      -- `k` is one more than the attempts that saw nothing
      obtain ⟨m, rfl⟩ : ∃ m, k = m + 1 := ⟨k - 1, by omega⟩
      obtain ⟨left, hleft⟩ : ∃ left, policy.attempts = m + (left + 1) :=
        ⟨policy.attempts - (m + 1), by omega⟩
      have hplay := play_poll_of_seen hname (fun j hpos hle => hmissed j hpos (by omega)) hseen left
      rw [hleft]
      refine ⟨attempted_of_eq (describe_onlyLooks _ _ _) hplay, ?_, ?_⟩
      · rw [hplay]
        rfl
      · rw [hplay]
        exact isVerdict_describe _ _ _ _
    · intro hmissed
      have hplay := play_poll_of_missed hname hmissed 0
      rw [Nat.add_zero] at hplay
      refine ⟨attempted_of_eq ?_ hplay, ?_⟩
      · trivial
      · rw [hplay]
        rfl
  · intro other hdirectory htrees
    cases hfileName : Path.fileName expected with
    | none =>
        simp only [waitFor, hfileName]
        rfl
    | some name =>
        rw [hwait name hfileName]
        exact value_poll_congr hdirectory htrees

/-- A host whose first wait for device events fails, and on which the link of a disk appears with
the replay that follows the second one. -/
def late : Station :=
  .fresh [.directory "dev/disk/by-id"]
    (.script
      [⟨⟨some 1, "", "timeout"⟩, []⟩, ⟨⟨some 0, "", ""⟩, []⟩,
        ⟨⟨some 0, "", ""⟩, [.file "dev/sdb" "", .link "dev/disk/by-id/wwn-0x1" "../../sdb"]⟩])

theorem waitFor_bounded_late :
    let policy : Policy := { attempts := 3, interval := 5 }
    let expected := "/dev/disk/by-id/wwn-0x1"
    let r := (waitFor none policy {} expected).run.play Station.answer late
    Attempted none policy {} expected late 2 r ∧ IsVerdict expected r.value ∧
      r.value.toOption = some { expected, resolved := "/dev/sdb" } ∧ r.final.waited = 10 ∧
      r.asked.filterMap Request.command? =
        [settling none, settling none, triggering none expected false] := by
  intro policy expected r
  have hmissed : ∀ j, 1 ≤ j → j < 2 →
      (moment none policy {} expected late j).entryAt? ((Path.parent expected).getD "/")
        "wwn-0x1" = none := by
    intro j hpos hlt
    obtain rfl : j = 1 := by omega
    decide +kernel
  obtain ⟨-, hname, -⟩ := waitFor_bounded none policy {} expected late
  obtain ⟨hseen, -⟩ := hname "wwn-0x1" (by decide +kernel)
  obtain ⟨hattempted, -, hverdict⟩ :=
    hseen 2 (.link "../../sdb") (by decide) (by decide) hmissed (by decide +kernel)
  exact ⟨hattempted, hverdict, by decide +kernel, by decide +kernel, by decide +kernel⟩

end NodeVolumes.Disk
