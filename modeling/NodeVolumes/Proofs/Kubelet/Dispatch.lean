import NodeVolumes.Kubelet.Dispatch
import NodeVolumes.Proofs.Kubelet.Session

/-!
# The two halves of a dispatch

An operation is served in one of three ways (`Serves`): by a placement in a session of its own, by
work on the host, or without asking anything.  What each of them asks and leaves is told once, so
that operations keep cloud and host apart (`dispatch_keeps_apart`): those that need a cloud open
one session and leave the host as it was, the others leave cloud and names as they were, and what
is answered is a bare failure or a success with the fields of the operation and no others.
-/

namespace NodeVolumes.Kubelet

open Text

/-! ## What is answered -/

def Response.memberNames (r : Response) : List String :=
  match r.toJson with
  | .object members => members.map Prod.fst
  | _ => []

def Operation.results : Operation → List String
  | .init => ["capabilities"]
  | .getVolumeName _ => ["volumeName"]
  | .isAttached _ _ => ["attached"]
  | .attach _ _ | .waitForAttach _ => ["device"]
  | .mountDevice _ _ _ | .mount _ _ | .detach _ _ | .waitForDetach _ | .unmountDevice _
  | .unmount _ => []

/-- The name that an operation tells, if it tells any. -/
def Operation.toldName : Operation → Option String
  | .getVolumeName options => some (trim options.volumeIdText)
  | _ => none

/-- A success with the results of an operation and no others. -/
structure Operation.Answers (op : Operation) (r : Response) : Prop where
  status : r.status = .success
  members : r.memberNames = ["status", "message"] ++ op.results
  name : r.volumeName = op.toldName
  notBlank : r.volumeName ≠ some ""

/-- A failure that says nothing but why. -/
def Response.Fails (r : Response) : Prop :=
  r.status = .failed ∧ r.memberNames = ["status", "message"]

theorem fails_failure (message : String) : (Response.failure message).Fails :=
  ⟨rfl, rfl⟩

/-! ## How operations are served -/

/-- The ways in which an operation is served. -/
inductive Serves (op : Operation) : Action Error Response → Prop where
  | inSession {α : Type} (action : Placement.Action Placement.Error α) (respond : α → Response)
      (cloud : op.needsCloud = true) (answers : ∀ a, op.Answers (respond a)) :
      Serves op (inSession action >>= fun a => pure (respond a))
  | onHost {ε α : Type} (fault : ε → Error) (action : Host.Action ε α) (respond : α → Response)
      (cloudless : op.needsCloud = false) (answers : ∀ a, op.Answers (respond a)) :
      Serves op (onHost fault action >>= fun a => pure (respond a))
  | silent (outcome : Except Error Response) (cloudless : op.needsCloud = false)
      (answers : ∀ r, outcome = .ok r → op.Answers r) :
      Serves op (liftM outcome)

theorem answers_of_unnamed {op : Operation} {r : Response} (status : r.status = .success)
    (members : r.memberNames = ["status", "message"] ++ op.results) (name : r.volumeName = none)
    (told : op.toldName = none) : op.Answers r :=
  ⟨status, members, name.trans told.symm, by simp [name]⟩

theorem answers_volumeName {options : Options} {name : String}
    (h : volumeNameOf options = .ok name) :
    (Operation.getVolumeName options).Answers (Response.success.withVolumeName name) := by
  unfold volumeNameOf nonBlank at h
  by_cases hblank : trim options.volumeIdText = ""
  · simp [hblank] at h
  · simp only [hblank, if_false, Except.ok.injEq] at h
    subst h
    exact ⟨rfl, rfl, rfl, fun hempty => hblank (Option.some.inj hempty)⟩

theorem serves_execute (settings : Settings.Node) (driverName : String) (op : Operation) :
    Serves op (execute settings driverName op) := by
  cases op with
  | init =>
      refine .silent (.ok capabilities) rfl fun r hr => ?_
      cases hr
      exact answers_of_unnamed rfl rfl rfl rfl
  | getVolumeName options =>
      have hserves : _ → Serves (.getVolumeName options) _ :=
        .silent ((volumeNameOf options).map Response.success.withVolumeName) rfl
      have hexecute : execute settings driverName (.getVolumeName options) =
          liftM ((volumeNameOf options).map Response.success.withVolumeName) := by
        cases h : volumeNameOf options <;> simp only [execute, h] <;> rfl
      rw [hexecute]
      apply hserves
      intro r hr
      cases h : volumeNameOf options with
      | error e => simp [h, Except.map] at hr
      | ok name =>
          rw [h] at hr
          cases hr
          exact answers_volumeName h
  | isAttached options node =>
      exact .inSession (Placement.isAttached options.volumeIdText node)
        Response.success.withAttached rfl fun _ => answers_of_unnamed rfl rfl rfl rfl
  | attach options node =>
      exact .inSession (Placement.attach (demandOf options node))
        (fun outcome => Response.success.withDevice outcome.devicePath) rfl
        fun _ => answers_of_unnamed rfl rfl rfl rfl
  | waitForAttach device =>
      exact .onHost .discovery
        (Disk.waitFor (Command.helperOf settings.helper) settings.policy settings.layout device)
        (fun found => Response.success.withDevice found.devicePath) rfl
        fun _ => answers_of_unnamed rfl rfl rfl rfl
  | mountDevice path device options =>
      exact .onHost .mount _ (fun _ => .success) rfl fun _ => answers_of_unnamed rfl rfl rfl rfl
  | mount directory options =>
      exact .onHost .mount _ (fun _ => .success) rfl fun _ => answers_of_unnamed rfl rfl rfl rfl
  | detach volumeName node =>
      exact .inSession (Placement.detach volumeName node) (fun _ => .success) rfl
        fun _ => answers_of_unnamed rfl rfl rfl rfl
  | waitForDetach device =>
      refine .silent (.ok .success) rfl fun r hr => ?_
      cases hr
      exact answers_of_unnamed rfl rfl rfl rfl
  | unmountDevice path =>
      exact .onHost .mount _ (fun _ => .success) rfl fun _ => answers_of_unnamed rfl rfl rfl rfl
  | unmount directory =>
      exact .onHost .mount _
        (fun _ => .successWith ("Unmounted volume directory " ++ directory)) rfl
        fun _ => answers_of_unnamed rfl rfl rfl rfl

/-! ## What they ask and leave -/

/-- A run that serves an operation and touches only its half of the world. -/
structure Operation.KeepsApart (op : Operation) (w : World) {α : Type}
    (run : Run interface World α) : Prop where
  sessions : run.asked.countP Request.connects = if op.needsCloud then 1 else 0
  connects : run.final.connects = w.connects + if op.needsCloud then 1 else 0
  host : op.needsCloud = true →
    (∀ r ∈ run.asked, r.host? = none) ∧ run.final.station = w.station
  cloud : op.needsCloud = false ∨ w.connectError ≠ none →
    (∀ r ∈ run.asked, r.placement? = none) ∧ run.final.placement = w.placement

namespace World

variable {α ε : Type} {w : World}

/-- Opening a session, and what follows once it is open. -/
theorem run_inSession (action : Placement.Action Placement.Error α) :
    (inSession action).run =
      .ask (I := interface) .connect fun
        | .error e => .done (.error (.connect e))
        | .ok () => ofPlacement action.run >>= fun result =>
            .done (result.mapError Error.placement) := by
  refine congrArg (Flow.ask (I := interface) .connect) (funext fun reply => ?_)
  cases reply <;> rfl

theorem play_inSession_of_refused {e : Cloud.Error} (h : w.connectError = some e)
    (action : Placement.Action Placement.Error α) :
    (inSession action).run.play World.answer w =
      ⟨.error (.connect e), { w with connects := w.connects + 1 },
        [⟨Request.connect, .error e⟩]⟩ := by
  have hanswer : World.answer .connect w = (.error e, { w with connects := w.connects + 1 }) := by
    simp [World.answer, h]
  rw [run_inSession, Flow.play_ask, hanswer]
  rfl

theorem play_inSession_of_open (h : w.connectError = none)
    (action : Placement.Action Placement.Error α) :
    (inSession action).run.play World.answer w =
      let part := action.run.play Placement.World.answer w.placement
      ⟨part.value.mapError .placement,
        { w with connects := w.connects + 1, placement := part.final },
        ⟨Request.connect, .ok ()⟩ :: part.dialogue.map ofPlacementExchange⟩ := by
  have hanswer : World.answer .connect w = (.ok (), { w with connects := w.connects + 1 }) := by
    simp [World.answer, h]
  rw [run_inSession, Flow.play_ask, hanswer]
  dsimp only
  rw [Flow.play_bind, play_ofPlacement]
  simp [Run.after]

theorem play_onHost (fault : ε → Error) (action : Host.Action ε α) (w : World) :
    (onHost fault action).run.play World.answer w =
      let part := action.run.play Host.Station.answer w.station
      ⟨part.value.mapError fault, { w with station := part.final },
        part.dialogue.map ofHostExchange⟩ := by
  have hrun : (onHost fault action).run =
      ofHost action.run >>= fun result => .done (result.mapError fault) := rfl
  rw [hrun, Flow.play_bind, play_ofHost]
  simp [Run.after]

/-- A response is made of what was found, without asking any more. -/
theorem play_respond (action : Action Error α) (respond : α → Response) (w : World) :
    (action >>= fun a => pure (respond a)).run.play World.answer w =
      { action.run.play World.answer w with
        value := (action.run.play World.answer w).value.map respond } := by
  have hrun : (action >>= fun a => pure (respond a)).run =
      action.run >>= fun result => .done (result.map respond) := by
    refine congrArg (action.run >>= ·) (funext fun result => ?_)
    cases result <;> rfl
  rw [hrun, Flow.play_bind]
  simp [Run.after]

variable {op : Operation}

theorem keepsApart_inSession (cloud : op.needsCloud = true)
    (action : Placement.Action Placement.Error α) (w : World) :
    op.KeepsApart w ((inSession action).run.play World.answer w) := by
  cases h : w.connectError with
  | some e =>
      rw [play_inSession_of_refused h]
      have hasked : ∀ r ∈ [Request.connect], r.host? = none ∧ r.placement? = none := by
        intro r hr
        rw [List.mem_singleton.mp hr]
        exact ⟨rfl, rfl⟩
      exact ⟨by rw [cloud]; rfl, by rw [cloud]; rfl, fun _ => ⟨fun r hr => (hasked r hr).1, rfl⟩,
        fun _ => ⟨fun r hr => (hasked r hr).2, rfl⟩⟩
  | none =>
      rw [play_inSession_of_open h]
      constructor
      · rw [Run.asked, List.map_cons, List.countP_cons, countP_ofPlacement, cloud]
        rfl
      · rw [cloud]
        rfl
      · intro _
        refine ⟨fun r hr => ?_, rfl⟩
        rcases List.mem_cons.mp hr with rfl | hr
        · rfl
        · obtain ⟨q, rfl⟩ := exists_of_mem_ofPlacement hr
          rfl
      · rintro (cloudless | refused)
        · rw [cloud] at cloudless
          cases cloudless
        · exact absurd h refused

theorem keepsApart_onHost (cloudless : op.needsCloud = false) (fault : ε → Error)
    (action : Host.Action ε α) (w : World) :
    op.KeepsApart w ((onHost fault action).run.play World.answer w) := by
  rw [play_onHost]
  constructor
  · rw [Run.asked, countP_ofHost, cloudless]
    rfl
  · rw [cloudless]
    rfl
  · intro cloud
    rw [cloudless] at cloud
    cases cloud
  · intro _
    refine ⟨fun r hr => ?_, rfl⟩
    obtain ⟨q, rfl⟩ := exists_of_mem_ofHost hr
    rfl

theorem keepsApart_of_serves {program : Action Error Response} (h : Serves op program)
    (w : World) : op.KeepsApart w (program.run.play World.answer w) := by
  cases h with
  | inSession action respond cloud answers =>
      obtain ⟨hsessions, hconnects, hhost, hcloud⟩ := keepsApart_inSession cloud action w
      rw [play_respond]
      exact ⟨hsessions, hconnects, hhost, hcloud⟩
  | onHost fault action respond cloudless answers =>
      obtain ⟨hsessions, hconnects, hhost, hcloud⟩ := keepsApart_onHost cloudless fault action w
      rw [play_respond]
      exact ⟨hsessions, hconnects, hhost, hcloud⟩
  | silent outcome cloudless answers =>
      exact ⟨by rw [cloudless]; rfl, by rw [cloudless]; rfl, fun _ => ⟨nofun, rfl⟩,
        fun _ => ⟨nofun, rfl⟩⟩

/-- What serves an operation without failing answers it. -/
theorem answers_of_serves {program : Action Error Response} (h : Serves op program) (w : World)
    {r : Response} (hr : (program.run.play World.answer w).value = .ok r) : op.Answers r := by
  cases h with
  | inSession action respond cloud answers =>
      rw [play_respond] at hr
      cases hvalue : ((inSession action).run.play World.answer w).value with
      | error e => simp [hvalue, Except.map] at hr
      | ok a =>
          simp only [hvalue, Except.map, Except.ok.injEq] at hr
          exact hr ▸ answers a
  | onHost fault action respond cloudless answers =>
      rw [play_respond] at hr
      cases hvalue : ((onHost fault action).run.play World.answer w).value with
      | error e => simp [hvalue, Except.map] at hr
      | ok a =>
          simp only [hvalue, Except.map, Except.ok.injEq] at hr
          exact hr ▸ answers a
  | silent outcome cloudless answers => exact answers r hr

/-- Without a session an operation that needs one fails. -/
theorem exists_error_of_refused {program : Action Error Response} (h : Serves op program)
    (cloud : op.needsCloud = true) (refused : w.connectError ≠ none) :
    ∃ e, (program.run.play World.answer w).value = .error e := by
  cases h with
  | inSession action respond _ answers =>
      obtain ⟨e, he⟩ := Option.ne_none_iff_exists'.mp refused
      rw [play_respond, play_inSession_of_refused he]
      exact ⟨.connect e, rfl⟩
  | onHost fault action respond cloudless answers => simp [cloud] at cloudless
  | silent outcome cloudless answers => simp [cloud] at cloudless

theorem play_dispatch (settings : Settings.Node) (driverName : String) (op : Operation)
    (w : World) :
    (dispatch settings driverName op).play World.answer w =
      { (execute settings driverName op).run.play World.answer w with
        value := responseOf ((execute settings driverName op).run.play World.answer w).value } := by
  have hdispatch : dispatch settings driverName op =
      (execute settings driverName op).run >>= fun result => .done (responseOf result) := rfl
  rw [hdispatch, Flow.play_bind]
  simp [Run.after]

/--
An operation opens one session if it needs a cloud, and then leaves the host alone; otherwise it
opens none and leaves cloud and names alone.  It also leaves them alone if it gets no session, and
fails.  What it answers is a bare failure or a success with its results and no others.
-/
theorem dispatch_keeps_apart (settings : Settings.Node) (driverName : String) (op : Operation)
    (w : World) :
    let run := (dispatch settings driverName op).play World.answer w
    op.KeepsApart w run ∧ (run.value.Fails ∨ op.Answers run.value) ∧
      (op.needsCloud = true → w.connectError ≠ none → run.value.Fails) := by
  have hserves := serves_execute settings driverName op
  have happart := keepsApart_of_serves hserves w
  have hanswers : ∀ r, ((execute settings driverName op).run.play World.answer w).value = .ok r →
      op.Answers r := fun _ => answers_of_serves hserves w
  have hrefused := exists_error_of_refused hserves (w := w)
  rw [play_dispatch]
  generalize (execute settings driverName op).run.play World.answer w = served at *
  obtain ⟨outcome, final, dialogue⟩ := served
  obtain ⟨hsessions, hconnects, hhost, hcloud⟩ := happart
  refine ⟨⟨hsessions, hconnects, hhost, hcloud⟩, ?_, ?_⟩
  · cases outcome with
    | error e => exact .inl (fails_failure e.message)
    | ok r => exact .inr (hanswers r rfl)
  · intro cloud refused
    obtain ⟨e, rfl⟩ := hrefused cloud refused
    exact fails_failure e.message

/-- A small cloud, a host without files on which nothing can be started, and what becomes of
connecting. -/
def smallWorld (connectError : Option Cloud.Error) : World where
  placement := { cloud := .reference, names := {} }
  station := { tree := .empty, base := [], workingDirectory := [], runner := .script [] }
  connectError := connectError

def attachFirst : Operation :=
  .attach { volumeId := some " vol_1 " } "1.2.3.4"

/-- An attachment tells its device and leaves the host alone; without a session it fails and leaves
the cloud alone too. -/
theorem dispatch_apart_attachFirst :
    let served := (dispatch {} "flexvol" attachFirst).play World.answer (smallWorld none)
    let refused := (dispatch {} "flexvol" attachFirst).play World.answer
      (smallWorld (some (.provider "down")))
    served.final.connects = 1 ∧ served.final.station = (smallWorld none).station ∧
      served.value.device = some "/dev/disk/by-id/wwn-0xwwn_1" ∧
      served.value.memberNames = ["status", "message", "device"] ∧
      refused.value.Fails ∧ refused.final.placement = (smallWorld none).placement := by
  intro served refused
  obtain ⟨hserved, hanswered, -⟩ := dispatch_keeps_apart {} "flexvol" attachFirst (smallWorld none)
  obtain ⟨hkept, -, hfails⟩ := dispatch_keeps_apart {} "flexvol" attachFirst
    (smallWorld (some (.provider "down")))
  have hdevice : served.value.device = some "/dev/disk/by-id/wwn-0xwwn_1" := by decide +kernel
  have hanswers : attachFirst.Answers served.value := by
    rcases hanswered with hfailed | hanswers
    · have hstatus : served.value.status = .success := by decide +kernel
      exact absurd (hstatus.symm.trans hfailed.1) (by decide)
    · exact hanswers
  exact ⟨hserved.connects, (hserved.host rfl).2, hdevice, hanswers.members,
    hfails rfl (by simp [smallWorld]), (hkept.cloud (.inr (by simp [smallWorld]))).2⟩

end World

end NodeVolumes.Kubelet
