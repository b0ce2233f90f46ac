import NodeVolumes.Proofs.Call.Fuel
import NodeVolumes.Proofs.Kubelet.Response
import NodeVolumes.Proofs.Rest.Login

/-!
# The line of a call

Whatever a call is and whatever it is answered, all that it writes is the text of one response and a
line end, and it writes that when it has ended.  The text has no line end in it and is read back as
the response, so what is written is one line from which a reader learns the response.

A call ends unless its exchanges with the cloud have no bound (`line_written_iff`).  It does where
every listing of the cloud ends, and an operation that needs no cloud always does; arguments that
cannot be run are declined before anything is asked.  A listing whose pages lead back to each other
keeps a call from ever writing its line (`line_never_written`).
-/

namespace NodeVolumes

open Kubelet
open Rest (Client Listing Peer bareHost smallClient turningPages turningPages_goesRound)

def Kubelet.Response.Declines (r : Response) : Prop :=
  r.status = .failed ∨ r.status = .notSupported

def Kubelet.Invocation.Runs : Invocation → Prop
  | .run _ => True
  | .respond _ | .help _ => False

instance : DecidablePred Kubelet.Invocation.Runs
  | .run _ => isTrue trivial
  | .respond _ | .help _ => isFalse not_false

theorem declines_of_argumentError (e : ArgumentError) : e.response.Declines := by
  cases e with
  | unknownOperation word => exact .inr rfl
  | _ => exact .inl rfl

/-- A command line that is answered at once is declined. -/
theorem declines_of_respond {argv : List Text.RawText} {r : Response}
    (h : Invocation.parse argv = .respond r) : r.Declines := by
  unfold Invocation.parse at h
  rcases hread : readCommandLine argv.tail with (reason | e) | (e | operation) <;> rw [hread] at h
  · cases h
  · cases h
    exact declines_of_argumentError e
  · cases h
    exact .inl rfl
  · cases h

namespace Call

variable {σ : Type}

theorem exists_response_of_not_runs {call : Call}
    (h : ¬(Invocation.parse call.arguments).Runs) :
    ∃ r : Response, r.Declines ∧ ∀ fuel, (call.response fuel).run = .done (some r) := by
  unfold response
  cases hparse : Invocation.parse call.arguments with
  | help reason => exact ⟨.failure usageElsewhere, .inl rfl, fun _ => rfl⟩
  | respond r => exact ⟨r, declines_of_respond hparse, fun _ => rfl⟩
  | run operation => exact absurd (hparse ▸ trivial) h

theorem play_output (call : Call) (fuel : Nat) (answer : (r : Request) → StateM σ r.Answer)
    (s : σ) :
    (call.output fuel).play answer s =
      { (call.response fuel).run.play answer s with
        value := written ((call.response fuel).run.play answer s).value } :=
  Flow.play_bind_done answer (call.response fuel).run written s

/-- How often a run has turned to the network. -/
def exchanges {α : Type} (run : Run interface σ α) : Nat :=
  run.asked.countP Request.isExchange

def HasLine (run : Run interface σ String) : Prop :=
  ∃ r : Response, run.value = r.encode ++ "\n"

theorem not_hasLine_of_value {run : Run interface σ String} (h : run.value = "") :
    ¬HasLine run := by
  rintro ⟨r, hvalue⟩
  have hempty : r.encode ++ "\n" = "" := hvalue.symm.trans h
  exact absurd (String.append_eq_empty_iff.mp hempty).2 (by decide)

/-- More fuel does not change what a call has come to when it has written its line.  Before that it
has written nothing, and gets further. -/
theorem output_cases (call : Call) (answer : (r : Request) → StateM σ r.Answer) (s : σ)
    {fuel more : Nat} (hle : fuel ≤ more) :
    let run fuel := (call.output fuel).play answer s
    (HasLine (run fuel) ∧ run more = run fuel) ∨
      ((run fuel).value = "" ∧ fuel ≤ exchanges (run fuel) ∧
        (run fuel).dialogue <+: (run more).dialogue) := by
  intro run
  simp only [run, play_output]
  rcases (call.cut_response (.inr ⟨rfl, hle⟩)).play answer s with
    ⟨hvalue, hcount, hprefix⟩ | ⟨hvalue, hmore⟩
  · exact .inr ⟨by rw [hvalue]; rfl, hcount, hprefix⟩
  · obtain ⟨r, hr⟩ := Option.ne_none_iff_exists'.mp hvalue
    exact .inl ⟨⟨r, by rw [hr]; rfl⟩, by rw [hmore]⟩

theorem exchanges_le_of_prefix {α β : Type} {run : Run interface σ α} {whole : Run interface σ β}
    (h : run.dialogue <+: whole.dialogue) : exchanges run ≤ exchanges whole :=
  (h.map Sigma.fst).sublist.countP_le

/-- An operation that lists nothing is not cut off, however little fuel there is. -/
theorem hasLine_of_cloudless {call : Call}
    (cloudless : ∀ operation, Invocation.parse call.arguments = .run operation →
      operation.needsCloud = false)
    (fuel : Nat) (answer : (r : Request) → StateM σ r.Answer) (s : σ) :
    HasLine ((call.output fuel).play answer s) := by
  let run := (call.response fuel).run.play answer s
  rcases (call.cut_response (k := exchanges run + 1) (n := fuel) (m := fuel)
    (.inl cloudless)).play answer s with ⟨-, hcount, -⟩ | ⟨hvalue, -⟩
  · exact absurd hcount (Nat.not_succ_le_self (exchanges run))
  · obtain ⟨r, hr⟩ := Option.ne_none_iff_exists'.mp hvalue
    exact ⟨r, by rw [play_output, hr]; rfl⟩

theorem exists_hasLine {peer : Peer} {answer : (r : Request) → StateM σ r.Answer}
    (exchanges : ∀ r s, (answer (.exchange r) s).1 = peer r) (ends : peer.Ends) (call : Call)
    (s : σ) : ∃ fuel, HasLine ((call.output fuel).play answer s) := by
  obtain ⟨fuel, hvalue⟩ := exists_value_response exchanges ends call s
  obtain ⟨r, hr⟩ := Option.ne_none_iff_exists'.mp hvalue
  exact ⟨fuel, r, by rw [play_output, hr]; rfl⟩

/--
In every world, a call has written one line, the text of a response and a line end, and nothing
changes that; or it has written nothing and is still going on.  It comes to its line exactly if its
exchanges over HTTP have a bound: with a cloud of which every listing ends, and at once if its
operation needs no cloud.  Arguments that cannot be run are declined without a request to the world,
which stays as it is.  In the text of a response no line ends, and the response is read back from
it, whatever its fields.
-/
theorem line_written_iff (call : Call) (answer : (r : Request) → StateM σ r.Answer) (s : σ) :
    let run fuel := (call.output fuel).play answer s
    (∀ fuel,
      (HasLine (run fuel) ∧ ∀ more, fuel ≤ more → run more = run fuel) ∨
      ((run fuel).value = "" ∧ fuel ≤ exchanges (run fuel) ∧
        ∀ more, fuel ≤ more → (run fuel).dialogue <+: (run more).dialogue)) ∧
    ((∃ fuel, HasLine (run fuel)) ↔ ∃ bound, ∀ fuel, exchanges (run fuel) ≤ bound) ∧
    (∀ peer : Peer, (∀ r s, (answer (.exchange r) s).1 = peer r) → peer.Ends →
      ∃ fuel, HasLine (run fuel)) ∧
    ((∀ operation, Invocation.parse call.arguments = .run operation →
      operation.needsCloud = false) → ∀ fuel, HasLine (run fuel)) ∧
    (¬(Invocation.parse call.arguments).Runs → ∃ r : Response, r.Declines ∧
      ∀ fuel, run fuel = ⟨r.encode ++ "\n", s, []⟩) ∧
    ∀ r : Response, '\n' ∉ r.encode.toList ∧ Response.decode r.encode = .ok r := by
  intro run
  have hcases {fuel more : Nat} (hle : fuel ≤ more) := call.output_cases answer s hle
  have hlater {fuel more : Nat} (hline : HasLine (run fuel)) (hle : fuel ≤ more) :
      run more = run fuel :=
    (hcases hle).elim And.right fun h => absurd hline (not_hasLine_of_value h.1)
  refine ⟨fun fuel => ?_, ⟨?_, ?_⟩, fun peer exchanges ends => exists_hasLine exchanges ends call s,
    fun cloudless fuel => hasLine_of_cloudless cloudless fuel answer s, fun hparse => ?_,
    fun r => ⟨r.newline_notMem_encode, r.decode_encode⟩⟩
  · rcases hcases (Nat.le_refl fuel) with ⟨hline, -⟩ | ⟨hvalue, hcount, -⟩
    · exact .inl ⟨hline, fun more => hlater hline⟩
    · refine .inr ⟨hvalue, hcount, fun more hle => ?_⟩
      exact (hcases hle).elim (fun h => absurd h.1 (not_hasLine_of_value hvalue)) (·.2.2)
  · rintro ⟨last, hline⟩
    refine ⟨exchanges (run last), fun fuel => ?_⟩
    rcases Nat.le_total last fuel with hle | hle
    · rw [hlater hline hle]
    · rcases hcases hle with ⟨-, hsame⟩ | ⟨-, -, hprefix⟩
      · exact Nat.le_of_eq (congrArg exchanges hsame).symm
      · exact exchanges_le_of_prefix hprefix
  · rintro ⟨bound, hbound⟩
    -- with fuel for one exchange more than there are, nothing is cut off
    refine ⟨bound + 1, (hcases (Nat.le_refl _)).elim And.left fun h => ?_⟩
    exact absurd (h.2.1.trans (hbound (bound + 1))) (Nat.not_succ_le_self bound)
  · obtain ⟨r, hdeclines, hresponse⟩ := exists_response_of_not_runs hparse
    refine ⟨r, hdeclines, fun fuel => ?_⟩
    simp only [run, play_output, hresponse]
    rfl

def misspelt : Call :=
  { arguments := [.text "flexvol", .text "atach"], environment := {} }

def bareWorld : World :=
  { station := bareHost }

def question : Call where
  arguments :=
    [.text "flexvol", .text "isattached", .text "\x7b\"volumeID\":\"v\"\x7d", .text "10.0.0.1"]
  environment := SortedMap.ofList
    [("OS_AUTH_URL", "http://k/v3"), ("OS_USERNAME", "u"), ("OS_PASSWORD", "p"),
      ("OS_TENANT_NAME", "t")]

/-- A misspelt operation is not supported, and nothing is asked to find that out; an operation for
which the cloud cannot be reached has its line, too. -/
theorem line_written_misspelt :
    let run := (misspelt.output 0).play World.answer bareWorld
    ¬(Invocation.parse misspelt.arguments).Runs ∧ run.dialogue = [] ∧
      run.value = "\x7b\"status\":\"Not supported\"," ++
        "\"message\":\"unrecognized subcommand 'atach'\"\x7d\n" ∧
      ∃ fuel, HasLine ((question.output fuel).play
        (worldOf fun r => .error (.unreachable r.url.text)) bareHost) := by
  intro run
  obtain ⟨-, -, -, -, hquiet, -⟩ := line_written_iff misspelt World.answer bareWorld
  have hparse : ¬(Invocation.parse misspelt.arguments).Runs := by decide +kernel
  obtain ⟨r, -, hrun⟩ := hquiet hparse
  let peer : Peer := fun r => .error (.unreachable r.url.text)
  obtain ⟨-, -, hends, -⟩ := line_written_iff question (worldOf peer) bareHost
  exact ⟨hparse, congrArg Run.dialogue (hrun 0), by decide +kernel,
    hends peer (exchanges_worldOf peer) (Peer.ends_of_unreachable _)⟩

/-! ## A listing without an end -/

section GoesRound

variable {peer : Peer} {answer : (r : Request) → StateM σ r.Answer} {client : Client}
variable {r : Cloud.Request} {l : Listing}

theorem value_sessionRequest_of_goesRound
    (exchanges : ∀ r s, (answer (.exchange r) s).1 = peer r) (lists : client.listing? r = some l)
    (hround : l.GoesRound client peer) (fuel : Nat) (s : σ) :
    ((sessionRequest fuel (some client) (.cloud r)).run.play answer s).value = none := by
  have hfold : ((ofClient (client.serve fuel r).run).foldM answer s).1 = _ :=
    foldM_ofClient (client.serve fuel r).run s
  rw [Flow.foldM_eq_play] at hfold
  obtain ⟨f, hserve⟩ := client.exists_play_serve (exchangesWith_clientAnswer exchanges) lists
  have hnone : l.items client peer fuel = .ok none :=
    Listing.items_eq_none_iff.mpr (Listing.length_pages_of_goesRound hround (fuel + 1))
  refine hfold.trans ((hserve fuel s).1.trans ?_)
  rw [hnone]
  rfl

/-- An operation that first lists pages that lead back to each other has no result with any fuel. -/
theorem value_ofOperation_of_goesRound
    (exchanges : ∀ r s, (answer (.exchange r) s).1 = peer r)
    {connect : Action Cloud.Error Client} {s : σ}
    (opened : (connect.run.play answer s).value = .ok client) (lists : client.listing? r = some l)
    (hround : l.GoesRound client peer) {α : Type}
    {next : Except Cloud.Error Unit → Kubelet.Program α} {rest : r.Answer → Kubelet.Program α}
    (hfirst : next (.ok ()) = .ask (I := Kubelet.interface) (.placement (.cloud r)) rest)
    (fuel : Nat) :
    ((ofOperation fuel connect (.ask (I := Kubelet.interface) .connect next)).run.play
      answer s).value = none := by
  have hlists (s : σ) :
      ((served connect (next (.ok ())) (some client) fuel).run.play answer s).value = none := by
    rw [hfirst, value_served_ask]
    simp only [operationRequest, Flow.value_bindOption, Option.bind_none,
      value_sessionRequest_of_goesRound exchanges lists hround]
  rw [value_ofOperation, value_served_ask]
  simp only [operationRequest, Flow.value_bindOption, Flow.play_liftOption, opened,
    Option.bind_some]
  exact congrArg (Option.map Prod.fst) (hlists _)

end GoesRound

def publicService (kind url : String) : Json :=
  .object
    [("endpoints", .array [.object [("interface", .string "public"), ("url", .string url)]]),
      ("type", .string kind)]

def openedResponse : Http.Response where
  status := 201
  headers := [(Rest.tokenHeader, "token")]
  body := (Json.object [("token", .object [("catalog", .array
    [publicService "compute" "http://nova", publicService "volumev3" "http://cinder"])])]).compact

/-- A cloud that lets everyone in and whose pages of instances lead back to each other. -/
def turningCloud : Peer := fun r =>
  if r.method = .post then .ok openedResponse else turningPages r

theorem turningCloud_goesRound : smallClient.instances.GoesRound smallClient turningCloud := by
  have hvisit : smallClient.instances.visit smallClient turningCloud =
      smallClient.instances.visit smallClient turningPages :=
    smallClient.visit_congr (fun _ => if_neg Http.Method.noConfusion) _ _
  unfold Listing.GoesRound
  rw [hvisit]
  exact turningPages_goesRound

theorem value_response_question (fuel : Nat) :
    ((question.response fuel).run.play (worldOf turningCloud) bareHost).value = none := by
  have hparse : Invocation.parse question.arguments =
      .run (.isAttached { volumeId := some "v" } "10.0.0.1") := rfl
  have hsettings : ((ofHost (Settings.loadNode question.environment).run).play
      (worldOf turningCloud) bareHost).value = .ok Settings.loadedNode := by decide +kernel
  unfold response
  rw [hparse]
  simp only [serve, Flow.value_bindOption, Flow.play_liftOption, Option.bind_some, hsettings]
  exact value_ofOperation_of_goesRound (exchanges_worldOf turningCloud) (by decide +kernel) rfl
    turningCloud_goesRound rfl fuel

/-- A call may have no line with any fuel: it asks for the same two pages again and again. -/
theorem line_never_written :
    let run fuel := (question.output fuel).play (worldOf turningCloud) bareHost
    (¬∃ fuel, HasLine (run fuel)) ∧
      ∀ fuel, (run fuel).value = "" ∧ fuel ≤ exchanges (run fuel) := by
  intro run
  have hvalue (fuel : Nat) : (run fuel).value = "" := by
    simp only [run, play_output, value_response_question]
    rfl
  have hline (fuel : Nat) : ¬HasLine (run fuel) := not_hasLine_of_value (hvalue fuel)
  refine ⟨not_exists.mpr hline, fun fuel => ⟨hvalue fuel, ?_⟩⟩
  exact (question.output_cases (worldOf turningCloud) bareHost (Nat.le_refl fuel)).elim
    (fun h => absurd h.1 (hline fuel)) (·.2.1)

end Call

end NodeVolumes
