import NodeVolumes.Proofs.Json.Members
import NodeVolumes.Proofs.Rest.Pages

/-!
# Waiting for a volume

A volume that is being created is asked for again, with a wait before each further poll.  The polls
end with the first answer that tells anything else, and at the latest when there were as many as the
client makes (`Polls`); what the last answer tells is the outcome (`creating_waited_out`).
-/

namespace NodeVolumes.Rest

open Cloud

/-! ## What an answer tells -/

section Single

variable {α : Type} {name key : String} {decoder : Json.Decoder α} {levels : Nat}
variable {state result : Option α} {c c' : Json.Cursor}

def onlyField (key : String) (decoder : Json.Decoder α) : Json.Field (Option α) :=
  .mandatory key decoder fun v _ => some v

theorem isSome_of_onlyField {put : Option α → Option α}
    (h : (onlyField key decoder).decoder levels c = .ok (put, c')) : (put state).isSome = true := by
  change (decoder levels c).map _ = _ at h
  cases hvalue : decoder levels c with
  | error e =>
      rw [hvalue] at h
      cases h
  | ok found =>
      rw [hvalue] at h
      cases h
      rfl

theorem isSome_of_memberLoop {fuel : Nat} {first : Bool} {seen : List String}
    (hseen : key ∈ seen → state.isSome = true)
    (h : (single name key decoder).memberLoop levels fuel first seen state c = .ok (result, c')) :
    result.isSome = true := by
  induction fuel generalizing first seen state c with
  | zero => cases h
  | succ fuel ih =>
      rw [Json.Record.memberLoop] at h
      obtain ⟨⟨more, c₁⟩, -, h⟩ := exists_of_bind_eq_ok h
      cases more with
      | false =>
          dsimp only at h
          split at h
          · cases h
          · rename_i hnone
            cases h
            refine hseen ?_
            simpa [single, Json.Field.mandatory] using hnone
      | true =>
          obtain ⟨⟨found, c₂⟩, -, h⟩ := exists_of_bind_eq_ok h
          dsimp only at h
          split at h
          · obtain ⟨c₃, -, h⟩ := exists_of_bind_eq_ok h
            obtain ⟨c₄, -, h⟩ := exists_of_bind_eq_ok h
            exact ih hseen h
          · rename_i field hfield
            split at h
            · cases h
            · obtain ⟨c₃, -, h⟩ := exists_of_bind_eq_ok h
              obtain ⟨⟨put, c₄⟩, hput, h⟩ := exists_of_bind_eq_ok h
              have honly : field = onlyField key decoder :=
                List.mem_singleton.mp (List.mem_of_find?_eq_some hfield)
              rw [honly, Json.ofExcept_eq_ok_iff] at hput
              exact ih (fun _ => isSome_of_onlyField hput) h

theorem isSome_of_itemLoop
    (h : (single name key decoder).itemLoop levels [onlyField key decoder] 0 state c =
      .ok (result, c')) : result.isSome = true := by
  rw [Json.Record.itemLoop] at h
  obtain ⟨⟨more, c₁⟩, -, h⟩ := exists_of_bind_eq_ok h
  cases more with
  | false => cases h
  | true =>
      obtain ⟨⟨put, c₂⟩, hput, h⟩ := exists_of_bind_eq_ok h
      obtain ⟨c₃, -, h⟩ := exists_of_bind_eq_ok h
      cases h
      exact isSome_of_onlyField hput

/-- What is read as an object that holds one value, or as an array that does, holds it. -/
theorem isSome_of_decode_single {s : String}
    (h : Json.decode (single name key decoder).decoder s = .ok result) : result.isSome = true := by
  obtain ⟨⟨found, c₁⟩, hread, hend⟩ := exists_of_bind_eq_ok h
  have hfound : found = result := by
    dsimp only at hend
    split at hend
    · cases hend
      rfl
    · cases hend
  subst hfound
  unfold Json.Record.decoder at hread
  dsimp only at hread
  split at hread
  · cases hread
  · cases hread
  · exact isSome_of_itemLoop hread
  · cases hread
  · split at hread
    · rename_i hloop
      cases hread
      exact isSome_of_memberLoop (by simp) hloop
    · cases hread
  · exact absurd hread (Json.wrongType_ne_ok _ _ _)

end Single

/-- What an answer to the request for a volume tells. -/
inductive Tells (volumeId : String) (url : Http.Url) :
    Except Http.TransportError Http.Response → Except Error Volume → Prop where
  | unreachable (e : Http.TransportError) :
      Tells volumeId url (.error e) (.error (transportError e))
  | missing {response : Http.Response} :
      response.status = 404 →
      Tells volumeId url (.ok response) (.error (.notFound "volume" volumeId))
  | refused {response : Http.Response} :
      response.status ≠ 404 → response.isSuccess = false →
      Tells volumeId url (.ok response)
        (.error (.http "GET" url.text response.status (Text.trim response.text)))
  | garbled {response : Http.Response} {fault : Json.Fault} :
      response.isSuccess = true → Json.decode volumeBody.decoder response.text = .error fault →
      Tells volumeId url (.ok response) (.error (.parse "volume" fault.message))
  | volume {response : Http.Response} {entry : VolumeEntry} :
      response.isSuccess = true →
      Json.decode volumeBody.decoder response.text = .ok (some entry) →
      Tells volumeId url (.ok response) (.ok entry.toVolume)

/-- An answer tells of a volume that is being created. -/
def Creating (volumeId : String) (url : Http.Url)
    (reply : Except Http.TransportError Http.Response) : Prop :=
  ∃ v, Tells volumeId url reply (.ok v) ∧ v.status = creatingStatus

variable {σ : Type} {c : Client} {answer : (r : Request) → StateM σ r.Answer} {volumeId : String}
variable {url : Http.Url} {s : σ}

namespace Client

/-- What a client makes of an answer to the request for a volume. -/
def told (c : Client) (volumeId : String) (url : Http.Url)
    (reply : Except Http.TransportError Http.Response) : Except Error Volume :=
  match c.valueAt (fun _ => reply) "volume" volumeBody.decoder url with
  | .ok (some (some entry)) => .ok entry.toVolume
  | .ok _ => .error (.notFound "volume" volumeId)
  | .error e => .error e

theorem tells_told (c : Client) (volumeId : String) (url : Http.Url)
    (reply : Except Http.TransportError Http.Response) :
    Tells volumeId url reply (c.told volumeId url reply) := by
  unfold told valueAt responseAt classify
  cases reply with
  | error e => exact .unreachable e
  | ok response =>
      dsimp only
      by_cases hstatus : response.status = 404
      · rw [if_pos hstatus]
        exact .missing hstatus
      rw [if_neg hstatus]
      cases hsuccess : response.isSuccess with
      | false => exact .refused hstatus hsuccess
      | true =>
          rw [if_pos rfl]
          dsimp only
          unfold decodeBody
          cases hdecoded : Json.decode volumeBody.decoder response.text with
          | error fault => exact .garbled hsuccess hdecoded
          | ok found =>
              obtain ⟨entry, rfl⟩ := Option.isSome_iff_exists.mp (isSome_of_decode_single hdecoded)
              exact .volume hsuccess hdecoded

theorem told_of_tells (c : Client) {reply : Except Http.TransportError Http.Response}
    {value : Except Error Volume} (h : Tells volumeId url reply value) :
    c.told volumeId url reply = value := by
  cases h with
  | unreachable e => rfl
  | missing hstatus => simp only [told, valueAt, responseAt, classify, hstatus, if_true]
  | refused hstatus hrefused =>
      simp only [told, valueAt, responseAt, classify, hstatus, hrefused, if_false,
        Bool.false_eq_true]
      rfl
  | garbled hsuccess hdecoded | volume hsuccess hdecoded =>
      simp only [told, valueAt, responseAt, classify_of_isSuccess hsuccess, decodeBody, hdecoded,
        Except.mapError, Except.map]

theorem creating_iff (c : Client) {reply : Except Http.TransportError Http.Response} :
    Creating volumeId url reply ↔
      ∃ v, c.told volumeId url reply = .ok v ∧ v.status = creatingStatus := by
  constructor
  · rintro ⟨v, htells, hstatus⟩
    exact ⟨v, c.told_of_tells htells, hstatus⟩
  · rintro ⟨v, htold, hstatus⟩
    exact ⟨v, htold ▸ c.tells_told volumeId url reply, hstatus⟩

/-! ## Polls -/

theorem run_fetchVolume (hurl : resourceUrl c.session.volumeUrl ["volumes", volumeId] = .ok url) :
    (c.fetchVolume volumeId).run =
      .ask (I := interface) (.exchange (c.pageRequest url)) fun reply =>
        .done (c.told volumeId url reply) := by
  unfold fetchVolume volumeUrl
  rw [hurl]
  change (c.getOptional url "volume" volumeBody.decoder).run >>= ExceptT.bindCont _ = _
  rw [run_getOptional, Flow.ask_bind]
  refine congrArg (Flow.ask (I := interface) _) (funext fun reply => ?_)
  unfold told
  rcases c.valueAt (fun _ => reply) "volume" volumeBody.decoder url with e | _ | _ | entry <;> rfl

theorem run_awaitVolume_succ
    (hurl : resourceUrl c.session.volumeUrl ["volumes", volumeId] = .ok url) (again : Nat) :
    (c.awaitVolume volumeId (again + 1)).run =
      .ask (I := interface) (.exchange (c.pageRequest url)) fun reply =>
        match c.told volumeId url reply with
        | .error e => .done (.error e)
        | .ok v =>
            if v.status = creatingStatus then
              .ask (I := interface) (.host (.sleep c.creatingInterval)) fun _ =>
                (c.awaitVolume volumeId again).run
            else
              .done (.ok v) := by
  rw [awaitVolume]
  change (c.fetchVolume volumeId).run >>= ExceptT.bindCont _ = _
  rw [run_fetchVolume hurl, Flow.ask_bind]
  refine congrArg (Flow.ask (I := interface) _) (funext fun reply => ?_)
  cases c.told volumeId url reply with
  | error e => rfl
  | ok v =>
      dsimp only
      change (if v.status = creatingStatus then _ else _ : Action Error Volume).run = _
      by_cases hcreating : v.status = creatingStatus
      · rw [if_pos hcreating, if_pos hcreating]
        rfl
      · rw [if_neg hcreating, if_neg hcreating]
        rfl

/-- The world before the poll with a number, if a wait followed each poll before that one. -/
def beforePoll (c : Client) (answer : (r : Request) → StateM σ r.Answer) (url : Http.Url) :
    Nat → σ → σ
  | 0, s => s
  | n + 1, s =>
      beforePoll c answer url n
        (answer (.host (.sleep c.creatingInterval)) (c.afterPage answer s url)).2

def pollReply (c : Client) (answer : (r : Request) → StateM σ r.Answer) (url : Http.Url) (s : σ)
    (n : Nat) : Except Http.TransportError Http.Response :=
  c.replyAt answer (c.beforePoll answer url n s) url

/-- The requests of a number of polls, with a wait between one and the next. -/
def polls (c : Client) (url : Http.Url) (count : Nat) : List Request :=
  (List.replicate count (Request.exchange (c.pageRequest url))).intersperse
    (.host (.sleep c.creatingInterval))

/-- A run that polls a volume `count` times of at most `limit`, by the answers in their order. -/
structure Polls (c : Client) (volumeId : String) (url : Http.Url)
    (replies : Nat → Except Http.TransportError Http.Response) (limit count : Nat)
    (run : Run interface σ (Except Error Volume)) : Prop where
  pos : 1 ≤ count
  le : count ≤ limit
  creating : ∀ n, n + 1 < count → Creating volumeId url (replies n)
  final : count < limit → ¬Creating volumeId url (replies (count - 1))
  asked : run.asked = c.polls url count
  value : run.value = c.told volumeId url (replies (count - 1))

theorem polls_succ (c : Client) (url : Http.Url) {count : Nat} (h : 1 ≤ count) :
    c.polls url (count + 1) =
      .exchange (c.pageRequest url) :: .host (.sleep c.creatingInterval) :: c.polls url count := by
  obtain ⟨n, rfl⟩ : ∃ n, count = n + 1 := ⟨count - 1, by omega⟩
  simp [polls, List.replicate_succ]

/-- The first poll ends it, or the volume is being created and there are more polls after a wait. -/
theorem Polls.once {replies : Nat → Except Http.TransportError Http.Response} {limit : Nat}
    (hlimit : 1 ≤ limit) {run : Run interface σ (Except Error Volume)}
    (hfinal : 1 < limit → ¬Creating volumeId url (replies 0)) (hasked : run.asked = c.polls url 1)
    (hvalue : run.value = c.told volumeId url (replies 0)) :
    Polls c volumeId url replies limit 1 run where
  pos := Nat.le_refl 1
  le := hlimit
  creating n hn := absurd hn (by omega)
  final := hfinal
  asked := hasked
  value := hvalue

theorem Polls.again {replies : Nat → Except Http.TransportError Http.Response} {limit count : Nat}
    {run later : Run interface σ (Except Error Volume)}
    (h : Polls c volumeId url (fun n => replies (n + 1)) limit count later)
    (hcreating : Creating volumeId url (replies 0))
    (hasked : run.asked = .exchange (c.pageRequest url) :: .host (.sleep c.creatingInterval) ::
      later.asked) (hvalue : run.value = later.value) :
    Polls c volumeId url replies (limit + 1) (count + 1) run where
  pos := Nat.le_add_left 1 count
  le := Nat.succ_le_succ h.le
  creating n hn := by
    cases n with
    | zero => exact hcreating
    | succ n => exact h.creating n (Nat.lt_of_succ_lt_succ hn)
  final hlt := by
    have hfinal := h.final (Nat.lt_of_succ_lt_succ hlt)
    rwa [Nat.sub_add_cancel h.pos] at hfinal
  asked := by rw [hasked, h.asked, polls_succ c url h.pos]
  value := by rw [hvalue, h.value, Nat.sub_add_cancel h.pos, Nat.add_sub_cancel]

theorem exists_polls_awaitVolume (answer : (r : Request) → StateM σ r.Answer)
    (hurl : resourceUrl c.session.volumeUrl ["volumes", volumeId] = .ok url) (again : Nat) (s : σ) :
    ∃ count, Polls c volumeId url (c.pollReply answer url s) (again + 1) count
      ((c.awaitVolume volumeId again).run.play answer s) := by
  induction again generalizing s with
  | zero =>
      rw [awaitVolume, run_fetchVolume hurl, Flow.play_ask]
      exact ⟨1, .once (Nat.le_refl 1) (fun h => absurd h (by omega)) rfl rfl⟩
  | succ again ih =>
      rw [run_awaitVolume_succ hurl, Flow.play_ask]
      have hlimit : 1 ≤ again + 1 + 1 := by omega
      have hfirst : c.pollReply answer url s 0 = (answer (.exchange (c.pageRequest url)) s).1 := rfl
      cases htold : c.told volumeId url (answer (.exchange (c.pageRequest url)) s).1 with
      | error e =>
          refine ⟨1, .once hlimit (fun _ => ?_) rfl ?_⟩
          · rw [hfirst, creating_iff c, htold]
            simp
          · rw [hfirst, htold]
            rfl
      | ok v =>
          dsimp only
          by_cases hcreating : v.status = creatingStatus
          · rw [if_pos hcreating, Flow.play_ask, Run.after_after]
            obtain ⟨count, hcount⟩ :=
              ih (answer (.host (.sleep c.creatingInterval)) (c.afterPage answer s url)).2
            have hlater : c.pollReply answer url (answer (.host (.sleep c.creatingInterval))
                (c.afterPage answer s url)).2 = fun n => c.pollReply answer url s (n + 1) := rfl
            rw [hlater] at hcount
            refine ⟨count + 1, Polls.again hcount ?_ ?_ rfl⟩
            · rw [hfirst, creating_iff c, htold]
              exact ⟨v, rfl, hcreating⟩
            · rw [Run.asked_after]
              rfl
          · rw [if_neg hcreating]
            refine ⟨1, .once hlimit (fun _ => ?_) rfl ?_⟩
            · rw [hfirst, creating_iff c, htold]
              rintro ⟨_, ⟨⟩, hstatus⟩
              exact hcreating hstatus
            · rw [hfirst, htold]
              rfl

/-- The polls end with the first answer that tells anything but a volume that is being created. -/
theorem Polls.eq_min {replies : Nat → Except Http.TransportError Http.Response}
    {limit count n : Nat} {run : Run interface σ (Except Error Volume)}
    (h : Polls c volumeId url replies limit count run)
    (hfirst : ∀ i < n, Creating volumeId url (replies i))
    (hfinal : ¬Creating volumeId url (replies n)) : count = min (n + 1) limit := by
  have hpos := h.pos
  have hle := h.le
  have hbefore : count ≤ n + 1 := by
    by_contra hlt
    exact hfinal (h.creating n (by omega))
  by_cases hlimit : count < limit
  · have hnot : ¬count - 1 < n := fun hlt => h.final hlimit (hfirst _ hlt)
    omega
  · omega

theorem Polls.eq_limit {replies : Nat → Except Http.TransportError Http.Response}
    {limit count : Nat} {run : Run interface σ (Except Error Volume)}
    (h : Polls c volumeId url replies limit count run)
    (hcreating : Creating volumeId url (replies (count - 1))) : count = limit := by
  by_contra hne
  exact h.final (Nat.lt_of_le_of_ne h.le hne) hcreating

end Client

/--
A volume is asked for as often as the first answer comes late that is an error or tells of a volume
that is not being created, and at the most as often as the client polls, but at least once.  Between
two of these requests there is one wait, and none after the last.  What the last answer tells is the
outcome, and it is a volume that is being created only if all polls told of one.
-/
theorem creating_waited_out
    (hurl : resourceUrl c.session.volumeUrl ["volumes", volumeId] = .ok url)
    {replies : Nat → Except Http.TransportError Http.Response}
    (hreplies : ∀ n, c.pollReply answer url s n = replies n) (fuel : Nat) :
    let run := (c.serve fuel (.getVolume volumeId)).run.play answer s
    let budget := max 1 c.creatingPolls
    ∃ count outcome, run.value = some outcome ∧
      (∀ n, (∀ i < n, Creating volumeId url (replies i)) → ¬Creating volumeId url (replies n) →
        count = min (n + 1) budget) ∧
      ((∀ n, Creating volumeId url (replies n)) → count = budget) ∧
      run.asked =
        (List.replicate count (.exchange (c.pageRequest url))).intersperse
          (.host (.sleep c.creatingInterval)) ∧
      Tells volumeId url (replies (count - 1)) outcome ∧
      ∀ v, outcome = .ok v → v.status = creatingStatus →
        count = budget ∧ ∀ n < count, Creating volumeId url (replies n) := by
  intro run budget
  let polled := (c.awaitVolume volumeId (c.creatingPolls - 1)).run.play answer s
  have hrun : run = ⟨some polled.value, polled.final, polled.dialogue⟩ :=
    Flow.play_liftOption answer (c.awaitVolume volumeId (c.creatingPolls - 1)).run s
  have hbudget : budget = c.creatingPolls - 1 + 1 := by omega
  obtain ⟨count, hcount⟩ :=
    Client.exists_polls_awaitVolume answer hurl (c.creatingPolls - 1) s
  rw [funext hreplies, ← hbudget] at hcount
  have htells : Tells volumeId url (replies (count - 1)) polled.value := by
    have hvalue : polled.value = c.told volumeId url (replies (count - 1)) := hcount.value
    rw [hvalue]
    exact c.tells_told volumeId url _
  have hasked : run.asked = polled.asked := by rw [hrun]; rfl
  refine ⟨count, polled.value, by rw [hrun], fun n hfirst hfinal => hcount.eq_min hfirst hfinal,
    fun hall => hcount.eq_limit (hall _), hasked.trans hcount.asked, htells, ?_⟩
  intro v hv hstatus
  rw [hv] at htells
  have hlast : Creating volumeId url (replies (count - 1)) := ⟨v, htells, hstatus⟩
  refine ⟨hcount.eq_limit hlast, fun n hn => ?_⟩
  by_cases hbefore : n + 1 < count
  · exact hcount.creating n hbefore
  · have hn' : n = count - 1 := by omega
    rwa [hn']

/-! ## Answers in turn -/

/-- A service that answers one exchange after the other, whatever they ask for. -/
def inTurn (replies : Nat → Except Http.TransportError Http.Response) :
    (r : Request) → StateM (Nat × Host.Station) r.Answer
  | .exchange _ => fun (n, host) => (replies n, n + 1, host)
  | .host r => fun (n, host) => ((Host.Station.answer r host).1, n, (Host.Station.answer r host).2)

theorem pollReply_inTurn (c : Client) (replies : Nat → Except Http.TransportError Http.Response)
    (url : Http.Url) (first : Nat) (host : Host.Station) (n : Nat) :
    c.pollReply (inTurn replies) url (first, host) n = replies (first + n) := by
  induction n generalizing first host with
  | zero => rfl
  | succ n ih => exact (ih (first + 1) _).trans (congrArg replies (by omega))

def volumeResponse (status : String) : Http.Response :=
  let volume : Json := .object [("id", .string "v"), ("status", .string status)]
  { status := 200, body := (Json.object [("volume", volume)]).compact }

def createdAtLast (n : Nat) : Except Http.TransportError Http.Response :=
  .ok (volumeResponse (if n < 2 then creatingStatus else "available"))

def volumePlace : Http.Url :=
  { scheme := "http", authority := some { host := "cinder" }, path := .segments ["volumes", "v"] }

theorem tells_volumeResponse_creating :
    Tells "v" volumePlace (.ok (volumeResponse creatingStatus))
      (.ok (VolumeEntry.toVolume { id := "v", status := creatingStatus })) :=
  .volume rfl (by decide +kernel)

theorem tells_volumeResponse_available :
    Tells "v" volumePlace (.ok (volumeResponse "available"))
      (.ok (VolumeEntry.toVolume { id := "v", status := "available" })) :=
  .volume rfl (by decide +kernel)

/-- With a budget of two polls the volume is given while it is being created, after one wait; with
none it is asked for once, and with five there are three polls. -/
theorem creating_waited_out_at_last :
    let client budget : Client := { smallClient with creatingPolls := budget }
    let run budget := ((client budget).serve 0 (.getVolume "v")).run.play (inTurn createdAtLast)
      (0, bareHost)
    let poll : Request := .exchange (smallClient.pageRequest volumePlace)
    let wait : Request := .host (.sleep smallClient.creatingInterval)
    (run 0).asked = [poll] ∧ (run 2).asked = [poll, wait, poll] ∧
      (run 5).asked = [poll, wait, poll, wait, poll] ∧
      (run 5).value = some (.ok (VolumeEntry.toVolume { id := "v", status := "available" })) := by
  intro client run poll wait
  have hurl : resourceUrl "http://cinder" ["volumes", "v"] = .ok volumePlace := by decide +kernel
  have hcreating : ∀ n < 2, Creating "v" volumePlace (createdAtLast n) := by
    intro n hn
    refine ⟨VolumeEntry.toVolume { id := "v", status := creatingStatus }, ?_, rfl⟩
    rw [createdAtLast, if_pos hn]
    exact tells_volumeResponse_creating
  have htold (c : Client) : c.told "v" volumePlace (createdAtLast 2) =
      .ok (VolumeEntry.toVolume { id := "v", status := "available" }) :=
    c.told_of_tells tells_volumeResponse_available
  have hfinal : ¬Creating "v" volumePlace (createdAtLast 2) := by
    rw [smallClient.creating_iff, htold]
    rintro ⟨v, ⟨⟩, hstatus⟩
    exact absurd hstatus (by decide)
  have hpolled (budget : Nat) : ∃ count outcome, count = min 3 (max 1 budget) ∧
      (run budget).value = some outcome ∧
      (run budget).asked = (List.replicate count poll).intersperse wait ∧
      Tells "v" volumePlace (createdAtLast (count - 1)) outcome := by
    have hreplies (n : Nat) : (client budget).pollReply (inTurn createdAtLast) volumePlace
        (0, bareHost) n = createdAtLast n :=
      (pollReply_inTurn (client budget) createdAtLast volumePlace 0 bareHost n).trans
        (congrArg createdAtLast (Nat.zero_add n))
    obtain ⟨count, outcome, hvalue, hcount, -, hasked, htells, -⟩ :=
      creating_waited_out hurl hreplies 0
    exact ⟨count, outcome, hcount 2 hcreating hfinal, hvalue, hasked, htells⟩
  obtain ⟨_, _, rfl, -, hnone, -⟩ := hpolled 0
  obtain ⟨_, _, rfl, -, htwo, -⟩ := hpolled 2
  obtain ⟨_, _, rfl, hvalue, hfive, htells⟩ := hpolled 5
  have houtcome := (smallClient.told_of_tells htells).symm.trans (htold smallClient)
  exact ⟨hnone, htwo, hfive, hvalue.trans (congrArg some houtcome)⟩

end NodeVolumes.Rest
