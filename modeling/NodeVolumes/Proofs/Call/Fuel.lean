import NodeVolumes.Call.Answer
import NodeVolumes.Proofs.Call.Lookup
import NodeVolumes.Proofs.Flow.Fuel
import NodeVolumes.Proofs.Kubelet.Dispatch
import NodeVolumes.Proofs.Rest.Pages

/-!
# How far a call gets

With less fuel a call does what it does with more, but may be cut off while a listing is still going
on, and not before it has made as many exchanges over HTTP as there was fuel for
(`Call.cut_response`).  Operations that need no cloud list nothing, and are never cut off.  Where
all listings of the cloud end, no call is cut off with enough fuel (`Call.exists_value_response`).
-/

namespace NodeVolumes

open NodeVolumes.Flow (Cut)

variable {n m : Nat}

/-! ## Requests of a session -/

namespace Rest

open Cloud

def Request.isExchange : Request → Bool
  | .exchange _ => true
  | .host _ => false

namespace Client

variable {α β : Type} (c : Client) {resource : String} {page : Json.Record (Page α)}

/-- What is made of the items of a listing does not matter to where it is cut off. -/
theorem cut_map {p q : Program (Except Error (Option α))}
    (h : Cut Request.isExchange n (ended <$> p) (ended <$> q)) (f : α → β) :
    Cut Request.isExchange n (p >>= fun found => .done (ended (found.map (·.map f))))
      (q >>= fun found => .done (ended (found.map (·.map f)))) := by
  have hmap (p : Program (Except Error (Option α))) :
      (p >>= fun found => .done (ended (found.map (·.map f)))) =
        (OptionT.mk (ended <$> p) >>= fun outcome => pure (outcome.map f)).run := by
    change _ = ended <$> p >>= _
    rw [bind_map_left]
    refine bind_congr fun found => ?_
    rcases found with e | _ | a <;> rfl
  rw [hmap, hmap]
  exact Cut.bindOption h fun outcome => .done _

theorem cut_collect (hle : n ≤ m) (url : Http.Url) :
    Cut Request.isExchange n (ended <$> (c.collect resource page n url).run)
      (ended <$> (c.collect resource page m url).run) := by
  induction n generalizing m url with
  | zero => exact .off _
  | succ n ih =>
      obtain ⟨m, rfl⟩ : ∃ k, m = k + 1 := ⟨m - 1, by omega⟩
      rw [run_collect_succ, run_collect_succ]
      refine .ask (I := interface) _ fun reply => ?_
      dsimp only
      rcases c.visit (fun _ => reply) resource page url with e | ⟨items, _ | next⟩
      · exact .done _
      · exact .done _
      · change Cut _ n (ended <$> (_ >>= _)) (ended <$> (_ >>= _))
        rw [map_bind, map_bind]
        exact cut_map (ih (Nat.le_of_succ_le_succ hle) next) (items ++ ·)

theorem cut_listing (hle : n ≤ m) (given : Except Error Http.Url) (place : Http.Url → Http.Url)
    (f : List α → β) :
    let listing (fuel : Nat) : Action Error (Option β) := do
      let url ← ExceptT.mk (pure given)
      let found ← c.collect resource page fuel (place url)
      return found.map f
    Cut Request.isExchange n (ended <$> (listing n).run) (ended <$> (listing m).run) := by
  intro listing
  cases given with
  | error e => exact .done _
  | ok url =>
      rw [c.run_listing rfl n f, c.run_listing rfl m f]
      exact cut_map (c.cut_collect hle (place url)) f

theorem cut_serve (hle : n ≤ m) (r : Cloud.Request) :
    Cut Request.isExchange n (c.serve n r).run (c.serve m r).run := by
  cases r with
  | listInstances => exact c.cut_listing hle _ id _
  | listHypervisors => exact c.cut_listing hle _ id _
  | findVolumes key value => exact c.cut_listing hle _ _ _
  | changeMetadata volumeId entries change => cases change <;> exact .lift _
  | _ => exact .lift _

end Client

end Rest

/-! ## Requests of a call -/

namespace Call

open Kubelet (Operation)

def Request.isExchange : Request → Bool
  | .exchange _ => true
  | .addresses _ | .host _ => false

theorem cut_ofClient {α : Type} {p q : Rest.Program (Option α)}
    (h : Cut Rest.Request.isExchange n p q) :
    Cut Request.isExchange n (ofClient p) (ofClient q) := by
  refine h.foldM fun r n f g rest => ?_
  cases r with
  | exchange r => exact .ask (I := interface) _ rest
  | host r => exact .ask (I := interface) _ rest

theorem cut_sessionRequest (hle : n ≤ m) (open? : Option Rest.Client) (r : Placement.Request) :
    Cut Request.isExchange n (sessionRequest n open? r).run (sessionRequest m open? r).run := by
  cases r with
  | cloud r =>
      cases open? with
      | none => exact .done _
      | some client => exact cut_ofClient (client.cut_serve hle r)
  | addresses hostname => exact .lift _

variable {connect : Action Cloud.Error Rest.Client}

/-- What is no request of a placement is never cut off, so it need not be told how far it gets. -/
theorem cut_operationRequest {k : Nat} {r : Kubelet.Request} (open? : Option Rest.Client)
    (h : r.placement? = none ∨ k = n ∧ n ≤ m) :
    Cut Request.isExchange k (operationRequest n connect r open?).run
      (operationRequest m connect r open?).run := by
  cases r with
  | connect =>
      refine Cut.bindOption (.lift _) fun opened => ?_
      cases opened <;> exact .done _
  | placement r =>
      obtain ⟨rfl, hle⟩ : k = n ∧ n ≤ m := h.resolve_left (Option.some_ne_none r)
      exact Cut.bindOption (cut_sessionRequest hle open? r) fun reply => .done _
  | host r => exact Cut.bindOption (.lift _) fun reply => .done _

/-- An operation as it is served while a session is open, or none is. -/
def served {α : Type} (connect : Action Cloud.Error Rest.Client) (program : Kubelet.Program α)
    (open? : Option Rest.Client) (fuel : Nat) : OptionT Program (α × Option Rest.Client) :=
  (program.foldM (operationRequest fuel connect)).run open?

section Values

variable {σ α : Type} {answer : (r : Request) → StateM σ r.Answer} {s : σ}

theorem value_served_ask (r : Kubelet.Request) (next : r.Answer → Kubelet.Program α)
    (open? : Option Rest.Client) :
    let first := (operationRequest n connect r open?).run.play answer s
    ((served connect (.ask (I := Kubelet.interface) r next) open? n).run.play answer s).value =
      first.value.bind fun reply =>
        ((served connect (next reply.1) reply.2 n).run.play answer first.final).value :=
  Flow.value_bindOption answer (operationRequest n connect r open?)
    (fun reply => served connect (next reply.1) reply.2 n) s

theorem value_ofOperation (program : Kubelet.Program α) :
    ((ofOperation n connect program).run.play answer s).value =
      ((served connect program none n).run.play answer s).value.map Prod.fst := by
  refine (Flow.value_bindOption answer (served connect program none n) _ s).trans ?_
  exact (Option.map_eq_bind ..).symm

end Values

theorem cut_served {α : Type} {k : Nat} {program : Kubelet.Program α} (open? : Option Rest.Client)
    (h : program.AsksOnly (fun r : Kubelet.Request => r.placement? = none) ∨ k = n ∧ n ≤ m) :
    Cut Request.isExchange k (served connect program open? n).run
      (served connect program open? m).run := by
  induction program generalizing open? with
  | done value => exact .done _
  | ask r next ih =>
      exact Cut.bindOption (cut_operationRequest open? (h.imp_left And.left)) fun reply =>
        ih reply.1 reply.2 (h.imp_left fun hasks => hasks.2 reply.1)

theorem cut_ofOperation {α : Type} {k : Nat} {program : Kubelet.Program α}
    (h : program.AsksOnly (fun r : Kubelet.Request => r.placement? = none) ∨ k = n ∧ n ≤ m) :
    Cut Request.isExchange k (ofOperation n connect program).run
      (ofOperation m connect program).run :=
  Cut.bindOption (cut_served none h) fun _ => .done _

/-! ## Calls -/

theorem asksOnly_ofHost {α : Type} (program : Host.Program α) :
    (Kubelet.ofHost program).AsksOnly fun r : Kubelet.Request => r.placement? = none := by
  induction program with
  | done value => trivial
  | ask r next ih => exact ⟨rfl, ih⟩

theorem asksOnly_dispatch (settings : Settings.Node) (driverName : String) {operation : Operation}
    (cloudless : operation.needsCloud = false) :
    (Kubelet.dispatch settings driverName operation).AsksOnly
      fun r : Kubelet.Request => r.placement? = none := by
  refine Flow.AsksOnly.bind ?_ fun _ => trivial
  have hserves := Kubelet.serves_execute settings driverName operation
  generalize Kubelet.execute settings driverName operation = action at hserves
  cases hserves with
  | inSession action respond cloud answers =>
      rw [cloudless] at cloud
      cases cloud
  | onHost fault action respond _ answers =>
      refine Flow.AsksOnly.bind_run (Flow.AsksOnly.bind ?_ fun _ => trivial) fun _ => trivial
      exact asksOnly_ofHost action.run
  | silent outcome _ answers => trivial

/-- A call may only be cut off if it runs an operation that needs a cloud. -/
theorem cut_response {k : Nat} (call : Call)
    (h : (∀ operation, Kubelet.Invocation.parse call.arguments = .run operation →
      operation.needsCloud = false) ∨ k = n ∧ n ≤ m) :
    Cut Request.isExchange k (call.response n).run (call.response m).run := by
  unfold response
  cases hparse : Kubelet.Invocation.parse call.arguments with
  | help reason => exact .done _
  | respond r => exact .done _
  | run operation =>
      refine Cut.bindOption (.lift _) fun loaded => ?_
      cases loaded with
      | error e => exact .done _
      | ok settings =>
          refine Cut.bindOption (.lift _) fun target => ?_
          refine cut_ofOperation (h.imp_left fun hlocal => ?_)
          exact asksOnly_dispatch settings _ (hlocal operation hparse)

end Call

/-! ## Listings that end -/

/-- Whatever a client lists of the peer comes to an end. -/
def Rest.Peer.Ends (peer : Rest.Peer) : Prop :=
  ∀ (c : Rest.Client) r l, c.listing? r = some l → ∃ fuel, l.items c peer fuel ≠ .ok none

section Ends

open Rest (Peer Client)

variable {σ : Type} {peer : Peer}

theorem Rest.Peer.ends_of_unreachable (error : Http.Request → Http.TransportError) :
    Peer.Ends fun r => .error (error r) := by
  intro c r l _
  refine ⟨1, ?_⟩
  unfold Rest.Listing.items
  cases l.first with
  | error e => exact nofun
  | ok url => exact nofun

theorem Rest.Client.exists_value_serve {answer : (r : Rest.Request) → StateM σ r.Answer}
    (c : Client) (exchanges : Rest.ExchangesWith peer answer) (ends : peer.Ends)
    (r : Cloud.Request) (s : σ) :
    ∃ fuel, ((c.serve fuel r).run.play answer s).value ≠ none := by
  cases hl : c.listing? r with
  | some l =>
      obtain ⟨fuel, hitems⟩ := ends c r l hl
      obtain ⟨f, hserve⟩ := c.exists_play_serve exchanges hl
      refine ⟨fuel, ?_⟩
      rw [(hserve fuel s).1, Ne, ended_eq_none_iff]
      rcases hfound : l.items c peer fuel with e | _ | items <;> simp_all [Except.map]
  | none =>
      refine ⟨0, ?_⟩
      cases r with
      | listInstances | listHypervisors | findVolumes => cases hl
      | changeMetadata volumeId entries change =>
          cases change <;> exact Flow.value_liftOption_ne_none (I := Rest.interface) _ _ _
      | _ => exact Flow.value_liftOption_ne_none (I := Rest.interface) _ _ _

namespace Call

variable {answer : (r : Request) → StateM σ r.Answer} {connect : Action Cloud.Error Client}

theorem exists_value_sessionRequest (exchanges : ∀ r s, (answer (.exchange r) s).1 = peer r)
    (ends : peer.Ends) (open? : Option Client) (r : Placement.Request) (s : σ) :
    ∃ fuel, ((sessionRequest fuel open? r).run.play answer s).value ≠ none := by
  cases r with
  | addresses hostname => exact ⟨0, Flow.value_liftOption_ne_none (I := interface) _ _ _⟩
  | cloud r =>
      cases open? with
      | none => exact ⟨0, Option.some_ne_none _⟩
      | some client =>
          obtain ⟨fuel, hvalue⟩ :=
            client.exists_value_serve (exchangesWith_clientAnswer exchanges) ends r s
          have hfold : ((ofClient (client.serve fuel r).run).foldM answer s).1 = _ :=
            foldM_ofClient (client.serve fuel r).run s
          rw [Flow.foldM_eq_play] at hfold
          exact ⟨fuel, fun h => hvalue (hfold.symm.trans h)⟩

theorem exists_value_operationRequest (exchanges : ∀ r s, (answer (.exchange r) s).1 = peer r)
    (ends : peer.Ends) (r : Kubelet.Request) (open? : Option Client) (s : σ) :
    ∃ fuel, ((operationRequest fuel connect r open?).run.play answer s).value ≠ none := by
  cases r with
  | connect =>
      simp only [operationRequest, Flow.value_bindOption, Flow.play_liftOption, Option.bind_some]
      cases (connect.run.play answer s).value <;> exact ⟨0, Option.some_ne_none _⟩
  | placement r =>
      obtain ⟨fuel, hvalue⟩ := exists_value_sessionRequest exchanges ends open? r s
      obtain ⟨reply, hreply⟩ := Option.ne_none_iff_exists'.mp hvalue
      refine ⟨fuel, ?_⟩
      simp only [operationRequest, Flow.value_bindOption, hreply, Option.bind_some]
      exact Option.some_ne_none _
  | host r =>
      simp only [operationRequest, Flow.value_bindOption, Flow.play_liftOption, Option.bind_some]
      exact ⟨0, Option.some_ne_none _⟩

/-- The fuel for all requests is the most that one of them needs. -/
theorem exists_value_served (exchanges : ∀ r s, (answer (.exchange r) s).1 = peer r)
    (ends : peer.Ends) {α : Type} (program : Kubelet.Program α) (open? : Option Client) (s : σ) :
    ∃ fuel, ((served connect program open? fuel).run.play answer s).value ≠ none := by
  induction program generalizing open? s with
  | done value => exact ⟨0, Option.some_ne_none _⟩
  | ask r next ih =>
      let request (fuel : Nat) := operationRequest fuel connect r open?
      let rest (fuel : Nat) (reply : r.Answer × Option Client) :=
        served connect (next reply.1) reply.2 fuel
      obtain ⟨n, hvalue⟩ : ∃ fuel, ((request fuel).run.play answer s).value ≠ none :=
        exists_value_operationRequest exchanges ends r open? s
      obtain ⟨reply, hreply⟩ := Option.ne_none_iff_exists'.mp hvalue
      obtain ⟨m, hrest⟩ := ih reply.1 reply.2 ((request n).run.play answer s).final
      have hrequest {n m : Nat} (hle : n ≤ m) :
          Cut Request.isExchange n (request n).run (request m).run :=
        cut_operationRequest open? (.inr ⟨rfl, hle⟩)
      exact Cut.exists_value_bind (x := request) (f := rest) hrequest
        (fun reply _ _ hle => cut_served reply.2 (.inr ⟨rfl, hle⟩)) hreply hrest

theorem exists_value_ofOperation (exchanges : ∀ r s, (answer (.exchange r) s).1 = peer r)
    (ends : peer.Ends) {α : Type} (program : Kubelet.Program α) (s : σ) :
    ∃ fuel, ((ofOperation fuel connect program).run.play answer s).value ≠ none := by
  simp only [value_ofOperation, Ne, Option.map_eq_none_iff]
  exact exists_value_served exchanges ends program none s

theorem exists_value_response (exchanges : ∀ r s, (answer (.exchange r) s).1 = peer r)
    (ends : peer.Ends) (call : Call) (s : σ) :
    ∃ fuel, ((call.response fuel).run.play answer s).value ≠ none := by
  unfold response
  cases Kubelet.Invocation.parse call.arguments with
  | help reason => exact ⟨0, Option.some_ne_none _⟩
  | respond r => exact ⟨0, Option.some_ne_none _⟩
  | run operation =>
      simp only [Flow.value_bindOption, Flow.play_liftOption, Option.bind_some]
      cases ((ofHost (Settings.loadNode call.environment).run).play answer s).value with
      | error e => exact ⟨0, Option.some_ne_none _⟩
      | ok settings =>
          simp only [serve, Flow.value_bindOption, Flow.play_liftOption, Option.bind_some]
          exact exists_value_ofOperation exchanges ends _ _

end Call

end Ends

end NodeVolumes
