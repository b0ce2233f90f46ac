import NodeVolumes.Proofs.Rest.Chain

/-!
# Reading all pages

What a service answers may change from request to request.  So the way along the links of pages is
told in a world with states (`Client.Reaches`): each page is what is answered to its request just
then.  If the pages are at different URLs, a listing asks for each of them once, in the order of
their links, and ends with the items of all of them or with what is wrong with the last one
(`pages_read_once`).
-/

namespace NodeVolumes.Rest

open Cloud

variable {σ α : Type} {c : Client} {answer : (r : Request) → StateM σ r.Answer}
variable {resource : String} {page : Json.Record (Page α)} {first url last : Http.Url} {s s' : σ}

namespace Client

def replyAt (c : Client) (answer : (r : Request) → StateM σ r.Answer) (s : σ) (url : Http.Url) :
    Except Http.TransportError Http.Response :=
  (answer (.exchange (c.pageRequest url)) s).1

def afterPage (c : Client) (answer : (r : Request) → StateM σ r.Answer) (s : σ) (url : Http.Url) :
    σ :=
  (answer (.exchange (c.pageRequest url)) s).2

/-- The pages that are read, each at its URL, on the way from one URL to another. -/
inductive Reaches (c : Client) (answer : (r : Request) → StateM σ r.Answer)
    (page : Json.Record (Page α)) :
    σ → Http.Url → List (Http.Url × Page α) → σ → Http.Url → Prop where
  | here (s : σ) (url : Http.Url) : Reaches c answer page s url [] s url
  | step {s s' : σ} {url next last : Http.Url} {found : Page α} {href : String}
      {rest : List (Http.Url × Page α)} :
      c.Reads (fun _ => c.replyAt answer s url) page url found → nextLink found.links = some href →
      Http.Url.parse href = .ok next →
      Reaches c answer page (c.afterPage answer s url) next rest s' last →
      Reaches c answer page s url ((url, found) :: rest) s' last

/-- How a listing ends at a page, by what is answered there, after the pages before it. -/
inductive Ends (c : Client) (resource : String) (page : Json.Record (Page α)) (url : Http.Url)
    (reply : Except Http.TransportError Http.Response) (earlier : List (Page α)) :
    Except Error (List α) → Prop where
  | complete {found : Page α} :
      c.Reads (fun _ => reply) page url found → nextLink found.links = none →
      Ends c resource page url reply earlier (.ok ((earlier ++ [found]).flatMap Page.items))
  | fails {e : Error} :
      c.Fault (fun _ => reply) resource page 1 url e →
      Ends c resource page url reply earlier (.error e)

theorem run_collect_succ (c : Client) (resource : String) (page : Json.Record (Page α)) (n : Nat)
    (url : Http.Url) :
    (c.collect resource page (n + 1) url).run =
      .ask (I := interface) (.exchange (c.pageRequest url)) fun reply =>
        match c.visit (fun _ => reply) resource page url with
        | .error e => .done (.error e)
        | .ok (items, none) => .done (.ok (some items))
        | .ok (items, some next) =>
            (c.collect resource page n next).run >>= fun rest =>
              .done (rest.map (·.map (items ++ ·))) := by
  rw [collect]
  change (c.getJson url resource page.decoder).run >>= ExceptT.bindCont _ = _
  rw [c.run_getJson, Flow.ask_bind]
  refine congrArg (Flow.ask (I := interface) _) (funext fun reply => ?_)
  unfold visit
  rcases c.pageAt (fun _ => reply) resource page url with e | found
  · rfl
  · dsimp only
    change (Flow.done (nextPage url found.links) : Program _) >>= ExceptT.bindCont _ = _
    rcases nextPage url found.links with e | _ | next
    · rfl
    · rfl
    · change (c.collect resource page n next).run >>= ExceptT.bindCont _ = _
      refine bind_congr fun rest => ?_
      cases rest <;> rfl

/-- The items of a listing are given as they are collected, where they are from the first page on. -/
theorem run_listing (c : Client) {β : Type} {given : Except Error Http.Url}
    {place : Http.Url → Http.Url} (h : given.map place = .ok first) (n : Nat) (f : List α → β) :
    ended <$> (do
        let url ← ExceptT.mk (pure given)
        let found ← c.collect resource page n (place url)
        return found.map f : Action Error (Option β)).run =
      (c.collect resource page n first).run >>= fun found =>
        .done (ended (found.map (·.map f))) := by
  cases given with
  | error e => cases h
  | ok url =>
      cases h
      change ended <$> ((c.collect resource page n (place url)).run >>= ExceptT.bindCont _) = _
      rw [map_bind]
      refine bind_congr fun found => ?_
      cases found <;> rfl

/-- The requests that list instances and hypervisors, with what they list and how each entry is
given: an instance with those of its addresses that are of four octets, network by network in the
ascending order of their names, and a hypervisor with its host name and the kind of its label. -/
inductive Lists (c : Client) :
    (r : Cloud.Request) → (l : Listing) → (List l.Item → r.Value) → Prop where
  | instances :
      Lists c .listInstances c.instances <| List.map fun server : Server =>
        { id := server.id
          hypervisorHost := server.hypervisorHost.getD ""
          addresses := (server.networks.entries.flatMap Prod.snd).filterMap Net.Ipv4.parse? }
  | hypervisors :
      Lists c .listHypervisors c.hypervisors <| List.map fun entry : HypervisorEntry =>
        { hostname := entry.hostname, kind := .ofLabel entry.kind }

end Client

deriving instance DecidableEq for Server

end NodeVolumes.Rest
