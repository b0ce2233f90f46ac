import NodeVolumes.Http.Message

/-!
# Networks

A network as a value: what is answered where, and which requests have gone out.  Only plain HTTP
reaches anything, and nothing is reached while the link is down.
-/

namespace NodeVolumes.Http

structure Route where
  method : String
  /-- The URL; one without a query stands for every query. -/
  url : String
  response : Response
  /-- The route is gone after its first use. -/
  once : Bool := false
  /-- The connection is closed without an answer. -/
  drops : Bool := false
  deriving DecidableEq, Repr

def Route.answers (route : Route) (r : Request) : Bool :=
  route.method == r.method.name &&
    if route.url.toList.contains '?' then route.url == r.url.requestText
    else route.url == r.url.baseText

structure Network where
  /-- Whether requests can go out. -/
  linkUp : Bool := true
  routes : List Route := []
  /-- The requests that went out, latest first. -/
  history : List Request := []

namespace Network

def nothingThere : Response :=
  { status := 404, body := "\x7b\x7d" }

/-- What arrives of a response: some statuses come without a body. -/
def delivered (r : Response) : Response :=
  if r.status = 204 ∨ r.status = 304 then { r with body := "" } else r

/-- The answer of the routes to a request, and the routes that are left. -/
def respond (r : Request) : List Route → Except TransportError Response × List Route
  | [] => (.ok nothingThere, [])
  | route :: rest =>
      if route.answers r then
        (if route.drops then .error (.unreachable r.url.text) else .ok (delivered route.response),
          if route.once then rest else route :: rest)
      else
        let (answer, rest) := respond r rest
        (answer, route :: rest)

def exchange (n : Network) (r : Request) : Except TransportError Response × Network :=
  if n.linkUp && r.url.scheme == "http" then
    let (answer, routes) := respond r n.routes
    (answer, { n with routes, history := r :: n.history })
  else
    (.error (.unreachable r.url.text), n)

end Network

end NodeVolumes.Http
