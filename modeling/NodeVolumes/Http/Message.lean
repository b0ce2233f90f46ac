import NodeVolumes.Flow
import NodeVolumes.Http.UrlReader
import NodeVolumes.Json.Basic

/-!
# HTTP messages

Requests and responses, as far as a client of a REST service shapes and reads them.
-/

namespace NodeVolumes.Http

inductive Method where
  | get
  | post
  | delete
  deriving DecidableEq, Repr

def Method.name : Method → String
  | .get => "GET"
  | .post => "POST"
  | .delete => "DELETE"

structure Request where
  method : Method
  url : Url
  /-- The token that authorises the request. -/
  token : Option String := none
  /-- The kinds of content that the client accepts. -/
  accept : String := "*/*"
  body : Option Json := none

structure Response where
  status : Nat
  headers : List (String × String) := []
  body : String := ""
  deriving DecidableEq, Repr

namespace Response

def isSuccess (r : Response) : Bool :=
  200 ≤ r.status && r.status < 300

/-- The first value of a header, whatever the case of its name. -/
def header? (r : Response) (name : String) : Option String :=
  (r.headers.find? fun h => h.1.toLower == name.toLower).map Prod.snd

/-- The body as text, without a byte-order mark in front. -/
def text (r : Response) : String :=
  match r.body.toList with
  | '\ufeff' :: rest => String.ofList rest
  | _ => r.body

end Response

/-- Whether every character of a header's value is readable: visible ASCII, space or tab. -/
def isReadable (value : String) : Bool :=
  value.toList.all fun c => (0x20 ≤ c.toNat && c.toNat < 0x7F) || c == '\t'

inductive TransportError where
  | badUrl (error : UrlError)
  | unreachable (url : String)
  deriving DecidableEq, Repr

def TransportError.message : TransportError → String
  | .badUrl e => "builder error: " ++ e.message
  | .unreachable url => "error sending request for url (" ++ url ++ ")"

end NodeVolumes.Http
