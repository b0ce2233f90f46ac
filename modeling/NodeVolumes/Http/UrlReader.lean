import NodeVolumes.Http.Url

/-!
# Reading URLs

Absolute URLs from their text.  Characters around a URL that say nothing are passed over, dots in
its path are resolved, and what may not stand for itself is put into percent notation.
-/

namespace NodeVolumes.Http.Url

open Text

def isPadding (c : Char) : Bool :=
  c.toNat ≤ 0x20

def significant (s : String) : List Char :=
  let cs := s.toList.dropWhile isPadding
  (cs.reverse.dropWhile isPadding).reverse.filter fun c => !isIgnored c

def isSchemeChar (c : Char) : Bool :=
  c.isAlphanum || c == '+' || c == '-' || c == '.'

def scheme? (cs : List Char) : Option (String × List Char) :=
  let word := cs.takeWhile isSchemeChar
  match word, cs.drop word.length with
  | c :: _, ':' :: rest => if c.isAlpha then some ((String.ofList word).toLower, rest) else none
  | _, _ => none

/-- The characters before and behind the first one that `p` picks out. -/
def cut (p : Char → Bool) (cs : List Char) : List Char × Option (List Char) :=
  match cs.dropWhile fun c => !p c with
  | [] => (cs, none)
  | _ :: rest => (cs.takeWhile fun c => !p c, some rest)

/-- The characters before and behind the last one that `p` picks out. -/
def cutLast (p : Char → Bool) (cs : List Char) : Option (List Char) × List Char :=
  match cut p cs.reverse with
  | (_, none) => (none, cs)
  | (behind, some before) => (some before.reverse, behind.reverse)

def credentials (cs : List Char) : String × String :=
  let write (part : List Char) : String := String.ofList (Percent.encode Percent.inUserinfo part)
  match cut (· == ':') cs with
  | (user, none) => (write user, "")
  | (user, some password) => (write user, write password)

/-- Reads a port; the port of the scheme itself is left out. -/
def readPort (scheme : String) (cs : List Char) : Except UrlError (Option Nat) :=
  if cs = [] then .ok none
  else if cs.all Char.isDigit ∧ Json.digitsValue cs < 0x10000 then
    let n := Json.digitsValue cs
    .ok (if portOf scheme = some n then none else some n)
  else .error .invalidPort

/-- The host of an authority and its port; colons in brackets belong to the host. -/
def hostAndPort (cs : List Char) : List Char × List Char :=
  match cs with
  | '[' :: _ =>
      let inside := cs.takeWhile (· ≠ ']')
      let host := cs.take (inside.length + 1)
      match cs.drop host.length with
      | ':' :: port => (host, port)
      | rest => (host ++ rest, [])
  | _ =>
      let (host, behind) := cut (· == ':') cs
      (host, behind.getD [])

def readAuthority (scheme : String) (cs : List Char) : Except UrlError Authority := do
  let special := isWellKnown scheme
  let (user, rest) := cutLast (· == '@') cs
  let (username, password) := (user.map credentials).getD ("", "")
  let (host, digits) := hostAndPort rest
  if host = [] ∧ (special ∨ user.isSome ∨ digits ≠ []) ∧ scheme ≠ "file" then
    .error .emptyHost
  else
    let host ← if host = [] then .ok "" else HostName.parse special host
    let port ← readPort scheme digits
    return ⟨username, password, if scheme = "file" ∧ host = "localhost" then "" else host, port⟩

def isDot (segment : List Char) : Bool :=
  ["." , "%2e"].contains (String.ofList segment).toLower

def isTwoDots (segment : List Char) : Bool :=
  ["..", ".%2e", "%2e.", "%2e%2e"].contains (String.ofList segment).toLower

/-- The segments of a path with dots resolved, after those already read. -/
def resolved (read : List String) : List (List Char) → List String
  | [] => read
  | [last] =>
      if isTwoDots last then read.dropLast ++ [""]
      else if isDot last then read ++ [""]
      else read ++ [String.ofList (Percent.encode Percent.inPath last)]
  | segment :: rest =>
      if isTwoDots segment then resolved read.dropLast rest
      else if isDot segment then resolved read rest
      else resolved (read ++ [String.ofList (Percent.encode Percent.inPath segment)]) rest

def separates (special : Bool) (c : Char) : Bool :=
  c == '/' || (special && c == '\\')

/-- Reads the path behind an authority, which starts with a slash or is empty. -/
def rootedPath (special : Bool) (cs : List Char) : UrlPath :=
  match cs with
  | [] => .segments (if special then [""] else [])
  | c :: rest =>
      .segments (resolved [] (pieces (separates special) (if separates special c then rest else cs)))

/-- What stands in front of query and fragment, and those. -/
def parts (cs : List Char) : List Char × Option (List Char) × Option (List Char) :=
  let (front, fragment) := cut (· == '#') cs
  let (base, query) := cut (· == '?') front
  (base, query, fragment)

def withAuthority (scheme : String) (cs : List Char) : Except UrlError Url := do
  let special := isWellKnown scheme
  let (base, query, fragment) := parts cs
  let host := base.takeWhile fun c => !separates special c
  let authority ← readAuthority scheme host
  return {
    scheme, authority := some authority, path := rootedPath special (base.drop host.length)
    query := query.map fun q => String.ofList (Percent.encode (Percent.inQuery special) q)
    fragment := fragment.map fun f => String.ofList (Percent.encode Percent.inFragment f) }

/-- Reads what follows the colon of a URL without an authority. -/
def withoutAuthority (scheme : String) (cs : List Char) : Url :=
  let (base, query, fragment) := parts cs
  { scheme, authority := none
    path :=
      if base.head? = some '/' then rootedPath false base
      else .opaqueText (String.ofList (Percent.encode (fun _ => false) base))
    query := query.map fun q => String.ofList (Percent.encode (Percent.inQuery false) q)
    fragment := fragment.map fun f => String.ofList (Percent.encode Percent.inFragment f) }

def parse (s : String) : Except UrlError Url :=
  match scheme? (significant s) with
  | none => .error .relative
  | some (scheme, rest) =>
      if scheme = "file" then
        match rest with
        | '/' :: '/' :: rest => withAuthority scheme rest
        | _ =>
            let u := withoutAuthority scheme ('/' :: rest.dropWhile (separates true))
            .ok { u with authority := some ⟨"", "", "", none⟩ }
      else if isWellKnown scheme then withAuthority scheme (rest.dropWhile (separates true))
      else
        match rest with
        | '/' :: '/' :: rest => withAuthority scheme rest
        | _ => .ok (withoutAuthority scheme rest)

end NodeVolumes.Http.Url
