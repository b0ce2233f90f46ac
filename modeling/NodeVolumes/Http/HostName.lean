import NodeVolumes.Http.Percent
import NodeVolumes.Http.Punycode
import NodeVolumes.Net.Numeral
import NodeVolumes.Text.Search

/-!
# Host names of URLs

How the host of a URL is read and written: as an address in brackets, an address of four numbers,
or a name in lower case whose labels are written in ASCII.
-/

namespace NodeVolumes.Http

inductive UrlError where
  | relative
  | emptyHost
  | invalidPort
  | invalidIpv4
  | invalidIpv6
  | invalidName
  | invalidHostCharacter
  deriving DecidableEq, Repr

def UrlError.message : UrlError → String
  | .relative => "relative URL without a base"
  | .emptyHost => "empty host"
  | .invalidPort => "invalid port number"
  | .invalidIpv4 => "invalid IPv4 address"
  | .invalidIpv6 => "invalid IPv6 address"
  | .invalidName => "invalid international domain name"
  | .invalidHostCharacter => "invalid domain character"

namespace HostName

def isForbidden (c : Char) : Bool :=
  c == '\x00' || c == '\t' || c == '\n' || c == '\r' || c == ' ' || c == '#' || c == '/' ||
    c == ':' || c == '<' || c == '>' || c == '?' || c == '@' || c == '[' || c == '\\' ||
    c == ']' || c == '^' || c == '|'

/-- Characters that no name of a well-known scheme's host holds. -/
def isForbiddenInName (c : Char) : Bool :=
  isForbidden c || c.toNat < 0x20 || c == '\x7f' || c == '%' || Punycode.isMeaningless c

/-- The labels of a name, without an empty one at the end. -/
def labels (cs : List Char) : List (List Char) :=
  let all := Text.pieces (· == '.') cs
  if 1 < all.length ∧ all.getLast? = some [] then all.dropLast else all

/-- Whether a name ends in a number, so that it has to be an address. -/
def endsInNumber (cs : List Char) : Bool :=
  match (labels cs).getLast? with
  | some (c :: rest) =>
      (c :: rest).all Char.isDigit ||
        (Text.hasStart ['0', 'x'] (c :: rest) && (Net.numeral? (c :: rest)).isSome)
  | _ => false

/-- Reads an address in brackets from behind the first one. -/
def bracketed (cs : List Char) : Except UrlError String :=
  match cs.getLast? with
  | some ']' =>
      match Net.Ipv6.ofChars? cs.dropLast with
      | some address => .ok ("[" ++ address.text ++ "]")
      | none => .error .invalidIpv6
  | _ => .error .invalidIpv6

def inAscii (name : List Char) : List Char :=
  ['.'].intercalate ((Text.pieces (· == '.') name).map Punycode.label)

def named (cs : List Char) : Except UrlError String :=
  let folded := (Percent.decode cs).toList.flatMap Punycode.folded
  let name := inAscii folded
  if folded.any isForbiddenInName then .error .invalidName
  else if name = [] then .error .emptyHost
  else if endsInNumber name then
    match ((labels name).mapM Net.numeral?).bind Net.Ipv4.ofNumbers? with
    | some address => .ok address.text
    | none => .error .invalidIpv4
  else .ok (String.ofList name)

def parse (special : Bool) (cs : List Char) : Except UrlError String :=
  match cs with
  | '[' :: rest => bracketed rest
  | _ =>
      if special then named cs
      else if cs.any isForbidden then .error .invalidHostCharacter
      else .ok (String.ofList (Percent.encode (fun _ => false) cs))

end HostName

end NodeVolumes.Http
