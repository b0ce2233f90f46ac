import NodeVolumes.Document.Text
import NodeVolumes.SortedMap

/-!
# JSON5 documents

Reading JSON as people write it: comments, keys without quotes, single quotes, commas behind the
last item, hexadecimal numbers and numbers with a bare point or a plus sign.
-/

namespace NodeVolumes.Document.Json5

def isSpace (c : Char) : Bool :=
  (Text.isBlank c && c != '\u0085') || c == '\ufeff'

def endsLine (c : Char) : Bool :=
  c == '\n' || c == '\r' || c == '\u2028' || c == '\u2029'

inductive Gap where
  | none
  | line
  | block

/-- What follows spaces and comments; nothing follows a comment that is not closed. -/
def skipFrom : Nat → Gap → List Char → Option (List Char)
  | 0, _, _ => .none
  | _, .block, [] => .none
  | _, _, [] => some []
  | fuel + 1, .block, '*' :: '/' :: rest => skipFrom fuel .none rest
  | fuel + 1, .block, _ :: rest => skipFrom fuel .block rest
  | fuel + 1, .line, c :: rest => skipFrom fuel (if endsLine c then .none else .line) rest
  | fuel + 1, .none, '/' :: '*' :: rest => skipFrom fuel .block rest
  | fuel + 1, .none, '/' :: '/' :: rest => skipFrom fuel .line rest
  | fuel + 1, .none, c :: rest => if isSpace c then skipFrom fuel .none rest else some (c :: rest)

def skip (cs : List Char) : Option (List Char) :=
  skipFrom (cs.length + 1) .none cs

/-- What a backslash and the characters behind it stand for; an escaped line end is nothing. -/
def escape? : List Char → Option (List Char × List Char)
  | '\r' :: '\n' :: rest => some ([], rest)
  | 'u' :: rest => (hexChar? 4 rest).map fun (c, rest) => ([c], rest)
  | 'x' :: rest => (hexChar? 2 rest).map fun (c, rest) => ([c], rest)
  | 'v' :: rest => some (['\x0B'], rest)
  | '0' :: rest =>
      match rest with
      | d :: _ => if d.isDigit then none else some (['\x00'], rest)
      | [] => some (['\x00'], rest)
  | c :: rest =>
      if c.isDigit then none
      else if endsLine c then some ([], rest)
      else some ([(Json.simpleEscape? c).getD c], rest)
  | [] => none

def stringFrom (quote : Char) (taken : List Char) : Nat → List Char → Option (String × List Char)
  | 0, _ => none
  | fuel + 1, cs =>
      match cs with
      | [] => none
      | '\\' :: rest => do
          let (plain, rest) ← escape? rest
          stringFrom quote (plain.reverse ++ taken) fuel rest
      | c :: rest =>
          if c = quote then some (String.ofList taken.reverse, rest)
          else if c = '\n' ∨ c = '\r' then none
          else stringFrom quote (c :: taken) fuel rest

/-- Characters that a name may begin with; letters beyond ASCII may, and all their kin. -/
def beginsName (c : Char) : Bool :=
  c.isAlpha || c == '$' || c == '_' || (0x80 ≤ c.toNat && !isSpace c)

def isNameChar (c : Char) : Bool :=
  beginsName c || c.isDigit

def name? (cs : List Char) : Option (String × List Char) :=
  match cs with
  | '"' :: rest => stringFrom '"' [] (rest.length + 1) rest
  | '\'' :: rest => stringFrom '\'' [] (rest.length + 1) rest
  | c :: _ =>
      if beginsName c then
        some (String.ofList (cs.takeWhile isNameChar), cs.dropWhile isNameChar)
      else none
  | [] => none

def isWordChar (c : Char) : Bool :=
  c.isAlphanum || c == '.' || c == '+' || c == '-'

def integerNumber? (n : Int) : Option Json.Number :=
  if isSigned64 n then some (.integer n) else none

def number? (word : List Char) : Option Json.Number :=
  let (negative, cs) := Decimal.Numeral.sign word
  let signed (f : Float) : Json.Number := .float (if negative then -f else f).toBits
  let hex (ds : List Char) : Option Json.Number :=
    if ds = [] then none
    else (hexNumber? ds).bind fun n => integerNumber? (if negative then -(n : Int) else n)
  match cs with
  | '0' :: 'x' :: ds => hex ds
  | '0' :: 'X' :: ds => hex ds
  | ['I', 'n', 'f', 'i', 'n', 'i', 't', 'y'] => some (signed (1.0 / 0.0))
  | ['N', 'a', 'N'] => some (signed (0.0 / 0.0))
  | '+' :: _ => none
  | '-' :: _ => none
  | '0' :: d :: _ => if d.isDigit then none else (Decimal.Numeral.parse? word).map (·.toNumber)
  | _ =>
      match integer? word with
      | some n => integerNumber? n
      | none => (Decimal.Numeral.parse? word).map (·.toNumber)

def wordValue? (word : List Char) : Option Json :=
  if word = ['n', 'u', 'l', 'l'] then some .null
  else if word = ['t', 'r', 'u', 'e'] then some (.bool true)
  else if word = ['f', 'a', 'l', 's', 'e'] then some (.bool false)
  else (number? word).map .number

mutual

def valueFrom : Nat → List Char → Option (Json × List Char)
  | 0, _ => none
  | fuel + 1, cs => do
      match ← skip cs with
      | '"' :: rest =>
          let (s, rest) ← stringFrom '"' [] (rest.length + 1) rest
          return (.string s, ← skip rest)
      | '\'' :: rest =>
          let (s, rest) ← stringFrom '\'' [] (rest.length + 1) rest
          return (.string s, ← skip rest)
      | '[' :: rest =>
          let (items, rest) ← itemsFrom fuel (← skip rest)
          return (.array items, ← skip rest)
      | '\x7b' :: rest =>
          let (members, rest) ← membersFrom fuel (← skip rest)
          return (.object (SortedMap.ofList members).entries, ← skip rest)
      | cs =>
          let word := cs.takeWhile isWordChar
          let value ← wordValue? word
          return (value, ← skip (cs.drop word.length))

def itemsFrom : Nat → List Char → Option (List Json × List Char)
  | 0, _ => none
  | _, ']' :: rest => some ([], rest)
  | fuel + 1, cs => do
      let (item, rest) ← valueFrom fuel cs
      match rest with
      | ',' :: rest =>
          let (items, rest) ← itemsFrom fuel (← skip rest)
          return (item :: items, rest)
      | ']' :: rest => return ([item], rest)
      | _ => none

def membersFrom : Nat → List Char → Option (List (String × Json) × List Char)
  | 0, _ => none
  | _, '\x7d' :: rest => some ([], rest)
  | fuel + 1, cs => do
      let (name, rest) ← name? cs
      match ← skip rest with
      | ':' :: rest =>
          let (value, rest) ← valueFrom fuel rest
          match rest with
          | ',' :: rest =>
              let (members, rest) ← membersFrom fuel (← skip rest)
              return ((name, value) :: members, rest)
          | '\x7d' :: rest => return ([(name, value)], rest)
          | _ => none
      | _ => none

end

def parse? (s : String) : Option Json :=
  match valueFrom (2 * s.toList.length + 2) s.toList with
  | some (value, []) => some value
  | _ => none

end NodeVolumes.Document.Json5
