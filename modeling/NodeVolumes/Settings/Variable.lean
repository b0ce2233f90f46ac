import NodeVolumes.Document.Text
import NodeVolumes.SortedMap

/-!
# Values of variables

How the text of an environment variable is understood: as a list if it holds commas, as a number,
truth value, quoted text, array or table if it is one from end to end, and as itself otherwise.
-/

namespace NodeVolumes.Settings.Variable

open Text Document

def endsWord (c : Char) : Bool :=
  c == ',' || c == '\x7b' || c == '\x7d' || c == '[' || c == ']'

def isSpace (c : Char) : Bool :=
  c == ' ' || c == '\t' || c == '\n' || c == '\x0C' || c == '\r'

def isKeyChar (c : Char) : Bool :=
  c.isAlphanum || c == '_' || c == '-'

def number? (word : List Char) : Option Json.Number :=
  let fractional := if word.contains '.' then Decimal.Numeral.parse? word else none
  match fractional with
  | some n => some n.toNumber
  | none =>
      match integer? word with
      | some n => if isUnsigned64 n || isSigned64 n then some (.integer n) else none
      | none => none

def wordValue (word : List Char) : Json :=
  match number? word with
  | some n => .number n
  | none => .string (String.ofList word)

/-- Reads a quoted text from behind its opening quote. -/
def quotedFrom (taken : List Char) : Nat → List Char → Option (String × List Char)
  | 0, _ => none
  | _, [] => none
  | _, '"' :: rest => some (String.ofList taken.reverse, rest)
  | fuel + 1, '\\' :: 'u' :: rest => do
      let (c, rest) ← hexChar? 4 rest
      quotedFrom (c :: taken) fuel rest
  | fuel + 1, '\\' :: 'U' :: rest => do
      let (c, rest) ← hexChar? 8 rest
      quotedFrom (c :: taken) fuel rest
  | _, '\\' :: '/' :: _ => none
  | fuel + 1, '\\' :: c :: rest =>
      match Json.simpleEscape? c with
      | some plain => quotedFrom (plain :: taken) fuel rest
      | none => none
  | fuel + 1, c :: rest => quotedFrom (c :: taken) fuel rest

/-- Reads a quoted text from behind its opening quote. -/
def quoted? (cs : List Char) : Option (String × List Char) :=
  quotedFrom [] (cs.length + 1) cs

def key? (cs : List Char) : Option (String × List Char) :=
  match cs with
  | '"' :: rest => quoted? rest
  | _ =>
      let word := cs.takeWhile isKeyChar
      if word = [] then none else some (String.ofList word, cs.dropWhile isKeyChar)

mutual

def valueFrom : Nat → List Char → Option (Json × List Char)
  | 0, _ => none
  | fuel + 1, cs => do
      let (value, rest) ← bareFrom fuel (cs.dropWhile isSpace)
      return (value, rest.dropWhile isSpace)

def bareFrom : Nat → List Char → Option (Json × List Char)
  | 0, _ => none
  | fuel + 1, cs =>
      match cs with
      | 't' :: 'r' :: 'u' :: 'e' :: rest => some (.bool true, rest)
      | 'f' :: 'a' :: 'l' :: 's' :: 'e' :: rest => some (.bool false, rest)
      | '"' :: rest => (quoted? rest).map fun (s, rest) => (.string s, rest)
      | '\'' :: c :: '\'' :: rest => some (.string (String.singleton c), rest)
      | '\'' :: _ => none
      | '[' :: rest => do
          let (items, rest) ← itemsFrom fuel (rest.dropWhile isSpace)
          return (.array items, rest)
      | '\x7b' :: rest => do
          let (members, rest) ← membersFrom fuel (rest.dropWhile isSpace)
          return (.object (SortedMap.ofList members).entries, rest)
      | _ =>
          let word := cs.takeWhile fun c => !endsWord c
          some (wordValue (trimChars word), cs.dropWhile fun c => !endsWord c)

def itemsFrom : Nat → List Char → Option (List Json × List Char)
  | 0, _ => none
  | _, ']' :: rest => some ([], rest)
  | fuel + 1, cs => do
      let (item, rest) ← valueFrom fuel cs
      match rest with
      | ',' :: rest => do
          let (items, rest) ← itemsFrom fuel (rest.dropWhile isSpace)
          return (item :: items, rest)
      | ']' :: rest => return ([item], rest)
      | _ => none

def membersFrom : Nat → List Char → Option (List (String × Json) × List Char)
  | 0, _ => none
  | _, '\x7d' :: rest => some ([], rest)
  | fuel + 1, cs => do
      let (key, rest) ← key? cs
      match rest.dropWhile isSpace with
      | '=' :: rest => do
          let (value, rest) ← valueFrom fuel rest
          match rest with
          | ',' :: rest => do
              let (members, rest) ← membersFrom fuel (rest.dropWhile isSpace)
              return ((key, value) :: members, rest)
          | '\x7d' :: rest => return ([(key, value)], rest)
          | _ => none
      | _ => none

end

def isList (cs : List Char) : Bool :=
  cs.contains ',' &&
    match cs.head? with
    | some c => !(c == '[' || c == '\x7b' || c == '"' || c == '\'')
    | none => false

def value (text : String) : Json :=
  let cs := trimChars text.toList
  if isList cs then
    .array ((pieces (· == ',') cs).map fun piece => .string (String.ofList (trimChars piece)))
  else
    match valueFrom (3 * cs.length + 3) cs with
    | some (v, []) => v
    | _ => .string (String.ofList cs)

end NodeVolumes.Settings.Variable
