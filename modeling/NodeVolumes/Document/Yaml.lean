import NodeVolumes.Document.YamlScalar
import NodeVolumes.SortedMap

/-!
# YAML documents

Reading a document of block mappings and sequences, flow collections and scalars of all styles.
Anchors, aliases, tags and keys that are no scalars are refused.
-/

namespace NodeVolumes.Document.Yaml

/-- A line: the spaces in front of it, and what stands behind them. -/
structure Line where
  indent : Nat
  content : List Char
  deriving DecidableEq, Repr

namespace Line

def ofChars (cs : List Char) : Line :=
  let spaces := (cs.takeWhile (· = ' ')).length
  ⟨spaces, cs.drop spaces⟩

def chars (l : Line) : List Char :=
  List.replicate l.indent ' ' ++ l.content

def isEmpty (l : Line) : Bool :=
  match l.content.dropWhile isBlank with
  | [] | '#' :: _ => true
  | _ => false

end Line

def linesOf (cs : List Char) : List Line :=
  (Text.lineChars cs).map Line.ofChars

def charsOf (ls : List Line) : List Char :=
  ls.flatMap fun l => l.chars ++ ['\n']

def skipEmpty (ls : List Line) : List Line :=
  ls.dropWhile Line.isEmpty

/-! ## Keys and plain scalars -/

def beginsPlain : List Char → Bool
  | [] => false
  | c :: rest =>
      if [',', '[', ']', '\x7b', '\x7d', '#', '&', '*', '!', '|', '>', '\'', '"', '%', '@', '\x60'].contains
          c then false
      else if c == '-' || c == '?' || c == ':' then
        match rest with
        | [] => false
        | d :: _ => !isBlank d
      else !isBlank c

/-- What ends a key: a colon with a blank or nothing behind it. -/
def atColon : List Char → Bool
  | ':' :: [] => true
  | ':' :: c :: _ => isBlank c
  | _ => false

def endsFlow (c : Char) : Bool :=
  c == ',' || c == '[' || c == ']' || c == '\x7b' || c == '\x7d'

/--
The plain scalar at the front of a line and what follows it.

It ends before a key's colon, before a comment and, in a flow collection, before its marks.
-/
def plainFrom (flow : Bool) (taken : List Char) : List Char → List Char × List Char
  | [] => (taken.reverse, [])
  | c :: rest =>
      let ends :=
        c == '\n' || atColon (c :: rest) ||
          (c == '#' && (taken.head?.map isBlank).getD true) ||
          (flow && (endsFlow c || (c == ':' && (rest.head?.map endsFlow).getD true)))
      if ends then (taken.reverse, c :: rest) else plainFrom flow (c :: taken) rest

def dropTail (cs : List Char) : List Char :=
  (cs.reverse.dropWhile isBlank).reverse

/-- The key at the front of a line, and what follows its colon. -/
def key? (cs : List Char) : Option (String × List Char) :=
  match cs with
  | '"' :: _ | '\'' :: _ => do
      let (key, rest) ← quoted? cs
      let rest := rest.dropWhile isBlank
      if atColon rest then some (key, rest.drop 1) else none
  | _ =>
      if beginsPlain cs then
        let (word, rest) := plainFrom false [] cs
        if atColon rest then some (String.ofList (dropTail word), rest.drop 1) else none
      else none

def isItem : List Char → Bool
  | ['-'] => true
  | '-' :: c :: _ => isBlank c
  | _ => false

/-! ## Flow collections -/

def skipGapsFrom (comment : Bool) : List Char → List Char
  | [] => []
  | c :: rest =>
      if comment then skipGapsFrom (c ≠ '\n') rest
      else if isBlank c || c == '\n' then skipGapsFrom false rest
      else if c == '#' then skipGapsFrom true rest
      else c :: rest

def skipGaps (cs : List Char) : List Char :=
  skipGapsFrom false cs

mutual

def flowFrom : Nat → List Char → Option (Json × List Char)
  | 0, _ => none
  | fuel + 1, cs =>
      match cs with
      | '[' :: rest => do
          let (items, rest) ← flowItems fuel (skipGaps rest)
          return (.array items, rest)
      | '\x7b' :: rest => do
          let (members, rest) ← flowMembers fuel (skipGaps rest)
          let map := SortedMap.ofList members
          if map.entries.length = members.length then return (.object map.entries, rest) else none
      | '"' :: _ | '\'' :: _ => (quoted? cs).map fun (s, rest) => (.string s, rest)
      | _ =>
          if beginsPlain cs then
            let (word, rest) := plainFrom true [] cs
            some (plainValue (dropTail word), rest)
          else none

def flowItems : Nat → List Char → Option (List Json × List Char)
  | 0, _ => none
  | _, ']' :: rest => some ([], rest)
  | fuel + 1, cs => do
      let (item, rest) ← flowFrom fuel cs
      match skipGaps rest with
      | ',' :: rest => do
          let (items, rest) ← flowItems fuel (skipGaps rest)
          return (item :: items, rest)
      | ']' :: rest => return ([item], rest)
      | _ => none

def flowMembers : Nat → List Char → Option (List (String × Json) × List Char)
  | 0, _ => none
  | _, '\x7d' :: rest => some ([], rest)
  | fuel + 1, cs => do
      let (key, rest) ←
        match cs with
        | '"' :: _ | '\'' :: _ => quoted? cs
        | _ =>
            if beginsPlain cs then
              let (word, rest) := plainFrom true [] cs
              some (String.ofList (dropTail word), rest)
            else none
      let (value, rest) ←
        match skipGaps rest with
        | ':' :: rest =>
            match skipGaps rest with
            | ',' :: rest => some (.null, ',' :: rest)
            | '\x7d' :: rest => some (.null, '\x7d' :: rest)
            | rest => flowFrom fuel rest
        | rest => some (.null, rest)
      match skipGaps rest with
      | ',' :: rest => do
          let (members, rest) ← flowMembers fuel (skipGaps rest)
          return ((key, value) :: members, rest)
      | '\x7d' :: rest => return ([(key, value)], rest)
      | _ => none

end

/-- The lines behind a value that has to be the last thing on its line. -/
def endOfLine? (cs : List Char) : Option (List Line) :=
  let line := cs.takeWhile (· ≠ '\n')
  match line.dropWhile isBlank with
  | [] => some (linesOf ((cs.drop line.length).drop 1))
  | '#' :: _ =>
      if (line.head?.map isBlank).getD false then some (linesOf ((cs.drop line.length).drop 1)) else none
  | _ => none

/-! ## Blocks -/

/-- The lines of a block scalar below a line of indent `parent`, and what follows them. -/
def blockScalar (header : BlockHeader) (parent : Option Nat) (ls : List Line) :
    Json × List Line :=
  let isBlankLine (l : Line) : Bool := l.content.all isBlank
  let least := (parent.map (· + 1)).getD 0
  let indent :=
    match header.indent with
    | some n => (parent.getD 0) + n
    | none =>
        match ls.find? fun l => !isBlankLine l with
        | some l => if least ≤ l.indent then l.indent else least
        | none => least
  let body := ls.takeWhile fun l => isBlankLine l || indent ≤ l.indent
  let text := body.map fun l => if isBlankLine l then [] else l.chars.drop indent
  (.string (blockText header text), ls.drop body.length)

/--
The lines that carry a plain scalar on, which are indented more than `parent`.

`blanks` counts the blank lines since the last piece.
-/
def plainLines (parent : Option Nat) (taken : List Char) (blanks : Nat) :
    List Line → Option (List Char × List Line)
  | [] => some (taken, [])
  | l :: rest =>
      if l.content.all isBlank then plainLines parent taken (blanks + 1) rest
      else if l.isEmpty || (match parent with | some n => l.indent ≤ n | none => false) then
        some (taken, l :: rest)
      else
        let (word, behind) := plainFrom false [] l.content
        let glue := if blanks = 0 then [' '] else List.replicate blanks '\n'
        match behind with
        | [] => plainLines parent (taken ++ glue ++ dropTail word) 0 rest
        | '#' :: _ => some (taken ++ glue ++ dropTail word, rest)
        | _ => none

def inlineValue (parent : Option Nat) (cs : List Char) (ls : List Line) : Option (Json × List Line) :=
  match cs with
  | '|' :: _ | '>' :: _ => do
      let header ← blockHeader? cs
      return blockScalar header parent ls
  | '"' :: _ | '\'' :: _ => do
      let (s, rest) ← quoted? (cs ++ '\n' :: charsOf ls)
      return (.string s, ← endOfLine? rest)
  | '[' :: _ | '\x7b' :: _ => do
      let text := cs ++ '\n' :: charsOf ls
      let (value, rest) ← flowFrom (2 * text.length + 2) text
      return (value, ← endOfLine? rest)
  | _ =>
      if beginsPlain cs then
        let (word, behind) := plainFrom false [] cs
        match behind with
        | [] => do
            let (word, rest) ← plainLines parent (dropTail word) 0 ls
            return (plainValue word, rest)
        | '#' :: _ => some (plainValue (dropTail word), ls)
        | _ => none
      else none

mutual

/-- Reads the node of the next lines if they are indented by `least` spaces; else it is null. -/
def node : Nat → Option Nat → List Line → Option (Json × List Line)
  | 0, _, _ => none
  | fuel + 1, parent, ls =>
      let least := (parent.map (· + 1)).getD 0
      match skipEmpty ls with
      | [] => some (.null, [])
      | l :: rest =>
          if l.indent < least then some (.null, l :: rest)
          else if l.content.head? = some '\t' then none
          else if isItem l.content then do
            let (items, rest) ← items fuel l.indent (l :: rest)
            return (.array items, rest)
          else if (key? l.content).isSome then do
            let (members, rest) ← members fuel l.indent (l :: rest)
            let map := SortedMap.ofList members
            if map.entries.length = members.length then return (.object map.entries, rest) else none
          else inlineValue parent l.content rest

def items : Nat → Nat → List Line → Option (List Json × List Line)
  | 0, _, _ => none
  | fuel + 1, indent, ls =>
      match skipEmpty ls with
      | [] => some ([], [])
      | l :: rest =>
          if l.indent < indent ∨ (l.indent = indent ∧ ¬isItem l.content) then some ([], l :: rest)
          else if l.indent = indent then do
            let behind := l.content.drop 1
            let blanks := (behind.takeWhile isBlank).length
            let inner : Line := ⟨indent + 1 + blanks, behind.drop blanks⟩
            let (item, rest) ← node fuel (some indent) (if inner.isEmpty then rest else inner :: rest)
            let (more, rest) ← items fuel indent rest
            return (item :: more, rest)
          else none

def members : Nat → Nat → List Line → Option (List (String × Json) × List Line)
  | 0, _, _ => none
  | fuel + 1, indent, ls =>
      match skipEmpty ls with
      | [] => some ([], [])
      | l :: rest =>
          if l.indent < indent then some ([], l :: rest)
          else if l.indent = indent then
            match key? l.content with
            | none => if isItem l.content then some ([], l :: rest) else none
            | some (key, behind) => do
                let behind := behind.dropWhile isBlank
                let (value, rest) ←
                  match behind with
                  | [] | '#' :: _ => below fuel indent rest
                  | _ => inlineValue (some indent) behind rest
                let (more, rest) ← members fuel indent rest
                return ((key, value) :: more, rest)
          else none

/-- Reads the value below a key, which may be a sequence at the indent of the key. -/
def below : Nat → Nat → List Line → Option (Json × List Line)
  | 0, _, _ => none
  | fuel + 1, indent, ls =>
      match skipEmpty ls with
      | l :: rest =>
          if l.indent = indent ∧ isItem l.content then do
            let (items, rest) ← items fuel indent (l :: rest)
            return (.array items, rest)
          else node fuel (some indent) (l :: rest)
      | [] => some (.null, [])

end

/-! ## Documents -/

def isMarker (mark : List Char) (l : Line) : Bool :=
  l.indent == 0 && l.content.take 3 == mark && ((l.content.drop 3).head?.map isBlank).getD true

def isStart (l : Line) : Bool := isMarker ['-', '-', '-'] l

def isEnd (l : Line) : Bool := isMarker ['.', '.', '.'] l

def onlyDocument? (ls : List Line) : Option (List Line) :=
  let ls := skipEmpty ls
  let directives := ls.takeWhile fun l => l.indent == 0 && l.content.head? == some '%'
  let ls := if directives = [] then ls else skipEmpty (ls.drop directives.length)
  let body :=
    match ls with
    | l :: rest =>
        if isStart l then some (Line.ofChars (List.replicate 3 ' ' ++ l.content.drop 3) :: rest)
        else if directives = [] then some ls
        else none
    | [] => if directives = [] then some [] else none
  body.bind fun body =>
    let inside := body.takeWhile fun l => !(isStart l || isEnd l)
    match body.drop inside.length with
    | [] => some inside
    | l :: rest => if isEnd l ∧ rest.all Line.isEmpty then some inside else none

/-- Reads a document; one that says nothing is an empty mapping. -/
def parse? (s : String) : Option Json := do
  let text := (Text.replaceAll s "\r\n" "\n").toList
  let cs := if text.head? = some '\ufeff' then text.drop 1 else text
  let ls ← onlyDocument? (linesOf cs)
  match skipEmpty ls with
  | [] => return .object []
  | ls =>
      match ← node (2 * cs.length + 2) none ls with
      | (value, rest) => if rest.all Line.isEmpty then return value else none

end NodeVolumes.Document.Yaml
