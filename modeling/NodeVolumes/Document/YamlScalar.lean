import NodeVolumes.Document.Text

/-!
# YAML scalars

What plain words of YAML stand for, quoted scalars, and scalars of several lines.
-/

namespace NodeVolumes.Document.Yaml

def isBlank (c : Char) : Bool :=
  c == ' ' || c == '\t'

/-! ## Plain scalars -/

def based? (base : Nat) (ds : List Char) : Option Nat :=
  if ds = [] then none
  else
    ds.foldlM
      (fun n c =>
        match Json.hexValue? c with
        | some d => if d < base then some (n * base + d) else none
        | none => none)
      0

/-- Whether digits start with a zero that is not alone; such a word is no number. -/
def isPadded (cs : List Char) : Bool :=
  let (_, ds) := Decimal.Numeral.sign cs
  match ds with
  | '0' :: rest => !rest.isEmpty && rest.all Char.isDigit
  | _ => false

def magnitude? (cs : List Char) : Option Nat :=
  match cs with
  | '0' :: 'x' :: ds => based? 16 ds
  | '0' :: 'o' :: ds => based? 8 ds
  | '0' :: 'b' :: ds => based? 2 ds
  | _ => based? 10 cs

def integer? (word : List Char) : Option Int :=
  if isPadded word then none
  else
    let (negative, cs) := Decimal.Numeral.sign word
    match magnitude? cs with
    | some n =>
        if negative then if isSigned64 (-n) then some (-n) else none
        else if isUnsigned64 n then some n else none
    | none => none

def infinities : List (List Char) :=
  [['.', 'i', 'n', 'f'], ['.', 'I', 'n', 'f'], ['.', 'I', 'N', 'F']]

def notNumbers : List (List Char) :=
  [['.', 'n', 'a', 'n'], ['.', 'N', 'a', 'N'], ['.', 'N', 'A', 'N']]

def float? (word : List Char) : Option Json.Number :=
  let (negative, cs) := Decimal.Numeral.sign word
  if infinities.contains cs then
    some (.float (if negative then -(1.0 / 0.0) else 1.0 / 0.0 : Float).toBits)
  else if notNumbers.contains word then some (.float (0.0 / 0.0 : Float).toBits)
  else if isPadded word then none
  else (Decimal.Numeral.parse? word).map (·.toNumber)

def plainValue (word : List Char) : Json :=
  if ["", "~", "null", "Null", "NULL"].contains (String.ofList word) then .null
  else if ["true", "True", "TRUE"].contains (String.ofList word) then .bool true
  else if ["false", "False", "FALSE"].contains (String.ofList word) then .bool false
  else
    match integer? word with
    | some n => .number (.integer n)
    | none =>
        match float? word with
        | some n => .number n
        | none => .string (String.ofList word)

/-! ## Quoted scalars -/

/--
The line ends at the front of a text as a quoted scalar has them.

One line end is a space, every further one a line feed; blanks around line ends say nothing.
-/
def foldedBreaks (cs : List Char) : List Char × List Char :=
  let gap := cs.takeWhile fun c => isBlank c || c == '\n'
  let breaks := gap.count '\n'
  let folded :=
    if breaks = 0 then gap
    else if breaks = 1 then [' ']
    else List.replicate (breaks - 1) '\n'
  (folded, cs.drop gap.length)

/-- Reads a scalar in single quotes, in which two quotes stand for one, from behind its quote. -/
def singleFrom (taken : List Char) : Nat → List Char → Option (String × List Char)
  | 0, _ => none
  | fuel + 1, cs =>
      match cs with
      | [] => none
      | '\'' :: '\'' :: rest => singleFrom ('\'' :: taken) fuel rest
      | '\'' :: rest => some (String.ofList taken.reverse, rest)
      | c :: rest =>
          if isBlank c || c == '\n' then
            let (folded, rest) := foldedBreaks (c :: rest)
            singleFrom (folded.reverse ++ taken) fuel rest
          else singleFrom (c :: taken) fuel rest

/-- Reads what a backslash stands for, from behind it. -/
def escape? : List Char → Option (Char × List Char)
  | 'x' :: rest => hexChar? 2 rest
  | 'u' :: rest => hexChar? 4 rest
  | 'U' :: rest => hexChar? 8 rest
  | '0' :: rest => some ('\x00', rest)
  | 'a' :: rest => some ('\x07', rest)
  | 'v' :: rest => some ('\x0B', rest)
  | 'e' :: rest => some ('\x1B', rest)
  | ' ' :: rest => some (' ', rest)
  | '\t' :: rest => some ('\t', rest)
  | 'N' :: rest => some ('\u0085', rest)
  | '_' :: rest => some ('\u00A0', rest)
  | 'L' :: rest => some ('\u2028', rest)
  | 'P' :: rest => some ('\u2029', rest)
  | '\'' :: rest => some ('\'', rest)
  | c :: rest => (Json.simpleEscape? c).map fun plain => (plain, rest)
  | [] => none

/-- Reads a scalar in double quotes, from behind its quote. -/
def doubleFrom (taken : List Char) : Nat → List Char → Option (String × List Char)
  | 0, _ => none
  | fuel + 1, cs =>
      match cs with
      | [] => none
      | '"' :: rest => some (String.ofList taken.reverse, rest)
      | '\\' :: '\n' :: rest => doubleFrom taken fuel (rest.dropWhile isBlank)
      | '\\' :: rest => do
          let (c, rest) ← escape? rest
          doubleFrom (c :: taken) fuel rest
      | c :: rest =>
          if isBlank c || c == '\n' then
            let (folded, rest) := foldedBreaks (c :: rest)
            doubleFrom (folded.reverse ++ taken) fuel rest
          else doubleFrom (c :: taken) fuel rest

def quoted? : List Char → Option (String × List Char)
  | '"' :: rest => doubleFrom [] (rest.length + 1) rest
  | '\'' :: rest => singleFrom [] (rest.length + 1) rest
  | _ => none

/-! ## Block scalars -/

inductive Chomping where
  | strip
  | clip
  | keep
  deriving DecidableEq, Repr

structure BlockHeader where
  /-- Lines keep their ends; otherwise they are folded into one. -/
  literal : Bool
  chomping : Chomping := .clip
  /-- By how much the scalar is indented, if the header says so. -/
  indent : Option Nat := none
  deriving DecidableEq, Repr

/-- Reads the indicators of a block scalar, behind which only a comment may stand. -/
def indicators? (header : BlockHeader) : List Char → Option BlockHeader
  | [] => some header
  | '-' :: rest => indicators? { header with chomping := .strip } rest
  | '+' :: rest => indicators? { header with chomping := .keep } rest
  | c :: rest =>
      if c.isDigit && c != '0' then indicators? { header with indent := some (Json.digitValue c) } rest
      else if isBlank c then
        match rest.dropWhile isBlank with
        | [] | '#' :: _ => some header
        | _ => none
      else none

def blockHeader? : List Char → Option BlockHeader
  | '|' :: rest => indicators? ⟨true, .clip, none⟩ rest
  | '>' :: rest => indicators? ⟨false, .clip, none⟩ rest
  | _ => none

/-- Whether a line of a block scalar keeps its end: blank lines and lines with more indent do. -/
def keepsEnd (line : List Char) : Bool :=
  match line with
  | [] => true
  | c :: _ => isBlank c

def folded : List (List Char) → List Char
  | [] => []
  | [line] => line
  | line :: next :: rest =>
      if keepsEnd line then line ++ '\n' :: folded (next :: rest)
      else
        let blanks := (next :: rest).takeWhile (· = [])
        match (next :: rest).drop blanks.length with
        | [] => line ++ folded (next :: rest)
        | after :: _ =>
            if keepsEnd after then line ++ '\n' :: folded (next :: rest)
            else if blanks = [] then line ++ ' ' :: folded (next :: rest)
            else line ++ folded (next :: rest)

/-- The text of a block scalar of lines without their common indent. -/
def blockText (header : BlockHeader) (lines : List (List Char)) : String :=
  let body := (lines.reverse.dropWhile (· = [])).reverse
  let ends := lines.length - body.length
  let text := if header.literal then ['\n'].intercalate body else folded body
  let tail :=
    match header.chomping with
    | .strip => 0
    | .clip => if body = [] then 0 else 1
    | .keep => if body = [] then ends else ends + 1
  String.ofList (text ++ List.replicate tail '\n')

end NodeVolumes.Document.Yaml
