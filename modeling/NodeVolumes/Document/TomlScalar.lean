import NodeVolumes.Document.Text

/-!
# TOML scalars

Keys, strings, numbers and moments of TOML, each read from the front of a text whose line ends are
single line feeds.
-/

namespace NodeVolumes.Document.Toml

def isControl (c : Char) : Bool :=
  (c.toNat < 0x20 && c != '\t') || c.toNat == 0x7F

def isBlank (c : Char) : Bool :=
  c == ' ' || c == '\t'

def skipBlanks (cs : List Char) : List Char :=
  cs.dropWhile isBlank

/-- What follows blanks, line ends and comments; `comment` tells that a comment has begun. -/
def skipGapsFrom (comment : Bool) : List Char → Option (List Char)
  | [] => some []
  | c :: rest =>
      if comment then
        if c = '\n' then skipGapsFrom false rest
        else if isControl c then none
        else skipGapsFrom true rest
      else if isBlank c || c == '\n' then skipGapsFrom false rest
      else if c = '#' then skipGapsFrom true rest
      else some (c :: rest)

def skipGaps (cs : List Char) : Option (List Char) :=
  skipGapsFrom false cs

/-- Passes over the rest of a line that may hold only a comment. -/
def endLine (cs : List Char) : Option (List Char) :=
  match skipBlanks cs with
  | [] => some []
  | '\n' :: rest => some rest
  | '#' :: rest =>
      let comment := rest.takeWhile (· ≠ '\n')
      if comment.any isControl then none else some ((rest.dropWhile (· ≠ '\n')).drop 1)
  | _ => none

/-! ## Strings -/

/-- Reads what a backslash stands for, from behind it. -/
def escape? : List Char → Option (Char × List Char)
  | 'u' :: rest => hexChar? 4 rest
  | 'U' :: rest => hexChar? 8 rest
  | '/' :: _ => none
  | c :: rest => (Json.simpleEscape? c).map fun plain => (plain, rest)
  | [] => none

/-- Reads a string of one line with escapes, from behind its quote. -/
def basicFrom (taken : List Char) : Nat → List Char → Option (String × List Char)
  | 0, _ => none
  | fuel + 1, cs =>
      match cs with
      | [] => none
      | '"' :: rest => some (String.ofList taken.reverse, rest)
      | '\\' :: rest => do
          let (c, rest) ← escape? rest
          basicFrom (c :: taken) fuel rest
      | c :: rest => if isControl c then none else basicFrom (c :: taken) fuel rest

/-- Reads a string of one line without escapes, from behind its quote. -/
def literal? (cs : List Char) : Option (String × List Char) :=
  let body := cs.takeWhile fun c => c ≠ '\'' && !isControl c
  match cs.drop body.length with
  | '\'' :: rest => some (String.ofList body, rest)
  | _ => none

/--
The quotes at the front of the text, three of which end a string of several lines.

Gives the text after them and how many of them belong to the string; none if they end nothing.
-/
def closing? (quote : Char) (cs : List Char) : Option (Nat × List Char) :=
  let run := (cs.takeWhile (· = quote)).length
  if 3 ≤ run ∧ run ≤ 5 then some (run - 3, cs.drop run) else none

/-- What a backslash at the end of a line passes over, if it is one. -/
def continued? (cs : List Char) : Option (List Char) :=
  match skipBlanks cs with
  | '\n' :: rest => some (rest.dropWhile fun c => isBlank c || c == '\n')
  | _ => none

/-- Reads a string of several lines, with escapes if its quote is the double one. -/
def linesFrom (quote : Char) (taken : List Char) : Nat → List Char → Option (String × List Char)
  | 0, _ => none
  | fuel + 1, cs =>
      match cs with
      | [] => none
      | c :: rest =>
          if c = quote then
            match closing? quote cs with
            | some (own, rest) =>
                some (String.ofList (taken.reverse ++ List.replicate own quote), rest)
            | none => if 3 ≤ (cs.takeWhile (· = quote)).length then none
                else linesFrom quote (c :: taken) fuel rest
          else if c = '\\' ∧ quote = '"' then
            match continued? rest with
            | some rest => linesFrom quote taken fuel rest
            | none => do
                let (plain, rest) ← escape? rest
                linesFrom quote (plain :: taken) fuel rest
          else if isControl c && c != '\n' then none
          else linesFrom quote (c :: taken) fuel rest

def dropFirstFeed : List Char → List Char
  | '\n' :: rest => rest
  | cs => cs

def line? : List Char → Option (String × List Char)
  | '"' :: rest => basicFrom [] (rest.length + 1) rest
  | '\'' :: rest => literal? rest
  | _ => none

def string? : List Char → Option (String × List Char)
  | '"' :: '"' :: '"' :: rest => linesFrom '"' [] (rest.length + 1) (dropFirstFeed rest)
  | '\'' :: '\'' :: '\'' :: rest => linesFrom '\'' [] (rest.length + 1) (dropFirstFeed rest)
  | cs => line? cs

/-! ## Keys -/

def isKeyChar (c : Char) : Bool :=
  c.isAlphanum || c == '_' || c == '-'

def simpleKey? (cs : List Char) : Option (String × List Char) :=
  match cs with
  | '"' :: _ | '\'' :: _ => line? cs
  | _ =>
      let word := cs.takeWhile isKeyChar
      if word = [] then none else some (String.ofList word, cs.drop word.length)

def keysFrom : Nat → List Char → Option (List String × List Char)
  | 0, _ => none
  | fuel + 1, cs => do
      let (key, rest) ← simpleKey? (skipBlanks cs)
      match skipBlanks rest with
      | '.' :: rest => do
          let (keys, rest) ← keysFrom fuel rest
          return (key :: keys, rest)
      | rest => return ([key], rest)

def keys? (cs : List Char) : Option (List String × List Char) :=
  keysFrom (cs.length + 1) cs

/-! ## Numbers and moments -/

def plainDigits? (isDigit : Char → Bool) (cs : List Char) : Option (List Char) :=
  let groups := Text.pieces (· == '_') cs
  if groups.all fun g => !g.isEmpty && g.all isDigit then some groups.flatten else none

def hasNoLeadingZero : List Char → Bool
  | '0' :: _ :: _ => false
  | _ => true

def based? (base : Nat) (cs : List Char) : Option Int := do
  let isDigit (c : Char) : Bool :=
    match Json.hexValue? c with
    | some d => d < base
    | none => false
  let ds ← plainDigits? isDigit cs
  return (ds.foldl (fun n c => n * base + (Json.hexValue? c).getD 0) 0 : Nat)

def integer? (word : List Char) : Option Int :=
  match word with
  | '0' :: 'x' :: ds => based? 16 ds
  | '0' :: 'o' :: ds => based? 8 ds
  | '0' :: 'b' :: ds => based? 2 ds
  | _ =>
      let (negative, cs) := Decimal.Numeral.sign word
      match plainDigits? Char.isDigit cs with
      | some ds =>
          if hasNoLeadingZero ds then
            let n : Int := Json.digitsValue ds
            some (if negative then -n else n)
          else none
      | none => none

def around (isMark : Char → Bool) (cs : List Char) : List Char × Option (List Char) :=
  match cs.dropWhile fun c => !isMark c with
  | [] => (cs, none)
  | _ :: rest => (cs.takeWhile fun c => !isMark c, some rest)

def float? (word : List Char) : Option Json.Number := do
  let (negative, cs) := Decimal.Numeral.sign word
  if cs = ['i', 'n', 'f'] then
    return .float (if negative then -(1.0 / 0.0) else 1.0 / 0.0 : Float).toBits
  else if cs = ['n', 'a', 'n'] then
    return .float (0.0 / 0.0 : Float).toBits
  else
    let (front, power) := around (fun c => c == 'e' || c == 'E') cs
    let (whole, behind) := around (· == '.') front
    if power = none ∧ behind = none then none
    else
      let whole ← plainDigits? Char.isDigit whole
      let fraction ← (behind.map (plainDigits? Char.isDigit)).getD (some [])
      let exponent ←
        match power with
        | none => some 0
        | some p =>
            let (minus, ds) := Decimal.Numeral.sign p
            (plainDigits? Char.isDigit ds).map fun ds =>
              let n : Int := Json.digitsValue ds
              if minus then -n else n
      if hasNoLeadingZero whole then
        return (Decimal.Numeral.mk negative whole fraction exponent).toNumber
      else none

def digits? (count : Nat) (cs : List Char) : Option (Nat × List Char) :=
  let ds := cs.take count
  if ds.length = count ∧ ds.all Char.isDigit then some (Json.digitsValue ds, cs.drop count) else none

def mark? (a b : Char) : List Char → Option (List Char)
  | c :: rest => if c = a ∨ c = b then some rest else none
  | [] => none

def daysIn (year month : Nat) : Nat :=
  if month = 2 then
    if year % 4 = 0 ∧ (year % 100 ≠ 0 ∨ year % 400 = 0) then 29 else 28
  else if month = 4 ∨ month = 6 ∨ month = 9 ∨ month = 11 then 30
  else 31

def date? (cs : List Char) : Option (List Char) := do
  let (year, cs) ← digits? 4 cs
  let cs ← mark? '-' '-' cs
  let (month, cs) ← digits? 2 cs
  let cs ← mark? '-' '-' cs
  let (day, cs) ← digits? 2 cs
  if 1 ≤ month ∧ month ≤ 12 ∧ 1 ≤ day ∧ day ≤ daysIn year month then some cs else none

def time? (cs : List Char) : Option (List Char) := do
  let (hour, cs) ← digits? 2 cs
  let cs ← mark? ':' ':' cs
  let (minute, cs) ← digits? 2 cs
  let cs ← mark? ':' ':' cs
  let (second, cs) ← digits? 2 cs
  if hour < 24 ∧ minute < 60 ∧ second ≤ 60 then
    match cs with
    | '.' :: rest =>
        if (rest.takeWhile Char.isDigit) = [] then none else some (rest.dropWhile Char.isDigit)
    | _ => some cs
  else none

/-- Passes over the offset of a time zone, or nothing. -/
def offset? (cs : List Char) : Option (List Char) :=
  match cs with
  | [] => some []
  | 'Z' :: rest | 'z' :: rest => some rest
  | _ => do
      let cs ← mark? '+' '-' cs
      let (hour, cs) ← digits? 2 cs
      let cs ← mark? ':' ':' cs
      let (minute, cs) ← digits? 2 cs
      if hour < 24 ∧ minute < 60 then some cs else none

def isMoment (word : List Char) : Bool :=
  match date? word with
  | some [] => true
  | some rest =>
      match ((mark? 'T' 't' rest).or (mark? ' ' ' ' rest)).bind time? with
      | some rest => offset? rest == some []
      | none => false
  | none => time? word == some []

def isWordChar (c : Char) : Bool :=
  c.isAlphanum || c == '+' || c == '-' || c == '_' || c == '.' || c == ':'

/-- The bare value at the front; a blank may stand between a date and a time. -/
def word (cs : List Char) : List Char × List Char :=
  let first := cs.takeWhile isWordChar
  let rest := cs.drop first.length
  match date? first, rest with
  | some [], ' ' :: d :: more =>
      if d.isDigit then
        let second := (d :: more).takeWhile isWordChar
        (first ++ ' ' :: second, (d :: more).drop second.length)
      else (first, rest)
  | _, _ => (first, rest)

def wordValue? (w : List Char) : Option Json :=
  if w = ['t', 'r', 'u', 'e'] then some (.bool true)
  else if w = ['f', 'a', 'l', 's', 'e'] then some (.bool false)
  else if isMoment w then some (.object [("moment", .string (String.ofList w))])
  else
    match integer? w with
    | some n => if isSigned64 n then some (.number (.integer n)) else none
    | none => (float? w).map .number

end NodeVolumes.Document.Toml
