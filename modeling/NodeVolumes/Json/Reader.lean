import NodeVolumes.Json.Cursor

/-!
# Reading JSON

Strings, numbers and whole values from a text, with the place and cause of the first fault.

A value is read down to a given number of nested arrays and objects; the loops over their items
are bounded by the length of the text.
-/

namespace NodeVolumes.Json

def maxLevels : Nat := 127

def hexValue? (c : Char) : Option Nat :=
  if c.isDigit then some (c.toNat - '0'.toNat)
  else if 'a' ≤ c ∧ c ≤ 'f' then some (c.toNat - 'a'.toNat + 10)
  else if 'A' ≤ c ∧ c ≤ 'F' then some (c.toNat - 'A'.toNat + 10)
  else none

def hex4? (a b c d : Char) : Option Nat := do
  let w ← hexValue? a
  let x ← hexValue? b
  let y ← hexValue? c
  let z ← hexValue? d
  return ((w * 16 + x) * 16 + y) * 16 + z

def simpleEscape? (c : Char) : Option Char :=
  match c with
  | '"' => some '"'
  | '\\' => some '\\'
  | '/' => some '/'
  | 'b' => some '\x08'
  | 'f' => some '\x0C'
  | 'n' => some '\n'
  | 'r' => some '\r'
  | 't' => some '\t'
  | _ => none

/-- The fault of four bytes that are not hexadecimal digits, or of fewer bytes. -/
def hexFault {α : Type} (c : Cursor) : Except Fault α :=
  if (c.rest.flatMap String.utf8EncodeChar).length < 4 then
    .error ⟨.endOfString, c.endPosition⟩
  else
    .error ⟨.invalidEscape, c.positionAfterBytes 4⟩

/-- A leading surrogate: the first half of a character beyond the basic plane. -/
def isLeadingSurrogate (n : Nat) : Bool := 0xD800 ≤ n && n ≤ 0xDBFF

/-- A trailing surrogate: the second half of a character beyond the basic plane. -/
def isTrailingSurrogate (n : Nat) : Bool := 0xDC00 ≤ n && n ≤ 0xDFFF

def ofSurrogates (leading trailing : Nat) : Char :=
  Char.ofNat ((leading - 0xD800) * 0x400 + (trailing - 0xDC00) + 0x10000)

/--
Reads a string from after its opening quote.

`taken` holds the characters read so far, latest first.
-/
def stringFrom (taken : List Char) (line column : Nat) :
    List Char → Except Fault (String × Cursor)
  | [] => .error ⟨.endOfString, ⟨line, column⟩⟩
  | '"' :: rest => .ok (String.ofList taken.reverse, ⟨line, column + 1, rest⟩)
  | ['\\'] => .error ⟨.endOfString, ⟨line, column + 1⟩⟩
  | '\\' :: 'u' :: a :: b :: c :: d :: rest =>
      match hex4? a b c d with
      | none => hexFault ⟨line, column + 2, a :: b :: c :: d :: rest⟩
      | some n =>
          if isTrailingSurrogate n then
            .error ⟨.loneSurrogate, ⟨line, column + 6⟩⟩
          else if isLeadingSurrogate n then
            match rest with
            | [] => .error ⟨.endOfString, ⟨line, column + 6⟩⟩
            | ['\\'] => .error ⟨.endOfString, ⟨line, column + 7⟩⟩
            | '\\' :: 'u' :: e :: f :: g :: h :: later =>
                match hex4? e f g h with
                | none => hexFault ⟨line, column + 8, e :: f :: g :: h :: later⟩
                | some m =>
                    if isTrailingSurrogate m then
                      stringFrom (ofSurrogates n m :: taken) line (column + 12) later
                    else
                      .error ⟨.loneSurrogate, ⟨line, column + 12⟩⟩
            | '\\' :: 'u' :: later => hexFault ⟨line, column + 8, later⟩
            | '\\' :: later => .error ⟨.endOfHexEscape, Cursor.nextPosition ⟨line, column + 7, later⟩⟩
            | later => .error ⟨.endOfHexEscape, Cursor.nextPosition ⟨line, column + 6, later⟩⟩
          else
            stringFrom (Char.ofNat n :: taken) line (column + 6) rest
  | '\\' :: 'u' :: rest => hexFault ⟨line, column + 2, rest⟩
  | '\\' :: c :: rest =>
      match simpleEscape? c with
      | some plain => stringFrom (plain :: taken) line (column + 2) rest
      | none => .error ⟨.invalidEscape, Cursor.nextPosition ⟨line, column + 1, c :: rest⟩⟩
  | c :: rest =>
      if c.toNat < 0x20 then
        .error ⟨.controlCharacter, Cursor.nextPosition ⟨line, column, c :: rest⟩⟩
      else
        stringFrom (c :: taken) line (column + c.utf8Size) rest

def readString : Reader String := fun c =>
  stringFrom [] c.line (c.column + 1) (c.rest.drop 1)

def maxSignificand : Nat := 0xFFFFFFFFFFFFFFFF

def digitValue (c : Char) : Nat := c.toNat - '0'.toNat

/--
Gathers digits onto a number for as long as it stays within 64 bits, with the digits that are left
over.
-/
def gather (n : Nat) : List Char → Nat × List Char
  | [] => (n, [])
  | d :: rest =>
      if maxSignificand < n * 10 + digitValue d then (n, d :: rest)
      else gather (n * 10 + digitValue d) rest

/-- `10 ^ exponent` in binary64, for exponents up to 308. -/
def power10 (exponent : Nat) : Float :=
  Float.ofScientific 1 false exponent

/--
`f * 10 ^ exponent` in binary64, by one multiplication or division for exponents within the range
of the format; none if the result leaves the range.
-/
def scaleBy (f : Float) (exponent : Int) : Nat → Option Float
  | 0 => some f
  | steps + 1 =>
      if 0 ≤ exponent then
        if exponent ≤ 308 then
          let scaled := f * power10 exponent.toNat
          if scaled.isInf then none else some scaled
        else if f == 0.0 then some f
        else none
      else if -308 ≤ exponent then some (f / power10 exponent.natAbs)
      else if f == 0.0 then some f
      else scaleBy (f / power10 308) (exponent + 308) steps

/-- The number with a significand and a decimal exponent, as the cursor leaves it. -/
def floatAt (negative : Bool) (significand : Nat) (exponent : Int) : Reader Number := fun c =>
  match scaleBy significand.toUInt64.toFloat exponent 8 with
  | some f => .ok (.float (if negative then -f else f).toBits, c)
  | none => c.fault .numberOutOfRange

/-- The cursor after `count` characters of one byte each. -/
def Cursor.skipAscii (count : Nat) (c : Cursor) : Cursor :=
  ⟨c.line, c.column + count, c.rest.drop count⟩

def Cursor.digits (c : Cursor) : List Char :=
  c.rest.takeWhile Char.isDigit

/-- How many digits it takes for an exponent to leave 32 bits, if it does. -/
def exponentOverflow? (n count : Nat) : List Char → Option Nat
  | [] => none
  | d :: rest =>
      if 0x7FFFFFFF < n * 10 + digitValue d then some (count + 1)
      else exponentOverflow? (n * 10 + digitValue d) (count + 1) rest

def digitsValue (ds : List Char) : Nat :=
  ds.foldl (fun n d => n * 10 + digitValue d) 0

def exponentPart (negative : Bool) (significand : Nat) (start : Int) : Reader Number := fun c =>
  let c := c.skipAscii 1
  let (minus, c) :=
    match c.rest with
    | '+' :: _ => (false, c.skipAscii 1)
    | '-' :: _ => (true, c.skipAscii 1)
    | _ => (false, c)
  match c.rest, c.digits with
  | [], _ => c.fault .endOfValue
  | _ :: _, [] => .error ⟨.invalidNumber, c.nextPosition⟩
  | _, ds =>
      match exponentOverflow? 0 0 ds with
      | some count =>
          if significand ≠ 0 ∧ ¬minus then
            (c.skipAscii count).fault .numberOutOfRange
          else
            .ok (.float (if negative then -0.0 else 0.0 : Float).toBits, c.skipAscii ds.length)
      | none =>
          let power : Int := digitsValue ds
          floatAt negative significand (if minus then start - power else start + power)
            (c.skipAscii ds.length)

def fractionPart (negative : Bool) (significand : Nat) (start : Int) : Reader Number := fun c =>
  let c := c.skipAscii 1
  match c.digits with
  | [] =>
      match c.rest with
      | [] => c.faultNext .endOfValue
      | _ => c.faultNext .invalidNumber
  | ds =>
      let (significand, left) := gather significand ds
      let exponent := start - ((ds.length - left.length : Nat) : Int)
      let c := c.skipAscii ds.length
      match c.rest with
      | 'e' :: _ => exponentPart negative significand exponent c
      | 'E' :: _ => exponentPart negative significand exponent c
      | _ => floatAt negative significand exponent c

/-- The number of a significand that no fraction or exponent follows. -/
def wholeNumber (negative : Bool) (significand : Nat) : Number :=
  if ¬negative then .integer significand
  else if significand = 0 ∨ 0x8000000000000000 < significand then
    .float (-significand.toUInt64.toFloat).toBits
  else .integer (-(significand : Int))

def readNumber (negative : Bool) : Reader Number := fun c =>
  match c.rest, c.digits with
  | [], _ => c.fault .endOfValue
  | _ :: _, [] => .error ⟨.invalidNumber, c.nextPosition⟩
  | _, '0' :: _ :: _ => (c.skipAscii 1).faultNext .invalidNumber
  | _, ds =>
      let (significand, left) := gather 0 ds
      let c := c.skipAscii ds.length
      match c.rest with
      | '.' :: _ => fractionPart negative significand left.length c
      | 'e' :: _ => exponentPart negative significand left.length c
      | 'E' :: _ => exponentPart negative significand left.length c
      | _ =>
          if left = [] then .ok (wholeNumber negative significand, c)
          else floatAt negative significand left.length c

def letters : List Char → Cursor → Except Fault Cursor
  | [], c => .ok c
  | l :: more, c =>
      match c.rest with
      | [] => c.fault .endOfValue
      | ch :: _ => if ch = l then letters more c.advance else .error ⟨.expectedIdent, c.nextPosition⟩

def itemLoop {α : Type} (item : Reader α) : Nat → Bool → Reader (List α)
  | 0, _, c => c.fault .endOfList
  | fuel + 1, first, c =>
      let c := c.skipSpace
      match c.rest with
      | [] => c.faultNext .endOfList
      | ']' :: _ => .ok ([], c.advance)
      | ch :: _ =>
          if first then do
            let (value, c) ← item c
            let (values, c) ← itemLoop item fuel false c
            return (value :: values, c)
          else if ch = ',' then
            let c := c.advance.skipSpace
            match c.rest with
            | ']' :: _ => c.faultNext .trailingComma
            | [] => c.faultNext .endOfValue
            | _ => do
                let (value, c) ← item c
                let (values, c) ← itemLoop item fuel false c
                return (value :: values, c)
          else c.faultNext .expectedListCommaOrEnd

def readItems {α : Type} (item : Reader α) : Reader (List α) := fun c =>
  itemLoop item (c.rest.length + 1) true c.advance

def colon (c : Cursor) : Except Fault Cursor :=
  let c := c.skipSpace
  match c.rest with
  | ':' :: _ => .ok c.advance
  | [] => c.faultNext .endOfObject
  | _ => c.faultNext .expectedColon

/-- Moves to the next member's name, or passes over the brace that ends the object. -/
def nextMember (first : Bool) (c : Cursor) : Except Fault (Bool × Cursor) :=
  let c := c.skipSpace
  match c.rest with
  | [] => c.faultNext .endOfObject
  | '\x7d' :: _ => .ok (false, c.advance)
  | ch :: _ =>
      if first then
        if ch = '"' then .ok (true, c) else c.faultNext .keyMustBeString
      else if ch = ',' then
        let c := c.advance.skipSpace
        match c.rest with
        | '"' :: _ => .ok (true, c)
        | '\x7d' :: _ => c.faultNext .trailingComma
        | [] => c.faultNext .endOfValue
        | _ => c.faultNext .keyMustBeString
      else c.faultNext .expectedObjectCommaOrEnd

/-- What reads one more member at a time; `member` reads the value of a name. -/
def memberLoop {α : Type} (member : String → Reader α) : Nat → Bool → Reader (List (String × α))
  | 0, _, c => c.fault .endOfObject
  | fuel + 1, first, c => do
      match ← nextMember first c with
      | (false, c) => return ([], c)
      | (true, c) =>
          let (name, c) ← readString c
          let c ← colon c
          let (value, c) ← member name c
          let (values, c) ← memberLoop member fuel false c
          return ((name, value) :: values, c)

def readMembers {α : Type} (member : String → Reader α) : Reader (List (String × α)) := fun c =>
  memberLoop member (c.rest.length + 1) true c.advance

/-- Reads a value inside of which `levels` more arrays and objects may stand. -/
def readValue (levels : Nat) : Reader Json := fun c =>
  let c := c.skipSpace
  match c.rest with
  | [] => c.faultNext .endOfValue
  | 'n' :: _ => do
      let c ← letters ['u', 'l', 'l'] c.advance
      return (.null, c)
  | 't' :: _ => do
      let c ← letters ['r', 'u', 'e'] c.advance
      return (.bool true, c)
  | 'f' :: _ => do
      let c ← letters ['a', 'l', 's', 'e'] c.advance
      return (.bool false, c)
  | '"' :: _ => do
      let (s, c) ← readString c
      return (.string s, c)
  | '-' :: _ => do
      let (n, c) ← readNumber true c.advance
      return (.number n, c)
  | '[' :: _ =>
      match levels with
      | 0 => c.faultNext .recursionLimit
      | inner + 1 => do
          let (values, c) ← readItems (readValue inner) c
          return (.array values, c)
  | '\x7b' :: _ =>
      match levels with
      | 0 => c.faultNext .recursionLimit
      | inner + 1 => do
          let (entries, c) ← readMembers (fun _ => readValue inner) c
          return (.object (SortedMap.ofList entries).entries, c)
  | ch :: _ =>
      if ch.isDigit then do
        let (n, c) ← readNumber false c
        return (.number n, c)
      else c.faultNext .expectedValue

/-- Reads a whole text with a reader that may not leave anything but space. -/
def readAll {α : Type} (reader : Reader α) (s : String) : Except Fault α := do
  let (a, c) ← reader (Cursor.ofText s)
  let c := c.skipSpace
  match c.rest with
  | [] => return a
  | _ => c.faultNext .trailingCharacters

def parse (s : String) : Except Fault Json :=
  readAll (readValue maxLevels) s

end NodeVolumes.Json
