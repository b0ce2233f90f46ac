import NodeVolumes.Json.Reader

/-!
# Passing over values

Values that nobody asked for are checked for their syntax alone: to any depth, without decoding
their strings, and with numbers of any size.
-/

namespace NodeVolumes.Json

inductive Frame where
  | list
  | object
  deriving DecidableEq, Repr

def skipStringFrom (line column : Nat) : List Char → Except Fault Cursor
  | [] => .error ⟨.endOfString, ⟨line, column⟩⟩
  | '"' :: rest => .ok ⟨line, column + 1, rest⟩
  | ['\\'] => .error ⟨.endOfString, ⟨line, column + 1⟩⟩
  | '\\' :: 'u' :: a :: b :: c :: d :: rest =>
      match hex4? a b c d with
      | none => hexFault ⟨line, column + 2, a :: b :: c :: d :: rest⟩
      | some _ => skipStringFrom line (column + 6) rest
  | '\\' :: 'u' :: rest => hexFault ⟨line, column + 2, rest⟩
  | '\\' :: c :: rest =>
      match simpleEscape? c with
      | some _ => skipStringFrom line (column + 2) rest
      | none => .error ⟨.invalidEscape, Cursor.nextPosition ⟨line, column + 1, c :: rest⟩⟩
  | c :: rest =>
      if c.toNat < 0x20 then
        .error ⟨.controlCharacter, Cursor.nextPosition ⟨line, column, c :: rest⟩⟩
      else
        skipStringFrom line (column + c.utf8Size) rest

def skipString (c : Cursor) : Except Fault Cursor :=
  skipStringFrom c.line (c.column + 1) (c.rest.drop 1)

def skipExponent (c : Cursor) : Except Fault Cursor :=
  let c := c.skipAscii 1
  let c :=
    match c.rest with
    | '+' :: _ => c.skipAscii 1
    | '-' :: _ => c.skipAscii 1
    | _ => c
  match c.digits with
  | [] => .error ⟨.invalidNumber, c.nextPosition⟩
  | ds => .ok (c.skipAscii ds.length)

def skipAfterDigits (c : Cursor) : Except Fault Cursor :=
  match c.rest with
  | 'e' :: _ => skipExponent c
  | 'E' :: _ => skipExponent c
  | _ => .ok c

def skipNumber (c : Cursor) : Except Fault Cursor :=
  match c.digits with
  | [] => .error ⟨.invalidNumber, c.nextPosition⟩
  | '0' :: _ :: _ => (c.skipAscii 1).faultNext .invalidNumber
  | ds =>
      let c := c.skipAscii ds.length
      match c.rest with
      | '.' :: _ =>
          let c := c.skipAscii 1
          match c.digits with
          | [] => c.faultNext .invalidNumber
          | fraction => skipAfterDigits (c.skipAscii fraction.length)
      | _ => skipAfterDigits c

def skipName (c : Cursor) : Except Fault Cursor := do
  let c := c.skipSpace
  match c.rest with
  | '"' :: _ => colon (← skipString c)
  | [] => c.faultNext .endOfObject
  | _ => c.faultNext .keyMustBeString

inductive Expecting where
  | value
  /-- The end of the innermost frame, or what follows a value if there was one. -/
  | afterValue (comma : Bool)
  deriving DecidableEq, Repr

/-- Passes over what is left of a value inside the given frames, innermost first. -/
def skipLoop : Nat → Expecting → List Frame → Cursor → Except Fault Cursor
  | 0, _, _, c => c.fault .endOfValue
  | _ + 1, .afterValue _, [], c => .ok c
  | fuel + 1, .afterValue comma, frame :: outer, c => do
      let c := c.skipSpace
      match c.rest with
      | [] => c.faultNext (match frame with | .list => .endOfList | .object => .endOfObject)
      | ch :: _ =>
          if ch = ',' ∧ comma then
            let c := c.advance
            let c ← (match frame with | .list => .ok c | .object => skipName c)
            skipLoop fuel .value (frame :: outer) c
          else if ch = (match frame with | .list => ']' | .object => '\x7d') then
            skipLoop fuel (.afterValue true) outer c.advance
          else if comma then
            c.faultNext
              (match frame with
              | .list => .expectedListCommaOrEnd
              | .object => .expectedObjectCommaOrEnd)
          else
            let c ← (match frame with | .list => .ok c | .object => skipName c)
            skipLoop fuel .value (frame :: outer) c
  | fuel + 1, .value, frames, c => do
      let c := c.skipSpace
      match c.rest with
      | [] => c.faultNext .endOfValue
      | '[' :: _ => skipLoop fuel (.afterValue false) (.list :: frames) c.advance
      | '\x7b' :: _ => skipLoop fuel (.afterValue false) (.object :: frames) c.advance
      | 'n' :: _ => skipLoop fuel (.afterValue true) frames (← letters ['u', 'l', 'l'] c.advance)
      | 't' :: _ => skipLoop fuel (.afterValue true) frames (← letters ['r', 'u', 'e'] c.advance)
      | 'f' :: _ =>
          skipLoop fuel (.afterValue true) frames (← letters ['a', 'l', 's', 'e'] c.advance)
      | '"' :: _ => skipLoop fuel (.afterValue true) frames (← skipString c)
      | '-' :: _ => skipLoop fuel (.afterValue true) frames (← skipNumber c.advance)
      | ch :: _ =>
          if ch.isDigit then skipLoop fuel (.afterValue true) frames (← skipNumber c)
          else c.faultNext .expectedValue

def skipValue (c : Cursor) : Except Fault Cursor :=
  skipLoop (2 * c.rest.length + 2) .value [] c

end NodeVolumes.Json
