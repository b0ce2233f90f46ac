import NodeVolumes.Json.Basic
import NodeVolumes.Text.Escaped

/-!
# Reading positions

The place of a reader in a JSON text, and the faults it reports there.  A place is a line, counted
from one, and the number of bytes read of that line.
-/

namespace NodeVolumes.Json

structure Position where
  line : Nat
  column : Nat
  deriving DecidableEq, Repr

/-- What a value turned out to be, where something else was expected. -/
inductive Found where
  | boolean (value : Bool)
  | number (value : Number)
  | text (value : String)
  | null
  | sequence
  | map
  deriving DecidableEq, Repr

namespace Found

def describe : Found → String
  | .boolean value => if value then "boolean `true`" else "boolean `false`"
  | .number (.integer value) => "integer `" ++ integerText value ++ "`"
  | .number (.float bits) => "floating point `" ++ (Decimal.shortest bits).positional ++ "`"
  | .text value => "string " ++ Text.escaped value
  | .null => "null"
  | .sequence => "sequence"
  | .map => "map"

end Found

inductive Cause where
  | endOfValue
  | endOfObject
  | endOfList
  | endOfString
  | expectedValue
  | expectedIdent
  | expectedColon
  | expectedObjectCommaOrEnd
  | expectedListCommaOrEnd
  | keyMustBeString
  | trailingComma
  | trailingCharacters
  | invalidNumber
  | numberOutOfRange
  | invalidEscape
  | endOfHexEscape
  | loneSurrogate
  | controlCharacter
  | recursionLimit
  | invalidType (found : Found) (expected : String)
  | invalidLength (length : Nat) (expected : String)
  | missingField (name : String)
  | duplicateField (name : String)
  | unknownVariant (name : String) (known : List String)
  deriving DecidableEq, Repr

namespace Cause

def message : Cause → String
  | .endOfValue => "EOF while parsing a value"
  | .endOfObject => "EOF while parsing an object"
  | .endOfList => "EOF while parsing a list"
  | .endOfString => "EOF while parsing a string"
  | .expectedValue => "expected value"
  | .expectedIdent => "expected ident"
  | .expectedColon => "expected `:`"
  | .expectedObjectCommaOrEnd => "expected `,` or `\x7d`"
  | .expectedListCommaOrEnd => "expected `,` or `]`"
  | .keyMustBeString => "key must be a string"
  | .trailingComma => "trailing comma"
  | .trailingCharacters => "trailing characters"
  | .invalidNumber => "invalid number"
  | .numberOutOfRange => "number out of range"
  | .invalidEscape => "invalid escape"
  | .endOfHexEscape => "unexpected end of hex escape"
  | .loneSurrogate => "lone leading surrogate in hex escape"
  | .controlCharacter => "control character (\\u0000-\\u001F) found while parsing a string"
  | .recursionLimit => "recursion limit exceeded"
  | .invalidType found expected =>
      "invalid type: " ++ found.describe ++ ", expected " ++ expected
  | .invalidLength length expected =>
      "invalid length " ++ Decimal.digitText length ++ ", expected " ++ expected
  | .missingField name => "missing field `" ++ name ++ "`"
  | .duplicateField name => "duplicate field `" ++ name ++ "`"
  | .unknownVariant name known =>
      "unknown variant `" ++ name ++ "`, expected one of " ++
        ", ".intercalate (known.map fun k => "`" ++ k ++ "`")

end Cause

structure Fault where
  cause : Cause
  position : Position
  deriving DecidableEq, Repr

def Fault.message (fault : Fault) : String :=
  fault.cause.message ++ " at line " ++ Decimal.digitText fault.position.line ++ " column " ++
    Decimal.digitText fault.position.column

structure Cursor where
  line : Nat
  column : Nat
  rest : List Char
  deriving DecidableEq, Repr

/-- What reads a value of type `α` from where the cursor stands. -/
abbrev Reader (α : Type) : Type :=
  Cursor → Except Fault (α × Cursor)

namespace Cursor

def ofText (s : String) : Cursor :=
  ⟨1, 0, s.toList⟩

def position (c : Cursor) : Position :=
  ⟨c.line, c.column⟩

/-- The place after the first byte of the next character; the end of the text stays put. -/
def nextPosition (c : Cursor) : Position :=
  match c.rest with
  | [] => c.position
  | '\n' :: _ => ⟨c.line + 1, 0⟩
  | _ => ⟨c.line, c.column + 1⟩

def advance (c : Cursor) : Cursor :=
  match c.rest with
  | [] => c
  | '\n' :: rest => ⟨c.line + 1, 0, rest⟩
  | ch :: rest => ⟨c.line, c.column + ch.utf8Size, rest⟩

def advanceBy : Nat → Cursor → Cursor
  | 0, c => c
  | count + 1, c => advanceBy count c.advance

def endPosition (c : Cursor) : Position :=
  (advanceBy c.rest.length c).position

def isSpace (ch : Char) : Bool :=
  ch == ' ' || ch == '\n' || ch == '\t' || ch == '\r'

/-- The first place at or after line `line`, column `column` that no space follows. -/
def skipSpaceFrom (line column : Nat) : List Char → Cursor
  | [] => ⟨line, column, []⟩
  | ch :: rest =>
      if isSpace ch then
        if ch = '\n' then skipSpaceFrom (line + 1) 0 rest
        else skipSpaceFrom line (column + 1) rest
      else
        ⟨line, column, ch :: rest⟩

def skipSpace (c : Cursor) : Cursor :=
  skipSpaceFrom c.line c.column c.rest

def fault {α : Type} (c : Cursor) (cause : Cause) : Except Fault α :=
  .error ⟨cause, c.position⟩

def faultNext {α : Type} (c : Cursor) (cause : Cause) : Except Fault α :=
  .error ⟨cause, c.nextPosition⟩

def positionAfterBytes (count : Nat) (c : Cursor) : Position :=
  ((c.rest.flatMap String.utf8EncodeChar).take count).foldl
    (fun place byte => if byte = 10 then ⟨place.line + 1, 0⟩ else ⟨place.line, place.column + 1⟩)
    c.position

end Cursor

end NodeVolumes.Json
