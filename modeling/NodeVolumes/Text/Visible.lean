/-!
# Visible text

What is left of a text when everything in it that a terminal would act on is taken out: escape
sequences, and control characters other than white space.
-/

namespace NodeVolumes.Text

inductive Sequence where
  /-- No sequence has begun. -/
  | none
  /-- What follows an escape character. -/
  | start
  /-- Characters before the last one of a short sequence. -/
  | short
  /-- Characters before the last one of a control sequence. -/
  | control
  /-- Text for the terminal; a bell ends some of it. -/
  | string (bell : Bool)
  deriving DecidableEq, Repr

def isAsciiSpace (c : Char) : Bool :=
  c == ' ' || c == '\t' || c == '\n' || c == '\x0C' || c == '\r'

def isControl (c : Char) : Bool :=
  c.toNat < 0x20 || c == '\x7F'

/-- What follows in a sequence after a character that is no control character. -/
def Sequence.step (s : Sequence) (c : Char) : Sequence :=
  let n := c.toNat
  match s with
  | .none => .none
  | .start =>
      if n < 0x30 then .short
      else if c = '[' then .control
      else if c = ']' then .string true
      else if c = 'P' ∨ c = 'X' ∨ c = '^' ∨ c = '_' then .string false
      else .none
  | .short => if n < 0x30 then .short else .none
  | .control => if n < 0x40 then .control else .none
  | .string bell => .string bell

def visibleFrom : Sequence → List Char → List Char
  | _, [] => []
  | s, c :: rest =>
      if c = '\x1B' then visibleFrom .start rest
      else if c = '\x18' ∨ c = '\x1A' then visibleFrom .none rest
      else
        match s with
        | .none =>
            if isControl c && !isAsciiSpace c then visibleFrom .none rest
            else c :: visibleFrom .none rest
        | .string bell =>
            if bell && c == '\x07' then visibleFrom .none rest
            else visibleFrom (.string bell) rest
        | s =>
            if isControl c then
              if isAsciiSpace c then c :: visibleFrom .none rest else visibleFrom s rest
            else visibleFrom (s.step c) rest

def visible (s : String) : String :=
  String.ofList (visibleFrom .none s.toList)

end NodeVolumes.Text
