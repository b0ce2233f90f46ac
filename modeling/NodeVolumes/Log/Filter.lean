import NodeVolumes.Json.Reader
import NodeVolumes.Text.Blank

/-!
# Log filters

What of a program's events goes into its log: directives that set a level, for everything or for
one target.  A filter is read from a text of directives between commas and written with the more
special directives first.
-/

namespace NodeVolumes.Log

open Text

inductive Level where
  | off
  | error
  | warn
  | info
  | debug
  | trace
  deriving DecidableEq, Repr

namespace Level

def all : List Level := [.off, .error, .warn, .info, .debug, .trace]

def name : Level → String
  | .off => "off"
  | .error => "error"
  | .warn => "warn"
  | .info => "info"
  | .debug => "debug"
  | .trace => "trace"

def number? (s : String) : Option Nat :=
  let ds :=
    match s.toList with
    | '+' :: rest => rest
    | all => all
  if ds ≠ [] ∧ ds.all Char.isDigit then some (Json.digitsValue ds) else none

/-- Reads a level: its number, or its name in any case. -/
def parse? (s : String) : Option Level :=
  match number? s with
  | some n => all[n]?
  | none => all.find? fun level => s.toLower == level.name

end Level

structure Directive where
  target : Option String
  level : Level
  deriving DecidableEq, Repr

namespace Directive

def text (d : Directive) : String :=
  match d.target with
  | some target => target ++ "=" ++ d.level.name
  | none => d.level.name

/-- Whether a character may begin a target; every one beyond ASCII may. -/
def beginsTarget (c : Char) : Bool :=
  c.isAlphanum || 0x80 ≤ c.toNat || c == '-' || c == ':' || c == '_'

/-- Reads a directive; a target without a level is logged in full. -/
def parse? (s : String) : Option Directive :=
  match s.toList with
  | [] => none
  | c :: rest =>
      if !beginsTarget c || (c :: rest).contains '[' then none
      else
        match pieces (· == '=') (c :: rest) with
        | [word] =>
            match Level.parse? (String.ofList word) with
            | some level => some ⟨none, level⟩
            | none => some ⟨some (String.ofList word), .trace⟩
        | [target, []] => some ⟨some (String.ofList target), .trace⟩
        | [target, level] =>
            (Level.parse? (String.ofList level)).map fun l => ⟨some (String.ofList target), l⟩
        | _ => none

/-- Whether a directive comes before another of another target: longer targets do. -/
def isBefore (a b : Directive) : Bool :=
  match a.target, b.target with
  | some s, some t => t.utf8ByteSize < s.utf8ByteSize || (s.utf8ByteSize == t.utf8ByteSize && t < s)
  | some _, none => true
  | none, _ => false

end Directive

structure Filter where
  directives : List Directive
  deriving DecidableEq, Repr

namespace Filter

def insert (d : Directive) : List Directive → List Directive
  | [] => [d]
  | e :: rest =>
      if d.target = e.target then d :: rest
      else if d.isBefore e then d :: e :: rest
      else e :: insert d rest

/-- The filter of directives, of which later ones win. -/
def ofDirectives (ds : List Directive) : Filter :=
  ⟨ds.foldl (fun all d => insert d all) []⟩

/-- Reads a filter; a blank text is one without directives. -/
def parse? (s : String) : Option Filter :=
  let words := ((splitAt (· == ',') (trim s)).map trim).filter (· ≠ "")
  (words.mapM Directive.parse?).map ofDirectives

def text (f : Filter) : String :=
  ",".intercalate (f.directives.map Directive.text)

/-- The filter where no usable one is given: warnings and errors. -/
def fallback : Filter :=
  ⟨[⟨none, .warn⟩]⟩

/-- The filter of an environment variable, if it has a usable one, or else of a level setting. -/
def choose (fromEnvironment : Option String) (level : String) : Filter :=
  ((fromEnvironment.bind parse?) <|> parse? (trim level)).getD fallback

end Filter

end NodeVolumes.Log
