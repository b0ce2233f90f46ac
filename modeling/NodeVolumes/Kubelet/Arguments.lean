import NodeVolumes.Kubelet.Operation
import NodeVolumes.Kubelet.Response
import NodeVolumes.Path
import NodeVolumes.Text.Utf8
import NodeVolumes.Text.Visible

/-!
# Arguments

The command line of the driver: the word of an operation, then its arguments by position.

The only options are `-h` and `--help`.  Two hyphens alone end the options, one hyphen alone is an
argument like any other.  What comes first decides: a request for help or an argument that does
not belong there ends the reading.
-/

namespace NodeVolumes.Kubelet

open Text

inductive ArgumentError where
  /-- No operation has this name. -/
  | unknownOperation (word : String)
  | unexpected (argument : String)
  /-- A value was given to an option that takes none. -/
  | unexpectedValue (value option : String)
  | missing
  | notUtf8
  deriving DecidableEq, Repr

namespace ArgumentError

def wording : ArgumentError → String
  | .unknownOperation word => "unrecognized subcommand '" ++ word ++ "'"
  | .unexpected argument => "unexpected argument '" ++ argument ++ "' found"
  | .unexpectedValue value option =>
      "unexpected value '" ++ value ++ "' for '" ++ option ++ "' found; no more were expected"
  | .missing => "the following required arguments were not provided:"
  | .notUtf8 => "invalid UTF-8 was detected in one or more arguments"

/-- The message of a refusal: the first line of its wording, as it shows on a terminal. -/
def message (e : ArgumentError) : String :=
  (lines (visible e.wording)).head?.getD ""

def response (e : ArgumentError) : Response :=
  match e with
  | .unknownOperation _ => .notSupported e.message
  | _ => .failure e.message

end ArgumentError

inductive Help where
  | requested
  /-- The command line names no operation. -/
  | noOperation
  deriving DecidableEq, Repr

inductive Shape where
  /-- Two hyphens alone. -/
  | endOfOptions
  /-- An option by its long name, and the value given to it. -/
  | long (name : String) (value : Option String)
  /-- Options by their letters, of which only the first one counts. -/
  | short (letter : String)
  | plain
  deriving DecidableEq, Repr

/-- The first letter of a cluster; bytes that are no letter stand for all that follows. -/
def firstLetter : RawText → String
  | .text s => String.ofList ((s.toList.drop 1).take 1)
  | .bytes content =>
      match decodeParts (content.drop 1) with
      | some c :: _ => String.singleton c
      | _ => decodeLossy (content.drop 1)

def shape (a : RawText) : Shape :=
  match a.lossy.toList with
  | ['-', '-'] => .endOfOptions
  | '-' :: '-' :: rest =>
      let name := String.ofList (rest.takeWhile (· ≠ '='))
      match rest.dropWhile (· ≠ '=') with
      | [] => .long name none
      | _ :: value => .long name (some (String.ofList value))
  | ['-'] => .plain
  | '-' :: _ => .short (firstLetter a)
  | _ => .plain

inductive Ending where
  | help (reason : Help)
  | refused (error : ArgumentError)
  deriving DecidableEq, Repr

def optionEnding (name : String) (value : Option String) : Ending :=
  if name = "help" then
    match value with
    | none => .help .requested
    | some v => .refused (.unexpectedValue v "--help")
  else .refused (.unexpected ("--" ++ name))

def letterEnding (letter : String) : Ending :=
  if letter = "h" then .help .requested else .refused (.unexpected ("-" ++ letter))

/-- Arguments read, of which the last one is still to be decoded. -/
structure Reading where
  decoded : List String := []
  last : Option RawText := none

def Reading.settle (r : Reading) : Except Ending (List String) :=
  match r.last with
  | none => .ok r.decoded
  | some a =>
      match a.text? with
      | some s => .ok (r.decoded ++ [s])
      | none => .error (.refused .notUtf8)

def Reading.count (r : Reading) : Nat :=
  r.decoded.length + if r.last.isSome then 1 else 0

def Reading.push (r : Reading) (most : Nat) (a : RawText) : Except Ending Reading :=
  if r.count < most then do
    let decoded ← r.settle
    return ⟨decoded, some a⟩
  else
    .error (.refused (.unexpected a.lossy))

/-- Reads the arguments of an operation that takes `most` of them. -/
def readArguments (most : Nat) : Bool → Reading → List RawText → Except Ending (List String)
  | _, r, [] => r.settle
  | true, r, a :: rest => do
      let r ← r.push most a
      readArguments most true r rest
  | false, r, a :: rest =>
      match shape a with
      | .endOfOptions => readArguments most true r rest
      | .long name value => do
          if name = "help" ∧ value = none then
            let _ ← r.settle
          .error (optionEnding name value)
      | .short letter => do
          if letter = "h" then
            let _ ← r.settle
          .error (letterEnding letter)
      | .plain => do
          let r ← r.push most a
          readArguments most false r rest

def readOperation (v : Verb) (args : List RawText) :
    Except Ending (Except OptionsError Operation) := do
  let texts ← readArguments v.arity.2 false {} args
  match Operation.ofArguments? v texts with
  | some result => return result
  | none => .error (.refused .missing)

def verb? (a : RawText) : Option Verb :=
  a.text?.bind Verb.ofWord?

/-- Reads a command line without the name of the program. -/
def readCommandLine : List RawText → Except Ending (Except OptionsError Operation)
  | [] => .error (.help .noOperation)
  | a :: rest =>
      match verb? a with
      | some v => readOperation v rest
      | none =>
          match shape a, rest with
          | .endOfOptions, [] => .error (.help .noOperation)
          | .endOfOptions, next :: _ =>
              match verb? next with
              | some v => .error (.refused (.unexpected v.word))
              | none => .error (.refused (.unknownOperation next.lossy))
          | .long name value, _ => .error (optionEnding name value)
          | .short letter, _ => .error (letterEnding letter)
          | .plain, _ => .error (.refused (.unknownOperation a.lossy))

inductive Invocation where
  | run (operation : Operation)
  | respond (response : Response)
  | help (reason : Help)

/-- What a command line asks for; its first word is the name of the program. -/
def Invocation.parse (argv : List RawText) : Invocation :=
  match readCommandLine argv.tail with
  | .ok (.ok operation) => .run operation
  | .ok (.error e) => .respond (.failure e.message)
  | .error (.help reason) => .help reason
  | .error (.refused e) => .respond e.response

def defaultBinary : String := "flexvol"

def binaryName (argv0 : Option RawText) : String :=
  ((argv0.bind RawText.text?).bind Path.fileName).getD defaultBinary

end NodeVolumes.Kubelet
