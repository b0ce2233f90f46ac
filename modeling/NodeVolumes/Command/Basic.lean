import NodeVolumes.Json.Basic
import NodeVolumes.Text.Blank
import NodeVolumes.Text.ShellWord
import NodeVolumes.Text.Utf8

/-!
# Commands

Programs run on the host with their arguments, what they leave behind, and how their failures
read.  A privilege helper stands in front of a command without showing in its errors.
-/

namespace NodeVolumes

open Text

structure Command where
  program : String
  args : List RawText
  deriving DecidableEq, Repr

namespace Command

def ofTexts (program : String) (args : List String) : Command :=
  ⟨program, args.map .text⟩

/-- The words of a command, with U+FFFD for what is not UTF-8. -/
def words (c : Command) : List String :=
  c.program :: c.args.map RawText.lossy

def render (c : Command) : String :=
  ShellWord.join c.words

/-- What a command that ran left behind: its exit code, unless a signal ended it, and its output. -/
structure Output where
  code : Option Int
  stdout : String
  stderr : String
  deriving DecidableEq, Repr

def Output.isSuccess (o : Output) : Bool :=
  o.code == some 0

structure SpawnFailure where
  program : String
  message : String
  deriving DecidableEq, Repr

inductive Error where
  | spawn (failure : SpawnFailure)
  /-- The command ran and did not report success; `command` is its text without any helper. -/
  | failed (command : String) (status : Option Int) (stderr : String)
  deriving DecidableEq, Repr

def Error.message : Error → String
  | .spawn f => "failed to spawn " ++ f.program ++ ": " ++ f.message
  | .failed command status stderr =>
      let code :=
        match status with
        | some n => Json.integerText n
        | none => "unknown"
      command ++ " exited with status " ++ code ++ ": " ++ stderr

/-- The command with a privilege helper in front, if there is one. -/
def behind (helper : Option String) (c : Command) : Command :=
  match helper with
  | none => c
  | some h => ⟨h, .text c.program :: c.args⟩

/-- The helper that a setting names; a blank one names none. -/
def helperOf (setting : String) : Option String :=
  nonBlank setting

/-- Output that counts as success, or the failure that it tells. -/
def check (c : Command) (o : Output) : Except Error Output :=
  if o.isSuccess then .ok o else .error (.failed c.render o.code (trim o.stderr))

end Command

end NodeVolumes
