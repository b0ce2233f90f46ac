import NodeVolumes.Command.Basic
import NodeVolumes.File.Lookup
import NodeVolumes.Flow

/-!
# Requests to the host

What volume operations ask of the machine they run on: commands, waiting, and the file system.
-/

namespace NodeVolumes.Host

open File

inductive Request where
  | run (command : Command)
  | sleep (milliseconds : Nat)
  /-- Counts one pass over the disk buses. -/
  | countPass
  /-- Whether a path leads to anything, links followed. -/
  | pathExists (path : String)
  /-- Whether a path leads to a directory, links followed. -/
  | isDirectory (path : String)
  /-- Whether a name in a directory is a symbolic link. -/
  | isLink (directory name : String)
  /-- The path without links and dots. -/
  | canonical (path : String)
  /-- The names in a directory below `root`, in ascending order. -/
  | names (root path : String)
  /-- Whether anything stands at a path below `root`, a last link not followed. -/
  | entryExists (root path : String)
  /-- Writes a file below `root` over what it held. -/
  | write (root path text : String)
  /-- Whether a path leads to a regular file, links followed. -/
  | isFile (path : String)
  /-- The text of a file. -/
  | read (path : String)
  /-- The text of a file below `root`. -/
  | readBelow (root path : String)
  /-- Writes at the end of a file, which is made if it is not there. -/
  | append (path text : String)
  deriving DecidableEq, Repr

@[reducible] def Request.Answer : Request → Type
  | .run _ => Except Command.SpawnFailure Command.Output
  | .sleep _ => Unit
  | .countPass => Unit
  | .pathExists _ => Bool
  | .isDirectory _ => Bool
  | .isLink _ _ => Except IoError Bool
  | .canonical _ => Except IoError String
  | .names _ _ => Except IoError (List String)
  | .entryExists _ _ => Bool
  | .write _ _ _ => Except IoError Unit
  | .isFile _ => Bool
  | .read _ => Except IoError String
  | .readBelow _ _ => Except IoError String
  | .append _ _ => Except IoError Unit

@[reducible] def interface : Interface :=
  ⟨Request, Request.Answer⟩

abbrev Program (α : Type) : Type :=
  Flow interface α

abbrev Action (ε α : Type) : Type :=
  ExceptT ε Program α

def ask (r : Request) : Program r.Answer :=
  Flow.request (I := interface) r

/-- Runs a command behind the helper and asks for success. -/
def runChecked (helper : Option String) (c : Command) : Action Command.Error Command.Output :=
  ExceptT.mk do
    match ← ask (.run (c.behind helper)) with
    | .error failure => return .error (.spawn failure)
    | .ok output => return c.check output

end NodeVolumes.Host
