import NodeVolumes.Command.Basic
import NodeVolumes.File.Change
import NodeVolumes.Host.Request

/-!
# Stations

A host as a value: its file tree, what its commands answer, and what has been asked of it.  Time
passes only by waiting.
-/

namespace NodeVolumes.Host

open File

/-- What one command of a script leaves behind, after it changed the file tree. -/
structure Canned where
  output : Command.Output
  changes : List Change := []
  deriving DecidableEq, Repr

/-- Where a station's commands get their outcome from. -/
inductive Runner where
  /-- From a queue, whatever the command; an empty queue starts nothing. -/
  | script (queue : List Canned)
  /-- From the programs of the host. -/
  | programs (start : Command → Except Command.SpawnFailure Command.Output)

structure Station where
  tree : Tree
  /-- The directory that changes made by commands are relative to. -/
  base : Location
  /-- The directory that relative paths start from. -/
  workingDirectory : Location
  runner : Runner
  /-- The commands run, latest first. -/
  history : List Command := []
  /-- Milliseconds spent waiting. -/
  waited : Nat := 0
  /-- Passes made over the disk buses. -/
  passes : Nat := 0

namespace Station

def ambient (s : Station) : Origin :=
  ⟨s.workingDirectory, false⟩

def below (s : Station) (root : String) : Except IoError Origin := do
  let place ← openDirectory s.tree s.ambient root
  return ⟨place, true⟩

def run (s : Station) (c : Command) : Except Command.SpawnFailure Command.Output × Station :=
  let s := { s with history := c :: s.history }
  match s.runner with
  | .script [] => (.error ⟨c.program, "no scripted response available"⟩, s)
  | .script (next :: queue) =>
      (.ok next.output,
        { s with runner := .script queue, tree := applyChanges s.base s.tree next.changes })
  | .programs start => (start c, s)

def pathExists (s : Station) (path : String) : Bool :=
  (lookupEntry s.tree s.ambient true path).isOk

def isDirectory (s : Station) (path : String) : Bool :=
  (openDirectory s.tree s.ambient path).isOk

def isLink (s : Station) (directory name : String) : Except IoError Bool := do
  let origin ← s.below directory
  match ← lookupEntry s.tree origin false name with
  | (_, .link _) => return true
  | _ => return false

def canonical (s : Station) (path : String) : Except IoError String := do
  let (place, _) ← lookupEntry s.tree s.ambient true path
  return locationPath place

def names (s : Station) (root path : String) : Except IoError (List String) := do
  listNames s.tree (← s.below root) path

def entryExists (s : Station) (root path : String) : Bool :=
  match s.below root with
  | .ok origin => (lookupEntry s.tree origin false path).isOk
  | .error _ => false

def write (s : Station) (root path text : String) : Except IoError Tree := do
  writeText s.tree (← s.below root) path text

def isFile (s : Station) (path : String) : Bool :=
  match lookupEntry s.tree s.ambient true path with
  | .ok (_, .file _) => true
  | _ => false

def read (s : Station) (path : String) : Except IoError String :=
  readText s.tree s.ambient path

def readBelow (s : Station) (root path : String) : Except IoError String := do
  readText s.tree (← s.below root) path

def append (s : Station) (path text : String) : Except IoError Tree :=
  appendText s.tree s.ambient path text

/-- The answer to a change of the tree, and the station with the tree as it then is. -/
def changed (s : Station) : Except IoError Tree → Except IoError Unit × Station
  | .ok tree => (.ok (), { s with tree })
  | .error e => (.error e, s)

def answer : (r : Request) → StateM Station r.Answer
  | .run c => fun s => s.run c
  | .sleep ms => fun s => ((), { s with waited := s.waited + ms })
  | .countPass => fun s => ((), { s with passes := s.passes + 1 })
  | .pathExists path => fun s => (s.pathExists path, s)
  | .isDirectory path => fun s => (s.isDirectory path, s)
  | .isLink directory name => fun s => (s.isLink directory name, s)
  | .canonical path => fun s => (s.canonical path, s)
  | .names root path => fun s => (s.names root path, s)
  | .entryExists root path => fun s => (s.entryExists root path, s)
  | .write root path text => fun s => s.changed (s.write root path text)
  | .isFile path => fun s => (s.isFile path, s)
  | .read path => fun s => (s.read path, s)
  | .readBelow root path => fun s => (s.readBelow root path, s)
  | .append path text => fun s => s.changed (s.append path text)

def perform {α : Type} (program : Program α) : StateM Station α :=
  program.foldM answer

def attempt {ε α : Type} (action : Action ε α) : StateM Station (Except ε α) :=
  perform action.run

end Station

end NodeVolumes.Host
