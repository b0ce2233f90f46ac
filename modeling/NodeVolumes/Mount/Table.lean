import NodeVolumes.Decimal.Shortest
import NodeVolumes.Text.Blank

/-!
# Mount tables

The listing of what is mounted where: one entry a line, `<device> on <path> type <type>
(<options>)`.

`Entry.line` writes an entry; `deviceAt` looks up the device of a path in a whole table.
-/

namespace NodeVolumes.Mount

open Text

structure Entry where
  device : String
  path : String
  type : String
  /-- The options with their brackets. -/
  options : String
  deriving DecidableEq, Repr

def Entry.line (e : Entry) : String :=
  " ".intercalate [e.device, "on", e.path, "type", e.type, e.options]

def tableText (entries : List Entry) : String :=
  String.join (entries.map fun e => e.line ++ "\n")

inductive TableError where
  | mountPointNotFound (path : String)
  | ambiguousMount (path : String) (count : Nat)
  | unparseable (line : String)
  deriving DecidableEq, Repr

def TableError.message : TableError → String
  | .mountPointNotFound path => path ++ " is not a mount point"
  | .ambiguousMount path count =>
      Decimal.digitText count ++ " mount entries found for " ++ path
  | .unparseable line => "cannot parse mount entry: " ++ line

def isAbout (path line : String) : Bool :=
  (words line)[2]? == some path

def deviceOfLine (line : String) : Except TableError String :=
  match words line with
  | [device, "on", _, "type", _, _] => .ok device
  | _ => .error (.unparseable line)

def deviceAt (path table : String) : Except TableError String :=
  match (lines table).filter (isAbout path) with
  | [] => .error (.mountPointNotFound path)
  | [line] => deviceOfLine line
  | found => .error (.ambiguousMount path found.length)

end NodeVolumes.Mount
