import NodeVolumes.File.Lookup

/-!
# Changes to a tree

Changes that someone makes to a tree from outside: directories, files and links that appear, and
paths that go away.  Paths are relative to a directory, links in them are followed, and the
directories that lead to them are made first.
-/

namespace NodeVolumes.File

inductive Change where
  | directory (path : String)
  | file (path content : String)
  | link (path target : String)
  | remove (path : String)
  deriving DecidableEq, Repr

/-- The paths of the directories that lead to a path, and the path itself, shortest first. -/
def leadingPaths (path : String) : List String :=
  let segments := Path.segments path
  (List.range segments.length).map fun n => "/".intercalate (segments.take (n + 1))

/-- The tree with a directory at a path, if nothing stands there. -/
def ensureDirectory (origin : Origin) (tree : Tree) (path : String) : Tree :=
  match lookup tree origin true path with
  | .ok ⟨place, none⟩ => tree.put place .directory
  | _ => tree

def ensureDirectories (origin : Origin) (tree : Tree) (path : String) : Tree :=
  (leadingPaths path).foldl (ensureDirectory origin) tree

def ensureAbove (origin : Origin) (tree : Tree) (path : String) : Tree :=
  (leadingPaths path).dropLast.foldl (ensureDirectory origin) tree

/-- The tree after a change below a directory; a change that cannot be made leaves it alone. -/
def Change.apply (base : Location) (tree : Tree) (change : Change) : Tree :=
  let origin : Origin := ⟨base, false⟩
  match change with
  | .directory path => ensureDirectories origin tree path
  | .file path content =>
      let tree := ensureAbove origin tree path
      (writeText tree origin path content).toOption.getD tree
  | .link path target =>
      let tree := ensureAbove origin tree path
      match lookup tree origin false path with
      | .ok ⟨place, none⟩ => tree.put place (.link target)
      | _ => tree
  | .remove path =>
      match lookup tree origin false path with
      | .ok ⟨place, some _⟩ => tree.removeAll place
      | _ => tree

def applyChanges (base : Location) (tree : Tree) (changes : List Change) : Tree :=
  changes.foldl (Change.apply base) tree

end NodeVolumes.File
