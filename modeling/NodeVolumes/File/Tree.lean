import NodeVolumes.Path

/-!
# File trees

A tree of directories, files and symbolic links, told by the entry at each location.  A location
is the list of names that leads to it from the root; the root is a directory.
-/

namespace NodeVolumes.File

/-- The names that lead to a place from the root. -/
abbrev Location : Type := List String

inductive Entry where
  | directory
  | file (content : String)
  | link (target : String)
  deriving DecidableEq, Repr

inductive IoError where
  | notFound
  | permissionDenied
  | notADirectory
  | isADirectory
  | tooManyLinks
  | alreadyExists
  /-- The path left the directory that it was opened in. -/
  | outside
  deriving DecidableEq, Repr

def IoError.message : IoError → String
  | .notFound => "No such file or directory (os error 2)"
  | .permissionDenied => "Permission denied (os error 13)"
  | .notADirectory => "Not a directory (os error 20)"
  | .isADirectory => "Is a directory (os error 21)"
  | .tooManyLinks => "Too many levels of symbolic links (os error 40)"
  | .alreadyExists => "File exists (os error 17)"
  | .outside => "a path led outside of the filesystem"

structure Tree where
  entries : List (Location × Entry)
  deriving DecidableEq, Repr

namespace Tree

def empty : Tree := ⟨[]⟩

def get? (tree : Tree) (place : Location) : Option Entry :=
  if place = [] then some .directory
  else (tree.entries.find? fun e => e.1 = place).map Prod.snd

def put (tree : Tree) (place : Location) (entry : Entry) : Tree :=
  ⟨(place, entry) :: tree.entries.filter fun e => e.1 ≠ place⟩

/-- The tree without a location and everything below it. -/
def removeAll (tree : Tree) (place : Location) : Tree :=
  ⟨tree.entries.filter fun e => !place.isPrefixOf e.1⟩

def childName? (directory place : Location) : Option String :=
  match place.getLast? with
  | some name => if place.dropLast = directory then some name else none
  | none => none

def names (tree : Tree) (directory : Location) : List String :=
  (tree.entries.filterMap fun e => childName? directory e.1).mergeSort fun a b => a ≤ b

theorem get?_nil (tree : Tree) : tree.get? [] = some .directory := rfl

theorem get?_put {place : Location} (tree : Tree) (entry : Entry) (h : place ≠ [])
    (other : Location) :
    (tree.put place entry).get? other = if other = place then some entry else tree.get? other := by
  by_cases ho : other = []
  · simp [get?, ho, Ne.symm h]
  · by_cases he : other = place
    · simp [get?, put, he, h]
    · simp only [get?, put, ho, he, if_false]
      rw [List.find?_cons_of_neg (by simp [Ne.symm he]), List.find?_filter]
      congr 1
      congr 1
      funext e
      by_cases hp : e.1 = other
      · simp [hp, he]
      · simp [hp]

end Tree

end NodeVolumes.File
