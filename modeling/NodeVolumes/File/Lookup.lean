import NodeVolumes.File.Tree

/-!
# Looking up paths

Following a path through a tree: symbolic links on the way are followed, forty of them at most,
and two dots lead to the directory above.

A look-up starts either anywhere in the tree, or inside a directory that it may not leave: there
two dots at the top, an absolute path and an absolute link lead outside.
-/

namespace NodeVolumes.File

/-- Where a look-up begins and what it may reach. -/
structure Origin where
  /-- The directory that relative paths start from. -/
  directory : Location
  /-- The look-up may not leave that directory. -/
  confined : Bool

/-- Where a look-up ends: a location and what stands there, nothing for a name that is free. -/
structure Found where
  place : Location
  entry : Option Entry
  deriving DecidableEq, Repr

def maxLinks : Nat := 40

/-- The names of a path as a look-up takes them; a slash at the end asks for a directory. -/
def steps (path : String) : List String :=
  let segments := Path.segments path
  if path.toList.getLast? = some '/' then segments ++ ["."] else segments

/--
Follows names from a directory.

`onLink` goes on from a directory with the names that a link stands for; the last name is not
followed if `follow` is false.
-/
def walk (tree : Tree) (origin : Origin) (follow : Bool)
    (onLink : Location → String → List String → Except IoError Found) :
    Location → List String → Except IoError Found
  | here, [] => .ok ⟨here, tree.get? here⟩
  | here, name :: rest =>
      match tree.get? here with
      | some .directory =>
          if name = "." then
            walk tree origin follow onLink here rest
          else if name = ".." then
            if origin.confined && here == origin.directory then .error .outside
            else walk tree origin follow onLink here.dropLast rest
          else
            let next := here ++ [name]
            match tree.get? next with
            | none => if rest = [] then .ok ⟨next, none⟩ else .error .notFound
            | some (.link target) =>
                if rest = [] ∧ ¬follow then .ok ⟨next, some (.link target)⟩
                else onLink here target rest
            | some entry =>
                if rest = [] then .ok ⟨next, some entry⟩
                else walk tree origin follow onLink next rest
      | some _ => .error .notADirectory
      | none => .error .notFound

/-- Goes on after a link, for as long as links are left. -/
def followLinks (tree : Tree) (origin : Origin) (follow : Bool) :
    Nat → Location → String → List String → Except IoError Found
  | 0, _, _, _ => .error .tooManyLinks
  | left + 1, here, target, rest =>
      if Path.isAbsolute target then
        if origin.confined then .error .outside
        else walk tree origin follow (followLinks tree origin follow left) [] (steps target ++ rest)
      else
        walk tree origin follow (followLinks tree origin follow left) here (steps target ++ rest)

def lookup (tree : Tree) (origin : Origin) (follow : Bool) (path : String) :
    Except IoError Found :=
  let go := walk tree origin follow (followLinks tree origin follow maxLinks)
  if path = "" then .error .notFound
  else if Path.isAbsolute path then
    if origin.confined then .error .outside else go [] (steps path)
  else go origin.directory (steps path)

def lookupEntry (tree : Tree) (origin : Origin) (follow : Bool) (path : String) :
    Except IoError (Location × Entry) := do
  match ← lookup tree origin follow path with
  | ⟨place, some entry⟩ => .ok (place, entry)
  | ⟨_, none⟩ => .error .notFound

def openDirectory (tree : Tree) (origin : Origin) (path : String) : Except IoError Location := do
  match ← lookupEntry tree origin true path with
  | (place, .directory) => .ok place
  | _ => .error .notADirectory

/-- The names in the directory that a path leads to, in ascending order. -/
def listNames (tree : Tree) (origin : Origin) (path : String) : Except IoError (List String) := do
  let place ← openDirectory tree origin path
  return tree.names place

def readText (tree : Tree) (origin : Origin) (path : String) : Except IoError String := do
  match ← lookupEntry tree origin true path with
  | (_, .file content) => .ok content
  | (_, .directory) => .error .isADirectory
  | (_, .link _) => .error .tooManyLinks

/-- Where a text written to a path ends up; the file may be free, its directory may not. -/
def writePlace (tree : Tree) (origin : Origin) (path : String) : Except IoError Location := do
  match ← lookup tree origin true path with
  | ⟨_, some .directory⟩ => .error .isADirectory
  | ⟨place, _⟩ => .ok place

def writeText (tree : Tree) (origin : Origin) (path text : String) : Except IoError Tree := do
  let place ← writePlace tree origin path
  return tree.put place (.file text)

def appendText (tree : Tree) (origin : Origin) (path text : String) : Except IoError Tree := do
  let place ← writePlace tree origin path
  match tree.get? place with
  | some (.file content) => return tree.put place (.file (content ++ text))
  | _ => return tree.put place (.file text)

def locationPath (place : Location) : String :=
  "/" ++ "/".intercalate place

end NodeVolumes.File
