import NodeVolumes.Text.Blank

/-!
# Paths

Paths as text: their parts, last name, parent and joining.  Doubled slashes and single dots inside
a path say nothing; two dots are a part of their own.
-/

namespace NodeVolumes.Path

def isAbsolute (path : String) : Bool :=
  path.toList.head? == some '/'

/-- What stands between the slashes of a path, empty pieces left out. -/
def segments (path : String) : List String :=
  (Text.splitAt (· == '/') path).filter (· ≠ "")

/-- The parts of a path; a single dot counts only at the start of a relative path. -/
def parts (path : String) : List String :=
  match isAbsolute path, segments path with
  | false, "." :: rest => "." :: rest.filter (· ≠ ".")
  | _, all => all.filter (· ≠ ".")

def fileName (path : String) : Option String :=
  match (parts path).getLast? with
  | some "." | some ".." | none => none
  | some name => some name

/-- The path without its last part; the root and the empty path have no parent. -/
def parent (path : String) : Option String :=
  match parts path with
  | [] => none
  | all =>
      let above := "/".intercalate all.dropLast
      some (if isAbsolute path then "/" ++ above else above)

/-- `part` below `base`; an absolute part replaces the base. -/
def join (base part : String) : String :=
  if isAbsolute part then part
  else if base = "" ∨ base.toList.getLast? = some '/' then base ++ part
  else base ++ "/" ++ part

end NodeVolumes.Path
