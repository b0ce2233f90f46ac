import NodeVolumes.Text.Blank

/-!
# Searching text

Starts, ends and occurrences of one text in another.

Main statements: `hasStart_iff` and `occursIn_iff` say what the tests mean in terms of
concatenation.
-/

namespace NodeVolumes.Text

def hasStart (start cs : List Char) : Bool :=
  start.isPrefixOf cs

theorem hasStart_iff {start cs : List Char} : hasStart start cs = true ↔ start <+: cs :=
  List.isPrefixOf_iff_prefix

def occursIn (part : List Char) : List Char → Bool
  | [] => part.isEmpty
  | c :: rest => hasStart part (c :: rest) || occursIn part rest

theorem occursIn_iff {part cs : List Char} : occursIn part cs = true ↔ part <:+: cs := by
  induction cs with
  | nil => simp [occursIn]
  | cons c rest ih => simp [occursIn, ih, hasStart_iff, List.infix_cons_iff]

def startsWith (s start : String) : Bool :=
  hasStart start.toList s.toList

def contains (s part : String) : Bool :=
  occursIn part.toList s.toList

/-- The text in front of an ending, if the text has that ending. -/
def dropEnding? (s ending : String) : Option String :=
  if ending.toList.isSuffixOf s.toList then
    some (String.ofList (s.toList.take (s.toList.length - ending.toList.length)))
  else
    none

/--
Characters with every occurrence of `old` replaced, from left to right.

`skip` counts the characters that still belong to the occurrence replaced last.
-/
def replaceFrom (old new : List Char) : Nat → List Char → List Char
  | _, [] => []
  | skip + 1, _ :: rest => replaceFrom old new skip rest
  | 0, c :: rest =>
      if hasStart old (c :: rest) then new ++ replaceFrom old new (old.length - 1) rest
      else c :: replaceFrom old new 0 rest

/-- A text with every occurrence of a text that is not empty replaced, from left to right. -/
def replaceAll (s old new : String) : String :=
  String.ofList (replaceFrom old.toList new.toList 0 s.toList)

@[simp] theorem replaceFrom_nil (old new : List Char) (skip : Nat) :
    replaceFrom old new skip [] = [] := by
  cases skip <;> rfl

/-- The text without the characters at its end that `p` picks out. -/
def dropLastWhile (p : Char → Bool) (s : String) : String :=
  String.ofList (s.toList.reverse.dropWhile p).reverse

theorem dropEnding?_append (s ending : String) : dropEnding? (s ++ ending) ending = some s := by
  simp [dropEnding?]

end NodeVolumes.Text
