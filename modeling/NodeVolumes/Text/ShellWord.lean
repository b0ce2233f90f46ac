import NodeVolumes.Text.Blank

/-!
# Shell words

Words written so that a POSIX shell reads each back as one word, and the reader for words written
that way.

A word of safe characters stands bare.  Any other word stands in single quotes, and a quote or an
exclamation mark in it is written outside the quotes behind a backslash.
-/

namespace NodeVolumes.Text.ShellWord

def isSafe (c : Char) : Bool :=
  c.isAlphanum || c == '-' || c == '_' || c == '=' || c == '/' || c == ',' || c == '.' || c == '+'

/-- Characters inside single quotes, with quote and exclamation mark moved outside. -/
def quoteBody : List Char → List Char
  | [] => []
  | c :: rest =>
      if c = '\'' ∨ c = '!' then
        '\'' :: '\\' :: c :: '\'' :: quoteBody rest
      else
        c :: quoteBody rest

def quoteChars (word : List Char) : List Char :=
  if word ≠ [] ∧ word.all isSafe then
    word
  else
    '\'' :: (quoteBody word ++ ['\''])

def quote (word : String) : String :=
  String.ofList (quoteChars word.toList)

def join (words : List String) : String :=
  " ".intercalate (words.map quote)

inductive Mode where
  | plain
  /-- Behind a backslash. -/
  | escaped
  /-- Inside single quotes. -/
  | quoted
  deriving DecidableEq, Repr

/-- Characters that may not stand bare: all but some on which no shell acts. -/
def isSpecial (c : Char) : Bool :=
  !(isSafe c || c == ':' || c == '@' || c == '%' || c == '^')

/--
Splits a line into words by the rules for single quotes and backslashes; `none` if a quote stays
open, the line ends in a backslash, or a character stands bare that a shell might act on.

`word` holds the characters read of the current word, latest first, and is `none` between words.
-/
def splitFrom : Mode → Option (List Char) → List Char → Option (List (List Char))
  | .plain, word, [] => some (word.map List.reverse).toList
  | .plain, word, c :: rest =>
      if c = ' ' then (splitFrom .plain none rest).map ((word.map List.reverse).toList ++ ·)
      else if c = '\'' then splitFrom .quoted (some (word.getD [])) rest
      else if c = '\\' then splitFrom .escaped word rest
      else if isSpecial c then none
      else splitFrom .plain (some (c :: word.getD [])) rest
  | .escaped, _, [] => none
  | .escaped, word, c :: rest =>
      -- a line end behind a backslash joins two lines
      if c = '\n' then splitFrom .plain word rest
      else splitFrom .plain (some (c :: word.getD [])) rest
  | .quoted, _, [] => none
  | .quoted, word, c :: rest =>
      if c = '\'' then splitFrom .plain word rest
      else splitFrom .quoted (some (c :: word.getD [])) rest

def split (line : String) : Option (List String) :=
  (splitFrom .plain none line.toList).map (·.map String.ofList)

end NodeVolumes.Text.ShellWord
