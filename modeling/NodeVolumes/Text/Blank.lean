/-!
# Blank characters

White space as the Unicode property White_Space has it (zero-width space and the byte-order mark
are not in it), and the operations on text that depend on it: trimming, words, lines.
-/

namespace NodeVolumes.Text

def isBlank (c : Char) : Bool :=
  let n := c.toNat
  (0x09 ≤ n && n ≤ 0x0D) || n == 0x20 || n == 0x85 || n == 0xA0 || n == 0x1680 ||
    (0x2000 ≤ n && n ≤ 0x200A) || n == 0x2028 || n == 0x2029 || n == 0x202F ||
    n == 0x205F || n == 0x3000

def trimChars (cs : List Char) : List Char :=
  ((cs.dropWhile isBlank).reverse.dropWhile isBlank).reverse

def trim (s : String) : String :=
  String.ofList (trimChars s.toList)

def nonBlank (s : String) : Option String :=
  if trim s = "" then none else some (trim s)

theorem nonBlank_eq_none_iff {s : String} : nonBlank s = none ↔ trim s = "" := by
  unfold nonBlank
  split <;> simp_all

/-- The trimmed text of an optional value, if it is there and anything is left of it. -/
def nonBlank? (s : Option String) : Option String :=
  s.bind nonBlank

/--
The pieces between the characters that `sep` picks out.

There is one piece more than there are separators, so pieces may be empty.
-/
def pieces (sep : Char → Bool) : List Char → List (List Char)
  | [] => [[]]
  | c :: rest =>
      if sep c then
        [] :: pieces sep rest
      else
        match pieces sep rest with
        | [] => [[c]]
        | piece :: more => (c :: piece) :: more

theorem pieces_ne_nil (sep : Char → Bool) (cs : List Char) : pieces sep cs ≠ [] := by
  cases cs with
  | nil => simp [pieces]
  | cons c rest =>
      unfold pieces
      split
      · simp
      · split <;> simp

/-- The pieces of a text between the characters that `sep` picks out. -/
def splitAt (sep : Char → Bool) (s : String) : List String :=
  (pieces sep s.toList).map String.ofList

def words (s : String) : List String :=
  ((pieces isBlank s.toList).filter (· ≠ [])).map String.ofList

/-- A line without the carriage return that ends it. -/
def dropReturn (line : List Char) : List Char :=
  if line.getLast? = some '\r' then line.dropLast else line

/--
The lines of a text.

A line ends with a line feed, before which one carriage return belongs to the line end; the text
after the last line feed is a line if it is not empty, and keeps a carriage return at its end.
-/
def lineChars (cs : List Char) : List (List Char) :=
  let parts := pieces (· == '\n') cs
  let full := parts.dropLast.map dropReturn
  match parts.getLast? with
  | none | some [] => full
  | some last => full ++ [last]

def lines (s : String) : List String :=
  (lineChars s.toList).map String.ofList

end NodeVolumes.Text
