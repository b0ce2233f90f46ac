/-!
# Text as bytes

UTF-8 byte counts and cuts of a text, and raw text: bytes that need not be UTF-8, as they come
from a command line or from another program's output.

`decodeLossy` reads bytes as text: bytes outside the format become U+FFFD, one for each longest
broken start of a character.
-/

namespace NodeVolumes.Text

def utf8Bytes (s : String) : List UInt8 :=
  s.toList.flatMap String.utf8EncodeChar

def utf8Length : List Char → Nat
  | [] => 0
  | c :: rest => c.utf8Size + utf8Length rest

/--
The first `count` bytes of characters, as characters.

There is no such text if there are fewer bytes, or if the cut falls inside a character.
-/
def takeBytes? : Nat → List Char → Option (List Char)
  | 0, _ => some []
  | _ + 1, [] => none
  | count + 1, c :: rest =>
      if c.utf8Size ≤ count + 1 then
        (takeBytes? (count + 1 - c.utf8Size) rest).map (c :: ·)
      else
        none
termination_by _ cs => cs.length

def isContinuation (b : UInt8) : Bool :=
  0x80 ≤ b && b ≤ 0xBF

/--
How many bytes follow a first byte, which second bytes it admits, and what it adds to the code
point; `none` for a byte that starts no character.
-/
def leadByte (b : UInt8) : Option (Nat × UInt8 × UInt8 × Nat) :=
  if b < 0x80 then some (0, 0x80, 0xBF, b.toNat)
  else if b < 0xC2 then none
  else if b < 0xE0 then some (1, 0x80, 0xBF, b.toNat - 0xC0)
  else if b == 0xE0 then some (2, 0xA0, 0xBF, 0)
  else if b == 0xED then some (2, 0x80, 0x9F, 0xD)
  else if b < 0xF0 then some (2, 0x80, 0xBF, b.toNat - 0xE0)
  else if b == 0xF0 then some (3, 0x90, 0xBF, 0)
  else if b < 0xF4 then some (3, 0x80, 0xBF, b.toNat - 0xF0)
  else if b == 0xF4 then some (3, 0x80, 0x8F, 4)
  else none

/-- Reads `count` continuation bytes onto a code point, with what is left of the bytes. -/
def takeTail : Nat → Nat → List UInt8 → Option Nat × List UInt8
  | 0, point, bytes => (some point, bytes)
  | _ + 1, _, [] => (none, [])
  | count + 1, point, b :: rest =>
      if isContinuation b then
        takeTail count (point * 64 + (b.toNat - 0x80)) rest
      else
        (none, b :: rest)

theorem length_takeTail (count point : Nat) (bytes : List UInt8) :
    (takeTail count point bytes).2.length ≤ bytes.length := by
  fun_induction takeTail count point bytes with
  | case1 => simp
  | case2 => simp
  | case3 _ _ _ _ _ ih => simpa using Nat.le_succ_of_le ih
  | case4 => simp

/--
Reads one character, with what is left of the bytes.

Without a character the bytes dropped are the longest start of one that stands here, and at least
one byte.
-/
def takeChar (b : UInt8) (rest : List UInt8) : Option Char × List UInt8 :=
  match leadByte b, rest with
  | none, _ => (none, rest)
  | some (0, _, _, point), _ => (some (Char.ofNat point), rest)
  | some (_ + 1, _, _, _), [] => (none, [])
  | some (more + 1, low, high, point), second :: later =>
      if low ≤ second && second ≤ high then
        let (found, left) := takeTail more (point * 64 + (second.toNat - 0x80)) later
        (found.map Char.ofNat, left)
      else
        (none, rest)

theorem length_takeChar (b : UInt8) (rest : List UInt8) :
    (takeChar b rest).2.length ≤ rest.length := by
  unfold takeChar
  split
  · simp
  · simp
  · simp
  · rename_i more low high point second later _
    split
    · simpa using Nat.le_succ_of_le (length_takeTail more (point * 64 + (second.toNat - 0x80)) later)
    · simp

/-- The characters of bytes, `none` in place of each broken one. -/
def decodeParts : List UInt8 → List (Option Char)
  | [] => []
  | b :: rest => (takeChar b rest).1 :: decodeParts (takeChar b rest).2
termination_by bytes => bytes.length
decreasing_by
  have := length_takeChar b rest
  simp only [List.length_cons]
  omega

/-- The text of bytes, with U+FFFD for what is not UTF-8. -/
def decodeLossy (bytes : List UInt8) : String :=
  String.ofList ((decodeParts bytes).map (·.getD '\uFFFD'))

def decode? (bytes : List UInt8) : Option String :=
  ((decodeParts bytes).mapM id).map String.ofList

inductive RawText where
  | text (s : String)
  | bytes (content : List UInt8)
  deriving DecidableEq, Repr

namespace RawText

def ofBytes (content : List UInt8) : RawText :=
  match decode? content with
  | some s => .text s
  | none => .bytes content

def text? : RawText → Option String
  | .text s => some s
  | .bytes _ => none

def lossy : RawText → String
  | .text s => s
  | .bytes content => decodeLossy content

instance : Coe String RawText := ⟨.text⟩

end RawText

end NodeVolumes.Text
