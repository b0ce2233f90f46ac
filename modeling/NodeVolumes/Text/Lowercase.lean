import NodeVolumes.Text.CaseTable

/-!
# Lower case

Lower-casing of text by the full Unicode map: one character has a lower-case form of two (a
dotted capital I), and a capital sigma becomes a final sigma at the end of a word.
-/

namespace NodeVolumes.Text

def inRanges (ranges : List (Nat × Nat)) (n : Nat) : Bool :=
  ranges.any fun (first, last) => first ≤ n && n ≤ last

def isCaseIgnorable (c : Char) : Bool :=
  inRanges ignorableRanges c.toNat

def isCased (c : Char) : Bool :=
  inRanges casedRanges c.toNat

/-- The lower-case form of a character, apart from its place in a word. -/
def lowerChar (c : Char) : List Char :=
  if c = '\u0130' then
    ['i', '\u0307']
  else
    match lowerRanges.find? (·.covers c.toNat) with
    | some range => [Char.ofNat ((c.toNat : Int) + range.shift).toNat]
    | none => [c]

/-- A cased character comes next, after any that are passed over. -/
def casedNext (cs : List Char) : Bool :=
  match cs.dropWhile isCaseIgnorable with
  | c :: _ => isCased c
  | [] => false

/--
The lower-case form of the characters after `before` (latest first).

A capital sigma is final if a cased character stands before it and none after it.
-/
def lowerFrom : List Char → List Char → List Char
  | _, [] => []
  | before, c :: rest =>
      let form :=
        if c = 'Σ' then
          if casedNext before && !casedNext rest then ['ς'] else ['σ']
        else
          lowerChar c
      form ++ lowerFrom (c :: before) rest

def lower (s : String) : String :=
  String.ofList (lowerFrom [] s.toList)

def lowerAscii (s : String) : String :=
  String.ofList (s.toList.map Char.toLower)

/-! ## ASCII text -/

end NodeVolumes.Text
