import NodeVolumes.Decimal.Shortest
import NodeVolumes.SortedMap

/-!
# JSON values

Values and their compact text.  Objects keep their members in the order of a list; the reader
gives them in ascending order of their names.
-/

namespace NodeVolumes

/-- A JSON number: an integer of at most 64 bits, or the bits of a binary64 number. -/
inductive Json.Number where
  | integer (value : Int)
  | float (bits : UInt64)
  deriving DecidableEq, Repr

inductive Json where
  | null
  | bool (value : Bool)
  | number (value : Json.Number)
  | string (value : String)
  | array (items : List Json)
  | object (members : List (String × Json))
  deriving Repr, Inhabited

namespace Json

def hexDigit (n : Nat) : Char :=
  Nat.digitChar (n % 16)

/-- A character inside a JSON string: quotes, backslashes and control characters are escaped. -/
def escapeChar (c : Char) : List Char :=
  if c = '"' then ['\\', '"']
  else if c = '\\' then ['\\', '\\']
  else if c = '\x08' then ['\\', 'b']
  else if c = '\x0C' then ['\\', 'f']
  else if c = '\n' then ['\\', 'n']
  else if c = '\r' then ['\\', 'r']
  else if c = '\t' then ['\\', 't']
  else if c.toNat < 0x20 then ['\\', 'u', '0', '0', hexDigit (c.toNat / 16), hexDigit c.toNat]
  else [c]

def quoteChars (cs : List Char) : List Char :=
  '"' :: (cs.flatMap escapeChar ++ ['"'])

def quote (s : String) : String :=
  String.ofList (quoteChars s.toList)

def integerText (n : Int) : String :=
  if n < 0 then "-" ++ Decimal.digitText n.natAbs else Decimal.digitText n.natAbs

def Number.text : Number → String
  | .integer value => integerText value
  | .float bits => (Decimal.shortest bits).compact

mutual

def compact : Json → String
  | .null => "null"
  | .bool value => if value then "true" else "false"
  | .number value => value.text
  | .string value => quote value
  | .array items => "[" ++ ",".intercalate (compactItems items) ++ "]"
  | .object members => "\x7b" ++ ",".intercalate (compactMembers members) ++ "\x7d"
termination_by structural v => v

def compactItems : List Json → List String
  | [] => []
  | item :: rest => compact item :: compactItems rest
termination_by structural items => items

def compactMembers : List (String × Json) → List String
  | [] => []
  | (name, value) :: rest => (quote name ++ ":" ++ compact value) :: compactMembers rest
termination_by structural members => members

end

def ofTexts (m : SortedMap String) : Json :=
  .object (m.entries.map fun (name, value) => (name, .string value))

/-! ## Equality -/

mutual

def same : Json → Json → Bool
  | .null, .null => true
  | .bool a, .bool b => a == b
  | .number a, .number b => a == b
  | .string a, .string b => a == b
  | .array items, .array others => sameItems items others
  | .object members, .object others => sameMembers members others
  | _, _ => false
termination_by structural v => v

def sameItems : List Json → List Json → Bool
  | [], [] => true
  | item :: rest, other :: others => item.same other && sameItems rest others
  | _, _ => false
termination_by structural items => items

def sameMembers : List (String × Json) → List (String × Json) → Bool
  | [], [] => true
  | (name, value) :: rest, (name', other) :: others =>
      name == name' && value.same other && sameMembers rest others
  | _, _ => false
termination_by structural members => members

end

mutual

theorem same_iff (v w : Json) : v.same w = true ↔ v = w := by
  cases v with
  | array items => cases w <;> simp [same, sameItems_iff items]
  | object members => cases w <;> simp [same, sameMembers_iff members]
  | _ => cases w <;> simp [same]
termination_by structural v

theorem sameItems_iff (items others : List Json) :
    sameItems items others = true ↔ items = others := by
  cases items with
  | nil => cases others <;> simp [sameItems]
  | cons item rest =>
      cases others with
      | nil => simp [sameItems]
      | cons other others => simp [sameItems, same_iff item, sameItems_iff rest]
termination_by structural items

theorem sameMembers_iff (members others : List (String × Json)) :
    sameMembers members others = true ↔ members = others := by
  cases members with
  | nil => cases others <;> simp [sameMembers]
  | cons member rest =>
      obtain ⟨name, value⟩ := member
      cases others with
      | nil => simp [sameMembers]
      | cons other others =>
          simp [sameMembers, same_iff value, sameMembers_iff rest, Prod.ext_iff]
termination_by structural members

end

instance : DecidableEq Json := fun v w => decidable_of_iff _ (same_iff v w)

end Json

end NodeVolumes
