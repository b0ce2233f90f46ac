import NodeVolumes.Document.TomlScalar
import NodeVolumes.SortedMap

/-!
# TOML documents

Reading a document of tables: every key is given once, and a table is opened once, where dotted
keys open the tables that they lead through.
-/

namespace NodeVolumes.Document.Toml

inductive Opening where
  /-- By a header of its own. -/
  | header
  /-- By the header of a table inside it. -/
  | implied
  /-- By a dotted key. -/
  | dotted
  deriving DecidableEq, Repr

inductive Item where
  | value (value : Json)
  | table (opening : Opening) (members : List (String × Item))
  /-- An array of tables, the latest one first. -/
  | tables (earlier : List (List (String × Item))) (latest : List (String × Item))

abbrev Members : Type := List (String × Item)

namespace Members

def get? (ms : Members) (key : String) : Option Item :=
  (ms.find? fun m => m.1 = key).map Prod.snd

def put (ms : Members) (key : String) (item : Item) : Members :=
  (key, item) :: ms.filter fun m => m.1 ≠ key

/-- Changes the members of the table at a key, of the latest one if there are several. -/
def inside (ms : Members) (key : String) (change : Members → Option Members) : Option Members :=
  match ms.get? key with
  | none => (change []).map fun inner => ms.put key (.table .implied inner)
  | some (.table opening inner) => (change inner).map fun inner => ms.put key (.table opening inner)
  | some (.tables earlier latest) =>
      (change latest).map fun latest => ms.put key (.tables earlier latest)
  | some (.value _) => none

def openTable : List String → Members → Option Members
  | [], _ => none
  | [key], ms =>
      match ms.get? key with
      | none => some (ms.put key (.table .header []))
      | some (.table .implied inner) => some (ms.put key (.table .header inner))
      | _ => none
  | key :: more, ms => ms.inside key (openTable more)

def openElement : List String → Members → Option Members
  | [], _ => none
  | [key], ms =>
      match ms.get? key with
      | none => some (ms.put key (.tables [] []))
      | some (.tables earlier latest) => some (ms.put key (.tables (latest :: earlier) []))
      | _ => none
  | key :: more, ms => ms.inside key (openElement more)

def assign (value : Json) : List String → Members → Option Members
  | [], _ => none
  | [key], ms =>
      match ms.get? key with
      | none => some (ms.put key (.value value))
      | some _ => none
  | key :: more, ms =>
      match ms.get? key with
      | none => (assign value more []).map fun inner => ms.put key (.table .dotted inner)
      | some (.table .dotted inner) =>
          (assign value more inner).map fun inner => ms.put key (.table .dotted inner)
      | some _ => none

def assignUnder (keys : List String) (value : Json) : List String → Members → Option Members
  | [], ms => assign value keys ms
  | key :: more, ms => ms.inside key (assignUnder keys value more)

end Members

mutual

def Item.toJson : Item → Json
  | .value value => value
  | .table _ members => .object (membersJson members).entries
  | .tables earlier latest =>
      .array ((tablesJson earlier).reverse ++ [.object (membersJson latest).entries])

def membersJson : List (String × Item) → SortedMap Json
  | [] => ∅
  | (key, item) :: rest => (membersJson rest).insert key item.toJson

def tablesJson : List (List (String × Item)) → List Json
  | [] => []
  | members :: rest => .object (membersJson members).entries :: tablesJson rest

end

mutual

def valueFrom : Nat → List Char → Option (Json × List Char)
  | 0, _ => none
  | fuel + 1, cs =>
      match cs with
      | '"' :: _ | '\'' :: _ => (string? cs).map fun (s, rest) => (.string s, rest)
      | '[' :: rest => do
          let (items, rest) ← itemsFrom fuel rest
          return (.array items, rest)
      | '\x7b' :: rest =>
          match skipBlanks rest with
          | '\x7d' :: rest => some (.object [], rest)
          | rest => do
              let (members, rest) ← membersFrom fuel [] rest
              return (.object (membersJson members).entries, rest)
      | _ => do
          let (w, rest) := word cs
          let value ← wordValue? w
          return (value, rest)

def itemsFrom : Nat → List Char → Option (List Json × List Char)
  | 0, _ => none
  | fuel + 1, cs => do
      match ← skipGaps cs with
      | ']' :: rest => return ([], rest)
      | cs => do
          let (item, rest) ← valueFrom fuel cs
          match ← skipGaps rest with
          | ',' :: rest => do
              let (items, rest) ← itemsFrom fuel rest
              return (item :: items, rest)
          | ']' :: rest => return ([item], rest)
          | _ => none

def membersFrom : Nat → Members → List Char → Option (Members × List Char)
  | 0, _, _ => none
  | fuel + 1, ms, cs => do
      let (keys, rest) ← keys? cs
      match rest with
      | '=' :: rest => do
          let (value, rest) ← valueFrom fuel (skipBlanks rest)
          let ms ← ms.assign value keys
          match skipBlanks rest with
          | ',' :: rest => membersFrom fuel ms rest
          | '\x7d' :: rest => return (ms, rest)
          | _ => none
      | _ => none

end

/-- Reads statements; `header` leads to the table that they are about. -/
def statements : Nat → List String → Members → List Char → Option Members
  | 0, _, _, _ => none
  | fuel + 1, header, ms, cs => do
      match ← skipGaps cs with
      | [] => return ms
      | '[' :: '[' :: rest => do
          let (keys, rest) ← keys? rest
          match rest with
          | ']' :: ']' :: rest => do
              let ms ← ms.openElement keys
              statements fuel keys ms (← endLine rest)
          | _ => none
      | '[' :: rest => do
          let (keys, rest) ← keys? rest
          match rest with
          | ']' :: rest => do
              let ms ← ms.openTable keys
              statements fuel keys ms (← endLine rest)
          | _ => none
      | cs => do
          let (keys, rest) ← keys? cs
          match rest with
          | '=' :: rest => do
              let (value, rest) ← valueFrom (2 * rest.length + 2) (skipBlanks rest)
              let ms ← ms.assignUnder keys value header
              statements fuel header ms (← endLine rest)
          | _ => none

def parse? (s : String) : Option Json := do
  let text := (Text.replaceAll s "\r\n" "\n").toList
  let cs := if text.head? = some '\ufeff' then text.drop 1 else text
  let ms ← statements (cs.length + 1) [] [] cs
  return .object (membersJson ms).entries

end NodeVolumes.Document.Toml
