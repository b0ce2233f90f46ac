import NodeVolumes.Json.Skip

/-!
# Decoding into types

Readers for values of a known type.  A value of another type is a fault at its place, noticed
before anything after it is read.

A record is read from an object by the names of its fields or from an array by their order.
-/

namespace NodeVolumes.Json

/-- What reads an `α` inside of which a number of arrays and objects may stand. -/
abbrev Decoder (α : Type) : Type :=
  Nat → Reader α

/-- The fault of a value at the cursor that is not of the expected type. -/
def wrongType {α : Type} (expected : String) (c : Cursor) : Except Fault α :=
  match c.rest with
  | 'n' :: _ => do
      let c ← letters ['u', 'l', 'l'] c.advance
      c.fault (.invalidType .null expected)
  | 't' :: _ => do
      let c ← letters ['r', 'u', 'e'] c.advance
      c.fault (.invalidType (.boolean true) expected)
  | 'f' :: _ => do
      let c ← letters ['a', 'l', 's', 'e'] c.advance
      c.fault (.invalidType (.boolean false) expected)
  | '"' :: _ => do
      let (s, c) ← readString c
      c.fault (.invalidType (.text s) expected)
  | '-' :: _ => do
      let (n, c) ← readNumber true c.advance
      c.fault (.invalidType (.number n) expected)
  | '[' :: _ => c.fault (.invalidType .sequence expected)
  | '\x7b' :: _ => c.fault (.invalidType .map expected)
  | ch :: _ =>
      if ch.isDigit then do
        let (n, c) ← readNumber false c
        c.fault (.invalidType (.number n) expected)
      else c.faultNext .expectedValue
  | [] => c.faultNext .expectedValue

namespace Decoder

/-- A string; `expected` is how messages call what should have been there. -/
def named (expected : String) : Decoder String := fun _ c =>
  let c := c.skipSpace
  match c.rest with
  | [] => c.faultNext .endOfValue
  | '"' :: _ => readString c
  | _ => wrongType expected c

def text : Decoder String := named "a string"

def bool : Decoder Bool := fun _ c =>
  let c := c.skipSpace
  match c.rest with
  | [] => c.faultNext .endOfValue
  | 't' :: _ => do
      let c ← letters ['r', 'u', 'e'] c.advance
      return (true, c)
  | 'f' :: _ => do
      let c ← letters ['a', 'l', 's', 'e'] c.advance
      return (false, c)
  | _ => wrongType "a boolean" c

def unit : Decoder Unit := fun _ c =>
  let c := c.skipSpace
  match c.rest with
  | [] => c.faultNext .endOfValue
  | 'n' :: _ => do
      let c ← letters ['u', 'l', 'l'] c.advance
      return ((), c)
  | _ => wrongType "unit" c

def optional {α : Type} (decoder : Decoder α) : Decoder (Option α) := fun levels c =>
  let c := c.skipSpace
  match c.rest with
  | 'n' :: _ => do
      let c ← letters ['u', 'l', 'l'] c.advance
      return (none, c)
  | _ => do
      let (a, c) ← decoder levels c
      return (some a, c)

def list {α : Type} (decoder : Decoder α) : Decoder (List α) := fun levels c =>
  let c := c.skipSpace
  match c.rest, levels with
  | [], _ => c.faultNext .endOfValue
  | '[' :: _, 0 => c.faultNext .recursionLimit
  | '[' :: _, inner + 1 => readItems (decoder inner) c
  | _, _ => wrongType "a sequence" c

/-- An object as a map from any names; of values of one name the last one wins. -/
def map {α : Type} (decoder : Decoder α) : Decoder (SortedMap α) := fun levels c =>
  let c := c.skipSpace
  match c.rest, levels with
  | [], _ => c.faultNext .endOfValue
  | '\x7b' :: _, 0 => c.faultNext .recursionLimit
  | '\x7b' :: _, inner + 1 => do
      let (entries, c) ← readMembers (fun _ => decoder inner) c
      return (SortedMap.ofList entries, c)
  | _, _ => wrongType "a map" c

def variantOf {α : Type} (variants : List (String × α)) (name : String) (c : Cursor) :
    Except Fault (α × Cursor) :=
  match variants.find? fun v => v.1 = name with
  | some (_, a) => .ok (a, c)
  | none => c.fault (.unknownVariant name (variants.map Prod.fst))

/-- One of the names of a table, alone or as the only name of an object whose value is null. -/
def variant {α : Type} (variants : List (String × α)) : Decoder α := fun levels c =>
  let c := c.skipSpace
  match c.rest, levels with
  | [], _ => c.faultNext .endOfValue
  | '"' :: _, _ => do
      let (name, c) ← readString c
      variantOf variants name c
  | '\x7b' :: _, 0 => c.faultNext .recursionLimit
  | '\x7b' :: _, inner + 1 => do
      let (name, c) ← named "variant identifier" inner c.advance
      let (a, c) ← variantOf variants name c
      let c ← colon c
      let (_, c) ← unit inner c
      let c := c.skipSpace
      match c.rest with
      | '\x7d' :: _ => return (a, c.advance)
      | [] => c.fault .endOfObject
      | _ => c.fault .expectedValue
  | _, _ => c.faultNext .expectedValue

end Decoder

structure Field (σ : Type) where
  name : String
  required : Bool
  decoder : Decoder (σ → σ)

/-- A record type: its name in messages, the value of a record without fields, its fields. -/
structure Record (σ : Type) where
  name : String
  initial : σ
  fields : List (Field σ)

def Field.mandatory {σ α : Type} (name : String) (decoder : Decoder α) (put : α → σ → σ) :
    Field σ :=
  ⟨name, true, fun levels c => (decoder levels c).map fun (a, c) => (put a, c)⟩

def Field.optional {σ α : Type} (name : String) (decoder : Decoder α) (put : α → σ → σ) :
    Field σ :=
  ⟨name, false, fun levels c => (decoder levels c).map fun (a, c) => (put a, c)⟩

inductive Stop where
  | fault (fault : Fault)
  /-- A name is refused where the cursor stands; its place is that of the object's end, if the
  object ends here. -/
  | refused (cause : Cause) (place : Cursor)

def Stop.ofExcept {α : Type} : Except Fault α → Except Stop α
  | .ok a => .ok a
  | .error f => .error (.fault f)

/-- The fault that is reported: of a refused name, at the end of the object if it ends here. -/
def Stop.toFault : Stop → Fault
  | .fault f => f
  | .refused cause c =>
      let c := c.skipSpace
      match c.rest with
      | '\x7d' :: _ => ⟨cause, c.advance.position⟩
      | _ => ⟨cause, c.position⟩

namespace Record

variable {σ : Type}

/-- Reads the members of an object, each name at most once; unknown names are passed over. -/
def memberLoop (r : Record σ) (levels : Nat) :
    Nat → Bool → List String → σ → Cursor → Except Stop (σ × Cursor)
  | 0, _, _, _, c => Stop.ofExcept (c.fault .endOfObject)
  | fuel + 1, first, seen, state, c => do
      match ← Stop.ofExcept (nextMember first c) with
      | (false, c) =>
          match r.fields.find? fun f => f.required && !seen.contains f.name with
          | some f => .error (.fault ⟨.missingField f.name, c.position⟩)
          | none => .ok (state, c)
      | (true, c) =>
          let (name, c) ← Stop.ofExcept (readString c)
          match r.fields.find? fun f => f.name = name with
          | none =>
              let c ← Stop.ofExcept (colon c)
              let c ← Stop.ofExcept (skipValue c)
              memberLoop r levels fuel false seen state c
          | some field =>
              if seen.contains name then
                .error (.refused (.duplicateField name) c)
              else do
                let c ← Stop.ofExcept (colon c)
                let (put, c) ← Stop.ofExcept (field.decoder levels c)
                memberLoop r levels fuel false (name :: seen) (put state) c

/-- How messages call an array that holds the fields in order. -/
def expectedLength (r : Record σ) : String :=
  "struct " ++ r.name ++ " with " ++ Decimal.digitText r.fields.length ++
    (if r.fields.length = 1 then " element" else " elements")

/-- Moves to the next item, or stands before the bracket that ends the array. -/
def nextItem (first : Bool) (c : Cursor) : Except Fault (Bool × Cursor) :=
  let c := c.skipSpace
  match c.rest with
  | [] => c.faultNext .endOfList
  | ']' :: _ => .ok (false, c)
  | ch :: _ =>
      if first then .ok (true, c)
      else if ch = ',' then
        let c := c.advance.skipSpace
        match c.rest with
        | ']' :: _ => c.faultNext .trailingComma
        | [] => c.faultNext .endOfValue
        | _ => .ok (true, c)
      else c.faultNext .expectedListCommaOrEnd

def endItems (c : Cursor) : Except Fault Cursor :=
  let c := c.skipSpace
  match c.rest with
  | ']' :: _ => .ok c.advance
  | ',' :: _ =>
      let c := c.advance.skipSpace
      match c.rest with
      | ']' :: _ => c.faultNext .trailingComma
      | _ => c.faultNext .trailingCharacters
  | [] => c.faultNext .endOfList
  | _ => c.faultNext .trailingCharacters

/-- Reads the fields in order from the items of an array; those at the end may be left out. -/
def itemLoop (r : Record σ) (levels : Nat) :
    List (Field σ) → Nat → σ → Cursor → Except Fault (σ × Cursor)
  | [], _, state, c => do
      let c ← endItems c
      return (state, c)
  | field :: more, index, state, c => do
      match ← nextItem (index == 0) c with
      | (true, c) =>
          let (put, c) ← field.decoder levels c
          itemLoop r levels more (index + 1) (put state) c
      | (false, c) =>
          if field.required then
            c.advance.fault (.invalidLength index r.expectedLength)
          else
            itemLoop r levels more (index + 1) state c

def decoder (r : Record σ) : Decoder σ := fun levels c =>
  let c := c.skipSpace
  match c.rest, levels with
  | [], _ => c.faultNext .endOfValue
  | '[' :: _, 0 => c.faultNext .recursionLimit
  | '[' :: _, inner + 1 => itemLoop r inner r.fields 0 r.initial c.advance
  | '\x7b' :: _, 0 => c.faultNext .recursionLimit
  | '\x7b' :: _, inner + 1 =>
      match memberLoop r inner (c.rest.length + 1) true [] r.initial c.advance with
      | .ok result => .ok result
      | .error stop => .error stop.toFault
  | _, _ => wrongType ("struct " ++ r.name) c

end Record

def decode {α : Type} (decoder : Decoder α) (s : String) : Except Fault α :=
  readAll (decoder maxLevels) s

end NodeVolumes.Json
