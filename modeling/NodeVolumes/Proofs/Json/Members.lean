import NodeVolumes.Json.Decoder
import NodeVolumes.Proofs.Except

/-!
# Members of objects

A value that was read from an object has its members in the order of their names, and of members
with one name the last.  `members` keeps all that the text holds, in its order; a text holds an
object exactly if it has members, and they tell which (`parse_eq_object_iff`).
-/

namespace NodeVolumes.Json

/-- Reads the members of an object that may have `inner` more levels. -/
def objectAt (inner : Nat) : Reader (List (String × Json)) := fun c =>
  let c := c.skipSpace
  match c.rest with
  | [] => c.faultNext .endOfValue
  | '\x7b' :: _ => readMembers (fun _ => readValue inner) c
  | _ => c.faultNext .expectedValue

def members (s : String) : Except Fault (List (String × Json)) :=
  readAll (objectAt (maxLevels - 1)) s

variable {α : Type} {c c' : Cursor} {inner : Nat} {ms : List (String × Json)}

theorem ofExcept_eq_ok_iff {x : Except Fault α} {a : α} :
    Stop.ofExcept x = .ok a ↔ x = .ok a := by
  cases x <;> simp [Stop.ofExcept]

theorem wrongType_ne_ok (expected : String) (c : Cursor) (result : α × Cursor) :
    wrongType expected c ≠ .ok result := by
  intro h
  unfold wrongType at h
  split at h
  case h_6 => cases h
  case h_7 => cases h
  case h_8 =>
    split at h
    · obtain ⟨found, -, hfault⟩ := exists_of_bind_eq_ok h
      cases hfault
    · cases h
  case h_9 => cases h
  all_goals
    obtain ⟨found, -, hfault⟩ := exists_of_bind_eq_ok h
    cases hfault

theorem isSpace_skipSpaceFrom {line column : Nat} {chars rest : List Char} {ch : Char}
    (h : (Cursor.skipSpaceFrom line column chars).rest = ch :: rest) :
    Cursor.isSpace ch = false := by
  fun_induction Cursor.skipSpaceFrom line column chars with
  | case1 => cases h
  | case2 line column rest hspace ih => exact ih h
  | case3 line column ch rest hspace hline ih => exact ih h
  | case4 line column first more hspace =>
      cases h
      simpa using hspace

theorem skipSpace_of_forall (h : ∀ ch rest, c.rest = ch :: rest → Cursor.isSpace ch = false) :
    c.skipSpace = c := by
  obtain ⟨line, column, chars⟩ := c
  cases chars with
  | nil => rfl
  | cons ch rest =>
      have hspace : Cursor.isSpace ch = false := h ch rest rfl
      rw [Cursor.skipSpace, Cursor.skipSpaceFrom, hspace]
      rfl

theorem skipSpace_skipSpace (c : Cursor) : c.skipSpace.skipSpace = c.skipSpace :=
  skipSpace_of_forall fun _ _ => isSpace_skipSpaceFrom

theorem readAll_eq_ok_iff {reader : Reader α} {s : String} {a : α} :
    readAll reader s = .ok a ↔
      ∃ c, reader (Cursor.ofText s) = .ok (a, c) ∧ c.skipSpace.rest = [] := by
  unfold readAll
  rw [bind_eq_ok_iff]
  constructor
  · rintro ⟨⟨b, c⟩, hread, hend⟩
    dsimp only at hend
    split at hend
    · rename_i hrest
      cases hend
      exact ⟨c, hread, hrest⟩
    · cases hend
  · rintro ⟨c, hread, hend⟩
    refine ⟨(a, c), hread, ?_⟩
    dsimp only
    rw [hend]
    rfl

/-- The loop over members ends at a brace, or reads one member more. -/
theorem memberLoop_succ_eq_ok_iff {member : String → Reader α} {fuel : Nat} {first : Bool}
    {found : List (String × α)} :
    memberLoop member (fuel + 1) first c = .ok (found, c') ↔
      (nextMember first c = .ok (false, c') ∧ found = []) ∨
        ∃ start name c₁ c₂ value c₃ more, nextMember first c = .ok (true, start) ∧
          readString start = .ok (name, c₁) ∧ colon c₁ = .ok c₂ ∧
          member name c₂ = .ok (value, c₃) ∧ memberLoop member fuel false c₃ = .ok (more, c') ∧
          found = (name, value) :: more := by
  rw [memberLoop, bind_eq_ok_iff]
  constructor
  · rintro ⟨⟨more, start⟩, hnext, h⟩
    cases more with
    | false =>
        cases h
        exact .inl ⟨hnext, rfl⟩
    | true =>
        obtain ⟨⟨name, c₁⟩, hname, h⟩ := exists_of_bind_eq_ok h
        obtain ⟨c₂, hcolon, h⟩ := exists_of_bind_eq_ok h
        obtain ⟨⟨value, c₃⟩, hvalue, h⟩ := exists_of_bind_eq_ok h
        obtain ⟨⟨more, c₄⟩, hmore, h⟩ := exists_of_bind_eq_ok h
        cases h
        exact .inr ⟨start, name, c₁, c₂, value, c₃, more, hnext, hname, hcolon, hvalue, hmore, rfl⟩
  · rintro (⟨hnext, rfl⟩ | ⟨start, name, c₁, c₂, value, c₃, more, hnext, hname, hcolon, hvalue,
      hmore, rfl⟩)
    · exact ⟨_, hnext, rfl⟩
    · refine ⟨_, hnext, bind_eq_ok_iff.mpr ⟨_, hname, bind_eq_ok_iff.mpr ⟨_, hcolon, ?_⟩⟩⟩
      exact bind_eq_ok_iff.mpr ⟨_, hvalue, bind_eq_ok_iff.mpr ⟨_, hmore, rfl⟩⟩

theorem objectAt_eq_ok_iff :
    objectAt inner c = .ok (ms, c') ↔
      ∃ rest, c.skipSpace.rest = '\x7b' :: rest ∧
        readMembers (fun _ => readValue inner) c.skipSpace = .ok (ms, c') := by
  unfold objectAt
  dsimp only
  split
  · rename_i hrest
    simp [hrest, Cursor.faultNext]
  · rename_i rest hrest
    simp [hrest]
  · rename_i hother
    constructor
    · intro h
      cases h
    · rintro ⟨rest, hrest, -⟩
      exact absurd hrest (hother rest)

/-- What a value at a token can be, and where it ends. -/
inductive ValueAt : Nat → Cursor → Json → Cursor → Prop
  | null {levels c c' rest} (head : c.rest = 'n' :: rest)
      (read : letters ['u', 'l', 'l'] c.advance = .ok c') : ValueAt levels c .null c'
  | true {levels c c' rest} (head : c.rest = 't' :: rest)
      (read : letters ['r', 'u', 'e'] c.advance = .ok c') : ValueAt levels c (.bool true) c'
  | false {levels c c' rest} (head : c.rest = 'f' :: rest)
      (read : letters ['a', 'l', 's', 'e'] c.advance = .ok c') : ValueAt levels c (.bool false) c'
  | string {levels c c' rest s} (head : c.rest = '"' :: rest)
      (read : readString c = .ok (s, c')) : ValueAt levels c (.string s) c'
  | negative {levels c c' rest n} (head : c.rest = '-' :: rest)
      (read : readNumber true c.advance = .ok (n, c')) : ValueAt levels c (.number n) c'
  | number {levels c c' ch rest n} (head : c.rest = ch :: rest) (digit : ch.isDigit = true)
      (read : readNumber false c = .ok (n, c')) : ValueAt levels c (.number n) c'
  | array {inner c c' rest values} (head : c.rest = '[' :: rest)
      (read : readItems (readValue inner) c = .ok (values, c')) :
      ValueAt (inner + 1) c (.array values) c'
  | object {inner c c' rest ms} (head : c.rest = '\x7b' :: rest)
      (read : readMembers (fun _ => readValue inner) c = .ok (ms, c')) :
      ValueAt (inner + 1) c (.object (SortedMap.ofList ms).entries) c'

theorem readValue_eq_ok_iff {levels : Nat} {v : Json} :
    readValue levels c = .ok (v, c') ↔ ValueAt levels c.skipSpace v c' := by
  constructor
  · intro h
    unfold readValue at h
    dsimp only at h
    split at h
    · cases h
    · rename_i rest hrest
      obtain ⟨c₁, hread, hv⟩ := exists_of_bind_eq_ok h
      cases hv
      exact .null hrest hread
    · rename_i rest hrest
      obtain ⟨c₁, hread, hv⟩ := exists_of_bind_eq_ok h
      cases hv
      exact .true hrest hread
    · rename_i rest hrest
      obtain ⟨c₁, hread, hv⟩ := exists_of_bind_eq_ok h
      cases hv
      exact .false hrest hread
    · rename_i rest hrest
      obtain ⟨⟨s, c₁⟩, hread, hv⟩ := exists_of_bind_eq_ok h
      cases hv
      exact .string hrest hread
    · rename_i rest hrest
      obtain ⟨⟨n, c₁⟩, hread, hv⟩ := exists_of_bind_eq_ok h
      cases hv
      exact .negative hrest hread
    · rename_i rest hrest
      cases levels with
      | zero => cases h
      | succ inner =>
          obtain ⟨⟨values, c₁⟩, hread, hv⟩ := exists_of_bind_eq_ok h
          cases hv
          exact .array hrest hread
    · rename_i rest hrest
      cases levels with
      | zero => cases h
      | succ inner =>
          obtain ⟨⟨ms, c₁⟩, hread, hv⟩ := exists_of_bind_eq_ok h
          cases hv
          exact .object hrest hread
    · rename_i ch rest _ _ _ _ _ _ _ hrest
      split at h
      · rename_i hdigit
        obtain ⟨⟨n, c₁⟩, hread, hv⟩ := exists_of_bind_eq_ok h
        cases hv
        exact .number hrest hdigit hread
      · cases h
  · intro h
    unfold readValue
    dsimp only
    generalize hc : c.skipSpace = d at h ⊢
    cases h with
    | null head read =>
        rw [head]
        exact bind_eq_ok_iff.mpr ⟨_, read, rfl⟩
    | true head read =>
        rw [head]
        exact bind_eq_ok_iff.mpr ⟨_, read, rfl⟩
    | false head read =>
        rw [head]
        exact bind_eq_ok_iff.mpr ⟨_, read, rfl⟩
    | string head read =>
        rw [head]
        exact bind_eq_ok_iff.mpr ⟨_, read, rfl⟩
    | negative head read =>
        rw [head]
        exact bind_eq_ok_iff.mpr ⟨_, read, rfl⟩
    | array head read =>
        rw [head]
        exact bind_eq_ok_iff.mpr ⟨_, read, rfl⟩
    | object head read =>
        rw [head]
        exact bind_eq_ok_iff.mpr ⟨_, read, rfl⟩
    | number head digit read =>
        rw [head]
        split
        case h_1 heq => cases heq
        case h_9 ch _ _ _ _ _ _ _ _ heq =>
          cases heq
          rw [if_pos digit]
          exact bind_eq_ok_iff.mpr ⟨_, read, rfl⟩
        all_goals
          rename_i heq
          cases heq
          exact absurd digit (by decide)

/-- Nothing but an object is read as one. -/
theorem readValue_eq_object_iff {entries : List (String × Json)} :
    readValue (inner + 1) c = .ok (.object entries, c') ↔
      ∃ ms, objectAt inner c = .ok (ms, c') ∧ entries = (SortedMap.ofList ms).entries := by
  simp only [objectAt_eq_ok_iff, readValue_eq_ok_iff]
  constructor
  · intro h
    cases h with
    | object head read => exact ⟨_, ⟨_, head, read⟩, rfl⟩
  · rintro ⟨ms, ⟨rest, head, read⟩, rfl⟩
    exact .object head read

theorem parse_eq_object_iff {s : String} {entries : List (String × Json)} :
    parse s = .ok (.object entries) ↔
      ∃ ms, members s = .ok ms ∧ entries = (SortedMap.ofList ms).entries := by
  simp only [parse, members, readAll_eq_ok_iff]
  constructor
  · rintro ⟨c, hread, hend⟩
    obtain ⟨ms, hms, hentries⟩ := readValue_eq_object_iff.mp hread
    exact ⟨ms, ⟨c, hms, hend⟩, hentries⟩
  · rintro ⟨ms, ⟨c, hms, hend⟩, hentries⟩
    exact ⟨c, readValue_eq_object_iff.mpr ⟨ms, hms, hentries⟩, hend⟩

end NodeVolumes.Json
