import Mathlib.Tactic.SplitIfs
import NodeVolumes.Json.Decoder

/-!
# Reading what was written

A reader takes a text for a value if it reads the value off the text wherever that stands and leaves
what follows (`Takes`).  Strings are taken for what was quoted (`takes_quoteChars`), and so are the
values that are made of them: words, maps and records, the latter member by member in any order
(`Record.takes_decoder`).
-/

namespace NodeVolumes

namespace Json

variable {α σ : Type}

/-- From the start of a text, whatever follows it, a reader reads a value and stops at its end. -/
def Takes (reader : Reader α) (text : List Char) (a : α) : Prop :=
  ∀ line column tail, ∃ line' column',
    reader ⟨line, column, text ++ tail⟩ = .ok (a, ⟨line', column', tail⟩)

/-! ## Strings -/

theorem hex4?_control {n : Nat} (h : n < 0x20) :
    hex4? '0' '0' (hexDigit (n / 16)) (hexDigit n) = some n := by
  revert n
  decide

theorem stringFrom_plain {c : Char} (hquote : c ≠ '"') (hbackslash : c ≠ '\\')
    (hcontrol : ¬c.toNat < 0x20) (taken : List Char) (line column : Nat) (rest : List Char) :
    stringFrom taken line column (c :: rest) =
      stringFrom (c :: taken) line (column + c.utf8Size) rest := by
  rw [stringFrom]
  · rw [if_neg hcontrol]
  all_goals simp_all

theorem stringFrom_simple {e c : Char} (hescape : simpleEscape? e = some c) (taken : List Char)
    (line column : Nat) (rest : List Char) :
    stringFrom taken line column ('\\' :: e :: rest) =
      stringFrom (c :: taken) line (column + 2) rest := by
  have hu : e ≠ 'u' := by
    rintro rfl
    contradiction
  rw [stringFrom]
  · rw [hescape]
  all_goals simp_all

theorem stringFrom_control {c : Char} (h : c.toNat < 0x20) (taken : List Char)
    (line column : Nat) (rest : List Char) :
    stringFrom taken line column
        ('\\' :: 'u' :: '0' :: '0' :: hexDigit (c.toNat / 16) :: hexDigit c.toNat :: rest) =
      stringFrom (c :: taken) line (column + 6) rest := by
  have htrailing : isTrailingSurrogate c.toNat = false := by
    simp only [isTrailingSurrogate, Bool.and_eq_false_iff, decide_eq_false_iff_not]
    omega
  have hleading : isLeadingSurrogate c.toNat = false := by
    simp only [isLeadingSurrogate, Bool.and_eq_false_iff, decide_eq_false_iff_not]
    omega
  rw [stringFrom, hex4?_control h]
  simp only [htrailing, hleading, Bool.false_eq_true, if_false, Char.ofNat_toNat]

/-- A character is read back from its escape. -/
theorem stringFrom_escapeChar (c : Char) (taken : List Char) (line column : Nat)
    (rest : List Char) :
    ∃ column', stringFrom taken line column (escapeChar c ++ rest) =
      stringFrom (c :: taken) line column' rest := by
  unfold escapeChar
  split_ifs with hquote hbackslash h8 hC hn hr ht hcontrol
  · exact ⟨_, stringFrom_simple (by rw [hquote]; rfl) taken line column rest⟩
  · exact ⟨_, stringFrom_simple (by rw [hbackslash]; rfl) taken line column rest⟩
  · exact ⟨_, stringFrom_simple (by rw [h8]; rfl) taken line column rest⟩
  · exact ⟨_, stringFrom_simple (by rw [hC]; rfl) taken line column rest⟩
  · exact ⟨_, stringFrom_simple (by rw [hn]; rfl) taken line column rest⟩
  · exact ⟨_, stringFrom_simple (by rw [hr]; rfl) taken line column rest⟩
  · exact ⟨_, stringFrom_simple (by rw [ht]; rfl) taken line column rest⟩
  · exact ⟨_, stringFrom_control hcontrol taken line column rest⟩
  · exact ⟨_, stringFrom_plain hquote hbackslash hcontrol taken line column rest⟩

theorem stringFrom_quoted (cs taken : List Char) (line column : Nat) (tail : List Char) :
    ∃ column', stringFrom taken line column (cs.flatMap escapeChar ++ '"' :: tail) =
      .ok (String.ofList (taken.reverse ++ cs), ⟨line, column', tail⟩) := by
  induction cs generalizing taken column with
  | nil => exact ⟨column + 1, by rw [List.append_nil]; rfl⟩
  | cons c cs ih =>
      obtain ⟨column', hchar⟩ := stringFrom_escapeChar c taken line column
        (cs.flatMap escapeChar ++ '"' :: tail)
      obtain ⟨column'', hrest⟩ := ih (c :: taken) column'
      refine ⟨column'', ?_⟩
      rw [List.flatMap_cons, List.append_assoc, hchar, hrest, List.reverse_cons, List.append_assoc]
      rfl

theorem takes_quoteChars (s : String) : Takes readString (quoteChars s.toList) s := by
  intro line column tail
  obtain ⟨column', hread⟩ := stringFrom_quoted s.toList [] line (column + 1) tail
  refine ⟨line, column', ?_⟩
  have hrest : readString ⟨line, column, quoteChars s.toList ++ tail⟩ =
      stringFrom [] line (column + 1) (s.toList.flatMap escapeChar ++ '"' :: tail) := by
    simp [readString, quoteChars]
  rw [hrest, hread]
  simp

/-! ## Words -/

theorem skipSpace_of_token {ch : Char} (h : Cursor.isSpace ch = false) (line column : Nat)
    (rest : List Char) :
    Cursor.skipSpace ⟨line, column, ch :: rest⟩ = ⟨line, column, ch :: rest⟩ := by
  rw [Cursor.skipSpace, Cursor.skipSpaceFrom, h]
  rfl

theorem takes_text (levels : Nat) (s : String) :
    Takes (Decoder.text levels) (quoteChars s.toList) s :=
  fun line column tail => takes_quoteChars s line column tail

theorem takes_variant {variants : List (String × α)} {found : String × α} {name : String}
    (h : variants.find? (fun v => v.1 = name) = some found) (levels : Nat) :
    Takes (Decoder.variant variants levels) (quoteChars name.toList) found.2 := by
  intro line column tail
  obtain ⟨line', column', hread⟩ := takes_quoteChars name line column tail
  refine ⟨line', column', ?_⟩
  have hstart : Decoder.variant variants levels ⟨line, column, quoteChars name.toList ++ tail⟩ =
      (readString ⟨line, column, quoteChars name.toList ++ tail⟩).bind fun result =>
        Decoder.variantOf variants result.1 result.2 := rfl
  rw [hstart, hread, Except.bind, Decoder.variantOf, h]

def boolChars : Bool → List Char
  | true => ['t', 'r', 'u', 'e']
  | false => ['f', 'a', 'l', 's', 'e']

theorem takes_bool (levels : Nat) (value : Bool) :
    Takes (Decoder.bool levels) (boolChars value) value := by
  intro line column tail
  cases value
  · exact ⟨line, column + 5, rfl⟩
  · exact ⟨line, column + 4, rfl⟩

/-- A value that is there is taken where it may be null. -/
theorem takes_optional {decoder : Decoder α} {levels : Nat} {ch : Char} {text : List Char} {a : α}
    (h : Takes (decoder levels) (ch :: text) a) (hspace : Cursor.isSpace ch = false)
    (hnull : ch ≠ 'n') : Takes (Decoder.optional decoder levels) (ch :: text) (some a) := by
  intro line column tail
  obtain ⟨line', column', hread⟩ := h line column tail
  refine ⟨line', column', ?_⟩
  have hstart : Decoder.optional decoder levels ⟨line, column, ch :: text ++ tail⟩ =
      (decoder levels ⟨line, column, ch :: text ++ tail⟩).bind fun result =>
        .ok (some result.1, result.2) := by
    simp only [Decoder.optional, List.cons_append, skipSpace_of_token hspace]
    split
    · rename_i hhead
      exact absurd (List.cons.inj hhead).1 hnull
    · rfl
  rw [hstart, hread]
  rfl

theorem takes_field {decoder : Decoder α} {levels : Nat} {text : List Char} {a : α}
    (h : Takes (decoder levels) text a) (required : Bool) (name : String) (put : α → σ → σ) :
    Takes (Field.decoder ⟨name, required, fun levels c =>
      (decoder levels c).map fun (a, c) => (put a, c)⟩ levels) text (put a) := by
  intro line column tail
  obtain ⟨line', column', hread⟩ := h line column tail
  refine ⟨line', column', ?_⟩
  change (decoder levels _).map _ = _
  rw [hread]
  rfl

/-! ## Members -/

/-- A member of an object: its name, and the text of its value. -/
def memberChars (name : String) (text : List Char) : List Char :=
  quoteChars name.toList ++ ':' :: text

/-- What stands between a member and the one before it, if there is one. -/
def separator (first : Bool) : List Char :=
  if first then [] else [',']

def membersFrom : Bool → List (List Char) → List Char
  | _, [] => ['\x7d']
  | first, m :: rest => separator first ++ (m ++ membersFrom false rest)

theorem length_le_membersFrom (texts : List (List Char)) :
    texts.length + 1 ≤ (membersFrom false texts).length := by
  induction texts with
  | nil => exact Nat.le_refl 1
  | cons m rest ih =>
      simp only [membersFrom, separator, List.length_append, List.length_cons, List.length_nil,
        Bool.false_eq_true, if_false]
      omega

theorem length_le_membersFrom_first (texts : List (List Char)) :
    texts.length ≤ (membersFrom true texts).length := by
  cases texts with
  | nil => exact Nat.zero_le _
  | cons m rest =>
      have hrest := length_le_membersFrom rest
      simp only [membersFrom, separator, List.length_append, List.length_cons, List.length_nil,
        if_true]
      omega

theorem membersFrom_eq_intercalate (texts : List (List Char)) :
    membersFrom true texts = [','].intercalate texts ++ ['\x7d'] := by
  cases texts with
  | nil => rfl
  | cons m rest =>
      induction rest generalizing m with
      | nil => simp [membersFrom, separator]
      | cons next rest ih =>
          have hnext : membersFrom false (next :: rest) = ',' :: membersFrom true (next :: rest) :=
            rfl
          rw [List.intercalate_cons_cons, List.append_assoc, ← ih next, membersFrom, hnext]
          simp [separator]

def objectChars (texts : List (List Char)) : List Char :=
  '\x7b' :: membersFrom true texts

theorem toList_compactMembers (members : List (String × Json)) :
    (compactMembers members).map String.toList =
      members.map fun m => memberChars m.1 m.2.compact.toList := by
  induction members with
  | nil => rfl
  | cons m rest ih =>
      simp only [compactMembers, List.map_cons, ih, memberChars, quote, String.toList_append,
        String.toList_ofList]
      simp

theorem toList_compact_object (members : List (String × Json)) :
    (Json.object members).compact.toList =
      objectChars (members.map fun m => memberChars m.1 m.2.compact.toList) := by
  simp [compact, objectChars, membersFrom_eq_intercalate, String.toList_intercalate,
    toList_compactMembers]

theorem toList_compact_string (s : String) :
    (Json.string s).compact.toList = quoteChars s.toList :=
  String.toList_ofList

theorem toList_compact_bool (value : Bool) :
    (Json.bool value).compact.toList = boolChars value := by
  cases value <;> rfl

theorem nextMember_end (first : Bool) (line column : Nat) (tail : List Char) :
    nextMember first ⟨line, column, '\x7d' :: tail⟩ = .ok (false, ⟨line, column + 1, tail⟩) :=
  rfl

/-- The way from the end of a member to the value of the next one. -/
theorem exists_toValue (first : Bool) (name : String) (line column : Nat) (rest : List Char) :
    ∃ start line₁ column₁ line₂ column₂,
      nextMember first ⟨line, column, separator first ++ (memberChars name rest)⟩ =
        .ok (true, start) ∧
      readString start = .ok (name, ⟨line₁, column₁, ':' :: rest⟩) ∧
      colon ⟨line₁, column₁, ':' :: rest⟩ = .ok ⟨line₂, column₂, rest⟩ := by
  have hquoted := takes_quoteChars name
  cases first with
  | true =>
      obtain ⟨line₁, column₁, hread⟩ := hquoted line column (':' :: rest)
      exact ⟨⟨line, column, memberChars name rest⟩, line₁, column₁, line₁, column₁ + 1,
        rfl, hread, rfl⟩
  | false =>
      obtain ⟨line₁, column₁, hread⟩ := hquoted line (column + 1) (':' :: rest)
      exact ⟨⟨line, column + 1, memberChars name rest⟩, line₁, column₁, line₁, column₁ + 1,
        rfl, hread, rfl⟩

/-! ## Maps -/

theorem takes_memberLoop {item : Reader α} {write : α → List Char}
    {entries : List (String × α)} (h : ∀ e ∈ entries, Takes item (write e.2) e.2) {fuel : Nat}
    (hfuel : entries.length < fuel) (first : Bool) :
    Takes (memberLoop (fun _ => item) fuel first)
      (membersFrom first (entries.map fun e => memberChars e.1 (write e.2))) entries := by
  induction entries generalizing fuel first with
  | nil =>
      intro line column tail
      cases fuel with
      | zero => exact absurd hfuel (Nat.not_lt_zero 0)
      | succ fuel => exact ⟨line, column + 1, rfl⟩
  | cons e rest ih =>
      intro line column tail
      cases fuel with
      | zero => exact absurd hfuel (Nat.not_lt_zero _)
      | succ fuel =>
          have hrest := ih (fun e he => h e (List.mem_cons_of_mem _ he))
            (Nat.lt_of_succ_lt_succ hfuel) false
          let texts := rest.map fun e => memberChars e.1 (write e.2)
          obtain ⟨start, line₁, column₁, line₂, column₂, hnext, hname, hcolon⟩ :=
            exists_toValue first e.1 line column (write e.2 ++ (membersFrom false texts ++ tail))
          obtain ⟨line₃, column₃, hvalue⟩ := h e List.mem_cons_self line₂ column₂
            (membersFrom false texts ++ tail)
          obtain ⟨line₄, column₄, hmore⟩ := hrest line₃ column₃ tail
          refine ⟨line₄, column₄, ?_⟩
          have htext : membersFrom first (memberChars e.1 (write e.2) :: texts) ++ tail =
              separator first ++
                memberChars e.1 (write e.2 ++ (membersFrom false texts ++ tail)) := by
            simp [membersFrom, memberChars]
          rw [List.map_cons, htext]
          simp only [memberLoop, hnext, bind, Except.bind, hname, hcolon, hvalue]
          rw [hmore]
          rfl

/-- The text of an object is long enough to be the fuel of its members. -/
theorem length_lt_objectChars (texts : List (List Char)) (tail : List Char) :
    texts.length < (objectChars texts ++ tail).length + 1 := by
  have hlength := length_le_membersFrom_first texts
  simp only [objectChars, List.length_cons, List.length_append]
  omega

theorem takes_map {decoder : Decoder α} {inner : Nat} {write : α → List Char}
    (h : ∀ a, Takes (decoder inner) (write a) a) (m : SortedMap α) :
    Takes (Decoder.map decoder (inner + 1))
      (objectChars (m.entries.map fun e => memberChars e.1 (write e.2))) m := by
  intro line column tail
  let texts := m.entries.map fun e => memberChars e.1 (write e.2)
  have hfuel := length_lt_objectChars texts tail
  rw [List.length_map] at hfuel
  obtain ⟨line', column', hread⟩ := takes_memberLoop (fun e _ => h e.2) hfuel true line
    (column + 1) tail
  refine ⟨line', column', ?_⟩
  have hstart : Decoder.map decoder (inner + 1) ⟨line, column, objectChars texts ++ tail⟩ =
      (memberLoop (fun _ => decoder inner) ((objectChars texts ++ tail).length + 1) true
        ⟨line, column + 1, membersFrom true texts ++ tail⟩).bind fun result =>
          .ok (SortedMap.ofList result.1, result.2) := rfl
  rw [hstart, hread, Except.bind, SortedMap.ofList_entries]

/-! ## Records -/

/-- A member of an object that a record is read from: what it does to the record. -/
structure Member (σ : Type) where
  name : String
  text : List Char
  put : σ → σ

def Member.chars (m : Member σ) : List Char :=
  memberChars m.name m.text

namespace Record

/-- The record has a field that reads a member so. -/
def Reads (r : Record σ) (levels : Nat) (m : Member σ) : Prop :=
  ∃ field, r.fields.find? (fun f => f.name = m.name) = some field ∧
    Takes (field.decoder levels) m.text m.put

theorem takes_memberLoop {r : Record σ} {levels : Nat} {members : List (Member σ)}
    (reads : ∀ m ∈ members, r.Reads levels m) (distinct : (members.map Member.name).Nodup)
    {seen : List String} (unseen : ∀ m ∈ members, m.name ∉ seen)
    (complete : ∀ f ∈ r.fields, f.required = true →
      f.name ∈ seen ∨ f.name ∈ members.map Member.name)
    {fuel : Nat} (hfuel : members.length < fuel) (first : Bool) (state : σ)
    (line column : Nat) (tail : List Char) :
    ∃ line' column', r.memberLoop levels fuel first seen state
        ⟨line, column, membersFrom first (members.map Member.chars) ++ tail⟩ =
      .ok (members.foldl (fun state m => m.put state) state, ⟨line', column', tail⟩) := by
  induction members generalizing fuel first seen state line column with
  | nil =>
      cases fuel with
      | zero => exact absurd hfuel (Nat.not_lt_zero 0)
      | succ fuel =>
          refine ⟨line, column + 1, ?_⟩
          have hpresent : r.fields.find? (fun f => f.required && !seen.contains f.name) = none := by
            refine List.find?_eq_none.mpr fun f hf hmissing => ?_
            obtain ⟨hrequired, hunseen⟩ := Bool.and_eq_true_iff.mp hmissing
            rcases complete f hf hrequired with hseen | hnone
            · simp [hseen] at hunseen
            · cases hnone
          simp only [Record.memberLoop, membersFrom, List.map_nil, List.cons_append,
            List.nil_append, nextMember_end, Stop.ofExcept, bind, Except.bind, hpresent,
            List.foldl_nil]
  | cons m rest ih =>
      cases fuel with
      | zero => exact absurd hfuel (Nat.not_lt_zero _)
      | succ fuel =>
          obtain ⟨field, hfield, htakes⟩ := reads m List.mem_cons_self
          obtain ⟨hother, hdistinct⟩ := List.nodup_cons.mp distinct
          let more := membersFrom false (rest.map Member.chars) ++ tail
          obtain ⟨start, line₁, column₁, line₂, column₂, hnext, hname, hcolon⟩ :=
            exists_toValue first m.name line column (m.text ++ more)
          obtain ⟨line₃, column₃, hvalue⟩ := htakes line₂ column₂ more
          have hunseen : seen.contains m.name = false := by
            simpa using unseen m List.mem_cons_self
          -- the name moves from the members to those seen, which keeps both sides of the invariant:
          -- no member still to come was seen, and a required name was seen or is still to come
          have unseen' : ∀ n ∈ rest, n.name ∉ m.name :: seen := by
            intro n hn hseen
            rcases List.mem_cons.mp hseen with hsame | hseen
            · exact hother (hsame ▸ List.mem_map_of_mem hn)
            · exact unseen n (List.mem_cons_of_mem _ hn) hseen
          have complete' : ∀ f ∈ r.fields, f.required = true →
              f.name ∈ m.name :: seen ∨ f.name ∈ rest.map Member.name := by
            intro f hf hrequired
            rcases complete f hf hrequired with hseen | hmember
            · exact .inl (List.mem_cons_of_mem _ hseen)
            · rcases List.mem_cons.mp hmember with hthis | hlater
              · exact .inl (hthis ▸ List.mem_cons_self)
              · exact .inr hlater
          obtain ⟨line₄, column₄, hrest⟩ := ih (fun n hn => reads n (List.mem_cons_of_mem _ hn))
            hdistinct unseen' complete' (Nat.lt_of_succ_lt_succ hfuel) false (m.put state)
            line₃ column₃
          refine ⟨line₄, column₄, ?_⟩
          have htext : membersFrom first ((m :: rest).map Member.chars) ++ tail =
              separator first ++ memberChars m.name (m.text ++ more) := by
            simp [membersFrom, Member.chars, memberChars, more]
          rw [htext]
          simp only [Record.memberLoop, hnext, Stop.ofExcept, bind, Except.bind, hname, hfield,
            hunseen, Bool.false_eq_true, if_false, hcolon, hvalue]
          exact hrest

theorem takes_decoder {r : Record σ} {inner : Nat} {members : List (Member σ)}
    (reads : ∀ m ∈ members, r.Reads inner m) (distinct : (members.map Member.name).Nodup)
    (complete : ∀ f ∈ r.fields, f.required = true → f.name ∈ members.map Member.name) :
    Takes (r.decoder (inner + 1)) (objectChars (members.map Member.chars))
      (members.foldl (fun state m => m.put state) r.initial) := by
  intro line column tail
  have hspace : Cursor.isSpace '\x7b' = false := rfl
  have unseen : ∀ m ∈ members, m.name ∉ ([] : List String) := fun _ _ => List.not_mem_nil
  have hfuel := length_lt_objectChars (members.map Member.chars) tail
  rw [List.length_map] at hfuel
  obtain ⟨line', column', hread⟩ := takes_memberLoop reads distinct unseen
    (fun f hf hrequired => .inr (complete f hf hrequired)) hfuel true r.initial line (column + 1)
    tail
  refine ⟨line', column', ?_⟩
  have hloop : r.memberLoop inner ((objectChars (members.map Member.chars) ++ tail).length + 1) true
      [] r.initial (Cursor.advance ⟨line, column, objectChars (members.map Member.chars) ++ tail⟩) =
        _ := hread
  rw [objectChars, List.cons_append] at hloop ⊢
  simp only [decoder, skipSpace_of_token hspace, hloop]

end Record

/-- A text that a decoder takes as a whole is decoded. -/
theorem decode_of_takes {decoder : Decoder α} {s : String} {a : α}
    (h : Takes (decoder maxLevels) s.toList a) : decode decoder s = .ok a := by
  obtain ⟨line', column', hread⟩ := h 1 0 []
  rw [List.append_nil] at hread
  simp only [decode, readAll, Cursor.ofText, hread, bind, Except.bind]
  rfl

end Json

end NodeVolumes
