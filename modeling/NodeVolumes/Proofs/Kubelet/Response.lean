import NodeVolumes.Kubelet.Response
import NodeVolumes.Proofs.Json.Reading

/-!
# The text of a response

The text of a response is that of an object with the fields that are there (`written`).  It is read
back as that response (`decode_encode`), and it is on one line, whatever the texts in it
(`newline_notMem_encode`).
-/

namespace NodeVolumes

open Json

/-! ## Line ends -/

theorem newline_notMem_escapeChar (c : Char) : '\n' ∉ escapeChar c := by
  have hdigit : ∀ n, '\n' ≠ hexDigit n := by
    intro n
    have hdigits : ∀ m, m < 16 → '\n' ≠ Nat.digitChar m := by decide
    exact hdigits (n % 16) (Nat.mod_lt n (by decide))
  unfold escapeChar
  split_ifs <;> simp_all [eq_comm]

theorem newline_notMem_quoteChars (cs : List Char) : '\n' ∉ quoteChars cs := by
  simp [quoteChars, newline_notMem_escapeChar]

theorem newline_notMem_memberChars {name : String} {text : List Char} (h : '\n' ∉ text) :
    '\n' ∉ memberChars name text := by
  simp [memberChars, newline_notMem_quoteChars, h]

theorem newline_notMem_membersFrom {texts : List (List Char)} (h : ∀ t ∈ texts, '\n' ∉ t)
    (first : Bool) : '\n' ∉ membersFrom first texts := by
  induction texts generalizing first with
  | nil => simp [membersFrom]
  | cons t rest ih =>
      have hrest := ih (fun t ht => h t (List.mem_cons_of_mem _ ht)) false
      have hhere := h t List.mem_cons_self
      cases first <;> simp [membersFrom, separator, hhere, hrest]

theorem newline_notMem_objectChars {texts : List (List Char)} (h : ∀ t ∈ texts, '\n' ∉ t) :
    '\n' ∉ objectChars texts := by
  simp [objectChars, newline_notMem_membersFrom h]

theorem newline_notMem_boolChars (value : Bool) : '\n' ∉ boolChars value := by
  cases value <;> decide

namespace Kubelet.Response

def capabilityChars (m : SortedMap Bool) : List Char :=
  objectChars (m.entries.map fun e => memberChars e.1 (boolChars e.2))

def given {α : Type} (name : String) (write : α → List Char)
    (put : Option α → Response → Response) : Option α → List (Member Response)
  | none => []
  | some a => [⟨name, write a, put (some a)⟩]

/-- The members of a response, and what each of them tells. -/
def written (r : Response) : List (Member Response) :=
  [⟨"status", quoteChars r.status.word.toList, fun x => { x with status := r.status }⟩] ++
    given "message" (quoteChars ·.toList) (fun v x => { x with message := v }) r.message ++
    given "device" (quoteChars ·.toList) (fun v x => { x with device := v }) r.device ++
    given "volumeName" (quoteChars ·.toList) (fun v x => { x with volumeName := v }) r.volumeName ++
    given "attached" boolChars (fun v x => { x with attached := v }) r.attached ++
    given "capabilities" capabilityChars (fun v x => { x with capabilities := v }) r.capabilities

def givenChars {α : Type} (name : String) (write : α → List Char) (value : Option α) :
    List (List Char) :=
  (value.map fun a => memberChars name (write a)).toList

theorem map_chars_given {α : Type} (name : String) (write : α → List Char)
    (put : Option α → Response → Response) (value : Option α) :
    (given name write put value).map Member.chars = givenChars name write value := by
  cases value <;> rfl

theorem map_member {α : Type} (name : String) {toJson : α → Json} {write : α → List Char}
    (h : ∀ a, (toJson a).compact.toList = write a) (value : Option α) :
    (member name toJson value).map (fun m => memberChars m.1 m.2.compact.toList) =
      givenChars name write value := by
  cases value with
  | none => rfl
  | some a => simp [member, givenChars, h]

theorem toList_compact_capabilities (m : SortedMap Bool) :
    (Json.object (m.entries.map fun (name, enabled) => (name, .bool enabled))).compact.toList =
      capabilityChars m := by
  rw [toList_compact_object, List.map_map]
  simp only [Function.comp_def, toList_compact_bool]
  rfl

theorem toList_encode (r : Response) :
    r.encode.toList = objectChars (r.written.map Member.chars) := by
  rw [encode, toJson, toList_compact_object, written]
  simp only [List.map_append, map_chars_given, map_member _ toList_compact_string,
    map_member _ toList_compact_bool, map_member _ toList_compact_capabilities, List.map_cons,
    List.map_nil, toList_compact_string, Member.chars]

/-! ## Reading it back -/

theorem names_given {α : Type} (name : String) (write : α → List Char)
    (put : Option α → Response → Response) (value : Option α) :
    ((given name write put value).map Member.name).Sublist [name] := by
  cases value with
  | none => exact List.nil_sublist [name]
  | some a => exact List.Sublist.refl [name]

theorem names_written (r : Response) :
    (r.written.map Member.name).Sublist (record.fields.map Json.Field.name) := by
  simp only [written, List.map_append]
  exact (((((List.Sublist.refl ["status"]).append (names_given ..)).append (names_given ..)).append
    (names_given ..)).append (names_given ..)).append (names_given ..)

theorem reads_given {α : Type} {name : String} {write : α → List Char}
    {put : Option α → Response → Response} {decoder : Decoder α} {inner : Nat}
    (hfield : record.fields.find? (fun f => f.name = name) =
      some (.optional name (.optional decoder) put))
    (htakes : ∀ a, Takes (Decoder.optional decoder inner) (write a) (some a)) (value : Option α) :
    ∀ m ∈ given name write put value, record.Reads inner m := by
  cases value with
  | none => intro m hm; cases hm
  | some a =>
      intro m hm
      cases List.mem_singleton.mp hm
      exact ⟨_, hfield, takes_field (htakes a) _ _ _⟩

theorem takes_optional_text (inner : Nat) (s : String) :
    Takes (Decoder.optional Decoder.text inner) (quoteChars s.toList) (some s) :=
  takes_optional (takes_text inner s) rfl (by decide)

theorem takes_optional_bool (inner : Nat) (value : Bool) :
    Takes (Decoder.optional Decoder.bool inner) (boolChars value) (some value) := by
  have htakes := takes_bool inner value
  cases value
  · exact takes_optional htakes rfl (by decide)
  · exact takes_optional htakes rfl (by decide)

theorem takes_optional_capabilities (inner : Nat) (m : SortedMap Bool) :
    Takes (Decoder.optional (.map .bool) (inner + 1)) (capabilityChars m) (some m) :=
  takes_optional (takes_map (takes_bool inner) m) rfl (by decide)

theorem reads_written (r : Response) (inner : Nat) :
    ∀ m ∈ r.written, record.Reads (inner + 1) m := by
  have hstatus : record.Reads (inner + 1)
      ⟨"status", quoteChars r.status.word.toList, fun x => { x with status := r.status }⟩ := by
    have hfound : Status.table.find? (fun v => v.1 = r.status.word) =
        some (r.status.word, r.status) := by
      cases r.status <;> rfl
    exact ⟨_, rfl, takes_field (takes_variant hfound (inner + 1)) true "status"
      fun v (x : Response) => { x with status := v }⟩
  simp only [written, List.forall_mem_append, List.forall_mem_singleton]
  exact ⟨⟨⟨⟨⟨hstatus, reads_given rfl (takes_optional_text _) _⟩,
    reads_given rfl (takes_optional_text _) _⟩, reads_given rfl (takes_optional_text _) _⟩,
    reads_given rfl (takes_optional_bool _) _⟩, reads_given rfl (takes_optional_capabilities _) _⟩

theorem foldl_written (r : Response) :
    r.written.foldl (fun state m => m.put state) record.initial = r := by
  obtain ⟨status, message, device, volumeName, attached, capabilities⟩ := r
  cases message <;> cases device <;> cases volumeName <;> cases attached <;>
    cases capabilities <;> rfl

theorem name_mem_written {f : Json.Field Response} (hf : f ∈ record.fields)
    (hrequired : f.required = true) (r : Response) : f.name ∈ r.written.map Member.name := by
  have hname : f.name = "status" := by
    revert hf hrequired
    simp only [record, List.mem_cons, List.not_mem_nil, or_false]
    rintro (rfl | rfl | rfl | rfl | rfl | rfl) hrequired
    · rfl
    all_goals cases hrequired
  rw [hname, written]
  simp

/-- A response is read back from its text. -/
theorem decode_encode (r : Response) : decode r.encode = .ok r := by
  apply decode_of_takes
  have htakes := Record.takes_decoder (r.reads_written 125) ((names_written r).nodup (by decide))
    (fun f hf hrequired => name_mem_written hf hrequired r)
  rwa [foldl_written, ← toList_encode] at htakes

theorem newline_notMem_givenChars {α : Type} {write : α → List Char} (h : ∀ a, '\n' ∉ write a)
    (name : String) (value : Option α) : ∀ t ∈ givenChars name write value, '\n' ∉ t := by
  cases value with
  | none => intro t ht; cases ht
  | some a =>
      intro t ht
      rw [List.mem_singleton.mp ht]
      exact newline_notMem_memberChars (h a)

theorem newline_notMem_capabilityChars (m : SortedMap Bool) : '\n' ∉ capabilityChars m := by
  apply newline_notMem_objectChars
  intro t ht
  obtain ⟨e, -, rfl⟩ := List.mem_map.mp ht
  exact newline_notMem_memberChars (newline_notMem_boolChars e.2)

/-- The text of a response is one line. -/
theorem newline_notMem_encode (r : Response) : '\n' ∉ r.encode.toList := by
  have hquoted (s : String) := newline_notMem_quoteChars s.toList
  rw [toList_encode]
  apply newline_notMem_objectChars
  simp only [written, List.map_append, map_chars_given, List.forall_mem_append, List.map_cons,
    List.map_nil, List.forall_mem_singleton]
  exact ⟨⟨⟨⟨⟨newline_notMem_memberChars (hquoted _), newline_notMem_givenChars hquoted _ _⟩,
    newline_notMem_givenChars hquoted _ _⟩, newline_notMem_givenChars hquoted _ _⟩,
    newline_notMem_givenChars newline_notMem_boolChars _ _⟩,
    newline_notMem_givenChars newline_notMem_capabilityChars _ _⟩

end Kubelet.Response

end NodeVolumes
