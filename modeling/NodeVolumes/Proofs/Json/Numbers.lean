import NodeVolumes.Proofs.Json.Squeezed

/-!
# Numbers read again

A number has no spaces, and ends where the next character cannot be part of one.  So it is read
again wherever it is followed by what stops it (`Stops`), piece by piece: its digits, its fraction
and its exponent are read as they were (`readsPlain_readNumber`).
-/

namespace NodeVolumes.Json

variable {α : Type} {c c' d : Cursor} {ch : Char} {rest : List Char}

/-- No number goes on with what follows. -/
def Stops (tail : List Char) : Prop :=
  ∀ ch ∈ tail.head?, ch.isDigit = false ∧ ch ≠ '.' ∧ ch ≠ 'e' ∧ ch ≠ 'E'

/-- What was read is plain, and is read again wherever it is followed by what stops a number. -/
def ReadsPlain (reader : Reader α) (c : Cursor) (a : α) (c' : Cursor) : Prop :=
  ∃ text, c.rest = text ++ c'.rest ∧ (∀ ch ∈ text, IsPlain ch) ∧
    ∀ (d : Cursor) (tail : List Char), d.rest = text ++ tail → Stops tail →
      ∃ d', reader d = .ok (a, d') ∧ d'.rest = tail

theorem isPlain_of_isDigit (h : ch.isDigit = true) : IsPlain ch := by
  constructor
  · refine Bool.eq_false_iff.mpr fun hspace => ?_
    simp only [Cursor.isSpace, Bool.or_eq_true, beq_iff_eq] at hspace
    rcases hspace with ((rfl | rfl) | rfl) | rfl <;> exact absurd h (by decide)
  · rintro rfl
    exact absurd h (by decide)

theorem isDigit_of_mem_digits (h : ch ∈ c.digits) : ch.isDigit = true :=
  List.all_eq_true.mp List.all_takeWhile ch h

theorem digits_eq_nil (h : c.rest = []) : c.digits = [] := by
  rw [Cursor.digits, h]
  rfl

theorem rest_eq_digits_append (c : Cursor) :
    c.rest = c.digits ++ (c.skipAscii c.digits.length).rest := by
  have hsplit : c.digits ++ c.rest.dropWhile Char.isDigit = c.rest :=
    List.takeWhile_append_dropWhile
  have hdrop : c.rest.drop c.digits.length = c.rest.dropWhile Char.isDigit := by
    have hleft : (c.digits ++ c.rest.dropWhile Char.isDigit).drop c.digits.length =
        c.rest.dropWhile Char.isDigit := List.drop_left
    rwa [hsplit] at hleft
  rw [Cursor.skipAscii, hdrop, hsplit]

theorem digits_of_append {ds tail : List Char} (h : d.rest = ds ++ tail)
    (digits : ∀ x ∈ ds, x.isDigit = true) (stops : ∀ x ∈ tail.head?, x.isDigit = false) :
    d.digits = ds ∧ (d.skipAscii ds.length).rest = tail := by
  constructor
  · rw [Cursor.digits, h, List.takeWhile_append_of_pos digits]
    cases tail with
    | nil => simp
    | cons x more => simp [stops x rfl]
  · rw [Cursor.skipAscii, h]
    exact List.drop_left

section Numbers

variable {negative minus : Bool} {significand : Nat} {start : Int} {n : Number}

theorem floatAt_again (h : floatAt negative significand start c = .ok (n, c')) :
    c' = c ∧ ∀ d, floatAt negative significand start d = .ok (n, d) := by
  unfold floatAt at h ⊢
  split at h
  · rename_i f hf
    cases h
    exact ⟨rfl, fun d => rfl⟩
  · cases h

def exponentValue (negative : Bool) (significand : Nat) (start : Int) (minus : Bool)
    (ds : List Char) : Reader Number := fun c =>
  match exponentOverflow? 0 0 ds with
  | some count =>
      if significand ≠ 0 ∧ ¬minus then
        (c.skipAscii count).fault .numberOutOfRange
      else
        .ok (.float (if negative then -0.0 else 0.0 : Float).toBits, c.skipAscii ds.length)
  | none =>
      let power : Int := digitsValue ds
      floatAt negative significand (if minus then start - power else start + power)
        (c.skipAscii ds.length)

def exponentDigits (negative : Bool) (significand : Nat) (start : Int) (minus : Bool) :
    Reader Number := fun c =>
  match c.rest, c.digits with
  | [], _ => c.fault .endOfValue
  | _ :: _, [] => .error ⟨.invalidNumber, c.nextPosition⟩
  | _, ds => exponentValue negative significand start minus ds c

def afterSign (c : Cursor) : Bool × Cursor :=
  match c.rest with
  | '+' :: _ => (false, c.skipAscii 1)
  | '-' :: _ => (true, c.skipAscii 1)
  | _ => (false, c)

theorem exponentPart_eq (negative : Bool) (significand : Nat) (start : Int) (c : Cursor) :
    exponentPart negative significand start c =
      exponentDigits negative significand start (afterSign (c.skipAscii 1)).1
        (afterSign (c.skipAscii 1)).2 := rfl

theorem exponentValue_again {ds : List Char}
    (h : exponentValue negative significand start minus ds c = .ok (n, c')) :
    c' = c.skipAscii ds.length ∧ ∀ d,
      exponentValue negative significand start minus ds d = .ok (n, d.skipAscii ds.length) := by
  unfold exponentValue at h ⊢
  split at h
  · split at h
    · cases h
    · rename_i hrange
      cases h
      exact ⟨rfl, fun d => if_neg hrange⟩
  · obtain ⟨hc, hagain⟩ := floatAt_again h
    exact ⟨hc, fun d => hagain _⟩

theorem exponentDigits_eq_ok_iff :
    exponentDigits negative significand start minus c = .ok (n, c') ↔
      c.digits ≠ [] ∧
        exponentValue negative significand start minus c.digits c = .ok (n, c') := by
  unfold exponentDigits
  split
  · rename_i hnil
    constructor
    · intro h
      cases h
    · rintro ⟨hdigits, -⟩
      exact absurd (digits_eq_nil hnil) hdigits
  · rename_i hnil
    constructor
    · intro h
      cases h
    · rintro ⟨hdigits, -⟩
      exact absurd hnil hdigits
  · rename_i hcons hnil
    refine (and_iff_right ?_).symm
    intro hdigits
    cases hc : c.rest with
    | nil => exact hcons hc
    | cons head tail => exact hnil head tail hc hdigits

theorem afterSign_plus (head : c.rest = '+' :: rest) : afterSign c = (false, c.skipAscii 1) := by
  unfold afterSign
  rw [head]
  rfl

theorem afterSign_minus (head : c.rest = '-' :: rest) : afterSign c = (true, c.skipAscii 1) := by
  unfold afterSign
  rw [head]
  rfl

theorem afterSign_of_digit (head : c.rest = ch :: rest) (digit : ch.isDigit = true) :
    afterSign c = (false, c) := by
  unfold afterSign
  rw [head]
  split
  · rename_i hplus
    cases hplus
    exact absurd digit (by decide)
  · rename_i hminus
    cases hminus
    exact absurd digit (by decide)
  · rfl

/-- What stands before the digits of an exponent is read again before the same digits. -/
def SignAgain (c : Cursor) : Prop :=
  ∃ sign, c.rest = sign ++ (afterSign c).2.rest ∧ (∀ x ∈ sign, IsPlain x) ∧
    ∀ (d : Cursor) (more : List Char), d.rest = sign ++ ((afterSign c).2.digits ++ more) →
      (afterSign d).1 = (afterSign c).1 ∧ (afterSign d).2.rest = (afterSign c).2.digits ++ more

theorem signAgain_of_sign {sign : Char} (plain : IsPlain sign)
    (signed : ∀ (d : Cursor) rest, d.rest = sign :: rest →
      afterSign d = (minus, d.skipAscii 1))
    (head : c.rest = sign :: rest) : SignAgain c := by
  have hafter := signed c rest head
  refine ⟨[sign], ?_, by simpa using plain, ?_⟩
  · rw [hafter, head]
    simp [Cursor.skipAscii, head]
  · intro d more hd
    rw [hafter] at hd ⊢
    rw [signed d _ hd]
    simp [Cursor.skipAscii, hd]

theorem signAgain_of_digits (h : (afterSign c).2.digits ≠ []) : SignAgain c := by
  cases hrest : c.rest with
  | nil =>
      have hafter : afterSign c = (false, c) := by
        unfold afterSign
        rw [hrest]
      rw [hafter, Cursor.digits, hrest] at h
      exact absurd rfl h
  | cons x rest =>
      by_cases hplus : x = '+'
      · subst hplus
        exact signAgain_of_sign (by decide) (fun _ _ => afterSign_plus) hrest
      by_cases hminus : x = '-'
      · subst hminus
        exact signAgain_of_sign (by decide) (fun _ _ => afterSign_minus) hrest
      have hafter : afterSign c = (false, c) := by
        unfold afterSign
        rw [hrest]
        split <;> simp_all
      rw [hafter] at h
      refine ⟨[], by rw [hafter]; rfl, by simp, ?_⟩
      intro d more hd
      rw [hafter] at hd ⊢
      obtain ⟨y, ys, hdigits⟩ := List.exists_cons_of_ne_nil h
      have hy : y.isDigit = true := isDigit_of_mem_digits (hdigits ▸ List.mem_cons_self)
      have hhead : d.rest = y :: (ys ++ more) := by
        rw [hd, hdigits]
        rfl
      rw [afterSign_of_digit hhead hy]
      exact ⟨rfl, hd⟩

/-- As `ReadsPlain`, from where the digits of a number end. -/
def ReadsAfterDigits (reader : Reader α) (c : Cursor) (a : α) (c' : Cursor) : Prop :=
  ∃ text, c.rest = text ++ c'.rest ∧ (∀ x ∈ text, IsPlain x) ∧
    ∀ tail, Stops tail → (∀ x ∈ (text ++ tail).head?, x.isDigit = false) ∧
      ∀ d : Cursor, d.rest = text ++ tail → ∃ d', reader d = .ok (a, d') ∧ d'.rest = tail

/-- Digits are read again with what comes after them. -/
theorem ReadsAfterDigits.digits {reader : Reader α} {a : α}
    (h : ReadsAfterDigits reader (c.skipAscii c.digits.length) a c') :
    ∃ text, c.rest = c.digits ++ (text ++ c'.rest) ∧ (∀ x ∈ c.digits ++ text, IsPlain x) ∧
      ∀ (d : Cursor) (tail : List Char), d.rest = c.digits ++ (text ++ tail) → Stops tail →
        d.digits = c.digits ∧
          ∃ d', reader (d.skipAscii c.digits.length) = .ok (a, d') ∧ d'.rest = tail := by
  obtain ⟨text, hrest, plain, hread⟩ := h
  refine ⟨text, ?_, ?_, ?_⟩
  · rw [← hrest]
    exact rest_eq_digits_append c
  · intro x hx
    rcases List.mem_append.mp hx with hx | hx
    · exact isPlain_of_isDigit (isDigit_of_mem_digits hx)
    · exact plain x hx
  · intro d tail hd stops
    obtain ⟨hhead, hagain⟩ := hread tail stops
    obtain ⟨hdigits, htail⟩ := digits_of_append hd (fun x => isDigit_of_mem_digits) hhead
    exact ⟨hdigits, hagain _ htail⟩

/-- As `ReadsPlain`, from behind the character at the cursor. -/
def ReadsBehind (reader : Reader α) (c : Cursor) (a : α) (c' : Cursor) : Prop :=
  ∃ text, (c.skipAscii 1).rest = text ++ c'.rest ∧ (∀ x ∈ text, IsPlain x) ∧
    ∀ (d : Cursor) (tail : List Char), (d.skipAscii 1).rest = text ++ tail → Stops tail →
      ∃ d', reader d = .ok (a, d') ∧ d'.rest = tail

/-- A reader that goes on behind a character that is no digit reads from the end of digits. -/
theorem ReadsBehind.afterDigits {reader behind : Reader α} {a : α}
    (h : ReadsBehind behind c a c') (head : c.rest = ch :: rest) (plain : IsPlain ch)
    (notDigit : ch.isDigit = false)
    (goes : ∀ (d : Cursor) rest, d.rest = ch :: rest → reader d = behind d) :
    ReadsAfterDigits reader c a c' := by
  obtain ⟨text, hrest, htext, hagain⟩ := h
  have hbehind : ∀ (d : Cursor) rest, d.rest = ch :: rest → (d.skipAscii 1).rest = rest := by
    intro d rest hd
    rw [Cursor.skipAscii, hd]
    rfl
  refine ⟨ch :: text, ?_, ?_, fun tail stops => ⟨fun x hx => ?_, fun d hd => ?_⟩⟩
  · rw [head, List.cons_append, ← hrest, hbehind c rest head]
  · intro x hx
    rcases List.mem_cons.mp hx with rfl | hx
    · exact plain
    · exact htext x hx
  · cases hx
    exact notDigit
  · rw [goes d _ hd]
    exact hagain d tail (hbehind d _ hd) stops

theorem readsBehind_exponentPart (h : exponentPart negative significand start c = .ok (n, c')) :
    ReadsBehind (exponentPart negative significand start) c n c' := by
  rw [exponentPart_eq, exponentDigits_eq_ok_iff] at h
  obtain ⟨hdigits, hvalue⟩ := h
  obtain ⟨rfl, hagain⟩ := exponentValue_again hvalue
  obtain ⟨sign, hsign, hplain, hafter⟩ := signAgain_of_digits hdigits
  let after := (afterSign (c.skipAscii 1)).2
  refine ⟨sign ++ after.digits, ?_, ?_, fun d tail hd stops => ?_⟩
  · rw [List.append_assoc, ← rest_eq_digits_append after, ← hsign]
  · intro x hx
    rcases List.mem_append.mp hx with hx | hx
    · exact hplain x hx
    · exact isPlain_of_isDigit (isDigit_of_mem_digits hx)
  · rw [List.append_assoc] at hd
    obtain ⟨hminus, hdigits'⟩ := hafter (d.skipAscii 1) tail hd
    obtain ⟨hsame, htail⟩ := digits_of_append hdigits' (fun x => isDigit_of_mem_digits)
      fun x hx => (stops x hx).1
    refine ⟨(afterSign (d.skipAscii 1)).2.skipAscii after.digits.length, ?_, htail⟩
    rw [exponentPart_eq, exponentDigits_eq_ok_iff, hsame, hminus]
    exact ⟨hdigits, hagain _⟩

/-- Reads the exponent that may follow the digits of a number, or else what `other` makes of it. -/
def exponentOr (negative : Bool) (significand : Nat) (start : Int)
    (other : Reader Number) : Reader Number := fun c =>
  match c.rest with
  | 'e' :: _ => exponentPart negative significand start c
  | 'E' :: _ => exponentPart negative significand start c
  | _ => other c

theorem readsAfterDigits_exponentOr {other : Reader Number}
    (again : ∀ c', other c = .ok (n, c') → c' = c ∧ ∀ d, other d = .ok (n, d))
    (h : exponentOr negative significand start other c = .ok (n, c')) :
    ReadsAfterDigits (exponentOr negative significand start other) c n c' := by
  unfold exponentOr at h
  split at h
  · rename_i rest head
    refine (readsBehind_exponentPart h).afterDigits head (by decide) (by decide) ?_
    intro d rest hd
    rw [exponentOr, hd]
    rfl
  · rename_i rest head
    refine (readsBehind_exponentPart h).afterDigits head (by decide) (by decide) ?_
    intro d rest hd
    rw [exponentOr, hd]
    rfl
  · obtain ⟨rfl, hagain⟩ := again c' h
    refine ⟨[], rfl, by simp, fun tail stops => ⟨fun x hx => (stops x hx).1, ?_⟩⟩
    intro d hd
    refine ⟨d, ?_, hd⟩
    unfold exponentOr
    split
    · rename_i head
      rw [List.nil_append, head] at hd
      exact absurd rfl (stops 'e' (hd ▸ rfl)).2.2.1
    · rename_i head
      rw [List.nil_append, head] at hd
      exact absurd rfl (stops 'E' (hd ▸ rfl)).2.2.2
    · exact hagain d

def fractionDigits (negative : Bool) (significand : Nat) (start : Int) (ds : List Char) :
    Reader Number :=
  let (significand, left) := gather significand ds
  let exponent := start - ((ds.length - left.length : Nat) : Int)
  exponentOr negative significand exponent (floatAt negative significand exponent)

theorem fractionPart_eq_ok_iff :
    fractionPart negative significand start c = .ok (n, c') ↔
      (c.skipAscii 1).digits ≠ [] ∧
        fractionDigits negative significand start (c.skipAscii 1).digits
          ((c.skipAscii 1).skipAscii (c.skipAscii 1).digits.length) = .ok (n, c') := by
  unfold fractionPart
  dsimp only
  split
  · rename_i hnil
    constructor
    · intro h
      split at h <;> cases h
    · rintro ⟨hdigits, -⟩
      exact absurd hnil hdigits
  · rename_i hcons
    exact (and_iff_right hcons).symm

theorem readsBehind_fractionPart (h : fractionPart negative significand start c = .ok (n, c')) :
    ReadsBehind (fractionPart negative significand start) c n c' := by
  rw [fractionPart_eq_ok_iff] at h
  obtain ⟨hdigits, h⟩ := h
  obtain ⟨text, hrest, plain, hagain⟩ :=
    (readsAfterDigits_exponentOr (fun _ => floatAt_again) h).digits
  refine ⟨(c.skipAscii 1).digits ++ text, ?_, plain, fun d tail hd stops => ?_⟩
  · rw [hrest, List.append_assoc]
  · rw [List.append_assoc] at hd
    obtain ⟨hsame, d', hread, htail⟩ := hagain (d.skipAscii 1) tail hd stops
    refine ⟨d', ?_, htail⟩
    rw [fractionPart_eq_ok_iff, hsame]
    exact ⟨hdigits, hread⟩

def onlyDigits (negative : Bool) (ds : List Char) : Reader Number := fun c =>
  if (gather 0 ds).2 = [] then .ok (wholeNumber negative (gather 0 ds).1, c)
  else floatAt negative (gather 0 ds).1 (gather 0 ds).2.length c

theorem onlyDigits_again {ds : List Char} (h : onlyDigits negative ds c = .ok (n, c')) :
    c' = c ∧ ∀ d, onlyDigits negative ds d = .ok (n, d) := by
  unfold onlyDigits at h ⊢
  split at h
  · rename_i hleft
    cases h
    exact ⟨rfl, fun d => if_pos hleft⟩
  · rename_i hleft
    obtain ⟨hsame, hagain⟩ := floatAt_again h
    exact ⟨hsame, fun d => (if_neg hleft).trans (hagain d)⟩

def numberDigits (negative : Bool) (ds : List Char) : Reader Number := fun c =>
  match c.rest with
  | '.' :: _ => fractionPart negative (gather 0 ds).1 (gather 0 ds).2.length c
  | _ =>
      exponentOr negative (gather 0 ds).1 (gather 0 ds).2.length (onlyDigits negative ds) c

theorem readsAfterDigits_numberDigits {ds : List Char}
    (h : numberDigits negative ds c = .ok (n, c')) :
    ReadsAfterDigits (numberDigits negative ds) c n c' := by
  unfold numberDigits at h
  split at h
  · rename_i rest head
    refine (readsBehind_fractionPart h).afterDigits head (by decide) (by decide) ?_
    intro d rest hd
    rw [numberDigits, hd]
    rfl
  · rename_i hpoint
    obtain ⟨text, hrest, plain, hagain⟩ :=
      readsAfterDigits_exponentOr (fun _ => onlyDigits_again) h
    refine ⟨text, hrest, plain, fun tail stops => ?_⟩
    obtain ⟨hhead, hread⟩ := hagain tail stops
    refine ⟨hhead, fun d hd => ?_⟩
    have hother : ∀ more, d.rest ≠ '.' :: more := by
      intro more hmore
      rw [hd] at hmore
      cases text with
      | nil =>
          rw [List.nil_append] at hmore
          exact (stops '.' (hmore ▸ rfl)).2.1 rfl
      | cons x text =>
          cases hmore
          exact hpoint _ hrest
    unfold numberDigits
    split
    · rename_i head
      exact absurd head (hother _)
    · exact hread d hd

theorem numberDigits_eq {ds : List Char} :
    numberDigits negative ds c =
      match c.rest with
      | '.' :: _ => fractionPart negative (gather 0 ds).1 (gather 0 ds).2.length c
      | 'e' :: _ => exponentPart negative (gather 0 ds).1 (gather 0 ds).2.length c
      | 'E' :: _ => exponentPart negative (gather 0 ds).1 (gather 0 ds).2.length c
      | _ => onlyDigits negative ds c := by
  unfold numberDigits exponentOr
  split
  · rename_i head
    rw [head]
    rfl
  · split
    · rename_i head
      rw [head]
      rfl
    · rename_i head
      rw [head]
      rfl
    · split <;> simp_all

theorem readNumber_eq_ok_iff :
    readNumber negative c = .ok (n, c') ↔
      (c.digits ≠ [] ∧ ∀ x more, c.digits ≠ '0' :: x :: more) ∧
        numberDigits negative c.digits (c.skipAscii c.digits.length) = .ok (n, c') := by
  rw [numberDigits_eq]
  unfold readNumber
  split
  · rename_i hnil
    simp [Cursor.fault, digits_eq_nil hnil]
  · rename_i hdigits
    simp [hdigits]
  · rename_i hzero _
    constructor
    · intro h
      cases h
    · rintro ⟨⟨-, hdigits⟩, -⟩
      exact absurd hzero (hdigits _ _)
  · rename_i hrest hzero hnil
    refine (and_iff_right ⟨fun hdigits => ?_, hzero⟩).symm
    cases hc : c.rest with
    | nil => exact hrest hc
    | cons head tail => exact hnil head tail hc hdigits

theorem readsPlain_readNumber (h : readNumber negative c = .ok (n, c')) :
    ReadsPlain (readNumber negative) c n c' := by
  rw [readNumber_eq_ok_iff] at h
  obtain ⟨hdigits, h⟩ := h
  obtain ⟨text, hrest, plain, hagain⟩ := (readsAfterDigits_numberDigits h).digits
  refine ⟨c.digits ++ text, ?_, plain, fun d tail hd stops => ?_⟩
  · rw [hrest, List.append_assoc]
  · rw [List.append_assoc] at hd
    obtain ⟨hsame, d', hread, htail⟩ := hagain d tail hd stops
    refine ⟨d', ?_, htail⟩
    rw [readNumber_eq_ok_iff, hsame]
    exact ⟨hdigits, hread⟩

end Numbers

end NodeVolumes.Json
