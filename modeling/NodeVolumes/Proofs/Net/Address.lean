import NodeVolumes.Net.Address
import NodeVolumes.Proofs.File.Names

/-!
# Addresses and their text

The text of an address of four octets is read back as that address (`Ipv4.parse?_text`), also where
blanks around it are dropped first, since there are none (`Ipv4.trim_text`).
-/

namespace NodeVolumes

namespace Text

theorem not_isBlank_of_isDigit {c : Char} (h : c.isDigit = true) : isBlank c = false := by
  simp only [Char.isDigit, Bool.and_eq_true, decide_eq_true_eq] at h
  obtain ⟨hlow, hhigh⟩ := h
  have hlow : 48 ≤ c.toNat := hlow
  have hhigh : c.toNat ≤ 57 := hhigh
  simp only [isBlank, Bool.or_eq_false_iff, Bool.and_eq_false_iff, decide_eq_false_iff_not,
    beq_eq_false_iff_ne]
  omega

theorem trim_of_none_blank {s : String} (h : ∀ c ∈ s.toList, isBlank c = false) : trim s = s := by
  have hkept : ∀ cs : List Char, (∀ c ∈ cs, isBlank c = false) → cs.dropWhile isBlank = cs := by
    rintro (_ | ⟨c, rest⟩) hcs
    · rfl
    · rw [List.dropWhile_cons_of_neg (by simp [hcs c List.mem_cons_self])]
  rw [trim, trimChars, hkept _ h, hkept _ fun c hc => h c (List.mem_reverse.mp hc),
    List.reverse_reverse, String.ofList_toList]

end Text

namespace Net.Ipv4

open Text

def octetChars (octet : UInt8) : List Char :=
  Nat.toDigits 10 octet.toNat

theorem octet?_octetChars (octet : UInt8) : octet? (octetChars octet) = some octet := by
  have hall : ∀ n < 256, octet? (Nat.toDigits 10 n) = some n.toUInt8 := by decide +kernel
  rw [octetChars, hall _ octet.toNat_lt]
  exact congrArg some UInt8.ofNat_toNat

theorem isDigit_of_mem_octetChars {octet : UInt8} {c : Char} (h : c ∈ octetChars octet) :
    c.isDigit = true :=
  Nat.isDigit_of_mem_toDigits (by decide) (by decide) h

theorem toList_text (x : Ipv4) :
    x.text.toList = octetChars x.a ++ '.' ::
      (octetChars x.b ++ '.' :: (octetChars x.c ++ '.' :: octetChars x.d)) := by
  simp [text, Decimal.digitText, octetChars]

theorem pieces_octetChars (octet : UInt8) :
    pieces (· == '.') (octetChars octet) = [octetChars octet] := by
  refine pieces_of_none fun c hc => beq_eq_false_iff_ne.mpr ?_
  rintro rfl
  exact absurd (isDigit_of_mem_octetChars hc) (by decide)

/-- Reading the text of an address gives the address back. -/
theorem parse?_text (x : Ipv4) : parse? x.text = some x := by
  have hpieces : pieces (· == '.') x.text.toList =
      [octetChars x.a, octetChars x.b, octetChars x.c, octetChars x.d] := by
    have hdot (front rest : List Char) : pieces (· == '.') (front ++ '.' :: rest) =
        pieces (· == '.') front ++ pieces (· == '.') rest := pieces_append_cons rfl front rest
    simp only [toList_text, hdot, pieces_octetChars, List.cons_append, List.nil_append]
  simp [parse?, ofChars?, hpieces, octet?_octetChars]

theorem trim_text (x : Ipv4) : trim x.text = x.text := by
  refine trim_of_none_blank fun c hc => ?_
  have hchar : c.isDigit = true ∨ c = '.' := by
    simp only [toList_text, List.mem_append, List.mem_cons] at hc
    rcases hc with h | rfl | h | rfl | h | rfl | h
    all_goals first
      | exact .inl (isDigit_of_mem_octetChars h)
      | exact .inr rfl
  rcases hchar with hdigit | rfl
  · exact not_isBlank_of_isDigit hdigit
  · rfl

end Net.Ipv4

end NodeVolumes
