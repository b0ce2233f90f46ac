import NodeVolumes.Http.Percent
import NodeVolumes.Proofs.Text.Pieces
import NodeVolumes.Proofs.Text.Utf8

/-!
# Percent notation read back

A text in percent notation is read as that text, whatever is escaped besides the percent sign
(`decode_encode`).  The names and values of a form are read as they were written
(`formPairs_formPair`), one pair more for each that is added (`formPairs_append`): no name or value
ends its pair or begins another.
-/

namespace NodeVolumes.Http.Percent

variable {set : Char → Bool}

/-! ## Bytes -/

theorem hexValue?_upperHex (n : Nat) : Json.hexValue? (upperHex n) = some (n % 16) := by
  have hdigit : ∀ m < 16, Json.hexValue? (Nat.digitChar m).toUpper = some m := by decide
  exact hdigit (n % 16) (Nat.mod_lt n (by decide))

theorem decodeBytes_escapeByte (b : UInt8) (rest : List Char) :
    decodeBytes (escapeByte b ++ rest) = b :: decodeBytes rest := by
  have hvalue : b.toNat / 16 % 16 * 16 + b.toNat % 16 = b.toNat := by
    have hlt := b.toNat_lt
    omega
  rw [escapeByte, List.cons_append, List.cons_append, List.singleton_append, decodeBytes,
    hexValue?_upperHex, hexValue?_upperHex]
  dsimp only
  rw [hvalue, Nat.toUInt8_eq, UInt8.ofNat_toNat]

theorem decodeBytes_flatMap_escapeByte (bytes : List UInt8) (rest : List Char) :
    decodeBytes (bytes.flatMap escapeByte ++ rest) = bytes ++ decodeBytes rest := by
  induction bytes with
  | nil => rfl
  | cons b more ih =>
      rw [List.flatMap_cons, List.append_assoc, decodeBytes_escapeByte, ih, List.cons_append]

theorem decodeBytes_cons {c : Char} (h : c ≠ '%') (rest : List Char) :
    decodeBytes (c :: rest) = String.utf8EncodeChar c ++ decodeBytes rest := by
  rw [decodeBytes]
  rintro a b rest' rfl
  exact fun _ => h rfl

/-! ## Texts -/

theorem decodeBytes_encodeChar (hpercent : set '%' = true) (c : Char) (rest : List Char) :
    decodeBytes (encodeChar set c ++ rest) = String.utf8EncodeChar c ++ decodeBytes rest := by
  unfold encodeChar
  split
  · exact decodeBytes_flatMap_escapeByte _ rest
  · rename_i hplain
    refine decodeBytes_cons ?_ rest
    rintro rfl
    simp [hpercent] at hplain

theorem decodeBytes_encode (hpercent : set '%' = true) (cs : List Char) :
    decodeBytes (encode set cs) = cs.flatMap String.utf8EncodeChar := by
  induction cs with
  | nil => rfl
  | cons c rest ih =>
      rw [encode_cons, decodeBytes_encodeChar hpercent, ih, List.flatMap_cons]

/-- A text is read back from its percent notation, if percent signs are escaped. -/
theorem decode_encode (hpercent : set '%' = true) (cs : List Char) :
    decode (encode set cs) = String.ofList cs := by
  have hbytes : cs.flatMap String.utf8EncodeChar = Text.utf8Bytes (String.ofList cs) := by
    rw [Text.utf8Bytes, String.toList_ofList]
  rw [decode, decodeBytes_encode hpercent, hbytes, Text.decodeLossy_utf8Bytes]

@[simp] theorem decode_nil : decode [] = "" :=
  @decode_encode (fun _ => true) rfl []

/-! ## Forms -/

/-- The pairs of a form: what stands before and behind the first equals sign of each piece that is
not empty. -/
def formPairs (query : String) : List (String × String) :=
  ((Text.pieces (· == '&') query.toList).filter (· ≠ [])).map fun piece =>
    (formDecode (piece.takeWhile (· != '=')), formDecode ((piece.dropWhile (· != '=')).drop 1))

/-- What a character of a form stands for before its percent notation is resolved. -/
def formChar (c : Char) : Char :=
  if c = '+' then ' ' else c

/-- A byte that stands for itself is one character, which is none of those with a meaning. -/
theorem formByte_plain : ∀ n < 256, isPlainInForm (UInt8.ofNat n) = true →
    Char.ofNat n ∉ ['+', '%'] ∧ String.utf8EncodeChar (Char.ofNat n) = [UInt8.ofNat n] := by
  decide +kernel

theorem notMem_formByte : ∀ n < 256,
    '&' ∉ formByte (UInt8.ofNat n) ∧ '=' ∉ formByte (UInt8.ofNat n) := by
  decide +kernel

theorem map_formChar_escapeByte (b : UInt8) : (escapeByte b).map formChar = escapeByte b := by
  have hdigit : ∀ m < 16, (Nat.digitChar m).toUpper ≠ '+' := by decide
  have hupper (n : Nat) : formChar (upperHex n) = upperHex n :=
    if_neg (hdigit (n % 16) (Nat.mod_lt n (by decide)))
  rw [escapeByte, List.map_cons, List.map_cons, List.map_singleton, hupper, hupper]
  rfl

theorem decodeBytes_formByte (b : UInt8) (rest : List Char) :
    decodeBytes ((formByte b).map formChar ++ rest) = b :: decodeBytes rest := by
  unfold formByte
  split
  · rename_i hplain
    rw [← UInt8.ofNat_toNat (x := b)] at hplain
    obtain ⟨hmeaning, hbytes⟩ := formByte_plain b.toNat b.toNat_lt hplain
    simp only [List.mem_cons, List.not_mem_nil, or_false, not_or] at hmeaning
    rw [List.map_singleton, List.singleton_append, formChar, if_neg hmeaning.1,
      decodeBytes_cons hmeaning.2, hbytes, UInt8.ofNat_toNat, List.singleton_append]
  split
  · rename_i hspace
    rw [hspace]
    exact decodeBytes_cons (by decide) rest
  · rw [map_formChar_escapeByte, decodeBytes_escapeByte]

/-- A text is read back as it was written into a form. -/
theorem formDecode_formEncode (s : String) : formDecode (formEncode s) = s := by
  have hbytes (bytes : List UInt8) :
      decodeBytes ((bytes.flatMap formByte).map formChar) = bytes := by
    induction bytes with
    | nil => rfl
    | cons b rest ih => rw [List.flatMap_cons, List.map_append, decodeBytes_formByte, ih]
  have hdecode : formDecode (formEncode s) =
      Text.decodeLossy (decodeBytes (((Text.utf8Bytes s).flatMap formByte).map formChar)) := rfl
  rw [hdecode, hbytes, Text.decodeLossy_utf8Bytes]

theorem notMem_formEncode (s : String) : '&' ∉ formEncode s ∧ '=' ∉ formEncode s := by
  have hbyte (b : UInt8) : '&' ∉ formByte b ∧ '=' ∉ formByte b := by
    rw [← UInt8.ofNat_toNat (x := b)]
    exact notMem_formByte b.toNat b.toNat_lt
  simp only [formEncode, List.mem_flatMap, not_exists, not_and]
  exact ⟨fun b _ => (hbyte b).1, fun b _ => (hbyte b).2⟩

/-! ## Pairs -/

/-- A pair that was written is one piece, cut where its name ends. -/
theorem formPairs_formPair (name value : String) :
    formPairs (String.ofList (formPair name value)) = [(name, value)] := by
  have hname : ∀ c ∈ formEncode name, (c != '=') = true := fun c hc => by
    simpa using fun h : c = '=' => (notMem_formEncode name).2 (h ▸ hc)
  have hsep : ∀ c ∈ formPair name value, (c == '&') = false := by
    intro c hc
    have hne : c ≠ '&' := by
      rintro rfl
      rcases List.mem_append.mp hc with hc | hc
      · exact (notMem_formEncode name).1 hc
      · rcases List.mem_cons.mp hc with heq | hc
        · cases heq
        · exact (notMem_formEncode value).1 hc
    simpa using hne
  have hnonempty : formPair name value ≠ [] := by simp [formPair]
  rw [formPairs, String.toList_ofList, Text.pieces_of_none hsep,
    List.filter_cons_of_pos (by simpa using hnonempty), List.filter_nil, List.map_singleton,
    formPair, List.takeWhile_append_of_pos hname, List.dropWhile_append_of_pos hname,
    List.takeWhile_cons_of_neg (by simp), List.dropWhile_cons_of_neg (by simp), List.append_nil,
    List.drop_succ_cons, List.drop_zero, formDecode_formEncode, formDecode_formEncode]

theorem formPairs_append (query added : String) :
    formPairs (query ++ "&" ++ added) = formPairs query ++ formPairs added := by
  have hchars : (query ++ "&" ++ added).toList = query.toList ++ '&' :: added.toList := by simp
  have hpieces : Text.pieces (· == '&') (query.toList ++ '&' :: added.toList) =
      Text.pieces (· == '&') query.toList ++ Text.pieces (· == '&') added.toList :=
    Text.pieces_append_cons rfl _ _
  simp only [formPairs, hchars, hpieces, List.filter_append, List.map_append]

end NodeVolumes.Http.Percent
