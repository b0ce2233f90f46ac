import NodeVolumes.Proofs.Text.Replacement
import NodeVolumes.Rest.Certificates
import NodeVolumes.Text.Utf8

/-!
# Repaired bundles

The three replacements that repair a bundle come to one change of single characters
(`toList_repaired`): what a character becomes is told by that character and by whether the word of a
mark follows it (`Restores`).  No change moves a mark, so a second repair finds nothing to do, and a
bundle whose line ends were flattened into spaces is restored.
-/

namespace NodeVolumes.Rest

open Text

def markChars : List Char := certificateWord.toList

/-- The word of a mark follows a place. -/
def MarkFollows (cs : List Char) (i : Nat) : Prop :=
  markChars <+: cs.drop (i + 1)

/--
What repairing does, place by place: a space becomes a line end unless a mark's word follows it, a
dot becomes a space if one does, and every other character is kept.
-/
structure Restores (before after : List Char) : Prop where
  length : after.length = before.length
  lineEnd : ∀ i, before[i]? = some ' ' → ¬MarkFollows before i → after[i]? = some '\n'
  mark : ∀ i, before[i]? = some '.' → MarkFollows before i → after[i]? = some ' '
  kept : ∀ i c, before[i]? = some c → (c = ' ' → MarkFollows before i) →
    (c = '.' → ¬MarkFollows before i) → after[i]? = some c

/-- A text as bundles are: spaces stand in marks only, and dots and line ends in front of none. -/
structure IsBundle (text : String) : Prop where
  space : ∀ i, text.toList[i]? = some ' ' → MarkFollows text.toList i
  dot : ∀ i, text.toList[i]? = some '.' → ¬MarkFollows text.toList i
  lineEnd : ∀ i, text.toList[i]? = some '\n' → ¬MarkFollows text.toList i

theorem isBundle_iff {text : String} :
    IsBundle text ↔ ∀ i < text.toList.length,
      (text.toList[i]? = some ' ' → MarkFollows text.toList i) ∧
        (text.toList[i]? = some '.' → ¬MarkFollows text.toList i) ∧
          (text.toList[i]? = some '\n' → ¬MarkFollows text.toList i) := by
  constructor
  · exact fun h i _ => ⟨h.space i, h.dot i, h.lineEnd i⟩
  · intro h
    have hbound {i : Nat} {c : Char} (hi : text.toList[i]? = some c) : i < text.toList.length :=
      (List.getElem?_eq_some_iff.mp hi).1
    exact
      { space := fun i hi => (h i (hbound hi)).1 hi
        dot := fun i hi => (h i (hbound hi)).2.1 hi
        lineEnd := fun i hi => (h i (hbound hi)).2.2 hi }

instance (cs : List Char) (i : Nat) : Decidable (MarkFollows cs i) :=
  inferInstanceAs (Decidable (_ <+: _))

instance (text : String) : Decidable (IsBundle text) :=
  decidable_of_iff _ isBundle_iff.symm

def flatChar (c : Char) : Char :=
  if c = '\n' then ' ' else c

def flattened (text : String) : String :=
  String.ofList (text.toList.map flatChar)

/-! ## One change of characters -/

/-- What a character becomes in front of what follows it. -/
def restoredChar (c : Char) (rest : List Char) : Char :=
  if markChars <+: rest then if c = '.' then ' ' else c
  else if c = ' ' then '\n' else c

section Char

variable {c : Char} {rest : List Char}

theorem restoredChar_space (h : ¬markChars <+: rest) : restoredChar ' ' rest = '\n' := by
  rw [restoredChar, if_neg h, if_pos rfl]

theorem restoredChar_dot (h : markChars <+: rest) : restoredChar '.' rest = ' ' := by
  rw [restoredChar, if_pos h, if_pos rfl]

theorem restoredChar_kept (hspace : c = ' ' → markChars <+: rest)
    (hdot : c = '.' → ¬markChars <+: rest) : restoredChar c rest = c := by
  rw [restoredChar]
  by_cases hmark : markChars <+: rest
  · rw [if_pos hmark, if_neg fun hc => hdot hc hmark]
  · rw [if_neg hmark, if_neg fun hc => hmark (hspace hc)]

/-- A character is kept, or it is a space or a dot that becomes what stays where it is. -/
theorem restoredChar_cases (c : Char) (rest : List Char) :
    (restoredChar c rest = c ∧ (c = ' ' → markChars <+: rest) ∧ (c = '.' → ¬markChars <+: rest)) ∨
      (c = ' ' ∧ ¬markChars <+: rest ∧ restoredChar c rest = '\n') ∨
      (c = '.' ∧ markChars <+: rest ∧ restoredChar c rest = ' ') := by
  by_cases hspace : c = ' ' → markChars <+: rest
  · by_cases hdot : c = '.' → ¬markChars <+: rest
    · exact .inl ⟨restoredChar_kept hspace hdot, hspace, hdot⟩
    · obtain ⟨rfl, hmark⟩ := Classical.not_imp.mp hdot
      have hmark := Classical.not_not.mp hmark
      exact .inr (.inr ⟨rfl, hmark, restoredChar_dot hmark⟩)
  · obtain ⟨rfl, hmark⟩ := Classical.not_imp.mp hspace
    exact .inr (.inl ⟨rfl, hmark, restoredChar_space hmark⟩)

end Char

theorem spares_restoredChar : Spares restoredChar markChars := by
  intro c rest
  rcases restoredChar_cases c rest with ⟨hkept, -⟩ | ⟨rfl, -, hline⟩ | ⟨rfl, -, hspace⟩
  · exact .inl hkept
  · exact .inr ⟨by decide, hline ▸ by decide⟩
  · exact .inr ⟨by decide, hspace ▸ by decide⟩

theorem toList_repaired (text : String) :
    (repaired text).toList = mapBefore restoredChar text.toList := by
  have hspace : ' ' ∉ markChars := by decide
  have hdot : '.' ∉ markChars := by decide
  have hline : '\n' ∉ markChars := by decide
  have hsteps : (repaired text).toList =
      mapBefore (swapBefore '.' ' ' markChars) (mapBefore (swapBefore ' ' '\n' [])
        (mapBefore (swapBefore ' ' '.' markChars) text.toList)) := by
    simp only [repaired, replaceAll, String.toList_ofList]
    rw [← replaceFrom_mark hspace, ← replaceFrom_mark (List.not_mem_nil), ← replaceFrom_mark hdot]
    rfl
  rw [hsteps, mapBefore_mapBefore, mapBefore_mapBefore]
  refine mapBefore_congr fun c rest => ?_
  have hrest : markChars <+: mapBefore (swapBefore ' ' '\n' [])
      (mapBefore (swapBefore ' ' '.' markChars) rest) ↔ markChars <+: rest := by
    rw [mark_prefix_mapBefore_iff (spares_swapBefore hspace hline),
      mark_prefix_mapBefore_iff (spares_swapBefore hspace hdot)]
  by_cases hmark : markChars <+: rest
  · by_cases hc : c = ' '
    · simp [swapBefore, restoredChar, hrest, hmark, hc]
    · simp [swapBefore, restoredChar, hrest, hmark, hc]
  · by_cases hc : c = ' '
    · simp [swapBefore, restoredChar, hrest, hmark, hc]
    · simp [swapBefore, restoredChar, hrest, hmark, hc]

theorem restoredChar_restoredChar (c : Char) (rest : List Char) :
    restoredChar (restoredChar c rest) (mapBefore restoredChar rest) = restoredChar c rest := by
  have hrest := mark_prefix_mapBefore_iff spares_restoredChar rest
  rcases restoredChar_cases c rest with ⟨hkept, hspace, hdot⟩ | ⟨-, -, hline⟩ | ⟨-, hmark, hspace⟩
  · rw [hkept]
    exact restoredChar_kept (fun hc => hrest.mpr (hspace hc)) fun hc h => hdot hc (hrest.mp h)
  · rw [hline]
    exact restoredChar_kept (by simp) (by simp)
  · rw [hspace]
    exact restoredChar_kept (fun _ => hrest.mpr hmark) (by simp)

theorem restores_repaired (text : String) : Restores text.toList (repaired text).toList := by
  have hplace {i : Nat} {c : Char} (hi : text.toList[i]? = some c) : (repaired text).toList[i]? =
      some (restoredChar c (text.toList.drop (i + 1))) := by
    rw [toList_repaired, getElem?_mapBefore, hi, Option.map_some]
  constructor
  · rw [toList_repaired, length_mapBefore]
  · intro i hi hmark
    rw [hplace hi, restoredChar_space hmark]
  · intro i hi hmark
    rw [hplace hi, restoredChar_dot hmark]
  · intro i c hi hspace hdot
    rw [hplace hi, restoredChar_kept hspace hdot]

theorem repaired_repaired (text : String) : repaired (repaired text) = repaired text := by
  apply String.toList_injective
  rw [toList_repaired, toList_repaired, mapBefore_mapBefore]
  exact mapBefore_congr restoredChar_restoredChar

/-- Spaces, dots and line ends are one byte each. -/
theorem utf8Length_repaired (text : String) :
    utf8Length (repaired text).toList = utf8Length text.toList := by
  have hsize (c : Char) (rest : List Char) : (restoredChar c rest).utf8Size = c.utf8Size := by
    rcases restoredChar_cases c rest with ⟨hkept, -⟩ | ⟨rfl, -, hline⟩ | ⟨rfl, -, hspace⟩
    · rw [hkept]
    · rw [hline]
      rfl
    · rw [hspace]
      rfl
  rw [toList_repaired]
  induction text.toList with
  | nil => rfl
  | cons c rest ih => rw [mapBefore, utf8Length, utf8Length, hsize, ih]

/-! ## Bundles -/

theorem IsBundle.restoredChar_eq {text : String} (h : IsBundle text) {i : Nat} {c : Char}
    (hi : text.toList[i]? = some c) : restoredChar c (text.toList.drop (i + 1)) = c :=
  restoredChar_kept (fun hc => h.space i (hc ▸ hi)) fun hc => h.dot i (hc ▸ hi)

theorem IsBundle.repaired_eq {text : String} (h : IsBundle text) : repaired text = text := by
  apply String.toList_injective
  rw [toList_repaired]
  exact mapBefore_eq_self fun _ _ => h.restoredChar_eq

theorem spares_flatChar : Spares (fun c _ => flatChar c) markChars := by
  intro c rest
  by_cases hc : c = '\n'
  · subst hc
    have hflat : flatChar '\n' ∉ markChars := by decide
    exact .inr ⟨by decide, hflat⟩
  · exact .inl (if_neg hc)

theorem toList_flattened (text : String) :
    (flattened text).toList = mapBefore (fun c _ => flatChar c) text.toList := by
  rw [flattened, String.toList_ofList]
  induction text.toList with
  | nil => rfl
  | cons c rest ih => rw [List.map_cons, ih, mapBefore]

/-- Line ends that were flattened are restored, for none of them became part of a mark. -/
theorem IsBundle.repaired_flattened {text : String} (h : IsBundle text) :
    repaired (flattened text) = text := by
  apply String.toList_injective
  rw [toList_repaired, toList_flattened, mapBefore_mapBefore]
  refine mapBefore_eq_self fun i c hi => ?_
  have hmark := mark_prefix_mapBefore_iff spares_flatChar (text.toList.drop (i + 1))
  by_cases hline : c = '\n'
  · subst hline
    exact restoredChar_space fun hfollows => h.lineEnd i hi (hmark.mp hfollows)
  · have hflat : flatChar c = c := if_neg hline
    simp only [hflat, restoredChar, hmark]
    exact h.restoredChar_eq hi

/--
Repairing changes single characters in their places: no character and no byte comes or goes, and
what has been repaired stays as it is.  A bundle stays as it is, and comes back from its text with
spaces for its line ends.
-/
theorem repaired_restores (text : String) :
    Restores text.toList (repaired text).toList ∧
      utf8Length (repaired text).toList = utf8Length text.toList ∧
      repaired (repaired text) = repaired text ∧
      (IsBundle text → repaired text = text ∧ repaired (flattened text) = text) :=
  ⟨restores_repaired text, utf8Length_repaired text, repaired_repaired text,
    fun h => ⟨h.repaired_eq, h.repaired_flattened⟩⟩

/-- A small bundle stays as it is and comes back from its text on one line. -/
theorem repaired_restores_small :
    let bundle := "-----BEGIN CERTIFICATE-----\nQUJD\n-----END CERTIFICATE-----\n"
    IsBundle bundle ∧ repaired bundle = bundle ∧
      repaired "-----BEGIN CERTIFICATE----- QUJD -----END CERTIFICATE----- " = bundle := by
  intro bundle
  have hbundle : IsBundle bundle := by decide +kernel
  have hflat : flattened bundle =
      "-----BEGIN CERTIFICATE----- QUJD -----END CERTIFICATE----- " := by decide +kernel
  obtain ⟨-, -, -, hback⟩ := repaired_restores bundle
  exact ⟨hbundle, (hback hbundle).1, hflat ▸ (hback hbundle).2⟩

/-- Of spaces in front of a mark only the last stays, and a dot counts as one. -/
example : repaired "a.CERTIFICATE  CERTIFICATE .CERT" = "a CERTIFICATE\n CERTIFICATE\n.CERT" := by
  decide +kernel

end NodeVolumes.Rest
