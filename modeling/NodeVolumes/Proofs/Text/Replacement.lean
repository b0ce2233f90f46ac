import NodeVolumes.Text.Search

/-!
# Replacing in place

Replacing a character in front of a mark, the mark itself kept, is done place by place
(`replaceFrom_mark`): what stands at a place afterwards hangs on the character there and on what
follows it (`mapBefore`).  Such changes compose, and one that leaves the characters of the mark
alone moves no mark (`mark_prefix_mapBefore_iff`).
-/

namespace NodeVolumes.Text

variable {f g : Char → List Char → Char} {mark cs : List Char} {old new : Char}

/-- Each character, changed by `f` as it stands in front of what follows it. -/
def mapBefore (f : Char → List Char → Char) : List Char → List Char
  | [] => []
  | c :: rest => f c rest :: mapBefore f rest

theorem length_mapBefore (f : Char → List Char → Char) (cs : List Char) :
    (mapBefore f cs).length = cs.length := by
  induction cs with
  | nil => rfl
  | cons c rest ih => rw [mapBefore, List.length_cons, ih, List.length_cons]

theorem getElem?_mapBefore (f : Char → List Char → Char) (cs : List Char) (i : Nat) :
    (mapBefore f cs)[i]? = cs[i]?.map fun c => f c (cs.drop (i + 1)) := by
  induction cs generalizing i with
  | nil => rfl
  | cons c rest ih =>
      cases i with
      | zero => rfl
      | succ i => simpa [mapBefore] using ih i

/-- Nothing changes if no place does. -/
theorem mapBefore_eq_self (h : ∀ i c, cs[i]? = some c → f c (cs.drop (i + 1)) = c) :
    mapBefore f cs = cs := by
  refine List.ext_getElem? fun i => ?_
  rw [getElem?_mapBefore]
  cases hc : cs[i]? with
  | none => rfl
  | some c => exact congrArg some (h i c hc)

theorem mapBefore_mapBefore (f g : Char → List Char → Char) (cs : List Char) :
    mapBefore g (mapBefore f cs) =
      mapBefore (fun c rest => g (f c rest) (mapBefore f rest)) cs := by
  induction cs with
  | nil => rfl
  | cons c rest ih => rw [mapBefore, mapBefore, mapBefore, ih]

theorem mapBefore_congr (h : ∀ c rest, f c rest = g c rest) : mapBefore f cs = mapBefore g cs :=
  congrArg (mapBefore · cs) (funext fun c => funext (h c))

/-! ## Marks -/

/-- A change neither makes nor takes away a character of the mark. -/
def Spares (f : Char → List Char → Char) (mark : List Char) : Prop :=
  ∀ c rest, f c rest = c ∨ c ∉ mark ∧ f c rest ∉ mark

/-- Marks stay where they are. -/
theorem mark_prefix_mapBefore_iff (h : Spares f mark) (cs : List Char) :
    mark <+: mapBefore f cs ↔ mark <+: cs := by
  induction mark generalizing cs with
  | nil => simp
  | cons m mark ih =>
      have hrest : Spares f mark := fun c rest => (h c rest).imp_right fun hout =>
        ⟨fun hmem => hout.1 (List.mem_cons_of_mem m hmem),
          fun hmem => hout.2 (List.mem_cons_of_mem m hmem)⟩
      cases cs with
      | nil => rfl
      | cons c rest =>
          have hhead : m = f c rest ↔ m = c := by
            rcases h c rest with hsame | ⟨hc, hf⟩
            · rw [hsame]
            · exact iff_of_false (fun hm => hf (hm ▸ List.mem_cons_self))
                fun hm => hc (hm ▸ List.mem_cons_self)
          rw [mapBefore, List.cons_prefix_cons, List.cons_prefix_cons, ih hrest, hhead]

/-- `old` becomes `new` in front of the mark. -/
def swapBefore (old new : Char) (mark : List Char) (c : Char) (rest : List Char) : Char :=
  if c = old ∧ mark <+: rest then new else c

theorem spares_swapBefore {swapped : List Char} (hold : old ∉ mark) (hnew : new ∉ mark) :
    Spares (swapBefore old new swapped) mark := by
  intro c rest
  unfold swapBefore
  split
  · rename_i hswap
    exact .inr ⟨hswap.1 ▸ hold, hnew⟩
  · exact .inl rfl

/--
Replacing `old` with the mark behind it by `new` with the mark behind it.

The induction is over all that is left, the first characters of which may belong to the mark that
was replaced last.
-/
theorem replaceFrom_mark_skip (hold : old ∉ mark) (skip : Nat) (cs : List Char)
    (hskip : old ∉ cs.take skip) :
    cs.take skip ++ replaceFrom (old :: mark) (new :: mark) skip cs =
      mapBefore (swapBefore old new mark) cs := by
  induction cs generalizing skip with
  | nil => simp [mapBefore]
  | cons c rest ih =>
      cases skip with
      | succ skip =>
          rw [List.take_succ_cons, List.mem_cons, not_or] at hskip
          have hc : swapBefore old new mark c rest = c :=
            if_neg fun hswap => hskip.1 hswap.1.symm
          rw [List.take_succ_cons, replaceFrom, List.cons_append, ih skip hskip.2, mapBefore, hc]
      | zero =>
          rw [List.take_zero, List.nil_append, replaceFrom, mapBefore]
          by_cases hstart : hasStart (old :: mark) (c :: rest) = true
          · obtain ⟨rfl, hmark⟩ := List.cons_prefix_cons.mp (hasStart_iff.mp hstart)
            have htake : mark = rest.take mark.length := List.prefix_iff_eq_take.mp hmark
            have hrest := ih mark.length (htake ▸ hold)
            rw [← htake] at hrest
            rw [if_pos hstart, swapBefore, if_pos ⟨rfl, hmark⟩, ← hrest]
            rfl
          · have hswap : ¬(c = old ∧ mark <+: rest) := fun h =>
              hstart (hasStart_iff.mpr (List.cons_prefix_cons.mpr ⟨h.1.symm, h.2⟩))
            have hrest := ih 0 (by simp)
            rw [if_neg hstart, swapBefore, if_neg hswap, ← hrest]
            rfl

theorem replaceFrom_mark (hold : old ∉ mark) (new : Char) (cs : List Char) :
    replaceFrom (old :: mark) (new :: mark) 0 cs = mapBefore (swapBefore old new mark) cs :=
  replaceFrom_mark_skip hold 0 cs (by simp)

end NodeVolumes.Text
