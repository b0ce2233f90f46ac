import Mathlib.Data.List.Induction
import NodeVolumes.Http.UrlReader
import NodeVolumes.Proofs.Except
import NodeVolumes.Proofs.Http.Percent

/-!
# The names in a path

The names of a path are what its text has between slashes, read from percent notation.  A text that
is put behind a path is one more name of it, and that text, exactly if it is not dots and has
nothing that URLs pass over (`names_extend?_iff`).
-/

namespace NodeVolumes.Http

open Text

/-- The names that a path leads along; a lone slash leads nowhere. -/
def UrlPath.names (path : UrlPath) : List String :=
  match (pieces (· == '/') path.text.toList).tail with
  | [[]] => []
  | between => between.map Percent.decode

namespace Url

/-- The segments of a path without the slash at its end. -/
def withoutSlash (segments : List String) : List String :=
  if segments.getLast? = some "" then segments.dropLast else segments

/-- A text that stands for itself as a segment. -/
structure IsPlain (s : String) : Prop where
  notHere : s ≠ "."
  notAbove : s ≠ ".."
  whole : ∀ c ∈ s.toList, isIgnored c = false

theorem isPlain_iff {s : String} :
    IsPlain s ↔ s ≠ "." ∧ s ≠ ".." ∧ (s.toList.all fun c => !isIgnored c) = true := by
  simp only [List.all_eq_true, Bool.not_eq_true']
  exact ⟨fun h => ⟨h.notHere, h.notAbove, h.whole⟩, fun ⟨hhere, habove, hwhole⟩ =>
    ⟨hhere, habove, hwhole⟩⟩

instance : DecidablePred IsPlain :=
  fun _ => decidable_of_iff _ isPlain_iff.symm

/-- No segment is cut by a slash. -/
def IsCut (segments : List String) : Prop :=
  ∀ s ∈ segments, '/' ∉ s.toList

def readSegments (segments : List String) : List String :=
  if segments = [""] then [] else segments.map fun s => Percent.decode s.toList

/-! ## The text of a path -/

theorem pieces_text {segments : List String} (hcut : IsCut segments) {front : List Char}
    (hfront : '/' ∉ front) :
    pieces (· == '/') (front ++ (UrlPath.segments segments).text.toList) =
      front :: segments.map String.toList := by
  have hnone {cs : List Char} (h : '/' ∉ cs) : ∀ c ∈ cs, (c == '/') = false := fun c hc => by
    simpa using fun heq : c = '/' => h (heq ▸ hc)
  induction segments generalizing front with
  | nil =>
      have htext : (UrlPath.segments []).text.toList = [] := by decide
      rw [htext, List.append_nil, pieces_of_none (hnone hfront), List.map_nil]
  | cons s rest ih =>
      have htext : (UrlPath.segments (s :: rest)).text.toList =
          '/' :: (s.toList ++ (UrlPath.segments rest).text.toList) := by
        simp [UrlPath.text]
      rw [htext, pieces_append_cons rfl, pieces_of_none (hnone hfront),
        ih (fun t ht => hcut t (List.mem_cons_of_mem s ht)) (hcut s List.mem_cons_self)]
      rfl

theorem names_segments {segments : List String} (hcut : IsCut segments) :
    (UrlPath.segments segments).names = readSegments segments := by
  have hpieces := pieces_text hcut (List.not_mem_nil (a := '/'))
  rw [List.nil_append] at hpieces
  rw [UrlPath.names, hpieces, List.tail_cons, readSegments]
  split
  · rename_i hslash
    rw [if_pos]
    obtain ⟨s, rfl⟩ := List.length_eq_one_iff.mp (by simpa using congrArg List.length hslash)
    simpa using hslash
  · rename_i hother
    rw [if_neg, List.map_map]
    · rfl
    · rintro rfl
      exact hother (by decide)

/-! ## Slashes -/

theorem slash_mem_encode {set : Char → Bool} {cs : List Char} (h : '/' ∈ Percent.encode set cs) :
    '/' ∈ cs ∧ set '/' = false := by
  have hbyte (b : UInt8) : '/' ∉ Percent.escapeByte b := by
    have hdigit : ∀ m < 16, '/' ≠ (Nat.digitChar m).toUpper := by decide
    have hupper (n : Nat) : '/' ≠ Percent.upperHex n := hdigit (n % 16) (Nat.mod_lt n (by decide))
    simp [Percent.escapeByte, hupper]
  obtain ⟨c, hc, hslash⟩ := List.mem_flatMap.mp h
  unfold Percent.encodeChar at hslash
  split at hslash
  · simp [hbyte] at hslash
  · rename_i hplain
    rw [List.mem_singleton] at hslash
    subst hslash
    simp only [Bool.or_eq_true, not_or, Bool.not_eq_true] at hplain
    exact ⟨hc, hplain.1⟩

theorem isCut_nil : IsCut [] :=
  fun s hs => by cases hs

theorem isCut_concat {segments : List String} {cs : List Char} (h : IsCut segments)
    (hcs : '/' ∉ cs) : IsCut (segments ++ [String.ofList cs]) := by
  intro s hs
  rcases List.mem_append.mp hs with hs | hs
  · exact h s hs
  · rw [List.mem_singleton.mp hs, String.toList_ofList]
    exact hcs

theorem isCut_dropLast {segments : List String} (h : IsCut segments) : IsCut segments.dropLast :=
  fun s hs => h s ((List.dropLast_sublist segments).subset hs)

theorem isCut_withoutSlash {segments : List String} (h : IsCut segments) :
    IsCut (withoutSlash segments) := by
  unfold withoutSlash
  split
  · exact isCut_dropLast h
  · exact h

theorem isCut_resolved {read : List String} {between : List (List Char)} (hread : IsCut read)
    (hbetween : ∀ cs ∈ between, '/' ∉ cs) : IsCut (resolved read between) := by
  have hencoded {cs : List Char} (h : '/' ∉ cs) : '/' ∉ Percent.encode Percent.inPath cs :=
    fun hslash => h (slash_mem_encode hslash).1
  fun_induction resolved read between with
  | case1 read => exact hread
  | case2 read last => exact isCut_concat (isCut_dropLast hread) List.not_mem_nil
  | case3 read last => exact isCut_concat hread List.not_mem_nil
  | case4 read last => exact isCut_concat hread (hencoded (hbetween last List.mem_cons_self))
  | case5 read segment rest _ _ ih =>
      exact ih (isCut_dropLast hread) fun cs hcs => hbetween cs (List.mem_cons_of_mem _ hcs)
  | case6 read segment rest _ _ _ ih =>
      exact ih hread fun cs hcs => hbetween cs (List.mem_cons_of_mem _ hcs)
  | case7 read segment rest _ _ _ ih =>
      exact ih (isCut_concat hread (hencoded (hbetween segment List.mem_cons_self)))
        fun cs hcs => hbetween cs (List.mem_cons_of_mem _ hcs)

theorem isCut_rootedPath {special : Bool} {cs : List Char} {segments : List String}
    (h : rootedPath special cs = .segments segments) : IsCut segments := by
  unfold rootedPath at h
  split at h
  · cases h
    split
    · exact isCut_concat isCut_nil List.not_mem_nil
    · exact isCut_nil
  · cases h
    refine isCut_resolved isCut_nil fun between hbetween hslash => ?_
    have hsep := sep_eq_false_of_mem_pieces hbetween '/' hslash
    simp [separates] at hsep

theorem isCut_withoutAuthority {scheme : String} {cs : List Char} {segments : List String}
    (h : (withoutAuthority scheme cs).path = .segments segments) : IsCut segments := by
  unfold withoutAuthority at h
  dsimp only at h
  split at h
  · exact isCut_rootedPath h
  · cases h

theorem isCut_of_parse {text : String} {url : Url} {segments : List String}
    (h : parse text = .ok url) (hpath : url.path = .segments segments) : IsCut segments := by
  have hwith {scheme : String} {cs : List Char} (h : withAuthority scheme cs = .ok url) :
      IsCut segments := by
    obtain ⟨a, -, hurl⟩ := exists_of_bind_eq_ok h
    cases hurl
    exact isCut_rootedPath hpath
  unfold parse at h
  split at h
  · cases h
  split at h
  · split at h
    · exact hwith h
    · cases h
      dsimp only at hpath
      exact isCut_withoutAuthority hpath
  split at h
  · exact hwith h
  split at h
  · exact hwith h
  · cases h
    exact isCut_withoutAuthority hpath

/-! ## Texts put behind a path -/

/-- A text without the characters that URLs pass over. -/
def kept (text : String) : List Char :=
  text.toList.filter fun c => !isIgnored c

theorem IsPlain.kept {s : String} (h : IsPlain s) : kept s = s.toList :=
  List.filter_eq_self.mpr fun c hc => by simp [h.whole c hc]

/-- What a text does to the segments it is put behind. -/
inductive Pushed (special : Bool) (segments : List String) (text : String) : List String → Prop
  | nothing (hdots : text = "." ∨ text = "..") : Pushed special segments text segments
  | slash (front : List String) (hplain : ¬ IsPlain text)
      (hlength : front.length ≤ (readSegments segments).length)
      (hfront : ∀ s ∈ front, s ∈ segments) : Pushed special segments text (front ++ [""])
  | segment (hdots : text ≠ "." ∧ text ≠ "..") :
      Pushed special segments text
        (append segments (String.ofList (Percent.encode (Percent.inSegment special) (kept text))))

theorem readSegments_of_ne {segments : List String} (h : segments ≠ [""]) :
    readSegments segments = segments.map fun s => Percent.decode s.toList :=
  if_neg h

theorem append_empty (segments : List String) :
    ∃ front, append segments "" = front ++ [""] ∧
      front.length ≤ (readSegments segments).length ∧ ∀ s ∈ front, s ∈ segments := by
  by_cases hslash : segments = [""]
  · subst hslash
    exact ⟨[], rfl, Nat.zero_le _, fun s hs => by cases hs⟩
  · refine ⟨segments, if_neg hslash, ?_, fun s hs => hs⟩
    exact Nat.le_of_eq (by rw [readSegments_of_ne hslash, List.length_map])

theorem pushed_push (special : Bool) (segments : List String) (text : String) :
    Pushed special segments text (push special segments text) := by
  have hnot {dots : List Char} (hdots : String.ofList dots = "." ∨ String.ofList dots = "..")
      (hkept : kept text = dots) : ¬ IsPlain text := by
    intro hplain
    have htext : text = String.ofList dots := by
      rw [← hkept, hplain.kept, String.ofList_toList]
    exact hdots.elim (fun h => hplain.notHere (htext.trans h))
      fun h => hplain.notAbove (htext.trans h)
  unfold push
  split
  · exact .nothing ‹_›
  · rename_i hdots
    split
    · rename_i hkept
      obtain ⟨front, hfront, hlength, hmem⟩ := append_empty segments
      rw [hfront]
      exact .slash front (hnot (.inl rfl) hkept) hlength hmem
    · rename_i hkept
      refine .slash _ (hnot (.inr rfl) hkept) ?_ fun s hs =>
        (List.dropLast_sublist segments).subset hs
      by_cases hslash : segments = [""]
      · subst hslash
        exact Nat.zero_le _
      · rw [readSegments_of_ne hslash, List.length_map, List.length_dropLast]
        omega
    · exact .segment (not_or.mp hdots)

theorem readSegments_append {segments : List String} {segment : String} (h : segment ≠ "") :
    readSegments (append segments segment) =
      readSegments segments ++ [Percent.decode segment.toList] := by
  by_cases hslash : segments = [""]
  · subst hslash
    rw [append, if_pos rfl, readSegments_of_ne (by simpa using h)]
    rfl
  · have hmore : segments ++ [segment] ≠ [""] := by
      intro heq
      have hlast := congrArg List.getLast? heq
      simp [h] at hlast
    rw [append, if_neg hslash, readSegments_of_ne hslash, readSegments_of_ne hmore,
      List.map_append, List.map_singleton]

theorem readSegments_concat_empty (front : List String) :
    (readSegments (front ++ [""])).length ≤ front.length + 1 ∧
      ∀ l s, s ≠ "" → readSegments (front ++ [""]) ≠ l ++ [s] := by
  unfold readSegments
  split
  · exact ⟨Nat.zero_le _, fun l s _ => by simp⟩
  · refine ⟨by simp, fun l s hs heq => hs ?_⟩
    rw [List.map_append, List.map_singleton] at heq
    exact (List.append_singleton_inj.mp heq).2.symm.trans Percent.decode_nil

theorem length_readSegments_append_le (segments : List String) (segment : String) :
    (readSegments (append segments segment)).length ≤ (readSegments segments).length + 1 := by
  by_cases hempty : segment = ""
  · obtain ⟨front, hfront, hlength, -⟩ := append_empty segments
    rw [hempty, hfront]
    exact Nat.le_trans (readSegments_concat_empty front).1 (Nat.succ_le_succ hlength)
  · exact Nat.le_of_eq (by rw [readSegments_append hempty, List.length_append]; rfl)

theorem length_readSegments_push_le (special : Bool) (segments : List String) (text : String) :
    (readSegments (push special segments text)).length ≤ (readSegments segments).length + 1 := by
  have hpushed := pushed_push special segments text
  generalize push special segments text = after at hpushed ⊢
  cases hpushed with
  | nothing _ => exact Nat.le_succ _
  | slash front _ hlength _ =>
      exact Nat.le_trans (readSegments_concat_empty front).1 (Nat.succ_le_succ hlength)
  | segment _ => exact length_readSegments_append_le segments _

theorem isCut_push {segments : List String} (h : IsCut segments) (special : Bool)
    (text : String) : IsCut (push special segments text) := by
  have hpushed := pushed_push special segments text
  generalize push special segments text = after at hpushed ⊢
  cases hpushed with
  | nothing _ => exact h
  | slash front _ _ hfront => exact isCut_concat (fun s hs => h s (hfront s hs)) List.not_mem_nil
  | segment _ =>
      have hslash : '/' ∉ Percent.encode (Percent.inSegment special) (kept text) := by
        intro hmem
        have hset := (slash_mem_encode hmem).2
        simp [Percent.inSegment] at hset
      unfold append
      split
      · exact isCut_concat isCut_nil hslash
      · exact isCut_concat h hslash

/-- A text is the next thing said exactly if it is plain. -/
theorem readSegments_push_iff {special : Bool} {segments names : List String} {text : String}
    (htext : text ≠ "") (hlength : (readSegments segments).length ≤ names.length) :
    readSegments (push special segments text) = names ++ [text] ↔
      readSegments segments = names ∧ IsPlain text := by
  have hpercent : Percent.inSegment special '%' = true := by simp [Percent.inSegment]
  have hpushed := pushed_push special segments text
  generalize push special segments text = after at hpushed ⊢
  cases hpushed with
  | nothing hdots =>
      constructor
      · intro heq
        rw [heq, List.length_append, List.length_singleton] at hlength
        omega
      · rintro ⟨-, hplain⟩
        exact (hdots.elim hplain.notHere hplain.notAbove).elim
  | slash front hplain _ _ =>
      exact iff_of_false ((readSegments_concat_empty front).2 names text htext)
        fun h => hplain h.2
  | segment hdots =>
      by_cases hempty : String.ofList (Percent.encode (Percent.inSegment special) (kept text)) = ""
      · have hkept : String.ofList (kept text) = "" := by
          rw [← Percent.decode_encode hpercent, ← String.toList_ofList (l := Percent.encode _ _),
            hempty]
          exact Percent.decode_nil
        obtain ⟨front, hfront, -, -⟩ := append_empty segments
        rw [hempty, hfront]
        refine iff_of_false ((readSegments_concat_empty front).2 names text htext) ?_
        rintro ⟨-, hplain⟩
        rw [hplain.kept, String.ofList_toList] at hkept
        exact htext hkept
      · rw [readSegments_append hempty, String.toList_ofList, Percent.decode_encode hpercent,
          List.append_singleton_inj]
        refine and_congr_right fun _ => ⟨fun hkept => ⟨hdots.1, hdots.2, ?_⟩, fun hplain => ?_⟩
        · have hall : kept text = text.toList := by
            rw [← String.toList_ofList (l := kept text), hkept]
          intro c hc
          simpa using List.filter_eq_self.mp hall c hc
        · rw [hplain.kept, String.ofList_toList]

/-! ## Lists of texts -/

section Given

variable {special : Bool} {own given : List String}

theorem length_readSegments_foldl_le (special : Bool) (own given : List String) :
    (readSegments (given.foldl (push special) own)).length ≤
      (readSegments own).length + given.length := by
  induction given generalizing own with
  | nil => exact Nat.le_refl _
  | cons s rest ih =>
      have hfirst := length_readSegments_push_le special own s
      have hrest := ih (push special own s)
      rw [List.foldl_cons, List.length_cons]
      omega

theorem isCut_foldl (h : IsCut own) : IsCut (given.foldl (push special) own) := by
  induction given generalizing own with
  | nil => exact h
  | cons s rest ih => exact ih (isCut_push h special s)

theorem readSegments_foldl_iff (hgiven : ∀ s ∈ given, s ≠ "") :
    readSegments (given.foldl (push special) own) = readSegments own ++ given ↔
      ∀ s ∈ given, IsPlain s := by
  -- the last text is told apart by what it adds, so those in front of it have added one name each
  induction given using List.reverseRecOn with
  | nil => simp
  | append_singleton front s ih =>
      have hlength := length_readSegments_foldl_le special own front
      rw [← List.length_append] at hlength
      rw [List.foldl_append, List.foldl_cons, List.foldl_nil, ← List.append_assoc,
        readSegments_push_iff (hgiven s (by simp)) hlength,
        ih fun t ht => hgiven t (List.mem_append_left _ ht)]
      simp [or_imp, forall_and]

end Given

theorem readSegments_dropTrailing (segments : List String) :
    readSegments (dropTrailing segments) = readSegments (withoutSlash segments) := by
  unfold dropTrailing withoutSlash
  split
  · rfl
  · rename_i only
    by_cases hempty : only = ""
    · subst hempty
      rfl
    · simp [hempty]
  · rfl

theorem isCut_dropTrailing {segments : List String} (h : IsCut segments) :
    IsCut (dropTrailing segments) := by
  unfold dropTrailing
  split
  · exact h
  · exact h
  · exact isCut_withoutSlash h

/-- Texts put behind the path of a URL are its next names exactly if all of them are plain. -/
theorem names_extend?_iff {url extended : Url} {own given : List String}
    (hpath : url.path = .segments own) (hcut : IsCut own) (hgiven : ∀ s ∈ given, s ≠ "")
    (h : url.extend? given = some extended) :
    extended.path.names = (UrlPath.segments (withoutSlash own)).names ++ given ↔
      ∀ s ∈ given, IsPlain s := by
  rw [extend?_segments hpath] at h
  cases h
  rw [names_segments (isCut_foldl (isCut_dropTrailing hcut)),
    names_segments (isCut_withoutSlash hcut), ← readSegments_dropTrailing]
  exact readSegments_foldl_iff hgiven

end Url

end NodeVolumes.Http
