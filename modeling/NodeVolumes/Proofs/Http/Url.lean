import Mathlib.Data.List.DropRight
import Mathlib.Data.List.TakeWhile
import NodeVolumes.Http.UrlReader
import NodeVolumes.Proofs.Except

/-!
# URLs and their continuations

Who is asked by a URL is told by what stands between its scheme and the next slash.  So a URL of the
web stays one, and asks the same host, if the slashes at its end are replaced by a path
(`IsHttp.exists_parse`).
-/

namespace NodeVolumes.Http.Url

open Text

/-! ## Significant characters -/

/-- The characters of a text that say something, if the last one does. -/
def said (cs : List Char) : List Char :=
  (cs.dropWhile isPadding).filter fun c => !isIgnored c

def IsClosed (cs : List Char) : Prop :=
  ∀ c, cs.getLast? = some c → isPadding c = false

theorem isPadding_of_isIgnored {c : Char} (h : isIgnored c = true) : isPadding c = true := by
  simp only [isIgnored, Bool.or_eq_true, beq_iff_eq] at h
  rcases h with (rfl | rfl) | rfl <;> rfl

theorem significant_of_isClosed {text : String} (h : IsClosed text.toList) :
    significant text = said text.toList := by
  have hend : (text.toList.dropWhile isPadding).rdropWhile isPadding =
      text.toList.dropWhile isPadding := by
    rw [List.rdropWhile_eq_self_iff]
    intro hne
    have hlast := List.getLast?_eq_some_getLast hne
    obtain ⟨front, hfront⟩ := List.dropWhile_suffix (l := text.toList) isPadding
    have hend := congrArg List.getLast? hfront
    rw [List.getLast?_append, hlast] at hend
    simp [h _ hend.symm]
  exact congrArg (List.filter fun c => !isIgnored c) hend

theorem dropWhile_eq_self {p : Char → Bool} {cs : List Char} (h : ∀ c ∈ cs, p c = false) :
    cs.dropWhile p = cs := by
  cases cs with
  | nil => rfl
  | cons c rest => rw [List.dropWhile_cons_of_neg (by simp [h c List.mem_cons_self])]

theorem said_append (cs : List Char) {tail : List Char}
    (h : ∀ c ∈ tail, isPadding c = false) : said (cs ++ tail) = said cs ++ tail := by
  have hkept : tail.filter (fun c => !isIgnored c) = tail := by
    refine List.filter_eq_self.mpr fun c hc => ?_
    have hignored : isIgnored c ≠ true := fun hignored => by
      cases (h c hc).symm.trans (isPadding_of_isIgnored hignored)
    simpa using hignored
  unfold said
  rw [List.dropWhile_append, dropWhile_eq_self h]
  split
  · rename_i hnone
    rw [List.isEmpty_iff.mp hnone, hkept]
    rfl
  · rw [List.filter_append, hkept]

/-! ## Schemes -/

theorem scheme?_eq_some_iff {cs rest : List Char} {scheme : String} :
    scheme? cs = some (scheme, rest) ↔
      ∃ c word, cs = (c :: word) ++ ':' :: rest ∧ c.isAlpha = true ∧
        (∀ d ∈ c :: word, isSchemeChar d = true) ∧
        (String.ofList (c :: word)).toLower = scheme := by
  constructor
  · intro h
    have hsplit : cs.takeWhile isSchemeChar ++ cs.drop (cs.takeWhile isSchemeChar).length = cs :=
      List.prefix_iff_eq_append.mp (List.takeWhile_prefix isSchemeChar)
    have hword : ∀ d ∈ cs.takeWhile isSchemeChar, isSchemeChar d = true :=
      fun d hd => List.mem_takeWhile_imp hd
    unfold scheme? at h
    dsimp only at h
    split at h
    · rename_i c word behind htake hdrop
      split at h
      · rename_i halpha
        cases h
        rw [htake] at hsplit hword hdrop
        rw [hdrop] at hsplit
        exact ⟨c, word, hsplit.symm, halpha, hword, by rw [htake]⟩
      · cases h
    · cases h
  · rintro ⟨c, word, rfl, halpha, hword, rfl⟩
    have htake : ((c :: word) ++ ':' :: rest).takeWhile isSchemeChar = c :: word := by
      rw [List.takeWhile_append_of_pos hword, List.takeWhile_cons_of_neg (by decide),
        List.append_nil]
    unfold scheme?
    rw [htake]
    dsimp only
    rw [List.drop_left]
    simp [halpha]

/-- The colon behind a scheme stands in front of the slashes at the end. -/
theorem scheme?_append {cs rest tail : List Char} {scheme : String} (htail : ':' ∉ tail)
    (h : scheme? (cs ++ tail) = some (scheme, rest)) :
    ∃ between, rest = between ++ tail ∧
      ∀ other, scheme? (cs ++ other) = some (scheme, between ++ other) := by
  obtain ⟨c, word, hcs, halpha, hword, hscheme⟩ := scheme?_eq_some_iff.mp h
  obtain ⟨between, hfront, hrest⟩ : ∃ between, cs = (c :: word) ++ ':' :: between ∧
      rest = between ++ tail := by
    rcases List.append_eq_append_iff.mp hcs with ⟨middle, hfront, hback⟩ | ⟨middle, hfront, hback⟩
    · exact absurd (by simp [hback]) htail
    · cases middle with
      | nil => exact absurd (by simp at hback; simp [← hback]) htail
      | cons d between =>
          obtain ⟨rfl, hrest⟩ := List.cons.inj hback
          exact ⟨between, hfront, hrest⟩
  refine ⟨between, hrest, fun other => scheme?_eq_some_iff.mpr ?_⟩
  exact ⟨c, word, by rw [hfront, List.append_assoc]; rfl, halpha, hword, hscheme⟩

/-! ## Authorities -/

def isAuthorityChar (c : Char) : Bool :=
  !(c == '#') && !(c == '?') && !separates true c

theorem fst_cut (p : Char → Bool) (cs : List Char) : (cut p cs).1 = cs.takeWhile fun c => !p c := by
  unfold cut
  split
  · rename_i hnone
    have happend := List.takeWhile_append_dropWhile (p := fun c => !p c) (l := cs)
    rw [hnone, List.append_nil] at happend
    exact happend.symm
  · rfl

/-- What stands in front of the path of a URL of the web. -/
theorem takeWhile_fst_parts (cs : List Char) :
    (parts cs).1.takeWhile (fun c => !separates true c) = cs.takeWhile isAuthorityChar := by
  change (cut (· == '?') (cut (· == '#') cs).1).1.takeWhile _ = _
  rw [fst_cut, fst_cut, List.takeWhile_takeWhile, List.takeWhile_takeWhile]
  refine congrArg (fun p => cs.takeWhile p) (funext fun c => ?_)
  simp only [isAuthorityChar, Bool.decide_and, Bool.decide_eq_true]
  cases c == '#' <;> cases c == '?' <;> cases separates true c <;> rfl

theorem scheme_withAuthority {scheme : String} {cs : List Char} {url : Url}
    (h : withAuthority scheme cs = .ok url) :
    url.scheme = scheme ∧ ∃ a, url.authority = some a := by
  obtain ⟨a, -, hurl⟩ := exists_of_bind_eq_ok h
  cases hurl
  exact ⟨rfl, a, rfl⟩

/-- Only who is asked can be wrong with what follows the slashes of a URL of the web. -/
theorem withAuthority_http_iff {cs : List Char} {a : Authority} :
    (∃ url, withAuthority "http" cs = .ok url ∧ url.authority = some a) ↔
      readAuthority "http" (cs.takeWhile isAuthorityChar) = .ok a := by
  have hspecial : isWellKnown "http" = true := by decide
  rw [← takeWhile_fst_parts, withAuthority, hspecial]
  dsimp only
  cases readAuthority "http" ((parts cs).1.takeWhile fun c => !separates true c) with
  | error e =>
      constructor
      · rintro ⟨url, ⟨⟩, -⟩
      · rintro ⟨⟩
  | ok found =>
      constructor
      · rintro ⟨url, ⟨⟩, hauthority⟩
        exact congrArg Except.ok (Option.some.inj hauthority)
      · rintro ⟨⟩
        exact ⟨_, rfl, rfl⟩

theorem scheme?_of_parse {text : String} {url : Url} (h : parse text = .ok url) :
    ∃ rest, scheme? (significant text) = some (url.scheme, rest) := by
  unfold parse at h
  split at h
  · cases h
  · rename_i scheme rest hread
    have hscheme : url.scheme = scheme := by
      split at h
      · split at h
        · exact (scheme_withAuthority h).1
        · cases h
          rfl
      · split at h
        · exact (scheme_withAuthority h).1
        · split at h
          · exact (scheme_withAuthority h).1
          · cases h
            rfl
    exact ⟨rest, hscheme ▸ hread⟩

theorem parse_eq_ok_http_iff {text : String} {url : Url} :
    parse text = .ok url ∧ url.scheme = "http" ↔
      ∃ rest, scheme? (significant text) = some ("http", rest) ∧
        withAuthority "http" (rest.dropWhile (separates true)) = .ok url := by
  have hread {rest : List Char} (hscheme : scheme? (significant text) = some ("http", rest)) :
      parse text = withAuthority "http" (rest.dropWhile (separates true)) := by
    unfold parse
    rw [hscheme]
    rfl
  constructor
  · rintro ⟨hparse, hhttp⟩
    obtain ⟨rest, hscheme⟩ := scheme?_of_parse hparse
    rw [hhttp] at hscheme
    exact ⟨rest, hscheme, hread hscheme ▸ hparse⟩
  · rintro ⟨rest, hscheme, hauthority⟩
    exact ⟨(hread hscheme).trans hauthority, (scheme_withAuthority hauthority).1⟩

/-! ## Continuations -/

/-- A text is a URL of the web, up to its last character. -/
structure IsHttp (text : String) (url : Url) : Prop where
  parsed : parse text = .ok url
  scheme : url.scheme = "http"
  closed : IsClosed text.toList

theorem takeWhile_isAuthorityChar_append (cs : List Char) {tail : List Char}
    (h : ∀ c, tail.head? = some c → c = '/') :
    (cs ++ tail).takeWhile isAuthorityChar = cs.takeWhile isAuthorityChar := by
  have htail : tail.takeWhile isAuthorityChar = [] := by
    cases tail with
    | nil => rfl
    | cons c rest =>
        rw [h c rfl]
        rfl
  rw [List.takeWhile_append, htail, List.append_nil]
  split
  · rename_i hall
    exact (List.takeWhile_prefix isAuthorityChar).eq_of_length hall |>.symm
  · rfl

/-- A URL of the web without the slashes at its end goes on with any path, on the same host. -/
theorem IsHttp.exists_parse {base : List Char} {n : Nat} {text longer : String} {url : Url}
    (h : IsHttp text url) (htext : text.toList = base ++ List.replicate n '/')
    (path : List Char) (hpath : ∀ c ∈ path, isPadding c = false)
    (hlonger : longer.toList = base ++ '/' :: path) :
    ∃ other, parse longer = .ok other ∧ other.scheme = "http" ∧
      other.authority = url.authority := by
  have hslashes : ∀ c ∈ List.replicate n '/', isPadding c = false := by
    intro c hc
    rw [List.eq_of_mem_replicate hc]
    rfl
  have hlong : ∀ c ∈ '/' :: path, isPadding c = false := by
    intro c hc
    rcases List.mem_cons.mp hc with rfl | hlater
    · rfl
    · exact hpath c hlater
  have hclosed : IsClosed longer.toList := by
    intro c hc
    rw [hlonger, List.getLast?_append_cons] at hc
    exact hlong c (List.mem_of_getLast? hc)
  obtain ⟨rest, hscheme, hread⟩ := parse_eq_ok_http_iff.mp ⟨h.parsed, h.scheme⟩
  rw [significant_of_isClosed h.closed, htext, said_append base hslashes] at hscheme
  obtain ⟨between, rfl, hother⟩ := scheme?_append (by simp) hscheme
  obtain ⟨-, a, hauthority⟩ := scheme_withAuthority hread
  have ha := withAuthority_http_iff.mp ⟨url, hread, hauthority⟩
  rw [List.dropWhile_append] at ha
  split at ha
  · -- there are only slashes, so nobody is asked
    have hnone : (List.replicate n '/').dropWhile (separates true) = [] :=
      List.dropWhile_eq_nil_iff.mpr fun c hc => by
        rw [List.eq_of_mem_replicate hc]
        rfl
    rw [hnone] at ha
    cases ha
  · rename_i hsome
    rw [takeWhile_isAuthorityChar_append _ fun c hc =>
      List.eq_of_mem_replicate (List.mem_of_head? hc)] at ha
    obtain ⟨other, hread', hauthority'⟩ := withAuthority_http_iff.mpr
      (show readAuthority "http" (((between ++ '/' :: path).dropWhile (separates true)).takeWhile
        isAuthorityChar) = .ok a by
        rw [List.dropWhile_append, if_neg hsome, takeWhile_isAuthorityChar_append _ (by simp), ha])
    have hlongScheme : scheme? (significant longer) = some ("http", between ++ '/' :: path) := by
      rw [significant_of_isClosed hclosed, hlonger, said_append base hlong]
      exact hother _
    obtain ⟨hparse, hhttp⟩ := parse_eq_ok_http_iff.mpr ⟨_, hlongScheme, hread'⟩
    exact ⟨other, hparse, hhttp, hauthority'.trans hauthority.symm⟩

end NodeVolumes.Http.Url
