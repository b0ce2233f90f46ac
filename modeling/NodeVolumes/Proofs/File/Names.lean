import NodeVolumes.File.Lookup
import NodeVolumes.Proofs.Except
import NodeVolumes.Proofs.Text.Pieces

/-!
# File names

A file name is a piece of a path that names an entry: it is not empty, has no slash, and is neither
of the two dot names.  A file name joined to any path is its last name again
(`Path.fileName_join`).

A look-up ends at a location that is reached by file names (`isPlace_of_lookup`), since the names
that it takes from paths and links have no slash in them and dots are never taken as names.
-/

namespace NodeVolumes

/-! ## Pieces of paths -/

namespace Path

def IsSegment (text : String) : Prop :=
  text ≠ "" ∧ '/' ∉ text.toList

def IsName (text : String) : Prop :=
  IsSegment text ∧ text ≠ "." ∧ text ≠ ".."

theorem isSegment_of_mem_segments {path text : String} (h : text ∈ segments path) :
    IsSegment text := by
  obtain ⟨hmem, hne⟩ := List.mem_filter.mp h
  obtain ⟨piece, hpiece, rfl⟩ := List.mem_map.mp hmem
  refine ⟨by simpa using hne, ?_⟩
  intro hslash
  rw [String.toList_ofList] at hslash
  have hsep := Text.sep_eq_false_of_mem_pieces hpiece '/' hslash
  simp at hsep

theorem segments_of_isSegment {text : String} (h : IsSegment text) : segments text = [text] := by
  have hpieces : Text.pieces (· == '/') text.toList = [text.toList] := by
    refine Text.pieces_of_none fun c hc => ?_
    have hne : c ≠ '/' := fun he => h.2 (he ▸ hc)
    simpa using hne
  simp [segments, Text.splitAt, hpieces, h.1]

theorem not_isAbsolute_of_isSegment {text : String} (h : IsSegment text) :
    isAbsolute text = false := by
  unfold isAbsolute
  cases hcs : text.toList with
  | nil => rfl
  | cons c rest =>
      have hne : c ≠ '/' := by
        intro he
        apply h.2
        rw [hcs, he]
        exact List.mem_cons_self
      simpa using hne

theorem segments_append_slash (front rest : String) :
    segments (front ++ "/" ++ rest) = segments front ++ segments rest := by
  have hchars : (front ++ "/" ++ rest).toList = front.toList ++ '/' :: rest.toList := by simp
  have hpieces : Text.pieces (· == '/') (front.toList ++ '/' :: rest.toList) =
      Text.pieces (· == '/') front.toList ++ Text.pieces (· == '/') rest.toList :=
    Text.pieces_append_cons (by decide) front.toList rest.toList
  simp [segments, Text.splitAt, hpieces]

theorem segments_empty : segments "" = [] := by
  decide +kernel

/-- The pieces of a path that does not start at the root come behind those of its base. -/
theorem segments_join_of_relative {base part : String} (h : isAbsolute part = false) :
    segments (join base part) = segments base ++ segments part := by
  unfold join
  rw [h, if_neg Bool.false_ne_true]
  split
  · rename_i hbase
    rcases hbase with rfl | hslash
    · simp [segments_empty]
    · -- the slash at the end of the base is the one in between
      obtain ⟨front, hfront⟩ := List.getLast?_eq_some_iff.mp hslash
      have hbase : base = String.ofList front ++ "/" ++ "" := by
        apply String.toList_injective
        simp [hfront]
      have hjoined : base ++ part = String.ofList front ++ "/" ++ part := by
        rw [hbase]
        simp
      rw [hjoined, hbase, segments_append_slash, segments_append_slash, segments_empty]
      simp
  · exact segments_append_slash base part

theorem segments_join {base name : String} (h : IsSegment name) :
    segments (join base name) = segments base ++ [name] := by
  rw [segments_join_of_relative (not_isAbsolute_of_isSegment h), segments_of_isSegment h]

theorem getLast?_parts {path name : String} {front : List String}
    (hsegments : segments path = front ++ [name]) (hname : name ≠ ".") :
    (parts path).getLast? = some name := by
  unfold parts
  rw [hsegments]
  split
  · rename_i rest _ hdot
    cases front with
    | nil =>
        rw [List.nil_append, List.cons.injEq] at hdot
        exact absurd hdot.1 hname
    | cons first more =>
        rw [List.cons_append, List.cons.injEq] at hdot
        rw [← hdot.2]
        simp [List.getLast?_cons, hname]
  · simp [hname]

/-- A file name is the last name of any path it is joined to. -/
theorem fileName_join {base name : String} (h : IsName name) :
    fileName (join base name) = some name := by
  have hsegments : segments (join base name) = segments base ++ [name] := segments_join h.1
  have hlast := getLast?_parts hsegments h.2.1
  unfold fileName
  rw [hlast]
  split
  · simp_all [IsName]
  · simp_all [IsName]
  · simp_all
  · simp_all

theorem isName_of_fileName {path name : String} (h : fileName path = some name) :
    IsName name := by
  have hmem : ∀ text ∈ parts path, text = "." ∨ IsSegment text := by
    intro text htext
    unfold parts at htext
    split at htext
    · rename_i rest _ hsegments
      rcases List.mem_cons.mp htext with rfl | htext
      · exact .inl rfl
      · have hrest : text ∈ segments path := by
          rw [hsegments]
          exact List.mem_cons_of_mem _ (List.mem_filter.mp htext).1
        exact .inr (isSegment_of_mem_segments hrest)
    · exact .inr (isSegment_of_mem_segments (List.mem_filter.mp htext).1)
  unfold fileName at h
  split at h
  · cases h
  · cases h
  · cases h
  · rename_i last hdot hdots hlast
    cases h
    rcases hmem name (List.mem_of_getLast? hlast) with hname | hsegment
    · exact absurd hname hdot
    · exact ⟨hsegment, hdot, hdots⟩

end Path

/-! ## Places of a tree -/

namespace File

/-- A location that is reached by file names. -/
def IsPlace (place : Location) : Prop :=
  ∀ name ∈ place, Path.IsName name

theorem isPlace_nil : IsPlace [] := by
  intro name hname
  cases hname

theorem IsPlace.dropLast {place : Location} (h : IsPlace place) : IsPlace place.dropLast :=
  fun name hname => h name (List.dropLast_subset place hname)

theorem IsPlace.append {place : Location} {name : String} (h : IsPlace place)
    (hname : Path.IsName name) : IsPlace (place ++ [name]) := by
  intro other hother
  rcases List.mem_append.mp hother with hother | hother
  · exact h other hother
  · rwa [List.mem_singleton.mp hother]

namespace Tree

/-- A tree whose entries stand at places. -/
def IsNamed (tree : Tree) : Prop :=
  ∀ e ∈ tree.entries, IsPlace e.1

variable {tree : Tree} {place : Location}

theorem isNamed_empty : empty.IsNamed := by
  intro e he
  cases he

theorem IsNamed.put (h : tree.IsNamed) (hplace : IsPlace place) (entry : Entry) :
    (tree.put place entry).IsNamed := by
  intro e he
  rcases List.mem_cons.mp he with rfl | he
  · exact hplace
  · exact h e (List.mem_filter.mp he).1

theorem IsNamed.removeAll (h : tree.IsNamed) (place : Location) :
    (tree.removeAll place).IsNamed :=
  fun e he => h e (List.mem_filter.mp he).1

/-- What a directory lists are file names. -/
theorem IsNamed.isName_of_mem_names (h : tree.IsNamed) {directory : Location} {name : String}
    (hname : name ∈ tree.names directory) : Path.IsName name := by
  rw [names, List.mem_mergeSort] at hname
  obtain ⟨e, he, hchild⟩ := List.mem_filterMap.mp hname
  unfold childName? at hchild
  split at hchild
  · rename_i last hlast
    split at hchild
    · cases hchild
      exact h e he name (List.mem_of_getLast? hlast)
    · cases hchild
  · cases hchild

end Tree

/-! ## Where look-ups end -/

section Lookup

variable {tree : Tree} {origin : Origin} {follow : Bool} {path : String} {found : Found}

theorem isSegment_of_mem_steps {text : String} (h : text ∈ steps path) : Path.IsSegment text := by
  unfold steps at h
  split at h
  · rcases List.mem_append.mp h with h | h
    · exact Path.isSegment_of_mem_segments h
    · rw [List.mem_singleton.mp h]
      exact ⟨by decide, by decide⟩
  · exact Path.isSegment_of_mem_segments h

/-- Locations that are not left by going up or by going down under a file name. -/
structure IsClosed (reached : Location → Prop) : Prop where
  root : reached []
  above : ∀ {here}, reached here → reached here.dropLast
  below : ∀ {here name}, reached here → Path.IsName name → reached (here ++ [name])

theorem isClosed_isPlace : IsClosed IsPlace :=
  ⟨isPlace_nil, IsPlace.dropLast, IsPlace.append⟩

/-- What was found is what stands there, and it stands at a location that can be reached. -/
def IsReached (tree : Tree) (reached : Location → Prop) (found : Found) : Prop :=
  reached found.place ∧ found.entry = tree.get? found.place

/-- Names without a slash do not lead out of a closed set, if the links on the way do not. -/
theorem isReached_of_walk {reached : Location → Prop} (closed : IsClosed reached)
    {onLink : Location → String → List String → Except IoError Found}
    (hlink : ∀ here target rest found, reached here → (∀ text ∈ rest, Path.IsSegment text) →
      onLink here target rest = .ok found → IsReached tree reached found)
    {here : Location} {names : List String} (hhere : reached here)
    (hnames : ∀ text ∈ names, Path.IsSegment text)
    (h : walk tree origin follow onLink here names = .ok found) :
    IsReached tree reached found := by
  induction names generalizing here with
  | nil =>
      cases h
      exact ⟨hhere, rfl⟩
  | cons name rest ih =>
      have hrest : ∀ text ∈ rest, Path.IsSegment text :=
        fun text htext => hnames text (List.mem_cons_of_mem name htext)
      unfold walk at h
      split at h
      · split at h
        · exact ih hhere hrest h
        · rename_i hdot
          split at h
          · split at h
            · cases h
            · exact ih (closed.above hhere) hrest h
          · rename_i hdots
            have hname : Path.IsName name := ⟨hnames name List.mem_cons_self, hdot, hdots⟩
            have hnext : reached (here ++ [name]) := closed.below hhere hname
            dsimp only at h
            split at h
            · rename_i hentry
              split at h
              · cases h
                exact ⟨hnext, hentry.symm⟩
              · cases h
            · rename_i hentry
              split at h
              · cases h
                exact ⟨hnext, hentry.symm⟩
              · exact hlink here _ rest found hhere hrest h
            · rename_i hentry
              split at h
              · cases h
                exact ⟨hnext, hentry.symm⟩
              · exact ih hnext hrest h
      · cases h
      · cases h

theorem isReached_of_followLinks {reached : Location → Prop} (closed : IsClosed reached)
    {left : Nat} {here : Location} {target : String} {rest : List String} (hhere : reached here)
    (hrest : ∀ text ∈ rest, Path.IsSegment text)
    (h : followLinks tree origin follow left here target rest = .ok found) :
    IsReached tree reached found := by
  induction left generalizing here target rest found with
  | zero => cases h
  | succ left ih =>
      have hlink : ∀ here target rest found, reached here →
          (∀ text ∈ rest, Path.IsSegment text) →
          followLinks tree origin follow left here target rest = .ok found →
            IsReached tree reached found :=
        fun _ _ _ _ hhere hrest h => ih hhere hrest h
      have hnames : ∀ text ∈ steps target ++ rest, Path.IsSegment text := by
        intro text htext
        rcases List.mem_append.mp htext with htext | htext
        · exact isSegment_of_mem_steps htext
        · exact hrest text htext
      unfold followLinks at h
      split at h
      · split at h
        · cases h
        · exact isReached_of_walk closed hlink closed.root hnames h
      · exact isReached_of_walk closed hlink hhere hnames h

/-- A look-up stays in a closed set. -/
theorem isReached_of_lookup {reached : Location → Prop} (closed : IsClosed reached)
    (horigin : reached origin.directory) (h : lookup tree origin follow path = .ok found) :
    IsReached tree reached found := by
  have hgo : ∀ {here found}, reached here →
      walk tree origin follow (followLinks tree origin follow maxLinks) here (steps path) =
        .ok found → IsReached tree reached found :=
    fun hhere h => isReached_of_walk closed (fun _ _ _ _ => isReached_of_followLinks closed) hhere
      (fun _ => isSegment_of_mem_steps) h
  unfold lookup at h
  dsimp only at h
  split at h
  · cases h
  · split at h
    · split at h
      · cases h
      · exact hgo closed.root h
    · exact hgo horigin h

/-- A look-up ends at a place. -/
theorem isPlace_of_lookup (horigin : IsPlace origin.directory)
    (h : lookup tree origin follow path = .ok found) : IsPlace found.place :=
  (isReached_of_lookup isClosed_isPlace horigin h).1

/-- A look-up tells what stands where it ends. -/
theorem get?_of_lookup (h : lookup tree origin follow path = .ok found) :
    found.entry = tree.get? found.place := by
  have closed : IsClosed fun _ => True := ⟨trivial, id, fun _ _ => trivial⟩
  exact (isReached_of_lookup closed trivial h).2

theorem get?_of_openDirectory {place : Location} (h : openDirectory tree origin path = .ok place) :
    tree.get? place = some .directory := by
  obtain ⟨⟨there, entry⟩, hentry, hopen⟩ := exists_of_bind_eq_ok h
  obtain ⟨found, hlookup, hfound⟩ := exists_of_bind_eq_ok hentry
  have hget := get?_of_lookup hlookup
  obtain ⟨there', _ | stands⟩ := found
  · cases hfound
  · cases hfound
    cases entry with
    | directory =>
        cases hopen
        exact hget.symm
    | file content => cases hopen
    | link target => cases hopen

theorem steps_of_isSegment {text : String} (h : Path.IsSegment text) : steps text = [text] := by
  have hlast : text.toList.getLast? ≠ some '/' := fun hslash =>
    h.2 (List.mem_of_getLast? hslash)
  rw [steps, if_neg hlast, Path.segments_of_isSegment h]

/-- In an open directory, a name that is not followed leads to what stands there. -/
theorem lookup_of_isName {place : Location} {name : String}
    (hplace : tree.get? place = some .directory) (hname : Path.IsName name) :
    lookup tree ⟨place, true⟩ false name =
      .ok ⟨place ++ [name], tree.get? (place ++ [name])⟩ := by
  unfold lookup
  rw [if_neg hname.1.1, Path.not_isAbsolute_of_isSegment hname.1, if_neg Bool.false_ne_true,
    steps_of_isSegment hname.1]
  unfold walk
  simp only [hplace, hname.2.1, hname.2.2, if_false]
  cases tree.get? (place ++ [name]) with
  | none => rfl
  | some entry => cases entry <;> rfl

theorem isPlace_of_lookupEntry {place : Location} {entry : Entry}
    (horigin : IsPlace origin.directory)
    (h : lookupEntry tree origin follow path = .ok (place, entry)) : IsPlace place := by
  obtain ⟨found, hlookup, hentry⟩ := exists_of_bind_eq_ok h
  have hplace := isPlace_of_lookup horigin hlookup
  obtain ⟨there, _ | stands⟩ := found
  · cases hentry
  · cases hentry
    exact hplace

theorem isPlace_of_openDirectory {place : Location} (horigin : IsPlace origin.directory)
    (h : openDirectory tree origin path = .ok place) : IsPlace place := by
  obtain ⟨⟨there, entry⟩, hentry, hopen⟩ := exists_of_bind_eq_ok h
  have hplace := isPlace_of_lookupEntry horigin hentry
  cases entry with
  | directory =>
      cases hopen
      exact hplace
  | file content => cases hopen
  | link target => cases hopen

theorem isName_of_listNames (hnamed : tree.IsNamed) {names : List String}
    (h : listNames tree origin path = .ok names) : ∀ name ∈ names, Path.IsName name := by
  obtain ⟨place, -, hnames⟩ := exists_of_bind_eq_ok h
  cases hnames
  exact fun name hname => hnamed.isName_of_mem_names hname

end Lookup

end File

end NodeVolumes
