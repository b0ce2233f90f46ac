import NodeVolumes.Proofs.Mount.Unmounting
import NodeVolumes.Proofs.Text.Pieces

/-!
# Looking up devices in mount tables

A table that is written from entries is read back: the device at a path is that of the only entry
there, and where there are none or several, that is told, with their number.  Lines about other
paths never count, whatever they look like, and a line that is the only one about the path is
refused if it is no entry (`deviceOfMount_inverts_tableText`).
-/

namespace NodeVolumes.Mount

open Host Text

/-- An entry of which every field is one word. -/
structure Entry.IsWritten (e : Entry) : Prop where
  device : IsWord e.device
  path : IsWord e.path
  type : IsWord e.type
  options : IsWord e.options

/-- A line with the fields of an entry at a path.  Any word stands for the options, with brackets
around it or without. -/
def IsShaped (path line : String) : Prop :=
  ∃ device type options, words line = [device, "on", path, "type", type, options]

/-! ## Reading what was written -/

section Written

variable {path : String} {e : Entry} {entries : List Entry}

theorem Entry.IsWritten.fields (h : e.IsWritten) :
    ∀ text ∈ [e.device, "on", e.path, "type", e.type, e.options], IsWord text := by
  have hon : IsWord "on" := by decide +kernel
  have htype : IsWord "type" := by decide +kernel
  simp [h.device, h.path, h.type, h.options, hon, htype]

theorem words_line (h : e.IsWritten) :
    words e.line = [e.device, "on", e.path, "type", e.type, e.options] :=
  words_intercalate h.fields

theorem isAbout_eq_decide (path line : String) :
    isAbout path line = decide ((words line)[2]? = some path) := by
  rw [isAbout, Bool.eq_iff_iff, beq_iff_eq, decide_eq_true_eq]

theorem isAbout_line (h : e.IsWritten) : isAbout path e.line = decide (e.path = path) := by
  simp [isAbout_eq_decide, words_line h]

theorem deviceOfLine_line (h : e.IsWritten) : deviceOfLine e.line = .ok e.device := by
  simp [deviceOfLine, words_line h]

theorem lines_tableText (h : ∀ e ∈ entries, e.IsWritten) :
    lines (tableText entries) = entries.map Entry.line := by
  induction entries with
  | nil => rfl
  | cons e rest ih =>
      have he := (h e List.mem_cons_self).fields
      have hnewline : '\n' ∉ e.line.toList := notMem_intercalate he (by decide) (by decide)
      have hreturn : '\r' ∉ e.line.toList := notMem_intercalate he (by decide) (by decide)
      have hread : readLine e.line = e.line :=
        readLine_of_ne fun hlast => hreturn (List.mem_of_getLast? hlast)
      have htext : tableText (e :: rest) = e.line ++ "\n" ++ tableText rest := by
        simp [tableText]
      rw [htext, lines_append_line hnewline, hread, ih fun e he => h e (List.mem_cons_of_mem _ he)]
      rfl

theorem filter_isAbout_lines (h : ∀ e ∈ entries, e.IsWritten) :
    (lines (tableText entries)).filter (isAbout path) =
      (entries.filter (·.path = path)).map Entry.line := by
  have habout : entries.filter (isAbout path ∘ Entry.line) = entries.filter (·.path = path) :=
    List.filter_congr fun e he => isAbout_line (h e he)
  rw [lines_tableText h, List.filter_map, habout]

/-- The device at a path is told by the entries there. -/
theorem deviceAt_tableText (h : ∀ e ∈ entries, e.IsWritten) :
    deviceAt path (tableText entries) =
      match entries.filter (·.path = path) with
      | [] => .error (.mountPointNotFound path)
      | [e] => .ok e.device
      | found => .error (.ambiguousMount path found.length) := by
  have hfiltered : (lines (tableText entries)).filter (isAbout path) =
      (entries.filter (·.path = path)).map Entry.line := filter_isAbout_lines h
  unfold deviceAt
  rw [hfiltered]
  generalize hfound : entries.filter (·.path = path) = found
  match found with
  | [] => rfl
  | [e] =>
      have hmem : e ∈ entries.filter (·.path = path) := by
        rw [hfound]
        exact List.mem_cons_self
      exact deviceOfLine_line (h e (List.mem_filter.mp hmem).1)
  | e :: e' :: more => simp

end Written

/-! ## Lines among others -/

section Lines

variable {path table : String} {line : String}

/-- Lines about other paths do not count. -/
theorem deviceAt_of_filter {table' : String} (kept : String → Bool)
    (hlines : lines table' = (lines table).filter kept)
    (hdropped : ∀ line ∈ lines table, kept line = false → isAbout path line = false) :
    deviceAt path table' = deviceAt path table := by
  have habout : (lines table').filter (isAbout path) = (lines table).filter (isAbout path) := by
    rw [hlines, List.filter_filter]
    refine List.filter_congr fun line hmem => ?_
    cases hkept : kept line with
    | true => simp
    | false => simp [hdropped line hmem hkept]
  unfold deviceAt
  rw [habout]

theorem deviceOfLine_of_not_isShaped (habout : isAbout path line = true)
    (hshape : ¬IsShaped path line) : deviceOfLine line = .error (.unparseable line) := by
  have hpath : (words line)[2]? = some path := eq_of_beq habout
  unfold deviceOfLine
  split
  · rename_i device there type options hwords
    rw [hwords] at hpath
    cases hpath
    exact absurd ⟨device, type, options, hwords⟩ hshape
  · rfl

/-- The only line about a path is refused if it is no entry. -/
theorem deviceAt_of_not_isShaped (halone : (lines table).filter (isAbout path) = [line])
    (hshape : ¬IsShaped path line) : deviceAt path table = .error (.unparseable line) := by
  have hmem : line ∈ (lines table).filter (isAbout path) := by
    rw [halone]
    exact List.mem_cons_self
  unfold deviceAt
  rw [halone]
  exact deviceOfLine_of_not_isShaped (List.mem_filter.mp hmem).2 hshape

end Lines

/-! ## The run of a look-up -/

section Run

variable {σ : Type} (answer : (r : Host.Request) → StateM σ r.Answer)

def locating (s : Setup) (path : String) (host : σ) : Run interface σ (Except Error String) :=
  (deviceOfMount s path).run.play answer host

/-- On a host the mount command succeeds and prints a table. -/
def Lists (s : Setup) (host : σ) (table : String) : Prop :=
  ∃ output : Command.Output, (answer (.run (tableListing s)) host).1 = .ok output ∧
    output.isSuccess = true ∧ output.stdout = table

variable {answer} {s : Setup} {path table : String} {host : σ}

theorem value_locating (h : Lists answer s host table) :
    (locating answer s path host).value = (deviceAt path table).mapError Error.table := by
  obtain ⟨output, hreply, hsuccess, rfl⟩ := h
  unfold locating deviceOfMount
  rw [play_run_bind hreply hsuccess, Run.value_after]
  cases deviceAt path output.stdout <;> rfl

end Run

/--
On any host whose table is written from entries, one a line, the device at a path is that of the
only entry with the path; none and several entries are told apart, with the number of the several.
In any table, lines about other paths make no difference, and a line that is the only one about the
path is refused if it does not have the fields of an entry.
-/
theorem deviceOfMount_inverts_tableText {σ : Type}
    (answer : (r : Host.Request) → StateM σ r.Answer) (s : Setup) (path : String) :
    (∀ host entries, (∀ e ∈ entries, e.IsWritten) → Lists answer s host (tableText entries) →
      let found := entries.filter (·.path = path)
      let value := (locating answer s path host).value
      (∀ device, value = .ok device ↔ ∃ e, found = [e] ∧ e.device = device) ∧
      (value = .error (.table (.mountPointNotFound path)) ↔ found = []) ∧
      ∀ count, value = .error (.table (.ambiguousMount path count)) ↔
        2 ≤ count ∧ found.length = count) ∧
    (∀ host host' table table' kept, Lists answer s host table → Lists answer s host' table' →
      lines table' = (lines table).filter kept →
        (∀ line ∈ lines table, kept line = false → (words line)[2]? ≠ some path) →
          (locating answer s path host').value = (locating answer s path host).value) ∧
    ∀ host table line, Lists answer s host table →
      (lines table).filter (fun line => (words line)[2]? = some path) = [line] →
        ¬IsShaped path line →
          (locating answer s path host).value = .error (.table (.unparseable line)) := by
  refine ⟨?_, ?_, ?_⟩
  · intro host entries hwritten hlists found value
    have hvalue : value = (deviceAt path (tableText entries)).mapError Error.table :=
      value_locating hlists
    rw [deviceAt_tableText hwritten] at hvalue
    change value = Except.mapError Error.table (match found with
      | [] => .error (.mountPointNotFound path)
      | [e] => .ok e.device
      | found => .error (.ambiguousMount path found.length)) at hvalue
    clear_value found value
    match found with
    | [] =>
        have hnone : value = .error (.table (.mountPointNotFound path)) := hvalue
        simp [hnone]
        omega
    | [e] =>
        have hone : value = .ok e.device := hvalue
        simp [hone]
        omega
    | e :: e' :: more =>
        have hmore : value = .error (.table (.ambiguousMount path (e :: e' :: more).length)) :=
          hvalue
        simp [hmore]
  · intro host host' table table' kept hlists hlists' hlines hdropped
    rw [value_locating hlists, value_locating hlists', deviceAt_of_filter kept hlines ?_]
    intro line hmem hkept
    simpa [isAbout_eq_decide] using hdropped line hmem hkept
  · intro host table line hlists halone hshape
    have habout : (lines table).filter (isAbout path) = [line] := by
      rw [← halone]
      exact List.filter_congr fun line _ => isAbout_eq_decide path line
    rw [value_locating hlists, deviceAt_of_not_isShaped habout hshape]
    rfl

def printing (table : String) : Station :=
  .fresh [] (.script [⟨⟨some 0, table, ""⟩, []⟩])

theorem lists_printing (s : Setup) (table : String) :
    Lists Station.answer s (printing table) table :=
  ⟨⟨some 0, table, ""⟩, rfl, rfl, rfl⟩

/-- One entry at a path, two at another, and a line about the first that is cut off. -/
theorem deviceOfMount_inverts_three :
    let s : Setup := { globalMounts := "/mnt" }
    let entries : List Entry := [⟨"/dev/sdb", "/mnt/a", "ext4", "(rw)"⟩,
      ⟨"/dev/sdc", "/mnt/b", "xfs", "(ro)"⟩, ⟨"/dev/sdd", "/mnt/b", "xfs", "(ro)"⟩]
    let found (path table : String) := (locating Station.answer s path (printing table)).value
    (∀ e ∈ entries, e.IsWritten) ∧
      found "/mnt/a" (tableText entries) = .ok "/dev/sdb" ∧
      found "/mnt/b" (tableText entries) = .error (.table (.ambiguousMount "/mnt/b" 2)) ∧
      found "/mnt" (tableText entries) = .error (.table (.mountPointNotFound "/mnt")) ∧
      found "/mnt/a" ("systemd-1 on\n" ++ tableText entries) = .ok "/dev/sdb" ∧
      found "/mnt/a" "/dev/sdb on /mnt/a type ext4\n/dev/sdc on /mnt/b\n" =
        .error (.table (.unparseable "/dev/sdb on /mnt/a type ext4")) := by
  intro s entries found
  have hwritten : ∀ e ∈ entries, e.IsWritten := by
    have hone : ∀ text ∈ ["/dev/sdb", "/mnt/a", "ext4", "(rw)", "/dev/sdc", "/mnt/b", "xfs",
        "(ro)", "/dev/sdd"], IsWord text := by decide +kernel
    intro e he
    simp only [entries, List.mem_cons, List.not_mem_nil, or_false] at he
    rcases he with rfl | rfl | rfl <;> constructor <;> exact hone _ (by simp)
  have hlists (table : String) := lists_printing s table
  have hinverts (path : String) := deviceOfMount_inverts_tableText Station.answer s path
  have hwrittenAt (path : String) := (hinverts path).1 _ entries hwritten (hlists _)
  have hlines : lines (tableText entries) =
      (lines ("systemd-1 on\n" ++ tableText entries)).filter (· ≠ "systemd-1 on") := by
    decide +kernel
  have ha : found "/mnt/a" (tableText entries) = .ok "/dev/sdb" :=
    ((hwrittenAt "/mnt/a").1 _).mpr ⟨_, rfl, rfl⟩
  have hb := ((hwrittenAt "/mnt/b").2.2 2).mpr ⟨Nat.le_refl 2, rfl⟩
  have hnone := (hwrittenAt "/mnt").2.1.mpr rfl
  have hother := (hinverts "/mnt/a").2.1 _ _ _ _ _ (hlists _) (hlists _) hlines (by decide +kernel)
  have hcut : ¬IsShaped "/mnt/a" "/dev/sdb on /mnt/a type ext4" := by
    have hlength : (words "/dev/sdb on /mnt/a type ext4").length = 5 := by decide +kernel
    rintro ⟨device, type, options, hwords⟩
    simp [hwords] at hlength
  have hrefused := (hinverts "/mnt/a").2.2 _
    "/dev/sdb on /mnt/a type ext4\n/dev/sdc on /mnt/b\n" _ (hlists _) (by decide +kernel) hcut
  exact ⟨hwritten, ha, hb, hnone, hother.symm.trans ha, hrefused⟩

end NodeVolumes.Mount
