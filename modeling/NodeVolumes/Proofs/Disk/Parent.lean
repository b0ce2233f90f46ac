import NodeVolumes.Proofs.Disk.Discovery
import NodeVolumes.Proofs.File.Listing

/-!
# Parents and slaves

The parent of a disk is found by the entry of the disk among the slaves of a device-mapper device,
so the disk is one of the slaves that are listed for that parent (`LeadsTo`).  What a wait for a
disk ends with was described on the host as the wait left it (`exists_describe_of_waitFor`).
-/

namespace NodeVolumes

open Host

theorem Path.join_right_inj {base a b : String} (ha : isAbsolute a = false)
    (hb : isAbsolute b = false) : join base a = join base b ↔ a = b := by
  unfold join
  rw [ha, hb, if_neg Bool.false_ne_true, if_neg Bool.false_ne_true]
  split <;> simp

namespace Host.Station

/-- Something stands under a name in the directory that a path below a root leads to. -/
def HasEntry (s : Station) (root directory name : String) : Prop :=
  ∃ origin, s.below root = .ok origin ∧ File.HasEntry s.tree origin directory name

variable {s : Station} {root directory name : String}

theorem entryExists_iff_hasEntry (hempty : directory ≠ "") (hbare : File.IsBare directory)
    (hname : Path.IsName name) :
    s.entryExists root (directory ++ "/" ++ name) = true ↔ s.HasEntry root directory name := by
  unfold entryExists HasEntry
  cases s.below root with
  | error e => simp
  | ok origin => simpa using File.isOk_lookupEntry_iff_hasEntry hempty hbare hname

theorem mem_iff_hasEntry {names : List String} (h : s.names root directory = .ok names) :
    name ∈ names ↔ s.HasEntry root directory name := by
  obtain ⟨origin, hbelow, hlist⟩ := exists_of_bind_eq_ok h
  rw [File.mem_iff_hasEntry hlist, HasEntry, hbelow]
  simp

theorem IsSound.isName_of_hasEntry (h : s.IsSound) (hentry : s.HasEntry root directory name) :
    Path.IsName name := by
  obtain ⟨origin, -, place, -, hsome⟩ := hentry
  exact h.tree.isName_of_mem_names (File.Tree.mem_names_iff.mpr hsome)

theorem HasEntry.exists_names (h : s.HasEntry root directory name) :
    ∃ names, s.names root directory = .ok names ∧ name ∈ names := by
  obtain ⟨origin, hbelow, hentry⟩ := h
  obtain ⟨names, hlist, hmem⟩ := hentry.exists_listNames
  refine ⟨names, ?_, hmem⟩
  rw [Station.names, hbelow]
  exact hlist

end Host.Station

namespace Disk

theorem not_isAbsolute_of_isMapped {device : String} (h : isMapped device = true) :
    Path.isAbsolute device = false := by
  rw [isMapped, Text.startsWith, Text.hasStart_iff] at h
  obtain ⟨rest, hrest⟩ := h
  rw [Path.isAbsolute, ← hrest]
  rfl

theorem isBare_slaveDirectory (device : String) : File.IsBare (slaveDirectory device) := by
  have hlast : "/slaves".toList.getLast? = some 's' := by decide
  unfold File.IsBare slaveDirectory
  rw [String.toList_append, List.getLast?_append, hlast]
  simp

theorem slaveDirectory_ne_empty (device : String) : slaveDirectory device ≠ "" := by
  simp [slaveDirectory]

section Find

variable {s : Station} {root slave : String}

theorem value_firstWithSlave (devices : List String) :
    ((firstWithSlave root slave devices).play Station.answer s).value =
      devices.find? fun device => s.entryExists root (slaveDirectory device ++ "/" ++ slave) := by
  induction devices with
  | nil => rfl
  | cons device rest ih =>
      have hfirst : firstWithSlave root slave (device :: rest) =
          .ask (I := interface) (.entryExists root (slaveDirectory device ++ "/" ++ slave))
            fun found => if found then .done (some device) else firstWithSlave root slave rest := by
        refine congrArg (Flow.ask (I := interface) _) (funext fun found => ?_)
        cases found <;> rfl
      have hanswer : Station.answer (.entryExists root (slaveDirectory device ++ "/" ++ slave)) s =
          (s.entryExists root (slaveDirectory device ++ "/" ++ slave), s) := rfl
      rw [hfirst, Flow.play_ask, Run.value_after, hanswer, List.find?_cons]
      cases s.entryExists root (slaveDirectory device ++ "/" ++ slave) with
      | true => rfl
      | false => exact ih

def parentOn (s : Station) (root slave : String) : Option String :=
  match s.names root blockDirectory with
  | .error _ => none
  | .ok names =>
      (names.filter isMapped).find? fun device =>
        s.entryExists root (slaveDirectory device ++ "/" ++ slave)

theorem value_parentOf :
    ((parentOf root slave).play Station.answer s).value = parentOn s root slave := by
  have hparent : parentOf root slave = .ask (I := interface) (.names root blockDirectory)
      fun reply => match reply with
        | .error _ => .done none
        | .ok names => firstWithSlave root slave (names.filter isMapped) := by
    refine congrArg (Flow.ask (I := interface) _) (funext fun reply => ?_)
    cases reply <;> rfl
  have hanswer : Station.answer (.names root blockDirectory) s =
      (s.names root blockDirectory, s) := rfl
  rw [hparent, Flow.play_ask, Run.value_after, hanswer, parentOn]
  dsimp only
  cases s.names root blockDirectory with
  | error e => rfl
  | ok names => exact value_firstWithSlave _

theorem value_slavesOf {device : String} :
    ((slavesOf root device).play Station.answer s).value =
      ((s.names root (slaveDirectory device)).toOption).getD [] := by
  have hslaves : slavesOf root device = .ask (I := interface) (.names root (slaveDirectory device))
      fun reply => .done (reply.toOption.getD []) := by
    refine congrArg (Flow.ask (I := interface) _) (funext fun reply => ?_)
    cases reply <;> rfl
  rw [hslaves]
  rfl

/-- The parent of a disk has it as a slave. -/
theorem hasEntry_of_parentOn {parent : String} (hslave : Path.IsName slave)
    (h : parentOn s root slave = some parent) :
    isMapped parent = true ∧ s.HasEntry root (slaveDirectory parent) slave := by
  unfold parentOn at h
  split at h
  · cases h
  · have hmapped := (List.mem_filter.mp (List.mem_of_find?_eq_some h)).2
    have hfound := List.find?_some h
    exact ⟨hmapped, (Station.entryExists_iff_hasEntry (slaveDirectory_ne_empty parent)
      (isBare_slaveDirectory parent) hslave).mp hfound⟩

end Find

section Describe

variable {s : Station} {layout : Layout} {expected : String} {d : Descriptor}

/-- The parent of a description is a device-mapper device that lists, on the host, the slaves of
the description and the disk itself among them. -/
structure LeadsTo (s : Station) (layout : Layout) (d : Descriptor) (parent : String) : Prop where
  mapped : isMapped parent = true
  path : d.parent = some (Path.join layout.devRoot parent)
  slaves : ∃ names, s.names layout.sysfsRoot (slaveDirectory parent) = .ok names ∧
    d.slaves = names.map (Path.join layout.devRoot) ∧
    ∃ device ∈ names, Path.fileName d.resolved = some device

/-- What a device behind a link is described as below a device-mapper device. -/
def below (s : Station) (layout : Layout) (expected target mapper : String) : Descriptor where
  expected
  resolved := target
  parent := some (Path.join layout.devRoot mapper)
  slaves := ((s.names layout.sysfsRoot (slaveDirectory mapper)).toOption.getD []).map
    (Path.join layout.devRoot)

theorem value_describeTarget {target : String} :
    ((describeTarget layout expected target).play Station.answer s).value =
      match Path.fileName target with
      | none => .error (.unresolvable expected (.unnamed target))
      | some device =>
          match parentOn s layout.sysfsRoot device with
          | none => .ok { expected, resolved := target }
          | some mapper => .ok (below s layout expected target mapper) := by
  unfold describeTarget
  cases Path.fileName target with
  | none => rfl
  | some device =>
      dsimp only
      rw [Flow.play_bind, Run.value_after, value_parentOf,
        Station.final_play_of_onlyLooks (parentOf_onlyLooks layout.sysfsRoot device)]
      cases parentOn s layout.sysfsRoot device with
      | none => rfl
      | some mapper =>
          dsimp only
          rw [Flow.play_bind, Run.value_after, value_slavesOf]
          rfl

theorem leadsTo_below {target device mapper : String} (hdevice : Path.fileName target = some device)
    (hfound : parentOn s layout.sysfsRoot device = some mapper) :
    LeadsTo s layout (below s layout expected target mapper) mapper := by
  obtain ⟨hmapped, hentry⟩ := hasEntry_of_parentOn (Path.isName_of_fileName hdevice) hfound
  obtain ⟨names, hnames, hmem⟩ := hentry.exists_names
  refine ⟨hmapped, rfl, names, hnames, ?_, device, hmem, hdevice⟩
  rw [below, hnames]
  rfl

theorem leadsTo_of_describeTarget {target : String} (hparent : d.parent.isSome = true)
    (h : ((describeTarget layout expected target).play Station.answer s).value = .ok d) :
    ∃ parent, LeadsTo s layout d parent := by
  rw [value_describeTarget] at h
  cases hdevice : Path.fileName target with
  | none =>
      rw [hdevice] at h
      cases h
  | some device =>
      rw [hdevice] at h
      dsimp only at h
      cases hfound : parentOn s layout.sysfsRoot device with
      | none =>
          rw [hfound] at h
          cases h
          cases hparent
      | some mapper =>
          rw [hfound] at h
          cases h
          exact ⟨mapper, leadsTo_below hdevice hfound⟩

theorem leadsTo_of_describe {isLink : Bool} (hparent : d.parent.isSome = true)
    (h : ((describe layout expected isLink).run.play Station.answer s).value = .ok d) :
    ∃ parent, LeadsTo s layout d parent := by
  cases isLink with
  | false =>
      cases h
      cases hparent
  | true =>
      have hanswer : Station.answer (.canonical expected) s = (s.canonical expected, s) := rfl
      rw [run_describe_link, Flow.play_ask, Run.value_after, hanswer] at h
      cases htarget : s.canonical expected with
      | error e =>
          rw [htarget] at h
          cases h
      | ok target =>
          rw [htarget] at h
          exact leadsTo_of_describeTarget hparent h

end Describe

section Wait

variable {helper : Option String} {policy : Policy} {layout : Layout}
  {expected directory name : String} {d : Descriptor}

/-- What a wait ends with was described on the host that it leaves. -/
theorem exists_describe_of_poll {left : Nat} {s : Station}
    (h : ((poll helper policy layout expected directory name left).run.play Station.answer
      s).value = .ok d) :
    ∃ isLink, ((describe layout expected isLink).run.play Station.answer
      ((poll helper policy layout expected directory name left).run.play Station.answer
        s).final).value = .ok d := by
  induction left generalizing s with
  | zero => cases h
  | succ left ih =>
      rw [play_poll_succ, Run.value_after] at h
      rw [play_poll_succ, Run.final_after]
      cases hlook : (nudged helper policy layout expected s).isLink directory name with
      | error e =>
          rw [hlook] at h
          exact ih h
      | ok isLink =>
          rw [hlook] at h
          refine ⟨isLink, ?_⟩
          have hfinal : ((afterLook helper policy layout expected directory name left
              (.ok isLink)).run.play Station.answer
              (nudged helper policy layout expected s)).final =
              nudged helper policy layout expected s :=
            Station.final_play_of_onlyLooks (describe_onlyLooks layout expected isLink) _
          rw [hfinal]
          exact h

theorem leadsTo_of_waitFor {s : Station} (hparent : d.parent.isSome = true)
    (h : ((waitFor helper policy layout expected).run.play Station.answer s).value = .ok d) :
    ∃ parent, LeadsTo ((waitFor helper policy layout expected).run.play Station.answer s).final
      layout d parent := by
  unfold waitFor at h ⊢
  cases hname : Path.fileName expected with
  | none =>
      rw [hname] at h
      cases h
  | some name =>
      rw [hname] at h
      obtain ⟨isLink, hdescribe⟩ := exists_describe_of_poll h
      exact leadsTo_of_describe hparent hdescribe

end Wait

end Disk

end NodeVolumes
