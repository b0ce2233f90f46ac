import NodeVolumes.Proofs.Disk.Parent

/-!
# Descriptions and the tree

A description says what is in the tree that the host has when discovery ends: the device behind the
link, of the device-mapper devices that have it as a slave the first one, and all slaves of that
(`IsCoherent`).  Discovery ends with such a description wherever the path is there, or tells why
its link leads to no device (`waitFor_coherent`).
-/

namespace NodeVolumes

open Host

theorem Path.join_eq_append (base : String) :
    ∃ start, ∀ part, isAbsolute part = false → join base part = start ++ part := by
  by_cases hbase : base = "" ∨ base.toList.getLast? = some '/'
  · refine ⟨base, fun part hpart => ?_⟩
    rw [join, hpart, if_neg Bool.false_ne_true, if_pos hbase]
  · refine ⟨base ++ "/", fun part hpart => ?_⟩
    rw [join, hpart, if_neg Bool.false_ne_true, if_neg hbase]

/-- Names are in the same order behind one base. -/
theorem Path.utf8Bytes_join_lt {base a b : String} (ha : isAbsolute a = false)
    (hb : isAbsolute b = false) (h : a < b) :
    Text.utf8Bytes (join base a) < Text.utf8Bytes (join base b) := by
  obtain ⟨start, hstart⟩ := join_eq_append base
  have hbytes (part : String) :
      Text.utf8Bytes (start ++ part) = Text.utf8Bytes start ++ Text.utf8Bytes part := by
    simp [Text.utf8Bytes]
  rw [hstart a ha, hstart b hb, hbytes, hbytes]
  exact List.Lex.append_left _ (Text.utf8Bytes_lt_iff.mpr h) _

theorem Host.Station.pairwise_names {s : Station} (h : s.tree.WellFormed)
    {root directory : String} {names : List String} (hnames : s.names root directory = .ok names) :
    names.Pairwise (· < ·) := by
  obtain ⟨origin, -, hlist⟩ := exists_of_bind_eq_ok hnames
  obtain ⟨place, -, hplace⟩ := exists_of_bind_eq_ok hlist
  cases hplace
  exact h.pairwise_names place

namespace Disk

/-- A device-mapper device that has a device as a slave. -/
structure Maps (s : Station) (root device mapper : String) : Prop where
  mapped : isMapped mapper = true
  listed : s.HasEntry root blockDirectory mapper
  slave : s.HasEntry root (slaveDirectory mapper) device

/-- Of the device-mapper devices that have a device as a slave, the first by the bytes of its
name. -/
structure MapsFirst (s : Station) (root device mapper : String) : Prop where
  maps : Maps s root device mapper
  first : ∀ other, Maps s root device other → ¬Text.utf8Bytes other < Text.utf8Bytes mapper

/-- A description of what a link leads to says what the tree of a host has about the device. -/
structure IsCoherent (s : Station) (layout : Layout) (device : String) (d : Descriptor) : Prop where
  parent : ∀ path, d.parent = some path ↔
    ∃ mapper, MapsFirst s layout.sysfsRoot device mapper ∧ path = Path.join layout.devRoot mapper
  slaves : ∀ mapper, MapsFirst s layout.sysfsRoot device mapper → ∀ path, path ∈ d.slaves ↔
    ∃ slave, s.HasEntry layout.sysfsRoot (slaveDirectory mapper) slave ∧
      path = Path.join layout.devRoot slave
  ascending : d.slaves.Pairwise fun a b => Text.utf8Bytes a < Text.utf8Bytes b
  itself : ∀ mapper, MapsFirst s layout.sysfsRoot device mapper →
    Path.join layout.devRoot device ∈ d.slaves ∧
      d.devicePath = Path.join layout.devRoot mapper
  alone : (∀ mapper, ¬Maps s layout.sysfsRoot device mapper) →
    d.parent = none ∧ d.slaves = [] ∧ d.devicePath = d.resolved

section Search

variable {s : Station} {root device mapper : String}

theorem maps_iff_mem {names : List String} (hdevice : Path.IsName device)
    (hnames : s.names root blockDirectory = .ok names) (mapper : String) :
    Maps s root device mapper ↔ mapper ∈ names.filter isMapped ∧
      s.entryExists root (slaveDirectory mapper ++ "/" ++ device) = true := by
  rw [List.mem_filter, Station.mem_iff_hasEntry hnames, Station.entryExists_iff_hasEntry
    (slaveDirectory_ne_empty mapper) (isBare_slaveDirectory mapper) hdevice]
  constructor
  · intro h
    exact ⟨⟨h.listed, h.mapped⟩, h.slave⟩
  · rintro ⟨⟨hlisted, hmapped⟩, hslave⟩
    exact ⟨hmapped, hlisted, hslave⟩

/-- The search for a parent comes to the first device-mapper device with the slave. -/
theorem parentOn_eq_some_iff (htree : s.tree.WellFormed) (hdevice : Path.IsName device) :
    parentOn s root device = some mapper ↔ MapsFirst s root device mapper := by
  unfold parentOn
  cases hnames : s.names root blockDirectory with
  | error e =>
      constructor
      · intro h
        cases h
      · intro h
        obtain ⟨names, hlisted, -⟩ := h.maps.listed.exists_names
        rw [hnames] at hlisted
        cases hlisted
  | ok names =>
      have hmaps := maps_iff_mem hdevice hnames
      have hascending := (Station.pairwise_names htree hnames).filter isMapped
      dsimp only
      rw [Text.find?_eq_some_iff_of_ascending hascending]
      constructor
      · rintro ⟨hmem, hfound, hfirst⟩
        refine ⟨(hmaps mapper).mpr ⟨hmem, hfound⟩, fun other hother => ?_⟩
        rw [Text.utf8Bytes_lt_iff]
        obtain ⟨hin, hhas⟩ := (hmaps other).mp hother
        exact hfirst other hin hhas
      · rintro ⟨hmapper, hfirst⟩
        obtain ⟨hmem, hfound⟩ := (hmaps mapper).mp hmapper
        refine ⟨hmem, hfound, fun other hin hhas => ?_⟩
        rw [← Text.utf8Bytes_lt_iff]
        exact hfirst other ((hmaps other).mpr ⟨hin, hhas⟩)

theorem parentOn_ne_none (hdevice : Path.IsName device) (h : Maps s root device mapper) :
    parentOn s root device ≠ none := by
  obtain ⟨names, hnames, -⟩ := h.listed.exists_names
  obtain ⟨hmem, hfound⟩ := (maps_iff_mem hdevice hnames mapper).mp h
  unfold parentOn
  rw [hnames]
  intro hnone
  exact List.find?_eq_none.mp hnone mapper hmem hfound

end Search

section Describe

variable {s : Station} {layout : Layout} {device : String} {d : Descriptor}

theorem isCoherent_of_alone (hdevice : Path.IsName device)
    (hfound : parentOn s layout.sysfsRoot device = none) (hparent : d.parent = none)
    (hslaves : d.slaves = []) : IsCoherent s layout device d := by
  have hnone (mapper : String) : ¬Maps s layout.sysfsRoot device mapper :=
    fun hmaps => parentOn_ne_none hdevice hmaps hfound
  exact
    { parent := by simpa [hparent] using fun path mapper h => absurd h.maps (hnone mapper)
      slaves := fun mapper h => absurd h.maps (hnone mapper)
      ascending := by simp [hslaves]
      itself := fun mapper h => absurd h.maps (hnone mapper)
      alone := fun _ => ⟨hparent, hslaves, by simp [Descriptor.devicePath, hparent]⟩ }

/-- Slaves are listed by name and told by path. -/
theorem isCoherent_of_leadsTo (hsound : s.IsSound) (htree : s.tree.WellFormed)
    (hdevice : Path.IsName device) {mapper : String}
    (hfound : parentOn s layout.sysfsRoot device = some mapper) (h : LeadsTo s layout d mapper) :
    IsCoherent s layout device d := by
  obtain ⟨names, hnames, hslaves, -⟩ := h.slaves
  have hfirst := (parentOn_eq_some_iff htree hdevice).mp hfound
  have honly {other : String} (hother : MapsFirst s layout.sysfsRoot device other) :
      other = mapper := by
    have hsome := (parentOn_eq_some_iff htree hdevice).mpr hother
    rw [hfound] at hsome
    exact (Option.some.inj hsome).symm
  have hrelative : ∀ name ∈ names, Path.isAbsolute name = false := by
    intro name hname
    have hentry := (Station.mem_iff_hasEntry hnames).mp hname
    exact Path.not_isAbsolute_of_isSegment (hsound.isName_of_hasEntry hentry).1
  have hmem (path : String) : path ∈ d.slaves ↔ ∃ slave,
      s.HasEntry layout.sysfsRoot (slaveDirectory mapper) slave ∧
        path = Path.join layout.devRoot slave := by
    rw [hslaves, List.mem_map]
    simp only [Station.mem_iff_hasEntry hnames, eq_comm]
  exact
    { parent := by
        intro path
        rw [h.path]
        constructor
        · rintro ⟨⟩
          exact ⟨mapper, hfirst, rfl⟩
        · rintro ⟨other, hother, rfl⟩
          rw [honly hother]
      slaves := by
        intro other hother path
        rw [honly hother]
        exact hmem path
      ascending := by
        rw [hslaves, List.pairwise_map]
        refine (Station.pairwise_names htree hnames).imp_of_mem fun ha hb hlt => ?_
        exact Path.utf8Bytes_join_lt (hrelative _ ha) (hrelative _ hb) hlt
      itself := by
        intro other hother
        rw [honly hother]
        refine ⟨(hmem _).mpr ⟨device, hfirst.maps.slave, rfl⟩, ?_⟩
        simp [Descriptor.devicePath, h.path]
      alone := fun hnone => absurd hfirst.maps (hnone mapper) }

/-- The target of a link is described as the tree has it. -/
theorem isCoherent_describeTarget (hsound : s.IsSound) (htree : s.tree.WellFormed)
    {expected target : String} (hdevice : Path.fileName target = some device) :
    ∃ d, ((describeTarget layout expected target).play Station.answer s).value = .ok d ∧
      d.expected = expected ∧ d.resolved = target ∧ IsCoherent s layout device d := by
  have hname := Path.isName_of_fileName hdevice
  rw [value_describeTarget, hdevice]
  dsimp only
  cases hfound : parentOn s layout.sysfsRoot device with
  | none => exact ⟨_, rfl, rfl, rfl, isCoherent_of_alone hname hfound rfl rfl⟩
  | some mapper =>
      have hleads : LeadsTo s layout (below s layout expected target mapper) mapper :=
        leadsTo_below hdevice hfound
      exact ⟨_, rfl, rfl, rfl, isCoherent_of_leadsTo hsound htree hname hfound hleads⟩

theorem value_describe_link {expected : String} :
    ((describe layout expected true).run.play Station.answer s).value =
      match s.canonical expected with
      | .error e => .error (.unresolvable expected (.io e))
      | .ok target => ((describeTarget layout expected target).play Station.answer s).value := by
  have hanswer : Station.answer (.canonical expected) s = (s.canonical expected, s) := rfl
  rw [run_describe_link, Flow.play_ask, Run.value_after, hanswer]
  cases s.canonical expected <;> rfl

end Describe

/--
If the path is there when discovery ends, then it was described as the host has it.  A path that is
no link is the device itself.  A link that cannot be resolved, or to a place without a name, is told
to lead to no device, and any other comes to a description that says what the tree has about the
device that the link leads to.
-/
theorem waitFor_coherent (helper : Option String) {policy : Policy} (layout : Layout)
    {expected name : String} {host : Station} (hsound : host.IsSound)
    (htree : host.tree.WellFormed) (hattempts : 0 < policy.attempts)
    (hname : Path.fileName expected = some name) :
    let r := (waitFor helper policy layout expected).run.play Station.answer host
    ∀ entry, r.final.entryAt? ((Path.parent expected).getD "/") name = some entry →
      (entry.isLink = false → r.value = .ok { expected, resolved := expected }) ∧
      (entry.isLink = true →
        (∀ e, r.final.canonical expected = .error e →
          r.value = .error (.unresolvable expected (.io e))) ∧
        ∀ target, r.final.canonical expected = .ok target →
          (Path.fileName target = none →
            r.value = .error (.unresolvable expected (.unnamed target))) ∧
          ∀ device, Path.fileName target = some device →
            ∃ d, r.value = .ok d ∧ d.expected = expected ∧ d.resolved = target ∧
              IsCoherent r.final layout device d) := by
  intro r entry hentry
  have hsound' : r.final.IsSound := hsound.play _
  have htree' : r.final.tree.WellFormed := Station.wellFormed_play htree _
  have hvalue : r.value =
      ((describe layout expected entry.isLink).run.play Station.answer r.final).value := by
    rcases waitFor_cases helper layout hname hattempts host with
      ⟨seen, hseen, hdescribed⟩ | ⟨hmissed, -⟩
    · rw [hentry] at hseen
      cases hseen
      exact hdescribed
    · rw [hentry] at hmissed
      cases hmissed
  constructor
  · intro hlink
    rw [hvalue, hlink]
    rfl
  · intro hlink
    rw [hlink, value_describe_link] at hvalue
    constructor
    · intro e hfault
      rw [hvalue, hfault]
    · intro target htarget
      rw [htarget] at hvalue
      constructor
      · intro hnone
        rw [hvalue]
        dsimp only
        rw [value_describeTarget, hnone]
      · intro device hdevice
        rw [hvalue]
        exact isCoherent_describeTarget hsound' htree' hdevice

def mapped : Station :=
  .fresh [.file "sys/block/dm-10/slaves/sdb" "", .file "dev/sdb" "",
      .link "dev/disk/by-id/wwn-0x1" "../../sdb"]
    (.script [])

theorem waitFor_coherent_mapped :
    let expected := "/dev/disk/by-id/wwn-0x1"
    let r := (waitFor none { attempts := 1, interval := 5 } {} expected).run.play
      Station.answer mapped
    mapped.IsSound ∧ mapped.tree.WellFormed ∧ Path.fileName expected = some "wwn-0x1" ∧
      r.final.entryAt? ((Path.parent expected).getD "/") "wwn-0x1" = some (.link "../../sdb") ∧
      r.value = .ok { expected, resolved := "/dev/sdb", parent := some "/dev/dm-10",
                      slaves := ["/dev/sdb"] } ∧
      ∃ d, r.value = .ok d ∧ IsCoherent r.final {} "sdb" d := by
  intro expected r
  have hsound : mapped.IsSound := Station.isSound_fresh _ _
  have htree : mapped.tree.WellFormed := Station.wellFormed_fresh _ _
  have hname : Path.fileName expected = some "wwn-0x1" := by decide +kernel
  have hentry : r.final.entryAt? ((Path.parent expected).getD "/") "wwn-0x1" =
      some (.link "../../sdb") := by decide +kernel
  have htarget : r.final.canonical expected = .ok "/dev/sdb" :=
    eq_ok_of_toOption (by decide +kernel)
  obtain ⟨-, hlink⟩ := waitFor_coherent none {} hsound htree (by decide) hname _ hentry
  obtain ⟨d, hd, -, -, hcoherent⟩ := ((hlink rfl).2 _ htarget).2 "sdb" (by decide +kernel)
  exact ⟨hsound, htree, hname, hentry, eq_ok_of_toOption (by decide +kernel), d, hd, hcoherent⟩

end Disk

end NodeVolumes
