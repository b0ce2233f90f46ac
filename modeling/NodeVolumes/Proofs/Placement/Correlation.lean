import NodeVolumes.Proofs.Cloud.Naming
import NodeVolumes.Proofs.Placement.Run

/-!
# Correlation in a world

Which instance a node is (`World.locate`) and which volume a name stands for
(`World.volumeNamed`), told from the world alone.  Correlating an action changes nothing, ends
with that answer, and succeeds exactly if the address occurs once over all ports
(`locate_eq_ok_iff`), or the name once over all volumes (`volumeNamed_eq_ok_iff`).
-/

namespace NodeVolumes

def Cloud.Memory.ports (m : Memory) : List Net.Ipv4 :=
  m.instances.flatMap Instance.addresses

namespace Placement

open Text

/-! ## The only port and the only volume -/

theorem mem_portOwners {address : Net.Ipv4} {instances : List Cloud.Instance}
    {i : Cloud.Instance} :
    i ∈ portOwners address instances ↔ i ∈ instances ∧ address ∈ i.addresses := by
  simp only [portOwners, List.mem_flatMap, List.mem_replicate]
  constructor
  · rintro ⟨owner, howner, hcount, rfl⟩
    exact ⟨howner, List.count_pos_iff.mp (Nat.pos_of_ne_zero hcount)⟩
  · rintro ⟨hi, haddress⟩
    exact ⟨i, hi, Nat.ne_of_gt (List.count_pos_iff.mpr haddress), rfl⟩

theorem owner_eq_ok_iff {address : Net.Ipv4} {instances : List Cloud.Instance}
    {i : Cloud.Instance} :
    owner address instances = .ok i ↔ portOwners address instances = [i] := by
  unfold owner
  split <;> simp_all

/-- One port of an address has one owner. -/
theorem portOwners_eq_singleton_iff {address : Net.Ipv4} {instances : List Cloud.Instance}
    {i : Cloud.Instance} :
    portOwners address instances = [i] ↔
      (instances.flatMap Cloud.Instance.addresses).count address = 1 ∧
        i ∈ instances ∧ address ∈ i.addresses := by
  have hlength := length_portOwners address instances
  have hmem : i ∈ portOwners address instances ↔ i ∈ instances ∧ address ∈ i.addresses :=
    mem_portOwners
  constructor
  · intro h
    rw [h] at hlength hmem
    exact ⟨hlength.symm, hmem.mp List.mem_cons_self⟩
  · rintro ⟨hcount, hi⟩
    rw [hcount] at hlength
    obtain ⟨owner, howner⟩ := List.length_eq_one_iff.mp hlength
    have hsame : i ∈ [owner] := howner ▸ hmem.mpr hi
    rw [howner, List.mem_singleton.mp hsame]

theorem onlyVolume_eq_ok_iff {name : String} {volumes : List Cloud.Volume} {v : Cloud.Volume} :
    onlyVolume name volumes = .ok v ↔ volumes = [v] := by
  unfold onlyVolume
  split <;> simp_all

theorem required_eq_ok_iff {name value text : String} :
    required name value = .ok text ↔ trim value ≠ "" ∧ text = trim value := by
  unfold required nonBlank
  by_cases h : trim value = ""
  · simp [h]
  · simp [h, eq_comm]

namespace World

/-! ## Nodes -/

/-- The address of a node: the one it is written as, or else the first of four octets that the
host table has for it. -/
def addressOf? (t : Net.HostTable) (node : String) : Option Net.Ipv4 :=
  match Net.Ipv4.parse? (trim node) with
  | some address => some address
  | none => (t.addresses? (trim node)).bind Net.firstV4

def locate (w : World) (node : String) : Except CorrelationError Cloud.Instance :=
  match addressOf? w.names node with
  | none => .error (.unresolvableAddress (trim node))
  | some address =>
      match w.cloud.listError with
      | some e => .error (.cloud e)
      | none => owner address w.cloud.instances

def lookups (node : String) : List Request :=
  match Net.Ipv4.parse? (trim node) with
  | some _ => []
  | none => [.addresses (trim node)]

def locating (w : World) (node : String) : List Request :=
  match addressOf? w.names node with
  | none => lookups node
  | some _ => lookups node ++ [.cloud .listInstances]

theorem settles_resolveNode (w : World) (node : String) :
    Settles (resolveNode node) w
      (match addressOf? w.names node with
        | some address => .ok ⟨trim node, address⟩
        | none => .error (.unresolvableAddress (trim node)))
      w (lookups node) := by
  cases hparse : Net.Ipv4.parse? (trim node) with
  | some address =>
      simp only [resolveNode, addressOf?, lookups, hparse]
      exact Settles.pure _ w
  | none =>
      simp only [resolveNode, addressOf?, lookups, hparse]
      apply (Settles.askAddresses (trim node) w).bind
      cases (w.names.addresses? (trim node)).bind Net.firstV4 with
      | some address => exact Settles.pure _ w
      | none => exact Settles.throw _ w

theorem settles_resolveInstance (w : World) (node : Node) :
    Settles (resolveInstance node) w
      (match w.cloud.listError with
        | some e => .error (.cloud e)
        | none => owner node.address w.cloud.instances)
      w [.cloud .listInstances] := by
  have hask := Settles.askCloud CorrelationError.cloud .listInstances w
  unfold resolveInstance
  cases hlist : w.cloud.listError with
  | some e =>
      have hreply : w.cloud.respond .listInstances = (.error e, w.cloud) := by
        simp [Cloud.Memory.respond, Cloud.Memory.listed, hlist]
      rw [hreply] at hask
      exact hask.bind_error
  | none =>
      have hreply : w.cloud.respond .listInstances = (.ok w.cloud.instances, w.cloud) := by
        simp [Cloud.Memory.respond, Cloud.Memory.listed, hlist]
      rw [hreply] at hask
      exact hask.bind (Settles.ofExcept _ w)

/-- Locating a node changes nothing. -/
theorem settles_resolveInstanceFor (w : World) (node : String) :
    Settles (resolveInstanceFor node) w (w.locate node) w (w.locating node) := by
  have hnode := settles_resolveNode w node
  unfold resolveInstanceFor locate locating
  cases haddress : addressOf? w.names node with
  | none =>
      rw [haddress] at hnode
      exact hnode.bind_error
  | some address =>
      rw [haddress] at hnode
      exact hnode.bind (settles_resolveInstance w ⟨trim node, address⟩)

/-- All that is asked to locate a node is the addresses of its name and the instances. -/
theorem request_of_mem_locating {w : World} {node : String} {r : Request}
    (h : r ∈ w.locating node) :
    (∃ hostname, r = .addresses hostname) ∨ r = .cloud .listInstances := by
  have hlookups : ∀ r ∈ lookups node, ∃ hostname, r = .addresses hostname := by
    unfold lookups
    split <;> simp
  unfold locating at h
  split at h
  · exact .inl (hlookups r h)
  · rcases List.mem_append.mp h with h | h
    · exact .inl (hlookups r h)
    · exact .inr (List.mem_singleton.mp h)

theorem isQuery_of_mem_locating {w : World} {node : String} {r : Request}
    (h : r ∈ w.locating node) : r.isQuery = true := by
  rcases request_of_mem_locating h with ⟨hostname, rfl⟩ | rfl <;> rfl

/-- A node is located if instances can be listed and its address occurs once over all ports. -/
theorem locate_eq_ok_iff {w : World} {node : String} {i : Cloud.Instance} :
    w.locate node = .ok i ↔
      w.cloud.listError = none ∧
        ∃ address, addressOf? w.names node = some address ∧ w.cloud.ports.count address = 1 ∧
          i ∈ w.cloud.instances ∧ address ∈ i.addresses := by
  unfold locate Cloud.Memory.ports
  cases haddress : addressOf? w.names node with
  | none => simp
  | some address =>
      cases hlist : w.cloud.listError with
      | some e => simp
      | none => simp [owner_eq_ok_iff, portOwners_eq_singleton_iff]

/-! ## Names of volumes -/

def volumeNamed (w : World) (name : String) : Except CorrelationError Cloud.Volume :=
  onlyVolume name (w.cloud.carriers name)

/-- Finding the volume of a name changes nothing. -/
theorem settles_resolveVolume (w : World) (name : String) :
    Settles (resolveVolume name) w (w.volumeNamed name) w
      [.cloud (.findVolumes Cloud.nameKey name)] :=
  (Settles.askCloud CorrelationError.cloud (.findVolumes Cloud.nameKey name) w).bind
    (Settles.ofExcept _ w)

theorem volumeNamed_eq_ok_iff {w : World} {name : String} {v : Cloud.Volume} :
    w.volumeNamed name = .ok v ↔ w.cloud.carriers name = [v] :=
  onlyVolume_eq_ok_iff

end World

end Placement

end NodeVolumes
