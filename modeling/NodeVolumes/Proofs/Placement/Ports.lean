import Mathlib.Data.List.Forall2
import NodeVolumes.Proofs.Placement.Correlation

/-!
# Counting ports

The instance that a node is follows from the number of ports that have its address, over all
instances and however they are spread: one port has an owner, none has none, and more than one are
too many.  In what order instances and ports are listed has no influence
(`resolveInstance_counts_ports`).
-/

namespace NodeVolumes

/-- The same instance, with its ports in any order. -/
structure Cloud.Instance.SameUpToOrder (i i' : Instance) : Prop where
  id : i'.id = i.id
  hypervisorHost : i'.hypervisorHost = i.hypervisorHost
  addresses : i.addresses.Perm i'.addresses

/-- The same instances in any order, each with its ports in any order. -/
def Cloud.Reordered (instances instances' : List Instance) : Prop :=
  ∃ shuffled, instances.Perm shuffled ∧
    List.Forall₂ Instance.SameUpToOrder shuffled instances'

namespace Placement

/-- The same outcome, with the ports of an instance in any order. -/
inductive SameOutcome :
    Except CorrelationError Cloud.Instance → Except CorrelationError Cloud.Instance → Prop where
  | ok {i i' : Cloud.Instance} (h : i.SameUpToOrder i') : SameOutcome (.ok i) (.ok i')
  | error (e : CorrelationError) : SameOutcome (.error e) (.error e)

/-- The instance that a node is, where `answer` is given to requests. -/
def resolved {σ : Type} (answer : (r : Request) → StateM σ r.Answer) (node : Node) (s : σ) :
    Except CorrelationError Cloud.Instance :=
  ((resolveInstance node).run.play answer s).value

theorem resolved_eq_owner {σ : Type} {answer : (r : Request) → StateM σ r.Answer} {node : Node}
    {s : σ} {instances : List Cloud.Instance}
    (listed : (answer (.cloud .listInstances) s).1 = .ok instances) :
    resolved answer node s = owner node.address instances := by
  have hrun : (resolveInstance node).run =
      .ask (I := interface) (.cloud .listInstances) fun reply =>
        ExceptT.bindCont (fun instances => liftM (owner node.address instances))
          (reply.mapError CorrelationError.cloud) := rfl
  rw [resolved, hrun, Flow.play_ask, listed]
  rfl

/-- The outcome for a node whose address has ports of these owners. -/
def onlyOwner (address : Net.Ipv4) :
    List Cloud.Instance → Except CorrelationError Cloud.Instance
  | [] => .error (.nodeNotFound address)
  | [i] => .ok i
  | owners => .error (.ambiguousNode address owners.length)

theorem owner_eq_onlyOwner (address : Net.Ipv4) (instances : List Cloud.Instance) :
    owner address instances = onlyOwner address (portOwners address instances) := rfl

/-! ## How many -/

theorem onlyOwner_eq_nodeNotFound_iff {address address' : Net.Ipv4}
    {owners : List Cloud.Instance} :
    onlyOwner address owners = .error (.nodeNotFound address') ↔
      address' = address ∧ owners.length = 0 := by
  match owners with
  | [] => simp [onlyOwner, eq_comm]
  | [i] => simp [onlyOwner]
  | i :: j :: rest => simp [onlyOwner]

theorem onlyOwner_eq_ambiguousNode_iff {address address' : Net.Ipv4} {count : Nat}
    {owners : List Cloud.Instance} :
    onlyOwner address owners = .error (.ambiguousNode address' count) ↔
      address' = address ∧ count = owners.length ∧ 2 ≤ count := by
  match owners with
  | [] =>
      simp only [onlyOwner, Except.error.injEq, reduceCtorEq, List.length_nil, false_iff]
      omega
  | [i] =>
      simp only [onlyOwner, reduceCtorEq, List.length_singleton, false_iff]
      omega
  | i :: j :: rest =>
      simp only [onlyOwner, Except.error.injEq, CorrelationError.ambiguousNode.injEq]
      constructor
      · rintro ⟨rfl, rfl⟩
        exact ⟨rfl, rfl, Nat.le_add_left 2 rest.length⟩
      · rintro ⟨rfl, rfl, -⟩
        exact ⟨rfl, rfl⟩

/-! ## In what order -/

theorem onlyOwner_of_perm {address : Net.Ipv4} {owners owners' : List Cloud.Instance}
    (h : owners.Perm owners') : onlyOwner address owners = onlyOwner address owners' := by
  have hlength := h.length_eq
  match owners, owners' with
  | [], owners' => rw [List.nil_perm.mp h]
  | [i], owners' => rw [List.singleton_perm.mp h]
  | i :: j :: rest, [] => simp at hlength
  | i :: j :: rest, [_] => simp at hlength
  | i :: j :: rest, i' :: j' :: rest' => simp only [onlyOwner, hlength]

theorem onlyOwner_of_sameUpToOrder {address : Net.Ipv4} {owners owners' : List Cloud.Instance}
    (h : List.Forall₂ Cloud.Instance.SameUpToOrder owners owners') :
    SameOutcome (onlyOwner address owners) (onlyOwner address owners') := by
  cases h with
  | nil => exact .error _
  | cons hsame hrest =>
      cases hrest with
      | nil => exact .ok hsame
      | cons _ hmore =>
          simp only [onlyOwner, List.length_cons, hmore.length_eq]
          exact .error _

theorem portOwners_of_sameUpToOrder {address : Net.Ipv4}
    {instances instances' : List Cloud.Instance}
    (h : List.Forall₂ Cloud.Instance.SameUpToOrder instances instances') :
    List.Forall₂ Cloud.Instance.SameUpToOrder (portOwners address instances)
      (portOwners address instances') := by
  induction h with
  | nil => exact .nil
  | @cons i i' rest rest' hsame _ ih =>
      have hcount : i'.addresses.count address = i.addresses.count address :=
        (hsame.addresses.count_eq address).symm
      simp only [portOwners, List.flatMap_cons, hcount] at ih ⊢
      refine List.rel_append ?_ ih
      exact List.forall₂_iff_get.mpr ⟨by simp, by simpa using fun _ _ => hsame⟩

theorem owner_of_perm {address : Net.Ipv4} {instances instances' : List Cloud.Instance}
    (h : instances.Perm instances') : owner address instances = owner address instances' :=
  onlyOwner_of_perm (h.flatMap_right _)

theorem owner_of_reordered {address : Net.Ipv4} {instances instances' : List Cloud.Instance}
    (h : Cloud.Reordered instances instances') :
    SameOutcome (owner address instances) (owner address instances') := by
  obtain ⟨shuffled, hperm, hsame⟩ := h
  rw [owner_of_perm hperm]
  exact onlyOwner_of_sameUpToOrder (portOwners_of_sameUpToOrder hsame)

/--
Wherever instances can be listed, a node is the instance with the only port of its address; without
such a port it is not found, and with several it is ambiguous with their number.  Instances and
ports in another order make no difference.
-/
theorem resolveInstance_counts_ports {σ : Type} (answer : (r : Request) → StateM σ r.Answer)
    (node : Node) (s : σ) (instances : List Cloud.Instance)
    (listed : (answer (.cloud .listInstances) s).1 = .ok instances) :
    let outcome := resolved answer node s
    let total := (instances.flatMap Cloud.Instance.addresses).count node.address
    (∀ i, outcome = .ok i ↔ total = 1 ∧ i ∈ instances ∧ node.address ∈ i.addresses) ∧
    (∀ address, outcome = .error (.nodeNotFound address) ↔ address = node.address ∧ total = 0) ∧
    (∀ address count, outcome = .error (.ambiguousNode address count) ↔
      address = node.address ∧ count = total ∧ 2 ≤ count) ∧
    ∀ s' instances', (answer (.cloud .listInstances) s').1 = .ok instances' →
      (instances.Perm instances' → resolved answer node s' = outcome) ∧
      (Cloud.Reordered instances instances' →
        SameOutcome outcome (resolved answer node s')) := by
  intro outcome total
  have houtcome : outcome = owner node.address instances := resolved_eq_owner listed
  have htotal : (portOwners node.address instances).length = total := length_portOwners _ _
  rw [houtcome]
  refine ⟨fun i => ?_, fun address => ?_, fun address count => ?_, fun s' instances' listed' => ?_⟩
  · rw [owner_eq_ok_iff, portOwners_eq_singleton_iff]
  · rw [owner_eq_onlyOwner, onlyOwner_eq_nodeNotFound_iff, htotal]
  · rw [owner_eq_onlyOwner, onlyOwner_eq_ambiguousNode_iff, htotal]
  · rw [resolved_eq_owner listed']
    exact ⟨fun hperm => (owner_of_perm hperm).symm, owner_of_reordered⟩

/-- An instance with two ports of one address counts twice, in whatever order it is listed. -/
theorem resolveInstance_counts_ports_doubled :
    let twice : Cloud.Instance := ⟨"vm_1", "host_1", [⟨1, 2, 3, 4⟩, ⟨5, 6, 7, 8⟩, ⟨1, 2, 3, 4⟩]⟩
    let turned : Cloud.Instance := ⟨"vm_1", "host_1", [⟨5, 6, 7, 8⟩, ⟨1, 2, 3, 4⟩, ⟨1, 2, 3, 4⟩]⟩
    let other : Cloud.Instance := ⟨"vm_2", "host_1", [⟨1, 1, 1, 1⟩]⟩
    let w : World := ⟨{ instances := [twice, other] }, {}⟩
    let w' : World := ⟨{ instances := [other, turned] }, {}⟩
    resolved World.answer ⟨"node", ⟨1, 2, 3, 4⟩⟩ w = .error (.ambiguousNode ⟨1, 2, 3, 4⟩ 2) ∧
      SameOutcome (resolved World.answer ⟨"node", ⟨5, 6, 7, 8⟩⟩ w)
        (resolved World.answer ⟨"node", ⟨5, 6, 7, 8⟩⟩ w') := by
  intro twice turned other w w'
  have hturned : twice.SameUpToOrder turned := ⟨rfl, rfl, .swap _ _ _⟩
  have hreordered : Cloud.Reordered [twice, other] [other, turned] :=
    ⟨[other, twice], .swap _ _ _, .cons ⟨rfl, rfl, .refl _⟩ (.cons hturned .nil)⟩
  obtain ⟨-, -, hambiguous, -⟩ := resolveInstance_counts_ports World.answer
    ⟨"node", ⟨1, 2, 3, 4⟩⟩ w [twice, other] rfl
  obtain ⟨-, -, -, horder⟩ := resolveInstance_counts_ports World.answer
    ⟨"node", ⟨5, 6, 7, 8⟩⟩ w [twice, other] rfl
  exact ⟨(hambiguous _ _).mpr ⟨rfl, by decide +kernel, by decide⟩,
    (horder w' [other, turned] rfl).2 hreordered⟩

end Placement

end NodeVolumes
