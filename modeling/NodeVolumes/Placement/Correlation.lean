import NodeVolumes.Placement.Request

/-!
# Correlation

Which instance a node is, and which volume a name in the cluster stands for.

A node is told by its address: the instance that owns a network port of that address, if exactly
one port of all instances has it.  A volume is told by the name that its metadata hold, if exactly
one volume has it.
-/

namespace NodeVolumes.Placement

open Text

inductive CorrelationError where
  | unresolvableAddress (node : String)
  | nodeNotFound (address : Net.Ipv4)
  | ambiguousNode (address : Net.Ipv4) (count : Nat)
  | volumeNotFound (name : String)
  | ambiguousVolume (name : String) (count : Nat)
  | cloud (error : Cloud.Error)
  deriving DecidableEq

def CorrelationError.message : CorrelationError → String
  | .unresolvableAddress node => "node " ++ node ++ " does not resolve to an IPv4 address"
  | .nodeNotFound address => "no compute instance owns address " ++ address.text
  | .ambiguousNode address count =>
      Decimal.digitText count ++ " instance ports match address " ++ address.text
  | .volumeNotFound name => "no volume carries the name " ++ name
  | .ambiguousVolume name count =>
      Decimal.digitText count ++ " volumes carry the name " ++ name ++ "; refusing to pick one"
  | .cloud e => e.message

structure Node where
  name : String
  address : Net.Ipv4
  deriving DecidableEq

/-- The node of a host name or an address; blanks around it do not count. -/
def resolveNode (text : String) : Action CorrelationError Node := do
  let name := trim text
  match Net.Ipv4.parse? name with
  | some address => return ⟨name, address⟩
  | none =>
      match (← askAddresses name).bind Net.firstV4 with
      | some address => return ⟨name, address⟩
      | none => throw (.unresolvableAddress name)

/-- The instances that own ports of an address, each as often as it has such ports. -/
def portOwners (address : Net.Ipv4) (instances : List Cloud.Instance) : List Cloud.Instance :=
  instances.flatMap fun i => List.replicate (i.addresses.count address) i

/-- The instance that owns the only port of an address. -/
def owner (address : Net.Ipv4) (instances : List Cloud.Instance) :
    Except CorrelationError Cloud.Instance :=
  match portOwners address instances with
  | [] => .error (.nodeNotFound address)
  | [i] => .ok i
  | owners => .error (.ambiguousNode address owners.length)

def resolveInstance (node : Node) : Action CorrelationError Cloud.Instance := do
  let instances ← askCloud .cloud .listInstances
  owner node.address instances

def resolveInstanceFor (text : String) : Action CorrelationError Cloud.Instance := do
  let node ← resolveNode text
  resolveInstance node

/-- The only volume of a list of those that have a name. -/
def onlyVolume (name : String) : List Cloud.Volume → Except CorrelationError Cloud.Volume
  | [] => .error (.volumeNotFound name)
  | [v] => .ok v
  | volumes => .error (.ambiguousVolume name volumes.length)

def resolveVolume (name : String) : Action CorrelationError Cloud.Volume := do
  let volumes ← askCloud .cloud (.findVolumes Cloud.nameKey name)
  onlyVolume name volumes

theorem length_portOwners (address : Net.Ipv4) (instances : List Cloud.Instance) :
    (portOwners address instances).length =
      (instances.flatMap Cloud.Instance.addresses).count address := by
  induction instances with
  | nil => rfl
  | cons i rest ih => simpa [portOwners] using ih

end NodeVolumes.Placement
