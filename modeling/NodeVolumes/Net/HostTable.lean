import NodeVolumes.Net.Address
import NodeVolumes.SortedMap

/-!
# Host tables

Host names with their addresses, and the names that have been looked up.
-/

namespace NodeVolumes.Net

/-- The addresses of host names, and the look-ups made. -/
structure HostTable where
  hosts : SortedMap (List Address) := ∅
  /-- The names looked up, latest first. -/
  history : List String := []
  deriving DecidableEq

namespace HostTable

/-- The addresses of a name; a name without an entry has no answer. -/
def addresses? (t : HostTable) (name : String) : Option (List Address) :=
  t.hosts.get? name

def lookup (name : String) : StateM HostTable (Option (List Address)) := fun t =>
  (t.addresses? name, { t with history := name :: t.history })

end HostTable

def firstV4 (addresses : List Address) : Option Ipv4 :=
  addresses.findSome? Address.v4?

theorem firstV4_cons_v6 (address : Ipv6) (rest : List Address) :
    firstV4 (.v6 address :: rest) = firstV4 rest := rfl

theorem firstV4_cons_v4 (address : Ipv4) (rest : List Address) :
    firstV4 (.v4 address :: rest) = some address := rfl

end NodeVolumes.Net
