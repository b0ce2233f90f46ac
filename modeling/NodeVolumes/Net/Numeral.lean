import NodeVolumes.Net.Address

/-!
# Addresses in loose notation

Addresses of four octets whose numbers may be decimal, octal or hexadecimal, and of which the last
number may stand for several octets.
-/

namespace NodeVolumes.Net

open Text

/-- The value of digits in a base, if all of them are digits of that base. -/
def valueIn (base : Nat) (ds : List Char) : Option Nat :=
  ds.foldlM
    (fun n c =>
      match Json.hexValue? c with
      | some d => if d < base then some (n * base + d) else none
      | none => none)
    0

/-- Reads a number: hexadecimal after `0x`, octal after `0`, else decimal. -/
def numeral? : List Char → Option Nat
  | [] => none
  | ['0'] => some 0
  | '0' :: 'x' :: ds => valueIn 16 ds
  | '0' :: 'X' :: ds => valueIn 16 ds
  | '0' :: ds => valueIn 8 ds
  | ds => valueIn 10 ds

namespace Ipv4

def ofNat (n : Nat) : Ipv4 :=
  ⟨(n / 0x1000000).toUInt8, (n / 0x10000).toUInt8, (n / 0x100).toUInt8, n.toUInt8⟩

/--
The number of an address with numbers for its parts.

All numbers but the last stand for an octet, the last one for the octets that are left.
-/
def joinNumbers (left : Nat) : List Nat → Option Nat
  | [] => none
  | [last] => if last < Nat.pow 256 left then some last else none
  | n :: more =>
      if n < 256 then (joinNumbers (left - 1) more).map fun rest => n * Nat.pow 256 (left - 1) + rest
      else none

def ofNumbers? (ns : List Nat) : Option Ipv4 :=
  if ns.length ≤ 4 then (joinNumbers 4 ns).map ofNat else none

def ofLoose? (s : String) : Option Ipv4 :=
  ((pieces (· == '.') s.toList).mapM numeral?).bind ofNumbers?

end Ipv4

inductive LookupError where
  | notKnown
  | holdsNul
  deriving DecidableEq, Repr

def LookupError.message : LookupError → String
  | .notKnown => "failed to lookup address information: Name or service not known"
  | .holdsNul => "file name contained an unexpected NUL byte"

/-- The address that a host name spells out; names of other hosts are not known. -/
def spelledOut (host : String) : Except LookupError (List Address) :=
  match Address.parse? host, Ipv4.ofLoose? host with
  | some address, _ => .ok [address]
  | none, some address => .ok [.v4 address]
  | none, none => .error (if host.toList.contains '\x00' then .holdsNul else .notKnown)

end NodeVolumes.Net
