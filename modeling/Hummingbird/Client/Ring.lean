import Mathlib.Data.List.Nodup

/-!
# The ring as the client consumes it

For one partition the ring yields an ordered list of primary devices
(`GetNodes`), as many as the replica count, and a handoff sequence
(`GetMoreNodes(...).Next()`) of further devices.  The ring's contract is that
the handoff sequence names each device once and none of the primaries.  It
says nothing of the primaries among themselves: a ring with fewer devices
than replicas names a device twice.  A `Placement` carries the contract as
fields.
-/

namespace Hummingbird.Client.Ring

/-- A backend address of the ring (`ring.Device`), with the fields the client reads. -/
structure Device where
  ip : String
  port : Nat
  device : String
deriving DecidableEq, Repr

/-- The ring's answer for one partition: its primaries and its handoff sequence. -/
structure Placement where
  replicaCount : Nat
  primaries : List Device
  handoffs : List Device
  primaries_length : primaries.length = replicaCount
  handoffs_distinct : handoffs.Nodup
  handoffs_fresh : ∀ device ∈ handoffs, device ∉ primaries

theorem Placement.devices_nodup (placement : Placement) (distinct : placement.primaries.Nodup) :
    (placement.primaries ++ placement.handoffs).Nodup :=
  List.nodup_append.mpr ⟨distinct, placement.handoffs_distinct, fun _ primary handoff =>
    placement.handoffs_fresh _ handoff primary⟩

end Hummingbird.Client.Ring
