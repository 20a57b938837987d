/-!
# Delivery guarantees

The three delivery guarantees of a message, in increasing strength.  A message
travels with the weaker of the guarantee it was published with and the one its
receiver was granted, so the operation that matters is `Qos.min`.
-/

namespace TopicBroker

/-- How hard the broker tries to deliver a message. -/
inductive Qos where
  | atMostOnce
  | atLeastOnce
  | exactlyOnce
  deriving DecidableEq, Repr, Inhabited

namespace Qos

/-- The number that stands for a guarantee on the wire. -/
def toNat : Qos → Nat
  | atMostOnce => 0
  | atLeastOnce => 1
  | exactlyOnce => 2

/-- The guarantee that a number stands for; numbers above two stand for none. -/
def ofNat? : Nat → Option Qos
  | 0 => some atMostOnce
  | 1 => some atLeastOnce
  | 2 => some exactlyOnce
  | _ => none

instance : LE Qos := ⟨fun first second => first.toNat ≤ second.toNat⟩

instance : LT Qos := ⟨fun first second => first.toNat < second.toNat⟩

instance (first second : Qos) : Decidable (first ≤ second) :=
  inferInstanceAs (Decidable (first.toNat ≤ second.toNat))

instance (first second : Qos) : Decidable (first < second) :=
  inferInstanceAs (Decidable (first.toNat < second.toNat))

/-- The weaker of two guarantees. -/
protected def min (first second : Qos) : Qos :=
  if first < second then first else second

instance : Min Qos := ⟨Qos.min⟩

/-- Whether messages of this guarantee are kept for a client that is away. -/
def survivesAbsence (qos : Qos) : Bool :=
  decide (atMostOnce < qos)

theorem survivesAbsence_iff {qos : Qos} : qos.survivesAbsence = true ↔ atMostOnce < qos :=
  decide_eq_true_iff

@[simp]
theorem ofNat?_toNat (qos : Qos) : ofNat? qos.toNat = some qos := by
  cases qos <;> rfl

theorem toNat_min (first second : Qos) :
    (min first second).toNat = min first.toNat second.toNat := by
  cases first <;> cases second <;> rfl

theorem min_le_right (first second : Qos) : min first second ≤ second := by
  change (min first second).toNat ≤ second.toNat
  rw [toNat_min]
  exact Nat.min_le_right ..

end Qos

end TopicBroker
