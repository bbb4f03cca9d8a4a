/-!
# Credits

A sender may put as many call frames on the wire as it has credits for. Each frame takes one
credit, and the receiver grants more as it catches up. Granting stops at the largest count that
fits 32 bits.
-/

namespace CallWire

structure Credits where
  available : UInt32
  deriving DecidableEq

namespace Credits

/-- The largest count of credits. -/
def limit : Nat := 4294967295

def isExhausted (c : Credits) : Bool := c.available == 0

/-- Takes one credit, if there is one. -/
def take? (c : Credits) : Option Credits :=
  if c.available = 0 then none else some ⟨c.available - 1⟩

/-- Adds credits, up to the largest count. -/
def grant (c : Credits) (amount : UInt32) : Credits :=
  ⟨UInt32.ofNat (min (c.available.toNat + amount.toNat) limit)⟩

theorem toNat_take? {c d : Credits} (h : c.take? = some d) :
    d.available.toNat + 1 = c.available.toNat := by
  unfold take? at h
  split at h
  · cases h
  · rename_i hne
    cases h
    have hpos : c.available.toNat ≠ 0 := fun h0 => hne (UInt32.toNat_inj.mp h0)
    have hle : (1 : UInt32) ≤ c.available := by
      rw [UInt32.le_iff_toNat_le]
      simp
      omega
    simp [UInt32.toNat_sub_of_le _ _ hle]
    omega

theorem take?_eq_none_iff {c : Credits} : c.take? = none ↔ c.available = 0 := by
  unfold take?
  split <;> simp_all

theorem toNat_grant (c : Credits) (amount : UInt32) :
    (c.grant amount).available.toNat = min (c.available.toNat + amount.toNat) limit := by
  have h : min (c.available.toNat + amount.toNat) limit < 2 ^ 32 := by
    simp only [limit]
    omega
  show (UInt32.ofNat (min (c.available.toNat + amount.toNat) limit)).toNat = _
  rw [UInt32.toNat_ofNat', Nat.mod_eq_of_lt h]

end Credits

end CallWire
