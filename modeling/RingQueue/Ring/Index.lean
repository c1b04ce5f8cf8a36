import RingQueue.Number.Power

/-! Slot numbers of a ring that keeps one slot spare. A ring for `capacity` elements has
`capacity + 1` slots, so that equal ends mean empty and adjacent ends mean full. Wrapping is
by comparison, and the bound on a slot number is part of its type. -/
namespace RingQueue.Ring

/-- A slot of the ring for `capacity` elements. -/
structure Index (capacity : UInt64) where
  slot : UInt64
  slot_le : slot ≤ capacity
  deriving DecidableEq, Repr

namespace Index

variable {capacity : UInt64}

/-- The number of slots. It is one more than the number of elements. -/
def slots (capacity : UInt64) : UInt64 := capacity + 1

def zero : Index capacity := ⟨0, UInt64.zero_le⟩

theorem mod_slots_le (raw capacity : UInt64) : raw % slots capacity ≤ capacity := by
  rw [UInt64.le_iff_toNat_le, UInt64.toNat_mod, slots, UInt64.toNat_add]
  have hr := raw.toNat_lt
  have hc := capacity.toNat_lt
  simp only [UInt64.reduceToNat]
  by_cases full : capacity.toNat + 1 = 2 ^ 64
  · rw [full]
    simp
    omega
  · rw [Nat.mod_eq_of_lt (by omega : capacity.toNat + 1 < 2 ^ 64)]
    exact Nat.le_of_lt_succ (Nat.mod_lt raw.toNat (by omega))

/-- Any word names a slot, counted around the ring. -/
def wrap (capacity raw : UInt64) : Index capacity :=
  ⟨raw % slots capacity, mod_slots_le raw capacity⟩

theorem succ_le {slot capacity : UInt64} (le : slot ≤ capacity) (ne : slot ≠ capacity) :
    slot + 1 ≤ capacity := by
  have hc := capacity.toNat_lt
  have : slot.toNat ≠ capacity.toNat := fun h => ne (UInt64.toNat_inj.mp h)
  rw [UInt64.le_iff_toNat_le] at le ⊢
  rw [UInt64.toNat_add]
  simp only [UInt64.reduceToNat]
  omega

/-- The slot after this one. The last slot is followed by the first. -/
def next (i : Index capacity) : Index capacity :=
  if h : i.slot = capacity then zero else ⟨i.slot + 1, succ_le i.slot_le h⟩

/-- `count` slots further on. -/
def advance (i : Index capacity) (count : Nat) : Index capacity := count.repeat next i

/-- The forward steps from `i` to `j`. -/
def distanceTo (i j : Index capacity) : UInt64 :=
  if i.slot ≤ j.slot then j.slot - i.slot else slots capacity - i.slot + j.slot

/-- One step toward another slot shortens the way to it. -/
theorem distanceTo_next_lt {i j : Index capacity} (ne : i ≠ j) :
    (i.next.distanceTo j).toNat < (i.distanceTo j).toNat := by
  obtain ⟨i, hi⟩ := i
  obtain ⟨j, hj⟩ := j
  have apart : i.toNat ≠ j.toNat := fun h => ne (by have := UInt64.toNat_inj.mp h; subst this; rfl)
  have hc := capacity.toNat_lt
  simp only [UInt64.le_iff_toNat_le] at hi hj
  unfold next
  split
  · rename_i last
    have last : i.toNat = capacity.toNat := congrArg UInt64.toNat last
    simp only [distanceTo, zero, slots, UInt64.le_iff_toNat_le]
    rw [if_pos (by simp), if_neg (by omega)]
    simp only [UInt64.toNat_sub, UInt64.toNat_add, UInt64.reduceToNat]
    omega
  · rename_i inner
    have inner : i.toNat ≠ capacity.toNat := fun h => inner (UInt64.toNat_inj.mp h)
    have succ : (i + 1).toNat = i.toNat + 1 := by
      simp only [UInt64.toNat_add, UInt64.reduceToNat]
      omega
    simp only [distanceTo, slots, UInt64.le_iff_toNat_le, succ]
    split <;> split <;>
      simp only [UInt64.toNat_sub, UInt64.toNat_add, UInt64.reduceToNat] <;> omega

end Index
end RingQueue.Ring
