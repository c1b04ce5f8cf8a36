import Mathlib.Order.Bounds.Basic
import RingQueue.Fault
import RingQueue.Proofs.Ring.Index

/-! The way around a ring from one slot to another. It takes no operation out of the words as long
as the slots themselves can be counted in one, and it is the shortest: fewer steps lead elsewhere.
Main result: steps and distances of a ring of any such size, from any raw words. -/
namespace RingQueue.Ring.Index

variable {capacity : UInt64} {i j : Index capacity}

/-- The forward steps from `i` to `j` by operations that have to be exact. -/
def exactDistance (i j : Index capacity) : Except Fault UInt64 :=
  if i.slot ≤ j.slot then Exact.sub j.slot i.slot
  else do
    let size ← Exact.add capacity 1
    let ahead ← Exact.sub size i.slot
    Exact.add ahead j.slot

section Counted

variable (counted : capacity.toNat ≤ 2 ^ 64 - 2)
include counted

theorem toNat_slots : (slots capacity).toNat = capacity.toNat + 1 := by
  rw [slots, UInt64.toNat_add, UInt64.toNat_one]
  omega

theorem toNat_wrap (raw : UInt64) :
    (wrap capacity raw).slot.toNat = raw.toNat % (capacity.toNat + 1) := by
  rw [wrap, UInt64.toNat_mod, toNat_slots counted]

theorem toNat_advance_wrap (raw : UInt64) (count : Nat) :
    ((wrap capacity raw).advance count).slot.toNat =
      (raw.toNat + count) % (capacity.toNat + 1) := by
  rw [toNat_advance, toNat_wrap counted, Nat.mod_add_mod]

/-- Nothing overflows and nothing goes below zero on the way. -/
theorem exactDistance_eq (i j : Index capacity) : i.exactDistance j = .ok (i.distanceTo j) := by
  have hi := i.toNat_slot_lt
  have hj := j.toNat_slot_lt
  by_cases ordered : i.slot ≤ j.slot
  · rw [exactDistance, distanceTo, if_pos ordered, if_pos ordered, Exact.sub, if_pos ordered]
  · have size : Exact.add capacity 1 = .ok (slots capacity) := by
      rw [Exact.add, if_pos (by rw [UInt64.toNat_one]; omega), slots]
    have below : i.slot ≤ slots capacity := by
      rw [UInt64.le_iff_toNat_le, toNat_slots counted]
      omega
    have ahead : Exact.sub (slots capacity) i.slot = .ok (slots capacity - i.slot) := by
      rw [Exact.sub, if_pos below]
    have fits : (slots capacity - i.slot).toNat + j.slot.toNat < 2 ^ 64 := by
      rw [UInt64.le_iff_toNat_le] at ordered
      rw [UInt64.toNat_sub_of_le _ _ below, toNat_slots counted]
      omega
    have whole : Exact.add (slots capacity - i.slot) j.slot = .ok (slots capacity - i.slot + j.slot) := by
      rw [Exact.add, if_pos fits]
    simp only [exactDistance, distanceTo, if_neg ordered, size, ahead, whole, bind, Except.bind]

end Counted

theorem toNat_distanceTo_le (i j : Index capacity) : (i.distanceTo j).toNat ≤ capacity.toNat := by
  have hi := i.toNat_slot_lt
  have hj := j.toNat_slot_lt
  rw [toNat_distanceTo]
  split <;> omega

theorem advance_distanceTo (i j : Index capacity) : i.advance (i.distanceTo j).toNat = j := by
  have hi := i.toNat_slot_lt
  have hj := j.toNat_slot_lt
  apply eq_of_toNat
  rw [toNat_advance, toNat_distanceTo]
  split
  · rw [Nat.mod_eq_of_lt (by omega)]
    omega
  · rw [Nat.mod_eq_sub_mod (by omega), Nat.mod_eq_of_lt (by omega)]
    omega

/-- No fewer steps lead to the same slot. -/
theorem isLeast_distanceTo (i j : Index capacity) :
    IsLeast {count | i.advance count = j} (i.distanceTo j).toNat := by
  refine ⟨advance_distanceTo i j, fun count (arrives : i.advance count = j) => ?_⟩
  by_cases short : count ≤ capacity.toNat
  · rw [← arrives, toNat_distanceTo_advance i short]
  · exact Nat.le_trans (toNat_distanceTo_le i j) (Nat.le_of_not_le short)

@[simp] theorem distanceTo_self (i : Index capacity) : i.distanceTo i = 0 := by
  rw [distanceTo, if_pos (UInt64.le_refl _), UInt64.sub_self]

/-- There and back is once around. -/
theorem toNat_distanceTo_add (apart : i ≠ j) :
    (i.distanceTo j).toNat + (j.distanceTo i).toNat = capacity.toNat + 1 := by
  have hi := i.toNat_slot_lt
  have hj := j.toNat_slot_lt
  have slots_ne : i.slot.toNat ≠ j.slot.toNat := fun same => apart (eq_of_toNat same)
  rw [toNat_distanceTo, toNat_distanceTo]
  split <;> split <;> omega

/-- Any word names a slot, steps from there are additions around the ring, and the distance between
two slots is the least number of steps from the one to the other, found by exact operations only. -/
theorem steps_and_distances (counted : capacity.toNat ≤ 2 ^ 64 - 2) (a b : UInt64) :
    (∀ count,
      ((wrap capacity a).advance count).slot.toNat = (a.toNat + count) % (capacity.toNat + 1) ∧
      ((wrap capacity a).advance count).slot ≤ capacity) ∧
    (wrap capacity a).exactDistance (wrap capacity b) =
      .ok ((wrap capacity a).distanceTo (wrap capacity b)) ∧
    (wrap capacity a).distanceTo (wrap capacity b) ≤ capacity ∧
    IsLeast {count | (wrap capacity a).advance count = wrap capacity b}
      ((wrap capacity a).distanceTo (wrap capacity b)).toNat ∧
    (wrap capacity a = wrap capacity b → (wrap capacity a).distanceTo (wrap capacity b) = 0 ∧
      (wrap capacity b).distanceTo (wrap capacity a) = 0) ∧
    (wrap capacity a ≠ wrap capacity b →
      ((wrap capacity a).distanceTo (wrap capacity b)).toNat +
        ((wrap capacity b).distanceTo (wrap capacity a)).toNat = capacity.toNat + 1) := by
  refine ⟨fun count => ⟨toNat_advance_wrap counted a count, slot_le _⟩, exactDistance_eq counted _ _,
    UInt64.le_iff_toNat_le.mpr (toNat_distanceTo_le _ _), isLeast_distanceTo _ _, fun same => ?_,
    toNat_distanceTo_add⟩
  rw [same]
  exact ⟨distanceTo_self _, distanceTo_self _⟩

/-- The largest ring, and raw words for its last slot and its first: the way forward is one step, and
there and back is as many as there are slots. -/
theorem distances_of_largest_ring :
    let last : Index (.ofNat (2 ^ 64 - 2)) := wrap _ (.ofNat (2 ^ 64 - 2))
    let first : Index (.ofNat (2 ^ 64 - 2)) := wrap _ (.ofNat (2 ^ 64 - 1))
    (UInt64.ofNat (2 ^ 64 - 2)).toNat ≤ 2 ^ 64 - 2 ∧ (last.advance 1).slot.toNat = 0 ∧
    last.exactDistance first = .ok 1 ∧
    (last.distanceTo first).toNat + (first.distanceTo last).toNat = 2 ^ 64 - 1 := by
  intro last first
  have counted : (UInt64.ofNat (2 ^ 64 - 2)).toNat ≤ 2 ^ 64 - 2 := by decide
  obtain ⟨steps, exactly, -, -, -, around⟩ :=
    steps_and_distances counted (.ofNat (2 ^ 64 - 2)) (.ofNat (2 ^ 64 - 1))
  exact ⟨counted, (steps 1).1, exactly, around (by decide)⟩

end RingQueue.Ring.Index
