import Mathlib.Data.Nat.ModEq
import RingQueue.Ring.Index

/-! Slots of a ring as exact numbers. Steps around the ring are additions modulo the number of
slots, which is taken as a natural number and so is never rounded, not even for the largest
capacity. `numbered n` is the slot of the element number `n` of all that ever pass. -/
namespace RingQueue.Ring.Index

variable {capacity : UInt64}

theorem eq_of_toNat {i j : Index capacity} (h : i.slot.toNat = j.slot.toNat) : i = j := by
  obtain ⟨i, hi⟩ := i
  obtain ⟨j, hj⟩ := j
  obtain rfl : i = j := UInt64.toNat_inj.mp h
  rfl

theorem toNat_slot_lt (i : Index capacity) : i.slot.toNat < capacity.toNat + 1 :=
  Nat.lt_succ_of_le (UInt64.le_iff_toNat_le.mp i.slot_le)

theorem toNat_next (i : Index capacity) :
    i.next.slot.toNat = (i.slot.toNat + 1) % (capacity.toNat + 1) := by
  have bound := i.toNat_slot_lt
  have word := capacity.toNat_lt
  unfold next
  split
  · rename_i last
    simp [zero, last]
  · rename_i inner
    have inner : i.slot.toNat ≠ capacity.toNat := fun h => inner (UInt64.toNat_inj.mp h)
    simp only [UInt64.toNat_add, UInt64.reduceToNat]
    rw [Nat.mod_eq_of_lt (by omega), Nat.mod_eq_of_lt (by omega)]

@[simp] theorem advance_zero (i : Index capacity) : i.advance 0 = i := rfl

theorem advance_succ (i : Index capacity) (count : Nat) :
    i.advance (count + 1) = (i.advance count).next := rfl

theorem advance_next (i : Index capacity) (count : Nat) :
    i.next.advance count = i.advance (count + 1) := by
  induction count with
  | zero => rfl
  | succ count ih => exact congrArg next ih

theorem advance_advance (i : Index capacity) (a b : Nat) :
    (i.advance a).advance b = i.advance (a + b) := by
  induction b with
  | zero => rfl
  | succ b ih => rw [advance_succ, ih, ← Nat.add_assoc, advance_succ]

theorem toNat_advance (i : Index capacity) (count : Nat) :
    (i.advance count).slot.toNat = (i.slot.toNat + count) % (capacity.toNat + 1) := by
  induction count with
  | zero => exact (Nat.mod_eq_of_lt i.toNat_slot_lt).symm
  | succ count ih => rw [advance_succ, toNat_next, ih, Nat.mod_add_mod, Nat.add_assoc]

theorem advance_injective (i : Index capacity) {a b : Nat} (ha : a ≤ capacity.toNat)
    (hb : b ≤ capacity.toNat) (same : i.advance a = i.advance b) : a = b := by
  have same := congrArg (fun j : Index capacity => j.slot.toNat) same
  simp only [toNat_advance] at same
  have congr := Nat.ModEq.add_left_cancel' i.slot.toNat same
  exact congr.eq_of_lt_of_lt (by omega) (by omega)

/-- The distance is exact in natural numbers: nothing overflows or goes below zero. -/
theorem toNat_distanceTo (i j : Index capacity) :
    (i.distanceTo j).toNat = if i.slot.toNat ≤ j.slot.toNat then j.slot.toNat - i.slot.toNat
      else capacity.toNat + 1 - i.slot.toNat + j.slot.toNat := by
  have hi := i.toNat_slot_lt
  have hj := j.toNat_slot_lt
  have word := capacity.toNat_lt
  simp only [distanceTo, UInt64.le_iff_toNat_le]
  split <;> simp only [slots, UInt64.toNat_sub, UInt64.toNat_add, UInt64.reduceToNat] <;> omega

theorem toNat_distanceTo_advance (i : Index capacity) {count : Nat} (h : count ≤ capacity.toNat) :
    (i.distanceTo (i.advance count)).toNat = count := by
  have hi := i.toNat_slot_lt
  rw [toNat_distanceTo, toNat_advance]
  by_cases wraps : i.slot.toNat + count < capacity.toNat + 1
  · rw [Nat.mod_eq_of_lt wraps, if_pos (by omega)]
    omega
  · rw [Nat.mod_eq_sub_mod (by omega), Nat.mod_eq_of_lt (by omega)]
    split <;> omega

/-- The slots from one index up to, but not including, another. -/
def upTo (i j : Index capacity) : List (Index capacity) :=
  if _h : i = j then [] else i :: i.next.upTo j
termination_by (i.distanceTo j).toNat
decreasing_by exact distanceTo_next_lt _h

theorem upTo_advance (i : Index capacity) {count : Nat} (h : count ≤ capacity.toNat) :
    i.upTo (i.advance count) = (List.range count).map i.advance := by
  induction count generalizing i with
  | zero => rw [upTo]; simp
  | succ count ih =>
    have apart : i ≠ i.advance (count + 1) := fun same => by
      have := i.advance_injective (Nat.zero_le _) h same
      omega
    rw [upTo, dif_neg apart, ← advance_next, ih i.next (by omega), List.range_succ_eq_map]
    simp [advance_next, Function.comp_def]

/-- The slot of an element by how many elements came before it, ever. -/
def numbered (n : Nat) : Index capacity := zero.advance n

@[simp] theorem next_numbered (n : Nat) :
    (numbered n : Index capacity).next = numbered (n + 1) := rfl

@[simp] theorem advance_numbered (n count : Nat) :
    (numbered n : Index capacity).advance count = numbered (n + count) :=
  advance_advance zero n count

theorem toNat_numbered (n : Nat) :
    (numbered n : Index capacity).slot.toNat = n % (capacity.toNat + 1) := by
  rw [numbered, toNat_advance]
  simp [zero]

theorem numbered_injective {n a b : Nat} (ha : a ≤ capacity.toNat) (hb : b ≤ capacity.toNat)
    (same : (numbered (n + a) : Index capacity) = numbered (n + b)) : a = b := by
  rw [← advance_numbered, ← advance_numbered] at same
  exact advance_injective _ ha hb same

theorem numbered_add_slots (n : Nat) :
    (numbered (n + (capacity.toNat + 1)) : Index capacity) = numbered n := by
  apply eq_of_toNat
  rw [toNat_numbered, toNat_numbered, Nat.add_mod_right]

theorem numbered_toNat_slot (i : Index capacity) : numbered i.slot.toNat = i := by
  apply eq_of_toNat
  rw [toNat_numbered, Nat.mod_eq_of_lt i.toNat_slot_lt]

end RingQueue.Ring.Index
