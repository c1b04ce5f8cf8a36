import Mathlib.Data.Nat.ModEq
import RingQueue.Queue.Cells

/-! Cells of a ring as a window on a sequence. Elements are numbered from the first that ever
passes; those of `stored` have the numbers `first`, `first + 1` and so on, each stands in the cell
of its number modulo the number of cells, and no other cell holds anything. Both queues keep their
cells this way, whatever they keep beside them. -/
namespace RingQueue.Queue.Cells

variable {α : Type u} {cells : Cells α} {first : Nat} {stored : List α}

structure Holds (cells : Cells α) (first : Nat) (stored : List α) : Prop where
  fits : stored.length ≤ cells.size
  cell : ∀ k < cells.size, cells.contents[(first + k) % cells.size]? = some stored[k]?

theorem holds_vacant (count first : Nat) : (vacant count : Cells α).Holds first [] := by
  constructor
  · exact Nat.zero_le _
  · intro k inside
    have inside : k < count := by simpa [vacant, size] using inside
    have : (first + k) % count < count := Nat.mod_lt _ (by omega)
    simp [vacant, size, this]

theorem Holds.get? (held : cells.Holds first stored) {k : Nat} {slot : UInt64}
    (inside : k < cells.size) (place : slot.toNat = (first + k) % cells.size) :
    cells.get? slot = stored[k]? := by
  rw [Cells.get?, place, held.cell k inside, Option.join_some]

theorem exists_place {size place : Nat} (first : Nat) (inside : place < size) :
    ∃ k < size, (first + k) % size = place := by
  have room : first % size < size := Nat.mod_lt _ (by omega)
  by_cases ahead : first % size ≤ place
  · refine ⟨place - first % size, by omega, ?_⟩
    rw [← Nat.mod_add_mod, Nat.add_sub_cancel' ahead, Nat.mod_eq_of_lt inside]
  · refine ⟨size - first % size + place, by omega, ?_⟩
    rw [← Nat.mod_add_mod, ← Nat.add_assoc, Nat.add_sub_cancel' (by omega), Nat.add_mod_left,
      Nat.mod_eq_of_lt inside]

theorem eq_of_places {β : Type v} {items others : Array β} (first : Nat)
    (same : items.size = others.size)
    (agree : ∀ k < items.size,
      items[(first + k) % items.size]? = others[(first + k) % others.size]?) : items = others := by
  apply Array.ext_getElem?
  intro place
  by_cases inside : place < items.size
  · obtain ⟨k, bound, rfl⟩ := exists_place first inside
    rw [agree k bound, same]
  · rw [Array.getElem?_eq_none (by omega), Array.getElem?_eq_none (by omega)]

/-- Numbers less than a round apart have cells of their own. -/
theorem place_injective {size a b : Nat} (ha : a < size) (hb : b < size)
    (same : (first + a) % size = (first + b) % size) : a = b :=
  (Nat.ModEq.add_left_cancel' first same).eq_of_lt_of_lt ha hb

theorem getElem?_set_place {β : Type v} (items : Array β) (first : Nat) {k place : Nat} (item : β)
    (inside : place < items.size) (bound : k < items.size) :
    (items.set! ((first + place) % items.size) item)[(first + k) % items.size]? =
      if k = place then some item else items[(first + k) % items.size]? := by
  have range : (first + place) % items.size < items.size := Nat.mod_lt _ (by omega)
  by_cases same : k = place
  · subst k
    rw [if_pos rfl, Array.set!_eq_setIfInBounds, Array.getElem?_setIfInBounds_self_of_lt range]
  · have apart : (first + place) % items.size ≠ (first + k) % items.size :=
      fun eq => same (place_injective inside bound eq).symm
    rw [if_neg same, Array.set!_eq_setIfInBounds, Array.getElem?_setIfInBounds_ne apart]

theorem Holds.cell_set (held : cells.Holds first stored) {k place : Nat} (content : Option α)
    (inside : place < cells.size) (bound : k < cells.size) :
    (cells.contents.set! ((first + place) % cells.size) content)[(first + k) % cells.size]? =
      if k = place then some content else some stored[k]? := by
  rw [← held.cell k bound]
  exact getElem?_set_place cells.contents first content inside bound

theorem Holds.unique {other : Cells α} (held : cells.Holds first stored)
    (heldToo : other.Holds first stored) (same : cells.size = other.size) : cells = other := by
  have contents : cells.contents = other.contents :=
    eq_of_places first same fun k bound =>
      (held.cell k bound).trans (heldToo.cell k (same ▸ bound)).symm
  cases cells
  cases other
  exact congrArg _ contents

/-- Behind the last element there is a vacant cell, as long as not all are taken. -/
theorem Holds.put (held : cells.Holds first stored) (room : stored.length < cells.size)
    {slot : UInt64} (place : slot.toNat = (first + stored.length) % cells.size) (value : α) :
    ∃ next, cells.put slot value = .ok next ∧ next.size = cells.size ∧
      next.Holds first (stored ++ [value]) := by
  have free := held.cell stored.length room
  rw [List.getElem?_eq_none (Nat.le_refl _), ← place] at free
  have same : (⟨cells.contents.set! slot.toNat (some value)⟩ : Cells α).size = cells.size := by
    simp [size]
  refine ⟨⟨cells.contents.set! slot.toNat (some value)⟩, ?_, same, ?_, ?_⟩
  · simp only [Cells.put, free]
  · rw [same, List.length_append]
    exact room
  · intro k bound
    rw [same] at bound ⊢
    rw [place, held.cell_set (some value) room bound]
    split
    · rename_i last
      subst k
      simp
    · rename_i inner
      rcases Nat.lt_or_gt_of_ne inner with old | vacant
      · rw [List.getElem?_append_left old]
      · rw [List.getElem?_eq_none (by omega), List.getElem?_eq_none (by simp; omega)]

/-- The cell of the first element holds it, and is vacant once it is taken. -/
theorem Holds.take {oldest : α} {rest : List α} (held : cells.Holds first (oldest :: rest))
    {slot : UInt64} (place : slot.toNat = first % cells.size) :
    ∃ next, cells.take slot = .ok (oldest, next) ∧ next.size = cells.size ∧
      next.Holds (first + 1) rest := by
  have fits : rest.length + 1 ≤ cells.size := held.fits
  have place : slot.toNat = (first + 0) % cells.size := place
  have filled := held.cell 0 (by omega)
  rw [← place, List.getElem?_cons_zero] at filled
  have same : (⟨cells.contents.set! slot.toNat none⟩ : Cells α).size = cells.size := by
    simp [size]
  refine ⟨⟨cells.contents.set! slot.toNat none⟩, ?_, same, ?_, ?_⟩
  · simp only [Cells.take, filled]
  · omega
  · intro k bound
    rw [same] at bound ⊢
    have replaced {j : Nat} (inside : j < cells.size) :=
      held.cell_set none (by omega : 0 < cells.size) inside
    simp only [place]
    -- The last number of the new window comes round to the cell that was just emptied.
    by_cases last : k + 1 = cells.size
    · have round : (first + 1 + k) % cells.size = (first + 0) % cells.size := by
        rw [Nat.add_assoc, Nat.add_comm 1 k, last, Nat.add_mod_right, Nat.add_zero]
      rw [round, replaced (by omega), if_pos rfl, List.getElem?_eq_none (by omega)]
    · rw [Nat.add_assoc, Nat.add_comm 1 k, replaced (by omega), if_neg (Nat.succ_ne_zero k),
        List.getElem?_cons_succ]

end RingQueue.Queue.Cells
