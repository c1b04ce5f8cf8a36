import RingQueue.Proofs.Queue.Cells
import RingQueue.Proofs.Ring.Index
import RingQueue.Queue.Spsc

/-! The queue with two ends, kept in exact numbers. An account says how many elements have passed,
counted from the first slot, and which are stored; it fixes head, tail and cells. It holds for every
capacity of a word and from every slot on, since nothing but the number of slots is divided by. -/
namespace RingQueue.Queue.Spsc

open RingQueue.Ring

variable {α : Type u} {capacity : UInt64}

/-- The exact account of a queue: `past` elements have left it and those of `stored` are in it. -/
structure Account (q : Spsc α capacity) (past : Nat) (stored : List α) : Prop where
  head : q.head = .numbered past
  tail : q.tail = .numbered (past + stored.length)
  /-- One of the slots is kept spare. -/
  room : stored.length ≤ capacity.toNat
  size : q.cells.size = capacity.toNat + 1
  cells : q.cells.Holds past stored

theorem account_startingAt (i : Index capacity) :
    (startingAt i : Spsc α capacity).Account i.slot.toNat [] where
  head := (Index.numbered_toNat_slot i).symm
  tail := (Index.numbered_toNat_slot i).symm
  room := Nat.zero_le _
  size := by simp [startingAt, Cells.vacant, Cells.size]
  cells := Cells.holds_vacant _ _

namespace Account

variable {q : Spsc α capacity} {past : Nat} {stored : List α}

theorem place (account : q.Account past stored) (k : Nat) :
    (Index.numbered (past + k) : Index capacity).slot.toNat = (past + k) % q.cells.size := by
  rw [Index.toNat_numbered, account.size]

/-- The slot behind the tail is the head's only when all slots but the spare one are taken. -/
theorem next_tail_eq_head_iff (account : q.Account past stored) :
    q.tail.next = q.head ↔ stored.length = capacity.toNat := by
  have room := account.room
  rw [account.head, account.tail, Index.next_numbered, Nat.add_assoc]
  constructor
  · intro same
    by_contra free
    have := Index.numbered_injective (by omega) (Nat.zero_le _) same
    omega
  · intro full
    rw [full, Index.numbered_add_slots]

theorem head_eq_tail_iff (account : q.Account past stored) : q.head = q.tail ↔ stored = [] := by
  rw [account.head, account.tail, ← List.length_eq_zero_iff]
  constructor
  · intro same
    exact (Index.numbered_injective (Nat.zero_le _) account.room same).symm
  · intro none
    rw [none, Nat.add_zero]

theorem length_eq (account : q.Account past stored) : q.length.toNat = stored.length := by
  rw [length, account.head, account.tail, ← Index.advance_numbered]
  exact Index.toNat_distanceTo_advance _ account.room

theorem isEmpty_eq (account : q.Account past stored) : q.isEmpty = stored.isEmpty := by
  rw [Bool.eq_iff_iff, isEmpty, beq_iff_eq, List.isEmpty_iff]
  exact account.head_eq_tail_iff

theorem isFull_eq (account : q.Account past stored) :
    q.isFull = (stored.length == capacity.toNat) := by
  rw [Bool.eq_iff_iff, isFull, beq_iff_eq, beq_iff_eq]
  exact account.next_tail_eq_head_iff

/-- The cells from the head up to the tail hold the stored elements, oldest first. -/
theorem contents_eq (account : q.Account past stored) :
    (q.head.upTo q.tail).map (fun i => q.cells.get? i.slot) = stored.map some := by
  have room := account.room
  rw [account.head, account.tail, ← Index.advance_numbered, Index.upTo_advance _ room,
    List.map_map]
  apply List.ext_getElem
  · simp
  · intro k inside _
    have inside : k < stored.length := by simpa using inside
    have content := account.cells.get? (by rw [account.size]; omega) (account.place k)
    simp [content, inside]

theorem push_full (account : q.Account past stored) (full : stored.length = capacity.toNat)
    (value : α) : q.push value = .ok (.full value, q) := by
  have behind := account.next_tail_eq_head_iff.mpr full
  obtain ⟨head, tail, cells⟩ := q
  simp only [push, if_pos behind]

theorem push_accepted (account : q.Account past stored) (free : stored.length < capacity.toNat)
    (value : α) :
    ∃ next, q.push value = .ok (.accepted, next) ∧ next.Account past (stored ++ [value]) := by
  have ahead : q.tail.next ≠ q.head := fun same => by
    have := account.next_tail_eq_head_iff.mp same
    omega
  have place : q.tail.slot.toNat = (past + stored.length) % q.cells.size := by
    rw [account.tail]
    exact account.place stored.length
  obtain ⟨cells, put, size, held⟩ :=
    account.cells.put (by rw [account.size]; omega) place value
  have pushed : q.push value = .ok (.accepted, ⟨q.head, q.tail.next, cells⟩) := by
    obtain ⟨head, tail, _⟩ := q
    simp only [push, if_neg ahead, put]
  refine ⟨_, pushed, account.head, ?_, ?_, size.trans account.size, held⟩
  · rw [account.tail, Index.next_numbered, List.length_append, List.length_singleton, Nat.add_assoc]
  · rw [List.length_append, List.length_singleton]
    exact free

theorem pop_empty (account : q.Account past []) : q.pop = .ok (none, q) := by
  have ends := account.head_eq_tail_iff.mpr rfl
  obtain ⟨head, tail, cells⟩ := q
  simp only [pop, if_pos ends]

/-- The cell at the head holds the oldest element; without it the queue begins at the next slot. -/
theorem take_head {oldest : α} {rest : List α} (account : q.Account past (oldest :: rest)) :
    ∃ cells, q.cells.take q.head.slot = .ok (oldest, cells) ∧
      (⟨q.head.next, q.tail, cells⟩ : Spsc α capacity).Account (past + 1) rest := by
  have room : rest.length + 1 ≤ capacity.toNat := account.room
  have place : q.head.slot.toNat = past % q.cells.size := by
    rw [account.head]
    exact account.place 0
  obtain ⟨cells, take, size, held⟩ := account.cells.take place
  refine ⟨cells, take, ?_, ?_, by omega, size.trans account.size, held⟩
  · rw [account.head, Index.next_numbered]
  · rw [account.tail, List.length_cons, Nat.add_assoc, Nat.add_comm 1]

theorem head_ne_tail {oldest : α} {rest : List α} (account : q.Account past (oldest :: rest)) :
    q.head ≠ q.tail :=
  fun same => List.cons_ne_nil _ _ (account.head_eq_tail_iff.mp same)

theorem pop_oldest {oldest : α} {rest : List α} (account : q.Account past (oldest :: rest)) :
    ∃ next, q.pop = .ok (some oldest, next) ∧ next.Account (past + 1) rest := by
  have apart := account.head_ne_tail
  obtain ⟨cells, take, kept⟩ := account.take_head
  refine ⟨⟨q.head.next, q.tail, cells⟩, ?_, kept⟩
  obtain ⟨head, tail, _⟩ := q
  simp only [pop, if_neg apart, take]

end Account

theorem destroyFrom_step {cells next : Cells α} {head tail : Index capacity} {value : α}
    {values : List α} (apart : head ≠ tail) (take : cells.take head.slot = .ok (value, next))
    (rest : destroyFrom next head.next tail = .ok values) :
    destroyFrom cells head tail = .ok (value :: values) := by
  rw [destroyFrom, dif_neg apart, take]
  simp only [rest]
  rfl

/-- The loop that destroys meets every element once, oldest first, and the tail right after the
last. -/
theorem Account.destroy_eq {q : Spsc α capacity} {past : Nat} {stored : List α}
    (account : q.Account past stored) : q.destroy = .ok stored := by
  induction stored generalizing q past with
  | nil => rw [destroy, destroyFrom, dif_pos (account.head_eq_tail_iff.mpr rfl)]
  | cons oldest rest ih =>
    obtain ⟨cells, take, kept⟩ := account.take_head
    exact destroyFrom_step account.head_ne_tail take (ih kept)

end RingQueue.Queue.Spsc
