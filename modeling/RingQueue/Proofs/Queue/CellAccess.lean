import RingQueue.Proofs.Queue.Conservation

/-! Which cells hold an element, at every point of a queue's life. Nothing in either queue records
it: in one it follows from the two ends, in the other from indices and sequence numbers. Main result:
every run ends without a fault, also when the queue is destroyed, and between any two operations the
cells that hold an element are those from the oldest up to the next free one. -/
namespace RingQueue.Queue

open RingQueue.Ring

variable {α : Type u} {capacity : UInt64}

theorem Cells.Holds.isSome_get?_iff {cells : Cells α} {first : Nat} {stored : List α}
    (held : cells.Holds first stored) (slot : UInt64) :
    (cells.get? slot).isSome ↔ ∃ k < stored.length, (first + k) % cells.size = slot.toNat := by
  constructor
  · intro filled
    have inside : slot.toNat < cells.size := by
      by_contra outside
      rw [Cells.get?, Array.getElem?_eq_none (Nat.le_of_not_lt outside)] at filled
      cases filled
    obtain ⟨k, bound, place⟩ := Cells.exists_place first inside
    rw [held.get? bound place.symm] at filled
    exact ⟨k, by simpa using filled, place⟩
  · rintro ⟨k, early, place⟩
    rw [held.get? (Nat.lt_of_lt_of_le early held.fits) place.symm]
    simpa using early

namespace Spsc

/-- What makes the accesses of every operation safe. -/
structure Justified (q : Spsc α capacity) : Prop where
  /-- The cells from the head up to the tail hold elements, and no others do. -/
  live : ∀ slot, (q.cells.get? slot).isSome ↔ ∃ i ∈ q.head.upTo q.tail, i.slot = slot
  inRange : ∀ i : Index capacity, i.slot.toNat < q.cells.size
  read : q.head ≠ q.tail → ∃ value, q.cells.contents[q.head.slot.toNat]? = some (some value)
  write : q.tail.next ≠ q.head → q.cells.contents[q.tail.slot.toNat]? = some none
  /-- The loop that destroys the queue drops the contents of just these cells. -/
  release : ∃ destroyed, q.destroy = .ok destroyed ∧
    (q.head.upTo q.tail).map (fun i => q.cells.get? i.slot) = destroyed.map some

theorem Account.upTo_eq {q : Spsc α capacity} {past : Nat} {stored : List α}
    (account : q.Account past stored) :
    q.head.upTo q.tail = (List.range stored.length).map fun k => .numbered (past + k) := by
  rw [account.head, account.tail, ← Index.advance_numbered, Index.upTo_advance _ account.room]
  exact List.map_congr_left fun k _ => Index.advance_numbered past k

theorem Account.justified {q : Spsc α capacity} {past : Nat} {stored : List α}
    (account : q.Account past stored) : q.Justified where
  live slot := by
    rw [account.cells.isSome_get?_iff, account.upTo_eq]
    constructor
    · rintro ⟨k, early, place⟩
      rw [← account.place] at place
      exact ⟨_, List.mem_map_of_mem (List.mem_range.mpr early), UInt64.toNat_inj.mp place⟩
    · rintro ⟨i, member, rfl⟩
      obtain ⟨k, early, rfl⟩ := List.mem_map.mp member
      exact ⟨k, List.mem_range.mp early, (account.place k).symm⟩
  inRange i := by
    rw [account.size]
    exact i.toNat_slot_lt
  read := by
    intro apart
    obtain ⟨oldest, rest, rfl⟩ : ∃ oldest rest, stored = oldest :: rest :=
      List.exists_cons_of_ne_nil fun none => apart (account.head_eq_tail_iff.mpr none)
    have content := account.cells.cell 0 (by rw [account.size]; omega)
    rw [← account.place, Nat.add_zero, ← account.head] at content
    exact ⟨oldest, content⟩
  write := by
    intro free
    have room := account.room
    have notFull : stored.length ≠ capacity.toNat := mt account.next_tail_eq_head_iff.mpr free
    have content := account.cells.cell stored.length (by rw [account.size]; omega)
    rwa [← account.place, ← account.tail, List.getElem?_eq_none (Nat.le_refl _)] at content
  release := ⟨stored, account.destroy_eq, account.contents_eq⟩

end Spsc

namespace Mpmc

/-- What makes the accesses of every operation safe. An operation reads or writes a cell only after
the sequence number of the slot has granted its ticket. -/
structure Justified (q : Mpmc α capacity) : Prop where
  /-- The cells of the tickets from one index up to the other hold elements, and no others do. -/
  live : ∀ slot, (q.cells.get? slot).isSome ↔
    ∃ t ∈ (⟨q.dequeueIndex⟩ : Ticket capacity).upTo q.enqueueIndex, t.slot = slot
  inRange : ∀ t : Ticket capacity, t.slot.toNat < q.sequences.size ∧ t.slot.toNat < q.cells.size
  read : ∀ t : Ticket capacity, t.position = q.dequeueIndex → ∀ sequence,
    q.sequences[t.slot.toNat]? = some sequence → Claim.ofLag (t.fillLag sequence) = .granted →
    ∃ value, q.cells.contents[t.slot.toNat]? = some (some value)
  write : ∀ t : Ticket capacity, t.position = q.enqueueIndex → ∀ sequence,
    q.sequences[t.slot.toNat]? = some sequence → Claim.ofLag (t.lag sequence) = .granted →
    q.cells.contents[t.slot.toNat]? = some none
  /-- The loop that destroys the queue drops the contents of just these cells. -/
  release : ∃ destroyed, q.destroy = .ok destroyed ∧
    ((⟨q.dequeueIndex⟩ : Ticket capacity).upTo q.enqueueIndex).map
      (fun t => q.cells.get? t.slot) = destroyed.map some

namespace Account

variable {q : Mpmc α capacity} {past : Nat} {stored : List α}

theorem upTo_eq (admitted : Admitted capacity) (account : q.Account past stored) :
    (⟨q.dequeueIndex⟩ : Ticket capacity).upTo q.enqueueIndex =
      (List.range stored.length).map fun k => .numbered (past + k) := by
  have bounds := admitted.bounds
  have fits := account.length_le
  rw [account.dequeueIndex, account.enqueueIndex]
  exact Ticket.upTo_numbered past (by omega)

theorem place (admitted : Admitted capacity) (account : q.Account past stored) (k : Nat) :
    (Ticket.numbered (past + k) : Ticket capacity).slot.toNat = (past + k) % q.cells.size := by
  obtain ⟨_, _, _, power⟩ := admitted
  rw [Ticket.toNat_slot_numbered power, account.size]

/-- An empty queue grants no ticket to a consumer. -/
theorem stored_of_granted (admitted : Admitted capacity) (account : q.Account past stored)
    {sequence : UInt64}
    (found : q.sequences[(Ticket.numbered past : Ticket capacity).slot.toNat]? = some sequence)
    (granted : Claim.ofLag ((Ticket.numbered past : Ticket capacity).fillLag sequence) = .granted) :
    stored ≠ [] := by
  rintro rfl
  obtain ⟨_, carried, lag⟩ := account.dequeue_lag admitted
  obtain rfl := Option.some.inj (found.symm.trans carried)
  rw [lag, if_pos List.length_nil, Claim.ofLag_neg (by omega) (by omega)] at granted
  cases granted

/-- A full queue grants no ticket to a producer. -/
theorem room_of_granted (admitted : Admitted capacity) (account : q.Account past stored)
    {sequence : UInt64}
    (found : q.sequences[(Ticket.numbered (past + stored.length) : Ticket capacity).slot.toNat]? =
      some sequence)
    (granted : Claim.ofLag ((Ticket.numbered (past + stored.length) : Ticket capacity).lag sequence)
      = .granted) : stored.length < capacity.toNat := by
  have bounds := admitted.bounds
  have fits := account.length_le
  by_contra noRoom
  obtain ⟨_, carried, lag⟩ := account.enqueue_lag admitted
  obtain rfl := Option.some.inj (found.symm.trans carried)
  rw [lag, if_pos (by omega), Claim.ofLag_neg (by omega) (by omega)] at granted
  cases granted

theorem justified (admitted : Admitted capacity) (account : q.Account past stored) :
    q.Justified where
  live slot := by
    rw [account.cells.isSome_get?_iff, account.upTo_eq admitted]
    constructor
    · rintro ⟨k, early, place⟩
      rw [← account.place admitted] at place
      exact ⟨_, List.mem_map_of_mem (List.mem_range.mpr early), UInt64.toNat_inj.mp place⟩
    · rintro ⟨t, member, rfl⟩
      obtain ⟨k, early, rfl⟩ := List.mem_map.mp member
      exact ⟨k, List.mem_range.mp early, (account.place admitted k).symm⟩
  inRange t := by
    have bounds := admitted.bounds
    obtain ⟨_, _, _, power⟩ := admitted
    rw [account.slots, account.size, Ticket.slot, Ticket.toNat_and_mask power]
    exact ⟨Nat.mod_lt _ (by omega), Nat.mod_lt _ (by omega)⟩
  read := by
    rintro ⟨_⟩ rfl sequence found granted
    rw [account.dequeueIndex] at found granted ⊢
    obtain ⟨oldest, rest, rfl⟩ :=
      List.exists_cons_of_ne_nil (account.stored_of_granted admitted found granted)
    have bounds := admitted.bounds
    have content := account.cells.cell 0 (by rw [account.size]; omega)
    rw [← account.place admitted, Nat.add_zero] at content
    exact ⟨oldest, content⟩
  write := by
    rintro ⟨_⟩ rfl sequence found granted
    rw [account.enqueueIndex] at found granted ⊢
    have room := account.room_of_granted admitted found granted
    have content := account.cells.cell stored.length (by rw [account.size]; omega)
    rwa [← account.place admitted, List.getElem?_eq_none (Nat.le_refl _)] at content
  release := by
    refine ⟨stored, account.destroy_eq admitted, ?_⟩
    rw [account.upTo_eq admitted, List.map_map]
    apply List.ext_getElem
    · simp
    · intro k inside _
      have inside : k < stored.length := by simpa using inside
      have fits := account.cells.fits
      have content := account.cells.get? (by omega) (account.place admitted k)
      simp [content, inside]

end Account
end Mpmc

/-- Every access to a cell is justified. Whatever is done with the ends of a one-to-one queue until
both are closed, and whatever is asked of a queue with many ends on whichever side of the largest
word its indices are, the run ends without a fault: no vacant cell is read, no element is written
over and no slot is out of range. Between any two operations just the cells from the oldest element
up to the next free one are filled, and to destroy the queue then is free of faults, too. -/
theorem accesses_justified :
    (∀ (capacity : UInt64) (start : Index capacity) (steps : List (Channel.Step α)),
      ∃ events channel, history Channel.step steps (.joined (.startingAt start)) =
        .ok (events, channel) ∧ ∀ q, channel.queue? = some q → q.Justified) ∧
    (∀ capacity, Mpmc.Admitted capacity → ∀ (position : UInt64) (calls : List (Mpmc.Call α)),
      ∃ events, ∃ q : Mpmc α capacity,
        history Mpmc.answer calls (.startingAt position) = .ok (events, q) ∧ q.Justified) := by
  constructor
  · intro capacity start steps
    obtain ⟨events, channel, answers, kept⟩ := history_invariant Channel.Kept
      (fun _ _ _ kept now => kept.next now) steps (.joined (.startingAt start))
      (Channel.kept_joined start)
    refine ⟨events, channel, answers, fun q live => ?_⟩
    obtain ⟨_, _, account, _⟩ := kept.live q live
    exact account.justified
  · intro capacity admitted position calls
    obtain ⟨events, q, answers, _, account, _⟩ :=
      Mpmc.history_after (α := α) admitted position.toNat calls
    rw [UInt64.ofNat_toNat] at answers
    exact ⟨events, q, answers, account.justified admitted⟩

/-- Two slots, filled by tickets on either side of the largest word, then one of them emptied: the
remaining element is that of ticket zero. -/
theorem justified_across_the_word : Mpmc.Admitted 2 ∧
    (⟨1, 0, #[1, 1], ⟨#[some 8, none]⟩⟩ : Mpmc Nat 2).Justified := by
  obtain ⟨events, q, answers, justified⟩ := (accesses_justified (α := Nat)).2 2 Mpmc.admitted_two
    (.ofNat (2 ^ 64 - 1)) [.enqueue 7, .enqueue 8, .dequeue]
  have run : history Mpmc.answer [.enqueue 7, .enqueue 8, .dequeue]
      (.startingAt (.ofNat (2 ^ 64 - 1)) : Mpmc Nat 2) =
      .ok ([.offered 7 .accepted, .offered 8 .accepted, .taken (some 7)],
        ⟨1, 0, #[1, 1], ⟨#[some 8, none]⟩⟩) := rfl
  obtain ⟨rfl, rfl⟩ := Prod.mk.inj (Except.ok.inj (run.symm.trans answers))
  exact ⟨Mpmc.admitted_two, justified⟩

end RingQueue.Queue
