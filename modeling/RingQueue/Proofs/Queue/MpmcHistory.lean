import RingQueue.Proofs.Queue.Mpmc

/-! Histories of whole calls on the queue with many ends. Main results: every answer is that of a
list with room for `capacity` elements, and the indices and sequence numbers depend on nothing but
how many elements came in and how many went out. Both hold for histories of any length, and so
also after the indices and the sequence numbers have passed the largest word. -/
namespace RingQueue.Queue

open RingQueue.Ring

namespace Mpmc

variable {α : Type u} {capacity : UInt64}

inductive Call (α : Type u) where
  | enqueue (value : α)
  | dequeue
  | length
  | isEmpty
  deriving DecidableEq, Repr

def answer : Call α → Mpmc α capacity → Except Fault (Event α × Mpmc α capacity)
  | .enqueue value, q => (q.enqueue value).map fun (offer, q) => (.offered value offer, q)
  | .dequeue, q => q.dequeue.map fun (value, q) => (.taken value, q)
  | .length, q => .ok (.counted q.length.toNat, q)
  | .isEmpty, q => .ok (.told q.isEmpty, q)

/-- What a list with room for `capacity` elements answers. -/
def Call.fifo (capacity : Nat) : Call α → List α → Event α × List α
  | enqueue value, stored => Fifo.offer capacity value stored
  | dequeue, stored => Fifo.take stored
  | length, stored => (.counted stored.length, stored)
  | isEmpty, stored => (.told stored.isEmpty, stored)

theorem Call.conserves (capacity : Nat) (call : Call α) (stored : List α) :
    Fifo.Conserves stored (call.fifo capacity stored).1 (call.fifo capacity stored).2 := by
  cases call with
  | enqueue value => exact Fifo.conserves_offer capacity value stored
  | dequeue => exact Fifo.conserves_take stored
  | length => exact Fifo.conserves_counted stored stored.length
  | isEmpty => exact Fifo.conserves_told stored stored.isEmpty

/-- Each call is answered as by the list, and the account moves on with what goes out. -/
theorem Account.answer {q : Mpmc α capacity} {past : Nat} {stored : List α}
    (admitted : Admitted capacity) (account : q.Account past stored) (call : Call α) :
    ∃ next, answer call q = .ok ((call.fifo capacity.toNat stored).1, next) ∧
      next.Account (past + (Event.given [(call.fifo capacity.toNat stored).1]).length)
        (call.fifo capacity.toNat stored).2 := by
  cases call with
  | enqueue value =>
    simp only [Call.fifo, Fifo.offer, Mpmc.answer]
    split
    · rename_i room
      obtain ⟨next, accepted, kept⟩ := account.enqueue_accepted admitted room value
      exact ⟨next, by rw [accepted]; rfl, kept⟩
    · rename_i none
      have full : stored.length = capacity.toNat := by
        have := account.length_le
        omega
      exact ⟨q, by rw [account.enqueue_full admitted full]; rfl, account⟩
  | dequeue =>
    cases stored with
    | nil => exact ⟨q, by rw [Mpmc.answer, account.dequeue_empty admitted]; rfl, account⟩
    | cons oldest rest =>
      obtain ⟨next, taken, kept⟩ := account.dequeue_oldest admitted
      exact ⟨next, by rw [Mpmc.answer, taken]; rfl, kept⟩
  | length =>
    exact ⟨q, by rw [Mpmc.answer, account.length_eq admitted]; rfl, account⟩
  | isEmpty =>
    exact ⟨q, by rw [Mpmc.answer, account.isEmpty_eq admitted]; rfl, account⟩

/-- The queue stores just these elements, oldest first, however many have left it. -/
def Stores (q : Mpmc α capacity) (stored : List α) : Prop := ∃ past, q.Account past stored

theorem stores_startingAt (admitted : Admitted capacity) (position : UInt64) :
    (startingAt position : Mpmc α capacity).Stores [] := by
  have account := account_startingAt (α := α) admitted position.toNat
  rw [UInt64.ofNat_toNat] at account
  exact ⟨position.toNat, account⟩

theorem Stores.answer {q : Mpmc α capacity} {stored : List α} (admitted : Admitted capacity)
    (stores : q.Stores stored) (call : Call α) :
    ∃ next, answer call q = .ok ((call.fifo capacity.toNat stored).1, next) ∧
      next.Stores (call.fifo capacity.toNat stored).2 := by
  obtain ⟨past, account⟩ := stores
  obtain ⟨next, answered, kept⟩ := account.answer admitted call
  exact ⟨next, answered, _, kept⟩

/-- Every history of calls ends without a fault and has the answers of a list with room for
`capacity` elements, also when any number of elements have passed through the queue before. -/
theorem history_startingAt_eq_fifo (admitted : Admitted capacity) (position : UInt64)
    (calls : List (Call α)) :
    ∃ q : Mpmc α capacity, history answer calls (startingAt position) =
      .ok ((Fifo.history (Call.fifo capacity.toNat) calls []).1, q) := by
  obtain ⟨q, answers, -⟩ := Fifo.history_simulates Stores
    (fun call _ _ stores => stores.answer admitted call) calls (startingAt position) []
    (stores_startingAt admitted position)
  exact ⟨q, answers⟩

/-- Two slots and two elements, the first with the largest word for a number and the second with
zero. -/
theorem history_across_the_word : Admitted 2 ∧ ∃ q : Mpmc Nat 2,
    history answer [.enqueue 7, .enqueue 8, .enqueue 9, .length, .dequeue, .isEmpty, .dequeue,
      .dequeue] (startingAt (.ofNat (2 ^ 64 - 1))) =
    .ok ([.offered 7 .accepted, .offered 8 .accepted, .offered 9 (.full 9), .counted 2,
      .taken (some 7), .told false, .taken (some 8), .taken none], q) :=
  ⟨admitted_two, history_startingAt_eq_fifo admitted_two _ _⟩

/-- The queue stands as a history left it that began empty after `start` elements: its account has
moved on by what it gave out, and its elements balance. -/
def After (q : Mpmc α capacity) (start : Nat) (events : List (Event α)) : Prop :=
  ∃ stored, q.Account (start + (Event.given events).length) stored ∧ Fifo.Balanced events stored

theorem After.answer {q : Mpmc α capacity} {start : Nat} {events : List (Event α)}
    (admitted : Admitted capacity) (after : q.After start events) (call : Call α) :
    ∃ event next, answer call q = .ok (event, next) ∧ next.After start (events ++ [event]) := by
  obtain ⟨stored, account, balanced⟩ := after
  obtain ⟨next, answered, kept⟩ := account.answer admitted call
  refine ⟨_, next, answered, _, ?_, balanced.append (call.conserves capacity.toNat stored)⟩
  rwa [Event.given_append, List.length_append, ← Nat.add_assoc]

theorem history_after (admitted : Admitted capacity) (start : Nat) (calls : List (Call α)) :
    ∃ events, ∃ q : Mpmc α capacity,
      history answer calls (startingAt (.ofNat start)) = .ok (events, q) ∧ q.After start events :=
  history_invariant (fun _ events q => After q start events)
    (fun _ _ _ after call => after.answer admitted call) calls _
    ⟨[], account_startingAt admitted start, Fifo.balanced_nil⟩

/-- The state of a queue that took in `entered` elements and gave out `left`, in machine words. The
slot's number is the only one of the next lap that maps to it. -/
structure Lap (q : Mpmc α capacity) (entered left : Nat) : Prop where
  left_le : left ≤ entered
  entered_le : entered ≤ left + capacity.toNat
  enqueueIndex : q.enqueueIndex = .ofNat entered
  dequeueIndex : q.dequeueIndex = .ofNat left
  slots : q.sequences.size = capacity.toNat
  sequence : ∀ slot < capacity.toNat, ∃ number,
    (left ≤ number ∧ number < left + capacity.toNat ∧ number % capacity.toNat = slot) ∧
    (∀ other, left ≤ other → other < left + capacity.toNat → other % capacity.toNat = slot →
      other = number) ∧
    q.sequences[slot]? = some (.ofNat (if number < entered then number + 1 else number))

theorem Account.lap {q : Mpmc α capacity} {past : Nat} {stored : List α}
    (account : q.Account past stored) : q.Lap (past + stored.length) past where
  left_le := Nat.le_add_right ..
  entered_le := Nat.add_le_add_left account.length_le past
  enqueueIndex := account.enqueueIndex
  dequeueIndex := account.dequeueIndex
  slots := account.slots
  sequence := by
    intro slot inside
    obtain ⟨k, bound, rfl⟩ := Cells.exists_place past inside
    refine ⟨past + k, ⟨Nat.le_add_right .., Nat.add_lt_add_left bound past, rfl⟩, ?_, ?_⟩
    · intro other low high same
      obtain ⟨j, rfl⟩ := Nat.exists_eq_add_of_le low
      rw [Cells.place_injective (by omega) bound same]
    · rw [account.sequence k bound]
      simp only [Nat.add_lt_add_iff_left]

/-- Nothing but the two numbers decides the indices and the sequence numbers. -/
theorem Lap.unique {q r : Mpmc α capacity} {entered left : Nat} (lap : q.Lap entered left)
    (lapToo : r.Lap entered left) : q.enqueueIndex = r.enqueueIndex ∧
      q.dequeueIndex = r.dequeueIndex ∧ q.sequences = r.sequences := by
  refine ⟨lap.enqueueIndex.trans lapToo.enqueueIndex.symm,
    lap.dequeueIndex.trans lapToo.dequeueIndex.symm, ?_⟩
  apply Array.ext_getElem?
  intro slot
  by_cases inside : slot < capacity.toNat
  · obtain ⟨number, ⟨low, high, place⟩, -, found⟩ := lap.sequence slot inside
    obtain ⟨_, -, only, foundToo⟩ := lapToo.sequence slot inside
    rw [found, foundToo, only number low high place]
  · rw [Array.getElem?_eq_none (by rw [lap.slots]; omega),
      Array.getElem?_eq_none (by rw [lapToo.slots]; omega)]

/-- Each of these elements in and out again before the next. -/
def Call.pairs (values : List α) : List (Call α) :=
  values.flatMap fun value => [.enqueue value, .dequeue]

/-- Pairs of calls leave the queue as if it had started empty at the later position. -/
theorem history_pairs (admitted : Admitted capacity) (values : List α) (start : Nat) :
    ∃ events, history answer (Call.pairs values)
      (startingAt (.ofNat start) : Mpmc α capacity) =
        .ok (events, startingAt (.ofNat (start + values.length))) := by
  induction values generalizing start with
  | nil => exact ⟨[], rfl⟩
  | cons value values ih =>
    have bounds := admitted.bounds
    obtain ⟨filled, accepted, account⟩ := (account_startingAt (α := α) admitted start).enqueue_accepted
      admitted (by rw [List.length_nil]; omega) value
    obtain ⟨drained, taken, account⟩ := account.dequeue_oldest admitted
    obtain rfl := account.unique (account_startingAt admitted (start + 1))
    obtain ⟨events, rest⟩ := ih (start + 1)
    refine ⟨.offered value .accepted :: .taken (some value) :: events, ?_⟩
    rw [List.length_cons, Nat.add_comm values.length, ← Nat.add_assoc]
    exact history_cons (by rw [answer, accepted]; rfl) (history_cons (by rw [answer, taken]; rfl) rest)

/-- The lap formula. After every history of a fresh queue the indices and the sequence numbers are
those of the exact numbers of elements that came in and went out; nothing else decides them, and
pairs of calls lead to the empty queue of their number. -/
theorem lap_formula (admitted : Admitted capacity) :
    (∀ calls : List (Call α), ∃ events, ∃ q : Mpmc α capacity,
      history answer calls empty = .ok (events, q) ∧
      q.Lap (Event.accepted events).length (Event.given events).length) ∧
    (∀ (q r : Mpmc α capacity) (entered left : Nat), q.Lap entered left → r.Lap entered left →
      q.enqueueIndex = r.enqueueIndex ∧ q.dequeueIndex = r.dequeueIndex ∧
      q.sequences = r.sequences) ∧
    ∀ values : List α, ∃ events,
      history answer (Call.pairs values) (empty : Mpmc α capacity) =
        .ok (events, startingAt (.ofNat values.length)) ∧
      (startingAt (.ofNat values.length) : Mpmc α capacity).Lap values.length values.length := by
  refine ⟨fun calls => ?_, fun _ _ _ _ lap lapToo => lap.unique lapToo, fun values => ?_⟩
  · obtain ⟨events, q, answers, stored, account, balanced⟩ :=
      history_after (α := α) admitted 0 calls
    have lap := account.lap
    rw [Nat.zero_add, ← List.length_append, ← balanced.elements] at lap
    exact ⟨events, q, answers, lap⟩
  · obtain ⟨events, answers⟩ := history_pairs admitted values 0
    rw [Nat.zero_add] at answers
    exact ⟨events, answers, (account_startingAt admitted values.length).lap⟩

/-- Two elements in and one out of two slots: both then carry a two, the first because it waits for
the number two and the second because it holds the number one. -/
theorem lap_after_three_calls : Admitted 2 ∧
    (⟨2, 1, #[2, 2], ⟨#[none, some 8]⟩⟩ : Mpmc Nat 2).Lap 2 1 ∧
    ∀ q : Mpmc Nat 2, q.Lap 2 1 → q.sequences = #[2, 2] := by
  obtain ⟨after, only, -⟩ := lap_formula (α := Nat) admitted_two
  obtain ⟨events, q, answers, lap⟩ := after [.enqueue 7, .enqueue 8, .dequeue]
  have run : history answer [.enqueue 7, .enqueue 8, .dequeue] (empty : Mpmc Nat 2) =
      .ok ([.offered 7 .accepted, .offered 8 .accepted, .taken (some 7)],
        ⟨2, 1, #[2, 2], ⟨#[none, some 8]⟩⟩) := rfl
  obtain ⟨rfl, rfl⟩ := Prod.mk.inj (Except.ok.inj (run.symm.trans answers))
  exact ⟨admitted_two, lap, fun r lapToo => (only r _ 2 1 lapToo lap).2.2⟩

end Mpmc
end RingQueue.Queue
