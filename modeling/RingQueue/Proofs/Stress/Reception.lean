import Mathlib.Data.List.Induction
import RingQueue.Proofs.Stress.Relay

/-! What the consumer of a run with one producer notices when the queue may do anything: lose values,
repeat them, put them out of order or make them up. The consumer expects each value to follow the one
before, so after a mistake it goes on from the wrong place, and only its flag remembers. Main result:
the verdict on a run tells exactly whether the values came as they were meant to. -/
namespace RingQueue.Relay

open RingQueue.Queue

variable {capacity items : UInt64} {relay : Relay capacity} {values : List UInt64}

/-- The consumer has come to this state and has taken these values. Between its turns everything but
what it keeps for itself may change, and so each turn may find any queue. -/
inductive Receives (items : UInt64) : List UInt64 → Relay capacity → Prop
  | start : Receives items [] start
  | disturbed {values : List UInt64} {relay : Relay capacity} (before : Receives items values relay)
      (queue : Spsc UInt64 capacity) (sent : UInt64) (producerGaveUp : Bool) :
      Receives items values { relay with queue, sent, producerGaveUp }
  | stood {values : List UInt64} {relay next : Relay capacity} {late : Bool}
      (before : Receives items values relay) (turn : consume items late relay = .ok (false, next)) :
      Receives items values next
  | took {values : List UInt64} {value : UInt64} {relay next : Relay capacity} {late : Bool}
      {queue : Spsc UInt64 capacity} (before : Receives items values relay)
      (popped : relay.queue.pop = .ok (some value, queue))
      (turn : consume items late relay = .ok (true, next)) :
      Receives items (values ++ [value]) next

/-- The values are the first ones, each once and in order. -/
def AsSent (values : List UInt64) : Prop :=
  values.map UInt64.toNat = List.range' 1 values.length

theorem asSent_append_singleton {value : UInt64} :
    AsSent (values ++ [value]) ↔ AsSent values ∧ value.toNat = values.length + 1 := by
  simp [AsSent, List.range'_1_concat, List.append_singleton_inj, Nat.add_comm]

/-- What a check says of the values so far. What it expects is only known while all is in order. -/
structure Notes (check : OrderCheck) (values : List UInt64) : Prop where
  received : check.received.toNat = values.length
  inOrder : check.inOrder = true ↔ AsSent values
  expected : AsSent values → check.expected = .ofNat (values.length + 1)

theorem notes_start : Notes {} [] where
  received := rfl
  inOrder := by simp [AsSent]
  expected _ := rfl

/-- The flag stays down once it is down. While it is up, the value is compared with the right one. -/
theorem Notes.take {check : OrderCheck} (notes : Notes check values)
    (room : values.length + 1 < 2 ^ 64) (value : UInt64) :
    ∃ next, check.take value = .ok next ∧ Notes next (values ++ [value]) := by
  refine ⟨_, take_eq (by rw [notes.received]; exact room) value, ?_, ?_, ?_⟩
  · rw [UInt64.toNat_add, notes.received, List.length_append, List.length_singleton,
      UInt64.toNat_one, Nat.mod_eq_of_lt room]
  · rw [Bool.and_eq_true, beq_iff_eq, notes.inOrder, asSent_append_singleton]
    refine and_congr_right fun asSent => ?_
    rw [notes.expected asSent, ← UInt64.toNat_inj, UInt64.toNat_ofNat_of_lt' room]
  · intro asSent
    obtain ⟨-, next⟩ := asSent_append_singleton.mp asSent
    rw [List.length_append, List.length_singleton, ← next, UInt64.ofNat_add, UInt64.ofNat_toNat]
    rfl

theorem lt_of_going (notes : Notes relay.check values) (going : ¬Stopped items 1 relay) :
    values.length < items.toNat := by
  have early : ¬items ≤ relay.check.received := fun enough => going (.inr enough)
  rwa [UInt64.le_iff_toNat_le, notes.received, Nat.not_le] at early

/-- A turn leaves the notes as they are or adds the value that the queue gave. -/
theorem Notes.consume {next : Relay capacity} {late moved : Bool} (notes : Notes relay.check values)
    (turn : consume items late relay = .ok (moved, next)) :
    (moved = false ∧ next.check = relay.check) ∨
    (moved = true ∧ values.length < items.toNat ∧ ∃ value queue,
      relay.queue.pop = .ok (some value, queue) ∧ Notes next.check (values ++ [value])) := by
  by_cases stopped : Stopped items 1 relay
  · rw [consume_stopped stopped] at turn
    obtain ⟨rfl, rfl⟩ := Prod.mk.inj (Except.ok.inj turn)
    exact .inl ⟨rfl, rfl⟩
  cases popped : relay.queue.pop with
  | error fault =>
    rw [consume_fault stopped popped] at turn
    cases turn
  | ok answer =>
    obtain ⟨none | value, queue⟩ := answer
    · rw [consume_none stopped popped] at turn
      obtain ⟨rfl, rfl⟩ := Prod.mk.inj (Except.ok.inj turn)
      exact .inl ⟨rfl, rfl⟩
    · have early := lt_of_going notes stopped
      have word := items.toNat_lt
      obtain ⟨check, taken, more⟩ := notes.take (by omega) value
      rw [consume_some stopped popped taken] at turn
      obtain ⟨rfl, rfl⟩ := Prod.mk.inj (Except.ok.inj turn)
      exact .inr ⟨rfl, early, value, queue, rfl, more⟩

/-- Whatever the queue does, the notes are about the values that were taken, and of these there are
never more than were wanted. -/
theorem Receives.notes (receives : Receives items values relay) :
    Notes relay.check values ∧ values.length ≤ items.toNat := by
  induction receives with
  | start => exact ⟨notes_start, Nat.zero_le _⟩
  | disturbed _ _ _ _ ih => exact ih
  | stood _ turn ih =>
    obtain ⟨notes, within⟩ := ih
    rcases notes.consume turn with ⟨-, same⟩ | ⟨moved, -⟩
    · exact ⟨same ▸ notes, within⟩
    · cases moved
  | took _ popped turn ih =>
    obtain ⟨notes, -⟩ := ih
    rcases notes.consume turn with ⟨moved, -⟩ | ⟨-, early, value, queue, poppedToo, more⟩
    · cases moved
    · obtain ⟨⟨⟩, -⟩ := Prod.mk.inj (Except.ok.inj (popped.symm.trans poppedToo))
      exact ⟨more, by rw [List.length_append]; exact early⟩

/-- Any value may be the next one out of a queue. -/
theorem exists_pop (room : 0 < capacity.toNat) (value : UInt64) :
    ∃ queue rest : Spsc UInt64 capacity, queue.pop = .ok (some value, rest) := by
  obtain ⟨queue, -, account⟩ :=
    (@Spsc.account_startingAt UInt64 capacity .zero).push_accepted room value
  obtain ⟨rest, popped, -⟩ := account.pop_oldest
  exact ⟨queue, rest, popped⟩

/-- Any values may come, as long as no more are wanted. -/
theorem exists_receives (room : 0 < capacity.toNat) (values : List UInt64)
    (fits : values.length ≤ items.toNat) :
    ∃ relay : Relay capacity, Receives items values relay ∧ relay.consumerGaveUp = false := by
  induction values using List.reverseRecOn with
  | nil => exact ⟨start, .start, rfl⟩
  | append_singleton values value ih =>
    rw [List.length_append, List.length_singleton] at fits
    obtain ⟨relay, receives, patient⟩ := ih (by omega)
    obtain ⟨queue, rest, popped⟩ := exists_pop room value
    obtain ⟨notes, -⟩ := receives.notes
    have word := items.toNat_lt
    obtain ⟨check, taken, -⟩ := notes.take (by omega) value
    have going : ¬Stopped items 1 { relay with queue } := by
      rintro (gaveUp | enough)
      · rw [patient] at gaveUp
        cases gaveUp
      · rw [UInt64.le_iff_toNat_le, notes.received] at enough
        omega
    exact ⟨_, (receives.disturbed queue _ _).took popped (consume_some going popped taken false), rfl⟩

/-- After these values the consumer may come to its end: it has all that it wants, or its time runs
out at an empty queue. -/
theorem exists_stopped (room : 0 < capacity.toNat) (values : List UInt64)
    (fits : values.length ≤ items.toNat) (sent : UInt64) :
    ∃ relay : Relay capacity, Receives items values relay ∧ relay.sent = sent ∧
      Stopped items 1 relay := by
  obtain ⟨relay, receives, -⟩ := exists_receives room values fits
  have receives := receives.disturbed .empty sent false
  generalize finds : (⟨.empty, sent, false, _, _⟩ : Relay capacity) = last at receives
  by_cases stopped : Stopped items 1 last
  · exact ⟨last, receives, by rw [← finds], stopped⟩
  · have empty : (Spsc.empty : Spsc UInt64 capacity).pop = .ok (none, .empty) :=
      (Spsc.account_startingAt .zero).pop_empty
    exact ⟨_, receives.stood (consume_none stopped (by rw [← finds]; exact empty) true),
      by rw [← finds], .inl rfl⟩

/-! The report, read off the notes. -/
section Report

variable {turns : Nat} (notes : Notes relay.check values)
include notes

theorem fifo_iff : (relay.report items turns).fifo = some true ↔ AsSent values := by
  simp [Relay.report, notes.inOrder]

theorem exactlyOnce_iff : (relay.report items turns).exactlyOnce = true ↔
    AsSent values ∧ values.length = relay.sent.toNat := by
  simp [Relay.report, notes.inOrder, ← UInt64.toNat_inj, notes.received]

theorem inTime_iff (sent : relay.sent ≤ items) (fits : values.length ≤ items.toNat) :
    (relay.report items turns).timedOut = false ↔
      relay.sent = items ∧ values.length = items.toNat := by
  rw [UInt64.le_iff_toNat_le] at sent
  simp only [Relay.report, Bool.or_eq_false_iff, decide_eq_false_iff_not, UInt64.lt_iff_toNat_lt,
    ← UInt64.toNat_inj, notes.received]
  omega

/-- A run passes by three of the entries of its report; with everything in time the other two say
the same of it. -/
theorem passed_iff (sent : relay.sent ≤ items) (fits : values.length ≤ items.toNat) :
    (relay.report items turns).passed = true ↔
      relay.sent = items ∧ values.map UInt64.toNat = List.range' 1 items.toNat := by
  have entries : (relay.report items turns).passed = true ↔
      (relay.report items turns).timedOut = false ∧
      (relay.report items turns).exactlyOnce = true ∧
      (relay.report items turns).fifo = some true := by
    simp [Report.passed, Relay.report, and_assoc]
  rw [entries, inTime_iff notes sent fits, exactlyOnce_iff notes, fifo_iff notes]
  constructor
  · rintro ⟨⟨everything, all⟩, ⟨asSent, -⟩, -⟩
    exact ⟨everything, all ▸ asSent⟩
  · rintro ⟨rfl, all⟩
    have length : values.length = relay.sent.toNat := by simpa using congrArg List.length all
    rw [← length] at all
    exact ⟨⟨rfl, length⟩, ⟨all, length⟩, all⟩

end Report

/-- The verdict is sound and complete, whatever the queue does. Any values at all may come, up to as
many as are wanted, before the consumer has all of them or runs out of time; and then the report
tells exactly whether they are the first ones, each once and in order, whether these are all that
were sent, and whether everything was sent and came. -/
theorem report_exact (items : UInt64) :
    (0 < capacity.toNat → ∀ values : List UInt64, values.length ≤ items.toNat → ∀ sent,
      ∃ relay : Relay capacity, Receives items values relay ∧ relay.sent = sent ∧
        Stopped items 1 relay) ∧
    ∀ (values : List UInt64) (relay : Relay capacity), Receives items values relay →
      relay.sent ≤ items → ∀ turns,
      (relay.report items turns).itemsReceived.toNat = values.length ∧
      ((relay.report items turns).fifo = some true ↔
        values.map UInt64.toNat = List.range' 1 values.length) ∧
      ((relay.report items turns).exactlyOnce = true ↔
        values.map UInt64.toNat = List.range' 1 values.length ∧
          values.length = relay.sent.toNat) ∧
      ((relay.report items turns).passed = true ↔
        relay.sent = items ∧ values.map UInt64.toNat = List.range' 1 items.toNat) := by
  refine ⟨exists_stopped, fun values relay receives sent turns => ?_⟩
  obtain ⟨notes, fits⟩ := receives.notes
  exact ⟨notes.received, fifo_iff notes, exactlyOnce_iff notes, passed_iff notes sent fits⟩

/-- Three values are wanted. After a gap the consumer finds each value where it expects it, and yet the
run fails; without the gap it passes. -/
theorem report_after_a_gap :
    (∃ relay : Relay 4, Receives 3 [1, 3, 4] relay ∧ relay.sent = 3 ∧ Stopped 3 1 relay ∧
      ∀ turns, (relay.report 3 turns).itemsReceived.toNat = 3 ∧
        (relay.report 3 turns).fifo ≠ some true ∧ (relay.report 3 turns).passed = false) ∧
    ∃ relay : Relay 4, Receives 3 [1, 2, 3] relay ∧ relay.sent = 3 ∧ Stopped 3 1 relay ∧
      ∀ turns, (relay.report 3 turns).passed = true := by
  obtain ⟨comes, told⟩ := @report_exact 4 3
  obtain ⟨gap, receives, sent, stopped⟩ := comes (by decide) [1, 3, 4] (by decide) 3
  obtain ⟨whole, receivesToo, sentToo, stoppedToo⟩ := comes (by decide) [1, 2, 3] (by decide) 3
  refine ⟨⟨gap, receives, sent, stopped, fun turns => ?_⟩,
    whole, receivesToo, sentToo, stoppedToo, fun turns => ?_⟩
  · obtain ⟨received, fifo, -, passed⟩ := told _ gap receives (by rw [sent]; decide) turns
    refine ⟨received, ?_, ?_⟩
    · rw [Ne, fifo]
      decide
    · rw [Bool.eq_false_iff, Ne, passed]
      exact fun good => absurd good.2 (by decide)
  · obtain ⟨-, -, -, passed⟩ := told _ whole receivesToo (by rw [sentToo]; decide) turns
    exact passed.mpr ⟨sentToo, by decide⟩

end RingQueue.Relay
