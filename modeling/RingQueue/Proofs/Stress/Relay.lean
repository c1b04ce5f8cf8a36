import RingQueue.Proofs.Queue.ChannelHistory
import RingQueue.Proofs.Stress.Schedule
import RingQueue.Stress.Run

/-! A run with one producer and one consumer, whatever the order of their turns. The account of a
relay is two numbers, how many values have been received and how many are under way: together with
what the queue does as a queue it fixes everything but which worker has given up. -/
namespace RingQueue.Relay

open RingQueue.Queue

variable {capacity items : UInt64} {relay next : Relay capacity} {received stored : Nat}

/-- `count` values, beginning with the one after `first`. -/
def numbers (first count : Nat) : List UInt64 :=
  (List.range count).map fun k => .ofNat (first + k + 1)

@[simp] theorem length_numbers (first count : Nat) : (numbers first count).length = count := by
  simp [numbers]

theorem numbers_succ (first count : Nat) :
    numbers first (count + 1) = numbers first count ++ [.ofNat (first + count + 1)] := by
  simp [numbers, List.range_succ]

theorem numbers_eq_cons (first count : Nat) :
    numbers first (count + 1) = .ofNat (first + 1) :: numbers (first + 1) count := by
  simp only [numbers, List.range_succ_eq_map, List.map_cons, List.map_map, Nat.add_zero]
  congr 2
  funext k
  exact congrArg UInt64.ofNat (by rw [Nat.succ_eq_add_one]; omega)

/-- All values up to the one sent last have been received in order or stand in the queue in order. -/
structure Account (items : UInt64) (relay : Relay capacity) (received stored : Nat) : Prop where
  queue : relay.queue.Account received (numbers received stored)
  sent : relay.sent.toNat = received + stored
  within : received + stored ≤ items.toNat
  check : relay.check = ⟨.ofNat (received + 1), .ofNat received, true⟩

theorem account_start (items : UInt64) : (start : Relay capacity).Account items 0 0 where
  queue := Spsc.account_startingAt .zero
  sent := rfl
  within := Nat.zero_le _
  check := rfl

/-- A worker has stopped that has given up or done its part. -/
def Stopped (items : UInt64) (worker : Nat) (relay : Relay capacity) : Prop :=
  if worker = 0 then relay.producerGaveUp = true ∨ relay.sent = items
  else relay.consumerGaveUp = true ∨ items ≤ relay.check.received

theorem finished_iff :
    relay.finished items = true ↔ Stopped items 0 relay ∧ Stopped items 1 relay := by
  simp [finished, Stopped]

/-- Nobody has given up. -/
def Patient (relay : Relay capacity) : Prop :=
  relay.producerGaveUp = false ∧ relay.consumerGaveUp = false

theorem finished_of_stopped (all : ∀ worker < 2, Stopped items worker relay) :
    relay.finished items = true :=
  finished_iff.mpr ⟨all 0 (by decide), all 1 (by decide)⟩

theorem patient_start : (start : Relay capacity).Patient := ⟨rfl, rfl⟩

theorem take_eq {check : OrderCheck} (room : check.received.toNat + 1 < 2 ^ 64) (value : UInt64) :
    check.take value =
      .ok ⟨value + 1, check.received + 1, check.inOrder && value == check.expected⟩ := by
  have counted : Exact.add check.received 1 = .ok (check.received + 1) := if_pos room
  simp only [OrderCheck.take, counted, bind, Except.bind, pure, Except.pure]

/-! The branches of the consumer's turn, by what the queue answers, whatever queue it is. -/
section Branches

theorem consume_stopped (stopped : Stopped items 1 relay) (late : Bool) :
    consume items late relay = .ok (false, relay) := by
  simp only [consume]
  rw [if_pos (by simpa [Stopped] using stopped)]

variable {queue : Spsc UInt64 capacity} (going : ¬Stopped items 1 relay)
include going

theorem consume_fault {fault : Fault} (failed : relay.queue.pop = .error fault) (late : Bool) :
    consume items late relay = .error fault := by
  simp only [consume]
  rw [if_neg (by simpa [Stopped] using going), failed]
  rfl

theorem consume_none (empty : relay.queue.pop = .ok (none, queue)) (late : Bool) :
    consume items late relay = .ok (false, { relay with queue, consumerGaveUp := late }) := by
  simp only [consume]
  rw [if_neg (by simpa [Stopped] using going), empty]
  rfl

theorem consume_some {value : UInt64} {check : OrderCheck}
    (popped : relay.queue.pop = .ok (some value, queue)) (taken : relay.check.take value = .ok check)
    (late : Bool) :
    consume items late relay = .ok (true, { relay with queue, check, consumerGaveUp := false }) := by
  simp only [consume]
  rw [if_neg (by simpa [Stopped] using going), popped]
  simp only [taken, bind, Except.bind, pure, Except.pure]

end Branches

namespace Account

theorem stored_le (account : relay.Account items received stored) : stored ≤ capacity.toNat := by
  have room := account.queue.room
  rwa [length_numbers] at room

theorem received_eq (account : relay.Account items received stored) :
    relay.check.received.toNat = received := by
  rw [account.check]
  exact UInt64.toNat_ofNat_of_lt' (Nat.lt_of_le_of_lt
    (Nat.le_trans (Nat.le_add_right ..) account.within) items.toNat_lt)

theorem sent_lt (account : relay.Account items received stored) (going : relay.sent ≠ items) :
    received + stored < items.toNat := by
  rw [← account.sent]
  have within := account.within
  rw [← account.sent] at within
  exact Nat.lt_of_le_of_ne within fun same => going (UInt64.toNat_inj.mp same)

theorem set_gaveUp (account : relay.Account items received stored)
    (producerGaveUp consumerGaveUp : Bool) :
    Account items { relay with producerGaveUp, consumerGaveUp } received stored :=
  ⟨account.queue, account.sent, account.within, account.check⟩

/-- The producer's turn: it has stopped, or finds the queue full, or sends its next value. -/
theorem produce (account : relay.Account items received stored) (late : Bool) :
    (Stopped items 0 relay ∧ produce items late relay = .ok (false, relay)) ∨
    (¬Stopped items 0 relay ∧ stored = capacity.toNat ∧
      produce items late relay = .ok (false, { relay with producerGaveUp := late })) ∨
    (¬Stopped items 0 relay ∧ stored < capacity.toNat ∧ ∃ next,
      produce items late relay = .ok (true, next) ∧ next.Account items received (stored + 1) ∧
      next.producerGaveUp = false ∧ next.consumerGaveUp = relay.consumerGaveUp) := by
  have fits := account.stored_le
  by_cases stopped : relay.producerGaveUp = true ∨ relay.sent = items
  · left
    refine ⟨stopped, ?_⟩
    simp only [Relay.produce]
    rw [if_pos (by simpa using stopped)]
  right
  have going : relay.sent ≠ items := fun same => stopped (.inr same)
  have early := account.sent_lt going
  have value : Exact.add relay.sent 1 = .ok (.ofNat (received + stored + 1)) := by
    have word := items.toNat_lt
    rw [Exact.add, account.sent, UInt64.toNat_one, if_pos (by omega), ← account.sent,
      UInt64.ofNat_add, UInt64.ofNat_toNat]
    rfl
  have turn : (relay.producerGaveUp || decide (relay.sent = items)) = false := by
    simpa using stopped
  by_cases full : stored = capacity.toNat
  · left
    have refused := account.queue.push_full (by rw [length_numbers, full])
      (UInt64.ofNat (received + stored + 1))
    refine ⟨stopped, full, ?_⟩
    simp only [Relay.produce, turn, Bool.false_eq_true, if_false, value, refused, bind, Except.bind,
      pure, Except.pure, Offer.isAccepted]
  · right
    obtain ⟨queue, pushed, kept⟩ := account.queue.push_accepted
      (by rw [length_numbers]; omega) (UInt64.ofNat (received + stored + 1))
    refine ⟨stopped, by omega,
      ⟨queue, .ofNat (received + stored + 1), false, relay.check, relay.consumerGaveUp⟩, ?_, ?_,
      rfl, rfl⟩
    · simp only [Relay.produce, turn, Bool.false_eq_true, if_false, value, pushed, bind, Except.bind,
        pure, Except.pure, Offer.isAccepted, if_true]
    · constructor
      · rw [numbers_succ]
        exact kept
      · exact UInt64.toNat_ofNat_of_lt' (Nat.lt_of_le_of_lt early items.toNat_lt)
      · exact early
      · exact account.check

/-- The consumer's turn: it has stopped, or finds the queue empty, or takes the next value, which is
the one that it expects. -/
theorem consume (account : relay.Account items received stored) (late : Bool) :
    (Stopped items 1 relay ∧ consume items late relay = .ok (false, relay)) ∨
    (¬Stopped items 1 relay ∧ stored = 0 ∧
      consume items late relay = .ok (false, { relay with consumerGaveUp := late })) ∨
    (¬Stopped items 1 relay ∧ 0 < stored ∧ ∃ next,
      consume items late relay = .ok (true, next) ∧ next.Account items (received + 1) (stored - 1) ∧
      next.consumerGaveUp = false ∧ next.producerGaveUp = relay.producerGaveUp) := by
  by_cases stopped : Stopped items 1 relay
  · exact .inl ⟨stopped, consume_stopped stopped late⟩
  right
  cases stored with
  | zero =>
    have none := Spsc.Account.pop_empty account.queue
    exact .inl ⟨stopped, rfl, consume_none stopped none late⟩
  | succ stored =>
    right
    have contents := account.queue
    rw [numbers_eq_cons] at contents
    obtain ⟨queue, popped, kept⟩ := contents.pop_oldest
    have within := account.within
    have word := items.toNat_lt
    have taken : relay.check.take (.ofNat (received + 1)) =
        .ok ⟨.ofNat (received + 1 + 1), .ofNat (received + 1), true⟩ := by
      rw [take_eq (by rw [account.received_eq]; omega), account.check]
      simp [UInt64.ofNat_add]
    refine ⟨stopped, Nat.succ_pos stored, _, consume_some stopped popped taken late, ?_, rfl, rfl⟩
    constructor
    · exact kept
    · rw [Nat.add_sub_cancel]
      exact account.sent.trans (by omega)
    · omega
    · rfl

end Account

/-- `n` moves are left: values to be sent and values to be received. -/
def Left (items : UInt64) (n : Nat) (relay : Relay capacity) : Prop :=
  ∃ received stored, relay.Account items received stored ∧
    n = (items.toNat - (received + stored)) + (items.toNat - received)

theorem left_start (items : UInt64) : (start : Relay capacity).Left items (2 * items.toNat) :=
  ⟨0, 0, account_start items, by omega⟩

/-- Any turn of any worker is without fault. It keeps the account, and a worker that is not late
does not give up. -/
theorem winding (items : UInt64) :
    Winding (act items : Act (Relay capacity)) (Left items) (Stopped items) Patient := by
  rintro turn relay n ⟨received, stored, account, rfl⟩
  by_cases producer : turn.worker = 0
  · rw [act, if_pos producer]
    have mine (after : Relay capacity) :
        Stopped items turn.worker after ↔ Stopped items 0 after := by rw [producer]
    rcases account.produce turn.late with ⟨stopped, stands⟩ | ⟨going, full, refused⟩ |
      ⟨going, free, next, sends, kept, flag, other⟩
    · rw [stands]
      exact .idles ((mine relay).mpr stopped)
    · rw [refused]
      refine .waits ⟨_, _, account.set_gaveUp turn.late _, rfl⟩ ?_
        (fun late => (mine _).mpr (.inl late)) (fun early patient => ⟨early, patient.2⟩)
      intro worker stopped
      by_cases same : worker = 0
      · exact absurd (same ▸ stopped) going
      · simpa [Stopped, same] using stopped
    · rw [sends]
      have within := kept.within
      exact .moves ⟨_, _, kept, rfl⟩ (by omega) fun _ patient => ⟨flag, other.trans patient.2⟩
  · rw [act, if_neg producer]
    have mine (after : Relay capacity) :
        Stopped items turn.worker after ↔ Stopped items 1 after := by simp [Stopped, producer]
    rcases account.consume turn.late with ⟨stopped, stands⟩ | ⟨going, empty, none⟩ |
      ⟨going, some, next, takes, kept, flag, other⟩
    · rw [stands]
      exact .idles ((mine relay).mpr stopped)
    · rw [none]
      refine .waits ⟨_, _, account.set_gaveUp _ turn.late, rfl⟩ ?_
        (fun late => (mine _).mpr (.inl late)) (fun early patient => ⟨patient.1, early⟩)
      intro worker stopped
      by_cases same : worker = 0
      · simpa [Stopped, same] using stopped
      · exact absurd (by simpa [Stopped, same] using stopped) going
    · rw [takes]
      have within := account.within
      exact .moves ⟨_, _, kept, rfl⟩ (by omega) fun _ patient => ⟨other.trans patient.1, flag⟩

/-- As long as nobody has given up there is no deadlock: a full queue can be drained and an empty one
can be filled. -/
theorem progress (room : 0 < capacity.toNat) {n : Nat} (left : relay.Left items n)
    (patient : relay.Patient) : relay.finished items = true ∨
      ∃ turn next, turn.late = false ∧ act items turn relay = .ok (true, next) := by
  obtain ⟨received, stored, account, -⟩ := left
  have within := account.within
  have taking (some : 0 < stored) : ∃ turn next, turn.late = false ∧
      act items turn relay = .ok (true, next) := by
    rcases account.consume false with ⟨stopped, -⟩ | ⟨-, empty, -⟩ | ⟨-, -, next, takes, -⟩
    · rcases stopped with gaveUp | done
      · rw [patient.2] at gaveUp
        cases gaveUp
      · rw [UInt64.le_iff_toNat_le, account.received_eq] at done
        omega
    · omega
    · exact ⟨{ worker := 1, late := false }, next, rfl, takes⟩
  rcases account.produce false with ⟨stopped, -⟩ | ⟨-, full, -⟩ | ⟨-, -, next, sends, -⟩
  · by_cases some : 0 < stored
    · exact .inr (taking some)
    · left
      rw [finished_iff]
      refine ⟨stopped, .inr ?_⟩
      rcases stopped with gaveUp | done
      · rw [patient.1] at gaveUp
        cases gaveUp
      · rw [UInt64.le_iff_toNat_le, account.received_eq, ← done, account.sent]
        omega
  · exact .inr (taking (by omega))
  · exact .inr ⟨{ worker := 0, late := false }, next, rfl, sends⟩

/-- When both have stopped and nobody has given up, all has been sent and received. -/
theorem Account.complete (account : relay.Account items received stored) (patient : relay.Patient)
    (finished : relay.finished items = true) :
    relay.sent = items ∧ relay.check.received = items ∧ relay.check.inOrder = true := by
  have within := account.within
  obtain ⟨producer, consumer⟩ := finished_iff.mp finished
  have sent : relay.sent = items := producer.resolve_left (by rw [patient.1]; nofun)
  have enough : items ≤ relay.check.received := consumer.resolve_left (by rw [patient.2]; nofun)
  rw [UInt64.le_iff_toNat_le, account.received_eq] at enough
  refine ⟨sent, UInt64.toNat_inj.mp ?_, by rw [account.check]⟩
  rw [account.received_eq]
  omega

end RingQueue.Relay
