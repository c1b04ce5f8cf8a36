import RingQueue.Proofs.Stress.Outcome

/-! The arithmetic of runs and verdicts. The one limit on a run's size is on the product of two of its
dimensions, and all its other numbers must stay within a word because of it. Main result: they do, and
a verdict is reached on any batches at all, except that a run of no producers may have as many items
as there are words but one, and then nothing follows the last of them. -/
namespace RingQueue

open RingQueue.Queue

variable {stress : Stress}

namespace Race

/-- The words of a run with many ends are the exact numbers. -/
structure Exactness (stress : Stress) : Prop where
  total : ∃ total, Exact.mul stress.itemsPerProducer stress.producers = .ok total ∧
    total.toNat = stress.producers.toNat * stress.itemsPerProducer.toNat
  /-- No history of turns ends in a fault, and no producer in it goes past its last value. -/
  formed : ∀ history, ∃ race : Race stress.capacity,
    execute (act stress.producers stress.itemsPerProducer
      (stress.itemsPerProducer * stress.producers)) history
      (start stress.producers stress.consumers) = .ok race ∧
    ∀ (id : Nat) (sender : Sender), race.senders[id]? = some sender →
      sender.sent ≠ stress.itemsPerProducer →
      id < stress.producers.toNat ∧ sender.sent.toNat < stress.itemsPerProducer.toNat
  value : ∀ id < stress.producers.toNat, ∀ k < stress.itemsPerProducer.toNat, ∃ value,
    valueAt stress.producers (.ofNat id) (.ofNat k) = .ok value ∧
    value.toNat = k * stress.producers.toNat + id + 1 ∧
    value.toNat ≤ stress.producers.toNat * stress.itemsPerProducer.toNat
  unique : ∀ id < stress.producers.toNat, ∀ k < stress.itemsPerProducer.toNat,
    ∀ other < stress.producers.toNat, ∀ j < stress.itemsPerProducer.toNat,
    valueAt stress.producers (.ofNat id) (.ofNat k) =
      valueAt stress.producers (.ofNat other) (.ofNat j) → id = other ∧ k = j

section Value

variable {producers items total : UInt64} {id k other j : Nat}
variable (total_eq : total.toNat = producers.toNat * items.toNat)
include total_eq

theorem exists_valueAt (inside : id < producers.toNat) (early : k < items.toNat) : ∃ value,
    valueAt producers (.ofNat id) (.ofNat k) = .ok value ∧
    value.toNat = k * producers.toNat + id + 1 ∧
    value.toNat ≤ producers.toNat * items.toNat :=
  ⟨valueOf producers id k, valueAt_eq total_eq inside early, toNat_valueOf total_eq inside early,
    (toNat_valueOf total_eq inside early).trans_le (valueOf_le inside early)⟩

/-- The producer is the remainder of what it forms, and then the quotient is the place. -/
theorem valueAt_injective (inside : id < producers.toNat) (early : k < items.toNat)
    (insideToo : other < producers.toNat) (earlyToo : j < items.toNat)
    (same : valueAt producers (.ofNat id) (.ofNat k) = valueAt producers (.ofNat other) (.ofNat j)) :
    id = other ∧ k = j := by
  rw [valueAt_eq total_eq inside early, valueAt_eq total_eq insideToo earlyToo] at same
  have same := congrArg UInt64.toNat (Except.ok.inj same)
  rw [toNat_valueOf total_eq inside early, toNat_valueOf total_eq insideToo earlyToo] at same
  have remainders := congrArg (· % producers.toNat) (Nat.succ.inj same)
  simp only [Nat.mul_add_mod_self_right, Nat.mod_eq_of_lt inside, Nat.mod_eq_of_lt insideToo]
    at remainders
  subst remainders
  have products : k * producers.toNat = j * producers.toNat := by omega
  exact ⟨rfl, Nat.eq_of_mul_eq_mul_right (Nat.zero_lt_of_lt inside) products⟩

end Value

theorem Account.before_last {capacity producers consumers items : UInt64} {race : Race capacity}
    {left stored : List UInt64} (account : race.Account producers consumers items left stored)
    {id : Nat} {sender : Sender} (found : race.senders[id]? = some sender)
    (going : sender.sent ≠ items) : id < producers.toNat ∧ sender.sent.toNat < items.toNat := by
  have inside : id < producers.toNat := by
    rw [← account.senders]
    exact (Array.getElem?_eq_some_iff.mp found).1
  have within := account.deliveries.within id inside
  rw [sentBy_of_getElem? found] at within
  exact ⟨inside, Nat.lt_of_le_of_ne within fun same => going (UInt64.toNat_inj.mp same)⟩

theorem exactness (runnable : stress.Runnable) : Exactness stress where
  total := by
    refine ⟨stress.itemsPerProducer * stress.producers, ?_, runnable.toNat_total⟩
    have few := runnable.items
    rw [Nat.mul_comm] at few
    rw [Exact.mul, if_pos (by omega)]
  formed history := by
    obtain ⟨race, left, stored, executed, account, -⟩ := exists_account runnable history
    exact ⟨race, executed, fun id sender found going => account.before_last found going⟩
  value _ inside _ early := exists_valueAt runnable.toNat_total inside early
  unique _ inside _ early _ insideToo _ earlyToo same :=
    valueAt_injective runnable.toNat_total inside early insideToo earlyToo same

end Race

namespace Relay

/-- After this history the consumer takes this value. -/
def Takes (stress : Stress) (history : List Turn) (value : UInt64) (next : Relay stress.capacity) :
    Prop :=
  ∃ (relay : Relay stress.capacity) (queue : Spsc UInt64 stress.capacity) (late : Bool),
    execute (act stress.itemsPerProducer) history start = .ok relay ∧
    relay.queue.pop = .ok (some value, queue) ∧
    consume stress.itemsPerProducer late relay = .ok (true, next)

/-- The value that is expected next is the exact successor of the one taken. The largest word has
none; it is the last of as many items, which are too many for a single producer already, and then
the consumer has stopped. -/
structure Successor (stress : Stress) (value : UInt64) (next : Relay stress.capacity) : Prop where
  positive : 1 ≤ value.toNat
  within : value.toNat ≤ stress.itemsPerProducer.toNat
  exact : Exact.add value 1 = .ok next.check.expected ∨
    value.toNat = 2 ^ 64 - 1 ∧ stress.itemsPerProducer = value ∧ stress.producers = 0 ∧
      stress.itemsPerProducer ≤ next.check.received

variable {history : List Turn} {value : UInt64} {next : Relay stress.capacity}

/-- What is taken is the number of its place. -/
theorem Takes.exists_account (takes : Takes stress history value next) : ∃ received stored,
    value.toNat = received + 1 ∧ next.Account stress.itemsPerProducer (received + 1) stored := by
  obtain ⟨relay, queue, late, executed, popped, moved⟩ := takes
  obtain ⟨_, received, stored, executedToo, account, -⟩ := Relay.exists_account stress history
  obtain rfl := Except.ok.inj (executed.symm.trans executedToo)
  rcases account.consume late with ⟨-, stands⟩ | ⟨-, -, none⟩ | ⟨-, some, _, takes, kept, -⟩
  · cases moved.symm.trans stands
  · cases moved.symm.trans none
  · obtain ⟨-, rfl⟩ := Prod.mk.inj (Except.ok.inj (moved.symm.trans takes))
    obtain ⟨stored, rfl⟩ := Nat.exists_eq_succ_of_ne_zero (Nat.pos_iff_ne_zero.mp some)
    have contents := account.queue
    rw [numbers_eq_cons] at contents
    obtain ⟨_, oldest, -⟩ := contents.pop_oldest
    obtain ⟨same, -⟩ := Prod.mk.inj (Except.ok.inj (popped.symm.trans oldest))
    obtain rfl := Option.some.inj same
    have number : received + 1 < UInt64.size := Nat.lt_of_le_of_lt
      (Nat.le_trans (Nat.le_add_right ..) kept.within) stress.itemsPerProducer.toNat_lt
    exact ⟨received, stored, UInt64.toNat_ofNat_of_lt' number, kept⟩

theorem successor (runnable : stress.Runnable) (takes : Takes stress history value next) :
    Successor stress value next := by
  obtain ⟨received, stored, number, account⟩ := takes.exists_account
  have within := account.within
  have word := stress.itemsPerProducer.toNat_lt
  refine ⟨by omega, by omega, ?_⟩
  by_cases room : value.toNat + 1 < 2 ^ 64
  · left
    rw [Exact.add, UInt64.toNat_one, if_pos room, account.check, ← number, UInt64.ofNat_add,
      UInt64.ofNat_toNat]
    rfl
  · right
    have last : value.toNat = 2 ^ 64 - 1 := by omega
    have items : stress.itemsPerProducer = value := UInt64.toNat_inj.mp (by omega)
    refine ⟨last, items, ?_, ?_⟩
    · have few := runnable.items
      rw [items, last] at few
      by_contra some
      have : stress.producers.toNat ≠ 0 := fun none => some (UInt64.toNat_inj.mp none)
      omega
    · rw [UInt64.le_iff_toNat_le, account.received_eq]
      omega

section Prompt

variable {capacity items : UInt64} {relay : Relay capacity} {n : Nat}
  (early : n < items.toNat)
include early

/-- Into an empty queue a producer that is not done sends. -/
theorem Account.exists_sent (room : 0 < capacity.toNat) (account : relay.Account items n 0)
    (patient : relay.Patient) : ∃ next,
      act items { worker := 0, late := false } relay = .ok (true, next) ∧
      next.Account items n 1 ∧ next.Patient := by
  rcases account.produce false with ⟨stopped, -⟩ | ⟨-, full, -⟩ |
    ⟨-, -, next, sends, kept, flag, other⟩
  · rcases stopped with gaveUp | done
    · cases patient.1.symm.trans gaveUp
    · have := account.sent
      rw [done] at this
      omega
  · omega
  · exact ⟨next, sends, kept, flag, other.trans patient.2⟩

/-- What is under way a consumer that is not done takes. -/
theorem Account.exists_taken (account : relay.Account items n 1) (patient : relay.Patient) :
    ∃ next, act items { worker := 1, late := false } relay = .ok (true, next) ∧
      next.Account items (n + 1) 0 ∧ next.Patient := by
  rcases account.consume false with ⟨stopped, -⟩ | ⟨-, empty, -⟩ |
    ⟨-, -, next, takes, kept, flag, other⟩
  · rcases stopped with gaveUp | done
    · cases patient.2.symm.trans gaveUp
    · rw [UInt64.le_iff_toNat_le, account.received_eq] at done
      omega
  · cases empty
  · exact ⟨next, takes, kept, other.trans patient.1, flag⟩

end Prompt

/-- As long as nobody is late each value is under way at some time, alone. -/
theorem exists_under_way (room : 0 < stress.capacity.toNat) {n : Nat}
    (early : n < stress.itemsPerProducer.toNat) :
    ∃ (history : List Turn) (relay : Relay stress.capacity), Prompt history ∧
      execute (act stress.itemsPerProducer) history start = .ok relay ∧
      relay.Account stress.itemsPerProducer n 1 ∧ relay.Patient := by
  induction n with
  | zero =>
    obtain ⟨next, sends, kept, patient⟩ :=
      (account_start stress.itemsPerProducer).exists_sent early room patient_start
    refine ⟨[{ worker := 0, late := false }], next, by simp [Prompt], ?_, kept, patient⟩
    exact execute_cons sends
  | succ n ih =>
    obtain ⟨history, relay, prompt, executed, account, patient⟩ := ih (Nat.lt_of_succ_lt early)
    obtain ⟨middle, takes, kept, patient⟩ := account.exists_taken (Nat.lt_of_succ_lt early) patient
    obtain ⟨next, sends, kept, patient⟩ := kept.exists_sent early room patient
    refine ⟨history ++ [{ worker := 1, late := false }, { worker := 0, late := false }], next, ?_,
      (execute_append executed).trans ?_, kept, patient⟩
    · simpa [Prompt, or_imp, forall_and] using prompt
    · exact (execute_cons takes).trans (execute_cons sends)

/-- So every value is taken at some time. -/
theorem exists_takes (room : 0 < stress.capacity.toNat) {value : UInt64} (positive : 1 ≤ value.toNat)
    (within : value.toNat ≤ stress.itemsPerProducer.toNat) :
    ∃ history next, Prompt history ∧ Takes stress history value next := by
  have early : value.toNat - 1 < stress.itemsPerProducer.toNat := by omega
  obtain ⟨history, relay, prompt, executed, account, patient⟩ := exists_under_way room early
  have contents := account.queue
  rw [numbers_eq_cons, Nat.sub_add_cancel positive, UInt64.ofNat_toNat] at contents
  obtain ⟨queue, popped, -⟩ := contents.pop_oldest
  obtain ⟨next, takes, -⟩ := account.exists_taken early patient
  exact ⟨history, next, prompt, relay, queue, false, executed, popped, takes⟩

/-- With no producers to count, as many items as there are words but one are not too many for a run.
The consumer comes to the largest word, and there the successor overflows. -/
theorem no_successor_of_largest_word :
    let stress : Stress := { producers := 0, itemsPerProducer := .ofNat (2 ^ 64 - 1), capacity := 2 }
    stress.refusal? = none ∧ ∃ history next, Prompt history ∧
      Takes stress history (.ofNat (2 ^ 64 - 1)) next ∧
      Exact.add (.ofNat (2 ^ 64 - 1)) 1 = .error .overflow := by
  intro stress
  obtain ⟨history, next, prompt, takes⟩ :=
    @exists_takes stress (by decide) (.ofNat (2 ^ 64 - 1)) (by decide) (by decide)
  exact ⟨by decide, history, next, prompt, takes, rfl⟩

end Relay

/-- The arithmetic of a run that is not refused is exact, but for the successor of the largest word,
with which nothing is compared any more; and a verdict is reached on all batches, for any dimensions.
As the verdict's subtractions, remainders and places would fault where they are not defined, it comes
to none that is not. -/
theorem runs_and_verdicts_exact :
    (∀ stress : Stress, stress.refusal? = none → Race.Exactness stress ∧
      ∀ history value next, Relay.Takes stress history value next →
        Relay.Successor stress value next) ∧
    ∀ (producers items : UInt64) (batches : List (List UInt64)),
      ∃ verdict, Verdict.ofBatches producers items batches = .ok verdict := by
  constructor
  · intro stress admitted
    have runnable := Stress.refusal?_eq_none_iff.mp admitted
    exact ⟨Race.exactness runnable, fun _ _ _ takes => Relay.successor runnable takes⟩
  · intro producers items batches
    obtain ⟨_, -, -, -, judged⟩ := Verdict.exists_progress producers items batches
    exact ⟨_, judged⟩

/-- Two producers of three items each: the second of them forms four after one other value. -/
theorem exact_of_two_producers :
    let stress : Stress := { producers := 2, itemsPerProducer := 3, capacity := 4 }
    stress.refusal? = none ∧ Race.valueAt 2 1 1 = .ok 4 ∧
      ∀ other < 2, ∀ j < 3, Race.valueAt 2 1 1 = Race.valueAt 2 (.ofNat other) (.ofNat j) →
        1 = other ∧ 1 = j := by
  intro stress
  have admitted : stress.refusal? = none := by decide
  obtain ⟨exact, -⟩ := runs_and_verdicts_exact.1 stress admitted
  exact ⟨admitted, rfl, exact.unique 1 (by decide) 1 (by decide)⟩

end RingQueue
