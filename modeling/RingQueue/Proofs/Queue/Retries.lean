import Mathlib.Data.List.Iterate
import RingQueue.Proofs.Queue.Polling

/-! Polls of a sink that refuses a number of offers, and of a source that is empty a number of times.
What such a poll answers, how often it asks and what it leaves are given outright, by whether the
deadline outlasts the failures. -/
namespace RingQueue.Queue

variable {α : Type u} {deadline : Deadline} {start count : Nat}

/-- A deadline that lets some failures pass lets those after the first pass. -/
theorem early_later (early : ∀ k < count + 1, deadline (start + k) = false) :
    ∀ k < count, deadline (start + 1 + k) = false := by
  intro k inside
  rw [Nat.add_assoc, Nat.add_comm 1]
  exact early (k + 1) (Nat.succ_lt_succ inside)

namespace Reluctant

variable {value : α} {sink : Reluctant α}

/-- The sink after it has refused `count` offers, that of `value` and then of what each refusal
before the last handed back. -/
def after (sink : Reluctant α) (value : α) (count : Nat) : Reluctant α where
  refusals := sink.refusals - count
  handBack := sink.handBack
  offered := (List.iterate sink.handBack value count).reverse ++ sink.offered
  accepted := sink.accepted

theorem after_zero (sink : Reluctant α) (value : α) : sink.after value 0 = sink := rfl

theorem after_add (sink : Reluctant α) (value : α) (count more : Nat) :
    sink.after value (count + more) =
      (sink.after value count).after (sink.handBack^[count] value) more := by
  simp [after, List.iterate_add, Nat.sub_sub]

theorem offer_refused (more : 0 < sink.refusals) (value : α) :
    offer value sink = .ok (.full (sink.handBack value), sink.after value 1) := by
  obtain ⟨refusals, handBack, offered, accepted⟩ := sink
  cases refusals with
  | zero => cases more
  | succ refusals => rfl

theorem offer_accepted (done : sink.refusals = 0) (value : α) : offer value sink =
    .ok (.accepted,
      { sink with offered := value :: sink.offered, accepted := value :: sink.accepted }) := by
  obtain ⟨refusals, handBack, offered, accepted⟩ := sink
  obtain rfl := done
  rfl

/-- While the deadline has not passed, a poll goes on with what the last refusal handed back. -/
theorem pushUntil_refused (few : count ≤ sink.refusals)
    (early : ∀ k < count, deadline (start + k) = false) (budget : Nat) :
    pushUntil offer deadline (count + budget) value sink start =
      pushUntil offer deadline budget (sink.handBack^[count] value) (sink.after value count)
        (start + count) := by
  induction count generalizing start value sink with
  | zero => rw [Nat.zero_add, after_zero, Nat.add_zero, Function.iterate_zero_apply]
  | succ count ih =>
    have more : 0 < sink.refusals := Nat.zero_lt_of_lt few
    have rest : count ≤ (sink.after value 1).refusals := Nat.le_sub_one_of_lt few
    have again : sink.after value (count + 1) =
        (sink.after value 1).after (sink.handBack value) count := by
      rw [Nat.add_comm]
      exact sink.after_add value 1 count
    calc pushUntil offer deadline (count + 1 + budget) value sink start
        = pushUntil offer deadline (count + budget) (sink.handBack value) (sink.after value 1)
            (start + 1) := by
          rw [Nat.add_right_comm]
          exact pushUntil_early (offer_refused more value) (early 0 (Nat.succ_pos count)) _
      _ = pushUntil offer deadline budget (sink.handBack^[count + 1] value)
            (sink.after value (count + 1)) (start + (count + 1)) := by
          rw [ih rest (early_later early), again, Nat.add_assoc, Nat.add_comm 1]
          rfl

/-- A poll that may last outlasts the refusals. What the last of them handed back is accepted, and
nothing else. -/
theorem pushUntil_of_early (early : ∀ k < sink.refusals, deadline (start + k) = false)
    (budget : Nat) :
    ∃ final : Reluctant α,
      pushUntil offer deadline (sink.refusals + (budget + 1)) value sink start =
        .ok ⟨some .accepted, final, start + sink.refusals + 1⟩ ∧
      final.offered =
        (List.iterate sink.handBack value (sink.refusals + 1)).reverse ++ sink.offered ∧
      final.accepted = sink.handBack^[sink.refusals] value :: sink.accepted := by
  have done : (sink.after value sink.refusals).refusals = 0 := Nat.sub_self sink.refusals
  rw [pushUntil_refused (Nat.le_refl _) early]
  refine ⟨_, pushUntil_accepted (offer_accepted done _) budget, ?_, rfl⟩
  rw [List.iterate_add, List.reverse_append]
  rfl

/-- A poll ends with the first refusal after which the deadline has passed, and hands back what that
refusal did. Nothing is accepted. -/
theorem pushUntil_of_late (refused : count < sink.refusals)
    (early : ∀ k < count, deadline (start + k) = false) (late : deadline (start + count) = true)
    (budget : Nat) :
    pushUntil offer deadline (count + (budget + 1)) value sink start =
      .ok ⟨some (.full (sink.handBack^[count + 1] value)), sink.after value (count + 1),
        start + count + 1⟩ := by
  have more : 0 < (sink.after value count).refusals := Nat.sub_pos_of_lt refused
  rw [pushUntil_refused (Nat.le_of_lt refused) early,
    pushUntil_late (offer_refused more _) late budget, after_add, Function.iterate_succ_apply']
  rfl

end Reluctant

namespace Delayed

variable {source : Delayed α}

theorem take_none (more : 0 < source.failures) :
    take source = .ok (none, { source with failures := source.failures - 1 }) := by
  obtain ⟨failures, value⟩ := source
  cases failures with
  | zero => cases more
  | succ failures => rfl

theorem take_some (done : source.failures = 0) : take source = .ok (some source.value, source) := by
  obtain ⟨failures, value⟩ := source
  obtain rfl := done
  rfl

/-- While the deadline has not passed, a poll goes on. -/
theorem popUntil_failed (few : count ≤ source.failures)
    (early : ∀ k < count, deadline (start + k) = false) (budget : Nat) :
    popUntil take deadline (count + budget) source start =
      popUntil take deadline budget { source with failures := source.failures - count }
        (start + count) := by
  induction count generalizing start source with
  | zero => rw [Nat.zero_add, Nat.sub_zero, Nat.add_zero]
  | succ count ih =>
    have more : 0 < source.failures := Nat.zero_lt_of_lt few
    have now : deadline start = false := early 0 (Nat.succ_pos count)
    rw [Nat.add_right_comm, popUntil_early (take_none more) now,
      ih (Nat.le_sub_one_of_lt few) (early_later early), Nat.sub_sub, Nat.add_assoc, Nat.add_comm 1]

/-- A poll that may last gets the element. -/
theorem popUntil_of_early (early : ∀ k < source.failures, deadline (start + k) = false)
    (budget : Nat) :
    popUntil take deadline (source.failures + (budget + 1)) source start =
      .ok ⟨some (some source.value), { source with failures := 0 },
        start + source.failures + 1⟩ := by
  rw [popUntil_failed (Nat.le_refl _) early, Nat.sub_self]
  exact popUntil_some (take_some rfl) budget

/-- A poll ends with the first failure after which the deadline has passed. -/
theorem popUntil_of_late (failed : count < source.failures)
    (early : ∀ k < count, deadline (start + k) = false) (late : deadline (start + count) = true)
    (budget : Nat) :
    popUntil take deadline (count + (budget + 1)) source start =
      .ok ⟨some none, { source with failures := source.failures - (count + 1) },
        start + count + 1⟩ := by
  rw [popUntil_failed (Nat.le_of_lt failed) early]
  exact popUntil_late (take_none (Nat.sub_pos_of_lt failed)) late budget

end Delayed

end RingQueue.Queue
