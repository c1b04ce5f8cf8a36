import RingQueue.Proofs.Queue.Conservation
import RingQueue.Queue.Polling

/-! Polls of any sink and any source, by any clock. A sink may hand back something else than it was
offered, so the attempts of a poll are a chain: each offers what the one before handed back. Main
result: the chain begins with the value, all but its last attempt fail in time, and its last answer is
the poll's. So the value is accepted once or handed back, and never both. -/
namespace RingQueue.Queue

variable {σ : Type u} {α : Type v}

/-- Any machine that answers every offer. -/
abbrev Sink (σ : Type u) (α : Type v) := α → σ → Offer α × σ

/-- Any machine from which an element may be taken at any time, if it has one. -/
abbrev Source (σ : Type u) (α : Type v) := σ → Option α × σ

def Sink.offer (sink : Sink σ α) (value : α) (state : σ) : Except Fault (Offer α × σ) :=
  .ok (sink value state)

def Source.take (source : Source σ α) (state : σ) : Except Fault (Option α × σ) := .ok (source state)

/-- The same sink with a list of what it was offered and answered, latest last. -/
def Sink.noted (sink : Sink σ α) : Sink (List (α × Offer α) × σ) α := fun value (log, state) =>
  let (answer, next) := sink value state
  (answer, log ++ [(value, answer)], next)

/-- The same source with a list of what it gave, latest last. -/
def Source.noted (source : Source σ α) : Source (List (Option α) × σ) α := fun (log, state) =>
  let (answer, next) := source state
  (answer, log ++ [answer], next)

/-! ### One attempt -/
section Attempt

variable {deadline : Deadline} {attempt : Nat} {state next : σ}

section Push

variable {offer : α → σ → Except Fault (Offer α × σ)} {value back : α}

theorem pushUntil_accepted (accepted : offer value state = .ok (.accepted, next)) (budget : Nat) :
    pushUntil offer deadline (budget + 1) value state attempt =
      .ok ⟨some .accepted, next, attempt + 1⟩ := by
  rw [pushUntil, accepted]

theorem pushUntil_late (refused : offer value state = .ok (.full back, next))
    (late : deadline attempt = true) (budget : Nat) :
    pushUntil offer deadline (budget + 1) value state attempt =
      .ok ⟨some (.full back), next, attempt + 1⟩ := by
  rw [pushUntil, refused]
  exact if_pos late

theorem pushUntil_early (refused : offer value state = .ok (.full back, next))
    (early : deadline attempt = false) (budget : Nat) :
    pushUntil offer deadline (budget + 1) value state attempt =
      pushUntil offer deadline budget back next (attempt + 1) := by
  rw [pushUntil, refused]
  exact if_neg (by rw [early]; nofun)

end Push

section Pop

variable {take : σ → Except Fault (Option α × σ)} {value : α}

theorem popUntil_some (given : take state = .ok (some value, next)) (budget : Nat) :
    popUntil take deadline (budget + 1) state attempt =
      .ok ⟨some (some value), next, attempt + 1⟩ := by
  rw [popUntil, given]

theorem popUntil_late (failed : take state = .ok (none, next)) (late : deadline attempt = true)
    (budget : Nat) :
    popUntil take deadline (budget + 1) state attempt = .ok ⟨some none, next, attempt + 1⟩ := by
  rw [popUntil, failed]
  exact if_pos late

theorem popUntil_early (failed : take state = .ok (none, next)) (early : deadline attempt = false)
    (budget : Nat) :
    popUntil take deadline (budget + 1) state attempt =
      popUntil take deadline budget next (attempt + 1) := by
  rw [popUntil, failed]
  exact if_neg (by rw [early]; nofun)

end Pop

end Attempt

/-! ### All attempts -/

/-- The attempts of a poll, each with its answer: the value is offered first and then what each
refusal handed back, and after the refusals comes the answer of the poll, if it has one. -/
def attempts (value : α) (refusals : List α) (answer : Option (Offer α)) : List (α × Offer α) :=
  (value :: refusals).zip (refusals.map .full ++ answer.toList)

theorem attempts_cons (value back : α) (refusals : List α) (answer : Option (Offer α)) :
    attempts value (back :: refusals) answer =
      (value, .full back) :: attempts back refusals answer := rfl

theorem length_attempts (value : α) (refusals : List α) (answer : Option (Offer α)) :
    (attempts value refusals answer).length = refusals.length + answer.toList.length := by
  cases answer <;> simp [attempts]

/-- Only the last attempt can be accepted, and it is so just when the poll says so. -/
theorem filter_isAccepted_attempts (value : α) (refusals : List α) (answer : Option (Offer α)) :
    ((attempts value refusals answer).filter fun attempt => attempt.2.isAccepted).length =
      (answer.any Offer.isAccepted).toNat := by
  induction refusals generalizing value with
  | nil =>
    cases answer with
    | none => rfl
    | some answer => cases answer <;> rfl
  | cons back refusals ih => exact ih back

/-- A poll of a sink as it stands after at most `budget` attempts, begun with the attempt number
`start`. -/
structure Pushing (sink : Sink σ α) (deadline : Deadline) (start budget : Nat) (value : α) (state : σ)
    (refusals : List α) (answer : Option (Offer α)) (final : σ) : Prop where
  polled : pushUntil sink.offer deadline budget value state start =
    .ok ⟨answer, final, start + (attempts value refusals answer).length⟩
  /-- Whoever keeps a list of the attempts has these on it. -/
  noted : ∀ log, pushUntil sink.noted.offer deadline budget value (log, state) start =
    .ok ⟨answer, (log ++ attempts value refusals answer, final),
      start + (attempts value refusals answer).length⟩
  early : ∀ k < refusals.length, deadline (start + k) = false
  late : ∀ back, answer = some (.full back) → deadline (start + refusals.length) = true
  unfinished : answer = none → refusals.length = budget
  /-- An answer stays what it is, however many attempts more are allowed. -/
  settled : answer ≠ none → ∀ more, pushUntil sink.offer deadline (budget + more) value state start =
    .ok ⟨answer, final, start + (attempts value refusals answer).length⟩

theorem exists_pushing (sink : Sink σ α) (deadline : Deadline) (start budget : Nat) (value : α)
    (state : σ) : ∃ refusals answer final,
      Pushing sink deadline start budget value state refusals answer final := by
  induction budget generalizing start value state with
  | zero =>
    refine ⟨[], none, state, rfl, fun log => ?_, nofun, nofun, fun _ => rfl, fun some => absurd rfl some⟩
    rw [pushUntil, attempts, List.map_nil, Option.toList_none, List.append_nil, List.zip_nil_right,
      List.append_nil]
    rfl
  | succ budget ih =>
    obtain ⟨⟨answer, next⟩, answered⟩ : ∃ result, sink value state = result := ⟨_, rfl⟩
    have offered : sink.offer value state = .ok (answer, next) := congrArg Except.ok answered
    have noted (log : List (α × Offer α)) :
        sink.noted.offer value (log, state) = .ok (answer, log ++ [(value, answer)], next) := by
      simp only [Sink.offer, Sink.noted, answered]
    cases answer with
    | accepted =>
      exact ⟨[], some .accepted, next, pushUntil_accepted offered budget,
        fun log => pushUntil_accepted (noted log) budget, nofun, nofun, nofun,
        fun _ more => by rw [Nat.add_right_comm]; exact pushUntil_accepted offered (budget + more)⟩
    | full back =>
      cases test : deadline start with
      | true =>
        exact ⟨[], some (.full back), next, pushUntil_late offered test budget,
          fun log => pushUntil_late (noted log) test budget, nofun, fun _ _ => test, nofun,
          fun _ more => by
            rw [Nat.add_right_comm]
            exact pushUntil_late offered test (budget + more)⟩
      | false =>
        obtain ⟨refusals, answer, final, rest⟩ := ih (start + 1) back next
        have length : start + (attempts value (back :: refusals) answer).length =
            start + 1 + (attempts back refusals answer).length := by
          rw [attempts_cons, List.length_cons]
          omega
        refine ⟨back :: refusals, answer, final, ?_, fun log => ?_, fun k inside => ?_,
          fun last given => ?_, fun none => congrArg (· + 1) (rest.unfinished none),
          fun some more => ?_⟩
        · rw [pushUntil_early offered test, rest.polled, length]
        · rw [pushUntil_early (noted log) test, rest.noted, length, attempts_cons,
            List.append_assoc]
          rfl
        · cases k with
          | zero => exact test
          | succ k =>
            rw [Nat.add_comm k, ← Nat.add_assoc]
            exact rest.early k (Nat.lt_of_succ_lt_succ inside)
        · rw [List.length_cons, Nat.add_comm refusals.length, ← Nat.add_assoc]
          exact rest.late last given
        · rw [Nat.add_right_comm, pushUntil_early offered test, rest.settled some, length]

namespace Pushing

variable {sink : Sink σ α} {deadline : Deadline} {start budget : Nat} {value : α} {state final : σ}
  {refusals : List α} {answer : Option (Offer α)}

theorem attempts_ne_nil
    (pushing : Pushing sink deadline start budget value state refusals answer final)
    (allowed : 0 < budget) : attempts value refusals answer ≠ [] := by
  rw [← List.length_pos_iff, length_attempts]
  cases answer with
  | none =>
    have := pushing.unfinished rfl
    omega
  | some answer =>
    rw [Option.toList_some, List.length_singleton]
    omega

/-- The poll goes no further than the first refusal after which the deadline has passed. -/
theorem answered (pushing : Pushing sink deadline start budget value state refusals answer final)
    {k : Nat} (allowed : k < budget) (late : deadline (start + k) = true) : answer ≠ none := by
  intro unanswered
  have := pushing.early k (by rw [pushing.unfinished unanswered]; exact allowed)
  rw [late] at this
  exact nomatch this

theorem not_full_of_never (pushing : Pushing sink deadline start budget value state refusals answer final)
    (never : ∀ k, deadline k = false) (back : α) : answer ≠ some (.full back) := by
  intro refused
  have := pushing.late back refused
  rw [never] at this
  exact nomatch this

end Pushing

/-- A poll of a source as it stands after at most `budget` attempts, begun with the attempt number
`start`: some attempts that found nothing, and then the answer, if there is one. -/
structure Popping (source : Source σ α) (deadline : Deadline) (start budget : Nat) (state : σ)
    (failures : Nat) (answer : Option (Option α)) (final : σ) : Prop where
  polled : popUntil source.take deadline budget state start =
    .ok ⟨answer, final, start + failures + answer.toList.length⟩
  /-- Whoever keeps a list of what the source gave has this on it. -/
  noted : ∀ log, popUntil source.noted.take deadline budget (log, state) start =
    .ok ⟨answer, (log ++ List.replicate failures none ++ answer.toList, final),
      start + failures + answer.toList.length⟩
  early : ∀ k < failures, deadline (start + k) = false
  late : answer = some none → deadline (start + failures) = true
  unfinished : answer = none → failures = budget
  /-- An answer stays what it is, however many attempts more are allowed. -/
  settled : answer ≠ none → ∀ more, popUntil source.take deadline (budget + more) state start =
    .ok ⟨answer, final, start + failures + answer.toList.length⟩

theorem exists_popping (source : Source σ α) (deadline : Deadline) (start budget : Nat) (state : σ) :
    ∃ failures answer final, Popping source deadline start budget state failures answer final := by
  induction budget generalizing start state with
  | zero =>
    refine ⟨0, none, state, rfl, fun log => ?_, nofun, nofun, fun _ => rfl, fun some => absurd rfl some⟩
    rw [popUntil, List.replicate_zero, Option.toList_none, List.append_nil, List.append_nil]
    rfl
  | succ budget ih =>
    obtain ⟨⟨result, next⟩, gave⟩ : ∃ result, source state = result := ⟨_, rfl⟩
    have taken : source.take state = .ok (result, next) := congrArg Except.ok gave
    have noted (log : List (Option α)) :
        source.noted.take (log, state) = .ok (result, log ++ [result], next) := by
      simp only [Source.take, Source.noted, gave]
    cases result with
    | some value =>
      refine ⟨0, some (some value), next, popUntil_some taken budget, fun log => ?_, nofun, nofun,
        nofun, fun _ more => ?_⟩
      · rw [List.replicate_zero, List.append_nil]
        exact popUntil_some (noted log) budget
      · rw [Nat.add_right_comm]
        exact popUntil_some taken (budget + more)
    | none =>
      cases test : deadline start with
      | true =>
        refine ⟨0, some none, next, popUntil_late taken test budget, fun log => ?_, nofun,
          fun _ => test, nofun, fun _ more => ?_⟩
        · rw [List.replicate_zero, List.append_nil]
          exact popUntil_late (noted log) test budget
        · rw [Nat.add_right_comm]
          exact popUntil_late taken test (budget + more)
      | false =>
        obtain ⟨failures, answer, final, rest⟩ := ih (start + 1) next
        have number : start + (failures + 1) = start + 1 + failures := by omega
        refine ⟨failures + 1, answer, final, ?_, fun log => ?_, fun k inside => ?_, fun given => ?_,
          fun none => congrArg (· + 1) (rest.unfinished none), fun some more => ?_⟩
        · rw [popUntil_early taken test, rest.polled, number]
        · rw [popUntil_early (noted log) test, rest.noted, number, List.replicate_succ,
            List.append_assoc log]
          rfl
        · cases k with
          | zero => exact test
          | succ k =>
            rw [Nat.add_comm k, ← Nat.add_assoc]
            exact rest.early k (Nat.lt_of_succ_lt_succ inside)
        · rw [number]
          exact rest.late given
        · rw [Nat.add_right_comm, popUntil_early taken test, rest.settled some, number]

namespace Popping

variable {source : Source σ α} {deadline : Deadline} {start budget failures : Nat} {state final : σ}
  {answer : Option (Option α)}

theorem answered (popping : Popping source deadline start budget state failures answer final) {k : Nat}
    (allowed : k < budget) (late : deadline (start + k) = true) : answer ≠ none := by
  intro unanswered
  have := popping.early k (by rw [popping.unfinished unanswered]; exact allowed)
  rw [late] at this
  exact nomatch this

theorem not_none_of_never (popping : Popping source deadline start budget state failures answer final)
    (never : ∀ k, deadline k = false) : answer ≠ some none := by
  intro failed
  have := popping.late failed
  rw [never] at this
  exact nomatch this

end Popping

/-! ### Deadlines already past -/

/-- Polled with a deadline that is past at the first look, a queue is called once: the poll has the
call's answer and leaves the call's state. -/
structure OneCall (offer : α → σ → Except Fault (Offer α × σ)) (take : σ → Except Fault (Option α × σ))
    (deadline : Deadline) (state : σ) : Prop where
  push : ∀ value budget, ∃ answer next, offer value state = .ok (answer, next) ∧
    pushUntil offer deadline (budget + 1) value state 0 = .ok ⟨some answer, next, 1⟩
  pop : ∀ budget, ∃ answer next, take state = .ok (answer, next) ∧
    popUntil take deadline (budget + 1) state 0 = .ok ⟨some answer, next, 1⟩

theorem oneCall {offer : α → σ → Except Fault (Offer α × σ)}
    {take : σ → Except Fault (Option α × σ)} {deadline : Deadline} {state : σ}
    (past : deadline 0 = true) (offers : ∀ value, ∃ answer next, offer value state = .ok (answer, next))
    (takes : ∃ answer next, take state = .ok (answer, next)) : OneCall offer take deadline state where
  push value budget := by
    obtain ⟨answer, next, offered⟩ := offers value
    refine ⟨answer, next, offered, ?_⟩
    cases answer with
    | accepted => exact pushUntil_accepted offered budget
    | full back => exact pushUntil_late offered past budget
  pop budget := by
    obtain ⟨answer, next, taken⟩ := takes
    refine ⟨answer, next, taken, ?_⟩
    cases answer with
    | some value => exact popUntil_some taken budget
    | none => exact popUntil_late taken past budget

theorem Spsc.Account.oneCall {capacity : UInt64} {q : Spsc α capacity} {past : Nat} {stored : List α}
    (account : q.Account past stored) {deadline : Deadline} (late : deadline 0 = true) :
    OneCall (fun value q => Spsc.push q value) Spsc.pop deadline q := by
  refine Queue.oneCall late (fun value => ?_) ?_
  · obtain ⟨answer, next, -, pushed, -, -⟩ := account.push value
    exact ⟨answer, next, pushed⟩
  · obtain ⟨value, next, -, -, popped, -, -⟩ := account.pop
    exact ⟨value, next, popped⟩

theorem Mpmc.Account.oneCall {capacity : UInt64} (admitted : Mpmc.Admitted capacity)
    {q : Mpmc α capacity} {past : Nat} {stored : List α} (account : q.Account past stored)
    {deadline : Deadline} (late : deadline 0 = true) :
    OneCall (fun value q => Mpmc.enqueue q value) Mpmc.dequeue deadline q := by
  refine Queue.oneCall late (fun value => ?_) ?_
  · by_cases room : stored.length < capacity.toNat
    · obtain ⟨next, accepted, -⟩ := account.enqueue_accepted admitted room value
      exact ⟨_, next, accepted⟩
    · have full : stored.length = capacity.toNat := by
        have := account.length_le
        omega
      exact ⟨_, q, account.enqueue_full admitted full value⟩
  · cases stored with
    | nil => exact ⟨none, q, account.dequeue_empty admitted⟩
    | cons oldest rest =>
      obtain ⟨next, taken, -⟩ := account.dequeue_oldest admitted
      exact ⟨_, next, taken⟩

theorem Deadline.ofClock_none (clock : Nat → Nat) (attempt : Nat) :
    ofClock clock none attempt = false := rfl

/-- Polls conserve the element and keep to the deadline, for any sink, any source and any clock. The
element is accepted once or comes back out of the last refusal, and without a limit only the first
can be; a source gives nothing after its first element. With a limit that has passed, a poll of
either queue is one call, after whatever was done with the queue before. -/
theorem polls_conserve_and_end (clock : Nat → Nat) (limit : Option Nat) :
    (∀ (sink : Sink σ α) (value : α) (state : σ) (budget : Nat), ∃ refusals answer final,
      Pushing sink (.ofClock clock limit) 0 budget value state refusals answer final ∧
      ((attempts value refusals answer).filter fun attempt => attempt.2.isAccepted).length =
        (answer.any Offer.isAccepted).toNat ∧
      (0 < budget → attempts value refusals answer ≠ []) ∧
      (∀ k < budget, Deadline.ofClock clock limit k = true → answer ≠ none) ∧
      (limit = none → ∀ back, answer ≠ some (.full back))) ∧
    (∀ (source : Source σ α) (state : σ) (budget : Nat), ∃ failures answer final,
      Popping source (.ofClock clock limit) 0 budget state failures answer final ∧
      (∀ k < budget, Deadline.ofClock clock limit k = true → answer ≠ none) ∧
      (limit = none → answer ≠ some none)) ∧
    (Deadline.ofClock clock limit 0 = true →
      (∀ (capacity : UInt64) (start : Ring.Index capacity) (steps : List (Channel.Step α)),
        ∃ events channel, history Channel.step steps (.joined (.startingAt start)) =
          .ok (events, channel) ∧ ∀ side q, channel.end? side = some q →
            OneCall (fun value q => Spsc.push q value) Spsc.pop (.ofClock clock limit) q) ∧
      ∀ capacity, Mpmc.Admitted capacity → ∀ (position : UInt64) (calls : List (Mpmc.Call α)),
        ∃ events, ∃ q : Mpmc α capacity,
          history Mpmc.answer calls (.startingAt position) = .ok (events, q) ∧
          OneCall (fun value q => Mpmc.enqueue q value) Mpmc.dequeue (.ofClock clock limit) q) := by
  refine ⟨fun sink value state budget => ?_, fun source state budget => ?_, fun late => ⟨?_, ?_⟩⟩
  · obtain ⟨refusals, answer, final, pushing⟩ :=
      exists_pushing sink (.ofClock clock limit) 0 budget value state
    refine ⟨refusals, answer, final, pushing, filter_isAccepted_attempts value refusals answer,
      pushing.attempts_ne_nil, fun k allowed late => ?_, ?_⟩
    · exact pushing.answered allowed (by rwa [Nat.zero_add])
    · rintro rfl
      exact pushing.not_full_of_never (Deadline.ofClock_none clock)
  · obtain ⟨failures, answer, final, popping⟩ :=
      exists_popping source (.ofClock clock limit) 0 budget state
    refine ⟨failures, answer, final, popping, fun k allowed late => ?_, ?_⟩
    · exact popping.answered allowed (by rwa [Nat.zero_add])
    · rintro rfl
      exact popping.not_none_of_never (Deadline.ofClock_none clock)
  · intro capacity start steps
    obtain ⟨events, channel, answers, kept⟩ := history_invariant Channel.Kept
      (fun _ _ _ kept now => kept.next now) steps (.joined (.startingAt start))
      (Channel.kept_joined start)
    refine ⟨events, channel, answers, fun side q sees => ?_⟩
    have held : channel.isHeld side = true := Option.isSome_iff_exists.mpr ⟨q, sees⟩
    obtain ⟨past, stored, account, -⟩ := kept.live q ((Channel.end?_eq held).symm.trans sees)
    exact account.oneCall late
  · intro capacity admitted position calls
    obtain ⟨events, q, answers, stored, account, -⟩ :=
      Mpmc.history_after (α := α) admitted position.toNat calls
    rw [UInt64.ofNat_toNat] at answers
    exact ⟨events, q, answers, account.oneCall admitted late⟩

/-- A sink that would accept the third offer and hands back one more than it is offered, and a clock
that reaches its limit with the second failure: the last refusal is the answer. At its limit from
the start, the same clock lets a full queue be asked once. -/
theorem polls_at_the_limit :
    let sink : Sink Nat Nat := fun value refusals =>
      if refusals = 0 then (.accepted, 0) else (.full (value + 1), refusals - 1)
    let full : Mpmc Nat 2 := ⟨2, 0, #[1, 2], ⟨#[some 7, some 8]⟩⟩
    (∃ refusals, Pushing sink (.ofClock id (some 1)) 0 5 7 2 refusals (some (.full 9)) 0) ∧
      Deadline.ofClock id (some 0) 0 = true ∧ Mpmc.Admitted 2 ∧
      OneCall (fun value q => Mpmc.enqueue q value) Mpmc.dequeue (.ofClock id (some 0)) full := by
  intro sink full
  have late : Deadline.ofClock id (some 0) 0 = true := rfl
  refine ⟨?_, late, Mpmc.admitted_two, ?_⟩
  · obtain ⟨refusals, answer, final, pushing, -⟩ := (polls_conserve_and_end id (some 1)).1 sink 7 2 5
    have run : pushUntil sink.offer (.ofClock id (some 1)) 5 7 2 0 =
        .ok ⟨some (.full 9), 0, 2⟩ := rfl
    obtain ⟨rfl, rfl, -⟩ := Polled.mk.inj (Except.ok.inj (run.symm.trans pushing.polled))
    exact ⟨refusals, pushing⟩
  · obtain ⟨events, q, answers, once⟩ := ((polls_conserve_and_end (σ := Unit) id (some 0)).2.2 late).2
      2 Mpmc.admitted_two 0 [.enqueue 7, .enqueue 8]
    have run : history Mpmc.answer [.enqueue 7, .enqueue 8] (.startingAt 0 : Mpmc Nat 2) =
        .ok ([.offered 7 .accepted, .offered 8 .accepted], full) := rfl
    obtain ⟨-, rfl⟩ := Prod.mk.inj (Except.ok.inj (run.symm.trans answers))
    exact once

end RingQueue.Queue
