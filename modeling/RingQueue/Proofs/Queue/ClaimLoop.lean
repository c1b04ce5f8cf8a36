import RingQueue.Proofs.Queue.MpmcHistory

/-! The claim loops, pass by pass. A pass looks at the slot of the ticket at hand. It is the last one
when the slot refuses, or grants the ticket and the index still stands at it; otherwise the index is
read again. A lone caller always reads the same, so one pass tells whether the loop ends at all, and
`enqueue` and `dequeue` are right to look once. Main result: after every history of whole calls the
first pass is the last, and a refused call changes nothing. -/
namespace RingQueue.Queue.Mpmc

open RingQueue.Ring

variable {α : Type u} {capacity : UInt64}

/-- The loop of a lone caller, in at most `passes` passes. Tickets are drawn from `index`, and a slot
is judged by `lag`. -/
def claim (lag : Ticket capacity → UInt64 → Int64) (sequences : Array UInt64) (index : UInt64) :
    Nat → Ticket capacity → Except Fault (Option (Ticket capacity))
  | 0, _ => .error .unfinished
  | passes + 1, ticket =>
    match sequences[ticket.slot.toNat]? with
    | none => .error (.outOfRange ticket.slot.toNat sequences.size)
    | some sequence =>
      match Claim.ofLag (lag ticket sequence) with
      | .granted =>
        -- The exchange fails when the index has moved on, and then tells where it stands.
        if index = ticket.position then .ok (some ticket)
        else claim lag sequences index passes ⟨index⟩
      | .refused => .ok none
      | .overtaken => claim lag sequences index passes ⟨index⟩

/-- `enqueue` with its loop written out. -/
def enqueueWithin (passes : Nat) (q : Mpmc α capacity) (value : α) :
    Except Fault (Offer α × Mpmc α capacity) :=
  match q with
  | ⟨enqueueIndex, dequeueIndex, sequences, cells⟩ =>
    match claim Ticket.lag sequences enqueueIndex passes (⟨enqueueIndex⟩ : Ticket capacity) with
    | .error fault => .error fault
    | .ok none => .ok (.full value, ⟨enqueueIndex, dequeueIndex, sequences, cells⟩)
    | .ok (some ticket) =>
      match cells.put ticket.slot value with
      | .error fault => .error fault
      | .ok cells =>
        .ok (.accepted, ⟨ticket.next.position, dequeueIndex,
          sequences.set! ticket.slot.toNat ticket.published, cells⟩)

/-- `dequeue` with its loop written out. -/
def dequeueWithin (passes : Nat) (q : Mpmc α capacity) :
    Except Fault (Option α × Mpmc α capacity) :=
  match q with
  | ⟨enqueueIndex, dequeueIndex, sequences, cells⟩ =>
    match claim Ticket.fillLag sequences dequeueIndex passes (⟨dequeueIndex⟩ : Ticket capacity) with
    | .error fault => .error fault
    | .ok none => .ok (none, ⟨enqueueIndex, dequeueIndex, sequences, cells⟩)
    | .ok (some ticket) =>
      match cells.take ticket.slot with
      | .error fault => .error fault
      | .ok (value, cells) =>
        .ok (some value, ⟨enqueueIndex, ticket.next.position,
          sequences.set! ticket.slot.toNat ticket.nextLap, cells⟩)

section Loop

variable {lag : Ticket capacity → UInt64 → Int64} {sequences : Array UInt64} {index sequence : UInt64}

/-- What the first look tells, all others tell again. -/
theorem claim_succ (found : sequences[(⟨index⟩ : Ticket capacity).slot.toNat]? = some sequence)
    (passes : Nat) : claim lag sequences index (passes + 1) ⟨index⟩ =
      match Claim.ofLag (lag ⟨index⟩ sequence) with
      | .granted => .ok (some ⟨index⟩)
      | .refused => .ok none
      | .overtaken => .error .unfinished := by
  induction passes with
  | zero => cases look : Claim.ofLag (lag ⟨index⟩ sequence) <;> simp [claim, found, look]
  | succ passes ih =>
    rw [claim]
    cases look : Claim.ofLag (lag ⟨index⟩ sequence) <;> simp [found, look, ih]

theorem claim_outside (outside : sequences[(⟨index⟩ : Ticket capacity).slot.toNat]? = none)
    (passes : Nat) : claim lag sequences index (passes + 1) ⟨index⟩ =
      .error (.outOfRange (⟨index⟩ : Ticket capacity).slot.toNat sequences.size) := by
  simp [claim, outside]

/-- A lone caller's loop ends in its first pass, without a ticket just when it is blocked. -/
structure EndsAtOnce (lag : Ticket capacity → UInt64 → Int64) (sequences : Array UInt64)
    (index : UInt64) (blocked : Prop) [Decidable blocked] : Prop where
  /-- The slot is never ahead of the ticket. -/
  look : ∃ sequence, sequences[(⟨index⟩ : Ticket capacity).slot.toNat]? = some sequence ∧
    (lag ⟨index⟩ sequence = 0 ∨ lag ⟨index⟩ sequence < 0) ∧ (lag ⟨index⟩ sequence < 0 ↔ blocked)
  ends : ∀ passes, claim lag sequences index (passes + 1) ⟨index⟩ =
    .ok (if blocked then none else some ⟨index⟩)

theorem endsAtOnce_of_lag {blocked : Prop} [Decidable blocked] {behind : Int}
    (low : -2 ^ 63 ≤ behind) (negative : behind < 0)
    (found : sequences[(⟨index⟩ : Ticket capacity).slot.toNat]? = some sequence)
    (distance : lag ⟨index⟩ sequence = .ofInt (if blocked then behind else 0)) :
    EndsAtOnce lag sequences index blocked := by
  have below : Int64.ofInt behind < 0 := by
    rw [Int64.lt_iff_toInt_lt, Int64.toInt_ofInt_of_le low (by omega), Int64.toInt_zero]
    exact negative
  by_cases stuck : blocked
  · rw [if_pos stuck] at distance
    refine ⟨⟨sequence, found, .inr (distance ▸ below), ?_⟩, fun passes => ?_⟩
    · simp [distance, below, stuck]
    · rw [claim_succ found, distance, Claim.ofLag_neg low negative, if_pos stuck]
  · rw [if_neg stuck] at distance
    refine ⟨⟨sequence, found, .inl distance, ?_⟩, fun passes => ?_⟩
    · simp [distance, stuck]
    · rw [claim_succ found, distance, Claim.ofLag_zero, if_neg stuck]

end Loop

/-- The loop of `enqueue` is its one look, in every state: where the look does not tell, no number of
passes is enough. -/
theorem enqueueWithin_eq_or_endless (q : Mpmc α capacity) (value : α) :
    (∀ passes, q.enqueueWithin (passes + 1) value = q.enqueue value) ∨
    (q.enqueue value = .error (.endlessClaim q.enqueueIndex) ∧
      ∀ passes, q.enqueueWithin passes value = .error .unfinished) := by
  obtain ⟨enqueueIndex, dequeueIndex, sequences, cells⟩ := q
  cases found : sequences[(⟨enqueueIndex⟩ : Ticket capacity).slot.toNat]? with
  | none =>
    left
    intro passes
    simp only [enqueueWithin, enqueue, claim_outside found, found]
  | some sequence =>
    cases look : Claim.ofLag ((⟨enqueueIndex⟩ : Ticket capacity).lag sequence) with
    | granted =>
      left
      intro passes
      cases put : cells.put (⟨enqueueIndex⟩ : Ticket capacity).slot value <;>
        simp only [enqueueWithin, enqueue, claim_succ found, found, look, put]
    | refused =>
      left
      intro passes
      simp only [enqueueWithin, enqueue, claim_succ found, found, look]
    | overtaken =>
      right
      refine ⟨by simp only [enqueue, found, look], fun passes => ?_⟩
      cases passes with
      | zero => rfl
      | succ passes => simp only [enqueueWithin, claim_succ found, look]

/-- The loop of `dequeue` is its one look, too. -/
theorem dequeueWithin_eq_or_endless (q : Mpmc α capacity) :
    (∀ passes, q.dequeueWithin (passes + 1) = q.dequeue) ∨
    (q.dequeue = .error (.endlessClaim q.dequeueIndex) ∧
      ∀ passes, q.dequeueWithin passes = .error .unfinished) := by
  obtain ⟨enqueueIndex, dequeueIndex, sequences, cells⟩ := q
  cases found : sequences[(⟨dequeueIndex⟩ : Ticket capacity).slot.toNat]? with
  | none =>
    left
    intro passes
    simp only [dequeueWithin, dequeue, claim_outside found, found]
  | some sequence =>
    cases look : Claim.ofLag ((⟨dequeueIndex⟩ : Ticket capacity).fillLag sequence) with
    | granted =>
      left
      intro passes
      cases take : cells.take (⟨dequeueIndex⟩ : Ticket capacity).slot <;>
        simp only [dequeueWithin, dequeue, claim_succ found, found, look, take]
    | refused =>
      left
      intro passes
      simp only [dequeueWithin, dequeue, claim_succ found, found, look]
    | overtaken =>
      right
      refine ⟨by simp only [dequeue, found, look], fun passes => ?_⟩
      cases passes with
      | zero => rfl
      | succ passes => simp only [dequeueWithin, claim_succ found, look]

namespace Account

variable {q : Mpmc α capacity} {past : Nat} {stored : List α}

theorem enqueue_endsAtOnce (admitted : Admitted capacity) (account : q.Account past stored) :
    EndsAtOnce (@Ticket.lag capacity) q.sequences q.enqueueIndex
      (stored.length = capacity.toNat) := by
  have bounds := admitted.bounds
  obtain ⟨sequence, found, lag⟩ := account.enqueue_lag admitted
  rw [account.enqueueIndex]
  exact endsAtOnce_of_lag (by omega) (by omega) found lag

theorem dequeue_endsAtOnce (admitted : Admitted capacity) (account : q.Account past stored) :
    EndsAtOnce (@Ticket.fillLag capacity) q.sequences q.dequeueIndex
      (stored.length = 0) := by
  obtain ⟨sequence, found, lag⟩ := account.dequeue_lag admitted
  rw [account.dequeueIndex]
  exact endsAtOnce_of_lag (by omega) (by omega) found lag

theorem enqueueWithin_eq (admitted : Admitted capacity) (account : q.Account past stored)
    (passes : Nat) (value : α) : q.enqueueWithin (passes + 1) value = q.enqueue value := by
  rcases q.enqueueWithin_eq_or_endless value with same | ⟨endless, -⟩
  · exact same passes
  · obtain ⟨next, answered, -⟩ := account.answer admitted (.enqueue value)
    rw [Mpmc.answer, endless] at answered
    cases answered

theorem dequeueWithin_eq (admitted : Admitted capacity) (account : q.Account past stored)
    (passes : Nat) : q.dequeueWithin (passes + 1) = q.dequeue := by
  rcases q.dequeueWithin_eq_or_endless with same | ⟨endless, -⟩
  · exact same passes
  · obtain ⟨next, answered, -⟩ := account.answer admitted .dequeue
    rw [Mpmc.answer, endless] at answered
    cases answered

end Account

/-- Whole calls never spin. After every history, on whichever side of the largest word the indices
are, both loops end in their first pass: the slot is at the ticket, or behind it just when the queue
is full, or for `dequeue` when it is empty. So the loops do what one look does, and a call that is
refused leaves everything as it was. -/
theorem calls_end_at_once (admitted : Admitted capacity) (position : UInt64)
    (calls : List (Call α)) :
    ∃ events, ∃ q : Mpmc α capacity, ∃ stored,
      history answer calls (startingAt position) = .ok (events, q) ∧
      Event.accepted events = Event.given events ++ stored ∧
      EndsAtOnce (@Ticket.lag capacity) q.sequences q.enqueueIndex
        (stored.length = capacity.toNat) ∧
      EndsAtOnce (@Ticket.fillLag capacity) q.sequences q.dequeueIndex
        (stored.length = 0) ∧
      (∀ passes value, q.enqueueWithin (passes + 1) value = q.enqueue value) ∧
      (∀ passes, q.dequeueWithin (passes + 1) = q.dequeue) ∧
      (stored.length = capacity.toNat → ∀ value, q.enqueue value = .ok (.full value, q)) ∧
      (stored.length = 0 → q.dequeue = .ok (none, q)) := by
  obtain ⟨events, q, answers, stored, account, balanced⟩ :=
    history_after (α := α) admitted position.toNat calls
  rw [UInt64.ofNat_toNat] at answers
  refine ⟨events, q, stored, answers, balanced.elements, account.enqueue_endsAtOnce admitted,
    account.dequeue_endsAtOnce admitted, account.enqueueWithin_eq admitted,
    account.dequeueWithin_eq admitted, account.enqueue_full admitted, fun empty => ?_⟩
  obtain rfl := List.eq_nil_of_length_eq_zero empty
  exact account.dequeue_empty admitted

/-- Two slots, filled by tickets on either side of the largest word. The next one's slot still carries
zero, a lap less one behind it. -/
theorem refused_across_the_word : Admitted 2 ∧
    EndsAtOnce (@Ticket.lag 2) #[1, 0] 1 True ∧
    EndsAtOnce (@Ticket.fillLag 2) #[1, 0] (.ofNat (2 ^ 64 - 1)) False ∧
    (⟨1, .ofNat (2 ^ 64 - 1), #[1, 0], ⟨#[some 8, some 7]⟩⟩ : Mpmc Nat 2).enqueue 9 =
      .ok (.full 9, ⟨1, .ofNat (2 ^ 64 - 1), #[1, 0], ⟨#[some 8, some 7]⟩⟩) := by
  obtain ⟨events, q, stored, answers, elements, enqueues, dequeues, -, -, full, -⟩ :=
    calls_end_at_once (α := Nat) admitted_two (.ofNat (2 ^ 64 - 1)) [.enqueue 7, .enqueue 8]
  have run : history answer [.enqueue 7, .enqueue 8]
      (startingAt (.ofNat (2 ^ 64 - 1)) : Mpmc Nat 2) =
      .ok ([.offered 7 .accepted, .offered 8 .accepted],
        ⟨1, .ofNat (2 ^ 64 - 1), #[1, 0], ⟨#[some 8, some 7]⟩⟩) := rfl
  obtain ⟨rfl, rfl⟩ := Prod.mk.inj (Except.ok.inj (run.symm.trans answers))
  obtain rfl : [7, 8] = stored := elements
  exact ⟨admitted_two, by simpa using enqueues, by simpa using dequeues, full rfl 9⟩

end RingQueue.Queue.Mpmc
