import RingQueue.Queue.Cells
import RingQueue.Queue.Offer

/-! Waiting for a queue by asking again. The queues never wait; these loops repeat an offer or a
take until it succeeds or, after a failure, the deadline has passed. They run over any state
machine that answers offers or takes and over any clock, and `budget` bounds the attempts: a poll
that uses it up is unfinished, which is not an answer. -/
namespace RingQueue.Queue

/-- Whether the deadline is found past, by the number of the failed attempt that asks. -/
abbrev Deadline := Nat → Bool

def Deadline.never : Deadline := fun _ => false
def Deadline.past : Deadline := fun _ => true

/-- The deadline of a clock that shows `clock k` after the failed attempt number `k`. Where no limit
is set it never passes. -/
def Deadline.ofClock (clock : Nat → Nat) (limit : Option Nat) : Deadline :=
  fun attempt => limit.any fun limit => limit ≤ clock attempt

/-- How a poll stands: its answer once it has one, the other side's state, the attempts made. -/
structure Polled (σ : Type u) (β : Type v) where
  answer : Option β
  state : σ
  attempts : Nat

variable {σ : Type u} {α : Type v}

/-- Offers an element until it is accepted. Each offer after the first is of what the refusal
before it handed back, and the deadline is looked at only after a refusal. -/
def pushUntil (offer : α → σ → Except Fault (Offer α × σ)) (deadline : Deadline)
    (budget : Nat) (value : α) (state : σ) (attempt : Nat) :
    Except Fault (Polled σ (Offer α)) :=
  match budget with
  | 0 => .ok ⟨none, state, attempt⟩
  | budget + 1 =>
    match offer value state with
    | .error fault => .error fault
    | .ok (.accepted, state) => .ok ⟨some .accepted, state, attempt + 1⟩
    | .ok (.full back, state) =>
      if deadline attempt then .ok ⟨some (.full back), state, attempt + 1⟩
      else pushUntil offer deadline budget back state (attempt + 1)

/-- Takes until an element comes. The deadline is looked at only after a failure. -/
def popUntil (take : σ → Except Fault (Option α × σ)) (deadline : Deadline)
    (budget : Nat) (state : σ) (attempt : Nat) : Except Fault (Polled σ (Option α)) :=
  match budget with
  | 0 => .ok ⟨none, state, attempt⟩
  | budget + 1 =>
    match take state with
    | .error fault => .error fault
    | .ok (some value, state) => .ok ⟨some (some value), state, attempt + 1⟩
    | .ok (none, state) =>
      if deadline attempt then .ok ⟨some none, state, attempt + 1⟩
      else popUntil take deadline budget state (attempt + 1)

/-- A sink that refuses a number of offers, handing back something else each time, and keeps what
it was offered and what it accepted, latest first. -/
structure Reluctant (α : Type u) where
  refusals : Nat
  handBack : α → α
  offered : List α
  accepted : List α

def Reluctant.offer (value : α) (sink : Reluctant α) : Except Fault (Offer α × Reluctant α) :=
  let sink := { sink with offered := value :: sink.offered }
  match sink.refusals with
  | 0 => .ok (.accepted, { sink with accepted := value :: sink.accepted })
  | refusals + 1 => .ok (.full (sink.handBack value), { sink with refusals })

/-- A source that is empty a number of times and then yields its element. -/
structure Delayed (α : Type u) where
  failures : Nat
  value : α

def Delayed.take (source : Delayed α) : Except Fault (Option α × Delayed α) :=
  match source.failures with
  | 0 => .ok (some source.value, source)
  | failures + 1 => .ok (none, { source with failures })

end RingQueue.Queue
