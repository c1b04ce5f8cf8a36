import RingQueue.Fault
import RingQueue.Queue.Offer

/-! Histories of calls and the ideal bounded queue. A machine answers one call at a time and
`history` keeps the events. The ideal queue is a list, oldest element first, with room for a fixed
number of elements; it says what each event should have been. -/
namespace RingQueue.Queue

/-- One call with its answer. An offer keeps the element beside what came of it. -/
inductive Event (α : Type u) where
  | offered (value : α) (answer : Offer α)
  | taken (answer : Option α)
  | counted (answer : Nat)
  | told (answer : Bool)
  /-- An end was closed, and these elements were destroyed. -/
  | closed (destroyed : List α)
  /-- The end that was to be used is not held any more. -/
  | absent
  deriving DecidableEq, Repr

namespace Event

variable {α : Type u}

/-- The elements that were taken in, in order. -/
def accepted (events : List (Event α)) : List α :=
  events.filterMap fun
    | offered value .accepted => some value
    | _ => none

/-- The elements that were given out, in order. -/
def given (events : List (Event α)) : List α :=
  events.filterMap fun
    | taken answer => answer
    | _ => none

/-- The elements that a queue destroyed itself, in order. -/
def destroyed (events : List (Event α)) : List α :=
  events.flatMap fun
    | closed destroyed => destroyed
    | _ => []

/-- Every refusal hands back the element that was offered. -/
def HandedBack (events : List (Event α)) : Prop :=
  ∀ value back, offered value (.full back) ∈ events → back = value

@[simp] theorem accepted_append (a b : List (Event α)) :
    accepted (a ++ b) = accepted a ++ accepted b := List.filterMap_append ..

@[simp] theorem given_append (a b : List (Event α)) :
    given (a ++ b) = given a ++ given b := List.filterMap_append ..

@[simp] theorem destroyed_append (a b : List (Event α)) :
    destroyed (a ++ b) = destroyed a ++ destroyed b := List.flatMap_append

theorem handedBack_append {a b : List (Event α)} :
    HandedBack (a ++ b) ↔ HandedBack a ∧ HandedBack b := by
  simp only [HandedBack, List.mem_append]
  constructor
  · intro h
    exact ⟨fun v w m => h v w (.inl m), fun v w m => h v w (.inr m)⟩
  · rintro ⟨ha, hb⟩ v w (m | m)
    · exact ha v w m
    · exact hb v w m

end Event

variable {α : Type u} {κ : Type v} {σ τ : Type w}

/-- The events of a list of calls, and the state after them. -/
def history (act : κ → σ → Except Fault (Event α × σ)) :
    List κ → σ → Except Fault (List (Event α) × σ)
  | [], state => .ok ([], state)
  | call :: calls, state =>
    match act call state with
    | .error fault => .error fault
    | .ok (event, state) =>
      (history act calls state).map fun (events, state) => (event :: events, state)

theorem history_cons {act : κ → σ → Except Fault (Event α × σ)} {call : κ} {calls : List κ}
    {start next last : σ} {event : Event α} {events : List (Event α)}
    (first : act call start = .ok (event, next))
    (rest : history act calls next = .ok (events, last)) :
    history act (call :: calls) start = .ok (event :: events, last) := by
  simp only [history, first, rest]
  rfl

/-- What each call keeps true of the calls so far, their events and the state is true of every
history, and none ends in a fault. -/
theorem history_invariant {act : κ → σ → Except Fault (Event α × σ)}
    (holds : List κ → List (Event α) → σ → Prop)
    (step : ∀ calls events state, holds calls events state → ∀ call,
      ∃ event next, act call state = .ok (event, next) ∧
        holds (calls ++ [call]) (events ++ [event]) next)
    (calls : List κ) (state : σ) (initial : holds [] [] state) :
    ∃ events last, history act calls state = .ok (events, last) ∧ holds calls events last := by
  suffices general : ∀ calls past before state, holds past before state →
      ∃ events last, history act calls state = .ok (events, last) ∧
        holds (past ++ calls) (before ++ events) last from
    general calls [] [] state initial
  intro calls
  induction calls with
  | nil =>
    intro past before state h
    exact ⟨[], state, rfl, by simpa using h⟩
  | cons call calls ih =>
    intro past before state h
    obtain ⟨event, next, first, kept⟩ := step past before state h call
    obtain ⟨events, last, rest, final⟩ := ih _ _ next kept
    exact ⟨event :: events, last, history_cons first rest, by simpa using final⟩

namespace Fifo

/-- Takes an element in behind the others, if there is room for it. -/
def offer (capacity : Nat) (value : α) (stored : List α) : Event α × List α :=
  if stored.length < capacity then (.offered value .accepted, stored ++ [value])
  else (.offered value (.full value), stored)

/-- Gives out the oldest element, if there is one. -/
def take : List α → Event α × List α
  | [] => (.taken none, [])
  | oldest :: rest => (.taken (some oldest), rest)

/-- The events that a list of calls should have, and what is stored after them. -/
def history (answer : κ → List α → Event α × List α) :
    List κ → List α → List (Event α) × List α
  | [], stored => ([], stored)
  | call :: calls, stored =>
    let (event, stored) := answer call stored
    let (events, stored) := history answer calls stored
    (event :: events, stored)

/-- A machine that answers each call as the list does, and stays related to it, has the list's
events in every history. -/
theorem history_simulates {act : κ → σ → Except Fault (Event α × σ)}
    {answer : κ → List α → Event α × List α} (related : σ → List α → Prop)
    (step : ∀ call state stored, related state stored → ∃ next,
      act call state = .ok ((answer call stored).1, next) ∧ related next (answer call stored).2)
    (calls : List κ) (state : σ) (stored : List α) (initial : related state stored) :
    ∃ last, Queue.history act calls state = .ok ((history answer calls stored).1, last) ∧
      related last (history answer calls stored).2 := by
  induction calls generalizing state stored with
  | nil => exact ⟨state, rfl, initial⟩
  | cons call calls ih =>
    obtain ⟨next, first, kept⟩ := step call state stored initial
    obtain ⟨last, rest, final⟩ := ih next _ kept
    exact ⟨last, history_cons first rest, final⟩

/-- One event neither makes nor loses an element: what was stored and what it took in is what it
gave out and what is stored after it. -/
structure Conserves (stored : List α) (event : Event α) (after : List α) : Prop where
  elements : stored ++ Event.accepted [event] = Event.given [event] ++ after
  handedBack : Event.HandedBack [event]
  intact : Event.destroyed [event] = []

theorem conserves_offer (capacity : Nat) (value : α) (stored : List α) :
    Conserves stored (offer capacity value stored).1 (offer capacity value stored).2 := by
  unfold offer
  split <;> constructor <;> simp [Event.accepted, Event.given, Event.destroyed, Event.HandedBack]

theorem conserves_take (stored : List α) : Conserves stored (take stored).1 (take stored).2 := by
  cases stored <;> constructor <;>
    simp [take, Event.accepted, Event.given, Event.destroyed, Event.HandedBack]

theorem conserves_counted (stored : List α) (count : Nat) :
    Conserves stored (.counted count) stored := by
  constructor <;> simp [Event.accepted, Event.given, Event.destroyed, Event.HandedBack]

theorem conserves_told (stored : List α) (flag : Bool) : Conserves stored (.told flag) stored := by
  constructor <;> simp [Event.accepted, Event.given, Event.destroyed, Event.HandedBack]

theorem conserves_absent (stored : List α) : Conserves stored .absent stored := by
  constructor <;> simp [Event.accepted, Event.given, Event.destroyed, Event.HandedBack]

theorem conserves_closed_nil (stored : List α) : Conserves stored (.closed []) stored := by
  constructor <;> simp [Event.accepted, Event.given, Event.destroyed, Event.HandedBack]

/-- The balance of a history of a queue that was empty at first: what it took in is what it gave
out and what it stores. -/
structure Balanced (events : List (Event α)) (stored : List α) : Prop where
  elements : Event.accepted events = Event.given events ++ stored
  handedBack : Event.HandedBack events
  intact : Event.destroyed events = []

theorem balanced_nil : Balanced ([] : List (Event α)) [] :=
  ⟨rfl, fun _ _ member => absurd member List.not_mem_nil, rfl⟩

theorem Balanced.append {events : List (Event α)} {stored after : List α} {event : Event α}
    (balanced : Balanced events stored) (conserves : Conserves stored event after) :
    Balanced (events ++ [event]) after where
  elements := by
    rw [Event.accepted_append, Event.given_append, balanced.elements, List.append_assoc,
      List.append_assoc, conserves.elements]
  handedBack := Event.handedBack_append.mpr ⟨balanced.handedBack, conserves.handedBack⟩
  intact := by rw [Event.destroyed_append, balanced.intact, conserves.intact]; rfl

end Fifo
end RingQueue.Queue
