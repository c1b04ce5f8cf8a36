import RingQueue.Fault

/-! Workers that take turns. A turn is one whole operation of one worker; it may be told that the
deadline has passed, it may know a shared counter only as it was some operations before, and it
answers whether anything moved. Any list of turns is a possible history. `play` picks one: a worker
goes on while it moves something, then the next has its turn, and when no worker can move any more,
time passes until the deadline. Time is counted in turns. -/
namespace RingQueue

/-- One turn: whose it is, whether the deadline has passed, and by how much the worker's reading of
a shared counter falls short. -/
structure Turn where
  worker : Nat
  late : Bool
  behind : Nat := 0
  deriving DecidableEq, Repr

/-- What a turn does. It answers whether it moved an item. -/
abbrev Act (σ : Type) := Turn → σ → Except Fault (Bool × σ)

variable {σ : Type}

def execute (act : Act σ) : List Turn → σ → Except Fault σ
  | [], state => .ok state
  | turn :: history, state =>
    match act turn state with
    | .error fault => .error fault
    | .ok (_, state) => execute act history state

def turnsPerMs : Nat := 5000

/-- Where `play` stands: the state, whose turn is next, how many turns in a row moved nothing, how
many were taken, and how many up to the last that moved something. -/
structure Play (σ : Type) where
  state : σ
  worker : Nat
  still : Nat
  clock : Nat
  moved : Nat

/-- Plays until no worker has moved anything in two rounds, the second of them after the
deadline. -/
def Play.run (act : Act σ) (workers limit : Nat) : Nat → Play σ → Except Fault (Play σ)
  | 0, _ => .error .unfinished
  | bound + 1, ⟨state, worker, still, clock, moved⟩ =>
    if 2 * workers ≤ still then .ok ⟨state, worker, still, clock, moved⟩
    else
      let clock := if still = workers then max clock limit else clock
      match act { worker, late := limit ≤ clock } state with
      | .error fault => .error fault
      | .ok (true, state) =>
        Play.run act workers limit bound ⟨state, worker, 0, clock + 1, clock + 1⟩
      | .ok (false, state) =>
        let next := if worker + 1 < workers then worker + 1 else 0
        Play.run act workers limit bound ⟨state, next, still + 1, clock + 1, moved⟩

/-- Plays from a first state in which at most `moves` items can still move. -/
def play (act : Act σ) (workers limit moves : Nat) (state : σ) : Except Fault (Play σ) :=
  Play.run act workers limit ((moves + 1) * (2 * workers + 1) + 1) ⟨state, 0, 0, 0, 0⟩

end RingQueue
