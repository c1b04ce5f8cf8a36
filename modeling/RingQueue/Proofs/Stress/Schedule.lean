import RingQueue.Stress.Schedule

/-! Histories of turns in general. What every turn keeps true is true after any history. The history
that is played is one of them: it ends because only so many items can move, and when it ends every
worker has had a turn after the deadline without moving anything. -/
namespace RingQueue

variable {σ : Type} {act : Act σ}

theorem execute_append {before after : List Turn} {state middle : σ}
    (ran : execute act before state = .ok middle) :
    execute act (before ++ after) state = execute act after middle := by
  induction before generalizing state with
  | nil =>
    obtain rfl := Except.ok.inj ran
    rfl
  | cons turn before ih =>
    rw [execute] at ran
    rw [List.cons_append, execute]
    cases first : act turn state with
    | error fault =>
      rw [first] at ran
      cases ran
    | ok answer =>
      rw [first] at ran
      exact ih ran

theorem execute_cons {turn : Turn} {history : List Turn} {state next : σ} {moved : Bool}
    (first : act turn state = .ok (moved, next)) :
    execute act (turn :: history) state = execute act history next := by
  simp only [execute, first]

/-- Nobody finds the deadline passed. -/
def Prompt (history : List Turn) : Prop := ∀ turn ∈ history, turn.late = false

/-- How a worker's turn can go. `holds n` is true of states in which at most `n` items can still
move, `stopped` of states in which a worker has stopped, `patient` of states in which none has given
up. A worker that does not move anything starts no other again and stops itself when it is late. -/
inductive Goes (holds : Nat → σ → Prop) (stopped : Nat → σ → Prop) (patient : σ → Prop) (turn : Turn)
    (state : σ) (n : Nat) : Except Fault (Bool × σ) → Prop where
  | idles (idle : stopped turn.worker state) : Goes holds stopped patient turn state n
      (.ok (false, state))
  | waits {next : σ} (kept : holds n next)
      (stays : ∀ worker, stopped worker state → stopped worker next)
      (stops : turn.late = true → stopped turn.worker next)
      (waits : turn.late = false → patient state → patient next) :
      Goes holds stopped patient turn state n (.ok (false, next))
  | moves {next : σ} {fewer : Nat} (kept : holds fewer next) (less : fewer < n)
      (waits : turn.late = false → patient state → patient next) :
      Goes holds stopped patient turn state n (.ok (true, next))

/-- A machine of workers that comes to an end: no turn ends in a fault. -/
def Winding (act : Act σ) (holds : Nat → σ → Prop) (stopped : Nat → σ → Prop)
    (patient : σ → Prop) : Prop :=
  ∀ turn state n, holds n state → Goes holds stopped patient turn state n (act turn state)

namespace Winding

variable {holds : Nat → σ → Prop} {stopped : Nat → σ → Prop} {patient : σ → Prop} {n : Nat}
  {state : σ}

theorem step (winding : Winding act holds stopped patient) (turn : Turn) (initial : holds n state) :
    ∃ moved next fewer, act turn state = .ok (moved, next) ∧ holds fewer next ∧
      fewer + moved.toNat ≤ n ∧
      (moved = false → (∀ worker, stopped worker state → stopped worker next) ∧
        (turn.late = true → stopped turn.worker next)) ∧
      (turn.late = false → patient state → patient next) := by
  have goes := winding turn state n initial
  generalize act turn state = answer at goes ⊢
  cases goes with
  | idles idle =>
    exact ⟨false, state, n, rfl, initial, Nat.le_refl n, fun _ => ⟨fun _ => id, fun _ => idle⟩,
      fun _ => id⟩
  | waits kept stays stops waits =>
    exact ⟨false, _, n, rfl, kept, Nat.le_refl n, fun _ => ⟨stays, stops⟩, waits⟩
  | moves kept less waits => exact ⟨true, _, _, rfl, kept, less, nofun, waits⟩

theorem execute (winding : Winding act holds stopped patient) (history : List Turn)
    (initial : holds n state) :
    ∃ last fewer, execute act history state = .ok last ∧ holds fewer last ∧ fewer ≤ n ∧
      (Prompt history → patient state → patient last) := by
  induction history generalizing n state with
  | nil => exact ⟨state, n, rfl, initial, Nat.le_refl n, fun _ => id⟩
  | cons turn history ih =>
    obtain ⟨moved, next, fewer, first, kept, less, -, stay⟩ := winding.step turn initial
    obtain ⟨last, rest, others, final, lesser, patience⟩ := ih kept
    refine ⟨last, rest, (execute_cons first).trans others, final, by omega, fun early wait => ?_⟩
    obtain ⟨now, later⟩ := List.forall_mem_cons.mp early
    exact patience later (stay now wait)

/-- Where patient workers always find something to move until the end is reached, there is a history
up to the end in which nobody is late. -/
theorem exists_history (winding : Winding act holds stopped patient) {ended : σ → Prop}
    (progress : ∀ n state, holds n state → patient state → ended state ∨
      ∃ turn next, turn.late = false ∧ act turn state = .ok (true, next))
    (initial : holds n state) (wait : patient state) :
    ∃ history last, Prompt history ∧ RingQueue.execute act history state = .ok last ∧
      ended last := by
  induction n using Nat.strongRecOn generalizing state with
  | ind n ih =>
    rcases progress n state initial wait with ended | ⟨turn, next, early, ran⟩
    · exact ⟨[], state, nofun, rfl, ended⟩
    · obtain ⟨moved, after, fewer, ranToo, kept, less, -, stay⟩ := winding.step turn initial
      obtain ⟨rfl, rfl⟩ := Prod.mk.inj (Except.ok.inj (ran.symm.trans ranToo))
      obtain ⟨history, last, others, executed, final⟩ := ih fewer less kept (stay early wait)
      refine ⟨turn :: history, last, ?_, (execute_cons ran).trans executed, final⟩
      exact List.forall_mem_cons.mpr ⟨early, others⟩

/-- Where patient workers always find something to move, any beginning in time can be gone on with
in time. -/
theorem exists_end_in_time (winding : Winding act holds stopped patient) {ended : σ → Prop}
    (progress : ∀ n state, holds n state → patient state → ended state ∨
      ∃ turn next, turn.late = false ∧ act turn state = .ok (true, next))
    (initial : holds n state) (wait : patient state) {before : List Turn} (prompt : Prompt before) :
    ∃ after last, Prompt after ∧ RingQueue.execute act (before ++ after) state = .ok last ∧
      ended last := by
  obtain ⟨middle, _, begun, kept, -, patience⟩ := winding.execute before initial
  obtain ⟨after, last, inTime, executed, final⟩ :=
    winding.exists_history progress kept (patience prompt wait)
  exact ⟨after, last, inTime, (execute_append begun).trans executed, final⟩

/-- How many turns before that of `current` the latest turn of another worker was, when turns go
round. -/
def ago (workers current worker : Nat) : Nat :=
  if worker < current then current - 1 - worker else current + workers - 1 - worker

/-- What is known in the middle of a play. The turns in a row that moved nothing, beyond the first
round of them, were after the deadline, so the workers whose turns these were have stopped. -/
structure Midway (holds : Nat → σ → Prop) (stopped : Nat → σ → Prop) (workers limit n : Nat)
    (play : Play σ) : Prop where
  holds : holds n play.state
  worker : play.worker < workers ∨ workers = 0
  late : workers < play.still → limit ≤ play.clock
  stopped : ∀ worker < workers, ago workers play.worker worker < play.still - workers →
    stopped worker play.state

variable {workers limit : Nat}

theorem Midway.all_stopped {play : Play σ} (midway : Midway holds stopped workers limit n play)
    (enough : 2 * workers ≤ play.still) : ∀ worker < workers, stopped worker play.state := by
  intro worker inside
  apply midway.stopped worker inside
  have := midway.worker
  unfold ago
  split <;> omega

/-- A turn of a play is late once everyone has been still for a round. -/
theorem Midway.turn {play : Play σ} (midway : Midway holds stopped workers limit n play)
    {clock : Nat} (time : clock = if play.still = workers then max play.clock limit else play.clock)
    (still : workers ≤ play.still) : limit ≤ clock := by
  have := midway.late
  split at time <;> omega

theorem Midway.moved {play : Play σ} (midway : Midway holds stopped workers limit n play)
    {next : σ} {fewer : Nat} (holdsNext : holds fewer next) (clock moved : Nat) :
    Midway holds stopped workers limit fewer ⟨next, play.worker, 0, clock, moved⟩ where
  holds := holdsNext
  worker := midway.worker
  late := by
    intro impossible
    exact absurd impossible (Nat.not_lt_zero _)
  stopped := by
    intro worker _ impossible
    rw [Nat.zero_sub] at impossible
    exact absurd impossible (Nat.not_lt_zero _)

theorem Midway.stood {play : Play σ} (midway : Midway holds stopped workers limit n play)
    (going : ¬2 * workers ≤ play.still) {clock : Nat}
    (time : clock = if play.still = workers then max play.clock limit else play.clock)
    {next : σ} {fewer : Nat} (holdsNext : holds fewer next)
    (stays : ∀ worker, stopped worker play.state → stopped worker next)
    (stops : limit ≤ clock → stopped play.worker next) :
    Midway holds stopped workers limit fewer ⟨next,
      if play.worker + 1 < workers then play.worker + 1 else 0, play.still + 1, clock + 1,
      play.moved⟩ where
  holds := holdsNext
  worker := by
    have := midway.worker
    dsimp only
    split <;> omega
  late := by
    intro still
    have := midway.turn time (Nat.le_of_lt_succ still)
    exact Nat.le_succ_of_le this
  stopped := by
    intro worker inside recent
    dsimp only at recent
    by_cases same : worker = play.worker
    · rw [same]
      apply stops
      apply midway.turn time
      omega
    · apply stays
      apply midway.stopped worker inside
      have := midway.worker
      unfold ago at recent ⊢
      split at recent <;> split at recent <;> split <;> omega

/-- A play runs to its end within its bound: each turn either moves an item, of which there are only
so many, or is one more of at most two rounds of turns that move nothing. -/
theorem run_ends (winding : Winding act holds stopped patient) {bound : Nat} {play : Play σ}
    (midway : Midway holds stopped workers limit n play)
    (enough : n * (2 * workers + 1) + (2 * workers - play.still) < bound) :
    ∃ history last, Play.run act workers limit bound play = .ok last ∧
      RingQueue.execute act history play.state = .ok last.state ∧ (∃ rest, holds rest last.state) ∧
      ∀ worker < workers, stopped worker last.state := by
  induction bound generalizing n play with
  | zero => exact absurd enough (Nat.not_lt_zero _)
  | succ bound ih =>
    rw [Play.run]
    by_cases ended : 2 * workers ≤ play.still
    · rw [if_pos ended]
      exact ⟨[], play, rfl, rfl, ⟨n, midway.holds⟩, midway.all_stopped ended⟩
    rw [if_neg ended]
    generalize time : (if play.still = workers then max play.clock limit else play.clock) = clock
    obtain ⟨moved, next, fewer, ran, kept, less, quiet, -⟩ := winding.step
      { worker := play.worker, late := limit ≤ clock } midway.holds
    cases moved with
    | true =>
      have shorter : fewer * (2 * workers + 1) + (2 * workers + 1) ≤ n * (2 * workers + 1) := by
        rw [← Nat.succ_mul]
        exact Nat.mul_le_mul_right _ less
      obtain ⟨history, last, played, executed, final⟩ :=
        ih (midway.moved kept (clock + 1) (clock + 1)) (by dsimp only; omega)
      refine ⟨_ :: history, last, ?_, (execute_cons ran).trans executed, final⟩
      simp only [ran, played]
    | false =>
      have fits : fewer * (2 * workers + 1) ≤ n * (2 * workers + 1) :=
        Nat.mul_le_mul_right _ less
      obtain ⟨stays, stops⟩ := quiet rfl
      obtain ⟨history, last, played, executed, final⟩ :=
        ih (midway.stood ended time.symm kept stays fun late => stops (decide_eq_true late))
          (by dsimp only; omega)
      refine ⟨_ :: history, last, ?_, (execute_cons ran).trans executed, final⟩
      simp only [ran, played]

/-- What is played is a history after which every worker has stopped. -/
theorem play_ends (winding : Winding act holds stopped patient) (workers limit : Nat)
    (initial : holds n state) :
    ∃ history last, play act workers limit n state = .ok last ∧
      RingQueue.execute act history state = .ok last.state ∧ (∃ rest, holds rest last.state) ∧
      ∀ worker < workers, stopped worker last.state := by
  have midway : Midway holds stopped workers limit n ⟨state, 0, 0, 0, 0⟩ := by
    refine ⟨initial, Nat.eq_zero_or_pos workers |>.symm, ?_, ?_⟩
    · intro impossible
      exact absurd impossible (Nat.not_lt_zero _)
    · intro worker _ impossible
      rw [Nat.zero_sub] at impossible
      exact absurd impossible (Nat.not_lt_zero _)
  apply run_ends winding midway
  have rounds := Nat.add_mul n 1 (2 * workers + 1)
  dsimp only
  omega

/-- Any beginning of a history can be gone on with until all have stopped: once everyone is late,
nobody waits. -/
theorem exists_end (winding : Winding act holds stopped patient) (initial : holds n state)
    (workers : Nat) (before : List Turn) :
    ∃ after last rest, RingQueue.execute act (before ++ after) state = .ok last ∧
      holds rest last ∧ ∀ worker < workers, stopped worker last := by
  obtain ⟨middle, _, begun, kept, -, -⟩ := winding.execute before initial
  obtain ⟨after, play, -, executed, ⟨rest, final⟩, all⟩ :=
    winding.play_ends workers 0 kept
  exact ⟨after, play.state, rest, (execute_append begun).trans executed, final, all⟩

end Winding
end RingQueue
