import RingQueue.Proofs.Stress.Race
import RingQueue.Proofs.Stress.Relay
import RingQueue.Settings.Validate

/-! What comes of a run: which runs are refused, and what the report says of all others, in whatever
order the workers take their turns. -/
namespace RingQueue

open RingQueue.Queue

variable {stress : Stress}

/-- The dimensions that a run can have. -/
@[mk_iff]
structure Stress.Runnable (stress : Stress) : Prop where
  items : stress.producers.toNat * stress.itemsPerProducer.toNat ≤ 2 ^ 32
  capacity : stress.capacity ∈ Stress.supportedCapacities

namespace Stress

theorem totalItems?_eq_none_iff : stress.totalItems? = none ↔
    2 ^ 32 < stress.producers.toNat * stress.itemsPerProducer.toNat := by
  rw [totalItems?, maxItems, Nat.mul_comm]
  split <;> simp <;> omega

theorem refusal?_of_tooMany
    (many : 2 ^ 32 < stress.producers.toNat * stress.itemsPerProducer.toNat) :
    stress.refusal? = some (.tooManyItems stress.producers stress.itemsPerProducer) := by
  rw [refusal?, if_pos (totalItems?_eq_none_iff.mpr many)]

theorem refusal?_of_unsupported
    (few : stress.producers.toNat * stress.itemsPerProducer.toNat ≤ 2 ^ 32)
    (unsupported : stress.capacity ∉ supportedCapacities) :
    stress.refusal? = some (.unsupportedCapacity stress.capacity) := by
  rw [refusal?, if_neg (by rw [totalItems?_eq_none_iff]; omega), if_pos unsupported]

theorem refusal?_eq_none_iff : stress.refusal? = none ↔ stress.Runnable := by
  constructor
  · intro admitted
    rw [refusal?] at admitted
    split_ifs at admitted with many supported
    exact ⟨Nat.le_of_not_lt (mt totalItems?_eq_none_iff.mpr many), supported⟩
  · rintro ⟨few, supported⟩
    rw [refusal?, if_neg (by rw [totalItems?_eq_none_iff]; omega),
      if_neg (not_not.mpr supported)]

/-- Every rule that a run needs is one that settings are checked for. -/
theorem runnable_of_valid (valid : stress.invalid? = none) : stress.Runnable := by
  rw [invalid?] at valid
  split_ifs at valid with producers consumers none many supported
  exact ⟨Nat.le_of_not_lt (mt totalItems?_eq_none_iff.mpr many), supported⟩

namespace Runnable

theorem admitted (runnable : stress.Runnable) : Mpmc.Admitted stress.capacity := by
  have one_of := runnable.capacity
  simp only [supportedCapacities, List.mem_cons, List.not_mem_nil, or_false] at one_of
  rcases one_of with two | four | small | middle | large
  · exact ⟨1, by decide, by decide, by rw [two]; rfl⟩
  · exact ⟨2, by decide, by decide, by rw [four]; rfl⟩
  · exact ⟨6, by decide, by decide, by rw [small]; rfl⟩
  · exact ⟨10, by decide, by decide, by rw [middle]; rfl⟩
  · exact ⟨16, by decide, by decide, by rw [large]; rfl⟩

/-- The number of items is a word, and the word is the exact number. -/
theorem toNat_total (runnable : stress.Runnable) :
    (stress.itemsPerProducer * stress.producers).toNat =
      stress.producers.toNat * stress.itemsPerProducer.toNat := by
  have few := runnable.items
  rw [Nat.mul_comm] at few
  rw [UInt64.toNat_mul, Nat.mod_eq_of_lt (by omega), Nat.mul_comm]

end Runnable
end Stress

theorem Settings.runnable (settings : Settings) (valid : settings.invalid? = none) :
    settings.stress.Runnable := by
  rw [invalid?] at valid
  split_ifs at valid
  exact Stress.runnable_of_valid valid

namespace Scenario

/-- How many items a run is about. -/
def items : Scenario → Stress → Nat
  | spsc, stress => stress.itemsPerProducer.toNat
  | mpmc, stress => stress.producers.toNat * stress.itemsPerProducer.toNat

/-- The numbers of producers and consumers. -/
def workers : Scenario → Stress → UInt64 × UInt64
  | spsc, _ => (1, 1)
  | mpmc, stress => (stress.producers, stress.consumers)

/-- What a report says about the order of all items and about that of each producer's items when
none came out of order. -/
def orderKept : Scenario → Option Bool × Option Bool
  | spsc => (some true, none)
  | mpmc => (none, some true)

end Scenario

/-- What is reported after `history` when `turns` turns are counted. Nothing is before both workers
have stopped. -/
def Relay.reportAfter (stress : Stress) (history : List Turn) (turns : Nat) :
    Except Fault (Option Report) := do
  let items := stress.itemsPerProducer
  let relay ← execute (act items) history (start : Relay stress.capacity)
  if relay.finished items then return some (relay.report items turns) else return none

/-- What is reported after `history` when `turns` turns are counted. Nothing is before all workers
have stopped. -/
def Race.reportAfter (stress : Stress) (history : List Turn) (turns : Nat) :
    Except Fault (Option Report) := do
  let items := stress.itemsPerProducer
  let total := items * stress.producers
  let race ← execute (act stress.producers items total) history
    (start stress.producers stress.consumers : Race stress.capacity)
  if race.finished items total then return some (← race.report stress total turns) else return none

def Scenario.reportAfter : Scenario → Stress → List Turn → Nat → Except Fault (Option Report)
  | spsc => Relay.reportAfter
  | mpmc => Race.reportAfter

/-- After `history` each producer has sent everything or is blocked by a full queue. -/
def Race.SettledAfter (stress : Stress) (history : List Turn) : Prop :=
  ∃ race : Race stress.capacity,
    execute (act stress.producers stress.itemsPerProducer
      (stress.itemsPerProducer * stress.producers)) history
      (.start stress.producers stress.consumers) = .ok race ∧
    race.Settled stress.itemsPerProducer

/-- All items were sent and received, in time, and no check failed. -/
structure Report.Complete (scenario : Scenario) (stress : Stress) (report : Report) : Prop where
  workers : (report.producers, report.consumers) = scenario.workers stress
  sent : report.itemsSent.toNat = scenario.items stress
  received : report.itemsReceived.toNat = scenario.items stress
  order : (report.fifo, report.producerOrder) = scenario.orderKept
  exactlyOnce : report.exactlyOnce = true
  inTime : report.timedOut = false
  passed : report.passed = true

/-- Nothing was received, and only what the queue holds was sent. -/
structure Report.Unattended (stress : Stress) (report : Report) : Prop where
  sent : report.itemsSent.toNat = min stress.capacity.toNat (Scenario.mpmc.items stress)
  received : report.itemsReceived = 0
  order : report.producerOrder = some true
  timedOut : report.timedOut = true ↔ 0 < Scenario.mpmc.items stress
  exactlyOnce : report.exactlyOnce = true ↔ Scenario.mpmc.items stress = 0
  passed : report.passed = true ↔ Scenario.mpmc.items stress = 0

/-- What the turns of the workers can lead to in a run that is not refused. -/
structure Scenario.Outcomes (scenario : Scenario) (stress : Stress) : Prop where
  /-- What is reported is what is reported after one history of turns. -/
  played : ∃ history turns report, scenario.reportAfter stress history turns = .ok (some report) ∧
    scenario.run stress = .reported report
  /-- No history ends in a fault. -/
  safe : ∀ history turns, ∃ report, scenario.reportAfter stress history turns = .ok report
  /-- No history keeps the workers from coming to an end. -/
  ends : ∀ before turns, ∃ after report,
    scenario.reportAfter stress (before ++ after) turns = .ok (some report)
  /-- Where there is a consumer, the end can also be reached in time. -/
  endsInTime : 0 < (scenario.workers stress).2.toNat → ∀ before turns, Prompt before →
    ∃ after report, Prompt after ∧
      scenario.reportAfter stress (before ++ after) turns = .ok (some report)
  complete : 0 < (scenario.workers stress).2.toNat → ∀ history turns report, Prompt history →
    scenario.reportAfter stress history turns = .ok (some report) →
    report.Complete scenario stress
  /-- The producers alone come to a halt in time. -/
  settles : scenario = .mpmc → ∃ before, Prompt before ∧ Race.SettledAfter stress before
  /-- Without consumers, what follows after the producers have come to a halt changes nothing. -/
  unattended : scenario = .mpmc → stress.consumers = 0 → ∀ before after turns report,
    Race.SettledAfter stress before →
    scenario.reportAfter stress (before ++ after) turns = .ok (some report) →
    report.Unattended stress

theorem Report.passed_eq (scenario : Scenario) {report : Report}
    (order : (report.fifo, report.producerOrder) = scenario.orderKept) :
    report.passed = (!report.timedOut && report.exactlyOnce) := by
  obtain ⟨fifo, producerOrder⟩ := Prod.mk.inj order
  rw [passed, fifo, producerOrder]
  cases scenario <;> simp

/-! ### One producer and one consumer -/
namespace Relay

variable {history before : List Turn} {turns : Nat} {report : Report}

theorem reportAfter_of_executed {relay : Relay stress.capacity}
    (executed : execute (act stress.itemsPerProducer) history start = .ok relay) :
    reportAfter stress history turns = .ok (if relay.finished stress.itemsPerProducer then
      some (relay.report stress.itemsPerProducer turns) else none) := by
  simp only [reportAfter, executed, bind, Except.bind, pure, Except.pure]
  split <;> rfl

theorem exists_account (stress : Stress) (history : List Turn) :
    ∃ (relay : Relay stress.capacity) (received stored : Nat),
      execute (act stress.itemsPerProducer) history start = .ok relay ∧
      relay.Account stress.itemsPerProducer received stored ∧ (Prompt history → relay.Patient) := by
  obtain ⟨relay, _, executed, ⟨received, stored, account, -⟩, -, patience⟩ :=
    (winding stress.itemsPerProducer).execute history
      (left_start stress.itemsPerProducer : (start : Relay stress.capacity).Left _ _)
  exact ⟨relay, received, stored, executed, account, fun prompt => patience prompt patient_start⟩

theorem run_eq (stress : Stress) : ∃ history turns report,
    reportAfter stress history turns = .ok (some report) ∧ Relay.run stress = .ok report := by
  obtain ⟨history, play, played, executed, -, all⟩ :=
    (winding stress.itemsPerProducer).play_ends 2 stress.turnLimit
      (left_start stress.itemsPerProducer : (start : Relay stress.capacity).Left _ _)
  refine ⟨history, play.moved, play.state.report stress.itemsPerProducer play.moved, ?_, ?_⟩
  · rw [reportAfter_of_executed executed, if_pos (finished_of_stopped all)]
  · simp only [Relay.run, played, bind, Except.bind, pure, Except.pure]

theorem ends (before : List Turn) (turns : Nat) : ∃ after report,
    reportAfter stress (before ++ after) turns = .ok (some report) := by
  obtain ⟨after, relay, _, executed, -, all⟩ :=
    (winding stress.itemsPerProducer).exists_end
      (left_start stress.itemsPerProducer : (start : Relay stress.capacity).Left _ _) 2 before
  refine ⟨after, relay.report stress.itemsPerProducer turns, ?_⟩
  rw [reportAfter_of_executed executed, if_pos (finished_of_stopped all)]

theorem ends_in_time (room : 0 < stress.capacity.toNat) (prompt : Prompt before) (turns : Nat) :
    ∃ after report, Prompt after ∧
      reportAfter stress (before ++ after) turns = .ok (some report) := by
  obtain ⟨after, relay, inTime, executed, finished⟩ :=
    (winding stress.itemsPerProducer).exists_end_in_time (fun _ _ => progress room)
      (left_start stress.itemsPerProducer) patient_start prompt
  refine ⟨after, relay.report stress.itemsPerProducer turns, inTime, ?_⟩
  rw [reportAfter_of_executed executed, if_pos finished]

theorem complete (prompt : Prompt history)
    (reported : reportAfter stress history turns = .ok (some report)) :
    report.Complete .spsc stress := by
  obtain ⟨relay, received, stored, executed, account, patience⟩ := exists_account stress history
  rw [reportAfter_of_executed executed] at reported
  split at reported
  · rename_i finished
    obtain rfl := Option.some.inj (Except.ok.inj reported)
    obtain ⟨sent, taken, inOrder⟩ := account.complete (patience prompt) finished
    have once : (relay.report stress.itemsPerProducer turns).exactlyOnce = true := by
      simp [Relay.report, sent, taken, inOrder]
    have inTime : (relay.report stress.itemsPerProducer turns).timedOut = false := by
      simp [Relay.report, sent, taken]
    have order : ((relay.report stress.itemsPerProducer turns).fifo,
        (relay.report stress.itemsPerProducer turns).producerOrder) = Scenario.spsc.orderKept := by
      rw [Relay.report, inOrder]
      rfl
    exact ⟨rfl, congrArg UInt64.toNat sent, congrArg UInt64.toNat taken, order, once, inTime,
      by rw [Report.passed_eq .spsc order, once, inTime]; rfl⟩
  · cases reported

end Relay

/-! ### Many producers and consumers -/
namespace Race

section Runs

variable {history before after : List Turn} {turns : Nat} {report : Report}
variable (runnable : stress.Runnable)
include runnable

/-- A race with the dimensions of the settings is one that winds down. -/
theorem winding_stress : Winding
    (act stress.producers stress.itemsPerProducer (stress.itemsPerProducer * stress.producers) :
      Act (Race stress.capacity))
    (Left stress.producers stress.consumers stress.itemsPerProducer
      (stress.itemsPerProducer * stress.producers))
    (Stopped stress.producers stress.itemsPerProducer (stress.itemsPerProducer * stress.producers))
    Patient :=
  winding runnable.admitted runnable.toNat_total stress.consumers

theorem left_start_stress : (start stress.producers stress.consumers : Race stress.capacity).Left
    stress.producers stress.consumers stress.itemsPerProducer
    (stress.itemsPerProducer * stress.producers)
    (2 * (stress.itemsPerProducer * stress.producers).toNat) :=
  left_start runnable.admitted ..

theorem reportAfter_of_executed {race : Race stress.capacity} {left stored : List UInt64}
    (executed : execute (act stress.producers stress.itemsPerProducer
      (stress.itemsPerProducer * stress.producers)) history
      (start stress.producers stress.consumers) = .ok race)
    (account : race.Account stress.producers stress.consumers stress.itemsPerProducer left stored)
    (turns : Nat) : ∃ report,
      race.report stress (stress.itemsPerProducer * stress.producers) turns = .ok report ∧
      Tells stress (left ++ stored).length left.length report ∧
      reportAfter stress history turns =
        .ok (if race.finished stress.itemsPerProducer (stress.itemsPerProducer * stress.producers)
          then some report else none) := by
  obtain ⟨report, reported, tells⟩ := account.report runnable.toNat_total turns
  refine ⟨report, reported, tells, ?_⟩
  simp only [reportAfter, executed, reported, bind, Except.bind, pure, Except.pure]
  split <;> rfl

theorem exists_account (history : List Turn) :
    ∃ (race : Race stress.capacity) (left stored : List UInt64),
      execute (act stress.producers stress.itemsPerProducer
        (stress.itemsPerProducer * stress.producers)) history
        (start stress.producers stress.consumers) = .ok race ∧
      race.Account stress.producers stress.consumers stress.itemsPerProducer left stored ∧
      (Prompt history → race.Patient) := by
  obtain ⟨race, _, executed, ⟨left, stored, account, -⟩, -, patience⟩ :=
    (winding_stress runnable).execute history (left_start_stress runnable)
  exact ⟨race, left, stored, executed, account, fun prompt => patience prompt patient_start⟩

theorem run_eq : ∃ history turns report,
    reportAfter stress history turns = .ok (some report) ∧ Race.run stress = .ok report := by
  have product : Exact.mul stress.itemsPerProducer stress.producers =
      .ok (stress.itemsPerProducer * stress.producers) := by
    have few := runnable.items
    rw [Nat.mul_comm] at few
    rw [Exact.mul, if_pos (by omega)]
  obtain ⟨history, play, played, executed, ⟨_, left, stored, account, -⟩, all⟩ :=
    (winding_stress runnable).play_ends (stress.producers.toNat + stress.consumers.toNat)
      stress.turnLimit (left_start_stress runnable)
  obtain ⟨report, made, -, reported⟩ :=
    reportAfter_of_executed runnable executed account play.moved
  rw [if_pos (account.finished_of_stopped all)] at reported
  refine ⟨history, play.moved, report, reported, ?_⟩
  simp only [Race.run, product, played, made, bind, Except.bind]

theorem safe (history : List Turn) (turns : Nat) : ∃ report,
    reportAfter stress history turns = .ok report := by
  obtain ⟨race, left, stored, executed, account, -⟩ := exists_account runnable history
  obtain ⟨report, -, -, reported⟩ := reportAfter_of_executed runnable executed account turns
  exact ⟨_, reported⟩

theorem ends (before : List Turn) (turns : Nat) : ∃ after report,
    reportAfter stress (before ++ after) turns = .ok (some report) := by
  obtain ⟨after, race, _, executed, ⟨left, stored, account, -⟩, all⟩ :=
    (winding_stress runnable).exists_end (left_start_stress runnable)
      (stress.producers.toNat + stress.consumers.toNat) before
  obtain ⟨report, -, -, reported⟩ := reportAfter_of_executed runnable executed account turns
  rw [if_pos (account.finished_of_stopped all)] at reported
  exact ⟨after, report, reported⟩

theorem ends_in_time (consuming : 0 < stress.consumers.toNat) (prompt : Prompt before) (turns : Nat) :
    ∃ after report, Prompt after ∧
      reportAfter stress (before ++ after) turns = .ok (some report) := by
  obtain ⟨after, race, inTime, executed, finished⟩ :=
    (winding_stress runnable).exists_end_in_time
      (fun _ _ => progress runnable.admitted runnable.toNat_total consuming)
      (left_start_stress runnable) patient_start prompt
  obtain ⟨_, left, stored, executedToo, account, -⟩ := exists_account runnable (before ++ after)
  obtain rfl := Except.ok.inj (executed.symm.trans executedToo)
  obtain ⟨report, -, -, reported⟩ := reportAfter_of_executed runnable executed account turns
  rw [if_pos finished] at reported
  exact ⟨after, report, inTime, reported⟩

theorem complete (consuming : 0 < stress.consumers.toNat) (prompt : Prompt history)
    (reported : reportAfter stress history turns = .ok (some report)) :
    report.Complete .mpmc stress := by
  obtain ⟨race, left, stored, executed, account, patience⟩ := exists_account runnable history
  obtain ⟨made, -, tells, reportedToo⟩ := reportAfter_of_executed runnable executed account turns
  rw [reported] at reportedToo
  split at reportedToo
  · rename_i finished
    obtain rfl := Option.some.inj (Except.ok.inj reportedToo)
    obtain ⟨all, entered⟩ :=
      account.complete runnable.toNat_total consuming (patience prompt) finished
    rw [runnable.toNat_total] at all entered
    have once := tells.exactlyOnce.mpr all
    have inTime := tells.timedOut.mpr all
    exact ⟨tells.workers, tells.sent.trans entered, tells.received.trans all, tells.order, once,
      inTime, by rw [Report.passed_eq .mpmc tells.order, once, inTime]; rfl⟩
  · cases reportedToo

theorem settles : ∃ before, Prompt before ∧ SettledAfter stress before := by
  obtain ⟨before, race, prompt, executed, settled⟩ :=
    (winding_stress runnable).exists_history
      (fun _ _ => settle runnable.admitted runnable.toNat_total) (left_start_stress runnable)
      patient_start
  exact ⟨before, prompt, race, executed, settled⟩

/-- What has gone into the queue by the time the producers are at a halt is still in it at the end,
and nothing is added. -/
theorem unattended (nobody : stress.consumers = 0) (settledAfter : SettledAfter stress before)
    (reported : reportAfter stress (before ++ after) turns = .ok (some report)) :
    report.Unattended stress := by
  obtain ⟨middle, begun, settled⟩ := settledAfter
  obtain ⟨_, _, begunToo, ⟨left, stored, account, rfl⟩, -, -⟩ :=
    (winding_stress runnable).execute before (left_start_stress runnable)
  obtain rfl := Except.ok.inj (begun.symm.trans begunToo)
  obtain ⟨race, _, went, ⟨gone, kept, final, rfl⟩, fewer, -⟩ :=
    (winding_stress runnable).execute after ⟨left, stored, account, rfl⟩
  obtain ⟨made, -, tells, reportedToo⟩ :=
    reportAfter_of_executed runnable ((execute_append begun).trans went) final turns
  rw [reported] at reportedToo
  split at reportedToo
  · rename_i finished
    obtain rfl := Option.some.inj (Except.ok.inj reportedToo)
    rw [nobody] at account final
    obtain rfl := account.left_eq_nil
    obtain rfl := final.left_eq_nil
    have held := account.length_of_settled runnable.admitted runnable.toNat_total settled
    have room := final.queue.length_le
    have entered := final.deliveries.length_le runnable.toNat_total
    have late : report.timedOut = true ↔ 0 < Scenario.mpmc.items stress := by
      rw [← Bool.not_eq_false, tells.timedOut, Scenario.items, List.length_nil]
      omega
    have whole : report.exactlyOnce = true ↔ Scenario.mpmc.items stress = 0 :=
      tells.exactlyOnce.trans eq_comm
    refine ⟨?_, UInt64.toNat_inj.mp tells.received, (Prod.mk.inj tells.order).2, late, whole, ?_⟩
    · rw [tells.sent, Scenario.items, ← runnable.toNat_total, List.nil_append]
      rw [List.nil_append] at entered fewer
      rw [List.nil_append, List.length_nil] at fewer
      omega
    · rw [Report.passed_eq .mpmc tells.order, Bool.and_eq_true, whole,
        Bool.not_eq_true', ← Bool.not_eq_true, late]
      omega
  · cases reportedToo

end Runs
end Race

/-! ### Either -/

theorem Scenario.outcomes (scenario : Scenario) (runnable : stress.Runnable) :
    scenario.Outcomes stress := by
  have admitted := Stress.refusal?_eq_none_iff.mpr runnable
  cases scenario with
  | spsc =>
    have room := runnable.admitted.bounds.1
    constructor
    · obtain ⟨history, turns, report, reported, ran⟩ := Relay.run_eq stress
      refine ⟨history, turns, report, reported, ?_⟩
      simp only [Scenario.run, admitted, ran]
    · intro history turns
      obtain ⟨relay, _, _, executed, -⟩ := Relay.exists_account stress history
      exact ⟨_, Relay.reportAfter_of_executed executed⟩
    · exact Relay.ends
    · exact fun _ _ turns prompt => Relay.ends_in_time (by omega) prompt turns
    · exact fun _ _ _ _ prompt reported => Relay.complete prompt reported
    · nofun
    · nofun
  | mpmc =>
    constructor
    · obtain ⟨history, turns, report, reported, ran⟩ := Race.run_eq runnable
      refine ⟨history, turns, report, reported, ?_⟩
      simp only [Scenario.run, admitted, ran]
    · exact Race.safe runnable
    · exact Race.ends runnable
    · exact fun consuming _ turns prompt => Race.ends_in_time runnable consuming prompt turns
    · exact fun consuming _ _ _ prompt reported =>
        Race.complete runnable consuming prompt reported
    · exact fun _ => Race.settles runnable
    · exact fun _ nobody _ _ _ _ settled reported =>
        Race.unattended runnable nobody settled reported

theorem Scenario.run_eq_refused_iff (scenario : Scenario) {refusal : Refusal} :
    scenario.run stress = .refused refusal ↔ stress.refusal? = some refusal := by
  cases why : stress.refusal? with
  | none =>
    obtain ⟨_, _, report, -, ran⟩ := (outcomes scenario (Stress.refusal?_eq_none_iff.mp why)).played
    simp [ran]
  | some reason => simp only [run, why, RunOutcome.refused.injEq, Option.some.injEq]

/-- A run is refused for its number of items or else for its capacity, and settings that pass their
check are never refused. All other runs are played, and as long as nobody is late the order of the
turns is of no consequence. -/
theorem Scenario.refused_or_outcomes (scenario : Scenario) (stress : Stress) :
    ((∃ refusal, scenario.run stress = .refused refusal) ↔
      2 ^ 32 < stress.producers.toNat * stress.itemsPerProducer.toNat ∨
        stress.capacity ∉ [2, 4, 64, 1024, 65536]) ∧
    (2 ^ 32 < stress.producers.toNat * stress.itemsPerProducer.toNat →
      scenario.run stress =
        .refused (.tooManyItems stress.producers stress.itemsPerProducer)) ∧
    (stress.producers.toNat * stress.itemsPerProducer.toNat ≤ 2 ^ 32 →
      stress.capacity ∉ [2, 4, 64, 1024, 65536] →
      scenario.run stress = .refused (.unsupportedCapacity stress.capacity)) ∧
    (∀ settings : Settings, settings.invalid? = none →
      ∀ refusal, scenario.run settings.stress ≠ .refused refusal) ∧
    ((∀ refusal, scenario.run stress ≠ .refused refusal) → scenario.Outcomes stress) := by
  refine ⟨?_, ?_, ?_, ?_, ?_⟩
  · simp only [scenario.run_eq_refused_iff]
    rw [← Option.ne_none_iff_exists', Ne, Stress.refusal?_eq_none_iff, Stress.runnable_iff,
      not_and_or, Nat.not_le]
    rfl
  · intro many
    exact scenario.run_eq_refused_iff.mpr (Stress.refusal?_of_tooMany many)
  · intro few unsupported
    exact scenario.run_eq_refused_iff.mpr (Stress.refusal?_of_unsupported few unsupported)
  · intro settings valid refusal
    rw [Ne, scenario.run_eq_refused_iff, Stress.refusal?_eq_none_iff.mpr (settings.runnable valid)]
    nofun
  · intro admitted
    apply scenario.outcomes
    rw [← Stress.refusal?_eq_none_iff, Option.eq_none_iff_forall_ne_some]
    intro refusal why
    exact admitted refusal (scenario.run_eq_refused_iff.mpr why)

end RingQueue
