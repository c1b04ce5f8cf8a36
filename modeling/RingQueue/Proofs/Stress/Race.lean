import RingQueue.Proofs.Queue.MpmcHistory
import RingQueue.Proofs.Stress.Deliveries
import RingQueue.Proofs.Stress.Schedule
import RingQueue.Stress.Run

/-! A run with any number of producers and consumers, whatever the order of their turns and however
old a consumer's reading of the counter. The account of a race is what has left the queue and what
stands in it; the values that went in are a merge of the producers' sequences, and those that came
out are shared out to the consumers. -/
namespace RingQueue.Race

open RingQueue.Queue

variable {capacity producers consumers items total : UInt64} {race : Race capacity}
  {left stored : List UInt64}

def sentBy (senders : Array Sender) (id : Nat) : Nat :=
  (senders[id]?.map fun sender => sender.sent.toNat).getD 0

theorem sentBy_of_getElem? {senders : Array Sender} {id : Nat} {sender : Sender}
    (found : senders[id]? = some sender) : sentBy senders id = sender.sent.toNat := by
  rw [sentBy, found]
  rfl

theorem sentBy_set {senders : Array Sender} {id : Nat} (inside : id < senders.size)
    (sender : Sender) (other : Nat) : sentBy (senders.set! id sender) other =
      if other = id then sender.sent.toNat else sentBy senders other := by
  rw [sentBy, Array.set!_eq_setIfInBounds]
  by_cases same : other = id
  · subst other
    rw [Array.getElem?_setIfInBounds_self_of_lt inside, if_pos rfl]
    rfl
  · rw [Array.getElem?_setIfInBounds_ne (Ne.symm same), if_neg same, sentBy]

theorem batches_getElem? {id : Nat} {receiver : Receiver}
    (found : race.receivers[id]? = some receiver) :
    race.batches[id]? = some receiver.taken.reverse := by
  simp [batches, found]

theorem batches_set (race : Race capacity) (id : Nat) (receiver : Receiver)
    (queue : Mpmc UInt64 capacity) (consumed : UInt64) :
    (⟨queue, consumed, race.senders, race.receivers.set! id receiver⟩ : Race capacity).batches =
      race.batches.set id receiver.taken.reverse := by
  simp [batches, Array.set!_eq_setIfInBounds, List.map_set]

/-- `left` has left the queue and `stored` stands in it. -/
structure Account (producers consumers items : UInt64) (race : Race capacity)
    (left stored : List UInt64) : Prop where
  queue : race.queue.Account left.length stored
  senders : race.senders.size = producers.toNat
  receivers : race.receivers.size = consumers.toNat
  deliveries :
    Deliveries producers items (sentBy race.senders) (left ++ stored) left race.batches
  consumed : race.consumed.toNat = left.length

theorem account_start (admitted : Mpmc.Admitted capacity) (producers consumers items : UInt64) :
    (start producers consumers : Race capacity).Account producers consumers items [] [] where
  queue := Mpmc.account_startingAt admitted 0
  senders := Array.size_replicate
  receivers := Array.size_replicate
  deliveries := by
    have none (id : Nat) : sentBy (.replicate producers.toNat {}) id = 0 := by
      rw [sentBy, Array.getElem?_replicate]
      split <;> rfl
    constructor
    · intro id _
      exact (none id).symm ▸ Nat.zero_le _
    · have empty : ((List.range producers.toNat).map fun id =>
          valuesOf producers id (sentBy (.replicate producers.toNat {}) id)) =
          .replicate producers.toNat [] := by
        rw [List.eq_replicate_iff]
        simp [none, valuesOf]
      rw [start, empty]
      exact .nil _
    · exact List.Sublist.refl []
    · have empty : (start producers consumers : Race capacity).batches =
          .replicate consumers.toNat [] := by
        simp [batches, start]
      rw [empty]
      exact .nil _
  consumed := rfl

def SenderStopped (items : UInt64) (id : Nat) (race : Race capacity) : Prop :=
  ∀ sender, race.senders[id]? = some sender → sender.gaveUp = true ∨ sender.sent = items

def ReceiverStopped (total : UInt64) (id : Nat) (race : Race capacity) : Prop :=
  ∀ receiver, race.receivers[id]? = some receiver → receiver.gaveUp = true ∨ total ≤ race.consumed

/-- A worker has stopped that has given up or has no part to do any more. -/
def Stopped (producers items total : UInt64) (worker : Nat) (race : Race capacity) : Prop :=
  if worker < producers.toNat then SenderStopped items worker race
  else ReceiverStopped total (worker - producers.toNat) race

/-- Nobody has given up. -/
def Patient (race : Race capacity) : Prop :=
  (∀ sender ∈ race.senders, sender.gaveUp = false) ∧
    ∀ receiver ∈ race.receivers, receiver.gaveUp = false

theorem mem_or_eq_of_mem_set {β : Type} {entries : Array β} {place : Nat} {entry other : β}
    (member : other ∈ entries.set! place entry) : other ∈ entries ∨ other = entry := by
  rw [Array.set!_eq_setIfInBounds] at member
  exact Array.mem_or_eq_of_mem_setIfInBounds member

theorem finished_iff : race.finished items total = true ↔
    (∀ sender ∈ race.senders, sender.gaveUp = true ∨ sender.sent = items) ∧
      ∀ receiver ∈ race.receivers, receiver.gaveUp = true ∨ total ≤ race.consumed := by
  simp only [finished, Bool.and_eq_true, Array.all_eq_true_iff_forall_mem, Bool.or_eq_true,
    decide_eq_true_eq]

theorem sent_eq (senders : Array Sender) : senders.foldl (fun sum sender => sum + sender.sent) 0 =
    UInt64.ofNat (senders.toList.map fun sender => sender.sent.toNat).sum := by
  have general (list : List Sender) (sum : Nat) :
      list.foldl (fun sum sender => sum + sender.sent) (UInt64.ofNat sum) =
        UInt64.ofNat (sum + (list.map fun sender => sender.sent.toNat).sum) := by
    induction list generalizing sum with
    | nil => rfl
    | cons sender list ih =>
      have next : UInt64.ofNat sum + sender.sent = .ofNat (sum + sender.sent.toNat) := by
        rw [UInt64.ofNat_add, UInt64.ofNat_toNat]
      rw [List.foldl_cons, next, ih, List.map_cons, List.sum_cons, Nat.add_assoc]
  rw [← Array.foldl_toList]
  exact (general senders.toList 0).trans (by rw [Nat.zero_add])

theorem patient_start : (start producers consumers : Race capacity).Patient := by
  constructor
  · intro sender member
    rw [(Array.mem_replicate.mp member).2]
  · intro receiver member
    rw [(Array.mem_replicate.mp member).2]

namespace Account

theorem finished_of_stopped (account : race.Account producers consumers items left stored)
    (all : ∀ worker < producers.toNat + consumers.toNat, Stopped producers items total worker race) :
    race.finished items total = true := by
  rw [finished_iff]
  constructor
  · intro sender member
    obtain ⟨id, place, rfl⟩ := Array.mem_iff_getElem.mp member
    have inside : id < producers.toNat := by rw [← account.senders]; exact place
    have stopped := all id (by omega)
    rw [Stopped, if_pos inside] at stopped
    exact stopped _ (Array.getElem?_eq_getElem place)
  · intro receiver member
    obtain ⟨id, place, rfl⟩ := Array.mem_iff_getElem.mp member
    have inside : id < consumers.toNat := by rw [← account.receivers]; exact place
    have stopped := all (producers.toNat + id) (by omega)
    rw [Stopped, if_neg (by omega), Nat.add_sub_cancel_left] at stopped
    exact stopped _ (Array.getElem?_eq_getElem place)

/-- The sum of what the producers report is the number of values that went into the queue. -/
theorem sent_eq (account : race.Account producers consumers items left stored) :
    race.sent = .ofNat (left ++ stored).length := by
  rw [sent, Race.sent_eq, account.deliveries.length_entered]
  congr 2
  apply List.ext_getElem
  · simp [account.senders]
  · intro id inside _
    have inside : id < race.senders.size := by simpa using inside
    have found := Array.getElem?_eq_getElem inside
    simp [sentBy_of_getElem? found]

/-- Once every producer has sent all of its values, all values have gone into the queue. -/
theorem length_of_all_sent (account : race.Account producers consumers items left stored)
    (total_eq : total.toNat = producers.toNat * items.toNat)
    (all : ∀ sender ∈ race.senders, sender.sent = items) :
    (left ++ stored).length = total.toNat := by
  have each (id : Nat) (inside : id ∈ List.range producers.toNat) :
      sentBy race.senders id = items.toNat := by
    have place : id < race.senders.size := by
      rw [account.senders]
      exact List.mem_range.mp inside
    rw [sentBy_of_getElem? (Array.getElem?_eq_getElem place), all _ (Array.getElem_mem place)]
  rw [account.deliveries.length_entered, List.map_congr_left each, List.map_const',
    List.sum_replicate_nat, List.length_range, total_eq]

/-- A producer that waits changes nothing but its own flag. -/
theorem set_sender (account : race.Account producers consumers items left stored) {id : Nat}
    {sender : Sender} (found : race.senders[id]? = some sender) (late : Bool) :
    Account producers consumers items
      { race with senders := race.senders.set! id ⟨sender.sent, late⟩ } left stored where
  queue := account.queue
  senders := by rw [Array.set!_eq_setIfInBounds, Array.size_setIfInBounds, account.senders]
  receivers := account.receivers
  deliveries := by
    have same : sentBy (race.senders.set! id ⟨sender.sent, late⟩) = sentBy race.senders := by
      funext other
      rw [sentBy_set (Array.getElem?_eq_some_iff.mp found).1]
      split
      · rename_i same
        rw [same, sentBy_of_getElem? found]
      · rfl
    rw [same]
    exact account.deliveries
  consumed := account.consumed

/-- A consumer that waits changes nothing but its own flag. -/
theorem set_receiver (account : race.Account producers consumers items left stored) {id : Nat}
    {receiver : Receiver} (found : race.receivers[id]? = some receiver) (late : Bool) :
    Account producers consumers items
      { race with receivers := race.receivers.set! id ⟨receiver.taken, late⟩ } left stored where
  queue := account.queue
  senders := account.senders
  receivers := by rw [Array.set!_eq_setIfInBounds, Array.size_setIfInBounds, account.receivers]
  deliveries := by
    obtain ⟨place, same⟩ := List.getElem?_eq_some_iff.mp (batches_getElem? found)
    rw [batches_set, ← same, List.set_getElem_self]
    exact account.deliveries
  consumed := account.consumed

section Turns

variable (admitted : Mpmc.Admitted capacity)
  (total_eq : total.toNat = producers.toNat * items.toNat)
include admitted total_eq

/-- A producer's turn: it has stopped, or finds the queue full, or sends its next value. -/
theorem produce (account : race.Account producers consumers items left stored) {id : Nat}
    (inside : id < producers.toNat) (late : Bool) :
    (SenderStopped items id race ∧ produce producers items id late race = .ok (false, race)) ∨
    (¬SenderStopped items id race ∧ stored.length = capacity.toNat ∧ ∃ sender, sender.gaveUp = late ∧
      produce producers items id late race =
        .ok (false, { race with senders := race.senders.set! id sender }) ∧
      Account producers consumers items
        { race with senders := race.senders.set! id sender } left stored) ∨
    (¬SenderStopped items id race ∧ stored.length < capacity.toNat ∧ ∃ sender next value,
      sender.gaveUp = false ∧ produce producers items id late race = .ok (true, next) ∧
      next.senders = race.senders.set! id sender ∧ next.receivers = race.receivers ∧
      next.Account producers consumers items left (stored ++ [value])) := by
  have room := account.queue.length_le
  have place : id < race.senders.size := by rw [account.senders]; exact inside
  obtain ⟨sender, found⟩ : ∃ sender, race.senders[id]? = some sender :=
    ⟨_, Array.getElem?_eq_getElem place⟩
  by_cases stopped : sender.gaveUp = true ∨ sender.sent = items
  · left
    refine ⟨fun other foundToo => ?_, ?_⟩
    · obtain rfl := Option.some.inj (found.symm.trans foundToo)
      exact stopped
    · simp only [Race.produce, found]
      rw [if_pos (by simpa using stopped)]
  right
  have going : ¬SenderStopped items id race := fun all => stopped (all sender found)
  have turn : (sender.gaveUp || decide (sender.sent = items)) = false := by simpa using stopped
  have soFar := sentBy_of_getElem? found
  have early : sender.sent.toNat < items.toNat := by
    have within := account.deliveries.within id inside
    rw [soFar] at within
    exact Nat.lt_of_le_of_ne within fun same => stopped (.inr (UInt64.toNat_inj.mp same))
  have value := valueAt_eq total_eq inside early
  rw [UInt64.ofNat_toNat] at value
  by_cases full : stored.length = capacity.toNat
  · left
    have refused := account.queue.enqueue_full admitted full
      (valueOf producers id sender.sent.toNat)
    refine ⟨going, full, ⟨sender.sent, late⟩, rfl, ?_, account.set_sender found late⟩
    simp only [Race.produce, found, turn, Bool.false_eq_true, if_false, value, refused, bind,
      Except.bind, pure, Except.pure, Offer.isAccepted]
  · right
    obtain ⟨queue, accepted, kept⟩ := account.queue.enqueue_accepted admitted (by omega)
      (valueOf producers id sender.sent.toNat)
    have many := items.toNat_lt
    have succ : Exact.add sender.sent 1 = .ok (sender.sent + 1) := by
      rw [Exact.add, UInt64.toNat_one, if_pos (by omega)]
    have toNat_succ : (sender.sent + 1).toNat = sender.sent.toNat + 1 := by
      rw [UInt64.toNat_add, UInt64.toNat_one, Nat.mod_eq_of_lt (by omega)]
    refine ⟨going, by omega, ⟨sender.sent + 1, false⟩,
      ⟨queue, race.consumed, race.senders.set! id ⟨sender.sent + 1, false⟩, race.receivers⟩,
      valueOf producers id sender.sent.toNat, rfl, ?_, rfl, rfl, kept, ?_, account.receivers, ?_,
      account.consumed⟩
    · simp only [Race.produce, found, turn, Bool.false_eq_true, if_false, value, accepted, succ, bind,
        Except.bind, pure, Except.pure, Offer.isAccepted, if_true]
    · rw [Array.set!_eq_setIfInBounds, Array.size_setIfInBounds, account.senders]
    · have counted (other : Nat) : sentBy (race.senders.set! id ⟨sender.sent + 1, false⟩) other =
          if other = id then sentBy race.senders id + 1 else sentBy race.senders other := by
        rw [sentBy_set place, toNat_succ, soFar]
      have entered := account.deliveries.enter inside (by rw [soFar]; exact early) counted
      rw [soFar, List.append_assoc] at entered
      exact entered

/-- A consumer's turn: it has stopped, or finds the queue empty, or takes the oldest value. That the
counter may be read too low only makes it ask in vain. -/
theorem consume (account : race.Account producers consumers items left stored) (id : Nat)
    (late : Bool) (behind : Nat) :
    (ReceiverStopped total id race ∧ consume total id late behind race = .ok (false, race)) ∨
    (stored = [] ∧ ∃ receiver, receiver.gaveUp = late ∧
      (ReceiverStopped total id race → total ≤ race.consumed) ∧
      consume total id late behind race =
        .ok (false, { race with receivers := race.receivers.set! id receiver }) ∧
      Account producers consumers items
        { race with receivers := race.receivers.set! id receiver } left stored) ∨
    (∃ oldest rest receiver next, stored = oldest :: rest ∧ receiver.gaveUp = false ∧
      consume total id late behind race = .ok (true, next) ∧
      next.senders = race.senders ∧ next.receivers = race.receivers.set! id receiver ∧
      next.Account producers consumers items (left ++ [oldest]) rest) := by
  cases found : race.receivers[id]? with
  | none =>
    left
    refine ⟨fun receiver foundToo => ?_, by simp only [Race.consume, found]⟩
    cases found.symm.trans foundToo
  | some receiver =>
  have inside : id < race.receivers.size := (Array.getElem?_eq_some_iff.mp found).1
  by_cases stopped : receiver.gaveUp = true ∨ total.toNat ≤ race.consumed.toNat - behind
  · left
    refine ⟨fun other foundToo => ?_, ?_⟩
    · obtain rfl := Option.some.inj (found.symm.trans foundToo)
      rw [UInt64.le_iff_toNat_le]
      exact stopped.imp_right fun enough => Nat.le_trans enough (Nat.sub_le ..)
    · simp only [Race.consume, found]
      rw [if_pos (by simpa using stopped)]
  right
  have turn : (receiver.gaveUp || decide (total.toNat ≤ race.consumed.toNat - behind)) = false := by
    simpa using stopped
  cases stored with
  | nil =>
    left
    have none := account.queue.dequeue_empty admitted
    refine ⟨rfl, ⟨receiver.taken, late⟩, rfl, ?_, ?_, account.set_receiver found late⟩
    · intro all
      exact (all receiver found).resolve_left fun gaveUp => stopped (.inl gaveUp)
    · simp only [Race.consume, found, turn, Bool.false_eq_true, if_false, none, bind, Except.bind,
        pure, Except.pure]
  | cons oldest rest =>
    right
    obtain ⟨queue, taken, kept⟩ := account.queue.dequeue_oldest admitted
    have deliveries := account.deliveries.leave (batches_getElem? found)
    have short := deliveries.length_le total_eq
    have word := total.toNat_lt
    simp only [List.length_append, List.length_singleton] at short
    have succ : Exact.add race.consumed 1 = .ok (race.consumed + 1) := by
      rw [Exact.add, account.consumed, UInt64.toNat_one, if_pos (by omega)]
    refine ⟨oldest, rest, ⟨oldest :: receiver.taken, false⟩, ⟨queue, race.consumed + 1, race.senders,
      race.receivers.set! id ⟨oldest :: receiver.taken, false⟩⟩, rfl, rfl, ?_, rfl, rfl, ?_,
      account.senders, ?_, ?_, ?_⟩
    · simp only [Race.consume, found, turn, Bool.false_eq_true, if_false, taken, succ, bind,
        Except.bind, pure, Except.pure]
    · rw [List.length_append, List.length_singleton]
      exact kept
    · rw [Array.set!_eq_setIfInBounds, Array.size_setIfInBounds, account.receivers]
    · rw [batches_set, List.reverse_cons]
      exact deliveries
    · rw [UInt64.toNat_add, UInt64.toNat_one, account.consumed, Nat.mod_eq_of_lt (by omega),
        List.length_append, List.length_singleton]

end Turns
end Account

/-- `n` moves are left: values to go into the queue and values to come out of it. -/
def Left (producers consumers items total : UInt64) (n : Nat) (race : Race capacity) : Prop :=
  ∃ left stored, race.Account producers consumers items left stored ∧
    n = (total.toNat - (left ++ stored).length) + (total.toNat - left.length)

theorem left_start (admitted : Mpmc.Admitted capacity) (producers consumers items total : UInt64) :
    (start producers consumers : Race capacity).Left producers consumers items total
      (2 * total.toNat) := by
  refine ⟨[], [], account_start admitted producers consumers items, ?_⟩
  rw [List.append_nil, List.length_nil]
  omega

theorem eq_of_getElem?_set {β : Type} {entries : Array β} {place : Nat} {entry other : β}
    (found : (entries.set! place entry)[place]? = some other) : other = entry := by
  rw [Array.set!_eq_setIfInBounds, Array.getElem?_setIfInBounds_self] at found
  split at found
  · exact (Option.some.inj found).symm
  · cases found

section Replaced

variable {next : Race capacity} {id worker : Nat} {sender : Sender} {receiver : Receiver}

theorem Patient.set_sender (patient : race.Patient)
    (senders : next.senders = race.senders.set! id sender)
    (receivers : next.receivers = race.receivers) (flag : sender.gaveUp = false) :
    next.Patient := by
  refine ⟨fun other member => ?_, receivers ▸ patient.2⟩
  rw [senders] at member
  rcases mem_or_eq_of_mem_set member with old | rfl
  · exact patient.1 other old
  · exact flag

theorem Patient.set_receiver (patient : race.Patient) (senders : next.senders = race.senders)
    (receivers : next.receivers = race.receivers.set! id receiver)
    (flag : receiver.gaveUp = false) : next.Patient := by
  refine ⟨senders ▸ patient.1, fun other member => ?_⟩
  rw [receivers] at member
  rcases mem_or_eq_of_mem_set member with old | rfl
  · exact patient.2 other old
  · exact flag

theorem senderStopped_of_gaveUp (flag : sender.gaveUp = true) :
    SenderStopped items id { race with senders := race.senders.set! id sender } := by
  intro other found
  obtain rfl := eq_of_getElem?_set found
  exact .inl flag

theorem receiverStopped_of_gaveUp (flag : receiver.gaveUp = true) :
    ReceiverStopped total id { race with receivers := race.receivers.set! id receiver } := by
  intro other found
  obtain rfl := eq_of_getElem?_set found
  exact .inl flag

/-- A sender is replaced by one that waits. No worker that has stopped goes on. -/
theorem Stopped.set_sender (stopped : Stopped producers items total worker race)
    (going : ¬SenderStopped items id race) :
    Stopped producers items total worker
      { race with senders := race.senders.set! id sender } := by
  unfold Stopped at stopped ⊢
  split
  · rename_i sends
    rw [if_pos sends] at stopped
    have apart : id ≠ worker := fun same => going (same ▸ stopped)
    simpa only [SenderStopped, Array.set!_eq_setIfInBounds,
      Array.getElem?_setIfInBounds_ne apart] using stopped
  · rename_i takes
    rwa [if_neg takes] at stopped

/-- A receiver is replaced by one that waits. No worker that has stopped goes on. -/
theorem Stopped.set_receiver (stopped : Stopped producers items total worker race)
    (enough : ReceiverStopped total id race → total ≤ race.consumed) :
    Stopped producers items total worker
      { race with receivers := race.receivers.set! id receiver } := by
  unfold Stopped at stopped ⊢
  split
  · rename_i sends
    rwa [if_pos sends] at stopped
  · rename_i takes
    rw [if_neg takes] at stopped
    by_cases me : id = worker - producers.toNat
    · exact fun _ _ => .inr (enough (me ▸ stopped))
    · simpa only [ReceiverStopped, Array.set!_eq_setIfInBounds,
        Array.getElem?_setIfInBounds_ne me] using stopped

end Replaced

section Runs

variable (admitted : Mpmc.Admitted capacity)
  (total_eq : total.toNat = producers.toNat * items.toNat)
include admitted total_eq

/-- Any turn of any worker is without fault. It keeps the account, and a worker that is not late
does not give up. -/
theorem winding (consumers : UInt64) : Winding (act producers items total : Act (Race capacity))
    (Left producers consumers items total) (Stopped producers items total) Patient := by
  rintro turn race n ⟨left, stored, account, rfl⟩
  by_cases producer : turn.worker < producers.toNat
  · rw [act, if_pos producer]
    have mine (after : Race capacity) :
        Stopped producers items total turn.worker after ↔ SenderStopped items turn.worker after := by
      rw [Stopped, if_pos producer]
    rcases account.produce admitted total_eq producer turn.late with ⟨stopped, stands⟩ |
      ⟨going, full, sender, flag, refused, kept⟩ |
      ⟨going, free, sender, next, value, flag, sends, others, same, kept⟩
    · rw [stands]
      exact .idles ((mine race).mpr stopped)
    · rw [refused]
      exact .waits ⟨_, _, kept, rfl⟩ (fun _ stopped => stopped.set_sender going)
        (fun late => (mine _).mpr (senderStopped_of_gaveUp (flag.trans late)))
        (fun early patient => patient.set_sender rfl rfl (flag.trans early))
    · rw [sends]
      have short := kept.deliveries.length_le total_eq
      simp only [List.length_append, List.length_singleton] at short
      refine .moves ⟨_, _, kept, rfl⟩ ?_ fun _ patient => patient.set_sender others same flag
      simp only [List.length_append, List.length_singleton]
      omega
  · rw [act, if_neg producer]
    have mine (after : Race capacity) : Stopped producers items total turn.worker after ↔
        ReceiverStopped total (turn.worker - producers.toNat) after := by
      rw [Stopped, if_neg producer]
    rcases account.consume admitted total_eq (turn.worker - producers.toNat) turn.late turn.behind
      with ⟨stopped, stands⟩ |
      ⟨empty, receiver, flag, enough, none, kept⟩ |
      ⟨oldest, rest, receiver, next, rfl, flag, takes, same, others, kept⟩
    · rw [stands]
      exact .idles ((mine race).mpr stopped)
    · rw [none]
      exact .waits ⟨_, _, kept, rfl⟩ (fun _ stopped => stopped.set_receiver enough)
        (fun late => (mine _).mpr (receiverStopped_of_gaveUp (flag.trans late)))
        (fun early patient => patient.set_receiver rfl rfl (flag.trans early))
    · rw [takes]
      have short := kept.deliveries.length_le total_eq
      simp only [List.length_append, List.length_singleton] at short
      refine .moves ⟨_, _, kept, rfl⟩ ?_ fun _ patient => patient.set_receiver same others flag
      simp only [List.length_append, List.length_cons, List.length_nil]
      omega

end Runs

/-- A report on `entered` values that went into the queue and `left` that came out of it. No order
is ever found to be broken. -/
structure Tells (stress : Stress) (entered left : Nat) (report : Report) : Prop where
  workers : (report.producers, report.consumers) = (stress.producers, stress.consumers)
  sent : report.itemsSent.toNat = entered
  received : report.itemsReceived.toNat = left
  order : (report.fifo, report.producerOrder) = (none, some true)
  exactlyOnce : report.exactlyOnce = true ↔
    left = stress.producers.toNat * stress.itemsPerProducer.toNat
  timedOut : report.timedOut = false ↔
    left = stress.producers.toNat * stress.itemsPerProducer.toNat

/-- A report is a matter of these two numbers. -/
theorem Account.report {stress : Stress}
    (account : race.Account stress.producers stress.consumers stress.itemsPerProducer left stored)
    (total_eq : total.toNat = stress.producers.toNat * stress.itemsPerProducer.toNat) (turns : Nat) :
    ∃ report, race.report stress total turns = .ok report ∧
      Tells stress (left ++ stored).length left.length report := by
  have word := total.toNat_lt
  have entered := account.deliveries.length_le total_eq
  have leaving := account.deliveries.some.length_le
  have fits : stress.producers.toNat * stress.itemsPerProducer.toNat < 2 ^ 64 := by omega
  have same : Verdict.expectedTotal stress.producers stress.itemsPerProducer = total := by
    apply UInt64.toNat_inj.mp
    rw [Deliveries.expectedTotal_eq fits, total_eq]
  obtain ⟨verdict, judged, received, order, once⟩ := account.deliveries.verdict fits
  rw [same, account.deliveries.perm_iff total_eq] at once
  have sent : race.sent.toNat = (left ++ stored).length := by
    rw [account.sent_eq]
    exact UInt64.toNat_ofNat_of_lt' (Nat.lt_of_le_of_lt entered word)
  simp only [Race.report, judged, bind, Except.bind, pure, Except.pure]
  refine ⟨_, rfl, rfl, sent, received, ?_, once.trans ?_, ?_⟩
  · rw [order]
  · omega
  · simp only [Bool.or_eq_false_iff, decide_eq_false_iff_not, UInt64.lt_iff_toNat_lt, sent, received]
    omega

/-- When all have stopped and nobody has given up, all has been sent and taken. -/
theorem Account.complete (account : race.Account producers consumers items left stored)
    (total_eq : total.toNat = producers.toNat * items.toNat) (some : 0 < consumers.toNat)
    (patient : race.Patient)
    (finished : race.finished items total = true) :
    left.length = total.toNat ∧ (left ++ stored).length = total.toNat := by
  obtain ⟨senders, receivers⟩ := finished_iff.mp finished
  have all : ∀ sender ∈ race.senders, sender.sent = items := fun sender member =>
    (senders sender member).resolve_left (by rw [patient.1 sender member]; nofun)
  have entered := account.length_of_all_sent total_eq all
  have first : 0 < race.receivers.size := by rw [account.receivers]; exact some
  have member := Array.getElem_mem first
  have enough := (receivers _ member).resolve_left (by rw [patient.2 _ member]; nofun)
  rw [UInt64.le_iff_toNat_le, account.consumed] at enough
  have leaving := account.deliveries.some.length_le
  omega

/-- Without consumers nothing comes out. -/
theorem Account.left_eq_nil (account : race.Account producers 0 items left stored) : left = [] := by
  have none : race.batches = [] := by
    have size : race.receivers.size = 0 := account.receivers
    rw [batches, Array.eq_empty_of_size_eq_zero size]
    rfl
  have shared := account.deliveries.shared
  rw [none] at shared
  exact shared.perm.nil_eq.symm

/-- Each producer has sent everything or is blocked by a full queue. -/
def Settled (items : UInt64) (race : Race capacity) : Prop :=
  ∀ sender ∈ race.senders, sender.sent = items ∨ race.queue.length = capacity

theorem Account.length_of_settled (account : race.Account producers 0 items left stored)
    (admitted : Mpmc.Admitted capacity) (total_eq : total.toNat = producers.toNat * items.toNat)
    (settled : race.Settled items) : stored.length = min capacity.toNat total.toNat := by
  obtain rfl := account.left_eq_nil
  have room := account.queue.length_le
  have entered := account.deliveries.length_le total_eq
  rw [List.nil_append] at entered
  by_cases full : race.queue.length = capacity
  · have length := account.queue.length_eq admitted
    rw [full] at length
    omega
  · have all := account.length_of_all_sent total_eq fun sender member =>
      (settled sender member).resolve_right full
    rw [List.nil_append] at all
    omega

/-- With or without consumers, patient producers go on until they have sent everything or the queue
is full. -/
theorem settle (admitted : Mpmc.Admitted capacity)
    (total_eq : total.toNat = producers.toNat * items.toNat) {n : Nat}
    (left : race.Left producers consumers items total n) (patient : race.Patient) :
    race.Settled items ∨
      ∃ turn next, turn.late = false ∧ act producers items total turn race = .ok (true, next) := by
  obtain ⟨left, stored, account, -⟩ := left
  by_cases settled : race.Settled items
  · exact .inl settled
  right
  simp only [Settled, not_forall, not_or] at settled
  obtain ⟨sender, member, going, room⟩ := settled
  obtain ⟨id, place, rfl⟩ := Array.mem_iff_getElem.mp member
  have inside : id < producers.toNat := by rw [← account.senders]; exact place
  rcases account.produce admitted total_eq inside false with ⟨stopped, -⟩ | ⟨-, full, -⟩ |
    ⟨-, -, _, next, _, -, sends, -⟩
  · rcases stopped _ (Array.getElem?_eq_getElem place) with gaveUp | done
    · rw [patient.1 _ member] at gaveUp
      cases gaveUp
    · exact absurd done going
  · rw [← account.queue.length_eq admitted] at full
    exact absurd (UInt64.toNat_inj.mp full) room
  · refine ⟨{ worker := id, late := false }, next, rfl, ?_⟩
    rw [act, if_pos inside]
    exact sends

/-- With a consumer, and as long as nobody has given up, there is no deadlock: a full queue can be
drained and an empty one can be filled. -/
theorem progress (admitted : Mpmc.Admitted capacity)
    (total_eq : total.toNat = producers.toNat * items.toNat) (some : 0 < consumers.toNat) {n : Nat}
    (left : race.Left producers consumers items total n) (patient : race.Patient) :
    race.finished items total = true ∨
      ∃ turn next, turn.late = false ∧ act producers items total turn race = .ok (true, next) := by
  rcases settle admitted total_eq left patient with settled | moving
  · obtain ⟨left, stored, account, -⟩ := left
    have entered := account.deliveries.length_le total_eq
    rw [List.length_append] at entered
    -- an empty queue holds no producer back
    have finish (empty : stored.length = 0) : race.finished items total = true := by
      have length := account.queue.length_eq admitted
      have bounds := admitted.bounds
      have all : ∀ sender ∈ race.senders, sender.sent = items := fun sender member =>
        (settled sender member).resolve_right fun full => by
          rw [full, empty] at length
          omega
      have everything := account.length_of_all_sent total_eq all
      rw [List.length_append, empty, Nat.add_zero] at everything
      rw [finished_iff]
      refine ⟨fun sender member => .inr (all sender member), fun _ _ => .inr ?_⟩
      rw [UInt64.le_iff_toNat_le, account.consumed, everything]
    have first : 0 < race.receivers.size := by rw [account.receivers]; exact some
    rcases account.consume admitted total_eq 0 false 0 with ⟨stopped, -⟩ | ⟨rfl, -⟩ |
      ⟨_, _, _, next, -, -, takes, -⟩
    · have enough := (stopped _ (Array.getElem?_eq_getElem first)).resolve_left
        (by rw [patient.2 _ (Array.getElem_mem first)]; nofun)
      rw [UInt64.le_iff_toNat_le, account.consumed] at enough
      exact .inl (finish (by omega))
    · exact .inl (finish rfl)
    · right
      refine ⟨{ worker := producers.toNat, late := false }, next, rfl, ?_⟩
      rw [act, if_neg (Nat.lt_irrefl _), Nat.sub_self]
      exact takes
  · exact .inr moving

end RingQueue.Race
