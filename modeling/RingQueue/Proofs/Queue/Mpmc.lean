import RingQueue.Proofs.Queue.Cells
import RingQueue.Proofs.Queue.Fifo
import RingQueue.Proofs.Ring.Ticket
import RingQueue.Queue.Mpmc

/-! The queue with many ends, kept in exact numbers. An account says how many elements have passed
and which are stored; it fixes both indices, the sequence number of every slot and the content of
every cell. Each operation is justified by the account and moves it on, so it holds in every history
of whole calls, on whichever side of the largest word the indices are. -/
namespace RingQueue.Queue.Mpmc

open RingQueue.Ring

variable {α : Type u} {capacity : UInt64}

/-- The capacities that the queue is made for: powers of two, from two up to `2 ^ 62`. -/
def Admitted (capacity : UInt64) : Prop := ∃ k, 1 ≤ k ∧ k ≤ 62 ∧ capacity.toNat = 2 ^ k

theorem Admitted.bounds (admitted : Admitted capacity) :
    2 ≤ capacity.toNat ∧ capacity.toNat ≤ 2 ^ 62 := by
  obtain ⟨k, low, high, power⟩ := admitted
  rw [power]
  exact ⟨Nat.pow_le_pow_right (n := 2) (by decide) low,
    Nat.pow_le_pow_right (by decide) high⟩

theorem admitted_two : Admitted 2 := ⟨1, by decide, by decide, rfl⟩

theorem Claim.ofLag_zero : Claim.ofLag (.ofInt 0) = granted := rfl

theorem Claim.ofLag_neg {lag : Int} (low : -2 ^ 63 ≤ lag) (negative : lag < 0) :
    Claim.ofLag (.ofInt lag) = refused := by
  have exact_lag : (Int64.ofInt lag).toInt = lag := Int64.toInt_ofInt_of_le low (by omega)
  have nonzero : Int64.ofInt lag ≠ 0 := fun h => by
    have := congrArg Int64.toInt h
    rw [exact_lag, Int64.toInt_zero] at this
    omega
  rw [ofLag, if_neg nonzero, if_pos]
  rwa [Int64.lt_iff_toInt_lt, exact_lag, Int64.toInt_zero]

/-! The branches of the two operations, by what the slot of the current ticket says. -/
section Branches

variable {q : Mpmc α capacity} (ticket : Ticket capacity) {sequence : UInt64}

theorem enqueue_refused (index : q.enqueueIndex = ticket.position)
    (found : q.sequences[ticket.slot.toNat]? = some sequence)
    (refused : Claim.ofLag (ticket.lag sequence) = .refused) (value : α) :
    q.enqueue value = .ok (.full value, q) := by
  obtain ⟨_, _, sequences, cells⟩ := q
  obtain ⟨_⟩ := ticket
  obtain rfl := index
  simp only [enqueue, found, refused]

theorem enqueue_granted (index : q.enqueueIndex = ticket.position)
    (found : q.sequences[ticket.slot.toNat]? = some sequence)
    (granted : Claim.ofLag (ticket.lag sequence) = .granted) {value : α} {cells : Cells α}
    (put : q.cells.put ticket.slot value = .ok cells) :
    q.enqueue value = .ok (.accepted, ⟨ticket.next.position, q.dequeueIndex,
      q.sequences.set! ticket.slot.toNat ticket.published, cells⟩) := by
  obtain ⟨_, _, sequences, _⟩ := q
  obtain ⟨_⟩ := ticket
  obtain rfl := index
  simp only [enqueue, found, granted, put]

theorem dequeue_refused (index : q.dequeueIndex = ticket.position)
    (found : q.sequences[ticket.slot.toNat]? = some sequence)
    (refused : Claim.ofLag (ticket.fillLag sequence) = .refused) : q.dequeue = .ok (none, q) := by
  obtain ⟨_, _, sequences, cells⟩ := q
  obtain ⟨_⟩ := ticket
  obtain rfl := index
  simp only [dequeue, found, refused]

theorem dequeue_granted (index : q.dequeueIndex = ticket.position)
    (found : q.sequences[ticket.slot.toNat]? = some sequence)
    (granted : Claim.ofLag (ticket.fillLag sequence) = .granted) {value : α} {cells : Cells α}
    (take : q.cells.take ticket.slot = .ok (value, cells)) :
    q.dequeue = .ok (some value, ⟨q.enqueueIndex, ticket.next.position,
      q.sequences.set! ticket.slot.toNat ticket.nextLap, cells⟩) := by
  obtain ⟨_, _, sequences, _⟩ := q
  obtain ⟨_⟩ := ticket
  obtain rfl := index
  simp only [dequeue, found, granted, take]

end Branches

/-- The exact account of a queue that `past` elements have left and in which those of `stored`
are. -/
structure Account (q : Mpmc α capacity) (past : Nat) (stored : List α) : Prop where
  enqueueIndex : q.enqueueIndex = .ofNat (past + stored.length)
  dequeueIndex : q.dequeueIndex = .ofNat past
  slots : q.sequences.size = capacity.toNat
  /-- The slots of the next lap's numbers carry one more where they are filled. -/
  sequence : ∀ k < capacity.toNat, q.sequences[(past + k) % capacity.toNat]? =
    some (.ofNat (if k < stored.length then past + k + 1 else past + k))
  size : q.cells.size = capacity.toNat
  cells : q.cells.Holds past stored

/-- Every slot of a queue that `past` elements have passed through waits for its next number. -/
theorem account_startingAt (admitted : Admitted capacity) (past : Nat) :
    (startingAt (.ofNat past) : Mpmc α capacity).Account past [] := by
  obtain ⟨_, _, _, power⟩ := admitted
  constructor
  · simp [startingAt]
  · simp [startingAt]
  · simp [startingAt]
  · intro k inside
    have short : (past + k) % capacity.toNat < capacity.toNat := Nat.mod_lt _ (by omega)
    simp only [startingAt, Array.getElem?_ofFn, dif_pos short]
    rw [Ticket.firstFrom_numbered power past inside]
    simp
  · simp [startingAt, Cells.vacant, Cells.size]
  · exact Cells.holds_vacant _ _

/-- What two index readings say of the number stored, in exact numbers: their difference, which
counts as zero when the first is behind and as the capacity when it exceeds that. -/
theorem toNat_lengthBetween (admitted : Admitted capacity) {e d : Nat} (low : d ≤ e + 2 ^ 63)
    (high : e < d + 2 ^ 63) :
    (lengthBetween capacity (.ofNat e) (.ofNat d)).toNat = min (e - d) capacity.toNat := by
  have bounds := admitted.bounds
  have difference : (UInt64.ofNat e - UInt64.ofNat d).toInt64 = .ofInt ((e : Int) - d) := by
    simp only [UInt64.toInt64_sub, UInt64.toInt64_ofNat', Int64.ofInt_sub, Int64.ofInt_eq_ofNat]
  have value : (Int64.ofInt ((e : Int) - d)).toInt = e - d :=
    Int64.toInt_ofInt_of_le (by omega) (by omega)
  have limit : capacity.toInt64.toInt = capacity.toNat := by
    have word : capacity.toInt64 = .ofNat capacity.toNat := by
      rw [← UInt64.toInt64_ofNat', UInt64.ofNat_toNat]
    rw [word, Int64.toInt_ofNat_of_lt (by omega)]
  simp only [lengthBetween, difference, Int64.lt_iff_toInt_lt, value, limit, Int64.toInt_zero]
  by_cases behind : (e : Int) - d < 0
  · rw [if_pos behind, UInt64.toNat_zero]
    omega
  by_cases beyond : (capacity.toNat : Int) < e - d
  · rw [if_neg behind, if_pos beyond]
    omega
  · rw [if_neg behind, if_neg beyond, Int64.toNat_toUInt64_of_le, Int64.toNatClampNeg, value]
    · omega
    · rw [Int64.le_iff_toInt_le, value, Int64.toInt_zero]
      omega

namespace Account

variable {q : Mpmc α capacity} {past : Nat} {stored : List α}

theorem length_le (account : q.Account past stored) : stored.length ≤ capacity.toNat := by
  rw [← account.size]
  exact account.cells.fits

theorem length_eq (admitted : Admitted capacity) (account : q.Account past stored) :
    q.length.toNat = stored.length := by
  have bounds := admitted.bounds
  have fits := account.length_le
  rw [length, account.enqueueIndex, account.dequeueIndex,
    toNat_lengthBetween admitted (by omega) (by omega)]
  omega

theorem isEmpty_eq (admitted : Admitted capacity) (account : q.Account past stored) :
    q.isEmpty = stored.isEmpty := by
  have length := account.length_eq admitted
  rw [Bool.eq_iff_iff, isEmpty, beq_iff_eq, List.isEmpty_iff, ← List.length_eq_zero_iff, ← length]
  exact UInt64.toNat_inj.symm

theorem sequence_at (admitted : Admitted capacity) (account : q.Account past stored) {k : Nat}
    (inside : k < capacity.toNat) :
    q.sequences[(Ticket.numbered (past + k) : Ticket capacity).slot.toNat]? =
      some (.ofNat (if k < stored.length then past + k + 1 else past + k)) := by
  obtain ⟨_, _, _, power⟩ := admitted
  rw [Ticket.toNat_slot_numbered power]
  exact account.sequence k inside

theorem sequence_set (account : q.Account past stored) {k place : Nat} {sequence : UInt64}
    (inside : place < capacity.toNat) (bound : k < capacity.toNat) :
    (q.sequences.set! ((past + place) % capacity.toNat) sequence)[(past + k) % capacity.toNat]? =
      if k = place then some sequence else q.sequences[(past + k) % capacity.toNat]? := by
  rw [← account.slots] at inside bound ⊢
  exact Cells.getElem?_set_place q.sequences past sequence inside bound

/-- What an enqueue finds in its slot: its own number or, when the queue is full, the one filled a lap
before. -/
theorem enqueue_lag (admitted : Admitted capacity) (account : q.Account past stored) : ∃ sequence,
    q.sequences[(Ticket.numbered (past + stored.length) : Ticket capacity).slot.toNat]? =
      some sequence ∧
    (Ticket.numbered (past + stored.length) : Ticket capacity).lag sequence =
      .ofInt (if stored.length = capacity.toNat then 1 - capacity.toNat else 0) := by
  have bounds := admitted.bounds
  have fits := account.length_le
  by_cases full : stored.length = capacity.toNat
  · obtain ⟨_, _, _, power⟩ := id admitted
    have place : (Ticket.numbered (past + stored.length) : Ticket capacity).slot.toNat =
        (Ticket.numbered (past + 0) : Ticket capacity).slot.toNat := by
      simp only [Ticket.toNat_slot_numbered power, full, Nat.add_mod_right, Nat.add_zero]
    have found := account.sequence_at admitted (k := 0) (by omega)
    rw [← place, if_pos (by omega)] at found
    refine ⟨_, found, ?_⟩
    rw [Ticket.lag_numbered, if_pos full]
    congr 1
    omega
  · have found := account.sequence_at admitted (k := stored.length) (by omega)
    rw [if_neg (Nat.lt_irrefl _)] at found
    exact ⟨_, found, by rw [Ticket.lag_numbered, Int.sub_self, if_neg full]⟩

/-- What a dequeue finds in its slot: the number that says it is filled or, when nothing is stored,
the one before. -/
theorem dequeue_lag (admitted : Admitted capacity) (account : q.Account past stored) : ∃ sequence,
    q.sequences[(Ticket.numbered past : Ticket capacity).slot.toNat]? = some sequence ∧
    (Ticket.numbered past : Ticket capacity).fillLag sequence =
      .ofInt (if stored.length = 0 then -1 else 0) := by
  have bounds := admitted.bounds
  have found := account.sequence_at admitted (k := 0) (by omega)
  refine ⟨_, found, ?_⟩
  rw [Ticket.fillLag_numbered]
  congr 1
  split <;> split <;> omega

/-- A full queue refuses. -/
theorem enqueue_full (admitted : Admitted capacity) (account : q.Account past stored)
    (full : stored.length = capacity.toNat) (value : α) :
    q.enqueue value = .ok (.full value, q) := by
  have bounds := admitted.bounds
  obtain ⟨sequence, found, lag⟩ := account.enqueue_lag admitted
  refine enqueue_refused (.numbered _) account.enqueueIndex found ?_ value
  rw [lag, if_pos full]
  exact Claim.ofLag_neg (by omega) (by omega)

/-- With room left the slot carries the number itself, so it is claimed and filled. -/
theorem enqueue_accepted (admitted : Admitted capacity) (account : q.Account past stored)
    (room : stored.length < capacity.toNat) (value : α) :
    ∃ next, q.enqueue value = .ok (.accepted, next) ∧ next.Account past (stored ++ [value]) := by
  obtain ⟨_, _, _, power⟩ := id admitted
  have place : (Ticket.numbered (past + stored.length) : Ticket capacity).slot.toNat =
      (past + stored.length) % capacity.toNat := Ticket.toNat_slot_numbered power _
  obtain ⟨sequence, found, lag⟩ := account.enqueue_lag admitted
  rw [if_neg (by omega)] at lag
  have granted := (congrArg Claim.ofLag lag).trans Claim.ofLag_zero
  obtain ⟨cells, put, size, held⟩ :=
    account.cells.put (by rw [account.size]; exact room) (by rw [account.size]; exact place) value
  refine ⟨_, enqueue_granted (.numbered _) account.enqueueIndex found granted put, ?_⟩
  constructor
  · simp [Nat.add_assoc]
  · exact account.dequeueIndex
  · exact (Array.size_setIfInBounds ..).trans account.slots
  · intro k inside
    rw [place, account.sequence_set room inside, account.sequence k inside,
      Ticket.published_numbered, List.length_append, List.length_singleton]
    by_cases last : k = stored.length
    · rw [if_pos last, if_pos (by omega), last]
    · rw [if_neg last]
      congr 3
      exact propext (by omega)
  · exact size.trans account.size
  · exact held

/-- An empty queue gives nothing. -/
theorem dequeue_empty (admitted : Admitted capacity) (account : q.Account past []) :
    q.dequeue = .ok (none, q) := by
  obtain ⟨sequence, found, lag⟩ := account.dequeue_lag admitted
  refine dequeue_refused (.numbered past) account.dequeueIndex found ?_
  rw [lag, if_pos List.length_nil]
  exact Claim.ofLag_neg (by omega) (by omega)

/-- The oldest element goes out, and its slot waits for the number one lap later. -/
theorem dequeue_oldest {oldest : α} {rest : List α} (admitted : Admitted capacity)
    (account : q.Account past (oldest :: rest)) :
    ∃ next, q.dequeue = .ok (some oldest, next) ∧ next.Account (past + 1) rest := by
  have bounds := admitted.bounds
  have fits : rest.length + 1 ≤ capacity.toNat := account.length_le
  obtain ⟨_, _, _, power⟩ := id admitted
  have place : (Ticket.numbered past : Ticket capacity).slot.toNat =
      (past + 0) % capacity.toNat := Ticket.toNat_slot_numbered power _
  obtain ⟨sequence, found, lag⟩ := account.dequeue_lag admitted
  rw [if_neg (by simp)] at lag
  have granted := (congrArg Claim.ofLag lag).trans Claim.ofLag_zero
  obtain ⟨cells, take, size, held⟩ :=
    account.cells.take (by rw [account.size]; exact place)
  refine ⟨_, dequeue_granted (.numbered past) account.dequeueIndex found granted take, ?_⟩
  constructor
  · rw [account.enqueueIndex, List.length_cons, Nat.add_assoc, Nat.add_comm 1]
  · simp
  · exact (Array.size_setIfInBounds ..).trans account.slots
  · intro k inside
    rw [place, Ticket.nextLap_numbered]
    -- The window moves on by one, so the slot just emptied comes round as its last number.
    by_cases last : k + 1 = capacity.toNat
    · have round : (past + 1 + k) % capacity.toNat = (past + 0) % capacity.toNat := by
        rw [Nat.add_assoc, Nat.add_comm 1 k, last, Nat.add_mod_right, Nat.add_zero]
      rw [round, account.sequence_set (by omega) (by omega), if_pos rfl, if_neg (by omega), ← last,
        Nat.add_assoc past 1 k, Nat.add_comm 1 k]
    · rw [Nat.add_assoc, Nat.add_comm 1 k, account.sequence_set (by omega) (by omega),
        if_neg (Nat.succ_ne_zero k), account.sequence (k + 1) (by omega)]
      simp only [List.length_cons, Nat.add_lt_add_iff_right]
  · exact size.trans account.size
  · exact held

/-- The account leaves nothing open: what has passed and what is stored fix the whole queue. -/
theorem unique {other : Mpmc α capacity} (account : q.Account past stored)
    (accountToo : other.Account past stored) : q = other := by
  have sequences : q.sequences = other.sequences := by
    apply Cells.eq_of_places past (account.slots.trans accountToo.slots.symm)
    intro k bound
    rw [account.slots] at bound ⊢
    rw [accountToo.slots, account.sequence k bound, accountToo.sequence k bound]
  have cells := account.cells.unique accountToo.cells (account.size.trans accountToo.size.symm)
  have enqueueIndex := account.enqueueIndex.trans accountToo.enqueueIndex.symm
  have dequeueIndex := account.dequeueIndex.trans accountToo.dequeueIndex.symm
  cases q
  cases other
  simp only [mk.injEq]
  exact ⟨enqueueIndex, dequeueIndex, sequences, cells⟩

end Account

theorem destroyFrom_step {cells next : Cells α} {ticket : Ticket capacity} {stop : UInt64}
    {value : α} {values : List α} (apart : ticket.position ≠ stop)
    (take : cells.take ticket.slot = .ok (value, next))
    (rest : destroyFrom next ticket.next stop = .ok values) :
    destroyFrom cells ticket stop = .ok (value :: values) := by
  rw [destroyFrom, dif_neg apart, take]
  simp only [rest]
  rfl

/-- The loop that destroys meets every element once, oldest first, and its end right after the
last: two tickets of one window never share a position. -/
theorem destroyFrom_eq {cells : Cells α} {past : Nat} {stored : List α}
    (admitted : Admitted capacity) (size : cells.size = capacity.toNat)
    (held : cells.Holds past stored) :
    destroyFrom cells (.numbered past : Ticket capacity) (.ofNat (past + stored.length)) =
      .ok stored := by
  obtain ⟨_, _, _, power⟩ := id admitted
  have bounds := admitted.bounds
  induction stored generalizing past cells with
  | nil =>
    rw [destroyFrom]
    simp
  | cons oldest rest ih =>
    have fits : rest.length + 1 ≤ cells.size := held.fits
    obtain ⟨next, take, sameSize, heldNext⟩ :=
      held.take (by rw [size]; exact Ticket.toNat_slot_numbered power past)
    have destroyed := ih (sameSize.trans size) heldNext
    rw [Nat.add_assoc, Nat.add_comm 1] at destroyed
    refine destroyFrom_step (fun same => ?_) take (by rw [Ticket.next_numbered]; exact destroyed)
    have := Ticket.numbered_injective (Nat.le_add_right ..) (by simp only [List.length_cons]; omega) same
    simp at this

namespace Account

variable {q : Mpmc α capacity} {past : Nat} {stored : List α}

theorem destroy_eq (admitted : Admitted capacity) (account : q.Account past stored) :
    q.destroy = .ok stored := by
  rw [destroy, account.enqueueIndex, account.dequeueIndex]
  exact destroyFrom_eq admitted account.size account.cells

end Account
end RingQueue.Queue.Mpmc
