import Mathlib.Data.Nat.ModEq
import RingQueue.Number.Power
import RingQueue.Ring.Ticket

/-! Tickets as exact numbers. `numbered n` is the ticket of the element number `n` of all that ever
pass, so its position is `n` modulo the word. Distances between numbers come out of the wrapped
words exactly as long as they fit in a signed word. -/
namespace RingQueue.Ring.Ticket

variable {capacity : UInt64}

/-- The ticket of an element by how many elements came before it, ever. -/
def numbered (n : Nat) : Ticket capacity := ⟨.ofNat n⟩

@[simp] theorem position_numbered (n : Nat) :
    (numbered n : Ticket capacity).position = .ofNat n := rfl

@[simp] theorem next_numbered (n : Nat) :
    (numbered n : Ticket capacity).next = numbered (n + 1) := by
  simp [next, numbered]

@[simp] theorem published_numbered (n : Nat) :
    (numbered n : Ticket capacity).published = .ofNat (n + 1) := by
  simp [published]

@[simp] theorem nextLap_numbered (n : Nat) :
    (numbered n : Ticket capacity).nextLap = .ofNat (n + capacity.toNat) := by
  simp [nextLap]

theorem advance_numbered (n count : Nat) :
    (numbered n : Ticket capacity).advance count = numbered (n + count) := by
  induction count with
  | zero => rfl
  | succ count ih =>
    change ((numbered n).advance count).next = _
    rw [ih, next_numbered, Nat.add_assoc]

/-- The tickets from one up to, but not including, the one at another position. -/
def upTo (t : Ticket capacity) (stop : UInt64) : List (Ticket capacity) :=
  (List.range (stop - t.position).toNat).map t.advance

theorem upTo_numbered (n : Nat) {count : Nat} (lt : count < 2 ^ 64) :
    (numbered n : Ticket capacity).upTo (.ofNat (n + count)) =
      (List.range count).map fun k => numbered (n + k) := by
  have distance : (UInt64.ofNat (n + count) - UInt64.ofNat n).toNat = count := by
    rw [UInt64.ofNat_add, UInt64.add_comm, UInt64.add_sub_cancel, UInt64.toNat_ofNat_of_lt' lt]
  rw [upTo, position_numbered, distance]
  exact List.map_congr_left fun k _ => advance_numbered n k

/-- Two tickets less than a whole turn of the word apart are told apart. -/
theorem numbered_injective {a b : Nat} (le : a ≤ b) (lt : b < a + 2 ^ 64)
    (same : UInt64.ofNat a = UInt64.ofNat b) : a = b := by
  have same : a % 2 ^ 64 = b % 2 ^ 64 := by simpa using congrArg UInt64.toNat same
  omega

theorem toNat_and_mask {k : Nat} (power : capacity.toNat = 2 ^ k) (word : UInt64) :
    (word &&& mask capacity).toNat = word.toNat % capacity.toNat := by
  have bound := capacity.toNat_lt
  have positive := Nat.two_pow_pos k
  have masked : (mask capacity).toNat = 2 ^ k - 1 := by
    simp only [mask, UInt64.toNat_sub, UInt64.reduceToNat]
    omega
  rw [UInt64.toNat_and, masked, Nat.and_two_pow_sub_one_eq_mod, power]

theorem dvd_word {k : Nat} (power : capacity.toNat = 2 ^ k) : capacity.toNat ∣ 2 ^ 64 := by
  have bound := capacity.toNat_lt
  rw [power] at bound ⊢
  exact Nat.pow_dvd_pow 2 (Nat.le_of_lt ((Nat.pow_lt_pow_iff_right (by decide)).mp bound))

/-- Masking finds the slot of the exact number, also after the position has wrapped. -/
theorem toNat_slot_numbered {k : Nat} (power : capacity.toNat = 2 ^ k) (n : Nat) :
    (numbered n : Ticket capacity).slot.toNat = n % capacity.toNat := by
  rw [slot, toNat_and_mask power, position_numbered, UInt64.toNat_ofNat']
  exact Nat.mod_mod_of_dvd n (dvd_word power)

theorem lag_numbered (n sequence : Nat) :
    (numbered n : Ticket capacity).lag (.ofNat sequence) = .ofInt ((sequence : Int) - n) := by
  simp [lag, Int64.ofInt_eq_ofNat]

theorem fillLag_numbered (n sequence : Nat) :
    (numbered n : Ticket capacity).fillLag (.ofNat sequence) =
      .ofInt ((sequence : Int) - (n + 1 : Nat)) := by
  rw [fillLag, published_numbered]
  simp only [UInt64.toInt64_sub, UInt64.toInt64_ofNat', Int64.ofInt_sub, Int64.ofInt_eq_ofNat]

/-- The ticket that a slot waits for at a position: the only one of the lap from there on. -/
theorem firstFrom_numbered {k : Nat} (power : capacity.toNat = 2 ^ k) (start : Nat) {offset : Nat}
    (inside : offset < capacity.toNat) :
    firstFrom capacity (.ofNat start) (.ofNat ((start + offset) % capacity.toNat)) =
      numbered (start + offset) := by
  have short := Nat.mod_lt (start + offset) (Nat.zero_lt_of_lt inside)
  have bound := capacity.toNat_lt
  have word : start % 2 ^ 64 < 2 ^ 64 := Nat.mod_lt _ (by decide)
  have dvd := dvd_word power
  have ahead : ((.ofNat ((start + offset) % capacity.toNat) - .ofNat start) &&& mask capacity) =
      UInt64.ofNat offset := by
    apply UInt64.toNat_inj.mp
    rw [toNat_and_mask power, UInt64.toNat_sub]
    simp only [UInt64.toNat_ofNat']
    rw [Nat.mod_mod_of_dvd _ dvd, Nat.mod_eq_of_lt (by omega : _ % capacity.toNat < 2 ^ 64),
      Nat.mod_eq_of_lt (by omega : offset < 2 ^ 64)]
    have congr : 2 ^ 64 - start % 2 ^ 64 + (start + offset) % capacity.toNat ≡ offset
        [MOD capacity.toNat] := by
      apply Nat.ModEq.add_left_cancel ((Nat.mod_modEq start (2 ^ 64)).of_dvd dvd)
      calc start % 2 ^ 64 + (2 ^ 64 - start % 2 ^ 64 + (start + offset) % capacity.toNat)
          = 2 ^ 64 + (start + offset) % capacity.toNat := by omega
        _ ≡ 0 + (start + offset) [MOD capacity.toNat] :=
          (Nat.modEq_zero_iff_dvd.mpr dvd).add (Nat.mod_modEq _ _)
        _ = start + offset := Nat.zero_add _
    exact Eq.trans congr (Nat.mod_eq_of_lt inside)
  rw [firstFrom, ahead, numbered, UInt64.ofNat_add]

end RingQueue.Ring.Ticket
