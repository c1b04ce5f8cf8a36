import Mathlib.Data.List.Nodup
import Mathlib.Data.List.Perm.Subperm
import RingQueue.Proofs.Ring.Ticket

/-! Windows of tickets. As many tickets in a row as there are slots make a lap, wherever it starts and
also where it passes the largest word. Main result: a lap visits every slot once exactly when the
capacity is a power of two, and the signed distances are exact over all that a signed word holds. -/
namespace RingQueue.Ring.Ticket

variable {capacity : UInt64}

/-- The slots of a lap from a ticket on, in the order of their tickets. -/
def lap (t : Ticket capacity) : List UInt64 :=
  (List.range capacity.toNat).map fun count => (t.advance count).slot

theorem numbered_toNat_position (t : Ticket capacity) : numbered t.position.toNat = t := by
  obtain ⟨position⟩ := t
  rw [numbered, UInt64.ofNat_toNat]

theorem length_lap (t : Ticket capacity) : t.lap.length = capacity.toNat := by
  rw [lap, List.length_map, List.length_range]

theorem mem_lap {slot : UInt64} {t : Ticket capacity} (member : slot ∈ t.lap) :
    ∃ u : Ticket capacity, slot = u.slot := by
  obtain ⟨count, -, same⟩ := List.mem_map.mp member
  exact ⟨t.advance count, same.symm⟩

/-! ### Any capacity -/

section Positive

variable (positive : 0 < capacity)
include positive

theorem toNat_mask : (mask capacity).toNat = capacity.toNat - 1 := by
  have positive : 0 < capacity.toNat := UInt64.lt_iff_toNat_lt.mp positive
  have one_le : 1 ≤ capacity := UInt64.le_iff_toNat_le.mpr positive
  rw [mask, UInt64.toNat_sub_of_le _ _ one_le, UInt64.toNat_one]

theorem toNat_slot (t : Ticket capacity) :
    t.slot.toNat = t.position.toNat &&& (capacity.toNat - 1) := by
  rw [slot, UInt64.toNat_and, toNat_mask positive]

theorem slot_lt (t : Ticket capacity) : t.slot < capacity := by
  have positive' : 0 < capacity.toNat := UInt64.lt_iff_toNat_lt.mp positive
  have masked : t.position.toNat &&& (capacity.toNat - 1) ≤ capacity.toNat - 1 := Nat.and_le_right
  rw [UInt64.lt_iff_toNat_lt, toNat_slot positive]
  omega

/-- A lap without repetition is too long to leave a slot out. -/
theorem exists_slot_eq {t : Ticket capacity} (apart : t.lap.Nodup) {slot : Nat}
    (inside : slot < capacity.toNat) : ∃ u : Ticket capacity, u.slot.toNat = slot := by
  have distinct : (t.lap.map UInt64.toNat).Nodup :=
    apart.map_on fun _ _ _ _ => UInt64.toNat_inj.mp
  have within : t.lap.map UInt64.toNat ⊆ List.range capacity.toNat := fun number member => by
    obtain ⟨slot, visited, rfl⟩ := List.mem_map.mp member
    obtain ⟨u, rfl⟩ := mem_lap visited
    exact List.mem_range.mpr (UInt64.lt_iff_toNat_lt.mp (slot_lt positive u))
  have all := (distinct.subperm within).perm_of_length_le
    (by rw [List.length_map, length_lap, List.length_range])
  obtain ⟨_, visited, rfl⟩ := List.mem_map.mp (all.mem_iff.mpr (List.mem_range.mpr inside))
  obtain ⟨u, rfl⟩ := mem_lap visited
  exact ⟨u, rfl⟩

end Positive

/-- A number whose predecessor's bits cover every smaller number is a power of two: they cover the
largest number that has a bit less. -/
theorem exists_eq_two_pow {n : Nat} (positive : 0 < n) (covers : ∀ s < n, s &&& (n - 1) = s) :
    ∃ k, n = 2 ^ k := by
  by_cases single : n = 1
  · exact ⟨0, single⟩
  · have nonzero : n - 1 ≠ 0 := by omega
    have low : 2 ^ (n - 1).log2 ≤ n - 1 := Nat.log2_self_le nonzero
    have high : n - 1 < 2 ^ (n - 1).log2 * 2 := by
      rw [← Nat.pow_succ]
      exact Nat.lt_log2_self
    have ones : (n - 1) % 2 ^ (n - 1).log2 = 2 ^ (n - 1).log2 - 1 := by
      rw [← Nat.and_two_pow_sub_one_eq_mod, Nat.and_comm]
      exact covers _ (by omega)
    have once : (n - 1) % 2 ^ (n - 1).log2 = n - 1 - 2 ^ (n - 1).log2 := by
      rw [Nat.mod_eq_sub_mod low, Nat.mod_eq_of_lt (by omega)]
    refine ⟨(n - 1).log2 + 1, ?_⟩
    rw [Nat.pow_succ]
    omega

theorem exists_two_pow_of_nodup (positive : 0 < capacity) {t : Ticket capacity}
    (apart : t.lap.Nodup) : ∃ k, capacity.toNat = 2 ^ k := by
  refine exists_eq_two_pow (UInt64.lt_iff_toNat_lt.mp positive) fun s inside => ?_
  obtain ⟨u, rfl⟩ := exists_slot_eq positive apart inside
  -- what has been masked is not changed by the mask again
  rw [toNat_slot positive, Nat.and_assoc, Nat.and_self]

/-! ### Powers of two -/

section Power

variable {k : Nat} (power : capacity.toNat = 2 ^ k)
include power

theorem toNat_slot_eq_mod (t : Ticket capacity) :
    t.slot.toNat = t.position.toNat % capacity.toNat := by
  rw [slot, toNat_and_mask power]

theorem toNat_slot_advance (t : Ticket capacity) (count : Nat) :
    (t.advance count).slot.toNat = (t.position.toNat + count) % capacity.toNat := by
  rw [← numbered_toNat_position t, advance_numbered, toNat_slot_numbered power,
    numbered_toNat_position]

/-- The word is a whole number of laps, so the slot is the same also where the sum has wrapped. -/
theorem slot_nextLap (t : Ticket capacity) : (⟨t.nextLap⟩ : Ticket capacity).slot = t.slot := by
  apply UInt64.toNat_inj.mp
  have wrapped : t.nextLap.toNat = (t.position.toNat + capacity.toNat) % 2 ^ 64 :=
    UInt64.toNat_add ..
  rw [toNat_slot_eq_mod power, toNat_slot_eq_mod power, wrapped, Nat.mod_mod_of_dvd _ (dvd_word power),
    Nat.add_mod_right]

theorem nodup_lap (t : Ticket capacity) : t.lap.Nodup := by
  refine List.nodup_range.map_on fun a early b earlyToo same => ?_
  have same := congrArg UInt64.toNat same
  rw [toNat_slot_advance power, toNat_slot_advance power] at same
  exact (Nat.ModEq.add_left_cancel' t.position.toNat same).eq_of_lt_of_lt
    (List.mem_range.mp early) (List.mem_range.mp earlyToo)

end Power

theorem nodup_lap_iff (positive : 0 < capacity) (t : Ticket capacity) :
    t.lap.Nodup ↔ ∃ k, capacity.toNat = 2 ^ k :=
  ⟨exists_two_pow_of_nodup positive, fun ⟨_, power⟩ => nodup_lap power t⟩

/-! ### Signed distances -/

/-- The words of two numbers tell their difference, as long as a signed word holds it. -/
theorem toInt_ofInt_sub (n : Nat) {x : Int} (low : -2 ^ 63 ≤ x) (high : x < 2 ^ 63) :
    (Int64.ofInt ((((n : Int) + x) % 2 ^ 64).toNat - n)).toInt = x := by
  have natural : ((((n : Int) + x) % 2 ^ 64).toNat : Int) = ((n : Int) + x) % 2 ^ 64 :=
    Int.toNat_of_nonneg (Int.emod_nonneg _ (by decide))
  rw [natural, Int64.toInt_ofInt]
  calc (((n : Int) + x) % 2 ^ 64 - n).bmod (2 ^ 64)
      = ((n : Int) + x - n).bmod (2 ^ 64) := Int.emod_sub_bmod ..
    _ = x.bmod (2 ^ 64) := by rw [Int.add_comm, Int.add_sub_cancel]
    _ = x := Int.bmod_eq_of_le low high

section Distance

variable {x : Int} (low : -2 ^ 63 ≤ x) (high : x < 2 ^ 63)
include low high

theorem toInt_lag (t : Ticket capacity) : (t.lag (.ofInt (t.position.toNat + x))).toInt = x := by
  calc (t.lag (.ofInt (t.position.toNat + x))).toInt
      = ((numbered t.position.toNat : Ticket capacity).lag
          (.ofNat (((t.position.toNat : Int) + x) % 2 ^ 64).toNat)).toInt := by
        rw [numbered_toNat_position, UInt64.ofInt]
    _ = x := by rw [lag_numbered, toInt_ofInt_sub _ low high]

theorem toInt_fillLag (t : Ticket capacity) :
    (t.fillLag (.ofInt (t.position.toNat + 1 + x))).toInt = x := by
  calc (t.fillLag (.ofInt (t.position.toNat + 1 + x))).toInt
      = ((numbered t.position.toNat : Ticket capacity).fillLag
          (.ofNat ((((t.position.toNat + 1 : Nat) : Int) + x) % 2 ^ 64).toNat)).toInt := by
        rw [numbered_toNat_position, UInt64.ofInt, Int.natCast_add, Int.natCast_one]
    _ = x := by rw [fillLag_numbered, toInt_ofInt_sub _ low high]

end Distance

theorem toInt64_sub_eq_zero_iff (a b : UInt64) : (a - b).toInt64 = 0 ↔ a = b := by
  constructor
  · intro zero
    have zero : a - b = 0 := congrArg Int64.toUInt64 zero
    rw [← UInt64.sub_add_cancel a b, zero, UInt64.zero_add]
  · rintro rfl
    rw [UInt64.sub_self]
    rfl

/-- Slots, laps and signed distances of all tickets. At a capacity that is no power of two every lap
repeats a slot, not only some lap; at a power of two none does, and the words are those of the exact
numbers on both sides of the largest one. -/
theorem laps_and_distances (positive : 0 < capacity) :
    (∀ t : Ticket capacity, t.slot < capacity ∧
      (t.lap.Nodup ↔ ∃ k, capacity.toNat = 2 ^ k)) ∧
    (∀ k, capacity.toNat = 2 ^ k → ∀ t : Ticket capacity,
      t.slot.toNat = t.position.toNat % capacity.toNat ∧
      (⟨t.nextLap⟩ : Ticket capacity).slot = t.slot) ∧
    ∀ t : Ticket capacity,
      (∀ x : Int, -2 ^ 63 ≤ x → x < 2 ^ 63 →
        (t.lag (.ofInt (t.position.toNat + x))).toInt = x ∧
        (t.fillLag (.ofInt (t.position.toNat + 1 + x))).toInt = x) ∧
      ∀ sequence, (t.lag sequence = 0 ↔ sequence = t.position) ∧
        (t.fillLag sequence = 0 ↔ sequence = t.published) :=
  ⟨fun t => ⟨slot_lt positive t, nodup_lap_iff positive t⟩,
    fun _ power t => ⟨toNat_slot_eq_mod power t, slot_nextLap power t⟩,
    fun t => ⟨fun _ low high => ⟨toInt_lag low high t, toInt_fillLag low high t⟩,
      fun sequence => ⟨toInt64_sub_eq_zero_iff sequence _, toInt64_sub_eq_zero_iff sequence _⟩⟩⟩

/-- Four slots, from the ticket whose position is the largest word on. -/
theorem laps_and_distances_across_the_word :
    let t : Ticket 4 := ⟨.ofNat (2 ^ 64 - 1)⟩
    (0 : UInt64) < 4 ∧ t.lap.Nodup ∧ t.slot.toNat = 3 ∧
    (⟨t.nextLap⟩ : Ticket 4).slot = t.slot ∧
    (t.lag (.ofInt (t.position.toNat + -2 ^ 63))).toInt = -2 ^ 63 ∧ t.fillLag 0 = 0 := by
  intro t
  obtain ⟨slots, power, distances⟩ := @laps_and_distances 4 (by decide)
  obtain ⟨masked, later⟩ := power 2 rfl t
  obtain ⟨exactly, zero⟩ := distances t
  exact ⟨by decide, (slots t).2.mpr ⟨2, rfl⟩, masked.trans (by decide), later,
    (exactly (-2 ^ 63) (by decide) (by decide)).1, (zero 0).2.mpr (by decide)⟩

/-- With six slots the second bit of the position is masked away. -/
example : (⟨.ofNat (2 ^ 64 - 1)⟩ : Ticket 6).lap = [5, 0, 1, 0, 1, 4] := by decide

end RingQueue.Ring.Ticket
