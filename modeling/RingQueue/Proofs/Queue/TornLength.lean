import RingQueue.Proofs.Queue.Mpmc

/-! The length as a racing caller finds it. The two indices are read one after the other, so each may
be older than the other, and both may have passed the largest word in between. Main result: read as
long as the two are less than half a word apart, the length is their exact difference, held between
zero and the capacity. -/
namespace RingQueue.Queue.Mpmc

variable {α : Type u} {capacity : UInt64} {q r : Mpmc α capacity} {entered left : Nat}

/-- The queue as a caller finds it who reads the first index after `entered` elements came in and the
second after `left` went out, each at a time of its own. -/
structure Reads (q : Mpmc α capacity) (entered left : Nat) : Prop where
  enqueueIndex : q.enqueueIndex = .ofNat entered
  dequeueIndex : q.dequeueIndex = .ofNat left
  behind : -2 ^ 63 ≤ (entered : Int) - left
  ahead : (entered : Int) - left < 2 ^ 63

namespace Reads

theorem toNat_length (admitted : Admitted capacity) (reads : q.Reads entered left) :
    q.length.toNat = min (entered - left) capacity.toNat := by
  have behind := reads.behind
  have ahead := reads.ahead
  rw [length, reads.enqueueIndex, reads.dequeueIndex,
    toNat_lengthBetween admitted (by omega) (by omega)]

/-- Subtraction of naturals is what the clamp at zero makes of the difference. -/
theorem length_eq_clamped (admitted : Admitted capacity) (reads : q.Reads entered left) :
    (q.length.toNat : Int) = min (max ((entered : Int) - left) 0) capacity.toNat := by
  rw [reads.toNat_length admitted]
  omega

theorem length_eq_zero_iff (admitted : Admitted capacity) (reads : q.Reads entered left) :
    q.length = 0 ↔ entered ≤ left := by
  have bounds := admitted.bounds
  rw [← UInt64.toNat_inj, reads.toNat_length admitted, UInt64.toNat_zero]
  omega

theorem isEmpty_iff (admitted : Admitted capacity) (reads : q.Reads entered left) :
    q.isEmpty = true ↔ entered ≤ left := by
  rw [isEmpty, beq_iff_eq, reads.length_eq_zero_iff admitted]

theorem length_le_capacity (admitted : Admitted capacity) (reads : q.Reads entered left) :
    q.length ≤ capacity := by
  rw [UInt64.le_iff_toNat_le, reads.toNat_length admitted]
  exact Nat.min_le_right ..

/-- A later first reading and an earlier second one never make the answer smaller. -/
theorem length_le_length (admitted : Admitted capacity) (reads : q.Reads entered left) {more less : Nat}
    (readsToo : r.Reads more less) (later : entered ≤ more) (earlier : less ≤ left) :
    q.length ≤ r.length := by
  rw [UInt64.le_iff_toNat_le, reads.toNat_length admitted, readsToo.toNat_length admitted]
  omega

end Reads

/-- The length for any two readings: the exact difference of the two counts, held between zero and
the capacity. So a stale first reading reads as empty and a stale second one as no more than full,
nothing is lost of a difference that can be stored, and the answer follows both counts, on whichever
side of the largest word they are. -/
theorem length_of_torn_reads (admitted : Admitted capacity) (reads : q.Reads entered left) :
    (q.length.toNat : Int) = min (max ((entered : Int) - left) 0) capacity.toNat ∧
    (q.isEmpty = true ↔ entered ≤ left) ∧
    (entered ≤ left → q.length = 0) ∧
    q.length ≤ capacity ∧
    (left ≤ entered → entered ≤ left + capacity.toNat →
      (q.length.toNat : Int) = (entered : Int) - left) ∧
    ∀ (r : Mpmc α capacity) (more less : Nat), r.Reads more less → entered ≤ more → less ≤ left →
      q.length ≤ r.length := by
  have exactly := reads.length_eq_clamped admitted
  refine ⟨exactly, reads.isEmpty_iff admitted, (reads.length_eq_zero_iff admitted).mpr,
    reads.length_le_capacity admitted, fun stored fits => ?_, fun r more less readsToo => ?_⟩
  · rw [exactly]
    omega
  · exact reads.length_le_length admitted readsToo

/-- An empty queue whose indices read as these counts. -/
def showing (entered left : Nat) : Mpmc α capacity :=
  { (startingAt 0 : Mpmc α capacity) with
    enqueueIndex := .ofNat entered, dequeueIndex := .ofNat left }

/-- Two slots, with counts on either side of the largest word. The readings are of two elements, of a
stale first index, and of a second index so stale that four elements more than fit seem stored. -/
theorem length_of_reads_across_the_word : Admitted 2 ∧
    (showing (2 ^ 64 + 1) (2 ^ 64 - 1) : Mpmc Nat 2).length = 2 ∧
    (showing (2 ^ 64 - 1) (2 ^ 64 + 1) : Mpmc Nat 2).length = 0 ∧
    (showing (2 ^ 64 - 1) (2 ^ 64 + 1) : Mpmc Nat 2).isEmpty = true ∧
    (showing (2 ^ 64 + 5) (2 ^ 64 - 1) : Mpmc Nat 2).length = 2 := by
  have stored : (showing (2 ^ 64 + 1) (2 ^ 64 - 1) : Mpmc Nat 2).Reads (2 ^ 64 + 1) (2 ^ 64 - 1) :=
    ⟨rfl, rfl, by decide, by decide⟩
  have behind : (showing (2 ^ 64 - 1) (2 ^ 64 + 1) : Mpmc Nat 2).Reads (2 ^ 64 - 1) (2 ^ 64 + 1) :=
    ⟨rfl, rfl, by decide, by decide⟩
  have beyond : (showing (2 ^ 64 + 5) (2 ^ 64 - 1) : Mpmc Nat 2).Reads (2 ^ 64 + 5) (2 ^ 64 - 1) :=
    ⟨rfl, rfl, by decide, by decide⟩
  obtain ⟨two, -⟩ := length_of_torn_reads admitted_two stored
  obtain ⟨-, empty, stale, -⟩ := length_of_torn_reads admitted_two behind
  obtain ⟨full, -⟩ := length_of_torn_reads admitted_two beyond
  exact ⟨admitted_two, UInt64.toNat_inj.mp (Int.ofNat.inj two), stale (by decide),
    empty.mpr (by decide), UInt64.toNat_inj.mp (Int.ofNat.inj full)⟩

end RingQueue.Queue.Mpmc
