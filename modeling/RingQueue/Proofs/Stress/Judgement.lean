import Mathlib.Algebra.GroupWithZero.Nat
import Mathlib.Data.List.Forall2
import RingQueue.Proofs.Stress.Verdict

/-! Verdicts in exact numbers. Nothing is assumed of the batches: values may be missing, may come
twice or may belong to nobody, and the product of producers and items need not fit in a word. Main
results: "exactly once" says just that the batches together are a rearrangement of the numbers from
one to the total, and "in order" just that in every batch every producer's values increase. -/
namespace RingQueue.Verdict

variable {producers items total : UInt64}

theorem toNat_expectedTotal (producers items : UInt64) :
    (expectedTotal producers items).toNat = min (producers.toNat * items.toNat) (2 ^ 64 - 1) := by
  unfold expectedTotal
  split
  · rename_i fits
    rw [UInt64.toNat_mul, Nat.mod_eq_of_lt fits]
    omega
  · rename_i large
    rw [UInt64.toNat_ofNat_of_lt' (by decide)]
    omega

theorem map_toNat_everyValue (total : UInt64) :
    (everyValue total).map UInt64.toNat = List.range' 1 total.toNat := by
  rw [everyValue, List.map_map, List.range'_eq_map_range]
  refine List.map_congr_left fun i early => ?_
  exact (toNat_number (List.mem_range.mp early)).trans (Nat.add_comm i 1)

theorem perm_everyValue_iff_numbers {values : List UInt64} : values.Perm (everyValue total) ↔
    (values.map UInt64.toNat).Perm (List.range' 1 total.toNat) := by
  rw [← map_toNat_everyValue]
  exact (List.map_perm_map_iff fun _ _ => UInt64.toNat_inj.mp).symm

/-- Every value exactly once. The count is right, and the verdict is the truth about all batches
taken together, so it stays the same however the values are shared out among batches and ordered
within them. -/
theorem exactlyOnce_iff_rearranged (producers items : UInt64) {batches : List (List UInt64)}
    (short : (batches.map List.length).sum < 2 ^ 64) :
    ∃ verdict, ofBatches producers items batches = .ok verdict ∧
      verdict.received.toNat = (batches.map List.length).sum ∧
      (verdict.exactlyOnce = true ↔ (batches.flatten.map UInt64.toNat).Perm
        (List.range' 1 (min (producers.toNat * items.toNat) (2 ^ 64 - 1)))) ∧
      ∀ others : List (List UInt64), others.flatten.Perm batches.flatten →
        ∃ other, ofBatches producers items others = .ok other ∧
          other.received = verdict.received ∧ other.exactlyOnce = verdict.exactlyOnce := by
  rw [← List.length_flatten] at short ⊢
  obtain ⟨verdict, judged, received, once, -⟩ := ofBatches_spec producers items batches short
  refine ⟨verdict, judged, received, ?_, fun others same => ?_⟩
  · rw [once, perm_everyValue_iff_numbers, toNat_expectedTotal]
  · obtain ⟨other, judgedToo, receivedToo, onceToo, -⟩ :=
      ofBatches_spec producers items others (by rwa [same.length_eq])
    refine ⟨other, judgedToo, UInt64.toNat_inj.mp ?_, Bool.eq_iff_iff.mpr ?_⟩
    · rw [received, receivedToo, same.length_eq]
    · rw [once, onceToo]
      exact ⟨same.symm.trans, same.trans⟩

/-- Two producers of two values each. One value came twice and another is missing, so that the count
alone is right; with the missing one in place of the second copy all is well, in whatever order. -/
theorem exactlyOnce_beyond_the_count :
    (([[1, 2], [2, 4]] : List (List UInt64)).map List.length).sum < 2 ^ 64 ∧
    (([[4, 2], [3, 1]] : List (List UInt64)).map List.length).sum < 2 ^ 64 ∧
    (∃ verdict, ofBatches 2 2 [[1, 2], [2, 4]] = .ok verdict ∧ verdict.received.toNat = 4 ∧
      verdict.exactlyOnce = false) ∧
    ∃ verdict, ofBatches 2 2 [[4, 2], [3, 1]] = .ok verdict ∧ verdict.received.toNat = 4 ∧
      verdict.exactlyOnce = true := by
  obtain ⟨wrong, judged, received, once, -⟩ :=
    @exactlyOnce_iff_rearranged 2 2 [[1, 2], [2, 4]] (by decide)
  obtain ⟨right, judgedToo, receivedToo, onceToo, -⟩ :=
    @exactlyOnce_iff_rearranged 2 2 [[4, 2], [3, 1]] (by decide)
  refine ⟨by decide, by decide, ⟨wrong, judged, received, ?_⟩, right, judgedToo, receivedToo, ?_⟩
  · rw [Bool.eq_false_iff, Ne, once]
    decide
  · rw [onceToo]
    decide

/-- What a producer sent of a batch: the values from one to the total that its remainder tells. -/
def share (producers : UInt64) (total producer : Nat) (values : List UInt64) : List UInt64 :=
  values.filter fun v =>
    1 ≤ v.toNat ∧ v.toNat ≤ total ∧ (v.toNat - 1) % producers.toNat = producer

theorem toNat_owner {v : UInt64} (owned : Owned total v) :
    (owner producers v).toNat = (v.toNat - 1) % producers.toNat := by
  rw [owner, UInt64.toNat_mod, toNat_rank owned]

/-- Values of one producer are those of one remainder, so the order among all of them is the order
in each producer's share. -/
theorem inOrder_iff_share (exist : total ≠ 0 → producers ≠ 0) {values : List UInt64} :
    InOrder producers total values ↔ ∀ producer < producers.toNat,
      (share producers total.toNat producer values).Pairwise (· < ·) := by
  simp only [InOrder, share, List.pairwise_filter]
  simp only [List.pairwise_iff_forall_sublist, decide_eq_true_eq]
  constructor
  · rintro inOrder producer - a b both ⟨lowA, highA, rankA⟩ ⟨lowB, highB, rankB⟩
    have ownedA : Owned total a := ⟨lowA, highA⟩
    have ownedB : Owned total b := ⟨lowB, highB⟩
    refine inOrder both ownedA ownedB (UInt64.toNat_inj.mp ?_)
    rw [toNat_owner ownedA, toNat_owner ownedB, rankA, rankB]
  · intro increasing a b both ownedA ownedB same
    have some : producers ≠ 0 := by
      apply exist
      rintro rfl
      obtain ⟨low, high⟩ := ownedA
      rw [UInt64.toNat_zero] at high
      omega
    have inside : (owner producers a).toNat < producers.toNat :=
      UInt64.lt_iff_toNat_lt.mp (UInt64.mod_lt _ (UInt64.pos_iff_ne_zero.mpr some))
    refine increasing _ inside both ⟨ownedA.1, ownedA.2, (toNat_owner ownedA).symm⟩
      ⟨ownedB.1, ownedB.2, ?_⟩
    rw [same, toNat_owner ownedB]

/-- In every batch the values of every producer increase. -/
def Increasing (producers : UInt64) (total : Nat) (batches : List (List UInt64)) : Prop :=
  ∀ values ∈ batches, ∀ producer < producers.toNat,
    (share producers total producer values).Pairwise (· < ·)

/-- One batch beside the other, the same values of every producer. -/
def SameShares (producers : UInt64) (total : Nat) : List (List UInt64) → List (List UInt64) → Prop :=
  List.Forall₂ fun values other => ∀ producer < producers.toNat,
    share producers total producer values = share producers total producer other

theorem SameShares.increasing_iff {total : Nat} {batches others : List (List UInt64)}
    (same : SameShares producers total batches others) :
    Increasing producers total batches ↔ Increasing producers total others := by
  induction same with
  | nil => rfl
  | cons shares _ ih =>
    simp only [Increasing, List.forall_mem_cons] at ih ⊢
    rw [ih]
    refine and_congr_left fun _ => forall₂_congr fun producer inside => ?_
    rw [shares producer inside]

theorem exists_producerOrder_iff (producers items : UInt64) (batches : List (List UInt64)) :
    ∃ verdict, ofBatches producers items batches = .ok verdict ∧ (verdict.producerOrder = true ↔
      Increasing producers (min (producers.toNat * items.toNat) (2 ^ 64 - 1)) batches) := by
  obtain ⟨progress, -, -, order, judged⟩ := exists_progress producers items batches
  refine ⟨_, judged, ?_⟩
  simp only [order, inOrder_iff_share expectedTotal_ne_zero, toNat_expectedTotal, Increasing]

/-- Every producer's values in order. The verdict looks at each producer's share of each batch and at
nothing else: other batches with the same shares are judged alike, whatever stands between the
values and however many values there are in all. -/
theorem producerOrder_iff_increasing (producers items : UInt64) (batches : List (List UInt64)) :
    ∃ verdict, ofBatches producers items batches = .ok verdict ∧
      (verdict.producerOrder = true ↔
        Increasing producers (min (producers.toNat * items.toNat) (2 ^ 64 - 1)) batches) ∧
      ∀ others, SameShares producers (min (producers.toNat * items.toNat) (2 ^ 64 - 1))
          batches others →
        ∃ other, ofBatches producers items others = .ok other ∧
          other.producerOrder = verdict.producerOrder := by
  obtain ⟨verdict, judged, order⟩ := exists_producerOrder_iff producers items batches
  refine ⟨verdict, judged, order, fun others same => ?_⟩
  obtain ⟨other, judgedToo, orderToo⟩ := exists_producerOrder_iff producers items others
  refine ⟨other, judgedToo, Bool.eq_iff_iff.mpr ?_⟩
  rw [order, orderToo, same.increasing_iff]

/-- Two producers of two values each. Values that nobody sent change nothing, though the count is wrong
with them; but a value after a later one of its producer is noticed across others in between. -/
theorem producerOrder_among_strangers :
    (∃ verdict, ofBatches 2 2 [[3, 2, 4], [1]] = .ok verdict ∧ verdict.producerOrder = true) ∧
    (∃ verdict, ofBatches 2 2 [[3, 9, 2, 0, 4], [7, 1]] = .ok verdict ∧
      verdict.producerOrder = true) ∧
    ∃ verdict, ofBatches 2 2 [[3, 2, 4, 1]] = .ok verdict ∧ verdict.producerOrder = false := by
  obtain ⟨plain, judged, order, alike⟩ := producerOrder_iff_increasing 2 2 [[3, 2, 4], [1]]
  obtain ⟨wrong, judgedToo, orderToo, -⟩ := producerOrder_iff_increasing 2 2 [[3, 2, 4, 1]]
  have inOrder : plain.producerOrder = true := by
    rw [order, Increasing]
    decide
  obtain ⟨strange, judgedStrange, same⟩ := alike [[3, 9, 2, 0, 4], [7, 1]]
    (.cons (by decide) (.cons (by decide) .nil))
  refine ⟨⟨plain, judged, inOrder⟩, ⟨strange, judgedStrange, same.trans inOrder⟩,
    wrong, judgedToo, ?_⟩
  rw [Bool.eq_false_iff, Ne, orderToo, Increasing]
  decide

end RingQueue.Verdict
