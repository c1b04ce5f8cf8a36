import Mathlib.Algebra.GroupWithZero.Nat
import Mathlib.Data.List.Perm.Subperm
import RingQueue.Proofs.Stress.Interleaving
import RingQueue.Proofs.Stress.Verdict
import RingQueue.Stress.Race

/-! The way of the values from the producers to the consumers: each producer sends the first of its
values, these are merged in some order, and some of the merged values are shared out. Main result: a
run like this is never judged to be out of order, and it is judged complete just if it is. -/
namespace RingQueue

open RingQueue.Verdict

namespace Race

/-- The value that a producer sends after `sent` others, as an exact number. -/
def valueOf (producers : UInt64) (id sent : Nat) : UInt64 := .ofNat (sent * producers.toNat + id + 1)

/-- The first `count` values of a producer. -/
def valuesOf (producers : UInt64) (id count : Nat) : List UInt64 :=
  (List.range count).map (valueOf producers id)

theorem valuesOf_succ (producers : UInt64) (id count : Nat) :
    valuesOf producers id (count + 1) =
      valuesOf producers id count ++ [valueOf producers id count] := by
  simp [valuesOf, List.range_succ]

variable {producers items total : UInt64} {id sent : Nat}

theorem valueOf_le (inside : id < producers.toNat) (early : sent < items.toNat) :
    sent * producers.toNat + id + 1 ≤ producers.toNat * items.toNat :=
  calc sent * producers.toNat + id + 1
      ≤ (sent + 1) * producers.toNat := by rw [Nat.succ_mul]; omega
    _ ≤ items.toNat * producers.toNat := Nat.mul_le_mul_right _ early
    _ = producers.toNat * items.toNat := Nat.mul_comm ..

section Exact

variable (total_eq : total.toNat = producers.toNat * items.toNat)
include total_eq

theorem toNat_valueOf (inside : id < producers.toNat) (early : sent < items.toNat) :
    (valueOf producers id sent).toNat = sent * producers.toNat + id + 1 := by
  have bound := total.toNat_lt
  have le := valueOf_le inside early
  exact UInt64.toNat_ofNat_of_lt' (Nat.lt_of_le_of_lt le (total_eq ▸ bound))

/-- The machine's arithmetic gives just this value: nothing overflows. -/
theorem valueAt_eq (inside : id < producers.toNat) (early : sent < items.toNat) :
    valueAt producers (.ofNat id) (.ofNat sent) = .ok (valueOf producers id sent) := by
  have word := total.toNat_lt
  have le := valueOf_le inside early
  rw [← total_eq] at le
  have many := items.toNat_lt
  have few := producers.toNat_lt
  have toNat_sent : (UInt64.ofNat sent).toNat = sent := UInt64.toNat_ofNat_of_lt' (Nat.lt_trans early many)
  have toNat_id : (UInt64.ofNat id).toNat = id := UInt64.toNat_ofNat_of_lt' (Nat.lt_trans inside few)
  have product : Exact.mul (.ofNat sent) producers = .ok (.ofNat (sent * producers.toNat)) := by
    rw [Exact.mul, toNat_sent, if_pos (by omega), UInt64.ofNat_mul, UInt64.ofNat_toNat]
  have shifted : Exact.add (.ofNat (sent * producers.toNat)) (.ofNat id) =
      .ok (.ofNat (sent * producers.toNat + id)) := by
    rw [Exact.add, toNat_id, UInt64.toNat_ofNat_of_lt' (Nat.lt_of_le_of_lt (by omega) word),
      if_pos (by omega), UInt64.ofNat_add]
  have last : Exact.add (.ofNat (sent * producers.toNat + id)) 1 =
      .ok (valueOf producers id sent) := by
    rw [Exact.add, UInt64.toNat_ofNat_of_lt' (Nat.lt_of_le_of_lt (by omega) word), UInt64.toNat_one,
      if_pos (by omega), valueOf, UInt64.ofNat_add _ 1]
    rfl
  simp only [valueAt, product, shifted, last, bind, Except.bind]

theorem owned_valueOf (inside : id < producers.toNat) (early : sent < items.toNat) :
    Owned total (valueOf producers id sent) := by
  have le := valueOf_le inside early
  rw [Owned, toNat_valueOf total_eq inside early, total_eq]
  omega

/-- The remainder tells whose value it is. -/
theorem owner_valueOf (inside : id < producers.toNat) (early : sent < items.toNat) :
    owner producers (valueOf producers id sent) = .ofNat id := by
  apply UInt64.toNat_inj.mp
  rw [owner, UInt64.toNat_mod, toNat_rank (owned_valueOf total_eq inside early),
    toNat_valueOf total_eq inside early, Nat.add_sub_cancel, Nat.mul_add_mod_self_right,
    Nat.mod_eq_of_lt inside, UInt64.toNat_ofNat_of_lt' (Nat.lt_trans inside producers.toNat_lt)]

theorem valueOf_lt {later : Nat} (inside : id < producers.toNat) (early : later < items.toNat)
    (lt : sent < later) : valueOf producers id sent < valueOf producers id later := by
  rw [UInt64.lt_iff_toNat_lt, toNat_valueOf total_eq inside (Nat.lt_trans lt early),
    toNat_valueOf total_eq inside early]
  have := Nat.mul_lt_mul_of_pos_right lt (Nat.zero_lt_of_lt inside)
  omega

/-- Every value up to the total is one that a producer sends. -/
theorem exists_valueOf {v : UInt64} (owned : Owned total v) :
    ∃ id < producers.toNat, ∃ sent < items.toNat, valueOf producers id sent = v := by
  obtain ⟨low, high⟩ := owned
  rw [total_eq] at high
  have some : 0 < producers.toNat := Nat.pos_of_ne_zero fun none => by
    rw [none, Nat.zero_mul] at high
    omega
  refine ⟨(v.toNat - 1) % producers.toNat, Nat.mod_lt _ some, (v.toNat - 1) / producers.toNat, ?_, ?_⟩
  · rw [Nat.div_lt_iff_lt_mul some, Nat.mul_comm]
    omega
  · rw [valueOf, Nat.mul_comm, Nat.div_add_mod, Nat.sub_add_cancel low, UInt64.ofNat_toNat]

end Exact
end Race

open Race

/-- How far the values have come: `sent` of each producer's are merged into `entered`, and those
that have `left` again are shared out into batches. -/
structure Deliveries (producers items : UInt64) (sent : Nat → Nat) (entered left : List UInt64)
    (batches : List (List UInt64)) : Prop where
  within : ∀ id < producers.toNat, sent id ≤ items.toNat
  merged : Interleaves ((List.range producers.toNat).map fun id => valuesOf producers id (sent id))
    entered
  some : left.Sublist entered
  shared : Interleaves batches left

namespace Deliveries

variable {producers items total : UInt64} {sent : Nat → Nat} {entered left : List UInt64}
  {batches : List (List UInt64)}

theorem exists_of_mem (deliveries : Deliveries producers items sent entered left batches)
    {v : UInt64} (member : v ∈ entered) :
    ∃ id < producers.toNat, ∃ k < items.toNat, v = valueOf producers id k := by
  obtain ⟨piece, source, inPiece⟩ := List.mem_flatten.mp (deliveries.merged.perm.mem_iff.mpr member)
  obtain ⟨id, inside, rfl⟩ := List.mem_map.mp source
  obtain ⟨k, early, rfl⟩ := List.mem_map.mp inPiece
  rw [List.mem_range] at inside early
  exact ⟨id, inside, k, Nat.lt_of_lt_of_le early (deliveries.within id inside), rfl⟩

section Exact

variable (total_eq : total.toNat = producers.toNat * items.toNat)
include total_eq

theorem owned (deliveries : Deliveries producers items sent entered left batches) :
    ∀ v ∈ entered, Owned total v := by
  intro v member
  obtain ⟨id, inside, k, early, rfl⟩ := deliveries.exists_of_mem member
  exact owned_valueOf total_eq inside early

/-- Wherever the merge puts them, the values of one producer stay in increasing order and are told
from those of the others. -/
theorem increasing (deliveries : Deliveries producers items sent entered left batches) :
    entered.Pairwise fun a b => a ≠ b ∧ (owner producers a = owner producers b → a < b) := by
  apply deliveries.merged.pairwise
  · intro piece source
    obtain ⟨id, inside, rfl⟩ := List.mem_map.mp source
    rw [List.mem_range] at inside
    rw [valuesOf, List.pairwise_map]
    refine List.pairwise_lt_range.imp_of_mem ?_
    intro j k _ early lt
    have early := Nat.lt_of_lt_of_le (List.mem_range.mp early) (deliveries.within id inside)
    have less := valueOf_lt total_eq inside early lt
    exact ⟨UInt64.ne_of_lt less, fun _ => less⟩
  · intro i j a b apart at_i at_j x inA y inB
    have source {k : Nat} {piece : List UInt64} (found : ((List.range producers.toNat).map fun id =>
        valuesOf producers id (sent id))[k]? = Option.some piece) :
        ∀ z ∈ piece, owner producers z = .ofNat k ∧ k < producers.toNat := by
      intro z member
      rw [List.getElem?_map, Option.map_eq_some_iff] at found
      obtain ⟨id, place, rfl⟩ := found
      obtain ⟨inside, rfl⟩ := List.getElem?_eq_some_iff.mp place
      rw [List.length_range] at inside
      rw [List.getElem_range] at member
      obtain ⟨n, early, rfl⟩ := List.mem_map.mp member
      have early := Nat.lt_of_lt_of_le (List.mem_range.mp early) (deliveries.within k inside)
      exact ⟨owner_valueOf total_eq inside early, inside⟩
    obtain ⟨ownerX, insideX⟩ := source at_i x inA
    obtain ⟨ownerY, insideY⟩ := source at_j y inB
    have owners : owner producers x ≠ owner producers y := by
      rw [ownerX, ownerY]
      intro same
      have bound := producers.toNat_lt
      have same := congrArg UInt64.toNat same
      rw [UInt64.toNat_ofNat_of_lt' (Nat.lt_trans insideX bound),
        UInt64.toNat_ofNat_of_lt' (Nat.lt_trans insideY bound)] at same
      exact apart same
    exact ⟨fun same => owners (congrArg _ same), fun same => absurd same owners⟩

theorem nodup (deliveries : Deliveries producers items sent entered left batches) :
    entered.Nodup :=
  (deliveries.increasing total_eq).imp And.left

theorem inOrder (deliveries : Deliveries producers items sent entered left batches) :
    ∀ values ∈ batches, InOrder producers total values := by
  intro values member
  have part := (deliveries.shared.sublist member).trans deliveries.some
  refine ((deliveries.increasing total_eq).sublist part).imp ?_
  rintro a b ⟨-, less⟩ _ _ same
  exact less same

theorem subperm (deliveries : Deliveries producers items sent entered left batches) :
    entered.Subperm (everyValue total) :=
  List.Nodup.subperm (deliveries.nodup total_eq) fun v member =>
    mem_everyValue.mpr (deliveries.owned total_eq v member)

theorem length_le (deliveries : Deliveries producers items sent entered left batches) :
    entered.length ≤ total.toNat := by
  rw [← length_everyValue]
  exact (deliveries.subperm total_eq).length_le

/-- The values that came out are all there are as soon as their number is right. -/
theorem perm_iff (deliveries : Deliveries producers items sent entered left batches) :
    left.Perm (everyValue total) ↔ total.toNat ≤ left.length := by
  rw [← length_everyValue]
  constructor
  · exact fun same => Nat.le_of_eq same.length_eq.symm
  · exact (deliveries.some.subperm.trans (deliveries.subperm total_eq)).perm_of_length_le

end Exact

/-- As many values have entered as the producers have sent together. -/
theorem length_entered (deliveries : Deliveries producers items sent entered left batches) :
    entered.length = ((List.range producers.toNat).map sent).sum := by
  rw [← deliveries.merged.perm.length_eq, List.length_flatten, List.map_map]
  congr 1
  exact List.map_congr_left fun id _ => by simp [valuesOf]

/-- A producer's next value enters. -/
theorem enter (deliveries : Deliveries producers items sent entered left batches) {id : Nat}
    (inside : id < producers.toNat) (early : sent id < items.toNat) {after : Nat → Nat}
    (counted : ∀ other, after other = if other = id then sent id + 1 else sent other) :
    Deliveries producers items after (entered ++ [valueOf producers id (sent id)]) left batches where
  within other bound := by
    rw [counted]
    split
    · exact early
    · exact deliveries.within other bound
  merged := by
    have place : ((List.range producers.toNat).map fun id => valuesOf producers id (sent id))[id]? =
        Option.some (valuesOf producers id (sent id)) := by
      rw [List.getElem?_map, List.getElem?_range inside]
      rfl
    have grown := deliveries.merged.snoc place (valueOf producers id (sent id))
    rw [← valuesOf_succ] at grown
    convert grown using 1
    apply List.ext_getElem
    · simp
    · intro other bound _
      rw [List.getElem_set, List.getElem_map, List.getElem_range, List.getElem_map,
        List.getElem_range, counted]
      by_cases same : id = other
      · subst id
        rw [if_pos rfl, if_pos rfl]
      · rw [if_neg same, if_neg (Ne.symm same)]
  some := deliveries.some.trans (List.sublist_append_left ..)
  shared := deliveries.shared

/-- The oldest value that has not left yet goes to a consumer. -/
theorem leave {v : UInt64} {rest batch : List UInt64} {i : Nat}
    (deliveries : Deliveries producers items sent (left ++ v :: rest) left batches)
    (place : batches[i]? = Option.some batch) :
    Deliveries producers items sent (left ++ [v] ++ rest) (left ++ [v])
      (batches.set i (batch ++ [v])) where
  within := deliveries.within
  merged := by
    rw [List.append_assoc]
    exact deliveries.merged
  some := List.sublist_append_left ..
  shared := deliveries.shared.snoc place v

theorem expectedTotal_eq (fits : producers.toNat * items.toNat < 2 ^ 64) :
    (expectedTotal producers items).toNat = producers.toNat * items.toNat := by
  rw [expectedTotal, if_pos fits, UInt64.toNat_mul, Nat.mod_eq_of_lt fits]

/-- The verdict on what came out. -/
theorem verdict (deliveries : Deliveries producers items sent entered left batches)
    (fits : producers.toNat * items.toNat < 2 ^ 64) :
    ∃ verdict, ofBatches producers items batches = .ok verdict ∧
      verdict.received.toNat = left.length ∧ verdict.producerOrder = true ∧
      (verdict.exactlyOnce = true ↔ left.Perm (everyValue (expectedTotal producers items))) := by
  have total_eq := expectedTotal_eq fits
  have perm := deliveries.shared.perm
  have short := Nat.le_trans deliveries.some.length_le (deliveries.length_le total_eq)
  obtain ⟨verdict, judged, received, once, order⟩ := ofBatches_spec producers items batches
    (by rw [perm.length_eq]; omega)
  refine ⟨verdict, judged, received.trans perm.length_eq,
    order.mpr (deliveries.inOrder total_eq), once.trans ?_⟩
  exact ⟨perm.symm.trans, perm.trans⟩

end Deliveries

/-- No false alarm. Let each producer send the first few of its values, let these be merged in any
order, and let some of the merged ones go to consumers, of which there may be any number, so that
each keeps the order. The verdict then counts what was delivered and finds every producer's values
in order, and it finds each value exactly once just if all values were delivered. -/
theorem verdict_of_interleaving {producers items : UInt64}
    (small : producers.toNat * items.toNat ≤ 2 ^ 32) {sent : Nat → Nat}
    (prefixes : ∀ id < producers.toNat, sent id ≤ items.toNat) {entered delivered : List UInt64}
    (merged : Interleaves ((List.range producers.toNat).map fun id =>
      (List.range (sent id)).map fun k => .ofNat (k * producers.toNat + id + 1)) entered)
    (some : delivered.Sublist entered) {batches : List (List UInt64)}
    (shared : Interleaves batches delivered) :
    (∀ id < producers.toNat, ∀ k < items.toNat, Race.valueAt producers (.ofNat id) (.ofNat k) =
      .ok (.ofNat (k * producers.toNat + id + 1))) ∧
    ∃ verdict, ofBatches producers items batches = .ok verdict ∧
      verdict.received.toNat = delivered.length ∧ verdict.producerOrder = true ∧
      (verdict.exactlyOnce = true ↔ ∀ id < producers.toNat, ∀ k < items.toNat,
        UInt64.ofNat (k * producers.toNat + id + 1) ∈ delivered) := by
  have fits : producers.toNat * items.toNat < 2 ^ 64 := by omega
  have total_eq := Deliveries.expectedTotal_eq fits
  have deliveries : Deliveries producers items sent entered delivered batches :=
    ⟨prefixes, merged, some, shared⟩
  obtain ⟨verdict, judged, received, order, once⟩ := deliveries.verdict fits
  refine ⟨fun id inside k early => valueAt_eq total_eq inside early,
    verdict, judged, received, order, ?_⟩
  rw [once, perm_everyValue_iff]
  constructor
  · rintro ⟨-, -, every⟩ id inside k early
    exact every _ (owned_valueOf total_eq inside early)
  · intro every
    refine ⟨(deliveries.nodup total_eq).sublist some,
      fun v member => deliveries.owned total_eq v (some.subset member), fun v owned => ?_⟩
    obtain ⟨id, inside, k, early, rfl⟩ := exists_valueOf total_eq owned
    exact every id inside k early

/-- Two producers of two values each, the second cut off after its first; it comes first in the
queue, one value is lost and each of two consumers gets another. -/
theorem verdict_of_cut_interleaving :
    (2 : UInt64).toNat * (2 : UInt64).toNat ≤ 2 ^ 32 ∧ Interleaves [[1, 3], [(2 : UInt64)]] [2, 1, 3] ∧
    [(2 : UInt64), 3].Sublist [2, 1, 3] ∧ Interleaves [[(3 : UInt64)], [2]] [2, 3] ∧
    ∃ verdict, ofBatches 2 2 [[3], [2]] = .ok verdict ∧ verdict.received.toNat = 2 ∧
      verdict.producerOrder = true ∧ verdict.exactlyOnce = false := by
  have small : (2 : UInt64).toNat * (2 : UInt64).toNat ≤ 2 ^ 32 := by decide
  have merged : Interleaves [[1, 3], [(2 : UInt64)]] [2, 1, 3] :=
    (((Interleaves.nil 2).snoc (i := 1) rfl 2).snoc (i := 0) rfl 1).snoc (i := 0) rfl 3
  have some : [(2 : UInt64), 3].Sublist [2, 1, 3] := by decide
  have shared : Interleaves [[(3 : UInt64)], [2]] [2, 3] :=
    ((Interleaves.nil 2).snoc (i := 1) rfl 2).snoc (i := 0) rfl 3
  obtain ⟨-, verdict, judged, received, order, once⟩ := @verdict_of_interleaving 2 2 small
    (fun id => 2 - id) (by decide) _ _ merged some _ shared
  refine ⟨small, merged, some, shared, verdict, judged, received, order, ?_⟩
  rw [Bool.eq_false_iff, Ne, once]
  decide

end RingQueue
