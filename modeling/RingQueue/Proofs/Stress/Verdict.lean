import Mathlib.Data.List.Nodup
import Mathlib.Data.List.Perm.Basic
import RingQueue.Stress.Verdict

/-! What a verdict says, in terms of the batches alone. The checker goes over the values once and
keeps marks, two flags and the last value of each producer; here each of these is tied to the list
of the values so far, and the last value with it to the batch it is in. Main result: it always
reaches a verdict, "exactly once" means that the batches together are a rearrangement of all values,
and "in order" that in no batch two values of one producer stand the wrong way round. -/
namespace RingQueue.Verdict

variable {producers total v : UInt64}

/-- The values from one to the total are those that a producer owns. -/
def Owned (total value : UInt64) : Prop := 1 ≤ value.toNat ∧ value.toNat ≤ total.toNat

def owner (producers value : UInt64) : UInt64 := (value - 1) % producers

/-- No two values of one producer stand the wrong way round, also when others are between them. -/
def InOrder (producers total : UInt64) (values : List UInt64) : Prop :=
  values.Pairwise fun a b =>
    Owned total a → Owned total b → owner producers a = owner producers b → a < b

def everyValue (total : UInt64) : List UInt64 :=
  (List.range total.toNat).map fun i => .ofNat (i + 1)

theorem outside_iff : (v = 0 ∨ total < v) ↔ ¬Owned total v := by
  rw [Owned, ← UInt64.toNat_inj, UInt64.lt_iff_toNat_lt, UInt64.toNat_zero]
  omega

theorem Owned.one_le (inside : Owned total v) : 1 ≤ v := UInt64.le_iff_toNat_le.mpr inside.1

theorem toNat_rank (inside : Owned total v) : (v - 1).toNat = v.toNat - 1 :=
  UInt64.toNat_sub_of_le v 1 inside.one_le

theorem toNat_number {i : Nat} (early : i < total.toNat) : (UInt64.ofNat (i + 1)).toNat = i + 1 :=
  UInt64.toNat_ofNat_of_lt' (Nat.lt_of_le_of_lt early total.toNat_lt)

theorem mem_everyValue : v ∈ everyValue total ↔ Owned total v := by
  rw [everyValue, List.mem_map, Owned]
  constructor
  · rintro ⟨i, early, rfl⟩
    rw [List.mem_range] at early
    rw [toNat_number early]
    omega
  · rintro ⟨low, high⟩
    refine ⟨v.toNat - 1, List.mem_range.mpr (by omega), ?_⟩
    rw [Nat.sub_add_cancel low, UInt64.ofNat_toNat]

theorem nodup_everyValue : (everyValue total).Nodup := by
  refine List.Nodup.map_on ?_ List.nodup_range
  intro i early j earlyToo same
  rw [List.mem_range] at early earlyToo
  have same := congrArg UInt64.toNat same
  rw [toNat_number early, toNat_number earlyToo] at same
  exact Nat.succ.inj same

theorem length_everyValue : (everyValue total).length = total.toNat := by
  rw [everyValue, List.length_map, List.length_range]

section Marks

variable {seen : Option (Array Bool)}

/-- Whether a value has no mark yet. Where no marks are kept every value passes for a new one. -/
def fresh (seen : Option (Array Bool)) (value : UInt64) : Bool :=
  seen.all fun marks => marks[value.toNat - 1]? == some false

theorem mark_eq (inside : Owned total v)
    (sized : ∀ marks, seen = some marks → marks.size = total.toNat) :
    mark seen v = .ok (fresh seen v, seen.map fun marks => marks.set! (v.toNat - 1) true) := by
  cases seen with
  | none => rfl
  | some marks =>
    have size := sized marks rfl
    obtain ⟨low, high⟩ := id inside
    have place : v.toNat - 1 < marks.size := by omega
    have found := Array.getElem?_eq_getElem place
    have rank : Exact.sub v 1 = .ok (v - 1) := if_pos inside.one_le
    have get : Exact.get marks (v - 1) = .ok marks[v.toNat - 1] := by
      rw [Exact.get, toNat_rank inside, found]
    have set : Exact.set marks (v - 1) true = .ok (marks.set! (v.toNat - 1) true) := by
      rw [Exact.set, toNat_rank inside, if_pos place]
    simp only [mark, rank, get, set, bind, Except.bind, pure, Except.pure, fresh, Option.all_some,
      found, Option.map_some]
    cases marks[v.toNat - 1] <;> rfl

end Marks

theorem value_outside (outside : ¬Owned total v) (progress : Progress) (last : LastSeen) :
    value producers total (progress, last) v =
      .ok ({ progress with exactlyOnce := false }, last) := by
  rw [value, if_pos (outside_iff.mpr outside)]

/-- A value of its own producer is marked, compared with that producer's last one and kept as the
last one, whatever comes of the comparison. -/
theorem value_inside (inside : Owned total v) (exist : producers ≠ 0) {progress : Progress}
    {last : LastSeen} (sized : ∀ marks, progress.seen = some marks → marks.size = total.toNat)
    (size : last.size = producers) :
    value producers total (progress, last) v =
      .ok (⟨progress.seen.map fun marks => marks.set! (v.toNat - 1) true,
        progress.exactlyOnce && fresh progress.seen v,
        progress.producerOrder && decide (last.values.getD (owner producers v) 0 < v)⟩,
        ⟨producers, last.values.insert (owner producers v) v⟩) := by
  obtain ⟨count, values⟩ := last
  obtain rfl : count = producers := size
  have positive : 0 < count := UInt64.pos_iff_ne_zero.mpr exist
  have rank : Exact.sub v 1 = .ok (v - 1) := if_pos inside.one_le
  have remainder : Exact.mod (v - 1) count = .ok (owner count v) := if_neg exist
  have inRange : owner count v < count := UInt64.mod_lt _ positive
  have get : LastSeen.get ⟨count, values⟩ (owner count v) = .ok (values.getD (owner count v) 0) :=
    if_pos inRange
  have set : LastSeen.set ⟨count, values⟩ (owner count v) v =
      .ok ⟨count, values.insert (owner count v) v⟩ := if_pos inRange
  rw [value, if_neg (by rw [outside_iff, not_not]; exact inside)]
  simp only [mark_eq inside sized, rank, remainder, get, set, bind, Except.bind, pure, Except.pure]

/-- What the marks and the first flag say of the values so far. -/
structure Tally (total : UInt64) (past : List UInt64) (progress : Progress) : Prop where
  sized : ∀ marks, progress.seen = some marks → marks.size = total.toNat
  marked : ∀ marks, progress.seen = some marks → ∀ i < total.toNat,
    marks[i]? = some (decide (UInt64.ofNat (i + 1) ∈ past))
  once : progress.exactlyOnce = true ↔
    progress.seen.isSome ∧ past.Nodup ∧ ∀ value ∈ past, Owned total value

theorem tally_start (received total : UInt64) :
    Tally total [] (.start received total) ∧
      ((Progress.start received total).seen.isSome ↔ received = total) := by
  unfold Progress.start
  split
  · rename_i same
    refine ⟨⟨?_, ?_, by simp⟩, by simp [same]⟩
    · rintro _ ⟨⟩
      exact Array.size_replicate
    · rintro _ ⟨⟩ i early
      simp [early]
  · rename_i apart
    exact ⟨⟨nofun, nofun, by simp⟩, by simp [apart]⟩

section Values

variable {past values : List UInt64} {progress : Progress} {last : LastSeen} {earlier : Prop}

theorem Tally.fresh_iff (tally : Tally total past progress) (inside : Owned total v) :
    fresh progress.seen v = true ↔ progress.seen.isSome → v ∉ past := by
  cases kept : progress.seen with
  | none => simp [fresh]
  | some marks =>
    obtain ⟨low, high⟩ := id inside
    have mark := tally.marked marks kept (v.toNat - 1) (by omega)
    rw [Nat.sub_add_cancel low, UInt64.ofNat_toNat] at mark
    simp [fresh, mark]

theorem Tally.outside (tally : Tally total past progress) (outside : ¬Owned total v) :
    Tally total (past ++ [v]) { progress with exactlyOnce := false } where
  sized := tally.sized
  marked marks kept i early := by
    have apart : UInt64.ofNat (i + 1) ≠ v := by
      rintro rfl
      apply outside
      rw [Owned, toNat_number early]
      omega
    rw [tally.marked marks kept i early]
    simp only [List.mem_append, List.mem_singleton, or_iff_left apart]
  once := by
    constructor
    · nofun
    · rintro ⟨-, -, inside⟩
      exact absurd (inside v (by simp)) outside

theorem Tally.inside (tally : Tally total past progress) (inside : Owned total v) (order : Bool) :
    Tally total (past ++ [v]) ⟨progress.seen.map fun marks => marks.set! (v.toNat - 1) true,
      progress.exactlyOnce && fresh progress.seen v, order⟩ where
  sized := by
    rintro _ mapped
    obtain ⟨marks, kept, rfl⟩ := Option.map_eq_some_iff.mp mapped
    rw [Array.set!_eq_setIfInBounds, Array.size_setIfInBounds, tally.sized marks kept]
  marked := by
    rintro _ mapped i early
    obtain ⟨marks, kept, rfl⟩ := Option.map_eq_some_iff.mp mapped
    have size := tally.sized marks kept
    obtain ⟨low, high⟩ := id inside
    rw [Array.set!_eq_setIfInBounds]
    by_cases same : v.toNat - 1 = i
    · subst i
      rw [Array.getElem?_setIfInBounds_self_of_lt (by omega), Nat.sub_add_cancel low,
        UInt64.ofNat_toNat]
      simp
    · have apart : UInt64.ofNat (i + 1) ≠ v := by
        rintro rfl
        rw [toNat_number early] at same
        exact same rfl
      rw [Array.getElem?_setIfInBounds_ne same, tally.marked marks kept i early]
      simp only [List.mem_append, List.mem_singleton, or_iff_left apart]
  once := by
    rw [Bool.and_eq_true, tally.once, tally.fresh_iff inside, Option.isSome_map]
    simp only [List.nodup_append, List.mem_append, List.mem_singleton]
    constructor
    · rintro ⟨⟨kept, unique, owned⟩, new⟩
      refine ⟨kept, ⟨unique, List.nodup_singleton v, ?_⟩, ?_⟩
      · rintro a old _ rfl rfl
        exact new kept old
      · rintro a (old | rfl)
        · exact owned a old
        · exact inside
    · rintro ⟨kept, ⟨unique, -, new⟩, owned⟩
      exact ⟨⟨kept, unique, fun a old => owned a (.inl old)⟩,
        fun _ old => new v old v rfl rfl⟩

/-- What the second flag and the last values say of the batch so far. `earlier` is what the flag
said before the batch. Once the order is broken the last values are not the largest any more, but
then nothing depends on them. -/
structure Follows (producers total : UInt64) (values : List UInt64) (earlier : Prop)
    (order : Bool) (last : LastSeen) : Prop where
  size : last.size = producers
  order : order = true ↔ earlier ∧ InOrder producers total values
  occurs : ∀ producer, last.values.getD producer 0 = 0 ∨
    ∃ value ∈ values, Owned total value ∧ owner producers value = producer ∧
      last.values.getD producer 0 = value
  largest : InOrder producers total values → ∀ value ∈ values, Owned total value →
    value ≤ last.values.getD (owner producers value) 0

theorem follows_none {order : Bool} (sticky : order = true ↔ earlier) :
    Follows producers total [] earlier order (.none producers) where
  size := rfl
  order := by rw [sticky, InOrder]; simp
  occurs _ := .inl (by simp [LastSeen.none])
  largest := by simp

theorem inOrder_append_singleton :
    InOrder producers total (values ++ [v]) ↔ InOrder producers total values ∧
      ∀ value ∈ values, Owned total value → Owned total v →
        owner producers value = owner producers v → value < v := by
  simp [InOrder, List.pairwise_append]

theorem Follows.outside {order : Bool} (follows : Follows producers total values earlier order last)
    (outside : ¬Owned total v) : Follows producers total (values ++ [v]) earlier order last where
  size := follows.size
  order := by
    rw [follows.order, inOrder_append_singleton]
    simp [outside]
  occurs producer := by
    rcases follows.occurs producer with none | ⟨value, member, owned, same⟩
    · exact .inl none
    · exact .inr ⟨value, List.mem_append_left _ member, owned, same⟩
  largest := by
    intro inOrder value member owned
    rcases List.mem_append.mp member with old | new
    · exact follows.largest (inOrder_append_singleton.mp inOrder).1 value old owned
    · obtain rfl := List.mem_singleton.mp new
      exact absurd owned outside

/-- Comparing with the last value alone is as good as comparing with all. -/
theorem Follows.inOrder_iff {order : Bool}
    (follows : Follows producers total values earlier order last) (inside : Owned total v) :
    InOrder producers total (values ++ [v]) ↔
      InOrder producers total values ∧ last.values.getD (owner producers v) 0 < v := by
  rw [inOrder_append_singleton]
  constructor
  · rintro ⟨inOrder, above⟩
    refine ⟨inOrder, ?_⟩
    rcases follows.occurs (owner producers v) with none | ⟨value, member, owned, same, latest⟩
    · rw [none, UInt64.lt_iff_toNat_lt]
      exact inside.1
    · rw [latest]
      exact above value member owned inside same
  · rintro ⟨inOrder, above⟩
    refine ⟨inOrder, fun value member owned _ same => ?_⟩
    have := follows.largest inOrder value member owned
    rw [same] at this
    exact UInt64.lt_of_le_of_lt this above

theorem Follows.inside {order : Bool} (follows : Follows producers total values earlier order last)
    (inside : Owned total v) :
    Follows producers total (values ++ [v]) earlier
      (order && decide (last.values.getD (owner producers v) 0 < v))
      ⟨producers, last.values.insert (owner producers v) v⟩ where
  size := rfl
  order := by
    rw [Bool.and_eq_true, decide_eq_true_eq, follows.order, follows.inOrder_iff inside, and_assoc]
  occurs producer := by
    rw [Std.HashMap.getD_insert]
    by_cases same : owner producers v = producer
    · rw [if_pos (beq_iff_eq.mpr same)]
      exact .inr ⟨v, by simp, inside, same, rfl⟩
    · rw [if_neg (by rwa [beq_iff_eq])]
      rcases follows.occurs producer with none | ⟨value, member, owned, rest⟩
      · exact .inl none
      · exact .inr ⟨value, List.mem_append_left _ member, owned, rest⟩
  largest := by
    intro inOrder value member owned
    obtain ⟨before, above⟩ := inOrder_append_singleton.mp inOrder
    rw [Std.HashMap.getD_insert]
    rcases List.mem_append.mp member with old | new
    · by_cases same : owner producers v = owner producers value
      · rw [if_pos (beq_iff_eq.mpr same)]
        exact UInt64.le_of_lt (above value old owned inside same.symm)
      · rw [if_neg (by rwa [beq_iff_eq])]
        exact follows.largest before value old owned
    · obtain rfl := List.mem_singleton.mp new
      rw [if_pos (beq_self_eq_true _)]
      exact UInt64.le_refl value

/-- One value: marks and last values stay tied to what has been seen, and no step fails. -/
theorem value_step (exist : total ≠ 0 → producers ≠ 0) (tally : Tally total past progress)
    (follows : Follows producers total values earlier progress.producerOrder last) (v : UInt64) :
    ∃ next latest, value producers total (progress, last) v = .ok (next, latest) ∧
      next.seen.isSome = progress.seen.isSome ∧ Tally total (past ++ [v]) next ∧
      Follows producers total (values ++ [v]) earlier next.producerOrder latest := by
  by_cases inside : Owned total v
  · have some : total ≠ 0 := by
      rintro rfl
      exact absurd inside.1 (by have := inside.2; rw [UInt64.toNat_zero] at this; omega)
    exact ⟨_, _, value_inside inside (exist some) tally.sized follows.size, Option.isSome_map,
      tally.inside inside _, follows.inside inside⟩
  · exact ⟨_, _, value_outside inside progress last, rfl, tally.outside inside,
      follows.outside inside⟩

theorem values_step (exist : total ≠ 0 → producers ≠ 0) (more : List UInt64)
    (tally : Tally total past progress)
    (follows : Follows producers total values earlier progress.producerOrder last) :
    ∃ next latest, more.foldlM (value producers total) (progress, last) = .ok (next, latest) ∧
      next.seen.isSome = progress.seen.isSome ∧ Tally total (past ++ more) next ∧
      Follows producers total (values ++ more) earlier next.producerOrder latest := by
  induction more generalizing past values progress last with
  | nil => exact ⟨progress, last, rfl, rfl, by simpa using tally, by simpa using follows⟩
  | cons v more ih =>
    obtain ⟨next, latest, first, kept, tally, follows⟩ := value_step exist tally follows v
    obtain ⟨final, lastly, rest, keptToo, tally, follows⟩ := ih tally follows
    refine ⟨final, lastly, ?_, keptToo.trans kept, by simpa using tally, by simpa using follows⟩
    rw [List.foldlM_cons, first]
    exact rest

/-- A batch starts without last values, so only the flag comes over from the batches before. -/
theorem batch_step (exist : total ≠ 0 → producers ≠ 0) (values : List UInt64)
    (tally : Tally total past progress) (order : progress.producerOrder = true ↔ earlier) :
    ∃ next, batch producers total progress values = .ok next ∧
      next.seen.isSome = progress.seen.isSome ∧ Tally total (past ++ values) next ∧
      (next.producerOrder = true ↔ earlier ∧ InOrder producers total values) := by
  obtain ⟨next, latest, ran, kept, tally, follows⟩ :=
    values_step exist values tally (follows_none order)
  refine ⟨next, ?_, kept, tally, follows.order⟩
  rw [batch, ran]
  rfl

theorem batches_step (exist : total ≠ 0 → producers ≠ 0) (batches : List (List UInt64))
    (tally : Tally total past progress) (order : progress.producerOrder = true ↔ earlier) :
    ∃ next, batches.foldlM (batch producers total) progress = .ok next ∧
      next.seen.isSome = progress.seen.isSome ∧ Tally total (past ++ batches.flatten) next ∧
      (next.producerOrder = true ↔
        earlier ∧ ∀ values ∈ batches, InOrder producers total values) := by
  induction batches generalizing past progress earlier with
  | nil => exact ⟨progress, rfl, rfl, by simpa using tally, by simpa using order⟩
  | cons values batches ih =>
    obtain ⟨next, first, kept, tally, order⟩ := batch_step exist values tally order
    obtain ⟨final, rest, keptToo, tally, order⟩ := ih tally order
    refine ⟨final, ?_, keptToo.trans kept, by simpa using tally, ?_⟩
    · rw [List.foldlM_cons, first]
      exact rest
    · rw [order, and_assoc, List.forall_mem_cons]

/-- When the number is right, all marks are set just if every value has come. -/
theorem Tally.all_iff {marks : Array Bool} (tally : Tally total past progress)
    (kept : progress.seen = some marks) :
    marks.all id = true ↔ ∀ value, Owned total value → value ∈ past := by
  have size := tally.sized marks kept
  rw [Array.all_eq_true]
  constructor
  · intro all value owned
    obtain ⟨low, high⟩ := id owned
    have mark := tally.marked marks kept (value.toNat - 1) (by omega)
    have set := all (value.toNat - 1) (by omega)
    rw [Array.getElem?_eq_getElem (by omega), Option.some_inj, Nat.sub_add_cancel low,
      UInt64.ofNat_toNat] at mark
    rw [id, mark, decide_eq_true_eq] at set
    exact set
  · intro every i early
    have early' : i < total.toNat := size ▸ early
    have mark := tally.marked marks kept i early'
    rw [Array.getElem?_eq_getElem early, Option.some_inj] at mark
    rw [id, mark, decide_eq_true_eq]
    apply every
    rw [Owned, toNat_number early']
    omega

end Values

theorem perm_everyValue_iff {values : List UInt64} : values.Perm (everyValue total) ↔
    values.Nodup ∧ (∀ v ∈ values, Owned total v) ∧ ∀ v, Owned total v → v ∈ values := by
  constructor
  · intro same
    refine ⟨same.nodup_iff.mpr nodup_everyValue, ?_, ?_⟩
    · exact fun v member => mem_everyValue.mp (same.mem_iff.mp member)
    · exact fun v owned => same.mem_iff.mpr (mem_everyValue.mpr owned)
  · rintro ⟨unique, owned, every⟩
    rw [List.perm_ext_iff_of_nodup unique nodup_everyValue]
    exact fun v => ⟨fun member => mem_everyValue.mpr (owned v member),
      fun member => every v (mem_everyValue.mp member)⟩

theorem expectedTotal_ne_zero {items : UInt64} :
    expectedTotal producers items ≠ 0 → producers ≠ 0 := by
  rintro some rfl
  apply some
  simp [expectedTotal]

/-- The checker goes through to the end, and its verdict is read off what is known then. No number of
values is too large for the marks and the last values to be right. -/
theorem exists_progress (producers items : UInt64) (batches : List (List UInt64)) :
    ∃ progress, Tally (expectedTotal producers items) batches.flatten progress ∧
      (progress.seen.isSome ↔
        UInt64.ofNat batches.flatten.length = expectedTotal producers items) ∧
      (progress.producerOrder = true ↔
        ∀ values ∈ batches, InOrder producers (expectedTotal producers items) values) ∧
      ofBatches producers items batches = .ok ⟨.ofNat batches.flatten.length,
        progress.exactlyOnce && progress.seen.any fun seen => seen.all id,
        progress.producerOrder⟩ := by
  obtain ⟨initial, counted⟩ :=
    tally_start (UInt64.ofNat batches.flatten.length) (expectedTotal producers items)
  have sticky : (Progress.start (UInt64.ofNat batches.flatten.length)
      (expectedTotal producers items)).producerOrder = true ↔ True := by
    unfold Progress.start
    split <;> simp
  obtain ⟨progress, ran, kept, tally, order⟩ :=
    batches_step expectedTotal_ne_zero batches initial sticky
  refine ⟨progress, by simpa using tally, by rw [kept, counted], by simpa using order, ?_⟩
  simp only [ofBatches, ran, bind, Except.bind, pure, Except.pure]
  cases progress.seen <;> rfl

/-- The verdict in terms of the batches. -/
theorem ofBatches_spec (producers items : UInt64) (batches : List (List UInt64))
    (short : batches.flatten.length < 2 ^ 64) :
    ∃ verdict, ofBatches producers items batches = .ok verdict ∧
      verdict.received.toNat = batches.flatten.length ∧
      (verdict.exactlyOnce = true ↔
        batches.flatten.Perm (everyValue (expectedTotal producers items))) ∧
      (verdict.producerOrder = true ↔
        ∀ values ∈ batches, InOrder producers (expectedTotal producers items) values) := by
  obtain ⟨progress, tally, counted, order, judged⟩ := exists_progress producers items batches
  refine ⟨_, judged, UInt64.toNat_ofNat_of_lt' short, ?_, order⟩
  rw [perm_everyValue_iff]
  cases marks : progress.seen with
  | none =>
    have apart : UInt64.ofNat batches.flatten.length ≠ expectedTotal producers items := by
      rw [Ne, ← counted, marks]
      nofun
    simp only [Option.any_none, Bool.and_false]
    refine ⟨nofun, fun whole => absurd ?_ apart⟩
    have same := (perm_everyValue_iff.mpr whole).length_eq
    rw [length_everyValue] at same
    rw [same, UInt64.ofNat_toNat]
  | some seen =>
    rw [Bool.and_eq_true, tally.once, Option.any_some, tally.all_iff marks, marks]
    simp [and_assoc]

end RingQueue.Verdict
