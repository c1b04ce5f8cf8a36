import RingQueue.Proofs.Layer.Content
import RingQueue.Proofs.Layer.Merge

/-! Documents as layers. What a document gives for the fields is what the layer gives, as long as
its numbers are not too large for a layer. -/
namespace RingQueue

/-- Every whole number in a value has 64 bits with a sign. -/
inductive Datum.InReach : Datum → Prop
  | nil : InReach .nil
  | bool (value : Bool) : InReach (.bool value)
  | whole (n : Int) : -(2 ^ 63) ≤ n → n < 2 ^ 63 → InReach (.whole n)
  | float (value : Number.Binary64) : InReach (.float value)
  | text (value : String) : InReach (.text value)
  | moment (value : String) : InReach (.moment value)
  | list (items : List Datum) : (∀ item ∈ items, InReach item) → InReach (.list items)
  | table (members : List (String × Datum)) :
    (∀ name value, (name, value) ∈ members → InReach value) → InReach (.table members)

namespace Layer

/-! ### Values that settle -/

theorem settleItems?_isSome {items : List Datum} (each : ∀ item ∈ items, (settle? item).isSome) :
    (settleItems? items).isSome := by
  induction items with
  | nil => rfl
  | cons item items ih =>
    obtain ⟨first, settled⟩ := Option.isSome_iff_exists.mp (each item List.mem_cons_self)
    obtain ⟨rest, others⟩ := Option.isSome_iff_exists.mp
      (ih fun item member => each item (List.mem_cons_of_mem _ member))
    simp [settleItems?, settled, others]

theorem settleMembers?_isSome {members : List (String × Datum)}
    (each : ∀ name value, (name, value) ∈ members → (settle? value).isSome) :
    (settleMembers? members).isSome := by
  induction members with
  | nil => rfl
  | cons member members ih =>
    obtain ⟨name, value⟩ := member
    obtain ⟨first, settled⟩ := Option.isSome_iff_exists.mp (each name value List.mem_cons_self)
    obtain ⟨rest, others⟩ := Option.isSome_iff_exists.mp
      (ih fun name value member => each name value (List.mem_cons_of_mem _ member))
    simp [settleMembers?, settled, others]

theorem settle?_isSome {value : Datum} (reach : value.InReach) : (settle? value).isSome := by
  induction reach with
  | whole n low high =>
    rw [settle?, if_pos ⟨low, high⟩]
    rfl
  | list items _ ih => simpa [settle?] using settleItems?_isSome ih
  | table members _ ih => simpa [settle?] using settleMembers?_isSome ih
  | _ => rfl

theorem mem_settleMembers? {members settled : List (String × Datum)}
    (done : settleMembers? members = some settled) {name : String} {value : Datum} :
    (name, value) ∈ settled ↔
      ∃ before, (name, before) ∈ members ∧ settle? before = some value := by
  induction members generalizing settled with
  | nil =>
    obtain rfl := Option.some.inj done
    simp
  | cons member members ih =>
    obtain ⟨key, first⟩ := member
    simp only [settleMembers?, Option.bind_eq_bind, Option.bind_eq_some_iff] at done
    obtain ⟨now, here, rest, others, whole⟩ := done
    obtain rfl := Option.some.inj whole
    simp only [List.mem_cons, ih others, Prod.mk.injEq]
    constructor
    · rintro (⟨rfl, rfl⟩ | ⟨before, member, settled⟩)
      · exact ⟨first, .inl ⟨rfl, rfl⟩, here⟩
      · exact ⟨before, .inr member, settled⟩
    · rintro ⟨before, ⟨rfl, rfl⟩ | member, settled⟩
      · exact .inl ⟨rfl, Option.some.inj (settled.symm.trans here)⟩
      · exact .inr ⟨before, member, settled⟩

/-- Only a table becomes a table. -/
theorem settle?_eq_table {value : Datum} {settled : List (String × Datum)} :
    settle? value = some (.table settled) ↔
      ∃ members, value = .table members ∧ settleMembers? members = some settled := by
  constructor
  · intro done
    cases value with
    | table members =>
      obtain ⟨_, others, same⟩ := Option.map_eq_some_iff.mp done
      exact ⟨members, rfl, Datum.table.inj same ▸ others⟩
    | list items =>
      obtain ⟨_, _, same⟩ := Option.map_eq_some_iff.mp done
      cases same
    | whole n =>
      rw [settle?] at done
      split at done <;> cases done
    | _ => cases done
  · rintro ⟨members, rfl, done⟩
    rw [settle?, done, Option.map_some]

/-- The value of a field settles as it is, if at all. -/
theorem settle?_datum {kind : Kind} {value : kind.Value} {settled : Datum}
    (done : settle? (kind.datum value) = some settled) : settled = kind.datum value := by
  cases kind with
  | text => exact (Option.some.inj done).symm
  | flag => exact (Option.some.inj done).symm
  | word =>
    simp only [Kind.datum, settle?] at done ⊢
    split at done
    · exact (Option.some.inj done).symm
    · cases done

theorem text?_of_settle? {value settled : Datum} (done : settle? value = some settled)
    (text : (text? value).isSome) : (text? settled).isSome := by
  cases value with
  | whole n =>
    rw [settle?] at done
    split at done <;> cases done
    rfl
  | list => cases text
  | table => cases text
  | _ => cases done; exact text

/-! ### Layers that settle -/

variable {key : String} {before settled value : Datum} {field : Field} {given : Given}

theorem Entry.settle (entry : Entry key before) (done : settle? before = some settled) :
    Entry key settled := by
  cases entry with
  | env _ text => exact .env settled (text?_of_settle? done text)
  | part part fields =>
    obtain ⟨rest, others, rfl⟩ := Option.map_eq_some_iff.mp done
    exact .part part rest
  | field field _ value place =>
    rw [settle?_datum done]
    exact .field field key value place
  | beside part _ name rest _ place unknown =>
    exact .beside part key name rest settled place unknown
  | other _ _ apart => exact .other key settled apart

/-- What a settled entry sets for a field comes from what it set before. -/
theorem sets_of_settle? (done : settle? before = some settled)
    (sets : Sets key settled field value) : ∃ old, Sets key before field old ∧ settle? old = some value := by
  cases sets with
  | inside _ fields _ member =>
    obtain ⟨members, rfl, others⟩ := settle?_eq_table.mp done
    obtain ⟨old, there, settled⟩ := (mem_settleMembers? others).mp member
    exact ⟨old, .inside field members old there, settled⟩
  | alone _ _ _ place => exact ⟨before, .alone field key before place, done⟩

theorem sets_settle? (done : settle? before = some settled) {old : Datum}
    (sets : Sets key before field old) (kept : settle? old = some value) :
    Sets key settled field value := by
  cases sets with
  | inside _ members _ member =>
    obtain ⟨fields, others, rfl⟩ := Option.map_eq_some_iff.mp done
    exact .inside field fields value ((mem_settleMembers? others).mpr ⟨old, member, kept⟩)
  | alone _ _ _ place =>
    obtain rfl := Option.some.inj (done.symm.trans kept)
    exact .alone field key settled place

theorem Sets.inReach (sets : Sets key before field value) (reach : before.InReach) :
    value.InReach := by
  cases sets with
  | inside _ _ _ member =>
    cases reach with
    | table _ each => exact each _ _ member
  | alone => exact reach

theorem Gives.settle {members settled : List (String × Datum)} (gives : Gives members given)
    (reach : (Datum.table members).InReach) (done : settleMembers? members = some settled) :
    Gives settled given where
  each key whole member := by
    obtain ⟨before, there, kept⟩ := (mem_settleMembers? done).mp member
    exact (gives.each key before there).settle kept
  fields field value := by
    constructor
    · rintro ⟨key, whole, member, sets⟩
      obtain ⟨before, there, kept⟩ := (mem_settleMembers? done).mp member
      obtain ⟨old, sets, same⟩ := sets_of_settle? kept sets
      have shown := (gives.fields field old).mp ⟨key, before, there, sets⟩
      obtain ⟨value, -, rfl⟩ := Option.map_eq_some_iff.mp shown
      rwa [settle?_datum same]
    · intro shown
      obtain ⟨key, before, there, sets⟩ := (gives.fields field value).mpr shown
      have reaches : before.InReach := by
        cases reach with
        | table _ each => exact each key before there
      obtain ⟨whole, kept⟩ := Option.isSome_iff_exists.mp (settle?_isSome reaches)
      obtain ⟨same, settles⟩ := Option.isSome_iff_exists.mp (settle?_isSome (sets.inReach reaches))
      have unchanged : same = value := by
        obtain ⟨value, -, rfl⟩ := Option.map_eq_some_iff.mp shown
        exact settle?_datum settles
      rw [unchanged] at settles
      exact ⟨key, whole, (mem_settleMembers? done).mpr ⟨before, there, kept⟩,
        sets_settle? kept sets settles⟩

end Layer

/-- A text is a document that gives some of the fields their values. -/
structure Document (text : String) (members : List (String × Datum)) (given : Given) : Prop where
  parsed : Toml.parse? text = some (.table members)
  gives : Layer.Gives members given
  reach : (Datum.table members).InReach

/-- A document is read as a layer that gives the same. -/
theorem Document.parse? {text : String} {members : List (String × Datum)} {given : Given}
    (document : Document text members given) :
    ∃ entries, Layer.Form.toml.parse? (Layer.contentText text.toUTF8) = some (.table entries) ∧
      Layer.Gives entries given := by
  obtain ⟨whole, done⟩ := Option.isSome_iff_exists.mp (Layer.settle?_isSome document.reach)
  obtain ⟨entries, kept, rfl⟩ := Option.map_eq_some_iff.mp done
  refine ⟨entries, ?_, document.gives.settle document.reach kept⟩
  rw [Layer.Form.parse?, Layer.parse?_contentText document.parsed, Option.bind_some, done]

end RingQueue
