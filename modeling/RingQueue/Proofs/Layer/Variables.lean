import RingQueue.Layer.Variables
import RingQueue.Proofs.Layer.Merge
import RingQueue.Proofs.Number.Digits

/-! Variables as a layer. A variable is known by its name, and its text is read as the value that
it was written for. -/
namespace RingQueue

open RingQueue.Number

namespace Number

theorem signed?_digits {n : Nat} (small : n < 2 ^ 63) : signed? (digits n) = some (n : Int) := by
  obtain ⟨first, rest, shape, -⟩ := digits_eq_cons n
  have read := ofDigits?_digits n
  have start : first ∈ digits n := shape ▸ List.mem_cons_self
  have minus : first ≠ '-' := ne_of_mem_digits start rfl
  have plus : first ≠ '+' := ne_of_mem_digits start rfl
  rw [shape] at read ⊢
  simp [signed?, signedIn?, minus, plus, read, small]

/-- A number is no word. -/
theorem lower_digits_ne (n : Nat) {letter : Char} {word : List Char}
    (lower : ∀ digit < 10, (digitChar digit).toLower ≠ letter) :
    (digits n).map Char.toLower ≠ letter :: word := by
  obtain ⟨first, rest, shape, -⟩ := digits_eq_cons n
  obtain ⟨digit, small, rfl⟩ := mem_digits (shape ▸ List.mem_cons_self : first ∈ digits n)
  rw [shape]
  exact fun same => lower digit small (List.cons.inj same).1

end Number

/-- Text that is not read as a truth value or a number. -/
structure Text.IsPlain (text : String) : Prop where
  ne_true : text.toList.map Char.toLower ≠ "true".toList
  ne_false : text.toList.map Char.toLower ≠ "false".toList
  not_whole : signed? text.toList = none
  not_number : Binary64.parse? text.toList = none

/-- Values that a variable can hold. -/
def Kind.Plain : (kind : Kind) → kind.Value → Prop
  | text, value => Text.IsPlain value
  | flag, _ => True
  | word, value => UInt64.toNat value < 2 ^ 63

namespace Layer

theorem valueOf_shown {kind : Kind} {value : kind.Value} (plain : kind.Plain value) :
    valueOf (kind.shown value) = kind.datum value := by
  cases kind with
  | text =>
    obtain ⟨yes, no, whole, number⟩ := plain
    simp only [valueOf, Kind.shown, if_neg yes, if_neg no, whole, number]
    rfl
  | flag => cases value <;> rfl
  | word =>
    have shape : (Kind.word.shown value).toList = digits (UInt64.toNat value) :=
      String.toList_ofList
    have yes : (digits (UInt64.toNat value)).map Char.toLower ≠ "true".toList :=
      lower_digits_ne _ (by decide)
    have no : (digits (UInt64.toNat value)).map Char.toLower ≠ "false".toList :=
      lower_digits_ne _ (by decide)
    simp only [valueOf, shape, if_neg yes, if_neg no, signed?_digits plain]
    rfl

/-- Whether a variable belongs to the program. -/
def isMarked (name : String) : Bool := variableMark.isPrefixOf (name.toList.map Char.toLower)

theorem isMarked_of_keyOf? {name key : String} (found : keyOf? name = some key) :
    isMarked name = true := by
  simp only [keyOf?] at found
  split at found
  · assumption
  · cases found

theorem keyOf?_variableName (field : Field) :
    keyOf? field.variableName = some (field.part.name ++ "." ++ field.name) := by
  cases field <;> decide

theorem placeOf_key (field : Field) :
    placeOf (field.part.name ++ "." ++ field.name) =
      [.member field.part.name, .member field.name] := by
  cases field <;> decide

end Layer

/-- The variables of the program give some of the fields their values, and there are no others of
the program. -/
structure Environment.Gives (environment : Environment) (given : Given) : Prop where
  all : ∀ field value, given field = some value →
    (field.variableName, field.kind.shown value) ∈ environment
  only : ∀ name text, (name, text) ∈ environment → Layer.isMarked name = true →
    ∃ field value, given field = some value ∧ name = field.variableName ∧
      text = field.kind.shown value
  plain : ∀ (field : Field) value, given field = some value → field.kind.Plain value

namespace Layer

variable {environment : Environment} {given : Given}

theorem mem_ofVariables {key : String} {whole : Datum} :
    (key, whole) ∈ ofVariables environment ↔
      ∃ name text, (name, text) ∈ environment ∧ keyOf? name = some key ∧ whole = valueOf text := by
  simp only [ofVariables, List.mem_filterMap, Option.map_eq_some_iff, Prod.exists, Prod.mk.injEq]
  constructor
  · rintro ⟨name, text, member, key, found, rfl, rfl⟩
    exact ⟨name, text, member, found, rfl⟩
  · rintro ⟨name, text, member, found, rfl⟩
    exact ⟨name, text, member, key, found, rfl, rfl⟩

/-- Every entry of the variables is that of one field. -/
theorem exists_of_mem_ofVariables (gives : environment.Gives given) {key : String} {whole : Datum}
    (member : (key, whole) ∈ ofVariables environment) :
    ∃ field value, given field = some value ∧
      placeOf key = [.member field.part.name, .member field.name] ∧
      whole = field.kind.datum value := by
  obtain ⟨name, text, set, found, rfl⟩ := mem_ofVariables.mp member
  obtain ⟨field, value, here, rfl, rfl⟩ := gives.only name text set (isMarked_of_keyOf? found)
  rw [keyOf?_variableName] at found
  obtain rfl := Option.some.inj found
  exact ⟨field, value, here, placeOf_key field, valueOf_shown (gives.plain field value here)⟩

theorem gives_ofVariables (gives : environment.Gives given) :
    Gives (ofVariables environment) given where
  each key whole member := by
    obtain ⟨field, value, -, place, rfl⟩ := exists_of_mem_ofVariables gives member
    exact .field field key value place
  fields field value := by
    constructor
    · rintro ⟨key, whole, member, sets⟩
      obtain ⟨other, value, here, place, rfl⟩ := exists_of_mem_ofVariables gives member
      obtain ⟨rfl, rfl⟩ := sets.of_place place
      rw [here, Option.map_some]
    · intro shown
      obtain ⟨value, here, rfl⟩ := Option.map_eq_some_iff.mp shown
      refine ⟨_, _, mem_ofVariables.mpr ⟨_, _, gives.all field value here,
        keyOf?_variableName field, rfl⟩, ?_⟩
      rw [valueOf_shown (gives.plain field value here)]
      exact .alone field _ _ (placeOf_key field)

end Layer
end RingQueue
