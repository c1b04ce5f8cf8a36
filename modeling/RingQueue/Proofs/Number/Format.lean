import RingQueue.Number.Format
import RingQueue.Proofs.Number.Digits

/-! The characters of written numbers. Whole ones are of digits only, so that anything else tells where
one ends; those with a fixed count of places have signs, a point or a word beside, and shortest ones
also an exponent. -/
namespace RingQueue.Number

variable {c : Char}

theorem mem_decimal {n : Nat} (member : c ∈ (decimal n).toList) : isDigit 10 c = true := by
  rw [decimal, String.toList_ofList] at member
  exact isDigit_of_mem_digits member

/-- A text that does not go on with a digit. -/
def Stops (text : List Char) : Prop := ∀ c ∈ text.head?, isDigit 10 c = false

instance (text : List Char) : Decidable (Stops text) := Option.decidableForallMem text.head?

theorem stops_append {text : List Char} (begins : text.head?.map (isDigit 10) = some false)
    (rest : List Char) : Stops (text ++ rest) := by
  obtain ⟨c, first, figure⟩ := Option.map_eq_some_iff.mp begins
  obtain ⟨others, rfl⟩ := List.head?_eq_some_iff.mp first
  intro d same
  cases same
  exact figure

theorem takeWhile_decimal_append (n : Nat) {rest : List Char} (stops : Stops rest) :
    ((decimal n).toList ++ rest).takeWhile (isDigit 10) = digits n := by
  rw [decimal, String.toList_ofList, List.takeWhile_append_of_pos fun _ => isDigit_of_mem_digits]
  cases rest with
  | nil => rw [List.takeWhile_nil, List.append_nil]
  | cons c rest =>
    have figure : ¬ isDigit 10 c = true := by rw [stops c rfl]; nofun
    rw [List.takeWhile_cons_of_neg figure, List.append_nil]

/-- A number is told from what follows it. -/
theorem decimal_append_inj {a b : Nat} {rest rest' : List Char} (stops : Stops rest)
    (stops' : Stops rest') (same : (decimal a).toList ++ rest = (decimal b).toList ++ rest') :
    a = b ∧ rest = rest' := by
  have figures : digits a = digits b := by
    rw [← takeWhile_decimal_append a stops, same, takeWhile_decimal_append b stops']
  have number : a = b := by rw [← valueOnto_digits a, figures, valueOnto_digits]
  subst number
  exact ⟨rfl, List.append_cancel_left same⟩

theorem decimal_inj {a b : Nat} (same : (decimal a).toList = (decimal b).toList) : a = b := by
  have ends : Stops [] := by decide
  exact (decimal_append_inj ends ends (congrArg (· ++ []) same)).1

theorem mem_zeros {count : Nat} (member : c ∈ zeros count) : isDigit 10 c = true := by
  rw [List.eq_of_mem_replicate member]
  decide

theorem mem_positionalText {wholeSuffix : String} {d : Decimal}
    (member : c ∈ (positionalText wholeSuffix d).toList) :
    isDigit 10 c = true ∨ c = '.' ∨ c ∈ wholeSuffix.toList := by
  have figures {count : Nat} (member : c ∈ zeros count ++ digits d.number) : isDigit 10 c = true :=
    (List.mem_append.mp member).elim mem_zeros isDigit_of_mem_digits
  rw [positionalText] at member
  split at member
  · rw [String.toList_append, String.toList_ofList] at member
    rcases List.mem_append.mp member with front | suffix
    · rcases List.mem_append.mp front with digit | zero
      · exact .inl (isDigit_of_mem_digits digit)
      · exact .inl (mem_zeros zero)
    · exact .inr (.inr suffix)
  · rw [String.toList_ofList] at member
    rcases List.mem_append.mp member with whole | fraction
    · exact .inl (figures (List.mem_of_mem_take whole))
    · rcases List.mem_cons.mp fraction with point | places
      · exact .inr (.inl point)
      · exact .inl (figures (List.mem_of_mem_drop places))

/-- What stands in such a number that is no digit: the signs and the words for what is not finite. -/
def fixedMarks : List Char := ['-', '.', 'N', 'a', 'i', 'n', 'f']

theorem mem_signText {negative : Bool} (member : c ∈ (Binary64.signText negative).toList) :
    c ∈ fixedMarks := by
  cases negative with
  | false => cases member
  | true =>
    rw [List.mem_singleton.mp member]
    decide

theorem mem_fixedText {places : Nat} {x : Binary64} (member : c ∈ (x.fixedText places).toList) :
    isDigit 10 c = true ∨ c ∈ fixedMarks := by
  cases x with
  | nan =>
    have within : "NaN".toList ⊆ fixedMarks := by decide
    exact .inr (within member)
  | infinite negative =>
    have within : "inf".toList ⊆ fixedMarks := by decide
    rw [Binary64.fixedText, String.toList_append] at member
    exact .inr ((List.mem_append.mp member).elim mem_signText fun word => within word)
  | finite negative mantissa shift =>
    rw [Binary64.fixedText, String.toList_append] at member
    rcases List.mem_append.mp member with sign | figures
    · exact .inr (mem_signText sign)
    · split at figures
      · exact .inl (mem_decimal figures)
      · rcases mem_positionalText figures with digit | rfl | none
        · exact .inl digit
        · exact .inr (by decide)
        · cases none

/-! ### With an exponent -/

end RingQueue.Number
