import Mathlib.Tactic.IntervalCases
import RingQueue.Number.Digits

/-! Decimal digits are read back as the number that they were written for. -/
namespace RingQueue.Number

theorem digitValue?_digitChar {digit : Nat} (small : digit < 10) :
    digitValue? (digitChar digit) = some digit := by
  interval_cases digit <;> rfl

theorem isDigit_digitChar {digit : Nat} (small : digit < 10) :
    isDigit 10 (digitChar digit) = true := by
  rw [isDigit, digitValue?_digitChar small]
  exact decide_eq_true small

theorem digitChar_ne_zero {digit : Nat} (small : digit < 10) (positive : 0 < digit) :
    digitChar digit ≠ '0' := by
  interval_cases digit <;> decide

theorem digitsOnto_eq_append (n : Nat) (rest : List Char) :
    digitsOnto n rest = digits n ++ rest := by
  induction n using Nat.strongRecOn generalizing rest with
  | ind n ih =>
    rw [digits]
    by_cases small : n < 10
    · rw [digitsOnto, if_pos small, digitsOnto, if_pos small]
      rfl
    · have less : n / 10 < n := by omega
      rw [digitsOnto, if_neg small, ih _ less, digitsOnto, if_neg small, ih _ less [_],
        List.append_assoc]
      rfl

theorem digits_of_lt {n : Nat} (small : n < 10) : digits n = [digitChar n] := by
  rw [digits, digitsOnto, if_pos small]

theorem digits_zero : digits 0 = ['0'] := digits_of_lt (by decide)

theorem digits_of_le {n : Nat} (large : 10 ≤ n) :
    digits n = digits (n / 10) ++ [digitChar (n % 10)] := by
  rw [digits, digitsOnto, if_neg (Nat.not_lt.mpr large), digitsOnto_eq_append]

/-- Induction on a number by its digits, the last one first. -/
theorem digits_induction {motive : Nat → Prop} (small : ∀ n < 10, motive n)
    (large : ∀ n, 10 ≤ n → motive (n / 10) → motive n) (n : Nat) : motive n := by
  induction n using Nat.strongRecOn with
  | ind n ih =>
    by_cases fewer : n < 10
    · exact small n fewer
    · exact large n (Nat.le_of_not_lt fewer) (ih (n / 10) (by omega))

theorem mem_digits {c : Char} {n : Nat} (member : c ∈ digits n) :
    ∃ digit < 10, c = digitChar digit := by
  induction n using digits_induction with
  | small n small =>
    rw [digits_of_lt small, List.mem_singleton] at member
    exact ⟨n, small, member⟩
  | large n large ih =>
    rw [digits_of_le large, List.mem_append, List.mem_singleton] at member
    rcases member with front | last
    · exact ih front
    · exact ⟨n % 10, Nat.mod_lt n (by decide), last⟩

theorem isDigit_of_mem_digits {c : Char} {n : Nat} (member : c ∈ digits n) :
    isDigit 10 c = true := by
  obtain ⟨digit, small, rfl⟩ := mem_digits member
  exact isDigit_digitChar small

theorem ne_of_mem_digits {c other : Char} {n : Nat} (member : c ∈ digits n)
    (special : isDigit 10 other = false) : c ≠ other := by
  intro same
  rw [← same, isDigit_of_mem_digits member] at special
  cases special

theorem valueOnto_append (base : Nat) (front back : List Char) (value : Nat) :
    valueOnto base (front ++ back) value = valueOnto base back (valueOnto base front value) := by
  induction front generalizing value with
  | nil => rfl
  | cons c front ih => exact ih _

theorem valueOnto_digits (n : Nat) : valueOnto 10 (digits n) 0 = n := by
  induction n using digits_induction with
  | small n small => simp [digits_of_lt small, valueOnto, digitValue?_digitChar small]
  | large n large ih =>
    rw [digits_of_le large, valueOnto_append, ih, valueOnto, valueOnto,
      digitValue?_digitChar (Nat.mod_lt n (by decide)), Option.getD_some]
    omega

/-- Only the digits of zero begin with a zero. -/
theorem digits_eq_cons (n : Nat) :
    ∃ first rest, digits n = first :: rest ∧ (first = '0' → n = 0) := by
  induction n using digits_induction with
  | small n small =>
    refine ⟨_, [], digits_of_lt small, fun zero => ?_⟩
    by_contra positive
    exact digitChar_ne_zero small (Nat.pos_of_ne_zero positive) zero
  | large n large ih =>
    obtain ⟨first, rest, shape, zero⟩ := ih
    refine ⟨first, rest ++ [digitChar (n % 10)], ?_, fun same => ?_⟩
    · rw [digits_of_le large, shape, List.cons_append]
    · have := zero same
      omega

theorem ofDigits?_digits (n : Nat) : ofDigits? 10 (digits n) = some n := by
  obtain ⟨first, rest, shape, -⟩ := digits_eq_cons n
  rw [ofDigits?, if_pos ⟨by rw [shape]; nofun, List.all_eq_true.mpr fun _ => isDigit_of_mem_digits⟩,
    valueOnto_digits]

end RingQueue.Number
