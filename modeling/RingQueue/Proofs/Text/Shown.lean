import Mathlib.Data.List.Forall2
import RingQueue.Proofs.Text.Lines

/-! Text as a terminal shows it. Control sequences set colours and the like and leave no character
behind; all else is shown as it stands. -/
namespace RingQueue.Text

/-- What is shown from a place inside a control sequence or outside of any. A sequence begins with an
escape and an opening bracket, and ends with the first character from `@` to `~` after them. -/
def shownFrom : Bool → List Char → List Char
  | _, [] => []
  | true, c :: rest => shownFrom (!('@' ≤ c && c ≤ '~')) rest
  | false, '\x1b' :: '[' :: rest => shownFrom true rest
  | false, c :: rest => c :: shownFrom false rest

/-- A text without its control sequences. -/
def shown (text : List Char) : List Char := shownFrom false text

theorem shown_cons {c : Char} (rest : List Char) (plain : c ≠ '\x1b') :
    shown (c :: rest) = c :: shown rest := by
  rw [shown, shownFrom, shown]
  intro _ same
  exact absurd same plain

/-- A text that shows as another one, whatever comes after it. -/
def Shows (text plain : List Char) : Prop := ∀ rest, shown (text ++ rest) = plain ++ shown rest

theorem shows_self {text : List Char} (plain : '\x1b' ∉ text) : Shows text text := by
  intro rest
  induction text with
  | nil => rfl
  | cons c text ih =>
    obtain ⟨here, later⟩ := not_or.mp (List.mem_cons.not.mp plain)
    rw [List.cons_append, shown_cons _ (Ne.symm here), ih later, List.cons_append]

theorem Shows.append {front back plainFront plainBack : List Char} (first : Shows front plainFront)
    (second : Shows back plainBack) : Shows (front ++ back) (plainFront ++ plainBack) := by
  intro rest
  rw [List.append_assoc, first, second, List.append_assoc]

/-- Lines are shown as lines. -/
theorem shown_ended {texts plains : List (List Char)} (shows : List.Forall₂ Shows texts plains) :
    shown (ended texts) = ended plains := by
  induction shows with
  | nil => rfl
  | @cons text plain texts plains here _ ih =>
    calc shown (ended (text :: texts))
        = shown (text ++ '\n' :: ended texts) := by simp [ended]
      _ = plain ++ '\n' :: shown (ended texts) := by rw [here, shown_cons _ (by decide)]
      _ = ended (plain :: plains) := by rw [ih]; simp [ended]

end RingQueue.Text
