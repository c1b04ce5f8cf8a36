import Mathlib.Data.List.Basic
import Mathlib.Data.List.Perm.Basic

/-! Interleavings as they come about: at each moment one of several sequences goes on by an element,
and the merged sequence with it. Producers are merged into a queue this way, and read the other way
round it says how what comes out of the queue is shared out to consumers. -/
namespace RingQueue

variable {α : Type u} {parts : List (List α)} {merged : List α}

inductive Interleaves : List (List α) → List α → Prop where
  | nil (count : Nat) : Interleaves (.replicate count []) []
  | snoc {parts : List (List α)} {merged part : List α} {i : Nat} (before : Interleaves parts merged)
    (place : parts[i]? = some part) (x : α) :
    Interleaves (parts.set i (part ++ [x])) (merged ++ [x])

namespace Interleaves

theorem perm_flatten_set {part : List α} {i : Nat} (place : parts[i]? = some part) (x : α) :
    (parts.set i (part ++ [x])).flatten.Perm (parts.flatten ++ [x]) := by
  induction parts generalizing i with
  | nil => cases place
  | cons first rest ih =>
    cases i with
    | zero =>
      obtain rfl : first = part := Option.some.inj place
      rw [List.set_cons_zero, List.flatten_cons, List.flatten_cons, List.append_assoc,
        List.append_assoc]
      exact List.perm_append_comm.append_left first
    | succ i =>
      rw [List.set_cons_succ, List.flatten_cons, List.flatten_cons, List.append_assoc]
      exact (ih place).append_left first

/-- Nothing is lost and nothing is added. -/
theorem perm (woven : Interleaves parts merged) : parts.flatten.Perm merged := by
  induction woven with
  | nil count => simp
  | snoc before place x ih => exact (perm_flatten_set place x).trans (ih.append_right [x])

/-- The parts of an interleaving without its last element: the part that went on last was shorter. -/
theorem exists_before {part : List α} {i j : Nat} {x : α} {piece : List α}
    (place : parts[i]? = some part) (at_j : parts[j]? = some piece) :
    ∃ longer, (parts.set i (part ++ [x]))[j]? = some longer ∧ piece.Sublist longer := by
  have inside : j < parts.length := (List.getElem?_eq_some_iff.mp at_j).1
  by_cases same : i = j
  · subst i
    obtain rfl := Option.some.inj (place.symm.trans at_j)
    exact ⟨_, List.getElem?_set_self inside, List.sublist_append_left part [x]⟩
  · exact ⟨piece, by rw [List.getElem?_set_ne same, at_j], List.Sublist.refl piece⟩

/-- Each part keeps its order. -/
theorem sublist (woven : Interleaves parts merged) {piece : List α} (member : piece ∈ parts) :
    piece.Sublist merged := by
  induction woven generalizing piece with
  | nil count =>
    obtain rfl := List.eq_of_mem_replicate member
    exact List.Sublist.refl []
  | snoc before place x ih =>
    rcases List.mem_or_eq_of_mem_set member with old | rfl
    · exact (ih old).trans (List.sublist_append_left ..)
    · exact (ih (List.mem_of_getElem? place)).append (List.Sublist.refl [x])

/-- What is true of any two elements of a part in their order, and of any two elements of different
parts, is true of any two elements of the interleaving in their order. -/
theorem pairwise {R : α → α → Prop} (woven : Interleaves parts merged)
    (within : ∀ piece ∈ parts, piece.Pairwise R)
    (across : ∀ (i j : Nat) (a b : List α), i ≠ j → parts[i]? = some a → parts[j]? = some b →
      ∀ x ∈ a, ∀ y ∈ b, R x y) : merged.Pairwise R := by
  induction woven with
  | nil count => exact List.Pairwise.nil
  | @snoc parts merged part i before place x ih =>
    have inside : i < parts.length := (List.getElem?_eq_some_iff.mp place).1
    have grown := List.getElem?_set_self (a := part ++ [x]) inside
    rw [List.pairwise_append]
    refine ⟨ih ?_ ?_, List.pairwise_singleton R x, ?_⟩
    · intro piece member
      obtain ⟨j, at_j⟩ := List.mem_iff_getElem?.mp member
      obtain ⟨longer, found, shorter⟩ := exists_before (x := x) place at_j
      exact (within longer (List.mem_of_getElem? found)).sublist shorter
    · intro j k a b apart at_j at_k y inA z inB
      obtain ⟨longerA, foundA, shorterA⟩ := exists_before (x := x) place at_j
      obtain ⟨longerB, foundB, shorterB⟩ := exists_before (x := x) place at_k
      exact across j k _ _ apart foundA foundB y (shorterA.subset inA) z (shorterB.subset inB)
    · intro y early z last
      obtain rfl := List.mem_singleton.mp last
      obtain ⟨piece, member, inPiece⟩ := List.mem_flatten.mp (before.perm.mem_iff.mpr early)
      obtain ⟨j, at_j⟩ := List.mem_iff_getElem?.mp member
      by_cases same : j = i
      · subst j
        obtain rfl := Option.some.inj (place.symm.trans at_j)
        exact (List.pairwise_append.mp (within _ (List.mem_of_getElem? grown))).2.2 y inPiece z
          (List.mem_singleton_self z)
      · have unmoved : (parts.set i (part ++ [z]))[j]? = some piece := by
          rw [List.getElem?_set_ne (Ne.symm same), at_j]
        exact across j i piece _ same unmoved grown y inPiece z (by simp)

end Interleaves
end RingQueue
