import RingQueue.Text.Pieces

/-! Texts in pieces and in lines. A text is the pieces between its marks, and lines that hold no line
feed of their own are found again where each has been ended by one. -/
namespace RingQueue.Text

theorem pieces_ne_nil (mark : Char) (text : List Char) : pieces mark text ≠ [] := by
  cases text with
  | nil => nofun
  | cons c rest =>
    rw [pieces]
    split
    · nofun
    · split <;> nofun

theorem pieces_append (mark : Char) (front back : List Char) :
    pieces mark (front ++ mark :: back) = pieces mark front ++ pieces mark back := by
  induction front with
  | nil =>
    obtain ⟨piece, others, shape⟩ := List.exists_cons_of_ne_nil (pieces_ne_nil mark back)
    simp [pieces, shape]
  | cons c front ih =>
    obtain ⟨piece, others, shape⟩ := List.exists_cons_of_ne_nil (pieces_ne_nil mark front)
    by_cases same : c = mark
    · simp [pieces, ih, shape, same]
    · simp [pieces, ih, shape, same]

theorem pieces_of_not_mem {mark : Char} {text : List Char} (plain : mark ∉ text) :
    pieces mark text = [text] := by
  induction text with
  | nil => rfl
  | cons c text ih =>
    rw [List.mem_cons, not_or] at plain
    simp [pieces, ih plain.2, Ne.symm plain.1]

/-- The pieces between line feeds. Behind the last line feed there is a line only if there is text. -/
def lines (text : List Char) : List (List Char) :=
  let found := pieces '\n' text
  if found.getLast? = some [] then found.dropLast else found

/-- A text of lines, each with a line feed at its end. -/
def ended (written : List (List Char)) : List Char := written.flatMap (· ++ ['\n'])

theorem pieces_ended {written : List (List Char)} (single : ∀ line ∈ written, '\n' ∉ line) :
    pieces '\n' (ended written) = written ++ [[]] := by
  induction written with
  | nil => rfl
  | cons line written ih =>
    obtain ⟨here, later⟩ := List.forall_mem_cons.mp single
    have shape : ended (line :: written) = line ++ '\n' :: ended written := by simp [ended]
    rw [shape, pieces_append, pieces_of_not_mem here, ih later]
    rfl

theorem lines_ended {written : List (List Char)} (single : ∀ line ∈ written, '\n' ∉ line) :
    lines (ended written) = written := by
  simp [lines, pieces_ended single]

/-- The text of lines, each with a line feed at its end. -/
def ofLines (written : List String) : String := .join (written.map (· ++ "\n"))

theorem ofLines_cons (line : String) (written : List String) :
    ofLines (line :: written) = line ++ "\n" ++ ofLines written := by
  rw [ofLines, List.map_cons, String.join_cons, ofLines]

theorem toList_ofLines (written : List String) :
    (ofLines written).toList = ended (written.map String.toList) := by
  induction written with
  | nil => rfl
  | cons line written ih => simp [ofLines_cons, ih, ended]

theorem lines_ofLines {written : List String} (single : ∀ line ∈ written, '\n' ∉ line.toList) :
    lines (ofLines written).toList = written.map String.toList := by
  rw [toList_ofLines]
  exact lines_ended (List.forall_mem_map.mpr single)

theorem ofLines_inj {written other : List String} (single : ∀ line ∈ written, '\n' ∉ line.toList)
    (single' : ∀ line ∈ other, '\n' ∉ line.toList) (same : ofLines written = ofLines other) :
    written = other := by
  have texts : written.map String.toList = other.map String.toList := by
    rw [← lines_ofLines single, same, lines_ofLines single']
  exact (List.map_inj_right fun _ _ => String.toList_inj.mp).mp texts

end RingQueue.Text
