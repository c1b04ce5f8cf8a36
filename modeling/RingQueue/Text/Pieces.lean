/-! Cutting text at a mark. -/
namespace RingQueue.Text

/-- The pieces of a text between marks. There is one more of them than there are marks. -/
def pieces (mark : Char) : List Char → List (List Char)
  | [] => [[]]
  | c :: rest =>
    match pieces mark rest with
    | [] => [[c]]
    | piece :: others => if c = mark then [] :: piece :: others else (c :: piece) :: others

end RingQueue.Text
