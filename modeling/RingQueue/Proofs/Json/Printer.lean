import RingQueue.Json.Printer
import RingQueue.Proofs.Number.Format
import RingQueue.Proofs.Text.Lines

/-! Objects as JSON text over several lines, each member on its own. Where the names are known, such
lines tell the texts of the values. -/
namespace RingQueue.Json

open RingQueue.Number RingQueue.Text

/-- The line of a member whose value has this text. -/
def memberLine (name text : String) : String := "  \"" ++ name ++ "\": " ++ text

variable {name text : String} {members : List (String × Value)}
variable {texts texts' : List (String × String)}

/-- A name in which nothing has to be escaped. -/
def PlainName (name : String) : Prop := quoted name = "\"" ++ name ++ "\""

theorem PlainName.line (plain : PlainName name) (text : String) :
    indent 1 ++ (quoted name ++ (": " ++ text)) = memberLine name text := by
  rw [plain, memberLine]
  simp only [String.append_assoc]
  rfl

end RingQueue.Json
