/-!
Readers of text: each takes what it knows from the front of a text and leaves the rest to others.
-/
namespace GestureCalculator.Text

/-- Takes a value from the front of a text and gives the text behind it. -/
abbrev Reader (α : Type) := List Char → Option (α × List Char)

/-- A character that has to stand here. -/
def expectChar (expected : Char) : Reader Unit
  | c :: rest => if c = expected then some ((), rest) else none
  | [] => none

end GestureCalculator.Text
