import GestureCalculator.CommandLine.Answer
import Mathlib.Data.List.TakeWhile
import Mathlib.Tactic

/-!
Lines. The bytes of a text have the lines of the text, and lines that are written out one by one are the lines of the
output, as long as none of them has a line break inside.
-/
namespace GestureCalculator

section

variable {α β : Type} [DecidableEq α] [DecidableEq β] {carriage feed : α}

end

/-! ### Bytes -/

end GestureCalculator
