import GestureCalculator.Expression.Value
import GestureCalculator.Keypad.Label

/-!
A calculation in progress: the expression that is being typed and the last result.
-/
namespace GestureCalculator
open Keypad

/-- The texts of a calculation. -/
structure Session where
  expression : String := ""
  lastResult : String := ""
deriving DecidableEq, Repr

namespace Session

/-- What stands for a result if there is none. -/
def errorResult : String := "ERROR"

/-- The session after its expression was evaluated. The result takes the place of the expression, so that
    it can be continued; a failure leaves no expression. -/
def evaluate (session : Session) : Session :=
  if Text.isBlankText session.expression then { session with lastResult := "" }
  else
    match Expression.evaluate session.expression with
    | .ok value => ⟨value.text, value.text⟩
    | .error _ => ⟨"", errorResult⟩

/-- The session after a key. Digits and operators are added to the expression whatever it is. -/
def press (session : Session) (label : Label) : Session :=
  match label with
  | .clear => {}
  | .equals => session.evaluate
  | label => { session with expression := session.expression ++ label.text }

/-- The last evaluation failed. -/
def isError (session : Session) : Bool := session.lastResult == errorResult

end Session
end GestureCalculator
