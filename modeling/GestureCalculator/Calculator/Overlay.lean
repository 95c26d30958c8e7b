import GestureCalculator.Calculator.Session
import GestureCalculator.Keypad.Record

/-!
What is shown after an event: the keys, what the hand does, and the texts of the calculation.
-/
namespace GestureCalculator
open Keypad

/-- Everything that is drawn over one frame. -/
structure Overlay where
  /-- The number of frames before this one. -/
  frame : UInt64
  keys : List Key
  /-- The key under the finger. -/
  hovered : Option Label := none
  /-- The key pressed in this frame. -/
  pressed : Option Label := none
  fingertip : Option Point := none
  pinch : Bool := false
  expression : String
  lastResult : String
  /-- The last evaluation failed. -/
  isError : Bool
deriving DecidableEq, Repr

namespace Overlay

/-- The overlay of a session without a hand. -/
def of (frame : UInt64) (keys : List Key) (session : Session) : Overlay :=
  { frame
    keys
    expression := session.expression
    lastResult := session.lastResult
    isError := session.isError }

def expressionLine (overlay : Overlay) : String := "Expr: " ++ overlay.expression

def resultLine (overlay : Overlay) : String := "Result: " ++ overlay.lastResult

def json (overlay : Overlay) : Json :=
  .object [("frame", .integer overlay.frame.toNat), ("keys", .array (overlay.keys.map Key.json)),
    ("hovered", Json.ofOption Label.json overlay.hovered),
    ("pressed", Json.ofOption Label.json overlay.pressed),
    ("fingertip", Json.ofOption Point.json overlay.fingertip), ("pinch", .truth overlay.pinch),
    ("expression", .text overlay.expression), ("last_result", .text overlay.lastResult),
    ("is_error", .truth overlay.isError)]

end Overlay
end GestureCalculator
