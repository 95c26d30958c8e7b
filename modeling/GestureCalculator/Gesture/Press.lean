import GestureCalculator.Gesture.Pinch
import GestureCalculator.Words

/-!
Key presses from the movement of a hand. A key is pressed by a pinch over it or by staying over it for a
number of frames; after a press, no other follows for a number of frames.
-/
namespace GestureCalculator.Gesture
open Keypad

/-- What is remembered from frame to frame. -/
structure State where
  /-- The frames spent over the last key after the first one. -/
  dwell : Nat := 0
  /-- The key the finger was over when it was last seen. -/
  last : Option Label := none
  /-- The frames still to wait. -/
  cooldown : Nat := 0
deriving DecidableEq, Repr

/-- What one frame showed: the key under the finger, and the key that was pressed. -/
structure Outcome where
  hovered : Option Key
  pressed : Option Key
deriving DecidableEq, Repr

/-- The state after the finger was seen over a key, or over none. The count of frames stops at the greatest
    one. -/
def State.hover (state : State) (label : Option Label) : State :=
  { state with
    dwell := if label.isSome ∧ label = state.last then min (state.dwell + 1) greatestCount else 0
    last := label }

/-- One frame. Without a hand only the waiting goes on. -/
def State.advance (settings : Settings) (layout : Layout) (fingertip : Option Point) (pinch : Bool)
    (state : State) : Outcome × State :=
  let hovered := fingertip.bind layout.keyAt?
  let seen := if fingertip.isSome then state.hover (hovered.map Key.label) else state
  if 0 < seen.cooldown then (⟨hovered, none⟩, { seen with cooldown := seen.cooldown - 1 })
  else
    let pressed := hovered.filter fun _ => pinch || decide (settings.dwellFrames.toNat ≤ seen.dwell)
    (⟨hovered, pressed⟩,
      if pressed.isSome then { seen with cooldown := settings.cooldownFrames.toNat } else seen)

end GestureCalculator.Gesture
