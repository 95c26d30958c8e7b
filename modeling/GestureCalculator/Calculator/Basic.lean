import GestureCalculator.Calculator.Event
import GestureCalculator.Calculator.Overlay
import GestureCalculator.Gesture.Press
import GestureCalculator.Settings.Basic

/-!
The calculator: frames move the hand over the keypad and may press keys, and keys can be pressed without
a hand; both go to the same session.
-/
namespace GestureCalculator
open Keypad Gesture

/-- The hand in the frame pinches; no hand does not. -/
def Frame.pinch? (machine : Machine) (settings : Gesture.Settings) (frame : Frame) : Option Bool :=
  match frame.hand with
  | some hand => isPinch? machine hand frame.width settings
  | none => some false

/-- The calculator between two events. -/
structure Calculator where
  machine : Machine
  settings : GestureCalculator.Settings
  /-- The keypad of the last frame, kept as long as the size of the frames does not change. -/
  layout : Option Layout := none
  gesture : Gesture.State := {}
  session : Session := {}
  /-- The number of frames so far. -/
  frames : UInt64 := 0

namespace Calculator

/-- The keypad for a frame of this size: the last one if it fits. -/
def layoutFor? (calculator : Calculator) (width height : UInt32) : Option Layout :=
  let built := Layout.build? calculator.machine.overflow width height calculator.settings.layout
  match calculator.layout with
  | some layout => if layout.fits width height then some layout else built
  | none => built

/-- The calculator after the hand in a frame moved over a keypad, with the key that it pressed applied to the
    session, and what is shown over the frame. -/
def onLayout (calculator : Calculator) (layout : Layout) (frame : Frame) (pinch : Bool) : Overlay × Calculator :=
  let fingertip := frame.hand.map Hand.fingertip
  let (outcome, gesture) :=
    calculator.gesture.advance calculator.settings.gesture layout fingertip pinch
  let pressed := outcome.pressed.map Key.label
  let session := pressed.elim calculator.session calculator.session.press
  ({ Overlay.of calculator.frames layout.keys session with
      hovered := outcome.hovered.map Key.label, pressed, fingertip, pinch },
   { calculator with layout := some layout, gesture, session })

/-- The calculator after a frame, and what is shown over it. -/
def frame? (calculator : Calculator) (frame : Frame) : Option (Overlay × Calculator) := do
  let frames ← calculator.machine.overflow.next? calculator.frames
  let layout ← calculator.layoutFor? frame.width frame.height
  let pinch ← frame.pinch? calculator.machine calculator.settings.gesture
  let (overlay, after) := calculator.onLayout layout frame pinch
  return (overlay, { after with frames })

/-- The calculator after a key was pressed without a hand, and what is shown then. -/
def key (calculator : Calculator) (label : Label) : Overlay × Calculator :=
  let session := calculator.session.press label
  (Overlay.of calculator.frames (calculator.layout.elim [] Layout.keys) session, { calculator with session })

/-- The calculator after an event, and what is shown then. -/
def handle? (calculator : Calculator) : Event → Option (Overlay × Calculator)
  | .frame frame => calculator.frame? frame
  | .key label => some (calculator.key label)

end Calculator
end GestureCalculator
