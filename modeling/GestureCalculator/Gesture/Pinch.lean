import GestureCalculator.Keypad.Geometry

/-!
Hands in front of the keypad, and when the thumb and the finger of one pinch.
-/
namespace GestureCalculator.Gesture
open Keypad

/-- When a hand presses a key. -/
structure Settings where
  /-- The frames over the same key, after the first, that make a press. -/
  dwellFrames : UInt32 := 12
  /-- The frames after a press in which there is no other. -/
  cooldownFrames : UInt32 := 12
  /-- The part of the frame's width below which two fingers pinch. -/
  pinchRatio : Float := 0.04
  /-- The least value of that bound, in pixels. -/
  pinchFloor : Float := 12
deriving Repr, BEq

/-- What is seen of a hand: the finger that points and the thumb. -/
structure Hand where
  fingertip : Point
  thumb : Point
deriving DecidableEq, Repr

/-- The distance below which two fingers pinch in a frame of the given width. -/
def pinchThreshold (frameWidth : UInt32) (settings : Settings) : Float :=
  Binary64.greater (Binary64.truncate (Binary64.ofInt frameWidth.toNat * settings.pinchRatio))
    settings.pinchFloor

/-- The finger and the thumb are close enough for a pinch. -/
def isPinch? (machine : Machine) (hand : Hand) (frameWidth : UInt32) (settings : Settings) : Option Bool := do
  return (← hand.fingertip.distance? machine hand.thumb) < pinchThreshold frameWidth settings

end GestureCalculator.Gesture
