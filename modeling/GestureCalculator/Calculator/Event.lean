import GestureCalculator.Gesture.Pinch
import GestureCalculator.Json.Reading
import GestureCalculator.Words

/-!
Events: a frame in which a hand may have been seen, or a key pressed in another way. An event is written
as a JSON object with its type in a field, or as an array of the type and the fields in order.
-/
namespace GestureCalculator
open Keypad Gesture

/-- One captured frame. -/
structure Frame where
  width : UInt32
  height : UInt32
  hand : Option Hand
deriving DecidableEq, Repr

/-- What happens to the calculator. -/
inductive Event where
  | frame (frame : Frame)
  | key (label : Label)
deriving DecidableEq, Repr

namespace Event

/-- The values of the fields of this name. -/
def valuesOf (name : String) (fields : List (String × Json)) : List Json :=
  (fields.filter fun field => field.1 == name).map Prod.snd

/-- The value of a field that has to be there, once. -/
def required? (name : String) (fields : List (String × Json)) : Option Json :=
  match valuesOf name fields with
  | [value] => some value
  | _ => none

/-- The value of a field that may be missing, which then is null; it must not be repeated. -/
def optional? (name : String) (fields : List (String × Json)) : Option Json :=
  match valuesOf name fields with
  | [] => some .null
  | [value] => some value
  | _ => none

def size? : Json → Option UInt32
  | .integer n => countOf? n
  | _ => none

def coordinate? : Json → Option Int
  | .integer n => if isPixel n then some n else none
  | _ => none

def label? : Json → Option Label
  | .text text => Label.ofText? text
  | _ => none

def pointOf? (x y : Json) : Option Point := do
  return ⟨← coordinate? x, ← coordinate? y⟩

def point? : Json → Option Point
  | .object fields => do pointOf? (← required? "x" fields) (← required? "y" fields)
  | .array [x, y] => pointOf? x y
  | _ => none

def handOf? (fingertip thumb : Json) : Option Hand := do
  return ⟨← point? fingertip, ← point? thumb⟩

def hand? : Json → Option Hand
  | .object fields => do handOf? (← required? "fingertip" fields) (← required? "thumb" fields)
  | .array [fingertip, thumb] => handOf? fingertip thumb
  | _ => none

def handOrNone? : Json → Option (Option Hand)
  | .null => some none
  | json => (hand? json).map some

def frameOf? (width height hand : Json) : Option Event := do
  return .frame ⟨← size? width, ← size? height, ← handOrNone? hand⟩

/-- The event that a JSON value stands for. Fields of other names are of no account. -/
def ofJson? : Json → Option Event
  | .object fields => do
    match ← required? "type" fields with
    | .text "frame" =>
      frameOf? (← required? "width" fields) (← required? "height" fields) (← optional? "hand" fields)
    | .text "key" => return .key (← label? (← required? "label" fields))
    | _ => none
  | .array [.text "frame", width, height] => frameOf? width height .null
  | .array [.text "frame", width, height, hand] => frameOf? width height hand
  | .array [.text "key", label] => do return .key (← label? label)
  | _ => none

def ofText? (text : String) : Option Event := do ofJson? (← Json.ofText? text)

end Event
end GestureCalculator
