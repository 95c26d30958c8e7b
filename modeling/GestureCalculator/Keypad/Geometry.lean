import GestureCalculator.Keypad.Label
import GestureCalculator.Machine

/-!
The geometry of the keypad: where each key lies on a display area, and which key a point hits.
-/
namespace GestureCalculator.Keypad

/-- A pixel. -/
structure Point where
  x : Int
  y : Int
deriving DecidableEq, Repr

/-- The distance between two points. -/
def Point.distance? (machine : Machine) (p q : Point) : Option Float := do
  let width ← machine.overflow.pixel? (p.x - q.x)
  let height ← machine.overflow.pixel? (p.y - q.y)
  return machine.hypotenuse width height

/-- A key and the corners of its rectangle, which belong to it. -/
structure Key where
  label : Label
  x1 : Int
  y1 : Int
  x2 : Int
  y2 : Int
deriving DecidableEq, Repr

/-- The point lies in the rectangle of the key. -/
def Key.contains (key : Key) (p : Point) : Bool :=
  decide (key.x1 ≤ p.x ∧ p.x ≤ key.x2 ∧ key.y1 ≤ p.y ∧ p.y ≤ key.y2)

/-- The rectangles overlap in the sense of their bounds: each begins before the other ends. -/
def Key.intersects (key other : Key) : Bool :=
  decide (key.x1 ≤ other.x2 ∧ other.x1 ≤ key.x2 ∧ key.y1 ≤ other.y2 ∧ other.y1 ≤ key.y2)

/-- The keys on an area of the given size. -/
structure Layout where
  width : UInt32
  height : UInt32
  keys : List Key
deriving DecidableEq, Repr

/-- The key under a point, the first one if there are several. -/
def Layout.keyAt? (layout : Layout) (p : Point) : Option Key := layout.keys.find? (·.contains p)

/-- The key with a label. -/
def Layout.key? (layout : Layout) (label : Label) : Option Key :=
  layout.keys.find? fun key => key.label == label

/-- The layout was made for an area of this size. -/
def Layout.fits (layout : Layout) (width height : UInt32) : Bool :=
  layout.width == width && layout.height == height

end GestureCalculator.Keypad
