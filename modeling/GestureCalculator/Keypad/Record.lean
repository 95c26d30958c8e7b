import GestureCalculator.Json.Value
import GestureCalculator.Keypad.Geometry

/-!
Keys and layouts as JSON values.
-/
namespace GestureCalculator.Keypad

/-- A label by its text. -/
def Label.json (label : Label) : Json := .text label.text

/-- A point by its coordinates. -/
def Point.json (p : Point) : Json := .object [("x", .integer p.x), ("y", .integer p.y)]

/-- A key by its label and its corners. -/
def Key.json (key : Key) : Json :=
  .object [("label", key.label.json), ("x1", .integer key.x1), ("y1", .integer key.y1),
    ("x2", .integer key.x2), ("y2", .integer key.y2)]

/-- A layout by the size of its area and its keys. -/
def Layout.json (layout : Layout) : Json :=
  .object [("width", .integer layout.width.toNat), ("height", .integer layout.height.toNat),
    ("keys", .array (layout.keys.map Key.json))]

end GestureCalculator.Keypad
