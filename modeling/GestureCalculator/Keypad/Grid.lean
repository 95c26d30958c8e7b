import GestureCalculator.Keypad.Geometry
import GestureCalculator.Words

/-!
The grid of the keypad: equal cells at the right edge of a display area, filled with keys row by row.
-/
namespace GestureCalculator.Keypad
open Binary64

/-- Where the keypad lies on a display area. -/
structure Settings where
  columns : UInt32 := 4
  rows : UInt32 := 4
  /-- The part of the area's width that the keypad takes. -/
  widthRatio : Float := 0.35
  /-- The part of the area's height that the keypad takes. -/
  heightRatio : Float := 0.7
  /-- The distance from the right edge of the area, in pixels. -/
  margin : Int32 := 20
deriving Repr, BEq

/-- The pixels left free at the right and the lower edge of a cell. -/
def keyGap : Int := 2

/-- A count that does not go beyond the greatest pixel coordinate. -/
def clamped (count : UInt32) : Int := min (count.toNat : Int) greatestPixel

/-- A part of a size, without its fraction. -/
def scaled (size : Int) (ratio : Float) : Int :=
  wholePartWithin leastPixel greatestPixel (ofInt size * ratio)

/-- The cells of the keypad: the corner of the first one, and the size that all of them have. -/
structure Grid where
  left : Int
  top : Int
  cellWidth : Int
  cellHeight : Int
deriving DecidableEq, Repr

/-- The numbers that a keypad is computed from. -/
structure Measures where
  width : Int
  height : Int
  /-- The width of all cells together, before it is divided. -/
  keypadWidth : Int
  /-- The height of all cells together, before it is divided. -/
  keypadHeight : Int
  margin : Int
  columns : Int
  rows : Int

def Measures.of (width height : UInt32) (settings : Settings) : Measures where
  width := clamped width
  height := clamped height
  keypadWidth := scaled (clamped width) settings.widthRatio
  keypadHeight := scaled (clamped height) settings.heightRatio
  margin := settings.margin.toInt
  columns := clamped settings.columns
  rows := clamped settings.rows

/-- The grid, right-aligned but for the margin and centred vertically. -/
def Measures.grid? (overflow : Overflow) (measures : Measures) : Option Grid := do
  let keypadWidth ← overflow.pixel? measures.keypadWidth
  let keypadHeight ← overflow.pixel? measures.keypadHeight
  let beside ← overflow.pixel? (measures.width - keypadWidth)
  let left ← overflow.pixel? (beside - measures.margin)
  let beyond ← overflow.pixel? (measures.height - keypadHeight)
  let top ← overflow.pixel? (beyond.tdiv 2)
  let cellWidth ← overflow.pixel? (keypadWidth.tdiv measures.columns)
  let cellHeight ← overflow.pixel? (keypadHeight.tdiv measures.rows)
  return { left, top, cellWidth := max cellWidth 0, cellHeight := max cellHeight 0 }

/-- The key in a cell. -/
def Grid.keyIn? (overflow : Overflow) (grid : Grid) (row column : Nat) (label : Label) : Option Key := do
  let across ← overflow.pixel? (column * grid.cellWidth)
  let x1 ← overflow.pixel? (grid.left + across)
  let down ← overflow.pixel? (row * grid.cellHeight)
  let y1 ← overflow.pixel? (grid.top + down)
  let keyWidth ← overflow.pixel? (grid.cellWidth - keyGap)
  let x2 ← overflow.pixel? (x1 + max keyWidth 0)
  let keyHeight ← overflow.pixel? (grid.cellHeight - keyGap)
  let y2 ← overflow.pixel? (y1 + max keyHeight 0)
  return { label, x1, y1, x2, y2 }

/-- The rows and columns of the cells that may hold a key, row by row. There are no more keys than
    labels, so neither are more rows or columns looked at. -/
def cells (columns rows : Int) : List (Nat × Nat) :=
  let atMost (count : Int) : Nat := min count.toNat Label.keypadOrder.length
  (List.range (atMost rows)).flatMap fun row =>
    (List.range (atMost columns)).map fun column => (row, column)

/-- The keys for measures. The labels fill the cells row by row; cells beyond the last label stay empty. -/
def Measures.keys? (overflow : Overflow) (measures : Measures) : Option (List Key) := do
  let grid ← measures.grid? overflow
  ((cells measures.columns measures.rows).zip Label.keypadOrder).mapM fun ((row, column), label) =>
    grid.keyIn? overflow row column label

/-- The keypad for an area. Without columns or rows there are no keys, and nothing is computed. -/
def Layout.build? (overflow : Overflow) (width height : UInt32) (settings : Settings) : Option Layout :=
  if settings.columns = 0 ∨ settings.rows = 0 then some { width, height, keys := [] }
  else ((Measures.of width height settings).keys? overflow).map fun keys => { width, height, keys }

end GestureCalculator.Keypad
