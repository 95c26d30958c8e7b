import GestureCalculator.Keypad.Grid
import Mathlib

/-!
Keypads computed with whole numbers of any size. A keypad that is computed in 32 bits by a program that stops where
they are not enough is the exact one, and a program that does not stop there computes the same.
-/
namespace GestureCalculator

/-! ### Results in 32 bits -/

namespace Overflow

theorem pixel?_of_isPixel (overflow : Overflow) {n : Int} (fits : isPixel n) : overflow.pixel? n = some n := by
  cases overflow with
  | stops => exact if_pos fits
  | wraps =>
    obtain ⟨least, greatest⟩ := of_decide_eq_true fits
    unfold leastPixel at least
    unfold greatestPixel at greatest
    exact congrArg some (Int.bmod_eq_of_le (by omega) (by omega))

theorem pixel?_eq_some {overflow : Overflow} {n : Int} (least : -0x80000000 ≤ n) (greatest : n ≤ 0x7FFFFFFF) :
    overflow.pixel? n = some n :=
  overflow.pixel?_of_isPixel (decide_eq_true ⟨least, greatest⟩)

/-- A program that stops where the bits are not enough goes on with the exact result. -/
theorem pixel?_stops_eq_some_iff {n m : Int} : stops.pixel? n = some m ↔ isPixel n ∧ n = m := by
  rw [pixel?, Option.ite_none_right_eq_some, Option.some.injEq]

theorem isSome_pixel?_iff {overflow : Overflow} {n : Int} :
    (overflow.pixel? n).isSome ↔ overflow = .wraps ∨ isPixel n := by
  cases overflow <;> simp [pixel?]

end Overflow

namespace Keypad

/-! ### Exact keypads -/

/-- The grid for an area of a given size, right-aligned but for the margin and centred vertically. -/
def Grid.of (width height : UInt32) (settings : Settings) : Grid :=
  let areaWidth := scaled (clamped width) settings.widthRatio
  let areaHeight := scaled (clamped height) settings.heightRatio
  { left := clamped width - areaWidth - settings.margin.toInt
    top := (clamped height - areaHeight).tdiv 2
    cellWidth := max (areaWidth.tdiv (clamped settings.columns)) 0
    cellHeight := max (areaHeight.tdiv (clamped settings.rows)) 0 }

/-- The key in a cell. -/
def Grid.keyIn (grid : Grid) (row column : Nat) (label : Label) : Key :=
  let x := grid.left + column * grid.cellWidth
  let y := grid.top + row * grid.cellHeight
  { label
    x1 := x
    y1 := y
    x2 := x + max (grid.cellWidth - keyGap) 0
    y2 := y + max (grid.cellHeight - keyGap) 0 }

/-- The keypad for an area. The labels fill the cells row by row; cells beyond the last label stay empty,
    and without columns or rows there are no keys. -/
def Layout.build (width height : UInt32) (settings : Settings) : Layout :=
  let grid := Grid.of width height settings
  { width
    height
    keys := (cells (clamped settings.columns) (clamped settings.rows)).zipWith
      (fun (row, column) label => grid.keyIn row column label) Label.keypadOrder }

/-- The keys, each in its cell. -/
theorem keys_build (width height : UInt32) (settings : Settings) :
    (Layout.build width height settings).keys =
      ((cells (clamped settings.columns) (clamped settings.rows)).zip Label.keypadOrder).map
        fun ((row, column), label) => (Grid.of width height settings).keyIn row column label := by
  rw [List.map_zip_eq_zipWith]
  rfl

/-! ### Keypads in 32 bits -/

variable {width height : UInt32} {settings : Settings} {grid : Grid} {row column : Nat} {label : Label}

theorem grid?_of_stops (fits : ((Measures.of width height settings).grid? .stops).isSome) (overflow : Overflow) :
    (Measures.of width height settings).grid? overflow = some (Grid.of width height settings) := by
  obtain ⟨grid, computed⟩ := Option.isSome_iff_exists.mp fits
  simp only [Measures.grid?, Option.bind_eq_bind, Option.bind_eq_some_iff, Overflow.pixel?_stops_eq_some_iff] at computed
  obtain ⟨_, ⟨keypadWidth, rfl⟩, _, ⟨keypadHeight, rfl⟩, _, ⟨beside, rfl⟩, _, ⟨left, rfl⟩, _, ⟨beyond, rfl⟩, _, ⟨top, rfl⟩,
    _, ⟨cellWidth, rfl⟩, _, ⟨cellHeight, rfl⟩, _⟩ := computed
  simp only [Measures.grid?, Overflow.pixel?_of_isPixel, keypadWidth, keypadHeight, beside, left, beyond, top, cellWidth,
    cellHeight, Option.bind_eq_bind, Option.bind_some]
  rfl

theorem keyIn?_of_stops (fits : (grid.keyIn? .stops row column label).isSome) (overflow : Overflow) :
    grid.keyIn? overflow row column label = some (grid.keyIn row column label) := by
  obtain ⟨key, computed⟩ := Option.isSome_iff_exists.mp fits
  simp only [Grid.keyIn?, Option.bind_eq_bind, Option.bind_eq_some_iff, Overflow.pixel?_stops_eq_some_iff] at computed
  obtain ⟨_, ⟨across, rfl⟩, _, ⟨x1, rfl⟩, _, ⟨down, rfl⟩, _, ⟨y1, rfl⟩, _, ⟨keyWidth, rfl⟩, _, ⟨x2, rfl⟩, _, ⟨keyHeight, rfl⟩,
    _, ⟨y2, rfl⟩, _⟩ := computed
  simp only [Grid.keyIn?, Overflow.pixel?_of_isPixel, across, x1, down, y1, keyWidth, x2, keyHeight, y2, Option.bind_eq_bind,
    Option.bind_some]
  rfl

/-- A list whose elements are all found. -/
theorem mapM_eq_some_map {α β : Type} {f : α → Option β} {g : α → β} {xs : List α}
    (found : ∀ x ∈ xs, f x = some (g x)) : xs.mapM f = some (xs.map g) := by
  induction xs with
  | nil => rfl
  | cons x xs ih =>
    rw [List.mapM_cons, found x List.mem_cons_self, ih fun y mem => found y (List.mem_cons_of_mem _ mem)]
    rfl

theorem isSome_mapM {α β : Type} {f : α → Option β} {xs : List α} : (xs.mapM f).isSome ↔ ∀ x ∈ xs, (f x).isSome := by
  induction xs with
  | nil => simp
  | cons x xs ih =>
    rw [List.mapM_cons, List.forall_mem_cons, ← ih, Option.bind_eq_bind]
    cases f x with
    | none => simp
    | some y => cases xs.mapM f <;> simp

/-- A keypad that is computed by a program that stops is the exact one, and a program that goes on computes it too. -/
theorem build?_of_stops (fits : (Layout.build? .stops width height settings).isSome) (overflow : Overflow) :
    Layout.build? overflow width height settings = some (Layout.build width height settings) := by
  have parts : Layout.build width height settings = ⟨width, height, (Layout.build width height settings).keys⟩ := rfl
  rw [parts, keys_build]
  unfold Layout.build? at fits ⊢
  split_ifs at fits ⊢ with empty
  · have none : cells (clamped settings.columns) (clamped settings.rows) = [] := by
      rcases empty with columns | rows
      · simp [columns, cells, clamped]
      · simp [rows, cells, clamped]
    rw [none]
    rfl
  · rw [Option.isSome_map, Measures.keys?, Option.bind_eq_bind] at fits
    obtain ⟨grid, computed⟩ : ∃ grid, (Measures.of width height settings).grid? .stops = some grid :=
      Option.isSome_iff_exists.mp (Option.isSome_of_isSome_bind fits)
    have gridOf := grid?_of_stops (Option.isSome_iff_exists.mpr ⟨grid, computed⟩)
    rw [gridOf .stops, Option.bind_some, isSome_mapM] at fits
    rw [Measures.keys?, gridOf overflow, Option.bind_eq_bind, Option.bind_some]
    exact congrArg _ (mapM_eq_some_map fun cell inside => keyIn?_of_stops (fits cell inside) overflow)

/-- A program that does not stop computes every keypad. -/
theorem isSome_build?_wraps (width height : UInt32) (settings : Settings) :
    (Layout.build? .wraps width height settings).isSome := by
  rw [Layout.build?]
  split_ifs
  · rfl
  · rw [Option.isSome_map, Measures.keys?, Option.bind_eq_bind]
    obtain ⟨grid, computed⟩ : ∃ grid, (Measures.of width height settings).grid? .wraps = some grid := ⟨_, rfl⟩
    rw [computed, Option.bind_some, isSome_mapM]
    exact fun cell _ => rfl

end Keypad
end GestureCalculator
