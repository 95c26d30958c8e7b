import GestureCalculator.Proofs.ExactKeypads
import GestureCalculator.Proofs.Products
import GestureCalculator.Settings.Basic

/-!
Keypads of settings that make sense. A keypad that is built in 32 bits, with every step of the computation checked,
is the keypad that is built exactly: no step goes beyond 32 bits. Its keys lie between the margin and the part of the
width that the keypad takes, and within the height.
-/
namespace GestureCalculator.Keypad
open Binary64

/-! ### Measures that fit -/

/-- The keypad is no greater than its area, there are cells, and all numbers have 32 bits. -/
structure Measures.Fit (measures : Measures) : Prop where
  width : measures.width ≤ greatestPixel
  height : measures.height ≤ greatestPixel
  keypadWidth : 0 ≤ measures.keypadWidth ∧ measures.keypadWidth ≤ measures.width
  keypadHeight : 0 ≤ measures.keypadHeight ∧ measures.keypadHeight ≤ measures.height
  margin : 0 ≤ measures.margin ∧ measures.margin ≤ greatestPixel
  columns : 1 ≤ measures.columns
  rows : 1 ≤ measures.rows

theorem clamped_bounds (count : UInt32) : 0 ≤ clamped count ∧ clamped count ≤ greatestPixel := by
  unfold clamped greatestPixel
  omega

theorem one_le_clamped {count : UInt32} (some' : count ≠ 0) : 1 ≤ clamped count := by
  have : count.toNat ≠ 0 := fun none => some' (UInt32.toNat_inj.mp none)
  unfold clamped greatestPixel
  omega

/-- A part of a size is not more than all of it. -/
theorem scaled_bounds {size : Int} {ratio : Float} (bounds : 0 ≤ size ∧ size ≤ greatestPixel)
    (part : GestureCalculator.Settings.isPart ratio) : 0 ≤ scaled size ratio ∧ scaled size ratio ≤ size := by
  obtain ⟨positive, most⟩ : 0 < ratio ∧ ratio ≤ 1 := by simpa [GestureCalculator.Settings.isPart] using part
  obtain ⟨n, rfl⟩ := Int.eq_ofNat_of_zero_le bounds.1
  have small : n < 2 ^ 53 := by
    unfold greatestPixel at bounds
    omega
  obtain ⟨finite, least, greatest⟩ := wholePart_part small positive most
  rw [scaled, wholePartWithin, isNaN_of_isFinite finite, if_neg Bool.false_ne_true]
  generalize wholePart (ofInt n * ratio) = whole at least greatest
  rw [min_eq_right (greatest.trans bounds.2), max_eq_right (show leastPixel ≤ whole from le_trans (by decide) least)]
  exact ⟨least, greatest⟩

theorem guarded_eq_none_iff {Fault : Type} {found : Prop} [Decidable found] {fault : Fault} {others : Option Fault} :
    (if found then some fault else others) = none ↔ ¬ found ∧ others = none := by
  split <;> simp [*]

/-- Settings without a fault have measures that fit, whatever the size of the area. -/
theorem fit_of_fault? {settings : GestureCalculator.Settings} (valid : settings.fault? = none) (width height : UInt32) :
    (Measures.of width height settings.layout).Fit := by
  simp only [GestureCalculator.Settings.fault?, guarded_eq_none_iff, not_or, Bool.not_eq_true', Bool.not_eq_false] at valid
  obtain ⟨_, _, _, _, ⟨columns, rows⟩, widthPart, heightPart, margin, _⟩ := valid
  have nonneg : ¬ settings.layout.margin.toInt < (0 : Int32).toInt := fun negative =>
    margin (Int32.lt_iff_toInt_lt.mpr negative)
  exact {
    width := (clamped_bounds width).2
    height := (clamped_bounds height).2
    keypadWidth := scaled_bounds (clamped_bounds width) widthPart
    keypadHeight := scaled_bounds (clamped_bounds height) heightPart
    margin := ⟨Int.not_lt.mp nonneg, Int.le_of_lt_add_one settings.layout.margin.toInt_lt⟩
    columns := one_le_clamped columns
    rows := one_le_clamped rows }

/-! ### No step beyond 32 bits -/

/-- The grid, computed exactly. -/
def Measures.grid (measures : Measures) : Grid where
  left := measures.width - measures.keypadWidth - measures.margin
  top := (measures.height - measures.keypadHeight).tdiv 2
  cellWidth := max (measures.keypadWidth.tdiv measures.columns) 0
  cellHeight := max (measures.keypadHeight.tdiv measures.rows) 0

/-- In one direction, a cell in a line of equal ones ends within the length that they share. -/
theorem cell_within {length count : Int} {line : Nat} (nonneg : 0 ≤ length) (inside : line < count) :
    0 ≤ length.tdiv count ∧ length.tdiv count ≤ length ∧ 0 ≤ line * max (length.tdiv count) 0 ∧
      line * max (length.tdiv count) 0 + max (length.tdiv count) 0 ≤ length := by
  rw [Int.tdiv_eq_ediv_of_nonneg nonneg]
  have size : 0 ≤ length / count := Int.ediv_nonneg nonneg (by omega)
  rw [Int.max_eq_left size]
  have before : 0 ≤ line * (length / count) := Int.mul_nonneg (by omega) size
  -- The cell ends where the next line begins, and there are no more lines than `count`.
  have all : (line + 1 : Int) * (length / count) ≤ length :=
    calc (line + 1 : Int) * (length / count) ≤ count * (length / count) :=
        Int.mul_le_mul_of_nonneg_right (by omega) size
      _ ≤ length := Int.mul_ediv_self_le (by omega)
  rw [Int.add_mul, Int.one_mul] at all
  exact ⟨size, by omega, before, all⟩

variable {measures : Measures}

theorem Measures.Fit.tdiv_two (fit : measures.Fit) :
    (measures.height - measures.keypadHeight).tdiv 2 = (measures.height - measures.keypadHeight) / 2 :=
  Int.tdiv_eq_ediv_of_nonneg (Int.sub_nonneg.mpr fit.keypadHeight.2)

theorem grid?_eq (fit : measures.Fit) (overflow : Overflow) : measures.grid? overflow = some measures.grid := by
  have centred := fit.tdiv_two
  obtain ⟨width, height, keypadWidth, keypadHeight, margin, columns, rows⟩ := fit
  have cellWidth := @cell_within _ measures.columns 0 keypadWidth.1 (by omega)
  have cellHeight := @cell_within _ measures.rows 0 keypadHeight.1 (by omega)
  unfold greatestPixel at width height margin
  unfold Measures.grid?
  simp (disch := omega) only [Overflow.pixel?_eq_some, Option.bind_eq_bind, Option.bind_some]
  rfl

/-- A key in one of the cells lies between the margin and the part of the width that the keypad takes, and within the
    height. -/
theorem keyIn_bounds (fit : measures.Fit) {row column : Nat} (inRows : row < measures.rows)
    (inColumns : column < measures.columns) (label : Label) :
    let key := measures.grid.keyIn row column label
    (measures.width - measures.keypadWidth - measures.margin ≤ key.x1 ∧ key.x1 ≤ key.x2 ∧
        key.x2 ≤ measures.width - measures.margin) ∧
      0 ≤ key.y1 ∧ key.y1 ≤ key.y2 ∧ key.y2 ≤ measures.height := by
  have centred := fit.tdiv_two
  obtain ⟨-, -, keypadWidth, keypadHeight, -, -, -⟩ := fit
  have across := cell_within keypadWidth.1 inColumns
  have down := cell_within keypadHeight.1 inRows
  have gap : keyGap = 2 := rfl
  dsimp only [Measures.grid, Grid.keyIn]
  rw [centred, gap]
  omega

theorem keyIn?_eq (fit : measures.Fit) {row column : Nat} (inRows : row < measures.rows)
    (inColumns : column < measures.columns) (label : Label) (overflow : Overflow) :
    measures.grid.keyIn? overflow row column label = some (measures.grid.keyIn row column label) := by
  have centred := fit.tdiv_two
  obtain ⟨width, height, keypadWidth, keypadHeight, margin, -, -⟩ := fit
  have across := cell_within keypadWidth.1 inColumns
  have down := cell_within keypadHeight.1 inRows
  have gap : keyGap = 2 := rfl
  unfold greatestPixel at width height margin
  dsimp only [Grid.keyIn?, Measures.grid]
  rw [centred, gap]
  simp (disch := omega) only [Overflow.pixel?_eq_some, Option.bind_eq_bind, Option.bind_some]
  rfl

/-! ### Keypads -/

theorem mem_cells {columns rows : Int} {row column : Nat} {labels : List Label} {label : Label}
    (mem : ((row, column), label) ∈ (cells columns rows).zip labels) : row < rows ∧ column < columns := by
  have cell := (List.of_mem_zip mem).1
  simp only [cells, List.mem_flatMap, List.mem_map, List.mem_range, Prod.mk.injEq] at cell
  obtain ⟨_, inRows, _, inColumns, rfl, rfl⟩ := cell
  omega

/-- With settings that make sense, no step of the computation of a keypad goes beyond 32 bits. -/
theorem build?_of_fault? {settings : GestureCalculator.Settings} (valid : settings.fault? = none) (width height : UInt32)
    (overflow : Overflow) :
    Layout.build? overflow width height settings.layout = some (Layout.build width height settings.layout) := by
  have fit := fit_of_fault? valid width height
  refine build?_of_stops ?_ overflow
  rw [Layout.build?]
  split_ifs
  · rfl
  · rw [Option.isSome_map, Measures.keys?, grid?_eq fit, Option.bind_eq_bind, Option.bind_some, isSome_mapM]
    rintro ⟨⟨row, column⟩, label⟩ mem
    obtain ⟨inRows, inColumns⟩ := mem_cells mem
    exact Option.isSome_iff_exists.mpr ⟨_, keyIn?_eq fit inRows inColumns label .stops⟩

/-- With settings that make sense, no step of the computation of a keypad goes beyond 32 bits, whatever the size of the
    area, and the keys lie between the margin and the part of the width that the keypad takes, and within the height. -/
theorem valid_keypad_in_area {settings : GestureCalculator.Settings} (valid : settings.fault? = none)
    (width height : UInt32) :
    let margin := settings.layout.margin.toInt
    let keypadWidth := scaled (clamped width) settings.layout.widthRatio
    let layout := Layout.build width height settings.layout
    Layout.build? .stops width height settings.layout = some layout ∧
      ∀ key ∈ layout.keys,
        (clamped width - keypadWidth - margin ≤ key.x1 ∧ key.x1 ≤ key.x2 ∧ key.x2 ≤ clamped width - margin) ∧
        0 ≤ key.y1 ∧ key.y1 ≤ key.y2 ∧ key.y2 ≤ clamped height := by
  intro margin keypadWidth layout
  refine ⟨build?_of_fault? valid width height .stops, fun key mem => ?_⟩
  rw [keys_build, List.mem_map] at mem
  obtain ⟨⟨⟨row, column⟩, label⟩, mem, rfl⟩ := mem
  obtain ⟨inRows, inColumns⟩ := mem_cells mem
  exact keyIn_bounds (fit_of_fault? valid width height) inRows inColumns label

/-- The greatest area, one row of as many columns as there are pixels, and a margin that moves the keypad out of the
    area. -/
theorem valid_keypad_in_area_greatest :
    let settings : GestureCalculator.Settings :=
      { layout := { columns := 0xFFFFFFFF, rows := 1, widthRatio := 1, heightRatio := 1, margin := 0x7FFFFFFF } }
    let margin := settings.layout.margin.toInt
    let keypadWidth := scaled (clamped 0xFFFFFFFF) settings.layout.widthRatio
    let layout := Layout.build 0xFFFFFFFF 0xFFFFFFFF settings.layout
    settings.fault? = none ∧
      Layout.build? .stops 0xFFFFFFFF 0xFFFFFFFF settings.layout = some layout ∧
      ∀ key ∈ layout.keys,
        (clamped 0xFFFFFFFF - keypadWidth - margin ≤ key.x1 ∧ key.x1 ≤ key.x2 ∧
          key.x2 ≤ clamped 0xFFFFFFFF - margin) ∧
        0 ≤ key.y1 ∧ key.y1 ≤ key.y2 ∧ key.y2 ≤ clamped 0xFFFFFFFF := by
  intro settings margin keypadWidth layout
  have valid : settings.fault? = none := by decide +kernel
  exact ⟨valid, valid_keypad_in_area valid 0xFFFFFFFF 0xFFFFFFFF⟩

end GestureCalculator.Keypad
