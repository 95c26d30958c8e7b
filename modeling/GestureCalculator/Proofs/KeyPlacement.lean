import GestureCalculator.Proofs.ExactKeypads

/-!
Where the keys of a keypad lie. The cells are counted row by row, so the number of a key gives its row and its
column, and two keys overlap exactly if they share both: cells that have a width and a height leave each key a
rectangle of its own.
-/
namespace GestureCalculator.Keypad

/-- The columns of the grid, as far as pixels can count them. -/
def Settings.columnCount (settings : Settings) : Nat := (clamped settings.columns).toNat

/-- The rows of the grid, as far as pixels can count them. -/
def Settings.rowCount (settings : Settings) : Nat := (clamped settings.rows).toNat

variable {width height : UInt32} {settings : Settings}

/-! ### Cells in order -/

/-- The number of a cell gives its row and its column back. -/
theorem div_mod_place {columns column : Nat} (inside : column < columns) (row : Nat) :
    (row * columns + column) / columns = row ∧ (row * columns + column) % columns = column := by
  have positive : 0 < columns := by omega
  rw [Nat.mul_comm, Nat.mul_add_div positive, Nat.mul_add_mod, Nat.div_eq_of_lt inside, Nat.mod_eq_of_lt inside]
  exact ⟨rfl, rfl⟩

/-- Cells that are listed row by row are those of the numbers from zero on. -/
theorem flatMap_rows (rows columns : Nat) :
    (List.range rows).flatMap (fun row => (List.range columns).map fun column => (row, column)) =
      (List.range (rows * columns)).map fun place => (place / columns, place % columns) := by
  induction rows with
  | zero => simp
  | succ rows ih =>
    have last : (List.range columns).map (fun column => (rows, column)) =
        (List.range columns).map fun column =>
          ((rows * columns + column) / columns, (rows * columns + column) % columns) := by
      apply List.map_congr_left
      intro column inside
      obtain ⟨row, same⟩ := div_mod_place (List.mem_range.mp inside) rows
      rw [row, same]
    rw [List.range_succ, List.flatMap_append, ih, List.flatMap_singleton, last, Nat.succ_mul, List.range_add,
      List.map_append, List.map_map]
    rfl

/-- No more rows and columns have to be looked at than there are labels. -/
theorem lt_min_mul_min_iff {rows columns labels place : Nat} (labelled : place < labels) :
    place < min rows labels * min columns labels ↔ place < rows * columns := by
  rcases Nat.eq_zero_or_pos rows with rfl | someRows
  · simp
  rcases Nat.eq_zero_or_pos columns with rfl | someColumns
  · simp
  rcases Nat.le_total rows labels with fewRows | manyRows
  · rcases Nat.le_total columns labels with fewColumns | manyColumns
    · rw [Nat.min_eq_left fewRows, Nat.min_eq_left fewColumns]
    · -- The first row has a cell for every label.
      rw [Nat.min_eq_left fewRows, Nat.min_eq_right manyColumns]
      have := Nat.le_mul_of_pos_left labels someRows
      have := Nat.le_mul_of_pos_left columns someRows
      omega
  · have some' : 0 < min columns labels := by omega
    rw [Nat.min_eq_right manyRows]
    have := Nat.le_mul_of_pos_right labels some'
    have := Nat.le_mul_of_pos_right rows someColumns
    omega

/-- Nor does it change the row and the column of a cell. -/
theorem div_mod_min {columns labels place : Nat} (labelled : place < labels) :
    place / min columns labels = place / columns ∧ place % min columns labels = place % columns := by
  rcases Nat.le_total columns labels with few | many
  · rw [Nat.min_eq_left few]
    exact ⟨rfl, rfl⟩
  · rw [Nat.min_eq_right many, Nat.div_eq_of_lt labelled, Nat.mod_eq_of_lt labelled,
      Nat.div_eq_of_lt (labelled.trans_le many), Nat.mod_eq_of_lt (labelled.trans_le many)]
    exact ⟨rfl, rfl⟩

theorem length_keypadOrder : Label.keypadOrder.length = 16 := rfl

/-- The cells that can hold a key, by their numbers. -/
theorem getElem?_cells {columns rows : Int} {place : Nat} (labelled : place < 16) :
    (cells columns rows)[place]? =
      if place < rows.toNat * columns.toNat then some (place / columns.toNat, place % columns.toNat) else none := by
  obtain ⟨row, column⟩ := @div_mod_min columns.toNat 16 place labelled
  have inside := @lt_min_mul_min_iff rows.toNat columns.toNat 16 place labelled
  simp only [cells, length_keypadOrder, flatMap_rows, List.getElem?_map]
  split
  next there => rw [List.getElem?_range (inside.mpr there), Option.map_some, row, column]
  next none =>
    rw [List.getElem?_eq_none (by rw [List.length_range]; omega)]
    rfl

/-! ### Keys by their numbers -/

/-- The key with a number: it has the label with that number and lies in the cell with that number. -/
theorem getElem?_keys (place : Nat) :
    (Layout.build width height settings).keys[place]? =
      if place < settings.rowCount * settings.columnCount then
        Label.keypadOrder[place]?.map
          ((Grid.of width height settings).keyIn (place / settings.columnCount) (place % settings.columnCount))
      else none := by
  rw [Layout.build, List.getElem?_zipWith]
  by_cases labelled : place < 16
  · obtain ⟨label, named⟩ : ∃ label, Label.keypadOrder[place]? = some label :=
      ⟨_, List.getElem?_eq_getElem labelled⟩
    have cell : (cells (clamped settings.columns) (clamped settings.rows))[place]? =
        if place < settings.rowCount * settings.columnCount then
          some (place / settings.columnCount, place % settings.columnCount)
        else none := getElem?_cells labelled
    rw [cell, named]
    by_cases inside : place < settings.rowCount * settings.columnCount
    · rw [if_pos inside, if_pos inside]
      rfl
    · rw [if_neg inside, if_neg inside]
  · rw [List.getElem?_eq_none (l := Label.keypadOrder) (by rw [length_keypadOrder]; omega), Option.map_none, ite_self]
    split <;> simp_all

/-- A key with a number is the one in its cell. -/
theorem eq_keyIn_of_getElem? {place : Nat} {key : Key}
    (found : (Layout.build width height settings).keys[place]? = some key) :
    place < settings.rowCount * settings.columnCount ∧ ∃ label, Label.keypadOrder[place]? = some label ∧
      key = (Grid.of width height settings).keyIn (place / settings.columnCount) (place % settings.columnCount)
        label := by
  rw [getElem?_keys] at found
  split at found
  next inside =>
    obtain ⟨label, labelled, rfl⟩ := Option.map_eq_some_iff.mp found
    exact ⟨inside, label, labelled, rfl⟩
  next => cases found

theorem length_keys :
    (Layout.build width height settings).keys.length = min 16 (settings.columnCount * settings.rowCount) := by
  -- Both lengths are told by the numbers below them, and those are the numbers of keys.
  apply eq_of_forall_lt_iff
  intro place
  have inside : place < (Layout.build width height settings).keys.length ↔
      (Layout.build width height settings).keys[place]? ≠ none := by
    rw [ne_eq, List.getElem?_eq_none_iff, Nat.not_le]
  rw [inside, getElem?_keys, Nat.lt_min, Nat.mul_comm settings.columnCount]
  split
  next few =>
    rw [ne_eq, Option.map_eq_none_iff, List.getElem?_eq_none_iff, length_keypadOrder]
    omega
  next many => simp [many]

/-! ### Overlaps -/

theorem cellWidth_nonneg : 0 ≤ (Grid.of width height settings).cellWidth := Int.le_max_right _ _

theorem cellHeight_nonneg : 0 ≤ (Grid.of width height settings).cellHeight := Int.le_max_right _ _

/-- A cell that is counted later begins behind the key in one that is counted earlier, unless cells have no size. -/
theorem key_ends_before {size : Int} {first second : Nat} (sized : 1 ≤ size) (before : first < second) :
    first * size + max (size - keyGap) 0 < second * size := by
  have gap : keyGap = 2 := rfl
  have next : ((first : Int) + 1) * size ≤ second * size :=
    Int.mul_le_mul_of_nonneg_right (by omega) (by omega)
  rw [Int.add_mul, Int.one_mul] at next
  omega

/-- In one direction, keys reach into each other exactly if they are in the same line of cells. -/
theorem reaches_iff {size : Int} (nonneg : 0 ≤ size) (start : Int) (first second : Nat) :
    (start + first * size ≤ start + second * size + max (size - keyGap) 0 ∧
        start + second * size ≤ start + first * size + max (size - keyGap) 0) ↔
      first = second ∨ size = 0 := by
  constructor
  · rintro ⟨reaches, reaches'⟩
    by_contra apart
    rw [not_or] at apart
    have sized : 1 ≤ size := by omega
    rcases Nat.lt_or_gt_of_ne apart.1 with before | behind
    · have := key_ends_before sized before
      omega
    · have := key_ends_before sized behind
      omega
  · rintro (rfl | rfl)
    · omega
    · simp

/-- Keys in two cells overlap exactly if the cells are in the same column and in the same row, where cells without
    a width are all in the same column, and cells without a height in the same row. -/
theorem keyIn_intersects_iff {grid : Grid} (wide : 0 ≤ grid.cellWidth) (high : 0 ≤ grid.cellHeight)
    (row column row' column' : Nat) (label label' : Label) :
    (grid.keyIn row column label).intersects (grid.keyIn row' column' label') ↔
      (column = column' ∨ grid.cellWidth = 0) ∧ (row = row' ∨ grid.cellHeight = 0) := by
  rw [Key.intersects, decide_eq_true_iff, ← reaches_iff wide grid.left, ← reaches_iff high grid.top, and_assoc]
  rfl

/-- Rectangles that are not empty overlap exactly if they share a point. -/
theorem intersects_iff_exists_contains {key other : Key} (wide : key.x1 ≤ key.x2) (high : key.y1 ≤ key.y2)
    (wide' : other.x1 ≤ other.x2) (high' : other.y1 ≤ other.y2) :
    key.intersects other ↔ ∃ p, key.contains p ∧ other.contains p := by
  simp only [Key.intersects, Key.contains, decide_eq_true_iff]
  constructor
  · intro meets
    refine ⟨⟨max key.x1 other.x1, max key.y1 other.y1⟩, ?_, ?_⟩
    · dsimp only
      omega
    · dsimp only
      omega
  · rintro ⟨p, inside, inside'⟩
    omega

/-- Keys overlap as their cells do. -/
theorem intersects_iff_of_getElem? {place place' : Nat} {key key' : Key}
    (found : (Layout.build width height settings).keys[place]? = some key)
    (found' : (Layout.build width height settings).keys[place']? = some key') :
    key.intersects key' ↔
      (place % settings.columnCount = place' % settings.columnCount ∨ (Grid.of width height settings).cellWidth = 0) ∧
        (place / settings.columnCount = place' / settings.columnCount ∨
          (Grid.of width height settings).cellHeight = 0) := by
  obtain ⟨_, label, _, rfl⟩ := eq_keyIn_of_getElem? found
  obtain ⟨_, label', _, rfl⟩ := eq_keyIn_of_getElem? found'
  exact keyIn_intersects_iff cellWidth_nonneg cellHeight_nonneg _ _ _ _ _ _

/-- With cells that have a width and a height, a key overlaps no other. -/
theorem eq_of_intersects {place place' : Nat} {key key' : Key} (wide : 1 ≤ (Grid.of width height settings).cellWidth)
    (high : 1 ≤ (Grid.of width height settings).cellHeight)
    (found : (Layout.build width height settings).keys[place]? = some key)
    (found' : (Layout.build width height settings).keys[place']? = some key') (meets : key.intersects key') :
    place = place' := by
  obtain ⟨column, row⟩ := (intersects_iff_of_getElem? found found').mp meets
  have column := column.resolve_right (by omega)
  have row := row.resolve_right (by omega)
  rw [← Nat.div_add_mod place settings.columnCount, ← Nat.div_add_mod place' settings.columnCount, row, column]

theorem keys_pairwise (wide : 1 ≤ (Grid.of width height settings).cellWidth)
    (high : 1 ≤ (Grid.of width height settings).cellHeight) :
    (Layout.build width height settings).keys.Pairwise fun key other => ¬ key.intersects other := by
  rw [List.pairwise_iff_getElem]
  intro place place' inside inside' before meets
  have same := eq_of_intersects wide high (List.getElem?_eq_getElem inside) (List.getElem?_eq_getElem inside') meets
  omega

/-- On every area and with whatever settings, a keypad whose computation does not go beyond 32 bits is the same whether or
    not the program would stop there, and it has as many keys as there are cells, but not more than sixteen. The key with
    a number has the label with that number, and the number divided by the columns gives its row, with its column as the
    rest; the cells are as great as the columns and rows of the scaled area, and the first one lies at its corner, beside
    the margin and centred vertically. Two keys overlap exactly if they are in the same column or cells have no width, and
    in the same row or cells have no height; so none do if cells have both. -/
theorem keys_row_by_row {width height : UInt32} {settings : Settings} {layout : Layout}
    (built : Layout.build? .stops width height settings = some layout) :
    let areaWidth := scaled (clamped width) settings.widthRatio
    let areaHeight := scaled (clamped height) settings.heightRatio
    let left := clamped width - areaWidth - settings.margin.toInt
    let top := (clamped height - areaHeight).tdiv 2
    let cellWidth := max (areaWidth.tdiv (clamped settings.columns)) 0
    let cellHeight := max (areaHeight.tdiv (clamped settings.rows)) 0
    let columns := settings.columnCount
    (∀ overflow, Layout.build? overflow width height settings = some layout) ∧
      layout.keys.length = min 16 (columns * settings.rowCount) ∧
      (∀ place key, layout.keys[place]? = some key →
        Label.keypadOrder[place]? = some key.label ∧
        key.x1 = left + (place % columns : Nat) * cellWidth ∧ key.x2 = key.x1 + max (cellWidth - 2) 0 ∧
        key.y1 = top + (place / columns : Nat) * cellHeight ∧ key.y2 = key.y1 + max (cellHeight - 2) 0) ∧
      (∀ place key place' key', layout.keys[place]? = some key → layout.keys[place']? = some key' →
        (key.intersects key' ↔ (place % columns = place' % columns ∨ cellWidth = 0) ∧
          (place / columns = place' / columns ∨ cellHeight = 0))) ∧
      (1 ≤ cellWidth → 1 ≤ cellHeight → layout.keys.Pairwise fun key other => ¬ key.intersects other) := by
  intro areaWidth areaHeight left top cellWidth cellHeight columns
  have fits : (Layout.build? .stops width height settings).isSome := by rw [built, Option.isSome_some]
  obtain rfl : Layout.build width height settings = layout :=
    Option.some.inj ((build?_of_stops fits .stops).symm.trans built)
  refine ⟨build?_of_stops fits, length_keys, ?_, ?_, keys_pairwise⟩
  · intro place key found
    obtain ⟨_, label, labelled, rfl⟩ := eq_keyIn_of_getElem? found
    exact ⟨labelled, rfl, rfl, rfl, rfl⟩
  · intro place key place' key' found found'
    exact intersects_iff_of_getElem? found found'

/-- Three columns and two rows of cells without a height, with a margin that moves them beyond the right edge. -/
theorem keys_row_by_row_flat :
    let settings : Settings := { columns := 3, rows := 2, widthRatio := 0.5, heightRatio := 0, margin := -5 }
    let layout := Layout.build 641 480 settings
    Layout.build? .stops 641 480 settings = some layout ∧
      layout.keys.length = min 16 (settings.columnCount * settings.rowCount) ∧
      ∀ key key', layout.keys[1]? = some key → layout.keys[4]? = some key' → key.intersects key' := by
  intro settings layout
  have built : Layout.build? .stops 641 480 settings = some layout := by decide +kernel
  obtain ⟨_, count, _, overlaps, _⟩ := keys_row_by_row built
  refine ⟨built, count, fun key key' first second => (overlaps 1 key 4 key' first second).mpr ⟨.inl ?_, .inr ?_⟩⟩
  · decide +kernel
  · decide +kernel

end GestureCalculator.Keypad
