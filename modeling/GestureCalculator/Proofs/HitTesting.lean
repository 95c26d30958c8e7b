import GestureCalculator.Proofs.KeyPlacement

/-!
The key under a point. Looking for the first key that contains the point finds the same key as a division of the
point's distances from the corner of the keypad by the size of the cells, provided that cells have a size. No
other key contains the point, and the label of the key leads back to it.
-/
namespace GestureCalculator.Keypad

/-- The row and the column of the cell that a point lies in, if a key can be there and the point is not in the gap
    beside it. -/
def Grid.cellAt? (grid : Grid) (columns rows : Nat) (p : Point) : Option (Nat × Nat) :=
  let dx := p.x - grid.left
  let dy := p.y - grid.top
  let column := dx / grid.cellWidth
  let row := dy / grid.cellHeight
  if 0 ≤ dx ∧ 0 ≤ dy ∧ column < columns ∧ row < rows ∧ row * columns + column < 16 ∧
      dx % grid.cellWidth ≤ max (grid.cellWidth - 2) 0 ∧ dy % grid.cellHeight ≤ max (grid.cellHeight - 2) 0 then
    some (row.toNat, column.toNat)
  else none

variable {width height : UInt32} {settings : Settings} {p : Point}

/-! ### Points in cells -/

/-- In one direction, a key reaches from the beginning of its cell to the gap at its end. -/
theorem within_iff {size : Int} (sized : 1 ≤ size) (offset : Int) (line : Nat) :
    (line * size ≤ offset ∧ offset ≤ line * size + max (size - keyGap) 0) ↔
      0 ≤ offset ∧ offset / size = line ∧ offset % size ≤ max (size - 2) 0 := by
  have gap : keyGap = 2 := rfl
  have division := Int.mul_ediv_add_emod offset size
  constructor
  · rintro ⟨begins, ends⟩
    obtain ⟨quotient, rest⟩ : offset / size = line ∧ offset % size = offset - line * size :=
      (Int.ediv_emod_unique (by omega)).mpr ⟨by rw [Int.mul_comm size]; omega, by omega, by omega⟩
    have nonneg : 0 ≤ line * size := Int.mul_nonneg (by omega) (by omega)
    exact ⟨by omega, quotient, by omega⟩
  · rintro ⟨_, quotient, rest⟩
    have below := Int.emod_nonneg offset (show size ≠ 0 by omega)
    rw [quotient, Int.mul_comm size] at division
    omega

/-- The points of a key, by division. -/
theorem keyIn_contains_iff {grid : Grid} (wide : 1 ≤ grid.cellWidth) (high : 1 ≤ grid.cellHeight) (row column : Nat)
    (label : Label) :
    (grid.keyIn row column label).contains p ↔
      (0 ≤ p.x - grid.left ∧ (p.x - grid.left) / grid.cellWidth = column ∧
        (p.x - grid.left) % grid.cellWidth ≤ max (grid.cellWidth - 2) 0) ∧
      0 ≤ p.y - grid.top ∧ (p.y - grid.top) / grid.cellHeight = row ∧
        (p.y - grid.top) % grid.cellHeight ≤ max (grid.cellHeight - 2) 0 := by
  rw [Key.contains, decide_eq_true_iff, ← within_iff wide, ← within_iff high]
  dsimp only [Grid.keyIn]
  omega

/-- A cell is found for a point if it is in the grid and has a label, and the divisions give its column and its row
    with rests that do not reach into the gap. -/
theorem cellAt?_eq_some_iff {grid : Grid} {columns rows row column : Nat} (wide : 1 ≤ grid.cellWidth)
    (high : 1 ≤ grid.cellHeight) :
    grid.cellAt? columns rows p = some (row, column) ↔
      (column < columns ∧ row < rows ∧ row * columns + column < 16) ∧
      (0 ≤ p.x - grid.left ∧ (p.x - grid.left) / grid.cellWidth = column ∧
        (p.x - grid.left) % grid.cellWidth ≤ max (grid.cellWidth - 2) 0) ∧
      0 ≤ p.y - grid.top ∧ (p.y - grid.top) / grid.cellHeight = row ∧
        (p.y - grid.top) % grid.cellHeight ≤ max (grid.cellHeight - 2) 0 := by
  dsimp only [Grid.cellAt?]
  constructor
  · intro cell
    split at cell
    next inGrid =>
      obtain ⟨right, below, inColumn, inRow, labelled, rest, rest'⟩ := inGrid
      have left := Int.ediv_nonneg right (show 0 ≤ grid.cellWidth by omega)
      have above := Int.ediv_nonneg below (show 0 ≤ grid.cellHeight by omega)
      have same := Prod.mk.inj (Option.some.inj cell)
      have across : (p.x - grid.left) / grid.cellWidth = column := by omega
      have down : (p.y - grid.top) / grid.cellHeight = row := by omega
      rw [across, down] at labelled
      exact ⟨⟨by omega, by omega, by exact_mod_cast labelled⟩, ⟨right, across, rest⟩, below, down, rest'⟩
    next => cases cell
  · rintro ⟨⟨inColumn, inRow, labelled⟩, ⟨right, across, rest⟩, below, down, rest'⟩
    have labelled : (row : Int) * columns + column < 16 := by exact_mod_cast labelled
    rw [across, down, if_pos ⟨right, below, by omega, by omega, labelled, rest, rest'⟩]
    rfl

/-- A key contains the points that are found to be in its cell. -/
theorem contains_iff_cellAt? {place : Nat} {key : Key} (wide : 1 ≤ (Grid.of width height settings).cellWidth)
    (high : 1 ≤ (Grid.of width height settings).cellHeight)
    (found : (Layout.build width height settings).keys[place]? = some key) :
    key.contains p ↔ (Grid.of width height settings).cellAt? settings.columnCount settings.rowCount p =
      some (place / settings.columnCount, place % settings.columnCount) := by
  obtain ⟨inside, label, labelled, rfl⟩ := eq_keyIn_of_getElem? found
  have someColumns : 0 < settings.columnCount := Nat.pos_of_mul_pos_left (Nat.zero_lt_of_lt inside)
  have inRow : place / settings.columnCount < settings.rowCount := Nat.div_lt_of_lt_mul (by rwa [Nat.mul_comm])
  have inColumn : place % settings.columnCount < settings.columnCount := Nat.mod_lt _ someColumns
  have few : place / settings.columnCount * settings.columnCount + place % settings.columnCount < 16 := by
    rw [Nat.div_add_mod']
    exact (List.getElem?_eq_some_iff.mp labelled).1
  rw [keyIn_contains_iff wide high, cellAt?_eq_some_iff wide high]
  exact (and_iff_right ⟨inColumn, inRow, few⟩).symm

/-- In a cell that a point is found to be in, there is a key, and it contains the point. -/
theorem key_of_cellAt? {row column : Nat} (wide : 1 ≤ (Grid.of width height settings).cellWidth)
    (high : 1 ≤ (Grid.of width height settings).cellHeight)
    (cell : (Grid.of width height settings).cellAt? settings.columnCount settings.rowCount p = some (row, column)) :
    ∃ label key, Label.keypadOrder[row * settings.columnCount + column]? = some label ∧
      key = (Grid.of width height settings).keyIn row column label ∧
      key ∈ (Layout.build width height settings).keys ∧ key.contains p := by
  obtain ⟨inColumn, inRow, labelled⟩ := ((cellAt?_eq_some_iff wide high).mp cell).1
  obtain ⟨row', column'⟩ := div_mod_place inColumn row
  have inside : row * settings.columnCount + column < settings.rowCount * settings.columnCount :=
    calc row * settings.columnCount + column < (row + 1) * settings.columnCount := by rw [Nat.succ_mul]; omega
      _ ≤ settings.rowCount * settings.columnCount := Nat.mul_le_mul_right _ inRow
  obtain ⟨label, named⟩ : ∃ label, Label.keypadOrder[row * settings.columnCount + column]? = some label :=
    ⟨_, List.getElem?_eq_getElem labelled⟩
  have found : (Layout.build width height settings).keys[row * settings.columnCount + column]? =
      some ((Grid.of width height settings).keyIn row column label) := by
    rw [getElem?_keys, if_pos inside, named, row', column', Option.map_some]
  refine ⟨label, _, named, rfl, List.mem_of_getElem? found, ?_⟩
  rw [contains_iff_cellAt? wide high found, row', column']
  exact cell

/-! ### The only key -/

theorem keyIn_ordered (grid : Grid) (row column : Nat) (label : Label) :
    (grid.keyIn row column label).x1 ≤ (grid.keyIn row column label).x2 ∧
      (grid.keyIn row column label).y1 ≤ (grid.keyIn row column label).y2 := by
  dsimp only [Grid.keyIn]
  omega

/-- Keys that contain the same point overlap. -/
theorem intersects_of_contains {key other : Key} (mem : key ∈ (Layout.build width height settings).keys)
    (mem' : other ∈ (Layout.build width height settings).keys) (inside : key.contains p) (inside' : other.contains p) :
    key.intersects other := by
  obtain ⟨place, found⟩ := List.getElem?_of_mem mem
  obtain ⟨place', found'⟩ := List.getElem?_of_mem mem'
  obtain ⟨_, label, _, rfl⟩ := eq_keyIn_of_getElem? found
  obtain ⟨_, label', _, rfl⟩ := eq_keyIn_of_getElem? found'
  obtain ⟨wide, high⟩ := keyIn_ordered (Grid.of width height settings) (place / settings.columnCount)
    (place % settings.columnCount) label
  obtain ⟨wide', high'⟩ := keyIn_ordered (Grid.of width height settings) (place' / settings.columnCount)
    (place' % settings.columnCount) label'
  exact (intersects_iff_exists_contains wide high wide' high').mpr ⟨p, inside, inside'⟩

/-- Of the keys of a keypad whose cells have a size, one alone contains a point. -/
theorem filter_contains {key : Key} (wide : 1 ≤ (Grid.of width height settings).cellWidth)
    (high : 1 ≤ (Grid.of width height settings).cellHeight) (mem : key ∈ (Layout.build width height settings).keys)
    (inside : key.contains p) : (Layout.build width height settings).keys.filter (·.contains p) = [key] := by
  have apart := (keys_pairwise wide high).filter (·.contains p)
  have kept : ∀ other, other ∈ (Layout.build width height settings).keys.filter (·.contains p) ↔
      other ∈ (Layout.build width height settings).keys ∧ other.contains p := fun other => List.mem_filter
  generalize (Layout.build width height settings).keys.filter (·.contains p) = hit at apart kept
  have mem' := (kept key).mpr ⟨mem, inside⟩
  cases hit with
  | nil => cases mem'
  | cons first more =>
    cases more with
    | nil => rw [List.mem_singleton.mp mem']
    | cons second more =>
      -- Two keys in the list would overlap at the point.
      obtain ⟨mem₁, inside₁⟩ := (kept first).mp List.mem_cons_self
      obtain ⟨mem₂, inside₂⟩ := (kept second).mp (List.mem_cons_of_mem _ List.mem_cons_self)
      exact absurd (intersects_of_contains mem₁ mem₂ inside₁ inside₂) (List.rel_of_pairwise_cons apart List.mem_cons_self)

/-- No two keys have the same label. -/
theorem eq_of_label {key other : Key} (mem : key ∈ (Layout.build width height settings).keys)
    (mem' : other ∈ (Layout.build width height settings).keys) (same : key.label = other.label) : key = other := by
  obtain ⟨place, found⟩ := List.getElem?_of_mem mem
  obtain ⟨place', found'⟩ := List.getElem?_of_mem mem'
  obtain ⟨_, label, named, rfl⟩ := eq_keyIn_of_getElem? found
  obtain ⟨_, label', named', rfl⟩ := eq_keyIn_of_getElem? found'
  obtain rfl : label = label' := same
  have distinct : Label.keypadOrder.Nodup := by decide
  obtain rfl : place = place' :=
    (List.getElem?_inj (List.getElem?_eq_some_iff.mp named).1 distinct).mp (named.trans named'.symm)
  rfl

/-- The label of a key leads back to it. -/
theorem key?_label {key : Key} (mem : key ∈ (Layout.build width height settings).keys) :
    (Layout.build width height settings).key? key.label = some key := by
  obtain ⟨other, found⟩ : ∃ other, (Layout.build width height settings).key? key.label = some other :=
    Option.isSome_iff_exists.mp (List.find?_isSome.mpr ⟨key, mem, beq_self_eq_true _⟩)
  have same : other.label = key.label := by simpa using List.find?_some found
  rw [found, eq_of_label (List.mem_of_find?_eq_some found) mem same]

/-- On a keypad whose cells have a width and a height, the key under a point is the one in the cell that is found by
    division, and there is none where no such cell is found. It is the only key that contains the point, and its
    label leads back to it. Every keypad is such a one if its computation does not go beyond 32 bits, whether or not the
    program would stop there. -/
theorem keyAt?_by_division {width height : UInt32} {settings : Settings}
    (wide : 1 ≤ (Grid.of width height settings).cellWidth)
    (high : 1 ≤ (Grid.of width height settings).cellHeight) (p : Point) :
    let grid := Grid.of width height settings
    let layout := Layout.build width height settings
    ((Layout.build? .stops width height settings).isSome →
        ∀ overflow, Layout.build? overflow width height settings = some layout) ∧
      layout.keyAt? p = ((grid.cellAt? settings.columnCount settings.rowCount p).bind fun (row, column) =>
        Label.keypadOrder[row * settings.columnCount + column]?.map (grid.keyIn row column)) ∧
      ∀ key, layout.keyAt? p = some key →
        layout.keys.filter (·.contains p) = [key] ∧ layout.key? key.label = some key := by
  intro grid layout
  have only {key : Key} (mem : key ∈ layout.keys) (inside : key.contains p) :
      layout.keys.filter (·.contains p) = [key] := filter_contains wide high mem inside
  refine ⟨build?_of_stops, ?_, ?_⟩
  · rw [Layout.keyAt?, ← List.head?_filter]
    cases cell : grid.cellAt? settings.columnCount settings.rowCount p with
    | none =>
      have free : layout.keys.filter (·.contains p) = [] := by
        rw [List.filter_eq_nil_iff]
        intro key mem inside
        obtain ⟨place, found⟩ := List.getElem?_of_mem mem
        rw [contains_iff_cellAt? wide high found] at inside
        exact absurd (cell.symm.trans inside) nofun
      rw [free]
      rfl
    | some found =>
      obtain ⟨row, column⟩ := found
      obtain ⟨label, key, named, rfl, mem, inside⟩ := key_of_cellAt? wide high cell
      dsimp only [Option.bind_some]
      rw [only mem inside, named]
      rfl
  · intro key found
    have mem : key ∈ layout.keys := List.mem_of_find?_eq_some found
    have inside : key.contains p := by simpa using List.find?_some found
    exact ⟨only mem inside, key?_label mem⟩

/-- The last pixel of a key at its lower right corner, in a grid with a row that is not full. -/
theorem keyAt?_by_division_corner :
    let settings : Settings := { columns := 5, rows := 4, margin := 0 }
    let grid := Grid.of 640 480 settings
    let layout := Layout.build 640 480 settings
    1 ≤ grid.cellWidth ∧ 1 ≤ grid.cellHeight ∧ Layout.build? .stops 640 480 settings = some layout ∧
      layout.keyAt? ⟨458, 406⟩ = ((grid.cellAt? settings.columnCount settings.rowCount ⟨458, 406⟩).bind
        fun (row, column) => Label.keypadOrder[row * settings.columnCount + column]?.map (grid.keyIn row column)) ∧
      ∀ key, layout.keyAt? ⟨458, 406⟩ = some key →
        layout.keys.filter (·.contains ⟨458, 406⟩) = [key] ∧ layout.key? key.label = some key := by
  intro settings grid layout
  have wide : 1 ≤ (Grid.of 640 480 settings).cellWidth := by decide +kernel
  have high : 1 ≤ (Grid.of 640 480 settings).cellHeight := by decide +kernel
  obtain ⟨computed, found, only⟩ := keyAt?_by_division wide high ⟨458, 406⟩
  exact ⟨wide, high, computed (by decide +kernel) .stops, found, only⟩

end GestureCalculator.Keypad
