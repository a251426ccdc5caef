import Dashboard.Glyph

/-! # Grids

A rectangle of glyphs. Cells are named by column and row, counted from the top
left; there is nothing outside. -/

namespace Dashboard

/-- Rows of glyphs, each `width` wide, stored one after the other. -/
structure Grid where
  width : Nat
  rows : Nat
  cells : Array Glyph
  size_eq : cells.size = width * rows
deriving DecidableEq

namespace Grid

/-- The grid whose cells are given by column and row. -/
def tabulate (width rows : Nat) (glyph : Nat → Nat → Glyph) : Grid where
  width
  rows
  cells := Array.ofFn fun i : Fin (width * rows) => glyph (i % width) (i / width)
  size_eq := by simp

/-- An empty grid of a size. -/
def blank (width rows : Nat) : Grid :=
  tabulate width rows fun _ _ => Glyph.blank

/-- The grid without cells. -/
def none : Grid := blank 0 0

/-- Whether there are no cells. -/
def isEmpty (grid : Grid) : Bool :=
  grid.cells.isEmpty

/-- The glyph of a cell. -/
def get? (grid : Grid) (col row : Nat) : Option Glyph :=
  if col < grid.width ∧ row < grid.rows then grid.cells[row * grid.width + col]? else Option.none

/-- Overwrite a cell. Nothing happens outside the grid. -/
def set (grid : Grid) (col row : Nat) (glyph : Glyph) : Grid :=
  if col < grid.width ∧ row < grid.rows then
    { grid with
      cells := grid.cells.setIfInBounds (row * grid.width + col) glyph
      size_eq := by simpa using grid.size_eq }
  else grid

/-- Change every cell, knowing its column and row. -/
def mapCells (grid : Grid) (change : Nat → Nat → Glyph → Glyph) : Grid where
  width := grid.width
  rows := grid.rows
  cells := grid.cells.mapIdx fun i glyph => change (i % grid.width) (i / grid.width) glyph
  size_eq := by simpa using grid.size_eq

/-- Glyphs of a row, left to right; none outside. -/
def row (grid : Grid) (row : Nat) : List Glyph :=
  if row < grid.rows then
    (grid.cells.extract (row * grid.width) ((row + 1) * grid.width)).toList
  else []

/-- Rows from top to bottom. -/
def rowList (grid : Grid) : List (List Glyph) :=
  (List.range grid.rows).map grid.row

/-- Glyphs of a row that are printed. -/
def printed (row : List Glyph) : List Glyph :=
  row.filter fun glyph => !glyph.isContinuation

/-- Characters of the grid, a line for each row. -/
def plainText (grid : Grid) : String :=
  String.intercalate "\n"
    (grid.rowList.map fun row => String.ofList ((printed row).map Glyph.char))

section Cells

variable (grid : Grid) (col row : Nat)

theorem cell_lt {width rows col row : Nat} (hc : col < width) (hr : row < rows) :
    row * width + col < width * rows :=
  calc row * width + col < row * width + width := by omega
    _ = (row + 1) * width := by rw [Nat.add_mul, Nat.one_mul]
    _ ≤ rows * width := Nat.mul_le_mul_right _ hr
    _ = width * rows := Nat.mul_comm ..

theorem cell_col {width col : Nat} (row : Nat) (hc : col < width) :
    (row * width + col) % width = col := by
  rw [Nat.mul_comm, Nat.mul_add_mod, Nat.mod_eq_of_lt hc]

theorem cell_row {width col : Nat} (row : Nat) (hc : col < width) :
    (row * width + col) / width = row := by
  rw [Nat.mul_comm, Nat.mul_add_div (by omega), Nat.div_eq_of_lt hc, Nat.add_zero]

theorem get?_tabulate (width rows : Nat) (glyph : Nat → Nat → Glyph) :
    (tabulate width rows glyph).get? col row =
      if col < width ∧ row < rows then some (glyph col row) else Option.none := by
  by_cases h : col < width ∧ row < rows
  · have hlt := cell_lt h.1 h.2
    simp [get?, tabulate, h, hlt, cell_col row h.1, cell_row row h.1]
  · simp [get?, tabulate, h]

theorem get?_mapCells (change : Nat → Nat → Glyph → Glyph) :
    (grid.mapCells change).get? col row = (grid.get? col row).map (change col row) := by
  by_cases h : col < grid.width ∧ row < grid.rows
  · simp [get?, mapCells, h, cell_col row h.1, cell_row row h.1]
  · simp [get?, mapCells, h]

theorem cell_inj {width col row col' row' : Nat} (hc : col < width) (hc' : col' < width)
    (h : row * width + col = row' * width + col') : col = col' ∧ row = row' := by
  constructor
  · rw [← cell_col row hc, h, cell_col row' hc']
  · rw [← cell_row row hc, h, cell_row row' hc']

theorem get?_set (glyph : Glyph) (col' row' : Nat) :
    (grid.set col row glyph).get? col' row' =
      if col' = col ∧ row' = row ∧ col < grid.width ∧ row < grid.rows then some glyph
      else grid.get? col' row' := by
  by_cases h : col < grid.width ∧ row < grid.rows
  · by_cases h' : col' < grid.width ∧ row' < grid.rows
    · have hlt := cell_lt h'.1 h'.2
      rw [← grid.size_eq] at hlt
      by_cases he : row * grid.width + col = row' * grid.width + col'
      · obtain ⟨rfl, rfl⟩ := cell_inj h.1 h'.1 he
        simp [get?, set, h, hlt]
      · rw [if_neg fun ⟨hcol, hrow, _⟩ => he (by rw [hcol, hrow])]
        simp [get?, set, h, h', he]
    · rw [if_neg fun ⟨hcol, hrow, hin⟩ => h' (by rwa [hcol, hrow])]
      simp [get?, set, h, h']
  · rw [if_neg fun ⟨_, _, hin⟩ => h hin]
    simp [set, h]

theorem row_end_le {row : Nat} (h : row < grid.rows) :
    row * grid.width + grid.width ≤ grid.cells.size :=
  calc row * grid.width + grid.width = (row + 1) * grid.width := (Nat.succ_mul ..).symm
    _ ≤ grid.rows * grid.width := Nat.mul_le_mul_right _ h
    _ = grid.cells.size := by rw [grid.size_eq, Nat.mul_comm]

theorem getElem?_row : (grid.row row)[col]? = grid.get? col row := by
  by_cases hrow : row < grid.rows
  · have hend := grid.row_end_le hrow
    rw [Grid.row, if_pos hrow, Array.getElem?_toList, Array.getElem?_extract, get?, Nat.succ_mul]
    by_cases hcol : col < grid.width
    · rw [if_pos (by omega), if_pos ⟨hcol, hrow⟩]
    · rw [if_neg (by omega), if_neg fun h => hcol h.1]
  · simp [Grid.row, get?, hrow]

theorem length_row {row : Nat} (h : row < grid.rows) : (grid.row row).length = grid.width := by
  have hend := grid.row_end_le h
  rw [Grid.row, if_pos h, Array.length_toList, Array.size_extract, Nat.succ_mul]
  omega

theorem lt_length_row_iff :
    col < (grid.row row).length ↔ col < grid.width ∧ row < grid.rows := by
  by_cases hrow : row < grid.rows
  · simp [grid.length_row hrow, hrow]
  · simp [Grid.row, hrow]

theorem row_set (line : Nat) (glyph : Glyph) :
    (grid.set col line glyph).row row =
      if row = line then (grid.row row).set col glyph else grid.row row := by
  apply List.ext_getElem?
  intro other
  by_cases hrow : row = line
  · subst hrow
    rw [if_pos rfl, List.getElem?_set, getElem?_row, getElem?_row, get?_set]
    by_cases hcol : col = other
    · subst hcol
      by_cases hin : col < grid.width ∧ row < grid.rows
      · simp [hin, grid.lt_length_row_iff]
      · simp [hin, grid.lt_length_row_iff, get?]
    · simp [hcol, Ne.symm hcol]
  · rw [if_neg hrow, getElem?_row, getElem?_row, get?_set, if_neg fun h => hrow h.2.1]

end Cells

end Grid

end Dashboard
