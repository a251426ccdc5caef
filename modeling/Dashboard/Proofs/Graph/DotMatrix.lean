import Dashboard.Graph.Bars
import Mathlib.Data.Nat.Bitwise
import Mathlib.Data.Nat.Notation

/-! # Bars as dots

Read back dot by dot, a drawn series is the bar chart of its heights: bars stand
side by side at the right edge, and each is lit from the bottom up to its height. -/

namespace Dashboard.Graph

/-! ## Reading dots -/

/-- Bit of a dot in a braille character, `side` zero on the left and `level` zero at
the bottom. The upper six dots are numbered down the left side and then down the
right one; the lowest two were added later. -/
def dotBit (side level : ℕ) : ℕ :=
  if level = 0 then 6 + side else 3 * side + (3 - level)

/-- Whether a character is a braille pattern with a dot. -/
def hasDot (c : Char) (side level : ℕ) : Bool :=
  isBraille c && (c.toNat - Glyph.blankChar.toNat).testBit (dotBit side level)

/-- Whether a grid shows a lit dot. Columns of dots are counted from the left, two to
a character, and the dots of a column from the bottom. -/
def dot (grid : Grid) (x y : ℕ) : Bool :=
  decide (y < dotsPerCell * grid.rows) &&
    (grid.get? (x / 2) (grid.rows - 1 - y / dotsPerCell)).any fun glyph =>
      hasDot glyph.char (x % 2) (y % dotsPerCell)

/-- Lit dots in a column of dots. -/
def litDots (grid : Grid) (x : ℕ) : ℕ :=
  (List.range (dotsPerCell * grid.rows)).countP (dot grid x)

/-! ## Characters -/

theorem testBit_foldl_or (bits : List ℕ) (start bit : ℕ) :
    (bits.foldl (· ||| ·) start).testBit bit =
      (start.testBit bit || bits.any fun other => other.testBit bit) := by
  induction bits generalizing start with
  | nil => simp
  | cons other bits ih => simp [ih, Nat.testBit_or, Bool.or_assoc]

/-- The dots of a side of a character, lowest first. -/
def sideDots (side : ℕ) : List ℕ :=
  if side = 0 then leftDots else rightDots

theorem any_take_sideDots : ∀ side < 2, ∀ other < 2, ∀ level < dotsPerCell,
    ∀ height < dotsPerCell + 1,
      ((sideDots side).take height).any (fun bits => bits.testBit (dotBit other level)) =
        (decide (side = other) && decide (level < height)) := by
  decide

/-- A side of a character lights its own dots from the bottom, and no others. -/
theorem testBit_columnBits {side other level : ℕ} (hside : side < 2) (hother : other < 2)
    (hlevel : level < dotsPerCell) (height : ℕ) :
    (columnBits (sideDots side) height).testBit (dotBit other level) =
      (decide (side = other) && decide (level < height)) := by
  have hlen : (sideDots side).length = dotsPerCell := by
    unfold sideDots
    split <;> rfl
  have htake : (sideDots side).take height = (sideDots side).take (min height dotsPerCell) := by
    rw [← hlen, ← List.take_eq_take_min]
  have hlit := any_take_sideDots side hside other hother level hlevel (min height dotsPerCell)
    (by omega)
  have hlt : level < min height dotsPerCell ↔ level < height := by omega
  rw [columnBits, testBit_foldl_or, Nat.zero_testBit, Bool.false_or, htake, hlit,
    decide_eq_decide.mpr hlt]

theorem columnBits_lt (side height : ℕ) : columnBits (sideDots side) height < 2 ^ 8 := by
  apply Nat.lt_pow_two_of_testBit
  intro bit hbit
  rw [columnBits, testBit_foldl_or, Nat.zero_testBit, Bool.false_or, List.any_eq_false]
  intro bits hmem
  have hlt : bits < 2 ^ 8 := by
    have hall : ∀ bits ∈ leftDots ++ rightDots, bits < 2 ^ 8 := by decide
    have hdots := List.mem_of_mem_take hmem
    unfold sideDots at hdots
    apply hall
    split at hdots <;> simp [hdots]
  rw [Nat.testBit_lt_two_pow (lt_of_lt_of_le hlt (Nat.pow_le_pow_right (by decide) hbit))]
  decide

theorem bits_eq (left right below : ℕ) :
    Bars.bits left right below =
      columnBits (sideDots 0) (left - below) ||| columnBits (sideDots 1) (right - below) :=
  rfl

theorem bits_lt (left right below : ℕ) : Bars.bits left right below < 2 ^ 8 :=
  Nat.or_lt_two_pow (columnBits_lt 0 _) (columnBits_lt 1 _)

theorem toNat_braille {bits : ℕ} (h : bits < 2 ^ 8) :
    (braille bits).toNat = Glyph.blankChar.toNat + bits := by
  have hblank : Glyph.blankChar.toNat = 0x2800 := rfl
  have hvalid : (Glyph.blankChar.toNat + bits).isValidChar := by
    rw [hblank]
    left
    omega
  rw [braille, Char.ofNat, dif_pos hvalid]
  rfl

theorem isBraille_braille {bits : ℕ} (h : bits < 2 ^ 8) : isBraille (braille bits) = true := by
  have hblank : Glyph.blankChar.toNat = 0x2800 := rfl
  have hchar := toNat_braille h
  have hlow : '\u2800'.toNat ≤ (braille bits).toNat := by
    rw [hchar, hblank]
    exact Nat.le_add_right _ _
  have hhigh : (braille bits).toNat ≤ '\u28FF'.toNat := by
    have hlast : '\u28FF'.toNat = 0x28FF := rfl
    rw [hchar, hblank, hlast]
    omega
  simpa [isBraille, Char.le_def, UInt32.le_iff_toNat_le] using And.intro hlow hhigh

theorem hasDot_blankChar {side level : ℕ} : hasDot Glyph.blankChar side level = false := by
  simp [hasDot]

/-- A character shows of each bar what lies above its lowest `below` dots. -/
theorem hasDot_braille_bits {side level : ℕ} (hside : side < 2) (hlevel : level < dotsPerCell)
    (left right below : ℕ) :
    hasDot (braille (Bars.bits left right below)) side level =
      decide (below + level < if side = 0 then left else right) := by
  have hlt : ∀ height, level < height - below ↔ below + level < height := by omega
  rw [hasDot, isBraille_braille (bits_lt left right below),
    toNat_braille (bits_lt left right below), Nat.add_sub_cancel_left, bits_eq, Nat.testBit_or,
    testBit_columnBits (by decide) hside hlevel, testBit_columnBits (by decide) hside hlevel]
  obtain rfl | rfl : side = 0 ∨ side = 1 := by omega
  · simp [hlt]
  · simp [hlt]

/-! ## Charts -/

section Chart

variable (heights : List ℕ) (width rows : ℕ)

/-- Columns of characters that bars of these heights leave empty on the left. -/
def unused : ℕ :=
  width - (heights.length + 1) / 2

theorem get?_gridOfHeights_of_lt {col row : ℕ} (hcol : col < unused heights width)
    (hrow : row < rows) :
    (Bars.gridOfHeights heights.toArray width rows).get? col row = some Glyph.blank := by
  have hwidth : col < width := by
    unfold unused at hcol
    omega
  have hleft : col < width - (heights.length + 1) / 2 := hcol
  rw [Bars.gridOfHeights, Grid.get?_tabulate, if_pos ⟨hwidth, hrow⟩]
  simp [hleft]

theorem get?_gridOfHeights_of_le {col row : ℕ} (hcol : unused heights width ≤ col)
    (hwidth : col < width) (hrow : row < rows) :
    (Bars.gridOfHeights heights.toArray width rows).get? col row =
      some ⟨braille (Bars.bits (heights[2 * (col - unused heights width)]?.getD 0)
        (heights[2 * (col - unused heights width) + 1]?.getD 0)
        ((rows - 1 - row) * dotsPerCell)), .data .normal⟩ := by
  have hfree : ¬ col < width - (heights.length + 1) / 2 := by
    unfold unused at hcol
    omega
  rw [Bars.gridOfHeights, Grid.get?_tabulate, if_pos ⟨hwidth, hrow⟩]
  simp [unused, hfree]

theorem row_lt {rows y : ℕ} (h : y < dotsPerCell * rows) :
    rows - 1 - y / dotsPerCell < rows := by
  unfold dotsPerCell at *
  omega

/-- Dots below a row of characters, and those of the row below the dot, are the dots
below the dot. -/
theorem below_add_level {rows y : ℕ} (h : y < dotsPerCell * rows) :
    (rows - 1 - (rows - 1 - y / dotsPerCell)) * dotsPerCell + y % dotsPerCell = y := by
  unfold dotsPerCell at *
  omega

theorem lt_getD_iff (height? : Option ℕ) (y : ℕ) :
    y < height?.getD 0 ↔ ∃ height, height? = some height ∧ y < height := by
  cases height? <;> simp

/-- A dot is lit if its column of dots has a bar that reaches higher. -/
theorem dot_gridOfHeights {x y : ℕ} (hx : x < 2 * width) (hy : y < dotsPerCell * rows) :
    dot (Bars.gridOfHeights heights.toArray width rows) x y = true ↔
      2 * unused heights width ≤ x ∧
        ∃ height, heights[x - 2 * unused heights width]? = some height ∧ y < height := by
  have hrows : (Bars.gridOfHeights heights.toArray width rows).rows = rows := rfl
  have hcol : x / 2 < width := by omega
  rw [dot, hrows, decide_eq_true hy, Bool.true_and]
  by_cases hleft : x / 2 < unused heights width
  · have hbefore : ¬ 2 * unused heights width ≤ x := by omega
    rw [get?_gridOfHeights_of_lt heights width rows hleft (row_lt hy)]
    simp [Glyph.blank, hasDot_blankChar, hbefore]
  · have hafter : 2 * unused heights width ≤ x := by omega
    have hside : x % 2 < 2 := Nat.mod_lt _ (by decide)
    have hlevel : y % dotsPerCell < dotsPerCell := Nat.mod_lt _ (by decide)
    -- The two bars of a character alternate, so they are counted through.
    have hbar : (if x % 2 = 0 then heights[2 * (x / 2 - unused heights width)]?.getD 0
        else heights[2 * (x / 2 - unused heights width) + 1]?.getD 0) =
        heights[x - 2 * unused heights width]?.getD 0 := by
      split <;> congr 2 <;> omega
    rw [get?_gridOfHeights_of_le heights width rows (by omega) hcol (row_lt hy),
      Option.any_some, hasDot_braille_bits hside hlevel, below_add_level hy, hbar,
      decide_eq_true_iff, lt_getD_iff, and_iff_right hafter]

theorem countP_lt_range (height count : ℕ) :
    (List.range count).countP (fun y => decide (y < height)) = min height count := by
  induction count with
  | zero => simp
  | succ count ih =>
      rw [List.range_succ, List.countP_append, ih, List.countP_singleton]
      by_cases h : count < height
      · rw [if_pos (decide_eq_true h)]
        omega
      · rw [if_neg (by simpa using h)]
        omega

/-- The lit dots of a bar count its height. -/
theorem litDots_gridOfHeights {bar height : ℕ} (h : heights[bar]? = some height)
    (hfit : heights.length ≤ 2 * width) :
    litDots (Bars.gridOfHeights heights.toArray width rows) (2 * unused heights width + bar) =
      min height (dotsPerCell * rows) := by
  have hlt : bar < heights.length := by
    by_contra hout
    simp [List.getElem?_eq_none (Nat.le_of_not_lt hout)] at h
  have hx : 2 * unused heights width + bar < 2 * width := by
    unfold unused
    omega
  rw [← countP_lt_range, litDots]
  apply List.countP_congr
  intro y hy
  rw [dot_gridOfHeights heights width rows hx (List.mem_range.mp hy), Nat.add_sub_cancel_left, h]
  simp

end Chart

/-! ## Drawn series -/

theorem samples_of_le {series : List Float} {width : ℕ} (h : series.length ≤ 2 * width) :
    Bars.samples series width = series := by
  rw [Bars.samples, Series.fitToWidth, if_pos]
  simpa [Series.fits] using h

theorem length_samples (series : List Float) (width : ℕ) :
    (Bars.samples series width).length = min series.length (2 * width) := by
  by_cases h : series.length ≤ 2 * width
  · rw [samples_of_le h, Nat.min_eq_left h]
  · have hlong : Series.fits series (2 * width) = false := by simpa [Series.fits] using h
    rw [Bars.samples, Series.fitToWidth, hlong, if_neg Bool.false_ne_true, Series.bucketPeaks,
      List.length_map, List.length_range]
    omega

theorem length_heights (series : List Float) (width rows : ℕ) (ceiling : Float) :
    (Bars.heights series width rows ceiling).length = min series.length (2 * width) := by
  rw [Bars.heights, List.length_map, length_samples]

theorem draw?_eq {series : List Float} {width rows : ℕ} (hseries : series ≠ [])
    (hwidth : 0 < width) (hrows : 0 < rows) (requested : Float) :
    ∃ bars, Bars.draw? series width rows requested = some bars ∧
      bars.grid = Bars.gridOfHeights (Bars.heights series width rows
        (resolveCeiling (Bars.samples series width) requested)).toArray width rows := by
  have harea : ¬ (width = 0 ∨ rows = 0 ∨ series.isEmpty = true) := by
    simp [hseries]
    omega
  exact ⟨_, by rw [Bars.draw?, if_neg harea], rfl⟩

/-- A series that is not empty is drawn on an area that is not empty, as the bar chart
of its heights: cells left of the bars are untouched, a dot is lit exactly if its bar
reaches higher, and the lit dots of a bar count its height. -/
theorem dots_draw {series : List Float} {width rows : ℕ} (hseries : series ≠ [])
    (hwidth : 0 < width) (hrows : 0 < rows) (requested : Float) :
    let ceiling := resolveCeiling (Bars.samples series width) requested
    let heights := Bars.heights series width rows ceiling
    let first := unused heights width
    ∃ bars, Bars.draw? series width rows requested = some bars ∧
      bars.grid.width = width ∧ bars.grid.rows = rows ∧
      heights.length = min series.length (2 * width) ∧
      (∀ col row, col < first → row < rows → bars.grid.get? col row = some Glyph.blank) ∧
      (∀ i row, first + i < width → row < rows →
        ∃ c, bars.grid.get? (first + i) row = some ⟨c, .data .normal⟩ ∧ isBraille c = true) ∧
      (∀ i y, first + i < width → y < dotsPerCell * rows →
        (dot bars.grid (2 * (first + i)) y = true ↔
          ∃ height, heights[2 * i]? = some height ∧ y < height) ∧
        (dot bars.grid (2 * (first + i) + 1) y = true ↔
          ∃ height, heights[2 * i + 1]? = some height ∧ y < height)) ∧
      (List.range heights.length).map (fun bar => litDots bars.grid (2 * first + bar)) =
        heights.map fun height => min height (dotsPerCell * rows) := by
  intro ceiling heights first
  obtain ⟨bars, hdraw, hgrid⟩ := draw?_eq hseries hwidth hrows requested
  have hlength : heights.length = min series.length (2 * width) :=
    length_heights series width rows ceiling
  refine ⟨bars, hdraw, ?_⟩
  rw [hgrid]
  refine ⟨rfl, rfl, hlength, ?_, ?_, ?_, ?_⟩
  · intro col row hcol hrow
    exact get?_gridOfHeights_of_lt heights width rows hcol hrow
  · intro i row hcol hrow
    exact ⟨_, get?_gridOfHeights_of_le heights width rows (Nat.le_add_right _ _) hcol hrow,
      isBraille_braille (bits_lt _ _ _)⟩
  · intro i y hcol hy
    have hleft : 2 * (first + i) - 2 * first = 2 * i := by omega
    have hright : 2 * (first + i) + 1 - 2 * first = 2 * i + 1 := by omega
    constructor
    · rw [dot_gridOfHeights heights width rows (by omega) hy, hleft]
      exact and_iff_right (by omega)
    · rw [dot_gridOfHeights heights width rows (by omega) hy, hright]
      exact and_iff_right (by omega)
  · apply List.ext_getElem
    · simp
    · intro bar hbar hbar'
      have hlt : bar < heights.length := by simpa using hbar
      have hget : heights[bar]? = some heights[bar] := List.getElem?_eq_getElem hlt
      simp only [List.getElem_map, List.getElem_range]
      exact litDots_gridOfHeights heights width rows hget (by omega)

/-- Three samples on a width of three: one empty cell, then bars of two, eight and four
dots, the last one without a neighbour. -/
theorem dots_draw_three_samples :
    [30.0, 100.0, 50.0] ≠ ([] : List Float) ∧ 0 < 3 ∧ 0 < 2 ∧
      ∃ bars, Bars.draw? [30.0, 100.0, 50.0] 3 2 100.0 = some bars ∧
        bars.grid.get? 0 1 = some Glyph.blank ∧ dot bars.grid 5 0 = false ∧
        (List.range 3).map (fun bar => litDots bars.grid (2 + bar)) = [2, 8, 4] := by
  have hheights : Bars.heights [30.0, 100.0, 50.0] 3 2
      (resolveCeiling (Bars.samples [30.0, 100.0, 50.0] 3) 100.0) = [2, 8, 4] := by
    decide +kernel
  have hne : [30.0, 100.0, 50.0] ≠ ([] : List Float) := List.cons_ne_nil _ _
  have hwidth : 0 < 3 := by decide
  have hrows : 0 < 2 := by decide
  obtain ⟨bars, hdraw, -, -, -, hblank, -, hdots, hcount⟩ :=
    dots_draw hne hwidth hrows 100.0
  rw [hheights] at hblank hdots hcount
  refine ⟨hne, hwidth, hrows, bars, hdraw, hblank 0 1 (by decide) (by decide), ?_, hcount⟩
  have hfirst : 2 * (unused [2, 8, 4] 3 + 1) + 1 = 5 := rfl
  have hlast := (hdots 1 0 (by decide) (by decide)).2
  rw [hfirst] at hlast
  simpa using hlast

end Dashboard.Graph
