import Dashboard.Proofs.Terminal
import Dashboard.Theme
import Mathlib.Data.List.SplitBy

/-! # What a terminal shows of a painted grid

Neighbours of one colour share a sequence. Still a terminal shows the printed cells of
a painted grid one by one, each in its own colour, and nothing of a colour is left for
the cells and lines that have none. -/

namespace Dashboard

theorem Grid.mem_cells_of_mem_row {grid : Grid} {row : ℕ} {glyph : Glyph}
    (h : glyph ∈ grid.row row) : glyph ∈ grid.cells := by
  unfold Grid.row at h
  split at h
  · rw [Array.toList_extract] at h
    exact Array.mem_def.mpr (List.mem_of_mem_drop (List.mem_of_mem_take h))
  · simp at h

theorem filterMap_intercalate {α β : Type} (f : α → Option β) (sep : List α)
    (lines : List (List α)) :
    (sep.intercalate lines).filterMap f =
      (sep.filterMap f).intercalate (lines.map (List.filterMap f)) := by
  induction lines with
  | nil => rfl
  | cons line lines ih =>
      cases lines with
      | nil => simp
      | cons next lines =>
          rw [List.intercalate_cons_cons, List.filterMap_append, List.filterMap_append, ih]
          simp [List.intercalate_cons_cons]

namespace Theme

/-! ## Runs -/

theorem head?_runs (cells : List (Option Rgb × Char)) :
    (runs cells).head?.map Prod.fst = cells.head?.map Prod.fst := by
  cases cells with
  | nil => rfl
  | cons cell cells =>
      rw [runs]
      split
      · split <;> rfl
      · rfl

/-- Cells of one colour, before cells that start with another one, are one run. -/
theorem runs_append {colour : Option Rgb} {text : List Char}
    {rest : List (Option Rgb × Char)} (htext : text ≠ [])
    (hrest : ∀ next ∈ (rest.head?.map Prod.fst), colour ≠ next) :
    runs (text.map (colour, ·) ++ rest) = (colour, text) :: runs rest := by
  induction text with
  | nil => contradiction
  | cons c text ih =>
      cases text with
      | nil =>
          rw [← head?_runs] at hrest
          rw [List.map_singleton, List.singleton_append, runs]
          cases hruns : runs rest with
          | nil => rfl
          | cons run more =>
              rw [hruns] at hrest
              simp [hrest run.1 (by simp)]
      | cons next text =>
          rw [List.map_cons, List.cons_append, runs, ih (by simp)]
          simp

variable (theme : Theme) (pinned : Option Rgb)

/-- The colour in which a terminal shows a tone; none for its own one. -/
def shown? (tone : Tone) : Option TerminalColour :=
  (theme.toneColour? tone pinned).bind theme.mode.show?

/-- Whether two glyphs have the same colour. -/
def sameColour (left right : Glyph) : Bool :=
  theme.toneColour? left.tone pinned = theme.toneColour? right.tone pinned

/-- A glyph as a terminal shows it. -/
def shownCell (glyph : Glyph) : Terminal.Event :=
  .cell glyph.char (theme.shown? pinned glyph.tone)

@[simp] theorem isShown_shownCell (glyph : Glyph) :
    (theme.shownCell pinned glyph).isShown = true := rfl

@[simp] theorem char?_shownCell (glyph : Glyph) :
    (theme.shownCell pinned glyph).char? = some glyph.char := rfl

/-- Glyphs of one colour as a terminal shows them, with the sequences around. -/
def shownRun (run : List Glyph) : List Terminal.Event :=
  match run.head?.bind fun glyph => theme.shown? pinned glyph.tone with
  | some colour =>
    .select (some colour) :: run.map (theme.shownCell pinned) ++ [.select none]
  | none => run.map (theme.shownCell pinned)

theorem toneColour?_of_isChain {first : Glyph} {more : List Glyph}
    (h : (first :: more).IsChain fun left right => theme.sameColour pinned left right) :
    ∀ glyph ∈ first :: more,
      theme.toneColour? glyph.tone pinned = theme.toneColour? first.tone pinned := by
  induction more generalizing first with
  | nil => simp
  | cons next more ih =>
      obtain ⟨hnext, hmore⟩ := List.isChain_cons_cons.mp h
      have hcolour := of_decide_eq_true hnext
      intro glyph hmem
      rcases List.mem_cons.mp hmem with rfl | hmem
      · rfl
      · rw [ih hmore glyph hmem, hcolour]

/-- What follows a longest stretch of one colour has another one. -/
theorem toneColour?_ne_of_isChain {first : Glyph} {more : List Glyph}
    {blocks : List (List Glyph)} (hfull : [] ∉ blocks)
    (hsame : (first :: more).IsChain fun left right => theme.sameColour pinned left right)
    (hnext : ((first :: more) :: blocks).IsChain fun left right =>
      ∃ hleft hright, theme.sameColour pinned (left.getLast hleft) (right.head hright) = false) :
    ∀ glyph ∈ blocks.flatten.head?,
      theme.toneColour? first.tone pinned ≠ theme.toneColour? glyph.tone pinned := by
  cases blocks with
  | nil => simp
  | cons block blocks =>
      obtain ⟨⟨hleft, hblock, hother⟩, -⟩ := List.isChain_cons_cons.mp hnext
      have hlast := theme.toneColour?_of_isChain pinned hsame _ (List.getLast_mem hleft)
      intro glyph hmem
      obtain rfl : block.head hblock = glyph := by
        rw [List.flatten_cons, List.head?_append_of_ne_nil _ hblock,
          List.head?_eq_some_head hblock] at hmem
        exact Option.some.inj hmem
      rw [← hlast]
      exact of_decide_eq_false hother

/-- The painted runs of a row are its longest stretches of one colour. -/
theorem runs_map (row : List Glyph) :
    runs (row.map fun glyph => (theme.toneColour? glyph.tone pinned, glyph.char)) =
      (row.splitBy (theme.sameColour pinned)).map fun run =>
        (run.head?.bind fun glyph => theme.toneColour? glyph.tone pinned,
          run.map Glyph.char) := by
  obtain ⟨hjoin, hfull, hsame, hnext⟩ :=
    List.splitBy_eq_iff.mp (rfl : row.splitBy (theme.sameColour pinned) = _)
  rw [congrArg (List.map _) hjoin]
  generalize row.splitBy (theme.sameColour pinned) = blocks at hfull hsame hnext ⊢
  -- A stretch is painted as one run, for the cell after it has another colour.
  induction blocks with
  | nil => rfl
  | cons run blocks ih =>
      simp only [List.mem_cons, not_or, forall_eq_or_imp] at hfull hsame
      cases run with
      | nil => exact absurd rfl hfull.1
      | cons first more =>
          have hcells : (first :: more).map (fun glyph =>
              (theme.toneColour? glyph.tone pinned, glyph.char)) =
              ((first :: more).map Glyph.char).map (theme.toneColour? first.tone pinned, ·) := by
            rw [List.map_map]
            refine List.map_congr_left fun glyph hmem => ?_
            rw [theme.toneColour?_of_isChain pinned hsame.1 glyph hmem]
            rfl
          have hother : ∀ next ∈ ((blocks.flatten.map fun glyph =>
              (theme.toneColour? glyph.tone pinned, glyph.char)).head?.map Prod.fst),
              theme.toneColour? first.tone pinned ≠ next := by
            intro next hmem
            rw [List.head?_map, Option.map_map, Option.mem_def, Option.map_eq_some_iff] at hmem
            obtain ⟨glyph, hmem, rfl⟩ := hmem
            exact theme.toneColour?_ne_of_isChain pinned hfull.2 hsame.1 hnext glyph hmem
          rw [List.flatten_cons, List.map_append, hcells, runs_append (by simp) hother,
            ih hfull.2 hsame.2 hnext.tail]
          rfl

/-! ## Reading what is painted -/

/-- Around a run stand the sequence of its colour and the reset. -/
theorem read_paintRun {run : Option Rgb × List Char} (h : ∀ c ∈ run.2, Terminal.IsPlain c) :
    Terminal.fresh.read (theme.paintRun run) =
      (Terminal.fresh,
        match run.1.bind theme.mode.show? with
        | some colour =>
          .select (some colour) :: run.2.map (Terminal.Event.cell · (some colour)) ++
            [.select none]
        | none => run.2.map (Terminal.Event.cell · none)) := by
  obtain ⟨colour, text⟩ := run
  simp only [paintRun]
  cases hshown : colour.bind theme.mode.show? with
  | none => exact Terminal.read_of_isPlain h none
  | some shown =>
      obtain ⟨rgb, rfl, hshow⟩ := Option.bind_eq_some_iff.mp hshown
      exact Terminal.read_framed h (Terminal.not_mem_parameters shown)
        (Terminal.selected_parameters hshow none)

/-- A longest stretch of one colour is shown between its sequence and the reset. -/
theorem read_splitBy {row run : List Glyph} (hplain : ∀ glyph ∈ row, Terminal.IsPlain glyph.char)
    (hrun : run ∈ row.splitBy (theme.sameColour pinned)) :
    Terminal.fresh.read (theme.paintRun
        (run.head?.bind fun glyph => theme.toneColour? glyph.tone pinned, run.map Glyph.char)) =
      (Terminal.fresh, theme.shownRun pinned run) := by
  have hsub : ∀ glyph ∈ run, glyph ∈ row := by
    intro glyph hmem
    rw [← List.flatten_splitBy (theme.sameColour pinned) row]
    exact List.mem_flatten_of_mem hrun hmem
  have htext : ∀ c ∈ run.map Glyph.char, Terminal.IsPlain c := by
    simpa using fun glyph hmem => hplain glyph (hsub glyph hmem)
  have hsame := List.isChain_of_mem_splitBy hrun
  rw [theme.read_paintRun htext, shownRun]
  cases run with
  | nil => rfl
  | cons first more =>
      -- Every cell of the run is shown in the colour of the first one.
      have hcells (colour : Option TerminalColour)
          (hcolour : theme.shown? pinned first.tone = colour) :
          (first :: more).map (theme.shownCell pinned) =
            ((first :: more).map Glyph.char).map (Terminal.Event.cell · colour) := by
        rw [List.map_map]
        refine List.map_congr_left fun glyph hmem => ?_
        rw [shownCell, shown?, theme.toneColour?_of_isChain pinned hsame glyph hmem, ← hcolour]
        rfl
      simp only [List.head?_cons, Option.bind_some]
      rw [← shown?]
      cases hcolour : theme.shown? pinned first.tone with
      | none => simp only [hcells none hcolour]
      | some colour => simp only [hcells (some colour) hcolour]

/-- A row as a terminal shows it. -/
def shownRow (row : List Glyph) : List Terminal.Event :=
  ((Grid.printed row).splitBy (theme.sameColour pinned)).flatMap (theme.shownRun pinned)

theorem read_paintRow {row : List Glyph} (hplain : ∀ glyph ∈ row, Terminal.IsPlain glyph.char) :
    Terminal.fresh.read (theme.paintRow pinned row) =
      (Terminal.fresh, theme.shownRow pinned row) := by
  have hprinted : ∀ glyph ∈ Grid.printed row, Terminal.IsPlain glyph.char :=
    fun glyph hmem => hplain glyph (List.mem_of_mem_filter hmem)
  rw [paintRow, runs_map, List.flatMap_map]
  exact Terminal.read_flatMap fun run hrun => theme.read_splitBy pinned hprinted hrun

theorem filterMap_shownRow {α : Type} (f : Terminal.Event → Option α)
    (hselect : ∀ colour, f (.select colour) = none) (row : List Glyph) :
    (theme.shownRow pinned row).filterMap f =
      ((Grid.printed row).map (theme.shownCell pinned)).filterMap f := by
  have hrun : ∀ run, (theme.shownRun pinned run).filterMap f =
      (run.map (theme.shownCell pinned)).filterMap f := by
    intro run
    unfold shownRun
    split <;> simp [hselect]
  conv_rhs => rw [← List.flatten_splitBy (theme.sameColour pinned) (Grid.printed row)]
  rw [shownRow, List.filterMap_flatMap, List.map_flatten, List.filterMap_flatten]
  simp [hrun, List.flatMap_def, Function.comp_def]

theorem shown?_eq_none_iff (tone : Tone) :
    theme.shown? pinned tone = none ↔ tone = .blank ∨ theme.mode = .mono := by
  cases tone <;> cases hmode : theme.mode <;>
    simp [shown?, toneColour?, ColourMode.show?, hmode]

theorem filterMap_shownRows {α : Type} (f : Terminal.Event → Option α)
    (hselect : ∀ colour, f (.select colour) = none) (rows : List (List Glyph)) :
    ([Terminal.Event.lineEnd none].intercalate (rows.map (theme.shownRow pinned))).filterMap f =
      ([Terminal.Event.lineEnd none].filterMap f).intercalate (rows.map fun row =>
        ((Grid.printed row).map (theme.shownCell pinned)).filterMap f) := by
  rw [filterMap_intercalate, List.map_map]
  congr 1
  exact List.map_congr_left fun row _ => theme.filterMap_shownRow pinned f hselect row

/-- A terminal shows the printed cells of a painted grid row by row, each in the colour
of its tone; blank cells and line ends in its own colour. Each longest stretch of
one colour takes one sequence. Without the sequences the text is the plain one. -/
theorem read_paint (grid : Grid)
    (hplain : ∀ glyph ∈ grid.cells, Terminal.IsPlain glyph.char) :
    let painted := Terminal.fresh.read (theme.paint grid pinned).toList
    painted.1 = Terminal.fresh ∧
      painted.2 = [Terminal.Event.lineEnd none].intercalate
        (grid.rowList.map (theme.shownRow pinned)) ∧
      painted.2.filter Terminal.Event.isShown = [Terminal.Event.lineEnd none].intercalate
        (grid.rowList.map fun row => (Grid.printed row).map (theme.shownCell pinned)) ∧
      painted.2.filterMap Terminal.Event.char? = grid.plainText.toList ∧
      ∀ tone, theme.shown? pinned tone = none ↔ tone = .blank ∨ theme.mode = .mono := by
  have hrows : ∀ row ∈ grid.rowList, ∀ glyph ∈ row, Terminal.IsPlain glyph.char := by
    intro row hrow glyph hmem
    obtain ⟨r, -, rfl⟩ := List.mem_map.mp hrow
    exact hplain glyph (Grid.mem_cells_of_mem_row hmem)
  have hread : Terminal.fresh.read (theme.paint grid pinned).toList =
      (Terminal.fresh, [Terminal.Event.lineEnd none].intercalate
        (grid.rowList.map (theme.shownRow pinned))) := by
    rw [paint, String.toList_intercalate, List.map_map, Function.comp_def]
    simp only [String.toList_ofList]
    exact Terminal.read_intercalate fun row hrow => theme.read_paintRow pinned (hrows row hrow)
  simp only [hread]
  refine ⟨trivial, trivial, ?_, ?_, theme.shown?_eq_none_iff pinned⟩
  · have hend : [Terminal.Event.lineEnd none].filterMap (Option.guard Terminal.Event.isShown) =
        [Terminal.Event.lineEnd none] := rfl
    rw [← List.filterMap_eq_filter, theme.filterMap_shownRows pinned _ fun _ => rfl, hend]
    simp [Option.guard]
  · have hend : [Terminal.Event.lineEnd none].filterMap Terminal.Event.char? = ['\n'] := rfl
    rw [theme.filterMap_shownRows pinned _ fun _ => rfl, hend, Grid.plainText,
      String.toList_intercalate, List.map_map]
    simp [Function.comp_def]

/-- A gridline, a blank cell and two samples of different tiers. -/
def ruledSamples : Grid where
  width := 4
  rows := 1
  cells := #[⟨'─', .grid⟩, Glyph.blank, ⟨'⣀', .data .normal⟩, ⟨'⡇', .data .critical⟩]
  size_eq := rfl

/-- Under one pinned colour the two samples share a sequence. -/
theorem read_paint_ruledSamples :
    (∀ glyph ∈ ruledSamples.cells, Terminal.IsPlain glyph.char) ∧
      (Terminal.fresh.read (tokyoNight.paint ruledSamples (some ⟨9, 9, 9⟩)).toList).2 =
        [.select (some (.exact tokyoNight.grid)), .cell '─' (some (.exact tokyoNight.grid)),
          .select none, .cell Glyph.blankChar none, .select (some (.exact ⟨9, 9, 9⟩)),
          .cell '⣀' (some (.exact ⟨9, 9, 9⟩)), .cell '⡇' (some (.exact ⟨9, 9, 9⟩)),
          .select none] := by
  have hplain : ∀ glyph ∈ ruledSamples.cells, Terminal.IsPlain glyph.char := by
    simp [ruledSamples, Terminal.IsPlain, Glyph.blank, Glyph.blankChar]
  refine ⟨hplain, ?_⟩
  rw [(read_paint tokyoNight (some ⟨9, 9, 9⟩) ruledSamples hplain).2.1]
  decide

end Theme

end Dashboard
