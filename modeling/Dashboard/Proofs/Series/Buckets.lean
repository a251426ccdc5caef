import Dashboard.Proofs.Double
import Dashboard.Series

/-! # Buckets

A series that is too long is split into buckets of neighbouring samples, and the largest
sample of each one is kept. Whatever the edges between the buckets are rounded to, as long
as the first one is zero, no sample is left out and no bucket is empty. -/

namespace Dashboard.Series

/-! ## The largest value -/

section Largest

variable {floor : Float}

theorem larger_spec {a : Float} (ha : a.isNaN = false) (b : Float) :
    (larger a b).isNaN = false ∧ a ≤ larger a b ∧ (b.isNaN = false → b ≤ larger a b) ∧
      (larger a b = a ∨ larger a b = b) := by
  rw [larger, ha, if_neg Bool.false_ne_true]
  split
  · next hlt => exact ⟨Double.isNaN_right_of_lt hlt, Double.le_of_lt hlt, Double.le_self, .inr rfl⟩
  · next hge => exact ⟨ha, Double.le_self ha, fun hb => Double.le_of_not_lt ha hb hge, .inl rfl⟩

theorem isNaN_largest (h : floor.isNaN = false) (values : List Float) :
    (largest floor values).isNaN = false := by
  induction values generalizing floor with
  | nil => exact h
  | cons value values ih => exact ih (larger_spec h value).1

theorem floor_le_largest (h : floor.isNaN = false) (values : List Float) :
    floor ≤ largest floor values := by
  induction values generalizing floor with
  | nil => exact Double.le_self h
  | cons value values ih =>
      obtain ⟨hnum, hle, -⟩ := larger_spec h value
      exact Double.le_trans hle (ih hnum)

theorem le_largest (h : floor.isNaN = false) {values : List Float} {value : Float}
    (hmem : value ∈ values) (hvalue : value.isNaN = false) : value ≤ largest floor values := by
  induction values generalizing floor with
  | nil => simp at hmem
  | cons head values ih =>
      obtain ⟨hnum, -, hhead, -⟩ := larger_spec h head
      rcases List.mem_cons.mp hmem with rfl | hmem
      · -- What follows never falls below the floor that this value has raised.
        exact Double.le_trans (hhead hvalue) (floor_le_largest hnum values)
      · exact ih hnum hmem

theorem largest_eq_or_mem (h : floor.isNaN = false) (values : List Float) :
    largest floor values = floor ∨ largest floor values ∈ values := by
  induction values generalizing floor with
  | nil => exact .inl rfl
  | cons value values ih =>
      obtain ⟨hnum, -, -, hone⟩ := larger_spec h value
      change largest (larger floor value) values = floor ∨
        largest (larger floor value) values ∈ value :: values
      rcases ih hnum with hsame | hmem
      · rw [hsame]
        rcases hone with hfloor | hvalue
        · exact .inl hfloor
        · exact .inr (by rw [hvalue]; exact List.mem_cons_self)
      · exact .inr (List.mem_cons_of_mem _ hmem)

end Largest

/-- A value is the largest of a list, in which NaN does not count. Without any other value
minus infinity stands for it. -/
structure IsPeak (values : List Float) (peak : Float) : Prop where
  isNaN_eq : peak.isNaN = false
  le_peak : ∀ value ∈ values, value.isNaN = false → value ≤ peak
  mem_or : peak ∈ values ∨ (∀ value ∈ values, value.isNaN = true) ∧ peak = -1.0 / 0.0

/-- A bound of the values is the largest of them if it is one of them. So is minus infinity:
it bounds no value but itself, and stands for the largest where there is none. -/
theorem isPeak_of_mem_or_eq {values : List Float} {peak : Float} (hnum : peak.isNaN = false)
    (hle : ∀ value ∈ values, value.isNaN = false → value ≤ peak)
    (hpeak : peak ∈ values ∨ peak = -1.0 / 0.0) : IsPeak values peak := by
  refine ⟨hnum, hle, ?_⟩
  by_cases hall : ∀ value ∈ values, value.isNaN = true
  · exact hpeak.imp_right fun heq => ⟨hall, heq⟩
  left
  rcases hpeak with hmem | rfl
  · exact hmem
  · push Not at hall
    obtain ⟨value, hmem, hvalue⟩ := hall
    have hlow := Double.eq_negInfinity_of_le (hle value hmem (by simpa using hvalue))
    rwa [hlow] at hmem

theorem isPeak_largest (values : List Float) : IsPeak values (largest (-1.0 / 0.0) values) := by
  have hfloor : (-1.0 / 0.0 : Float).isNaN = false := rfl
  apply isPeak_of_mem_or_eq (isNaN_largest hfloor values)
  · exact fun value hmem hvalue => le_largest hfloor hmem hvalue
  · exact (largest_eq_or_mem hfloor values).symm

theorem IsPeak.mem {values : List Float} {peak value : Float} (h : IsPeak values peak)
    (hmem : value ∈ values) (hvalue : value.isNaN = false) : peak ∈ values := by
  rcases h.mem_or with hpeak | ⟨hall, -⟩
  · exact hpeak
  · rw [hall value hmem] at hvalue
    exact absurd hvalue (by decide)

theorem IsPeak.le_of_isPeak {values : List Float} {peak other : Float} (h : IsPeak values peak)
    (hother : IsPeak values other) : peak ≤ other := by
  rcases h.mem_or with hmem | ⟨-, rfl⟩
  · exact hother.le_peak peak hmem h.isNaN_eq
  · exact Double.negInfinity_le hother.isNaN_eq

/-! ## Index ranges -/

/-- Whether an index lies in a range. -/
def Holds (range : ℕ × ℕ) (index : ℕ) : Prop :=
  range.1 ≤ index ∧ index < range.2

theorem getElem?_slice (series : List Float) (range : ℕ × ℕ) (i : ℕ) :
    (slice series range)[i]? = if range.1 + i < range.2 then series[range.1 + i]? else none := by
  rw [slice, List.getElem?_take, List.getElem?_drop]
  split <;> split <;> first | rfl | omega

theorem mem_slice_iff {series : List Float} {range : ℕ × ℕ} {value : Float} :
    value ∈ slice series range ↔ ∃ index, Holds range index ∧ series[index]? = some value := by
  rw [List.mem_iff_getElem?]
  constructor
  · rintro ⟨i, hi⟩
    rw [getElem?_slice] at hi
    split at hi
    · next hlt => exact ⟨range.1 + i, ⟨Nat.le_add_right _ _, hlt⟩, hi⟩
    · simp at hi
  · rintro ⟨index, ⟨hfirst, hstop⟩, hvalue⟩
    refine ⟨index - range.1, ?_⟩
    rw [getElem?_slice, Nat.add_sub_cancel' hfirst, if_pos hstop, hvalue]

section Ranges

variable (edge : ℕ → ℕ) {len target : ℕ}

theorem first_lt_stop (hlen : 0 < len) (target i : ℕ) :
    (bucketRange edge len target i).1 < (bucketRange edge len target i).2 := by
  simp only [bucketRange]
  split <;> omega

theorem stop_le (len target i : ℕ) : (bucketRange edge len target i).2 ≤ len := by
  simp only [bucketRange]
  split <;> omega

theorem stop_last (len : ℕ) (htarget : 0 < target) :
    (bucketRange edge len target (target - 1)).2 = len := by
  simp only [bucketRange]
  rw [if_pos (by omega)]

/-- The end of a bucket is only ever moved up from the edge at which the next one starts. -/
theorem first_succ_le_stop (len : ℕ) {i : ℕ} (hi : i + 1 < target) :
    (bucketRange edge len target (i + 1)).1 ≤ (bucketRange edge len target i).2 := by
  simp only [bucketRange]
  rw [if_neg (by omega)]
  omega

theorem holds_last (htarget : 0 < target) (hlen : 0 < len) :
    Holds (bucketRange edge len target (target - 1)) (len - 1) := by
  have hlt := first_lt_stop edge hlen target (target - 1)
  have hstop := stop_last edge len htarget
  exact ⟨by omega, by omega⟩

variable {edge}

theorem first_zero (hzero : edge 0 = 0) : (bucketRange edge len target 0).1 = 0 := by
  simp [bucketRange, hzero]

/-- Up to the end of any bucket all samples are covered. -/
theorem exists_holds_of_lt_stop (hzero : edge 0 = 0) {index i : ℕ} (hi : i < target)
    (hindex : index < (bucketRange edge len target i).2) :
    ∃ j < target, Holds (bucketRange edge len target j) index := by
  induction i with
  | zero => exact ⟨0, hi, by rw [first_zero hzero]; exact Nat.zero_le _, hindex⟩
  | succ i ih =>
      by_cases hbefore : index < (bucketRange edge len target i).2
      · exact ih (by omega) hbefore
      · -- Past the bucket before, which ends no earlier than this one starts.
        have hnext := first_succ_le_stop edge len hi
        exact ⟨i + 1, hi, by omega, hindex⟩

theorem exists_holds (hzero : edge 0 = 0) (htarget : 0 < target) {index : ℕ}
    (hindex : index < len) : ∃ i < target, Holds (bucketRange edge len target i) index := by
  apply exists_holds_of_lt_stop hzero (Nat.sub_one_lt_of_lt htarget)
  rwa [stop_last edge len htarget]

end Ranges

/-! ## Peaks of buckets -/

section Peaks

variable (edge : ℕ → ℕ) (series : List Float) {target : ℕ}

theorem length_bucketPeaks (target : ℕ) : (bucketPeaks edge series target).length = target := by
  simp [bucketPeaks]

theorem getElem?_bucketPeaks {i : ℕ} (hi : i < target) :
    (bucketPeaks edge series target)[i]? =
      some (largest (-1.0 / 0.0) (slice series (bucketRange edge series.length target i))) := by
  simp [bucketPeaks, hi]

variable {edge series}

theorem isPeak_of_getElem? {i : ℕ} {peak : Float}
    (h : (bucketPeaks edge series target)[i]? = some peak) :
    IsPeak (slice series (bucketRange edge series.length target i)) peak := by
  have hi : i < target := by
    rw [← length_bucketPeaks edge series target]
    exact (List.getElem?_eq_some_iff.mp h).1
  rw [getElem?_bucketPeaks edge series hi, Option.some.injEq] at h
  rw [← h]
  exact isPeak_largest _

theorem isNaN_of_mem_bucketPeaks {peak : Float} (h : peak ∈ bucketPeaks edge series target) :
    peak.isNaN = false := by
  obtain ⟨i, hi⟩ := List.mem_iff_getElem?.mp h
  exact (isPeak_of_getElem? hi).isNaN_eq

theorem isPeak_mem_bucketPeaks (htarget : 0 < target) {peak : Float}
    (h : IsPeak (bucketPeaks edge series target) peak) :
    peak ∈ bucketPeaks edge series target := by
  have hfirst := List.mem_of_getElem? (getElem?_bucketPeaks edge series htarget)
  exact h.mem hfirst (isNaN_of_mem_bucketPeaks hfirst)

/-- A peak is one of the samples, unless it stands for a bucket without any value. -/
theorem mem_or_eq_of_mem_bucketPeaks {peak : Float}
    (h : peak ∈ bucketPeaks edge series target) : peak ∈ series ∨ peak = -1.0 / 0.0 := by
  obtain ⟨i, hi⟩ := List.mem_iff_getElem?.mp h
  rcases (isPeak_of_getElem? hi).mem_or with hmem | ⟨-, heq⟩
  · obtain ⟨index, -, hindex⟩ := mem_slice_iff.mp hmem
    exact .inl (List.mem_of_getElem? hindex)
  · exact .inr heq

/-- Every sample lies in a bucket, so none is larger than all peaks. -/
theorem exists_peak_ge (hzero : edge 0 = 0) (htarget : 0 < target) {value : Float}
    (hmem : value ∈ series) (hvalue : value.isNaN = false) :
    ∃ peak ∈ bucketPeaks edge series target, value ≤ peak := by
  obtain ⟨index, hindex⟩ := List.mem_iff_getElem?.mp hmem
  obtain ⟨i, hi, hholds⟩ := exists_holds hzero htarget (List.getElem?_eq_some_iff.mp hindex).1
  have hpeak := getElem?_bucketPeaks edge series hi
  exact ⟨_, List.mem_of_getElem? hpeak,
    (isPeak_of_getElem? hpeak).le_peak value (mem_slice_iff.mpr ⟨index, hholds, hindex⟩) hvalue⟩

/-- The largest of the peaks is the largest value of the series. -/
theorem IsPeak.of_bucketPeaks (hzero : edge 0 = 0) (htarget : 0 < target)
    {peak : Float} (h : IsPeak (bucketPeaks edge series target) peak) : IsPeak series peak := by
  apply isPeak_of_mem_or_eq h.isNaN_eq
  · intro value hmem hvalue
    obtain ⟨top, htop, hle⟩ := exists_peak_ge hzero htarget hmem hvalue
    calc
      value ≤ top := hle
      _ ≤ peak := h.le_peak top htop (isNaN_of_mem_bucketPeaks htop)
  · exact mem_or_eq_of_mem_bucketPeaks (isPeak_mem_bucketPeaks htarget h)

end Peaks

/-! ## Series that fit a width -/

theorem fractionalEdge_zero (len target : ℕ) : fractionalEdge len target 0 = 0 := by
  rw [fractionalEdge, Double.toUInt64_zero_mul]
  rfl

theorem fitToWidth_of_lt {series : List Float} {target : ℕ} (h : target < series.length) :
    fitToWidth series target =
      bucketPeaks (fractionalEdge series.length target) series target := by
  rw [fitToWidth, if_neg]
  simpa [fits] using h

/-- A series that is too long is shown by the peaks of its buckets, whose fractional edges
start at zero. For any edges that do, every bucket is a range inside the series that is not
empty, the first starts with the series, the last ends with it, and none starts after the
end of the one before. So each sample lies in a bucket, the newest one in the last; a peak
is the largest value of its bucket, and the largest peak that of the series. -/
theorem fitToWidth_covers {series : List Float} {target : ℕ} (htarget : 0 < target)
    (hlong : target < series.length) :
    fitToWidth series target =
      bucketPeaks (fractionalEdge series.length target) series target ∧
    fractionalEdge series.length target 0 = 0 ∧
    ∀ edge : ℕ → ℕ, edge 0 = 0 →
      let range := bucketRange edge series.length target
      let peaks := bucketPeaks edge series target
      (∀ i < target, (range i).1 < (range i).2 ∧ (range i).2 ≤ series.length) ∧
      (range 0).1 = 0 ∧ (range (target - 1)).2 = series.length ∧
      (∀ i, i + 1 < target → (range (i + 1)).1 ≤ (range i).2) ∧
      (∀ index < series.length, ∃ i < target, Holds (range i) index) ∧
      Holds (range (target - 1)) (series.length - 1) ∧
      peaks.length = min series.length target ∧
      (∀ i < target, ∃ peak, peaks[i]? = some peak ∧ IsPeak (slice series (range i)) peak) ∧
      ∃ peak ∈ peaks, IsPeak peaks peak ∧ IsPeak series peak := by
  refine ⟨fitToWidth_of_lt hlong, fractionalEdge_zero _ _, ?_⟩
  intro edge hzero range peaks
  have hlen : 0 < series.length := by omega
  refine ⟨?_, first_zero hzero, stop_last edge _ htarget, ?_, ?_, holds_last edge htarget hlen,
    ?_, ?_, ?_⟩
  · intro i _
    exact ⟨first_lt_stop edge hlen target i, stop_le edge _ target i⟩
  · intro i hi
    exact first_succ_le_stop edge _ hi
  · intro index hindex
    exact exists_holds hzero htarget hindex
  · rw [length_bucketPeaks]
    omega
  · intro i hi
    exact ⟨_, getElem?_bucketPeaks edge series hi, isPeak_largest _⟩
  · have hpeak := isPeak_largest peaks
    exact ⟨_, isPeak_mem_bucketPeaks htarget hpeak, hpeak, hpeak.of_bucketPeaks hzero htarget⟩

/-- Three buckets of four samples whose inner edges lie far beyond the series: the last two
hold its last sample only. -/
theorem fitToWidth_covers_farEdges :
    0 < 3 ∧ 3 < [1.0, 0.0 / 0.0, 5.0, 2.0].length ∧
      (List.range 3).map (bucketRange (100 * ·) 4 3) = [(0, 4), (3, 4), (3, 4)] ∧
      (∀ index < 4, ∃ i < 3, Holds (bucketRange (100 * ·) 4 3 i) index) ∧
      ∃ peak ∈ bucketPeaks (100 * ·) [1.0, 0.0 / 0.0, 5.0, 2.0] 3,
        IsPeak [1.0, 0.0 / 0.0, 5.0, 2.0] peak := by
  have htarget : 0 < 3 := by decide
  have hlong : 3 < [1.0, 0.0 / 0.0, 5.0, 2.0].length := by decide
  obtain ⟨-, -, hcovers⟩ := fitToWidth_covers htarget hlong
  obtain ⟨-, -, -, -, hholds, -, -, -, peak, hmem, -, hpeak⟩ := hcovers (100 * ·) rfl
  exact ⟨htarget, hlong, by decide, hholds, peak, hmem, hpeak⟩

end Dashboard.Series
