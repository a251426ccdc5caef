import Dashboard.Graph.Timeline
import Mathlib.Algebra.GroupWithZero.Nat
import Mathlib.Data.Nat.Notation
import Mathlib.Tactic.ByContra

/-! # Time markers within their span

Markers stand at the multiples of a step, as many as the span of a graph holds. The ages are
summed up one by one, and the sum that passes the span is computed as well: it must not pass
the longest duration. The span is that of the samples as long as their number is not cut. -/

namespace Dashboard

namespace Duration

theorem eq_of_nanos_eq {a b : Duration} (h : a.nanos = b.nanos) : a = b := by
  cases a
  cases b
  cases h
  rfl

theorem saturatingMul_eq {d age : Duration} {count : ℕ} (h : age.nanos = d.nanos * count) :
    d.saturatingMul count = age := by
  apply eq_of_nanos_eq
  calc (d.saturatingMul count).nanos = min (d.nanos * count) longestNanos := rfl
    _ = min age.nanos longestNanos := by rw [h]
    _ = age.nanos := Nat.min_eq_left age.nanos_le

theorem add?_of_le {a b : Duration} (h : a.nanos + b.nanos ≤ longestNanos) :
    a.add? b = some ⟨a.nanos + b.nanos, h⟩ :=
  dif_pos h

theorem add?_of_lt {a b : Duration} (h : longestNanos < a.nanos + b.nanos) : a.add? b = none :=
  dif_neg (Nat.not_le_of_lt h)

end Duration

namespace Graph

/-! ## Adding up the ages -/

section Ages

variable {span step age : Duration} (positive : 0 < step.nanos)

theorem agesFrom_of_lt (h : span.nanos < age.nanos) : agesFrom span step positive age = .ok [] := by
  rw [agesFrom, dif_neg (Nat.not_le_of_lt h)]
  rfl

theorem agesFrom_of_le {next : Duration} (h : age.nanos ≤ span.nanos)
    (hnext : age.add? step = some next) :
    agesFrom span step positive age = (agesFrom span step positive next).map (age :: ·) := by
  rw [agesFrom, dif_pos h]
  split
  · next sum hsum =>
    obtain rfl : next = sum := Option.some.inj (hnext.symm.trans hsum)
    cases agesFrom span step positive next <;> rfl
  · next hsum =>
    rw [hnext] at hsum
    cases hsum

theorem agesFrom_of_overflow (h : age.nanos ≤ span.nanos) (hnext : age.add? step = none) :
    agesFrom span step positive age = .error .overflow := by
  rw [agesFrom, dif_pos h]
  split
  · next sum hsum =>
    rw [hnext] at hsum
    cases hsum
  · rfl

/-- The multiple of a step that is computed last: the first one past a span. -/
def firstPast (span step : Duration) : ℕ :=
  step.nanos * (span.nanos / step.nanos + 1)

theorem firstPast_le_add (span step : Duration) :
    firstPast span step ≤ span.nanos + step.nanos := by
  rw [firstPast, Nat.mul_succ]
  exact Nat.add_le_add_right (Nat.mul_div_le _ _) _

theorem lt_firstPast (span : Duration) {step : Duration} (positive : 0 < step.nanos) :
    span.nanos < firstPast span step :=
  Nat.lt_mul_div_succ _ positive

theorem agesFrom_eq {first count : ℕ} (hage : age.nanos = step.nanos * first)
    (hcount : first + count = span.nanos / step.nanos + 1) :
    agesFrom span step positive age =
      if firstPast span step ≤ longestNanos then
        .ok ((List.range' first count).map step.saturatingMul)
      else .error .overflow := by
  induction count generalizing first age with
  | zero =>
      have hpast : firstPast span step = age.nanos := by
        rw [firstPast, ← hcount, hage, Nat.add_zero]
      have hlt : span.nanos < age.nanos := by
        rw [← hpast]
        exact lt_firstPast span positive
      rw [agesFrom_of_lt positive hlt, hpast, if_pos age.nanos_le]
      rfl
  | succ count ih =>
      have hle : age.nanos ≤ span.nanos := by
        calc age.nanos = step.nanos * first := hage
          _ ≤ step.nanos * (span.nanos / step.nanos) := Nat.mul_le_mul_left _ (by omega)
          _ ≤ span.nanos := Nat.mul_div_le _ _
      by_cases hfit : age.nanos + step.nanos ≤ longestNanos
      · have hnext : age.nanos + step.nanos = step.nanos * (first + 1) := by
          rw [hage, Nat.mul_succ]
        rw [agesFrom_of_le positive hle (Duration.add?_of_le hfit), ih hnext (by omega)]
        split
        · rw [List.range'_succ, List.map_cons, Duration.saturatingMul_eq hage]
          rfl
        · rfl
      · have hpast : longestNanos < firstPast span step := by
          calc longestNanos < age.nanos + step.nanos := Nat.lt_of_not_le hfit
            _ = step.nanos * (first + 1) := by rw [hage, Nat.mul_succ]
            _ ≤ firstPast span step := Nat.mul_le_mul_left _ (by omega)
        rw [agesFrom_of_overflow positive hle (Duration.add?_of_lt (Nat.lt_of_not_le hfit)),
          if_neg (Nat.not_le_of_lt hpast)]

end Ages

/-! ## Markers at multiples -/

section Markers

variable (interval : Duration) (samples : ℕ) (step : Duration)

/-- The marker of an age. -/
def markerOf (span age : Duration) : Marker :=
  ⟨age.toFloatSeconds / span.toFloatSeconds, some (ageText age)⟩

theorem timeMarkers_of_zero
    (h : step.nanos = 0 ∨ (spanOf interval samples).nanos = 0) :
    timeMarkers interval samples step = .ok [] := by
  rw [timeMarkers, dif_neg (by omega)]
  rfl

theorem timeMarkers_of_pos (hstep : 0 < step.nanos) (hspan : 0 < (spanOf interval samples).nanos) :
    timeMarkers interval samples step =
      if firstPast (spanOf interval samples) step ≤ longestNanos then
        .ok ((List.range' 1 ((spanOf interval samples).nanos / step.nanos)).map fun k =>
          markerOf (spanOf interval samples) (step.saturatingMul k))
      else .error .overflow := by
  rw [timeMarkers, dif_pos ⟨hstep, hspan⟩,
    agesFrom_eq hstep (by rw [Nat.mul_one]) (Nat.add_comm _ _)]
  split
  · change Except.ok _ = Except.ok _
    rw [List.map_map]
    rfl
  · rfl

/-- Whether the sum that is computed last passes the longest duration. -/
def Overflows (span step : Duration) : Prop :=
  0 < step.nanos ∧ 0 < span.nanos ∧ longestNanos < firstPast span step

instance (span step : Duration) : Decidable (Overflows span step) :=
  inferInstanceAs (Decidable (_ ∧ _))

theorem timeMarkers_of_overflows (h : Overflows (spanOf interval samples) step) :
    timeMarkers interval samples step = .error .overflow := by
  rw [timeMarkers_of_pos interval samples step h.1 h.2.1, if_neg (Nat.not_le_of_lt h.2.2)]

theorem not_overflows_of_ok {markers : List Marker}
    (h : timeMarkers interval samples step = .ok markers) :
    ¬ Overflows (spanOf interval samples) step := by
  intro hoverflows
  rw [timeMarkers_of_overflows interval samples step hoverflows] at h
  cases h

theorem exists_timeMarkers_of_not_overflows (h : ¬ Overflows (spanOf interval samples) step) :
    ∃ markers, timeMarkers interval samples step = .ok markers := by
  by_cases hzero : step.nanos = 0 ∨ (spanOf interval samples).nanos = 0
  · exact ⟨_, timeMarkers_of_zero interval samples step hzero⟩
  · have hstep : 0 < step.nanos := by omega
    have hspan : 0 < (spanOf interval samples).nanos := by omega
    have hfit : firstPast (spanOf interval samples) step ≤ longestNanos :=
      Nat.le_of_not_lt fun hpast => h ⟨hstep, hspan, hpast⟩
    exact ⟨_, by rw [timeMarkers_of_pos interval samples step hstep hspan, if_pos hfit]⟩

theorem not_overflows_of_add_le {span : Duration}
    (h : span.nanos + step.nanos ≤ longestNanos) : ¬ Overflows span step :=
  fun hoverflows =>
    Nat.not_le_of_lt hoverflows.2.2 (Nat.le_trans (firstPast_le_add span step) h)

theorem overflows_of_longest {span : Duration} (hstep : 0 < step.nanos)
    (h : span.nanos = longestNanos) : Overflows span step := by
  refine ⟨hstep, by rw [h]; decide, ?_⟩
  rw [← h]
  exact lt_firstPast span hstep

/-- There are markers exactly if the first multiple of the step that passes the span does not
pass the longest duration. So there are always markers if span and step together do not pass
it, and there are none along the longest span. -/
theorem exists_timeMarkers_iff :
    let span := spanOf interval samples
    ((∃ markers, timeMarkers interval samples step = .ok markers) ↔ ¬ Overflows span step) ∧
    (Overflows span step → timeMarkers interval samples step = .error .overflow) ∧
    (span.nanos + step.nanos ≤ longestNanos → ¬ Overflows span step) ∧
    (0 < step.nanos → span.nanos = longestNanos → Overflows span step) := by
  intro span
  refine ⟨⟨?_, exists_timeMarkers_of_not_overflows interval samples step⟩,
    timeMarkers_of_overflows interval samples step, not_overflows_of_add_le step,
    overflows_of_longest step⟩
  rintro ⟨markers, hmarkers⟩
  exact not_overflows_of_ok interval samples step hmarkers

/-- Two samples the longest duration apart have one marker at a step as long, but the age
after it is no duration. -/
theorem exists_timeMarkers_overflow :
    ¬ ∀ interval samples step, ∃ markers, timeMarkers interval samples step = .ok markers := by
  intro h
  let longest : Duration := ⟨longestNanos, Nat.le_refl _⟩
  have hspan : (spanOf longest 2).nanos = longestNanos := by decide
  obtain ⟨markers, hmarkers⟩ := h longest 2 longest
  exact not_overflows_of_ok longest 2 longest hmarkers
    (overflows_of_longest longest (by decide) hspan)

/-! ## Markers within the span of the samples -/

/-- Markers at the multiples of a step within a span, in their order. -/
structure AtMultiples (span step : Duration) (markers : List Marker) : Prop where
  eq_nil : step.nanos = 0 ∨ span.nanos = 0 → markers = []
  length_eq : 0 < step.nanos → 0 < span.nanos → markers.length = span.nanos / step.nanos
  getElem?_eq : 0 < step.nanos → ∀ k (age : Duration), 0 < k → age.nanos = step.nanos * k →
    age.nanos ≤ span.nanos → markers[k - 1]? = some (markerOf span age)

theorem atMultiples_nil {span step : Duration}
    (h : step.nanos = 0 ∨ span.nanos < step.nanos) : AtMultiples span step [] where
  eq_nil := fun _ => rfl
  length_eq := by
    intro hstep _
    rw [List.length_nil, Nat.div_eq_of_lt (by omega)]
  getElem?_eq := by
    intro hstep k age hk hage hle
    have hmultiple : step.nanos ≤ age.nanos := hage ▸ Nat.le_mul_of_pos_right _ hk
    omega

theorem AtMultiples.eq_nil_of_lt {span step : Duration} {markers : List Marker}
    (hmarkers : AtMultiples span step markers)
    (h : step.nanos = 0 ∨ span.nanos < step.nanos) : markers = [] := by
  by_cases hzero : step.nanos = 0 ∨ span.nanos = 0
  · exact hmarkers.eq_nil hzero
  · have hlength := hmarkers.length_eq (by omega) (by omega)
    rw [Nat.div_eq_of_lt (by omega)] at hlength
    exact List.eq_nil_of_length_eq_zero hlength

/-- Time from the oldest to the newest of all samples, cut at the longest duration. -/
def wholeSpan : Duration :=
  interval.saturatingMul (samples - 1)

theorem nanos_spanOf : (spanOf interval samples).nanos =
    min (interval.nanos * ((samples - 1) % 2 ^ 32)) longestNanos := rfl

theorem nanos_wholeSpan : (wholeSpan interval samples).nanos =
    min (interval.nanos * (samples - 1)) longestNanos := rfl

theorem spanOf_le_wholeSpan :
    (spanOf interval samples).nanos ≤ (wholeSpan interval samples).nanos := by
  have hless := Nat.mul_le_mul_left interval.nanos (Nat.mod_le (samples - 1) (2 ^ 32))
  rw [nanos_spanOf, nanos_wholeSpan]
  omega

theorem spanOf_eq_wholeSpan_iff :
    spanOf interval samples = wholeSpan interval samples ↔
      samples ≤ 2 ^ 32 ∨ interval.nanos = 0 ∨
        longestNanos ≤ interval.nanos * ((samples - 1) % 2 ^ 32) := by
  constructor
  · intro heq
    by_contra hlost
    simp only [not_or, Nat.not_le] at hlost
    obtain ⟨hmany, hinterval, hcut⟩ := hlost
    have hless : interval.nanos * ((samples - 1) % 2 ^ 32) < interval.nanos * (samples - 1) :=
      Nat.mul_lt_mul_of_pos_left (by omega) (Nat.pos_of_ne_zero hinterval)
    have hnanos := congrArg Duration.nanos heq
    rw [nanos_spanOf, nanos_wholeSpan] at hnanos
    omega
  · intro h
    apply Duration.eq_of_nanos_eq
    rw [nanos_spanOf, nanos_wholeSpan]
    rcases h with hfew | hzero | hcut
    · rw [Nat.mod_eq_of_lt (by omega)]
    · rw [hzero, Nat.zero_mul, Nat.zero_mul]
    · have hmore := Nat.mul_le_mul_left interval.nanos (Nat.mod_le (samples - 1) (2 ^ 32))
      rw [Nat.min_eq_right hcut, Nat.min_eq_right (Nat.le_trans hcut hmore)]

theorem atMultiples_of_ok {markers : List Marker}
    (h : timeMarkers interval samples step = .ok markers) :
    AtMultiples (spanOf interval samples) step markers := by
  by_cases hzero : step.nanos = 0 ∨ (spanOf interval samples).nanos = 0
  · rw [timeMarkers_of_zero interval samples step hzero] at h
    obtain rfl := Except.ok.inj h
    exact atMultiples_nil (by omega)
  · have hstep : 0 < step.nanos := by omega
    have hspan : 0 < (spanOf interval samples).nanos := by omega
    rw [timeMarkers_of_pos interval samples step hstep hspan] at h
    split at h
    · obtain rfl := Except.ok.inj h
      refine ⟨fun hnone => absurd hnone hzero, ?_, ?_⟩
      · intro _ _
        rw [List.length_map, List.length_range']
      · intro _ k age hk hage hle
        have hlast : k ≤ (spanOf interval samples).nanos / step.nanos := by
          rw [Nat.le_div_iff_mul_le hstep, Nat.mul_comm, ← hage]
          exact hle
        have hindex : 1 + 1 * (k - 1) = k := by omega
        rw [List.getElem?_map, List.getElem?_range' (by omega), Option.map_some, hindex,
          Duration.saturatingMul_eq hage]
    · cases h

/-- What is lost of the number of samples costs at least one marker, if any is due. -/
theorem div_lt_div_wholeSpan (hlost : spanOf interval samples ≠ wholeSpan interval samples)
    (hstep : 0 < step.nanos) (hdue : step.nanos ≤ (wholeSpan interval samples).nanos)
    (hfit : firstPast (spanOf interval samples) step ≤ longestNanos) :
    (spanOf interval samples).nanos / step.nanos <
      (wholeSpan interval samples).nanos / step.nanos := by
  rw [ne_eq, spanOf_eq_wholeSpan_iff] at hlost
  simp only [not_or, Nat.not_le] at hlost
  obtain ⟨hmany, -, hcut⟩ := hlost
  have hspan : (spanOf interval samples).nanos = interval.nanos * ((samples - 1) % 2 ^ 32) :=
    Nat.min_eq_left (Nat.le_of_lt hcut)
  have hpast : firstPast (spanOf interval samples) step ≤ interval.nanos * (samples - 1) := by
    by_cases hshort : (spanOf interval samples).nanos < step.nanos
    · rw [firstPast, Nat.div_eq_of_lt hshort, Nat.zero_add, Nat.mul_one]
      exact Nat.le_trans hdue (Nat.min_le_left ..)
    · calc firstPast (spanOf interval samples) step
          ≤ (spanOf interval samples).nanos + step.nanos := firstPast_le_add _ _
        _ ≤ interval.nanos * ((samples - 1) % 2 ^ 32) + interval.nanos * 2 ^ 32 := by
            have hrest : (samples - 1) % 2 ^ 32 ≤ 2 ^ 32 := by omega
            have hless := Nat.mul_le_mul_left interval.nanos hrest
            omega
        _ = interval.nanos * ((samples - 1) % 2 ^ 32 + 2 ^ 32) := (Nat.mul_add ..).symm
        _ ≤ interval.nanos * (samples - 1) := Nat.mul_le_mul_left _ (by omega)
  rw [Nat.lt_iff_add_one_le, Nat.le_div_iff_mul_le hstep, Nat.mul_comm]
  exact Nat.le_min.mpr ⟨hpast, hfit⟩

theorem atMultiples_wholeSpan_iff {markers : List Marker}
    (h : timeMarkers interval samples step = .ok markers) :
    AtMultiples (wholeSpan interval samples) step markers ↔
      step.nanos = 0 ∨ (wholeSpan interval samples).nanos < step.nanos ∨
        spanOf interval samples = wholeSpan interval samples := by
  have hcomputed := atMultiples_of_ok interval samples step h
  constructor
  · intro hwhole
    by_contra hnot
    simp only [not_or, Nat.not_lt] at hnot
    obtain ⟨hstep, hdue, hlost⟩ := hnot
    have hpos : 0 < step.nanos := Nat.pos_of_ne_zero hstep
    have hlength := hwhole.length_eq hpos (by omega)
    by_cases hzero : (spanOf interval samples).nanos = 0
    · rw [hcomputed.eq_nil (.inr hzero), List.length_nil] at hlength
      have hsome := Nat.div_pos hdue hpos
      omega
    · have hfit : firstPast (spanOf interval samples) step ≤ longestNanos :=
        Nat.le_of_not_lt fun hpast =>
          not_overflows_of_ok interval samples step h ⟨hpos, by omega, hpast⟩
      have hless := div_lt_div_wholeSpan interval samples step hlost hpos hdue hfit
      have hcount := hcomputed.length_eq hpos (by omega)
      omega
  · rintro (hzero | hshort | heq)
    · rw [hcomputed.eq_nil (.inl hzero)]
      exact atMultiples_nil (.inl hzero)
    · have hle := spanOf_le_wholeSpan interval samples
      rw [hcomputed.eq_nil_of_lt (.inr (by omega))]
      exact atMultiples_nil (.inr hshort)
    · exact heq ▸ hcomputed

/-- Returned markers stand at the multiples of the step within the span that is computed. That
is the span of all samples exactly if the number of samples is not cut, or the samples are no
time apart, or already what is left of them reaches the longest duration. The markers stand
at the multiples within the span of all samples exactly if that is the span that is computed
or no marker is due. -/
theorem atMultiples_timeMarkers {markers : List Marker}
    (h : timeMarkers interval samples step = .ok markers) :
    AtMultiples (spanOf interval samples) step markers ∧
      (AtMultiples (wholeSpan interval samples) step markers ↔
        step.nanos = 0 ∨ (wholeSpan interval samples).nanos < step.nanos ∨
          spanOf interval samples = wholeSpan interval samples) ∧
      (spanOf interval samples = wholeSpan interval samples ↔
        samples ≤ 2 ^ 32 ∨ interval.nanos = 0 ∨
          longestNanos ≤ interval.nanos * ((samples - 1) % 2 ^ 32)) :=
  ⟨atMultiples_of_ok interval samples step h, atMultiples_wholeSpan_iff interval samples step h,
    spanOf_eq_wholeSpan_iff interval samples⟩

/-- A minute of samples a second apart, marked every half minute. -/
theorem atMultiples_timeMarkers_minute :
    ∃ markers, timeMarkers (.ofSeconds 1) 61 (.ofSeconds 30) = .ok markers ∧
      markers.length = 2 ∧ markers[1]? = some (markerOf (.ofSeconds 60) (.ofSeconds 60)) := by
  have hfit : ¬ Overflows (spanOf (.ofSeconds 1) 61) (.ofSeconds 30) := by decide +kernel
  have hspan : spanOf (.ofSeconds 1) 61 = .ofSeconds 60 := by decide +kernel
  obtain ⟨markers, hmarkers⟩ := exists_timeMarkers_of_not_overflows _ _ _ hfit
  obtain ⟨hmultiples, -, -⟩ := atMultiples_timeMarkers _ _ _ hmarkers
  rw [hspan] at hmultiples
  refine ⟨markers, hmarkers, ?_, ?_⟩
  · exact hmultiples.length_eq (by decide +kernel) (by decide +kernel)
  · exact hmultiples.getElem?_eq (by decide +kernel) 2 _ (by decide) (by decide +kernel)
      (Nat.le_refl _)

/-- With one sample more than `2 ^ 32` there are no markers. -/
theorem exists_not_atMultiples :
    ¬ ∀ interval samples step markers, timeMarkers interval samples step = .ok markers →
      AtMultiples (wholeSpan interval samples) step markers := by
  intro h
  have hspan : (spanOf (.ofSeconds 1) (2 ^ 32 + 1)).nanos = 0 := by decide +kernel
  have hnone := timeMarkers_of_zero (.ofSeconds 1) (2 ^ 32 + 1) (.ofSeconds 2147483648) (.inr hspan)
  have hlength := (h _ _ _ _ hnone).length_eq (by decide +kernel) (by decide +kernel)
  exact absurd hlength (by decide +kernel)

end Markers

end Graph

end Dashboard
