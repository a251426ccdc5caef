import Dashboard.Proofs.Scale.Headroom
import Dashboard.Proofs.Scale.LogDecade
import Dashboard.Proofs.Scale.RoundedPowers
import Dashboard.Proofs.Series.Buckets

/-! # Finite ceilings

The ceiling of a graph is positive and covers every finite sample. It is finite as long as
the largest sample leaves a tenth of the largest finite candidate free. Beyond that, the next
larger candidate is infinity. -/

namespace Dashboard.Scale

open Double (value)

/-! ## Candidates that cover a maximum -/

section Covering

variable {max : Float}

theorem scalarLe_iff {x y : Float} : Scalar.le x y = true ↔ x ≤ y :=
  decide_eq_true_iff

theorem scalarLt_iff {x y : Float} : Scalar.lt x y = true ↔ x < y :=
  decide_eq_true_iff

theorem firstCovering_cons_of_le {c : Float} (h : Scalar.le max c = true) (rest : List Float) :
    firstCovering max (c :: rest) =
      if hasHeadroom max c then c else (rest.find? fun c' => Scalar.lt c c').getD c := by
  rw [firstCovering, List.dropWhile_cons_of_neg (by simp [h])]

theorem firstCovering_cons_of_lt {c : Float} (h : Scalar.le max c = false) (rest : List Float) :
    firstCovering max (c :: rest) = firstCovering max rest := by
  rw [firstCovering, List.dropWhile_cons_of_pos (by simp [h]), firstCovering]

theorem le_of_dropWhile_eq {candidates rest : List Float} {chosen : Float}
    (h : candidates.dropWhile (fun c => !Scalar.le max c) = chosen :: rest) : max ≤ chosen := by
  have hne : candidates.dropWhile (fun c => !Scalar.le max c) ≠ [] := by simp [h]
  have hhead := List.head_dropWhile_not (fun c => !Scalar.le max c) hne
  simpa only [h, List.head_cons, Bool.not_eq_false', scalarLe_iff] using hhead

theorem le_firstCovering (h : max.isNaN = false) (candidates : List Float) :
    max ≤ firstCovering max candidates := by
  rw [firstCovering]
  split
  · exact Double.le_self h
  · next chosen rest hdrop =>
    have hle := le_of_dropWhile_eq hdrop
    split
    · exact hle
    · cases hfind : rest.find? fun c => Scalar.lt chosen c with
      | none => exact hle
      | some next =>
          have hlt : chosen < next := scalarLt_iff.mp (List.find?_some hfind)
          exact Double.le_trans hle (Double.le_of_lt hlt)

theorem firstCovering_mem (max : Float) (candidates : List Float) :
    firstCovering max candidates = max ∨ firstCovering max candidates ∈ candidates := by
  rw [firstCovering]
  split
  · exact .inl rfl
  · next chosen rest hdrop =>
    have hsub : (chosen :: rest) ⊆ candidates := hdrop ▸ List.dropWhile_subset _
    right
    split
    · exact hsub List.mem_cons_self
    · cases hfind : rest.find? fun c => Scalar.lt chosen c with
      | none => exact hsub List.mem_cons_self
      | some next => exact hsub (List.mem_cons_of_mem _ (List.mem_of_find?_eq_some hfind))

/-- Candidates after one that leaves room for the maximum are not reached. -/
theorem firstCovering_mem_of_hasHeadroom {front rest : List Float} {top : Float}
    (hcover : max ≤ top) (hroom : hasHeadroom max top = true) (hfront : ∀ c ∈ front, c < top) :
    firstCovering max (front ++ top :: rest) ∈ front ++ [top] := by
  induction front with
  | nil =>
      simp only [List.nil_append]
      rw [firstCovering_cons_of_le (scalarLe_iff.mpr hcover), if_pos hroom]
      exact List.mem_singleton_self top
  | cons c front ih =>
      have htail := ih fun c hc => hfront c (List.mem_cons_of_mem _ hc)
      rw [List.cons_append, List.cons_append]
      cases hle : Scalar.le max c with
      | false =>
          rw [firstCovering_cons_of_lt hle]
          exact List.mem_cons_of_mem _ htail
      | true =>
          rw [firstCovering_cons_of_le hle]
          split
          · exact List.mem_cons_self
          · -- The next larger candidate is at most the one that leaves room.
            have hlt : Scalar.lt c top = true := scalarLt_iff.mpr (hfront c List.mem_cons_self)
            rw [List.find?_append, List.find?_cons_of_pos hlt]
            cases hfind : front.find? fun c' => Scalar.lt c c' with
            | none => simp
            | some next => simp [List.mem_of_find?_eq_some hfind]

/-- A maximum that leaves too little of the largest finite candidate free is covered by
infinity. -/
theorem firstCovering_eq_infinity {low middle rest : List Float} {limit top : Float}
    (hmax : max.isFinite = true) (hlimit : limit < max) (hlow : ∀ c ∈ low, c ≤ limit)
    (hroom : hasHeadroom max top = false) (htop : top.isFinite = true)
    (hmiddle : ∀ c ∈ middle, c ≤ top) :
    firstCovering max (low ++ top :: (middle ++ 1.0 / 0.0 :: rest)) = 1.0 / 0.0 := by
  have hlow' : ∀ c ∈ low, Scalar.le max c = false := by
    intro c hc
    rw [Bool.eq_false_iff, ne_eq, scalarLe_iff]
    exact fun hle => Double.not_le_of_lt hlimit (Double.le_trans hle (hlow c hc))
  by_cases hcover : max ≤ top
  · rw [firstCovering_append hlow' (scalarLe_iff.mpr hcover), hroom]
    have hnone : (middle.find? fun c => Scalar.lt top c) = none := by
      rw [List.find?_eq_none]
      intro c hc
      rw [scalarLt_iff]
      exact fun hlt => Double.not_le_of_lt hlt (hmiddle c hc)
    have hlt : Scalar.lt top (1.0 / 0.0) = true := scalarLt_iff.mpr (Double.lt_infinity htop)
    rw [List.find?_append, hnone, List.find?_cons_of_pos hlt]
    rfl
  · have hfront : ∀ c ∈ low ++ top :: middle, Scalar.le max c = false := by
      intro c hc
      rw [List.mem_append, List.mem_cons] at hc
      rcases hc with hc | rfl | hc
      · exact hlow' c hc
      · rwa [Bool.eq_false_iff, ne_eq, scalarLe_iff]
      · rw [Bool.eq_false_iff, ne_eq, scalarLe_iff]
        exact fun hle => hcover (Double.le_trans hle (hmiddle c hc))
    have hinf : Scalar.le max (1.0 / 0.0) = true :=
      scalarLe_iff.mpr (Double.le_infinity (Double.isNaN_of_isFinite hmax))
    have hinfroom : hasHeadroom max (1.0 / 0.0) = true := hinf
    have hfirst := @firstCovering_append _ _ _ _ _ rest hfront hinf
    rw [if_pos hinfroom, List.append_assoc, List.cons_append] at hfirst
    exact hfirst

end Covering

/-! ## The last ladders -/

/-- The part of a ceiling a maximum may take up. -/
def headroom : Float :=
  Scalar.div (Scalar.ofNat 9) (Scalar.ofNat 10)

/-- Top of the last ladder that is finite as a whole. -/
def largestCandidate : Float :=
  scaled 100 306

/-- Largest maximum that leaves a tenth of it free. -/
def largestCovered : Float :=
  Scalar.mul largestCandidate headroom

def largestDouble : Float :=
  Float.ofBits 0x7fefffffffffffff

/-- The two powers the last ladders are computed from; the other facts about them are about
doubles that are written out. -/
theorem powers : (powerOfTen 306 : Float) = Float.ofBits 0x7f76c8e5ca23902d ∧
    (powerOfTen 307 : Float) = Float.ofBits 0x7fac7b1f3cac7437 := by
  decide +kernel

theorem largestCandidate_eq : largestCandidate = Float.ofBits 0x7fe1ccf385ebc8a3 := by
  rw [largestCandidate, scaled, if_pos (by decide)]
  change Scalar.mul (Scalar.ofNat 100) (powerOfTen 306) = _
  rw [powers.1]
  decide

theorem largestCovered_eq : largestCovered = Float.ofBits 0x7fe0054192210160 := by
  rw [largestCovered, largestCandidate_eq]
  decide

theorem scaled_307 (step : ℕ) :
    scaled step 307 = Scalar.mul (Scalar.ofNat step) (Float.ofBits 0x7fac7b1f3cac7437) := by
  rw [scaled, if_pos (by decide)]
  exact congrArg _ powers.2

/-- Ten times the 307th power is rounded to just below the top of the last finite ladder. -/
theorem scaled_ten_eq : (scaled 10 307 : Float) = Float.ofBits 0x7fe1ccf385ebc8a2 := by
  rw [scaled_307]
  decide

theorem scaled_twentyFive_eq : (scaled 25 307 : Float) = 1.0 / 0.0 := by
  rw [scaled_307]
  decide

theorem isFinite_largestCovered : largestCovered.isFinite = true := by
  rw [largestCovered_eq]
  decide

theorem isNaN_largestCovered : largestCovered.isNaN = false :=
  Double.isNaN_of_isFinite isFinite_largestCovered

theorem largestCovered_lt : largestCovered < largestCandidate ∧ largestCovered < largestDouble := by
  rw [largestCovered_eq, largestCandidate_eq, largestDouble]
  decide

theorem value_largestCovered :
    89 * 10 ^ 306 ≤ value largestCovered ∧ value largestCovered ≤ 91 * 10 ^ 306 := by
  rw [largestCovered_eq]
  decide +kernel

theorem largestCovered_pos : 0.0 < largestCovered := by
  rw [largestCovered_eq]
  decide

theorem ten_pow_succ : (10 : ℚ) ^ 307 = 10 * 10 ^ 306 :=
  pow_succ' _ _

/-- Rounding does not take seventy-five units past the ninety that are covered. -/
theorem scaled_le_largestCovered {step k : ℕ} (hstep : step ∈ ladder) (hk : k ≤ 1000)
    (h : (step : ℚ) * 10 ^ k ≤ 75 * 10 ^ 306) : scaled step k ≤ largestCovered := by
  have hpos : (0 : ℚ) < 10 ^ 306 := by positivity
  have hcovered := value_largestCovered.1
  refine scaled_le hstep hk isFinite_largestCovered ?_
  generalize (10 : ℚ) ^ 306 = power at *
  linarith

theorem lower_le {c : Float} (h : c ∈ [1, 2, 5, 10, 25, 50, 75].map (scaled · 306)) :
    c ≤ largestCovered := by
  obtain ⟨step, hstep, rfl⟩ := List.mem_map.mp h
  have hladder : ∀ step ∈ [1, 2, 5, 10, 25, 50, 75], step ∈ ladder ∧ step ≤ 75 := by decide
  obtain ⟨hmem, hle⟩ := hladder step hstep
  refine scaled_le_largestCovered hmem (k := 306) (by norm_num) ?_
  gcongr
  exact_mod_cast hle

theorem upper_le {c : Float} (h : c ∈ [1, 2, 5].map (scaled · 307)) : c ≤ largestCovered := by
  obtain ⟨step, hstep, rfl⟩ := List.mem_map.mp h
  have hladder : ∀ step ∈ [1, 2, 5], step ∈ ladder ∧ step * 10 ≤ 75 := by decide
  obtain ⟨hmem, hle⟩ := hladder step hstep
  refine scaled_le_largestCovered hmem (k := 307) (by norm_num) ?_
  rw [ten_pow_succ, ← mul_assoc]
  gcongr
  exact_mod_cast hle

theorem upper_le_largestCandidate {c : Float} (h : c ∈ [1, 2, 5, 10].map (scaled · 307)) :
    c ≤ largestCandidate := by
  obtain ⟨step, hstep, rfl⟩ := List.mem_map.mp h
  have hcases : step ∈ [1, 2, 5] ∨ step = 10 := by simpa [or_assoc] using hstep
  rcases hcases with hmem | rfl
  · have hle := upper_le (List.mem_map_of_mem hmem)
    exact Double.le_trans hle (Double.le_of_lt largestCovered_lt.1)
  · rw [scaled_ten_eq, largestCandidate_eq]
    decide

/-- Twenty-five times the 307th power is the first candidate that is infinite. -/
theorem candidates_306 :
    (candidates 306 : List Float) =
      [1, 2, 5, 10, 25, 50, 75].map (scaled · 306) ++ largestCandidate ::
        ([1, 2, 5, 10].map (scaled · 307) ++ 1.0 / 0.0 :: [50, 75, 100].map (scaled · 307)) := by
  simp only [candidates, ladder, largestCandidate, ← scaled_twentyFive_eq, List.map_cons,
    List.map_nil, List.cons_append, List.nil_append, Int.reduceAdd]

theorem candidates_307 :
    (candidates 307 : List Float) =
      [1, 2, 5].map (scaled · 307) ++ scaled 10 307 ::
        ([] ++ 1.0 / 0.0 :: ([50, 75, 100].map (scaled · 307) ++ ladder.map (scaled · 308))) := by
  simp only [candidates, ladder, ← scaled_twentyFive_eq, List.map_cons, List.map_nil,
    List.cons_append, List.nil_append, Int.reduceAdd]

theorem isFinite_of_mem_lower {c : Float}
    (h : c ∈ [1, 2, 5, 10, 25, 50, 75].map (scaled · 306) ++ [largestCandidate]) :
    c.isFinite = true := by
  have hmem : c ∈ ladder.map (scaled · 306) := h
  obtain ⟨step, hstep, rfl⟩ := List.mem_map.mp hmem
  exact isFinite_scaled hstep le_rfl

/-! ## The largest maximum with a finite ceiling -/

section NiceCeiling

variable {max : Float}

theorem hasHeadroom_largestCandidate :
    hasHeadroom max largestCandidate = true ↔ max ≤ largestCovered :=
  scalarLe_iff

theorem niceCeiling_of_pos (hmax : max.isFinite = true) (hpos : 0.0 < max) :
    niceCeiling max = firstCovering max (candidates (logDecade max - 1)) := by
  have hnot : Scalar.le max (Scalar.ofNat 0) = false := by
    rw [Bool.eq_false_iff, ne_eq, scalarLe_iff]
    exact Double.not_le_of_lt hpos
  have hfinite : Scalar.isFinite max = true := hmax
  rw [niceCeiling, hnot, hfinite]
  rfl

theorem niceCeiling_of_not_pos (hmax : ¬ 0.0 < max) (hnan : max.isNaN = false) :
    niceCeiling max = 1.0 := by
  have hle : Scalar.le max (Scalar.ofNat 0) = true :=
    scalarLe_iff.mpr (Double.le_of_not_lt rfl hnan hmax)
  rw [niceCeiling, hle, Bool.or_true, if_pos rfl]
  rfl

theorem value_pos (hmax : max.isFinite = true) (hpos : 0.0 < max) : 0 < value max :=
  (Double.lt_iff_value_lt rfl hmax).mp hpos

theorem logDecade_le_308 (hmax : max.isFinite = true) (hpos : 0.0 < max) :
    logDecade max ≤ 308 := by
  refine logDecade_le hmax (value_pos hmax hpos) (k := 308) (by norm_num) ?_
  calc value max ≤ 2 ^ 1024 := (Double.value_lt hmax).le
    _ = (2 ^ 128) ^ 8 := by rw [← pow_mul]
    _ ≤ 91 / 100 * (10 ^ 103) ^ 3 := by norm_num
    _ = 91 / 100 * 10 ^ (308 + 1) := by rw [← pow_mul]

theorem logDecade_le_307 (hmax : max.isFinite = true) (hpos : 0.0 < max)
    (hle : max ≤ largestCovered) : logDecade max ≤ 307 := by
  have hvalue := (Double.le_iff_value_le hmax isFinite_largestCovered).mp hle
  have hcovered := value_largestCovered.2
  refine logDecade_le hmax (value_pos hmax hpos) (k := 307) (by norm_num) ?_
  rw [pow_succ', ten_pow_succ]
  generalize (10 : ℚ) ^ 306 = power at *
  linarith

theorem le_logDecade_of_lt (hmax : max.isFinite = true) (hlt : largestCovered < max) :
    307 ≤ logDecade max := by
  have hvalue := (Double.lt_iff_value_lt isFinite_largestCovered hmax).mp hlt
  have hcovered := value_largestCovered.1
  have hpos : (0 : ℚ) < 10 ^ 306 := by positivity
  refine le_logDecade hmax (k := 307) ?_
  rw [ten_pow_succ]
  generalize (10 : ℚ) ^ 306 = power at *
  linarith

/-- The ceiling of a maximum that leaves room is a finite candidate. -/
theorem isFinite_niceCeiling (hmax : max.isFinite = true) (hle : max ≤ largestCovered) :
    (niceCeiling max).isFinite = true := by
  by_cases hpos : 0.0 < max
  · rw [niceCeiling_of_pos hmax hpos]
    have hdecade := logDecade_le_307 hmax hpos hle
    rcases hdecade.lt_or_eq with hlt | heq
    · rcases firstCovering_mem max (candidates (logDecade max - 1)) with hself | hmem
      · rwa [hself]
      · exact isFinite_of_mem_candidates (by omega) hmem
    · -- Of the second decade, of which some candidates are infinite, none is reached.
      have hexponent : logDecade max - 1 = 306 := by omega
      have htop := largestCovered_lt.1
      have hcover : max ≤ largestCandidate := Double.le_trans hle (Double.le_of_lt htop)
      have hroom := hasHeadroom_largestCandidate.mpr hle
      have hfront : ∀ c ∈ [1, 2, 5, 10, 25, 50, 75].map (scaled · 306), c < largestCandidate :=
        fun c hc => Double.lt_of_le_of_lt (lower_le hc) htop
      rw [hexponent, candidates_306]
      exact isFinite_of_mem_lower (firstCovering_mem_of_hasHeadroom hcover hroom hfront)
  · rw [niceCeiling_of_not_pos hpos (Double.isNaN_of_isFinite hmax)]
    rfl

theorem hasHeadroom_eq_false {top : Float} (hlt : largestCovered < max)
    (hle : Scalar.mul top headroom ≤ largestCovered) :
    hasHeadroom max top = false := by
  rw [hasHeadroom, Bool.eq_false_iff, ne_eq, scalarLe_iff]
  exact fun hroom => Double.not_le_of_lt hlt (Double.le_trans hroom hle)

theorem niceCeiling_eq_infinity (hmax : max.isFinite = true) (hlt : largestCovered < max) :
    niceCeiling max = 1.0 / 0.0 := by
  have hpos : 0.0 < max := Double.lt_of_lt_of_le largestCovered_pos (Double.le_of_lt hlt)
  have hleast := le_logDecade_of_lt hmax hlt
  have hmost := logDecade_le_308 hmax hpos
  rw [niceCeiling_of_pos hmax hpos]
  obtain hexponent | hexponent : logDecade max - 1 = 306 ∨ logDecade max - 1 = 307 := by omega
  · have hfinite : largestCandidate.isFinite = true := isFinite_scaled (by decide) le_rfl
    have hroom := hasHeadroom_eq_false hlt (Double.le_self isNaN_largestCovered)
    rw [hexponent, candidates_306]
    exact firstCovering_eq_infinity hmax hlt (fun c hc => lower_le hc) hroom hfinite
      (fun c hc => upper_le_largestCandidate hc)
  · have hten : (scaled 10 307 : Float).isFinite = true := by
      rw [scaled_ten_eq]
      decide
    have hroom : Scalar.mul (scaled 10 307) headroom ≤ largestCovered := by
      rw [scaled_ten_eq, largestCovered_eq]
      decide
    rw [hexponent, candidates_307]
    exact firstCovering_eq_infinity hmax hlt (fun c hc => upper_le hc)
      (hasHeadroom_eq_false hlt hroom) hten (fun c hc => nomatch hc)

/-- A ceiling is finite exactly up to the largest maximum that is covered. -/
theorem isFinite_niceCeiling_iff (hmax : max.isFinite = true) :
    (niceCeiling max).isFinite = true ↔ max ≤ largestCovered := by
  refine ⟨fun hfinite => ?_, isFinite_niceCeiling hmax⟩
  refine Double.le_of_not_lt isNaN_largestCovered (Double.isNaN_of_isFinite hmax) fun hlt => ?_
  rw [niceCeiling_eq_infinity hmax hlt] at hfinite
  exact absurd hfinite (by decide)

theorem le_niceCeiling (hmax : max.isFinite = true) :
    0.0 < niceCeiling max ∧ max ≤ niceCeiling max := by
  have hnan := Double.isNaN_of_isFinite hmax
  by_cases hpos : 0.0 < max
  · rw [niceCeiling_of_pos hmax hpos]
    have hle := le_firstCovering hnan (candidates (logDecade max - 1))
    exact ⟨Double.lt_of_lt_of_le hpos hle, hle⟩
  · rw [niceCeiling_of_not_pos hpos hnan]
    have hone : (0.0 : Float) < 1.0 := by decide
    exact ⟨hone, Double.le_trans (Double.le_of_not_lt rfl hnan hpos) (Double.le_of_lt hone)⟩

end NiceCeiling

/-! ## Ceilings of series -/

/-- Whether a policy has a limit to use. -/
def Policy.hasLimit : Policy → Bool
  | .limit value => isUsable value
  | .auto => false

section Series

variable (policy : Policy) (series : List Float)

/-- Largest finite sample, if it is positive. -/
def observedMax : Float :=
  Series.largest 0.0 (series.filter Float.isFinite)

theorem observedMax_eq_or_mem :
    observedMax series = 0.0 ∨
      observedMax series ∈ series ∧ (observedMax series).isFinite = true := by
  have hfloor : (0.0 : Float).isNaN = false := rfl
  exact (Series.largest_eq_or_mem hfloor _).imp_right List.mem_filter.mp

theorem isFinite_observedMax : (observedMax series).isFinite = true := by
  rcases observedMax_eq_or_mem series with hzero | ⟨-, hfinite⟩
  · rw [hzero]
    rfl
  · exact hfinite

theorem le_observedMax {sample : Float} (hmem : sample ∈ series)
    (hfinite : sample.isFinite = true) : sample ≤ observedMax series :=
  Series.le_largest rfl (List.mem_filter.mpr ⟨hmem, hfinite⟩) (Double.isNaN_of_isFinite hfinite)

theorem observedMax_le_iff {bound : Float} (hbound : 0.0 ≤ bound) :
    observedMax series ≤ bound ↔
      ∀ sample ∈ series, sample.isFinite = true → sample ≤ bound := by
  constructor
  · intro hle sample hmem hfinite
    exact Double.le_trans (le_observedMax series hmem hfinite) hle
  · intro hall
    rcases observedMax_eq_or_mem series with hzero | ⟨hmem, hfinite⟩
    · rwa [hzero]
    · exact hall _ hmem hfinite

theorem ceilingFor_of_hasLimit (h : policy.hasLimit = true) :
    0.0 < policy.ceilingFor series ∧ (policy.ceilingFor series).isFinite = true := by
  cases policy with
  | auto => exact absurd h (by decide)
  | limit value =>
      have husable : Policy.isUsable value = true := h
      have hceiling : Policy.ceilingFor (.limit value) series = value := by
        rw [Policy.ceilingFor, Policy.ceiling, if_pos husable]
      rw [hceiling]
      simpa only [Policy.isUsable, Bool.and_eq_true, decide_eq_true_eq] using husable

theorem ceilingFor_of_not_hasLimit (h : policy.hasLimit = false) :
    policy.ceilingFor series = niceCeiling (observedMax series) := by
  cases policy with
  | auto => rfl
  | limit value =>
      have husable : Policy.isUsable value = false := h
      rw [Policy.ceilingFor, Policy.ceiling, husable]
      rfl

/-- The ceiling of a series is positive. Without a limit to use it covers every finite
sample, and it is finite exactly if none of them is past nine tenths of the largest candidate;
a limit that is used is always finite. -/
theorem isFinite_ceilingFor_iff :
    0.0 < policy.ceilingFor series ∧
    (policy.hasLimit = false →
      ∀ sample ∈ series, sample.isFinite = true → sample ≤ policy.ceilingFor series) ∧
    ((policy.ceilingFor series).isFinite = true ↔ policy.hasLimit = true ∨
      ∀ sample ∈ series, sample.isFinite = true → sample ≤ largestCovered) := by
  have hmax := isFinite_observedMax series
  obtain ⟨hpos, hcovers⟩ := le_niceCeiling hmax
  cases hlimit : policy.hasLimit with
  | true =>
      obtain ⟨hlimitpos, hfinite⟩ := ceilingFor_of_hasLimit policy series hlimit
      refine ⟨hlimitpos, fun hnone => ?_, iff_of_true hfinite (.inl rfl)⟩
      exact absurd hnone (by decide)
  | false =>
      have hcovered : 0.0 ≤ largestCovered := Double.le_of_lt largestCovered_pos
      rw [ceilingFor_of_not_hasLimit policy series hlimit, isFinite_niceCeiling_iff hmax,
        observedMax_le_iff series hcovered]
      refine ⟨hpos, fun _ sample hmem hfinite => ?_, by simp⟩
      exact Double.le_trans (le_observedMax series hmem hfinite) hcovers

/-- NaN does not count; fifty covers the rest. -/
theorem isFinite_ceilingFor_iff_fifty :
    Policy.auto.hasLimit = false ∧ (37.0 : Float).isFinite = true ∧
      Policy.auto.ceilingFor [1.0, 37.0, 0.0 / 0.0] = 50.0 ∧
      37.0 ≤ Policy.auto.ceilingFor [1.0, 37.0, 0.0 / 0.0] ∧
      (Policy.auto.ceilingFor [1.0, 37.0, 0.0 / 0.0]).isFinite = true := by
  obtain ⟨-, hcovers, hfinite⟩ := isFinite_ceilingFor_iff .auto [1.0, 37.0, 0.0 / 0.0]
  refine ⟨rfl, rfl, by decide +kernel, hcovers rfl 37.0 (by simp) rfl, hfinite.mpr (.inr ?_)⟩
  decide +kernel

/-- The largest double has no finite ceiling. -/
theorem exists_ceilingFor_not_isFinite :
    ¬ ∀ (policy : Policy) (series : List Float), (policy.ceilingFor series).isFinite = true := by
  intro h
  have hlt := largestCovered_lt.2
  have hfinite : largestDouble.isFinite = true := by decide
  have hmax : observedMax [largestDouble] = largestDouble := by
    rcases observedMax_eq_or_mem [largestDouble] with hzero | ⟨hmem, -⟩
    · have hle := le_observedMax [largestDouble] (List.mem_singleton_self _) hfinite
      rw [hzero] at hle
      exact absurd (Double.le_trans (Double.le_of_lt hlt) hle)
        (Double.not_le_of_lt largestCovered_pos)
    · exact List.mem_singleton.mp hmem
  have hinfinite := niceCeiling_eq_infinity hfinite hlt
  have hceiling := h .auto [largestDouble]
  rw [ceilingFor_of_not_hasLimit .auto [largestDouble] rfl, hmax, hinfinite] at hceiling
  exact absurd hceiling (by decide)

end Series

end Dashboard.Scale
