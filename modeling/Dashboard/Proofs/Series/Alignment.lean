import Dashboard.Proofs.Tracking

/-! # Sums of aligned series

Series of different lengths are summed from their newest samples backwards. Read from the
end, every sample of the sum is the sum of the samples at its place, in the order of the
series: those too short to reach it take no part, however often the sum has grown. -/

namespace Dashboard

namespace Series

/-- Sample of a series at a distance from its newest one. -/
def fromEnd? (series : List Float) (distance : ℕ) : Option Float :=
  series.reverse[distance]?

/-- Samples at one distance from the newest ones, of the series long enough to have one. -/
def column (all : List (List Float)) (distance : ℕ) : List Float :=
  all.filterMap (fromEnd? · distance)

/-- Sum of samples, first to last. -/
def total (samples : List Float) : Float :=
  samples.foldl (· + ·) 0.0

/-- Length of the longest series. -/
def longest (all : List (List Float)) : ℕ :=
  (all.map List.length).foldl max 0

theorem isSome_fromEnd?_iff (series : List Float) (distance : ℕ) :
    (fromEnd? series distance).isSome = true ↔ distance < series.length := by
  simp [fromEnd?]

theorem column_concat (all : List (List Float)) (series : List Float) (distance : ℕ) :
    column (all ++ [series]) distance =
      column all distance ++ (fromEnd? series distance).toList := by
  rw [column, List.filterMap_append]
  cases h : fromEnd? series distance <;> simp [column, h]

theorem longest_concat (all : List (List Float)) (series : List Float) :
    longest (all ++ [series]) = max (longest all) series.length := by
  simp [longest]

theorem aggregate_concat (all : List (List Float)) (series : List Float) :
    aggregate (all ++ [series]) = addAligned (aggregate all) series := by
  simp [aggregate]

/-! ## One more series -/

section Step

variable (sum series : List Float)

/-- A sum as long as it and a series, filled up with zeros before its oldest sample. -/
def grown : List Float :=
  List.replicate (series.length - sum.length) 0.0 ++ sum

theorem length_grown : (grown sum series).length = max sum.length series.length := by
  simp only [grown, List.length_append, List.length_replicate]
  omega

theorem fromEnd?_grown {distance : ℕ} (h : distance < series.length) :
    fromEnd? (grown sum series) distance = some ((fromEnd? sum distance).getD 0.0) := by
  rw [fromEnd?, fromEnd?, grown, List.reverse_append, List.reverse_replicate]
  by_cases hsum : distance < sum.length
  · rw [List.getElem?_append_left (by simpa using hsum),
      List.getElem?_eq_getElem (by simpa using hsum), Option.getD_some]
  · have hzero : distance - sum.length < series.length - sum.length := by omega
    rw [List.getElem?_append_right (by simpa using hsum),
      List.getElem?_eq_none (l := sum.reverse) (by simpa using hsum), Option.getD_none,
      List.length_reverse, List.getElem?_replicate, if_pos hzero]

theorem fromEnd?_grown_of_le {distance : ℕ} (h : series.length ≤ distance) :
    fromEnd? (grown sum series) distance = fromEnd? sum distance := by
  by_cases hsum : series.length ≤ sum.length
  · rw [grown, Nat.sub_eq_zero_of_le hsum, List.replicate_zero, List.nil_append]
  · rw [fromEnd?, fromEnd?, List.getElem?_eq_none, List.getElem?_eq_none]
    · rw [List.length_reverse]
      omega
    · rw [List.length_reverse, length_grown]
      omega

/-- Read from its end, the sum starts with the added samples and goes on as before. -/
theorem reverse_addAligned :
    (addAligned sum series).reverse =
      List.zipWith (· + ·) ((grown sum series).reverse.take series.length) series.reverse ++
        (grown sum series).reverse.drop series.length := by
  have hle : series.length ≤ (grown sum series).length := by
    rw [length_grown]
    exact le_max_right _ _
  have hlen : ((grown sum series).drop ((grown sum series).length - series.length)).length =
      series.length := by
    rw [List.length_drop]
    omega
  change ((grown sum series).take ((grown sum series).length - series.length) ++
    List.zipWith (· + ·) ((grown sum series).drop ((grown sum series).length - series.length))
      series).reverse = _
  rw [List.reverse_append, List.reverse_zipWith hlen, List.take_reverse, List.drop_reverse]

theorem fromEnd?_addAligned (distance : ℕ) :
    fromEnd? (addAligned sum series) distance =
      match fromEnd? series distance with
      | some sample => some ((fromEnd? sum distance).getD 0.0 + sample)
      | none => fromEnd? sum distance := by
  have hlen : (List.zipWith (· + ·) ((grown sum series).reverse.take series.length)
      series.reverse).length = series.length := by
    have hle := length_grown sum series
    simp only [List.length_zipWith, List.length_take, List.length_reverse]
    omega
  rw [fromEnd?, reverse_addAligned]
  by_cases h : distance < series.length
  · have hgrown := fromEnd?_grown sum series h
    obtain ⟨sample, hsample⟩ := Option.isSome_iff_exists.mp
      ((isSome_fromEnd?_iff series distance).mpr h)
    rw [hsample]
    rw [fromEnd?] at hgrown hsample
    rw [List.getElem?_append_left (by omega), List.getElem?_zipWith, List.getElem?_take_of_lt h,
      hgrown, hsample]
  · have hnone : fromEnd? series distance = none := by
      rw [fromEnd?, List.getElem?_eq_none]
      simpa using h
    have hgrown := fromEnd?_grown_of_le sum series (Nat.le_of_not_lt h)
    rw [List.getElem?_append_right (by omega), hlen, List.getElem?_drop,
      Nat.add_sub_cancel' (Nat.le_of_not_lt h), hnone]
    exact hgrown

theorem length_addAligned :
    (addAligned sum series).length = max sum.length series.length := by
  rw [← List.length_reverse, reverse_addAligned]
  have hle := length_grown sum series
  simp only [List.length_append, List.length_zipWith, List.length_take, List.length_drop,
    List.length_reverse]
  omega

end Step

/-! ## Several series -/

theorem length_aggregate (all : List (List Float)) : (aggregate all).length = longest all := by
  induction all using List.reverseRecOn with
  | nil => rfl
  | append_singleton all series ih =>
      rw [aggregate_concat, length_addAligned, longest_concat, ih]

/-- A sample of the sum is the sum of its column; where no series reaches, there is none. -/
theorem fromEnd?_aggregate (all : List (List Float)) (distance : ℕ) :
    fromEnd? (aggregate all) distance =
      if column all distance = [] then none else some (total (column all distance)) := by
  induction all using List.reverseRecOn with
  | nil => rfl
  | append_singleton all series ih =>
      rw [aggregate_concat, fromEnd?_addAligned, column_concat, ih]
      cases fromEnd? series distance with
      | none => simp
      | some sample =>
          by_cases hnil : column all distance = []
          · simp [hnil, total]
          · simp [hnil, total]

theorem column_eq_nil_iff (all : List (List Float)) (distance : ℕ) :
    column all distance = [] ↔ longest all ≤ distance := by
  have hnone : fromEnd? (aggregate all) distance = none ↔ longest all ≤ distance := by
    rw [← length_aggregate, ← Nat.not_lt, ← isSome_fromEnd?_iff]
    simp
  rw [← hnone, fromEnd?_aggregate]
  split <;> simp [*]

theorem addAligned_nil (sum : List Float) : addAligned sum [] = sum := by
  simp [addAligned]

/-- Empty series add nothing, wherever they stand. -/
theorem aggregate_map_filter {ι : Type*} {series : ι → List Float} {isKept : ι → Bool}
    (h : ∀ i, isKept i = false → series i = []) (indices : List ι) :
    aggregate ((indices.filter isKept).map series) = aggregate (indices.map series) := by
  induction indices using List.reverseRecOn with
  | nil => rfl
  | append_singleton indices i ih =>
      rw [List.filter_append, List.map_append, List.map_append, List.map_singleton,
        aggregate_concat]
      cases hkept : isKept i with
      | false => simp [hkept, ih, h i hkept, addAligned_nil]
      | true => simp [hkept, ih, aggregate_concat]

end Series

/-! ## Sums of a registry -/

namespace Registry

section Run

variable (capacity : ℕ) (ops : List Op)

theorem snapshot_run (entity : EntityId) (metric : Metric) :
    ((empty capacity).run ops).snapshot entity metric =
      newest capacity (valuesOf metric (recalled capacity entity ops)) := by
  rw [← (keeps_run capacity entity ops).toList_eq metric, snapshot]
  cases ((empty capacity).run ops).histories[entity]? <;> rfl

/-- Whether a value of a metric is left of those pushed for an entity since it was last
removed. None is if the entity is not tracked, none was pushed or none can be held. -/
def isRemembered (metric : Metric) (entity : EntityId) : Bool :=
  !(newest capacity (valuesOf metric (recalled capacity entity ops))).isEmpty

/-- The sum of several series is as long as the longest of them. Its sample at a distance
from the newest one is the sum, from zero on and in the order of the series, of the samples
at that distance in the series that are longer than that. So empty series add nothing wherever
they stand. A registry, after any run, sums what it remembers of the values pushed for each of
the entities, and those of which it remembers no value of the metric add nothing. -/
theorem aggregate_run :
    (∀ all, (Series.aggregate all).length = Series.longest all ∧
      ∀ distance, Series.fromEnd? (Series.aggregate all) distance =
        if distance < Series.longest all then some (Series.total (Series.column all distance))
        else none) ∧
    (∀ all, Series.aggregate (all.filter fun series => !series.isEmpty) =
      Series.aggregate all) ∧
    (∀ metric entities, ((empty capacity).run ops).aggregate metric entities =
      Series.aggregate (entities.map (((empty capacity).run ops).snapshot · metric))) ∧
    (∀ metric entity, ((empty capacity).run ops).snapshot entity metric =
      newest capacity (valuesOf metric (recalled capacity entity ops))) ∧
    ∀ metric entities, ((empty capacity).run ops).aggregate metric
        (entities.filter (isRemembered capacity ops metric)) =
      ((empty capacity).run ops).aggregate metric entities := by
  refine ⟨?_, ?_, fun _ _ => rfl, ?_, ?_⟩
  · intro all
    refine ⟨Series.length_aggregate all, ?_⟩
    intro distance
    simp only [Series.fromEnd?_aggregate, Series.column_eq_nil_iff, ← Nat.not_lt, ite_not]
  · intro all
    have hempty : ∀ series : List Float, (!series.isEmpty) = false → id series = [] := by simp
    simpa only [List.map_id] using Series.aggregate_map_filter hempty all
  · intro metric entity
    exact snapshot_run capacity ops entity metric
  · intro metric entities
    apply Series.aggregate_map_filter
    intro entity hnone
    rw [snapshot_run]
    simpa [isRemembered] using hnone

end Run

end Registry

end Dashboard
