import Dashboard.Proofs.Retention
import Dashboard.Registry
import Mathlib.Data.List.Induction
import Mathlib.Data.List.Infix

/-! # What a registry remembers

What a registry knows of an entity are the samples pushed for it since a sweep last
removed it. Samples of other entities, and sweeps that keep the entity, leave no
trace in its histories. -/

namespace Dashboard.Registry

/-- Something that happens to a registry. -/
inductive Op where
  | push (entity : EntityId) (metric : Metric) (value : Float) (now : ℕ)
  | sweep (now : ℕ) (maxIdle : Duration)

/-- A registry after one operation. -/
def step (registry : Registry) : Op → Registry
  | .push entity metric value now => registry.push entity metric value now
  | .sweep now maxIdle => (registry.sweep now maxIdle).1

/-- A registry after several operations, first to last. -/
def run (registry : Registry) (ops : List Op) : Registry :=
  ops.foldl step registry

theorem run_concat (registry : Registry) (ops : List Op) (op : Op) :
    registry.run (ops ++ [op]) = (registry.run ops).step op := by
  rw [run, List.foldl_append]
  rfl

/-! ## Reading a run -/

/-- One observation of an entity. -/
structure Sample where
  metric : Metric
  value : Float
  time : ℕ

/-- The sample an operation records for an entity. -/
def Op.sample? (entity : EntityId) : Op → Option Sample
  | .push other metric value now => if other = entity then some ⟨metric, value, now⟩ else none
  | .sweep _ _ => none

/-- Samples pushed for an entity, oldest first. -/
def pushed (entity : EntityId) (ops : List Op) : List Sample :=
  ops.filterMap (Op.sample? entity)

/-- Values of one metric among samples. -/
def valuesOf (metric : Metric) (samples : List Sample) : List Float :=
  (samples.filter fun sample => sample.metric = metric).map Sample.value

/-- Whether an operation makes a registry return an entity as removed. -/
def removes (registry : Registry) (entity : EntityId) : Op → Bool
  | .push _ _ _ _ => false
  | .sweep now maxIdle => (registry.sweep now maxIdle).2.contains entity

/-- Follow a registry, and the operations on it since the last one that removed an
entity. -/
def follow (entity : EntityId) (state : Registry × List Op) (op : Op) : Registry × List Op :=
  (state.1.step op, if state.1.removes entity op then [] else state.2 ++ [op])

/-- Operations on a registry since the last one that removed an entity. -/
def sinceRemoval (registry : Registry) (entity : EntityId) (ops : List Op) : List Op :=
  (ops.foldl (follow entity) (registry, [])).2

theorem pushed_append (entity : EntityId) (front back : List Op) :
    pushed entity (front ++ back) = pushed entity front ++ pushed entity back :=
  List.filterMap_append

theorem fst_foldl_follow (entity : EntityId) (state : Registry × List Op) (ops : List Op) :
    (ops.foldl (follow entity) state).1 = state.1.run ops := by
  induction ops generalizing state with
  | nil => rfl
  | cons op ops ih => exact ih (follow entity state op)

theorem sinceRemoval_concat (registry : Registry) (entity : EntityId) (ops : List Op) (op : Op) :
    registry.sinceRemoval entity (ops ++ [op]) =
      if (registry.run ops).removes entity op then []
      else registry.sinceRemoval entity ops ++ [op] := by
  rw [sinceRemoval, List.foldl_append, List.foldl_cons, List.foldl_nil, follow, fst_foldl_follow]
  rfl

theorem sinceRemoval_suffix (registry : Registry) (entity : EntityId) (ops : List Op) :
    registry.sinceRemoval entity ops <:+ ops := by
  induction ops using List.reverseRecOn with
  | nil => exact List.suffix_rfl
  | append_singleton ops op ih =>
      rw [sinceRemoval_concat]
      split
      · exact List.nil_suffix
      · obtain ⟨front, hfront⟩ := ih
        exact ⟨front, by rw [← List.append_assoc, hfront]⟩

/-- The newest sample of a tracked entity is the newest one ever pushed for it. -/
theorem getLast?_pushed_sinceRemoval (registry : Registry) {entity : EntityId} {ops : List Op}
    (h : pushed entity (registry.sinceRemoval entity ops) ≠ []) :
    (pushed entity (registry.sinceRemoval entity ops)).getLast? =
      (pushed entity ops).getLast? := by
  obtain ⟨front, hfront⟩ := registry.sinceRemoval_suffix entity ops
  conv_rhs => rw [← hfront, pushed_append, List.getLast?_append_of_ne_nil _ h]

/-! ## One step -/

section Step

variable (registry : Registry) (entity : EntityId) (now : ℕ) (maxIdle : Duration)

theorem getElem?_histories_push (other : EntityId) (metric : Metric) (value : Float) :
    (registry.push other metric value now).histories[entity]? =
      if other = entity then
        some ((registry.histories[entity]?.getD (History.empty registry.capacity now)).push
          metric value now)
      else registry.histories[entity]? := by
  simp only [push, Std.TreeMap.getElem?_insert, Std.compare_eq_iff_eq]
  split
  · next h => rw [h]
  · rfl

theorem getElem?_histories_sweep :
    (registry.sweep now maxIdle).1.histories[entity]? =
      registry.histories[entity]?.filter fun history => !isStale now maxIdle history :=
  Std.TreeMap.getElem?_filter'

theorem mem_sweep_iff :
    entity ∈ (registry.sweep now maxIdle).2 ↔
      ∃ history, registry.histories[entity]? = some history ∧
        isStale now maxIdle history = true := by
  simp only [sweep, Std.TreeMap.mem_keys, Std.TreeMap.mem_iff_isSome_getElem?,
    Std.TreeMap.getElem?_filter', Option.isSome_filter, Option.any_eq_true]

theorem isStale_iff (history : History) :
    isStale now maxIdle history = true ↔ history.lastSeen + maxIdle.nanos < now := by
  simp only [isStale, decide_eq_true_eq]
  omega

/-- A sweep leaves the histories of the entities it does not remove untouched. -/
theorem getElem?_histories_sweep_eq :
    (registry.sweep now maxIdle).1.histories[entity]? =
      if entity ∈ (registry.sweep now maxIdle).2 then none else registry.histories[entity]? := by
  rw [getElem?_histories_sweep]
  cases hkept : registry.histories[entity]? with
  | none => simp
  | some history =>
      cases hstale : isStale now maxIdle history <;> simp [mem_sweep_iff, hkept, hstale]

end Step

/-! ## What samples leave behind -/

/-- A history holds the newest values of each metric among samples. -/
def HoldsNewest (history : History) (capacity : ℕ) (samples : List Sample) : Prop :=
  ∀ metric, (history.ring metric).capacity = capacity ∧
    (history.ring metric).toList = newest capacity (valuesOf metric samples)

/-- What a registry keeps of an entity for which these samples were pushed since it
was last removed. -/
inductive Keeps (capacity : ℕ) : List Sample → Option History → Prop
  | untracked : Keeps capacity [] none
  | tracked {samples : List Sample} {last : Sample} {history : History}
      (newest : samples.getLast? = some last) (seen : history.lastSeen = last.time)
      (holds : HoldsNewest history capacity samples) : Keeps capacity samples (some history)

theorem ring_empty (capacity now : ℕ) (metric : Metric) :
    (History.empty capacity now).ring metric = Ring.empty capacity := by
  simp [History.ring, History.empty]

theorem ring_push (history : History) (metric other : Metric) (value : Float) (now : ℕ) :
    (history.push metric value now).ring other =
      if metric = other then (history.ring metric).push value else history.ring other := by
  simp only [History.ring, History.push, Fin.getElem_fin, Vector.getElem_set]
  by_cases h : metric = other
  · simp [h]
  · have hindex : (metric.index : ℕ) ≠ other.index := fun heq =>
      h (Metric.index_injective (Fin.ext heq))
    simp [h, hindex]

theorem holdsNewest_empty (capacity now : ℕ) :
    HoldsNewest (History.empty capacity now) capacity [] := by
  intro metric
  simp [ring_empty, valuesOf]

theorem HoldsNewest.push {history : History} {capacity : ℕ} {samples : List Sample}
    (h : HoldsNewest history capacity samples) (metric : Metric) (value : Float) (now : ℕ) :
    HoldsNewest (history.push metric value now) capacity
      (samples ++ [⟨metric, value, now⟩]) := by
  intro other
  obtain ⟨hcapacity, hlist⟩ := h other
  rw [ring_push]
  split
  · next hsame =>
    subst hsame
    refine ⟨(Ring.capacity_push _ _).trans hcapacity, ?_⟩
    calc
      ((history.ring metric).push value).toList =
          newest capacity (newest capacity (valuesOf metric samples) ++ [value]) := by
        rw [Ring.toList_push, hcapacity, hlist]
      _ = newest capacity (valuesOf metric samples ++ [value]) := newest_newest_append _ _ _
      _ = newest capacity (valuesOf metric (samples ++ [⟨metric, value, now⟩])) := by
        simp [valuesOf]
  · next hother =>
    refine ⟨hcapacity, hlist.trans ?_⟩
    simp [valuesOf, hother]

theorem Keeps.push {capacity : ℕ} {samples : List Sample} {kept : Option History}
    (h : Keeps capacity samples kept) (metric : Metric) (value : Float) (now : ℕ) :
    Keeps capacity (samples ++ [⟨metric, value, now⟩])
      (some ((kept.getD (History.empty capacity now)).push metric value now)) := by
  let sample : Sample := ⟨metric, value, now⟩
  have hlast : (samples ++ [sample]).getLast? = some sample := List.getLast?_concat
  cases h with
  | untracked => exact .tracked hlast rfl ((holdsNewest_empty capacity now).push metric value now)
  | tracked newest seen holds => exact .tracked hlast rfl (holds.push metric value now)

section Keeps

variable {capacity : ℕ} {samples : List Sample} {kept : Option History}

/-- An operation adds the sample it pushes for the entity, unless it removes the entity. -/
theorem Keeps.step {registry : Registry} {entity : EntityId}
    (h : Keeps capacity samples registry.histories[entity]?)
    (hcapacity : registry.capacity = capacity) (op : Op) :
    Keeps capacity (if registry.removes entity op then [] else samples ++ pushed entity [op])
      (registry.step op).histories[entity]? := by
  subst hcapacity
  cases op with
  | push other metric value now =>
      simp only [removes, Bool.false_eq_true, if_false, Registry.step, getElem?_histories_push]
      split
      · next hsame =>
        have hsample :
            pushed entity [.push other metric value now] = [⟨metric, value, now⟩] := by
          simp [pushed, Op.sample?, hsame]
        rw [hsample]
        exact h.push metric value now
      · next hother =>
        have hnone : pushed entity [.push other metric value now] = [] := by
          simp [pushed, Op.sample?, hother]
        rw [hnone, List.append_nil]
        exact h
  | sweep now maxIdle =>
      simp only [removes, Registry.step, getElem?_histories_sweep_eq, List.contains_iff_mem]
      split
      · exact .untracked
      · have hnone : pushed entity [.sweep now maxIdle] = [] := rfl
        rw [hnone, List.append_nil]
        exact h

theorem Keeps.isSome_iff (h : Keeps capacity samples kept) :
    kept.isSome = true ↔ samples ≠ [] := by
  cases h with
  | untracked => simp
  | tracked newest _ _ =>
      have hne : samples ≠ [] := by
        rintro rfl
        simp at newest
      simp [hne]

theorem Keeps.toList_eq (h : Keeps capacity samples kept) (metric : Metric) :
    (kept.elim [] fun history => (history.ring metric).toList) =
      newest capacity (valuesOf metric samples) := by
  cases h with
  | untracked => simp [valuesOf]
  | tracked _ _ holds => exact (holds metric).2

theorem Keeps.isStale_iff (h : Keeps capacity samples kept) (now : ℕ) (maxIdle : Duration) :
    (∃ history, kept = some history ∧ isStale now maxIdle history = true) ↔
      ∃ last, samples.getLast? = some last ∧ last.time + maxIdle.nanos < now := by
  cases h with
  | untracked => simp
  | tracked newest seen _ => simp [newest, Registry.isStale_iff, seen]

end Keeps

/-! ## Runs -/

section Run

variable (capacity : ℕ) (entity : EntityId) (ops : List Op)

theorem capacity_run : ((empty capacity).run ops).capacity = capacity := by
  induction ops using List.reverseRecOn with
  | nil => rfl
  | append_singleton ops op ih =>
      rw [run_concat]
      cases op <;> exact ih

/-- The samples pushed for an entity since a registry last removed it. -/
def recalled : List Sample :=
  pushed entity ((empty capacity).sinceRemoval entity ops)

theorem keeps_run :
    Keeps capacity (recalled capacity entity ops)
      ((empty capacity).run ops).histories[entity]? := by
  induction ops using List.reverseRecOn with
  | nil =>
      have hnone : (empty capacity).histories[entity]? = none := Std.TreeMap.getElem?_emptyc
      rw [run, List.foldl_nil, hnone]
      exact .untracked
  | append_singleton ops op ih =>
      have hstep := ih.step (capacity_run capacity ops) op
      rw [recalled, sinceRemoval_concat, run_concat]
      split
      · next hremoved => simpa [hremoved, pushed] using hstep
      · next hkept =>
        rw [pushed_append]
        simpa [hkept, recalled] using hstep

theorem mem_entities_run_iff :
    entity ∈ ((empty capacity).run ops).entities ↔ recalled capacity entity ops ≠ [] := by
  rw [entities, Std.TreeMap.mem_keys, Std.TreeMap.mem_iff_isSome_getElem?]
  exact (keeps_run capacity entity ops).isSome_iff

/-- A sweep after a run returns the entities whose newest sample is too old. -/
theorem mem_sweep_run_iff (now : ℕ) (maxIdle : Duration) :
    entity ∈ (((empty capacity).run ops).sweep now maxIdle).2 ↔
      entity ∈ ((empty capacity).run ops).entities ∧
        ∃ last, (pushed entity ops).getLast? = some last ∧ last.time + maxIdle.nanos < now := by
  rw [mem_sweep_iff, (keeps_run capacity entity ops).isStale_iff, mem_entities_run_iff]
  by_cases hnil : recalled capacity entity ops = []
  · simp [hnil]
  · rw [recalled, getLast?_pushed_sinceRemoval _ hnil]
    exact (and_iff_right hnil).symm

/-- After any run of a registry, the history of a metric holds the newest values pushed
for it since the entity was last removed. The tracked entities are those with a sample
since then. A sweep removes and returns those whose newest sample is more than `maxIdle`
old, and touches no other. -/
theorem histories_run :
    let registry : Registry := (empty capacity).run ops
    (∀ entity metric,
      registry.snapshot entity metric =
        newest capacity (valuesOf metric (recalled capacity entity ops)) ∧
      registry.latest? entity metric = (registry.snapshot entity metric).getLast?) ∧
    registry.entities.Pairwise (fun a b => compare a b = .lt) ∧
    (∀ entity, (entity ∈ registry.entities ↔ recalled capacity entity ops ≠ []) ∧
      (registry.contains entity = true ↔ entity ∈ registry.entities)) ∧
    registry.size = registry.entities.length ∧
    ∀ now maxIdle,
      (registry.sweep now maxIdle).2.Pairwise (fun a b => compare a b = .lt) ∧
      ∀ entity,
        (entity ∈ (registry.sweep now maxIdle).2 ↔
          entity ∈ registry.entities ∧ ∃ last, (pushed entity ops).getLast? = some last ∧
            last.time + maxIdle.nanos < now) ∧
        (registry.sweep now maxIdle).1.histories[entity]? =
          if entity ∈ (registry.sweep now maxIdle).2 then none
          else registry.histories[entity]? := by
  intro registry
  refine ⟨?_, Std.TreeMap.ordered_keys, ?_, Std.TreeMap.length_keys.symm, ?_⟩
  · intro entity metric
    have hvalues := (keeps_run capacity entity ops).toList_eq metric
    cases hkept : registry.histories[entity]? with
    | none =>
        simp only [registry, hkept, Option.elim_none] at hvalues
        simp [snapshot, latest?, hkept, ← hvalues]
    | some history =>
        simp only [registry, hkept, Option.elim_some] at hvalues
        simp [snapshot, latest?, hkept, hvalues, Ring.last?_eq_getLast?]
  · intro entity
    refine ⟨mem_entities_run_iff capacity entity ops, ?_⟩
    rw [contains, entities, Std.TreeMap.mem_keys, Std.TreeMap.contains_iff_mem]
  · intro now maxIdle
    exact ⟨Std.TreeMap.ordered_keys, fun entity =>
      ⟨mem_sweep_run_iff capacity entity ops now maxIdle,
        getElem?_histories_sweep_eq registry entity now maxIdle⟩⟩

end Run

end Dashboard.Registry
