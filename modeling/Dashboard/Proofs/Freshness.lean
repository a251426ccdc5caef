import Dashboard.Proofs.Tracking

/-! # Late samples

A sweep judges an entity by the sample recorded for it last. A sample observed long ago
that arrives late therefore makes an entity look idle, whatever was observed of it more
recently; samples that arrive in the order of their times do not. -/

namespace Dashboard.Registry

/-- Whether a sample was observed within the last `maxIdle`. -/
def Sample.IsFresh (now : ℕ) (maxIdle : Duration) (sample : Sample) : Prop :=
  now ≤ sample.time + maxIdle.nanos

instance (now : ℕ) (maxIdle : Duration) (sample : Sample) :
    Decidable (sample.IsFresh now maxIdle) :=
  inferInstanceAs (Decidable (now ≤ _))

/-- No sample was observed before one that was recorded earlier. -/
def InOrder (samples : List Sample) : Prop :=
  samples.Pairwise fun earlier later => earlier.time ≤ later.time

theorem InOrder.time_le_last {samples : List Sample} {last : Sample} (h : InOrder samples)
    (hlast : samples.getLast? = some last) :
    ∀ sample ∈ samples, sample.time ≤ last.time := by
  induction samples using List.reverseRecOn with
  | nil => simp at hlast
  | append_singleton front newest _ =>
      intro sample hmem
      obtain rfl : newest = last := by simpa using hlast
      rcases List.mem_append.mp hmem with hfront | hnewest
      · exact (List.pairwise_append.mp h).2.2 sample hfront newest (List.mem_singleton_self _)
      · rw [List.mem_singleton.mp hnewest]

section Sweep

variable (capacity : ℕ) (entity : EntityId) (ops : List Op) (now : ℕ) (maxIdle : Duration)

/-- A sweep removes the entities whose last sample since their removal is not fresh. -/
theorem mem_sweep_run_iff_not_isFresh :
    entity ∈ (((empty capacity).run ops).sweep now maxIdle).2 ↔
      ∃ last, (recalled capacity entity ops).getLast? = some last ∧
        ¬ last.IsFresh now maxIdle := by
  rw [mem_sweep_iff, (keeps_run capacity entity ops).isStale_iff]
  simp only [Sample.IsFresh, Nat.not_le]

/-- A sweep removes every tracked entity without a fresh sample. One that has a fresh
sample is removed exactly if the sample recorded for it last is not fresh, so it stays if
its samples were recorded in the order of their times. -/
theorem mem_sweep_run_iff_late :
    let samples := recalled capacity entity ops
    let registry : Registry := (empty capacity).run ops
    let removed := (registry.sweep now maxIdle).2
    (entity ∈ registry.entities → (∀ sample ∈ samples, ¬ sample.IsFresh now maxIdle) →
      entity ∈ removed) ∧
    ((∃ sample ∈ samples, sample.IsFresh now maxIdle) →
      (entity ∈ removed ↔
        ∃ last, samples.getLast? = some last ∧ ¬ last.IsFresh now maxIdle) ∧
      (InOrder samples → entity ∉ removed)) := by
  intro samples registry removed
  have hremoved := mem_sweep_run_iff_not_isFresh capacity entity ops now maxIdle
  constructor
  · intro htracked hstale
    have hne : samples ≠ [] := (mem_entities_run_iff capacity entity ops).mp htracked
    have hlast := List.getLast?_eq_some_getLast hne
    exact hremoved.mpr ⟨_, hlast, hstale _ (List.getLast_mem hne)⟩
  · rintro ⟨sample, hmem, hfresh⟩
    refine ⟨hremoved, ?_⟩
    intro horder hgone
    obtain ⟨last, hlast, hstale⟩ := hremoved.mp hgone
    have hle := horder.time_le_last hlast sample hmem
    unfold Sample.IsFresh at hfresh hstale
    omega

end Sweep

/-- Two samples of a container, the second one observed a minute before the first. -/
def lateReport : List Op :=
  [.push ⟨"web"⟩ .cpu 1.0 (60 * nanosPerSecond), .push ⟨"web"⟩ .cpu 2.0 0]

/-- A sweep can remove an entity that was observed at this very moment. -/
theorem exists_mem_sweep_of_isFresh :
    ¬ ∀ (capacity : ℕ) (ops : List Op) (entity : EntityId) (now : ℕ) (maxIdle : Duration),
      (∃ sample ∈ recalled capacity entity ops, sample.IsFresh now maxIdle) →
        entity ∉ (((empty capacity).run ops).sweep now maxIdle).2 := by
  intro h
  have hsamples : recalled 4 ⟨"web"⟩ lateReport =
      [⟨.cpu, 1.0, 60 * nanosPerSecond⟩, ⟨.cpu, 2.0, 0⟩] := rfl
  have hfresh : ∃ sample ∈ recalled 4 ⟨"web"⟩ lateReport,
      sample.IsFresh (60 * nanosPerSecond) (Duration.ofSeconds 30) := by
    rw [hsamples]
    exact ⟨_, List.mem_cons_self, Nat.le_add_right _ _⟩
  apply h 4 lateReport ⟨"web"⟩ (60 * nanosPerSecond) (Duration.ofSeconds 30) hfresh
  rw [mem_sweep_run_iff_not_isFresh, hsamples]
  exact ⟨_, rfl, by decide⟩

end Dashboard.Registry
