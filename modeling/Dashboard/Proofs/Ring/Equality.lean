import Dashboard.Proofs.Ring.Storage
import Mathlib.Data.Nat.ModEq

/-! # Equality of rings

Rings are equal if they store the same: capacity, slots and cursor. The cursor of a ring
counts the values pushed since the last clear, up to multiples of its capacity, and the slots
are the contents turned by it. So equality says more than equal contents once a ring is
full, and nothing more before. -/

namespace Dashboard.Ring

variable {α : Type}

/-! ## The cursor counts the pushes -/

theorem cursor_lt (ring : Ring α) (hpos : 0 < ring.capacity) : ring.cursor < ring.capacity := by
  have := ring.cursor_le
  omega

theorem cursor_push (ring : Ring α) (value : α) (hpos : 0 < ring.capacity) :
    (ring.push value).cursor = (ring.cursor + 1) % ring.capacity := by
  rw [push, dif_neg hpos.ne']
  split <;> rfl

theorem cursor_extend (ring : Ring α) (values : List α) (hpos : 0 < ring.capacity) :
    (ring.extend values).cursor = (ring.cursor + values.length) % ring.capacity := by
  induction values generalizing ring with
  | nil => exact (Nat.mod_eq_of_lt (ring.cursor_lt hpos)).symm
  | cons value values ih =>
      have hnext := ih (ring.push value) (by rwa [capacity_push])
      rw [capacity_push, cursor_push ring value hpos, Nat.mod_add_mod] at hnext
      rw [List.length_cons, Nat.add_comm values.length, ← Nat.add_assoc]
      exact hnext

theorem cursor_step (ring : Ring α) (op : Op α) (hpos : 0 < ring.capacity) :
    (ring.step op).cursor =
      if op.isClear then 0 else (ring.cursor + op.values.length) % ring.capacity := by
  cases op with
  | push value => exact ring.cursor_push value hpos
  | extend values => exact ring.cursor_extend values hpos
  | clear => rfl

theorem cursor_run {capacity : ℕ} (hpos : 0 < capacity) (ops : List (Op α)) :
    ((empty capacity).run ops).cursor = (pushed ops).length % capacity := by
  induction ops using List.reverseRecOn with
  | nil => exact (Nat.zero_mod capacity).symm
  | append_singleton ops op ih =>
      rw [run_concat, cursor_step _ _ (by rwa [capacity_run]), pushed_concat, capacity_run, ih]
      split
      · rw [List.length_nil, Nat.zero_mod]
      · rw [Nat.mod_add_mod, List.length_append]

/-! ## Storage and contents -/

theorem eq_iff_storage_eq (ring ring' : Ring α) : ring = ring' ↔ ring.storage = ring'.storage := by
  cases ring
  cases ring'
  simp [storage]

theorem toList_slots_eq_append (ring : Ring α) :
    ring.slots.toList = ring.toList.drop (ring.size - ring.oldest) ++
      ring.toList.take (ring.size - ring.oldest) := by
  have hback : (ring.slots.toList.drop ring.oldest).length = ring.size - ring.oldest := by
    rw [List.length_drop, Array.length_toList, size]
  rw [toList, ← hback, List.drop_left, List.take_left, List.take_append_drop]

/-- The contents and the cursor determine what is stored. -/
theorem eq_of_toList_eq {ring ring' : Ring α} (hcapacity : ring.capacity = ring'.capacity)
    (hcursor : ring.cursor = ring'.cursor) (hlist : ring.toList = ring'.toList) :
    ring = ring' := by
  have hsize : ring.size = ring'.size := by
    rw [← length_toList, hlist, length_toList]
  have holdest : ring.oldest = ring'.oldest := by
    have hslots : ring.slots.size = ring'.slots.size := hsize
    rw [oldest, oldest, hslots, hcapacity, hcursor]
  have hslots : ring.slots.toList = ring'.slots.toList := by
    rw [toList_slots_eq_append, toList_slots_eq_append, hsize, holdest, hlist]
  rw [eq_iff_storage_eq, storage, storage, hcapacity, hcursor, Array.toList_inj.mp hslots]

theorem eq_of_capacity_eq_zero {ring ring' : Ring α} (hring : ring.capacity = 0)
    (hring' : ring'.capacity = 0) : ring = ring' := by
  have hcursor := ring.cursor_le
  have hcursor' := ring'.cursor_le
  refine eq_of_toList_eq (hring.trans hring'.symm) (by omega) ?_
  rw [toList, toList, ring.slots_eq_empty hring, ring'.slots_eq_empty hring']
  simp

/-! ## Equality after runs -/

section Runs

variable (capacity capacity' : ℕ) (ops ops' : List (Op α))

theorem run_eq_run_iff :
    (empty capacity).run ops = (empty capacity').run ops' ↔
      capacity = capacity' ∧
        (capacity = 0 ∨
          ((empty capacity).run ops).toList = ((empty capacity').run ops').toList ∧
            (pushed ops).length ≡ (pushed ops').length [MOD capacity]) := by
  constructor
  · intro heq
    have hcapacity : capacity = capacity' := by
      rw [← capacity_run capacity ops, heq, capacity_run]
    subst hcapacity
    refine ⟨rfl, (Nat.eq_zero_or_pos capacity).imp id fun hpos => ⟨by rw [heq], ?_⟩⟩
    rw [Nat.ModEq, ← cursor_run hpos, heq, cursor_run hpos]
  · rintro ⟨rfl, rfl | ⟨hlist, hcount⟩⟩
    · exact eq_of_capacity_eq_zero (capacity_run 0 ops) (capacity_run 0 ops')
    rcases Nat.eq_zero_or_pos capacity with rfl | hpos
    · exact eq_of_capacity_eq_zero (capacity_run 0 ops) (capacity_run 0 ops')
    apply eq_of_toList_eq ?_ ?_ hlist
    · rw [capacity_run, capacity_run]
    · rw [cursor_run hpos, cursor_run hpos]
      exact hcount

/-- Until a ring is full, equal contents mean equally many pushes. -/
theorem run_eq_run_iff_of_filling (hroom : (pushed ops).length < capacity) :
    (empty capacity).run ops = (empty capacity').run ops' ↔
      capacity = capacity' ∧
        ((empty capacity).run ops).toList = ((empty capacity').run ops').toList := by
  rw [run_eq_run_iff]
  refine and_congr_right ?_
  rintro rfl
  constructor
  · rintro (hzero | ⟨hlist, -⟩)
    · omega
    · exact hlist
  · intro hlist
    refine .inr ⟨hlist, ?_⟩
    have hkept := congrArg List.length hlist
    rw [toList_run, toList_run, length_newest, length_newest] at hkept
    have hcount : (pushed ops).length = (pushed ops').length := by omega
    rw [hcount]

/-- Two rings compare equal exactly if their capacities are equal and either nothing fits or
they hold the same values and have taken equally many since the last clear, up to multiples
of the capacity. Then nothing that is read from them differs; and until a ring is full, equal
capacities and contents are enough. -/
theorem beq_run_iff [DecidableEq α] :
    let ring : Ring α := (empty capacity).run ops
    let ring' : Ring α := (empty capacity').run ops'
    ((ring == ring') = true ↔
      capacity = capacity' ∧
        (capacity = 0 ∨ ring.toList = ring'.toList ∧
          (pushed ops).length ≡ (pushed ops').length [MOD capacity])) ∧
    ((ring == ring') = true →
      ring.toList = ring'.toList ∧ ring.last? = ring'.last? ∧ ring.size = ring'.size) ∧
    ((pushed ops).length < capacity →
      ((ring == ring') = true ↔ capacity = capacity' ∧ ring.toList = ring'.toList)) := by
  intro ring ring'
  rw [beq_iff_eq]
  refine ⟨run_eq_run_iff capacity capacity' ops ops', ?_,
    run_eq_run_iff_of_filling capacity capacity' ops ops'⟩
  intro heq
  rw [heq]
  exact ⟨rfl, rfl, rfl⟩

end Runs

/-- Equal contents stored from different slots on. -/
example : ((empty 2).run [.extend [1, 2]] == (empty 2).run [.extend [0, 1, 2]]) = false := by
  decide

end Dashboard.Ring
