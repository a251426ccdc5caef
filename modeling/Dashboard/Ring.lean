/-! # Bounded history

A ring keeps the newest values pushed onto it, up to a fixed capacity. Slots
fill in order until the capacity is reached; from then on the cursor walks
round them and each push overwrites the oldest value. The invariants of the
cursor are fields, so every index a ring uses is in range. -/

namespace Dashboard

universe u

/-- The last `count` elements of a list. -/
def newest {α : Type u} (count : Nat) (values : List α) : List α :=
  values.drop (values.length - count)

/-- The newest values pushed, at most `capacity` of them. Equality is equality
of the stored slots, the cursor and the capacity. -/
structure Ring (α : Type u) where
  /-- Most values held at once. -/
  capacity : Nat
  /-- Values as stored: oldest first only until the first wrap. -/
  slots : Array α
  /-- Slot the next push writes to. -/
  cursor : Nat
  size_le : slots.size ≤ capacity
  cursor_of_filling : slots.size < capacity → cursor = slots.size
  cursor_le : cursor ≤ capacity - 1
deriving DecidableEq

namespace Ring

variable {α : Type u}

/-- A ring that holds nothing yet. -/
def empty (capacity : Nat) : Ring α where
  capacity
  slots := #[]
  cursor := 0
  size_le := Nat.zero_le _
  cursor_of_filling := fun _ => rfl
  cursor_le := Nat.zero_le _

private theorem next_le {capacity : Nat} (h : 0 < capacity) (cursor : Nat) :
    (cursor + 1) % capacity ≤ capacity - 1 := by
  have := Nat.mod_lt (cursor + 1) h
  omega

/-- Append a value, evicting the oldest one from a full ring. A ring of
capacity zero discards it. -/
def push (ring : Ring α) (value : α) : Ring α :=
  if hzero : ring.capacity = 0 then ring
  else if hroom : ring.slots.size < ring.capacity then
    { capacity := ring.capacity
      slots := ring.slots.push value
      cursor := (ring.cursor + 1) % ring.capacity
      size_le := by simp only [Array.size_push]; omega
      cursor_of_filling := by
        intro h
        have hc := ring.cursor_of_filling hroom
        simp only [Array.size_push] at h ⊢
        rw [Nat.mod_eq_of_lt (by omega), hc]
      cursor_le := next_le (by omega) _ }
  else
    { capacity := ring.capacity
      slots := ring.slots.set ring.cursor value (by
        have := ring.cursor_le
        omega)
      cursor := (ring.cursor + 1) % ring.capacity
      size_le := by simpa using ring.size_le
      cursor_of_filling := by
        intro h
        simp only [Array.size_set] at h
        omega
      cursor_le := next_le (by omega) _ }

/-- Append several values, first to last. -/
def extend (ring : Ring α) (values : List α) : Ring α :=
  values.foldl push ring

/-- Drop every value, keeping the capacity. -/
def clear (ring : Ring α) : Ring α :=
  empty ring.capacity

/-- Number of values held. -/
def size (ring : Ring α) : Nat :=
  ring.slots.size

/-- Whether nothing is held. -/
def isEmpty (ring : Ring α) : Bool :=
  ring.slots.isEmpty

/-- Slot of the oldest value: the first one until the ring is full. -/
def oldest (ring : Ring α) : Nat :=
  if ring.slots.size < ring.capacity then 0 else ring.cursor

/-- Values held, oldest first. -/
def toList (ring : Ring α) : List α :=
  ring.slots.toList.drop ring.oldest ++ ring.slots.toList.take ring.oldest

/-- Newest value held. -/
def last? (ring : Ring α) : Option α :=
  if ring.slots.isEmpty then none
  else ring.slots[(ring.cursor + ring.capacity - 1) % ring.capacity]?

@[simp]
theorem capacity_push (ring : Ring α) (value : α) :
    (ring.push value).capacity = ring.capacity := by
  unfold push
  split
  · rfl
  · split <;> rfl

@[simp]
theorem toList_empty (capacity : Nat) : (empty capacity : Ring α).toList = [] := by
  simp [toList, empty]

@[simp]
theorem toList_clear (ring : Ring α) : ring.clear.toList = [] :=
  toList_empty _

/-- A ring of capacity zero holds nothing. -/
theorem slots_eq_empty (ring : Ring α) (h : ring.capacity = 0) : ring.slots = #[] := by
  have := ring.size_le
  exact Array.eq_empty_of_size_eq_zero (by omega)

/-- Until a ring is full, its slots are in order. -/
theorem toList_of_filling (ring : Ring α) (h : ring.slots.size < ring.capacity) :
    ring.toList = ring.slots.toList := by
  simp [toList, oldest, h]

/-- The slots of a full ring are in order from the cursor on. -/
theorem toList_of_full (ring : Ring α) (h : ring.slots.size = ring.capacity) :
    ring.toList = ring.slots.toList.drop ring.cursor ++ ring.slots.toList.take ring.cursor := by
  simp [toList, oldest, h]

/-- What a push leaves is the newest values, in the order they were pushed. -/
theorem toList_push (ring : Ring α) (value : α) :
    (ring.push value).toList = newest ring.capacity (ring.toList ++ [value]) := by
  by_cases hzero : ring.capacity = 0
  · simp [push, hzero, newest, toList, ring.slots_eq_empty hzero]
  by_cases hroom : ring.slots.size < ring.capacity
  · have hcursor := ring.cursor_of_filling hroom
    have hpush : (ring.push value).slots = ring.slots.push value := by simp [push, hzero, hroom]
    have hnew : newest ring.capacity (ring.toList ++ [value]) = ring.slots.toList ++ [value] := by
      have hle : ring.slots.toList.length + 1 ≤ ring.capacity := hroom
      rw [ring.toList_of_filling hroom, newest, List.length_append, List.length_singleton,
        Nat.sub_eq_zero_of_le hle, List.drop_zero]
    rw [hnew]
    by_cases hlast : ring.slots.size + 1 < ring.capacity
    · rw [toList_of_filling _ (by simpa [hpush] using hlast), hpush, Array.toList_push]
    · have hfull : ring.slots.size + 1 = ring.capacity := by omega
      have hwrap : (ring.push value).cursor = 0 := by
        simp [push, hzero, hroom, hcursor, hfull]
      rw [toList_of_full _ (by simpa [hpush] using hfull), hwrap, hpush]
      simp
  · have hfull : ring.slots.size = ring.capacity := by
      have := ring.size_le
      omega
    have hle := ring.cursor_le
    have hpush : (ring.push value).slots.toList = ring.slots.toList.set ring.cursor value := by
      simp [push, hzero, hroom]
    have hnew : newest ring.capacity (ring.toList ++ [value]) =
        ring.slots.toList.drop (ring.cursor + 1) ++ ring.slots.toList.take ring.cursor ++
          [value] := by
      have hlen : (ring.toList ++ [value]).length = ring.capacity + 1 := by
        simp [ring.toList_of_full hfull, hfull]
        omega
      have hne : 1 ≤ (ring.slots.toList.drop ring.cursor).length := by
        simp [hfull]
        omega
      rw [newest, hlen, Nat.add_sub_cancel_left, ring.toList_of_full hfull, List.append_assoc,
        List.drop_append_of_le_length hne, List.drop_drop, List.append_assoc]
    rw [hnew, toList_of_full _ (by
      have := congrArg List.length hpush
      simpa [hfull] using this), hpush]
    by_cases hlast : ring.cursor + 1 = ring.capacity
    · have hwrap : (ring.push value).cursor = 0 := by simp [push, hzero, hroom, hlast]
      have hend : ring.slots.toList.drop (ring.cursor + 1) = [] := by simp [hlast, hfull]
      rw [hwrap, hend, List.set_eq_take_append_cons_drop]
      simp [hend, hfull]
      omega
    · have hnext : (ring.push value).cursor = ring.cursor + 1 := by
        simp only [push, hzero, hroom, dite_false]
        exact Nat.mod_eq_of_lt (by omega)
      rw [hnext, List.drop_set_of_lt (by omega), List.take_add_one, List.getElem?_set_self (by
        simp [hfull]
        omega), List.take_set_of_le (by omega)]
      simp

end Ring

end Dashboard
