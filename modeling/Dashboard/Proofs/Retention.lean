import Dashboard.Ring
import Mathlib.Data.List.DropRight

/-! # Retention

What a ring keeps is the newest part of everything pushed onto it, so cutting a
history early never loses a value that a later cut would keep. -/

namespace Dashboard

variable {α : Type*}

/-! ## The newest part of a list -/

theorem newest_eq_rtake (count : ℕ) (values : List α) :
    newest count values = values.rtake count := rfl

theorem newest_of_length_le {count : ℕ} {values : List α} (h : values.length ≤ count) :
    newest count values = values := by
  simp [newest, Nat.sub_eq_zero_of_le h]

@[simp] theorem newest_nil (count : ℕ) : newest count ([] : List α) = [] :=
  newest_of_length_le (Nat.zero_le _)

@[simp] theorem length_newest (count : ℕ) (values : List α) :
    (newest count values).length = min count values.length := by
  simp only [newest, List.length_drop]
  omega

theorem newest_sublist (count : ℕ) (values : List α) :
    (newest count values).Sublist values :=
  List.drop_sublist _ _

/-- The end of a concatenation takes what the second part leaves room for from
the first. -/
theorem newest_append (count : ℕ) (front back : List α) :
    newest count (front ++ back) = newest (count - back.length) front ++ newest count back := by
  have hback : front.length + back.length - count - front.length = back.length - count := by
    omega
  simp only [newest, List.length_append, List.drop_append, hback]
  by_cases h : back.length ≤ count
  · congr 2
    omega
  · have hroom : count - back.length = 0 := by omega
    have hle : front.length ≤ front.length + back.length - count := by omega
    rw [hroom, Nat.sub_zero, List.drop_length, List.drop_eq_nil_of_le hle]

theorem newest_newest (inner outer : ℕ) (values : List α) :
    newest outer (newest inner values) = newest (min outer inner) values := by
  simp only [newest, List.length_drop, List.drop_drop]
  congr 1
  omega

/-- Cutting the front of a concatenation beforehand changes nothing. -/
theorem newest_newest_append (count : ℕ) (front back : List α) :
    newest count (newest count front ++ back) = newest count (front ++ back) := by
  rw [newest_append, newest_append, newest_newest, Nat.min_eq_left (Nat.sub_le _ _)]

/-- Cutting the back of a concatenation beforehand changes nothing. -/
theorem newest_append_newest (count : ℕ) (front back : List α) :
    newest count (front ++ newest count back) = newest count (front ++ back) := by
  rw [newest_append, newest_append, newest_newest, Nat.min_self, length_newest]
  congr 2
  omega

theorem newest_reverse (count : ℕ) (values : List α) :
    newest count values.reverse = (values.take count).reverse := by
  rw [newest_eq_rtake, List.rtake_eq_reverse_take_reverse, List.reverse_reverse]

/-! ## Runs of pushes -/

namespace Ring

@[simp] theorem capacity_empty (capacity : ℕ) : (empty capacity : Ring α).capacity = capacity :=
  rfl

@[simp] theorem capacity_extend (ring : Ring α) (values : List α) :
    (ring.extend values).capacity = ring.capacity := by
  induction values generalizing ring with
  | nil => rfl
  | cons value values ih => exact (ih (ring.push value)).trans (ring.capacity_push value)

theorem length_toList_le (ring : Ring α) : ring.toList.length ≤ ring.capacity := by
  have := ring.size_le
  simp only [toList, List.length_append, List.length_drop, List.length_take,
    Array.length_toList]
  omega

/-- Pushing several values keeps the newest of the old and the new ones. -/
theorem toList_extend (ring : Ring α) (values : List α) :
    (ring.extend values).toList = newest ring.capacity (ring.toList ++ values) := by
  induction values generalizing ring with
  | nil =>
      rw [List.append_nil, newest_of_length_le ring.length_toList_le]
      rfl
  | cons value values ih =>
      calc
        (ring.extend (value :: values)).toList =
            newest ring.capacity ((ring.push value).toList ++ values) := by
          rw [← ring.capacity_push value]
          exact ih (ring.push value)
        _ = newest ring.capacity (ring.toList ++ value :: values) := by
          rw [toList_push, newest_newest_append, List.append_assoc, List.singleton_append]

/-- The newest value is the one in the slot behind the cursor. -/
theorem last?_eq_getLast? (ring : Ring α) : ring.last? = ring.toList.getLast? := by
  by_cases hnil : ring.slots = #[]
  · simp [last?, toList, hnil]
  have hpos : 0 < ring.slots.size := Array.size_pos_iff.mpr hnil
  have hslot : ring.last? =
      ring.slots.toList[(ring.cursor + ring.capacity - 1) % ring.capacity]? := by
    simp [last?, hnil]
  have hsize := ring.size_le
  rw [hslot]
  by_cases hroom : ring.slots.size < ring.capacity
  · have hcursor := ring.cursor_of_filling hroom
    have hindex : (ring.cursor + ring.capacity - 1) % ring.capacity = ring.slots.size - 1 := by
      rw [hcursor, Nat.sub_add_comm hpos, Nat.add_mod_right, Nat.mod_eq_of_lt (by omega)]
    rw [ring.toList_of_filling hroom, hindex, List.getLast?_eq_getElem?, Array.length_toList]
  · have hfull : ring.slots.size = ring.capacity := by omega
    have hle := ring.cursor_le
    rw [ring.toList_of_full hfull]
    rcases Nat.eq_zero_or_pos ring.cursor with hzero | hpast
    · have hindex : (ring.cursor + ring.capacity - 1) % ring.capacity = ring.slots.size - 1 := by
        rw [hzero, Nat.zero_add, Nat.mod_eq_of_lt (by omega), hfull]
      rw [hindex, hzero, List.drop_zero, List.take_zero, List.append_nil,
        List.getLast?_eq_getElem?, Array.length_toList]
    · have hindex : (ring.cursor + ring.capacity - 1) % ring.capacity = ring.cursor - 1 := by
        rw [Nat.sub_add_comm hpast, Nat.add_mod_right, Nat.mod_eq_of_lt (by omega)]
      have hlen : (ring.slots.toList.take ring.cursor).length = ring.cursor := by
        simp only [List.length_take, Array.length_toList]
        omega
      have hne : ring.slots.toList.take ring.cursor ≠ [] := by
        intro h
        rw [h] at hlen
        simp at hlen
        omega
      rw [hindex, List.getLast?_append_of_ne_nil _ hne, List.getLast?_eq_getElem?, hlen,
        List.getElem?_take_of_lt (by omega)]

end Ring

end Dashboard
