import Dashboard.Proofs.Retention

/-! # Storage of a ring

The operations of a ring on bare slots and a cursor, of which nothing is known, with every
index, split and remainder checked. From empty slots on they never fail: they do what a
ring does, and reading gives the newest values pushed since the last clear. -/

namespace Dashboard.Ring

variable {α : Type}

/-! ## Runs -/

/-- Something that happens to a ring. -/
inductive Op (α : Type) where
  | push (value : α)
  | extend (values : List α)
  | clear

/-- A ring after one operation. -/
def step (ring : Ring α) : Op α → Ring α
  | .push value => ring.push value
  | .extend values => ring.extend values
  | .clear => ring.clear

/-- A ring after several operations, first to last. -/
def run (ring : Ring α) (ops : List (Op α)) : Ring α :=
  ops.foldl step ring

/-- The values an operation pushes. -/
def Op.values : Op α → List α
  | .push value => [value]
  | .extend values => values
  | .clear => []

/-- Whether an operation drops every value. -/
def Op.isClear : Op α → Bool
  | .clear => true
  | _ => false

/-- Values pushed since the last clear, oldest first. -/
def pushed (ops : List (Op α)) : List α :=
  (ops.rtakeWhile fun op => !op.isClear).flatMap Op.values

theorem run_concat (ring : Ring α) (ops : List (Op α)) (op : Op α) :
    ring.run (ops ++ [op]) = (ring.run ops).step op := by
  rw [run, List.foldl_append]
  rfl

theorem pushed_concat (ops : List (Op α)) (op : Op α) :
    pushed (ops ++ [op]) = if op.isClear then [] else pushed ops ++ op.values := by
  cases hclear : op.isClear <;> simp [pushed, hclear]

theorem capacity_step (ring : Ring α) (op : Op α) : (ring.step op).capacity = ring.capacity := by
  cases op with
  | push value => exact ring.capacity_push value
  | extend values => exact ring.capacity_extend values
  | clear => rfl

theorem toList_step (ring : Ring α) (op : Op α) :
    (ring.step op).toList =
      if op.isClear then [] else newest ring.capacity (ring.toList ++ op.values) := by
  cases op with
  | push value => exact ring.toList_push value
  | extend values => exact ring.toList_extend values
  | clear => exact ring.toList_clear

theorem capacity_run (capacity : ℕ) (ops : List (Op α)) :
    ((empty capacity).run ops).capacity = capacity := by
  induction ops using List.reverseRecOn with
  | nil => rfl
  | append_singleton ops op ih => rw [run_concat, capacity_step, ih]

/-- What a run leaves are the newest of the values pushed since the last clear. -/
theorem toList_run (capacity : ℕ) (ops : List (Op α)) :
    ((empty capacity).run ops).toList = newest capacity (pushed ops) := by
  induction ops using List.reverseRecOn with
  | nil => simp [run, pushed]
  | append_singleton ops op ih =>
      rw [run_concat, toList_step, pushed_concat, capacity_run, ih]
      split
      · rw [newest_nil]
      · rw [newest_newest_append]

theorem oldest_le (ring : Ring α) : ring.oldest ≤ ring.slots.size := by
  have hcursor := ring.cursor_le
  rw [oldest]
  split <;> omega

theorem length_toList (ring : Ring α) : ring.toList.length = ring.size := by
  have hle := ring.oldest_le
  simp only [toList, size, List.length_append, List.length_drop, List.length_take,
    Array.length_toList]
  omega

/-! ## Checked operations -/

/-- An access that is refused. -/
inductive Fault where
  /-- An index that is not one of `size` slots. -/
  | index (index size : ℕ)
  /-- A split past the end of `size` slots. -/
  | split (index size : ℕ)
  /-- A division by zero. -/
  | division

/-- Slots and a cursor without any invariant. -/
structure Storage (α : Type) where
  capacity : ℕ
  slots : Array α
  cursor : ℕ

/-- What a ring stores. -/
def storage (ring : Ring α) : Storage α :=
  ⟨ring.capacity, ring.slots, ring.cursor⟩

namespace Storage

/-- Remainder of a division. -/
def remainder (dividend divisor : ℕ) : Except Fault ℕ :=
  if divisor = 0 then .error .division else .ok (dividend % divisor)

/-- The value in a slot. -/
def read (slots : Array α) (index : ℕ) : Except Fault α :=
  if h : index < slots.size then .ok slots[index] else .error (.index index slots.size)

/-- Slots with one value overwritten. -/
def write (slots : Array α) (index : ℕ) (value : α) : Except Fault (Array α) :=
  if h : index < slots.size then .ok (slots.set index value h)
  else .error (.index index slots.size)

/-- The slots before an index and those from it on. -/
def splitAt (slots : Array α) (index : ℕ) : Except Fault (List α × List α) :=
  if index ≤ slots.size then .ok (slots.toList.take index, slots.toList.drop index)
  else .error (.split index slots.size)

/-- Slots that hold nothing yet. -/
def empty (capacity : ℕ) : Storage α :=
  ⟨capacity, #[], 0⟩

/-- Append a value, over the oldest one if the slots are full. -/
def push (storage : Storage α) (value : α) : Except Fault (Storage α) :=
  if storage.capacity = 0 then .ok storage
  else do
    let slots ←
      if storage.slots.size < storage.capacity then .ok (storage.slots.push value)
      else write storage.slots storage.cursor value
    let cursor ← remainder (storage.cursor + 1) storage.capacity
    .ok { storage with slots, cursor }

/-- Slots after one operation. -/
def step (storage : Storage α) : Op α → Except Fault (Storage α)
  | .push value => storage.push value
  | .extend values => values.foldlM push storage
  | .clear => .ok (empty storage.capacity)

/-- Slots after several operations, first to last. -/
def run (storage : Storage α) (ops : List (Op α)) : Except Fault (Storage α) :=
  ops.foldlM step storage

/-- The newest value, read from the slot behind the cursor. -/
def last? (storage : Storage α) : Except Fault (Option α) :=
  if storage.slots.isEmpty then .ok none
  else do
    let newest ← remainder (storage.cursor + storage.capacity - 1) storage.capacity
    let value ← read storage.slots newest
    .ok (some value)

/-- The newer values, which the cursor has passed, and the older ones. -/
def parts (storage : Storage α) : Except Fault (List α × List α) :=
  splitAt storage.slots (if storage.slots.size < storage.capacity then 0 else storage.cursor)

/-- Values read from the oldest to the newest. -/
def forwards (storage : Storage α) : Except Fault (List α) := do
  let (newer, older) ← storage.parts
  .ok (older ++ newer)

/-- Values read from the newest to the oldest. -/
def backwards (storage : Storage α) : Except Fault (List α) := do
  let (newer, older) ← storage.parts
  .ok (newer.reverse ++ older.reverse)

end Storage

/-! ## No access fails -/

theorem remainder_eq (dividend : ℕ) {divisor : ℕ} (h : divisor ≠ 0) :
    Storage.remainder dividend divisor = .ok (dividend % divisor) :=
  if_neg h

theorem push_storage (ring : Ring α) (value : α) :
    ring.storage.push value = .ok (ring.push value).storage := by
  by_cases hzero : ring.capacity = 0
  · simp [Storage.push, storage, push, hzero]
  by_cases hroom : ring.slots.size < ring.capacity
  · simp [Storage.push, storage, push, hzero, hroom, remainder_eq, bind, Except.bind]
  · have hcursor : ring.cursor < ring.slots.size := by
      have := ring.cursor_le
      omega
    simp [Storage.push, storage, push, hzero, hroom, Storage.write, hcursor, remainder_eq, bind,
      Except.bind]

theorem foldlM_push_storage (ring : Ring α) (values : List α) :
    values.foldlM Storage.push ring.storage = .ok (ring.extend values).storage := by
  induction values generalizing ring with
  | nil => rfl
  | cons value values ih =>
      rw [List.foldlM_cons, push_storage]
      exact ih (ring.push value)

theorem step_storage (ring : Ring α) (op : Op α) :
    ring.storage.step op = .ok (ring.step op).storage := by
  cases op with
  | push value => exact ring.push_storage value
  | extend values => exact ring.foldlM_push_storage values
  | clear => rfl

theorem run_storage (ring : Ring α) (ops : List (Op α)) :
    ring.storage.run ops = .ok (ring.run ops).storage := by
  induction ops generalizing ring with
  | nil => rfl
  | cons op ops ih =>
      rw [Storage.run, List.foldlM_cons, step_storage]
      exact ih (ring.step op)

/-- The slot behind the cursor holds a value, unless the ring is empty. -/
theorem behind_cursor_lt (ring : Ring α) (hpos : 0 < ring.slots.size) :
    (ring.cursor + ring.capacity - 1) % ring.capacity < ring.slots.size := by
  have hsize := ring.size_le
  by_cases hroom : ring.slots.size < ring.capacity
  · have hcursor := ring.cursor_of_filling hroom
    rw [hcursor, Nat.sub_add_comm hpos, Nat.add_mod_right, Nat.mod_eq_of_lt (by omega)]
    omega
  · have hfull : ring.slots.size = ring.capacity := by omega
    rw [hfull]
    exact Nat.mod_lt _ (by omega)

theorem last?_storage (ring : Ring α) : ring.storage.last? = .ok ring.last? := by
  by_cases hnil : ring.slots = #[]
  · simp [Storage.last?, storage, last?, hnil]
  · have hpos : 0 < ring.slots.size := Array.size_pos_iff.mpr hnil
    have hcapacity : ring.capacity ≠ 0 := by
      have := ring.size_le
      omega
    have hindex := ring.behind_cursor_lt hpos
    simp [Storage.last?, storage, last?, hnil, remainder_eq, hcapacity, Storage.read, hindex,
      bind, Except.bind]

theorem parts_storage (ring : Ring α) :
    ring.storage.parts =
      .ok (ring.slots.toList.take ring.oldest, ring.slots.toList.drop ring.oldest) :=
  if_pos ring.oldest_le

theorem forwards_storage (ring : Ring α) : ring.storage.forwards = .ok ring.toList := by
  rw [Storage.forwards, parts_storage]
  rfl

theorem backwards_storage (ring : Ring α) : ring.storage.backwards = .ok ring.toList.reverse := by
  rw [Storage.backwards, parts_storage, toList, List.reverse_append]
  rfl

/-- From empty slots on, no operation and no way of reading fails, and the slots are those
of a ring. It holds the newest of the values pushed since the last clear, as many as there
are up to the capacity: forwards in the order they were pushed, backwards in the reverse
order, the newest one last. -/
theorem newest_run (capacity : ℕ) (ops : List (Op α)) :
    let ring := (empty capacity : Ring α).run ops
    let kept := newest capacity (pushed ops)
    (Storage.empty capacity).run ops = .ok ring.storage ∧
    ring.toList = kept ∧
    ring.storage.forwards = .ok kept ∧
    ring.storage.backwards = .ok kept.reverse ∧
    ring.last? = kept.getLast? ∧
    ring.storage.last? = .ok kept.getLast? ∧
    ring.size = kept.length ∧
    kept.length = min capacity (pushed ops).length := by
  intro ring kept
  have hlist : ring.toList = kept := toList_run capacity ops
  have hlast : ring.last? = kept.getLast? := by rw [last?_eq_getLast?, hlist]
  refine ⟨run_storage (empty capacity) ops, hlist, ?_, ?_, hlast, ?_, ?_, length_newest _ _⟩
  · rw [forwards_storage, hlist]
  · rw [backwards_storage, hlist]
  · rw [last?_storage, hlast]
  · rw [← length_toList, hlist]

end Dashboard.Ring
