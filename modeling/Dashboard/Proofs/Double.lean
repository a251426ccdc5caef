import Mathlib

/-! # Order of doubles

Doubles other than NaN are ordered by their side of zero, then by exponent, then by
mantissa. Both zeros share a place; every other place holds one double. Nothing compares
with NaN. -/

namespace Dashboard.Double

open Float.Model (UnpackedFloat)

/-! ## Places -/

/-- Place of an unpacked double. Exponent and mantissa count backwards below zero. -/
def unpackedPlace : UnpackedFloat → ℤ ×ₗ ℤ ×ₗ ℤ
  | .infinity .negative => toLex (-2, toLex (0, 0))
  | .finite .negative mantissa exponent _ => toLex (-1, toLex (-exponent, -mantissa))
  | .zero _ | .notANumber => toLex (0, toLex (0, 0))
  | .finite .positive mantissa exponent _ => toLex (1, toLex (exponent, mantissa))
  | .infinity .positive => toLex (2, toLex (0, 0))

/-- Place of a double among all doubles. -/
def place (x : Float) : ℤ ×ₗ ℤ ×ₗ ℤ :=
  unpackedPlace x.toModel.unpack

theorem compare_toLex {α β : Type*} [LinearOrder α] [LinearOrder β] (a a' : α) (b b' : β) :
    compare (toLex (a, b)) (toLex (a', b')) = (compare a a').then (compare b b') := by
  rw [Prod.Lex.compare_def]
  rfl

theorem compare_natCast (m n : ℕ) : compare (m : ℤ) (n : ℤ) = compare m n := by
  rw [← cmp_eq_compare, ← cmp_eq_compare]
  exact StrictMono.cmp_map_eq (fun _ _ => Int.ofNat_lt.mpr) m n

theorem compare_neg (a b : ℤ) : compare (-a) (-b) = (compare a b).swap := by
  rw [Int.compare_swap, ← cmp_eq_compare, ← cmp_eq_compare]
  exact StrictAnti.cmp_map_eq (fun _ _ => neg_lt_neg) a b

theorem compare_unpacked {x y : UnpackedFloat} (hx : x.isNaN = false) (hy : y.isNaN = false) :
    x.compare y = some (compare (unpackedPlace x) (unpackedPlace y)) := by
  cases x with
  | notANumber => simp [UnpackedFloat.isNaN] at hx
  | infinity s =>
      cases y with
      | notANumber => simp [UnpackedFloat.isNaN] at hy
      | infinity t => cases s <;> cases t <;> rfl
      | zero t => cases s <;> rfl
      | finite t n f _ => cases s <;> cases t <;> rfl
  | zero s =>
      cases y with
      | notANumber => simp [UnpackedFloat.isNaN] at hy
      | infinity t => cases t <;> rfl
      | zero t => rfl
      | finite t n f _ => cases t <;> rfl
  | finite s m e _ =>
      cases y with
      | notANumber => simp [UnpackedFloat.isNaN] at hy
      | infinity t => cases s <;> cases t <;> rfl
      | zero t => cases s <;> rfl
      | finite t n f _ =>
          cases s with
          | negative =>
              cases t with
              | negative =>
                  -- The larger exponent or mantissa is farther below zero.
                  simp [UnpackedFloat.compare, unpackedPlace, compare_toLex, compare_neg,
                    compare_natCast, Ordering.swap_then]
              | positive => rfl
          | positive =>
              cases t with
              | negative => rfl
              | positive =>
                  simp [UnpackedFloat.compare, unpackedPlace, compare_toLex, compare_natCast]

theorem compare_unpacked_of_isNaN {x y : UnpackedFloat} (h : x.isNaN = true ∨ y.isNaN = true) :
    x.compare y = none := by
  simp only [UnpackedFloat.isNaN_iff] at h
  obtain rfl | rfl := h
  · rfl
  · cases x <;> rfl

/-- The comparison of two doubles, if neither is NaN. -/
theorem compare_eq_some_iff {x y : Float} {order : Ordering} :
    x.toModel.unpack.compare y.toModel.unpack = some order ↔
      x.isNaN = false ∧ y.isNaN = false ∧ compare (place x) (place y) = order := by
  cases hx : x.isNaN with
  | true =>
      rw [compare_unpacked_of_isNaN (.inl hx)]
      simp only [reduceCtorEq, Bool.true_eq_false, false_and]
  | false =>
      cases hy : y.isNaN with
      | true =>
          rw [compare_unpacked_of_isNaN (.inr hy)]
          simp only [reduceCtorEq, Bool.true_eq_false, false_and, and_false]
      | false =>
          rw [compare_unpacked hx hy, Option.some.injEq]
          simp only [place, true_and]

theorem lt_iff {x y : Float} :
    x < y ↔ x.isNaN = false ∧ y.isNaN = false ∧ place x < place y := by
  have hlt : x < y ↔ x.toModel.unpack.compare y.toModel.unpack = some .lt := by
    change decide (x.toModel.unpack.lt y.toModel.unpack = true) = true ↔ _
    simp [UnpackedFloat.lt]
  rw [hlt, compare_eq_some_iff, compare_lt_iff_lt]

theorem le_iff {x y : Float} :
    x ≤ y ↔ x.isNaN = false ∧ y.isNaN = false ∧ place x ≤ place y := by
  have hle : x ≤ y ↔
      ∃ order, x.toModel.unpack.compare y.toModel.unpack = some order ∧ order.isLE = true := by
    change decide (x.toModel.unpack.le y.toModel.unpack = true) = true ↔ _
    simp [UnpackedFloat.le, Option.any_eq_true]
  rw [hle, ← compare_le_iff_le]
  simp only [compare_eq_some_iff, Ordering.isLE_iff_ne_gt]
  constructor
  · rintro ⟨order, ⟨hx, hy, rfl⟩, hne⟩
    exact ⟨hx, hy, hne⟩
  · rintro ⟨hx, hy, hne⟩
    exact ⟨_, ⟨hx, hy, rfl⟩, hne⟩

/-! ## Order -/

section Order

variable {x y z : Float}

theorem isNaN_left_of_le (h : x ≤ y) : x.isNaN = false :=
  (le_iff.mp h).1

theorem isNaN_right_of_le (h : x ≤ y) : y.isNaN = false :=
  (le_iff.mp h).2.1

theorem isNaN_left_of_lt (h : x < y) : x.isNaN = false :=
  (lt_iff.mp h).1

theorem isNaN_right_of_lt (h : x < y) : y.isNaN = false :=
  (lt_iff.mp h).2.1

theorem le_self (h : x.isNaN = false) : x ≤ x :=
  le_iff.mpr ⟨h, h, le_refl _⟩

theorem beq_self (h : x.isNaN = false) : (x == x) = true := by
  change (x.toModel.unpack.compare x.toModel.unpack == some .eq) = true
  rw [compare_unpacked h h, compare_eq_iff_eq.mpr rfl]
  rfl

theorem le_trans (hxy : x ≤ y) (hyz : y ≤ z) : x ≤ z := by
  rw [le_iff] at *
  exact ⟨hxy.1, hyz.2.1, hxy.2.2.trans hyz.2.2⟩

theorem lt_of_lt_of_le (hxy : x < y) (hyz : y ≤ z) : x < z := by
  rw [lt_iff] at *
  rw [le_iff] at hyz
  exact ⟨hxy.1, hyz.2.1, hxy.2.2.trans_le hyz.2.2⟩

theorem lt_of_le_of_lt (hxy : x ≤ y) (hyz : y < z) : x < z := by
  rw [lt_iff] at *
  rw [le_iff] at hxy
  exact ⟨hxy.1, hyz.2.1, hxy.2.2.trans_lt hyz.2.2⟩

instance transLeLe : Trans (fun x y : Float => x ≤ y) (fun x y => x ≤ y) (fun x y => x ≤ y) :=
  ⟨le_trans⟩

instance transLtLe : Trans (fun x y : Float => x < y) (fun x y => x ≤ y) (fun x y => x < y) :=
  ⟨lt_of_lt_of_le⟩

theorem le_of_lt (h : x < y) : x ≤ y := by
  rw [lt_iff] at h
  exact le_iff.mpr ⟨h.1, h.2.1, h.2.2.le⟩

theorem not_le_of_lt (h : x < y) : ¬ y ≤ x := by
  rw [lt_iff] at h
  rw [le_iff]
  exact fun hyx => h.2.2.not_ge hyx.2.2

theorem le_of_not_lt (hx : x.isNaN = false) (hy : y.isNaN = false) (h : ¬ x < y) : y ≤ x := by
  rw [lt_iff] at h
  exact le_iff.mpr ⟨hy, hx, not_lt.mp fun hlt => h ⟨hx, hy, hlt⟩⟩

end Order

/-! ## Infinities -/

section Infinities

variable {x : Float}

theorem eq_of_unpack_eq {y : Float} (h : x.toModel.unpack = y.toModel.unpack) : x = y :=
  Float.toBits_inj.mp <| UInt64.toBitVec_inj.mp <|
    (UnpackedFloat.unpack_inj_of_valid x.toModel.valid y.toModel.valid).mp h

theorem unpack_infinity : (1.0 / 0.0 : Float).toModel.unpack = .infinity .positive := rfl

theorem unpack_negInfinity : (-1.0 / 0.0 : Float).toModel.unpack = .infinity .negative := rfl

/-- The infinities are the outermost places. -/
theorem unpackedPlace_mem_Icc (unpacked : UnpackedFloat) :
    unpackedPlace unpacked ∈
      Set.Icc (unpackedPlace (.infinity .negative)) (unpackedPlace (.infinity .positive)) := by
  cases unpacked with
  | notANumber => simp [unpackedPlace, Prod.Lex.toLex_le_toLex]
  | infinity s => cases s <;> simp [unpackedPlace, Prod.Lex.toLex_le_toLex]
  | zero s => simp [unpackedPlace, Prod.Lex.toLex_le_toLex]
  | finite s m e _ => cases s <;> simp [unpackedPlace, Prod.Lex.toLex_le_toLex]

/-- Only the zeros share a place. -/
theorem unpackedPlace_inj {u v : UnpackedFloat} (hu : u.isNaN = false) (hv : v.isNaN = false)
    (h : unpackedPlace u = unpackedPlace v) : u = v ∨ ∃ s t, u = .zero s ∧ v = .zero t := by
  cases u with
  | notANumber => simp [UnpackedFloat.isNaN] at hu
  | infinity s =>
      cases v with
      | notANumber => simp [UnpackedFloat.isNaN] at hv
      | infinity t => cases s <;> cases t <;> simp [unpackedPlace] at h ⊢
      | zero t => cases s <;> simp [unpackedPlace] at h
      | finite t n f _ => cases s <;> cases t <;> simp [unpackedPlace] at h
  | zero s =>
      cases v with
      | notANumber => simp [UnpackedFloat.isNaN] at hv
      | infinity t => cases t <;> simp [unpackedPlace] at h
      | zero t => exact .inr ⟨s, t, rfl, rfl⟩
      | finite t n f _ => cases t <;> simp [unpackedPlace] at h
  | finite s m e _ =>
      cases v with
      | notANumber => simp [UnpackedFloat.isNaN] at hv
      | infinity t => cases s <;> cases t <;> simp [unpackedPlace] at h
      | zero t => cases s <;> simp [unpackedPlace] at h
      | finite t n f _ => cases s <;> cases t <;> simp_all [unpackedPlace]

/-- Doubles that are at most each other differ at most in the sign of zero. -/
theorem eq_or_zero_of_le_of_le {y : Float} (hxy : x ≤ y) (hyx : y ≤ x) :
    x = y ∨ ∃ s t, x.toModel.unpack = .zero s ∧ y.toModel.unpack = .zero t := by
  have hplace := (le_iff.mp hxy).2.2.antisymm (le_iff.mp hyx).2.2
  exact (unpackedPlace_inj (isNaN_left_of_le hxy) (isNaN_left_of_le hyx) hplace).imp_left
    eq_of_unpack_eq

theorem negInfinity_le (h : x.isNaN = false) : -1.0 / 0.0 ≤ x := by
  rw [le_iff]
  refine ⟨rfl, h, ?_⟩
  rw [place, unpack_negInfinity]
  exact (unpackedPlace_mem_Icc _).1

theorem eq_negInfinity_of_le (h : x ≤ -1.0 / 0.0) : x = -1.0 / 0.0 := by
  rcases eq_or_zero_of_le_of_le h (negInfinity_le (isNaN_left_of_le h)) with heq | ⟨s, t, -, hzero⟩
  · exact heq
  · rw [unpack_negInfinity] at hzero
    cases hzero

theorem le_infinity (h : x.isNaN = false) : x ≤ 1.0 / 0.0 := by
  rw [le_iff]
  refine ⟨h, rfl, ?_⟩
  rw [place, place, unpack_infinity]
  exact (unpackedPlace_mem_Icc _).2

theorem eq_infinity_of_le (h : 1.0 / 0.0 ≤ x) : x = 1.0 / 0.0 := by
  rcases eq_or_zero_of_le_of_le (le_infinity (isNaN_right_of_le h)) h with heq | ⟨s, t, -, hzero⟩
  · exact heq
  · rw [unpack_infinity] at hzero
    cases hzero

/-- A double above another one is finite unless it is infinity. -/
theorem isFinite_of_lt {y : Float} (h : y < x) (hx : x ≠ 1.0 / 0.0) : x.isFinite = true := by
  have hmodel : x.isFinite = x.toModel.unpack.isFinite := rfl
  rw [hmodel]
  cases hunpack : x.toModel.unpack with
  | notANumber =>
      have hnan : x.isNaN = true := UnpackedFloat.isNaN_iff.mpr hunpack
      exact absurd (isNaN_right_of_lt h) (by rw [hnan]; decide)
  | infinity s =>
      cases s with
      | positive => exact absurd (eq_of_unpack_eq (hunpack.trans unpack_infinity.symm)) hx
      | negative =>
          obtain rfl : x = -1.0 / 0.0 := eq_of_unpack_eq (hunpack.trans unpack_negInfinity.symm)
          exact absurd (negInfinity_le (isNaN_left_of_lt h)) (not_le_of_lt h)
  | zero s => rfl
  | finite s m e _ => rfl

end Infinities

/-! ## Operations -/

section Operations

variable (x y : Float)

theorem sub_eq : x - y = ⟨Float.Model.pack
    (UnpackedFloat.sub .binary64 x.toModel.unpack y.toModel.unpack)⟩ :=
  rfl

theorem mul_eq : x * y = ⟨Float.Model.pack
    (UnpackedFloat.mul .binary64 x.toModel.unpack y.toModel.unpack)⟩ :=
  rfl

theorem div_eq : x / y = ⟨Float.Model.pack
    (UnpackedFloat.div .binary64 x.toModel.unpack y.toModel.unpack)⟩ :=
  rfl

end Operations

/-! ## Zeros -/

theorem unpack_pack_zero (sign : UnpackedFloat.Sign) :
    (Float.Model.pack (.zero sign)).unpack = .zero sign := by
  cases sign <;> rfl

theorem isFinite_of_unpack_zero {x : Float} {sign : UnpackedFloat.Sign}
    (h : x.toModel.unpack = .zero sign) : x.isFinite = true := by
  change x.toModel.unpack.isFinite = true
  rw [h]
  rfl

/-- Zeros compare alike. -/
theorem lt_iff_lt_of_unpack_zero {x y : Float} {s t : UnpackedFloat.Sign}
    (hx : x.toModel.unpack = .zero s) (hy : y.toModel.unpack = .zero t) (z : Float) :
    z < x ↔ z < y := by
  have hnum : x.isNaN = y.isNaN := by
    change x.toModel.unpack.isNaN = y.toModel.unpack.isNaN
    rw [hx, hy]
    rfl
  have hplace : place x = place y := by
    rw [place, place, hx, hy]
    rfl
  rw [lt_iff, lt_iff, hnum, hplace]

theorem mul_zero_unpacked (spec : Float.Model.Format) (y : UnpackedFloat) :
    UnpackedFloat.mul spec (.zero .positive) y = .notANumber ∨
      ∃ sign, UnpackedFloat.mul spec (.zero .positive) y = .zero sign := by
  cases y with
  | notANumber => exact .inl rfl
  | infinity s => exact .inl rfl
  | zero s => exact .inr ⟨_, rfl⟩
  | finite s m e _ => exact .inr ⟨_, rfl⟩

/-- A multiple of zero is a zero, or NaN for an infinity or NaN; as an index it is zero. -/
theorem toUInt64_zero_mul (y : Float) : (Float.ofNat 0 * y).toUInt64 = 0 := by
  change (Float.Model.pack (UnpackedFloat.mul _ (.zero .positive) y.toModel.unpack)).toUInt64 = 0
  rcases mul_zero_unpacked .binary64 y.toModel.unpack with h | ⟨sign, h⟩
  · rw [h]
    rfl
  · rw [h, Float.Model.toUInt64, unpack_pack_zero]
    rfl

theorem zero_div_unpacked (spec : Float.Model.Format) (s t : UnpackedFloat.Sign)
    (z : UnpackedFloat) :
    UnpackedFloat.div spec (.zero s) z = UnpackedFloat.div spec (.zero t) z ∨
      ∃ s' t', UnpackedFloat.div spec (.zero s) z = .zero s' ∧
        UnpackedFloat.div spec (.zero t) z = .zero t' := by
  cases z with
  | notANumber => exact .inl rfl
  | infinity u => exact .inr ⟨_, _, rfl, rfl⟩
  | zero u => exact .inl rfl
  | finite u m e _ => exact .inr ⟨_, _, rfl, rfl⟩

/-- Quotients of doubles that are at most each other do not differ more than the doubles. -/
theorem div_eq_or_zero {x y : Float} (hxy : x ≤ y) (hyx : y ≤ x) (z : Float) :
    x / z = y / z ∨
      ∃ s t, (x / z).toModel.unpack = .zero s ∧ (y / z).toModel.unpack = .zero t := by
  rcases eq_or_zero_of_le_of_le hxy hyx with rfl | ⟨s, t, hx, hy⟩
  · exact .inl rfl
  rw [div_eq x, div_eq y, hx, hy]
  rcases zero_div_unpacked .binary64 s t z.toModel.unpack with h | ⟨s', t', hs, ht⟩
  · exact .inl (by rw [h])
  · rw [hs, ht]
    exact .inr ⟨s', t', unpack_pack_zero s', unpack_pack_zero t'⟩

end Dashboard.Double
