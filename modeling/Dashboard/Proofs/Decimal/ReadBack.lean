import Dashboard.Proofs.Decimal.Shortest

/-! # Reading numbers back

In every notation the text of a decimal number is read as a spelling of the same number, so
the text of a positive double is read as that double. -/

namespace Dashboard.Decimal

/-! ## Forms of numerals -/

section Forms

variable {whole fraction rest : List Char}

theorem readUnsigned?_point (hwhole : AreDigits whole) (hne : whole ≠ [])
    (hfraction : AreDigits fraction) (hrest : EndsDigits rest) :
    readUnsigned? (whole ++ '.' :: (fraction ++ rest)) =
      (readPower? rest).map (ofParts whole fraction) := by
  have hpoint : EndsDigits ('.' :: (fraction ++ rest)) := endsDigits_cons.mpr (by decide)
  rw [readUnsigned?, takeWhile_isDigit_append hwhole hpoint,
    dropWhile_isDigit_append hwhole hpoint]
  simp only [takeWhile_isDigit_append hfraction hrest, dropWhile_isDigit_append hfraction hrest]
  simp [hne]

/-- Without an exponent the power is zero. -/
theorem readUnsigned?_fraction (hwhole : AreDigits whole) (hne : whole ≠ [])
    (hfraction : AreDigits fraction) :
    readUnsigned? (whole ++ '.' :: fraction) = some (ofParts whole fraction 0) := by
  have hread := readUnsigned?_point hwhole hne hfraction endsDigits_nil
  rwa [List.append_nil] at hread

theorem readUnsigned?_whole (hwhole : AreDigits whole) (hne : whole ≠ []) (power : ℤ) :
    readUnsigned? (whole ++ 'e' :: (toString power).toList) = some (ofParts whole [] power) := by
  have hend : EndsDigits ('e' :: (toString power).toList) := endsDigits_cons.mpr (by decide)
  rw [readUnsigned?, takeWhile_isDigit_append hwhole hend, dropWhile_isDigit_append hwhole hend]
  change (if whole.isEmpty then none
    else (readPower? ('e' :: (toString power).toList)).map (ofParts whole [])) = _
  rw [if_neg (by simpa using hne), readPower?_toString]
  rfl

theorem ofParts_eq {power : ℤ} {d : Decimal} (hdigits : digitsValue (whole ++ fraction) = d.digits)
    (hexponent : power - fraction.length = d.exponent) : ofParts whole fraction power = d := by
  rw [ofParts, hdigits, hexponent]

end Forms

/-! ## Notations -/

section Notations

variable (d : Decimal)

theorem areDigits_digitText : AreDigits d.digitText :=
  areDigits_toDigits d.digits

theorem digitText_ne_nil : d.digitText ≠ [] :=
  Nat.toDigits_ne_nil

theorem digitsValue_digitText : digitsValue d.digitText = d.digits :=
  digitsValue_toDigits d.digits

/-- The first digit stands before the point. -/
theorem readUnsigned?_exponential : readUnsigned? d.exponential = some d := by
  have hdigits := d.areDigits_digitText
  have hvalue := d.digitsValue_digitText
  obtain ⟨first, tail, htext⟩ := List.exists_cons_of_ne_nil d.digitText_ne_nil
  rw [htext] at hdigits hvalue
  rw [exponential, htext]
  cases tail with
  | nil =>
      refine (readUnsigned?_whole hdigits (List.cons_ne_nil _ _) _).trans (congrArg some ?_)
      apply ofParts_eq
      · rwa [List.append_nil]
      · simp
  | cons next rest =>
      have hfirst : AreDigits [first] := by
        simpa [AreDigits] using hdigits first List.mem_cons_self
      have hrest : AreDigits (next :: rest) := fun c hc => hdigits c (List.mem_cons_of_mem _ hc)
      refine (readUnsigned?_point hfirst (List.cons_ne_nil _ _) hrest
        (endsDigits_cons.mpr (by decide))).trans ?_
      rw [readPower?_toString]
      refine congrArg some (ofParts_eq hvalue ?_)
      simp only [List.length_cons]
      omega

/-- The point stands among the digits, or before zeros that fill up the places. -/
theorem readUnsigned?_positional_of_neg (h : d.exponent < 0) :
    readUnsigned? d.positional = some d := by
  have hdigits := d.areDigits_digitText
  rw [positional, if_neg (by omega)]
  dsimp only
  split
  · next hlt =>
    have hne : d.digitText.take (d.digitText.length - d.exponent.natAbs) ≠ [] := by
      simp [d.digitText_ne_nil]
      omega
    refine (readUnsigned?_fraction (fun c hc => hdigits c (List.mem_of_mem_take hc)) hne
      (fun c hc => hdigits c (List.mem_of_mem_drop hc))).trans (congrArg some (ofParts_eq ?_ ?_))
    · rw [List.take_append_drop]
      exact d.digitsValue_digitText
    · simp only [List.length_drop]
      omega
  · next hge =>
    have hzero : AreDigits ['0'] := areDigits_replicate 1
    refine (readUnsigned?_fraction hzero (List.cons_ne_nil _ _)
      ((areDigits_replicate _).append hdigits)).trans (congrArg some (ofParts_eq ?_ ?_))
    · have hzeros : ['0'] ++ (List.replicate (d.exponent.natAbs - d.digitText.length) '0' ++
          d.digitText) =
          List.replicate (d.exponent.natAbs - d.digitText.length + 1) '0' ++ d.digitText := rfl
      rw [hzeros, digitsValue_append, digitsValue_replicate, zero_mul, zero_add]
      exact d.digitsValue_digitText
    · simp only [List.length_append, List.length_replicate]
      omega

/-- A whole number is read with a place after the point. -/
theorem readUnsigned?_positional_point (h : 0 ≤ d.exponent) :
    readUnsigned? (d.positional ++ ['.', '0']) =
      some ⟨d.digits * 10 ^ (d.exponent.toNat + 1), -1⟩ := by
  have hzero : AreDigits ['0'] := areDigits_replicate 1
  have hread := readUnsigned?_fraction
    (d.areDigits_digitText.append (areDigits_replicate d.exponent.toNat))
    (List.append_ne_nil_of_left_ne_nil d.digitText_ne_nil _) hzero
  rw [positional, if_pos h]
  refine hread.trans (congrArg some (ofParts_eq ?_ rfl))
  have hzeros : d.digitText ++ List.replicate d.exponent.toNat '0' ++ ['0'] =
      d.digitText ++ List.replicate (d.exponent.toNat + 1) '0' := by
    rw [List.replicate_succ', List.append_assoc]
  rw [hzeros, digitsValue_append, digitsValue_replicate, List.length_replicate, add_zero,
    d.digitsValue_digitText]

/-! ## Rendered numbers -/

theorem top_le_of_length_le (places : ℕ) (h : 0 < d.digits)
    (hle : (d.digitText.length : ℤ) + d.exponent ≤ places) : d.top ≤ places := by
  have hlength : d.digits < 10 ^ d.digitText.length :=
    (Nat.length_toDigits_le_iff (by decide) (List.length_pos_iff.mpr d.digitText_ne_nil)).mp le_rfl
  have hlt : (10 : ℚ) ^ (d.top - 1) < 10 ^ (places : ℤ) := by
    calc (10 : ℚ) ^ (d.top - 1) ≤ d.value := zpow_top_le_value h
      _ < 10 ^ (d.digitText.length : ℤ) * 10 ^ d.exponent := by
          rw [value, zpow_natCast]
          gcongr
          exact_mod_cast hlength
      _ = 10 ^ ((d.digitText.length : ℤ) + d.exponent) := (zpow_add₀ (by norm_num) _ _).symm
      _ ≤ 10 ^ (places : ℤ) := zpow_le_zpow_right₀ (by norm_num) hle
  have := (zpow_lt_zpow_iff_right₀ (by norm_num)).mp hlt
  omega

/-- A place after the point does not change a whole number. -/
theorem toFloat_place (h : 0 < d.digits) (hnonneg : 0 ≤ d.exponent)
    (hle : (d.digitText.length : ℤ) + d.exponent ≤ 16) :
    (⟨d.digits * 10 ^ (d.exponent.toNat + 1), -1⟩ : Decimal).toFloat = d.toFloat := by
  have hone : 1 ≤ d.value := by
    rw [value]
    exact one_le_mul_of_one_le_of_one_le (by exact_mod_cast h) (one_le_zpow₀ (by norm_num) hnonneg)
  have htop := d.top_le_of_length_le 16 h hle
  refine (toFloat_eq_of_value_eq hone (by omega) ?_).symm
  have hexponent : d.exponent = (d.exponent.toNat : ℤ) := (Int.toNat_of_nonneg hnonneg).symm
  rw [value, value, hexponent, zpow_natCast]
  simp only [Int.toNat_natCast]
  push_cast
  rw [pow_succ, zpow_neg_one]
  field_simp

/-- In a document a number is read as a spelling of itself. -/
theorem exists_readUnsigned?_render (h : 0 < d.digits) :
    ∃ d', readUnsigned? (render documentLayout d).toList = some d' ∧ d'.toFloat = d.toFloat := by
  rw [render]
  split
  · next hpositional =>
    have hle : (d.digitText.length : ℤ) + d.exponent ≤ 16 := by
      simp only [documentLayout, Bool.and_eq_true, decide_eq_true_eq] at hpositional
      exact hpositional.2
    rcases lt_or_ge d.exponent 0 with hneg | hnonneg
    · rw [if_neg (by omega)]
      simp [d.readUnsigned?_positional_of_neg hneg]
    · -- What is read is not the number itself, as a place after the point has been added.
      refine ⟨_, ?_, d.toFloat_place h hnonneg hle⟩
      rw [if_pos hnonneg, String.toList_append, String.toList_ofList]
      exact d.readUnsigned?_positional_point hnonneg
  · simp [d.readUnsigned?_exponential]

end Notations

/-! ## Characters of numerals -/

section Characters

variable (d : Decimal)

theorem isNumeral_digitText : IsNumeral d.digitText :=
  isNumeral_of_areDigits d.areDigits_digitText d.digitText_ne_nil

theorem isNumeral_exponential : IsNumeral d.exponential := by
  have hpower := isNumeralChar_toString (d.digitText.length + d.exponent - 1)
  have hdigits := d.isNumeral_digitText
  have htext := d.areDigits_digitText.isNumeralChar
  rw [exponential]
  split
  · next first next rest heq =>
    rw [heq] at hdigits htext
    obtain ⟨c, hc, hdigit⟩ := hdigits.startsDigit
    refine ⟨⟨c, hc, hdigit⟩, ?_⟩
    simp only [List.mem_cons, List.mem_append] at htext ⊢
    rintro c ((rfl | rfl | rfl | hc) | rfl | hc)
    · exact htext c (.inl rfl)
    · rfl
    · exact htext c (.inr (.inl rfl))
    · exact htext c (.inr (.inr hc))
    · rfl
    · exact hpower c hc
  · refine hdigits.append ?_
    intro c hc
    rcases List.mem_cons.mp hc with rfl | hc
    · rfl
    · exact hpower c hc

theorem isNumeral_positional : IsNumeral d.positional := by
  have hdigits := d.isNumeral_digitText
  rw [positional]
  split
  · exact hdigits.append (areDigits_replicate _).isNumeralChar
  · dsimp only
    split
    · next hlt =>
      have htake : d.digitText.take (d.digitText.length - d.exponent.natAbs) ≠ [] := by
        simp [d.digitText_ne_nil]
        omega
      refine (isNumeral_of_areDigits
        (fun c hc => d.areDigits_digitText c (List.mem_of_mem_take hc)) htake).append ?_
      intro c hc
      rcases List.mem_cons.mp hc with rfl | hc
      · rfl
      · exact hdigits.chars c (List.mem_of_mem_drop hc)
    · refine ⟨⟨'0', rfl, rfl⟩, ?_⟩
      simp only [List.mem_cons, List.cons_append, List.mem_append]
      rintro c (rfl | rfl | hc | hc)
      · rfl
      · rfl
      · exact (areDigits_replicate _).isNumeralChar c hc
      · exact hdigits.chars c hc

theorem isNumeral_render : IsNumeral (render documentLayout d).toList := by
  rw [render]
  split
  · rw [String.toList_append, String.toList_ofList]
    refine d.isNumeral_positional.append ?_
    split <;> simp [documentLayout, isNumeralChar]
  · rw [String.toList_ofList]
    exact d.isNumeral_exponential

end Characters

/-! ## Doubles -/

section Doubles

open Float.Model.UnpackedFloat

variable {x : Float}

theorem unpackSign_of_unpack {m : ℕ} {e : ℤ} {hm : 0 < m}
    (h : x.toModel.unpack = .finite .positive m e hm) :
    @unpackSign .binary64 x.toModel.toBits.toBitVec = 0#1 := by
  have hsign (s : BitVec 1) (hs : Sign.ofBitVec s = .positive) : s = 0#1 := by
    by_contra hne
    rw [Sign.ofBitVec, if_neg hne] at hs
    cases hs
  change Float.Model.UnpackedFloat.unpack .binary64 x.toModel.toBits.toBitVec = _ at h
  generalize x.toModel.toBits.toBitVec = bits at *
  revert h
  -- Only the two finite cases have a mantissa, and both take their sign from this bit.
  fun_cases Float.Model.UnpackedFloat.unpack with
  | case1 | case2 | case3 => exact fun h => nomatch h
  | case4 | case5 =>
      intro h
      injection h with hs
      exact hsign _ hs

theorem signBit_eq_false (hx : x.isFinite = true) (hpos : 0 < Double.value x) :
    signBit x = false := by
  obtain ⟨m, e, hm, hu, -, -⟩ := Double.unpack_of_value_pos hx hpos
  have hbit := congrArg BitVec.toNat (unpackSign_of_unpack hu)
  have hhigh : x.toBits.toNat / 2 ^ 63 % 2 = 0 := by
    rw [← Nat.shiftRight_eq_div_pow]
    change x.toModel.toBits.toNat >>> 63 % 2 = 0
    simpa [unpackSign, BitVec.extractLsb, BitVec.extractLsb'_toNat] using hbit
  have hlt : x.toBits.toNat < 2 ^ 64 := x.toBits.toBitVec.isLt
  rw [signBit, decide_eq_false_iff_not]
  change ¬ 2 ^ 63 ≤ x.toBits.toNat
  omega

theorem beq_zero_eq_false (hx : x.isFinite = true) (hpos : 0 < Double.value x) :
    (x == 0.0) = false := by
  refine Bool.eq_false_iff.mpr fun heq => ?_
  have hcompare : x.toModel.unpack.compare (0.0 : Float).toModel.unpack = some .eq :=
    beq_iff_eq.mp heq
  have hplace := compare_eq_iff_eq.mp (Double.compare_eq_some_iff.mp hcompare).2.2
  have hvalue := Double.value_eq_of_place_eq hx rfl hplace
  rw [hvalue] at hpos
  exact absurd hpos (lt_irrefl 0)

theorem isInf_eq_false (hx : x.isFinite = true) (hpos : 0 < Double.value x) :
    x.isInf = false := by
  obtain ⟨m, e, hm, hu, -, -⟩ := Double.unpack_of_value_pos hx hpos
  change x.toModel.unpack.isInf = false
  rw [hu]
  rfl

/-- A positive double is written as its shortest decimal number. -/
theorem floatText_eq_render (hx : x.isFinite = true) (hpos : 0 < Double.value x) :
    floatText documentLayout x = render documentLayout (shortest x) := by
  rw [floatText, Double.isNaN_of_isFinite hx]
  simp [isInf_eq_false hx hpos, beq_zero_eq_false hx hpos, signBit_eq_false hx hpos]

theorem isNumeral_floatText (hx : x.isFinite = true) (hpos : 0 < Double.value x) :
    IsNumeral (floatText documentLayout x).toList := by
  rw [floatText_eq_render hx hpos]
  exact isNumeral_render _

/-- The text of a positive double is read as that double. -/
theorem readFloat?_floatText (hx : x.isFinite = true) (hpos : 0 < Double.value x) :
    readFloat? (floatText documentLayout x).toList = some x := by
  obtain ⟨d, hread, hvalue⟩ :=
    (shortest x).exists_readUnsigned?_render (digits_shortest_pos hx hpos)
  rw [floatText_eq_render hx hpos, readFloat?, (isNumeral_render _).readSign]
  simp [hread, hvalue, toFloat_shortest hx hpos]

end Doubles

end Dashboard.Decimal
