import Dashboard.Proofs.Decimal.ReadBack
import Dashboard.Proofs.Yaml.Scalars

/-! # Numbers and bare words

The digits of a natural number are read as that number, and the text of a positive double as that
double. Numerals and names are bare words: nothing in them needs quotes. -/

namespace Dashboard.Yaml

/-! ## Whole numbers -/

section Whole

/-- Digits of any number but zero do not start with a zero. -/
theorem head?_toDigits {n : ℕ} (h : 0 < n) : (Nat.toDigits 10 n).head? ≠ some '0' := by
  induction n using Nat.strong_induction_on with
  | h n ih =>
    have hdigit : ∀ digit < 10, 0 < digit → Nat.digitChar digit ≠ '0' := by decide
    rw [Nat.toDigits_eq_if (by decide)]
    split
    · next hlt => simpa using hdigit n hlt h
    · next hge =>
      have hpos : 0 < n / 10 := Nat.div_pos (by omega) (by decide)
      rw [List.head?_append_of_ne_nil _ Nat.toDigits_ne_nil]
      exact ih (n / 10) (Nat.div_lt_self h (by decide)) hpos

theorem isPaddedDigits_toDigits (n : ℕ) : isPaddedDigits (Nat.toDigits 10 n) = false := by
  rcases n.eq_zero_or_pos with rfl | hpos
  · rfl
  · have hdigits := Decimal.areDigits_toDigits n
    have hhead := head?_toDigits hpos
    unfold isPaddedDigits
    split
    · next rest heq => exact absurd (hdigits '-' (by simp [heq])) (by decide)
    · next rest heq => exact absurd (hdigits '+' (by simp [heq])) (by decide)
    · simp [hhead]

theorem markedValue?_of_areDigits {digits : List Char} (h : Decimal.AreDigits digits) :
    markedValue? digits = none := by
  unfold markedValue?
  split
  · exact absurd (h 'x' (by simp)) (by decide)
  · exact absurd (h 'o' (by simp)) (by decide)
  · exact absurd (h 'b' (by simp)) (by decide)
  · rfl

theorem radixValue?_of_areDigits {digits : List Char} (h : Decimal.AreDigits digits)
    (hne : digits ≠ []) : radixValue? 10 digits = some (Decimal.digitsValue digits) := by
  have hfold (value : ℕ) : digits.foldlM (fun value c => (Json.hexValue? c).bind fun digit =>
      if digit < 10 then some (10 * value + digit) else none) value =
      some (digits.foldl (fun value c => 10 * value + (c.toNat - '0'.toNat)) value) := by
    clear hne
    induction digits generalizing value with
    | nil => rfl
    | cons c digits ih =>
        have hc := h c List.mem_cons_self
        have hlt : c.toNat - '0'.toNat < 10 := by
          have hrange : 48 ≤ c.toNat ∧ c.toNat ≤ 57 := by
            simpa [Char.isDigit, UInt32.le_iff_toNat_le] using hc
          have hzero : '0'.toNat = 48 := rfl
          omega
        rw [List.foldlM_cons, Json.hexValue?, if_pos hc, Option.bind_some, if_pos hlt]
        exact ih (fun b hb => h b (List.mem_cons_of_mem c hb)) _
  rw [radixValue?, if_neg (by simpa using hne)]
  exact hfold 0

theorem natOfText?_toDigits {bound n : ℕ} (h : n < bound) :
    natOfText? bound (Nat.toDigits 10 n) = some n := by
  have hdigits := Decimal.areDigits_toDigits n
  unfold natOfText?
  split
  · next rest heq => exact absurd (hdigits '+' (by simp [heq])) (by decide)
  · simp [markedValue?_of_areDigits hdigits, isPaddedDigits_toDigits, h,
      radixValue?_of_areDigits hdigits Nat.toDigits_ne_nil]

theorem toList_toString_word (n : UInt64) : (toString n).toList = Nat.toDigits 10 n.toNat := by
  change (toString n.toNat).toList = _
  rw [Nat.toString_eq_repr, Nat.toList_repr]

/-- A 64-bit number is read from its text. -/
theorem word?_toString (n : UInt64) :
    (Node.scalar none (toString n) .plain).word? = some n := by
  rw [Node.word?, toList_toString_word, natOfText?_toDigits n.toNat_lt_size]
  simp [isTyped]

end Whole

/-! ## Doubles -/

section Doubles

open Decimal

variable {x : Float}

theorem isNumeral_ne {text : String} (h : IsNumeral text.toList) {c : Char} {rest : List Char}
    (hc : c.isDigit = false) : text.toList ≠ c :: rest := by
  obtain ⟨digit, hhead, hdigit⟩ := h.startsDigit
  intro heq
  rw [heq] at hhead
  obtain rfl : c = digit := Option.some.inj hhead
  rw [hc] at hdigit
  exact Bool.noConfusion hdigit

/-- A numeral is none of several names if each of them starts with a character other than a
digit. -/
theorem contains_eq_false_of_isNumeral {text : String} (h : IsNumeral text.toList)
    (names : List String) (hnames : ∀ name ∈ names, ∃ c rest, name.toList = c :: rest ∧
      c.isDigit = false) : names.contains text = false := by
  rw [List.contains_eq_mem, decide_eq_false_iff_not]
  intro hmem
  obtain ⟨c, rest, heq, hc⟩ := hnames text hmem
  exact isNumeral_ne h hc heq

/-- The text of a positive double is read as that double: it has no sign, and is no name of an
infinity. -/
theorem floatOfText?_floatText (hx : x.isFinite = true) (hpos : 0 < Double.value x) :
    floatOfText? (floatText documentLayout x) = some x := by
  have hnumeral := isNumeral_floatText hx hpos
  have hread := readFloat?_floatText hx hpos
  generalize floatText documentLayout x = text at hnumeral hread
  have hplus : text.startsWith "+" = false := by
    rw [Bool.eq_false_iff, ne_eq, String.startsWith_string_iff]
    rintro ⟨rest, heq⟩
    exact isNumeral_ne hnumeral rfl heq.symm
  have hinf : [".inf", ".Inf", ".INF"].contains text = false :=
    contains_eq_false_of_isNumeral hnumeral _ (by simp)
  have hminus : ["-.inf", "-.Inf", "-.INF"].contains text = false :=
    contains_eq_false_of_isNumeral hnumeral _ (by simp)
  have hnan : [".nan", ".NaN", ".NAN"].contains text = false :=
    contains_eq_false_of_isNumeral hnumeral _ (by simp)
  unfold floatOfText?
  simp only [hplus, hinf, hminus, hnan, hread, Bool.false_eq_true, false_and, if_false]
  exact Option.filter_eq_some_iff.mpr ⟨rfl, hx⟩

end Doubles

/-! ## Bare words -/

section Words

variable {c : Char} {text : List Char}

/-- Whether a character may stand in a word that needs no quotes: those of names, and points. -/
def isBareChar (c : Char) : Bool :=
  isWord c || c = '.'

/-- A text of these characters that starts as a key does. -/
structure IsBare (text : List Char) : Prop where
  startsKey : ∃ c ∈ text.head?, isKeyChar c = true
  chars : ∀ c ∈ text, isBareChar c = true

theorem isBareChar_of_isNumeralChar (h : Decimal.isNumeralChar c = true) :
    isBareChar c = true := by
  simp only [Decimal.isNumeralChar, Bool.or_eq_true, beq_iff_eq, or_assoc] at h
  rcases h with hdigit | rfl | rfl | rfl
  · simp [isBareChar, isWord, Char.isAlphanum, hdigit]
  all_goals
    rfl

theorem isBare_of_isNumeral (h : Decimal.IsNumeral text) : IsBare text := by
  obtain ⟨c, hc, hdigit⟩ := h.startsDigit
  refine ⟨⟨c, hc, ?_⟩, fun b hb => isBareChar_of_isNumeralChar (h.chars b hb)⟩
  simp [isKeyChar, Char.isAlphanum, hdigit]

theorem isBareChar_cases (h : isBareChar c = true) : isKeyChar c = true ∨ c = '-' ∨ c = '.' := by
  simp only [isBareChar, isWord, Bool.or_eq_true, decide_eq_true_eq] at h
  rw [isKeyChar, Bool.or_eq_true, decide_eq_true_eq]
  tauto

theorem ne_of_isBareChar {d : Char} (hc : isBareChar c = true) (hd : isBareChar d = false) :
    c ≠ d := by
  rintro rfl
  rw [hc] at hd
  exact Bool.noConfusion hd

theorem isInk_of_isBareChar (h : isBareChar c = true) : IsInk c := by
  rcases isBareChar_cases h with hkey | rfl | rfl
  · exact isInk_of_isKeyChar hkey
  all_goals
    exact ⟨rfl, rfl⟩

theorem isAllowed_of_isBareChar (h : isBareChar c = true) : isAllowed c = true := by
  rcases isBareChar_cases h with hkey | rfl | rfl
  · exact isAllowed_of_isKeyChar hkey
  all_goals
    rfl

/-- Nothing in a text without colons and number signs is an indicator. -/
theorem hasIndicator_eq_false (h : ∀ c ∈ text, c ≠ ':' ∧ c ≠ '#') (before : Char) :
    hasIndicator (before :: text) = false := by
  induction text generalizing before with
  | nil => rfl
  | cons c text ih =>
      obtain ⟨hcolon, hhash⟩ := h c List.mem_cons_self
      rw [hasIndicator, ih (fun b hb => h b (List.mem_cons_of_mem c hb))]
      simp [hcolon, hhash]

theorem IsBare.ne_nil (h : IsBare text) : text ≠ [] := by
  rintro rfl
  obtain ⟨c, hc, -⟩ := h.startsKey
  exact absurd hc (by simp)

theorem IsBare.isPlainAfter (h : IsBare text) (before : Char) : IsPlainAfter before text where
  ne_nil := h.ne_nil
  chars := fun c hc => .inr (isInk_of_isBareChar (h.chars c hc))
  noIndicator := by
    apply hasIndicator_eq_false
    intro c hc
    exact ⟨ne_of_isBareChar (h.chars c hc) rfl, ne_of_isBareChar (h.chars c hc) rfl⟩
  noHash := fun hhead => ne_of_isBareChar (h.chars _ (List.mem_of_head? hhead)) rfl rfl
  noFirstSpace := fun hhead => ne_of_isBareChar (h.chars _ (List.mem_of_head? hhead)) rfl rfl
  noLastSpace := fun hlast =>
    ne_of_isBareChar (h.chars _ (List.mem_of_getLast? hlast)) rfl rfl

theorem IsBare.startsIndicator (h : IsBare text) : startsIndicator text = false := by
  obtain ⟨c, hc, hkey⟩ := h.startsKey
  obtain ⟨tail, rfl⟩ := List.head?_eq_some_iff.mp hc
  exact startsIndicator_of_isKeyChar hkey tail

/-- A bare word is read back as the plain value of a key. -/
theorem IsBare.isReadable {text : String} (h : IsBare text.toList) (parent : ℕ) :
    WrittenScalar.IsReadable ⟨text.toList ++ ['\n'], text, .plain⟩ parent := by
  have hread := isReadable_plain (h.isPlainAfter 'x') h.startsIndicator parent
  rwa [String.ofList_toList] at hread

end Words

end Dashboard.Yaml
