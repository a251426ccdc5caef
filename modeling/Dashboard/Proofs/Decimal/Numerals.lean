import Dashboard.Decimal.Text
import Mathlib.Data.List.Induction
import Mathlib.Data.Nat.Notation
import Mathlib.Tactic.Ring

/-! # Numerals

A run of digits is read up to the first character that is no digit, and the digits of a
number are worth that number. An exponent that is written is read back, sign and all. -/

namespace Dashboard.Decimal

/-! ## Digits -/

/-- Every character is a digit. -/
def AreDigits (text : List Char) : Prop :=
  ∀ c ∈ text, c.isDigit = true

/-- No digit comes next. -/
def EndsDigits (text : List Char) : Prop :=
  ∀ c ∈ text.head?, c.isDigit = false

@[simp] theorem endsDigits_nil : EndsDigits [] := by
  simp [EndsDigits]

@[simp] theorem endsDigits_cons {c : Char} {text : List Char} :
    EndsDigits (c :: text) ↔ c.isDigit = false := by
  simp [EndsDigits]

theorem areDigits_toDigits (n : ℕ) : AreDigits (Nat.toDigits 10 n) :=
  fun _ h => Nat.isDigit_of_mem_toDigits (by decide) (by decide) h

theorem AreDigits.append {a b : List Char} (ha : AreDigits a) (hb : AreDigits b) :
    AreDigits (a ++ b) := by
  intro c hc
  rcases List.mem_append.mp hc with hc | hc
  · exact ha c hc
  · exact hb c hc

theorem areDigits_replicate (count : ℕ) : AreDigits (List.replicate count '0') := by
  intro c hc
  rw [List.eq_of_mem_replicate hc]
  decide

section Runs

variable {digits rest : List Char}

theorem takeWhile_isDigit_append (h : AreDigits digits) (hend : EndsDigits rest) :
    (digits ++ rest).takeWhile Char.isDigit = digits := by
  rw [List.takeWhile_append_of_pos h]
  cases rest with
  | nil => simp
  | cons c rest => simp [endsDigits_cons.mp hend]

theorem dropWhile_isDigit_append (h : AreDigits digits) (hend : EndsDigits rest) :
    (digits ++ rest).dropWhile Char.isDigit = rest := by
  rw [List.dropWhile_append_of_pos h]
  cases rest with
  | nil => rfl
  | cons c rest => simp [endsDigits_cons.mp hend]

end Runs

/-! ## Characters of numerals -/

/-- Whether a character may stand in a numeral. -/
def isNumeralChar (c : Char) : Bool :=
  c.isDigit || c == '.' || c == 'e' || c == '-'

/-- A text of these characters that a digit starts. -/
structure IsNumeral (text : List Char) : Prop where
  startsDigit : ∃ c ∈ text.head?, c.isDigit = true
  chars : ∀ c ∈ text, isNumeralChar c = true

theorem AreDigits.isNumeralChar {text : List Char} (h : AreDigits text) :
    ∀ c ∈ text, isNumeralChar c = true := by
  intro c hc
  simp [Decimal.isNumeralChar, h c hc]

theorem isNumeral_of_areDigits {text : List Char} (h : AreDigits text) (hne : text ≠ []) :
    IsNumeral text := by
  refine ⟨⟨text.head hne, List.head_mem_head? hne, h _ (List.head_mem hne)⟩, h.isNumeralChar⟩

theorem IsNumeral.append {a b : List Char} (ha : IsNumeral a)
    (hb : ∀ c ∈ b, isNumeralChar c = true) : IsNumeral (a ++ b) := by
  obtain ⟨c, hc, hdigit⟩ := ha.startsDigit
  refine ⟨⟨c, ?_, hdigit⟩, ?_⟩
  · rw [List.head?_append, hc]
    rfl
  · intro c hc
    rcases List.mem_append.mp hc with hc | hc
    · exact ha.chars c hc
    · exact hb c hc

/-- Nothing that starts with a digit has a sign. -/
theorem IsNumeral.readSign {text : List Char} (h : IsNumeral text) :
    Decimal.readSign text = (false, text) := by
  obtain ⟨c, hc, hdigit⟩ := h.startsDigit
  obtain ⟨tail, rfl⟩ := List.head?_eq_some_iff.mp hc
  rw [Decimal.readSign]
  all_goals
    intro _ heq
    obtain ⟨rfl, -⟩ := List.cons.inj heq
    exact absurd hdigit (by decide)

/-! ## What digits are worth -/

@[simp] theorem digitsValue_toDigits (n : ℕ) : digitsValue (Nat.toDigits 10 n) = n :=
  Nat.ofDigitChars_ten_toDigits

theorem digitsValue_append (a b : List Char) :
    digitsValue (a ++ b) = digitsValue a * 10 ^ b.length + digitsValue b := by
  induction b using List.reverseRecOn with
  | nil => simp [digitsValue]
  | append_singleton b c ih =>
      have hconcat (l : List Char) :
          digitsValue (l ++ [c]) = 10 * digitsValue l + (c.toNat - '0'.toNat) := by
        rw [digitsValue, List.foldl_append]
        rfl
      rw [← List.append_assoc, hconcat, hconcat, ih, List.length_append, List.length_singleton]
      ring

@[simp] theorem digitsValue_replicate (count : ℕ) :
    digitsValue (List.replicate count '0') = 0 := by
  induction count with
  | zero => rfl
  | succ count ih =>
      rw [List.replicate_succ', digitsValue_append, ih]
      rfl

/-! ## Whole numbers -/

theorem toList_toString_natCast (n : ℕ) : (toString (n : ℤ)).toList = Nat.toDigits 10 n := by
  have h : (toString n).toList = Nat.toDigits 10 n := by
    rw [Nat.toString_eq_repr, Nat.toList_repr]
  exact h

theorem toList_toString_negSucc (n : ℕ) :
    (toString (Int.negSucc n)).toList = '-' :: Nat.toDigits 10 (n + 1) := by
  rw [← toList_toString_natCast]
  exact String.toList_append

theorem isNumeralChar_toString (power : ℤ) :
    ∀ c ∈ (toString power).toList, isNumeralChar c = true := by
  intro c hc
  rcases power with n | n
  · rw [Int.ofNat_eq_natCast, toList_toString_natCast] at hc
    exact (areDigits_toDigits n).isNumeralChar c hc
  · rw [toList_toString_negSucc] at hc
    rcases List.mem_cons.mp hc with rfl | hc
    · rfl
    · exact (areDigits_toDigits (n + 1)).isNumeralChar c hc

/-- An exponent is read back from its text. -/
theorem readPower?_toString (power : ℤ) :
    readPower? ('e' :: (toString power).toList) = some power := by
  have hall (n : ℕ) : (Nat.toDigits 10 n).all Char.isDigit = true :=
    List.all_eq_true.mpr (areDigits_toDigits n)
  rw [readPower?, if_pos (.inl rfl)]
  rcases power with n | n
  · have hsign := (isNumeral_of_areDigits (areDigits_toDigits n) Nat.toDigits_ne_nil).readSign
    rw [Int.ofNat_eq_natCast, toList_toString_natCast, hsign]
    simp [hall, Nat.toDigits_ne_nil]
  · rw [toList_toString_negSucc, readSign]
    simp only [hall, Nat.toDigits_ne_nil, List.isEmpty_iff, digitsValue_toDigits, Bool.not_true,
      Bool.false_eq_true, or_self, if_false, if_true]
    rfl

end Dashboard.Decimal
