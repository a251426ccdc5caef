import Dashboard.Proofs.Yaml.Quoted
import Mathlib.Tactic.Ring

/-! # Escapes

Every character but a space is written between double quotes as itself, or as an escape that is
read as it. -/

namespace Dashboard.Yaml

/-! ## Hexadecimal codes -/

section Hexadecimal

/-- Value of hexadecimal digits after a number. -/
def readHex? (value : ℕ) (digits : List Char) : Option ℕ :=
  digits.foldlM (fun value c => (Json.hexValue? c).map (16 * value + ·)) value

theorem readHex?_append (value : ℕ) (a b : List Char) :
    readHex? value (a ++ b) = (readHex? value a).bind fun value => readHex? value b :=
  List.foldlM_append

theorem readHex?_zeros (count : ℕ) (digits : List Char) :
    readHex? 0 (List.replicate count '0' ++ digits) = readHex? 0 digits := by
  induction count with
  | zero => rfl
  | succ count ih =>
      rw [List.replicate_succ, List.cons_append]
      exact ih

theorem readHex?_digitChar (value : ℕ) {digit : ℕ} (h : digit < 16) :
    readHex? value [(Nat.digitChar digit).toUpper] = some (16 * value + digit) := by
  have hall : ∀ digit < 16, Json.hexValue? (Nat.digitChar digit).toUpper = some digit := by decide
  simp [readHex?, hall digit h]

/-- Hexadecimal digits are worth the number they were written for. -/
theorem readHex?_toDigits (n : ℕ) :
    readHex? 0 ((Nat.toDigits 16 n).map Char.toUpper) = some n := by
  induction n using Nat.strong_induction_on with
  | h n ih =>
    rw [Nat.toDigits_eq_if (by decide)]
    split
    · next hlt =>
      rw [List.map_singleton, readHex?_digitChar 0 hlt]
      simp
    · next hge =>
      have hdiv : n / 16 < n := Nat.div_lt_self (by omega) (by decide)
      rw [List.map_append, readHex?_append, ih _ hdiv, Option.bind_some, List.map_singleton,
        readHex?_digitChar _ (Nat.mod_lt _ (by decide)), Nat.div_add_mod]

variable {count code : ℕ}

theorem length_hexPadded (hcount : 0 < count) (h : code < 16 ^ count) :
    (hexPadded count code).length = count := by
  have hlength : (Nat.toDigits 16 code).length ≤ count :=
    (Nat.length_toDigits_le_iff (by decide) hcount).mpr h
  simp only [hexPadded, List.length_append, List.length_replicate, List.length_map]
  omega

theorem hexRun?_hexPadded (hcount : 0 < count) (h : code < 16 ^ count) (rest : List Char) :
    hexRun? count (hexPadded count code ++ rest) = some code := by
  have hlength := length_hexPadded hcount h
  have hread : readHex? 0 (hexPadded count code) = some code := by
    rw [hexPadded, readHex?_zeros, readHex?_toDigits]
  rw [hexRun?, if_neg (by simp [hlength]), List.take_left' hlength]
  exact hread

end Hexadecimal

/-! ## Escaped characters -/

section Escapes

variable {single : Bool} {c : Char}

/-- Ink that does not end a scalar stands for itself. -/
theorem standsForChar_self (h : IsInk c) (hquote : c ≠ quoteOf single)
    (hescape : single = false → c ≠ '\\') : StandsForChar single [c] c where
  ne_nil := List.cons_ne_nil _ _
  startsInk := startsInk_cons.mpr h
  read fuel text rest line column index := by
    conv_lhs => unfold readQuotedRun?
    rw [if_neg (by simp [startsBlank_eq_false rest h])]
    cases single with
    | true => simp_all [quoteOf]
    | false => simp_all [quoteOf]

/-- An escape is read as its character. -/
theorem standsForChar_escape {mark : Char} {code : List Char} (hmark : isBreak mark = false)
    (h : ∀ rest, readEscape? (mark :: (code ++ rest)) = some (c, code.length + 1)) :
    StandsForChar false ('\\' :: mark :: code) c where
  ne_nil := List.cons_ne_nil _ _
  startsInk := startsInk_cons.mpr ⟨rfl, rfl⟩
  read fuel text rest line column index := by
    have hink : startsBlank ('\\' :: mark :: (code ++ rest)) = false :=
      startsBlank_eq_false _ ⟨rfl, rfl⟩
    have hskip : (⟨('\\' :: mark :: code) ++ rest, line, column, index⟩ : Cursor).skip
        ('\\' :: mark :: code).length = _ := Cursor.skip_append ('\\' :: mark :: code)
    conv_lhs => unfold readQuotedRun?
    simp only [List.cons_append, hink, Bool.false_eq_true, if_false, List.head?_cons,
      Option.any_some, hmark, h]
    simpa using congrArg (readQuotedRun? false fuel (c :: text)) hskip

theorem standsForChar_letter {letter : Char} (hletter : isBreak letter = false)
    (h : escapeChar? letter = some c) : StandsForChar false ['\\', letter] c :=
  standsForChar_escape hletter fun rest => by simp [readEscape?, h]

theorem isScalarValue_toNat (c : Char) :
    c.toNat < 0xD800 ∨ 0xDFFF < c.toNat ∧ c.toNat ≤ 0x10FFFF := by
  have hvalid : c.toNat.isValidChar := c.valid
  rw [Nat.isValidChar] at hvalid
  omega

theorem standsForChar_code {mark : Char} {count : ℕ} (hmark : isBreak mark = false)
    (hletter : escapeChar? mark = none) (hcount : escapeDigits? mark = some count)
    (hpos : 0 < count) (h : c.toNat < 16 ^ count) :
    StandsForChar false ('\\' :: mark :: hexPadded count c.toNat) c :=
  standsForChar_escape hmark fun rest => by
    rw [readEscape?]
    simp [hletter, hcount, hexRun?_hexPadded hpos h, isScalarValue_toNat c,
      length_hexPadded hpos h]

/-- Every character but a space is read from its text between double quotes. -/
theorem standsForChar_escapedChar (h : c ≠ ' ') : StandsForChar false (escapedChar c) c := by
  unfold escapedChar
  split
  · next hself =>
    simp only [Bool.and_eq_true, Bool.not_eq_true', bne_iff_ne, ne_eq] at hself
    obtain ⟨⟨⟨hwritable, hbreak⟩, hquote⟩, hescape⟩ := hself
    exact standsForChar_self (isInk_of_isWritable hwritable h hbreak) hquote fun _ => hescape
  · dsimp only
    split
    · next letter hletter =>
      revert hletter
      split
      all_goals
        rintro ⟨⟩
      all_goals
        exact standsForChar_letter rfl rfl
    · have hc : c.toNat < 16 ^ 8 := by
        have hscalar := isScalarValue_toNat c
        omega
      split
      · exact standsForChar_code rfl rfl rfl (by decide) (by omega)
      · split
        · exact standsForChar_code rfl rfl rfl (by decide) (by omega)
        · exact standsForChar_code rfl rfl rfl (by decide) hc

end Escapes

end Dashboard.Yaml
