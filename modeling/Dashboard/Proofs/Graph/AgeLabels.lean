import Dashboard.Graph.Timeline
import Dashboard.Proofs.Decimal.Numerals
import Mathlib.Tactic.Common

/-! # Labels of ages

A label shows an age below one hour in whole seconds and any other one in whole minutes.
What it shows can be read back from it, so two ages have the same label only if they agree
at that precision. -/

namespace Dashboard.Graph

/-! ## Reading labels -/

/-- What a label shows of an age. -/
inductive ShownAge where
  | seconds (count : ℕ)
  | minutes (count : ℕ)
deriving DecidableEq

/-- An age at the precision of its label. -/
def shownAge (age : Duration) : ShownAge :=
  if age.seconds < 3600 then .seconds age.seconds else .minutes (age.seconds / 60)

/-- An amount and its unit, and the text after them. -/
def readAmount? (text : List Char) : Option (ℕ × Char × List Char) :=
  match text.dropWhile Char.isDigit with
  | unit :: rest => some (Decimal.digitsValue (text.takeWhile Char.isDigit), unit, rest)
  | [] => none

/-- What a label shows: one amount, or a second one of the next smaller unit after it. -/
def readLabel? : List Char → Option ShownAge
  | '-' :: text => do
    let (amount, unit, rest) ← readAmount? text
    let smaller ← if rest.isEmpty then some 0 else (readAmount? rest).map (·.1)
    match unit with
    | 's' => some (.seconds amount)
    | 'm' => some (.seconds (60 * amount + smaller))
    | 'h' => some (.minutes (60 * amount + smaller))
    | _ => none
  | _ => none

theorem readAmount?_numeral (amount : ℕ) {unit : Char} (rest : List Char)
    (h : unit.isDigit = false) :
    readAmount? (Nat.toDigits 10 amount ++ unit :: rest) = some (amount, unit, rest) := by
  have hdigits := Decimal.areDigits_toDigits amount
  have hend : Decimal.EndsDigits (unit :: rest) := Decimal.endsDigits_cons.mpr h
  rw [readAmount?, Decimal.dropWhile_isDigit_append hdigits hend,
    Decimal.takeWhile_isDigit_append hdigits hend, Decimal.digitsValue_toDigits]

/-! ## Shapes of labels -/

section Shapes

variable {age : Duration}

theorem ageText_of_lt_minute (h : age.seconds < 60) : ageText age = s!"-{age.seconds}s" := by
  have hminutes : age.seconds % 3600 / 60 = 0 := by omega
  have hrest : age.seconds % 60 = age.seconds := Nat.mod_eq_of_lt h
  simp [ageText, hminutes, hrest, show age.seconds < 3600 by omega]

theorem ageText_of_lt_hour (hminute : 60 ≤ age.seconds) (hhour : age.seconds < 3600) :
    ageText age =
      if age.seconds % 60 = 0 then s!"-{age.seconds / 60}m"
      else s!"-{age.seconds / 60}m{age.seconds % 60}s" := by
  have hminutes : age.seconds % 3600 / 60 = age.seconds / 60 := by
    rw [Nat.mod_eq_of_lt hhour]
  have hpos : age.seconds / 60 ≠ 0 := by omega
  simp only [ageText, hminutes, Nat.div_eq_of_lt hhour, hpos, if_true, if_false]

theorem ageText_of_ge_hour (h : 3600 ≤ age.seconds) :
    ageText age =
      if age.seconds / 60 % 60 = 0 then s!"-{age.seconds / 60 / 60}h"
      else s!"-{age.seconds / 60 / 60}h{age.seconds / 60 % 60}m" := by
  have hhours : age.seconds / 3600 = age.seconds / 60 / 60 := by omega
  have hminutes : age.seconds % 3600 / 60 = age.seconds / 60 % 60 := by omega
  have hpos : age.seconds / 60 / 60 ≠ 0 := by omega
  simp only [ageText, hhours, hminutes, hpos, if_false]

end Shapes

/-- What is read from a label is the age at its precision. -/
theorem readLabel?_ageText (age : Duration) :
    readLabel? (ageText age).toList = some (shownAge age) := by
  rcases Nat.lt_or_ge age.seconds 3600 with hhour | hhour
  · rw [shownAge, if_pos hhour]
    rcases Nat.lt_or_ge age.seconds 60 with hminute | hminute
    · rw [ageText_of_lt_minute hminute]
      simp [toString, readLabel?, readAmount?_numeral]
    · rw [ageText_of_lt_hour hminute hhour]
      split
      · next hwhole =>
        have hminutes : 60 * (age.seconds / 60) = age.seconds := by omega
        simp [toString, readLabel?, readAmount?_numeral, hminutes]
      · simp [toString, readLabel?, readAmount?_numeral, Nat.div_add_mod]
  · rw [shownAge, if_neg (Nat.not_lt_of_ge hhour), ageText_of_ge_hour hhour]
    split
    · next hwhole =>
      have hhours : 60 * (age.seconds / 60 / 60) = age.seconds / 60 := by omega
      simp [toString, readLabel?, readAmount?_numeral, hhours]
    · simp [toString, readLabel?, readAmount?_numeral, Nat.div_add_mod]

/-! ## Equal labels -/

theorem shownAge_eq_iff (a b : Duration) :
    shownAge a = shownAge b ↔
      (a.seconds < 3600 ∧ b.seconds < 3600 ∧ a.seconds = b.seconds) ∨
        (3600 ≤ a.seconds ∧ 3600 ≤ b.seconds ∧ a.seconds / 60 = b.seconds / 60) := by
  rw [shownAge, shownAge]
  split <;> split <;> simp <;> omega

/-- A label depends on nothing but what it shows. -/
theorem ageText_eq_of_shownAge_eq {a b : Duration} (h : shownAge a = shownAge b) :
    ageText a = ageText b := by
  rcases (shownAge_eq_iff a b).mp h with ⟨-, -, hseconds⟩ | ⟨ha, hb, hminutes⟩
  · rw [ageText, ageText, hseconds]
  · rw [ageText_of_ge_hour ha, ageText_of_ge_hour hb, hminutes]

/-- Two ages have the same label exactly if both are below one hour and agree in their whole
seconds, or neither is and they agree in their whole minutes. What a label shows is read back
from it. -/
theorem ageText_eq_iff (a b : Duration) :
    (ageText a = ageText b ↔
      (a.seconds < 3600 ∧ b.seconds < 3600 ∧ a.seconds = b.seconds) ∨
        (3600 ≤ a.seconds ∧ 3600 ≤ b.seconds ∧ a.seconds / 60 = b.seconds / 60)) ∧
    readLabel? (ageText a).toList = some (shownAge a) := by
  refine ⟨?_, readLabel?_ageText a⟩
  rw [← shownAge_eq_iff]
  constructor
  · intro h
    have hread : some (shownAge a) = some (shownAge b) := by
      rw [← readLabel?_ageText, h, readLabel?_ageText]
    exact Option.some.inj hread
  · exact ageText_eq_of_shownAge_eq

end Dashboard.Graph
