import Dashboard.Scalar

/-! # Severity

How close a value is to the ceiling of its graph, in three tiers. -/

namespace Dashboard

/-- Tier of a value. -/
inductive Severity where
  | normal
  | elevated
  | critical
deriving DecidableEq

namespace Severity

/-- Position among the tiers. -/
def rank : Severity → Nat
  | normal => 0
  | elevated => 1
  | critical => 2

instance : LE Severity := ⟨fun a b => a.rank ≤ b.rank⟩

instance (a b : Severity) : Decidable (a ≤ b) := inferInstanceAs (Decidable (a.rank ≤ b.rank))

/-- Name of a tier. -/
def name : Severity → String
  | normal => "normal"
  | elevated => "elevated"
  | critical => "critical"

end Severity

/-- Fractions of the ceiling above which a value changes tier. -/
structure Thresholds (α : Type) where
  elevated : α
  critical : α

/-- Half and four fifths of the ceiling. -/
instance : Inhabited (Thresholds Float) where
  default := ⟨0.5, 0.8⟩

namespace Thresholds

variable {α : Type} [Scalar α]

/-- Tier of a fraction of the ceiling. A boundary belongs to the lower tier,
and so does whatever is not finite. -/
def classify (thresholds : Thresholds α) (fraction : α) : Severity :=
  if !Scalar.isFinite fraction then .normal
  else if Scalar.lt thresholds.critical fraction then .critical
  else if Scalar.lt thresholds.elevated fraction then .elevated
  else .normal

/-- Tier of a value under a ceiling; without a positive ceiling the lowest. -/
def classifyValue (thresholds : Thresholds α) (value ceiling : α) : Severity :=
  if Scalar.lt (Scalar.ofNat 0) ceiling then thresholds.classify (Scalar.div value ceiling)
  else .normal

end Thresholds

end Dashboard
