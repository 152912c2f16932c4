import Appraisal.Number.Arithmetic
import Appraisal.Policy.Category
import Appraisal.Policy.Dimension

/-!
# Gates

A category demands a minimum on three of the dimensions, and some categories cap the overall score
of an idea in a saturated market.
-/

namespace Appraisal

/-- Minimum scores, out of ten, and an optional cap on the overall score, out of a hundred. -/
structure Gates (α : Type) where
  /-- The least acceptable demand. -/
  demandMinimum : α
  /-- The least acceptable economics. -/
  economicsMinimum : α
  /-- The least acceptable problem. -/
  problemMinimum : α
  /-- The cap in a saturated market. -/
  saturationCap : Option α
  deriving DecidableEq, Inhabited

namespace Gates

variable {α : Type}

/-- The dimensions that have a minimum, in the order in which violations are reported. -/
def minimums (gates : Gates α) : List (Dimension × α) :=
  [(.demand, gates.demandMinimum), (.economics, gates.economicsMinimum),
    (.problem, gates.problemMinimum)]

variable [Arithmetic α]

/-- The saturation, in percent, from which on a cap applies. -/
def saturationThreshold : α := Arithmetic.ofInt 90

/-- The minimums of a category: demand, economics and problem, in tenths. -/
def tenths : Category → Nat × Nat × Nat
  | .physicalSubscription | .dtcEcom => (20, 35, 25)
  | _ => (20, 30, 30)

/-- Whether a category is crowded, so that its scores are capped in a saturated market. -/
def isCrowded : Category → Bool
  | .servicesMarketplace | .freelanceMarketplace | .learningMarketplace | .pmSoftware => true
  | _ => false

/-- The gates of a category. -/
def ofCategory (category : Category) : Gates α :=
  let (demand, economics, problem) := tenths category
  { demandMinimum := Arithmetic.decimal demand 1
    economicsMinimum := Arithmetic.decimal economics 1
    problemMinimum := Arithmetic.decimal problem 1
    saturationCap := if isCrowded category then some (Arithmetic.ofInt 15) else none }

/-- The cap that applies at a saturation. -/
def capAt (gates : Gates α) (saturation : α) : Option α :=
  if Arithmetic.atMost saturationThreshold saturation then gates.saturationCap else none

end Gates

end Appraisal
