/-!
# Scoring dimensions

An idea is scored on six axes, in a fixed order.  `PerDimension α` holds one value for each.
-/

namespace Appraisal

/-- An axis of the score. -/
inductive Dimension
  | problem
  | underserved
  | demand
  | differentiation
  | economics
  | gtm
  deriving DecidableEq, Repr, Inhabited

namespace Dimension

/-- All axes, in the order in which they are summed and listed. -/
def all : List Dimension :=
  [.problem, .underserved, .demand, .differentiation, .economics, .gtm]

/-- The name of an axis. -/
def name : Dimension → String
  | .problem => "problem"
  | .underserved => "underserved"
  | .demand => "demand"
  | .differentiation => "differentiation"
  | .economics => "economics"
  | .gtm => "gtm"

/-- The name of an axis at the start of a sentence. -/
def label : Dimension → String
  | .problem => "Problem"
  | .underserved => "Underserved"
  | .demand => "Demand"
  | .differentiation => "Differentiation"
  | .economics => "Economics"
  | .gtm => "Gtm"

/-- Names with their axes. -/
def options : List (String × Dimension) :=
  all.map fun dimension => (dimension.name, dimension)

/-- The axis with a name. -/
def ofName? (name : String) : Option Dimension :=
  options.lookup name

theorem mem_all (dimension : Dimension) : dimension ∈ all := by
  cases dimension <;> decide

theorem ofName?_name (dimension : Dimension) : ofName? dimension.name = some dimension := by
  cases dimension <;> decide

end Dimension

/-- One value for each dimension. -/
structure PerDimension (α : Type) where
  problem : α
  underserved : α
  demand : α
  differentiation : α
  economics : α
  gtm : α
  deriving DecidableEq, Repr, Inhabited

namespace PerDimension

variable {α β : Type}

/-- The value of a dimension. -/
def get (values : PerDimension α) : Dimension → α
  | .problem => values.problem
  | .underserved => values.underserved
  | .demand => values.demand
  | .differentiation => values.differentiation
  | .economics => values.economics
  | .gtm => values.gtm

/-- The values of a function on dimensions. -/
def ofFunction (function : Dimension → α) : PerDimension α where
  problem := function .problem
  underserved := function .underserved
  demand := function .demand
  differentiation := function .differentiation
  economics := function .economics
  gtm := function .gtm

/-- Apply a function to every value. -/
def map (function : α → β) (values : PerDimension α) : PerDimension β :=
  ofFunction fun dimension => function (values.get dimension)

/-- Change the value of one dimension. -/
def set (values : PerDimension α) (dimension : Dimension) (value : α) : PerDimension α :=
  ofFunction fun other => if other = dimension then value else values.get other

/-- The values in the order of the dimensions. -/
def toList (values : PerDimension α) : List α :=
  Dimension.all.map values.get

@[simp]
theorem get_ofFunction (function : Dimension → α) (dimension : Dimension) :
    (ofFunction function).get dimension = function dimension := by
  cases dimension <;> rfl

@[simp]
theorem get_map (function : α → β) (values : PerDimension α) (dimension : Dimension) :
    (values.map function).get dimension = function (values.get dimension) := by
  simp [map]

@[simp]
theorem get_set (values : PerDimension α) (dimension other : Dimension) (value : α) :
    (values.set dimension value).get other =
      if other = dimension then value else values.get other := by
  simp [set]

@[ext]
theorem ext_get {left right : PerDimension α}
    (same : ∀ dimension, left.get dimension = right.get dimension) : left = right := by
  have problem := same .problem
  have underserved := same .underserved
  have demand := same .demand
  have differentiation := same .differentiation
  have economics := same .economics
  have gtm := same .gtm
  cases left
  cases right
  simp_all [get]

end PerDimension

end Appraisal
