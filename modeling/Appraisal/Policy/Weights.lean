import Appraisal.Datum.Conversion
import Appraisal.Number.Arithmetic
import Appraisal.Policy.Category
import Appraisal.Policy.Dimension

/-!
# Weights

Every category has a row of weights that add up to one.  A caller may override some of them; the
row is then divided by its total, so that it adds up to one again.
-/

namespace Appraisal.Weights

open Arithmetic

/-- The weights of a category in hundredths. -/
def hundredths : Category → PerDimension Nat
  | .saasB2B => ⟨22, 12, 18, 18, 20, 10⟩
  | .saasB2C => ⟨18, 15, 22, 18, 17, 10⟩
  | .physicalSubscription => ⟨18, 15, 18, 12, 27, 10⟩
  | .dtcEcom => ⟨15, 15, 20, 15, 25, 10⟩
  | .servicesMarketplace => ⟨18, 17, 18, 12, 20, 15⟩
  | .freelanceMarketplace => ⟨18, 17, 18, 12, 20, 15⟩
  | .learningMarketplace => ⟨17, 18, 20, 13, 20, 12⟩
  | .regulatedServices => ⟨20, 18, 12, 15, 20, 15⟩
  | .verticalComms => ⟨20, 15, 17, 18, 18, 12⟩
  | .pmSoftware => ⟨22, 18, 12, 18, 20, 10⟩
  | .general => ⟨20, 15, 20, 15, 20, 10⟩

/-- Weights that a caller sets for some dimensions; `none` if the caller sets nothing at all. -/
abbrev Override (α : Type) := Option (List (Dimension × α))

/--
The override given by named values.  Only names of dimensions are read; other names have no value,
but a row of nothing else is still an override.
-/
def Override.ofFields {ε α β : Type} (read : β → Except ε α) (fields : List (String × β)) :
    Except ε (Override α) :=
  if fields.isEmpty then .ok none
  else
    let named : List (Dimension × β) := fields.filterMap fun (name, value) =>
      (Dimension.ofName? name).map (·, value)
    let entries : Except ε (List (Dimension × α)) :=
      named.mapM fun entry => (read entry.2).map (entry.1, ·)
    entries.map some

/-- Why there are no weights. -/
inductive Fault
  /-- The total of the merged row is zero or less. -/
  | noPositiveTotal
  /-- A weight is no number. -/
  | unusable (fault : Datum.ConversionFault)
  deriving DecidableEq, Repr

/-- The sentence that describes a fault. -/
def Fault.message : Fault → String
  | .noPositiveTotal => "Weight override leaves no positive weight to normalize"
  | .unusable fault => fault.message

/-- The weight that a datum stands for. -/
def read (datum : Datum) : Except Fault Float :=
  datum.toDouble.mapError .unusable

section

variable {α : Type} [Arithmetic α]

/-- The weights of a category. -/
def base (category : Category) : PerDimension α :=
  (hundredths category).map (decimal · 2)

/-- Overwrite a row, entry by entry. -/
def merged (row : PerDimension α) (entries : List (Dimension × α)) : PerDimension α :=
  entries.foldl (fun row (dimension, value) => row.set dimension value) row

/-- The total of a row, added up in the order of the dimensions. -/
def total (row : PerDimension α) : α :=
  sum row.toList

/-- Divide a row by its total. -/
def normalized (row : PerDimension α) : Except Fault (PerDimension α) :=
  if atMost (total row) zero then .error .noPositiveTotal else .ok (row.map (· / total row))

/-- The weights of a category under an override. -/
def resolve (category : Category) : Override α → Except Fault (PerDimension α)
  | none => .ok (base category)
  | some entries => normalized (merged (base category) entries)

end

end Appraisal.Weights
