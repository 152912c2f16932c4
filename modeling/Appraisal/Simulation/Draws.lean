/-!
# Draws

A simulation is a function of its draws: uniform ones between zero and one, and normal ones.  Draws
are numbered; rows and columns of draws are numbered row by row.
-/

namespace Appraisal.Simulation

/-- Two endless rows of draws. -/
structure Draws (α : Type) where
  uniform : Nat → α
  normal : Nat → α

/-- A row repeated for ever; an empty row gives the default. -/
def cycle {α : Type} (default : α) (values : Array α) (index : Nat) : α :=
  values.getD (index % values.size) default

/-- Draws from two rows that are repeated for ever. -/
def Draws.ofCycles {α : Type} (default : α) (uniforms normals : List α) : Draws α :=
  let uniformRow := uniforms.toArray
  let normalRow := normals.toArray
  { uniform := cycle default uniformRow, normal := cycle default normalRow }

/-- The index of a quantile, given in tenths, in a sorted row of some length. -/
def quantileIndex (tenths length : Nat) : Nat :=
  min (length - 1) (tenths * length / 10)

/-- What is said of a simulation without runs. -/
def noRuns : String := "runs must be >= 1"

end Appraisal.Simulation
