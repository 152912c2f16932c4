import Appraisal.Policy.Weights
import Mathlib.Data.List.Basic
import Mathlib.Data.List.Induction

/-!
# Rows under an override

An override consists of named values.  A value whose name is that of a dimension takes the place of
the weight of that dimension, the last one if there are several, and values with other names are
left alone.  An override without any value is none, and then the row of the category is not even
divided by its total (`under_eq`).
-/

namespace Appraisal

namespace Dimension

theorem ofName?_eq_some_iff {name : String} {dimension : Dimension} :
    ofName? name = some dimension ↔ name = dimension.name := by
  constructor
  · intro found
    obtain ⟨before, after, parts, _⟩ := List.lookup_eq_some_iff.mp found
    have member : (name, dimension) ∈ options := by simp [parts]
    obtain ⟨_, _, named⟩ := List.mem_map.mp member
    cases named
    rfl
  · rintro rfl
    exact ofName?_name dimension

end Dimension

namespace Weights

variable {α : Type}

/-- The values of an override that have the name of a dimension. -/
def entries (fields : List (String × α)) : List (Dimension × α) :=
  fields.filterMap fun (name, value) => (Dimension.ofName? name).map (·, value)

/-- A row with the values of an override in the places of their names. -/
def overwritten (row : PerDimension α) (fields : List (String × α)) : PerDimension α :=
  .ofFunction fun dimension => (fields.reverse.lookup dimension.name).getD (row.get dimension)

theorem lookup_entries (fields : List (String × α)) (dimension : Dimension) :
    (entries fields).lookup dimension = fields.lookup dimension.name := by
  induction fields with
  | nil => rfl
  | cons field fields induction =>
      obtain ⟨name, value⟩ := field
      by_cases named : dimension.name = name
      · subst named
        simp [entries, Dimension.ofName?_name]
      · rw [List.lookup_cons, beq_eq_false_iff_ne.mpr named, ← induction]
        cases found : Dimension.ofName? name with
        | none => simp [entries, found]
        | some other =>
            have different : dimension ≠ other := by
              rintro rfl
              exact named (Dimension.ofName?_eq_some_iff.mp found).symm
            simp [entries, found, List.lookup_cons, beq_eq_false_iff_ne.mpr different]

theorem entries_filter (fields : List (String × α)) :
    entries (fields.filter fun field => (Dimension.ofName? field.1).isSome) = entries fields := by
  rw [entries, entries, List.filterMap_filter]
  apply List.filterMap_congr
  rintro ⟨name, value⟩ _
  cases found : Dimension.ofName? name <;> simp [found]

theorem entries_eq_nil {fields : List (String × α)}
    (unknown : ∀ field ∈ fields, Dimension.ofName? field.1 = none) : entries fields = [] := by
  rw [entries, List.filterMap_eq_nil_iff]
  rintro ⟨name, value⟩ member
  simp [unknown _ member]

/-! ## Overwritten rows -/

theorem overwritten_nil (row : PerDimension α) : overwritten row [] = row := by
  ext dimension
  simp [overwritten]

/-- Values whose names are no dimension's have no part in a row. -/
theorem overwritten_of_entries_eq {fields others : List (String × α)}
    (same : entries fields = entries others) (row : PerDimension α) :
    overwritten row fields = overwritten row others := by
  ext dimension
  have reversed (fields : List (String × α)) : entries fields.reverse = (entries fields).reverse :=
    List.filterMap_reverse
  simp only [overwritten, PerDimension.get_ofFunction, ← lookup_entries, reversed, same]

theorem lookup_map_values {β : Type} (change : α → β) (fields : List (String × α)) (key : String) :
    (fields.map fun (name, value) => (name, change value)).lookup key =
      (fields.lookup key).map change := by
  induction fields with
  | nil => rfl
  | cons field fields induction =>
      rw [List.map_cons, List.lookup_cons, List.lookup_cons, induction]
      split <;> rfl

/-- If all dimensions are overwritten, nothing is left of the row. -/
theorem overwritten_map {fields : List (String × α)}
    (full : ∀ dimension : Dimension, dimension.name ∈ fields.map Prod.fst) (change : α → α)
    (row : PerDimension α) :
    overwritten row (fields.map fun (name, value) => (name, change value)) =
      (overwritten row fields).map change := by
  ext dimension
  obtain ⟨field, member, named⟩ := List.mem_map.mp (full dimension)
  have found : (fields.reverse.lookup dimension.name).isSome = true :=
    List.lookup_isSome_iff.mpr
      ⟨field, List.mem_reverse.mpr member, beq_iff_eq.mpr named.symm⟩
  obtain ⟨value, found⟩ := Option.isSome_iff_exists.mp found
  rw [PerDimension.get_map, overwritten, overwritten, PerDimension.get_ofFunction,
    PerDimension.get_ofFunction, ← List.map_reverse, lookup_map_values, found]
  rfl

/-- What holds of the weights of a category and of what an override puts for a dimension holds of
the overwritten row. -/
theorem get_overwritten_induction {row : PerDimension α} {fields : List (String × α)}
    {dimension : Dimension} {motive : α → Prop} (kept : motive (row.get dimension))
    (put : ∀ value, (dimension.name, value) ∈ fields → motive value) :
    motive ((overwritten row fields).get dimension) := by
  rw [overwritten, PerDimension.get_ofFunction]
  cases found : fields.reverse.lookup dimension.name with
  | none => exact kept
  | some value =>
      obtain ⟨before, after, parts, _⟩ := List.lookup_eq_some_iff.mp found
      have member : (dimension.name, value) ∈ fields.reverse := by simp [parts]
      exact put value (List.mem_reverse.mp member)

/-! ## Resolving an override -/

theorem get_merged (row : PerDimension α) (values : List (Dimension × α)) (dimension : Dimension) :
    (merged row values).get dimension =
      (values.reverse.lookup dimension).getD (row.get dimension) := by
  induction values using List.reverseRecOn with
  | nil => rfl
  | append_singleton values last induction =>
      obtain ⟨set, value⟩ := last
      rw [merged, List.foldl_concat, ← merged, PerDimension.get_set, List.reverse_concat,
        List.lookup_cons]
      by_cases here : dimension = set
      · simp [here]
      · simp [here, induction, beq_eq_false_iff_ne.mpr here]

theorem merged_entries (row : PerDimension α) (fields : List (String × α)) :
    merged row (entries fields) = overwritten row fields := by
  ext dimension
  have reversed : (entries fields).reverse = entries fields.reverse :=
    List.filterMap_reverse.symm
  rw [get_merged, reversed, lookup_entries, overwritten, PerDimension.get_ofFunction]

theorem ofFields_ok (fields : List (String × α)) :
    (Override.ofFields .ok fields : Except Fault (Override α)) =
      .ok (if fields.isEmpty then none else some (entries fields)) := by
  rw [Override.ofFields]
  split
  · rfl
  · have kept : (fun entry : Dimension × α =>
        (Except.ok entry.2 : Except Fault α).map (entry.1, ·)) = fun entry => pure (id entry) := rfl
    simp only [kept, List.mapM_pure, List.map_id]
    rfl

variable [Arithmetic α]

/-- The weights of the category with a name, under the values of an override. -/
def under (name : String) (fields : List (String × α)) : Except Fault (PerDimension α) :=
  (Override.ofFields .ok fields).bind (resolve (Category.ofName name))

theorem under_eq (name : String) (fields : List (String × α)) :
    under name fields =
      if fields.isEmpty then .ok (base (Category.ofName name))
      else normalized (overwritten (base (Category.ofName name)) fields) := by
  rw [under, ofFields_ok]
  cases fields with
  | nil => rfl
  | cons field fields => exact congrArg normalized (merged_entries _ _)

end Weights

end Appraisal
