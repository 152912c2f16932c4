import Appraisal.Datum.Record
import Mathlib.Data.List.Nodup

/-!
# Fields under their keys

What is found under a key after fields were put over others, renewed, dropped or lined up.
-/

namespace Appraisal.Datum

theorem mem_of_lookup {key : String} {fields : List (String × Datum)} {value : Datum}
    (found : lookup key fields = some value) : (key, value) ∈ fields := by
  induction fields with
  | nil => contradiction
  | cons first others induction =>
      obtain ⟨name, content⟩ := first
      rw [lookup] at found
      split at found
      · rename_i here
        subst here
        cases found
        exact List.mem_cons_self
      · exact List.mem_cons_of_mem _ (induction found)

theorem mem_keys_of_lookup {key : String} {fields : List (String × Datum)} {value : Datum}
    (found : lookup key fields = some value) : key ∈ fields.map Prod.fst :=
  List.mem_map.mpr ⟨(key, value), mem_of_lookup found, rfl⟩

theorem lookup_eq_none_iff {key : String} {fields : List (String × Datum)} :
    lookup key fields = none ↔ key ∉ fields.map Prod.fst := by
  induction fields with
  | nil => simp [lookup]
  | cons first others induction =>
      obtain ⟨name, content⟩ := first
      rw [lookup, List.map_cons, List.mem_cons, not_or]
      split
      · rename_i here
        simp [here]
      · rename_i other
        rw [induction, and_iff_right (Ne.symm other)]

/-- Under distinct keys every field is found. -/
theorem lookup_of_mem {fields : List (String × Datum)} (distinct : (fields.map Prod.fst).Nodup)
    {key : String} {value : Datum} (member : (key, value) ∈ fields) :
    lookup key fields = some value := by
  induction fields with
  | nil => contradiction
  | cons first others induction =>
      obtain ⟨name, content⟩ := first
      rw [List.map_cons, List.nodup_cons] at distinct
      obtain ⟨once, others_distinct⟩ := distinct
      rw [lookup]
      rcases List.mem_cons.mp member with here | further
      · obtain ⟨rfl, rfl⟩ := Prod.mk.inj here
        rw [if_pos rfl]
      · have other : name ≠ key := by
          rintro rfl
          exact once (List.mem_map.mpr ⟨(name, value), further, rfl⟩)
        rw [if_neg other, induction others_distinct further]

theorem lookup_insert (key other : String) (value : Datum) (fields : List (String × Datum)) :
    lookup other (insert key value fields) =
      if other = key then some value else lookup other fields := by
  induction fields with
  | nil => simp [insert, lookup, eq_comm]
  | cons first others induction =>
      obtain ⟨name, old⟩ := first
      by_cases here : name = key
      · subst here
        by_cases same : name = other
        · simp [insert, lookup, same]
        · simp [insert, lookup, same, Ne.symm same]
      · by_cases found : name = other
        · subst found
          simp [insert, lookup, here]
        · simp [insert, lookup, here, found, induction]

/-- An insertion adds at most its key, at the end. -/
theorem keys_insert (key : String) (value : Datum) (fields : List (String × Datum)) :
    (insert key value fields).map Prod.fst =
      if key ∈ fields.map Prod.fst then fields.map Prod.fst else fields.map Prod.fst ++ [key] := by
  induction fields with
  | nil => rfl
  | cons first others induction =>
      obtain ⟨name, old⟩ := first
      by_cases here : name = key
      · simp [insert, here]
      · by_cases further : key ∈ others.map Prod.fst
        · simp_all [insert]
        · simp_all [insert, Ne.symm here]

/-- Fields that are put over others hide those with their keys. -/
theorem lookup_merged (key : String) (fields : List (String × Datum))
    {additions : List (String × Datum)} (distinct : (additions.map Prod.fst).Nodup) :
    lookup key (merged fields additions) = (lookup key additions).or (lookup key fields) := by
  induction additions generalizing fields with
  | nil => rfl
  | cons first others induction =>
      obtain ⟨name, value⟩ := first
      rw [List.map_cons, List.nodup_cons] at distinct
      obtain ⟨once, others_distinct⟩ := distinct
      have step : merged fields ((name, value) :: others) =
          merged (insert name value fields) others := rfl
      rw [step, induction _ others_distinct, lookup_insert, lookup]
      by_cases here : name = key
      · subst here
        rw [lookup_eq_none_iff.mpr once, if_pos rfl, if_pos rfl]
        rfl
      · rw [if_neg here, if_neg (Ne.symm here)]

theorem nodup_keys_merged {fields : List (String × Datum)} (additions : List (String × Datum))
    (distinct : (fields.map Prod.fst).Nodup) :
    ((merged fields additions).map Prod.fst).Nodup := by
  induction additions generalizing fields with
  | nil => exact distinct
  | cons first others induction =>
      obtain ⟨name, value⟩ := first
      refine induction ?_
      rw [keys_insert]
      split
      · exact distinct
      · rename_i absent
        rw [← List.concat_eq_append]
        exact distinct.concat absent

theorem lookup_map_values (key : String) (change : Datum → Datum)
    (fields : List (String × Datum)) :
    lookup key (fields.map fun (name, value) => (name, change value)) =
      (lookup key fields).map change := by
  induction fields with
  | nil => rfl
  | cons first others induction =>
      obtain ⟨name, value⟩ := first
      rw [List.map_cons, lookup, lookup]
      split
      · rfl
      · exact induction

/-- A choice among the keys drops no field under a chosen one. -/
theorem lookup_filter_keys (keep : String → Bool) {key : String} (kept : keep key = true)
    (fields : List (String × Datum)) :
    lookup key (fields.filter fun field => keep field.1) = lookup key fields := by
  induction fields with
  | nil => rfl
  | cons first others induction =>
      obtain ⟨name, value⟩ := first
      rw [List.filter_cons, lookup]
      by_cases here : name = key
      · subst here
        rw [if_pos kept, if_pos rfl, lookup, if_pos rfl]
      · rw [if_neg here, ← induction]
        split
        · rw [lookup, if_neg here]
        · rfl

theorem lookup_append (key : String) (fields others : List (String × Datum)) :
    lookup key (fields ++ others) = (lookup key fields).or (lookup key others) := by
  induction fields with
  | nil => rfl
  | cons first rest induction =>
      obtain ⟨name, value⟩ := first
      rw [List.cons_append, lookup, lookup]
      split
      · rfl
      · exact induction

/-- Under distinct keys the present fields are those that are not null. -/
theorem lookup_present {fields : List (String × Datum)} (distinct : (fields.map Prod.fst).Nodup)
    (key : String) :
    lookup key (present fields) = (lookup key fields).filter fun value => !value.isNull := by
  induction fields with
  | nil => rfl
  | cons first others induction =>
      obtain ⟨name, content⟩ := first
      rw [List.map_cons, List.nodup_cons] at distinct
      obtain ⟨once, others_distinct⟩ := distinct
      have others_eq := induction others_distinct
      rw [present] at others_eq ⊢
      rw [List.filter_cons, lookup]
      by_cases here : name = key
      · subst here
        rw [if_pos rfl, Option.filter_some]
        cases null : content.isNull with
        | false => simp [lookup]
        | true => simp [others_eq, lookup_eq_none_iff.mpr once]
      · rw [if_neg here, ← others_eq]
        split
        · rw [lookup, if_neg here]
        · rfl

/-! ## Null and nothing -/

/-- Fields with the same value under every key; a key may be there with null on one side and not be
there on the other. -/
def SameContent (first second : List (String × Datum)) : Prop :=
  ∀ key, (lookup key first).getD .null = (lookup key second).getD .null

/-- A key that is not found alike in fields with the same content leads to null, or nowhere. -/
theorem SameContent.getD_of_lookup_ne {first second : List (String × Datum)}
    (content : SameContent first second) {key : String}
    (apart : lookup key first ≠ lookup key second) :
    (lookup key first).getD .null = .null := by
  have content_eq := content key
  cases here : lookup key first with
  | none => rfl
  | some value =>
      cases there : lookup key second with
      | none =>
          rw [here, there] at content_eq
          exact content_eq
      | some other =>
          rw [here, there] at content_eq apart
          exact absurd (congrArg some content_eq) apart

theorem sameContent_present {fields : List (String × Datum)}
    (distinct : (fields.map Prod.fst).Nodup) : SameContent (present fields) fields := by
  intro key
  rw [lookup_present distinct]
  cases lookup key fields with
  | none => rfl
  | some value => cases value <;> rfl

mutual

/-- The datum without the null fields of its objects, at every depth. -/
def withoutNulls : Datum → Datum
  | .list items => .list (itemsWithoutNulls items)
  | .object fields => .object (fieldsWithoutNulls fields)
  | datum => datum

/-- `withoutNulls` for the items of a list. -/
def itemsWithoutNulls : List Datum → List Datum
  | [] => []
  | item :: items => withoutNulls item :: itemsWithoutNulls items

/-- `withoutNulls` for the fields of an object. -/
def fieldsWithoutNulls : List (String × Datum) → List (String × Datum)
  | [] => []
  | (key, value) :: fields =>
      if value.isNull then fieldsWithoutNulls fields
      else (key, withoutNulls value) :: fieldsWithoutNulls fields

end

@[simp]
theorem withoutNulls_list (items : List Datum) :
    (list items).withoutNulls = .list (items.map withoutNulls) := by
  have each : itemsWithoutNulls items = items.map withoutNulls := by
    induction items with
    | nil => rfl
    | cons item others induction => rw [itemsWithoutNulls, induction, List.map_cons]
  rw [withoutNulls, each]

theorem isNull_withoutNulls (datum : Datum) : datum.withoutNulls.isNull = datum.isNull := by
  cases datum <;> rfl

@[simp]
theorem withoutNulls_object (fields : List (String × Datum)) :
    (object fields).withoutNulls =
      .object (present (fields.map fun (key, value) => (key, value.withoutNulls))) := by
  have each : fieldsWithoutNulls fields =
      present (fields.map fun (key, value) => (key, value.withoutNulls)) := by
    induction fields with
    | nil => rfl
    | cons first others induction =>
        obtain ⟨key, value⟩ := first
        rw [fieldsWithoutNulls, induction, present, present, List.map_cons, List.filter_cons,
          isNull_withoutNulls]
        cases value.isNull <;> rfl
  rw [withoutNulls, each]

@[simp]
theorem withoutNulls_text (value : String) : (text value).withoutNulls = .text value :=
  rfl

@[simp]
theorem withoutNulls_number (value : Number) : (number value).withoutNulls = .number value :=
  rfl

@[simp]
theorem withoutNulls_ofText? (value : Option String) :
    (ofText? value).withoutNulls = ofText? value := by
  cases value <;> rfl

@[simp]
theorem withoutNulls_ofTruth? (value : Option Bool) :
    (ofTruth? value).withoutNulls = ofTruth? value := by
  cases value <;> rfl

end Appraisal.Datum
