import Appraisal.Proofs.Datum.Fields
import Appraisal.Proofs.Number.Order
import Mathlib.Data.List.Perm.Subperm

/-!
# Equality of data

An undefined number is not equal to itself, and so no list or object is that holds one.  Every other
datum is, if no object of it has two fields with one key.  Equality goes both ways between such
objects, because one of two objects with as many fields cannot have keys of its own only, and it
carries over from one pair to the next whatever the data hold.
-/

namespace Appraisal.Datum

/-- No undefined number at any depth. -/
inductive Defined : Datum → Prop
  | null : Defined .null
  | truth (value : Bool) : Defined (.truth value)
  | number {value : Number} (placed : value.extent ≠ .undefined) : Defined (.number value)
  | text (value : String) : Defined (.text value)
  | list {items : List Datum} (each : ∀ item ∈ items, Defined item) : Defined (.list items)
  | object {fields : List (String × Datum)} (each : ∀ entry ∈ fields, Defined entry.2) :
      Defined (.object fields)

theorem Defined.whole (value : Int) : (Datum.whole value).Defined :=
  .number nofun

/-! ## Numbers and truth values -/

/-- The number that a datum counts as where truth values and numbers are not told apart. -/
def counted? : Datum → Option Number
  | .truth value => some (countOf value)
  | .number value => some value
  | _ => none

theorem alike_of_counted? {left right : Datum} {first second : Number}
    (left_eq : left.counted? = some first) (right_eq : right.counted? = some second) :
    left.alike right = first.same second := by
  cases left with
  | truth value =>
      cases left_eq
      cases right with
      | truth other =>
          cases right_eq
          cases value <;> cases other <;> rfl
      | number other =>
          cases right_eq
          rfl
      | _ => contradiction
  | number value =>
      cases left_eq
      cases right with
      | truth other =>
          cases right_eq
          rfl
      | number other =>
          cases right_eq
          rfl
      | _ => contradiction
  | _ => contradiction

/-- What equals a number or a truth value is one of both. -/
theorem exists_counted?_of_alike {left right : Datum} {number : Number}
    (left_eq : left.counted? = some number) (equal : left.alike right = true) :
    ∃ other, right.counted? = some other := by
  cases right with
  | truth other => exact ⟨countOf other, rfl⟩
  | number other => exact ⟨other, rfl⟩
  | _ => cases left <;> contradiction

/-! ## Lists and objects -/

theorem allAlike_self {items : List Datum} (each : ∀ item ∈ items, item.alike item = true) :
    allAlike items items = true := by
  induction items with
  | nil => rfl
  | cons item others induction =>
      rw [List.forall_mem_cons] at each
      rw [allAlike, each.1, induction each.2]
      rfl

theorem allAlike_symm {left right : List Datum}
    (each : ∀ item ∈ left, ∀ other ∈ right, item.alike other = true → other.alike item = true)
    (equal : allAlike left right = true) : allAlike right left = true := by
  induction left generalizing right with
  | nil =>
      cases right with
      | nil => rfl
      | cons => contradiction
  | cons item items induction =>
      cases right with
      | nil => contradiction
      | cons other others =>
          rw [allAlike, Bool.and_eq_true] at equal ⊢
          refine ⟨each item List.mem_cons_self other List.mem_cons_self equal.1, ?_⟩
          refine induction (fun value member another further => ?_) equal.2
          exact each value (List.mem_cons_of_mem item member) another
            (List.mem_cons_of_mem other further)

theorem allAlike_trans {first second third : List Datum}
    (each : ∀ item ∈ first, ∀ other another, item.alike other = true →
      other.alike another = true → item.alike another = true)
    (left : allAlike first second = true) (right : allAlike second third = true) :
    allAlike first third = true := by
  induction first generalizing second third with
  | nil =>
      cases second with
      | nil => exact right
      | cons => contradiction
  | cons item items induction =>
      cases second with
      | nil => contradiction
      | cons other others =>
          cases third with
          | nil => contradiction
          | cons another rest =>
              rw [List.forall_mem_cons] at each
              rw [allAlike, Bool.and_eq_true] at left right ⊢
              exact ⟨each.1 other another left.1 right.1, induction each.2 left.2 right.2⟩

theorem fieldsAlike_iff {fields right : List (String × Datum)} :
    fieldsAlike fields right = true ↔
      ∀ entry ∈ fields, ∃ other, lookup entry.1 right = some other ∧
        entry.2.alike other = true := by
  induction fields with
  | nil => simp [fieldsAlike]
  | cons first others induction =>
      obtain ⟨key, value⟩ := first
      rw [fieldsAlike, Bool.and_eq_true, induction, List.forall_mem_cons]
      refine and_congr_left fun _ => ?_
      cases lookup key right <;> simp

theorem alike_object_iff {left right : List (String × Datum)} :
    (object left).alike (object right) = true ↔ left.length = right.length ∧
      ∀ entry ∈ left, ∃ other, lookup entry.1 right = some other ∧
        entry.2.alike other = true := by
  rw [alike, Bool.and_eq_true, beq_iff_eq, fieldsAlike_iff]

theorem keys_subset_of_found {left right : List (String × Datum)}
    (found : ∀ entry ∈ left, ∃ other, lookup entry.1 right = some other ∧
      entry.2.alike other = true) : left.map Prod.fst ⊆ right.map Prod.fst := by
  intro key member
  obtain ⟨entry, entry_member, rfl⟩ := List.mem_map.mp member
  obtain ⟨other, other_found, _⟩ := found entry entry_member
  exact mem_keys_of_lookup other_found

/-- An object with distinct keys that are all found in another with as many fields has every key of
that. -/
theorem keys_subset_of_keys_subset {left right : List (String × Datum)}
    (distinct : (left.map Prod.fst).Nodup) (length_eq : left.length = right.length)
    (found : left.map Prod.fst ⊆ right.map Prod.fst) :
    right.map Prod.fst ⊆ left.map Prod.fst := by
  refine ((distinct.subperm found).perm_of_length_le ?_).symm.subset
  rw [List.length_map, List.length_map, length_eq]

/-! ## The laws of equality -/

/-- Data without undefined numbers equal themselves. -/
theorem alike_self {datum : Datum} (formed : datum.WellFormed) (defined : datum.Defined) :
    datum.alike datum = true := by
  induction formed with
  | null => rfl
  | truth value | text value => simp [alike]
  | number value =>
      cases defined with
      | number placed => exact Extent.same_self placed
  | list each induction =>
      cases defined with
      | list items_defined =>
          rw [alike]
          exact allAlike_self fun item member => induction item member (items_defined item member)
  | object distinct each induction =>
      cases defined with
      | object fields_defined =>
          refine alike_object_iff.mpr ⟨rfl, fun entry member => ?_⟩
          exact ⟨entry.2, lookup_of_mem distinct member,
            induction entry member (fields_defined entry member)⟩

theorem alike_comm_of_counted? {left right : Datum} {number : Number}
    (left_eq : left.counted? = some number) (equal : left.alike right = true) :
    right.alike left = true := by
  obtain ⟨other, right_eq⟩ := exists_counted?_of_alike left_eq equal
  rw [alike_of_counted? left_eq right_eq] at equal
  rwa [alike_of_counted? right_eq left_eq, Number.same, Extent.same_comm]

theorem alike_trans_of_counted? {first second third : Datum} {number : Number}
    (first_eq : first.counted? = some number) (left : first.alike second = true)
    (right : second.alike third = true) : first.alike third = true := by
  obtain ⟨other, second_eq⟩ := exists_counted?_of_alike first_eq left
  obtain ⟨another, third_eq⟩ := exists_counted?_of_alike second_eq right
  rw [alike_of_counted? first_eq second_eq] at left
  rw [alike_of_counted? second_eq third_eq] at right
  rw [alike_of_counted? first_eq third_eq]
  exact Extent.same_trans left right

/-- Equality of data goes both ways if their keys are distinct. -/
theorem alike_symm {left right : Datum} (left_formed : left.WellFormed)
    (right_formed : right.WellFormed) (equal : left.alike right = true) :
    right.alike left = true := by
  induction left_formed generalizing right with
  | null => cases right <;> first | rfl | contradiction
  | truth value => exact alike_comm_of_counted? rfl equal
  | number value => exact alike_comm_of_counted? rfl equal
  | text value =>
      cases right with
      | text other =>
          rw [alike, beq_iff_eq] at equal ⊢
          exact equal.symm
      | _ => contradiction
  | list each induction =>
      cases right_formed with
      | list others_formed =>
          rw [alike] at equal ⊢
          exact allAlike_symm (fun item member other further =>
            induction item member (others_formed other further)) equal
      | _ => contradiction
  | @object fields distinct each induction =>
      cases right_formed with
      | object right_distinct right_formed =>
          obtain ⟨length_eq, found⟩ := alike_object_iff.mp equal
          refine alike_object_iff.mpr ⟨length_eq.symm, ?_⟩
          rintro ⟨key, other⟩ member
          have key_member : key ∈ fields.map Prod.fst :=
            keys_subset_of_keys_subset distinct length_eq (keys_subset_of_found found)
              (List.mem_map_of_mem member)
          obtain ⟨⟨name, value⟩, left_member, rfl⟩ := List.mem_map.mp key_member
          obtain ⟨another, right_found, equal_value⟩ := found (name, value) left_member
          obtain rfl : other = another :=
            Option.some.inj ((lookup_of_mem right_distinct member).symm.trans right_found)
          exact ⟨value, lookup_of_mem distinct left_member,
            induction _ left_member (right_formed _ member) equal_value⟩
      | _ => contradiction

/-- Equality of data carries over. -/
theorem alike_trans {first second third : Datum} (formed : first.WellFormed)
    (left : first.alike second = true) (right : second.alike third = true) :
    first.alike third = true := by
  induction formed generalizing second third with
  | null =>
      cases second with
      | null => exact right
      | _ => contradiction
  | truth value => exact alike_trans_of_counted? rfl left right
  | number value => exact alike_trans_of_counted? rfl left right
  | text value =>
      cases second with
      | text other =>
          rw [alike, beq_iff_eq] at left
          rwa [left]
      | _ => contradiction
  | list each induction =>
      cases second with
      | list others =>
          cases third with
          | list rest =>
              rw [alike] at left right ⊢
              exact allAlike_trans (fun item member _ _ => induction item member) left right
          | _ => contradiction
      | _ => contradiction
  | object distinct each induction =>
      cases second with
      | object others =>
          cases third with
          | object rest =>
              obtain ⟨left_length, left_found⟩ := alike_object_iff.mp left
              obtain ⟨right_length, right_found⟩ := alike_object_iff.mp right
              refine alike_object_iff.mpr ⟨left_length.trans right_length, fun entry member => ?_⟩
              obtain ⟨other, other_found, other_eq⟩ := left_found entry member
              obtain ⟨another, another_found, another_eq⟩ :=
                right_found (entry.1, other) (mem_of_lookup other_found)
              exact ⟨another, another_found, induction entry member other_eq another_eq⟩
          | _ => contradiction
      | _ => contradiction

end Appraisal.Datum
