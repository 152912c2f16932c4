import Appraisal.Proofs.Datum.Equality

/-!
# Shared undefined numbers

Lists and objects may hold one and the same undefined number, which then counts as equal to itself,
or different ones, which do not.  Data do not tell which is the case; `alike` takes undefined numbers
for different ones throughout.  It says the same as equality with any sharing about data one of which
has no undefined number (`settled_of_defined`).
-/

namespace Appraisal.Datum

/-- Whether a datum is an undefined number. -/
def isUndefined : Datum → Bool
  | .number value => value.extent = .undefined
  | _ => false

mutual

/-- Equality by content where some undefined numbers are shared: `one` tells the positions, on the
way down from the left side, at which both sides hold the same one.  An operand of a comparison that
is itself an undefined number equals nothing. -/
def alikeSharing (one : List Nat → Bool) : Datum → Datum → Bool
  | .list left, .list right => itemsAlikeSharing one 0 left right
  | .object left, .object right =>
      left.length == right.length && fieldsAlikeSharing one 0 left right
  | left, right => left.alike right

/-- `alikeSharing` for the items of two lists from a position on. -/
def itemsAlikeSharing (one : List Nat → Bool) (position : Nat) : List Datum → List Datum → Bool
  | [], [] => true
  | left :: lefts, right :: rights =>
      (left.isUndefined && right.isUndefined && one [position] ||
          alikeSharing (fun below => one (position :: below)) left right) &&
        itemsAlikeSharing one (position + 1) lefts rights
  | _, _ => false

/-- `alikeSharing` for the fields of two objects from a position on. -/
def fieldsAlikeSharing (one : List Nat → Bool) (position : Nat) :
    List (String × Datum) → List (String × Datum) → Bool
  | [], _ => true
  | (key, value) :: fields, right =>
      (match lookup key right with
        | some other =>
            value.isUndefined && other.isUndefined && one [position] ||
              alikeSharing (fun below => one (position :: below)) value other
        | none => false) &&
        fieldsAlikeSharing one (position + 1) fields right

end

/-- Equal or not, whichever undefined numbers are shared. -/
def Settled (left right : Datum) : Prop :=
  ∀ one, left.alikeSharing one right = left.alike right

theorem Settled.of_not_isContainer {left right : Datum} (scalar : left.isContainer = false) :
    Settled left right := by
  intro one
  cases left with
  | list | object => contradiction
  | _ => rw [alikeSharing] <;> nofun

theorem Defined.isUndefined {datum : Datum} (defined : datum.Defined) :
    datum.isUndefined = false := by
  cases defined with
  | number placed => simp [Datum.isUndefined, placed]
  | _ => rfl

theorem itemsAlikeSharing_eq {items : List Datum} (others : List Datum)
    (placed : ∀ item ∈ items, item.isUndefined = false)
    (each : ∀ item ∈ items, ∀ one other, item.alikeSharing one other = item.alike other)
    (one : List Nat → Bool) (position : Nat) :
    itemsAlikeSharing one position items others = allAlike items others := by
  induction items generalizing others position with
  | nil => cases others <;> rfl
  | cons item items induction =>
      rw [List.forall_mem_cons] at placed each
      cases others with
      | nil => rfl
      | cons other others =>
          rw [itemsAlikeSharing, allAlike, placed.1, each.1, induction others placed.2 each.2]
          rfl

theorem fieldsAlikeSharing_eq {fields : List (String × Datum)} (right : List (String × Datum))
    (placed : ∀ entry ∈ fields, entry.2.isUndefined = false)
    (each : ∀ entry ∈ fields, ∀ one other, entry.2.alikeSharing one other = entry.2.alike other)
    (one : List Nat → Bool) (position : Nat) :
    fieldsAlikeSharing one position fields right = fieldsAlike fields right := by
  induction fields generalizing position with
  | nil => rfl
  | cons entry fields induction =>
      obtain ⟨key, value⟩ := entry
      rw [List.forall_mem_cons] at placed each
      rw [fieldsAlikeSharing, fieldsAlike, induction placed.2 each.2]
      cases lookup key right with
      | none => rfl
      | some other =>
          dsimp only
          rw [placed.1, each.1]
          rfl

/-- Without undefined numbers on one side nothing can be shared. -/
theorem settled_of_defined {left : Datum} (defined : left.Defined) (right : Datum) :
    Settled left right := by
  intro one
  induction defined generalizing one right with
  | list each induction =>
      cases right with
      | list others =>
          rw [alikeSharing, alike]
          exact itemsAlikeSharing_eq others (fun item member => (each item member).isUndefined)
            (fun item member one other => induction item member other one) one 0
      | _ => rfl
  | object each induction =>
      cases right with
      | object others =>
          rw [alikeSharing, alike, fieldsAlikeSharing_eq others
            (fun entry member => (each entry member).isUndefined)
            (fun entry member one other => induction entry member other one)]
      | _ => rfl
  | null | truth | number | text => exact Settled.of_not_isContainer rfl one

/-! ## Values in one place -/

theorem itemsAlikeSharing_self {items : List Datum}
    (each : ∀ item ∈ items,
      item.isUndefined = true ∨ item.alikeSharing (fun _ => true) item = true)
    (position : Nat) : itemsAlikeSharing (fun _ => true) position items items = true := by
  induction items generalizing position with
  | nil => rfl
  | cons item items induction =>
      rw [List.forall_mem_cons] at each
      rw [itemsAlikeSharing, induction each.2]
      rcases each.1 with undefined | alike
      · simp [undefined]
      · simp [alike]

theorem fieldsAlikeSharing_self {fields right : List (String × Datum)}
    (found : ∀ entry ∈ fields, lookup entry.1 right = some entry.2)
    (each : ∀ entry ∈ fields,
      entry.2.isUndefined = true ∨ entry.2.alikeSharing (fun _ => true) entry.2 = true)
    (position : Nat) : fieldsAlikeSharing (fun _ => true) position fields right = true := by
  induction fields generalizing position with
  | nil => rfl
  | cons entry fields induction =>
      rw [List.forall_mem_cons] at found each
      rw [fieldsAlikeSharing, found.1, induction found.2 each.2]
      rcases each.1 with undefined | alike
      · simp [undefined]
      · simp [alike]

/-- A datum that shares everything with itself equals itself, unless it is an undefined number. -/
theorem alikeSharing_self {datum : Datum} (formed : datum.WellFormed) :
    datum.isUndefined = true ∨ datum.alikeSharing (fun _ => true) datum = true := by
  induction formed with
  | null => exact .inr rfl
  | truth value | text value => simp [alikeSharing, alike]
  | number value =>
      by_cases placed : value.extent = .undefined
      · simp [isUndefined, placed]
      · right
        rw [alikeSharing]
        · exact Extent.same_self placed
        all_goals simp
  | list each induction =>
      right
      rw [alikeSharing]
      exact itemsAlikeSharing_self induction 0
  | object distinct each induction =>
      right
      rw [alikeSharing, fieldsAlikeSharing_self (fun entry member => lookup_of_mem distinct member)
        induction]
      simp

/-- A list or an object equals itself by its content if no sharing matters. -/
theorem alike_self_of_settled {datum : Datum} (formed : datum.WellFormed)
    (container : datum.isContainer = true) (settled : Settled datum datum) :
    datum.alike datum = true := by
  rw [← settled fun _ => true]
  refine (alikeSharing_self formed).resolve_left ?_
  cases datum <;> simp_all [isContainer, isUndefined]

end Appraisal.Datum
