import Appraisal.Datum.Conversion
import Appraisal.Time.Stamp

/-!
# Tables of rows with a lifetime

A table keeps one row under each key.  A row that the program writes ends at an instant; a row from
elsewhere carries a stamp, which is read only when the row is.
-/

namespace Appraisal

/-- When a row ends. -/
inductive Expiry
  | at (instant : Time.Instant)
  /-- As a stamp says; an empty or absent one never. -/
  | stamped (stamp : Datum)

/-- A value with its end. -/
structure Row where
  value : Datum
  /-- When it ends. -/
  expiry : Expiry

/-- Rows under keys. -/
structure Table where
  /-- The rows, in the order of their first writing. -/
  rows : List (String × Row)

/-- When a row ends, as it is stored. -/
def Expiry.toDatum : Expiry → Datum
  | .at instant => .text instant.stamp
  | .stamped stamp => stamp

/-- The record of a row. -/
def Row.toDatum (key : String) (row : Row) : Datum :=
  .object [("key", .text key), ("value", row.value), ("expires_at", row.expiry.toDatum)]

namespace Table

/-- The records of all rows, by key. -/
def toDatum (table : Table) : Datum :=
  .object (table.rows.map fun (key, row) => (key, row.toDatum key))

/-- No rows. -/
def empty : Table := ⟨[]⟩

/-- The row under a key, in a list of rows. -/
def lookup (key : String) : List (String × Row) → Option Row
  | [] => none
  | (name, row) :: rows => if name = key then some row else lookup key rows

/-- Put a row in the place of the one under its key, or at the end. -/
def insert (key : String) (row : Row) : List (String × Row) → List (String × Row)
  | [] => [(key, row)]
  | (name, old) :: rows =>
      if name = key then (name, row) :: rows else (name, old) :: insert key row rows

/-- The row under a key. -/
def get? (table : Table) (key : String) : Option Row :=
  lookup key table.rows

/-- Write a row under a key. -/
def put (table : Table) (key : String) (row : Row) : Table :=
  ⟨insert key row table.rows⟩

theorem lookup_insert (key other : String) (row : Row) (rows : List (String × Row)) :
    lookup other (insert key row rows) = if other = key then some row else lookup other rows := by
  induction rows with
  | nil => simp [insert, lookup, eq_comm]
  | cons first rows induction =>
      obtain ⟨name, old⟩ := first
      by_cases here : name = key
      · subst here
        by_cases same : name = other
        · simp [insert, lookup, same]
        · simp [insert, lookup, same, Ne.symm same]
      · by_cases found : name = other
        · subst found
          simp [insert, lookup, here]
        · simp [insert, lookup, here, found, induction]

theorem get?_put (table : Table) (key other : String) (row : Row) :
    (table.put key row).get? other = if other = key then some row else table.get? other :=
  lookup_insert key other row table.rows

end Table

/-- Why the end of a row cannot be told. -/
inductive ExpiryFault
  /-- The stamp names no instant. -/
  | stamp (fault : Time.StampFault)
  | noText
  deriving DecidableEq, Repr

/-- The sentence that describes a fault. -/
def ExpiryFault.message : ExpiryFault → String
  | .stamp fault => fault.message
  | .noText => "fromisoformat: argument must be str"

/-- Whether a row has ended; it has at the very instant of its end. -/
def Expiry.hasPassed (now : Time.Instant) : Expiry → Except ExpiryFault Bool
  | .at instant => .ok (instant.atMost now)
  | .stamped stamp =>
      if stamp.isVacant then .ok false
      else
        match stamp with
        | .text stamp =>
            match Time.Stamp.read stamp with
            | .ok instant => .ok (instant.atMost now)
            | .error fault => .error (.stamp fault)
        | _ => .error .noText

end Appraisal
