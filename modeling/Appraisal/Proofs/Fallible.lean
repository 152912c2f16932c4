/-!
# Computations that may fail
-/

namespace Appraisal

variable {ε α β : Type}

/-- A computation gives a result exactly if its first part gives a value and the rest the result. -/
theorem bind_eq_ok_iff {first : Except ε α} {next : α → Except ε β} {result : β} :
    first >>= next = .ok result ↔ ∃ value, first = .ok value ∧ next value = .ok result := by
  cases first with
  | error fault => simp [bind, Except.bind]
  | ok value => simp [bind, Except.bind]

theorem map_eq_ok_iff {given : Except ε α} {use : α → β} {result : β} :
    given.map use = .ok result ↔ ∃ value, given = .ok value ∧ use value = result := by
  cases given with
  | error fault => simp [Except.map]
  | ok value => simp [Except.map]

/-- Renaming faults changes no result. -/
theorem mapError_eq_ok_iff {φ : Type} {given : Except ε α} {rename : ε → φ} {result : α} :
    given.mapError rename = .ok result ↔ given = .ok result := by
  cases given with
  | error fault => exact ⟨nofun, nofun⟩
  | ok value =>
      constructor
      · rintro ⟨⟩
        rfl
      · rintro ⟨⟩
        rfl

theorem eq_ok_of_toOption {given : Except ε α} {result : α}
    (kept : given.toOption = some result) : given = .ok result := by
  cases given with
  | error fault => contradiction
  | ok value => exact congrArg Except.ok (Option.some.inj kept)

theorem exists_of_any_toOption {given : Except ε α} {test : α → Bool}
    (passed : given.toOption.any test = true) :
    ∃ result, given = .ok result ∧ test result = true := by
  cases given with
  | error fault => contradiction
  | ok result => exact ⟨result, rfl, passed⟩

end Appraisal
