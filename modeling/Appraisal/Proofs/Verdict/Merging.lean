import Appraisal.Verdict
import Mathlib.Data.List.Basic

/-!
# Merging actions

Flags are added one after another, each unless it is there already.  What comes out has no
repetitions and nothing is lost, and the flags stand in the order in which they first come up.  Lists
of actions can be merged piece by piece, and merging the same actions once more changes no flag
(`ofActions_merges`).
-/

namespace Appraisal

namespace Merged

/-! ## Adding flags -/

theorem addFlag_of_mem {flags : List String} {added : String} (known : added ∈ flags) :
    addFlag flags added = flags :=
  if_pos (List.contains_iff_mem.mpr known)

theorem addFlag_of_not_mem {flags : List String} {added : String} (new : added ∉ flags) :
    addFlag flags added = flags ++ [added] :=
  if_neg (mt List.contains_iff_mem.mp new)

/-- A flag is there after another one was added if it is that one or was there before. -/
theorem mem_addFlag {flags : List String} {added flag : String} :
    flag ∈ addFlag flags added ↔ flag ∈ flags ∨ flag = added := by
  by_cases known : added ∈ flags
  · rw [addFlag_of_mem known, or_iff_left_of_imp]
    rintro rfl
    exact known
  · rw [addFlag_of_not_mem known, List.mem_append, List.mem_singleton]

theorem mem_foldl_addFlag {added flags : List String} {flag : String} :
    flag ∈ added.foldl addFlag flags ↔ flag ∈ flags ∨ flag ∈ added := by
  induction added generalizing flags with
  | nil => simp
  | cons first others induction =>
      rw [List.foldl_cons, induction, mem_addFlag, List.mem_cons, or_assoc]

/-- Flags that are all there already add nothing. -/
theorem foldl_addFlag_of_subset {added flags : List String} (known : added ⊆ flags) :
    added.foldl addFlag flags = flags := by
  induction added with
  | nil => rfl
  | cons first others induction =>
      rw [List.cons_subset] at known
      rw [List.foldl_cons, addFlag_of_mem known.1, induction known.2]

/-- Flags without repetitions are added as they are. -/
theorem foldl_addFlag_of_nodup {added flags : List String} (distinct : (flags ++ added).Nodup) :
    added.foldl addFlag flags = flags ++ added := by
  induction added generalizing flags with
  | nil => exact (List.append_nil flags).symm
  | cons first others induction =>
      have new : first ∉ flags := by
        intro known
        exact (List.nodup_append.mp distinct).2.2 first known first List.mem_cons_self rfl
      rw [List.append_cons] at distinct ⊢
      rw [List.foldl_cons, addFlag_of_not_mem new, induction distinct]

/-! ## The order of flags -/

/-- Flags stand as they first come up in a list, each once. -/
def InOrderOf (seen flags : List String) : Prop :=
  flags.Pairwise fun one other => seen.idxOf one < seen.idxOf other

theorem InOrderOf.nodup {seen flags : List String} (ordered : InOrderOf seen flags) :
    flags.Nodup :=
  ordered.imp fun before same => absurd (congrArg seen.idxOf same) (Nat.ne_of_lt before)

/-- What comes up later in a list does not change the order of the flags before. -/
theorem InOrderOf.append {seen flags : List String} (known : flags ⊆ seen)
    (ordered : InOrderOf seen flags) (more : List String) : InOrderOf (seen ++ more) flags := by
  refine List.Pairwise.imp_of_mem ?_ ordered
  intro one other one_mem other_mem before
  rwa [List.idxOf_append_of_mem (known one_mem), List.idxOf_append_of_mem (known other_mem)]

theorem inOrderOf_addFlag {seen flags : List String} (same : ∀ flag, flag ∈ flags ↔ flag ∈ seen)
    (ordered : InOrderOf seen flags) (added : String) :
    InOrderOf (seen ++ [added]) (addFlag flags added) := by
  have kept := ordered.append (fun flag => (same flag).mp) [added]
  by_cases known : added ∈ flags
  · rw [addFlag_of_mem known]
    exact kept
  · rw [addFlag_of_not_mem known]
    refine List.pairwise_append.mpr ⟨kept, List.pairwise_singleton _ _, ?_⟩
    intro one one_mem other other_mem
    obtain rfl := List.mem_singleton.mp other_mem
    -- A flag that is new comes up behind all that was seen before.
    have unseen : other ∉ seen := mt (same other).mpr known
    have one_seen := (same one).mp one_mem
    rw [List.idxOf_append_of_mem one_seen, List.idxOf_append_of_notMem unseen]
    exact Nat.lt_add_right _ (List.idxOf_lt_length_of_mem one_seen)

theorem inOrderOf_foldl_addFlag {seen flags : List String}
    (same : ∀ flag, flag ∈ flags ↔ flag ∈ seen) (ordered : InOrderOf seen flags)
    (added : List String) : InOrderOf (seen ++ added) (added.foldl addFlag flags) := by
  induction added generalizing seen flags with
  | nil => rwa [List.append_nil]
  | cons first others induction =>
      have same_next (flag : String) : flag ∈ addFlag flags first ↔ flag ∈ seen ++ [first] := by
        rw [mem_addFlag, same, List.mem_append, List.mem_singleton]
      have next := induction same_next (inOrderOf_addFlag same ordered first)
      rwa [List.append_assoc] at next

/-! ## Merging -/

/-- The gathered flags are those from the beginning and the codes of the actions. -/
theorem mem_flags_ofActions {actions : List Action} {flags : List String} {flag : String} :
    flag ∈ (ofActions actions flags).flags ↔
      flag ∈ flags ∨ flag ∈ actions.map Action.flagCode := by
  rw [ofActions, mem_foldl_addFlag, List.mem_append, or_iff_right List.not_mem_nil]

theorem inOrderOf_ofActions (actions : List Action) (flags : List String) :
    InOrderOf (flags ++ actions.map Action.flagCode) (ofActions actions flags).flags :=
  inOrderOf_foldl_addFlag (fun _ => Iff.rfl) List.Pairwise.nil _

/-- After flags without repetitions only the codes of the actions are left to add. -/
theorem flags_ofActions_of_nodup {flags : List String} (distinct : flags.Nodup)
    (actions : List Action) :
    (ofActions actions flags).flags = (actions.map Action.flagCode).foldl addFlag flags := by
  have unchanged : flags.foldl addFlag [] = flags := foldl_addFlag_of_nodup distinct
  rw [ofActions, List.foldl_append, unchanged]

/-- There is one line for each gate, in order. -/
theorem penalties_ofActions (actions : List Action) (flags : List String) :
    (ofActions actions flags).penalties.map some =
      (actions.filter Action.isGate).map Action.penalty? := by
  rw [ofActions]
  induction actions with
  | nil => rfl
  | cons action others induction =>
      cases action with
      | flag => exact induction
      | gate => exact congrArg (_ :: ·) induction

/-- Actions can be merged in two parts. -/
theorem ofActions_append (actions more : List Action) (flags : List String) :
    ofActions (actions ++ more) flags =
      ⟨(ofActions more (ofActions actions flags).flags).flags,
        (ofActions actions flags).penalties ++
          (ofActions more (ofActions actions flags).flags).penalties⟩ := by
  have distinct := (inOrderOf_ofActions actions flags).nodup
  rw [flags_ofActions_of_nodup distinct]
  simp only [ofActions, List.map_append, List.foldl_append, List.filterMap_append]

/--
Whatever the actions and the initial flags are, the merged flags have no repetitions, are those from
the beginning and the codes of the actions, and stand in the order in which these first come up;
there is one penalty line for each gate, in order.  Two lists of actions can be merged one after the
other, and the same actions merged once more leave the flags as they are.
-/
theorem ofActions_merges (actions : List Action) (flags : List String) :
    let merged := ofActions actions flags
    merged.flags.Nodup ∧
      (∀ flag, flag ∈ merged.flags ↔ flag ∈ flags ∨ flag ∈ actions.map Action.flagCode) ∧
      InOrderOf (flags ++ actions.map Action.flagCode) merged.flags ∧
      merged.penalties.map some = (actions.filter Action.isGate).map Action.penalty? ∧
      (∀ more, ofActions (actions ++ more) flags =
        ⟨(ofActions more merged.flags).flags,
          merged.penalties ++ (ofActions more merged.flags).penalties⟩) ∧
      (ofActions actions merged.flags).flags = merged.flags := by
  intro merged
  have ordered : InOrderOf (flags ++ actions.map Action.flagCode) merged.flags :=
    inOrderOf_ofActions actions flags
  have coded : actions.map Action.flagCode ⊆ merged.flags := by
    intro flag code
    exact mem_flags_ofActions.mpr (.inr code)
  refine ⟨ordered.nodup, fun flag => mem_flags_ofActions, ordered, penalties_ofActions actions flags,
    fun more => ofActions_append actions more flags, ?_⟩
  rw [flags_ofActions_of_nodup ordered.nodup, foldl_addFlag_of_subset coded]

/-- A flag that is there already keeps its place; a gate without reason says what it asks for. -/
example :
    ofActions [.flag ⟨"CROWDED", by decide⟩ none,
        .gate (.dimension .economics) .review (some "Thin margins"),
        .gate (.dimension .demand) .fail none] ["NEW", "CROWDED"] =
      ⟨["NEW", "CROWDED", "RULE_GATE_ECONOMICS_REVIEW", "RULE_GATE_DEMAND_FAIL"],
        ["ECONOMICS: Thin margins", "DEMAND: FAIL required"]⟩ := by
  decide +kernel

end Merged

end Appraisal
