import Appraisal.Condition.Stack
import Appraisal.Proofs.Condition.Lexing
import Appraisal.Proofs.Datum.Sharing

/-!
# What a condition sees of its context

A condition reads its context through its paths only.  Two contexts in which its paths lead to the
same values give it the same value or the same fault, with two reservations about paths that are
compared for equality, because they may lead to one and the same list or object in one context and to
two of them with the same content in the other.  Then they may differ for an undefined number in
them, which the one list shares with itself and two lists need not share.  And the one list is equal
to itself at once, whereas the two are compared item by item, which may use up the stack.
-/

namespace Appraisal.Condition

/-- The pair of paths that an operator compares for equality. -/
def comparedBy : BinaryOperator → Expression → Expression → List (List String × List String)
  | .equal, .path left, .path right | .unequal, .path left, .path right => [(left, right)]
  | _, _, _ => []

/-- The pairs of paths that a tree compares for equality. -/
def Expression.compared : Expression → List (List String × List String)
  | .literal _ | .path _ => []
  | .unary _ operand => operand.compared
  | .binary operator left right => left.compared ++ right.compared ++ comparedBy operator left right

/-- Two contexts that look the same to a tree. -/
structure SameView (first second : Datum) (tree : Expression) : Prop where
  values : ∀ path ∈ tree.paths, resolve first path = resolve second path
  /-- Compared paths lead to one place in both contexts, or to values that are equal or not whichever
  undefined numbers they share. -/
  settled : ∀ pair ∈ tree.compared,
    (samePlace first (.path pair.1) (.path pair.2) = true ∧
        samePlace second (.path pair.1) (.path pair.2) = true) ∨
      Datum.Settled (find first pair.1) (find first pair.2)

/-- Compared paths that lead to one list or object in one of two contexts do so in both. -/
def SamePlaces (first second : Datum) (tree : Expression) : Prop :=
  ∀ pair ∈ tree.compared, (find first pair.1).isContainer = true →
    samePlace first (.path pair.1) (.path pair.2) = samePlace second (.path pair.1) (.path pair.2)

/-- The stack makes no difference to a tree in two contexts: compared paths lead to one list or object
in both or in neither, or the evaluation fits on the stack in both. -/
def SameRoom (stack : Nat) (first second : Datum) (tree : Expression) : Prop :=
  SamePlaces first second tree ∨ tree.calls first ≤ stack ∧ tree.calls second ≤ stack

/-- Two contexts in which a tree finds the same values, and equality says the same about them. -/
structure SameValues (first second : Datum) (tree : Expression) : Prop where
  values : ∀ path ∈ tree.paths, resolve first path = resolve second path
  equal : ∀ pair ∈ tree.compared,
    equals (samePlace first (.path pair.1) (.path pair.2)) (find first pair.1)
        (find first pair.2) =
      equals (samePlace second (.path pair.1) (.path pair.2)) (find first pair.1)
        (find first pair.2)

namespace SameValues

variable {first second : Datum}

theorem operand {operator : UnaryOperator} {operand : Expression}
    (same : SameValues first second (.unary operator operand)) : SameValues first second operand :=
  ⟨same.values, same.equal⟩

theorem left {operator : BinaryOperator} {left right : Expression}
    (same : SameValues first second (.binary operator left right)) :
    SameValues first second left where
  values := fun path member => same.values path (List.mem_append_left _ member)
  equal := fun pair member =>
    same.equal pair (List.mem_append_left _ (List.mem_append_left _ member))

theorem right {operator : BinaryOperator} {left right : Expression}
    (same : SameValues first second (.binary operator left right)) :
    SameValues first second right where
  values := fun path member => same.values path (List.mem_append_right _ member)
  equal := fun pair member =>
    same.equal pair (List.mem_append_left _ (List.mem_append_right _ member))

end SameValues

namespace SamePlaces

variable {first second : Datum} {operator : BinaryOperator}

theorem left {left right : Expression}
    (same : SamePlaces first second (.binary operator left right)) :
    SamePlaces first second left :=
  fun pair member => same pair (List.mem_append_left _ (List.mem_append_left _ member))

theorem right {left right : Expression}
    (same : SamePlaces first second (.binary operator left right)) :
    SamePlaces first second right :=
  fun pair member => same pair (List.mem_append_left _ (List.mem_append_right _ member))

end SamePlaces

/-! ## Places and values -/

/-- The value in a position of a list or an object. -/
def valueAt? : Datum → Nat → Option Datum
  | .object fields, position => fields[position]?.map Prod.snd
  | .list items, position => items[position]?
  | _, _ => none

/-- The first field under a key stands where the key does. -/
theorem getElem?_idxOf_of_lookup {key : String} {fields : List (String × Datum)} {value : Datum}
    (found : Datum.lookup key fields = some value) :
    fields[(fields.map Prod.fst).idxOf key]? = some (key, value) := by
  induction fields with
  | nil => contradiction
  | cons first others induction =>
      obtain ⟨name, content⟩ := first
      rw [Datum.lookup] at found
      by_cases here : name = key
      · subst here
        rw [if_pos rfl] at found
        cases found
        simp
      · rw [if_neg here] at found
        rw [List.map_cons, List.idxOf_cons_ne _ here, List.getElem?_cons_succ]
        exact induction found

theorem place?_object_eq_some_iff {fields : List (String × Datum)} {segment : String}
    {segments : List String} {places : List Nat} :
    place? (.object fields) (segment :: segments) = some places ↔
      ∃ value rest, Datum.lookup segment fields = some value ∧ place? value segments = some rest ∧
        (fields.map Prod.fst).idxOf segment :: rest = places := by
  simp only [place?, Option.bind_eq_bind, Option.pure_def, Option.bind_eq_some_iff,
    Option.some.injEq, exists_and_left]

/-- A place begins with the position that the first segment leads to. -/
theorem exists_of_place?_cons {context : Datum} {segment : String} {segments : List String}
    {places : List Nat} (placed : place? context (segment :: segments) = some places) :
    ∃ position rest value, places = position :: rest ∧ valueAt? context position = some value ∧
      place? value segments = some rest ∧
      resolve context (segment :: segments) = resolve value segments := by
  cases context with
  | object fields =>
      obtain ⟨value, rest, found, value_placed, rfl⟩ := place?_object_eq_some_iff.mp placed
      refine ⟨_, rest, value, rfl, ?_, value_placed, ?_⟩
      · rw [valueAt?, getElem?_idxOf_of_lookup found, Option.map_some]
      · rw [resolve, found]
  | list items =>
      simp only [place?, Option.bind_eq_bind, Option.pure_def, Option.bind_eq_some_iff,
        Option.some.injEq] at placed
      obtain ⟨index, index_eq, item, item_eq, rest, item_placed, rfl⟩ := placed
      refine ⟨index, rest, item, rfl, item_eq, item_placed, ?_⟩
      cases read : index? segment with
      | error fault =>
          rw [read] at index_eq
          contradiction
      | ok found =>
          rw [read] at index_eq
          obtain rfl : found = some index := by
            cases found <;> simp_all [Except.toOption]
          rw [resolve, read]
          simp only [bind, Except.bind, item_eq]
  | _ => simp [place?] at placed

/-- One place has one value. -/
theorem resolve_eq_of_place {context : Datum} {left right : List String} {places : List Nat}
    (left_placed : place? context left = some places)
    (right_placed : place? context right = some places) :
    resolve context left = resolve context right := by
  induction left generalizing context right places with
  | nil =>
      rw [place?] at left_placed
      cases left_placed
      cases right with
      | nil => rfl
      | cons segment segments =>
          obtain ⟨_, _, _, places_eq, _⟩ := exists_of_place?_cons right_placed
          contradiction
  | cons segment segments induction =>
      obtain ⟨position, rest, value, rfl, value_eq, placed, left_eq⟩ :=
        exists_of_place?_cons left_placed
      cases right with
      | nil =>
          rw [place?] at right_placed
          cases right_placed
      | cons other others =>
          obtain ⟨position', rest', value', places_eq, value_eq', placed', right_eq⟩ :=
            exists_of_place?_cons right_placed
          obtain ⟨rfl, rfl⟩ := List.cons.inj places_eq
          obtain rfl : value = value' := Option.some.inj (value_eq.symm.trans value_eq')
          rw [left_eq, right_eq]
          exact induction placed placed'

theorem samePlace_path_iff {context : Datum} {left right : List String} :
    samePlace context (.path left) (.path right) = true ↔
      ∃ places, place? context left = some places ∧ place? context right = some places := by
  rw [samePlace]
  cases place? context left with
  | none => simp
  | some left_places =>
      cases place? context right with
      | none => simp
      | some right_places => simp [@eq_comm _ right_places]

theorem resolve_eq_of_samePlace {context : Datum} {left right : List String}
    (same : samePlace context (.path left) (.path right) = true) :
    resolve context left = resolve context right := by
  obtain ⟨places, left_placed, right_placed⟩ := samePlace_path_iff.mp same
  exact resolve_eq_of_place left_placed right_placed

/-! ## Compared paths -/

/-- An operator that looks at places applied to two paths compares these; places mean nothing for any
other operator and any other operands. -/
theorem comparedBy_cases (operator : BinaryOperator) (left right : Expression) :
    (∃ one other, left = .path one ∧ right = .path other ∧
        comparedBy operator left right = [(one, other)]) ∨
      (∀ shared other, joins shared operator = joins other operator ∧
        ∀ value another, comparisons shared value another operator =
          comparisons other value another operator) ∨
      ∀ context, samePlace context left right = false := by
  cases left with
  | path one =>
      cases right with
      | path other =>
          cases operator with
          | equal | unequal => exact .inl ⟨one, other, rfl, rfl, rfl⟩
          | _ => exact .inr (.inl fun _ _ => ⟨rfl, fun _ _ => rfl⟩)
      | _ => exact .inr (.inr fun _ => rfl)
  | _ => exact .inr (.inr fun _ => rfl)

theorem find_eq_of_eval {context value : Datum} {segments : List String}
    (found : (Expression.path segments).eval context = .ok value) :
    find context segments = value := by
  rw [Expression.eval] at found
  rw [find, found]
  rfl

/-- An operator joins the values of its operands alike where equality says the same about them. -/
theorem joins_eq_of_sameValues {first second : Datum} {operator : BinaryOperator}
    {left right : Expression} (same : SameValues first second (.binary operator left right))
    {value other : Datum} (left_eq : left.eval first = .ok value)
    (right_eq : right.eval first = .ok other) :
    joins (samePlace first left right) operator value other =
      joins (samePlace second left right) operator value other := by
  rcases comparedBy_cases operator left right with
    ⟨one, another, rfl, rfl, compared⟩ | blind | apart
  · have member : (one, another) ∈
        (Expression.binary operator (.path one) (.path another)).compared := by
      simp [Expression.compared, compared]
    have equal := same.equal _ member
    rw [find_eq_of_eval left_eq, find_eq_of_eval right_eq] at equal
    cases operator with
    | equal => exact equal
    | unequal => exact congrArg (!·) equal
    | _ => rfl
  · rw [(blind _ (samePlace second left right)).1]
  · rw [apart first, apart second]

/-- An operator makes as many comparisons where places are told apart alike. -/
theorem comparisons_eq_of_samePlaces {first second : Datum} {operator : BinaryOperator}
    {left right : Expression} (places : SamePlaces first second (.binary operator left right))
    {value : Datum} (left_eq : left.eval first = .ok value) (other : Datum) :
    comparisons (samePlace first left right) value other operator =
      comparisons (samePlace second left right) value other operator := by
  rcases comparedBy_cases operator left right with
    ⟨one, another, rfl, rfl, compared⟩ | blind | apart
  · have member : (one, another) ∈
        (Expression.binary operator (.path one) (.path another)).compared := by
      simp [Expression.compared, compared]
    have place_eq := places _ member
    rw [find_eq_of_eval left_eq] at place_eq
    cases container : value.isContainer with
    | true => rw [place_eq container]
    | false => cases operator <;> simp [comparisons, container]
  · exact (blind _ _).2 value other
  · rw [apart first, apart second]

/-! ## Evaluation -/

/-- Where a tree finds the same values, it has one value, or one fault. -/
theorem eval_eq_of_sameValues {first second : Datum} {tree : Expression}
    (same : SameValues first second tree) : tree.eval first = tree.eval second := by
  induction tree with
  | literal constant => rfl
  | path segments => exact same.values segments List.mem_cons_self
  | unary operator operand induction =>
      have operand_eq := induction same.operand
      cases operator with
      | negation =>
          rw [eval_negation, eval_negation, Expression.holds, Expression.holds, operand_eq]
      | opposite => rw [Expression.eval, Expression.eval, operand_eq]
  | binary operator left right left_induction right_induction =>
      have left_eq := left_induction same.left
      have right_eq := right_induction same.right
      cases junction : settling? operator with
      | some settling =>
          rw [eval_junction first left right junction, eval_junction second left right junction,
            Expression.holds, Expression.holds, Expression.holds, Expression.holds, left_eq,
            right_eq]
      | none =>
          -- Places count only once both operands have values, which are then the same in both
          -- contexts.
          rw [eval_strict first left right junction, eval_strict second left right junction,
            ← left_eq, ← right_eq]
          cases left_value : left.eval first with
          | error fault => rfl
          | ok value =>
              cases right_value : right.eval first with
              | error fault => rfl
              | ok other =>
                  simp only [bind, Except.bind]
                  rw [joins_eq_of_sameValues same left_value right_value]

/-- Where a tree finds the same values in the same places, it makes as many calls. -/
theorem calls_eq_of_samePlaces {first second : Datum} {tree : Expression}
    (same : SameValues first second tree) (places : SamePlaces first second tree) :
    tree.calls first = tree.calls second := by
  induction tree with
  | literal | path => rfl
  | unary operator operand induction =>
      rw [Expression.calls, Expression.calls, induction same.operand places]
  | binary operator left right left_induction right_induction =>
      rw [Expression.calls, Expression.calls, left_induction same.left places.left,
        right_induction same.right places.right, ← eval_eq_of_sameValues same.left,
        ← eval_eq_of_sameValues same.right]
      cases left_value : left.eval first with
      | error fault => rfl
      | ok value =>
          cases right_value : right.eval first with
          | error fault => rfl
          | ok other =>
              dsimp only
              rw [comparisons_eq_of_samePlaces places left_value other]

/-- Where the condition of a text finds the same values, it is judged alike. -/
theorem evaluate_eq_of_sameValues {text : String} {first second : Datum}
    (same : ∀ tree, parse text = .ok tree → SameValues first second tree) :
    evaluate text first = evaluate text second := by
  rw [evaluate, evaluate]
  cases parsed : parse text with
  | error fault => rfl
  | ok tree =>
      dsimp only
      rw [Expression.holds, Expression.holds, eval_eq_of_sameValues (same tree parsed)]

/-- The same on a stack that makes no difference. -/
theorem evaluateWithin_eq_of_sameValues {stack : Nat} {text : String} {first second : Datum}
    (same : ∀ tree, parse text = .ok tree → SameValues first second tree)
    (room : ∀ tree, parse text = .ok tree → SameRoom stack first second tree) :
    evaluateWithin stack text first = evaluateWithin stack text second := by
  rw [evaluateWithin, evaluateWithin, evaluate_eq_of_sameValues same]
  cases parsed : parse text with
  | error fault => rfl
  | ok tree =>
      dsimp only
      rcases room tree parsed with places | ⟨first_fits, second_fits⟩
      · rw [calls_eq_of_samePlaces (same tree parsed) places]
      · rw [if_pos first_fits, if_pos second_fits]

/-! ## Contexts without undefined numbers -/

/-- What holds of null and goes over from lists and objects to what is in them holds of every value
that is found. -/
theorem find_induction (property : Datum → Prop) (null : property .null)
    (field : ∀ fields key value, property (.object fields) → Datum.lookup key fields = some value →
      property value)
    (item : ∀ (items : List Datum) (index : Nat) (value : Datum), property (.list items) →
      items[index]? = some value → property value)
    {context : Datum} (start : property context) (path : List String) :
    property (find context path) := by
  induction path generalizing context with
  | nil =>
      rw [find, resolve]
      exact start
  | cons segment segments induction =>
      cases context with
      | object fields =>
          cases found : Datum.lookup segment fields with
          | none =>
              rw [find, resolve, found]
              exact null
          | some value =>
              have further := induction (field fields segment value start found)
              rwa [find, resolve, found]
      | list items =>
          cases read : index? segment with
          | error fault =>
              rw [find, resolve, read]
              exact null
          | ok index =>
              cases index with
              | none =>
                  rw [find, resolve, read]
                  exact null
              | some index =>
                  cases item_eq : items[index]? with
                  | none =>
                      rw [find, resolve, read]
                      simp only [bind, Except.bind, item_eq]
                      exact null
                  | some value =>
                      have further := induction (item items index value start item_eq)
                      rw [find, resolve, read]
                      simp only [bind, Except.bind, item_eq]
                      exact further
      | _ =>
          rw [find, resolve]
          · exact null
          all_goals simp

theorem wellFormed_find {context : Datum} (formed : context.WellFormed) (path : List String) :
    (find context path).WellFormed := by
  refine find_induction Datum.WellFormed .null ?_ ?_ formed path
  · rintro fields key value formed found
    cases formed with
    | object _ fields_formed => exact fields_formed _ (Datum.mem_of_lookup found)
  · rintro items index value formed found
    cases formed with
    | list items_formed => exact items_formed _ (List.mem_of_getElem? found)

theorem defined_find {context : Datum} (defined : context.Defined) (path : List String) :
    (find context path).Defined := by
  refine find_induction Datum.Defined .null ?_ ?_ defined path
  · rintro fields key value defined found
    cases defined with
    | object fields_defined => exact fields_defined _ (Datum.mem_of_lookup found)
  · rintro items index value defined found
    cases defined with
    | list items_defined => exact items_defined _ (List.mem_of_getElem? found)

/-- Without undefined numbers only the values matter that the paths lead to. -/
theorem sameView_of_defined {first second : Datum} {tree : Expression} (defined : first.Defined)
    (values : ∀ path ∈ tree.paths, resolve first path = resolve second path) :
    SameView first second tree :=
  ⟨values, fun pair _ => .inr (Datum.settled_of_defined (defined_find defined pair.1) _)⟩

/-! ## Contexts that look the same -/

namespace Expression

theorem mem_paths_of_mem_comparedBy {operator : BinaryOperator} {left right : Expression}
    {pair : List String × List String} (member : pair ∈ comparedBy operator left right) :
    pair.1 ∈ left.paths ∧ pair.2 ∈ right.paths := by
  unfold comparedBy at member
  split at member
  · simp_all [paths]
  · simp_all [paths]
  · contradiction

/-- Compared paths are paths of the tree. -/
theorem mem_paths_of_mem_compared {tree : Expression} {pair : List String × List String}
    (member : pair ∈ tree.compared) : pair.1 ∈ tree.paths ∧ pair.2 ∈ tree.paths := by
  induction tree with
  | literal | path => contradiction
  | unary operator operand induction => exact induction member
  | binary operator left right left_induction right_induction =>
      rw [compared, List.append_assoc, List.mem_append, List.mem_append] at member
      rw [paths]
      rcases member with member | member | member
      · exact (left_induction member).imp (List.mem_append_left _) (List.mem_append_left _)
      · exact (right_induction member).imp (List.mem_append_right _) (List.mem_append_right _)
      · exact (mem_paths_of_mem_comparedBy member).imp (List.mem_append_left _)
          (List.mem_append_right _)

end Expression

/-- A value that equals itself by its content does so in one place and in two. -/
theorem equals_self {datum : Datum} (alike : datum.isContainer = true → datum.alike datum = true)
    (shared other : Bool) : equals shared datum datum = equals other datum datum := by
  rw [equals, equals]
  cases container : datum.isContainer with
  | false => rw [Bool.and_false, Bool.and_false]
  | true => simp [alike container]

/-- Equality says the same in contexts that look the same. -/
theorem SameView.sameValues {first second : Datum} {tree : Expression}
    (same : SameView first second tree) (formed : first.WellFormed) :
    SameValues first second tree where
  values := same.values
  equal := by
    rintro ⟨left, right⟩ member
    by_cases places_eq : samePlace first (.path left) (.path right) =
        samePlace second (.path left) (.path right)
    · rw [places_eq]
    -- In one of the contexts both paths lead to one place, so their values are one in both.
    obtain ⟨left_member, right_member⟩ := Expression.mem_paths_of_mem_compared member
    have left_same : find first left = find second left := by
      rw [find, find, same.values left left_member]
    have right_same : find first right = find second right := by
      rw [find, find, same.values right right_member]
    have value_eq : find first left = find first right := by
      cases here : samePlace first (.path left) (.path right) with
      | true => rw [find, find, resolve_eq_of_samePlace here]
      | false =>
          cases there : samePlace second (.path left) (.path right) with
          | true => rw [left_same, right_same, find, find, resolve_eq_of_samePlace there]
          | false => exact absurd (here.trans there.symm) places_eq
    rcases same.settled _ member with ⟨here, there⟩ | settled
    · exact absurd (here.trans there.symm) places_eq
    · dsimp only at settled ⊢
      rw [← value_eq] at settled ⊢
      exact equals_self (fun container =>
        Datum.alike_self_of_settled (wellFormed_find formed left) container settled) _ _

/-! ## Contexts with the same content -/

/-- The paths of a parsed text have a first segment. -/
theorem paths_ne_nil_of_parse {text : String} {tree : Expression} (parsed : parse text = .ok tree) :
    ∀ path ∈ tree.paths, path ≠ [] := by
  intro path member
  obtain ⟨lexeme, _, _, names, _⟩ :=
    exists_names_of_parse parsed (Expression.mem_nodes_of_mem_paths member) rfl
  cases names with
  | path segments_ne proper => simpa using segments_ne

theorem resolve_object (fields : List (String × Datum)) (segment : String)
    (segments : List String) :
    resolve (.object fields) (segment :: segments) =
      resolve ((Datum.lookup segment fields).getD .null) segments := by
  rw [resolve]
  cases Datum.lookup segment fields with
  | some value => rfl
  | none => cases segments <;> rfl

/-- Two paths into an object lead to one place if they begin with one key and lead on from there to
one place. -/
theorem samePlace_object_iff {fields : List (String × Datum)} {segment other : String}
    {segments others : List String} :
    samePlace (.object fields) (.path (segment :: segments)) (.path (other :: others)) = true ↔
      other = segment ∧ ∃ value, Datum.lookup segment fields = some value ∧
        samePlace value (.path segments) (.path others) = true := by
  simp only [samePlace_path_iff, place?_object_eq_some_iff]
  constructor
  · rintro ⟨places, ⟨value, rest, found, placed, rfl⟩, value', rest', found', placed', places_eq⟩
    obtain ⟨position_eq, rfl⟩ := List.cons.inj places_eq
    obtain rfl : other = segment :=
      (List.idxOf_inj (Datum.mem_keys_of_lookup found')).mp position_eq
    obtain rfl : value = value' := Option.some.inj (found.symm.trans found')
    exact ⟨rfl, value, found, rest', placed, placed'⟩
  · rintro ⟨rfl, value, found, rest, placed, placed'⟩
    exact ⟨_, ⟨value, rest, found, placed, rfl⟩, value, rest, found, placed', rfl⟩

theorem find_null (path : List String) : find .null path = .null := by
  cases path <;> rfl

/-- Where two objects with the same content have something else under a key, it is null or not there,
and nothing is found from there on. -/
theorem find_eq_null {first second : List (String × Datum)}
    (content : Datum.SameContent first second) {segment : String}
    (differ : Datum.lookup segment first ≠ Datum.lookup segment second) (segments : List String) :
    find (.object first) (segment :: segments) = .null := by
  rw [find, resolve_object, content.getD_of_lookup_ne differ]
  exact find_null segments

/-- A tree whose paths have a first segment finds the same values in objects with the same content,
and lists and objects in the same places. -/
theorem sameValues_of_sameContent {first second : List (String × Datum)}
    (content : Datum.SameContent first second) {tree : Expression}
    (begun : ∀ path ∈ tree.paths, path ≠ []) :
    SameValues (.object first) (.object second) tree ∧
      SamePlaces (.object first) (.object second) tree := by
  have place_eq : SamePlaces (.object first) (.object second) tree := by
    rintro ⟨left, right⟩ member container
    obtain ⟨left_member, right_member⟩ := Expression.mem_paths_of_mem_compared member
    obtain ⟨segment, segments, rfl⟩ := List.exists_cons_of_ne_nil (begun left left_member)
    obtain ⟨other, others, rfl⟩ := List.exists_cons_of_ne_nil (begun right right_member)
    by_cases same : Datum.lookup segment first = Datum.lookup segment second
    · rw [Bool.eq_iff_iff, samePlace_object_iff, samePlace_object_iff, same]
    · rw [find_eq_null content same] at container
      contradiction
  refine ⟨⟨?_, ?_⟩, place_eq⟩
  · intro path member
    obtain ⟨segment, segments, rfl⟩ := List.exists_cons_of_ne_nil (begun path member)
    rw [resolve_object, resolve_object, content segment]
  · rintro ⟨left, right⟩ member
    cases container : (find (.object first) left).isContainer with
    | true => rw [place_eq _ member container]
    | false => simp [equals, container]

/-- A condition does not see whether a key is there with null or not at all. -/
theorem evaluateWithin_eq_of_sameContent (stack : Nat) (text : String)
    {first second : List (String × Datum)} (content : Datum.SameContent first second) :
    evaluateWithin stack text (.object first) = evaluateWithin stack text (.object second) :=
  evaluateWithin_eq_of_sameValues
    (fun _ parsed => (sameValues_of_sameContent content (paths_ne_nil_of_parse parsed)).1)
    (fun _ parsed => .inl (sameValues_of_sameContent content (paths_ne_nil_of_parse parsed)).2)

end Appraisal.Condition
