import Appraisal.Proofs.RuleBook.Stages
import Mathlib.Data.List.Nodup

/-!
# Many writers at one table

Writers come to a table at any time and make their stages in any order; each stage may fail.  A
writer acts on what it loaded earlier, which others may have replaced since, so changes can be lost.
What is in the table is nevertheless always whole: the rules of one writer, with distinct names, and
a history of entries of different writers, each of which has saved its rules before.

The invariant speaks of the table and of what every writer carries with it (`Sound`).  A writer
appears in a history, in the table or under way, only after it has loaded the history itself, and it
never loads it again; so it does not find itself there.
-/

namespace Appraisal.Ledger

/-- A table, the writers that have come to it, and the rules that they have saved. -/
structure Desk where
  table : Table
  /-- The writers in the order in which they came; each is known by its place. -/
  writers : List Writer
  /-- Who has saved which rules, as the entry of the change; the latest saving comes last. -/
  saved : List (Nat × HistoryEntry)

/-- What happens at a desk. -/
inductive Event
  /-- A call comes in. -/
  | come (call : Call)
  /-- The writer at a place makes its next stage. -/
  | turn (place : Nat) (here : Circumstance)

/-- The entry of a change whose rules are saved in its next stage. -/
def Writer.saving? (plan : LedgerPlan) (here : Circumstance) (table : Table) (writer : Writer) :
    Option HistoryEntry :=
  match writer.stage with
  | .savingRules rules =>
      match saveRules plan here rules table with
      | .ok _ => some ⟨here.moment, writer.actor, rules⟩
      | .error _ => none
  | _ => none

namespace Desk

/-- A table without rows, and nobody there. -/
def empty : Desk := ⟨.empty, [], []⟩

/-- The desk when the writer at a place has gone on, with the table that it left and the savings
that it made. -/
def moved (desk : Desk) (place : Nat) (later : Writer) (table : Table)
    (savings : List (Nat × HistoryEntry)) : Desk :=
  ⟨table, desk.writers.set place later, desk.saved ++ savings⟩

/-- The desk after an event. -/
def next (plan : LedgerPlan) (desk : Desk) : Event → Desk
  | .come call => { desk with writers := desk.writers ++ (Writer.ofCall? call).toList }
  | .turn place here =>
      match desk.writers[place]? with
      | none => desk
      | some writer =>
          let (table, later) := writer.next plan here desk.table
          desk.moved place later table
            ((writer.saving? plan here desk.table).map fun entry => (place, entry)).toList

/-- The desk after some events. -/
def after (plan : LedgerPlan) (events : List Event) : Desk :=
  events.foldl (next plan) empty

/-- The writer at a place has at most so many stages left. -/
def Reached (desk : Desk) (place count : Nat) : Prop :=
  ∃ writer, desk.writers[place]? = some writer ∧ writer.stage.left ≤ count

/-- A history of different writers that have saved their rules and loaded the history since. -/
structure Signed (limit : Int) (desk : Desk) (signed : List (Nat × HistoryEntry)) : Prop where
  bounded : signed.length ≤ limit.toNat
  distinct : (signed.map Prod.fst).Nodup
  saved : ∀ entry ∈ signed, entry ∈ desk.saved
  reached : ∀ entry ∈ signed, desk.Reached entry.1 1

/-- What a writer carries with it at a stage is in order. -/
def Carries (limit : Int) (desk : Desk) (place : Nat) : Stage → Prop
  | .savingRules rules => (rules.map Rule.id).Nodup
  | .loadingHistory entry => (place, entry) ∈ desk.saved
  | .savingHistory _ entries => ∃ signed, Signed limit desk signed ∧ entries = signed.map Prod.snd
  | _ => True

/-- The table and the writers of a desk are in order. -/
structure Sound (plan : LedgerPlan) (desk : Desk) : Prop where
  /-- The rules in the table are those of the latest saving. -/
  rules : (desk.saved = [] ∧ desk.table.get? rulesKey = none) ∨
    ∃ save expiry, desk.saved.getLast? = some save ∧
      desk.table.get? rulesKey = some ⟨.list (save.2.rules.map Rule.payload), expiry⟩
  /-- No name occurs twice in rules that were saved. -/
  distinct : ∀ save ∈ desk.saved, (save.2.rules.map Rule.id).Nodup
  /-- No writer saves rules twice. -/
  once : (desk.saved.map Prod.fst).Nodup
  savers : ∀ save ∈ desk.saved, desk.Reached save.1 2
  history : ∃ signed, Signed plan.limit desk signed ∧
    Holds desk.table historyKey ((signed.map Prod.snd).map HistoryEntry.payload)
  carried : ∀ place writer, desk.writers[place]? = some writer →
    Carries plan.limit desk place writer.stage

/-! ## What only grows -/

/-- A later desk has all savings of an earlier one, and its writers have not gone back. -/
structure Precedes (earlier later : Desk) : Prop where
  saved : ∀ save ∈ earlier.saved, save ∈ later.saved
  reached : ∀ place count, earlier.Reached place count → later.Reached place count

theorem Signed.mono {limit : Int} {earlier later : Desk} {signed : List (Nat × HistoryEntry)}
    (inOrder : Signed limit earlier signed) (precedes : Precedes earlier later) :
    Signed limit later signed where
  bounded := inOrder.bounded
  distinct := inOrder.distinct
  saved entry member := precedes.saved entry (inOrder.saved entry member)
  reached entry member := precedes.reached _ _ (inOrder.reached entry member)

theorem Carries.mono {limit : Int} {earlier later : Desk} {place : Nat} {stage : Stage}
    (carries : Carries limit earlier place stage) (precedes : Precedes earlier later) :
    Carries limit later place stage := by
  cases stage with
  | loadingHistory entry => exact precedes.saved _ carries
  | savingHistory entry entries =>
      obtain ⟨signed, inOrder, entries_eq⟩ := carries
      exact ⟨signed, inOrder.mono precedes, entries_eq⟩
  | _ => exact carries

/-- Where the writer at a place goes on, the others stay as they are. -/
theorem precedes_moved {desk : Desk} {place : Nat} {writer later : Writer}
    (there : desk.writers[place]? = some writer) (closer : later.stage.left ≤ writer.stage.left)
    (table : Table) (savings : List (Nat × HistoryEntry)) :
    Precedes desk (desk.moved place later table savings) := by
  refine ⟨fun save member => List.mem_append_left savings member, ?_⟩
  rintro other count ⟨found, found_there, found_left⟩
  by_cases same : place = other
  · subst same
    obtain rfl : writer = found := Option.some.inj (there.symm.trans found_there)
    exact ⟨later, List.getElem?_set_self (List.getElem?_eq_some_iff.mp there).1,
      Nat.le_trans closer found_left⟩
  · exact ⟨found, (List.getElem?_set_ne same).trans found_there, found_left⟩

/-! ## One event -/

section Step

variable {plan : LedgerPlan} {desk : Desk} {place : Nat} {writer : Writer}

theorem signed_nil (limit : Int) (desk : Desk) : Signed limit desk [] where
  bounded := Nat.zero_le _
  distinct := .nil
  saved := by rintro entry ⟨⟩
  reached := by rintro entry ⟨⟩

/-- A writer is new among writers that are all closer to their ends. -/
theorem new_of_reached {known : List (Nat × HistoryEntry)} {count : Nat}
    (reached : ∀ entry ∈ known, desk.Reached entry.1 count)
    (there : desk.writers[place]? = some writer) (far : count < writer.stage.left) :
    place ∉ known.map Prod.fst := by
  intro old
  obtain ⟨entry, member, rfl⟩ := List.mem_map.mp old
  obtain ⟨found, found_there, found_left⟩ := reached entry member
  obtain rfl : writer = found := Option.some.inj (there.symm.trans found_there)
  exact absurd found_left (Nat.not_le_of_lt far)

/-- Writers stay distinct when a new one is added. -/
theorem nodup_append_new {known : List (Nat × HistoryEntry)} (new : place ∉ known.map Prod.fst)
    (distinct : (known.map Prod.fst).Nodup) (entry : HistoryEntry) :
    ((known ++ [(place, entry)]).map Prod.fst).Nodup := by
  rw [List.map_append, List.map_singleton, ← List.concat_eq_append]
  exact .concat new distinct

theorem sound_empty (plan : LedgerPlan) : Sound plan empty where
  rules := .inl ⟨rfl, rfl⟩
  distinct := by rintro save ⟨⟩
  once := .nil
  savers := by rintro save ⟨⟩
  history := ⟨[], signed_nil plan.limit empty, .inl ⟨rfl, rfl⟩⟩
  carried := by rintro place writer ⟨⟩

/-- What the others carry stays in order when the writer at a place goes on. -/
theorem carried_moved (sound : Sound plan desk) (there : desk.writers[place]? = some writer)
    {stage : Stage} (closer : stage.left ≤ writer.stage.left) {table : Table}
    {savings : List (Nat × HistoryEntry)}
    (fresh :
      Carries plan.limit (desk.moved place ⟨writer.actor, stage⟩ table savings) place stage) :
    let later := desk.moved place ⟨writer.actor, stage⟩ table savings
    ∀ other found, later.writers[other]? = some found →
      Carries plan.limit later other found.stage := by
  intro later other found found_there
  by_cases same : place = other
  · subst same
    have inside := (List.getElem?_eq_some_iff.mp there).1
    obtain rfl : ⟨writer.actor, stage⟩ = found :=
      Option.some.inj ((List.getElem?_set_self inside).symm.trans found_there)
    exact fresh
  · have before : desk.writers[other]? = some found :=
      (List.getElem?_set_ne same).symm.trans found_there
    exact (sound.carried other found before).mono (precedes_moved there closer table savings)

/-- A stage that leaves the table alone keeps a desk in order if its writer is. -/
theorem sound_moved (sound : Sound plan desk) (there : desk.writers[place]? = some writer)
    {stage : Stage} (closer : stage.left ≤ writer.stage.left)
    (fresh :
      Carries plan.limit (desk.moved place ⟨writer.actor, stage⟩ desk.table []) place stage) :
    Sound plan (desk.moved place ⟨writer.actor, stage⟩ desk.table []) := by
  have precedes : Precedes desk (desk.moved place ⟨writer.actor, stage⟩ desk.table []) :=
    precedes_moved there closer desk.table []
  have saved_eq : (desk.moved place ⟨writer.actor, stage⟩ desk.table []).saved = desk.saved :=
    List.append_nil desk.saved
  obtain ⟨signed, inOrder, holds⟩ := sound.history
  refine ⟨?_, ?_, ?_, ?_, ⟨signed, inOrder.mono precedes, holds⟩,
    carried_moved sound there closer fresh⟩
  · rw [saved_eq]
    exact sound.rules
  · rw [saved_eq]
    exact sound.distinct
  · rw [saved_eq]
    exact sound.once
  · intro save member
    rw [saved_eq] at member
    exact precedes.reached _ _ (sound.savers save member)

/-- Saving the rules keeps a desk in order. -/
theorem sound_rulesSaved (sound : Sound plan desk) {actor : String} {rules : List Rule}
    (there : desk.writers[place]? = some ⟨actor, .savingRules rules⟩) (moment : Int)
    (expiry : Expiry) :
    let entry : HistoryEntry := ⟨moment, actor, rules⟩
    Sound plan (desk.moved place ⟨actor, .loadingHistory entry⟩
      (desk.table.put rulesKey ⟨.list (rules.map Rule.payload), expiry⟩) [(place, entry)]) := by
  intro entry
  have distinct : (rules.map Rule.id).Nodup := sound.carried place _ there
  have closer : (Stage.loadingHistory entry).left ≤ (Stage.savingRules rules).left :=
    Nat.le_succ 2
  have precedes : Precedes desk (desk.moved place ⟨actor, .loadingHistory entry⟩
      (desk.table.put rulesKey ⟨.list (rules.map Rule.payload), expiry⟩) [(place, entry)]) :=
    precedes_moved there closer _ _
  have inside := (List.getElem?_eq_some_iff.mp there).1
  have new : place ∉ desk.saved.map Prod.fst :=
    new_of_reached sound.savers there (Nat.lt_succ_self 2)
  obtain ⟨signed, inOrder, holds⟩ := sound.history
  refine ⟨.inr ⟨(place, entry), expiry, List.getLast?_concat, ?_⟩, ?_, ?_, ?_,
    ⟨signed, inOrder.mono precedes, ?_⟩, carried_moved sound there closer ?_⟩
  · exact (Table.get?_put ..).trans (if_pos rfl)
  · rw [moved, List.forall_mem_append, List.forall_mem_singleton]
    exact ⟨sound.distinct, distinct⟩
  · exact nodup_append_new new sound.once entry
  · rw [moved, List.forall_mem_append, List.forall_mem_singleton]
    exact ⟨fun save old => precedes.reached _ _ (sound.savers save old),
      _, List.getElem?_set_self inside, Nat.le_refl 2⟩
  · rw [Holds, moved, get?_put_of_ne rulesKey_ne_historyKey.symm]
    exact holds
  · exact List.mem_append_right desk.saved List.mem_cons_self

/-- Saving the history keeps a desk in order. -/
theorem sound_historySaved (sound : Sound plan desk) {actor : String} {entry : HistoryEntry}
    {entries : List HistoryEntry}
    (there : desk.writers[place]? = some ⟨actor, .savingHistory entry entries⟩) (expiry : Expiry) :
    Sound plan (desk.moved place ⟨actor, .done entry.rules⟩
      (desk.table.put historyKey ⟨.list (entries.map HistoryEntry.payload), expiry⟩) []) := by
  obtain ⟨signed, inOrder, rfl⟩ := sound.carried place _ there
  have quiet : Sound plan (desk.moved place ⟨actor, .done entry.rules⟩ desk.table []) :=
    sound_moved sound there (Nat.zero_le _) trivial
  have precedes : Precedes desk (desk.moved place ⟨actor, .done entry.rules⟩
      (desk.table.put historyKey
        ⟨.list ((signed.map Prod.snd).map HistoryEntry.payload), expiry⟩) []) :=
    precedes_moved there (Nat.zero_le _) _ _
  refine ⟨?_, quiet.distinct, quiet.once, quiet.savers,
    ⟨signed, inOrder.mono precedes, holds_put _ _⟩,
    carried_moved sound there (Nat.zero_le _) trivial⟩
  rw [moved, get?_put_of_ne rulesKey_ne_historyKey]
  exact quiet.rules

/-- A row whose value is fetched can be read and has not ended. -/
theorem readable_of_fetch {here : Circumstance} {table : Table} {key : String} {value : Datum}
    (fetched : fetch plan here table key = .ok (some value)) : Readable here table key := by
  rw [fetch] at fetched
  split at fetched
  · contradiction
  · rename_i working
    split at fetched
    · cases fetched
    · rename_i row row_eq
      split at fetched
      · contradiction
      · cases fetched
      · rename_i current
        refine ⟨working, ?_⟩
        intro other other_eq
        obtain rfl : row = other := Option.some.inj (row_eq.symm.trans other_eq)
        exact current

/-- What is loaded of a history in a table is all of it, or nothing if it has ended. -/
theorem loadHistory_of_holds {here : Circumstance} {table : Table}
    {entries found : List HistoryEntry}
    (holds : Holds table historyKey (entries.map HistoryEntry.payload))
    (loaded : loadHistory plan here table = .ok found) : found = entries ∨ found = [] := by
  rw [loadHistory] at loaded
  cases fetched : fetch plan here table historyKey with
  | error fault =>
      rw [load, fetched] at loaded
      contradiction
  | ok value? =>
      cases value? with
      | none =>
          rw [load, fetched] at loaded
          exact .inr (Except.ok.inj loaded).symm
      | some value =>
          rw [load_of_holds HistoryEntry.check_payload holds (readable_of_fetch fetched)] at loaded
          exact .inl (Except.ok.inj loaded).symm

/-- An entry of a new writer is added to a history, which is cut to the limit. -/
theorem Signed.grown {limit : Int} {signed : List (Nat × HistoryEntry)} {entry : HistoryEntry}
    (inOrder : Signed limit desk signed) (new : place ∉ signed.map Prod.fst)
    (has_saved : (place, entry) ∈ desk.saved) (reached : desk.Reached place 1) :
    ∃ cut, Signed limit desk cut ∧
      HistoryEntry.capped limit (signed.map Prod.snd ++ [entry]) = cut.map Prod.snd := by
  -- What is cut off is at the front, so the rest is a sublist and inherits all but its length.
  let all := signed ++ [(place, entry)]
  have kept : (all.drop (all.length - limit.toNat)).Sublist all := List.drop_sublist _ _
  have distinct : (all.map Prod.fst).Nodup := nodup_append_new new inOrder.distinct entry
  have all_saved : ∀ sign ∈ all, sign ∈ desk.saved := by
    rw [List.forall_mem_append, List.forall_mem_singleton]
    exact ⟨inOrder.saved, has_saved⟩
  have all_reached : ∀ sign ∈ all, desk.Reached sign.1 1 := by
    rw [List.forall_mem_append, List.forall_mem_singleton]
    exact ⟨inOrder.reached, reached⟩
  refine ⟨all.drop (all.length - limit.toNat), ⟨?_, ?_, ?_, ?_⟩, ?_⟩
  · rw [List.length_drop]
    omega
  · exact distinct.sublist (kept.map Prod.fst)
  · exact fun sign member => all_saved sign (kept.subset member)
  · exact fun sign member => all_reached sign (kept.subset member)
  · have entries_eq : signed.map Prod.snd ++ [entry] = all.map Prod.snd := by
      rw [List.map_append]
      rfl
    rw [HistoryEntry.capped, entries_eq, List.length_map, List.map_drop]

/-- Loading the history keeps a desk in order: a writer does not find itself in it. -/
theorem sound_historyLoaded (sound : Sound plan desk) {actor : String} {entry : HistoryEntry}
    (there : desk.writers[place]? = some ⟨actor, .loadingHistory entry⟩)
    {found : List HistoryEntry} {here : Circumstance}
    (loaded : loadHistory plan here desk.table = .ok found) :
    let entries := HistoryEntry.capped plan.limit (found ++ [entry])
    Sound plan (desk.moved place ⟨actor, .savingHistory entry entries⟩ desk.table []) := by
  intro entries
  have closer : (Stage.savingHistory entry entries).left ≤ (Stage.loadingHistory entry).left :=
    Nat.le_succ 1
  have precedes : Precedes desk
      (desk.moved place ⟨actor, .savingHistory entry entries⟩ desk.table []) :=
    precedes_moved there closer _ _
  have inside := (List.getElem?_eq_some_iff.mp there).1
  have has_saved : (place, entry) ∈ desk.saved := sound.carried place _ there
  obtain ⟨signed, inOrder, found_eq⟩ : ∃ signed, Signed plan.limit desk signed ∧
      found = signed.map Prod.snd := by
    obtain ⟨signed, inOrder, holds⟩ := sound.history
    rcases loadHistory_of_holds holds loaded with same | nothing
    · exact ⟨signed, inOrder, same⟩
    · exact ⟨[], signed_nil plan.limit desk, nothing⟩
  have new : place ∉ signed.map Prod.fst :=
    new_of_reached inOrder.reached there (Nat.lt_succ_self 1)
  have fresh := (inOrder.mono precedes).grown new (precedes.saved _ has_saved)
    ⟨_, List.getElem?_set_self inside, Nat.le_refl 1⟩
  rw [← found_eq] at fresh
  exact sound_moved sound there closer fresh

/-- What the writer of a call is about to save has distinct names. -/
theorem carries_proposing (limit : Int) (desk : Desk) (place : Nat) (rules : List Rule) :
    Carries limit desk place (.proposing rules) := by
  rcases proposing_cases rules with ⟨distinct, saving⟩ | ⟨refused, failed⟩
  · rw [saving]
    exact distinct
  · rw [failed]
    trivial

theorem carries_ofCall? {call : Call} (begun : Writer.ofCall? call = some writer) (limit : Int)
    (desk : Desk) (place : Nat) : Carries limit desk place writer.stage := by
  cases call with
  | upsert rule actor =>
      cases begun
      trivial
  | replaceAll rules actor =>
      cases begun
      exact carries_proposing limit desk place rules
  | _ => contradiction

/-- A writer that comes keeps a desk in order. -/
theorem sound_come (sound : Sound plan desk) (call : Call) :
    Sound plan (desk.next plan (.come call)) := by
  have precedes : Precedes desk (desk.next plan (.come call)) := by
    refine ⟨fun save member => member, ?_⟩
    rintro place count ⟨writer, there, left⟩
    have inside := (List.getElem?_eq_some_iff.mp there).1
    exact ⟨writer, (List.getElem?_append_left inside).trans there, left⟩
  obtain ⟨signed, inOrder, holds⟩ := sound.history
  refine ⟨sound.rules, sound.distinct, sound.once,
    fun save member => precedes.reached _ _ (sound.savers save member),
    ⟨signed, inOrder.mono precedes, holds⟩, ?_⟩
  intro place writer there
  by_cases known : place < desk.writers.length
  · have before : desk.writers[place]? = some writer :=
      (List.getElem?_append_left known).symm.trans there
    exact (sound.carried place writer before).mono precedes
  · have new : (Writer.ofCall? call).toList[place - desk.writers.length]? = some writer :=
      (List.getElem?_append_right (Nat.le_of_not_lt known)).symm.trans there
    have begun : Writer.ofCall? call = some writer :=
      Option.mem_toList.mp (List.mem_of_getElem? new)
    exact carries_ofCall? begun plan.limit _ place

/-- A stage that a writer makes keeps a desk in order. -/
theorem sound_of_turn (sound : Sound plan desk) {actor : String} {stage later : Stage}
    {here : Circumstance} {table : Table}
    (there : desk.writers[place]? = some ⟨actor, stage⟩)
    (turn : Turn plan actor here desk.table stage table later) :
    let saving := Writer.saving? plan here desk.table ⟨actor, stage⟩
    Sound plan (desk.moved place ⟨actor, later⟩ table
      (saving.map fun entry => (place, entry)).toList) := by
  intro saving
  have closer : later.left ≤ stage.left := Nat.le_trans (left_of_turn turn) (Nat.sub_le _ 1)
  -- Only a turn that saves rules has a saving; for most others there is none by definition.
  cases turn with
  | rulesLoaded => exact sound_moved sound there closer (carries_proposing ..)
  | @rulesSaved rules _ saved =>
      have saving_eq : saving = some ⟨here.moment, actor, rules⟩ := by
        simp only [saving, Writer.saving?, saved]
      obtain ⟨expiry, rfl⟩ := eq_put_of_save saved
      rw [saving_eq]
      exact sound_rulesSaved sound there here.moment expiry
  | rulesUnsaved failed =>
      have saving_eq : saving = none := by
        simp only [saving, Writer.saving?, failed]
      rw [saving_eq]
      exact sound_moved sound there closer trivial
  | historyLoaded loaded => exact sound_historyLoaded sound there loaded
  | historySaved saved =>
      obtain ⟨expiry, rfl⟩ := eq_put_of_save saved
      exact sound_historySaved sound there expiry
  | rulesUnread | historyUnread | historyUnsaved | stillDone | stillFailed =>
      exact sound_moved sound there closer trivial

/-- An event keeps a desk in order. -/
theorem sound_next (sound : Sound plan desk) (event : Event) :
    Sound plan (desk.next plan event) := by
  cases event with
  | come call => exact sound_come sound call
  | turn place here =>
      rw [next]
      cases there : desk.writers[place]? with
      | none => exact sound
      | some writer => exact sound_of_turn sound there (turn_next writer.stage)

end Step

/-! ## Many events -/

/-- Every desk is in order, whatever has happened there. -/
theorem sound_after (plan : LedgerPlan) (events : List Event) : Sound plan (after plan events) := by
  rw [after]
  -- The induction goes over the events from any desk in order, not from the empty one alone.
  have sound : Sound plan empty := sound_empty plan
  generalize empty = desk at sound ⊢
  induction events generalizing desk with
  | nil => exact sound
  | cons event events induction => exact induction _ (sound_next sound event)

/--
Whatever writers do at a table in whatever order, and whichever of their stages fail, the table is
whole after each event.  Its rules are exactly those of the latest saving, with distinct names; no
rules are there only if none were saved.  Its history has at most as many entries as the plan
allows; each is the entry of a writer that has saved exactly its rules, and no writer appears twice.
-/
theorem rows_after_events (plan : LedgerPlan) (events : List Event) :
    let desk := after plan events
    ((desk.saved = [] ∧ desk.table.get? rulesKey = none) ∨
      ∃ save expiry, desk.saved.getLast? = some save ∧
        desk.table.get? rulesKey = some ⟨.list (save.2.rules.map Rule.payload), expiry⟩ ∧
        (save.2.rules.map Rule.id).Nodup) ∧
    (desk.table.get? historyKey = none ∨
      ∃ (signed : List (Nat × HistoryEntry)) (expiry : Expiry),
        desk.table.get? historyKey =
          some ⟨.list (signed.map fun sign => sign.2.payload), expiry⟩ ∧
        signed.length ≤ (max plan.limit 0).toNat ∧
        (∀ sign ∈ signed, sign ∈ desk.saved) ∧ (signed.map Prod.fst).Nodup) ∧
    (desk.saved.map Prod.fst).Nodup := by
  intro desk
  have sound : Sound plan desk := sound_after plan events
  refine ⟨?_, ?_, sound.once⟩
  · rcases sound.rules with nothing | ⟨save, expiry, latest, row_eq⟩
    · exact .inl nothing
    · exact .inr ⟨save, expiry, latest, row_eq,
        sound.distinct save (List.mem_of_getLast? latest)⟩
  · obtain ⟨signed, inOrder, ⟨missing, _⟩ | ⟨expiry, row_eq⟩⟩ := sound.history
    · exact .inl missing
    · have bounded : signed.length ≤ (max plan.limit 0).toNat := by
        have few := inOrder.bounded
        omega
      rw [List.map_map] at row_eq
      exact .inr ⟨signed, expiry, row_eq, bounded, inOrder.saved, inOrder.distinct⟩

end Desk

end Appraisal.Ledger
