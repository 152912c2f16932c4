import Appraisal.Proofs.RuleBook.Roster
import Mathlib.Data.List.DropRight

/-!
# The trail of changes

Every change that goes through makes one entry: who made it, when, and all rules right after it.
The trail of some calls is the row of the entries that they make.  A rule book in memory cuts its
history after each change; what is left is nevertheless what one cut at the end would leave of the
whole trail, and the rules are those of its last entry.
-/

namespace Appraisal

/-- Who makes a change; other calls have no actor. -/
def Call.actor? : Call → Option String
  | .upsert _ actor | .replaceAll _ actor => some actor
  | _ => none

namespace HistoryEntry

theorem capped_eq_rtake (limit : Int) (entries : List HistoryEntry) :
    capped limit entries = entries.rtake limit.toNat :=
  rfl

/-- What was cut before an entry was added is cut afterwards too. -/
theorem capped_append_capped (limit : Int) (entries : List HistoryEntry) (entry : HistoryEntry) :
    capped limit (capped limit entries ++ [entry]) = capped limit (entries ++ [entry]) := by
  rw [capped_eq_rtake, capped_eq_rtake, capped_eq_rtake]
  cases limit.toNat with
  | zero => rw [List.rtake_zero, List.rtake_zero]
  | succ count =>
      have again : (entries.rtake (count + 1)).rtake count = entries.rtake count := by
        simp only [List.rtake, List.drop_drop, List.length_drop]
        congr 1
        omega
      rw [List.rtake_concat_succ, List.rtake_concat_succ, again]

/-- The last entry stays as long as any entry does. -/
theorem getLast?_capped {limit : Int} (positive : 0 < limit) (entries : List HistoryEntry) :
    (capped limit entries).getLast? = entries.getLast? := by
  have kept : 0 < limit.toNat := by omega
  cases entries with
  | nil => rw [capped, List.drop_nil]
  | cons first others =>
      rw [capped, List.getLast?_drop, if_neg]
      rw [List.length_cons]
      omega

end HistoryEntry

namespace MemoryBook

/-- The entry that a call makes; a call that is refused or changes nothing makes none. -/
def entryFrom? (book : MemoryBook) (moment : Int) (call : Call) : Option HistoryEntry :=
  match call.actor?, book.answer moment call with
  | some actor, (.ok _, _, after) => some ⟨moment, actor, after.rules⟩
  | _, _ => none

/-- The entries that some calls make one after the other, each at a moment. -/
def trail (book : MemoryBook) : List (Int × Call) → List HistoryEntry
  | [] => []
  | (moment, call) :: calls =>
      (book.entryFrom? moment call).toList ++ trail (book.answer moment call).2.2 calls

/-- The book after a change that makes an entry. -/
def record (book : MemoryBook) (entry : HistoryEntry) : MemoryBook :=
  ⟨entry.rules, HistoryEntry.capped book.limit (book.history ++ [entry]), book.limit⟩

section Changes

variable (book : MemoryBook)

/-- A list is written, and its entry recorded, or it is refused. -/
theorem changed_write (moment : Int) (actor : String) (rules : List Rule) :
    book.changed actor (book.write moment actor rules) =
        (.ok .done, [.changed rules.length actor], book.record ⟨moment, actor, rules⟩) ∨
      ∃ refused,
        book.changed actor (book.write moment actor rules) = (.error refused, [], book) := by
  by_cases distinct : (rules.map Rule.id).Nodup
  · left
    rw [write_of_distinct distinct, changed, record]
  · right
    obtain ⟨refused, refused_eq⟩ := write_of_repeated distinct moment actor book
    exact ⟨refused, by rw [refused_eq, changed]⟩

/-- A call records the entry that it makes, and does nothing else to the book. -/
theorem answer_eq_record (moment : Int) (call : Call) :
    (book.answer moment call).2.2 = (book.entryFrom? moment call).toList.foldl record book := by
  have written (actor : String) (rules : List Rule)
      (author : call.actor? = some actor)
      (answered : book.answer moment call = book.changed actor (book.write moment actor rules)) :
      (book.answer moment call).2.2 = (book.entryFrom? moment call).toList.foldl record book := by
    rw [entryFrom?, author, answered]
    rcases book.changed_write moment actor rules with accepted | ⟨refused, refused_eq⟩
    · rw [accepted]
      rfl
    · rw [refused_eq]
      rfl
  cases call with
  | upsert rule actor => exact written actor _ rfl rfl
  | replaceAll rules actor => exact written actor rules rfl rfl
  | _ => rfl

/-- Some calls record the entries of their trail. -/
theorem after_eq_record (calls : List (Int × Call)) :
    book.after calls = (book.trail calls).foldl record book := by
  induction calls generalizing book with
  | nil => rfl
  | cons first others induction =>
      obtain ⟨moment, call⟩ := first
      rw [trail, List.foldl_append, ← answer_eq_record, ← induction]
      rfl

end Changes

/-- The rules are those of the last entry that was recorded. -/
theorem rules_foldl_record (book : MemoryBook) (entries : List HistoryEntry) :
    (entries.foldl record book).rules =
      (entries.getLast?.map HistoryEntry.rules).getD book.rules := by
  induction entries generalizing book with
  | nil => rfl
  | cons entry others induction =>
      rw [List.foldl_cons, induction, List.getLast?_cons]
      cases others.getLast? <;> rfl

/-- Entries that are recorded one by one are cut as if they had been recorded at once. -/
theorem history_foldl_record {book : MemoryBook} {past : List HistoryEntry}
    (cut : book.history = HistoryEntry.capped book.limit past) (entries : List HistoryEntry) :
    (entries.foldl record book).history = HistoryEntry.capped book.limit (past ++ entries) := by
  induction entries generalizing book past with
  | nil => rw [List.append_nil, List.foldl_nil, cut]
  | cons entry others induction =>
      have recorded : (book.record entry).history =
          HistoryEntry.capped book.limit (past ++ [entry]) := by
        rw [record, cut, HistoryEntry.capped_append_capped]
      rw [List.foldl_cons, induction recorded, List.append_assoc, List.singleton_append]
      rfl

/--
Whatever was called on a book that started with some rules and no history, its history is the end of
the trail of these calls, as long as the limit allows; none of it if the limit is not positive.  If
the limit is positive and something was changed, the last entry of the history holds the rules that
the book lists.
-/
theorem history_after_calls (rules : List Rule) (limit : Int) (calls : List (Int × Call))
    (moment : Int) :
    let trail := (ofRules rules limit).trail calls
    let book := (ofRules rules limit).after calls
    (book.answer moment .history).1 = .ok (.history (trail.rtake (max limit 0).toNat)) ∧
      (0 < limit → trail ≠ [] →
        ∃ entry, book.history.getLast? = some entry ∧
          (book.answer moment .listAll).1 = .ok (.rules entry.rules)) := by
  intro trail book
  have recorded : book = trail.foldl record (ofRules rules limit) :=
    after_eq_record (ofRules rules limit) calls
  have start : (ofRules rules limit).history = HistoryEntry.capped limit [] :=
    List.drop_nil.symm
  have cut : book.history = HistoryEntry.capped limit trail := by
    rw [recorded]
    exact history_foldl_record start trail
  constructor
  · have bound : (max limit 0).toNat = limit.toNat := by omega
    rw [answer, cut, bound, HistoryEntry.capped_eq_rtake]
  · intro positive changed
    obtain ⟨entry, last⟩ : ∃ entry, trail.getLast? = some entry :=
      ⟨_, List.getLast?_eq_getLast_of_ne_nil changed⟩
    refine ⟨entry, ?_, ?_⟩
    · rw [cut, HistoryEntry.getLast?_capped positive, last]
    · rw [answer, recorded, rules_foldl_record, last]
      rfl

/-- Three changes and a refused list under a limit of two. -/
theorem history_after_four_calls :
    let first : Rule := ⟨⟨"a", by decide⟩, ⟨"x", by decide⟩, [], none, none, none⟩
    let second : Rule := ⟨⟨"b", by decide⟩, ⟨"y", by decide⟩, [], none, none, some false⟩
    let calls := [(1, .upsert first "one"), (2, .upsert second "two"),
      (3, .replaceAll [second, second] "three"), (4, .replaceAll [second] "four")]
    let book := (ofRules [] 2).after calls
    0 < (2 : Int) ∧ (ofRules [] 2).trail calls ≠ [] ∧
      (book.answer 5 .history).1 =
        .ok (.history [⟨2, "two", [first, second]⟩, ⟨4, "four", [second]⟩]) ∧
      ∃ entry, book.history.getLast? = some entry ∧
        (book.answer 5 .listAll).1 = .ok (.rules entry.rules) := by
  intro first second calls book
  have positive : 0 < (2 : Int) := by decide
  have changed : (ofRules [] 2).trail calls ≠ [] := by
    rintro ⟨⟩
  obtain ⟨history_eq, last⟩ := history_after_calls [] 2 calls 5
  exact ⟨positive, changed, history_eq.trans rfl, last positive changed⟩

end MemoryBook

end Appraisal
