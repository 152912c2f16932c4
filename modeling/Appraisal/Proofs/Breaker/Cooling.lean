import Appraisal.Proofs.Breaker.Traffic
import Mathlib.Algebra.Order.Ring.Rat
import Mathlib.Data.List.Induction
import Mathlib.Tactic.Linarith
import Mathlib.Tactic.NormNum

/-!
# Nothing gets through while a circuit cools down

From the moment a circuit opens until its cooldown is over, every call is turned away and told how
long to wait, whatever calls end meanwhile that were let through before.  A late success clears the
counter and a late failure adds to it, but neither moves the circuit nor the time at which it
opened.

Times are read exactly here: the clock gives rationals, and the cooldown is the rational that the
plan's number is.
-/

namespace Appraisal.Breaker

section Change

variable {τ : Type} [Timescale τ] {plan : BreakerPlan} {now : τ} {breaker later : Breaker τ}

/-- An open circuit that has not cooled down stays open, and opened when it did. -/
theorem opened_of_change (change : Change plan now breaker later)
    (opened : breaker.circuit = .opened) (warm : breaker.isCool plan now = false) :
    later.circuit = .opened ∧ later.openedAt = breaker.openedAt := by
  cases change with
  | nothing => exact ⟨opened, rfl⟩
  | halfOpening _ cool => simp [warm] at cool
  | forgetting => exact ⟨opened, rfl⟩
  | closing ready => exact absurd opened ready
  | counting => exact ⟨opened, rfl⟩
  | opening fragile => simp [Fragile, opened] at fragile

theorem openedAt_of_change (change : Change plan now breaker later)
    (ready : breaker.circuit ≠ .opened) (opened : later.circuit = .opened) :
    later.openedAt = now := by
  cases change with
  | opening => rfl
  | nothing => exact absurd opened ready
  | halfOpening already => exact absurd already ready
  | forgetting already => exact absurd already ready
  | closing => contradiction
  | counting => exact absurd opened ready

/-- The changes of a circuit that are no reset. -/
def steps : List (Circuit × Circuit) :=
  [(.closed, .opened), (.opened, .halfOpen), (.halfOpen, .opened), (.halfOpen, .closed)]

theorem circuits_of_change (change : Change plan now breaker later) :
    breaker.circuit = later.circuit ∨ (breaker.circuit, later.circuit) ∈ steps := by
  cases change with
  | nothing => exact .inl rfl
  | forgetting => exact .inl rfl
  | counting => exact .inl rfl
  | halfOpening opened => simp [steps, opened]
  | closing ready =>
      cases circuit : breaker.circuit with
      | opened => exact absurd circuit ready
      | closed => exact .inl rfl
      | halfOpen => simp [steps]
  | opening fragile =>
      rcases fragile with half | ⟨closed, _⟩
      · simp [steps, half]
      · simp [steps, closed]

/-- A closed circuit is below the threshold. -/
def Low (plan : BreakerPlan) (breaker : Breaker τ) : Prop :=
  breaker.circuit = .closed → breaker.failures < plan.threshold

theorem low_of_change (change : Change plan now breaker later) (low : breaker.Low plan) :
    later.Low plan := by
  intro closed
  cases change with
  | nothing => exact low closed
  | halfOpening => contradiction
  | forgetting => exact plan.positive
  | closing => exact plan.positive
  | opening => contradiction
  | counting firm =>
      simp only [Fragile, not_or, not_and, Nat.not_le] at firm
      exact firm.2 closed

end Change

namespace Traffic

section Step

variable {τ : Type} [Timescale τ] {plan : BreakerPlan}

theorem change_next {event : Event τ} (unreset : event.action ≠ .reset) (traffic : Traffic τ) :
    Change plan event.time traffic.breaker (traffic.next plan event).breaker := by
  obtain ⟨time, action⟩ := event
  cases action with
  | look => exact change_settle plan time traffic.breaker
  | ask =>
      simp only [next]
      split <;> exact change_ask plan time traffic.breaker
  | finish place ending =>
      simp only [next]
      split
      · exact change_complete plan time ending traffic.breaker
      · exact .nothing
  | reset => contradiction

theorem low_after {events : List (Event τ)} (unreset : ∀ event ∈ events, event.action ≠ .reset) :
    (after plan events).breaker.Low plan := by
  induction events using List.reverseRecOn with
  | nil => exact fun _ => plan.positive
  | append_singleton events event induction =>
      rw [List.forall_mem_append, List.forall_mem_singleton] at unreset
      rw [after_concat]
      exact low_of_change (change_next unreset.2 _) (induction unreset.1)

end Step

section Exact

variable {plan : BreakerPlan} {cooldown : Rat}

theorem isCool_eq_false_iff (exact : plan.cooldown.extent = .finite cooldown) (now : Rat)
    (breaker : Breaker Rat) :
    breaker.isCool plan now = false ↔ now - breaker.openedAt < cooldown := by
  have cool_iff : breaker.isCool plan now = true ↔ cooldown ≤ now - breaker.openedAt := by
    simp [isCool, exact, Extent.atMost, Extent.less, Extent.same, Timescale.extent, le_iff_lt_or_eq]
  rw [← Bool.not_eq_true, cool_iff, not_le]

/-- A circuit stays open through events before its cooldown is over. -/
theorem opened_foldl (exact : plan.cooldown.extent = .finite cooldown)
    {middle : List (Event Rat)} (unreset : ∀ event ∈ middle, event.action ≠ .reset)
    {since : Rat} (early : ∀ event ∈ middle, event.time - since < cooldown)
    {traffic : Traffic Rat} (opened : traffic.breaker.circuit = .opened)
    (openedAt_eq : traffic.breaker.openedAt = since) :
    (middle.foldl (next plan) traffic).breaker.circuit = .opened ∧
      (middle.foldl (next plan) traffic).breaker.openedAt = since := by
  -- The circuit has been open since the same time before each event, so each one comes too early.
  induction middle generalizing traffic with
  | nil => exact ⟨opened, openedAt_eq⟩
  | cons event middle induction =>
      rw [List.forall_mem_cons] at unreset early
      have warm : traffic.breaker.isCool plan event.time = false := by
        rw [isCool_eq_false_iff exact, openedAt_eq]
        exact early.1
      obtain ⟨still_opened, openedAt_same⟩ :=
        opened_of_change (change_next unreset.1 traffic) opened warm
      exact induction unreset.2 early.2 still_opened (openedAt_same.trans openedAt_eq)

/-- A call that is asked for while the circuit cools down is turned away, and nothing changes. -/
theorem ask_of_cooling (exact : plan.cooldown.extent = .finite cooldown) {now : Rat}
    {breaker : Breaker Rat} (opened : breaker.circuit = .opened)
    (early : now - breaker.openedAt < cooldown) :
    breaker.ask plan now =
      (.rejected (some (cooldown - (now - breaker.openedAt))), breaker, []) := by
  rw [ask_of_warm opened ((isCool_eq_false_iff exact now breaker).mpr early)]
  simp [retryAfter?, Timescale.ofNumber?, exact, Extent.value?]

/-- A circuit opens at an event. -/
def Opens (plan : BreakerPlan) (earlier : List (Event Rat)) (event : Event Rat) : Prop :=
  (after plan earlier).breaker.circuit ≠ .opened ∧
    (after plan (earlier ++ [event])).breaker.circuit = .opened

/-- While the cooldown lasts, the circuit is open since the event at which it opened. -/
theorem opened_of_opens (exact : plan.cooldown.extent = .finite cooldown)
    {earlier middle : List (Event Rat)} {opening : Event Rat}
    (opens : Opens plan earlier opening) (unreset_opening : opening.action ≠ .reset)
    (unreset : ∀ event ∈ middle, event.action ≠ .reset)
    (early : ∀ event ∈ middle, event.time - opening.time < cooldown) :
    (after plan (earlier ++ opening :: middle)).breaker.circuit = .opened ∧
      (after plan (earlier ++ opening :: middle)).breaker.openedAt = opening.time := by
  obtain ⟨ready, opened⟩ := opens
  have openedAt_eq : (after plan (earlier ++ [opening])).breaker.openedAt = opening.time := by
    rw [after_concat] at opened ⊢
    exact openedAt_of_change (change_next unreset_opening _) ready opened
  rw [List.append_cons, after_append]
  exact opened_foldl exact unreset early opened openedAt_eq

/-- An event while the circuit cools down lets no call through. -/
theorem flights_next_of_cooling (exact : plan.cooldown.extent = .finite cooldown)
    {traffic : Traffic Rat} {event : Event Rat} (opened : traffic.breaker.circuit = .opened)
    (early : event.time - traffic.breaker.openedAt < cooldown) :
    (traffic.next plan event).flights.Sublist traffic.flights := by
  obtain ⟨time, action⟩ := event
  cases action with
  | look => exact .refl _
  | ask =>
      simp [next_ask_of_warm opened ((isCool_eq_false_iff exact time traffic.breaker).mpr early)]
  | finish place ending =>
      simp only [next]
      split
      · exact List.eraseIdx_sublist traffic.flights place
      · exact .refl _
  | reset => exact .refl _

/-- Of events in the order of their times none is later than one that follows it. -/
theorem times_le_of_ordered {earlier middle later : List (Event Rat)} {opening event : Event Rat}
    (ordered : ((earlier ++ opening :: (middle ++ event :: later)).map Event.time).Pairwise
      (· ≤ ·)) :
    opening.time ≤ event.time ∧ ∀ other ∈ middle, other.time ≤ event.time := by
  rw [List.pairwise_map, List.pairwise_append, List.pairwise_cons, List.pairwise_append] at ordered
  obtain ⟨_, ⟨first, _, _, last⟩, _⟩ := ordered
  exact ⟨first event (by simp), fun other member => last other member event List.mem_cons_self⟩

/--
Take any events at a breaker that is never reset, in the order of their exact times.  When the
circuit opens at one of them, no later event before the cooldown is over lets a call through, and
every call that comes in is told a positive time to wait, at most the cooldown, and changes nothing.
The circuit moves only from closed to open, from open to half open, and from half open to open or to
closed; and while it is closed, the failures are below the threshold.
-/
theorem turned_away_while_cooling {plan : BreakerPlan} {cooldown : Rat}
    (exact : plan.cooldown.extent = .finite cooldown) {events : List (Event Rat)}
    (ordered : (events.map Event.time).Pairwise (· ≤ ·))
    (unreset : ∀ event ∈ events, event.action ≠ .reset) :
    (∀ earlier opening middle event later,
      events = earlier ++ opening :: (middle ++ event :: later) →
      Opens plan earlier opening → event.time - opening.time < cooldown →
        let before := after plan (earlier ++ opening :: middle)
        (before.next plan event).flights.Sublist before.flights ∧
          (event.action = .ask → ∃ wait,
            before.breaker.ask plan event.time = (.rejected (some wait), before.breaker, []) ∧
              0 < wait ∧ wait ≤ cooldown ∧ before.next plan event = before)) ∧
    (∀ earlier event later, events = earlier ++ event :: later →
      let before := (after plan earlier).breaker.circuit
      let afterwards := (after plan (earlier ++ [event])).breaker.circuit
      before = afterwards ∨ (before, afterwards) ∈ steps) ∧
    ((after plan events).breaker.circuit = .closed →
      (after plan events).breaker.failures < plan.threshold) := by
  refine ⟨?_, ?_, low_after unreset⟩
  · rintro earlier opening middle event later rfl opens early before
    simp only [List.forall_mem_append, List.forall_mem_cons] at unreset
    obtain ⟨_, unreset_opening, unreset_middle, _⟩ := unreset
    obtain ⟨opening_le, middle_le⟩ := times_le_of_ordered ordered
    have early_middle : ∀ other ∈ middle, other.time - opening.time < cooldown := by
      intro other member
      linarith [middle_le other member]
    obtain ⟨opened, openedAt_eq⟩ :=
      opened_of_opens exact opens unreset_opening unreset_middle early_middle
    rw [← openedAt_eq] at early opening_le
    refine ⟨flights_next_of_cooling exact opened early, ?_⟩
    obtain ⟨time, action⟩ := event
    rintro rfl
    have unchanged : before.next plan ⟨time, .ask⟩ = before :=
      next_ask_of_warm opened ((isCool_eq_false_iff exact time before.breaker).mpr early)
    refine ⟨_, ask_of_cooling exact opened early, ?_, ?_, unchanged⟩
    · linarith
    · linarith
  · rintro earlier event later rfl before afterwards
    have unreset_event : event.action ≠ .reset := unreset event (by simp)
    simp only [before, afterwards, after_concat]
    exact circuits_of_change (change_next unreset_event _)

/-- Of two calls one fails and opens the circuit; the other one succeeds later and clears the
counter, and a third call is turned away a moment before the cooldown is over. -/
theorem turned_away_after_late_success :
    let plan : BreakerPlan := ⟨"ml", 1, by decide, 1000⟩
    let asks : List (Event Rat) := [⟨0, .ask⟩, ⟨0, .ask⟩]
    let opening : Event Rat := ⟨5, .finish 0 (.failure ⟨"RuntimeError", none, []⟩)⟩
    let success : Event Rat := ⟨500, .finish 0 .success⟩
    let third : Event Rat := ⟨1004, .ask⟩
    let before := after plan (asks ++ [opening, success])
    plan.cooldown.extent = .finite 1000 ∧
      ((asks ++ [opening, success, third]).map Event.time).Pairwise (· ≤ ·) ∧
      (∀ event ∈ asks ++ [opening, success, third], event.action ≠ .reset) ∧
      Opens plan asks opening ∧ before.breaker.failures = 0 ∧ ∃ wait,
        before.breaker.ask plan third.time = (.rejected (some wait), before.breaker, []) ∧
          0 < wait ∧ wait ≤ 1000 ∧ before.next plan third = before := by
  intro plan asks opening success third before
  have exact : plan.cooldown.extent = .finite 1000 := rfl
  have ordered : ((asks ++ [opening, success, third]).map Event.time).Pairwise (· ≤ ·) := by
    decide
  have unreset : ∀ event ∈ asks ++ [opening, success, third], event.action ≠ .reset := by
    simp [asks, opening, success, third]
  have opens : Opens plan asks opening := by
    constructor <;> decide
  have early : third.time - opening.time < 1000 := by norm_num [third, opening]
  refine ⟨exact, ordered, unreset, opens, by decide, ?_⟩
  have kept := (turned_away_while_cooling exact ordered unreset).1 asks opening [success] third []
    rfl opens early
  exact kept.2 rfl

end Exact

end Traffic

end Appraisal.Breaker
