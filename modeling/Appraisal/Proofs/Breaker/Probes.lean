import Appraisal.Proofs.Breaker.Traffic
import Mathlib.Data.List.Induction

/-!
# Probes of a half-open circuit

A half-open circuit lets every call through, so there are as many probes as calls come in before one
of them ends.  At most one probe is under way at any moment exactly if no call comes in while the
circuit is half open and a probe is under way.
-/

namespace Appraisal.Breaker.Traffic

variable {τ : Type} {traffic : Traffic τ}

/-- No call under way was let through in a round to come. -/
def Numbered (traffic : Traffic τ) : Prop :=
  ∀ flight ∈ traffic.flights, flight.round ≤ traffic.rounds

theorem numbered_moved (numbered : traffic.Numbered) (later : Breaker τ) :
    (traffic.moved later).Numbered := by
  intro flight member
  have known : flight.round ≤ traffic.rounds := numbered flight member
  simp only [moved]
  split <;> omega

theorem numbered_joined (numbered : traffic.Numbered) : traffic.joined.Numbered := by
  rw [Numbered, joined, List.forall_mem_append, List.forall_mem_singleton]
  exact ⟨numbered, Nat.le_refl _⟩

theorem numbered_left (numbered : traffic.Numbered) (place : Nat) :
    (traffic.left place).Numbered :=
  fun flight member => numbered flight (List.mem_of_mem_eraseIdx member)

/-- When a circuit becomes half open, there are no probes of it yet. -/
theorem probes_moved_of_halfOpening (numbered : traffic.Numbered) {later : Breaker τ}
    (opened : traffic.breaker.circuit = .opened) (half : later.circuit = .halfOpen) :
    (traffic.moved later).probes = [] := by
  rw [probes, List.filter_eq_nil_iff]
  intro flight member
  have known : flight.round ≤ traffic.rounds := numbered flight member
  have rounds_eq : (traffic.moved later).rounds = traffic.rounds + 1 := if_pos ⟨opened, half⟩
  simp only [Flight.isProbe, rounds_eq, Bool.and_eq_true, decide_eq_true_eq, not_and]
  omega

theorem probes_moved {later : Breaker τ}
    (same : ¬ (traffic.breaker.circuit = .opened ∧ later.circuit = .halfOpen)) :
    (traffic.moved later).probes = traffic.probes := by
  have rounds_eq : (traffic.moved later).rounds = traffic.rounds := if_neg same
  rw [probes, rounds_eq]
  rfl

theorem probes_joined_of_halfOpen (half : traffic.breaker.circuit = .halfOpen) :
    traffic.joined.probes.length = traffic.probes.length + 1 := by
  simp [probes, Flight.isProbe, joined, half]

theorem probes_joined_of_ne (firm : traffic.breaker.circuit ≠ .halfOpen) :
    traffic.joined.probes = traffic.probes := by
  simp [probes, Flight.isProbe, joined, firm]

theorem probes_left (traffic : Traffic τ) (place : Nat) :
    (traffic.left place).probes.Sublist traffic.probes :=
  (List.eraseIdx_sublist traffic.flights place).filter _

/-- A move makes probes of no calls under way. -/
theorem length_probes_moved_le (numbered : traffic.Numbered) (later : Breaker τ) :
    (traffic.moved later).probes.length ≤ traffic.probes.length := by
  by_cases halfOpening : traffic.breaker.circuit = .opened ∧ later.circuit = .halfOpen
  · rw [probes_moved_of_halfOpening numbered halfOpening.1 halfOpening.2]
    exact Nat.zero_le _
  · exact Nat.le_of_eq (congrArg List.length (probes_moved halfOpening))

variable [Timescale τ] {plan : BreakerPlan}

theorem numbered_next (numbered : traffic.Numbered) (plan : BreakerPlan) (event : Event τ) :
    (traffic.next plan event).Numbered := by
  obtain ⟨time, action⟩ := event
  cases action with
  | look => exact numbered_moved numbered _
  | reset => exact numbered_moved numbered _
  | ask =>
      simp only [next]
      split
      · exact numbered_joined (numbered_moved numbered _)
      · exact numbered_moved numbered _
  | finish place ending =>
      simp only [next]
      split
      · exact numbered_left (numbered_moved numbered _) place
      · exact numbered

theorem numbered_after (plan : BreakerPlan) (events : List (Event τ)) :
    (after plan events).Numbered := by
  induction events using List.reverseRecOn with
  | nil => rintro flight ⟨⟩
  | append_singleton events event induction =>
      rw [after_concat]
      exact numbered_next induction plan event

/-- A call that comes in while the circuit is half open becomes one more probe. -/
theorem length_probes_next_of_ask {event : Event τ} (asked : event.action = .ask)
    (half : traffic.breaker.circuit = .halfOpen) :
    (traffic.next plan event).probes.length = traffic.probes.length + 1 := by
  obtain ⟨time, action⟩ := event
  obtain rfl : action = .ask := asked
  rw [next_ask_of_ready (by simp [half]), probes_joined_of_halfOpen half]

/-- Unless a call comes in while a probe is under way, there is at most one probe after an event if
there was at most one before. -/
theorem length_probes_next_le (numbered : traffic.Numbered) {event : Event τ}
    (alone : event.action = .ask → traffic.breaker.circuit = .halfOpen → traffic.probes = [])
    (single : traffic.probes.length ≤ 1) : (traffic.next plan event).probes.length ≤ 1 := by
  obtain ⟨time, action⟩ := event
  cases action with
  | look => exact Nat.le_trans (length_probes_moved_le numbered _) single
  | reset => exact Nat.le_trans (length_probes_moved_le numbered _) single
  | finish place ending =>
      simp only [next]
      split
      · exact Nat.le_trans (probes_left _ place).length_le
          (Nat.le_trans (length_probes_moved_le numbered _) single)
      · exact single
  | ask =>
      -- A probe is added by a call that finds the circuit half open, or that makes it so; in the
      -- second case it is the first of its round.
      by_cases half : traffic.breaker.circuit = .halfOpen
      · rw [length_probes_next_of_ask rfl half, alone rfl half]
        exact Nat.le_refl 1
      · rcases ready_or_cool_or_warm plan time traffic.breaker with
          ready | ⟨opened, cool⟩ | ⟨opened, warm⟩
        · rw [next_ask_of_ready ready, probes_joined_of_ne half]
          exact single
        · have fresh : (traffic.moved { traffic.breaker with circuit := .halfOpen }).probes = [] :=
            probes_moved_of_halfOpening numbered opened rfl
          rw [next_ask_of_cool opened cool, probes_joined_of_halfOpen rfl, fresh]
          exact Nat.le_refl 1
        · rw [next_ask_of_warm opened warm]
          exact single

/--
A half-open circuit lets every call through as a further probe, however many probes are under way.
So after any events there has never been more than one probe of the latest half-open circuit under
way exactly if no call has come in while the circuit was half open and a probe was under way.
-/
theorem single_probe_iff (plan : BreakerPlan) (events : List (Event τ)) :
    (∀ earlier event, earlier ++ [event] <+: events → event.action = .ask →
      (after plan earlier).breaker.circuit = .halfOpen →
        (after plan (earlier ++ [event])).probes.length = (after plan earlier).probes.length + 1) ∧
    ((∀ earlier, earlier <+: events → (after plan earlier).probes.length ≤ 1) ↔
      ∀ earlier event, earlier ++ [event] <+: events → event.action = .ask →
        (after plan earlier).breaker.circuit = .halfOpen → (after plan earlier).probes = []) := by
  have further : ∀ earlier event, earlier ++ [event] <+: events → event.action = .ask →
      (after plan earlier).breaker.circuit = .halfOpen →
        (after plan (earlier ++ [event])).probes.length =
          (after plan earlier).probes.length + 1 := by
    intro earlier event _ asked half
    rw [after_concat]
    exact length_probes_next_of_ask asked half
  refine ⟨further, ?_, ?_⟩
  · intro single earlier event start asked half
    have few := single (earlier ++ [event]) start
    rw [further earlier event start asked half] at few
    exact List.eq_nil_of_length_eq_zero (by omega)
  · intro alone earlier start
    induction earlier using List.reverseRecOn with
    | nil => exact Nat.zero_le 1
    | append_singleton earlier event induction =>
        rw [after_concat]
        exact length_probes_next_le (numbered_after plan earlier) (alone earlier event start)
          (induction ((List.prefix_append earlier [event]).trans start))

/-- Two calls come in one after the other when the circuit has cooled down, and both are probes. -/
theorem two_probes_under_way :
    let plan : BreakerPlan := ⟨"ml", 1, by decide, 1000⟩
    let events : List (Event Float) :=
      [⟨0, .ask⟩, ⟨0, .finish 0 (.failure ⟨"RuntimeError", some "boom", []⟩)⟩, ⟨1000, .ask⟩,
        ⟨1000, .ask⟩]
    ¬ ∀ earlier, earlier <+: events → (after plan earlier).probes.length ≤ 1 := by
  intro plan events single
  have few : (after plan events).probes.length ≤ 1 := single events (List.prefix_refl events)
  exact absurd few (by decide)

end Appraisal.Breaker.Traffic
