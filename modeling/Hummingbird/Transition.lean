import Mathlib.Logic.Basic

/-!
# Runs of a labelled transition system

Every concurrent component of the client is modelled as a state, a set of
events, and a partial step function: `step state event` is `none` when the
event cannot happen in `state`.  This module gives the states such a system
reaches, the run of a finite list of events, induction over reachable states,
and the bridge used to exhibit a reachable state by evaluating a concrete
schedule.
-/

namespace Hummingbird.Transition

variable {State Event : Type} (step : State → Event → Option State)

/-- The states reached from `start` by enabled events. -/
inductive Reachable (start : State) : State → Prop where
  | start : Reachable start start
  | step {state next : State} (event : Event) :
      Reachable start state → step state event = some next → Reachable start next

/-- Perform `events` in order, as long as each is enabled. -/
def run : State → List Event → Option State
  | state, [] => some state
  | state, event :: rest => (step state event).bind fun next => run next rest

variable {step}

/-- An invariant that holds at `start` and is kept by every step holds in every reachable state. -/
theorem Reachable.invariant {start state : State} (reachable : Reachable step start state)
    (Invariant : State → Prop) (initial : Invariant start)
    (preserved : ∀ {state next : State} (event : Event),
      Invariant state → step state event = some next → Invariant next) :
    Invariant state := by
  induction reachable with
  | start => exact initial
  | step event _ stepped ih => exact preserved event ih stepped

theorem Reachable.trans {start middle state : State} (first : Reachable step start middle)
    (second : Reachable step middle state) : Reachable step start state := by
  induction second with
  | start => exact first
  | step event _ stepped ih => exact ih.step event stepped

theorem Reachable.run {start state : State} (reachable : Reachable step start state) :
    ∀ {events : List Event} {final : State}, Transition.run step state events = some final →
      Reachable step start final
  | [], _, ran => by cases ran; exact reachable
  | event :: rest, final, ran => by
      simp only [Transition.run, Option.bind_eq_some] at ran
      obtain ⟨next, stepped, ran⟩ := ran
      exact (reachable.step event stepped).run ran

/-- A schedule whose events are all enabled ends in a reachable state, observed through `observe`. -/
theorem Reachable.of_run_map (step : State → Event → Option State) (start : State)
    (events : List Event) {Observed : Type}
    (observe : State → Observed) (observed : Observed)
    (ran : (Transition.run step start events).map observe = some observed) :
    ∃ state, Reachable step start state ∧ observe state = observed := by
  cases final : Transition.run step start events with
  | none => simp [final] at ran
  | some state =>
      simp only [final, Option.map_some', Option.some.injEq] at ran
      exact ⟨state, Reachable.start.run final, ran⟩

end Hummingbird.Transition
