import Hummingbird.Client.QuorumDispatch

/-!
# The dispatch's `getResponse` is the sequential one

`Quorum.getResponse` runs `stdQuorumer.getResponse` on the list of responses
that reach `responsec` before the deadline, one after the other.  In a
dispatch the same code runs as one goroutine among the workers: it receives on
`responsec` whenever a worker sends, and its timers fire whenever they fire.

Over every interleaving of either dispatcher, the coordinator is where the
sequential `getResponse` is after consuming the responses delivered so far:
its quorumer has added them in arrival order, and whatever arrives next, the
two continue alike.  A deadline or the end of the grace window ends the
arrivals.  So once the coordinator has returned, its outcome is
`Quorum.getResponse` applied to the arrival order on `responsec`, and every
fact proved of the sequential function holds of the dispatch.
-/

namespace Hummingbird.Client.QuorumRefinement

open Hummingbird.Client.Ring
open Hummingbird.Client.Http
open Hummingbird.Client.Quorum
open Hummingbird.Client.QuorumDispatch
open Hummingbird.Transition

/-! ## The abstraction -/

/--
How the coordinator stands to the sequential `getResponse` from `start` once
`arrivals` have been received and its quorumer is `quorumer`: in the main
select, both continue alike on any further arrivals; in the grace loop, the
sequential run has already settled on `chosen`; once returned, the sequential
run on `arrivals` ends with the same outcome; and before `getResponse` starts
nothing has been received.
-/
def Agrees (start : Quorumer) (arrivals : List Response) (quorumer : Quorumer) : Coordinator → Prop
  | .inGetResponse (.awaiting iteration) =>
      ∀ rest, getResponse start (arrivals ++ rest) = resume quorumer (.awaiting iteration) rest
  | .inGetResponse (.grace chosen) => ∀ rest, getResponse start (arrivals ++ rest) = .response chosen
  | .inGetResponse (.returned outcome) => getResponse start arrivals = outcome
  | .waitingWorkers | .copying | .abandoned => arrivals = []

theorem agrees_of_resume {start quorumer : Quorumer} {arrivals : List Response} {phase : Phase}
    (resumes : ∀ rest, getResponse start (arrivals ++ rest) = resume quorumer phase rest) :
    Agrees start arrivals quorumer (.inGetResponse phase) := by
  cases phase with
  | awaiting iteration => exact resumes
  | grace chosen => exact fun rest => (resumes rest).trans (by cases rest <;> rfl)
  | returned outcome => simpa using resumes []

/-- The responses `getResponse` has received, in the order they reached `responsec`. -/
def arrivals (d : Dispatch) : List Response :=
  d.responsecLog.map Prod.snd

theorem afterResponse_collected (d : Dispatch) (index : Nat) (worker : Worker) (resp : Response) :
    (afterResponse d index worker resp).quorumer = d.quorumer ∧
      (afterResponse d index worker resp).responsecLog = d.responsecLog := by
  unfold afterResponse
  split
  · split <;> exact ⟨rfl, rfl⟩
  · exact ⟨rfl, rfl⟩

section Invariant

variable (placement : Placement)

/-- `newQuorumer` for the placement: where every `getResponse` of the dispatch starts. -/
def start : Quorumer :=
  Quorumer.init placement.replicaCount placement.primaries.length

/-- The coordinator of a dispatch on `placement` is the sequential `getResponse` after its arrivals. -/
structure Collects (d : Dispatch) : Prop where
  quorumer : d.quorumer = (arrivals d).foldl addResponse (start placement)
  agrees : Agrees (start placement) (arrivals d) d.quorumer d.coordinator

variable {placement}

theorem collects_init (put : Bool) : Collects placement (Dispatch.init placement put) where
  quorumer := rfl
  agrees := by
    cases put
    · exact agrees_of_resume fun _ => rfl
    · rfl

section Step

variable {d : Dispatch} (collects : Collects placement d)
include collects

theorem Collects.of_eq {next : Dispatch} (quorumer : next.quorumer = d.quorumer)
    (coordinator : next.coordinator = d.coordinator) (log : next.responsecLog = d.responsecLog) :
    Collects placement next := by
  have same : arrivals next = arrivals d := by rw [arrivals, log, arrivals]
  exact ⟨by rw [quorumer, same, collects.quorumer], by
    rw [quorumer, coordinator, same]
    exact collects.agrees⟩

/-- `getResponse` receives `resp` from the worker at `index`. -/
theorem Collects.deliver {index : Nat} {worker : Worker} {resp : Response} {phase next : Phase}
    (coordinator : d.coordinator = .inGetResponse phase)
    (received : phase.receive d.quorumer resp = some next) :
    Collects placement
      { exitWorker d index worker with
        quorumer := addResponse d.quorumer resp
        coordinator := .inGetResponse next
        responsecLog := d.responsecLog ++ [(index, resp)] } := by
  have appended : arrivals { exitWorker d index worker with
      quorumer := addResponse d.quorumer resp
      coordinator := .inGetResponse next
      responsecLog := d.responsecLog ++ [(index, resp)] } = arrivals d ++ [resp] := by
    simp [arrivals]
  have agrees := collects.agrees
  rw [coordinator] at agrees
  refine ⟨by rw [appended, List.foldl_concat, ← collects.quorumer], ?_⟩
  rw [appended]
  cases phase with
  | awaiting iteration =>
      simp only [Phase.receive, Option.some.injEq] at received
      subst received
      exact agrees_of_resume fun rest => by simpa using agrees (resp :: rest)
  | grace chosen =>
      simp only [Phase.receive, Option.some.injEq] at received
      subst received
      split
      · exact fun rest => by simpa using agrees (resp :: rest)
      · simpa using agrees [resp]
  | returned outcome => simp [Phase.receive] at received

end Step

/-- Every event keeps the coordinator in step with the sequential `getResponse`. -/
theorem Collects.step {d next : Dispatch} {event : Event} (collects : Collects placement d)
    (stepped : d.step event = some next) : Collects placement next := by
  cases event with
  | continue100 index =>
      obtain ⟨_, _, _, _, _, _, rfl⟩ := continue100_eq_some stepped
      exact collects.of_eq rfl rfl rfl
  | answer index resp =>
      obtain ⟨_, _, _, _, rfl⟩ := answer_eq_some stepped
      exact collects.of_eq rfl rfl rfl
  | takeResponse index attemptIndex =>
      obtain ⟨worker, attempt, resp, -, -, -, -, -, rfl⟩ := takeResponse_eq_some stepped
      have kept := afterResponse_collected
        { d with attempts := d.attempts.set attemptIndex { attempt with answer := .taken resp } }
        index worker resp
      exact collects.of_eq kept.1 (afterResponse_coordinator _ _ _ _) kept.2
  | takeWriter index attemptIndex =>
      obtain ⟨_, _, _, _, _, _, _, rfl⟩ := takeWriter_eq_some stepped
      exact collects.of_eq rfl rfl rfl
  | storeWriter index =>
      obtain ⟨_, _, _, _, rfl⟩ := storeWriter_eq_some stepped
      exact collects.of_eq rfl rfl rfl
  | takeFinal index attemptIndex =>
      obtain ⟨_, _, _, _, _, _, _, _, rfl⟩ := takeFinal_eq_some stepped
      exact collects.of_eq rfl rfl rfl
  | finalTimeout index =>
      obtain ⟨_, _, _, rfl⟩ := finalTimeout_eq_some stepped
      exact collects.of_eq rfl rfl rfl
  | deliver index =>
      obtain ⟨_, _, _, _, _, _, coordinator, received, rfl⟩ := deliver_eq_some stepped
      exact collects.deliver coordinator received
  | deadline =>
      obtain ⟨iteration, coordinator, rfl⟩ := deadline_eq_some stepped
      have agrees := collects.agrees
      rw [coordinator] at agrees
      exact ⟨collects.quorumer, by simpa [Agrees] using agrees []⟩
  | graceTimeout =>
      obtain ⟨chosen, coordinator, rfl⟩ := graceTimeout_eq_some stepped
      have agrees := collects.agrees
      rw [coordinator] at agrees
      exact ⟨collects.quorumer, by simpa [Agrees] using agrees []⟩
  | passBarrier =>
      obtain ⟨coordinator, rfl⟩ := passBarrier_eq_some stepped
      have agrees := collects.agrees
      rw [coordinator] at agrees
      refine ⟨collects.quorumer, ?_⟩
      split <;> exact agrees
  | copy succeeded =>
      obtain ⟨coordinator, rfl⟩ := copy_eq_some stepped
      have agrees := collects.agrees
      rw [coordinator] at agrees
      refine ⟨collects.quorumer, ?_⟩
      split
      · have empty : arrivals d = [] := agrees
        have started : d.quorumer = start placement := by rw [collects.quorumer, empty]; rfl
        refine agrees_of_resume fun rest => ?_
        show getResponse (start placement) (arrivals d ++ rest) = resume d.quorumer (settleAt d.quorumer 0) rest
        rw [empty, started]
        rfl
      · exact agrees

/-- The coordinator is in step with the sequential `getResponse` in every reachable state. -/
theorem Collects.reachable {put : Bool} {d : Dispatch}
    (reachable : Reachable Dispatch.step (Dispatch.init placement put) d) : Collects placement d :=
  reachable.invariant (Collects placement) (collects_init put) fun _ collects stepped =>
    collects.step stepped

end Invariant

/-! ## The returned outcome -/

/--
In every run of `quorumResponse` or `putObject`, whatever the interleaving of
its goroutines and whenever its timers fire: once `getResponse` has returned,
its outcome is the sequential `stdQuorumer.getResponse` of a fresh quorumer
fed with the responses that reached `responsec`, in the order they arrived,
and the dispatch's quorumer is that quorumer after adding them.
-/
theorem dispatch_outcome_eq_getResponse {placement : Placement} {put : Bool} {d : Dispatch}
    (reachable : Reachable Dispatch.step (Dispatch.init placement put) d) {outcome : Outcome}
    (returned : d.coordinator = .inGetResponse (.returned outcome)) :
    outcome = getResponse (Quorumer.init placement.replicaCount placement.primaries.length)
        (d.responsecLog.map Prod.snd) ∧
      d.quorumer = (d.responsecLog.map Prod.snd).foldl addResponse
        (Quorumer.init placement.replicaCount placement.primaries.length) := by
  have collects := Collects.reachable reachable
  have agrees := collects.agrees
  rw [returned] at agrees
  exact ⟨agrees.symm, collects.quorumer⟩

/--
Three primaries: two `201 Created` reach `responsec`, the grace window closes,
and the dispatch returns what the sequential `getResponse` returns on the two.
-/
theorem dispatch_outcome_eq_getResponse_after_grace :
    let primaries : List Device :=
      [⟨"10.0.0.1", 6000, "sda"⟩, ⟨"10.0.0.2", 6000, "sda"⟩, ⟨"10.0.0.3", 6000, "sda"⟩]
    let placement : Placement := ⟨3, primaries, [], rfl, by decide, by decide⟩
    ∃ d, Reachable Dispatch.step (Dispatch.init placement false) d ∧
      d.coordinator = .inGetResponse (.returned (.response (.backend ⟨"10.0.0.1", 6000, "sda"⟩ 201 .empty))) ∧
      (Outcome.response (.backend ⟨"10.0.0.1", 6000, "sda"⟩ 201 .empty) =
          getResponse (Quorumer.init placement.replicaCount placement.primaries.length)
            (d.responsecLog.map Prod.snd) ∧
        d.quorumer = (d.responsecLog.map Prod.snd).foldl addResponse
          (Quorumer.init placement.replicaCount placement.primaries.length)) := by
  intro primaries placement
  obtain ⟨d, reachable, observed⟩ := Reachable.of_run_map Dispatch.step
    (Dispatch.init placement false)
    [.answer 0 (.backend ⟨"10.0.0.1", 6000, "sda"⟩ 201 .empty), .takeResponse 0 0, .deliver 0,
      .answer 1 (.backend ⟨"10.0.0.2", 6000, "sda"⟩ 201 .empty), .takeResponse 1 1, .deliver 1,
      .graceTimeout]
    (·.coordinator)
    (.inGetResponse (.returned (.response (.backend ⟨"10.0.0.1", 6000, "sda"⟩ 201 .empty))))
    (by decide)
  exact ⟨d, reachable, observed, dispatch_outcome_eq_getResponse reachable observed⟩

end Hummingbird.Client.QuorumRefinement
