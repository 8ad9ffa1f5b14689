import Mathlib.Algebra.Order.BigOperators.Group.List
import Mathlib.Algebra.Order.Ring.Nat
import Hummingbird.Client.QuorumDispatch

/-!
# Every dispatch comes to rest

The goroutines of one `quorumResponse` or `putObject` perform finitely many
events, whatever the order in which they are scheduled, the backends answer
and the timers fire.  Each event uses up part of a potential: the moves left
to each attempt's body reader and final answer, the places left to each
worker's `work`, the handoffs the shared iterator can still yield (a draw
starts an attempt, so it is worth the four moves of one), and the places left
to the coordinator.  No event raises the potential and every event lowers it,
so a dispatch on `n` primaries and `h` handoffs stops after at most
`7n + 4h + 4` events: no retry loop, handoff chain or exchange on the channels
goes on forever.
-/

namespace Hummingbird.Client.Quiescence

open Hummingbird.Client.Ring
open Hummingbird.Client.Http
open Hummingbird.Client.Quorum
open Hummingbird.Client.QuorumDispatch
open Hummingbird.Transition

/-! ## The potential -/

/-- Moves left to an attempt's body reader: the `100 Continue`, then the hand-over of its writer. -/
def readerPotential : ReaderState → Nat
  | .idle => 2
  | .offering => 1
  | .streaming | .cancelled => 0

/-- Moves left to an attempt's final answer: `client.Do` returns, then the worker takes it. -/
def answerPotential : AnswerState → Nat
  | .pending => 2
  | .offering _ => 1
  | .taken _ => 0

def attemptPotential (attempt : Attempt) : Nat :=
  readerPotential attempt.reader + answerPotential attempt.answer

/-- Places left to a worker's `work`; taking a writer is paid for by its reader. -/
def pcPotential : WorkerPc → Nat
  | .selecting => 3
  | .registering _ => 3
  | .awaitingFinal => 2
  | .sending _ => 1
  | .exited => 0

/-- Places left to `getResponse`: its main select, its grace loop, its return. -/
def phasePotential : Phase → Nat
  | .awaiting _ => 2
  | .grace _ => 1
  | .returned _ => 0

/-- Places left to the coordinator: the barrier, the copy, `getResponse`. -/
def coordinatorPotential : Coordinator → Nat
  | .waitingWorkers => 4
  | .copying => 3
  | .inGetResponse phase => phasePotential phase
  | .abandoned => 0

/-- A bound on the events a dispatch can still perform. -/
def potential (d : Dispatch) : Nat :=
  (d.attempts.map attemptPotential).sum + (d.workers.map (pcPotential ·.pc)).sum +
    4 * d.handoffs.length + coordinatorPotential d.coordinator

theorem phasePotential_le_two (phase : Phase) : phasePotential phase ≤ 2 := by
  cases phase <;> simp [phasePotential]

theorem sum_map_set {α : Type} (f : α → Nat) :
    ∀ {items : List α} {index : Nat} {item : α}, items[index]? = some item → ∀ updated,
      ((items.set index updated).map f).sum + f item = (items.map f).sum + f updated
  | [], _, _, found, _ => by simp at found
  | first :: rest, 0, item, found, updated => by
      obtain rfl : first = item := by simpa using found
      simp only [List.set_cons_zero, List.map_cons, List.sum_cons]
      omega
  | first :: rest, index + 1, item, found, updated => by
      have inner : ((rest.set index updated).map f).sum + f item = (rest.map f).sum + f updated :=
        sum_map_set f (by simpa using found) updated
      simp only [List.set_cons_succ, List.map_cons, List.sum_cons]
      omega

theorem potential_cancelReaders (exiting : Nat) (attempts : List Attempt) :
    ((cancelReaders exiting attempts).map attemptPotential).sum ≤
      (attempts.map attemptPotential).sum := by
  rw [cancelReaders, List.map_map]
  refine List.sum_le_sum fun attempt _ => ?_
  simp only [Function.comp_apply]
  split
  · rename_i offering
    simp [attemptPotential, readerPotential, offering.2]
  · exact le_refl _

section Step

variable {d : Dispatch}

theorem potential_setAttempt {index : Nat} {attempt : Attempt}
    (found : d.attempts[index]? = some attempt) (updated : Attempt) :
    potential { d with attempts := d.attempts.set index updated } + attemptPotential attempt =
      potential d + attemptPotential updated := by
  have sum := sum_map_set attemptPotential found updated
  simp only [potential]
  omega

theorem potential_setWorker {index : Nat} {worker : Worker}
    (found : d.workers[index]? = some worker) (updated : Worker) :
    potential { d with workers := d.workers.set index updated } + pcPotential worker.pc =
      potential d + pcPotential updated.pc := by
  have sum := sum_map_set (pcPotential ·.pc) found updated
  simp only [potential]
  omega

theorem potential_setCoordinator (coordinator : Coordinator) :
    potential { d with coordinator := coordinator } + coordinatorPotential d.coordinator =
      potential d + coordinatorPotential coordinator := by
  simp only [potential]
  omega

theorem potential_exitWorker {index : Nat} {worker : Worker}
    (found : d.workers[index]? = some worker) (updated : Worker) :
    potential (exitWorker d index updated) + pcPotential worker.pc ≤ potential d := by
  have moved := potential_setWorker found { updated with pc := .exited }
  have released : potential (exitWorker d index updated) ≤
      potential { d with workers := d.workers.set index { updated with pc := .exited } } := by
    have := potential_cancelReaders index d.attempts
    simp only [potential, exitWorker]
    omega
  have exited : pcPotential ({ updated with pc := .exited } : Worker).pc = 0 := rfl
  omega

theorem potential_afterResponse {index : Nat} {worker : Worker} (resp : Response)
    (found : d.workers[index]? = some worker) (selecting : worker.pc = .selecting) :
    potential (afterResponse d index worker resp) ≤ potential d := by
  unfold afterResponse
  split
  · split
    · rename_i device rest handoffs
      have moved := potential_setWorker found { worker with current := device }
      have fresh : attemptPotential ⟨index, device, .idle, .pending⟩ = 4 := rfl
      simp only [potential, List.map_append, List.sum_append, List.map_cons, List.map_nil,
        List.sum_cons, List.sum_nil, List.length_cons, fresh, handoffs] at moved ⊢
      omega
    · have exited := potential_exitWorker found { worker with done := true }
      omega
  · have moved := potential_setWorker found
      { worker with pc := .sending resp, dev := worker.current, response := some resp, done := true }
    simp only [selecting, pcPotential] at moved
    omega

end Step

theorem continue100_lowers {d next : Dispatch} {index : Nat} (stepped : continue100 d index = some next) :
    ∃ attempt reader, d.attempts[index]? = some attempt ∧ attempt.reader = .idle ∧
      readerPotential reader < 2 ∧
      next = { d with attempts := d.attempts.set index { attempt with reader := reader } } := by
  unfold continue100 at stepped
  split at stepped
  · split at stepped
    · rename_i found conditions
      cases stepped
      refine ⟨_, _, found, conditions.2.1, ?_, rfl⟩
      split <;> decide
    · cases stepped
  · cases stepped

/-- Every event lowers the potential. -/
theorem potential_step {d next : Dispatch} {event : Event} (stepped : d.step event = some next) :
    potential next < potential d := by
  cases event with
  | continue100 index =>
      obtain ⟨attempt, reader, found, idle, lowers, rfl⟩ := continue100_lowers stepped
      have changed := potential_setAttempt found { attempt with reader := reader }
      have started : readerPotential attempt.reader = 2 := by rw [idle]; rfl
      simp only [attemptPotential] at changed
      omega
  | answer index resp =>
      obtain ⟨attempt, found, pending, -, rfl⟩ := answer_eq_some stepped
      have changed := potential_setAttempt found { attempt with answer := .offering resp }
      simp only [attemptPotential, pending, answerPotential] at changed
      omega
  | takeResponse index attemptIndex =>
      obtain ⟨worker, attempt, resp, found, selecting, foundAttempt, -, offering, rfl⟩ :=
        takeResponse_eq_some stepped
      have taken := potential_setAttempt foundAttempt { attempt with answer := .taken resp }
      have rest := potential_afterResponse (d := { d with
        attempts := d.attempts.set attemptIndex { attempt with answer := .taken resp } }) resp found selecting
      simp only [attemptPotential, offering, answerPotential] at taken
      omega
  | takeWriter index attemptIndex =>
      obtain ⟨worker, attempt, found, selecting, foundAttempt, -, offering, rfl⟩ :=
        takeWriter_eq_some stepped
      have streaming := potential_setAttempt foundAttempt { attempt with reader := .streaming }
      have moved := potential_setWorker (d := { d with
          attempts := d.attempts.set attemptIndex { attempt with reader := .streaming } }) found
        { worker with pc := .registering d.writers, writer := some attemptIndex }
      simp only [attemptPotential, offering, readerPotential] at streaming
      simp only [selecting, pcPotential] at moved
      simp only [potential] at streaming moved ⊢
      omega
  | storeWriter index =>
      obtain ⟨worker, snapshot, found, registering, rfl⟩ := storeWriter_eq_some stepped
      have moved := potential_setWorker found
        { worker with pc := .awaitingFinal, dev := worker.current, done := true }
      simp only [registering, pcPotential] at moved
      simp only [potential] at moved ⊢
      omega
  | takeFinal index attemptIndex =>
      obtain ⟨worker, attempt, resp, found, awaiting, foundAttempt, -, offering, rfl⟩ :=
        takeFinal_eq_some stepped
      have taken := potential_setAttempt foundAttempt { attempt with answer := .taken resp }
      have moved := potential_setWorker (d := { d with
          attempts := d.attempts.set attemptIndex { attempt with answer := .taken resp } }) found
        { worker with pc := .sending resp, response := some resp }
      simp only [attemptPotential, offering, answerPotential] at taken
      simp only [awaiting, pcPotential] at moved
      simp only [potential] at taken moved ⊢
      omega
  | finalTimeout index =>
      obtain ⟨worker, found, awaiting, rfl⟩ := finalTimeout_eq_some stepped
      have exited := potential_exitWorker found worker
      simp only [awaiting, pcPotential] at exited
      omega
  | deliver index =>
      obtain ⟨worker, resp, phase, next, found, sends, coordinator, received, rfl⟩ :=
        deliver_eq_some stepped
      have exited := potential_exitWorker found worker
      have settles : phasePotential next ≤ phasePotential phase := by
        cases phase with
        | awaiting iteration =>
            simp only [Phase.receive, Option.some.injEq] at received
            subst received
            exact phasePotential_le_two _
        | grace chosen =>
            simp only [Phase.receive, Option.some.injEq] at received
            subst received
            split <;> simp [phasePotential]
        | returned outcome => simp [Phase.receive] at received
      simp only [sends, pcPotential] at exited
      simp only [potential, exitWorker, coordinator, coordinatorPotential] at exited ⊢
      omega
  | deadline =>
      obtain ⟨_, coordinator, rfl⟩ := deadline_eq_some stepped
      have changed := potential_setCoordinator (d := d)
        (.inGetResponse (.returned (.response Response.unavailable)))
      have lowered : coordinatorPotential d.coordinator = 2 := by rw [coordinator]; rfl
      have returned : coordinatorPotential
          (.inGetResponse (.returned (.response Response.unavailable))) = 0 := rfl
      omega
  | graceTimeout =>
      obtain ⟨chosen, coordinator, rfl⟩ := graceTimeout_eq_some stepped
      have changed := potential_setCoordinator (d := d) (.inGetResponse (.returned (.response chosen)))
      have lowered : coordinatorPotential d.coordinator = 1 := by rw [coordinator]; rfl
      have returned : coordinatorPotential (.inGetResponse (.returned (.response chosen))) = 0 := rfl
      omega
  | passBarrier =>
      obtain ⟨coordinator, rfl⟩ := passBarrier_eq_some stepped
      have changed := potential_setCoordinator (d := d)
        (if d.writers.length + responseCount d.workers < d.quorumer.q then .abandoned else .copying)
      have lowered : coordinatorPotential d.coordinator = 4 := by rw [coordinator]; rfl
      have passed : coordinatorPotential
          (if d.writers.length + responseCount d.workers < d.quorumer.q then .abandoned else .copying) ≤ 3 := by
        split <;> decide
      omega
  | copy succeeded =>
      obtain ⟨coordinator, rfl⟩ := copy_eq_some stepped
      have changed := potential_setCoordinator (d := d)
        (if succeeded || d.writers.isEmpty then .inGetResponse (settleAt d.quorumer 0) else .abandoned)
      have lowered : coordinatorPotential d.coordinator = 3 := by rw [coordinator]; rfl
      have copied : coordinatorPotential
          (if succeeded || d.writers.isEmpty then .inGetResponse (settleAt d.quorumer 0)
            else .abandoned) ≤ 2 := by
        split
        · exact phasePotential_le_two _
        · decide
      omega

/-- A run of events uses up at least one unit of potential per event. -/
theorem run_length_add_potential_le :
    ∀ (d : Dispatch) (events : List Event) {final : Dispatch},
      Transition.run Dispatch.step d events = some final →
        events.length + potential final ≤ potential d
  | d, [], final, ran => by
      obtain rfl : d = final := Option.some.inj ran
      simp
  | d, event :: rest, final, ran => by
      simp only [Transition.run, Option.bind_eq_some] at ran
      obtain ⟨next, stepped, ran⟩ := ran
      have later := run_length_add_potential_le next rest ran
      have lowered := potential_step stepped
      simp only [List.length_cons]
      omega

theorem potential_init (placement : Placement) (put : Bool) :
    potential (Dispatch.init placement put) ≤
      7 * placement.primaries.length + 4 * placement.handoffs.length + 4 := by
  have attempts : (Dispatch.init placement put).attempts.map attemptPotential =
      List.replicate placement.primaries.length 4 := by
    apply List.ext_getElem?
    intro index
    by_cases within : index < placement.primaries.length
    · simp [Dispatch.init, List.getElem?_mapIdx, List.getElem?_eq_getElem within, within,
        attemptPotential, readerPotential, answerPotential]
    · have beyond := Nat.le_of_not_lt within
      simp [Dispatch.init, List.getElem?_mapIdx, List.getElem?_eq_none beyond, beyond]
  have workers : (Dispatch.init placement put).workers.map (pcPotential ·.pc) =
      List.replicate placement.primaries.length 3 := by
    simp [Dispatch.init, Function.comp_def, pcPotential]
  have coordinator : coordinatorPotential (Dispatch.init placement put).coordinator ≤ 4 := by
    cases put
    · exact (phasePotential_le_two _).trans (by decide)
    · exact le_refl _
  have handoffs : (Dispatch.init placement put).handoffs.length = placement.handoffs.length := rfl
  simp only [potential, attempts, workers, List.sum_const_nat]
  omega

/--
Every run of `quorumResponse` or `putObject` on `n` primaries and `h`
handoffs, in whatever order its goroutines, backends and timers act, consists
of at most `7n + 4h + 4` events.
-/
theorem dispatch_run_length_le {placement : Placement} {put : Bool} {events : List Event}
    {final : Dispatch} (ran : Transition.run Dispatch.step (Dispatch.init placement put) events = some final) :
    events.length ≤ 7 * placement.primaries.length + 4 * placement.handoffs.length + 4 := by
  have used := run_length_add_potential_le _ events ran
  have initial := potential_init placement put
  omega

/-- A PUT to one primary that answers 503 and one handoff: seven events, within the bound of fifteen. -/
theorem dispatch_run_length_le_after_handoff :
    let primary : Device := ⟨"10.0.0.1", 6000, "sda"⟩
    let handoff : Device := ⟨"10.0.0.2", 6000, "sda"⟩
    let placement : Placement := ⟨1, [primary], [handoff], rfl, by decide, by decide⟩
    let events : List Event :=
      [.continue100 0, .answer 0 (.backend primary 503 .empty), .takeResponse 0 0,
        .continue100 1, .takeWriter 0 1, .storeWriter 0, .passBarrier]
    ∃ final, Transition.run Dispatch.step (Dispatch.init placement true) events = some final ∧
      events.length ≤ 7 * placement.primaries.length + 4 * placement.handoffs.length + 4 := by
  intro primary handoff placement events
  obtain ⟨final, ran⟩ : ∃ final, Transition.run Dispatch.step (Dispatch.init placement true) events =
      some final := Option.isSome_iff_exists.mp (by decide)
  exact ⟨final, ran, dispatch_run_length_le ran⟩

end Hummingbird.Client.Quiescence
