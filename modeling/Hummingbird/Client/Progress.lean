import Hummingbird.Client.WorkerRun
import Hummingbird.Client.Quiescence

/-!
# A dispatch is never stuck before its call returns

`quorumResponse` and `putObject` return once `getResponse` returns, or
`putObject` gives up with its early 503.  Until then some goroutine of the
dispatch can always move.  `getResponse` waits in a `select` with a timer, and
so does its grace loop; `common.Copy` ends one way or the other.  The one
wait without a timer is `workerGroup.Wait()` at the start barrier of a PUT,
and it is released because every worker still in its retry loop can move:
one inside `addWriter` only has its store left, and one at the loop's
`select` waits on an attempt whose answer is still to come; the attempt's
goroutine ends with a send on `oneResponse`, a `ResponseStub(500, ...)` at
worst, and the worker's `select` takes it.

`Live` is that fact about workers, kept by every event.  With the bound on
the length of every run (`Quiescence`), every schedule of a dispatch ends
with its call returned: a run that no event can extend has returned.  Some
goroutines may still be blocked then, a straggler's send on `responsec`
among them.
-/

namespace Hummingbird.Client.Progress

open Hummingbird.Client.Ring
open Hummingbird.Client.Http
open Hummingbird.Client.QuorumDispatch
open Hummingbird.Client.WorkerRun
open Hummingbird.Client.Quiescence
open Hummingbird.Transition

/-! ## Every worker in its loop waits on a live attempt -/

/-- An attempt of worker `w` whose answer `w` has not taken: its goroutine will still send. -/
def LiveIn (attempts : List Attempt) (w : Nat) : Prop :=
  ∃ (a : Nat) (attempt : Attempt), attempts[a]? = some attempt ∧ attempt.worker = w ∧
    ∀ resp, attempt.answer ≠ .taken resp

/-- Worker `w`, if still in its retry loop, waits on a live attempt. -/
def Waiting (attempts : List Attempt) (w : Nat) (worker : Worker) : Prop :=
  worker.pc = .selecting → LiveIn attempts w

/-- Every worker in its retry loop waits on an attempt whose answer is still to come. -/
def Live (d : Dispatch) : Prop :=
  ∀ (w : Nat) (worker : Worker), d.workers[w]? = some worker → Waiting d.attempts w worker

/-- Replacing an attempt keeps a live attempt of `w`, unless it makes `w`'s own attempt taken. -/
theorem LiveIn.set {attempts : List Attempt} {w a : Nat} {attempt : Attempt} (live : LiveIn attempts w)
    (found : attempts[a]? = some attempt) (updated : Attempt) (owner : updated.worker = attempt.worker)
    (keeps : attempt.worker ≠ w ∨ ∀ resp, updated.answer = .taken resp → attempt.answer = .taken resp) :
    LiveIn (attempts.set a updated) w := by
  obtain ⟨b, other, foundOther, owned, notTaken⟩ := live
  by_cases same : a = b
  · subst same
    obtain rfl : attempt = other := Option.some.inj (found.symm.trans foundOther)
    refine ⟨a, updated, List.getElem?_set_self (List.getElem?_eq_some_iff.mp found).1, owner.trans owned, ?_⟩
    rcases keeps with differs | kept
    · exact absurd owned differs
    · exact fun resp taken => notTaken resp (kept resp taken)
  · exact ⟨b, other, by rw [List.getElem?_set_ne same]; exact foundOther, owned, notTaken⟩

theorem LiveIn.cancelReaders {attempts : List Attempt} {w : Nat} (live : LiveIn attempts w)
    (exiting : Nat) : LiveIn (cancelReaders exiting attempts) w := by
  obtain ⟨b, other, foundOther, owned, notTaken⟩ := live
  refine ⟨b, if other.worker = exiting ∧ other.reader = .offering then { other with reader := .cancelled }
    else other, ?_, ?_, ?_⟩
  · rw [QuorumDispatch.cancelReaders, List.getElem?_map, foundOther]
    rfl
  · split <;> exact owned
  · split <;> exact notTaken

theorem LiveIn.append {attempts : List Attempt} {w : Nat} (live : LiveIn attempts w)
    (launched : List Attempt) : LiveIn (attempts ++ launched) w := by
  obtain ⟨b, other, foundOther, owned, notTaken⟩ := live
  exact ⟨b, other, by rw [List.getElem?_append_left (List.getElem?_eq_some_iff.mp foundOther).1]; exact foundOther,
    owned, notTaken⟩

theorem liveIn_launch (attempts : List Attempt) (w : Nat) (device : Device) :
    LiveIn (attempts ++ [⟨w, device, .idle, .pending⟩]) w :=
  ⟨attempts.length, ⟨w, device, .idle, .pending⟩, by simp, rfl, fun _ pending => nomatch pending⟩

theorem Live.afterResponse {d : Dispatch} {index : Nat} {worker : Worker} (resp : Response)
    (others : ∀ (w : Nat) (other : Worker), w ≠ index → d.workers[w]? = some other →
      other.pc = .selecting → LiveIn d.attempts w) :
    Live (QuorumDispatch.afterResponse d index worker resp) := by
  unfold QuorumDispatch.afterResponse
  split
  · split
    · exact forall_getElem?_set (P := Waiting _)
        (fun w other differs found selecting => (others w other differs found selecting).append _)
        fun _ => liveIn_launch _ _ _
    · exact forall_getElem?_set (P := Waiting _)
        (fun w other differs found selecting => (others w other differs found selecting).cancelReaders index)
        (by nofun)
  · exact forall_getElem?_set (P := Waiting _) others
      (by nofun)

theorem live_init (placement : Placement) (put : Bool) : Live (Dispatch.init placement put) := by
  intro w worker found _
  have within : w < placement.primaries.length := by
    simpa [Dispatch.init] using (List.getElem?_eq_some_iff.mp found).1
  refine ⟨w, ⟨w, placement.primaries[w], .idle, .pending⟩, ?_, rfl, fun _ pending => ?_⟩
  · simp [Dispatch.init, List.getElem?_mapIdx, List.getElem?_eq_getElem within]
  · cases pending

/-- Every event keeps each worker in its loop waiting on a live attempt. -/
theorem Live.step {d next : Dispatch} {event : Event} (live : Live d)
    (stepped : d.step event = some next) : Live next := by
  cases event with
  | continue100 index =>
      obtain ⟨attempt, reader, found, -, -, -, rfl⟩ := continue100_eq_some stepped
      exact fun w worker foundWorker selecting =>
        (live w worker foundWorker selecting).set found _ rfl (.inr fun _ taken => taken)
  | answer index resp =>
      obtain ⟨attempt, found, -, -, rfl⟩ := answer_eq_some stepped
      exact fun w worker foundWorker selecting =>
        (live w worker foundWorker selecting).set found _ rfl (.inr fun _ taken => nomatch taken)
  | takeResponse index attemptIndex =>
      obtain ⟨worker, attempt, resp, -, -, foundAttempt, owner, -, rfl⟩ := takeResponse_eq_some stepped
      exact Live.afterResponse resp fun w other differs found selecting =>
        (live w other found selecting).set foundAttempt _ rfl (.inl (owner.trans_ne differs.symm))
  | takeWriter index attemptIndex =>
      obtain ⟨worker, attempt, -, -, foundAttempt, -, -, rfl⟩ := takeWriter_eq_some stepped
      refine forall_getElem?_set (P := Waiting _) (fun w other _ found selecting => ?_) (by nofun)
      exact (live w other found selecting).set foundAttempt _ rfl (.inr fun _ taken => taken)
  | storeWriter index =>
      obtain ⟨worker, -, -, -, rfl⟩ := storeWriter_eq_some stepped
      exact forall_getElem?_set (P := Waiting _) (fun w other _ found => live w other found) (by nofun)
  | takeFinal index attemptIndex =>
      obtain ⟨worker, attempt, resp, -, -, foundAttempt, owner, -, rfl⟩ := takeFinal_eq_some stepped
      refine forall_getElem?_set (P := Waiting _) (fun w other differs found selecting => ?_) (by nofun)
      exact (live w other found selecting).set foundAttempt _ rfl (.inl (owner.trans_ne differs.symm))
  | finalTimeout index =>
      obtain ⟨worker, -, -, rfl⟩ := finalTimeout_eq_some stepped
      exact forall_getElem?_set (P := Waiting _)
        (fun w other _ found selecting => (live w other found selecting).cancelReaders index)
        (by nofun)
  | deliver index =>
      obtain ⟨worker, -, -, -, -, -, -, -, rfl⟩ := deliver_eq_some stepped
      exact forall_getElem?_set (P := Waiting _)
        (fun w other _ found selecting => (live w other found selecting).cancelReaders index)
        (by nofun)
  | deadline =>
      obtain ⟨_, -, rfl⟩ := deadline_eq_some stepped
      exact live
  | graceTimeout =>
      obtain ⟨_, -, rfl⟩ := graceTimeout_eq_some stepped
      exact live
  | passBarrier =>
      obtain ⟨-, rfl⟩ := passBarrier_eq_some stepped
      exact live
  | copy succeeded =>
      obtain ⟨-, rfl⟩ := copy_eq_some stepped
      exact live

theorem live_reachable {placement : Placement} {put : Bool} {d : Dispatch}
    (reachable : Reachable Dispatch.step (Dispatch.init placement put) d) : Live d :=
  reachable.invariant Live (live_init placement put) fun _ live stepped => live.step stepped

/-! ## Some event is always possible -/

theorem step_of_selecting {d : Dispatch} {w : Nat} {worker : Worker} (found : d.workers[w]? = some worker)
    (selecting : worker.pc = .selecting) (live : LiveIn d.attempts w) :
    ∃ event, (d.step event).isSome := by
  obtain ⟨a, attempt, foundAttempt, owner, notTaken⟩ := live
  cases answered : attempt.answer with
  | pending =>
      refine ⟨.answer a (.stub 500 ""), ?_⟩
      simp [Dispatch.step, answer, foundAttempt, answered, admissible]
  | offering resp =>
      refine ⟨.takeResponse w a, ?_⟩
      simp [Dispatch.step, takeResponse, found, foundAttempt, selecting, answered, owner]
  | taken resp => exact absurd answered (notTaken resp)

theorem exists_step_of_running {placement : Placement} {put : Bool} {d : Dispatch}
    (reachable : Reachable Dispatch.step (Dispatch.init placement put) d)
    (running : d.coordinator.returned = false) : ∃ event next, d.step event = some next := by
  suffices enabled : ∃ event, (d.step event).isSome from
    let ⟨event, isSome⟩ := enabled
    ⟨event, Option.isSome_iff_exists.mp isSome⟩
  cases coordinator : d.coordinator with
  | waitingWorkers =>
      by_cases all : d.workers.all (·.done) = true
      · exact ⟨.passBarrier, by simp [Dispatch.step, passBarrier, coordinator, all]⟩
      · obtain ⟨worker, mem, notDone⟩ : ∃ worker ∈ d.workers, worker.done = false := by
          simpa using all
        obtain ⟨w, found⟩ := List.mem_iff_getElem?.mp mem
        have looping : worker.pc.inLoop = true := by
          by_contra left
          simp [((Runs.reachable reachable).done w worker found).mpr (by simpa using left)] at notDone
        cases pc : worker.pc with
        | selecting => exact step_of_selecting found pc (live_reachable reachable w worker found pc)
        | registering snapshot =>
            exact ⟨.storeWriter w, by simp [Dispatch.step, storeWriter, found, pc]⟩
        | _ => simp [pc, WorkerPc.inLoop] at looping
  | copying => exact ⟨.copy true, by simp [Dispatch.step, copy, coordinator]⟩
  | inGetResponse phase =>
      cases phase with
      | awaiting iteration => exact ⟨.deadline, by simp [Dispatch.step, deadline, coordinator]⟩
      | grace chosen => exact ⟨.graceTimeout, by simp [Dispatch.step, graceTimeout, coordinator]⟩
      | returned outcome => simp [Coordinator.returned, coordinator] at running
  | abandoned => simp [Coordinator.returned, coordinator] at running

/--
No reachable state of a dispatch is stuck before the call has returned: while
`getResponse` has not returned and `putObject` has not given up, some
goroutine, backend or timer can always move; at the start barrier, some
worker that has not called `Done`.
-/
theorem dispatch_step_enabled {placement : Placement} {put : Bool} {d : Dispatch}
    (reachable : Reachable Dispatch.step (Dispatch.init placement put) d)
    (running : d.coordinator.returned = false) : ∃ event next, d.step event = some next :=
  exists_step_of_running reachable running

/--
Every run of `quorumResponse` or `putObject` that no event can extend ends
with the call returned, and has at most `7n + 4h + 4` events: whatever the
order of its goroutines, backends and timers, every schedule of a dispatch on
`n` primaries and `h` handoffs reaches such an end, so `workerGroup.Wait()`
and `getResponse` always return.
-/
theorem dispatch_maximal_run_returns {placement : Placement} {put : Bool} {events : List Event}
    {final : Dispatch} (ran : Transition.run Dispatch.step (Dispatch.init placement put) events = some final)
    (maximal : ∀ event, final.step event = none) :
    final.coordinator.returned = true ∧
      events.length ≤ 7 * placement.primaries.length + 4 * placement.handoffs.length + 4 := by
  have used := run_length_add_potential_le _ events ran
  have initial := potential_init placement put
  refine ⟨?_, by omega⟩
  by_contra running
  obtain ⟨event, next, stepped⟩ := exists_step_of_running (Reachable.start.run ran) (by simpa using running)
  simp [maximal event] at stepped

/-- Every worker has left `work`, every attempt's backend has answered, and the call has returned. -/
def Finished (d : Dispatch) : Prop :=
  d.coordinator.returned = true ∧ (∀ worker ∈ d.workers, worker.pc = .exited) ∧
    ∀ attempt ∈ d.attempts, attempt.answer ≠ .pending

instance (d : Dispatch) : Decidable (Finished d) :=
  inferInstanceAs (Decidable (_ ∧ _ ∧ _))

theorem step_of_finished {d : Dispatch} (finished : Finished d) (event : Event) : d.step event = none := by
  obtain ⟨returned, exited, answered⟩ := finished
  have idle : ∀ {index : Nat} {worker : Worker}, d.workers[index]? = some worker → worker.pc = .exited :=
    fun found => exited _ (List.getElem?_mem found)
  cases stepping : d.step event with
  | none => rfl
  | some next =>
      exfalso
      cases event with
      | continue100 index =>
          obtain ⟨attempt, -, found, -, -, pending, -⟩ := continue100_eq_some stepping
          exact answered attempt (List.getElem?_mem found) pending
      | answer index resp =>
          obtain ⟨attempt, found, pending, -⟩ := answer_eq_some stepping
          exact answered attempt (List.getElem?_mem found) pending
      | takeResponse index attemptIndex =>
          obtain ⟨worker, -, -, found, selecting, -⟩ := takeResponse_eq_some stepping
          simp [idle found] at selecting
      | takeWriter index attemptIndex =>
          obtain ⟨worker, -, found, selecting, -⟩ := takeWriter_eq_some stepping
          simp [idle found] at selecting
      | storeWriter index =>
          obtain ⟨worker, _, found, registering, -⟩ := storeWriter_eq_some stepping
          simp [idle found] at registering
      | takeFinal index attemptIndex =>
          obtain ⟨worker, -, -, found, awaiting, -⟩ := takeFinal_eq_some stepping
          simp [idle found] at awaiting
      | finalTimeout index =>
          obtain ⟨worker, found, awaiting, -⟩ := finalTimeout_eq_some stepping
          simp [idle found] at awaiting
      | deliver index =>
          obtain ⟨worker, _, _, _, found, sending, -⟩ := deliver_eq_some stepping
          simp [idle found] at sending
      | deadline =>
          obtain ⟨_, coordinator, -⟩ := deadline_eq_some stepping
          simp [coordinator, Coordinator.returned] at returned
      | graceTimeout =>
          obtain ⟨_, coordinator, -⟩ := graceTimeout_eq_some stepping
          simp [coordinator, Coordinator.returned] at returned
      | passBarrier =>
          simp [(passBarrier_eq_some stepping).1, Coordinator.returned] at returned
      | copy succeeded =>
          simp [(copy_eq_some stepping).1, Coordinator.returned] at returned

/--
A PUT to one primary that takes the body and answers `201 Created`: after the
copy, the answer and the grace window every goroutine has ended.
-/
theorem dispatch_maximal_run_returns_on_put :
    let primary : Device := ⟨"10.0.0.1", 6000, "sda"⟩
    let placement : Placement := ⟨1, [primary], [], rfl, by decide, by decide⟩
    let events : List Event :=
      [.continue100 0, .takeWriter 0 0, .storeWriter 0, .passBarrier, .copy true,
        .answer 0 (.backend primary 201 .empty), .takeFinal 0 0, .deliver 0]
    ∃ final, Transition.run Dispatch.step (Dispatch.init placement true) events = some final ∧
      (∀ event, final.step event = none) ∧
      (final.coordinator.returned = true ∧
        events.length ≤ 7 * placement.primaries.length + 4 * placement.handoffs.length + 4) := by
  intro primary placement events
  have computed : (Transition.run Dispatch.step (Dispatch.init placement true) events).map
      (fun state => decide (Finished state)) = some true := by decide
  obtain ⟨final, ran, finished⟩ := Option.map_eq_some'.mp computed
  have maximal := step_of_finished (of_decide_eq_true finished)
  exact ⟨final, ran, maximal, dispatch_maximal_run_returns ran maximal⟩

/--
From every reachable state the call returns: some schedule of at most
`potential d` further events ends with `getResponse` returned or `putObject`
given up.
-/
theorem dispatch_returns {placement : Placement} {put : Bool} {d : Dispatch}
    (reachable : Reachable Dispatch.step (Dispatch.init placement put) d) :
    ∃ events final, Transition.run Dispatch.step d events = some final ∧
      final.coordinator.returned = true ∧ events.length ≤ potential d := by
  generalize bound : potential d = n
  induction n using Nat.strong_induction_on generalizing d with
  | _ n ih =>
      cases running : d.coordinator.returned
      · obtain ⟨event, next, stepped⟩ := exists_step_of_running reachable running
        have lower := potential_step stepped
        obtain ⟨events, final, ran, returned, length⟩ :=
          ih (potential next) (bound ▸ lower) (reachable.step event stepped) rfl
        refine ⟨event :: events, final, by rw [Transition.run, stepped]; exact ran,
          returned, ?_⟩
        simp only [List.length_cons]
        omega
      · exact ⟨[], d, rfl, running, Nat.zero_le _⟩

/-- A PUT to one primary returns within the potential of its first state. -/
theorem dispatch_returns_from_start :
    let primary : Device := ⟨"10.0.0.1", 6000, "sda"⟩
    let placement : Placement := ⟨1, [primary], [], rfl, by decide, by decide⟩
    ∃ events final, Transition.run Dispatch.step (Dispatch.init placement true) events = some final ∧
      final.coordinator.returned = true ∧ events.length ≤ potential (Dispatch.init placement true) :=
  dispatch_returns .start

/--
A PUT whose primary answered 503: its worker has moved to the handoff and the
barrier still waits, yet the dispatch is not stuck.
-/
theorem dispatch_step_enabled_at_barrier :
    let primary : Device := ⟨"10.0.0.1", 6000, "sda"⟩
    let handoff : Device := ⟨"10.0.0.2", 6000, "sda"⟩
    let placement : Placement := ⟨1, [primary], [handoff], rfl, by decide, by decide⟩
    ∃ d, Reachable Dispatch.step (Dispatch.init placement true) d ∧
      (d.coordinator, d.workers.map (·.pc)) = (.waitingWorkers, [.selecting]) ∧
      ∃ event next, d.step event = some next := by
  intro primary handoff placement
  obtain ⟨d, reachable, observed⟩ := Reachable.of_run_map Dispatch.step (Dispatch.init placement true)
    [.answer 0 (.backend primary 503 .empty), .takeResponse 0 0]
    (fun state => (state.coordinator, state.workers.map (·.pc))) (.waitingWorkers, [.selecting]) (by decide)
  have waiting : d.coordinator = .waitingWorkers := congrArg Prod.fst observed
  exact ⟨d, reachable, observed, dispatch_step_enabled reachable (by rw [waiting]; rfl)⟩

end Hummingbird.Client.Progress
