import Hummingbird.Client.WorkerRun

/-!
# The start barrier and the cancel channel of a PUT

`putObject` reads `q.listWriters()` once `workerGroup.Wait()` has returned in
`putQuorumer.start`, and copies the body to those writers.  Every worker calls
`wg.Done()` right after its retry loop, and only the loop calls `addWriter`,
so once the barrier has opened no worker is left in its loop and the list of
writers is final: no `addWriter` runs concurrently with the copy.  Before the
barrier, though, `addWriter`s of different workers do run concurrently, and
the list can lose a writer.

Each attempt's `putReader` offers its pipe writer on the worker's `ready`
channel in its first `Read`, in a `select` that also waits on the worker's
`cancel`.  A worker closes `cancel` when it leaves `work`, so no `Read` stays
blocked on `ready` after its worker has exited.
-/

namespace Hummingbird.Client.StartBarrier

open Hummingbird.Client.Ring
open Hummingbird.Client.Http
open Hummingbird.Client.QuorumDispatch
open Hummingbird.Client.WorkerRun
open Hummingbird.Transition

/-! ## What each event may change -/

theorem afterResponse_frame (d : Dispatch) (index : Nat) (worker : Worker) (resp : Response) :
    (afterResponse d index worker resp).put = d.put ∧
      (afterResponse d index worker resp).writers = d.writers := by
  unfold afterResponse
  split
  · split <;> exact ⟨rfl, rfl⟩
  · exact ⟨rfl, rfl⟩

theorem passBarrier_all_done {d next : Dispatch} (stepped : passBarrier d = some next) :
    d.workers.all (·.done) = true := by
  unfold passBarrier at stepped
  split at stepped
  · split at stepped
    · assumption
    · cases stepped
  · cases stepped

/--
No event changes whether the dispatch is a PUT; only a worker in its retry
loop adds a writer; and the coordinator leaves the barrier only when every
worker has called `Done`.
-/
theorem frame_step {d next : Dispatch} {event : Event} (stepped : d.step event = some next) :
    next.put = d.put ∧
      (next.writers = d.writers ∨
        ∃ (w : Nat) (worker : Worker), d.workers[w]? = some worker ∧ worker.pc.inLoop = true) ∧
      (d.coordinator = .waitingWorkers →
        next.coordinator = .waitingWorkers ∨ d.workers.all (·.done) = true) := by
  cases event with
  | continue100 index =>
      obtain ⟨_, _, _, _, _, _, rfl⟩ := continue100_eq_some stepped
      exact ⟨rfl, .inl rfl, .inl⟩
  | answer index resp =>
      obtain ⟨_, _, _, _, rfl⟩ := answer_eq_some stepped
      exact ⟨rfl, .inl rfl, .inl⟩
  | takeResponse index attemptIndex =>
      obtain ⟨worker, attempt, resp, -, -, -, -, -, rfl⟩ := takeResponse_eq_some stepped
      have kept := afterResponse_frame
        { d with attempts := d.attempts.set attemptIndex { attempt with answer := .taken resp } }
        index worker resp
      exact ⟨kept.1, .inl kept.2, fun waiting => .inl ((afterResponse_coordinator _ _ _ _).trans waiting)⟩
  | takeWriter index attemptIndex =>
      obtain ⟨_, _, _, -, -, -, -, rfl⟩ := takeWriter_eq_some stepped
      exact ⟨rfl, .inl rfl, .inl⟩
  | storeWriter index =>
      obtain ⟨worker, _, found, registering, rfl⟩ := storeWriter_eq_some stepped
      exact ⟨rfl, .inr ⟨index, worker, found, by simp [registering, WorkerPc.inLoop]⟩, .inl⟩
  | takeFinal index attemptIndex =>
      obtain ⟨_, _, _, -, -, -, -, -, rfl⟩ := takeFinal_eq_some stepped
      exact ⟨rfl, .inl rfl, .inl⟩
  | finalTimeout index =>
      obtain ⟨_, -, -, rfl⟩ := finalTimeout_eq_some stepped
      exact ⟨rfl, .inl rfl, .inl⟩
  | deliver index =>
      obtain ⟨_, _, _, _, -, -, coordinator, -, rfl⟩ := deliver_eq_some stepped
      exact ⟨rfl, .inl rfl, fun waiting => by simp [coordinator] at waiting⟩
  | deadline =>
      obtain ⟨_, coordinator, rfl⟩ := deadline_eq_some stepped
      exact ⟨rfl, .inl rfl, fun waiting => by simp [coordinator] at waiting⟩
  | graceTimeout =>
      obtain ⟨_, coordinator, rfl⟩ := graceTimeout_eq_some stepped
      exact ⟨rfl, .inl rfl, fun waiting => by simp [coordinator] at waiting⟩
  | passBarrier =>
      have done := passBarrier_all_done stepped
      obtain ⟨-, rfl⟩ := passBarrier_eq_some stepped
      exact ⟨rfl, .inl rfl, fun _ => .inr done⟩
  | copy succeeded =>
      obtain ⟨coordinator, rfl⟩ := copy_eq_some stepped
      exact ⟨rfl, .inl rfl, fun waiting => by simp [coordinator] at waiting⟩

/-! ## Every `addWriter` happens before the barrier opens -/

/-- Every worker has left its retry loop. -/
def AllLeft (d : Dispatch) : Prop :=
  ∀ (w : Nat) (worker : Worker), d.workers[w]? = some worker → worker.pc.inLoop = false

/-- Past the start barrier of a PUT, no worker is in its retry loop. -/
def Passed (d : Dispatch) : Prop :=
  d.put = true → d.coordinator ≠ .waitingWorkers → AllLeft d

/-- Workers that have all left their loops stay out of them, one event later. -/
theorem AllLeft.step {placement : Placement} {d next : Dispatch} {event : Event}
    (runs : Runs placement d) (runsNext : Runs placement next) (left : AllLeft d)
    (stepped : d.step event = some next) : AllLeft next := by
  intro w moved found
  have within : w < d.workers.length := by
    rw [runs.workers, ← runsNext.workers]
    exact (List.getElem?_eq_some_iff.mp found).1
  obtain ⟨stays, foundNext, leftNext⟩ := left_step stepped (List.getElem?_eq_getElem within)
    (left w _ (List.getElem?_eq_getElem within))
  obtain rfl := Option.some.inj (foundNext.symm.trans found)
  exact leftNext

theorem allLeft_of_done {placement : Placement} {d : Dispatch} (runs : Runs placement d)
    (done : d.workers.all (·.done) = true) : AllLeft d := fun w worker found =>
  (runs.done w worker found).mp (List.all_eq_true.mp done worker (List.getElem?_mem found))

theorem put_reachable {placement : Placement} {put : Bool} {d : Dispatch}
    (reachable : Reachable Dispatch.step (Dispatch.init placement put) d) : d.put = put :=
  reachable.invariant (fun state => state.put = put) rfl fun _ same stepped =>
    (frame_step stepped).1.trans same

theorem passed_reachable {placement : Placement} {put : Bool} {d : Dispatch}
    (reachable : Reachable Dispatch.step (Dispatch.init placement put) d) : Passed d := by
  refine (reachable.invariant
    (fun state => Reachable Dispatch.step (Dispatch.init placement put) state ∧ Passed state)
    ⟨.start, fun putting passed => ?_⟩ fun {state _} event ⟨reached, passed⟩ stepped => ?_).2
  · cases put
    · cases putting
    · exact absurd rfl passed
  · refine ⟨reached.step event stepped, fun putting moved => ?_⟩
    obtain ⟨samePut, -, barrier⟩ := frame_step stepped
    have runs := Runs.reachable reached
    have runsNext := Runs.reachable (reached.step event stepped)
    refine AllLeft.step runs runsNext ?_ stepped
    by_cases waiting : state.coordinator = .waitingWorkers
    · rcases barrier waiting with stays | done
      · exact absurd stays moved
      · exact allLeft_of_done runs done
    · exact passed (samePut ▸ putting) waiting

/--
In every run of `putObject`, once `workerGroup.Wait()` has returned, every
worker has left its retry loop and called `Done`, and `q.writers` never
changes again: every `addWriter` happened before the barrier opened, so the
writers `putObject` counts and copies to are all the writers there will be.
-/
theorem writers_final_after_barrier {placement : Placement} {d later : Dispatch}
    (reachable : Reachable Dispatch.step (Dispatch.init placement true) d)
    (opened : d.coordinator ≠ .waitingWorkers) (onward : Reachable Dispatch.step d later) :
    (∀ (w : Nat) (worker : Worker), d.workers[w]? = some worker →
      worker.pc.inLoop = false ∧ worker.done = true) ∧
      later.writers = d.writers := by
  have left : AllLeft d := passed_reachable reachable (put_reachable reachable) opened
  refine ⟨fun w worker found => ⟨left w worker found,
    ((Runs.reachable reachable).done w worker found).mpr (left w worker found)⟩, ?_⟩
  refine (onward.invariant
    (fun state => Reachable Dispatch.step (Dispatch.init placement true) state ∧ AllLeft state ∧
      state.writers = d.writers)
    ⟨reachable, left, rfl⟩ fun event ⟨reached, left, writers⟩ stepped => ?_).2.2
  have reachedNext := reached.step event stepped
  refine ⟨reachedNext, AllLeft.step (Runs.reachable reached) (Runs.reachable reachedNext) left stepped, ?_⟩
  rcases (frame_step stepped).2.1 with same | ⟨w, worker, found, looping⟩
  · exact same.trans writers
  · simp [left w worker found] at looping

/-- A PUT to one primary that takes the body: after the barrier the copy and the answer add no writer. -/
theorem writers_final_after_barrier_on_put :
    let primary : Device := ⟨"10.0.0.1", 6000, "sda"⟩
    let placement : Placement := ⟨1, [primary], [], rfl, by decide, by decide⟩
    ∃ d later, Reachable Dispatch.step (Dispatch.init placement true) d ∧ d.coordinator = .copying ∧
      Reachable Dispatch.step d later ∧ later.writers = [0] ∧
      ((∀ (w : Nat) (worker : Worker), d.workers[w]? = some worker →
        worker.pc.inLoop = false ∧ worker.done = true) ∧
        later.writers = d.writers) := by
  intro primary placement
  obtain ⟨d, reachable, observed⟩ := Reachable.of_run_map Dispatch.step (Dispatch.init placement true)
    [.continue100 0, .takeWriter 0 0, .storeWriter 0, .passBarrier]
    (fun state => (state.coordinator, (Transition.run Dispatch.step state
      [.copy true, .answer 0 (.backend primary 201 .empty), .takeFinal 0 0, .deliver 0]).map (·.writers)))
    (.copying, some [0]) (by decide)
  simp only [Prod.mk.injEq] at observed
  obtain ⟨later, ran, writers⟩ := Option.map_eq_some'.mp observed.2
  have onward : Reachable Dispatch.step d later := Reachable.start.run ran
  exact ⟨d, later, reachable, observed.1, onward, writers,
    writers_final_after_barrier reachable (by rw [observed.1]; decide) onward⟩

/-! ## `close(cancel)` releases every blocked `Read` -/

theorem continue100_offers {d next : Dispatch} {index : Nat} (stepped : continue100 d index = some next) :
    ∃ attempt reader, d.attempts[index]? = some attempt ∧
      (reader = .offering → d.workers[attempt.worker]?.map (·.pc) ≠ some .exited) ∧
      next = { d with attempts := d.attempts.set index { attempt with reader := reader } } := by
  unfold continue100 at stepped
  split at stepped
  · split at stepped
    · rename_i found _
      cases stepped
      refine ⟨_, _, found, fun offering => ?_, rfl⟩
      split at offering
      · cases offering
      · assumption
    · cases stepped
  · cases stepped

/-- Every attempt belongs to a worker, and no attempt of an exited worker is blocked offering its writer. -/
structure Released (d : Dispatch) : Prop where
  owned : ∀ attempt ∈ d.attempts, attempt.worker < d.workers.length
  offering : ∀ attempt ∈ d.attempts, attempt.reader = .offering →
    d.workers[attempt.worker]?.map (·.pc) ≠ some .exited

theorem released_init (placement : Placement) (put : Bool) :
    Released (Dispatch.init placement put) where
  owned := by
    intro attempt mem
    obtain ⟨index, within, rfl⟩ := List.mem_mapIdx.mp mem
    simpa [Dispatch.init] using within
  offering := by
    intro attempt mem offering
    obtain ⟨index, _, rfl⟩ := List.mem_mapIdx.mp mem
    cases offering

section Step

variable {d : Dispatch} (released : Released d)
include released

theorem Released.setAttempt {index : Nat} {attempt : Attempt} (updated : Attempt)
    (found : d.attempts[index]? = some attempt) (owner : updated.worker = attempt.worker)
    (offers : updated.reader = .offering → d.workers[updated.worker]?.map (·.pc) ≠ some .exited) :
    Released { d with attempts := d.attempts.set index updated } where
  owned := fun other mem => by
    rcases List.mem_or_eq_of_mem_set mem with mem | rfl
    · exact released.owned other mem
    · exact owner ▸ released.owned attempt (List.getElem?_mem found)
  offering := fun other mem => by
    rcases List.mem_or_eq_of_mem_set mem with mem | rfl
    · exact released.offering other mem
    · exact offers

theorem Released.setWorker {index : Nat} {worker : Worker} (updated : Worker)
    (found : d.workers[index]? = some worker) (alive : updated.pc ≠ .exited) :
    Released { d with workers := d.workers.set index updated } where
  owned := fun attempt mem => by simpa using released.owned attempt mem
  offering := fun attempt mem offering => by
    show (d.workers.set index updated)[attempt.worker]?.map (·.pc) ≠ some .exited
    by_cases same : index = attempt.worker
    · rw [← same, List.getElem?_set_self (List.getElem?_eq_some_iff.mp found).1]
      simpa using alive
    · rw [List.getElem?_set_ne same]
      exact released.offering attempt mem offering

theorem Released.exitWorker {index : Nat} (updated : Worker) :
    Released (QuorumDispatch.exitWorker d index updated) where
  owned := fun attempt mem => by
    obtain ⟨original, kept, rfl⟩ := List.mem_map.mp mem
    simp only [QuorumDispatch.exitWorker, List.length_set]
    split <;> exact released.owned original kept
  offering := fun attempt mem offering => by
    obtain ⟨original, kept, rfl⟩ := List.mem_map.mp mem
    split at offering
    · cases offering
    · rename_i notCancelled
      have other : index ≠ original.worker := fun same => notCancelled ⟨same.symm, offering⟩
      simp only [QuorumDispatch.exitWorker]
      split
      · exact absurd ‹_› notCancelled
      · rw [List.getElem?_set_ne other]
        exact released.offering original kept offering

theorem Released.launch {index : Nat} {worker : Worker} (found : d.workers[index]? = some worker)
    (handoffs : List Device) (device : Device) :
    Released { d with handoffs := handoffs, attempts := d.attempts ++ [⟨index, device, .idle, .pending⟩] } where
  owned := fun attempt mem => by
    rcases List.mem_append.mp mem with mem | mem
    · exact released.owned attempt mem
    · rw [List.mem_singleton.mp mem]
      exact (List.getElem?_eq_some_iff.mp found).1
  offering := fun attempt mem offering => by
    rcases List.mem_append.mp mem with mem | mem
    · exact released.offering attempt mem offering
    · rw [List.mem_singleton.mp mem] at offering
      cases offering

theorem Released.afterResponse {index : Nat} {worker : Worker} (resp : Response)
    (found : d.workers[index]? = some worker) (selecting : worker.pc = .selecting) :
    Released (QuorumDispatch.afterResponse d index worker resp) := by
  unfold QuorumDispatch.afterResponse
  split
  · split
    · exact (released.setWorker { worker with current := _ } found (by simp [selecting])).launch
        (List.getElem?_set_self (List.getElem?_eq_some_iff.mp found).1) _ _
    · exact released.exitWorker _
  · exact released.setWorker _ found (by simp)

end Step

/-- Every event keeps each blocked `Read` tied to a worker that has not exited. -/
theorem Released.step {d next : Dispatch} {event : Event} (released : Released d)
    (stepped : d.step event = some next) : Released next := by
  cases event with
  | continue100 index =>
      obtain ⟨attempt, reader, found, offers, rfl⟩ := continue100_offers stepped
      exact released.setAttempt _ found rfl offers
  | answer index resp =>
      obtain ⟨attempt, found, -, -, rfl⟩ := answer_eq_some stepped
      exact released.setAttempt _ found rfl
        (released.offering attempt (List.getElem?_mem found))
  | takeResponse index attemptIndex =>
      obtain ⟨worker, attempt, resp, found, selecting, foundAttempt, -, -, rfl⟩ :=
        takeResponse_eq_some stepped
      exact (released.setAttempt { attempt with answer := .taken resp } foundAttempt rfl
        (released.offering attempt (List.getElem?_mem foundAttempt))).afterResponse resp found selecting
  | takeWriter index attemptIndex =>
      obtain ⟨worker, attempt, found, -, foundAttempt, -, -, rfl⟩ := takeWriter_eq_some stepped
      exact { (released.setAttempt { attempt with reader := .streaming } foundAttempt rfl
        (fun streaming => by cases streaming)).setWorker _ found (by simp) with }
  | storeWriter index =>
      obtain ⟨worker, _, found, -, rfl⟩ := storeWriter_eq_some stepped
      exact { released.setWorker _ found (by simp) with }
  | takeFinal index attemptIndex =>
      obtain ⟨worker, attempt, resp, found, -, foundAttempt, -, -, rfl⟩ := takeFinal_eq_some stepped
      exact (released.setAttempt { attempt with answer := .taken resp } foundAttempt rfl
        (released.offering attempt (List.getElem?_mem foundAttempt))).setWorker _ found (by simp)
  | finalTimeout index =>
      obtain ⟨worker, -, -, rfl⟩ := finalTimeout_eq_some stepped
      exact released.exitWorker worker
  | deliver index =>
      obtain ⟨worker, -, -, -, -, -, -, -, rfl⟩ := deliver_eq_some stepped
      exact { released.exitWorker worker with }
  | deadline =>
      obtain ⟨_, -, rfl⟩ := deadline_eq_some stepped
      exact { released with }
  | graceTimeout =>
      obtain ⟨_, -, rfl⟩ := graceTimeout_eq_some stepped
      exact { released with }
  | passBarrier =>
      obtain ⟨-, rfl⟩ := passBarrier_eq_some stepped
      exact { released with }
  | copy succeeded =>
      obtain ⟨-, rfl⟩ := copy_eq_some stepped
      exact { released with }

theorem Released.reachable {placement : Placement} {put : Bool} {d : Dispatch}
    (reachable : Reachable Dispatch.step (Dispatch.init placement put) d) : Released d :=
  reachable.invariant Released (released_init placement put) fun _ released stepped => released.step stepped

/--
In every run of either dispatcher, every attempt belongs to one of the
dispatch's workers, and no attempt of a worker that has left `work` has its
`Read` blocked offering its pipe writer on `ready`: closing `cancel` released
every such `Read`, and a `Read` that starts later returns at once.
-/
theorem blocked_reads_released_on_exit {placement : Placement} {put : Bool} {d : Dispatch}
    (reachable : Reachable Dispatch.step (Dispatch.init placement put) d) :
    ∀ attempt ∈ d.attempts, ∃ worker, d.workers[attempt.worker]? = some worker ∧
      (worker.pc = .exited → attempt.reader ≠ .offering) := by
  have released := Released.reachable reachable
  intro attempt mem
  refine ⟨_, List.getElem?_eq_getElem (released.owned attempt mem), fun exited offering => ?_⟩
  exact released.offering attempt mem offering (by simp [List.getElem?_eq_getElem (released.owned attempt mem), exited])

/--
A PUT whose primary reaches `100 Continue` and then answers 503 with no
handoff left: the worker exits, and the attempt's blocked `Read` is cancelled.
-/
theorem blocked_reads_released_on_exit_after_failure :
    let primary : Device := ⟨"10.0.0.1", 6000, "sda"⟩
    let placement : Placement := ⟨1, [primary], [], rfl, by decide, by decide⟩
    ∃ d, Reachable Dispatch.step (Dispatch.init placement true) d ∧
      d.attempts.map (·.reader) = [.cancelled] ∧
      ∀ attempt ∈ d.attempts, ∃ worker, d.workers[attempt.worker]? = some worker ∧
        (worker.pc = .exited → attempt.reader ≠ .offering) := by
  intro primary placement
  obtain ⟨d, reachable, observed⟩ := Reachable.of_run_map Dispatch.step (Dispatch.init placement true)
    [.continue100 0, .answer 0 (.backend primary 503 .empty), .takeResponse 0 0]
    (fun state => state.attempts.map (·.reader)) [.cancelled] (by decide)
  exact ⟨d, reachable, observed, blocked_reads_released_on_exit reachable⟩

/-! ## At most one writer per worker -/

section Writers

variable {placement : Placement} {d : Dispatch} (runs : Runs placement d) (released : Released d)
include runs released

/-- Every registered writer is that of an attempt of a worker that holds a writer. -/
theorem writer_owned {attemptIndex : Nat} (mem : attemptIndex ∈ d.writers) :
    ∃ w < d.workers.length, (d.attempts.map (·.worker))[attemptIndex]? = some w ∧
      d.workers[w]?.any (fun worker => worker.writer.isSome) = true := by
  have within := runs.stored.1 attemptIndex mem
  have bound := released.owned _ (List.getElem_mem within)
  have found : (d.attempts.map (·.worker))[attemptIndex]? = some d.attempts[attemptIndex].worker := by
    simp [within]
  refine ⟨_, bound, found, ?_⟩
  have owned : attemptIndex ∈ ownedIn d d.writers d.attempts[attemptIndex].worker :=
    List.mem_filter.mpr ⟨mem, by simp [found]⟩
  have held := (runs.stored.2 _ _ (List.getElem?_eq_getElem bound)).subset owned
  rw [List.getElem?_eq_getElem bound]
  cases writer : d.workers[d.attempts[attemptIndex].worker].writer <;> simp_all

/-- A worker owns at most one of the registered writers: the one in its `qw.writer`, if `q.writers` kept it. -/
theorem count_writerOwners_le_one (owner : Option Nat) :
    (d.writers.map fun attemptIndex => (d.attempts.map (·.worker))[attemptIndex]?).countP
      (fun found => decide (found = owner)) ≤ 1 := by
  rw [List.countP_map]
  cases owner with
  | none =>
      rw [List.countP_eq_zero.mpr fun attemptIndex mem => ?_]
      · exact Nat.zero_le _
      obtain ⟨w, -, found, -⟩ := writer_owned runs released mem
      rw [Function.comp_apply, found]
      simp
  | some w =>
      rw [List.countP_eq_length_filter]
      show (registeredBy d w).length ≤ 1
      by_cases within : w < d.workers.length
      · exact ((runs.stored.2 w _ (List.getElem?_eq_getElem within)).length_le).trans
          (by cases d.workers[w].writer <;> simp)
      · rw [Nat.le_one_iff_eq_zero_or_eq_one, List.length_eq_zero]
        refine .inl (List.filter_eq_nil_iff.mpr fun attemptIndex mem => ?_)
        obtain ⟨other, below, found, -⟩ := writer_owned runs released mem
        simp only [found, Option.some.injEq, decide_eq_true_eq]
        omega

end Writers

/--
In every run of either dispatcher, `q.writers` holds at most one pipe writer
per worker: the attempts whose writers were registered belong to distinct
workers, so `common.Copy` streams the body into at most one pipe of each
worker, even when the writer a worker takes is that of an earlier attempt.
-/
theorem writers_of_distinct_workers {placement : Placement} {put : Bool} {d : Dispatch}
    (reachable : Reachable Dispatch.step (Dispatch.init placement put) d) :
    (d.writers.map fun attemptIndex => (d.attempts.map (·.worker))[attemptIndex]?).Nodup :=
  List.nodup_iff_count_le_one.mpr fun owner =>
    count_writerOwners_le_one (Runs.reachable reachable) (Released.reachable reachable) owner

/-- A PUT to two primaries that both take the body: one writer for each worker. -/
theorem writers_of_distinct_workers_on_two_primaries :
    let primaries : List Device := [⟨"10.0.0.1", 6000, "sda"⟩, ⟨"10.0.0.2", 6000, "sda"⟩]
    let placement : Placement := ⟨2, primaries, [], rfl, by decide, by decide⟩
    ∃ d, Reachable Dispatch.step (Dispatch.init placement true) d ∧ d.writers = [0, 1] ∧
      (d.writers.map fun attemptIndex => (d.attempts.map (·.worker))[attemptIndex]?).Nodup := by
  intro primaries placement
  obtain ⟨d, reachable, observed⟩ := Reachable.of_run_map Dispatch.step (Dispatch.init placement true)
    [.continue100 0, .takeWriter 0 0, .storeWriter 0, .continue100 1, .takeWriter 1 1, .storeWriter 1]
    (·.writers) [0, 1] (by decide)
  exact ⟨d, reachable, observed, writers_of_distinct_workers reachable⟩

theorem length_filter_range {α : Type} (p : α → Bool) :
    ∀ items : List α, ((List.range items.length).filter fun i => items[i]?.any p).length =
      (items.filter p).length
  | [] => rfl
  | item :: rest => by
      have shifted := length_filter_range p rest
      rw [List.length_cons, List.range_succ_eq_map, List.filter_cons, List.filter_map, List.filter_cons]
      simp only [List.getElem?_cons_zero, Option.any_some, List.length_map, Function.comp_def,
        List.getElem?_cons_succ]
      split <;> simp [shifted]

/--
In every run of either dispatcher, `q.writers` holds at most one writer for
each worker that took one, and may hold fewer: `addWriter` appends to the
shared slice without a lock, so when two workers both read it before either
stores, the second store drops the first writer.  The start barrier's quorum
check `len(writers)+q.responseCount() < q.getQ()` then counts too few, and
`common.Copy` never writes into the dropped writer's pipe.
-/
theorem writers_length_le_writing_workers {placement : Placement} {put : Bool} {d : Dispatch}
    (reachable : Reachable Dispatch.step (Dispatch.init placement put) d) :
    d.writers.length ≤ (d.workers.filter fun worker => worker.writer.isSome).length := by
  have runs := Runs.reachable reachable
  have released := Released.reachable reachable
  have distinct : (d.writers.map fun attemptIndex => (d.attempts.map (·.worker))[attemptIndex]?).Nodup :=
    List.nodup_iff_count_le_one.mpr fun owner => count_writerOwners_le_one runs released owner
  have owners : (d.writers.map fun attemptIndex => (d.attempts.map (·.worker))[attemptIndex]?) ⊆
      ((List.range d.workers.length).filter fun w =>
        d.workers[w]?.any fun worker => worker.writer.isSome).map some := by
    intro owner mem
    obtain ⟨attemptIndex, registered, rfl⟩ := List.mem_map.mp mem
    obtain ⟨w, within, found, writing⟩ := writer_owned runs released registered
    rw [found]
    exact List.mem_map_of_mem _ (List.mem_filter.mpr ⟨List.mem_range.mpr within, writing⟩)
  calc d.writers.length
      = (d.writers.map fun attemptIndex => (d.attempts.map (·.worker))[attemptIndex]?).length :=
        (List.length_map _ _).symm
    _ ≤ _ := (List.subperm_of_subset distinct owners).length_le
    _ = (d.workers.filter fun worker => worker.writer.isSome).length := by
        rw [List.length_map, length_filter_range]

/--
A PUT to two primaries whose workers take their writers and both read the
empty `q.writers` before either stores: both hold a writer, and `q.writers`
keeps only the second.
-/
theorem writers_length_le_writing_workers_lost_update :
    let primaries : List Device := [⟨"10.0.0.1", 6000, "sda"⟩, ⟨"10.0.0.2", 6000, "sda"⟩]
    let placement : Placement := ⟨2, primaries, [], rfl, by decide, by decide⟩
    ∃ d, Reachable Dispatch.step (Dispatch.init placement true) d ∧
      (d.writers, (d.workers.filter fun worker => worker.writer.isSome).length) = ([1], 2) ∧
      d.writers.length ≤ (d.workers.filter fun worker => worker.writer.isSome).length := by
  intro primaries placement
  obtain ⟨d, reachable, observed⟩ := Reachable.of_run_map Dispatch.step (Dispatch.init placement true)
    [.continue100 0, .continue100 1, .takeWriter 0 0, .takeWriter 1 1, .storeWriter 0, .storeWriter 1]
    (fun d => (d.writers, (d.workers.filter fun worker => worker.writer.isSome).length)) ([1], 2)
    (by decide)
  exact ⟨d, reachable, observed, writers_length_le_writing_workers reachable⟩

end Hummingbird.Client.StartBarrier
