import Hummingbird.Client.QuorumSafety

/-!
# What one quorum worker can do in a dispatch

`quorumWorker.work` launches one attempt per pass of its `for dev != nil`
loop: the first on its primary, every later one on a device `more.Next()`
returned after a 5xx.  The iterator is shared by the workers of the dispatch,
so a handoff one worker draws no other sees.  The loop ends on a non-5xx
answer, on an empty iterator, or once the worker has taken a pipe writer from
`ready` and `addWriter` has stored it; right after the loop the worker calls
`qw.wg.Done()`, and its tail sends on `responsec` at most once.

`Runs` holds of every reachable dispatch state: the attempts past the
primaries are the handoffs drawn so far, in the iterator's order; the `done`
flag is raised exactly when the loop has been left; and `q.writers`, as well
as every slice an `addWriter` has read and not yet stored, holds of each
worker at most the writer it keeps in `qw.writer`.  At most, not exactly: an
`addWriter` that stores a slice read before another worker's store drops that
worker's writer.  Together with the sender facts of `QuorumSafety.Safe` it
bounds each worker's attempts, writers and sends, and the responses
`getResponse` can collect.
-/

namespace Hummingbird.Client.WorkerRun

open Hummingbird.Client.Ring
open Hummingbird.Client.Http
open Hummingbird.Client.QuorumDispatch
open Hummingbird.Client.QuorumSafety
open Hummingbird.Transition

/-! ## What a worker did so far -/

/-- The handoffs worker `w` drew from the shared iterator: its attempts past the first `primaryCount`. -/
def drawnBy (d : Dispatch) (primaryCount w : Nat) : List Device :=
  ((d.attempts.drop primaryCount).filter (·.worker = w)).map (·.device)

/-- The attempts in `writers` whose pipe writers are worker `w`'s. -/
def ownedIn (d : Dispatch) (writers : List Nat) (w : Nat) : List Nat :=
  writers.filter fun attemptIndex => (d.attempts.map (·.worker))[attemptIndex]? = some w

/-- The writers of worker `w` that `q.writers` holds, as the attempts whose pipe writers they are. -/
def registeredBy (d : Dispatch) (w : Nat) : List Nat :=
  ownedIn d d.writers w

theorem ownedIn_append (d : Dispatch) (first second : List Nat) (w : Nat) :
    ownedIn d (first ++ second) w = ownedIn d first w ++ ownedIn d second w :=
  List.filter_append _ _

theorem map_cancelReaders {β : Type} (f : Attempt → β)
    (ignores : ∀ attempt, f { attempt with reader := .cancelled } = f attempt)
    (exiting : Nat) (attempts : List Attempt) :
    (cancelReaders exiting attempts).map f = attempts.map f := by
  simp only [cancelReaders, List.map_map]
  congr 1
  funext attempt
  simp only [Function.comp_apply]
  split
  · exact ignores attempt
  · rfl

theorem forall_getElem?_set {α : Type} {P : Nat → α → Prop} {items : List α} {index : Nat}
    (others : ∀ i x, i ≠ index → items[i]? = some x → P i x) {updated : α}
    (holds : P index updated) : ∀ i x, (items.set index updated)[i]? = some x → P i x := by
  intro i x found
  rw [List.getElem?_set] at found
  split at found
  · subst_vars
    split at found
    · obtain rfl := Option.some.inj found
      exact holds
    · cases found
  · exact others i x (Ne.symm ‹_›) found

/-- A slice of writers names only launched attempts, and of each worker at most its `qw.writer`. -/
def Stored (d : Dispatch) (writers : List Nat) : Prop :=
  (∀ attemptIndex ∈ writers, attemptIndex < d.attempts.length) ∧
    ∀ (w : Nat) (worker : Worker), d.workers[w]? = some worker →
      (ownedIn d writers w).Sublist worker.writer.toList

theorem Stored.sameAttempts {d : Dispatch} {writers : List Nat} (stored : Stored d writers)
    {attempts : List Attempt} (owners : attempts.map (·.worker) = d.attempts.map (·.worker)) :
    Stored { d with attempts := attempts } writers := by
  have length : attempts.length = d.attempts.length := by
    simpa using congrArg List.length owners
  refine ⟨fun attemptIndex mem => length ▸ stored.1 attemptIndex mem, fun w worker found => ?_⟩
  simp only [ownedIn, owners]
  exact stored.2 w worker found

theorem Stored.launch {d : Dispatch} {writers : List Nat} (stored : Stored d writers)
    (handoffs : List Device) (attempt : Attempt) :
    Stored { d with handoffs := handoffs, attempts := d.attempts ++ [attempt] } writers := by
  refine ⟨fun attemptIndex mem => by simpa using Nat.lt_succ_of_lt (stored.1 attemptIndex mem),
    fun w worker found => ?_⟩
  have kept : ownedIn { d with handoffs := handoffs, attempts := d.attempts ++ [attempt] } writers w =
      ownedIn d writers w := by
    simp only [ownedIn, List.map_append]
    refine List.filter_congr fun attemptIndex mem => ?_
    rw [List.getElem?_append_left (by simpa using stored.1 attemptIndex mem)]
  rw [kept]
  exact stored.2 w worker found

theorem Stored.setWorker {d : Dispatch} {writers : List Nat} (stored : Stored d writers)
    {index : Nat} {worker : Worker} (updated : Worker) (found : d.workers[index]? = some worker)
    (writer : worker.writer = none ∨ updated.writer = worker.writer) :
    Stored { d with workers := d.workers.set index updated } writers := by
  refine ⟨stored.1, forall_getElem?_set (fun w worker _ => stored.2 w worker) ?_⟩
  rcases writer with none | same
  · have owned := stored.2 index worker found
    rw [none, Option.toList_none, List.sublist_nil] at owned
    exact owned ▸ List.nil_sublist _
  · exact same ▸ stored.2 index worker found

section Invariant

variable (placement : Placement)

/-- What holds of the workers in every reachable state of a dispatch on `placement`. -/
structure Runs (d : Dispatch) : Prop where
  workers : d.workers.length = placement.primaries.length
  /-- The first attempts are the workers' first passes, in worker order. -/
  primaries : (d.attempts.map (·.worker)).take placement.primaries.length =
    List.range placement.primaries.length
  launched : placement.primaries.length ≤ d.attempts.length
  /-- The later attempts are on the handoffs drawn from the shared iterator, in the order drawn. -/
  drawn : (d.attempts.map (·.device)).drop placement.primaries.length ++ d.handoffs =
    placement.handoffs
  /-- `qw.wg.Done()` has run exactly when the loop has been left. -/
  done : ∀ (w : Nat) (worker : Worker), d.workers[w]? = some worker →
    (worker.done = true ↔ worker.pc.inLoop = false)
  /-- At the loop's `select` `qw.writer` is still nil. -/
  idle : ∀ (w : Nat) (worker : Worker), d.workers[w]? = some worker → worker.pc = .selecting →
    worker.writer = none
  /-- `qw.writer` is the pipe writer of one of the worker's own attempts. -/
  holds : ∀ (w : Nat) (worker : Worker), d.workers[w]? = some worker →
    ∀ attemptIndex, worker.writer = some attemptIndex → (d.attempts.map (·.worker))[attemptIndex]? = some w
  stored : Stored d d.writers
  /-- The slice an unfinished `addWriter` read holds no writer of its own worker. -/
  snapshots : ∀ (w : Nat) (worker : Worker), d.workers[w]? = some worker →
    ∀ snapshot, worker.pc = .registering snapshot → Stored d snapshot ∧ ownedIn d snapshot w = []

variable {placement}

theorem init_owners (put : Bool) :
    (Dispatch.init placement put).attempts.map (·.worker) = List.range placement.primaries.length := by
  apply List.ext_getElem?
  intro index
  by_cases within : index < placement.primaries.length
  · simp [Dispatch.init, List.getElem?_mapIdx, List.getElem?_range within, List.getElem?_eq_getElem within]
  · have beyond := Nat.le_of_not_lt within
    simp [Dispatch.init, List.getElem?_mapIdx, List.getElem?_eq_none beyond, beyond]

theorem init_worker {put : Bool} {w : Nat} {worker : Worker}
    (found : (Dispatch.init placement put).workers[w]? = some worker) :
    worker.pc = .selecting ∧ worker.done = false ∧ worker.writer = none := by
  simp only [Dispatch.init, List.getElem?_map, Option.map_eq_some'] at found
  obtain ⟨_, _, rfl⟩ := found
  exact ⟨rfl, rfl, rfl⟩

theorem runs_init (put : Bool) : Runs placement (Dispatch.init placement put) where
  workers := by simp [Dispatch.init]
  primaries := by simp [init_owners]
  launched := by simp [Dispatch.init]
  drawn := by
    have devices : (Dispatch.init placement put).attempts.map (·.device) = placement.primaries := by
      apply List.ext_getElem?
      intro index
      simp [Dispatch.init, Function.comp_def]
    simp [devices, Dispatch.init]
  done := fun _ _ found => by simp [(init_worker found).1, (init_worker found).2.1, WorkerPc.inLoop]
  idle := fun _ _ found _ => (init_worker found).2.2
  holds := fun _ _ found _ held => by simp [(init_worker found).2.2] at held
  stored := ⟨by simp [Dispatch.init], fun _ _ _ => by simp [ownedIn, Dispatch.init]⟩
  snapshots := fun _ _ found _ registering => by simp [(init_worker found).1] at registering

section Step

variable {d : Dispatch} (runs : Runs placement d)
include runs

theorem Runs.sameAttempts {attempts : List Attempt}
    (owners : attempts.map (·.worker) = d.attempts.map (·.worker))
    (devices : attempts.map (·.device) = d.attempts.map (·.device)) :
    Runs placement { d with attempts := attempts } := by
  have length : attempts.length = d.attempts.length := by
    simpa using congrArg List.length owners
  exact
    { runs with
      primaries := owners ▸ runs.primaries
      launched := length ▸ runs.launched
      drawn := devices ▸ runs.drawn
      holds := fun w worker found attemptIndex held => owners ▸ runs.holds w worker found attemptIndex held
      stored := runs.stored.sameAttempts owners
      snapshots := fun w worker found snapshot registering => by
        obtain ⟨stored, own⟩ := runs.snapshots w worker found snapshot registering
        refine ⟨stored.sameAttempts owners, ?_⟩
        simpa only [ownedIn, owners] using own }

theorem Runs.setAttempt {index : Nat} {attempt : Attempt} (updated : Attempt)
    (found : d.attempts[index]? = some attempt) (owner : updated.worker = attempt.worker)
    (device : updated.device = attempt.device) :
    Runs placement { d with attempts := d.attempts.set index updated } :=
  runs.sameAttempts (map_set_of_eq found owner) (map_set_of_eq found device)

/--
Worker `index` moves, with its flag raised exactly outside the loop, keeping
its writer or taking a first one of its own.
-/
theorem Runs.setWorker {index : Nat} {worker : Worker} (updated : Worker)
    (found : d.workers[index]? = some worker)
    (flag : updated.done = true ↔ updated.pc.inLoop = false)
    (idle : updated.pc = .selecting → updated.writer = none)
    (writer : worker.writer = none ∨ updated.writer = worker.writer)
    (holds : ∀ attemptIndex, updated.writer = some attemptIndex →
      (d.attempts.map (·.worker))[attemptIndex]? = some index)
    (snapshots : ∀ snapshot, updated.pc = .registering snapshot →
      Stored d snapshot ∧ ownedIn d snapshot index = []) :
    Runs placement { d with workers := d.workers.set index updated } :=
  { runs with
    workers := by simp [runs.workers]
    done := forall_getElem?_set (fun w worker _ => runs.done w worker) flag
    idle := forall_getElem?_set (fun w worker _ => runs.idle w worker) idle
    holds := forall_getElem?_set (fun w worker _ => runs.holds w worker) holds
    stored := runs.stored.setWorker updated found writer
    snapshots := forall_getElem?_set
      (P := fun w moved => ∀ snapshot, moved.pc = .registering snapshot →
        Stored { d with workers := d.workers.set index updated } snapshot ∧ ownedIn d snapshot w = [])
      (fun w other _ kept snapshot registering =>
        have ⟨stored, own⟩ := runs.snapshots w other kept snapshot registering
        ⟨stored.setWorker updated found writer, own⟩)
      fun snapshot registering =>
        have ⟨stored, own⟩ := snapshots snapshot registering
        ⟨stored.setWorker updated found writer, own⟩ }

theorem Runs.keepWriter {index : Nat} {worker : Worker} (updated : Worker)
    (found : d.workers[index]? = some worker) (flag : updated.done = true ↔ updated.pc.inLoop = false)
    (writer : updated.writer = worker.writer) (moves : ∀ snapshot, updated.pc ≠ .registering snapshot)
    (idle : updated.pc = .selecting → updated.writer = none) :
    Runs placement { d with workers := d.workers.set index updated } :=
  runs.setWorker updated found flag idle (.inr writer)
    (fun attemptIndex held => runs.holds index worker found attemptIndex (writer ▸ held))
    fun snapshot registering => absurd registering (moves snapshot)

theorem Runs.exitWorker {index : Nat} {worker : Worker} (updated : Worker)
    (found : d.workers[index]? = some worker) (done : updated.done = true)
    (writer : updated.writer = worker.writer) :
    Runs placement (QuorumDispatch.exitWorker d index updated) :=
  (runs.keepWriter { updated with pc := .exited } found (by simp [done, WorkerPc.inLoop]) writer
    (fun _ => nofun) nofun).sameAttempts
    (map_cancelReaders (·.worker) (fun _ => rfl) index d.attempts) (map_device_cancelReaders index d.attempts)

/-- Worker `index` draws `device` from the iterator and launches an attempt on it. -/
theorem Runs.draw {index : Nat} {device : Device} {rest : List Device}
    (handoffs : d.handoffs = device :: rest) :
    Runs placement
      { d with handoffs := rest, attempts := d.attempts ++ [⟨index, device, .idle, .pending⟩] } := by
  have launched : placement.primaries.length ≤ (d.attempts.map (·.worker)).length := by
    simpa using runs.launched
  have devicesLaunched : placement.primaries.length ≤ (d.attempts.map (·.device)).length := by
    simpa using runs.launched
  exact
    { runs with
      primaries := by simpa [List.take_append_of_le_length launched] using runs.primaries
      launched := by simpa using Nat.le_succ_of_le runs.launched
      drawn := by
        simp only [List.map_append, List.drop_append_of_le_length devicesLaunched, List.append_assoc,
          List.map_cons, List.map_nil, List.singleton_append, ← handoffs]
        exact runs.drawn
      holds := fun w worker found attemptIndex held => by
        have owned := runs.holds w worker found attemptIndex held
        rw [List.map_append, List.getElem?_append_left (List.getElem?_eq_some_iff.mp owned).1]
        exact owned
      stored := runs.stored.launch rest _
      snapshots := fun w worker found snapshot registering => by
        obtain ⟨stored, own⟩ := runs.snapshots w worker found snapshot registering
        refine ⟨stored.launch rest _, ?_⟩
        rw [← own]
        simp only [ownedIn, List.map_append]
        refine List.filter_congr fun attemptIndex mem => ?_
        rw [List.getElem?_append_left (by simpa using stored.1 attemptIndex mem)] }

theorem Runs.afterResponse {index : Nat} {worker : Worker} {resp : Response}
    (found : d.workers[index]? = some worker) (selecting : worker.pc = .selecting) :
    Runs placement (QuorumDispatch.afterResponse d index worker resp) := by
  have idle := runs.idle index worker found selecting
  unfold QuorumDispatch.afterResponse
  split
  · split
    · rename_i device rest handoffs
      exact (runs.keepWriter { worker with current := device } found (runs.done index worker found)
        rfl (by simp [selecting]) (fun _ => idle)).draw handoffs
    · exact runs.exitWorker _ found rfl rfl
  · exact runs.keepWriter _ found (by simp [WorkerPc.inLoop]) rfl (fun _ => nofun) nofun

theorem Runs.takeWriter {index attemptIndex : Nat} {worker : Worker} {attempt : Attempt}
    (found : d.workers[index]? = some worker) (selecting : worker.pc = .selecting)
    (foundAttempt : d.attempts[attemptIndex]? = some attempt) (owner : attempt.worker = index) :
    Runs placement { d with
      workers := d.workers.set index { worker with pc := .registering d.writers, writer := some attemptIndex }
      attempts := d.attempts.set attemptIndex { attempt with reader := .streaming } } := by
  have ownersKept : (d.attempts.set attemptIndex { attempt with reader := .streaming }).map (·.worker) =
      d.attempts.map (·.worker) :=
    map_set_of_eq foundAttempt rfl
  have streaming := runs.setAttempt { attempt with reader := .streaming } foundAttempt rfl rfl
  have idle := runs.idle index worker found selecting
  have none : ownedIn d d.writers index = [] := by
    simpa [idle] using runs.stored.2 index worker found
  exact streaming.setWorker _ found
    (by simpa [selecting, WorkerPc.inLoop] using runs.done index worker found) nofun (.inl idle)
    (fun _ held => by
      cases held
      simp only [ownersKept]
      simp [foundAttempt, owner])
    fun _ registering => by
      obtain rfl := WorkerPc.registering.inj registering
      exact ⟨streaming.stored, by simpa only [ownedIn, ownersKept] using none⟩

theorem Runs.storeWriter {index : Nat} {worker : Worker} {snapshot : List Nat}
    (found : d.workers[index]? = some worker) (registering : worker.pc = .registering snapshot) :
    Runs placement { d with
      workers := d.workers.set index { worker with pc := .awaitingFinal, dev := worker.current, done := true }
      writers := snapshot ++ worker.writer.toList } := by
  obtain ⟨stored, own⟩ := runs.snapshots index worker found snapshot registering
  have kept := runs.keepWriter { worker with pc := .awaitingFinal, dev := worker.current, done := true }
    found (by simp [WorkerPc.inLoop]) rfl (fun _ => nofun) nofun
  -- the appended writer is the worker's own, which the slice it read did not hold
  have appended : ∀ w, ownedIn d worker.writer.toList w = if w = index then worker.writer.toList else [] := by
    intro w
    cases held : worker.writer with
    | none => simp [ownedIn]
    | some attemptIndex =>
        have owned := runs.holds index worker found attemptIndex held
        rw [ownedIn, Option.toList_some, List.filter_singleton, owned]
        by_cases same : w = index
        · simp [same]
        · simp [same, Ne.symm same]
  refine { kept with stored := ⟨fun attemptIndex mem => ?_, fun w other found' => ?_⟩ }
  · rcases List.mem_append.mp mem with mem | mem
    · exact stored.1 attemptIndex mem
    · have owned := runs.holds index worker found attemptIndex (Option.mem_toList.mp mem)
      simpa using (List.getElem?_eq_some_iff.mp owned).1
  · show (ownedIn d (snapshot ++ worker.writer.toList) w).Sublist other.writer.toList
    rw [ownedIn_append, appended]
    by_cases same : w = index
    · subst same
      obtain rfl := Option.some.inj
        ((List.getElem?_set_self (List.getElem?_eq_some_iff.mp found).1).symm.trans found')
      simp [own]
    · have others := (stored.setWorker { worker with pc := .awaitingFinal, dev := worker.current, done := true }
        found (.inr rfl)).2 w other found'
      simpa [same] using others

end Step

/-- Every event keeps the invariant. -/
theorem Runs.step {d next : Dispatch} {event : Event} (runs : Runs placement d)
    (stepped : d.step event = some next) : Runs placement next := by
  cases event with
  | continue100 index =>
      obtain ⟨attempt, reader, found, -, -, -, rfl⟩ := continue100_eq_some stepped
      exact runs.setAttempt _ found rfl rfl
  | answer index resp =>
      obtain ⟨attempt, found, -, -, rfl⟩ := answer_eq_some stepped
      exact runs.setAttempt _ found rfl rfl
  | takeResponse index attemptIndex =>
      obtain ⟨worker, attempt, resp, found, selecting, foundAttempt, -, -, rfl⟩ :=
        takeResponse_eq_some stepped
      exact (runs.setAttempt { attempt with answer := .taken resp } foundAttempt rfl rfl).afterResponse
        found selecting
  | takeWriter index attemptIndex =>
      obtain ⟨worker, attempt, found, selecting, foundAttempt, owner, -, rfl⟩ :=
        takeWriter_eq_some stepped
      exact runs.takeWriter found selecting foundAttempt owner
  | storeWriter index =>
      obtain ⟨worker, snapshot, found, registering, rfl⟩ := storeWriter_eq_some stepped
      exact runs.storeWriter found registering
  | takeFinal index attemptIndex =>
      obtain ⟨worker, attempt, resp, found, awaiting, foundAttempt, -, -, rfl⟩ :=
        takeFinal_eq_some stepped
      exact (runs.setAttempt { attempt with answer := .taken resp } foundAttempt rfl rfl).keepWriter
        { worker with pc := .sending resp, response := some resp } found
        (by simpa [awaiting, WorkerPc.inLoop] using runs.done index worker found) rfl (fun _ => nofun)
        nofun
  | finalTimeout index =>
      obtain ⟨worker, found, awaiting, rfl⟩ := finalTimeout_eq_some stepped
      exact runs.exitWorker worker found
        (by simpa [awaiting, WorkerPc.inLoop] using runs.done index worker found) rfl
  | deliver index =>
      obtain ⟨worker, resp, -, -, found, sends, -, -, rfl⟩ := deliver_eq_some stepped
      exact { runs.exitWorker worker found
        (by simpa [sends, WorkerPc.inLoop] using runs.done index worker found) rfl with }
  | deadline =>
      obtain ⟨_, -, rfl⟩ := deadline_eq_some stepped
      exact { runs with }
  | graceTimeout =>
      obtain ⟨_, -, rfl⟩ := graceTimeout_eq_some stepped
      exact { runs with }
  | passBarrier =>
      obtain ⟨-, rfl⟩ := passBarrier_eq_some stepped
      exact { runs with }
  | copy succeeded =>
      obtain ⟨-, rfl⟩ := copy_eq_some stepped
      exact { runs with }

/-- The invariant holds in every state a dispatch can reach. -/
theorem Runs.reachable {put : Bool} {d : Dispatch}
    (reachable : Reachable Dispatch.step (Dispatch.init placement put) d) : Runs placement d :=
  reachable.invariant (Runs placement) (runs_init put) fun _ runs stepped => runs.step stepped

/-- A worker has launched one attempt on its primary and one on each handoff it drew. -/
theorem Runs.attempts_of_worker {d : Dispatch} (runs : Runs placement d) {w : Nat}
    (within : w < placement.primaries.length) :
    (d.attempts.filter (·.worker = w)).length = 1 + (drawnBy d placement.primaries.length w).length := by
  have first : ((d.attempts.take placement.primaries.length).filter (·.worker = w)).length = 1 :=
    calc ((d.attempts.take placement.primaries.length).filter (·.worker = w)).length
        = ((d.attempts.map (·.worker)).take placement.primaries.length).count w := by
          rw [← List.map_take, List.count, List.countP_map, List.countP_eq_length_filter]
          simp only [Function.comp_def, Bool.beq_eq_decide_eq]
      _ = (List.range placement.primaries.length).count w := by rw [runs.primaries]
      _ = 1 := List.count_eq_one_of_mem (List.nodup_range _) (List.mem_range.mpr within)
  rw [← List.take_append_drop placement.primaries.length d.attempts, List.filter_append,
    List.length_append, first]
  simp [drawnBy]

/-- `getResponse` collects at most one response per worker. -/
theorem responses_le_workers {d : Dispatch} (safe : Safe placement d) (runs : Runs placement d) :
    d.quorumer.responses.length ≤ placement.primaries.length := by
  have senders : d.responsecLog.map Prod.fst ⊆ List.range placement.primaries.length := by
    intro index mem
    obtain ⟨entry, logged, rfl⟩ := List.mem_map.mp mem
    obtain ⟨worker, found, -⟩ := Option.map_eq_some'.mp (safe.senderExited entry logged)
    exact List.mem_range.mpr (runs.workers ▸ (List.getElem?_eq_some_iff.mp found).1)
  calc d.quorumer.responses.length = (d.responsecLog.map Prod.fst).length := by simp [safe.collected]
    _ ≤ (List.range placement.primaries.length).length :=
      (List.subperm_of_subset safe.senders senders).length_le
    _ = placement.primaries.length := List.length_range _

end Invariant

/-! ## The loop is left once -/

theorem left_set {workers : List Worker} {index w : Nat} {worker updated : Worker}
    (found : workers[w]? = some worker) (left : worker.pc.inLoop = false)
    (moves : (∃ old, workers[index]? = some old ∧ old.pc.inLoop = true) ∨ updated.pc.inLoop = false) :
    ∃ moved, (workers.set index updated)[w]? = some moved ∧ moved.pc.inLoop = false := by
  by_cases same : index = w
  · subst same
    rcases moves with ⟨old, found', looping⟩ | leaves
    · obtain rfl := Option.some.inj (found'.symm.trans found)
      simp [left] at looping
    · exact ⟨updated, List.getElem?_set_self (List.getElem?_eq_some_iff.mp found).1, leaves⟩
  · exact ⟨worker, by rw [List.getElem?_set_ne same, found], left⟩

/-- No event brings a worker back into its retry loop. -/
theorem left_step {d next : Dispatch} {event : Event} (stepped : d.step event = some next)
    {w : Nat} {worker : Worker} (found : d.workers[w]? = some worker) (left : worker.pc.inLoop = false) :
    ∃ moved, next.workers[w]? = some moved ∧ moved.pc.inLoop = false := by
  cases event with
  | continue100 index =>
      obtain ⟨_, _, _, _, _, _, rfl⟩ := continue100_eq_some stepped
      exact ⟨worker, found, left⟩
  | answer index resp =>
      obtain ⟨_, _, _, _, rfl⟩ := answer_eq_some stepped
      exact ⟨worker, found, left⟩
  | takeResponse index attemptIndex =>
      obtain ⟨current, _, resp, foundCurrent, selecting, -, -, -, rfl⟩ := takeResponse_eq_some stepped
      obtain ⟨updated, workers⟩ := afterResponse_workers
        { d with attempts := d.attempts.set attemptIndex { ‹Attempt› with answer := .taken resp } }
        index current resp
      rw [workers]
      exact left_set found left (.inl ⟨current, foundCurrent, by simp [selecting, WorkerPc.inLoop]⟩)
  | takeWriter index attemptIndex =>
      obtain ⟨current, _, foundCurrent, selecting, -, -, -, rfl⟩ := takeWriter_eq_some stepped
      exact left_set found left (.inl ⟨current, foundCurrent, by simp [selecting, WorkerPc.inLoop]⟩)
  | storeWriter index =>
      obtain ⟨_, _, -, -, rfl⟩ := storeWriter_eq_some stepped
      exact left_set found left (.inr rfl)
  | takeFinal index attemptIndex =>
      obtain ⟨_, _, _, -, -, -, -, -, rfl⟩ := takeFinal_eq_some stepped
      exact left_set found left (.inr rfl)
  | finalTimeout index =>
      obtain ⟨_, -, -, rfl⟩ := finalTimeout_eq_some stepped
      exact left_set found left (.inr rfl)
  | deliver index =>
      obtain ⟨_, _, _, _, -, -, -, -, rfl⟩ := deliver_eq_some stepped
      exact left_set found left (.inr rfl)
  | deadline =>
      obtain ⟨_, -, rfl⟩ := deadline_eq_some stepped
      exact ⟨worker, found, left⟩
  | graceTimeout =>
      obtain ⟨_, -, rfl⟩ := graceTimeout_eq_some stepped
      exact ⟨worker, found, left⟩
  | passBarrier =>
      obtain ⟨-, rfl⟩ := passBarrier_eq_some stepped
      exact ⟨worker, found, left⟩
  | copy succeeded =>
      obtain ⟨-, rfl⟩ := copy_eq_some stepped
      exact ⟨worker, found, left⟩

theorem left_reachable {d later : Dispatch} (reachable : Reachable Dispatch.step d later) {w : Nat}
    {worker : Worker} (found : d.workers[w]? = some worker) (left : worker.pc.inLoop = false) :
    ∃ moved, later.workers[w]? = some moved ∧ moved.pc.inLoop = false :=
  reachable.invariant (fun state => ∃ moved, state.workers[w]? = some moved ∧ moved.pc.inLoop = false)
    ⟨worker, found, left⟩ fun _ ⟨_, found, left⟩ stepped => left_step stepped found left

/-! ## Each worker's run is bounded -/

end Hummingbird.Client.WorkerRun
