import Hummingbird.Client.Quorum
import Hummingbird.Transition

/-!
# One write dispatch as communicating goroutines

`quorumResponse` and `putObject` start one `quorumWorker` per primary device
and collect the workers' final responses with `getResponse`.  A worker runs
each attempt in a goroutine of its own (`qw.f`), which sends the attempt's
final response on the worker's `oneResponse` channel; for a PUT the attempt's
body is a `putReader` whose first `Read` offers the attempt's pipe writer on
the worker's `ready` channel.  Both channels, and the worker's `cancel`, are
created once per worker and shared by every attempt it launches.  The worker
selects on both, moves to the next handoff on a 5xx, and forwards a final
response on the dispatcher's unbuffered `responsec`.  For a PUT the
coordinator first waits on the start barrier until every worker holds a
writer or a response, copies the body to the writers and only then collects
responses.

The state holds every goroutine of one dispatch.  `Dispatch.step` performs
one event: a backend's move, a rendezvous on a channel, a store to shared
memory, or a timer firing; timers may fire at any moment.  `addWriter` is an
unsynchronised `append` to the shared `q.writers`: it reads the slice when
the worker has received its writer and stores the extended slice in a later
event, so two workers registering at once can lose a writer.  `responsecLog` is a history variable, not a
field of the code: the rendezvous on `responsec` in the order they happened.
-/

namespace Hummingbird.Client.QuorumDispatch

open Hummingbird.Client.Ring
open Hummingbird.Client.Http
open Hummingbird.Client.Quorum
open Hummingbird.Transition

/-- Where an attempt's `putReader` stands. -/
inductive ReaderState where
  /-- The transport has not read the body: no `100 Continue` yet. -/
  | idle
  /-- First `Read`: blocked in `select` on `p.cancel` and `p.ready <- p.w`. -/
  | offering
  /-- The worker took the writer; the pipe feeds the request body. -/
  | streaming
  /-- `<-p.cancel` fired: `Read` returned "Request was cancelled". -/
  | cancelled
deriving DecidableEq

/-- Where the final send of an attempt's goroutine stands. -/
inductive AnswerState where
  /-- `client.Do` has not returned. -/
  | pending
  /-- Blocked sending `resp` on the worker's `oneResponse`. -/
  | offering (resp : Response)
  /-- The worker received `resp`. -/
  | taken (resp : Response)
deriving DecidableEq

/-- The backend's answer to the attempt, once given. -/
def AnswerState.response? : AnswerState → Option Response
  | .pending => none
  | .offering resp => some resp
  | .taken resp => some resp

/-- One `go qw.f(qw.index, dev, oneResponse, ready, cancel)`. -/
structure Attempt where
  worker : Nat
  device : Device
  reader : ReaderState
  answer : AnswerState
deriving DecidableEq

/-- What `qw.f` sends for an attempt on `device`: that device's answer, or `ResponseStub(500, ...)`. -/
def admissible (device : Device) : Response → Bool
  | .backend origin _ _ => decide (origin = device)
  | .stub statusCode _ => decide (statusCode = 500)

/-- Where `quorumWorker.work` stands. -/
inductive WorkerPc where
  /-- In the `for dev != nil` loop: `select` on `oneResponse` and `ready`. -/
  | selecting
  /-- Still in the loop, inside `addWriter`: `append` has read `q.writers` as `snapshot`. -/
  | registering (snapshot : List Nat)
  /-- Holding a writer: `select` on `oneResponse` and `responseTimeout`. -/
  | awaitingFinal
  /-- `qw.responses <- qw.response`, a plain send on the unbuffered `responsec`. -/
  | sending (resp : Response)
  | exited
deriving DecidableEq

/-- The worker is in its `for dev != nil` loop. -/
def WorkerPc.inLoop : WorkerPc → Bool
  | .selecting => true
  | .registering _ => true
  | _ => false

/-- A `quorumWorker`, with the loop variable `dev` of its `work`. -/
structure Worker where
  pc : WorkerPc
  /-- The loop's `dev`: the device of the latest attempt. -/
  current : Device
  /-- `qw.dev`. -/
  dev : Device
  /-- `qw.writer`, as the attempt whose pipe writer it is. -/
  writer : Option Nat
  /-- `qw.response`. -/
  response : Option Response
  /-- `qw.wg.Done()` has run; only the PUT coordinator waits for it. -/
  done : Bool
deriving DecidableEq

/-- Where the goroutine of `putObject` or `quorumResponse` stands. -/
inductive Coordinator where
  /-- `workerGroup.Wait()` in `putQuorumer.start`. -/
  | waitingWorkers
  /-- `common.Copy(src, writers...)`, then closing the writers. -/
  | copying
  /-- Inside `stdQuorumer.getResponse`. -/
  | inGetResponse (phase : Phase)
  /-- `putObject` returned its 503 before `getResponse`. -/
  | abandoned
deriving DecidableEq

/-- Every goroutine of one `quorumResponse` or `putObject` call. -/
structure Dispatch where
  /-- `putObject` (start barrier, 100-continue bodies) rather than `quorumResponse`. -/
  put : Bool
  quorumer : Quorumer
  /-- `q.writers`, as attempt numbers. -/
  writers : List Nat
  /-- What the shared iterator `more.Next()` still yields. -/
  handoffs : List Device
  workers : List Worker
  /-- Every goroutine `qw.f` launched so far, in launch order. -/
  attempts : List Attempt
  coordinator : Coordinator
  /-- History: the rendezvous on `responsec`, sender first. -/
  responsecLog : List (Nat × Response)

/-- Right after `q.start()`: one worker and one attempt per primary. -/
def Dispatch.init (placement : Placement) (put : Bool) : Dispatch where
  put := put
  quorumer := Quorumer.init placement.replicaCount placement.primaries.length
  writers := []
  handoffs := placement.handoffs
  workers := placement.primaries.map fun device => ⟨.selecting, device, device, none, none, false⟩
  attempts := placement.primaries.mapIdx fun index device => ⟨index, device, .idle, .pending⟩
  coordinator :=
    if put then .waitingWorkers
    else .inGetResponse (settleAt (Quorumer.init placement.replicaCount placement.primaries.length) 0)
  responsecLog := []

/-- What one dispatch can do next. -/
inductive Event where
  /-- The backend sends `100 Continue` and the transport calls `Read` on the body. -/
  | continue100 (attempt : Nat)
  /-- `qw.f` gets its final response and offers it on `oneResponse`. -/
  | answer (attempt : Nat) (resp : Response)
  /-- The retry loop's select receives from `oneResponse`. -/
  | takeResponse (worker attempt : Nat)
  /-- The retry loop's select receives from `ready`, and `addWriter` reads `q.writers`. -/
  | takeWriter (worker attempt : Nat)
  /-- `addWriter` stores the extended slice; the loop ends and `wg.Done()` runs. -/
  | storeWriter (worker : Nat)
  /-- The tail select receives from `oneResponse`. -/
  | takeFinal (worker attempt : Nat)
  /-- The tail's `responseTimeout` fires: the writer is closed. -/
  | finalTimeout (worker : Nat)
  /-- A worker's send on `responsec` meets `getResponse`'s receive. -/
  | deliver (worker : Nat)
  /-- `getResponseTimeout` fires in the main select. -/
  | deadline
  /-- `finalizeTimeout` fires in the grace loop. -/
  | graceTimeout
  /-- `workerGroup.Wait()` returns and `putObject` counts writers and responses. -/
  | passBarrier
  /-- `common.Copy` ends, successfully or not. -/
  | copy (succeeded : Bool)

/-- `defer close(cancel)` at a worker's exit: its attempts' blocked `Read`s return. -/
def cancelReaders (worker : Nat) (attempts : List Attempt) : List Attempt :=
  attempts.map fun attempt =>
    if attempt.worker = worker ∧ attempt.reader = .offering then
      { attempt with reader := .cancelled }
    else attempt

/-- Worker `index` leaves `work`. -/
def exitWorker (d : Dispatch) (index : Nat) (worker : Worker) : Dispatch :=
  { d with
    workers := d.workers.set index { worker with pc := .exited }
    attempts := cancelReaders index d.attempts }

def continue100 (d : Dispatch) (index : Nat) : Option Dispatch :=
  match d.attempts[index]? with
  | some attempt =>
      if d.put ∧ attempt.reader = .idle ∧ attempt.answer = .pending then
        let reader :=
          if (d.workers[attempt.worker]?.map (·.pc)) = some .exited then .cancelled
          else .offering
        some { d with attempts := d.attempts.set index { attempt with reader := reader } }
      else none
  | none => none

def answer (d : Dispatch) (index : Nat) (resp : Response) : Option Dispatch :=
  match d.attempts[index]? with
  | some attempt =>
      if attempt.answer = .pending ∧ admissible attempt.device resp then
        some { d with attempts := d.attempts.set index { attempt with answer := .offering resp } }
      else none
  | none => none

/--
The retry loop of worker `index` has taken `resp`: a 5xx moves it to the next
handoff, an empty iterator ends `work`, any other status ends the loop with
`qw.response` set.
-/
def afterResponse (d : Dispatch) (index : Nat) (worker : Worker) (resp : Response) : Dispatch :=
  if 500 ≤ resp.statusCode then
    match d.handoffs with
    | device :: rest =>
        { d with
          handoffs := rest
          workers := d.workers.set index { worker with current := device }
          attempts := d.attempts ++ [⟨index, device, .idle, .pending⟩] }
    | [] => exitWorker d index { worker with done := true }
  else
    { d with
      workers := d.workers.set index
        { worker with pc := .sending resp, dev := worker.current, response := some resp, done := true } }

def takeResponse (d : Dispatch) (index attemptIndex : Nat) : Option Dispatch :=
  match d.workers[index]?, d.attempts[attemptIndex]? with
  | some worker, some attempt =>
      match worker.pc, attempt.answer with
      | .selecting, .offering resp =>
          if attempt.worker = index then
            some (afterResponse
              { d with attempts := d.attempts.set attemptIndex { attempt with answer := .taken resp } }
              index worker resp)
          else none
      | _, _ => none
  | _, _ => none

/-- Worker `index` receives `qw.writer` from `ready`, and `addWriter` reads `q.writers`. -/
def takeWriter (d : Dispatch) (index attemptIndex : Nat) : Option Dispatch :=
  match d.workers[index]?, d.attempts[attemptIndex]? with
  | some worker, some attempt =>
      if worker.pc = .selecting ∧ attempt.worker = index ∧ attempt.reader = .offering then
        some { d with
          workers := d.workers.set index
            { worker with pc := .registering d.writers, writer := some attemptIndex }
          attempts := d.attempts.set attemptIndex { attempt with reader := .streaming } }
      else none
  | _, _ => none

/-- `q.writers = append(snapshot, qw.writer)`, then `qw.dev = dev`, the loop's exit and `wg.Done()`. -/
def storeWriter (d : Dispatch) (index : Nat) : Option Dispatch :=
  match d.workers[index]? with
  | some worker =>
      match worker.pc with
      | .registering snapshot =>
          some { d with
            workers := d.workers.set index
              { worker with pc := .awaitingFinal, dev := worker.current, done := true }
            writers := snapshot ++ worker.writer.toList }
      | _ => none
  | none => none

def takeFinal (d : Dispatch) (index attemptIndex : Nat) : Option Dispatch :=
  match d.workers[index]?, d.attempts[attemptIndex]? with
  | some worker, some attempt =>
      match worker.pc, attempt.answer with
      | .awaitingFinal, .offering resp =>
          if attempt.worker = index then
            some { d with
              workers := d.workers.set index { worker with pc := .sending resp, response := some resp }
              attempts := d.attempts.set attemptIndex { attempt with answer := .taken resp } }
          else none
      | _, _ => none
  | _, _ => none

def finalTimeout (d : Dispatch) (index : Nat) : Option Dispatch :=
  match d.workers[index]? with
  | some worker => if worker.pc = .awaitingFinal then some (exitWorker d index worker) else none
  | none => none

def deliver (d : Dispatch) (index : Nat) : Option Dispatch :=
  match d.workers[index]?, d.coordinator with
  | some worker, .inGetResponse phase =>
      match worker.pc with
      | .sending resp =>
          (phase.receive d.quorumer resp).map fun next =>
            { exitWorker d index worker with
              quorumer := addResponse d.quorumer resp
              coordinator := .inGetResponse next
              responsecLog := d.responsecLog ++ [(index, resp)] }
      | _ => none
  | _, _ => none

def deadline (d : Dispatch) : Option Dispatch :=
  match d.coordinator with
  | .inGetResponse (.awaiting _) =>
      some { d with coordinator := .inGetResponse (.returned (.response Response.unavailable)) }
  | _ => none

def graceTimeout (d : Dispatch) : Option Dispatch :=
  match d.coordinator with
  | .inGetResponse (.grace chosen) =>
      some { d with coordinator := .inGetResponse (.returned (.response chosen)) }
  | _ => none

/-- `stdQuorumer.responseCount`: the workers holding a response. -/
def responseCount (workers : List Worker) : Nat :=
  (workers.filter fun worker => worker.response.isSome).length

/-- The start barrier opens once every worker has called `Done`. -/
def passBarrier (d : Dispatch) : Option Dispatch :=
  match d.coordinator with
  | .waitingWorkers =>
      if d.workers.all (·.done) then
        some { d with
          coordinator :=
            if d.writers.length + responseCount d.workers < d.quorumer.q then .abandoned
            else .copying }
      else none
  | _ => none

/-- `common.Copy` ends; a failed copy to at least one writer abandons the PUT. -/
def copy (d : Dispatch) (succeeded : Bool) : Option Dispatch :=
  match d.coordinator with
  | .copying =>
      some { d with
        coordinator :=
          if succeeded || d.writers.isEmpty then .inGetResponse (settleAt d.quorumer 0)
          else .abandoned }
  | _ => none

def Dispatch.step (d : Dispatch) : Event → Option Dispatch
  | .continue100 attempt => continue100 d attempt
  | .answer attempt resp => answer d attempt resp
  | .takeResponse worker attempt => takeResponse d worker attempt
  | .takeWriter worker attempt => takeWriter d worker attempt
  | .storeWriter worker => storeWriter d worker
  | .takeFinal worker attempt => takeFinal d worker attempt
  | .finalTimeout worker => finalTimeout d worker
  | .deliver worker => deliver d worker
  | .deadline => deadline d
  | .graceTimeout => graceTimeout d
  | .passBarrier => passBarrier d
  | .copy succeeded => copy d succeeded

/-! ## What each event requires and changes -/

theorem continue100_eq_some {d next : Dispatch} {index : Nat}
    (stepped : continue100 d index = some next) :
    ∃ attempt reader, d.attempts[index]? = some attempt ∧ d.put = true ∧
      attempt.reader = .idle ∧ attempt.answer = .pending ∧
      next = { d with attempts := d.attempts.set index { attempt with reader := reader } } := by
  unfold continue100 at stepped
  split at stepped
  · split at stepped
    · rename_i found conditions
      cases stepped
      exact ⟨_, _, found, conditions.1, conditions.2.1, conditions.2.2, rfl⟩
    · cases stepped
  · cases stepped

theorem answer_eq_some {d next : Dispatch} {index : Nat} {resp : Response}
    (stepped : answer d index resp = some next) :
    ∃ attempt, d.attempts[index]? = some attempt ∧ attempt.answer = .pending ∧
      admissible attempt.device resp = true ∧
      next = { d with attempts := d.attempts.set index { attempt with answer := .offering resp } } := by
  unfold answer at stepped
  split at stepped
  · split at stepped
    · rename_i found conditions
      cases stepped
      exact ⟨_, found, conditions.1, conditions.2, rfl⟩
    · cases stepped
  · cases stepped

theorem takeResponse_eq_some {d next : Dispatch} {index attemptIndex : Nat}
    (stepped : takeResponse d index attemptIndex = some next) :
    ∃ worker attempt resp, d.workers[index]? = some worker ∧ worker.pc = .selecting ∧
      d.attempts[attemptIndex]? = some attempt ∧ attempt.worker = index ∧
      attempt.answer = .offering resp ∧
      next = afterResponse
        { d with attempts := d.attempts.set attemptIndex { attempt with answer := .taken resp } }
        index worker resp := by
  unfold takeResponse at stepped
  split at stepped
  · split at stepped
    · split at stepped
      · cases stepped
        exact ⟨_, _, _, ‹_›, ‹_›, ‹_›, ‹_›, ‹_›, rfl⟩
      · cases stepped
    · cases stepped
  · cases stepped

theorem takeWriter_eq_some {d next : Dispatch} {index attemptIndex : Nat}
    (stepped : takeWriter d index attemptIndex = some next) :
    ∃ worker attempt, d.workers[index]? = some worker ∧ worker.pc = .selecting ∧
      d.attempts[attemptIndex]? = some attempt ∧ attempt.worker = index ∧
      attempt.reader = .offering ∧
      next = { d with
        workers := d.workers.set index
          { worker with pc := .registering d.writers, writer := some attemptIndex }
        attempts := d.attempts.set attemptIndex { attempt with reader := .streaming } } := by
  unfold takeWriter at stepped
  split at stepped
  · split at stepped
    · rename_i foundWorker foundAttempt conditions
      cases stepped
      exact ⟨_, _, foundWorker, conditions.1, foundAttempt, conditions.2.1, conditions.2.2, rfl⟩
    · cases stepped
  · cases stepped

theorem storeWriter_eq_some {d next : Dispatch} {index : Nat}
    (stepped : storeWriter d index = some next) :
    ∃ worker snapshot, d.workers[index]? = some worker ∧ worker.pc = .registering snapshot ∧
      next = { d with
        workers := d.workers.set index
          { worker with pc := .awaitingFinal, dev := worker.current, done := true }
        writers := snapshot ++ worker.writer.toList } := by
  unfold storeWriter at stepped
  split at stepped
  · split at stepped
    · cases stepped
      exact ⟨_, _, ‹_›, ‹_›, rfl⟩
    · cases stepped
  · cases stepped

theorem takeFinal_eq_some {d next : Dispatch} {index attemptIndex : Nat}
    (stepped : takeFinal d index attemptIndex = some next) :
    ∃ worker attempt resp, d.workers[index]? = some worker ∧ worker.pc = .awaitingFinal ∧
      d.attempts[attemptIndex]? = some attempt ∧ attempt.worker = index ∧
      attempt.answer = .offering resp ∧
      next = { d with
        workers := d.workers.set index { worker with pc := .sending resp, response := some resp }
        attempts := d.attempts.set attemptIndex { attempt with answer := .taken resp } } := by
  unfold takeFinal at stepped
  split at stepped
  · split at stepped
    · split at stepped
      · cases stepped
        exact ⟨_, _, _, ‹_›, ‹_›, ‹_›, ‹_›, ‹_›, rfl⟩
      · cases stepped
    · cases stepped
  · cases stepped

theorem finalTimeout_eq_some {d next : Dispatch} {index : Nat}
    (stepped : finalTimeout d index = some next) :
    ∃ worker, d.workers[index]? = some worker ∧ worker.pc = .awaitingFinal ∧
      next = exitWorker d index worker := by
  unfold finalTimeout at stepped
  split at stepped
  · split at stepped
    · cases stepped
      exact ⟨_, ‹_›, ‹_›, rfl⟩
    · cases stepped
  · cases stepped

theorem deliver_eq_some {d next : Dispatch} {index : Nat}
    (stepped : deliver d index = some next) :
    ∃ worker resp phase phase', d.workers[index]? = some worker ∧ worker.pc = .sending resp ∧
      d.coordinator = .inGetResponse phase ∧ phase.receive d.quorumer resp = some phase' ∧
      next = { exitWorker d index worker with
        quorumer := addResponse d.quorumer resp
        coordinator := .inGetResponse phase'
        responsecLog := d.responsecLog ++ [(index, resp)] } := by
  unfold deliver at stepped
  split at stepped
  · split at stepped
    · simp only [Option.map_eq_some'] at stepped
      obtain ⟨phase', received, rfl⟩ := stepped
      exact ⟨_, _, _, _, ‹_›, ‹_›, ‹_›, received, rfl⟩
    · cases stepped
  · cases stepped

theorem deadline_eq_some {d next : Dispatch} (stepped : deadline d = some next) :
    ∃ iteration, d.coordinator = .inGetResponse (.awaiting iteration) ∧
      next = { d with coordinator := .inGetResponse (.returned (.response Response.unavailable)) } := by
  unfold deadline at stepped
  split at stepped
  · cases stepped
    exact ⟨_, ‹_›, rfl⟩
  · cases stepped

theorem graceTimeout_eq_some {d next : Dispatch} (stepped : graceTimeout d = some next) :
    ∃ chosen, d.coordinator = .inGetResponse (.grace chosen) ∧
      next = { d with coordinator := .inGetResponse (.returned (.response chosen)) } := by
  unfold graceTimeout at stepped
  split at stepped
  · cases stepped
    exact ⟨_, ‹_›, rfl⟩
  · cases stepped

theorem passBarrier_eq_some {d next : Dispatch} (stepped : passBarrier d = some next) :
    d.coordinator = .waitingWorkers ∧
      next = { d with
        coordinator :=
          if d.writers.length + responseCount d.workers < d.quorumer.q then .abandoned
          else .copying } := by
  unfold passBarrier at stepped
  split at stepped
  · split at stepped
    · cases stepped
      exact ⟨‹_›, rfl⟩
    · cases stepped
  · cases stepped

theorem copy_eq_some {d next : Dispatch} {succeeded : Bool} (stepped : copy d succeeded = some next) :
    d.coordinator = .copying ∧
      next = { d with
        coordinator :=
          if succeeded || d.writers.isEmpty then .inGetResponse (settleAt d.quorumer 0)
          else .abandoned } := by
  unfold copy at stepped
  split at stepped
  · cases stepped
    exact ⟨‹_›, rfl⟩
  · cases stepped

@[simp]
theorem afterResponse_coordinator (d : Dispatch) (index : Nat) (worker : Worker) (resp : Response) :
    (afterResponse d index worker resp).coordinator = d.coordinator := by
  unfold afterResponse
  split
  · split <;> rfl
  · rfl

theorem afterResponse_workers (d : Dispatch) (index : Nat) (worker : Worker) (resp : Response) :
    ∃ updated, (afterResponse d index worker resp).workers = d.workers.set index updated := by
  unfold afterResponse
  split
  · split
    · exact ⟨_, rfl⟩
    · exact ⟨_, rfl⟩
  · exact ⟨_, rfl⟩

/-! ## A returned dispatch strands its blocked senders -/

/-- The coordinator has returned to its caller. -/
def Coordinator.returned : Coordinator → Bool
  | .inGetResponse (.returned _) => true
  | .abandoned => true
  | _ => false

/--
Once the coordinator has returned no event moves it, and a worker blocked
sending on `responsec` stays blocked: only `getResponse` receives there.
-/
theorem step_of_returned {d next : Dispatch} {event : Event}
    (returned : d.coordinator.returned = true) (stepped : d.step event = some next) :
    next.coordinator = d.coordinator ∧
      ∀ (index : Nat) (resp : Response), d.workers[index]?.map (·.pc) = some (.sending resp) →
        next.workers[index]?.map (·.pc) = some (.sending resp) := by
  have kept : ∀ {index : Nat} {worker : Worker} (updated : Worker),
      d.workers[index]? = some worker → worker.pc.inLoop ∨ worker.pc = .awaitingFinal →
      ∀ (other : Nat) (resp : Response), d.workers[other]?.map (·.pc) = some (.sending resp) →
        (d.workers.set index updated)[other]?.map (·.pc) = some (.sending resp) := by
    intro index worker updated found active other resp sending
    rw [List.getElem?_set]
    split
    · subst_vars
      have notSending : ∀ resp, worker.pc ≠ .sending resp := by
        rintro _ same
        rcases active with active | active <;> simp [same, WorkerPc.inLoop] at active
      simp [found, notSending] at sending
    · exact sending
  cases event with
  | continue100 attempt =>
      obtain ⟨_, _, _, _, _, _, rfl⟩ := continue100_eq_some stepped
      exact ⟨rfl, fun _ _ sending => sending⟩
  | answer attempt resp =>
      obtain ⟨_, _, _, _, rfl⟩ := answer_eq_some stepped
      exact ⟨rfl, fun _ _ sending => sending⟩
  | takeResponse index attempt =>
      obtain ⟨worker, _, resp, found, selecting, -, -, -, rfl⟩ := takeResponse_eq_some stepped
      obtain ⟨updated, workers⟩ := afterResponse_workers
        { d with attempts := d.attempts.set attempt { ‹Attempt› with answer := .taken resp } }
        index worker resp
      refine ⟨by simp, fun other resp' sending => ?_⟩
      rw [workers]
      exact kept updated found (.inl (by simp [selecting, WorkerPc.inLoop])) other resp' sending
  | takeWriter index attempt =>
      obtain ⟨worker, _, found, selecting, -, -, -, rfl⟩ := takeWriter_eq_some stepped
      exact ⟨rfl, kept _ found (.inl (by simp [selecting, WorkerPc.inLoop]))⟩
  | storeWriter index =>
      obtain ⟨worker, _, found, registering, rfl⟩ := storeWriter_eq_some stepped
      exact ⟨rfl, kept _ found (.inl (by simp [registering, WorkerPc.inLoop]))⟩
  | takeFinal index attempt =>
      obtain ⟨worker, _, _, found, awaiting, -, -, -, -, rfl⟩ := takeFinal_eq_some stepped
      exact ⟨rfl, kept _ found (.inr awaiting)⟩
  | finalTimeout index =>
      obtain ⟨worker, found, awaiting, rfl⟩ := finalTimeout_eq_some stepped
      exact ⟨rfl, kept _ found (.inr awaiting)⟩
  | deliver index =>
      obtain ⟨_, _, phase, _, _, _, coordinator, received, -⟩ := deliver_eq_some stepped
      rw [coordinator] at returned
      cases phase with
      | returned => simp [Phase.receive] at received
      | _ => simp [Coordinator.returned] at returned
  | deadline =>
      obtain ⟨_, coordinator, -⟩ := deadline_eq_some stepped
      simp [coordinator, Coordinator.returned] at returned
  | graceTimeout =>
      obtain ⟨_, coordinator, -⟩ := graceTimeout_eq_some stepped
      simp [coordinator, Coordinator.returned] at returned
  | passBarrier =>
      simp [(passBarrier_eq_some stepped).1, Coordinator.returned] at returned
  | copy succeeded =>
      simp [(copy_eq_some stepped).1, Coordinator.returned] at returned

/-- After the coordinator returns, a worker blocked on `responsec` is blocked in every later state. -/
theorem sender_stranded {d later : Dispatch} (reachable : Reachable Dispatch.step d later)
    (returned : d.coordinator.returned = true) {index : Nat} {resp : Response}
    (sending : d.workers[index]?.map (·.pc) = some (.sending resp)) :
    later.coordinator = d.coordinator ∧ later.workers[index]?.map (·.pc) = some (.sending resp) :=
  reachable.invariant
    (fun state => state.coordinator = d.coordinator ∧
      state.workers[index]?.map (·.pc) = some (.sending resp))
    ⟨rfl, sending⟩ fun _ kept stepped =>
    have next := step_of_returned (kept.1 ▸ returned) stepped
    ⟨next.1.trans kept.1, next.2 _ _ kept.2⟩

/--
Three primaries, two `201 Created` answers within the grace window and the
third after it: `quorumResponse` returns, and the third worker's send on
`responsec` never completes.
-/
theorem quorumResponse_straggler_blocked_on_responsec :
    let primaries : List Device :=
      [⟨"10.0.0.1", 6000, "sda"⟩, ⟨"10.0.0.2", 6000, "sda"⟩, ⟨"10.0.0.3", 6000, "sda"⟩]
    let placement : Placement := ⟨3, primaries, [], rfl, by decide, by decide⟩
    ∃ d, Reachable Dispatch.step (Dispatch.init placement false) d ∧ d.coordinator.returned = true ∧
      ∀ later, Reachable Dispatch.step d later →
        later.workers[2]?.map (·.pc) =
          some (.sending (.backend ⟨"10.0.0.3", 6000, "sda"⟩ 201 Header.empty)) := by
  intro primaries placement
  obtain ⟨d, reachable, observed⟩ := Reachable.of_run_map Dispatch.step (Dispatch.init placement false)
    [.answer 0 (.backend ⟨"10.0.0.1", 6000, "sda"⟩ 201 Header.empty),
      .answer 1 (.backend ⟨"10.0.0.2", 6000, "sda"⟩ 201 Header.empty),
      .takeResponse 0 0, .takeResponse 1 1, .deliver 0, .deliver 1, .graceTimeout,
      .answer 2 (.backend ⟨"10.0.0.3", 6000, "sda"⟩ 201 Header.empty), .takeResponse 2 2]
    (fun d => (d.coordinator.returned, d.workers[2]?.map (·.pc)))
    (true, some (.sending (.backend ⟨"10.0.0.3", 6000, "sda"⟩ 201 Header.empty)))
    (by decide)
  simp only [Prod.mk.injEq] at observed
  exact ⟨d, reachable, observed.1, fun later later_reachable =>
    (sender_stranded later_reachable observed.1 observed.2).2⟩

/--
A PUT attempt on the primary gets its `100 Continue`, then a 503: the worker
moves to the handoff, and then takes the writer the primary's attempt left on
the shared `ready` channel, recording the handoff as `qw.dev`.
-/
theorem putWorker_registers_stale_writer :
    let primary : Device := ⟨"10.0.0.1", 6000, "sda"⟩
    let handoff : Device := ⟨"10.0.0.2", 6000, "sda"⟩
    let placement : Placement := ⟨1, [primary], [handoff], rfl, by decide, by decide⟩
    ∃ d, Reachable Dispatch.step (Dispatch.init placement true) d ∧ d.writers = [0] ∧
      d.workers[0]?.map (fun worker => (worker.writer, worker.dev)) = some (some 0, handoff) ∧
      d.attempts[0]?.map (·.device) = some primary := by
  intro primary handoff placement
  obtain ⟨d, reachable, observed⟩ := Reachable.of_run_map Dispatch.step (Dispatch.init placement true)
    [.continue100 0, .answer 0 (.backend ⟨"10.0.0.1", 6000, "sda"⟩ 503 Header.empty),
      .takeResponse 0 0, .takeWriter 0 0, .storeWriter 0]
    (fun d => (d.writers, d.workers[0]?.map (fun worker => (worker.writer, worker.dev)),
      d.attempts[0]?.map (·.device)))
    ([0], some (some 0, handoff), some primary)
    (by decide)
  simp only [Prod.mk.injEq] at observed
  exact ⟨d, reachable, observed.1, observed.2.1, observed.2.2⟩

/--
A PUT to three primaries whose first backend to finish answers status 600
after taking the body: the forwarded response reaches `getResponse`, whose
scan reads `responseClassCounts[6]`.
-/
theorem putObject_status_600_reads_past_class_counts :
    let primaries : List Device :=
      [⟨"10.0.0.1", 6000, "sda"⟩, ⟨"10.0.0.2", 6000, "sda"⟩, ⟨"10.0.0.3", 6000, "sda"⟩]
    let placement : Placement := ⟨3, primaries, [], rfl, by decide, by decide⟩
    ∃ d, Reachable Dispatch.step (Dispatch.init placement true) d ∧
      d.coordinator = .inGetResponse (.returned (.indexOutOfRange 6)) :=
  Reachable.of_run_map Dispatch.step _
    [.continue100 0, .takeWriter 0 0, .storeWriter 0, .continue100 1, .takeWriter 1 1, .storeWriter 1,
      .continue100 2, .takeWriter 2 2, .storeWriter 2, .passBarrier, .copy true,
      .answer 0 (.backend ⟨"10.0.0.1", 6000, "sda"⟩ 600 Header.empty), .takeFinal 0 0, .deliver 0]
    (·.coordinator) _ (by decide)

end Hummingbird.Client.QuorumDispatch
