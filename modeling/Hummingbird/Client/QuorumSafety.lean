import Hummingbird.Client.QuorumDispatch

/-!
# A backend response returned by a dispatch speaks for a quorum of devices

Whatever the order in which backends answer, the handoffs the workers move
to and the interleaving of the goroutines, when `quorumResponse` or
`putObject` returns a response of a backend, at least `q = ⌈R/2⌉` distinct
workers sent `getResponse` an answer of the same class, each its own
attempt's device's.  The devices are distinct when the ring's primaries are:
the ring promises distinct handoffs outside the primaries, but a ring with
fewer devices than replicas names one device twice, and its two workers then
count one device's answer twice.

The argument is an invariant of every reachable dispatch state.  The quorum
scan only stops on a class whose counter holds `q`, and the counters tally the
collected responses.  Each collected response is the taken answer of an attempt
of the worker that sent it, and each worker sends once.  The attempts' devices
are the primaries followed by the handoffs drawn so far, each popped once from
the shared iterator.  An attempt's answer is its own device's, or the
synthetic 500 of a failed request, which is never counted.
-/

namespace Hummingbird.Client.QuorumSafety

open Hummingbird.Client.Ring
open Hummingbird.Client.Http
open Hummingbird.Client.Quorum
open Hummingbird.Client.QuorumDispatch
open Hummingbird.Transition

/-! ## Attempts -/

/-- Some attempt of `worker` answered `resp`, and the worker took that answer. -/
def TookFrom (attempts : List Attempt) (worker : Nat) (resp : Response) : Prop :=
  ∃ attempt ∈ attempts, attempt.worker = worker ∧ attempt.answer = .taken resp

/-- Every answer given so far is one `qw.f` can send for its attempt's device. -/
def AllAdmissible (attempts : List Attempt) : Prop :=
  ∀ attempt ∈ attempts, ∀ resp, attempt.answer.response? = some resp →
    admissible attempt.device resp = true

theorem origin_eq_of_admissible {device origin : Device} {statusCode : Nat} {header : Header}
    (admitted : admissible device (.backend origin statusCode header) = true) : origin = device := by
  simpa [admissible] using admitted

theorem statusCode_eq_of_admissible {device : Device} {statusCode : Nat} {body : String}
    (admitted : admissible device (.stub statusCode body) = true) : statusCode = 500 := by
  simpa [admissible] using admitted

theorem map_set_of_eq {α β : Type} {f : α → β} {items : List α} {index : Nat} {item updated : α}
    (found : items[index]? = some item) (same : f updated = f item) :
    (items.set index updated).map f = items.map f := by
  apply List.ext_getElem?
  intro other
  simp only [List.getElem?_map, List.getElem?_set]
  split
  · subst_vars
    simp [found, same, (List.getElem?_eq_some_iff.mp found).1]
  · rfl

theorem TookFrom.set {attempts : List Attempt} {index : Nat} {attempt updated : Attempt}
    (found : attempts[index]? = some attempt)
    (keeps : ∀ resp, attempt.answer = .taken resp →
      updated.worker = attempt.worker ∧ updated.answer = .taken resp)
    {worker : Nat} {resp : Response} (took : TookFrom attempts worker resp) :
    TookFrom (attempts.set index updated) worker resp := by
  obtain ⟨witness, mem, owner, taken⟩ := took
  obtain ⟨position, at_position⟩ := List.mem_iff_getElem?.mp mem
  by_cases same : index = position
  · subst same
    obtain rfl : witness = attempt := Option.some.inj (at_position.symm.trans found)
    obtain ⟨sameWorker, sameAnswer⟩ := keeps resp taken
    refine ⟨updated, List.mem_iff_getElem?.mpr ⟨index, ?_⟩, sameWorker.trans owner, sameAnswer⟩
    exact List.getElem?_set_self (List.getElem?_eq_some_iff.mp found).1
  · exact ⟨witness, List.mem_iff_getElem?.mpr ⟨position, by rw [List.getElem?_set_ne same, at_position]⟩,
      owner, taken⟩

theorem TookFrom.append {attempts : List Attempt} {worker : Nat} {resp : Response}
    (took : TookFrom attempts worker resp) (more : List Attempt) :
    TookFrom (attempts ++ more) worker resp :=
  let ⟨attempt, mem, owner, taken⟩ := took
  ⟨attempt, List.mem_append_left _ mem, owner, taken⟩

theorem TookFrom.cancelReaders {attempts : List Attempt} {worker : Nat} {resp : Response}
    (took : TookFrom attempts worker resp) (exiting : Nat) :
    TookFrom (QuorumDispatch.cancelReaders exiting attempts) worker resp := by
  obtain ⟨attempt, mem, owner, taken⟩ := took
  refine ⟨_, List.mem_map_of_mem _ mem, ?_, ?_⟩ <;> split <;> assumption

theorem tookFrom_set_taken {attempts : List Attempt} {index : Nat} {attempt : Attempt}
    (found : attempts[index]? = some attempt) (resp : Response) :
    TookFrom (attempts.set index { attempt with answer := .taken resp }) attempt.worker resp :=
  ⟨_, List.mem_iff_getElem?.mpr ⟨index, List.getElem?_set_self (List.getElem?_eq_some_iff.mp found).1⟩,
    rfl, rfl⟩

theorem AllAdmissible.set {attempts : List Attempt} (all : AllAdmissible attempts) {index : Nat}
    {updated : Attempt}
    (admitted : ∀ resp, updated.answer.response? = some resp → admissible updated.device resp = true) :
    AllAdmissible (attempts.set index updated) := by
  intro attempt mem
  rcases List.mem_or_eq_of_mem_set mem with mem | rfl
  · exact all attempt mem
  · exact admitted

theorem AllAdmissible.cancelReaders {attempts : List Attempt} (all : AllAdmissible attempts)
    (exiting : Nat) : AllAdmissible (QuorumDispatch.cancelReaders exiting attempts) := by
  intro attempt mem
  obtain ⟨original, kept, rfl⟩ := List.mem_map.mp mem
  split
  · exact all original kept
  · exact all original kept

@[simp]
theorem map_device_cancelReaders (exiting : Nat) (attempts : List Attempt) :
    (QuorumDispatch.cancelReaders exiting attempts).map (·.device) = attempts.map (·.device) := by
  simp only [QuorumDispatch.cancelReaders, List.map_map]
  congr 1
  funext attempt
  simp only [Function.comp_apply]
  split <;> rfl

/-! ## The invariant -/

/-- The response `getResponse` holds as its choice: in the grace loop, or returned. -/
def chosen? : Coordinator → Option Response
  | .inGetResponse (.grace chosen) => some chosen
  | .inGetResponse (.returned (.response chosen)) => some chosen
  | _ => none

theorem chosen?_inGetResponse {phase : Phase} {resp : Response} :
    chosen? (.inGetResponse phase) = some resp ↔
      phase = .grace resp ∨ phase = .returned (.response resp) := by
  rcases phase with _ | _ | (_ | _) <;> simp [chosen?, eq_comm]

/-- `resp` is the synthetic 503, or `q` of the collected responses count toward its class. -/
def Backed (quorumer : Quorumer) (resp : Response) : Prop :=
  resp = Response.unavailable ∨ quorumer.q ≤ tally quorumer.responses (resp.statusCode / 100)

/-- Collecting one more response keeps a choice backed. -/
theorem Backed.addResponse {quorumer : Quorumer} {resp : Response} (backed : Backed quorumer resp)
    (more : Response) : Backed (Quorum.addResponse quorumer more) resp := by
  rcases backed with unavailable | reached
  · exact .inl unavailable
  · right
    rw [addResponse_q, addResponse_responses]
    exact le_trans reached (tally_le_append _ _ _)

/-- The worker at `index` exists and is in `work`'s final send. -/
def SendsAt (workers : List Worker) (index : Nat) (resp : Response) : Prop :=
  ∃ worker, workers[index]? = some worker ∧ worker.pc = .sending resp

section Invariant

variable (placement : Placement)

/-- What holds of every reachable state of a dispatch on `placement`. -/
structure Safe (d : Dispatch) : Prop where
  q : d.quorumer.q = quorumSize placement.replicaCount
  tallied : Tallied d.quorumer
  collected : d.quorumer.responses = d.responsecLog.map Prod.snd
  chosen : ∀ resp, chosen? d.coordinator = some resp → Backed d.quorumer resp
  devices : d.attempts.map (·.device) ++ d.handoffs = placement.primaries ++ placement.handoffs
  answers : AllAdmissible d.attempts
  senders : (d.responsecLog.map Prod.fst).Nodup
  senderExited : ∀ entry ∈ d.responsecLog, d.workers[entry.1]?.map (·.pc) = some .exited
  logged : ∀ entry ∈ d.responsecLog, TookFrom d.attempts entry.1 entry.2
  sending : ∀ index resp, SendsAt d.workers index resp → TookFrom d.attempts index resp

variable {placement}

theorem safe_init (put : Bool) : Safe placement (Dispatch.init placement put) where
  q := rfl
  tallied := tallied_init _ _
  collected := rfl
  chosen := by
    intro resp chosen
    cases put
    · exact settle_chosen_tally (tallied_init _ _)
        (chosen?_inGetResponse.mp (by simpa [Dispatch.init] using chosen))
    · simp [Dispatch.init, chosen?] at chosen
  devices := by
    have primaries : (Dispatch.init placement put).attempts.map (·.device) = placement.primaries := by
      apply List.ext_getElem?
      intro index
      simp [Dispatch.init, Function.comp_def]
    rw [primaries]
    rfl
  answers := by
    intro attempt mem resp answered
    obtain ⟨index, _, rfl⟩ := List.mem_mapIdx.mp mem
    simp [AnswerState.response?] at answered
  senders := List.nodup_nil
  senderExited := by simp [Dispatch.init]
  logged := by simp [Dispatch.init]
  sending := by
    rintro index resp ⟨worker, found, sends⟩
    simp only [Dispatch.init, List.getElem?_map, Option.map_eq_some'] at found
    obtain ⟨_, _, rfl⟩ := found
    cases sends

section Step

variable {d : Dispatch} (safe : Safe placement d)
include safe

theorem Safe.not_logged {index : Nat} {resp : Response} (sends : SendsAt d.workers index resp) :
    index ∉ d.responsecLog.map Prod.fst := by
  obtain ⟨worker, found, pc⟩ := sends
  intro mem
  obtain ⟨entry, logged, rfl⟩ := List.mem_map.mp mem
  have exited := safe.senderExited entry logged
  simp [found, pc] at exited

theorem Safe.setAttempt {index : Nat} {attempt : Attempt} (updated : Attempt)
    (found : d.attempts[index]? = some attempt) (device : updated.device = attempt.device)
    (keeps : ∀ resp, attempt.answer = .taken resp →
      updated.worker = attempt.worker ∧ updated.answer = .taken resp)
    (admitted : ∀ resp, updated.answer.response? = some resp →
      QuorumDispatch.admissible updated.device resp = true) :
    Safe placement { d with attempts := d.attempts.set index updated } where
  q := safe.q
  tallied := safe.tallied
  collected := safe.collected
  chosen := safe.chosen
  devices := by rw [map_set_of_eq found device]; exact safe.devices
  answers := safe.answers.set admitted
  senders := safe.senders
  senderExited := safe.senderExited
  logged := fun entry mem => (safe.logged entry mem).set found keeps
  sending := fun index resp sends => (safe.sending index resp sends).set found keeps

theorem Safe.takeAnswer {index : Nat} {attempt : Attempt} {resp : Response}
    (found : d.attempts[index]? = some attempt) (offering : attempt.answer = .offering resp) :
    Safe placement
      { d with attempts := d.attempts.set index { attempt with answer := .taken resp } } :=
  safe.setAttempt _ found rfl (fun _ taken => by simp [offering] at taken) fun answered response =>
    safe.answers attempt (List.mem_iff_getElem?.mpr ⟨_, found⟩) answered (by
      simpa [AnswerState.response?, offering] using response)

theorem Safe.setWorker {index : Nat} {worker : Worker} (updated : Worker)
    (found : d.workers[index]? = some worker) (active : worker.pc ≠ .exited)
    (took : ∀ resp, updated.pc = .sending resp → TookFrom d.attempts index resp) :
    Safe placement { d with workers := d.workers.set index updated } where
  q := safe.q
  tallied := safe.tallied
  collected := safe.collected
  chosen := safe.chosen
  devices := safe.devices
  answers := safe.answers
  senders := safe.senders
  senderExited := by
    intro entry mem
    have exited := safe.senderExited entry mem
    rw [List.getElem?_set_ne]
    · exact exited
    · rintro rfl
      simp [found, active] at exited
  logged := safe.logged
  sending := by
    rintro other resp ⟨moved, found', pc⟩
    rw [List.getElem?_set] at found'
    split at found'
    · subst_vars
      simp only [(List.getElem?_eq_some_iff.mp found).1, if_true, Option.some.injEq] at found'
      exact took resp (found' ▸ pc)
    · exact safe.sending other resp ⟨moved, found', pc⟩

theorem Safe.exitWorker {index : Nat} {worker : Worker} (updated : Worker)
    (found : d.workers[index]? = some worker) (active : worker.pc ≠ .exited) :
    Safe placement (QuorumDispatch.exitWorker d index updated) := by
  have moved := safe.setWorker { updated with pc := .exited } found active fun _ pc => by cases pc
  exact
    { moved with
      devices := by simpa [QuorumDispatch.exitWorker] using safe.devices
      answers := safe.answers.cancelReaders index
      logged := fun entry mem => (safe.logged entry mem).cancelReaders index
      sending := fun other resp sends => (moved.sending other resp sends).cancelReaders index }

theorem Safe.afterResponse {index : Nat} {worker : Worker} {resp : Response}
    (found : d.workers[index]? = some worker) (selecting : worker.pc = .selecting)
    (took : TookFrom d.attempts index resp) :
    Safe placement (QuorumDispatch.afterResponse d index worker resp) := by
  have active : worker.pc ≠ .exited := by simp [selecting]
  unfold QuorumDispatch.afterResponse
  split
  · split
    · rename_i device rest handoffs
      have moved := safe.setWorker { worker with current := device } found active
        fun _ pc => by simp [selecting] at pc
      exact
        { moved with
          devices := by simpa [handoffs] using safe.devices
          answers := by
            intro attempt mem
            rcases List.mem_append.mp mem with mem | mem
            · exact safe.answers attempt mem
            · simp only [List.mem_singleton] at mem
              subst mem
              simp [AnswerState.response?]
          logged := fun entry mem => (safe.logged entry mem).append _
          sending := fun other resp sends => (moved.sending other resp sends).append _ }
    · exact safe.exitWorker _ found active
  · exact safe.setWorker _ found active fun _ pc => by cases pc; exact took

theorem Safe.setCoordinator {coordinator : Coordinator}
    (sound : ∀ resp, chosen? coordinator = some resp → Backed d.quorumer resp) :
    Safe placement { d with coordinator := coordinator } :=
  { safe with chosen := sound }

/-- `getResponse` receives `resp` from the worker at `index`, which then exits. -/
theorem Safe.deliver {index : Nat} {worker : Worker} {resp : Response} {phase next : Phase}
    (found : d.workers[index]? = some worker) (sends : worker.pc = .sending resp)
    (coordinator : d.coordinator = .inGetResponse phase)
    (received : phase.receive d.quorumer resp = some next) :
    Safe placement
      { QuorumDispatch.exitWorker d index worker with
        quorumer := addResponse d.quorumer resp
        coordinator := .inGetResponse next
        responsecLog := d.responsecLog ++ [(index, resp)] } := by
  have exited := safe.exitWorker worker found (by simp [sends])
  have took := (safe.sending index resp ⟨worker, found, sends⟩).cancelReaders index
  refine
    { exited with
      q := by simp [safe.q]
      tallied := safe.tallied.addResponse resp
      collected := by simp [safe.collected]
      chosen := ?_
      senders := ?_
      senderExited := ?_
      logged := ?_ }
  · intro chosen holds
    cases phase with
    | awaiting iteration =>
        simp only [Phase.receive, Option.some.injEq] at received
        subst received
        exact settle_chosen_tally (safe.tallied.addResponse resp) (chosen?_inGetResponse.mp holds)
    | grace held =>
        simp only [Phase.receive, Option.some.injEq] at received
        subst received
        have same : chosen = held := by split at holds <;> simpa [chosen?] using holds.symm
        subst same
        exact (safe.chosen chosen (by simp [chosen?, coordinator])).addResponse resp
    | returned _ => simp [Phase.receive] at received
  · simpa [List.nodup_append] using And.intro safe.senders (safe.not_logged ⟨worker, found, sends⟩)
  · intro entry mem
    rcases List.mem_append.mp mem with mem | mem
    · exact exited.senderExited entry mem
    · simp only [List.mem_singleton] at mem
      subst mem
      simp [QuorumDispatch.exitWorker, (List.getElem?_eq_some_iff.mp found).1]
  · intro entry mem
    rcases List.mem_append.mp mem with mem | mem
    · exact exited.logged entry mem
    · simp only [List.mem_singleton] at mem
      subst mem
      exact took

end Step

/-- Every event keeps the invariant. -/
theorem Safe.step {d next : Dispatch} {event : Event} (safe : Safe placement d)
    (stepped : d.step event = some next) : Safe placement next := by
  cases event with
  | continue100 index =>
      obtain ⟨attempt, reader, found, -, -, pending, rfl⟩ := continue100_eq_some stepped
      exact safe.setAttempt _ found rfl (fun _ taken => ⟨rfl, taken⟩)
        (safe.answers attempt (List.mem_iff_getElem?.mpr ⟨_, found⟩))
  | answer index resp =>
      obtain ⟨attempt, found, pending, admitted, rfl⟩ := answer_eq_some stepped
      exact safe.setAttempt _ found rfl (fun _ taken => by simp [pending] at taken)
        (fun _ answered => by simp_all [AnswerState.response?])
  | takeResponse index attemptIndex =>
      obtain ⟨worker, attempt, resp, found, selecting, foundAttempt, owner, offering, rfl⟩ :=
        takeResponse_eq_some stepped
      exact (safe.takeAnswer foundAttempt offering).afterResponse found selecting
        (owner ▸ tookFrom_set_taken foundAttempt resp)
  | takeWriter index attemptIndex =>
      obtain ⟨worker, attempt, found, selecting, foundAttempt, -, -, rfl⟩ :=
        takeWriter_eq_some stepped
      have streaming := safe.setAttempt { attempt with reader := .streaming } foundAttempt rfl
        (fun _ taken => ⟨rfl, taken⟩)
        (safe.answers attempt (List.mem_iff_getElem?.mpr ⟨_, foundAttempt⟩))
      exact streaming.setWorker _ found (by simp [selecting]) fun _ pc => by cases pc
  | storeWriter index =>
      obtain ⟨worker, snapshot, found, registering, rfl⟩ := storeWriter_eq_some stepped
      have moved := safe.setWorker { worker with pc := .awaitingFinal, dev := worker.current, done := true }
        found (by simp [registering]) fun _ pc => by cases pc
      exact { moved with }
  | takeFinal index attemptIndex =>
      obtain ⟨worker, attempt, resp, found, awaiting, foundAttempt, owner, offering, rfl⟩ :=
        takeFinal_eq_some stepped
      have taken := safe.takeAnswer foundAttempt offering
      exact taken.setWorker _ found (by simp [awaiting])
        fun _ pc => by cases pc; exact owner ▸ tookFrom_set_taken foundAttempt resp
  | finalTimeout index =>
      obtain ⟨worker, found, awaiting, rfl⟩ := finalTimeout_eq_some stepped
      exact safe.exitWorker worker found (by simp [awaiting])
  | deliver index =>
      obtain ⟨worker, resp, phase, next, found, sends, coordinator, received, rfl⟩ :=
        deliver_eq_some stepped
      exact safe.deliver found sends coordinator received
  | deadline =>
      obtain ⟨_, -, rfl⟩ := deadline_eq_some stepped
      exact safe.setCoordinator fun _ chosen => .inl (by simpa [chosen?] using chosen.symm)
  | graceTimeout =>
      obtain ⟨held, coordinator, rfl⟩ := graceTimeout_eq_some stepped
      exact safe.setCoordinator fun resp chosen =>
        safe.chosen resp (by simpa [chosen?, coordinator] using chosen)
  | passBarrier =>
      obtain ⟨-, rfl⟩ := passBarrier_eq_some stepped
      exact safe.setCoordinator fun _ chosen => by split at chosen <;> simp [chosen?] at chosen
  | copy succeeded =>
      obtain ⟨-, rfl⟩ := copy_eq_some stepped
      refine safe.setCoordinator fun resp chosen => ?_
      split at chosen
      · exact settle_chosen_tally safe.tallied (chosen?_inGetResponse.mp chosen)
      · simp [chosen?] at chosen

/-- The invariant holds in every state a dispatch can reach. -/
theorem Safe.reachable {put : Bool} {d : Dispatch}
    (reachable : Reachable Dispatch.step (Dispatch.init placement put) d) : Safe placement d :=
  reachable.invariant (Safe placement) (safe_init put) fun _ safe stepped => safe.step stepped

theorem Safe.logged_origin {d : Dispatch} (safe : Safe placement d) {entry : Nat × Response}
    (mem : entry ∈ d.responsecLog) (counted : entry.2.statusCode < 500) :
    ∃ attempt ∈ d.attempts, attempt.worker = entry.1 ∧ attempt.answer = .taken entry.2 ∧
      entry.2.origin? = some attempt.device := by
  obtain ⟨attempt, attemptMem, owner, taken⟩ := safe.logged entry mem
  have admitted := safe.answers attempt attemptMem entry.2 (by simp [taken, AnswerState.response?])
  refine ⟨attempt, attemptMem, owner, taken, ?_⟩
  cases answered : entry.2 with
  | backend origin statusCode header =>
      rw [answered] at admitted
      simp [Response.origin?, origin_eq_of_admissible admitted]
  | stub statusCode body =>
      rw [answered] at admitted counted
      simp [statusCode_eq_of_admissible admitted] at counted

end Invariant

/-! ## No device asked twice -/

/--
In every run of either dispatcher, the attempts are on the primaries, in
order, and then on the handoffs drawn so far, in the order drawn; so when the
primaries are distinct, the attempts are on distinct devices and no device is
sent the request twice.
-/
theorem attempts_on_distinct_devices {placement : Placement} {put : Bool} {d : Dispatch}
    (reachable : Reachable Dispatch.step (Dispatch.init placement put) d) :
    d.attempts.map (·.device) ++ d.handoffs = placement.primaries ++ placement.handoffs ∧
      (placement.primaries.Nodup → (d.attempts.map (·.device)).Nodup) := by
  have devices := (Safe.reachable reachable).devices
  refine ⟨devices, fun distinct => ?_⟩
  have nodup := placement.devices_nodup distinct
  rw [← devices] at nodup
  exact (List.nodup_append.mp nodup).1

/-- A PUT whose primary answers 503 moves to the handoff: two attempts, on two devices. -/
theorem attempts_on_distinct_devices_after_handoff :
    let primary : Device := ⟨"10.0.0.1", 6000, "sda"⟩
    let handoff : Device := ⟨"10.0.0.2", 6000, "sda"⟩
    let placement : Placement := ⟨1, [primary], [handoff], rfl, by decide, by decide⟩
    ∃ d, Reachable Dispatch.step (Dispatch.init placement true) d ∧
      d.attempts.map (·.device) = [primary, handoff] ∧
      (d.attempts.map (·.device) ++ d.handoffs = placement.primaries ++ placement.handoffs ∧
        (placement.primaries.Nodup → (d.attempts.map (·.device)).Nodup)) := by
  intro primary handoff placement
  obtain ⟨d, reachable, observed⟩ := Reachable.of_run_map Dispatch.step
    (Dispatch.init placement true)
    [.continue100 0, .answer 0 (.backend primary 503 Header.empty), .takeResponse 0 0]
    (·.attempts.map (·.device)) [primary, handoff] (by decide)
  exact ⟨d, reachable, observed, attempts_on_distinct_devices reachable⟩

/-! ## Each worker's answer collected once -/

/--
In every run of either dispatcher, `getResponse` counts exactly what arrived
on `responsec`, in order; no worker sends there twice; and each response sent
is the answer its worker took from one of its own attempts, one that
attempt's device could give.
-/
theorem responses_collected_once {placement : Placement} {put : Bool} {d : Dispatch}
    (reachable : Reachable Dispatch.step (Dispatch.init placement put) d) :
    d.quorumer.responses = d.responsecLog.map Prod.snd ∧ (d.responsecLog.map Prod.fst).Nodup ∧
      ∀ entry ∈ d.responsecLog, ∃ attempt ∈ d.attempts, attempt.worker = entry.1 ∧
        attempt.answer = .taken entry.2 ∧ admissible attempt.device entry.2 = true := by
  have safe := Safe.reachable reachable
  refine ⟨safe.collected, safe.senders, fun entry logged => ?_⟩
  obtain ⟨attempt, mem, owner, taken⟩ := safe.logged entry logged
  exact ⟨attempt, mem, owner, taken, safe.answers attempt mem entry.2 (by rw [taken]; rfl)⟩

/-- A GET whose one primary answers 200: one response collected, from worker 0. -/
theorem responses_collected_once_on_get :
    let primary : Device := ⟨"10.0.0.1", 6000, "sda"⟩
    let placement : Placement := ⟨1, [primary], [], rfl, by decide, by decide⟩
    ∃ d, Reachable Dispatch.step (Dispatch.init placement false) d ∧
      d.responsecLog.map Prod.fst = [0] ∧
      d.quorumer.responses = d.responsecLog.map Prod.snd ∧ (d.responsecLog.map Prod.fst).Nodup ∧
      ∀ entry ∈ d.responsecLog, ∃ attempt ∈ d.attempts, attempt.worker = entry.1 ∧
        attempt.answer = .taken entry.2 ∧ admissible attempt.device entry.2 = true := by
  intro primary placement
  obtain ⟨d, reachable, observed⟩ := Reachable.of_run_map Dispatch.step
    (Dispatch.init placement false)
    [.answer 0 (.backend primary 200 Header.empty), .takeResponse 0 0, .deliver 0]
    (·.responsecLog.map Prod.fst) [0] (by decide)
  exact ⟨d, reachable, observed, responses_collected_once reachable⟩

/-! ## A quorum of answers behind a returned response -/

/--
For every placement, both dispatchers and every run: when `getResponse` has
returned a backend response, the responses it collected hold `q = ⌈R/2⌉`
non-5xx answers of its class from distinct workers, each the answer of the
device its worker's attempt was sent to; when the primaries are distinct, so
are those devices.
-/
theorem returned_backend_answered_by_quorum_of_workers {placement : Placement} {put : Bool}
    {d : Dispatch} (reachable : Reachable Dispatch.step (Dispatch.init placement put) d)
    {origin : Device} {statusCode : Nat} {header : Header}
    (returned : d.coordinator = .inGetResponse (.returned (.response (.backend origin statusCode header)))) :
    ∃ answers : List (Nat × Response), answers.Sublist d.responsecLog ∧ (answers.map Prod.fst).Nodup ∧
      quorumSize placement.replicaCount ≤ answers.length ∧
      (placement.primaries.Nodup → (answers.map (·.2.origin?)).Nodup) ∧
      ∀ answer ∈ answers, answer.2.statusCode < 500 ∧ answer.2.statusCode / 100 = statusCode / 100 ∧
        ∃ attempt ∈ d.attempts, attempt.worker = answer.1 ∧ attempt.answer = .taken answer.2 ∧
          answer.2.origin? = some attempt.device := by
  have safe := Safe.reachable reachable
  have reached : quorumSize placement.replicaCount ≤ tally d.quorumer.responses (statusCode / 100) := by
    rcases safe.chosen (.backend origin statusCode header) (by simp [chosen?, returned]) with
      unavailable | reached
    · simp [Response.unavailable] at unavailable
    · simpa [safe.q] using reached
  let counted := d.responsecLog.filter fun entry =>
    decide (entry.2.statusCode < 500 ∧ entry.2.statusCode / 100 = statusCode / 100)
  have origin : ∀ entry ∈ counted, entry.2.statusCode < 500 ∧
      entry.2.statusCode / 100 = statusCode / 100 ∧ ∃ attempt ∈ d.attempts, attempt.worker = entry.1 ∧
        attempt.answer = .taken entry.2 ∧ entry.2.origin? = some attempt.device := by
    intro entry mem
    obtain ⟨logged, counting⟩ := List.mem_filter.mp mem
    simp only [decide_eq_true_eq] at counting
    exact ⟨counting.1, counting.2, safe.logged_origin logged counting.1⟩
  have senders : (counted.map Prod.fst).Nodup := (List.filter_sublist _).map _ |>.nodup safe.senders
  refine ⟨counted, List.filter_sublist _, senders, ?_, fun distinct => ?_, origin⟩
  · calc quorumSize placement.replicaCount
        ≤ tally d.quorumer.responses (statusCode / 100) := reached
      _ = counted.length := by
        rw [safe.collected, tally, List.countP_map, List.countP_eq_length_filter]
        rfl
  · -- two counted answers from one device come from one attempt, hence one sender
    have devices : (d.attempts.map (·.device)).Nodup := by
      have nodup := placement.devices_nodup distinct
      rw [← safe.devices] at nodup
      exact (List.nodup_append.mp nodup).1
    refine List.Nodup.map_on ?_ (List.Nodup.of_map Prod.fst senders)
    intro first firstMem second secondMem same
    obtain ⟨-, -, attempt₁, mem₁, owner₁, -, origin₁⟩ := origin first firstMem
    obtain ⟨-, -, attempt₂, mem₂, owner₂, -, origin₂⟩ := origin second secondMem
    have sameDevice : attempt₁.device = attempt₂.device :=
      Option.some.inj (origin₁.symm.trans (same.trans origin₂))
    have sameAttempt := List.inj_on_of_nodup_map devices mem₁ mem₂ sameDevice
    exact List.inj_on_of_nodup_map senders firstMem secondMem
      (owner₁.symm.trans (sameAttempt ▸ owner₂))

/--
Three primaries of which the first two are one device: its two workers'
`201 Created` answers make `quorumResponse` return 201, from two workers.
-/
theorem returned_backend_answered_by_quorum_of_workers_on_repeated_primary :
    let shared : Device := ⟨"10.0.0.1", 6000, "sda"⟩
    let placement : Placement := ⟨3, [shared, shared, ⟨"10.0.0.2", 6000, "sda"⟩], [], rfl, by decide, by decide⟩
    ∃ d, Reachable Dispatch.step (Dispatch.init placement false) d ∧
      d.coordinator = .inGetResponse (.returned (.response (.backend shared 201 Header.empty))) ∧
      ∃ answers : List (Nat × Response), answers.Sublist d.responsecLog ∧ (answers.map Prod.fst).Nodup ∧
        quorumSize placement.replicaCount ≤ answers.length ∧
        (placement.primaries.Nodup → (answers.map (·.2.origin?)).Nodup) ∧
        ∀ answer ∈ answers, answer.2.statusCode < 500 ∧ answer.2.statusCode / 100 = 201 / 100 ∧
          ∃ attempt ∈ d.attempts, attempt.worker = answer.1 ∧ attempt.answer = .taken answer.2 ∧
            answer.2.origin? = some attempt.device := by
  intro shared placement
  obtain ⟨d, reachable, returned⟩ := Reachable.of_run_map Dispatch.step
    (Dispatch.init placement false)
    [.answer 0 (.backend shared 201 Header.empty), .answer 1 (.backend shared 201 Header.empty),
      .takeResponse 0 0, .takeResponse 1 1, .deliver 0, .deliver 1, .graceTimeout]
    (·.coordinator) (.inGetResponse (.returned (.response (.backend shared 201 Header.empty))))
    (by decide)
  exact ⟨d, reachable, returned, returned_backend_answered_by_quorum_of_workers reachable returned⟩

/--
The same run: `quorumResponse` returns a backend `201 Created` for three
replicas, and no two distinct devices answered 2xx; the one device that did
answered through both workers of its repeated primary.
-/
theorem returned_backend_answered_by_one_device_of_repeated_primary :
    let shared : Device := ⟨"10.0.0.1", 6000, "sda"⟩
    let placement : Placement := ⟨3, [shared, shared, ⟨"10.0.0.2", 6000, "sda"⟩], [], rfl, by decide, by decide⟩
    ∃ d, Reachable Dispatch.step (Dispatch.init placement false) d ∧
      d.coordinator = .inGetResponse (.returned (.response (.backend shared 201 Header.empty))) ∧
      ¬ ∃ devices : List Device, devices.Nodup ∧ quorumSize placement.replicaCount ≤ devices.length ∧
        ∀ device ∈ devices, ∃ attempt ∈ d.attempts, attempt.device = device ∧
          ∃ resp, attempt.answer = .taken resp ∧ resp.statusCode < 500 ∧
            resp.statusCode / 100 = 201 / 100 := by
  intro shared placement
  obtain ⟨d, reachable, observed⟩ := Reachable.of_run_map Dispatch.step
    (Dispatch.init placement false)
    [.answer 0 (.backend shared 201 Header.empty), .answer 1 (.backend shared 201 Header.empty),
      .takeResponse 0 0, .takeResponse 1 1, .deliver 0, .deliver 1, .graceTimeout]
    (fun state : Dispatch => (state.coordinator, state.attempts.map fun attempt : Attempt =>
      (attempt.device, decide (attempt.answer = .pending))))
    (.inGetResponse (.returned (.response (.backend shared 201 Header.empty))),
      [(shared, false), (shared, false), (⟨"10.0.0.2", 6000, "sda"⟩, true)])
    (by decide)
  simp only [Prod.mk.injEq] at observed
  refine ⟨d, reachable, observed.1, fun ⟨devices, distinct, enough, answered⟩ => ?_⟩
  -- only the shared device's attempts have answered
  have within : devices ⊆ [shared] := by
    intro device mem
    obtain ⟨attempt, attemptMem, rfl, resp, taken, -⟩ := answered device mem
    have listed : (attempt.device, decide (attempt.answer = .pending)) ∈
        [(shared, false), (shared, false), (⟨"10.0.0.2", 6000, "sda"⟩, true)] :=
      observed.2 ▸ List.mem_map_of_mem _ attemptMem
    simp [taken] at listed
    simp [listed]
  have short := (List.subperm_of_subset distinct within).length_le
  simp only [List.length_singleton] at short
  exact absurd enough (by simp [quorumSize]; omega)

end Hummingbird.Client.QuorumSafety
