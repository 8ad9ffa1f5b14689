import Hummingbird.Client.Http

/-!
# The read dispatcher `firstResponse`

`firstResponse` shuffles the primaries, then makes up to `R + 2` attempts,
first on the shuffled primaries and then on handoffs.  Each attempt whose
request can be built is sent in a goroutine of its own, and the loop waits
for whichever comes first: any response on the shared `success` channel, or
one second.  A terminal success (2xx, 304, 412, 416) is returned at once with
its headers normalised; a missing response or a 5xx counts as an internal
error.  When the attempts run out, at least `R` internal errors give a 503 and
anything else a 404.

The schedule of the select's outcomes is an input: `waits` lists what each
wait saw, in order, and a schedule that runs out leaves every later window to
expire.  A run also records, as history, what each iteration of the loop saw.
-/

namespace Hummingbird.Client.FirstResponse

open Hummingbird.Client.Ring
open Hummingbird.Client.Http

/-- `devs[i], devs[j] = devs[j], devs[i]`. -/
def swap {α : Type} (items : List α) (i j : Nat) : List α :=
  match items[i]?, items[j]? with
  | some first, some second => (items.set i second).set j first
  | _, _ => items

/-- The shuffle loop, where `rand.Intn(i + 1)` returns `draw i`. -/
def shuffle {α : Type} (draw : (i : Nat) → Fin (i + 1)) (items : List α) : List α :=
  (List.range items.length).foldl (fun shuffled i => swap shuffled i (draw i)) items

/-- `strings.Trim(etag, "\"")`. -/
def trimQuotes (etag : String) : String :=
  (etag.dropWhile (· = '"')).dropRightWhile (· = '"')

/-- The header changes made to a terminal success before it is returned. -/
def normalize : Response → Response
  | .backend origin statusCode header =>
      let header := header.set "Accept-Ranges" "bytes"
      let etag := header.get "Etag"
      .backend origin statusCode (if etag = "" then header else header.set "Etag" (trimQuotes etag))
  | resp => resp

/-- 2xx, `412 Precondition Failed`, `304 Not Modified` or `416 Range Not Satisfiable`. -/
def terminalSuccess (statusCode : Nat) : Bool :=
  statusCode / 100 = 2 || statusCode = 412 || statusCode = 304 || statusCode = 416

/-- What one wait in the select of `firstResponse` sees. -/
inductive Wait where
  /-- A value on `success`: a response, or `nil` after a transport error. -/
  | received (resp : Option Response)
  /-- `time.After(time.Second)` fires first. -/
  | timedOut
deriving DecidableEq

/-- What one iteration of the attempt loop saw. -/
inductive AttemptOutcome where
  /-- `devToRequest` failed: counted as an internal error, no wait. -/
  | requestFailed
  /-- The select took a value from `success`. -/
  | delivered (resp : Option Response)
  /-- The one-second window closed with nothing on `success`. -/
  | windowExpired
deriving DecidableEq

/-- The response of a run of `firstResponse` and, as history, what each iteration saw. -/
structure Run where
  resp : Response
  outcomes : List AttemptOutcome
deriving DecidableEq

def Run.cons (outcome : AttemptOutcome) (rest : Run) : Run :=
  ⟨rest.resp, outcome :: rest.outcomes⟩

@[simp]
theorem Run.cons_resp (outcome : AttemptOutcome) (rest : Run) : (rest.cons outcome).resp = rest.resp :=
  rfl

@[simp]
theorem Run.cons_outcomes (outcome : AttemptOutcome) (rest : Run) :
    (rest.cons outcome).outcomes = outcome :: rest.outcomes :=
  rfl

/-- The response once the attempts ran out without a terminal success. -/
def verdict (replicaCount internalErrors : Nat) : Response :=
  if replicaCount ≤ internalErrors then .stub 503 "" else .stub 404 ""

/-- The device of iteration `requestCount`: `devs[requestCount]`, then `more.Next()`. -/
def nextDevice (devs : List Device) (requestCount : Nat) (handoffs : List Device) :
    Option (Device × List Device) :=
  if present : requestCount < devs.length then some (devs[requestCount], handoffs)
  else
    match handoffs with
    | [] => none
    | device :: rest => some (device, rest)

/-- The `for requestCount` loop, with `remaining` iterations left before `R + 2`. -/
def attemptLoop (replicaCount : Nat) (requestBuilds : Device → Bool) (devs : List Device) :
    (remaining requestCount : Nat) → (handoffs : List Device) → (waits : List Wait) →
      (internalErrors : Nat) → Run
  | 0, _, _, _, internalErrors => ⟨verdict replicaCount internalErrors, []⟩
  | remaining + 1, requestCount, handoffs, waits, internalErrors =>
      match nextDevice devs requestCount handoffs with
      | none => ⟨verdict replicaCount internalErrors, []⟩
      | some (device, handoffs) =>
          if requestBuilds device then
            match waits.headD .timedOut with
            | .received (some resp) =>
                if terminalSuccess resp.statusCode then ⟨normalize resp, [.delivered (some resp)]⟩
                else
                  (attemptLoop replicaCount requestBuilds devs remaining (requestCount + 1) handoffs
                    waits.tail
                    (if resp.statusCode / 100 = 5 then internalErrors + 1 else internalErrors)).cons
                    (.delivered (some resp))
            | .received none =>
                (attemptLoop replicaCount requestBuilds devs remaining (requestCount + 1) handoffs
                  waits.tail (internalErrors + 1)).cons (.delivered none)
            | .timedOut =>
                (attemptLoop replicaCount requestBuilds devs remaining (requestCount + 1) handoffs
                  waits.tail internalErrors).cons .windowExpired
          else
            (attemptLoop replicaCount requestBuilds devs remaining (requestCount + 1) handoffs waits
              (internalErrors + 1)).cons .requestFailed

/-- `ProxyDirectClient.firstResponse` on one placement, shuffle, request builder and schedule. -/
def firstResponse (placement : Placement) (draw : (i : Nat) → Fin (i + 1))
    (requestBuilds : Device → Bool) (waits : List Wait) : Run :=
  attemptLoop placement.replicaCount requestBuilds (shuffle draw placement.primaries)
    (placement.replicaCount + 2) 0 placement.handoffs waits 0

theorem swap_length {α : Type} (items : List α) (i j : Nat) : (swap items i j).length = items.length := by
  unfold swap
  split <;> simp

theorem shuffle_length {α : Type} (draw : (i : Nat) → Fin (i + 1)) (items : List α) :
    (shuffle draw items).length = items.length := by
  unfold shuffle
  generalize List.range items.length = indices
  induction indices generalizing items with
  | nil => rfl
  | cons index rest ih => simp only [List.foldl_cons, ih, swap_length]

/-! ## What a 404 means -/

/-- An iteration that can explain a 404: an answer that is neither a terminal success nor an internal error, or an expired window. -/
def NotFoundEvidence : AttemptOutcome → Prop
  | .delivered (some resp) => resp.statusCode / 100 ≠ 5 ∧ terminalSuccess resp.statusCode = false
  | .windowExpired => True
  | _ => False

theorem nextDevice_eq_none {devs : List Device} {requestCount : Nat} {handoffs : List Device}
    (exhausted : nextDevice devs requestCount handoffs = none) :
    devs.length ≤ requestCount ∧ handoffs = [] := by
  unfold nextDevice at exhausted
  split at exhausted
  · cases exhausted
  · split at exhausted
    · exact ⟨by omega, rfl⟩
    · cases exhausted

theorem nextDevice_eq_some {devs : List Device} {requestCount : Nat} {handoffs : List Device}
    {device : Device} {rest : List Device}
    (found : nextDevice devs requestCount handoffs = some (device, rest)) :
    devs.length - (requestCount + 1) + rest.length + 1 =
      devs.length - requestCount + handoffs.length := by
  unfold nextDevice at found
  split at found
  · cases found
    omega
  · split at found
    · cases found
    · cases found
      simp
      omega

theorem normalize_ne_notFound {resp : Response} (terminal : terminalSuccess resp.statusCode = true) :
    normalize resp ≠ .stub 404 "" := by
  cases resp with
  | backend => simp [normalize]
  | stub statusCode body =>
      rintro ⟨⟩
      simp [terminalSuccess] at terminal

/-- An iteration counted in `internalErrors`: no request, no response, or a 5xx. -/
def internalError : AttemptOutcome → Bool
  | .requestFailed => true
  | .delivered none => true
  | .delivered (some resp) => resp.statusCode / 100 = 5
  | .windowExpired => false

/-- An iteration that delivered a terminal success, on which the loop returns. -/
def deliveredTerminal : AttemptOutcome → Bool
  | .delivered (some resp) => terminalSuccess resp.statusCode
  | _ => false

theorem notFoundEvidence_of_not_internalError {outcome : AttemptOutcome}
    (notTerminal : deliveredTerminal outcome = false) (clean : internalError outcome = false) :
    NotFoundEvidence outcome := by
  cases outcome with
  | requestFailed => cases clean
  | delivered resp =>
      cases resp with
      | none => cases clean
      | some resp => exact ⟨by simpa [internalError] using clean, notTerminal⟩
  | windowExpired => trivial

/--
One iteration of the loop runs out of devices, returns a terminal success, or
records an outcome that is not one and goes on, one internal error more if the
outcome is one.
-/
theorem attemptLoop_succ (replicaCount : Nat) (requestBuilds : Device → Bool) (devs : List Device)
    (remaining requestCount : Nat) (handoffs : List Device) (waits : List Wait)
    (internalErrors : Nat) :
    let run := attemptLoop replicaCount requestBuilds devs (remaining + 1) requestCount handoffs
      waits internalErrors
    (nextDevice devs requestCount handoffs = none ∧ run = ⟨verdict replicaCount internalErrors, []⟩) ∨
      (∃ resp, terminalSuccess resp.statusCode = true ∧
        run = ⟨normalize resp, [.delivered (some resp)]⟩) ∨
      ∃ device rest outcome later, nextDevice devs requestCount handoffs = some (device, rest) ∧
        deliveredTerminal outcome = false ∧
        run = (attemptLoop replicaCount requestBuilds devs remaining (requestCount + 1) rest later
          (internalErrors + if internalError outcome then 1 else 0)).cons outcome := by
  intro run
  cases next : nextDevice devs requestCount handoffs with
  | none => exact .inl ⟨rfl, by simp [run, attemptLoop, next]⟩
  | some found =>
      obtain ⟨device, rest⟩ := found
      cases builds : requestBuilds device with
      | false =>
          exact .inr (.inr ⟨device, rest, .requestFailed, waits, rfl, rfl,
            by simp only [run, attemptLoop, next, builds, internalError, Bool.false_eq_true, if_false, if_true]⟩)
      | true =>
          cases wait : waits.headD .timedOut with
          | timedOut =>
              exact .inr (.inr ⟨device, rest, .windowExpired, waits.tail, rfl, rfl,
                by simp only [run, attemptLoop, next, builds, wait, internalError, if_true, if_false, Bool.false_eq_true, Nat.add_zero]⟩)
          | received answer =>
              cases answer with
              | none =>
                  exact .inr (.inr ⟨device, rest, .delivered none, waits.tail, rfl, rfl,
                    by simp only [run, attemptLoop, next, builds, wait, internalError, if_true, if_false, Bool.false_eq_true, Nat.add_zero]⟩)
              | some resp =>
                  by_cases terminal : terminalSuccess resp.statusCode = true
                  · exact .inr (.inl ⟨resp, terminal,
                      by simp only [run, attemptLoop, next, builds, wait, terminal, if_true]⟩)
                  · refine .inr (.inr ⟨device, rest, .delivered (some resp), waits.tail, rfl,
                      by simpa [deliveredTerminal] using terminal, ?_⟩)
                    by_cases failed : resp.statusCode / 100 = 5 <;>
                      simp [run, attemptLoop, next, builds, wait, terminal, failed, internalError, -List.headD_eq_head?_getD]

/--
While the internal errors so far and the iterations the loop is sure to make
add up to `R`, a 404 needs an iteration that saw a non-5xx, non-terminal
answer or an expired window.
-/
theorem attemptLoop_notFound {replicaCount : Nat} {requestBuilds : Device → Bool}
    {devs : List Device} {remaining requestCount : Nat} {handoffs : List Device}
    {waits : List Wait} {internalErrors : Nat}
    (enough : replicaCount ≤
      internalErrors + min remaining (devs.length - requestCount + handoffs.length))
    (notFound : (attemptLoop replicaCount requestBuilds devs remaining requestCount handoffs waits
      internalErrors).resp = .stub 404 "") :
    ∃ outcome ∈ (attemptLoop replicaCount requestBuilds devs remaining requestCount handoffs waits
      internalErrors).outcomes, NotFoundEvidence outcome := by
  induction remaining generalizing requestCount handoffs waits internalErrors with
  | zero =>
      simp [attemptLoop, verdict, show replicaCount ≤ internalErrors by omega] at notFound
  | succ remaining ih =>
      rcases attemptLoop_succ replicaCount requestBuilds devs remaining requestCount handoffs waits
          internalErrors with
        ⟨next, ran⟩ | ⟨resp, terminal, ran⟩ | ⟨device, rest, outcome, later, next, notTerminal, ran⟩ <;>
        rw [ran] at notFound ⊢
      · -- out of devices: every one of the `R` iterations it was sure to make was an internal error
        obtain ⟨used, rfl⟩ := nextDevice_eq_none next
        simp [verdict, show replicaCount ≤ internalErrors by simp at enough; omega] at notFound
      · exact absurd notFound (normalize_ne_notFound terminal)
      · cases counted : internalError outcome
        · exact ⟨outcome, List.mem_cons_self _ _, notFoundEvidence_of_not_internalError notTerminal counted⟩
        · have used := nextDevice_eq_some next
          simp only [counted, if_true] at notFound ⊢
          obtain ⟨evidence, mem, found⟩ := ih (by omega) notFound
          exact ⟨evidence, List.mem_cons_of_mem _ mem, found⟩

/--
A run ends in a delivered terminal success, normalised, or, with no terminal
success delivered, in the verdict on every internal error it counted.
-/
theorem attemptLoop_verdict (replicaCount : Nat) (requestBuilds : Device → Bool) (devs : List Device)
    (remaining requestCount : Nat) (handoffs : List Device) (waits : List Wait)
    (internalErrors : Nat) :
    let run := attemptLoop replicaCount requestBuilds devs remaining requestCount handoffs waits
      internalErrors
    (∃ resp, .delivered (some resp) ∈ run.outcomes ∧ terminalSuccess resp.statusCode = true ∧
        run.resp = normalize resp) ∨
      (∀ outcome ∈ run.outcomes, deliveredTerminal outcome = false) ∧
        run.resp = verdict replicaCount (internalErrors + run.outcomes.countP internalError) := by
  induction remaining generalizing requestCount handoffs waits internalErrors with
  | zero => exact .inr ⟨nofun, rfl⟩
  | succ remaining ih =>
      dsimp only
      rcases attemptLoop_succ replicaCount requestBuilds devs remaining requestCount handoffs waits
          internalErrors with
        ⟨-, ran⟩ | ⟨resp, terminal, ran⟩ | ⟨-, rest, outcome, later, -, notTerminal, ran⟩ <;> rw [ran]
      · exact .inr ⟨nofun, rfl⟩
      · exact .inl ⟨resp, List.mem_singleton_self _, terminal, rfl⟩
      · rcases ih (requestCount + 1) rest later _ with ⟨resp, mem, terminal, ended⟩ | ⟨none, ended⟩
        · exact .inl ⟨resp, List.mem_cons_of_mem _ mem, terminal, ended⟩
        · refine .inr ⟨List.forall_mem_cons.mpr ⟨notTerminal, none⟩, ?_⟩
          rw [Run.cons_resp, ended, Run.cons_outcomes, List.countP_cons]
          congr 1
          omega

theorem attemptLoop_resp (replicaCount : Nat) (requestBuilds : Device → Bool) (devs : List Device)
    (remaining requestCount : Nat) (handoffs : List Device) (waits : List Wait)
    (internalErrors : Nat) :
    let run := attemptLoop replicaCount requestBuilds devs remaining requestCount handoffs waits
      internalErrors
    (∃ resp, .delivered (some resp) ∈ run.outcomes ∧ terminalSuccess resp.statusCode = true ∧
        run.resp = normalize resp) ∨
      ∃ errors, run.resp = verdict replicaCount errors :=
  (attemptLoop_verdict replicaCount requestBuilds devs remaining requestCount handoffs waits
    internalErrors).imp_right fun ended => ⟨_, ended.2⟩

/--
For every placement, shuffle, request builder and schedule, `firstResponse`
answers 404 only if some attempt delivered a non-5xx answer that is not a
terminal success or saw its one-second window close with nothing delivered;
a run with no such attempt and no terminal success answers 503.
-/
theorem firstResponse_notFound_needs_answer_or_expiry (placement : Placement)
    (draw : (i : Nat) → Fin (i + 1)) (requestBuilds : Device → Bool) (waits : List Wait) :
    let run := firstResponse placement draw requestBuilds waits
    (run.resp = .stub 404 "" → ∃ outcome ∈ run.outcomes, NotFoundEvidence outcome) ∧
      ((∀ outcome ∈ run.outcomes, ¬NotFoundEvidence outcome) →
        (∀ resp, .delivered (some resp) ∈ run.outcomes → terminalSuccess resp.statusCode = false) →
        run.resp = .stub 503 "") := by
  intro run
  have notFound : run.resp = .stub 404 "" → ∃ outcome ∈ run.outcomes, NotFoundEvidence outcome :=
    attemptLoop_notFound (by simp [shuffle_length, placement.primaries_length])
  refine ⟨notFound, fun noEvidence noSuccess => ?_⟩
  rcases attemptLoop_resp placement.replicaCount requestBuilds (shuffle draw placement.primaries)
      (placement.replicaCount + 2) 0 placement.handoffs waits 0 with
    ⟨resp, delivered, terminal, _⟩ | ⟨errors, ended⟩
  · simp [noSuccess resp delivered] at terminal
  · unfold verdict at ended
    split at ended
    · exact ended
    · obtain ⟨outcome, mem, evidence⟩ := notFound ended
      exact absurd evidence (noEvidence outcome mem)

/-- One replica, no handoff, and an attempt left unanswered for a second: a 404 with nothing delivered. -/
theorem firstResponse_notFound_without_answer :
    firstResponse ⟨1, [⟨"10.0.0.1", 6000, "sda"⟩], [], rfl, by decide, by decide⟩ (fun _ => 0) (fun _ => true)
      [.timedOut] = ⟨.stub 404 "", [.windowExpired]⟩ := by
  decide

/-! ## What `firstResponse` returns -/

/--
For every placement, shuffle, request builder and schedule, `firstResponse`
returns a terminal success it received, with its headers normalised; or, when
none arrived, the verdict on the attempts that failed internally (no request,
no response, or a 5xx): 503 when they are at least `R`, 404 otherwise.
-/
theorem firstResponse_verdict (placement : Placement) (draw : (i : Nat) → Fin (i + 1))
    (requestBuilds : Device → Bool) (waits : List Wait) :
    let run := firstResponse placement draw requestBuilds waits
    (∃ resp, .delivered (some resp) ∈ run.outcomes ∧ terminalSuccess resp.statusCode = true ∧
        run.resp = normalize resp) ∨
      (∀ outcome ∈ run.outcomes, deliveredTerminal outcome = false) ∧
        run.resp = verdict placement.replicaCount (run.outcomes.countP internalError) := by
  have ended := attemptLoop_verdict placement.replicaCount requestBuilds
    (shuffle draw placement.primaries) (placement.replicaCount + 2) 0 placement.handoffs waits 0
  simpa only [Nat.zero_add] using ended

/-- Three replicas, shuffled to the third, first and second: a 503, a request that cannot be built and a transport error make a 503. -/
example :
    firstResponse ⟨3, [⟨"10.0.0.1", 6000, "sda"⟩, ⟨"10.0.0.2", 6000, "sda"⟩, ⟨"10.0.0.3", 6000, "sda"⟩], [],
        rfl, by decide, by decide⟩ (fun _ => 0) (fun device => device.ip ≠ "10.0.0.1")
      [.received (some (.backend ⟨"10.0.0.2", 6000, "sda"⟩ 503 Header.empty)), .received none] =
      ⟨.stub 503 "", [.delivered (some (.backend ⟨"10.0.0.2", 6000, "sda"⟩ 503 Header.empty)), .requestFailed,
        .delivered none]⟩ := by
  decide

end Hummingbird.Client.FirstResponse
