import Hummingbird.Client.Http

/-!
# The quorum bookkeeping of `stdQuorumer`

`addResponse` appends every response it is handed and counts the non-5xx ones
in `responseClassCounts`, a slice of six counters indexed by `StatusCode/100`.
`getResponse` runs one loop iteration per worker.  Each iteration scans the
collected responses for one whose class already holds `q` of them, gives up
when no class can still reach `q`, and otherwise blocks on the response
channel until a response or the overall deadline arrives.

This module keeps the loop as a resumable machine (`settle`, `resume`): the
same pieces drive the dispatcher process of the concurrent dispatch model.
Fed with the responses that reach the channel before the deadline,
`getResponse` is compared with an independent decision that checks every
prefix of the arrivals for a class holding `q` responses.  The loop checks
only the prefixes shorter than the number of workers: the response received
in the last iteration is never scanned.
-/

namespace Hummingbird.Client.Quorum

open Hummingbird.Client.Ring
open Hummingbird.Client.Http

/-- `q := int(math.Ceil(float64(R) / 2.0))`, exact for every replica count below `2^53`. -/
def quorumSize (replicaCount : Nat) : Nat :=
  (replicaCount + 1) / 2

theorem quorumSize_pos {replicaCount : Nat} (positive : 0 < replicaCount) :
    0 < quorumSize replicaCount := by
  unfold quorumSize
  omega

/-- `responseClassCounts := make([]int, 6)`, the counters indexed by `StatusCode/100`. -/
structure ClassCounts where
  slots : List Nat
  length_eq : slots.length = 6

namespace ClassCounts

def zero : ClassCounts :=
  ⟨List.replicate 6 0, rfl⟩

/-- `responseClassCounts[index]`, or `none` where Go panics with index out of range. -/
def get? (counts : ClassCounts) (index : Nat) : Option Nat :=
  counts.slots[index]?

/-- `responseClassCounts[index]++`. -/
def increment (counts : ClassCounts) (index : Nat) : ClassCounts :=
  ⟨counts.slots.modify (· + 1) index, by rw [List.length_modify, counts.length_eq]⟩

theorem get?_eq_none_iff (counts : ClassCounts) (index : Nat) :
    counts.get? index = none ↔ 6 ≤ index := by
  simp [get?, counts.length_eq]

@[simp]
theorem get?_increment (counts : ClassCounts) (index other : Nat) :
    (counts.increment index).get? other =
      (fun count => if index = other then count + 1 else count) <$> counts.get? other := by
  simp [increment, get?, List.getElem?_modify]

end ClassCounts

/-- The fields of `stdQuorumer` that `addResponse` and `getResponse` read. -/
structure Quorumer where
  q : Nat
  /-- `len(q.workers)`: one worker per primary device. -/
  workerCount : Nat
  responses : List Response
  responseClassCounts : ClassCounts

/-- `newQuorumer` for a ring of `replicaCount` replicas and `workerCount` primaries. -/
def Quorumer.init (replicaCount workerCount : Nat) : Quorumer :=
  ⟨quorumSize replicaCount, workerCount, [], ClassCounts.zero⟩

/-- `stdQuorumer.addResponse`: keep the response, count it unless it is a 5xx. -/
def addResponse (quorumer : Quorumer) (resp : Response) : Quorumer :=
  if 500 ≤ resp.statusCode then
    { quorumer with responses := quorumer.responses ++ [resp] }
  else
    { quorumer with
      responses := quorumer.responses ++ [resp]
      responseClassCounts := quorumer.responseClassCounts.increment (resp.statusCode / 100) }

@[simp]
theorem addResponse_responses (quorumer : Quorumer) (resp : Response) :
    (addResponse quorumer resp).responses = quorumer.responses ++ [resp] := by
  unfold addResponse
  split <;> rfl

@[simp]
theorem addResponse_q (quorumer : Quorumer) (resp : Response) :
    (addResponse quorumer resp).q = quorumer.q := by
  unfold addResponse
  split <;> rfl

@[simp]
theorem addResponse_workerCount (quorumer : Quorumer) (resp : Response) :
    (addResponse quorumer resp).workerCount = quorumer.workerCount := by
  unfold addResponse
  split <;> rfl

/-- `outstandingRequests := len(q.workers) - len(q.responses)`. -/
def outstandingRequests (quorumer : Quorumer) : Nat :=
  quorumer.workerCount - quorumer.responses.length

/--
The scan `for _, r := range q.responses`: the first response whose class
counter holds at least `q`, or the index at which the counter read panics.
-/
def quorumScan (counts : ClassCounts) (q : Nat) : List Response → Except Nat (Option Response)
  | [] => .ok none
  | resp :: rest =>
      match counts.get? (resp.statusCode / 100) with
      | none => .error (resp.statusCode / 100)
      | some count => if q ≤ count then .ok (some resp) else quorumScan counts q rest

/-- `quorumPossible`: some counter can still reach `q` with every outstanding request. -/
def quorumPossible (quorumer : Quorumer) : Bool :=
  quorumer.responseClassCounts.slots.any
    (fun count => decide (quorumer.q ≤ count + outstandingRequests quorumer))

/-- What `getResponse` ends with: a response, or Go's index-out-of-range panic. -/
inductive Outcome where
  | response (resp : Response)
  | indexOutOfRange (index : Nat)
deriving DecidableEq

/-- Where `getResponse` waits: in the select of an iteration, in the grace loop, or returned. -/
inductive Phase where
  /-- Blocked in `select` on `responsec` and the overall deadline in iteration `iteration`. -/
  | awaiting (iteration : Nat)
  /-- Quorum met on `chosen`; waiting up to `PostQuorumTimeoutMs` for stragglers. -/
  | grace (chosen : Response)
  | returned (outcome : Outcome)
deriving DecidableEq

/--
Run `getResponse` from the head of iteration `iteration` to its next blocking
select or return; `left` is the number of iterations the `for` loop has left.
-/
def settle (quorumer : Quorumer) : (left iteration : Nat) → Phase
  | 0, _ => .returned (.response Response.unavailable)
  | left + 1, iteration =>
      match quorumScan quorumer.responseClassCounts quorumer.q quorumer.responses with
      | .error index => .returned (.indexOutOfRange index)
      | .ok (some chosen) =>
          if quorumer.responses.length < quorumer.workerCount then .grace chosen
          else .returned (.response chosen)
      | .ok none =>
          if quorumPossible quorumer then
            if 0 < outstandingRequests quorumer then .awaiting iteration
            else settle quorumer left (iteration + 1)
          else .returned (.response Response.unavailable)

/-- The phase `getResponse` reaches from the head of iteration `iteration`. -/
def settleAt (quorumer : Quorumer) (iteration : Nat) : Phase :=
  settle quorumer (quorumer.workerCount - iteration) iteration

/--
Continue `getResponse` from `phase`, receiving `arrivals` in order; an empty
list in the main select means the overall deadline fired.  The grace loop only
appends stragglers and then returns `chosen`, whichever way it ends.
-/
def resume (quorumer : Quorumer) : Phase → List Response → Outcome
  | .awaiting iteration, resp :: rest =>
      resume (addResponse quorumer resp) (settleAt (addResponse quorumer resp) (iteration + 1)) rest
  | .awaiting _, [] => .response Response.unavailable
  | .grace chosen, _ => .response chosen
  | .returned outcome, _ => outcome

/--
`getResponse` receives `resp` from `responsec`: in the main select it goes on
to the next iteration, in the grace loop it keeps `chosen` until no worker is
left outstanding.
-/
def Phase.receive (quorumer : Quorumer) (resp : Response) : Phase → Option Phase
  | .awaiting iteration => some (settleAt (addResponse quorumer resp) (iteration + 1))
  | .grace chosen =>
      some (if quorumer.responses.length + 1 < quorumer.workerCount then .grace chosen
        else .returned (.response chosen))
  | .returned _ => none

/-- `stdQuorumer.getResponse` fed with the responses that reach `responsec` before the deadline. -/
def getResponse (quorumer : Quorumer) (arrivals : List Response) : Outcome :=
  resume quorumer (settleAt quorumer 0) arrivals

/-! ## Counting the collected responses -/

/-- How many of `responses` count toward class `index`: the non-5xx ones with that `StatusCode/100`. -/
def tally (responses : List Response) (index : Nat) : Nat :=
  responses.countP (fun resp => decide (resp.statusCode < 500 ∧ resp.statusCode / 100 = index))

@[simp]
theorem tally_nil (index : Nat) : tally [] index = 0 :=
  rfl

theorem tally_append_single (responses : List Response) (resp : Response) (index : Nat) :
    tally (responses ++ [resp]) index =
      tally responses index +
        if resp.statusCode < 500 ∧ resp.statusCode / 100 = index then 1 else 0 := by
  simp only [tally, List.countP_append, List.countP_cons, List.countP_nil, decide_eq_true_eq]
  split <;> simp

theorem tally_le_append (responses more : List Response) (index : Nat) :
    tally responses index ≤ tally (responses ++ more) index := by
  simp [tally, List.countP_append]

theorem tally_eq_zero {index : Nat} (high : 5 ≤ index) (responses : List Response) :
    tally responses index = 0 := by
  simp only [tally, List.countP_eq_zero, decide_eq_true_eq, not_and]
  omega

theorem tally_add_tally_le {first second : Nat} (distinct : first ≠ second)
    (responses : List Response) :
    tally responses first + tally responses second ≤ responses.length := by
  induction responses with
  | nil => simp
  | cons resp rest ih =>
      simp only [tally, List.countP_cons, List.length_cons, decide_eq_true_eq] at ih ⊢
      split <;> split <;> omega

/-- The counters hold the tally of the collected responses. -/
def Tallied (quorumer : Quorumer) : Prop :=
  ∀ index < 6, quorumer.responseClassCounts.get? index = some (tally quorumer.responses index)

theorem tallied_init (replicaCount workerCount : Nat) :
    Tallied (Quorumer.init replicaCount workerCount) := by
  intro index below
  simp only [Quorumer.init, ClassCounts.zero, ClassCounts.get?, List.getElem?_replicate, below,
    if_true, tally_nil]

theorem Tallied.addResponse {quorumer : Quorumer} (tallied : Tallied quorumer)
    (resp : Response) : Tallied (addResponse quorumer resp) := by
  intro index below
  rw [addResponse_responses, tally_append_single]
  unfold Hummingbird.Client.Quorum.addResponse
  split
  · simpa [show ¬resp.statusCode < 500 by omega] using tallied index below
  · simp only [ClassCounts.get?_increment, tallied index below, Option.map_eq_map,
      Option.map_some', Option.some.injEq]
    split <;> split <;> omega

/-! ## The loop's scan and its exits -/

/-- A response the scan returns was collected, and its class counter holds at least `q`. -/
theorem quorumScan_sound {counts : ClassCounts} {q : Nat} {responses : List Response}
    {chosen : Response} (scan : quorumScan counts q responses = .ok (some chosen)) :
    chosen ∈ responses ∧ ∃ count, counts.get? (chosen.statusCode / 100) = some count ∧ q ≤ count := by
  induction responses with
  | nil => simp [quorumScan] at scan
  | cons resp rest ih =>
      simp only [quorumScan] at scan
      split at scan
      · simp at scan
      · split at scan
        · cases scan
          exact ⟨List.mem_cons_self _ _, _, ‹_›, ‹_›⟩
        · exact ⟨List.mem_cons_of_mem _ (ih scan).1, (ih scan).2⟩

/-- On tallied counters and statuses below 600 the scan is a search for the earliest witness. -/
theorem quorumScan_eq_find {quorumer : Quorumer} (tallied : Tallied quorumer)
    (positive : 0 < quorumer.q) (scanned : List Response)
    (statuses : ∀ resp ∈ scanned, resp.statusCode < 600) :
    quorumScan quorumer.responseClassCounts quorumer.q scanned =
      .ok (scanned.find? fun resp => decide (resp.statusCode < 500 ∧
        quorumer.q ≤ tally quorumer.responses (resp.statusCode / 100))) := by
  induction scanned with
  | nil => rfl
  | cons resp rest ih =>
      have below : resp.statusCode / 100 < 6 := by
        have := statuses resp (List.mem_cons_self _ _)
        omega
      rw [quorumScan, tallied _ below, ih fun other mem => statuses other (List.mem_cons_of_mem _ mem)]
      by_cases counted : resp.statusCode < 500
      · by_cases reached : quorumer.q ≤ tally quorumer.responses (resp.statusCode / 100) <;>
          simp [List.find?_cons, counted, reached]
      · have zero := tally_eq_zero (show 5 ≤ resp.statusCode / 100 by omega) quorumer.responses
        simp [List.find?_cons, counted, zero, Nat.not_le.2 positive]

/-- Every response `settle` stops on is the synthetic 503 or the scan's choice. -/
theorem settle_chosen {quorumer : Quorumer} {left iteration : Nat} {chosen : Response}
    (stopped : settle quorumer left iteration = .grace chosen ∨
      settle quorumer left iteration = .returned (.response chosen)) :
    chosen = Response.unavailable ∨
      quorumScan quorumer.responseClassCounts quorumer.q quorumer.responses = .ok (some chosen) := by
  induction left generalizing iteration with
  | zero => simp [settle] at stopped; exact .inl stopped.symm
  | succ left ih =>
      simp only [settle] at stopped
      split at stopped
      · simp at stopped
      · rename_i scan
        split at stopped <;> simp at stopped <;> exact .inr (stopped ▸ scan)
      · split at stopped
        · split at stopped
          · simp at stopped
          · exact ih stopped
        · simp at stopped
          exact .inl stopped.symm

theorem settle_chosen_tally {quorumer : Quorumer} (tallied : Tallied quorumer)
    {left iteration : Nat} {chosen : Response}
    (stopped : settle quorumer left iteration = .grace chosen ∨
      settle quorumer left iteration = .returned (.response chosen)) :
    chosen = Response.unavailable ∨
      quorumer.q ≤ tally quorumer.responses (chosen.statusCode / 100) := by
  rcases settle_chosen stopped with unavailable | scan
  · exact .inl unavailable
  · obtain ⟨-, count, slot, reached⟩ := quorumScan_sound scan
    have below : chosen.statusCode / 100 < 6 := by
      by_contra high
      rw [(ClassCounts.get?_eq_none_iff _ _).mpr (by omega)] at slot
      cases slot
    rw [tallied _ below] at slot
    cases slot
    exact .inr reached

/-- A non-5xx response `settle` stops on was collected and its class holds `q` of them. -/
theorem settle_chosen_sound {quorumer : Quorumer} (tallied : Tallied quorumer)
    {left iteration : Nat} {chosen : Response}
    (stopped : settle quorumer left iteration = .grace chosen ∨
      settle quorumer left iteration = .returned (.response chosen))
    (counted : chosen.statusCode < 500) :
    chosen ∈ quorumer.responses ∧
      quorumer.q ≤ tally quorumer.responses (chosen.statusCode / 100) := by
  rcases settle_chosen stopped with rfl | scan
  · simp [Response.unavailable] at counted
  · obtain ⟨mem, count, slot, reached⟩ := quorumScan_sound scan
    rw [tallied _ (by omega)] at slot
    cases slot
    exact ⟨mem, reached⟩

/-! ## The independent decision -/

/-- The earliest response of `seen` whose class holds at least `q` of `seen`. -/
def quorumWitness (q : Nat) (seen : List Response) : Option Response :=
  seen.find? fun resp => decide (resp.statusCode < 500 ∧ q ≤ tally seen (resp.statusCode / 100))

/-- Check `seen`, then each longer prefix of `seen ++ arrivals`, for a quorum witness. -/
def decisionFrom (q : Nat) (seen : List Response) : List Response → Option Response
  | [] => quorumWitness q seen
  | resp :: rest => (quorumWitness q seen).or (decisionFrom q (seen ++ [resp]) rest)

/-- The witness of the shortest prefix of `arrivals` that has one. -/
def quorumDecision (q : Nat) (arrivals : List Response) : Option Response :=
  decisionFrom q [] arrivals

theorem decisionFrom_of_witness {q : Nat} {seen : List Response} {chosen : Response}
    (witness : quorumWitness q seen = some chosen) (arrivals : List Response) :
    decisionFrom q seen arrivals = some chosen := by
  cases arrivals <;> simp [decisionFrom, witness]

theorem quorumWitness_eq_none {q : Nat} {seen : List Response}
    (below : ∀ index, tally seen index < q) : quorumWitness q seen = none := by
  simp only [quorumWitness, List.find?_eq_none, decide_eq_true_eq, not_and, Nat.not_le]
  exact fun resp _ _ => below _

theorem decisionFrom_eq_none {q budget : Nat} {seen : List Response}
    (below : ∀ index, tally seen index + budget < q) {arrivals : List Response}
    (short : arrivals.length ≤ budget) : decisionFrom q seen arrivals = none := by
  induction arrivals generalizing seen budget with
  | nil => exact quorumWitness_eq_none fun index => by have := below index; omega
  | cons resp rest ih =>
      obtain ⟨budget, rfl⟩ : ∃ smaller, budget = smaller + 1 :=
        ⟨budget - 1, by simp at short; omega⟩
      have noWitness : quorumWitness q seen = none :=
        quorumWitness_eq_none fun index => by have := below index; omega
      have next : ∀ index, tally (seen ++ [resp]) index + budget < q := by
        intro index
        have := below index
        rw [tally_append_single]
        split <;> omega
      simp [decisionFrom, noWitness, ih next (by simpa using short)]

theorem tally_lt_of_quorumPossible_eq_false {quorumer : Quorumer} (tallied : Tallied quorumer)
    (impossible : quorumPossible quorumer = false) (index : Nat) :
    tally quorumer.responses index + outstandingRequests quorumer < quorumer.q := by
  simp only [quorumPossible, List.any_eq_false, decide_eq_true_eq, Nat.not_le] at impossible
  by_cases below : index < 6
  · exact impossible _ (List.getElem?_mem (tallied index below))
  · have fifth := impossible _ (List.getElem?_mem (tallied 5 (by omega)))
    rw [tally_eq_zero le_rfl] at fifth
    rw [tally_eq_zero (by omega)]
    exact fifth

/--
At the head of iteration `len(q.responses)` the loop returns the earliest
witness, blocks in its select while quorum is possible, or gives up.
-/
theorem settleAt_running {quorumer : Quorumer} (tallied : Tallied quorumer)
    (positive : 0 < quorumer.q) (running : quorumer.responses.length < quorumer.workerCount)
    (statuses : ∀ resp ∈ quorumer.responses, resp.statusCode < 600) :
    settleAt quorumer quorumer.responses.length =
      match quorumWitness quorumer.q quorumer.responses with
      | some chosen => .grace chosen
      | none =>
          if quorumPossible quorumer then .awaiting quorumer.responses.length
          else .returned (.response Response.unavailable) := by
  have outstanding : 0 < outstandingRequests quorumer := by
    unfold outstandingRequests
    omega
  unfold settleAt
  rw [show quorumer.workerCount - quorumer.responses.length =
      quorumer.workerCount - quorumer.responses.length - 1 + 1 by omega, settle,
    quorumScan_eq_find tallied positive _ statuses, ← quorumWitness]
  cases quorumWitness quorumer.q quorumer.responses <;> simp [running, outstanding]

/-- From the head of iteration `len(q.responses)`, the loop decides the prefixes it still scans. -/
theorem resume_eq_decisionFrom {quorumer : Quorumer} (tallied : Tallied quorumer)
    (positive : 0 < quorumer.q) (running : quorumer.responses.length < quorumer.workerCount)
    {arrivals : List Response}
    (statuses : ∀ resp ∈ quorumer.responses ++ arrivals, resp.statusCode < 600) :
    resume quorumer (settleAt quorumer quorumer.responses.length) arrivals =
      .response ((decisionFrom quorumer.q quorumer.responses
        (arrivals.take (quorumer.workerCount - 1 - quorumer.responses.length))).getD
          Response.unavailable) := by
  induction arrivals generalizing quorumer with
  | nil =>
      rw [settleAt_running tallied positive running (by simpa using statuses)]
      cases witness : quorumWitness quorumer.q quorumer.responses <;>
        cases quorumPossible quorumer <;> simp [resume, decisionFrom, witness]
  | cons resp rest ih =>
      rw [settleAt_running tallied positive running
        fun other mem => statuses other (List.mem_append_left _ mem)]
      cases witness : quorumWitness quorumer.q quorumer.responses with
      | some chosen => simp [resume, decisionFrom_of_witness witness]
      | none =>
          cases possible : quorumPossible quorumer
          · rw [decisionFrom_eq_none (tally_lt_of_quorumPossible_eq_false tallied possible)
              (by simp [outstandingRequests]; omega)]
            simp [resume]
          · simp only [if_true, resume]
            by_cases last : quorumer.responses.length + 1 < quorumer.workerCount
            · have next := ih (tallied.addResponse resp)
                (by simpa using positive) (by simpa using last) (by simpa using statuses)
              simp only [addResponse_responses, List.length_append, List.length_singleton,
                addResponse_q, addResponse_workerCount] at next
              rw [next, show quorumer.workerCount - 1 - quorumer.responses.length =
                  quorumer.workerCount - 1 - (quorumer.responses.length + 1) + 1 by omega,
                List.take_succ_cons]
              simp [decisionFrom, witness]
            · rw [show quorumer.workerCount - 1 - quorumer.responses.length = 0 by omega]
              simp [settleAt, show quorumer.workerCount - (quorumer.responses.length + 1) = 0 by omega,
                settle, resume, decisionFrom, witness]

/--
`getResponse` on a fresh quorumer is the independent decision over all but the
last of the responses its loop can receive: the response received in the
last iteration is never scanned.
-/
theorem getResponse_eq_quorumDecision {replicaCount : Nat} (positive : 0 < replicaCount)
    (workerCount : Nat) {arrivals : List Response}
    (statuses : ∀ resp ∈ arrivals, resp.statusCode < 600) :
    getResponse (Quorumer.init replicaCount workerCount) arrivals =
      .response ((quorumDecision (quorumSize replicaCount)
        (arrivals.take (workerCount - 1))).getD Response.unavailable) := by
  cases workerCount with
  | zero =>
      simp [getResponse, settleAt, settle, resume, quorumDecision, decisionFrom, quorumWitness]
  | succ workerCount =>
      simpa [Quorumer.init] using resume_eq_decisionFrom (tallied_init replicaCount (workerCount + 1))
        (quorumSize_pos positive) (by simp [Quorumer.init]) (by simpa [Quorumer.init] using statuses)

/--
Three replicas answering 201, 404, 201: the decision over the first two has no
witness, and the second 201, received in the last iteration, is never scanned.
-/
theorem getResponse_eq_quorumDecision_split_answers :
    let arrivals : List Response :=
      [.backend ⟨"10.0.0.1", 6000, "sda"⟩ 201 Header.empty, .backend ⟨"10.0.0.2", 6000, "sda"⟩ 404 Header.empty,
        .backend ⟨"10.0.0.3", 6000, "sda"⟩ 201 Header.empty]
    (0 < 3 ∧ ∀ resp ∈ arrivals, resp.statusCode < 600) ∧
      getResponse (Quorumer.init 3 3) arrivals =
        .response ((quorumDecision (quorumSize 3) (arrivals.take (3 - 1))).getD Response.unavailable) :=
  ⟨⟨by decide, by decide⟩, getResponse_eq_quorumDecision (by decide) 3 (by decide)⟩

/-! ## What `getResponse` returns -/

/-- Every non-5xx response `getResponse` returns was delivered, and its class holds `q` of them. -/
theorem resume_sound {quorumer : Quorumer} (tallied : Tallied quorumer) (iteration : Nat)
    {arrivals : List Response} {chosen : Response}
    (returns : resume quorumer (settleAt quorumer iteration) arrivals = .response chosen)
    (counted : chosen.statusCode < 500) :
    chosen ∈ quorumer.responses ++ arrivals ∧
      quorumer.q ≤ tally (quorumer.responses ++ arrivals) (chosen.statusCode / 100) := by
  induction arrivals generalizing quorumer iteration with
  | nil =>
      cases phase : settleAt quorumer iteration <;> simp only [phase, resume] at returns
      · cases returns
        simp [Response.unavailable] at counted
      · cases returns
        simpa using settle_chosen_sound tallied (.inl phase) counted
      · subst returns
        simpa using settle_chosen_sound tallied (.inr phase) counted
  | cons resp rest ih =>
      cases phase : settleAt quorumer iteration <;> simp only [phase, resume] at returns
      · simpa using ih (tallied.addResponse resp) _ returns
      · cases returns
        have sound := settle_chosen_sound tallied (.inl phase) counted
        exact ⟨List.mem_append_left _ sound.1, sound.2.trans (tally_le_append _ _ _)⟩
      · subst returns
        have sound := settle_chosen_sound tallied (.inr phase) counted
        exact ⟨List.mem_append_left _ sound.1, sound.2.trans (tally_le_append _ _ _)⟩

/--
Whatever order the final responses arrive in, a non-5xx response returned by
`getResponse` belongs to a class holding at least `q` of the delivered responses.
-/
theorem getResponse_sound {replicaCount workerCount : Nat} {arrivals : List Response}
    {chosen : Response}
    (returns : getResponse (Quorumer.init replicaCount workerCount) arrivals = .response chosen)
    (counted : chosen.statusCode < 500) :
    chosen ∈ arrivals ∧ quorumSize replicaCount ≤ tally arrivals (chosen.statusCode / 100) := by
  simpa [Quorumer.init] using resume_sound (tallied_init replicaCount workerCount) 0 returns counted

/--
For every replica count and every multiset of final responses, two arrival
orders that both make `getResponse` return a non-5xx response return
responses whose classes each hold at least `q` of the multiset; for an odd
replica count only one class can, so the two classes agree.
-/
theorem getResponse_classes_reach_quorum_of_perm {replicaCount : Nat}
    {first second : List Response} (reordered : first.Perm second)
    (oneEach : first.length ≤ replicaCount) {firstChosen secondChosen : Response}
    (firstReturns :
      getResponse (Quorumer.init replicaCount replicaCount) first = .response firstChosen)
    (secondReturns :
      getResponse (Quorumer.init replicaCount replicaCount) second = .response secondChosen)
    (firstCounted : firstChosen.statusCode < 500) (secondCounted : secondChosen.statusCode < 500) :
    quorumSize replicaCount ≤ tally first (firstChosen.statusCode / 100) ∧
      quorumSize replicaCount ≤ tally first (secondChosen.statusCode / 100) ∧
      (replicaCount % 2 = 1 → firstChosen.statusCode / 100 = secondChosen.statusCode / 100) := by
  have firstReached := (getResponse_sound firstReturns firstCounted).2
  have secondReached := (getResponse_sound secondReturns secondCounted).2
  rw [tally, ← reordered.countP_eq, ← tally] at secondReached
  refine ⟨firstReached, secondReached, fun odd => ?_⟩
  by_contra distinct
  have shared := tally_add_tally_le distinct first
  unfold quorumSize at firstReached secondReached
  omega

/-- Three replicas, two `201 Created` and a `404` in two orders: both return a 201. -/
theorem getResponse_classes_agree_three_replicas :
    let created : Response := .backend ⟨"10.0.0.1", 6000, "sda"⟩ 201 Header.empty
    let alsoCreated : Response := .backend ⟨"10.0.0.2", 6000, "sda"⟩ 201 Header.empty
    let missing : Response := .backend ⟨"10.0.0.3", 6000, "sda"⟩ 404 Header.empty
    [created, alsoCreated, missing].Perm [alsoCreated, created, missing] ∧
      [created, alsoCreated, missing].length ≤ 3 ∧
      getResponse (Quorumer.init 3 3) [created, alsoCreated, missing] = .response created ∧
      getResponse (Quorumer.init 3 3) [alsoCreated, created, missing] = .response alsoCreated ∧
      created.statusCode < 500 ∧ alsoCreated.statusCode < 500 ∧
      (quorumSize 3 ≤ tally [created, alsoCreated, missing] (created.statusCode / 100) ∧
        quorumSize 3 ≤ tally [created, alsoCreated, missing] (alsoCreated.statusCode / 100) ∧
        (3 % 2 = 1 → created.statusCode / 100 = alsoCreated.statusCode / 100)) := by
  intro created alsoCreated missing
  have reordered : [created, alsoCreated, missing].Perm [alsoCreated, created, missing] := by decide
  have firstReturns :
      getResponse (Quorumer.init 3 3) [created, alsoCreated, missing] = .response created := by
    decide
  have secondReturns :
      getResponse (Quorumer.init 3 3) [alsoCreated, created, missing] = .response alsoCreated := by
    decide
  exact ⟨reordered, by decide, firstReturns, secondReturns, by decide, by decide,
    getResponse_classes_reach_quorum_of_perm reordered (by decide) firstReturns secondReturns
      (by decide) (by decide)⟩

/-- With even `R`, one multiset in two orders: the first class to reach `q` differs. -/
theorem getResponse_class_depends_on_order :
    let first := [Response.backend ⟨"10.0.0.1", 6000, "sda"⟩ 201 Header.empty,
      Response.backend ⟨"10.0.0.2", 6000, "sda"⟩ 201 Header.empty,
      Response.backend ⟨"10.0.0.3", 6000, "sda"⟩ 404 Header.empty,
      Response.backend ⟨"10.0.0.4", 6000, "sda"⟩ 404 Header.empty]
    let second := first.reverse
    first.Perm second ∧
      getResponse (Quorumer.init 4 4) first =
        .response (Response.backend ⟨"10.0.0.1", 6000, "sda"⟩ 201 Header.empty) ∧
      getResponse (Quorumer.init 4 4) second =
        .response (Response.backend ⟨"10.0.0.4", 6000, "sda"⟩ 404 Header.empty) := by
  decide

/-- One replica: a single `201 Created` reaches the channel, and `getResponse` answers 503. -/
theorem getResponse_single_replica_created :
    getResponse (Quorumer.init 1 1) [Response.backend ⟨"10.0.0.1", 6000, "sda"⟩ 201 Header.empty] =
      .response Response.unavailable := by
  decide

end Hummingbird.Client.Quorum
