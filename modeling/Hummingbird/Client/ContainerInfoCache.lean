import Hummingbird.Client.Quorum
import Hummingbird.Transition

/-!
# The container-info cache under a concurrent mutation

`GetContainerInfo(A, C)` looks the key `container/A/C` up in the request's
local map, then in the shared memcache, and on a double miss sends a HEAD to
the container and stores what it read in the shared cache (`mc.Set`, TTL 30
seconds).  `PutContainer`, `PostContainer` and `DeleteContainer` of
`proxyClient` run the backend mutation and then, deferred, delete the key from
both tiers.  Nothing orders a fill against a mutation of another request.

The container lives on `R` replicas.  The mutation is a `quorumResponse`: it
returns once `q = ⌈R/2⌉` replicas have applied it, or with an error, and its
requests to the other replicas land whenever they land.  The HEAD goes
through `firstResponse`, which answers with the state of the one replica that
answered it first.  A replica's state is the number of mutations it has
applied, and a cache entry is the state it was read from; the handoffs are
left out, as neither a container HEAD nor its mutation reaches the same
handoff twice.

Two history variables record what the code does not: whether the replica the
HEAD read had not yet applied the mutation, and whether the fill's `mc.Set`
ran after the invalidation.  Once the mutation has returned, the shared cache
holds an entry older than some replica exactly when both happened and the
mutation has reached some replica.  A fill that starts after the mutation has
returned, with no race at all, still stores an old state when its HEAD reads
a replica the mutation has not reached.
-/

namespace Hummingbird.Client.ContainerInfoCache

open Hummingbird.Client.Quorum
open Hummingbird.Transition

/-- Where `GetContainerInfo` stands. -/
inductive FillPc where
  /-- Before `ci = lc[key]`. -/
  | lookingUpLocal
  /-- After a local miss: `mc.GetStructured(key, &ci)`. -/
  | lookingUpShared
  /-- After both misses: `c.HeadContainer(account, container, nil)`. -/
  | heading
  /-- The HEAD read the container state `read`: `mc.Set(key, ci, 30)` next. -/
  | storing (read : Nat)
  /-- Returned the info read as of `info`, or an error. -/
  | returned (info : Option Nat)
deriving DecidableEq

/-- Where a mutating call of `proxyClient` stands. -/
inductive MutationPc where
  /-- `c.pdc.PutContainer` (or `PostContainer`, `DeleteContainer`) has not returned. -/
  | mutating
  /-- The backend call returned; the deferred `invalidateContainerInfo` is next. -/
  | invalidating
  | returned
deriving DecidableEq

/-- One fill and one mutation of the same container, its replicas and the two cache tiers. -/
structure CacheRace where
  /-- The mutations every replica had applied before this one. -/
  version : Nat
  /-- Whether the mutation has reached each replica, in ring order. -/
  reached : List Bool
  /-- `lc[key]`, as the container state the entry was read from. -/
  localMap : Option Nat
  /-- The memcache entry for `key`, as the container state it was read from. -/
  shared : Option Nat
  fill : FillPc
  mutation : MutationPc
  /-- History: the replica the HEAD read had not applied the mutation. -/
  readBehind : Bool
  /-- History: the fill's `mc.Set` ran after the invalidation. -/
  storedLate : Bool
deriving DecidableEq

/-- The state of a replica the mutation has or has not reached. -/
def replicaState (version : Nat) (reached : Bool) : Nat :=
  version + if reached then 1 else 0

/-- Both calls about to start on `replicaCount` replicas, with whatever the two tiers hold. -/
def CacheRace.init (replicaCount version : Nat) (localMap shared : Option Nat) : CacheRace :=
  ⟨version, List.replicate replicaCount false, localMap, shared, .lookingUpLocal, .mutating, false, false⟩

/-- What the two calls, the replicas and memcache can do next. -/
inductive Event where
  | lookupLocal
  /-- `mc.GetStructured`; a failed read counts as a miss. -/
  | lookupShared (readFails : Bool)
  /-- The HEAD is answered by `replica`, with a 2xx whose headers parse, or not. -/
  | head (replica : Nat) (succeeded : Bool)
  | store
  /-- The mutation's request reaches `replica`, which applies it. -/
  | apply (replica : Nat)
  /-- `quorumResponse` returns: a success only once `q` replicas have applied the mutation. -/
  | respond (succeeded : Bool)
  | invalidate

def CacheRace.step (s : CacheRace) : Event → Option CacheRace
  | .lookupLocal =>
      match s.fill with
      | .lookingUpLocal =>
          some { s with fill := match s.localMap with
            | some info => .returned (some info)
            | none => .lookingUpShared }
      | _ => none
  | .lookupShared readFails =>
      match s.fill with
      | .lookingUpShared =>
          some { s with fill := match readFails, s.shared with
            | false, some info => .returned (some info)
            | _, _ => .heading }
      | _ => none
  | .head replica succeeded =>
      match s.fill, s.reached[replica]? with
      | .heading, some reached =>
          some { s with
            fill := if succeeded then .storing (replicaState s.version reached) else .returned none
            readBehind := !reached }
      | _, _ => none
  | .store =>
      match s.fill with
      | .storing read =>
          some { s with
            shared := some read
            fill := .returned (some read)
            storedLate := decide (s.mutation = .returned) }
      | _ => none
  | .apply replica =>
      match s.reached[replica]? with
      | some false => some { s with reached := s.reached.set replica true }
      | _ => none
  | .respond succeeded =>
      match s.mutation with
      | .mutating =>
          if succeeded → quorumSize s.reached.length ≤ s.reached.count true then
            some { s with mutation := .invalidating }
          else none
      | _ => none
  | .invalidate =>
      match s.mutation with
      | .invalidating => some { s with localMap := none, shared := none, mutation := .returned }
      | _ => none

/-- The shared cache holds a state some replica has moved past. -/
def CacheRace.stale (s : CacheRace) : Bool :=
  match s.shared with
  | some read => s.reached.any fun reached => read < replicaState s.version reached
  | none => false

/-- An entry read from the replica the HEAD read. -/
def CacheRace.headRead (s : CacheRace) : Nat :=
  replicaState s.version !s.readBehind

/--
What holds of a fill and a mutation: the fill holds what its HEAD read; a late
store has ended the fill; until the invalidation nothing is stored late; after
it the shared cache is empty until the fill stores, late, what its HEAD read.
-/
structure RaceInvariant (s : CacheRace) : Prop where
  read : ∀ read, s.fill = .storing read → read = s.headRead
  stored : s.storedLate = true → s.fill = .returned (some s.headRead)
  early : s.mutation ≠ .returned → s.storedLate = false
  late : s.mutation = .returned →
    (s.shared = none ∧ s.storedLate = false) ∨ (s.storedLate = true ∧ s.shared = some s.headRead)

theorem raceInvariant_init (replicaCount version : Nat) (localMap shared : Option Nat) :
    RaceInvariant (CacheRace.init replicaCount version localMap shared) :=
  ⟨nofun, nofun, fun _ => rfl, nofun⟩

theorem RaceInvariant.step {s next : CacheRace} {event : Event} (invariant : RaceInvariant s)
    (stepped : s.step event = some next) : RaceInvariant next := by
  obtain ⟨version, reached, localMap, shared, fill, mutation, readBehind, storedLate⟩ := s
  obtain ⟨read, stored, early, late⟩ := invariant
  -- nothing is stored late while the fill runs
  have notLate : (∀ info, fill ≠ .returned info) → storedLate = false := fun running =>
    Bool.eq_false_iff.mpr fun late => running _ (stored late)
  cases event with
  | lookupLocal =>
      cases fill <;> simp only [CacheRace.step, reduceCtorEq, Option.some.injEq] at stepped
      subst stepped
      cases localMap <;> exact ⟨nofun, by simp [notLate nofun], early, late⟩
  | lookupShared readFails =>
      cases fill <;> simp only [CacheRace.step, reduceCtorEq, Option.some.injEq] at stepped
      subst stepped
      cases readFails <;> cases shared <;> exact ⟨nofun, by simp [notLate nofun], early, late⟩
  | head replica succeeded =>
      -- the HEAD records whether the replica it read is behind; nothing is stored yet
      cases fill <;> simp only [CacheRace.step, reduceCtorEq] at stepped
      split at stepped
      · cases stepped
        have notLate := notLate nofun
        refine ⟨fun _ storing => ?_, by simp [notLate], early, fun returned => .inl ?_⟩
        · cases succeeded <;> simp at storing
          simp [← storing, CacheRace.headRead]
        · rcases late returned with ⟨empty, _⟩ | ⟨late, _⟩
          · exact ⟨empty, notLate⟩
          · simp [notLate] at late
      · cases stepped
  | store =>
      -- the store puts what the HEAD read, late exactly when the invalidation has run
      cases fill <;> simp only [CacheRace.step, reduceCtorEq, Option.some.injEq] at stepped
      subst stepped
      rename_i value
      have same : value = replicaState version !readBehind := read value rfl
      refine ⟨nofun, fun _ => by simp [same, CacheRace.headRead], fun running => by simpa using running,
        fun returned => .inr ⟨by simpa using returned, by simp [same, CacheRace.headRead]⟩⟩
  | apply replica =>
      cases found : reached[replica]? with
      | none => simp [CacheRace.step, found] at stepped
      | some applied =>
          cases applied <;> simp only [CacheRace.step, found, reduceCtorEq, Option.some.injEq] at stepped
          subst stepped
          exact ⟨read, stored, early, late⟩
  | respond succeeded =>
      cases mutation <;> simp only [CacheRace.step, reduceCtorEq] at stepped
      split at stepped
      · cases stepped
        exact ⟨read, stored, fun _ => early nofun, nofun⟩
      · cases stepped
  | invalidate =>
      -- the invalidation empties both tiers before any late store
      cases mutation <;> simp only [CacheRace.step, reduceCtorEq, Option.some.injEq] at stepped
      subst stepped
      have notLate : storedLate = false := early nofun
      exact ⟨read, by simp [notLate], nofun, fun _ => .inl ⟨rfl, notLate⟩⟩

theorem raceInvariant_reachable {replicaCount version : Nat} {localMap shared : Option Nat}
    {s : CacheRace}
    (reachable : Reachable CacheRace.step (CacheRace.init replicaCount version localMap shared) s) :
    RaceInvariant s :=
  reachable.invariant RaceInvariant (raceInvariant_init _ _ _ _) fun _ invariant stepped =>
    invariant.step stepped

theorem any_headRead_lt (s : CacheRace) :
    (s.reached.any fun reached => s.headRead < replicaState s.version reached) =
      (s.readBehind && s.reached.any id) := by
  obtain ⟨version, reached, _, _, _, _, readBehind, _⟩ := s
  cases readBehind
  · simp [CacheRace.headRead, replicaState]
  · simp only [CacheRace.headRead, Bool.true_and]
    congr 1
    funext reached
    cases reached <;> simp [replicaState]

/--
Once a mutation of a container has returned, whatever the interleaving with a
fill of its info and whenever the mutation reaches each replica, the shared
cache holds a state some replica has moved past exactly when the fill's
`mc.Set` ran after the invalidation, the replica its HEAD read had not yet
applied the mutation, and the mutation has reached some replica.
-/
theorem stale_iff_stored_late_from_replica_behind {replicaCount version : Nat}
    {localMap shared : Option Nat} {s : CacheRace}
    (reachable : Reachable CacheRace.step (CacheRace.init replicaCount version localMap shared) s)
    (mutationReturned : s.mutation = .returned) :
    s.stale = true ↔ s.storedLate = true ∧ s.readBehind = true ∧ s.reached.any id = true := by
  rcases (raceInvariant_reachable reachable).late mutationReturned with ⟨empty, notLate⟩ | ⟨late, stored⟩
  · simp [CacheRace.stale, empty, notLate]
  · simp only [CacheRace.stale, stored, any_headRead_lt, late, true_and, Bool.and_eq_true]

/--
Three replicas; the fill's HEAD reads the third before the mutation, which
returns once the first two have applied it, and the fill stores after the
invalidation: the stored state is behind.
-/
theorem stale_iff_stored_late_from_replica_behind_on_race :
    ∃ s, Reachable CacheRace.step (CacheRace.init 3 0 none none) s ∧
      (s.fill, s.mutation, s.storedLate, s.readBehind) = (.returned (some 0), .returned, true, true) ∧
      (s.stale = true ↔ s.storedLate = true ∧ s.readBehind = true ∧ s.reached.any id = true) := by
  obtain ⟨s, reachable, observed⟩ := Reachable.of_run_map CacheRace.step (CacheRace.init 3 0 none none)
    [.lookupLocal, .lookupShared false, .head 2 true, .apply 0, .apply 1, .respond true, .invalidate,
      .store]
    (fun s => (s.fill, s.mutation, s.storedLate, s.readBehind)) (.returned (some 0), .returned, true, true)
    (by decide)
  have returned : s.mutation = .returned := congrArg (·.2.1) observed
  exact ⟨s, reachable, observed, stale_iff_stored_late_from_replica_behind reachable returned⟩

/--
Three replicas; the mutation returns once the first two have applied it, and
its invalidation empties both tiers.  Only then does a fill start, with no
race: its HEAD is answered by the third replica, and the shared cache ends up
holding the state before the mutation.
-/
theorem stale_after_mutation_returned :
    ∃ t s, Reachable CacheRace.step (CacheRace.init 3 0 none none) t ∧
      t.mutation = .returned ∧ t.fill = .lookingUpLocal ∧
      Reachable CacheRace.step t s ∧ s.fill = .returned (some 0) ∧ s.stale = true := by
  obtain ⟨t, reachable, observed⟩ := Reachable.of_run_map CacheRace.step (CacheRace.init 3 0 none none)
    [.apply 0, .apply 1, .respond true, .invalidate]
    (fun t => (t.mutation, t.fill, (Transition.run CacheRace.step t
      [.lookupLocal, .lookupShared false, .head 2 true, .store]).map fun s => (s.fill, s.stale)))
    (.returned, .lookingUpLocal, some (.returned (some 0), true)) (by decide)
  simp only [Prod.mk.injEq] at observed
  obtain ⟨returned, fresh, filled⟩ := observed
  obtain ⟨s, ran, stale⟩ := Option.map_eq_some'.mp filled
  simp only [Prod.mk.injEq] at stale
  exact ⟨t, s, reachable, returned, fresh, Reachable.start.run ran, stale.1, stale.2⟩

end Hummingbird.Client.ContainerInfoCache
