import Hummingbird.Client.ListingUpdate
import Hummingbird.Client.ContainerHead

/-!
# The storage policy index the client sends

`ProxyDirectClient.PutContainer` resolves the `X-Storage-Policy` header of the
client against the policy list: an empty header leaves the index at `-1`, a
name names the first policy of that name, and a name of no policy or of a
deprecated one is refused with a 400 answer before any container server is
contacted.  Every container server then gets the index and the default in
`X-Backend-Storage-Policy-Index` and `X-Backend-Storage-Policy-Default`,
written with `strconv.Itoa` after the client's headers are copied.

The object operations go through `newObjectClient`, which takes the policy
index from `GetContainerInfo`, and each of their request factories writes
that index in `X-Backend-Storage-Policy-Index`, again after the client's
headers.  The results here say that what arrives in that header is read back
by `strconv.Atoi` as exactly the index meant, whatever the client's own
header map holds: the decimal form of an `int64` is read back, and no copied
header survives the later `Set`.
-/

namespace Hummingbird.Client.StoragePolicy

open Hummingbird.Client.Ring
open Hummingbird.Client.Http
open Hummingbird.Client.ListingUpdate
open Hummingbird.Client.ContainerHead

/-- A `*conf.Policy`, with the fields `PutContainer` reads. -/
structure Policy where
  index : Int
  name : String
  deprecated : Bool
deriving DecidableEq

/-- The header that names a request's storage policy to the backends. -/
def policyIndexKey : String := "X-Backend-Storage-Policy-Index"

section Quote

-- `strconv.Quote`, with which `%q` writes the policy name into a 400 answer
variable (quote : String → String)

/--
The policy lookup of `ProxyDirectClient.PutContainer`: `-1` without a name,
the index of the first policy of that name, or the 400 answer.
-/
def resolvePolicy (policyList : List Policy) (headers : Header) : Except Response Int :=
  let policyName := headers.get "X-Storage-Policy"
  if policyName ≠ "" then
    match policyList.find? (fun policy => policy.name == policyName) with
    | none => .error (.stub 400 ("Invalid X-Storage-Policy " ++ quote policyName))
    | some policy =>
        if policy.deprecated then
          .error (.stub 400 ("Storage Policy " ++ quote policyName ++ " is deprecated"))
        else .ok policy.index
  else .ok (-1)

/--
`ProxyDirectClient.PutContainer`: the 400 answer, or the header of the
request of each worker `i`, which `quorumResponse` dispatches.
-/
def putContainer (policyList : List Policy) (policyDefault : Int) (headers : Header)
    (accountPartition : Nat) (accountDevices : List Device) (containerReplicaCount : Nat) :
    Except Response (Nat → Header) :=
  (resolvePolicy quote policyList headers).map fun policyIndex i =>
    putContainerHeader headers policyIndex policyDefault accountPartition accountDevices
      containerReplicaCount i

end Quote

/-- The header of the requests of `standardObjectClient.getObject` and `headObject`. -/
def readObjectHeader (headers : Header) (policy : Int) : Header :=
  (copyHeaders headers .empty).set policyIndexKey (toString policy)

/-- The header of the request `standardObjectClient.getObject` sends. -/
def getObjectHeader (headers : Header) (policy : Int) : Header :=
  readObjectHeader headers policy

/-- The header of the request `standardObjectClient.headObject` sends. -/
def headObjectHeader (headers : Header) (policy : Int) : Header :=
  readObjectHeader headers policy

/-- The header of the request `standardObjectClient.grepObject` sends: no client header is copied. -/
def grepObjectHeader (policy : Int) : Header :=
  Header.empty.set policyIndexKey (toString policy)

/-- What `newObjectClient` builds for an account and container. -/
inductive ObjectClient where
  /-- An `erroringObjectClient`: every operation answers 500 with `body`. -/
  | erroring (body : String)
  /-- A `standardObjectClient` on the object ring of `policy`. -/
  | standard (policy : Int)
deriving DecidableEq

/--
`newObjectClient`, given what `GetContainerInfo` returned, whether
`conf.GetHashPrefixAndSuffix` succeeded, and for which policies
`ring.GetRing` loads an object ring.
-/
def newObjectClient (info : Except InfoError ContainerInfo) (hashPathLoaded : Bool)
    (ringLoads : Int → Bool) : ObjectClient :=
  match info with
  | .error _ => .erroring "Could not retrieve container information."
  | .ok ci =>
      if !hashPathLoaded then .erroring "Could not retrieve hash path prefix and suffix."
      else if !ringLoads ci.storagePolicyIndex then
        .erroring ("Could not load object ring for policy " ++ toString ci.storagePolicyIndex ++ ".")
      else .standard ci.storagePolicyIndex

/-! ## What a request's policy header holds -/

theorem get_of_lookup {header : Header} {key value : String}
    (found : header.entries.lookup key = some [value]) : header.get key = value := by
  unfold Header.get
  rw [found]

theorem lookup_setListingUpdate_ne {pre key : String} (partition : Nat) (devices : List Device)
    (i replicas : Nat) (header : Header) (notPartition : key ≠ pre ++ "-Partition")
    (notHost : key ≠ pre ++ "-Host") (notDevice : key ≠ pre ++ "-Device") :
    (setListingUpdate pre partition devices i replicas header).entries.lookup key =
      header.entries.lookup key := by
  rw [setListingUpdate, lookup_addUpdateHeaders_ne _ _ _ _ notHost notDevice,
    Header.lookup_set_ne _ _ notPartition]

theorem atoi_of_lookup {header : Header} {index : Int}
    (found : header.entries.lookup policyIndexKey = some [toString index])
    (low : -2 ^ 63 ≤ index) (high : index < 2 ^ 63) : atoi (header.get policyIndexKey) = .ok index := by
  rw [get_of_lookup found]
  exact atoi_toString low high

/-- Each factory of an object request sets the policy index after copying the client's headers. -/
theorem lookup_policyIndex_objects (headers : Header) (policy : Int) (containerPartition : Nat)
    (containerDevices : List Device) (objectReplicaCount i : Nat) :
    ∀ request ∈ [putObjectHeader headers policy containerPartition containerDevices objectReplicaCount i,
      postObjectHeader headers policy containerPartition containerDevices objectReplicaCount i,
      deleteObjectHeader headers policy containerPartition containerDevices objectReplicaCount i,
      getObjectHeader headers policy, headObjectHeader headers policy, grepObjectHeader policy],
      request.entries.lookup policyIndexKey = some [toString policy] := by
  have listing : ∀ header : Header,
      (setListingUpdate "X-Container" containerPartition containerDevices i objectReplicaCount
        (header.set policyIndexKey (toString policy))).entries.lookup policyIndexKey =
          some [toString policy] := fun header => by
    rw [lookup_setListingUpdate_ne _ _ _ _ _ (by decide) (by decide) (by decide), Header.lookup_set_self]
  simp only [List.mem_cons, List.mem_singleton, List.not_mem_nil, or_false]
  rintro request (rfl | rfl | rfl | rfl | rfl | rfl)
  · rw [putObjectHeader, Header.lookup_set_ne _ _ (by decide)]
    exact listing _
  · exact listing _
  · exact listing _
  all_goals exact Header.lookup_set_self _ _ _

/--
Every request an object client built from a container's HEAD answer sends,
to any object server and whatever the client's own header map holds, names
in `X-Backend-Storage-Policy-Index` the policy index `GetContainerInfo` read
from that answer, in a form `strconv.Atoi` reads back as that index.
-/
theorem object_requests_carry_policy {statusCode : Nat} {header : Header} {hashPathLoaded : Bool}
    {ringLoads : Int → Bool} {policy : Int}
    (built : newObjectClient (infoFromHead statusCode header) hashPathLoaded ringLoads = .standard policy)
    (headers : Header) (containerPartition : Nat) (containerDevices : List Device)
    (objectReplicaCount i : Nat) :
    (∃ ci, infoFromHead statusCode header = .ok ci ∧ ci.storagePolicyIndex = policy) ∧
      ∀ request ∈ [putObjectHeader headers policy containerPartition containerDevices objectReplicaCount i,
        postObjectHeader headers policy containerPartition containerDevices objectReplicaCount i,
        deleteObjectHeader headers policy containerPartition containerDevices objectReplicaCount i,
        getObjectHeader headers policy, headObjectHeader headers policy, grepObjectHeader policy],
        atoi (request.get policyIndexKey) = .ok policy := by
  have read : ∃ ci, infoFromHead statusCode header = .ok ci ∧ ci.storagePolicyIndex = policy := by
    unfold newObjectClient at built
    split at built
    · cases built
    · rename_i ci found
      split_ifs at built
      cases built
      exact ⟨ci, found, rfl⟩
  obtain ⟨ci, found, rfl⟩ := read
  obtain ⟨-, low, high⟩ := storagePolicyIndex_of_infoFromHead found
  exact ⟨⟨ci, found, rfl⟩, fun request sent =>
    atoi_of_lookup (lookup_policyIndex_objects headers _ _ _ _ _ request sent) low high⟩

/--
A container on policy 2 whose object client is asked to send a request
carrying index 7 among the client's own headers: every request names policy 2.
-/
theorem object_requests_carry_policy_over_client_header :
    let answer : Header := ⟨[("X-Container-Object-Count", ["0"]), ("X-Container-Bytes-Used", ["0"]),
      ("X-Backend-Storage-Policy-Index", ["2"])], by decide⟩
    let headers : Header := ⟨[("X-Backend-Storage-Policy-Index", ["7"])], by decide⟩
    newObjectClient (infoFromHead 204 answer) true (fun _ => true) = .standard 2 ∧
      (∃ ci, infoFromHead 204 answer = .ok ci ∧ ci.storagePolicyIndex = 2) ∧
      ∀ request ∈ [putObjectHeader headers 2 0 [] 3 0, postObjectHeader headers 2 0 [] 3 0,
        deleteObjectHeader headers 2 0 [] 3 0, getObjectHeader headers 2, headObjectHeader headers 2,
        grepObjectHeader 2],
        atoi (request.get policyIndexKey) = .ok 2 := by
  intro answer headers
  have built : newObjectClient (infoFromHead 204 answer) true (fun _ => true) = .standard 2 := rfl
  exact ⟨built, object_requests_carry_policy built headers 0 [] 3 0⟩

/-- A container server's request carries the index and the default as they were resolved. -/
theorem lookup_putContainerHeader (headers : Header) (policyIndex policyDefault : Int)
    (accountPartition : Nat) (accountDevices : List Device) (containerReplicaCount i : Nat) :
    let request := putContainerHeader headers policyIndex policyDefault accountPartition accountDevices
      containerReplicaCount i
    request.entries.lookup policyIndexKey = some [toString policyIndex] ∧
      request.entries.lookup "X-Backend-Storage-Policy-Default" = some [toString policyDefault] := by
  constructor
  · rw [putContainerHeader, lookup_setListingUpdate_ne _ _ _ _ _ (by decide) (by decide) (by decide),
      Header.lookup_set_ne _ _ (by decide)]
    exact Header.lookup_set_self _ _ _
  · rw [putContainerHeader, lookup_setListingUpdate_ne _ _ _ _ _ (by decide) (by decide) (by decide),
      Header.lookup_set_self]

/--
`PutContainer` answers 400, and contacts no container server, exactly when
the client names a storage policy and the first policy of that name is
missing or deprecated.  Otherwise every container server's request carries,
whatever the client's own headers hold, a policy index that `strconv.Atoi`
reads back as the index of that policy (`-1` when the client names none),
and the default index.
-/
theorem putContainer_sends_resolved_policy (quote : String → String) (policyList : List Policy)
    {policyDefault : Int} (headers : Header) (accountPartition : Nat) (accountDevices : List Device)
    (containerReplicaCount : Nat)
    (indices : ∀ policy ∈ policyList, -2 ^ 63 ≤ policy.index ∧ policy.index < 2 ^ 63)
    (defaultLow : -2 ^ 63 ≤ policyDefault) (defaultHigh : policyDefault < 2 ^ 63) :
    let policyName := headers.get "X-Storage-Policy"
    let named := policyList.find? fun policy => policy.name == policyName
    match putContainer quote policyList policyDefault headers accountPartition accountDevices
        containerReplicaCount with
    | .error response =>
        response.statusCode = 400 ∧ policyName ≠ "" ∧ ∀ policy, named = some policy → policy.deprecated
    | .ok request => ∀ i, ∃ index, atoi ((request i).get policyIndexKey) = .ok index ∧
        atoi ((request i).get "X-Backend-Storage-Policy-Default") = .ok policyDefault ∧
        (policyName = "" ∧ index = -1 ∨
          ∃ policy, named = some policy ∧ policy.deprecated = false ∧ index = policy.index) := by
  intro policyName named
  have sends : ∀ index, -2 ^ 63 ≤ index → index < 2 ^ 63 → ∀ i,
      let request := putContainerHeader headers index policyDefault accountPartition accountDevices
        containerReplicaCount i
      atoi (request.get policyIndexKey) = .ok index ∧
        atoi (request.get "X-Backend-Storage-Policy-Default") = .ok policyDefault := fun index low high i =>
    ⟨atoi_of_lookup (lookup_putContainerHeader _ _ _ _ _ _ _).1 low high,
      by
        rw [get_of_lookup (lookup_putContainerHeader _ _ _ _ _ _ _).2]
        exact atoi_toString defaultLow defaultHigh⟩
  unfold putContainer resolvePolicy
  by_cases empty : policyName = ""
  · simp only [show headers.get "X-Storage-Policy" = "" from empty, ne_eq, not_true_eq_false, if_false]
    exact fun i => ⟨-1, (sends (-1) (by omega) (by omega) i).1, (sends (-1) (by omega) (by omega) i).2,
      .inl ⟨empty, rfl⟩⟩
  · simp only [show ¬ headers.get "X-Storage-Policy" = "" from empty, ne_eq, not_false_eq_true, if_true]
    cases found : named with
    | none =>
        simp only [named] at found
        simp only [found]
        exact ⟨rfl, trivial, fun _ none => nomatch none⟩
    | some policy =>
        simp only [named] at found
        have range := indices policy (List.mem_of_find?_eq_some found)
        by_cases deprecated : policy.deprecated
        · simp only [found, deprecated, if_true]
          exact ⟨rfl, trivial, fun _ same => Option.some.inj same ▸ deprecated⟩
        · simp only [found, deprecated, if_false]
          exact fun i => ⟨policy.index, (sends _ range.1 range.2 i).1, (sends _ range.1 range.2 i).2,
            .inr ⟨policy, rfl, by simpa using deprecated, rfl⟩⟩

/-- A PUT naming the first of two policies, the second deprecated, on a default of 0. -/
theorem putContainer_sends_resolved_policy_gold :
    let policyList : List Policy := [⟨0, "gold", false⟩, ⟨1, "silver", true⟩]
    let headers : Header := ⟨[("X-Storage-Policy", ["gold"])], by decide⟩
    (∀ policy ∈ policyList, -2 ^ 63 ≤ policy.index ∧ policy.index < 2 ^ 63) ∧
      (-2 ^ 63 ≤ (0 : Int) ∧ (0 : Int) < 2 ^ 63) ∧
      match putContainer id policyList 0 headers 0 [] 3 with
      | .error response => response.statusCode = 400 ∧ headers.get "X-Storage-Policy" ≠ "" ∧
          ∀ policy, policyList.find? (fun policy => policy.name == headers.get "X-Storage-Policy") =
            some policy → policy.deprecated
      | .ok request => ∀ i, ∃ index, atoi ((request i).get policyIndexKey) = .ok index ∧
          atoi ((request i).get "X-Backend-Storage-Policy-Default") = .ok 0 ∧
          (headers.get "X-Storage-Policy" = "" ∧ index = -1 ∨
            ∃ policy, policyList.find? (fun policy => policy.name == headers.get "X-Storage-Policy") =
              some policy ∧ policy.deprecated = false ∧ index = policy.index) := by
  intro policyList headers
  have indices : ∀ policy ∈ policyList, -2 ^ 63 ≤ policy.index ∧ policy.index < 2 ^ 63 := by decide
  exact ⟨indices, ⟨by decide, by decide⟩,
    putContainer_sends_resolved_policy id policyList headers 0 [] 3 indices (by decide) (by decide)⟩

end Hummingbird.Client.StoragePolicy
