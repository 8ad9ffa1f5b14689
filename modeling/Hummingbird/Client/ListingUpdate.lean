import Mathlib.Data.List.Nodup
import Hummingbird.Client.Http

/-!
# Listing-update headers

A write to a container or an object asks the servers that store it to tell the
listing servers one ring up: `addUpdateHeaders` gives worker `i` the listing
devices `devices[i]`, `devices[i + R]`, `devices[i + 2R]`, … as the
comma-joined `X-<Prefix>-Host` and `X-<Prefix>-Device` headers, where `R` is
the replica count of the ring the write goes to.  Over the workers
`0, …, R - 1` these stripes cover the listing devices once each.

The request factories of `PutContainer`, `DeleteContainer`, `putObject`,
`postObject` and `deleteObject` copy the client's header map into the backend
request and then set the partition and the stripe.  A worker whose index is at
or past the number of listing devices gets no stripe, and the copied client
values of `X-<Prefix>-Host` and `X-<Prefix>-Device` stay on its request.
-/

namespace Hummingbird.Client.ListingUpdate

open Hummingbird.Client.Ring
open Hummingbird.Client.Http

/-! ## `addUpdateHeaders` -/

/-- `fmt.Sprintf("%s:%d", dev.Ip, dev.Port)`. -/
def hostPort (device : Device) : String :=
  device.ip ++ ":" ++ toString device.port

/--
The loop `for ; i < len(devices); i += replicas` of `addUpdateHeaders` with its
accumulators `host` and `device`; `fuel` bounds the iterations.
-/
def stripeLoop (devices : List Device) (replicas : Nat) :
    (fuel i : Nat) → (host device : String) → String × String
  | 0, _, host, device => (host, device)
  | fuel + 1, i, host, device =>
      match devices[i]? with
      | some listing =>
          stripeLoop devices replicas fuel (i + replicas) (host ++ hostPort listing ++ ",")
            (device ++ listing.device ++ ",")
      | none => (host, device)

/--
`addUpdateHeaders(prefix, headers, devices, i, replicas)`.  A ring has at least
one replica, so the loop makes at most one iteration per listing device: that
is the fuel it is given.  The client passes the prefixes `X-Account` and
`X-Container`, so the keys set are canonical.
-/
def addUpdateHeaders (pre : String) (headers : Header) (devices : List Device) (i replicas : Nat) :
    Header :=
  if i < devices.length then
    let (host, device) := stripeLoop devices replicas devices.length i "" ""
    (headers.set (pre ++ "-Host") ⟨trimRight ',' host.data⟩).set (pre ++ "-Device")
      ⟨trimRight ',' device.data⟩
  else headers

/-- `strings.Split(s, sep)`, as a reader of the headers splits them. -/
def split (text : String) (sep : Char) : List String :=
  (text.data.splitOn sep).map String.mk

/-- The listing devices worker `i` names: `devices[i]`, `devices[i + replicas]`, … while they exist. -/
def stripe (devices : List Device) (i replicas : Nat) : List Device :=
  (List.range devices.length).filterMap fun k => devices[i + k * replicas]?

/-- The host header's text before trimming: `ip:port,` for each device of a stripe. -/
def hostText (listings : List Device) : List Char :=
  listings.flatMap fun listing => (hostPort listing).data ++ [',']

/-- The device header's text before trimming: `device,` for each device of a stripe. -/
def deviceText (listings : List Device) : List Char :=
  listings.flatMap fun listing => listing.device.data ++ [',']

theorem filterMap_stripe_eq_nil {devices : List Device} {i : Nat} (past : devices.length ≤ i)
    (replicas fuel : Nat) :
    (List.range fuel).filterMap (fun k => devices[i + k * replicas]?) = [] :=
  List.filterMap_eq_nil_iff.mpr fun _ _ => List.getElem?_eq_none (by omega)

/-- The loop appends one `ip:port,` and one `device,` for each device of the stripe. -/
theorem stripeLoop_eq (devices : List Device) (replicas : Nat) :
    ∀ (fuel i : Nat) (host device : String),
      stripeLoop devices replicas fuel i host device =
        (⟨host.data ++ hostText ((List.range fuel).filterMap fun k => devices[i + k * replicas]?)⟩,
          ⟨device.data ++ deviceText ((List.range fuel).filterMap fun k => devices[i + k * replicas]?)⟩)
  | 0, _, _, _ => by simp [stripeLoop, hostText, deviceText]
  | fuel + 1, i, host, device => by
      have shifted : (fun k => devices[i + (k + 1) * replicas]?) =
          fun k => devices[i + replicas + k * replicas]? := by
        funext k
        rw [Nat.succ_mul, Nat.add_comm (k * replicas), Nat.add_assoc]
      rw [List.range_succ_eq_map, List.filterMap_cons, List.filterMap_map]
      simp only [Nat.zero_mul, Nat.add_zero, stripeLoop, Function.comp_def, Nat.succ_eq_add_one,
        shifted]
      cases found : devices[i]? with
      | some listing =>
          simp [stripeLoop_eq devices replicas fuel (i + replicas), hostText, deviceText]
      | none =>
          have past : devices.length ≤ i := List.getElem?_eq_none_iff.mp found
          simp [filterMap_stripe_eq_nil (Nat.le_add_right_of_le past), hostText, deviceText]

/-! ## What the headers name -/

/-- A listing device the headers can name: commas only separate. -/
structure Listable (device : Device) : Prop where
  ip_comma_free : ',' ∉ device.ip.data
  name_nonempty : device.device ≠ ""
  name_comma_free : ',' ∉ device.device.data

instance (device : Device) : Decidable (Listable device) :=
  decidable_of_iff (',' ∉ device.ip.data ∧ device.device ≠ "" ∧ ',' ∉ device.device.data)
    ⟨fun ⟨ip, nonempty, name⟩ => ⟨ip, nonempty, name⟩, fun listable =>
      ⟨listable.ip_comma_free, listable.name_nonempty, listable.name_comma_free⟩⟩

theorem digitChar_ne_comma (digit : Nat) : Nat.digitChar digit ≠ ',' := by
  -- the sixteen digits by evaluation; every larger value is written `*`
  by_cases small : digit < 16
  · exact (by decide : ∀ d < 16, Nat.digitChar d ≠ ',') digit small
  · simp (disch := omega) only [Nat.digitChar, if_neg]
    decide

theorem comma_not_mem_toDigitsCore :
    ∀ (fuel n : Nat) (digits : List Char), ',' ∉ digits → ',' ∉ Nat.toDigitsCore 10 fuel n digits
  | 0, _, _, absent => absent
  | fuel + 1, n, digits, absent => by
      have more : ',' ∉ Nat.digitChar (n % 10) :: digits :=
        List.not_mem_cons_of_ne_of_not_mem (digitChar_ne_comma _).symm absent
      show ',' ∉ if n / 10 = 0 then Nat.digitChar (n % 10) :: digits
        else Nat.toDigitsCore 10 fuel (n / 10) (Nat.digitChar (n % 10) :: digits)
      split
      · exact more
      · exact comma_not_mem_toDigitsCore fuel _ _ more

theorem comma_not_mem_port (port : Nat) : ',' ∉ (toString port).data :=
  comma_not_mem_toDigitsCore (port + 1) port [] (List.not_mem_nil _)

theorem hostPort_wellFormed {device : Device} (listable : Listable device) :
    (hostPort device).data ≠ [] ∧ ∀ c ∈ (hostPort device).data, ¬ (c == ',') = true := by
  simp only [hostPort, String.data_append, beq_iff_eq]
  refine ⟨by simp, fun c mem same => ?_⟩
  subst same
  simp only [List.mem_append] at mem
  rcases mem with (ip | colon) | port
  · exact listable.ip_comma_free ip
  · exact absurd colon (by decide)
  · exact comma_not_mem_port device.port port

theorem name_wellFormed {device : Device} (listable : Listable device) :
    device.device.data ≠ [] ∧ ∀ c ∈ device.device.data, ¬ (c == ',') = true := by
  refine ⟨fun empty => listable.name_nonempty (String.ext empty), fun c mem same => ?_⟩
  exact listable.name_comma_free (eq_of_beq same ▸ mem)

/--
Trimming and splitting the text of a nonempty stripe, each listing written by
`text` and followed by a comma, gives back the listings' texts.
-/
theorem split_joined (text : Device → String) {listings : List Device} (nonempty : listings ≠ [])
    (wellFormed : ∀ listing ∈ listings,
      (text listing).data ≠ [] ∧ ∀ c ∈ (text listing).data, ¬ (c == ',') = true) :
    split ⟨trimRight ',' (listings.flatMap fun listing => (text listing).data ++ [','])⟩ ',' =
      listings.map text := by
  have pieces := @splitOnP_trimRight_flatMap _ _ (· == ',') ',' (by decide)
    (listings.map fun listing => (text listing).data) (by simpa using nonempty)
    (by simpa using wellFormed)
  simp only [List.flatMap_map] at pieces
  simp only [split, List.splitOn, pieces, List.map_map]
  rfl

theorem stripe_ne_nil {devices : List Device} {i : Nat} (within : i < devices.length)
    (replicas : Nat) : stripe devices i replicas ≠ [] := by
  cases devices with
  | nil => exact absurd within (Nat.not_lt_zero _)
  | cons first rest =>
      simp [stripe, List.range_succ_eq_map, List.getElem?_eq_getElem within]

theorem prefix_keys_ne (pre : String) {first second : String} (differs : first ≠ second) :
    pre ++ first ≠ pre ++ second := fun same =>
  differs (String.ext (List.append_cancel_left (congrArg String.data same)))

/-- With a listing device of its own, a worker's request names exactly its stripe. -/
theorem lookup_addUpdateHeaders (pre : String) (headers : Header) {devices : List Device} {i : Nat}
    (within : i < devices.length) (replicas : Nat) :
    (addUpdateHeaders pre headers devices i replicas).entries.lookup (pre ++ "-Host") =
        some [⟨trimRight ',' (hostText (stripe devices i replicas))⟩] ∧
      (addUpdateHeaders pre headers devices i replicas).entries.lookup (pre ++ "-Device") =
        some [⟨trimRight ',' (deviceText (stripe devices i replicas))⟩] := by
  simp only [addUpdateHeaders, within, if_true, stripeLoop_eq]
  exact ⟨by rw [Header.lookup_set_ne _ _ (prefix_keys_ne pre (by decide)), Header.lookup_set_self]; rfl,
    by rw [Header.lookup_set_self]; rfl⟩

theorem lookup_addUpdateHeaders_ne {pre key : String} (headers : Header) (devices : List Device)
    (i replicas : Nat) (notHost : key ≠ pre ++ "-Host") (notDevice : key ≠ pre ++ "-Device") :
    (addUpdateHeaders pre headers devices i replicas).entries.lookup key = headers.entries.lookup key := by
  unfold addUpdateHeaders
  split
  · rw [Header.lookup_set_ne _ _ notDevice, Header.lookup_set_ne _ _ notHost]
  · rfl

/-! ## The stripes partition the listing devices -/

/-- The positions `i`, `i + R`, `i + 2R`, … of every worker `i < R`, cut to the list, are the positions of the list. -/
theorem stripeIndices_perm {count replicas : Nat} (positive : 0 < replicas) :
    (((List.range replicas).flatMap fun i => (List.range count).map fun k => i + k * replicas).filter
      (· < count)).Perm (List.range count) := by
  have distinct : ((List.range replicas).flatMap fun i =>
      (List.range count).map fun k => i + k * replicas).Nodup := by
    refine List.nodup_flatMap.mpr ⟨fun i _ => (List.nodup_range count).map fun k l same => ?_, ?_⟩
    · exact Nat.eq_of_mul_eq_mul_right positive (by omega)
    · refine (List.nodup_range replicas).imp_of_mem fun {i j} iMem jMem differs => ?_
      simp only [Function.onFun, List.disjoint_left, List.mem_map]
      rintro _ ⟨k, -, rfl⟩ ⟨l, -, same⟩
      have residues := congrArg (· % replicas) same
      simp only [Nat.add_mul_mod_self_right, Nat.mod_eq_of_lt (List.mem_range.mp iMem),
        Nat.mod_eq_of_lt (List.mem_range.mp jMem)] at residues
      exact differs residues.symm
  refine (List.perm_ext_iff_of_nodup (distinct.filter _) (List.nodup_range count)).mpr fun index => ?_
  simp only [List.mem_filter, List.mem_flatMap, List.mem_range, List.mem_map, decide_eq_true_eq]
  constructor
  · exact fun ⟨_, below⟩ => below
  · intro below
    refine ⟨⟨index % replicas, Nat.mod_lt _ positive, index / replicas,
      Nat.lt_of_le_of_lt (Nat.div_le_self _ _) below, Nat.mod_add_div' index replicas⟩, below⟩

theorem filterMap_getElem?_range : ∀ devices : List Device,
    (List.range devices.length).filterMap (fun k => devices[k]?) = devices
  | [] => rfl
  | device :: devices => by
      rw [List.length_cons, List.range_succ_eq_map, List.filterMap_cons, List.filterMap_map]
      simpa [Function.comp_def] using filterMap_getElem?_range devices

/-- Over the workers `0, …, R - 1` the stripes hold every listing device once: none is dropped or repeated. -/
theorem stripes_perm (devices : List Device) {replicas : Nat} (positive : 0 < replicas) :
    ((List.range replicas).flatMap fun i => stripe devices i replicas).Perm devices := by
  have reindexed : ((List.range replicas).flatMap fun i => stripe devices i replicas) =
      (((List.range replicas).flatMap fun i => (List.range devices.length).map fun k => i + k * replicas).filter
        (· < devices.length)).filterMap fun k => devices[k]? := by
    rw [List.filterMap_filter, List.filterMap_flatMap]
    congr 1
    funext i
    rw [stripe, List.filterMap_map]
    congr 1
    funext k
    simp only [Function.comp_apply, decide_eq_true_eq]
    split
    · rfl
    · exact List.getElem?_eq_none (by omega)
  rw [reindexed]
  exact ((stripeIndices_perm positive).filterMap _).trans (List.Perm.of_eq (filterMap_getElem?_range devices))

theorem mem_of_mem_stripe {devices : List Device} {i replicas : Nat} {listing : Device}
    (mem : listing ∈ stripe devices i replicas) : listing ∈ devices := by
  obtain ⟨k, -, found⟩ := List.mem_filterMap.mp mem
  exact List.mem_iff_getElem?.mpr ⟨_, found⟩

/--
For listing devices whose addresses and names hold no comma and whose names are
not empty, and a replica count of at least one: a worker with a listing device
of its own gets one `X-<Prefix>-Host` and one `X-<Prefix>-Device` value, which
split at commas into the `ip:port` strings and the device names of its stripe
`devices[i]`, `devices[i + R]`, …; any other worker's headers are left as they
were; and the stripes of the workers `0, …, R - 1` hold every listing device
once.
-/
theorem addUpdateHeaders_names_each_listing_once (pre : String) (headers : Header)
    {devices : List Device} (listable : ∀ device ∈ devices, Listable device) {replicas : Nat}
    (positive : 1 ≤ replicas) :
    (∀ i, i < devices.length →
      ∃ host device,
        (addUpdateHeaders pre headers devices i replicas).entries.lookup (pre ++ "-Host") =
          some [host] ∧
        (addUpdateHeaders pre headers devices i replicas).entries.lookup (pre ++ "-Device") =
          some [device] ∧
        split host ',' = (stripe devices i replicas).map hostPort ∧
        split device ',' = (stripe devices i replicas).map (·.device)) ∧
    (∀ i, devices.length ≤ i → addUpdateHeaders pre headers devices i replicas = headers) ∧
    ((List.range replicas).flatMap fun i => stripe devices i replicas).Perm devices := by
  refine ⟨fun i within => ?_, fun i past => if_neg (Nat.not_lt.mpr past), stripes_perm devices positive⟩
  have named : ∀ listing ∈ stripe devices i replicas, Listable listing :=
    fun listing mem => listable listing (mem_of_mem_stripe mem)
  obtain ⟨host, device⟩ := lookup_addUpdateHeaders pre headers within replicas
  exact ⟨_, _, host, device,
    split_joined hostPort (stripe_ne_nil within replicas) fun listing mem =>
      hostPort_wellFormed (named listing mem),
    split_joined (·.device) (stripe_ne_nil within replicas) fun listing mem =>
      name_wellFormed (named listing mem)⟩

/-- Three listing devices and two workers: worker 0 names the first and the third, worker 1 the second. -/
theorem addUpdateHeaders_names_each_listing_once_over_three :
    let devices : List Device :=
      [⟨"10.0.0.1", 6001, "sda"⟩, ⟨"10.0.0.2", 6001, "sdb"⟩, ⟨"10.0.0.3", 6001, "sdc"⟩]
    stripe devices 0 2 = [⟨"10.0.0.1", 6001, "sda"⟩, ⟨"10.0.0.3", 6001, "sdc"⟩] ∧
      stripe devices 1 2 = [⟨"10.0.0.2", 6001, "sdb"⟩] ∧
      (∀ device ∈ devices, Listable device) ∧ 1 ≤ 2 ∧
      ((∀ i, i < devices.length →
        ∃ host device,
          (addUpdateHeaders "X-Container" .empty devices i 2).entries.lookup "X-Container-Host" =
            some [host] ∧
          (addUpdateHeaders "X-Container" .empty devices i 2).entries.lookup "X-Container-Device" =
            some [device] ∧
          split host ',' = (stripe devices i 2).map hostPort ∧
          split device ',' = (stripe devices i 2).map (·.device)) ∧
        (∀ i, devices.length ≤ i → addUpdateHeaders "X-Container" .empty devices i 2 = .empty) ∧
        ((List.range 2).flatMap fun i => stripe devices i 2).Perm devices) :=
  ⟨by decide, by decide, by decide, by decide,
    addUpdateHeaders_names_each_listing_once "X-Container" .empty (by decide) (by decide)⟩

/-! ## The backend requests of writes -/

/--
`for key := range headers { req.Header.Set(key, headers.Get(key)) }`.  The
client's header maps are filled by `Set` or by the server's parser, so their
keys are canonical and `Get` and `Set` take them as they are.
-/
def copyHeaders (headers : Header) (into : Header) : Header :=
  headers.entries.foldl (fun req entry => req.set entry.1 (headers.get entry.1)) into

/-- `X-<Prefix>-Partition`, then `addUpdateHeaders`: how every writing factory fills the listing update. -/
def setListingUpdate (pre : String) (partition : Nat) (devices : List Device) (i replicas : Nat)
    (header : Header) : Header :=
  addUpdateHeaders pre (header.set (pre ++ "-Partition") (toString partition)) devices i replicas

/-- The header of the request `ProxyDirectClient.PutContainer` builds for worker `i`. -/
def putContainerHeader (headers : Header) (policyIndex policyDefault : Int) (accountPartition : Nat)
    (accountDevices : List Device) (containerReplicaCount i : Nat) : Header :=
  setListingUpdate "X-Account" accountPartition accountDevices i containerReplicaCount
    (((copyHeaders headers .empty).set "X-Backend-Storage-Policy-Index" (toString policyIndex)).set
      "X-Backend-Storage-Policy-Default" (toString policyDefault))

/-- The header of the request `ProxyDirectClient.DeleteContainer` builds for worker `i`. -/
def deleteContainerHeader (headers : Header) (accountPartition : Nat) (accountDevices : List Device)
    (containerReplicaCount i : Nat) : Header :=
  setListingUpdate "X-Account" accountPartition accountDevices i containerReplicaCount
    (copyHeaders headers .empty)

/-- The header of the request `standardObjectClient.putObject` builds for worker `index`. -/
def putObjectHeader (headers : Header) (policy : Int) (containerPartition : Nat)
    (containerDevices : List Device) (objectReplicaCount index : Nat) : Header :=
  (setListingUpdate "X-Container" containerPartition containerDevices index objectReplicaCount
    ((copyHeaders headers (Header.empty.set "Content-Type" "application/octet-stream")).set
      "X-Backend-Storage-Policy-Index" (toString policy))).set "Expect" "100-Continue"

/-- The header of the request `standardObjectClient.postObject` builds for worker `i`. -/
def postObjectHeader (headers : Header) (policy : Int) (containerPartition : Nat)
    (containerDevices : List Device) (objectReplicaCount i : Nat) : Header :=
  setListingUpdate "X-Container" containerPartition containerDevices i objectReplicaCount
    ((copyHeaders headers .empty).set "X-Backend-Storage-Policy-Index" (toString policy))

/-- The header of the request `standardObjectClient.deleteObject` builds for worker `i`. -/
def deleteObjectHeader (headers : Header) (policy : Int) (containerPartition : Nat)
    (containerDevices : List Device) (objectReplicaCount i : Nat) : Header :=
  let header := copyHeaders headers .empty
  let header :=
    if header.get "Content-Type" = "" then header.set "Content-Type" "application/octet-stream"
    else header
  setListingUpdate "X-Container" containerPartition containerDevices i objectReplicaCount
    (header.set "X-Backend-Storage-Policy-Index" (toString policy))

/-- A copied key holds the client's first value; any other key is as it was. -/
theorem lookup_copyHeaders (headers into : Header) (key : String) :
    (copyHeaders headers into).entries.lookup key =
      if key ∈ headers.entries.map Prod.fst then some [headers.get key] else into.entries.lookup key := by
  unfold copyHeaders
  generalize headers.entries = entries
  induction entries generalizing into with
  | nil => simp
  | cons entry rest ih =>
      rw [List.foldl_cons, ih]
      by_cases copied : key = entry.1
      · subst copied
        simp
      · have later : key ∈ entry.1 :: rest.map Prod.fst ↔ key ∈ rest.map Prod.fst := by
          simp [copied]
        simp only [Header.lookup_set_ne _ _ copied, List.map_cons, if_congr later rfl rfl]

/-- Without a listing device of its own, a worker's host and device headers are those it is given. -/
theorem lookup_setListingUpdate_of_le {pre : String} (partition : Nat) {devices : List Device}
    {i : Nat} (past : devices.length ≤ i) (replicas : Nat) (header : Header) {key : String}
    (named : key = pre ++ "-Host" ∨ key = pre ++ "-Device") :
    (setListingUpdate pre partition devices i replicas header).entries.lookup key =
      header.entries.lookup key := by
  rw [setListingUpdate, addUpdateHeaders, if_neg (Nat.not_lt.mpr past)]
  exact Header.lookup_set_ne _ _ (by rcases named with rfl | rfl <;> exact prefix_keys_ne pre (by decide))

/-- Past the listing devices, each object factory sends the client's `X-Container-Host` and `-Device`. -/
theorem objectHeaders_listing_of_le (headers : Header) (policy : Int) (containerPartition : Nat)
    {containerDevices : List Device} {i : Nat} (past : containerDevices.length ≤ i) (objectReplicaCount : Nat)
    {key : String} (named : key = "X-Container-Host" ∨ key = "X-Container-Device") :
    let sent := if key ∈ headers.entries.map Prod.fst then some [headers.get key] else none
    (putObjectHeader headers policy containerPartition containerDevices objectReplicaCount i).entries.lookup key =
        sent ∧
      (postObjectHeader headers policy containerPartition containerDevices objectReplicaCount i).entries.lookup key =
        sent ∧
      (deleteObjectHeader headers policy containerPartition containerDevices objectReplicaCount i).entries.lookup
        key = sent := by
  have other : key ≠ "Expect" ∧ key ≠ "X-Backend-Storage-Policy-Index" ∧ key ≠ "Content-Type" := by
    rcases named with rfl | rfl <;> decide
  have listing := fun header => lookup_setListingUpdate_of_le containerPartition past objectReplicaCount header
    (show key = "X-Container" ++ "-Host" ∨ key = "X-Container" ++ "-Device" from named)
  refine ⟨?put, ?post, ?delete⟩
  case put =>
    rw [putObjectHeader, Header.lookup_set_ne _ _ other.1, listing, Header.lookup_set_ne _ _ other.2.1,
      lookup_copyHeaders, Header.lookup_set_ne _ _ other.2.2]
    rfl
  case post =>
    rw [postObjectHeader, listing, Header.lookup_set_ne _ _ other.2.1, lookup_copyHeaders]
    rfl
  case delete =>
    dsimp only [deleteObjectHeader]
    rw [listing, Header.lookup_set_ne _ _ other.2.1]
    split
    · rw [Header.lookup_set_ne _ _ other.2.2, lookup_copyHeaders]
      rfl
    · rw [lookup_copyHeaders]
      rfl

/-- Past the listing devices, each container factory sends the client's `X-Account-Host` and `-Device`. -/
theorem containerHeaders_listing_of_le (headers : Header) (policyIndex policyDefault : Int) (accountPartition : Nat)
    {accountDevices : List Device} {i : Nat} (past : accountDevices.length ≤ i) (containerReplicaCount : Nat)
    {key : String} (named : key = "X-Account-Host" ∨ key = "X-Account-Device") :
    let sent := if key ∈ headers.entries.map Prod.fst then some [headers.get key] else none
    (putContainerHeader headers policyIndex policyDefault accountPartition accountDevices containerReplicaCount
        i).entries.lookup key = sent ∧
      (deleteContainerHeader headers accountPartition accountDevices containerReplicaCount i).entries.lookup key =
        sent := by
  have other : key ≠ "X-Backend-Storage-Policy-Default" ∧ key ≠ "X-Backend-Storage-Policy-Index" := by
    rcases named with rfl | rfl <;> decide
  have listing := fun header => lookup_setListingUpdate_of_le accountPartition past containerReplicaCount header
    (show key = "X-Account" ++ "-Host" ∨ key = "X-Account" ++ "-Device" from named)
  refine ⟨?put, ?delete⟩
  case put =>
    rw [putContainerHeader, listing, Header.lookup_set_ne _ _ other.1, Header.lookup_set_ne _ _ other.2,
      lookup_copyHeaders]
    rfl
  case delete =>
    rw [deleteContainerHeader, listing, lookup_copyHeaders]
    rfl

/--
Two runs of each writing factory that differ only in the client's header map,
on a ring of two replicas whose listing ring gives one device: worker 1 has no
stripe, and its request carries the client's `X-Container-Host` (or
`X-Account-Host`) in one run and no such header in the other.
-/
theorem listing_headers_depend_on_client_headers :
    let listing : List Device := [⟨"10.0.0.5", 6001, "sdb"⟩]
    let client : Header :=
      ⟨[("X-Container-Host", ["203.0.113.9:80"]), ("X-Account-Host", ["203.0.113.9:80"])], by decide⟩
    (putObjectHeader client 0 7 listing 2 1).entries.lookup "X-Container-Host" =
        some ["203.0.113.9:80"] ∧
      (putObjectHeader .empty 0 7 listing 2 1).entries.lookup "X-Container-Host" = none ∧
      (postObjectHeader client 0 7 listing 2 1).entries.lookup "X-Container-Host" =
        some ["203.0.113.9:80"] ∧
      (postObjectHeader .empty 0 7 listing 2 1).entries.lookup "X-Container-Host" = none ∧
      (deleteObjectHeader client 0 7 listing 2 1).entries.lookup "X-Container-Host" =
        some ["203.0.113.9:80"] ∧
      (deleteObjectHeader .empty 0 7 listing 2 1).entries.lookup "X-Container-Host" = none ∧
      (putContainerHeader client 0 0 3 listing 2 1).entries.lookup "X-Account-Host" =
        some ["203.0.113.9:80"] ∧
      (putContainerHeader .empty 0 0 3 listing 2 1).entries.lookup "X-Account-Host" = none ∧
      (deleteContainerHeader client 3 listing 2 1).entries.lookup "X-Account-Host" =
        some ["203.0.113.9:80"] ∧
      (deleteContainerHeader .empty 3 listing 2 1).entries.lookup "X-Account-Host" = none := by
  intro listing client
  have past : listing.length ≤ 1 := le_refl 1
  obtain ⟨put, post, delete⟩ := objectHeaders_listing_of_le client 0 7 past 2 (Or.inl rfl)
  obtain ⟨put', post', delete'⟩ := objectHeaders_listing_of_le .empty 0 7 past 2 (Or.inl rfl)
  obtain ⟨putContainer, deleteContainer⟩ := containerHeaders_listing_of_le client 0 0 3 past 2 (Or.inl rfl)
  obtain ⟨putContainer', deleteContainer'⟩ := containerHeaders_listing_of_le .empty 0 0 3 past 2 (Or.inl rfl)
  rw [put, put', post, post', delete, delete', putContainer, putContainer', deleteContainer, deleteContainer']
  decide

end Hummingbird.Client.ListingUpdate
