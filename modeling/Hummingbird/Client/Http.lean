import Hummingbird.Client.Ring

/-!
# HTTP values handled by the proxy client

The client package moves header maps and responses between its dispatchers.
A response is either the captured answer of one backend device
(`StubResponse`, which buffers the body and releases the socket) or a
synthetic one built by `ResponseStub` from a status and a body text.  The captured answer keeps the device it came from; the dispatch model
uses that origin to state which devices acknowledged a request.

Status codes are natural numbers: the HTTP client only yields three-digit
codes, and every synthetic status the package writes is positive, so the
`StatusCode < 0` tests of the source never hold.
-/

namespace Hummingbird.Client.Http

open Hummingbird.Client.Ring

/-- An `http.Header`: the entries of the Go map in one enumeration order. -/
structure Header where
  entries : List (String × List String)
  keys_nodup : (entries.map Prod.fst).Nodup

namespace Header

instance : DecidableEq Header := fun left right =>
  decidable_of_iff (left.entries = right.entries) (by
    cases left
    cases right
    simp)

def empty : Header :=
  ⟨[], List.nodup_nil⟩

/-- `Header.Get` for a key already in canonical form: its first value, or `""`. -/
def get (header : Header) (key : String) : String :=
  match header.entries.lookup key with
  | some (value :: _) => value
  | _ => ""

theorem mem_of_lookup_eq_some {key : String} {values : List String}
    {entries : List (String × List String)} (found : entries.lookup key = some values) :
    (key, values) ∈ entries := by
  obtain ⟨before, after, rfl, -⟩ := List.lookup_eq_some_iff.mp found
  exact List.mem_append_right _ (List.mem_cons_self _ _)

theorem lookup_eq_some_of_mem {key : String} {values : List String} :
    ∀ {entries : List (String × List String)}, (entries.map Prod.fst).Nodup →
      (key, values) ∈ entries → entries.lookup key = some values
  | [], _, mem => absurd mem (List.not_mem_nil _)
  | (name, stored) :: entries, nodup, mem => by
      simp only [List.map_cons, List.nodup_cons] at nodup
      rcases List.mem_cons.mp mem with same | later
      · simp only [Prod.mk.injEq] at same
        rw [same.1, same.2, List.lookup_cons_self]
      · have fresh : key ≠ name := fun same => nodup.1 (same ▸ List.mem_map_of_mem Prod.fst later)
        rw [List.lookup_cons, beq_false_of_ne fresh]
        exact lookup_eq_some_of_mem nodup.2 later

/-- A header map's lookups do not depend on the order its entries are enumerated in. -/
theorem lookup_eq_of_perm {left right : Header} (reordered : left.entries.Perm right.entries)
    (key : String) : left.entries.lookup key = right.entries.lookup key := by
  cases found : left.entries.lookup key with
  | some values =>
      exact (lookup_eq_some_of_mem right.keys_nodup
        (reordered.mem_iff.mp (mem_of_lookup_eq_some found))).symm
  | none =>
      exact (List.lookup_eq_none_iff.mpr fun entry mem =>
        List.lookup_eq_none_iff.mp found entry (reordered.mem_iff.mpr mem)).symm

theorem get_eq_empty_or_mem (header : Header) (key : String) :
    header.get key = "" ∨ ∃ entry ∈ header.entries, header.get key ∈ entry.2 := by
  unfold get
  split
  · rename_i value rest found
    exact .inr ⟨(key, value :: rest), mem_of_lookup_eq_some found, List.mem_cons_self _ _⟩
  · exact .inl rfl

/-- `Header.Set` for a key already in canonical form: the key maps to `[value]`. -/
def set (header : Header) (key value : String) : Header :=
  if present : key ∈ header.entries.map Prod.fst then
    ⟨header.entries.map (fun entry => if entry.1 = key then (key, [value]) else entry), by
      have keys :
          (header.entries.map
              (fun entry => if entry.1 = key then (key, [value]) else entry)).map Prod.fst =
            header.entries.map Prod.fst := by
        simp only [List.map_map]
        congr 1
        funext entry
        by_cases h : entry.1 = key <;> simp [h]
      rw [keys]
      exact header.keys_nodup⟩
  else
    ⟨header.entries ++ [(key, [value])], by
      simpa [List.nodup_append] using And.intro header.keys_nodup present⟩

@[simp]
theorem lookup_set_self (header : Header) (key value : String) :
    (header.set key value).entries.lookup key = some [value] := by
  apply lookup_eq_some_of_mem (header.set key value).keys_nodup
  unfold set
  split
  · rename_i present
    obtain ⟨entry, mem, named⟩ := List.mem_map.mp present
    exact List.mem_map.mpr ⟨entry, mem, by simp [named]⟩
  · exact List.mem_append_right _ (List.mem_singleton_self _)

theorem lookup_set_ne (header : Header) {key other : String} (value : String) (differs : other ≠ key) :
    (header.set key value).entries.lookup other = header.entries.lookup other := by
  have keeps : ∀ values, (other, values) ∈ (header.set key value).entries ↔
      (other, values) ∈ header.entries := by
    intro values
    unfold set
    split
    · simp only [List.mem_map]
      constructor
      · rintro ⟨entry, mem, rewritten⟩
        split at rewritten
        · simp only [Prod.mk.injEq] at rewritten
          exact absurd rewritten.1.symm differs
        · exact rewritten ▸ mem
      · intro mem
        exact ⟨_, mem, by simp [differs]⟩
    · simp [differs]
  cases found : header.entries.lookup other with
  | some values =>
      exact lookup_eq_some_of_mem (header.set key value).keys_nodup
        ((keeps values).mpr (mem_of_lookup_eq_some found))
  | none =>
      refine List.lookup_eq_none_iff.mpr fun entry mem => ?_
      have absent := List.lookup_eq_none_iff.mp found (other, entry.2)
      by_contra named
      simp only [bne_iff_ne, ne_eq, not_not] at named
      exact absurd ((keeps entry.2).mp (named ▸ mem)) (by simpa using absent)

end Header

/-! ## String functions of the Go library, on characters or bytes -/

section Strings

variable {α : Type} [DecidableEq α]

/-- `strings.TrimRight(s, cutset)` for a one-element cutset: every trailing `cut` goes. -/
def trimRight (cut : α) (text : List α) : List α :=
  (text.reverse.dropWhile (· = cut)).reverse

theorem trimRight_append (cut : α) (front : List α) {back : List α}
    (kept : trimRight cut back ≠ []) :
    trimRight cut (front ++ back) = front ++ trimRight cut back := by
  have stops : (back.reverse.dropWhile (· = cut)).isEmpty = false := by
    simpa [trimRight] using kept
  simp only [trimRight, List.reverse_append, List.dropWhile_append, stops, if_false]
  simp

theorem trimRight_append_cut {cut : α} {text : List α} (lastKept : ∀ last ∈ text.getLast?, last ≠ cut) :
    trimRight cut (text ++ [cut]) = text := by
  rcases List.eq_nil_or_concat text with rfl | ⟨front, last, rfl⟩
  · simp [trimRight]
  · simp [trimRight, lastKept last (by simp)]

/--
Pieces each followed by `sep` and trimmed of trailing separators split back
into the pieces, when no piece is empty or holds a separator.
-/
theorem splitOnP_trimRight_flatMap {p : α → Bool} {sep : α} (separates : p sep) :
    ∀ {pieces : List (List α)}, pieces ≠ [] → (∀ piece ∈ pieces, piece ≠ [] ∧ ∀ x ∈ piece, ¬ p x) →
      (trimRight sep (pieces.flatMap (· ++ [sep]))).splitOnP p = pieces
  | [], nonempty, _ => absurd rfl nonempty
  | [piece], _, wellFormed => by
      have free := (wellFormed piece (List.mem_singleton_self _)).2
      rw [List.flatMap_singleton, trimRight_append_cut fun last mem same =>
        free last (List.mem_of_getLast?_eq_some mem) (same ▸ separates)]
      exact List.splitOnP_eq_single _ _ free
  | piece :: next :: rest, _, wellFormed => by
      have free := (wellFormed piece (List.mem_cons_self _ _)).2
      have tail := splitOnP_trimRight_flatMap separates (List.cons_ne_nil next rest)
        fun other mem => wellFormed other (List.mem_cons_of_mem _ mem)
      have kept : trimRight sep ((next :: rest).flatMap (· ++ [sep])) ≠ [] := by
        intro empty
        rw [empty, List.splitOnP_nil] at tail
        exact (wellFormed next (by simp)).1 (List.cons_eq_cons.mp tail).1.symm
      rw [List.flatMap_cons, trimRight_append sep _ kept, List.append_assoc, List.singleton_append,
        List.splitOnP_first p piece free sep separates, tail]

end Strings

/-- A response returned by a dispatcher. -/
inductive Response where
  /-- `StubResponse(r)`: the buffered answer `origin` gave to one backend request. -/
  | backend (origin : Device) (statusCode : Nat) (header : Header)
  /-- `ResponseStub(statusCode, body)`: a synthetic response. -/
  | stub (statusCode : Nat) (body : String)
deriving DecidableEq

namespace Response

/-- `resp.StatusCode`. -/
def statusCode : Response → Nat
  | .backend _ statusCode _ => statusCode
  | .stub statusCode _ => statusCode

@[simp]
theorem statusCode_backend (origin : Device) (statusCode : Nat) (header : Header) :
    (backend origin statusCode header).statusCode = statusCode :=
  rfl

@[simp]
theorem statusCode_stub (statusCode : Nat) (body : String) :
    (stub statusCode body).statusCode = statusCode :=
  rfl

/-- The device whose answer this is, if any. -/
def origin? : Response → Option Device
  | .backend origin _ _ => some origin
  | .stub _ _ => none

/-- `http.StatusServiceUnavailable` with the quorum dispatcher's body text. -/
def unavailable : Response :=
  .stub 503 "The service is currently unavailable."

end Response

end Hummingbird.Client.Http
