import Mathlib.Data.List.Basic
import Hummingbird.Client.Http

/-!
# Option queries: `mkquery` and form decoding

`mkquery` writes a map of options as the query `?k₁=v₁&k₂=v₂…`, each name and
value escaped by `url.QueryEscape`, in the order Go enumerates the map.
`url.ParseQuery` reads such a query back.  Go strings are byte strings, and so
are the names, values and queries here.

`QueryEscape` writes a space as `+` and every byte but an ASCII letter, digit
or one of `-_.~` as `%` and two upper-case hex digits, so no escaped text holds
`&`, `;` or `=`.  The separators of the query are therefore its only ones, and
`TrimRight(query, "&")` removes just the separator after the last pair.
`ParseQuery` splits at `&` and `;` (the separators of the Go releases the
client was written against), cuts each part at its first `=` and unescapes
both halves, which gives every name and value back.
-/

namespace Hummingbird.Client.Query

open Hummingbird.Client.Http

/-! ## `url.QueryEscape` and `url.QueryUnescape` -/

/-- `shouldEscape(c, encodeQueryComponent)`: the query component reserves every byte but the unreserved ones. -/
def shouldEscape (c : UInt8) : Bool :=
  if ('A'.toUInt8 ≤ c ∧ c ≤ 'Z'.toUInt8) ∨ ('a'.toUInt8 ≤ c ∧ c ≤ 'z'.toUInt8) ∨
      ('0'.toUInt8 ≤ c ∧ c ≤ '9'.toUInt8) then false
  else if c = '-'.toUInt8 ∨ c = '_'.toUInt8 ∨ c = '.'.toUInt8 ∨ c = '~'.toUInt8 then false
  else true

/-- `"0123456789ABCDEF"`. -/
def upperhex : List UInt8 :=
  "0123456789ABCDEF".toList.map Char.toUInt8

/-- What `escape(s, encodeQueryComponent)` writes for the byte `c`. -/
def escapeByte (c : UInt8) : List UInt8 :=
  if c = ' '.toUInt8 then ['+'.toUInt8]
  else if shouldEscape c then
    ['%'.toUInt8, upperhex.getD (c >>> 4).toNat 0, upperhex.getD (c &&& 15).toNat 0]
  else [c]

/-- `url.QueryEscape(s)`. -/
def queryEscape (s : List UInt8) : List UInt8 :=
  s.flatMap escapeByte

/-- `ishex(c)`. -/
def ishex (c : UInt8) : Bool :=
  ('0'.toUInt8 ≤ c ∧ c ≤ '9'.toUInt8) ∨ ('a'.toUInt8 ≤ c ∧ c ≤ 'f'.toUInt8) ∨
    ('A'.toUInt8 ≤ c ∧ c ≤ 'F'.toUInt8)

/-- `unhex(c)`. -/
def unhex (c : UInt8) : UInt8 :=
  if '0'.toUInt8 ≤ c ∧ c ≤ '9'.toUInt8 then c - '0'.toUInt8
  else if 'a'.toUInt8 ≤ c ∧ c ≤ 'f'.toUInt8 then c - 'a'.toUInt8 + 10
  else if 'A'.toUInt8 ≤ c ∧ c ≤ 'F'.toUInt8 then c - 'A'.toUInt8 + 10
  else 0

/--
`url.QueryUnescape(s)`: `+` reads as a space and `%XY` as the byte `0xXY`; a
`%` without two hex digits after it is an `EscapeError` holding it and at most
two bytes after it.  The source first checks every escape and then converts;
the first malformed escape is the same either way.
-/
def unescape : List UInt8 → Except (List UInt8) (List UInt8)
  | [] => .ok []
  | c :: rest =>
      if c = '%'.toUInt8 then
        match rest with
        | high :: low :: tail =>
            if ishex high ∧ ishex low then
              (unescape tail).map ((unhex high <<< 4 ||| unhex low) :: ·)
            else .error [c, high, low]
        | _ => .error (c :: rest)
      else (unescape rest).map ((if c = '+'.toUInt8 then ' '.toUInt8 else c) :: ·)

/-! ## `mkquery` and `url.ParseQuery` -/

/-- A `map[string]string` of options, in one of the orders Go enumerates it in. -/
structure Options where
  entries : List (List UInt8 × List UInt8)
  keys_nodup : (entries.map Prod.fst).Nodup

/-- `mkquery(options)`. -/
def mkquery (options : Options) : List UInt8 :=
  let query := options.entries.foldl (fun query entry =>
    query ++ queryEscape entry.1 ++ ['='.toUInt8] ++ queryEscape entry.2 ++ ['&'.toUInt8]) []
  if query ≠ [] then '?'.toUInt8 :: trimRight '&'.toUInt8 query else []

/-- `url.Values`: each name with its values, names in the order they first appear. -/
abbrev Values := List (List UInt8 × List (List UInt8))

/-- `m[key] = append(m[key], value)`. -/
def addValue (values : Values) (key value : List UInt8) : Values :=
  if key ∈ values.map Prod.fst then
    values.map fun entry => if entry.1 = key then (entry.1, entry.2 ++ [value]) else entry
  else values ++ [(key, [value])]

/--
One pass of the loop of `parseQuery` over a part between separators: an empty
part is skipped, the part is cut at its first `=`, and a part whose name or
value does not unescape is skipped, its error kept if it is the first.
-/
def parsePart (parsed : Values × Option (List UInt8)) (part : List UInt8) :
    Values × Option (List UInt8) :=
  if part = [] then parsed
  else
    let (key, rest) := part.span (· ≠ '='.toUInt8)
    match unescape key, unescape (rest.drop 1) with
    | .ok key, .ok value => (addValue parsed.1 key value, parsed.2)
    | .error escape, _ => (parsed.1, parsed.2 <|> some escape)
    | .ok _, .error escape => (parsed.1, parsed.2 <|> some escape)

/-- `url.ParseQuery(query)`: the values and the first error. -/
def parseQuery (query : List UInt8) : Values × Option (List UInt8) :=
  (query.splitOnP fun c => c = '&'.toUInt8 ∨ c = ';'.toUInt8).foldl parsePart ([], none)

/-! ## Every byte reads back -/

theorem forall_byte {P : UInt8 → Prop}
    (all : ∀ high < 16, ∀ low < 16, P (UInt8.ofNat (16 * high + low))) (c : UInt8) : P c := by
  have bound : c.toNat < 256 := c.toNat_lt_size
  have halves := all (c.toNat / 16) (by omega) (c.toNat % 16) (Nat.mod_lt _ (by decide))
  rwa [Nat.div_add_mod, show UInt8.ofNat c.toNat = c from
    UInt8.toNat.inj (UInt8.toNat_ofNat_of_lt c.toNat_lt_size)] at halves

/-- The three ways `QueryEscape` writes a byte, each of which `QueryUnescape` reads back as the byte. -/
theorem escapeByte_cases : ∀ c : UInt8,
    (escapeByte c = [c] ∧ c ≠ '%'.toUInt8 ∧ c ≠ '+'.toUInt8) ∨
      (c = ' '.toUInt8 ∧ escapeByte c = ['+'.toUInt8]) ∨
      (escapeByte c = ['%'.toUInt8, upperhex.getD (c >>> 4).toNat 0, upperhex.getD (c &&& 15).toNat 0] ∧
        ishex (upperhex.getD (c >>> 4).toNat 0) ∧ ishex (upperhex.getD (c &&& 15).toNat 0) ∧
        (unhex (upperhex.getD (c >>> 4).toNat 0) <<< 4 ||| unhex (upperhex.getD (c &&& 15).toNat 0)) = c) :=
  forall_byte (by decide)

/--
No byte is escaped into a separator of the query: a byte kept as it is is
unreserved, and an escape is `%` and two hex digits.
-/
theorem separator_not_mem_escapeByte :
    ∀ c : UInt8, ∀ x ∈ escapeByte c, x ≠ '&'.toUInt8 ∧ x ≠ ';'.toUInt8 ∧ x ≠ '='.toUInt8 := by
  have digits : ∀ i, upperhex.getD i 0 ≠ '&'.toUInt8 ∧ upperhex.getD i 0 ≠ ';'.toUInt8 ∧
      upperhex.getD i 0 ≠ '='.toUInt8 := by
    intro i
    rw [List.getD_eq_getElem?_getD]
    cases found : upperhex[i]? with
    | none => decide
    | some y => exact (by decide : ∀ y ∈ upperhex, y ≠ '&'.toUInt8 ∧ y ≠ ';'.toUInt8 ∧ y ≠ '='.toUInt8) y
                  (List.getElem?_mem found)
  intro c x mem
  unfold escapeByte at mem
  split_ifs at mem with space escaped
  · rw [List.mem_singleton.mp mem]
    decide
  · simp only [List.mem_cons, List.mem_singleton, List.not_mem_nil, or_false] at mem
    rcases mem with rfl | rfl | rfl
    · decide
    · exact digits _
    · exact digits _
  · rw [List.mem_singleton.mp mem]
    refine ⟨?_, ?_, ?_⟩ <;> rintro rfl <;> exact absurd escaped (by decide)

theorem unescape_cons_of_ne {c : UInt8} (notPercent : c ≠ '%'.toUInt8) (rest : List UInt8) :
    unescape (c :: rest) = (unescape rest).map ((if c = '+'.toUInt8 then ' '.toUInt8 else c) :: ·) := by
  conv_lhs => unfold unescape
  exact if_neg notPercent

theorem unescape_escapeByte_append (c : UInt8) (rest : List UInt8) :
    unescape (escapeByte c ++ rest) = (unescape rest).map (c :: ·) := by
  rcases escapeByte_cases c with ⟨kept, notPercent, notPlus⟩ | ⟨rfl, plus⟩ | ⟨escaped, high, low, rebuilt⟩
  · rw [kept, List.singleton_append, unescape_cons_of_ne notPercent, if_neg notPlus]
  · rw [plus, List.singleton_append, unescape_cons_of_ne (by decide), if_pos rfl]
  · rw [escaped, List.cons_append, List.cons_append, List.cons_append, List.nil_append]
    conv_lhs => unfold unescape
    rw [if_pos rfl]
    dsimp only
    rw [if_pos ⟨high, low⟩, rebuilt]

/-- `QueryUnescape(QueryEscape(s)) = s`. -/
theorem unescape_queryEscape : ∀ s : List UInt8, unescape (queryEscape s) = .ok s
  | [] => rfl
  | c :: rest => by
      rw [queryEscape, List.flatMap_cons, ← queryEscape, unescape_escapeByte_append,
        unescape_queryEscape rest]
      rfl

theorem separator_not_mem_queryEscape {s : List UInt8} {x : UInt8} (mem : x ∈ queryEscape s) :
    x ≠ '&'.toUInt8 ∧ x ≠ ';'.toUInt8 ∧ x ≠ '='.toUInt8 := by
  obtain ⟨c, -, escaped⟩ := List.mem_flatMap.mp mem
  exact separator_not_mem_escapeByte c x escaped

/-! ## `mkquery` reads back -/

/-- One option as the loop of `mkquery` writes it, before its `&`. -/
def pairText (entry : List UInt8 × List UInt8) : List UInt8 :=
  queryEscape entry.1 ++ ['='.toUInt8] ++ queryEscape entry.2

theorem mkquery_loop (entries : List (List UInt8 × List UInt8)) (query : List UInt8) :
    entries.foldl (fun query entry =>
        query ++ queryEscape entry.1 ++ ['='.toUInt8] ++ queryEscape entry.2 ++ ['&'.toUInt8]) query =
      query ++ (entries.map pairText).flatMap (· ++ ['&'.toUInt8]) := by
  induction entries generalizing query with
  | nil => simp
  | cons entry rest ih =>
      rw [List.foldl_cons, ih]
      simp [pairText, List.append_assoc]

/-- An option's text is not empty and holds no separator of the query. -/
theorem pairText_wellFormed (entry : List UInt8 × List UInt8) :
    pairText entry ≠ [] ∧
      ∀ x ∈ pairText entry, ¬ (decide (x = '&'.toUInt8 ∨ x = ';'.toUInt8)) = true := by
  refine ⟨by simp [pairText], fun x mem => ?_⟩
  simp only [pairText, List.mem_append, List.mem_singleton] at mem
  have free : x ≠ '&'.toUInt8 ∧ x ≠ ';'.toUInt8 := by
    rcases mem with (name | rfl) | value
    · exact ⟨(separator_not_mem_queryEscape name).1, (separator_not_mem_queryEscape name).2.1⟩
    · decide
    · exact ⟨(separator_not_mem_queryEscape value).1, (separator_not_mem_queryEscape value).2.1⟩
  simpa using free

theorem mkquery_of_ne_nil {options : Options} (nonempty : options.entries ≠ []) :
    mkquery options =
      '?'.toUInt8 :: trimRight '&'.toUInt8 ((options.entries.map pairText).flatMap (· ++ ['&'.toUInt8])) := by
  obtain ⟨entry, rest, listed⟩ := List.exists_cons_of_ne_nil nonempty
  have written : (options.entries.map pairText).flatMap (· ++ ['&'.toUInt8]) ≠ [] := by
    simp [listed]
  simp only [mkquery, mkquery_loop, List.nil_append, ne_eq, written, not_false_eq_true, if_true]

theorem splitOnP_mkquery {options : Options} (nonempty : options.entries ≠ []) :
    ((mkquery options).drop 1).splitOnP (fun c => c = '&'.toUInt8 ∨ c = ';'.toUInt8) =
      options.entries.map pairText := by
  rw [mkquery_of_ne_nil nonempty, List.drop_succ_cons, List.drop_zero]
  exact splitOnP_trimRight_flatMap (by decide) (by simpa using nonempty)
    fun piece mem => by
      obtain ⟨entry, -, rfl⟩ := List.mem_map.mp mem
      exact pairText_wellFormed entry

theorem parsePart_pairText (values : Values) (entry : List UInt8 × List UInt8) :
    parsePart (values, none) (pairText entry) = (addValue values entry.1 entry.2, none) := by
  have nameFree : ∀ x ∈ queryEscape entry.1, decide (x ≠ '='.toUInt8) = true :=
    fun x mem => by simpa using (separator_not_mem_queryEscape mem).2.2
  have cut : (pairText entry).span (· ≠ '='.toUInt8) = (queryEscape entry.1, '='.toUInt8 :: queryEscape entry.2) := by
    rw [List.span_eq_take_drop, pairText, List.append_assoc, List.takeWhile_append_of_pos nameFree,
      List.dropWhile_append_of_pos nameFree, List.singleton_append,
      List.takeWhile_cons_of_neg (by simp), List.dropWhile_cons_of_neg (by simp), List.append_nil]
  simp only [parsePart, (pairText_wellFormed entry).1, if_false, cut, List.drop_succ_cons, List.drop_zero,
    unescape_queryEscape]

theorem addValue_of_not_mem {values : Values} {key : List UInt8} (fresh : key ∉ values.map Prod.fst)
    (value : List UInt8) : addValue values key value = values ++ [(key, [value])] :=
  if_neg fresh

/-- Parsing the texts of options with distinct names appends each with its one value. -/
theorem foldl_parsePart_pairText :
    ∀ (values : Values) (entries : List (List UInt8 × List UInt8)),
      (∀ entry ∈ entries, entry.1 ∉ values.map Prod.fst) → (entries.map Prod.fst).Nodup →
        (entries.map pairText).foldl parsePart (values, none) =
          (values ++ entries.map fun entry => (entry.1, [entry.2]), none)
  | values, [], _, _ => by simp
  | values, entry :: rest, fresh, distinct => by
      simp only [List.map_cons, List.nodup_cons] at distinct
      rw [List.map_cons, List.foldl_cons, parsePart_pairText,
        addValue_of_not_mem (fresh entry (List.mem_cons_self _ _)),
        foldl_parsePart_pairText _ rest (fun other mem => ?_) distinct.2]
      · simp
      · simp only [List.map_append, List.map_cons, List.map_nil, List.mem_append, List.mem_singleton,
          not_or]
        exact ⟨fresh other (List.mem_cons_of_mem _ mem),
          fun same => distinct.1 (same ▸ List.mem_map_of_mem Prod.fst mem)⟩

/-- A value holding a space and separators is written with `+` and percent escapes. -/
example :
    let options : Options := ⟨[("prefix".toList.map Char.toUInt8, "a b&c=d".toList.map Char.toUInt8)], by decide⟩
    mkquery options = "?prefix=a+b%26c%3Dd".toList.map Char.toUInt8 := by
  decide

/-! ## The values of one name -/

/-- `values[key]`: the values stored under `key`, none if it is absent. -/
def valuesOf (values : Values) (key : List UInt8) : List (List UInt8) :=
  (List.lookup key values).getD []

/-- The name and value one part between separators adds, if it adds one. -/
def partEntry (part : List UInt8) : Option (List UInt8 × List UInt8) :=
  if part = [] then none
  else
    let (key, rest) := part.span (· ≠ '='.toUInt8)
    match unescape key, unescape (rest.drop 1) with
    | .ok key, .ok value => some (key, value)
    | _, _ => none

/-- The value one part adds under `query`, if it adds one. -/
def partValue (query part : List UInt8) : Option (List UInt8) :=
  (partEntry part).bind fun entry => if entry.1 = query then some entry.2 else none

theorem parsePart_fst (parsed : Values × Option (List UInt8)) (part : List UInt8) :
    (parsePart parsed part).1 = match partEntry part with
      | some (key, value) => addValue parsed.1 key value
      | none => parsed.1 := by
  unfold parsePart partEntry
  split
  · rfl
  · generalize part.span (· ≠ '='.toUInt8) = cut
    obtain ⟨key, rest⟩ := cut
    dsimp only
    cases unescape key <;> cases unescape (rest.drop 1) <;> rfl

theorem lookup_cons_eq (name query : List UInt8) (found : List (List UInt8)) (rest : Values) :
    List.lookup query ((name, found) :: rest) = if query = name then some found else List.lookup query rest := by
  by_cases same : query = name
  · simp [List.lookup_cons, same]
  · rw [List.lookup_cons, beq_false_of_ne same, if_neg same]

theorem lookup_map_append (values : Values) (key value query : List UInt8) :
    List.lookup query (values.map fun entry => if entry.1 = key then (entry.1, entry.2 ++ [value]) else entry) =
      (List.lookup query values).map fun found => if key = query then found ++ [value] else found := by
  induction values with
  | nil => rfl
  | cons entry rest ih =>
      obtain ⟨name, found⟩ := entry
      have updated : (if name = key then (name, found ++ [value]) else (name, found)) =
          (name, if name = key then found ++ [value] else found) := by
        split <;> rfl
      simp only [List.map_cons, updated, lookup_cons_eq, ih]
      by_cases same : query = name
      · subst same
        by_cases keyed : query = key <;> simp [keyed, Ne.symm]
      · simp [same]

theorem valuesOf_addValue (values : Values) (key value query : List UInt8) :
    valuesOf (addValue values key value) query = valuesOf values query ++ if key = query then [value] else [] := by
  unfold addValue valuesOf
  split
  · rename_i present
    rw [lookup_map_append]
    by_cases same : key = query
    · subst same
      obtain ⟨found, lookedUp⟩ : ∃ found, List.lookup key values = some found :=
        Option.isSome_iff_exists.mp (List.lookup_isSome_iff.mpr (by simpa using present))
      simp [lookedUp]
    · cases List.lookup query values <;> simp [same]
  · rename_i absent
    rw [List.lookup_append]
    by_cases same : key = query
    · subst same
      have missing : List.lookup key values = none :=
        List.lookup_eq_none_iff.mpr fun entry mem => by
          simpa using fun named : key = entry.1 => absent (by rw [named]; exact List.mem_map_of_mem Prod.fst mem)
      simp [missing]
    · cases List.lookup query values <;> simp [same, lookup_cons_eq, Ne.symm same]

theorem valuesOf_parsePart (parsed : Values × Option (List UInt8)) (part query : List UInt8) :
    valuesOf (parsePart parsed part).1 query = valuesOf parsed.1 query ++ (partValue query part).toList := by
  rw [parsePart_fst, partValue]
  cases partEntry part with
  | none => simp
  | some entry =>
      obtain ⟨key, value⟩ := entry
      by_cases same : key = query <;> simp [valuesOf_addValue, same]

/-- Parsing parts appends, under each name, the values those parts add, in order. -/
theorem valuesOf_foldl_parsePart (query : List UInt8) :
    ∀ (parts : List (List UInt8)) (parsed : Values × Option (List UInt8)),
      valuesOf (parts.foldl parsePart parsed).1 query =
        valuesOf parsed.1 query ++ parts.filterMap (partValue query)
  | [], parsed => by simp
  | part :: rest, parsed => by
      rw [List.foldl_cons, valuesOf_foldl_parsePart query rest, valuesOf_parsePart, List.filterMap_cons]
      cases partValue query part <;> simp

theorem valuesOf_foldl_parsePart_perm {first second : List (List UInt8)} (reordered : first.Perm second)
    (query : List UInt8) :
    (valuesOf (first.foldl parsePart ([], none)).1 query).Perm
      (valuesOf (second.foldl parsePart ([], none)).1 query) := by
  rw [valuesOf_foldl_parsePart, valuesOf_foldl_parsePart]
  exact (reordered.filterMap _).append_left _

end Hummingbird.Client.Query
