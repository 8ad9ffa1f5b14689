import Mathlib.Algebra.BigOperators.Intervals
import Mathlib.Data.Fintype.BigOperators
import Mathlib.Data.List.Permutation
import Mathlib.Data.List.FinRange
import Hummingbird.Client.FirstResponse

/-!
# The shuffle of `firstResponse` is uniform

`firstResponse` shuffles the primaries with
`for i := range devs { j := rand.Intn(i + 1); devs[i], devs[j] = devs[j], devs[i] }`,
the inside-out form of the Fisher–Yates shuffle.  A run of the loop is fixed by
its choice sequence `j₀, …, j_{n-1}` with `j_i ≤ i`, and there are `n!` such
sequences.  The swaps move positions, whatever the list holds: shuffling a
list is shuffling its positions `0, …, n-1` and reading the list at them.
Every run ends in a permutation of the list.  Step `i` moves the untouched
`devs[i]` to position `j_i`, so the list after step `i` tells which `j_i` was
drawn and, undoing the swap, the list before it: on a list without repeats,
such as the positions, different choice sequences end in different orders.
As many choice sequences as orders of the positions, so each order of the
positions comes from exactly one choice sequence, and with independent
uniform draws every order of the devices' positions has probability `1/n!`.
When the ring names a device twice the orders of the devices themselves are
fewer, and some come from more choice sequences than others.
-/

namespace Hummingbird.Client.Shuffle

open Hummingbird.Client.FirstResponse

variable {α : Type}

/-! ## One swap -/

theorem swap_of_length_le {items : List α} {i : Nat} (j : Nat) (past : items.length ≤ i) :
    swap items i j = items := by
  simp [swap, List.getElem?_eq_none past]

@[simp]
theorem length_swap (items : List α) (i j : Nat) : (swap items i j).length = items.length := by
  unfold swap
  split <;> simp

theorem getElem?_swap {items : List α} {i j : Nat} (first : i < items.length)
    (second : j < items.length) (position : Nat) :
    (swap items i j)[position]? =
      if position = j then items[i]? else if position = i then items[j]? else items[position]? := by
  simp only [swap, List.getElem?_eq_getElem first, List.getElem?_eq_getElem second, List.getElem?_set,
    List.length_set, second, first, if_true]
  by_cases atSecond : position = j
  · simp [atSecond]
  · by_cases atFirst : position = i
    · subst atFirst
      simp [atSecond, Ne.symm atSecond]
    · simp [atSecond, atFirst, Ne.symm atSecond, Ne.symm atFirst]

theorem swap_swap {items : List α} {i j : Nat} (first : i < items.length) (second : j < items.length) :
    swap (swap items i j) i j = items := by
  apply List.ext_getElem?
  intro position
  rw [getElem?_swap (by simpa using first) (by simpa using second), getElem?_swap first second,
    getElem?_swap first second, getElem?_swap first second]
  by_cases atSecond : position = j
  · subst atSecond
    split_ifs <;> simp_all
  · split_ifs <;> simp_all

theorem swap_map {β : Type} (f : α → β) (items : List α) (i j : Nat) :
    swap (items.map f) i j = (swap items i j).map f := by
  unfold swap
  simp only [List.getElem?_map]
  cases items[i]? <;> cases items[j]? <;> simp [List.map_set]

theorem swap_perm [DecidableEq α] (items : List α) (i j : Nat) : (swap items i j).Perm items := by
  unfold swap
  split
  · rename_i first second found₁ found₂
    obtain ⟨inFirst, rfl⟩ := List.getElem?_eq_some_iff.mp found₁
    obtain ⟨inSecond, rfl⟩ := List.getElem?_eq_some_iff.mp found₂
    refine List.perm_iff_count.mpr fun x => ?_
    have held : (if items[i] == x then 1 else 0) ≤ items.count x := by
      simpa [List.count_eq_countP] using List.boole_getElem_le_countP (· == x) items i inFirst
    rw [List.count_set _ _ _ _ (by simpa using inSecond), List.count_set _ _ _ _ inFirst,
      List.getElem_set]
    have moved : (if i = j then items[j] else items[j]) = items[j] := by split <;> rfl
    rw [moved]
    omega
  · exact List.Perm.refl _

/-! ## The loop -/

/-- The list after the first `steps` iterations of the shuffle loop. -/
def shuffleSteps (draw : (i : Nat) → Fin (i + 1)) (items : List α) (steps : Nat) : List α :=
  (List.range steps).foldl (fun shuffled i => swap shuffled i (draw i)) items

theorem shuffle_eq_shuffleSteps (draw : (i : Nat) → Fin (i + 1)) (items : List α) :
    shuffle draw items = shuffleSteps draw items items.length :=
  rfl

theorem shuffleSteps_succ (draw : (i : Nat) → Fin (i + 1)) (items : List α) (steps : Nat) :
    shuffleSteps draw items (steps + 1) = swap (shuffleSteps draw items steps) steps (draw steps) := by
  simp [shuffleSteps, List.range_succ, List.foldl_append]

@[simp]
theorem length_shuffleSteps (draw : (i : Nat) → Fin (i + 1)) (items : List α) (steps : Nat) :
    (shuffleSteps draw items steps).length = items.length := by
  induction steps with
  | zero => rfl
  | succ steps ih => rw [shuffleSteps_succ, length_swap, ih]

theorem shuffleSteps_perm [DecidableEq α] (draw : (i : Nat) → Fin (i + 1)) (items : List α)
    (steps : Nat) : (shuffleSteps draw items steps).Perm items := by
  induction steps with
  | zero => exact List.Perm.refl _
  | succ steps ih =>
      rw [shuffleSteps_succ]
      exact (swap_perm _ _ _).trans ih

theorem shuffleSteps_map {β : Type} (draw : (i : Nat) → Fin (i + 1)) (f : α → β) (items : List α)
    (steps : Nat) : shuffleSteps draw (items.map f) steps = (shuffleSteps draw items steps).map f := by
  induction steps with
  | zero => rfl
  | succ steps ih => rw [shuffleSteps_succ, shuffleSteps_succ, ih, swap_map]

/-- The shuffle of a list is the list read at the shuffled positions. -/
theorem shuffle_eq_map_positions (draw : (i : Nat) → Fin (i + 1)) (items : List α) :
    shuffle draw items = (shuffle draw (List.finRange items.length)).map items.get := by
  conv_lhs => rw [← List.finRange_map_get items]
  rw [shuffle_eq_shuffleSteps, shuffle_eq_shuffleSteps, shuffleSteps_map, List.length_map,
    List.length_finRange]

theorem shuffle_perm (draw : (i : Nat) → Fin (i + 1)) (items : List α) :
    (shuffle draw items).Perm items := by
  rw [shuffle_eq_map_positions]
  conv_rhs => rw [← List.finRange_map_get items]
  exact (shuffleSteps_perm draw _ _).map _

theorem getElem?_shuffleSteps_of_le (draw : (i : Nat) → Fin (i + 1)) (items : List α) :
    ∀ {steps position : Nat}, steps ≤ position →
      (shuffleSteps draw items steps)[position]? = items[position]?
  | 0, _, _ => rfl
  | steps + 1, position, later => by
      have untouched := getElem?_shuffleSteps_of_le draw items (Nat.le_of_succ_le later)
      rw [shuffleSteps_succ]
      by_cases within : steps < items.length
      · have drawn := (draw steps).isLt
        rw [getElem?_swap (by simpa using within) (by simp; omega), if_neg (by omega),
          if_neg (by omega), untouched]
      · rw [swap_of_length_le _ (by simpa using Nat.not_lt.mp within), untouched]

/--
On a list without repeats, the list after step `steps` tells the draw of that
step and the list before it.
-/
theorem draw_eq_of_shuffleSteps_succ_eq [DecidableEq α] {items : List α} (distinct : items.Nodup)
    {draw other : (i : Nat) → Fin (i + 1)} {steps : Nat} (within : steps < items.length)
    (same : shuffleSteps draw items (steps + 1) = shuffleSteps other items (steps + 1)) :
    (draw steps : Nat) = other steps ∧ shuffleSteps draw items steps = shuffleSteps other items steps := by
  have placed : ∀ choice : (i : Nat) → Fin (i + 1),
      (shuffleSteps choice items (steps + 1))[(choice steps : Nat)]? = items[steps]? := by
    intro choice
    rw [shuffleSteps_succ, getElem?_swap (by simpa using within)
      (by simp; have := (choice steps).isLt; omega), if_pos rfl,
      getElem?_shuffleSteps_of_le choice items (Nat.le_refl steps)]
  have drawn : (draw steps : Nat) = other steps := by
    refine List.getElem?_inj (by simp; have := (draw steps).isLt; omega)
      ((shuffleSteps_perm draw items (steps + 1)).nodup_iff.mpr distinct) ?_
    rw [placed draw, same, placed other]
  refine ⟨drawn, ?_⟩
  have inner : ∀ choice : (i : Nat) → Fin (i + 1), (choice steps : Nat) = draw steps →
      shuffleSteps choice items steps = swap (shuffleSteps choice items (steps + 1)) steps (draw steps) := by
    intro choice agrees
    rw [shuffleSteps_succ, agrees, swap_swap (by simpa using within)
      (by simp; have := (draw steps).isLt; omega)]
  rw [inner draw rfl, inner other drawn.symm, same]

/-- On a list without repeats, equal results of the first `steps` iterations had equal draws. -/
theorem draws_eq_of_shuffleSteps_eq [DecidableEq α] {items : List α} (distinct : items.Nodup)
    {draw other : (i : Nat) → Fin (i + 1)} :
    ∀ {steps : Nat}, steps ≤ items.length →
      shuffleSteps draw items steps = shuffleSteps other items steps →
        ∀ i < steps, (draw i : Nat) = other i
  | 0, _, _, _, below => absurd below (Nat.not_lt_zero _)
  | steps + 1, bounded, same, i, below => by
      obtain ⟨drawn, before⟩ := draw_eq_of_shuffleSteps_succ_eq distinct bounded same
      rcases Nat.lt_succ_iff_lt_or_eq.mp below with earlier | rfl
      · exact draws_eq_of_shuffleSteps_eq distinct (Nat.le_of_succ_le bounded) before i earlier
      · exact drawn

/-! ## Choice sequences -/

/-- A choice sequence for `n` items: `rand.Intn(i + 1)` returns `choices i` at step `i`. -/
def Choices (n : Nat) : Type :=
  (i : Fin n) → Fin (i + 1)

instance (n : Nat) : Fintype (Choices n) :=
  inferInstanceAs (Fintype ((i : Fin n) → Fin (i + 1)))

instance (n : Nat) : DecidableEq (Choices n) :=
  inferInstanceAs (DecidableEq ((i : Fin n) → Fin (i + 1)))

/-- The draws of a run with choice sequence `choices`; a step past the list is never taken. -/
def Choices.draw {n : Nat} (choices : Choices n) (i : Nat) : Fin (i + 1) :=
  if within : i < n then choices ⟨i, within⟩ else 0

theorem card_choices (n : Nat) : Fintype.card (Choices n) = n.factorial := by
  change Fintype.card ((i : Fin n) → Fin (i + 1)) = _
  rw [Fintype.card_pi]
  simp only [Fintype.card_fin]
  rw [Fin.prod_univ_eq_prod_range (fun i => i + 1) n, Finset.prod_range_add_one_eq_factorial]

/-- On a list without repeats, different choice sequences shuffle it into different orders. -/
theorem shuffle_injective [DecidableEq α] {items : List α} {n : Nat} (length : items.length = n)
    (distinct : items.Nodup) : Function.Injective fun choices : Choices n => shuffle choices.draw items := by
  intro choices other same
  have draws := draws_eq_of_shuffleSteps_eq distinct (Nat.le_refl _) same
  funext i
  have agree := draws i (length ▸ i.isLt)
  simp only [Choices.draw, i.isLt, dif_pos] at agree
  exact Fin.ext agree

/-- On a list without repeats, the `n!` choice sequences shuffle it into its `n!` orders, one each. -/
theorem shuffle_bijective_of_nodup [DecidableEq α] {items : List α} {n : Nat} (length : items.length = n)
    (distinct : items.Nodup) :
    Function.Bijective fun choices : Choices n =>
      (⟨shuffle choices.draw items, shuffle_perm choices.draw items⟩ : {order : List α // order.Perm items}) := by
  have listed : ∀ order, order ∈ items.permutations.toFinset ↔ order.Perm items :=
    fun order => by simp [List.mem_permutations]
  letI : Fintype {order : List α // order.Perm items} := Fintype.subtype items.permutations.toFinset listed
  have orders : Fintype.card {order : List α // order.Perm items} = n.factorial := by
    rw [Fintype.card_of_subtype items.permutations.toFinset listed,
      List.toFinset_card_of_nodup (List.nodup_permutations _ distinct), List.length_permutations, length]
  exact (Fintype.bijective_iff_injective_and_card _).mpr
    ⟨fun choices other same => shuffle_injective length distinct (congrArg Subtype.val same),
      (card_choices n).trans orders.symm⟩

/--
For every list of primaries, repeats allowed: each choice sequence shuffles
it into a permutation of it, namely the list read at the same run's shuffle
of its positions; there are `n!` choice sequences; and the map from choice
sequences to the orders of the positions they produce is a bijection onto the
permutations of the positions.  So each order of the positions comes from
exactly one of the `n!` choice sequences, and with independent uniform draws
every order of the primaries' positions is equally likely.  On a list without
repeats the same holds of the orders of the primaries themselves.
-/
theorem shuffle_choices_bijective (primaries : List α) :
    (∀ draw : (i : Nat) → Fin (i + 1), (shuffle draw primaries).Perm primaries ∧
      shuffle draw primaries = (shuffle draw (List.finRange primaries.length)).map primaries.get) ∧
    Fintype.card (Choices primaries.length) = primaries.length.factorial ∧
    Function.Bijective (fun choices : Choices primaries.length =>
      (⟨shuffle choices.draw (List.finRange primaries.length), shuffle_perm choices.draw _⟩ :
        {order : List (Fin primaries.length) // order.Perm (List.finRange primaries.length)})) ∧
    (∀ order, order.Perm (List.finRange primaries.length) →
      ∃! choices : Choices primaries.length, shuffle choices.draw (List.finRange primaries.length) = order) ∧
    (primaries.Nodup → Function.Bijective (fun choices : Choices primaries.length =>
      (⟨shuffle choices.draw primaries, shuffle_perm choices.draw primaries⟩ :
        {order : List α // order.Perm primaries}))) := by
  have positions := shuffle_bijective_of_nodup (List.length_finRange primaries.length)
    (List.nodup_finRange primaries.length)
  refine ⟨fun draw => ⟨shuffle_perm draw primaries, shuffle_eq_map_positions draw primaries⟩,
    card_choices _, positions, fun order reordered => ?_, fun distinct => ?_⟩
  · obtain ⟨choices, produced, unique⟩ := positions.existsUnique ⟨order, reordered⟩
    exact ⟨choices, congrArg Subtype.val produced, fun other same => unique other (Subtype.ext same)⟩
  · classical
    exact shuffle_bijective_of_nodup rfl distinct

/-- Three primaries of which two are one device: six choice sequences, one for each order of the three positions. -/
theorem shuffle_choices_bijective_on_repeated_device :
    let shared : Ring.Device := ⟨"10.0.0.1", 6000, "sda"⟩
    let primaries : List Ring.Device := [shared, shared, ⟨"10.0.0.2", 6000, "sda"⟩]
    ¬ primaries.Nodup ∧
    ((∀ draw : (i : Nat) → Fin (i + 1), (shuffle draw primaries).Perm primaries ∧
      shuffle draw primaries = (shuffle draw (List.finRange primaries.length)).map primaries.get) ∧
    Fintype.card (Choices primaries.length) = primaries.length.factorial ∧
    Function.Bijective (fun choices : Choices primaries.length =>
      (⟨shuffle choices.draw (List.finRange primaries.length), shuffle_perm choices.draw _⟩ :
        {order : List (Fin primaries.length) // order.Perm (List.finRange primaries.length)})) ∧
    (∀ order, order.Perm (List.finRange primaries.length) →
      ∃! choices : Choices primaries.length, shuffle choices.draw (List.finRange primaries.length) = order) ∧
    (primaries.Nodup → Function.Bijective (fun choices : Choices primaries.length =>
      (⟨shuffle choices.draw primaries, shuffle_perm choices.draw primaries⟩ :
        {order : List Ring.Device // order.Perm primaries})))) :=
  ⟨by decide, shuffle_choices_bijective _⟩

end Hummingbird.Client.Shuffle
