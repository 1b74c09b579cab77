import Mathlib.Algebra.BigOperators.Fin
import Mathlib.Algebra.Order.BigOperators.Group.Finset
import Mathlib.Algebra.Order.Field.Basic
import Mathlib.Data.Fintype.EquivFin
import Mathlib.Data.List.Nodup
import Mathlib.Tactic.Linarith
import Mathlib.Tactic.Ring
import ObjectQuery.Keyed
import ObjectQuery.Proofs.Tracking.Pairing

/-!
# Partial matchings as matchings of a square grid

Rows and columns that may be left alone, at a price, are matched on a square grid with a partner for each
of them that stands for being left alone. A partial matching is one of the whole grid that costs as much
(`sum_completion`), and from one of the whole grid a partial matching is left that costs no more, and less
if a pair is given up that is not allowed (`sum_completion_le`, `sum_completion_lt`). So the cheapest one
of the grid makes a cheapest partial one.
-/

namespace ObjectQuery

namespace Assignment

variable {K : Type} [Field K] {n m : Nat}

/-! ## Partial matchings -/

/-- Each row and each column is matched or left alone, and only allowed pairs are matched. -/
structure IsMatching (allowed : Fin n → Fin m → Prop) (matching : Assignment n m) : Prop where
  rows : (matching.pairs.map Prod.fst ++ matching.freeRows).Perm (List.finRange n)
  columns : (matching.pairs.map Prod.snd ++ matching.freeColumns).Perm (List.finRange m)
  allowed : ∀ pair ∈ matching.pairs, allowed pair.1 pair.2

/-- The prices of the pairs, and half the price of a pair that is left alone for each row and column
that is. -/
def total (price : Fin n → Fin m → K) (half : K) (matching : Assignment n m) : K :=
  (matching.pairs.map fun pair => price pair.1 pair.2).sum +
    (matching.freeRows.length + matching.freeColumns.length) * half

namespace IsMatching

variable {allowed : Fin n → Fin m → Prop} {matching : Assignment n m}

theorem nodup_rows (isMatching : matching.IsMatching allowed) :
    (matching.pairs.map Prod.fst).Nodup :=
  (List.nodup_append.mp (isMatching.rows.nodup_iff.mpr (List.nodup_finRange n))).1

theorem nodup_columns (isMatching : matching.IsMatching allowed) :
    (matching.pairs.map Prod.snd).Nodup :=
  (List.nodup_append.mp (isMatching.columns.nodup_iff.mpr (List.nodup_finRange m))).1

theorem length_freeRows (isMatching : matching.IsMatching allowed) :
    matching.pairs.length + matching.freeRows.length = n := by
  simpa using isMatching.rows.length_eq

theorem length_freeColumns (isMatching : matching.IsMatching allowed) :
    matching.pairs.length + matching.freeColumns.length = m := by
  simpa using isMatching.columns.length_eq

theorem imp {admitted : Fin n → Fin m → Prop} (isMatching : matching.IsMatching allowed)
    (admits : ∀ i j, allowed i j → admitted i j) : matching.IsMatching admitted where
  rows := isMatching.rows
  columns := isMatching.columns
  allowed pair member := admits pair.1 pair.2 (isMatching.allowed pair member)

end IsMatching

/-- Pairs without a row or column in common make a matching. -/
theorem isMatching_ofPairs {allowed : Fin n → Fin m → Prop} {pairs : List (Fin n × Fin m)}
    (rows : (pairs.map Prod.fst).Nodup) (columns : (pairs.map Prod.snd).Nodup)
    (allows : ∀ pair ∈ pairs, allowed pair.1 pair.2) : (ofPairs pairs).IsMatching allowed where
  rows := perm_append_others rows (List.nodup_finRange n) fun i _ => List.mem_finRange i
  columns := perm_append_others columns (List.nodup_finRange m) fun j _ => List.mem_finRange j
  allowed := allows

/-! ## The square grid -/

/-- The column of the pairs that a column of the grid stands for. -/
def realColumn? (c : Fin (n + m)) : Option (Fin m) :=
  if inside : c.val < m then some ⟨c.val, inside⟩ else none

/-- A column among those of the grid. -/
def realColumn (n : Nat) (j : Fin m) : Fin (n + m) := ⟨j.val, by omega⟩

/-- The column of the grid that stands for a row being left alone. -/
def spareColumn (m : Nat) (i : Fin n) : Fin (n + m) := ⟨m + i.val, by omega⟩

/-- The price of a pair of the grid: a pair that is not allowed has a price of its own, a partner that
stands for being left alone has half of one, and two of them together have none. -/
def gridPrice (price : Fin n → Fin m → K) (allowed : Fin n → Fin m → Bool) (half forbidden : K)
    (r c : Fin (n + m)) : K :=
  Fin.addCases
    (fun i => (realColumn? c).elim half fun j => if allowed i j then price i j else forbidden)
    (fun _ => (realColumn? (n := n) (m := m) c).elim 0 fun _ => half) r

section Columns

variable {i other : Fin n} {j : Fin m}

@[simp] theorem realColumn?_realColumn (j : Fin m) : realColumn? (realColumn n j) = some j := by
  simp [realColumn?, realColumn]

@[simp] theorem realColumn?_spareColumn (i : Fin n) : realColumn? (spareColumn m i) = none := by
  simp [realColumn?, spareColumn]

end Columns

section Prices

variable (price : Fin n → Fin m → K) (allowed : Fin n → Fin m → Bool) (half forbidden : K)

@[simp] theorem gridPrice_row (i : Fin n) (c : Fin (n + m)) :
    gridPrice price allowed half forbidden (Fin.castAdd m i) c =
      (realColumn? c).elim half fun j => if allowed i j then price i j else forbidden := by
  simp [gridPrice]

@[simp] theorem gridPrice_spare (j : Fin m) (c : Fin (n + m)) :
    gridPrice price allowed half forbidden (Fin.natAdd n j) c =
      (realColumn? (n := n) c).elim 0 fun _ => half := by
  simp [gridPrice]

end Prices

/-! ## From a partial matching to one of the grid -/

section Completion

variable {allowed : Fin n → Fin m → Bool} {matching : Assignment n m} {pairs : List (Fin n × Fin m)}
  {i : Fin n} {j : Fin m}

/-- The column that a row is matched with. -/
def partner? (pairs : List (Fin n × Fin m)) (i : Fin n) : Option (Fin m) := Keyed.find? pairs i

/-- The row that a column is matched with. -/
def holder? (pairs : List (Fin n × Fin m)) (j : Fin m) : Option (Fin n) :=
  Keyed.find? (pairs.map Prod.swap) j

/-- The columns of the grid for some pairs: a row without partner takes the spare column of its own, a
column without holder goes to the spare row of its own, and of two partners the spare row takes the spare
column. -/
def completion (pairs : List (Fin n × Fin m)) (r : Fin (n + m)) : Fin (n + m) :=
  Fin.addCases (fun i => (partner? pairs i).elim (spareColumn m i) (realColumn n))
    (fun j => (holder? pairs j).elim (realColumn n j) (spareColumn m)) r

theorem partner?_eq_some_iff (rows : (pairs.map Prod.fst).Nodup) :
    partner? pairs i = some j ↔ (i, j) ∈ pairs :=
  ⟨Keyed.mem_of_find?, Keyed.find?_of_mem rows⟩

theorem holder?_eq_some_iff (columns : (pairs.map Prod.snd).Nodup) :
    holder? pairs j = some i ↔ (i, j) ∈ pairs := by
  have swapped : (Keyed.keys (pairs.map Prod.swap)).Nodup := by
    rw [Keyed.keys, List.map_map]
    exact columns
  have member : (j, i) ∈ pairs.map Prod.swap ↔ (i, j) ∈ pairs :=
    List.mem_map_of_injective Prod.swap_injective (a := (i, j))
  rw [← member]
  exact ⟨Keyed.mem_of_find?, Keyed.find?_of_mem swapped⟩

@[simp] theorem completion_row (pairs : List (Fin n × Fin m)) (i : Fin n) :
    completion pairs (Fin.castAdd m i) =
      (partner? pairs i).elim (spareColumn m i) (realColumn n) := by
  simp [completion]

@[simp] theorem completion_spare (pairs : List (Fin n × Fin m)) (j : Fin m) :
    completion pairs (Fin.natAdd n j) =
      (holder? pairs j).elim (realColumn n j) (spareColumn m) := by
  simp [completion]

@[simp] theorem realColumn?_completion (pairs : List (Fin n × Fin m)) (i : Fin n) :
    realColumn? (completion pairs (Fin.castAdd m i)) = partner? pairs i := by
  cases found : partner? pairs i <;> simp [found]

/-- The row of the grid that a column goes to in the completion of some pairs. -/
def origin (pairs : List (Fin n × Fin m)) (c : Fin (n + m)) : Fin (n + m) :=
  Fin.addCases (fun j => (holder? pairs j).elim (Fin.natAdd n j) (Fin.castAdd m))
    (fun i => (partner? pairs i).elim (Fin.castAdd m i) (Fin.natAdd n)) (c.cast (Nat.add_comm n m))

@[simp] theorem origin_realColumn (pairs : List (Fin n × Fin m)) (j : Fin m) :
    origin pairs (realColumn n j) = (holder? pairs j).elim (Fin.natAdd n j) (Fin.castAdd m) := by
  have place : (realColumn n j).cast (Nat.add_comm n m) = Fin.castAdd n j := rfl
  rw [origin, place, Fin.addCases_left]

@[simp] theorem origin_spareColumn (pairs : List (Fin n × Fin m)) (i : Fin n) :
    origin pairs (spareColumn m i) = (partner? pairs i).elim (Fin.castAdd m i) (Fin.natAdd n) := by
  have place : (spareColumn m i).cast (Nat.add_comm n m) = Fin.natAdd m i := rfl
  rw [origin, place, Fin.addCases_right]

theorem origin_completion (rows : (pairs.map Prod.fst).Nodup)
    (columns : (pairs.map Prod.snd).Nodup) :
    Function.LeftInverse (origin pairs) (completion pairs) := by
  intro r
  induction r using Fin.addCases with
  | left i =>
      cases found : partner? pairs i with
      | none => simp [found]
      | some j =>
          have held := (holder?_eq_some_iff columns).mpr ((partner?_eq_some_iff rows).mp found)
          simp [found, held]
  | right j =>
      cases held : holder? pairs j with
      | none => simp [held]
      | some i =>
          have found := (partner?_eq_some_iff rows).mpr ((holder?_eq_some_iff columns).mp held)
          simp [found, held]

theorem completion_injective (rows : (pairs.map Prod.fst).Nodup)
    (columns : (pairs.map Prod.snd).Nodup) : Function.Injective (completion pairs) :=
  (origin_completion rows columns).injective

/-- A sum over all members of a division into matched and free ones. -/
theorem sum_divided {k : Nat} {matched free : List (Fin k)} {f : Fin k → K} {value : K}
    (divided : (matched ++ free).Perm (List.finRange k)) (alone : ∀ i ∈ free, f i = value) :
    ∑ i, f i = (matched.map f).sum + free.length * value := by
  have constant : free.map f = free.map fun _ => value := List.map_congr_left alone
  rw [Fin.sum_univ_def, ← (divided.map f).sum_eq, List.map_append, List.sum_append, constant,
    List.map_const', List.sum_replicate, nsmul_eq_mul]

theorem not_mem_of_divided {k : Nat} {matched free : List (Fin k)}
    (divided : (matched ++ free).Perm (List.finRange k)) {i : Fin k} (member : i ∈ free) :
    i ∉ matched := by
  intro here
  obtain ⟨_, _, apart⟩ := List.nodup_append.mp (divided.nodup_iff.mpr (List.nodup_finRange k))
  exact apart i here i member rfl

theorem gridPrice_completion_row (price : Fin n → Fin m → K) (half forbidden : K) (i : Fin n) :
    gridPrice price allowed half forbidden (Fin.castAdd m i) (completion pairs (Fin.castAdd m i)) =
      (partner? pairs i).elim half fun j => if allowed i j then price i j else forbidden := by
  cases found : partner? pairs i <;> simp [found]

theorem gridPrice_completion_spare (price : Fin n → Fin m → K) (half forbidden : K) (j : Fin m) :
    gridPrice price allowed half forbidden (Fin.natAdd n j) (completion pairs (Fin.natAdd n j)) =
      (holder? pairs j).elim half fun _ => 0 := by
  cases held : holder? pairs j <;> simp [held]

section Sums

variable (price : Fin n → Fin m → K) (half forbidden : K)
  (isMatching : matching.IsMatching fun i j => allowed i j = true)

include isMatching

/-- The rows cost the prices of the pairs, and half a gap for each free one. -/
theorem sum_rows_completion :
    ∑ i, gridPrice price allowed half forbidden (Fin.castAdd m i)
        (completion matching.pairs (Fin.castAdd m i)) =
      (matching.pairs.map fun pair => price pair.1 pair.2).sum +
        matching.freeRows.length * half := by
  have rows := isMatching.nodup_rows
  have free : ∀ i ∈ matching.freeRows, gridPrice price allowed half forbidden (Fin.castAdd m i)
      (completion matching.pairs (Fin.castAdd m i)) = half := by
    intro i member
    rw [gridPrice_completion_row]
    cases found : partner? matching.pairs i with
    | none => rfl
    | some j =>
        have listed := List.mem_map_of_mem (f := Prod.fst) ((partner?_eq_some_iff rows).mp found)
        exact absurd listed (not_mem_of_divided isMatching.rows member)
  rw [sum_divided isMatching.rows free, List.map_map]
  congr 2
  refine List.map_congr_left fun pair member => ?_
  rw [Function.comp_apply, gridPrice_completion_row, (partner?_eq_some_iff rows).mpr member,
    Option.elim_some, if_pos (isMatching.allowed pair member)]

/-- The spare rows cost half a gap for each free column. -/
theorem sum_spares_completion :
    ∑ j, gridPrice price allowed half forbidden (Fin.natAdd n j)
        (completion matching.pairs (Fin.natAdd n j)) =
      matching.freeColumns.length * half := by
  have columns := isMatching.nodup_columns
  have free : ∀ j ∈ matching.freeColumns, gridPrice price allowed half forbidden (Fin.natAdd n j)
      (completion matching.pairs (Fin.natAdd n j)) = half := by
    intro j member
    rw [gridPrice_completion_spare]
    cases held : holder? matching.pairs j with
    | none => rfl
    | some i =>
        have listed := List.mem_map_of_mem (f := Prod.snd) ((holder?_eq_some_iff columns).mp held)
        exact absurd listed (not_mem_of_divided isMatching.columns member)
  have taken : (matching.pairs.map Prod.snd).map (fun j => gridPrice price allowed half forbidden
      (Fin.natAdd n j) (completion matching.pairs (Fin.natAdd n j))) =
        matching.pairs.map fun _ => 0 := by
    rw [List.map_map]
    refine List.map_congr_left fun pair member => ?_
    rw [Function.comp_apply, gridPrice_completion_spare, (holder?_eq_some_iff columns).mpr member,
      Option.elim_some]
  rw [sum_divided isMatching.columns free, taken, List.map_const', List.sum_replicate, nsmul_zero,
    zero_add]

/-- A partial matching is one of the grid that costs as much. -/
theorem sum_completion :
    ∑ r, gridPrice price allowed half forbidden r (completion matching.pairs r) =
      matching.total price half := by
  rw [Fin.sum_univ_add, sum_rows_completion price half forbidden isMatching,
    sum_spares_completion price half forbidden isMatching, total]
  ring

end Sums

end Completion

/-! ## From a matching of the grid to a partial one -/

section Kept

variable {price : Fin n → Fin m → K} {allowed : Fin n → Fin m → Bool} {half forbidden : K}
  {columnOf : Fin (n + m) → Fin (n + m)} {pairs : List (Fin n × Fin m)} {i : Fin n} {j : Fin m}

/-- What the partner of a row costs more than a column that is left alone. -/
def rowExcess (price : Fin n → Fin m → K) (allowed : Fin n → Fin m → Bool) (half forbidden : K)
    (i : Fin n) (partner : Option (Fin m)) : K :=
  partner.elim half fun j => (if allowed i j then price i j else forbidden) - half

/-- Half the price for each column that is not a spare one, whichever row of the grid takes it. -/
theorem sum_realColumn? (half : K) (injective : Function.Injective columnOf) :
    ∑ r, (realColumn? (n := n) (m := m) (columnOf r)).elim 0 (fun _ => half) = m * half := by
  have alone : Function.Bijective (completion ([] : List (Fin n × Fin m))) :=
    Function.Injective.bijective_of_finite (completion_injective (by simp) (by simp))
  have anyOrder : ∀ order : Fin (n + m) → Fin (n + m), Function.Bijective order →
      ∑ r, (realColumn? (n := n) (m := m) (order r)).elim 0 (fun _ => half) =
        ∑ c, (realColumn? (n := n) (m := m) c).elim 0 fun _ => half :=
    fun order bijective => bijective.sum_comp fun c => (realColumn? c).elim 0 fun _ => half
  rw [anyOrder columnOf injective.bijective_of_finite, ← anyOrder _ alone, Fin.sum_univ_add]
  simp [partner?, holder?, Keyed.find?]

/-- The price of a matching of the grid is a matter of the partners of its first rows. -/
theorem sum_gridPrice (injective : Function.Injective columnOf) :
    ∑ r, gridPrice price allowed half forbidden r (columnOf r) =
      m * half + ∑ i, rowExcess price allowed half forbidden i
        (realColumn? (columnOf (Fin.castAdd m i))) := by
  have taken := sum_realColumn? half injective
  rw [Fin.sum_univ_add] at taken ⊢
  have onRow (i : Fin n) : gridPrice price allowed half forbidden (Fin.castAdd m i)
      (columnOf (Fin.castAdd m i)) =
        rowExcess price allowed half forbidden i (realColumn? (columnOf (Fin.castAdd m i))) +
          (realColumn? (columnOf (Fin.castAdd m i))).elim 0 fun _ => half := by
    cases found : realColumn? (columnOf (Fin.castAdd m i)) <;> simp [rowExcess, found]
  simp only [onRow, gridPrice_spare, Finset.sum_add_distrib]
  rw [← taken]
  ring

/-- The partners that some pairs of a matching of the grid leave to its rows. -/
theorem partner?_eq_filter (rows : (pairs.map Prod.fst).Nodup)
    (keeps : ∀ i j, (i, j) ∈ pairs ↔
      realColumn? (columnOf (Fin.castAdd m i)) = some j ∧ allowed i j = true) (i : Fin n) :
    partner? pairs i = (realColumn? (columnOf (Fin.castAdd m i))).filter (allowed i) := by
  ext j
  rw [partner?_eq_some_iff rows, keeps, Option.filter_eq_some_iff]

theorem rowExcess_completion (rows : (pairs.map Prod.fst).Nodup)
    (keeps : ∀ i j, (i, j) ∈ pairs ↔
      realColumn? (columnOf (Fin.castAdd m i)) = some j ∧ allowed i j = true) (i : Fin n) :
    rowExcess price allowed half forbidden i
        (realColumn? (completion pairs (Fin.castAdd m i))) =
      rowExcess price allowed half forbidden i
        ((realColumn? (columnOf (Fin.castAdd m i))).filter (allowed i)) := by
  rw [realColumn?_completion, partner?_eq_filter rows keeps]

section Order

variable [LinearOrder K] [IsStrictOrderedRing K]

theorem rowExcess_filter_le (tall : half + half ≤ forbidden) (i : Fin n)
    (partner : Option (Fin m)) :
    rowExcess price allowed half forbidden i (partner.filter (allowed i)) ≤
      rowExcess price allowed half forbidden i partner := by
  cases partner with
  | none => exact le_refl _
  | some j =>
      by_cases allows : allowed i j
      · simp [Option.filter, allows]
      · simp only [Option.filter, allows, rowExcess, Option.elim]
        simpa using le_sub_iff_add_le.mpr tall

theorem rowExcess_filter_lt (tall : half + half < forbidden) (refused : ¬ allowed i j) :
    rowExcess price allowed half forbidden i ((some j).filter (allowed i)) <
      rowExcess price allowed half forbidden i (some j) := by
  simp only [Option.filter, refused, rowExcess, Option.elim]
  simpa using lt_sub_iff_add_lt.mpr tall

variable (price) in
/-- Giving up the pairs that are not allowed costs nothing. -/
theorem sum_completion_le (injective : Function.Injective columnOf)
    (tall : half + half ≤ forbidden) (rows : (pairs.map Prod.fst).Nodup)
    (columns : (pairs.map Prod.snd).Nodup)
    (keeps : ∀ i j, (i, j) ∈ pairs ↔
      realColumn? (columnOf (Fin.castAdd m i)) = some j ∧ allowed i j = true) :
    ∑ r, gridPrice price allowed half forbidden r (completion pairs r) ≤
      ∑ r, gridPrice price allowed half forbidden r (columnOf r) := by
  rw [sum_gridPrice injective, sum_gridPrice (completion_injective rows columns)]
  refine add_le_add_right (Finset.sum_le_sum fun i _ => ?_) _
  exact (rowExcess_completion rows keeps i).trans_le (rowExcess_filter_le tall i _)

variable (price) in
/-- Giving up a pair that is not allowed pays. -/
theorem sum_completion_lt (injective : Function.Injective columnOf)
    (tall : half + half < forbidden) (rows : (pairs.map Prod.fst).Nodup)
    (columns : (pairs.map Prod.snd).Nodup)
    (keeps : ∀ i j, (i, j) ∈ pairs ↔
      realColumn? (columnOf (Fin.castAdd m i)) = some j ∧ allowed i j = true)
    (used : realColumn? (columnOf (Fin.castAdd m i)) = some j) (refused : ¬ allowed i j) :
    ∑ r, gridPrice price allowed half forbidden r (completion pairs r) <
      ∑ r, gridPrice price allowed half forbidden r (columnOf r) := by
  rw [sum_gridPrice injective, sum_gridPrice (completion_injective rows columns)]
  have noMore (i : Fin n) : rowExcess price allowed half forbidden i
      (realColumn? (completion pairs (Fin.castAdd m i))) ≤
        rowExcess price allowed half forbidden i (realColumn? (columnOf (Fin.castAdd m i))) :=
    (rowExcess_completion rows keeps i).trans_le (rowExcess_filter_le tall.le i _)
  refine add_lt_add_right (Finset.sum_lt_sum (fun i _ => noMore i) ⟨i, Finset.mem_univ i, ?_⟩) _
  rw [rowExcess_completion rows keeps, used]
  exact rowExcess_filter_lt tall refused

end Order

end Kept

end Assignment

end ObjectQuery
