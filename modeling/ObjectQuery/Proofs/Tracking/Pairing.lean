import Mathlib.Data.List.FinRange
import Mathlib.Data.List.Perm.Basic
import Mathlib.Data.List.Nodup
import ObjectQuery.Tracking.Assignment

/-!
# What a pairing leaves

A pairing divides its rows, and its columns: each of them is matched or left, none twice. It depends on
the rows only through the costs, so that renaming the rows renames the pairing.
-/

namespace ObjectQuery

variable {α : Type} [Scalar α]

namespace Assignment

variable {n m : Nat}

theorem sublist_rows_pairsOf
    (cost : Fin n → Fin m → α) (threshold : α) (columnOf : Fin (n + m) → Fin (n + m)) :
    ((pairsOf cost threshold columnOf).map Prod.fst).Sublist (List.finRange n) := by
  unfold pairsOf
  induction List.finRange n with
  | nil => exact List.Sublist.refl []
  | cons i rest inductionHypothesis =>
      rw [List.filterMap_cons]
      split
      · exact inductionHypothesis.cons i
      · rename_i pair found
        have first : pair.1 = i := by
          dsimp only at found
          split at found
          · split at found
            · exact congrArg Prod.fst (Option.some.inj found).symm
            · exact absurd found (by simp)
          · exact absurd found (by simp)
        rw [List.map_cons, first]
        exact inductionHypothesis.cons_cons i

theorem sublist_rows_find
    (solve : AssignmentSolver α) (cost : Fin n → Fin m → α) (threshold : α) :
    ((find solve cost threshold).pairs.map Prod.fst).Sublist (List.finRange n) := by
  unfold find
  split
  · exact List.nil_sublist _
  · split
    · exact sublist_rows_pairsOf cost threshold _
    · exact List.nil_sublist _

theorem freeRows_find
    (solve : AssignmentSolver α) (cost : Fin n → Fin m → α) (threshold : α) :
    (find solve cost threshold).freeRows =
      (List.finRange n).filter fun i =>
        !((find solve cost threshold).pairs.map Prod.fst).contains i := by
  unfold find
  split
  · simp [unmatched]
  · split
    · rfl
    · simp [unmatched]

/-- Some of different items and the others are all of them. -/
theorem perm_append_others {β : Type} [BEq β] [LawfulBEq β] {part items : List β}
    (partDistinct : part.Nodup) (distinct : items.Nodup) (contained : part ⊆ items) :
    (part ++ items.filter fun item => !part.contains item).Perm items := by
  have chosen : part.Perm (items.filter fun item => part.contains item) := by
    rw [List.perm_ext_iff_of_nodup partDistinct (distinct.filter _)]
    intro item
    rw [List.mem_filter, List.contains_iff_mem]
    exact ⟨fun member => ⟨contained member, member⟩, And.right⟩
  exact (chosen.append_right _).trans (List.filter_append_perm _ _)

/-- Each row is matched or free, and none twice. -/
theorem perm_rows_find
    (solve : AssignmentSolver α) (cost : Fin n → Fin m → α) (threshold : α) :
    ((find solve cost threshold).pairs.map Prod.fst ++
      (find solve cost threshold).freeRows).Perm (List.finRange n) := by
  have sublist := sublist_rows_find solve cost threshold
  rw [freeRows_find]
  exact perm_append_others ((List.nodup_finRange n).sublist sublist) (List.nodup_finRange n)
    sublist.subset

/-- The pairs of an answer lie in the grid and cost no more than the threshold. -/
theorem of_mem_pairsOf
    {cost : Fin n → Fin m → α} {threshold : α} {columnOf : Fin (n + m) → Fin (n + m)}
    {pair : Fin n × Fin m} (member : pair ∈ pairsOf cost threshold columnOf) :
    pair.2.val = (columnOf (pair.1.castAdd m)).val ∧ cost pair.1 pair.2 ≤ threshold := by
  obtain ⟨i, _, found⟩ := List.mem_filterMap.mp member
  dsimp only at found
  split at found
  · split at found
    · rename_i low
      rw [← Option.some.inj found]
      exact ⟨rfl, low⟩
    · exact absurd found (by simp)
  · exact absurd found (by simp)

theorem column_of_mem_pairsOf
    {cost : Fin n → Fin m → α} {threshold : α} {columnOf : Fin (n + m) → Fin (n + m)}
    {pair : Fin n × Fin m} (member : pair ∈ pairsOf cost threshold columnOf) :
    pair.2.val = (columnOf (pair.1.castAdd m)).val :=
  (of_mem_pairsOf member).1

theorem le_of_mem_find
    {solve : AssignmentSolver α} {cost : Fin n → Fin m → α} {threshold : α} {pair : Fin n × Fin m}
    (member : pair ∈ (find solve cost threshold).pairs) : cost pair.1 pair.2 ≤ threshold := by
  unfold find at member
  split at member
  · exact absurd member List.not_mem_nil
  · split at member
    · exact (of_mem_pairsOf member).2
    · exact absurd member List.not_mem_nil

/-- No column is matched twice, because no column of the extended grid is given to two rows. -/
theorem nodup_columns_pairsOf
    (cost : Fin n → Fin m → α) (threshold : α) {columnOf : Fin (n + m) → Fin (n + m)}
    (injective : Function.Injective columnOf) :
    ((pairsOf cost threshold columnOf).map Prod.snd).Nodup := by
  have rows := (List.nodup_finRange n).sublist (sublist_rows_pairsOf cost threshold columnOf)
  refine List.Nodup.map_on ?_ (List.Nodup.of_map Prod.fst rows)
  intro pair member other otherMember same
  have columns : columnOf (pair.1.castAdd m) = columnOf (other.1.castAdd m) := by
    apply Fin.ext
    rw [← column_of_mem_pairsOf member, ← column_of_mem_pairsOf otherMember, same]
  exact Prod.ext (Fin.castAdd_injective n m (injective columns)) same

theorem nodup_columns_find
    (solve : AssignmentSolver α) (cost : Fin n → Fin m → α) (threshold : α) :
    ((find solve cost threshold).pairs.map Prod.snd).Nodup := by
  unfold find
  split
  · exact List.nodup_nil
  · split
    · rename_i columnOf _
      exact nodup_columns_pairsOf cost threshold columnOf.property
    · exact List.nodup_nil

theorem freeColumns_find
    (solve : AssignmentSolver α) (cost : Fin n → Fin m → α) (threshold : α) :
    (find solve cost threshold).freeColumns =
      (List.finRange m).filter fun j =>
        !((find solve cost threshold).pairs.map Prod.snd).contains j := by
  unfold find
  split
  · simp [unmatched]
  · split
    · rfl
    · simp [unmatched]

/-- Each column is matched or free, and none twice. -/
theorem perm_columns_find
    (solve : AssignmentSolver α) (cost : Fin n → Fin m → α) (threshold : α) :
    ((find solve cost threshold).pairs.map Prod.snd ++
      (find solve cost threshold).freeColumns).Perm (List.finRange m) := by
  rw [freeColumns_find]
  exact perm_append_others (nodup_columns_find solve cost threshold) (List.nodup_finRange m)
    fun column _ => List.mem_finRange column

end Assignment

namespace Pairing

variable {ρ π κ : Type}

/-- The pairing of indexed rows and columns. -/
def ofIndexed {n m : Nat}
    (solve : AssignmentSolver α) (cost : ρ → κ → α) (threshold : α)
    (rowAt : Fin n → ρ) (columnAt : Fin m → κ) : Pairing ρ κ :=
  let found := Assignment.find solve (fun i j => cost (rowAt i) (columnAt j)) threshold
  ⟨found.pairs.map fun (i, j) => (rowAt i, columnAt j), found.freeRows.map rowAt,
    found.freeColumns.map columnAt⟩

theorem ofIndexed_rename {n n' m : Nat}
    (solve : AssignmentSolver α) (cost : π → κ → α) (threshold : α) (rename : ρ → π)
    (rowAt : Fin n → ρ) (renamedAt : Fin n' → π) (columnAt : Fin m → κ) (same : n' = n)
    (agrees : ∀ i, renamedAt i = rename (rowAt (i.cast same))) :
    ofIndexed solve cost threshold renamedAt columnAt =
      (ofIndexed solve (fun row => cost (rename row)) threshold rowAt columnAt).mapRows rename := by
  subst same
  have equal : renamedAt = fun i => rename (rowAt i) := funext agrees
  subst equal
  simp [ofIndexed, mapRows, Function.comp_def]

/-- Renaming the rows renames the pairing. -/
theorem find_map
    (solve : AssignmentSolver α) (cost : π → κ → α) (threshold : α)
    (rename : ρ → π) (rows : List ρ) (columns : List κ) :
    find solve cost threshold (rows.map rename) columns =
      (find solve (fun row => cost (rename row)) threshold rows columns).mapRows rename :=
  ofIndexed_rename solve cost threshold rename rows.get (rows.map rename).get columns.get
    (List.length_map ..) (by simp)

/-- Each row is matched or left, and none twice. -/
theorem perm_rows
    (solve : AssignmentSolver α) (cost : ρ → κ → α) (threshold : α)
    (rows : List ρ) (columns : List κ) :
    ((find solve cost threshold rows columns).matched.map Prod.fst ++
      (find solve cost threshold rows columns).leftRows).Perm rows := by
  have divided := (Assignment.perm_rows_find solve
    (fun i j => cost (rows.get i) (columns.get j)) threshold).map rows.get
  rw [List.map_append, List.map_get_finRange] at divided
  simpa [find, Function.comp_def] using divided

/-- Each column is matched or left, and none twice. -/
theorem perm_columns
    (solve : AssignmentSolver α) (cost : ρ → κ → α) (threshold : α)
    (rows : List ρ) (columns : List κ) :
    ((find solve cost threshold rows columns).matched.map Prod.snd ++
      (find solve cost threshold rows columns).leftColumns).Perm columns := by
  have divided := (Assignment.perm_columns_find solve
    (fun i j => cost (rows.get i) (columns.get j)) threshold).map columns.get
  rw [List.map_append, List.map_get_finRange] at divided
  simpa [find, Function.comp_def] using divided

theorem sublist_leftRows
    (solve : AssignmentSolver α) (cost : ρ → κ → α) (threshold : α)
    (rows : List ρ) (columns : List κ) :
    (find solve cost threshold rows columns).leftRows.Sublist rows := by
  have sublist : (Assignment.find solve (fun i j => cost (rows.get i) (columns.get j))
      threshold).freeRows.Sublist (List.finRange rows.length) := by
    rw [Assignment.freeRows_find]
    exact List.filter_sublist
  have mapped := sublist.map rows.get
  rwa [List.map_get_finRange] at mapped

theorem length_leftColumns_le
    (solve : AssignmentSolver α) (cost : ρ → κ → α) (threshold : α)
    (rows : List ρ) (columns : List κ) :
    (find solve cost threshold rows columns).leftColumns.length ≤ columns.length := by
  have total := (perm_columns solve cost threshold rows columns).length_eq
  rw [List.length_append] at total
  exact Nat.le.intro ((Nat.add_comm ..).trans total)

theorem mem_of_leftRows
    {solve : AssignmentSolver α} {cost : ρ → κ → α} {threshold : α}
    {rows : List ρ} {columns : List κ} {row : ρ}
    (member : row ∈ (find solve cost threshold rows columns).leftRows) :
    row ∈ rows :=
  (sublist_leftRows solve cost threshold rows columns).subset member

theorem mem_of_matched
    {solve : AssignmentSolver α} {cost : ρ → κ → α} {threshold : α}
    {rows : List ρ} {columns : List κ} {pair : ρ × κ}
    (member : pair ∈ (find solve cost threshold rows columns).matched) :
    pair.1 ∈ rows :=
  (perm_rows solve cost threshold rows columns).subset
    (List.mem_append_left _ (List.mem_map_of_mem member))

theorem column_of_matched
    {solve : AssignmentSolver α} {cost : ρ → κ → α} {threshold : α}
    {rows : List ρ} {columns : List κ} {pair : ρ × κ}
    (member : pair ∈ (find solve cost threshold rows columns).matched) :
    pair.2 ∈ columns :=
  (perm_columns solve cost threshold rows columns).subset
    (List.mem_append_left _ (List.mem_map_of_mem member))

/-- Nothing is matched at a cost above the threshold. -/
theorem le_of_matched
    {solve : AssignmentSolver α} {cost : ρ → κ → α} {threshold : α}
    {rows : List ρ} {columns : List κ} {pair : ρ × κ}
    (member : pair ∈ (find solve cost threshold rows columns).matched) :
    cost pair.1 pair.2 ≤ threshold := by
  obtain ⟨⟨i, j⟩, found, rfl⟩ := List.mem_map.mp member
  exact Assignment.le_of_mem_find found

theorem mem_of_leftColumns
    {solve : AssignmentSolver α} {cost : ρ → κ → α} {threshold : α}
    {rows : List ρ} {columns : List κ} {column : κ}
    (member : column ∈ (find solve cost threshold rows columns).leftColumns) :
    column ∈ columns :=
  (perm_columns solve cost threshold rows columns).subset (List.mem_append_right _ member)

/-- A sublist of different items is what a condition selects if it selects its members. -/
theorem eq_filter_of_sublist {items part : List ρ} {condition : ρ → Bool}
    (sublist : part.Sublist items) (distinct : items.Nodup)
    (selects : ∀ item ∈ items, item ∈ part ↔ condition item) :
    part = items.filter condition := by
  induction sublist with
  | slnil => rfl
  | cons first inner inductionHypothesis =>
      obtain ⟨absent, distinct⟩ := List.nodup_cons.mp distinct
      have refused : ¬ condition first := fun holds =>
        absent (inner.subset ((selects first List.mem_cons_self).mpr holds))
      rw [List.filter_cons_of_neg refused]
      exact inductionHypothesis distinct fun item member =>
        selects item (List.mem_cons_of_mem first member)
  | cons_cons first inner inductionHypothesis =>
      obtain ⟨absent, distinct⟩ := List.nodup_cons.mp distinct
      have holds : condition first := (selects first List.mem_cons_self).mp List.mem_cons_self
      rw [List.filter_cons_of_pos holds]
      refine congrArg (first :: ·) (inductionHypothesis distinct fun item member => ?_)
      have apart : item ≠ first := fun same => absent (same ▸ member)
      rw [← selects item (List.mem_cons_of_mem first member), List.mem_cons]
      exact (or_iff_right apart).symm

/-- Where the rows have different names, those that are left are the ones without a match, in the
order of the rows. -/
theorem leftRows_eq_filter
    (solve : AssignmentSolver α) (cost : ρ → κ → α) (threshold : α)
    (rows : List ρ) (columns : List κ) (key : ρ → Nat) (distinct : (rows.map key).Nodup) :
    (find solve cost threshold rows columns).leftRows =
      rows.filter fun row =>
        !((find solve cost threshold rows columns).matched.map fun pair =>
          key pair.1).contains (key row) := by
  have perm := perm_rows solve cost threshold rows columns
  refine eq_filter_of_sublist (sublist_leftRows solve cost threshold rows columns)
    (List.Nodup.of_map key distinct) ?_
  generalize find solve cost threshold rows columns = found at perm ⊢
  have apart : ((found.matched.map Prod.fst ++ found.leftRows).map key).Nodup :=
    (perm.map key).nodup_iff.mpr distinct
  rw [List.map_append, List.nodup_append] at apart
  obtain ⟨_, _, different⟩ := apart
  intro row member
  simp only [Bool.not_eq_true', List.contains_eq_mem, decide_eq_false_iff_not, List.mem_map]
  constructor
  · rintro left ⟨pair, inside, same⟩
    exact different (key pair.1) (List.mem_map_of_mem (List.mem_map_of_mem inside)) (key row)
      (List.mem_map_of_mem left) same
  · intro unmatched
    rcases List.mem_append.mp (perm.mem_iff.mpr member) with matched | left
    · obtain ⟨pair, inside, same⟩ := List.mem_map.mp matched
      exact absurd ⟨pair, inside, congrArg key same⟩ unmatched
    · exact left

end Pairing

end ObjectQuery
