import Mathlib.Data.List.Nodup
import Mathlib.Data.List.Perm.Subperm
import Mathlib.Data.List.Sort
import ObjectQuery.History
import ObjectQuery.Proofs.Slots

/-!
# The past of one track

The rows of a track do not depend on those of another one, so that what a history does is told track by
track: `pushRow` is an added row, `recent` what is left of the rows when those out of reach are dropped.
Rows stand in the order of their frames, and then a window is there exactly if the track has a row on
each of its frames.
-/

namespace ObjectQuery

namespace History

variable {σ : Type → Type} [Storage σ] {history : History σ} {track frame : Nat}

/-! ## The rows behind the marks -/

/-- The row that a mark stands for. -/
def rowAt (history : History σ) (mark : RowMark) : HistoryRow :=
  ⟨mark.frame, (Storage.read? history.cells mark.key).getD []⟩

/-- The rows of each track, oldest first. -/
def rows (history : History σ) : Keyed Nat (List HistoryRow) :=
  history.rings.mapValues fun _ ring => ring.map history.rowAt

/-- The rows of a track, oldest first. -/
def rowsOf (history : History σ) (track : Nat) : List HistoryRow :=
  (history.rows.find? track).getD []

/-- The marks of all tracks. -/
def marks (history : History σ) : List RowMark := history.rings.values.flatten

/-- No track has two rings and no key has two marks, and each mark leads to a row. -/
structure Distinct (history : History σ) : Prop where
  once : history.rings.keys.Nodup
  apart : (history.marks.map RowMark.key).Nodup
  stored : ∀ mark ∈ history.marks, (Storage.read? history.cells mark.key).isSome

theorem find?_rows (history : History σ) (track : Nat) :
    history.rows.find? track = (history.rings.find? track).map (List.map history.rowAt) :=
  Keyed.find?_mapValues ..

theorem rowsOf_eq_map (history : History σ) (track : Nat) :
    history.rowsOf track = (history.ringOf track).map history.rowAt := by
  rw [rowsOf, find?_rows, ringOf]
  cases history.rings.find? track <;> rfl

theorem keys_rows (history : History σ) : history.rows.keys = history.rings.keys :=
  Keyed.keys_mapValues ..

theorem Distinct.nodup_keys (distinct : history.Distinct) : history.rows.keys.Nodup :=
  (keys_rows history).symm ▸ distinct.once

/-- A history without rows is well kept, whatever else its storage holds. -/
theorem distinct_of_rows_eq_nil (empty : history.rows = []) : history.Distinct := by
  have rings : history.rings = [] := List.map_eq_nil_iff.mp empty
  have marks : history.marks = [] := by rw [History.marks, rings]; rfl
  refine ⟨rings ▸ List.nodup_nil, marks ▸ List.nodup_nil, fun mark member => ?_⟩
  rw [marks] at member
  exact absurd member List.not_mem_nil

theorem mem_values_of_find? {rings : Keyed Nat (List RowMark)} {mark : RowMark}
    (member : mark ∈ (rings.find? track).getD []) : mark ∈ rings.values.flatten := by
  cases found : rings.find? track with
  | none =>
      rw [found] at member
      exact absurd member List.not_mem_nil
  | some ring =>
      rw [found] at member
      exact List.mem_flatten.mpr ⟨ring, List.mem_map_of_mem (Keyed.mem_of_find? found), member⟩

/-- Writing the ring of a track exchanges its marks. -/
theorem perm_put (rings : Keyed Nat (List RowMark)) (track : Nat) (ring : List RowMark) :
    ((rings.find? track).getD [] ++ (rings.put track ring).values.flatten).Perm
      (ring ++ rings.values.flatten) := by
  induction rings with
  | nil => exact List.Perm.refl _
  | cons entry rest inductionHypothesis =>
      obtain ⟨present, old⟩ := entry
      by_cases same : present = track
      · simp only [Keyed.find?, Keyed.put, if_pos same, Option.getD_some]
        exact List.perm_append_comm_assoc old ring _
      · simp only [Keyed.find?, Keyed.put, if_neg same]
        have moved := inductionHypothesis.append_left old
        exact (List.perm_append_comm_assoc _ old _).trans
          (moved.trans (List.perm_append_comm_assoc old ring _))

theorem nodup_keys_put {rings : Keyed Nat (List RowMark)} (once : rings.keys.Nodup) (track : Nat)
    (ring : List RowMark) : (rings.put track ring).keys.Nodup := by
  rw [Keyed.keys_put]
  split
  · exact once
  · rename_i absent
    refine List.nodup_append.mpr ⟨once, List.nodup_singleton track, ?_⟩
    rintro key member other here rfl
    exact absent (List.mem_singleton.mp here ▸ member)

/-! ## Dropping and adding rows -/

section Without

variable {dropped : List RowMark} {rings : Keyed Nat (List RowMark)} {mark : RowMark}

/-- The marks of a history divided into those that are dropped and those in the rings that are left. -/
def Divides (history : History σ) (dropped : List RowMark) (rings : Keyed Nat (List RowMark)) : Prop :=
  (dropped ++ rings.values.flatten).Perm history.marks

namespace Divides

variable (divides : history.Divides dropped rings) (distinct : history.Distinct)

include divides distinct

theorem nodup : ((dropped ++ rings.values.flatten).map RowMark.key).Nodup :=
  (divides.map RowMark.key).nodup_iff.mpr distinct.apart

theorem apart (left : mark ∈ rings.values.flatten) : mark.key ∉ dropped.map RowMark.key := by
  have nodup := divides.nodup distinct
  rw [List.map_append] at nodup
  intro member
  exact (List.nodup_append.mp nodup).2.2 _ member _ (List.mem_map_of_mem left) rfl

variable [LawfulStorage σ]

theorem read?_cells (key : Nat) :
    Storage.read? (history.without dropped rings).cells key =
      if key ∈ dropped.map RowMark.key then none else Storage.read? history.cells key := by
  have nodup := divides.nodup distinct
  rw [List.map_append] at nodup
  refine Storage.read?_eraseAll history.cells (List.nodup_append.mp nodup).1 ?_ key
  intro other member
  obtain ⟨mark, listed, same⟩ := List.mem_map.mp member
  exact same ▸ distinct.stored mark (divides.subset (List.mem_append_left _ listed))

theorem read?_left (left : mark ∈ rings.values.flatten) :
    Storage.read? (history.without dropped rings).cells mark.key =
      Storage.read? history.cells mark.key := by
  rw [divides.read?_cells distinct, if_neg (divides.apart distinct left)]

theorem distinct_without (once : rings.keys.Nodup) : (history.without dropped rings).Distinct where
  once := once
  apart := by
    have nodup := divides.nodup distinct
    rw [List.map_append] at nodup
    exact (List.nodup_append.mp nodup).2.1
  stored := by
    intro mark left
    rw [divides.read?_left distinct left]
    exact distinct.stored mark (divides.subset (List.mem_append_right _ left))

/-- The rows that are left are as they were. -/
theorem rowsOf_without (track : Nat) :
    (history.without dropped rings).rowsOf track =
      ((rings.find? track).getD []).map history.rowAt := by
  rw [rowsOf_eq_map]
  refine List.map_congr_left fun mark member => ?_
  rw [rowAt, rowAt, divides.read?_left distinct (mem_values_of_find? member)]

end Divides

end Without

section Append

variable (history) (track frame : Nat) (values : List Value)

/-- The mark of a new row. -/
def newMark : RowMark := ⟨frame, (Storage.insert history.cells values).1⟩

theorem rings_append : (history.append track frame values).rings =
    history.rings.put track (history.ringOf track ++ [history.newMark frame values]) := rfl

theorem perm_append : (history.append track frame values).marks.Perm
    (history.newMark frame values :: history.marks) := by
  refine (List.perm_append_left_iff (history.ringOf track)).mp
    ((perm_put history.rings track _).trans ?_)
  rw [List.append_assoc]
  exact List.Perm.refl _

variable [LawfulStorage σ]

theorem read?_append (key : Nat) :
    Storage.read? (history.append track frame values).cells key =
      if key = (history.newMark frame values).key then some values
      else Storage.read? history.cells key :=
  LawfulStorage.read?_insert ..

variable {history}

theorem Distinct.newMark_apart (distinct : history.Distinct) {mark : RowMark}
    (member : mark ∈ history.marks) : mark.key ≠ (history.newMark frame values).key := by
  intro same
  have used := distinct.stored mark member
  rw [same, newMark, LawfulStorage.read?_fresh] at used
  exact absurd used (by simp)

theorem Distinct.rowAt_append (distinct : history.Distinct) {mark : RowMark}
    (member : mark ∈ history.marks) :
    (history.append track frame values).rowAt mark = history.rowAt mark := by
  rw [rowAt, rowAt, read?_append, if_neg (distinct.newMark_apart frame values member)]

theorem Distinct.append (distinct : history.Distinct) :
    (history.append track frame values).Distinct where
  once := nodup_keys_put distinct.once ..
  apart := by
    rw [((perm_append history track frame values).map RowMark.key).nodup_iff, List.map_cons,
      List.nodup_cons]
    refine ⟨fun member => ?_, distinct.apart⟩
    obtain ⟨mark, listed, same⟩ := List.mem_map.mp member
    exact distinct.newMark_apart frame values listed same
  stored := by
    intro mark member
    rw [read?_append]
    rcases List.mem_cons.mp ((perm_append history track frame values).subset member) with rfl | old
    · rw [if_pos rfl]
      rfl
    · rw [if_neg (distinct.newMark_apart frame values old)]
      exact distinct.stored mark old

theorem rowsOf_append (distinct : history.Distinct) (other : Nat) :
    (history.append track frame values).rowsOf other =
      if other = track then history.rowsOf track ++ [⟨frame, values⟩] else history.rowsOf other := by
  have old (track' : Nat) : (history.ringOf track').map
      (history.append track frame values).rowAt = history.rowsOf track' := by
    rw [rowsOf_eq_map]
    exact List.map_congr_left fun mark member =>
      distinct.rowAt_append track frame values (mem_values_of_find? member)
  have new : (history.append track frame values).rowAt (history.newMark frame values) =
      ⟨frame, values⟩ := by
    rw [rowAt, read?_append, if_pos rfl]
    rfl
  rw [rowsOf_eq_map, ringOf, rings_append, Keyed.find?_put]
  by_cases same : other = track
  · rw [if_pos same.symm, if_pos same, Option.getD_some, List.map_append, old, List.map_singleton,
      new]
  · rw [if_neg (Ne.symm same), if_neg same]
    exact old other

end Append

/-! ## Rows of one track -/

/-- Rows in the order of their frames. -/
def Ascending (rows : List HistoryRow) : Prop := rows.Pairwise fun a b => a.frame < b.frame

/-- Whether rows are followed by one on a later frame. -/
def isFollowed (capacity : Nat) (rows : List HistoryRow) (frame : Nat) : Bool :=
  decide (0 < capacity) &&
    match rows.getLast? with
    | some last => decide (last.frame < frame)
    | none => true

/-- The rows of a track with a new one, which is refused if it is not later than the last. -/
def pushRow (capacity : Nat) (rows : List HistoryRow) (row : HistoryRow) : List HistoryRow :=
  if isFollowed capacity rows row.frame then
    (if rows.length < capacity then rows else rows.tail) ++ [row]
  else rows

/-- The rows from a frame on. -/
def recent (cutoff : Nat) (rows : List HistoryRow) : List HistoryRow :=
  rows.filter fun row => decide (cutoff ≤ row.frame)

theorem mem_pushRow {capacity : Nat} {rows : List HistoryRow} {new row : HistoryRow}
    (member : row ∈ pushRow capacity rows new) : row ∈ rows ∨ row = new := by
  unfold pushRow at member
  split at member
  · rcases List.mem_append.mp member with old | here
    · left
      split at old
      · exact old
      · exact List.mem_of_mem_tail old
    · exact Or.inr (List.mem_singleton.mp here)
  · exact Or.inl member

theorem lt_of_isFollowed
    {capacity : Nat} {rows : List HistoryRow} (ascending : Ascending rows) {frame : Nat}
    (followed : isFollowed capacity rows frame) {row : HistoryRow} (member : row ∈ rows) :
    row.frame < frame := by
  rcases List.eq_nil_or_concat rows with rfl | ⟨rest, last, rfl⟩
  · exact absurd member List.not_mem_nil
  · rw [List.concat_eq_append] at *
    have late : last.frame < frame := by simpa [isFollowed] using (Bool.and_eq_true_iff.mp followed).2
    rcases List.mem_append.mp member with earlier | here
    · exact Nat.lt_trans ((List.pairwise_append.mp ascending).2.2 row earlier last
        List.mem_cons_self) late
    · rw [List.mem_singleton.mp here]
      exact late

theorem ascending_pushRow
    {capacity : Nat} {rows : List HistoryRow} (ascending : Ascending rows) (new : HistoryRow) :
    Ascending (pushRow capacity rows new) := by
  unfold pushRow
  split
  · rename_i followed
    have kept : (if rows.length < capacity then rows else rows.tail).Sublist rows := by
      split
      · exact List.Sublist.refl rows
      · exact List.tail_sublist rows
    refine List.pairwise_append.mpr ⟨ascending.sublist kept, List.pairwise_singleton _ _, ?_⟩
    intro row member other here
    rw [List.mem_singleton.mp here]
    exact lt_of_isFollowed ascending followed (kept.subset member)
  · exact ascending

/-- Rows between two frames are no more than the frames. -/
theorem length_le_of_ascending
    {rows : List HistoryRow} (ascending : Ascending rows) {first bound : Nat}
    (inside : ∀ row ∈ rows, first ≤ row.frame ∧ row.frame < bound) :
    rows.length ≤ bound - first := by
  have distinct : (rows.map HistoryRow.frame).Nodup :=
    (List.pairwise_map.mpr ascending).imp Nat.ne_of_lt
  have contained : rows.map HistoryRow.frame ⊆ List.range' first (bound - first) := by
    intro frame member
    obtain ⟨row, listed, rfl⟩ := List.mem_map.mp member
    obtain ⟨lower, upper⟩ := inside row listed
    exact List.mem_range'_1.mpr ⟨lower, by omega⟩
  have fewer := (List.Nodup.subperm distinct contained).length_le
  rwa [List.length_map, List.length_range'] at fewer

theorem isFollowed_of_lt
    {capacity : Nat} {rows : List HistoryRow} {frame : Nat} (room : 0 < capacity)
    (before : ∀ row ∈ rows, row.frame < frame) :
    isFollowed capacity rows frame := by
  unfold isFollowed
  rw [decide_eq_true room, Bool.true_and]
  cases last : rows.getLast? with
  | none => rfl
  | some row => exact decide_eq_true (before row (List.mem_of_getLast? last))

/-- Where there are as many rows as there may be, the first is as old as that. -/
theorem first_of_full
    {capacity frame : Nat} {first : HistoryRow} {rest : List HistoryRow}
    (ascending : Ascending (first :: rest)) (before : ∀ row ∈ first :: rest, row.frame < frame)
    (full : ¬ (first :: rest).length < capacity) :
    first.frame + capacity ≤ frame := by
  have later := (List.pairwise_cons.mp ascending).1
  have few := @length_le_of_ascending _ ascending first.frame frame fun row listed => by
    rcases List.mem_cons.mp listed with rfl | inRest
    · exact ⟨Nat.le_refl _, before _ listed⟩
    · exact ⟨Nat.le_of_lt (later row inRest), before row listed⟩
  have here := before first List.mem_cons_self
  omega

theorem mem_pushRow_new
    {capacity : Nat} {rows : List HistoryRow} {new : HistoryRow} (room : 0 < capacity)
    (before : ∀ other ∈ rows, other.frame < new.frame) :
    new ∈ pushRow capacity rows new := by
  unfold pushRow
  rw [if_pos (isFollowed_of_lt room before)]
  exact List.mem_append_right _ List.mem_cons_self

/-- A row that is pushed out is the first one, and there are as many as there may be. -/
theorem mem_pushRow_of_mem
    {capacity : Nat} {rows : List HistoryRow} (ascending : Ascending rows) {new row : HistoryRow}
    (before : ∀ other ∈ rows, other.frame < new.frame) (near : new.frame < row.frame + capacity)
    (member : row ∈ rows) :
    row ∈ pushRow capacity rows new := by
  unfold pushRow
  split
  · refine List.mem_append_left _ ?_
    split
    · exact member
    · rename_i full
      cases rows with
      | nil => exact absurd member List.not_mem_nil
      | cons head tail =>
          rcases List.mem_cons.mp member with rfl | later
          · have old := first_of_full ascending before full
            omega
          · exact later
  · exact member

/-! ## Adding a row to a track -/

theorem accepts_eq (history : History σ) (track frame : Nat) :
    history.accepts track frame =
      isFollowed history.capacity (history.rowsOf track) frame := by
  rw [accepts, isFollowed, rowsOf_eq_map, List.getLast?_map]
  cases (history.ringOf track).getLast? <;> rfl

omit [Storage σ] in
theorem divides_makeRoom (history : History σ) (track : Nat) :
    history.Divides ((history.ringOf track).take 1)
      (history.rings.put track ((history.ringOf track).drop 1)) := by
  have exchanged := perm_put history.rings track ((history.ringOf track).drop 1)
  rw [← ringOf] at exchanged
  nth_rewrite 1 [← List.take_append_drop 1 (history.ringOf track)] at exchanged
  rw [List.append_assoc] at exchanged
  exact (List.perm_append_left_iff _).mp ((List.perm_append_comm_assoc _ _ _).trans exchanged)

theorem columns_push (history : History σ) (track frame : Nat) (values : List Value) :
    (history.push track frame values).columns = history.columns := by
  unfold push makeRoom
  split
  · split <;> rfl
  · rfl

theorem capacity_push (history : History σ) (track frame : Nat) (values : List Value) :
    (history.push track frame values).capacity = history.capacity := by
  unfold push makeRoom
  split
  · split <;> rfl
  · rfl

theorem latest?_eq (distinct : history.Distinct) (track : Nat) :
    history.latest? track = (history.rowsOf track).getLast? := by
  rw [latest?, rowsOf_eq_map, List.getLast?_map]
  cases last : (history.ringOf track).getLast? with
  | none => rfl
  | some mark =>
      have stored := distinct.stored mark (mem_values_of_find? (List.mem_of_getLast? last))
      obtain ⟨values, found⟩ := Option.isSome_iff_exists.mp stored
      simp [rowAt, found]

section Push

variable [LawfulStorage σ]

theorem distinct_makeRoom (distinct : history.Distinct) (track : Nat) :
    (history.makeRoom track).Distinct := by
  unfold makeRoom
  split
  · exact distinct
  · exact (divides_makeRoom history track).distinct_without distinct
      (nodup_keys_put distinct.once ..)

theorem distinct_push
    (distinct : history.Distinct) (track frame : Nat) (values : List Value) :
    (history.push track frame values).Distinct := by
  unfold push
  split
  · exact (distinct_makeRoom distinct track).append track frame values
  · exact distinct

theorem rowsOf_makeRoom (distinct : history.Distinct) (track other : Nat) :
    (history.makeRoom track).rowsOf other =
      if other = track then
        (if (history.rowsOf track).length < history.capacity then history.rowsOf track
          else (history.rowsOf track).tail)
      else history.rowsOf other := by
  have length : (history.rowsOf track).length = (history.ringOf track).length := by
    rw [rowsOf_eq_map, List.length_map]
  rw [length, makeRoom]
  split
  · by_cases same : other = track <;> simp [same]
  · rw [(divides_makeRoom history track).rowsOf_without distinct, Keyed.find?_put]
    by_cases same : other = track
    · rw [if_pos same.symm, if_pos same, Option.getD_some, rowsOf_eq_map, List.map_drop,
        List.drop_one]
    · rw [if_neg (Ne.symm same), if_neg same, rowsOf_eq_map]
      rfl

theorem rowsOf_push (distinct : history.Distinct) (track frame : Nat) (values : List Value)
    (other : Nat) :
    (history.push track frame values).rowsOf other =
      if other = track then pushRow history.capacity (history.rowsOf track) ⟨frame, values⟩
      else history.rowsOf other := by
  unfold push pushRow
  rw [accepts_eq]
  by_cases followed : isFollowed history.capacity (history.rowsOf track) frame
  · rw [if_pos followed, if_pos followed, rowsOf_append track frame values
      (distinct_makeRoom distinct track), rowsOf_makeRoom distinct, rowsOf_makeRoom distinct]
    by_cases same : other = track <;> simp [same]
  · rw [if_neg followed, if_neg followed]
    by_cases same : other = track
    · rw [if_pos same, same]
    · rw [if_neg same]

end Push

/-! ## Dropping rows out of reach -/

section Evict

/-- The rings that are left when rows out of reach are dropped. -/
def outlasting (history : History σ) (frame : Nat) (keep : Nat → Bool) : Keyed Nat (List RowMark) :=
  (history.rings.mapValues fun track ring => ring.filter (history.outlasts frame keep track)).filter
    fun entry => !entry.2.isEmpty

theorem evict_eq (history : History σ) (frame : Nat) (keep : Nat → Bool) :
    history.evict frame keep =
      history.without (history.outlasted frame keep) (history.outlasting frame keep) := rfl

/-- Leaving out the tracks without marks leaves out no mark. -/
theorem flatten_filter_isEmpty (rings : Keyed Nat (List RowMark)) :
    (Keyed.values (rings.filter fun entry => !entry.2.isEmpty)).flatten = rings.values.flatten := by
  induction rings with
  | nil => rfl
  | cons entry rest inductionHypothesis =>
      by_cases empty : entry.2 = []
      · rw [List.filter_cons_of_neg (by simp [empty]), inductionHypothesis]
        simp [Keyed.values, empty]
      · rw [List.filter_cons_of_pos (by simpa using empty)]
        simpa [Keyed.values] using inductionHypothesis

omit [Storage σ] in
theorem divides_evict (history : History σ) (frame : Nat) (keep : Nat → Bool) :
    history.Divides (history.outlasted frame keep) (history.outlasting frame keep) := by
  unfold Divides outlasting outlasted marks
  rw [flatten_filter_isEmpty]
  induction history.rings with
  | nil => exact List.Perm.refl _
  | cons entry rest inductionHypothesis =>
      obtain ⟨track, ring⟩ := entry
      have here : (ring.filter (fun mark => !history.outlasts frame keep track mark) ++
          ring.filter (history.outlasts frame keep track)).Perm ring :=
        List.perm_append_comm.trans (List.filter_append_perm ..)
      simp only [List.flatMap_cons, Keyed.mapValues, List.map_cons, Keyed.values,
        List.flatten_cons] at inductionHypothesis ⊢
      rw [List.append_assoc]
      refine ((List.perm_append_comm_assoc _ _ _).append_left _).trans ?_
      rw [← List.append_assoc]
      exact here.append inductionHypothesis

omit [Storage σ] in
theorem keys_outlasting_sublist (history : History σ) (frame : Nat) (keep : Nat → Bool) :
    (history.outlasting frame keep).keys.Sublist history.rings.keys := by
  rw [← Keyed.keys_mapValues (fun track ring => ring.filter (history.outlasts frame keep track))
    history.rings]
  exact List.filter_sublist.map Prod.fst

/-- A track of which all rows are dropped is dropped itself. -/
theorem ne_nil_of_find?_evict {keep : Nat → Bool} {rows : List HistoryRow}
    (found : (history.evict frame keep).rows.find? track = some rows) : rows ≠ [] := by
  rw [find?_rows] at found
  obtain ⟨ring, present, rfl⟩ := Option.map_eq_some_iff.mp found
  have left := (List.mem_filter.mp (Keyed.mem_of_find? present)).2
  simpa using left

/-- Without the tracks that are left with no marks, the marks of a track are found as before. -/
theorem find?_filter_isEmpty {rings : Keyed Nat (List RowMark)} (once : rings.keys.Nodup)
    (track : Nat) :
    (Keyed.find? (rings.filter fun entry => !entry.2.isEmpty) track).getD [] =
      (rings.find? track).getD [] := by
  induction rings with
  | nil => rfl
  | cons entry rest inductionHypothesis =>
      obtain ⟨key, ring⟩ := entry
      obtain ⟨absent, once⟩ := List.nodup_cons.mp once
      have later := inductionHypothesis once
      by_cases same : key = track
      · subst same
        rw [Keyed.find?_eq_none_iff.mpr absent] at later
        by_cases empty : ring = []
        · simpa [Keyed.find?, empty] using later
        · simp [Keyed.find?, empty]
      · by_cases empty : ring = []
        · simpa [empty, same, Keyed.find?] using later
        · simpa [Keyed.find?, empty, same] using later

theorem find?_outlasting (distinct : history.Distinct) (frame : Nat) (keep : Nat → Bool)
    (track : Nat) :
    ((history.outlasting frame keep).find? track).getD [] =
      (history.ringOf track).filter (history.outlasts frame keep track) := by
  rw [outlasting, find?_filter_isEmpty (by rw [Keyed.keys_mapValues]; exact distinct.once),
    Keyed.find?_mapValues, ringOf]
  cases history.rings.find? track <;> rfl

variable [LawfulStorage σ]

theorem distinct_evict (distinct : history.Distinct) (frame : Nat) (keep : Nat → Bool) :
    (history.evict frame keep).Distinct :=
  (divides_evict history frame keep).distinct_without distinct
    (distinct.once.sublist (keys_outlasting_sublist history frame keep))

theorem rowsOf_evict
    (distinct : history.Distinct) (frame : Nat) (keep : Nat → Bool) (track : Nat) :
    (history.evict frame keep).rowsOf track =
      if keep track then recent (history.cutoff frame) (history.rowsOf track) else [] := by
  rw [evict_eq, (divides_evict history frame keep).rowsOf_without distinct,
    find?_outlasting distinct, rowsOf_eq_map]
  by_cases kept : keep track
  · have same : history.outlasts frame keep track =
        (fun row => decide (history.cutoff frame ≤ row.frame)) ∘ history.rowAt := by
      funext mark
      rw [outlasts, kept, Bool.true_and]
      rfl
    rw [if_pos kept, recent, List.filter_map, same]
  · rw [if_neg kept]
    simp [outlasts, kept]

end Evict

/-! ## Windows -/

/-- The rows of a window. -/
def inside (rows : List HistoryRow) (frame length : Nat) : List HistoryRow :=
  rows.filter fun row => decide (frame - length ≤ row.frame) && decide (row.frame < frame)

/-- A window in terms of the rows. -/
theorem window?_eq_if (history : History σ) (track frame column length : Nat) :
    history.window? track frame column length =
      if length = 0 then some []
      else if frame < length then none
      else if (inside (history.rowsOf track) frame length).length = length then
        (inside (history.rowsOf track) frame length).mapM fun row => row.values[column]?
      else none := by
  have reads (mark : RowMark) : (Storage.read? history.cells mark.key >>= fun values =>
      values[column]?) = (history.rowAt mark).values[column]? := by
    cases found : Storage.read? history.cells mark.key <;> simp [rowAt, found]
  have marked : inside (history.rowsOf track) frame length =
      ((history.ringOf track).filter fun mark =>
        decide (frame - length ≤ mark.frame) && decide (mark.frame < frame)).map history.rowAt := by
    rw [rowsOf_eq_map, inside, List.filter_map]
    rfl
  rw [window?, marked, List.length_map, List.mapM_map]
  simp only [reads]
  rfl

theorem mem_inside
    {rows : List HistoryRow} {frame length : Nat} {row : HistoryRow} :
    row ∈ inside rows frame length ↔
      row ∈ rows ∧ frame - length ≤ row.frame ∧ row.frame < frame := by
  simp [inside]

theorem ascending_inside
    {rows : List HistoryRow} (ascending : Ascending rows) (frame length : Nat) :
    ((inside rows frame length).map HistoryRow.frame).Pairwise (· < ·) :=
  List.pairwise_map.mpr (List.Pairwise.filter _ ascending)

/-- Rows on the same frame are the same. -/
theorem eq_of_frame_eq
    {rows : List HistoryRow} (ascending : Ascending rows) {row other : HistoryRow}
    (member : row ∈ rows) (otherMember : other ∈ rows) (same : row.frame = other.frame) :
    row = other := by
  have distinct : (rows.map HistoryRow.frame).Nodup :=
    (List.pairwise_map.mpr ascending).imp Nat.ne_of_lt
  exact List.inj_on_of_nodup_map distinct member otherMember same

theorem mapM_eq_map {β γ : Type} {read : β → Option γ} {value : β → γ} {items : List β}
    (reads : ∀ item ∈ items, read item = some (value item)) :
    items.mapM read = some (items.map value) := by
  induction items with
  | nil => rfl
  | cons item rest inductionHypothesis =>
      have later := inductionHypothesis fun other member =>
        reads other (List.mem_cons_of_mem item member)
      simp [reads item List.mem_cons_self, later]

theorem mem_of_mapM {β γ : Type} {read : β → Option γ} {items : List β} {results : List γ}
    (found : items.mapM read = some results) {item : β} (member : item ∈ items) {result : γ}
    (here : read item = some result) :
    result ∈ results := by
  induction items generalizing results with
  | nil => exact absurd member List.not_mem_nil
  | cons first rest inductionHypothesis =>
      rw [List.mapM_cons] at found
      obtain ⟨head, headEq, found⟩ := Option.bind_eq_some_iff.mp found
      obtain ⟨others, later, listed⟩ := Option.bind_eq_some_iff.mp found
      obtain rfl := Option.some.inj listed
      rcases List.mem_cons.mp member with rfl | inRest
      · rw [Option.some.inj (here.symm.trans headEq)]
        exact List.mem_cons_self
      · exact List.mem_cons_of_mem head (inductionHypothesis later inRest)

/-- Rows on each frame of a window are one a frame. -/
theorem frames_inside
    {rows : List HistoryRow} (ascending : Ascending rows) {length : Nat} (short : length ≤ frame)
    (present : ∀ other, frame - length ≤ other → other < frame →
      ∃ row ∈ rows, row.frame = other) :
    (inside rows frame length).map HistoryRow.frame = List.range' (frame - length) length := by
  refine List.Perm.eq_of_pairwise (fun a b _ _ first second => absurd first (Nat.lt_asymm second))
    (ascending_inside ascending frame length) List.pairwise_lt_range' ?_
  rw [List.perm_ext_iff_of_nodup ((ascending_inside ascending frame length).imp Nat.ne_of_lt)
    List.nodup_range']
  intro other
  rw [List.mem_map, List.mem_range'_1]
  constructor
  · rintro ⟨row, member, rfl⟩
    obtain ⟨_, first, last⟩ := mem_inside.mp member
    omega
  · rintro ⟨first, last⟩
    obtain ⟨row, member, named⟩ := present other first (by omega)
    exact ⟨row, mem_inside.mpr ⟨member, by omega, by omega⟩, named⟩

/-- A window is there if the track has a row on each of its frames. -/
theorem window?_eq_map
    (ascending : Ascending (history.rowsOf track)) {column length : Nat} {value : Nat → Value}
    (short : length ≤ frame)
    (present : ∀ other, frame - length ≤ other → other < frame →
      ∃ row ∈ history.rowsOf track, row.frame = other ∧ row.values[column]? = some (value other)) :
    history.window? track frame column length =
      some ((List.range' (frame - length) length).map value) := by
  have frames := frames_inside ascending short fun other first last => by
    obtain ⟨row, member, named, _⟩ := present other first last
    exact ⟨row, member, named⟩
  have full : (inside (history.rowsOf track) frame length).length = length := by
    have count := congrArg List.length frames
    rwa [List.length_map, List.length_range'] at count
  have values : (inside (history.rowsOf track) frame length).mapM (fun row =>
      row.values[column]?) =
        some ((inside (history.rowsOf track) frame length).map fun row => value row.frame) := by
    refine mapM_eq_map fun row member => ?_
    obtain ⟨member, first, last⟩ := mem_inside.mp member
    obtain ⟨other, otherMember, same, found⟩ := present row.frame first last
    rw [eq_of_frame_eq ascending member otherMember same.symm, found, same]
  have mapped : (inside (history.rowsOf track) frame length).map (fun row => value row.frame) =
      (List.range' (frame - length) length).map value := by
    rw [← frames, List.map_map]
    rfl
  rw [window?_eq_if, if_neg (Nat.not_lt.mpr short), if_pos full, values, mapped]
  by_cases zero : length = 0
  · rw [if_pos zero, zero]
    exact congrArg some rfl
  · exact if_neg zero

/-- A track that has a window has a row on each of its frames. -/
theorem exists_row_of_window?
    (ascending : Ascending (history.rowsOf track)) {column length : Nat} {values : List Value}
    (found : history.window? track frame column length = some values) :
    length ≤ frame ∧ ∀ other, frame - length ≤ other → other < frame →
      ∃ row ∈ history.rowsOf track, row.frame = other := by
  rw [window?_eq_if] at found
  split at found
  · rename_i zero
    exact ⟨by omega, fun other first last => by omega⟩
  · split at found
    · exact absurd found (by simp)
    · rename_i long
      have short : length ≤ frame := by omega
      refine ⟨short, fun other first last => ?_⟩
      have full : (inside (history.rowsOf track) frame length).length = length := by
        by_contra different
        have none : (none : Option (List Value)) = some values := (if_neg different).symm.trans found
        exact absurd none (by simp)
      have contained : (inside (history.rowsOf track) frame length).map HistoryRow.frame ⊆
          List.range' (frame - length) length := by
        intro present listed
        obtain ⟨row, member, rfl⟩ := List.mem_map.mp listed
        obtain ⟨_, first, last⟩ := mem_inside.mp member
        exact List.mem_range'_1.mpr ⟨first, by omega⟩
      have distinct : ((inside (history.rowsOf track) frame length).map
          HistoryRow.frame).Nodup :=
        (ascending_inside ascending frame length).imp Nat.ne_of_lt
      have perm := (List.Nodup.subperm distinct contained).perm_of_length_le (by
        rw [List.length_map, full, List.length_range'])
      have listed : other ∈ List.range' (frame - length) length :=
        List.mem_range'_1.mpr ⟨first, by omega⟩
      obtain ⟨row, member, named⟩ := List.mem_map.mp (perm.mem_iff.mpr listed)
      exact ⟨row, (mem_inside.mp member).1, named⟩

/-- The values of a window are those of the rows on its frames. -/
theorem mem_of_window?
    {column length : Nat} {values : List Value}
    (found : history.window? track frame column length = some values) {row : HistoryRow}
    (member : row ∈ history.rowsOf track) (first : frame - length ≤ row.frame)
    (last : row.frame < frame) {value : Value} (here : row.values[column]? = some value) :
    value ∈ values := by
  have listed : row ∈ inside (history.rowsOf track) frame length :=
    mem_inside.mpr ⟨member, first, last⟩
  rw [window?_eq_if] at found
  split at found
  · omega
  · split at found
    · exact absurd found (by simp)
    · split at found
      · exact mem_of_mapM found listed here
      · exact absurd found (by simp)

/-! ## Columns side by side -/

/-- The values of a column from a frame on. -/
def columnFrom (bound column : Nat) (rows : List HistoryRow) : List (Nat × Option Value) :=
  (recent bound rows).map fun row => (row.frame, row.values[column]?)

theorem recent_recent {bound cutoff : Nat} (reached : cutoff ≤ bound) (rows : List HistoryRow) :
    recent bound (recent cutoff rows) = recent bound rows := by
  unfold recent
  rw [List.filter_filter]
  congr 1
  funext row
  by_cases late : bound ≤ row.frame
  · simp [late, reached.trans late]
  · simp [late]

theorem columnFrom_recent
    {bound cutoff : Nat} (reached : cutoff ≤ bound) (column : Nat) (rows : List HistoryRow) :
    columnFrom bound column (recent cutoff rows) = columnFrom bound column rows := by
  unfold columnFrom
  rw [recent_recent reached]

/-- What is pushed out is too old to matter. -/
theorem recent_pushRow
    {capacity bound : Nat} {rows : List HistoryRow} (ascending : Ascending rows) {new : HistoryRow}
    (before : ∀ other ∈ rows, other.frame < new.frame) (near : new.frame < bound + capacity) :
    recent bound (pushRow capacity rows new) = recent bound (rows ++ [new]) := by
  unfold recent
  by_cases room : 0 < capacity
  · unfold pushRow
    rw [if_pos (isFollowed_of_lt room before)]
    split
    · rfl
    · rename_i full
      cases rows with
      | nil => rfl
      | cons head tail =>
          have first := first_of_full ascending before full
          have old : ¬ bound ≤ head.frame := by omega
          rw [List.tail_cons, List.cons_append, List.filter_cons_of_neg (by simpa using old)]
  · have refused : ¬ isFollowed capacity rows new.frame := by
      simp [isFollowed, room]
    have old : ¬ bound ≤ new.frame := by omega
    unfold pushRow
    rw [if_neg refused, List.filter_append]
    simp [old]

theorem columnFrom_pushRow
    {capacity bound : Nat} {rows : List HistoryRow} (ascending : Ascending rows) {new : HistoryRow}
    (before : ∀ other ∈ rows, other.frame < new.frame) (near : new.frame < bound + capacity)
    (column : Nat) :
    columnFrom bound column (pushRow capacity rows new) =
      columnFrom bound column rows ++ columnFrom bound column [new] := by
  unfold columnFrom
  rw [recent_pushRow ascending before near, ← List.map_append]
  unfold recent
  rw [List.filter_append]

/-- A window looks at no more than a column from its first frame on. -/
theorem window?_eq_of_columnFrom
    {other : History} {column length : Nat}
    (same : columnFrom (frame - length) column (history.rowsOf track) =
      columnFrom (frame - length) column (other.rowsOf track)) :
    history.window? track frame column length = other.window? track frame column length := by
  have mapped : ∀ rows : List HistoryRow,
      (inside rows frame length).map (fun row => (row.frame, row.values[column]?)) =
        (columnFrom (frame - length) column rows).filter fun entry => decide (entry.1 < frame) := by
    intro rows
    unfold columnFrom recent inside
    rw [List.filter_map, List.filter_filter]
    congr 2
    funext row
    exact Bool.and_comm ..
  have entries := (mapped (history.rowsOf track)).trans
    ((congrArg _ same).trans (mapped (other.rowsOf track)).symm)
  have lengths := congrArg List.length entries
  rw [List.length_map, List.length_map] at lengths
  have reads := congrArg (List.mapM Prod.snd) entries
  rw [List.mapM_map, List.mapM_map] at reads
  rw [window?_eq_if, window?_eq_if, lengths]
  split
  · rfl
  · split
    · rfl
    · split
      · exact reads
      · rfl

end History

end ObjectQuery
