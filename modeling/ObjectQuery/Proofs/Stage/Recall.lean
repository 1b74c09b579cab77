import Mathlib.Data.List.Induction
import ObjectQuery.Proofs.Stage.Chain

/-!
# What a projector remembers

The rows that a projector has of a track are told from the frames it has been applied to, as they were
when everything was written: `memory` goes through them one by one. Where the property does not read its
own past a row is there for each of the last frames on which the track was computed, and a window is the
values on its frames (`past_eq_some`, `exists_frame_of_past`).
-/

namespace ObjectQuery

theorem Property.window_le_maxWindow
    {property : Property} {dependency : Dependency} (member : dependency ∈ property.dependencies) :
    dependency.window ≤ property.maxWindow := by
  unfold maxWindow
  have folded : ∀ (items : List Dependency) (largest : Nat),
      largest ≤ items.foldl (fun largest item => max largest item.window) largest ∧
        ∀ item ∈ items, item.window ≤
          items.foldl (fun largest item => max largest item.window) largest := by
    intro items
    induction items with
    | nil => exact fun largest => ⟨Nat.le_refl largest, by simp⟩
    | cons item rest inductionHypothesis =>
        intro largest
        obtain ⟨grows, later⟩ := inductionHypothesis (max largest item.window)
        refine ⟨(Nat.le_max_left ..).trans grows, fun other listed => ?_⟩
        rcases List.mem_cons.mp listed with rfl | inRest
        · exact (Nat.le_max_right ..).trans grows
        · exact later other inRest
  exact (folded property.dependencies 0).2 dependency member

namespace Projector

/-! ## From frame to frame -/

/-- A projector that differs from another one in its past only. -/
structure Alike (start now : Projector) : Prop where
  kept : now = { start with history := now.history }
  shape : SameShape now.history start.history

/-- The rows of a track after some frames on each of which the listed objects were computed. -/
def memory (projector : Projector) (listing : Frame → List Nat) (frames : List Frame)
    (track : Nat) : List HistoryRow :=
  frames.foldl (fun rows frame =>
    projector.trackRows frame track (projector.rowIn (listing frame) frame track) rows) []

/-- A projector after some frames. -/
structure Recalls (start now : Projector) (listing : Frame → List Nat) (frames : List Frame) :
    Prop extends Alike start now where
  rows : ∀ track, now.history.rowsOf track = start.memory listing frames track

variable {start now next : Projector} {listing : Frame → List Nat} {frames : List Frame}
  {frame : Frame}

theorem memory_concat (projector : Projector) (listing : Frame → List Nat) (frames : List Frame)
    (frame : Frame) (track : Nat) :
    projector.memory listing (frames ++ [frame]) track =
      projector.trackRows frame track (projector.rowIn (listing frame) frame track)
        (projector.memory listing frames track) := by
  simp [memory]

namespace Alike

theorem property (alike : start.Alike now) : now.property = start.property := by
  rw [alike.kept]

theorem className (alike : start.Alike now) : now.className = start.className := by
  rw [alike.kept]

theorem index (alike : start.Alike now) : now.index = start.index := by
  rw [alike.kept]

theorem rowIn_eq (alike : start.Alike now) (positions : List Nat) (frame : Frame) (track : Nat) :
    now.rowIn positions frame track = start.rowIn positions frame track := by
  rw [alike.kept]
  rfl

theorem currentValue_eq
    (alike : start.Alike now) (frame : Frame) (position : Nat) (record : ObjectRecord)
    (name : String) :
    now.currentValue frame position record name =
      start.currentValue frame position record name := by
  rw [alike.kept]
  rfl

theorem trackRows_eq
    (alike : start.Alike now) (frame : Frame) (track : Nat) (row : Option (List Value))
    (rows : List HistoryRow) :
    now.trackRows frame track row rows = start.trackRows frame track row rows := by
  unfold trackRows carriedRows History.cutoff
  rw [alike.shape.columns, alike.shape.capacity, alike.className, alike.property]

end Alike

theorem recalls_start (start : Projector) (empty : ∀ track, start.history.rowsOf track = [])
    (listing : Frame → List Nat) :
    start.Recalls start listing [] where
  kept := rfl
  shape := ⟨rfl, rfl, id⟩
  rows := empty

theorem Recalls.concat
    (recalls : start.Recalls now listing frames)
    (completed : now.Completed next (listing frame) frame) :
    start.Recalls next listing (frames ++ [frame]) where
  kept := by
    rw [completed.kept, recalls.kept]
  shape := ⟨completed.shape.columns.trans recalls.shape.columns,
    completed.shape.capacity.trans recalls.shape.capacity,
    fun once => completed.shape.distinct (recalls.shape.distinct once)⟩
  rows track := by
    rw [completed.rows, recalls.rows, recalls.rowIn_eq, recalls.trackRows_eq, memory_concat]

/-! ## Looking back on other names -/

/-- A projector of a property that does not look back on its own values. -/
structure IsPlain (projector : Projector) : Prop where
  columns : projector.history.columns = projector.property.windowed.map Dependency.name
  reach : ∀ dependency ∈ projector.property.dependencies,
    dependency.window ≤ projector.history.capacity
  others : ∀ dependency ∈ projector.property.windowed,
    dependency.name ≠ projector.property.name

/-- Frames whose numbers increase by one. -/
def CountedFrom (first : Nat) (frames : List Frame) : Prop :=
  frames.map Frame.id = List.range' first frames.length

theorem countedFrom_concat {first : Nat} :
    CountedFrom first (frames ++ [frame]) ↔
      CountedFrom first frames ∧ frame.id = first + frames.length := by
  unfold CountedFrom
  rw [List.map_append, List.length_append, List.length_singleton, List.range'_1_concat,
    List.map_singleton, List.append_singleton_inj]

theorem CountedFrom.take
    {first : Nat} (counted : CountedFrom first frames) (count : Nat) :
    CountedFrom first (frames.take count) := by
  unfold CountedFrom at *
  rw [List.map_take, counted, List.length_take]
  rcases Nat.le_total count frames.length with short | long
  · rw [List.take_range'_of_length_ge short, Nat.min_eq_left short]
  · rw [List.take_range'_of_length_le long, Nat.min_eq_right long]

/-- A frame with those before it. -/
theorem CountedFrom.until_frame
    {first place : Nat} (counted : CountedFrom first frames) (here : frames[place]? = some frame) :
    CountedFrom first (frames.take place ++ [frame]) := by
  have prefixed := counted.take (place + 1)
  rwa [List.take_add_one, here] at prefixed

theorem CountedFrom.bounds
    {first : Nat} (counted : CountedFrom first frames) (member : frame ∈ frames) :
    first ≤ frame.id ∧ frame.id < first + frames.length := by
  have inside : frame.id ∈ List.range' first frames.length :=
    counted ▸ List.mem_map_of_mem member
  exact List.mem_range'_1.mp inside

theorem CountedFrom.exists_frame
    {first id : Nat} (counted : CountedFrom first frames) (lower : first ≤ id)
    (upper : id < first + frames.length) :
    ∃ frame ∈ frames, frame.id = id := by
  have inside : id ∈ frames.map Frame.id := by
    rw [counted]
    exact List.mem_range'_1.mpr ⟨lower, upper⟩
  exact List.mem_map.mp inside

theorem CountedFrom.eq_of_id_eq
    {first : Nat} (counted : CountedFrom first frames) {frame other : Frame}
    (member : frame ∈ frames) (otherMember : other ∈ frames) (same : frame.id = other.id) :
    frame = other := by
  have distinct : (frames.map Frame.id).Nodup := by
    rw [counted]
    exact List.nodup_range'
  exact List.inj_on_of_nodup_map distinct member otherMember same

theorem IsPlain.carriedRows_eq (plain : start.IsPlain) (frame : Frame) (track : Nat)
    (rows : List HistoryRow) :
    start.carriedRows frame track rows = rows := by
  unfold carriedRows
  rw [plain.columns]
  refine if_neg fun carried => ?_
  obtain ⟨own, _⟩ := Bool.and_eq_true_iff.mp carried
  obtain ⟨dependency, member, named⟩ := List.mem_map.mp (List.contains_iff_mem.mp own)
  exact plain.others dependency member named

theorem IsPlain.mem_trackRows
    (plain : start.IsPlain) {track : Nat} {row : Option (List Value)} {rows : List HistoryRow}
    {item : HistoryRow} (member : item ∈ start.trackRows frame track row rows) :
    item ∈ rows ∨ item.frame = frame.id ∧ row = some item.values := by
  unfold trackRows at member
  split at member
  · exact Or.inl member
  · split at member
    · rw [plain.carriedRows_eq] at member
      replace member := (List.mem_filter.mp member).1
      cases row with
      | none => exact Or.inl member
      | some values =>
          rcases History.mem_pushRow member with old | new
          · exact Or.inl old
          · refine Or.inr ?_
            rw [new]
            exact ⟨rfl, rfl⟩
    · exact absurd member List.not_mem_nil

/-- A remembered row was computed on its frame. -/
theorem IsPlain.mem_memory
    (plain : start.IsPlain) {track : Nat} {row : HistoryRow}
    (member : row ∈ start.memory listing frames track) :
    ∃ frame ∈ frames, frame.id = row.frame ∧
      start.rowIn (listing frame) frame track = some row.values := by
  induction frames using List.reverseRecOn with
  | nil => exact absurd member List.not_mem_nil
  | append_singleton frames frame inductionHypothesis =>
      rw [memory_concat] at member
      rcases plain.mem_trackRows member with old | ⟨named, computed⟩
      · obtain ⟨earlier, listed, named, computed⟩ := inductionHypothesis old
        exact ⟨earlier, List.mem_append_left _ listed, named, computed⟩
      · exact ⟨frame, by simp, named.symm, computed⟩

theorem ascending_seenRows
    {rows : List HistoryRow} (ascending : History.Ascending rows) (capacity frame : Nat)
    (row : Option (List Value)) :
    History.Ascending (seenRows capacity frame row rows) := by
  cases row with
  | none => exact ascending
  | some values => exact History.ascending_pushRow ascending _

theorem IsPlain.ascending_memory (plain : start.IsPlain) (track : Nat) :
    History.Ascending (start.memory listing frames track) := by
  induction frames using List.reverseRecOn with
  | nil => exact List.Pairwise.nil
  | append_singleton frames frame inductionHypothesis =>
      rw [memory_concat]
      unfold trackRows
      split
      · exact inductionHypothesis
      · split
        · rw [plain.carriedRows_eq]
          exact (ascending_seenRows inductionHypothesis _ _ _).filter _
        · exact List.Pairwise.nil

theorem isLive_of_rowIn
    {projector : Projector} {positions : List Nat} {track : Nat}
    (computed : (projector.rowIn positions frame track).isSome) :
    frame.isLive projector.className track := by
  unfold rowIn at computed
  cases found : frame.recordOf? projector.className track with
  | none => rw [found] at computed; exact absurd computed (by simp)
  | some item =>
      obtain ⟨entry, here, _⟩ := Option.map_eq_some_iff.mp found
      have named := List.find?_some (p := fun entry : ObjectRecord × Nat =>
        decide (entry.1.trackId? = some track)) here
      have listed : entry.1 ∈ frame.recordsOf projector.className :=
        (List.mem_zipIdx (List.mem_of_find?_eq_some here)).2.2 ▸ List.getElem_mem _
      refine List.contains_iff_mem.mpr (List.mem_append_left _ ?_)
      exact List.mem_filterMap.mpr ⟨entry.1, listed, of_decide_eq_true named⟩

/-- A frame on which a track was computed is remembered as long as the track has been computed on every
frame since and a window reaches back to it. -/
theorem IsPlain.exists_row
    (plain : start.IsPlain) (stateful : start.property.windowed ≠ []) {first : Nat}
    (counted : CountedFrom first frames) {track past : Nat} (old : first ≤ past)
    (recently : past < first + frames.length)
    (near : first + frames.length ≤ past + start.history.capacity)
    (computed : ∀ frame ∈ frames, past ≤ frame.id →
      (start.rowIn (listing frame) frame track).isSome) :
    ∃ row ∈ start.memory listing frames track, row.frame = past := by
  induction frames using List.reverseRecOn with
  | nil =>
      rw [List.length_nil] at recently
      omega
  | append_singleton frames frame inductionHypothesis =>
      obtain ⟨countedBefore, named⟩ := countedFrom_concat.mp counted
      rw [List.length_append, List.length_singleton] at recently near
      have here := computed frame (by simp) (by omega)
      obtain ⟨values, valuesEq⟩ := Option.isSome_iff_exists.mp here
      have columns : start.history.columns.isEmpty = false := by
        rw [plain.columns]
        simpa using stateful
      have before : ∀ row ∈ start.memory listing frames track, row.frame < frame.id := by
        intro row member
        obtain ⟨earlier, listed, same, _⟩ := plain.mem_memory member
        have bound := (countedBefore.bounds listed).2
        omega
      rw [memory_concat, trackRows, columns, if_neg Bool.false_ne_true,
        if_pos (isLive_of_rowIn here), plain.carriedRows_eq, valuesEq]
      have kept : ∀ row ∈ History.pushRow start.history.capacity
          (start.memory listing frames track) ⟨frame.id, values⟩, row.frame = past →
            row ∈ History.recent (start.history.cutoff frame.id)
              (seenRows start.history.capacity frame.id (some values)
                (start.memory listing frames track)) := by
        intro row member same
        refine List.mem_filter.mpr ⟨member, decide_eq_true ?_⟩
        unfold History.cutoff
        omega
      by_cases now : past = frame.id
      · subst now
        exact ⟨_, kept _ (History.mem_pushRow_new (by omega) before) rfl, rfl⟩
      · obtain ⟨row, member, same⟩ := inductionHypothesis countedBefore (by omega) (by omega)
          fun earlier listed => computed earlier (List.mem_append_left _ listed)
        refine ⟨row, kept row ?_ same, same⟩
        exact History.mem_pushRow_of_mem (plain.ascending_memory track) before
          (by simp only; omega) member

/-! ## Windows -/

theorem rowIn_eq_some
    {projector : Projector} {positions : List Nat} {track : Nat} {values : List Value} :
    projector.rowIn positions frame track = some values ↔
      ∃ position record, frame.recordOf? projector.className track = some (position, record) ∧
        position ∈ positions ∧ projector.rowOn frame position record = values := by
  unfold rowIn
  rw [Option.bind_eq_some_iff]
  constructor
  · rintro ⟨⟨position, record⟩, found, computed⟩
    split at computed
    · rename_i listed
      exact ⟨position, record, found, List.contains_iff_mem.mp listed, Option.some.inj computed⟩
    · exact absurd computed (by simp)
  · rintro ⟨position, record, found, listed, rfl⟩
    exact ⟨(position, record), found, if_pos (List.contains_iff_mem.mpr listed)⟩

/-- The value of a name in the row of an object. -/
theorem IsPlain.getElem?_rowOn
    (plain : start.IsPlain) (frame : Frame) (position : Nat) (record : ObjectRecord)
    {dependency : Dependency} (member : dependency ∈ start.property.windowed) :
    (start.rowOn frame position record)[start.history.columns.idxOf dependency.name]? =
      some (start.currentValue frame position record dependency.name) := by
  have values : start.rowOn frame position record =
      start.history.columns.map (start.currentValue frame position record) := by
    rw [plain.columns, List.map_map]
    refine List.map_congr_left fun other listed => ?_
    rw [if_neg (plain.others other listed)]
    rfl
  have column : dependency.name ∈ start.history.columns :=
    plain.columns ▸ List.mem_map_of_mem member
  rw [values, List.getElem?_map, List.getElem?_idxOf column, Option.map_some]

section Windows

variable {first track : Nat} {dependency : Dependency} {other : Frame}

theorem past?_eq (projector : Projector) (frame : Frame) (track : Nat) (dependency : Dependency) :
    projector.past? frame (some track) dependency =
      projector.history.window? track frame.id (projector.history.columns.idxOf dependency.name)
        dependency.window :=
  rfl

/-- A window is there if the track was computed on each of its frames. -/
theorem past_eq_some
    (plain : start.IsPlain) (recalls : start.Recalls now listing frames)
    (counted : CountedFrom first (frames ++ [other])) (member : dependency ∈ start.property.windowed)
    (long : dependency.window ≤ frames.length) {value : Nat → Value}
    (computed : ∀ frame ∈ frames, other.id ≤ frame.id + dependency.window →
      ∃ position record, frame.recordOf? start.className track = some (position, record) ∧
        position ∈ listing frame ∧
          start.currentValue frame position record dependency.name = value frame.id) :
    now.past? other (some track) dependency =
      some ((List.range' (other.id - dependency.window) dependency.window).map value) := by
  obtain ⟨countedBefore, named⟩ := countedFrom_concat.mp counted
  have reach := plain.reach dependency (List.mem_filter.mp member).1
  rw [past?_eq]
  refine History.window?_eq_map (by rw [recalls.rows]; exact plain.ascending_memory track)
    (by omega) fun past lower upper => ?_
  rw [recalls.rows, recalls.shape.columns]
  obtain ⟨row, listed, same⟩ :
      ∃ row ∈ start.memory listing frames track, row.frame = past := by
    refine plain.exists_row (List.ne_nil_of_mem member) countedBefore (by omega) (by omega)
      (by omega) fun frame inside since => ?_
    obtain ⟨position, record, found, here, _⟩ := computed frame inside (by omega)
    rw [rowIn_eq_some.mpr ⟨position, record, found, here, rfl⟩]
    rfl
  obtain ⟨frame, inside, numbered, row'⟩ := plain.mem_memory listed
  obtain ⟨position, record, found, _, values⟩ := rowIn_eq_some.mp row'
  obtain ⟨position', record', found', _, valueEq⟩ := computed frame inside (by omega)
  obtain ⟨rfl, rfl⟩ := Prod.mk.inj (Option.some.inj (found.symm.trans found'))
  refine ⟨row, listed, same, ?_⟩
  rw [← values, plain.getElem?_rowOn frame position record member, valueEq, numbered, same]

/-- A window is there only if the track was computed on each of its frames. -/
theorem exists_frame_of_past
    (plain : start.IsPlain) (recalls : start.Recalls now listing frames)
    (member : dependency ∈ start.property.windowed) {values : List Value}
    (found : now.past? other (some track) dependency = some values) :
    dependency.window ≤ other.id ∧
      ∀ past, other.id - dependency.window ≤ past → past < other.id →
        ∃ frame ∈ frames, frame.id = past ∧
          ∃ position record, frame.recordOf? start.className track = some (position, record) ∧
            position ∈ listing frame ∧
              start.currentValue frame position record dependency.name ∈ values := by
  rw [past?_eq] at found
  obtain ⟨short, rows⟩ := History.exists_row_of_window?
    (by rw [recalls.rows]; exact plain.ascending_memory track) found
  refine ⟨short, fun past lower upper => ?_⟩
  obtain ⟨row, listed, same⟩ := rows past lower upper
  have remembered := listed
  rw [recalls.rows] at remembered
  obtain ⟨frame, inside, numbered, computed⟩ := plain.mem_memory remembered
  obtain ⟨position, record, here, passed, valuesEq⟩ := rowIn_eq_some.mp computed
  refine ⟨frame, inside, numbered.trans same, position, record, here, passed, ?_⟩
  refine History.mem_of_window? found listed (by omega) (by omega) ?_
  rw [← valuesEq, recalls.shape.columns]
  exact plain.getElem?_rowOn frame position record member

end Windows

/-! ## The written result -/

/-- An evaluated object has the result. -/
theorem Recalls.get?_eq
    (recalls : start.Recalls now listing frames) {positions : List Nat}
    (completed : now.Completed next positions frame) (ignores : start.property.IgnoresSnapshot)
    {position : Nat} {record : ObjectRecord}
    (here : (frame.recordsOf start.className)[position]? = some record)
    (listed : position ∈ positions) (evaluable : start.isEvaluable record = true) :
    record.get? start.property.name = some (now.evaluate frame position record).value := by
  have evaluates : now.evaluates positions position record = true := by
    unfold evaluates
    rw [List.contains_iff_mem.mpr listed, Bool.true_and]
    unfold isEvaluable
    rw [recalls.property]
    exact evaluable
  have written := completed.evaluated (by rwa [recalls.property]) position record
    (by rwa [recalls.className]) evaluates
  rwa [recalls.property] at written

/-- An object that is not evaluated has none. -/
theorem Recalls.get?_eq_none
    (recalls : start.Recalls now listing frames) {positions : List Nat}
    (completed : now.Completed next positions frame) {position : Nat} {record : ObjectRecord}
    (here : (frame.recordsOf start.className)[position]? = some record)
    (skipped : position ∉ positions ∨ start.isEvaluable record = false) :
    record.get? start.property.name = none := by
  have refused : ¬ now.evaluates positions position record = true := by
    unfold evaluates
    intro evaluated
    obtain ⟨listed, evaluable⟩ := Bool.and_eq_true_iff.mp evaluated
    rcases skipped with unlisted | unevaluable
    · exact unlisted (List.contains_iff_mem.mp listed)
    · unfold isEvaluable at evaluable unevaluable
      rw [recalls.property, unevaluable] at evaluable
      exact absurd evaluable (by simp)
  have written := completed.skipped position record (by rwa [recalls.className]) refused
  rwa [recalls.property] at written

end Projector

end ObjectQuery
