import ObjectQuery.Proofs.Stage.Recall

/-!
# The visits of a projector

A projector visits a track on a frame if an object of the track is listed; the first such object is
evaluated. What is remembered of the track is told from its visits, whatever frames the projector is
applied to: `Remembers` says that a row stands for a visit or is one that was carried along, and that the
rows of the last visits in a row are all there.
-/

namespace ObjectQuery

namespace Projector

variable {start now projector : Projector} {frame : Frame} {frames : List Frame}
  {positions : List Nat} {track : Nat}

/-! ## The first object of a track -/

/-- The first listed object of a track. -/
def firstOf? (projector : Projector) (frame : Frame) (track : Nat) : Option (Nat × ObjectRecord) :=
  (frame.positions? projector.index projector.className).bind fun positions =>
    (projector.listed frame positions).find? fun item => item.2.trackId? = some track

theorem find?_firstOfTracks (isStateful : Bool) (seen : List Nat) (items : List (Nat × ObjectRecord))
    (track : Nat) :
    (firstOfTracks isStateful seen items).find? (fun item => item.2.trackId? = some track) =
      if track ∈ seen then none else items.find? fun item => item.2.trackId? = some track := by
  induction items generalizing seen with
  | nil => simp [firstOfTracks]
  | cons item rest inductionHypothesis =>
      obtain ⟨position, record⟩ := item
      cases named : record.trackId? with
      | none => cases isStateful <;> simp [firstOfTracks, named, inductionHypothesis]
      | some id =>
          by_cases known : id ∈ seen
          · by_cases same : id = track
            · subst same
              simp [firstOfTracks, named, known, inductionHypothesis]
            · simp [firstOfTracks, named, known, inductionHypothesis, same]
          · by_cases same : id = track
            · subst same
              simp [firstOfTracks, named, known]
            · have apart : track ≠ id := Ne.symm same
              simp [firstOfTracks, named, known, inductionHypothesis, same, apart]

/-- Of a track the first listed object is evaluated. -/
theorem find?_evaluations
    (found : frame.positions? projector.index projector.className = some positions) (track : Nat) :
    (projector.evaluations frame positions).find? (fun evaluation =>
        evaluation.trackId = some track) =
      (projector.firstOf? frame track).map fun item =>
        projector.evaluate frame item.1 item.2 := by
  unfold evaluations firstOf?
  rw [found, Option.bind_some, List.find?_map]
  have named := find?_firstOfTracks projector.property.isStateful []
    (projector.listed frame positions) track
  rw [if_neg List.not_mem_nil] at named
  rw [← named]
  rfl

theorem firstOf?_eq_some {position : Nat} {record : ObjectRecord}
    (first : projector.firstOf? frame track = some (position, record)) :
    ∃ positions, frame.positions? projector.index projector.className = some positions ∧
      position ∈ positions ∧
        (frame.recordsOf projector.className)[position]? = some record ∧
          record.trackId? = some track := by
  obtain ⟨positions, found, first⟩ := Option.bind_eq_some_iff.mp first
  obtain ⟨listed, here⟩ := mem_listed.mp (List.mem_of_find?_eq_some first)
  have named := List.find?_some (p := fun item : Nat × ObjectRecord =>
    decide (item.2.trackId? = some track)) first
  exact ⟨positions, found, listed, here, of_decide_eq_true named⟩

/-! ## Frame after frame -/

/-- The projector after a frame. One that it fails on leaves it as it is. -/
def next (projector : Projector) (frame : Frame) : Projector :=
  match projector.apply frame with
  | .ok projection => projection.projector
  | .error _ => projector

/-- The projector after some frames. -/
def after (projector : Projector) (frames : List Frame) : Projector := frames.foldl next projector

theorem after_concat (projector : Projector) (frames : List Frame) (frame : Frame) :
    projector.after (frames ++ [frame]) = (projector.after frames).next frame := by
  simp [after]

/-- Fields of other names stay on the objects as they are. -/
theorem fields_written {name : String} (other : projector.property.name ≠ name) (frame : Frame)
    (evaluations : List Evaluation) (className : String) :
    ((projector.written frame evaluations).recordsOf className).map
        (fun record => record.get? name) =
      (frame.recordsOf className).map fun record => record.get? name := by
  have folded (records : List ObjectRecord) :
      (evaluations.foldl (fun records evaluation =>
        records.modify evaluation.position fun record =>
          record.insert projector.property.name evaluation.value) records).map
            (fun record => record.get? name) =
        records.map fun record => record.get? name := by
    induction evaluations generalizing records with
    | nil => rfl
    | cons evaluation rest inductionHypothesis =>
        rw [List.foldl_cons, inductionHypothesis]
        refine List.ext_getElem? fun position => ?_
        rw [List.getElem?_map, List.getElem?_map, List.getElem?_modify]
        cases records[position]? with
        | none => rfl
        | some record =>
            by_cases here : evaluation.position = position <;>
              simp [here, ObjectRecord.get?_insert, other]
  unfold written
  cases found : frame.records.find? projector.className with
  | none => rfl
  | some records =>
      simp only [Frame.recordsOf_setRecords]
      by_cases same : projector.className = className
      · have present : frame.recordsOf className = records := by
          simp [Frame.recordsOf, ← same, found]
        rw [if_pos same, present]
        exact folded records
      · rw [if_neg same]

/-- Another name than that of the track leaves the tracks of the objects alone. -/
theorem trackIds_written (own : projector.property.name ≠ Field.trackId) (frame : Frame)
    (evaluations : List Evaluation) :
    ((projector.written frame evaluations).recordsOf projector.className).map
        ObjectRecord.trackId? =
      (frame.recordsOf projector.className).map ObjectRecord.trackId? := by
  have fields := congrArg (List.map fun field : Option Value => field >>= Value.nat?)
    (fields_written own frame evaluations projector.className)
  rw [List.map_map, List.map_map] at fields
  exact fields

theorem isLive_written (own : projector.property.name ≠ Field.trackId) (frame : Frame)
    (evaluations : List Evaluation) (track : Nat) :
    (projector.written frame evaluations).isLive projector.className track =
      frame.isLive projector.className track := by
  have ids := congrArg (List.filterMap fun track => track)
    (trackIds_written own frame evaluations)
  rw [List.filterMap_map, List.filterMap_map] at ids
  have lost : (projector.written frame evaluations).lostOf projector.className =
      frame.lostOf projector.className := by
    rw [framed_written]
    rfl
  unfold Frame.isLive
  rw [lost]
  exact congrArg (fun ids => (ids ++ frame.lostOf projector.className).contains track) ids

theorem next_of_positions
    (found : frame.positions? projector.index projector.className = some positions) :
    projector.next frame =
      { projector with
        history := projector.settled
          (projector.written frame (projector.evaluations frame positions))
          (projector.remembered frame.id (projector.evaluations frame positions)) } := by
  unfold next apply
  rw [found]

theorem next_of_none
    (missing : frame.positions? projector.index projector.className = none) :
    projector.next frame = projector := by
  unfold next apply
  rw [missing]

/-- A frame changes nothing of a projector but its past. -/
theorem kept_next (projector : Projector) (frame : Frame) :
    projector.next frame = { projector with history := (projector.next frame).history } := by
  cases found : frame.positions? projector.index projector.className with
  | none => rw [next_of_none found]
  | some positions => rw [next_of_positions found]

theorem kept_after (projector : Projector) (frames : List Frame) :
    projector.after frames = { projector with history := (projector.after frames).history } := by
  induction frames using List.reverseRecOn with
  | nil => rfl
  | append_singleton frames frame inductionHypothesis =>
      rw [after_concat]
      refine (kept_next _ frame).trans ?_
      rw [inductionHypothesis]

theorem firstOf?_after (projector : Projector) (frames : List Frame) (frame : Frame) (track : Nat) :
    (projector.after frames).firstOf? frame track = projector.firstOf? frame track := by
  rw [kept_after]
  rfl

/-- What a frame that the projector does not fail on makes of the rows of a track. -/
theorem settled_next (own : projector.property.name ≠ Field.trackId)
    (once : projector.history.Distinct)
    (found : frame.positions? projector.index projector.className = some positions) :
    SameShape (projector.next frame).history projector.history ∧
      ∀ track, (projector.next frame).history.rowsOf track =
        projector.trackRows frame track
          ((projector.firstOf? frame track).map fun item =>
            (projector.evaluate frame item.1 item.2).row)
          (projector.history.rowsOf track) := by
  let evaluations := projector.evaluations frame positions
  have framed := framed_written projector frame evaluations
  have id : (projector.written frame evaluations).id = frame.id := by rw [framed]
  have lost : (projector.written frame evaluations).lostOf projector.className =
      frame.lostOf projector.className := by
    rw [framed]
    rfl
  obtain ⟨shape, rows⟩ := settled_spec projector (projector.written frame evaluations)
    (nodup_evaluated_tracks projector frame positions) once
  rw [id] at shape rows
  rw [next_of_positions found]
  refine ⟨shape, fun track => (rows track).trans ?_⟩
  unfold trackRows carriedRows
  rw [isLive_written own, id, lost, rowFor, find?_evaluations found, Option.map_map]
  rfl

/-- No track is left without rows. -/
theorem ne_nil_of_find?_next {projector : Projector} (once : projector.history.Distinct)
    (used : projector.history.columns.isEmpty = false)
    (found : frame.positions? projector.index projector.className = some positions)
    {rows : List HistoryRow}
    (stored : (projector.next frame).history.rows.find? track = some rows) : rows ≠ [] := by
  rw [next_of_positions found] at stored
  obtain ⟨shape, _⟩ := remembered_spec projector frame.id
    (nodup_evaluated_tracks projector frame _) once (ne_true_of_eq_false used)
  rw [settled_eq, shape.columns, if_neg (ne_true_of_eq_false used)] at stored
  exact History.ne_nil_of_find?_evict stored

namespace Alike

theorem firstOf?_eq (alike : start.Alike now) (frame : Frame) (track : Nat) :
    now.firstOf? frame track = start.firstOf? frame track := by
  rw [alike.kept]
  rfl

theorem next (alike : start.Alike now) (own : start.property.name ≠ Field.trackId)
    (once : now.history.Distinct) (frame : Frame) :
    start.Alike (now.next frame) ∧ (now.next frame).history.Distinct := by
  cases found : frame.positions? now.index now.className with
  | none =>
      rw [next_of_none found]
      exact ⟨alike, once⟩
  | some positions =>
      obtain ⟨shape, _⟩ := settled_next (alike.property.symm ▸ own) once found
      refine ⟨⟨?_, shape.columns.trans alike.shape.columns,
        shape.capacity.trans alike.shape.capacity,
        fun distinct => shape.distinct (alike.shape.distinct distinct)⟩, shape.distinct once⟩
      rw [next_of_positions found, alike.kept]

end Alike

/-! ## Visits -/

/-- The visit to a track on the frame of a number. -/
def visit? (projector : Projector) (frames : List Frame) (track id : Nat) :
    Option (Frame × Nat × ObjectRecord) :=
  (frames.find? fun frame => frame.id = id).bind fun frame =>
    (projector.firstOf? frame track).map fun item => (frame, item)

/-- The value that was read under a name on a visit. -/
def observed? (projector : Projector) (frames : List Frame) (track : Nat) (name : String)
    (id : Nat) : Option Value :=
  (projector.visit? frames track id).map fun visit =>
    projector.currentValue visit.1 visit.2.1 visit.2.2 name

theorem id_mem_of_visit? {id : Nat} (visited : (projector.visit? frames track id).isSome) :
    id ∈ frames.map Frame.id := by
  obtain ⟨visit, found⟩ := Option.isSome_iff_exists.mp visited
  obtain ⟨frame, here, _⟩ := Option.bind_eq_some_iff.mp found
  have named := List.find?_some (p := fun frame : Frame => decide (frame.id = id)) here
  exact List.mem_map.mpr ⟨frame, List.mem_of_find?_eq_some here, of_decide_eq_true named⟩

theorem le_of_visit?_concat {id : Nat} (ahead : ∀ earlier ∈ frames, earlier.id < frame.id)
    (visited : (projector.visit? (frames ++ [frame]) track id).isSome) :
    id ≤ frame.id := by
  obtain ⟨visit, member, rfl⟩ := List.mem_map.mp (id_mem_of_visit? visited)
  rcases List.mem_append.mp member with old | here
  · exact Nat.le_of_lt (ahead visit old)
  · exact Nat.le_of_eq (congrArg Frame.id (List.mem_singleton.mp here))

theorem visit?_concat_of_ne {id : Nat} (other : frame.id ≠ id) :
    projector.visit? (frames ++ [frame]) track id = projector.visit? frames track id := by
  unfold visit?
  rw [List.find?_append]
  have none : [frame].find? (fun frame => frame.id = id) = none := by simp [other]
  rw [none, Option.or_none]

theorem visit?_concat_self (ahead : ∀ earlier ∈ frames, earlier.id < frame.id) :
    projector.visit? (frames ++ [frame]) track frame.id =
      (projector.firstOf? frame track).map fun item => (frame, item) := by
  have none : frames.find? (fun earlier => earlier.id = frame.id) = none := by
    refine List.find?_eq_none.mpr fun earlier member same => ?_
    exact Nat.ne_of_lt (ahead earlier member) (of_decide_eq_true same)
  unfold visit?
  rw [List.find?_append, none, Option.none_or]
  simp

theorem observed?_concat_of_ne {id : Nat} {name : String} (other : frame.id ≠ id) :
    projector.observed? (frames ++ [frame]) track name id =
      projector.observed? frames track name id := by
  unfold observed?
  rw [visit?_concat_of_ne other]

theorem observed?_concat_self {name : String} (ahead : ∀ earlier ∈ frames, earlier.id < frame.id) :
    projector.observed? (frames ++ [frame]) track name frame.id =
      (projector.firstOf? frame track).map fun item =>
        projector.currentValue frame item.1 item.2 name := by
  unfold observed?
  rw [visit?_concat_self ahead, Option.map_map]
  rfl

/-! ## Rows of a track after a frame -/

open History

section Rows

variable {rows : List HistoryRow} {row : Option (List Value)} {item : HistoryRow}
  {columns capacity own : Nat}

theorem ascending_carryRows (ascending : Ascending rows) (columns capacity own id : Nat) :
    Ascending (carryRows columns capacity own id rows) := by
  unfold carryRows
  split
  · split
    · split
      · exact ascending_pushRow ascending _
      · exact ascending
    · exact ascending
  · exact ascending

theorem mem_carryRows {id : Nat} (member : item ∈ carryRows columns capacity own id rows) :
    item ∈ rows ∨ ∃ value, item = ⟨id, (List.replicate columns .invalid).set own value⟩ := by
  unfold carryRows at member
  split at member
  · split at member
    · split at member
      · exact (mem_pushRow member).imp_right fun new => ⟨_, new⟩
      · exact Or.inl member
    · exact Or.inl member
  · exact Or.inl member

/-- A track that has been seen on a frame is not carried to it. -/
theorem carryRows_pushRow {id : Nat} (before : ∀ other ∈ rows, other.frame < id)
    (values : List Value) :
    carryRows columns capacity own id (pushRow capacity rows ⟨id, values⟩) =
      pushRow capacity rows ⟨id, values⟩ := by
  by_cases room : 0 < capacity
  · unfold pushRow
    rw [if_pos (isFollowed_of_lt room before)]
    simp [carryRows]
  · have refused (others : List HistoryRow) (new : HistoryRow) :
        pushRow capacity others new = others := by
      simp [pushRow, isFollowed, room]
    unfold carryRows
    rw [refused]
    split
    · split
      · split
        · exact refused ..
        · rfl
      · rfl
    · rfl

theorem carriedRows_seenRows (before : ∀ other ∈ rows, other.frame < frame.id)
    (values : List Value) :
    projector.carriedRows frame track
        (seenRows projector.history.capacity frame.id (some values) rows) =
      pushRow projector.history.capacity rows ⟨frame.id, values⟩ := by
  unfold carriedRows seenRows
  split
  · exact carryRows_pushRow before values
  · rfl

theorem ascending_trackRows (ascending : Ascending rows) :
    Ascending (projector.trackRows frame track row rows) := by
  have seen := ascending_seenRows ascending projector.history.capacity frame.id row
  unfold trackRows
  split
  · exact ascending
  · split
    · refine List.Pairwise.filter _ ?_
      unfold carriedRows
      split
      · exact ascending_carryRows seen ..
      · exact seen
    · exact List.Pairwise.nil

/-- A row after a frame was there before, is the one computed on the frame, or has been carried. -/
theorem mem_trackRows (before : ∀ other ∈ rows, other.frame < frame.id)
    (member : item ∈ projector.trackRows frame track row rows) :
    item ∈ rows ∨ row = some item.values ∧ item.frame = frame.id ∨
      row = none ∧ item.frame = frame.id ∧
        projector.property.name ∈ projector.history.columns ∧ ∃ value,
          item.values = (List.replicate projector.history.columns.length .invalid).set
            (projector.history.columns.idxOf projector.property.name) value := by
  unfold trackRows at member
  split at member
  · exact Or.inl member
  · split at member
    · replace member := (List.mem_filter.mp member).1
      cases row with
      | some values =>
          rw [carriedRows_seenRows before] at member
          rcases mem_pushRow member with old | rfl
          · exact Or.inl old
          · exact Or.inr (Or.inl ⟨rfl, rfl⟩)
      | none =>
          unfold carriedRows at member
          split at member
          · rename_i carried
            rcases mem_carryRows member with old | ⟨value, rfl⟩
            · exact Or.inl old
            · refine Or.inr (Or.inr ⟨rfl, rfl, ?_, value, rfl⟩)
              exact List.contains_iff_mem.mp (Bool.and_eq_true_iff.mp carried).1
          · exact Or.inl member
    · exact absurd member List.not_mem_nil

/-- A track that is seen has the row computed on the frame behind those that a window can reach. -/
theorem trackRows_of_seen (before : ∀ other ∈ rows, other.frame < frame.id)
    (columns : projector.history.columns.isEmpty = false)
    (live : frame.isLive projector.className track) (values : List Value) :
    projector.trackRows frame track (some values) rows =
      recent (projector.history.cutoff frame.id)
        (pushRow projector.history.capacity rows ⟨frame.id, values⟩) := by
  rw [trackRows, columns, if_neg Bool.false_ne_true, if_pos live, carriedRows_seenRows before]

/-- The row computed on a frame, and the older ones that a window can reach. -/
theorem mem_trackRows_of_seen (ascending : Ascending rows)
    (before : ∀ other ∈ rows, other.frame < frame.id)
    (columns : projector.history.columns.isEmpty = false) (room : 0 < projector.history.capacity)
    (live : frame.isLive projector.className track) (values : List Value) :
    ⟨frame.id, values⟩ ∈ projector.trackRows frame track (some values) rows ∧
      ∀ old ∈ rows, frame.id < old.frame + projector.history.capacity →
        old ∈ projector.trackRows frame track (some values) rows := by
  have kept (other : HistoryRow) (near : frame.id < other.frame + projector.history.capacity)
      (pushed : other ∈ pushRow projector.history.capacity rows ⟨frame.id, values⟩) :
      other ∈ projector.trackRows frame track (some values) rows := by
    rw [trackRows_of_seen before columns live]
    refine List.mem_filter.mpr ⟨pushed, decide_eq_true ?_⟩
    unfold cutoff
    omega
  refine ⟨kept _ (Nat.lt_add_of_pos_right room) (mem_pushRow_new room before), ?_⟩
  intro old member near
  exact kept old near (mem_pushRow_of_mem ascending before near member)

end Rows

/-! ## What is remembered -/

/-- A projector whose history has a column for each name that it looks back on, and room for as many
rows as it looks back. -/
structure Fits (projector : Projector) : Prop where
  columns : projector.history.columns = projector.property.windowed.map Dependency.name
  reach : ∀ dependency ∈ projector.property.dependencies,
    dependency.window ≤ projector.history.capacity
  distinct : (projector.property.dependencies.map Dependency.name).Nodup
  own : projector.property.name ≠ Field.trackId

/-- A projector after some frames, and its past as it is told from them. -/
structure Remembers (start now : Projector) (frames : List Frame) : Prop
    extends Alike start now where
  once : now.history.Distinct
  ascending : ∀ track, Ascending (now.history.rowsOf track)
  dated : ∀ track, ∀ row ∈ now.history.rowsOf track, row.frame ∈ frames.map Frame.id
  /-- The values of other names are those read on visits; what has been carried is invalid. -/
  values : ∀ track, ∀ row ∈ now.history.rowsOf track,
    ∀ dependency ∈ start.property.windowed, dependency.name ≠ start.property.name →
      row.values[start.history.columns.idxOf dependency.name]? =
        some ((start.observed? frames track dependency.name row.frame).getD .invalid)
  /-- The last visits in a row have left a row each, as far as a window reaches. -/
  complete : start.property.windowed ≠ [] → ∀ track past upto,
    (∀ frame ∈ frames, frame.id < upto) → past < upto →
      upto ≤ past + start.history.capacity →
        (∀ id, past ≤ id → id < upto → (start.visit? frames track id).isSome) →
          ∃ row ∈ now.history.rowsOf track, row.frame = past

theorem remembers_start (start : Projector) (empty : start.history.rows = []) :
    start.Remembers start [] := by
  have rows (track : Nat) : start.history.rowsOf track = [] := by
    rw [rowsOf, empty, Keyed.find?_nil, Option.getD_none]
  refine ⟨⟨rfl, rfl, rfl, id⟩, ?_, ?_, ?_, ?_, ?_⟩
  · exact History.distinct_of_rows_eq_nil empty
  · intro track
    rw [rows]
    exact List.Pairwise.nil
  · intro track row member
    rw [rows] at member
    exact absurd member List.not_mem_nil
  · intro track row member
    rw [rows] at member
    exact absurd member List.not_mem_nil
  · intro _ track past upto _ early _ visited
    have visit := id_mem_of_visit? (visited past (Nat.le_refl _) early)
    exact absurd visit List.not_mem_nil

theorem isLive_of_firstOf? {item : Nat × ObjectRecord}
    (first : projector.firstOf? frame track = some item) :
    frame.isLive projector.className track := by
  obtain ⟨_, _, _, here, named⟩ := firstOf?_eq_some first
  refine List.contains_iff_mem.mpr (List.mem_append_left _ ?_)
  exact List.mem_filterMap.mpr ⟨item.2, List.mem_of_getElem? here, named⟩

/-- A column of the row of an evaluation. -/
theorem Fits.getElem?_row (fits : start.Fits) (alike : start.Alike now) (frame : Frame)
    (position : Nat) (record : ObjectRecord) {name : String}
    (column : name ∈ start.history.columns) :
    (now.evaluate frame position record).row[start.history.columns.idxOf name]? =
      some (if name = start.property.name then (now.evaluate frame position record).value
        else start.currentValue frame position record name) := by
  have values : (now.evaluate frame position record).row =
      start.history.columns.map fun name =>
        if name = start.property.name then (now.evaluate frame position record).value
        else start.currentValue frame position record name := by
    rw [row_evaluate, alike.property, fits.columns, List.map_map]
    refine List.map_congr_left fun other _ => ?_
    rw [Function.comp_apply, alike.currentValue_eq]
  rw [values, List.getElem?_map, List.getElem?_idxOf column, Option.map_some]

theorem Fits.mem_columns (fits : start.Fits) {dependency : Dependency}
    (member : dependency ∈ start.property.windowed) :
    dependency.name ∈ start.history.columns :=
  fits.columns ▸ List.mem_map_of_mem member

namespace Remembers

theorem before (remembers : start.Remembers now frames) {bound : Nat}
    (ahead : ∀ earlier ∈ frames, earlier.id < bound) :
    ∀ row ∈ now.history.rowsOf track, row.frame < bound := by
  intro row member
  obtain ⟨earlier, listed, same⟩ := List.mem_map.mp (remembers.dated track row member)
  exact same ▸ ahead earlier listed

/-- A frame that the projector fails on. -/
theorem step_of_none (remembers : start.Remembers now frames)
    (ahead : ∀ earlier ∈ frames, earlier.id < frame.id)
    (missing : frame.positions? now.index now.className = none) :
    start.Remembers (now.next frame) (frames ++ [frame]) := by
  have unvisited (track : Nat) : start.firstOf? frame track = none := by
    rw [← remembers.firstOf?_eq, firstOf?, missing, Option.bind_none]
  rw [next_of_none missing]
  refine ⟨remembers.toAlike, remembers.once, remembers.ascending, ?_, ?_, ?_⟩
  · intro track row member
    rw [List.map_append]
    exact List.mem_append_left _ (remembers.dated track row member)
  · intro track row member dependency windowed other
    have earlier := remembers.before ahead row member
    rw [observed?_concat_of_ne (Nat.ne_of_gt earlier)]
    exact remembers.values track row member dependency windowed other
  · intro windowed track past upto bounded early near visited
    have later := bounded frame (by simp)
    have within := le_of_visit?_concat ahead (visited past (Nat.le_refl _) early)
    -- the failed frame is no visit, so that no visits in a row go past it
    have visit := visited frame.id within later
    rw [visit?_concat_self ahead, unvisited] at visit
    exact absurd visit (by simp)

section Step

variable (remembers : start.Remembers now frames) (fits : start.Fits)
  (ahead : ∀ earlier ∈ frames, earlier.id < frame.id)
  (found : frame.positions? now.index now.className = some positions)

include remembers fits found in
theorem rowsOf_next (track : Nat) :
    (now.next frame).history.rowsOf track =
      now.trackRows frame track
        ((start.firstOf? frame track).map fun item => (now.evaluate frame item.1 item.2).row)
        (now.history.rowsOf track) := by
  rw [(settled_next (remembers.property.symm ▸ fits.own) remembers.once found).2,
    remembers.firstOf?_eq]

include remembers fits ahead found in
theorem values_next (track : Nat) :
    ∀ row ∈ (now.next frame).history.rowsOf track, ∀ dependency ∈ start.property.windowed,
      dependency.name ≠ start.property.name →
        row.values[start.history.columns.idxOf dependency.name]? =
          some ((start.observed? (frames ++ [frame]) track dependency.name row.frame).getD
            .invalid) := by
  intro row member dependency windowed other
  have column := fits.mem_columns windowed
  rw [remembers.rowsOf_next fits found] at member
  -- an old row tells of an old frame, the new one of this frame; a carried one has the own value alone
  rcases mem_trackRows (remembers.before ahead) member with
    old | ⟨computed, dated⟩ | ⟨unseen, dated, own, value, carried⟩
  · have earlier := remembers.before ahead row old
    rw [observed?_concat_of_ne (Nat.ne_of_gt earlier)]
    exact remembers.values track row old dependency windowed other
  · obtain ⟨item, first, values⟩ := Option.map_eq_some_iff.mp computed
    rw [dated, observed?_concat_self ahead, first, ← values,
      fits.getElem?_row remembers.toAlike frame item.1 item.2 column, if_neg other]
    rfl
  · rw [remembers.property, remembers.shape.columns] at own carried
    have apart : start.history.columns.idxOf start.property.name ≠
        start.history.columns.idxOf dependency.name := by
      intro same
      exact other ((List.idxOf_inj own).mp same).symm
    rw [dated, observed?_concat_self ahead, Option.map_eq_none_iff.mp unseen, carried,
      List.getElem?_set_ne apart, List.getElem?_replicate,
      if_pos (List.idxOf_lt_length_of_mem column)]
    rfl

include remembers fits ahead found in
theorem complete_next (windowed : start.property.windowed ≠ []) (track past upto : Nat)
    (bounded : ∀ other ∈ frames ++ [frame], other.id < upto) (early : past < upto)
    (near : upto ≤ past + start.history.capacity)
    (visited : ∀ id, past ≤ id → id < upto → (start.visit? (frames ++ [frame]) track id).isSome) :
    ∃ row ∈ (now.next frame).history.rowsOf track, row.frame = past := by
  have later := bounded frame (by simp)
  have within := le_of_visit?_concat ahead (visited past (Nat.le_refl _) early)
  obtain ⟨item, first⟩ : ∃ item, start.firstOf? frame track = some item := by
    have visit := visited frame.id within later
    rw [visit?_concat_self ahead, Option.isSome_map] at visit
    exact Option.isSome_iff_exists.mp visit
  have columns : now.history.columns.isEmpty = false := by
    rw [remembers.shape.columns, fits.columns]
    simpa using windowed
  have capacity := remembers.shape.capacity
  have live := isLive_of_firstOf? ((remembers.firstOf?_eq frame track).trans first)
  obtain ⟨new, kept⟩ := mem_trackRows_of_seen (remembers.ascending track) (remembers.before ahead)
    columns (by omega) live (now.evaluate frame item.1 item.2).row
  rw [remembers.rowsOf_next fits found, first, Option.map_some]
  rcases Nat.eq_or_lt_of_le within with here | sooner
  · exact ⟨_, new, here.symm⟩
  · obtain ⟨row, member, same⟩ := remembers.complete windowed track past frame.id ahead sooner
      (by omega) fun id lower upper => by
        have visit := visited id lower (by omega)
        rwa [visit?_concat_of_ne (Nat.ne_of_gt upper)] at visit
    exact ⟨row, kept row member (by omega), same⟩

end Step

theorem step (remembers : start.Remembers now frames) (fits : start.Fits)
    (ahead : ∀ earlier ∈ frames, earlier.id < frame.id) :
    start.Remembers (now.next frame) (frames ++ [frame]) := by
  cases found : frame.positions? now.index now.className with
  | none => exact remembers.step_of_none ahead found
  | some positions =>
      obtain ⟨alike, once⟩ := remembers.toAlike.next fits.own remembers.once frame
      refine ⟨alike, once, fun track => ?_, fun track row member => ?_,
        remembers.values_next fits ahead found, remembers.complete_next fits ahead found⟩
      · rw [remembers.rowsOf_next fits found]
        exact ascending_trackRows (remembers.ascending track)
      · rw [remembers.rowsOf_next fits found] at member
        rw [List.map_append]
        rcases mem_trackRows (remembers.before ahead) member with
          old | ⟨_, dated⟩ | ⟨_, dated, _⟩
        · exact List.mem_append_left _ (remembers.dated track row old)
        · exact List.mem_append_right _ (by simp [dated])
        · exact List.mem_append_right _ (by simp [dated])

end Remembers

/-- Whatever frames a projector is applied to, in ascending order. -/
theorem remembers_after (fits : start.Fits) (empty : start.history.rows = [])
    (ascending : (frames.map Frame.id).Pairwise (· < ·)) :
    start.Remembers (start.after frames) frames := by
  induction frames using List.reverseRecOn with
  | nil => exact remembers_start start empty
  | append_singleton frames frame inductionHypothesis =>
      rw [List.map_append] at ascending
      obtain ⟨earlier, _, ahead⟩ := List.pairwise_append.mp ascending
      rw [after_concat]
      refine (inductionHypothesis earlier).step fits fun other member => ?_
      exact ahead other.id (List.mem_map_of_mem member) frame.id (by simp)

end Projector

end ObjectQuery
