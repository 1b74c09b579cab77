import Mathlib.Data.List.Nodup
import ObjectQuery.Proofs.History
import ObjectQuery.Stage.Projector

/-!
# A projector on one frame

`Projector.Applied` says what a projector does to a frame: each listed object it evaluates has the
result written onto it, nothing else on the frame changes, and the rows of every track become those of
`trackRows`. That needs the tracks of the objects to be different, so that no object is passed over as
the second one of its track.
-/

namespace ObjectQuery

/-- No two objects are of the same track. -/
def DistinctTracks (records : List ObjectRecord) : Prop :=
  ∀ (i j : Nat) (first second : ObjectRecord) (track : Nat),
    records[i]? = some first → records[j]? = some second →
      first.trackId? = some track → second.trackId? = some track → i = j

namespace Frame

/-- Whether a track of a class is on a frame, seen or lost. -/
def isLive (frame : Frame) (className : String) (track : Nat) : Bool :=
  ((frame.recordsOf className).filterMap ObjectRecord.trackId? ++ frame.lostOf className).contains
    track

theorem recordsOf_setRecords
    (frame : Frame) (className other : String) (records : List ObjectRecord) :
    (frame.setRecords className records).recordsOf other =
      if className = other then records else frame.recordsOf other := by
  by_cases same : className = other <;>
    simp [recordsOf, setRecords, Keyed.find?_put, same]

end Frame

namespace Projector

variable {projector : Projector} {frame : Frame} {positions : List Nat}

/-! ## Which objects are evaluated -/

/-- Whether an object is evaluated if it is listed. -/
def isEvaluable (projector : Projector) (record : ObjectRecord) : Bool :=
  record.trackId?.isSome || !projector.property.isStateful

/-- Whether an object is evaluated. -/
def evaluates (projector : Projector) (positions : List Nat) (position : Nat)
    (record : ObjectRecord) : Bool :=
  positions.contains position && projector.isEvaluable record

/-- Among objects of different tracks none is passed over for its track. -/
theorem firstOfTracks_eq_filter
    (isStateful : Bool) {seen : List Nat} {items : List (Nat × ObjectRecord)}
    (distinct : (items.filterMap fun item => item.2.trackId?).Nodup)
    (fresh : ∀ id ∈ items.filterMap fun item => item.2.trackId?, id ∉ seen) :
    firstOfTracks isStateful seen items =
      items.filter fun item => item.2.trackId?.isSome || !isStateful := by
  induction items generalizing seen with
  | nil => rfl
  | cons item rest inductionHypothesis =>
      obtain ⟨position, record⟩ := item
      rw [List.filterMap_cons] at distinct fresh
      cases track : record.trackId? with
      | none =>
          simp only [track] at distinct fresh
          have later := inductionHypothesis distinct fresh
          cases isStateful <;> simp [firstOfTracks, track, later]
      | some id =>
          simp only [track] at distinct fresh
          obtain ⟨absent, distinct⟩ := List.nodup_cons.mp distinct
          have unseen : id ∉ seen := fresh id List.mem_cons_self
          have later := @inductionHypothesis (id :: seen) distinct (by
            intro other member known
            rcases List.mem_cons.mp known with same | known
            · exact absent (same ▸ member)
            · exact fresh other (List.mem_cons_of_mem id member) known)
          simp [firstOfTracks, track, unseen, later]

theorem mem_listed {position : Nat} {record : ObjectRecord} :
    (position, record) ∈ projector.listed frame positions ↔
      position ∈ positions ∧ (frame.recordsOf projector.className)[position]? = some record := by
  unfold listed
  rw [List.mem_filterMap]
  constructor
  · rintro ⟨other, member, found⟩
    obtain ⟨record', present, equal⟩ := Option.map_eq_some_iff.mp found
    obtain ⟨rfl, rfl⟩ := Prod.mk.inj equal
    exact ⟨member, present⟩
  · rintro ⟨member, present⟩
    exact ⟨position, member, by rw [present]; rfl⟩

/-- The objects that are evaluated, with their positions. -/
def candidates (projector : Projector) (frame : Frame) (positions : List Nat) :
    List (Nat × ObjectRecord) :=
  (projector.listed frame positions).filter fun item => projector.isEvaluable item.2

theorem mem_candidates {position : Nat} {record : ObjectRecord} :
    (position, record) ∈ projector.candidates frame positions ↔
      (frame.recordsOf projector.className)[position]? = some record ∧
        projector.evaluates positions position record := by
  unfold candidates evaluates
  rw [List.mem_filter, mem_listed]
  simp only [Bool.and_eq_true, List.contains_iff_mem]
  tauto

theorem pairwise_listed (listedOnce : positions.Nodup) :
    (projector.listed frame positions).Pairwise fun a b => a.1 ≠ b.1 := by
  refine List.Pairwise.filterMap _ (fun first second apart a found b foundOther => ?_) listedOnce
  obtain ⟨_, _, rfl⟩ := Option.map_eq_some_iff.mp found
  obtain ⟨_, _, rfl⟩ := Option.map_eq_some_iff.mp foundOther
  exact apart

theorem nodup_listed_tracks
    (listedOnce : positions.Nodup) (distinct : DistinctTracks (frame.recordsOf projector.className)) :
    ((projector.listed frame positions).filterMap fun item => item.2.trackId?).Nodup := by
  refine List.pairwise_filterMap.mpr ((pairwise_listed listedOnce).imp_of_mem ?_)
  intro first second member memberOther apart track found other foundOther same
  subst same
  exact apart (distinct first.1 second.1 first.2 second.2 track (mem_listed.mp member).2
    (mem_listed.mp memberOther).2 found foundOther)

/-- No track is evaluated twice, however often it is listed. -/
theorem nodup_firstOfTracks (isStateful : Bool) (seen : List Nat)
    (items : List (Nat × ObjectRecord)) :
    ((firstOfTracks isStateful seen items).filterMap fun item => item.2.trackId?).Nodup ∧
      ∀ id ∈ (firstOfTracks isStateful seen items).filterMap fun item => item.2.trackId?,
        id ∉ seen := by
  induction items generalizing seen with
  | nil => exact ⟨List.nodup_nil, fun _ member => absurd member List.not_mem_nil⟩
  | cons item rest inductionHypothesis =>
      obtain ⟨position, record⟩ := item
      cases track : record.trackId? with
      | none => cases isStateful <;> simpa [firstOfTracks, track] using inductionHypothesis seen
      | some id =>
          by_cases known : id ∈ seen
          · simpa [firstOfTracks, track, known] using inductionHypothesis seen
          · obtain ⟨distinct, fresh⟩ := inductionHypothesis (id :: seen)
            have first : firstOfTracks isStateful seen ((position, record) :: rest) =
                (position, record) :: firstOfTracks isStateful (id :: seen) rest := by
              simp [firstOfTracks, track, known]
            rw [first, List.filterMap_cons, track]
            refine ⟨List.nodup_cons.mpr ⟨fun again => ?_, distinct⟩, fun other member => ?_⟩
            · exact fresh id again List.mem_cons_self
            · rcases List.mem_cons.mp member with rfl | later
              · exact known
              · exact fun old => fresh other later (List.mem_cons_of_mem id old)

theorem nodup_evaluated_tracks (projector : Projector) (frame : Frame) (positions : List Nat) :
    ((projector.evaluations frame positions).filterMap Evaluation.trackId).Nodup := by
  unfold evaluations
  rw [List.filterMap_map]
  exact (nodup_firstOfTracks projector.property.isStateful [] _).1

theorem evaluations_eq_map
    (listedOnce : positions.Nodup) (distinct : DistinctTracks (frame.recordsOf projector.className)) :
    projector.evaluations frame positions =
      (projector.candidates frame positions).map fun item =>
        projector.evaluate frame item.1 item.2 := by
  unfold evaluations
  rw [firstOfTracks_eq_filter _ (nodup_listed_tracks listedOnce distinct) (by simp)]
  rfl

/-! ## What is written -/

section Modify

variable {β ρ : Type} (position : β → Nat) (change : β → ρ → ρ)

theorem getElem?_foldl_modify_of_not_mem
    {edits : List β} {place : Nat} (absent : place ∉ edits.map position) (items : List ρ) :
    (edits.foldl (fun items edit => items.modify (position edit) (change edit)) items)[place]? =
      items[place]? := by
  induction edits generalizing items with
  | nil => rfl
  | cons edit rest inductionHypothesis =>
      rw [List.map_cons, List.mem_cons, not_or] at absent
      rw [List.foldl_cons, inductionHypothesis absent.2, List.getElem?_modify]
      simp [Ne.symm absent.1]

theorem getElem?_foldl_modify_of_mem
    {edits : List β} (distinct : (edits.map position).Nodup) {edit : β} (member : edit ∈ edits)
    (items : List ρ) :
    (edits.foldl (fun items edit => items.modify (position edit) (change edit)) items)[
      position edit]? = items[position edit]?.map (change edit) := by
  induction edits generalizing items with
  | nil => exact absurd member List.not_mem_nil
  | cons first rest inductionHypothesis =>
      obtain ⟨absent, distinct⟩ := List.nodup_cons.mp distinct
      rw [List.foldl_cons]
      rcases List.mem_cons.mp member with rfl | later
      · rw [getElem?_foldl_modify_of_not_mem position change absent, List.getElem?_modify]
        simp
      · have apart : position first ≠ position edit := fun same =>
          absent (same ▸ List.mem_map_of_mem later)
        rw [inductionHypothesis distinct later, List.getElem?_modify]
        simp [apart]

end Modify

theorem getElem?_written
    (listedOnce : positions.Nodup) (distinct : DistinctTracks (frame.recordsOf projector.className))
    (position : Nat) :
    ((projector.written frame (projector.evaluations frame positions)).recordsOf
      projector.className)[position]? =
        (frame.recordsOf projector.className)[position]?.map fun record =>
          if projector.evaluates positions position record then
            record.insert projector.property.name (projector.evaluate frame position record).value
          else record := by
  have once : ((projector.evaluations frame positions).map Evaluation.position).Nodup := by
    rw [evaluations_eq_map listedOnce distinct, List.map_map]
    exact List.pairwise_map.mpr ((pairwise_listed listedOnce).filter _)
  unfold written
  cases found : frame.records.find? projector.className with
  | none => simp [Frame.recordsOf, found]
  | some records =>
      have present : frame.recordsOf projector.className = records := by
        simp [Frame.recordsOf, found]
      simp only [Frame.recordsOf_setRecords, if_true]
      rw [present]
      by_cases evaluated :
          position ∈ (projector.evaluations frame positions).map Evaluation.position
      · obtain ⟨evaluation, member, rfl⟩ := List.mem_map.mp evaluated
        rw [getElem?_foldl_modify_of_mem Evaluation.position _ once member]
        rw [evaluations_eq_map listedOnce distinct] at member
        obtain ⟨⟨place, record⟩, inside, rfl⟩ := List.mem_map.mp member
        obtain ⟨here, holds⟩ := mem_candidates.mp inside
        rw [present] at here
        have same : (projector.evaluate frame place record).position = place := rfl
        simp only [same, here, Option.map_some, holds, if_true]
      · rw [getElem?_foldl_modify_of_not_mem Evaluation.position _ evaluated]
        cases here : records[position]? with
        | none => rfl
        | some record =>
            have refused : ¬ projector.evaluates positions position record := by
              intro holds
              refine evaluated ?_
              rw [evaluations_eq_map listedOnce distinct, List.map_map]
              exact List.mem_map.mpr
                ⟨(position, record), mem_candidates.mpr ⟨present ▸ here, holds⟩, rfl⟩
            simp [refused]

/-! ## What is remembered -/

open History

/-- The rows of a lost track with its own value carried to a frame. -/
def carryRows (columns capacity own frame : Nat) (rows : List HistoryRow) : List HistoryRow :=
  match rows.getLast? with
  | some last =>
    if last.frame < frame then
      match last.values[own]? with
      | some value =>
        pushRow capacity rows ⟨frame, (List.replicate columns .invalid).set own value⟩
      | none => rows
    else rows
  | none => rows

theorem rowsOf_carryForward {history : History} (once : history.Distinct)
    (own frame track other : Nat) :
    (carryForward history own frame track).rowsOf other =
      if other = track then
        carryRows history.columns.length history.capacity own frame (history.rowsOf track)
      else history.rowsOf other := by
  have unchanged : history.rowsOf other =
      if other = track then history.rowsOf track else history.rowsOf other := by
    by_cases same : other = track <;> simp [same]
  rw [carryForward, carryRows, latest?_eq once]
  cases (history.rowsOf track).getLast? with
  | none => exact unchanged
  | some last =>
      by_cases earlier : last.frame < frame
      · cases found : last.values[own]? with
        | none => simpa [earlier, found] using unchanged
        | some value => simp [earlier, found, rowsOf_push once]
      · simpa [earlier] using unchanged

/-- What two histories of a projector have in common. -/
structure SameShape (after before : History) : Prop where
  columns : after.columns = before.columns
  capacity : after.capacity = before.capacity
  distinct : before.Distinct → after.Distinct

theorem shape_push (history : History) (track frame : Nat) (values : List Value) :
    SameShape (history.push track frame values) history :=
  ⟨columns_push .., capacity_push .., fun distinct => distinct_push distinct ..⟩

theorem shape_carryForward (history : History) (own frame track : Nat) :
    SameShape (carryForward history own frame track) history := by
  unfold carryForward
  split
  · split
    · split
      · exact shape_push ..
      · exact ⟨rfl, rfl, id⟩
    · exact ⟨rfl, rfl, id⟩
  · exact ⟨rfl, rfl, id⟩

/-- Carrying twice to a frame is carrying once. -/
theorem carryRows_carryRows (columns capacity own frame : Nat) (rows : List HistoryRow) :
    carryRows columns capacity own frame (carryRows columns capacity own frame rows) =
      carryRows columns capacity own frame rows := by
  cases last : rows.getLast? with
  | none => simp [carryRows, last]
  | some row =>
      by_cases earlier : row.frame < frame
      · cases found : row.values[own]? with
        | none => simp [carryRows, last, earlier, found]
        | some value =>
            have once : carryRows columns capacity own frame rows =
                pushRow capacity rows ⟨frame, (List.replicate columns .invalid).set own value⟩ := by
              simp [carryRows, last, earlier, found]
            rw [once]
            unfold pushRow
            split
            · simp [carryRows]
            · rename_i refused
              rw [once, pushRow, if_neg refused]
      · simp [carryRows, last, earlier]

theorem carriedAll_spec
    {history : History} (once : history.Distinct) (own : String) (frame : Nat) (lost : List Nat) :
    let carried := lost.foldl (fun history track =>
      carryForward history (history.columns.idxOf own) frame track) history
    SameShape carried history ∧
      ∀ track, carried.rowsOf track =
        if lost.contains track then
          carryRows history.columns.length history.capacity (history.columns.idxOf own) frame
            (history.rowsOf track)
        else history.rowsOf track := by
  induction lost generalizing history with
  | nil => exact ⟨⟨rfl, rfl, id⟩, fun _ => rfl⟩
  | cons first rest inductionHypothesis =>
      let place := history.columns.idxOf own
      have shape := shape_carryForward history place frame first
      obtain ⟨later, rows⟩ :=
        inductionHypothesis (shape.distinct once)
      refine ⟨⟨later.columns.trans shape.columns, later.capacity.trans shape.capacity,
        fun once => later.distinct (shape.distinct once)⟩, fun track => ?_⟩
      rw [List.foldl_cons, rows track, shape.columns, shape.capacity, rowsOf_carryForward once]
      by_cases same : track = first
      · by_cases again : track ∈ rest
        · simp [same, place, carryRows_carryRows]
        · simp [same, place, carryRows_carryRows]
      · by_cases again : track ∈ rest <;> simp [same, again]

/-- The rows of a track with the one computed for it. -/
def seenRows (capacity frame : Nat) (row : Option (List Value)) (rows : List HistoryRow) :
    List HistoryRow :=
  match row with
  | some values => pushRow capacity rows ⟨frame, values⟩
  | none => rows

/-- The rows of a track carried to a frame if it is lost and the property reads its own past. -/
def carriedRows (projector : Projector) (frame : Frame) (track : Nat) (rows : List HistoryRow) :
    List HistoryRow :=
  if projector.history.columns.contains projector.property.name &&
      (frame.lostOf projector.className).contains track then
    carryRows projector.history.columns.length projector.history.capacity
      (projector.history.columns.idxOf projector.property.name) frame.id rows
  else rows

/-- The rows of a track after a frame on which the given row, if any, was computed for it. -/
def trackRows (projector : Projector) (frame : Frame) (track : Nat) (row : Option (List Value))
    (rows : List HistoryRow) : List HistoryRow :=
  if projector.history.columns.isEmpty then rows
  else if frame.isLive projector.className track then
    recent (projector.history.cutoff frame.id)
      (projector.carriedRows frame track (seenRows projector.history.capacity frame.id row rows))
  else []

/-- The row computed for a track. -/
def rowFor (evaluations : List Evaluation) (track : Nat) : Option (List Value) :=
  (evaluations.find? fun evaluation => evaluation.trackId = some track).map Evaluation.row

theorem pushed_spec
    (frame : Nat) {evaluations : List Evaluation}
    (distinct : (evaluations.filterMap Evaluation.trackId).Nodup) {history : History}
    (once : history.Distinct) :
    let pushed := evaluations.foldl (fun history evaluation =>
      match evaluation.trackId with
      | some track => history.push track frame evaluation.row
      | none => history) history
    SameShape pushed history ∧
      ∀ track, pushed.rowsOf track =
        seenRows history.capacity frame (rowFor evaluations track) (history.rowsOf track) := by
  induction evaluations generalizing history with
  | nil => exact ⟨⟨rfl, rfl, id⟩, fun _ => rfl⟩
  | cons evaluation rest inductionHypothesis =>
      cases found : evaluation.trackId with
      | none =>
          rw [List.filterMap_cons, found] at distinct
          obtain ⟨shape, rows⟩ := inductionHypothesis distinct once
          simp only [List.foldl_cons, found]
          refine ⟨shape, fun track => ?_⟩
          have skipped : rowFor (evaluation :: rest) track = rowFor rest track := by
            simp [rowFor, found]
          rw [skipped, ← rows track]
      | some id =>
          rw [List.filterMap_cons, found] at distinct
          obtain ⟨absent, distinct⟩ := List.nodup_cons.mp distinct
          have pushed := shape_push history id frame evaluation.row
          obtain ⟨shape, rows⟩ :=
            inductionHypothesis distinct (pushed.distinct once)
          simp only [List.foldl_cons, found]
          refine ⟨⟨shape.columns.trans pushed.columns, shape.capacity.trans pushed.capacity,
            fun once => shape.distinct (pushed.distinct once)⟩, fun track => ?_⟩
          rw [rows track, pushed.capacity, rowsOf_push once]
          by_cases same : track = id
          · subst same
            have none : rowFor rest track = none := by
              rw [rowFor, List.find?_eq_none.mpr, Option.map_none]
              intro other member named
              exact absent (List.mem_filterMap.mpr ⟨other, member, of_decide_eq_true named⟩)
            have here : rowFor (evaluation :: rest) track = some evaluation.row := by
              simp [rowFor, found]
            rw [none, here, if_pos rfl]
            rfl
          · have skipped : rowFor (evaluation :: rest) track = rowFor rest track := by
              simp [rowFor, found, Ne.symm same]
            rw [skipped, if_neg same]

/-- A history with the own values of lost tracks carried to a frame. -/
def carried (projector : Projector) (frame : Frame) (history : History) : History :=
  if history.columns.contains projector.property.name then
    (frame.lostOf projector.className).foldl (fun history track =>
      carryForward history (history.columns.idxOf projector.property.name) frame.id track) history
  else history

theorem settled_eq (projector : Projector) (frame : Frame) (history : History) :
    projector.settled frame history =
      if history.columns.isEmpty then history
      else (projector.carried frame history).evict frame.id (frame.isLive projector.className) :=
  rfl

theorem carried_spec
    (projector : Projector) (frame : Frame) {history : History}
    (shape : SameShape history projector.history) (once : history.Distinct) :
    SameShape (projector.carried frame history) history ∧
      ∀ track, (projector.carried frame history).rowsOf track =
        projector.carriedRows frame track (history.rowsOf track) := by
  unfold carried carriedRows
  rw [← shape.columns, ← shape.capacity]
  by_cases own : history.columns.contains projector.property.name
  · obtain ⟨shape, rows⟩ := carriedAll_spec once projector.property.name frame.id
      (frame.lostOf projector.className)
    rw [if_pos own]
    refine ⟨shape, fun track => ?_⟩
    rw [rows track, own, Bool.true_and]
  · rw [if_neg own]
    refine ⟨⟨rfl, rfl, id⟩, fun track => ?_⟩
    rw [eq_false_of_ne_true own, Bool.false_and]
    rfl

theorem remembered_spec
    (projector : Projector) (frame : Nat) {evaluations : List Evaluation}
    (distinct : (evaluations.filterMap Evaluation.trackId).Nodup)
    (once : projector.history.Distinct) (stateful : ¬ projector.history.columns.isEmpty) :
    SameShape (projector.remembered frame evaluations) projector.history ∧
      ∀ track, (projector.remembered frame evaluations).rowsOf track =
        seenRows projector.history.capacity frame (rowFor evaluations track)
          (projector.history.rowsOf track) := by
  unfold remembered
  rw [if_neg stateful]
  exact pushed_spec frame distinct once

theorem settled_spec
    (projector : Projector) (frame : Frame) {evaluations : List Evaluation}
    (distinct : (evaluations.filterMap Evaluation.trackId).Nodup)
    (once : projector.history.Distinct) :
    SameShape (projector.settled frame (projector.remembered frame.id evaluations))
        projector.history ∧
      ∀ track, (projector.settled frame (projector.remembered frame.id evaluations)).rowsOf track =
        projector.trackRows frame track (rowFor evaluations track)
          (projector.history.rowsOf track) := by
  unfold trackRows
  by_cases empty : projector.history.columns.isEmpty
  · have same : projector.remembered frame.id evaluations = projector.history := if_pos empty
    rw [same, settled_eq, if_pos empty]
    exact ⟨⟨rfl, rfl, id⟩, fun track => (if_pos empty).symm⟩
  · obtain ⟨shape, rows⟩ := remembered_spec projector frame.id distinct once empty
    obtain ⟨carriedShape, carriedRows⟩ := carried_spec projector frame shape (shape.distinct once)
    have carriedOnce := carriedShape.distinct (shape.distinct once)
    rw [settled_eq, shape.columns, if_neg empty]
    refine ⟨⟨carriedShape.columns.trans shape.columns,
      carriedShape.capacity.trans shape.capacity, fun _ => distinct_evict carriedOnce ..⟩,
      fun track => ?_⟩
    rw [if_neg empty, rowsOf_evict carriedOnce, carriedRows, rows, cutoff, cutoff,
      carriedShape.capacity, shape.capacity]

/-- What a projector does to a frame. -/
structure Applied (before after : Projector) (frame written : Frame) (positions : List Nat) :
    Prop where
  kept : after = { before with history := after.history }
  shape : SameShape after.history before.history
  /-- Nothing but objects is written. -/
  framed : written = { frame with records := written.records }
  records : ∀ position : Nat,
    (written.recordsOf before.className)[position]? =
      (frame.recordsOf before.className)[position]?.map fun record =>
        if before.evaluates positions position record then
          record.insert before.property.name (before.evaluate frame position record).value
        else record
  rows : ∀ track,
    after.history.rowsOf track =
      before.trackRows written track (rowFor (before.evaluations frame positions) track)
        (before.history.rowsOf track)

theorem framed_written (projector : Projector) (frame : Frame) (evaluations : List Evaluation) :
    projector.written frame evaluations =
      { frame with records := (projector.written frame evaluations).records } := by
  unfold written
  split <;> rfl

theorem apply_eq
    (listedOnce : positions.Nodup) (distinct : DistinctTracks (frame.recordsOf projector.className))
    (once : projector.history.Distinct)
    (found : frame.positions? projector.index projector.className = some positions) :
    ∃ projection, projector.apply frame = .ok projection ∧
      projector.Applied projection.projector frame projection.frame positions := by
  refine ⟨_, by unfold apply; rw [found], ?_⟩
  have framed := framed_written projector frame (projector.evaluations frame positions)
  have id : (projector.written frame (projector.evaluations frame positions)).id = frame.id := by
    rw [framed]
  obtain ⟨shape, rows⟩ := settled_spec projector
    (projector.written frame (projector.evaluations frame positions))
    (nodup_evaluated_tracks projector frame positions) once
  rw [id] at shape rows
  exact
    { kept := rfl
      shape := shape
      framed := framed
      records := getElem?_written listedOnce distinct
      rows := rows }

end Projector

end ObjectQuery
