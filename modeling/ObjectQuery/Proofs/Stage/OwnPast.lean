import ObjectQuery.Proofs.Stage.Availability

/-!
# A property over the life of a track

Where a property looks back on its own last value, `life` tells what is kept of a track: the value on each
frame on which the track is seen, the same value while the track is lost, and nothing once it is neither.
`keeps_after` says that this is what the projector has, however many frames the track has been lost for,
and `written_of_seen` that the value on the next frame is computed from it.
-/

namespace ObjectQuery

/-- The last own value, and the default where there is none or it is not valid. -/
def Property.previous (property : Property) (kept : Option Value) : Value :=
  match kept with
  | some value => if value.isInvalid then property.default else value
  | none => property.default

namespace Projector

variable {start now projector : Projector} {frame : Frame} {frames : List Frame}
  {track position : Nat} {record : ObjectRecord} {dependency : Dependency}

/-! ## Along the frames -/

/-- What a step that knows the frames before makes of some frames, one after another. -/
def along {β : Type} (step : List Frame → β → Frame → β) (start : β) (frames : List Frame) : β :=
  (frames.foldl (fun past frame => (past.1 ++ [frame], step past.1 past.2 frame)) ([], start)).2

theorem along_concat {β : Type} (step : List Frame → β → Frame → β) (start : β)
    (frames : List Frame) (frame : Frame) :
    along step start (frames ++ [frame]) = step frames (along step start frames) frame := by
  let go (past : List Frame × β) (frame : Frame) : List Frame × β :=
    (past.1 ++ [frame], step past.1 past.2 frame)
  have past (frames : List Frame) : (frames.foldl go ([], start)).1 = frames := by
    induction frames using List.reverseRecOn with
    | nil => rfl
    | append_singleton frames frame inductionHypothesis =>
        rw [List.foldl_append, List.foldl_cons, List.foldl_nil]
        exact congrArg (fun frames => frames ++ [frame]) inductionHypothesis
  unfold along
  rw [List.foldl_append, List.foldl_cons, List.foldl_nil]
  change step (frames.foldl go ([], start)).1 _ frame = _
  rw [past]

/-! ## The life of a track -/

/-- What the function is handed for an object after a last own value. -/
def inputsAfter (projector : Projector) (frames : List Frame) (track : Nat) (frame : Frame)
    (position : Nat) (record : ObjectRecord) (previous : Value) : PropertyInputs where
  inputs := projector.property.dependencies.map fun dependency =>
    (dependency.name,
      if dependency.name = projector.property.name then
        .window [previous, projector.property.default]
      else projector.handed frames track frame position record dependency)
  snapshot := frame.recordsOf projector.className

/-- The own value of an object after a last one, which is held where something else is not there. -/
def valueAfter (projector : Projector) (frames : List Frame) (track : Nat) (frame : Frame)
    (position : Nat) (record : ObjectRecord) (previous : Value) : Value :=
  if projector.property.dependencies.all fun dependency =>
      dependency.name = projector.property.name ||
        projector.available frames track frame position record dependency then
    projector.property.compute
      (projector.inputsAfter frames track frame position record previous)
  else previous

/-- What is kept of a track after a frame. -/
def keptAfter (projector : Projector) (frames : List Frame) (frame : Frame) (track : Nat)
    (kept : Option Value) : Option Value :=
  match projector.firstOf? frame track with
  | some (position, record) =>
    some (projector.valueAfter frames track frame position record
      (projector.property.previous kept))
  | none => if (frame.lostOf projector.className).contains track then kept else none

/-- The frames one after another, with what is kept of a track after them. -/
def lifeStep (projector : Projector) (track : Nat) (past : List Frame × Option Value)
    (frame : Frame) : List Frame × Option Value :=
  (past.1 ++ [frame], projector.keptAfter past.1 frame track past.2)

/-- What is kept of a track after some frames. -/
def life (projector : Projector) (frames : List Frame) (track : Nat) : Option Value :=
  (frames.foldl (projector.lifeStep track) ([], none)).2

theorem life_nil (projector : Projector) (track : Nat) : projector.life [] track = none := rfl

theorem life_concat (projector : Projector) (frames : List Frame) (frame : Frame) (track : Nat) :
    projector.life (frames ++ [frame]) track =
      projector.keptAfter frames frame track (projector.life frames track) :=
  along_concat (fun frames kept frame => projector.keptAfter frames frame track kept) none frames frame

theorem life_of_seen (first : projector.firstOf? frame track = some (position, record)) :
    projector.life (frames ++ [frame]) track =
      some (projector.valueAfter frames track frame position record
        (projector.property.previous (projector.life frames track))) := by
  rw [life_concat, keptAfter, first]

theorem life_of_lost (unseen : projector.firstOf? frame track = none)
    (lost : track ∈ frame.lostOf projector.className) :
    projector.life (frames ++ [frame]) track = projector.life frames track := by
  rw [life_concat, keptAfter, unseen]
  exact if_pos (List.contains_iff_mem.mpr lost)

theorem life_of_gone (unseen : projector.firstOf? frame track = none)
    (gone : track ∉ frame.lostOf projector.className) :
    projector.life (frames ++ [frame]) track = none := by
  rw [life_concat, keptAfter, unseen]
  exact if_neg fun lost => gone (List.contains_iff_mem.mp lost)

/-- However long a track is lost, the last value is kept. -/
theorem life_of_lost_all {more : List Frame}
    (unseen : ∀ frame ∈ more, projector.firstOf? frame track = none)
    (lost : ∀ frame ∈ more, track ∈ frame.lostOf projector.className) :
    projector.life (frames ++ more) track = projector.life frames track := by
  induction more using List.reverseRecOn with
  | nil => rw [List.append_nil]
  | append_singleton more frame inductionHypothesis =>
      rw [← List.append_assoc, life_of_lost (unseen frame (by simp)) (lost frame (by simp))]
      exact inductionHypothesis (fun other member => unseen other (List.mem_append_left _ member))
        fun other member => lost other (List.mem_append_left _ member)

/-! ## The last row carried on -/

section LastRow

open History

variable {rows : List HistoryRow} {row : HistoryRow}

/-- The row on the frame before is the last one. -/
theorem getLast?_eq_of_before (ascending : Ascending rows) (member : row ∈ rows)
    (before : ∀ other ∈ rows, other.frame < row.frame + 1) :
    rows.getLast? = some row := by
  obtain ⟨front, last, rfl⟩ := (List.eq_nil_or_concat rows).resolve_left (List.ne_nil_of_mem member)
  rw [List.concat_eq_append] at member before ascending ⊢
  rw [List.getLast?_concat]
  rcases List.mem_append.mp member with early | here
  · have later := (List.pairwise_append.mp ascending).2.2 row early last (by simp)
    have bound := before last (by simp)
    omega
  · rw [List.mem_singleton.mp here]

/-- The own value of the last row is carried to the frame after it. -/
theorem carryRows_of_last {columns capacity own id : Nat} {value : Value}
    (ascending : Ascending rows) (before : ∀ other ∈ rows, other.frame < id) (member : row ∈ rows)
    (dated : row.frame + 1 = id) (held : row.values[own]? = some value) :
    carryRows columns capacity own id rows =
      pushRow capacity rows ⟨id, (List.replicate columns .invalid).set own value⟩ := by
  subst dated
  unfold carryRows
  rw [getLast?_eq_of_before ascending member before]
  simp only [Nat.lt_succ_self, if_true, held]

/-- A lost track has the own value of its last row behind the rows that a window can reach. -/
theorem trackRows_of_lost {value : Value} (ascending : Ascending rows)
    (before : ∀ other ∈ rows, other.frame < frame.id) (member : row ∈ rows)
    (dated : row.frame + 1 = frame.id)
    (column : projector.property.name ∈ projector.history.columns)
    (held : row.values[projector.history.columns.idxOf projector.property.name]? = some value)
    (lost : track ∈ frame.lostOf projector.className) :
    projector.trackRows frame track none rows =
      recent (projector.history.cutoff frame.id)
        (pushRow projector.history.capacity rows ⟨frame.id,
          (List.replicate projector.history.columns.length .invalid).set
            (projector.history.columns.idxOf projector.property.name) value⟩) := by
  have columns : projector.history.columns.isEmpty = false :=
    List.isEmpty_eq_false_iff.mpr (List.ne_nil_of_mem column)
  have live : frame.isLive projector.className track :=
    List.contains_iff_mem.mpr (List.mem_append_right _ lost)
  have carries : (projector.history.columns.contains projector.property.name &&
      (frame.lostOf projector.className).contains track) = true :=
    Bool.and_eq_true_iff.mpr
      ⟨List.contains_iff_mem.mpr column, List.contains_iff_mem.mpr lost⟩
  rw [trackRows, columns, if_neg Bool.false_ne_true, if_pos live, carriedRows, if_pos carries,
    seenRows, carryRows_of_last ascending before member dated held]

end LastRow

/-! ## All objects listed -/

/-- All objects of the class are listed. -/
def ListsAll (projector : Projector) (frame : Frame) : Prop :=
  frame.positions? projector.index projector.className =
    some (List.range (frame.recordsOf projector.className).length)

theorem mem_listed_range (here : (frame.recordsOf projector.className)[position]? = some record) :
    (position, record) ∈ projector.listed frame
      (List.range (frame.recordsOf projector.className).length) :=
  mem_listed.mpr ⟨List.mem_range.mpr (List.getElem?_eq_some_iff.mp here).1, here⟩

/-- An unseen track has no object. -/
theorem ListsAll.trackId?_ne (lists : projector.ListsAll frame)
    (unseen : projector.firstOf? frame track = none) :
    ∀ record ∈ frame.recordsOf projector.className, record.trackId? ≠ some track := by
  intro record present named
  obtain ⟨position, here⟩ := List.mem_iff_getElem?.mp present
  rw [firstOf?, lists, Option.bind_some] at unseen
  exact List.find?_eq_none.mp unseen _ (mem_listed_range here) (decide_eq_true named)

/-- Among objects of different tracks the first of a track is the only one. -/
theorem ListsAll.firstOf?_eq (lists : projector.ListsAll frame)
    (distinct : DistinctTracks (frame.recordsOf projector.className))
    (here : (frame.recordsOf projector.className)[position]? = some record)
    (named : record.trackId? = some track) :
    projector.firstOf? frame track = some (position, record) := by
  cases first : projector.firstOf? frame track with
  | none => exact absurd named (lists.trackId?_ne first record (List.mem_of_getElem? here))
  | some item =>
      obtain ⟨other, otherRecord⟩ := item
      obtain ⟨_, _, _, otherHere, otherNamed⟩ := firstOf?_eq_some first
      obtain rfl := distinct other position otherRecord record track otherHere here otherNamed named
      rw [Option.some.inj (otherHere.symm.trans here)]

/-- A track that is neither seen nor lost is not on the frame. -/
theorem ListsAll.isLive_eq_false (lists : projector.ListsAll frame)
    (unseen : projector.firstOf? frame track = none)
    (gone : track ∉ frame.lostOf projector.className) :
    frame.isLive projector.className track = false := by
  refine eq_false_of_ne_true fun live => ?_
  rcases List.mem_append.mp (List.contains_iff_mem.mp live) with seen | lost
  · obtain ⟨record, present, named⟩ := List.mem_filterMap.mp seen
    exact lists.trackId?_ne unseen record present named
  · exact gone lost

/-! ## What is kept -/

theorem read_self (projector : Projector) (frame : Frame) (position : Nat) (record : ObjectRecord)
    {length : Nat} (looks : 0 < length) :
    projector.read frame position record ⟨projector.property.name, length⟩ =
      ⟨projector.property.name,
        some (.window (ownPast projector.property.default length (projector.past? frame
          record.trackId? ⟨projector.property.name, length⟩) ++ [projector.property.default])),
        true, some .invalid,
        (ownPast projector.property.default length (projector.past? frame
          record.trackId? ⟨projector.property.name, length⟩)).getLast?⟩ := by
  unfold read readOwn
  rw [if_pos rfl, if_neg (Nat.ne_of_gt looks)]

/-- A projector that looks back on its own last values. -/
structure ReadsOwn (projector : Projector) (length : Nat) : Prop extends Fits projector where
  self : ⟨projector.property.name, length⟩ ∈ projector.property.dependencies
  looks : 0 < length

namespace ReadsOwn

variable {length : Nat}

theorem own_mem_columns (reads : projector.ReadsOwn length) :
    projector.property.name ∈ projector.history.columns :=
  reads.toFits.mem_columns (List.mem_filter.mpr ⟨reads.self, decide_eq_true reads.looks⟩)

theorem columns_isEmpty (reads : projector.ReadsOwn length) :
    projector.history.columns.isEmpty = false :=
  List.isEmpty_eq_false_iff.mpr (List.ne_nil_of_mem reads.own_mem_columns)

theorem capacity_pos (reads : projector.ReadsOwn length) : 0 < projector.history.capacity :=
  Nat.lt_of_lt_of_le reads.looks (reads.reach _ reads.self)

theorem isSelfDependent (reads : projector.ReadsOwn length) :
    projector.property.isSelfDependent = true := by
  unfold Property.isSelfDependent Property.window?
  rw [Option.isSome_map, List.find?_isSome]
  exact ⟨_, reads.self, decide_eq_true rfl⟩

/-- The own name stands once among the dependencies. -/
theorem eq_self (reads : projector.ReadsOwn length)
    (member : dependency ∈ projector.property.dependencies)
    (own : dependency.name = projector.property.name) :
    dependency = ⟨projector.property.name, length⟩ :=
  List.inj_on_of_nodup_map reads.distinct member reads.self own

theorem held_read_other (other : dependency.name ≠ now.property.name) :
    (now.read frame position record dependency).held = none := by
  unfold read readOther
  rw [if_neg other]
  simp only
  split
  · rfl
  · split
    · split <;> rfl
    · rfl

/-- Of all that is read only the own past can be held. -/
theorem findSome?_held (reads : projector.ReadsOwn length)
    (property : now.property = projector.property) :
    (now.readings frame position record).findSome? Reading.held =
      (now.read frame position record ⟨projector.property.name, length⟩).held := by
  have others (dependency : Dependency)
      (member : dependency ∈ projector.property.dependencies)
      (found : (now.read frame position record dependency).held.isSome) :
      dependency = ⟨projector.property.name, length⟩ := by
    by_contra other
    rw [held_read_other fun own => other (reads.eq_self member (property ▸ own))] at found
    exact absurd found (by simp)
  rw [readings, property, List.findSome?_map]
  cases found : projector.property.dependencies.findSome?
      (Reading.held ∘ now.read frame position record) with
  | none => exact (List.findSome?_eq_none_iff.mp found _ reads.self).symm
  | some value =>
      obtain ⟨dependency, member, here⟩ := List.exists_of_findSome?_eq_some found
      obtain rfl := others dependency member (Option.isSome_iff_exists.mpr ⟨value, here⟩)
      exact here.symm

end ReadsOwn

/-- A projector that looks back on its own last value. -/
structure ReadsLast (projector : Projector) : Prop extends Fits projector where
  last : ⟨projector.property.name, 1⟩ ∈ projector.property.dependencies

theorem ReadsLast.readsOwn (reads : projector.ReadsLast) : projector.ReadsOwn 1 :=
  ⟨reads.toFits, reads.last, Nat.one_pos⟩

/-- A projector after some frames, the next of which has the given number. -/
structure Keeps (start now : Projector) (frames : List Frame) (next : Nat) : Prop
    extends Remembers start now frames where
  ahead : ∀ earlier ∈ frames, earlier.id < next
  filled : ∀ track rows, now.history.rows.find? track = some rows → rows ≠ []
  stored : ∀ track value, start.life frames track = some value →
    ∃ row ∈ now.history.rowsOf track, row.frame + 1 = next ∧
      row.values[start.history.columns.idxOf start.property.name]? = some value
  forgotten : ∀ track, start.life frames track = none → now.history.rowsOf track = []

theorem keeps_start (start : Projector) (empty : start.history.rows = []) (first : Nat) :
    start.Keeps start [] first := by
  refine ⟨remembers_start start empty, fun _ member => absurd member List.not_mem_nil,
    fun track rows found => ?_, fun track value stored => ?_, fun track _ => ?_⟩
  · rw [empty] at found
    exact absurd found (by simp [Keyed.find?])
  · rw [life_nil] at stored
    exact absurd stored (by simp)
  · rw [History.rowsOf, empty]
    rfl

namespace Keeps

/-! ## The last own value -/

section Value

variable (keeps : start.Keeps now frames frame.id) (reads : start.ReadsLast)

include keeps in
/-- The value on the frame before is there as long as the track lives. -/
theorem past?_own (track : Nat) :
    now.past? frame (some track) ⟨start.property.name, 1⟩ =
      (start.life frames track).map fun value => [value] := by
  rw [past?_eq, keeps.shape.columns]
  cases alive : start.life frames track with
  | none =>
      rw [History.window?_eq_if, keeps.forgotten track alive]
      simp [History.inside]
  | some value =>
      obtain ⟨row, member, dated, held⟩ := keeps.stored track value alive
      have window : now.history.window? track frame.id
          (start.history.columns.idxOf start.property.name) 1 =
            some ((List.range' (frame.id - 1) 1).map fun _ => value) :=
        History.window?_eq_map (keeps.ascending track) (by omega) fun id lower upper =>
          ⟨row, member, by omega, held⟩
      exact window

include keeps in
theorem ownPast_eq (track : Nat) :
    ownPast start.property.default 1
        (now.past? frame (some track) ⟨start.property.name, 1⟩) =
      [start.property.previous (start.life frames track)] := by
  rw [keeps.past?_own]
  cases start.life frames track <;> rfl

include keeps in
/-- What is read of the own past. -/
theorem read_own (named : record.trackId? = some track) :
    now.read frame position record ⟨start.property.name, 1⟩ =
      ⟨start.property.name,
        some (.window [start.property.previous (start.life frames track), start.property.default]),
        true, some .invalid, some (start.property.previous (start.life frames track))⟩ := by
  have reading := read_self now frame position record Nat.one_pos
  rwa [keeps.property, named, keeps.ownPast_eq] at reading

include keeps reads in
theorem isCalled_eq (named : record.trackId? = some track) :
    (now.readings frame position record).all Reading.isAvailable =
      start.property.dependencies.all fun dependency =>
        dependency.name = start.property.name ||
          start.available frames track frame position record dependency := by
  rw [readings, keeps.property, List.all_map, Bool.eq_iff_iff, List.all_eq_true, List.all_eq_true]
  refine forall₂_congr fun dependency member => ?_
  by_cases own : dependency.name = start.property.name
  · obtain rfl := reads.readsOwn.eq_self member own
    rw [Function.comp_apply, keeps.read_own named]
    simp
  · rw [Function.comp_apply,
      keeps.isAvailable_read_eq reads.toFits keeps.ahead named member own]
    simp [own]

include keeps reads in
theorem findSome?_held (named : record.trackId? = some track) :
    (now.readings frame position record).findSome? Reading.held =
      some (start.property.previous (start.life frames track)) := by
  rw [reads.readsOwn.findSome?_held keeps.property, keeps.read_own named]

include keeps reads in
theorem inputsOf_readings (named : record.trackId? = some track)
    (called : ∀ dependency ∈ start.property.dependencies, dependency.name ≠ start.property.name →
      start.available frames track frame position record dependency = true) :
    inputsOf (frame.recordsOf start.className) (now.readings frame position record) =
      start.inputsAfter frames track frame position record
        (start.property.previous (start.life frames track)) := by
  rw [readings, keeps.property]
  refine inputsOf_eq reads.distinct (name_read now frame position record)
    (fun dependency member => ?_) (frame.recordsOf start.className)
  by_cases own : dependency.name = start.property.name
  · obtain rfl := reads.readsOwn.eq_self member own
    rw [keeps.read_own named, if_pos rfl]
  · rw [if_neg own]
    exact keeps.input_read_eq reads.toFits keeps.ahead named member own
      (called dependency member own)

include keeps reads in
/-- The value on the next frame is computed from the last one. -/
theorem value_evaluate_eq (named : record.trackId? = some track) :
    (now.evaluate frame position record).value =
      start.valueAfter frames track frame position record
        (start.property.previous (start.life frames track)) := by
  rw [value_evaluate, valueOf, keeps.isCalled_eq reads named, keeps.property, keeps.className,
    reads.readsOwn.isSelfDependent, if_pos rfl, keeps.findSome?_held reads named, Option.getD_some,
    valueAfter]
  split
  · rename_i called
    rw [keeps.inputsOf_readings reads named fun dependency member other => ?_]
    simpa [other] using List.all_eq_true.mp called dependency member
  · rfl

end Value

/-! ## From frame to frame -/

section Step

variable (keeps : start.Keeps now frames frame.id) (reads : start.ReadsLast)
  (lists : start.ListsAll frame)

include keeps lists in
theorem positions_eq :
    frame.positions? now.index now.className =
      some (List.range (frame.recordsOf start.className).length) := by
  rw [keeps.index, keeps.className]
  exact lists

include keeps reads lists in
theorem filled_next {rows : List HistoryRow}
    (found : (now.next frame).history.rows.find? track = some rows) : rows ≠ [] :=
  ne_nil_of_find?_next keeps.once (keeps.shape.columns.symm ▸ reads.readsOwn.columns_isEmpty)
    (keeps.positions_eq lists) found

include keeps reads lists in
/-- The value of a track that is seen is stored. -/
theorem stored_of_seen (first : start.firstOf? frame track = some (position, record)) :
    ∃ row ∈ (now.next frame).history.rowsOf track, row.frame = frame.id ∧
      row.values[start.history.columns.idxOf start.property.name]? =
        some (start.valueAfter frames track frame position record
          (start.property.previous (start.life frames track))) := by
  obtain ⟨_, _, _, _, named⟩ := firstOf?_eq_some first
  have live := isLive_of_firstOf? ((keeps.firstOf?_eq frame track).trans first)
  have new := (mem_trackRows_of_seen (keeps.ascending track) (keeps.before keeps.ahead)
    (keeps.shape.columns.symm ▸ reads.readsOwn.columns_isEmpty)
    (keeps.shape.capacity.symm ▸ reads.readsOwn.capacity_pos) live
    (now.evaluate frame position record).row).1
  rw [keeps.rowsOf_next reads.toFits (keeps.positions_eq lists), first]
  refine ⟨_, new, rfl, ?_⟩
  rw [reads.toFits.getElem?_row keeps.toAlike frame position record reads.readsOwn.own_mem_columns,
    if_pos rfl, keeps.value_evaluate_eq reads named]

include keeps reads lists in
/-- The value of a lost track is stored again. -/
theorem stored_of_lost (unseen : start.firstOf? frame track = none)
    (lost : track ∈ frame.lostOf start.className) {value : Value}
    (alive : start.life frames track = some value) :
    ∃ row ∈ (now.next frame).history.rowsOf track, row.frame = frame.id ∧
      row.values[start.history.columns.idxOf start.property.name]? = some value := by
  obtain ⟨row, member, dated, held⟩ := keeps.stored track value alive
  have room : 0 < now.history.capacity := keeps.shape.capacity.symm ▸ reads.readsOwn.capacity_pos
  have column : start.property.name ∈ now.history.columns :=
    keeps.shape.columns.symm ▸ reads.readsOwn.own_mem_columns
  have before : ∀ other ∈ now.history.rowsOf track, other.frame < frame.id :=
    keeps.before keeps.ahead
  rw [← keeps.property, ← keeps.shape.columns] at held
  rw [← keeps.property] at column
  -- no row is computed for a lost track: its last one is written again under the new frame
  rw [keeps.rowsOf_next reads.toFits (keeps.positions_eq lists), unseen, Option.map_none,
    trackRows_of_lost (keeps.ascending track) before member dated column held
      (keeps.className.symm ▸ lost)]
  refine ⟨_, List.mem_filter.mpr ⟨History.mem_pushRow_new room before, decide_eq_true ?_⟩, rfl, ?_⟩
  · simp only [History.cutoff]
    omega
  · rw [keeps.property, keeps.shape.columns] at column ⊢
    rw [List.getElem?_set_self]
    rw [List.length_replicate]
    exact List.idxOf_lt_length_of_mem column

include keeps reads lists in
theorem step : start.Keeps (now.next frame) (frames ++ [frame]) (frame.id + 1) := by
  refine ⟨keeps.toRemembers.step reads.toFits keeps.ahead, fun earlier member => ?_,
    fun track rows found => keeps.filled_next reads lists found, fun track value alive => ?_,
    fun track gone => ?_⟩
  · rcases List.mem_append.mp member with old | here
    · exact Nat.lt_succ_of_lt (keeps.ahead earlier old)
    · rw [List.mem_singleton.mp here]
      exact Nat.lt_succ_self _
  · cases first : start.firstOf? frame track with
    | some item =>
        obtain ⟨row, member, dated, held⟩ := keeps.stored_of_seen reads lists first
        rw [life_of_seen first] at alive
        exact ⟨row, member, by rw [dated], held.trans alive⟩
    | none =>
        by_cases lost : track ∈ frame.lostOf start.className
        · rw [life_of_lost first lost] at alive
          obtain ⟨row, member, dated, held⟩ := keeps.stored_of_lost reads lists first lost alive
          exact ⟨row, member, by rw [dated], held⟩
        · rw [life_of_gone first lost] at alive
          exact absurd alive (by simp)
  · cases first : start.firstOf? frame track with
    | some item =>
        rw [life_of_seen first] at gone
        exact absurd gone (by simp)
    | none =>
        rw [keeps.rowsOf_next reads.toFits (keeps.positions_eq lists), first, Option.map_none,
          trackRows, keeps.shape.columns, reads.readsOwn.columns_isEmpty, if_neg Bool.false_ne_true,
          keeps.className]
        by_cases lost : track ∈ frame.lostOf start.className
        · rw [life_of_lost first lost] at gone
          rw [keeps.forgotten track gone]
          simp [seenRows, carriedRows, carryRows, History.recent]
        · rw [lists.isLive_eq_false first lost, if_neg Bool.false_ne_true]

include keeps reads lists in
/-- The first object of a track has the value that follows the last one. -/
theorem written_of_seen (first : start.firstOf? frame track = some (position, record)) :
    ∃ projection, now.apply frame = .ok projection ∧
      (projection.frame.recordsOf start.className)[position]? =
        some (record.insert start.property.name
          (start.valueAfter frames track frame position record
            (start.property.previous (start.life frames track)))) := by
  obtain ⟨_, _, _, _, named⟩ := firstOf?_eq_some first
  have written := getElem?_written_first ((keeps.firstOf?_eq frame track).trans first)
    (keeps.positions_eq lists)
  rw [keeps.className, keeps.property, keeps.value_evaluate_eq reads named] at written
  exact ⟨_, by unfold apply; rw [keeps.positions_eq lists], written⟩

end Step

end Keeps

/-- What a projector has of a track before the frame of a number: the own value on the frame before, or
nothing at all. -/
structure Stores (projector : Projector) (track next : Nat) (kept : Option Value) : Prop where
  stored : ∀ value, kept = some value → ∃ row, projector.history.latest? track = some row ∧
    row.frame + 1 = next ∧
      row.values[projector.history.columns.idxOf projector.property.name]? = some value
  forgotten : kept = none → projector.history.rows.find? track = none

theorem Keeps.stores {next : Nat} (keeps : start.Keeps now frames next) (track : Nat) :
    now.Stores track next (start.life frames track) := by
  constructor
  · intro value alive
    obtain ⟨row, member, dated, held⟩ := keeps.stored track value alive
    refine ⟨row, ?_, dated, ?_⟩
    · rw [History.latest?_eq keeps.once]
      exact getLast?_eq_of_before (keeps.ascending track) member
        (dated ▸ keeps.before keeps.ahead)
    · rw [keeps.shape.columns, keeps.property]
      exact held
  · intro gone
    have empty := keeps.forgotten track gone
    unfold History.rowsOf at empty
    cases found : now.history.rows.find? track with
    | none => rfl
    | some rows =>
        rw [found, Option.getD_some] at empty
        exact absurd empty (keeps.filled track rows found)

/-- Whatever frames the projector has been applied to, one number after another. -/
theorem keeps_after (reads : start.ReadsLast) (empty : start.history.rows = []) {first : Nat}
    (counted : CountedFrom first frames) (lists : ∀ frame ∈ frames, start.ListsAll frame) :
    start.Keeps (start.after frames) frames (first + frames.length) := by
  induction frames using List.reverseRecOn with
  | nil => exact keeps_start start empty first
  | append_singleton frames frame inductionHypothesis =>
      obtain ⟨earlier, numbered⟩ := countedFrom_concat.mp counted
      have keeps := inductionHypothesis earlier fun other member =>
        lists other (List.mem_append_left _ member)
      rw [← numbered] at keeps
      rw [after_concat, List.length_append, List.length_singleton, ← Nat.add_assoc, ← numbered]
      exact keeps.step reads (lists frame (by simp))

end Projector

end ObjectQuery
