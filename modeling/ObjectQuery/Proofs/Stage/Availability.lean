import ObjectQuery.Proofs.Stage.Reading
import ObjectQuery.Proofs.Stage.Visits

/-!
# When a property function is called

A dependency is available if its value is valid and, where it looks back, the track has been visited on
each frame of the window with a valid value. `called_iff_available` says that a projector calls its
function exactly where all dependencies but the property itself are available, and that it hands on the
values of these visits, so that no window bridges a frame on which the track was not visited.
-/

namespace ObjectQuery

/-- A value for each of some dependencies is found under the name of the dependency. -/
theorem Keyed.find?_map_name {β : Type} {dependencies : List Dependency} (value : Dependency → β)
    (distinct : (dependencies.map Dependency.name).Nodup) {dependency : Dependency}
    (member : dependency ∈ dependencies) :
    Keyed.find? (dependencies.map fun dependency => (dependency.name, value dependency))
      dependency.name = some (value dependency) := by
  induction dependencies with
  | nil => exact absurd member List.not_mem_nil
  | cons first rest inductionHypothesis =>
      obtain ⟨absent, distinct⟩ := List.nodup_cons.mp distinct
      rw [List.map_cons, Keyed.find?]
      rcases List.mem_cons.mp member with rfl | later
      · exact if_pos rfl
      · have apart : first.name ≠ dependency.name := fun same =>
          absent (same ▸ List.mem_map_of_mem later)
        rw [if_neg apart]
        exact inductionHypothesis distinct later

namespace Projector

variable {start now projector : Projector} {frame : Frame} {frames : List Frame}
  {positions : List Nat} {track position : Nat} {record : ObjectRecord} {dependency : Dependency}

/-! ## Windows of visits -/

/-- The values of a dependency on the visits of its window, oldest first. -/
def pastValues (projector : Projector) (frames : List Frame) (track : Nat) (frame : Frame)
    (dependency : Dependency) : List Value :=
  (List.range' (frame.id - dependency.window) dependency.window).map fun id =>
    (projector.observed? frames track dependency.name id).getD .invalid

/-- Whether a dependency is there, with all that it looks back on. -/
def available (projector : Projector) (frames : List Frame) (track : Nat) (frame : Frame)
    (position : Nat) (record : ObjectRecord) (dependency : Dependency) : Bool :=
  !(projector.currentValue frame position record dependency.name).isInvalid &&
    decide (dependency.window ≤ frame.id) &&
      (List.range' (frame.id - dependency.window) dependency.window).all fun id =>
        (projector.observed? frames track dependency.name id).any fun value => !value.isInvalid

/-- What is handed on of a dependency that is there. -/
def handed (projector : Projector) (frames : List Frame) (track : Nat) (frame : Frame)
    (position : Nat) (record : ObjectRecord) (dependency : Dependency) : PropertyInput :=
  let current := projector.currentValue frame position record dependency.name
  if dependency.window = 0 then .current current
  else .window (projector.pastValues frames track frame dependency ++ [current])

theorem isSome_visit?_iff (name : String) {id : Nat} :
    (projector.visit? frames track id).isSome ↔ (projector.observed? frames track name id).isSome := by
  unfold observed?
  rw [Option.isSome_map]

theorem observed_of_mem {name : String} {id : Nat} {value : Value}
    (observed : (projector.observed? frames track name id).getD .invalid = value)
    (valid : value.isInvalid = false) :
    projector.observed? frames track name id = some value := by
  cases found : projector.observed? frames track name id with
  | none =>
      rw [found] at observed
      rw [← observed] at valid
      exact absurd valid (by decide)
  | some other =>
      rw [found] at observed
      exact congrArg some observed

namespace Remembers

variable (remembers : start.Remembers now frames) (fits : start.Fits)
  (ahead : ∀ earlier ∈ frames, earlier.id < frame.id)

include remembers in
theorem past?_of_rows (member : dependency ∈ start.property.windowed)
    (other : dependency.name ≠ start.property.name) (short : dependency.window ≤ frame.id)
    (rows : ∀ id, frame.id - dependency.window ≤ id → id < frame.id →
      ∃ row ∈ now.history.rowsOf track, row.frame = id) :
    now.past? frame (some track) dependency =
      some (start.pastValues frames track frame dependency) := by
  rw [past?_eq]
  refine History.window?_eq_map (remembers.ascending track) short fun id lower upper => ?_
  obtain ⟨row, listed, same⟩ := rows id lower upper
  refine ⟨row, listed, same, ?_⟩
  rw [remembers.shape.columns, remembers.values track row listed dependency member other, same]

include remembers in
/-- A window that is there has the values of the visits. -/
theorem past?_eq_some (member : dependency ∈ start.property.windowed)
    (other : dependency.name ≠ start.property.name) {values : List Value}
    (found : now.past? frame (some track) dependency = some values) :
    dependency.window ≤ frame.id ∧ values = start.pastValues frames track frame dependency := by
  have rows := found
  rw [past?_eq] at rows
  obtain ⟨short, rows⟩ := History.exists_row_of_window? (remembers.ascending track) rows
  have same := remembers.past?_of_rows member other short rows
  exact ⟨short, Option.some.inj (found.symm.trans same)⟩

include remembers fits ahead in
/-- A window of visits is there. -/
theorem past?_of_visits (member : dependency ∈ start.property.windowed)
    (other : dependency.name ≠ start.property.name) (short : dependency.window ≤ frame.id)
    (visited : ∀ id, frame.id - dependency.window ≤ id → id < frame.id →
      (start.visit? frames track id).isSome) :
    now.past? frame (some track) dependency =
      some (start.pastValues frames track frame dependency) := by
  refine remembers.past?_of_rows member other short fun id lower upper => ?_
  have reach := fits.reach dependency (List.mem_filter.mp member).1
  exact remembers.complete (List.ne_nil_of_mem member) track id frame.id ahead upper (by omega)
    fun past after before => visited past (by omega) before

include remembers fits ahead in
/-- What is read of another name is there exactly if it is available. -/
theorem isAvailable_read_eq (named : record.trackId? = some track)
    (member : dependency ∈ start.property.dependencies)
    (other : dependency.name ≠ start.property.name) :
    (now.read frame position record dependency).isAvailable =
      start.available frames track frame position record dependency := by
  rw [Bool.eq_iff_iff, isAvailable_read remembers.toAlike other, named]
  unfold available
  rw [Bool.and_eq_true, Bool.and_eq_true, Bool.not_eq_true', decide_eq_true_iff]
  by_cases current : dependency.window = 0
  · simp [current]
  have positive := Nat.pos_of_ne_zero current
  have windowed : dependency ∈ start.property.windowed :=
    List.mem_filter.mpr ⟨member, decide_eq_true positive⟩
  constructor
  · rintro ⟨valid, past⟩
    obtain ⟨values, found, validPast⟩ := past positive
    obtain ⟨short, rfl⟩ := remembers.past?_eq_some windowed other found
    refine ⟨⟨valid, short⟩, List.all_eq_true.mpr fun id inside => ?_⟩
    have here := eq_false_of_ne_true (List.any_eq_false.mp validPast _
      (List.mem_map.mpr ⟨id, inside, rfl⟩))
    rw [observed_of_mem rfl here, Option.any_some, here]
    rfl
  · rintro ⟨⟨valid, short⟩, past⟩
    have seen (id : Nat) (inside : id ∈ List.range' (frame.id - dependency.window)
        dependency.window) :
        ∃ value, start.observed? frames track dependency.name id = some value ∧
          value.isInvalid = false := by
      have here := List.all_eq_true.mp past id inside
      cases found : start.observed? frames track dependency.name id with
      | none =>
          rw [found] at here
          exact absurd here (by simp)
      | some value =>
          rw [found, Option.any_some, Bool.not_eq_true'] at here
          exact ⟨value, rfl, here⟩
    refine ⟨valid, fun _ => ⟨_, remembers.past?_of_visits fits ahead windowed other short
      fun id lower upper => ?_, ?_⟩⟩
    · obtain ⟨value, found, _⟩ := seen id (List.mem_range'_1.mpr ⟨lower, by omega⟩)
      exact (isSome_visit?_iff dependency.name).mpr (found ▸ rfl)
    · refine List.any_eq_false.mpr fun value listed => ?_
      obtain ⟨id, inside, rfl⟩ := List.mem_map.mp listed
      obtain ⟨value, found, validThere⟩ := seen id inside
      rw [found, Option.getD_some, validThere]
      exact Bool.false_ne_true

include remembers fits ahead in
theorem input_read_eq (named : record.trackId? = some track)
    (member : dependency ∈ start.property.dependencies)
    (other : dependency.name ≠ start.property.name)
    (available : start.available frames track frame position record dependency = true) :
    (now.read frame position record dependency).input =
      some (start.handed frames track frame position record dependency) := by
  have there := (remembers.isAvailable_read_eq fits ahead named member other).trans available
  have past := ((isAvailable_read remembers.toAlike other).mp there).2
  have apart : dependency.name ≠ now.property.name := by rwa [remembers.property]
  unfold read readOther handed
  rw [if_neg apart, remembers.currentValue_eq, named]
  by_cases current : dependency.window = 0
  · simp [current]
  · have positive := Nat.pos_of_ne_zero current
    obtain ⟨values, found, valid⟩ := past positive
    rw [named] at found
    have windowed : dependency ∈ start.property.windowed :=
      List.mem_filter.mpr ⟨member, decide_eq_true positive⟩
    obtain ⟨_, rfl⟩ := remembers.past?_eq_some windowed other found
    simp [current, found, valid, -List.any_eq_false]

end Remembers

/-! ## The call -/

/-- The property itself is always there, unless its default is not valid. -/
theorem isAvailable_read_own (valid : now.property.default.isInvalid = false)
    (own : dependency.name = now.property.name) :
    (now.read frame position record dependency).isAvailable = true ∧
      (now.read frame position record dependency).input.isSome = true := by
  unfold read readOwn
  rw [if_pos own]
  by_cases current : dependency.window = 0
  · simp [current, valid]
  · simp [current]

namespace Remembers

variable (remembers : start.Remembers now frames) (fits : start.Fits)
  (ahead : ∀ earlier ∈ frames, earlier.id < frame.id)

include remembers fits ahead in
theorem isCalled_iff (valid : start.property.default.isInvalid = false)
    (named : record.trackId? = some track) :
    (now.evaluate frame position record).isCalled = true ↔
      ∀ dependency ∈ start.property.dependencies, dependency.name ≠ start.property.name →
        start.available frames track frame position record dependency = true := by
  have read : (now.evaluate frame position record).isCalled =
      (now.readings frame position record).all Reading.isAvailable := rfl
  rw [read, readings, remembers.property, List.all_map, List.all_eq_true]
  constructor
  · intro all dependency member other
    rw [← remembers.isAvailable_read_eq fits ahead named member other]
    exact all dependency member
  · intro all dependency member
    by_cases own : dependency.name = start.property.name
    · rw [← remembers.property] at own valid
      exact (isAvailable_read_own valid own).1
    · exact (remembers.isAvailable_read_eq fits ahead named member own).trans
        (all dependency member own)

include remembers fits ahead in
/-- A function that is called is handed what has been read. -/
theorem input?_eq_read (valid : start.property.default.isInvalid = false)
    (named : record.trackId? = some track)
    (called : (now.evaluate frame position record).isCalled = true)
    (member : dependency ∈ start.property.dependencies) :
    (now.evaluate frame position record).inputs.input? dependency.name =
      (now.read frame position record dependency).input := by
  have available := (remembers.isCalled_iff fits ahead valid named).mp called
  let input (dependency : Dependency) : PropertyInput :=
    ((now.read frame position record dependency).input).getD (.current .invalid)
  have inputs (dependency : Dependency) (member : dependency ∈ start.property.dependencies) :
      (now.read frame position record dependency).input = some (input dependency) := by
    have some : (now.read frame position record dependency).input.isSome = true := by
      by_cases own : dependency.name = start.property.name
      · rw [← remembers.property] at own valid
        exact (isAvailable_read_own valid own).2
      · rw [remembers.input_read_eq fits ahead named member own (available dependency member own)]
        rfl
    obtain ⟨value, found⟩ := Option.isSome_iff_exists.mp some
    simp only [input, found, Option.getD_some]
  have whole := inputsOf_eq fits.distinct (name_read now frame position record) inputs
    (frame.recordsOf now.className)
  have evaluated : (now.evaluate frame position record).inputs =
      inputsOf (frame.recordsOf now.className)
        (start.property.dependencies.map (now.read frame position record)) := by
    rw [← remembers.property]
    rfl
  rw [evaluated, whole]
  change Keyed.find? _ dependency.name = _
  rw [Keyed.find?_map_name _ fits.distinct member]
  exact (inputs dependency member).symm

include remembers fits ahead in
/-- A function that is called is handed the values of the visits. -/
theorem input?_of_isCalled (valid : start.property.default.isInvalid = false)
    (named : record.trackId? = some track)
    (called : (now.evaluate frame position record).isCalled = true)
    (member : dependency ∈ start.property.dependencies)
    (other : dependency.name ≠ start.property.name) :
    (now.evaluate frame position record).inputs.input? dependency.name =
      some (start.handed frames track frame position record dependency) := by
  have available := (remembers.isCalled_iff fits ahead valid named).mp called
  rw [remembers.input?_eq_read fits ahead valid named called member]
  exact remembers.input_read_eq fits ahead named member other (available dependency member other)

end Remembers

/-! ## The result -/

theorem sublist_firstOfTracks (isStateful : Bool) (seen : List Nat)
    (items : List (Nat × ObjectRecord)) :
    (firstOfTracks isStateful seen items).Sublist items := by
  induction items generalizing seen with
  | nil => exact List.Sublist.refl []
  | cons item rest inductionHypothesis =>
      obtain ⟨position, record⟩ := item
      unfold firstOfTracks
      split
      · split
        · exact (inductionHypothesis seen).cons _
        · exact (inductionHypothesis seen).cons_cons _
      · split
        · exact (inductionHypothesis seen).cons _
        · exact (inductionHypothesis _).cons_cons _

theorem eq_evaluate_of_mem {evaluation : Evaluation}
    (member : evaluation ∈ projector.evaluations frame positions) :
    ∃ record, (frame.recordsOf projector.className)[evaluation.position]? = some record ∧
      evaluation = projector.evaluate frame evaluation.position record := by
  obtain ⟨⟨position, record⟩, listed, rfl⟩ := List.mem_map.mp member
  have here := (mem_listed.mp ((sublist_firstOfTracks ..).subset listed)).2
  exact ⟨record, here, rfl⟩

/-- The first listed object of a track is evaluated, and the track is not evaluated again. -/
theorem exists_evaluations_eq (first : projector.firstOf? frame track = some (position, record))
    (found : frame.positions? projector.index projector.className = some positions) :
    ∃ front back, projector.evaluations frame positions =
        front ++ projector.evaluate frame position record :: back ∧
      ∀ other ∈ front ++ back, other.trackId ≠ some track := by
  have evaluated := find?_evaluations found track
  rw [first, Option.map_some] at evaluated
  obtain ⟨front, back, whole⟩ := List.append_of_mem (List.mem_of_find?_eq_some evaluated)
  have named := List.find?_some (p := fun evaluation : Evaluation =>
    decide (evaluation.trackId = some track)) evaluated
  have distinct := nodup_evaluated_tracks projector frame positions
  rw [whole, List.filterMap_append, List.filterMap_cons, of_decide_eq_true named] at distinct
  obtain ⟨_, later, apart⟩ := List.nodup_append.mp distinct
  refine ⟨front, back, whole, fun other member same => ?_⟩
  rcases List.mem_append.mp member with early | late
  · exact apart track (List.mem_filterMap.mpr ⟨other, early, same⟩) track List.mem_cons_self rfl
  · exact (List.nodup_cons.mp later).1 (List.mem_filterMap.mpr ⟨other, late, same⟩)

/-- The result is written onto the object that was evaluated. -/
theorem getElem?_written_first
    (first : projector.firstOf? frame track = some (position, record))
    (found : frame.positions? projector.index projector.className = some positions) :
    ((projector.written frame (projector.evaluations frame positions)).recordsOf
      projector.className)[position]? =
        some (record.insert projector.property.name
          (projector.evaluate frame position record).value) := by
  obtain ⟨_, _, _, here, named⟩ := firstOf?_eq_some first
  obtain ⟨front, back, whole, others⟩ := exists_evaluations_eq first found
  -- another evaluation in the same place would be one of the same track
  have absent (part : List Evaluation) (inside : ∀ other ∈ part, other ∈ front ++ back) :
      position ∉ part.map Evaluation.position := by
    intro again
    obtain ⟨other, member, same⟩ := List.mem_map.mp again
    have listed : other ∈ projector.evaluations frame positions := by
      rw [whole]
      rcases List.mem_append.mp (inside other member) with early | late
      · exact List.mem_append_left _ early
      · exact List.mem_append_right _ (List.mem_cons_of_mem _ late)
    obtain ⟨otherRecord, otherHere, evaluated⟩ := eq_evaluate_of_mem listed
    rw [same] at otherHere evaluated
    obtain rfl := Option.some.inj (here.symm.trans otherHere)
    exact others other (inside other member) (evaluated ▸ named)
  have early := absent front fun other member => List.mem_append_left _ member
  have late := absent back fun other member => List.mem_append_right _ member
  let change (evaluation : Evaluation) (record : ObjectRecord) : ObjectRecord :=
    record.insert projector.property.name evaluation.value
  unfold written
  cases records : frame.records.find? projector.className with
  | none =>
      rw [Frame.recordsOf, records, Option.getD_none] at here
      exact absurd here (by simp)
  | some items =>
      have present : frame.recordsOf projector.className = items := by
        simp [Frame.recordsOf, records]
      rw [present] at here
      simp only [Frame.recordsOf_setRecords, if_true]
      rw [whole, List.foldl_append, List.foldl_cons,
        getElem?_foldl_modify_of_not_mem Evaluation.position change late, List.getElem?_modify,
        getElem?_foldl_modify_of_not_mem Evaluation.position change early, here]
      simp [evaluate]

/-- What becomes of the first listed object of a track on a frame. -/
structure Evaluates (start : Projector) (frames : List Frame) (frame : Frame) (track position : Nat)
    (record : ObjectRecord) (projection : Projection) (evaluation : Evaluation) : Prop where
  /-- The track is evaluated once. -/
  once : (projection.evaluations.filter fun other => other.trackId = some track) = [evaluation]
  written : (projection.frame.recordsOf start.className)[position]? =
    some (record.insert start.property.name evaluation.value)
  called : evaluation.isCalled = true ↔
    ∀ dependency ∈ start.property.dependencies, dependency.name ≠ start.property.name →
      start.available frames track frame position record dependency = true
  result : evaluation.isCalled = true →
    evaluation.value = start.property.compute evaluation.inputs
  handed : evaluation.isCalled = true → ∀ dependency ∈ start.property.dependencies,
    dependency.name ≠ start.property.name → evaluation.inputs.input? dependency.name =
      some (start.handed frames track frame position record dependency)
  /-- Windows do not bridge a frame on which the track is not visited. -/
  unbroken : evaluation.isCalled = true → ∀ dependency ∈ start.property.dependencies,
    dependency.name ≠ start.property.name →
      ∀ id, frame.id - dependency.window ≤ id → id < frame.id →
        (start.visit? frames track id).isSome
  refused : evaluation.isCalled = false → start.property.isSelfDependent = false →
    evaluation.value = .invalid

theorem visited_of_available {id : Nat}
    (there : start.available frames track frame position record dependency = true)
    (lower : frame.id - dependency.window ≤ id) (upper : id < frame.id) :
    (start.visit? frames track id).isSome := by
  unfold available at there
  obtain ⟨_, past⟩ := Bool.and_eq_true_iff.mp there
  have seen := List.all_eq_true.mp past id (List.mem_range'_1.mpr ⟨lower, by omega⟩)
  refine (isSome_visit?_iff dependency.name).mpr ?_
  cases found : start.observed? frames track dependency.name id with
  | none =>
      rw [found] at seen
      exact absurd seen (by simp)
  | some value => rfl

theorem Remembers.evaluates_first (remembers : start.Remembers now frames) (fits : start.Fits)
    (ahead : ∀ earlier ∈ frames, earlier.id < frame.id)
    (valid : start.property.default.isInvalid = false)
    (first : start.firstOf? frame track = some (position, record)) :
    ∃ projection, now.apply frame = .ok projection ∧
      start.Evaluates frames frame track position record projection
        (now.evaluate frame position record) := by
  rw [← remembers.firstOf?_eq] at first
  obtain ⟨positions, found, _, _, named⟩ := firstOf?_eq_some first
  have called : (now.evaluate frame position record).isCalled = true ↔ _ :=
    remembers.isCalled_iff fits ahead valid named
  obtain ⟨front, back, whole, others⟩ := exists_evaluations_eq first found
  have written := getElem?_written_first first found
  rw [remembers.className, remembers.property] at written
  refine ⟨_, by unfold apply; rw [found], ?_⟩
  refine ⟨?_, written, called, fun isCalled => ?_, fun isCalled => ?_, fun isCalled => ?_,
    fun refused plain => ?_⟩
  · have early : front.filter (fun other => other.trackId = some track) = [] :=
      List.filter_eq_nil_iff.mpr fun other member => by
        simpa using others other (List.mem_append_left _ member)
    have late : back.filter (fun other => other.trackId = some track) = [] :=
      List.filter_eq_nil_iff.mpr fun other member => by
        simpa using others other (List.mem_append_right _ member)
    have here : (now.evaluate frame position record).trackId = some track := named
    rw [whole, List.filter_append, early, List.nil_append, List.filter_cons_of_pos (by simpa), late]
  · rw [← remembers.property]
    exact if_pos isCalled
  · intro dependency member other
    exact remembers.input?_of_isCalled fits ahead valid named isCalled member other
  · intro dependency member other id
    exact visited_of_available (called.mp isCalled dependency member other)
  · rw [← remembers.property] at plain
    refine (if_neg (ne_true_of_eq_false refused)).trans ?_
    rw [plain, if_neg Bool.false_ne_true]

theorem Remembers.evaluates (remembers : start.Remembers now frames) (fits : start.Fits)
    (ahead : ∀ earlier ∈ frames, earlier.id < frame.id)
    (valid : start.property.default.isInvalid = false)
    (first : start.firstOf? frame track = some (position, record)) :
    ∃ projection evaluation, now.apply frame = .ok projection ∧
      start.Evaluates frames frame track position record projection evaluation := by
  obtain ⟨projection, applied, evaluates⟩ := remembers.evaluates_first fits ahead valid first
  exact ⟨projection, _, applied, evaluates⟩

end Projector

/-! ## A walker seen twice -/

namespace Walker

/-- Whether somebody has been seen on the frame before. -/
def spec (name : String) : ProjectionSpec where
  property := .declare name [⟨Field.box, 1⟩] fun _ => .bool true
  className := "person"
  index := 0
  historyLength := 1
  selfDependent := false

def record (frame : Nat) : ObjectRecord :=
  (ObjectRecord.ofDetection ⟨⟨9 + .ofNat frame, 100, 49 + .ofNat frame, 200⟩, 1, 0⟩).setTrackId 7

def frame (id : Nat) : Frame where
  id := id
  picture := none
  metadata := ⟨10, 640, 480, 2⟩
  records := [("person", [record id])]
  listed := [(0, [("person", [0])])]
  lost := []

end Walker

namespace Projector

/-- The function of a projector is called for the first listed object of a track exactly if all
dependencies but the property itself are available, and it is handed the values of the visits. -/
theorem called_iff_available
    {spec : ProjectionSpec} {frames : List Frame} {frame : Frame} {track position : Nat}
    {record : ObjectRecord} (distinct : (spec.property.dependencies.map Dependency.name).Nodup)
    (valid : spec.property.default.isInvalid = false)
    (own : spec.property.name ≠ Field.trackId)
    (ascending : ((frames ++ [frame]).map Frame.id).Pairwise (· < ·))
    (first : (ofSpec spec).firstOf? frame track = some (position, record)) :
    ∃ projection evaluation, ((ofSpec spec).after frames).apply frame = .ok projection ∧
      (ofSpec spec).Evaluates frames frame track position record projection evaluation := by
  have fits : (ofSpec spec).Fits := by
    refine ⟨rfl, fun dependency member => ?_, distinct, own⟩
    exact (Property.window_le_maxWindow member).trans (Nat.le_max_right ..)
  rw [List.map_append] at ascending
  obtain ⟨earlier, _, ahead⟩ := List.pairwise_append.mp ascending
  refine (remembers_after fits rfl earlier).evaluates fits (fun other member => ?_) valid first
  exact ahead other.id (List.mem_map_of_mem member) frame.id (by simp)

open Walker in
/-- On the second frame the first one is looked back on. -/
theorem called_iff_available_walker :
    (ofSpec (spec "moved")).firstOf? (frame 2) 7 = some (0, record 2) ∧
      ∃ projection evaluation,
        ((ofSpec (spec "moved")).after [frame 1]).apply (frame 2) = .ok projection ∧
          (ofSpec (spec "moved")).Evaluates [frame 1] (frame 2) 7 0 (record 2) projection
            evaluation ∧ evaluation.isCalled = true := by
  have first : (ofSpec (spec "moved")).firstOf? (frame 2) 7 = some (0, record 2) := rfl
  obtain ⟨projection, evaluation, applied, evaluates⟩ :=
    @called_iff_available (spec "moved") [frame 1] _ _ _ _ (by decide) (by decide) (by decide)
      (by decide) first
  have called := evaluates.called.mpr (by decide)
  exact ⟨first, projection, evaluation, applied, evaluates, called⟩

open Walker in
/-- A property by the name of the track is not called, although what it depends on is available: its
own result has taken the track away from the objects. -/
theorem available_not_called :
    (spec Field.trackId).property.default.isInvalid = false ∧
      (ofSpec (spec Field.trackId)).firstOf? (frame 2) 7 = some (0, record 2) ∧
        (∀ dependency ∈ (spec Field.trackId).property.dependencies,
          (ofSpec (spec Field.trackId)).available [frame 1] 7 (frame 2) 0 (record 2) dependency =
            true) ∧
          ∃ projection,
            ((ofSpec (spec Field.trackId)).after [frame 1]).apply (frame 2) = .ok projection ∧
              projection.evaluations.map Evaluation.isCalled = [false] :=
  ⟨by decide, rfl, by decide, _, rfl, by decide⟩

end Projector

end ObjectQuery
