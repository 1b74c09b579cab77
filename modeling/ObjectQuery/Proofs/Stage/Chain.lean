import ObjectQuery.Proofs.Plan.Dependency
import ObjectQuery.Proofs.Stage.Projector
import ObjectQuery.Stage.Pipeline

/-!
# Projectors one after another

What one projector writes no later one changes, if the properties have different names and each comes
after those it reads. Then everything a projector has done can be told from the frame at the end:
`Completed` says that each result is the evaluation on that frame, and `applyAll_projectors` that projectors
in a row leave it so.
-/

namespace ObjectQuery

/-- The function of a property does not look at the other objects. -/
def Property.IgnoresSnapshot (property : Property) : Prop :=
  ∀ (inputs : PropertyInputs) (snapshot : List ObjectRecord),
    property.compute { inputs with snapshot := snapshot } = property.compute inputs

/-! ## Frames on which fields have been written -/

/-- The object of a track, with its position. -/
def Frame.recordOf? (frame : Frame) (className : String) (track : Nat) :
    Option (Nat × ObjectRecord) :=
  ((frame.recordsOf className).zipIdx.find? fun entry => entry.1.trackId? = some track).map
    Prod.swap

theorem Frame.recordOf?_eq_some
    {frame : Frame} {className : String} (distinct : DistinctTracks (frame.recordsOf className))
    {track position : Nat} {record : ObjectRecord} :
    frame.recordOf? className track = some (position, record) ↔
      (frame.recordsOf className)[position]? = some record ∧ record.trackId? = some track := by
  have sound : ∀ {position : Nat} {record : ObjectRecord},
      frame.recordOf? className track = some (position, record) →
        (frame.recordsOf className)[position]? = some record ∧ record.trackId? = some track := by
    intro position record found
    obtain ⟨⟨record', position'⟩, entry, swapped⟩ := Option.map_eq_some_iff.mp found
    obtain ⟨rfl, rfl⟩ := Prod.mk.inj swapped
    have here := List.mem_zipIdx_iff_getElem?.mp (List.mem_of_find?_eq_some entry)
    have named := List.find?_some entry
    exact ⟨by simpa using here, by simpa using named⟩
  refine ⟨sound, fun ⟨here, named⟩ => ?_⟩
  cases found : frame.recordOf? className track with
  | none =>
      have missing := List.find?_eq_none.mp (Option.map_eq_none_iff.mp found) (record, position)
        (List.mem_zipIdx_iff_getElem?.mpr (by simpa using here))
      exact absurd (by simpa using named) missing
  | some item =>
      obtain ⟨other, otherRecord⟩ := item
      obtain ⟨otherHere, otherNamed⟩ := sound found
      have same := distinct other position otherRecord record track otherHere here otherNamed named
      subst same
      rw [Option.some.inj (otherHere.symm.trans here)]

/-- A frame with fields of the given names written onto the objects of a class. -/
structure Frame.Extends (className : String) (names : List String) (before after : Frame) :
    Prop where
  framed : after = { before with records := after.records, listed := after.listed }
  length : (after.recordsOf className).length = (before.recordsOf className).length
  fields : ∀ (position : Nat) (old new : ObjectRecord),
    (before.recordsOf className)[position]? = some old →
      (after.recordsOf className)[position]? = some new →
        ∀ name, name ∉ names → new.get? name = old.get? name

namespace Frame.Extends

variable {className : String} {names others : List String} {before between after : Frame}

theorem refl (frame : Frame) : Extends className [] frame frame where
  framed := rfl
  length := rfl
  fields _ _ _ old new _ _ := by
    rw [Option.some.inj (old.symm.trans new)]

theorem trans
    (first : Extends className names before between)
    (second : Extends className others between after) :
    Extends className (names ++ others) before after where
  framed := by rw [second.framed, first.framed]
  length := second.length.trans first.length
  fields position old new oldHere newHere name absent := by
    rw [List.mem_append, not_or] at absent
    have room : position < (between.recordsOf className).length := by
      rw [← second.length]
      exact (List.getElem?_eq_some_iff.mp newHere).1
    have middle := List.getElem?_eq_getElem room
    rw [second.fields position _ new middle newHere name absent.2,
      first.fields position old _ oldHere middle name absent.1]

/-- Where only these names are written it does not matter which frame comes first. -/
theorem symm (extended : Extends className names before after) :
    Extends className names after before where
  framed := by rw [extended.framed]
  length := extended.length.symm
  fields position old new oldHere newHere name absent :=
    (extended.fields position new old newHere oldHere name absent).symm

theorem exists_old
    (extended : Extends className names before after) {position : Nat} {new : ObjectRecord}
    (here : (after.recordsOf className)[position]? = some new) :
    ∃ old, (before.recordsOf className)[position]? = some old := by
  have room : position < (before.recordsOf className).length := by
    rw [← extended.length]
    exact (List.getElem?_eq_some_iff.mp here).1
  exact ⟨_, List.getElem?_eq_getElem room⟩

theorem exists_new
    (extended : Extends className names before after) {position : Nat} {old : ObjectRecord}
    (here : (before.recordsOf className)[position]? = some old) :
    ∃ new, (after.recordsOf className)[position]? = some new := by
  have room : position < (after.recordsOf className).length := by
    rw [extended.length]
    exact (List.getElem?_eq_some_iff.mp here).1
  exact ⟨_, List.getElem?_eq_getElem room⟩

/-- Names without a fixed meaning leave the tracks of the objects alone. -/
theorem trackId_eq
    (extended : Extends className names before after)
    (free : ∀ name ∈ names, Field.isFixed name = false)
    {position : Nat} {old new : ObjectRecord}
    (oldHere : (before.recordsOf className)[position]? = some old)
    (newHere : (after.recordsOf className)[position]? = some new) :
    new.trackId? = old.trackId? := by
  have absent : Field.trackId ∉ names := fun member =>
    absurd (free Field.trackId member) (by decide)
  unfold ObjectRecord.trackId?
  rw [extended.fields position old new oldHere newHere _ absent]

theorem box_eq
    (extended : Extends className names before after)
    (free : ∀ name ∈ names, Field.isFixed name = false)
    {position : Nat} {old new : ObjectRecord}
    (oldHere : (before.recordsOf className)[position]? = some old)
    (newHere : (after.recordsOf className)[position]? = some new) :
    new.box? = old.box? := by
  have absent : Field.box ∉ names := fun member => absurd (free Field.box member) (by decide)
  unfold ObjectRecord.box?
  rw [extended.fields position old new oldHere newHere _ absent]

theorem trackIds_eq
    (extended : Extends className names before after)
    (free : ∀ name ∈ names, Field.isFixed name = false) :
    (after.recordsOf className).map ObjectRecord.trackId? =
      (before.recordsOf className).map ObjectRecord.trackId? := by
  refine List.ext_getElem? fun position => ?_
  rw [List.getElem?_map, List.getElem?_map]
  cases newHere : (after.recordsOf className)[position]? with
  | none =>
      have beyond := List.getElem?_eq_none_iff.mp newHere
      rw [extended.length] at beyond
      rw [List.getElem?_eq_none beyond]
  | some new =>
      obtain ⟨old, oldHere⟩ := extended.exists_old newHere
      rw [oldHere, Option.map_some, Option.map_some,
        extended.trackId_eq free oldHere newHere]

theorem distinctTracks
    (extended : Extends className names before after)
    (free : ∀ name ∈ names, Field.isFixed name = false)
    (distinct : DistinctTracks (before.recordsOf className)) :
    DistinctTracks (after.recordsOf className) := by
  intro i j first second track firstHere secondHere firstTrack secondTrack
  obtain ⟨oldFirst, oldFirstHere⟩ := extended.exists_old firstHere
  obtain ⟨oldSecond, oldSecondHere⟩ := extended.exists_old secondHere
  refine distinct i j oldFirst oldSecond track oldFirstHere oldSecondHere ?_ ?_
  · rw [← extended.trackId_eq free oldFirstHere firstHere, firstTrack]
  · rw [← extended.trackId_eq free oldSecondHere secondHere, secondTrack]

/-- A track has its object in the same place. -/
theorem recordOf?_of_new
    (extended : Extends className names before after)
    (free : ∀ name ∈ names, Field.isFixed name = false)
    (distinct : DistinctTracks (before.recordsOf className)) {track position : Nat}
    {new : ObjectRecord} (found : after.recordOf? className track = some (position, new)) :
    ∃ old, before.recordOf? className track = some (position, old) := by
  obtain ⟨newHere, named⟩ :=
    (recordOf?_eq_some (extended.distinctTracks free distinct)).mp found
  obtain ⟨old, oldHere⟩ := extended.exists_old newHere
  rw [extended.trackId_eq free oldHere newHere] at named
  exact ⟨old, (recordOf?_eq_some distinct).mpr ⟨oldHere, named⟩⟩

theorem isLive_eq
    (extended : Extends className names before after)
    (free : ∀ name ∈ names, Field.isFixed name = false) (track : Nat) :
    after.isLive className track = before.isLive className track := by
  have same : (after.recordsOf className).filterMap ObjectRecord.trackId? =
      (before.recordsOf className).filterMap ObjectRecord.trackId? := by
    have mapped := congrArg (List.filterMap fun track => track) (extended.trackIds_eq free)
    simpa [List.filterMap_map] using mapped
  have lost : after.lostOf className = before.lostOf className := by
    rw [extended.framed]
    rfl
  unfold Frame.isLive
  rw [same, lost]

end Frame.Extends

namespace Projector

variable {projector : Projector} {before after : Frame}

/-! ## An evaluation on a later state of the frame -/

theorem currentValue_of_written
    (frame : Frame) (position : Nat) {record : ObjectRecord} {name : String} {value : Value}
    (written : record.get? name = some value) :
    projector.currentValue frame position record name = value := by
  unfold currentValue
  rw [written]

/-- The value of a dependency is told from what is written under its name. -/
theorem currentValue_of_get?
    {names : List String} (extended : Frame.Extends projector.className names before after)
    (free : ∀ name ∈ names, Field.isFixed name = false) {position : Nat} {old new : ObjectRecord}
    (oldHere : (before.recordsOf projector.className)[position]? = some old)
    (newHere : (after.recordsOf projector.className)[position]? = some new)
    {name : String} (same : new.get? name = old.get? name) :
    projector.currentValue after position new name =
      projector.currentValue before position old name := by
  unfold currentValue
  rw [same, extended.box_eq free oldHere newHere, extended.framed]
  rfl

/-- The value of a dependency does not depend on what is written under other names. -/
theorem currentValue_congr
    {names : List String} (extended : Frame.Extends projector.className names before after)
    (free : ∀ name ∈ names, Field.isFixed name = false) {position : Nat} {old new : ObjectRecord}
    (oldHere : (before.recordsOf projector.className)[position]? = some old)
    (newHere : (after.recordsOf projector.className)[position]? = some new)
    {name : String} (absent : name ∉ names) :
    projector.currentValue after position new name =
      projector.currentValue before position old name :=
  currentValue_of_get? extended free oldHere newHere
    (extended.fields position old new oldHere newHere name absent)

/-- The arguments with what one reading hands on. -/
def addReading (inputs : PropertyInputs) (reading : Reading) : PropertyInputs :=
  reading.input.elim inputs (inputs.insert reading.name)

theorem inputsOf_eq_foldl (snapshot : List ObjectRecord) (readings : List Reading) :
    inputsOf snapshot readings = readings.foldl addReading (.start snapshot) := by
  unfold inputsOf
  congr 1
  funext inputs reading
  unfold addReading
  cases reading.input <;> rfl

/-- The function sees of the other objects nothing else. -/
theorem inputsOf_snapshot (snapshot other : List ObjectRecord) (readings : List Reading) :
    inputsOf snapshot readings = { inputsOf other readings with snapshot := snapshot } := by
  have folded : ∀ inputs : PropertyInputs,
      readings.foldl addReading { inputs with snapshot := snapshot } =
        { readings.foldl addReading inputs with snapshot := snapshot } := by
    induction readings with
    | nil => exact fun _ => rfl
    | cons reading rest inductionHypothesis =>
        intro inputs
        have step : addReading { inputs with snapshot := snapshot } reading =
            { addReading inputs reading with snapshot := snapshot } := by
          unfold addReading
          cases reading.input <;> rfl
        rw [List.foldl_cons, List.foldl_cons, step, inductionHypothesis]
  rw [inputsOf_eq_foldl, inputsOf_eq_foldl]
  exact folded (.start other)

/-- The result of a property on what has been read. -/
def valueOf (property : Property) (snapshot : List ObjectRecord) (readings : List Reading) : Value :=
  if readings.all Reading.isAvailable then property.compute (inputsOf snapshot readings)
  else if property.isSelfDependent then (readings.findSome? Reading.held).getD property.default
  else .invalid

/-- What is read of an object. -/
def readings (projector : Projector) (frame : Frame) (position : Nat) (record : ObjectRecord) :
    List Reading :=
  projector.property.dependencies.map (projector.read frame position record)

theorem value_evaluate
    (projector : Projector) (frame : Frame) (position : Nat) (record : ObjectRecord) :
    (projector.evaluate frame position record).value =
      valueOf projector.property (frame.recordsOf projector.className)
        (projector.readings frame position record) :=
  rfl

theorem valueOf_snapshot
    {property : Property} (ignores : property.IgnoresSnapshot)
    (snapshot other : List ObjectRecord) (readings : List Reading) :
    valueOf property snapshot readings = valueOf property other readings := by
  unfold valueOf
  rw [inputsOf_snapshot snapshot other, ignores]

/-- The same readings have the same result. -/
theorem evaluate_congr
    {other : Projector} (ignores : projector.property.IgnoresSnapshot)
    (property : other.property = projector.property) {position : Nat} {old new : ObjectRecord}
    (reads : other.readings after position new = projector.readings before position old) :
    (other.evaluate after position new).value = (projector.evaluate before position old).value := by
  rw [value_evaluate, value_evaluate, reads, property]
  exact valueOf_snapshot ignores ..

theorem name_read
    (projector : Projector) (frame : Frame) (position : Nat) (record : ObjectRecord)
    (dependency : Dependency) :
    (projector.read frame position record dependency).name = dependency.name := by
  unfold read readOwn readOther
  split
  · simp only
    split <;> rfl
  · simp only
    split
    · rfl
    · split
      · split <;> rfl
      · rfl

/-- What the history keeps of a dependency that looks back. -/
theorem kept_read
    (projector : Projector) (frame : Frame) (position : Nat) (record : ObjectRecord)
    (dependency : Dependency) :
    (projector.read frame position record dependency).kept =
      if 0 < dependency.window then
        some (if dependency.name = projector.property.name then .invalid
          else projector.currentValue frame position record dependency.name)
      else none := by
  unfold read readOwn readOther
  by_cases own : dependency.name = projector.property.name
  · by_cases current : dependency.window = 0
    · simp [own, current]
    · simp [own, current, Nat.pos_of_ne_zero current]
  · by_cases current : dependency.window = 0
    · simp [own, current]
    · simp only [own, current, if_false, Nat.pos_of_ne_zero current, if_true]
      split
      · split <;> rfl
      · rfl

/-- The columns of the history take the values read for them, the own one the result. -/
theorem row_evaluate
    (projector : Projector) (frame : Frame) (position : Nat) (record : ObjectRecord) :
    (projector.evaluate frame position record).row =
      projector.property.windowed.map fun dependency =>
        if dependency.name = projector.property.name then
          (projector.evaluate frame position record).value
        else projector.currentValue frame position record dependency.name := by
  obtain ⟨value, valueEq⟩ : ∃ value,
      (projector.evaluate frame position record).value = value := ⟨_, rfl⟩
  have row : (projector.evaluate frame position record).row =
      projector.rowOf (projector.readings frame position record)
        (projector.evaluate frame position record).value := rfl
  rw [row, valueEq]
  unfold rowOf readings Property.windowed
  rw [List.filterMap_map, ← List.filterMap_eq_filter, List.map_filterMap]
  refine List.filterMap_congr fun dependency _ => ?_
  rw [Function.comp_apply, kept_read, name_read]
  by_cases looksBack : 0 < dependency.window
  · by_cases own : dependency.name = projector.property.name <;>
      simp [looksBack, own, Option.guard]
  · simp [looksBack, Option.guard]

/-! ## What a projector has done, told from a later state of the frame -/

/-- The row of an object on which the property has been written. -/
def rowOn (projector : Projector) (frame : Frame) (position : Nat) (record : ObjectRecord) :
    List Value :=
  projector.property.windowed.map fun dependency =>
    if dependency.name = projector.property.name then
      (record.get? projector.property.name).getD .invalid
    else projector.currentValue frame position record dependency.name

/-- The row of a track if its object is listed. -/
def rowIn (projector : Projector) (positions : List Nat) (frame : Frame) (track : Nat) :
    Option (List Value) :=
  (frame.recordOf? projector.className track).bind fun item =>
    if positions.contains item.1 then some (projector.rowOn frame item.1 item.2) else none

/-- A projector before and after a frame, and the frame when everything has been written. -/
structure Completed (before after : Projector) (positions : List Nat) (frame : Frame) : Prop where
  kept : after = { before with history := after.history }
  shape : SameShape after.history before.history
  evaluated : before.property.IgnoresSnapshot → ∀ (position : Nat) (record : ObjectRecord),
    (frame.recordsOf before.className)[position]? = some record →
      before.evaluates positions position record →
        record.get? before.property.name = some (before.evaluate frame position record).value
  skipped : ∀ (position : Nat) (record : ObjectRecord),
    (frame.recordsOf before.className)[position]? = some record →
      ¬ before.evaluates positions position record → record.get? before.property.name = none
  rows : ∀ track,
    after.history.rowsOf track =
      before.trackRows frame track (before.rowIn positions frame track)
        (before.history.rowsOf track)

theorem read_congr
    {names : List String} (extended : Frame.Extends projector.className names before after)
    (free : ∀ name ∈ names, Field.isFixed name = false) {position : Nat} {old new : ObjectRecord}
    (oldHere : (before.recordsOf projector.className)[position]? = some old)
    (newHere : (after.recordsOf projector.className)[position]? = some new)
    {dependency : Dependency}
    (absent : dependency.name ≠ projector.property.name → dependency.name ∉ names) :
    projector.read after position new dependency =
      projector.read before position old dependency := by
  have track := extended.trackId_eq free oldHere newHere
  have id : after.id = before.id := by rw [extended.framed]
  unfold read
  by_cases own : dependency.name = projector.property.name
  · rw [if_pos own, if_pos own, track]
    unfold readOwn past?
    rw [id]
  · rw [if_neg own, if_neg own]
    unfold readOther past?
    rw [currentValue_congr extended free oldHere newHere (absent own), track, id]

theorem trackRows_congr
    {names : List String} (extended : Frame.Extends projector.className names before after)
    (free : ∀ name ∈ names, Field.isFixed name = false) (track : Nat) (row : Option (List Value))
    (rows : List HistoryRow) :
    projector.trackRows after track row rows = projector.trackRows before track row rows := by
  have id : after.id = before.id := by rw [extended.framed]
  have lost : after.lostOf projector.className = before.lostOf projector.className := by
    rw [extended.framed]
    rfl
  unfold trackRows carriedRows
  rw [id, lost, extended.isLive_eq free]

theorem length_of_applied
    {after : Projector} {frame written : Frame} {positions : List Nat}
    (applied : projector.Applied after frame written positions) :
    (written.recordsOf projector.className).length =
      (frame.recordsOf projector.className).length := by
  refine Nat.le_antisymm ?_ ?_ <;> refine Nat.le_of_not_lt fun longer => ?_
  · have here := applied.records (frame.recordsOf projector.className).length
    rw [List.getElem?_eq_getElem longer, List.getElem?_eq_none (Nat.le_refl _)] at here
    exact absurd here (by simp)
  · have here := applied.records (written.recordsOf projector.className).length
    rw [List.getElem?_eq_none (Nat.le_refl _), List.getElem?_eq_getElem longer] at here
    exact absurd here (by simp)

theorem extends_of_applied
    {after : Projector} {frame written : Frame} {positions : List Nat}
    (applied : projector.Applied after frame written positions) :
    Frame.Extends projector.className [projector.property.name] frame written where
  framed := by rw [applied.framed]
  length := length_of_applied applied
  fields position old new oldHere newHere name absent := by
    have here := applied.records position
    rw [oldHere, newHere, Option.map_some] at here
    have apart : projector.property.name ≠ name := fun same =>
      absent (List.mem_singleton.mpr same.symm)
    rw [Option.some.inj here]
    split
    · rw [ObjectRecord.get?_insert, if_neg apart]
    · rfl

/-- A projector that has been applied, and the frame after other names have been written. -/
structure Followed (before after : Projector) (frame written final : Frame)
    (positions : List Nat) (others : List String) : Prop where
  listedOnce : positions.Nodup
  distinct : DistinctTracks (frame.recordsOf before.className)
  fresh : ∀ record ∈ frame.recordsOf before.className, record.get? before.property.name = none
  ownFree : Field.isFixed before.property.name = false
  applied : before.Applied after frame written positions
  extended : Frame.Extends before.className others written final
  free : ∀ name ∈ others, Field.isFixed name = false
  own : before.property.name ∉ others
  reads : ∀ dependency ∈ before.property.dependencies, dependency.name ∉ others

section Followed

variable {after : Projector} {frame written final : Frame} {positions : List Nat}
  {others : List String}

theorem Followed.whole
    (followed : projector.Followed after frame written final positions others) :
    Frame.Extends projector.className (projector.property.name :: others) frame final :=
  (extends_of_applied followed.applied).trans followed.extended

theorem Followed.wholeFree
    (followed : projector.Followed after frame written final positions others) :
    ∀ name ∈ projector.property.name :: others, Field.isFixed name = false := by
  intro name member
  rcases List.mem_cons.mp member with rfl | other
  · exact followed.ownFree
  · exact followed.free name other

theorem Followed.apart
    (followed : projector.Followed after frame written final positions others)
    {dependency : Dependency} (member : dependency ∈ projector.property.dependencies)
    (other : dependency.name ≠ projector.property.name) :
    dependency.name ∉ projector.property.name :: others := by
  rw [List.mem_cons, not_or]
  exact ⟨other, followed.reads dependency member⟩

variable {position : Nat} {old new : ObjectRecord}

theorem Followed.evaluates_eq
    (followed : projector.Followed after frame written final positions others)
    (oldHere : (frame.recordsOf projector.className)[position]? = some old)
    (newHere : (final.recordsOf projector.className)[position]? = some new) :
    projector.evaluates positions position new = projector.evaluates positions position old := by
  unfold evaluates isEvaluable
  rw [followed.whole.trackId_eq followed.wholeFree oldHere newHere]

/-- The result is on the object if it was evaluated. -/
theorem Followed.own_eq
    (followed : projector.Followed after frame written final positions others)
    (oldHere : (frame.recordsOf projector.className)[position]? = some old)
    (newHere : (final.recordsOf projector.className)[position]? = some new) :
    new.get? projector.property.name =
      if projector.evaluates positions position new then
        some (projector.evaluate frame position old).value
      else none := by
  obtain ⟨middle, middleHere⟩ := followed.extended.exists_old newHere
  have written := followed.applied.records position
  rw [oldHere, middleHere, Option.map_some, ← followed.evaluates_eq oldHere newHere] at written
  rw [followed.extended.fields position middle new middleHere newHere _ followed.own,
    Option.some.inj written]
  split
  · rw [ObjectRecord.get?_insert, if_pos rfl]
  · exact followed.fresh old (List.mem_of_getElem? oldHere)

theorem Followed.readings_eq
    (followed : projector.Followed after frame written final positions others)
    (oldHere : (frame.recordsOf projector.className)[position]? = some old)
    (newHere : (final.recordsOf projector.className)[position]? = some new) :
    projector.readings final position new = projector.readings frame position old :=
  List.map_congr_left fun _ member =>
    read_congr followed.whole followed.wholeFree oldHere newHere (followed.apart member)

theorem Followed.row_eq
    (followed : projector.Followed after frame written final positions others)
    (oldHere : (frame.recordsOf projector.className)[position]? = some old)
    (newHere : (final.recordsOf projector.className)[position]? = some new)
    (evaluated : projector.evaluates positions position new) :
    (projector.evaluate frame position old).row = projector.rowOn final position new := by
  rw [row_evaluate, rowOn]
  refine List.map_congr_left fun dependency member => ?_
  have own := followed.own_eq oldHere newHere
  rw [if_pos evaluated] at own
  by_cases same : dependency.name = projector.property.name
  · rw [if_pos same, if_pos same, own, Option.getD_some]
  · rw [if_neg same, if_neg same]
    exact (currentValue_congr followed.whole followed.wholeFree oldHere newHere
      (followed.apart (List.mem_filter.mp member).1 same)).symm

theorem Followed.row_of_track
    (followed : projector.Followed after frame written final positions others) (track : Nat) :
    rowFor (projector.evaluations frame positions) track =
      projector.rowIn positions final track := by
  have finalDistinct := followed.whole.distinctTracks followed.wholeFree followed.distinct
  have sound : ∀ evaluation ∈ projector.evaluations frame positions,
      evaluation.trackId = some track →
        projector.rowIn positions final track = some evaluation.row := by
    intro evaluation member named
    rw [evaluations_eq_map followed.listedOnce followed.distinct] at member
    obtain ⟨⟨position, old⟩, inside, rfl⟩ := List.mem_map.mp member
    obtain ⟨oldHere, evaluated⟩ := mem_candidates.mp inside
    obtain ⟨new, newHere⟩ := followed.whole.exists_new oldHere
    have newNamed : new.trackId? = some track := by
      rw [followed.whole.trackId_eq followed.wholeFree oldHere newHere]
      exact named
    have listed : positions.contains position := (Bool.and_eq_true_iff.mp evaluated).1
    rw [← followed.evaluates_eq oldHere newHere] at evaluated
    rw [rowIn, (Frame.recordOf?_eq_some finalDistinct).mpr ⟨newHere, newNamed⟩, Option.bind_some,
      if_pos listed]
    exact congrArg some (followed.row_eq oldHere newHere evaluated).symm
  unfold rowFor
  cases found : (projector.evaluations frame positions).find? fun evaluation =>
      evaluation.trackId = some track with
  | some evaluation =>
      have named : decide (evaluation.trackId = some track) = true := List.find?_some
        (p := fun evaluation : Evaluation => decide (evaluation.trackId = some track)) found
      rw [Option.map_some, sound evaluation (List.mem_of_find?_eq_some found)
        (of_decide_eq_true named)]
  | none =>
      cases present : final.recordOf? projector.className track with
      | none => rw [rowIn, present]; rfl
      | some item =>
          obtain ⟨position, new⟩ := item
          obtain ⟨newHere, newNamed⟩ := (Frame.recordOf?_eq_some finalDistinct).mp present
          obtain ⟨old, oldHere⟩ := followed.whole.exists_old newHere
          have oldNamed : old.trackId? = some track := by
            rw [← followed.whole.trackId_eq followed.wholeFree oldHere newHere]
            exact newNamed
          rw [rowIn, present, Option.bind_some, Option.map_none]
          by_cases listed : positions.contains position
          · have candidate : (position, old) ∈ projector.candidates frame positions := by
              refine mem_candidates.mpr ⟨oldHere, ?_⟩
              simp [evaluates, isEvaluable, oldNamed, List.contains_iff_mem.mp listed]
            have missing := List.find?_eq_none.mp found (projector.evaluate frame position old) (by
              rw [evaluations_eq_map followed.listedOnce followed.distinct]
              exact List.mem_map.mpr ⟨_, candidate, rfl⟩)
            exact absurd (decide_eq_true oldNamed) missing
          · rw [if_neg listed]

/-- What a projector has done can be told from the frame after other names have been written. -/
theorem Followed.completed
    (followed : projector.Followed after frame written final positions others) :
    projector.Completed after positions final where
  kept := followed.applied.kept
  shape := followed.applied.shape
  evaluated ignores position new newHere evaluated := by
    obtain ⟨old, oldHere⟩ := followed.whole.exists_old newHere
    rw [followed.own_eq oldHere newHere, if_pos evaluated,
      evaluate_congr ignores rfl (followed.readings_eq oldHere newHere)]
  skipped position new newHere skipped := by
    obtain ⟨old, oldHere⟩ := followed.whole.exists_old newHere
    rw [followed.own_eq oldHere newHere, if_neg skipped]
  rows track := by
    rw [followed.applied.rows, followed.row_of_track,
      trackRows_congr followed.extended followed.free]

end Followed

end Projector

/-! ## Projectors in a row -/

/-- The properties of projectors. -/
def propertiesOf (projectors : List Projector) : List Property :=
  projectors.map fun projector => projector.property

/-- The names that projectors write. -/
def namesOf (projectors : List Projector) : List String :=
  projectors.map fun projector => projector.property.name

/-- Projectors and a frame that they can be applied to. -/
structure Appliable (className : String) (index : Nat) (positions : List Nat)
    (projectors : List Projector) (frame : Frame) : Prop where
  placed : ∀ projector ∈ projectors, projector.className = className ∧ projector.index = index
  ordered : (propertiesOf projectors).Pairwise Property.Precedes
  free : ∀ name ∈ namesOf projectors, Field.isFixed name = false
  once : ∀ projector ∈ projectors, projector.history.Distinct
  fresh : ∀ name ∈ namesOf projectors, ∀ record ∈ frame.recordsOf className, record.get? name = none
  found : frame.positions? index className = some positions
  listedOnce : positions.Nodup
  distinct : DistinctTracks (frame.recordsOf className)

/-- A projector before and after, as told by every later state of a frame that writes neither its
property nor what it reads. -/
def CompletedFrom (className : String) (positions : List Nat) (frame : Frame)
    (before after : Projector) : Prop :=
  ∀ final others, Frame.Extends className others frame final →
    (∀ name ∈ others, Field.isFixed name = false) → before.property.name ∉ others →
      (∀ dependency ∈ before.property.dependencies, dependency.name ∉ others) →
        before.Completed after positions final

theorem Appliable.tail
    {className : String} {index : Nat} {positions : List Nat} {projector after : Projector}
    {rest : List Projector} {frame written : Frame}
    (appliable : Appliable className index positions (projector :: rest) frame)
    (applied : projector.Applied after frame written positions) :
    Appliable className index positions rest written := by
  obtain ⟨rfl, rfl⟩ := appliable.placed projector List.mem_cons_self
  have extended := Projector.extends_of_applied applied
  have free : ∀ name ∈ [projector.property.name], Field.isFixed name = false := by
    intro name member
    exact appliable.free name (List.mem_singleton.mp member ▸ List.mem_cons_self)
  refine
    { placed := fun other member => appliable.placed other (List.mem_cons_of_mem _ member)
      ordered := (List.pairwise_cons.mp appliable.ordered).2
      free := fun name member => appliable.free name (List.mem_cons_of_mem _ member)
      once := fun other member => appliable.once other (List.mem_cons_of_mem _ member)
      fresh := fun name member record present => ?_
      found := ?_
      listedOnce := appliable.listedOnce
      distinct := extended.distinctTracks free appliable.distinct }
  · obtain ⟨position, newHere⟩ := List.mem_iff_getElem?.mp present
    obtain ⟨old, oldHere⟩ := extended.exists_old newHere
    obtain ⟨other, listed, rfl⟩ := List.mem_map.mp member
    have apart : other.property.name ∉ [projector.property.name] := by
      rw [List.mem_singleton]
      exact Ne.symm ((List.pairwise_cons.mp appliable.ordered).1 other.property
        (List.mem_map_of_mem listed)).1
    rw [extended.fields position old record oldHere newHere _ apart]
    exact appliable.fresh _ (List.mem_cons_of_mem _ member) old (List.mem_of_getElem? oldHere)
  · rw [applied.framed]
    exact appliable.found

theorem applyAll_projectors
    {className : String} {index : Nat} {positions : List Nat} {projectors : List Projector}
    {frame : Frame} (appliable : Appliable className index positions projectors frame)
    (place : Nat) :
    ∃ afters written,
      (∀ rest, ∃ calls,
        Stage.applyAll place (projectors.map Stage.project ++ rest) frame =
          let later := Stage.applyAll (place + projectors.length) rest written
          ⟨afters.map Stage.project ++ later.state, later.frame, calls ++ later.calls⟩) ∧
        written = { frame with records := written.records } ∧
          Frame.Extends className (namesOf projectors) frame written ∧
            List.Forall₂ (CompletedFrom className positions written) projectors afters := by
  induction projectors generalizing frame place with
  | nil =>
      refine ⟨[], frame, fun rest => ⟨[], by simp⟩, rfl, Frame.Extends.refl frame,
        List.Forall₂.nil⟩
  | cons projector rest inductionHypothesis =>
      obtain ⟨rfl, rfl⟩ := appliable.placed projector List.mem_cons_self
      obtain ⟨projection, applyEq, applied⟩ := Projector.apply_eq appliable.listedOnce
        appliable.distinct (appliable.once projector List.mem_cons_self) appliable.found
      obtain ⟨afters, written, later, framed, extended, completed⟩ :=
        inductionHypothesis (appliable.tail applied) (place + 1)
      have ordered := (List.pairwise_cons.mp appliable.ordered).1
      refine ⟨projection.projector :: afters, written, fun stages => ?_, ?_,
        (Projector.extends_of_applied applied).trans extended, ?_⟩
      · obtain ⟨calls, laterEq⟩ := later stages
        refine ⟨Stage.callsOf place projector.property.name frame.id projection.evaluations ++
          calls, ?_⟩
        have shifted : place + 1 + rest.length = place + (projector :: rest).length := by
          rw [List.length_cons]
          omega
        rw [shifted] at laterEq
        simp [Stage.applyAll, Stage.apply, applyEq, laterEq]
      · rw [framed, applied.framed]
      · refine List.Forall₂.cons (fun final others furtherExtended furtherFree own reads => ?_)
          completed
        have apart : ∀ other ∈ rest, projector.property.Precedes other.property :=
          fun other member => ordered other.property (List.mem_map_of_mem member)
        refine Projector.Followed.completed
          { listedOnce := appliable.listedOnce
            distinct := appliable.distinct
            fresh := appliable.fresh _ List.mem_cons_self
            ownFree := appliable.free _ List.mem_cons_self
            applied := applied
            extended := extended.trans furtherExtended
            free := fun name member => ?_
            own := fun member => ?_
            reads := fun dependency listed member => ?_ }
        · rcases List.mem_append.mp member with inRest | further
          · exact appliable.free name (List.mem_cons_of_mem _ inRest)
          · exact furtherFree name further
        · rcases List.mem_append.mp member with inRest | further
          · obtain ⟨other, inside, named⟩ := List.mem_map.mp inRest
            exact (apart other inside).1 named.symm
          · exact own further
        · rcases List.mem_append.mp member with inRest | further
          · obtain ⟨other, inside, named⟩ := List.mem_map.mp inRest
            exact (apart other inside).2 dependency listed named.symm
          · exact reads dependency listed further

end ObjectQuery
