import ObjectQuery.Proofs.Property.Meaning

/-!
# What a projector reads

A dependency is available if its value is valid on the frame and on all frames of its window, and then
the function is handed these values (`read_of_valid`, `valid_of_isAvailable`). Where all dependencies are
available the result is that of the function (`value_of_inputs`).
-/

namespace ObjectQuery

/-! ## Names with a fixed meaning -/

namespace Field

variable {name : String}

theorem isFixed_of_isBuiltin (builtin : isBuiltin name = true) : isFixed name = true := by
  rw [isFixed, builtin, Bool.true_or]

theorem isFixed_of_isSynthetic (synthetic : isSynthetic name = true) : isFixed name = true := by
  rw [isFixed, synthetic, Bool.or_true]

/-- What the frame is asked for is not a field of the object. -/
theorem isSynthetic_of_isBuiltin (builtin : isBuiltin name = true) : isSynthetic name = false := by
  have member : name ∈ Field.builtin := List.contains_iff_mem.mp builtin
  simp only [Field.builtin, List.mem_cons, List.not_mem_nil, or_false] at member
  rcases member with rfl | rfl | rfl | rfl <;> decide

theorem isBuiltin_of_isSynthetic (synthetic : isSynthetic name = true) : isBuiltin name = false := by
  cases builtin : isBuiltin name with
  | false => rfl
  | true => exact absurd synthetic (by simp [isSynthetic_of_isBuiltin builtin])

end Field

namespace Frame

/-- The frame knows nothing under a name that is not synthetic. -/
theorem fact?_eq_none
    {name : String} (own : Field.isSynthetic name = false) (frame : Frame) :
    name ≠ Field.image ∧ frame.fact? name = none := by
  have absent : name ∉ Field.synthetic := by
    intro member
    rw [Field.isSynthetic, List.contains_iff_mem.mpr member] at own
    exact absurd own (by decide)
  unfold Field.synthetic at absent
  rw [List.mem_cons, List.mem_cons, not_or, not_or] at absent
  obtain ⟨image, frameId, names⟩ := absent
  refine ⟨image, ?_⟩
  unfold fact?
  rw [if_neg frameId, ← Option.not_isSome_iff_eq_none, VideoMetadata.isSome_get?]
  exact names

/-- Under a synthetic name other than that of the picture the frame knows something. -/
theorem exists_fact?
    {name : String} (synthetic : Field.isSynthetic name = true) (other : name ≠ Field.image)
    (frame : Frame) :
    ∃ fact, frame.fact? name = some fact ∧ fact.isInvalid = false := by
  have member : name ∈ Field.synthetic := List.contains_iff_mem.mp synthetic
  simp only [Field.synthetic, VideoMetadata.names, List.mem_cons, List.not_mem_nil, or_false]
    at member
  rcases member with rfl | rfl | rfl | rfl | rfl | rfl
  · exact absurd rfl other
  all_goals exact ⟨_, rfl, rfl⟩

end Frame

namespace Projector

variable {start now : Projector} {listing : Frame → List Nat} {earlier : List Frame}
  {frame : Frame} {first position track : Nat} {record : ObjectRecord} {dependency : Dependency}

theorem currentValue_eq_fixedValue
    {projector : Projector} (first : projector.turn = 0) {name : String}
    (absent : Field.isBuiltin name = false → record.get? name = none) :
    projector.currentValue frame position record name =
      fixedValue projector.property.name frame position record name := by
  unfold currentValue fixedValue
  rw [first]
  cases builtin : Field.isBuiltin name with
  | false =>
      rw [absent builtin]
      exact (if_neg Bool.false_ne_true).symm
  | true =>
      obtain ⟨picture, nothing⟩ := frame.fact?_eq_none (Field.isSynthetic_of_isBuiltin builtin)
      rw [if_pos rfl, if_neg picture, nothing]
      cases record.get? name <;> rfl

/-! ## The values of a track -/

theorem sighting?_eq_some
    {frames : List Frame} (counted : CountedFrom first frames) {className : String} {id : Nat} :
    sighting? frames className track id = some (frame, position, record) ↔
      frame ∈ frames ∧ frame.id = id ∧ frame.recordOf? className track = some (position, record) := by
  unfold sighting?
  constructor
  · intro found
    obtain ⟨frame', here, placed⟩ := Option.bind_eq_some_iff.mp found
    obtain ⟨place, recorded, same⟩ := Option.map_eq_some_iff.mp placed
    obtain ⟨rfl, rfl⟩ := Prod.mk.inj same
    have named := List.find?_some (p := fun frame : Frame => decide (frame.id = id)) here
    exact ⟨List.mem_of_find?_eq_some here, of_decide_eq_true named, recorded⟩
  · rintro ⟨member, rfl, recorded⟩
    cases found : frames.find? fun other => other.id = frame.id with
    | none =>
        have missing := List.find?_eq_none.mp found frame member
        exact absurd (decide_eq_true rfl) missing
    | some other =>
        have named := List.find?_some (p := fun other : Frame => decide (other.id = frame.id)) found
        obtain rfl := counted.eq_of_id_eq (List.mem_of_find?_eq_some found) member
          (of_decide_eq_true named)
        rw [Option.bind_some, recorded, Option.map_some]

/-- What a projector knows of a track under a name on the frame of a number. -/
def valueAt (projector : Projector) (frames : List Frame) (track : Nat) (name : String)
    (id : Nat) : Value :=
  match sighting? frames projector.className track id with
  | some (frame, position, record) => projector.currentValue frame position record name
  | none => .invalid

theorem valueAt_eq
    {projector : Projector} {frames : List Frame} (counted : CountedFrom first frames)
    (member : frame ∈ frames)
    (recorded : frame.recordOf? projector.className track = some (position, record))
    (name : String) :
    projector.valueAt frames track name frame.id =
      projector.currentValue frame position record name := by
  unfold valueAt
  rw [(sighting?_eq_some counted).mpr ⟨member, rfl, recorded⟩]

/-! ## One dependency -/

/-- What is read under another name if the values are there and valid. -/
theorem read_of_valid
    (plain : start.IsPlain) (recalls : start.Recalls now listing earlier)
    (counted : CountedFrom first (earlier ++ [frame])) (named : record.trackId? = some track)
    (member : dependency ∈ start.property.dependencies)
    (other : dependency.name ≠ start.property.name) {value : Nat → Value}
    (long : dependency.window ≤ earlier.length)
    (past : ∀ before ∈ earlier, frame.id ≤ before.id + dependency.window →
      ∃ position record, before.recordOf? start.className track = some (position, record) ∧
        position ∈ listing before ∧
          start.currentValue before position record dependency.name = value before.id ∧
            (value before.id).isInvalid = false)
    (current : start.currentValue frame position record dependency.name = value frame.id)
    (valid : (value frame.id).isInvalid = false) :
    (now.read frame position record dependency).isAvailable = true ∧
      (now.read frame position record dependency).input =
        some (dependency.inputAt value frame.id) := by
  have apart : dependency.name ≠ now.property.name := by rwa [recalls.property]
  unfold read
  rw [if_neg apart]
  unfold readOther Dependency.inputAt
  rw [recalls.currentValue_eq, current]
  by_cases short : dependency.window = 0
  · simp [short, valid]
  · obtain ⟨countedBefore, numbered⟩ := countedFrom_concat.mp counted
    have windowed : dependency ∈ start.property.windowed :=
      List.mem_filter.mpr ⟨member, decide_eq_true (Nat.pos_of_ne_zero short)⟩
    have found := past_eq_some plain recalls counted windowed long fun before inside near => by
      obtain ⟨position, record, recorded, listed, same, _⟩ := past before inside near
      exact ⟨position, record, recorded, listed, same⟩
    have validPast : (((List.range' (frame.id - dependency.window) dependency.window).map
        value).any Value.isInvalid) = false := by
      refine List.any_eq_false.mpr fun item inItems => ?_
      obtain ⟨id, inside, rfl⟩ := List.mem_map.mp inItems
      obtain ⟨lower, upper⟩ := List.mem_range'_1.mp inside
      obtain ⟨before, inEarlier, rfl⟩ : ∃ before ∈ earlier, before.id = id :=
        countedBefore.exists_frame (by omega) (by omega)
      obtain ⟨_, _, _, _, _, validThere⟩ := past before inEarlier (by omega)
      simp [validThere]
    have whole : List.range' (frame.id - dependency.window) (dependency.window + 1) =
        List.range' (frame.id - dependency.window) dependency.window ++ [frame.id] := by
      rw [List.range'_1_concat]
      congr 2
      omega
    rw [named, found, if_neg short, if_neg short]
    simp only [validPast, whole, Bool.false_eq_true, if_false]
    exact ⟨by rw [valid]; rfl, by rw [List.map_append]; rfl⟩

/-- Another name is available if its value is valid and, where it looks back, the past values are there
and valid. -/
theorem isAvailable_read
    (alike : start.Alike now) (other : dependency.name ≠ start.property.name) :
    (now.read frame position record dependency).isAvailable = true ↔
      (start.currentValue frame position record dependency.name).isInvalid = false ∧
        (0 < dependency.window → ∃ values,
          now.past? frame record.trackId? dependency = some values ∧
            values.any Value.isInvalid = false) := by
  have apart : dependency.name ≠ now.property.name := by rwa [alike.property]
  unfold read
  rw [if_neg apart]
  unfold readOther
  rw [alike.currentValue_eq]
  by_cases short : dependency.window = 0
  · simp [short]
  · simp only [short, if_false, Nat.pos_of_ne_zero short, true_implies]
    cases found : now.past? frame record.trackId? dependency with
    | none => simp
    | some values =>
        cases valid : values.any Value.isInvalid <;>
          simp [valid, -List.any_eq_true, -List.any_eq_false]

/-- What is read under another name is available only if the values are there and valid. -/
theorem valid_of_isAvailable
    (plain : start.IsPlain) (recalls : start.Recalls now listing earlier)
    (counted : CountedFrom first (earlier ++ [frame])) (named : record.trackId? = some track)
    (member : dependency ∈ start.property.dependencies)
    (other : dependency.name ≠ start.property.name)
    (available : (now.read frame position record dependency).isAvailable = true) :
    dependency.window ≤ earlier.length ∧
      (∀ before ∈ earlier, frame.id ≤ before.id + dependency.window →
        ∃ position record, before.recordOf? start.className track = some (position, record) ∧
          position ∈ listing before ∧
            (start.currentValue before position record dependency.name).isInvalid = false) ∧
        (start.currentValue frame position record dependency.name).isInvalid = false := by
  obtain ⟨countedBefore, numbered⟩ := countedFrom_concat.mp counted
  obtain ⟨valid, past⟩ := (isAvailable_read recalls.toAlike other).mp available
  by_cases short : dependency.window = 0
  · refine ⟨by omega, fun before inside near => ?_, valid⟩
    have bound := (countedBefore.bounds inside).2
    omega
  · obtain ⟨values, found, validPast⟩ := past (Nat.pos_of_ne_zero short)
    rw [named] at found
    have windowed : dependency ∈ start.property.windowed :=
      List.mem_filter.mpr ⟨member, decide_eq_true (Nat.pos_of_ne_zero short)⟩
    obtain ⟨reached, source⟩ := exists_frame_of_past plain recalls windowed found
    refine ⟨Nat.le_of_not_lt fun long => ?_, fun before inside near => ?_, valid⟩
    · obtain ⟨before, inside, same, _⟩ :=
        source (frame.id - dependency.window) (Nat.le_refl _) (by omega)
      have bound := (countedBefore.bounds inside).1
      omega
    · have bound := (countedBefore.bounds inside).2
      obtain ⟨other, inside', same, position, record, here, listed, kept⟩ :=
        source before.id (by omega) (by omega)
      obtain rfl := countedBefore.eq_of_id_eq inside' inside same
      exact ⟨position, record, here, listed,
        eq_false_of_ne_true (List.any_eq_false.mp validPast _ kept)⟩

/-- The values of a dependency on a frame and on those of its window. -/
structure Provides (projector : Projector) (frames : List Frame) (track place : Nat)
    (dependency : Dependency) (id : Nat) : Prop where
  long : dependency.window ≤ place
  seen : ∀ past, id ≤ past + dependency.window → past ≤ id →
    (sighting? frames projector.className track past).isSome
  valid : ∀ past, id ≤ past + dependency.window → past ≤ id →
    (projector.valueAt frames track dependency.name past).isInvalid = false

/-- Where all objects are listed a dependency is available if its values are there and valid. -/
theorem isAvailable_iff
    {frames : List Frame} {place : Nat} (plain : start.IsPlain)
    (recalls : start.Recalls now listing (frames.take place)) (counted : CountedFrom first frames)
    (here : frames[place]? = some frame)
    (recorded : frame.recordOf? start.className track = some (position, record))
    (named : record.trackId? = some track)
    (listed : ∀ before ∈ frames, ∀ position record,
      before.recordOf? start.className track = some (position, record) →
        position ∈ listing before)
    (member : dependency ∈ start.property.dependencies)
    (other : dependency.name ≠ start.property.name) :
    ((now.read frame position record dependency).isAvailable = true ↔
        start.Provides frames track place dependency frame.id) ∧
      (start.Provides frames track place dependency frame.id →
        (now.read frame position record dependency).input =
          some (dependency.inputAt (start.valueAt frames track dependency.name) frame.id)) := by
  have inFrames := List.mem_of_getElem? here
  have countedUntil := counted.until_frame here
  obtain ⟨countedBefore, numbered⟩ := countedFrom_concat.mp countedUntil
  have room : place < frames.length := (List.getElem?_eq_some_iff.mp here).1
  have length : (frames.take place).length = place := by
    rw [List.length_take, Nat.min_eq_left (Nat.le_of_lt room)]
  have current := valueAt_eq counted inFrames recorded dependency.name
  have provided (provides : start.Provides frames track place dependency frame.id) :=
    read_of_valid plain recalls countedUntil named member other (by rw [length]; exact provides.long)
      (fun before inside near => by
        have bound := (countedBefore.bounds inside).2
        obtain ⟨⟨frame', position, record⟩, found⟩ :=
          Option.isSome_iff_exists.mp (provides.seen before.id near (by omega))
        obtain ⟨inside', same, recorded⟩ := (sighting?_eq_some counted).mp found
        obtain rfl := counted.eq_of_id_eq inside' (List.mem_of_mem_take inside) same
        exact ⟨position, record, recorded, listed _ inside' position record recorded,
          (valueAt_eq counted inside' recorded dependency.name).symm,
          provides.valid _ near (by omega)⟩)
      current.symm (provides.valid frame.id (by omega) (Nat.le_refl _))
  refine ⟨⟨fun available => ?_, fun provides => (provided provides).1⟩, fun provides =>
    (provided provides).2⟩
  obtain ⟨long, past, valid⟩ :=
    valid_of_isAvailable plain recalls countedUntil named member other available
  rw [length] at long
  have each : ∀ past, frame.id ≤ past + dependency.window → past ≤ frame.id →
      ∃ before ∈ frames, before.id = past ∧
        ∃ position record, before.recordOf? start.className track = some (position, record) ∧
          (start.currentValue before position record dependency.name).isInvalid = false := by
    intro id lower upper
    by_cases now : id = frame.id
    · exact ⟨frame, inFrames, now.symm, position, record, recorded, valid⟩
    · obtain ⟨before, inside, same⟩ : ∃ before ∈ frames.take place, before.id = id :=
        countedBefore.exists_frame (by omega) (by omega)
      obtain ⟨position, record, recorded, _, valid⟩ := past before inside (by omega)
      exact ⟨before, List.mem_of_mem_take inside, same, position, record, recorded, valid⟩
  refine ⟨long, fun past lower upper => ?_, fun past lower upper => ?_⟩
  · obtain ⟨before, inside, same, position, record, recorded, _⟩ := each past lower upper
    rw [(sighting?_eq_some counted).mpr ⟨inside, same, recorded⟩]
    rfl
  · obtain ⟨before, inside, rfl, position, record, recorded, valid⟩ := each past lower upper
    rwa [valueAt_eq counted inside recorded]

/-! ## The result -/

/-- The arguments of a function whose dependencies have all been read. -/
theorem inputsOf_eq
    {dependencies : List Dependency} (distinct : (dependencies.map Dependency.name).Nodup)
    {read : Dependency → Reading} (names : ∀ dependency, (read dependency).name = dependency.name)
    {input : Dependency → PropertyInput}
    (inputs : ∀ dependency ∈ dependencies, (read dependency).input = some (input dependency))
    (snapshot : List ObjectRecord) :
    inputsOf snapshot (dependencies.map read) =
      ⟨dependencies.map fun dependency => (dependency.name, input dependency), snapshot⟩ := by
  have folded : ∀ done : Keyed String PropertyInput,
      (∀ dependency ∈ dependencies, dependency.name ∉ done.keys) →
        (dependencies.map read).foldl addReading ⟨done, snapshot⟩ =
          ⟨done ++ dependencies.map fun dependency => (dependency.name, input dependency),
            snapshot⟩ := by
    induction dependencies with
    | nil => exact fun done _ => by rw [List.map_nil, List.map_nil, List.append_nil]; rfl
    | cons dependency rest inductionHypothesis =>
        intro done fresh
        obtain ⟨absent, distinct⟩ := List.nodup_cons.mp distinct
        have added : addReading ⟨done, snapshot⟩ (read dependency) =
            ⟨done ++ [(dependency.name, input dependency)], snapshot⟩ := by
          unfold addReading
          rw [inputs dependency List.mem_cons_self, names, Option.elim_some, PropertyInputs.insert,
            Keyed.put_of_not_mem (fresh dependency List.mem_cons_self)]
        rw [List.map_cons, List.foldl_cons, added, inductionHypothesis distinct fun other member =>
          inputs other (List.mem_cons_of_mem _ member)]
        · rw [List.append_assoc]
          rfl
        · intro other member known
          unfold Keyed.keys at known
          rw [List.map_append] at known
          rcases List.mem_append.mp known with old | new
          · exact fresh other (List.mem_cons_of_mem _ member) old
          · rw [List.map_singleton, List.mem_singleton] at new
            exact absent (List.mem_map.mpr ⟨other, member, new⟩)
  rw [inputsOf_eq_foldl]
  exact folded [] (by simp [Keyed.keys])

/-- Where all dependencies are available the result is that of the function. -/
theorem value_of_inputs
    (ignores : start.property.IgnoresSnapshot) (property : now.property = start.property)
    (distinct : (start.property.dependencies.map Dependency.name).Nodup)
    {values : String → Nat → Value}
    (reads : ∀ dependency ∈ start.property.dependencies,
      (now.read frame position record dependency).isAvailable = true ∧
        (now.read frame position record dependency).input =
          some (dependency.inputAt (values dependency.name) frame.id)) :
    (now.evaluate frame position record).value =
      start.property.compute (start.property.inputsAt values frame.id) := by
  have inputs := inputsOf_eq distinct (name_read now frame position record)
    (fun dependency member => (reads dependency member).2) (frame.recordsOf now.className)
  have available : (now.readings frame position record).all Reading.isAvailable = true := by
    refine List.all_eq_true.mpr fun reading member => ?_
    unfold readings at member
    rw [property] at member
    obtain ⟨dependency, listed, rfl⟩ := List.mem_map.mp member
    exact (reads dependency listed).1
  rw [value_evaluate, valueOf, if_pos available, readings, property, inputs]
  exact ignores (start.property.inputsAt values frame.id) _

/-- Where a dependency is not available a property that does not depend on itself is invalid. -/
theorem value_of_unavailable
    (others : now.property.isSelfDependent = false) (member : dependency ∈ now.property.dependencies)
    (unavailable : (now.read frame position record dependency).isAvailable = false) :
    (now.evaluate frame position record).value = .invalid := by
  have missing : ¬ (now.readings frame position record).all Reading.isAvailable = true := by
    intro all
    have here := List.all_eq_true.mp all _ (List.mem_map_of_mem member)
    rw [unavailable] at here
    exact absurd here (by simp)
  rw [value_evaluate, valueOf, if_neg missing, others, if_neg Bool.false_ne_true]

end Projector

end ObjectQuery
