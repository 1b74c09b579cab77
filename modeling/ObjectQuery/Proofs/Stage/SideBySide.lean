import ObjectQuery.Proofs.Stage.Recall

/-!
# One projector in two runs

Two runs on the same video differ in what they compute and in which objects are left when a projector
comes to them. What the projector remembers of a track is the same in both if on each frame it was
handed the object in both and read the same values from it; for a property that does not look back on
itself the frames of the window are enough.
-/

namespace ObjectQuery

namespace Projector

/-- Where a track has its object on both frames it is listed on both, with the same values under the
given names. -/
def Alongside (projector : Projector) (listing listing' : Frame → List Nat) (track : Nat)
    (names : List String) (pair : Frame × Frame) : Prop :=
  ∀ position record record',
    pair.1.recordOf? projector.className track = some (position, record) →
      pair.2.recordOf? projector.className track = some (position, record') →
        position ∈ listing pair.1 ∧ position ∈ listing' pair.2 ∧
          ∀ name ∈ names, record'.get? name = record.get? name

variable {start now now' : Projector} {names : List String} {listing listing' : Frame → List Nat}
  {track : Nat}

/-! ## One frame -/

section Pair

variable {pair : Frame × Frame}

theorem currentValue_of_alongside
    (twins : Frame.Extends start.className names pair.1 pair.2)
    (free : ∀ name ∈ names, Field.isFixed name = false)
    (distinct : DistinctTracks (pair.1.recordsOf start.className)) {position : Nat}
    {record record' : ObjectRecord}
    (found : pair.1.recordOf? start.className track = some (position, record))
    (found' : pair.2.recordOf? start.className track = some (position, record')) {name : String}
    (same : record'.get? name = record.get? name) :
    start.currentValue pair.2 position record' name =
      start.currentValue pair.1 position record name :=
  currentValue_of_get? twins free ((Frame.recordOf?_eq_some distinct).mp found).1
    ((Frame.recordOf?_eq_some (twins.distinctTracks free distinct)).mp found').1 same

/-- Whether a track has an object, and where, is the same on both frames. -/
theorem recordOf?_cases
    (twins : Frame.Extends start.className names pair.1 pair.2)
    (free : ∀ name ∈ names, Field.isFixed name = false)
    (distinct : DistinctTracks (pair.1.recordsOf start.className)) (track : Nat) :
    (pair.1.recordOf? start.className track = none ∧
        pair.2.recordOf? start.className track = none) ∨
      ∃ position record record',
        pair.1.recordOf? start.className track = some (position, record) ∧
          pair.2.recordOf? start.className track = some (position, record') := by
  cases found : pair.1.recordOf? start.className track with
  | none =>
      cases found' : pair.2.recordOf? start.className track with
      | none => exact Or.inl ⟨rfl, rfl⟩
      | some item =>
          obtain ⟨record, here⟩ := twins.recordOf?_of_new free distinct found'
          exact absurd (found.symm.trans here) (by simp)
  | some item =>
      obtain ⟨record', here⟩ := twins.symm.recordOf?_of_new free
        (twins.distinctTracks free distinct) found
      exact Or.inr ⟨item.1, item.2, record', rfl, here⟩

/-- The object of a track has the same row on both frames if it is listed on both or on neither, and on
both with the same values. -/
theorem rowIn_eq_of_listed_iff
    (twins : Frame.Extends start.className names pair.1 pair.2)
    (free : ∀ name ∈ names, Field.isFixed name = false)
    (distinct : DistinctTracks (pair.1.recordsOf start.className))
    (listed : ∀ position record record',
      pair.1.recordOf? start.className track = some (position, record) →
        pair.2.recordOf? start.className track = some (position, record') →
          (position ∈ listing' pair.2 ↔ position ∈ listing pair.1) ∧
            (position ∈ listing pair.1 → ∀ dependency ∈ start.property.windowed,
              record'.get? dependency.name = record.get? dependency.name)) :
    start.rowIn (listing' pair.2) pair.2 track = start.rowIn (listing pair.1) pair.1 track := by
  unfold rowIn
  rcases recordOf?_cases twins free distinct track with
    ⟨missing, missing'⟩ | ⟨position, record, record', found, found'⟩
  · rw [missing, missing']
    rfl
  · obtain ⟨both, same⟩ := listed position record record' found found'
    rw [found, found', Option.bind_some, Option.bind_some]
    by_cases here : position ∈ listing pair.1
    · rw [if_pos (List.contains_iff_mem.mpr here),
        if_pos (List.contains_iff_mem.mpr (both.mpr here))]
      congr 1
      refine List.map_congr_left fun dependency member => ?_
      have value := same here dependency member
      split
      · rename_i own
        rw [← own, value]
      · exact currentValue_of_alongside twins free distinct found found' value
    · rw [if_neg fun there => here (List.contains_iff_mem.mp there),
        if_neg fun there => here (both.mp (List.contains_iff_mem.mp there))]

/-- The object of a track has the same row on both frames. -/
theorem rowIn_eq_of_alongside
    (twins : Frame.Extends start.className names pair.1 pair.2)
    (free : ∀ name ∈ names, Field.isFixed name = false)
    (distinct : DistinctTracks (pair.1.recordsOf start.className))
    (alongside : start.Alongside listing listing' track
      (start.property.windowed.map Dependency.name) pair) :
    start.rowIn (listing' pair.2) pair.2 track = start.rowIn (listing pair.1) pair.1 track := by
  refine rowIn_eq_of_listed_iff twins free distinct fun position record record' found found' => ?_
  obtain ⟨listed, listed', same⟩ := alongside position record record' found found'
  exact ⟨iff_of_true listed' listed, fun _ dependency member =>
    same dependency.name (List.mem_map_of_mem member)⟩

/-- The object of a track has the same value in a column on both frames. -/
theorem IsPlain.column_eq_of_alongside
    (plain : start.IsPlain) (twins : Frame.Extends start.className names pair.1 pair.2)
    (free : ∀ name ∈ names, Field.isFixed name = false)
    (distinct : DistinctTracks (pair.1.recordsOf start.className)) {dependency : Dependency}
    (member : dependency ∈ start.property.windowed)
    (alongside : start.Alongside listing listing' track [dependency.name] pair) :
    let column := start.history.columns.idxOf dependency.name
    (start.rowIn (listing' pair.2) pair.2 track).map (fun values => values[column]?) =
      (start.rowIn (listing pair.1) pair.1 track).map fun values => values[column]? := by
  intro column
  unfold rowIn
  rcases recordOf?_cases twins free distinct track with
    ⟨missing, missing'⟩ | ⟨position, record, record', found, found'⟩
  · rw [missing, missing']
    rfl
  · obtain ⟨listed, listed', same⟩ := alongside position record record' found found'
    rw [found, found', Option.bind_some, Option.bind_some,
      if_pos (List.contains_iff_mem.mpr listed), if_pos (List.contains_iff_mem.mpr listed'),
      Option.map_some, Option.map_some, plain.getElem?_rowOn pair.1 position record member,
      plain.getElem?_rowOn pair.2 position record' member,
      currentValue_of_alongside twins free distinct found found' (same _ List.mem_cons_self)]

end Pair

/-! ## Frame after frame -/

section Pairs

variable {pairs : List (Frame × Frame)}

theorem memory_eq_of_rowIn
    (twins : ∀ pair ∈ pairs, Frame.Extends start.className names pair.1 pair.2)
    (free : ∀ name ∈ names, Field.isFixed name = false)
    (rows : ∀ pair ∈ pairs,
      start.rowIn (listing' pair.2) pair.2 track = start.rowIn (listing pair.1) pair.1 track) :
    start.memory listing' (pairs.map Prod.snd) track =
      start.memory listing (pairs.map Prod.fst) track := by
  induction pairs using List.reverseRecOn with
  | nil => rfl
  | append_singleton pairs pair inductionHypothesis =>
      have last : pair ∈ pairs ++ [pair] := by simp
      have earlier := inductionHypothesis
        (fun other member => twins other (List.mem_append_left _ member))
        (fun other member => rows other (List.mem_append_left _ member))
      rw [List.map_append, List.map_append, List.map_singleton, List.map_singleton, memory_concat,
        memory_concat, earlier, trackRows_congr (twins pair last) free, rows pair last]

theorem columnFrom_seenRows
    {capacity bound frame : Nat} {rows : List HistoryRow} (ascending : History.Ascending rows)
    (before : ∀ row ∈ rows, row.frame < frame) (near : frame < bound + capacity) (column : Nat)
    (row : Option (List Value)) :
    History.columnFrom bound column (seenRows capacity frame row rows) =
      History.columnFrom bound column rows ++
        if bound ≤ frame then (row.map fun values => (frame, values[column]?)).toList else [] := by
  cases row with
  | none => simp [seenRows]
  | some values =>
      have pushed := @History.columnFrom_pushRow capacity bound rows ascending ⟨frame, values⟩ before
        near column
      refine Eq.trans pushed ?_
      by_cases late : bound ≤ frame <;> simp [History.columnFrom, History.recent, late]

theorem IsPlain.columnFrom_memory
    (plain : start.IsPlain) (ascends : (pairs.map Prod.fst).Pairwise fun a b => a.id < b.id)
    (twins : ∀ pair ∈ pairs, Frame.Extends start.className names pair.1 pair.2)
    (free : ∀ name ∈ names, Field.isFixed name = false)
    (distinct : ∀ pair ∈ pairs, DistinctTracks (pair.1.recordsOf start.className))
    {dependency : Dependency} (member : dependency ∈ start.property.windowed) {bound : Nat}
    (near : ∀ pair ∈ pairs, pair.1.id < bound + start.history.capacity)
    (alongside : ∀ pair ∈ pairs, bound ≤ pair.1.id →
      start.Alongside listing listing' track [dependency.name] pair) :
    let column := start.history.columns.idxOf dependency.name
    History.columnFrom bound column (start.memory listing' (pairs.map Prod.snd) track) =
      History.columnFrom bound column (start.memory listing (pairs.map Prod.fst) track) := by
  intro column
  induction pairs using List.reverseRecOn with
  | nil => rfl
  | append_singleton pairs pair inductionHypothesis =>
      rw [List.map_append, List.pairwise_append] at ascends
      have last : pair ∈ pairs ++ [pair] := by simp
      have earlier := inductionHypothesis ascends.1
        (fun other member => twins other (List.mem_append_left _ member))
        (fun other member => distinct other (List.mem_append_left _ member))
        (fun other member => near other (List.mem_append_left _ member))
        (fun other member => alongside other (List.mem_append_left _ member))
      have before : ∀ frame ∈ pairs.map Prod.fst, frame.id < pair.1.id := fun frame listed =>
        ascends.2.2 frame listed pair.1 (by simp)
      have id (other : Frame × Frame) (listed : other ∈ pairs ++ [pair]) :
          other.2.id = other.1.id := by
        rw [(twins other listed).framed]
      have before' : ∀ frame ∈ pairs.map Prod.snd, frame.id < pair.1.id := by
        intro frame listed
        obtain ⟨other, inside, rfl⟩ := List.mem_map.mp listed
        rw [id other (List.mem_append_left _ inside)]
        exact before other.1 (List.mem_map_of_mem inside)
      have bounded (listing : Frame → List Nat) (frames : List Frame)
          (before : ∀ frame ∈ frames, frame.id < pair.1.id) :
          ∀ row ∈ start.memory listing frames track, row.frame < pair.1.id := by
        intro row inside
        obtain ⟨frame, listed, same, _⟩ := plain.mem_memory inside
        exact same ▸ before frame listed
      rw [List.map_append, List.map_append, List.map_singleton, List.map_singleton, memory_concat,
        memory_concat, trackRows_congr (twins pair last) free]
      unfold trackRows
      split
      · exact earlier
      · split
        · have nearby := near pair last
          have reached : start.history.cutoff pair.1.id ≤ bound := by
            unfold History.cutoff
            omega
          rw [plain.carriedRows_eq, plain.carriedRows_eq, History.columnFrom_recent reached,
            History.columnFrom_recent reached,
            columnFrom_seenRows (plain.ascending_memory track)
              (bounded listing' (pairs.map Prod.snd) before') nearby,
            columnFrom_seenRows (plain.ascending_memory track)
              (bounded listing (pairs.map Prod.fst) before) nearby, earlier]
          congr 1
          split
          · rename_i late
            have row := plain.column_eq_of_alongside (twins pair last) free (distinct pair last)
              member (alongside pair last late)
            have entries := congrArg (fun row : Option (Option Value) =>
              (row.map fun value => (pair.1.id, value)).toList) row
            simpa [Option.map_map, Function.comp_def] using entries
          · rfl
        · rfl

/-! ## Windows -/

variable {frame frame' : Frame} {dependency : Dependency}

/-- What is remembered is the same if the track had the same rows in both runs. -/
theorem past_eq_of_rowIn
    (recalls : start.Recalls now listing (pairs.map Prod.fst))
    (recalls' : start.Recalls now' listing' (pairs.map Prod.snd))
    (twins : ∀ pair ∈ pairs, Frame.Extends start.className names pair.1 pair.2)
    (free : ∀ name ∈ names, Field.isFixed name = false)
    (rows : ∀ pair ∈ pairs,
      start.rowIn (listing' pair.2) pair.2 track = start.rowIn (listing pair.1) pair.1 track)
    (same : frame'.id = frame.id) (dependency : Dependency) :
    now'.past? frame' (some track) dependency = now.past? frame (some track) dependency := by
  rw [past?_eq, past?_eq, recalls.shape.columns, recalls'.shape.columns, same]
  refine History.window?_eq_of_columnFrom ?_
  rw [recalls.rows, recalls'.rows, memory_eq_of_rowIn twins free rows]

/-- What is remembered is the same if the track was handed on in both runs on all frames. -/
theorem past_eq_of_alongside
    (recalls : start.Recalls now listing (pairs.map Prod.fst))
    (recalls' : start.Recalls now' listing' (pairs.map Prod.snd))
    (twins : ∀ pair ∈ pairs, Frame.Extends start.className names pair.1 pair.2)
    (free : ∀ name ∈ names, Field.isFixed name = false)
    (distinct : ∀ pair ∈ pairs, DistinctTracks (pair.1.recordsOf start.className))
    (alongside : ∀ pair ∈ pairs, start.Alongside listing listing' track
      (start.property.windowed.map Dependency.name) pair) (same : frame'.id = frame.id)
    (dependency : Dependency) :
    now'.past? frame' (some track) dependency = now.past? frame (some track) dependency :=
  past_eq_of_rowIn recalls recalls' twins free (fun pair member =>
    rowIn_eq_of_alongside (twins pair member) free (distinct pair member) (alongside pair member))
    same dependency

/-- A window is the same if the track was handed on in both runs on its frames. -/
theorem IsPlain.past_eq_of_alongside
    (plain : start.IsPlain) (recalls : start.Recalls now listing (pairs.map Prod.fst))
    (recalls' : start.Recalls now' listing' (pairs.map Prod.snd))
    (ascends : (pairs.map Prod.fst ++ [frame]).Pairwise fun a b => a.id < b.id)
    (twins : ∀ pair ∈ pairs, Frame.Extends start.className names pair.1 pair.2)
    (free : ∀ name ∈ names, Field.isFixed name = false)
    (distinct : ∀ pair ∈ pairs, DistinctTracks (pair.1.recordsOf start.className))
    (member : dependency ∈ start.property.windowed)
    (alongside : ∀ pair ∈ pairs, frame.id ≤ pair.1.id + dependency.window →
      start.Alongside listing listing' track [dependency.name] pair) (same : frame'.id = frame.id) :
    now'.past? frame' (some track) dependency = now.past? frame (some track) dependency := by
  obtain ⟨ascends, _, before⟩ := List.pairwise_append.mp ascends
  have reach := plain.reach dependency (List.mem_filter.mp member).1
  rw [past?_eq, past?_eq, recalls.shape.columns, recalls'.shape.columns, same]
  refine History.window?_eq_of_columnFrom ?_
  rw [recalls.rows, recalls'.rows]
  refine plain.columnFrom_memory ascends twins free distinct member (fun pair listed => ?_)
    fun pair listed late => alongside pair listed (by omega)
  have earlier := before pair.1 (List.mem_map_of_mem listed) frame List.mem_cons_self
  omega

end Pairs

/-! ## Reading -/

/-- The same is read from the same values. -/
theorem read_eq
    {frame frame' : Frame} {position : Nat} {record record' : ObjectRecord} {dependency : Dependency}
    (alike : start.Alike now) (alike' : start.Alike now')
    (tracks : record'.trackId? = record.trackId?)
    (current : dependency.name ≠ start.property.name →
      start.currentValue frame' position record' dependency.name =
        start.currentValue frame position record dependency.name)
    (past : 0 < dependency.window → ∀ track, record.trackId? = some track →
      now'.past? frame' (some track) dependency = now.past? frame (some track) dependency) :
    now'.read frame' position record' dependency = now.read frame position record dependency := by
  have pasts : 0 < dependency.window → now'.past? frame' record.trackId? dependency =
      now.past? frame record.trackId? dependency := by
    intro looksBack
    cases named : record.trackId? with
    | none => rfl
    | some track => exact past looksBack track named
  unfold read
  rw [alike.property, alike'.property]
  split
  · unfold readOwn
    rw [alike.property, alike'.property, tracks]
    split
    · rfl
    · rename_i looksBack
      rw [pasts (Nat.pos_of_ne_zero looksBack)]
  · rename_i different
    unfold readOther
    rw [alike.currentValue_eq, alike'.currentValue_eq, current different, tracks]
    split
    · rfl
    · rename_i looksBack
      rw [pasts (Nat.pos_of_ne_zero looksBack)]

end Projector

end ObjectQuery
