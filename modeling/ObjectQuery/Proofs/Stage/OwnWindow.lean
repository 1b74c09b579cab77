import ObjectQuery.Proofs.Stage.OwnPast

/-!
# A window of own values

Where a property looks back on several of its own values, `recorded` tells the own value of a track on each
frame: the one computed on a frame on which it is seen, and the last one again while it is lost. As long as
the track stays, the rows of the projector are these values, so far as a window reaches (`logs_after`). The
own window is there as a whole or not at all: `own_window_whole_or_default` says that the function has all
recorded values where one is recorded on each frame of the window, and nothing but the default where a single
one is missing.
-/

namespace ObjectQuery

namespace Projector

variable {start now projector : Projector} {frame : Frame} {frames : List Frame}
  {track position length next : Nat} {record : ObjectRecord}

/-! ## The recorded values -/

/-- The own value of a track that is recorded on a frame: the one computed for it, or the last one if it is
lost. -/
def recordedOn? (projector : Projector) (frames : List Frame) (frame : Frame) (track : Nat)
    (last : Option Value) : Option Value :=
  match projector.firstOf? frame track with
  | some (position, record) => some ((projector.after frames).evaluate frame position record).value
  | none => if track ∈ frame.lostOf projector.className then last else none

/-- The own values recorded for a track, under the numbers of their frames. -/
def recorded (projector : Projector) (frames : List Frame) (track : Nat) : Keyed Nat Value :=
  along (fun frames values frame =>
    values ++ ((projector.recordedOn? frames frame track values.values.getLast?).map
      fun value => (frame.id, value)).toList) [] frames

theorem recorded_concat (projector : Projector) (frames : List Frame) (frame : Frame)
    (track : Nat) :
    projector.recorded (frames ++ [frame]) track =
      projector.recorded frames track ++
        ((projector.recordedOn? frames frame track
          (projector.recorded frames track).values.getLast?).map
            fun value => (frame.id, value)).toList :=
  along_concat ..

theorem recordedOn?_of_seen (first : projector.firstOf? frame track = some (position, record))
    (last : Option Value) :
    projector.recordedOn? frames frame track last =
      some ((projector.after frames).evaluate frame position record).value := by
  rw [recordedOn?, first]

theorem recordedOn?_of_unseen (unseen : projector.firstOf? frame track = none)
    (last : Option Value) :
    projector.recordedOn? frames frame track last =
      if track ∈ frame.lostOf projector.className then last else none := by
  rw [recordedOn?, unseen]

/-- Whether a track is seen on a frame or lost. -/
def isPresent (projector : Projector) (track : Nat) (frame : Frame) : Bool :=
  (projector.firstOf? frame track).isSome || (frame.lostOf projector.className).contains track

/-- A track that has been seen on a frame is seen or lost on all that follow. -/
def Stays (projector : Projector) (frames : List Frame) (track : Nat) : Prop :=
  frames.Pairwise fun earlier later =>
    (projector.firstOf? earlier track).isSome → projector.isPresent track later

instance (projector : Projector) (frames : List Frame) (track : Nat) :
    Decidable (projector.Stays frames track) :=
  inferInstanceAs (Decidable (List.Pairwise _ frames))

/-- What is recorded begins on a frame on which the track is seen. -/
theorem exists_seen_of_recorded (recorded : projector.recorded frames track ≠ []) :
    ∃ earlier ∈ frames, (projector.firstOf? earlier track).isSome := by
  induction frames using List.reverseRecOn with
  | nil => exact absurd rfl recorded
  | append_singleton frames frame inductionHypothesis =>
      by_cases before : projector.recorded frames track = []
      · cases first : projector.firstOf? frame track with
        | some item => exact ⟨frame, by simp, by rw [first]; rfl⟩
        | none =>
            rw [recorded_concat, before, recordedOn?_of_unseen first] at recorded
            exact absurd (by simp [Keyed.values]) recorded
      · obtain ⟨earlier, member, seen⟩ := inductionHypothesis before
        exact ⟨earlier, List.mem_append_left _ member, seen⟩

/-- A track with a recorded value that stays is seen or lost on the next frame. -/
theorem Stays.isPresent (stays : projector.Stays (frames ++ [frame]) track)
    (recorded : projector.recorded frames track ≠ []) :
    projector.isPresent track frame := by
  obtain ⟨earlier, member, seen⟩ := exists_seen_of_recorded recorded
  exact (List.pairwise_append.mp stays).2.2 earlier member frame (by simp) seen

/-- Where nothing is recorded on a frame of a track that stays, nothing has been recorded before. -/
theorem Stays.eq_nil (stays : projector.Stays (frames ++ [frame]) track)
    (nothing : projector.recordedOn? frames frame track
      (projector.recorded frames track).values.getLast? = none) :
    projector.firstOf? frame track = none ∧ projector.recorded frames track = [] := by
  cases first : projector.firstOf? frame track with
  | some item =>
      rw [recordedOn?_of_seen first] at nothing
      exact absurd nothing (by simp)
  | none =>
      refine ⟨rfl, ?_⟩
      by_contra recorded
      have present := stays.isPresent recorded
      rw [Projector.isPresent, first, Option.isSome_none, Bool.false_or, List.contains_iff_mem]
        at present
      rw [recordedOn?_of_unseen first, if_pos present, List.getLast?_eq_none_iff] at nothing
      exact recorded (List.map_eq_nil_iff.mp nothing)

/-! ## Rows and recorded values -/

section Rows

open History

/-- The frame and the own value of a row. -/
def ownCell (projector : Projector) (row : HistoryRow) : Nat × Option Value :=
  (row.frame, row.values[projector.history.columns.idxOf projector.property.name]?)

/-- The recorded values within the reach of a window that ends before a frame. -/
def inReach (projector : Projector) (next : Nat) (values : Keyed Nat Value) :
    List (Nat × Option Value) :=
  (values.filter fun entry => decide (next ≤ entry.1 + projector.history.capacity)).map fun entry =>
    (entry.1, some entry.2)

variable {rows : List HistoryRow} {log : Keyed Nat Value} {value : Value} {id : Nat}

theorem inReach_concat (room : 0 < projector.history.capacity) :
    projector.inReach (id + 1) (log ++ [(id, value)]) =
      projector.inReach (id + 1) log ++ [(id, some value)] := by
  have kept : decide (id + 1 ≤ id + projector.history.capacity) = true :=
    decide_eq_true (by omega)
  rw [inReach, List.filter_append, List.map_append, List.filter_singleton, kept]
  rfl

/-- The rows that the next window can reach. -/
theorem ownCell_recent (cells : rows.map projector.ownCell = projector.inReach id log) :
    (recent (id + 1 - projector.history.capacity) rows).map projector.ownCell =
      projector.inReach (id + 1) log := by
  have reached (entry : Nat × Value) :
      (decide (id + 1 - projector.history.capacity ≤ entry.1) &&
        decide (id ≤ entry.1 + projector.history.capacity)) =
          decide (id + 1 ≤ entry.1 + projector.history.capacity) := by
    rw [← Bool.decide_and, decide_eq_decide]
    omega
  have filtered := congrArg
    (List.filter fun cell => decide (id + 1 - projector.history.capacity ≤ cell.1)) cells
  rw [List.filter_map, inReach, List.filter_map, List.filter_filter] at filtered
  refine filtered.trans ?_
  rw [inReach]
  exact congrArg _ (List.filter_congr fun entry _ => reached entry)

/-- A row pushed behind those of the recorded values is the next recorded value. -/
theorem ownCell_pushRow {values : List Value} (ascending : Ascending rows)
    (before : ∀ other ∈ rows, other.frame < id) (room : 0 < projector.history.capacity)
    (cells : rows.map projector.ownCell = projector.inReach id log)
    (held : values[projector.history.columns.idxOf projector.property.name]? = some value) :
    (recent (id + 1 - projector.history.capacity)
        (pushRow projector.history.capacity rows ⟨id, values⟩)).map projector.ownCell =
      projector.inReach (id + 1) (log ++ [(id, value)]) := by
  have near : id < id + 1 - projector.history.capacity + projector.history.capacity := by omega
  have new : (recent (id + 1 - projector.history.capacity) [⟨id, values⟩]).map projector.ownCell =
      [(id, some value)] := by
    have kept : recent (id + 1 - projector.history.capacity) [⟨id, values⟩] = [⟨id, values⟩] :=
      List.filter_cons_of_pos (decide_eq_true (by simp only; omega))
    rw [kept, List.map_singleton, ownCell, held]
  rw [recent_pushRow ascending before near, recent, List.filter_append, List.map_append,
    inReach_concat room]
  exact congrArg₂ (fun front back => front ++ back) (ownCell_recent cells) new

end Rows

/-- A projector after some frames, the next of which has the given number, and its rows of a track as the
recorded values. -/
structure Logs (start now : Projector) (frames : List Frame) (track next : Nat) : Prop
    extends Remembers start now frames where
  ahead : ∀ earlier ∈ frames, earlier.id < next
  latest : ∀ entry, (start.recorded frames track).getLast? = some entry → entry.1 + 1 = next
  cells : (now.history.rowsOf track).map start.ownCell =
    start.inReach next (start.recorded frames track)

theorem logs_start (start : Projector) (empty : start.history.rows = []) (track first : Nat) :
    start.Logs start [] track first := by
  refine ⟨remembers_start start empty, fun _ member => absurd member List.not_mem_nil,
    fun entry last => absurd last (by simp [recorded, along]), ?_⟩
  rw [History.rowsOf, empty]
  rfl

/-- The rows of a track after a frame on which a value is recorded for it: one more that has the value. -/
def Pushed (start now : Projector) (frame : Frame) (track : Nat) (value : Value) : Prop :=
  ∃ values : List Value,
    values[start.history.columns.idxOf start.property.name]? = some value ∧
      (now.next frame).history.rowsOf track =
        History.recent (frame.id + 1 - start.history.capacity)
          (History.pushRow start.history.capacity (now.history.rowsOf track) ⟨frame.id, values⟩)

namespace Logs

/-- A recorded value within reach has a row. -/
theorem exists_row (logs : start.Logs now frames track next) {id : Nat} {value : Value}
    (member : (id, value) ∈ start.recorded frames track)
    (reach : next ≤ id + start.history.capacity) :
    ∃ row ∈ now.history.rowsOf track, row.frame = id ∧
      row.values[start.history.columns.idxOf start.property.name]? = some value := by
  have cell : (id, some value) ∈ start.inReach next (start.recorded frames track) :=
    List.mem_map.mpr ⟨(id, value), List.mem_filter.mpr ⟨member, decide_eq_true reach⟩, rfl⟩
  rw [← logs.cells] at cell
  obtain ⟨row, listed, same⟩ := List.mem_map.mp cell
  obtain ⟨dated, held⟩ := Prod.mk.inj same
  exact ⟨row, listed, dated, held⟩

/-- On the frame of a row a value is recorded. -/
theorem mem_keys (logs : start.Logs now frames track next) {row : HistoryRow}
    (member : row ∈ now.history.rowsOf track) :
    row.frame ∈ (start.recorded frames track).keys := by
  have cell : start.ownCell row ∈ start.inReach next (start.recorded frames track) := by
    rw [← logs.cells]
    exact List.mem_map_of_mem member
  obtain ⟨entry, listed, same⟩ := List.mem_map.mp cell
  exact List.mem_map.mpr ⟨entry, (List.mem_filter.mp listed).1, congrArg Prod.fst same⟩

section Step

variable (logs : start.Logs now frames track frame.id) (reads : start.ReadsOwn length)
  (same : now = start.after frames)
  (found : (frame.positions? start.index start.className).isSome)

include logs in
theorem before : ∀ other ∈ now.history.rowsOf track, other.frame < frame.id :=
  logs.toRemembers.before logs.ahead

include logs reads in
theorem own_mem_columns : now.property.name ∈ now.history.columns := by
  rw [logs.property, logs.shape.columns]
  exact reads.own_mem_columns

include logs reads in
/-- The row of the last recorded value is the last one. -/
theorem exists_row_of_getLast? {value : Value}
    (last : (start.recorded frames track).values.getLast? = some value) :
    ∃ row ∈ now.history.rowsOf track, row.frame + 1 = frame.id ∧
      row.values[start.history.columns.idxOf start.property.name]? = some value := by
  rw [Keyed.values, List.getLast?_map] at last
  obtain ⟨entry, found, rfl⟩ := Option.map_eq_some_iff.mp last
  have dated := logs.latest entry found
  have room := reads.capacity_pos
  obtain ⟨row, member, rowFrame, held⟩ :=
    logs.exists_row (List.mem_of_getLast? found) (by omega)
  exact ⟨row, member, rowFrame ▸ dated, held⟩

include logs reads found in
theorem rowsOf_next_eq :
    (now.next frame).history.rowsOf track =
      now.trackRows frame track
        ((start.firstOf? frame track).map fun item => (now.evaluate frame item.1 item.2).row)
        (now.history.rowsOf track) := by
  obtain ⟨positions, found⟩ := Option.isSome_iff_exists.mp found
  rw [← logs.index, ← logs.className] at found
  exact logs.rowsOf_next reads.toFits found track

include logs reads found in
theorem pushed_of_seen (first : start.firstOf? frame track = some (position, record)) :
    Pushed start now frame track (now.evaluate frame position record).value := by
  have columns : now.history.columns.isEmpty = false :=
    List.isEmpty_eq_false_iff.mpr (List.ne_nil_of_mem (logs.own_mem_columns reads))
  have live := isLive_of_firstOf? ((logs.firstOf?_eq frame track).trans first)
  refine ⟨(now.evaluate frame position record).row, ?_, ?_⟩
  · rw [reads.toFits.getElem?_row logs.toAlike frame position record reads.own_mem_columns,
      if_pos rfl]
  · rw [logs.rowsOf_next_eq reads found, first, ← logs.shape.capacity]
    exact trackRows_of_seen logs.before columns live _

include logs reads found in
theorem pushed_of_lost (unseen : start.firstOf? frame track = none)
    (lost : track ∈ frame.lostOf start.className) {value : Value}
    (last : (start.recorded frames track).values.getLast? = some value) :
    Pushed start now frame track value := by
  obtain ⟨row, member, dated, held⟩ := logs.exists_row_of_getLast? reads last
  have column := logs.own_mem_columns reads
  rw [Pushed, logs.rowsOf_next_eq reads found, unseen, ← logs.shape.capacity]
  rw [← logs.property, ← logs.shape.columns] at held ⊢
  refine ⟨_, ?_, trackRows_of_lost (logs.ascending track) logs.before member dated column held
    (logs.className.symm ▸ lost)⟩
  rw [List.getElem?_set_self]
  rw [List.length_replicate]
  exact List.idxOf_lt_length_of_mem column

include logs reads same found in
theorem pushed_of_recorded {value : Value}
    (recorded : start.recordedOn? frames frame track
      (start.recorded frames track).values.getLast? = some value) :
    Pushed start now frame track value := by
  cases first : start.firstOf? frame track with
  | some item =>
      rw [recordedOn?_of_seen first, ← same] at recorded
      exact Option.some.inj recorded ▸ logs.pushed_of_seen reads found first
  | none =>
      rw [recordedOn?_of_unseen first] at recorded
      by_cases lost : track ∈ frame.lostOf start.className
      · rw [if_pos lost] at recorded
        exact logs.pushed_of_lost reads found first lost recorded
      · rw [if_neg lost] at recorded
        exact absurd recorded (by simp)

include logs reads found in
/-- Where nothing has been recorded, and nothing is, there are no rows. -/
theorem rowsOf_next_of_nothing (unseen : start.firstOf? frame track = none)
    (nothing : start.recorded frames track = []) :
    (now.next frame).history.rowsOf track = [] := by
  have cells := logs.cells
  rw [nothing] at cells
  have rows : now.history.rowsOf track = [] := List.map_eq_nil_iff.mp cells
  rw [logs.rowsOf_next_eq reads found, unseen, rows, Option.map_none]
  simp [trackRows, seenRows, carriedRows, carryRows, History.recent]

include logs reads same found in
theorem step (stays : start.Stays (frames ++ [frame]) track) :
    start.Logs (now.next frame) (frames ++ [frame]) track (frame.id + 1) := by
  have ahead : ∀ earlier ∈ frames ++ [frame], earlier.id < frame.id + 1 := by
    intro earlier member
    rcases List.mem_append.mp member with old | here
    · exact Nat.lt_succ_of_lt (logs.ahead earlier old)
    · rw [List.mem_singleton.mp here]
      exact Nat.lt_succ_self _
  have remembers := logs.toRemembers.step reads.toFits logs.ahead
  have concat := recorded_concat start frames frame track
  cases here : start.recordedOn? frames frame track
      (start.recorded frames track).values.getLast? with
  | some value =>
      obtain ⟨values, held, rows⟩ := logs.pushed_of_recorded reads same found here
      rw [here] at concat
      refine ⟨remembers, ahead, fun entry last => ?_, ?_⟩
      · rw [concat] at last
        rw [← Option.some.inj (List.getLast?_concat.symm.trans last)]
      · rw [rows, concat]
        exact ownCell_pushRow (logs.ascending track) logs.before reads.capacity_pos logs.cells held
  | none =>
      obtain ⟨unseen, nothing⟩ := stays.eq_nil here
      rw [here, nothing] at concat
      refine ⟨remembers, ahead, fun entry last => ?_, ?_⟩
      · rw [concat] at last
        exact absurd last (by simp)
      · rw [logs.rowsOf_next_of_nothing reads found unseen nothing, concat]
        rfl

end Step

end Logs

/-- Whatever frames the projector has been applied to, one number after another, as long as it does not
fail and the track stays. -/
theorem logs_after (reads : start.ReadsOwn length) (empty : start.history.rows = []) {first : Nat}
    (counted : CountedFrom first frames)
    (found : ∀ frame ∈ frames, (frame.positions? start.index start.className).isSome)
    (stays : start.Stays frames track) :
    start.Logs (start.after frames) frames track (first + frames.length) := by
  induction frames using List.reverseRecOn with
  | nil => exact logs_start start empty track first
  | append_singleton frames frame inductionHypothesis =>
      obtain ⟨earlier, numbered⟩ := countedFrom_concat.mp counted
      have logs := inductionHypothesis earlier
        (fun other member => found other (List.mem_append_left _ member))
        (List.pairwise_append.mp stays).1
      rw [← numbered] at logs
      rw [after_concat, List.length_append, List.length_singleton, ← Nat.add_assoc, ← numbered]
      exact logs.step reads rfl (found frame (by simp)) stays

/-! ## The own window -/

/-- Whether an own value is recorded on each frame of a window. -/
def isRecorded (projector : Projector) (frames : List Frame) (track : Nat) (frame : Frame)
    (length : Nat) : Bool :=
  decide (length ≤ frame.id) && (List.range' (frame.id - length) length).all fun id =>
    ((projector.recorded frames track).find? id).isSome

/-- The own value on a frame, with the default in place of one that is missing or invalid. -/
def ownValue (projector : Projector) (frames : List Frame) (track id : Nat) : Value :=
  projector.property.previous ((projector.recorded frames track).find? id)

/-- The own values on the frames of a window, oldest first. -/
def ownValues (projector : Projector) (frames : List Frame) (track : Nat) (frame : Frame)
    (length : Nat) : List Value :=
  (List.range' (frame.id - length) length).map (projector.ownValue frames track)

theorem isRecorded_iff :
    projector.isRecorded frames track frame length = true ↔
      length ≤ frame.id ∧ ∀ id, frame.id - length ≤ id → id < frame.id →
        ∃ value, (projector.recorded frames track).find? id = some value := by
  rw [isRecorded, Bool.and_eq_true, decide_eq_true_iff, List.all_eq_true]
  refine and_congr_right fun short => ?_
  constructor
  · intro all id lower upper
    exact Option.isSome_iff_exists.mp (all id (List.mem_range'_1.mpr ⟨lower, by omega⟩))
  · intro all id inside
    obtain ⟨lower, upper⟩ := List.mem_range'_1.mp inside
    exact Option.isSome_iff_exists.mpr (all id lower (by omega))

/-- What a function is handed of its own window, and the value where it is not called. -/
structure ReadsBack (property : Property) (evaluation : Evaluation) (past : List Value)
    (last : Value) : Prop where
  handed : evaluation.isCalled = true →
    evaluation.inputs.input? property.name = some (.window (past ++ [property.default]))
  held : evaluation.isCalled = false → evaluation.value = last

namespace Logs

variable (logs : start.Logs now frames track frame.id) (reads : start.ReadsOwn length)

include logs reads in
/-- The past is there exactly if it is recorded as a whole. -/
theorem past?_own :
    now.past? frame (some track) ⟨start.property.name, length⟩ =
      if start.isRecorded frames track frame length then
        some ((List.range' (frame.id - length) length).map fun id =>
          ((start.recorded frames track).find? id).getD .invalid)
      else none := by
  rw [past?_eq, logs.shape.columns]
  by_cases whole : start.isRecorded frames track frame length = true
  · rw [if_pos whole]
    obtain ⟨short, all⟩ := isRecorded_iff.mp whole
    have reach : length ≤ start.history.capacity := reads.reach _ reads.self
    refine History.window?_eq_map (logs.ascending track) short
      fun id (lower : frame.id - length ≤ id) upper => ?_
    obtain ⟨value, found⟩ := all id lower upper
    rw [found]
    exact logs.exists_row (Keyed.mem_of_find? found) (by omega)
  · rw [if_neg whole]
    by_contra there
    obtain ⟨values, found⟩ := Option.ne_none_iff_exists'.mp there
    obtain ⟨short, rows⟩ := History.exists_row_of_window? (logs.ascending track) found
    refine whole (isRecorded_iff.mpr ⟨short, fun id lower upper => ?_⟩)
    obtain ⟨row, member, rfl⟩ := rows id lower upper
    refine Option.ne_none_iff_exists'.mp fun absent => ?_
    exact Keyed.find?_eq_none_iff.mp absent (logs.mem_keys member)

include logs reads in
/-- The own past is all recorded values of the window, or the default on each of its frames. -/
theorem ownPast_eq :
    ownPast start.property.default length
        (now.past? frame (some track) ⟨start.property.name, length⟩) =
      if start.isRecorded frames track frame length then start.ownValues frames track frame length
      else List.replicate length start.property.default := by
  rw [logs.past?_own reads]
  by_cases whole : start.isRecorded frames track frame length = true
  · obtain ⟨_, all⟩ := isRecorded_iff.mp whole
    rw [if_pos whole, if_pos whole, ownPast, List.map_map, ownValues]
    refine List.map_congr_left fun id inside => ?_
    obtain ⟨lower, upper⟩ := List.mem_range'_1.mp inside
    obtain ⟨value, found⟩ := all id lower (by omega)
    rw [Function.comp_apply, ownValue, found]
    rfl
  · rw [if_neg whole, if_neg whole]
    rfl

include logs reads in
theorem readsBack (valid : start.property.default.isInvalid = false)
    (named : record.trackId? = some track) {past : List Value} {last : Value}
    (read : ownPast start.property.default length
      (now.past? frame (some track) ⟨start.property.name, length⟩) = past)
    (ends : past.getLast? = some last) :
    ReadsBack start.property (now.evaluate frame position record) past last := by
  have own : now.read frame position record ⟨start.property.name, length⟩ =
      ⟨start.property.name, some (.window (past ++ [start.property.default])), true, some .invalid,
        past.getLast?⟩ := by
    have reading := read_self now frame position record reads.looks
    rwa [logs.property, named, read] at reading
  refine ⟨fun called => ?_, fun refused => ?_⟩
  · have input := logs.input?_eq_read reads.toFits logs.ahead valid named called reads.self
    rwa [own] at input
  · have missing : ¬ (now.readings frame position record).all Reading.isAvailable = true :=
      ne_true_of_eq_false refused
    rw [value_evaluate, valueOf, if_neg missing, logs.property, reads.isSelfDependent, if_pos rfl,
      reads.findSome?_held logs.property, own, ends, Option.getD_some]

include logs reads in
/-- The own window as a whole. -/
theorem readsBack_of_recorded (valid : start.property.default.isInvalid = false)
    (named : record.trackId? = some track)
    (whole : start.isRecorded frames track frame length = true) :
    ReadsBack start.property (now.evaluate frame position record)
      (start.ownValues frames track frame length) (start.ownValue frames track (frame.id - 1)) := by
  refine logs.readsBack reads valid named ((logs.ownPast_eq reads).trans (if_pos whole)) ?_
  obtain ⟨short, _⟩ := isRecorded_iff.mp whole
  have looks := reads.looks
  have newest : frame.id - length + length - 1 = frame.id - 1 := by omega
  rw [ownValues, List.getLast?_map, List.getLast?_range', if_neg (Nat.ne_of_gt looks), newest,
    Option.map_some]

include logs reads in
/-- The own window where a value is missing. -/
theorem readsBack_of_missing (valid : start.property.default.isInvalid = false)
    (named : record.trackId? = some track)
    (missing : start.isRecorded frames track frame length = false) :
    ReadsBack start.property (now.evaluate frame position record)
      (List.replicate length start.property.default) start.property.default := by
  refine logs.readsBack reads valid named
    ((logs.ownPast_eq reads).trans (if_neg (ne_true_of_eq_false missing))) ?_
  rw [List.getLast?_replicate, if_neg (Nat.ne_of_gt reads.looks)]

end Logs

end Projector

/-! ## Somebody who walks -/

namespace Steps

/-- Counts the frames on which somebody is seen to walk, with the last two counts at hand. -/
def spec : ProjectionSpec where
  property := .declare "steps" [⟨"steps", 2⟩, ⟨"gait", 0⟩]
    (fun inputs =>
      match inputs.window? "steps" with
      | some [_, last, _] => (last.nat?.map fun count => Value.ofNat (count + 1)).getD .invalid
      | _ => .invalid)
    (.ofNat 0)
  className := "person"
  index := 0
  historyLength := 2
  selfDependent := true

def record (id : Nat) : ObjectRecord := (Walker.record id).insert "gait" (.bool true)

def walking (id : Nat) : Frame :=
  { Walker.frame id with records := [("person", [record id])] }

def hidden (id : Nat) : Frame :=
  { Walker.frame id with
    records := [("person", [])]
    listed := [(0, [("person", [])])]
    lost := [("person", [7])] }

end Steps

namespace Projector

/-- Of a track that is seen or lost on every frame since its first, a function that looks back on its own
values is handed those recorded on the frames of the window, with the default for invalid ones, if there is
one on each of them, and nothing but the default else. Where it is not called the newest of them is held. -/
theorem own_window_whole_or_default
    {spec : ProjectionSpec} {frames : List Frame} {frame : Frame}
    {first track position length : Nat} {record : ObjectRecord}
    (distinct : (spec.property.dependencies.map Dependency.name).Nodup)
    (valid : spec.property.default.isInvalid = false)
    (own : spec.property.name ≠ Field.trackId)
    (self : ⟨spec.property.name, length⟩ ∈ spec.property.dependencies) (looks : 0 < length)
    (counted : CountedFrom first (frames ++ [frame]))
    (found : ∀ earlier ∈ frames, (earlier.positions? spec.index spec.className).isSome)
    (stays : (ofSpec spec).Stays frames track)
    (seen : (ofSpec spec).firstOf? frame track = some (position, record)) :
    ∃ projection evaluation, ((ofSpec spec).after frames).apply frame = .ok projection ∧
      (ofSpec spec).Evaluates frames frame track position record projection evaluation ∧
        (ofSpec spec).recorded (frames ++ [frame]) track =
          (ofSpec spec).recorded frames track ++ [(frame.id, evaluation.value)] ∧
        ((ofSpec spec).isRecorded frames track frame length = true →
          ReadsBack spec.property evaluation
            ((ofSpec spec).ownValues frames track frame length)
            ((ofSpec spec).ownValue frames track (frame.id - 1))) ∧
        ((ofSpec spec).isRecorded frames track frame length = false →
          ReadsBack spec.property evaluation
            (List.replicate length spec.property.default) spec.property.default) := by
  have reads : (ofSpec spec).ReadsOwn length :=
    { columns := rfl
      reach := fun dependency member =>
        (Property.window_le_maxWindow member).trans (Nat.le_max_right ..)
      distinct := distinct
      own := own
      self := self
      looks := looks }
  obtain ⟨earlier, numbered⟩ := countedFrom_concat.mp counted
  have logs := logs_after reads rfl earlier found stays
  rw [← numbered] at logs
  obtain ⟨_, _, _, _, named⟩ := firstOf?_eq_some seen
  obtain ⟨projection, applied, evaluates⟩ :=
    logs.evaluates_first reads.toFits logs.ahead valid seen
  refine ⟨projection, _, applied, evaluates, ?_, fun whole => ?_, fun missing => ?_⟩
  · rw [recorded_concat, recordedOn?_of_seen seen]
    rfl
  · exact logs.readsBack_of_recorded reads valid named whole
  · exact logs.readsBack_of_missing reads valid named missing

open Steps in
/-- A frame on which somebody is lost is no gap in the own window. -/
theorem own_window_whole_or_default_hidden :
    (ofSpec spec).recorded [walking 1, hidden 2] 7 = [(1, .ofNat 1), (2, .ofNat 1)] ∧
      ∃ projection, ∃ evaluation : Evaluation,
        ((ofSpec spec).after [walking 1, hidden 2]).apply (walking 3) = .ok projection ∧
          (projection.frame.recordsOf "person")[0]? =
            some ((record 3).insert "steps" evaluation.value) ∧
            evaluation.inputs.input? "steps" =
              some (.window [.ofNat 1, .ofNat 1, .ofNat 0]) := by
  have seen : (ofSpec spec).firstOf? (walking 3) 7 = some (0, record 3) := rfl
  obtain ⟨projection, evaluation, applied, evaluates, _, whole, _⟩ :=
    @own_window_whole_or_default spec [walking 1, hidden 2] (walking 3) 1 7 0 2 (record 3)
      (by decide) (by decide) (by decide) (by decide) (by decide) rfl (by decide) (by decide) seen
  have called := evaluates.called.mpr (by decide)
  exact ⟨rfl, projection, evaluation, applied, evaluates.written, (whole rfl).handed called⟩

open Steps in
/-- On the second frame of a track the value recorded on the first one is not among the two own values that
are handed on, and it is not held where something else is missing: the default stands for both. -/
theorem own_value_forgotten :
    spec.property.default.isInvalid = false ∧
      ⟨spec.property.name, 2⟩ ∈ spec.property.dependencies ∧
      CountedFrom 1 [walking 1, walking 2] ∧ (ofSpec spec).Stays [walking 1, walking 2] 7 ∧
      (ofSpec spec).ownValues [walking 1] 7 (walking 2) 2 = [.ofNat 0, .ofNat 1] ∧
      (ofSpec spec).ownValue [walking 1] 7 1 = .ofNat 1 ∧
      (∃ projection evaluation,
        ((ofSpec spec).after [walking 1]).apply (walking 2) = .ok projection ∧
          projection.evaluations = [evaluation] ∧ evaluation.trackId = some 7 ∧
            evaluation.isCalled = true ∧
            evaluation.inputs.input? "steps" =
              some (.window [.ofNat 0, .ofNat 0, .ofNat 0])) ∧
      ∃ projection evaluation,
        ((ofSpec spec).after [walking 1]).apply (Walker.frame 2) = .ok projection ∧
          projection.evaluations = [evaluation] ∧ evaluation.trackId = some 7 ∧
            evaluation.isCalled = false ∧ evaluation.value = .ofNat 0 :=
  ⟨by decide, by decide, rfl, by decide, rfl, rfl, ⟨_, _, rfl, rfl, rfl, by decide, rfl⟩,
    ⟨_, _, rfl, rfl, rfl, by decide, rfl⟩⟩

end Projector

end ObjectQuery
