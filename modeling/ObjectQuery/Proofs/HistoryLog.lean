import Mathlib.Logic.Function.Basic
import ObjectQuery.Proofs.History

/-!
# A history beside a log that forgets nothing

A history keeps `capacity` rows of a track and drops what has come out of reach. Who asks for windows
that end after everything that has been pushed or evicted, and are no longer than the capacity, cannot
tell this from a log of all rows: what has been dropped is further back than any such window reaches,
and the last row of a track is never dropped but by an eviction, which is on a later frame.
-/

namespace ObjectQuery

/-- A call on a history. -/
inductive HistoryCall where
  | push (track frame : Nat) (values : List Value)
  | evict (frame : Nat) (keep : Nat → Bool)
  | window (track frame column length : Nat)

/-- What a call tells its caller. -/
inductive HistoryAnswer where
  | pushed (accepted : Bool)
  | evicted
  | window (values : Option (List Value))

namespace History

section Calls

variable {σ : Type → Type} [Storage σ]

def after (history : History σ) : HistoryCall → History σ
  | .push track frame values => history.push track frame values
  | .evict frame keep => history.evict frame keep
  | .window _ _ _ _ => history

def answer (history : History σ) : HistoryCall → HistoryAnswer
  | .push track frame _ => .pushed (history.accepts track frame)
  | .evict _ _ => .evicted
  | .window track frame column length => .window (history.window? track frame column length)

/-- The answers to calls made one after the other. -/
def answers (history : History σ) : List HistoryCall → List HistoryAnswer
  | [] => []
  | call :: rest => history.answer call :: (history.after call).answers rest

end Calls

end History

/-- The rows of each track, oldest first, however many there are. -/
abbrev HistoryLog := Nat → List HistoryRow

namespace HistoryLog

def empty : HistoryLog := fun _ => []

/-- Whether a frame is later than those of all rows of a track. -/
def accepts (log : HistoryLog) (track frame : Nat) : Bool :=
  (log track).all fun row => decide (row.frame < frame)

def push (log : HistoryLog) (track frame : Nat) (values : List Value) : HistoryLog :=
  if log.accepts track frame then Function.update log track (log track ++ [⟨frame, values⟩])
  else log

/-- Only the tracks that are not kept lose their rows. -/
def evict (log : HistoryLog) (keep : Nat → Bool) : HistoryLog := fun track =>
  if keep track then log track else []

/-- The value in a column of the row on a frame. -/
def value? (rows : List HistoryRow) (column frame : Nat) : Option Value :=
  (rows.find? fun row => decide (row.frame = frame)).bind fun row => row.values[column]?

/-- The values on the `length` frames before a frame, oldest first, if there is one on each. -/
def window? (log : HistoryLog) (track frame column length : Nat) : Option (List Value) :=
  if frame < length then none
  else (List.range' (frame - length) length).mapM (value? (log track) column)

def after (log : HistoryLog) : HistoryCall → HistoryLog
  | .push track frame values => log.push track frame values
  | .evict _ keep => log.evict keep
  | .window _ _ _ _ => log

def answer (log : HistoryLog) : HistoryCall → HistoryAnswer
  | .push track frame _ => .pushed (log.accepts track frame)
  | .evict _ _ => .evicted
  | .window track frame column length => .window (log.window? track frame column length)

def answers (log : HistoryLog) : List HistoryCall → List HistoryAnswer
  | [] => []
  | call :: rest => log.answer call :: answers (log.after call) rest

end HistoryLog

namespace HistoryCall

/-! ## Calls in order -/

/-- The track and the frame of a row that is pushed. -/
def pushed? : HistoryCall → Option (Nat × Nat)
  | push track frame _ => some (track, frame)
  | _ => none

/-- The frame up to which rows are evicted. -/
def evicted? : HistoryCall → Option Nat
  | evict frame _ => some frame
  | _ => none

def pushes (done : List HistoryCall) : List (Nat × Nat) := done.filterMap pushed?

def evictions (done : List HistoryCall) : List Nat := done.filterMap evicted?

/-- Everything that has happened to a track lies before a frame. -/
def Behind (done : List HistoryCall) (track frame : Nat) : Prop :=
  (∀ entry ∈ pushes done, entry.1 = track → entry.2 < frame) ∧ ∀ other ∈ evictions done, other < frame

instance (done : List HistoryCall) (track frame : Nat) : Decidable (Behind done track frame) :=
  inferInstanceAs (Decidable (_ ∧ _))

/-- What a call may ask for after others. An eviction is no earlier than any frame pushed and earlier
than all frames pushed later; a window ends after everything that has happened to its track. -/
def Allowed (capacity : Nat) (done : List HistoryCall) : HistoryCall → Prop
  | push _ frame _ => ∀ other ∈ evictions done, other < frame
  | evict frame _ => ∀ entry ∈ pushes done, entry.2 ≤ frame
  | window track frame _ length => length ≤ capacity ∧ Behind done track frame

instance (capacity : Nat) (done : List HistoryCall) (call : HistoryCall) :
    Decidable (Allowed capacity done call) := by
  cases call <;> unfold Allowed <;> infer_instance

/-- Calls of which each is allowed after those before it. -/
def Disciplined (capacity : Nat) (done : List HistoryCall) : List HistoryCall → Prop
  | [] => True
  | call :: rest => Allowed capacity done call ∧ Disciplined capacity (done ++ [call]) rest

instance decidableDisciplined (capacity : Nat) (done calls : List HistoryCall) :
    Decidable (Disciplined capacity done calls) :=
  match calls with
  | [] => inferInstanceAs (Decidable True)
  | call :: rest =>
      have : Decidable (Disciplined capacity (done ++ [call]) rest) :=
        decidableDisciplined capacity (done ++ [call]) rest
      inferInstanceAs (Decidable (_ ∧ _))

variable {done : List HistoryCall} {track frame : Nat}

theorem mem_pushes_append {entry : Nat × Nat} (call : HistoryCall) (member : entry ∈ pushes done) :
    entry ∈ pushes (done ++ [call]) := by
  unfold pushes
  rw [List.filterMap_append]
  exact List.mem_append_left _ member

theorem mem_evictions_append {other : Nat} (call : HistoryCall) (member : other ∈ evictions done) :
    other ∈ evictions (done ++ [call]) := by
  unfold evictions
  rw [List.filterMap_append]
  exact List.mem_append_left _ member

theorem mem_pushes_push (done : List HistoryCall) (track frame : Nat) (values : List Value) :
    (track, frame) ∈ pushes (done ++ [push track frame values]) := by
  unfold pushes
  rw [List.filterMap_append]
  exact List.mem_append_right _ List.mem_cons_self

theorem mem_evictions_evict (done : List HistoryCall) (frame : Nat) (keep : Nat → Bool) :
    frame ∈ evictions (done ++ [evict frame keep]) := by
  unfold evictions
  rw [List.filterMap_append]
  exact List.mem_append_right _ List.mem_cons_self

theorem Behind.earlier {call : HistoryCall} (behind : Behind (done ++ [call]) track frame) :
    Behind done track frame := by
  constructor
  · intro entry member
    exact behind.1 entry (mem_pushes_append call member)
  · intro other member
    exact behind.2 other (mem_evictions_append call member)

end HistoryCall

namespace History

open HistoryCall

/-! ## A window by its frames -/

theorem value?_of_mem
    {rows : List HistoryRow} (ascending : Ascending rows) {row : HistoryRow} (member : row ∈ rows)
    (column : Nat) :
    HistoryLog.value? rows column row.frame = row.values[column]? := by
  unfold HistoryLog.value?
  cases found : rows.find? fun other => decide (other.frame = row.frame) with
  | none =>
      have absent := List.find?_eq_none.mp found row member
      simp at absent
  | some other =>
      have same : other.frame = row.frame := by simpa using List.find?_some found
      rw [eq_of_frame_eq ascending (List.mem_of_find?_eq_some found) member same]
      rfl

/-- Rows too old to be looked for make no difference. -/
theorem value?_recent {bound frame : Nat} (reached : bound ≤ frame) (rows : List HistoryRow)
    (column : Nat) :
    HistoryLog.value? (recent bound rows) column frame = HistoryLog.value? rows column frame := by
  unfold HistoryLog.value? recent
  rw [List.find?_filter]
  congr 2
  funext row
  by_cases same : row.frame = frame
  · simp [same, reached]
  · simp [same]

theorem mapM_eq_none {β γ : Type} {read : β → Option γ} {items : List β} {item : β}
    (member : item ∈ items) (absent : read item = none) :
    items.mapM read = none := by
  induction items with
  | nil => exact absurd member List.not_mem_nil
  | cons first rest inductionHypothesis =>
      rw [List.mapM_cons]
      rcases List.mem_cons.mp member with rfl | inRest
      · rw [absent]
        rfl
      · rw [inductionHypothesis inRest]
        cases read first <;> rfl

theorem mapM_congr {β γ : Type} {read other : β → Option γ} {items : List β}
    (same : ∀ item ∈ items, read item = other item) :
    items.mapM read = items.mapM other := by
  induction items with
  | nil => rfl
  | cons item rest inductionHypothesis =>
      have later := inductionHypothesis fun one member =>
        same one (List.mem_cons_of_mem item member)
      rw [List.mapM_cons, List.mapM_cons, same item List.mem_cons_self, later]

variable {history : History} {track frame : Nat}

/-- Counting the rows of a window comes to looking for each of its frames. -/
theorem window?_eq_mapM
    (ascending : Ascending (history.rowsOf track)) {column length : Nat} (short : length ≤ frame) :
    history.window? track frame column length =
      (List.range' (frame - length) length).mapM
        (HistoryLog.value? (history.rowsOf track) column) := by
  by_cases present : ∀ other, frame - length ≤ other → other < frame →
      ∃ row ∈ history.rowsOf track, row.frame = other
  · have frames := frames_inside ascending short present
    have full : (inside (history.rowsOf track) frame length).length = length := by
      have count := congrArg List.length frames
      rwa [List.length_map, List.length_range'] at count
    have reads : (inside (history.rowsOf track) frame length).mapM (fun row =>
        row.values[column]?) =
          (inside (history.rowsOf track) frame length).mapM
            (HistoryLog.value? (history.rowsOf track) column ∘ HistoryRow.frame) := by
      refine mapM_congr fun row member => ?_
      exact (value?_of_mem ascending (mem_inside.mp member).1 column).symm
    rw [← frames, List.mapM_map, ← reads, window?_eq_if, if_neg (Nat.not_lt.mpr short), if_pos full]
    by_cases zero : length = 0
    · have none : inside (history.rowsOf track) frame length = [] :=
        List.eq_nil_of_length_eq_zero (full.trans zero)
      rw [if_pos zero, none]
      exact congrArg some rfl
    · exact if_neg zero
  · push Not at present
    obtain ⟨other, first, last, absent⟩ := present
    have missing : HistoryLog.value? (history.rowsOf track) column other = none := by
      unfold HistoryLog.value?
      rw [List.find?_eq_none.mpr fun row member => by simpa using absent row member]
      rfl
    rw [mapM_eq_none (List.mem_range'_1.mpr ⟨first, by omega⟩) missing]
    cases found : history.window? track frame column length with
    | none => rfl
    | some values =>
        obtain ⟨row, member, named⟩ := (exists_row_of_window? ascending found).2 other first last
        exact absurd named (absent row member)

theorem window?_of_long {column length : Nat} (long : frame < length) :
    history.window? track frame column length = none := by
  unfold window?
  rw [if_neg (by omega), if_pos long]

/-! ## Rows kept beside rows logged -/

/-- How the rows kept for a track relate to all of them. -/
structure Abridges (capacity : Nat) (done : List HistoryCall) (track : Nat)
    (kept logged : List HistoryRow) : Prop where
  sublist : kept.Sublist logged
  ascending : Ascending logged
  pushed : ∀ row ∈ logged, (track, row.frame) ∈ pushes done
  /-- The last row is kept, unless an eviction came after it. -/
  settled : ∀ row ∈ logged,
    (∃ other ∈ kept, row.frame ≤ other.frame) ∨ ∃ other ∈ evictions done, row.frame ≤ other
  /-- What windows can reach is kept. -/
  near : ∀ bound, Behind done track (bound + capacity) → recent bound kept = recent bound logged

namespace Abridges

variable {capacity : Nat} {done : List HistoryCall} {kept logged : List HistoryRow}

theorem nil (capacity : Nat) (done : List HistoryCall) (track : Nat) :
    Abridges capacity done track [] [] where
  sublist := List.Sublist.refl []
  ascending := List.Pairwise.nil
  pushed := fun _ member => absurd member List.not_mem_nil
  settled := fun _ member => absurd member List.not_mem_nil
  near := fun _ _ => rfl

/-- A call that leaves the rows of a track alone. -/
theorem later (abridges : Abridges capacity done track kept logged) (call : HistoryCall) :
    Abridges capacity (done ++ [call]) track kept logged where
  sublist := abridges.sublist
  ascending := abridges.ascending
  pushed := fun row member => mem_pushes_append call (abridges.pushed row member)
  settled := by
    intro row member
    rcases abridges.settled row member with here | ⟨other, evicted, upper⟩
    · exact Or.inl here
    · exact Or.inr ⟨other, mem_evictions_append call evicted, upper⟩
  near := fun bound behind => abridges.near bound behind.earlier

/-- A frame after all evictions is later than the rows kept exactly if it is later than all rows. -/
theorem isFollowed_iff (abridges : Abridges capacity done track kept logged) (room : 0 < capacity)
    (allowed : ∀ other ∈ evictions done, other < frame) :
    isFollowed capacity kept frame ↔ ∀ row ∈ logged, row.frame < frame := by
  constructor
  · intro followed row member
    rcases abridges.settled row member with ⟨other, listed, upper⟩ | ⟨other, evicted, upper⟩
    · have before := lt_of_isFollowed (abridges.ascending.sublist abridges.sublist) followed listed
      omega
    · have before := allowed other evicted
      omega
  · intro before
    exact isFollowed_of_lt room fun row member => before row (abridges.sublist.subset member)

theorem push (abridges : Abridges capacity done track kept logged) (room : 0 < capacity)
    {values : List Value} (before : ∀ row ∈ logged, row.frame < frame) :
    Abridges capacity (done ++ [.push track frame values]) track
      (pushRow capacity kept ⟨frame, values⟩) (logged ++ [⟨frame, values⟩]) := by
  have ascending := abridges.ascending.sublist abridges.sublist
  have beforeKept : ∀ row ∈ kept, row.frame < frame := fun row member =>
    before row (abridges.sublist.subset member)
  have new : (⟨frame, values⟩ : HistoryRow) ∈ pushRow capacity kept ⟨frame, values⟩ :=
    mem_pushRow_new room beforeKept
  have upper : ∀ row ∈ logged ++ [⟨frame, values⟩], row.frame ≤ frame := by
    intro row member
    rcases List.mem_append.mp member with old | here
    · exact Nat.le_of_lt (before row old)
    · rw [List.mem_singleton.mp here]
  constructor
  · unfold pushRow
    rw [if_pos (isFollowed_of_lt room beforeKept)]
    apply List.Sublist.append _ (List.Sublist.refl _)
    split
    · exact abridges.sublist
    · exact (List.tail_sublist kept).trans abridges.sublist
  · refine List.pairwise_append.mpr ⟨abridges.ascending, List.pairwise_singleton _ _, ?_⟩
    intro row member other here
    rw [List.mem_singleton.mp here]
    exact before row member
  · intro row member
    rcases List.mem_append.mp member with old | here
    · exact mem_pushes_append _ (abridges.pushed row old)
    · rw [List.mem_singleton.mp here]
      exact mem_pushes_push done track frame values
  · intro row member
    exact Or.inl ⟨_, new, upper row member⟩
  · intro bound behind
    -- a full track loses its first row, which lies before all that a later window can reach
    have reached := behind.1 _ (mem_pushes_push done track frame values) rfl
    rw [recent_pushRow ascending beforeKept reached]
    unfold recent
    rw [List.filter_append, List.filter_append]
    congr 1
    exact abridges.near bound behind.earlier

theorem evict (abridges : Abridges capacity done track kept logged) {keep : Nat → Bool}
    (allowed : ∀ entry ∈ pushes done, entry.2 ≤ frame) :
    Abridges capacity (done ++ [.evict frame keep]) track
      (recent (frame + 1 - capacity) kept) logged := by
  have evicted := mem_evictions_evict done frame keep
  constructor
  · exact List.filter_sublist.trans abridges.sublist
  · exact abridges.ascending
  · intro row member
    exact mem_pushes_append _ (abridges.pushed row member)
  · intro row member
    exact Or.inr ⟨frame, evicted, allowed _ (abridges.pushed row member)⟩
  · intro bound behind
    -- no window ends before the frame evicted, so none reaches below its cut-off
    have reached := behind.2 frame evicted
    rw [recent_recent (by omega)]
    exact abridges.near bound behind.earlier

theorem value?_eq (abridges : Abridges capacity done track kept logged) {length other : Nat}
    (short : length ≤ capacity) (behind : Behind done track frame) (first : frame - length ≤ other)
    (column : Nat) :
    HistoryLog.value? kept column other = HistoryLog.value? logged column other := by
  have further : Behind done track (frame - length + capacity) := by
    constructor
    · intro entry member same
      have before := behind.1 entry member same
      omega
    · intro gone member
      have before := behind.2 gone member
      omega
  calc HistoryLog.value? kept column other
      = HistoryLog.value? (recent (frame - length) kept) column other :=
        (value?_recent first kept column).symm
    _ = HistoryLog.value? (recent (frame - length) logged) column other := by
        rw [abridges.near _ further]
    _ = HistoryLog.value? logged column other := value?_recent first logged column

end Abridges

/-! ## A history beside its log -/

/-- A history after calls beside the log after the same calls. -/
structure Follows (capacity : Nat) (done : List HistoryCall) (history : History)
    (log : HistoryLog) : Prop where
  distinct : history.Distinct
  capacity_eq : history.capacity = capacity
  abridges : ∀ track, Abridges capacity done track (history.rowsOf track) (log track)

namespace Follows

variable {capacity : Nat} {done : List HistoryCall} {log : HistoryLog}

theorem empty (columns : List String) (capacity : Nat) :
    Follows capacity [] (History.empty columns capacity) HistoryLog.empty where
  distinct := distinct_of_rows_eq_nil rfl
  capacity_eq := rfl
  abridges := fun track => Abridges.nil capacity [] track

theorem ascending (follows : Follows capacity done history log) (track : Nat) :
    Ascending (history.rowsOf track) :=
  (follows.abridges track).ascending.sublist (follows.abridges track).sublist

theorem accepts_eq (follows : Follows capacity done history log) (room : 0 < capacity)
    (allowed : ∀ other ∈ evictions done, other < frame) :
    history.accepts track frame = log.accepts track frame := by
  rw [History.accepts_eq, follows.capacity_eq, Bool.eq_iff_iff,
    (follows.abridges track).isFollowed_iff room allowed]
  simp [HistoryLog.accepts]

theorem window?_eq (follows : Follows capacity done history log) {column length : Nat}
    (short : length ≤ capacity) (behind : Behind done track frame) :
    history.window? track frame column length = log.window? track frame column length := by
  unfold HistoryLog.window?
  split
  · rename_i long
    exact window?_of_long long
  · rename_i inReach
    rw [window?_eq_mapM (follows.ascending track) (Nat.le_of_not_lt inReach)]
    refine mapM_congr fun other member => ?_
    have first := (List.mem_range'_1.mp member).1
    exact (follows.abridges track).value?_eq short behind first column

theorem push (follows : Follows capacity done history log) (room : 0 < capacity)
    (values : List Value) (allowed : ∀ other ∈ evictions done, other < frame) :
    Follows capacity (done ++ [.push track frame values]) (history.push track frame values)
      (log.push track frame values) := by
  constructor
  · exact distinct_push follows.distinct track frame values
  · rw [capacity_push, follows.capacity_eq]
  · intro other
    -- the history and the log judge the row alike, so both take it or neither does
    have unchanged := (follows.abridges other).later (.push track frame values)
    have followed := (follows.abridges track).isFollowed_iff room allowed
    rw [rowsOf_push follows.distinct, follows.capacity_eq]
    unfold HistoryLog.push
    split
    · rename_i same
      subst same
      split
      · rename_i accepted
        have before : ∀ row ∈ log other, row.frame < frame := by
          simpa [HistoryLog.accepts] using accepted
        rw [Function.update_self]
        exact (follows.abridges other).push room before
      · rename_i refused
        have late : ¬ isFollowed capacity (history.rowsOf other) frame := by
          intro early
          exact refused (by simpa [HistoryLog.accepts] using followed.mp early)
        unfold pushRow
        rw [if_neg late]
        exact unchanged
    · rename_i apart
      split
      · rw [Function.update_of_ne apart]
        exact unchanged
      · exact unchanged

theorem evict (follows : Follows capacity done history log) (keep : Nat → Bool)
    (allowed : ∀ entry ∈ pushes done, entry.2 ≤ frame) :
    Follows capacity (done ++ [.evict frame keep]) (history.evict frame keep) (log.evict keep) := by
  constructor
  · exact distinct_evict follows.distinct frame keep
  · exact follows.capacity_eq
  · intro track
    rw [rowsOf_evict follows.distinct]
    unfold HistoryLog.evict
    split
    · rw [show history.cutoff frame = frame + 1 - capacity by rw [← follows.capacity_eq]; rfl]
      exact (follows.abridges track).evict allowed
    · exact Abridges.nil capacity _ track

theorem step (follows : Follows capacity done history log) (room : 0 < capacity)
    {call : HistoryCall} (allowed : Allowed capacity done call) :
    history.answer call = log.answer call ∧
      Follows capacity (done ++ [call]) (history.after call) (log.after call) := by
  cases call with
  | push track frame values =>
      exact ⟨congrArg HistoryAnswer.pushed (follows.accepts_eq room allowed),
        follows.push room values allowed⟩
  | evict frame keep => exact ⟨rfl, follows.evict keep allowed⟩
  | window track frame column length =>
      obtain ⟨short, behind⟩ := allowed
      refine ⟨congrArg HistoryAnswer.window (follows.window?_eq short behind), ?_⟩
      exact ⟨follows.distinct, follows.capacity_eq, fun other => (follows.abridges other).later _⟩

theorem answers_eq (follows : Follows capacity done history log) (room : 0 < capacity)
    {calls : List HistoryCall} (disciplined : Disciplined capacity done calls) :
    history.answers calls = log.answers calls := by
  induction calls generalizing done history log with
  | nil => rfl
  | cons call rest inductionHypothesis =>
      obtain ⟨allowed, disciplined⟩ := disciplined
      obtain ⟨same, follows⟩ := follows.step room allowed
      unfold answers HistoryLog.answers
      rw [same, inductionHypothesis follows disciplined]

end Follows

/-- Calls in order cannot tell a history from a log of everything that was accepted. -/
theorem answers_eq_log
    (columns : List String) {capacity : Nat} (room : 0 < capacity) {calls : List HistoryCall}
    (disciplined : Disciplined capacity [] calls) :
    (empty columns capacity).answers calls = HistoryLog.empty.answers calls :=
  (Follows.empty columns capacity).answers_eq room disciplined

/-- A full track, a stale row, an eviction, a gap and a track that is dropped and comes back. -/
def turnover : List HistoryCall :=
  [.push 1 4 [.bool true], .push 1 5 [.bool false], .push 2 5 [.null], .push 1 5 [.null],
    .push 1 6 [.bool true], .window 1 7 0 2, .window 1 7 1 1, .evict 6 fun track => track = 1,
    .window 2 7 0 1, .window 1 7 0 2, .push 1 8 [.null], .push 2 8 [.bool true], .window 1 9 0 2,
    .push 1 9 [.bool true], .window 1 10 0 2, .window 2 10 0 0]

theorem answers_eq_log_turnover :
    Disciplined 2 [] turnover ∧
      (empty ["seen"] 2).answers turnover = HistoryLog.empty.answers turnover ∧
      HistoryLog.empty.answers turnover =
        [.pushed true, .pushed true, .pushed true, .pushed false, .pushed true,
          .window (some [.bool false, .bool true]), .window none, .evicted, .window none,
          .window (some [.bool false, .bool true]), .pushed true, .pushed true, .window none,
          .pushed true, .window (some [.null, .bool true]), .window (some [])] :=
  ⟨by decide, answers_eq_log ["seen"] (by decide) (by decide), by rfl⟩

end History

end ObjectQuery
