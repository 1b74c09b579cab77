import Mathlib.Algebra.GroupWithZero.Nat
import ObjectQuery.Proofs.HistoryLog

/-!
# Marks and stored rows

The rows of all tracks share one storage, whose keys are used again. Whatever rows are added and dropped,
marks and stored rows match: no key is left in use without a mark, no two marks share a key, and no mark
leads to nothing (`Sound`). A call drops some marks with their rows and adds at most one, so that the
rows that were ever accepted are those stored and those dropped (`stored_run`).
-/

namespace ObjectQuery

/-- Whether a row was pushed and accepted. -/
def HistoryAnswer.isAccepted : HistoryAnswer → Bool
  | .pushed accepted => accepted
  | .evicted => false
  | .window _ => false

namespace History

variable {σ : Type → Type} [Storage σ] {history : History σ} {track frame : Nat}

/-- The history after calls made one after the other. -/
def run (history : History σ) (calls : List HistoryCall) : History σ := calls.foldl after history

/-! ## Rings -/

/-- The marks of a track: at least one, no more than there may be, in the order of their frames. -/
structure SoundRing (capacity : Nat) (ring : List RowMark) : Prop where
  filled : ring ≠ []
  within : ring.length ≤ capacity
  ascending : (ring.map RowMark.frame).Pairwise (· < ·)

/-- A ring with the mark of a new row, after a full one has dropped its first. -/
def ringWith (capacity : Nat) (ring : List RowMark) (mark : RowMark) : List RowMark :=
  (if ring.length < capacity then ring else ring.drop 1) ++ [mark]

theorem sublist_room (capacity : Nat) (ring : List RowMark) :
    (if ring.length < capacity then ring else ring.drop 1).Sublist ring := by
  split
  · exact List.Sublist.refl ring
  · exact List.drop_sublist 1 ring

theorem soundRing_ringWith {capacity : Nat} {ring : List RowMark} {mark : RowMark}
    (room : 0 < capacity) (within : ring.length ≤ capacity)
    (ascending : (ring.map RowMark.frame).Pairwise (· < ·))
    (before : ∀ other ∈ ring, other.frame < mark.frame) :
    SoundRing capacity (ringWith capacity ring mark) where
  filled := by simp [ringWith]
  within := by
    rw [ringWith, List.length_append, List.length_singleton]
    split
    · omega
    · rw [List.length_drop]
      omega
  ascending := by
    have kept := (sublist_room capacity ring).map RowMark.frame
    rw [ringWith, List.map_append, List.map_singleton]
    refine List.pairwise_append.mpr ⟨ascending.sublist kept, List.pairwise_singleton _ _, ?_⟩
    intro earlier member later here
    obtain ⟨other, listed, rfl⟩ := List.mem_map.mp (kept.subset member)
    rw [List.mem_singleton.mp here]
    exact before other listed

theorem soundRing_filter {capacity : Nat} {ring : List RowMark} (sound : SoundRing capacity ring)
    {condition : RowMark → Bool} (filled : ring.filter condition ≠ []) :
    SoundRing capacity (ring.filter condition) where
  filled := filled
  within := (List.length_filter_le ..).trans sound.within
  ascending := sound.ascending.sublist (List.filter_sublist.map RowMark.frame)

/-! ## Marks and keys -/

/-- The marks and what is stored match. -/
structure Matched (history : History σ) : Prop extends Distinct history where
  /-- What is stored has a mark. -/
  marked : ∀ key, (Storage.read? history.cells key).isSome → key ∈ history.marks.map RowMark.key

/-- The marks and what is stored match, and the ring of each track is sound. -/
structure Sound (history : History σ) : Prop extends Matched history where
  rings : ∀ entry ∈ history.rings, SoundRing history.capacity entry.2

section Matched

variable [LawfulStorage σ]

theorem matched_without {dropped : List RowMark} {rings : Keyed Nat (List RowMark)}
    (divides : history.Divides dropped rings) (matched : history.Matched)
    (once : rings.keys.Nodup) : (history.without dropped rings).Matched where
  toDistinct := divides.distinct_without matched.toDistinct once
  marked := by
    intro key used
    rw [divides.read?_cells matched.toDistinct] at used
    by_cases erased : key ∈ dropped.map RowMark.key
    · rw [if_pos erased] at used
      exact absurd used (by simp)
    · rw [if_neg erased] at used
      have present := (divides.map RowMark.key).symm.subset (matched.marked key used)
      rw [List.map_append] at present
      exact (List.mem_append.mp present).resolve_left erased

theorem matched_makeRoom (matched : history.Matched) (track : Nat) :
    (history.makeRoom track).Matched := by
  unfold makeRoom
  split
  · exact matched
  · exact matched_without (divides_makeRoom history track) matched
      (nodup_keys_put matched.once ..)

theorem matched_append (matched : history.Matched) (track frame : Nat) (values : List Value) :
    (history.append track frame values).Matched where
  toDistinct := matched.toDistinct.append track frame values
  marked := by
    intro key used
    have marks := (perm_append history track frame values).map RowMark.key
    rw [read?_append] at used
    by_cases new : key = (history.newMark frame values).key
    · exact marks.symm.subset (new ▸ List.mem_cons_self)
    · rw [if_neg new] at used
      exact marks.symm.subset (List.mem_cons_of_mem _ (matched.marked key used))

theorem matched_push (matched : history.Matched) (track frame : Nat) (values : List Value) :
    (history.push track frame values).Matched := by
  unfold push
  split
  · exact matched_append (matched_makeRoom matched track) track frame values
  · exact matched

theorem matched_evict (matched : history.Matched) (frame : Nat) (keep : Nat → Bool) :
    (history.evict frame keep).Matched :=
  matched_without (divides_evict history frame keep) matched
    (matched.once.sublist (keys_outlasting_sublist history frame keep))

end Matched

/-! ## Rings after a call -/

theorem rings_push (accepted : history.accepts track frame) (values : List Value) :
    (history.push track frame values).rings =
      history.rings.put track (ringWith history.capacity (history.ringOf track)
        ((history.makeRoom track).newMark frame values)) := by
  rw [push, if_pos accepted, rings_append, ringWith, makeRoom]
  by_cases room : (history.ringOf track).length < history.capacity
  · rw [if_pos room, if_pos room]
  · rw [if_neg room, if_neg room]
    change ((history.rings.put track _).put track
      (((history.rings.put track _).find? track).getD [] ++ _)) = _
    rw [Keyed.put_put, Keyed.find?_put, if_pos rfl, Option.getD_some]

namespace Sound

theorem within_ringOf (sound : history.Sound) (track : Nat) :
    (history.ringOf track).length ≤ history.capacity := by
  rw [ringOf]
  cases found : history.rings.find? track with
  | none => exact Nat.zero_le _
  | some ring => exact (sound.rings _ (Keyed.mem_of_find? found)).within

theorem ascending_ringOf (sound : history.Sound) (track : Nat) :
    ((history.ringOf track).map RowMark.frame).Pairwise (· < ·) := by
  rw [ringOf]
  cases found : history.rings.find? track with
  | none => exact List.Pairwise.nil
  | some ring => exact (sound.rings _ (Keyed.mem_of_find? found)).ascending

/-- A row that is accepted is on a later frame than all others of its track. -/
theorem before_of_accepts (sound : history.Sound) (accepted : history.accepts track frame) :
    ∀ mark ∈ history.ringOf track, mark.frame < frame := by
  intro mark member
  have ascending : Ascending (history.rowsOf track) := by
    rw [rowsOf_eq_map]
    exact List.pairwise_map.mpr (List.pairwise_map.mp (sound.ascending_ringOf track))
  have listed : history.rowAt mark ∈ history.rowsOf track := by
    rw [rowsOf_eq_map]
    exact List.mem_map_of_mem member
  rw [accepts_eq] at accepted
  exact lt_of_isFollowed ascending accepted listed

variable [LawfulStorage σ]

theorem push (sound : history.Sound) (track frame : Nat) (values : List Value) :
    (history.push track frame values).Sound where
  toMatched := matched_push sound.toMatched track frame values
  rings := by
    rw [capacity_push]
    intro entry member
    by_cases accepted : history.accepts track frame
    · rw [rings_push accepted] at member
      rcases Keyed.mem_put member with rfl | old
      · have room : 0 < history.capacity := of_decide_eq_true (Bool.and_eq_true_iff.mp accepted).1
        exact soundRing_ringWith room (sound.within_ringOf track) (sound.ascending_ringOf track)
          (sound.before_of_accepts accepted)
      · exact sound.rings entry old
    · rw [History.push, if_neg accepted] at member
      exact sound.rings entry member

theorem evict (sound : history.Sound) (frame : Nat) (keep : Nat → Bool) :
    (history.evict frame keep).Sound where
  toMatched := matched_evict sound.toMatched frame keep
  rings := by
    intro entry member
    obtain ⟨inside, filled⟩ := List.mem_filter.mp member
    obtain ⟨old, listed, rfl⟩ := List.mem_map.mp inside
    exact soundRing_filter (sound.rings old listed) (by simpa using filled)

theorem after (sound : history.Sound) (call : HistoryCall) : (history.after call).Sound := by
  cases call with
  | push track frame values => exact sound.push track frame values
  | evict frame keep => exact sound.evict frame keep
  | window => exact sound

theorem run (sound : history.Sound) (calls : List HistoryCall) : (history.run calls).Sound := by
  induction calls generalizing history with
  | nil => exact sound
  | cons call rest inductionHypothesis => exact inductionHypothesis (sound.after call)

end Sound

theorem sound_start [LawfulStorage σ] (columns : List String) (capacity : Nat) :
    (start columns capacity : History σ).Sound where
  toDistinct := distinct_of_rows_eq_nil rfl
  marked := by
    intro key used
    rw [start, LawfulStorage.read?_empty] at used
    exact absurd used (by simp)
  rings := fun _ member => absurd member List.not_mem_nil

/-! ## How many rows there are -/

theorem stored_without {dropped : List RowMark} {rings : Keyed Nat (List RowMark)}
    (divides : history.Divides dropped rings) :
    (history.without dropped rings).marks.length + (history.without dropped rings).evicted =
      history.marks.length + history.evicted := by
  have lengths := divides.length_eq
  rw [List.length_append] at lengths
  change rings.values.flatten.length + (history.evicted + dropped.length) = _
  omega

theorem stored_makeRoom (history : History σ) (track : Nat) :
    (history.makeRoom track).marks.length + (history.makeRoom track).evicted =
      history.marks.length + history.evicted := by
  unfold makeRoom
  split
  · rfl
  · exact stored_without (divides_makeRoom history track)

/-- A call stores one row more, or as many as before, if those that are dropped are counted in. -/
theorem stored_after (history : History σ) (call : HistoryCall) :
    (history.after call).marks.length + (history.after call).evicted =
      history.marks.length + history.evicted + (if (history.answer call).isAccepted then 1 else 0) := by
  cases call with
  | push track frame values =>
      change (history.push track frame values).marks.length +
        (history.push track frame values).evicted =
          _ + (if history.accepts track frame then 1 else 0)
      by_cases accepted : history.accepts track frame
      · have added := (perm_append (history.makeRoom track) track frame values).length_eq
        have room := stored_makeRoom history track
        rw [List.length_cons] at added
        rw [push, if_pos accepted, if_pos accepted, added, ← room]
        change _ + 1 + (history.makeRoom track).evicted = _
        omega
      · rw [push, if_neg accepted, if_neg accepted, Nat.add_zero]
  | evict frame keep => exact stored_without (divides_evict history frame keep)
  | window => rfl

theorem stored_run (history : History σ) (calls : List HistoryCall) :
    (history.run calls).marks.length + (history.run calls).evicted =
      history.marks.length + history.evicted +
        (history.answers calls).countP HistoryAnswer.isAccepted := by
  induction calls generalizing history with
  | nil => rfl
  | cons call rest inductionHypothesis =>
      rw [answers, List.countP_cons]
      refine (inductionHypothesis (history.after call)).trans ?_
      rw [stored_after]
      omega

section Counted

variable {σ : Type → Type} [CountedStorage σ] [LawfulCount σ]

theorem Sound.size_eq {history : History σ} (sound : history.Sound) :
    history.size = (history.rings.values.map List.length).sum := by
  have occupied (key : Nat) : key ∈ history.marks.map RowMark.key ↔
      (Storage.read? history.cells key).isSome := by
    refine ⟨fun member => ?_, sound.marked key⟩
    obtain ⟨mark, listed, rfl⟩ := List.mem_map.mp member
    exact sound.stored mark listed
  rw [size, LawfulCount.size_eq history.cells _ sound.apart occupied, List.length_map, marks,
    List.length_flatten]

/-- Whatever rows are pushed and evicted, the marks and what is stored match and each ring is sound, there
are as many rows as marks, and the rows that were accepted are those stored and those dropped. -/
theorem sound_of_calls [LawfulStorage σ] (columns : List String) (capacity : Nat)
    (calls : List HistoryCall) :
    ((start columns capacity : History σ).run calls).Sound ∧
      ((start columns capacity : History σ).run calls).size =
        (((start columns capacity : History σ).run calls).rings.values.map List.length).sum ∧
      ((start columns capacity : History σ).answers calls).countP HistoryAnswer.isAccepted =
        ((start columns capacity : History σ).run calls).size +
          ((start columns capacity : History σ).run calls).evicted := by
  have sound := (sound_start columns capacity : (start columns capacity : History σ).Sound).run calls
  have size := sound.size_eq
  have stored := stored_run (start columns capacity : History σ) calls
  refine ⟨sound, size, ?_⟩
  rw [marks, List.length_flatten, ← size] at stored
  refine Eq.trans ?_ stored.symm
  change _ = 0 + 0 + _
  omega

end Counted

/-- A full track, a stale row, an eviction of a whole track and of a row of another one, and two keys
that go to other tracks. -/
def handover : List HistoryCall :=
  [.push 1 4 [.bool true], .push 2 4 [.null], .push 2 5 [.null], .push 2 6 [.bool false],
    .push 2 6 [.null], .evict 7 fun track => track = 2, .push 3 8 [.null], .push 2 8 [.bool true]]

theorem sound_of_calls_handover :
    ((start ["seen"] 2 : History Slots).run handover).rings =
        [(2, [⟨6, 1⟩, ⟨8, 0⟩]), (3, [⟨8, 2⟩])] ∧
      ((start ["seen"] 2 : History Slots).run handover).Sound ∧
      ((start ["seen"] 2 : History Slots).run handover).size =
        (((start ["seen"] 2 : History Slots).run handover).rings.values.map List.length).sum ∧
      ((start ["seen"] 2 : History Slots).answers handover).countP HistoryAnswer.isAccepted =
        ((start ["seen"] 2 : History Slots).run handover).size +
          ((start ["seen"] 2 : History Slots).run handover).evicted :=
  ⟨by decide, sound_of_calls ["seen"] 2 handover⟩

end History

end ObjectQuery
