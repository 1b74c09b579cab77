import ObjectQuery.Proofs.Tracking.Alike
import ObjectQuery.Proofs.Tracking.Bands

/-!
# Detections that are not used

A detection that is malformed or not above either threshold is discarded. Two runs whose frames differ in
discarded detections only, put in or taken out anywhere, report the same but for the number of malformed
detections and the places, which are shifted by what has been put in and taken out before them
(`Tracker.undisturbed_of_run`).
-/

namespace ObjectQuery

variable {α : Type} [Scalar α]

namespace Observation

/-- Whether a detection is malformed or not above either threshold. -/
def isDiscarded (settings : TrackerSettings α) (observation : Observation α) : Bool :=
  !observation.isWellFormed ||
    (decide (observation.score ≤ settings.lowScoreFloor) &&
      decide (observation.score ≤ settings.trackThreshold))

/-- Lists of detections that differ in discarded ones, which have been put in or taken out. -/
inductive Perturbed (settings : TrackerSettings α) (observations : List (Observation α)) :
    List (Observation α) → Prop
  | same : Perturbed settings observations observations
  | inserted {front back : List (Observation α)} (observation : Observation α) :
      Perturbed settings observations (front ++ back) → observation.isDiscarded settings = true →
        Perturbed settings observations (front ++ observation :: back)
  | deleted {front back : List (Observation α)} (observation : Observation α) :
      Perturbed settings observations (front ++ observation :: back) →
        observation.isDiscarded settings = true → Perturbed settings observations (front ++ back)

/-- A place of one list and a place of another one with the same detection: the places are as far apart as
the numbers of discarded detections before them. -/
structure SamePlace (settings : TrackerSettings α) (observations others : List (Observation α))
    (index index' : Nat) : Prop where
  detection : ∃ observation, observations[index]? = some observation ∧
    others[index']? = some observation ∧ observation.isDiscarded settings = false
  shift : index + (others.take index').countP (isDiscarded settings) =
    index' + (observations.take index).countP (isDiscarded settings)

variable {settings : TrackerSettings α} {observations others : List (Observation α)}

/-! ## The detections that are not discarded -/

/-- The detections that are not discarded. -/
def counted (settings : TrackerSettings α) (observations : List (Observation α)) :
    List (Observation α) :=
  observations.filter fun observation => !observation.isDiscarded settings

/-- The detections that are not discarded, with their places. -/
def countedAt (settings : TrackerSettings α) (observations : List (Observation α)) :
    List (Observation α × Nat) :=
  observations.zipIdx.filter fun entry => !entry.1.isDiscarded settings

/-- How many detections that are not discarded come before a place. -/
def rank (settings : TrackerSettings α) (observations : List (Observation α)) (index : Nat) : Nat :=
  (counted settings (observations.take index)).length

theorem Perturbed.counted_eq (perturbed : Perturbed settings observations others) :
    counted settings observations = counted settings others := by
  have drops {front back : List (Observation α)} {observation : Observation α}
      (discarded : observation.isDiscarded settings = true) :
      counted settings (front ++ observation :: back) = counted settings (front ++ back) := by
    simp [counted, discarded]
  induction perturbed with
  | same => rfl
  | inserted observation _ discarded inductionHypothesis => rw [inductionHypothesis, drops discarded]
  | deleted observation _ discarded inductionHypothesis => rw [inductionHypothesis, drops discarded]

theorem getElem?_of_mem_countedAt {entry : Observation α × Nat}
    (member : entry ∈ countedAt settings observations) :
    observations[entry.2]? = some entry.1 ∧ entry.1.isDiscarded settings = false := by
  obtain ⟨listed, kept⟩ := List.mem_filter.mp member
  exact ⟨List.mem_zipIdx_iff_getElem?.mp listed, by simpa using kept⟩

/-- The ranks of the detections count them up. -/
theorem map_rank_countedAt (settings : TrackerSettings α) (observations : List (Observation α)) :
    (countedAt settings observations).map (fun entry => (entry.1, rank settings observations entry.2)) =
      (counted settings observations).zipIdx := by
  induction observations using List.reverseRecOn with
  | nil => rfl
  | append_singleton observations last inductionHypothesis =>
      have earlier : (countedAt settings observations).map
          (fun entry => (entry.1, rank settings (observations ++ [last]) entry.2)) =
            (counted settings observations).zipIdx := by
        rw [← inductionHypothesis]
        refine List.map_congr_left fun entry member => ?_
        obtain ⟨bound, _⟩ := List.getElem?_eq_some_iff.mp (getElem?_of_mem_countedAt member).1
        rw [rank, rank, List.take_append_of_le_length (Nat.le_of_lt bound)]
      have whole : rank settings (observations ++ [last]) observations.length =
          (counted settings observations).length := by
        rw [rank, List.take_left]
      cases kept : !last.isDiscarded settings with
      | false =>
          have listed : countedAt settings (observations ++ [last]) = countedAt settings observations := by
            simp [countedAt, List.zipIdx_append, kept]
          have members : counted settings (observations ++ [last]) = counted settings observations := by
            simp [counted, kept]
          rw [listed, members, earlier]
      | true =>
          have listed : countedAt settings (observations ++ [last]) =
              countedAt settings observations ++ [(last, observations.length)] := by
            simp [countedAt, List.zipIdx_append, kept]
          have members : counted settings (observations ++ [last]) =
              counted settings observations ++ [last] := by
            simp [counted, kept]
          rw [listed, members, List.map_append, earlier, List.zipIdx_append]
          simp [whole]

theorem rank_add_countP (settings : TrackerSettings α) {index : Nat} (bound : index ≤ observations.length) :
    rank settings observations index + (observations.take index).countP (isDiscarded settings) = index := by
  have divided := (List.filter_append_perm (isDiscarded settings) (observations.take index)).length_eq
  rw [List.length_append, List.length_take, Nat.min_eq_left bound] at divided
  rw [rank, counted, List.countP_eq_length_filter, Nat.add_comm]
  exact divided

/-- Perturbed lists have the same detections in the same order. -/
theorem Perturbed.countedAt (perturbed : Perturbed settings observations others) :
    List.Forall₂ (fun entry entry' => entry.1 = entry'.1 ∧
        SamePlace settings observations others entry.2 entry'.2)
      (countedAt settings observations) (countedAt settings others) := by
  have ranks := (map_rank_countedAt settings observations).trans
    ((congrArg List.zipIdx perturbed.counted_eq).trans (map_rank_countedAt settings others).symm)
  rw [← List.forall₂_eq_eq_eq, related_map_iff] at ranks
  obtain ⟨full, link⟩ := List.forall₂_iff_zip.mp ranks
  refine List.forall₂_iff_zip.mpr ⟨full, ?_⟩
  intro entry entry' member
  obtain ⟨same, rank⟩ := Prod.mk.inj (link member)
  obtain ⟨inside, insideToo⟩ := List.of_mem_zip member
  obtain ⟨here, kept⟩ := getElem?_of_mem_countedAt inside
  obtain ⟨there, _⟩ := getElem?_of_mem_countedAt insideToo
  refine ⟨same, ⟨entry.1, here, same ▸ there, kept⟩, ?_⟩
  obtain ⟨bound, _⟩ := List.getElem?_eq_some_iff.mp here
  obtain ⟨bound', _⟩ := List.getElem?_eq_some_iff.mp there
  have first := rank_add_countP settings (Nat.le_of_lt bound)
  have second := rank_add_countP settings (Nat.le_of_lt bound')
  omega

/-- What is selected by scores that no discarded detection has. -/
theorem filter_sightings {uses : α → Bool}
    (used : ∀ observation : Observation α, observation.isWellFormed = true →
      uses observation.score = true → observation.isDiscarded settings = false)
    (observations : List (Observation α)) :
    (Tracker.sightings observations).filter (fun sighting => uses sighting.score) =
      ((countedAt settings observations).filter fun entry =>
        entry.1.isWellFormed && uses entry.1.score).map fun entry =>
          ⟨entry.2, entry.1.box, entry.1.score⟩ := by
  simp only [Tracker.sightings, countedAt, List.filter_map, List.filter_filter]
  refine congrArg _ (List.filter_congr fun entry _ => ?_)
  rw [Function.comp_apply, Bool.and_comm (uses entry.1.score)]
  cases selected : entry.1.isWellFormed && uses entry.1.score with
  | false => rfl
  | true =>
      obtain ⟨wellFormed, scored⟩ := Bool.and_eq_true_iff.mp selected
      rw [used entry.1 wellFormed scored]
      rfl

theorem Perturbed.sightings (perturbed : Perturbed settings observations others) (uses : α → Bool)
    (used : ∀ observation : Observation α, observation.isWellFormed = true →
      uses observation.score = true → observation.isDiscarded settings = false) :
    List.Forall₂ (Sighting.Alike (SamePlace settings observations others))
      ((Tracker.sightings observations).filter fun sighting => uses sighting.score)
      ((Tracker.sightings others).filter fun sighting => uses sighting.score) := by
  rw [filter_sightings used, filter_sightings used, related_map_iff]
  refine (related_filter perturbed.countedAt ?_).imp ?_
  · intro entry entry' link
    rw [link.1]
  · intro entry entry' link
    exact ⟨congrArg box link.1, congrArg score link.1, link.2⟩

theorem not_isDiscarded {observation : Observation α} (wellFormed : observation.isWellFormed = true)
    (above : ¬ (observation.score ≤ settings.lowScoreFloor ∧
      observation.score ≤ settings.trackThreshold)) :
    observation.isDiscarded settings = false := by
  rw [isDiscarded, wellFormed, ← Bool.decide_and, decide_eq_false above]
  rfl

/-- Perturbed frames show the same. -/
theorem Perturbed.alike (apart : ∀ low high : α, low < high → ¬ high ≤ low)
    (perturbed : Perturbed settings observations others) :
    Alike settings (SamePlace settings observations others) observations others where
  confident := by
    refine perturbed.sightings (fun score => decide (settings.trackThreshold < score)) ?_
    intro observation wellFormed above
    exact not_isDiscarded wellFormed fun both => apart _ _ (of_decide_eq_true above) both.2
  doubtful := by
    refine perturbed.sightings (fun score =>
      !decide (settings.trackThreshold < score) && decide (settings.lowScoreFloor < score)) ?_
    intro observation wellFormed between
    have above := (Bool.and_eq_true_iff.mp between).2
    exact not_isDiscarded wellFormed fun both => apart _ _ (of_decide_eq_true above) both.1

end Observation

/-! ## Turns and runs -/

structure TrackReport.Alike (places : Nat → Nat → Prop) (one other : TrackReport α) : Prop where
  id : one.id = other.id
  state : one.state = other.state
  box : one.box = other.box
  score : one.score = other.score
  place : ∃ index index', one.sighting = some index ∧ other.sighting = some index' ∧ places index index'

theorem Track.Alike.reportOf {places : Nat → Nat → Prop} {one other : Track α}
    (alike : one.Alike places other) :
    (Tracker.reportOf one).Alike places (Tracker.reportOf other) := by
  have same := congrArg Tracker.reportOf alike.forgotten
  obtain ⟨id, state, box, score, _⟩ := TrackReport.mk.inj same
  exact ⟨id, state, box, score, alike.place⟩

namespace Turn

/-- What two turns report, one of which has discarded detections that the other one has not. -/
structure Undisturbed (settings : TrackerSettings α) (turn other : Turn α) : Prop where
  frame : turn.frame = other.frame
  tracked : List.Forall₂
    (TrackReport.Alike (Observation.SamePlace settings turn.observations other.observations))
    turn.report.tracked other.report.tracked
  lost : turn.report.lost = other.report.lost
  removed : turn.report.removed = other.report.removed

theorem undisturbed {pools other : TrackPools α} (apart : ∀ low high : α, low < high → ¬ high ≤ low)
    (same : pools.Alike other) (frame : Nat) {observations others : List (Observation α)}
    (perturbed : Observation.Perturbed pools.settings observations others) :
    Undisturbed pools.settings ⟨pools, frame, observations⟩ ⟨other, frame, others⟩ where
  frame := rfl
  tracked := related_map_iff.mpr
    ((same.tracked_after (perturbed.alike apart)).imp fun _ _ link => link.reportOf)
  lost := congrArg (List.map Tracker.reportOf) (same.lost_after (perturbed.alike apart))
  removed := same.ids_ended (perturbed.alike apart)

/-- Inputs of two runs, on the same frames, that differ in discarded detections. -/
def Perturbed (settings : TrackerSettings α) (inputs others : List (Nat × List (Observation α))) : Prop :=
  List.Forall₂ (fun input other => input.1 = other.1 ∧ Observation.Perturbed settings input.2 other.2)
    inputs others

theorem undisturbed_turns (apart : ∀ low high : α, low < high → ¬ high ≤ low)
    {settings : TrackerSettings α} {inputs others : List (Nat × List (Observation α))}
    (perturbed : Perturbed settings inputs others) {pools other : TrackPools α} (same : pools.Alike other)
    (kept : pools.settings = settings) :
    List.Forall₂ (Undisturbed settings) (pools.turns inputs) (other.turns others) := by
  -- alike pools are left alike by each turn
  induction perturbed generalizing pools other with
  | nil => exact .nil
  | @cons input input' _ _ here _ inductionHypothesis =>
      obtain ⟨frame, observations⟩ := input
      obtain ⟨_, observations'⟩ := input'
      obtain ⟨rfl, here⟩ := here
      rw [← kept] at here
      exact .cons (kept ▸ undisturbed apart same frame here)
        (inductionHypothesis (same.after (here.alike apart)) kept)

end Turn

namespace Tracker

/-- Discarded detections do not disturb a run: where they are put in or taken out, all turns report the same
numbers, states, boxes, scores and removals, and the places of the detections are shifted. -/
theorem undisturbed_of_run (className : String) (settings : TrackerSettings Float32)
    {inputs others : List (Nat × List (Observation Float32))}
    (perturbed : Turn.Perturbed settings inputs others) :
    ∃ last last' : Tracker Float32,
      (start className settings : Tracker Float32).run? inputs =
          some (last, ((TrackPools.start settings).turns inputs).map Turn.report) ∧
        (start className settings : Tracker Float32).run? others =
            some (last', ((TrackPools.start settings).turns others).map Turn.report) ∧
          List.Forall₂ (Turn.Undisturbed settings) ((TrackPools.start settings).turns inputs)
            ((TrackPools.start settings).turns others) := by
  obtain ⟨last, ran⟩ := (followed_start (σ := Slots) className settings).run?_eq inputs
  obtain ⟨last', ran'⟩ := (followed_start (σ := Slots) className settings).run?_eq others
  have same : (TrackPools.start settings).Alike (TrackPools.start settings) := ⟨rfl, rfl, rfl, rfl, rfl⟩
  exact ⟨last, last', ran, ran', Turn.undisturbed_turns not_le_of_lt_single perturbed same rfl⟩

/-- A detection with a score that is not above either threshold. -/
def faint : Observation Float32 := ⟨⟨12, 100, 52, 200⟩, .ofScientific 5 true 2⟩

/-- A detection is put in before the one on the first frame, and on the second frame one is taken out before
the other one and one is put in after it. -/
theorem undisturbed_of_run_faint :
    let settings := TrackerConfig.settings {} 10
    let inputs := [(1, [seenOnce]), (2, [reversed, fading])]
    let others := [(1, [reversed, seenOnce]), (2, [fading, faint])]
    let turns := (TrackPools.start settings).turns inputs
    let turns' := (TrackPools.start settings).turns others
    Turn.Perturbed settings inputs others ∧ List.Forall₂ (Turn.Undisturbed settings) turns turns' ∧
      turns.map (fun turn => turn.report.tracked.map TrackReport.sighting) = [[some 0], [some 1]] ∧
        turns'.map (fun turn => turn.report.tracked.map TrackReport.sighting) = [[some 1], [some 0]] := by
  intro settings inputs others turns turns'
  have malformed : reversed.isDiscarded settings = true := by decide +kernel
  have low : faint.isDiscarded settings = true := by decide +kernel
  have first : Observation.Perturbed settings [seenOnce] ([] ++ reversed :: [seenOnce]) :=
    .inserted reversed .same malformed
  have without : Observation.Perturbed settings ([] ++ reversed :: [fading]) ([] ++ [fading]) :=
    .deleted reversed .same malformed
  have second : Observation.Perturbed settings [reversed, fading] ([fading] ++ faint :: []) :=
    .inserted faint without low
  have perturbed : Turn.Perturbed settings inputs others :=
    .cons ⟨rfl, first⟩ (.cons ⟨rfl, second⟩ .nil)
  obtain ⟨_, _, _, _, undisturbed⟩ := undisturbed_of_run "person" settings perturbed
  exact ⟨perturbed, undisturbed, by decide +kernel, by decide +kernel⟩

end Tracker

end ObjectQuery
