import ObjectQuery.Proofs.Box.Overlap
import ObjectQuery.Proofs.Tracking.Bands
import ObjectQuery.Proofs.Tracking.LeastCost

/-!
# Matches overlap

Boxes that have nothing in common are at a distance of one, whatever the score. Nothing is matched above a
threshold, so that below one every match overlaps, however the assignment is solved
(`overlapping_of_run`). At a threshold of one a pair that does not overlap costs as much as leaving both of
its members alone, and a least assignment may take it (`apart_matched`).
-/

namespace ObjectQuery

open Scalar

/-- A track and the detection that it is matched with have an area in common. -/
def Overlaps (pair : Track RealNumber × Sighting RealNumber) : Prop :=
  0 < (Box.commonArea pair.1.box pair.2.box).value

/-- The matches of one pass under a threshold. -/
structure Pairing.Overlapping (cost : Track RealNumber → Sighting RealNumber → RealNumber)
    (threshold : RealNumber) (pairing : Pairing (Track RealNumber) (Sighting RealNumber)) : Prop where
  overlaps : threshold.value < 1 → ∀ pair ∈ pairing.matched, Overlaps pair
  /-- A pair that does not overlap costs as much as leaving a track and a detection alone. -/
  tied : threshold.value = 1 → ∀ pair ∈ pairing.matched, Overlaps pair ∨
    (cost pair.1 pair.2).value = (threshold / two).value + (threshold / two).value

/-- The matches of the three passes of a turn. -/
structure Turn.Overlapping (turn : Turn RealNumber) : Prop where
  first : (turn.pools.associations turn.observations).first.Overlapping Tracker.weighedCost
    turn.pools.settings.matchThreshold
  second : (turn.pools.associations turn.observations).second.Overlapping Tracker.plainCost
    turn.pools.settings.lowMatchThreshold
  third : (turn.pools.associations turn.observations).third.Overlapping Tracker.weighedCost
    turn.pools.settings.tentativeMatchThreshold

section Passes

variable {pair : Track RealNumber × Sighting RealNumber}

theorem plainCost_eq_one (apart : ¬ Overlaps pair) : (Tracker.plainCost pair.1 pair.2).value = 1 :=
  Box.distance_eq_one apart

theorem weighedCost_eq_one (apart : ¬ Overlaps pair) : (Tracker.weighedCost pair.1 pair.2).value = 1 :=
  Box.weighed_eq_one apart pair.2.score

/-- A pass whose costs are one where nothing overlaps. -/
theorem Pairing.overlapping_find {solve : AssignmentSolver RealNumber}
    {cost : Track RealNumber → Sighting RealNumber → RealNumber} {threshold : RealNumber}
    {rows : List (Track RealNumber)} {columns : List (Sighting RealNumber)}
    (farthest : ∀ pair, ¬ Overlaps pair → (cost pair.1 pair.2).value = 1) :
    (Pairing.find solve cost threshold rows columns).Overlapping cost threshold where
  overlaps := by
    intro below pair member
    by_contra apart
    have low : (cost pair.1 pair.2).value ≤ threshold.value := Pairing.le_of_matched member
    rw [farthest pair apart] at low
    exact absurd below (not_lt.mpr low)
  tied := by
    intro one pair _
    refine or_iff_not_imp_left.mpr fun apart => ?_
    rw [farthest pair apart, RealNumber.value_div, RealNumber.value_two, one, add_halves]

theorem Turn.overlapping (turn : Turn RealNumber) : turn.Overlapping where
  first := Pairing.overlapping_find fun _ => weighedCost_eq_one
  second := Pairing.overlapping_find fun _ => plainCost_eq_one
  third := Pairing.overlapping_find fun _ => weighedCost_eq_one

end Passes

namespace Tracker

variable {σ : Type → Type} [Storage σ] [LawfulStorage σ]

/-- In every turn of every run, whatever solves the assignments, a pass with a threshold below one matches a
track only with a detection that it overlaps, and one with a threshold of one matches others only where that
costs as much as leaving both alone. -/
theorem overlapping_of_run (className : String) (settings : TrackerSettings RealNumber)
    (inputs : List (Nat × List (Observation RealNumber))) :
    ∃ last : Tracker RealNumber σ,
      (start className settings : Tracker RealNumber σ).run? inputs =
          some (last, ((TrackPools.start settings).turns inputs).map Turn.report) ∧
        ∀ turn ∈ (TrackPools.start settings).turns inputs,
          turn.pools.settings = settings ∧ turn.Overlapping := by
  obtain ⟨last, ran⟩ := (followed_start (σ := σ) className settings).run?_eq inputs
  exact ⟨last, ran, fun turn member => ⟨Turn.settings_of_mem_turns member, turn.overlapping⟩⟩

/-- The default thresholds as real numbers, with a solver that gives every row the column of its number. -/
noncomputable def exactDefaults : TrackerSettings RealNumber where
  trackThreshold := decimal 6 1
  matchThreshold := decimal 9 1
  newTrackThreshold := decimal 7 1
  lowScoreFloor := decimal 1 1
  lowMatchThreshold := decimal 5 1
  tentativeMatchThreshold := decimal 7 1
  duplicateDistance := decimal 15 2
  maxTimeLost := 10
  solve _ _ := some ⟨id, Function.injective_id⟩

/-- A confident detection. -/
noncomputable def upright : Observation RealNumber :=
  ⟨⟨ofNat 10, ofNat 100, ofNat 50, ofNat 200⟩, decimal 9 1⟩

/-- Two frames with the same detection. -/
noncomputable def seenTwice : List (Nat × List (Observation RealNumber)) := [(1, [upright]), (2, [upright])]

theorem exactDefaults_lt_one : exactDefaults.matchThreshold.value < 1 ∧
    exactDefaults.lowMatchThreshold.value < 1 ∧ exactDefaults.tentativeMatchThreshold.value < 1 := by
  norm_num [exactDefaults]

/-- With the default thresholds a detection that is seen twice is only matched with a track that it overlaps. -/
theorem overlapping_of_run_seenTwice :
    (exactDefaults.matchThreshold.value < 1 ∧ exactDefaults.lowMatchThreshold.value < 1 ∧
      exactDefaults.tentativeMatchThreshold.value < 1) ∧
      ∀ turn ∈ (TrackPools.start exactDefaults).turns seenTwice,
        ∀ pair ∈ continued (turn.pools.associations turn.observations), Overlaps pair := by
  obtain ⟨_, _, overlapping⟩ := overlapping_of_run (σ := Slots) "person" exactDefaults seenTwice
  refine ⟨exactDefaults_lt_one, fun turn member pair matched => ?_⟩
  obtain ⟨same, overlaps⟩ := overlapping turn member
  obtain ⟨first, second, third⟩ := exactDefaults_lt_one
  rw [← same] at first second third
  rcases List.mem_append.mp matched with confirmed | here
  · rcases List.mem_append.mp confirmed with here | here
    · exact overlaps.first.overlaps first pair here
    · exact overlaps.second.overlaps second pair here
  · exact overlaps.third.overlaps third pair here

/-! ### A threshold of one -/

/-- The default thresholds as exact numbers, but for the largest distance in the first pass. -/
def farSighted : TrackerSettings ExactNumber where
  trackThreshold := .finite (3 / 5)
  matchThreshold := .finite 1
  newTrackThreshold := .finite (7 / 10)
  lowScoreFloor := .finite (1 / 10)
  lowMatchThreshold := .finite (1 / 2)
  tentativeMatchThreshold := .finite (7 / 10)
  duplicateDistance := .finite (3 / 20)
  maxTimeLost := 10
  solve := Assignment.exactSolver

/-- A confident detection. -/
def near : Observation ExactNumber := ⟨⟨.finite 10, .finite 100, .finite 50, .finite 200⟩, .finite (9 / 10)⟩

/-- A confident detection far to the right of it. -/
def far : Observation ExactNumber := ⟨⟨.finite 300, .finite 100, .finite 340, .finite 200⟩, .finite (9 / 10)⟩

/-- A configuration with a threshold of one is valid, and under it a track is matched with a detection that
has nothing in common with it. The pair costs one, and to match it is a least assignment. -/
theorem apart_matched :
    TrackerConfig.fault? { matchThreshold := 1 } = none ∧
      ∃ turn ∈ (TrackPools.start farSighted).turns [(1, [near]), (2, [far])],
        (∃ pair ∈ (turn.pools.associations turn.observations).first.matched,
          Box.commonArea pair.1.box pair.2.box = .finite 0 ∧ weighedCost pair.1 pair.2 = .finite 1) ∧
        Assignment.SolvesLeast farSighted.solve
          (Assignment.extended (fun _ _ : Fin 1 => .finite 1) farSighted.matchThreshold) := by
  refine ⟨by decide +kernel, ⟨(TrackPools.start farSighted).after 1 [near], 2, [far]⟩,
    List.mem_cons_of_mem _ (List.mem_singleton_self _), by decide +kernel, ?_⟩
  exact ⟨⟨![0, 1], by decide⟩, by decide +kernel, by decide +kernel⟩

end Tracker

end ObjectQuery
