import ObjectQuery.Launch.Load
import ObjectQuery.Proofs.Number.Single

/-!
# What an accepted configuration holds

A text is accepted exactly if it is a configuration whose values lie in their ranges, where a floor that is
no number passes for one below the threshold (`ofText_eq_ok_iff`). Where the floor is a number, the scores
above it are split at the threshold into those of doubtful and those of confident detections; where it is
none, no detection is doubtful (`inRange_of_ofText`, `floor_unordered`).
-/

namespace ObjectQuery

/-! ## The tracker -/

namespace TrackerConfig

variable {config : TrackerConfig} {threshold x : Float32}

/-- The thresholds, all but the floor. -/
def thresholds (config : TrackerConfig) : List Float32 :=
  [config.trackThreshold, config.matchThreshold, config.newTrackThreshold, config.lowMatchThreshold,
    config.tentativeMatchThreshold, config.duplicateDistance]

/-- Thresholds above zero and at most one, a floor that is no number or below the threshold for tracks, and
no tracks that are lost at once. -/
structure InRange (config : TrackerConfig) : Prop where
  thresholds : ∀ x ∈ config.thresholds, zero < x ∧ x ≤ one
  floor : config.lowScoreFloor.isNaN = false →
    zero ≤ config.lowScoreFloor ∧ config.lowScoreFloor < config.trackThreshold
  lost : ∀ count, config.maxTimeLost = some count → 0 < count

theorem isNaN_zero : zero.isNaN = false := by decide +kernel

theorem isNaN_one : one.isNaN = false := by decide +kernel

theorem isThreshold_iff : isThreshold x = true ↔ zero < x ∧ x ≤ one := by
  rw [isThreshold, Bool.and_eq_true, decide_eq_true_eq, Bool.not_eq_true', decide_eq_false_iff_not]
  refine and_congr_right fun positive => ?_
  exact not_lt_single isNaN_one (lt_single_iff.mp positive).1.2

/-- What is no number is not told from a floor. -/
theorem isFloor_iff : isFloor x = true ↔ (x.isNaN = false → zero ≤ x ∧ x ≤ one) := by
  rw [isFloor, Bool.and_eq_true, Bool.not_eq_true', Bool.not_eq_true', decide_eq_false_iff_not,
    decide_eq_false_iff_not]
  cases unordered : x.isNaN with
  | true =>
      refine iff_of_true ⟨fun below => ?_, fun above => ?_⟩ (fun number => absurd number (by decide))
      · rw [(lt_single_iff.mp below).1.1] at unordered
        exact absurd unordered (by decide)
      · rw [(lt_single_iff.mp above).1.2] at unordered
        exact absurd unordered (by decide)
  | false =>
      rw [not_lt_single unordered isNaN_zero, not_lt_single isNaN_one unordered, forall_prop_of_true rfl]

theorem checks_passed_iff : config.checks.find? (fun check => !check.2) = none ↔
    (∀ x ∈ config.thresholds, isThreshold x = true) ∧ isFloor config.lowScoreFloor = true := by
  simp only [List.find?_eq_none, checks, thresholds, List.forall_mem_cons, List.not_mem_nil, Bool.not_eq_true',
    Bool.not_eq_false, false_implies, implies_true, and_true]
  tauto

/-- What passes for a floor below a threshold is no number or lies below it. -/
theorem isFloor_and_not_le_iff (positive : zero < threshold) (atMost : threshold ≤ one) :
    isFloor x = true ∧ ¬ threshold ≤ x ↔ (x.isNaN = false → zero ≤ x ∧ x < threshold) := by
  have number : threshold.isNaN = false := (lt_single_iff.mp positive).1.2
  rw [isFloor_iff]
  constructor
  · rintro ⟨within, apart⟩ known
    exact ⟨(within known).1, (not_le_single number known).mp apart⟩
  · intro below
    refine ⟨fun known => ⟨(below known).1, ?_⟩, fun above => ?_⟩
    · have less := (lt_single known number).mp (below known).2
      exact (le_single known isNaN_one).mpr (less.le.trans ((le_single number isNaN_one).mp atMost))
    · have known := (le_single_iff.mp above).1.2
      exact (not_le_single number known).mpr (below known).2 above

theorem fault?_eq_none : config.fault? = none ↔
    config.checks.find? (fun check => !check.2) = none ∧
      ¬ config.trackThreshold ≤ config.lowScoreFloor ∧ config.maxTimeLost ≠ some 0 := by
  unfold fault?
  cases config.checks.find? fun check => !check.2 with
  | some check => exact iff_of_false (Option.some_ne_none _) fun passed => absurd passed.1 (Option.some_ne_none _)
  | none =>
      by_cases above : config.trackThreshold ≤ config.lowScoreFloor
      · simp [above]
      · by_cases early : config.maxTimeLost = some 0 <;> simp [above, early]

/-- A tracker is faultless exactly if its values lie in their ranges. -/
theorem fault?_eq_none_iff : config.fault? = none ↔ config.InRange := by
  have track : config.trackThreshold ∈ config.thresholds := List.mem_cons_self
  have lost : config.maxTimeLost ≠ some 0 ↔ ∀ count, config.maxTimeLost = some count → 0 < count := by
    cases config.maxTimeLost <;> simp [Nat.pos_iff_ne_zero]
  rw [fault?_eq_none, checks_passed_iff, lost]
  constructor
  · rintro ⟨⟨thresholds, floor⟩, apart, lasting⟩
    have within x (member : x ∈ config.thresholds) := isThreshold_iff.mp (thresholds x member)
    obtain ⟨positive, atMost⟩ := within _ track
    exact ⟨within, (isFloor_and_not_le_iff positive atMost).mp ⟨floor, apart⟩, lasting⟩
  · rintro ⟨within, below, lasting⟩
    obtain ⟨positive, atMost⟩ := within _ track
    obtain ⟨floor, apart⟩ := (isFloor_and_not_le_iff positive atMost).mpr below
    exact ⟨⟨fun x member => isThreshold_iff.mpr (within x member), floor⟩, apart, lasting⟩

end TrackerConfig

/-! ## The video and the detector -/

/-- A rate that is finite and positive, and a place or a size. -/
structure VideoConfig.InRange (config : VideoConfig) : Prop where
  fps : config.fps.isFinite = true ∧ 0.0 < config.fps
  located : ∀ path fps, config = .imageDir path fps → path ≠ ""
  sized : ∀ metadata, config = .blank metadata → 0 < metadata.frameWidth ∧ 0 < metadata.frameHeight

theorem VideoConfig.fault?_eq_none_iff {config : VideoConfig} :
    config.fault? = none ↔ config.InRange := by
  have refused : (!(config.fps.isFinite && decide (0.0 < config.fps))) = true ↔
      ¬ (config.fps.isFinite = true ∧ 0.0 < config.fps) := by
    rw [Bool.not_eq_true', ← Bool.not_eq_true, Bool.and_eq_true, decide_eq_true_eq]
  unfold fault?
  by_cases rate : config.fps.isFinite = true ∧ 0.0 < config.fps
  · rw [if_neg fun failed => refused.mp failed rate]
    cases config with
    | imageDir path fps =>
        by_cases empty : path = ""
        · refine iff_of_false (by simp [empty]) fun inRange => ?_
          exact inRange.located path fps rfl empty
        · refine iff_of_true (if_neg empty) ⟨rate, ?_, fun _ same => VideoConfig.noConfusion same⟩
          rintro _ _ ⟨⟩
          exact empty
    | blank metadata =>
        by_cases empty : metadata.frameWidth = 0 ∨ metadata.frameHeight = 0
        · refine iff_of_false (by simp [empty]) fun inRange => ?_
          have sized := inRange.sized metadata rfl
          omega
        · refine iff_of_true (if_neg empty) ⟨rate, fun _ _ same => VideoConfig.noConfusion same, ?_⟩
          rintro _ ⟨⟩
          omega
  · refine iff_of_false ?_ fun inRange => rate inRange.fps
    rw [if_pos (refused.mpr rate)]
    exact Option.some_ne_none _

/-- What a detector needs, with no name that is blank. -/
structure DetectorConfig.Furnished (config : DetectorConfig) : Prop where
  name : Text.isBlankText config.name = false
  precomputed : config.name = DetectorRegistry.precomputedName →
    (∃ path, config.path = some path) ∧ config.classNames ≠ []
  classNames : ∀ name ∈ config.classNames, Text.isBlankText name = false

theorem DetectorConfig.fault?_eq_none_iff {config : DetectorConfig} :
    config.fault? = none ↔ config.Furnished := by
  unfold fault?
  dsimp only
  cases blank : Text.isBlankText config.name with
  | true =>
      refine iff_of_false (by simp) fun furnished => ?_
      exact absurd (blank.symm.trans furnished.name) (by decide)
  | false =>
      rw [if_neg (by decide)]
      by_cases unplaced : config.name = DetectorRegistry.precomputedName ∧ config.path = none
      · rw [if_pos unplaced]
        refine iff_of_false (Option.some_ne_none _) fun furnished => ?_
        obtain ⟨path, placed⟩ := (furnished.precomputed unplaced.1).1
        exact absurd (placed.symm.trans unplaced.2) (Option.some_ne_none _)
      · rw [if_neg unplaced]
        by_cases unnamed : config.name = DetectorRegistry.precomputedName ∧ config.classNames = []
        · rw [if_pos unnamed]
          exact iff_of_false (Option.some_ne_none _) fun furnished =>
            (furnished.precomputed unnamed.1).2 unnamed.2
        · rw [if_neg unnamed, Option.map_eq_none_iff, List.findIdx?_eq_none_iff]
          constructor
          · intro named
            refine ⟨blank, fun precomputed => ⟨?_, fun none => unnamed ⟨precomputed, none⟩⟩, named⟩
            exact Option.ne_none_iff_exists'.mp fun none => unplaced ⟨precomputed, none⟩
          · exact fun furnished => furnished.classNames

/-! ## The bands of scores -/

namespace Tracker

/-- The scores above a floor, split at the threshold into those of doubtful and of confident detections. -/
structure Banded (settings : TrackerSettings Float32) : Prop where
  confident : ∀ sighting, isConfident settings sighting = true ↔
    settings.trackThreshold < sighting.score
  doubtful : ∀ sighting, isDoubtful settings sighting = true ↔
    settings.lowScoreFloor < sighting.score ∧ sighting.score ≤ settings.trackThreshold
  unused : ∀ sighting, sighting.score.isNaN = false →
    (isConfident settings sighting = false ∧ isDoubtful settings sighting = false ↔
      sighting.score ≤ settings.lowScoreFloor)
  ordered : ∀ low high, isDoubtful settings low = true → isConfident settings high = true →
    low.score < high.score

variable {settings : TrackerSettings Float32}

theorem isDoubtful_iff (number : settings.trackThreshold.isNaN = false) (sighting : Sighting Float32) :
    isDoubtful settings sighting = true ↔
      settings.lowScoreFloor < sighting.score ∧ sighting.score ≤ settings.trackThreshold := by
  rw [isDoubtful, isConfident, Bool.and_eq_true, Bool.not_eq_true', decide_eq_false_iff_not,
    decide_eq_true_eq, and_comm]
  exact and_congr_right fun above => not_lt_single number (lt_single_iff.mp above).1.2

theorem banded (below : settings.lowScoreFloor < settings.trackThreshold) : Banded settings := by
  obtain ⟨⟨floor, threshold⟩, less⟩ := lt_single_iff.mp below
  refine ⟨fun sighting => decide_eq_true_iff, isDoubtful_iff threshold, ?unused, ?ordered⟩
  case unused =>
    intro sighting number
    rw [isConfident, decide_eq_false_iff_not, ← Bool.not_eq_true, isDoubtful_iff threshold,
      not_lt_single threshold number]
    constructor
    · rintro ⟨atMost, notDoubtful⟩
      exact (not_lt_single floor number).mp fun above => notDoubtful ⟨above, atMost⟩
    · intro low
      have ranked := (le_single number floor).mp low
      exact ⟨(le_single number threshold).mpr (ranked.trans less.le),
        fun doubtful => (not_lt_single floor number).mpr low doubtful.1⟩
  case ordered =>
    intro low high doubtful confident
    obtain ⟨⟨number, _⟩, atMost⟩ := le_single_iff.mp ((isDoubtful_iff threshold low).mp doubtful).2
    obtain ⟨⟨_, known⟩, above⟩ := lt_single_iff.mp (of_decide_eq_true confident)
    exact lt_single_iff.mpr ⟨⟨number, known⟩, atMost.trans_lt above⟩

/-- Above what is no number there is no score. -/
theorem isDoubtful_of_isNaN (unordered : settings.lowScoreFloor.isNaN = true)
    (sighting : Sighting Float32) : isDoubtful settings sighting = false := by
  refine Bool.and_eq_false_imp.mpr fun _ => decide_eq_false fun above => ?_
  rw [(lt_single_iff.mp above).1.1] at unordered
  exact absurd unordered (by decide)

end Tracker

/-! ## The whole -/

namespace LaunchConfig

variable {format : ConfigFormat} {text : String} {config : LaunchConfig}

structure InRange (config : LaunchConfig) : Prop where
  tracker : config.tracker.InRange
  video : config.video.InRange
  detector : config.detector.Furnished

theorem fault?_eq_none_iff : config.fault? = none ↔ config.InRange := by
  have parts : config.fault? = none ↔ config.tracker.fault? = none ∧ config.video.fault? = none ∧
      config.detector.fault? = none := by
    unfold fault?
    cases config.tracker.fault? <;> cases config.video.fault? <;> simp
  rw [parts, TrackerConfig.fault?_eq_none_iff, VideoConfig.fault?_eq_none_iff,
    DetectorConfig.fault?_eq_none_iff]
  exact ⟨fun ⟨tracker, video, detector⟩ => ⟨tracker, video, detector⟩,
    fun ⟨tracker, video, detector⟩ => ⟨tracker, video, detector⟩⟩

/-- A text is accepted exactly if it is a configuration whose values lie in their ranges. -/
theorem ofText_eq_ok_iff : ofText format text = .ok config ↔
    format.read? text >>= read? format = some config ∧ config.InRange := by
  unfold ofText
  cases read : format.read? text >>= read? format with
  | none => exact iff_of_false (by simp) fun accepted => absurd accepted.1 (by simp)
  | some found =>
      rw [Option.some.injEq, ← fault?_eq_none_iff]
      dsimp only
      unfold validated
      cases failed : found.fault? with
      | some error =>
          refine iff_of_false (by simp) ?_
          rintro ⟨rfl, faultless⟩
          exact absurd (failed.symm.trans faultless) (Option.some_ne_none _)
      | none =>
          rw [Except.ok.injEq]
          exact ⟨fun same => ⟨same, same ▸ failed⟩, fun accepted => accepted.1⟩

/-- All values of an accepted configuration lie in their ranges. If its floor is a number, it splits the
scores into bands; if it is none, no detection is doubtful. -/
theorem inRange_of_ofText (accepted : ofText format text = .ok config) :
    config.InRange ∧
      (config.tracker.lowScoreFloor.isNaN = false →
        Tracker.Banded (config.tracker.settings config.video.fps)) ∧
      (config.tracker.lowScoreFloor.isNaN = true → ∀ sighting,
        Tracker.isDoubtful (config.tracker.settings config.video.fps) sighting = false) := by
  have inRange := (ofText_eq_ok_iff.mp accepted).2
  exact ⟨inRange, fun number => Tracker.banded (inRange.tracker.floor number).2,
    fun unordered => Tracker.isDoubtful_of_isNaN unordered⟩

/-- Frames without pictures, a file of detections, and a floor to be written. -/
def written (floor : String) : String :=
  "[video]\nsource = \"blank\"\nfps = 10.0\nframe_width = 640\nframe_height = 480\nn_frames = 2\n\n" ++
    "[detector]\nname = \"precomputed\"\npath = \"d.json\"\nclass_names = [\"person\"]\n\n" ++
      "[tracker]\nlow_score_floor = " ++ floor ++ "\n"

theorem inRange_of_ofText_written : ∃ config, ofText .toml (written "0.25") = .ok config ∧
    config.InRange ∧ Tracker.Banded (config.tracker.settings config.video.fps) := by
  have evaluated : (ofText .toml (written "0.25")).toOption.map
      (fun config => config.tracker.lowScoreFloor.isNaN) = some false := by decide +kernel
  obtain ⟨config, found, number⟩ := Option.map_eq_some_iff.mp evaluated
  have accepted := eq_ok_of_toOption found
  obtain ⟨inRange, banded, _⟩ := inRange_of_ofText accepted
  exact ⟨config, accepted, inRange, banded number⟩

/-- A floor that is no number is accepted, and nothing lies at or above it. -/
theorem floor_unordered : ∃ config, ofText .toml (written "nan") = .ok config ∧
    ¬ TrackerConfig.zero ≤ config.tracker.lowScoreFloor ∧
      ¬ config.tracker.lowScoreFloor < config.tracker.trackThreshold ∧
        ∀ sighting, Tracker.isDoubtful (config.tracker.settings config.video.fps) sighting = false := by
  have evaluated : (ofText .toml (written "nan")).toOption.map
      (fun config => config.tracker.lowScoreFloor.isNaN) = some true := by decide +kernel
  obtain ⟨config, found, unordered⟩ := Option.map_eq_some_iff.mp evaluated
  refine ⟨config, eq_ok_of_toOption found, fun atLeast => ?_, fun below => ?_,
    Tracker.isDoubtful_of_isNaN unordered⟩
  · rw [(le_single_iff.mp atLeast).1.2] at unordered
    exact absurd unordered (by decide)
  · rw [(lt_single_iff.mp below).1.1] at unordered
    exact absurd unordered (by decide)

end LaunchConfig

end ObjectQuery
