import ObjectQuery.Proofs.Tracking.Sightings

/-!
# What is left of two lists without their duplicates

Of every close pair one entry goes, whatever else has gone already, so that the entries which are kept are
apart (`Lifespan.separates_deduplicate`), and another deduplication keeps all of them. Since the pools after
a turn are what is left of the active and the waiting tracks, the tracks that a turn reports as tracked are
apart from those that it reports as lost.
-/

namespace ObjectQuery

variable {α : Type} [Scalar α]

namespace Tracker

/-- Flags that say of each item whether it meets a condition separate those that do. -/
theorem separate_eq_filter {β : Type} (items : List β) (condition : β → Bool) :
    separate items (items.map condition) =
      (items.filter condition, items.filter fun item => !condition item) := by
  induction items with
  | nil => rfl
  | cons item rest inductionHypothesis =>
      obtain ⟨kept, dropped⟩ := Prod.mk.inj inductionHypothesis
      simp only [separate, List.map_cons, List.zip_cons_cons, List.filter_cons] at kept dropped ⊢
      cases condition item <;> simp [kept, dropped]

end Tracker

namespace Lifespan

/-- Whether an entry of the first list is kept. -/
def staysFirst (second : List (Lifespan α)) (maxDistance : α) (a : Lifespan α) : Bool :=
  !second.any fun b => yields maxDistance a b

/-- Whether an entry of the second list is kept. -/
def staysSecond (first : List (Lifespan α)) (maxDistance : α) (b : Lifespan α) : Bool :=
  !first.any fun a => isOutlived maxDistance a b

theorem deduplicate_eq (first second : List (Lifespan α)) (maxDistance : α) :
    deduplicate first second maxDistance =
      (first.map (staysFirst second maxDistance), second.map (staysSecond first maxDistance)) :=
  rfl

/-- The entries of two lists that have the flag of those that are kept. -/
def survivors (first second : List (Lifespan α)) (kept : List Bool × List Bool) :
    List (Lifespan α) × List (Lifespan α) :=
  ((Tracker.separate first kept.1).1, (Tracker.separate second kept.2).1)

theorem survivors_deduplicate (first second : List (Lifespan α)) (maxDistance : α) :
    survivors first second (deduplicate first second maxDistance) =
      (first.filter (staysFirst second maxDistance), second.filter (staysSecond first maxDistance)) := by
  rw [survivors, deduplicate_eq, Tracker.separate_eq_filter, Tracker.separate_eq_filter]

/-- What flags for the entries of two lists achieve. -/
structure Separates (first second : List (Lifespan α)) (maxDistance : α)
    (kept : List Bool × List Bool) : Prop where
  /-- Every entry has a flag. -/
  full : kept.1.length = first.length ∧ kept.2.length = second.length
  /-- Of two entries that are close one is not kept. -/
  apart : ∀ (i j : Nat) (a b : Lifespan α), first[i]? = some a → second[j]? = some b →
    kept.1[i]? = some true → kept.2[j]? = some true → ¬ Box.distance a.box b.box < maxDistance
  /-- What is close to nothing in the second list is kept. -/
  single : ∀ (i : Nat) (a : Lifespan α), first[i]? = some a →
    (∀ b ∈ second, ¬ Box.distance a.box b.box < maxDistance) → kept.1[i]? = some true
  /-- What is close to nothing in the first list is kept. -/
  singleToo : ∀ (j : Nat) (b : Lifespan α), second[j]? = some b →
    (∀ a ∈ first, ¬ Box.distance a.box b.box < maxDistance) → kept.2[j]? = some true
  /-- Another deduplication keeps everything. -/
  again : let left := survivors first second kept
    (∀ flag ∈ (deduplicate left.1 left.2 maxDistance).1, flag = true) ∧
      ∀ flag ∈ (deduplicate left.1 left.2 maxDistance).2, flag = true

variable {first second : List (Lifespan α)} {maxDistance : α} {a b : Lifespan α}

/-- Of a close pair one entry goes. -/
theorem not_close_of_stays (inFirst : a ∈ first) (inSecond : b ∈ second)
    (kept : staysFirst second maxDistance a = true) (keptToo : staysSecond first maxDistance b = true) :
    ¬ Box.distance a.box b.box < maxDistance := by
  intro close
  have isClose : isClose maxDistance a b = true := decide_eq_true close
  rw [staysFirst, Bool.not_eq_true', List.any_eq_false] at kept
  rw [staysSecond, Bool.not_eq_true', List.any_eq_false] at keptToo
  rcases Nat.lt_or_ge b.lifetime a.lifetime with longer | shorter
  · exact keptToo a inFirst (Bool.and_eq_true_iff.mpr ⟨isClose, decide_eq_true longer⟩)
  · exact kept b inSecond (Bool.and_eq_true_iff.mpr ⟨isClose, decide_eq_true shorter⟩)

theorem staysFirst_of_single (single : ∀ b ∈ second, ¬ Box.distance a.box b.box < maxDistance) :
    staysFirst second maxDistance a = true := by
  rw [staysFirst, Bool.not_eq_true', List.any_eq_false]
  intro b member yields
  exact single b member (of_decide_eq_true (Bool.and_eq_true_iff.mp yields).1)

theorem staysSecond_of_single (single : ∀ a ∈ first, ¬ Box.distance a.box b.box < maxDistance) :
    staysSecond first maxDistance b = true := by
  rw [staysSecond, Bool.not_eq_true', List.any_eq_false]
  intro a member outlived
  exact single a member (of_decide_eq_true (Bool.and_eq_true_iff.mp outlived).1)

theorem not_close_of_survivors (first second : List (Lifespan α)) (maxDistance : α) (a b : Lifespan α)
    (inFirst : a ∈ (survivors first second (deduplicate first second maxDistance)).1)
    (inSecond : b ∈ (survivors first second (deduplicate first second maxDistance)).2) :
    ¬ Box.distance a.box b.box < maxDistance := by
  rw [survivors_deduplicate] at inFirst inSecond
  obtain ⟨inFirst, kept⟩ := List.mem_filter.mp inFirst
  obtain ⟨inSecond, keptToo⟩ := List.mem_filter.mp inSecond
  exact not_close_of_stays inFirst inSecond kept keptToo

theorem separates_deduplicate (first second : List (Lifespan α)) (maxDistance : α) :
    Separates first second maxDistance (deduplicate first second maxDistance) where
  full := ⟨List.length_map .., List.length_map ..⟩
  apart := by
    intro i j a b here there kept keptToo
    rw [deduplicate_eq, List.getElem?_map, here, Option.map_some, Option.some.injEq] at kept
    rw [deduplicate_eq, List.getElem?_map, there, Option.map_some, Option.some.injEq] at keptToo
    exact not_close_of_stays (List.mem_of_getElem? here) (List.mem_of_getElem? there) kept keptToo
  single := by
    intro i a here single
    rw [deduplicate_eq, List.getElem?_map, here, Option.map_some, staysFirst_of_single single]
  singleToo := by
    intro j b there single
    rw [deduplicate_eq, List.getElem?_map, there, Option.map_some, staysSecond_of_single single]
  again := by
    have apart := not_close_of_survivors first second maxDistance
    constructor
    · intro flag member
      obtain ⟨a, inFirst, rfl⟩ := List.mem_map.mp member
      exact staysFirst_of_single fun b inSecond => apart a b inFirst inSecond
    · intro flag member
      obtain ⟨b, inSecond, rfl⟩ := List.mem_map.mp member
      exact staysSecond_of_single fun a inFirst => apart a b inFirst inSecond

end Lifespan

namespace TrackPools

open Tracker

variable (pools : TrackPools α) (frame : Nat) (observations : List (Observation α))

/-- Whether an active track is kept. -/
def keepsActive (track : Track α) : Bool :=
  Lifespan.staysFirst ((pools.waiting frame observations).map lifespan)
    pools.settings.duplicateDistance (lifespan track)

/-- Whether a waiting track is kept. -/
def keepsWaiting (track : Track α) : Bool :=
  Lifespan.staysSecond ((pools.active frame observations).map lifespan)
    pools.settings.duplicateDistance (lifespan track)

theorem kept_eq :
    pools.kept frame observations =
      ((pools.active frame observations).map (pools.keepsActive frame observations),
        (pools.waiting frame observations).map (pools.keepsWaiting frame observations)) := by
  rw [kept, Lifespan.deduplicate_eq, List.map_map, List.map_map]
  rfl

theorem tracked_after :
    (pools.after frame observations).tracked =
      byId ((pools.active frame observations).filter (pools.keepsActive frame observations)) := by
  rw [after]
  dsimp only
  rw [kept_eq, separate_eq_filter]

theorem lost_after :
    (pools.after frame observations).lost =
      byId ((pools.waiting frame observations).filter (pools.keepsWaiting frame observations)) := by
  rw [after]
  dsimp only
  rw [kept_eq, separate_eq_filter]

theorem ended_eq :
    pools.ended frame observations =
      (pools.associations observations).third.leftRows ++ pools.expired frame observations ++
        ((pools.active frame observations).filter (fun track =>
            !pools.keepsActive frame observations track) ++
          (pools.waiting frame observations).filter fun track =>
            !pools.keepsWaiting frame observations track) := by
  rw [ended, kept_eq, separate_eq_filter, separate_eq_filter]

variable {pools frame observations} {track missing : Track α}

theorem not_close_after (tracked : track ∈ (pools.after frame observations).tracked)
    (lost : missing ∈ (pools.after frame observations).lost) :
    ¬ Box.distance track.box missing.box < pools.settings.duplicateDistance := by
  rw [tracked_after] at tracked
  rw [lost_after] at lost
  obtain ⟨active, kept⟩ := List.mem_filter.mp ((perm_byId _).subset tracked)
  obtain ⟨waiting, keptToo⟩ := List.mem_filter.mp ((perm_byId _).subset lost)
  exact Lifespan.not_close_of_stays (a := lifespan track) (b := lifespan missing)
    (List.mem_map_of_mem active) (List.mem_map_of_mem waiting) kept keptToo

end TrackPools

/-- What a turn reports as tracked is apart from what it reports as lost. -/
theorem Turn.not_close_of_report {turn : Turn α} {object missing : TrackReport α}
    (tracked : object ∈ turn.report.tracked) (lost : missing ∈ turn.report.lost) :
    ¬ object.box.distance missing.box < turn.pools.settings.duplicateDistance := by
  obtain ⟨track, inside, rfl⟩ := List.mem_map.mp tracked
  obtain ⟨other, insideToo, rfl⟩ := List.mem_map.mp lost
  exact TrackPools.not_close_after inside insideToo

namespace Tracker

variable {σ : Type → Type} [Storage σ] [LawfulStorage σ]

/-- A deduplication separates any two lists, and every report of every run is without duplicates. -/
theorem separated_of_run (className : String) (settings : TrackerSettings α)
    (inputs : List (Nat × List (Observation α))) :
    (∀ (first second : List (Lifespan α)) (maxDistance : α), Lifespan.Separates first second maxDistance
      (Lifespan.deduplicate first second maxDistance)) ∧
      ∃ (last : Tracker α σ) (reports : List (TrackerReport α)),
        (start className settings : Tracker α σ).run? inputs = some (last, reports) ∧
          ∀ report ∈ reports, ∀ object ∈ report.tracked, ∀ missing ∈ report.lost,
            ¬ object.box.distance missing.box < settings.duplicateDistance := by
  refine ⟨Lifespan.separates_deduplicate, ?_⟩
  obtain ⟨last, ran⟩ := (followed_start (σ := σ) className settings).run?_eq inputs
  refine ⟨last, _, ran, ?_⟩
  intro report member object tracked missing lost
  obtain ⟨turn, inside, rfl⟩ := List.mem_map.mp member
  have kept : turn.pools.settings = settings := Turn.settings_of_mem_turns inside
  exact kept ▸ Turn.not_close_of_report tracked lost

/-- An object further to the right. -/
def aside : Observation Float32 := ⟨⟨300, 100, 340, 200⟩, .ofScientific 9 true 1⟩

/-- What is seen after another object has gone is not taken for it, and stays where one of two lists has an
entry close to another one. -/
theorem separated_of_run_aside :
    (∃ (last : Tracker Float32) (reports : List (TrackerReport Float32)),
      (start "person" (TrackerConfig.settings {} 10) : Tracker Float32).run?
          [(1, [seenOnce]), (2, [aside])] = some (last, reports) ∧
        ∃ report ∈ reports, ∃ object ∈ report.tracked, ∃ missing ∈ report.lost,
          object.id = 2 ∧ missing.id = 1 ∧
            ¬ object.box.distance missing.box < (TrackerConfig.settings {} 10).duplicateDistance) ∧
      let kept := Lifespan.deduplicate [⟨seenOnce.box, 3⟩] [⟨seenOnce.box, 5⟩, ⟨aside.box, 1⟩]
        (TrackerConfig.settings {} 10).duplicateDistance
      kept.1 = [false] ∧ kept.2[1]? = some true := by
  obtain ⟨separates, last, reports, ran, apart⟩ := separated_of_run (σ := Slots) "person"
    (TrackerConfig.settings {} 10) [(1, [seenOnce]), (2, [aside])]
  refine ⟨⟨last, reports, ran, ?_⟩, by decide +kernel, ?_⟩
  · have numbers : ((start "person" (TrackerConfig.settings {} 10) : Tracker Float32).run?
        [(1, [seenOnce]), (2, [aside])]).map (fun result => result.2.map fun report =>
          (report.tracked.map TrackReport.id, report.lost.map TrackReport.id)) =
        some [([1], []), ([2], [1])] := by
      decide +kernel
    rw [ran, Option.map_some, Option.some.injEq] at numbers
    have member : ([2], [1]) ∈ reports.map fun report =>
        (report.tracked.map TrackReport.id, report.lost.map TrackReport.id) := by
      rw [numbers]
      decide
    obtain ⟨report, inside, same⟩ := List.mem_map.mp member
    obtain ⟨tracked, lost⟩ := Prod.mk.inj same
    obtain ⟨object, seen, number⟩ := List.mem_map.mp (tracked ▸ List.mem_singleton_self 2)
    obtain ⟨missing, left, numberToo⟩ := List.mem_map.mp (lost ▸ List.mem_singleton_self 1)
    exact ⟨report, inside, object, seen, missing, left, number, numberToo,
      apart report inside object seen missing left⟩
  · exact (separates _ _ _).singleToo 1 ⟨aside.box, 1⟩ rfl (by decide +kernel)

end Tracker

end ObjectQuery
