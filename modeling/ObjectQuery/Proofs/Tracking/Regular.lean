import ObjectQuery.Proofs.Tracking.Overlapping
import ObjectQuery.Proofs.Tracking.Separable

/-!
# Every correction succeeds

What is reached from a first measurement by predictions and corrections has a covariance that is positive
semidefinite and has entries only within the axes, and the covariance of its expected measurement is diagonal
and positive. So the system of a correction has a solution, and no track of a run is begun anew where it is
observed (`regular_of_run`).
-/

namespace ObjectQuery

open Matrix

/-! ## Covariances -/

namespace Axes

variable {axes : Axes}

theorem isSymm_covariance (axes : Axes) : axes.covariance.IsSymm := by
  rw [IsSymm, covariance, fromBlocks_transpose]
  simp only [diagonal_transpose]

theorem Sound.posSemidef_covariance (sound : axes.Sound) : axes.covariance.PosSemidef := by
  refine .of_dotProduct_mulVec_nonneg ?_ fun x => ?_
  · rw [IsHermitian, conjTranspose_eq_transpose_of_trivial]
    exact axes.isSymm_covariance
  · rw [star_trivial, covariance, fromBlocks_mulVec, dotProduct_block]
    simp only [dotProduct, Function.comp_apply, Sum.elim_inl, Sum.elim_inr, Pi.add_apply, mulVec_diagonal]
    rw [← Finset.sum_add_distrib]
    refine Finset.sum_nonneg fun k _ => ?_
    linarith [(sound.axis k).quadratic_nonneg (x (.inl k)) (x (.inr k))]

end Axes

namespace Motion

/-- What the covariance of a motion is like that can be corrected. -/
structure Regular (motion : Motion RealNumber) : Prop where
  symmetric : motion.covariance.matrix.IsSymm
  semidefinite : motion.covariance.matrix.PosSemidef
  /-- A part of the outline and a velocity have a covariance only if they belong together. -/
  sparse : ∀ i j : Fin 8, i ≠ j → i.val + 4 ≠ j.val → j.val + 4 ≠ i.val →
    motion.covariance.entry i j = Scalar.zero
  /-- The parts of the expected measurement have variances and no covariances. -/
  expected : ∃ variance : Fin 4 → ℝ, (∀ k, 0 < variance k) ∧ motion.project.2.matrix = diagonal variance
  correctable : ∀ outline, (motion.update? outline).isSome

variable {motion : Motion RealNumber} {axes : Axes}

theorem Splits.entry_eq (splits : motion.Splits axes) (i j : Fin 4 ⊕ Fin 4) :
    (motion.covariance.entry (place i) (place j)).value = axes.covariance i j :=
  congrFun (congrFun splits.covariance i) j

theorem Splits.sparse (splits : motion.Splits axes) {i j : Fin 8} (different : i ≠ j)
    (apart : i.val + 4 ≠ j.val) (behind : j.val + 4 ≠ i.val) :
    motion.covariance.entry i j = Scalar.zero := by
  obtain ⟨i, rfl⟩ := place.surjective i
  obtain ⟨j, rfl⟩ := place.surjective j
  ext
  rw [splits.entry_eq, RealNumber.value_zero]
  rcases i with i | i <;> rcases j with j | j
  · rw [Axes.covariance, fromBlocks_apply₁₁]
    exact diagonal_apply_ne _ fun same => different (congrArg place (congrArg Sum.inl same))
  · rw [Axes.covariance, fromBlocks_apply₁₂]
    refine diagonal_apply_ne _ fun same => apart ?_
    rw [same, place_inl, place_inr, Fin.val_castAdd, Fin.val_natAdd, add_comm]
  · rw [Axes.covariance, fromBlocks_apply₂₁]
    refine diagonal_apply_ne _ fun same => behind ?_
    rw [same, place_inl, place_inr, Fin.val_castAdd, Fin.val_natAdd, add_comm]
  · rw [Axes.covariance, fromBlocks_apply₂₂]
    exact diagonal_apply_ne _ fun same => different (congrArg place (congrArg Sum.inr same))

theorem Splits.posSemidef (splits : motion.Splits axes) (sound : axes.Sound) :
    motion.covariance.matrix.PosSemidef := by
  rw [← posSemidef_submatrix_equiv place, splits.covariance]
  exact sound.posSemidef_covariance

theorem Splits.regular (splits : motion.Splits axes) (sound : axes.Sound) : motion.Regular where
  symmetric := by
    have hermitian := (splits.posSemidef sound).isHermitian
    rwa [IsHermitian, conjTranspose_eq_transpose_of_trivial] at hermitian
  semidefinite := splits.posSemidef sound
  sparse _ _ := splits.sparse
  expected := ⟨axes.expected, sound.expected_pos, splits.expected⟩
  correctable outline := by
    obtain ⟨corrected, updated, _⟩ := splits.exists_update sound outline
    rw [updated]
    rfl

/-- What is reached by predictions and corrections is what the axes come to by themselves. -/
theorem exists_after (outline : Box.Outline RealNumber) (steps : List (Step RealNumber))
    (tall : 0 < outline.height.value) (upright : ∀ step ∈ steps, step.Upright) :
    ∃ motion, (initiate outline).after? steps = some motion ∧
      motion.Splits ((Axes.initiate outline).after steps) ∧ motion.Regular := by
  have sound := Axes.sound_initiate tall
  obtain ⟨motion, ran, splits⟩ := (splits_initiate outline).exists_after sound upright
  exact ⟨motion, ran, splits, splits.regular (sound.after upright)⟩

/-- The outline of somebody standing. -/
noncomputable def standing : Box.Outline RealNumber :=
  ⟨Scalar.ofNat 30, Scalar.ofNat 150, Scalar.decimal 4 1, Scalar.ofNat 100⟩

/-- The outline of the same person crouching. -/
noncomputable def crouching : Box.Outline RealNumber :=
  ⟨Scalar.ofNat 32, Scalar.ofNat 170, Scalar.decimal 7 1, Scalar.ofNat 60⟩

/-- Somebody crouches, is not seen for two frames, and stands up. -/
noncomputable def crouches : List (Step RealNumber) :=
  [.predict false, .correct crouching, .predict false, .predict true, .predict true, .correct standing]

theorem upright_crouches : ∀ step ∈ crouches, step.Upright := by
  simp [crouches, Step.Upright, crouching, standing]

theorem IsReached.regular (reached : motion.IsReached) : motion.Regular := by
  obtain ⟨axes, splits, sound⟩ := reached.exists_axes
  exact splits.regular sound

end Motion

/-! ## The tracks of a run -/

theorem Observation.height_pos {observation : Observation RealNumber}
    (wellFormed : observation.isWellFormed = true) : 0 < observation.box.outline.height.value := by
  unfold isWellFormed at wellFormed
  simp only [Bool.and_eq_true, decide_eq_true_eq] at wellFormed
  exact sub_pos.mpr wellFormed.2

theorem Tracker.height_pos_of_mem_sightings {observations : List (Observation RealNumber)}
    {sighting : Sighting RealNumber} (member : sighting ∈ sightings observations) :
    0 < sighting.box.outline.height.value := by
  obtain ⟨observation, _, wellFormed, box, _⟩ := mem_sightings.mp member
  rw [box]
  exact observation.height_pos wellFormed

namespace Track

variable {track : Track RealNumber}

theorem isReached_predict (reached : track.motion.IsReached) : track.predict.motion.IsReached := by
  unfold predict
  by_cases followed : track.state = .tracked
  · rw [if_pos followed]
    exact reached.step (.predict false) trivial rfl
  · rw [if_neg followed]
    exact reached.step (.predict true) trivial rfl

/-- A reached track is corrected by what is seen of it and not begun anew. -/
theorem update?_motion (reached : track.motion.IsReached) (frame : Nat) (sighting : Sighting RealNumber) :
    track.motion.update? sighting.box.outline = some (track.observe frame sighting).motion := by
  obtain ⟨corrected, updated⟩ :=
    Option.isSome_iff_exists.mp (reached.regular.correctable sighting.box.outline)
  rw [observe, updated, Option.getD_some]

theorem isReached_observe (reached : track.motion.IsReached) {frame : Nat} {sighting : Sighting RealNumber}
    (tall : 0 < sighting.box.outline.height.value) : (track.observe frame sighting).motion.IsReached :=
  reached.step (.correct sighting.box.outline) tall (update?_motion reached frame sighting)

end Track

namespace TrackPools

variable {pools : TrackPools RealNumber} {observations : List (Observation RealNumber)}

/-- The motions of all tracks are reached ones. -/
def Reached (pools : TrackPools RealNumber) : Prop :=
  ∀ track ∈ pools.tracked ++ pools.lost, track.motion.IsReached

theorem Reached.pool (reached : pools.Reached) {track : Track RealNumber} (member : track ∈ pools.pool) :
    track.motion.IsReached := by
  obtain ⟨before, inside, rfl⟩ := List.mem_map.mp member
  exact Track.isReached_predict
    (reached before ((List.filter_sublist.append_right pools.lost).subset inside))

theorem Reached.tentative (reached : pools.Reached) {track : Track RealNumber}
    (member : track ∈ pools.tentative) : track.motion.IsReached := by
  obtain ⟨before, inside, rfl⟩ := List.mem_map.mp member
  exact reached before (List.mem_append_left _ (List.mem_filter.mp inside).1)

theorem Reached.continued (reached : pools.Reached) {pair : Track RealNumber × Sighting RealNumber}
    (member : pair ∈ Tracker.continued (pools.associations observations)) : pair.1.motion.IsReached :=
  (pool_or_tentative_of_continued member).elim reached.pool reached.tentative

theorem Reached.active (reached : pools.Reached) {frame : Nat} {track : Track RealNumber}
    (member : track ∈ pools.active frame observations) : track.motion.IsReached := by
  have tall {sighting : Sighting RealNumber}
      (owned : sighting ∈ Tracker.owned pools.settings (pools.associations observations)) :
      0 < sighting.box.outline.height.value :=
    Tracker.height_pos_of_mem_sightings (Tracker.mem_sightings_of_mem_owned owned)
  rcases List.mem_append.mp member with old | new
  · obtain ⟨pair, listed, rfl⟩ := List.mem_map.mp old
    exact Track.isReached_observe (reached.continued listed)
      (tall (List.mem_append_left _ (List.mem_map_of_mem listed)))
  · obtain ⟨entry, listed, rfl⟩ := List.mem_map.mp new
    have seed := List.fst_mem_of_mem_zipIdx listed
    exact Motion.isReached_initiate (tall (List.mem_append_right _ seed))

theorem Reached.absent (reached : pools.Reached) {track : Track RealNumber}
    (member : track ∈ pools.absent observations) : track.motion.IsReached := by
  rcases lost_or_marked_of_absent member with ⟨inPool, _⟩ | ⟨row, inPool, rfl⟩
  · exact reached.pool inPool
  · change row.motion.IsReached
    exact reached.pool inPool

theorem Reached.after (reached : pools.Reached) (frame : Nat)
    (observations : List (Observation RealNumber)) : (pools.after frame observations).Reached := by
  intro track member
  rcases List.mem_append.mp member with tracked | lost
  · exact reached.active ((perm_tracked_after pools frame observations).subset
      (List.mem_append_left _ tracked))
  · exact reached.absent (absent_of_mem_lost_after lost)

theorem Reached.turns (reached : pools.Reached) {inputs : List (Nat × List (Observation RealNumber))}
    {turn : Turn RealNumber} (member : turn ∈ pools.turns inputs) : turn.pools.Reached :=
  invariant_of_mem_turns (fun _ frame observations before => before.after frame observations) reached member

end TrackPools

namespace Tracker

variable {σ : Type → Type} [Storage σ] [LawfulStorage σ]

/-- Whatever predictions and corrections follow a first measurement, the motion is that of four axes by
themselves, and regular; and in every turn of every run a track that is matched is corrected by its detection
and not begun anew. -/
theorem regular_of_run (className : String) (settings : TrackerSettings RealNumber)
    (inputs : List (Nat × List (Observation RealNumber))) :
    (∀ (outline : Box.Outline RealNumber) (steps : List (Motion.Step RealNumber)),
      0 < outline.height.value → (∀ step ∈ steps, step.Upright) →
        ∃ motion, (Motion.initiate outline).after? steps = some motion ∧
          motion.Splits ((Axes.initiate outline).after steps) ∧ motion.Regular) ∧
      ∃ last : Tracker RealNumber σ,
        (start className settings : Tracker RealNumber σ).run? inputs =
            some (last, ((TrackPools.start settings).turns inputs).map Turn.report) ∧
          ∀ turn ∈ (TrackPools.start settings).turns inputs,
            ∀ pair ∈ continued (turn.pools.associations turn.observations),
              pair.1.motion.update? pair.2.box.outline =
                some (pair.1.observe turn.frame pair.2).motion := by
  refine ⟨Motion.exists_after, ?_⟩
  obtain ⟨last, ran⟩ := (followed_start (σ := σ) className settings).run?_eq inputs
  refine ⟨last, ran, fun turn member pair matched => ?_⟩
  have none : (TrackPools.start settings).Reached := List.forall_mem_nil _
  exact Track.update?_motion ((none.turns member).continued matched) turn.frame pair.2

/-- Somebody who crouches while not being seen, and one who is seen twice. -/
theorem regular_of_run_crouches :
    (0 < Motion.standing.height.value ∧ (∀ step ∈ Motion.crouches, step.Upright) ∧
      ∃ motion, (Motion.initiate Motion.standing).after? Motion.crouches = some motion ∧
        motion.Splits ((Axes.initiate Motion.standing).after Motion.crouches) ∧ motion.Regular) ∧
      ∃ last : Tracker RealNumber,
        (start "person" exactDefaults : Tracker RealNumber).run? seenTwice =
            some (last, ((TrackPools.start exactDefaults).turns seenTwice).map Turn.report) ∧
          ∀ turn ∈ (TrackPools.start exactDefaults).turns seenTwice,
            ∀ pair ∈ continued (turn.pools.associations turn.observations),
              pair.1.motion.update? pair.2.box.outline =
                some (pair.1.observe turn.frame pair.2).motion := by
  obtain ⟨reaches, runs⟩ := regular_of_run (σ := Slots) "person" exactDefaults seenTwice
  have tall : 0 < Motion.standing.height.value := by simp [Motion.standing]
  exact ⟨⟨tall, Motion.upright_crouches, reaches Motion.standing Motion.crouches tall
    Motion.upright_crouches⟩, runs⟩

end Tracker

end ObjectQuery
