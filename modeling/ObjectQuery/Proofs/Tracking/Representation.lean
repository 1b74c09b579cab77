import Mathlib.Algebra.Order.Group.Multiset
import Mathlib.Tactic.Abel
import ObjectQuery.Proofs.Slots
import ObjectQuery.Proofs.Tracking.Pools

/-!
# Trackers that hold keys

`Represents` ties a tracker that holds keys to pools by value: its storage holds exactly the tracks of
the two pools, under the keys of the two lists. `update?_represents` says that an update of such a
tracker has a result, that this result represents the pools after the update, and that the report is
the one of the pools. The rows below are tracks with their keys.
-/

namespace ObjectQuery

open Storage

variable {α : Type} [Scalar α] {σ : Type → Type} [Storage σ]

namespace Tracker

/-- A tracker stands for pools, its two lists being the keys of the given rows. -/
structure Represents (tracker : Tracker α σ) (pools : TrackPools α)
    (tracked lost : List (Nat × Track α)) : Prop where
  holds : Holds tracker.tracks (tracked ++ lost)
  trackedKeys : tracker.tracked = tracked.map Prod.fst
  lostKeys : tracker.lost = lost.map Prod.fst
  trackedTracks : tracked.map Prod.snd = pools.tracked
  lostTracks : lost.map Prod.snd = pools.lost
  settings : tracker.settings = pools.settings
  frameCount : tracker.frameCount = pools.frameCount
  nextId : tracker.nextId = pools.nextId

/-! ## One operation on rows -/

/-- A row continued by a detection. -/
def observeRow (frame : Nat) (pair : (Nat × Track α) × Sighting α) : Nat × Track α :=
  (pair.1.1, pair.1.2.observe frame pair.2)

theorem pair?_eq
    {tracks : σ (Track α)} {entries rows : List (Nat × Track α)}
    (holds : Holds tracks entries) (inside : rows ⊆ entries)
    (solve : AssignmentSolver α) (cost : Track α → Sighting α → α) (threshold : α)
    (sightings : List (Sighting α)) :
    pair? solve cost threshold tracks (rows.map Prod.fst) sightings =
      some ((Pairing.find solve (fun row => cost row.2) threshold rows sightings).mapRows
        Prod.fst) := by
  rw [pair?, holds.readAll?_eq inside, Option.map_some, zip_fst_snd]

variable [LawfulStorage σ]

theorem observeAll?_eq
    {tracks : σ (Track α)} {rest : List (Nat × Track α)}
    {matched : List ((Nat × Track α) × Sighting α)}
    (holds : Holds tracks (matched.map Prod.fst ++ rest)) (frame : Nat) :
    ∃ after,
      observeAll? tracks frame (matched.map fun (row, sighting) => (row.1, sighting)) =
          some after ∧
        Holds after (matched.map (observeRow frame) ++ rest) := by
  obtain ⟨after, changed, left⟩ := Holds.change?_eq
    (fun (pair : (Nat × Track α) × Sighting α) track => track.observe frame pair.2)
    (fun pair => pair.1.1) (fun pair => pair.1.2) holds
  exact ⟨after, by simpa [observeAll?, Function.comp_def] using changed, left⟩

/-! ## Moving on -/

omit [Scalar α] in
theorem confirmed_unsighted (track : Track α) : track.unsighted.confirmed = track.confirmed := rfl

/-- The rows of the confirmed and the lost tracks, moved on. -/
def poolRows (tracked lost : List (Nat × Track α)) : List (Nat × Track α) :=
  ((tracked.filter fun row => row.2.confirmed) ++ lost).map
    (onValue fun track => track.unsighted.predict)

/-- The rows of the tentative tracks. -/
def tentativeRows (tracked : List (Nat × Track α)) : List (Nat × Track α) :=
  (tracked.filter fun row => !row.2.confirmed).map (onValue Track.unsighted)

theorem advance?_eq
    {tracker : Tracker α σ} {pools : TrackPools α} {tracked lost : List (Nat × Track α)}
    (represents : tracker.Represents pools tracked lost) :
    ∃ tracks,
      tracker.advance? =
          some (tracks, (poolRows tracked lost).map Prod.fst,
            (tentativeRows tracked).map Prod.fst) ∧
        Holds tracks (poolRows tracked lost ++ tentativeRows tracked) := by
  have whole : Holds tracker.tracks ((tracked ++ lost) ++ []) := by
    simpa using represents.holds
  obtain ⟨unsighted, unsightedEq, holds⟩ := whole.changeAll?_eq Track.unsighted
  rw [List.append_nil, List.map_append] at holds
  have inside : tracked.map (onValue Track.unsighted) ⊆
      tracked.map (onValue Track.unsighted) ++ lost.map (onValue Track.unsighted) :=
    List.subset_append_left _ _
  have selected (condition : Track α → Bool) :
      select? unsighted condition (tracked.map Prod.fst) =
        some ((tracked.filter fun row => condition row.2.unsighted).map Prod.fst) := by
    have found := holds.select?_eq inside condition
    rw [map_fst_onValue, List.filter_map, map_fst_onValue] at found
    exact found
  let pool := (tracked.filter fun row => row.2.confirmed) ++ lost
  have divided : (tracked.map (onValue Track.unsighted) ++
      lost.map (onValue Track.unsighted)).Perm
        (pool.map (onValue Track.unsighted) ++ tentativeRows tracked) := by
    have split := (List.filter_append_perm (fun row : Nat × Track α => row.2.confirmed)
      tracked).symm.append_right lost
    rw [List.append_assoc] at split
    have swapped := split.trans (List.perm_append_comm.append_left _)
    rw [← List.append_assoc] at swapped
    rw [← List.map_append, tentativeRows, ← List.map_append]
    exact swapped.map (onValue Track.unsighted)
  obtain ⟨moved, movedEq, left⟩ := (holds.perm divided).changeAll?_eq Track.predict
  refine ⟨moved, ?_, ?_⟩
  · have poolKeys : (poolRows tracked lost).map Prod.fst = pool.map Prod.fst :=
      map_fst_onValue ..
    have tentativeKeys : (tentativeRows tracked).map Prod.fst =
        (tracked.filter fun row => !row.2.confirmed).map Prod.fst :=
      map_fst_onValue ..
    rw [map_fst_onValue, List.map_append] at movedEq
    rw [List.map_append] at unsightedEq
    rw [poolKeys, tentativeKeys, List.map_append]
    simp only [advance?, represents.trackedKeys, represents.lostKeys, unsightedEq, selected,
      confirmed_unsighted, movedEq, Option.bind_eq_bind, Option.bind_some]
    rfl
  · rw [List.map_map] at left
    exact left

/-! ## The three passes -/

/-- The matches of the three passes over rows. -/
def rowPasses (settings : TrackerSettings α) (tracked lost : List (Nat × Track α))
    (found : List (Sighting α)) : Associations (Nat × Track α) α :=
  passes Prod.snd settings (poolRows tracked lost) (tentativeRows tracked) found

/-- The rows of the continued tracks. -/
def continuedRows (frame : Nat) (rows : Associations (Nat × Track α) α) : List (Nat × Track α) :=
  (continued rows).map (observeRow frame)

/-- The rows left by the first pass that no later pass is about. -/
def keptLostRows (rows : Associations (Nat × Track α) α) : List (Nat × Track α) :=
  rows.first.leftRows.filter fun row => !decide (row.2.state = .tracked)

/-- The rows of the tracks that are lost now. -/
def newlyLostRows (rows : Associations (Nat × Track α) α) : List (Nat × Track α) :=
  rows.second.leftRows.map (onValue Track.markLost)

omit [Scalar α] [LawfulStorage σ] in
theorem holds_of_coe
    {tracks : σ (Track α)} {rows others : List (Nat × Track α)} (holds : Holds tracks rows)
    (same : (rows : Multiset (Nat × Track α)) = (others : Multiset (Nat × Track α))) :
    Holds tracks others :=
  holds.perm (Multiset.coe_eq_coe.mp same)

/-- One pass: the rows are matched, and those with a detection are continued. -/
theorem pass_eq
    {tracks : σ (Track α)} {rows rest : List (Nat × Track α)} (holds : Holds tracks (rows ++ rest))
    (solve : AssignmentSolver α) (cost : Track α → Sighting α → α) (threshold : α)
    (sightings : List (Sighting α)) (frame : Nat) {pairing : Pairing (Nat × Track α) (Sighting α)}
    (found : Pairing.find solve (fun row => cost row.2) threshold rows sightings = pairing) :
    ∃ after,
      pair? solve cost threshold tracks (rows.map Prod.fst) sightings =
          some (pairing.mapRows Prod.fst) ∧
        observeAll? tracks frame (pairing.mapRows Prod.fst).matched = some after ∧
          Holds after
            (pairing.matched.map (observeRow frame) ++ (pairing.leftRows ++ rest)) := by
  have paired := pair?_eq holds (List.subset_append_left rows rest) solve cost threshold sightings
  have divided : (pairing.matched.map Prod.fst ++ pairing.leftRows).Perm rows :=
    found ▸ Pairing.perm_rows ..
  rw [found] at paired
  have holds : Holds tracks (pairing.matched.map Prod.fst ++ (pairing.leftRows ++ rest)) := by
    refine holds.perm ?_
    rw [← List.append_assoc]
    exact divided.symm.append_right rest
  obtain ⟨after, observed, left⟩ := observeAll?_eq holds frame
  exact ⟨after, paired, observed, left⟩

theorem associate?_eq
    {tracker : Tracker α σ} {pools : TrackPools α} {tracked lost : List (Nat × Track α)}
    (represents : tracker.Represents pools tracked lost) (frame : Nat)
    (found : List (Sighting α)) {rows : Associations (Nat × Track α) α}
    (passed : rowPasses tracker.settings tracked lost found = rows) :
    ∃ tracks,
      tracker.associate? frame found = some (tracks, rows.mapRows Prod.fst) ∧
        Holds tracks (continuedRows frame rows ++ keptLostRows rows ++ newlyLostRows rows ++
          rows.third.leftRows) := by
  obtain ⟨first, second, third⟩ := rows
  obtain ⟨firstFound, secondFound, thirdFound⟩ := Associations.mk.inj passed
  rw [firstFound] at secondFound thirdFound
  obtain ⟨advanced, advancedEq, holds⟩ := advance?_eq represents
  obtain ⟨afterFirst, firstEq, firstSeen, holds⟩ := pass_eq holds tracker.settings.solve
    weighedCost tracker.settings.matchThreshold
    (found.filter (isConfident tracker.settings)) frame firstFound
  have remaining := holds.select?_eq
    (fun row member => List.mem_append_right _ (List.mem_append_left _ member))
    fun track => decide (track.state = .tracked)
  have divided := List.filter_append_perm
    (fun row : Nat × Track α => decide (row.2.state = .tracked)) first.leftRows
  have holds : Holds afterFirst
      ((first.leftRows.filter fun row => decide (row.2.state = .tracked)) ++
        (first.matched.map (observeRow frame) ++ (keptLostRows ⟨first, second, third⟩ ++
          tentativeRows tracked))) := by
    refine holds_of_coe holds ?_
    simp only [← Multiset.coe_add, ← Multiset.coe_eq_coe.mpr divided, keptLostRows]
    abel
  obtain ⟨afterSecond, secondEq, secondSeen, holds⟩ := pass_eq holds tracker.settings.solve
    plainCost tracker.settings.lowMatchThreshold
    (found.filter (isDoubtful tracker.settings)) frame secondFound
  have holds := holds.perm (List.perm_append_comm_assoc ..)
  obtain ⟨afterLost, lostEq, holds⟩ := holds.changeAll?_eq Track.markLost
  have holds : Holds afterLost (tentativeRows tracked ++ (second.matched.map (observeRow frame) ++
      (newlyLostRows ⟨first, second, third⟩ ++ (first.matched.map (observeRow frame) ++
        keptLostRows ⟨first, second, third⟩)))) := by
    refine holds_of_coe holds ?_
    simp only [← Multiset.coe_add, newlyLostRows, keptLostRows]
    abel
  obtain ⟨afterThird, thirdEq, thirdSeen, holds⟩ := pass_eq holds tracker.settings.solve
    weighedCost tracker.settings.tentativeMatchThreshold first.leftColumns frame thirdFound
  refine ⟨afterThird, ?_, ?_⟩
  · have firstLeft : (first.mapRows Prod.fst).leftRows = first.leftRows.map Prod.fst := rfl
    have secondLeft : (second.mapRows Prod.fst).leftRows = second.leftRows.map Prod.fst := rfl
    have columns : (first.mapRows Prod.fst).leftColumns = first.leftColumns := rfl
    simp only [associate?, advancedEq, firstEq, firstSeen, firstLeft, remaining, secondEq,
      secondSeen, secondLeft, lostEq, columns, thirdEq, thirdSeen, Option.bind_eq_bind,
      Option.bind_some]
    rfl
  · refine holds_of_coe holds ?_
    simp only [← Multiset.coe_add, continuedRows, continued, List.map_append]
    abel

/-! ## Giving tracks up -/

/-- The rows of tracks that a condition selects. -/
def rowsWhere (condition : Track α → Bool) (rows : List (Nat × Track α)) : List (Nat × Track α) :=
  rows.filter fun row => condition row.2

omit [Scalar α] in
theorem map_snd_rowsWhere (condition : Track α → Bool) (rows : List (Nat × Track α)) :
    (rowsWhere condition rows).map Prod.snd = (rows.map Prod.snd).filter condition := by
  rw [List.filter_map]
  rfl

omit [Scalar α] in
theorem expire?_eq
    {tracks : σ (Track α)} {absent rest : List (Nat × Track α)}
    (holds : Holds tracks (absent ++ rest)) (settings : TrackerSettings α) (frame : Nat) :
    ∃ after,
      expire? settings frame tracks (absent.map Prod.fst) =
          some (after,
            (rowsWhere (fun track => !isExpired settings frame track) absent).map Prod.fst,
            (rowsWhere (isExpired settings frame) absent).map Prod.snd) ∧
        Holds after
          (rowsWhere (fun track => !isExpired settings frame track) absent ++ rest) := by
  have inside : absent ⊆ absent ++ rest := List.subset_append_left absent rest
  have waiting := holds.select?_eq inside fun track => !isExpired settings frame track
  have expired := holds.select?_eq inside (isExpired settings frame)
  have divided : (absent ++ rest).Perm
      (rowsWhere (isExpired settings frame) absent ++
        (rowsWhere (fun track => !isExpired settings frame track) absent ++ rest)) := by
    rw [← List.append_assoc]
    exact (List.filter_append_perm _ absent).symm.append_right rest
  obtain ⟨after, taken, left⟩ := (holds.perm divided).takeAll?_eq
  refine ⟨after, ?_, left⟩
  unfold rowsWhere at taken ⊢
  simp only [expire?, waiting, expired, taken, Option.bind_eq_bind, Option.bind_some]
  rfl

/-- Which of two lists of rows are kept. -/
def keptRows (settings : TrackerSettings α) (active waiting : List (Nat × Track α)) :
    List Bool × List Bool :=
  Lifespan.deduplicate ((active.map Prod.snd).map lifespan) ((waiting.map Prod.snd).map lifespan)
    settings.duplicateDistance

theorem deduplicate?_eq
    {tracks : σ (Track α)} {active waiting : List (Nat × Track α)}
    (holds : Holds tracks (active ++ waiting)) (settings : TrackerSettings α)
    {keptActive keptWaiting : List Bool}
    (kept : keptRows settings active waiting = (keptActive, keptWaiting)) :
    ∃ after,
      deduplicate? settings tracks (active.map Prod.fst) (waiting.map Prod.fst) =
          some (after,
            ((separate active keptActive).1.map Prod.fst,
              (separate waiting keptWaiting).1.map Prod.fst),
            (separate active keptActive).2.map Prod.snd ++
              (separate waiting keptWaiting).2.map Prod.snd) ∧
        Holds after ((separate active keptActive).1 ++ (separate waiting keptWaiting).1) := by
  have activeRead := holds.readAll?_eq (List.subset_append_left active waiting)
  have waitingRead := holds.readAll?_eq (List.subset_append_right active waiting)
  have lengths := TrackPools.length_deduplicate (active.map Prod.snd) (waiting.map Prod.snd)
    settings.duplicateDistance
  unfold keptRows at kept
  rw [kept, List.length_map, List.length_map] at lengths
  have activeSplit := TrackPools.perm_separate active keptActive lengths.1
  have waitingSplit := TrackPools.perm_separate waiting keptWaiting lengths.2
  have holds : Holds tracks ((separate active keptActive).2 ++
      ((separate waiting keptWaiting).2 ++
        ((separate active keptActive).1 ++ (separate waiting keptWaiting).1))) := by
    refine holds_of_coe holds ?_
    simp only [← Multiset.coe_add, ← Multiset.coe_eq_coe.mpr activeSplit,
      ← Multiset.coe_eq_coe.mpr waitingSplit]
    abel
  obtain ⟨afterActive, activeTaken, holds⟩ := holds.takeAll?_eq
  obtain ⟨after, waitingTaken, holds⟩ := holds.takeAll?_eq
  refine ⟨after, ?_, holds⟩
  simp only [deduplicate?, activeRead, waitingRead, kept, TrackPools.separate_map, activeTaken,
    waitingTaken, Option.bind_eq_bind, Option.bind_some]
  rfl

/-- Rows in the order of the numbers of their tracks. -/
def rowsById (rows : List (Nat × Track α)) : List (Nat × Track α) :=
  rows.mergeSort fun a b => decide (a.2.id ≤ b.2.id)

omit [Scalar α] in
theorem map_snd_rowsById (rows : List (Nat × Track α)) :
    (rowsById rows).map Prod.snd = TrackPools.byId (rows.map Prod.snd) :=
  List.map_mergeSort fun _ _ _ _ => rfl

omit [Scalar α] in
theorem perm_rowsById (rows : List (Nat × Track α)) : (rowsById rows).Perm rows :=
  List.mergeSort_perm rows _

omit [Scalar α] [LawfulStorage σ] in
theorem byId?_eq
    {tracks : σ (Track α)} {entries rows : List (Nat × Track α)}
    (holds : Holds tracks entries) (inside : rows ⊆ entries) :
    byId? tracks (rows.map Prod.fst) = some ((rowsById rows).map Prod.fst) := by
  rw [byId?, holds.readAll?_eq inside, Option.map_some, zip_fst_snd]
  rfl

omit [Scalar α] [LawfulStorage σ] in
/-- Two lists of rows put in order: the keys are found in order, and the tracks read under them. -/
theorem ordered_eq
    {tracks : σ (Track α)} {active waiting : List (Nat × Track α)}
    (holds : Holds tracks (active ++ waiting)) :
    Holds tracks (rowsById active ++ rowsById waiting) ∧
      (byId? tracks (active.map Prod.fst) = some ((rowsById active).map Prod.fst) ∧
        readAll? tracks ((rowsById active).map Prod.fst) =
          some ((rowsById active).map Prod.snd)) ∧
      byId? tracks (waiting.map Prod.fst) = some ((rowsById waiting).map Prod.fst) ∧
        readAll? tracks ((rowsById waiting).map Prod.fst) =
          some ((rowsById waiting).map Prod.snd) := by
  have activeSorted := byId?_eq holds (List.subset_append_left active waiting)
  have waitingSorted := byId?_eq holds (List.subset_append_right active waiting)
  have holds := holds.perm ((perm_rowsById active).symm.append (perm_rowsById waiting).symm)
  exact ⟨holds, ⟨activeSorted, holds.readAll?_eq (List.subset_append_left ..)⟩,
    waitingSorted, holds.readAll?_eq (List.subset_append_right ..)⟩

/-! ## The tracks that stay lost -/

variable {tracker : Tracker α σ} {pools : TrackPools α} {tracked lost : List (Nat × Track α)}

omit [LawfulStorage σ] in
theorem Represents.nodup_pool (represents : tracker.Represents pools tracked lost) :
    ((poolRows tracked lost).map Prod.fst).Nodup := by
  rw [poolRows, map_fst_onValue]
  exact represents.holds.distinct.sublist
    ((List.filter_sublist.append_right lost).map Prod.fst)

omit [LawfulStorage σ] in
/-- The rows of the pool that are not tracked are those of the tracks that were lost. -/
theorem Represents.filter_pool
    (represents : tracker.Represents pools tracked lost) (staged : pools.Staged) :
    ((poolRows tracked lost).filter fun row => !decide (row.2.state = .tracked)) =
      lost.map (onValue fun track => track.unsighted.predict) := by
  have followed : ∀ row ∈ tracked, row.2.confirmed = true → row.2.state = .tracked := by
    intro row member confirmed
    have inside : row.2 ∈ pools.tracked :=
      represents.trackedTracks ▸ List.mem_map_of_mem member
    rcases staged.tracked row.2 inside with ⟨_, unconfirmed⟩ | ⟨state, _⟩
    · rw [unconfirmed] at confirmed
      exact absurd confirmed (by simp)
    · exact state
  have missing : ∀ row ∈ lost, row.2.state = .lost := by
    intro row member
    exact (staged.lost row.2 (represents.lostTracks ▸ List.mem_map_of_mem member)).1
  rw [poolRows, List.map_append, List.filter_append]
  have none : (((tracked.filter fun row => row.2.confirmed).map
      (onValue fun track => track.unsighted.predict)).filter fun row =>
        !decide (row.2.state = .tracked)) = [] := by
    refine List.filter_eq_nil_iff.mpr fun row member => ?_
    obtain ⟨before, inside, rfl⟩ := List.mem_map.mp member
    obtain ⟨inside, confirmed⟩ := List.mem_filter.mp inside
    simp [onValue, Track.predict, Track.unsighted, followed before inside confirmed]
  have all : ((lost.map (onValue fun track => track.unsighted.predict)).filter fun row =>
      !decide (row.2.state = .tracked)) =
        lost.map (onValue fun track => track.unsighted.predict) := by
    refine List.filter_eq_self.mpr fun row member => ?_
    obtain ⟨before, inside, rfl⟩ := List.mem_map.mp member
    simp [onValue, Track.predict, Track.unsighted, missing before inside]
  rw [none, all, List.nil_append]

omit [LawfulStorage σ] in
/-- The keys of lost tracks whose tracks are still lost after the passes. -/
theorem Represents.stillLost_eq
    (represents : tracker.Represents pools tracked lost) (staged : pools.Staged)
    {found : List (Sighting α)} {rows : Associations (Nat × Track α) α}
    (passed : rowPasses tracker.settings tracked lost found = rows)
    {tracks : σ (Track α)} {entries : List (Nat × Track α)} (frame : Nat)
    (holds : Holds tracks entries) (continued : continuedRows frame rows ⊆ entries)
    (kept : keptLostRows rows ⊆ entries) :
    select? tracks (fun track => track.state = .lost) tracker.lost =
      some ((keptLostRows rows).map Prod.fst) := by
  let isMatched (key : Nat) : Bool := (rows.first.matched.map fun pair => pair.1.1).contains key
  have left : rows.first.leftRows =
      (poolRows tracked lost).filter fun row => !isMatched row.1 := by
    have filtered := Pairing.leftRows_eq_filter tracker.settings.solve
      (fun row : Nat × Track α => weighedCost row.2) tracker.settings.matchThreshold
      (poolRows tracked lost) (found.filter (isConfident tracker.settings)) Prod.fst
      represents.nodup_pool
    subst passed
    exact filtered
  have keptEq : keptLostRows rows =
      (lost.map (onValue fun track => track.unsighted.predict)).filter fun row =>
        !isMatched row.1 := by
    rw [keptLostRows, left, List.filter_filter, List.filter_congr fun _ _ => Bool.and_comm _ _,
      ← List.filter_filter, represents.filter_pool staged]
  have keys : (keptLostRows rows).map Prod.fst =
      tracker.lost.filter fun key => !isMatched key := by
    rw [keptEq, represents.lostKeys, List.filter_map, map_fst_onValue, List.filter_map]
    rfl
  rw [keys]
  refine holds.select?_keys fun key member => ?_
  by_cases matched : isMatched key
  · obtain ⟨pair, inside, rfl⟩ := List.mem_map.mp (List.contains_iff_mem.mp matched)
    refine ⟨pair.1.2.observe frame pair.2, continued (List.mem_map.mpr ⟨pair, ?_, rfl⟩), ?_⟩
    · exact List.mem_append_left _ (List.mem_append_left _ inside)
    · simp [matched, Track.observe]
  · rw [represents.lostKeys] at member
    obtain ⟨row, inside, rfl⟩ := List.mem_map.mp member
    have state := (staged.lost row.2 (represents.lostTracks ▸ List.mem_map_of_mem inside)).1
    refine ⟨row.2.unsighted.predict, kept ?_, ?_⟩
    · rw [keptEq]
      exact List.mem_filter.mpr ⟨List.mem_map_of_mem inside, by simpa using matched⟩
    · simp [matched, Track.predict, Track.unsighted, state]

/-! ## One update -/

omit [LawfulStorage σ] in
theorem Represents.pool_eq (represents : tracker.Represents pools tracked lost) :
    (poolRows tracked lost).map Prod.snd = pools.pool := by
  rw [poolRows, map_snd_onValue, List.map_append, represents.lostTracks, TrackPools.pool,
    ← represents.trackedTracks, List.filter_map]
  rfl

omit [Scalar α] [LawfulStorage σ] in
theorem Represents.tentative_eq (represents : tracker.Represents pools tracked lost) :
    (tentativeRows tracked).map Prod.snd = pools.tentative := by
  rw [tentativeRows, map_snd_onValue, TrackPools.tentative, ← represents.trackedTracks,
    List.filter_map]
  rfl

omit [LawfulStorage σ] in
/-- The passes over rows are the passes over their tracks. -/
theorem Represents.associations_eq
    (represents : tracker.Represents pools tracked lost) {rows : Associations (Nat × Track α) α}
    (observations : List (Observation α))
    (passed : rowPasses tracker.settings tracked lost (sightings observations) = rows) :
    pools.associations observations = rows.mapRows Prod.snd := by
  rw [TrackPools.associations, ← represents.pool_eq, ← represents.tentative_eq,
    ← represents.settings, passes_map, ← passed]
  rfl

theorem map_fst_continuedRows (frame : Nat) (rows : Associations (Nat × Track α) α) :
    (continuedRows frame rows).map Prod.fst =
      (continued (rows.mapRows Prod.fst)).map Prod.fst := by
  simp [continuedRows, continued, Associations.mapRows, Pairing.mapRows, observeRow,
    Function.comp_def]

theorem map_snd_continuedRows (frame : Nat) (rows : Associations (Nat × Track α) α) :
    (continuedRows frame rows).map Prod.snd =
      (continued (rows.mapRows Prod.snd)).map fun (track, sighting) =>
        track.observe frame sighting := by
  simp [continuedRows, continued, Associations.mapRows, Pairing.mapRows, observeRow,
    Function.comp_def]

omit [LawfulStorage σ] in
/-- The rows that are lost after the passes carry the tracks that are. -/
theorem Represents.absent_eq
    (represents : tracker.Represents pools tracked lost) (staged : pools.Staged)
    {rows : Associations (Nat × Track α) α} (observations : List (Observation α))
    (passed : rowPasses tracker.settings tracked lost (sightings observations) = rows) :
    (keptLostRows rows ++ newlyLostRows rows).map Prod.snd = pools.absent observations := by
  have associations := represents.associations_eq observations passed
  have kept : (keptLostRows rows).map Prod.snd =
      (rows.first.leftRows.map Prod.snd).filter fun track => track.state = .lost := by
    rw [keptLostRows, List.filter_map]
    refine congrArg (List.map Prod.snd) (List.filter_congr fun row member => ?_)
    have inside : row ∈ poolRows tracked lost := by
      subst passed
      have left : row ∈ (Pairing.find tracker.settings.solve (fun row => weighedCost row.2) _
        (poolRows tracked lost) _).leftRows := member
      exact Pairing.mem_of_leftRows left
    have pooled : row.2 ∈ pools.pool := represents.pool_eq ▸ List.mem_map_of_mem inside
    rcases (TrackPools.confirmed_of_mem_pool staged pooled).2 with state | state <;>
      simp [state]
  rw [List.map_append, kept, newlyLostRows, map_snd_onValue, TrackPools.absent, associations]
  rfl

omit [LawfulStorage σ] in
/-- Rows that carry the active and the absent tracks carry, sorted out, those of the pools after an
update. -/
theorem Represents.after_eq
    (represents : tracker.Represents pools tracked lost) {frame : Nat}
    {observations : List (Observation α)} {active absent waiting : List (Nat × Track α)}
    (activeTracks : active.map Prod.snd = pools.active frame observations)
    (absentTracks : absent.map Prod.snd = pools.absent observations)
    (waitingEq : rowsWhere (fun track => !isExpired tracker.settings frame track) absent = waiting)
    {keptActive keptWaiting : List Bool}
    (kept : keptRows tracker.settings active waiting = (keptActive, keptWaiting)) :
    (rowsById (separate active keptActive).1).map Prod.snd =
        (pools.after frame observations).tracked ∧
      (rowsById (separate waiting keptWaiting).1).map Prod.snd =
        (pools.after frame observations).lost ∧
      pools.ended frame observations = (pools.associations observations).third.leftRows ++
        (rowsWhere (isExpired tracker.settings frame) absent).map Prod.snd ++
          ((separate active keptActive).2.map Prod.snd ++
            (separate waiting keptWaiting).2.map Prod.snd) := by
  have waitingTracks : waiting.map Prod.snd = pools.waiting frame observations := by
    rw [← waitingEq, map_snd_rowsWhere, absentTracks, represents.settings]
    rfl
  have keptTracks : pools.kept frame observations = (keptActive, keptWaiting) := by
    rw [← kept, keptRows, activeTracks, waitingTracks, represents.settings]
    rfl
  refine ⟨?_, ?_, ?_⟩
  · rw [map_snd_rowsById, TrackPools.after, keptTracks, ← activeTracks, TrackPools.separate_map]
  · rw [map_snd_rowsById, TrackPools.after, keptTracks, ← waitingTracks, TrackPools.separate_map]
  · rw [TrackPools.ended, TrackPools.expired, keptTracks, ← activeTracks, ← waitingTracks,
      ← absentTracks, TrackPools.separate_map, TrackPools.separate_map, map_snd_rowsWhere,
      represents.settings]

/-- An update of a tracker that stands for pools has a result, and the result stands for the pools
after the update. -/
theorem update?_represents
    (represents : tracker.Represents pools tracked lost) (staged : pools.Staged) (frame : Nat)
    (observations : List (Observation α)) :
    ∃ after tracked' lost',
      tracker.update? frame observations = some (after, pools.report frame observations) ∧
        after.Represents (pools.after frame observations) tracked' lost' := by
  obtain ⟨rows, passed⟩ : ∃ rows,
      rowPasses tracker.settings tracked lost (sightings observations) = rows := ⟨_, rfl⟩
  have associations := represents.associations_eq observations passed
  obtain ⟨associated, associatedEq, holds⟩ :=
    associate?_eq represents frame (sightings observations) passed
  obtain ⟨confirmed, unconfirmedEq, holds⟩ := (holds.perm List.perm_append_comm).takeAll?_eq
  have startedEq : begun (seeds tracker.settings (rows.mapRows Prod.fst)) tracker.nextId frame
      (tracker.frameCount = 0) = pools.started frame observations := by
    rw [TrackPools.started, associations, represents.settings, represents.nextId,
      represents.frameCount]
    rfl
  obtain ⟨seeded, seededKeys, seededTracks, holds⟩ :=
    holds.insertAll (pools.started frame observations)
  obtain ⟨inserted, insertedEq⟩ : ∃ inserted,
      insertAll confirmed (pools.started frame observations) = inserted := ⟨_, rfl⟩
  rw [insertedEq] at seededKeys holds
  have stillLost := represents.stillLost_eq staged passed frame holds
    (fun row member => List.mem_append_left _ (List.mem_append_left _
      (List.mem_append_left _ member)))
    (fun row member => List.mem_append_left _ (List.mem_append_left _
      (List.mem_append_right _ member)))
  let absent := keptLostRows rows ++ newlyLostRows rows
  let active := continuedRows frame rows ++ seeded
  have holds : Holds inserted.2 (absent ++ active) := by
    refine holds_of_coe holds ?_
    simp only [← Multiset.coe_add, absent, active]
    abel
  obtain ⟨waiting, waitingEq⟩ : ∃ waiting,
      rowsWhere (fun track => !isExpired tracker.settings frame track) absent = waiting := ⟨_, rfl⟩
  obtain ⟨expired, expiredEq, holds⟩ := expire?_eq holds tracker.settings frame
  rw [waitingEq] at expiredEq holds
  obtain ⟨⟨keptActive, keptWaiting⟩, kept⟩ : ∃ flags,
      keptRows tracker.settings active waiting = flags := ⟨_, rfl⟩
  obtain ⟨tracks, deduplicatedEq, holds⟩ :=
    deduplicate?_eq (holds.perm List.perm_append_comm) tracker.settings kept
  have activeTracks : active.map Prod.snd = pools.active frame observations := by
    rw [List.map_append, map_snd_continuedRows, seededTracks, ← associations]
    rfl
  have absentTracks : absent.map Prod.snd = pools.absent observations :=
    represents.absent_eq staged observations passed
  obtain ⟨trackedTracks, lostTracks, endedTracks⟩ :=
    represents.after_eq activeTracks absentTracks waitingEq kept
  obtain ⟨holds, ⟨trackedSorted, trackedRead⟩, lostSorted, lostRead⟩ := ordered_eq holds
  generalize rowsById (separate active keptActive).1 = trackedRows at *
  generalize rowsById (separate waiting keptWaiting).1 = lostRows at *
  rw [associations] at endedTracks
  refine ⟨{ tracker with
    tracks := tracks
    tracked := trackedRows.map Prod.fst
    lost := lostRows.map Prod.fst
    frameCount := tracker.frameCount + 1
    nextId := tracker.nextId + (pools.started frame observations).length },
    trackedRows, lostRows, ?_, ?_⟩
  · have activeKeys : (continued (rows.mapRows Prod.fst)).map Prod.fst ++ seeded.map Prod.fst =
        active.map Prod.fst := by
      rw [← map_fst_continuedRows, List.map_append]
    have absentKeys : (keptLostRows rows).map Prod.fst ++
        (rows.mapRows Prod.fst).second.leftRows = absent.map Prod.fst := by
      rw [List.map_append, newlyLostRows, map_fst_onValue]
      rfl
    have thirdLeft : (rows.mapRows Prod.fst).third.leftRows = rows.third.leftRows.map Prod.fst :=
      rfl
    simp only [update?, associatedEq, thirdLeft, unconfirmedEq, startedEq, insertedEq,
      seededKeys, stillLost,
      absentKeys, expiredEq, activeKeys, deduplicatedEq, trackedSorted, lostSorted, trackedRead,
      lostRead, Option.bind_eq_bind, Option.bind_some]
    rw [TrackPools.report, endedTracks, ← trackedTracks, ← lostTracks]
    rfl
  · exact
      { holds := holds
        trackedKeys := rfl
        lostKeys := rfl
        trackedTracks := trackedTracks
        lostTracks := lostTracks
        settings := represents.settings
        frameCount := congrArg (· + 1) represents.frameCount
        nextId := congrArg (· + (pools.started frame observations).length) represents.nextId }

end Tracker

end ObjectQuery
