import Mathlib.Data.Finset.Max
import Mathlib.Logic.Relation
import ObjectQuery.Proofs.Tracking.Duplicates

/-!
# In whose favour an entry goes

A deduplication compares every pair, whether an entry has gone already or not, so that an entry may go in
favour of one that goes itself. Such entries form a chain along which the lifetimes do not fall, and since
they rise from the second list to the first, every chain ends at an entry that is kept
(`exists_survivor`). An entry has a kept duplicate of its own exactly if one of those it goes in favour of
is the end of the chain.
-/

namespace ObjectQuery

variable {α : Type} [Scalar α]

namespace Lifespan

/-! ## Chains of close entries -/

section Chains

variable {β : Type} (lifespan : β → Lifespan α) (first second : List β) (maxDistance : α)

/-- One of the entries of two lists goes in favour of a close one of the other list. -/
inductive GivesWay : β ⊕ β → β ⊕ β → Prop
  | toSecond {a b : β} : a ∈ first → b ∈ second →
      Box.distance (lifespan a).box (lifespan b).box < maxDistance →
        (lifespan a).lifetime ≤ (lifespan b).lifetime → GivesWay (.inl a) (.inr b)
  | toFirst {a b : β} : a ∈ first → b ∈ second →
      Box.distance (lifespan a).box (lifespan b).box < maxDistance →
        (lifespan b).lifetime < (lifespan a).lifetime → GivesWay (.inr b) (.inl a)

/-- An entry of one of the lists that goes in favour of none. -/
structure Remains (entry : β ⊕ β) : Prop where
  listed : Sum.elim (· ∈ first) (· ∈ second) entry
  last : ∀ other, ¬ GivesWay lifespan first second maxDistance entry other

/-- For how long an entry of either list has been followed. -/
def lifetimeOf (entry : β ⊕ β) : Nat := (Sum.elim lifespan lifespan entry).lifetime

/-- A measure that rises with every step of a chain: lifetimes first, then the lists. -/
def rank (entry : β ⊕ β) : Nat := 2 * lifetimeOf lifespan entry + Sum.elim (fun _ => 0) (fun _ => 1) entry

variable {lifespan first second maxDistance} {entry other : β ⊕ β} {a b : β}

theorem GivesWay.rank_lt (gives : GivesWay lifespan first second maxDistance entry other) :
    rank lifespan entry < rank lifespan other := by
  cases gives with
  | toSecond _ _ _ shorter =>
      simp only [rank, lifetimeOf, Sum.elim_inl, Sum.elim_inr]
      omega
  | toFirst _ _ _ shorter =>
      simp only [rank, lifetimeOf, Sum.elim_inl, Sum.elim_inr]
      omega

theorem GivesWay.lifetime_le (gives : GivesWay lifespan first second maxDistance entry other) :
    lifetimeOf lifespan entry ≤ lifetimeOf lifespan other := by
  cases gives with
  | toSecond _ _ _ shorter => exact shorter
  | toFirst _ _ _ shorter => exact Nat.le_of_lt shorter

theorem GivesWay.listed (gives : GivesWay lifespan first second maxDistance entry other) :
    Sum.elim (· ∈ first) (· ∈ second) entry ∧ Sum.elim (· ∈ first) (· ∈ second) other := by
  cases gives with
  | toSecond inFirst inSecond _ _ => exact ⟨inFirst, inSecond⟩
  | toFirst inFirst inSecond _ _ => exact ⟨inSecond, inFirst⟩

theorem lifetime_le_of_chain
    (chain : Relation.TransGen (GivesWay lifespan first second maxDistance) entry other) :
    lifetimeOf lifespan entry ≤ lifetimeOf lifespan other := by
  induction chain with
  | single gives => exact gives.lifetime_le
  | tail _ gives inductionHypothesis => exact Nat.le_trans inductionHypothesis gives.lifetime_le

omit [Scalar α] in
variable (lifespan first second) in
/-- The ranks of the entries have a bound. -/
theorem exists_bound : ∃ bound, ∀ entry, Sum.elim (· ∈ first) (· ∈ second) entry →
    rank lifespan entry ≤ bound := by
  classical
  let ranks := (first.map fun a => rank lifespan (.inl a)) ++
    second.map fun b => rank lifespan (.inr b)
  refine ⟨ranks.toFinset.sup id, fun entry listed => ?_⟩
  have member : rank lifespan entry ∈ ranks := by
    cases entry with
    | inl a => exact List.mem_append_left _ (List.mem_map_of_mem listed)
    | inr b => exact List.mem_append_right _ (List.mem_map_of_mem listed)
  exact Finset.le_sup (f := id) (List.mem_toFinset.mpr member)

variable (maxDistance) in
/-- Every chain ends at an entry that goes in favour of none. -/
theorem exists_remaining (listed : Sum.elim (· ∈ first) (· ∈ second) entry) :
    ∃ survivor, Relation.ReflTransGen (GivesWay lifespan first second maxDistance) entry survivor ∧
      Remains lifespan first second maxDistance survivor := by
  obtain ⟨bound, bounded⟩ := exists_bound lifespan first second
  -- the ranks rise along the chain, so that what is left below the bound shrinks
  induction left : bound - rank lifespan entry using Nat.strong_induction_on generalizing entry with
  | _ left inductionHypothesis =>
      by_cases last : ∃ other, GivesWay lifespan first second maxDistance entry other
      · obtain ⟨other, gives⟩ := last
        have rises := gives.rank_lt
        have within := bounded other gives.listed.2
        obtain ⟨survivor, chain, remains⟩ :=
          inductionHypothesis _ (by omega) gives.listed.2 rfl
        exact ⟨survivor, .head gives chain, remains⟩
      · exact ⟨entry, .refl, listed, not_exists.mp last⟩

/-- What goes is at the beginning of a chain to what remains, which has lived no shorter. -/
theorem exists_survivor (gives : GivesWay lifespan first second maxDistance entry other) :
    ∃ survivor, Relation.TransGen (GivesWay lifespan first second maxDistance) entry survivor ∧
      Remains lifespan first second maxDistance survivor ∧
        lifetimeOf lifespan entry ≤ lifetimeOf lifespan survivor := by
  obtain ⟨survivor, chain, remains⟩ := exists_remaining maxDistance gives.listed.2
  have whole := Relation.TransGen.head' gives chain
  exact ⟨survivor, whole, remains, lifetime_le_of_chain whole⟩

/-! ## Who is kept -/

variable (lifespan first second maxDistance) in
/-- Whether a deduplication keeps an entry. -/
def stays (entry : β ⊕ β) : Bool :=
  Sum.elim (fun a => staysFirst (second.map lifespan) maxDistance (lifespan a))
    (fun b => staysSecond (first.map lifespan) maxDistance (lifespan b)) entry

/-- What is kept goes in favour of none. -/
theorem stays_iff (listed : Sum.elim (· ∈ first) (· ∈ second) entry) :
    stays lifespan first second maxDistance entry = true ↔
      ∀ other, ¬ GivesWay lifespan first second maxDistance entry other := by
  cases entry with
  | inl a =>
      rw [stays, Sum.elim_inl, staysFirst, Bool.not_eq_true', List.any_eq_false]
      constructor
      · intro keeps other gives
        cases gives with
        | toSecond _ inSecond close shorter =>
            exact keeps _ (List.mem_map_of_mem inSecond)
              (Bool.and_eq_true_iff.mpr ⟨decide_eq_true close, decide_eq_true shorter⟩)
      · intro last _ member yields
        obtain ⟨b, inSecond, rfl⟩ := List.mem_map.mp member
        obtain ⟨close, shorter⟩ := Bool.and_eq_true_iff.mp yields
        exact last _ (.toSecond listed inSecond (of_decide_eq_true close) (of_decide_eq_true shorter))
  | inr b =>
      rw [stays, Sum.elim_inr, staysSecond, Bool.not_eq_true', List.any_eq_false]
      constructor
      · intro keeps other gives
        cases gives with
        | toFirst inFirst _ close shorter =>
            exact keeps _ (List.mem_map_of_mem inFirst)
              (Bool.and_eq_true_iff.mpr ⟨decide_eq_true close, decide_eq_true shorter⟩)
      · intro last _ member outlived
        obtain ⟨a, inFirst, rfl⟩ := List.mem_map.mp member
        obtain ⟨close, shorter⟩ := Bool.and_eq_true_iff.mp outlived
        exact last _ (.toFirst inFirst listed (of_decide_eq_true close) (of_decide_eq_true shorter))

theorem Remains.stays (remains : Remains lifespan first second maxDistance entry) :
    stays lifespan first second maxDistance entry = true :=
  (stays_iff remains.listed).mpr remains.last

theorem exists_of_not_stays (listed : Sum.elim (· ∈ first) (· ∈ second) entry)
    (goes : stays lifespan first second maxDistance entry = false) :
    ∃ other, GivesWay lifespan first second maxDistance entry other := by
  by_contra none
  rw [(stays_iff listed).mpr (not_exists.mp none)] at goes
  exact absurd goes.symm Bool.false_ne_true

end Chains

section Flags

/-- A flag that is given to an entry of one of two lists. -/
def Flagged (first second : List (Lifespan α)) (flags : List Bool × List Bool) (flag : Bool)
    (entry : Lifespan α ⊕ Lifespan α) : Prop :=
  Sum.elim (fun a => ∃ i : Nat, first[i]? = some a ∧ flags.1[i]? = some flag)
    (fun b => ∃ j : Nat, second[j]? = some b ∧ flags.2[j]? = some flag) entry

/-- For every entry that is not kept there is a duplicate that is: a close entry of the other list that has
lived at least as long. -/
structure Replaced (first second : List (Lifespan α)) (maxDistance : α)
    (kept : List Bool × List Bool) : Prop where
  inSecond : ∀ a, Flagged first second kept false (.inl a) → ∃ b,
    Flagged first second kept true (.inr b) ∧ Box.distance a.box b.box < maxDistance ∧
      a.lifetime ≤ b.lifetime
  inFirst : ∀ b, Flagged first second kept false (.inr b) → ∃ a,
    Flagged first second kept true (.inl a) ∧ Box.distance a.box b.box < maxDistance ∧
      b.lifetime ≤ a.lifetime

/-- What becomes of the entries that are not kept. -/
structure Succeeded (first second : List (Lifespan α)) (maxDistance : α)
    (kept : List Bool × List Bool) : Prop where
  /-- An entry is not kept exactly if it goes in favour of another one, kept or not. -/
  dropped_iff : ∀ entry, Flagged first second kept false entry ↔
    ∃ other, GivesWay id first second maxDistance entry other
  /-- From there a chain leads to an entry that is kept and has lived at least as long. -/
  survived : ∀ entry, Flagged first second kept false entry → ∃ survivor,
    Relation.TransGen (GivesWay id first second maxDistance) entry survivor ∧
      Flagged first second kept true survivor ∧ lifetimeOf id entry ≤ lifetimeOf id survivor
  /-- Each has a duplicate that is kept exactly if each goes in favour of one that goes in favour of none. -/
  replaced_iff : Replaced first second maxDistance kept ↔
    ∀ entry other, GivesWay id first second maxDistance entry other → ∃ heir,
      GivesWay id first second maxDistance entry heir ∧
        ∀ third, ¬ GivesWay id first second maxDistance heir third

variable {first second : List (Lifespan α)} {maxDistance : α} {entry other : Lifespan α ⊕ Lifespan α}

theorem exists_flag_iff {β : Type} {items : List β} {condition : β → Bool} {item : β} {flag : Bool} :
    (∃ i : Nat, items[i]? = some item ∧ (items.map condition)[i]? = some flag) ↔
      item ∈ items ∧ condition item = flag := by
  simp only [List.getElem?_map]
  constructor
  · rintro ⟨i, here, flagged⟩
    rw [here] at flagged
    exact ⟨List.mem_of_getElem? here, Option.some.inj flagged⟩
  · rintro ⟨member, rfl⟩
    obtain ⟨i, here⟩ := List.mem_iff_getElem?.mp member
    exact ⟨i, here, by rw [here, Option.map_some]⟩

/-- The flags of a deduplication. -/
theorem flagged_iff {flag : Bool} :
    Flagged first second (deduplicate first second maxDistance) flag entry ↔
      Sum.elim (· ∈ first) (· ∈ second) entry ∧ stays id first second maxDistance entry = flag := by
  rw [deduplicate_eq, stays, List.map_id, List.map_id]
  cases entry with
  | inl a => exact exists_flag_iff
  | inr b => exact exists_flag_iff

theorem kept_iff : Flagged first second (deduplicate first second maxDistance) true entry ↔
    Remains id first second maxDistance entry := by
  rw [flagged_iff]
  constructor
  · rintro ⟨listed, keeps⟩
    exact ⟨listed, (stays_iff listed).mp keeps⟩
  · intro remains
    exact ⟨remains.listed, remains.stays⟩

theorem dropped_iff : Flagged first second (deduplicate first second maxDistance) false entry ↔
    ∃ other, GivesWay id first second maxDistance entry other := by
  rw [flagged_iff]
  constructor
  · rintro ⟨listed, goes⟩
    exact exists_of_not_stays listed goes
  · rintro ⟨other, gives⟩
    refine ⟨gives.listed.1, Bool.eq_false_iff.mpr fun keeps => ?_⟩
    exact (stays_iff gives.listed.1).mp keeps other gives

/-- A kept duplicate is one that the entry goes in favour of. -/
theorem exists_heir (replaced : Replaced first second maxDistance (deduplicate first second maxDistance))
    (dropped : Flagged first second (deduplicate first second maxDistance) false entry) :
    ∃ heir, GivesWay id first second maxDistance entry heir ∧ Remains id first second maxDistance heir := by
  have listed := (flagged_iff.mp dropped).1
  cases entry with
  | inl a =>
      obtain ⟨b, kept, close, shorter⟩ := replaced.inSecond a dropped
      have remains := kept_iff.mp kept
      exact ⟨.inr b, .toSecond listed remains.listed close shorter, remains⟩
  | inr b =>
      obtain ⟨a, kept, close, shorter⟩ := replaced.inFirst b dropped
      have remains := kept_iff.mp kept
      refine ⟨.inl a, .toFirst remains.listed listed close (Nat.lt_of_not_le fun longer => ?_), remains⟩
      -- between equals the entry of the first list would have gone
      exact remains.last _ (.toSecond remains.listed listed close longer)

theorem succeeded_deduplicate (first second : List (Lifespan α)) (maxDistance : α) :
    Succeeded first second maxDistance (deduplicate first second maxDistance) where
  dropped_iff _ := dropped_iff
  survived := by
    intro entry dropped
    obtain ⟨other, gives⟩ := dropped_iff.mp dropped
    obtain ⟨survivor, chain, remains, longer⟩ := exists_survivor gives
    exact ⟨survivor, chain, kept_iff.mpr remains, longer⟩
  replaced_iff := by
    constructor
    · intro replaced entry other gives
      obtain ⟨heir, givesToo, remains⟩ := exists_heir replaced (dropped_iff.mpr ⟨other, gives⟩)
      exact ⟨heir, givesToo, remains.last⟩
    · intro ends
      constructor
      · intro a dropped
        obtain ⟨other, gives⟩ := dropped_iff.mp dropped
        obtain ⟨heir, gives, last⟩ := ends _ other gives
        cases gives with
        | toSecond _ inSecond close shorter =>
            exact ⟨_, kept_iff.mpr ⟨inSecond, last⟩, close, shorter⟩
      · intro b dropped
        obtain ⟨other, gives⟩ := dropped_iff.mp dropped
        obtain ⟨heir, gives, last⟩ := ends _ other gives
        cases gives with
        | toFirst inFirst _ close shorter =>
            exact ⟨_, kept_iff.mpr ⟨inFirst, last⟩, close, Nat.le_of_lt shorter⟩

end Flags

end Lifespan

/-! ## The tracks of a turn -/

namespace Turn

open TrackPools

/-- A track of a turn goes in favour of another one: those on the left are seen, those on the right are
waited for. -/
def GivesWay (turn : Turn α) : Track α ⊕ Track α → Track α ⊕ Track α → Prop :=
  Lifespan.GivesWay Tracker.lifespan turn.seen (turn.pools.waiting turn.frame turn.observations)
    turn.pools.settings.duplicateDistance

/-- The turn reports a track, as tracked or as lost. -/
def Reports (turn : Turn α) (track : Track α ⊕ Track α) : Prop :=
  Sum.elim (fun track => Tracker.reportOf track ∈ turn.report.tracked)
    (fun track => Tracker.reportOf track ∈ turn.report.lost) track

variable {turn : Turn α} {id : Nat}

theorem reports_of_remains {entry : Track α ⊕ Track α}
    (remains : Lifespan.Remains Tracker.lifespan turn.seen
      (turn.pools.waiting turn.frame turn.observations) turn.pools.settings.duplicateDistance entry) :
    turn.Reports entry := by
  have keeps := remains.stays
  cases entry with
  | inl track =>
      have inside : track ∈ turn.after.tracked := by
        unfold after
        rw [tracked_after]
        exact (perm_byId _).symm.subset (List.mem_filter.mpr ⟨remains.listed, keeps⟩)
      exact List.mem_map_of_mem inside
  | inr track =>
      have inside : track ∈ turn.after.lost := by
        unfold after
        rw [lost_after]
        exact (perm_byId _).symm.subset (List.mem_filter.mpr ⟨remains.listed, keeps⟩)
      exact List.mem_map_of_mem inside

/-- A number given up as that of a duplicate is the number of a track that goes. -/
theorem exists_gives_of_duplicate (duplicate : id ∈ turn.duplicates) :
    ∃ entry other, turn.GivesWay entry other ∧ Sum.elim Track.id Track.id entry = id := by
  have goes (entry : Track α ⊕ Track α)
      (listed : Sum.elim (· ∈ turn.seen)
        (· ∈ turn.pools.waiting turn.frame turn.observations) entry)
      (goes : (!Lifespan.stays Tracker.lifespan turn.seen
        (turn.pools.waiting turn.frame turn.observations)
          turn.pools.settings.duplicateDistance entry) = true) :
      ∃ other, turn.GivesWay entry other :=
    Lifespan.exists_of_not_stays listed ((Bool.not_eq_true' _).mp goes)
  unfold duplicates at duplicate
  rw [kept_eq] at duplicate
  dsimp only at duplicate
  rw [Tracker.separate_eq_filter, Tracker.separate_eq_filter] at duplicate
  rcases List.mem_append.mp duplicate with active | waiting
  · obtain ⟨track, member, rfl⟩ := List.mem_map.mp active
    obtain ⟨listed, flag⟩ := List.mem_filter.mp member
    obtain ⟨other, gives⟩ := goes (.inl track) listed flag
    exact ⟨.inl track, other, gives, rfl⟩
  · obtain ⟨track, member, rfl⟩ := List.mem_map.mp waiting
    obtain ⟨listed, flag⟩ := List.mem_filter.mp member
    obtain ⟨other, gives⟩ := goes (.inr track) listed flag
    exact ⟨.inr track, other, gives, rfl⟩

/-- A track that is given up as a duplicate leads, by close tracks of no shorter lives, to a reported one. -/
theorem exists_reported_of_duplicate (duplicate : id ∈ turn.duplicates) :
    ∃ entry survivor, Sum.elim Track.id Track.id entry = id ∧
      Relation.TransGen turn.GivesWay entry survivor ∧ turn.Reports survivor ∧
        Lifespan.lifetimeOf Tracker.lifespan entry ≤ Lifespan.lifetimeOf Tracker.lifespan survivor := by
  obtain ⟨entry, other, gives, number⟩ := exists_gives_of_duplicate duplicate
  obtain ⟨survivor, chain, remains, longer⟩ := Lifespan.exists_survivor gives
  exact ⟨entry, survivor, number, chain, reports_of_remains remains, longer⟩

end Turn

namespace Tracker

variable {σ : Type → Type} [Storage σ] [LawfulStorage σ]

/-- What a deduplication drops is succeeded by what it keeps, and in every turn of every run a track that is
given up as a duplicate is succeeded by a reported one. -/
theorem succeeded_of_run (className : String) (settings : TrackerSettings α)
    (inputs : List (Nat × List (Observation α))) :
    (∀ (first second : List (Lifespan α)) (maxDistance : α), Lifespan.Succeeded first second maxDistance
      (Lifespan.deduplicate first second maxDistance)) ∧
      ∃ last : Tracker α σ,
        (start className settings : Tracker α σ).run? inputs =
            some (last, ((TrackPools.start settings).turns inputs).map Turn.report) ∧
          ∀ turn ∈ (TrackPools.start settings).turns inputs, ∀ id ∈ turn.duplicates,
            ∃ entry survivor, Sum.elim Track.id Track.id entry = id ∧
              Relation.TransGen turn.GivesWay entry survivor ∧ turn.Reports survivor ∧
                Lifespan.lifetimeOf lifespan entry ≤ Lifespan.lifetimeOf lifespan survivor := by
  refine ⟨Lifespan.succeeded_deduplicate, ?_⟩
  obtain ⟨last, ran⟩ := (followed_start (σ := σ) className settings).run?_eq inputs
  exact ⟨last, ran, fun turn _ id duplicate => Turn.exists_reported_of_duplicate duplicate⟩

/-! ### Three boxes in a row -/

/-- The oldest of three boxes in a row, and the youngest, which is not close to it. -/
def outerBoxes : List (Lifespan Float32) := [⟨⟨0, 0, 10, 10⟩, 3⟩, ⟨⟨1, 0, 11, 10⟩, 1⟩]

/-- The box between them. -/
def middleBox : List (Lifespan Float32) := [⟨⟨.ofScientific 5 true 1, 0, .ofScientific 105 true 1, 10⟩, 2⟩]

/-- The largest distance of duplicates in the default configuration. -/
def defaultDistance : Float32 := (TrackerConfig.settings {} 10).duplicateDistance

/-- A confident detection a little to the right of the first one. -/
def besides : Observation Float32 := ⟨⟨14, 100, 54, 200⟩, .ofScientific 9 true 1⟩

/-- Only near detections continue a track, and far ones are still duplicates. -/
def narrow : TrackerSettings Float32 :=
  TrackerConfig.settings
    { matchThreshold := .ofScientific 12 true 2, duplicateDistance := .ofScientific 4 true 1 } 24

/-- The youngest of three boxes goes, although the middle one goes too, and a chain leads to the oldest one;
and a track that begins close to a lost one goes in its favour. -/
theorem succeeded_of_run_besides :
    (Lifespan.Flagged outerBoxes middleBox
        (Lifespan.deduplicate outerBoxes middleBox defaultDistance) false
          (.inl ⟨⟨1, 0, 11, 10⟩, 1⟩) ∧
      ∃ survivor, Relation.TransGen (Lifespan.GivesWay id outerBoxes middleBox defaultDistance)
          (.inl ⟨⟨1, 0, 11, 10⟩, 1⟩) survivor ∧
        Lifespan.Flagged outerBoxes middleBox
          (Lifespan.deduplicate outerBoxes middleBox defaultDistance) true survivor ∧
          1 ≤ Lifespan.lifetimeOf id survivor) ∧
      ∃ turn ∈ (TrackPools.start narrow).turns [(1, [seenOnce]), (2, [besides])],
        2 ∈ turn.duplicates ∧ ∃ entry survivor, Sum.elim Track.id Track.id entry = 2 ∧
          Relation.TransGen turn.GivesWay entry survivor ∧ turn.Reports survivor ∧
            Lifespan.lifetimeOf lifespan entry ≤ Lifespan.lifetimeOf lifespan survivor := by
  obtain ⟨succeeds, _, _, reported⟩ := succeeded_of_run (σ := Slots) "person" narrow
    [(1, [seenOnce]), (2, [besides])]
  have dropped : Lifespan.Flagged outerBoxes middleBox
      (Lifespan.deduplicate outerBoxes middleBox defaultDistance) false
        (.inl ⟨⟨1, 0, 11, 10⟩, 1⟩) :=
    ⟨1, rfl, by decide +kernel⟩
  let turn : Turn Float32 := ⟨(TrackPools.start narrow).after 1 [seenOnce], 2, [besides]⟩
  have later : turn ∈ (TrackPools.start narrow).turns [(1, [seenOnce]), (2, [besides])] :=
    List.mem_cons_of_mem _ (List.mem_singleton_self turn)
  have duplicate : 2 ∈ turn.duplicates := by decide +kernel
  exact ⟨⟨dropped, (succeeds _ _ _).survived _ dropped⟩, turn, later, duplicate,
    reported turn later 2 duplicate⟩

/-- The youngest of three boxes in a row goes in favour of the middle one only, which goes too: it has no
duplicate that is kept. -/
theorem youngest_not_replaced :
    ¬ Lifespan.Replaced outerBoxes middleBox defaultDistance
      (Lifespan.deduplicate outerBoxes middleBox defaultDistance) := by
  intro replaced
  have flags : Lifespan.deduplicate outerBoxes middleBox defaultDistance = ([true, false], [false]) := by
    decide +kernel
  rw [flags] at replaced
  obtain ⟨b, ⟨j, here, kept⟩, _⟩ := replaced.inSecond ⟨⟨1, 0, 11, 10⟩, 1⟩ ⟨1, rfl, rfl⟩
  cases j with
  | zero => exact absurd kept (by decide)
  | succ j => exact absurd kept (by simp)

end Tracker

end ObjectQuery
