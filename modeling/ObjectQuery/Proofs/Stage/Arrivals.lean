import ObjectQuery.Proofs.Stage.Chain
import ObjectQuery.Proofs.Stage.Visits

/-!
# The way of a frame

`Pipeline.arrivals` lists the stages of a pipeline that the next frame comes to, each with the frame as it
is when it gets there. Of projectors in a row, each finds the frame with what those before it have written,
and the later ones do not touch that.
-/

namespace ObjectQuery

namespace Stage

/-- The stages that a frame comes to, each with the frame as it finds it. -/
def arriving : (place : Nat) → List Stage → Frame → List (Stage × Frame)
  | _, [], _ => []
  | place, stage :: rest, frame =>
    (stage, frame) ::
      match (stage.apply place frame).frame with
      | .ok next => arriving (place + 1) rest next
      | .error _ => []

theorem arriving_cons
    {stage : Stage} {rest : List Stage} {place : Nat} {frame next : Frame}
    (applied : (stage.apply place frame).frame = .ok next) :
    arriving place (stage :: rest) frame = (stage, frame) :: arriving (place + 1) rest next := by
  rw [arriving, applied]

theorem frame_applyAll_cons
    {stage : Stage} {rest : List Stage} {place : Nat} {frame next : Frame}
    (applied : (stage.apply place frame).frame = .ok next) :
    (applyAll place (stage :: rest) frame).frame = (applyAll (place + 1) rest next).frame := by
  rw [applyAll]
  simp only [applied]

theorem state_applyAll_cons
    {stage : Stage} {rest : List Stage} {place : Nat} {frame next : Frame}
    (applied : (stage.apply place frame).frame = .ok next) :
    (applyAll place (stage :: rest) frame).state =
      (stage.apply place frame).state :: (applyAll (place + 1) rest next).state := by
  rw [applyAll]
  simp only [applied]

/-- What comes through stages has come through the first and then through the others. -/
theorem exists_applied
    {stage : Stage} {rest : List Stage} {place : Nat} {frame final : Frame}
    (through : (applyAll place (stage :: rest) frame).frame = .ok final) :
    ∃ next, (stage.apply place frame).frame = .ok next ∧
      (applyAll (place + 1) rest next).frame = .ok final := by
  cases applied : (stage.apply place frame).frame with
  | error error =>
      rw [applyAll] at through
      simp only [applied] at through
      exact absurd through (by simp)
  | ok next => exact ⟨next, rfl, (frame_applyAll_cons applied).symm.trans through⟩

theorem mem_of_arriving
    {stages : List Stage} {place : Nat} {frame : Frame} {entry : Stage × Frame}
    (member : entry ∈ arriving place stages frame) :
    entry.1 ∈ stages := by
  induction stages generalizing place frame with
  | nil => exact absurd member List.not_mem_nil
  | cons stage rest inductionHypothesis =>
      cases applied : (stage.apply place frame).frame with
      | error error =>
          rw [arriving, applied] at member
          rw [List.mem_singleton.mp member]
          exact List.mem_cons_self
      | ok next =>
          rw [arriving_cons applied] at member
          rcases List.mem_cons.mp member with rfl | later
          · exact List.mem_cons_self
          · exact List.mem_cons_of_mem stage (inductionHypothesis later)

theorem map_fst_arriving
    {stages : List Stage} {place : Nat} {frame final : Frame}
    (through : (applyAll place stages frame).frame = .ok final) :
    (arriving place stages frame).map Prod.fst = stages := by
  induction stages generalizing place frame with
  | nil => rfl
  | cons stage rest inductionHypothesis =>
      obtain ⟨next, applied, later⟩ := exists_applied through
      rw [arriving_cons applied, List.map_cons, inductionHypothesis later]

/-- Stages that a frame comes through are followed by the others. -/
theorem arriving_append
    {front back : List Stage} {place : Nat} {frame middle : Frame}
    (through : (applyAll place front frame).frame = .ok middle) :
    arriving place (front ++ back) frame =
      arriving place front frame ++ arriving (place + front.length) back middle := by
  induction front generalizing place frame with
  | nil =>
      obtain rfl := Except.ok.inj through
      rfl
  | cons stage rest inductionHypothesis =>
      obtain ⟨next, applied, later⟩ := exists_applied through
      rw [List.cons_append, arriving_cons applied, arriving_cons applied,
        inductionHypothesis later, List.length_cons, Nat.add_assoc, Nat.add_comm 1]
      rfl

theorem frame_applyAll_append
    {front back : List Stage} {place : Nat} {frame middle : Frame}
    (through : (applyAll place front frame).frame = .ok middle) :
    (applyAll place (front ++ back) frame).frame =
      (applyAll (place + front.length) back middle).frame := by
  induction front generalizing place frame with
  | nil =>
      obtain rfl := Except.ok.inj through
      rfl
  | cons stage rest inductionHypothesis =>
      obtain ⟨next, applied, later⟩ := exists_applied through
      rw [List.cons_append, frame_applyAll_cons applied, inductionHypothesis later,
        List.length_cons, Nat.add_assoc, Nat.add_comm 1]

/-- Projectors in a row let a frame through. -/
theorem exists_frame_applyAll_projectors
    {className : String} {index : Nat} {positions : List Nat} {projectors : List Projector}
    {frame : Frame} (appliable : Appliable className index positions projectors frame)
    (place : Nat) :
    ∃ written, (applyAll place (projectors.map Stage.project) frame).frame = .ok written ∧
      written = { frame with records := written.records } ∧
        Frame.Extends className (namesOf projectors) frame written := by
  obtain ⟨afters, written, all, framed, extended, _⟩ := applyAll_projectors appliable place
  obtain ⟨calls, allEq⟩ := all []
  rw [List.append_nil] at allEq
  refine ⟨written, ?_, framed, extended⟩
  rw [allEq]
  rfl

/-- One of some projectors in a row, with the frame that it finds: only this one and those after it have
yet to write their properties. -/
def FindsAmong (className : String) (projectors : List Projector) (written : Frame)
    (projector : Projector) (seen : Frame) : Prop :=
  ∃ front back, projectors = front ++ projector :: back ∧
    Frame.Extends className (namesOf (projector :: back)) seen written

theorem finds_of_arriving
    {className : String} {index : Nat} {positions : List Nat} {projectors : List Projector}
    {frame written : Frame} (appliable : Appliable className index positions projectors frame)
    {place : Nat}
    (through : (applyAll place (projectors.map Stage.project) frame).frame = .ok written)
    {entry : Stage × Frame} (member : entry ∈ arriving place (projectors.map Stage.project) frame) :
    ∃ projector seen, entry = (.project projector, seen) ∧
      FindsAmong className projectors written projector seen := by
  -- along the projectors: the first finds the frame itself, the others what it has written
  induction projectors generalizing frame place with
  | nil => exact absurd member List.not_mem_nil
  | cons projector rest inductionHypothesis =>
      obtain ⟨final, finalEq, _, extended⟩ := exists_frame_applyAll_projectors appliable place
      obtain rfl := Except.ok.inj (finalEq.symm.trans through)
      obtain ⟨rfl, rfl⟩ := appliable.placed projector List.mem_cons_self
      obtain ⟨projection, applyEq, applied⟩ := Projector.apply_eq appliable.listedOnce
        appliable.distinct (appliable.once projector List.mem_cons_self) appliable.found
      have here : ((Stage.project projector).apply place frame).frame = .ok projection.frame := by
        simp only [Stage.apply, applyEq]
      rw [List.map_cons, arriving_cons here] at member
      rcases List.mem_cons.mp member with rfl | later
      · exact ⟨projector, frame, rfl, [], rest, rfl, extended⟩
      · rw [List.map_cons, frame_applyAll_cons here] at through
        obtain ⟨other, seen, same, front, back, split, between⟩ :=
          inductionHypothesis (appliable.tail applied) through later
        exact ⟨other, seen, same, projector :: front, back, by rw [split, List.cons_append], between⟩

/-! ## The projector for a name -/

/-- The projector of a stage, if it computes the property of a name. -/
def projectorFor? (name : String) : Stage → Option Projector
  | .project projector => if projector.property.name = name then some projector else none
  | _ => none

/-- The projector for a name with the frame that it finds. -/
def finderFor? (name : String) (entry : Stage × Frame) : Option (Projector × Frame) :=
  (entry.1.projectorFor? name).map fun projector => (projector, entry.2)

theorem state_apply_project (projector : Projector) (place : Nat) (frame : Frame) :
    ((Stage.project projector).apply place frame).state = .project (projector.next frame) := by
  cases applied : projector.apply frame <;> simp [apply, Projector.next, applied]

theorem projectorFor?_apply (stage : Stage) (place : Nat) (frame : Frame) (name : String) :
    (stage.apply place frame).state.projectorFor? name =
      (finderFor? name (stage, frame)).map fun found => found.1.next found.2 := by
  cases stage with
  | project projector =>
      have property := congrArg Projector.property (projector.kept_next frame)
      rw [state_apply_project]
      by_cases same : projector.property.name = name <;>
        simp [finderFor?, projectorFor?, property, same]
  | detect detection => rfl
  | track trackers => rfl
  | selectClass className index => rfl
  | keep predicate className index => rfl

/-- After a frame that comes through, the projector for a name is the one that has found it. -/
theorem findSome?_state {stages : List Stage} {place : Nat} {frame final : Frame}
    (through : (applyAll place stages frame).frame = .ok final) (name : String) :
    (applyAll place stages frame).state.findSome? (projectorFor? name) =
      ((arriving place stages frame).findSome? (finderFor? name)).map fun found =>
        found.1.next found.2 := by
  induction stages generalizing place frame with
  | nil => rfl
  | cons stage rest inductionHypothesis =>
      obtain ⟨next, applied, later⟩ := exists_applied through
      rw [state_applyAll_cons applied, arriving_cons applied, List.findSome?_cons, List.findSome?_cons,
        projectorFor?_apply, inductionHypothesis later]
      cases finderFor? name (stage, frame) <;> rfl

/-- One of some projectors in a row, with the frame as it finds it, and what it leaves for the others to
write on. -/
structure FindsIn (className : String) (projectors : List Projector) (frame written : Frame)
    (projector : Projector) (seen : Frame) : Prop where
  member : projector ∈ projectors
  framed : seen = { frame with records := seen.records }
  early : ∃ names ⊆ namesOf projectors, Frame.Extends className names frame seen
  late : ∃ projection names, projector.apply seen = .ok projection ∧
    projector.property.name ∉ names ∧ names ⊆ namesOf projectors ∧
      Frame.Extends className names projection.frame written

theorem exists_findsIn
    {className : String} {index : Nat} {positions : List Nat} {projectors : List Projector}
    {frame written : Frame} (appliable : Appliable className index positions projectors frame)
    {place : Nat}
    (through : (applyAll place (projectors.map Stage.project) frame).frame = .ok written)
    {name : String} (member : name ∈ namesOf projectors) :
    ∃ projector seen,
      (arriving place (projectors.map Stage.project) frame).findSome? (finderFor? name) =
          some (projector, seen) ∧
        projector.property.name = name ∧
          FindsIn className projectors frame written projector seen := by
  -- along the projectors up to the one for the name
  induction projectors generalizing frame place with
  | nil => exact absurd member List.not_mem_nil
  | cons projector rest inductionHypothesis =>
      obtain ⟨rfl, rfl⟩ := appliable.placed projector List.mem_cons_self
      obtain ⟨projection, applyEq, applied⟩ := Projector.apply_eq appliable.listedOnce
        appliable.distinct (appliable.once projector List.mem_cons_self) appliable.found
      have here : ((Stage.project projector).apply place frame).frame = .ok projection.frame := by
        simp only [Stage.apply, applyEq]
      have tail := appliable.tail applied
      rw [List.map_cons, frame_applyAll_cons here] at through
      rw [List.map_cons, arriving_cons here, List.findSome?_cons]
      have narrower : namesOf rest ⊆ namesOf (projector :: rest) := List.subset_cons_self ..
      by_cases same : projector.property.name = name
      · have own : finderFor? name (Stage.project projector, frame) = some (projector, frame) := by
          simp [finderFor?, projectorFor?, same]
        obtain ⟨final, finalEq, _, extended⟩ := exists_frame_applyAll_projectors tail (place + 1)
        obtain rfl := Except.ok.inj (finalEq.symm.trans through)
        have absent : projector.property.name ∉ namesOf rest := by
          intro again
          obtain ⟨other, listed, named⟩ := List.mem_map.mp again
          exact ((List.pairwise_cons.mp appliable.ordered).1 other.property
            (List.mem_map_of_mem listed)).1 named.symm
        rw [own]
        exact ⟨projector, frame, rfl, same, List.mem_cons_self, rfl,
          ⟨[], List.nil_subset _, .refl frame⟩, projection, namesOf rest, applyEq, absent, narrower,
          extended⟩
      · have skipped : finderFor? name (Stage.project projector, frame) = none := by
          simp [finderFor?, projectorFor?, same]
        have later : name ∈ namesOf rest :=
          (List.mem_cons.mp member).resolve_left fun own => same own.symm
        obtain ⟨other, seen, found, named, finds⟩ := inductionHypothesis tail through later
        obtain ⟨names, inside, extended⟩ := finds.early
        obtain ⟨last, after, lastEq, apart, insideAfter, extendedAfter⟩ := finds.late
        rw [skipped]
        refine ⟨other, seen, found, named, List.mem_cons_of_mem projector finds.member, ?_,
          ⟨projector.property.name :: names, ?_, ?_⟩, last, after, lastEq, apart,
          List.Subset.trans insideAfter narrower, extendedAfter⟩
        · rw [finds.framed, applied.framed]
        · exact List.cons_subset_cons _ inside
        · exact (Projector.extends_of_applied applied).trans extended

end Stage

/-- The stages that the next frame comes to, each with the frame as it finds it. -/
def Pipeline.arrivals (pipeline : Pipeline) : List (Stage × Frame) :=
  match pipeline.playback.pull.2 with
  | .ok frame => Stage.arriving 0 pipeline.stages frame
  | .error _ => []

/-- A frame that is delivered has been at every stage. -/
theorem Pipeline.map_fst_arrivals
    {pipeline : Pipeline} {final : Frame} (pulled : pipeline.pull.frame = .ok final) :
    pipeline.arrivals.map Prod.fst = pipeline.stages := by
  unfold pull at pulled
  unfold arrivals
  cases delivered : pipeline.playback.pull.2 with
  | error error =>
      simp only [delivered] at pulled
      exact absurd pulled (by simp)
  | ok frame =>
      simp only [delivered] at pulled
      exact Stage.map_fst_arriving pulled

namespace Pipeline

/-- The projector for a name. -/
def projector? (pipeline : Pipeline) (name : String) : Option Projector :=
  pipeline.stages.findSome? (Stage.projectorFor? name)

/-- The projector for a name with the next frame as it finds it. -/
def found? (pipeline : Pipeline) (name : String) : Option (Projector × Frame) :=
  pipeline.arrivals.findSome? (Stage.finderFor? name)

variable {pipeline : Pipeline} {final : Frame}

theorem projector?_eq (pulled : pipeline.pull.frame = .ok final) (name : String) :
    pipeline.projector? name = (pipeline.found? name).map Prod.fst := by
  unfold projector? found?
  rw [← map_fst_arrivals pulled, List.findSome?_map, List.map_findSome?]
  congr 1
  funext entry
  unfold Stage.finderFor?
  rw [Function.comp_apply, Function.comp_apply, Option.map_map]
  exact (Option.map_id' ..).symm

/-- After a frame the projector for a name is the one that has found it. -/
theorem projector?_pull (pulled : pipeline.pull.frame = .ok final) (name : String) :
    pipeline.pull.state.projector? name =
      (pipeline.found? name).map fun found => found.1.next found.2 := by
  unfold pull at pulled ⊢
  unfold projector? found? arrivals
  cases delivered : pipeline.playback.pull.2 with
  | error error =>
      simp only [delivered] at pulled
      exact absurd pulled (by simp)
  | ok frame =>
      simp only [delivered] at pulled ⊢
      exact Stage.findSome?_state pulled name

end Pipeline

end ObjectQuery
