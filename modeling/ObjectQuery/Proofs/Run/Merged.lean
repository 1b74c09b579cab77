import ObjectQuery.Proofs.Plan.Merge
import ObjectQuery.Proofs.Run.Outputs

/-!
# What a merged query leaves

A query that is narrowed down by another one leaves on each frame the objects that both leave when each is
run alone, in the same order (`Run.leaves_both_of_merge`). The three runs compute different properties, but
before its filter the merged query computes all that the other two do before theirs.
-/

namespace ObjectQuery

/-- What satisfies a conjunction satisfies both of its sides. -/
theorem Scene.satisfying_and (scene : Scene) (left right : Predicate) (frame : Frame) :
    scene.satisfying (.and left right) frame =
      (scene.satisfying left frame).filter fun position => position ∈ scene.satisfying right frame := by
  unfold Scene.satisfying
  rw [List.filter_filter]
  refine List.filter_congr fun position listed => ?_
  rw [Frame.satisfies_and, Bool.and_comm]
  congr 1
  simp [List.mem_filter, listed]

/-- A frame that shows what two others show, and on which those objects are left that are left on both. -/
structure Frame.LeavesBoth (className : String) (frame parent child : Frame) : Prop where
  showsParent : parent.ShowsSame className frame
  showsChild : child.ShowsSame className frame
  left : frame.left className =
    (parent.left className).filter fun position => position ∈ child.left className

/-- A run that delivers as many frames as two others, and leaves on each what both of these leave. -/
structure Run.LeavesBoth (className : String) (clock clockParent clockChild : Nat → Float)
    (merged parent child : Run) : Prop where
  lengthParent : (parent.deliveries clockParent).length = (merged.deliveries clock).length
  lengthChild : (child.deliveries clockChild).length = (merged.deliveries clock).length
  frames : ∀ (place : Nat) (delivery : Frame × Option FrameReport),
    (merged.deliveries clock)[place]? = some delivery →
      ∃ deliveryParent deliveryChild, (parent.deliveries clockParent)[place]? = some deliveryParent ∧
        (child.deliveries clockChild)[place]? = some deliveryChild ∧
          delivery.1.LeavesBoth className deliveryParent.1 deliveryChild.1

theorem exists_getElem?_of_forall₂ {β γ : Type} {R : β → γ → Prop} {firsts : List β}
    {seconds : List γ} (related : List.Forall₂ R firsts seconds) {place : Nat} {second : γ}
    (there : seconds[place]? = some second) :
    ∃ first, firsts[place]? = some first ∧ R first second := by
  obtain ⟨room, rfl⟩ := List.getElem?_eq_some_iff.mp there
  have short : place < firsts.length := by rwa [related.length_eq]
  exact ⟨firsts[place], List.getElem?_eq_getElem short, related.get short room⟩

namespace Plan.Compiled

variable {query other : Query} {plan plan' : Plan} {predicateNames outputNames : List String}
  {predicateNames' outputNames' : List String} {before after before' after' : List Property}
  {source : VideoSource} {detector : Detector} {detectorName : String} {tracker : TrackerConfig}
  {output : OutputConfig} {run run' : Run}

/-- Next to a run whose predicate reads no less, a query leaves the objects that satisfy its predicate on
the frames of that run. -/
theorem leaves_satisfying
    (compiled : Compiled query plan predicateNames outputNames before after)
    (compiled' : Compiled other plan' predicateNames' outputNames' before' after')
    (sameType : plan'.type = plan.type) (wellFormed : plan.type.WellFormed)
    (free : ∀ property ∈ plan.type.properties, Field.isFixed property.name = false)
    (ignores : ∀ property ∈ plan.type.properties, property.IgnoresSnapshot)
    (reads : query.constraint.references ⊆ other.constraint.references)
    (fits : (source.detectionCounts detector).sum < 2 ^ 64)
    (started : Run.start plan source detector detectorName tracker output = .ok run)
    (started' : Run.start plan' source detector detectorName tracker output = .ok run')
    (limit : Nat) (clock clock' : Nat → Float) :
    List.Forall₂ (fun delivery delivery' => delivery.1.ShowsSame plan.type.className delivery'.1 ∧
        delivery.1.left plan.type.className =
          (Scene.of source detector detectorName plan.type.className).satisfying query.constraint
            delivery'.1)
      ((run.withLimit limit).deliveries clock) ((run'.withLimit limit).deliveries clock') := by
  obtain ⟨pairs, mine, theirs, paired⟩ := compiled.exists_paired compiled' sameType wellFormed free
    fits started started' limit clock clock'
  have early := compiled.mem_before_of_subset compiled' sameType wellFormed.names free reads
  have frames := forall₂_of_pairs (R := fun frame frame' =>
    frame.ShowsSame plan.type.className frame' ∧ frame.left plan.type.className =
      (Scene.of source detector detectorName plan.type.className).satisfying query.constraint frame')
    mine theirs fun pair member => ⟨paired.showsSame member,
      compiled.left_eq_satisfying free ignores paired early member⟩
  rwa [related_map_iff] at frames

theorem leavesBoth
    {parent child : Query} {planParent planChild : Plan} {predicateNamesParent outputNamesParent
      predicateNamesChild outputNamesChild : List String} {beforeParent afterParent beforeChild
      afterChild : List Property}
    (compiled : Compiled (Query.merge parent child) plan predicateNames outputNames before after)
    (mine : Compiled parent planParent predicateNamesParent outputNamesParent beforeParent afterParent)
    (theirs : Compiled child planChild predicateNamesChild outputNamesChild beforeChild afterChild)
    (mineType : planParent.type = plan.type) (theirsType : planChild.type = plan.type)
    (wellFormed : plan.type.WellFormed)
    (free : ∀ property ∈ plan.type.properties, Field.isFixed property.name = false)
    (ignores : ∀ property ∈ plan.type.properties, property.IgnoresSnapshot)
    (fits : (source.detectionCounts detector).sum < 2 ^ 64) {runParent runChild : Run}
    (started : Run.start plan source detector detectorName tracker output = .ok run)
    (startedParent : Run.start planParent source detector detectorName tracker output = .ok runParent)
    (startedChild : Run.start planChild source detector detectorName tracker output = .ok runChild)
    (limit : Nat) (clock clockParent clockChild : Nat → Float) :
    Run.LeavesBoth plan.type.className clock clockParent clockChild (run.withLimit limit)
      (runParent.withLimit limit) (runChild.withLimit limit) := by
  have ofParent := mine.leaves_satisfying compiled mineType.symm (mineType ▸ wellFormed)
    (mineType ▸ free) (mineType ▸ ignores) (List.subset_append_left _ _) fits startedParent started
    limit clockParent clock
  have ofChild := theirs.leaves_satisfying compiled theirsType.symm (theirsType ▸ wellFormed)
    (theirsType ▸ free) (theirsType ▸ ignores) (List.subset_append_right _ _) fits startedChild started
    limit clockChild clock
  -- next to itself the merged run leaves what satisfies the conjunction
  have ofBoth := compiled.leaves_satisfying compiled rfl wellFormed free ignores (List.Subset.refl _)
    fits started started limit clock clock
  rw [mineType] at ofParent
  rw [theirsType] at ofChild
  refine ⟨ofParent.length_eq, ofChild.length_eq, fun place delivery here => ?_⟩
  obtain ⟨deliveryParent, hereParent, showsParent, leftParent⟩ :=
    exists_getElem?_of_forall₂ ofParent here
  obtain ⟨deliveryChild, hereChild, showsChild, leftChild⟩ :=
    exists_getElem?_of_forall₂ ofChild here
  obtain ⟨delivery', here', _, left⟩ := exists_getElem?_of_forall₂ ofBoth here
  obtain rfl := Option.some.inj (here'.symm.trans here)
  refine ⟨deliveryParent, deliveryChild, hereParent, hereChild, showsParent, showsChild, ?_⟩
  rw [leftParent, leftChild, ← Scene.satisfying_and]
  exact left

end Plan.Compiled

/-- Two queries on one type that are compiled are compiled together, and the merged query leaves on each
frame what both leave when each is run alone. -/
theorem Run.leaves_both_of_merge
    {parent child : Query} {planParent planChild : Plan}
    (compiledParent : Plan.compile parent = .ok planParent)
    (compiledChild : Plan.compile child = .ok planChild) (sameType : planChild.type = planParent.type)
    (wellFormed : planParent.type.WellFormed)
    (free : ∀ property ∈ planParent.type.properties, Field.isFixed property.name = false)
    (ignores : ∀ property ∈ planParent.type.properties, property.IgnoresSnapshot) :
    ∃ plan, Plan.compile (Query.merge parent child) = .ok plan ∧ plan.type = planParent.type ∧
      ∀ (source : VideoSource) (detector : Detector) (detectorName : String)
        (tracker : TrackerConfig) (output : OutputConfig) (runParent : Run),
        (source.detectionCounts detector).sum < 2 ^ 64 →
          Run.start planParent source detector detectorName tracker output = .ok runParent →
            ∃ run runChild,
              Run.start plan source detector detectorName tracker output = .ok run ∧
                Run.start planChild source detector detectorName tracker output = .ok runChild ∧
                  ∀ limit clock clockParent clockChild,
                    Run.LeavesBoth plan.type.className clock clockParent clockChild
                      (run.withLimit limit) (runParent.withLimit limit)
                      (runChild.withLimit limit) := by
  obtain ⟨_, _, compiled⟩ := Plan.compile_merge wellFormed.names free compiledParent compiledChild rfl
    sameType
  obtain ⟨_, _, _, _, mine⟩ := Plan.compile_eq_ok compiledParent wellFormed
  obtain ⟨_, _, _, _, theirs⟩ := Plan.compile_eq_ok compiledChild (sameType ▸ wellFormed)
  obtain ⟨_, _, _, _, merged⟩ := Plan.compile_eq_ok compiled wellFormed
  refine ⟨_, compiled, rfl, fun source detector detectorName tracker output runParent fits
    started => ?_⟩
  obtain ⟨run, startedMerged⟩ := merged.exists_start (by rfl) started
  obtain ⟨runChild, startedChild⟩ := theirs.exists_start (by rw [sameType]) started
  exact ⟨run, runChild, startedMerged, startedChild, merged.leavesBoth mine theirs rfl sameType
    wellFormed free ignores fits startedMerged started startedChild⟩

namespace Passersby

/-- Those who are detected with more than a score, and whether they walk. -/
def surely (score : Float) : Query where
  name := "surely"
  constraint := .greater (.property ⟨walker, Field.score⟩) (.literal (.float score))
  output := [⟨walker, "walks"⟩]

def surelyPlan (score : Float) : Plan where
  queryName := "surely"
  type := walker
  stages :=
    [.classFilter "person" 0, .predicateFilter (surely score).constraint "person" 0,
      Plan.projection walker moved, Plan.projection walker walks,
      .report ⟨"Person", "person", 0, ["walks"]⟩]

theorem compile_surely (score : Float) :
    Plan.compile (surely score) = .ok (surelyPlan score) := by
  cbv

end Passersby

open Passersby in
/-- Somebody who is seen on both frames, and detected surely on the second one. -/
theorem Run.leaves_both_of_merge_walkers :
    ∃ plan run runParent runChild,
      Plan.compile (Query.merge (reporting ["moved"]) (surely 0.85)) = .ok plan ∧
        Run.start plan video detector "table" {} {} = .ok run ∧
          Run.start (reportingPlan [moved] ["moved"]) video detector "table" {} {} = .ok runParent ∧
            Run.start (surelyPlan 0.85) video detector "table" {} {} = .ok runChild ∧
              told "walks" runChild = [(2, [none])] ∧
                Run.LeavesBoth plan.type.className (fun _ => 0) (fun _ => 0) (fun _ => 0)
                  (run.withLimit 0) (runParent.withLimit 0) (runChild.withLimit 0) := by
  have compiled : Plan.compile (reporting ["moved"]) = .ok (reportingPlan [moved] ["moved"]) := by cbv
  have fits : (video.detectionCounts detector).sum < 2 ^ 64 := by decide +kernel
  obtain ⟨plan, merged, _, runs⟩ := Run.leaves_both_of_merge compiled
    (compile_surely 0.85) rfl ⟨by decide, by decide⟩ (by decide) ignores_walker
  obtain ⟨run, runChild, started, startedChild, leaves⟩ :=
    runs video detector "table" {} {} _ fits rfl
  refine ⟨plan, run, _, runChild, merged, started, rfl, startedChild, ?_, leaves 0 _ _ _⟩
  obtain rfl := Except.ok.inj startedChild
  decide +kernel

end ObjectQuery
