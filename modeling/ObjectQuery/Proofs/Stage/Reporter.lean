import Mathlib.Data.List.Forall2
import Mathlib.Data.List.Induction
import ObjectQuery.Proofs.Stage.Chain
import ObjectQuery.Stage.Reporter

/-!
# What is reported

A report lists the objects that are left in the order of their places, and of each of them the fields that
are asked for, as far as there is something valid to tell.
-/

namespace ObjectQuery

theorem Keyed.find?_putSorted {κ β : Type} [DecidableEq κ] [LT κ] [DecidableLT κ]
    (entries : Keyed κ β) (key wanted : κ) (value : β) :
    (entries.putSorted key value).find? wanted =
      if key = wanted then some value else entries.find? wanted := by
  induction entries with
  | nil => rfl
  | cons entry rest inductionHypothesis =>
      obtain ⟨present, old⟩ := entry
      unfold Keyed.putSorted
      split
      · rename_i same
        subst same
        by_cases here : present = wanted <;> simp [Keyed.find?, here]
      · rename_i different
        split
        · rfl
        · unfold Keyed.find?
          rw [inductionHypothesis]
          by_cases here : present = wanted
          · subst here
            rw [if_pos rfl, if_pos rfl, if_neg (Ne.symm different)]
          · rw [if_neg here, if_neg here]

/-! ## The items in some places -/

section Places

variable {β γ : Type}

theorem filterMap_range_getElem? (items : List β) :
    ((List.range items.length).filterMap fun position => items[position]?) = items := by
  induction items using List.reverseRecOn with
  | nil => rfl
  | append_singleton items item inductionHypothesis =>
      have earlier : ∀ position ∈ List.range items.length,
          (items ++ [item])[position]? = items[position]? := fun position member =>
        List.getElem?_append_left (List.mem_range.mp member)
      rw [List.length_append, List.length_singleton, List.range_succ, List.filterMap_append,
        List.filterMap_congr earlier, inductionHypothesis]
      simp

theorem forall₂_places
    {items : List β} {positions : List Nat} {tell : β → γ} {R : Nat → γ → Prop}
    (related : ∀ position ∈ positions, ∃ item, items[position]? = some item ∧
      R position (tell item)) :
    List.Forall₂ R positions ((positions.filterMap fun position => items[position]?).map tell) := by
  induction positions with
  | nil => exact List.Forall₂.nil
  | cons position rest inductionHypothesis =>
      obtain ⟨item, here, holds⟩ := related position List.mem_cons_self
      rw [List.filterMap_cons, here, List.map_cons]
      exact List.Forall₂.cons holds (inductionHypothesis fun other member =>
        related other (List.mem_cons_of_mem position member))

end Places

namespace Reporter

/-- What is reported under a name is told from what is written under it. -/
theorem field?_eq
    {className : String} {names : List String} {frame frame' : Frame}
    (extended : Frame.Extends className names frame frame') {record record' : ObjectRecord}
    {name : String} (same : record'.get? name = record.get? name) :
    field? frame' record' name = field? frame record name := by
  unfold field?
  rw [same, extended.framed]
  rfl

/-- The report on an object with one more field, if there is something to tell. -/
def addField (frame : Frame) (record : ObjectRecord) (told : ObjectReport) (name : String) :
    ObjectReport :=
  (field? frame record name).elim told fun value => told.putSorted name value.toJson

theorem objectReport_eq_foldl (reporter : Reporter) (frame : Frame) (record : ObjectRecord) :
    reporter.objectReport frame record =
      reporter.spec.fields.foldl (addField frame record) [] := by
  unfold objectReport
  congr 1
  funext told name
  unfold addField
  cases field? frame record name <;> rfl

/-- The report on an object tells the fields that are asked for and there. -/
theorem find?_objectReport (reporter : Reporter) (frame : Frame) (record : ObjectRecord)
    (name : String) :
    (reporter.objectReport frame record).find? name =
      if name ∈ reporter.spec.fields then (field? frame record name).map Value.toJson else none := by
  have folded : ∀ (fields : List String) (told : ObjectReport),
      Keyed.find? (fields.foldl (addField frame record) told) name =
        ((if name ∈ fields then (field? frame record name).map Value.toJson else none) <|>
          told.find? name) := by
    intro fields
    induction fields with
    | nil => exact fun _ => rfl
    | cons field rest inductionHypothesis =>
        intro told
        rw [List.foldl_cons, inductionHypothesis]
        unfold addField
        by_cases here : name = field
        · subst here
          cases known : field? frame record name with
          | none => simp
          | some value => by_cases again : name ∈ rest <;> simp [again, Keyed.find?_putSorted]
        · cases known : field? frame record field with
          | none => simp [here]
          | some value => simp [here, Keyed.find?_putSorted, Ne.symm here]
  have whole := folded reporter.spec.fields []
  rw [Keyed.find?_nil, Option.orElse_eq_orElse, Option.orElse_eq_or, Option.or_none] at whole
  rw [objectReport_eq_foldl]
  exact whole

theorem isSome_apply (reporter : Reporter) (frame : Frame) :
    (reporter.apply frame).2.isSome =
      !((frame.passing reporter.spec.index reporter.spec.className).isEmpty &&
        reporter.config.mode == .matchesOnly) := by
  unfold apply
  simp only
  split
  · rename_i skipped
    rw [skipped]
    rfl
  · rename_i reported
    rw [eq_false_of_ne_true reported]
    rfl

/-- A report tells of the objects that are left. -/
theorem apply_eq_some
    {reporter : Reporter} {frame : Frame} {report : FrameReport}
    (reported : (reporter.apply frame).2 = some report) :
    report.frameId = frame.id ∧
      report.objects = [(reporter.spec.typeName,
        (frame.passing reporter.spec.index reporter.spec.className).map
          (reporter.objectReport frame))] := by
  unfold apply at reported
  simp only at reported
  split at reported
  · exact absurd reported (by simp)
  · obtain rfl := Option.some.inj reported
    exact ⟨rfl, rfl⟩

end Reporter

end ObjectQuery
