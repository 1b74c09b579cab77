import Mathlib.Data.List.Forall2

/-!
# Related lists

Lists whose members are related in pairs stay related where they are filtered, numbered or sorted by what
related members have in common.
-/

namespace ObjectQuery

variable {β γ δ ε : Type} {R : β → γ → Prop} {items : List β} {others : List γ}

theorem related_map_iff {Q : δ → ε → Prop} {f : β → δ} {g : γ → ε} :
    List.Forall₂ Q (items.map f) (others.map g) ↔
      List.Forall₂ (fun item other => Q (f item) (g other)) items others := by
  rw [List.forall₂_map_left_iff, List.forall₂_map_right_iff]

theorem exists_pairs (lengths : items.length = others.length) :
    ∃ pairs : List (β × γ), pairs.map Prod.fst = items ∧ pairs.map Prod.snd = others :=
  ⟨items.zip others, List.map_fst_zip (Nat.le_of_eq lengths),
    List.map_snd_zip (Nat.le_of_eq lengths.symm)⟩

theorem forall₂_of_pairs {pairs : List (β × γ)} (mine : pairs.map Prod.fst = items)
    (theirs : pairs.map Prod.snd = others) (related : ∀ pair ∈ pairs, R pair.1 pair.2) :
    List.Forall₂ R items others := by
  rw [← mine, ← theirs, related_map_iff]
  exact List.forall₂_same.mpr related

theorem map_eq_of_related {f : β → δ} {g : γ → δ} (related : List.Forall₂ R items others)
    (same : ∀ item other, R item other → f item = g other) : items.map f = others.map g := by
  rw [← List.forall₂_eq_eq_eq, related_map_iff]
  exact related.imp same

theorem related_filter {p : β → Bool} {q : γ → Bool} (related : List.Forall₂ R items others)
    (same : ∀ item other, R item other → p item = q other) :
    List.Forall₂ R (items.filter p) (others.filter q) :=
  List.rel_filter (fun item other link => iff_of_eq (congrArg (· = true) (same item other link))) related

theorem related_zipIdx (related : List.Forall₂ R items others) (first : Nat) :
    List.Forall₂ (fun entry entry' => R entry.1 entry'.1 ∧ entry.2 = entry'.2)
      (items.zipIdx first) (others.zipIdx first) := by
  induction related generalizing first with
  | nil => exact .nil
  | cons link _ inductionHypothesis => exact .cons ⟨link, rfl⟩ (inductionHypothesis (first + 1))

/-- Related lists are sorted in the same way by a number that related members have in common. -/
theorem related_mergeSort {f : β → Nat} {g : γ → Nat} (related : List.Forall₂ R items others)
    (same : ∀ item other, R item other → f item = g other) :
    List.Forall₂ R (items.mergeSort fun a b => decide (f a ≤ f b))
      (others.mergeSort fun a b => decide (g a ≤ g b)) := by
  obtain ⟨pairs, rfl, rfl⟩ := exists_pairs related.length_eq
  rw [related_map_iff, List.forall₂_same] at related
  -- the pairs are sorted once, by what both sides of them have in common
  have left := List.map_mergeSort (r := fun a b : β × γ => decide (f a.1 ≤ f b.1))
    (s := fun a b => decide (f a ≤ f b)) (f := Prod.fst) (l := pairs) fun _ _ _ _ => rfl
  have right := List.map_mergeSort (r := fun a b : β × γ => decide (f a.1 ≤ f b.1))
    (s := fun a b => decide (g a ≤ g b)) (f := Prod.snd) (l := pairs) fun a member b other => by
      rw [same _ _ (related a member), same _ _ (related b other)]
  exact forall₂_of_pairs left right fun pair member => related pair (List.mem_mergeSort.mp member)

end ObjectQuery
