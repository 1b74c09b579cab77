import ObjectQuery.Json.Basic
import ObjectQuery.Value.Text

/-!
# Names in their order

In a value whose objects all have their members in the order of the names, each name once, there is
nothing to put in order (`Json.sorted_of_ordered`). Property values are written like that
(`Value.ordered_toJson`), and so is whatever is put together by `Keyed.putSorted`.
-/

namespace ObjectQuery

namespace Keyed

variable {β : Type} {entries : Keyed String β} {key : String} {value : β}

/-- The keys ascend. -/
def Ascending (entries : Keyed String β) : Prop := entries.keys.Pairwise (· < ·)

theorem Ascending.nodup (ascending : entries.Ascending) : entries.keys.Nodup := by
  refine List.Pairwise.imp ?_ ascending
  rintro name _ before rfl
  exact String.lt_irrefl name before

theorem mem_putSorted {entry : String × β} (member : entry ∈ entries.putSorted key value) :
    entry = (key, value) ∨ entry ∈ entries := by
  induction entries with
  | nil => exact Or.inl (List.mem_singleton.mp member)
  | cons head rest inductionHypothesis =>
      obtain ⟨present, old⟩ := head
      unfold putSorted at member
      split at member
      · exact (List.mem_cons.mp member).imp_right (List.mem_cons_of_mem _)
      · split at member
        · exact List.mem_cons.mp member
        · rcases List.mem_cons.mp member with here | later
          · exact Or.inr (here ▸ List.mem_cons_self)
          · exact (inductionHypothesis later).imp_right (List.mem_cons_of_mem _)

/-- Writing in the place of a key keeps the keys ascending. -/
theorem Ascending.putSorted (ascending : entries.Ascending) (key : String) (value : β) :
    (entries.putSorted key value).Ascending := by
  induction entries with
  | nil => exact List.pairwise_singleton _ _
  | cons head rest inductionHypothesis =>
      obtain ⟨present, old⟩ := head
      obtain ⟨ahead, later⟩ := List.pairwise_cons.mp ascending
      unfold Keyed.putSorted
      split
      · rename_i same
        exact same ▸ ascending
      · rename_i different
        split
        · rename_i sooner
          refine List.pairwise_cons.mpr ⟨fun other member => ?_, ascending⟩
          rcases List.mem_cons.mp member with rfl | member
          · exact sooner
          · exact String.lt_trans sooner (ahead other member)
        · rename_i notSooner
          have after : present < key := Decidable.byContradiction fun notAfter =>
            different (String.le_antisymm (String.not_lt.mp notSooner) (String.not_lt.mp notAfter))
          refine List.pairwise_cons.mpr ⟨fun other member => ?_, inductionHypothesis later⟩
          obtain ⟨entry, listed, rfl⟩ := List.mem_map.mp member
          rcases mem_putSorted listed with rfl | listed
          · exact after
          · exact ahead _ (List.mem_map_of_mem listed)

/-- A key behind all others is written at the end. -/
theorem putSorted_of_last (last : ∀ name ∈ entries.keys, name < key) :
    entries.putSorted key value = entries ++ [(key, value)] := by
  induction entries with
  | nil => rfl
  | cons head rest inductionHypothesis =>
      obtain ⟨present, old⟩ := head
      have before : present < key := last present List.mem_cons_self
      unfold putSorted
      rw [if_neg (fun same : present = key => String.lt_irrefl key (same ▸ before)),
        if_neg (String.lt_asymm before),
        inductionHypothesis fun name member => last name (List.mem_cons_of_mem _ member)]
      rfl

end Keyed

namespace Json

mutual

/-- Every object has its members in the order of their names, each name once. -/
def Ordered : Json → Prop
  | .array items => OrderedItems items
  | .object members => Keyed.Ascending members ∧ OrderedMembers members
  | _ => True

def OrderedItems : List Json → Prop
  | [] => True
  | item :: rest => item.Ordered ∧ OrderedItems rest

def OrderedMembers : List (String × Json) → Prop
  | [] => True
  | (_, value) :: rest => value.Ordered ∧ OrderedMembers rest

end

theorem orderedItems_iff {items : List Json} :
    OrderedItems items ↔ ∀ item ∈ items, item.Ordered := by
  induction items with
  | nil => simp [OrderedItems]
  | cons item rest inductionHypothesis => simp [OrderedItems, inductionHypothesis]

theorem orderedMembers_iff {members : List (String × Json)} :
    OrderedMembers members ↔ ∀ member ∈ members, member.2.Ordered := by
  induction members with
  | nil => simp [OrderedMembers]
  | cons member rest inductionHypothesis => simp [OrderedMembers, inductionHypothesis]

mutual

/-- What is in order is not put in another one. -/
theorem sorted_of_ordered : (value : Json) → value.Ordered → value.sorted = value
  | .array items, ordered => by
    rw [Ordered] at ordered
    rw [sorted, sortedItems_of_ordered items ordered]
  | .object members, ordered => by
    rw [Ordered] at ordered
    obtain ⟨ascending, ordered⟩ := ordered
    rw [sorted, sortedMembers_of_ordered members [] ordered ascending, List.nil_append]
  | .null, _ | .bool _, _ | .integer _, _ | .real _, _ | .text _, _ => by rw [sorted] <;> simp

theorem sortedItems_of_ordered : (items : List Json) → OrderedItems items → sortedItems items = items
  | [], _ => by rw [sortedItems]
  | item :: rest, ordered => by
    rw [OrderedItems] at ordered
    rw [sortedItems, sorted_of_ordered item ordered.1, sortedItems_of_ordered rest ordered.2]

theorem sortedMembers_of_ordered : (members : List (String × Json)) → (done : Keyed String Json) →
    OrderedMembers members → Keyed.Ascending (done ++ members) →
      sortedMembers members done = done ++ members
  | [], done, _, _ => by rw [sortedMembers, List.append_nil]
  | (name, value) :: rest, done, ordered, ascending => by
    rw [OrderedMembers] at ordered
    have last : ∀ other ∈ Keyed.keys done, other < name := fun other member => by
      rw [Keyed.Ascending, Keyed.keys, List.map_append] at ascending
      exact (List.pairwise_append.mp ascending).2.2 other member name List.mem_cons_self
    have split : done ++ (name, value) :: rest = done ++ [(name, value)] ++ rest := by simp
    rw [sortedMembers, sorted_of_ordered value ordered.1, Keyed.putSorted_of_last last,
      sortedMembers_of_ordered rest _ ordered.2 (split ▸ ascending), split]

end

end Json

/-! ## Property values -/

namespace Value

theorem ordered_ofFloat (x : Float) : (Json.ofFloat x).Ordered := by
  unfold Json.ofFloat
  split <;> simp [Json.Ordered]

mutual

/-- The JSON of a property value is in order. -/
theorem ordered_toJson : (value : Value) → value.toJson.Ordered
  | .null | .invalid | .bool _ | .int _ | .text _ => by simp [toJson, Json.Ordered]
  | .float x => by
    rw [toJson]
    exact ordered_ofFloat x
  | .box corners => by
    rw [toJson, Json.Ordered]
    refine Json.orderedItems_iff.mpr fun item member => ?_
    obtain ⟨x, _, rfl⟩ := List.mem_map.mp member
    exact ordered_ofFloat x
  | .list items => by
    rw [toJson, Json.Ordered]
    exact ordered_itemsToJson items
  | .picture shown => by
    have apart : "height" < "width" := by decide
    rw [toJson, Json.Ordered]
    refine ⟨List.pairwise_cons.mpr ⟨fun name member => ?_, List.pairwise_singleton _ _⟩, ?_⟩
    · exact List.mem_singleton.mp member ▸ apart
    · simp [Json.OrderedMembers, Json.Ordered]

theorem ordered_itemsToJson : (items : List Value) → Json.OrderedItems (itemsToJson items)
  | [] => by simp [itemsToJson, Json.OrderedItems]
  | item :: rest => by
    rw [itemsToJson, Json.OrderedItems]
    exact ⟨ordered_toJson item, ordered_itemsToJson rest⟩

end

end Value

end ObjectQuery
