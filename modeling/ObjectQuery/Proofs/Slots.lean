import Mathlib.Data.List.Perm.Basic
import Mathlib.Data.List.Nodup
import Mathlib.Data.List.Basic
import ObjectQuery.Slots

/-!
# The contents of a storage

`Holds cells entries` says that a storage holds exactly the listed values, each under its key. With it
every operation on several keys is an operation on the list of entries: reading maps, changing maps a
part of the list, taking out strikes a part off, and taking in adds entries at the end. None of them
fails on keys that are in the list.
-/

namespace ObjectQuery

namespace Slots

variable {τ : Type}

theorem read?_insert_fresh (slots : Slots τ) (value : τ) :
    slots.read? (slots.insert value).1 = none := by
  unfold insert
  split
  · simp [read?]
  · rename_i key rest found
    have free := slots.free key (found ▸ List.mem_cons_self)
    simp [read?, free]

theorem read?_insert_eq (slots : Slots τ) (value : τ) (key : Nat) :
    (slots.insert value).2.read? key =
      if key = (slots.insert value).1 then some value else slots.read? key := by
  unfold insert
  split
  · by_cases same : key = slots.cells.length
    · simp [read?, same]
    · rw [if_neg same]
      rcases Nat.lt_or_ge key slots.cells.length with inside | outside
      · simp [read?, List.getElem?_append_left inside]
      · have beyond : slots.cells.length < key :=
          Nat.lt_of_le_of_ne outside (Ne.symm same)
        have past : ¬ key < slots.cells.length + 1 := by omega
        simp [read?, past, List.getElem?_eq_none outside]
  · rename_i taken rest found
    have free := slots.free taken (found ▸ List.mem_cons_self)
    have room : taken < slots.cells.length := by
      refine Nat.lt_of_not_le fun beyond => ?_
      simp [List.getElem?_eq_none beyond] at free
    by_cases same : key = taken
    · simp [read?, same, room]
    · simp [read?, same, List.getElem?_set_ne (Ne.symm same)]

theorem room_of_read? {slots : Slots τ} {key : Nat} {value : τ}
    (found : slots.read? key = some value) :
    key < slots.cells.length := by
  refine Nat.lt_of_not_le fun beyond => ?_
  simp [read?, List.getElem?_eq_none beyond] at found

theorem read?_write_eq (slots : Slots τ) (written : Nat) (value : τ) (key : Nat)
    (present : (slots.read? written).isSome) :
    (slots.write written value).read? key =
      if key = written then some value else slots.read? key := by
  obtain ⟨old, found⟩ := Option.isSome_iff_exists.mp present
  have room := room_of_read? found
  unfold write
  split
  · rename_i missing
    rw [found] at missing
    exact absurd missing (by simp)
  · by_cases same : key = written
    · simp [read?, same, room]
    · simp [read?, same, List.getElem?_set_ne (Ne.symm same)]

theorem read?_erase_eq (slots : Slots τ) (erased key : Nat)
    (present : (slots.read? erased).isSome) :
    (slots.erase erased).read? key =
      if key = erased then none else slots.read? key := by
  obtain ⟨old, found⟩ := Option.isSome_iff_exists.mp present
  have room := room_of_read? found
  unfold erase
  split
  · rename_i missing
    rw [found] at missing
    exact absurd missing (by simp)
  · by_cases same : key = erased
    · simp [read?, same, room]
    · simp [read?, same, List.getElem?_set_ne (Ne.symm same)]

instance : LawfulStorage Slots where
  read?_empty key := by
    change Slots.read? Slots.empty key = none
    simp [read?, Slots.empty]
  read?_fresh := read?_insert_fresh
  read?_insert := read?_insert_eq
  read?_write := read?_write_eq
  read?_erase := read?_erase_eq

/-- What is read under all keys in their order are the slots. -/
theorem map_read? (slots : Slots τ) :
    (List.range slots.cells.length).map slots.read? = slots.cells := by
  refine List.ext_getElem (by simp) fun key here there => ?_
  simp [read?, List.getElem?_eq_getElem there]

instance : LawfulCount Slots where
  size_eq := by
    intro τ slots keys distinct occupied
    have perm : keys.Perm ((List.range slots.cells.length).filter fun key =>
        (slots.read? key).isSome) := by
      rw [List.perm_ext_iff_of_nodup distinct (List.nodup_range.filter _)]
      intro key
      rw [List.mem_filter, List.mem_range]
      constructor
      · intro member
        have used := (occupied key).mp member
        obtain ⟨value, found⟩ := Option.isSome_iff_exists.mp used
        exact ⟨room_of_read? found, used⟩
      · rintro ⟨_, used⟩
        exact (occupied key).mpr used
    calc (slots.cells.filter Option.isSome).length
        = (((List.range slots.cells.length).map slots.read?).filter Option.isSome).length := by
          rw [map_read?]
      _ = ((List.range slots.cells.length).filter fun key => (slots.read? key).isSome).length := by
          rw [List.filter_map, List.length_map]
          rfl
      _ = keys.length := perm.length_eq.symm

end Slots

namespace Storage

variable {σ : Type → Type} [Storage σ] [LawfulStorage σ] {τ : Type}

theorem read?_eraseAll (cells : σ τ) {keys : List Nat} (distinct : keys.Nodup)
    (used : ∀ key ∈ keys, (read? cells key).isSome) (key : Nat) :
    read? (eraseAll cells keys) key = if key ∈ keys then none else read? cells key := by
  induction keys generalizing cells with
  | nil => rfl
  | cons first rest inductionHypothesis =>
      obtain ⟨absent, distinct⟩ := List.nodup_cons.mp distinct
      have erased (other : Nat) : read? (erase cells first) other =
          if other = first then none else read? cells other :=
        LawfulStorage.read?_erase cells first other (used first List.mem_cons_self)
      have usedRest : ∀ other ∈ rest, (read? (erase cells first) other).isSome := by
        intro other member
        have apart : other ≠ first := fun same => absent (same ▸ member)
        rw [erased, if_neg apart]
        exact used other (List.mem_cons_of_mem first member)
      have later := inductionHypothesis (erase cells first) distinct usedRest
      rw [eraseAll, List.foldl_cons, ← eraseAll, later, erased]
      by_cases same : key = first
      · simp [same]
      · by_cases inRest : key ∈ rest <;> simp [same, inRest]

/-- A storage holds exactly the listed values under their keys. -/
structure Holds (cells : σ τ) (entries : List (Nat × τ)) : Prop where
  distinct : (entries.map Prod.fst).Nodup
  reads : ∀ key value, read? cells key = some value ↔ (key, value) ∈ entries

theorem holds_empty : Holds (empty : σ τ) [] where
  distinct := List.nodup_nil
  reads key value := by simp [LawfulStorage.read?_empty]

omit [LawfulStorage σ] in
theorem Holds.perm
    {cells : σ τ} {entries others : List (Nat × τ)}
    (holds : Holds cells entries) (same : entries.Perm others) :
    Holds cells others where
  distinct := (same.map Prod.fst).nodup_iff.mp holds.distinct
  reads key value := (holds.reads key value).trans same.mem_iff

/-! ## Reading -/

omit [LawfulStorage σ] in
theorem Holds.readAll?_eq
    {cells : σ τ} {entries part : List (Nat × τ)}
    (holds : Holds cells entries) (inside : part ⊆ entries) :
    readAll? cells (part.map Prod.fst) = some (part.map Prod.snd) := by
  induction part with
  | nil => rfl
  | cons entry rest inductionHypothesis =>
      have first : read? cells entry.1 = some entry.2 :=
        (holds.reads entry.1 entry.2).mpr (inside List.mem_cons_self)
      have later := inductionHypothesis fun other member =>
        inside (List.mem_cons_of_mem entry member)
      unfold readAll? at later ⊢
      simp [List.mapM_cons, first, later]

theorem zip_fst_snd {β γ : Type} (entries : List (β × γ)) :
    (entries.map Prod.fst).zip (entries.map Prod.snd) = entries := by
  rw [List.zip_map', List.map_id'']
  exact fun _ => rfl

omit [LawfulStorage σ] in
theorem Holds.select?_eq
    {cells : σ τ} {entries part : List (Nat × τ)}
    (holds : Holds cells entries) (inside : part ⊆ entries) (condition : τ → Bool) :
    select? cells condition (part.map Prod.fst) =
      some ((part.filter fun entry => condition entry.2).map Prod.fst) := by
  rw [select?, holds.readAll?_eq inside, Option.map_some, zip_fst_snd]

omit [LawfulStorage σ] in
/-- Keys are selected by a condition on keys that agrees with the condition on the values. -/
theorem Holds.select?_keys
    {cells : σ τ} {entries : List (Nat × τ)} (holds : Holds cells entries)
    {condition : τ → Bool} {chosen : Nat → Bool} {keys : List Nat}
    (agrees : ∀ key ∈ keys, ∃ value, (key, value) ∈ entries ∧ condition value = chosen key) :
    select? cells condition keys = some (keys.filter chosen) := by
  have listed : ∃ part, part ⊆ entries ∧ part.map Prod.fst = keys ∧
      ∀ entry ∈ part, condition entry.2 = chosen entry.1 := by
    induction keys with
    | nil => exact ⟨[], List.nil_subset entries, rfl, by simp⟩
    | cons key keys inductionHypothesis =>
        obtain ⟨part, within, named, same⟩ := inductionHypothesis fun other member =>
          agrees other (List.mem_cons_of_mem key member)
        obtain ⟨value, present, here⟩ := agrees key List.mem_cons_self
        exact ⟨(key, value) :: part, List.cons_subset.mpr ⟨present, within⟩, by simp [named],
          List.forall_mem_cons.mpr ⟨here, same⟩⟩
  obtain ⟨part, within, rfl, same⟩ := listed
  rw [holds.select?_eq within, List.filter_congr same, List.filter_map]
  rfl

/-! ## Changing -/

theorem Holds.write
    {cells : σ τ} {key : Nat} {old value : τ} {rest : List (Nat × τ)}
    (holds : Holds cells ((key, old) :: rest)) :
    Holds (Storage.write cells key value) ((key, value) :: rest) where
  distinct := by simpa using holds.distinct
  reads other found := by
    have present : (read? cells key).isSome := by
      rw [(holds.reads key old).mpr List.mem_cons_self]
      rfl
    have absent : ∀ value, (key, value) ∉ rest := by
      intro value member
      exact (List.nodup_cons.mp holds.distinct).1 (List.mem_map.mpr ⟨_, member, rfl⟩)
    rw [LawfulStorage.read?_write cells key value other present]
    by_cases same : other = key
    · subst same
      simp [absent, eq_comm]
    · rw [if_neg same, holds.reads other found]
      simp [same]

/-- Each entry of a part changed in its own way. -/
theorem Holds.change?_eq {β : Type}
    {cells : σ τ} {rest : List (Nat × τ)} (edit : β → τ → τ) (key : β → Nat) (old : β → τ)
    {part : List β} (holds : Holds cells (part.map (fun b => (key b, old b)) ++ rest)) :
    ∃ after, change? cells (part.map fun b => (key b, edit b)) = some after ∧
      Holds after (part.map (fun b => (key b, edit b (old b))) ++ rest) := by
  induction part generalizing cells rest with
  | nil => exact ⟨cells, rfl, holds⟩
  | cons b part inductionHypothesis =>
      have found : read? cells (key b) = some (old b) :=
        (holds.reads _ _).mpr (by simp)
      have written : Holds (Storage.write cells (key b) (edit b (old b)))
          (part.map (fun b => (key b, old b)) ++ (key b, edit b (old b)) :: rest) :=
        (holds.write).perm List.perm_middle.symm
      obtain ⟨after, changed, left⟩ := inductionHypothesis written
      refine ⟨after, ?_, left.perm ?_⟩
      · simp [change?, found, changed]
      · simp

/-- An entry with its value changed. -/
def onValue (edit : τ → τ) (entry : Nat × τ) : Nat × τ := (entry.1, edit entry.2)

theorem map_fst_onValue (edit : τ → τ) (entries : List (Nat × τ)) :
    (entries.map (onValue edit)).map Prod.fst = entries.map Prod.fst := by
  rw [List.map_map]
  rfl

theorem map_snd_onValue (edit : τ → τ) (entries : List (Nat × τ)) :
    (entries.map (onValue edit)).map Prod.snd = (entries.map Prod.snd).map edit := by
  rw [List.map_map, List.map_map]
  rfl

theorem Holds.changeAll?_eq
    {cells : σ τ} {part rest : List (Nat × τ)} (edit : τ → τ)
    (holds : Holds cells (part ++ rest)) :
    ∃ after, changeAll? cells (part.map Prod.fst) edit = some after ∧
      Holds after (part.map (onValue edit) ++ rest) := by
  have listed : Holds cells (part.map (fun entry => (entry.1, entry.2)) ++ rest) := by
    simpa using holds
  obtain ⟨after, changed, left⟩ :=
    listed.change?_eq (fun _ => edit) Prod.fst Prod.snd
  exact ⟨after, by simpa [changeAll?, Function.comp_def] using changed, left⟩

/-! ## Taking out and taking in -/

theorem Holds.erase
    {cells : σ τ} {key : Nat} {old : τ} {rest : List (Nat × τ)}
    (holds : Holds cells ((key, old) :: rest)) :
    Holds (Storage.erase cells key) rest where
  distinct := (List.nodup_cons.mp holds.distinct).2
  reads other found := by
    have present : (read? cells key).isSome := by
      rw [(holds.reads key old).mpr List.mem_cons_self]
      rfl
    have absent : ∀ value, (key, value) ∉ rest := by
      intro value member
      exact (List.nodup_cons.mp holds.distinct).1 (List.mem_map.mpr ⟨_, member, rfl⟩)
    rw [LawfulStorage.read?_erase cells key other present]
    by_cases same : other = key
    · subst same
      simp [absent]
    · rw [if_neg same, holds.reads other found]
      simp [same]

theorem Holds.takeAll?_eq
    {cells : σ τ} {part rest : List (Nat × τ)} (holds : Holds cells (part ++ rest)) :
    ∃ after, takeAll? cells (part.map Prod.fst) = some (part.map Prod.snd, after) ∧
      Holds after rest := by
  induction part generalizing cells with
  | nil => exact ⟨cells, rfl, holds⟩
  | cons entry part inductionHypothesis =>
      have found : read? cells entry.1 = some entry.2 :=
        (holds.reads _ _).mpr (by simp)
      obtain ⟨after, taken, left⟩ := inductionHypothesis holds.erase
      exact ⟨after, by simp [takeAll?, found, taken], left⟩

theorem Holds.insert
    {cells : σ τ} {entries : List (Nat × τ)} (holds : Holds cells entries) (value : τ) :
    Holds (Storage.insert cells value).2
      (entries ++ [((Storage.insert cells value).1, value)]) where
  distinct := by
    have fresh : ∀ old, ((Storage.insert cells value).1, old) ∉ entries := by
      intro old member
      have found := (holds.reads _ _).mpr member
      rw [LawfulStorage.read?_fresh] at found
      exact absurd found (by simp)
    rw [List.map_append, List.nodup_append]
    refine ⟨holds.distinct, by simp, ?_⟩
    intro key member other here same
    obtain ⟨entry, inside, named⟩ := List.mem_map.mp member
    have last : other = (Storage.insert cells value).1 := by simpa using here
    refine fresh entry.2 ?_
    rw [← last, ← same, ← named]
    exact inside
  reads key found := by
    rw [LawfulStorage.read?_insert]
    by_cases same : key = (Storage.insert cells value).1
    · rw [if_pos same, List.mem_append]
      constructor
      · rintro ⟨rfl⟩
        exact Or.inr (by simp [same])
      · rintro (old | new)
        · have present := (holds.reads key found).mpr old
          rw [same, LawfulStorage.read?_fresh] at present
          exact absurd present (by simp)
        · have equal : found = value := by simpa [same] using new
          rw [equal]
    · rw [if_neg same, holds.reads key found]
      simp [same]

theorem Holds.insertAll
    {cells : σ τ} {entries : List (Nat × τ)} (values : List τ) (holds : Holds cells entries) :
    ∃ added : List (Nat × τ), (insertAll cells values).1 = added.map Prod.fst ∧
      added.map Prod.snd = values ∧
        Holds (insertAll cells values).2 (entries ++ added) := by
  induction values generalizing cells entries with
  | nil => exact ⟨[], rfl, rfl, by simpa [Storage.insertAll] using holds⟩
  | cons value values inductionHypothesis =>
      obtain ⟨added, keys, named, left⟩ := inductionHypothesis (holds.insert value)
      refine ⟨((Storage.insert cells value).1, value) :: added, ?_, ?_, ?_⟩
      · simp [Storage.insertAll, keys]
      · simp [named]
      · simpa [Storage.insertAll] using left

end Storage

end ObjectQuery
