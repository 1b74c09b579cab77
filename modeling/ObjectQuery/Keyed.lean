/-!
# Keyed lists

A list of entries with a key each. Two ways of writing an entry are used: `put` keeps the place in
which a key was first written, `putSorted` keeps the keys in ascending order. In both the last value
written under a key is the one that is found.
-/

namespace ObjectQuery

abbrev Keyed (κ : Type) (β : Type) := List (κ × β)

namespace Keyed

variable {κ β γ : Type}

/-- The value of the first entry under a key. -/
def find? [DecidableEq κ] : Keyed κ β → κ → Option β
  | [], _ => none
  | (key, value) :: rest, wanted => if key = wanted then some value else find? rest wanted

def has [DecidableEq κ] (entries : Keyed κ β) (key : κ) : Bool := (find? entries key).isSome

def keys (entries : Keyed κ β) : List κ := entries.map Prod.fst

def values (entries : Keyed κ β) : List β := entries.map Prod.snd

/-- Write a value under a key: in place of the entry that is there, else at the end. -/
def put [DecidableEq κ] : Keyed κ β → κ → β → Keyed κ β
  | [], key, value => [(key, value)]
  | (present, old) :: rest, key, value =>
    if present = key then (key, value) :: rest else (present, old) :: put rest key value

/-- Write a value under a key in a list whose keys ascend. -/
def putSorted [DecidableEq κ] [LT κ] [DecidableLT κ] : Keyed κ β → κ → β → Keyed κ β
  | [], key, value => [(key, value)]
  | (present, old) :: rest, key, value =>
    if present = key then (key, value) :: rest
    else if key < present then (key, value) :: (present, old) :: rest
    else (present, old) :: putSorted rest key value

def remove [DecidableEq κ] (entries : Keyed κ β) (key : κ) : Keyed κ β :=
  entries.filter fun entry => decide (entry.1 ≠ key)

def mapValues (f : κ → β → γ) (entries : Keyed κ β) : Keyed κ γ :=
  entries.map fun (key, value) => (key, f key value)

/-! ## Reading after writing -/

@[simp] theorem find?_nil [DecidableEq κ] (wanted : κ) : find? ([] : Keyed κ β) wanted = none := rfl

theorem find?_put [DecidableEq κ] (entries : Keyed κ β) (key wanted : κ) (value : β) :
    find? (put entries key value) wanted =
      if key = wanted then some value else find? entries wanted := by
  induction entries with
  | nil => simp [put, find?]
  | cons entry rest ih =>
    obtain ⟨present, old⟩ := entry
    by_cases here : present = key
    · subst here
      by_cases same : present = wanted <;> simp [put, find?, same]
    · by_cases same : present = wanted
      · subst same
        have other : key ≠ present := fun equal => here equal.symm
        simp [put, find?, here, other]
      · simp [put, find?, here, same, ih]

/-- Writing adds the key once, at the end, if it was not there. -/
theorem keys_put [DecidableEq κ] (entries : Keyed κ β) (key : κ) (value : β) :
    keys (put entries key value) =
      if key ∈ keys entries then keys entries else keys entries ++ [key] := by
  induction entries with
  | nil => simp [put, keys]
  | cons entry rest ih =>
    obtain ⟨present, old⟩ := entry
    by_cases here : present = key
    · subst here
      simp [put, keys]
    · have apart : key ≠ present := fun equal => here equal.symm
      simp only [keys] at ih
      by_cases later : key ∈ rest.map Prod.fst
      · simp [put, keys, here, ih, later]
      · simp [put, keys, here, ih, later, apart]

theorem put_of_not_mem [DecidableEq κ] {entries : Keyed κ β} {key : κ} (absent : key ∉ keys entries)
    (value : β) : put entries key value = entries ++ [(key, value)] := by
  induction entries with
  | nil => rfl
  | cons entry rest ih =>
    obtain ⟨present, old⟩ := entry
    have apart : present ≠ key := fun same => absent (same ▸ List.mem_cons_self)
    rw [put, if_neg apart, ih fun member => absent (List.mem_cons_of_mem _ member)]
    rfl

/-- Of two values written under a key the last one is kept, in the place of the first. -/
theorem put_put [DecidableEq κ] (entries : Keyed κ β) (key : κ) (first last : β) :
    put (put entries key first) key last = put entries key last := by
  induction entries with
  | nil => simp [put]
  | cons entry rest ih =>
    obtain ⟨present, old⟩ := entry
    by_cases here : present = key
    · simp [put, here]
    · simp [put, here, ih]

theorem mem_put [DecidableEq κ] {entries : Keyed κ β} {key : κ} {value : β} {entry : κ × β}
    (member : entry ∈ put entries key value) : entry = (key, value) ∨ entry ∈ entries := by
  induction entries with
  | nil => exact .inl (List.mem_singleton.mp member)
  | cons head rest ih =>
    obtain ⟨present, old⟩ := head
    rw [put] at member
    split at member
    · rcases List.mem_cons.mp member with rfl | later
      · exact .inl rfl
      · exact .inr (List.mem_cons_of_mem _ later)
    · rcases List.mem_cons.mp member with rfl | later
      · exact .inr List.mem_cons_self
      · rcases ih later with new | present
        · exact .inl new
        · exact .inr (List.mem_cons_of_mem _ present)

/-- What is found under a key is one of the entries. -/
theorem mem_of_find? [DecidableEq κ] {entries : Keyed κ β} {key : κ} {value : β}
    (found : entries.find? key = some value) : (key, value) ∈ entries := by
  induction entries with
  | nil => exact absurd found (by simp)
  | cons entry rest ih =>
    obtain ⟨present, first⟩ := entry
    rw [find?] at found
    by_cases here : present = key
    · rw [if_pos here] at found
      rw [here, Option.some.inj found]
      exact List.mem_cons_self
    · rw [if_neg here] at found
      exact List.mem_cons_of_mem _ (ih found)

theorem find?_eq_none_iff [DecidableEq κ] {entries : Keyed κ β} {key : κ} :
    entries.find? key = none ↔ key ∉ entries.keys := by
  induction entries with
  | nil => simp [keys]
  | cons entry rest ih =>
    obtain ⟨present, value⟩ := entry
    rw [keys] at ih
    by_cases here : present = key
    · simp [find?, keys, here]
    · simp [find?, keys, here, Ne.symm here, ih]

/-- Where no key has two entries each entry is what is found under its key. -/
theorem find?_of_mem [DecidableEq κ] {entries : Keyed κ β} (once : entries.keys.Nodup)
    {entry : κ × β} (member : entry ∈ entries) : entries.find? entry.1 = some entry.2 := by
  induction entries with
  | nil => exact absurd member List.not_mem_nil
  | cons head rest ih =>
    obtain ⟨absent, once⟩ := List.nodup_cons.mp once
    rw [find?]
    rcases List.mem_cons.mp member with rfl | later
    · rw [if_pos rfl]
    · have apart : head.1 ≠ entry.1 := fun same => absent (same ▸ List.mem_map_of_mem later)
      rw [if_neg apart]
      exact ih once later

/-- A value for each key is found under the key. -/
theorem find?_map_pair [DecidableEq κ] (value : κ → β) {keys : List κ} {key : κ}
    (member : key ∈ keys) :
    find? (keys.map fun key => (key, value key)) key = some (value key) := by
  induction keys with
  | nil => exact absurd member List.not_mem_nil
  | cons first rest ih =>
    by_cases here : first = key
    · simp [find?, here]
    · have later := (List.mem_cons.mp member).resolve_left (Ne.symm here)
      simpa [find?, here] using ih later

theorem find?_mapValues [DecidableEq κ] (change : κ → β → γ) (entries : Keyed κ β) (key : κ) :
    (entries.mapValues change).find? key = (entries.find? key).map (change key) := by
  induction entries with
  | nil => rfl
  | cons entry rest ih =>
    obtain ⟨present, value⟩ := entry
    by_cases here : present = key
    · subst here
      simp [mapValues, find?]
    · simpa [mapValues, find?, here] using ih

theorem keys_mapValues (change : κ → β → γ) (entries : Keyed κ β) :
    (entries.mapValues change).keys = entries.keys := by
  unfold keys mapValues
  rw [List.map_map]
  rfl

end Keyed

end ObjectQuery
