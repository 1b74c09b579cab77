/-!
# Values under keys

A storage takes in values, gives each a key that is not in use, and lets go of the key when the value
is taken out, so that a later value may have it. What else decides the choice of a key is left to the
storage. Reading, changing or taking out under a key that is not in use has no result.
-/

namespace ObjectQuery

/-- What keeps values under keys. -/
class Storage (σ : Type → Type) where
  empty : {τ : Type} → σ τ
  read? : {τ : Type} → σ τ → Nat → Option τ
  /-- A new value, with the key it is given. -/
  insert : {τ : Type} → σ τ → τ → Nat × σ τ
  /-- Another value under a key that is in use. -/
  write : {τ : Type} → σ τ → Nat → τ → σ τ
  erase : {τ : Type} → σ τ → Nat → σ τ

/-- What is asked of a storage: a new value has a key that was not in use, and every operation leaves
the values under other keys alone. -/
class LawfulStorage (σ : Type → Type) [Storage σ] : Prop where
  read?_empty {τ : Type} (key : Nat) : Storage.read? (Storage.empty : σ τ) key = none
  read?_fresh {τ : Type} (cells : σ τ) (value : τ) :
    Storage.read? cells (Storage.insert cells value).1 = none
  read?_insert {τ : Type} (cells : σ τ) (value : τ) (key : Nat) :
    Storage.read? (Storage.insert cells value).2 key =
      if key = (Storage.insert cells value).1 then some value else Storage.read? cells key
  read?_write {τ : Type} (cells : σ τ) (written : Nat) (value : τ) (key : Nat) :
    (Storage.read? cells written).isSome →
      Storage.read? (Storage.write cells written value) key =
        if key = written then some value else Storage.read? cells key
  read?_erase {τ : Type} (cells : σ τ) (erased key : Nat) :
    (Storage.read? cells erased).isSome →
      Storage.read? (Storage.erase cells erased) key =
        if key = erased then none else Storage.read? cells key

/-- A storage that knows how many values it keeps. -/
class CountedStorage (σ : Type → Type) extends Storage σ where
  size : {τ : Type} → σ τ → Nat

/-- What is asked of the size: it is the number of keys that are in use. -/
class LawfulCount (σ : Type → Type) [CountedStorage σ] : Prop where
  size_eq {τ : Type} (cells : σ τ) (keys : List Nat) :
    keys.Nodup → (∀ key, key ∈ keys ↔ (Storage.read? cells key).isSome) →
      CountedStorage.size cells = keys.length

namespace Storage

variable {σ : Type → Type} [Storage σ] {τ : Type}

/-! ## Several keys at a time -/

def readAll? (cells : σ τ) (keys : List Nat) : Option (List τ) := keys.mapM (read? cells)

def select? (cells : σ τ) (condition : τ → Bool) (keys : List Nat) : Option (List Nat) :=
  (readAll? cells keys).map fun values =>
    ((keys.zip values).filter fun entry => condition entry.2).map Prod.fst

/-- Values changed where they are, each in its own way, one after another. -/
def change? (cells : σ τ) : List (Nat × (τ → τ)) → Option (σ τ)
  | [] => some cells
  | (key, edit) :: rest =>
    read? cells key >>= fun value => change? (write cells key (edit value)) rest

def changeAll? (cells : σ τ) (keys : List Nat) (edit : τ → τ) : Option (σ τ) :=
  change? cells (keys.map fun key => (key, edit))

def takeAll? (cells : σ τ) : List Nat → Option (List τ × σ τ)
  | [] => some ([], cells)
  | key :: rest => do
    let value ← read? cells key
    let (values, left) ← takeAll? (erase cells key) rest
    return (value :: values, left)

def eraseAll (cells : σ τ) (keys : List Nat) : σ τ := keys.foldl erase cells

/-- New values taken in, one after another, with their keys. -/
def insertAll (cells : σ τ) : List τ → List Nat × σ τ
  | [] => ([], cells)
  | value :: rest =>
    let (key, after) := insert cells value
    let (keys, after) := insertAll after rest
    (key :: keys, after)

end Storage

/-! ## Slots in a row -/

/-- Slots in a row, the key being the place in it. Of the vacant slots the one that was vacated last is
taken first, and the row grows when no slot is vacant. -/
structure Slots (τ : Type) where
  cells : List (Option τ)
  /-- The one vacated last comes first. -/
  vacant : List Nat
  distinct : vacant.Nodup
  free : ∀ key ∈ vacant, cells[key]? = some none

namespace Slots

variable {τ : Type}

def empty : Slots τ := ⟨[], [], List.nodup_nil, by simp⟩

def read? (slots : Slots τ) (key : Nat) : Option τ := (slots.cells[key]?).join

theorem free_of_set {slots : Slots τ} {key : Nat} {value : τ} {rest : List Nat}
    (found : slots.vacant = key :: rest) :
    ∀ other ∈ rest, (slots.cells.set key (some value))[other]? = some none := by
  intro other member
  have distinct : (key :: rest).Nodup := found ▸ slots.distinct
  have apart : key ≠ other := fun same => (List.nodup_cons.mp distinct).1 (same ▸ member)
  rw [List.getElem?_set_ne apart]
  exact slots.free other (found ▸ List.mem_cons_of_mem key member)

def insert (slots : Slots τ) (value : τ) : Nat × Slots τ :=
  match found : slots.vacant with
  | [] => (slots.cells.length, ⟨slots.cells ++ [some value], [], List.nodup_nil, by simp⟩)
  | key :: rest =>
    (key,
      { cells := slots.cells.set key (some value)
        vacant := rest
        distinct := (List.nodup_cons.mp (found ▸ slots.distinct)).2
        free := free_of_set found })

theorem free_of_write {slots : Slots τ} {key : Nat} {value old : τ}
    (found : slots.read? key = some old) :
    ∀ other ∈ slots.vacant, (slots.cells.set key (some value))[other]? = some none := by
  intro other member
  have free := slots.free other member
  have apart : key ≠ other := by
    intro same
    rw [← same] at free
    simp [read?, free] at found
  rw [List.getElem?_set_ne apart]
  exact free

/-- Change the value in a slot that is not vacant. -/
def write (slots : Slots τ) (key : Nat) (value : τ) : Slots τ :=
  match found : slots.read? key with
  | none => slots
  | some _ => { slots with
      cells := slots.cells.set key (some value)
      free := free_of_write found }

theorem free_of_erase {slots : Slots τ} {key : Nat} {old : τ}
    (found : slots.read? key = some old) :
    ∀ other ∈ key :: slots.vacant, (slots.cells.set key none)[other]? = some none := by
  have room : key < slots.cells.length := by
    refine Nat.lt_of_not_le fun beyond => ?_
    simp [read?, List.getElem?_eq_none beyond] at found
  intro other member
  by_cases same : key = other
  · rw [same, List.getElem?_set_self (same ▸ room)]
  · rw [List.getElem?_set_ne same]
    rcases List.mem_cons.mp member with here | later
    · exact absurd here.symm same
    · exact slots.free other later

theorem nodup_of_erase {slots : Slots τ} {key : Nat} {old : τ}
    (found : slots.read? key = some old) : (key :: slots.vacant).Nodup := by
  refine List.nodup_cons.mpr ⟨fun member => ?_, slots.distinct⟩
  have free := slots.free key member
  simp [read?, free] at found

def erase (slots : Slots τ) (key : Nat) : Slots τ :=
  match found : slots.read? key with
  | none => slots
  | some _ =>
    { cells := slots.cells.set key none
      vacant := key :: slots.vacant
      distinct := nodup_of_erase found
      free := free_of_erase found }

instance : Storage Slots where
  empty := Slots.empty
  read? := Slots.read?
  insert := Slots.insert
  write := Slots.write
  erase := Slots.erase

/-- The number of slots that are not vacant. -/
def size (slots : Slots τ) : Nat := (slots.cells.filter Option.isSome).length

instance : CountedStorage Slots where
  size := Slots.size

end Slots

end ObjectQuery
