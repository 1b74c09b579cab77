import ObjectQuery.Launch.Document
import ObjectQuery.Proofs.Json.Pretty
import ObjectQuery.Proofs.Number.Unpacked
import ObjectQuery.Proofs.Toml.Sections

/-!
# Formats, read back

What the text of a section shows to the reader of a format is what is written, but that TOML has no text for
null and JSON none for a number that is not finite (`ConfigFormat.read?_write`). The fields of a section are
read from it by their names (`fields?_present`).
-/

namespace ObjectQuery

open WrittenValue

/-! ## Fields that may be missing -/

namespace WrittenValue

variable {entries : List (String × Option WrittenValue)}

/-- The members of an object with values for some of its fields. -/
def present (entries : List (String × Option WrittenValue)) : List (String × WrittenValue) :=
  entries.filterMap fun (name, value) => value.map fun value => (name, value)

theorem present_cons_none (name : String) (entries : List (String × Option WrittenValue)) :
    present ((name, none) :: entries) = present entries := rfl

theorem present_cons_some (name : String) (value : WrittenValue)
    (entries : List (String × Option WrittenValue)) :
    present ((name, some value) :: entries) = (name, value) :: present entries := rfl

theorem mem_of_mem_present {member : String × WrittenValue} (found : member ∈ present entries) :
    (member.1, some member.2) ∈ entries := by
  obtain ⟨⟨name, value⟩, listed, same⟩ := List.mem_filterMap.mp found
  obtain ⟨value, rfl, rfl⟩ := Option.map_eq_some_iff.mp same
  exact listed

/-- Where no name stands twice, a field has the value of its name. -/
theorem field?_present (once : (entries.map Prod.fst).Nodup) {entry : String × Option WrittenValue}
    (listed : entry ∈ entries) : field? (present entries) entry.1 = some entry.2 := by
  have absent {entries : List (String × Option WrittenValue)} {name : String}
      (unlisted : name ∉ entries.map Prod.fst) :
      (present entries).filter (fun member => member.1 = name) = [] := by
    rw [List.filter_eq_nil_iff]
    intro member found same
    exact unlisted (of_decide_eq_true same ▸ List.mem_map_of_mem (mem_of_mem_present found))
  induction entries with
  | nil => exact absurd listed List.not_mem_nil
  | cons head entries inductionHypothesis =>
      obtain ⟨unlike, others⟩ := List.nodup_cons.mp once
      rcases List.mem_cons.mp listed with rfl | later
      · obtain ⟨name, value⟩ := entry
        cases value with
        | none => rw [field?, present_cons_none, absent unlike]; rfl
        | some value => rw [field?, present_cons_some, List.filter_cons_of_pos (by simp), absent unlike]; rfl
      · have apart : head.1 ≠ entry.1 := fun same => unlike (same ▸ List.mem_map_of_mem later)
        obtain ⟨name, value⟩ := head
        cases value with
        | none => exact inductionHypothesis others later
        | some value =>
            have read := inductionHypothesis others later
            rw [field?] at read ⊢
            rwa [present_cons_some, List.filter_cons_of_neg (by simpa using apart)]

theorem mapM_fields {f : String → Option (Option WrittenValue)}
    (read : ∀ entry ∈ entries, f entry.1 = some entry.2) :
    (entries.map Prod.fst).mapM f = some (entries.map Prod.snd) := by
  induction entries with
  | nil => rfl
  | cons entry entries inductionHypothesis =>
      obtain ⟨first, others⟩ := List.forall_mem_cons.mp read
      rw [List.map_cons, List.mapM_cons, first, inductionHypothesis others]
      rfl

/-- The fields of an object that has no others. -/
theorem fields?_present (once : (entries.map Prod.fst).Nodup) (rules : StructureRules) :
    fields? rules (entries.map Prod.fst) (.object (present entries)) = some (entries.map Prod.snd) := by
  have others : (present entries).filter (fun member => !(entries.map Prod.fst).contains member.1) = [] := by
    rw [List.filter_eq_nil_iff]
    intro member found
    have listed : member.1 ∈ entries.map Prod.fst := List.mem_map_of_mem (mem_of_mem_present found)
    simpa using listed
  rw [fields?, others, haveReadable, Bool.not_true, Bool.and_false, if_neg Bool.false_ne_true]
  exact mapM_fields fun entry => field?_present once

end WrittenValue

/-! ## Numbers -/

/-- The float that is written for a number of the narrower format. -/
def Json.floatOf (x : Float32) : Float :=
  match x.binaryValue with
  | .finite negative significand power =>
    let decimal := Decimal.shortest .single .toEven significand power
    Float.nearestDecimal negative decimal.digits decimal.scale
  | value => Float.ofBinaryValue value

theorem Json.ofSingle_eq (x : Float32) : ofSingle x = .real (floatOf x) := by
  unfold ofSingle floatOf
  cases x.binaryValue <;> rfl

/-- What is not finite has no number for a text. -/
theorem Json.ReadsBack.isFinite {x : Float} (readsBack : ReadsBack x) : x.isFinite = true := by
  rw [Float.isFinite_iff]
  unfold ReadsBack realText Decimal.text at readsBack
  cases value : x.binaryValue with
  | finite negative significand power => exact ⟨_, _, _, rfl⟩
  | infinite negative =>
      rw [value] at readsBack
      have nothing : readNumber? (if negative then "-inf" else "inf").toList = none := by
        cases negative <;> rfl
      exact absurd (nothing.symm.trans readsBack) (by simp)
  | undefined =>
      rw [value] at readsBack
      have nothing : readNumber? "NaN".toList = none := rfl
      exact absurd (nothing.symm.trans readsBack) (by simp)

theorem Json.isWord_of_lt {n : Nat} (fits : n < longBound) : isWord n = true := by
  have least : Int64.minValue.toInt ≤ 0 := by decide
  have bound : (n : Int) < UInt64.size := Int.ofNat_lt.mpr fits
  rw [isWord, Bool.and_eq_true]
  exact ⟨decide_eq_true (Int.le_trans least (Int.natCast_nonneg n)), decide_eq_true bound⟩

/-! ### Numbers that are read back can be told -/

instance (x : Float) : (value : WrittenValue) → Decidable (value = .real x)
  | .real y => decidable_of_iff (y = x)
      ⟨congrArg WrittenValue.real, fun same => WrittenValue.real.inj same⟩
  | .null | .bool _ | .integer _ | .text _ | .array _ | .object _ | .unreadable => isFalse nofun

instance (x : Float) : (found : Option WrittenValue) → Decidable (found = some (.real x))
  | none => isFalse nofun
  | some value => decidable_of_iff (value = .real x) ⟨congrArg some, fun same => Option.some.inj same⟩

instance (x : Float) : (found : Option (WrittenValue × List Char)) → Decidable (found = some (.real x, []))
  | some (value, []) => decidable_of_iff (value = .real x)
      ⟨fun same => same ▸ rfl, fun same => (Prod.mk.inj (Option.some.inj same)).1⟩
  | none | some (_, _ :: _) => isFalse nofun

namespace ConfigFormat

/-- Whether a format reads a float back from the text it writes for it. -/
def ReadsBack : ConfigFormat → Float → Prop
  | .toml, x => Toml.ReadsBack x
  | .json, x => Json.ReadsBack x

/-- Whether a format gives a number of the narrower kind back. -/
def Keeps (format : ConfigFormat) (x : Float32) : Prop :=
  format.ReadsBack (Json.floatOf x) ∧ Float32.narrowed (Json.floatOf x) = x

instance : (format : ConfigFormat) → (x : Float) → Decidable (format.ReadsBack x)
  | .toml, x => inferInstanceAs (Decidable (Toml.scalar? (Toml.realText x).toList = some (.real x)))
  | .json, x => inferInstanceAs (Decidable (Json.readNumber? (Json.realText x).toList = some (.real x, [])))

instance (format : ConfigFormat) (x : Float32) : Decidable (format.Keeps x) :=
  inferInstanceAs (Decidable (_ ∧ _))

theorem floatOf_of_isNaN {x : Float32} (unordered : x.isNaN = true) :
    Json.floatOf x = Float.ofBinaryValue .undefined := by
  rw [Json.floatOf, (Float32.isNaN_iff x).mp unordered]

theorem isFinite_floatOf_of_isNaN {x : Float32} (unordered : x.isNaN = true) :
    (Json.floatOf x).isFinite = false := by
  rw [floatOf_of_isNaN unordered]
  decide +kernel

/-- TOML has a word for what is no number. -/
theorem keeps_of_isNaN {x : Float32} (unordered : x.isNaN = true) : toml.Keeps x := by
  have undefined : (Float32.narrowed (Float.ofBinaryValue .undefined)).isNaN = true := by decide +kernel
  have text : Toml.realText (Float.ofBinaryValue .undefined) = "nan" := if_pos (by decide +kernel)
  rw [Keeps, floatOf_of_isNaN unordered]
  refine ⟨?_, Float32.eq_of_isNaN undefined unordered⟩
  change Toml.scalar? (Toml.realText _).toList = _
  rw [text]
  rfl

/-! ## Values -/

variable {format : ConfigFormat}

/-- What the text of a value shows to the reader of a format, none if there is no text. -/
def shown? : ConfigFormat → Json → Option WrittenValue
  | .toml, value => if (Toml.valueText? value).isSome then some (ofJson value) else none
  | .json, value => some (ofJson value.shown)

/-- Whether a value has a text that can be read. -/
def Legible : ConfigFormat → Json → Prop
  | .toml, value => value = .null ∨ Toml.Legible Toml.nestingLimit value
  | .json, value => value.Legible ∧ value.height ≤ 1

variable {value : Json}

theorem shown?_of_written (written : (Toml.valueText? value).isSome = true) (same : value.shown = value) :
    format.shown? value = some (ofJson value) := by
  cases format with
  | toml => exact if_pos written
  | json => rw [shown?, same]

theorem legible_of_scalar (toml : Toml.Legible 0 value) (json : value.Legible) (scalar : value.height = 0) :
    format.Legible value := by
  cases format with
  | toml => exact .inr (toml.mono (Nat.zero_le _))
  | json => exact ⟨json, scalar ▸ Nat.zero_le _⟩

theorem shown?_text (content : String) : format.shown? (.text content) = some (.text content) := by
  rw [shown?_of_written (by simp [Toml.valueText?]) (by simp [Json.shown]), ofJson]

theorem legible_text (content : String) : format.Legible (.text content) :=
  legible_of_scalar (Toml.legible_text content) trivial rfl

theorem shown?_bool (truth : Bool) : format.shown? (.bool truth) = some (.bool truth) := by
  rw [shown?_of_written (by simp [Toml.valueText?]) (by simp [Json.shown]), ofJson]

theorem legible_bool (truth : Bool) : format.Legible (.bool truth) :=
  legible_of_scalar (Toml.legible_bool truth) trivial rfl

theorem shown?_integer (n : Int) : format.shown? (.integer n) = some (.integer n) := by
  rw [shown?_of_written (by simp [Toml.valueText?]) (by simp [Json.shown]), ofJson]

theorem legible_natural {n : Nat} (fits : n < longBound) : format.Legible (.integer n) := by
  have size : longBound = 2 ^ 64 := by decide
  have limit : (2 ^ 64 : Int) ≤ Toml.integerBound := by decide
  have least : Toml.leastInteger ≤ n := Int.le_trans (by decide) (Int.natCast_nonneg n)
  exact legible_of_scalar (Toml.legible_integer least (by omega)) (Json.isWord_of_lt fits) rfl

theorem shown?_real {x : Float} (readsBack : format.ReadsBack x) :
    format.shown? (.real x) = some (.real x) := by
  cases format with
  | toml => simp [shown?, Toml.valueText?, ofJson]
  | json => simp [shown?, Json.shown, Json.ofFloat, Json.ReadsBack.isFinite readsBack, ofJson]

theorem legible_real {x : Float} (readsBack : format.ReadsBack x) : format.Legible (.real x) := by
  cases format with
  | toml => exact .inr ((Toml.legible_real readsBack).mono (Nat.zero_le _))
  | json => exact ⟨fun _ => readsBack, Nat.zero_le _⟩

theorem shown?_single {x : Float32} (keeps : format.Keeps x) :
    format.shown? (.ofSingle x) = some (.real (Json.floatOf x)) := by
  rw [Json.ofSingle_eq, shown?_real keeps.1]

/-- JSON has nothing but null for what is no number. -/
theorem shown?_single_of_isNaN {x : Float32} (unordered : x.isNaN = true) :
    json.shown? (.ofSingle x) = some .null := by
  rw [Json.ofSingle_eq, shown?, Json.shown, Json.ofFloat, isFinite_floatOf_of_isNaN unordered,
    if_neg Bool.false_ne_true, ofJson]

/-- A number that a format gives back can be written, and so can what is no number. -/
theorem legible_single {x : Float32} (keeps : x.isNaN = false → format.Keeps x) :
    format.Legible (.ofSingle x) := by
  rw [Json.ofSingle_eq]
  cases unordered : x.isNaN with
  | false => exact legible_real (keeps unordered).1
  | true =>
      cases format with
      | toml => exact legible_real (keeps_of_isNaN unordered).1
      | json =>
          refine ⟨fun finite => ?_, Nat.zero_le _⟩
          exact absurd ((isFinite_floatOf_of_isNaN unordered).symm.trans finite) Bool.false_ne_true

theorem shown?_null : format.shown? .null = if format = .toml then none else some .null := by
  cases format with
  | toml => simp [shown?, Toml.valueText?]
  | json => simp [shown?, Json.shown, ofJson]

theorem legible_null : format.Legible .null := by
  cases format with
  | toml => exact .inl rfl
  | json => exact ⟨trivial, Nat.zero_le _⟩

theorem legible_ofOption {α : Type} {encode : α → Json} {content : Option α}
    (legible : ∀ a, content = some a → format.Legible (encode a)) :
    format.Legible (.ofOption encode content) := by
  cases content with
  | none => exact legible_null
  | some a => exact legible a rfl

theorem shown?_texts (contents : List String) :
    format.shown? (.array (contents.map .text)) = some (.array (contents.map .text)) := by
  have items : ofItems (contents.map .text) = contents.map .text := by
    rw [Json.ofItems_eq_map, List.map_map]
    exact List.map_congr_left fun content _ => by rw [Function.comp_apply, ofJson]
  have shown : Json.shownItems (contents.map .text) = contents.map .text := by
    rw [Json.shownItems_eq_map, List.map_map]
    exact List.map_congr_left fun content _ => by simp [Json.shown]
  cases format with
  | toml => simp [shown?, Toml.valueText?, ofJson, items]
  | json => simp [shown?, Json.shown, ofJson, items, shown]

theorem legible_texts (contents : List String) : format.Legible (.array (contents.map .text)) := by
  have text : ∀ item ∈ contents.map Json.text,
      Toml.Legible 0 item ∧ item.Legible ∧ item.height ≤ 0 := by
    intro item listed
    obtain ⟨content, _, rfl⟩ := List.mem_map.mp listed
    exact ⟨Toml.legible_text content, trivial, Nat.le_refl _⟩
  cases format with
  | toml => exact .inr ((Toml.legible_array fun item listed => (text item listed).1).mono (by decide))
  | json =>
      refine ⟨Json.legibleItems_iff.mpr fun item listed => (text item listed).2.1, ?_⟩
      exact Nat.succ_le_succ (Json.heightItems_le_iff.mpr fun item listed => (text item listed).2.2)

/-! ## Members and sections -/

/-- The members of an object as fields, of which those may be missing that have no text. -/
def fields (format : ConfigFormat) (members : List (String × Json)) : List (String × Option WrittenValue) :=
  members.map fun (name, value) => (name, format.shown? value)

/-- What the text of an object shows to the reader of a format. -/
def shown (format : ConfigFormat) (members : List (String × Json)) : WrittenValue :=
  .object (present (format.fields members))

theorem present_fields_toml (members : List (String × Json)) :
    present (toml.fields members) = ofMembers (Toml.shownMembers members) := by
  rw [Json.ofMembers_eq_map, Toml.shownMembers]
  induction members with
  | nil => rfl
  | cons member members inductionHypothesis =>
      obtain ⟨name, value⟩ := member
      cases written : Toml.valueText? value with
      | none =>
          have step : toml.fields ((name, value) :: members) = (name, none) :: toml.fields members := by
            simp [fields, shown?, written]
          rw [step, present_cons_none, List.filter_cons_of_neg (by simp [written]), inductionHypothesis]
      | some text =>
          have step : toml.fields ((name, value) :: members) =
              (name, some (ofJson value)) :: toml.fields members := by
            simp [fields, shown?, written]
          rw [step, present_cons_some, List.filter_cons_of_pos (by simp [written]), inductionHypothesis,
            List.map_cons]

theorem present_fields_json (members : List (String × Json)) :
    present (json.fields members) = ofMembers (Json.shownMembers members) := by
  rw [Json.ofMembers_eq_map, Json.shownMembers_eq_map, List.map_map, present, fields, List.filterMap_map]
  exact congrFun (@List.filterMap_eq_map _ _ fun member : String × Json =>
    (member.1, ofJson member.2.shown)) members

/-- Members with different keys, all of which have texts that can be read. -/
structure LegibleMembers (format : ConfigFormat) (members : List (String × Json)) : Prop where
  key : ∀ name ∈ members.map Prod.fst, Toml.IsKey name
  once : (members.map Prod.fst).Nodup
  value : ∀ member ∈ members, format.Legible member.2

theorem LegibleMembers.fields? {members : List (String × Json)} (legible : format.LegibleMembers members)
    (rules : StructureRules) :
    WrittenValue.fields? rules (members.map Prod.fst) (format.shown members) =
      some (members.map fun member => format.shown? member.2) := by
  have names : (format.fields members).map Prod.fst = members.map Prod.fst := by
    rw [fields, List.map_map]
    rfl
  have read := @fields?_present (format.fields members) (names ▸ legible.once) rules
  rw [names, fields, List.map_map] at read
  exact read

/-- Sections are read back with the fields that are shown. -/
theorem read?_write {sections : List (String × List (String × Json))}
    (key : ∀ part ∈ sections, Toml.IsKey part.1) (once : (sections.map Prod.fst).Nodup)
    (legible : ∀ part ∈ sections, format.LegibleMembers part.2) :
    format.read? (format.write (sections.map fun (name, members) => (name, .object members))) =
      some (.object (sections.map fun (name, members) => (name, format.shown members))) := by
  cases format with
  | toml =>
      have members : ∀ part ∈ sections, Toml.LegibleMembers part.2 := fun part listed =>
        ⟨fun member listed' => (legible part listed).key _ (List.mem_map_of_mem listed'),
          (legible part listed).once, (legible part listed).value⟩
      simp only [shown, present_fields_toml]
      exact Toml.read?_write key members once
  | json =>
      have parts (holds : Json → Prop) (all : ∀ part ∈ sections, holds (.object part.2)) :
          ∀ member ∈ sections.map fun (name, members) => (name, Json.object members), holds member.2 := by
        intro member listed
        obtain ⟨part, present, rfl⟩ := List.mem_map.mp listed
        exact all part present
      have readable : Json.LegibleMembers (sections.map fun (name, members) => (name, .object members)) :=
        Json.legibleMembers_iff.mpr (parts Json.Legible fun part listed =>
          Json.legibleMembers_iff.mpr fun member listed' => ((legible part listed).value member listed').1)
      have shallow : Json.heightMembers (sections.map fun (name, members) => (name, .object members)) ≤ 2 :=
        Json.heightMembers_le_iff.mpr (parts (Json.height · ≤ 2) fun part listed =>
          Nat.succ_le_succ (Json.heightMembers_le_iff.mpr fun member listed' =>
            ((legible part listed).value member listed').2))
      have read := @Json.written?_pretty (.object _) readable ((Nat.succ_le_succ shallow).trans (by decide))
      rw [Json.shown, Json.shownMembers_eq_map, ofJson, Json.ofMembers_eq_map, List.map_map,
        List.map_map] at read
      simp only [shown, present_fields_json]
      refine read.trans (congrArg (fun members => some (object members)) (List.map_congr_left ?_))
      intro part _
      simp [Json.shown, ofJson]

end ConfigFormat

end ObjectQuery
