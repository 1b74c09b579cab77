import Mathlib.Data.List.TakeWhile
import ObjectQuery.Detector.Precomputed

/-!
# The keys of a detection file

A key denotes a frame by its number in decimal digits, with blanks around it, leading zeros and perhaps a plus
sign (`Denotes`). It is read as the frame that it denotes, and as none if it denotes none
(`frameOfKey?_eq_some_iff`); two keys may denote one frame.
-/

namespace ObjectQuery

namespace Text

variable {before core after : List Char}

theorem trimmedChars_append (blankBefore : ∀ c ∈ before, isBlank c = true)
    (blankAfter : ∀ c ∈ after, isBlank c = true) (visible : ∀ c ∈ core, isBlank c = false)
    (filled : core ≠ []) : trimmedChars (before ++ (core ++ after)) = core := by
  have kept (core after : List Char) (visible : ∀ c ∈ core, isBlank c = false) (filled : core ≠ []) :
      (core ++ after).dropWhile isBlank = core ++ after := by
    cases core with
    | nil => exact absurd rfl filled
    | cons first rest => exact List.dropWhile_cons_of_neg (by simp [visible first])
  have visibleToo : ∀ c ∈ core.reverse, isBlank c = false := fun c member =>
    visible c (List.mem_reverse.mp member)
  have blankToo : ∀ c ∈ after.reverse, isBlank c = true := fun c member =>
    blankAfter c (List.mem_reverse.mp member)
  have trimmed := kept core.reverse [] visibleToo (by simpa using filled)
  rw [List.append_nil] at trimmed
  rw [trimmedChars, List.dropWhile_append_of_pos blankBefore, kept core after visible filled,
    List.reverse_append, List.dropWhile_append_of_pos blankToo, trimmed, List.reverse_reverse]

theorem exists_trimmedChars (text : List Char) : ∃ before after,
    (∀ c ∈ before, isBlank c = true) ∧ (∀ c ∈ after, isBlank c = true) ∧
      text = before ++ (trimmedChars text ++ after) := by
  refine ⟨text.takeWhile isBlank, ((text.dropWhile isBlank).reverse.takeWhile isBlank).reverse,
    fun c member => List.mem_takeWhile_imp member,
    fun c member => List.mem_takeWhile_imp (List.mem_reverse.mp member), ?_⟩
  rw [trimmedChars, ← List.reverse_append, List.takeWhile_append_dropWhile, List.reverse_reverse,
    List.takeWhile_append_dropWhile]

theorem isBlank_of_isDigit {c : Char} (digit : c.isDigit = true) : isBlank c = false := by
  obtain ⟨low, high⟩ := Bool.and_eq_true_iff.mp digit
  have low : 48 ≤ c.toNat := UInt32.le_iff_toNat_le.mp (of_decide_eq_true low)
  have high : c.toNat ≤ 57 := UInt32.le_iff_toNat_le.mp (of_decide_eq_true high)
  simp only [isBlank, blankRanges, List.any_cons, List.any_nil, Bool.or_false, Bool.or_eq_false_iff,
    Bool.and_eq_false_iff, decide_eq_false_iff_not]
  omega

end Text

/-- The digits of a number, perhaps after a plus sign. -/
def Writes (text : List Char) (n : Nat) : Prop :=
  ∃ sign digits, text = sign ++ digits ∧ (sign = [] ∨ sign = ['+']) ∧ digits ≠ [] ∧
    (∀ c ∈ digits, c.isDigit = true) ∧ digitsValue digits = n

section Writes

variable {text digits : List Char} {bound n : Nat}

theorem Writes.ne_nil (writes : Writes text n) : text ≠ [] := by
  obtain ⟨sign, digits, rfl, _, filled, _⟩ := writes
  exact List.append_ne_nil_of_right_ne_nil sign filled

theorem Writes.visible (writes : Writes text n) : ∀ c ∈ text, Text.isBlank c = false := by
  obtain ⟨sign, digits, rfl, signs, _, all, _⟩ := writes
  intro c member
  rcases List.mem_append.mp member with first | later
  · rcases signs with rfl | rfl
    · exact absurd first List.not_mem_nil
    · rw [List.mem_singleton.mp first]
      decide
  · exact Text.isBlank_of_isDigit (all c later)

/-- What is left of a text without its plus sign is read as digits. -/
theorem exists_readNatural? (bound : Nat) (text : List Char) : ∃ sign digits,
    text = sign ++ digits ∧ (sign = [] ∨ sign = ['+']) ∧
      readNatural? bound text =
        if digits.isEmpty || !digits.all Char.isDigit then none
        else if digitsValue digits < bound then some (digitsValue digits) else none := by
  unfold readNatural?
  dsimp only
  split
  · exact ⟨['+'], _, rfl, .inr rfl, rfl⟩
  · exact ⟨[], text, rfl, .inl rfl, rfl⟩

theorem readNatural?_of_digits {sign : List Char} (signs : sign = [] ∨ sign = ['+'])
    (filled : digits ≠ []) (all : ∀ c ∈ digits, c.isDigit = true) (fits : digitsValue digits < bound) :
    readNatural? bound (sign ++ digits) = some (digitsValue digits) := by
  have empty : digits.isEmpty = false := by simpa using filled
  have decimal : digits.all Char.isDigit = true := List.all_eq_true.mpr all
  have stripped : readNatural? bound (sign ++ digits) =
      if digits.isEmpty || !digits.all Char.isDigit then none
      else if digitsValue digits < bound then some (digitsValue digits) else none := by
    rcases signs with rfl | rfl
    · cases digits with
      | nil => exact absurd rfl filled
      | cons first rest =>
          have notPlus : first ≠ '+' := by
            rintro rfl
            exact absurd (all '+' List.mem_cons_self) (by decide)
          unfold readNatural?
          dsimp only [List.nil_append]
          split
          case h_1 same => exact absurd (List.cons.inj same).1 notPlus
          case h_2 => rfl
    · rfl
  rw [stripped, empty, decimal, if_neg (by decide), if_pos fits]

theorem readNatural?_eq_some_iff : readNatural? bound text = some n ↔ Writes text n ∧ n < bound := by
  constructor
  · intro read
    obtain ⟨sign, digits, parts, signs, eq⟩ := exists_readNatural? bound text
    rw [eq] at read
    split at read
    · exact absurd read (by simp)
    · rename_i wellFormed
      obtain ⟨filled, all⟩ : digits ≠ [] ∧ digits.all Char.isDigit = true := by
        simpa using wellFormed
      split at read
      · obtain rfl := Option.some.inj read
        exact ⟨⟨sign, digits, parts, signs, filled, List.all_eq_true.mp all, rfl⟩, ‹_›⟩
      · exact absurd read (by simp)
  · rintro ⟨⟨sign, digits, rfl, signs, filled, all, rfl⟩, fits⟩
    exact readNatural?_of_digits signs filled all fits

end Writes

namespace DetectionTable

/-- A key denotes a frame if it is the number of the frame with blanks around it. -/
def Denotes (key : String) (frame : Nat) : Prop :=
  (∃ before number after, key.toList = before ++ (number ++ after) ∧
    (∀ c ∈ before, Text.isBlank c = true) ∧ (∀ c ∈ after, Text.isBlank c = true) ∧
      Writes number frame) ∧ frame < frameBound

theorem frameOfKey?_eq_some_iff {key : String} {frame : Nat} :
    frameOfKey? key = some frame ↔ Denotes key frame := by
  rw [frameOfKey?, readNatural?_eq_some_iff, Denotes]
  refine and_congr_left fun _ => ⟨fun writes => ?_, ?_⟩
  · obtain ⟨before, after, blankBefore, blankAfter, parts⟩ := Text.exists_trimmedChars key.toList
    exact ⟨before, _, after, parts, blankBefore, blankAfter, writes⟩
  · rintro ⟨before, number, after, parts, blankBefore, blankAfter, writes⟩
    rwa [parts, Text.trimmedChars_append blankBefore blankAfter writes.visible writes.ne_nil]

end DetectionTable

end ObjectQuery
