import Mathlib.Data.List.Induction
import Mathlib.Data.List.TakeDrop
import Mathlib.Data.List.TakeWhile
import ObjectQuery.Json.Printer
import ObjectQuery.Json.Reader

/-!
# Numbers and text of JSON, read back

A number ends where something follows that is no part of one (`readNumber?_append`), so what is read from
its text alone is read from it wherever it stands. Integers that fit machine words are read back
(`readNumber?_integer`), and so is every text between quotes (`readContent?_quoted`).
-/

namespace ObjectQuery

/-! ## Decimal digits -/

namespace Digits

theorem toList_toString (n : Nat) : (toString n).toList = Nat.toDigits 10 n := by
  rw [Nat.toString_eq_ofList_toDigits, String.toList_ofList]

theorem isDigit_of_mem {n : Nat} {c : Char} (member : c ∈ Nat.toDigits 10 n) : c.isDigit = true :=
  Nat.isDigit_of_mem_toDigits (by decide) (by decide) member

theorem foldl_toDigits (n : Nat) :
    (Nat.toDigits 10 n).foldl (fun value digit => value * 10 + (digit.toNat - 48)) 0 = n := by
  have value := @Nat.ofDigitChars_ten_toDigits n
  rw [Nat.ofDigitChars_eq_foldl] at value
  simp only [Nat.mul_comm 10] at value
  exact value

/-- Only zero is written with a zero at its head. -/
theorem eq_nil_of_zero_cons {n : Nat} {rest : List Char} (zero : Nat.toDigits 10 n = '0' :: rest) :
    rest = [] := by
  induction n using Nat.strongRecOn generalizing rest with
  | ind n inductionHypothesis =>
      by_cases short : n < 10
      · rw [Nat.toDigits_of_lt_base short] at zero
        exact (List.cons.inj zero).2.symm
      · rw [Nat.toDigits_of_base_le (by decide) (by omega)] at zero
        cases digits : Nat.toDigits 10 (n / 10) with
        | nil => exact absurd digits Nat.toDigits_ne_nil
        | cons first more =>
            rw [digits, List.cons_append] at zero
            obtain ⟨rfl, rfl⟩ := List.cons.inj zero
            -- a number of more than one digit has a quotient, which is not zero
            have value := foldl_toDigits (n / 10)
            rw [digits, inductionHypothesis (n / 10) (by omega) digits] at value
            have zero : n / 10 = 0 := value.symm
            omega

end Digits

namespace Json

/-! ## Where a number ends -/

/-- Whether a character may stand in a number. -/
def isNumberChar (c : Char) : Bool :=
  c.isDigit || c == '.' || c == 'e' || c == 'E' || c == '+' || c == '-'

/-- Whether what follows a number is no part of it. -/
def Ends (rest : List Char) : Prop := ∀ c ∈ rest.head?, isNumberChar c = false

theorem ends_nil : Ends [] := fun c head => absurd head (by simp)

theorem ends_cons {c : Char} {rest : List Char} (mark : isNumberChar c = false) : Ends (c :: rest) :=
  fun _ head => Option.some.inj head ▸ mark

variable {source rest : List Char}

theorem spanDigits_append (ends : Ends rest) :
    spanDigits (source ++ rest) = ((spanDigits source).1, (spanDigits source).2 ++ rest) := by
  unfold spanDigits
  simp only [List.span_eq_takeWhile_dropWhile]
  induction source with
  | nil =>
      cases rest with
      | nil => rfl
      | cons c rest =>
          have stop : c.isDigit = false := by
            have mark := ends c rfl
            simp only [isNumberChar, Bool.or_eq_false_iff] at mark
            exact mark.1.1.1.1.1
          simp [stop]
  | cons c source inductionHypothesis =>
      have later := Prod.mk.inj inductionHypothesis
      by_cases digit : c.isDigit = true
      · simp [digit, later]
      · simp [digit]

/-- What is read of a number and what is left, when more follows. -/
def followed {β : Type} (rest : List Char) (found : Option (β × List Char)) : Option (β × List Char) :=
  found.map fun (part, left) => (part, left ++ rest)

theorem Ends.isDigit_head (ends : Ends rest) : (rest.head?.map Char.isDigit).getD false = false := by
  cases rest with
  | nil => rfl
  | cons c rest =>
      have mark := ends c rfl
      simp only [isNumberChar, Bool.or_eq_false_iff] at mark
      exact mark.1.1.1.1.1

/-- The digits at the head of a text, of which there has to be one. -/
def someDigits? (source : List Char) : Option (List Char × List Char) :=
  let (digits, rest) := spanDigits source
  if digits.isEmpty then none else some (digits, rest)

theorem someDigits?_append (ends : Ends rest) :
    someDigits? (source ++ rest) = followed rest (someDigits? source) := by
  unfold someDigits?
  rw [spanDigits_append ends]
  dsimp only
  split <;> rfl

theorem wholePart?_of_zero (source : List Char) : wholePart? ('0' :: source) =
    if (source.head?.map Char.isDigit).getD false then none else some (['0'], source) := rfl

theorem wholePart?_of_ne (notZero : source.head? ≠ some '0') : wholePart? source = someDigits? source := by
  unfold wholePart?
  split
  · exact absurd rfl notZero
  · rfl

theorem wholePart?_append (ends : Ends rest) :
    wholePart? (source ++ rest) = followed rest (wholePart? source) := by
  by_cases zero : source.head? = some '0'
  · obtain ⟨source, rfl⟩ := List.head?_eq_some_iff.mp zero
    have stop : ((source ++ rest).head?.map Char.isDigit).getD false =
        (source.head?.map Char.isDigit).getD false := by
      cases source with
      | cons c source => rfl
      | nil => exact ends.isDigit_head
    rw [List.cons_append, wholePart?_of_zero, wholePart?_of_zero, stop]
    split <;> rfl
  · have notZero : (source ++ rest).head? ≠ some '0' := by
      cases source with
      | cons c source => exact zero
      | nil =>
          intro head
          have mark := ends '0' head
          exact absurd mark (by decide)
    rw [wholePart?_of_ne zero, wholePart?_of_ne notZero, someDigits?_append ends]

theorem fractionPart?_of_point (source : List Char) : fractionPart? ('.' :: source) =
    (someDigits? source).map fun (digits, rest) => (some digits, rest) := by
  rw [fractionPart?, someDigits?]
  dsimp only
  split <;> rfl

theorem fractionPart?_of_ne (pointless : source.head? ≠ some '.') :
    fractionPart? source = some (none, source) := by
  unfold fractionPart?
  split
  · exact absurd rfl pointless
  · rfl

theorem fractionPart?_append (ends : Ends rest) :
    fractionPart? (source ++ rest) = followed rest (fractionPart? source) := by
  by_cases point : source.head? = some '.'
  · obtain ⟨source, rfl⟩ := List.head?_eq_some_iff.mp point
    rw [List.cons_append, fractionPart?_of_point, fractionPart?_of_point, someDigits?_append ends]
    cases someDigits? source <;> rfl
  · have pointless : (source ++ rest).head? ≠ some '.' := by
      cases source with
      | cons c source => exact point
      | nil => exact fun head => absurd (ends '.' head) (by decide)
    rw [fractionPart?_of_ne point, fractionPart?_of_ne pointless]
    rfl

/-- The sign of an exponent, and what follows it. -/
def signOf (source : List Char) : Bool × List Char :=
  match source with
  | '+' :: rest => (false, rest)
  | '-' :: rest => (true, rest)
  | rest => (false, rest)

theorem signOf_append (ends : Ends rest) :
    signOf (source ++ rest) = ((signOf source).1, (signOf source).2 ++ rest) := by
  have unsigned {source : List Char} (plus : source.head? ≠ some '+') (minus : source.head? ≠ some '-') :
      signOf source = (false, source) := by
    unfold signOf
    split
    · exact absurd rfl plus
    · exact absurd rfl minus
    · rfl
  cases source with
  | nil =>
      exact unsigned (fun head => absurd (ends '+' head) (by decide))
        fun head => absurd (ends '-' head) (by decide)
  | cons c source =>
      by_cases plus : c = '+'
      · subst plus
        rfl
      · by_cases minus : c = '-'
        · subst minus
          rfl
        · have apart : (c :: source).head? ≠ some '+' ∧ (c :: source).head? ≠ some '-' := by
            simp [plus, minus]
          rw [unsigned apart.1 apart.2, List.cons_append]
          exact unsigned apart.1 apart.2

theorem exponentPart?_of_mark (mark : source.head? = some 'e' ∨ source.head? = some 'E') :
    exponentPart? source = (someDigits? (signOf source.tail).2).map
      fun (digits, rest) => (some ((signOf source.tail).1, digits), rest) := by
  rw [exponentPart?, if_pos mark, someDigits?]
  change (if (spanDigits (signOf source.tail).2).1.isEmpty then none
    else some (some ((signOf source.tail).1, (spanDigits (signOf source.tail).2).1),
      (spanDigits (signOf source.tail).2).2)) = _
  dsimp only
  split <;> rfl

theorem exponentPart?_append (ends : Ends rest) :
    exponentPart? (source ++ rest) = followed rest (exponentPart? source) := by
  have same : (source ++ rest).head? = some 'e' ∨ (source ++ rest).head? = some 'E' ↔
      source.head? = some 'e' ∨ source.head? = some 'E' := by
    cases source with
    | cons c source => exact Iff.rfl
    | nil =>
        refine iff_of_false ?_ (by simp)
        rintro (head | head) <;> exact absurd (ends _ head) (by decide)
  by_cases mark : source.head? = some 'e' ∨ source.head? = some 'E'
  · have tail : (source ++ rest).tail = source.tail ++ rest := by
      cases source with
      | cons c source => rfl
      | nil => exact absurd mark (by simp)
    rw [exponentPart?_of_mark mark, exponentPart?_of_mark (same.mpr mark), tail, signOf_append ends,
      someDigits?_append ends]
    cases someDigits? (signOf source.tail).2 <;> rfl
  · rw [exponentPart?, exponentPart?, if_neg mark, if_neg (same.not.mpr mark)]
    rfl

theorem readUnsigned?_append (ends : Ends rest) (negative : Bool) :
    readUnsigned? negative (source ++ rest) = followed rest (readUnsigned? negative source) := by
  unfold readUnsigned?
  rw [wholePart?_append ends]
  cases wholePart? source with
  | none => rfl
  | some whole =>
      dsimp only [followed, Option.map_some, Option.bind_eq_bind, Option.bind_some]
      rw [fractionPart?_append ends]
      cases fractionPart? whole.2 with
      | none => rfl
      | some fraction =>
          dsimp only [followed, Option.map_some, Option.bind_some]
          rw [exponentPart?_append ends]
          cases exponentPart? fraction.2 <;> rfl

theorem readNumber?_of_ne (unsigned : source.head? ≠ some '-') :
    readNumber? source = readUnsigned? false source := by
  unfold readNumber?
  split
  · exact absurd rfl unsigned
  · rfl

/-- What follows a number makes no difference to it. -/
theorem readNumber?_append (ends : Ends rest) :
    readNumber? (source ++ rest) = followed rest (readNumber? source) := by
  by_cases minus : source.head? = some '-'
  · obtain ⟨source, rfl⟩ := List.head?_eq_some_iff.mp minus
    exact readUnsigned?_append ends true
  · have unsigned : (source ++ rest).head? ≠ some '-' := by
      cases source with
      | cons c source => exact minus
      | nil => exact fun head => absurd (ends '-' head) (by decide)
    rw [readNumber?_of_ne minus, readNumber?_of_ne unsigned, readUnsigned?_append ends]

/-- A number begins with its sign or a digit. -/
theorem head_of_readNumber? {found : WrittenValue × List Char} (read : readNumber? source = some found) :
    ∃ c more, source = c :: more ∧ (c = '-' ∨ c.isDigit = true) := by
  cases source with
  | nil =>
      have nothing : readNumber? [] = none := rfl
      exact absurd (nothing.symm.trans read) (by simp)
  | cons c more =>
      refine ⟨c, more, rfl, ?_⟩
      by_cases minus : c = '-'
      · exact .inl minus
      · right
        by_contra other
        have notZero : (c :: more).head? ≠ some '0' := by
          rintro ⟨⟩
          exact other (by decide)
        have nothing : someDigits? (c :: more) = none := by
          simp [someDigits?, spanDigits, List.span_eq_takeWhile_dropWhile, other]
        rw [readNumber?_of_ne (by simpa using minus), readUnsigned?, wholePart?_of_ne notZero,
          nothing] at read
        exact absurd read (by simp)

/-! ## Integers -/

theorem le_foldl_digits (digits : List Char) (start : Nat) :
    start ≤ digits.foldl (fun value digit => value * 10 + (digit.toNat - 48)) start := by
  induction digits generalizing start with
  | nil => exact Nat.le_refl start
  | cons c digits inductionHypothesis =>
      have later := inductionHypothesis (start * 10 + (c.toNat - 48))
      rw [List.foldl_cons]
      omega

theorem takeDigits_of_lt {digits : List Char} {start : Nat}
    (fits : digits.foldl (fun value digit => value * 10 + (digit.toNat - 48)) start < significandLimit) :
    takeDigits start digits =
      (digits.foldl (fun value digit => value * 10 + (digit.toNat - 48)) start, digits.length, 0) := by
  induction digits generalizing start with
  | nil => rfl
  | cons c digits inductionHypothesis =>
      have below := Nat.lt_of_le_of_lt (le_foldl_digits digits (start * 10 + (c.toNat - 48))) fits
      rw [takeDigits]
      dsimp only
      rw [if_pos below, inductionHypothesis fits]
      rfl

theorem wholePart?_toDigits (n : Nat) :
    wholePart? (Nat.toDigits 10 n) = some (Nat.toDigits 10 n, []) := by
  by_cases zero : (Nat.toDigits 10 n).head? = some '0'
  · obtain ⟨rest, written⟩ := List.head?_eq_some_iff.mp zero
    obtain rfl := Digits.eq_nil_of_zero_cons written
    rw [written]
    rfl
  · have all : ∀ c ∈ Nat.toDigits 10 n, c.isDigit = true := fun c => Digits.isDigit_of_mem
    rw [wholePart?_of_ne zero, someDigits?, spanDigits, List.span_eq_takeWhile_dropWhile,
      List.takeWhile_eq_self_iff.mpr all, List.dropWhile_eq_nil_iff.mpr all]
    simp

theorem number_toDigits {n : Nat} (fits : n < significandLimit) (negative : Bool) :
    number negative (Nat.toDigits 10 n) none none =
      if !negative then .integer n
      else if n = 0 ∨ (n : Int) > -Int64.minValue.toInt then .real (-(Float.nearestInt n))
      else .integer (-n) := by
  have value := Digits.foldl_toDigits n
  have taken := @takeDigits_of_lt (Nat.toDigits 10 n) 0 (value.symm ▸ fits)
  rw [value] at taken
  unfold number
  rw [taken]
  rfl

theorem readUnsigned?_toDigits (n : Nat) (negative : Bool) :
    readUnsigned? negative (Nat.toDigits 10 n) =
      some (number negative (Nat.toDigits 10 n) none none, []) := by
  rw [readUnsigned?, wholePart?_toDigits]
  rfl

/-- An integer that fits a machine word is read back. -/
theorem readNumber?_integer {n : Int} (word : isWord n = true) :
    readNumber? (toString n).toList = some (.integer n, []) := by
  simp only [isWord, Bool.and_eq_true, decide_eq_true_eq] at word
  cases n with
  | ofNat n =>
      have text : (toString (Int.ofNat n)).toList = Nat.toDigits 10 n := Digits.toList_toString n
      have unsigned : (Nat.toDigits 10 n).head? ≠ some '-' := fun head =>
        absurd (Digits.isDigit_of_mem (List.mem_of_mem_head? head)) (by decide)
      have fits : n < significandLimit := Int.ofNat_lt.mp word.2
      rw [text, readNumber?_of_ne unsigned, readUnsigned?_toDigits, number_toDigits fits]
      rfl
  | negSucc n =>
      have text : (toString (Int.negSucc n)).toList = '-' :: Nat.toDigits 10 (n + 1) := by
        change ("-" ++ toString (n + 1)).toList = _
        rw [String.toList_append, Digits.toList_toString]
        rfl
      have least : Int64.minValue.toInt = -(2 ^ 63) := by decide
      have size : significandLimit = 2 ^ 64 := by decide
      have small : n + 1 ≤ 2 ^ 63 := by omega
      have fits : n + 1 < significandLimit := by omega
      rw [text, readNumber?, readUnsigned?_toDigits, number_toDigits fits, if_neg (by decide),
        if_neg (by omega)]
      rfl

/-! ## Text -/

theorem hexUnit?_hexByte : ∀ n < 0x20,
    ∃ high low, hexByte n = [high, low] ∧ hexUnit? '0' '0' high low = some n := by
  intro n small
  refine ⟨_, _, rfl, ?_⟩
  revert n
  decide

/-- A character is read back from its escape. -/
theorem readUnits?_escapedChar (c : Char) (units : List Nat) (rest : List Char) :
    readUnits? units (escapedChar c ++ rest) = readUnits? (c.toNat :: units) rest := by
  unfold escapedChar
  split
  · subst c
    rfl
  split
  · subst c
    rfl
  split
  · subst c
    rfl
  split
  · subst c
    rfl
  split
  · subst c
    rfl
  split
  · subst c
    rfl
  split
  · subst c
    rfl
  rename_i notQuote notBackslash _ _ _ _ _
  split
  · rename_i control
    obtain ⟨high, low, byte, unit⟩ := hexUnit?_hexByte c.toNat control
    rw [byte]
    change (hexUnit? '0' '0' high low >>= fun unit => readUnits? (unit :: units) rest) = _
    rw [unit]
    rfl
  · rename_i plain
    rw [List.singleton_append]
    conv_lhs => unfold readUnits?
    split
    · exact absurd ‹_› (List.cons_ne_nil c rest)
    · exact absurd (List.cons.inj ‹_›).1 notQuote
    · exact absurd (List.cons.inj ‹_›).1 notBackslash
    · exact absurd (List.cons.inj ‹_›).1 notBackslash
    · obtain ⟨rfl, rfl⟩ := List.cons.inj ‹_›
      exact if_neg (not_or.mpr ⟨plain, notBackslash⟩)

theorem readUnits?_content (content : List Char) (units : List Nat) (rest : List Char) :
    readUnits? units (content.flatMap escapedChar ++ '"' :: rest) =
      some ((content.map Char.toNat).reverse ++ units, rest) := by
  induction content generalizing units with
  | nil => rfl
  | cons c content inductionHypothesis =>
      rw [List.flatMap_cons, List.append_assoc, readUnits?_escapedChar, inductionHypothesis]
      simp

/-- No character is half of another one. -/
theorem not_half (c : Char) : (isFirstHalf c.toNat || isSecondHalf c.toNat) = false := by
  have valid := c.valid
  simp only [isFirstHalf, isSecondHalf, Bool.or_eq_false_iff, Bool.and_eq_false_iff, decide_eq_false_iff_not]
  simp only [UInt32.isValidChar, Nat.isValidChar] at valid
  change c.toNat < _ ∨ _ < c.toNat ∧ c.toNat < _ at valid
  omega

theorem joined?_units (before content : List Char) :
    joined? content (before.map Char.toNat).reverse = some (before ++ content) := by
  induction before using List.reverseRecOn generalizing content with
  | nil => rfl
  | append_singleton before c inductionHypothesis =>
      have whole := not_half c
      obtain ⟨notFirst, notSecond⟩ := Bool.or_eq_false_iff.mp whole
      have next := inductionHypothesis (c :: content)
      rw [List.map_append, List.map_singleton, List.reverse_append, List.reverse_singleton,
        List.singleton_append, List.append_assoc, List.singleton_append, ← next]
      cases units : (before.map Char.toNat).reverse with
      | nil => simp [joined?, whole, Char.ofNat_toNat]
      | cons unit units => simp [joined?, notFirst, notSecond, Char.ofNat_toNat]

/-- Text is read back from between its quotes. -/
theorem readContent?_quoted (content : String) (rest : List Char) :
    readContent? (content.toList.flatMap escapedChar ++ '"' :: rest) = some (some content, rest) := by
  have units := joined?_units content.toList []
  rw [List.append_nil] at units
  rw [readContent?, readUnits?_content, List.append_nil, Option.map_some]
  dsimp only
  rw [units, Option.map_some, String.ofList_toList]

theorem toList_quotedText (content : String) :
    (quotedText content).toList = '"' :: (content.toList.flatMap escapedChar ++ ['"']) := by
  rw [quotedText, String.toList_ofList, List.cons_append]

end Json

end ObjectQuery
