import Mathlib.Data.List.Basic
import ObjectQuery.Proofs.Json.Words
import ObjectQuery.Toml.Printer

/-!
# Words and text of TOML, read back

Text is read back from between its quotes (`quoted?_quotedText`). The words for the truth values, for
integers within the bounds and for the undefined number are read as what they stand for, and all that is
written of a float is one word (`isWordChar_of_mem_realText`).
-/

namespace ObjectQuery

/-! ## The characters of a number -/

namespace Decimal

open Json (isNumberChar)

theorem isNumberChar_of_isDigit {c : Char} (digit : c.isDigit = true) : isNumberChar c = true := by
  simp [isNumberChar, digit]

theorem isNumberChar_digitText (decimal : Decimal) :
    ∀ c ∈ decimal.digitText.toList, isNumberChar c = true := by
  intro c member
  rw [digitText, Digits.toList_toString] at member
  exact isNumberChar_of_isDigit (Digits.isDigit_of_mem member)

theorem isNumberChar_zeros (count : Int) : ∀ c ∈ (zeros count).toList, isNumberChar c = true := by
  intro c member
  rw [zeros, String.toList_ofList] at member
  obtain rfl := (List.mem_replicate.mp member).2
  rfl

theorem isNumberChar_toString (n : Int) : ∀ c ∈ (toString n).toList, isNumberChar c = true := by
  intro c member
  cases n with
  | ofNat n =>
      change c ∈ (toString n).toList at member
      rw [Digits.toList_toString] at member
      exact isNumberChar_of_isDigit (Digits.isDigit_of_mem member)
  | negSucc n =>
      change c ∈ ("-" ++ toString (n + 1)).toList at member
      rw [String.toList_append, Digits.toList_toString, List.mem_append] at member
      rcases member with sign | member
      · obtain rfl := List.mem_singleton.mp sign
        rfl
      · exact isNumberChar_of_isDigit (Digits.isDigit_of_mem member)

theorem isNumberChar_literal {text : String} (all : text.toList.all isNumberChar = true) :
    ∀ c ∈ text.toList, isNumberChar c = true :=
  List.all_eq_true.mp all

theorem isNumberChar_append {first second : String} (before : ∀ c ∈ first.toList, isNumberChar c = true)
    (after : ∀ c ∈ second.toList, isNumberChar c = true) :
    ∀ c ∈ (first ++ second).toList, isNumberChar c = true := by
  intro c member
  rw [String.toList_append, List.mem_append] at member
  exact member.elim (before c) (after c)

theorem isNumberChar_take (decimal : Decimal) (count : Nat) :
    ∀ c ∈ (decimal.digitText.take count).toString.toList, isNumberChar c = true := by
  intro c member
  change c ∈ (decimal.digitText.take count).copy.toList at member
  rw [String.toList_copy_take] at member
  exact isNumberChar_digitText decimal c (List.mem_of_mem_take member)

theorem isNumberChar_drop (decimal : Decimal) (count : Nat) :
    ∀ c ∈ (decimal.digitText.drop count).toString.toList, isNumberChar c = true := by
  intro c member
  change c ∈ (decimal.digitText.drop count).copy.toList at member
  rw [String.toList_copy_drop] at member
  exact isNumberChar_digitText decimal c (List.mem_of_mem_drop member)

theorem isNumberChar_positionalText (keepsPoint : Bool) (decimal : Decimal) :
    ∀ c ∈ (positionalText keepsPoint decimal).toList, isNumberChar c = true := by
  have digits := isNumberChar_digitText decimal
  unfold positionalText
  dsimp only
  split
  · refine isNumberChar_append (isNumberChar_append digits (isNumberChar_zeros _)) ?_
    cases keepsPoint <;> exact isNumberChar_literal rfl
  · split
    · exact isNumberChar_append (isNumberChar_append (isNumberChar_take decimal _) (isNumberChar_literal rfl))
        (isNumberChar_drop decimal _)
    · exact isNumberChar_append (isNumberChar_append (isNumberChar_literal rfl) (isNumberChar_zeros _)) digits

theorem isNumberChar_exponentText (signsExponent : Bool) (decimal : Decimal) :
    ∀ c ∈ (exponentText signsExponent decimal).toList, isNumberChar c = true := by
  have rest := isNumberChar_drop decimal 1
  have fraction : ∀ c ∈ (if (decimal.digitText.drop 1).toString = "" then ""
      else "." ++ (decimal.digitText.drop 1).toString).toList, isNumberChar c = true := by
    split
    · exact isNumberChar_literal rfl
    · exact isNumberChar_append (isNumberChar_literal rfl) rest
  have sign (positive : Bool) :
      ∀ c ∈ (if positive then "+" else "").toList, isNumberChar c = true := by
    cases positive <;> exact isNumberChar_literal rfl
  exact isNumberChar_append (isNumberChar_append (isNumberChar_append
    (isNumberChar_append (isNumberChar_take decimal 1) fraction) (isNumberChar_literal rfl)) (sign _))
      (isNumberChar_toString _)

/-- However digits are laid out, nothing but a number is written. -/
theorem isNumberChar_layout (style : Style) (decimal : Decimal) :
    ∀ c ∈ (layout style decimal).toList, isNumberChar c = true := by
  unfold layout
  split
  · exact isNumberChar_positionalText _ _
  · split
    · exact isNumberChar_positionalText _ _
    · exact isNumberChar_exponentText _ _

end Decimal

namespace Toml

/-! ## Words -/

theorem isWordChar_of_isNumberChar {c : Char} (number : Json.isNumberChar c = true) :
    isWordChar c = true := by
  simp only [Json.isNumberChar, Bool.or_eq_true, beq_iff_eq] at number
  rcases number with ((((digit | rfl) | rfl) | rfl) | rfl) | rfl
  · simp [isWordChar, Char.isAlphanum, digit]
  all_goals rfl

theorem isWordChar_literal {text : String} (all : text.toList.all isWordChar = true) {c : Char}
    (member : c ∈ text.toList) : isWordChar c = true :=
  List.all_eq_true.mp all c member

/-- A float is written as one word. -/
theorem isWordChar_of_mem_realText {x : Float} {c : Char} (member : c ∈ (realText x).toList) :
    isWordChar c = true := by
  have signed (negative : Bool) (decimal : Decimal) :
      ∀ c ∈ ((if negative then "-" else "") ++ Decimal.layout Json.numberStyle decimal).toList,
        isWordChar c = true := by
    have sign : ∀ c ∈ (if negative then "-" else "").toList, Json.isNumberChar c = true := by
      cases negative <;> exact Decimal.isNumberChar_literal rfl
    exact fun c member => isWordChar_of_isNumberChar
      (Decimal.isNumberChar_append sign (Decimal.isNumberChar_layout _ _) c member)
  revert c
  unfold realText
  split
  · exact isWordChar_literal rfl
  · unfold Json.realText Decimal.text
    split
    · exact fun {c} => signed _ _ c
    · rename_i negative _
      cases negative <;> exact isWordChar_literal rfl
    · exact isWordChar_literal rfl

/-- Whether what follows a value ends it: a comma, a closing bracket, or the end of the line. -/
def Ends (rest : List Char) : Prop := ∀ c ∈ rest.head?, c = ',' ∨ c = ']' ∨ c = '\n'

theorem Ends.isWordChar_head {rest : List Char} (ends : Ends rest) {c : Char} {more : List Char}
    (same : rest = c :: more) : isWordChar c = false ∧ c ≠ ' ' ∧ c ≠ '"' := by
  rcases ends c (by rw [same]; rfl) with rfl | rfl | rfl <;> decide

theorem takeWord_append {word rest : List Char} (all : ∀ c ∈ word, isWordChar c = true)
    (ends : Ends rest) : takeWord (word ++ rest) = (word, rest) := by
  have cut : (word ++ rest).span isWordChar = (word, rest) := by
    rw [List.span_eq_takeWhile_dropWhile, List.takeWhile_append_of_pos all,
      List.dropWhile_append_of_pos all]
    cases rest with
    | nil => simp
    | cons c more => simp [(ends.isWordChar_head rfl).1]
  unfold takeWord
  rw [cut]
  split
  · exact absurd rfl (ends.isWordChar_head (Prod.mk.inj ‹_›).2).2.1
  · rfl

theorem value?_of_isWordChar {c : Char} (wordChar : isWordChar c = true) (fuel depth : Nat)
    (source : List Char) : value? (fuel + 1) depth (c :: source) =
      (scalar? (takeWord (c :: source)).1).map fun content => (content, (takeWord (c :: source)).2) := by
  have other {mark : Char} (noWord : isWordChar mark = false) : c ≠ mark := by
    rintro rfl
    exact absurd (noWord.symm.trans wordChar) (by decide)
  rw [value?]
  all_goals
    rintro _ ⟨⟩
    exact other (by decide) rfl

/-- A word at the head of a text is read as what it stands for. -/
theorem value?_word {word rest : List Char} {value : WrittenValue} (read : scalar? word = some value)
    (all : ∀ c ∈ word, isWordChar c = true) (ends : Ends rest) {fuel : Nat} (enough : 0 < fuel)
    (depth : Nat) : value? fuel depth (word ++ rest) = some (value, rest) := by
  obtain ⟨fuel, rfl⟩ := Nat.exists_eq_succ_of_ne_zero (Nat.ne_of_gt enough)
  have taken := takeWord_append all ends
  cases word with
  | nil =>
      have nothing : scalar? [] = none := rfl
      exact absurd (nothing.symm.trans read) (by simp)
  | cons c word =>
      rw [List.cons_append] at taken
      rw [List.cons_append, value?_of_isWordChar (all c List.mem_cons_self), taken]
      dsimp only
      rw [read]
      rfl

/-! ## Integers -/

theorem ungrouped?_of_all {isDigit : Char → Bool} {run : List Char} (some : run ≠ [])
    (all : ∀ c ∈ run, isDigit c = true) (plain : '_' ∉ run) : ungrouped? isDigit run = .some run := by
  induction run with
  | nil => exact absurd rfl some
  | cons c run inductionHypothesis =>
      cases run with
      | nil => simp [ungrouped?, all c List.mem_cons_self]
      | cons next run =>
          have later := inductionHypothesis (List.cons_ne_nil _ _)
            (fun d member => all d (List.mem_cons_of_mem _ member))
            fun member => plain (List.mem_cons_of_mem _ member)
          have digit := all c List.mem_cons_self
          have notGroup : next ≠ '_' := by
            rintro rfl
            exact plain (by simp)
          rw [ungrouped?]
          · rw [if_pos digit, later]
            rfl
          · simp
          · rintro _ ⟨⟩
            exact notGroup rfl

theorem wholeDigits?_toDigits (n : Nat) :
    wholeDigits? (Nat.toDigits 10 n) = some (Nat.toDigits 10 n) := by
  have plain : '_' ∉ Nat.toDigits 10 n := fun member =>
    absurd (Digits.isDigit_of_mem member) (by decide)
  unfold wholeDigits?
  rw [ungrouped?_of_all Nat.toDigits_ne_nil (fun c => Digits.isDigit_of_mem) plain]
  split
  · have zero := Option.some.inj ‹_›
    exact absurd (Digits.eq_nil_of_zero_cons zero) (List.cons_ne_nil _ _)
  · rfl

theorem valueOf_toDigits (n : Nat) : valueOf 10 (Nat.toDigits 10 n) = n := by
  have value (digits : List Char) (all : ∀ c ∈ digits, c.isDigit = true) (start : Nat) :
      digits.foldl (fun value digit => value * 10 + digitValue digit) start =
        digits.foldl (fun value digit => value * 10 + (digit.toNat - 48)) start :=
    List.foldl_ext _ _ start fun value c member => by
      rw [digitValue, if_pos (all c member)]
      rfl
  rw [valueOf, value _ fun c => Digits.isDigit_of_mem]
  exact Digits.foldl_toDigits n

theorem signed_of_isDigit {run : List Char} (all : ∀ c ∈ run, c.isDigit = true) :
    signed run = (false, run) := by
  cases run with
  | nil => rfl
  | cons c run =>
      have digit := all c List.mem_cons_self
      unfold signed
      split
      · obtain rfl := (List.cons.inj ‹_›).1
        exact absurd digit (by decide)
      · obtain rfl := (List.cons.inj ‹_›).1
        exact absurd digit (by decide)
      · rfl

/-- Decimal digits bear no base mark. -/
theorem magnitude?_of_isDigit {word : List Char} (all : ∀ c ∈ (signed word).2, c.isDigit = true) :
    magnitude? word = (wholeDigits? (signed word).2).map fun digits =>
      if (signed word).1 then -(valueOf 10 digits : Int) else valueOf 10 digits := by
  have marked {mark : Char} {run : List Char} (noDigit : mark.isDigit = false)
      (same : word = '0' :: mark :: run) : False := by
    subst same
    exact absurd (noDigit.symm.trans (all mark (by simp [signed]))) (by decide)
  unfold magnitude?
  split
  · exact (marked (by decide) rfl).elim
  · exact (marked (by decide) rfl).elim
  · exact (marked (by decide) rfl).elim
  · rfl

theorem magnitude?_toString (n : Int) : magnitude? (toString n).toList = some n := by
  have digits (n : Nat) : ∀ c ∈ Nat.toDigits 10 n, c.isDigit = true := fun c => Digits.isDigit_of_mem
  cases n with
  | ofNat n =>
      have text : (toString (Int.ofNat n)).toList = Nat.toDigits 10 n := Digits.toList_toString n
      have unsigned := signed_of_isDigit (digits n)
      rw [text, magnitude?_of_isDigit (by rw [unsigned]; exact digits n), unsigned, wholeDigits?_toDigits]
      exact congrArg (fun value : Nat => some (value : Int)) (valueOf_toDigits n)
  | negSucc n =>
      have text : (toString (Int.negSucc n)).toList = '-' :: Nat.toDigits 10 (n + 1) := by
        change ("-" ++ toString (n + 1)).toList = _
        rw [String.toList_append, Digits.toList_toString]
        rfl
      rw [text, @magnitude?_of_isDigit ('-' :: Nat.toDigits 10 (n + 1)) (digits (n + 1))]
      change (wholeDigits? (Nat.toDigits 10 (n + 1))).map _ = _
      rw [wholeDigits?_toDigits]
      exact congrArg (fun value : Nat => some (-(value : Int))) (valueOf_toDigits (n + 1))

/-- An integer within the bounds is read back. -/
theorem scalar?_integer {n : Int} (least : leastInteger ≤ n) (bound : n < integerBound) :
    scalar? (toString n).toList = some (.integer n) := by
  have number := Decimal.isNumberChar_toString n
  have noWord {word : List Char} (letter : ∃ c ∈ word, Json.isNumberChar c = false) :
      (toString n).toList ≠ word := by
    rintro rfl
    obtain ⟨c, member, other⟩ := letter
    exact absurd (other.symm.trans (number c member)) (by decide)
  rw [scalar?, if_neg (noWord ⟨'t', by decide⟩), if_neg (noWord ⟨'f', by decide⟩), integer?,
    magnitude?_toString, Option.map_some, if_pos ⟨least, bound⟩]

/-! ## Text -/

theorem basic?_closed (rest : List Char) : basic? ('"' :: rest) = some ([], rest) := by
  rw [basic?]

theorem basic?_escaped {source rest : List Char} {c : Char} (found : escape? source = some (c, rest)) :
    basic? ('\\' :: source) = (basic? rest).map fun (content, rest) => (c :: content, rest) := by
  rw [basic?]
  split
  · rename_i other
    obtain ⟨rfl, rfl⟩ := Prod.mk.inj (Option.some.inj (other.symm.trans found))
    rfl
  · rename_i nothing
    exact absurd (nothing.symm.trans found) (by simp)

theorem basic?_plain {c : Char} (plain : isPlain c = true) (notQuote : c ≠ '"') (notBackslash : c ≠ '\\')
    (rest : List Char) :
    basic? (c :: rest) = (basic? rest).map fun (content, rest) => (c :: content, rest) := by
  rw [basic?]
  · rw [if_pos plain]
  · exact notQuote
  · exact notBackslash

/-- What is escaped by its number is among the first characters. -/
theorem toNat_of_not_isPlain {c : Char} (control : ¬ isPlain c = true) : c.toNat < 128 := by
  simp only [isPlain, Bool.or_eq_true, Bool.and_eq_true, decide_eq_true_eq, bne_iff_ne, not_or] at control
  omega

theorem hexChar?_hexByte : ∀ n < 128, hexChar? ('0' :: '0' :: Json.hexByte n) = some (Char.ofNat n) := by
  decide

theorem escape?_hexByte {c : Char} (control : ¬ isPlain c = true) (rest : List Char) :
    escape? ('u' :: '0' :: '0' :: (Json.hexByte c.toNat ++ rest)) = some (c, rest) := by
  have digits := hexChar?_hexByte c.toNat (toNat_of_not_isPlain control)
  rw [Char.ofNat_toNat] at digits
  have enough : ¬ ('0' :: '0' :: (Json.hexByte c.toNat ++ rest)).length < 4 := by
    simp [Json.hexByte]
  have step : escape? ('u' :: '0' :: '0' :: (Json.hexByte c.toNat ++ rest)) =
      if ('0' :: '0' :: (Json.hexByte c.toNat ++ rest)).length < 4 then none
      else (hexChar? ('0' :: '0' :: Json.hexByte c.toNat)).map fun c => (c, rest) := rfl
  rw [step, if_neg enough, digits, Option.map_some]

/-- A character is read back from its escape. -/
theorem basic?_escapedChar (c : Char) (rest : List Char) :
    basic? (escapedChar c ++ rest) = (basic? rest).map fun (content, rest) => (c :: content, rest) := by
  unfold escapedChar
  split
  · subst c
    exact basic?_escaped rfl
  split
  · subst c
    exact basic?_escaped rfl
  rename_i notQuote notBackslash
  split
  · exact basic?_plain ‹_› notQuote notBackslash rest
  · exact basic?_escaped (escape?_hexByte ‹_› rest)

theorem basic?_content (content rest : List Char) :
    basic? (content.flatMap escapedChar ++ '"' :: rest) = some (content, rest) := by
  induction content with
  | nil => exact basic?_closed rest
  | cons c content inductionHypothesis =>
      rw [List.flatMap_cons, List.append_assoc, basic?_escapedChar, inductionHypothesis]
      rfl

theorem toList_quotedText (content : String) :
    (quotedText content).toList = '"' :: (content.toList.flatMap escapedChar ++ ['"']) := by
  rw [quotedText, String.toList_ofList, List.cons_append]

/-- No escape begins with a quote. -/
theorem head_escapedChar (c : Char) : ∃ first more, escapedChar c = first :: more ∧ first ≠ '"' := by
  unfold escapedChar
  split
  · exact ⟨_, _, rfl, by decide⟩
  split
  · exact ⟨_, _, rfl, by decide⟩
  split
  · exact ⟨_, _, rfl, ‹_›⟩
  · exact ⟨_, _, rfl, by decide⟩

/-- Text is read back from between its quotes, where no quote follows them. -/
theorem quoted?_quotedText (content : String) {rest : List Char} (noQuote : rest.head? ≠ some '"') :
    quoted? ((quotedText content).toList ++ rest) = some (content.toList, rest) := by
  have single {source : List Char} (apart : ∀ more, source ≠ '"' :: '"' :: more) :
      quoted? ('"' :: source) = basic? source := by
    rw [quoted?]
    rintro more ⟨⟩
    exact apart more rfl
  rw [toList_quotedText, List.cons_append, List.append_assoc, List.singleton_append, single,
    basic?_content]
  intro more three
  cases characters : content.toList with
  | nil =>
      rw [characters] at three
      exact noQuote (by rw [(List.cons.inj three).2]; rfl)
  | cons c characters' =>
      obtain ⟨first, others, escape, apart⟩ := head_escapedChar c
      rw [characters, List.flatMap_cons, escape] at three
      exact apart (List.cons.inj three).1

end Toml

end ObjectQuery
