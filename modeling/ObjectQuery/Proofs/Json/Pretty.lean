import ObjectQuery.Proofs.Json.Words

/-!
# JSON text, read back

What is written over several lines is read back, whatever the depth of the margin (`readValue?_indented`).
So the text of a value is read as that value, but that a number that is not finite has become null
(`written?_pretty`), if its integers fit machine words, its floats are read back from their own texts, and it
is not nested too deep.
-/

namespace ObjectQuery.Json

open WrittenValue

/-! ## Values that can be written -/

/-- Whether a float is read back from its text. -/
def ReadsBack (x : Float) : Prop := readNumber? (realText x).toList = some (.real x, [])

mutual

/-- Whether all numbers of a value are read back from their texts. -/
def Legible : Json → Prop
  | .integer n => isWord n = true
  | .real x => x.isFinite = true → ReadsBack x
  | .array items => LegibleItems items
  | .object members => LegibleMembers members
  | _ => True

def LegibleItems : List Json → Prop
  | [] => True
  | item :: rest => Legible item ∧ LegibleItems rest

def LegibleMembers : List (String × Json) → Prop
  | [] => True
  | (_, value) :: rest => Legible value ∧ LegibleMembers rest

end

mutual

/-- How deep arrays and objects are nested in a value. -/
def height : Json → Nat
  | .array items => heightItems items + 1
  | .object members => heightMembers members + 1
  | _ => 0

def heightItems : List Json → Nat
  | [] => 0
  | item :: rest => max (height item) (heightItems rest)

def heightMembers : List (String × Json) → Nat
  | [] => 0
  | (_, value) :: rest => max (height value) (heightMembers rest)

end

mutual

/-- What the text of a value shows: null for a number that is not finite. -/
def shown : Json → Json
  | .real x => ofFloat x
  | .array items => .array (shownItems items)
  | .object members => .object (shownMembers members)
  | other => other

def shownItems : List Json → List Json
  | [] => []
  | item :: rest => shown item :: shownItems rest

def shownMembers : List (String × Json) → List (String × Json)
  | [] => []
  | (name, value) :: rest => (name, shown value) :: shownMembers rest

end

/-! ### Item by item -/

theorem legibleItems_iff {items : List Json} : LegibleItems items ↔ ∀ item ∈ items, item.Legible := by
  induction items with
  | nil => simp [LegibleItems]
  | cons item items inductionHypothesis => rw [LegibleItems, inductionHypothesis, List.forall_mem_cons]

theorem legibleMembers_iff {members : List (String × Json)} :
    LegibleMembers members ↔ ∀ member ∈ members, member.2.Legible := by
  induction members with
  | nil => simp [LegibleMembers]
  | cons member members inductionHypothesis => rw [LegibleMembers, inductionHypothesis, List.forall_mem_cons]

theorem heightItems_le_iff {items : List Json} {limit : Nat} :
    heightItems items ≤ limit ↔ ∀ item ∈ items, item.height ≤ limit := by
  induction items with
  | nil => simp [heightItems]
  | cons item items inductionHypothesis =>
      rw [heightItems, Nat.max_le, inductionHypothesis, List.forall_mem_cons]

theorem heightMembers_le_iff {members : List (String × Json)} {limit : Nat} :
    heightMembers members ≤ limit ↔ ∀ member ∈ members, member.2.height ≤ limit := by
  induction members with
  | nil => simp [heightMembers]
  | cons member members inductionHypothesis =>
      rw [heightMembers, Nat.max_le, inductionHypothesis, List.forall_mem_cons]

theorem shownItems_eq_map (items : List Json) : shownItems items = items.map shown := by
  induction items with
  | nil => rw [shownItems, List.map_nil]
  | cons item items inductionHypothesis => rw [shownItems, inductionHypothesis, List.map_cons]

theorem shownMembers_eq_map (members : List (String × Json)) :
    shownMembers members = members.map fun (name, value) => (name, value.shown) := by
  induction members with
  | nil => rw [shownMembers, List.map_nil]
  | cons member members inductionHypothesis => rw [shownMembers, inductionHypothesis, List.map_cons]

theorem ofItems_eq_map (items : List Json) : ofItems items = items.map ofJson := by
  induction items with
  | nil => rw [ofItems, List.map_nil]
  | cons item items inductionHypothesis => rw [ofItems, inductionHypothesis, List.map_cons]

theorem ofMembers_eq_map (members : List (String × Json)) :
    ofMembers members = members.map fun (name, value) => (name, ofJson value) := by
  induction members with
  | nil => rw [ofMembers, List.map_nil]
  | cons member members inductionHypothesis => rw [ofMembers, inductionHypothesis, List.map_cons]

/-! ## Blanks -/

theorem skipBlanks_append {before : List Char} (blank : ∀ c ∈ before, isBlank c = true)
    (source : List Char) : skipBlanks (before ++ source) = skipBlanks source :=
  List.dropWhile_append_of_pos blank

theorem skipBlanks_cons {c : Char} (visible : isBlank c = false) (source : List Char) :
    skipBlanks (c :: source) = c :: source := by
  simp [skipBlanks, visible]

theorem readValue?_skip {before : List Char} (blank : ∀ c ∈ before, isBlank c = true)
    (fuel depth : Nat) (source : List Char) :
    readValue? fuel depth (before ++ source) = readValue? fuel depth source := by
  cases fuel with
  | zero => rfl
  | succ fuel => rw [readValue?, readValue?, skipBlanks_append blank]

theorem readItems?_skip {before : List Char} (blank : ∀ c ∈ before, isBlank c = true)
    (fuel depth : Nat) (source : List Char) :
    readItems? fuel depth (before ++ source) = readItems? fuel depth source := by
  cases fuel with
  | zero => rfl
  | succ fuel => rw [readItems?, readItems?, readValue?_skip blank]

theorem readMembers?_skip {before : List Char} (blank : ∀ c ∈ before, isBlank c = true)
    (fuel depth : Nat) (source : List Char) :
    readMembers? fuel depth (before ++ source) = readMembers? fuel depth source := by
  cases fuel with
  | zero => rfl
  | succ fuel => rw [readMembers?, readMembers?, skipBlanks_append blank]

/-- The blanks at the head of a line. -/
def blanks (depth : Nat) : List Char := List.replicate (2 * depth) ' '

theorem isBlank_of_mem {depth : Nat} {c : Char} (member : c ∈ blanks depth) : isBlank c = true := by
  obtain rfl := (List.mem_replicate.mp member).2
  rfl

/-- A line break, and the blanks of the next line. -/
theorem isBlank_of_mem_break {depth : Nat} {c : Char} (member : c ∈ '\n' :: blanks depth) :
    isBlank c = true := by
  rcases List.mem_cons.mp member with rfl | member
  · rfl
  · exact isBlank_of_mem member

theorem isBlank_of_mem_lineBreak (c : Char) (member : c ∈ ['\n']) : isBlank c = true := by
  rw [List.mem_singleton.mp member]
  rfl

theorem readItems?_lineBreak (fuel depth : Nat) (source : List Char) :
    readItems? fuel depth ('\n' :: source) = readItems? fuel depth source :=
  readItems?_skip isBlank_of_mem_lineBreak fuel depth source

theorem readMembers?_lineBreak (fuel depth : Nat) (source : List Char) :
    readMembers? fuel depth ('\n' :: source) = readMembers? fuel depth source :=
  readMembers?_skip isBlank_of_mem_lineBreak fuel depth source

/-! ## Lines -/

/-- Lines with commas between them. -/
def joined (depth : Nat) (lines : List String) : List Char :=
  [',', '\n'].intercalate (lines.map fun line => blanks depth ++ line.toList)

theorem joined_singleton (depth : Nat) (line : String) :
    joined depth [line] = blanks depth ++ line.toList := by
  simp [joined]

theorem joined_cons (depth : Nat) (line other : String) (lines : List String) :
    joined depth (line :: other :: lines) =
      blanks depth ++ line.toList ++ ',' :: '\n' :: joined depth (other :: lines) := by
  simp [joined, List.intercalate_cons_cons]

theorem toList_block (opening closing : String) (depth : Nat) {lines : List String} (filled : lines ≠ []) :
    (block opening closing depth lines).toList =
      opening.toList ++ '\n' :: joined (depth + 1) lines ++ '\n' :: blanks depth ++ closing.toList := by
  have notEmpty : lines.isEmpty ≠ true := fun empty => filled (List.isEmpty_iff.mp empty)
  have indents (depth : Nat) : (indent depth).toList = blanks depth := String.toList_ofList
  rw [block, if_neg notEmpty]
  simp only [String.toList_append, String.toList_intercalate, List.map_map, Function.comp_def, indents,
    List.append_assoc, joined]
  rfl

/-! ## The head of a value -/

/-- Where a number begins, nothing else does. -/
theorem ne_of_start {c : Char} (start : c = '-' ∨ c.isDigit = true) {mark : Char} (different : mark ≠ '-')
    (noDigit : mark.isDigit = false) : c ≠ mark := by
  rintro rfl
  rcases start with same | digit
  · exact different same
  · exact absurd (noDigit.symm.trans digit) (by decide)

theorem isBlank_of_start {c : Char} (start : c = '-' ∨ c.isDigit = true) : isBlank c = false := by
  simp only [isBlank, Bool.or_eq_false_iff, decide_eq_false_iff_not]
  exact ⟨⟨⟨ne_of_start start (by decide) (by decide), ne_of_start start (by decide) (by decide)⟩,
    ne_of_start start (by decide) (by decide)⟩, ne_of_start start (by decide) (by decide)⟩

theorem readValue?_number {c : Char} (start : c = '-' ∨ c.isDigit = true) (fuel depth : Nat)
    (source : List Char) : readValue? (fuel + 1) depth (c :: source) = readNumber? (c :: source) := by
  have other {mark : Char} := @ne_of_start c start mark
  rw [readValue?, skipBlanks_cons (isBlank_of_start start)]
  split
  case h_7 => rfl
  all_goals exact absurd (List.cons.inj ‹_›).1 (other (by decide) (by decide))

/-- A text with a number at its head is read as the number. -/
theorem readValue?_of_number {text : List Char} {value : WrittenValue}
    (read : readNumber? text = some (value, [])) {rest : List Char} (ends : Ends rest)
    {fuel : Nat} (enough : 0 < fuel) (depth : Nat) :
    readValue? fuel depth (text ++ rest) = some (value, rest) := by
  obtain ⟨fuel, rfl⟩ := Nat.exists_eq_succ_of_ne_zero (Nat.ne_of_gt enough)
  obtain ⟨c, more, rfl, start⟩ := head_of_readNumber? read
  rw [List.cons_append, readValue?_number start, ← List.cons_append, readNumber?_append ends, read]
  rfl

theorem toList_null (margin : Nat) : (indented margin .null).toList = ['n', 'u', 'l', 'l'] := by
  simp only [indented, scalarText]
  rfl

theorem toList_bool (margin : Nat) (truth : Bool) : (indented margin (.bool truth)).toList =
    if truth then ['t', 'r', 'u', 'e'] else ['f', 'a', 'l', 's', 'e'] := by
  simp only [indented, scalarText]
  cases truth <;> rfl

theorem toList_real (margin : Nat) (x : Float) : (indented margin (.real x)).toList =
    if x.isFinite then (realText x).toList else ['n', 'u', 'l', 'l'] := by
  simp only [indented, scalarText]
  split <;> rfl

theorem toList_text (margin : Nat) (content : String) : (indented margin (.text content)).toList =
    '"' :: (content.toList.flatMap escapedChar ++ ['"']) := by
  simp only [indented, scalarText]
  exact toList_quotedText content

/-- A value begins with a character that is not blank and closes no array. -/
theorem head_indented {value : Json} (legible : value.Legible) (margin : Nat) :
    ∃ c more, (indented margin value).toList = c :: more ∧ isBlank c = false ∧ c ≠ ']' := by
  have ofNumber {text : List Char} {found : WrittenValue × List Char}
      (read : readNumber? text = some found) :
      ∃ c more, text = c :: more ∧ isBlank c = false ∧ c ≠ ']' := by
    obtain ⟨c, more, rfl, start⟩ := head_of_readNumber? read
    exact ⟨c, more, rfl, isBlank_of_start start, ne_of_start start (by decide) (by decide)⟩
  have ofBlock (opening : Char) (closing : String) (lines : List String) (visible : isBlank opening = false)
      (opens : opening ≠ ']') : ∃ c more,
        (block (String.singleton opening) closing margin lines).toList = c :: more ∧ isBlank c = false ∧
          c ≠ ']' := by
    refine ⟨opening, ?_⟩
    unfold block
    split
    · exact ⟨_, by rw [String.toList_append, String.toList_singleton]; rfl, visible, opens⟩
    · simp only [String.toList_append, String.toList_singleton, List.singleton_append, List.append_assoc]
      exact ⟨_, rfl, visible, opens⟩
  cases value with
  | null => exact ⟨'n', _, toList_null margin, rfl, by decide⟩
  | bool truth =>
      rw [toList_bool]
      cases truth with
      | false => exact ⟨'f', _, rfl, rfl, by decide⟩
      | true => exact ⟨'t', _, rfl, rfl, by decide⟩
  | integer n => exact ofNumber (readNumber?_integer legible)
  | real x =>
      rw [toList_real]
      split
      · rename_i finite
        exact ofNumber (legible finite)
      · exact ⟨'n', _, rfl, rfl, by decide⟩
  | text content => exact ⟨'"', _, toList_text margin content, rfl, by decide⟩
  | array items => exact ofBlock '[' "]" _ rfl (by decide)
  | object members => exact ofBlock '\x7b' "\x7d" _ rfl (by decide)

/-- A text with a value at its head takes a step to read. -/
theorem exists_fuel {value : Json} (legible : value.Legible) {margin fuel : Nat}
    (enough : (indented margin value).toList.length ≤ fuel) : ∃ less, fuel = less + 1 := by
  obtain ⟨c, more, text, _⟩ := head_indented legible margin
  rw [text, List.length_cons] at enough
  exact ⟨fuel - 1, by omega⟩

theorem toList_member (name text : String) : (quotedText name ++ ": " ++ text).toList =
    '"' :: (name.toList.flatMap escapedChar ++ '"' :: ':' :: ' ' :: text.toList) := by
  rw [String.toList_append, String.toList_append, toList_quotedText]
  change '"' :: (name.toList.flatMap escapedChar ++ ['"']) ++ [':', ' '] ++ text.toList = _
  simp

/-! ## Brackets -/

theorem exists_depth {height depth : Nat} (shallow : height + 1 ≤ depth) : ∃ less, depth = less + 1 :=
  ⟨depth - 1, by omega⟩

theorem toList_array_nil (margin : Nat) : (indented margin (.array [])).toList = ['[', ']'] := by
  simp only [indented, indentedItems, block, List.isEmpty_nil, if_true]
  rfl

theorem toList_object_nil (margin : Nat) : (indented margin (.object [])).toList = ['\x7b', '\x7d'] := by
  simp only [indented, indentedMembers, block, List.isEmpty_nil, if_true]
  rfl

theorem toList_array (margin : Nat) (item : Json) (items : List Json) :
    (indented margin (.array (item :: items))).toList =
      '[' :: '\n' :: (joined (margin + 1) (indentedItems margin (item :: items)) ++
        '\n' :: (blanks margin ++ [']'])) := by
  simp only [indented]
  rw [toList_block _ _ _ (by simp [indentedItems])]
  simp

theorem toList_object (margin : Nat) (member : String × Json) (members : List (String × Json)) :
    (indented margin (.object (member :: members))).toList =
      '\x7b' :: '\n' :: (joined (margin + 1) (indentedMembers margin (member :: members)) ++
        '\n' :: (blanks margin ++ ['\x7d'])) := by
  simp only [indented]
  rw [toList_block _ _ _ (by obtain ⟨name, value⟩ := member; simp [indentedMembers])]
  simp

theorem ends_break (rest : List Char) : Ends ('\n' :: rest) := ends_cons (by decide)

theorem ends_comma (rest : List Char) : Ends (',' :: rest) := ends_cons (by decide)

/-- What stands in front of a closing bracket. -/
theorem skipBlanks_closing (margin : Nat) {closing : Char} (visible : isBlank closing = false)
    (rest : List Char) :
    skipBlanks ('\n' :: (blanks margin ++ closing :: rest)) = closing :: rest := by
  rw [← List.cons_append, skipBlanks_append fun _ => isBlank_of_mem_break, skipBlanks_cons visible]

/-- Behind an opening bracket comes the first line. -/
theorem skipBlanks_opening (margin : Nat) (line : String) (lines : List String) (rest : List Char)
    {c : Char} {more : List Char} (head : line.toList = c :: more) (visible : isBlank c = false) :
    ∃ more, skipBlanks ('\n' :: (joined margin (line :: lines) ++ rest)) = c :: more := by
  have first : ∃ after, joined margin (line :: lines) = blanks margin ++ c :: after := by
    cases lines with
    | nil => exact ⟨more, by rw [joined_singleton, head]⟩
    | cons other lines =>
        exact ⟨_, by rw [joined_cons, head, List.append_assoc, List.cons_append]⟩
  obtain ⟨after, first⟩ := first
  refine ⟨after ++ rest, ?_⟩
  rw [first, List.append_assoc, ← List.cons_append, skipBlanks_append fun _ => isBlank_of_mem_break,
    List.cons_append, skipBlanks_cons visible]

theorem exists_blanks (source : List Char) :
    ∃ before, (∀ c ∈ before, isBlank c = true) ∧ source = before ++ skipBlanks source :=
  ⟨source.takeWhile isBlank, fun _ member => (List.mem_takeWhile_imp member),
    (List.takeWhile_append_dropWhile).symm⟩

theorem readValue?_quote (fuel depth : Nat) (source : List Char) :
    readValue? (fuel + 1) depth ('"' :: source) =
      (readContent? source).map fun (content, rest) =>
        (match content with
          | some content => .text content
          | none => .unreadable, rest) := rfl

theorem readValue?_bracket (fuel depth : Nat) {source more : List Char} {c : Char}
    (filled : skipBlanks source = c :: more) (opens : c ≠ ']') :
    readValue? (fuel + 1) (depth + 1) ('[' :: source) =
      (readItems? fuel depth source).map (Prod.map .array id) := by
  obtain ⟨before, blank, same⟩ := exists_blanks source
  have skipped : readItems? fuel depth source = readItems? fuel depth (c :: more) := by
    rw [same, readItems?_skip blank, filled]
  rw [readValue?, skipBlanks_cons rfl, skipped]
  split
  case h_2 rest same =>
    obtain rfl := (List.cons.inj same).2
    rw [filled]
    split
    · exact absurd (List.cons.inj ‹_›).1 opens
    · rfl
  case h_7 other _ _ _ _ => exact (other source rfl).elim
  all_goals exact absurd (List.cons.inj ‹_›).1 (by decide)

theorem readValue?_brace (fuel depth : Nat) {source more : List Char} {c : Char}
    (filled : skipBlanks source = c :: more) (opens : c ≠ '\x7d') :
    readValue? (fuel + 1) (depth + 1) ('\x7b' :: source) =
      (readMembers? fuel depth source).map (Prod.map (Option.elim · .unreadable .object) id) := by
  obtain ⟨before, blank, same⟩ := exists_blanks source
  have skipped : readMembers? fuel depth source = readMembers? fuel depth (c :: more) := by
    rw [same, readMembers?_skip blank, filled]
  rw [readValue?, skipBlanks_cons rfl, skipped]
  split
  case h_3 rest same =>
    obtain rfl := (List.cons.inj same).2
    rw [filled, Nat.add_sub_cancel]
    split
    · exact absurd (List.cons.inj ‹_›).1 opens
    · rcases readMembers? fuel depth (c :: more) with _ | ⟨_ | members, left⟩ <;> rfl
  case h_7 other _ _ _ => exact (other source rfl).elim
  all_goals exact absurd (List.cons.inj ‹_›).1 (by decide)

theorem readItems?_last {fuel depth : Nat} {source left rest : List Char} {item : WrittenValue}
    (read : readValue? fuel depth source = some (item, left)) (closed : skipBlanks left = ']' :: rest) :
    readItems? (fuel + 1) depth source = some ([item], rest) := by
  rw [readItems?, read]
  dsimp only [Option.bind_eq_bind, Option.bind_some]
  rw [closed]
  rfl

theorem readItems?_comma {fuel depth : Nat} {source left rest : List Char} {item : WrittenValue}
    (read : readValue? fuel depth source = some (item, left)) (more : skipBlanks left = ',' :: rest) :
    readItems? (fuel + 1) depth source =
      (readItems? fuel depth rest).map fun (items, rest) => (item :: items, rest) := by
  rw [readItems?, read]
  dsimp only [Option.bind_eq_bind, Option.bind_some]
  rw [more]
  change (readItems? fuel depth rest).bind _ = _
  cases readItems? fuel depth rest <;> rfl

/-- A name between quotes, a colon and a value, with blanks in front. -/
def Entry (fuel depth : Nat) (source : List Char) (name : String) (value : WrittenValue)
    (left : List Char) : Prop :=
  ∃ quoted named, skipBlanks source = '"' :: quoted ∧
    readContent? quoted = some (some name, ':' :: named) ∧ readValue? fuel depth named = some (value, left)

theorem Entry.last {fuel depth : Nat} {source left rest : List Char} {name : String} {value : WrittenValue}
    (entry : Entry fuel depth source name value left) (closed : skipBlanks left = '\x7d' :: rest) :
    readMembers? (fuel + 1) depth source = some (some [(name, value)], rest) := by
  obtain ⟨quoted, named, start, content, read⟩ := entry
  rw [readMembers?, start]
  change (readContent? quoted).bind _ = _
  rw [content]
  change (readValue? fuel depth named).bind _ = _
  rw [read]
  dsimp only [Option.bind_some]
  rw [closed]
  rfl

theorem Entry.comma {fuel depth : Nat} {source left rest : List Char} {name : String} {value : WrittenValue}
    (entry : Entry fuel depth source name value left) (more : skipBlanks left = ',' :: rest) :
    readMembers? (fuel + 1) depth source =
      (readMembers? fuel depth rest).map fun (members, rest) =>
        (members.map ((name, value) :: ·), rest) := by
  obtain ⟨quoted, named, start, content, read⟩ := entry
  rw [readMembers?, start]
  change (readContent? quoted).bind _ = _
  rw [content]
  change (readValue? fuel depth named).bind _ = _
  rw [read]
  dsimp only [Option.bind_some]
  rw [more]
  change (readMembers? fuel depth rest).bind _ = _
  cases readMembers? fuel depth rest <;> rfl

/-- A member is read at the head of its line. -/
theorem entry_of_read {fuel depth margin : Nat} {name text : String} {value : WrittenValue}
    {rest : List Char} (read : readValue? fuel depth (text.toList ++ rest) = some (value, rest)) :
    Entry fuel depth (blanks margin ++ (quotedText name ++ ": " ++ text).toList ++ rest) name value rest := by
  refine ⟨name.toList.flatMap escapedChar ++ '"' :: ':' :: ' ' :: (text.toList ++ rest),
    ' ' :: (text.toList ++ rest), ?_, readContent?_quoted name _, ?_⟩
  · rw [toList_member, List.append_assoc, skipBlanks_append fun _ => isBlank_of_mem, List.cons_append,
      skipBlanks_cons (by rfl), List.append_assoc]
    rfl
  · have skipped := @readValue?_skip [' '] (fun c member => by rw [List.mem_singleton.mp member]; rfl) fuel
      depth (text.toList ++ rest)
    exact skipped.trans read

/-! ## Reading what is written -/

mutual

/-- A value that is written at a margin is read back, with null for a number that is not finite. -/
theorem readValue?_indented : (value : Json) → value.Legible → ∀ (margin fuel depth : Nat)
    (rest : List Char), value.height ≤ depth → (indented margin value).toList.length ≤ fuel →
      Ends rest →
        readValue? fuel depth ((indented margin value).toList ++ rest) = some (ofJson value.shown, rest)
  | .null, legible, margin, fuel, depth, rest, _, enough, _ => by
      obtain ⟨fuel, rfl⟩ := exists_fuel legible enough
      rw [toList_null]
      rfl
  | .bool truth, legible, margin, fuel, depth, rest, _, enough, _ => by
      obtain ⟨fuel, rfl⟩ := exists_fuel legible enough
      rw [toList_bool]
      cases truth <;> rfl
  | .integer n, legible, margin, fuel, depth, rest, _, enough, ends => by
      obtain ⟨fuel, rfl⟩ := exists_fuel legible enough
      exact readValue?_of_number (readNumber?_integer legible) ends (Nat.succ_pos fuel) depth
  | .real x, legible, margin, fuel, depth, rest, _, enough, ends => by
      obtain ⟨fuel, rfl⟩ := exists_fuel legible enough
      rw [toList_real, shown, ofFloat]
      split
      · rename_i finite
        exact readValue?_of_number (legible finite) ends (Nat.succ_pos fuel) depth
      · rfl
  | .text content, legible, margin, fuel, depth, rest, _, enough, _ => by
      obtain ⟨fuel, rfl⟩ := exists_fuel legible enough
      rw [toList_text, List.cons_append, List.append_assoc, List.singleton_append, readValue?_quote,
        readContent?_quoted]
      rfl
  | .array [], legible, margin, fuel, depth, rest, shallow, enough, _ => by
      obtain ⟨fuel, rfl⟩ := exists_fuel legible enough
      obtain ⟨depth, rfl⟩ := exists_depth shallow
      rw [toList_array_nil]
      rfl
  | .array (item :: items), legible, margin, fuel, depth, rest, shallow, enough, _ => by
      obtain ⟨fuel, rfl⟩ := exists_fuel legible enough
      obtain ⟨depth, rfl⟩ := exists_depth shallow
      rw [toList_array, List.length_cons, List.length_cons, List.length_append] at enough
      have read := readItems?_indented (item :: items) (List.cons_ne_nil _ _) legible margin fuel depth rest
        (Nat.le_of_succ_le_succ shallow) (by omega)
      obtain ⟨c, more, head, visible, opens⟩ := head_indented legible.1 (margin + 1)
      obtain ⟨more, filled⟩ := skipBlanks_opening (margin + 1) (indented (margin + 1) item)
        (indentedItems margin items) ('\n' :: (blanks margin ++ ']' :: rest)) head visible
      have opened := readValue?_bracket fuel depth filled opens
      rw [readItems?_lineBreak] at opened
      rw [indentedItems] at read
      rw [toList_array, indentedItems]
      simp only [List.cons_append, List.append_assoc, List.nil_append]
      rw [opened, read]
      rfl
  | .object [], legible, margin, fuel, depth, rest, shallow, enough, _ => by
      obtain ⟨fuel, rfl⟩ := exists_fuel legible enough
      obtain ⟨depth, rfl⟩ := exists_depth shallow
      rw [toList_object_nil]
      rfl
  | .object ((name, value) :: members), legible, margin, fuel, depth, rest, shallow, enough, ends => by
      obtain ⟨fuel, rfl⟩ := exists_fuel legible enough
      obtain ⟨depth, rfl⟩ := exists_depth shallow
      rw [toList_object, List.length_cons, List.length_cons, List.length_append] at enough
      have read := readMembers?_indented ((name, value) :: members) (List.cons_ne_nil _ _) legible margin fuel
        depth rest (Nat.le_of_succ_le_succ shallow) (by omega)
      obtain ⟨more, filled⟩ := skipBlanks_opening (margin + 1)
        (quotedText name ++ ": " ++ indented (margin + 1) value) (indentedMembers margin members)
        ('\n' :: (blanks margin ++ '\x7d' :: rest)) (toList_member name _) (by rfl)
      have opened := readValue?_brace fuel depth filled (by decide)
      rw [readMembers?_lineBreak] at opened
      rw [indentedMembers] at read
      rw [toList_object, indentedMembers]
      simp only [List.cons_append, List.append_assoc, List.nil_append]
      rw [opened, read]
      rfl

theorem readItems?_indented : (items : List Json) → items ≠ [] → LegibleItems items →
    ∀ (margin fuel depth : Nat) (rest : List Char), heightItems items ≤ depth →
      (joined (margin + 1) (indentedItems margin items)).length < fuel →
        readItems? fuel depth (joined (margin + 1) (indentedItems margin items) ++
          '\n' :: (blanks margin ++ ']' :: rest)) = some (ofItems (shownItems items), rest)
  | [], filled, _, _, _, _, _, _, _ => absurd rfl filled
  | [item], _, legible, margin, fuel, depth, rest, shallow, enough => by
      obtain ⟨fuel, rfl⟩ : ∃ less, fuel = less + 1 := ⟨fuel - 1, by omega⟩
      rw [indentedItems, indentedItems, joined_singleton] at *
      rw [List.length_append] at enough
      rw [heightItems, heightItems, Nat.max_zero] at shallow
      have read := readValue?_indented item legible.1 (margin + 1) fuel depth
        ('\n' :: (blanks margin ++ ']' :: rest)) shallow (by omega) (ends_break _)
      rw [← readValue?_skip (fun _ => isBlank_of_mem) fuel depth, ← List.append_assoc] at read
      exact readItems?_last read (skipBlanks_closing margin (by rfl) rest)
  | item :: next :: items, _, legible, margin, fuel, depth, rest, shallow, enough => by
      obtain ⟨fuel, rfl⟩ : ∃ less, fuel = less + 1 := ⟨fuel - 1, by omega⟩
      have lines : joined (margin + 1) (indentedItems margin (item :: next :: items)) =
          blanks (margin + 1) ++ (indented (margin + 1) item).toList ++
            ',' :: '\n' :: joined (margin + 1) (indentedItems margin (next :: items)) := by
        rw [indentedItems, indentedItems, joined_cons]
      rw [lines] at enough ⊢
      simp only [List.length_append, List.length_cons] at enough
      rw [heightItems] at shallow
      have later := readItems?_indented (next :: items) (List.cons_ne_nil _ _) legible.2 margin fuel
        depth rest (Nat.le_trans (Nat.le_max_right _ _) shallow) (by omega)
      have read := readValue?_indented item legible.1 (margin + 1) fuel depth
        (',' :: '\n' :: (joined (margin + 1) (indentedItems margin (next :: items)) ++
          '\n' :: (blanks margin ++ ']' :: rest))) (Nat.le_trans (Nat.le_max_left _ _) shallow) (by omega)
        (ends_comma _)
      rw [← readValue?_skip (fun _ => isBlank_of_mem) fuel depth, ← List.append_assoc] at read
      rw [List.append_assoc, List.cons_append, List.cons_append,
        readItems?_comma read (skipBlanks_cons (by rfl) _), readItems?_lineBreak, later]
      rfl

theorem readMembers?_indented : (members : List (String × Json)) → members ≠ [] →
    LegibleMembers members →
    ∀ (margin fuel depth : Nat) (rest : List Char), heightMembers members ≤ depth →
      (joined (margin + 1) (indentedMembers margin members)).length < fuel →
        readMembers? fuel depth (joined (margin + 1) (indentedMembers margin members) ++
          '\n' :: (blanks margin ++ '\x7d' :: rest)) = some (some (ofMembers (shownMembers members)), rest)
  | [], filled, _, _, _, _, _, _, _ => absurd rfl filled
  | [(name, value)], _, legible, margin, fuel, depth, rest, shallow, enough => by
      obtain ⟨fuel, rfl⟩ : ∃ less, fuel = less + 1 := ⟨fuel - 1, by omega⟩
      rw [indentedMembers, indentedMembers, joined_singleton] at *
      rw [List.length_append, String.toList_append, List.length_append] at enough
      rw [heightMembers, heightMembers, Nat.max_zero] at shallow
      have read := readValue?_indented value legible.1 (margin + 1) fuel depth
        ('\n' :: (blanks margin ++ '\x7d' :: rest)) shallow (by omega) (ends_break _)
      exact (entry_of_read read).last (skipBlanks_closing margin (by rfl) rest)
  | (name, value) :: next :: members, _, legible, margin, fuel, depth, rest, shallow, enough => by
      obtain ⟨fuel, rfl⟩ : ∃ less, fuel = less + 1 := ⟨fuel - 1, by omega⟩
      obtain ⟨other, following⟩ := next
      have lines :
          joined (margin + 1) (indentedMembers margin ((name, value) :: (other, following) :: members)) =
          blanks (margin + 1) ++ (quotedText name ++ ": " ++ indented (margin + 1) value).toList ++
            ',' :: '\n' :: joined (margin + 1) (indentedMembers margin ((other, following) :: members)) := by
        rw [indentedMembers, indentedMembers, joined_cons]
      rw [lines] at enough ⊢
      rw [String.toList_append] at enough
      simp only [List.length_append, List.length_cons] at enough
      rw [heightMembers] at shallow
      have later := readMembers?_indented ((other, following) :: members) (List.cons_ne_nil _ _)
        legible.2 margin fuel depth rest (Nat.le_trans (Nat.le_max_right _ _) shallow) (by omega)
      have read := readValue?_indented value legible.1 (margin + 1) fuel depth
        (',' :: '\n' :: (joined (margin + 1) (indentedMembers margin ((other, following) :: members)) ++
          '\n' :: (blanks margin ++ '\x7d' :: rest))) (Nat.le_trans (Nat.le_max_left _ _) shallow) (by omega)
        (ends_comma _)
      rw [List.append_assoc, List.cons_append, List.cons_append,
        (entry_of_read read).comma (skipBlanks_cons (by rfl) _), readMembers?_lineBreak, later]
      rfl

end

/-- The text of a value is read as what it shows. -/
theorem written?_pretty {value : Json} (legible : value.Legible) (shallow : value.height ≤ nestingLimit) :
    written? value.pretty = some (ofJson value.shown) := by
  have read := readValue?_indented value legible 0 (2 * (indented 0 value).toList.length + 2) nestingLimit []
    shallow (by omega) ends_nil
  rw [List.append_nil] at read
  rw [written?, pretty, read]
  rfl

end ObjectQuery.Json
