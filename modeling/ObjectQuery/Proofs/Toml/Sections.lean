import ObjectQuery.Proofs.Toml.Words

/-!
# Sections of TOML, read back

A document of sections is written with a header for each section and a line for each of its members that is
not null. Line by line the document that is read grows by a table or by a value (`Document.Leads`). So what
is read of the whole is every section with its members, but for those that are null (`read?_write`).
-/

namespace ObjectQuery.Toml

open WrittenValue

/-! ## Values on one line -/

theorem ends_bracket (rest : List Char) : Ends (']' :: rest) :=
  fun _ head => .inr (.inl (Option.some.inj head).symm)

theorem ends_comma (rest : List Char) : Ends (',' :: rest) := fun _ head => .inl (Option.some.inj head).symm

theorem ends_break (rest : List Char) : Ends ('\n' :: rest) :=
  fun _ head => .inr (.inr (Option.some.inj head).symm)

/-- Whether blanks, line breaks and comments may begin with a character. -/
def isGap (c : Char) : Bool := [' ', '\t', '\n', '\r', '#'].contains c

/-- What none of these characters has, no character that has it is one of them. -/
theorem isGap_of_apart {holds : Char → Bool} {c : Char} (present : holds c = true)
    (apart : [' ', '\t', '\n', '\r', '#'].all fun mark => !holds mark) : isGap c = false := by
  rw [← Bool.not_eq_true, isGap, List.contains_iff_mem]
  intro gap
  have absent := List.all_eq_true.mp apart c gap
  rw [present] at absent
  exact absurd absent (by decide)

theorem skipBreaks_cons {c : Char} (visible : isGap c = false) (source : List Char) :
    skipBreaks (c :: source) = c :: source := by
  rw [skipBreaks]
  all_goals
    rintro _ ⟨⟩
    exact absurd visible (by decide)

theorem skipGaps?_cons {c : Char} (visible : isGap c = false) (fuel : Nat) (source : List Char) :
    skipGaps? fuel (c :: source) = some (c :: source) := by
  cases fuel with
  | zero => rfl
  | succ fuel =>
      rw [skipGaps?, skipBreaks_cons visible]
      split
      · rename_i same
        obtain rfl := (List.cons.inj same).1
        exact absurd visible (by decide)
      · rfl

theorem skipGaps?_blank {c : Char} (visible : isGap c = false) (fuel : Nat) (source : List Char) :
    skipGaps? (fuel + 1) (' ' :: c :: source) = some (c :: source) :=
  skipGaps?_cons visible (fuel + 1) source

/-- Whether a text is read as a value wherever it ends, to some depth of arrays, and begins with a character
that neither is skipped nor closes an array. -/
structure Reads (height : Nat) (text : String) (value : WrittenValue) : Prop where
  opens : ∃ c more, text.toList = c :: more ∧ isGap c = false ∧ c ≠ ']'
  read : ∀ {fuel depth : Nat} {rest : List Char}, text.toList.length ≤ fuel → height ≤ depth →
    Ends rest → value? fuel depth (text.toList ++ rest) = some (value, rest)

variable {height fuel depth : Nat} {text : String} {value item : WrittenValue} {source rest : List Char}

theorem Reads.mono (reads : Reads height text value) {limit : Nat} (atMost : height ≤ limit) :
    Reads limit text value :=
  ⟨reads.opens, fun enough deep ends => reads.read enough (atMost.trans deep) ends⟩

theorem Reads.word (all : ∀ c ∈ text.toList, isWordChar c = true)
    (read : scalar? text.toList = some value) : Reads 0 text value := by
  cases characters : text.toList with
  | nil =>
      have nothing : scalar? [] = none := rfl
      rw [characters, nothing] at read
      exact absurd read (by simp)
  | cons c more =>
      have first : isWordChar c = true := all c (by rw [characters]; exact List.mem_cons_self)
      have opens : c ≠ ']' := by
        rintro rfl
        exact absurd first (by decide)
      refine ⟨⟨c, more, characters, isGap_of_apart first (by decide), opens⟩,
        fun enough _ ends => value?_word read all ends ?_ _⟩
      rw [characters, List.length_cons] at enough
      omega

theorem Reads.quoted (content : String) : Reads 0 (quotedText content) (.text content) := by
  refine ⟨⟨'"', _, toList_quotedText content, by decide, by decide⟩,
    fun {fuel depth rest} enough _ ends => ?_⟩
  have noQuote : rest.head? ≠ some '"' := by
    intro head
    obtain ⟨more, rfl⟩ := List.head?_eq_some_iff.mp head
    exact absurd rfl (ends.isWordChar_head rfl).2.2
  have found := quoted?_quotedText content noQuote
  rw [toList_quotedText] at enough found ⊢
  rw [List.length_cons] at enough
  obtain ⟨fuel, rfl⟩ : ∃ less, fuel = less + 1 := ⟨fuel - 1, by omega⟩
  rw [List.cons_append] at found ⊢
  rw [value?, found, Option.map_some]
  dsimp only
  rw [String.ofList_toList]

/-! ## Arrays -/

theorem items?_closing (fuel depth : Nat) (rest : List Char) :
    items? (fuel + 1) depth (']' :: rest) = some ([], rest) := by
  rw [items?, skipGaps?_cons (by decide)]
  rfl

theorem items?_blank {c : Char} (visible : isGap c = false) (fuel depth : Nat) (source : List Char) :
    items? (fuel + 2) depth (' ' :: c :: source) = items? (fuel + 2) depth (c :: source) := by
  rw [items?, items?, skipGaps?_blank visible, skipGaps?_cons visible]

theorem items?_last {c : Char} (visible : isGap c = false) (opens : c ≠ ']')
    (read : value? fuel depth (c :: source) = some (item, ']' :: rest)) :
    items? (fuel + 1) depth (c :: source) = some ([item], rest) := by
  rw [items?, skipGaps?_cons visible]
  dsimp only [Option.bind_eq_bind, Option.bind_some]
  split
  · exact absurd (List.cons.inj ‹_›).1 opens
  · rw [read, Option.bind_some]
    dsimp only
    rw [skipGaps?_cons (by decide)]
    rfl

theorem items?_comma {c : Char} (visible : isGap c = false) (opens : c ≠ ']')
    (read : value? fuel depth (c :: source) = some (item, ',' :: rest)) :
    items? (fuel + 1) depth (c :: source) =
      (items? fuel depth rest).map fun (items, rest) => (item :: items, rest) := by
  rw [items?, skipGaps?_cons visible]
  dsimp only [Option.bind_eq_bind, Option.bind_some]
  split
  · exact absurd (List.cons.inj ‹_›).1 opens
  · rw [read, Option.bind_some]
    dsimp only
    rw [skipGaps?_cons (by decide)]
    change (items? fuel depth rest).bind _ = _
    cases items? fuel depth rest <;> rfl

/-- The items of an array with commas between them. -/
def itemLine (texts : List String) : List Char := [',', ' '].intercalate (texts.map String.toList)

theorem itemLine_cons (text other : String) (texts : List String) :
    itemLine (text :: other :: texts) = text.toList ++ ',' :: ' ' :: itemLine (other :: texts) := by
  simp [itemLine, List.intercalate_cons_cons]

/-- A line of items begins like the first one. -/
theorem opens_itemLine {texts : List String} {c : Char} {more : List Char}
    (characters : text.toList = c :: more) : ∃ more, itemLine (text :: texts) = c :: more := by
  cases texts with
  | nil => exact ⟨more, by simp [itemLine, characters]⟩
  | cons other texts => exact ⟨_, by rw [itemLine_cons, characters, List.cons_append]⟩

theorem items?_itemLine {pairs : List (String × WrittenValue)} (filled : pairs ≠ [])
    (reads : ∀ pair ∈ pairs, Reads height pair.1 pair.2) (deep : height ≤ depth)
    (enough : (itemLine (pairs.map Prod.fst)).length < fuel) :
    items? fuel depth (itemLine (pairs.map Prod.fst) ++ ']' :: rest) = some (pairs.map Prod.snd, rest) := by
  induction pairs generalizing fuel with
  | nil => exact absurd rfl filled
  | cons pair pairs inductionHypothesis =>
      obtain ⟨fuel, rfl⟩ : ∃ less, fuel = less + 1 := ⟨fuel - 1, by omega⟩
      have reading := reads pair List.mem_cons_self
      obtain ⟨c, more, characters, visible, opens⟩ := reading.opens
      cases pairs with
      | nil =>
          have line : itemLine [pair.1] = pair.1.toList := by simp [itemLine]
          rw [List.map_singleton, line] at enough ⊢
          have read := reading.read (Nat.le_of_lt_succ enough) deep (ends_bracket rest)
          rw [characters, List.cons_append] at read ⊢
          exact items?_last visible opens read
      | cons next pairs =>
          obtain ⟨d, others, nextCharacters, nextVisible, _⟩ := (reads next (by simp)).opens
          obtain ⟨others, nextLine⟩ := @opens_itemLine next.1 (pairs.map Prod.fst) d others nextCharacters
          rw [List.map_cons, List.map_cons, itemLine_cons, List.length_append, List.length_cons,
            List.length_cons] at enough
          have read := @reading.read fuel depth
            (',' :: ' ' :: (itemLine (next.1 :: pairs.map Prod.fst) ++ ']' :: rest)) (by omega) deep
            (ends_comma _)
          have later := @inductionHypothesis fuel (List.cons_ne_nil _ _)
            (fun pair member => reads pair (List.mem_cons_of_mem _ member)) (by rw [List.map_cons]; omega)
          -- the item after the comma takes two steps at least, of which one skips the blank
          obtain ⟨fuel, rfl⟩ : ∃ less, fuel = less + 2 := by
            rw [characters, nextLine, List.length_cons, List.length_cons] at enough
            exact ⟨fuel - 2, by omega⟩
          rw [List.map_cons, nextLine] at later
          rw [characters, nextLine] at read
          rw [List.map_cons, List.map_cons, itemLine_cons, characters, nextLine]
          simp only [List.cons_append, List.append_assoc] at read later ⊢
          rw [items?_comma visible opens read, items?_blank nextVisible, later]
          rfl

theorem Reads.array {pairs : List (String × WrittenValue)}
    (reads : ∀ pair ∈ pairs, Reads height pair.1 pair.2) :
    Reads (height + 1) ("[" ++ String.intercalate ", " (pairs.map Prod.fst) ++ "]")
      (.array (pairs.map Prod.snd)) := by
  have characters : ("[" ++ String.intercalate ", " (pairs.map Prod.fst) ++ "]").toList =
      '[' :: (itemLine (pairs.map Prod.fst) ++ [']']) := by
    rw [String.toList_append, String.toList_append, String.toList_intercalate]
    rfl
  refine ⟨⟨'[', _, characters, by decide, by decide⟩, fun {fuel depth rest} enough deep _ => ?_⟩
  rw [characters] at enough ⊢
  rw [List.length_cons, List.length_append, List.length_singleton] at enough
  obtain ⟨fuel, rfl⟩ : ∃ less, fuel = less + 1 := ⟨fuel - 1, by omega⟩
  obtain ⟨depth, rfl⟩ : ∃ less, depth = less + 1 := ⟨depth - 1, by omega⟩
  have opened (source : List Char) : value? (fuel + 1) (depth + 1) ('[' :: source) =
      (items? fuel depth source).map fun (items, rest) => (.array items, rest) := by
    rw [value?, if_neg (Nat.succ_ne_zero depth)]
    rfl
  rw [List.cons_append, List.append_assoc, List.singleton_append, opened]
  cases pairs with
  | nil =>
      obtain ⟨fuel, rfl⟩ : ∃ less, fuel = less + 1 := ⟨fuel - 1, by omega⟩
      have closing := items?_closing fuel depth rest
      rw [show itemLine (([] : List (String × WrittenValue)).map Prod.fst) = [] from rfl, List.nil_append,
        closing]
      rfl
  | cons pair pairs =>
      rw [items?_itemLine (List.cons_ne_nil _ _) reads (Nat.le_of_succ_le_succ deep) (by omega)]
      rfl

/-! ## Values that can be written -/

/-- Whether a value is written on one line and read back, with arrays nested up to some height. -/
def Legible (height : Nat) (value : Json) : Prop :=
  ∃ text, valueText? value = some text ∧ Reads height text (ofJson value)

theorem Legible.mono {value : Json} (legible : Legible height value) {limit : Nat}
    (atMost : height ≤ limit) : Legible limit value := by
  obtain ⟨text, written, reads⟩ := legible
  exact ⟨text, written, reads.mono atMost⟩

/-- Whether a float is read back from its text. -/
def ReadsBack (x : Float) : Prop := scalar? (realText x).toList = some (.real x)

theorem legible_real {x : Float} (readsBack : ReadsBack x) : Legible 0 (.real x) :=
  ⟨realText x, by rw [valueText?], .word (fun _ => isWordChar_of_mem_realText) readsBack⟩

theorem legible_bool (truth : Bool) : Legible 0 (.bool truth) := by
  refine ⟨if truth then "true" else "false", by rw [valueText?], .word ?_ ?_⟩
  · cases truth <;> exact fun c => isWordChar_literal rfl
  · cases truth <;> rfl

theorem legible_integer {n : Int} (least : leastInteger ≤ n) (bound : n < integerBound) :
    Legible 0 (.integer n) :=
  ⟨toString n, by rw [valueText?],
    .word (fun c member => isWordChar_of_isNumberChar (Decimal.isNumberChar_toString n c member))
      (scalar?_integer least bound)⟩

theorem legible_text (content : String) : Legible 0 (.text content) :=
  ⟨quotedText content, by rw [valueText?], .quoted content⟩

theorem exists_itemTexts {items : List Json} (legible : ∀ item ∈ items, Legible height item) :
    ∃ pairs : List (String × WrittenValue), itemTexts items = pairs.map Prod.fst ∧
      ofItems items = pairs.map Prod.snd ∧ ∀ pair ∈ pairs, Reads height pair.1 pair.2 := by
  induction items with
  | nil => exact ⟨[], by rw [itemTexts]; rfl, by rw [ofItems]; rfl, by simp⟩
  | cons item items inductionHypothesis =>
      obtain ⟨text, written, reads⟩ := legible item List.mem_cons_self
      obtain ⟨pairs, texts, values, all⟩ :=
        inductionHypothesis fun item member => legible item (List.mem_cons_of_mem _ member)
      refine ⟨(text, ofJson item) :: pairs, ?_, ?_, List.forall_mem_cons.mpr ⟨reads, all⟩⟩
      · rw [itemTexts, written, texts]
        rfl
      · rw [ofItems, values]
        rfl

theorem legible_array {items : List Json} (legible : ∀ item ∈ items, Legible height item) :
    Legible (height + 1) (.array items) := by
  obtain ⟨pairs, texts, values, all⟩ := exists_itemTexts legible
  refine ⟨_, by rw [valueText?], ?_⟩
  rw [texts, ofJson, values]
  exact .array all

/-! ## Keys -/

/-- Whether a name is written as a key without quotes. -/
def IsKey (name : String) : Prop := name ≠ "" ∧ ∀ c ∈ name.toList, isKeyChar c = true

instance (name : String) : Decidable (IsKey name) :=
  decidable_of_iff (name ≠ "" ∧ name.toList.all isKeyChar = true) (and_congr_right' List.all_eq_true)

variable {name key : String}

theorem IsKey.keyText (isKey : IsKey name) : keyText name = name := by
  have plain : (name != "" && name.toList.all isKeyChar) = true := by
    rw [Bool.and_eq_true, bne_iff_ne, List.all_eq_true]
    exact isKey
  exact if_pos plain

theorem IsKey.exists_cons (isKey : IsKey name) :
    ∃ c more, name.toList = c :: more ∧ isKeyChar c = true := by
  cases characters : name.toList with
  | nil => exact absurd (String.toList_eq_nil_iff.mp characters) isKey.1
  | cons c more => exact ⟨c, more, rfl, isKey.2 c (by rw [characters]; exact List.mem_cons_self)⟩

theorem ne_of_isKeyChar {c mark : Char} (keyChar : isKeyChar c = true) (other : isKeyChar mark = false) :
    c ≠ mark := by
  rintro rfl
  exact absurd (other.symm.trans keyChar) (by decide)

theorem skipSpaces_cons {c : Char} (space : c ≠ ' ') (tab : c ≠ '\t') (source : List Char) :
    skipSpaces (c :: source) = c :: source := by
  simp [skipSpaces, space, tab]

theorem keyPart?_append (isKey : IsKey name) (stop : ∀ c ∈ rest.head?, isKeyChar c = false) :
    keyPart? (name.toList ++ rest) = some (name, rest) := by
  have cut : (name.toList ++ rest).span isKeyChar = (name.toList, rest) := by
    rw [List.span_eq_takeWhile_dropWhile, List.takeWhile_append_of_pos isKey.2,
      List.dropWhile_append_of_pos isKey.2]
    cases rest with
    | nil => simp
    | cons c more => simp [stop c rfl]
  obtain ⟨c, more, characters, keyChar⟩ := isKey.exists_cons
  have step : keyPart? (name.toList ++ rest) =
      if name.toList.isEmpty then none else some (String.ofList name.toList, rest) := by
    rw [keyPart?]
    · rw [cut]
    all_goals
      rw [characters]
      rintro _ ⟨⟩
      exact ne_of_isKeyChar keyChar (by decide) rfl
  rw [step, if_neg (by simp [characters]), String.ofList_toList]

/-- A key of one part, and what follows the blanks behind it. -/
theorem key?_append (isKey : IsKey name) (stop : ∀ c ∈ rest.head?, isKeyChar c = false)
    (last : ∀ more, skipSpaces rest ≠ '.' :: more) :
    key? (name.toList ++ rest) = some ([name], skipSpaces rest) := by
  obtain ⟨c, more, characters, keyChar⟩ := isKey.exists_cons
  have unspaced : skipSpaces (name.toList ++ rest) = name.toList ++ rest := by
    rw [characters, List.cons_append]
    exact skipSpaces_cons (ne_of_isKeyChar keyChar (by decide)) (ne_of_isKeyChar keyChar (by decide)) _
  rw [key?, nestingLimit, keyParts?, unspaced, keyPart?_append isKey stop]
  dsimp only [Option.bind_eq_bind, Option.bind_some]
  split
  · exact absurd ‹_› (last _)
  · rfl

/-! ## Lines -/

namespace Document

/-- Whether the lines of a text lead from a document to another one. -/
def Leads (document : Document) (source : List Char) (last : Document) : Prop :=
  ∀ fuel, source.length < fuel → lines? fuel document source = some last

variable {document last : Document} {root entries : Members}

theorem leads_nil (document : Document) : Leads document [] document := by
  intro fuel enough
  obtain ⟨fuel, rfl⟩ := Nat.exists_eq_succ_of_ne_zero (Nat.ne_of_gt enough)
  rfl

/-- A line is read, and then the lines after it. -/
theorem Leads.line {c : Char} {more : List Char} {next : Document} (visible : isGap c = false)
    (read : ∀ fuel, (c :: more).length ≤ fuel → document.line? fuel (c :: more) = some (next, rest))
    (shorter : rest.length ≤ more.length) (later : Leads next rest last) :
    Leads document (c :: more) last := by
  intro fuel enough
  obtain ⟨fuel, rfl⟩ : ∃ less, fuel = less + 1 := ⟨fuel - 1, by omega⟩
  rw [List.length_cons] at enough
  have lines := later fuel (by omega)
  rw [lines?, skipBreaks_cons visible]
  split
  · exact absurd ‹_› (List.cons_ne_nil _ _)
  · rename_i same
    obtain rfl := (List.cons.inj same).1
    exact absurd visible (by decide)
  · rw [read fuel (by rw [List.length_cons]; omega)]
    exact lines

theorem Leads.lineBreak (later : Leads document source last) : Leads document ('\n' :: source) last := by
  intro fuel enough
  rw [List.length_cons] at enough
  obtain ⟨fuel, rfl⟩ : ∃ less, fuel = less + 1 := ⟨fuel - 1, by omega⟩
  exact later (fuel + 1) (by omega)

theorem line?_header (isKey : IsKey name) (fresh : Keyed.find? root name = none) (path : List String)
    (fuel : Nat) (rest : List Char) :
    line? fuel ⟨root, path⟩ ('[' :: (name.toList ++ ']' :: '\n' :: rest)) =
      some (⟨Keyed.put root name (.table .header []), [name]⟩, rest) := by
  have named := @key?_append (']' :: '\n' :: rest) name isKey
    (fun c head => by obtain rfl := Option.some.inj head; decide) (by simp [skipSpaces])
  have opened : withHeader? ⟨root, path⟩ [name] Members.openTable? =
      some ⟨Keyed.put root name (.table .header []), [name]⟩ := by
    simp [withHeader?, splitKey?, Members.within?, Members.openTable?, fresh]
  obtain ⟨c, more, characters, keyChar⟩ := isKey.exists_cons
  rw [line?]
  · rw [named]
    change (withHeader? _ _ _).bind _ = _
    rw [opened]
    rfl
  · rw [characters]
    rintro _ ⟨⟩
    exact ne_of_isKeyChar keyChar (by decide) rfl

theorem line?_entry (isKey : IsKey key) (fresh : Keyed.find? entries key = none)
    (reads : Reads nestingLimit text value) {fuel : Nat} (enough : text.toList.length ≤ fuel)
    (root : Members) (name : String) (rest : List Char) :
    line? fuel ⟨Keyed.put root name (.table .header entries), [name]⟩
        (key.toList ++ ' ' :: '=' :: ' ' :: (text.toList ++ '\n' :: rest)) =
      some (⟨Keyed.put root name (.table .header (Keyed.put entries key (.value value))), [name]⟩,
        rest) := by
  have named := @key?_append (' ' :: '=' :: ' ' :: (text.toList ++ '\n' :: rest)) key isKey
    (fun c head => by obtain rfl := Option.some.inj head; decide) (by simp [skipSpaces])
  have assigned : withValue? ⟨Keyed.put root name (.table .header entries), [name]⟩ [key] value =
      some ⟨Keyed.put root name (.table .header (Keyed.put entries key (.value value))), [name]⟩ := by
    simp [withValue?, splitKey?, Members.within?, Members.assign?, Keyed.find?_put, Keyed.has, fresh,
      Keyed.put_put]
  have found := reads.read enough (Nat.le_refl _) (ends_break rest)
  obtain ⟨d, others, begins, visible, _⟩ := reads.opens
  have unspaced : skipSpaces (' ' :: (text.toList ++ '\n' :: rest)) = text.toList ++ '\n' :: rest := by
    have apart {mark : Char} (gap : isGap mark = true) : d ≠ mark := by
      rintro rfl
      exact absurd (visible.symm.trans gap) (by decide)
    rw [begins]
    exact skipSpaces_cons (apart (by decide)) (apart (by decide)) _
  obtain ⟨c, more, characters, keyChar⟩ := isKey.exists_cons
  rw [line?]
  · rw [named]
    change (value? fuel nestingLimit (skipSpaces (' ' :: (text.toList ++ '\n' :: rest)))).bind _ = _
    rw [unspaced, found]
    change (withValue? _ _ _).bind _ = _
    rw [assigned]
    rfl
  all_goals
    rw [characters]
    intro _ same
    exact ne_of_isKeyChar keyChar (by decide) (List.cons.inj same).1

/-! ## Sections -/

/-- A header in front of a line break opens a table. -/
theorem Leads.header (isKey : IsKey name) (fresh : Keyed.find? root name = none) (path : List String)
    (later : Leads ⟨Keyed.put root name (.table .header []), [name]⟩ rest last) :
    Leads ⟨root, path⟩ ('\n' :: '[' :: (name.toList ++ ']' :: '\n' :: rest)) last := by
  refine .lineBreak (.line (by decide) (fun fuel _ => line?_header isKey fresh path fuel rest) ?_ later)
  simp only [List.length_append, List.length_cons]
  omega

/-- A line with a key and a value adds them to the table of the last header. -/
theorem Leads.entry (isKey : IsKey key) (fresh : Keyed.find? entries key = none)
    (reads : Reads nestingLimit text value)
    (later : Leads ⟨Keyed.put root name (.table .header (Keyed.put entries key (.value value))), [name]⟩
      rest last) :
    Leads ⟨Keyed.put root name (.table .header entries), [name]⟩
      (key.toList ++ ' ' :: '=' :: ' ' :: (text.toList ++ '\n' :: rest)) last := by
  have read (fuel : Nat)
      (enough : (key.toList ++ ' ' :: '=' :: ' ' :: (text.toList ++ '\n' :: rest)).length ≤ fuel) :=
    @line?_entry text value key entries isKey fresh reads fuel
      (by simp only [List.length_append, List.length_cons] at enough; omega) root name rest
  obtain ⟨c, more, characters, keyChar⟩ := isKey.exists_cons
  have visible : isGap c = false := isGap_of_apart keyChar (by decide)
  rw [characters, List.cons_append] at read ⊢
  refine .line visible read ?_ later
  simp only [List.length_append, List.length_cons]
  omega

end Document

/-- The members of an object that have a form in TOML. -/
def shownMembers (members : List (String × Json)) : List (String × Json) :=
  members.filter fun member => (valueText? member.2).isSome

/-- Members with different keys, each null or written on one line. -/
structure LegibleMembers (members : List (String × Json)) : Prop where
  key : ∀ member ∈ members, IsKey member.1
  once : (members.map Prod.fst).Nodup
  value : ∀ member ∈ members, member.2 = .null ∨ Legible nestingLimit member.2

/-- The table of the members that are shown. -/
def nodes (members : List (String × Json)) : Members :=
  (shownMembers members).map fun (name, value) => (name, .value (ofJson value))

theorem nodes_cons_of_none {member : String × Json} (missing : valueText? member.2 = none)
    (members : List (String × Json)) : nodes (member :: members) = nodes members := by
  rw [nodes, shownMembers, List.filter_cons_of_neg (by simp [missing])]
  rfl

theorem nodes_cons_of_some {member : String × Json} (written : valueText? member.2 = some text)
    (members : List (String × Json)) :
    nodes (member :: members) = (member.1, .value (ofJson member.2)) :: nodes members := by
  rw [nodes, shownMembers, List.filter_cons_of_pos (by simp [written])]
  rfl

theorem writtenMembers_nodes (members : List (String × Json)) :
    Node.writtenMembers (nodes members) = ofMembers (shownMembers members) := by
  unfold nodes
  induction shownMembers members with
  | nil => rw [List.map_nil, Node.writtenMembers, ofMembers]
  | cons member members inductionHypothesis =>
      rw [List.map_cons, Node.writtenMembers, inductionHypothesis, Node.written, ofMembers]

/-- Lines, each with its line break. -/
def lineChars (lines : List String) : List Char := lines.flatMap fun line => line.toList ++ ['\n']

theorem toList_unlines (lines : List String) : (unlines lines).toList = lineChars lines := by
  simp only [unlines, String.toList_join, List.flatMap_map, String.toList_append, lineChars]
  rfl

theorem lineChars_cons (line : String) (lines : List String) :
    lineChars (line :: lines) = line.toList ++ '\n' :: lineChars lines := by
  simp [lineChars]

namespace Document

variable {last : Document} {root entries : Members}

theorem Leads.members {members : List (String × Json)} (legible : LegibleMembers members)
    (fresh : ∀ member ∈ members, member.1 ∉ Keyed.keys entries)
    (later : Leads ⟨Keyed.put root name (.table .header (entries ++ nodes members)), [name]⟩ rest last) :
    Leads ⟨Keyed.put root name (.table .header entries), [name]⟩
      (lineChars (memberTexts members) ++ rest) last := by
  induction members generalizing entries with
  | nil =>
      rw [show nodes [] = [] from rfl, List.append_nil] at later
      rw [memberTexts]
      exact later
  | cons member members inductionHypothesis =>
      obtain ⟨key, value⟩ := member
      obtain ⟨isKey, keys⟩ := List.forall_mem_cons.mp legible.key
      obtain ⟨unlike, once⟩ := List.nodup_cons.mp legible.once
      obtain ⟨first, values⟩ := List.forall_mem_cons.mp legible.value
      obtain ⟨absent, fresh⟩ := List.forall_mem_cons.mp fresh
      have others : LegibleMembers members := ⟨keys, once, values⟩
      rcases first with null | ⟨text, written, reads⟩
      · have missing : valueText? value = none := by rw [show value = .null from null, valueText?]
        rw [nodes_cons_of_none missing] at later
        rw [memberTexts, missing]
        exact inductionHypothesis others fresh later
      · have added : Keyed.put entries key (.value (ofJson value)) =
            entries ++ [(key, .value (ofJson value))] := Keyed.put_of_not_mem absent _
        rw [nodes_cons_of_some written, List.append_cons, ← added] at later
        have line : (keyText key ++ " = " ++ text).toList =
            key.toList ++ ' ' :: '=' :: ' ' :: text.toList := by
          rw [IsKey.keyText isKey, String.toList_append, String.toList_append, List.append_assoc]
          rfl
        rw [memberTexts, written, lineChars_cons, line]
        simp only [List.append_assoc, List.cons_append]
        refine .entry isKey (Keyed.find?_eq_none_iff.mpr absent) reads (inductionHypothesis others ?_ later)
        intro member present
        rw [added, Keyed.keys, List.map_append, List.mem_append, not_or]
        refine ⟨fresh member present, fun same => unlike ?_⟩
        rw [← List.mem_singleton.mp same]
        exact List.mem_map_of_mem present

/-- The lines of one section. -/
theorem Leads.section {members : List (String × Json)} (isKey : IsKey name)
    (legible : LegibleMembers members) (fresh : name ∉ Keyed.keys root) (path : List String)
    (later : Leads ⟨root ++ [(name, .table .header (nodes members))], [name]⟩ rest last) :
    Leads ⟨root, path⟩
      (lineChars ("" :: ("[" ++ keyText name ++ "]") :: memberTexts members) ++ rest) last := by
  have header : ("[" ++ keyText name ++ "]").toList = '[' :: (name.toList ++ [']']) := by
    rw [isKey.keyText, String.toList_append, String.toList_append]
    rfl
  rw [lineChars_cons, lineChars_cons, header]
  simp only [List.append_assoc, List.cons_append, List.nil_append, String.toList_empty]
  refine .header isKey (Keyed.find?_eq_none_iff.mpr fresh) path (.members legible (by simp [Keyed.keys]) ?_)
  rw [List.nil_append, Keyed.put_of_not_mem fresh]
  exact later

end Document

/-! ## Documents -/

/-- The lines of sections. -/
def sectionLines (sections : List (String × List (String × Json))) : List String :=
  sections.flatMap fun (name, members) => "" :: ("[" ++ keyText name ++ "]") :: memberTexts members

theorem write_sections (sections : List (String × List (String × Json))) :
    write (sections.map fun (name, members) => (name, .object members)) =
      unlines (sectionLines sections) := by
  have plain : (sections.map fun (name, members) => (name, Json.object members)).filter
      (fun member => (section? member.2).isNone) = [] := by
    rw [List.filter_eq_nil_iff]
    intro member present
    obtain ⟨_, _, rfl⟩ := List.mem_map.mp present
    exact Bool.false_ne_true
  have inner : (sections.map fun (name, members) => (name, Json.object members)).filterMap
      (fun (name, value) => (section? value).map fun inner => (name, inner)) = sections := by
    rw [List.filterMap_map]
    exact List.filterMap_some
  unfold write
  dsimp only
  rw [plain, inner, memberTexts, List.nil_append]
  rfl

open Document in
theorem exists_leads {sections : List (String × List (String × Json))} {root : Members}
    (key : ∀ part ∈ sections, IsKey part.1) (legible : ∀ part ∈ sections, LegibleMembers part.2)
    (once : (sections.map Prod.fst).Nodup) (fresh : ∀ part ∈ sections, part.1 ∉ Keyed.keys root)
    (path : List String) :
    ∃ last, Leads ⟨root, path⟩ (lineChars (sectionLines sections)) last ∧
      last.root = root ++ sections.map fun (name, members) => (name, .table .header (nodes members)) := by
  induction sections generalizing root path with
  | nil => exact ⟨_, leads_nil _, (List.append_nil root).symm⟩
  | cons part sections inductionHypothesis =>
      obtain ⟨name, members⟩ := part
      obtain ⟨isKey, keys⟩ := List.forall_mem_cons.mp key
      obtain ⟨readable, others⟩ := List.forall_mem_cons.mp legible
      obtain ⟨unlike, once⟩ := List.nodup_cons.mp once
      obtain ⟨absent, fresh⟩ := List.forall_mem_cons.mp fresh
      have apart : ∀ part ∈ sections,
          part.1 ∉ Keyed.keys (root ++ [(name, .table .header (nodes members))]) := by
        intro part present
        rw [Keyed.keys, List.map_append, List.mem_append, not_or]
        refine ⟨fresh part present, fun same => unlike ?_⟩
        rw [← List.mem_singleton.mp same]
        exact List.mem_map_of_mem present
      obtain ⟨last, later, tables⟩ := inductionHypothesis keys others once apart [name]
      refine ⟨last, ?_, by rw [tables, List.append_assoc]; rfl⟩
      rw [sectionLines, List.flatMap_cons, lineChars, List.flatMap_append]
      exact .section isKey readable absent path later

theorem writtenMembers_tables (sections : List (String × List (String × Json))) :
    Node.writtenMembers (sections.map fun (name, members) => (name, .table .header (nodes members))) =
      sections.map fun (name, members) => (name, .object (ofMembers (shownMembers members))) := by
  induction sections with
  | nil => rw [List.map_nil, List.map_nil, Node.writtenMembers]
  | cons part sections inductionHypothesis =>
      rw [List.map_cons, List.map_cons, Node.writtenMembers, inductionHypothesis, Node.written,
        writtenMembers_nodes]

/-- Sections are read back with the members that are shown. -/
theorem read?_write {sections : List (String × List (String × Json))}
    (key : ∀ part ∈ sections, IsKey part.1) (legible : ∀ part ∈ sections, LegibleMembers part.2)
    (once : (sections.map Prod.fst).Nodup) :
    read? (write (sections.map fun (name, members) => (name, .object members))) =
      some (.object
        (sections.map fun (name, members) => (name, .object (ofMembers (shownMembers members))))) := by
  obtain ⟨last, leads, tables⟩ := @exists_leads sections [] key legible once (by simp [Keyed.keys]) []
  have unmarked : dropMark (lineChars (sectionLines sections)) = lineChars (sectionLines sections) := by
    cases sections with
    | nil => rfl
    | cons part sections => rfl
  rw [write_sections, read?, toList_unlines]
  dsimp only
  rw [unmarked]
  change (Document.lines? _ ⟨[], []⟩ _).map _ = _
  rw [leads _ (by omega), Option.map_some, tables, List.nil_append, writtenMembers_tables]

end ObjectQuery.Toml
