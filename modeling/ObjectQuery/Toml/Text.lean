import ObjectQuery.Json.Reader
/-!
# TOML text

Text in quotes, of four kinds: between single or double quotes on one line, and between three of
either over several lines. Between double quotes a backslash begins an escape.
-/

namespace ObjectQuery.Toml

/-- Whether a character may stand in text and comments: all but the controls, of which only the
tabulator may. -/
def isPlain (c : Char) : Bool := c == '\t' || (decide (0x20 ≤ c.toNat) && c.toNat != 0x7f)

def charOf? (n : Nat) : Option Char :=
  if n < 0xD800 ∨ (0xE000 ≤ n ∧ n < 0x110000) then some (Char.ofNat n) else none

def hexChar? (digits : List Char) : Option Char := do
  let values ← digits.mapM Json.hexDigit?
  charOf? (values.foldl (fun n value => n * 16 + value) 0)

/-- The character that a letter after a backslash stands for. -/
def letterEscape? (c : Char) : Option Char :=
  if c = 'e' then some '\x1b' else if c = '/' then none else Json.letterEscape? c

/-- How many digits follow the letter of an escape by number. -/
def escapeDigits? (c : Char) : Option Nat :=
  if c = 'x' then some 2 else if c = 'u' then some 4 else if c = 'U' then some 8 else none

/-- The character that an escape after its backslash stands for, and what follows it. -/
def escape? : List Char → Option (Char × List Char)
  | [] => none
  | letter :: rest =>
    match escapeDigits? letter with
    | some count =>
      if rest.length < count then none
      else (hexChar? (rest.take count)).map fun c => (c, rest.drop count)
    | none => (letterEscape? letter).map fun c => (c, rest)

/-- Every escape takes up at least one character. -/
theorem length_of_escape? {source rest : List Char} {c : Char}
    (found : escape? source = some (c, rest)) :
    rest.length < source.length := by
  unfold escape? at found
  split at found
  · simp at found
  · split at found
    · split at found
      · simp at found
      · obtain ⟨_, _, same⟩ := Option.map_eq_some_iff.mp found
        simp only [Prod.mk.injEq] at same
        rw [← same.2]
        simp only [List.length_cons, List.length_drop]
        omega
    · obtain ⟨_, _, same⟩ := Option.map_eq_some_iff.mp found
      simp only [Prod.mk.injEq] at same
      rw [← same.2]
      simp

/-- The text up to the closing double quote, and what follows it. -/
def basic? (source : List Char) : Option (List Char × List Char) :=
  match source with
  | [] => none
  | '"' :: rest => some ([], rest)
  | '\\' :: rest =>
    match _ : escape? rest with
    | some (c, rest) => (basic? rest).map fun (content, rest) => (c :: content, rest)
    | none => none
  | c :: rest =>
    if isPlain c then (basic? rest).map fun (content, rest) => (c :: content, rest) else none
termination_by source.length
decreasing_by
  · have shorter := length_of_escape? ‹_›
    simp only [List.length_cons]
    omega
  · simp

/-- The text up to the closing single quote, and what follows it. -/
def literal? : List Char → Option (List Char × List Char)
  | [] => none
  | '\'' :: rest => some ([], rest)
  | c :: rest =>
    if isPlain c then (literal? rest).map fun (content, rest) => (c :: content, rest) else none

/-! ## Several lines -/

def dropBreak : List Char → List Char
  | '\n' :: rest => rest
  | '\r' :: '\n' :: rest => rest
  | source => source

/-- What follows blanks and line breaks. -/
def skipBreaks : List Char → List Char
  | ' ' :: rest => skipBreaks rest
  | '\t' :: rest => skipBreaks rest
  | '\n' :: rest => skipBreaks rest
  | '\r' :: '\n' :: rest => skipBreaks rest
  | source => source

theorem length_skipBreaks (source : List Char) : (skipBreaks source).length ≤ source.length := by
  fun_induction skipBreaks source <;> simp_all <;> omega

/-- What follows a backslash at the end of a line: nothing but blanks up to the line break, which are
left out with all blanks and line breaks after it. -/
def joinedLine? (source : List Char) : Option (List Char) :=
  match source.dropWhile fun c => c == ' ' || c == '\t' with
  | '\n' :: rest => some (skipBreaks rest)
  | '\r' :: '\n' :: rest => some (skipBreaks rest)
  | _ => none

theorem length_of_joinedLine? {source rest : List Char} (found : joinedLine? source = some rest) :
    rest.length < source.length := by
  have shorter : ∀ (p : Char → Bool) (l : List Char), (l.dropWhile p).length ≤ l.length := by
    intro p l
    induction l with
    | nil => simp
    | cons c l ih =>
      rw [List.dropWhile_cons]
      split
      · simp only [List.length_cons]
        omega
      · simp
  have whole := shorter (fun c => c == ' ' || c == '\t') source
  unfold joinedLine? at found
  split at found
  · rename_i tail same
    rw [same] at whole
    have trimmed := length_skipBreaks tail
    simp only [Option.some.injEq] at found
    rw [← found]
    simp only [List.length_cons] at whole
    omega
  · rename_i tail same
    rw [same] at whole
    have trimmed := length_skipBreaks tail
    simp only [Option.some.injEq] at found
    rw [← found]
    simp only [List.length_cons] at whole
    omega
  · simp at found

/-- Text of several lines up to three closing quotes, of which one or two more may stand before the
closing ones, and what follows. Line breaks are kept as they are written. -/
def lines? (quote : Char) (source : List Char) : Option (List Char × List Char) :=
  match source with
  | [] => none
  | c :: rest =>
    if c = quote && rest.take 2 == [quote, quote] then
      let extra := min ((rest.drop 2).takeWhile (· == quote)).length 2
      some (List.replicate extra quote, rest.drop (2 + extra))
    else if c = '\\' && quote = '"' then
      match _ : joinedLine? rest with
      | some rest => lines? quote rest
      | none =>
        match _ : escape? rest with
        | some (c, rest) => (lines? quote rest).map fun (content, rest) => (c :: content, rest)
        | none => none
    else if isPlain c || c = '\n' || (c = '\r' && rest.head? == some '\n') then
      (lines? quote rest).map fun (content, rest) => (c :: content, rest)
    else none
termination_by source.length
decreasing_by
  · have shorter := length_of_joinedLine? ‹_›
    simp only [List.length_cons]
    omega
  · have shorter := length_of_escape? ‹_›
    simp only [List.length_cons]
    omega
  · simp

/-- The text in quotes at the head, and what follows it. -/
def quoted? : List Char → Option (List Char × List Char)
  | '"' :: '"' :: '"' :: rest => lines? '"' (dropBreak rest)
  | '"' :: rest => basic? rest
  | '\'' :: '\'' :: '\'' :: rest => lines? '\'' (dropBreak rest)
  | '\'' :: rest => literal? rest
  | _ => none

end ObjectQuery.Toml
