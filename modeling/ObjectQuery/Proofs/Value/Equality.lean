import ObjectQuery.Proofs.Number.Integers
import ObjectQuery.Proofs.Predicate.Comparisons

/-!
# Equality of values

Two values are equal to a predicate if they have the same content (`Value.looseEq_eq_some_true_iff`), which
numbers have by their place on the number line, so that it does not tell all integers apart
(`Value.integers_compared`). The two-valued equality does, which makes it symmetric but not transitive: what
fails is the step from an integer over a float to another integer (`Value.same_symm_trans`).
-/

namespace ObjectQuery

/-! ## Contents -/

theorem sameNumber_iff {x y : Float} :
    x.sameNumber y = true ↔ ∃ place, x.place? = some place ∧ y.place? = some place := by
  unfold Float.sameNumber Float.order?
  cases x.place? with
  | none => simp
  | some first =>
      cases y.place? with
      | none => simp
      | some second => simp [eq_comm (a := first)]

namespace Value

/-- What a value is as far as predicates compare it for equality. -/
inductive Content where
  | null
  | truth (holds : Bool)
  | number (place : Int)
  | text (content : String)
  | box (corners : Box Int)
  | list (items : List Content)
  | picture (origin : PictureOrigin)

/-- The places of the coordinates of a box. -/
def places? (corners : Box Float) : Option (Box Int) := do
  let left ← corners.left.place?
  let top ← corners.top.place?
  let right ← corners.right.place?
  let bottom ← corners.bottom.place?
  return ⟨left, top, right, bottom⟩

mutual

/-- The content of a value. What is invalid has none, nor has what an undefined number is part of. -/
def content? : Value → Option Content
  | .null => some .null
  | .bool truth => some (.truth truth)
  | .int n => (Float.nearestInt n.toInt).place?.map .number
  | .float x => x.place?.map .number
  | .text content => some (.text content)
  | .box corners => (places? corners).map .box
  | .list items => (contents? items).map .list
  | .picture shown => some (.picture shown.origin)
  | .invalid => none

def contents? : List Value → Option (List Content)
  | [] => some []
  | item :: rest => do
    let first ← content? item
    let others ← contents? rest
    return first :: others

end

theorem sameBox_iff {a b : Box Float} :
    sameBox a b = true ↔ ∃ corners, places? a = some corners ∧ places? b = some corners := by
  unfold sameBox places?
  simp only [Bool.and_eq_true, sameNumber_iff]
  constructor
  · rintro ⟨⟨⟨⟨left, hl, hl'⟩, top, ht, ht'⟩, right, hr, hr'⟩, bottom, hb, hb'⟩
    refine ⟨⟨left, top, right, bottom⟩, ?_, ?_⟩
    · simp [hl, ht, hr, hb]
    · simp [hl', ht', hr', hb']
  · rintro ⟨corners, first, second⟩
    simp only [Option.bind_eq_bind, Option.bind_eq_some_iff, Option.pure_def, Option.some.injEq] at first second
    obtain ⟨l, hl, t, ht, r, hr, b, hb, rfl⟩ := first
    obtain ⟨l', hl', t', ht', r', hr', b', hb', same⟩ := second
    obtain ⟨rfl, rfl, rfl, rfl⟩ := Box.mk.inj same
    exact ⟨⟨⟨⟨_, hl, hl'⟩, _, ht, ht'⟩, _, hr, hr'⟩, _, hb, hb'⟩

theorem length_of_contents? : {items : List Value} → {contents : List Content} →
    contents? items = some contents → contents.length = items.length
  | [], contents, made => by
      rw [contents?, Option.some.injEq] at made
      rw [← made]
      rfl
  | item :: rest, contents, made => by
      simp only [contents?, Option.bind_eq_bind, Option.bind_eq_some_iff, Option.pure_def,
        Option.some.injEq] at made
      obtain ⟨first, -, others, left, rfl⟩ := made
      exact congrArg Nat.succ (length_of_contents? left)

mutual

/-- Values are equal to a predicate if they have the same content. -/
theorem looseEq_eq_some_true_iff : (a b : Value) →
    (a.looseEq b = some true ↔ ∃ content, a.content? = some content ∧ b.content? = some content)
  | .null, b => by cases b <;> simp [looseEq, content?]
  | .bool truth, b => by
      cases b with
      | bool other => simp [looseEq, content?, eq_comm (a := truth)]
      | _ => simp [looseEq, content?]
  | .int n, b => by
      cases b <;> simp [looseEq, content?, sameNumber_iff]
  | .float x, b => by
      cases b <;> simp [looseEq, content?, sameNumber_iff]
  | .text content, b => by
      cases b with
      | text other => simp [looseEq, content?, eq_comm (a := content)]
      | _ => simp [looseEq, content?]
  | .box corners, b => by
      cases b <;> simp [looseEq, content?, sameBox_iff]
  | .list items, b => by
      cases b with
      | list others =>
          by_cases lengths : items.length = others.length
          · rw [looseEq, if_pos lengths, looseEqItems_eq_some_true_iff items others lengths]
            simp [content?]
          · have apart (contents : List Content) (first : contents? items = some contents) :
                contents? others ≠ some contents := fun second =>
              lengths ((length_of_contents? first).symm.trans (length_of_contents? second))
            rw [looseEq, if_neg lengths]
            simpa [content?] using apart
      | _ => simp [looseEq, content?]
  | .picture shown, b => by
      cases b with
      | picture other => simp [looseEq, content?, eq_comm (a := shown.origin)]
      | _ => simp [looseEq, content?]
  | .invalid, b => by simp [looseEq, content?]

theorem looseEqItems_eq_some_true_iff : (as bs : List Value) → as.length = bs.length →
    (looseEqItems as bs = some true ↔
      ∃ contents, contents? as = some contents ∧ contents? bs = some contents)
  | [], [], _ => by simp [looseEqItems, contents?]
  | a :: as, b :: bs, lengths => by
      have heads := looseEq_eq_some_true_iff a b
      have tails := looseEqItems_eq_some_true_iff as bs (Nat.succ.inj lengths)
      have both : looseEqItems (a :: as) (b :: bs) = some true ↔
          a.looseEq b = some true ∧ looseEqItems as bs = some true := by
        rw [looseEqItems]
        split
        · rename_i equal
          simp [equal]
        · rename_i unequal
          exact iff_of_false unequal fun both => unequal both.1
      rw [both, heads, tails]
      simp only [contents?, Option.bind_eq_bind, Option.bind_eq_some_iff, Option.pure_def, Option.some.injEq]
      constructor
      · rintro ⟨⟨first, here, there⟩, rest, left, right⟩
        exact ⟨first :: rest, ⟨first, here, rest, left, rfl⟩, first, there, rest, right, rfl⟩
      · rintro ⟨_, ⟨first, here, rest, left, rfl⟩, first', there, rest', right, same⟩
        obtain ⟨rfl, rfl⟩ := List.cons.inj same
        exact ⟨⟨first', here, there⟩, rest', left, right⟩

end

/-! ## Integers -/

theorem natAbs_toInt_lt (n : Int64) : n.toInt.natAbs < 2 ^ 64 := by
  have above := n.toInt_lt
  have below := n.le_toInt
  omega

theorem content?_int (n : Int64) : (Value.int n).content? = some (.number (Float.placeOfInt n.toInt)) := by
  rw [content?, Float.place?_nearestInt (natAbs_toInt_lt n)]
  rfl

variable (m n : Int64)

theorem compare?_int :
    (Value.int m).compare? (.int n) =
      some (compare (Float.roundedInt m.toInt) (Float.roundedInt n.toInt)) :=
  Float.order?_nearestInt (natAbs_toInt_lt m) (natAbs_toInt_lt n)

theorem looseEq_int :
    (Value.int m).looseEq (.int n) =
      some (decide (Float.roundedInt m.toInt = Float.roundedInt n.toInt)) := by
  rw [looseEq_of_compare? (compare?_int m n)]
  by_cases equal : Float.roundedInt m.toInt = Float.roundedInt n.toInt
  · rw [decide_eq_true equal, compare_eq_iff_eq.mpr equal]
    rfl
  · rw [decide_eq_false equal, beq_eq_false_iff_ne.mpr (mt compare_eq_iff_eq.mp equal)]

theorem same_int : (Value.int m).same (.int n) = decide (m = n) :=
  beq_eq_decide m n

/-- Predicates compare integers as integers exactly where rounding leaves the two apart. -/
theorem compared_exactly_iff :
    ((Value.int m).looseEq (.int n) = some ((Value.int m).same (.int n)) ∧
        (Value.int m).compare? (.int n) = some (compare m.toInt n.toInt)) ↔
      (m ≠ n → Float.roundedInt m.toInt ≠ Float.roundedInt n.toInt) := by
  rw [looseEq_int, compare?_int, same_int]
  constructor
  · rintro ⟨equality, -⟩ different rounded
    rw [decide_eq_true rounded, decide_eq_false different] at equality
    exact absurd equality (by decide)
  · intro apart
    have values : m.toInt ≠ n.toInt → Float.roundedInt m.toInt ≠ Float.roundedInt n.toInt := fun different =>
      apart (mt (congrArg Int64.toInt) different)
    refine ⟨congrArg some (decide_eq_decide.mpr ?_), congrArg some (Float.compare_roundedInt values)⟩
    exact ⟨not_imp_not.mp apart, fun equal => congrArg (fun k : Int64 => Float.roundedInt k.toInt) equal⟩

/-- Predicates compare integers by what is left of them as floats, and the two-valued equality compares them
whole. So they agree as far as rounding leaves the integers apart, which it does up to `2 ^ 53`. Beyond that
predicates never reverse the order of two integers, and those that they do not tell apart differ by at most
the share of one in `2 ^ 53` that each is moved by. -/
theorem integers_compared :
    (Value.int m).looseEq (.int n) =
        some (decide (Float.roundedInt m.toInt = Float.roundedInt n.toInt)) ∧
      (Value.int m).compare? (.int n) =
        some (compare (Float.roundedInt m.toInt) (Float.roundedInt n.toInt)) ∧
      (Value.int m).same (.int n) = decide (m = n) ∧
      (((Value.int m).looseEq (.int n) = some ((Value.int m).same (.int n)) ∧
          (Value.int m).compare? (.int n) = some (compare m.toInt n.toInt)) ↔
        (m ≠ n → Float.roundedInt m.toInt ≠ Float.roundedInt n.toInt)) ∧
      (m.toInt.natAbs ≤ 2 ^ 53 → n.toInt.natAbs ≤ 2 ^ 53 →
        (Value.int m).looseEq (.int n) = some ((Value.int m).same (.int n)) ∧
          (Value.int m).compare? (.int n) = some (compare m.toInt n.toInt)) ∧
      (m < n → (Value.int m).compare? (.int n) ≠ some .gt) ∧
      ((Value.int m).looseEq (.int n) = some true →
        2 ^ 53 * (m.toInt - n.toInt).natAbs ≤ m.toInt.natAbs + n.toInt.natAbs) := by
  refine ⟨looseEq_int m n, compare?_int m n, same_int m n, compared_exactly_iff m n, ?_, ?_, ?_⟩
  · intro first second
    rw [compared_exactly_iff, Float.roundedInt_of_natAbs_le first, Float.roundedInt_of_natAbs_le second]
    exact fun different => mt Int64.toInt_inj.mp different
  · intro less reversed
    rw [compare?_int, Option.some.injEq, compare_gt_iff_gt] at reversed
    have ordered := Float.roundedInt_mono (Int.le_of_lt (Int64.lt_iff_toInt_lt.mp less))
    exact absurd reversed (Int.not_lt.mpr ordered)
  · intro equal
    rw [looseEq_int, Option.some.injEq, decide_eq_true_eq] at equal
    have first := Float.near_roundedInt m.toInt
    have second := Float.near_roundedInt n.toInt
    rw [equal] at first
    omega

theorem integers_compared_neighbours :
    (Value.int 9007199254740992).compare? (.int 9007199254740991) = some .gt ∧
      (Value.int 9007199254740992).looseEq (.int 9007199254740991) = some false ∧
      (Value.int 9007199254740992).compare? (.int 9007199254740994) ≠ some .gt ∧
      2 ^ 53 * ((9007199254740992 : Int64).toInt - (9007199254740993 : Int64).toInt).natAbs ≤
        (9007199254740992 : Int64).toInt.natAbs + (9007199254740993 : Int64).toInt.natAbs := by
  obtain ⟨_, _, _, _, whole, _⟩ := integers_compared 9007199254740992 9007199254740991
  obtain ⟨_, _, _, _, _, ordered, _⟩ := integers_compared 9007199254740992 9007199254740994
  obtain ⟨_, _, _, _, _, _, near⟩ := integers_compared 9007199254740992 9007199254740993
  have told := whole (by decide) (by decide)
  exact ⟨told.2, told.1, ordered (by decide), near (by decide +kernel)⟩

end Value

namespace Hashed

def file : ObjectType := .declare "File" "file" []

def hash : PropertyRef := ⟨file, "hash"⟩

def stored : ObjectRecord := ObjectRecord.empty.insert "hash" (.int 9007199254740992)

/-- The first two integers that predicates do not tell apart. -/
theorem integers_not_told_apart :
    (Value.int 9007199254740992).looseEq (.int 9007199254740993) = some true ∧
      (Value.int 9007199254740992).compare? (.int 9007199254740993) = some .eq ∧
      (Value.int 9007199254740992).same (.int 9007199254740993) = false ∧
      (hash.eq (.literal (.int 9007199254740993))).holds "file" stored = true ∧
      (hash.lt (.literal (.int 9007199254740993))).holds "file" stored = false := by
  decide +kernel

end Hashed

namespace Value

/-! ## The two-valued equality -/

/-- Two values are the same if both are invalid, or if they have the same content and are not two different
integers. -/
theorem same_iff {a b : Value} :
    a.same b = true ↔
      (a = .invalid ∧ b = .invalid) ∨
        ((∃ content, a.content? = some content ∧ b.content? = some content) ∧
          ∀ m n, a = .int m → b = .int n → m = n) := by
  rw [← looseEq_eq_some_true_iff]
  fun_cases Value.same a b with
  | case1 => simp [looseEq]
  | case2 m n =>
      have equal : m = n → (Value.int m).looseEq (.int n) = some true := by
        rintro rfl
        rw [looseEq_int, decide_eq_true rfl]
      simpa using equal
  | case3 x y => simp [looseEq]
  | case4 _ _ valid apart _ =>
      have invalid : ¬ (a = .invalid ∧ b = .invalid) := fun both => valid both.1 both.2
      have integers : ∀ m n, a = .int m → b = .int n → m = n := fun m n first second =>
        (apart m n first second).elim
      rw [Option.getD_eq_iff]
      simpa [invalid] using fun _ => integers

variable {a b c : Value}

theorem same_symm (equal : a.same b = true) : b.same a = true := by
  rcases same_iff.mp equal with ⟨rfl, rfl⟩ | ⟨⟨content, first, second⟩, integers⟩
  · rfl
  · exact same_iff.mpr
      (.inr ⟨⟨content, second, first⟩, fun m n here there => (integers n m there here).symm⟩)

/-- Only numbers have the content of an integer. -/
theorem number_of_content? {n : Int64} (equal : b.content? = (Value.int n).content?) :
    (∃ m, b = .int m) ∨ ∃ x, b = .float x := by
  rw [content?_int] at equal
  cases b <;> simp [content?] at equal ⊢

/-- Two values that are the same as a third one are the same, except for two integers and a float. -/
theorem same_trans_iff (first : a.same b = true) (second : b.same c = true) :
    a.same c = true ↔ ∀ m x n, a = .int m → b = .float x → c = .int n → m = n := by
  constructor
  · rintro same m x n rfl - rfl
    rw [same_int] at same
    exact of_decide_eq_true same
  · intro integers
    rcases same_iff.mp first with ⟨rfl, rfl⟩ | ⟨⟨content, left, middle⟩, before⟩
    · rcases same_iff.mp second with ⟨-, rfl⟩ | ⟨⟨content, middle, -⟩, -⟩
      · rfl
      · exact absurd middle (by simp [content?])
    · rcases same_iff.mp second with ⟨rfl, -⟩ | ⟨⟨content', middle', right⟩, after⟩
      · exact absurd middle (by simp [content?])
      · obtain rfl := Option.some.inj (middle.symm.trans middle')
        refine same_iff.mpr (.inr ⟨⟨content, left, right⟩, ?_⟩)
        rintro m n rfl rfl
        -- between two integers there is an integer, which is both of them, or a float
        rcases number_of_content? (middle.trans left.symm) with ⟨k, rfl⟩ | ⟨x, rfl⟩
        · exact (before m k rfl rfl).trans (after k n rfl rfl)
        · exact integers m x n rfl rfl rfl

/-- The two-valued equality is symmetric. It is transitive too, at every depth of lists, but for one case: a
float can be the same as two different integers. -/
theorem same_symm_trans (a b c : Value) :
    a.same b = b.same a ∧
      (a.same b = true → b.same c = true →
        (a.same c = true ↔ ∀ m x n, a = .int m → b = .float x → c = .int n → m = n)) :=
  ⟨Bool.eq_iff_iff.mpr ⟨same_symm, same_symm⟩, same_trans_iff⟩

theorem same_symm_trans_nested :
    (Value.list [.int 1, .list [.float 2]]).same (.list [.float 1, .list [.int 2]]) = true ∧
      (Value.list [.float 1, .list [.int 2]]).same (.list [.int 1, .list [.int 2]]) = true ∧
      (Value.list [.int 1, .list [.float 2]]).same (.list [.int 1, .list [.int 2]]) = true := by
  have first : (Value.list [.int 1, .list [.float 2]]).same (.list [.float 1, .list [.int 2]]) = true := by
    decide +kernel
  have second : (Value.list [.float 1, .list [.int 2]]).same (.list [.int 1, .list [.int 2]]) = true := by
    decide +kernel
  refine ⟨first, second, ((same_symm_trans _ _ _).2 first second).mpr ?_⟩
  intro m x n integer
  exact absurd integer (by simp)

theorem same_not_transitive :
    (Value.int 9007199254740992).same (.float 9007199254740992) = true ∧
      (Value.float 9007199254740992).same (.int 9007199254740993) = true ∧
      (Value.int 9007199254740992).same (.int 9007199254740993) = false := by
  decide +kernel

end Value

end ObjectQuery
