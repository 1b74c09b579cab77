import Mathlib.Algebra.Order.Floor.Ring
import Mathlib.Algebra.Order.Ring.Rat
import Mathlib.Data.Rat.Floor
import ObjectQuery.Proofs.Number.Unpacked
import ObjectQuery.Stage.Projector

/-!
# The picture of an object

A box is cut out of a picture by moving its coordinates into the picture and rounding them outwards. If all
of them are numbers, the cut shows exactly the cells that lie between the rounded coordinates, and there is
none if there are no such cells (`Bitmap.cut?_of_numbers`). A coordinate that is no number is not noticed: it
leaves a cut without columns or without rows (`Bitmap.empty_of_undefined`, `undefined_cut`).
-/

namespace ObjectQuery

/-! ## Coordinates -/

namespace BinaryValue

/-- The rational number that a finite value stands for. -/
def exact (negative : Bool) (significand : Nat) (power : Int) : ℚ :=
  (if negative then -(significand : ℚ) else significand) * 2 ^ power

/-- A value moved into `0 … limit`; none for an undefined one. -/
def clamped? (limit : Nat) : BinaryValue → Option ℚ
  | .finite negative significand power => some (min (max (exact negative significand power) 0) limit)
  | .infinite negative => some (if negative then 0 else limit)
  | .undefined => none

variable {value : BinaryValue} {limit : Nat} {place : ℚ}

theorem exact_not (negative : Bool) (significand : Nat) (power : Int) :
    exact (!negative) significand power = -exact negative significand power := by
  cases negative <;> simp [exact]

theorem floor?_finite (negative : Bool) (significand : Nat) (power : Int) :
    (finite negative significand power).floor? = some ⌊exact negative significand power⌋ := by
  have sign : (if negative then -(significand : ℚ) else significand) =
      ((if negative then -(significand : Int) else significand : Int) : ℚ) := by
    cases negative <;> simp
  rw [floor?, exact, sign]
  refine congrArg some ?_
  by_cases whole : 0 ≤ power
  · obtain ⟨digits, rfl⟩ := Int.eq_ofNat_of_zero_le whole
    have cast : ((if negative then -(significand : Int) else significand : Int) : ℚ) *
        2 ^ (digits : Int) =
          (((if negative then -(significand : Int) else significand) * Nat.pow 2 digits : Int) : ℚ) := by
      rw [zpow_natCast, Int.cast_mul, Int.cast_natCast, Nat.pow_eq, Nat.cast_pow, Nat.cast_ofNat]
    rw [if_pos whole, cast, Int.floor_intCast, Int.toNat_natCast]
  · obtain ⟨digits, rfl⟩ : ∃ digits : Nat, power = -(digits : Int) := ⟨power.natAbs, by omega⟩
    have quotient : ((if negative then -(significand : Int) else significand : Int) : ℚ) *
        2 ^ (-(digits : Int)) =
          ((if negative then -(significand : Int) else significand : Int) : ℚ) /
            ((Nat.pow 2 digits : Nat) : ℚ) := by
      rw [zpow_neg, zpow_natCast, div_eq_mul_inv, Nat.pow_eq, Nat.cast_pow, Nat.cast_ofNat]
    rw [if_neg whole, quotient, Rat.floor_intCast_div_natCast, Int.neg_neg, Int.toNat_natCast,
      Int.fdiv_eq_ediv_of_nonneg _ (Int.natCast_nonneg _)]

theorem ceiling?_finite (negative : Bool) (significand : Nat) (power : Int) :
    (finite negative significand power).ceiling? = some ⌈exact negative significand power⌉ := by
  rw [ceiling?, floor?_finite, exact_not, Int.floor_neg, Option.map_some, Int.neg_neg]

/-- Moving into a range of whole numbers and rounding by a monotone rule may be exchanged. -/
theorem round_clamp {round : ℚ → Int} (monotone : Monotone round) (whole : ∀ n : Nat, round n = n)
    (place : ℚ) (limit : Nat) :
    (round (min (max place 0) limit)).toNat = min (round place).toNat limit := by
  have zero : round 0 = 0 := by simpa using whole 0
  rw [monotone.map_min, monotone.map_max, whole, zero]
  omega

theorem moveInside?_floor (value : BinaryValue) (limit : Nat) :
    value.moveInside? floor? limit = (value.clamped? limit).map fun place => ⌊place⌋.toNat := by
  cases value with
  | undefined => rfl
  | infinite negative => cases negative <;> simp [moveInside?, clamped?]
  | finite negative significand power =>
      rw [moveInside?, floor?_finite, clamped?, Option.map_some, Option.map_some,
        round_clamp Int.floor_mono Int.floor_natCast]

theorem moveInside?_ceiling (value : BinaryValue) (limit : Nat) :
    value.moveInside? ceiling? limit = (value.clamped? limit).map fun place => ⌈place⌉.toNat := by
  cases value with
  | undefined => rfl
  | infinite negative => cases negative <;> simp [moveInside?, clamped?]
  | finite negative significand power =>
      rw [moveInside?, ceiling?_finite, clamped?, Option.map_some, Option.map_some,
        round_clamp Int.ceil_mono Int.ceil_natCast]

theorem mem_range_of_clamped? (clamped : value.clamped? limit = some place) :
    0 ≤ place ∧ place ≤ limit := by
  have atLeast : (0 : ℚ) ≤ limit := Nat.cast_nonneg limit
  cases value with
  | undefined => exact absurd clamped (by simp [clamped?])
  | infinite negative =>
      obtain rfl := Option.some.inj clamped
      cases negative <;> simp
  | finite negative significand power =>
      obtain rfl := Option.some.inj clamped
      exact ⟨le_min (le_max_right _ _) atLeast, min_le_right _ _⟩

theorem exists_clamped? (known : value ≠ .undefined) (limit : Nat) :
    ∃ place, value.clamped? limit = some place := by
  cases value with
  | undefined => exact absurd rfl known
  | infinite | finite => exact ⟨_, rfl⟩

end BinaryValue

/-! ## One axis -/

namespace Bitmap

open BinaryValue

/-- Whether a cell lies between two coordinates that are moved into the picture, the lower one rounded down
and the upper one rounded up. -/
def Between (low high : BinaryValue) (limit cell : Nat) : Prop :=
  ∃ first past, low.clamped? limit = some first ∧ high.clamped? limit = some past ∧
    ⌊first⌋ ≤ (cell : Int) ∧ (cell : Int) < ⌈past⌉

/-- A span of cells that holds what lies between two coordinates. -/
structure Spans (low high : BinaryValue) (limit : Nat) (span : Nat × Nat) : Prop where
  filled : 0 < span.2
  inside : span.1 + span.2 ≤ limit
  cells : ∀ cell, Between low high limit cell ↔ span.1 ≤ cell ∧ cell < span.1 + span.2
  /-- Coordinates that meet or cross each other lie in one cell. -/
  thin : ∀ first past, low.clamped? limit = some first → high.clamped? limit = some past →
    past ≤ first → span.2 = 1

variable {low high : BinaryValue} {limit : Nat}

theorem span?_eq {first past : ℚ} (before : low.clamped? limit = some first)
    (after : high.clamped? limit = some past) :
    span? low high limit =
      if ⌈past⌉ ≤ ⌊first⌋ then none else some (⌊first⌋.toNat, ⌈past⌉.toNat - ⌊first⌋.toNat) := by
  have nonneg : 0 ≤ ⌊first⌋ := Int.floor_nonneg.mpr (mem_range_of_clamped? before).1
  have nonneg' : 0 ≤ ⌈past⌉ := Int.ceil_nonneg (mem_range_of_clamped? after).1
  have order : ⌈past⌉.toNat ≤ ⌊first⌋.toNat ↔ ⌈past⌉ ≤ ⌊first⌋ := by omega
  unfold span?
  rw [moveInside?_floor, moveInside?_ceiling, before, after]
  exact if_congr order rfl rfl

/-- Between two numbers there is nothing, or the span holds what is there. -/
theorem span?_of_numbers (first : low ≠ .undefined) (past : high ≠ .undefined) :
    (span? low high limit = none ∧ ∀ cell, ¬ Between low high limit cell) ∨
      ∃ span, span? low high limit = some span ∧ Spans low high limit span := by
  obtain ⟨first, before⟩ := exists_clamped? first limit
  obtain ⟨past, after⟩ := exists_clamped? past limit
  have between (cell : Nat) :
      Between low high limit cell ↔ ⌊first⌋ ≤ (cell : Int) ∧ (cell : Int) < ⌈past⌉ := by
    refine ⟨?_, fun inside => ⟨first, past, before, after, inside⟩⟩
    rintro ⟨first', past', before', after', inside⟩
    obtain rfl := Option.some.inj (before.symm.trans before')
    obtain rfl := Option.some.inj (after.symm.trans after')
    exact inside
  have nonneg : 0 ≤ ⌊first⌋ := Int.floor_nonneg.mpr (mem_range_of_clamped? before).1
  have atMost : ⌈past⌉ ≤ (limit : Int) := Int.ceil_le.mpr (mem_range_of_clamped? after).2
  rw [span?_eq before after]
  by_cases empty : ⌈past⌉ ≤ ⌊first⌋
  · rw [if_pos empty]
    refine .inl ⟨rfl, fun cell inside => ?_⟩
    have inside := (between cell).mp inside
    omega
  · rw [if_neg empty]
    refine .inr ⟨_, rfl, by dsimp only; omega, by dsimp only; omega, fun cell => ?_, ?_⟩
    · rw [between]
      dsimp only
      omega
    · intro first' past' before' after' crossed
      obtain rfl := Option.some.inj (before.symm.trans before')
      obtain rfl := Option.some.inj (after.symm.trans after')
      -- rounding outwards moves coordinates that have crossed by less than two cells apart
      have near : ⌈past⌉ < ⌊first⌋ + 2 := by
        have above : (⌈past⌉ : ℚ) < ⌊first⌋ + 2 := by
          calc (⌈past⌉ : ℚ) < past + 1 := Int.ceil_lt_add_one past
            _ ≤ first + 1 := by gcongr
            _ < ⌊first⌋ + 1 + 1 := by gcongr; exact Int.lt_floor_add_one first
            _ = ⌊first⌋ + 2 := by ring
        exact_mod_cast above
      dsimp only
      omega

/-- A coordinate that is no number leaves a span without cells. -/
theorem span?_of_undefined (undefined : low = .undefined ∨ high = .undefined) (limit : Nat) :
    ∃ first, span? low high limit = some (first, 0) := by
  rcases undefined with rfl | rfl
  · exact ⟨0, rfl⟩
  · unfold span?
    cases low.moveInside? floor? limit <;> exact ⟨_, rfl⟩

/-! ## Both axes -/

/-- Whether a cell of a picture is touched by a box. -/
def Touched (bitmap : Bitmap) (box : Box Float) (column row : Nat) : Prop :=
  Between box.left.binaryValue box.right.binaryValue bitmap.width column ∧
    Between box.top.binaryValue box.bottom.binaryValue bitmap.height row

/-- A picture that shows the cells of another one that a box touches, all of them inside. -/
structure IsCut (bitmap : Bitmap) (box : Box Float) (part : Bitmap) : Prop where
  filled : 0 < part.width ∧ 0 < part.height
  inside : ∀ column row, bitmap.Touched box column row → column < bitmap.width ∧ row < bitmap.height
  cells : ∃ left top,
    (∀ column row, bitmap.Touched box column row ↔
      (left ≤ column ∧ column < left + part.width) ∧ top ≤ row ∧ row < top + part.height) ∧
    ∀ column row, part.colourAt column row = bitmap.colourAt (left + column) (top + row)
  /-- A box without breadth or turned over is not told from one that lies inside a single column. -/
  narrow : ∀ first past, box.left.binaryValue.clamped? bitmap.width = some first →
    box.right.binaryValue.clamped? bitmap.width = some past → past ≤ first → part.width = 1
  flat : ∀ first past, box.top.binaryValue.clamped? bitmap.height = some first →
    box.bottom.binaryValue.clamped? bitmap.height = some past → past ≤ first → part.height = 1

variable {bitmap part : Bitmap} {box : Box Float}

theorem isCut_region {columns rows : Nat × Nat}
    (across : Spans box.left.binaryValue box.right.binaryValue bitmap.width columns)
    (down : Spans box.top.binaryValue box.bottom.binaryValue bitmap.height rows) :
    bitmap.IsCut box (bitmap.region columns.1 rows.1 columns.2 rows.2) where
  filled := ⟨across.filled, down.filled⟩
  inside column row touched := by
    have column := (across.cells column).mp touched.1
    have row := (down.cells row).mp touched.2
    exact ⟨column.2.trans_le across.inside, row.2.trans_le down.inside⟩
  cells := ⟨columns.1, rows.1, fun column row => and_congr (across.cells column) (down.cells row),
    fun _ _ => rfl⟩
  narrow := across.thin
  flat := down.thin

/-- A box with numbers as coordinates has its cells cut out, or there are none. -/
theorem cut?_of_numbers (bitmap : Bitmap) (numbers : box.all (fun x => !x.isNaN) = true) :
    (bitmap.cut? box = none ∧ ∀ column row, ¬ bitmap.Touched box column row) ∨
      ∃ part, bitmap.cut? box = some part ∧ bitmap.IsCut box part := by
  have known (x : Float) (number : (!x.isNaN) = true) : x.binaryValue ≠ .undefined := fun undefined => by
    rw [(Float.isNaN_iff x).mpr undefined] at number
    exact absurd number (by decide)
  simp only [Box.all, Bool.and_eq_true] at numbers
  obtain ⟨⟨⟨left, top⟩, right⟩, bottom⟩ := numbers
  rcases span?_of_numbers (known _ left) (known _ right) with ⟨none, nowhere⟩ | ⟨columns, across, spans⟩
  · exact .inl ⟨by simp [cut?, none], fun column _ touched => nowhere column touched.1⟩
  · rcases span?_of_numbers (known _ top) (known _ bottom) with ⟨none, nowhere⟩ | ⟨rows, down, spans'⟩
    · exact .inl ⟨by simp [cut?, across, none], fun _ row touched => nowhere row touched.2⟩
    · exact .inr ⟨bitmap.region columns.1 rows.1 columns.2 rows.2, by simp [cut?, across, down],
        isCut_region spans spans'⟩

/-- What is cut of a box with a coordinate that is no number has no cells. -/
theorem empty_of_undefined (undefined : box.all (fun x => !x.isNaN) = false)
    (cut : bitmap.cut? box = some part) : part.width = 0 ∨ part.height = 0 := by
  have known (x : Float) (wrong : (!x.isNaN) = false) : x.binaryValue = .undefined :=
    (Float.isNaN_iff x).mp (by simpa using wrong)
  obtain ⟨columns, across, rest⟩ := Option.bind_eq_some_iff.mp cut
  obtain ⟨rows, down, region⟩ := Option.bind_eq_some_iff.mp rest
  obtain rfl := Option.some.inj region
  simp only [Box.all, Bool.and_eq_false_iff] at undefined
  rcases undefined with ((left | top) | right) | bottom
  · obtain ⟨first, span⟩ := span?_of_undefined (.inl (known _ left)) bitmap.width
    exact .inl (congrArg Prod.snd (Option.some.inj (across.symm.trans span)))
  · obtain ⟨first, span⟩ := span?_of_undefined (.inl (known _ top)) bitmap.height
    exact .inr (congrArg Prod.snd (Option.some.inj (down.symm.trans span)))
  · obtain ⟨first, span⟩ := span?_of_undefined (.inr (known _ right)) bitmap.width
    exact .inl (congrArg Prod.snd (Option.some.inj (across.symm.trans span)))
  · obtain ⟨first, span⟩ := span?_of_undefined (.inr (known _ bottom)) bitmap.height
    exact .inr (congrArg Prod.snd (Option.some.inj (down.symm.trans span)))

end Bitmap

/-! ## The picture that a function is handed -/

namespace Projector

variable {projector : Projector} {frame : Frame} {position : Nat} {record : ObjectRecord}
  {bitmap : Bitmap} {box : Box Float}

theorem currentValue_image (plain : record.get? Field.image = none) (shown : frame.picture = some bitmap)
    (boxed : record.box? = some box) :
    projector.currentValue frame position record Field.image =
      ((bitmap.cut? box).map fun part =>
        .picture ⟨.cut projector.property.name projector.turn frame.id position, part⟩).getD .invalid := by
  unfold currentValue
  rw [plain]
  dsimp only
  rw [if_pos rfl, shown, boxed]
  dsimp only
  cases bitmap.cut? box <;> rfl

/-- If all coordinates of its box are numbers, an object shows exactly the cells that the box touches, all
of them inside the picture, and its picture is invalid if there are none. If one of them is no number, its
picture is invalid or has no cells. -/
theorem image_of_box (plain : record.get? Field.image = none) (shown : frame.picture = some bitmap)
    (boxed : record.box? = some box) :
    (box.all (fun x => !x.isNaN) = true →
      (projector.currentValue frame position record Field.image = .invalid ∧
          ∀ column row, ¬ bitmap.Touched box column row) ∨
        ∃ picture, projector.currentValue frame position record Field.image = .picture picture ∧
          bitmap.IsCut box picture.bitmap) ∧
      (box.all (fun x => !x.isNaN) = false →
        projector.currentValue frame position record Field.image = .invalid ∨
          ∃ picture, projector.currentValue frame position record Field.image = .picture picture ∧
            (picture.bitmap.width = 0 ∨ picture.bitmap.height = 0)) := by
  rw [currentValue_image plain shown boxed]
  constructor
  · intro numbers
    rcases Bitmap.cut?_of_numbers bitmap numbers with ⟨none, nowhere⟩ | ⟨part, cut, isCut⟩
    · rw [none]
      exact .inl ⟨rfl, nowhere⟩
    · rw [cut]
      exact .inr ⟨_, rfl, isCut⟩
  · intro undefined
    cases cut : bitmap.cut? box with
    | none => exact .inl rfl
    | some part => exact .inr ⟨_, rfl, Bitmap.empty_of_undefined undefined cut⟩

end Projector

/-! ## Somebody at a place that is no number -/

namespace Misplaced

def scenery : Bitmap := ⟨8, 6, fun column row => ⟨column.toUInt8, row.toUInt8, 0⟩⟩

def frame : Frame := .ofRaw ⟨1, some scenery⟩ ⟨10, 8, 6, 1⟩

def box (left : Float) : Box Float := ⟨left, 1.5, 4, 3⟩

def person (left : Float) : ObjectRecord := ObjectRecord.empty.insert Field.box (.box (box left))

/-- Looks at the picture of a person. -/
def look : Projector := .ofSpec {
  property := .declare "look" [⟨Field.image, 0⟩] fun _ => .null
  className := "person"
  index := 0
  historyLength := 0
  selfDependent := false }

def nowhere : Float := Float.ofBinaryValue .undefined

/-- A coordinate that is no number is not refused: there is a picture, but it has no columns. -/
theorem undefined_cut :
    nowhere.isNaN = true ∧ ∃ picture,
      look.currentValue frame 0 (person nowhere) Field.image = .picture picture ∧
        picture.bitmap.width = 0 ∧ picture.bitmap.height = 2 := by
  have size : (scenery.cut? (box nowhere)).map (fun part => (part.width, part.height)) = some (0, 2) := by
    decide +kernel
  obtain ⟨part, cut, size⟩ := Option.map_eq_some_iff.mp size
  refine ⟨by decide +kernel, ⟨.cut look.property.name look.turn frame.id 0, part⟩, ?_,
    congrArg Prod.fst size, congrArg Prod.snd size⟩
  rw [Projector.currentValue_image rfl rfl rfl, cut]
  rfl

end Misplaced

open Misplaced in
/-- Half of a column and half of a row are shown as whole ones. -/
theorem Projector.image_of_box_misplaced :
    (person 2.5).get? Field.image = none ∧ frame.picture = some scenery ∧
      (person 2.5).box? = some (box 2.5) ∧ (box 2.5).all (fun x => !x.isNaN) = true ∧
        ∃ picture, look.currentValue frame 0 (person 2.5) Field.image = .picture picture ∧
          scenery.IsCut (box 2.5) picture.bitmap := by
  have plain : (person 2.5).get? Field.image = none := rfl
  have shown : frame.picture = some scenery := rfl
  have boxed : (person 2.5).box? = some (box 2.5) := rfl
  have numbers : (box 2.5).all (fun x => !x.isNaN) = true := by decide +kernel
  have cut : (scenery.cut? (box 2.5)).isSome = true := by decide +kernel
  refine ⟨plain, shown, boxed, numbers, ?_⟩
  have told := @image_of_box look frame 0 (person 2.5) scenery (box 2.5) plain shown boxed
  rcases told.1 numbers with ⟨invalid, _⟩ | found
  · rw [currentValue_image plain shown boxed] at invalid
    obtain ⟨part, cut⟩ := Option.isSome_iff_exists.mp cut
    rw [cut] at invalid
    exact absurd invalid Value.noConfusion
  · exact found

end ObjectQuery
