import ObjectQuery.Tracking.Assignment
/-!
# Least assignments

A solver for square grids of costs. Every column has a price, and a row looks for columns by their
costs less their prices. First each column is given to its cheapest row as far as that row is still
free. Then the rows that are left take the column that suits them best, at the price at which the
second best one suits them as well, and the row that had it is left in turn. What is still left after
two such rounds is placed along cheapest chains of exchanges. Sums and differences are taken in the
order that is written here, since in a floating format they decide between answers that are equally
good.
-/

namespace ObjectQuery

namespace LeastAssignment

/-- What a solver has to know of its number format. -/
structure Precision (α : Type) where
  /-- The largest number. -/
  largest : α
  /-- Distances that differ by less are taken for equal. -/
  tolerance : α

def Precision.single : Precision Float32 := ⟨.ofBits 0x7f7fffff, .ofBits 0x34000000⟩

variable {α : Type} [Scalar α] {n : Nat}

/-- An assignment in the making. -/
structure Draft (α : Type) (n : Nat) where
  price : Vector α n
  rowOf : Vector (Option (Fin n)) n
  /-- The column that each row was given last. -/
  columnOf : Vector (Option (Fin n)) n

namespace Draft

/-- What a column costs a row beyond its price. -/
def reduced (draft : Draft α n) (cost : Fin n → Fin n → α) (i j : Fin n) : α :=
  cost i j - draft.price[j]

def give (draft : Draft α n) (i j : Fin n) : Draft α n :=
  { draft with rowOf := draft.rowOf.set j (some i), columnOf := draft.columnOf.set i (some j) }

def setPrice (draft : Draft α n) (j : Fin n) (price : α) : Draft α n :=
  { draft with price := draft.price.set j price }

/-- The rows that were never given a column. -/
def freeRows (draft : Draft α n) : List (Fin n) :=
  (List.finRange n).filter fun i => draft.columnOf[i].isNone

end Draft

/-! ## Columns to their cheapest rows -/

/-- The row that a column costs least, the first one of several. -/
def cheapestRow (cost : Fin n → Fin n → α) (j : Fin n) : Fin n :=
  (List.finRange n).foldl (fun best i => if cost i j < cost best j then i else best) ⟨0, j.pos⟩

/-- Each column, from the last to the first, given to its cheapest row if that one is free. The price
of a column is what it costs that row. -/
def ofCheapest (cost : Fin n → Fin n → α) (cheapest : Vector (Fin n) n) : Draft α n :=
  (List.finRange n).reverse.foldl (fun draft j =>
    let i := cheapest[j]
    if draft.columnOf[i].isSome then draft else draft.give i j)
    { price := Vector.ofFn fun j => cost cheapest[j] j
      rowOf := Vector.replicate n none
      columnOf := Vector.replicate n none }

/-- The least reduced cost of a row outside of a column. -/
def leastBeside (largest : α) (cost : Fin n → Fin n → α) (draft : Draft α n) (i j : Fin n) : α :=
  (List.finRange n).foldl (fun least other =>
    if other = j then least
    else
      let c := draft.reduced cost i other
      if c < least then c else least) largest

/-- Row by row, the price of a column lowered by the least that its row would pay for another one, if
the row is the cheapest one of no other column. -/
def loweredPrices (largest : α) (cost : Fin n → Fin n → α) (cheapest : Vector (Fin n) n)
    (draft : Draft α n) : Draft α n :=
  (List.finRange n).foldl (fun draft i =>
    match draft.columnOf[i] with
    | some j =>
      if (List.finRange n).all fun other => other = j || cheapest[other] ≠ i then
        draft.setPrice j (draft.price[j] - leastBeside largest cost draft i j)
      else draft
    | none => draft) draft

/-! ## Rows to their best columns -/

/-- The best column of a row and the second best one, with their reduced costs. -/
structure BestTwo (α : Type) (n : Nat) where
  first : Fin n
  least : α
  second : Option (Fin n)
  next : α

/-- The two best columns of a row, the first ones of several. -/
def bestTwo (largest : α) (cost : Fin n → Fin n → α) (draft : Draft α n) (i : Fin n) :
    BestTwo α n :=
  let start : Fin n := ⟨0, i.pos⟩
  ((List.finRange n).drop 1).foldl (fun best j =>
    let c := draft.reduced cost i j
    if c < best.next then
      if best.least ≤ c then { best with second := some j, next := c }
      else ⟨j, c, some best.first, best.least⟩
    else best) ⟨start, draft.reduced cost i start, none, largest⟩

/-- A round in which free rows take columns. -/
structure Round (α : Type) (n : Nat) where
  draft : Draft α n
  /-- The rows whose turn is still to come. -/
  pending : List (Fin n)
  /-- The rows that are left for later, the last one first. -/
  left : List (Fin n)
  /-- How many rows of the round are done with. -/
  settled : Nat
  turns : Nat

/-- The turn of a row. It takes its best column. If that lowers the price, the row that had the column
has the next turn; if it does not and the best column was taken, the row takes the second best one
instead, and the row that had that one is left for later. After too many turns every row takes its
best column as it is. -/
def turn (largest : α) (cost : Fin n → Fin n → α) (round : Round α n) (i : Fin n)
    (rest : List (Fin n)) : Round α n :=
  let draft := round.draft
  let best := bestTwo largest cost draft i
  let settled := round.settled + 1
  let turns := round.turns + 1
  let price := draft.price[best.first]
  let lowered := price - (best.next - best.least)
  if settled * n ≤ turns then
    ⟨draft.give i best.first, rest, draft.rowOf[best.first].toList ++ round.left, settled, turns⟩
  else if lowered < price then
    let after := (draft.setPrice best.first lowered).give i best.first
    match draft.rowOf[best.first] with
    | some out => ⟨after, out :: rest, round.left, round.settled, turns⟩
    | none => ⟨after, rest, round.left, settled, turns⟩
  else
    let column := match draft.rowOf[best.first], best.second with
      | some _, some second => second
      | _, _ => best.first
    ⟨draft.give i column, rest, draft.rowOf[column].toList ++ round.left, settled, turns⟩

def takeTurns (largest : α) (cost : Fin n → Fin n → α) : (fuel : Nat) → Round α n → Round α n
  | 0, round => round
  | fuel + 1, round =>
    match round.pending with
    | [] => round
    | i :: rest => takeTurns largest cost fuel (turn largest cost round i rest)

/-- A draft after a round of its free rows, and the rows that are free then. Since a row is done with
at the latest when there were as many turns as the grid has cells, the fuel suffices. -/
def afterRound (largest : α) (cost : Fin n → Fin n → α) (draft : Draft α n) (free : List (Fin n)) :
    Draft α n × List (Fin n) :=
  let round := takeTurns largest cost (n * n + n + 1) ⟨draft, free, [], 0, 0⟩
  (round.draft, round.left.reverse)

/-! ## Chains of exchanges -/

/-- The search for the cheapest chain from a row to a free column. The columns stand in an order: those
done with, those at the least distance of the rest, and all others. -/
structure Search (α : Type) (n : Nat) where
  distance : Vector α n
  /-- The row from which each column was reached. -/
  previous : Vector (Fin n) n
  order : Vector (Fin n) n
  /-- Where the columns at the least distance begin, and the first of them that is not visited. -/
  done : Nat
  low : Nat
  /-- Where the columns at the least distance end. -/
  high : Nat

namespace Search

def start (cost : Fin n → Fin n → α) (draft : Draft α n) (row : Fin n) : Search α n where
  distance := Vector.ofFn (draft.reduced cost row)
  previous := Vector.replicate n row
  order := Vector.ofFn id
  done := 0
  low := 0
  high := 0

def positions (low : Nat) : List (Fin n) := (List.finRange n).filter fun k => decide (low ≤ k.val)

/-- The columns that are not visited divided anew: those at the least distance are moved to the front. -/
def nearest (search : Search α n) : Search α n :=
  match search.order[search.low]? with
  | none => search
  | some column =>
    let (order, high, _) := (positions (search.low + 1)).foldl
      (fun (state : Vector (Fin n) n × Nat × α) (k : Fin n) =>
        let (order, high, least) := state
        let d := search.distance[order[k]]
        if d ≤ least then
          let high := if d < least then search.low else high
          (order.swapIfInBounds high k, high + 1, if d < least then d else least)
        else state) (search.order, search.low + 1, search.distance[column])
    { search with order := order, done := search.low, high := high }

/-- The last free column of those at the least distance. -/
def freeNearest? (search : Search α n) (draft : Draft α n) : Option (Fin n) :=
  (((positions search.low).filter fun (k : Fin n) => decide (k.val < search.high)).map
    fun k => search.order[k]).reverse.find? fun column => draft.rowOf[column].isNone

/-- Distances lowered by way of a column at the least distance and its row, until a free column comes
to the same distance. -/
def visit (tolerance : α) (cost : Fin n → Fin n → α) (draft : Draft α n) (search : Search α n)
    (column row : Fin n) : Search α n × Option (Fin n) :=
  let least := search.distance[column]
  let shift := draft.reduced cost row column - least
  (positions search.high).foldl (fun (state : Search α n × Option (Fin n)) (k : Fin n) =>
    let (search, found) := state
    let other := search.order[k]
    let d := draft.reduced cost row other - shift
    if found.isNone && decide (d < search.distance[other]) then
      let search := { search with
        distance := search.distance.set other d
        previous := search.previous.set other row }
      if d - least < tolerance ∧ least - d < tolerance then
        if draft.rowOf[other].isNone then (search, some other)
        else
          ({ search with
            order := search.order.swapIfInBounds search.high k, high := search.high + 1 }, none)
      else (search, none)
    else state) (search, none)

/-- The columns at the least distance visited one by one, until a free column is found. -/
def scan (tolerance : α) (cost : Fin n → Fin n → α) (draft : Draft α n) :
    (fuel : Nat) → Search α n → Search α n × Option (Fin n)
  | 0, search => (search, none)
  | fuel + 1, search =>
    if search.low < search.high then
      match search.order[search.low]? with
      | none => (search, none)
      | some column =>
        match draft.rowOf[column] with
        | none => (search, some column)
        | some row =>
          let (after, found) :=
            visit tolerance cost draft { search with low := search.low + 1 } column row
          if found.isSome then (after, found) else scan tolerance cost draft fuel after
    else (search, none)

/-- The end of the search, with the free column at the end of the chain. Each step visits a column. -/
def complete? (tolerance : α) (cost : Fin n → Fin n → α) (draft : Draft α n) :
    (fuel : Nat) → Search α n → Option (Search α n × Fin n)
  | 0, _ => none
  | fuel + 1, search =>
    let search := search.nearest
    match search.freeNearest? draft with
    | some column => some (search, column)
    | none =>
      match scan tolerance cost draft n search with
      | (after, some column) => some (after, column)
      | (after, none) => complete? tolerance cost draft fuel after

/-- The prices of the columns that are done with, raised by how much nearer they are than the end of
the chain. -/
def raisedPrices (search : Search α n) (draft : Draft α n) : Draft α n :=
  match search.order[search.done]? with
  | none => draft
  | some nearest =>
    let least := search.distance[nearest]
    ((List.finRange n).filter fun (k : Fin n) => decide (k.val < search.done)).foldl
      (fun draft k =>
        let column := search.order[k]
        draft.setPrice column (draft.price[column] + search.distance[column] - least)) draft

end Search

/-- The exchanges along a chain, from its end back to the row where it begins. -/
def exchanged? (previous : Vector (Fin n) n) (row : Fin n) :
    (fuel : Nat) → (column : Fin n) → Draft α n → Option (Draft α n)
  | 0, _, _ => none
  | fuel + 1, column, draft =>
    let here := previous[column]
    let after := draft.give here column
    if here = row then some after
    else draft.columnOf[here] >>= fun before => exchanged? previous row fuel before after

/-- A draft in which one more row has a column. -/
def placed? (tolerance : α) (cost : Fin n → Fin n → α) (draft : Draft α n) (row : Fin n) :
    Option (Draft α n) := do
  let (search, column) ← Search.complete? tolerance cost draft n (.start cost draft row)
  exchanged? search.previous row n column (search.raisedPrices draft)

/-! ## The solver -/

def final? (precision : Precision α) (cost : Fin n → Fin n → α) : Option (Draft α n) :=
  let largest := precision.largest
  let cheapest := Vector.ofFn (cheapestRow cost)
  let start := loweredPrices largest cost cheapest (ofCheapest cost cheapest)
  let (first, free) := afterRound largest cost start start.freeRows
  let (second, free) := afterRound largest cost first free
  free.foldlM (placed? precision.tolerance cost) second

/-- Whether different rows have different columns, decided by comparing all pairs. -/
def decideInjective (columnOf : Fin n → Fin n) : Decidable (Function.Injective columnOf) :=
  decidable_of_iff (∀ i j : Fin n, columnOf i = columnOf j → i = j)
    ⟨fun same _ _ => same _ _, fun injective _ _ equal => injective equal⟩

/-- The columns of a draft, if each row has one of its own. -/
def answer? (draft : Draft α n) : Option { columnOf : Fin n → Fin n // Function.Injective columnOf } :=
  if complete : ∀ i : Fin n, draft.columnOf[i].isSome then
    let columnOf (i : Fin n) : Fin n := draft.columnOf[i].get (complete i)
    match decideInjective columnOf with
    | .isTrue injective => some ⟨columnOf, injective⟩
    | .isFalse _ => none
  else none

def solver (precision : Precision α) : AssignmentSolver α := fun n cost =>
  let table : Vector (Vector α n) n := Vector.ofFn fun i => Vector.ofFn (cost i)
  final? precision (fun i j => table[i][j]) >>= answer?

end LeastAssignment

def leastAssignmentSolver : AssignmentSolver Float32 := LeastAssignment.solver .single

end ObjectQuery
