import ObjectQuery.Number.Decimal
import ObjectQuery.Number.Scalar
/-!
# Running statistics

The number, mean, spread and bounds of values that come one by one, without keeping them: each value
moves the mean by its share and adds to the sum of squared deviations.
-/

namespace ObjectQuery

open Scalar

/-- Statistics of the values so far. -/
structure RunningStatistics (α : Type) where
  count : Nat
  mean : α
  /-- The sum of squared deviations from the mean. -/
  squares : α
  least : α
  greatest : α

namespace RunningStatistics

variable {α : Type} [Scalar α]

def empty : RunningStatistics α := ⟨0, zero, zero, zero, zero⟩

def push (statistics : RunningStatistics α) (value : α) : RunningStatistics α :=
  if statistics.count = 0 then ⟨1, value, zero, value, value⟩
  else
    let count := statistics.count + 1
    let delta := value - statistics.mean
    let mean := statistics.mean + delta / ofNat count
    { count := count
      mean := mean
      squares := statistics.squares + delta * (value - mean)
      least := smaller statistics.least value
      greatest := larger statistics.greatest value }

def ofList (values : List α) : RunningStatistics α := values.foldl push empty

/-- The variance of a sample, zero for fewer than two values. -/
def variance (statistics : RunningStatistics α) : α :=
  if statistics.count < 2 then zero else statistics.squares / ofNat (statistics.count - 1)

def deviation (statistics : RunningStatistics α) : α := sqrt statistics.variance

def threePlaces (x : Float) : String := Decimal.fixedText 3 x.binaryValue

def describe (statistics : RunningStatistics Float) : String :=
  if statistics.count = 0 then "N/A"
  else
    "min=" ++ threePlaces statistics.least ++ ", max=" ++ threePlaces statistics.greatest ++
      ", mean=" ++ threePlaces statistics.mean ++ ", std=" ++ threePlaces statistics.deviation ++
      " (n=" ++ toString statistics.count ++ ")"

end RunningStatistics

end ObjectQuery
