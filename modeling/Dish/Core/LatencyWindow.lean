/-
The latency window: a ring of round trips, and the quantiles read off it.

The samples are elements of a linear order.  A rank is computed in `double`, so a quantile is kept as
the 53-bit numerator of the `double` nearest to it and the product is rounded to 53 bits once more.
-/
import Mathlib

namespace Dish

def kLatencyWindowCapacity : Nat := 64

/-- 0.50 in units of `2 ^ (-53)`. -/
def kLatencyMedianQuantile : Nat := 2 ^ 52

/-- The `double` nearest to 0.99, in units of `2 ^ (-53)`. -/
def kLatencyTailQuantile : Nat := 8917127262193582

/-- The number to 53 significant bits, to the nearest, halves to even. -/
def roundToDouble (x : Nat) : Nat :=
  let ulp := 2 ^ (Nat.log2 x - 52)
  let even := x / ulp % 2 = 0
  if 2 * (x % ulp) < ulp ∨ 2 * (x % ulp) = ulp ∧ even then x / ulp * ulp else (x / ulp + 1) * ulp

/-- `lround` of the product: halves away from zero. -/
def nearestRank (quantile count : Nat) : Nat :=
  (2 * roundToDouble (quantile * (count - 1)) + 2 ^ 53) / 2 ^ 54

structure LatencySummary (α : Type) where
  samples : Nat
  rttP50Ms : α
  rttP99Ms : α

structure LatencyWindow (α : Type) where
  samples : Nat → α
  head : Nat := 0
  count : Nat := 0

namespace LatencyWindow

variable {α : Type} [LinearOrder α] (zero kLatencyRttMaxMs : α)

def push (w : LatencyWindow α) (rttMs : α) : LatencyWindow α :=
  if ¬ zero ≤ rttMs ∨ kLatencyRttMaxMs ≤ rttMs then w
  else
    { samples := Function.update w.samples w.head rttMs
      head := (w.head + 1) % kLatencyWindowCapacity
      count := if w.count < kLatencyWindowCapacity then w.count + 1 else w.count }

/-- The samples stay where they are. -/
def reset (w : LatencyWindow α) : LatencyWindow α := { w with head := 0, count := 0 }

def summary (w : LatencyWindow α) : LatencySummary α :=
  if w.count = 0 then ⟨0, zero, zero⟩
  else
    let sorted := ((List.range w.count).map w.samples).mergeSort (· ≤ ·)
    { samples := w.count
      rttP50Ms := sorted.getD (nearestRank kLatencyMedianQuantile w.count) zero
      rttP99Ms := sorted.getD (nearestRank kLatencyTailQuantile w.count) zero }

inductive Call (α : Type) where
  | push (rttMs : α)
  | reset

def step (w : LatencyWindow α) : Call α → LatencyWindow α
  | .push rttMs => w.push zero kLatencyRttMaxMs rttMs
  | .reset => w.reset

end LatencyWindow

end Dish
