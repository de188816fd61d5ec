/-
What the latency window reports.

A sample is kept at its number modulo the capacity until the one a capacity later takes its place, so
the slots in use hold the last samples accepted, in some order, and sorting them forgets the order.
-/
import Dish.Core.LatencyWindow
import Dish.Lib.Run

namespace Dish.LatencyWindow

open Steps

variable {α : Type} [LinearOrder α] {zero limit x : α} {w : LatencyWindow α} {kept : List α}

/-- The samples accepted since the last reset, given those before the call. -/
def keep (zero limit : α) (kept : List α) : Call α → List α
  | .push x => if zero ≤ x ∧ x < limit then kept ++ [x] else kept
  | .reset => []

/-- As many of the last ones as the window has room for. -/
def recent (kept : List α) : List α := kept.drop (kept.length - kLatencyWindowCapacity)

/-- The rank of a percentile among `n`, with halves rounded up. -/
def rank (percent n : Nat) : Nat := (percent * (n - 1) + 50) / 100

/-- Each sample that is still held is at its number modulo the capacity. -/
structure Holds (w : LatencyWindow α) (kept : List α) : Prop where
  head : w.head = kept.length % kLatencyWindowCapacity
  count : w.count = min kept.length kLatencyWindowCapacity
  slot : ∀ i < kept.length, kept.length ≤ i + kLatencyWindowCapacity →
    kept[i]? = some (w.samples (i % kLatencyWindowCapacity))

theorem Holds.push (h : Holds w kept) (accepted : zero ≤ x ∧ x < limit) :
    Holds (w.push zero limit x) (kept ++ [x]) := by
  have length : (kept ++ [x]).length = kept.length + 1 := by simp
  obtain ⟨head, count, slot⟩ := h
  unfold LatencyWindow.push
  rw [if_neg (by simpa using accepted)]
  unfold kLatencyWindowCapacity at *
  refine ⟨by simp [head, kLatencyWindowCapacity], ?_, fun i inside near => ?_⟩
  · simp only [length, kLatencyWindowCapacity]
    grind
  · simp only [length, kLatencyWindowCapacity, head] at inside near ⊢
    rcases Nat.lt_or_eq_of_le (Nat.le_of_lt_succ inside) with older | rfl
    · rw [List.getElem?_append_left older, Function.update_of_ne (by omega)]
      exact slot i older (by omega)
    · simp

theorem Holds.step (h : Holds w kept) (call : Call α) :
    Holds (w.step zero limit call) (keep zero limit kept call) := by
  cases call with
  | push x =>
    by_cases accepted : zero ≤ x ∧ x < limit
    · rw [keep, if_pos accepted]
      exact h.push accepted
    · rw [keep, if_neg accepted, LatencyWindow.step, LatencyWindow.push, if_pos (by grind)]
      exact h
  | reset => exact ⟨rfl, rfl, fun _ inside => absurd inside (Nat.not_lt_zero _)⟩

omit [LinearOrder α] in
/-- The slots in use hold the last samples, in some order. -/
theorem Holds.perm (h : Holds w kept) :
    ((List.range w.count).map w.samples).Perm (recent kept) := by
  have count := h.count
  have slot := h.slot
  unfold kLatencyWindowCapacity at count slot
  have placed : recent kept =
      ((List.range' (kept.length - 64) w.count).map (· % 64)).map w.samples := by
    refine List.ext_getElem? fun k => ?_
    simp only [recent, List.getElem?_drop, List.getElem?_map, kLatencyWindowCapacity]
    by_cases inside : k < w.count
    · rw [List.getElem?_range' inside, slot _ (by omega) (by omega)]
      simp
    · rw [List.getElem?_eq_none (by omega), List.getElem?_eq_none (by simp; omega)]
      rfl
  rw [placed]
  refine List.Perm.map _ ?_
  rcases Nat.lt_or_ge kept.length 64 with few | full
  · rw [show kept.length - 64 = 0 by omega, ← List.range_eq_range']
    refine .of_eq (List.ext_getElem? fun k => ?_)
    by_cases inside : k < w.count
    · simp [inside, Nat.mod_eq_of_lt (show k < 64 by omega)]
    · simp [inside]
  · rw [show w.count = 64 by omega]
    refine Multiset.coe_eq_coe.mp ?_
    have all : ((List.range' (kept.length - 64) (kept.length - 64 + 64 - (kept.length - 64))).map
        (· % 64) : Multiset Nat) = Multiset.range 64 := Nat.multiset_Ico_map_mod ..
    rw [Nat.add_sub_cancel_left] at all
    exact all.symm

theorem nearestRank_eq : ∀ n < 65, nearestRank kLatencyMedianQuantile n = rank 50 n ∧
    nearestRank kLatencyTailQuantile n = rank 99 n ∧ (0 < n → rank 50 n < n ∧ rank 99 n < n) := by
  decide +kernel

/-- **The window reports the quantiles of the last samples accepted.**  Whatever was pushed and
however often it was reset, the count is that of the samples accepted since the last reset, as far as
the window has room for them, and the figures are those at the two ranks among exactly these. -/
theorem summary_quantiles (zero limit : α) (samples : Nat → α) (calls : List (Call α)) :
    let kept := calls.foldl (keep zero limit) []
    let sorted := (recent kept).mergeSort (· ≤ ·)
    let s := (run (step zero limit) { samples := samples } calls).summary zero
    s.samples = min kept.length 64 ∧ (kept ≠ [] →
      sorted[rank 50 s.samples]? = some s.rttP50Ms ∧
        sorted[rank 99 s.samples]? = some s.rttP99Ms) := by
  intro kept sorted s
  have h : Holds (run (step zero limit) { samples := samples } calls) kept :=
    List.foldl_rel (r := Holds) ⟨rfl, rfl, nofun⟩ fun call _ _ _ h => h.step call
  have count : _ = min kept.length 64 := h.count
  have same : ((List.range _).map _).mergeSort (· ≤ ·) = sorted :=
    congrArg (Multiset.sort (r := (· ≤ ·))) (Multiset.coe_eq_coe.mpr h.perm)
  rw [count] at same
  obtain ⟨median, tail, inside⟩ := nearestRank_eq (min kept.length 64) (by omega)
  have size : sorted.length = min kept.length 64 := by
    rw [List.length_mergeSort, recent, List.length_drop, kLatencyWindowCapacity]
    omega
  by_cases none : kept = []
  · simp [s, LatencyWindow.summary, count, none]
  · have some : 0 < min kept.length 64 := by
      have := List.length_pos_of_ne_nil none
      omega
    obtain ⟨-, -⟩ := inside some
    simp only [s, LatencyWindow.summary, count, same, median, tail, if_neg some.ne']
    refine ⟨trivial, fun _ => ⟨?_, ?_⟩⟩ <;>
    · rw [List.getD_eq_getElem?_getD, List.getElem?_eq_getElem (by omega)]
      rfl

end Dish.LatencyWindow
