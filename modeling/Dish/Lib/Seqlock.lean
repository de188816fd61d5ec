/-
A sequence lock over words, one writer at a time.

The writer makes the generation odd, stores the words one by one and makes it even
again.  A reader notes an even generation, copies the words one by one and looks at
the generation once more.  The generation is counted here without a bound; a machine
keeps it in a fixed width, so what a reader compares is its residue, and the two
agree as long as fewer writes than the width can count pass by (`eq_of_mod_eq`).

What a reader's copy is worth is `Copy.Valid`: as long as the generation is the one
noted, the words copied so far are the words in memory.  Every step of the writer
keeps that for every reader, because a noted generation is even and the writer only
stores while the generation is odd.
-/
import Mathlib.Logic.Function.Basic

namespace Seqlock

variable {β : Type*}

/-- The generation and the words it guards. -/
structure Cell (β : Type*) where
  gen : Nat
  words : Nat → β

namespace Cell

/-- `beginWrite` and `endWrite`: the generation moves on by one. -/
def bump (c : Cell β) : Cell β := { c with gen := c.gen + 1 }

def store (c : Cell β) (i : Nat) (w : β) : Cell β :=
  { c with words := Function.update c.words i w }

end Cell

/-- A reader's copy: the generation it noted, the words so far and the next to read. -/
structure Copy (β : Type*) where
  before : Nat
  words : Nat → β
  next : Nat

namespace Copy

/-- The copy a reader starts at the generation it notes, nothing read yet. -/
def start (c : Cell β) : Copy β := ⟨c.gen, c.words, 0⟩

/-- One more word read. -/
def load (k : Copy β) (c : Cell β) : Copy β :=
  { k with words := Function.update k.words k.next (c.words k.next), next := k.next + 1 }

/-- The copy is of the write its generation names, as far as it goes. -/
structure Valid (c : Cell β) (k : Copy β) : Prop where
  even : k.before % 2 = 0
  le : k.before ≤ c.gen
  agrees : c.gen = k.before → ∀ i, i < k.next → k.words i = c.words i

variable {c : Cell β} {k : Copy β}

theorem valid_start (h : c.gen % 2 = 0) : (start c).Valid c :=
  ⟨h, Nat.le_refl _, fun _ i hi => absurd hi (Nat.not_lt_zero i)⟩

theorem Valid.load (h : k.Valid c) : (k.load c).Valid c := by
  refine ⟨h.even, h.le, fun hgen i hi => ?_⟩
  show Function.update k.words k.next (c.words k.next) i = c.words i
  by_cases hnext : i = k.next
  · subst hnext
    rw [Function.update_self]
  · rw [Function.update_of_ne hnext]
    have hi' : i < k.next + 1 := hi
    exact h.agrees hgen i (by omega)

/-- Opening or closing a write leaves every noted generation behind. -/
theorem Valid.bump (h : k.Valid c) : k.Valid c.bump := by
  have hle : k.before ≤ c.gen := h.le
  refine ⟨h.even, Nat.le_succ_of_le hle, fun hgen => ?_⟩
  have hgen' : c.gen + 1 = k.before := hgen
  omega

/-- A store under an odd generation is seen by no copy that still counts. -/
theorem Valid.store (h : k.Valid c) (hodd : c.gen % 2 = 1) (i : Nat) (w : β) :
    k.Valid (c.store i w) := by
  refine ⟨h.even, h.le, fun hgen => ?_⟩
  have hgen' : c.gen = k.before := hgen
  have heven := h.even
  omega

end Copy

theorem eq_of_mod_eq {a b n : Nat} (hle : a ≤ b) (hlt : b < a + n) (h : b % n = a % n) : b = a := by
  have hsub : (b - a) % n = 0 := Nat.sub_mod_eq_zero_of_mod_eq h
  have hzero : b - a = 0 := by
    rw [Nat.mod_eq_of_lt (by omega)] at hsub
    exact hsub
  omega

end Seqlock
