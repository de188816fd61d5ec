/-
Machine operations that say when they have no meaning.

A read outside an array, a shift by the word's width or more and a signed result that does not fit
have no defined value in C++.  Each such operation is written here as one that can fail, so that a
function built from them succeeds exactly when none of its steps is undefined.  Unsigned words are
naturals below `2^w` and signed ones are integers.
-/
import Mathlib.Data.Int.Basic
import Mathlib.Data.List.Basic
import Mathlib.Tactic.NormNum

namespace Machine

/-- What can go wrong. -/
inductive Ub where
  | outOfBounds
  | wideShift
  | signedOverflow
  deriving DecidableEq, Repr

abbrev Checked := Except Ub

def readAt {α : Type} (xs : List α) (i : Nat) : Checked α :=
  match xs[i]? with
  | some x => .ok x
  | none => .error .outOfBounds

def writeAt {α : Type} (xs : List α) (i : Nat) (x : α) : Checked (List α) :=
  if i < xs.length then .ok (xs.set i x) else .error .outOfBounds

/-- `v << n` on unsigned words of `w` bits. -/
def shiftLeft (w v n : Nat) : Checked Nat :=
  if n < w then .ok (v * 2 ^ n % 2 ^ w) else .error .wideShift

/-- `v >> n` on unsigned words of `w` bits. -/
def shiftRight (w v n : Nat) : Checked Nat :=
  if n < w then .ok (v / 2 ^ n) else .error .wideShift

/-- The integer is one of the signed words of `w` bits. -/
def FitsSigned (w : Nat) (x : Int) : Prop := -(2 ^ (w - 1)) ≤ x ∧ x < 2 ^ (w - 1)

instance (w : Nat) (x : Int) : Decidable (FitsSigned w x) :=
  inferInstanceAs (Decidable (_ ∧ _))

/-- The result of a signed operation, when it fits. -/
def signed (w : Nat) (x : Int) : Checked Int :=
  if FitsSigned w x then .ok x else .error .signedOverflow

/-- The complement of an unsigned word. -/
def complement (w v : Nat) : Nat := 2 ^ w - 1 - v

/-- The conversion of an unsigned word to the signed one with its bits, which is always defined. -/
def toSignedWord (w v : Nat) : Int :=
  if v % 2 ^ w < 2 ^ (w - 1) then (v % 2 ^ w : Nat) else (v % 2 ^ w : Nat) - (2 ^ w : Nat)

theorem readAt_ok {α : Type} {xs : List α} {i : Nat} (inside : i < xs.length) :
    readAt xs i = .ok xs[i] := by
  simp [readAt, inside]

theorem writeAt_ok {α : Type} {xs : List α} {i : Nat} (inside : i < xs.length) (x : α) :
    writeAt xs i x = .ok (xs.set i x) := if_pos inside

theorem shiftLeft_ok {w n : Nat} (narrow : n < w) (v : Nat) :
    shiftLeft w v n = .ok (v * 2 ^ n % 2 ^ w) := if_pos narrow

theorem shiftLeft_one {w n : Nat} (narrow : n < w) : shiftLeft w 1 n = .ok (2 ^ n) := by
  rw [shiftLeft_ok narrow, Nat.one_mul, Nat.mod_eq_of_lt (Nat.pow_lt_pow_right (by omega) narrow)]

theorem shiftRight_ok {w n : Nat} (narrow : n < w) (v : Nat) :
    shiftRight w v n = .ok (v / 2 ^ n) := if_pos narrow

theorem signed_ok {w : Nat} {x : Int} (fits : FitsSigned w x) : signed w x = .ok x := if_pos fits

theorem fitsSigned32_iff {x : Int} : FitsSigned 32 x ↔ -2147483648 ≤ x ∧ x < 2147483648 := by
  norm_num [FitsSigned]

theorem fitsSigned64_iff {x : Int} :
    FitsSigned 64 x ↔ -9223372036854775808 ≤ x ∧ x < 9223372036854775808 := by
  norm_num [FitsSigned]

theorem fits_toSignedWord32 (v : Nat) : FitsSigned 32 (toSignedWord 32 v) := by
  rw [fitsSigned32_iff, toSignedWord]
  have word : v % 2 ^ 32 < 2 ^ 32 := Nat.mod_lt _ (by norm_num)
  split <;> omega

end Machine
