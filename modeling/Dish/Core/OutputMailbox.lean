/-
The feedback of one pad, and the posts that change it.

`OutputMailbox` keeps the newest value of every kind of feedback in one record, kept as 64-bit
words that a seqlock guards, and one pending bit for each kind.  A word is modelled as its eight
bytes, and the record as the bytes the compiler lays out, so that a reader that mixes the words of
two records gets the mix the machine would give.  The steps of `post` and `take` are in the
worker that runs them.
-/
import Mathlib.Data.Fintype.Basic
import Mathlib.Data.Fintype.Pi
import Mathlib.Data.List.Induction
import Mathlib.Data.List.TakeDrop
import Dish.Core.UsbOutputReports

namespace Dish

/-! ### The record -/

/-- What a pad's feedback should be now, the newest value of each kind. -/
@[ext] structure OutputState where
  strong : UInt16 := 0
  weak : UInt16 := 0
  durationMs : UInt16 := 0
  r : UInt8 := 0
  g : UInt8 := 0
  b : UInt8 := 0
  ledMask : UInt8 := 0
  micLedState : UInt8 := 0
  leftTrigger : TriggerBlock := fun _ => 0
  rightTrigger : TriggerBlock := fun _ => 0
  deriving DecidableEq

def lowByte (v : UInt16) : UInt8 := UInt8.ofNat (v.toNat % 256)

def highByte (v : UInt16) : UInt8 := UInt8.ofNat (v.toNat / 256)

/-- A 16-bit field in memory, low byte first. -/
def word16 (low high : UInt8) : UInt16 := UInt16.ofNat (low.toNat + 256 * high.toNat)

@[simp] theorem word16_bytes (v : UInt16) : word16 (lowByte v) (highByte v) = v := by
  have hv : v.toNat < 2 ^ 16 := v.toNat_lt
  apply UInt16.toNat_inj.mp
  simp only [word16, lowByte, highByte, UInt16.toNat_ofNat', UInt8.toNat_ofNat']
  omega

namespace OutputState

/-- The byte at an offset of the record, zero from its last field on. -/
def byteAt (s : OutputState) : Nat → UInt8
  | 0 => lowByte s.strong
  | 1 => highByte s.strong
  | 2 => lowByte s.weak
  | 3 => highByte s.weak
  | 4 => lowByte s.durationMs
  | 5 => highByte s.durationMs
  | 6 => s.r
  | 7 => s.g
  | 8 => s.b
  | 9 => s.ledMask
  | 10 => s.micLedState
  | j + 11 =>
    if h : j < kTriggerEffectBlockBytes then s.leftTrigger ⟨j, h⟩
    else if h : j - kTriggerEffectBlockBytes < kTriggerEffectBlockBytes then
      s.rightTrigger ⟨j - kTriggerEffectBlockBytes, h⟩
    else 0

def ofBytes (byte : Nat → UInt8) : OutputState where
  strong := word16 (byte 0) (byte 1)
  weak := word16 (byte 2) (byte 3)
  durationMs := word16 (byte 4) (byte 5)
  r := byte 6
  g := byte 7
  b := byte 8
  ledMask := byte 9
  micLedState := byte 10
  leftTrigger i := byte (i + 11)
  rightTrigger i := byte (i + kTriggerEffectBlockBytes + 11)

theorem ofBytes_byteAt (s : OutputState) : ofBytes s.byteAt = s := by
  refine OutputState.ext ?_ ?_ ?_ ?_ ?_ ?_ ?_ ?_ ?_ ?_
  all_goals try exact word16_bytes _
  all_goals try rfl
  · funext i
    show (if h : (i : Nat) < kTriggerEffectBlockBytes then _ else _) = _
    rw [dif_pos i.isLt]
  · funext i
    have hoff : ¬ (i : Nat) + kTriggerEffectBlockBytes < kTriggerEffectBlockBytes := by omega
    have hback : (i : Nat) + kTriggerEffectBlockBytes - kTriggerEffectBlockBytes = i :=
      Nat.add_sub_cancel ..
    simp only [ofBytes, byteAt, dif_neg hoff, hback, i.isLt, dif_pos, Fin.eta]

/-! ### The record as words -/

/-- `AtomicWords<OutputState>::kWords`: 34 bytes in 64-bit words. -/
def kWords : Nat := 5

/-- A 64-bit word, as its bytes. -/
abbrev Word := Fin 8 → UInt8

/-- The words `AtomicWords::store` writes. -/
def word (s : OutputState) (i : Nat) : Word := fun k => s.byteAt (8 * i + k)

/-- The record `AtomicWords::load` makes of the words it read. -/
def ofWords (words : Nat → Word) : OutputState :=
  ofBytes fun j => if j < 8 * kWords then words (j / 8) ⟨j % 8, Nat.mod_lt _ (by decide)⟩ else 0

theorem byteAt_of_le (s : OutputState) {j : Nat} (h : 33 ≤ j) : s.byteAt j = 0 := by
  obtain ⟨j, rfl⟩ : ∃ k, j = k + 11 := ⟨j - 11, by omega⟩
  show (if h : j < kTriggerEffectBlockBytes then _ else _) = _
  have hblock : kTriggerEffectBlockBytes = 11 := rfl
  rw [dif_neg (by omega), dif_neg (by omega)]

theorem ofWords_word (s : OutputState) : ofWords s.word = s := by
  have hbytes : (fun j => if j < 8 * kWords then
      s.word (j / 8) ⟨j % 8, Nat.mod_lt _ (by decide)⟩ else 0) = s.byteAt := by
    funext j
    by_cases h : j < 8 * kWords
    · rw [if_pos h]
      show s.byteAt (8 * (j / 8) + j % 8) = s.byteAt j
      rw [Nat.div_add_mod]
    · have hwords : kWords = 5 := rfl
      rw [if_neg h, byteAt_of_le s (by omega)]
  unfold ofWords
  rw [hbytes, ofBytes_byteAt]

theorem ofWords_congr {w v : Nat → Word} (h : ∀ i, i < kWords → w i = v i) :
    ofWords w = ofWords v := by
  unfold ofWords
  congr 1
  funext j
  by_cases hj : j < 8 * kWords
  · rw [if_pos hj, if_pos hj, h _ (by omega)]
  · rw [if_neg hj, if_neg hj]

end OutputState

/-! ### The kinds -/

/-- A kind of feedback.  `bit` is its place in the pending word. -/
inductive OutputKind where
  | rumble
  | lightbar
  | triggerEffects
  | playerLeds
  | micLed
  deriving DecidableEq, Repr

def OutputKind.bit : OutputKind → UInt32
  | .rumble => (1 : UInt32) <<< 0
  | .lightbar => (1 : UInt32) <<< 1
  | .triggerEffects => (1 : UInt32) <<< 2
  | .playerLeds => (1 : UInt32) <<< 3
  | .micLed => (1 : UInt32) <<< 4

/-- The kind's bit is set in a word of kinds. -/
def HasKind (kinds : UInt32) (k : OutputKind) : Prop := kinds &&& k.bit ≠ 0

instance (kinds : UInt32) (k : OutputKind) : Decidable (HasKind kinds k) :=
  inferInstanceAs (Decidable (_ ≠ _))

theorem not_hasKind_zero (k : OutputKind) : ¬ HasKind 0 k := by
  unfold HasKind
  rw [UInt32.zero_and]
  exact fun h => h rfl

theorem hasKind_bit (k : OutputKind) : HasKind k.bit k := by
  cases k <;> decide

theorem hasKind_or {a b : UInt32} {k : OutputKind} :
    HasKind (a ||| b) k ↔ HasKind a k ∨ HasKind b k := by
  have hdistrib : (a ||| b) &&& k.bit = (a &&& k.bit) ||| (b &&& k.bit) := by
    apply UInt32.toBitVec_inj.mp
    exact BitVec.and_or_distrib_right
  unfold HasKind
  rw [hdistrib, Ne, UInt32.or_eq_zero_iff, Classical.not_and_iff_not_or_not]

/-! ### Posts -/

/-- One post: its kind with the value posted. -/
inductive OutputPost where
  | rumble (strong weak durationMs : UInt16)
  | lightbar (r g b : UInt8)
  | triggerEffects (left right : TriggerBlock)
  | playerLeds (ledMask : UInt8)
  | micLed (state : UInt8)
  deriving DecidableEq

namespace OutputPost

def kind : OutputPost → OutputKind
  | .rumble .. => .rumble
  | .lightbar .. => .lightbar
  | .triggerEffects .. => .triggerEffects
  | .playerLeds .. => .playerLeds
  | .micLed .. => .micLed

/-- What the post does to the record. -/
def edit (p : OutputPost) (s : OutputState) : OutputState :=
  match p with
  | .rumble strong weak durationMs => { s with strong, weak, durationMs }
  | .lightbar r g b => { s with r, g, b }
  | .triggerEffects left right => { s with leftTrigger := left, rightTrigger := right }
  | .playerLeds ledMask => { s with ledMask }
  | .micLed state => { s with micLedState := state }

/-- The record holds the value posted. -/
def ShownBy (p : OutputPost) (s : OutputState) : Prop := p.edit s = s

theorem shownBy_edit (p : OutputPost) (s : OutputState) : p.ShownBy (p.edit s) := by
  cases p <;> rfl

theorem ShownBy.edit {p q : OutputPost} {s : OutputState} (h : p.ShownBy s)
    (hkind : q.kind ≠ p.kind) : p.ShownBy (q.edit s) := by
  have hcomm : p.edit (q.edit s) = q.edit (p.edit s) := by
    cases p <;> cases q <;> first | rfl | exact absurd rfl hkind
  show p.edit (q.edit s) = q.edit s
  rw [hcomm, h]

end OutputPost

/-- The record after the posts, in the order they were written. -/
def stateAfter (posts : List OutputPost) : OutputState :=
  posts.foldl (fun s p => p.edit s) {}

@[simp] theorem stateAfter_concat (posts : List OutputPost) (p : OutputPost) :
    stateAfter (posts ++ [p]) = p.edit (stateAfter posts) := List.foldl_append ..

/-- The record shows, for every post, its value or that of a later post of its kind. -/
theorem stateAfter_shows {posts : List OutputPost} {i : Nat} {p : OutputPost}
    (h : posts[i]? = some p) :
    ∃ j q, i ≤ j ∧ posts[j]? = some q ∧ q.kind = p.kind ∧ q.ShownBy (stateAfter posts) := by
  induction posts using List.reverseRecOn with
  | nil => simp at h
  | append_singleton posts x ih =>
    have hi : i < (posts ++ [x]).length := (List.getElem?_eq_some_iff.mp h).1
    rw [List.length_append, List.length_singleton] at hi
    rw [stateAfter_concat]
    by_cases hkind : x.kind = p.kind
    · exact ⟨posts.length, x, by omega, List.getElem?_concat_length, hkind, x.shownBy_edit _⟩
    · -- the last post is of another kind, so it is not the one asked about
      have hlt : i < posts.length := by
        rcases Nat.lt_or_ge i posts.length with hlt | hge
        · exact hlt
        · obtain rfl : i = posts.length := by omega
          rw [List.getElem?_concat_length] at h
          exact absurd (congrArg OutputPost.kind (Option.some.inj h)) hkind
      rw [List.getElem?_append_left hlt] at h
      obtain ⟨j, q, hij, hj, hq, hshown⟩ := ih h
      have hjlt : j < posts.length := (List.getElem?_eq_some_iff.mp hj).1
      refine ⟨j, q, hij, by rw [List.getElem?_append_left hjlt, hj], hq, hshown.edit ?_⟩
      rw [hq]
      exact hkind

end Dish
