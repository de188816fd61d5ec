/-
No descriptor and no report leads the HID decoder into undefined behaviour, but for the hat.

Each function gets one lemma that says that it succeeds and what its caller needs of the result.
What makes the arithmetic fit is that every bound the layout holds is a 32-bit word: the scalings
work in 64 bits, where such words leave room.  The hat works in 32 bits, where they do not.
-/
import Mathlib.Algebra.Order.Ring.Abs
import Dish.Core.UsbHidLayout

namespace Dish

open Machine

variable {a : HidAxis} {st : HidParseState} {out : HidLayout} (desc d : List UInt8) (raw : Nat)

/-! ### Words -/

theorem signExtend_ok (v bytes : Nat) : ∃ x, signExtend v bytes = .ok x ∧ FitsSigned 32 x := by
  unfold signExtend
  split
  · exact ⟨_, rfl, fits_toSignedWord32 _⟩
  · next inner =>
      have narrow : bytes * 8 < 32 := by omega
      have narrower : bytes * 8 - 1 < 32 := by omega
      simp only [shiftLeft_ok narrow, shiftLeft_ok narrower, bind, Except.bind]
      split
      · exact ⟨_, rfl, fits_toSignedWord32 _⟩
      · exact ⟨_, rfl, fits_toSignedWord32 _⟩

theorem toSigned_ok (bits : Nat) (logicalMin : Int) :
    ∃ x, toSigned raw bits logicalMin = .ok x ∧ FitsSigned 32 x := by
  unfold toSigned
  split
  · next inner =>
      obtain ⟨_, -, narrow⟩ := inner
      have narrower : bits - 1 < 32 := by omega
      simp only [shiftLeft_ok narrow, shiftLeft_ok narrower, bind, Except.bind]
      split
      · exact ⟨_, rfl, fits_toSignedWord32 _⟩
      · exact ⟨_, rfl, fits_toSignedWord32 _⟩
  · exact ⟨_, rfl, fits_toSignedWord32 _⟩

theorem extractFrom_ok (bitOff : Nat) :
    ∀ left i v, left + i ≤ 32 → ∃ x, extractFrom d bitOff left i v = .ok x := by
  intro left
  induction left with
  | zero =>
    intro i v _
    exact ⟨v, rfl⟩
  | succ left ih =>
    intro i v bound
    unfold extractFrom
    dsimp only
    split
    · exact ⟨v, rfl⟩
    · next inside =>
        have byteIn : (bitOff + i) % 2 ^ 32 / 8 < d.length := by omega
        have narrow : (bitOff + i) % 2 ^ 32 % 8 < 32 := by omega
        simp only [readAt_ok byteIn, shiftRight_ok narrow, bind, Except.bind]
        split
        · simp only [shiftLeft_ok (show i < 32 by omega)]
          exact ih (i + 1) _ (by omega)
        · exact ih (i + 1) _ (by omega)

theorem extractBits_ok (bitOff bits : Nat) : ∃ x, extractBits d bitOff bits = .ok x :=
  extractFrom_ok d bitOff (min bits 32) 0 0 (by omega)

/-! ### Scalings -/

/-- The axis's bounds are 32-bit words. -/
def HidAxis.Bounded (a : HidAxis) : Prop :=
  FitsSigned 32 a.logicalMin ∧ FitsSigned 32 a.logicalMax

theorem abs_tdiv_le (x y : Int) : |x.tdiv y| ≤ |x| := by
  rw [Int.abs_eq_natAbs, Int.abs_eq_natAbs, Int.natAbs_tdiv]
  exact_mod_cast Nat.div_le_self _ _

/-- A distance of a few words, scaled up and divided, fits 64 bits on the way. -/
theorem scaled_fits {x : Int} (near : |x| ≤ 2 ^ 34) {k : Int} (small : 0 ≤ k ∧ k ≤ 32767)
    (half : Int) :
    FitsSigned 64 x ∧ FitsSigned 64 (x * k) ∧ FitsSigned 64 ((x * k).tdiv half) ∧
      FitsSigned 64 (-(x * k).tdiv half) := by
  have product : |x * k| ≤ 2 ^ 34 * 32767 := by
    rw [abs_mul, abs_of_nonneg small.1]
    exact mul_le_mul near small.2 small.1 (by norm_num)
  have quotient := (abs_tdiv_le (x * k) half).trans product
  rw [abs_le] at near product quotient
  simp only [fitsSigned64_iff]
  omega

section
variable (bounded : a.Bounded)
include bounded

theorem span_fits : FitsSigned 64 (a.logicalMax - a.logicalMin) := by
  obtain ⟨minFits, maxFits⟩ := bounded
  rw [fitsSigned32_iff] at minFits maxFits
  rw [fitsSigned64_iff]
  omega

theorem scaleAxis16_ok (invert : Bool) : ∃ x, scaleAxis16 raw a invert = .ok x := by
  obtain ⟨v, signedRaw, vFits⟩ := toSigned_ok raw a.bitSize a.logicalMin
  have spanFits := span_fits bounded
  obtain ⟨minFits, maxFits⟩ := bounded
  rw [fitsSigned32_iff] at vFits minFits maxFits
  have sumFits : FitsSigned 64 (a.logicalMin + a.logicalMax) := by
    rw [fitsSigned64_iff]; omega
  have away : |v - (a.logicalMin + a.logicalMax).tdiv 2| ≤ 2 ^ 34 := by
    have centre := abs_tdiv_le (a.logicalMin + a.logicalMax) 2
    have sum : |a.logicalMin + a.logicalMax| ≤ 2 ^ 32 := by
      rw [abs_le]; omega
    rw [abs_le] at centre ⊢
    omega
  obtain ⟨awayFits, productFits, quotientFits, negFits⟩ :=
    scaled_fits away (k := 32767) (by decide) ((a.logicalMax - a.logicalMin).tdiv 2)
  unfold scaleAxis16
  simp only [signedRaw, signed_ok sumFits, signed_ok spanFits, bind, Except.bind]
  split
  · exact ⟨_, rfl⟩
  · simp only [signed_ok awayFits, signed_ok productFits, signed_ok quotientFits]
    cases invert with
    | true => simp only [signed_ok negFits, if_true]; exact ⟨_, rfl⟩
    | false => exact ⟨_, rfl⟩

theorem scaleTrig8_ok : ∃ x, scaleTrig8 raw a = .ok x := by
  obtain ⟨v, signedRaw, vFits⟩ := toSigned_ok raw a.bitSize a.logicalMin
  have spanFits := span_fits bounded
  obtain ⟨minFits, maxFits⟩ := bounded
  rw [fitsSigned32_iff] at vFits minFits maxFits
  have away : |v - a.logicalMin| ≤ 2 ^ 34 := by
    rw [abs_le]; omega
  obtain ⟨awayFits, productFits, quotientFits, _⟩ :=
    scaled_fits away (k := 255) (by decide) (a.logicalMax - a.logicalMin)
  unfold scaleTrig8
  simp only [signedRaw, signed_ok spanFits, bind, Except.bind]
  split
  · exact ⟨_, rfl⟩
  · simp only [signed_ok awayFits, signed_ok productFits, signed_ok quotientFits]
    exact ⟨_, rfl⟩

theorem axisIsDirection_ok : ∃ x, axisIsDirection a = .ok x := by
  have spanFits := span_fits bounded
  unfold axisIsDirection
  split
  · simp only [signed_ok spanFits, bind, Except.bind]
    exact ⟨_, rfl⟩
  · exact ⟨_, rfl⟩

theorem directionBits_ok (lowBit highBit : UInt16) :
    ∃ x, directionBits raw a lowBit highBit = .ok x := by
  obtain ⟨v, signedRaw, vFits⟩ := toSigned_ok raw a.bitSize a.logicalMin
  obtain ⟨minFits, _⟩ := bounded
  rw [fitsSigned32_iff] at vFits minFits
  have stepFits : FitsSigned 64 (v - a.logicalMin) := by
    rw [fitsSigned64_iff]; omega
  unfold directionBits
  simp only [signedRaw, signed_ok stepFits, bind, Except.bind]
  exact ⟨_, rfl⟩

/-! ### The decoder -/

theorem decodeLeftAxis_ok (lowBit highBit : UInt16) (invert : Bool) (b : UInt16) (before : Int) :
    ∃ x, decodeLeftAxis d a lowBit highBit invert b before = .ok x := by
  obtain ⟨direction, isDirection⟩ := axisIsDirection_ok bounded
  obtain ⟨raw, extracted⟩ := extractBits_ok d a.bitOffset a.bitSize
  obtain ⟨bits, directed⟩ := directionBits_ok raw bounded lowBit highBit
  obtain ⟨scaled, scales⟩ := scaleAxis16_ok raw bounded invert
  unfold decodeLeftAxis
  simp only [isDirection, extracted, directed, scales, bind, Except.bind]
  split
  · exact ⟨_, rfl⟩
  · split
    · exact ⟨_, rfl⟩
    · exact ⟨_, rfl⟩

theorem decodeRightAxis_ok (invert : Bool) (before : Int) :
    ∃ x, decodeRightAxis d a invert before = .ok x := by
  obtain ⟨raw, extracted⟩ := extractBits_ok d a.bitOffset a.bitSize
  unfold decodeRightAxis
  split
  · simp only [extracted, bind, Except.bind]
    exact scaleAxis16_ok raw bounded invert
  · exact ⟨_, rfl⟩

theorem decodeTrigger_ok (before : Nat) : ∃ x, decodeTrigger d a before = .ok x := by
  obtain ⟨raw, extracted⟩ := extractBits_ok d a.bitOffset a.bitSize
  unfold decodeTrigger
  split
  · simp only [extracted, bind, Except.bind]
    exact scaleTrig8_ok raw bounded
  · exact ⟨_, rfl⟩

end

theorem decodeButtonsFrom_ok (buttonBitOffset : Nat) (order : ButtonOrderMap) :
    ∀ more i b left right, i + more ≤ order.bits.length →
      ∃ x, decodeButtonsFrom d buttonBitOffset order more i b left right = .ok x := by
  intro more
  induction more with
  | zero =>
    intro i b left right _
    exact ⟨_, rfl⟩
  | succ more ih =>
    intro i b left right bound
    obtain ⟨bit, extracted⟩ := extractBits_ok d ((buttonBitOffset + i) % 2 ^ 32) 1
    unfold decodeButtonsFrom
    simp only [extracted, readAt_ok (show i < order.bits.length by omega), bind, Except.bind]
    split
    · exact ih _ _ _ _ (by omega)
    · split
      · exact ih _ _ _ _ (by omega)
      · split
        · exact ih _ _ _ _ (by omega)
        · exact ih _ _ _ _ (by omega)

theorem buttonOrderMap_length (order : ButtonOrder) :
    (buttonOrderMap order).bits.length = kMaxButtons := by
  cases order <;> rfl

/-! ### The layout a descriptor gives -/

/-- Every bound is a 32-bit word, the hat's place is one of 16 bits and there are at most sixteen
buttons. -/
structure HidLayout.Bounded (L : HidLayout) : Prop where
  lx : L.lx.Bounded
  ly : L.ly.Bounded
  rx : L.rx.Bounded
  ry : L.ry.Bounded
  lt : L.lt.Bounded
  rt : L.rt.Bounded
  hatMin : FitsSigned 32 L.hatLogicalMin
  hatMax : FitsSigned 32 L.hatLogicalMax
  hatPlace : L.hatBitOffset < 2 ^ 16
  buttons : L.buttonCount ≤ kMaxButtons

/-- The parse state holds words, and its usages are inside their array. -/
structure HidParseState.Sound (st : HidParseState) : Prop where
  logMin : FitsSigned 32 st.logMin
  logMax : FitsSigned 32 st.logMax
  reportCount : st.reportCount < 2 ^ 32
  array : st.usages.length = kMaxUsages
  usages : st.usageCount ≤ kMaxUsages

theorem bounded_zero : HidAxis.Bounded {} := ⟨by decide, by decide⟩

theorem bounded_default : HidLayout.Bounded {} := by
  constructor <;> first | exact bounded_zero | decide

theorem sound_default : HidParseState.Sound {} := by
  constructor <;> decide

theorem readData_ok (i : Nat) :
    ∀ left k data, i + k + left ≤ desc.length → k + left ≤ 4 → data < 2 ^ 32 →
      ∃ x, readData desc i left k data = .ok x ∧ x < 2 ^ 32 := by
  intro left
  induction left with
  | zero =>
    intro k data _ _ word
    exact ⟨data, rfl, word⟩
  | succ left ih =>
    intro k data inside short word
    unfold readData
    simp only [readAt_ok (show i + k < desc.length by omega),
      shiftLeft_ok (show 8 * k < 32 by omega), bind, Except.bind]
    refine ih (k + 1) _ (by omega) (by omega) ?_
    exact Nat.or_lt_two_pow word (Nat.mod_lt _ (by decide))

theorem dataLenOf_le (bSize : Nat) : bSize < 4 → dataLenOf bSize ≤ 4 := by
  intro small
  unfold dataLenOf
  split <;> omega

/-- An item that is there is read whole, and the position moves past it. -/
theorem readHidItem_ok {desc : List UInt8} {i : Nat} (inside : i < desc.length) :
    ∃ item next, readHidItem desc i = .ok (item, next) ∧ item.data < 2 ^ 32 ∧
      (item.truncated = false → item.skip = false →
        next = i + 1 + item.dataLen ∧ next ≤ desc.length) := by
  unfold readHidItem
  simp only [readAt_ok inside, bind, Except.bind]
  split
  · unfold readLongItem
    split
    · exact ⟨_, _, rfl, by decide, by simp⟩
    · next more =>
        simp only [readAt_ok (show i + 1 < desc.length by omega), bind, Except.bind]
        exact ⟨_, _, rfl, by decide, by simp⟩
  · unfold readShortItem
    dsimp only
    split
    · exact ⟨_, _, rfl, Nat.two_pow_pos 32, by simp⟩
    · next fits =>
        have short := dataLenOf_le (desc[i].toNat % 4) (by omega)
        obtain ⟨data, gathered, word⟩ :=
          readData_ok desc (i + 1) (dataLenOf (desc[i].toNat % 4)) 0 0 (by omega) (by omega)
            (by decide)
        simp only [gathered, bind, Except.bind]
        exact ⟨_, _, rfl, word, fun _ _ => ⟨rfl, by omega⟩⟩

theorem applyGlobalItem_ok {item : HidItem} (word : item.data < 2 ^ 32) (sound : st.Sound) :
    ∃ st', applyGlobalItem item st = .ok st' ∧ st'.Sound := by
  obtain ⟨x, extended, fits⟩ := signExtend_ok item.data item.dataLen
  unfold applyGlobalItem
  split
  · exact ⟨_, rfl, { sound with }⟩
  · simp only [extended, bind, Except.bind]
    exact ⟨_, rfl, { sound with logMin := fits }⟩
  · split
    · simp only [extended, bind, Except.bind]
      exact ⟨_, rfl, { sound with logMax := fits }⟩
    · exact ⟨_, rfl, { sound with logMax := fits_toSignedWord32 item.data }⟩
  · exact ⟨_, rfl, { sound with }⟩
  · exact ⟨_, rfl, { sound with }⟩
  · exact ⟨_, rfl, { sound with reportCount := word }⟩
  · exact ⟨_, rfl, sound⟩

theorem applyLocalItem_ok (item : HidItem) (sound : st.Sound) :
    ∃ st', applyLocalItem item st = .ok st' ∧ st'.Sound := by
  unfold applyLocalItem
  split
  · split
    · next more =>
        have inArray : st.usageCount < st.usages.length := by rw [sound.array]; exact more
        simp only [writeAt_ok inArray, bind, Except.bind]
        refine ⟨_, rfl, { sound with array := ?_, usages := more }⟩
        simpa using sound.array
    · exact ⟨_, rfl, sound⟩
  · exact ⟨_, rfl, { sound with }⟩
  · exact ⟨_, rfl, { sound with }⟩
  · exact ⟨_, rfl, sound⟩

theorem setAxis_bounded (bounded : a.Bounded) (bit size : Nat) {lo hi : Int}
    (low : FitsSigned 32 lo) (high : FitsSigned 32 hi) : (setAxis a bit size lo hi).Bounded := by
  unfold setAxis
  split
  · exact bounded
  · exact ⟨low, high⟩

theorem assignUsage_bounded (bounded : out.Bounded) (page usage bit size : Nat) {lo hi : Int}
    (low : FitsSigned 32 lo) (high : FitsSigned 32 hi) :
    (assignUsage out page usage bit size lo hi).Bounded := by
  unfold assignUsage
  split
  · split
    · exact { bounded with lx := setAxis_bounded bounded.lx bit size low high }
    · exact { bounded with ly := setAxis_bounded bounded.ly bit size low high }
    · exact { bounded with rx := setAxis_bounded bounded.rx bit size low high }
    · exact { bounded with ry := setAxis_bounded bounded.ry bit size low high }
    · exact { bounded with lt := setAxis_bounded bounded.lt bit size low high }
    · exact { bounded with rt := setAxis_bounded bounded.rt bit size low high }
    · split
      · exact bounded
      · exact { bounded with
          hatMin := low, hatMax := high, hatPlace := Nat.mod_lt _ (by decide) }
    · exact bounded
  · split
    · split
      · exact { bounded with lt := setAxis_bounded bounded.lt bit size low high }
      · split
        · exact { bounded with rt := setAxis_bounded bounded.rt bit size low high }
        · exact bounded
    · exact bounded

theorem fieldUsage_ok (sound : st.Sound) (f : Nat) : ∃ x, fieldUsage st f = .ok x := by
  unfold fieldUsage
  split
  · exact ⟨_, rfl⟩
  · split
    · exact ⟨_, rfl⟩
    · next some =>
        have inArray : (if f < st.usageCount then f else st.usageCount - 1) < st.usages.length := by
          rw [sound.array]
          have := sound.usages
          split <;> omega
        simp only [readAt_ok inArray, bind, Except.bind]
        exact ⟨_, rfl⟩

theorem fieldUsage_none {f : Nat} (read : fieldUsage st f = .ok none) :
    ¬st.haveRange ∧ st.usageCount = 0 := by
  unfold fieldUsage at read
  split at read
  · cases read
  · next single =>
      split at read
      · next none => exact ⟨single, none⟩
      · simp only [bind, Except.bind] at read
        split at read <;> cases read

theorem takeAxisFrom_ok (sound : st.Sound) (startBit : Nat) :
    ∀ left f out, HidLayout.Bounded out →
      ∃ out' turns, takeAxisFrom st startBit left f out = .ok (out', turns) ∧ out'.Bounded ∧
        turns ≤ left := by
  intro left
  induction left with
  | zero =>
    intro f out bounded
    exact ⟨out, 0, rfl, bounded, Nat.le_refl 0⟩
  | succ left ih =>
    intro f out bounded
    obtain ⟨usage, read⟩ := fieldUsage_ok sound f
    unfold takeAxisFrom
    simp only [read, bind, Except.bind]
    cases usage with
    | none => exact ⟨out, 1, rfl, bounded, by omega⟩
    | some usage =>
      obtain ⟨out', turns, taken, bounded', fewer⟩ := ih (f + 1) _
        (assignUsage_bounded bounded st.usagePage usage
          ((startBit + f * st.reportSize) % 2 ^ 32) st.reportSize sound.logMin sound.logMax)
      simp only [taken]
      exact ⟨out', turns + 1, rfl, bounded', by omega⟩

theorem takeButtonField_bounded (st : HidParseState) (startBit : Nat) (bounded : out.Bounded) :
    (takeButtonField st startBit out).Bounded := by
  unfold takeButtonField
  split
  · exact bounded
  · refine { bounded with buttons := ?_ }
    split <;> simp only [kMaxButtons] at * <;> omega

theorem applyInputItem_ok (item : HidItem) (sound : st.Sound) (bounded : out.Bounded) :
    ∃ st' out' turns, applyInputItem item st out = .ok (st', out', turns) ∧ st'.Sound ∧
      out'.Bounded ∧ turns < 2 ^ 32 := by
  -- The fields and the lock are the only things of the state an Input item changes.
  have soundAt : ∀ cursor locked id, HidParseState.Sound
      { st with bitCursor := cursor, locked := locked, lockedReportId := id } := by
    intro _ _ _
    exact { sound with }
  have boundedAt : ∀ id, HidLayout.Bounded { out with reportId := id } := by
    intro _
    exact { bounded with }
  have fields : ∀ cursor locked id startBit out, HidLayout.Bounded out →
      ∃ out' turns, takeAxisFields
        { st with bitCursor := cursor, locked := locked, lockedReportId := id } startBit out =
          .ok (out', turns) ∧ out'.Bounded ∧ turns < 2 ^ 32 := by
    intro cursor locked id startBit out bounded
    obtain ⟨out', turns, taken, bounded', fewer⟩ :=
      takeAxisFrom_ok (soundAt cursor locked id) startBit st.reportCount 0 out bounded
    exact ⟨out', turns, taken, bounded', by have := sound.reportCount; omega⟩
  unfold applyInputItem
  dsimp only
  split
  · exact ⟨_, _, 0, rfl, soundAt _ _ _, bounded, by decide⟩
  · cases locked : st.locked with
    | true =>
      simp only [if_true]
      split
      · exact ⟨_, _, 0, rfl, soundAt _ _ _, bounded, by decide⟩
      · split
        · exact ⟨_, _, 0, rfl, soundAt _ _ _, takeButtonField_bounded _ _ bounded, by decide⟩
        · split
          · obtain ⟨out', turns, taken, bounded', fewer⟩ :=
              fields ((st.bitCursor + st.reportSize * st.reportCount) % 2 ^ 32) st.locked
                st.lockedReportId st.bitCursor out bounded
            simp only [locked] at taken
            simp only [taken, bind, Except.bind]
            exact ⟨_, _, turns, rfl, soundAt _ _ _, bounded', fewer⟩
          · exact ⟨_, _, 0, rfl, soundAt _ _ _, bounded, by decide⟩
    | false =>
      simp only [Bool.false_eq_true, if_false, ne_eq, not_true_eq_false]
      split
      · exact ⟨_, _, 0, rfl, soundAt _ _ _, takeButtonField_bounded _ _ (boundedAt _), by decide⟩
      · split
        · obtain ⟨out', turns, taken, bounded', fewer⟩ :=
            fields ((st.bitCursor + st.reportSize * st.reportCount) % 2 ^ 32) true
              st.currentReportId st.bitCursor _ (boundedAt st.currentReportId)
          simp only [taken, bind, Except.bind]
          exact ⟨_, _, turns, rfl, soundAt _ _ _, bounded', fewer⟩
        · exact ⟨_, _, 0, rfl, soundAt _ _ _, boundedAt _, by decide⟩

theorem applyItem_ok {item : HidItem} (word : item.data < 2 ^ 32) (sound : st.Sound)
    (bounded : out.Bounded) :
    ∃ st' out' turns, applyItem item st out = .ok (st', out', turns) ∧ st'.Sound ∧ out'.Bounded ∧
      turns < 2 ^ 32 := by
  have none : 0 < 2 ^ 32 := Nat.two_pow_pos 32
  have cleared : ∀ st : HidParseState, st.Sound → (clearLocalItems st).Sound := by
    intro st sound
    exact { sound with usages := Nat.zero_le _ }
  unfold applyItem
  split
  · split
    · obtain ⟨st', out', turns, applied, sound', bounded', fewer⟩ :=
        applyInputItem_ok item sound bounded
      simp only [applied, bind, Except.bind]
      exact ⟨_, out', turns, rfl, cleared st' sound', bounded', fewer⟩
    · exact ⟨_, out, 0, rfl, cleared st sound, bounded, none⟩
  · split
    · obtain ⟨st', applied, sound'⟩ := applyGlobalItem_ok word sound
      simp only [applied, bind, Except.bind]
      exact ⟨st', out, 0, rfl, sound', bounded, none⟩
    · split
      · obtain ⟨st', applied, sound'⟩ := applyLocalItem_ok item sound
        simp only [applied, bind, Except.bind]
        exact ⟨st', out, 0, rfl, sound', bounded, none⟩
      · exact ⟨st, out, 0, rfl, sound, bounded, none⟩

/-- **Every descriptor parses**, and the loops take at most `2^32` turns for each byte. -/
theorem parseFrom_ok (i : Nat) (st : HidParseState) (out : HidLayout) (turns : Nat)
    (sound : st.Sound) (bounded : out.Bounded) :
    ∃ out' turns', parseFrom desc i st out turns = .ok (out', turns') ∧ out'.Bounded ∧
      turns' ≤ turns + 2 ^ 32 * (desc.length - i) := by
  fun_induction parseFrom desc i st out turns with
  | case1 i st out turns inside e read =>
    obtain ⟨item, next, reads, _⟩ := readHidItem_ok inside
    rw [reads] at read
    cases read
  | case2 i st out =>
    exact ⟨out, _, rfl, bounded, by omega⟩
  | case3 i st out turns inside item next read whole skipped ih =>
    obtain ⟨out', turns', parsed, bounded', fewer⟩ := ih sound bounded
    have := readHidItem_lt read
    exact ⟨out', turns', parsed, bounded', by omega⟩
  | case4 i st out turns inside item next read whole short e applied =>
    obtain ⟨_, _, reads, word, _⟩ := readHidItem_ok inside
    rw [reads] at read
    cases read
    obtain ⟨_, _, _, applies, _⟩ := applyItem_ok word sound bounded
    rw [applies] at applied
    cases applied
  | case5 i st out turns inside item next read whole short st' out' fields applied ih =>
    obtain ⟨_, _, reads, word, moved⟩ := readHidItem_ok inside
    rw [reads] at read
    cases read
    obtain ⟨_, _, _, applies, sound', bounded', fewer⟩ := applyItem_ok word sound bounded
    rw [applies] at applied
    cases applied
    obtain ⟨out'', turns', parsed, bounded'', bound⟩ := ih sound' bounded'
    obtain ⟨past, within⟩ := moved (by simpa using whole) (by simpa using short)
    exact ⟨out'', turns', parsed, bounded'', by omega⟩
  | case6 i st out turns =>
    exact ⟨out, turns, rfl, bounded, by omega⟩

theorem parseReportDescriptor_ok :
    ∃ L turns, parseReportDescriptor desc = .ok (L, turns) ∧ L.Bounded ∧
      turns ≤ 2 ^ 32 * desc.length := by
  obtain ⟨out, turns, parsed, bounded, fewer⟩ :=
    parseFrom_ok desc 0 {} {} 0 sound_default bounded_default
  unfold parseReportDescriptor
  simp only [parsed, bind, Except.bind]
  exact ⟨_, turns, rfl, { bounded with }, by simpa using fewer⟩

end Dish
