/-
Exactly which descriptors and reports the hat's arithmetic overflows on.

The decoder takes the hat's two differences in `int`: the maximum and the value, each less the
minimum.  Which hat that is and what its value is are said here of the descriptor and the report
themselves.  The descriptor's items are followed with the parse state in force at each of them, the
first Hat Switch field of the report the layout locks onto gives the bounds and the place, and the
report's own bits at that place are the value.
-/
import Mathlib.Data.Nat.Bitwise
import Dish.Proofs.HidSafety

namespace Dish

open Machine

variable {st st' : HidParseState} {out out' : HidLayout} {item : HidItem} {L : HidLayout}
  {buf desc : List UInt8} {turns turns' : Nat}

/-! ### The hat a descriptor declares -/

/-- A hat as it is declared: its report, the place and width there, and the bounds in force at its
Input item. -/
structure HatItem where
  reportId : UInt8
  bit : Nat
  size : Nat
  logMin : Int
  logMax : Int
  deriving DecidableEq, Repr

/-- The short items up to the first one that is cut off. -/
def itemsFrom (desc : List UInt8) (i : Nat) : List HidItem :=
  if i < desc.length then
    match _read : readHidItem desc i with
    | .error _ => []
    | .ok (item, next) =>
      if item.truncated then []
      else if item.skip then itemsFrom desc next
      else item :: itemsFrom desc next
  else []
termination_by desc.length - i
decreasing_by
  all_goals
    have := readHidItem_lt _read
    omega

namespace HidParseState

def usage (st : HidParseState) (f : Nat) : Option Nat :=
  if st.haveRange then some ((st.usageMin + f) % 2 ^ 32)
  else if st.usageCount = 0 then none
  else st.usages[if f < st.usageCount then f else st.usageCount - 1]?

/-- The Input item declares data fields. -/
def carries (st : HidParseState) (item : HidItem) : Bool :=
  item.data % 2 = 0 && st.reportSize > 0 && st.reportCount > 0

/-- It declares them for the report the layout locks onto. -/
def takes (st : HidParseState) (item : HidItem) : Bool :=
  st.carries item && (!st.locked || st.currentReportId == st.lockedReportId)

/-- The first field with the Hat Switch usage. -/
def hatField (st : HidParseState) : Option Nat :=
  (List.range st.reportCount).find? fun f => st.usage f == some 0x39

/-- The hat in the `f`-th field of an Input item. -/
def hatIn (st : HidParseState) (f : Nat) : HatItem where
  reportId := st.currentReportId
  bit := (st.bitCursor + f * st.reportSize) % 2 ^ 16
  size := st.reportSize % 2 ^ 8
  logMin := st.logMin
  logMax := st.logMax

def hatAt (st : HidParseState) (item : HidItem) : Option HatItem :=
  if item.type = 0 ∧ item.tag = 0x8 ∧ st.takes item ∧ st.usagePage = 0x01 then
    st.hatField.map st.hatIn
  else none

/-- An Input item moves the cursor, and the first that carries data locks its report. -/
def afterInput (st : HidParseState) (item : HidItem) : HidParseState :=
  let moved := { st with bitCursor := (st.bitCursor + st.reportSize * st.reportCount) % 2 ^ 32 }
  if st.carries item && !st.locked then
    { moved with locked := true, lockedReportId := st.currentReportId }
  else moved

/-- What is in force after an item. -/
def after (st : HidParseState) (item : HidItem) : HidParseState :=
  if item.type = 0 then clearLocalItems (if item.tag = 0x8 then st.afterInput item else st)
  else if item.type = 1 then (applyGlobalItem item st).toOption.getD st
  else if item.type = 2 then (applyLocalItem item st).toOption.getD st
  else st

end HidParseState

/-- The first hat the items declare from a state on. -/
def hatFrom : HidParseState → List HidItem → Option HatItem
  | _, [] => none
  | st, item :: rest => (st.hatAt item).or (hatFrom (st.after item) rest)

def declaredHat (desc : List UInt8) : Option HatItem := hatFrom {} (itemsFrom desc 0)

/-! ### The value a report has for it -/

/-- The `j`-th bit of the bytes, lowest first; nothing is set past the end. -/
def bitAt (d : List UInt8) (j : Nat) : Bool :=
  match d[j / 8]? with
  | some byte => byte.toNat.testBit (j % 8)
  | none => false

/-- The bytes behind the report's id, if it is that report. -/
def payloadFor (id : UInt8) (buf : List UInt8) : Option (List UInt8) :=
  if id = 0 then some buf else if buf.head? = some id then some buf.tail else none

/-- The field's bits as an `int`; of a wider field the low thirty-two. -/
def HatItem.value (hat : HatItem) (d : List UInt8) : Int :=
  toSignedWord 32 (Nat.ofBits fun k : Fin (min hat.size 32) => bitAt d (hat.bit + k))

/-- The difference of `x` and the hat's minimum is an `int`. -/
def HatItem.InReach (hat : HatItem) (x : Int) : Prop :=
  hat.logMin - 2 ^ 31 ≤ x ∧ x < hat.logMin + 2 ^ 31

instance (hat : HatItem) (x : Int) : Decidable (hat.InReach x) :=
  inferInstanceAs (Decidable (_ ∧ _))

/-! ### The parser keeps the declared hat -/

/-- The hat the layout has. -/
def HidLayout.hat (L : HidLayout) : Option HatItem :=
  if L.hasHat then
    some ⟨L.reportId, L.hatBitOffset, L.hatBitSize, L.hatLogicalMin, L.hatLogicalMax⟩
  else none

/-- The layout is about the report the state has locked, and has nothing before one is. -/
structure Locks (st : HidParseState) (out : HidLayout) : Prop where
  locked : st.locked = true → out.reportId = st.lockedReportId
  unlocked : st.locked = false → out.hasHat = false

theorem usage_eq {f : Nat} {u : Option Nat} (read : fieldUsage st f = .ok u) : st.usage f = u := by
  unfold fieldUsage at read
  unfold HidParseState.usage
  split at read
  · next range =>
      cases read
      rw [if_pos range]
  · next single =>
      rw [if_neg single]
      split at read
      · next none =>
          cases read
          rw [if_pos none]
      · next some =>
          rw [if_neg some]
          unfold readAt at read
          split at read
          · next there =>
              cases read
              exact there
          · cases read

theorem hat_assignUsage (out : HidLayout) (page usage bit size : Nat) (lo hi : Int) :
    (assignUsage out page usage bit size lo hi).reportId = out.reportId ∧
      (assignUsage out page usage bit size lo hi).hat =
        if page = 0x01 ∧ usage = 0x39 then
          out.hat.or (some ⟨out.reportId, bit % 2 ^ 16, size % 2 ^ 8, lo, hi⟩)
        else out.hat := by
  unfold assignUsage HidLayout.hat
  repeat' split
  all_goals simp_all

/-- The loop over the fields keeps the first hat among those left. -/
theorem hat_takeAxisFrom (startBit : Nat) :
    ∀ left f out, takeAxisFrom st startBit left f out = .ok (out', turns) →
      out'.reportId = out.reportId ∧
      out'.hat = out.hat.or (if st.usagePage = 0x01 then
        ((List.range' f left).find? fun f => st.usage f == some 0x39).map fun f =>
          ⟨out.reportId, (startBit + f * st.reportSize) % 2 ^ 16, st.reportSize % 2 ^ 8, st.logMin,
            st.logMax⟩
        else none) := by
  intro left
  induction left generalizing turns with
  | zero =>
    intro f out taken
    cases taken
    simp
  | succ left ih =>
    intro f out taken
    unfold takeAxisFrom at taken
    cases read : fieldUsage st f with
    | error e => simp [read, bind, Except.bind] at taken
    | ok usage =>
      have usageIs := usage_eq read
      simp only [read, bind, Except.bind] at taken
      cases usage with
      | none =>
        cases taken
        -- Without a usage here there is none for any later field.
        have noUsage : ∀ f, st.usage f = none := by
          intro g
          obtain ⟨single, none⟩ := fieldUsage_none read
          rw [HidParseState.usage, if_neg single, if_pos none]
        have noHat : ((List.range' f (left + 1)).find? fun f => st.usage f == some 0x39) = none := by
          simp [noUsage]
        simp [noHat]
      | some usage =>
        simp only at taken
        split at taken
        · cases taken
        · next rest more =>
            cases taken
            obtain ⟨sameId, hat⟩ := ih _ _ more
            obtain ⟨keptId, assigned⟩ := hat_assignUsage out st.usagePage usage
              ((startBit + f * st.reportSize) % 2 ^ 32) st.reportSize st.logMin st.logMax
            refine ⟨sameId.trans keptId, ?_⟩
            rw [hat, assigned, keptId, List.range'_succ, List.find?_cons, usageIs]
            by_cases page : st.usagePage = 0x01
            · by_cases isHat : usage = 0x39
              · simp [page, isHat]
              · have miss : (some usage == some 0x39) = false := by simpa using isHat
                simp [page, isHat, miss]
            · simp [page]

/-- The fields of an Input item, once the report is locked. -/
theorem inputFields_hat {startBit : Nat}
    (applied : (if st.currentReportId ≠ st.lockedReportId then .ok (st, out, 0)
      else if st.usagePage = 0x09 then .ok (st, takeButtonField st startBit out, 0)
      else if st.usagePage = 0x01 ∨ st.usagePage = 0x02 then do
        let (out, turns) ← takeAxisFields st startBit out
        .ok (st, out, turns)
      else .ok (st, out, 0)) = (.ok (st', out', turns) : Checked _)) :
    st' = st ∧ out'.reportId = out.reportId ∧
      out'.hat = out.hat.or
        (if st.currentReportId = st.lockedReportId ∧ st.usagePage = 0x01 then
          st.hatField.map fun f => ⟨out.reportId, (startBit + f * st.reportSize) % 2 ^ 16,
            st.reportSize % 2 ^ 8, st.logMin, st.logMax⟩
        else none) := by
  split at applied
  · next other =>
      cases applied
      simp [other]
  · next same =>
      rw [not_not] at same
      split at applied
      · next page =>
          cases applied
          unfold takeButtonField HidLayout.hat
          split <;> simp [page]
      · split at applied
        · simp only [takeAxisFields, bind, Except.bind] at applied
          split at applied
          · cases applied
          · next rest taken =>
              cases applied
              obtain ⟨sameId, hat⟩ := hat_takeAxisFrom startBit _ _ _ taken
              refine ⟨rfl, sameId, ?_⟩
              rw [hat, HidParseState.hatField, List.range_eq_range']
              simp [same]
        · next neither =>
            cases applied
            have page : st.usagePage ≠ 0x01 := fun is => neither (.inl is)
            simp [page]

/-- An Input item: the state is the one in force after it, and a hat is kept if there is none. -/
theorem applyInputItem_hat (locks : Locks st out)
    (applied : applyInputItem item st out = .ok (st', out', turns)) :
    st' = st.afterInput item ∧ Locks st' out' ∧
      out'.hat = out.hat.or (if st.takes item ∧ st.usagePage = 0x01 then
        st.hatField.map st.hatIn else none) := by
  unfold applyInputItem at applied
  dsimp only at applied
  split at applied
  · next idle =>
      cases applied
      have still : st.carries item = false := by
        simp only [HidParseState.carries, Bool.and_eq_false_iff, decide_eq_false_iff_not]
        omega
      refine ⟨?_, ⟨locks.locked, locks.unlocked⟩, ?_⟩
      · simp [HidParseState.afterInput, still]
      · simp [HidParseState.takes, still]
  · next busy =>
      have carries : st.carries item = true := by
        simp only [HidParseState.carries, Bool.and_eq_true, decide_eq_true_eq]
        omega
      cases locked : st.locked with
      | true =>
        rw [if_pos locked] at applied
        obtain ⟨rfl, sameId, hat⟩ := inputFields_hat applied
        refine ⟨by simp [HidParseState.afterInput, locked], ⟨?_, ?_⟩, ?_⟩
        · intro _
          exact sameId.trans (locks.locked locked)
        · intro unlocked
          cases unlocked.symm.trans locked
        · have takes : st.takes item = true ↔ st.currentReportId = st.lockedReportId := by
            simp [HidParseState.takes, carries, locked]
          rw [hat]
          simp only [takes]
          by_cases same : st.currentReportId = st.lockedReportId
          · have about : out.reportId = st.currentReportId :=
              (locks.locked locked).trans same.symm
            simp only [about]
            rfl
          · simp only [same, false_and, if_false]
      | false =>
        rw [if_neg (show ¬ st.locked = true by simp [locked])] at applied
        obtain ⟨rfl, sameId, hat⟩ := inputFields_hat applied
        refine ⟨by simp [HidParseState.afterInput, carries, locked], ⟨?_, ?_⟩, ?_⟩
        · intro _
          exact sameId
        · intro unlocked
          cases unlocked
        · have takes : st.takes item = true := by
            simp [HidParseState.takes, carries, locked]
          have fresh : ∀ id, HidLayout.hat { out with reportId := id } = out.hat := by
            intro id
            simp [HidLayout.hat, locks.unlocked locked]
          rw [hat, fresh]
          simp only [takes, true_and]
          rfl

theorem applyGlobalItem_lock (applied : applyGlobalItem item st = .ok st') :
    st'.locked = st.locked ∧ st'.lockedReportId = st.lockedReportId := by
  simp only [applyGlobalItem, bind, Except.bind] at applied
  repeat' split at applied
  all_goals first
    | cases applied; exact ⟨rfl, rfl⟩
    | cases applied

theorem applyLocalItem_lock (applied : applyLocalItem item st = .ok st') :
    st'.locked = st.locked ∧ st'.lockedReportId = st.lockedReportId := by
  simp only [applyLocalItem, bind, Except.bind] at applied
  repeat' split at applied
  all_goals first
    | cases applied; exact ⟨rfl, rfl⟩
    | cases applied

theorem Locks.of_same (locks : Locks st out)
    (same : st'.locked = st.locked ∧ st'.lockedReportId = st.lockedReportId) : Locks st' out := by
  obtain ⟨locked, id⟩ := same
  constructor
  · rw [locked, id]
    exact locks.locked
  · rw [locked]
    exact locks.unlocked

theorem applyItem_hat (locks : Locks st out)
    (applied : applyItem item st out = .ok (st', out', turns)) :
    st' = st.after item ∧ Locks st' out' ∧ out'.hat = out.hat.or (st.hatAt item) := by
  unfold applyItem at applied
  unfold HidParseState.after HidParseState.hatAt
  split at applied
  · next main =>
      by_cases input : item.tag = 0x8
      · rw [if_pos input] at applied
        cases taken : applyInputItem item st out with
        | error e => simp [taken, bind, Except.bind] at applied
        | ok result =>
          simp only [taken, bind, Except.bind] at applied
          cases applied
          obtain ⟨state, locks', hat⟩ := applyInputItem_hat locks taken
          refine ⟨?_, locks'.of_same ⟨rfl, rfl⟩, ?_⟩
          · rw [if_pos main, if_pos input, state]
          · rw [hat]
            simp only [main, input, true_and]
      · rw [if_neg input] at applied
        cases applied
        refine ⟨?_, locks.of_same ⟨rfl, rfl⟩, ?_⟩
        · rw [if_pos main, if_neg input]
        · simp [input]
  · next other =>
      simp only [other, false_and, if_false, Option.or_none]
      split at applied
      · next global =>
          cases given : applyGlobalItem item st with
          | error e => simp [given, bind, Except.bind] at applied
          | ok next =>
            simp only [given, bind, Except.bind] at applied
            cases applied
            refine ⟨?_, locks.of_same (applyGlobalItem_lock given), rfl⟩
            rw [if_pos global]
            rfl
      · next notGlobal =>
          rw [if_neg notGlobal]
          split at applied
          · next isLocal =>
              cases given : applyLocalItem item st with
              | error e => simp [given, bind, Except.bind] at applied
              | ok next =>
                simp only [given, bind, Except.bind] at applied
                cases applied
                refine ⟨?_, locks.of_same (applyLocalItem_lock given), rfl⟩
                rw [if_pos isLocal]
                rfl
          · next reserved =>
              cases applied
              exact ⟨(if_neg reserved).symm, locks, rfl⟩

theorem itemsFrom_read {i next : Nat} (inside : i < desc.length)
    (read : readHidItem desc i = .ok (item, next)) :
    itemsFrom desc i =
      if item.truncated then []
      else if item.skip then itemsFrom desc next
      else item :: itemsFrom desc next := by
  rw [itemsFrom, if_pos inside]
  split
  · next failed => cases read.symm.trans failed
  · next reads =>
      cases read.symm.trans reads
      rfl

/-- **The layout's hat is the declared one.** -/
theorem parseFrom_hat (i : Nat) (locks : Locks st out)
    (parsed : parseFrom desc i st out turns = .ok (out', turns')) :
    out'.hat = out.hat.or (hatFrom st (itemsFrom desc i)) := by
  fun_induction parseFrom desc i st out turns with
  | case1 i st out turns inside e read => cases parsed
  | case2 i st out turns inside item next read cut =>
    cases parsed
    rw [itemsFrom_read inside read, if_pos cut, hatFrom, Option.or_none]
  | case3 i st out turns inside item next read whole skipped ih =>
    rw [itemsFrom_read inside read, if_neg whole, if_pos skipped]
    exact ih locks parsed
  | case4 i st out turns inside item next read whole short e applied => cases parsed
  | case5 i st out turns inside item next read whole short st' out' fields applied ih =>
    obtain ⟨rfl, locks', hat⟩ := applyItem_hat locks applied
    rw [itemsFrom_read inside read, if_neg whole, if_neg short, hatFrom, ih locks' parsed, hat,
      Option.or_assoc]
  | case6 i st out turns outside =>
    cases parsed
    rw [itemsFrom, if_neg outside, hatFrom, Option.or_none]

theorem parseReportDescriptor_hat
    (parsed : parseReportDescriptor desc = .ok (L, turns)) : L.hat = declaredHat desc ∧
      (L.hasHat = true → L.valid = true) := by
  unfold parseReportDescriptor at parsed
  cases read : parseFrom desc 0 {} {} 0 with
  | error e => simp [read, bind, Except.bind] at parsed
  | ok result =>
    simp only [read, bind, Except.bind] at parsed
    cases parsed
    have hat := parseFrom_hat 0 ⟨by simp, fun _ => rfl⟩ read
    refine ⟨hat, ?_⟩
    intro has
    have has : result.1.hasHat = true := has
    simp only [has, Bool.or_true]

/-! ### Decoding it -/

theorem payloadOf_eq (L : HidLayout) (buf : List UInt8) :
    payloadOf L buf = .ok (payloadFor L.reportId buf) := by
  unfold payloadOf payloadFor
  cases buf with
  | nil => by_cases none : L.reportId = 0 <;> simp [none]
  | cons b rest =>
    by_cases none : L.reportId = 0
    · simp [none]
    · by_cases same : b = L.reportId <;> simp [none, same, readAt, bind, Except.bind]

theorem testBit_high {v i k : Nat} (small : v < 2 ^ i) (high : ¬ k < i) : v.testBit k = false :=
  Nat.testBit_lt_two_pow (Nat.lt_of_lt_of_le small
    (Nat.pow_le_pow_right (by omega) (Nat.not_lt.mp high)))

/-- The bits gathered so far stay, and the next ones are the report's. -/
theorem extractFrom_eq (d : List UInt8) (bitOff : Nat) (room : bitOff + 32 ≤ 2 ^ 32) :
    ∀ left i v, left + i ≤ 32 → v < 2 ^ i →
      ∃ x, extractFrom d bitOff left i v = .ok x ∧
        ∀ k, x.testBit k =
          if k < i then v.testBit k else (decide (k < i + left) && bitAt d (bitOff + k)) := by
  intro left
  induction left with
  | zero =>
    intro i v _ small
    refine ⟨v, rfl, ?_⟩
    intro k
    split
    · rfl
    · next high =>
        simp [high, testBit_high small high]
  | succ left ih =>
    intro i v bound small
    have word : (bitOff + i) % 2 ^ 32 = bitOff + i := Nat.mod_eq_of_lt (by omega)
    unfold extractFrom
    simp only [word]
    split
    · next past =>
        refine ⟨v, rfl, ?_⟩
        intro k
        split
        · rfl
        · next high =>
            have beyond : bitAt d (bitOff + k) = false := by
              unfold bitAt
              rw [List.getElem?_eq_none (by omega)]
            rw [testBit_high small high, beyond, Bool.and_false]
    · next inside =>
        have byteIn : (bitOff + i) / 8 < d.length := by omega
        have bit : bitAt d (bitOff + i) =
            decide (d[(bitOff + i) / 8].toNat / 2 ^ ((bitOff + i) % 8) % 2 = 1) := by
          unfold bitAt
          rw [List.getElem?_eq_getElem byteIn]
          exact Nat.testBit_eq_decide_div_mod_eq
        simp only [readAt_ok byteIn, shiftRight_ok (show (bitOff + i) % 8 < 32 by omega), bind,
          Except.bind]
        -- The bit at `i` is set in the next number exactly when the report has it set.
        have carryOn : ∀ v', v' < 2 ^ (i + 1) →
            (∀ k, k < i → v'.testBit k = v.testBit k) → v'.testBit i = bitAt d (bitOff + i) →
            ∃ x, extractFrom d bitOff left (i + 1) v' = .ok x ∧
              ∀ k, x.testBit k = if k < i then v.testBit k
                else (decide (k < i + (left + 1)) && bitAt d (bitOff + k)) := by
          intro v' small' below here
          obtain ⟨x, extracted, bits⟩ := ih (i + 1) v' (by omega) small'
          refine ⟨x, extracted, ?_⟩
          intro k
          rw [bits k]
          by_cases lower : k < i
          · rw [if_pos (by omega), if_pos lower, below k lower]
          · by_cases same : k = i
            · subst same
              rw [if_pos (by omega), if_neg lower, here]
              simp
            · rw [if_neg (by omega), if_neg lower]
              congr 2
              simp only [eq_iff_iff]
              omega
        have wider : v < 2 ^ (i + 1) :=
          Nat.lt_of_lt_of_le small (Nat.pow_le_pow_right (by omega) (by omega))
        split
        · next set =>
            simp only [shiftLeft_one (show i < 32 by omega)]
            apply carryOn
            · exact Nat.or_lt_two_pow wider (Nat.pow_lt_pow_right (by omega) (by omega))
            · intro k lower
              rw [Nat.testBit_or, Nat.testBit_two_pow_of_ne (by omega), Bool.or_false]
            · rw [Nat.testBit_or, Nat.testBit_two_pow_self, Bool.or_true, bit, eq_comm,
                decide_eq_true_eq]
              omega
        · next clear =>
            apply carryOn v wider (fun k _ => rfl)
            rw [Nat.testBit_lt_two_pow small, bit, eq_comm, decide_eq_false_iff_not]
            omega

theorem extractBits_eq (d : List UInt8) {bitOff : Nat} (low : bitOff < 2 ^ 16) (bits : Nat) :
    extractBits d bitOff bits =
      .ok (Nat.ofBits fun k : Fin (min bits 32) => bitAt d (bitOff + k)) := by
  obtain ⟨x, extracted, is⟩ := extractFrom_eq d bitOff (by omega) (min bits 32) 0 0
    (by omega) (by decide)
  rw [extractBits, extracted]
  congr 1
  apply Nat.eq_of_testBit_eq
  intro k
  rw [is k, if_neg (by omega), Nat.testBit_ofBits]
  by_cases inside : k < min bits 32 <;> simp [inside]

/-- **The hat decodes exactly when both differences are `int`s.** -/
theorem decodeHat_iff (bounded : L.Bounded) (d : List UInt8) (b : UInt16) :
    (∃ x, decodeHat d L b = .ok x) ↔
      ∀ hat ∈ L.hat, hat.InReach hat.logMax ∧ hat.InReach (hat.value d) := by
  unfold decodeHat HidLayout.hat
  cases has : L.hasHat with
  | false => simp
  | true =>
    have reach : ∀ lo x : Int, lo - 2 ^ 31 ≤ x ∧ x < lo + 2 ^ 31 ↔ FitsSigned 32 (x - lo) := by
      intro lo x
      rw [fitsSigned32_iff]
      omega
    simp only [if_true, extractBits_eq d bounded.hatPlace, bind, Except.bind, Option.mem_some_iff,
      forall_eq', HatItem.InReach, HatItem.value, reach]
    generalize toSignedWord 32 _ - L.hatLogicalMin = dir
    generalize L.hatLogicalMax - L.hatLogicalMin = range
    by_cases dirFits : FitsSigned 32 dir
    · by_cases rangeFits : FitsSigned 32 range
      · simp [signed_ok dirFits, signed_ok rangeFits, dirFits, rangeFits]
      · simp [signed, dirFits, rangeFits]
    · simp [signed, dirFits]

theorem decodeFromLayout_iff (bounded : L.Bounded) (valid : L.hasHat = true → L.valid = true)
    (buf : List UInt8) (s : ParsedReport) :
    (∃ x, decodeFromLayout buf s L = .ok x) ↔
      ∀ hat ∈ L.hat, ∀ d ∈ payloadFor hat.reportId buf,
        hat.InReach hat.logMax ∧ hat.InReach (hat.value d) := by
  have about : ∀ hat ∈ L.hat, hat.reportId = L.reportId := by
    intro hat mem
    unfold HidLayout.hat at mem
    split at mem
    · cases mem
      rfl
    · cases mem
  unfold decodeFromLayout
  split
  · simp only [payloadOf_eq, bind, Except.bind]
    cases payload : payloadFor L.reportId buf with
    | none =>
      refine iff_of_true ⟨_, rfl⟩ ?_
      intro hat mem d given
      rw [about hat mem, payload] at given
      cases given
    | some d =>
      obtain ⟨⟨b, lx⟩, decodedLx⟩ :=
        decodeLeftAxis_ok d bounded.lx kXusbDpadLeft kXusbDpadRight false 0 s.lx
      obtain ⟨⟨b, ly⟩, decodedLy⟩ :=
        decodeLeftAxis_ok d bounded.ly kXusbDpadUp kXusbDpadDown true b s.ly
      obtain ⟨rx, decodedRx⟩ := decodeRightAxis_ok d bounded.rx false s.rx
      obtain ⟨ry, decodedRy⟩ := decodeRightAxis_ok d bounded.ry true s.ry
      obtain ⟨lt, decodedLt⟩ := decodeTrigger_ok d bounded.lt s.lt
      obtain ⟨rt, decodedRt⟩ := decodeTrigger_ok d bounded.rt s.rt
      simp only [decodedLx, decodedLy, decodedRx, decodedRy, decodedLt, decodedRt]
      have only : (∀ hat ∈ L.hat, ∀ d' ∈ payloadFor hat.reportId buf,
          hat.InReach hat.logMax ∧ hat.InReach (hat.value d')) ↔
          ∃ x, decodeHat d L b = .ok x := by
        rw [decodeHat_iff bounded]
        refine forall₂_congr fun hat mem => ?_
        rw [about hat mem, payload]
        simp
      rw [only]
      cases hat : decodeHat d L b with
      | error e => simp
      | ok b =>
        obtain ⟨⟨b, left, right⟩, decodedButtons⟩ :=
          decodeButtonsFrom_ok d L.buttonBitOffset (buttonOrderMap L.order) L.buttonCount 0 b false
            false (by rw [buttonOrderMap_length, Nat.zero_add]; exact bounded.buttons)
        simp only [decodedButtons]
        exact iff_of_true ⟨_, rfl⟩ ⟨_, rfl⟩
  · next invalid =>
      have none : L.hat = none := by
        unfold HidLayout.hat
        rw [if_neg fun has => invalid (valid has)]
      simp [none]

/-! ### Parsing a descriptor and decoding a report with it -/

/-- A descriptor parsed and a report decoded with its layout, under a button order. -/
def decodeWith (desc : List UInt8) (order : ButtonOrder) (buf : List UInt8) (s : ParsedReport) :
    Checked (Bool × ParsedReport) := do
  let (L, _) ← parseReportDescriptor desc
  decodeFromLayout buf s { L with order := order }

/-- **No undefined behaviour but the hat's.**  For every descriptor and every report the parser and
the decoder make every read inside its array, every shift narrower than the word and every signed
result in range, exactly unless the descriptor declares a hat, the report is the hat's, and the hat's
maximum or its value there is too far from its minimum for an `int`. -/
theorem hid_decode_defined (desc : List UInt8) (order : ButtonOrder) (buf : List UInt8)
    (s : ParsedReport) :
    (∃ r, decodeWith desc order buf s = .ok r) ↔
      ∀ hat ∈ declaredHat desc, ∀ d ∈ payloadFor hat.reportId buf,
        hat.InReach hat.logMax ∧ hat.InReach (hat.value d) := by
  obtain ⟨L, turns, parsed, bounded, _⟩ := parseReportDescriptor_ok desc
  obtain ⟨hat, valid⟩ := parseReportDescriptor_hat parsed
  have bounded : HidLayout.Bounded { L with order := order } := { bounded with }
  unfold decodeWith
  simp only [parsed, bind, Except.bind]
  rw [decodeFromLayout_iff bounded valid, ← hat]
  rfl

/-- A hat from -1 to the largest `int`: the range has no value. -/
theorem hat_range_overflows :
    decodeWith [0x05, 0x01, 0x09, 0x39, 0x15, 0xFF, 0x27, 0xFF, 0xFF, 0xFF, 0x7F, 0x75, 0x04, 0x95,
      0x01, 0x81, 0x42] .western [0x00] {} = .error .signedOverflow := by
  decide +kernel

end Dish
