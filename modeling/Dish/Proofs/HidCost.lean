/-
What parsing a descriptor costs.

Every byte is paid for once by the loop over the items, and every Input item pays for its fields.
The fields of one item are as many as a 32-bit word can count, so the bound is linear in the length
of the descriptor with a factor of that size, and a short descriptor reaches it.
-/
import Dish.Proofs.HidItems
import Dish.Proofs.HidSafety

namespace Dish

open Machine Hid

theorem takeAxisFrom_turns {st : HidParseState} (usages : st.haveRange ∨ st.usageCount ≠ 0)
    (startBit : Nat) :
    ∀ left f out out' turns, takeAxisFrom st startBit left f out = .ok (out', turns) →
      turns = left := by
  intro left
  induction left with
  | zero =>
    intro f out out' turns taken
    cases taken
    rfl
  | succ left ih =>
    intro f out out' turns taken
    unfold takeAxisFrom at taken
    cases read : fieldUsage st f with
    | error e =>
      rw [read] at taken
      cases taken
    | ok usage =>
      rw [read] at taken
      cases usage with
      | none =>
        obtain ⟨single, none⟩ := fieldUsage_none read
        exact absurd usages (by simp [single, none])
      | some usage =>
        simp only [bind, Except.bind] at taken
        split at taken
        · cases taken
        · next rest eq =>
            cases taken
            rw [ih _ _ _ _ eq]

/-- An Input item on the desktop page takes a turn for each field it declares. -/
theorem applyItem_turns {item : HidItem} {st : HidParseState} {out : HidLayout}
    {r : HidParseState × HidLayout × Nat} (main : item.type = 0) (input : item.tag = 8)
    (data : item.data % 2 = 0) (size : 0 < st.reportSize) (count : 0 < st.reportCount)
    (page : st.usagePage = 0x01) (fresh : st.locked = false)
    (usages : st.haveRange ∨ st.usageCount ≠ 0) (applied : applyItem item st out = .ok r) :
    r.2.2 = st.reportCount := by
  simp only [applyItem, main, input, applyInputItem, data, size, count, page, fresh, if_true,
    ne_eq, not_true_eq_false, and_self, or_self, if_false, Bool.false_eq_true, true_or,
    OfNat.one_ne_ofNat, bind, Except.bind] at applied
  split at applied
  · cases applied
  · next taken =>
      cases applied
      split at taken
      · cases taken
      · next fields =>
          cases taken
          refine takeAxisFrom_turns ?_ _ _ _ _ _ _ fields
          exact usages

/-- One bit for X, as often as a word can count. -/
def stallingGlobals : List ShortItem :=
  [ .ofParts 1 0 [0x01], .ofParts 2 0 [0x30], .ofParts 1 7 [0x01],
    .ofParts 1 9 [0xFF, 0xFF, 0xFF, 0xFF] ]

def stallingInput : ShortItem := .ofParts 0 8 [0x02]

/-- The state the items before the Input item leave. -/
def stallingState : HidParseState :=
  { usagePage := 1, reportSize := 1, reportCount := 2 ^ 32 - 1,
    usages := 0x30 :: List.replicate 15 0, usageCount := 1 }

theorem stalling_globals :
    ∃ st, applyItems stallingGlobals {} {} 0 = .ok (st, {}, 11) ∧ st.reportCount = 2 ^ 32 - 1 ∧
      0 < st.reportSize ∧ st.usagePage = 0x01 ∧ st.locked = false ∧ st.usageCount ≠ 0 :=
  ⟨stallingState, by decide +kernel, rfl, by decide, rfl, rfl, by decide⟩

theorem stalling_turns {L : HidLayout} {turns : Nat}
    (parsed : parseReportDescriptor (encode (stallingGlobals ++ [stallingInput])) =
      .ok (L, turns)) : 2 ^ 32 - 1 ≤ turns := by
  obtain ⟨st, globals, count, size, page, fresh, usages⟩ := stalling_globals
  have loop := parseFrom_encode (stallingGlobals ++ [stallingInput]) [] {} {} 0
  rw [applyItems_append, globals] at loop
  simp only [List.nil_append, List.length_nil, bind, Except.bind, applyItems] at loop
  cases applied : applyItem stallingInput.parsed st {} with
  | error e =>
    rw [applied] at loop
    rw [parseReportDescriptor, loop] at parsed
    cases parsed
  | ok r =>
    have cost : r.2.2 = st.reportCount :=
      applyItem_turns rfl rfl rfl size (by omega) page fresh (.inr usages) applied
    rw [applied] at loop
    rw [parseReportDescriptor, loop] at parsed
    have turned : 11 + 1 + stallingInput.data.length + r.2.2 = turns :=
      congrArg Prod.snd (Except.ok.inj parsed)
    omega

/-- **Parsing is linear, with a large factor**: at most `2^32` turns for each byte of the descriptor,
and no factor below `2^28` does. -/
theorem hid_parse_turns :
    (∀ desc : List UInt8, ∃ L turns, parseReportDescriptor desc = .ok (L, turns) ∧
      turns ≤ 2 ^ 32 * desc.length) ∧
    ∀ C : Nat, (∀ desc L turns, parseReportDescriptor desc = .ok (L, turns) →
      turns ≤ C * (desc.length + 1)) → 2 ^ 28 ≤ C := by
  constructor
  · intro desc
    obtain ⟨L, turns, parsed, _, fewer⟩ := parseReportDescriptor_ok desc
    exact ⟨L, turns, parsed, fewer⟩
  · intro C enough
    obtain ⟨L, turns, parsed, _, _⟩ :=
      parseReportDescriptor_ok (encode (stallingGlobals ++ [stallingInput]))
    have most := enough _ L turns parsed
    have least := stalling_turns parsed
    have length : (encode (stallingGlobals ++ [stallingInput])).length = 13 := by decide
    rw [length] at most
    omega

/-- Thirteen bytes from a device keep the thread that enumerates it for 4294967295 turns. -/
theorem thirteen_bytes_stall :
    ∃ L turns,
      parseReportDescriptor [0x05, 0x01, 0x09, 0x30, 0x75, 0x01, 0x97, 0xFF, 0xFF, 0xFF, 0xFF, 0x81,
        0x02] = .ok (L, turns) ∧ 4294967295 ≤ turns := by
  have bytes : encode (stallingGlobals ++ [stallingInput]) =
      [0x05, 0x01, 0x09, 0x30, 0x75, 0x01, 0x97, 0xFF, 0xFF, 0xFF, 0xFF, 0x81, 0x02] := by
    decide
  obtain ⟨L, turns, parsed, _, _⟩ :=
    parseReportDescriptor_ok (encode (stallingGlobals ++ [stallingInput]))
  exact ⟨L, turns, parsed, stalling_turns parsed⟩

end Dish
