/-
Reading a descriptor is applying its items one by one.

A descriptor is the concatenation of its short items: a type, a tag and at most four bytes of data
each.  An encoded item is read back as it was, whatever stands around it, so the parser's loop over
the bytes of a list of short items is a fold over the list.
-/
import Mathlib.Tactic.Ring
import Dish.Core.UsbHidLayout

namespace Dish.Hid

open Machine

/-! ### Items -/

/-- A short item: the prefix byte 0xFE is kept for long items. -/
structure ShortItem where
  type : Fin 4
  tag : Fin 16
  data : List UInt8
  sizes : data.length = 0 ∨ data.length = 1 ∨ data.length = 2 ∨ data.length = 4
  short : ¬ (type = 3 ∧ tag = 15 ∧ data.length = 2)

/-- The bytes as an unsigned number, lowest first. -/
def littleEndian : List UInt8 → Nat
  | [] => 0
  | b :: rest => b.toNat + 256 * littleEndian rest

namespace ShortItem

def value (item : ShortItem) : Nat := littleEndian item.data

/-- Two bits of size, where 3 stands for four bytes, two of type and four of tag. -/
def pre (item : ShortItem) : UInt8 :=
  ((if item.data.length = 4 then 3 else item.data.length) + 4 * item.type.val +
    16 * item.tag.val).toUInt8

def bytes (item : ShortItem) : List UInt8 := item.pre :: item.data

/-- The item with these parts, and an empty one where no short item has them. -/
def ofParts (type tag : Nat) (data : List UInt8) : ShortItem :=
  if h : (data.length = 0 ∨ data.length = 1 ∨ data.length = 2 ∨ data.length = 4) ∧
      ¬ (Fin.ofNat 4 type = 3 ∧ Fin.ofNat 16 tag = 15 ∧ data.length = 2) then
    ⟨Fin.ofNat 4 type, Fin.ofNat 16 tag, data, h.1, h.2⟩
  else ⟨0, 0, [], .inl rfl, nofun⟩

end ShortItem

/-- The descriptor as the device sends it. -/
def encode (items : List ShortItem) : List UInt8 := items.flatMap ShortItem.bytes

/-! ### Reading them back -/

theorem readData_eq (desc : List UInt8) (i : Nat) :
    ∀ (todo : List UInt8) (k acc : Nat), (desc.drop (i + k)).take todo.length = todo →
      acc < 2 ^ (8 * k) → k + todo.length ≤ 4 →
      readData desc i todo.length k acc = .ok (acc + 2 ^ (8 * k) * littleEndian todo) := by
  intro todo
  induction todo with
  | nil =>
    intro k acc _ _ _
    simp [readData, littleEndian]
  | cons b rest ih =>
    intro k acc here small short
    simp only [List.length_cons] at here short ⊢
    have inside : i + k < desc.length := by
      by_contra past
      rw [List.drop_of_length_le (by omega)] at here
      cases here
    rw [List.drop_eq_getElem_cons inside, List.take_succ_cons] at here
    obtain ⟨first, others⟩ := List.cons.inj here
    have byte := b.toNat_lt
    have word : b.toNat * 2 ^ (8 * k) % 2 ^ 32 = 2 ^ (8 * k) * b.toNat := by
      rw [Nat.mul_comm, Nat.mod_eq_of_lt]
      have split : (2 : Nat) ^ 32 = 2 ^ (8 * k) * 2 ^ (32 - 8 * k) := by
        rw [← Nat.pow_add]; congr 1; omega
      have room : (2 : Nat) ^ 8 ≤ 2 ^ (32 - 8 * k) := Nat.pow_le_pow_right (by omega) (by omega)
      rw [split]
      exact Nat.mul_lt_mul_of_pos_left (by omega) (Nat.two_pow_pos _)
    unfold readData
    simp only [readAt_ok inside, shiftLeft_ok (show 8 * k < 32 by omega), bind, Except.bind, first,
      word]
    have joined : acc ||| 2 ^ (8 * k) * b.toNat = acc + 2 ^ (8 * k) * b.toNat := by
      rw [Nat.or_comm, ← Nat.two_pow_add_eq_or_of_lt small, Nat.add_comm]
    rw [joined, ih (k + 1)]
    · simp only [littleEndian, Nat.mul_add, Nat.pow_add]
      congr 1
      ring_nf
    · exact others
    · have : (2 : Nat) ^ (8 * (k + 1)) = 2 ^ (8 * k) * 256 := by
        rw [Nat.mul_add, Nat.pow_add]
      have := Nat.mul_le_mul_left (2 ^ (8 * k)) (show b.toNat ≤ 255 by omega)
      omega
    · omega

namespace ShortItem

/-- The item as the parser sees it. -/
def parsed (item : ShortItem) : HidItem where
  type := item.type.val
  tag := item.tag.val
  dataLen := item.data.length
  data := item.value

section
variable (item : ShortItem)

theorem length_le : item.data.length ≤ 4 := by
  have := item.sizes
  omega

theorem pre_toNat :
    item.pre.toNat = (if item.data.length = 4 then 3 else item.data.length) + 4 * item.type.val +
      16 * item.tag.val := by
  have sizes := item.sizes
  apply Nat.mod_eq_of_lt
  split <;> omega

theorem pre_ne_long : item.pre ≠ 0xFE := by
  intro long
  have number := item.pre_toNat
  have sizes := item.sizes
  rw [long] at number
  change 254 = _ at number
  apply item.short
  refine ⟨Fin.ext ?_, Fin.ext ?_, ?_⟩
  · change item.type.val = 3
    split at number <;> omega
  · change item.tag.val = 15
    split at number <;> omega
  · split at number <;> omega

/-- **An encoded item is read back.** -/
theorem readHidItem_bytes (before after : List UInt8) :
    readHidItem (before ++ (item.bytes ++ after)) before.length =
      .ok (item.parsed, before.length + item.bytes.length) := by
  have sizes := item.sizes
  have number := item.pre_toNat
  have read : readAt (before ++ (item.bytes ++ after)) before.length = .ok item.pre := by
    simp [readAt, bytes]
  have len : dataLenOf (item.pre.toNat % 4) = item.data.length := by
    rw [number]
    unfold dataLenOf
    split <;> split <;> omega
  have data := readData_eq (before ++ (item.bytes ++ after)) (before.length + 1) item.data 0 0
    (by simp [bytes]) (by decide) (by have := item.length_le; omega)
  unfold readHidItem
  simp only [read, bind, Except.bind, item.pre_ne_long, if_false]
  unfold readShortItem
  simp only [len, bind, Except.bind, data]
  rw [if_neg (by simp [bytes]; omega)]
  have typeOf : item.pre.toNat / 4 % 4 = item.type.val := by
    rw [number]
    split <;> omega
  have tagOf : item.pre.toNat / 16 % 16 = item.tag.val := by
    rw [number]
    split <;> omega
  simp [typeOf, tagOf, parsed, value, bytes]
  omega

end

end ShortItem

/-- The items applied one by one, with the turns of the loops. -/
def applyItems : List ShortItem → HidParseState → HidLayout → Nat →
    Checked (HidParseState × HidLayout × Nat)
  | [], st, out, turns => .ok (st, out, turns)
  | item :: rest, st, out, turns => do
      let (st, out, fields) ← applyItem item.parsed st out
      applyItems rest st out (turns + 1 + item.data.length + fields)

theorem applyItems_append (xs ys : List ShortItem) :
    ∀ (st : HidParseState) (out : HidLayout) (turns : Nat),
      applyItems (xs ++ ys) st out turns = (do
        let (st, out, turns) ← applyItems xs st out turns
        applyItems ys st out turns) := by
  induction xs with
  | nil =>
    intro st out turns
    rfl
  | cons item rest ih =>
    intro st out turns
    simp only [List.cons_append, applyItems, bind, Except.bind]
    cases applyItem item.parsed st out with
    | error e => rfl
    | ok r => exact ih _ _ _

/-- **The parser's loop is a fold over the items.** -/
theorem parseFrom_encode (items : List ShortItem) :
    ∀ (before : List UInt8) (st : HidParseState) (out : HidLayout) (turns : Nat),
      parseFrom (before ++ encode items) before.length st out turns =
        (applyItems items st out turns).map fun r => r.2 := by
  induction items with
  | nil =>
    intro before st out turns
    rw [parseFrom]
    simp [encode, applyItems, Except.map]
  | cons item rest ih =>
    intro before st out turns
    have bytes : before ++ encode (item :: rest) = before ++ (item.bytes ++ encode rest) := by
      simp [encode]
    have inside : before.length < (before ++ (item.bytes ++ encode rest)).length := by
      simp [ShortItem.bytes]
    rw [parseFrom, bytes, if_pos inside]
    split
    · next e read =>
        rw [item.readHidItem_bytes] at read
        cases read
    · next parsed next read =>
        rw [item.readHidItem_bytes] at read
        cases read
        simp only [applyItems, bind, Except.bind]
        cases applyItem item.parsed st out with
        | error e => rfl
        | ok r =>
          have rest := ih (before ++ item.bytes) r.1 r.2.1 (turns + 1 + item.data.length + r.2.2)
          rw [List.append_assoc, List.length_append] at rest
          exact rest

end Dish.Hid
