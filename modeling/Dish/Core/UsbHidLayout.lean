/-
The gamepad field map distilled from a HID report descriptor, and the decoder over it.

The descriptor is a stream of items: global and local ones accumulate in a parse state until a main
item uses them, and an Input main item assigns its fields to the layout.  Words are naturals with
their width written out (`% 2^32`, `% 2^16`, `% 2^8`), and every read, shift and signed operation is
one that fails where C++ leaves it undefined.  The loops count their turns.
-/
import Dish.Core.UsbModels
import Dish.Lib.Checked

namespace Dish

open Machine

/-! ### XUSB button bits -/

def kXusbDpadUp : UInt16 := 0x0001
def kXusbDpadDown : UInt16 := 0x0002
def kXusbDpadLeft : UInt16 := 0x0004
def kXusbDpadRight : UInt16 := 0x0008
def kXusbStart : UInt16 := 0x0010
def kXusbBack : UInt16 := 0x0020
def kXusbLeftThumb : UInt16 := 0x0040
def kXusbRightThumb : UInt16 := 0x0080
def kXusbLeftShoulder : UInt16 := 0x0100
def kXusbRightShoulder : UInt16 := 0x0200
def kXusbGuide : UInt16 := 0x0400
def kXusbA : UInt16 := 0x1000
def kXusbB : UInt16 := 0x2000
def kXusbX : UInt16 := 0x4000
def kXusbY : UInt16 := 0x8000

/-! ### The layout -/

structure HidAxis where
  present : Bool := false
  bitOffset : Nat := 0
  bitSize : Nat := 0
  logicalMin : Int := 0
  logicalMax : Int := 0
  deriving DecidableEq, Repr

structure HidLayout where
  valid : Bool := false
  /-- 0 when the device sends no report-id byte. -/
  reportId : UInt8 := 0
  lx : HidAxis := {}
  ly : HidAxis := {}
  rx : HidAxis := {}
  ry : HidAxis := {}
  lt : HidAxis := {}
  rt : HidAxis := {}
  hasHat : Bool := false
  hatBitOffset : Nat := 0
  hatBitSize : Nat := 0
  hatLogicalMin : Int := 0
  hatLogicalMax : Int := 0
  buttonBitOffset : Nat := 0
  buttonCount : Nat := 0
  order : ButtonOrder := .western
  deriving DecidableEq, Repr

def kMaxUsages : Nat := 16
def kMaxButtons : Nat := 16

def signExtend (v bytes : Nat) : Checked Int :=
  if bytes = 0 ∨ 4 ≤ bytes then .ok (toSignedWord 32 v)
  else do
    let bits := bytes * 8
    let signBit ← shiftLeft 32 1 (bits - 1)
    if v &&& signBit ≠ 0 then
      let past ← shiftLeft 32 1 bits
      .ok (toSignedWord 32 (v ||| complement 32 (past - 1)))
    else .ok (toSignedWord 32 v)

/-- The loop of `extractBits`, with the turns left. -/
def extractFrom (d : List UInt8) (bitOff : Nat) : Nat → Nat → Nat → Checked Nat
  | 0, _, v => .ok v
  | left + 1, i, v =>
    let bi := (bitOff + i) % 2 ^ 32
    if d.length ≤ bi / 8 then .ok v
    else do
      let byte ← readAt d (bi / 8)
      let shifted ← shiftRight 32 byte.toNat (bi % 8)
      if shifted % 2 ≠ 0 then
        let bit ← shiftLeft 32 1 i
        extractFrom d bitOff left (i + 1) (v ||| bit)
      else extractFrom d bitOff left (i + 1) v

def extractBits (d : List UInt8) (bitOff bits : Nat) : Checked Nat :=
  extractFrom d bitOff (min bits 32) 0 0

def toSigned (raw bits : Nat) (logicalMin : Int) : Checked Int :=
  if logicalMin < 0 ∧ 0 < bits ∧ bits < 32 then do
    let signBit ← shiftLeft 32 1 (bits - 1)
    if raw &&& signBit ≠ 0 then
      let past ← shiftLeft 32 1 bits
      .ok (toSignedWord 32 (raw ||| complement 32 (past - 1)))
    else .ok (toSignedWord 32 raw)
  else .ok (toSignedWord 32 raw)

/-- The differences of the bounds are taken in 64 bits; a quotient is cut toward zero. -/
def scaleAxis16 (raw : Nat) (a : HidAxis) (invert : Bool) : Checked Int := do
  let v ← toSigned raw a.bitSize a.logicalMin
  let sum ← signed 64 (a.logicalMin + a.logicalMax)
  let center := sum.tdiv 2
  let span ← signed 64 (a.logicalMax - a.logicalMin)
  let half := span.tdiv 2
  if half ≤ 0 then .ok 0
  else
    let fromCenter ← signed 64 (v - center)
    let product ← signed 64 (fromCenter * 32767)
    let quotient ← signed 64 (product.tdiv half)
    let scaled ← if invert then signed 64 (-quotient) else .ok quotient
    let scaled := if scaled > 32767 then 32767 else scaled
    .ok (if scaled < -32768 then -32768 else scaled)

def scaleTrig8 (raw : Nat) (a : HidAxis) : Checked Nat := do
  let v ← toSigned raw a.bitSize a.logicalMin
  let span ← signed 64 (a.logicalMax - a.logicalMin)
  if span ≤ 0 then .ok 0
  else
    let fromLow ← signed 64 (v - a.logicalMin)
    let product ← signed 64 (fromLow * 255)
    let scaled ← signed 64 (product.tdiv span)
    let scaled := if scaled < 0 then 0 else scaled
    .ok (if scaled > 255 then 255 else scaled).toNat

/-- A three-state axis is a direction pad declared as an axis. -/
def axisIsDirection (a : HidAxis) : Checked Bool :=
  if a.present then do
    let span ← signed 64 (a.logicalMax - a.logicalMin)
    .ok (span == 2)
  else .ok false

def directionBits (raw : Nat) (a : HidAxis) (lowBit highBit : UInt16) : Checked UInt16 := do
  let v ← toSigned raw a.bitSize a.logicalMin
  let step ← signed 64 (v - a.logicalMin)
  .ok (if step = 0 then lowBit else if step = 2 then highBit else 0)

/-! ### Button orders -/

/-- One wire bit per declared button, and the buttons that drive a trigger.  The array is filled up
to its sixteen places with zeroes. -/
structure ButtonOrderMap where
  bits : List UInt16
  leftTriggerIndex : Option Nat := none
  rightTriggerIndex : Option Nat := none
  deriving DecidableEq, Repr

def kWesternOrder : ButtonOrderMap where
  bits := [kXusbA, kXusbB, kXusbX, kXusbY, kXusbLeftShoulder, kXusbRightShoulder, kXusbBack,
    kXusbStart, kXusbLeftThumb, kXusbRightThumb, kXusbGuide, 0, 0, 0, 0, 0]

def kSwitchOrder : ButtonOrderMap where
  bits := [kXusbX, kXusbA, kXusbB, kXusbY, kXusbLeftShoulder, kXusbRightShoulder, 0, 0, kXusbBack,
    kXusbStart, kXusbLeftThumb, kXusbRightThumb, kXusbGuide, 0, 0, 0]
  leftTriggerIndex := some 6
  rightTriggerIndex := some 7

def kEightBitDoOrder : ButtonOrderMap where
  bits := [kXusbA, kXusbB, kXusbGuide, kXusbX, kXusbY, 0, kXusbLeftShoulder, kXusbRightShoulder, 0,
    0, kXusbBack, kXusbStart, kXusbGuide, kXusbLeftThumb, kXusbRightThumb, 0]
  leftTriggerIndex := some 8
  rightTriggerIndex := some 9

def kPlayStationClassicOrder : ButtonOrderMap where
  bits := [kXusbY, kXusbB, kXusbA, kXusbX, 0, 0, kXusbLeftShoulder, kXusbRightShoulder, kXusbBack,
    kXusbStart, 0, 0, 0, 0, 0, 0]
  leftTriggerIndex := some 4
  rightTriggerIndex := some 5

def buttonOrderMap : ButtonOrder → ButtonOrderMap
  | .switch => kSwitchOrder
  | .eightBitDo => kEightBitDoOrder
  | .playStationClassic => kPlayStationClassicOrder
  | .western => kWesternOrder

def dpadBitsForDir (dir : Int) : UInt16 :=
  match dir with
  | 0 => kXusbDpadUp
  | 1 => kXusbDpadUp ||| kXusbDpadRight
  | 2 => kXusbDpadRight
  | 3 => kXusbDpadDown ||| kXusbDpadRight
  | 4 => kXusbDpadDown
  | 5 => kXusbDpadDown ||| kXusbDpadLeft
  | 6 => kXusbDpadLeft
  | 7 => kXusbDpadUp ||| kXusbDpadLeft
  | _ => 0

/-! ### Assigning fields -/

/-- The first declaration of an axis wins. -/
def setAxis (a : HidAxis) (bit size : Nat) (lo hi : Int) : HidAxis :=
  if a.present then a
  else
    { present := true
      bitOffset := bit % 2 ^ 16
      bitSize := size % 2 ^ 8
      logicalMin := lo
      logicalMax := hi }

/-- The right stick is Z/Rz and the triggers are Rx/Ry; Brake and Accelerator also feed triggers. -/
def assignUsage (out : HidLayout) (page usage bit size : Nat) (lo hi : Int) : HidLayout :=
  if page = 0x01 then
    match usage with
    | 0x30 => { out with lx := setAxis out.lx bit size lo hi }
    | 0x31 => { out with ly := setAxis out.ly bit size lo hi }
    | 0x32 => { out with rx := setAxis out.rx bit size lo hi }
    | 0x35 => { out with ry := setAxis out.ry bit size lo hi }
    | 0x33 => { out with lt := setAxis out.lt bit size lo hi }
    | 0x34 => { out with rt := setAxis out.rt bit size lo hi }
    | 0x39 =>
      if out.hasHat then out
      else
        { out with
          hasHat := true
          hatBitOffset := bit % 2 ^ 16
          hatBitSize := size % 2 ^ 8
          hatLogicalMin := lo
          hatLogicalMax := hi }
    | _ => out
  else if page = 0x02 then
    if usage = 0xC5 then { out with lt := setAxis out.lt bit size lo hi }
    else if usage = 0xC4 then { out with rt := setAxis out.rt bit size lo hi }
    else out
  else out

/-! ### Items -/

structure HidItem where
  type : Nat := 0
  tag : Nat := 0
  dataLen : Nat := 0
  data : Nat := 0
  /-- A long item, which is stepped over. -/
  skip : Bool := false
  /-- The stream ended inside the item. -/
  truncated : Bool := false
  deriving DecidableEq, Repr

structure HidParseState where
  usagePage : Nat := 0
  reportSize : Nat := 0
  reportCount : Nat := 0
  logMin : Int := 0
  logMax : Int := 0
  currentReportId : UInt8 := 0
  bitCursor : Nat := 0
  locked : Bool := false
  lockedReportId : UInt8 := 0
  usages : List Nat := List.replicate kMaxUsages 0
  usageCount : Nat := 0
  usageMin : Nat := 0
  haveRange : Bool := false
  deriving DecidableEq, Repr

/-- A payload length, a tag and the payload: stepped over whole. -/
def readLongItem (desc : List UInt8) (i : Nat) : Checked (HidItem × Nat) :=
  if desc.length ≤ i then .ok ({ truncated := true }, i)
  else do
    let payload ← readAt desc i
    .ok ({ skip := true }, i + (2 + payload.toNat))

/-- The loop that gathers an item's data bytes, with the turns left. -/
def readData (desc : List UInt8) (i : Nat) : Nat → Nat → Nat → Checked Nat
  | 0, _, data => .ok data
  | left + 1, k, data => do
      let byte ← readAt desc (i + k)
      let part ← shiftLeft 32 byte.toNat (8 * k)
      readData desc i left (k + 1) (data ||| part)

/-- A size code of 3 means four bytes. -/
def dataLenOf (bSize : Nat) : Nat := if bSize = 3 then 4 else bSize

def readShortItem (desc : List UInt8) (pre : UInt8) (i : Nat) : Checked (HidItem × Nat) :=
  let dataLen := dataLenOf (pre.toNat % 4)
  let type := pre.toNat / 4 % 4
  let tag := pre.toNat / 16 % 16
  if i + dataLen > desc.length then
    .ok ({ type := type, tag := tag, dataLen := dataLen, truncated := true }, i)
  else do
    let data ← readData desc i dataLen 0 0
    .ok ({ type := type, tag := tag, dataLen := dataLen, data := data }, i + dataLen)

def readHidItem (desc : List UInt8) (i : Nat) : Checked (HidItem × Nat) := do
  let pre ← readAt desc i
  if pre = 0xFE then readLongItem desc (i + 1) else readShortItem desc pre (i + 1)

/-- A report id resets the bit cursor.  The maximum is read signed only when the minimum before it is
negative. -/
def applyGlobalItem (item : HidItem) (st : HidParseState) : Checked HidParseState :=
  match item.tag with
  | 0x0 => .ok { st with usagePage := item.data }
  | 0x1 => do
      let logMin ← signExtend item.data item.dataLen
      .ok { st with logMin := logMin }
  | 0x2 =>
    if st.logMin < 0 then do
      let logMax ← signExtend item.data item.dataLen
      .ok { st with logMax := logMax }
    else .ok { st with logMax := toSignedWord 32 item.data }
  | 0x7 => .ok { st with reportSize := item.data }
  | 0x8 => .ok { st with currentReportId := item.data.toUInt8, bitCursor := 0 }
  | 0x9 => .ok { st with reportCount := item.data }
  | _ => .ok st

/-- A usage minimum implies the range; a maximum only confirms it. -/
def applyLocalItem (item : HidItem) (st : HidParseState) : Checked HidParseState :=
  match item.tag with
  | 0x0 =>
    if st.usageCount < kMaxUsages then do
      let usages ← writeAt st.usages st.usageCount item.data
      .ok { st with usages := usages, usageCount := st.usageCount + 1 }
    else .ok st
  | 0x1 => .ok { st with usageMin := item.data, haveRange := true }
  | 0x2 => .ok { st with haveRange := true }
  | _ => .ok st

/-- The first button field wins. -/
def takeButtonField (st : HidParseState) (startBit : Nat) (out : HidLayout) : HidLayout :=
  if out.buttonCount ≠ 0 then out
  else
    let cnt := if st.reportCount > kMaxButtons then kMaxButtons else st.reportCount
    { out with buttonBitOffset := startBit % 2 ^ 16, buttonCount := cnt % 2 ^ 8 }

/-- The usage of the `f`-th field: counted up from the minimum, or from the list, whose last entry
repeats.  None when there is neither, which ends the loop. -/
def fieldUsage (st : HidParseState) (f : Nat) : Checked (Option Nat) :=
  if st.haveRange then .ok (some ((st.usageMin + f) % 2 ^ 32))
  else if st.usageCount = 0 then .ok none
  else do
    let usage ← readAt st.usages (if f < st.usageCount then f else st.usageCount - 1)
    .ok (some usage)

/-- The loop of `takeAxisFields`, with the fields left; returns the turns taken too. -/
def takeAxisFrom (st : HidParseState) (startBit : Nat) :
    Nat → Nat → HidLayout → Checked (HidLayout × Nat)
  | 0, _, out => .ok (out, 0)
  | left + 1, f, out => do
      match ← fieldUsage st f with
      | none => .ok (out, 1)
      | some usage =>
        let bit := (startBit + f * st.reportSize) % 2 ^ 32
        let (out, turns) ← takeAxisFrom st startBit left (f + 1)
          (assignUsage out st.usagePage usage bit st.reportSize st.logMin st.logMax)
        .ok (out, turns + 1)

def takeAxisFields (st : HidParseState) (startBit : Nat) (out : HidLayout) :
    Checked (HidLayout × Nat) :=
  takeAxisFrom st startBit st.reportCount 0 out

/-- Padding moves the cursor and carries no field.  The first report that carries fields locks the
layout.  Returns the turns of the field loop too. -/
def applyInputItem (item : HidItem) (st : HidParseState) (out : HidLayout) :
    Checked (HidParseState × HidLayout × Nat) :=
  let startBit := st.bitCursor
  let st := { st with bitCursor := (st.bitCursor + st.reportSize * st.reportCount) % 2 ^ 32 }
  let isConstantPadding := item.data % 2 ≠ 0
  let carriesFields := st.reportSize > 0 ∧ st.reportCount > 0
  if isConstantPadding ∨ ¬ carriesFields then .ok (st, out, 0)
  else
    let (st, out) :=
      if st.locked then (st, out)
      else
        ({ st with locked := true, lockedReportId := st.currentReportId },
          { out with reportId := st.currentReportId })
    if st.currentReportId ≠ st.lockedReportId then .ok (st, out, 0)
    else if st.usagePage = 0x09 then .ok (st, takeButtonField st startBit out, 0)
    else if st.usagePage = 0x01 ∨ st.usagePage = 0x02 then do
      let (out, turns) ← takeAxisFields st startBit out
      .ok (st, out, turns)
    else .ok (st, out, 0)

def clearLocalItems (st : HidParseState) : HidParseState :=
  { st with usageCount := 0, haveRange := false, usageMin := 0 }

/-- A main item uses what has accumulated and clears the local items. -/
def applyItem (item : HidItem) (st : HidParseState) (out : HidLayout) :
    Checked (HidParseState × HidLayout × Nat) :=
  if item.type = 0 then do
    let (st, out, turns) ←
      if item.tag = 0x8 then applyInputItem item st out else .ok (st, out, 0)
    .ok (clearLocalItems st, out, turns)
  else if item.type = 1 then do
    let st ← applyGlobalItem item st
    .ok (st, out, 0)
  else if item.type = 2 then do
    let st ← applyLocalItem item st
    .ok (st, out, 0)
  else .ok (st, out, 0)

theorem readHidItem_lt {desc : List UInt8} {i next : Nat} {item : HidItem}
    (read : readHidItem desc i = .ok (item, next)) : i < next := by
  simp only [readHidItem, readLongItem, readShortItem, bind, Except.bind] at read
  repeat' split at read
  all_goals first
    | cases read; omega
    | cases read

/-- The loop over the items, with the turns taken so far: its own, those of the item's data bytes
and those of the fields. -/
def parseFrom (desc : List UInt8) (i : Nat) (st : HidParseState) (out : HidLayout) (turns : Nat) :
    Checked (HidLayout × Nat) :=
  if i < desc.length then
    match _read : readHidItem desc i with
    | .error e => .error e
    | .ok (item, next) =>
      if item.truncated then .ok (out, turns + 1)
      else if item.skip then parseFrom desc next st out (turns + 1)
      else
        match applyItem item st out with
        | .error e => .error e
        | .ok (st, out, fields) =>
          parseFrom desc next st out (turns + 1 + item.dataLen + fields)
  else .ok (out, turns)
termination_by desc.length - i
decreasing_by
  all_goals
    have := readHidItem_lt _read
    omega

/-- The layout, whose `valid` is what the source returns, and the turns its loops took. -/
def parseReportDescriptor (desc : List UInt8) : Checked (HidLayout × Nat) := do
  let (out, turns) ← parseFrom desc 0 {} {} 0
  .ok ({ out with
    valid := out.lx.present || out.ly.present || decide (out.buttonCount > 0) || out.hasHat }, turns)

/-! ### Decoding a report -/

/-- What the decoder writes. -/
structure ParsedReport where
  wButtons : UInt16 := 0
  lt : Nat := 0
  rt : Nat := 0
  lx : Int := 0
  ly : Int := 0
  rx : Int := 0
  ry : Int := 0
  deriving DecidableEq, Repr

/-- The left stick's axes: a three-state one turns into the two bits, any other is scaled. -/
def decodeLeftAxis (d : List UInt8) (a : HidAxis) (lowBit highBit : UInt16) (invert : Bool)
    (b : UInt16) (before : Int) : Checked (UInt16 × Int) := do
  if ← axisIsDirection a then
    let raw ← extractBits d a.bitOffset a.bitSize
    let bits ← directionBits raw a lowBit highBit
    .ok (b ||| bits, before)
  else if a.present then
    let raw ← extractBits d a.bitOffset a.bitSize
    let scaled ← scaleAxis16 raw a invert
    .ok (b, scaled)
  else .ok (b, before)

def decodeRightAxis (d : List UInt8) (a : HidAxis) (invert : Bool) (before : Int) : Checked Int :=
  if a.present then do
    let raw ← extractBits d a.bitOffset a.bitSize
    scaleAxis16 raw a invert
  else .ok before

def decodeTrigger (d : List UInt8) (a : HidAxis) (before : Nat) : Checked Nat :=
  if a.present then do
    let raw ← extractBits d a.bitOffset a.bitSize
    scaleTrig8 raw a
  else .ok before

/-- The differences of the hat's bounds are taken in `int`. -/
def decodeHat (d : List UInt8) (L : HidLayout) (b : UInt16) : Checked UInt16 :=
  if L.hasHat then do
    let raw ← extractBits d L.hatBitOffset L.hatBitSize
    let dir ← signed 32 (toSignedWord 32 raw - L.hatLogicalMin)
    let range ← signed 32 (L.hatLogicalMax - L.hatLogicalMin)
    .ok (if dir ≥ 0 ∧ dir ≤ range ∧ dir ≤ 7 then b ||| dpadBitsForDir dir else b)
  else .ok b

/-- The loop over the buttons, with those left. -/
def decodeButtonsFrom (d : List UInt8) (buttonBitOffset : Nat) (order : ButtonOrderMap) :
    Nat → Nat → UInt16 → Bool → Bool → Checked (UInt16 × Bool × Bool)
  | 0, _, b, left, right => .ok (b, left, right)
  | more + 1, i, b, left, right => do
      let bit ← extractBits d ((buttonBitOffset + i) % 2 ^ 32) 1
      if bit = 0 then decodeButtonsFrom d buttonBitOffset order more (i + 1) b left right
      else if order.leftTriggerIndex = some i then
        decodeButtonsFrom d buttonBitOffset order more (i + 1) b true right
      else if order.rightTriggerIndex = some i then
        decodeButtonsFrom d buttonBitOffset order more (i + 1) b left true
      else
        let bits ← readAt order.bits i
        decodeButtonsFrom d buttonBitOffset order more (i + 1) (b ||| bits) left right

/-- The payload of a report the layout is about: what follows the id byte, if there is one. -/
def payloadOf (L : HidLayout) (buf : List UInt8) : Checked (Option (List UInt8)) :=
  if L.reportId ≠ 0 then
    if buf.length < 1 then .ok none
    else do
      let id ← readAt buf 0
      .ok (if id ≠ L.reportId then none else some (buf.drop 1))
  else .ok (some buf)

/-- Whether the report was decoded, and the state. -/
def decodeFromLayout (buf : List UInt8) (s : ParsedReport) (L : HidLayout) :
    Checked (Bool × ParsedReport) :=
  if L.valid then do
    match ← payloadOf L buf with
    | none => .ok (false, s)
    | some d =>
      let (b, lx) ← decodeLeftAxis d L.lx kXusbDpadLeft kXusbDpadRight false 0 s.lx
      let (b, ly) ← decodeLeftAxis d L.ly kXusbDpadUp kXusbDpadDown true b s.ly
      let rx ← decodeRightAxis d L.rx false s.rx
      let ry ← decodeRightAxis d L.ry true s.ry
      let lt ← decodeTrigger d L.lt s.lt
      let rt ← decodeTrigger d L.rt s.rt
      let b ← decodeHat d L b
      let order := buttonOrderMap L.order
      let (b, left, right) ←
        decodeButtonsFrom d L.buttonBitOffset order L.buttonCount 0 b false false
      -- A digital trigger is the whole truth about that trigger.
      let (lt, rt) :=
        if order.leftTriggerIndex ≠ none then
          (if left then 255 else 0, if right then 255 else 0)
        else (lt, rt)
      .ok (true,
        { wButtons := b, lt := lt, rt := rt, lx := lx, ly := ly, rx := rx, ry := ry })
  else .ok (false, s)

end Dish
