/-
The OUT reports disturb nothing they were not asked to change.

One step lemma for each request says what a pad of the family does with the report it gets; the run
statement says that after any requests every actuator holds what its own last accepted request asked
for.  The one place where requests meet is the mute lamp, which every DualSense report carries once
it was driven: that it is carried as the pad already has it is an invariant of the run.
-/
import Mathlib.Data.List.Induction
import Dish.Usb.PadFirmware
import Dish.Lib.Run

namespace Dish

open Steps Buffer

variable {α : Type}

/-! ### What is accepted -/

/-- The length of a family's report. -/
def reportBytes : HidParser → Nat
  | .dualShock4 => 32
  | _ => 63

namespace FeedbackCall

/-- The call is for that family and its buffer takes a report. -/
def fits (family : HidParser) (call : FeedbackCall) : Bool :=
  call.family == family && reportBytes family ≤ call.outCap

theorem fits_iff {family : HidParser} {call : FeedbackCall} :
    call.fits family = true ↔ call.family = family ∧ reportBytes family ≤ call.outCap := by
  simp [fits]

/-- The motor bytes an accepted rumble asks for. -/
def motors (family : HidParser) (call : FeedbackCall) : Option (UInt8 × UInt8) :=
  match call.request with
  | .rumble strong weak _ => if call.fits family then some (hi8 weak, hi8 strong) else none
  | _ => none

def colour (family : HidParser) (call : FeedbackCall) : Option (UInt8 × UInt8 × UInt8) :=
  match call.request with
  | .lightbar r g b => if call.fits family then some (r, g, b) else none
  | _ => none

/-- The five lights of the DualSense. -/
def leds (call : FeedbackCall) : Option UInt8 :=
  match call.request with
  | .playerLeds ledMask _ => if call.fits .dualSense then some (ledMask &&& 0x1F) else none
  | _ => none

def leftTrigger (call : FeedbackCall) : Option TriggerBlock :=
  match call.request with
  | .triggerEffects left _ => if call.fits .dualSense then some left else none
  | _ => none

def rightTrigger (call : FeedbackCall) : Option TriggerBlock :=
  match call.request with
  | .triggerEffects _ right => if call.fits .dualSense then some right else none
  | _ => none

/-- Only the three lamp states are accepted. -/
def lamp (call : FeedbackCall) : Option UInt8 :=
  match call.request with
  | .micMuteLed state =>
    if call.fits .dualSense ∧ state ≤ kMicMuteLedPulse then some state else none
  | _ => none

end FeedbackCall

variable {st : FeedbackState} {pad : DualSensePad} {cap : Nat}

/-- What the last of the calls that asks for anything asks for. -/
def lastOf {α : Type} (asks : FeedbackCall → Option α) (before : α) (calls : List FeedbackCall) : α :=
  calls.foldl (fun a call => (asks call).getD a) before

section
variable (asks : FeedbackCall → Option α) (before : α)

@[simp] theorem lastOf_nil :
    lastOf asks before [] = before := rfl

@[simp] theorem lastOf_concat
    (calls : List FeedbackCall) (call : FeedbackCall) :
    lastOf asks before (calls ++ [call]) = (asks call).getD (lastOf asks before calls) := by
  simp [lastOf]

end

/-- The power-save byte that goes with a lamp state. -/
def powerSaveOf (lamp : UInt8) : UInt8 := if lamp = kMicMuteLedOff then 0x00 else 0x10

/-! ### The buffer -/

theorem Buffer.set_apply (out : Buffer) (i j : Nat) (v : UInt8) :
    out.set i v j = if j = i then v else out j := rfl

theorem Buffer.zero_apply (out : Buffer) (n j : Nat) :
    out.zero n j = if j < n then 0 else out j := rfl

theorem reassert_apply (st : FeedbackState) (out : Buffer) (j : Nat) :
    reassertDs5MicMuteLed st out j =
      if st.ds5MicMuteLedSet then
        if j = 10 then powerSaveOf st.ds5MicMuteLed
        else if j = 9 then st.ds5MicMuteLed
        else if j = 2 then out 2 ||| 0x03
        else out j
      else out j := by
  unfold reassertDs5MicMuteLed
  split
  · rfl
  · rfl

/-! ### One report -/

/-- The pad has the lamp as the writer remembers it. -/
def LampHeld (st : FeedbackState) (pad : DualSensePad) : Prop :=
  st.ds5MicMuteLedSet → pad.micLed = st.ds5MicMuteLed ∧ pad.powerSave = powerSaveOf st.ds5MicMuteLed

section
variable (held : LampHeld st pad)
include held

/-- **The lamp rides along unseen**: a report for something else does the same with the lamp stamped
onto it as without. -/
theorem receive_reassert {out : Buffer} (flags : out 2 = 0 ∨ out 2 = 0x04 ∨ out 2 = 0x10) :
    pad.receive 63 (reassertDs5MicMuteLed st out) = pad.receive 63 out := by
  cases set : st.ds5MicMuteLedSet with
  | false => simp [reassertDs5MicMuteLed, set]
  | true =>
    obtain ⟨lamp, save⟩ := held set
    have trigger : ∀ i : Fin kTriggerEffectBlockBytes,
        (11 + i.val ≠ 10 ∧ 11 + i.val ≠ 9 ∧ 11 + i.val ≠ 2) ∧
          22 + i.val ≠ 10 ∧ 22 + i.val ≠ 9 ∧ 22 + i.val ≠ 2 := by
      intro i
      omega
    unfold DualSensePad.receive
    rcases flags with h | h | h <;> simp +decide [reassert_apply, set, h, lamp, save, trigger]

theorem ds5_rumble (strong weak : UInt16) (seq : UInt8) (out : Buffer) (room : ¬ cap < 63) :
    pad.receive (buildRumbleReport .dualSense st strong weak seq out cap).1
        (buildRumbleReport .dualSense st strong weak seq out cap).2 =
      { pad with motors := (hi8 weak, hi8 strong) } := by
  simp only [buildRumbleReport, room, if_false]
  rw [receive_reassert held (.inl rfl)]
  simp +decide [DualSensePad.receive, set_apply, zero_apply]

theorem ds5_lightbar (r g b : UInt8) (out : Buffer) (room : ¬ cap < 63) :
    pad.receive (buildLightbarReport .dualSense st r g b out cap).2.1
        (buildLightbarReport .dualSense st r g b out cap).2.2 =
      { pad with
        colour := (r, g, b)
        lightbarSetups :=
          pad.lightbarSetups ++ if st.ds5LightbarSetupSent then [] else [0x02] } := by
  have heldSent : LampHeld { st with ds5LightbarSetupSent := true } pad := held
  simp only [buildLightbarReport, room, if_false]
  cases sent : st.ds5LightbarSetupSent with
  | true | false =>
    rw [receive_reassert heldSent (.inr (.inl (by simp [lightbarHandoff, sent, set_apply])))]
    simp +decide [DualSensePad.receive, lightbarHandoff, sent, set_apply, zero_apply]

theorem ds5_playerLeds (ledMask seq : UInt8) (out : Buffer) (room : ¬ cap < 63) :
    pad.receive (buildPlayerLedsReport .dualSense st ledMask seq out cap).1
        (buildPlayerLedsReport .dualSense st ledMask seq out cap).2 =
      { pad with leds := ledMask &&& 0x1F } := by
  simp only [buildPlayerLedsReport, room, if_false]
  rw [receive_reassert held (.inr (.inr rfl))]
  simp +decide [DualSensePad.receive, set_apply, zero_apply]

end

section
variable (out : Buffer) (base : Nat) (block : TriggerBlock)

theorem Buffer.copy_at
    (i : Fin kTriggerEffectBlockBytes) : out.copy base block (base + i) = block i := by
  have inside : base ≤ base + i.val ∧ base + i.val < base + kTriggerEffectBlockBytes := by omega
  simp [copy, inside]

theorem Buffer.copy_outside {j : Nat}
    (outside : j < base ∨ base + kTriggerEffectBlockBytes ≤ j) : out.copy base block j = out j := by
  have : ¬ (base ≤ j ∧ j < base + kTriggerEffectBlockBytes) := by omega
  simp [copy, this]

end

theorem ds5_triggerEffects (held : LampHeld st pad) (left right : TriggerBlock) (out : Buffer)
    (room : ¬ cap < 63) :
    pad.receive (buildTriggerEffectsReport .dualSense st left right out cap).1
        (buildTriggerEffectsReport .dualSense st left right out cap).2 =
      { pad with left := left, right := right } := by
  simp only [buildTriggerEffectsReport, room, if_false, ne_eq, not_true_eq_false]
  set zeroed := (((out.zero 63).set 0 0x02).set 1 (0x04 ||| 0x08)) with zeroed_def
  set filled := (zeroed.copy 11 right).copy 22 left with filled_def
  have elsewhere : ∀ j, j < 11 ∨ 33 ≤ j → filled j = zeroed j := by
    intro j far
    rw [filled_def, copy_outside _ _ _ (by simp [kTriggerEffectBlockBytes]; omega),
      copy_outside _ _ _ (by simp [kTriggerEffectBlockBytes]; omega)]
  have rightBlock : ∀ i : Fin kTriggerEffectBlockBytes, filled (11 + i) = right i := by
    intro i
    rw [filled_def, copy_outside _ _ _ (by simp only [kTriggerEffectBlockBytes] at *; omega),
      copy_at]
  have leftBlock : ∀ i : Fin kTriggerEffectBlockBytes, filled (22 + i) = left i := by
    intro i
    exact copy_at _ _ _ i
  have zeroedAt : ∀ j, zeroed j = if j = 1 then 0x0C else if j = 0 then 0x02
      else if j < 63 then 0 else out j := by
    intro j
    rfl
  rw [receive_reassert held (.inl (by rw [elsewhere 2 (by omega), zeroedAt]; rfl))]
  simp +decide [DualSensePad.receive, elsewhere, rightBlock, leftBlock, zeroedAt]

theorem ds5_micMuteLed (pad : DualSensePad) {state : UInt8} (known : ¬ state > kMicMuteLedPulse)
    (out : Buffer) (room : ¬ cap < 63) :
    pad.receive (buildMicMuteLedReport .dualSense st state out cap).2.1
        (buildMicMuteLedReport .dualSense st state out cap).2.2 =
      { pad with micLed := state, powerSave := powerSaveOf state } := by
  simp only [buildMicMuteLedReport, room, known, if_false, ne_eq, not_true_eq_false]
  simp +decide [DualSensePad.receive, reassert_apply, set_apply, zero_apply]

theorem ds4_rumble (st : FeedbackState) (pad : Ds4Pad) (strong weak : UInt16) (seq : UInt8)
    (out : Buffer) (room : ¬ cap < 32) :
    pad.receive (buildRumbleReport .dualShock4 st strong weak seq out cap).1
        (buildRumbleReport .dualShock4 st strong weak seq out cap).2 =
      { pad with motors := (hi8 weak, hi8 strong) } := by
  simp only [buildRumbleReport, room, if_false]
  simp +decide [Ds4Pad.receive, set_apply]

theorem ds4_lightbar (st : FeedbackState) (pad : Ds4Pad) (r g b : UInt8) (out : Buffer)
    (room : ¬ cap < 32) :
    pad.receive (buildLightbarReport .dualShock4 st r g b out cap).2.1
        (buildLightbarReport .dualShock4 st r g b out cap).2.2 =
      { pad with colour := (r, g, b) } := by
  simp only [buildLightbarReport, room, if_false]
  simp +decide [Ds4Pad.receive, set_apply]

/-! ### Refusals and bounds -/

namespace FeedbackCall

/-- The length of the report the call gets when it is accepted, for the families and requests that
have one. -/
def bytes (call : FeedbackCall) : Option Nat :=
  match call.request, call.family with
  | .rumble .., .dualShock4 => some 32
  | .rumble .., .dualSense => some 63
  | .rumble .., .switchProUsb => some 10
  | .lightbar .., .dualShock4 => some 32
  | .lightbar .., .dualSense => some 63
  | .playerLeds .., .dualSense => some 63
  | .playerLeds .., .switchProUsb => some 12
  | .triggerEffects .., .dualSense => some 63
  | .micMuteLed state, .dualSense => if state ≤ kMicMuteLedPulse then some 63 else none
  | _, _ => none

/-- The family has the actuator, the lamp state is one of the three, and the buffer is large
enough. -/
def accepted (call : FeedbackCall) : Prop := ∃ n, call.bytes = some n ∧ n ≤ call.outCap

/-- **A refused call changes nothing**: no state, no byte, and no report to send. -/
theorem build_refused {call : FeedbackCall} (refused : ¬ call.accepted) (st : FeedbackState) :
    call.build st = (st, 0, call.out) := by
  obtain ⟨family, request, out, outCap⟩ := call
  cases request with
  | micMuteLed state =>
    cases family with
    | dualSense =>
      by_cases known : state ≤ kMicMuteLedPulse
      · simp [accepted, bytes, known] at refused
        simp [build, buildMicMuteLedReport, refused]
      · simp [build, buildMicMuteLedReport, UInt8.not_le.mp known]
    | dualShock4 | switchProUsb | steamController | genericHid | none => rfl
  | _ =>
    cases family <;>
      simp_all [accepted, bytes, build, buildRumbleReport, buildLightbarReport,
        buildPlayerLedsReport, buildTriggerEffectsReport]

end FeedbackCall

/-- The two memories agree from the `n`-th byte on. -/
def Buffer.SamePast (n : Nat) (written out : Buffer) : Prop := ∀ j, n ≤ j → written j = out j

namespace Buffer.SamePast

variable {n : Nat} {written out : Buffer}

theorem zero (out : Buffer) (n : Nat) : SamePast n (out.zero n) out := by
  intro j past
  simp [Buffer.zero, Nat.not_lt.mpr past]

section
variable (same : SamePast n written out)
include same

theorem set {i : Nat} (v : UInt8) (inside : i < n := by decide) : SamePast n (written.set i v) out := by
  intro j past
  have : j ≠ i := by omega
  simp [Buffer.set, this, same j past]

theorem copy {base : Nat} (block : TriggerBlock)
    (inside : base + kTriggerEffectBlockBytes ≤ n := by decide) :
    SamePast n (written.copy base block) out := by
  intro j past
  rw [copy_outside _ _ _ (.inr (by omega)), same j past]

theorem motor {base : Nat} (magnitude : UInt16)
    (inside : base + 3 < n := by decide) :
    SamePast n (switchEncodeMotor written base magnitude) out := by
  unfold switchEncodeMotor
  exact (((same.set _ (by omega)).set _ (by omega)).set _ (by omega)).set _ inside

theorem reassert (st : FeedbackState) (inside : 10 < n := by decide) :
    SamePast n (reassertDs5MicMuteLed st written) out := by
  unfold reassertDs5MicMuteLed
  split
  · exact ((same.set _ (by omega)).set _ (by omega)).set _ inside
  · exact same

theorem handoff (st : FeedbackState) (inside : 42 < n := by decide) :
    SamePast n (lightbarHandoff st written) out := by
  unfold lightbarHandoff
  split
  · exact same
  · exact (same.set _ (by omega)).set _ inside

end

end Buffer.SamePast

namespace FeedbackCall

/-- **No byte past the report is written.** -/
theorem build_accepted {call : FeedbackCall} {n : Nat} (bytes : call.bytes = some n)
    (room : n ≤ call.outCap) (st : FeedbackState) :
    (call.build st).2.1 = n ∧ Buffer.SamePast n (call.build st).2.2 call.out := by
  obtain ⟨family, request, out, outCap⟩ := call
  have zeroed := Buffer.SamePast.zero out n
  cases request with
  | rumble =>
    cases family <;> cases bytes
    all_goals
      simp only [build, buildRumbleReport, Nat.not_lt.mpr room, if_false]
      refine ⟨trivial, ?_⟩
    · exact (((zeroed.set _).set _).set _).set _
    · exact ((((zeroed.set _).set _).set _).set _).reassert _
    · exact (((zeroed.set _).set _).motor _).motor _
  | lightbar =>
    cases family <;> cases bytes
    all_goals
      simp only [build, buildLightbarReport, Nat.not_lt.mpr room, if_false]
      refine ⟨trivial, ?_⟩
    · exact ((((zeroed.set _).set _).set _).set _).set _
    · have flagged := (zeroed.set 0x02 (i := 0)).set 0x04 (i := 2)
      exact ((((flagged.handoff st).set _).set _).set _).reassert _
  | playerLeds ledMask seq =>
    cases family <;> cases bytes
    all_goals
      simp only [build, buildPlayerLedsReport, Nat.not_lt.mpr room, if_false]
      refine ⟨trivial, ?_⟩
    · exact (((zeroed.set _).set _).set _).reassert _
    · have headed := (zeroed.set 0x01 (i := 0)).set (seq &&& 0x0F) (i := 1)
      exact (((headed.motor _).motor _).set _).set _
  | triggerEffects =>
    cases family <;> cases bytes
    simp only [build, buildTriggerEffectsReport, Nat.not_lt.mpr room, if_false, ne_eq,
      not_true_eq_false]
    exact ⟨trivial, ((((zeroed.set _).set _).copy _).copy _).reassert _⟩
  | micMuteLed =>
    cases family <;> simp only [FeedbackCall.bytes, reduceCtorEq] at bytes
    split at bytes
    · next known =>
        cases bytes
        simp only [build, buildMicMuteLedReport, Nat.not_lt.mpr room, if_false, ne_eq,
          not_true_eq_false, gt_iff_lt, UInt8.not_lt.mpr known]
        exact ⟨trivial, (zeroed.set _).reassert _⟩
    · cases bytes

end FeedbackCall

variable {calls : List FeedbackCall} (s : FeedbackRun) (call : FeedbackCall)

/-! ### A run of requests -/

/-- The requests have been heard: every actuator holds what its own last accepted request asked for,
and the shared state remembers the lamp and whether the lightbar was set up. -/
structure Heard (first : FeedbackRun) (calls : List FeedbackCall) (s : FeedbackRun) : Prop where
  ds4 : s.ds4 =
    { motors := lastOf (FeedbackCall.motors .dualShock4) first.ds4.motors calls
      colour := lastOf (FeedbackCall.colour .dualShock4) first.ds4.colour calls
      otherWrites := first.ds4.otherWrites }
  dualSense : s.dualSense =
    { motors := lastOf (FeedbackCall.motors .dualSense) first.dualSense.motors calls
      colour := lastOf (FeedbackCall.colour .dualSense) first.dualSense.colour calls
      leds := lastOf FeedbackCall.leds first.dualSense.leds calls
      right := lastOf FeedbackCall.rightTrigger first.dualSense.right calls
      left := lastOf FeedbackCall.leftTrigger first.dualSense.left calls
      micLed := lastOf FeedbackCall.lamp first.dualSense.micLed calls
      powerSave := lastOf (fun call => call.lamp.map powerSaveOf) first.dualSense.powerSave calls
      lightbarSetups := first.dualSense.lightbarSetups ++
        if calls.any fun call => (call.colour .dualSense).isSome then [0x02] else []
      otherWrites := first.dualSense.otherWrites }
  st : s.st =
    { ds5LightbarSetupSent := calls.any fun call => (call.colour .dualSense).isSome
      ds5MicMuteLed := lastOf FeedbackCall.lamp kMicMuteLedOff calls
      ds5MicMuteLedSet := calls.any fun call => call.lamp.isSome }

open FeedbackCall

theorem lastOf_of_any {asks : FeedbackCall → Option α}
    (some : calls.any fun call => (asks call).isSome) (before other : α) :
    lastOf asks before calls = lastOf asks other calls := by
  induction calls using List.reverseRecOn with
  | nil => simp at some
  | append_singleton calls call ih =>
    cases now : asks call with
    | none =>
      simp only [List.any_append, List.any_cons, now, List.any_nil, Option.isSome_none,
        Bool.or_false] at some
      simp [now, ih some]
    | some a => simp [now]

theorem lastOf_map {β : Type} (f : α → β) (asks : FeedbackCall → Option α) (before : α)
    (calls : List FeedbackCall) :
    lastOf (fun call => (asks call).map f) (f before) calls = f (lastOf asks before calls) := by
  induction calls using List.reverseRecOn with
  | nil => rfl
  | append_singleton calls call ih => cases now : asks call <;> simp [now, ih]

theorem Heard.lampHeld {first s : FeedbackRun} (heard : Heard first calls s) :
    LampHeld s.st s.dualSense := by
  intro driven
  rw [heard.st] at driven ⊢
  rw [heard.dualSense]
  constructor
  · exact lastOf_of_any driven _ _
  · have mapped : calls.any fun call => (call.lamp.map powerSaveOf).isSome := by
      simpa using driven
    rw [lastOf_of_any mapped _ (powerSaveOf kMicMuteLedOff)]
    exact lastOf_map powerSaveOf lamp kMicMuteLedOff calls

theorem DualSensePad.receive_zero (pad : DualSensePad) (report : Buffer) :
    pad.receive 0 report = pad := rfl

theorem step_ds4 :
    (s.step call).ds4 =
      { motors := (call.motors .dualShock4).getD s.ds4.motors
        colour := (call.colour .dualShock4).getD s.ds4.colour
        otherWrites := s.ds4.otherWrites } := by
  obtain ⟨family, request, -, outCap⟩ := call
  cases family with
  | dualShock4 =>
    by_cases room : outCap < 32
    · have small : ¬ 32 ≤ outCap := by omega
      cases request <;>
        simp [FeedbackRun.step, build, motors, colour, fits, reportBytes, small, room,
          buildRumbleReport, buildLightbarReport, buildPlayerLedsReport,
          buildTriggerEffectsReport, buildMicMuteLedReport, Ds4Pad.receive]
    · have large : 32 ≤ outCap := by omega
      cases request with
      | rumble =>
        simp [FeedbackRun.step, build, motors, colour, fits, reportBytes, large, ds4_rumble, room]
      | lightbar =>
        simp [FeedbackRun.step, build, motors, colour, fits, reportBytes, large, ds4_lightbar, room]
      | playerLeds => rfl
      | triggerEffects => rfl
      | micMuteLed => rfl
  | dualSense | switchProUsb | steamController | genericHid | none => cases request <;> rfl

theorem step_st :
    (s.step call).st =
      { ds5LightbarSetupSent :=
          s.st.ds5LightbarSetupSent || (call.colour .dualSense).isSome
        ds5MicMuteLed := call.lamp.getD s.st.ds5MicMuteLed
        ds5MicMuteLedSet := s.st.ds5MicMuteLedSet || call.lamp.isSome } := by
  obtain ⟨family, request, out, outCap⟩ := call
  have built : (s.step ⟨family, request, out, outCap⟩).st =
      (build ⟨family, request, out, outCap⟩ s.st).1 := by
    cases family <;> rfl
  rw [built]
  cases request with
  | rumble | playerLeds | triggerEffects => simp [build, colour, lamp]
  | lightbar =>
    cases family <;> by_cases room : outCap < 63 <;> by_cases small : outCap < 32 <;>
      simp [build, colour, lamp, fits, reportBytes, buildLightbarReport, room, small,
        Nat.not_le.mpr, Nat.not_lt.mp]
  | micMuteLed state =>
    cases family with
    | dualSense =>
      by_cases room : outCap < 63
      · simp [build, colour, lamp, fits, reportBytes, buildMicMuteLedReport, room,
          Nat.not_le.mpr room]
      · by_cases known : state ≤ kMicMuteLedPulse
        · simp [build, colour, lamp, fits, reportBytes, buildMicMuteLedReport, room,
            Nat.not_lt.mp room, known, UInt8.not_lt.mpr known]
        · simp [build, colour, lamp, fits, reportBytes, buildMicMuteLedReport, known,
            UInt8.not_le.mp known]
    | _ => simp [build, colour, lamp, fits, buildMicMuteLedReport]

/-- The pad with what the call asks of it, and the setup handoff when a colour is the first. -/
def DualSensePad.asked (pad : DualSensePad) (sent : Bool) (call : FeedbackCall) : DualSensePad where
  motors := (call.motors .dualSense).getD pad.motors
  colour := (call.colour .dualSense).getD pad.colour
  leds := call.leds.getD pad.leds
  right := call.rightTrigger.getD pad.right
  left := call.leftTrigger.getD pad.left
  micLed := call.lamp.getD pad.micLed
  powerSave := (call.lamp.map powerSaveOf).getD pad.powerSave
  lightbarSetups :=
    pad.lightbarSetups ++ if !sent && (call.colour .dualSense).isSome then [0x02] else []
  otherWrites := pad.otherWrites

theorem DualSensePad.asked_unfit (pad : DualSensePad) (sent : Bool) {call : FeedbackCall}
    (unfit : call.fits .dualSense = false) : pad.asked sent call = pad := by
  cases request : call.request <;>
    simp [asked, FeedbackCall.motors, FeedbackCall.colour, FeedbackCall.leds, rightTrigger,
      leftTrigger, lamp, request, unfit]

theorem step_dualSense_unfit {call : FeedbackCall} (unfit : call.fits .dualSense = false) :
    (s.step call).dualSense = s.dualSense := by
  obtain ⟨family, request, out, outCap⟩ := call
  cases family with
  | dualSense =>
    have small : ¬ 63 ≤ outCap := of_decide_eq_false unfit
    have refused : ¬ accepted ⟨.dualSense, request, out, outCap⟩ := by
      rintro ⟨n, bytes, room⟩
      have : n = 63 := by
        cases request <;> simp_all [FeedbackCall.bytes]
      have : n ≤ outCap := room
      omega
    simp only [FeedbackRun.step, build_refused refused]
    rfl
  | _ => rfl

theorem step_dualSense (held : LampHeld s.st s.dualSense) :
    (s.step call).dualSense = s.dualSense.asked s.st.ds5LightbarSetupSent call := by
  cases fits : call.fits .dualSense with
  | false => rw [step_dualSense_unfit s fits, DualSensePad.asked_unfit _ _ fits]
  | true =>
    obtain ⟨ours, large⟩ : call.family = .dualSense ∧ 63 ≤ call.outCap :=
      fits_iff.mp fits
    have room : ¬ call.outCap < 63 := by omega
    have heard : (s.step call).dualSense =
        s.dualSense.receive (call.build s.st).2.1 (call.build s.st).2.2 := by
      simp only [FeedbackRun.step, ours]
    rw [heard]
    cases request : call.request with
    | rumble strong weak seq =>
      simp only [build, request, ours]
      rw [ds5_rumble held strong weak seq call.out room]
      simp [DualSensePad.asked, motors, colour, leds, rightTrigger, leftTrigger, lamp, request,
        fits]
    | lightbar r g b =>
      simp only [build, request, ours]
      rw [ds5_lightbar held r g b call.out room]
      cases s.st.ds5LightbarSetupSent <;>
        simp [DualSensePad.asked, motors, colour, leds, rightTrigger, leftTrigger, lamp,
          request, fits]
    | playerLeds ledMask seq =>
      simp only [build, request, ours]
      rw [ds5_playerLeds held ledMask seq call.out room]
      simp [DualSensePad.asked, motors, colour, leds, rightTrigger, leftTrigger, lamp, request,
        fits]
    | triggerEffects left right =>
      simp only [build, request, ours]
      rw [ds5_triggerEffects held left right call.out room]
      simp [DualSensePad.asked, motors, colour, leds, rightTrigger, leftTrigger, lamp, request,
        fits]
    | micMuteLed state =>
      by_cases known : state ≤ kMicMuteLedPulse
      · simp only [build, request, ours]
        rw [ds5_micMuteLed s.dualSense (UInt8.not_lt.mpr known) call.out room]
        simp [DualSensePad.asked, motors, colour, leds, rightTrigger, leftTrigger, lamp,
          request, fits, known]
      · have refused : ¬ call.accepted := by
          simp [accepted, bytes, request, ours, known]
        rw [build_refused refused, DualSensePad.receive_zero]
        simp [DualSensePad.asked, motors, colour, leds, rightTrigger, leftTrigger, lamp,
          request, known]

theorem heard_run (first : FeedbackRun) (fresh : first.st = {}) (calls : List FeedbackCall) :
    Heard first calls (run FeedbackRun.step first calls) := by
  induction calls using List.reverseRecOn with
  | nil =>
    refine ⟨rfl, ?_, fresh⟩
    simp
  | append_singleton calls call ih =>
    rw [run_append, run_cons, run_nil]
    set s := run FeedbackRun.step first calls
    refine ⟨?_, ?_, ?_⟩
    · rw [step_ds4, ih.ds4]
      simp
    · rw [step_dualSense s call ih.lampHeld, ih.st, ih.dualSense]
      simp only [DualSensePad.asked, lastOf_concat, List.any_append, List.any_cons, List.any_nil,
        Bool.or_false]
      cases calls.any fun call => (call.colour .dualSense).isSome <;> simp
    · rw [step_st, ih.st]
      simp

theorem Heard.micAmpOff_iff {first s : FeedbackRun} (heard : Heard first calls s)
    (driven : calls.any fun call => call.lamp.isSome) :
    s.dualSense.micAmpOff = true ↔ s.dualSense.micLed ≠ kMicMuteLedOff := by
  have set : s.st.ds5MicMuteLedSet = true := by
    rw [heard.st]
    exact driven
  obtain ⟨lamp, save⟩ := heard.lampHeld set
  rw [lamp, DualSensePad.micAmpOff, save, powerSaveOf]
  by_cases off : s.st.ds5MicMuteLed = kMicMuteLedOff
  · simp [off]
  · simp +decide [off]

/-- **OUT reports disturb nothing they were not asked to change.**  From any two pads, after any
calls: every actuator holds what its own last accepted request asked for, the amplifier follows the
lamp, and the lightbar was set up once if it was ever coloured.  A refused call leaves the state and
the buffer alone, and an accepted one writes its report, within the capacity, and nothing past it. -/
theorem feedback_undisturbed (ds4 : Ds4Pad) (pad : DualSensePad) (calls : List FeedbackCall) :
    let first : FeedbackRun := { ds4 := ds4, dualSense := pad }
    let s := run FeedbackRun.step first calls
    Heard first calls s ∧
      ((calls.any fun call => call.lamp.isSome) →
        (s.dualSense.micAmpOff = true ↔ s.dualSense.micLed ≠ kMicMuteLedOff)) ∧
      ∀ (st : FeedbackState) (call : FeedbackCall),
        (¬ call.accepted → call.build st = (st, 0, call.out)) ∧
          (call.accepted →
            call.bytes = some (call.build st).2.1 ∧ (call.build st).2.1 ≤ call.outCap ∧
              Buffer.SamePast (call.build st).2.1 (call.build st).2.2 call.out) := by
  intro first s
  have heard : Heard first calls s := heard_run first rfl calls
  refine ⟨heard, heard.micAmpOff_iff, ?_⟩
  intro st call
  refine ⟨fun refused => build_refused refused st, ?_⟩
  rintro ⟨n, bytes, room⟩
  obtain ⟨length, past⟩ := build_accepted bytes room st
  rw [length]
  exact ⟨bytes, room, past⟩

end Dish
