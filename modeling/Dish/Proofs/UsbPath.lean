/-
What the USB path machine does to a pad over any sequence of events.

`UsbController.Moves` lists the transitions of the machine once, with what each does to the phase,
to the synthetic placeholder and to the resources the effects stand for: the hold on the framework
device, the claim, the restore-stuck mark.  `reduce_moves` says the list is complete.  Every
invariant below is read off that list, one case for each transition.
-/
import Dish.Core.UsbPathMachine
import Dish.Lib.Run

namespace Dish

open Steps UsbEffect UsbController

/-- The effects that touch none of the resources followed here: they write a preference or a
failure, bind a slot, tell the user, or ask for a timer. -/
def UsbEffect.isQuiet : UsbEffect → Bool
  | .bindFramework _ | .markNeedsReplug | .startTimeout | .notify _ | .setPref _
  | .markFailure _ | .clearFailure => true
  | _ => false

namespace UsbController

variable {c n : UsbController}

/-- The first effect of a return to Standard: the placeholder goes, or the hold ends where there is
no placeholder. -/
def dropPlaceholder (c : UsbController) : UsbEffect :=
  match c.syntheticId with
  | some syn => .removeSynthetic syn
  | none => .endHold

/-- **The transitions of the machine**: `Moves c event next effects`. -/
inductive Moves (c : UsbController) : UsbEvent → Option UsbController → List UsbEffect → Prop
  | stays (event : UsbEvent) (n : UsbController) (effects : List UsbEffect)
      (phase : n.phase = c.phase) (syn : n.syntheticId = c.syntheticId)
      (quiet : ∀ fx ∈ effects, fx.isQuiet) : Moves c event (some n) effects
  | asks (n : UsbController) (was : c.phase = .routed) (phase : n.phase = .routed)
      (syn : n.syntheticId = c.syntheticId) :
      Moves c (.choose .direct true) (some n) [.requestPermission]
  | claims (event : UsbEvent) (n : UsbController)
      (wants : event = .permissionGranted ∨ ∃ u, event = .choose .direct u)
      (was : c.phase = .routed) (phase : n.phase = .claiming)
      (syn : n.syntheticId = c.syntheticId) :
      Moves c event (some n) [.clearFailure, .beginHold, .claim]
  | loses (n : UsbController) (was : c.phase = .routed) (phase : n.phase = .awaitingFramework)
      (syn : n.syntheticId = c.syntheticId) :
      Moves c .frameworkDown (some n) [.startTimeout]
  | claimed (id : Int) (n : UsbController) (was : c.phase = .claiming)
      (phase : n.phase = .direct) (syn : n.syntheticId = some id) :
      Moves c (.claimSucceeded id) (some n) [.endHold, .clearFailure]
  | stolen (reason : DirectClaimFailure) (n : UsbController) (was : c.phase = .claiming)
      (expected : c.frameworkExpected)
      (phase : n.phase = .awaitingFramework) (syn : n.syntheticId = none) :
      Moves c (.claimFailed reason true) (some n) [.startTimeout]
  | refused (reason : DirectClaimFailure) (taken : Bool) (n : UsbController)
      (effects : List UsbEffect) (was : c.phase = .claiming) (phase : n.phase = .routed)
      (syn : n.syntheticId = none) (quiet : ∀ fx ∈ effects, fx.isQuiet) :
      Moves c (.claimFailed reason taken) (some n) (.endHold :: effects)
  | released (event : UsbEvent) (n : UsbController)
      (gives : event = .claimUnreadable ∨ ∃ u, event = .choose .standard u)
      (was : c.phase = .direct)
      (expected : c.frameworkExpected) (phase : n.phase = .awaitingFramework)
      (syn : n.syntheticId = c.syntheticId) : Moves c event (some n) [.release, .startTimeout]
  | settled (event : UsbEvent) (n : UsbController) (effects : List UsbEffect)
      (gives : event = .claimUnreadable ∨ ∃ u, event = .choose .standard u)
      (was : c.phase = .direct) (phase : n.phase = .routed) (syn : n.syntheticId = none)
      (quiet : ∀ fx ∈ effects, fx.isQuiet) :
      Moves c event (some n) (.release :: (removePlaceholder c ++ effects))
  | returned (id : Int) (n : UsbController) (effects : List UsbEffect)
      (was : c.phase = .awaitingFramework) (phase : n.phase = .routed)
      (syn : n.syntheticId = none) (quiet : ∀ fx ∈ effects, fx.isQuiet) :
      Moves c (.frameworkUp id) (some n) (dropPlaceholder c :: effects)
  | sticks (n : UsbController) (was : c.phase = .awaitingFramework)
      (held : c.syntheticId.isSome) (phase : n.phase = .restoreStuck)
      (syn : n.syntheticId = c.syntheticId) :
      Moves c .timeout (some n) [.markRestoreStuck, .notify .restoreFailed]
  | drops (n : UsbController) (effects : List UsbEffect) (was : c.phase = .awaitingFramework)
      (held : c.syntheticId = none) (phase : n.phase = .needsReplug)
      (syn : n.syntheticId = none) (quiet : ∀ fx ∈ effects, fx.isQuiet) :
      Moves c .timeout (some n) effects
  | reclaims (user : Bool) (n : UsbController) (was : c.phase = .restoreStuck)
      (phase : n.phase = .restoreStuck) (syn : n.syntheticId = c.syntheticId) :
      Moves c (.choose .direct user) (some n) [.reclaim]
  | waits (user : Bool) (n : UsbController) (was : c.phase = .restoreStuck)
      (phase : n.phase = .awaitingFramework) (syn : n.syntheticId = c.syntheticId) :
      Moves c (.choose .standard user) (some n) [.clearRestoreStuck, .startTimeout]
  | reclaimed (id : Int) (n : UsbController) (effects : List UsbEffect)
      (was : c.phase = .restoreStuck) (phase : n.phase = .direct) (syn : n.syntheticId = some id)
      (quiet : ∀ fx ∈ effects, fx.isQuiet) : Moves c (.claimSucceeded id) (some n) effects
  | reclaimFails (reason : DirectClaimFailure) (taken : Bool) (n : UsbController)
      (effects : List UsbEffect) (was : c.phase = .restoreStuck) (phase : n.phase = .needsReplug)
      (syn : n.syntheticId = none) (quiet : ∀ fx ∈ effects, fx.isQuiet) :
      Moves c (.claimFailed reason taken) (some n) effects
  | unstuck (id : Int) (n : UsbController) (was : c.phase = .restoreStuck)
      (phase : n.phase = .routed) (syn : n.syntheticId = none) :
      Moves c (.frameworkUp id) (some n)
        [dropPlaceholder c, .bindFramework id, .setPref .standard, .clearRestoreStuck,
          .clearFailure]
  | replugged (id : Int) (n : UsbController) (effects : List UsbEffect)
      (was : c.phase = .needsReplug) (phase : n.phase = .routed)
      (syn : n.syntheticId = c.syntheticId) (quiet : ∀ fx ∈ effects, fx.isQuiet) :
      Moves c (.frameworkUp id) (some n) effects
  | unplugged : Moves c .usbUnplugged none (unplug c).effects

theorem stay_moves (event : UsbEvent) (phase : n.phase = c.phase)
    (syn : n.syntheticId = c.syntheticId) : Moves c event (stay n).next (stay n).effects :=
  .stays event n [] phase syn (by simp)

theorem reduceRouted_moves (was : c.phase = .routed) (event : UsbEvent) :
    Moves c event (reduceRouted c event).next (reduceRouted c event).effects := by
  cases event with
  | frameworkDown => exact .loses _ was rfl rfl
  | permissionGranted =>
    simp only [reduceRouted, routedPermissionGranted]
    split
    · exact .claims _ _ (.inl rfl) was rfl rfl
    · exact stay_moves _ rfl rfl
  | permissionDenied =>
    simp only [reduceRouted, routedPermissionDenied]
    split
    · exact stay_moves _ rfl rfl
    · refine .stays _ _ _ rfl rfl ?_
      cases c.userInitiated <;> simp [isQuiet]
  | choose choice user =>
    cases choice with
    | standard => exact stay_moves _ rfl rfl
    | direct =>
      simp only [reduceRouted, routedChoose]
      cases c.hasPermission <;> cases user
      · exact stay_moves _ rfl rfl
      · exact .asks _ was was rfl
      · exact .claims _ _ (.inr ⟨_, rfl⟩) was rfl rfl
      · exact .claims _ _ (.inr ⟨_, rfl⟩) was rfl rfl
  | frameworkUp | usbUnplugged | claimSucceeded | claimFailed | claimUnreadable | timeout => exact stay_moves _ rfl rfl

theorem reduceClaiming_moves (was : c.phase = .claiming) (event : UsbEvent) :
    Moves c event (reduceClaiming c event).next (reduceClaiming c event).effects := by
  cases event with
  | claimSucceeded id => exact .claimed id _ was rfl rfl
  | claimFailed reason taken =>
    simp only [reduceClaiming]
    by_cases lost : taken && c.frameworkExpected
    · rw [if_pos lost]
      rw [Bool.and_eq_true] at lost
      rw [lost.1]
      exact .stolen reason _ was lost.2 rfl rfl
    · rw [if_neg lost]
      refine .refused reason taken _ _ was rfl rfl ?_
      cases c.userInitiated <;> simp [isQuiet]
  | frameworkUp | frameworkDown | usbUnplugged | permissionGranted | permissionDenied | choose
  | claimUnreadable | timeout => exact stay_moves _ rfl rfl

theorem reduceDirect_moves (was : c.phase = .direct) (event : UsbEvent) :
    Moves c event (reduceDirect c event).next (reduceDirect c event).effects := by
  cases event with
  | choose choice =>
    cases choice with
    | direct => exact stay_moves _ rfl rfl
    | standard =>
      simp only [reduceDirect, directChoose]
      cases expected : c.frameworkExpected
      · exact .settled _ _ _ (.inr ⟨_, rfl⟩) was rfl rfl (by simp [isQuiet])
      · exact .released _ _ (.inr ⟨_, rfl⟩) was expected rfl rfl
  | claimUnreadable =>
    simp only [reduceDirect, directUnreadable]
    cases expected : c.frameworkExpected
    · exact .settled _ _ _ (.inl rfl) was rfl rfl (by simp [isQuiet])
    · exact .released _ _ (.inl rfl) was expected rfl rfl
  | frameworkUp | frameworkDown | usbUnplugged | permissionGranted | permissionDenied
  | claimSucceeded | claimFailed | timeout => exact stay_moves _ rfl rfl

theorem reduceAwaiting_moves (was : c.phase = .awaitingFramework) (event : UsbEvent) :
    Moves c event (reduceAwaiting c event).next (reduceAwaiting c event).effects := by
  cases event with
  | frameworkUp id =>
    refine .returned id _ _ was rfl rfl ?_
    cases c.failure <;> cases c.userInitiated <;> simp [isQuiet]
  | timeout =>
    simp only [reduceAwaiting]
    cases held : c.syntheticId with
    | none =>
      refine .drops _ _ was held rfl held ?_
      simp [awaitingTimedOutWithNothing, isQuiet]
    | some syn => exact .sticks _ was (by simp [held]) rfl rfl
  | frameworkDown | usbUnplugged | permissionGranted | permissionDenied | choose
  | claimSucceeded | claimFailed | claimUnreadable => exact stay_moves _ rfl rfl

theorem reduceRestoreStuck_moves (was : c.phase = .restoreStuck) (event : UsbEvent) :
    Moves c event (reduceRestoreStuck c event).next (reduceRestoreStuck c event).effects := by
  cases event with
  | choose choice user =>
    cases choice with
    | direct => exact .reclaims user _ was was rfl
    | standard => exact .waits user _ was rfl rfl
  | claimSucceeded id =>
    refine .reclaimed id _ _ was rfl rfl ?_
    simp [reduceRestoreStuck, restoreStuckClaimSucceeded, isQuiet]
  | claimFailed reason taken =>
    refine .reclaimFails reason taken _ _ was rfl rfl ?_
    simp [reduceRestoreStuck, restoreStuckClaimFailed, isQuiet]
  | frameworkUp id => exact .unstuck id _ was rfl rfl
  | frameworkDown | usbUnplugged | permissionGranted | permissionDenied | claimUnreadable
  | timeout => exact stay_moves _ rfl rfl

theorem reduceNeedsReplug_moves (was : c.phase = .needsReplug) (event : UsbEvent) :
    Moves c event (reduceNeedsReplug c event).next (reduceNeedsReplug c event).effects := by
  cases event with
  | frameworkUp id =>
    refine .replugged id _ _ was rfl rfl ?_
    simp [reduceNeedsReplug, needsReplugFrameworkUp, isQuiet]
  | frameworkDown | usbUnplugged | permissionGranted | permissionDenied | choose
  | claimSucceeded | claimFailed | claimUnreadable | timeout => exact stay_moves _ rfl rfl

/-- Every reduction is one of the listed transitions. -/
theorem reduce_moves (c : UsbController) (event : UsbEvent) :
    Moves c event (reduce c event).next (reduce c event).effects := by
  unfold reduce
  by_cases gone : event = .usbUnplugged
  · rw [if_pos gone, gone]
    exact .unplugged
  · rw [if_neg gone]
    cases was : c.phase with
    | routed => exact reduceRouted_moves was event
    | claiming => exact reduceClaiming_moves was event
    | direct => exact reduceDirect_moves was event
    | awaitingFramework => exact reduceAwaiting_moves was event
    | restoreStuck => exact reduceRestoreStuck_moves was event
    | needsReplug => exact reduceNeedsReplug_moves was event

theorem reduce_ids {event : UsbEvent} (h : (c.reduce event).next = some n) :
    n.vendorId = c.vendorId ∧ n.productId = c.productId ∧
      n.frameworkExpected = c.frameworkExpected := by
  unfold reduce at h
  split at h
  · simp [unplug] at h
  · cases phase : c.phase <;> simp only [phase] at h <;> cases event <;>
      simp only [reduceRouted, reduceClaiming, reduceDirect, reduceAwaiting, reduceRestoreStuck,
        reduceNeedsReplug, stay, startClaim, bindReturnedFramework, markPermissionGranted,
        adoptFrameworkId, routedFrameworkDown, routedPermissionDenied, routedChoose,
        routedPermissionGranted, claimingSucceeded, claimingLostTheFramework,
        claimingSettledOnStandard, releaseWithNoFrameworkToWaitFor, releaseAndAwaitFramework,
        directChoose, directUnreadableAwaitingFramework, directUnreadableSettledOnStandard,
        directUnreadable, awaitingFrameworkUp, awaitingTimedOutWithSynthetic,
        awaitingTimedOutWithNothing, restoreStuckChoose, restoreStuckClaimSucceeded,
        restoreStuckClaimFailed, restoreStuckFrameworkUp, needsReplugFrameworkUp] at h <;>
      (try split_ifs at h) <;> simp only [Option.some.injEq] at h <;> subst h <;>
      exact ⟨rfl, rfl, rfl⟩

theorem reduce_frameworkUp_phase {id : Int} (h : (c.reduce (.frameworkUp id)).next = some n) :
    n.phase ≠ .awaitingFramework := by
  cases phase : c.phase <;>
    simp only [reduce, phase, reduceCtorEq, if_false, reduceRouted, reduceClaiming, reduceDirect,
      reduceAwaiting, reduceRestoreStuck, reduceNeedsReplug, adoptFrameworkId, stay,
      awaitingFrameworkUp, restoreStuckFrameworkUp, bindReturnedFramework, needsReplugFrameworkUp,
      Option.some.injEq] at h <;>
    subst h <;> simp

theorem reduce_frameworkDown_phase (h : (c.reduce .frameworkDown).next = some n)
    (after : n.phase = .routed ∨ n.phase = .awaitingFramework) :
    c.phase = .routed ∨ c.phase = .awaitingFramework := by
  cases phase : c.phase <;>
    simp only [reduce, phase, reduceCtorEq, if_false, reduceRouted, reduceClaiming, reduceDirect,
      reduceAwaiting, reduceRestoreStuck, reduceNeedsReplug, routedFrameworkDown, stay,
      Option.some.injEq] at h <;>
    subst h <;> simp [phase] at after ⊢

end UsbController

variable {c : UsbController} {hold : Bool} {event : UsbEvent} {effects : List UsbEffect}
  (p : PadHistory)

/-! ### Replaying the effects

One pad from the moment it is tracked, its events folded through `reduce`, and the two resources
its effects switch: the hold on the framework device and the restore-stuck mark. -/

structure PadHistory where
  /-- None once the pad is no longer tracked. -/
  pad : Option UsbController
  hold : Bool
  stuck : Bool
  deriving DecidableEq, Repr

def UsbEffect.onHold (hold : Bool) : UsbEffect → Bool
  | .beginHold => true
  | .endHold => false
  | _ => hold

def UsbEffect.onStuck (stuck : Bool) : UsbEffect → Bool
  | .markRestoreStuck => true
  | .clearRestoreStuck => false
  | _ => stuck

/-- A pad freshly tracked: no hold, no mark. -/
def PadHistory.start (c : UsbController) : PadHistory := ⟨some c, false, false⟩

def PadHistory.step (p : PadHistory) (event : UsbEvent) : PadHistory :=
  match p.pad with
  | none => p
  | some c =>
    let r := c.reduce event
    ⟨r.next, r.effects.foldl onHold p.hold, r.effects.foldl onStuck p.stuck⟩

theorem PadHistory.step_some {p : PadHistory} (h : p.pad = some c) (event : UsbEvent) :
    p.step event =
      ⟨(c.reduce event).next, (c.reduce event).effects.foldl onHold p.hold,
        (c.reduce event).effects.foldl onStuck p.stuck⟩ := by
  simp only [PadHistory.step, h]

theorem PadHistory.step_none {p : PadHistory} (h : p.pad = none) (event : UsbEvent) :
    p.step event = p := by
  simp only [PadHistory.step, h]

/-- A replay that quiet effects leave alone passes over a list of them unchanged. -/
theorem foldl_of_quiet {f : Bool → UsbEffect → Bool}
    (alone : ∀ b fx, isQuiet fx → f b fx = b) (effects : List UsbEffect)
    (quiet : ∀ fx ∈ effects, fx.isQuiet) (b : Bool) : effects.foldl f b = b :=
  List.foldlRecOn (motive := (· = b)) effects f rfl fun b' same fx mem =>
    (alone b' fx (quiet fx mem)).trans same

section
variable (b : Bool) (fx : UsbEffect) (quiet : fx.isQuiet)
include quiet

theorem onHold_of_quiet : onHold b fx = b := by
  cases fx <;> first | rfl | simp [isQuiet] at quiet

theorem onStuck_of_quiet : onStuck b fx = b := by
  cases fx <;> first | rfl | simp [isQuiet] at quiet

end

/-! ### The hold

A hold begins with a claim.  It ends with the claim's answer, except where the answer took the
framework device away: then the pad waits with the hold on, and with no placeholder. -/

/-- What the phase says about the hold. -/
def HoldFits (c : UsbController) (hold : Bool) : Prop :=
  match c.phase with
  | .routed | .direct | .restoreStuck => hold = false
  | .claiming => hold = true
  | .awaitingFramework => c.syntheticId.isSome → hold = false
  | .needsReplug => True

/-- The pad does not come back from `needsReplug` with a hold still on: that transition ends no
hold. -/
def NoHeldReturn (p : PadHistory) : UsbEvent → Prop
  | .frameworkUp _ => ¬ (p.hold = true ∧ p.pad.map (·.phase) = some .needsReplug)
  | _ => True

instance (p : PadHistory) (event : UsbEvent) : Decidable (NoHeldReturn p event) := by
  unfold NoHeldReturn
  split <;> infer_instance

/-- After the transition: no hold for a pad that is gone, the phase's own for one that stays. -/
def HoldFitsAfter (next : Option UsbController) (hold : Bool) : Prop :=
  match next with
  | none => hold = false
  | some n => HoldFits n hold

theorem onHold_dropPlaceholder (fits : c.syntheticId.isSome → hold = false) :
    onHold hold c.dropPlaceholder = false := by
  unfold dropPlaceholder
  cases held : c.syntheticId with
  | none => rfl
  | some syn => exact fits (by simp [held])

theorem foldl_onHold_removePlaceholder (c : UsbController) (hold : Bool) :
    c.removePlaceholder.foldl onHold hold = hold := by
  unfold removePlaceholder
  cases c.syntheticId <;> rfl

theorem onHold_unplug (fits : HoldFits c hold) : c.unplug.effects.foldl onHold hold = false := by
  simp only [unplug, endHoldOnUnplug, List.foldl_append, foldl_onHold_removePlaceholder]
  cases was : c.phase <;> simp only [HoldFits, was] at fits <;> simp [onHold, fits]

theorem UsbController.Moves.holdFits {next : Option UsbController}
    (moves : c.Moves event next effects) (fits : HoldFits c hold)
    (returns : ∀ id, event = .frameworkUp id → c.phase = .needsReplug → hold = false) :
    HoldFitsAfter next (effects.foldl onHold hold) := by
  have keeps := foldl_of_quiet onHold_of_quiet
  unfold HoldFits at fits
  cases moves with
  | stays event n effects phase syn quiet =>
    simpa only [HoldFitsAfter, HoldFits, phase, syn, keeps _ quiet] using fits
  | asks n was phase | loses n was phase | released _ n gives was expected phase
  | reclaims user n was phase | waits user n was phase =>
    simp only [was] at fits
    simp [HoldFitsAfter, HoldFits, phase, onHold, fits]
  | claims _ n wants was phase | claimed id n was phase =>
    simp [HoldFitsAfter, HoldFits, phase, onHold]
  | stolen reason n was expected phase syn => simp [HoldFitsAfter, HoldFits, phase, syn]
  | refused reason taken n rest was phase syn quiet =>
    simp [HoldFitsAfter, HoldFits, phase, onHold, keeps _ quiet]
  | settled event n rest gives was phase syn quiet =>
    simp only [was] at fits
    simp [HoldFitsAfter, HoldFits, phase, onHold, foldl_onHold_removePlaceholder,
      keeps _ quiet, fits]
  | returned id n rest was phase syn quiet =>
    simp only [was] at fits
    simp [HoldFitsAfter, HoldFits, phase, keeps _ quiet, onHold_dropPlaceholder fits]
  | sticks n was held phase =>
    simp only [was] at fits
    simp [HoldFitsAfter, HoldFits, phase, onHold, fits held]
  | drops n _ was held phase | reclaimFails reason taken n _ was phase =>
    simp [HoldFitsAfter, HoldFits, phase]
  | reclaimed id n effects was phase syn quiet =>
    simp only [was] at fits
    simp [HoldFitsAfter, HoldFits, phase, keeps _ quiet, fits]
  | unstuck id n was phase =>
    simp only [was] at fits
    simp only [HoldFitsAfter, HoldFits, phase, List.foldl_cons, List.foldl_nil,
      onHold_dropPlaceholder fun _ => fits]
    rfl
  | replugged id n effects was phase syn quiet =>
    simp [HoldFitsAfter, HoldFits, phase, keeps _ quiet, returns id rfl was]
  | unplugged => exact onHold_unplug fits

theorem holdFits_step (event : UsbEvent) (fits : HoldFitsAfter p.pad p.hold)
    (ok : NoHeldReturn p event) : HoldFitsAfter (p.step event).pad (p.step event).hold := by
  cases now : p.pad with
  | none =>
    rw [PadHistory.step_none now]
    exact fits
  | some c =>
    rw [PadHistory.step_some now]
    rw [now] at fits
    refine (c.reduce_moves event).holdFits fits fun id up was => ?_
    subst up
    by_contra on
    exact ok ⟨by simpa using on, by simp [now, was]⟩

/-- **The hold is balanced.**  From a pad that starts on Standard with no hold, over any events in
which it does not come back from `needsReplug` with the hold on: no hold is outstanding on Standard,
on Direct or once the pad is gone, and one is while a claim is in flight. -/
theorem hold_balanced (c : UsbController) (routed : c.phase = .routed) (events : List UsbEvent)
    (ok : Along PadHistory.step NoHeldReturn (.start c) events) :
    let p := run PadHistory.step (.start c) events
    match p.pad with
    | none => p.hold = false
    | some n =>
      (n.phase = .routed ∨ n.phase = .direct → p.hold = false) ∧
        (n.phase = .claiming → p.hold = true) := by
  intro p
  have fits : HoldFitsAfter p.pad p.hold :=
    run_keeps (I := fun p => HoldFitsAfter p.pad p.hold) holdFits_step
      (by simp [HoldFitsAfter, HoldFits, PadHistory.start, routed]) ok
  cases now : p.pad with
  | none => simpa [HoldFitsAfter, now] using fits
  | some n =>
    simp only [HoldFitsAfter, HoldFits, now] at fits
    constructor
    · rintro (is | is) <;> simpa [is] using fits
    · intro is
      simpa [is] using fits

/-- A claim that is refused without taking the framework device, then one that succeeds and is
given back. -/
theorem hold_balanced_there_and_back :
    let c : UsbController := { hasPermission := true }
    let events : List UsbEvent :=
      [.choose .direct true, .claimFailed .busy false, .choose .direct true, .claimSucceeded 9,
        .choose .standard true, .frameworkUp 4]
    (run PadHistory.step (.start c) events).hold = false :=
  (hold_balanced { hasPermission := true } rfl
    [.choose .direct true, .claimFailed .busy false, .choose .direct true, .claimSucceeded 9,
      .choose .standard true, .frameworkUp 4] (by decide)).1 (.inl (by decide))

/-- The claim takes the framework device away, the wait for it times out, and the device comes back
later after all: the pad is on Standard with the hold still on. -/
theorem hold_outlives_replug :
    let c : UsbController := { hasPermission := true }
    let p := run PadHistory.step (.start c)
      [.choose .direct true, .claimFailed .busy true, .timeout, .frameworkUp 4]
    c.phase = .routed ∧ p.pad.map (·.phase) = some .routed ∧ p.hold = true := by
  decide

/-! ### The restore-stuck mark and the placeholder -/

/-- What the phase says about the mark. -/
def StuckFits (next : Option UsbController) (stuck : Bool) : Prop :=
  stuck = true ↔ next.map (·.phase) = some .restoreStuck

/-- `restoreStuck` is not left by the answer to a reclaim or by an unplug: neither clears the
mark. -/
def ClearsOnLeaving (p : PadHistory) : UsbEvent → Prop
  | .claimSucceeded _ | .claimFailed _ _ | .usbUnplugged =>
    p.pad.map (·.phase) ≠ some .restoreStuck
  | _ => True

instance (p : PadHistory) (event : UsbEvent) : Decidable (ClearsOnLeaving p event) := by
  unfold ClearsOnLeaving
  split <;> infer_instance

theorem onStuck_dropPlaceholder (c : UsbController) (stuck : Bool) :
    onStuck stuck c.dropPlaceholder = stuck := by
  unfold dropPlaceholder
  cases c.syntheticId <;> rfl

theorem foldl_onStuck_removePlaceholder (c : UsbController) (stuck : Bool) :
    c.removePlaceholder.foldl onStuck stuck = stuck := by
  unfold removePlaceholder
  cases c.syntheticId <;> rfl

theorem onStuck_unplug (c : UsbController) (stuck : Bool) :
    c.unplug.effects.foldl onStuck stuck = stuck := by
  simp only [unplug, endHoldOnUnplug, List.foldl_append, foldl_onStuck_removePlaceholder]
  cases c.phase <;> rfl

theorem UsbController.Moves.stuckFits {next : Option UsbController}
    {stuck : Bool} (moves : c.Moves event next effects)
    (fits : StuckFits (some c) stuck)
    (leaves : c.phase = .restoreStuck → event ≠ .usbUnplugged ∧
      (∀ id, event ≠ .claimSucceeded id) ∧ ∀ reason taken, event ≠ .claimFailed reason taken) :
    StuckFits next (effects.foldl onStuck stuck) := by
  have keeps := foldl_of_quiet onStuck_of_quiet
  simp only [StuckFits, Option.map_some, Option.some.injEq] at fits
  cases moves with
  | stays event n effects phase syn quiet => simp [StuckFits, phase, keeps _ quiet, fits]
  | asks n was phase | claims _ n wants was phase | loses n was phase | claimed id n was phase
  | stolen reason n was expected phase | released _ n gives was expected phase
  | reclaims user n was phase => simp [StuckFits, phase, onStuck, fits, was]
  | refused reason taken n rest was phase syn quiet =>
    simp [StuckFits, phase, onStuck, keeps _ quiet, fits, was]
  | settled event n rest gives was phase syn quiet =>
    simp [StuckFits, phase, onStuck, foldl_onStuck_removePlaceholder, keeps _ quiet, fits, was]
  | returned id n rest was phase syn quiet =>
    simp [StuckFits, phase, onStuck_dropPlaceholder, keeps _ quiet, fits, was]
  | sticks n was held phase | waits user n was phase | unstuck id n was phase =>
    simp [StuckFits, phase, onStuck]
  | drops n _ was held phase syn quiet | replugged id n _ was phase syn quiet =>
    simp [StuckFits, phase, keeps _ quiet, fits, was]
  | reclaimed id n effects was => exact absurd rfl ((leaves was).2.1 id)
  | reclaimFails reason taken n effects was =>
    exact absurd rfl ((leaves was).2.2 reason taken)
  | unplugged =>
    have off : c.phase ≠ .restoreStuck := fun was => (leaves was).1 rfl
    simp [StuckFits, onStuck_unplug, fits, off]

theorem stuckFits_step (event : UsbEvent) (fits : StuckFits p.pad p.stuck)
    (ok : ClearsOnLeaving p event) : StuckFits (p.step event).pad (p.step event).stuck := by
  cases now : p.pad with
  | none =>
    rw [PadHistory.step_none now]
    exact fits
  | some c =>
    rw [PadHistory.step_some now]
    rw [now] at fits
    refine (c.reduce_moves event).stuckFits fits fun was => ?_
    refine ⟨?_, fun id => ?_, fun reason taken => ?_⟩ <;>
    · intro is
      subst is
      exact ok (by simp [now, was])

/-- A placeholder is held only by a pad that is Direct or on its way back. -/
def SyntheticFits (c : UsbController) : Prop :=
  c.syntheticId.isSome → c.phase = .direct ∨ c.phase = .awaitingFramework ∨ c.phase = .restoreStuck

theorem UsbController.Moves.syntheticFits {n : UsbController}
    (moves : c.Moves event (some n) effects) (fits : SyntheticFits c) : SyntheticFits n := by
  unfold SyntheticFits at *
  cases moves with
  | stays event n effects phase syn => rwa [phase, syn]
  | asks n was phase syn => rwa [phase, syn, ← was]
  | claims _ n wants was phase syn | replugged id n _ was phase syn =>
    intro held
    rw [syn] at held
    simp [was] at fits
    simp [fits] at held
  | loses n was phase | claimed id n was phase | stolen reason n was expected phase
  | released _ n gives was expected phase | sticks n was held phase | reclaims user n was phase
  | waits user n was phase | reclaimed id n _ was phase => simp [phase]
  | refused reason taken n rest was phase syn | settled _ n rest gives was phase syn
  | returned id n rest was phase syn | drops n _ was held phase syn
  | reclaimFails reason taken n _ was phase syn | unstuck id n was phase syn => simp [syn]

theorem syntheticFits_step (event : UsbEvent) (fits : ∀ c, p.pad = some c → SyntheticFits c) :
    ∀ c, (p.step event).pad = some c → SyntheticFits c := by
  intro n next
  cases now : p.pad with
  | none => exact fits n (by rwa [PadHistory.step_none now] at next)
  | some c =>
    rw [PadHistory.step_some now] at next
    have moves := c.reduce_moves event
    rw [show (c.reduce event).next = some n from next] at moves
    exact moves.syntheticFits (fits c now)

/-- **The restore-stuck mark and the placeholder.**  From a fresh pad on Standard: a synthetic id is
held only while Direct, waiting for the framework or stuck, over any events; and over events that
do not leave `restoreStuck` by a reclaim's answer or an unplug, the mark is on exactly while the pad
is stuck. -/
theorem stuck_mark_true (c : UsbController) (routed : c.phase = .routed)
    (fresh : c.syntheticId = none) (events : List UsbEvent) :
    let p := run PadHistory.step (.start c) events
    (∀ n, p.pad = some n → n.syntheticId.isSome →
      n.phase = .direct ∨ n.phase = .awaitingFramework ∨ n.phase = .restoreStuck) ∧
    (Along PadHistory.step ClearsOnLeaving (.start c) events →
      (p.stuck = true ↔ p.pad.map (·.phase) = some .restoreStuck)) := by
  intro p
  constructor
  · refine run_inv (I := fun p : PadHistory => ∀ c, p.pad = some c → SyntheticFits c)
      syntheticFits_step ?_ events
    intro n is
    obtain rfl : c = n := by simpa [PadHistory.start] using is
    simp [SyntheticFits, fresh]
  · intro ok
    exact run_keeps (I := fun p => StuckFits p.pad p.stuck) stuckFits_step
      (by simp [StuckFits, PadHistory.start, routed]) ok

/-- A return to Standard that gets stuck, and the device coming back after all. -/
theorem stuck_mark_true_returns :
    let c : UsbController := { hasPermission := true }
    let p := run PadHistory.step (.start c)
      [.choose .direct true, .claimSucceeded 9, .choose .standard true, .timeout, .frameworkUp 4]
    p.stuck = true ↔ p.pad.map (·.phase) = some .restoreStuck :=
  (stuck_mark_true { hasPermission := true } rfl rfl
    [.choose .direct true, .claimSucceeded 9, .choose .standard true, .timeout,
      .frameworkUp 4]).2 (by decide)

/-- The user asks for Direct back from a stuck return and gets it: the pad streams, and the mark
still says it is stuck. -/
theorem stuck_mark_outlives_reclaim :
    let c : UsbController := { hasPermission := true }
    let p := run PadHistory.step (.start c)
      [.choose .direct true, .claimSucceeded 9, .choose .standard true, .timeout,
        .choose .direct true, .claimSucceeded 10]
    p.pad.map (·.phase) = some .direct ∧ p.stuck = true := by
  decide

end Dish
