/-
The path machine of one USB pad.

A pad the application knows how to drive over raw USB is, at any time, on one of two paths: the
Standard one, where the operating system's gamepad layer ("the framework") reads it, or the Direct
one, where the application has claimed the USB interface.  Going from one to the other takes the
device away from somebody and gives it to somebody else, either of which can fail, so the pad moves
through phases.  The machine is pure: an event takes a controller to its next value, or to none once
it is unplugged, and to a list of effects in the order they have to be carried out.
-/
import Mathlib.Data.Option.Basic

namespace Dish

inductive DirectClaimFailure where
  | permissionDenied
  | busy
  | initFailed
  | dropped
  deriving DecidableEq, Repr

inductive PathChoice where
  | direct
  | standard
  deriving DecidableEq, Repr

inductive UsbPhase where
  /-- Standard: a framework device is present. -/
  | routed
  /-- A direct-mode claim is in flight. -/
  | claiming
  /-- Claimed and streaming. -/
  | direct
  /-- Released, or a claim failed: waiting on re-enumeration. -/
  | awaitingFramework
  /-- A return to Standard never re-enumerated. -/
  | restoreStuck
  /-- Present, but the system never gave the device back. -/
  | needsReplug
  deriving DecidableEq, Repr

/-- One tracked pad.  `usbPresent`, which the source sets once and nothing reads, is left out. -/
structure UsbController where
  vendorId : Int := 0
  productId : Int := 0
  name : String := ""
  phase : UsbPhase := .routed
  frameworkId : Option Int := none
  syntheticId : Option Int := none
  hasPermission : Bool := false
  desired : PathChoice := .standard
  /-- Gates the notices shown to the user. -/
  userInitiated : Bool := false
  connId : Option String := none
  type : Option Int := none
  failure : Option DirectClaimFailure := none
  /-- Whether a release is followed by a framework gamepad at all. -/
  frameworkExpected : Bool := true
  deriving DecidableEq, Repr

inductive UsbEvent where
  | frameworkUp (id : Int)
  | frameworkDown
  | usbUnplugged
  | permissionGranted
  | permissionDenied
  | choose (choice : PathChoice) (userInitiated : Bool)
  | claimSucceeded (syntheticId : Int)
  | claimFailed (reason : DirectClaimFailure) (frameworkStolen : Bool)
  | claimUnreadable
  | timeout
  deriving DecidableEq, Repr

inductive UsbNotice where
  | switchToDirectFailed
  | needsReplug
  | rolledBackToDirect
  | restoreFailed
  deriving DecidableEq, Repr

inductive UsbEffect where
  | claim
  | reclaim
  | release
  | requestPermission
  | bindFramework (frameworkId : Int)
  | removeSynthetic (syntheticId : Int)
  | beginHold
  | endHold
  | markNeedsReplug
  | markRestoreStuck
  | clearRestoreStuck
  | startTimeout
  | notify (notice : UsbNotice)
  | setPref (choice : PathChoice)
  | markFailure (reason : DirectClaimFailure)
  | clearFailure
  deriving DecidableEq, Repr

/-- What an event does: the next controller, none once it is no longer tracked, and the effects. -/
structure Reduction where
  next : Option UsbController
  effects : List UsbEffect
  deriving DecidableEq, Repr

namespace UsbController

def stay (c : UsbController) : Reduction := ⟨some c, []⟩

/-- A fresh Direct attempt: clear any stale failure, hold the framework, claim. -/
def startClaim (c : UsbController) : Reduction :=
  ⟨some { c with phase := .claiming, failure := none }, [.clearFailure, .beginHold, .claim]⟩

/-- The framework device came back: the placeholder goes, the slot binds to the real one and
Standard is persisted.  `extra` is what the caller says about the claim that led here. -/
def bindReturnedFramework (c : UsbController) (frameworkId : Int) (extra : List UsbEffect) :
    Reduction :=
  let first : UsbEffect :=
    match c.syntheticId with
    | some syn => .removeSynthetic syn
    | none => .endHold
  ⟨some { c with phase := .routed, frameworkId := some frameworkId, syntheticId := none,
                 desired := .standard, failure := none },
    first :: .bindFramework frameworkId :: .setPref .standard :: extra⟩

def markPermissionGranted (c : UsbController) : Reduction := stay { c with hasPermission := true }

def adoptFrameworkId (c : UsbController) (frameworkId : Int) : Reduction :=
  stay { c with frameworkId := some frameworkId }

/-! ### The per-phase reducers -/

def routedFrameworkDown (c : UsbController) : Reduction :=
  ⟨some { c with phase := .awaitingFramework, frameworkId := none, userInitiated := false },
    [.startTimeout]⟩

/-- Standard is persisted as well, or the refused pick would be attempted again on every
reconnect. -/
def routedPermissionDenied (c : UsbController) : Reduction :=
  if c.desired ≠ .direct then stay c
  else
    ⟨some { c with desired := .standard, failure := some .permissionDenied },
      [.setPref .standard, .markFailure .permissionDenied] ++
        (if c.userInitiated then [.notify .switchToDirectFailed] else [])⟩

def routedChoose (c : UsbController) (choice : PathChoice) (userInitiated : Bool) : Reduction :=
  if choice = .standard then stay { c with desired := .standard }
  else
    let wanting := { c with desired := .direct, userInitiated := userInitiated }
    if wanting.hasPermission then startClaim wanting
    else if userInitiated then ⟨some wanting, [.requestPermission]⟩
    else stay wanting

def routedPermissionGranted (c : UsbController) : Reduction :=
  let granted := { c with hasPermission := true }
  if granted.desired = .direct then startClaim granted else stay granted

def reduceRouted (c : UsbController) : UsbEvent → Reduction
  | .frameworkUp id => adoptFrameworkId c id
  | .frameworkDown => routedFrameworkDown c
  | .permissionGranted => routedPermissionGranted c
  | .permissionDenied => routedPermissionDenied c
  | .choose choice userInitiated => routedChoose c choice userInitiated
  | _ => stay c

def claimingSucceeded (c : UsbController) (syntheticId : Int) : Reduction :=
  ⟨some { c with phase := .direct, syntheticId := some syntheticId, frameworkId := none,
                 failure := none },
    [.endHold, .clearFailure]⟩

/-- The claim detached the kernel driver, so the framework device has to come back first. -/
def claimingLostTheFramework (c : UsbController) (reason : DirectClaimFailure) : Reduction :=
  ⟨some { c with phase := .awaitingFramework, syntheticId := none, failure := some reason },
    [.startTimeout]⟩

def claimingSettledOnStandard (c : UsbController) (reason : DirectClaimFailure) : Reduction :=
  ⟨some { c with phase := .routed, desired := .standard, syntheticId := none,
                 failure := some reason },
    [.endHold, .setPref .standard, .markFailure reason] ++
      (if c.userInitiated then [.notify .switchToDirectFailed] else [])⟩

def reduceClaiming (c : UsbController) : UsbEvent → Reduction
  | .claimSucceeded syntheticId => claimingSucceeded c syntheticId
  | .claimFailed reason frameworkStolen =>
    if frameworkStolen && c.frameworkExpected then claimingLostTheFramework c reason
    else claimingSettledOnStandard c reason
  | .frameworkUp id => adoptFrameworkId c id
  | .permissionGranted => markPermissionGranted c
  | _ => stay c

/-- The placeholder's removal, where there is one. -/
def removePlaceholder (c : UsbController) : List UsbEffect :=
  match c.syntheticId with
  | some syn => [.removeSynthetic syn]
  | none => []

def releaseWithNoFrameworkToWaitFor (c : UsbController) (userInitiated : Bool) : Reduction :=
  ⟨some { c with phase := .routed, desired := .standard, frameworkId := none,
                 syntheticId := none, userInitiated := userInitiated, failure := none },
    .release :: removePlaceholder c ++ [.setPref .standard, .clearFailure]⟩

/-- The synthetic stays as a placeholder while the framework device comes back. -/
def releaseAndAwaitFramework (c : UsbController) (userInitiated : Bool) : Reduction :=
  ⟨some { c with phase := .awaitingFramework, userInitiated := userInitiated, failure := none },
    [.release, .startTimeout]⟩

def directChoose (c : UsbController) (choice : PathChoice) (userInitiated : Bool) : Reduction :=
  if choice ≠ .standard then stay { c with desired := .direct }
  else if !c.frameworkExpected then releaseWithNoFrameworkToWaitFor c userInitiated
  else releaseAndAwaitFramework c userInitiated

def directUnreadableAwaitingFramework (c : UsbController) : Reduction :=
  ⟨some { c with phase := .awaitingFramework, failure := some .initFailed },
    [.release, .startTimeout]⟩

def directUnreadableSettledOnStandard (c : UsbController) : Reduction :=
  ⟨some { c with phase := .routed, desired := .standard, frameworkId := none,
                 syntheticId := none, failure := some .initFailed },
    .release :: removePlaceholder c ++ [.setPref .standard, .markFailure .initFailed]⟩

def directUnreadable (c : UsbController) : Reduction :=
  if !c.frameworkExpected then directUnreadableSettledOnStandard c
  else directUnreadableAwaitingFramework c

def reduceDirect (c : UsbController) : UsbEvent → Reduction
  | .choose choice userInitiated => directChoose c choice userInitiated
  | .claimUnreadable => directUnreadable c
  | .frameworkUp id => adoptFrameworkId c id
  | _ => stay c

/-- A wait that began with a failed claim shows why; one that began with a deliberate release has
nothing to report. -/
def awaitingFrameworkUp (c : UsbController) (id : Int) : Reduction :=
  bindReturnedFramework c id <|
    match c.failure with
    | some reason =>
      .markFailure reason ::
        (if c.userInitiated then [.notify .switchToDirectFailed] else [])
    | none => [.clearFailure]

def awaitingTimedOutWithSynthetic (c : UsbController) : Reduction :=
  ⟨some { c with phase := .restoreStuck }, [.markRestoreStuck, .notify .restoreFailed]⟩

def awaitingTimedOutWithNothing (c : UsbController) : Reduction :=
  ⟨some { c with phase := .needsReplug, desired := .standard, failure := some .dropped },
    [.markNeedsReplug, .markFailure .dropped, .setPref .standard, .notify .needsReplug]⟩

def reduceAwaiting (c : UsbController) : UsbEvent → Reduction
  | .frameworkUp id => awaitingFrameworkUp c id
  | .timeout =>
    if c.syntheticId.isSome then awaitingTimedOutWithSynthetic c
    else awaitingTimedOutWithNothing c
  | .permissionGranted => markPermissionGranted c
  | _ => stay c

/-- Standard waits for the framework once more; Direct asks for the claim back, and the phase moves
only when the answer comes. -/
def restoreStuckChoose (c : UsbController) (choice : PathChoice) (userInitiated : Bool) :
    Reduction :=
  let n := { c with userInitiated := userInitiated }
  if choice = .direct then ⟨some { n with desired := .direct }, [.reclaim]⟩
  else ⟨some { n with phase := .awaitingFramework }, [.clearRestoreStuck, .startTimeout]⟩

def restoreStuckClaimSucceeded (c : UsbController) (syntheticId : Int) : Reduction :=
  ⟨some { c with phase := .direct, syntheticId := some syntheticId, desired := .direct,
                 failure := none },
    [.setPref .direct, .clearFailure, .notify .rolledBackToDirect]⟩

def restoreStuckClaimFailed (c : UsbController) : Reduction :=
  ⟨some { c with phase := .needsReplug, syntheticId := none, failure := some .dropped },
    [.markFailure .dropped, .notify .restoreFailed]⟩

def restoreStuckFrameworkUp (c : UsbController) (id : Int) : Reduction :=
  bindReturnedFramework c id [.clearRestoreStuck, .clearFailure]

def reduceRestoreStuck (c : UsbController) : UsbEvent → Reduction
  | .choose choice userInitiated => restoreStuckChoose c choice userInitiated
  | .claimSucceeded syntheticId => restoreStuckClaimSucceeded c syntheticId
  | .claimFailed _ _ => restoreStuckClaimFailed c
  | .frameworkUp id => restoreStuckFrameworkUp c id
  | .permissionGranted => markPermissionGranted c
  | _ => stay c

def needsReplugFrameworkUp (c : UsbController) (id : Int) : Reduction :=
  ⟨some { c with phase := .routed, frameworkId := some id, failure := none },
    [.bindFramework id, .clearFailure]⟩

def reduceNeedsReplug (c : UsbController) : UsbEvent → Reduction
  | .frameworkUp id => needsReplugFrameworkUp c id
  | .choose choice userInitiated =>
    stay { c with desired := choice, userInitiated := userInitiated }
  | .permissionGranted => markPermissionGranted c
  | _ => stay c

/-! ### The machine -/

/-- The phases an unplug ends a hold in. -/
def endHoldOnUnplug (c : UsbController) : List UsbEffect :=
  match c.phase with
  | .claiming | .awaitingFramework | .restoreStuck | .needsReplug => [.endHold]
  | .routed | .direct => []

/-- A physical unplug wins from any phase: tear down and forget. -/
def unplug (c : UsbController) : Reduction := ⟨none, removePlaceholder c ++ endHoldOnUnplug c⟩

def reduce (c : UsbController) (event : UsbEvent) : Reduction :=
  if event = .usbUnplugged then unplug c
  else
    match c.phase with
    | .routed => reduceRouted c event
    | .claiming => reduceClaiming c event
    | .direct => reduceDirect c event
    | .awaitingFramework => reduceAwaiting c event
    | .restoreStuck => reduceRestoreStuck c event
    | .needsReplug => reduceNeedsReplug c event

end UsbController

/-- A controller waiting for its framework device settles when the device is seen present, whatever
edge was missed. -/
def shouldSettleAwaitingFramework (phase : UsbPhase) (frameworkPresent : Bool) : Bool :=
  phase == .awaitingFramework && frameworkPresent

/-- A remembered pick wins; a known model with no earlier failure goes Direct on its own. -/
def resolvePathChoice (stored : Option PathChoice) (isFastLaneModel : Bool)
    (priorFailure : Option DirectClaimFailure) : PathChoice :=
  match stored with
  | some choice => choice
  | none => if isFastLaneModel && priorFailure.isNone then .direct else .standard

end Dish
