/-
The update checker's machine.

Dish never installs an update itself: the machine stops at telling the user of one.  It takes one
event at a time and hands its effects back as data, for the checker to run against the network and
its one timer.  Versions are ordered by their parsed triple only.
-/
import Mathlib.Algebra.Order.Ring.Int
import Mathlib.Data.List.Basic

namespace Dish

/-! ### Versions -/

structure UpdateVersion where
  major : Nat
  minor : Nat
  patch : Nat

/-- One dotted component: not empty, digits only, and it fits an `int`. -/
def parseComponent (part : List Char) : Option Nat :=
  if part.isEmpty ∨ ¬ part.all Char.isDigit then none
  else
    let value := part.foldl (fun value ch => 10 * value + (ch.toNat - 48)) 0
    if value < 2 ^ 31 then some value else none

def UpdateVersion.parse (text : String) : Option UpdateVersion :=
  match text.toList.splitOn '.' with
  | [major, minor, patch] => do
      return ⟨← parseComponent major, ← parseComponent minor, ← parseComponent patch⟩
  | _ => none

def UpdateVersion.less (a b : UpdateVersion) : Bool :=
  a.major < b.major ||
    (a.major == b.major && (a.minor < b.minor || (a.minor == b.minor && a.patch < b.patch)))

/-- Both parse and the candidate is the greater: malformed text is never newer. -/
def isStrictlyNewer (candidate baseline : String) : Bool :=
  match UpdateVersion.parse candidate, UpdateVersion.parse baseline with
  | some c, some b => b.less c
  | _, _ => false

/-! ### Status, events and effects -/

inductive UpdatePhase where
  | disabled | idle | checking | upToDate | available | failed
  deriving DecidableEq, Repr

inductive UpdateError where
  | none | offline | http | manifestInvalid
  deriving DecidableEq, Repr

inductive UpdateNotice where
  | available | unsupported
  deriving DecidableEq, Repr

inductive UpdateTrigger where
  | startup | periodic | manual | retry
  deriving DecidableEq, Repr

structure UpdateStatus where
  phase : UpdatePhase := .idle
  currentVersion : String := ""
  availableVersion : String := ""
  notesUrl : String := ""
  minimumSupportedVersion : String := ""
  consecutiveFailures : Int := 0
  error : UpdateError := .none
  checksEnabled : Bool := true
  /-- The running version is below the supported minimum. -/
  required : Bool := false
  skippedVersion : String := ""
  online : Bool := true
  deriving DecidableEq, Repr

/-- What the machine reads of a manifest. -/
structure UpdateManifest where
  version : String
  minimumSupportedVersion : String
  releaseNotesUrl : String
  deriving DecidableEq, Repr

inductive UpdateEvent where
  | prefsChanged (checksEnabled : Bool) (skippedVersion : String)
  | checkRequested (trigger : UpdateTrigger)
  | manifestArrived (manifest : UpdateManifest)
  | checkFailed (error : UpdateError)
  | skipRequested (version : String)
  | reachabilityChanged (online : Bool)
  deriving DecidableEq, Repr

inductive UpdateEffect where
  | fetchManifest (manual : Bool)
  | scheduleNextCheck (delayMs : Int)
  | persistLastCheck
  | notify (notice : UpdateNotice) (version : String)
  deriving DecidableEq, Repr

structure UpdateReduction where
  next : UpdateStatus
  effects : List UpdateEffect := []

/-! ### Scheduling -/

namespace UpdateSchedule

def kStartupDelayMs : Int := 15000
def kPeriodicIntervalMs : Int := 4 * 60 * 60 * 1000
def kBackoffBaseMs : Int := 10 * 60 * 1000
def kBackoffCapMs : Int := 6 * 60 * 60 * 1000
def kReconnectCheckDelayMs : Int := 30000

/-- The delay doubled `n` times, up to the cap. -/
def doubledDelayMs : Nat → Int → Int
  | 0, delay => delay
  | n + 1, delay =>
    if delay * 2 ≥ kBackoffCapMs then kBackoffCapMs else doubledDelayMs n (delay * 2)

/-- `failures` counts the one just recorded. -/
def backoffDelayMs (failures : Int) : Int :=
  if failures ≤ 1 then kBackoffBaseMs else doubledDelayMs (failures - 1).toNat kBackoffBaseMs

end UpdateSchedule

/-! ### The arms of the reducer -/

namespace UpdateStatus

variable (s : UpdateStatus)

def settleFailure (error : UpdateError) : UpdateReduction where
  next := { s with
    consecutiveFailures := s.consecutiveFailures + 1
    phase := .failed
    error := error }
  effects := [.scheduleNextCheck (UpdateSchedule.backoffDelayMs (s.consecutiveFailures + 1))]

def onPrefsChanged (checksEnabled : Bool) (skippedVersion : String) : UpdateReduction :=
  let n := { s with checksEnabled := checksEnabled, skippedVersion := skippedVersion }
  if !checksEnabled then ⟨{ n with phase := .disabled, error := .none }, []⟩
  else if s.phase = .disabled then
    ⟨{ n with phase := .idle }, [.scheduleNextCheck UpdateSchedule.kStartupDelayMs]⟩
  else ⟨n, []⟩

def onCheckRequested (trigger : UpdateTrigger) : UpdateReduction :=
  if s.phase = .disabled ∨ s.phase = .checking then ⟨s, []⟩
  else if !s.online then s.settleFailure .offline
  else ⟨{ s with phase := .checking }, [.fetchManifest (trigger == .manual)]⟩

def onManifestArrived (m : UpdateManifest) : UpdateReduction :=
  if s.phase ≠ .checking then ⟨s, []⟩
  else
    let n := { s with
      minimumSupportedVersion := m.minimumSupportedVersion
      required := isStrictlyNewer m.minimumSupportedVersion s.currentVersion
      consecutiveFailures := 0
      error := .none }
    let newer := isStrictlyNewer m.version s.currentVersion
    let skipped := s.skippedVersion != "" && s.skippedVersion == m.version
    if !newer || (skipped && !n.required) then
      ⟨{ n with phase := .upToDate, availableVersion := "", notesUrl := "" },
        [.persistLastCheck, .scheduleNextCheck UpdateSchedule.kPeriodicIntervalMs]⟩
    else
      ⟨{ n with phase := .available, availableVersion := m.version, notesUrl := m.releaseNotesUrl },
        [.persistLastCheck] ++ (if n.required then [.notify .unsupported m.version] else []) ++
          [.notify .available m.version, .scheduleNextCheck UpdateSchedule.kPeriodicIntervalMs]⟩

def onCheckFailed (error : UpdateError) : UpdateReduction :=
  if s.phase ≠ .checking then ⟨s, []⟩ else s.settleFailure error

/-- A required update cannot be skipped. -/
def onSkipRequested (version : String) : UpdateReduction :=
  if s.required || version == "" then ⟨s, []⟩
  else
    let n := { s with skippedVersion := version }
    if s.availableVersion = version then
      ⟨{ n with phase := .upToDate, availableVersion := "", notesUrl := "" }, []⟩
    else ⟨n, []⟩

def onReachabilityChanged (online : Bool) : UpdateReduction :=
  let n := { s with online := online }
  if online && (s.phase == .failed && s.error == .offline && s.checksEnabled) then
    ⟨n, [.scheduleNextCheck UpdateSchedule.kReconnectCheckDelayMs]⟩
  else ⟨n, []⟩

end UpdateStatus

def reduceUpdate (s : UpdateStatus) : UpdateEvent → UpdateReduction
  | .prefsChanged checksEnabled skippedVersion => s.onPrefsChanged checksEnabled skippedVersion
  | .checkRequested trigger => s.onCheckRequested trigger
  | .manifestArrived manifest => s.onManifestArrived manifest
  | .checkFailed error => s.onCheckFailed error
  | .skipRequested version => s.onSkipRequested version
  | .reachabilityChanged online => s.onReachabilityChanged online

end Dish
