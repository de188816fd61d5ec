/-
The decisions the session manager takes from a rejection, a close notice or an approval
poll, as pure functions: which protocol version to offer next, whether a closed session
is tried again, when a retry is due, and what an approval request does next.
-/
import Dish.Core.RestOutcome

namespace Dish

/-! ### Protocol version -/

inductive ProtocolVerdict where
  | settled
  | retryLower
  | updateDish
  | updateSatellite
  | unusable
  deriving DecidableEq, Repr

/-- `settleRejected`: the verdict of a 409, and the version to offer next. -/
def settleRejected (supported supportedMin : Nat) : ProtocolVerdict × Nat :=
  if supported = 0 ∨ supportedMin = 0 ∨ supported < supportedMin then
    (.unusable, kProtocolVersion)
  else if kProtocolVersion < supportedMin then (.updateDish, kProtocolVersion)
  else if supported < kProtocolVersionMin then (.updateSatellite, kProtocolVersion)
  else (.retryLower, min supported kProtocolVersion)

/-! ### Close notices -/

def kCloseReasonReplaced : Nat := 2
def kCloseReasonUnpaired : Nat := 3

inductive CloseAction where
  | dropKeyRePair
  | stayDown
  | retryBackoff
  deriving DecidableEq, Repr

/-- `closeActionForReason`: an unknown reason is transient. -/
def closeActionForReason (reason : Nat) : CloseAction :=
  if reason = kCloseReasonUnpaired then .dropKeyRePair
  else if reason = kCloseReasonReplaced then .stayDown
  else .retryBackoff

/-! ### Backoff -/

def kBackoffBaseMs : Nat := 1000
def kBackoffMaxMs : Nat := 60000
def kBackoffMaxShift : Nat := 6

/-- `backoffDelayMs`, from the first attempt on. -/
def backoffDelayMs (attempt : Nat) : Nat :=
  min (kBackoffBaseMs * 2 ^ min (attempt - 1) kBackoffMaxShift) kBackoffMaxMs

/-! ### Approval -/

inductive ReversePairingAction where
  | approve
  | decline
  | keepPolling
  | timeOut
  deriving DecidableEq, Repr

/-- `nextReversePairingAction`: the deadline is inclusive and a refusal never waits. -/
def nextReversePairingAction (approval : ApprovalVerdict) (elapsedMs deadlineMs : Nat) :
    ReversePairingAction :=
  match approval with
  | .approved => .approve
  | .declined => .decline
  | .pending | .unreachable => if deadlineMs ≤ elapsedMs then .timeOut else .keepPolling

def kReversePinDigits : Nat := 4

/-- The `n` last decimal digits of a number, zero-padded. -/
def lastDigits : (n v : Nat) → List Char
  | 0, _ => []
  | n + 1, v => lastDigits n (v / 10) ++ [Nat.digitChar (v % 10)]

/-- `formatReversePin`: any draw gives exactly four digits. -/
def formatReversePin (raw : Nat) : String :=
  String.ofList (lastDigits kReversePinDigits (raw % 10 ^ kReversePinDigits))

end Dish
