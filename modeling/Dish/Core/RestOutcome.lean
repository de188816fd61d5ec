/-
The answers the satellite gives over REST and the verdicts the session logic acts
on: one classification for session calls, one for pairing, one for the approval
poll.  A status of 0 is the transport's sentinel for no response at all.
-/
import Dish.Core.Protocol

namespace Dish

/-! ### Answers -/

/-- Why the transport failed when no HTTP status exists. -/
inductive TransportFailure where
  | none
  | unreachable
  | refused
  | timedOut
  | tls
  | aborted
  | other
  deriving DecidableEq, Repr

/-- NOT_PAIRED and BAD_PROOF, the two terminal causes of a 401. -/
def isAuthFailureCode (code : String) : Bool := code == "NOT_PAIRED" || code == "BAD_PROOF"

/-- `models::SessionResponse`, the answer to a session PUT and its error body. -/
structure SessionResponse where
  connectionId : Option String := none
  token : Option String := none
  sessionSalt : Option String := none
  epoch : Int := 0
  protocolVersion : Nat := 1
  supportedProtocol : Nat := 0
  supportedProtocolMin : Nat := 0
  controllers : List ControllerApplyDto := []
  mouseGranted : Bool := false
  httpStatus : Nat := 0
  reachable : Bool := false
  failure : TransportFailure := .none
  deriving DecidableEq, Repr

/-- `models::ControllerPutResponse`, the answer to a controller PUT or DELETE. -/
structure ControllerPutResponse where
  epoch : Int := 0
  controller : Option ControllerApplyDto := none
  error : Option String := none
  code : Option String := none
  deriving DecidableEq, Repr

def ControllerPutResponse.unauthorized (r : ControllerPutResponse) : Bool :=
  r.code.any isAuthFailureCode

/-- `models::SessionViewDto`, the answer to a session GET. -/
structure SessionViewDto where
  connectionId : Option String := none
  epoch : Int := 0
  controllers : List SessionViewControllerDto := []
  mouseGranted : Bool := false
  code : Option String := none
  httpStatus : Nat := 0
  reachable : Bool := false
  deriving DecidableEq, Repr

def SessionViewDto.unauthorized (v : SessionViewDto) : Bool := v.code.any isAuthFailureCode

/-- `models::PairResponse`, the answer to a pair POST and to a status poll. -/
structure PairResponse where
  ok : Bool := false
  pending : Bool := false
  status : Option String := none
  error : Option String := none
  sharedKey : Option String := none
  httpStatus : Nat := 0
  reachable : Bool := false
  deriving DecidableEq, Repr

/-- One entry of the capability answer's backend list. -/
structure CapabilitiesBackendDto where
  available : Bool := false
  audio : Bool := false
  deriving DecidableEq, Repr

/-- The part of `models::CapabilitiesDto` the audio verdict is resolved from. -/
structure CapabilitiesDto where
  hasControllerAudioBlock : Bool := false
  controllerAudioEnabled : Bool := false
  controllerAudioMic : Bool := false
  controllerAudioSpeaker : Bool := false
  controllerAudioHapticAudio : Bool := false
  backends : List CapabilitiesBackendDto := []
  httpStatus : Nat := 0
  reachable : Bool := false
  deriving DecidableEq, Repr

structure HostAudioVerdict where
  mic : Bool
  speaker : Bool
  hapticAudio : Bool
  deriving DecidableEq, Repr

/-- A present block wins; haptics never take the per-backend fallback. -/
def resolveHostControllerAudio (caps : CapabilitiesDto) : HostAudioVerdict :=
  let enabled := caps.controllerAudioEnabled
  let anyBackendAudio := caps.backends.any fun b => b.available && b.audio
  if caps.hasControllerAudioBlock then
    ⟨enabled && caps.controllerAudioMic, enabled && caps.controllerAudioSpeaker,
      enabled && caps.controllerAudioHapticAudio⟩
  else ⟨anyBackendAudio, anyBackendAudio, false⟩

/-! ### Session verdicts -/

inductive RestVerdict where
  | ok
  | unauthorized
  | versionMismatch
  | shuttingDown
  | unreachable
  | serverError
  | identityChanged
  deriving DecidableEq, Repr

/-- `classifyRest` on the session answer and whether the pin gate aborted it. -/
def classifyRest (r : SessionResponse) (pinMismatch : Bool) : RestVerdict :=
  if pinMismatch then .identityChanged
  else if r.httpStatus = 0 ∨ !r.reachable then .unreachable
  else if 200 ≤ r.httpStatus ∧ r.httpStatus ≤ 299 then .ok
  else if r.httpStatus = 401 then .unauthorized
  else if r.httpStatus = 409 then .versionMismatch
  else if r.httpStatus = 503 then .shuttingDown
  else .serverError

/-! ### Pairing verdicts -/

/-- `PairingOutcome::Arm`; a success carries the key. -/
inductive PairingOutcome where
  | success (sharedKeyHex : String)
  | pending
  | authRequired
  | versionMismatch
  | unreachable
  | identityChanged
  deriving DecidableEq, Repr

def PairingOutcome.isSuccess : PairingOutcome → Bool
  | .success _ => true
  | _ => false

/-- `PairingOutcome::classify`: an ok without a key is no success. -/
def PairingOutcome.classify (r : PairResponse) (pinMismatch : Bool) : PairingOutcome :=
  if pinMismatch then .identityChanged
  else if r.httpStatus = 409 then .versionMismatch
  else if r.httpStatus = 0 ∨ !r.reachable then .unreachable
  else if r.ok ∧ (r.sharedKey.getD "") ≠ "" then .success (r.sharedKey.getD "")
  else if r.pending then .pending
  else .authRequired

inductive ApprovalVerdict where
  | approved
  | pending
  | declined
  | unreachable
  deriving DecidableEq, Repr

/-- `classifyApproval`: a "none" after a "pending" is a refusal. -/
def classifyApproval (r : PairResponse) (sawPending : Bool) : ApprovalVerdict :=
  let statusStr := r.status.getD ""
  if r.httpStatus = 0 ∨ !r.reachable then .unreachable
  else if statusStr = "approved" ∧ (r.sharedKey.getD "") ≠ "" then .approved
  else if statusStr = "denied" then .declined
  else if statusStr = "none" ∧ sawPending then .declined
  else .pending

end Dish
