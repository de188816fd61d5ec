/-
The five phases of pairing with a Moonlight host.

One attempt walks the phases, each with one request.  Every start and every cancel counts the
attempts up, and a reply is heard only while the attempt its request was made in is the current
one.  The handshake's cryptography is not modelled: a reply comes with what the client's side of it
made of the reply.
-/

namespace Dish.Moonlight

inductive PairPhase where
  | getServerCert
  | clientChallenge
  | serverChallengeResp
  | clientPairingSecret
  | pairChallenge
  deriving Repr, DecidableEq

/-- A reply of the pairing handshake.  `field` says that the phase's own element is there,
`accepted` that the client took it, and `sealed` that the next request could be made. -/
structure PairReply where
  status : Int := 200
  paired : Bool := true
  field : Bool := true
  accepted : Bool := true
  sealed : Bool := true
  plaincert : String := ""
  deriving Repr, DecidableEq

structure PairingFlow where
  active : Bool := false
  attempt : Nat := 0
  hostUuid : String := ""
  address : String := ""
  httpPort : Int := 0
  httpsPort : Int := 0
  -- The certificate the first phase delivered.
  serverCertPem : String := ""
  deriving Repr, DecidableEq

/-- What a step of the flow asks for or raises. -/
inductive FlowOut where
  | request (phase : PairPhase)
  | finished (ok : Bool) (reasonToken serverCertPem : String)
  deriving Repr, DecidableEq

namespace PairingFlow

/-- The reply still belongs to the current attempt. -/
def current (flow : PairingFlow) (attempt : Nat) : Bool :=
  flow.active && attempt == flow.attempt

def fail (flow : PairingFlow) (reasonToken : String) : PairingFlow × Option FlowOut :=
  ({ flow with active := false }, some (.finished false reasonToken ""))

/-- `entropy` says whether the random material could be had. -/
def start (flow : PairingFlow) (hostUuid address : String) (httpPort httpsPort : Int)
    (entropy : Bool) : PairingFlow × Option FlowOut :=
  let flow : PairingFlow := {
    active := true
    attempt := flow.attempt + 1
    hostUuid := hostUuid
    address := address
    httpPort := httpPort
    httpsPort := httpsPort }
  if !entropy then flow.fail "crypto" else (flow, some (.request .getServerCert))

def cancel (flow : PairingFlow) : PairingFlow :=
  { flow with active := false, attempt := flow.attempt + 1 }

/-- The reason a refused phase gives: nothing came back, or the host said no. -/
def refusal (reply : PairReply) (declined : String) : String :=
  if reply.status = 0 then "unreachable" else declined

/-- The next phase, if the client's side of it could be computed. -/
def goOn (flow : PairingFlow) (reply : PairReply) (phase : PairPhase) :
    PairingFlow × Option FlowOut :=
  if !reply.sealed then flow.fail "crypto" else (flow, some (.request phase))

def onReply (flow : PairingFlow) (phase : PairPhase) (attempt : Nat) (reply : PairReply) :
    PairingFlow × Option FlowOut :=
  if !flow.current attempt then (flow, none)
  else
    let refused := reply.status ≠ 200 || !reply.paired
    match phase with
    | .getServerCert =>
      if refused then flow.fail (refusal reply "declined")
      else if !(reply.field && reply.accepted) then flow.fail "crypto"
      else { flow with serverCertPem := reply.plaincert }.goOn reply .clientChallenge
    | .clientChallenge =>
      if refused || !reply.field then flow.fail (refusal reply "declined")
      else if !reply.accepted then flow.fail "crypto"
      else (flow, some (.request .serverChallengeResp))
    | .serverChallengeResp =>
      if refused || !reply.field then flow.fail (refusal reply "declined")
      else if !reply.accepted then flow.fail "wrongPin"
      else flow.goOn reply .clientPairingSecret
    | .clientPairingSecret =>
      if refused then flow.fail (refusal reply "wrongPin")
      else (flow, some (.request .pairChallenge))
    | .pairChallenge =>
      if refused then flow.fail "unreachable"
      else ({ flow with active := false }, some (.finished true "" flow.serverCertPem))

theorem onReply_stale {flow : PairingFlow} {phase : PairPhase} {attempt : Nat} {reply : PairReply}
    (h : flow.current attempt = false) : flow.onReply phase attempt reply = (flow, none) := by
  simp [onReply, h]

end PairingFlow

end Dish.Moonlight
