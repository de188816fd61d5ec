/-
The certificate check of every HTTPS call: trust on first use, by host address.

A certificate is its SHA-256 fingerprint in hex; two certificates with one fingerprint
are one certificate here.
-/
import Dish.Repository.ConnectionStore

namespace Dish

inductive TofuVerdict where
  | trustFirstUse
  | matched
  | mismatch
  deriving DecidableEq, Repr

def equalsIgnoreCaseAscii (a b : String) : Bool :=
  a.toList.map Char.toLower = b.toList.map Char.toLower

def tofuVerdict (stored : Option String) (presented : String) : TofuVerdict :=
  match stored with
  | none => .trustFirstUse
  | some stored => if equalsIgnoreCaseAscii stored presented then .matched else .mismatch

/-- What the check said; a refusal may be a pin mismatch. -/
inductive PeerCheck where
  | accepted
  | refused (pinMismatch : Bool)
  deriving DecidableEq, Repr

/--
`verifyPeerCertificate` for `host`, with the certificate presented, if any.  A changed
certificate is refused only where the pin guards a pairing; otherwise it is pinned anew.
-/
def verifyPeerCertificate (host : String) (store : ConnectionStore) (presented : Option String)
    (pinGuardsAPairing : Bool) : ConnectionStore × PeerCheck :=
  match presented with
  | none => (store, .refused false)
  | some presented =>
    match tofuVerdict (store.pinnedFingerprint host) presented with
    | .trustFirstUse => (store.pin host presented, .accepted)
    | .matched => (store, .accepted)
    | .mismatch =>
      if !pinGuardsAPairing then (store.pin host presented, .accepted)
      else (store, .refused true)

end Dish
