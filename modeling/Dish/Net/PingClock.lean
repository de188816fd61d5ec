/-
The clock of the heartbeat pings.

One stamp stands for the ping in flight.  The heartbeat thread sends a ping, reads the clock and sets
the stamp unless one is out that is young enough; an ack names no ping, and whichever comes first
takes the stamp.  Beside the stamp, the state keeps when each ping was sent, which of them set the
stamp, and the samples with the ping whose ack made them.  Times are microseconds.
-/
import Mathlib.Data.List.Basic

namespace Dish

def kLatencyRttMaxUs : Int := 5000000

/-- A stamp of 0 is none. -/
def shouldArmPing (outstandingUs nowUs : Int) : Bool :=
  outstandingUs = 0 || nowUs - outstandingUs ≥ kLatencyRttMaxUs

structure LatencySample where
  /-- The ping whose ack it is, and when the ack came. -/
  ping : Nat
  ackUs : Int
  /-- What is passed on to the window. -/
  rttUs : Int
  deriving DecidableEq, Repr

structure PingClock where
  pingSentUs : Int := 0
  sent : List Int := []
  armedBy : Nat := 0
  answered : List Nat := []
  samples : List LatencySample := []

inductive PingAction where
  /-- The heartbeat thread sends a ping. -/
  | send (sentUs : Int)
  /-- It reads the clock after that, and may arm the stamp. -/
  | arm (nowUs : Int)
  /-- The ack of a ping is received. -/
  | ack (ping : Nat) (nowUs : Int)

namespace PingClock

/-- The stamp is taken, so that a second ack does not count the ping again. -/
def recordAckLatency (s : PingClock) (ping : Nat) (nowUs : Int) : PingClock :=
  if s.pingSentUs = 0 then s
  else { s with
    pingSentUs := 0
    samples := s.samples ++ [⟨ping, nowUs, nowUs - s.pingSentUs⟩] }

def step (s : PingClock) : PingAction → PingClock
  | .send sentUs => { s with sent := s.sent ++ [sentUs] }
  | .arm nowUs =>
    if shouldArmPing s.pingSentUs nowUs then
      { s with pingSentUs := nowUs, armedBy := s.sent.length - 1 }
    else s
  | .ack ping nowUs => { s.recordAckLatency ping nowUs with answered := ping :: s.answered }

/-- Pings go out at increasing times, the clock is read after its ping, and a ping is answered once
at most, after it was sent. -/
def Possible (s : PingClock) : PingAction → Prop
  | .send sentUs => 0 < sentUs ∧ ∀ t ∈ s.sent, t < sentUs
  | .arm nowUs => ∃ sentUs ∈ s.sent.getLast?, sentUs ≤ nowUs
  | .ack ping nowUs => ping ∉ s.answered ∧ ∃ sentUs ∈ s.sent[ping]?, sentUs < nowUs

end PingClock

end Dish
