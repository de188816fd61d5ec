/-
The hand-off of the speaker playout engine.

The receive threads copy each frame onto the playout thread's queue, and the playout thread pops
them one at a time.  Each access to the ring is a step, so any interleaving of the threads is a run.
-/
import Dish.Core.MpscQueue
import Dish.Core.Protocol

namespace Dish

def kPlayoutPendingFrames : Nat := 8

def kMaxConnectionIdBytes : Nat := 96

def kAudioWireMaxOpusBytes : Nat := kUdpMaxInnerPayloadBytes - 3

inductive PlayoutLane where
  | speaker
  | haptic
  deriving DecidableEq, Repr

structure PendingFrame where
  connectionId : String
  controllerIndex : Int
  lane : PlayoutLane
  seq : UInt16
  opus : List UInt8
  deriving DecidableEq, Repr

/-- What `deliver` checks before it queues the frame. -/
def PendingFrame.fits (frame : PendingFrame) : Bool :=
  !frame.opus.isEmpty && frame.connectionId.utf8ByteSize ≤ kMaxConnectionIdBytes &&
    frame.opus.length ≤ kAudioWireMaxOpusBytes

/-- The queue between the threads. -/
abbrev PendingFrames := MpscQueue PendingFrame kPlayoutPendingFrames

namespace PendingFrames

inductive Action where
  /-- A receive thread calls `deliver`. -/
  | deliver (thread : Nat) (frame : PendingFrame)
  /-- The next access of a thread inside `deliver`. -/
  | produce (thread : Nat) (spurious : Bool)
  /-- The playout thread calls `pop`. -/
  | pop
  /-- The next access of the playout thread inside `pop`. -/
  | consume

def step (q : PendingFrames) : Action → PendingFrames
  | .deliver t frame => if frame.fits then MpscQueue.step q (.push t frame) else q
  | .produce t spurious => MpscQueue.step q (.produce t spurious)
  | .pop => MpscQueue.step q .pop
  | .consume => MpscQueue.step q .consume

end PendingFrames

end Dish
