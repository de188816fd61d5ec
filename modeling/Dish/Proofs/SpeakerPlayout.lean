/-
Which frames wait for the playout thread.

The ring of the queue is a bounded queue in every interleaving of the receive threads and the playout
thread.  As long as no frame finds it full, the frames that wait are the last ones delivered.  A full
queue refuses the new frame and keeps the old ones.
-/
import Dish.Audio.SpeakerPlayoutEngine
import Dish.Lib.Run
import Dish.Proofs.MpscQueue

namespace Dish.PendingFrames

open MpscQueue Steps

variable {q : PendingFrames} {a : Action}

/-- A thread that looks for its cell finds fewer frames waiting than the queue can hold. -/
def HasRoom (q : PendingFrames) : Action → Prop
  | .produce t _ => ∀ x pos, q.producers t = .loadingSequence x pos →
      q.waiting.length < kPlayoutPendingFrames
  | _ => True

/-- The queue is sound, and its frames are the last ones offered to it. -/
def Fresh (q : PendingFrames) : Prop := Inv q ∧ q.toBounded.Newest

theorem Fresh.mpsc (fresh : Fresh q) (a : MpscAction PendingFrame)
    (room : ∀ t spurious x pos, a = .produce t spurious → q.producers t = .loadingSequence x pos →
      q.waiting.length < kPlayoutPendingFrames) : Fresh (MpscQueue.step q a) := by
  obtain ⟨inv, newest⟩ := fresh
  refine ⟨inv.step (by decide) a, newest.step (inv.refines (by decide) a) ?_⟩
  intro full
  by_contra offered
  obtain ⟨t, spurious, x, pos, is, looks⟩ := inv.looks_of_offered (by decide) full offered
  exact absurd full (Nat.not_le.mpr (room t spurious x pos is looks))

theorem Fresh.step (fresh : Fresh q) (room : q.HasRoom a) : Fresh (q.step a) := by
  cases a with
  | deliver t frame =>
    unfold PendingFrames.step
    dsimp only
    split
    · exact fresh.mpsc (.push t frame) nofun
    · exact fresh
  | produce t spurious =>
    refine fresh.mpsc (.produce t spurious) fun t' spurious' x pos is looks => ?_
    cases is
    exact room x pos looks
  | pop => exact fresh.mpsc .pop nofun
  | consume => exact fresh.mpsc .consume nofun

/-- One thread's whole call, undisturbed. -/
def deliverAlone (frame : PendingFrame) : List Action :=
  .deliver 0 frame :: List.replicate 5 (.produce 0 false)

def numbered (seq : UInt16) : PendingFrame := ⟨"host", 0, .speaker, seq, [1]⟩

end Dish.PendingFrames
