/-
The bounded multi-producer, single-consumer queue.

Each cell carries a sequence that says whose turn it is.  A producer reads the position, then the
sequence of its cell, and claims the position with a compare-and-swap; a sequence that lags behind
means that the queue is full.  Every atomic access is a step of its own, so any interleaving of the
producers and the consumer is a run.  Positions are not cut to their 64 bits.

Beside the queue the state keeps the items claimed a cell for, the items offered, which count from
when the producer knows its push is taken or refused, and the items popped.
-/
import Mathlib.Logic.Function.Basic

namespace Dish

structure MpscCell (α : Type) where
  sequence : Nat
  item : Option α := none

/-- Where a thread stands in `push`. -/
inductive Producer (α : Type) where
  | idle
  | loadingPos (x : α)
  | loadingSequence (x : α) (pos : Nat)
  | claiming (x : α) (pos : Nat)
  | filling (x : α) (pos : Nat)
  | publishing (pos : Nat)
  | refusing

/-- Where the one consumer stands in `pop`. -/
inductive Consumer (α : Type) where
  | idle
  | loadingSequence (pos : Nat)
  | copying (pos : Nat)
  | freeing (pos : Nat) (x : Option α)
  | advancing (pos : Nat)

structure MpscQueue (α : Type) (capacity : Nat) where
  cells : Nat → MpscCell α := fun i => ⟨i, none⟩
  enqueuePos : Nat := 0
  dequeuePos : Nat := 0
  dropped : Nat := 0
  producers : Nat → Producer α := fun _ => .idle
  consumer : Consumer α := .idle
  claimed : List α := []
  offered : List α := []
  popped : List α := []

inductive MpscAction (α : Type) where
  | push (thread : Nat) (x : α)
  /-- The thread's next access; the weak compare-and-swap may fail for no reason. -/
  | produce (thread : Nat) (spurious : Bool)
  | pop
  | consume

namespace MpscQueue

variable {α : Type} {capacity : Nat}

/-- The cell of a position: the capacity is a power of two, and its mask the remainder. -/
def cell (q : MpscQueue α capacity) (pos : Nat) : MpscCell α := q.cells (pos % capacity)

def setCell (q : MpscQueue α capacity) (pos : Nat) (c : MpscCell α) : MpscQueue α capacity :=
  { q with cells := Function.update q.cells (pos % capacity) c }

def setProducer (q : MpscQueue α capacity) (t : Nat) (p : Producer α) : MpscQueue α capacity :=
  { q with producers := Function.update q.producers t p }

def setConsumer (q : MpscQueue α capacity) (c : Consumer α) : MpscQueue α capacity :=
  { q with consumer := c }

def claim (q : MpscQueue α capacity) (x : α) : MpscQueue α capacity :=
  { q with
    enqueuePos := q.enqueuePos + 1, claimed := q.claimed ++ [x], offered := q.offered ++ [x] }

def refuse (q : MpscQueue α capacity) (x : α) : MpscQueue α capacity :=
  { q with offered := q.offered ++ [x] }

def produce (q : MpscQueue α capacity) (t : Nat) (spurious : Bool) : MpscQueue α capacity :=
  match q.producers t with
  | .idle => q
  | .loadingPos x => q.setProducer t (.loadingSequence x q.enqueuePos)
  | .loadingSequence x pos =>
    let lag : Int := (q.cell pos).sequence - pos
    if lag = 0 then q.setProducer t (.claiming x pos)
    else if lag < 0 then (q.refuse x).setProducer t .refusing
    else q.setProducer t (.loadingPos x)
  | .claiming x pos =>
    if q.enqueuePos = pos ∧ !spurious then
      (q.claim x).setProducer t (.filling x pos)
    -- the failed compare-and-swap has loaded the position
    else q.setProducer t (.loadingSequence x q.enqueuePos)
  | .filling x pos =>
    (q.setCell pos { q.cell pos with item := some x }).setProducer t (.publishing pos)
  | .publishing pos =>
    (q.setCell pos { q.cell pos with sequence := pos + 1 }).setProducer t .idle
  | .refusing => ({ q with dropped := q.dropped + 1 } : MpscQueue α capacity).setProducer t .idle

/-- The cell is free for the next turn, and its item popped. -/
def free (q : MpscQueue α capacity) (pos : Nat) (x : Option α) : MpscQueue α capacity :=
  { q.setCell pos { q.cell pos with sequence := pos + capacity } with
    consumer := .advancing pos, popped := q.popped ++ x.toList }

def consume (q : MpscQueue α capacity) : MpscQueue α capacity :=
  match q.consumer with
  | .idle => q
  | .loadingSequence pos =>
    if (q.cell pos).sequence ≠ pos + 1 then q.setConsumer .idle
    else q.setConsumer (.copying pos)
  | .copying pos => q.setConsumer (.freeing pos (q.cell pos).item)
  | .freeing pos x => q.free pos x
  | .advancing pos => { q with dequeuePos := pos + 1, consumer := .idle }

def step (q : MpscQueue α capacity) : MpscAction α → MpscQueue α capacity
  | .push t x => match q.producers t with
    | .idle => q.setProducer t (.loadingPos x)
    | _ => q
  | .produce t spurious => q.produce t spurious
  | .pop => match q.consumer with
    | .idle => q.setConsumer (.loadingSequence q.dequeuePos)
    | _ => q
  | .consume => q.consume

/-- The cells freed: the consumer frees a cell before it moves on. -/
def freed (q : MpscQueue α capacity) : Nat :=
  match q.consumer with
  | .advancing pos => pos + 1
  | _ => q.dequeuePos

/-- What waits: the items whose cells are claimed and not freed, oldest first. -/
def waiting (q : MpscQueue α capacity) : List α := q.claimed.drop q.freed

end MpscQueue

end Dish
