/-
`OutputWorker`, one atomic access at a time.

Any number of threads post feedback or stop the worker, and the worker's own thread takes what is
pending and writes it to the pad.  They share the mailbox (the writer flag, the seqlock with the
record's words, the pending bits), the wake-up (`sleeping_` and the semaphore) and `stopping_`.
Each step below is one access to one of those, with the thread-local work that follows it, so a
run is any interleaving of the threads.  `beginWrite` and `endWrite` load the generation and store
it again; only the thread that holds the writer flag stores it, so the two are one step.  A
`compare_exchange_weak` that fails, spuriously or not, is a step that changes nothing.

The generation is counted without a bound.  The code keeps it in 32 bits, and every comparison
below is made on the residue, as it is there.  The fields `log` and `takes` are not in the source:
they record the posts in the order their writes were closed, and the successful takes.
-/
import Dish.Lib.Run
import Dish.Lib.Seqlock
import Dish.Core.OutputMailbox
import Dish.Usb.PadFirmware

namespace Dish

open Seqlock

/-! ### What the worker writes to the pad -/

def kMaxOutputReportBytes : Nat := 63

/-- `OutputMailbox::Taken`. -/
structure Taken where
  kinds : UInt32 := 0
  state : OutputState := {}

/-- The worker thread's own: the shadow the builders keep, the packet counter and the buffer, with
the reports the pad took and the counts. -/
structure ReportWriter where
  state : FeedbackState := {}
  seq : UInt8 := 0
  report : Buffer := fun _ => 0
  sent : List (Nat × Buffer) := []
  writes : UInt64 := 0
  failedWrites : UInt64 := 0

namespace ReportWriter

/-- The Switch Pro takes a packet only when its low nibble advances. -/
def nextSeq (w : ReportWriter) : ReportWriter := { w with seq := (w.seq + 1) &&& 0x0F }

/-- A report of length 0 was not built, and counts as failed. -/
def writeReport (w : ReportWriter) (n : Nat) (accepted : Bool) : ReportWriter :=
  if n ≠ 0 ∧ accepted then { w with sent := w.sent ++ [(n, w.report)], writes := w.writes + 1 }
  else { w with failedWrites := w.failedWrites + 1 }

/-- The builder of the kind and what it is given. -/
def requestOf (s : OutputState) (seq : UInt8) : OutputKind → FeedbackRequest
  | .rumble => .rumble s.strong s.weak seq
  | .lightbar => .lightbar s.r s.g s.b
  | .triggerEffects => .triggerEffects s.leftTrigger s.rightTrigger
  | .playerLeds => .playerLeds s.ledMask seq
  | .micLed => .micMuteLed s.micLedState

def writeKind (parser : HidParser) (s : OutputState) (accepts : OutputKind → Bool)
    (w : ReportWriter) (k : OutputKind) : ReportWriter :=
  -- the two kinds a Switch Pro numbers draw a counter, whatever the family
  let w := match k with
    | .rumble | .playerLeds => w.nextSeq
    | _ => w
  let call : FeedbackCall := ⟨parser, requestOf s w.seq k, w.report, kMaxOutputReportBytes⟩
  let (state, n, report) := call.build w.state
  writeReport { w with state, report } n (accepts k)

/-- One report per pending kind, in a fixed order, each from the newest state the mailbox held. -/
def writeTaken (parser : HidParser) (taken : Taken) (accepts : OutputKind → Bool)
    (w : ReportWriter) : ReportWriter :=
  ([.rumble, .lightbar, .triggerEffects, .playerLeds, .micLed].filter
      fun k => decide (HasKind taken.kinds k)).foldl
    (writeKind parser taken.state accepts) { w with report := fun _ => 0 }

end ReportWriter

/-! ### Threads -/

/-- The call a notifying thread is in. -/
inductive Notifier where
  | post
  | stop
  deriving DecidableEq, Repr

/-- A thread in one of the `post`s or in `stop`, at the access it is about to make. -/
inductive Caller where
  | idle
  /-- `writer_.compare_exchange_weak` -/
  | claiming (p : OutputPost)
  /-- `state_.load()` -/
  | loading (p : OutputPost) (words : Nat → OutputState.Word) (i : Nat)
  /-- `state_.store(next)`, the write open -/
  | storing (p : OutputPost) (next : OutputState) (i : Nat)
  /-- `pending_.fetch_or(kind)` -/
  | marking (p : OutputPost)
  /-- `writer_.store(0)` -/
  | freeing
  /-- `stopping_.exchange(true)` -/
  | stopping
  /-- `notify`: `sleeping_.load()` -/
  | looking (n : Notifier)
  /-- `notify`: `sleeping_.exchange(false)` -/
  | waking (n : Notifier)
  /-- `notify`: `wake_.release()` -/
  | releasing (n : Notifier)
  /-- `thread_.join()` -/
  | joining

/-- Where a caller goes when its `notify` is done. -/
def Notifier.after : Notifier → Caller
  | .post => .idle
  | .stop => .joining

/-- The worker's thread in `run`, at the access it is about to make. -/
inductive Worker where
  /-- the loop's `stopping_.load()` -/
  | checking
  /-- `sleepUnless`: `sleeping_.store(true)` -/
  | announcing
  /-- `hasWork`: `stopping_.load()` -/
  | askingStop
  /-- `hasWork`: `pending_.load()` -/
  | askingPending
  /-- `wake_.acquire()` -/
  | acquiring
  /-- `sleepUnless`: `sleeping_.store(false)` -/
  | rising
  /-- `take`: `pending_.exchange(0)` -/
  | taking
  /-- `take`: the seqlock's first look at the generation -/
  | noting (kinds : UInt32)
  /-- `take`: the words, and then the second look -/
  | copying (kinds : UInt32) (copy : Copy OutputState.Word)
  /-- `take`: `pending_.fetch_or(kinds)` -/
  | restoring (kinds : UInt32)
  /-- `writeTaken` -/
  | writing (taken : Taken)
  | exited

/-- A successful take, with the number of posts whose writes were closed when the generation it
was read under was noted. -/
structure Take where
  taken : Taken
  posts : Nat

/-! ### State -/

structure OutputWorker where
  parser : HidParser
  writer : Bool := false
  cell : Cell OutputState.Word := ⟨0, OutputState.word {}⟩
  pending : UInt32 := 0
  sleeping : Bool := false
  /-- The semaphore's count. -/
  wake : Nat := 0
  stopping : Bool := false
  callers : Nat → Caller := fun _ => .idle
  worker : Worker := .checking
  own : ReportWriter := {}
  log : List OutputPost := []
  takes : List Take := []

namespace OutputWorker

/-- The worker as it is built, its thread at the loop's head. -/
def started (parser : HidParser) : OutputWorker := { parser }

/-- What happens next: a thread calls one of the posts or `stop`, a calling thread makes its next
access, or the worker's thread does.  `accepts` says which reports the pad takes.  The worker's own
`postRumble` posts a duration of 0. -/
inductive Action where
  | post (t : Nat) (p : OutputPost)
  | stop (t : Nat)
  | caller (t : Nat)
  | worker (accepts : OutputKind → Bool)

def setCaller (s : OutputWorker) (t : Nat) (c : Caller) : OutputWorker :=
  { s with callers := Function.update s.callers t c }

/-- The next access of a calling thread. -/
def stepCaller (s : OutputWorker) (t : Nat) : OutputWorker :=
  match s.callers t with
  | .idle => s
  | .claiming p =>
    if s.writer then s
    else { s with writer := true }.setCaller t (.loading p (fun _ _ => 0) 0)
  | .loading p words i =>
    if i < OutputState.kWords then
      s.setCaller t (.loading p (Function.update words i (s.cell.words i)) (i + 1))
    else
      -- the edit is the thread's own, and `beginWrite` follows it
      { s with cell := s.cell.bump }.setCaller t (.storing p (p.edit (.ofWords words)) 0)
  | .storing p next i =>
    if i < OutputState.kWords then
      { s with cell := s.cell.store i (next.word i) }.setCaller t (.storing p next (i + 1))
    else { s with cell := s.cell.bump, log := s.log ++ [p] }.setCaller t (.marking p)
  | .marking p => { s with pending := s.pending ||| p.kind.bit }.setCaller t .freeing
  | .freeing => { s with writer := false }.setCaller t (.looking .post)
  | .stopping =>
    { s with stopping := true }.setCaller t (if s.stopping then .joining else .looking .stop)
  | .looking n => s.setCaller t (if s.sleeping then .waking n else n.after)
  | .waking n =>
    { s with sleeping := false }.setCaller t (if s.sleeping then .releasing n else n.after)
  | .releasing n => { s with wake := s.wake + 1 }.setCaller t n.after
  | .joining =>
    match s.worker with
    | .exited => s.setCaller t .idle
    | _ => s

/-- The next access of the worker's thread. -/
def stepWorker (s : OutputWorker) (accepts : OutputKind → Bool) : OutputWorker :=
  match s.worker with
  | .checking => { s with worker := if s.stopping then .exited else .announcing }
  | .announcing => { s with sleeping := true, worker := .askingStop }
  | .askingStop => { s with worker := if s.stopping then .rising else .askingPending }
  | .askingPending => { s with worker := if s.pending = 0 then .acquiring else .rising }
  | .acquiring => if s.wake = 0 then s else { s with wake := s.wake - 1, worker := .rising }
  | .rising => { s with sleeping := false, worker := .taking }
  | .taking =>
    { s with pending := 0, worker := if s.pending = 0 then .checking else .noting s.pending }
  | .noting kinds =>
    { s with worker := if s.cell.gen % 2 ^ 32 % 2 ≠ 0 then .restoring kinds
                       else .copying kinds (Copy.start s.cell) }
  | .copying kinds copy =>
    if copy.next < OutputState.kWords then
      { s with worker := .copying kinds (copy.load s.cell) }
    else if s.cell.gen % 2 ^ 32 = copy.before % 2 ^ 32 then
      let taken : Taken := ⟨kinds, .ofWords copy.words⟩
      { s with worker := .writing taken, takes := s.takes ++ [⟨taken, copy.before / 2⟩] }
    else { s with worker := .restoring kinds }
  | .restoring kinds => { s with pending := s.pending ||| kinds, worker := .checking }
  | .writing taken =>
    { s with worker := .checking, own := s.own.writeTaken s.parser taken accepts }
  | .exited => s

def step (s : OutputWorker) : Action → OutputWorker
  | .post t p => match s.callers t with
      | .idle => s.setCaller t (.claiming p)
      | _ => s
  | .stop t => match s.callers t with
      | .idle => s.setCaller t .stopping
      | _ => s
  | .caller t => s.stepCaller t
  | .worker accepts => s.stepWorker accepts

end OutputWorker

end Dish
