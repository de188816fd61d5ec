/-
The device registry of `GamepadInputProcessor`: `find`, `add` and `remove` over the
record array, one atomic access at a time.

Any number of threads call into the registry.  Each has a program counter of its own,
and one `advance` of a thread is one access to the shared records: a load of a
record's state, the exchange that claims it, the two ends of a seqlock read or write,
the store of the id or of a state.  Everything between two accesses is local to the
thread and is folded into the access before it.

A record carries one thing the source does not keep, `claim`: who claimed it and for
which id.  It is set by the exchange that claims and cleared by the store that frees,
nothing in the code reads it, and the proofs read off it which records an id has.
`returned` is of the same kind: the indices `add` has answered for an id since its
last `remove`.
-/
import Dish.Lib.Run
import Mathlib.Algebra.Order.Ring.Int

namespace Dish

/-- The bytes of a device id. -/
abbrev DeviceId := List UInt8

def kMaxDevices : Nat := 64
def kMaxIdBytes : Nat := 63

/-- How often a lookup retries a read that a write interrupted. -/
def kReadAttempts : Nat := 10000

namespace Registry

inductive RecordState where
  | free
  | claimed
  | live
deriving DecidableEq, Repr

/-- The registry's part of a record: its state, the id text and the seqlock over it. -/
structure Record (Thread : Type) where
  state : RecordState := .free
  idSeq : Nat := 0
  idText : DeviceId := []
  claim : Option (Thread × DeviceId) := none
deriving DecidableEq

/-! ### Comparing ids -/

/-- Where a thread is in `idMatches`: about to note the generation, or about to look at
it again with the text copied in between. -/
inductive IdRead where
  | noting (attempt : Nat)
  | closing (attempt before : Nat)
deriving DecidableEq, Repr

inductive IdMatch where
  | reading (r : IdRead)
  | answer (same : Bool)
deriving DecidableEq, Repr

/-- `readWithRetry`: the next attempt, or the answer "no" after the last one. -/
def IdRead.retry (attempt : Nat) : IdMatch :=
  if attempt + 1 < kReadAttempts then .reading (.noting (attempt + 1)) else .answer false

/-- One access of `idMatches`. -/
def idMatches {Thread : Type} (r : Record Thread) (id : DeviceId) : IdRead → IdMatch
  | .noting attempt =>
    if r.idSeq % 2 = 1 then IdRead.retry attempt else .reading (.closing attempt r.idSeq)
  | .closing attempt before =>
    if r.idSeq = before then .answer (r.idText = id) else IdRead.retry attempt

/-! ### The calls -/

/-- What a lookup is for. -/
inductive LookupFor where
  | find
  | add
  | remove
deriving DecidableEq, Repr

/-- Where a thread is in `find`'s loop body for one record. -/
inductive Lookup where
  | loading (i : Nat)
  | matching (i : Nat) (r : IdRead)
  | confirming (i : Nat)
deriving DecidableEq, Repr

/-- The access a call makes next. -/
inductive Pc where
  | looking (goal : LookupFor) (l : Lookup)
  | claiming (i : Nat)
  | opening (i : Nat)
  | writing (i : Nat)
  | closing (i : Nat)
  | publishing (i : Nat)
  | settling (i j : Nat)
  | comparing (i j : Nat) (r : IdRead)
  | givingBack (i j : Nat)
  | freeing (i : Nat)
deriving DecidableEq, Repr

structure Call where
  id : DeviceId
  pc : Pc
deriving DecidableEq, Repr

end Registry

open Registry in
structure Registry (Thread : Type) where
  records : Nat → Record Thread := fun _ => {}
  calls : Thread → Option Call := fun _ => none
  returned : DeviceId → List Nat := fun _ => []

namespace Registry

variable {Thread : Type} [DecidableEq Thread]

def goto (s : Registry Thread) (t : Thread) (id : DeviceId) (pc : Pc) : Registry Thread :=
  { s with calls := Function.update s.calls t (some ⟨id, pc⟩) }

/-- The call of `t` is over. -/
def finish (s : Registry Thread) (t : Thread) : Registry Thread :=
  { s with calls := Function.update s.calls t none }

/-- `add` returns the index `i`. -/
def returns (s : Registry Thread) (t : Thread) (id : DeviceId) (i : Nat) : Registry Thread :=
  { s.finish t with returned := Function.update s.returned id (i :: s.returned id) }

/-- `remove` returns. -/
def removed (s : Registry Thread) (t : Thread) (id : DeviceId) : Registry Thread :=
  { s.finish t with returned := Function.update s.returned id [] }

def modify (s : Registry Thread) (i : Nat) (f : Record Thread → Record Thread) :
    Registry Thread :=
  { s with records := Function.update s.records i (f (s.records i)) }

/-- The lookup found record `i`. -/
def found (s : Registry Thread) (t : Thread) (id : DeviceId) (i : Nat) :
    LookupFor → Registry Thread
  | .find => s.finish t
  | .add => s.returns t id i
  | .remove => s.goto t id (.freeing i)

/-- The lookup came to the end of the array. -/
def notFound (s : Registry Thread) (t : Thread) (id : DeviceId) : LookupFor → Registry Thread
  | .find => s.finish t
  | .add => s.goto t id (.claiming 0)
  | .remove => s.removed t id

/-- `find`'s loop goes on from record `i`. -/
def findNext (s : Registry Thread) (t : Thread) (id : DeviceId) (goal : LookupFor) (i : Nat) :
    Registry Thread :=
  if i + 1 < kMaxDevices then s.goto t id (.looking goal (.loading (i + 1)))
  else s.notFound t id goal

/-- `add`'s claiming loop goes on from record `i`; past the last one it returns nothing. -/
def claimNext (s : Registry Thread) (t : Thread) (id : DeviceId) (i : Nat) : Registry Thread :=
  if i + 1 < kMaxDevices then s.goto t id (.claiming (i + 1)) else s.finish t

/-- `add`'s settling loop at record `j`, below its own record `i`; at `i` it is done. -/
def settle (s : Registry Thread) (t : Thread) (id : DeviceId) (i j : Nat) : Registry Thread :=
  if j < i then s.goto t id (.settling i j) else s.returns t id i

/-- The two ends of a seqlock write: the generation moves on by one. -/
def bump (r : Record Thread) : Record Thread := { r with idSeq := (r.idSeq + 1) % 2 ^ 32 }

def free (r : Record Thread) : Record Thread := { r with state := .free, claim := none }

/-- One access of a lookup. -/
def look (s : Registry Thread) (t : Thread) (id : DeviceId) (goal : LookupFor) :
    Lookup → Registry Thread
  | .loading i =>
    if (s.records i).state = .live then
      s.goto t id (.looking goal (.matching i (.noting 0)))
    else s.findNext t id goal i
  | .matching i r =>
    match idMatches (s.records i) id r with
    | .reading r' => s.goto t id (.looking goal (.matching i r'))
    | .answer true => s.goto t id (.looking goal (.confirming i))
    | .answer false => s.findNext t id goal i
  | .confirming i =>
    if (s.records i).state = .live then s.found t id i goal else s.findNext t id goal i

/-- The next access of the call `t` is in. -/
def access (s : Registry Thread) (t : Thread) (id : DeviceId) : Pc → Registry Thread
  | .looking goal l => s.look t id goal l
  | .claiming i =>
    if (s.records i).state = .free then
      (s.modify i fun r => { r with state := .claimed, claim := some (t, id) }).goto t id
        (.opening i)
    else s.claimNext t id i
  | .opening i => (s.modify i bump).goto t id (.writing i)
  | .writing i => (s.modify i fun r => { r with idText := id }).goto t id (.closing i)
  | .closing i => (s.modify i bump).goto t id (.publishing i)
  | .publishing i => (s.modify i fun r => { r with state := .live }).settle t id i 0
  | .settling i j =>
    match (s.records j).state with
    -- The loop of `yield` and load: the thread stays where it is.
    | .claimed => s
    | .live => s.goto t id (.comparing i j (.noting 0))
    | .free => s.settle t id i (j + 1)
  | .comparing i j r =>
    match idMatches (s.records j) id r with
    | .reading r' => s.goto t id (.comparing i j r')
    | .answer true => s.goto t id (.givingBack i j)
    | .answer false => s.settle t id i (j + 1)
  | .givingBack i j => (s.modify i free).returns t id j
  | .freeing i => (s.modify i free).removed t id

end Registry

/-- What happens to the registry: a thread calls into it, or makes its next access. -/
inductive RegistryAction (Thread : Type) where
  | find (t : Thread) (id : DeviceId)
  | add (t : Thread) (id : DeviceId)
  | remove (t : Thread) (id : DeviceId)
  | advance (t : Thread)
deriving DecidableEq, Repr

namespace Registry

variable {Thread : Type} [DecidableEq Thread]

/-- A call begins at the first record, on a thread that is not in one already. -/
def start (s : Registry Thread) (t : Thread) (id : DeviceId) (goal : LookupFor) :
    Registry Thread :=
  match s.calls t with
  | none => s.goto t id (.looking goal (.loading 0))
  | some _ => s

def step (s : Registry Thread) : RegistryAction Thread → Registry Thread
  | .find t id => s.start t id .find
  -- An id too long for the text is turned away before any access.
  | .add t id => if kMaxIdBytes < id.length then s else s.start t id .add
  | .remove t id => s.start t id .remove
  | .advance t =>
    match s.calls t with
    | none => s
    | some c => s.access t c.id c.pc

end Registry

end Dish
