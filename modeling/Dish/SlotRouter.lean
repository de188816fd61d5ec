/-
`SlotRouter`'s published route table and the threads that read it.

The GUI thread builds a table, stores its address where the readers load it and frees the
table it replaced once every bracket that may have seen it has closed.  There are two
addresses, `table_` for the device and receive threads and `mics_->table` for the mic
senders, each with brackets of its own.  The participants are numbered through: first the
128 of `grace_` (a device's index, then one for each session), then the 64 of the mic
senders', which is the order `republish` waits for them in.

A session's participant belongs to its satellite's id.  Its receive thread belongs to a
client: a connection that is opened again gets a new client, whose thread runs beside
that of the old one until the reaper has closed it.

Tables are numbered in the order they are built, so a freed one can be told from every
later one.
-/
import Dish.Lib.GraceEpoch
import Dish.Lib.Run
import Dish.Core.Models
import Dish.Input.GamepadInputProcessor

namespace Dish

def kDeviceParticipants : Nat := kMaxDevices
def kSessionParticipants : Nat := 64
def kMicSenders : Nat := 64

/-- The participants of `grace_`. -/
def kRouteParticipants : Nat := kDeviceParticipants + kSessionParticipants

/-- All participants `republish` waits for. -/
def kParticipants : Nat := kRouteParticipants + kMicSenders

/-! ### Which participant a session has -/

/-- The participant `installFeedbackHandlers` binds into the handlers of `id`, and the ids
that have one from then on.  The ids are kept in the order they got theirs; when all
participants are given out it installs nothing. -/
def installFeedbackHandlers (sessionParticipants : List SatelliteId) (id : SatelliteId) :
    List SatelliteId × Option Nat :=
  match sessionParticipants.idxOf? id with
  | some known => (sessionParticipants, some (kDeviceParticipants + known))
  | none =>
    if kSessionParticipants ≤ sessionParticipants.length then (sessionParticipants, none)
    else (sessionParticipants ++ [id], some (kDeviceParticipants + sessionParticipants.length))

/-! ### The readers and the publisher -/

/-- A thread that reads the table: the one that publishes a device, a client's receive
thread, the capture thread of the mic sender that has a participant. -/
inductive RouteReader where
  | device (index : Nat)
  | client (number : Nat)
  | mic (sender : Nat)
deriving DecidableEq, Repr

/-- A client whose receive thread calls the handlers of its connection. -/
structure RouteClient where
  connection : SatelliteId
  participant : Option Nat
  running : Bool
deriving DecidableEq, Repr

/-- Where the GUI thread is in `republish`. -/
inductive Publisher where
  | idle
  | storing (next : Nat)
  | storingMics (next : Nat)
  | loading (participant : Nat) (retired : Option Nat)
  | waiting (participant seen : Nat) (retired : Option Nat)
  | freeing (retired : Option Nat)
deriving DecidableEq, Repr

structure Routes where
  grace : GraceEpoch.State RouteReader Nat (Option Nat) :=
    ⟨fun _ => 0, fun _ => none, fun _ => none⟩
  sessionParticipants : List SatelliteId := []
  clients : List RouteClient := []
  taken : Nat → Bool := fun _ => false
  publisher : Publisher := .idle
  published : Option Nat := none
  built : Nat := 0
  freed : List Nat := []

inductive RouteAction where
  | install (id : SatelliteId)
  | connected (id : SatelliteId)
  | closed (number : Nat)
  | micSender
  | micSenderGone (sender : Nat)
  | enter (r : RouteReader)
  | load (r : RouteReader)
  | leave (r : RouteReader)
  | exit (r : RouteReader)
  | republish
  | publish
deriving DecidableEq, Repr

namespace Routes

/-- The participant a reader brackets its use of the table on. -/
def participantOf (s : Routes) : RouteReader → Option Nat
  | .device i => if i < kDeviceParticipants then some i else none
  | .client c =>
    match s.clients[c]? with
    | some client => if client.running then client.participant else none
    | none => none
  | .mic i => if i < kMicSenders ∧ s.taken i = true then some (kRouteParticipants + i) else none

/-- `micSenderForSlot`: the lowest participant no living sender has. -/
def micSenderForSlot (s : Routes) : Routes :=
  match (List.range kMicSenders).find? fun i => !s.taken i with
  | some i => { s with taken := Function.update s.taken i true }
  | none => s

/-- The participant after the one the publisher is done with. -/
def nextParticipant (p : Nat) (retired : Option Nat) : Publisher :=
  if p + 1 < kParticipants then .loading (p + 1) retired else .freeing retired

/-- The next access of `republish`. -/
def publish (s : Routes) : Routes :=
  match s.publisher with
  | .idle => s
  | .storing next =>
    { s with
      grace := s.grace.store (fun p => p < kRouteParticipants) (some next)
      publisher := .storingMics next }
  | .storingMics next =>
    { s with
      grace := s.grace.store (fun p => kRouteParticipants ≤ p) (some next)
      published := some next
      publisher := .loading 0 s.published }
  | .loading p retired =>
    if s.grace.epoch p % 2 = 0 then { s with publisher := nextParticipant p retired }
    else { s with publisher := .waiting p (s.grace.epoch p) retired }
  | .waiting p seen retired =>
    if s.grace.epoch p = seen then s else { s with publisher := nextParticipant p retired }
  | .freeing retired => { s with freed := retired.toList ++ s.freed, publisher := .idle }

def step (s : Routes) : RouteAction → Routes
  | .install id =>
    { s with sessionParticipants := (installFeedbackHandlers s.sessionParticipants id).1 }
  -- The handlers of the connection, set on the new client before its receive thread starts.
  | .connected id =>
    { s with
      clients := s.clients ++
        [⟨id, (s.sessionParticipants.idxOf? id).map (kDeviceParticipants + ·), true⟩] }
  -- The reaper joins the receive thread, so it is in no handler.
  | .closed c =>
    match s.grace.bracket (.client c) with
    | none => { s with clients := s.clients.modify c fun k => { k with running := false } }
    | some _ => s
  | .micSender => s.micSenderForSlot
  -- The last copy of the sender is gone, so nobody is in it.
  | .micSenderGone i =>
    match s.grace.bracket (.mic i) with
    | none => { s with taken := Function.update s.taken i false }
    | some _ => s
  | .enter r =>
    match s.participantOf r with
    | some p => { s with grace := s.grace.enter (2 ^ 64) r p }
    | none => s
  | .load r => { s with grace := s.grace.load r }
  | .leave r => { s with grace := s.grace.leave r }
  | .exit r => { s with grace := s.grace.exit (2 ^ 64) r }
  | .republish =>
    match s.publisher with
    | .idle => { s with publisher := .storing s.built, built := s.built + 1 }
    | _ => s
  | .publish => s.publish

end Routes

end Dish
