/-
How `AppModel` gets feedback handlers onto the connections in the pool.

Every change of the pool ends in `installRumbleHandlers`, which goes through the pool and
wires each connection whose id it has not wired before.  The handlers live on the
connection object; which ids are wired, and which participant an id has, outlives it.
-/
import Dish.SlotRouter

namespace Dish

/-- The handlers of a connection, each with the participant its closure was given.  The two
audio handlers hand the frame to the playout engine and have none. -/
structure FeedbackHandlers where
  rumble : Option Nat := none
  lightbar : Option Nat := none
  triggerEffects : Option Nat := none
  playerLeds : Option Nat := none
  micLed : Option Nat := none
  speakerAudio : Bool := false
  hapticAudio : Bool := false
deriving DecidableEq, Repr

/-- All seven handlers, as `installFeedbackHandlers` sets them. -/
def FeedbackHandlers.on (participant : Nat) : FeedbackHandlers where
  rumble := some participant
  lightbar := some participant
  triggerEffects := some participant
  playerLeds := some participant
  micLed := some participant
  speakerAudio := true
  hapticAudio := true

/-- A connection object of the pool. -/
structure WiredConnection where
  id : SatelliteId
  handlers : FeedbackHandlers := {}
deriving DecidableEq, Repr

structure FeedbackWiring where
  pool : List WiredConnection := []
  rumbleWiredConnections : List SatelliteId := []
  sessionParticipants : List SatelliteId := []
deriving DecidableEq, Repr

inductive PoolChange where
  | ensureConnection (id : SatelliteId)
  | forget (id : SatelliteId)
deriving DecidableEq, Repr

namespace FeedbackWiring

/-- The body of the loop of `installRumbleHandlers`, for one connection. -/
def wire (s : FeedbackWiring) (conn : WiredConnection) : FeedbackWiring × WiredConnection :=
  if conn.id ∈ s.rumbleWiredConnections then (s, conn)
  else
    let (sessionParticipants, participant) := installFeedbackHandlers s.sessionParticipants conn.id
    ({ s with
        rumbleWiredConnections := s.rumbleWiredConnections ++ [conn.id]
        sessionParticipants := sessionParticipants },
      match participant with
      | some p => { conn with handlers := .on p }
      | none => conn)

/-- The loop over the connections `rest` of the pool, those before it done. -/
def wireAll (s : FeedbackWiring) : List WiredConnection → FeedbackWiring × List WiredConnection
  | [] => (s, [])
  | conn :: rest =>
    let (s', conn') := s.wire conn
    let (s'', rest') := s'.wireAll rest
    (s'', conn' :: rest')

def installRumbleHandlers (s : FeedbackWiring) : FeedbackWiring :=
  let (s', pool) := s.wireAll s.pool
  { s' with pool := pool }

/-- A change of the pool, handled. -/
def step (s : FeedbackWiring) : PoolChange → FeedbackWiring
  | .ensureConnection id =>
    if id ∈ s.pool.map (·.id) then s
    else installRumbleHandlers { s with pool := s.pool ++ [{ id := id }] }
  | .forget id =>
    if id ∈ s.pool.map (·.id) then
      installRumbleHandlers { s with pool := s.pool.filter (·.id ≠ id) }
    else s

end FeedbackWiring

end Dish
