/-
The satellite at the far end of a session, as the self-heal loop has to assume it.

It keeps one session per device under one connection id, holds at most one pad per
controller index, does everything it is asked over REST and counts each change in
its epoch.  A session PUT replaces all pads and the mouse grant; a controller PUT or
DELETE touches one index.  A call about a session that is not there answers 404.
-/
import Mathlib.Logic.Function.Basic
import Dish.Core.RestOutcome

namespace Dish

/-- The session calls of the REST surface. -/
inductive Call where
  | putSession (controllers : List ControllerDescriptor) (mouseControl : Bool)
  | getSession (connectionId : String)
  | deleteSession (connectionId : String)
  | putController (connectionId : String) (descriptor : ControllerDescriptor)
  | deleteController (connectionId : String) (ctrlIdx : Nat)
  deriving DecidableEq

/-- The answer to a session call. -/
inductive Answer where
  | session (resp : SessionResponse)
  | view (view : SessionViewDto)
  | released
  | controller (resp : ControllerPutResponse)
  deriving DecidableEq

/-- The controller indices a satellite has slots for. -/
def kMaxControllers : Nat := 16

structure Satellite where
  /-- The one connection id this satellite gives this device. -/
  connectionId : String
  token : String
  sessionSalt : String
  up : Bool
  epoch : Int
  holds : Nat → Option ControllerDescriptor
  granted : Bool

namespace Satellite

variable (s : Satellite)

/-- The pads plugged in, by ascending index. -/
def pads : List ControllerDescriptor :=
  (List.range kMaxControllers).filterMap s.holds

/-- The bitmap an enriched ack carries. -/
def activeBitmap : BitVec 16 :=
  s.pads.foldl (fun bitmap d => bitmap ||| (1#16 <<< d.ctrlIdx)) 0#16

/-- The pads a session PUT leaves, one per index it lists. -/
def padsOf (controllers : List ControllerDescriptor) (i : Nat) : Option ControllerDescriptor :=
  controllers.find? fun d => d.ctrlIdx = i

def viewController (d : ControllerDescriptor) : SessionViewControllerDto :=
  { ctrlIdx := d.ctrlIdx
    active := true
    appliedType := d.type.toNat
    touchpadMode := touchpadModeName d.touchpadMode }

/-- The satellite after a call that reached it, and what it answers. -/
def serve : Call → Satellite × Answer
  | .putSession controllers mouseControl =>
    let next := { s with
      up := true
      epoch := s.epoch + 1
      holds := padsOf controllers
      granted := mouseControl }
    (next, .session {
      connectionId := some s.connectionId
      token := some s.token
      sessionSalt := some s.sessionSalt
      epoch := next.epoch
      controllers := controllers.map fun d => ⟨d.ctrlIdx, "ok"⟩
      mouseGranted := mouseControl
      httpStatus := 200
      reachable := true })
  | .getSession connectionId =>
    if s.up ∧ connectionId = s.connectionId then
      (s, .view {
        connectionId := some s.connectionId
        epoch := s.epoch
        controllers := s.pads.map viewController
        mouseGranted := s.granted
        httpStatus := 200
        reachable := true })
    else (s, .view { httpStatus := 404, reachable := true })
  | .deleteSession connectionId =>
    if s.up ∧ connectionId = s.connectionId then
      ({ s with up := false, holds := fun _ => none, granted := false }, .released)
    else (s, .released)
  | .putController connectionId d =>
    if s.up ∧ connectionId = s.connectionId then
      ({ s with epoch := s.epoch + 1, holds := Function.update s.holds d.ctrlIdx (some d) },
        .controller { epoch := s.epoch + 1, controller := some ⟨d.ctrlIdx, "ok"⟩ })
    else (s, .controller { error := some "not found" })
  | .deleteController connectionId i =>
    if s.up ∧ connectionId = s.connectionId then
      ({ s with epoch := s.epoch + 1, holds := Function.update s.holds i none },
        .controller { epoch := s.epoch + 1 })
    else (s, .controller { error := some "not found" })

/-- The satellite after calls that reached it in this order. -/
def serveAll (calls : List Call) : Satellite := calls.foldl (fun s call => (s.serve call).1) s

end Satellite

end Dish
