/-
One satellite as the pool sees it: the connection object it has, if any, the state of
that object, and the requests that can still change it.

Only two kinds of reply change a connection's state through the object they were sent on:
that of a forward pair POST and that of a session PUT.  `Move` lists everything that can
happen to the view otherwise, and `Answered` what such a reply does.  Which requests a
move may send is a parameter, so that one description serves for "anything", "nothing"
and "nothing silent".  That the manager only ever moves like this is
`Dish.Proofs.Attempts`.
-/
import Mathlib.Logic.Relation
import Dish.Net.ManagerReplies

namespace Dish

namespace HttpRequest

/-- The connection object a reply can drive: the one the POST or PUT was sent on. -/
def driven : HttpRequest → Option (SatelliteId × Nat)
  | pinPair id sentOn _ _ => some (id, sentOn)
  | connectPair id sentOn _ _ => some (id, sentOn)
  | session id sentOn _ _ _ _ => some (id, sentOn)
  | _ => none

/-- A session PUT of `openSession`. -/
def isPut : HttpRequest → Bool
  | session .. => true
  | _ => false

/-- On whose behalf a pair POST or session PUT is sent. -/
def intent : HttpRequest → ConnectIntent
  | connectPair _ _ _ intent => intent
  | session _ _ _ intent _ _ => intent
  | _ => .userInitiated

end HttpRequest

structure AttemptView where
  /-- The object in the pool and its state. -/
  obj : Option (Nat × SessionState)
  /-- The unanswered requests that drive an object of this id, with their serials. -/
  out : List (Nat × HttpRequest)
  /-- Every request sent so far, to any satellite. -/
  sent : List HttpRequest

namespace AttemptView

variable {P Q : HttpRequest → Prop} {id : SatelliteId} {v v' : AttemptView}

/-- The view after a request that drives an object of this id is sent. -/
def asking (v : AttemptView) (r : HttpRequest) : AttemptView :=
  { v with out := v.out ++ [(v.sent.length, r)], sent := v.sent ++ [r] }

def withState (v : AttemptView) (ref : Nat) (st : SessionState) : AttemptView :=
  { v with obj := some (ref, st) }

def IsDown (st : SessionState) : Prop := st = .idle ∨ st = .stale

def InSession (st : SessionState) : Prop := st = .live ∨ st = .faltering

/-- What happens to the view of `id` other than by a reply that drives its object; `P`
says which requests may be sent. -/
inductive Move (P : HttpRequest → Prop) (id : SatelliteId) : AttemptView → AttemptView → Prop
  | made {v : AttemptView} (ref : Nat) (h : v.obj = none) : Move P id v (v.withState ref .idle)
  | dropped (v : AttemptView) : Move P id v { v with obj := none }
  | down {v : AttemptView} {ref : Nat} {st st' : SessionState} (h : v.obj = some (ref, st))
      (hdown : IsDown st') : Move P id v (v.withState ref st')
  | steady {v : AttemptView} {ref : Nat} {st st' : SessionState} (h : v.obj = some (ref, st))
      (hst : InSession st) (hst' : InSession st') : Move P id v (v.withState ref st')
  | dialled {v : AttemptView} {ref : Nat} {st : SessionState} {r : HttpRequest}
      (h : v.obj = some (ref, st)) (hst : st ≠ .live) (hr : r.driven = some (id, ref))
      (hP : P r) : Move P id v ((v.withState ref .linking).asking r)
  /-- An approval lands on a live connection: a PUT goes out all the same. -/
  | asked {v : AttemptView} {ref : Nat} {r : HttpRequest} (h : v.obj = some (ref, .live))
      (hput : r.isPut) (hr : r.driven = some (id, ref)) (hP : P r) : Move P id v (v.asking r)
  | other {v : AttemptView} {r : HttpRequest} (hr : ∀ ref, r.driven ≠ some (id, ref)) :
      Move P id v { v with sent := v.sent ++ [r] }

/-- What the reply to `x` does to the view of `id`, where `x` drives an object of `id`; `G`
says whether the reply grants a session. -/
inductive Answered (P : HttpRequest → Prop) (G : Prop) (id : SatelliteId)
    (x : Nat × HttpRequest) : AttemptView → AttemptView → Prop
  /-- The object it was sent on is no longer in the pool. -/
  | stray {v : AttemptView} {out : List (Nat × HttpRequest)} (hout : v.out.Perm (x :: out))
      (h : ∀ ref st, v.obj = some (ref, st) → x.2.driven ≠ some (id, ref)) :
      Answered P G id x v { v with out := out }
  /-- The attempt failed. -/
  | settled {v : AttemptView} {out : List (Nat × HttpRequest)} {ref : Nat}
      {st st' : SessionState} (hout : v.out.Perm (x :: out)) (h : v.obj = some (ref, st))
      (hx : x.2.driven = some (id, ref)) (hst : x.2.isPut → st = .linking) (hdown : IsDown st') :
      Answered P G id x v (({ v with out := out } : AttemptView).withState ref st')
  /-- A pair POST was granted: the session PUT follows, whatever the state is. -/
  | granted {v : AttemptView} {out : List (Nat × HttpRequest)} {ref : Nat} {st : SessionState}
      {r : HttpRequest} (hout : v.out.Perm (x :: out)) (h : v.obj = some (ref, st))
      (hx : x.2.driven = some (id, ref)) (hpost : ¬x.2.isPut) (hput : r.isPut)
      (hr : r.driven = some (id, ref)) (hP : P r) :
      Answered P G id x v (({ v with out := out } : AttemptView).asking r)
  /-- A session PUT was granted to a connection that still waits for it. -/
  | started {v : AttemptView} {out : List (Nat × HttpRequest)} {ref : Nat}
      (hout : v.out.Perm (x :: out)) (h : v.obj = some (ref, .linking))
      (hx : x.2.driven = some (id, ref)) (hput : x.2.isPut) (hG : G) :
      Answered P G id x v (({ v with out := out } : AttemptView).withState ref .live)
  /-- A session PUT came back to a connection that no longer waits. -/
  | late {v : AttemptView} {out : List (Nat × HttpRequest)} {ref : Nat} {st : SessionState}
      (hout : v.out.Perm (x :: out)) (h : v.obj = some (ref, st))
      (hx : x.2.driven = some (id, ref)) (hput : x.2.isPut) (hst : st ≠ .linking) :
      Answered P G id x v { v with out := out }

/-- Any number of moves. -/
def Reach (P : HttpRequest → Prop) (id : SatelliteId) : AttemptView → AttemptView → Prop :=
  Relation.ReflTransGen (Move P id)

theorem Move.mono (hPQ : ∀ r, P r → Q r) (h : Move P id v v') : Move Q id v v' := by
  cases h with
  | made ref h => exact .made ref h
  | dropped => exact .dropped _
  | down h hdown => exact .down h hdown
  | steady h hst hst' => exact .steady h hst hst'
  | dialled h hst hr hP => exact .dialled h hst hr (hPQ _ hP)
  | asked h hput hr hP => exact .asked h hput hr (hPQ _ hP)
  | other hr => exact .other hr

theorem Answered.mono {F G : Prop} {x : Nat × HttpRequest} (hPQ : ∀ r, P r → Q r) (hFG : F → G)
    (h : Answered P F id x v v') : Answered Q G id x v v' := by
  cases h with
  | stray hout h => exact .stray hout h
  | settled hout h hx hst hdown => exact .settled hout h hx hst hdown
  | granted hout h hx hpost hput hr hP => exact .granted hout h hx hpost hput hr (hPQ _ hP)
  | started hout h hx hput hF => exact .started hout h hx hput (hFG hF)
  | late hout h hx hput hst => exact .late hout h hx hput hst

theorem Reach.mono (hPQ : ∀ r, P r → Q r) (h : Reach P id v v') : Reach Q id v v' :=
  Relation.ReflTransGen.mono (fun _ _ => Move.mono hPQ) _ _ h

theorem Reach.keeps {I : AttemptView → Prop} (hmove : ∀ v v', Move P id v v' → I v → I v')
    (h : Reach P id v v') (hv : I v) : I v' := by
  induction h with
  | refl => exact hv
  | tail _ hlast ih => exact hmove _ _ hlast ih

end AttemptView

/-- The manager as the satellite `id` sees it. -/
def Manager.view (s : Manager) (id : SatelliteId) : AttemptView where
  obj := (s.conn? id).map fun p => (p.ref, p.conn.state)
  out := (s.net.map fun x => (x.serial, x.request)).filter fun x =>
    x.2.driven.any fun o => o.1 = id
  sent := s.sent

end Dish
