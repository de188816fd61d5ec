/-
Whether a pad can be left waiting for its framework device.

The level-triggered pass does its part: a controller still waiting when nothing is queued waits for
a device SDL does not list (`Wired.queued`).  The timer that should end such a wait does not
exist: the interpreter drops the request for it and nothing else arms one.  A wait begins when a pad
is given back to Standard, when a claim on it is lost to the system, and when its device vanishes
(`awaits_applyEvent`).  What is left is that no controller is stranded in a run in which none of these
happens to a model that is not listed.
-/
import Dish.Usb.FrameworkPresence
import Dish.Proofs.UsbClaims

namespace Dish

open Steps UsbManager

namespace UsbManager

/-! ### What an event can touch

Every step of carrying out an event at `key` either stores the reduction of the controller there,
tells the observer, or changes something outside the controllers and the log. -/

/-- Controllers and log are the same. -/
structure SameFront (m m' : UsbManager) : Prop where
  observer : m'.observer = m.observer
  controllers : m'.controllers = m.controllers
  observed : m'.observed = m.observed

/-- A preorder on managers that holds of each such step. -/
structure EventClosed (key : Int) (R : UsbManager → UsbManager → Prop) : Prop where
  refl : ∀ m, R m m
  trans : ∀ {a b c}, R a b → R b c → R a c
  store : ∀ {m c} (event : UsbEvent), m.controllers.lookup key = some c →
    R m (m.store key (c.reduce event).next)
  tell : ∀ m call, R m (m.tell call)
  front : ∀ {m m'}, SameFront m m' → R m m'

section EventClosed

variable {key : Int} {R : UsbManager → UsbManager → Prop} (closed : EventClosed key R)
include closed

section
variable (m : UsbManager)

theorem EventClosed.release (id : Int) : R m (m.releaseClaimAndWorker id) := by
  refine closed.front ⟨?_, controllers_release m id, ?_⟩
  all_goals
    unfold releaseClaimAndWorker
    cases m.gateway <;> dsimp only <;> split <;> rfl

theorem EventClosed.startWorker (id key' : Int) : R m (m.startWorker id key') := by
  unfold UsbManager.startWorker
  split
  · exact closed.refl m
  · exact closed.front ⟨rfl, rfl, rfl⟩

theorem EventClosed.bindCarried (c : UsbController) (id : Int) :
    R m (m.bindCarried c id) := by
  unfold UsbManager.bindCarried
  split
  · exact closed.tell m _
  · exact closed.refl m

theorem EventClosed.claimTracked (key' : Int) : R m (m.claimTracked key').2 := by
  unfold UsbManager.claimTracked
  split
  · unfold doClaim
    split
    · exact closed.refl m
    · dsimp only
      split
      · exact closed.front ⟨rfl, rfl, rfl⟩
      · refine closed.trans ?_ (closed.tell _ _)
        exact closed.front ⟨rfl, rfl, rfl⟩
  · exact closed.refl m

end

variable {nested : UsbManager → Int → UsbEvent → UsbManager}
  (inner : ∀ m event, R m (nested m key event))
include inner

theorem EventClosed.execute (c : UsbController) (m : UsbManager) (fx : UsbEffect) :
    R m (execute nested key c m fx) := by
  cases fx with
  | claim =>
    simp only [UsbManager.execute, runClaim]
    refine closed.trans (closed.claimTracked m key) ?_
    split
    · exact closed.trans (closed.startWorker _ _ _) (inner _ _)
    · exact inner _ _
  | reclaim =>
    simp only [UsbManager.execute, runReclaim]
    refine closed.trans (closed.claimTracked m key) ?_
    cases (m.claimTracked key).1 with
    | success id =>
      refine closed.trans ?_ (inner _ _)
      refine closed.trans ?_ (closed.bindCarried _ c id)
      refine closed.trans ?_ (closed.startWorker _ id key)
      split
      · exact closed.trans (closed.release _ _) (closed.tell _ _)
      · exact closed.refl _
    | fail =>
      refine closed.trans ?_ (inner _ _)
      split
      · exact closed.trans (closed.release _ _) (closed.tell _ _)
      · exact closed.refl _
  | release =>
    simp only [UsbManager.execute]
    split
    · exact closed.release _ _
    · exact closed.refl m
  | requestPermission => exact inner m _
  | bindFramework id => exact closed.bindCarried m c id
  | removeSynthetic id => exact closed.trans (closed.release m id) (closed.tell _ _)
  | startTimeout => exact closed.refl m
  | setPref => exact closed.front ⟨rfl, rfl, rfl⟩
  | markFailure | clearFailure =>
    refine closed.trans ?_ (closed.tell _ _)
    exact closed.front ⟨rfl, rfl, rfl⟩
  | beginHold | endHold | markNeedsReplug | markRestoreStuck | clearRestoreStuck | notify =>
    exact closed.tell m _

theorem EventClosed.effects (c : UsbController) (effects : List UsbEffect) (m : UsbManager) :
    R m (effects.foldl (UsbManager.execute nested key c) m) :=
  List.foldlRecOn (motive := R m) effects _ (closed.refl m) fun m' h fx _ =>
    closed.trans h (closed.execute inner c m' fx)

theorem EventClosed.applyEventWith (m : UsbManager) (event : UsbEvent) :
    R m (applyEventWith nested m key event) := by
  unfold UsbManager.applyEventWith
  split
  · exact closed.refl m
  case h_2 c there =>
    exact closed.trans (closed.store event there)
      (closed.trans (closed.effects inner _ _ _) (closed.tell _ _))

end EventClosed

variable {c : UsbController}

variable {key : Int}

theorem EventClosed.applyEvent {R : UsbManager → UsbManager → Prop}
    (closed : EventClosed key R) (m : UsbManager) (event : UsbEvent) :
    R m (m.applyEvent key event) := by
  have upTo : ∀ depth m event, R m (applyEventUpTo depth m key event) := by
    intro depth
    induction depth with
    | zero => exact fun m _ => closed.refl m
    | succ depth ih => exact fun m event => closed.applyEventWith ih m event
  exact upTo 3 m event

/-! ### Controllers waiting -/

/-- The controller of the model waits for its framework device. -/
def Awaits (m : UsbManager) (key : Int) : Prop :=
  ∃ c, m.controllers.lookup key = some c ∧ c.phase = .awaitingFramework

theorem awaits_iff (m : UsbManager) (key : Int) :
    (m.controllers.lookup key).map (·.phase) = some .awaitingFramework ↔ m.Awaits key := by
  simp [Awaits]

instance (m : UsbManager) (key : Int) : Decidable (m.Awaits key) :=
  decidable_of_iff _ (awaits_iff m key)

/-- Every controller sits under the key of its own ids. -/
def IdsOk (m : UsbManager) : Prop :=
  ∀ key c, m.controllers.lookup key = some c → vpKey c.vendorId c.productId = key

/-- What every call of the manager does: the log grows, ids stay in place, and a call that told of
no change began no wait. -/
structure Sound (m m' : UsbManager) : Prop where
  observer : m'.observer = m.observer
  changes : m.changes ≤ m'.changes
  told : m.observer = true → m'.changes = m.changes → ∀ key, m'.Awaits key → m.Awaits key
  ids : m.IdsOk → m'.IdsOk

theorem Sound.refl (m : UsbManager) : Sound m m := ⟨rfl, Nat.le_refl _, fun _ _ _ h => h, id⟩

theorem Sound.trans {a b c : UsbManager} (ab : Sound a b) (bc : Sound b c) : Sound a c where
  observer := bc.observer.trans ab.observer
  changes := Nat.le_trans ab.changes bc.changes
  told := by
    intro on same key waits
    have mid : b.changes = a.changes :=
      Nat.le_antisymm (same ▸ bc.changes) ab.changes
    refine ab.told on mid key (bc.told (ab.observer.trans on) ?_ key waits)
    exact same.trans mid.symm
  ids := bc.ids ∘ ab.ids

variable {m m' : UsbManager}

theorem Sound.of_front (same : SameFront m m') : Sound m m' where
  observer := same.observer
  changes := by simp only [UsbManager.changes, same.observed, Nat.le_refl]
  told := by
    intro _ _ key
    simp only [Awaits, same.controllers]
    exact fun h => h
  ids := by
    simp only [IdsOk, same.controllers]
    exact fun h => h

theorem Sound.tell (m : UsbManager) (call : UsbObserverCall) : Sound m (m.tell call) := by
  unfold UsbManager.tell
  split
  · refine ⟨rfl, ?_, fun _ _ _ h => h, fun h => h⟩
    simp [UsbManager.changes]
  · exact .refl m

/-- The observer stays, its log grows and ids stay in place, whatever an event does. -/
structure Grows (m m' : UsbManager) : Prop where
  observer : m'.observer = m.observer
  changes : m.changes ≤ m'.changes
  ids : m.IdsOk → m'.IdsOk

theorem Sound.grows (sound : Sound m m') : Grows m m' :=
  ⟨sound.observer, sound.changes, sound.ids⟩

theorem eventClosed_grows (key : Int) : EventClosed key Grows where
  refl m := (Sound.refl m).grows
  trans ab bc :=
    ⟨bc.observer.trans ab.observer, Nat.le_trans ab.changes bc.changes, bc.ids ∘ ab.ids⟩
  store := by
    intro m c event there
    refine ⟨rfl, Nat.le_refl _, fun ids other c' there' => ?_⟩
    rcases lookup_store there' with ⟨rfl, next⟩ | ⟨-, was⟩
    · obtain ⟨vendor, product, -⟩ := UsbController.reduce_ids next
      rw [vendor, product]
      exact ids _ c there
    · exact ids other c' was
  tell m call := (Sound.tell m call).grows
  front same := (Sound.of_front same).grows

theorem eventClosed_lookup_ne {key other : Int} (ne : other ≠ key) :
    EventClosed key fun m m' => m'.controllers.lookup other = m.controllers.lookup other where
  refl _ := rfl
  trans ab bc := bc.trans ab
  store := fun event _ => lookup_store_ne _ ne _
  tell m call := by rw [(sameBooks_tell m call).controllers]
  front same := by rw [same.controllers]

theorem lookup_applyEvent_ne {key other : Int} (ne : other ≠ key) (m : UsbManager)
    (event : UsbEvent) :
    (m.applyEvent key event).controllers.lookup other = m.controllers.lookup other :=
  (eventClosed_lookup_ne ne).applyEvent m event

variable {m : UsbManager}

theorem changes_tell_changed (on : m.observer = true) :
    (m.tell .controllersChanged).changes = m.changes + 1 := by
  simp [tell, on, changes]

theorem changes_applyEvent
    (there : m.controllers.lookup key = some c) (on : m.observer = true) (event : UsbEvent) :
    m.changes < (m.applyEvent key event).changes := by
  have closed := eventClosed_grows key
  have stored := closed.store event there
  have carried := closed.effects (closed.applyEvent) ((c.reduce event).next.getD c)
    (c.reduce event).effects (m.store key (c.reduce event).next)
  have on' := carried.observer.trans (stored.observer.trans on)
  rw [applyEvent_some there, changes_tell_changed on']
  exact Nat.lt_succ_of_le (Nat.le_trans stored.changes carried.changes)

theorem Sound.applyEvent (m : UsbManager) (key : Int) (event : UsbEvent) :
    Sound m (m.applyEvent key event) := by
  cases there : m.controllers.lookup key with
  | none =>
    rw [applyEvent_none there]
    exact .refl m
  | some c =>
    have grows := (eventClosed_grows key).applyEvent m event
    refine ⟨grows.observer, grows.changes, fun on same => ?_, grows.ids⟩
    exact absurd same (Nat.ne_of_gt (changes_applyEvent there on event))

/-! ### The calls are sound -/

theorem Sound.track (m : UsbManager) (ids : vpKey c.vendorId c.productId = key)
    (event : UsbEvent) : Sound m ((m.store key (some c)).applyEvent key event) := by
  have grows := (eventClosed_grows key).applyEvent (m.store key (some c)) event
  refine ⟨grows.observer, grows.changes, fun on same => ?_, fun ok => grows.ids ?_⟩
  · have told := changes_applyEvent (lookup_store_self m key (some c)) on event
    exact absurd same (Nat.ne_of_gt told)
  · intro other c' there
    rcases lookup_store there with ⟨rfl, ⟨⟩⟩ | ⟨-, was⟩
    · exact ids
    · exact ok other c' was

theorem vpKey_newController (m : UsbManager) (device : UsbDeviceInfo) :
    vpKey (m.newController device).vendorId (m.newController device).productId = device.vpKey :=
  rfl

theorem callClosed_sound : CallClosed Sound where
  refl := .refl
  trans := .trans
  event m key event _ := .applyEvent m key event
  track _ _ := .track _ (vpKey_newController _ _) _
  beside same := .of_front ⟨same.observer, same.controllers, same.observed⟩

/-! ### The framework device coming and going -/

variable {fx : UsbEffect}

variable {nested : UsbManager → Int → UsbEvent → UsbManager}

theorem controllers_execute (key : Int)
    (c : UsbController) (m : UsbManager) (flat : fx.nesting = 0) :
    (execute nested key c m fx).controllers = m.controllers := by
  cases fx with
  | claim | reclaim | requestPermission => simp [UsbEffect.nesting] at flat
  | release =>
    simp only [execute]
    split <;> simp
  | removeSynthetic id =>
    exact (sameBooks_tell _ _).controllers.trans (controllers_release m id)
  | _ => exact (sameBooks_execute nested key c m (by trivial)).controllers

theorem controllers_effects (key : Int)
    (c : UsbController) (effects : List UsbEffect) (flat : ∀ fx ∈ effects, fx.nesting = 0)
    (m : UsbManager) : (effects.foldl (execute nested key c) m).controllers = m.controllers :=
  List.foldlRecOn (motive := fun m' => m'.controllers = m.controllers) effects _ rfl
    fun m' same fx mem => (controllers_execute key c m' (flat fx mem)).trans same

variable {event : UsbEvent}

theorem lookup_flat (there : m.controllers.lookup key = some c)
    (flat : ∀ fx ∈ (c.reduce event).effects, fx.nesting = 0) :
    (m.applyEvent key event).controllers.lookup key = (c.reduce event).next := by
  rw [applyEvent_some there, (sameBooks_tell _ _).controllers, controllers_effects key _ _ flat,
    lookup_store_self]

theorem lookup_framework (there : m.controllers.lookup key = some c)
    (framework : event = .frameworkDown ∨ ∃ id, event = .frameworkUp id) :
    (m.applyEvent key event).controllers.lookup key = (c.reduce event).next := by
  refine lookup_flat there ?_
  rcases (c.reduce_moves event).flat with flat | ⟨asked, -⟩ | ⟨asked, -⟩ | ⟨asked, -⟩
  · exact flat
  all_goals
    rcases framework with rfl | ⟨id, rfl⟩ <;> simp at asked

theorem awaits_onFrameworkUp (m : UsbManager) (vendorId productId id : Int) (key : Int) :
    (m.onFrameworkUp vendorId productId id).Awaits key ↔
      key ≠ vpKey vendorId productId ∧ m.Awaits key := by
  unfold onFrameworkUp Awaits
  generalize vpKey vendorId productId = up
  by_cases same : key = up
  · subst same
    simp only [ne_eq, not_true_eq_false, false_and, iff_false, not_exists, not_and]
    intro n there
    cases was : m.controllers.lookup key with
    | none => simp [applyEvent_none was, was] at there
    | some c =>
      rw [lookup_framework was (.inr ⟨id, rfl⟩)] at there
      exact UsbController.reduce_frameworkUp_phase there
  · rw [lookup_applyEvent_ne same]
    simp [same]

/-! ### What begins a wait -/

/-- The next claim would be lost to the system. -/
def losesNext (m : UsbManager) : Bool :=
  m.gateway.any fun g => (g.refuses m.claimsAsked).any (·.2)

/-- The event makes the controller wait: its claim is given up, or the claim that the event asks for
is lost.  A model without a framework device has nothing to wait for. -/
def beginsWait (m : UsbManager) (c : UsbController) : UsbEvent → Bool
  | .choose .standard _ =>
    c.phase == .restoreStuck || (c.phase == .direct && c.frameworkExpected)
  | .choose .direct _ | .permissionGranted =>
    c.phase == .routed && c.frameworkExpected && m.losesNext
  | .claimUnreadable => c.phase == .direct && c.frameworkExpected
  | .frameworkDown => c.phase == .routed
  | _ => false

theorem controllers_claimTracked (m : UsbManager) (key : Int) :
    (m.claimTracked key).2.controllers = m.controllers := by
  unfold claimTracked doClaim
  repeat' split
  all_goals first
    | rfl
    | exact (sameBooks_tell _ _).controllers

theorem losesNext_of_claimTracked {reason : DirectClaimFailure}
    (lost : (m.claimTracked key).1 = .fail reason true) : m.losesNext = true := by
  unfold claimTracked doClaim at lost
  split at lost
  · split at lost
    · cases lost
    case h_2 g gateway =>
      split at lost
      case h_1 answer =>
        cases lost
        simp [losesNext, gateway, answer]
      · cases lost
  · cases lost

/-- The answer to a claim makes a controller wait that lost its framework device to it. -/
theorem awaits_answer (there : m.controllers.lookup key = some c) (answer : event.nesting = 1)
    (waits : (m.applyEvent key event).Awaits key) : c.phase = .awaitingFramework ∨
      (c.phase = .claiming ∧ c.frameworkExpected = true ∧ ∃ reason, event = .claimFailed reason true) := by
  obtain ⟨n, next, phase⟩ := waits
  have moves := c.reduce_moves event
  rw [lookup_flat there fun fx mem => by have := moves.nesting_lt mem; omega] at next
  rw [next] at moves
  generalize (c.reduce event).effects = effects at moves
  cases moves with
  | stays event n effects same => exact .inl (same ▸ phase)
  | stolen reason n was expected => exact .inr ⟨was, expected, reason, rfl⟩
  | claims event n wants => rcases wants with rfl | ⟨u, rfl⟩ <;> cases answer
  | released event n gives | settled event n effects gives =>
    rcases gives with rfl | ⟨u, rfl⟩ <;> cases answer
  | claimed id n was is | refused reason taken n effects was is | reclaimed id n effects was is
  | reclaimFails reason taken n effects was is =>
    rw [is] at phase
    cases phase
  | asks | loses | returned | sticks | drops | reclaims | waits | unstuck | replugged => cases answer

/-- A claim ends in a wait only if it is lost. -/
theorem awaits_runClaim (there : m.controllers.lookup key = some c) (was : c.phase = .claiming)
    (waits : (runClaim applyEvent m key).Awaits key) :
    c.frameworkExpected = true ∧ m.losesNext = true := by
  unfold runClaim at waits
  have same := controllers_claimTracked m key
  have lost : ∀ reason, (m.claimTracked key).1 = .fail reason true → m.losesNext = true :=
    fun reason => losesNext_of_claimTracked
  generalize m.claimTracked key = result at *
  obtain ⟨outcome, claimed⟩ := result
  cases outcome with
  | success id =>
    rcases awaits_answer (by rw [controllers_startWorker, same, there]) rfl waits with
      waiting | ⟨-, -, reason, answer⟩
    · rw [was] at waiting
      cases waiting
    · cases answer
  | fail reason stolen =>
    rcases awaits_answer (by rw [same, there]) rfl waits with waiting | ⟨-, expected, reason, answer⟩
    · rw [was] at waiting
      cases waiting
    · cases answer
      exact ⟨expected, lost reason rfl⟩

theorem not_awaits_runReclaim {ctx : UsbController} (there : m.controllers.lookup key = some c)
    (was : c.phase = .restoreStuck) : ¬ (runReclaim applyEvent m key ctx).Awaits key := by
  intro waits
  have same := controllers_claimTracked m key
  unfold runReclaim at waits
  generalize m.claimTracked key = result at *
  obtain ⟨outcome, claimed⟩ := result
  have still : claimed.controllers.lookup key = some c := by rw [same, there]
  have dropped : ∀ old, ((claimed.releaseClaimAndWorker old).tell
      (.syntheticRemoved old)).controllers.lookup key = some c := fun old => by
    rw [(sameBooks_tell _ _).controllers, controllers_release, still]
  have stuck : ∀ {P : Prop}, ¬ (c.phase = .awaitingFramework ∨ (c.phase = .claiming ∧ P)) := by
    simp [was]
  cases outcome with
  | success id =>
    refine stuck (awaits_answer ?_ rfl waits)
    rw [(sameBooks_bindCarried _ _ _).controllers, controllers_startWorker]
    cases ctx.syntheticId with
    | none => exact still
    | some old => exact dropped old
  | fail reason stolen =>
    refine stuck (awaits_answer ?_ rfl waits)
    cases ctx.syntheticId with
    | none => exact still
    | some old => exact dropped old

theorem awaits_of_tell {call : UsbObserverCall} (h : (m.tell call).Awaits key) : m.Awaits key := by
  unfold Awaits at *
  rwa [(sameBooks_tell m call).controllers] at h

/-- **How a wait begins.**  `granted` is the same for the one event from outside that another can
nest, the permission taken as granted. -/
theorem awaits_applyEvent_of (outside : FromOutside event)
    (granted : event ≠ .permissionGranted → ∀ {m : UsbManager},
      (m.applyEvent key .permissionGranted).Awaits key →
        m.Awaits key ∨ ∃ c ∈ m.controllers.lookup key, m.beginsWait c .permissionGranted = true)
    (waits : (m.applyEvent key event).Awaits key) :
    m.Awaits key ∨ ∃ c ∈ m.controllers.lookup key, m.beginsWait c event = true := by
  cases there : m.controllers.lookup key with
  | none =>
    rw [applyEvent_none there] at waits
    exact .inl waits
  | some c =>
    refine Or.imp (fun phase => ⟨c, there, phase⟩) (fun begins => ⟨c, rfl, begins⟩)
      (show c.phase = .awaitingFramework ∨ m.beginsWait c event = true from ?_)
    have moves := c.reduce_moves event
    rcases moves.flat with flat | ⟨rfl, was, asks, n, next, phase⟩ |
      ⟨wants, was, asks, n, next, phase⟩ | ⟨-, asks, n, next, phase⟩
    · obtain ⟨n, after, phase⟩ := waits
      rw [lookup_flat there flat] at after
      rw [after] at moves
      generalize (c.reduce event).effects = effects at moves
      cases moves with
      | stays event n effects same => exact .inl (same ▸ phase)
      | loses n was => simp [beginsWait, was]
      | waits user n was => simp [beginsWait, was]
      | released event n gives was expected =>
        rcases gives with rfl | ⟨u, rfl⟩ <;> simp [beginsWait, was, expected]
      | stolen | refused | claimed | reclaimed | reclaimFails => exact outside.elim
      | asks n was is | claims event n wants was is | settled event n effects gives was is
      | returned id n effects was is | sticks n was held is | drops n effects was held is
      | reclaims user n was is | unstuck id n was is | replugged id n effects was is =>
        rw [is] at phase
        cases phase
    · -- Permission is taken as granted at once.
      rw [applyEvent_some there, asks, next] at waits
      obtain ⟨-, -, expected⟩ := UsbController.reduce_ids next
      have stored : (m.store key (some n)).controllers.lookup key = some n := lookup_store_self m key _
      rcases granted (by simp) (awaits_of_tell waits) with ⟨n', there', waiting⟩ | ⟨n', there', begins⟩
      · obtain rfl : n = n' := Option.some.inj (stored.symm.trans there')
        rw [phase] at waiting
        cases waiting
      · obtain rfl : n = n' := Option.some.inj (stored.symm.trans there')
        simp only [beginsWait, Bool.and_eq_true, expected] at begins
        exact .inr (by simp only [beginsWait, was, begins.1.2, beq_self_eq_true, Bool.true_and]; exact begins.2)
    · rw [applyEvent_some there, asks, next] at waits
      obtain ⟨-, -, expected⟩ := UsbController.reduce_ids next
      have before := sameBooks_effects applyEvent key n
        [.clearFailure, .beginHold] (by simp [Bookless]) (m.store key (some n))
      have there' := (congrArg (·.lookup key) before.controllers).trans
        (lookup_store_self m key (some n))
      obtain ⟨expects, loses⟩ := awaits_runClaim there' phase (awaits_of_tell waits)
      have lost : m.losesNext = true := by
        rwa [losesNext, before.gateway, before.claimsAsked] at loses
      rw [expected] at expects
      rcases wants with rfl | ⟨u, rfl⟩ <;> exact .inr (by simp [beginsWait, was, expects, lost])
    · rw [applyEvent_some there, asks, next] at waits
      exact absurd (awaits_of_tell waits) (not_awaits_runReclaim (lookup_store_self m key _) phase)

theorem awaits_applyEvent (outside : FromOutside event)
    (waits : (m.applyEvent key event).Awaits key) :
    m.Awaits key ∨ ∃ c ∈ m.controllers.lookup key, m.beginsWait c event = true := by
  refine awaits_applyEvent_of outside (fun _ m' waits' => ?_) waits
  have outside' : FromOutside .permissionGranted := trivial
  exact awaits_applyEvent_of outside' (fun ne => absurd rfl ne) waits'

/-- The controller of the model is on Standard, or waits to be. -/
def OnStandard (m : UsbManager) (key : Int) : Prop :=
  ∃ c, m.controllers.lookup key = some c ∧ (c.phase = .routed ∨ c.phase = .awaitingFramework)

theorem onStandard_onFrameworkDown {vendorId productId key : Int}
    (after : (m.onFrameworkDown vendorId productId).OnStandard key) : m.OnStandard key := by
  unfold onFrameworkDown OnStandard at *
  generalize vpKey vendorId productId = down at *
  obtain ⟨n, there, phase⟩ := after
  by_cases same : key = down
  · subst same
    cases was : m.controllers.lookup key with
    | none => simp [applyEvent_none was, was] at there
    | some c =>
      rw [lookup_framework was (.inl rfl)] at there
      exact ⟨c, rfl, UsbController.reduce_frameworkDown_phase there phase⟩
  · rw [lookup_applyEvent_ne same] at there
    exact ⟨n, there, phase⟩

end UsbManager

theorem vpKey_unpack (vendorId productId : Int) :
    vpKey (vpKey vendorId productId / 2 ^ 16 % 2 ^ 16) (vpKey vendorId productId % 2 ^ 16) =
      vpKey vendorId productId := by
  simp only [vpKey, Int.bmod_def]
  split_ifs <;> omega

namespace UsbWiring

open UsbManager (Awaits Sound IdsOk)

variable {w : UsbWiring} (present : List Int)

/-! ### The settle pass -/

theorem sound_settleOne (m : UsbManager) (e : Sigma fun _ : Int => UsbController) :
    Sound m (settleOne present m e) := by
  unfold settleOne
  split
  · exact .applyEvent _ _ _
  · exact .refl m

theorem sound_settleIn (m : UsbManager) : Sound m (settleIn present m) :=
  callClosed_sound.foldl (sound_settleOne present) _ m

/-- A pass over entries under their own keys leaves waiting what it did not settle. -/
theorem awaits_settle (entries : List (Sigma fun _ : Int => UsbController))
    (ids : ∀ e ∈ entries, vpKey e.2.vendorId e.2.productId = e.1) (m : UsbManager) (key : Int) :
    (entries.foldl (settleOne present) m).Awaits key ↔
      m.Awaits key ∧ ∀ e ∈ entries, e.1 = key →
        shouldSettleAwaitingFramework e.2.phase (decide (e.1 ∈ present)) = false := by
  induction entries generalizing m with
  | nil => simp
  | cons e rest ih =>
    rw [List.foldl_cons, ih fun e' mem => ids e' (List.mem_cons_of_mem _ mem)]
    have own := ids e (List.mem_cons_self ..)
    unfold settleOne
    split
    case isTrue settles =>
      rw [awaits_onFrameworkUp, own]
      simp only [List.forall_mem_cons, settles]
      constructor
      · rintro ⟨⟨ne, waits⟩, others⟩
        exact ⟨waits, fun is => absurd is.symm ne, others⟩
      · rintro ⟨waits, first, others⟩
        exact ⟨⟨fun is => absurd (first is.symm) (by simp), waits⟩, others⟩
    case isFalse passes =>
      simp only [List.forall_mem_cons]
      constructor
      · rintro ⟨waits, others⟩
        exact ⟨waits, fun _ => by simpa using passes, others⟩
      · rintro ⟨waits, -, others⟩
        exact ⟨waits, others⟩

variable {m : UsbManager}

variable {key : Int}

/-- **The pass settles what it can**: what still waits, waited before, and for a device that is not
there. -/
theorem awaits_settleIn {present : List Int} (ids : m.IdsOk)
    (waits : (settleIn present m).Awaits key) : m.Awaits key ∧ key ∉ present := by
  unfold settleIn at waits
  have own : ∀ e ∈ m.controllers.entries, vpKey e.2.vendorId e.2.productId = e.1 := by
    intro e mem
    exact ids e.1 e.2 (AList.mem_lookup_iff.mpr mem)
  obtain ⟨waited, passed⟩ := (awaits_settle present _ own m key).mp waits
  refine ⟨waited, fun there => ?_⟩
  obtain ⟨c, found, phase⟩ := waited
  have passes := passed ⟨key, c⟩ (AList.mem_lookup_iff.mp found) rfl
  simp [shouldSettleAwaitingFramework, phase, there] at passes

/-! ### The wiring -/

/-- What holds of the wiring in every state: every wait the list could end has a pass queued, and
no timer is armed. -/
structure Wired (w : UsbWiring) : Prop where
  observer : w.manager.observer = true
  ids : w.manager.IdsOk
  last : w.lastFrameworkVpKeys = frameworkVpKeys w.devices
  queued : ∀ key, w.manager.Awaits key → key ∈ frameworkVpKeys w.devices → 0 < w.queuedSettles
  timers : w.timers = []

theorem Wired.drive (wired : Wired w) (sound : Sound w.manager m) : Wired (w.drive m) where
  observer := sound.observer.trans wired.observer
  ids := sound.ids wired.ids
  last := wired.last
  queued := by
    intro key waits there
    by_cases same : m.changes = w.manager.changes
    · have waited := sound.told wired.observer same key waits
      exact Nat.lt_of_lt_of_le (wired.queued key waited there) (Nat.le_add_right ..)
    · have more := sound.changes
      simp only [UsbWiring.drive]
      omega
  timers := wired.timers

theorem sound_comeAndGone (w : UsbWiring) : Sound w.manager w.comeAndGone := by
  refine Sound.trans (callClosed_sound.foldl (fun m d => ?_) _ _) (callClosed_sound.foldl (fun m key => ?_) _ _)
  · unfold upOne
    split
    · exact .refl m
    · exact .applyEvent _ _ _
  · unfold downOne
    split
    · exact .refl m
    · exact .applyEvent _ _ _

theorem Wired.sync (observer : w.manager.observer = true) (ids : w.manager.IdsOk)
    (timers : w.timers = []) : Wired w.syncFrameworkPresence := by
  have gone := sound_comeAndGone w
  have settled := gone.trans (sound_settleIn (frameworkVpKeys w.devices) w.comeAndGone)
  refine ⟨settled.observer.trans observer, settled.ids ids, rfl, fun key waits there => ?_, timers⟩
  exact absurd there (awaits_settleIn (gone.ids ids) waits).2

theorem Wired.settle (wired : Wired w) (n : Nat) :
    Wired (settleAwaitingFrameworkControllers { w with queuedSettles := n }) := by
  have settled := sound_settleIn (frameworkVpKeys w.devices) w.manager
  refine ⟨settled.observer.trans wired.observer, settled.ids wired.ids, wired.last,
    fun key waits there => ?_, wired.timers⟩
  exact absurd there (awaits_settleIn wired.ids waits).2

theorem Wired.step (wired : Wired w) (act : Act) : Wired (w.step act) := by
  cases act with
  | devicesChanged devices =>
    exact Wired.sync (w := { w with devices := devices }) wired.observer wired.ids wired.timers
  | scan scan => exact wired.drive (callClosed_sound.reconcile _ scan)
  | pick => exact wired.drive (callClosed_sound.setPathChoice _ _ _ _ _)
  | unpick => exact wired.drive (callClosed_sound.clearChoice _ _ _ _)
  | settle =>
    unfold UsbWiring.step
    cases w.queuedSettles with
    | zero => exact wired
    | succ n => exact wired.settle n
  | timerExpires =>
    simp only [UsbWiring.step, wired.timers, List.not_mem_nil, if_false]
    exact wired

theorem wired_start (gateway : Option UsbGateway)
    (prefs : Option (AList fun _ : Int × Int => PathChoice)) : Wired (start gateway prefs) := by
  refine ⟨rfl, fun key c there => ?_, rfl, fun key waits => ?_, rfl⟩
  · simp [start, UsbManager.start] at there
  · obtain ⟨c, there, -⟩ := waits
    simp [start, UsbManager.start] at there

/-! ### Runs in which every wait is for a device that is there -/

/-- The event begins no wait, or one for a device that is there.  The controller is the one the event
finds. -/
def EventCovered (present : List Int) (m : UsbManager) (key : Int) (event : UsbEvent) : Prop :=
  key ∈ present ∨ ∀ c ∈ m.controllers.lookup key, m.beginsWait c event = false

/-- A device that is new to the manager is not lost to the first claim on it, or is there. -/
def TrackCovered (present : List Int) (m : UsbManager) (device : UsbDeviceInfo) : Prop :=
  device.vpKey ∈ present ∨ (m.controllers.lookup device.vpKey).isSome ∨
    modelExpectsFrameworkGamepad device.vendorId device.productId = false ∨
    m.resolvePath device.vendorId device.productId = .standard ∨ m.losesNext = false

/-- How the claim that the controller streams through has done up to the scan. -/
def health (scan : UsbManager.UsbScan) (m : UsbManager) (key : Int) (c : UsbController) (id : Int) :
    ClaimHealth :=
  judgeClaimHealth
    { reads := scan.completionCount id, decoded := scan.decodedCount id,
      scans := (m.directScans.lookup key).getD 0 + 1,
      streamsUnprompted := parserStreamsUnprompted (parserForDevice c.vendorId c.productId) }

/-- A claim that streams is readable, or its framework device is there. -/
def JudgeCovered (present : List Int) (scan : UsbManager.UsbScan) (m : UsbManager) (key : Int) :
    Prop :=
  key ∈ present ∨ match m.streaming key with
    | none => True
    | some (c, id) => c.frameworkExpected = false ∨ health scan m key c id ≠ .unreadable

/-- The manager once a claim that has ended is dropped. -/
def endedDropped (scan : UsbManager.UsbScan) (m : UsbManager) (device : UsbDeviceInfo) :
    UsbManager :=
  if m.claimEnded scan device.vpKey then m.onUsbGone device.vendorId device.productId else m

/-- One device of a scan: first it may be new, then its claim is judged. -/
def DeviceCovered (present : List Int) (scan : UsbManager.UsbScan) (m : UsbManager)
    (device : UsbDeviceInfo) : Prop :=
  TrackCovered present (endedDropped scan m device) device ∧
    JudgeCovered present scan ((endedDropped scan m device).ensureTracked device) device.vpKey

/-- A choice for a model: first its device may be new, then the choice finds its controller. -/
def ChoiceCovered (present : List Int) (m : UsbManager) (listed : List UsbDeviceInfo)
    (vendorId productId : Int) (choice : PathChoice) : Prop :=
  (∀ d ∈ listed.find? fun d => d.vendorId == vendorId && d.productId == productId,
    TrackCovered present m d) ∧
  EventCovered present (m.ensureListed listed vendorId productId) (vpKey vendorId productId)
    (.choose choice true)

/-- No device goes from the list under a controller on Standard or waiting for it, and no device of
a scan and no pick gives a pad back, or loses it to a claim, while the list does not show it. -/
def WaitCovered (w : UsbWiring) : Act → Prop
  | .devicesChanged devices =>
    ∀ key ∈ w.lastFrameworkVpKeys, key ∉ frameworkVpKeys devices →
      ∀ c ∈ w.manager.controllers.lookup key, c.phase ≠ .routed ∧ c.phase ≠ .awaitingFramework
  | .scan scan => Along (scanDevice scan) (DeviceCovered (frameworkVpKeys w.devices) scan)
      w.manager scan.devices
  | .pick listed vendorId productId choice =>
    ChoiceCovered (frameworkVpKeys w.devices) (w.manager.setChoice vendorId productId choice) listed
      vendorId productId choice
  | .unpick listed vendorId productId =>
    let dropped := w.manager.dropChoice vendorId productId
    ChoiceCovered (frameworkVpKeys w.devices) dropped listed vendorId productId
      ((dropped.ensureListed listed vendorId productId).resolvePath vendorId productId)
  | .settle | .timerExpires _ _ => True

/-- Every wait of the manager is for a device that is there. -/
def PresentIn (present : List Int) (m : UsbManager) : Prop := ∀ key, m.Awaits key → key ∈ present

section
variable {present : List Int}

theorem PresentIn.of_same (held : PresentIn present m) {m' : UsbManager}
    (same : m'.controllers = m.controllers) : PresentIn present m' := by
  intro key waits
  unfold Awaits at waits
  rw [same] at waits
  exact held key waits

theorem PresentIn.applyEvent (held : PresentIn present m) {event : UsbEvent}
    (outside : FromOutside event) (covered : EventCovered present m key event) :
    PresentIn present (m.applyEvent key event) := by
  intro other waits
  by_cases same : other = key
  · subst same
    rcases awaits_applyEvent outside waits with waited | ⟨c, there, begins⟩
    · exact held other waited
    · rcases covered with shown | none
      · exact shown
      · rw [none c there] at begins
        cases begins
  · unfold Awaits at waits
    rw [lookup_applyEvent_ne same] at waits
    exact held other waits

theorem PresentIn.onUsbGone (held : PresentIn present m) (vendorId productId : Int) :
    PresentIn present (m.onUsbGone vendorId productId) := by
  have outside : FromOutside .usbUnplugged := trivial
  exact (held.applyEvent outside (.inr fun c _ => rfl)).of_same rfl

theorem beginsWait_newController (m m' : UsbManager) (device : UsbDeviceInfo) (choice : PathChoice) :
    m.beginsWait (m'.newController device) (.choose choice false) =
      (decide (choice = .direct) &&
        modelExpectsFrameworkGamepad device.vendorId device.productId && m.losesNext) := by
  cases choice <;> rfl

theorem PresentIn.ensureTracked (held : PresentIn present m) {device : UsbDeviceInfo}
    (covered : TrackCovered present m device) : PresentIn present (m.ensureTracked device) := by
  unfold UsbManager.ensureTracked
  dsimp only
  split
  · exact held.of_same rfl
  case h_2 new =>
    refine PresentIn.applyEvent ?_ trivial ?_
    · rintro key ⟨c, there, phase⟩
      rcases lookup_store there with ⟨-, ⟨⟩⟩ | ⟨-, was⟩
      · cases phase
      · exact held key ⟨c, was, phase⟩
    rcases covered with shown | old | covered
    · exact .inl shown
    · exact absurd old (by simpa using new)
    · refine .inr fun c there => ?_
      rw [lookup_store_self] at there
      obtain rfl := Option.some.inj there
      refine (beginsWait_newController ..).trans ?_
      show (decide (m.resolvePath device.vendorId device.productId = .direct) &&
        modelExpectsFrameworkGamepad device.vendorId device.productId && m.losesNext) = false
      rcases covered with none | standard | kept
      · simp [none]
      · simp [standard]
      · simp [kept]

theorem PresentIn.ensureListed (held : PresentIn present m) {listed : List UsbDeviceInfo}
    {vendorId productId : Int}
    (covered : ∀ d ∈ listed.find? fun d => d.vendorId == vendorId && d.productId == productId,
      TrackCovered present m d) :
    PresentIn present (m.ensureListed listed vendorId productId) := by
  unfold UsbManager.ensureListed
  split
  · exact held
  · split
    case h_1 found => exact held.ensureTracked (covered _ found)
    · exact held

theorem PresentIn.judgeClaim (held : PresentIn present m) {scan : UsbManager.UsbScan}
    (covered : JudgeCovered present scan m key) : PresentIn present (m.judgeClaim scan key) := by
  unfold UsbManager.judgeClaim
  unfold JudgeCovered at covered
  cases streams : m.streaming key with
  | none => exact held.of_same rfl
  | some stream =>
    obtain ⟨c, id⟩ := stream
    simp only [streams] at covered ⊢
    split
    case isFalse => exact held.of_same rfl
    case isTrue unreadable =>
      have outside : FromOutside .claimUnreadable := trivial
      refine PresentIn.applyEvent ?_ outside ?_
      · exact held.of_same rfl
      rcases covered with shown | none | readable
      · exact .inl shown
      · refine .inr fun c' there => ?_
        have same : c' = c := by
          have there : m.controllers.lookup key = some c' := there
          simp only [streaming, there] at streams
          split at streams
          · obtain ⟨_, _, same⟩ := Option.map_eq_some_iff.mp streams
            exact congrArg Prod.fst same
          · cases streams
        simp [beginsWait, same, none]
      · exact absurd unreadable readable

theorem PresentIn.scanDevice (held : PresentIn present m) {scan : UsbManager.UsbScan}
    {device : UsbDeviceInfo} (covered : DeviceCovered present scan m device) :
    PresentIn present (UsbManager.scanDevice scan m device) := by
  have ended : PresentIn present (endedDropped scan m device) := by
    unfold endedDropped
    split
    · exact held.onUsbGone _ _
    · exact held
  exact (ended.ensureTracked covered.1).judgeClaim covered.2

theorem PresentIn.reconcile (held : PresentIn present m) {scan : UsbManager.UsbScan}
    (covered : Along (UsbManager.scanDevice scan) (DeviceCovered present scan) m scan.devices) :
    PresentIn present (m.reconcile scan) := by
  unfold UsbManager.reconcile
  split
  · exact held
  · have seen := run_keeps (I := PresentIn present)
      (fun _ _ before ok => before.scanDevice ok) held covered
    refine run_inv (I := PresentIn present)
      (fun m (e : Sigma fun _ : Int => UsbController) before =>
        before.onUsbGone e.2.vendorId e.2.productId) ?_ _
    exact seen.of_same rfl

theorem PresentIn.choose (held : PresentIn present m) {listed : List UsbDeviceInfo}
    {vendorId productId : Int} {choice : PathChoice}
    (covered : ChoiceCovered present m listed vendorId productId choice) :
    PresentIn present ((m.ensureListed listed vendorId productId).applyEvent
      (vpKey vendorId productId) (.choose choice true)) :=
  (held.ensureListed covered.1).applyEvent trivial covered.2

end

/-- Every wait is for a device the list shows. -/
def WaitsPresent (w : UsbWiring) : Prop := PresentIn (frameworkVpKeys w.devices) w.manager

variable {last : List Int}

theorem lookup_ups_of_last (known : key ∈ last) (devices : List SdlDevice) (m : UsbManager) :
    (devices.foldl (upOne last) m).controllers.lookup key = m.controllers.lookup key := by
  refine List.foldlRecOn (motive := fun m' : UsbManager =>
    m'.controllers.lookup key = m.controllers.lookup key) devices _ rfl ?_
  intro m' same d _
  unfold upOne
  split
  · exact same
  case isFalse new =>
    have ne : key ≠ vpKey d.vendorId d.productId := by
      rintro rfl
      exact new known
    exact (lookup_applyEvent_ne ne m' _).trans same

theorem awaits_ups (devices : List SdlDevice) (m : UsbManager)
    (waits : (devices.foldl (upOne last) m).Awaits key) : m.Awaits key := by
  refine List.foldlRecOn (motive := fun m' => Awaits m' key → m.Awaits key) devices _ id ?_ waits
  intro m' before d _ waits
  unfold upOne at waits
  split at waits
  · exact before waits
  · exact before ((awaits_onFrameworkUp ..).mp waits).2

theorem onStandard_downs (current : List Int) (last : List Int) (m : UsbManager)
    (after : (last.foldl (downOne current) m).OnStandard key) : m.OnStandard key := by
  refine List.foldlRecOn (motive := fun m' => UsbManager.OnStandard m' key → m.OnStandard key) last _ id ?_
    after
  intro m' before k _ after
  unfold downOne at after
  split at after
  · exact before after
  · exact before (onStandard_onFrameworkDown after)

theorem awaits_downs (current : List Int) (last : List Int)
    (keys : ∀ k ∈ last, vpKey (k / 2 ^ 16 % 2 ^ 16) (k % 2 ^ 16) = k)
    (stays : key ∈ last → key ∈ current) (m : UsbManager)
    (waits : (last.foldl (downOne current) m).Awaits key) : m.Awaits key := by
  refine List.foldlRecOn (motive := fun m' => Awaits m' key → m.Awaits key) last _ id ?_ waits
  intro m' before k mem waits
  unfold downOne at waits
  split at waits
  · exact before waits
  case isFalse gone =>
    have ne : key ≠ vpKey (k / 2 ^ 16 % 2 ^ 16) (k % 2 ^ 16) := by
      rw [keys k mem]
      rintro rfl
      exact gone (stays mem)
    obtain ⟨c, there, phase⟩ := waits
    exact before ⟨c, (lookup_applyEvent_ne ne m' _).symm.trans there, phase⟩

variable {devices : List SdlDevice}

theorem vpKey_of_mem_frameworkVpKeys (mem : key ∈ frameworkVpKeys devices) :
    vpKey (key / 2 ^ 16 % 2 ^ 16) (key % 2 ^ 16) = key := by
  obtain ⟨d, -, rfl⟩ := List.mem_map.mp mem
  exact vpKey_unpack d.vendorId d.productId

theorem WaitsPresent.sync (wired : Wired w) (present : WaitsPresent w)
    (covered : WaitCovered w (.devicesChanged devices)) :
    WaitsPresent (w.step (.devicesChanged devices)) := by
  intro key waits
  have settled := awaits_settleIn (m := comeAndGone { w with devices := devices })
    ((sound_comeAndGone { w with devices := devices }).ids wired.ids) waits
  obtain ⟨waits, absent⟩ := settled
  by_cases last : key ∈ w.lastFrameworkVpKeys
  · -- It vanished, and was on Standard before: the condition rules that out.
    obtain ⟨c, there, phase⟩ := onStandard_downs (frameworkVpKeys devices) w.lastFrameworkVpKeys _
      (waits.imp fun c h => ⟨h.1, .inr h.2⟩)
    rw [lookup_ups_of_last last] at there
    have neither := covered key last absent c there
    rcases phase with routed | waiting
    · exact absurd routed neither.1
    · exact absurd waiting neither.2
  · -- It was not listed before, so nothing waited for it.
    have keys : ∀ k ∈ w.lastFrameworkVpKeys, vpKey (k / 2 ^ 16 % 2 ^ 16) (k % 2 ^ 16) = k := by
      rw [wired.last]
      exact fun k mem => vpKey_of_mem_frameworkVpKeys mem
    have before := awaits_downs (frameworkVpKeys devices) w.lastFrameworkVpKeys keys
      (fun mem => absurd mem last) _ waits
    have waited := awaits_ups _ w.manager before
    rw [wired.last] at last
    exact absurd (present key waited) last

theorem WaitsPresent.step (wired : Wired w) (present : WaitsPresent w) {act : Act}
    (covered : WaitCovered w act) : WaitsPresent (w.step act) := by
  cases act with
  | devicesChanged => exact present.sync wired covered
  | scan => exact PresentIn.reconcile present covered
  | pick listed vendorId productId choice =>
    have picked : PresentIn (frameworkVpKeys w.devices)
        (w.manager.setChoice vendorId productId choice) := PresentIn.of_same present rfl
    exact picked.choose covered
  | unpick listed vendorId productId =>
    have dropped : PresentIn (frameworkVpKeys w.devices)
        (w.manager.dropChoice vendorId productId) := PresentIn.of_same present rfl
    exact dropped.choose covered
  | settle =>
    unfold UsbWiring.step
    cases w.queuedSettles with
    | zero => exact present
    | succ n => exact fun key waits => present key (awaits_settleIn wired.ids waits).1
  | timerExpires =>
    simp only [UsbWiring.step, wired.timers, List.not_mem_nil, if_false]
    exact present

instance (present : List Int) (scan : UsbManager.UsbScan) (m : UsbManager) (device : UsbDeviceInfo) :
    Decidable (DeviceCovered present scan m device) := by
  unfold DeviceCovered TrackCovered JudgeCovered
  have : ∀ m : UsbManager, Decidable (match m.streaming device.vpKey with
      | none => True
      | some (c, id) => c.frameworkExpected = false ∨ health scan m device.vpKey c id ≠ .unreadable) := by
    intro m
    split <;> infer_instance
  infer_instance

instance (w : UsbWiring) (act : Act) : Decidable (WaitCovered w act) := by
  unfold WaitCovered ChoiceCovered EventCovered TrackCovered
  split <;> infer_instance

end UsbWiring

/-- **No pad is stranded in a covered run.**  In a run in which no device vanishes under a controller
on Standard or waiting for it, and no scan or pick begins a wait for a device that is not listed:
once no pass is queued, no controller waits any more, so each that waits for an absent device has
its timer. -/
theorem no_pad_stranded (gateway : Option UsbGateway)
    (prefs : Option (AList fun _ : Int × Int => PathChoice)) (acts : List UsbWiring.Act)
    (covered : Along UsbWiring.step UsbWiring.WaitCovered (.start gateway prefs) acts) :
    let w := run UsbWiring.step (.start gateway prefs) acts
    w.queuedSettles = 0 →
      (∀ key c, w.manager.controllers.lookup key = some c → c.phase = .awaitingFramework →
        key ∉ frameworkVpKeys w.devices → (c.vendorId, c.productId) ∈ w.timers) ∧
      ∀ key c, w.manager.controllers.lookup key = some c → c.phase ≠ .awaitingFramework := by
  intro w quiet
  have both := run_keeps (I := fun w => UsbWiring.Wired w ∧ UsbWiring.WaitsPresent w)
    (fun w act held ok => ⟨held.1.step act, held.2.step held.1 ok⟩)
    ⟨UsbWiring.wired_start gateway prefs, fun key waits => by
      obtain ⟨c, there, -⟩ := waits
      simp [UsbWiring.start, start] at there⟩ covered
  have none : ∀ key c, w.manager.controllers.lookup key = some c →
      c.phase ≠ .awaitingFramework := by
    intro key c there phase
    have shown := both.2 key ⟨c, there, phase⟩
    exact absurd quiet (Nat.ne_of_gt (both.1.queued key ⟨c, there, phase⟩ shown))
  exact ⟨fun key c there phase => absurd phase (none key c there), none⟩

/-- A gateway that grants every claim. -/
def grantingGateway : UsbGateway where
  refuses _ := none
  syntheticIds n := n
  fresh _ _ h := Int.ofNat.inj h
  isKnownFastLaneModel _ _ := true

/-- A pad that SDL lists is claimed, given back on a Standard pick, and settles. -/
theorem no_pad_stranded_given_back :
    let acts : List UsbWiring.Act :=
      [.devicesChanged [⟨0x054C, 0x0CE6⟩],
        .scan { devices := [{ vendorId := 0x054C, productId := 0x0CE6 }] },
        .pick [] 0x054C 0x0CE6 .standard, .settle, .settle, .settle, .settle]
    let w := run UsbWiring.step (.start (some grantingGateway) none) acts
    w.queuedSettles = 0 ∧ ∀ key c, w.manager.controllers.lookup key = some c →
      c.phase ≠ .awaitingFramework := by
  have quiet : (run UsbWiring.step (.start (some grantingGateway) none)
      [.devicesChanged [⟨0x054C, 0x0CE6⟩],
        .scan { devices := [{ vendorId := 0x054C, productId := 0x0CE6 }] },
        .pick [] 0x054C 0x0CE6 .standard, .settle, .settle, .settle, .settle]).queuedSettles = 0 := by
    decide +kernel
  exact ⟨quiet, (no_pad_stranded (some grantingGateway) none _ (by decide +kernel) quiet).2⟩

/-- A tracked pad on Standard whose SDL device goes away, with the bus still listing it: nothing is
queued, the controller waits, its device is absent and no timer is armed. -/
theorem vanished_pad_stranded :
    let w := run UsbWiring.step (.start (some grantingGateway) none)
      [.devicesChanged [⟨0x054C, 0x0CE6⟩],
        .pick [{ vendorId := 0x054C, productId := 0x0CE6 }] 0x054C 0x0CE6 .standard,
        .devicesChanged [], .settle, .settle, .settle, .settle, .settle]
    w.queuedSettles = 0 ∧ w.manager.Awaits (vpKey 0x054C 0x0CE6) ∧
      vpKey 0x054C 0x0CE6 ∉ frameworkVpKeys w.devices ∧ w.timers = [] := by
  decide +kernel

end Dish
