/-
What a Moonlight session remembers under each controller number.

A session keeps five tables under a controller number: the touch frame, the held click, the last
report, the motion the host asked for and the rumble it left on.  `laid n e sent s` is the session
`s` with the entries `e` laid over it under the number `n`, and with `sent` sent so far.

  * What the pads of the other numbers do, and what pads come and go, passes under what lies over
    the session: it changes the entries in one way, and sends the same, whatever they are.
  * What the number's own pad does, and what the host sends it, changes nothing but its entries.
-/
import Dish.Lib.Unwinding
import Dish.Proofs.MoonlightSession

namespace Dish.Moonlight

open Table Function SessionInput MotionGate

variable {k : UInt16}

/-! ### What a streaming session is given -/

def Session.HostEvent.number : Session.HostEvent → Option UInt16
  | .rumble n .. | .rumbleTriggers n .. | .motionRequest n .. | .rgbLed n .. => some n
  | .termination | .unknown => none

/-- The pads come and go, report and are switched, and the host sends its events. -/
def SessionInput.riding : SessionInput → Bool
  | .attach .. | .detach _ | .reannounce .. | .hostEvent _ | .controllerState .. | .motion ..
  | .motionAllowed .. | .battery .. | .touchFrame .. | .touchReaches .. => true
  | _ => false

/-- An input of the pad under a number, or the host's for it: what makes the pad's history. -/
def SessionInput.concerns (n : PadNumber) : SessionInput → Bool
  | .hostEvent event => event.number.any (·.toNat = n.val)
  | .controllerState k _ => k = n.val
  | .motion k .. => k = n
  | .battery k .. => k = n
  | .touchFrame k .. => k = n.val
  | _ => false

/-- An input of a streaming session. -/
abbrev Traffic : Type := { input : SessionInput // input.riding = true }

/-- No contact, and the user's switch as it is. -/
def PadTouch.lifted (pad : PadTouch) : PadTouch := { pad with lastFrame := {} }

namespace MotionGate

/-- Whether a sample is due, from the two entries that decide it. -/
def due (rate : Option Nat) (last : Option Int) (nowUs : Int) : Bool :=
  match rate, last with
  | none, _ => false
  | some _, none => true
  | some rate, some last => !decide (nowUs - last < 1000000 / rate)

theorem shouldSend_eq (gate : MotionGate) (key : MotionKey) (nowUs : Int) :
    gate.shouldSend key nowUs =
      if due (gate.rates key) (gate.lastSentUs key) nowUs then
        (true, { gate with lastSentUs := update gate.lastSentUs key (some nowUs) })
      else (false, gate) := by
  unfold shouldSend due
  cases gate.rates key with
  | none => rfl
  | some rate =>
    cases gate.lastSentUs key with
    | none => rfl
    | some last =>
      by_cases early : nowUs - last < 1000000 / rate
      · simp [early]
      · simp [early]

end MotionGate

namespace Session

variable {f : Session → Session} {g : Entry → Entry} (s : Session) (m : PadNumber) (slotId : String)
  (storedType : Int) (source : SourceCapabilities)

def ride (w : World) (s : Session) (input : Traffic) : Session := s.onInput w input.1

/-! ### What is remembered under a number -/

/-- What the session remembers under one number. -/
structure Entry where
  touch : PadTouch
  clickHeld : Bool
  lastReport : LastReport
  rates : Nat → Option Nat
  lastSentUs : Nat → Option Int
  rumbleMix : RumbleMix

def entry (n : PadNumber) (s : Session) : Entry :=
  { touch := s.touch n
    clickHeld := s.clickHeld n
    lastReport := s.lastReport n
    rates := fun motionType => s.motionGate.rates ⟨n.val, motionType⟩
    lastSentUs := fun motionType => s.motionGate.lastSentUs ⟨n.val, motionType⟩
    rumbleMix := s.rumbleMix n.val }

/-- No contact and no click. -/
def Entry.lift (e : Entry) : Entry := { e with touch := e.touch.lifted, clickHeld := false }

/-- No motion asked for. -/
def Entry.unsubscribe (e : Entry) : Entry :=
  { e with rates := fun _ => none, lastSentUs := fun _ => none }

/-- The session with the entries of a number laid over it, and with what has been sent. -/
def laid (n : PadNumber) (e : Entry) (sent : List Out) (s : Session) : Session :=
  { s with
    touch := update s.touch n e.touch
    clickHeld := update s.clickHeld n e.clickHeld
    lastReport := update s.lastReport n e.lastReport
    motionGate :=
      { rates := lay (·.controllerNumber = n.val) (e.rates ·.motionType) s.motionGate.rates
        lastSentUs :=
          lay (·.controllerNumber = n.val) (e.lastSentUs ·.motionType) s.motionGate.lastSentUs }
    rumbleMix := update s.rumbleMix n.val e.rumbleMix
    out := sent }

variable {n : PadNumber} {u : Session} {e : Entry} {x : List Out}

theorem entry_laid (e : Entry) (x : List Out) (u : Session) : (laid n e x u).entry n = e := by
  simp [entry, laid, lay]

theorem laid_laid (f : Entry) (y : List Out) : laid n e x (laid n f y u) = laid n e x u := by
  simp [laid, lay_lay]

theorem laid_entry : laid n (s.entry n) s.out s = s := by
  have rates : lay (·.controllerNumber = n.val) ((s.entry n).rates ·.motionType)
      s.motionGate.rates = s.motionGate.rates := lay_self fun key own => by simp [entry, ← own]
  have last : lay (·.controllerNumber = n.val) ((s.entry n).lastSentUs ·.motionType)
      s.motionGate.lastSentUs = s.motionGate.lastSentUs :=
    lay_self fun key own => by simp [entry, ← own]
  unfold laid
  rw [rates, last]
  simp [entry]

theorem entry_laid_ne {m : PadNumber} (other : m ≠ n) : (laid n e x u).entry m = u.entry m := by
  have other' : m.val ≠ n.val := fun h => other (Fin.ext h)
  simp [entry, laid, lay, other, other']

/-! ### What passes under the entries -/

/-- The function changes what lies over the session in one way, and sends the same, whatever it
is. -/
def Passes (n : PadNumber) (u : Session) (f : Session → Session) (g : Entry → Entry) : Prop :=
  ∃ sent, ∀ e x, f (laid n e x u) = laid n (g e) (x ++ sent) (f u)

theorem Passes.silent (h : ∀ e x, f (laid n e x u) = laid n (g e) x (f u)) : Passes n u f g :=
  ⟨[], by simpa using h⟩

theorem Passes.id : Passes n u (fun s => s) (fun e => e) := .silent fun _ _ => rfl

theorem Passes.comp {f' : Session → Session} {g' : Entry → Entry} (h' : Passes n (f u) f' g')
    (h : Passes n u f g) : Passes n u (fun s => f' (f s)) (fun e => g' (g e)) := by
  obtain ⟨sent, eq⟩ := h
  obtain ⟨sent', eq'⟩ := h'
  refine ⟨sent ++ sent', ?_⟩
  intro e x
  show f' (f (laid n e x u)) = _
  rw [eq, eq', List.append_assoc]

theorem Passes.reading {γ : Type*} (read : Session → γ) {f : γ → Session → Session}
    (outside : ∀ e x, read (laid n e x u) = read u) (h : Passes n u (f (read u)) g) :
    Passes n u (fun s => f (read s) s) g := by
  obtain ⟨sent, eq⟩ := h
  refine ⟨sent, ?_⟩
  intro e x
  simp only [outside]
  exact eq e x

theorem Passes.entry (h : Passes n u f g) : (f u).entry n = g (u.entry n) := by
  obtain ⟨sent, eq⟩ := h
  have self := eq (u.entry n) u.out
  rw [laid_entry] at self
  rw [self, entry_laid]

theorem passes_emit (o : Out) : Passes n u (·.emit o) (fun e => e) := ⟨[o], fun _ _ => rfl⟩

theorem passes_send (packet : Packet) : Passes n u (·.send packet) (fun e => e) :=
  passes_emit (.packet packet)

/-- What an entry becomes where the number is the one that was meant. -/
def Entry.meant (m : Option PadNumber) (n : PadNumber) (g : Entry → Entry) (e : Entry) : Entry :=
  if m = some n then g e else e

theorem passes_forgetTouchFrame :
    Passes n u (·.forgetTouchFrame m) (Entry.meant (some m) n Entry.lift) := by
  refine .silent fun e x => ?_
  by_cases here : m = n
  · subst here
    simp [laid, forgetTouchFrame, flipClick, Entry.meant, Entry.lift, PadTouch.lifted]
  · have other : n ≠ m := fun h => here h.symm
    simp [laid, forgetTouchFrame, flipClick, Entry.meant, here, update_comm other]

theorem passes_announce (pad : PadDeclaration) : Passes n u (·.announce pad) (fun e => e) :=
  ⟨[.packet (.arrival pad.number pad.type pad.capabilities pad.buttons),
    .packet (restingMulti pad.number u.activeMask)], fun _ _ => by simp [announce, laid, send, emit]⟩

theorem passes_announcePad : Passes n u (·.announcePad slotId) (fun e => e) := by
  have eq : (fun s : Session => s.announcePad slotId) = fun s =>
      if !s.connected then s else (s.padFor slotId).elim s s.announce := by
    funext s
    unfold announcePad
    cases s.padFor slotId <;> rfl
  rw [eq]
  refine Passes.reading (fun s : Session => (s.connected, s.padFor slotId))
    (f := fun (c : Bool × Option PadDeclaration) s =>
      if !c.1 then s else c.2.elim s s.announce) (fun _ _ => rfl) ?_
  cases u.connected with
  | false => exact Passes.id
  | true =>
    cases u.padFor slotId with
    | none => exact Passes.id
    | some pad => exact passes_announce pad

/-- Who rides the session. -/
def withPads (slots : PadSlots) (pads : List (String × PadDeclaration)) (s : Session) : Session :=
  { s with slots := slots, pads := pads }

def withMask (mask : UInt16) (s : Session) : Session := { s with activeMask := mask }

theorem passes_withPads (slots : PadSlots) (pads : List (String × PadDeclaration)) :
    Passes n u (withPads slots pads) (fun e => e) := .silent fun _ _ => rfl

theorem passes_withMask (mask : UInt16) : Passes n u (withMask mask) (fun e => e) :=
  .silent fun _ _ => rfl

/-- What attaching does once the number is there. -/
def seat (slotId : String) (storedType : Int) (source : SourceCapabilities)
    (assigned : Option (PadNumber × PadSlots)) (pads : List (String × PadDeclaration))
    (s : Session) : Session :=
  match assigned with
  | none => s
  | some (number, slots) =>
    announcePad (withMask slots.activeMask (forgetTouchFrame (withPads slots
      (setPad pads slotId (declarationFor number storedType source)) s) number)) slotId

theorem attachController_eq :
    (s.attachController slotId storedType source).2 =
      seat slotId storedType source (s.slots.assign slotId) s.pads s := by
  unfold attachController seat
  cases s.slots.assign slotId <;> rfl

theorem passes_attachController :
    Passes n u (fun s => (s.attachController slotId storedType source).2)
      (Entry.meant ((u.slots.assign slotId).map (·.1)) n Entry.lift) := by
  simp only [attachController_eq]
  refine Passes.reading (fun s : Session => (s.slots.assign slotId, s.pads))
    (f := fun c => seat slotId storedType source c.1 c.2) (fun _ _ => rfl) ?_
  cases u.slots.assign slotId with
  | none => exact Passes.id
  | some assigned =>
    exact (passes_announcePad slotId).comp ((passes_withMask _).comp
      ((passes_forgetTouchFrame _).comp (passes_withPads _ _)))

/-- What detaching does once the number is known. -/
def unseat (released : Option PadNumber) (slots : PadSlots)
    (pads : List (String × PadDeclaration)) (connected : Bool) (s : Session) : Session :=
  match released with
  | none => withMask slots.activeMask (withPads slots pads s)
  | some number =>
    let s := withMask slots.activeMask (forgetTouchFrame (withPads slots pads s) number)
    if connected then s.send (restingMulti number slots.activeMask) else s

theorem detachController_eq :
    (s.detachController slotId).2 =
      unseat (s.slots.release slotId).1 (s.slots.release slotId).2
        (s.pads.filter (·.1 ≠ slotId)) s.connected s := by
  unfold detachController unseat
  cases s.slots.release slotId with
  | mk released slots => cases released <;> rfl

theorem passes_detachController :
    Passes n u (fun s => (s.detachController slotId).2)
      (Entry.meant (u.slots.numberFor slotId) n Entry.lift) := by
  simp only [detachController_eq]
  refine Passes.reading (fun s : Session => (s.slots, s.pads, s.connected))
    (f := fun c => unseat (c.1.release slotId).1 (c.1.release slotId).2
      (c.2.1.filter (·.1 ≠ slotId)) c.2.2) (fun _ _ => rfl) ?_
  show Passes n u (unseat (u.slots.numberFor slotId) _ _ u.connected) _
  cases u.slots.numberFor slotId with
  | none => exact (passes_withMask _).comp (passes_withPads _ _)
  | some number =>
    have left := (passes_withMask (u.slots.release slotId).2.activeMask).comp
      ((passes_forgetTouchFrame number).comp (passes_withPads (n := n) (u := u)
        (u.slots.release slotId).2 (u.pads.filter (·.1 ≠ slotId))))
    cases u.connected with
    | false => exact left
    | true => exact (passes_send _).comp left

theorem passes_clearMotion :
    Passes n u (fun s => { s with motionGate := s.motionGate.clear m.val })
      (Entry.meant (some m) n Entry.unsubscribe) := by
  refine .silent fun e x => ?_
  by_cases here : m = n
  · subst here
    simp only [laid, clear, Entry.meant, if_true, Entry.unsubscribe, Session.mk.injEq,
      MotionGate.mk.injEq, true_and, and_true]
    constructor <;> funext key <;> simp only [lay] <;> split <;> rfl
  · have other : n.val ≠ m.val := fun h => here (Fin.ext h.symm)
    simp only [laid, clear, Entry.meant, Option.some.injEq, if_neg here, Session.mk.injEq,
      MotionGate.mk.injEq, true_and, and_true]
    constructor <;> funext key <;> simp only [lay] <;> split_ifs <;> simp_all

theorem passes_replugPad (pad : PadDeclaration) : Passes n u (·.replugPad pad) (fun e => e) := by
  refine Passes.reading (fun s : Session => (s.connected, s.activeMask))
    (f := fun (c : Bool × UInt16) s => if !c.1 then s else
      (s.send (.replug pad.number (c.2 &&& ~~~(1 <<< UInt16.ofNat pad.number.val)) pad.type
        pad.capabilities pad.buttons)).send (restingMulti pad.number c.2)) (fun _ _ => rfl) ?_
  cases u.connected with
  | false => exact Passes.id
  | true => exact (passes_send _).comp (passes_send _)

/-- What declaring a pad anew does once the declaration it has is known. -/
def redeclare (slotId : String) (storedType : Int) (source : SourceCapabilities)
    (held : Option PadDeclaration) (pads : List (String × PadDeclaration)) (slots : PadSlots)
    (s : Session) : Session :=
  match held with
  | none => s
  | some held =>
    let wanted := declarationFor held.number storedType source
    if !hostBuildsAnotherPad { type := held.type, capabilities := held.capabilities }
        { type := wanted.type, capabilities := wanted.capabilities } then s
    else
      let s := withPads slots
        (pads.map fun (slot, pad) => (slot, if slot = slotId then wanted else pad)) s
      replugPad (forgetTouchFrame
        { s with motionGate := s.motionGate.clear wanted.number.val } wanted.number) wanted

theorem reannounceController_eq :
    (s.reannounceController slotId storedType source).2 =
      redeclare slotId storedType source (s.padFor slotId) s.pads s.slots s := by
  unfold reannounceController redeclare
  cases s.padFor slotId with
  | none => rfl
  | some held =>
    dsimp only
    split <;> rfl

/-- The number whose pad the host is made to build anew. -/
def rebuilds (s : Session) (slotId : String) (storedType : Int) (source : SourceCapabilities) :
    Option PadNumber :=
  match s.padFor slotId with
  | none => none
  | some held =>
    let wanted := declarationFor held.number storedType source
    if hostBuildsAnotherPad { type := held.type, capabilities := held.capabilities }
        { type := wanted.type, capabilities := wanted.capabilities } then some held.number
    else none

theorem passes_reannounceController :
    Passes n u (fun s => (s.reannounceController slotId storedType source).2)
      (Entry.meant (u.rebuilds slotId storedType source) n (fun e => e.unsubscribe.lift)) := by
  simp only [reannounceController_eq]
  refine Passes.reading (fun s : Session => (s.padFor slotId, s.pads, s.slots))
    (f := fun c => redeclare slotId storedType source c.1 c.2.1 c.2.2) (fun _ _ => rfl) ?_
  unfold rebuilds
  cases u.padFor slotId with
  | none => exact Passes.id
  | some held =>
    unfold redeclare
    dsimp only
    cases hostBuildsAnotherPad { type := held.type, capabilities := held.capabilities }
      { type := (declarationFor held.number storedType source).type,
        capabilities := (declarationFor held.number storedType source).capabilities } with
    | false => exact Passes.id
    | true =>
      have rebuilt := (passes_replugPad (declarationFor held.number storedType source)).comp
        ((passes_forgetTouchFrame held.number).comp
        ((passes_clearMotion held.number).comp (passes_withPads (n := n) (u := u) u.slots
          (u.pads.map fun (slot, pad) =>
            (slot, if slot = slotId then declarationFor held.number storedType source else pad)))))
      have both : ∀ e, Entry.meant (some held.number) n Entry.lift
          (Entry.meant (some held.number) n Entry.unsubscribe e) =
          Entry.meant (some held.number) n (fun e => e.unsubscribe.lift) e := by
        intro e
        unfold Entry.meant
        split <;> rfl
      simp only [both] at rebuilt
      exact rebuilt

theorem passes_setTouchReaches (reaches : Bool) :
    Passes n u (·.setTouchReaches m reaches)
      (Entry.meant (some m) n fun e => { e with touch := { e.touch with reaches := reaches } }) := by
  refine .silent fun e x => ?_
  by_cases here : m = n
  · subst here
    simp [laid, setTouchReaches, Entry.meant]
  · have other : n ≠ m := fun h => here h.symm
    simp [laid, setTouchReaches, Entry.meant, here, update_comm other]

/-! ### The pads' own packets and the host's events -/

theorem passes_sendControllerState {k : Nat} (other : k ≠ n.val) (report : LastReport) :
    Passes n u (·.sendControllerState k report) (fun e => e) := by
  unfold sendControllerState
  by_cases h : k < kMaxPads
  · have foreign : n ≠ ⟨k, h⟩ := fun here => other (congrArg Fin.val here).symm
    simp only [dif_pos h]
    refine ⟨[.packet (.multi ⟨k, h⟩ u.activeMask (toMoonlightButtons report.internalButtons |||
      touchpadClick (u.clickHeld ⟨k, h⟩)) report.lt report.rt report.lx report.ly report.rx
        report.ry)], fun e x => ?_⟩
    simp [laid, send, emit, update_comm foreign, foreign.symm]
  · simp only [dif_neg h]
    exact Passes.id

/-- Whether a sample goes out. -/
def samples (m : PadNumber) (motionType : UInt8) (nowUs : Int) (u : Session) : Bool :=
  !u.motionOff m && due ((u.entry m).rates motionType.toNat)
    ((u.entry m).lastSentUs motionType.toNat) nowUs

/-- A sample sent, and the time of it noted. -/
def sample (m : PadNumber) (motionType : UInt8) (x y z : Rat) (nowUs : Int) (u : Session) :
    Session :=
  { u with
    motionGate := { u.motionGate with
      lastSentUs := update u.motionGate.lastSentUs ⟨m.val, motionType.toNat⟩
        (some nowUs) } }.send (.motion m motionType x y z)

theorem sendMotion_eq (u : Session) (m : PadNumber) (motionType : UInt8) (x y z : Rat)
    (nowUs : Int) :
    u.sendMotion m motionType x y z nowUs =
      if samples m motionType nowUs u then sample m motionType x y z nowUs u else u := by
  unfold sendMotion samples entry
  rw [shouldSend_eq]
  cases u.motionOff m with
  | true => rfl
  | false =>
    cases due (u.motionGate.rates ⟨m.val, motionType.toNat⟩)
      (u.motionGate.lastSentUs ⟨m.val, motionType.toNat⟩) nowUs <;> rfl

theorem passes_sendMotion {m : PadNumber} (other : m ≠ n) (motionType : UInt8) (x y z : Rat)
    (nowUs : Int) : Passes n u (·.sendMotion m motionType x y z nowUs) (fun e => e) := by
  have foreign : m.val ≠ n.val := fun h => other (Fin.ext h)
  have due : ∀ e x, samples m motionType nowUs (laid n e x u) = samples m motionType nowUs u := by
    intro e x
    unfold samples
    rw [entry_laid_ne other]
    rfl
  simp only [sendMotion_eq]
  unfold Passes
  simp only [due]
  split
  · refine ⟨[.packet (.motion m motionType x y z)], fun e sent => ?_⟩
    simp [laid, sample, send, emit, update_lay_of_not, foreign]
  · exact Passes.id

theorem passes_touchEvents (events : List TouchEvent) :
    Passes n u (fun s => events.foldl (fun s event => s.send (.touch m event)) s) (fun e => e) := by
  induction events generalizing u with
  | nil => exact Passes.id
  | cons event rest ih => exact ih.comp (passes_send _)

/-- The transitions a frame makes, and the frame remembered. -/
def framed (pad : PadTouch) (finger0 finger1 : TouchFinger) : List TouchEvent × TouchDiffer :=
  if pad.reaches then pad.lastFrame.diff finger0 finger1 else pad.lastFrame.diff {} {}

/-- What a frame of a pad leaves behind, from the two entries it reads. -/
def retouch (m : PadNumber) (pad : PadTouch) (finger0 finger1 : TouchFinger) (pressed : Bool)
    (s : Session) : Session :=
  { s with
    touch := update s.touch m { pad with lastFrame := (framed pad finger0 finger1).2 }
    clickHeld := update s.clickHeld m (pressed && pad.reaches) }

/-- A click edge replays the last report. -/
def replayEdge (m : PadNumber) (wasHeld held : Bool) (s : Session) : Session :=
  if wasHeld = held then s else s.replayWithClick m held

theorem sendTouchFrame_eq (finger0 finger1 : TouchFinger) (pressed : Bool) :
    s.sendTouchFrame m.val finger0 finger1 pressed =
      (framed (s.touch m) finger0 finger1).1.foldl (fun s event => s.send (.touch m event))
        (replayEdge m (s.clickHeld m) (pressed && (s.touch m).reaches)
          (retouch m (s.touch m) finger0 finger1 pressed s)) := by
  unfold sendTouchFrame
  rw [dif_pos m.isLt]
  unfold flipClick replayEdge retouch framed
  dsimp only [Fin.eta]
  split_ifs <;> rfl

theorem passes_sendTouchFrame {m : PadNumber} (other : m ≠ n) (finger0 finger1 : TouchFinger)
    (pressed : Bool) :
    Passes n u (·.sendTouchFrame m.val finger0 finger1 pressed) (fun e => e) := by
  have foreign : n ≠ m := fun h => other h.symm
  have read : ∀ e x, (laid n e x u).touch m = u.touch m ∧
      (laid n e x u).clickHeld m = u.clickHeld m := by
    intro e x
    simp [laid, other]
  have touched : Passes n u (retouch m (u.touch m) finger0 finger1 pressed) (fun e => e) :=
    .silent fun e x => by simp [laid, retouch, update_comm foreign]
  have edge : ∀ v : Session, Passes n v
      (replayEdge m (u.clickHeld m) (pressed && (u.touch m).reaches)) (fun e => e) := by
    intro v
    unfold replayEdge
    split
    · exact Passes.id
    · exact ⟨[_], fun e x => by simp [laid, replayWithClick, send, emit, other]; rfl⟩
  simp only [sendTouchFrame_eq]
  unfold Passes
  simp only [read]
  exact (passes_touchEvents m _).comp ((edge _).comp touched)

theorem passes_applyRumble (other : k.toNat ≠ n.val) (mix : RumbleMix → RumbleMix) :
    Passes n u (fun s => s.applyRumble k (mix (s.rumbleMix k.toNat))) (fun e => e) := by
  have foreign : n.val ≠ k.toNat := fun h => other h.symm
  refine ⟨[.rumble k.toUInt8 (mixRumble (mix (u.rumbleMix k.toNat))).strong
    (mixRumble (mix (u.rumbleMix k.toNat))).weak], fun e x => ?_⟩
  simp [laid, applyRumble, emit, other, update_comm foreign]

theorem passes_onHostEvent {event : HostEvent}
    (other : event.number.any (·.toNat = n.val) = false) :
    Passes n u (·.onHostEvent event) (fun e => e) := by
  cases event with
  | rumble k low high =>
    exact passes_applyRumble (by simpa [HostEvent.number] using other) (withBodyRumble · low high)
  | rumbleTriggers k left right =>
    exact passes_applyRumble (by simpa [HostEvent.number] using other)
      (withTriggerRumble · left right)
  | rgbLed => exact passes_emit _
  | motionRequest k =>
    have foreign : ¬k.toNat = n.val := by simpa [HostEvent.number] using other
    refine .silent fun e x => ?_
    simp only [onHostEvent, laid, onMotionRequest]
    split <;> simp [update_lay_of_not, foreign]
  | termination | unknown => exact Passes.id

end Session

namespace SessionInput

/-- What the comings and goings of pads and the user's switch do to the entries of a number. -/
def acts (n : PadNumber) (u : Session) : SessionInput → Session.Entry → Session.Entry
  | .attach slotId .. =>
    Session.Entry.meant ((u.slots.assign slotId).map (·.1)) n Session.Entry.lift
  | .detach slotId => Session.Entry.meant (u.slots.numberFor slotId) n Session.Entry.lift
  | .reannounce slotId storedType source =>
    Session.Entry.meant (u.rebuilds slotId storedType source) n fun e => e.unsubscribe.lift
  | .touchReaches m reaches =>
    Session.Entry.meant (some m) n fun e => { e with touch := { e.touch with reaches := reaches } }
  | _ => fun e => e

end SessionInput

namespace Session

variable {n : PadNumber} {u : Session}

variable (w : World) (s : Session)

/-- **What other pads do, and what the host sends them, is the same whatever the number's own pad
did.** -/
theorem passes_onInput {input : SessionInput} (riding : input.riding = true)
    (other : input.concerns n = false) : Passes n u (·.onInput w input) (input.acts n u) := by
  cases input with
  | attach slotId storedType source => exact passes_attachController slotId storedType source
  | detach slotId => exact passes_detachController slotId
  | reannounce slotId storedType source =>
    exact passes_reannounceController slotId storedType source
  | hostEvent => exact passes_onHostEvent other
  | controllerState k report =>
    exact passes_sendControllerState (by simpa [concerns] using other) report
  | motion m motionType x y z nowUs =>
    exact passes_sendMotion (by simpa [concerns] using other) motionType x y z nowUs
  | motionAllowed => exact .silent fun _ _ => rfl
  | battery => exact passes_send _
  | touchFrame k finger0 finger1 pressed =>
    have foreign : k ≠ n.val := by simpa [concerns] using other
    by_cases h : k < kMaxPads
    · have ne : (⟨k, h⟩ : PadNumber) ≠ n := fun here => foreign (congrArg Fin.val here)
      exact passes_sendTouchFrame ne finger0 finger1 pressed
    · simp only [onInput, sendTouchFrame, dif_neg h]
      exact Passes.id
  | touchReaches m reaches => exact passes_setTouchReaches m reaches
  | _ => cases riding

/-! ### What the number's own pad does -/

variable {e : Entry} {x : List Out}

theorem own_controllerState (report : LastReport) :
    (laid n e x u).onInput w (.controllerState n.val report) =
      laid n { e with lastReport := report } (x ++ [.packet (.multi n u.activeMask
        (toMoonlightButtons report.internalButtons ||| touchpadClick e.clickHeld)
        report.lt report.rt report.lx report.ly report.rx report.ry)]) u := by
  simp [onInput, sendControllerState, n.isLt, laid, send, emit]

theorem own_applyRumble (own : k.toNat = n.val) (mix : RumbleMix → RumbleMix) :
    (laid n e x u).applyRumble k (mix ((laid n e x u).rumbleMix k.toNat)) =
      laid n { e with rumbleMix := mix e.rumbleMix } (x ++ [.rumble k.toUInt8
        (mixRumble (mix e.rumbleMix)).strong (mixRumble (mix e.rumbleMix)).weak]) u := by
  simp [laid, applyRumble, emit, own]

/-- The subscription to one kind of motion, after a request for it. -/
def Entry.request (e : Entry) (rate motionType : Nat) : Entry :=
  { e with
    rates := update e.rates motionType (if rate = 0 then none else some rate)
    lastSentUs := if rate = 0 then update e.lastSentUs motionType none
      else e.lastSentUs }

theorem update_own {γ : Type} (top : Nat → γ) (t : MotionKey → γ) (kind : Nat) (v : γ) :
    update (lay (·.controllerNumber = n.val) (top ·.motionType) t) ⟨n.val, kind⟩ v =
      lay (·.controllerNumber = n.val) (update top kind v ·.motionType) t := by
  rw [update_lay_of (p := fun key : MotionKey => key.controllerNumber = n.val) rfl]
  funext ⟨number, other⟩
  unfold lay
  split
  · rename_i own
    subst own
    by_cases here : other = kind
    · subst here
      simp
    · simp [here]
  · rfl

theorem own_motionRequest (own : k.toNat = n.val) (rate : UInt16)
    (motionType : UInt8) :
    (laid n e x u).onInput w (.hostEvent (.motionRequest k rate motionType)) =
      laid n (e.request rate.toNat motionType.toNat) x u := by
  simp only [onInput, onHostEvent, laid, onMotionRequest, own, Entry.request]
  split <;> simp only [update_own]

theorem own_motion (motionType : UInt8) (a b c : Rat) (nowUs : Int) :
    (laid n e x u).onInput w (.motion n motionType a b c nowUs) =
      if !u.motionOff n && due (e.rates motionType.toNat) (e.lastSentUs motionType.toNat) nowUs then
        laid n { e with
          lastSentUs := update e.lastSentUs motionType.toNat (some nowUs) }
          (x ++ [.packet (.motion n motionType a b c)]) u
      else laid n e x u := by
  have due : samples n motionType nowUs (laid n e x u) = (!u.motionOff n &&
      due (e.rates motionType.toNat) (e.lastSentUs motionType.toNat) nowUs) := by
    unfold samples
    rw [entry_laid]
    rfl
  show (laid n e x u).sendMotion n motionType a b c nowUs = _
  rw [sendMotion_eq, due]
  split
  · simp only [sample, send, emit, laid, update_own]
  · rfl

theorem touchEvents_eq (m : PadNumber) (events : List TouchEvent) :
    events.foldl (fun s event => s.send (.touch m event)) s =
      { s with out := s.out ++ events.map fun event => .packet (.touch m event) } := by
  induction events generalizing s with
  | nil => simp
  | cons event rest ih =>
    rw [List.foldl_cons, ih]
    simp [send, emit]

/-- The packet of a click edge. -/
def edgePacket (n : PadNumber) (mask : UInt16) (last : LastReport) (wasHeld held : Bool) :
    List Out :=
  if wasHeld = held then []
  else [.packet (.multi n mask (toMoonlightButtons last.internalButtons ||| touchpadClick held)
    last.lt last.rt last.lx last.ly last.rx last.ry)]

theorem own_touchFrame (finger0 finger1 : TouchFinger) (pressed : Bool) :
    (laid n e x u).onInput w (.touchFrame n.val finger0 finger1 pressed) =
      laid n { e with
        touch := { e.touch with lastFrame := (framed e.touch finger0 finger1).2 }
        clickHeld := pressed && e.touch.reaches }
        (x ++ edgePacket n u.activeMask e.lastReport e.clickHeld (pressed && e.touch.reaches) ++
          (framed e.touch finger0 finger1).1.map fun event => .packet (.touch n event)) u := by
  have read : (laid n e x u).touch n = e.touch ∧ (laid n e x u).clickHeld n = e.clickHeld := by
    simp [laid]
  show (laid n e x u).sendTouchFrame n.val finger0 finger1 pressed = _
  rw [sendTouchFrame_eq, touchEvents_eq, read.1, read.2]
  unfold replayEdge edgePacket
  split
  · simp [laid, retouch]
  · simp [laid, retouch, replayWithClick, send, emit]

/-- The entries of a number in a session in which no pad was ever under it, but for the user's
switch, which is not the pad's. -/
def Entry.blank (e : Entry) : Entry :=
  { touch := e.touch.lifted
    clickHeld := false
    lastReport := {}
    rates := fun _ => none
    lastSentUs := fun _ => none
    rumbleMix := {} }

/-- The number's own pad, and what the host sends it, leave the rest of the session alone. -/
theorem own_onInput {input : SessionInput} (own : input.concerns n = true) :
    ∃ e' sent, (laid n e x u).onInput w input = laid n e' sent u ∧ e'.blank = e.blank := by
  cases input with
  | hostEvent event =>
    cases event with
    | rumble k low high =>
      exact ⟨_, _, own_applyRumble (by simpa [concerns, HostEvent.number] using own)
        (withBodyRumble · low high), rfl⟩
    | rumbleTriggers k left right =>
      exact ⟨_, _, own_applyRumble (by simpa [concerns, HostEvent.number] using own)
        (withTriggerRumble · left right), rfl⟩
    | rgbLed => exact ⟨e, _, rfl, rfl⟩
    | motionRequest k rate motionType =>
      exact ⟨_, _, own_motionRequest w
        (by simpa [concerns, HostEvent.number] using own) rate motionType, rfl⟩
    | termination | unknown => cases own
  | controllerState k report =>
    have mine : k = n.val := by simpa [concerns] using own
    subst mine
    exact ⟨_, _, own_controllerState w report, rfl⟩
  | motion m =>
    have mine : m = n := by simpa [concerns] using own
    subst mine
    rw [own_motion]
    split <;> exact ⟨_, _, rfl, rfl⟩
  | battery => exact ⟨e, _, rfl, rfl⟩
  | touchFrame k finger0 finger1 pressed =>
    have mine : k = n.val := by simpa [concerns] using own
    subst mine
    exact ⟨_, _, own_touchFrame w finger0 finger1 pressed, rfl⟩
  | _ => cases own

/-! ### The session apart from what is remembered under a number -/

/-- The session as if no pad had ever been under the number, with nothing sent yet. -/
def strip (n : PadNumber) (s : Session) : Session := laid n (s.entry n).blank [] s

theorem strip_laid : (laid n e x u).strip n = laid n e.blank [] u := by
  unfold strip
  rw [laid_laid, entry_laid]

theorem laid_strip : laid n (s.entry n) s.out (s.strip n) = s := by
  unfold strip
  rw [laid_laid, laid_entry]

/-- What comes and goes does the same to entries that differ only by the pad's history. -/
theorem SessionInput.acts_blank {f : Entry} (input : SessionInput) (same : e.blank = f.blank) :
    (input.acts n u e).blank = (input.acts n u f).blank := by
  have reaches : e.touch.lifted = f.touch.lifted := congrArg Entry.touch same
  have lifted : ∀ e f : Entry, e.touch.lifted = f.touch.lifted → e.blank = f.blank := by
    intro e f h
    simp [Entry.blank, h]
  cases input with
  | attach | detach | reannounce =>
    simp only [acts, Entry.meant]
    split
    · exact lifted _ _ reaches
    · exact same
  | touchReaches =>
    simp only [acts, Entry.meant]
    split
    · rfl
    · exact same
  | _ => exact same

/-- **What is seen of a session but for one number's history depends on that alone.** -/
theorem strip_onInput {s t : Session} (input : Traffic) (same : s.strip n = t.strip n) :
    (s.ride w input).strip n = (t.ride w input).strip n := by
  have blank : (s.entry n).blank = (t.entry n).blank := by
    have := congrArg (Session.entry n) same
    rwa [strip, strip, entry_laid, entry_laid] at this
  have split : s.ride w input = (laid n (s.entry n) s.out (t.strip n)).onInput w input.1 := by
    rw [← same, laid_strip]
    rfl
  have split' : t.ride w input = (laid n (t.entry n) t.out (t.strip n)).onInput w input.1 := by
    rw [laid_strip]
    rfl
  rw [split, split']
  cases own : input.1.concerns n with
  | true =>
    obtain ⟨e, sent, eq, kept⟩ := own_onInput (e := s.entry n) (x := s.out) (u := t.strip n) w own
    obtain ⟨e', sent', eq', kept'⟩ :=
      own_onInput (e := t.entry n) (x := t.out) (u := t.strip n) w own
    rw [eq, eq', strip_laid, strip_laid, kept, kept', blank]
  | false =>
    obtain ⟨sent, eq⟩ := passes_onInput (u := t.strip n) w input.2 own
    dsimp only at eq
    rw [eq, eq, strip_laid, strip_laid, SessionInput.acts_blank input.1 blank]

theorem strip_own {input : Traffic} (own : input.1.concerns n = true) :
    (s.ride w input).strip n = s.strip n := by
  obtain ⟨e, sent, eq, kept⟩ := own_onInput (e := s.entry n) (x := s.out) (u := s) w own
  rw [laid_entry] at eq
  unfold ride
  rw [eq, strip_laid, kept]
  rfl

end Session

end Dish.Moonlight
