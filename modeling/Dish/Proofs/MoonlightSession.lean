/-
What one event does to a Moonlight session.

The machine's transition, the effects it asks for and the events those effects raise are put
together here once.  `Dispatched` lists what comes of it, one case for each kind of transition and
outcome, and every invariant of the session is read off that list.  The functions the cases are
written with have their result stated as one record, so that a field they leave alone is seen to
be left alone.
-/
import Dish.Moonlight.Session

namespace Dish.Moonlight

/-- The requests among what a step sent. -/
def requestsOf (out : List Out) : List SessionRequest :=
  out.filterMap fun
    | .request request => some request
    | _ => none

namespace Session

variable {w : World} {depth : Nat} (s : Session)

/-! ### The pieces of a step, each as one record -/

/-- What a change of the link state raises. -/
def linkOut (s : Session) (state : MoonlightLinkState) : List Out :=
  if s.linkState = state then [] else [.linkStateChanged]

theorem setLinkState_eq (state : MoonlightLinkState) :
    s.setLinkState state = { s with linkState := state, out := s.out ++ s.linkOut state } := by
  unfold setLinkState linkOut
  by_cases same : s.linkState = state
  · subst same
    rw [if_pos rfl, if_pos rfl, List.append_nil]
  · rw [if_neg same, if_neg same]
    rfl

/-- The machine in its next state, with the link state that goes with it. -/
def enter (s : Session) (next : SessionState) : Session :=
  { s with machine := next }.setLinkState (linkStateFor next.phase)

theorem enter_eq (next : SessionState) :
    s.enter next = { s with
      machine := next
      linkState := linkStateFor next.phase
      out := s.out ++ s.linkOut (linkStateFor next.phase) } := by
  unfold enter
  rw [setLinkState_eq]
  rfl

/-- The `/cancel` a teardown owes. -/
def handBackOut (s : Session) : List Out :=
  if shouldHandBackApp s.launched s.wentLive s.handBackOnTeardown then
    [.request { call := .cancel, endpoint := s.tlsEndpoint }]
  else []

theorem teardown_eq :
    s.teardown = { s with
      launched := false
      wentLive := false
      connected := false
      controlPort := 0
      controlConnectData := 0
      motionGate := {}
      rumbleMix := fun _ => {}
      out := s.out ++ (s.handBackOut ++ [.controlStop false]) } := by
  unfold teardown handBackOut
  split <;> simp [emit, cancelStrandedApp, get]

/-- The attempt fails: the machine says why, everything is torn down and the reason is raised. -/
def giveUp (s : Session) (reason : SessionFailure) : Session :=
  (s.enter { s.machine with phase := .failed, failure := some reason }).teardown.notifyFailure

theorem giveUp_eq (reason : SessionFailure) :
    s.giveUp reason = { s with
      machine := { s.machine with phase := .failed, failure := some reason }
      linkState := .failed
      launched := false
      wentLive := false
      connected := false
      controlPort := 0
      controlConnectData := 0
      motionGate := {}
      rumbleMix := fun _ => {}
      out := s.out ++ (s.linkOut .failed ++ s.handBackOut ++
        [.controlStop false, .failed (failureToken reason)]) } := by
  unfold giveUp
  rw [enter_eq, teardown_eq]
  simp [notifyFailure, emit, handBackOut, tlsEndpoint, linkStateFor]

/-- Announcing the pads only sends packets and forgets touches. -/
theorem startStreaming_eq :
    ∃ touch clickHeld, ∃ packets : List Packet, s.startStreaming = { s with
      wentLive := true
      touch := touch
      clickHeld := clickHeld
      out := s.out ++ packets.map .packet } := by
  have fold : ∀ (pads : List (String × PadDeclaration)) (s : Session),
      ∃ touch clickHeld, ∃ packets : List Packet,
        pads.foldl (fun s pad => (s.forgetTouchFrame pad.2.number).announce pad.2) s =
          { s with
            touch := touch
            clickHeld := clickHeld
            out := s.out ++ packets.map .packet } := by
    intro pads
    induction pads with
    | nil => exact fun s => ⟨s.touch, s.clickHeld, [], by simp⟩
    | cons pad rest ih =>
      intro s
      obtain ⟨touch, clickHeld, packets, eq⟩ :=
        ih ((s.forgetTouchFrame pad.2.number).announce pad.2)
      refine ⟨touch, clickHeld,
        .arrival pad.2.number pad.2.type pad.2.capabilities pad.2.buttons ::
          restingMulti pad.2.number s.activeMask :: packets, ?_⟩
      rw [List.foldl_cons, eq]
      simp [announce, send, emit, forgetTouchFrame, flipClick]
  obtain ⟨touch, clickHeld, packets, eq⟩ := fold s.pads { s with wentLive := true }
  exact ⟨touch, clickHeld, packets, eq⟩

/-! ### Everything an event can come to -/

/-- The session after a stop of an attempt. -/
def stopDown (s : Session) : Session :=
  if s.machine.phase = .streaming ∨ s.machine.phase = .controlConnecting then
    ({ s.enter {} with connected := false }.emit (.controlStop true)).teardown
  else (s.enter {}).teardown

inductive Dispatched (w : World) (s : Session) : SessionEvent → Session → Prop where
  | ignored {event : SessionEvent} : Dispatched w s event s
  | check (rest : s.machine.phase = .idle ∨ s.machine.phase = .failed) :
      Dispatched w s .startRequested (s.enter { phase := .checkingInfo }).fetchServerInfo
  | launch {event : SessionEvent} {next : SessionState} {keyed : Session}
      (running : event ≠ .startRequested)
      (asked : s.machine.phase = .checkingInfo ∨ s.machine.phase = .launching)
      (launching : next.phase = .launching)
      (ready : (s.enter next).ensureRikey w = (true, keyed)) :
      Dispatched w s event (keyed.get (.launch keyed.launchRequest) keyed.tlsEndpoint)
  | noKey {event : SessionEvent} {next : SessionState} {bare : Session}
      (running : event ≠ .startRequested)
      (asked : s.machine.phase = .checkingInfo ∨ s.machine.phase = .launching)
      (launching : next.phase = .launching)
      (unready : (s.enter next).ensureRikey w = (false, bare)) (reason : SessionFailure) :
      Dispatched w s event (bare.giveUp reason)
  | openRtsp (launching : s.machine.phase = .launching) :
      Dispatched w s .launchOk
        ((s.enter { s.machine with phase := .rtsp, rtspStep := .options }).emit
          (.rtspOpen s.rtspHostAddress s.rtspPort))
  | request {event : SessionEvent} {next : SessionState} (step : RtspStep)
      (running : event ≠ .startRequested)
      (rtsp : s.machine.phase = .rtsp) (stays : next.phase = .rtsp) :
      Dispatched w s event ((s.enter next).emit (.rtspRequest step))
  | connect (rtsp : s.machine.phase = .rtsp) :
      Dispatched w s .rtspStepOk
        (s.enter { s.machine with phase := .controlConnecting }).startControl
  | connectRefused (rtsp : s.machine.phase = .rtsp) :
      Dispatched w s .rtspStepOk
        ((s.enter { s.machine with phase := .controlConnecting }).startControl.giveUp .controlLost)
  | noPort (rtsp : s.machine.phase = .rtsp) :
      Dispatched w s .rtspStepOk
        ((s.enter { s.machine with phase := .controlConnecting }).giveUp .controlLost)
  | stream (connecting : s.machine.phase = .controlConnecting) :
      Dispatched w s .controlConnected
        (s.enter { s.machine with phase := .streaming }).startStreaming
  | failed {event : SessionEvent} (reason : SessionFailure)
      (started : s.machine.phase ≠ .idle ∧ s.machine.phase ≠ .failed)
      (refused : event.refuses = true) :
      Dispatched w s event (s.giveUp reason)
  | stoppedIdle (idle : s.machine.phase = .idle) : Dispatched w s .stopRequested (s.enter {})
  | stopped (started : s.machine.phase ≠ .idle) : Dispatched w s .stopRequested s.stopDown

variable {event : SessionEvent}

/-- An event a refusal nests: the machine gives up, and no effect of that raises another. -/
theorem dispatchWithin_refused {s : Session} {reason : SessionFailure}
    (h : reduce s.machine event = fail s.machine reason) :
    dispatchWithin w (depth + 1) s event = s.giveUp reason := by
  unfold dispatchWithin
  rw [h]
  rfl

theorem dispatchWithin_launchFailed {s : Session} (launching : s.machine.phase = .launching) :
    dispatchWithin w (depth + 1) s .launchFailed =
      s.giveUp (if s.machine.resuming then .resumeFailed else .launchRejected) := by
  apply dispatchWithin_refused
  simp [reduce, launching, fromLaunching]

theorem dispatchWithin_controlLost {s : Session}
    (connecting : s.machine.phase = .controlConnecting) :
    dispatchWithin w (depth + 1) s .controlLost = s.giveUp .controlLost := by
  apply dispatchWithin_refused
  simp [reduce, connecting, fromControlConnecting]

theorem ensureRikey_machine (w : World) (s : Session) :
    (s.ensureRikey w).2.machine = s.machine := by
  unfold ensureRikey
  split
  · rfl
  · split
    · rfl
    · split <;> rfl

/-- The launch effect: the request goes out with a key, or the attempt fails without one. -/
theorem runEffect_sendLaunch {s : Session} {next : SessionState} (running : event ≠ .startRequested)
    (asked : s.machine.phase = .checkingInfo ∨ s.machine.phase = .launching)
    (launching : next.phase = .launching) :
    Dispatched w s event
      (runEffect w (dispatchWithin w (depth + 1)) (s.enter next) .sendLaunch) := by
  unfold runEffect
  cases keyed : (s.enter next).ensureRikey w with
  | mk ready after =>
    have machine : after.machine = next := by
      have kept := ensureRikey_machine w (s.enter next)
      rw [keyed] at kept
      rw [kept, enter_eq]
    cases ready with
    | true => exact .launch running asked launching keyed
    | false =>
      show Dispatched w s event (dispatchWithin w (depth + 1) after .launchFailed)
      rw [dispatchWithin_launchFailed (by rw [machine, launching])]
      exact .noKey running asked launching keyed _

/-- The control effect: the stream is started with the key of the session, or not at all. -/
theorem runEffect_connectControl {s : Session} (rtsp : s.machine.phase = .rtsp) :
    Dispatched w s .rtspStepOk (runEffect w (dispatchWithin w (depth + 1))
      (s.enter { s.machine with phase := .controlConnecting }) .connectControl) := by
  have entered := enter_eq s { s.machine with phase := .controlConnecting }
  unfold runEffect
  simp only
  split
  · rw [dispatchWithin_controlLost (by rw [entered])]
    exact .noPort rtsp
  · split
    · exact .connect rtsp
    · rw [dispatchWithin_controlLost (by rw [entered]; rfl)]
      exact .connectRefused rtsp

/-- **Everything an event can come to.** -/
theorem dispatch_dispatched (w : World) (s : Session) (event : SessionEvent) :
    Dispatched w s event (s.dispatch w event) := by
  show Dispatched w s event (dispatchWithin w 2 s event)
  rcases reduce_transition s.machine event with none | ⟨next, effects, moved, transition⟩
  · have same : dispatchWithin w 2 s event = s := by
      simp [dispatchWithin, run, none]
    rw [same]
    exact .ignored
  have effect : dispatchWithin w 2 s event =
      effects.foldl (runEffect w (dispatchWithin w 1)) (s.enter next) := by
    simp [dispatchWithin, run, moved, enter]
  rw [effect]
  cases transition with
  | start rest => exact .check rest
  | launch checking => exact runEffect_sendLaunch nofun (.inl checking) rfl
  | resume launching => exact runEffect_sendLaunch nofun (.inr launching) launching
  | launched launching =>
    have opened := Dispatched.openRtsp (w := w) launching
    rw [enter_eq] at opened ⊢
    exact opened
  | ready rtsp => exact .request .options nofun rtsp rtsp
  | advance rtsp step =>
    rename_i sent
    cases sent <;> exact .request _ nofun rtsp rtsp
  | control rtsp => exact runEffect_connectControl rtsp
  | stream connecting => exact .stream connecting
  | failed reason started refused => exact .failed reason started refused
  | stopped =>
    by_cases idle : s.machine.phase = .idle
    · have nothing : (onStop s.machine).effects = [] := by simp [onStop, idle]
      rw [nothing]
      exact .stoppedIdle idle
    · have down := Dispatched.stopped (w := w) idle
      unfold stopDown at down
      by_cases up : s.machine.phase = .streaming ∨ s.machine.phase = .controlConnecting
      · rw [if_pos up] at down
        have both : (onStop s.machine).effects = [.sendTermination, .teardown] := by
          simp [onStop, idle, up]
        rw [both]
        exact down
      · rw [if_neg up] at down
        have one : (onStop s.machine).effects = [.teardown] := by
          simp [onStop, idle, up]
        rw [one]
        exact down

/-! ### What concerns the pads only -/

end Session

/-- What a session sends to the host for its pads, or on to the pads. -/
def Out.forPads : Out → Bool
  | .packet _ | .rumble .. | .led .. => true
  | _ => false

namespace Session

variable (s : Session) (slotId : String)

/-- The step is about the pads: the attempt goes on with its key as it was, and all that is sent is
for them. -/
structure Aside (s s' : Session) : Prop where
  host : s'.host = s.host
  machine : s'.machine = s.machine
  rikey : s'.rikey = s.rikey
  rikeyReady : s'.rikeyReady = s.rikeyReady
  out : ∃ more, s'.out = s.out ++ more ∧ ∀ o ∈ more, o.forPads = true

theorem Aside.refl : Aside s s :=
  ⟨rfl, rfl, rfl, rfl, [], by simp, by simp⟩

theorem Aside.trans {s₁ s₂ s₃ : Session} (h : Aside s₁ s₂) (h' : Aside s₂ s₃) : Aside s₁ s₃ := by
  obtain ⟨more, out, pads⟩ := h.out
  obtain ⟨more', out', pads'⟩ := h'.out
  refine ⟨h'.host.trans h.host, h'.machine.trans h.machine, h'.rikey.trans h.rikey,
    h'.rikeyReady.trans h.rikeyReady, more ++ more', ?_, ?_⟩
  · rw [out', out, List.append_assoc]
  · intro o ho
    rcases List.mem_append.mp ho with ho | ho
    · exact pads o ho
    · exact pads' o ho

theorem Aside.tables {s s' : Session} (host : s'.host = s.host)
    (machine : s'.machine = s.machine) (rikey : s'.rikey = s.rikey)
    (rikeyReady : s'.rikeyReady = s.rikeyReady) (out : s'.out = s.out) : Aside s s' :=
  ⟨host, machine, rikey, rikeyReady, [], by simp [out], by simp⟩

theorem aside_emit {o : Out} (h : o.forPads = true) : Aside s (s.emit o) :=
  ⟨rfl, rfl, rfl, rfl, [o], rfl, by simpa using h⟩

theorem aside_send (packet : Packet) : Aside s (s.send packet) :=
  s.aside_emit rfl

theorem aside_announce (pad : PadDeclaration) : Aside s (s.announce pad) :=
  (s.aside_send _).trans (aside_send _ _)

theorem aside_announcePad : Aside s (s.announcePad slotId) := by
  unfold announcePad
  split
  · exact .refl s
  · split
    · exact .refl s
    · exact s.aside_announce _

section
variable (storedType : Int) (source : SourceCapabilities)

theorem aside_attachController :
    Aside s (s.attachController slotId storedType source).2 := by
  unfold attachController
  split
  · exact .refl s
  · rename_i number slots assigned
    refine .trans ?_ (aside_announcePad _ slotId)
    exact .tables rfl rfl rfl rfl rfl

theorem aside_detachController : Aside s (s.detachController slotId).2 := by
  unfold detachController
  cases released : (s.slots.release slotId).1 with
  | none =>
    simp only [released]
    exact .tables rfl rfl rfl rfl rfl
  | some number =>
    simp only [released]
    split
    · refine .trans ?_ (aside_send _ _)
      exact .tables rfl rfl rfl rfl rfl
    · exact .tables rfl rfl rfl rfl rfl

theorem aside_replugPad (pad : PadDeclaration) : Aside s (s.replugPad pad) := by
  unfold replugPad
  split
  · exact .refl s
  · exact (s.aside_send _).trans (aside_send _ _)

theorem aside_reannounceController :
    Aside s (s.reannounceController slotId storedType source).2 := by
  unfold reannounceController
  split
  · exact .refl s
  · simp only
    split
    · exact .refl s
    · refine .trans ?_ (aside_replugPad _ _)
      exact .tables rfl rfl rfl rfl rfl

end

theorem aside_sendControllerState (n : Nat) (report : LastReport) :
    Aside s (s.sendControllerState n report) := by
  unfold sendControllerState
  split
  · refine .trans ?_ (aside_send _ _)
    exact .tables rfl rfl rfl rfl rfl
  · exact .refl s

theorem aside_sendMotion (number : PadNumber) (motionType : UInt8) (x y z : Rat) (nowUs : Int) :
    Aside s (s.sendMotion number motionType x y z nowUs) := by
  unfold sendMotion
  split
  · exact .refl s
  · simp only
    split
    · refine .trans ?_ (aside_send _ _)
      exact .tables rfl rfl rfl rfl rfl
    · exact .tables rfl rfl rfl rfl rfl

theorem aside_sendTouches (number : PadNumber) (events : List TouchEvent) (s : Session) :
    Aside s (events.foldl (fun s event => s.send (.touch number event)) s) :=
  List.foldlRecOn (motive := Aside s) events _ (.refl s) fun _ h _ _ => h.trans (aside_send _ _)

theorem aside_sendTouchFrame (n : Nat) (finger0 finger1 : TouchFinger) (pressed : Bool) :
    Aside s (s.sendTouchFrame n finger0 finger1 pressed) := by
  unfold sendTouchFrame
  split
  · refine .trans ?_ (aside_sendTouches _ _ _)
    split
    · exact .tables rfl rfl rfl rfl rfl
    · refine .trans ?_ (aside_send _ _)
      exact .tables rfl rfl rfl rfl rfl
  · exact .refl s

theorem aside_applyRumble (n : UInt16) (mix : RumbleMix) : Aside s (s.applyRumble n mix) := by
  refine .trans ?_ (aside_emit _ rfl)
  exact .tables rfl rfl rfl rfl rfl

theorem aside_onHostEvent (event : HostEvent) : Aside s (s.onHostEvent event) := by
  cases event with
  | rumble n | rumbleTriggers n => exact s.aside_applyRumble n _
  | rgbLed => exact s.aside_emit rfl
  | motionRequest => exact .tables rfl rfl rfl rfl rfl
  | termination | unknown => exact .refl s

end Session

/-- The inputs that drive the attempt.  All others are about the pads. -/
def SessionInput.drives : SessionInput → Bool
  | .start .. | .stop _ | .rtspReady | .rtspReply .. | .rtspError | .controlLinkChanged _
  | .hostTerminated => true
  | _ => false

namespace Session

theorem onInput_aside (w : World) (s : Session) {input : SessionInput}
    (h : input.drives = false) : Aside s (s.onInput w input) := by
  cases input with
  | start | stop | rtspReady | rtspReply | rtspError | controlLinkChanged | hostTerminated =>
    cases h
  | attach slotId storedType source => exact s.aside_attachController slotId storedType source
  | detach slotId => exact s.aside_detachController slotId
  | reannounce slotId storedType source =>
    exact s.aside_reannounceController slotId storedType source
  | controlUp | controlDown | motionAllowed | touchReaches =>
    apply Aside.tables <;> rfl
  | hostEvent event => exact s.aside_onHostEvent event
  | controllerState n report => exact s.aside_sendControllerState n report
  | motion number motionType x y z nowUs => exact s.aside_sendMotion number motionType x y z nowUs
  | battery => exact s.aside_send _
  | touchFrame n finger0 finger1 pressed => exact s.aside_sendTouchFrame n finger0 finger1 pressed

/-! ### What an event leaves alone -/

end Session

/-- Where a call goes by the record of the host. -/
def MoonlightHost.endpointFor (host : MoonlightHost) : SessionCall → Endpoint
  | .serverInfo => { address := host.address, port := host.httpPort }
  | _ => { address := host.address, port := host.httpsPort,
           serverCertPem := some host.serverCertPem }

/-- What is sent goes where the record of the host says. -/
def Out.GoesTo (host : MoonlightHost) : Out → Prop
  | .request asked => asked.endpoint = host.endpointFor asked.call
  | .rtspOpen address _ => address = host.address
  | .controlStart address .. => address = host.address
  | _ => True

namespace Session

variable (w : World) (s : Session)

/-- The session keeps its host, and everything it has sent since goes there. -/
structure Abides (s s' : Session) : Prop where
  host : s'.host = s.host
  sends : ∃ more, s'.out = s.out ++ more ∧ ∀ o ∈ more, o.GoesTo s.host

variable {s₁ s₂ s₃ : Session}

theorem Abides.trans (h : Abides s₁ s₂) (h' : Abides s₂ s₃) : Abides s₁ s₃ := by
  obtain ⟨more, out, goes⟩ := h.sends
  obtain ⟨more', out', goes'⟩ := h'.sends
  refine ⟨h'.host.trans h.host, more ++ more', by rw [out', out, List.append_assoc], ?_⟩
  intro o ho
  rcases List.mem_append.mp ho with ho | ho
  · exact goes o ho
  · rw [← h.host]
    exact goes' o ho

/-- What is for the pads goes nowhere else. -/
theorem Aside.abides {s s' : Session} (h : Aside s s') : Abides s s' := by
  obtain ⟨more, out, forPads⟩ := h.out
  refine ⟨h.host, more, out, ?_⟩
  intro o ho
  have pads := forPads o ho
  cases o with
  | packet | rumble | led => trivial
  | _ => cases pads

/-- The same pads ride the same host. -/
structure Rides (s s' : Session) : Prop extends Abides s s' where
  slots : s'.slots = s.slots
  pads : s'.pads = s.pads

theorem Rides.silent {s s' : Session} (host : s'.host = s.host)
    (out : s'.out = s.out) (slots : s'.slots = s.slots)
    (pads : s'.pads = s.pads) : Rides s s' :=
  ⟨⟨host, [], by simp [out], by simp⟩, slots, pads⟩

theorem Rides.refl : Rides s s := .silent rfl rfl rfl rfl

theorem Rides.trans (h : Rides s₁ s₂) (h' : Rides s₂ s₃) : Rides s₁ s₃ :=
  ⟨h.toAbides.trans h'.toAbides, h'.slots.trans h.slots, h'.pads.trans h.pads⟩

theorem rides_emit {o : Out} (h : o.GoesTo s.host) : Rides s (s.emit o) :=
  ⟨⟨rfl, [o], rfl, by simpa using h⟩, rfl, rfl⟩

theorem goesTo_linkOut (state : MoonlightLinkState) (host : MoonlightHost) :
    ∀ o ∈ s.linkOut state, o.GoesTo host := by
  unfold linkOut
  split <;> simp [Out.GoesTo]

theorem goesTo_handBackOut : ∀ o ∈ s.handBackOut, o.GoesTo s.host := by
  unfold handBackOut
  split
  · simp [Out.GoesTo, tlsEndpoint, MoonlightHost.endpointFor]
  · simp

theorem rides_enter (next : SessionState) : Rides s (s.enter next) := by
  rw [enter_eq]
  exact ⟨⟨rfl, _, rfl, s.goesTo_linkOut _ s.host⟩, rfl, rfl⟩

theorem rides_teardown : Rides s s.teardown := by
  rw [teardown_eq]
  refine ⟨⟨rfl, _, rfl, ?_⟩, rfl, rfl⟩
  intro o ho
  rcases List.mem_append.mp ho with ho | ho
  · exact s.goesTo_handBackOut o ho
  · rw [List.mem_singleton.mp ho]
    trivial

theorem rides_giveUp (reason : SessionFailure) : Rides s (s.giveUp reason) := by
  rw [giveUp_eq]
  refine ⟨⟨rfl, _, rfl, ?_⟩, rfl, rfl⟩
  intro o ho
  rcases List.mem_append.mp ho with ho | ho
  · rcases List.mem_append.mp ho with ho | ho
    · exact s.goesTo_linkOut _ s.host o ho
    · exact s.goesTo_handBackOut o ho
  · simp only [List.mem_cons, List.not_mem_nil, or_false] at ho
    rcases ho with ho | ho <;> rw [ho] <;> trivial

theorem rides_startStreaming : Rides s s.startStreaming := by
  obtain ⟨touch, clickHeld, packets, eq⟩ := s.startStreaming_eq
  rw [eq]
  refine ⟨⟨rfl, _, rfl, ?_⟩, rfl, rfl⟩
  intro o ho
  obtain ⟨packet, -, same⟩ := List.mem_map.mp ho
  rw [← same]
  trivial

theorem rides_ensureRikey {w : World} {s keyed : Session} {ready : Bool}
    (h : s.ensureRikey w = (ready, keyed)) : Rides s keyed := by
  unfold ensureRikey at h
  repeat' split at h
  all_goals
    cases h
    exact .silent rfl rfl rfl rfl

theorem rides_startControl : Rides s s.startControl :=
  ⟨⟨rfl, [_], rfl, by simp [Out.GoesTo]⟩, rfl, rfl⟩

theorem rides_stopDown : Rides s s.stopDown := by
  unfold stopDown
  split
  · refine (s.rides_enter {}).trans (.trans ?_ (rides_teardown _))
    exact ⟨⟨rfl, [.controlStop true], rfl, by simp [Out.GoesTo]⟩, rfl, rfl⟩
  · exact (s.rides_enter {}).trans (rides_teardown _)

/-- An event moves no pad and sends to the host of the session. -/
theorem dispatch_rides {event : SessionEvent}
    (rtsp : event = .launchOk → s.rtspHostAddress = s.host.address) :
    Rides s (s.dispatch w event) := by
  have move := s.dispatch_dispatched w event
  generalize s.dispatch w event = after at move
  cases move with
  | ignored => exact .refl s
  | check => exact (s.rides_enter _).trans (rides_emit _ rfl)
  | launch running asked launching ready =>
    exact (s.rides_enter _).trans ((rides_ensureRikey ready).trans (rides_emit _ rfl))
  | noKey running asked launching unready =>
    exact (s.rides_enter _).trans ((rides_ensureRikey unready).trans (rides_giveUp _ _))
  | openRtsp =>
    refine (s.rides_enter _).trans (rides_emit _ ?_)
    show s.rtspHostAddress = (s.enter _).host.address
    rw [(s.rides_enter _).host]
    exact rtsp rfl
  | request => exact (s.rides_enter _).trans (rides_emit _ trivial)
  | connect => exact (s.rides_enter _).trans (rides_startControl _)
  | connectRefused =>
    exact (s.rides_enter _).trans ((rides_startControl _).trans (rides_giveUp _ _))
  | noPort => exact (s.rides_enter _).trans (rides_giveUp _ _)
  | stream => exact (s.rides_enter _).trans (rides_startStreaming _)
  | failed reason => exact s.rides_giveUp reason
  | stoppedIdle => exact s.rides_enter {}
  | stopped => exact s.rides_stopDown

theorem start_rides (appId appName : String) : Rides s (s.start w appId appName) := by
  refine .trans ?_ (dispatch_rides w _ nofun)
  exact .silent rfl rfl rfl rfl

theorem stop_rides (handBackApp : Bool) : Rides s (s.stop w handBackApp) := by
  have dispatched : Rides { s with handBackOnTeardown := handBackApp }
      (dispatch w { s with handBackOnTeardown := handBackApp } .stopRequested) :=
    dispatch_rides w _ nofun
  exact ⟨⟨dispatched.host, dispatched.sends⟩, dispatched.slots, dispatched.pads⟩

theorem onReply_rides (call : SessionCall) (reply : SessionReply) :
    Rides s (s.onReply w call reply) := by
  unfold onReply
  split
  · unfold onServerInfoReply
    repeat' split
    all_goals first
      | exact s.dispatch_rides w nofun
      | exact s.rides_emit rfl
  · unfold onTrustReply
    split <;> exact s.dispatch_rides w nofun
  · unfold onLaunchReply
    split
    · unfold onLaunchAccepted
      split
      · exact s.rides_emit rfl
      · refine .trans ?_ (dispatch_rides w _ fun _ => rfl)
        exact .silent rfl rfl rfl rfl
    · unfold onLaunchRefused
      split
      · split
        · exact s.dispatch_rides w nofun
        · refine .trans ?_ (dispatch_rides w _ nofun)
          exact .silent rfl rfl rfl rfl
      · exact s.dispatch_rides w nofun
  · exact .refl s

theorem onRtspReply_rides (step : RtspStep) (response : Option RtspResponse) :
    Rides s (s.onRtspReply w step response) := by
  unfold onRtspReply
  split
  · exact s.dispatch_rides w nofun
  · split
    · exact s.dispatch_rides w nofun
    · refine .trans ?_ (dispatch_rides w _ nofun)
      split <;> exact .silent rfl rfl rfl rfl

theorem chart_sendTouches (number : PadNumber) (events : List TouchEvent) (s : Session) :
    (events.foldl (fun s event => s.send (.touch number event)) s).slots = s.slots ∧
      (events.foldl (fun s event => s.send (.touch number event)) s).pads = s.pads :=
  List.foldlRecOn (motive := fun t : Session => t.slots = s.slots ∧ t.pads = s.pads) events _
    ⟨rfl, rfl⟩ fun _ h _ _ => h

end Session

/-- What attaches, detaches or announces a pad anew. -/
def SessionInput.seats : SessionInput → Bool
  | .attach .. | .detach _ | .reannounce .. => true
  | _ => false

namespace Session

variable {input : SessionInput} {w : World}

/-- What neither drives the session nor seats a pad leaves the pads in place. -/
theorem onInput_chart (w : World) (s : Session) (h : input.seats = false)
    (aside : input.drives = false) :
    (s.onInput w input).slots = s.slots ∧ (s.onInput w input).pads = s.pads := by
  cases input with
  | attach | detach | reannounce => cases h
  | controllerState n report =>
    show (s.sendControllerState n report).slots = _ ∧ (s.sendControllerState n report).pads = _
    unfold sendControllerState
    split <;> exact ⟨rfl, rfl⟩
  | motion number motionType x y z nowUs =>
    show (s.sendMotion number motionType x y z nowUs).slots = _ ∧
      (s.sendMotion number motionType x y z nowUs).pads = _
    unfold sendMotion
    split
    · exact ⟨rfl, rfl⟩
    · simp only
      split <;> exact ⟨rfl, rfl⟩
  | touchFrame n finger0 finger1 pressed =>
    show (s.sendTouchFrame n finger0 finger1 pressed).slots = _ ∧
      (s.sendTouchFrame n finger0 finger1 pressed).pads = _
    unfold sendTouchFrame
    split
    · simp only [chart_sendTouches]
      split <;> exact ⟨rfl, rfl⟩
    · exact ⟨rfl, rfl⟩
  | hostEvent event => cases event <;> exact ⟨rfl, rfl⟩
  | controlUp | controlDown | motionAllowed | battery | touchReaches => exact ⟨rfl, rfl⟩
  | start | stop | rtspReady | rtspError | controlLinkChanged | hostTerminated | rtspReply =>
    cases aside

theorem onInput_rides (w : World) (s : Session) (h : input.seats = false) :
    Rides s (s.onInput w input) := by
  cases drives : input.drives with
  | false =>
    obtain ⟨slots, pads⟩ := s.onInput_chart w h drives
    exact ⟨(s.onInput_aside w drives).abides, slots, pads⟩
  | true =>
    cases input with
    | start appId appName => exact s.start_rides w appId appName
    | stop handBackApp => exact s.stop_rides w handBackApp
    | rtspReady | rtspError | hostTerminated => exact s.dispatch_rides w nofun
    | controlLinkChanged up => cases up <;> exact s.dispatch_rides w nofun
    | rtspReply step response => exact s.onRtspReply_rides w step response
    | _ => cases drives

/-! ### At rest -/

theorem stopDown_rest (s : Session) : sessionNeedsStart s.stopDown.machine.phase = true := by
  unfold stopDown
  split
  · rw [teardown_eq, enter_eq]
    rfl
  · rw [teardown_eq, enter_eq]
    rfl

variable {s : Session}

theorem dispatch_rest {event : SessionEvent} (other : event ≠ .startRequested)
    (rest : sessionNeedsStart s.machine.phase = true) :
    sessionNeedsStart (s.dispatch w event).machine.phase = true := by
  have phase : s.machine.phase = .idle ∨ s.machine.phase = .failed := by
    simpa [sessionNeedsStart] using rest
  have move := s.dispatch_dispatched w event
  generalize s.dispatch w event = after at move
  cases move with
  | ignored => exact rest
  | check => exact absurd rfl other
  | launch running asked | noKey running asked =>
    rcases phase with h | h <;> rcases asked with h' | h' <;> rw [h] at h' <;> cases h'
  | openRtsp h' | request _ _ h' | connect h' | connectRefused h' | noPort h' | stream h' =>
    rcases phase with h | h <;> rw [h] at h' <;> cases h'
  | failed reason started =>
    rcases phase with h | h
    · exact absurd h started.1
    · exact absurd h started.2
  | stoppedIdle =>
    rw [enter_eq]
    rfl
  | stopped => exact stopDown_rest s

theorem stop_rest (handBackApp : Bool) (rest : sessionNeedsStart s.machine.phase = true) :
    sessionNeedsStart (s.stop w handBackApp).machine.phase = true := by
  have stopped : sessionNeedsStart
      (dispatch w { s with handBackOnTeardown := handBackApp } .stopRequested).machine.phase =
        true := dispatch_rest nofun rest
  exact stopped

theorem onReply_rest (call : SessionCall) (reply : SessionReply)
    (rest : sessionNeedsStart s.machine.phase = true) :
    sessionNeedsStart (s.onReply w call reply).machine.phase = true := by
  unfold onReply
  split
  · unfold onServerInfoReply
    repeat' split
    all_goals first
      | exact dispatch_rest nofun rest
      | exact rest
  · unfold onTrustReply
    split <;> exact dispatch_rest nofun rest
  · unfold onLaunchReply
    split
    · unfold onLaunchAccepted
      split
      · exact rest
      · exact dispatch_rest nofun rest
    · unfold onLaunchRefused
      split
      · split <;> exact dispatch_rest nofun rest
      · exact dispatch_rest nofun rest
  · exact rest

theorem onInput_rest (other : ∀ appId appName, input ≠ .start appId appName)
    (rest : sessionNeedsStart s.machine.phase = true) :
    sessionNeedsStart (s.onInput w input).machine.phase = true := by
  cases drives : input.drives with
  | false =>
    rw [(s.onInput_aside w drives).machine]
    exact rest
  | true =>
    cases input with
    | start appId appName => exact absurd rfl (other appId appName)
    | stop handBackApp => exact stop_rest handBackApp rest
    | rtspReady | rtspError | hostTerminated => exact dispatch_rest nofun rest
    | controlLinkChanged up => cases up <;> exact dispatch_rest nofun rest
    | rtspReply step response =>
      show sessionNeedsStart (s.onRtspReply w step response).machine.phase = true
      unfold onRtspReply
      split
      · exact dispatch_rest nofun rest
      · split
        · exact dispatch_rest nofun rest
        · refine dispatch_rest ?_ ?_
          · exact nofun
          · split <;> exact rest
    | _ => cases drives

/-- The same pads ride the same host, and a session at rest stays there. -/
structure Plays (s s' : Session) : Prop extends Rides s s' where
  rest : sessionNeedsStart s.machine.phase = true → sessionNeedsStart s'.machine.phase = true

theorem stop_plays (w : World) (s : Session) (handBackApp : Bool) :
    Plays s (s.stop w handBackApp) :=
  ⟨s.stop_rides w handBackApp, stop_rest handBackApp⟩

theorem onReply_plays (w : World) (s : Session) (call : SessionCall) (reply : SessionReply) :
    Plays s (s.onReply w call reply) :=
  ⟨s.onReply_rides w call reply, onReply_rest call reply⟩

end Session

end Dish.Moonlight
