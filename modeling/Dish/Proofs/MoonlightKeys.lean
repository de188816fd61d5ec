/-
Which key the control stream of a Moonlight session is started with.

A session is put on the wire: its requests stay in flight until the gateway answers them, in any
order, those of earlier attempts included, and a reply says nothing about the attempt its request
was made in.  The key is minted once per attempt, so a launch that was on the wire when the key was
minted anew carries another key than the one the session holds.
-/
import Dish.Lib.Run
import Dish.Proofs.MoonlightSession

namespace Dish.Moonlight

open Steps

variable {call : SessionCall}

/-- The keys the control stream was started with. -/
def startsOf (out : List Out) : List Rikey :=
  out.filterMap fun
    | .controlStart _ _ _ rikey => some rikey
    | _ => none

/-- The launches and resumes among what a step sent. -/
def launchesOf (out : List Out) : List LaunchRequest :=
  out.filterMap fun
    | .request { call := .launch request, .. } => some request
    | _ => none

@[simp] theorem startsOf_append (xs ys : List Out) :
    startsOf (xs ++ ys) = startsOf xs ++ startsOf ys := List.filterMap_append

@[simp] theorem launchesOf_append (xs ys : List Out) :
    launchesOf (xs ++ ys) = launchesOf xs ++ launchesOf ys := List.filterMap_append

namespace Session

variable {handed : Prop} {s' : Session} (w : World) (s : Session)

/-- Nothing of what was sent is a launch or starts the control stream. -/
def Keyless (out : List Out) : Prop := launchesOf out = [] ∧ startsOf out = []

theorem Keyless.append {xs ys : List Out} (hx : Keyless xs) (hy : Keyless ys) :
    Keyless (xs ++ ys) := by
  simp [Keyless, hx.1, hx.2, hy.1, hy.2]

theorem keyless_linkOut (state : MoonlightLinkState) : Keyless (s.linkOut state) := by
  unfold linkOut
  split <;> exact ⟨rfl, rfl⟩

theorem keyless_handBackOut : Keyless s.handBackOut := by
  unfold handBackOut
  split <;> exact ⟨rfl, rfl⟩

theorem keyless_packets (packets : List Packet) : Keyless (packets.map .packet) := by
  induction packets with
  | nil => exact ⟨rfl, rfl⟩
  | cons packet rest ih => exact ⟨ih.1, ih.2⟩

/-! ### What a step does to the key -/

/-- What one step of the session means for its key.  Only sending a launch mints one, and only a
step that was `handed` a session by the host goes on to RTSP. -/
inductive KeyMove (handed : Prop) (s s' : Session) : Prop where
  | quiet (key : s'.rikey = s.rikey) (ready : s'.rikeyReady = true → s.rikeyReady = true)
      (launching : s'.machine.phase = .launching → s.machine.phase = .launching)
      (rtsp : s'.machine.phase = .rtsp → s.machine.phase = .rtsp)
      (more : List Out) (out : s'.out = s.out ++ more) (keyless : Keyless more)
  | accepted (taken : handed) (launching : s.machine.phase = .launching)
      (rtsp : s'.machine.phase = .rtsp)
      (key : s'.rikey = s.rikey) (ready : s'.rikeyReady = s.rikeyReady)
      (more : List Out) (out : s'.out = s.out ++ more) (keyless : Keyless more)
  | launched (request : LaunchRequest) (key : request.rikey = s'.rikey)
      (ready : s'.rikeyReady = true)
      (minted : s.rikeyReady = true → s'.rikey = s.rikey)
      (launching : s'.machine.phase = .launching)
      (more : List Out) (out : s'.out = s.out ++ more)
      (sent : launchesOf more = [request]) (unstarted : startsOf more = [])
  | unkeyed (failed : s'.machine.phase = .failed) (ready : s'.rikeyReady = false)
      (more : List Out) (out : s'.out = s.out ++ more) (keyless : Keyless more)
  | started (rtsp : s.machine.phase = .rtsp) (key : s'.rikey = s.rikey)
      (ready : s'.rikeyReady = s.rikeyReady)
      (elsewhere : s'.machine.phase ≠ .launching ∧ s'.machine.phase ≠ .rtsp)
      (more : List Out) (out : s'.out = s.out ++ more)
      (sent : launchesOf more = []) (starts : startsOf more = [s.rikey])

theorem KeyMove.rfl' : KeyMove handed s s :=
  .quiet rfl id id id [] (List.append_nil _).symm ⟨rfl, rfl⟩

theorem ensureRikey_ready {w : World} {s keyed : Session} (h : s.ensureRikey w = (true, keyed)) :
    keyed.rikeyReady = true ∧ (s.rikeyReady = true → keyed.rikey = s.rikey) ∧
      keyed.machine = s.machine ∧ keyed.out = s.out := by
  unfold ensureRikey at h
  split at h
  · rename_i ready
    cases h
    exact ⟨ready, fun _ => rfl, rfl, rfl⟩
  · rename_i unready
    split at h
    · cases h
    · split at h
      · cases h
      · cases h
        exact ⟨rfl, fun ready => absurd ready unready, rfl, rfl⟩

theorem ensureRikey_unready {w : World} {s bare : Session} (h : s.ensureRikey w = (false, bare)) :
    bare.rikeyReady = false ∧ bare.machine = s.machine ∧ bare.out = s.out := by
  unfold ensureRikey at h
  split at h
  · cases h
  · rename_i unready
    have unready := Bool.eq_false_iff.mpr unready
    split at h
    · cases h
      exact ⟨unready, rfl, rfl⟩
    · split at h
      · cases h
        exact ⟨unready, rfl, rfl⟩
      · cases h

theorem keyless_giveUp (reason : SessionFailure) :
    ∃ more, (s.giveUp reason).out = s.out ++ more ∧ Keyless more := by
  rw [giveUp_eq]
  exact ⟨_, rfl, ((s.keyless_linkOut _).append s.keyless_handBackOut).append ⟨rfl, rfl⟩⟩

theorem stopDown_eq :
    ∃ more, Keyless more ∧ s.stopDown = { s with
      machine := {}
      linkState := .idle
      launched := false
      wentLive := false
      connected := false
      controlPort := 0
      controlConnectData := 0
      motionGate := {}
      rumbleMix := fun _ => {}
      out := s.out ++ more } := by
  unfold stopDown
  split
  · refine ⟨s.linkOut .idle ++ (.controlStop true :: (s.handBackOut ++ [.controlStop false])),
      (s.keyless_linkOut _).append ?_, ?_⟩
    · have stopped : Keyless [.controlStop true] := ⟨rfl, rfl⟩
      exact stopped.append (s.keyless_handBackOut.append ⟨rfl, rfl⟩)
    · rw [enter_eq, teardown_eq]
      simp [emit, handBackOut, tlsEndpoint, linkStateFor]
  · refine ⟨s.linkOut .idle ++ (s.handBackOut ++ [.controlStop false]),
      (s.keyless_linkOut _).append (s.keyless_handBackOut.append ⟨rfl, rfl⟩), ?_⟩
    rw [enter_eq, teardown_eq]
    simp [handBackOut, tlsEndpoint, linkStateFor]

theorem dispatch_keyMove (event : SessionEvent) :
    KeyMove (event = .launchOk) s (s.dispatch w event) := by
  have move := dispatch_dispatched w s event
  generalize s.dispatch w event = after at move
  cases move with
  | ignored => exact .rfl' s
  | check =>
    rw [enter_eq]
    exact .quiet rfl id (by rintro ⟨⟩) (by rintro ⟨⟩) (s.linkOut .linking ++ [_]) (List.append_assoc _ _ _)
      ((s.keyless_linkOut _).append ⟨rfl, rfl⟩)
  | launch running asked launching ready =>
    rename_i next keyed
    obtain ⟨isReady, minted, machine, out⟩ := ensureRikey_ready ready
    rw [enter_eq] at minted machine out
    refine .launched keyed.launchRequest rfl isReady minted
      (by simp [get, emit, machine, launching])
      (s.linkOut (linkStateFor next.phase) ++
        [.request { call := .launch keyed.launchRequest, endpoint := keyed.tlsEndpoint }]) ?_ ?_ ?_
    · simp only [get, emit, out, List.append_assoc]
    · rw [launchesOf_append, (s.keyless_linkOut _).1]
      rfl
    · rw [startsOf_append, (s.keyless_linkOut _).2]
      rfl
  | noKey running asked launching unready reason =>
    rename_i next bare
    obtain ⟨isUnready, machine, out⟩ := ensureRikey_unready unready
    obtain ⟨more, gaveUp, keyless⟩ := keyless_giveUp bare reason
    rw [enter_eq] at out
    refine .unkeyed (by rw [giveUp_eq]) (by rw [giveUp_eq]; exact isUnready)
      (s.linkOut (linkStateFor next.phase) ++ more) ?_ ((s.keyless_linkOut _).append keyless)
    rw [gaveUp, out, List.append_assoc]
  | openRtsp launching =>
    rw [enter_eq]
    exact .accepted rfl launching rfl rfl rfl (s.linkOut .linking ++ [_]) (List.append_assoc _ _ _)
      ((s.keyless_linkOut _).append ⟨rfl, rfl⟩)
  | request step running rtsp stays =>
    rename_i next
    rw [enter_eq]
    exact .quiet rfl id (by simp [emit, stays]) (fun _ => rtsp)
      (s.linkOut (linkStateFor next.phase) ++ [_])
      (List.append_assoc _ _ _) ((s.keyless_linkOut _).append ⟨rfl, rfl⟩)
  | connect rtsp =>
    rw [enter_eq]
    refine .started rtsp rfl rfl (by simp [startControl, emit]) (s.linkOut .linking ++ [_])
      (List.append_assoc _ _ _) ?_ ?_
    · rw [launchesOf_append, (s.keyless_linkOut _).1]
      rfl
    · rw [startsOf_append, (s.keyless_linkOut _).2]
      rfl
  | connectRefused rtsp =>
    obtain ⟨more, gaveUp, keyless⟩ := keyless_giveUp
      (s.enter { s.machine with phase := .controlConnecting }).startControl .controlLost
    refine .started rtsp (by rw [giveUp_eq, enter_eq]; rfl) (by rw [giveUp_eq, enter_eq]; rfl)
      (by rw [giveUp_eq]; simp) (s.linkOut .linking ++
        (.controlStart s.host.address s.controlPort s.controlConnectData s.rikey :: more)) ?_ ?_ ?_
    · rw [gaveUp, enter_eq]
      simp only [startControl, emit, List.append_assoc]
      rfl
    · rw [launchesOf_append, (s.keyless_linkOut _).1]
      exact keyless.1
    · rw [startsOf_append, (s.keyless_linkOut _).2]
      show s.rikey :: startsOf more = _
      rw [keyless.2]
  | noPort =>
    obtain ⟨more, gaveUp, keyless⟩ := keyless_giveUp
      (s.enter { s.machine with phase := .controlConnecting }) .controlLost
    refine .quiet (by rw [giveUp_eq, enter_eq]) (by rw [giveUp_eq, enter_eq]; exact id)
      (by simp [giveUp_eq]) (by simp [giveUp_eq]) (s.linkOut .linking ++ more) ?_
      ((s.keyless_linkOut _).append keyless)
    rw [gaveUp, enter_eq, List.append_assoc]
    rfl
  | stream =>
    obtain ⟨touch, click, packets, eq⟩ :=
      startStreaming_eq (s.enter { s.machine with phase := .streaming })
    rw [eq, enter_eq]
    exact .quiet rfl id (by simp) (by simp) (s.linkOut .live ++ _) (List.append_assoc _ _ _)
      ((s.keyless_linkOut _).append (keyless_packets packets))
  | failed reason =>
    obtain ⟨more, gaveUp, keyless⟩ := keyless_giveUp s reason
    refine .quiet (by rw [giveUp_eq]) (by rw [giveUp_eq]; exact id) (by simp [giveUp_eq])
      (by simp [giveUp_eq]) more gaveUp keyless
  | stoppedIdle =>
    rw [enter_eq]
    exact .quiet rfl id (by simp) (by simp) _ rfl (s.keyless_linkOut _)
  | stopped =>
    obtain ⟨more, keyless, eq⟩ := stopDown_eq s
    rw [eq]
    exact .quiet rfl id (by simp) (by simp) more rfl keyless

/-- Fields the key has nothing to do with may be set before a step, and after it. -/
theorem KeyMove.before {s set : Session} (h : KeyMove handed set s') (key : set.rikey = s.rikey)
    (ready : set.rikeyReady = s.rikeyReady) (machine : set.machine = s.machine)
    (out : set.out = s.out) : KeyMove handed s s' := by
  cases h with
  | quiet hkey hready launching rtsp more hout keyless =>
    rw [machine] at launching rtsp
    rw [ready] at hready
    exact .quiet (hkey.trans key) hready launching rtsp more (out ▸ hout) keyless
  | accepted taken launching rtsp hkey hready more hout keyless =>
    exact .accepted taken (machine ▸ launching) rtsp (hkey.trans key) (hready.trans ready) more
      (out ▸ hout) keyless
  | launched request hkey hready minted launching more hout sent unstarted =>
    rw [ready, key] at minted
    exact .launched request hkey hready minted launching more (out ▸ hout) sent unstarted
  | unkeyed failed hready more hout keyless =>
    exact .unkeyed failed hready more (out ▸ hout) keyless
  | started rtsp hkey hready elsewhere more hout sent starts =>
    rw [key] at starts
    exact .started (machine ▸ rtsp) (hkey.trans key) (hready.trans ready) elsewhere more
      (out ▸ hout) sent starts

theorem KeyMove.after {s set : Session} (h : KeyMove handed s s') (key : set.rikey = s'.rikey)
    (ready : set.rikeyReady = s'.rikeyReady) (machine : set.machine = s'.machine)
    (out : set.out = s'.out) : KeyMove handed s set := by
  cases h with
  | quiet hkey hready launching rtsp more hout keyless =>
    exact .quiet (key.trans hkey) (ready ▸ hready) (machine ▸ launching) (machine ▸ rtsp) more
      (out.trans hout) keyless
  | accepted taken launching rtsp hkey hready more hout keyless =>
    exact .accepted taken launching (machine ▸ rtsp) (key.trans hkey) (ready.trans hready) more
      (out.trans hout) keyless
  | launched request hkey hready minted launching more hout sent unstarted =>
    exact .launched request (hkey.trans key.symm) (ready.trans hready)
      (fun was => key.trans (minted was)) (machine ▸ launching) more (out.trans hout) sent
      unstarted
  | unkeyed failed hready more hout keyless =>
    exact .unkeyed (machine ▸ failed) (ready.trans hready) more (out.trans hout) keyless
  | started rtsp hkey hready elsewhere more hout sent starts =>
    exact .started rtsp (key.trans hkey) (ready.trans hready) (machine ▸ elsewhere) more
      (out.trans hout) sent starts

theorem keyless_forPads {more : List Out} (h : ∀ o ∈ more, o.forPads = true) : Keyless more := by
  constructor
  all_goals
    refine List.filterMap_eq_nil_iff.mpr fun o ho => ?_
    have pads := h o ho
    cases o <;> first | rfl | cases pads

theorem KeyMove.mono {handed' : Prop} {s : Session} (h : KeyMove handed s s')
    (weaker : handed → handed') : KeyMove handed' s s' := by
  cases h with
  | quiet key ready launching rtsp more out keyless =>
    exact .quiet key ready launching rtsp more out keyless
  | accepted taken launching rtsp key ready more out keyless =>
    exact .accepted (weaker taken) launching rtsp key ready more out keyless
  | launched request key ready minted launching more out sent unstarted =>
    exact .launched request key ready minted launching more out sent unstarted
  | unkeyed failed ready more out keyless => exact .unkeyed failed ready more out keyless
  | started rtsp key ready elsewhere more out sent starts =>
    exact .started rtsp key ready elsewhere more out sent starts

theorem KeyMove.ofFalse {s : Session} (h : KeyMove False s s') :
    KeyMove handed s s' := h.mono False.elim

theorem Aside.keyMove {s : Session} (h : Aside s s') : KeyMove handed s s' := by
  obtain ⟨more, out, pads⟩ := h.out
  exact .quiet h.rikey (h.rikeyReady ▸ id) (h.machine ▸ id) (h.machine ▸ id) more out
    (keyless_forPads pads)

theorem start_keyMove (appId appName : String) : KeyMove False s (s.start w appId appName) := by
  unfold start
  generalize prepared : ({ s with
    appId := appId
    appName := appName
    rikeyReady := false
    launched := false
    wentLive := false
    everStarted := true
    refusalMessage := "" } : Session) = set
  have key : set.rikey = s.rikey := by rw [← prepared]
  have unready : set.rikeyReady = false := by rw [← prepared]
  have machine : set.machine = s.machine := by rw [← prepared]
  have out : set.out = s.out := by rw [← prepared]
  have move := dispatch_dispatched w set .startRequested
  generalize set.dispatch w .startRequested = after at move
  cases move with
  | ignored =>
    exact .quiet key (by rw [unready]; nofun) (machine ▸ id) (machine ▸ id) []
      (by rw [out, List.append_nil]) ⟨rfl, rfl⟩
  | check =>
    rw [enter_eq]
    refine .quiet key (by simp [fetchServerInfo, get, emit, unready]) nofun nofun
      (set.linkOut .linking ++ [.request { call := .serverInfo, endpoint := set.plainEndpoint }]) ?_
      ((set.keyless_linkOut _).append ⟨rfl, rfl⟩)
    rw [← out]
    exact List.append_assoc _ _ _
  | launch running | noKey running | request _ running => exact absurd rfl running
  | failed _ _ refused => cases refused

theorem stop_keyMove (handBackApp : Bool) : KeyMove False s (s.stop w handBackApp) := by
  have move := dispatch_keyMove w { s with handBackOnTeardown := handBackApp } .stopRequested
  refine KeyMove.after ((move.mono nofun).before ?_ ?_ ?_ ?_) ?_ ?_ ?_ ?_ <;> rfl

theorem onInput_keyMove (input : SessionInput) : KeyMove False s (s.onInput w input) := by
  cases input with
  | start appId appName => exact s.start_keyMove w appId appName
  | stop handBackApp => exact s.stop_keyMove w handBackApp
  | rtspReady | rtspError | hostTerminated => exact (s.dispatch_keyMove w _).mono nofun
  | controlLinkChanged up =>
    refine (s.dispatch_keyMove w _).mono ?_
    cases up <;> exact nofun
  | rtspReply step response =>
    show KeyMove False s (s.onRtspReply w step response)
    unfold onRtspReply
    split
    · exact (s.dispatch_keyMove w _).mono nofun
    · split
      · exact (s.dispatch_keyMove w _).mono nofun
      · refine KeyMove.before ((dispatch_keyMove w _ .rtspStepOk).mono nofun) ?_ ?_ ?_ ?_ <;>
          split <;> rfl
  | _ => exact (s.onInput_aside w rfl).keyMove

theorem get_keyMove {endpoint : Endpoint}
    (h : Keyless [.request { call := call, endpoint := endpoint }]) :
    KeyMove False s (s.get call endpoint) :=
  .quiet rfl id id id [_] rfl h

/-- The reply hands the session over. -/
def HandsOver (call : SessionCall) (reply : SessionReply) : Prop :=
  match call, reply with
  | .launch _, .launch reply => reply.accepted.isSome
  | _, _ => False

theorem onReply_keyMove (call : SessionCall) (reply : SessionReply) :
    KeyMove (HandsOver call reply) s (s.onReply w call reply) := by
  unfold onReply
  split
  · apply KeyMove.ofFalse
    unfold onServerInfoReply
    split
    · exact (s.dispatch_keyMove w _).mono nofun
    · split
      · exact (s.dispatch_keyMove w _).mono nofun
      · split
        · exact (s.dispatch_keyMove w _).mono nofun
        · split
          · exact (s.dispatch_keyMove w _).mono nofun
          · exact s.get_keyMove ⟨rfl, rfl⟩
  · apply KeyMove.ofFalse
    unfold onTrustReply
    split <;> exact (s.dispatch_keyMove w _).mono nofun
  · unfold onLaunchReply
    split
    · rename_i launch accepted
      unfold onLaunchAccepted
      split
      · exact (s.get_keyMove ⟨rfl, rfl⟩).ofFalse
      · refine KeyMove.before ((dispatch_keyMove w _ .launchOk).mono fun _ => ?_) rfl rfl rfl rfl
        simp [HandsOver, accepted]
    · unfold onLaunchRefused
      split
      · split
        · exact (s.dispatch_keyMove w _).mono nofun
        · exact ((dispatch_keyMove w _ .launchFailed).mono nofun).before rfl rfl rfl rfl
      · exact (s.dispatch_keyMove w _).mono nofun
  · exact .rfl' s

end Session

/-! ### The session on the wire -/

/-- A session with its requests in flight.  A request is kept with the number of keys minted when
it was sent.  `accepted` is the key carried by the launch whose reply moved the attempt out of
`launching`, and each start of the control stream is logged with it. -/
structure Wire where
  session : Session
  pending : List (SessionRequest × Nat) := []
  mints : Nat := 0
  accepted : Option Rikey := none
  starts : List (Rikey × Option Rikey) := []

/-- What happens next: a call or an event, or the reply to one of the requests in flight. -/
inductive WireAct where
  | input (input : SessionInput)
  | reply (index : Nat) (reply : SessionReply)
  deriving Repr, DecidableEq

namespace Wire

variable {n : Wire} {s : Session}

/-- The session has moved; what it sent is on the wire. -/
def take (n : Wire) (s : Session) : Wire :=
  let mints := if !n.session.rikeyReady && s.rikeyReady then n.mints + 1 else n.mints
  { n with
    session := s
    pending := n.pending ++ (requestsOf s.out).map (·, mints)
    mints := mints
    starts := n.starts ++ (startsOf s.out).map (·, n.accepted) }

/-- The key of the launch this reply has accepted, if it takes the attempt out of `launching`. -/
def acceptedBy (n : Wire) (call : SessionCall) (reply : SessionReply) : Option Rikey :=
  match call, reply with
  | .launch request, .launch reply =>
    if n.session.machine.phase = .launching ∧ reply.accepted.isSome then some request.rikey
    else n.accepted
  | _, _ => n.accepted

def step (n : Wire) (act : World × WireAct) : Wire :=
  let s := { n.session with out := [] }
  match act.2 with
  | .input input => n.take (s.onInput act.1 input)
  | .reply index reply =>
    match n.pending[index]? with
    | none => n
    | some (request, _) =>
      { n with
        pending := n.pending.eraseIdx index
        accepted := n.acceptedBy request.call reply }.take (s.onReply act.1 request.call reply)

/-- A reply that hands the session over while it is launching answers a launch that was sent
since the key was last minted. -/
def Current (n : Wire) (act : World × WireAct) : Prop :=
  match act.2 with
  | .input _ => True
  | .reply index reply =>
    match n.pending[index]? with
    | none => True
    | some (request, mints) =>
      n.session.machine.phase = .launching → Session.HandsOver request.call reply → mints = n.mints

/-- The invariant: as long as a launch may be answered, those sent since the key was minted carry
it, and past the launch the key is the one that was accepted. -/
structure Keyed (n : Wire) : Prop where
  stamped : ∀ p ∈ n.pending, p.2 ≤ n.mints
  current : n.session.rikeyReady = true ∨ n.session.machine.phase = .launching →
    ∀ p ∈ n.pending, ∀ request, p.1.call = .launch request → p.2 = n.mints →
      request.rikey = n.session.rikey
  rtsp : n.session.machine.phase = .rtsp → n.accepted = some n.session.rikey
  starts : ∀ p ∈ n.starts, p.2 = some p.1

theorem mem_requestsOf_launch {out : List Out} {request : SessionRequest} {launch : LaunchRequest}
    (h : request ∈ requestsOf out) (call : request.call = .launch launch) :
    launch ∈ launchesOf out := by
  obtain ⟨o, ho, sent⟩ := List.mem_filterMap.mp h
  refine List.mem_filterMap.mpr ⟨o, ho, ?_⟩
  cases o with
  | request r =>
    simp only [Option.some.injEq] at sent
    subst sent
    cases r with
    | mk c endpoint =>
      subst call
      rfl
  | _ => cases sent

theorem take_mints_same (h : s.rikeyReady = true → n.session.rikeyReady = true) :
    (n.take s).mints = n.mints := by
  have unminted : (!n.session.rikeyReady && s.rikeyReady) = false := by
    cases ready : s.rikeyReady with
    | false => exact Bool.and_false _
    | true => rw [h ready, Bool.not_true, Bool.false_and]
  simp only [take, unminted]
  rfl

theorem mem_take_pending {p : SessionRequest × Nat} (h : p ∈ (n.take s).pending) :
    p ∈ n.pending ∨ p.1 ∈ requestsOf s.out ∧ p.2 = (n.take s).mints := by
  rcases List.mem_append.mp h with old | new
  · exact .inl old
  · obtain ⟨request, sent, same⟩ := List.mem_map.mp new
    rw [← same]
    exact .inr ⟨sent, rfl⟩

theorem mints_le_take (n : Wire) (s : Session) : n.mints ≤ (n.take s).mints := by
  simp only [take]
  split
  · exact Nat.le_succ _
  · exact Nat.le_refl _

theorem Keyed.stamped_take (k : Keyed n) (s : Session) :
    ∀ p ∈ (n.take s).pending, p.2 ≤ (n.take s).mints := by
  intro p hp
  rcases mem_take_pending hp with old | ⟨_, stamp⟩
  · exact le_trans (k.stamped p old) (n.mints_le_take s)
  · exact stamp.le

theorem Keyed.starts_take (k : Keyed n)
    (starts : ∀ started ∈ startsOf s.out, n.accepted = some started) :
    ∀ p ∈ (n.take s).starts, p.2 = some p.1 := by
  intro p hp
  rcases List.mem_append.mp hp with old | new
  · exact k.starts p old
  · obtain ⟨started, mem, same⟩ := List.mem_map.mp new
    rw [← same]
    exact starts started mem

theorem Keyed.take_same (k : Keyed n) (key : s.rikey = n.session.rikey)
    (ready : s.rikeyReady = true → n.session.rikeyReady = true)
    (launching : s.machine.phase = .launching → n.session.machine.phase = .launching)
    (sent : launchesOf s.out = []) (rtsp : s.machine.phase = .rtsp → n.accepted = some s.rikey)
    (starts : ∀ started ∈ startsOf s.out, n.accepted = some started) : Keyed (n.take s) := by
  refine ⟨k.stamped_take s, ?_, rtsp, k.starts_take starts⟩
  intro may p hp request call stamp
  rw [take_mints_same ready] at stamp
  rcases mem_take_pending hp with old | ⟨new, _⟩
  · exact (k.current (may.imp ready launching) p old request call stamp).trans key.symm
  · have launched := mem_requestsOf_launch new call
    rw [sent] at launched
    cases launched

/-- A move that sends a launch.  If it minted the key, no launch sent before counts any more. -/
theorem Keyed.take_launched {request : LaunchRequest} (k : Keyed n)
    (key : request.rikey = s.rikey) (ready : s.rikeyReady = true)
    (minted : n.session.rikeyReady = true → s.rikey = n.session.rikey)
    (launching : s.machine.phase = .launching) (sent : launchesOf s.out = [request])
    (unstarted : startsOf s.out = []) : Keyed (n.take s) := by
  refine ⟨k.stamped_take s, ?_, ?_, ?_⟩
  · intro _ p hp launch call stamp
    rcases mem_take_pending hp with old | ⟨new, _⟩
    · cases was : n.session.rikeyReady with
      | true =>
        rw [take_mints_same fun _ => was] at stamp
        exact (k.current (.inl was) p old launch call stamp).trans (minted was).symm
      | false =>
        have fresh : (n.take s).mints = n.mints + 1 := by simp [take, was, ready]
        have bound := k.stamped p old
        omega
    · have launched := mem_requestsOf_launch new call
      rw [sent] at launched
      exact List.mem_singleton.mp launched ▸ key
  · intro rtsp
    have there : s.machine.phase = .rtsp := rtsp
    rw [launching] at there
    cases there
  · refine k.starts_take ?_
    rw [unstarted]
    exact fun _ none => absurd none List.not_mem_nil

theorem Keyed.take {handed : Prop} (k : Keyed n)
    (move : Session.KeyMove handed { n.session with out := [] } s)
    (taken : handed → n.session.machine.phase = .launching → n.accepted = some n.session.rikey) :
    Keyed (n.take s) := by
  cases move with
  | quiet key ready launching rtsp more out keyless =>
    rw [List.nil_append] at out
    refine k.take_same key ready launching (out ▸ keyless.1) ?_ ?_
    · exact fun there => key ▸ k.rtsp (rtsp there)
    · rw [out, keyless.2]
      exact fun _ none => absurd none List.not_mem_nil
  | accepted hands launching rtsp key ready more out keyless =>
    rw [List.nil_append] at out
    refine k.take_same key (ready ▸ id) (fun _ => launching) (out ▸ keyless.1) ?_ ?_
    · exact fun _ => key ▸ taken hands launching
    · rw [out, keyless.2]
      exact fun _ none => absurd none List.not_mem_nil
  | unkeyed failed ready more out keyless =>
    rw [List.nil_append] at out
    refine ⟨k.stamped_take s, ?_, ?_, ?_⟩
    · rintro (isReady | launching)
      · exact absurd (isReady.symm.trans ready) nofun
      · exact absurd (launching.symm.trans failed) nofun
    · exact fun rtsp => absurd (rtsp.symm.trans failed) nofun
    · refine k.starts_take ?_
      rw [out, keyless.2]
      exact fun _ none => absurd none List.not_mem_nil
  | launched request key ready minted launching more out sent unstarted =>
    exact k.take_launched key ready minted launching (out ▸ sent) (out ▸ unstarted)
  | started rtsp key ready elsewhere more out sent starts =>
    rw [List.nil_append] at out
    refine k.take_same key (ready ▸ id) (fun there => absurd there elsewhere.1) (out ▸ sent)
      (fun there => absurd there elsewhere.2) ?_
    rw [out, starts]
    intro started mem
    rw [List.mem_singleton.mp mem]
    exact k.rtsp rtsp

theorem acceptedBy_of_not {reply : SessionReply}
    (h : n.session.machine.phase ≠ .launching) : n.acceptedBy call reply = n.accepted := by
  unfold acceptedBy
  split
  · rw [if_neg fun both => h both.1]
  · rfl

/-- The reply has handed the session over: what it accepted is the key its request carried. -/
theorem acceptedBy_of_handsOver {reply : SessionReply}
    (launching : n.session.machine.phase = .launching) (hands : Session.HandsOver call reply) :
    ∃ request, call = .launch request ∧ n.acceptedBy call reply = some request.rikey := by
  unfold Session.HandsOver at hands
  split at hands
  · rename_i request reply
    exact ⟨request, rfl, by simp [acceptedBy, launching, hands]⟩
  · exact hands.elim

theorem Keyed.step {act : World × WireAct} (k : Keyed n) (ok : n.Current act) :
    Keyed (n.step act) := by
  obtain ⟨w, act⟩ := act
  cases act with
  | input input =>
    exact k.take (Session.onInput_keyMove w { n.session with out := [] } input) False.elim
  | reply index reply =>
    unfold Wire.step
    simp only
    split
    · exact k
    · rename_i request mints found
      simp only [Current, found] at ok
      have mem := List.mem_of_getElem? found
      -- The request is off the wire, and the reply may have settled which key was accepted.
      have k' : Keyed { n with
          pending := n.pending.eraseIdx index
          accepted := n.acceptedBy request.call reply } := by
        refine ⟨fun p hp => k.stamped p (List.mem_of_mem_eraseIdx hp), ?_, ?_, ?_⟩
        · exact fun may p hp => k.current may p (List.mem_of_mem_eraseIdx hp)
        · intro rtsp
          have there : n.session.machine.phase = .rtsp := rtsp
          show n.acceptedBy request.call reply = _
          rw [acceptedBy_of_not (by rw [there]; nofun)]
          exact k.rtsp rtsp
        · exact k.starts
      refine k'.take (Session.onReply_keyMove w _ request.call reply) ?_
      intro hands there
      have launching : n.session.machine.phase = .launching := there
      obtain ⟨launch, call, accepted⟩ := acceptedBy_of_handsOver launching hands
      show n.acceptedBy request.call reply = some n.session.rikey
      rw [accepted]
      exact congrArg some (k.current (.inr launching) _ mem launch call (ok launching hands))

/-- A session of a host, before anything happened. -/
def fresh (host : MoonlightHost) : Wire := { session := { host := host } }

theorem keyed_fresh (host : MoonlightHost) : Keyed (fresh host) :=
  ⟨nofun, fun _ => nofun, nofun, nofun⟩

/-- **The control stream is keyed with the key its launch carried**, in every run in which no
launch that was sent before the key was minted is accepted while the session is launching. -/
theorem control_keyed_by_launch (host : MoonlightHost) (acts : List (World × WireAct))
    (current : Along step Current (fresh host) acts) :
    ∀ started ∈ (run step (fresh host) acts).starts, started.2 = some started.1 :=
  (run_keeps (I := Keyed) (fun _ _ k ok => k.step ok) (keyed_fresh host) current).starts

instance (call : SessionCall) (reply : SessionReply) :
    Decidable (Session.HandsOver call reply) := by
  unfold Session.HandsOver
  split <;> infer_instance

instance (n : Wire) (act : World × WireAct) : Decidable (n.Current act) := by
  unfold Current
  split
  · infer_instance
  · split <;> infer_instance

/-- A paired host. -/
def pairedHost : MoonlightHost := { uuid := "h", address := "10.0.0.9", serverCertPem := "pem" }

/-- The answers on the way to a launch, the second of which mints the key. -/
def toLaunch (index : Nat) (key : Rikey) : List (World × WireAct) :=
  [({}, .input (.start "1" "Desktop")),
    ({}, .reply index (.serverInfo { info := some { uuid := "h" } })),
    ({ rikey := some key, rikeyId := some 7 },
      .reply index (.serverInfo { info := some { uuid := "h", pairStatus := 1 } }))]

/-- The handshake that follows an accepted launch, with the port of the control stream. -/
def handshake : List (World × WireAct) :=
  ({}, .input .rtspReady) ::
    [.options, .describe, .setupAudio, .setupVideo, .setupControl, .announce, .play].map
      fun step => ({}, .input (.rtspReply step (some { transportPort := some 47999 })))

def launchAccepted : SessionReply := .launch { launch := some { rtspPort := 48010, launched := true } }

theorem control_keyed_by_launch_once :
    (run step (fresh pairedHost)
      (toLaunch 0 1 ++ ({}, .reply 0 launchAccepted) :: handshake)).starts = [(1, some 1)] ∧
    ∀ started ∈ (run step (fresh pairedHost)
      (toLaunch 0 1 ++ ({}, .reply 0 launchAccepted) :: handshake)).starts,
      started.2 = some started.1 :=
  ⟨by decide +kernel, control_keyed_by_launch pairedHost _ (by decide +kernel)⟩

/-- The launch of a stopped attempt is accepted in the next one, after the key was minted anew:
the control stream is started with a key the host was never given. -/
theorem stale_launch_keys_control :
    (run step (fresh pairedHost)
      (toLaunch 0 1 ++ ({}, .input (.stop false)) :: toLaunch 1 2 ++
        ({}, .reply 0 launchAccepted) :: handshake)).starts = [(2, some 1)] := by
  decide +kernel

end Wire

end Dish.Moonlight
