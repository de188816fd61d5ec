/-
The launch lifecycle of a Moonlight session, as the source's pure reducer.

The coordinator turns network completions into events, reduces them here and executes the
effects.  Ports and keys are not the machine's: it owns the sequencing only.  An event that does
not apply in the phase it finds leaves the state as it is and asks for nothing, which a reduction
says with `next = none`.
-/
import Mathlib.Data.List.Basic

namespace Dish.Moonlight

inductive SessionPhase where
  | idle
  | checkingInfo
  | launching
  | rtsp
  | controlConnecting
  | streaming
  | failed
  deriving Repr, DecidableEq

inductive RtspStep where
  | options
  | describe
  | setupAudio
  | setupVideo
  | setupControl
  | announce
  | play
  deriving Repr, DecidableEq

inductive SessionFailure where
  | unreachable
  | notPaired
  | trustLost
  | hostReplaced
  | launchRejected
  | appAlreadyRunning
  | resumeFailed
  | rtspRejected
  | controlLost
  | dropped
  | hostEnded
  deriving Repr, DecidableEq

structure SessionState where
  phase : SessionPhase := .idle
  rtspStep : RtspStep := .options
  resuming : Bool := false
  failure : Option SessionFailure := none
  deriving Repr, DecidableEq

/-- The answer to `/serverinfo`, as the coordinator reads it.  `currentGame` is the id of the app
the host is running; `remembered` says that a server certificate is stored for it. -/
structure ServerInfoOk where
  paired : Bool := false
  currentGame : Int := 0
  remembered : Bool := false
  identityChanged : Bool := false
  deriving Repr, DecidableEq

inductive SessionEvent where
  | startRequested
  | serverInfoOk (info : ServerInfoOk)
  | serverInfoFailed
  | launchOk
  | launchFailed
  | launchBusy (resumable : Bool)
  | rtspReady
  | rtspStepOk
  | rtspFailed
  | controlConnected
  | controlLost
  | hostTerminated
  | stopRequested
  deriving Repr, DecidableEq

inductive SessionEffect where
  | fetchServerInfo
  | sendLaunch
  | openRtsp
  | sendRtspOptions
  | sendRtspDescribe
  | sendRtspSetupAudio
  | sendRtspSetupVideo
  | sendRtspSetupControl
  | sendRtspAnnounce
  | sendRtspPlay
  | connectControl
  | startStreaming
  | sendTermination
  | teardown
  | notifyFailure
  deriving Repr, DecidableEq

def sessionNeedsStart (phase : SessionPhase) : Bool :=
  phase == .idle || phase == .failed

/-- Whether a teardown owes the host a `/cancel`. -/
def shouldHandBackApp (launched wentLive lastControllerLeft : Bool) : Bool :=
  launched && (!wentLive || lastControllerLeft)

structure Reduction where
  next : Option SessionState := none
  effects : List SessionEffect := []
  deriving Repr, DecidableEq

def sendEffectFor : RtspStep → SessionEffect
  | .options => .sendRtspOptions
  | .describe => .sendRtspDescribe
  | .setupAudio => .sendRtspSetupAudio
  | .setupVideo => .sendRtspSetupVideo
  | .setupControl => .sendRtspSetupControl
  | .announce => .sendRtspAnnounce
  | .play => .sendRtspPlay

/-- The step declared after this one, which is what adding one to it gives.  There is none after
`play`, and the source never adds one there. -/
def RtspStep.succ? : RtspStep → Option RtspStep
  | .options => some .describe
  | .describe => some .setupAudio
  | .setupAudio => some .setupVideo
  | .setupVideo => some .setupControl
  | .setupControl => some .announce
  | .announce => some .play
  | .play => none

def fail (state : SessionState) (reason : SessionFailure) : Reduction :=
  { next := some { state with phase := .failed, failure := some reason },
    effects := [.teardown, .notifyFailure] }

def onStop (state : SessionState) : Reduction :=
  { next := some {},
    effects :=
      (if state.phase = .streaming ∨ state.phase = .controlConnecting then [.sendTermination]
        else []) ++
      (if state.phase ≠ .idle then [.teardown] else []) }

def fromIdle (event : SessionEvent) : Reduction :=
  match event with
  | .startRequested =>
    { next := some { phase := .checkingInfo }, effects := [.fetchServerInfo] }
  | _ => {}

def fromCheckingInfo (state : SessionState) (event : SessionEvent) : Reduction :=
  match event with
  | .serverInfoOk info =>
    if info.identityChanged then fail state .hostReplaced
    else if !info.paired then fail state (if info.remembered then .trustLost else .notPaired)
    else
      { next := some { state with
          phase := .launching
          resuming := info.currentGame != 0 && info.currentGame != -1 },
        effects := [.sendLaunch] }
  | .serverInfoFailed => fail state .unreachable
  | _ => {}

def fromLaunching (state : SessionState) (event : SessionEvent) : Reduction :=
  match event with
  | .launchOk =>
    { next := some { state with phase := .rtsp, rtspStep := .options }, effects := [.openRtsp] }
  | .launchBusy resumable =>
    -- One resume, and only when the host offered it.
    if resumable && !state.resuming then
      { next := some { state with resuming := true }, effects := [.sendLaunch] }
    else fail state .appAlreadyRunning
  | .launchFailed => fail state (if state.resuming then .resumeFailed else .launchRejected)
  | _ => {}

def fromRtsp (state : SessionState) (event : SessionEvent) : Reduction :=
  match event with
  | .rtspReady =>
    if state.rtspStep ≠ .options then {}
    else { next := some state, effects := [.sendRtspOptions] }
  | .rtspStepOk =>
    match state.rtspStep.succ? with
    | none =>
      { next := some { state with phase := .controlConnecting }, effects := [.connectControl] }
    | some step =>
      { next := some { state with rtspStep := step }, effects := [sendEffectFor step] }
  | .rtspFailed => fail state .rtspRejected
  | _ => {}

def fromControlConnecting (state : SessionState) (event : SessionEvent) : Reduction :=
  match event with
  | .controlConnected =>
    { next := some { state with phase := .streaming }, effects := [.startStreaming] }
  | .controlLost => fail state .controlLost
  | .hostTerminated => fail state .hostEnded
  | _ => {}

def fromStreaming (state : SessionState) (event : SessionEvent) : Reduction :=
  match event with
  | .controlLost => fail state .dropped
  | .hostTerminated => fail state .hostEnded
  | _ => {}

/-- The reducer: total over every phase and every event. -/
def reduce (state : SessionState) (event : SessionEvent) : Reduction :=
  if event = .stopRequested then onStop state
  else match state.phase with
    | .idle | .failed => fromIdle event
    | .checkingInfo => fromCheckingInfo state event
    | .launching => fromLaunching state event
    | .rtsp => fromRtsp state event
    | .controlConnecting => fromControlConnecting state event
    | .streaming => fromStreaming state event

/-! ### What one reduction can do -/

/-- The events that can end an attempt in `failed`. -/
def SessionEvent.refuses : SessionEvent → Bool
  | .serverInfoOk _ | .serverInfoFailed | .launchBusy _ | .launchFailed | .rtspFailed
  | .controlLost | .hostTerminated => true
  | _ => false

/-- Every transition of the machine, by the phase it starts in: the state before, the event, the
state after and the effects. -/
inductive Transition : SessionState → SessionEvent → SessionState → List SessionEffect → Prop where
  | start {s : SessionState} (rest : s.phase = .idle ∨ s.phase = .failed) :
      Transition s .startRequested { phase := .checkingInfo } [.fetchServerInfo]
  | launch {s : SessionState} {info : ServerInfoOk} (checking : s.phase = .checkingInfo)
      (known : info.identityChanged = false) (paired : info.paired = true) :
      Transition s (.serverInfoOk info)
        { s with phase := .launching,
                 resuming := info.currentGame != 0 && info.currentGame != -1 } [.sendLaunch]
  | resume {s : SessionState} (launching : s.phase = .launching) (first : s.resuming = false) :
      Transition s (.launchBusy true) { s with resuming := true } [.sendLaunch]
  | launched {s : SessionState} (launching : s.phase = .launching) :
      Transition s .launchOk { s with phase := .rtsp, rtspStep := .options } [.openRtsp]
  | ready {s : SessionState} (rtsp : s.phase = .rtsp) (first : s.rtspStep = .options) :
      Transition s .rtspReady s [.sendRtspOptions]
  | advance {s : SessionState} {step : RtspStep} (rtsp : s.phase = .rtsp)
      (next : s.rtspStep.succ? = some step) :
      Transition s .rtspStepOk { s with rtspStep := step } [sendEffectFor step]
  | control {s : SessionState} (rtsp : s.phase = .rtsp) (last : s.rtspStep = .play) :
      Transition s .rtspStepOk { s with phase := .controlConnecting } [.connectControl]
  | stream {s : SessionState} (connecting : s.phase = .controlConnecting) :
      Transition s .controlConnected { s with phase := .streaming } [.startStreaming]
  | failed {s : SessionState} {event : SessionEvent} (reason : SessionFailure)
      (started : s.phase ≠ .idle ∧ s.phase ≠ .failed) (refused : event.refuses = true) :
      Transition s event { s with phase := .failed, failure := some reason }
        [.teardown, .notifyFailure]
  | stopped {s : SessionState} :
      Transition s .stopRequested {} (onStop s).effects

theorem RtspStep.succ?_none {step : RtspStep} (h : step.succ? = none) : step = .play := by
  cases step with
  | play => rfl
  | _ => cases h

/-- **The reducer makes no transition but those listed**, and where it makes none it asks for
nothing. -/
theorem reduce_transition (s : SessionState) (event : SessionEvent) :
    (reduce s event = {}) ∨
      ∃ next effects, reduce s event = { next := some next, effects := effects } ∧
        Transition s event next effects := by
  unfold reduce
  by_cases stop : event = .stopRequested
  · rw [if_pos stop, stop]
    exact .inr ⟨_, _, rfl, .stopped⟩
  rw [if_neg stop]
  have failing : ∀ {phase : SessionPhase} {reason : SessionFailure}, s.phase = phase →
      phase ≠ .idle ∧ phase ≠ .failed → event.refuses = true →
      ∃ next effects, fail s reason = { next := some next, effects := effects } ∧
        Transition s event next effects :=
    fun is started refused => ⟨_, _, rfl, .failed _ (is ▸ started) refused⟩
  cases phase : s.phase with
  | idle | failed =>
    cases event with
    | startRequested => exact .inr ⟨_, _, rfl, .start (by simp [phase])⟩
    | _ => exact .inl rfl
  | checkingInfo =>
    cases event with
    | serverInfoOk info =>
      simp only [fromCheckingInfo]
      by_cases known : info.identityChanged
      · rw [if_pos known]
        exact .inr (failing phase (by decide) rfl)
      rw [if_neg known]
      by_cases paired : info.paired
      · rw [if_neg (by simp [paired])]
        exact .inr ⟨_, _, rfl, .launch phase (by simpa using known) paired⟩
      · rw [if_pos (by simpa using paired)]
        exact .inr (failing phase (by decide) rfl)
    | serverInfoFailed => exact .inr (failing phase (by decide) rfl)
    | _ => exact .inl rfl
  | launching =>
    cases event with
    | launchOk => exact .inr ⟨_, _, rfl, .launched phase⟩
    | launchBusy resumable =>
      simp only [fromLaunching]
      by_cases offered : resumable && !s.resuming
      · rw [if_pos offered]
        simp only [Bool.and_eq_true, Bool.not_eq_eq_eq_not, Bool.not_true] at offered
        obtain ⟨resumed, first⟩ := offered
        subst resumed
        exact .inr ⟨_, _, rfl, .resume phase first⟩
      · rw [if_neg offered]
        exact .inr (failing phase (by decide) rfl)
    | launchFailed => exact .inr (failing phase (by decide) rfl)
    | _ => exact .inl rfl
  | rtsp =>
    cases event with
    | rtspReady =>
      simp only [fromRtsp]
      by_cases first : s.rtspStep = .options
      · rw [if_neg (by simpa using first)]
        exact .inr ⟨_, _, rfl, .ready phase first⟩
      · rw [if_pos first]
        exact .inl rfl
    | rtspStepOk =>
      simp only [fromRtsp]
      cases next : s.rtspStep.succ? with
      | none => exact .inr ⟨_, _, rfl, .control phase (RtspStep.succ?_none next)⟩
      | some step => exact .inr ⟨_, _, rfl, .advance phase next⟩
    | rtspFailed => exact .inr (failing phase (by decide) rfl)
    | _ => exact .inl rfl
  | controlConnecting =>
    cases event with
    | controlConnected => exact .inr ⟨_, _, rfl, .stream phase⟩
    | controlLost | hostTerminated => exact .inr (failing phase (by decide) rfl)
    | _ => exact .inl rfl
  | streaming =>
    cases event with
    | controlLost | hostTerminated => exact .inr (failing phase (by decide) rfl)
    | _ => exact .inl rfl

end Dish.Moonlight
