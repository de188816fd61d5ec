/-
What a Moonlight session asks for between a start and the next one.

The effects of an attempt are kept in the order they were asked for, each with the state its
executor finds.  Everything the lifecycle promises is a fact about that list: which effect comes
how often, and what has to stand before it.  The invariant says what the list holds in each phase,
and the list of the machine's transitions is all a step of it needs.
-/
import Mathlib.Data.List.Sublists
import Mathlib.Tactic.Tauto
import Dish.Core.MoonlightSessionMachine
import Dish.Lib.Run

namespace Dish.Moonlight

open Steps

/-- The machine with the attempt it is in.  `replies` are the answered steps of the RTSP handshake,
`readies` the transports that came up since RTSP was last opened. -/
structure MachineRun where
  state : SessionState := {}
  attempt : List (SessionEffect × SessionState) := []
  replies : Nat := 0
  readies : Nat := 0
  deriving Repr, DecidableEq

namespace MachineRun

/-- One event.  An attempt begins with the start that is acted on and lasts until the next one. -/
def step (r : MachineRun) (event : SessionEvent) : MachineRun :=
  let reduction := reduce r.state event
  let next := reduction.next.getD r.state
  let begins := event == .startRequested && reduction.next.isSome
  { state := next
    attempt := (if begins then [] else r.attempt) ++ reduction.effects.map (·, next)
    replies := (if begins then 0 else r.replies) +
      (if event == .rtspStepOk && reduction.next.isSome then 1 else 0)
    readies := if .openRtsp ∈ reduction.effects then 0
      else r.readies + (if event = .rtspReady then 1 else 0) }

def effects (r : MachineRun) : List SessionEffect := r.attempt.map (·.1)

/-- The states in which `sendLaunch` was asked for: its executor sends `/resume` where the state
says `resuming`, and `/launch` where it does not. -/
def launches (r : MachineRun) : List SessionState :=
  (r.attempt.filter (·.1 = .sendLaunch)).map (·.2)

/-- At most one transport comes up for each time RTSP is opened. -/
def Paced (r : MachineRun) (event : SessionEvent) : Prop :=
  event = .rtspReady → r.readies = 0

instance (r : MachineRun) (event : SessionEvent) : Decidable (r.Paced event) := by
  unfold Paced
  infer_instance

end MachineRun

/-- The requests of the handshake, in the order the steps are declared. -/
def rtspSends : List SessionEffect :=
  [.sendRtspOptions, .sendRtspDescribe, .sendRtspSetupAudio, .sendRtspSetupVideo,
    .sendRtspSetupControl, .sendRtspAnnounce, .sendRtspPlay]

/-- Wherever `b` stands in the list, `a` stands before it. -/
def Precedes {α : Type} (a b : α) (l : List α) : Prop :=
  ∀ pre post, l = pre ++ b :: post → a ∈ pre

theorem Precedes.nil {α : Type} {a b : α} : Precedes a b [] := by
  intro pre post h
  simp at h

theorem Precedes.append {α : Type} {a b : α} {l m : List α} (h : Precedes a b l)
    (hm : b ∈ m → a ∈ l) : Precedes a b (l ++ m) := by
  intro pre post heq
  rcases List.append_eq_append_iff.mp heq with ⟨mid, hpre, htail⟩ | ⟨mid, hl, htail⟩
  · rw [hpre]
    exact List.mem_append_left _ (hm (by rw [htail]; simp))
  · cases mid with
    | nil =>
      rw [List.append_nil] at hl
      rw [← hl]
      exact hm (by rw [← List.nil_append m, ← htail]; simp)
    | cons x rest =>
      rw [List.cons_append, List.cons.injEq] at htail
      rw [← htail.1] at hl
      exact h pre rest hl

/-! ### What an attempt holds in each phase -/

/-- The answered steps when the handshake stands at this one. -/
def RtspStep.index : RtspStep → Nat
  | .options => 0
  | .describe => 1
  | .setupAudio => 2
  | .setupVideo => 3
  | .setupControl => 4
  | .announce => 5
  | .play => 6

theorem RtspStep.index_succ? {step next : RtspStep} (h : step.succ? = some next) :
    next.index = step.index + 1 := by
  cases step <;> simp only [RtspStep.succ?, Option.some.injEq, reduceCtorEq] at h <;>
    subst h <;> rfl

theorem rtspSends_take_succ? {step next : RtspStep} (h : step.succ? = some next) :
    rtspSends.take (next.index + 1) = rtspSends.take (step.index + 1) ++ [sendEffectFor next] := by
  cases step <;> simp only [RtspStep.succ?, Option.some.injEq, reduceCtorEq] at h <;>
    subst h <;> rfl

theorem sendEffectFor_mem (step : RtspStep) : sendEffectFor step ∈ rtspSends := by
  cases step <;> decide

namespace MachineRun

/-- The requests of the handshake the attempt made. -/
def sends (r : MachineRun) : List SessionEffect := r.effects.filter (· ∈ rtspSends)

/-- What the attempt asked for from its first teardown on. -/
def ending (r : MachineRun) : List SessionEffect := r.effects.dropWhile (· ≠ .teardown)

/-- How an attempt may end: a stop tears down, a failure tears down and is reported, and a stop
out of a reported failure tears down once more. -/
def endings : List (List SessionEffect) :=
  [[], [.teardown], [.teardown, .notifyFailure], [.teardown, .notifyFailure, .teardown]]

/-- The invariant of the lifecycle.  The first facts hold in every phase, the others say what the
attempt holds so far. -/
structure Tracks (r : MachineRun) : Prop where
  failure : r.state.failure.isSome ↔ r.state.phase = .failed
  launchesTwo : r.launches.length ≤ 2 ∧ ∀ a b, r.launches = [a, b] → b.resuming = true
  sendsOrder : r.sends.Sublist rtspSends
  controlOnce : r.effects.count .connectControl ≤ 1
  controlReplies : .connectControl ∈ r.effects → r.replies = 7
  streamAfter : Precedes .connectControl .startStreaming r.effects
  terminationAfter : Precedes .connectControl .sendTermination r.effects
  quiet : r.ending ∈ endings
  checking : r.state.phase = .checkingInfo → r.effects = [.fetchServerInfo] ∧ r.replies = 0
  launching : r.state.phase = .launching →
    r.replies = 0 ∧ r.sends = [] ∧ .connectControl ∉ r.effects ∧
      ((∃ a, r.launches = [a]) ∨ (∃ a b, r.launches = [a, b]) ∧ r.state.resuming = true)
  rtsp : r.state.phase = .rtsp →
    .connectControl ∉ r.effects ∧ r.launches ≠ [] ∧ r.replies = r.state.rtspStep.index ∧
      r.sends.Sublist (rtspSends.take (r.state.rtspStep.index + 1)) ∧
      (r.state.rtspStep = .options → r.readies = 0 → r.sends = [])
  control : r.state.phase = .controlConnecting ∨ r.state.phase = .streaming →
    .connectControl ∈ r.effects ∧ r.launches ≠ []
  started : r.state.phase ≠ .idle → r.state.phase ≠ .failed → r.ending = []
  failed : r.state.phase = .failed → r.ending = [.teardown, .notifyFailure]

/-! ### One step -/

variable {event : SessionEvent}

variable {r : MachineRun}

theorem step_pass (h : reduce r.state event = {}) :
    r.step event = { r with readies := r.readies + (if event = .rtspReady then 1 else 0) } := by
  simp [step, h]

section Added

variable {r : MachineRun} {next : SessionState} {added : List SessionEffect} {n k : Nat}

/-- The run after `added` was asked for in the state `next`. -/
def add (r : MachineRun) (next : SessionState) (added : List SessionEffect) (n k : Nat) :
    MachineRun :=
  { state := next, attempt := r.attempt ++ added.map (·, next), replies := n, readies := k }

theorem step_move (running : event ≠ .startRequested)
    (h : reduce r.state event = { next := some next, effects := added }) :
    r.step event = r.add next added (r.replies + if event = .rtspStepOk then 1 else 0)
      (if .openRtsp ∈ added then 0 else r.readies + if event = .rtspReady then 1 else 0) := by
  simp [step, h, running, add]

@[simp] theorem effects_add : (r.add next added n k).effects = r.effects ++ added := by
  simp [effects, add, Function.comp_def]

@[simp] theorem sends_add :
    (r.add next added n k).sends = r.sends ++ added.filter (· ∈ rtspSends) := by
  simp [sends]

theorem launches_add (h : .sendLaunch ∉ added) : (r.add next added n k).launches = r.launches := by
  have none : (added.map fun e => (e, next)).filter (·.1 = .sendLaunch) = [] := by
    rw [List.filter_eq_nil_iff]
    intro x hx
    obtain ⟨e, he, hxe⟩ := List.mem_map.mp hx
    rw [← hxe]
    simp only [decide_eq_true_eq]
    exact fun same => h (same ▸ he)
  unfold launches add
  rw [List.filter_append, none, List.append_nil]

theorem launches_add_launch : (r.add next [.sendLaunch] n k).launches = r.launches ++ [next] := by
  simp [launches, add]

theorem ending_add : (r.add next added n k).ending =
    if r.ending.isEmpty then added.dropWhile (· ≠ .teardown) else r.ending ++ added := by
  unfold ending
  rw [effects_add, List.dropWhile_append]

theorem ending_add_open (h : r.ending = []) (none : .teardown ∉ added) :
    (r.add next added n k).ending = [] := by
  rw [ending_add, h, List.isEmpty_nil, if_pos rfl]
  induction added with
  | nil => rfl
  | cons e rest ih =>
    have first : e ≠ .teardown := fun same => none (by simp [same])
    rw [List.dropWhile_cons_of_pos (by simpa using first)]
    exact ih fun later => none (List.mem_cons_of_mem _ later)

end Added

variable {added : List SessionEffect} {n k : Nat}

section
variable (t : Tracks r) {next : SessionState}
include t

/-- Facts of the invariant that adding effects to an open attempt keeps, whatever the phase. -/
theorem Tracks.streamAfter_add (h : .startStreaming ∈ added → .connectControl ∈ r.effects) :
    Precedes .connectControl .startStreaming (r.add next added n k).effects := by
  rw [effects_add]
  exact t.streamAfter.append h

theorem Tracks.terminationAfter_add (h : .sendTermination ∈ added → .connectControl ∈ r.effects) :
    Precedes .connectControl .sendTermination (r.add next added n k).effects := by
  rw [effects_add]
  exact t.terminationAfter.append h

theorem Tracks.finish {k : Nat} (rest : next.phase = .idle ∨ next.phase = .failed)
    (failure : next.failure.isSome ↔ next.phase = .failed)
    (only : ∀ e ∈ added, e = .sendTermination ∨ e = .teardown ∨ e = .notifyFailure)
    (told : .sendTermination ∈ added → .connectControl ∈ r.effects)
    (quiet : (r.add next added r.replies k).ending ∈ endings)
    (failed : next.phase = .failed →
      (r.add next added r.replies k).ending = [.teardown, .notifyFailure]) :
    Tracks (r.add next added r.replies k) := by
  have other : ∀ {e : SessionEffect}, e ≠ .sendTermination → e ≠ .teardown →
      e ≠ .notifyFailure → e ∉ added := by
    intro e h₁ h₂ h₃ he
    rcases only e he with h | h | h
    · exact h₁ h
    · exact h₂ h
    · exact h₃ h
  have launches : (r.add next added r.replies k).launches = r.launches :=
    launches_add (other nofun nofun nofun)
  have sends : (r.add next added r.replies k).sends = r.sends := by
    have none : added.filter (· ∈ rtspSends) = [] := by
      rw [List.filter_eq_nil_iff]
      intro e he
      rcases only e he with h | h | h <;> rw [h] <;> decide
    rw [sends_add, none, List.append_nil]
  have control : (.connectControl ∈ (r.add next added r.replies k).effects) ↔
      .connectControl ∈ r.effects := by
    rw [effects_add, List.mem_append]
    exact or_iff_left (other nofun nofun nofun)
  have phase : ∀ {p : SessionPhase}, p ≠ .idle → p ≠ .failed →
      (r.add next added r.replies k).state.phase ≠ p := by
    intro p hi hf hp
    rcases rest with h | h
    · exact hi (hp.symm.trans h)
    · exact hf (hp.symm.trans h)
  exact {
    failure := failure
    launchesTwo := by rw [launches]; exact t.launchesTwo
    sendsOrder := by rw [sends]; exact t.sendsOrder
    controlOnce := by
      have none : .connectControl ∉ added := other nofun nofun nofun
      rw [effects_add, List.count_append, List.count_eq_zero_of_not_mem none]
      exact t.controlOnce
    controlReplies := fun h => t.controlReplies (control.mp h)
    streamAfter := t.streamAfter_add fun h => absurd h (other nofun nofun nofun)
    terminationAfter := t.terminationAfter_add told
    quiet := quiet
    checking := fun h => absurd h (phase nofun nofun)
    launching := fun h => absurd h (phase nofun nofun)
    rtsp := fun h => absurd h (phase nofun nofun)
    control := fun h => h.elim (fun h => absurd h (phase nofun nofun))
      (fun h => absurd h (phase nofun nofun))
    started := fun hi hf => absurd rest (not_or.mpr ⟨hi, hf⟩)
    failed := failed }

end

theorem Tracks.fail (t : Tracks r) (reason : SessionFailure) {k : Nat}
    (started : r.state.phase ≠ .idle ∧ r.state.phase ≠ .failed) :
    Tracks (r.add { r.state with phase := .failed, failure := some reason }
      [.teardown, .notifyFailure] r.replies k) := by
  have ends : (r.add { r.state with phase := .failed, failure := some reason }
      [.teardown, .notifyFailure] r.replies k).ending = [.teardown, .notifyFailure] := by
    rw [ending_add, t.started started.1 started.2]
    rfl
  refine t.finish (.inr rfl) (by simp) (by simp) (by simp) ?_ fun _ => ends
  rw [ends]
  decide

theorem Tracks.stop (t : Tracks r) {k : Nat} :
    Tracks (r.add {} (onStop r.state).effects r.replies k) := by
  refine t.finish (.inl rfl) (by simp) ?_ ?_ ?_ nofun
  · intro e he
    simp only [onStop, List.mem_append] at he
    rcases he with he | he
    · split at he
      · exact .inl (List.mem_singleton.mp he)
      · cases he
    · split at he
      · exact .inr (.inl (List.mem_singleton.mp he))
      · cases he
  · intro he
    refine (t.control ?_).1
    by_cases up : r.state.phase = .streaming ∨ r.state.phase = .controlConnecting
    · exact up.symm
    · simp only [onStop, if_neg up] at he
      split at he <;> simp at he
  · rw [ending_add]
    cases phase : r.state.phase with
    | idle =>
      have nothing : (onStop r.state).effects = [] := by simp [onStop, phase]
      rw [nothing, List.append_nil]
      by_cases empty : r.ending.isEmpty
      · rw [if_pos empty]
        decide
      · rw [if_neg empty]
        exact t.quiet
    | failed =>
      rw [t.failed phase]
      simp [onStop, phase, endings]
    | _ =>
      rw [t.started (by simp [phase]) (by simp [phase])]
      simp [onStop, phase, endings]

variable {x : SessionEffect}

theorem sends_add_other {next : SessionState}
    (h : x ∉ rtspSends) : (r.add next [x] n k).sends = r.sends := by
  simp [h]

/-- One effect of an attempt that goes on.  What is left to show is what the new phase says. -/
theorem Tracks.progress (t : Tracks r) {next : SessionState}
    (started : r.state.phase ≠ .idle ∧ r.state.phase ≠ .failed)
    (goes : next.phase ≠ .idle ∧ next.phase ≠ .failed ∧ next.phase ≠ .checkingInfo)
    (failure : next.failure = r.state.failure)
    (other : x ≠ .teardown ∧ x ≠ .sendTermination)
    (stream : x = .startStreaming → .connectControl ∈ r.effects)
    (launchesTwo : x = .sendLaunch → (r.add next [x] n k).launches.length ≤ 2 ∧
      ∀ a b, (r.add next [x] n k).launches = [a, b] → b.resuming = true)
    (sendsOrder : x ∈ rtspSends → (r.add next [x] n k).sends.Sublist rtspSends)
    (once : .connectControl ∉ r.effects ++ [x] ∨
      (r.effects ++ [x]).count .connectControl ≤ 1 ∧ n = 7)
    (launching : next.phase = .launching →
      n = 0 ∧ (r.add next [x] n k).sends = [] ∧ .connectControl ∉ r.effects ++ [x] ∧
        ((∃ a, (r.add next [x] n k).launches = [a]) ∨
          (∃ a b, (r.add next [x] n k).launches = [a, b]) ∧ next.resuming = true))
    (rtsp : next.phase = .rtsp →
      .connectControl ∉ r.effects ++ [x] ∧ (r.add next [x] n k).launches ≠ [] ∧
        n = next.rtspStep.index ∧
        (r.add next [x] n k).sends.Sublist (rtspSends.take (next.rtspStep.index + 1)) ∧
        (next.rtspStep = .options → k = 0 → (r.add next [x] n k).sends = []))
    (control : next.phase = .controlConnecting ∨ next.phase = .streaming →
      .connectControl ∈ r.effects ++ [x] ∧ (r.add next [x] n k).launches ≠ []) :
    Tracks (r.add next [x] n k) := by
  have ends : (r.add next [x] n k).ending = [] :=
    ending_add_open (t.started started.1 started.2) (by simpa using other.1.symm)
  have fine : ¬next.failure.isSome := by
    rw [failure, t.failure]
    exact started.2
  refine ⟨iff_of_false fine goes.2.1, ?_, ?_, ?_, ?_, ?_, ?_, ?_, ?_, ?_, ?_, ?_, ?_, ?_⟩
  · by_cases asked : x = .sendLaunch
    · exact launchesTwo asked
    · rw [launches_add (by simpa using Ne.symm asked)]
      exact t.launchesTwo
  · by_cases request : x ∈ rtspSends
    · exact sendsOrder request
    · rw [sends_add_other request]
      exact t.sendsOrder
  · rw [effects_add]
    rcases once with none | once
    · exact (List.count_eq_zero_of_not_mem none).trans_le (Nat.zero_le 1)
    · exact once.1
  · rw [effects_add]
    exact fun asked => once.elim (absurd asked) And.right
  · exact t.streamAfter_add fun h => stream (List.mem_singleton.mp h).symm
  · exact t.terminationAfter_add fun h => absurd (List.mem_singleton.mp h).symm other.2
  · rw [ends]
    decide
  · exact fun h => absurd h goes.2.2
  · rw [effects_add]
    exact launching
  · rw [effects_add]
    exact rtsp
  · rw [effects_add]
    exact control
  · exact fun _ _ => ends
  · exact fun h => absurd h goes.2.1

section
variable {r : MachineRun} (t : Tracks r)
include t

theorem Tracks.checking_launches (checking : r.state.phase = .checkingInfo) : r.launches = [] := by
  have effects : r.attempt.map (·.1) = [.fetchServerInfo] := (t.checking checking).1
  have none : r.attempt.filter (·.1 = .sendLaunch) = [] := by
    rw [List.filter_eq_nil_iff]
    intro x hx
    have mem : x.1 ∈ r.attempt.map (·.1) := List.mem_map_of_mem hx
    rw [effects, List.mem_singleton] at mem
    simp [mem]
  simp [launches, none]

variable {k : Nat}

theorem Tracks.launch {resuming : Bool} (checking : r.state.phase = .checkingInfo) :
    Tracks (r.add { r.state with phase := .launching, resuming := resuming } [.sendLaunch]
      r.replies k) := by
  obtain ⟨effects, unanswered⟩ := t.checking checking
  have sends : r.sends = [] := by simp [sends, effects, rtspSends]
  have noControl : .connectControl ∉ r.effects ++ [.sendLaunch] := by simp [effects]
  refine t.progress (by simp [checking]) (by simp) rfl (by simp) nofun ?_
    (absurd · (by decide)) (.inl noControl) ?_ nofun nofun
  · rw [launches_add_launch, t.checking_launches checking]
    simp
  · intro _
    rw [sends_add_other (by decide), launches_add_launch, t.checking_launches checking]
    exact ⟨unanswered, sends, noControl, .inl ⟨_, rfl⟩⟩

section
variable (launching : r.state.phase = .launching)
include launching

theorem Tracks.resume (first : r.state.resuming = false) :
    Tracks (r.add { r.state with resuming := true } [.sendLaunch] r.replies k) := by
  obtain ⟨unanswered, sends, noControl, launches⟩ := t.launching launching
  obtain ⟨a, once⟩ : ∃ a, r.launches = [a] := by
    rcases launches with once | ⟨_, twice⟩
    · exact once
    · rw [first] at twice
      cases twice
  have noControl : .connectControl ∉ r.effects ++ [.sendLaunch] := by simp [noControl]
  refine t.progress (by simp [launching]) (by simp [launching]) rfl (by simp) nofun ?_
    (absurd · (by decide)) (.inl noControl) ?_ (by simp [launching]) (by simp [launching])
  · rw [launches_add_launch, once]
    simp
  · intro _
    rw [sends_add_other (by decide), launches_add_launch, once]
    exact ⟨unanswered, sends, noControl, .inr ⟨⟨_, _, rfl⟩, rfl⟩⟩

theorem Tracks.launching_some : r.launches ≠ [] := by
  rcases (t.launching launching).2.2.2 with ⟨a, once⟩ | ⟨⟨a, b, twice⟩, _⟩
  · simp [once]
  · simp [twice]

theorem Tracks.launched :
    Tracks (r.add { r.state with phase := .rtsp, rtspStep := .options } [.openRtsp]
      r.replies 0) := by
  obtain ⟨unanswered, sends, noControl, -⟩ := t.launching launching
  have noControl : .connectControl ∉ r.effects ++ [.openRtsp] := by simp [noControl]
  refine t.progress (by simp [launching]) (by simp) rfl (by simp) nofun nofun
    (absurd · (by decide)) (.inl noControl) nofun (fun _ => ?_) nofun
  rw [sends_add_other (by decide), launches_add (by simp), sends]
  exact ⟨noControl, t.launching_some launching, unanswered, List.nil_sublist _, fun _ _ => rfl⟩

end

variable {step : RtspStep}

/-- A request of the handshake: the requests made are still those of the steps so far. -/
theorem Tracks.request {n k : Nat} (rtsp : r.state.phase = .rtsp) (answered : n = step.index)
    (sent : (r.sends ++ [sendEffectFor step]).Sublist (rtspSends.take (step.index + 1)))
    (readied : step = .options → k ≠ 0) :
    Tracks (r.add { r.state with rtspStep := step } [sendEffectFor step] n k) := by
  obtain ⟨noControl, some, -⟩ := t.rtsp rtsp
  have request : sendEffectFor step ∈ rtspSends := sendEffectFor_mem step
  have not : ∀ {e : SessionEffect}, e ∉ rtspSends → e ≠ sendEffectFor step := by
    intro e he same
    exact he (same ▸ request)
  have sends : (r.add { r.state with rtspStep := step } [sendEffectFor step] n k).sends =
      r.sends ++ [sendEffectFor step] := by simp [request]
  have noControl : .connectControl ∉ r.effects ++ [sendEffectFor step] := by
    rw [List.mem_append, List.mem_singleton]
    exact not_or.mpr ⟨noControl, not (by decide)⟩
  refine t.progress (by simp [rtsp]) (by simp [rtsp]) rfl
    ⟨(not (by decide)).symm, (not (by decide)).symm⟩
    (fun same => absurd same (not (by decide)).symm)
    (fun same => absurd same (not (by decide)).symm)
    ?_ (.inl noControl) (by simp [rtsp]) ?_ (by simp [rtsp])
  · rw [sends]
    exact fun _ => sent.trans (List.take_sublist _ _)
  · intro _
    rw [sends, launches_add (by simpa using not (by decide))]
    exact ⟨noControl, some, answered, sent, fun first none => absurd none (readied first)⟩

section
variable (rtsp : r.state.phase = .rtsp)
include rtsp

/-- The transport is up, for the first time since RTSP was opened. -/
theorem Tracks.ready
    (first : r.state.rtspStep = .options) (unready : r.readies = 0) :
    Tracks (r.add r.state [.sendRtspOptions] r.replies (k + 1)) := by
  obtain ⟨_, _, answered, _, none⟩ := t.rtsp rtsp
  have same : { r.state with rtspStep := .options } = r.state := by rw [← first]
  have requested : Tracks (r.add { r.state with rtspStep := .options } [.sendRtspOptions]
      r.replies (k + 1)) := by
    refine t.request rtsp (by rw [answered, first]) ?_ (fun _ => Nat.succ_ne_zero _)
    rw [none first unready]
    exact List.Sublist.refl _
  rw [same] at requested
  exact requested

theorem Tracks.advance (next : r.state.rtspStep.succ? = some step) :
    Tracks (r.add { r.state with rtspStep := step } [sendEffectFor step] (r.replies + 1) k) := by
  obtain ⟨_, _, answered, sent, _⟩ := t.rtsp rtsp
  have index := RtspStep.index_succ? next
  refine t.request rtsp (by rw [answered, index]) ?_ ?_
  · rw [rtspSends_take_succ? next]
    exact sent.append (List.Sublist.refl _)
  · intro first
    rw [first] at index
    cases index

theorem Tracks.control_ (last : r.state.rtspStep = .play) :
    Tracks (r.add { r.state with phase := .controlConnecting } [.connectControl]
      (r.replies + 1) k) := by
  obtain ⟨noControl, some, answered, -⟩ := t.rtsp rtsp
  refine t.progress (by simp [rtsp]) (by simp) rfl (by simp) nofun nofun
    (absurd · (by decide)) (.inr ⟨?_, ?_⟩) nofun nofun ?_
  · rw [List.count_append, List.count_eq_zero_of_not_mem noControl]
    decide
  · rw [answered, last]
    rfl
  · intro _
    rw [launches_add (by simp)]
    exact ⟨by simp, some⟩

end

theorem Tracks.stream (connecting : r.state.phase = .controlConnecting) :
    Tracks (r.add { r.state with phase := .streaming } [.startStreaming] r.replies k) := by
  obtain ⟨control, some⟩ := t.control (.inl connecting)
  refine t.progress (by simp [connecting]) (by simp) rfl (by simp) (fun _ => control) nofun
    (absurd · (by decide)) (.inr ⟨?_, t.controlReplies control⟩) nofun nofun ?_
  · rw [List.count_append]
    exact t.controlOnce
  · intro _
    rw [launches_add (by simp)]
    exact ⟨List.mem_append_left _ control, some⟩

end

/-- The first thing an attempt asks for is whether the host is there. -/
theorem tracks_start {k : Nat} :
    Tracks (add {} { phase := .checkingInfo } [.fetchServerInfo] 0 k) := by
  refine ⟨by simp [add], ?_, ?_, ?_, ?_, ?_, ?_, ?_, ?_, nofun, nofun, ?_, fun _ _ => rfl, nofun⟩
  · rw [launches_add (by simp)]
    exact ⟨by decide, fun a b h => by simp [launches] at h⟩
  · exact List.nil_sublist _
  · rw [effects_add]
    decide
  · rw [effects_add]
    nofun
  · exact Precedes.nil.append (by simp)
  · exact Precedes.nil.append (by simp)
  · exact List.mem_cons_self
  · exact fun _ => ⟨rfl, rfl⟩
  · rintro (h | h) <;> cases h

/-- An event the machine does not act on may count a transport, and nothing else. -/
theorem Tracks.pass (t : Tracks r) (more : Nat) :
    Tracks { r with readies := r.readies + more } := by
  refine { t with rtsp := ?_ }
  intro rtsp
  obtain ⟨noControl, some, answered, sent, unready⟩ := t.rtsp rtsp
  exact ⟨noControl, some, answered, sent, fun first none => unready first (Nat.add_eq_zero_iff.mp none).1⟩

theorem Tracks.step (t : Tracks r) (paced : r.Paced event) : Tracks (r.step event) := by
  rcases reduce_transition r.state event with none | ⟨next, effects, moved, transition⟩
  · rw [step_pass none]
    exact t.pass _
  by_cases start : event = .startRequested
  · subst start
    have begins : r.step .startRequested =
        add {} next effects 0 (if .openRtsp ∈ effects then 0 else r.readies) := by
      simp [step, moved, add]
    rw [begins]
    cases transition with
    | start => exact tracks_start
    | failed reason started refused => cases refused
  · rw [step_move start moved]
    cases transition with
    | start => exact absurd rfl start
    | launch checking => exact t.launch checking
    | resume launching first => exact t.resume launching first
    | launched launching => exact t.launched launching
    | ready rtsp first => exact t.ready rtsp first (paced rfl)
    | advance rtsp next => exact t.advance rtsp next
    | control rtsp last => exact t.control_ rtsp last
    | stream connecting => exact t.stream connecting
    | failed reason started refused =>
      have unanswered : event ≠ .rtspStepOk := by
        intro same
        rw [same] at refused
        cases refused
      rw [if_neg unanswered]
      exact t.fail reason started
    | stopped => exact t.stop

theorem tracks_idle : Tracks {} := by
  refine ⟨by decide, ⟨by decide, ?_⟩, List.nil_sublist _, by decide, nofun, Precedes.nil,
    Precedes.nil, by decide, nofun, nofun, nofun, ?_, by decide, nofun⟩
  · intro a b h
    simp [launches] at h
  · rintro (h | h) <;> cases h

theorem tracks_run {events : List SessionEvent} (paced : Along step Paced {} events) :
    Tracks (run step {} events) :=
  run_keeps (I := Tracks) (fun _ _ t paced => t.step paced) tracks_idle paced

/-! ### The contract of a run -/

/-- What the lifecycle promises in a state it reaches. -/
structure Contract (r : MachineRun) : Prop where
  failureIffFailed : r.state.failure.isSome ↔ r.state.phase = .failed
  launchesTwo : r.launches.length ≤ 2 ∧ ∀ a b, r.launches = [a, b] → b.resuming = true
  launchesSome : r.state.phase = .launching ∨ r.state.phase = .rtsp ∨
    r.state.phase = .controlConnecting ∨ r.state.phase = .streaming → r.launches ≠ []
  sendsOrder : r.sends.Sublist rtspSends
  controlOnce : r.effects.count .connectControl ≤ 1
  controlReplies : .connectControl ∈ r.effects → r.replies = 7
  streamAfter : Precedes .connectControl .startStreaming r.effects
  terminationAfter : Precedes .connectControl .sendTermination r.effects
  teardownOnce : ∀ event, sessionNeedsStart r.state.phase = false →
    sessionNeedsStart (r.step event).state.phase = true →
      (reduce r.state event).effects.count .teardown = 1
  quiet : r.ending ∈ endings

theorem sessionNeedsStart_iff {phase : SessionPhase} :
    sessionNeedsStart phase = true ↔ phase = .idle ∨ phase = .failed := by
  cases phase <;> decide

theorem teardown_once (started : sessionNeedsStart r.state.phase = false)
    (rest : sessionNeedsStart (r.step event).state.phase = true) :
    (reduce r.state event).effects.count .teardown = 1 := by
  rcases reduce_transition r.state event with none | ⟨next, effects, moved, transition⟩
  · rw [step_pass none, started] at rest
    cases rest
  have lands : (r.step event).state = next := by simp [step, moved]
  rw [lands] at rest
  rw [moved]
  cases transition with
  | start h =>
    rw [sessionNeedsStart_iff.mpr h] at started
    cases started
  | launch | launched | control | stream => cases rest
  | resume phase | ready phase | advance phase =>
    rw [phase] at rest
    cases rest
  | failed => rfl
  | stopped =>
    cases phase : r.state.phase with
    | idle | failed =>
      rw [phase] at started
      cases started
    | _ => simp [onStop, phase]

/-- **The lifecycle of a session over any run**, stray and late events included, in which at most
one transport comes up for each time RTSP is opened. -/
theorem session_lifecycle (events : List SessionEvent)
    (paced : Along step Paced {} events) : Contract (run step {} events) := by
  have t := tracks_run paced
  refine ⟨t.failure, t.launchesTwo, ?_, t.sendsOrder, t.controlOnce, t.controlReplies,
    t.streamAfter, t.terminationAfter, fun _ => teardown_once, t.quiet⟩
  rintro (launching | rtsp | control)
  · exact t.launching_some launching
  · exact (t.rtsp rtsp).2.1
  · exact (t.control control).2

/-- A run to the stream over a host that is already running an app of ours, and down again. -/
def resumedRun : List SessionEvent :=
  [.startRequested, .serverInfoOk { paired := true }, .launchBusy true, .launchOk, .rtspReady,
    .rtspStepOk, .rtspStepOk, .rtspStepOk, .rtspStepOk, .rtspStepOk, .rtspStepOk, .rtspStepOk,
    .controlConnected, .rtspStepOk, .launchOk, .controlLost]

theorem session_lifecycle_resumed :
    Along step Paced {} resumedRun ∧ (run step {} resumedRun).launches.length = 2 ∧
      (run step {} resumedRun).sends = rtspSends ∧
      Contract (run step {} resumedRun) :=
  ⟨by decide, by decide, by decide, session_lifecycle resumedRun (by decide)⟩

/-- A host that does not answer is never launched on, and the failure is reported after the
teardown; a stop out of it tears down once more.  A transport of an earlier attempt that is told
of late has the handshake opened twice. -/
theorem failure_after_teardown :
    (run step {} [.startRequested, .serverInfoFailed]).effects =
        [.fetchServerInfo, .teardown, .notifyFailure] ∧
      (run step {} [.startRequested, .serverInfoFailed, .stopRequested]).effects =
        [.fetchServerInfo, .teardown, .notifyFailure, .teardown] ∧
      (run step {} [.startRequested, .serverInfoOk { paired := true }, .launchOk,
        .stopRequested, .startRequested, .serverInfoOk { paired := true }, .launchOk, .rtspReady,
        .rtspReady]).sends = [.sendRtspOptions, .sendRtspOptions] := by
  decide

end MachineRun

end Dish.Moonlight
