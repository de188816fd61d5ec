/-
The update checker over any events.

Turning checks off leaves the version on offer in the status, and muting that version sets the phase
to up to date whatever it was.  So a mute while checks are off takes the machine out of its disabled
phase, and a mute while a fetch is in flight takes it out of the phase in which the reply counts.
Without such mutes both of the machine's promises hold: nothing goes to the network while checks are
off, and while they are on there is always a next check to come.
-/
import Dish.Core.UpdateMachine
import Dish.Lib.Run

namespace Dish

open Steps UpdateStatus

variable {s : UpdateStatus} {e : UpdateEvent}

namespace UpdateStatus

def step (s : UpdateStatus) (e : UpdateEvent) : UpdateStatus := (reduceUpdate s e).next

/-- The event mutes the version on offer. -/
def Mutes (s : UpdateStatus) : UpdateEvent → Prop
  | .skipRequested version => s.required = false ∧ version ≠ "" ∧ s.availableVersion = version
  | _ => False

instance (s : UpdateStatus) (e : UpdateEvent) : Decidable (s.Mutes e) := by
  unfold Mutes
  split <;> infer_instance

theorem checksEnabled_step (s : UpdateStatus) (e : UpdateEvent) :
    (s.step e).checksEnabled = match e with
      | .prefsChanged on _ => on
      | _ => s.checksEnabled := by
  cases e <;>
    simp only [step, reduceUpdate, onPrefsChanged, onCheckRequested, onManifestArrived,
      onCheckFailed, onSkipRequested, onReachabilityChanged, settleFailure] <;>
    split_ifs <;> rfl

/-! ### Off means off -/

/-- The phase is the disabled one while checks are off. -/
def OffFits (s : UpdateStatus) : Prop := s.checksEnabled = false → s.phase = .disabled

/-- No mute of the version on offer while checks are off. -/
def NoMuteWhileOff (s : UpdateStatus) (e : UpdateEvent) : Prop :=
  s.checksEnabled = false → ¬ s.Mutes e

instance (s : UpdateStatus) (e : UpdateEvent) : Decidable (s.NoMuteWhileOff e) :=
  inferInstanceAs (Decidable (_ → _))

/-- A disabled machine acts on nothing but the preferences and a mute. -/
theorem reduceUpdate_disabled (off : s.phase = .disabled) (kept : ¬ s.Mutes e)
    (other : ∀ on skipped, e ≠ .prefsChanged on skipped) :
    (reduceUpdate s e).next.phase = .disabled ∧ (reduceUpdate s e).effects = [] := by
  cases e with
  | prefsChanged on skipped => exact absurd rfl (other on skipped)
  | checkRequested => simp [reduceUpdate, onCheckRequested, off]
  | manifestArrived => simp [reduceUpdate, onManifestArrived, off]
  | checkFailed => simp [reduceUpdate, onCheckFailed, off]
  | skipRequested =>
    simp only [Mutes, not_and] at kept
    simp only [reduceUpdate, onSkipRequested]
    split_ifs with refused same
    · exact ⟨off, rfl⟩
    · simp only [Bool.or_eq_true, beq_iff_eq, not_or, Bool.not_eq_true] at refused
      exact absurd same (kept refused.1 refused.2)
    · exact ⟨off, rfl⟩
  | reachabilityChanged => simp [reduceUpdate, onReachabilityChanged, off]

/-- Whatever leaves checks off leaves the machine disabled, and does nothing. -/
theorem reduceUpdate_off (fits : s.OffFits) (ok : s.NoMuteWhileOff e)
    (off : (s.step e).checksEnabled = false) :
    (s.step e).phase = .disabled ∧ (reduceUpdate s e).effects = [] := by
  rw [checksEnabled_step] at off
  cases e with
  | prefsChanged on =>
    obtain rfl : on = false := off
    exact ⟨rfl, rfl⟩
  | _ => exact reduceUpdate_disabled (fits off) (ok off) nofun

end UpdateStatus

/-- The effects that use the network, now or by the timer. -/
def UpdateEffect.isIo : UpdateEffect → Bool
  | .fetchManifest _ | .scheduleNextCheck _ => true
  | _ => false

/-- The event turns checks on. -/
def UpdateEvent.turnsOn : UpdateEvent → Bool
  | .prefsChanged on _ => on
  | _ => false

/-- While checks are off nothing is asked of the network, up to an event that turns them on. -/
theorem off_along {events : List UpdateEvent} (on : ∀ e ∈ events, e.turnsOn = false)
    (fits : s.OffFits) (off : s.checksEnabled = false)
    (ok : Along step UpdateStatus.NoMuteWhileOff s events) :
    Along step
      (fun t e => ∀ fx ∈ (reduceUpdate t e).effects, fx.isIo = false) s events := by
  have stays : ∀ (t : UpdateStatus) (e : UpdateEvent), (t.OffFits ∧ t.checksEnabled = false) →
      t.NoMuteWhileOff e ∧ e.turnsOn = false → (t.step e).checksEnabled = false := by
    intro t e held now
    rw [checksEnabled_step]
    cases e with
    | prefsChanged => exact now.2
    | _ => exact held.2
  refine along_of_inv (I := fun t : UpdateStatus => t.OffFits ∧ t.checksEnabled = false)
    ?_ ?_ ⟨fits, off⟩ (along_and.mpr ⟨ok, along_of_forall on⟩)
  · intro t e held now
    have still := stays t e held now
    exact ⟨fun _ => (reduceUpdate_off held.1 now.1 still).1, still⟩
  · intro t e held now
    rw [(reduceUpdate_off held.1 now.1 (stays t e held now)).2]
    exact nofun

/--
**Turning checks off stops the network.**  From any status with checks on, over any events that do
not mute the version on offer while checks are off: the machine is disabled whenever checks are off,
and from the event that turns them off to the next that turns them on nothing is fetched or
scheduled.
-/
theorem checks_off_silent (s : UpdateStatus) (enabled : s.checksEnabled = true)
    (events : List UpdateEvent)
    (ok : Along step UpdateStatus.NoMuteWhileOff s events) :
    ((run step s events).checksEnabled = false →
      (run step s events).phase = .disabled) ∧
    ∀ before skipped during, events = before ++ .prefsChanged false skipped :: during →
      (∀ e ∈ during, e.turnsOn = false) →
      Along step (fun t e => ∀ fx ∈ (reduceUpdate t e).effects, fx.isIo = false)
        (run step s before) (.prefsChanged false skipped :: during) := by
  have first : s.OffFits := fun off => by simp [enabled] at off
  have keeps : ∀ (t : UpdateStatus) (e : UpdateEvent), t.OffFits → t.NoMuteWhileOff e →
      (t.step e).OffFits :=
    fun _ _ fits now off => (reduceUpdate_off fits now off).1
  refine ⟨run_keeps keeps first ok, ?_⟩
  rintro before skipped during rfl on
  have later := ((along_append _).mp ok).2
  exact ⟨nofun, off_along on (fun _ => rfl) rfl later.2⟩

/-- A check is in flight when checks are turned off: neither its manifest nor another request fetches
or schedules anything. -/
theorem checks_off_silent_then_on :
    Along step (fun t e => ∀ fx ∈ (reduceUpdate t e).effects, fx.isIo = false)
      (run step ({} : UpdateStatus) [.checkRequested .periodic])
      [.prefsChanged false "", .manifestArrived ⟨"1.1.0", "1.0.0", ""⟩, .checkRequested .manual,
        .reachabilityChanged true, .skipRequested "1.1.0"] :=
  (checks_off_silent {} rfl [.checkRequested .periodic, .prefsChanged false "",
    .manifestArrived ⟨"1.1.0", "1.0.0", ""⟩, .checkRequested .manual, .reachabilityChanged true,
    .skipRequested "1.1.0"] (by decide +kernel)).2
    [.checkRequested .periodic] "" _ rfl (by decide)

/-- The version on offer is muted after checks were turned off: the machine is up to date with
checks off, and the next request for a check fetches. -/
theorem mute_wakes_disabled :
    let s : UpdateStatus := { currentVersion := "1.0.0" }
    let t := run step s
      [.checkRequested .startup, .manifestArrived ⟨"1.1.0", "1.0.0", ""⟩, .prefsChanged false "",
        .skipRequested "1.1.0"]
    s.checksEnabled = true ∧ t.checksEnabled = false ∧ t.phase = .upToDate ∧
      (reduceUpdate t (.checkRequested .manual)).effects = [.fetchManifest true] := by
  decide +kernel

/-! ### There is always a next check -/

/-- The machine with the checker's single-shot timer and the one fetch it may have in flight. -/
structure UpdateRun where
  status : UpdateStatus
  armed : Bool
  inFlight : Bool
  deriving DecidableEq

inductive UpdateAction where
  | prefs (checksEnabled : Bool) (skippedVersion : String)
  | check (trigger : UpdateTrigger)
  | skip (version : String)
  | reach (online : Bool)
  /-- The timer fires, if it is armed. -/
  | timer
  /-- The fetch ends, if one is in flight. -/
  | reply (result : Except UpdateError UpdateManifest)

namespace UpdateRun

variable {r : UpdateRun} {a : UpdateAction}

/-- The event the action brings, and what is left of the timer and of the fetch. -/
def event? (r : UpdateRun) : UpdateAction → Option (UpdateEvent × Bool × Bool)
  | .prefs on skipped => some (.prefsChanged on skipped, r.armed, r.inFlight)
  | .check trigger => some (.checkRequested trigger, r.armed, r.inFlight)
  | .skip version => some (.skipRequested version, r.armed, r.inFlight)
  | .reach online => some (.reachabilityChanged online, r.armed, r.inFlight)
  | .timer => if r.armed then some (.checkRequested .periodic, false, r.inFlight) else none
  | .reply (.ok manifest) =>
    if r.inFlight then some (.manifestArrived manifest, r.armed, false) else none
  | .reply (.error error) =>
    if r.inFlight then some (.checkFailed error, r.armed, false) else none

def execute (r : UpdateRun) : UpdateEffect → UpdateRun
  | .fetchManifest _ => { r with inFlight := true }
  | .scheduleNextCheck _ => { r with armed := true }
  | _ => r

def step (r : UpdateRun) (a : UpdateAction) : UpdateRun :=
  match r.event? a with
  | none => r
  | some (e, armed, inFlight) =>
    (reduceUpdate r.status e).effects.foldl execute ⟨r.status.step e, armed, inFlight⟩

/-- While checks are on, the timer is armed or a fetch is in flight whose reply counts. -/
def Checks (r : UpdateRun) : Prop :=
  r.status.checksEnabled = true → r.armed = true ∨ (r.inFlight = true ∧ r.status.phase = .checking)

instance (r : UpdateRun) : Decidable r.Checks := inferInstanceAs (Decidable (_ → _))

/-- The machine and its surroundings agree. -/
structure Fits (r : UpdateRun) : Prop where
  off : r.status.checksEnabled = false ↔ r.status.phase = .disabled
  fetching : r.status.phase = .checking → r.inFlight = true
  waiting : r.status.phase ≠ .disabled → r.status.phase ≠ .checking → r.armed = true

theorem Fits.checks (h : r.Fits) : r.Checks := by
  intro on
  have live : r.status.phase ≠ .disabled := fun off => by simp [h.off.mpr off] at on
  by_cases checking : r.status.phase = .checking
  · exact .inr ⟨h.fetching checking, checking⟩
  · exact .inl (h.waiting live checking)

/-- The version on offer is not muted while checks are off or a fetch is in flight. -/
def NoMuteInFlight (r : UpdateRun) : UpdateAction → Prop
  | .skip version => r.status.phase = .disabled ∨ r.status.phase = .checking →
      ¬ r.status.Mutes (.skipRequested version)
  | _ => True

instance (r : UpdateRun) (a : UpdateAction) : Decidable (r.NoMuteInFlight a) := by
  unfold NoMuteInFlight
  split <;> infer_instance

theorem Fits.on (h : r.Fits) (live : r.status.phase ≠ .disabled) :
    r.status.checksEnabled = true := by
  simpa using h.off.not.mpr live

/-- A machine that has settled on an answer waits for the timer. -/
theorem Fits.settled {t : UpdateRun} (on : t.status.checksEnabled = true)
    (live : t.status.phase ≠ .disabled) (idle : t.status.phase ≠ .checking)
    (armed : t.armed = true) : t.Fits :=
  ⟨by simp [on, live], fun checking => absurd checking idle, fun _ _ => armed⟩

theorem fits_prefs (h : r.Fits) (on : Bool) (skipped : String) :
    (r.step (.prefs on skipped)).Fits := by
  simp only [step, event?, UpdateStatus.step, reduceUpdate, onPrefsChanged]
  split_ifs with off was
  · exact ⟨by simpa using off, nofun, fun live => absurd rfl live⟩
  · exact .settled (by simpa [execute] using off) nofun nofun rfl
  · exact ⟨by simpa [was] using off, h.fetching, h.waiting⟩

/-- A check is asked for, by the timer or otherwise: unless it is refused it starts a fetch or
arms the timer, whatever the timer was. -/
theorem fits_check (h : r.Fits) (trigger : UpdateTrigger) (armed : Bool) :
    ((reduceUpdate r.status (.checkRequested trigger)).effects.foldl execute
      ⟨r.status.step (.checkRequested trigger), armed, r.inFlight⟩).Fits := by
  simp only [UpdateStatus.step, reduceUpdate, onCheckRequested, settleFailure]
  split_ifs with busy offline
  · exact ⟨h.off, h.fetching, fun live idle => (busy.elim live idle).elim⟩
  · exact .settled (h.on (not_or.mp busy).1) nofun nofun rfl
  · refine ⟨?_, fun _ => rfl, fun _ idle => absurd rfl idle⟩
    simp [execute, h.on (not_or.mp busy).1]

/-- A reply counts while the machine is checking, and then arms the timer. -/
theorem fits_reply (h : r.Fits) (result : Except UpdateError UpdateManifest) :
    (r.step (.reply result)).Fits := by
  have ignored : r.status.phase ≠ .checking → Fits ⟨r.status, r.armed, false⟩ :=
    fun idle => ⟨h.off, fun checking => absurd checking idle, h.waiting⟩
  have on : r.status.phase = .checking → r.status.checksEnabled = true :=
    fun checking => h.on (by simp [checking])
  cases result with
  | error error =>
    simp only [step, event?]
    split_ifs with flying
    · simp only [UpdateStatus.step, reduceUpdate, onCheckFailed, settleFailure]
      split_ifs with idle
      · exact ignored idle
      · exact .settled (on (not_not.mp idle)) nofun nofun rfl
    · exact h
  | ok m =>
    simp only [step, event?]
    split_ifs with flying
    · simp only [UpdateStatus.step, reduceUpdate, onManifestArrived]
      split_ifs with idle nothing required
      · exact ignored idle
      · exact .settled (on (not_not.mp idle)) nofun nofun rfl
      · exact .settled (on (not_not.mp idle)) nofun nofun rfl
      · exact .settled (on (not_not.mp idle)) nofun nofun rfl
    · exact h

theorem fits_skip (h : r.Fits) {version : String} (ok : r.NoMuteInFlight (.skip version)) :
    (r.step (.skip version)).Fits := by
  simp only [step, event?, UpdateStatus.step, reduceUpdate, onSkipRequested]
  split_ifs with refused same
  · exact h
  · have free : ¬ (r.status.phase = .disabled ∨ r.status.phase = .checking) := fun busy =>
      ok busy ⟨by simp_all, by simp_all, same⟩
    obtain ⟨live, idle⟩ := not_or.mp free
    exact .settled (h.on live) nofun nofun (h.waiting live idle)
  · exact ⟨h.off, h.fetching, h.waiting⟩

theorem fits_reach (h : r.Fits) (online : Bool) : (r.step (.reach online)).Fits := by
  simp only [step, event?, UpdateStatus.step, reduceUpdate, onReachabilityChanged]
  split_ifs
  · exact ⟨h.off, h.fetching, fun _ _ => rfl⟩
  · exact ⟨h.off, h.fetching, h.waiting⟩

theorem fits_step (r : UpdateRun) (a : UpdateAction) (h : r.Fits) (ok : r.NoMuteInFlight a) :
    (r.step a).Fits := by
  cases a with
  | prefs on skipped => exact fits_prefs h on skipped
  | check trigger => exact fits_check h trigger r.armed
  | skip => exact fits_skip h ok
  | reach online => exact fits_reach h online
  | timer =>
    simp only [step, event?]
    split_ifs
    · exact fits_check h .periodic false
    · exact h
  | reply result => exact fits_reply h result

/--
**The update checker never stops by itself.**  From any enabled status with the timer armed, over
any actions that do not mute the version on offer while checks are off or a fetch is in flight:
while checks are on, the timer is armed or a fetch is in flight whose reply will count.
-/
theorem next_check_comes (r : UpdateRun) (on : r.status.checksEnabled = true)
    (armed : r.armed = true) (live : r.status.phase ≠ .disabled)
    (fetching : r.status.phase = .checking → r.inFlight = true) (acts : List UpdateAction)
    (ok : Along step NoMuteInFlight r acts) : (run step r acts).Checks :=
  (run_keeps fits_step ⟨by simp [on, live], fetching, fun _ _ => armed⟩ ok).checks

/-- A check that fails, one that finds a version, and a mute of it before the next. -/
theorem next_check_comes_muted :
    let r : UpdateRun := ⟨{ currentVersion := "1.0.0" }, true, false⟩
    (run step r [.timer, .reply (.error .http), .timer,
      .reply (.ok ⟨"1.1.0", "1.0.0", ""⟩), .skip "1.1.0"]).Checks :=
  next_check_comes ⟨{ currentVersion := "1.0.0" }, true, false⟩ rfl rfl nofun nofun
    [.timer, .reply (.error .http), .timer, .reply (.ok ⟨"1.1.0", "1.0.0", ""⟩), .skip "1.1.0"]
    (by decide +kernel)

/-- The version on offer is muted while the next check is in flight: the reply is dropped, the timer
is not armed, and nothing will check again. -/
theorem mute_drops_reply :
    let r : UpdateRun := ⟨{ currentVersion := "1.0.0" }, true, false⟩
    let found := run step r [.timer, .reply (.ok ⟨"1.1.0", "1.0.0", ""⟩)]
    let muted := run step found [.timer, .skip "1.1.0"]
    let answered := muted.step (.reply (.ok ⟨"1.2.0", "1.0.0", ""⟩))
    ¬ muted.Checks ∧ ¬ answered.Checks ∧ answered.status.checksEnabled = true ∧
      answered.armed = false ∧ answered.inFlight = false := by
  decide +kernel

end UpdateRun

/-! ### What is offered -/

/-- Both texts parse and the candidate is greater, component by component. -/
def NewerVersion (candidate baseline : String) : Prop :=
  ∃ c b, UpdateVersion.parse candidate = some c ∧ UpdateVersion.parse baseline = some b ∧
    (b.major < c.major ∨ b.major = c.major ∧
      (b.minor < c.minor ∨ b.minor = c.minor ∧ b.patch < c.patch))

theorem isStrictlyNewer_iff {candidate baseline : String} :
    isStrictlyNewer candidate baseline = true ↔ NewerVersion candidate baseline := by
  unfold isStrictlyNewer NewerVersion
  cases UpdateVersion.parse candidate <;> cases UpdateVersion.parse baseline <;>
    simp [UpdateVersion.less]

theorem NewerVersion.ne_empty {candidate baseline : String} (h : NewerVersion candidate baseline) :
    candidate ≠ "" := by
  rintro rfl
  obtain ⟨c, -, hc, -⟩ := h
  exact nomatch (show UpdateVersion.parse "" = none by decide) ▸ hc

/-- A status with what it is measured against: the supported minimum of the last manifest acted on,
and the failed checks since. -/
structure UpdateHistory where
  status : UpdateStatus
  minimum : Option String := none
  failures : Nat := 0

namespace UpdateHistory

/-- A manifest and a failure count while a check is under way; a check asked for offline fails at
once. -/
def step (h : UpdateHistory) (e : UpdateEvent) : UpdateHistory :=
  let next := h.status.step e
  match e with
  | .manifestArrived m =>
    if h.status.phase = .checking then ⟨next, some m.minimumSupportedVersion, 0⟩
    else { h with status := next }
  | .checkFailed _ =>
    if h.status.phase = .checking then { h with status := next, failures := h.failures + 1 }
    else { h with status := next }
  | .checkRequested _ =>
    if h.status.phase ≠ .disabled ∧ h.status.phase ≠ .checking ∧ h.status.online = false then
      { h with status := next, failures := h.failures + 1 }
    else { h with status := next }
  | _ => { h with status := next }

/-- What the status says is borne out. -/
structure Justified (version : String) (h : UpdateHistory) : Prop where
  current : h.status.currentVersion = version
  available : h.status.phase = .available → NewerVersion h.status.availableVersion version ∧
    (h.status.availableVersion ≠ h.status.skippedVersion ∨ h.status.required = true)
  required : h.status.required = true ↔ ∃ m, h.minimum = some m ∧ NewerVersion m version
  upToDate : h.status.phase = .upToDate → h.status.availableVersion = ""
  failures : h.status.consecutiveFailures = h.failures

/-- The preferences do not mute the version on offer under the machine: only a skip does. -/
def NotMutedByPrefs (h : UpdateHistory) : UpdateEvent → Prop
  | .prefsChanged on skipped => on = true → h.status.phase = .available →
      h.status.required = false → h.status.availableVersion ≠ skipped
  | _ => True

instance (h : UpdateHistory) (e : UpdateEvent) : Decidable (h.NotMutedByPrefs e) := by
  unfold NotMutedByPrefs
  split <;> infer_instance

variable {version : String} {h : UpdateHistory}

theorem Justified.same (ok : h.Justified version) {next : UpdateStatus} {n : Nat}
    (current : next.currentVersion = h.status.currentVersion)
    (required : next.required = h.status.required)
    (available : next.phase = .available → h.status.phase = .available ∧
      next.availableVersion = h.status.availableVersion ∧
      (next.availableVersion ≠ next.skippedVersion ∨ next.required = true))
    (upToDate : next.phase = .upToDate → next.availableVersion = "")
    (failures : next.consecutiveFailures = n) :
    Justified version ⟨next, h.minimum, n⟩ where
  current := current.trans ok.current
  available := fun phase =>
    have ⟨before, offer, unmuted⟩ := available phase
    ⟨offer ▸ (ok.available before).1, unmuted⟩
  required := required ▸ ok.required
  upToDate := upToDate
  failures := failures

theorem Justified.manifest (ok : h.Justified version) (m : UpdateManifest) :
    (h.step (.manifestArrived m)).Justified version := by
  simp only [step, UpdateStatus.step, reduceUpdate, onManifestArrived]
  by_cases checking : h.status.phase = .checking
  · have required : isStrictlyNewer m.minimumSupportedVersion h.status.currentVersion = true ↔
        ∃ x, some m.minimumSupportedVersion = some x ∧ NewerVersion x version := by
      simp [isStrictlyNewer_iff, ok.current]
    rw [if_pos checking, if_neg (not_not.mpr checking)]
    split
    · exact ⟨ok.current, nofun, required, fun _ => rfl, rfl⟩
    · -- the version is newer, and muted only if it is required
      rename_i nothing
      simp only [Bool.or_eq_true, Bool.not_eq_true', not_or, Bool.not_eq_false, Bool.and_eq_true,
        bne_iff_ne, beq_iff_eq, not_and] at nothing
      obtain ⟨newer, unmuted⟩ := nothing
      have newer := isStrictlyNewer_iff.mp newer
      refine ⟨ok.current, fun _ => ⟨ok.current ▸ newer, ?_⟩, required, nofun, rfl⟩
      by_cases muted : h.status.skippedVersion = m.version
      · exact .inr (unmuted ⟨muted ▸ newer.ne_empty, muted⟩)
      · exact .inl fun same => muted same.symm
  · rw [if_neg checking, if_pos checking]
    exact ok

/-- The step lemma. -/
theorem Justified.step {e : UpdateEvent} (ok : h.Justified version) (unmuted : h.NotMutedByPrefs e) :
    (h.step e).Justified version := by
  have settled : ∀ error, Justified version
      ⟨(h.status.settleFailure error).next, h.minimum, h.failures + 1⟩ := fun error =>
    ok.same rfl rfl nofun nofun (by simp [settleFailure, ok.failures])
  cases e with
  | manifestArrived m => exact ok.manifest m
  | checkFailed error =>
    simp only [UpdateHistory.step, UpdateStatus.step, reduceUpdate, onCheckFailed]
    by_cases checking : h.status.phase = .checking
    · rw [if_pos checking, if_neg (not_not.mpr checking)]
      exact settled error
    · rw [if_neg checking, if_pos checking]
      exact ok
  | checkRequested =>
    simp only [UpdateHistory.step, UpdateStatus.step, reduceUpdate, onCheckRequested]
    split_ifs with fails busy offline busy offline
    · exact absurd busy (by simp [fails.1, fails.2.1])
    · exact settled .offline
    · simp [fails.2.2] at offline
    · exact ok
    · simp_all
    · exact ok.same rfl rfl nofun nofun ok.failures
  | prefsChanged =>
    simp only [UpdateHistory.step, UpdateStatus.step, reduceUpdate, onPrefsChanged]
    split_ifs with off disabled
    · exact ok.same rfl rfl nofun nofun ok.failures
    · exact ok.same rfl rfl nofun nofun ok.failures
    · refine ok.same rfl rfl (fun phase => ⟨phase, rfl, ?_⟩) ok.upToDate ok.failures
      by_cases required : h.status.required = true
      · exact .inr required
      · exact .inl (unmuted (by simpa using off) phase (by simpa using required))
  | skipRequested =>
    simp only [UpdateHistory.step, UpdateStatus.step, reduceUpdate, onSkipRequested]
    split_ifs with refused muted
    · exact ok
    · exact ok.same rfl rfl nofun (fun _ => rfl) ok.failures
    · exact ok.same rfl rfl (fun phase => ⟨phase, rfl, .inl muted⟩) ok.upToDate ok.failures
  | reachabilityChanged =>
    simp only [UpdateHistory.step, UpdateStatus.step, reduceUpdate, onReachabilityChanged]
    split_ifs <;> exact ok.same rfl rfl (fun phase => ⟨phase, rfl, (ok.available phase).2⟩)
      ok.upToDate ok.failures

/-- **What the status offers is justified.**  From a fresh status, over any events in which the
preferences do not mute the version on offer under the machine: a version on offer is newer and not
muted unless it is required, an update is required exactly by the minimum of the last manifest acted
on, nothing is on offer when up to date, and the failures are those since that manifest. -/
theorem offer_justified (version : String) (events : List UpdateEvent)
    (ok : Along step NotMutedByPrefs ⟨{ currentVersion := version }, none, 0⟩ events) :
    (run step ⟨{ currentVersion := version }, none, 0⟩ events).Justified version :=
  run_keeps (fun _ _ ok unmuted => ok.step unmuted) ⟨rfl, nofun, by simp, nofun, rfl⟩ ok

/-- A version is found and muted in the preferences before the next one is found, with a failed check
between them. -/
theorem offer_justified_found_again :
    (run step ⟨{ currentVersion := "1.0.0" }, none, 0⟩
      [.checkRequested .manual, .manifestArrived ⟨"1.1.0", "1.0.1", ""⟩, .checkRequested .manual,
        .checkFailed .http, .prefsChanged true "1.1.0", .checkRequested .manual,
        .manifestArrived ⟨"1.2.0", "", ""⟩]).Justified "1.0.0" :=
  offer_justified _ _ (by decide +kernel)

/-- The preferences come back with the version on offer muted, and it stays on offer. -/
theorem muted_version_on_offer :
    let h := run step ⟨{ currentVersion := "1.0.0" }, none, 0⟩
      [.checkRequested .manual, .manifestArrived ⟨"1.1.0", "", ""⟩, .prefsChanged true "1.1.0"]
    h.status.phase = .available ∧ h.status.availableVersion = h.status.skippedVersion ∧
      h.status.required = false ∧ ¬ h.Justified "1.0.0" := by
  refine ⟨by decide +kernel, by decide +kernel, by decide +kernel, fun h => ?_⟩
  rcases (h.available (by decide +kernel)).2 with differs | required
  · exact differs (by decide +kernel)
  · exact absurd required (by decide +kernel)

end UpdateHistory

end Dish
