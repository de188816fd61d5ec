/-
What a reassigned controller number has of the pad that held it before.

Attaching a pad empties the touch frame and the held click under its number.  The last report, the
motion the host asked for and the rumble it left on stay as the last pad under the number made
them.  So the new pad is clean as long as nothing reads an entry before it is written anew, which is
shown by running the session beside a twin in which no pad was under the number before.
-/
import Dish.Proofs.MoonlightPadTables

namespace Dish.Moonlight

open Table SessionInput

namespace Session

variable {n : PadNumber} {s t : Session}

variable {motionType : Nat} (w : World)

/-! ### A clean twin -/

/-- Which entries under the number hold nothing of an earlier pad: they were at rest when the pad
was assigned, or have been written since. -/
structure Renewed where
  report : Bool
  motion : Nat → Bool
  body : Bool
  trigger : Bool

/-- The entries at rest. -/
def Entry.renewed (e : Entry) : Renewed :=
  { report := e.lastReport = {}
    motion := fun motionType => e.rates motionType = none ∧ e.lastSentUs motionType = none
    body := e.rumbleMix.bodyStrong = 0 ∧ e.rumbleMix.bodyWeak = 0
    trigger := e.rumbleMix.triggerLeft = 0 ∧ e.rumbleMix.triggerRight = 0 }

/-- A report and a rumble replace what was there.  A request for motion does when it ends the
stream or nothing had been sent on it, and a rebuilt pad has none. -/
def Renewed.after (n : PadNumber) (s : Session) (r : Renewed) : SessionInput → Renewed
  | .controllerState k _ => if k = n.val then { r with report := true } else r
  | .hostEvent (.rumble k _ _) => if k.toNat = n.val then { r with body := true } else r
  | .hostEvent (.rumbleTriggers k _ _) => if k.toNat = n.val then { r with trigger := true } else r
  | .hostEvent (.motionRequest k rate motionType) =>
    if k.toNat = n.val ∧ (rate = 0 ∨ (s.entry n).lastSentUs motionType.toNat = none) then
      { r with motion := Function.update r.motion motionType.toNat true }
    else r
  | .reannounce slotId storedType source =>
    if s.rebuilds slotId storedType source = some n then { r with motion := fun _ => true } else r
  | _ => r

/-- The entry against that of a session in which no pad was ever under the number before. -/
structure Clean (r : Renewed) (e fresh : Entry) : Prop where
  touch : e.touch = fresh.touch
  click : e.clickHeld = fresh.clickHeld
  report : r.report = true → e.lastReport = fresh.lastReport
  motion : ∀ motionType, r.motion motionType = true →
    e.rates motionType = fresh.rates motionType ∧
      e.lastSentUs motionType = fresh.lastSentUs motionType
  unserved : ∀ motionType, r.motion motionType = false → fresh.lastSentUs motionType = none
  body : r.body = true → e.rumbleMix.bodyStrong = fresh.rumbleMix.bodyStrong ∧
    e.rumbleMix.bodyWeak = fresh.rumbleMix.bodyWeak
  trigger : r.trigger = true → e.rumbleMix.triggerLeft = fresh.rumbleMix.triggerLeft ∧
    e.rumbleMix.triggerRight = fresh.rumbleMix.triggerRight

variable {r : Renewed} {e fresh : Entry}

theorem Clean.lift (h : Clean r e fresh) : Clean r e.lift fresh.lift := by
  refine ⟨?_, rfl, h.report, h.motion, h.unserved, h.body, h.trigger⟩
  show e.touch.lifted = fresh.touch.lifted
  rw [h.touch]

theorem Clean.unsubscribe (h : Clean r e fresh) :
    Clean { r with motion := fun _ => true } e.unsubscribe fresh.unsubscribe :=
  ⟨h.touch, h.click, h.report, fun _ _ => ⟨rfl, rfl⟩, fun _ _ => rfl, h.body, h.trigger⟩

theorem Clean.meant (h : Clean r e fresh) (m : Option PadNumber) :
    Clean r (Entry.meant m n Entry.lift e) (Entry.meant m n Entry.lift fresh) := by
  unfold Entry.meant
  split
  · exact h.lift
  · exact h

/-- A session and its clean twin: one session, under the entries as they are and under those of a
number that no pad was under before. -/
def Twin (n : PadNumber) (r : Renewed) (s t : Session) : Prop :=
  ∃ u e fresh sent, s = laid n e sent u ∧ t = laid n fresh sent u ∧ Clean r e fresh

theorem Twin.out (h : Twin n r s t) : s.out = t.out := by
  obtain ⟨u, e, -, -, rfl, rfl, -⟩ := h
  rfl

/-- The step reads no entry that holds something of an earlier pad. -/
def ReadsRenewed (n : PadNumber) (s : Session) (r : Renewed) : SessionInput → Prop
  | .touchFrame k _ _ pressed =>
    k = n.val → s.clickHeld n ≠ (pressed && (s.touch n).reaches) → r.report = true
  | .motion m motionType _ _ _ _ =>
    m = n → s.motionOff n = false → r.motion motionType.toNat = true
  | .hostEvent (.rumble k _ _) => k.toNat = n.val → r.trigger = true
  | .hostEvent (.rumbleTriggers k _ _) => k.toNat = n.val → r.body = true
  | _ => True

variable {r : Renewed} {u : Session} {e fresh : Entry} {sent : List Out}

/-- What other pads do, and what the host sends them, renews nothing but what it replaces. -/
theorem Clean.foreign (h : Clean r e fresh) {input : SessionInput}
    (other : input.concerns n = false) :
    Clean (r.after n (laid n e sent u) input) (input.acts n u e) (input.acts n u fresh) := by
  cases input with
  | attach | detach => exact h.meant _
  | reannounce slotId storedType source =>
    have same : (laid n e sent u).rebuilds slotId storedType source =
        u.rebuilds slotId storedType source := rfl
    simp only [Renewed.after, acts, Entry.meant, same]
    split
    · exact h.unsubscribe.lift
    · exact h
  | touchReaches m reaches =>
    simp only [Renewed.after, acts, Entry.meant]
    split
    · refine ⟨?_, h.click, h.report, h.motion, h.unserved, h.body, h.trigger⟩
      show { e.touch with reaches := reaches } = { fresh.touch with reaches := reaches }
      rw [h.touch]
    · exact h
  | hostEvent event =>
    cases event with
    | rumble k | rumbleTriggers k | motionRequest k =>
      have foreign : ¬k.toNat = n.val := by
        simpa [concerns, HostEvent.number] using other
      simpa [Renewed.after, acts, foreign] using h
    | _ => exact h
  | controllerState k =>
    have foreign : ¬k = n.val := by simpa [concerns] using other
    simpa [Renewed.after, acts, foreign] using h
  | _ => exact h

theorem Twin.own {next : Renewed} {e' fresh' : Entry} {more more' : List Out}
    (eqS : s = laid n e' more u) (eqT : t = laid n fresh' more' u) (same : more = more')
    (clean : Clean next e' fresh') : Twin n next s t := by
  subst same
  exact ⟨u, e', fresh', more, eqS, eqT, clean⟩

theorem Twin.controllerState (h : Clean r e fresh) (report : LastReport) :
    Twin n { r with report := true } ((laid n e sent u).onInput w (.controllerState n.val report))
      ((laid n fresh sent u).onInput w (.controllerState n.val report)) := by
  refine Twin.own (own_controllerState w report) (own_controllerState w report) ?_ ?_
  · rw [h.click]
  · exact ⟨h.touch, h.click, fun _ => rfl, h.motion, h.unserved, h.body, h.trigger⟩

/-- Levels that come out the same are sent the same, and leave nothing of an earlier pad. -/
theorem Twin.applyRumble (h : Clean r e fresh) {k : UInt16} (own : k.toNat = n.val)
    (mix : RumbleMix → RumbleMix) (levels : mix e.rumbleMix = mix fresh.rumbleMix)
    (body trigger : Bool) :
    Twin n { r with body := body, trigger := trigger }
      ((laid n e sent u).applyRumble k (mix ((laid n e sent u).rumbleMix k.toNat)))
      ((laid n fresh sent u).applyRumble k (mix ((laid n fresh sent u).rumbleMix k.toNat))) := by
  refine Twin.own (own_applyRumble own mix) (own_applyRumble own mix) ?_ ?_
  · rw [levels]
  · rw [levels]
    exact ⟨h.touch, h.click, h.report, h.motion, h.unserved, fun _ => ⟨rfl, rfl⟩,
      fun _ => ⟨rfl, rfl⟩⟩

theorem Entry.request_other (e : Entry) (rate : Nat) {kind : Nat} (other : kind ≠ motionType) :
    (e.request rate motionType).rates kind = e.rates kind ∧
      (e.request rate motionType).lastSentUs kind = e.lastSentUs kind := by
  unfold Entry.request
  split <;> simp [Function.update_of_ne other]

theorem Entry.request_self (e : Entry) (rate motionType : Nat) :
    (e.request rate motionType).rates motionType = (if rate = 0 then none else some rate) ∧
      (e.request rate motionType).lastSentUs motionType =
        if rate = 0 then none else e.lastSentUs motionType := by
  unfold Entry.request
  split <;> simp

section
variable (h : Clean r e fresh)
include h

/-- A request leaves a subscription with nothing of an earlier pad if it had nothing, if it is
ended, or if nothing had been sent on it. -/
theorem Clean.request {rate : Nat}
    {motion : Nat → Bool} (others : ∀ kind, kind ≠ motionType → motion kind = r.motion kind)
    (self : motion motionType = true ↔
      r.motion motionType = true ∨ rate = 0 ∨ e.lastSentUs motionType = none) :
    Clean { r with motion := motion } (e.request rate motionType)
      (fresh.request rate motionType) := by
  refine ⟨h.touch, h.click, h.report, ?_, ?_, h.body, h.trigger⟩
  · intro kind renewed
    by_cases here : kind = motionType
    · subst here
      obtain ⟨rateE, lastE⟩ := e.request_self rate kind
      obtain ⟨rateF, lastF⟩ := fresh.request_self rate kind
      refine ⟨rateE.trans rateF.symm, ?_⟩
      rw [lastE, lastF]
      by_cases stop : rate = 0
      · rw [if_pos stop, if_pos stop]
      · rw [if_neg stop, if_neg stop]
        cases before : r.motion kind with
        | true => exact (h.motion kind before).2
        | false =>
          have unsent : e.lastSentUs kind = none := by
            simpa [before, stop] using self.mp renewed
          rw [unsent, h.unserved kind before]
    · obtain ⟨rateE, lastE⟩ := e.request_other rate here
      obtain ⟨rateF, lastF⟩ := fresh.request_other rate here
      obtain ⟨rates, last⟩ := h.motion kind ((others kind here).symm.trans renewed)
      exact ⟨by rw [rateE, rateF, rates], by rw [lastE, lastF, last]⟩
  · intro kind stale
    by_cases here : kind = motionType
    · subst here
      have before : ¬r.motion kind = true := by
        intro renewed
        simp [self.mpr (.inl renewed)] at stale
      rw [(fresh.request_self rate kind).2, h.unserved kind (by simpa using before)]
      split <;> rfl
    · rw [(fresh.request_other rate here).2]
      exact h.unserved kind ((others kind here).symm.trans stale)

theorem Twin.motionRequest {k : UInt16} (own : k.toNat = n.val)
    (rate : UInt16) (motionType : UInt8) :
    Twin n (r.after n (laid n e sent u) (.hostEvent (.motionRequest k rate motionType)))
      ((laid n e sent u).onInput w (.hostEvent (.motionRequest k rate motionType)))
      ((laid n fresh sent u).onInput w (.hostEvent (.motionRequest k rate motionType))) := by
  have zero : rate = 0 ↔ rate.toNat = 0 := UInt16.toNat_inj.symm
  refine Twin.own (own_motionRequest w own rate motionType)
    (own_motionRequest w own rate motionType) rfl ?_
  simp only [Renewed.after, entry_laid, own, true_and]
  split
  · rename_i served
    have others : ∀ kind, kind ≠ motionType.toNat →
        Function.update r.motion motionType.toNat true kind = r.motion kind := by
      intro kind other
      exact Function.update_of_ne other ..
    refine h.request others ?_
    rw [Function.update_self, ← zero]
    simp [served]
  · rename_i stale
    refine h.request (fun _ _ => rfl) ?_
    rw [← zero]
    simp [stale]

theorem Clean.sample (renewed : r.motion motionType = true) (nowUs : Int) :
    Clean r { e with lastSentUs := Function.update e.lastSentUs motionType (some nowUs) }
      { fresh with
        lastSentUs := Function.update fresh.lastSentUs motionType (some nowUs) } := by
  refine ⟨h.touch, h.click, h.report, ?_, ?_, h.body, h.trigger⟩
  · intro kind before
    obtain ⟨rates, last⟩ := h.motion kind before
    refine ⟨rates, ?_⟩
    simp only [Function.update_apply]
    rw [last]
  · intro kind stale
    have other : kind ≠ motionType := by
      intro here
      rw [here, renewed] at stale
      cases stale
    show Function.update fresh.lastSentUs motionType (some nowUs) kind = none
    rw [Function.update_of_ne other]
    exact h.unserved kind stale

theorem Twin.motion (motionType : UInt8) (a b c : Rat) (nowUs : Int)
    (renewed : u.motionOff n = false → r.motion motionType.toNat = true) :
    Twin n r ((laid n e sent u).onInput w (.motion n motionType a b c nowUs))
      ((laid n fresh sent u).onInput w (.motion n motionType a b c nowUs)) := by
  rw [own_motion, own_motion]
  cases off : u.motionOff n with
  | true => exact Twin.own rfl rfl rfl h
  | false =>
    obtain ⟨rates, last⟩ := h.motion _ (renewed off)
    rw [rates, last]
    split
    · exact Twin.own rfl rfl rfl (h.sample (renewed off) nowUs)
    · exact Twin.own rfl rfl rfl h

theorem Twin.touchFrame (finger0 finger1 : TouchFinger) (pressed : Bool)
    (renewed : e.clickHeld ≠ (pressed && e.touch.reaches) → r.report = true) :
    Twin n r ((laid n e sent u).onInput w (.touchFrame n.val finger0 finger1 pressed))
      ((laid n fresh sent u).onInput w (.touchFrame n.val finger0 finger1 pressed)) := by
  refine Twin.own (own_touchFrame w finger0 finger1 pressed)
    (own_touchFrame w finger0 finger1 pressed) ?_ ?_
  · have edge : edgePacket n u.activeMask e.lastReport e.clickHeld (pressed && e.touch.reaches) =
        edgePacket n u.activeMask fresh.lastReport fresh.clickHeld
          (pressed && fresh.touch.reaches) := by
      rw [← h.click, ← h.touch]
      unfold edgePacket
      split
      · rfl
      · rename_i flips
        rw [h.report (renewed flips)]
    rw [edge, h.touch]
  · rw [h.touch]
    exact ⟨rfl, rfl, h.report, h.motion, h.unserved, h.body, h.trigger⟩

end

/-- **One step keeps the twins twins**, if it reads nothing of an earlier pad. -/
theorem Twin.step (h : Twin n r s t) (input : Traffic) (reads : ReadsRenewed n s r input.1) :
    Twin n (r.after n s input.1) (s.ride w input) (t.ride w input) := by
  obtain ⟨u, e, fresh, sent, rfl, rfl, clean⟩ := h
  obtain ⟨input, riding⟩ := input
  cases own : input.concerns n with
  | false =>
    obtain ⟨more, eq⟩ := passes_onInput (u := u) w riding own
    exact ⟨_, _, _, _, eq e sent, eq fresh sent, clean.foreign own⟩
  | true =>
    cases input with
    | controllerState k report =>
      have mine : k = n.val := by simpa [concerns] using own
      subst mine
      simp only [Renewed.after, if_true]
      exact .controllerState w clean report
    | hostEvent event =>
      cases event with
      | rumble k low high =>
        have mine : k.toNat = n.val := by
          simpa [concerns, HostEvent.number] using own
        obtain ⟨left, right⟩ := clean.trigger (reads mine)
        simp only [Renewed.after, mine, if_true]
        refine .applyRumble clean mine (withBodyRumble · low high) ?_ true r.trigger
        unfold withBodyRumble
        rw [left, right]
      | rumbleTriggers k low high =>
        have mine : k.toNat = n.val := by
          simpa [concerns, HostEvent.number] using own
        obtain ⟨strong, weak⟩ := clean.body (reads mine)
        simp only [Renewed.after, mine, if_true]
        refine .applyRumble clean mine (withTriggerRumble · low high) ?_ r.body true
        unfold withTriggerRumble
        rw [strong, weak]
      | motionRequest k rate motionType =>
        have mine : k.toNat = n.val := by
          simpa [concerns, HostEvent.number] using own
        exact .motionRequest w clean mine rate motionType
      | rgbLed => exact ⟨u, e, fresh, _, rfl, rfl, clean⟩
      | termination | unknown => cases own
    | motion m motionType a b c nowUs =>
      have mine : m = n := by simpa [concerns] using own
      subst mine
      exact .motion w clean motionType a b c nowUs (reads rfl)
    | battery => exact ⟨u, e, fresh, _, rfl, rfl, clean⟩
    | touchFrame k finger0 finger1 pressed =>
      have mine : k = n.val := by simpa [concerns] using own
      subst mine
      refine .touchFrame w clean finger0 finger1 pressed ?_
      have reads := reads rfl
      simpa [laid] using reads
    | _ => cases own

/-! ### From the assignment on -/

/-- A session from the assignment of a number on, with which entries have been renewed since. -/
structure Reassigned where
  session : Session
  renewed : Renewed

def Reassigned.of (n : PadNumber) (s : Session) : Reassigned := ⟨s, (s.entry n).renewed⟩

def Reassigned.step (w : World) (n : PadNumber) (st : Reassigned) (input : Traffic) : Reassigned :=
  ⟨st.session.ride w input, st.renewed.after n st.session input.1⟩

/-- The step reads no entry of the number that still is an earlier pad's. -/
def Reassigned.Reads (n : PadNumber) (st : Reassigned) (input : Traffic) : Prop :=
  ReadsRenewed n st.session st.renewed input.1

theorem Twin.run {later : List Traffic} : ∀ {st : Reassigned} {t : Session},
    Twin n st.renewed st.session t →
    Steps.Along (Reassigned.step w n) (Reassigned.Reads n) st later →
    (Steps.run (ride w) st.session later).out = (Steps.run (ride w) t later).out := by
  induction later with
  | nil => intro st t h _; exact h.out
  | cons input rest ih =>
    intro st t h reads
    exact ih (h.step w input reads.1) reads.2

/-- A number whose contacts and click are lifted stands beside one that no pad was under. -/
theorem twin_blank (lifted : (s.entry n).lift = s.entry n) :
    Twin n (s.entry n).renewed s (laid n (s.entry n).blank s.out s) := by
  refine ⟨s, _, _, s.out, (laid_entry s).symm, rfl, ?_, ?_, ?_, ?_, ?_, ?_, ?_⟩
  · exact (congrArg Entry.touch lifted).symm
  · exact (congrArg Entry.clickHeld lifted).symm
  · exact fun rest => of_decide_eq_true rest
  · exact fun motionType rest => of_decide_eq_true rest
  · exact fun motionType _ => rfl
  · exact fun rest => of_decide_eq_true rest
  · exact fun rest => of_decide_eq_true rest

variable {history history' : List Traffic}

theorem strip_run (s : Session)
    (alike : history.filter (!·.1.concerns n) = history'.filter (!·.1.concerns n)) :
    (Steps.run (ride w) s history).strip n = (Steps.run (ride w) s history').strip n := by
  have congr : ∀ (a b : Session) (input : Traffic), a.strip n = b.strip n →
      (a.ride w input).strip n = (b.ride w input).strip n := fun _ _ => strip_onInput w
  have hidden : ∀ (a : Session) (input : Traffic), input.1.concerns n = true →
      (a.ride w input).strip n = a.strip n := fun a _ => strip_own w a
  rw [Steps.view_run_filter congr hidden history rfl,
    Steps.view_run_filter congr hidden history' rfl, alike]

/-- The session after a history, with nothing sent yet, given a new pad. -/
def assign (w : World) (s : Session) (history : List Traffic) (slotId : String) (storedType : Int)
    (source : SourceCapabilities) : Session :=
  ({ Steps.run (ride w) s history with out := [] }.attachController slotId storedType source).2

/-- After two such histories the new pad is assigned the same number, in the same rest, with the
same packets. -/
theorem laid_assign (s : Session)
    (alike : history.filter (!·.1.concerns n) = history'.filter (!·.1.concerns n))
    (slotId : String) (storedType : Int) (source : SourceCapabilities) :
    laid n ((assign w s history slotId storedType source).entry n).blank
        (assign w s history slotId storedType source).out
        (assign w s history slotId storedType source) =
      laid n ((assign w s history' slotId storedType source).entry n).blank
        (assign w s history' slotId storedType source).out
        (assign w s history' slotId storedType source) := by
  have same := strip_run (n := n) w s alike
  generalize rest : (Steps.run (ride w) s history).strip n = v at same
  have split : ∀ a : Session, a.strip n = v → { a with out := [] } = laid n (a.entry n) [] v := by
    intro a stripped
    have whole := laid_strip (n := n) a
    rw [stripped] at whole
    calc { a with out := [] } = { laid n (a.entry n) a.out v with out := [] } := by rw [whole]
      _ = laid n (a.entry n) [] v := rfl
  obtain ⟨sent, eq⟩ := passes_attachController (n := n) (u := v) slotId storedType source
  have blank : ((Steps.run (ride w) s history).entry n).blank =
      ((Steps.run (ride w) s history').entry n).blank := by
    have := congrArg (Session.entry n) (rest.trans same)
    rwa [strip, strip, entry_laid, entry_laid] at this
  dsimp only at eq
  unfold assign
  rw [split _ rest, split _ same.symm, eq, eq, entry_laid, entry_laid, laid_laid, laid_laid]
  have lifted := SessionInput.acts_blank (u := v) (n := n) (.attach slotId storedType source) blank
  rw [show (Entry.meant _ n Entry.lift _).blank = _ from lifted]
  rfl

/-! ### Numbers that do not fit a byte -/

/-- The slot a rumble or a light is delivered to: the one that holds the number. -/
def delivered (s : Session) : Out → Option String
  | .rumble k _ _ | .led k _ _ _ =>
    if h : k.toNat < kMaxPads then s.slots.slotFor ⟨k.toNat, h⟩ else none
  | _ => none

/-- The slot that holds the low byte of a number. -/
def slotOfLow (s : Session) (k : UInt16) : Option String := s.delivered (.led k.toUInt8 0 0 0)

/-- A rumble or a light for a number above 255 finds no pad under its low byte. -/
def Unaliased (s : Session) (input : Traffic) : Prop :=
  match input.1 with
  | .hostEvent (.rumble k _ _) | .hostEvent (.rumbleTriggers k _ _)
  | .hostEvent (.rgbLed k _ _ _) => 255 < k.toNat → s.slotOfLow k = none
  | _ => True

/-- A host event for a number above 255 is delivered to no pad, and changes nothing that is
remembered of one. -/
def Stays (s : Session) (input : Traffic) : Prop :=
  ∀ event k, input.1 = .hostEvent event → event.number = some k → 255 < k.toNat →
    (∀ o ∈ ({ s with out := [] }.onHostEvent event).out, s.delivered o = none) ∧
      ∀ m : PadNumber, (s.onHostEvent event).entry m = s.entry m

theorem stays_of_unaliased {input : Traffic} (h : s.Unaliased input) : s.Stays input := by
  obtain ⟨input, riding⟩ := input
  intro event k given number above
  subst given
  refine ⟨?_, ?_⟩
  · intro o sent
    cases event with
    | rumble | rumbleTriggers | rgbLed =>
      cases number
      rw [List.mem_singleton.mp sent]
      exact h above
    | motionRequest => cases sent
    | termination | unknown => cases number
  · intro m
    have far : k.toNat ≠ m.val := by
      have := m.isLt
      unfold kMaxPads at this
      omega
    exact (passes_onHostEvent (u := s) (by simp [number, far])).entry

/-! ### The result -/

/-- **A reassigned number starts clean**, where nothing is read of an earlier pad.  Two histories
that differ only in what the number's pads sent and were sent end in the same packets, rumbles and
lights from the assignment on; and a host event for a number above 255 acts on no pad, where it
finds none under its low byte. -/
theorem reassigned_number_starts_clean (w : World) (s : Session) (n : PadNumber)
    (history history' later : List Traffic) (slotId : String) (storedType : Int)
    (source : SourceCapabilities)
    (alike : history.filter (!·.1.concerns n) = history'.filter (!·.1.concerns n))
    (assigned : ((Steps.run (ride w) s history).attachController slotId storedType source).1 =
      some n)
    (reads : Steps.Along (Reassigned.step w n) (Reassigned.Reads n)
      (.of n (assign w s history slotId storedType source)) later)
    (reads' : Steps.Along (Reassigned.step w n) (Reassigned.Reads n)
      (.of n (assign w s history' slotId storedType source)) later)
    (unaliased : Steps.Along (ride w) Unaliased s
      (history ++ ⟨.attach slotId storedType source, rfl⟩ :: later)) :
    (Steps.run (ride w) (assign w s history slotId storedType source) later).out =
        (Steps.run (ride w) (assign w s history' slotId storedType source) later).out ∧
      Steps.Along (ride w) Stays s (history ++ ⟨.attach slotId storedType source, rfl⟩ :: later) := by
  have number : ∀ h : List Traffic, h.filter (!·.1.concerns n) = history.filter (!·.1.concerns n) →
      ((assign w s h slotId storedType source).entry n).lift =
        (assign w s h slotId storedType source).entry n := by
    intro h same
    have slots : (Steps.run (ride w) s h).slots = (Steps.run (ride w) s history).slots :=
      show ((Steps.run (ride w) s h).strip n).slots = ((Steps.run (ride w) s history).strip n).slots
        from congrArg slots (strip_run w s same)
    have holds : ((Steps.run (ride w) s h).slots.assign slotId).map (·.1) = some n := by
      rw [slots]
      unfold attachController at assigned
      cases found : (Steps.run (ride w) s history).slots.assign slotId with
      | none => simp [found] at assigned
      | some number => simpa [found] using assigned
    have entry := (passes_attachController (n := n)
      (u := { Steps.run (ride w) s h with out := [] }) slotId storedType source).entry
    unfold assign
    rw [entry, Entry.meant, if_pos holds]
    rfl
  refine ⟨?_, ?_⟩
  · calc (Steps.run (ride w) (assign w s history slotId storedType source) later).out
        = (Steps.run (ride w) (laid n ((assign w s history slotId storedType source).entry n).blank
            _ (assign w s history slotId storedType source)) later).out :=
          (twin_blank (number history rfl)).run w reads
      _ = (Steps.run (ride w) (laid n ((assign w s history' slotId storedType source).entry n).blank
            _ (assign w s history' slotId storedType source)) later).out := by
          rw [laid_assign w s alike]
      _ = (Steps.run (ride w) (assign w s history' slotId storedType source) later).out :=
          ((twin_blank (number history' alike.symm)).run w reads').symm
  · exact Steps.along_of_inv (I := fun _ => True) (fun _ _ _ _ => trivial)
      (fun _ _ _ h => stays_of_unaliased h) trivial unaliased

/-- A session that is streaming, with no pad yet. -/
def live : Session :=
  { host := { uuid := "U" }, machine := { phase := .streaming }, connected := true }

def first : PadNumber := ⟨0, by decide⟩

def attaching (slotId : String) : Traffic := ⟨.attach slotId 2 { motion := true }, rfl⟩

def detaching (slotId : String) : Traffic := ⟨.detach slotId, rfl⟩

def reporting (buttons : UInt16) : Traffic :=
  ⟨.controllerState 0 { internalButtons := buttons }, rfl⟩

def clicking : Traffic := ⟨.touchFrame 0 {} {} true, rfl⟩

/-- The first pad held a button when it left.  The second reports before it clicks. -/
theorem reassigned_number_starts_clean_reported :
    let history := [attaching "one", reporting 0x1000, detaching "one"]
    let history' := [attaching "one", detaching "one"]
    let later := [reporting 0x0001, clicking]
    (Steps.run (ride {}) (assign {} live history "two" 2 {}) later).out =
      (Steps.run (ride {}) (assign {} live history' "two" 2 {}) later).out := by
  intro history history' later
  have alike : history.filter (!·.1.concerns first) = history'.filter (!·.1.concerns first) := rfl
  have assigned : ((Steps.run (ride {}) live history).attachController "two" 2 {}).1 =
      some first := by decide +kernel
  have reads : Steps.Along (Reassigned.step {} first) (Reassigned.Reads first)
      (.of first (assign {} live history "two" 2 {})) later := by
    refine ⟨trivial, ?_, trivial⟩
    intro _ _
    rfl
  have reads' : Steps.Along (Reassigned.step {} first) (Reassigned.Reads first)
      (.of first (assign {} live history' "two" 2 {})) later := by
    refine ⟨trivial, ?_, trivial⟩
    intro _ _
    rfl
  have unaliased : Steps.Along (ride {}) Unaliased live
      (history ++ ⟨.attach "two" 2 {}, rfl⟩ :: later) :=
    ⟨trivial, trivial, trivial, trivial, trivial, trivial, trivial⟩
  exact (reassigned_number_starts_clean {} live first history history' later "two" 2 {} alike
    assigned reads reads' unaliased).1

/-- The first pad held a button, the host had asked it for motion and left its triggers on.  The
second pad's click replays the button, its motion is sent unasked, and a body rumble of zero still
shakes it.  A rumble for the number 256 reaches it as well. -/
theorem reassigned_number_replays_last_pad :
    let s := Steps.run (ride {}) live
      [attaching "one", reporting 0x1000,
        ⟨.hostEvent (.motionRequest 0 100 1), rfl⟩, ⟨.hostEvent (.rumbleTriggers 0 500 500), rfl⟩,
        detaching "one"]
    let t := assign {} s [] "two" 2 { motion := true }
    (s.attachController "two" 2 { motion := true }).1 = some first ∧
      (t.ride {} clicking).out.getLast? =
        some (.packet (.multi first 1 (0x1000 ||| kBtnTouchpad) 0 0 0 0 0 0)) ∧
      (t.ride {} ⟨.motion first 1 0 0 0 0, rfl⟩).out.getLast? =
        some (.packet (.motion first 1 0 0 0)) ∧
      (t.ride {} ⟨.hostEvent (.rumble 0 0 0), rfl⟩).out.getLast? = some (.rumble 0 500 500) ∧
      (t.ride {} ⟨.hostEvent (.rumble 256 7 7), rfl⟩).out.getLast? = some (.rumble 0 7 7) ∧
      t.delivered (.rumble 0 7 7) = some "two" := by
  decide +kernel

end Session

end Dish.Moonlight
