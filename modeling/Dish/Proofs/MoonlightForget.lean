/-
Forgetting a Moonlight host is final.

A reply is handled with what its request was made with: the epoch of the host, the attempt of the
pairing or the session.  Three things carry the result.  Those marks only ever move on (`Onward`),
so a request in flight holds a mark that is current at most.  A forget moves all three past every
request in flight for the host (`Spent`).  And a reply whose mark is spent writes nothing about the
host.  What may come between a forget and a late reply, a new discovery or pairing of the host
included, is any run at all.
-/
import Dish.Lib.Run
import Dish.Proofs.MoonlightBindings

namespace Dish.Moonlight

open Function Steps

namespace Manager

variable {m : Manager} (o : Outside)

/-! ### The marks of the manager -/

theorem onward_ensureSession (m : Manager) (host : MoonlightHost) :
    Onward m (m.ensureSession host).2 := by
  cases filed : m.sessions host.uuid with
  | some id =>
    rw [ensureSession_of_some filed]
    exact .refl m
  | none =>
    rw [ensureSession_of_none filed]
    refine ⟨fun _ => le_rfl, .refl _, ?_, Nat.le_succ _, le_rfl, fun _ => .inl,
      fun placed => ⟨placed.1, placed.2⟩⟩
    intro uuid id here
    rw [enroll_sessions] at here
    split at here
    · rw [Option.some.injEq] at here
      exact .inr (le_of_eq here)
    · exact .inl here

theorem onward_bindController (hm : m.Roster) (slotId uuid : String) (storedType : Int)
    (source : SourceCapabilities) :
    Onward m (m.bindController o slotId uuid storedType source).2 := by
  have bound := bindController_bound (o := o) hm slotId uuid storedType source
  generalize m.bindController o slotId uuid storedType source = result at bound
  have seated : ∀ {host : MoonlightHost} {s : Session} {id : Nat} {m' : Manager},
      (m.claimed o slotId uuid).repo.get uuid = some host →
      m.joining o slotId uuid host = (id, m') → m'.objects id = some s →
      Onward m (m'.put id (s.seatController slotId storedType source).2) := by
    intro host s id m' stored joining there
    obtain ⟨roster, -⟩ := joining_roster hm stored joining
    have joined := onward_ensureSession (m.claimed o slotId uuid) host
    unfold Manager.joining at joining
    rw [joining] at joined
    have claimed := (housed_claimed o m slotId uuid).onward hm.toTidy
    exact claimed.trans (joined.trans (m'.onward_put (roster.toTidy.lt there) _))
  cases bound with
  | empty => exact .refl m
  | full => exact (housed_freed o m slotId uuid).onward hm.toTidy
  | waiting => exact (housed_claimed o m slotId uuid).onward hm.toTidy
  | unnumbered room stored joining there none put =>
    subst put
    exact (seated stored joining there).trans (.same rfl)
  | joined named room stored paired joining there some =>
    rename_i host s id m' number
    obtain ⟨roster, -⟩ := joining_roster hm stored joining
    have put := housed_put m' there (s.aside_seatController slotId storedType source).abides
    exact (seated stored joining there).trans
      ((frame_launch o _ _ _ _ _ _ _ _).onward (put.tidy roster.toTidy))

theorem onward_forget (m : Manager) (uuid : String) : Onward m (m.forget uuid) := by
  unfold forget
  split
  · exact .refl m
  · have epochs : ∀ other, m.epochs other ≤ update m.epochs uuid (m.epochs uuid + 1) other := by
      intro other
      rw [update_apply]
      split
      · rename_i same
        subst same
        exact Nat.le_succ _
      · exact le_rfl
    have sessions : ∀ other id, update m.sessions uuid none other = some id →
        m.sessions other = some id ∨ m.nextSession ≤ id := by
      intro other id here
      rw [update_apply] at here
      split at here
      · cases here
      · exact .inl here
    have placed : m.Placed → ∀ key,
        (((m.repo.forgetBindingsForHost uuid).remove uuid).get key).isSome = true →
          isAddressPlaceholder key = true := by
      intro placed key there
      exact placed.filed key (MoonlightHostRepository.isSome_of_remove there)
    unfold dropRecordsFor cancelPairingWith
    simp only
    split <;> split <;> first
      | exact ⟨epochs, .refl _, sessions, le_rfl, le_rfl, fun _ => .inl, fun h => ⟨placed h, h.2⟩⟩
      | exact ⟨epochs, m.flow.onward_cancel, sessions, le_rfl, le_rfl, fun _ => .inl,
          fun h => ⟨placed h, h.2⟩⟩

theorem onward_leave (hm : m.Roster) (id : Nat) : Onward m (m.leave o id) := by
  unfold leave
  split
  · exact .refl m
  · have stopped := m.quiet_withSession id fun s => s.stop_plays o.world true
    exact (stopped.onward hm.toTidy).trans (.same rfl)

/-- **Every act moves the marks on or leaves them.** -/
theorem onward_act (hm : m.Roster) (act : ManagerAct) : Onward m (m.act o act) := by
  cases seats : act.seats with
  | false => exact (quiet_act o m seats).onward hm.toTidy
  | true =>
    cases act with
    | bindController slotId uuid storedType source =>
      exact onward_bindController o hm slotId uuid storedType source
    | unbindController slotId => exact (housed_unbindController o m slotId).onward hm.toTidy
    | forget uuid => exact m.onward_forget uuid
    | leave id => exact onward_leave o hm id
    | delete id =>
      refine .same ?_
      show (m.delete id).marks = m.marks
      unfold delete
      split <;> rfl
    | _ => cases seats

theorem onward_step (hm : m.Roster) (act : Outside × ManagerAct) : Onward m (m.step act) := by
  have cleared := hm.cleared
  have first : Onward m { m with out := [] } := .same rfl
  exact first.trans (onward_act act.1 cleared act.2)

end Manager

/-! ### Spent marks -/

/-- The mark is no longer one that the reply would be heard with, as far as the host goes. -/
def Callback.Spent (m : Manager) (uuid : String) : Callback → Prop
  | .plainProbe host _ epoch | .tlsProbe host epoch | .appList host epoch =>
    host = uuid → epoch < m.epochs uuid
  | .pair _ attempt =>
    attempt ≤ m.flow.attempt ∧
      (attempt = m.flow.attempt → m.flow.active = true → m.flow.hostUuid ≠ uuid)
  | .session id _ => id < m.nextSession ∧ m.sessions uuid ≠ some id
  | .hostCancel _ => True

namespace Manager

variable {m : Manager} {uuid : String}

theorem Onward.spent {m' : Manager} (h : Onward m m') {callback : Callback}
    (hc : callback.Spent m uuid) : callback.Spent m' uuid := by
  cases callback with
  | plainProbe | tlsProbe | appList =>
    exact fun same => lt_of_lt_of_le (hc same) (h.epochs uuid)
  | pair =>
    obtain ⟨bounded, other⟩ := hc
    refine ⟨le_trans bounded h.flow.le, ?_⟩
    intro current active
    rcases h.flow with later | ⟨same, host, alive⟩
    · exact absurd current (Nat.ne_of_lt (lt_of_le_of_lt bounded later))
    · rw [host]
      exact other (current.trans same) (alive active)
  | session id =>
    obtain ⟨below, out⟩ := hc
    refine ⟨lt_of_lt_of_le below h.nextSession, ?_⟩
    intro here
    rcases h.sessions uuid id here with here | new
    · exact out here
    · omega
  | hostCancel => trivial

theorem forget_spent (named : uuid ≠ "") {callback : Callback} (bounded : callback.Bounded m) :
    callback.Spent (m.forget uuid) uuid := by
  have epochs : (m.forget uuid).epochs uuid = m.epochs uuid + 1 := by
    unfold forget
    rw [if_neg named]
    unfold dropRecordsFor cancelPairingWith
    simp only
    split <;> split <;> exact update_self ..
  have flow : (m.forget uuid).flow = (m.cancelPairingWith uuid).flow := by
    unfold forget
    rw [if_neg named]
    unfold dropRecordsFor cancelPairingWith
    simp only
    split <;> split <;> rfl
  have forgotten := m.forget_forgotten named
  cases callback with
  | plainProbe =>
    intro same
    subst same
    rw [epochs]
    exact Nat.lt_succ_of_le bounded.1
  | tlsProbe | appList =>
    intro same
    subst same
    rw [epochs]
    exact Nat.lt_succ_of_le bounded
  | pair phase attempt =>
    have bounded : attempt ≤ m.flow.attempt := bounded
    show attempt ≤ (m.forget uuid).flow.attempt ∧ _
    rw [flow]
    unfold cancelPairingWith
    split
    · refine ⟨Nat.le_succ_of_le bounded, ?_⟩
      intro current
      have later : attempt = m.flow.attempt + 1 := current
      omega
    · rename_i idle
      refine ⟨bounded, ?_⟩
      intro _ active host
      exact idle (by simp [active, host])
  | session =>
    refine ⟨?_, ?_⟩
    · rw [forgotten.nextSession]
      exact bounded
    · rw [forgotten.sessions, update_self]
      exact nofun
  | hostCancel => trivial

/-- Everything in flight has a current mark at most. -/
def Wired (m : Manager) : Prop :=
  ∀ entry ∈ m.pending, entry.1 < m.nextTicket ∧ entry.2.Bounded m

theorem Onward.wired {m' : Manager} (h : Onward m m') (hm : m.Wired) : m'.Wired := by
  intro entry inFlight
  rcases h.pending entry inFlight with old | ⟨-, below, bounded⟩
  · obtain ⟨below, bounded⟩ := hm entry old
    exact ⟨lt_of_lt_of_le below h.nextTicket, h.bounded bounded⟩
  · exact ⟨below, bounded⟩

/-- Everything in flight from before the forget has a mark that is spent for the host. -/
structure SpentSince (uuid : String) (before m : Manager) : Prop where
  roster : m.Roster
  past : before.nextTicket ≤ m.nextTicket
  spent : ∀ entry ∈ m.pending, entry.1 < before.nextTicket →
    entry ∈ before.pending ∧ entry.2.Spent m uuid
  gone : ∀ id, before.sessions uuid = some id → id < m.nextSession ∧ m.sessions uuid ≠ some id

theorem SpentSince.step {before : Manager} (h : SpentSince uuid before m)
    (act : Outside × ManagerAct) : SpentSince uuid before (m.step act) := by
  have onward := onward_step h.roster act
  refine ⟨roster_step h.roster act, le_trans h.past onward.nextTicket, ?_, ?_⟩
  · intro entry inFlight earlier
    rcases onward.pending entry inFlight with old | ⟨new, -, -⟩
    · obtain ⟨old, spent⟩ := h.spent entry old earlier
      exact ⟨old, onward.spent spent⟩
    · have := h.past
      omega
  · intro id filed
    obtain ⟨below, out⟩ := h.gone id filed
    refine ⟨lt_of_lt_of_le below onward.nextSession, ?_⟩
    intro here
    rcases onward.sessions uuid id here with here | new
    · exact out here
    · omega

end Manager

/-! ### What a reply with a spent mark writes -/

/-- Everything the manager keeps about one host.  The pairing anchor is in the record. -/
structure HostRecords where
  probe : Option HostProbe := none
  apps : Option AppCache := none
  host : Option MoonlightHost := none
  bound : List String := []
  standing : List MoonlightBinding := []
  deriving DecidableEq

namespace Manager

variable {host uuid : String} {epoch id : Nat} (m : Manager) (o : Outside)

def about (m : Manager) (uuid : String) : HostRecords :=
  { probe := m.probes uuid
    apps := m.appCache uuid
    host := m.repo.get uuid
    bound := m.bindings.slotsOf uuid
    standing := m.repo.loadBindings.filter (·.hostUuid = uuid) }

theorem about_setProbe (h : uuid ≠ host) (change : HostProbe → HostProbe) :
    (m.setProbe host change).about uuid = m.about uuid := by
  simp [about, setProbe, h]

theorem about_setApps (h : uuid ≠ host) (change : AppCache → AppCache) :
    (m.setApps host change).about uuid = m.about uuid := by
  simp [about, setApps, h]

theorem about_ask (callback : Callback) (uuid : String) :
    (m.ask callback).about uuid = m.about uuid := rfl

theorem about_ensureIdentityLoaded (m : Manager) (uuid : String) :
    (m.ensureIdentityLoaded o).about uuid = m.about uuid := rfl

theorem about_probe (m : Manager) (h : uuid ≠ host) :
    (m.probe o host).about uuid = m.about uuid := by
  unfold probe
  split
  · rfl
  · split
    · rfl
    · exact ((about_ask ..).trans (about_ensureIdentityLoaded ..)).trans (m.about_setProbe h _)

theorem about_onPlainServerInfo (target : ProbeTarget) (h : host = uuid → epoch < m.epochs uuid)
    (reply : ServerInfoReply) :
    (m.onPlainServerInfo host target epoch reply).about uuid = m.about uuid := by
  unfold onPlainServerInfo
  split
  · rfl
  · rename_i current
    have other : uuid ≠ host := by
      intro same
      subst same
      have := h rfl
      omega
    split
    · exact m.about_setProbe other _
    · simp only
      split
      · exact m.about_setProbe other _
      · exact (about_ask ..).trans (m.about_setProbe other _)

theorem about_onTlsServerInfo (h : host = uuid → epoch < m.epochs uuid) (reply : ServerInfoReply) :
    (m.onTlsServerInfo host epoch reply).about uuid = m.about uuid := by
  unfold onTlsServerInfo
  split
  · rfl
  · rename_i current
    have other : uuid ≠ host := by
      intro same
      subst same
      have := h rfl
      omega
    exact m.about_setProbe other _

theorem about_onAppListReply (h : host = uuid → epoch < m.epochs uuid) (status : Int)
    (root : Option Status) (apps : List MoonlightApp) :
    (m.onAppListReply host epoch status root apps).about uuid = m.about uuid := by
  unfold onAppListReply
  split
  · rfl
  · rename_i current
    have other : uuid ≠ host := by
      intro same
      subst same
      have := h rfl
      omega
    simp only
    split
    · split
      · simp only [about_setProbe _ other, about_setApps _ other]
      · simp only [about_setApps _ other]
    · simp only [about_setProbe _ other, about_setApps _ other]

theorem about_upsert {host : MoonlightHost} (h : uuid ≠ host.uuid) :
    about { m with repo := m.repo.upsert host } uuid = m.about uuid := by
  have bindings : (m.repo.upsert host).loadBindings = m.repo.loadBindings := by
    unfold MoonlightHostRepository.upsert MoonlightHostRepository.loadBindings
    split <;> rfl
  simp [about, MoonlightHostRepository.get_upsert_ne h, bindings]

theorem about_onPairingFinished (h : uuid ≠ m.flow.hostUuid) (ok : Bool)
    (reasonToken serverCertPem : String) :
    (m.onPairingFinished ok reasonToken serverCertPem).about uuid = m.about uuid := by
  unfold onPairingFinished
  split
  · rw [about_setProbe _ h]
    exact m.about_upsert (by rw [pairedRecord_uuid]; exact h)
  · rfl

theorem about_pairReply (phase : PairPhase) {attempt : Nat}
    (h : attempt = m.flow.attempt → m.flow.active = true → m.flow.hostUuid ≠ uuid)
    (reply : PairReply) :
    (m.onFlow (m.flow.onReply phase attempt reply)).about uuid = m.about uuid := by
  cases current : m.flow.current attempt with
  | false =>
    rw [PairingFlow.onReply_stale current]
    rfl
  | true =>
    unfold PairingFlow.current at current
    simp only [Bool.and_eq_true, beq_iff_eq] at current
    have other := h current.2 current.1
    unfold onFlow
    split
    · rfl
    · rfl
    · refine about_onPairingFinished _ ?_ _ _ _
      rw [PairingFlow.onReply_hostUuid]
      exact other.symm

/-- What a session sends or raises writes about its host only while it is the host's session. -/
theorem about_put {s : Session} (h : m.sessions uuid ≠ some id) :
    (m.put id s).about uuid = m.about uuid := by
  have absorb : ∀ (m : Manager) (o : Out), m.sessions uuid ≠ some id →
      (m.absorb id s.host.uuid o).about uuid = m.about uuid ∧
        (m.absorb id s.host.uuid o).sessions = m.sessions := by
    intro m o h
    unfold absorb
    cases o with
    | failed =>
      simp only
      unfold onSessionFailed
      split
      · exact ⟨rfl, rfl⟩
      · rename_i filed
        split
        · refine ⟨about_setProbe _ ?_ _, rfl⟩
          intro same
          exact h (same ▸ not_not.mp filed)
        · exact ⟨rfl, rfl⟩
    | _ => exact ⟨rfl, rfl⟩
  have kept : (m.put id s).about uuid = m.about uuid ∧ (m.put id s).sessions = m.sessions := by
    refine List.foldlRecOn (motive := fun m' : Manager => m'.about uuid = m.about uuid ∧
      m'.sessions = m.sessions) s.out _ ⟨rfl, rfl⟩ ?_
    intro m' kept o _
    obtain ⟨about, sessions⟩ := absorb m' o (kept.2 ▸ h)
    exact ⟨about.trans kept.1, sessions.trans kept.2⟩
  exact kept.1

theorem about_withSession (h : m.sessions uuid ≠ some id) (call : Session → Session) :
    (m.withSession id call).about uuid = m.about uuid := by
  unfold withSession
  split
  · rfl
  · exact m.about_put h

/-- **A reply with a spent mark writes nothing about the host.** -/
theorem about_onReply (m : Manager) {callback : Callback} (spent : callback.Spent m uuid)
    (other : callback ≠ .hostCancel uuid) (reply : GatewayReply) :
    (m.onReply o callback reply).about uuid = m.about uuid := by
  unfold onReply
  split
  · exact m.about_onPlainServerInfo _ spent _
  · exact m.about_onTlsServerInfo spent _
  · exact m.about_onAppListReply spent _ _ _
  · exact m.about_pairReply _ spent.2 _
  · unfold onSessionReply
    split
    · exact m.about_withSession spent.2 _
    · exact m.about_withSession spent.2 _
    · rfl
  · rename_i host _
    exact about_probe o m fun same => other (by rw [same])
  · rfl

/-! ### The forget itself -/

theorem forget_about (named : uuid ≠ "") : (m.forget uuid).about uuid = {} := by
  have forgotten := m.forget_forgotten named
  have repo : (m.forget uuid).repo = (m.repo.forgetBindingsForHost uuid).remove uuid := by
    unfold forget
    rw [if_neg named]
    unfold dropRecordsFor cancelPairingWith
    simp only
    split <;> split <;> rfl
  have probe : (m.forget uuid).probes uuid = none := by
    unfold forget
    rw [if_neg named]
    unfold dropRecordsFor
    simp only
    split <;> exact update_self ..
  have apps : (m.forget uuid).appCache uuid = none := by
    unfold forget
    rw [if_neg named]
    unfold dropRecordsFor
    simp only
    split <;> exact update_self ..
  have bound : (m.forget uuid).bindings.slotsOf uuid = [] := by
    apply List.eq_nil_iff_forall_not_mem.mpr
    intro slot here
    rw [Bindings.mem_slotsOf, forgotten.bindings, Bindings.value_foldl_remove,
      Bindings.mem_slotsOf] at here
    exact here.1 here.2
  have standing : (m.forget uuid).repo.loadBindings.filter (·.hostUuid = uuid) = [] := by
    rw [repo, List.filter_eq_nil_iff]
    intro binding here
    obtain ⟨stored, kept, read⟩ := List.mem_filterMap.mp here
    have other : stored.hostUuid ≠ uuid := by simpa using (List.mem_filter.mp kept).2
    have same : binding.hostUuid = stored.hostUuid := by
      unfold MoonlightBinding.fromJson at read
      split at read
      · cases read
        rfl
      · cases read
    simpa [same] using other
  unfold about
  rw [probe, apps, repo, MoonlightHostRepository.get_remove_self, ← repo, bound, standing]

theorem wired_run (repo : MoonlightHostRepository) (acts : List (Outside × ManagerAct)) :
    (run step { repo := repo } acts).Roster ∧ (run step { repo := repo } acts).Wired := by
  refine run_inv (I := fun m : Manager => m.Roster ∧ m.Wired) ?_ ⟨roster_init repo, ?_⟩ acts
  · intro m act ⟨roster, wired⟩
    exact ⟨roster_step roster act, (onward_step roster act).wired wired⟩
  · intro entry inFlight
    simp at inFlight

/-- **No two hosts share a session, and a host's session is there and names the host.** -/
theorem sessions_keyed (repo : MoonlightHostRepository) (acts : List (Outside × ManagerAct)) :
    let m := run step { repo := repo } acts
    (∀ uuid other id, m.sessions uuid = some id → m.sessions other = some id → uuid = other) ∧
      ∀ uuid id, m.sessions uuid = some id → ∃ s, m.objects id = some s ∧ s.host.uuid = uuid := by
  have roster := (wired_run repo acts).1
  exact ⟨fun _ _ _ => roster.injective, fun _ _ => roster.there⟩

/-- A late reply finds its request as it was when the host was forgotten. -/
theorem SpentSince.reply {before m : Manager} (h : SpentSince uuid before m) (o : Outside)
    {ticket : Nat} (sent : ticket < before.nextTicket)
    (listed : ∀ callback, (ticket, callback) ∈ before.pending → callback ≠ .hostCancel uuid)
    (reply : GatewayReply) : (m.step (o, .reply ticket reply)).about uuid = m.about uuid := by
  show (deliver o { m with out := [] } ticket reply).about uuid = m.about uuid
  unfold deliver
  cases found : m.pending.find? (·.1 = ticket) with
  | none => rfl
  | some entry =>
    obtain ⟨number, callback⟩ := entry
    have mine : number = ticket := by simpa using List.find?_some found
    subst mine
    obtain ⟨old, spent⟩ := h.spent _ (List.mem_of_find?_eq_some found) sent
    have other := listed callback old
    have spent' : callback.Spent { m with
        out := [], pending := m.pending.filter (·.1 ≠ number) } uuid := by
      cases callback <;> exact spent
    exact about_onReply o _ spent' other reply

/-- With a forget everything in flight for the host is spent, and its session is out. -/
theorem spentSince_forget {m : Manager} (hm : m.Roster) (wired : m.Wired) (named : uuid ≠ "")
    (o : Outside) : SpentSince uuid m (m.step (o, .forget uuid)) := by
  have onward := onward_step hm (o, .forget uuid)
  refine ⟨roster_step hm _, onward.nextTicket, ?_, ?_⟩
  · intro entry inFlight earlier
    rcases onward.pending entry inFlight with old | ⟨new, -, -⟩
    · have bounded : entry.2.Bounded { m with out := [] } := by
        have bounded := (wired entry old).2
        revert bounded
        cases entry.2 <;> exact fun bounded => bounded
      exact ⟨old, forget_spent named bounded⟩
    · omega
  · intro id filed
    obtain ⟨s, there, -⟩ := hm.there filed
    have forgotten := forget_forgotten { m with out := [] } named
    refine ⟨lt_of_lt_of_le (hm.lt there) onward.nextSession, ?_⟩
    show (forget { m with out := [] } uuid).sessions uuid ≠ some id
    rw [forgotten.sessions, update_self]
    exact nofun

theorem about_leave (m : Manager) (h : m.sessions uuid ≠ some id) :
    (m.step (o, .leave id)).about uuid = m.about uuid := by
  show (leave o { m with out := [] } id).about uuid = m.about uuid
  unfold leave
  split
  · rfl
  · exact about_withSession { m with out := [] } h _

/-- **Forgetting a host is final.**  After a forget nothing is kept about the host, and whatever
the manager does later, the host found and paired again included, a reply to a request that was
sent before the forget leaves everything kept about it as it is.  So does the stop of the session
that the forget took out of the table.  The one request not meant is the manager's own cancel of an
app, which no attempt is behind. -/
theorem forget_is_final (repo : MoonlightHostRepository)
    (acts later : List (Outside × ManagerAct)) (o : Outside) {uuid : String}
    (named : uuid ≠ "") :
    let before := run step { repo := repo } acts
    let forgotten := before.step (o, .forget uuid)
    let now := run step forgotten later
    forgotten.about uuid = {} ∧
      (∀ o' ticket reply, ticket < before.nextTicket →
        (∀ callback, (ticket, callback) ∈ before.pending → callback ≠ .hostCancel uuid) →
        (now.step (o', .reply ticket reply)).about uuid = now.about uuid) ∧
      ∀ o' id, before.sessions uuid = some id →
        (now.step (o', .leave id)).about uuid = now.about uuid := by
  intro before forgotten now
  obtain ⟨roster, wired⟩ := wired_run repo acts
  have since : SpentSince uuid before now :=
    run_inv (fun m act h => h.step act) (spentSince_forget roster wired named o) later
  refine ⟨forget_about _ named, ?_, ?_⟩
  · intro o' ticket reply sent listed
    exact since.reply o' sent listed reply
  · intro o' id filed
    exact about_leave o' _ (since.gone id filed).2

/-- A host is added by its address and probed, forgotten and added again; then the first probe's
answer comes in, and the second probe is still the one in flight. -/
theorem forget_is_final_added_again :
    let add : Outside × ManagerAct := ({}, .addManualHost "10.0.0.2" "" 47989 47984)
    let before := run step {} [add]
    let now := run step (before.step ({}, .forget "addr:10.0.0.2")) [add]
    before.pending.map (·.1) = [0] ∧
      (now.step ({}, .reply 0 (.serverInfo { info := some { uuid := "U" } }))).about
        "addr:10.0.0.2" = now.about "addr:10.0.0.2" ∧
      (now.about "addr:10.0.0.2").probe = some { inFlight := true } := by
  intro add before now
  have noCancel : (0, .hostCancel "addr:10.0.0.2") ∉ before.pending := by decide +kernel
  refine ⟨by decide +kernel, ?_, by decide +kernel⟩
  refine (forget_is_final {} [add] [add] {} (by decide)).2.1 {} 0 _ (by decide +kernel) ?_
  intro callback here same
  exact noCancel (same ▸ here)

end Manager

end Dish.Moonlight
