/-
Where a Moonlight session sends its requests.

A session is made with a copy of its host's record and sends everything to the address, the ports
and the certificate of that copy.  The copy is never renewed, while the record can be: by pairing
again, or by adding the same address with other ports.  What a session sends during an attempt is
therefore what the record said when the attempt started exactly where the copy still agreed with
the record at that moment.
-/
import Dish.Lib.Run
import Dish.Proofs.MoonlightManager

namespace Dish.Moonlight

open Function Steps Manager

/-- Two records name the same place. -/
def MoonlightHost.SamePlace (a b : MoonlightHost) : Prop :=
  a.address = b.address ∧ a.httpPort = b.httpPort ∧ a.httpsPort = b.httpsPort ∧
    a.serverCertPem = b.serverCertPem

theorem Out.GoesTo.of_samePlace {a b : MoonlightHost} (h : a.SamePlace b) {o : Out}
    (goes : o.GoesTo a) : o.GoesTo b := by
  obtain ⟨address, httpPort, httpsPort, cert⟩ := h
  cases o with
  | request request =>
    show request.endpoint = b.endpointFor request.call
    rw [goes]
    unfold MoonlightHost.endpointFor
    rw [address, httpPort, httpsPort, cert]
  | rtspOpen | controlStart => exact Eq.trans goes address
  | _ => trivial

/-! ### Which act begins an attempt -/

namespace Manager

variable {m m' : Manager} {slotId uuid : String} {host : MoonlightHost} {id : Nat} (o : Outside)

theorem Rests.trans {m₁ m₂ m₃ : Manager} (h : Rests m₁ m₂) (h' : Rests m₂ m₃) : Rests m₁ m₃ :=
  fun id under => h id (h' id under)

theorem rests_unbind (m : Manager) (slotId : String) : Rests m (m.unbindController o slotId) := by
  have detached : ∀ {id : Nat} {s : Session}, m.objects id = some s →
      Rests m ({ m with bindings := m.bindings.remove slotId }.put id
        (s.detachController slotId).2) := by
    intro id s there
    refine rests_put { m with bindings := m.bindings.remove slotId } there ?_
    rw [(s.aside_detachController slotId).machine]
    exact fun rest => rest
  have unbound := unbindController_unbound o m slotId
  generalize m.unbindController o slotId = after at unbound
  cases unbound with
  | unbound | alone => exact fun _ under => under
  | left bound here there => exact detached there
  | last bound here there =>
    exact (detached there).trans (quiet_withSession _ _ fun s => s.stop_plays o.world true).rests

theorem rests_freed (m : Manager) (slotId uuid : String) : Rests m (m.freed o slotId uuid) := by
  unfold freed
  split
  · exact rests_unbind o m slotId
  · exact fun _ under => under

theorem rests_claimed (m : Manager) (slotId uuid : String) : Rests m (m.claimed o slotId uuid) :=
  (rests_freed o m slotId uuid).trans (records_claimed o m slotId uuid).quiet.rests

theorem rests_ensureSession (m : Manager) (host : MoonlightHost) :
    Rests m (m.ensureSession host).2 := by
  cases filed : m.sessions host.uuid with
  | some id =>
    rw [ensureSession_of_some filed]
    exact fun _ under => under
  | none =>
    rw [ensureSession_of_none filed]
    intro id under
    obtain ⟨s, there, started⟩ := underWay_iff.mp under
    rw [enroll_objects] at there
    split at there
    · cases there
      cases started
    · exact underWay_iff.mpr ⟨s, there, started⟩

theorem rests_seat {s : Session} (joining : m.joining o slotId uuid host = (id, m'))
    (there : m'.objects id = some s) (storedType : Int) (source : SourceCapabilities) :
    Rests m (m'.put id (s.seatController slotId storedType source).2) := by
  have joined := rests_ensureSession (m.claimed o slotId uuid) host
  unfold Manager.joining at joining
  rw [joining] at joined
  refine ((rests_claimed o m slotId uuid).trans joined).trans (rests_put m' there ?_)
  rw [(s.aside_seatController slotId storedType source).machine]
  exact fun rest => rest

/-- The switches and the start begin an attempt of the one session only. -/
theorem launch_rests (m : Manager) (slotId uuid : String) (storedType : Int)
    (source : SourceCapabilities) (host : MoonlightHost) (id : Nat) (number : PadNumber)
    {other : Nat} (ne : other ≠ id)
    (under : (m.launch o slotId uuid storedType source host id number).underWay other = true) :
    m.underWay other = true := by
  have switched := (quiet_readMotionSwitch o m slotId).trans
    (quiet_readTouchpadPick o _ id number uuid storedType source)
  apply switched.rests
  unfold launch at under
  generalize (m.readMotionSwitch o slotId).readTouchpadPick o id number uuid storedType source =
    before at under
  unfold ensureSessionRunning at under
  repeat' split at under
  all_goals first
    | exact under
    | (unfold underWay at under ⊢
       rw [(before.put_called id _).others other ne] at under
       exact under)

theorem joining_repo {o : Outside} (joining : m.joining o slotId uuid host = (id, m')) :
    m'.repo = (m.claimed o slotId uuid).repo := by
  unfold Manager.joining ensureSession at joining
  split at joining <;> cases joining <;> rfl

theorem withSession_repo (m : Manager) (id : Nat) (call : Session → Session) :
    (m.withSession id call).repo = m.repo := by
  unfold withSession
  split
  · rfl
  · exact (m.put_called id _).repo

theorem freed_repo (m : Manager) (slotId uuid : String) :
    (m.freed o slotId uuid).repo = m.repo := by
  unfold freed
  split
  · have unbound := unbindController_unbound o m slotId
    generalize m.unbindController o slotId = after at unbound
    cases unbound with
    | unbound => rfl
    | alone => rfl
    | left => exact (put_called _ _ _).repo
    | last => exact (withSession_repo _ _ _).trans (put_called _ _ _).repo
  · rfl

/-- A record with an anchor was there before the bind: what a bind remembers has none. -/
theorem claimed_stored {o : Outside}
    (stored : (m.claimed o slotId uuid).repo.get uuid = some host) (paired : host.paired = true) :
    m.repo.get uuid = some host := by
  rw [← freed_repo o m slotId uuid]
  unfold claimed rememberDestination at stored
  split at stored
  · exact stored
  · rename_i unknown
    rw [not_or] at unknown
    have absent : (m.freed o slotId uuid).repo.load uuid = none := by
      simpa [MoonlightHostRepository.get, ensureIdentityLoaded] using unknown.2
    split at stored
    · exact stored
    · rename_i found _
      -- The row was written without an anchor.
      have written : ((m.freed o slotId uuid).repo.upsert
          { uuid := uuid, name := found.name, address := found.address }).get uuid =
            some host := stored
      rw [MoonlightHostRepository.get_upsert_self unknown.1, absent] at written
      simp only [MoonlightHost.fromJson] at written
      split at written
      · cases written
      · cases written
        simp [MoonlightHost.paired] at paired

/-- What a bind leaves of the table and the store it has joined a session from. -/
theorem joined_after {o : Outside} (hm : m.Roster)
    (stored : (m.claimed o slotId uuid).repo.get uuid = some host)
    (joining : m.joining o slotId uuid host = (id, m')) (s : Session) (storedType : Int)
    (source : SourceCapabilities) (number : PadNumber) :
    ((m'.put id s).launch o slotId uuid storedType source host id number).sessions uuid = some id ∧
      ((m'.put id s).launch o slotId uuid storedType source host id number).repo.get uuid =
        some host := by
  obtain ⟨-, filed⟩ := joining_roster hm stored joining
  refine ⟨?_, ?_⟩
  · rw [(frame_launch o _ slotId uuid storedType source host id number).sessions,
      (m'.put_called id s).sessions, filed]
  · have switched : ∀ m : Manager, (m.readMotionSwitch o slotId).repo = m.repo := by
      intro m
      unfold readMotionSwitch
      split
      · rfl
      · exact m.withSession_repo _ _
    have running : ∀ m : Manager, (m.ensureSessionRunning o id host).repo = m.repo := by
      intro m
      unfold ensureSessionRunning
      repeat' split
      all_goals first
        | rfl
        | exact (m.put_called id _).repo
    unfold launch
    rw [running, readTouchpadPick, withSession_repo, switched, (m'.put_called id s).repo,
      joining_repo joining, stored]

/-- The session a bind joins is the host's already, or is made from the record. -/
theorem joining_housing {o : Outside} (hm : m.Roster)
    (joining : m.joining o slotId uuid host = (id, m')) :
    m'.housing = m.housing ∨
      (m.housing id = none ∧ m'.housing = update m.housing id (some host)) := by
  have claimed := housed_claimed o m slotId uuid
  unfold Manager.joining at joining
  cases filed : (m.claimed o slotId uuid).sessions host.uuid with
  | some found =>
    rw [ensureSession_of_some filed] at joining
    cases joining
    exact .inl claimed.housing
  | none =>
    rw [ensureSession_of_none filed] at joining
    cases joining
    refine .inr ⟨?_, ?_⟩
    · rw [← claimed.housing, housing, (claimed.roster hm).unused]
      rfl
    · funext other
      rw [enroll_housing, claimed.housing, update_apply]

section
variable (hm : m.Roster)
include hm

theorem bind_housing (slotId uuid : String) (storedType : Int)
    (source : SourceCapabilities) (housed : m.housing id = some host) :
    (m.bindController o slotId uuid storedType source).2.housing id = some host := by
  have joined : ∀ {stored : MoonlightHost} {other : Nat} {m' : Manager},
      m.joining o slotId uuid stored = (other, m') → m'.housing id = some host := by
    intro stored other m' joining
    rcases joining_housing hm joining with same | ⟨fresh, made⟩
    · rw [same, housed]
    · rw [made, update_of_ne, housed]
      intro same
      rw [same, fresh] at housed
      cases housed
  have bound := bindController_bound (o := o) hm slotId uuid storedType source
  generalize m.bindController o slotId uuid storedType source = result at bound
  cases bound with
  | empty => exact housed
  | full => exact (congrFun (housed_freed o m slotId uuid).housing id).trans housed
  | waiting => exact (congrFun (housed_claimed o m slotId uuid).housing id).trans housed
  | unnumbered room stored joining there none put =>
    rename_i s _ m' _
    subst put
    have kept := housed_put m' there (s.aside_seatController slotId storedType source).abides
    exact (congrFun kept.housing id).trans (joined joining)
  | joined named room stored paired joining there some =>
    rename_i s _ m' _
    have kept := housed_put m' there (s.aside_seatController slotId storedType source).abides
    exact (congrFun (kept.trans (frame_launch o _ _ _ _ _ _ _ _).housed).housing id).trans
      (joined joining)

/-- A session keeps its copy of the record until it is deleted, which sends nothing. -/
theorem act_housing (act : ManagerAct) (housed : m.housing id = some host) :
    (m.act o act).housing id = some host ∨
      ((m.act o act).housing id = none ∧ (m.act o act).out = m.out) := by
  cases seats : act.seats with
  | false => exact .inl ((congrFun (quiet_act o m seats).housed.housing id).trans housed)
  | true =>
    cases act with
    | bindController slotId uuid storedType source =>
      exact .inl (bind_housing o hm slotId uuid storedType source housed)
    | unbindController slotId =>
      exact .inl ((congrFun (housed_unbindController o m slotId).housing id).trans housed)
    | forget uuid =>
      left
      by_cases named : uuid = ""
      · subst named
        exact housed
      · show ((m.forget uuid).objects id).map _ = _
        rw [(m.forget_forgotten named).objects]
        exact housed
    | leave other =>
      left
      show (m.leave o other).housing id = _
      unfold leave
      split
      · exact housed
      · exact (congrFun (quiet_withSession m other fun s =>
          s.stop_plays o.world true).housed.housing id).trans housed
    | delete other =>
      show (m.delete other).housing id = _ ∨ (m.delete other).housing id = _ ∧ _
      unfold delete
      split
      · exact .inl housed
      · by_cases mine : id = other
        · subst mine
          exact .inr ⟨by simp [housing], by simp [act, delete, *]⟩
        · exact .inl (by simpa [housing, mine] using housed)
    | _ => cases seats

/-- A bind that begins an attempt has joined the session of its host, which was on file. -/
theorem bind_begins (slotId uuid : String) (storedType : Int)
    (source : SourceCapabilities) (before : m.underWay id = false)
    (after : (m.bindController o slotId uuid storedType source).2.underWay id = true) :
    ∃ host, m.repo.get uuid = some host ∧
      (m.bindController o slotId uuid storedType source).2.sessions uuid = some id ∧
      (m.bindController o slotId uuid storedType source).2.repo.get uuid = some host ∧
      (m.housing id = none →
        (m.bindController o slotId uuid storedType source).2.housing id = some host) := by
  have never : m.underWay id ≠ true := by simp [before]
  have bound := bindController_bound (o := o) hm slotId uuid storedType source
  generalize m.bindController o slotId uuid storedType source = result at bound after ⊢
  cases bound with
  | empty => exact absurd after never
  | full => exact absurd (rests_freed o m slotId uuid id after) never
  | waiting => exact absurd (rests_claimed o m slotId uuid id after) never
  | unnumbered room stored joining there none put =>
    subst put
    exact absurd (rests_seat o joining there storedType source id after) never
  | joined named room stored paired joining there some =>
    rename_i host s other m' number
    have seated := rests_seat o joining there storedType source
    by_cases mine : id = other
    · subst mine
      obtain ⟨here, stored'⟩ := joined_after hm stored joining
        (s.seatController slotId storedType source).2 storedType source number
      refine ⟨host, claimed_stored stored paired, here, stored', ?_⟩
      intro fresh
      have kept := (housed_put m' there (s.aside_seatController slotId storedType source).abides).trans
        (frame_launch o _ slotId uuid storedType source host id number).housed
      refine (congrFun kept.housing id).trans ?_
      rcases joining_housing hm joining with same | ⟨-, made⟩
      · have housed : m'.housing id = .some s.host := by simp [housing, there]
        rw [same, fresh] at housed
        cases housed
      · rw [made, update_self]
    · exact absurd (seated id (launch_rests o _ _ _ _ _ _ _ _ mine after)) never

/-- **Only a bind begins an attempt**, of the session of its host, which was on file. -/
theorem act_begins {act : ManagerAct} (before : m.underWay id = false)
    (after : (m.act o act).underWay id = true) :
    ∃ uuid host, m.repo.get uuid = some host ∧ (m.act o act).sessions uuid = some id ∧
      (m.act o act).repo.get uuid = some host ∧
      (m.housing id = none → (m.act o act).housing id = some host) := by
  have never : ∀ {P : Prop}, Rests m (m.act o act) → P := by
    intro P rests
    rw [rests id after] at before
    cases before
  cases seats : act.seats with
  | false => exact never (quiet_act o m seats).rests
  | true =>
    cases act with
    | bindController slotId uuid storedType source =>
      exact ⟨uuid, bind_begins o hm slotId uuid storedType source before after⟩
    | unbindController slotId => exact never (rests_unbind o m slotId)
    | forget uuid =>
      by_cases named : uuid = ""
      · subst named
        exact never fun _ under => under
      · refine never fun other under => ?_
        have under : (m.forget uuid).underWay other = true := under
        rw [underWay, (m.forget_forgotten named).objects] at under
        exact under
    | leave other =>
      apply never
      show Rests m (m.leave o other)
      unfold leave
      split
      · exact fun _ under => under
      · exact (quiet_withSession m other fun s => s.stop_plays o.world true).rests
    | delete other =>
      apply never
      show Rests m (m.delete other)
      unfold delete
      split
      · exact fun _ under => under
      · intro found under
        obtain ⟨s, there, started⟩ := underWay_iff.mp under
        simp only [update_apply] at there
        split at there
        · cases there
        · exact underWay_iff.mpr ⟨s, there, started⟩
    | _ => cases seats

theorem Roster.goes (housed : m.housing id = some host) :
    ∀ o ∈ m.outOf id, o.GoesTo host := by
  intro o ho
  obtain ⟨entry, sent, mine⟩ := List.mem_filterMap.mp ho
  split at mine
  · rename_i same
    rw [Option.some.injEq] at mine
    subst same mine
    exact (hm.posted entry sent).2 host housed
  · cases mine

end

end Manager

/-! ### Attempts -/

/-- The manager, and the record each session's host had when its attempt began. -/
structure Attempts where
  manager : Manager
  begun : Nat → Option MoonlightHost := fun _ => none

namespace Attempts

variable {st : Attempts} {id : Nat}

/-- The act begins an attempt of the session. -/
def begins (st : Attempts) (act : Outside × ManagerAct) (id : Nat) : Bool :=
  !st.manager.underWay id && (st.manager.step act).underWay id

/-- One act, with the records noted of the attempts it begins. -/
def step (st : Attempts) (act : Outside × ManagerAct) : Attempts :=
  let next := st.manager.step act
  { manager := next
    begun := fun id =>
      if st.begins act id then (next.housing id).bind fun host => next.repo.get host.uuid
      else st.begun id }

/-- An attempt begins on a session whose copy of the record names the place the record names. -/
def Current (st : Attempts) (act : Outside × ManagerAct) : Prop :=
  ∀ id s host, st.manager.objects id = some s → st.begins act id = true →
    st.manager.repo.get s.host.uuid = some host → s.host.SamePlace host

/-- Everything a session sends while it is in an attempt, or as it begins or ends one, goes to the
address and ports of the record the attempt began with, and under its certificate. -/
def Addressed (st : Attempts) (act : Outside × ManagerAct) : Prop :=
  ∀ id, st.manager.underWay id = true ∨ (st.step act).manager.underWay id = true →
    ∃ host, (st.step act).begun id = some host ∧ ∀ o ∈ (st.step act).manager.outOf id, o.GoesTo host

/-- The copy of a session in an attempt names the place its record named as it began. -/
structure Kept (st : Attempts) : Prop where
  roster : st.manager.Roster
  same : ∀ id s, st.manager.objects id = some s → sessionNeedsStart s.machine.phase = false →
    ∃ host, st.begun id = some host ∧ s.host.SamePlace host

variable {act : Outside × ManagerAct}

theorem begun_of_underWay (h : st.manager.underWay id = true) :
    (st.step act).begun id = st.begun id := by
  simp [step, begins, h]

theorem begun_of_begins (h : st.begins act id = true) :
    (st.step act).begun id = ((st.manager.step act).housing id).bind fun host =>
      (st.manager.step act).repo.get host.uuid := by
  simp [step, h]

theorem kept_underWay (h : st.Kept) (act : Outside × ManagerAct) {s : Session}
    (there : st.manager.objects id = some s) (under : sessionNeedsStart s.machine.phase = false) :
    ∃ host, (st.step act).begun id = some host ∧
      (∀ o ∈ (st.step act).manager.outOf id, o.GoesTo host) ∧
      ∀ s', (st.step act).manager.objects id = some s' → s'.host.SamePlace host := by
  obtain ⟨host, begun, same⟩ := h.same id s there under
  have underWay : st.manager.underWay id = true := underWay_iff.mpr ⟨s, there, under⟩
  refine ⟨host, by rw [begun_of_underWay underWay, begun], ?_⟩
  have housed : housing { st.manager with out := [] } id = some s.host := by
    simp [housing, there]
  have roster := roster_step h.roster act
  rcases act_housing act.1 h.roster.cleared act.2 housed with kept | ⟨gone, silent⟩
  · refine ⟨fun o ho => (roster.goes kept o ho).of_samePlace same, ?_⟩
    intro s' there'
    have housed' : (st.manager.step act).housing id = some s'.host := by
      rw [housing, show (st.manager.step act).objects id = some s' from there']
      rfl
    rw [show (st.manager.step act).housing id = some s.host from kept, Option.some.injEq] at housed'
    rw [← housed']
    exact same
  · refine ⟨?_, ?_⟩
    · intro o ho
      have silent : (st.step act).manager.out = [] := silent
      simp [outOf, silent] at ho
    · intro s' there'
      have there' : (st.manager.step act).objects id = some s' := there'
      have gone : (st.manager.step act).housing id = none := gone
      simp [housing, there'] at gone

section
variable (h : st.Kept) (current : st.Current act)
include h current

theorem kept_begins
    {s' : Session} (begins : st.begins act id = true)
    (there' : (st.step act).manager.objects id = some s') :
    ∃ host, (st.step act).begun id = some host ∧
      (∀ o ∈ (st.step act).manager.outOf id, o.GoesTo host) ∧ s'.host.SamePlace host := by
  have there' : (st.manager.step act).objects id = some s' := there'
  obtain ⟨before, after⟩ : st.manager.underWay id = false ∧
      (st.manager.step act).underWay id = true := by
    simpa [Attempts.begins] using begins
  have housed : (st.manager.step act).housing id = some s'.host := by
    simp [housing, there']
  rw [begun_of_begins begins, housed]
  show ∃ host, (st.manager.step act).repo.get s'.host.uuid = some host ∧
    (∀ o ∈ (st.manager.step act).outOf id, o.GoesTo host) ∧ s'.host.SamePlace host
  obtain ⟨uuid, host, was, here, stored, made⟩ :=
    act_begins act.1 h.roster.cleared before after
  have roster := roster_step h.roster act
  obtain ⟨t, found, name⟩ := roster.there here
  rw [there', Option.some.injEq] at found
  subst found
  have same : s'.host.SamePlace host := by
    cases there : st.manager.objects id with
    | none =>
      have made := made (by simp [housing, there])
      rw [show (st.manager.step act).housing id = some host from made, Option.some.injEq] at housed
      rw [housed]
      exact ⟨rfl, rfl, rfl, rfl⟩
    | some s =>
      have mine : s'.host = s.host := by
        have housing : housing { st.manager with out := [] } id = some s.host := by
          simp [housing, there]
        rcases act_housing act.1 h.roster.cleared act.2 housing with kept | ⟨gone, -⟩
        · rw [show (st.manager.step act).housing id = some s.host from kept] at housed
          exact (Option.some.inj housed).symm
        · rw [show (st.manager.step act).housing id = none from gone] at housed
          cases housed
      rw [mine]
      exact current id s host there begins (by rw [← mine, name]; exact was)
  rw [name]
  exact ⟨host, stored, fun o ho => (roster.goes housed o ho).of_samePlace same, same⟩

theorem Kept.step : (st.step act).Kept := by
  refine ⟨roster_step h.roster act, ?_⟩
  intro id s' there' under'
  cases before : st.manager.underWay id with
  | true =>
    obtain ⟨s, there, under⟩ := underWay_iff.mp before
    obtain ⟨host, begun, -, same⟩ := kept_underWay h act there under
    exact ⟨host, begun, same s' there'⟩
  | false =>
    have after : (st.manager.step act).underWay id = true :=
      underWay_iff.mpr ⟨s', there', under'⟩
    obtain ⟨host, begun, -, same⟩ := kept_begins h current (by simp [begins, before, after]) there'
    exact ⟨host, begun, same⟩

theorem Kept.addressed : st.Addressed act := by
  intro id under
  cases before : st.manager.underWay id with
  | true =>
    obtain ⟨s, there, under⟩ := underWay_iff.mp before
    obtain ⟨host, begun, goes, -⟩ := kept_underWay h act there under
    exact ⟨host, begun, goes⟩
  | false =>
    have after : (st.manager.step act).underWay id = true := by
      rcases under with under | under
      · rw [before] at under
        cases under
      · exact under
    obtain ⟨s', there', -⟩ := underWay_iff.mp after
    obtain ⟨host, begun, goes, -⟩ :=
      kept_begins h current (by simp [begins, before, after]) there'
    exact ⟨host, begun, goes⟩

end

theorem kept_init (repo : MoonlightHostRepository) : Kept { manager := { repo := repo } } := by
  refine ⟨roster_init repo, ?_⟩
  intro id s there
  simp at there

/-- **A session talks to the host as its record was when the attempt began**, in every run in which
each attempt begins on a session whose copy of the record names the place the record names. -/
theorem requests_follow_record (repo : MoonlightHostRepository) {acts : List (Outside × ManagerAct)}
    (current : Along step Current { manager := { repo := repo } } acts) :
    Along step Addressed { manager := { repo := repo } } acts :=
  along_of_inv (fun _ _ h current => h.step current) (fun _ _ h current => h.addressed current)
    (kept_init repo) current

/-- A paired host on file. -/
def onFile : MoonlightHostRepository :=
  initial.repo.upsert
    { uuid := "addr:10.0.0.2", address := "10.0.0.2", serverCertPem := "ANCHOR" }

def bindOne : Outside × ManagerAct := ({}, .bindController "one" "addr:10.0.0.2" 0 {})

/-- The host does not answer the first attempt. -/
def unreachable : Outside × ManagerAct := ({}, .reply 0 (.serverInfo { status := 0 }))

/-- One session at most: an act that begins no attempt of the first one is current, and so is one
where the copy of the first one is the record. -/
theorem current_of_one (roster : st.manager.Roster) (one : st.manager.nextSession = 1)
    (first : st.begins act 0 = true → ∀ host, st.manager.housing 0 = some host →
      st.manager.repo.get host.uuid = some host) : st.Current act := by
  intro id s host there begins stored
  have housed : st.manager.housing id = some s.host := by simp [housing, there]
  have below := roster.below id s.host housed
  have zero : id = 0 := by omega
  subst zero
  rw [first begins s.host housed, Option.some.injEq] at stored
  rw [stored]
  exact ⟨rfl, rfl, rfl, rfl⟩

/-- A second attempt after one that failed, on the record as it was. -/
theorem requests_follow_record_again :
    Along step Addressed { manager := { repo := onFile } } [bindOne, unreachable, bindOne] := by
  have bound := roster_step (roster_init onFile) bindOne
  refine requests_follow_record onFile ⟨?_, ?_, ?_, trivial⟩
  · intro id s host there
    simp at there
  · refine current_of_one bound (by decide +kernel) ?_
    have begins : (step { manager := { repo := onFile } } bindOne).begins unreachable 0 = false := by
      decide +kernel
    simp [begins]
  · refine current_of_one (roster_step bound unreachable) (by decide +kernel) ?_
    intro _ host housed
    have copy : (step (step { manager := { repo := onFile } } bindOne)
        unreachable).manager.housing 0 = onFile.get "addr:10.0.0.2" := by decide +kernel
    have stored : (step (step { manager := { repo := onFile } } bindOne)
        unreachable).manager.repo.get "addr:10.0.0.2" = onFile.get "addr:10.0.0.2" := by
      decide +kernel
    rw [copy] at housed
    rw [onFile.load_filed _ host housed, stored, housed]

/-- The host is added again with other ports between two attempts.  The second attempt still dials
the port the record had when the session was made. -/
theorem stale_copy_dials_old_port :
    let st := run step { manager := { repo := onFile } }
      [bindOne, unreachable, ({}, .addManualHost "10.0.0.2" "" 48000 48010)]
    st.begins bindOne 0 = true ∧ ((st.step bindOne).begun 0).map (·.httpPort) = some 48000 ∧
      requestsOf ((st.step bindOne).manager.outOf 0) =
        [{ call := .serverInfo, endpoint := { address := "10.0.0.2", port := 47989 } }] := by
  decide +kernel

end Attempts

end Dish.Moonlight
