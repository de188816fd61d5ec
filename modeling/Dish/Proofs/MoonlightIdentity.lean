/-
Whether a replaced Moonlight host is noticed.

A host that was reset or replaced answers `/serverinfo` with another uniqueid.  Both places that
ask, the manager's probe and the session's check, compare the answer with the key the record is
kept under.  Pairing keeps no uniqueid, and the key of every host the manager itself stores is a
placeholder made from its address, which is evidence of nothing.  So the change is noticed for a
record whose key is the uniqueid the host had, as one from an older store is, and for no other.
-/
import Dish.Lib.Run
import Dish.Proofs.MoonlightForget

namespace Dish.Moonlight

open Steps

/-- The manager, and the uniqueid each host reported when it was paired. -/
structure Identities where
  manager : Manager
  known : String → Option String := fun _ => none

namespace Identities

/-- The host whose pairing the act completes. -/
def pairs (m : Manager) : ManagerAct → Option String
  | .reply ticket (.pair reply) =>
    match m.pending.find? (·.1 = ticket) with
    | some (_, .pair phase attempt) =>
      match (m.flow.onReply phase attempt reply).2 with
      | some (.finished true _ _) => some m.flow.hostUuid
      | _ => none
    | _ => none
  | _ => none

/-- One act, and the uniqueid the host reports at the time of it. -/
def step (st : Identities) (act : (Outside × ManagerAct) × String) : Identities :=
  { manager := st.manager.step act.1
    known := match pairs st.manager act.1.2, act.1.2 with
      | some uuid, _ => Function.update st.known uuid (some act.2)
      | none, .forget uuid => Function.update st.known uuid none
      | none, _ => st.known }

/-- What is asked of the host under the ticket: a probe, or the check of a session's attempt. -/
inductive Asked (m : Manager) (uuid : String) (ticket : Nat) : Prop
  | probe {target : ProbeTarget}
      (found : m.pending.find? (·.1 = ticket) =
        some (ticket, .plainProbe uuid target (m.epochs uuid)))
  | check {id : Nat} {s : Session}
      (found : m.pending.find? (·.1 = ticket) = some (ticket, .session id .serverInfo))
      (there : m.objects id = some s) (host : s.host.uuid = uuid)
      (checking : s.machine.phase = .checkingInfo)

/-- The answer to what was asked has shown a change of identity: the probe has recorded it, or the
session's attempt has ended with it as the reason. -/
def Noticed (m m' : Manager) (ticket : Nat) : Prop :=
  match m.pending.find? (·.1 = ticket) with
  | some (_, .plainProbe uuid ..) => (m'.probes uuid).map (·.identityChanged) = some true
  | some (_, .session id _) => ∃ s, m'.objects id = some s ∧ s.machine.phase = .failed ∧
      s.machine.failure = some .hostReplaced
  | _ => False

/-- A host answers with its uniqueid. -/
structure Answers (reply : ServerInfoReply) (reported : String) : Prop where
  status : reply.status = 200
  read : reply.info.map (·.uuid) = some reported

/-- The host under the ticket answers. -/
def answer (m : Manager) (o : Outside) (ticket : Nat) (reply : ServerInfoReply) : Manager :=
  m.step (o, .reply ticket (.serverInfo reply))

theorem Answers.info {reply : ServerInfoReply} {reported : String} (h : Answers reply reported) :
    ∃ info, reply.info = some info ∧ info.uuid = reported :=
  Option.map_eq_some_iff.mp h.read

/-- A probe for a row remembers nothing, and the row's key is as good as nothing. -/
theorem hostIdentityChanged_remembered {uuid remembered : String} (reported : String)
    (h : remembered = uuid ∨ (remembered = "" ∧ isAddressPlaceholder uuid = true)) :
    hostIdentityChanged remembered reported = hostIdentityChanged uuid reported := by
  rcases h with same | ⟨nothing, placeholder⟩
  · rw [same]
  · simp [hostIdentityChanged, nothing, placeholder]

theorem probe_answered {m : Manager} {uuid reported : String} {ticket : Nat} {target : ProbeTarget}
    (wired : m.Wired) (found : m.pending.find? (·.1 = ticket) =
      some (ticket, .plainProbe uuid target (m.epochs uuid)))
    (o : Outside) {reply : ServerInfoReply} (h : Answers reply reported) :
    ((answer m o ticket reply).probes uuid).map (·.identityChanged) =
      some (hostIdentityChanged uuid reported) := by
  obtain ⟨info, read, name⟩ := h.info
  have bounded := (wired _ (List.mem_of_find?_eq_some found)).2
  have told := hostIdentityChanged_remembered reported bounded.2
  show ((Manager.deliver o { m with out := [] } ticket (.serverInfo reply)).probes uuid).map _ = _
  unfold Manager.deliver
  simp only [found]
  unfold Manager.onReply Manager.onPlainServerInfo
  simp only [ne_eq, not_true_eq_false, if_false, h.status, if_true, read, name, told]
  split <;> simp [Manager.setProbe, Manager.ask]

theorem check_answered {m : Manager} {uuid reported : String} {ticket id : Nat} {s : Session}
    (found : m.pending.find? (·.1 = ticket) = some (ticket, .session id .serverInfo))
    (there : m.objects id = some s) (host : s.host.uuid = uuid)
    (checking : s.machine.phase = .checkingInfo) (o : Outside) {reply : ServerInfoReply}
    (h : Answers reply reported) :
    (∃ s', (answer m o ticket reply).objects id = some s' ∧ s'.machine.phase = .failed ∧
      s'.machine.failure = some .hostReplaced) ↔ hostIdentityChanged uuid reported = true := by
  obtain ⟨info, read, name⟩ := h.info
  have after : (answer m o ticket reply).objects id =
      some { s.onServerInfoReply o.world reply with out := [] } := by
    show (Manager.deliver o { m with out := [] } ticket (.serverInfo reply)).objects id = _
    unfold Manager.deliver
    simp only [found]
    show (Manager.withSession _ id _).objects id = _
    unfold Manager.withSession
    simp only [there]
    exact (Manager.put_called _ id _).self
  have refused : ∀ event reason, reduce s.machine event = fail s.machine reason →
      (s.dispatch o.world event).machine.failure = some reason ∧
        (s.dispatch o.world event).machine.phase = .failed := by
    intro event reason fails
    have gone : s.dispatch o.world event = s.giveUp reason := Session.dispatchWithin_refused fails
    rw [gone, Session.giveUp_eq]
    exact ⟨rfl, rfl⟩
  simp only [after, Option.some.injEq, exists_eq_left']
  unfold Session.onServerInfoReply
  simp only [h.status, ne_eq, not_true_eq_false, if_false, read, host, name]
  cases changed : hostIdentityChanged uuid reported with
  | true =>
    obtain ⟨failure, phase⟩ := refused
      (.serverInfoOk { remembered := s.host.paired, identityChanged := true }) .hostReplaced
      (by simp [reduce, checking, fromCheckingInfo])
    simp only [if_true, failure, phase, and_self]
  | false =>
    -- An unpaired record ends the attempt for another reason, and a paired one asks over TLS.
    cases paired : s.host.paired with
    | false =>
      obtain ⟨failure, phase⟩ := refused (.serverInfoOk {}) .notPaired
        (by simp [reduce, checking, fromCheckingInfo])
      simp [failure]
    | true =>
      have waits : s.askTrust.machine.phase = .checkingInfo := checking
      simp [waits]

theorem noticed_iff {m : Manager} {uuid reported : String} {ticket : Nat} (wired : m.Wired)
    (asked : Asked m uuid ticket) (o : Outside) {reply : ServerInfoReply}
    (h : Answers reply reported) :
    Noticed m (answer m o ticket reply) ticket ↔ hostIdentityChanged uuid reported = true := by
  cases asked with
  | probe found =>
    simp only [Noticed, found, probe_answered wired found o h, Option.some.injEq]
  | check found there host checking =>
    simp only [Noticed, found]
    exact check_answered found there host checking o h

theorem manager_run (st : Identities) (acts : List ((Outside × ManagerAct) × String)) :
    (run step st acts).manager = run Manager.step st.manager (acts.map (·.1)) := by
  induction acts generalizing st with
  | nil => rfl
  | cons act rest ih => exact ih (st.step act)

/-- Every record the manager has is under a placeholder, and only such a host was paired. -/
structure Homegrown (st : Identities) : Prop where
  roster : st.manager.Roster
  placed : st.manager.Placed
  known : ∀ uuid was, st.known uuid = some was → uuid ≠ "" → isAddressPlaceholder uuid = true

theorem pairs_host {m : Manager} {act : ManagerAct} {uuid : String} (h : pairs m act = some uuid) :
    uuid = m.flow.hostUuid := by
  unfold pairs at h
  repeat' split at h
  · exact (Option.some.inj h).symm
  all_goals cases h

/-- The uniqueid of a host was known before, or the act completes the pairing with it. -/
theorem known_step {st : Identities} {act : (Outside × ManagerAct) × String} {uuid was : String}
    (h : (st.step act).known uuid = some was) :
    st.known uuid = some was ∨ pairs st.manager act.1.2 = some uuid := by
  obtain ⟨⟨o, act⟩, reported⟩ := act
  unfold step at h
  cases paired : pairs st.manager act with
  | some host =>
    simp only [paired, Function.update_apply] at h
    split at h
    · rename_i same
      exact .inr (same ▸ rfl)
    · exact .inl h
  | none =>
    simp only [paired] at h
    cases act with
    | forget host =>
      simp only [Function.update_apply] at h
      split at h
      · cases h
      · exact .inl h
    | _ => exact .inl h

theorem Homegrown.step {st : Identities} (h : st.Homegrown)
    (act : (Outside × ManagerAct) × String) : (st.step act).Homegrown := by
  refine ⟨Manager.roster_step h.roster act.1, (Manager.onward_step h.roster act.1).placed h.placed, ?_⟩
  intro uuid was known named
  rcases known_step known with kept | paired
  · exact h.known uuid was kept named
  · rw [pairs_host paired] at named ⊢
    exact h.placed.pairing named

theorem homegrown_init {repo : MoonlightHostRepository} (empty : ∀ key, repo.get key = none) :
    Homegrown { manager := { repo := repo } } := by
  refine ⟨Manager.roster_init repo, ⟨?_, fun named => absurd rfl named⟩, nofun⟩
  intro key there
  rw [show ({ repo := repo } : Manager).repo.get key = none from empty key] at there
  cases there

/-- **A replaced host is noticed exactly where its record is kept under the uniqueid it had when it
was paired**, and never if the manager began with nothing on file.  This goes for whatever is asked
of the host after any run: every answer with another uniqueid shows, or not even one. -/
theorem replaced_host_noticed (repo : MoonlightHostRepository)
    (acts : List ((Outside × ManagerAct) × String)) (uuid was : String) (ticket : Nat)
    (paired : (run step { manager := { repo := repo } } acts).known uuid = some was)
    (asked : Asked (run step { manager := { repo := repo } } acts).manager uuid ticket) :
    let m := (run step { manager := { repo := repo } } acts).manager
    ((∀ o reply reported, Answers reply reported → reported ≠ "" → reported ≠ was →
        Noticed m (answer m o ticket reply) ticket) ↔
      uuid ≠ "" ∧ isAddressPlaceholder uuid = false ∧ was = uuid) ∧
    ((∀ key, repo.get key = none) → ∀ o reply reported, Answers reply reported →
      ¬ Noticed m (answer m o ticket reply) ticket) := by
  intro m
  have wired : m.Wired := by
    show (run step { manager := { repo := repo } } acts).manager.Wired
    rw [manager_run]
    exact (Manager.wired_run repo _).2
  refine ⟨⟨?_, ?_⟩, ?_⟩
  · intro shows
    have told : ∀ reported, reported ≠ "" → reported ≠ was →
        hostIdentityChanged uuid reported = true := by
      intro reported answered other
      have h : Answers { info := some { uuid := reported } } reported := ⟨rfl, rfl⟩
      exact (noticed_iff wired asked {} h).mp (shows {} _ reported h answered other)
    -- Some answer differs from the one at pairing, so the key says something.
    obtain ⟨other, answered, differs⟩ : ∃ other : String, other ≠ "" ∧ other ≠ was := by
      by_cases one : was = "1"
      · exact ⟨"2", by decide, by rw [one]; decide⟩
      · exact ⟨"1", by decide, fun same => one same.symm⟩
    obtain ⟨⟨named, uniqueid⟩, -, -⟩ := hostIdentityChanged_iff.mp (told other answered differs)
    refine ⟨named, uniqueid, ?_⟩
    by_contra apart
    have itself := hostIdentityChanged_iff.mp (told uuid named fun same => apart same.symm)
    exact itself.2.2 rfl
  · rintro ⟨named, uniqueid, rfl⟩ o reply reported h answered other
    exact (noticed_iff wired asked o h).mpr
      (hostIdentityChanged_iff.mpr ⟨⟨named, uniqueid⟩, answered, other⟩)
  · intro empty o reply reported h noticed
    have homegrown : Homegrown (run step { manager := { repo := repo } } acts) :=
      run_inv (I := Homegrown) (fun _ act kept => kept.step act) (homegrown_init empty) acts
    obtain ⟨⟨named, uniqueid⟩, -, -⟩ :=
      hostIdentityChanged_iff.mp ((noticed_iff wired asked o h).mp noticed)
    rw [homegrown.known uuid was paired named] at uniqueid
    cases uniqueid

/-- A pairing started on a host, with its five replies; the requests are the first ones made.  The
host reports the uniqueid throughout. -/
def pairing (uuid reported : String) : List ((Outside × ManagerAct) × String) :=
  [(({}, .pair uuid), reported), (({}, .reply 0 (.pair { plaincert := "ANCHOR" })), reported),
    (({}, .reply 1 (.pair {})), reported),
    (({}, .reply 2 (.pair {})), reported),
    (({}, .reply 3 (.pair {})), reported),
    (({}, .reply 4 (.pair {})), reported)]

/-- A probe and a session's check on the way, as the sixth and the seventh request. -/
def askedTwice (uuid : String) : List ((Outside × ManagerAct) × String) :=
  [(({}, .probe uuid), ""), (({}, .bindController "one" uuid 0 {}), "")]

/-- A host on file under its uniqueid, paired, probed and bound. -/
def onFile : Identities :=
  run step { manager := { Manager.initial with
      repo := Manager.initial.repo.upsert { uuid := "U1", address := "10.0.0.2" } } }
    (pairing "U1" "U1" ++ askedTwice "U1")

/-- The same host found on the network. -/
def onNetwork : Identities :=
  run step { manager := Manager.initial }
    ((({}, .discovered [{ name := "PC", address := "10.0.0.2" }]), "U1") ::
      pairing "addr:10.0.0.2" "U1" ++ askedTwice "addr:10.0.0.2")

/-- A host on file answers with another uniqueid, and so does one that was found on the network. -/
theorem replaced_host_noticed_on_file :
    let reply : ServerInfoReply := { info := some { uuid := "U2" } }
    Noticed onFile.manager (answer onFile.manager {} 5 reply) 5 ∧
      Noticed onFile.manager (answer onFile.manager {} 6 reply) 6 ∧
      ¬ Noticed onNetwork.manager (answer onNetwork.manager {} 5 reply) 5 := by
  intro reply
  have answers : Answers reply "U2" := ⟨rfl, rfl⟩
  have kept : "U1" ≠ "" ∧ isAddressPlaceholder "U1" = false ∧ "U1" = "U1" := by decide
  have known : onFile.known "U1" = some "U1" := by decide +kernel
  have probing : onFile.manager.pending.find? (·.1 = 5) = some (5, .plainProbe "U1"
      { address := "10.0.0.2", rememberedUuid := "U1", remembered := true,
        serverCertPem := "ANCHOR" } (onFile.manager.epochs "U1")) := by decide +kernel
  have checking : Asked onFile.manager "U1" 6 := by
    have there : (onFile.manager.objects 0).isSome = true := by decide +kernel
    have host : (onFile.manager.objects 0).map (·.host.uuid) = some "U1" := by decide +kernel
    have phase : (onFile.manager.objects 0).map (·.machine.phase) = some .checkingInfo := by
      decide +kernel
    have sent : onFile.manager.pending.find? (·.1 = 6) = some (6, .session 0 .serverInfo) := by
      decide +kernel
    obtain ⟨s, there⟩ := Option.isSome_iff_exists.mp there
    rw [there, Option.map_some, Option.some.injEq] at host phase
    exact .check sent there host phase
  have found : onNetwork.manager.pending.find? (·.1 = 5) = some (5, .plainProbe "addr:10.0.0.2"
      { address := "10.0.0.2", rememberedUuid := "addr:10.0.0.2", remembered := true,
        serverCertPem := "ANCHOR" } (onNetwork.manager.epochs "addr:10.0.0.2")) := by
    decide +kernel
  have probed := replaced_host_noticed _ _ "U1" "U1" 5 known (.probe probing)
  have checked := replaced_host_noticed _ _ "U1" "U1" 6 known checking
  have overlooked := replaced_host_noticed _ _ "addr:10.0.0.2" "U1" 5
    (show onNetwork.known "addr:10.0.0.2" = some "U1" by decide +kernel) (.probe found)
  exact ⟨probed.1.mpr kept {} reply "U2" answers (by decide) (by decide),
    checked.1.mpr kept {} reply "U2" answers (by decide) (by decide),
    overlooked.2 (fun _ => rfl) {} reply "U2" answers⟩

/-- A host found on the network is paired as one host and later answers as another, over TLS as
well.  The probe records no change, and the session launches the app. -/
theorem replaced_host_overlooked :
    let st := onNetwork
    let answer : GatewayReply := .serverInfo { info := some { uuid := "U2", pairStatus := 1 } }
    let keyed : Outside := { world := { rikey := some 1, rikeyId := some 1 } }
    st.known "addr:10.0.0.2" = some "U1" ∧
      ((st.manager.step ({}, .reply 5 answer)).probes "addr:10.0.0.2").map (·.identityChanged) =
        some false ∧
      ((run Manager.step st.manager
        [(keyed, .reply 6 answer), (keyed, .reply 7 answer)]).objects 0).map (·.machine.phase) =
        some .launching := by
  decide +kernel

end Identities

end Dish.Moonlight
