/-
What the acts of the Moonlight manager leave alone, and what its calls can come to.

Most of the manager's functions write records and requests only, and most of those that call a
session leave everyone's place as it was.  Both are stated as one record for each function.  The
three calls that move someone, a bind, an unbind and a forget, get a list of their outcomes instead.
The invariant `Roster` is about the table of the sessions: what is filed under a host is there, and
a session that was taken out does not come back.
-/
import Dish.Moonlight.Manager
import Dish.Proofs.MoonlightSession

namespace Dish.Moonlight

open Function

/-! ### Marks only move on -/

/-- The mark of a request in flight is current at most, and a probe carries the key of the record it
was made for, or none for a row. -/
def Callback.Bounded (m : Manager) : Callback → Prop
  | .plainProbe uuid target epoch =>
    epoch ≤ m.epochs uuid ∧ (target.rememberedUuid = uuid ∨
      (target.rememberedUuid = "" ∧ isAddressPlaceholder uuid = true))
  | .tlsProbe uuid epoch | .appList uuid epoch => epoch ≤ m.epochs uuid
  | .pair _ attempt => attempt ≤ m.flow.attempt
  | .session id _ => id < m.nextSession
  | .hostCancel _ => True

namespace PairingFlow

variable (flow : PairingFlow)

/-- The flow is in a later attempt, or in the same one, which did not come back to life. -/
def Onward (flow flow' : PairingFlow) : Prop :=
  flow.attempt < flow'.attempt ∨
    (flow'.attempt = flow.attempt ∧ flow'.hostUuid = flow.hostUuid ∧
      (flow'.active = true → flow.active = true))

theorem Onward.refl : Onward flow flow := .inr ⟨rfl, rfl, id⟩

theorem Onward.le {flow flow' : PairingFlow} (h : Onward flow flow') :
    flow.attempt ≤ flow'.attempt := by
  rcases h with later | ⟨same, -, -⟩ <;> omega

theorem Onward.trans {f₁ f₂ f₃ : PairingFlow} (h : Onward f₁ f₂) (h' : Onward f₂ f₃) :
    Onward f₁ f₃ := by
  rcases h with later | ⟨same, host, alive⟩
  · exact .inl (Nat.lt_of_lt_of_le later h'.le)
  · rcases h' with later' | ⟨same', host', alive'⟩
    · exact .inl (same ▸ later')
    · exact .inr ⟨same'.trans same, host'.trans host, fun active => alive (alive' active)⟩

theorem onward_fail (reasonToken : String) :
    Onward flow (flow.fail reasonToken).1 := .inr ⟨rfl, rfl, nofun⟩

theorem onward_goOn (reply : PairReply) (phase : PairPhase) :
    Onward flow (flow.goOn reply phase).1 := by
  unfold goOn
  split
  · exact flow.onward_fail _
  · exact .refl flow

theorem onward_start (hostUuid address : String) (httpPort httpsPort : Int) (entropy : Bool) :
    Onward flow (flow.start hostUuid address httpPort httpsPort entropy).1 := by
  unfold start
  split <;> exact .inl (Nat.lt_succ_self _)

theorem start_hostUuid (hostUuid address : String) (httpPort httpsPort : Int) (entropy : Bool) :
    (flow.start hostUuid address httpPort httpsPort entropy).1.hostUuid = hostUuid := by
  unfold start
  split <;> rfl

theorem onReply_hostUuid (flow : PairingFlow) (phase : PairPhase) (attempt : Nat)
    (reply : PairReply) : (flow.onReply phase attempt reply).1.hostUuid = flow.hostUuid := by
  unfold onReply
  split
  · rfl
  · simp only [goOn, fail]
    cases phase <;> simp only <;> repeat' split
    all_goals rfl

theorem onward_cancel : Onward flow flow.cancel :=
  .inl (Nat.lt_succ_self _)

theorem onward_onReply (phase : PairPhase) (attempt : Nat) (reply : PairReply) :
    Onward flow (flow.onReply phase attempt reply).1 := by
  unfold onReply
  split
  · exact .refl flow
  · cases phase with
    | getServerCert =>
      simp only
      split
      · exact flow.onward_fail _
      · split
        · exact flow.onward_fail _
        · have kept : Onward flow { flow with serverCertPem := reply.plaincert } :=
            .inr ⟨rfl, rfl, id⟩
          exact kept.trans (onward_goOn _ reply _)
    | clientChallenge =>
      simp only
      split
      · exact flow.onward_fail _
      · split
        · exact flow.onward_fail _
        · exact .refl flow
    | serverChallengeResp =>
      simp only
      split
      · exact flow.onward_fail _
      · split
        · exact flow.onward_fail _
        · exact flow.onward_goOn reply _
    | clientPairingSecret =>
      simp only
      split
      · exact flow.onward_fail _
      · exact .refl flow
    | pairChallenge =>
      simp only
      split
      · exact flow.onward_fail _
      · exact .inr ⟨rfl, rfl, nofun⟩

end PairingFlow

namespace Manager

variable {m' : Manager} {callback : Callback} (m : Manager) (id : Nat) (o : Outside) (uuid : String)

/-- Every record is under a placeholder, and so is the host that was last paired with. -/
structure Placed (m : Manager) : Prop where
  filed : ∀ key, (m.repo.get key).isSome = true → isAddressPlaceholder key = true
  pairing : m.flow.hostUuid ≠ "" → isAddressPlaceholder m.flow.hostUuid = true

/-- Every mark stays or moves on, and what is newly in flight has a current one.  No record comes
under a key of another kind than those there are. -/
structure Onward (m m' : Manager) : Prop where
  epochs : ∀ uuid, m.epochs uuid ≤ m'.epochs uuid
  flow : m.flow.Onward m'.flow
  sessions : ∀ uuid id, m'.sessions uuid = some id → m.sessions uuid = some id ∨ m.nextSession ≤ id
  nextSession : m.nextSession ≤ m'.nextSession
  nextTicket : m.nextTicket ≤ m'.nextTicket
  pending : ∀ entry ∈ m'.pending, entry ∈ m.pending ∨
    (m.nextTicket ≤ entry.1 ∧ entry.1 < m'.nextTicket ∧ entry.2.Bounded m')
  placed : m.Placed → m'.Placed

theorem Onward.bounded {m : Manager} (h : Onward m m') (hc : callback.Bounded m) :
    callback.Bounded m' := by
  cases callback with
  | plainProbe uuid => exact ⟨le_trans hc.1 (h.epochs uuid), hc.2⟩
  | tlsProbe uuid | appList uuid => exact le_trans hc (h.epochs uuid)
  | pair => exact le_trans hc h.flow.le
  | session => exact lt_of_lt_of_le hc h.nextSession
  | hostCancel => trivial

variable {m₁ m₂ m₃ : Manager}

theorem Onward.trans (h : Onward m₁ m₂) (h' : Onward m₂ m₃) : Onward m₁ m₃ := by
  refine ⟨fun uuid => le_trans (h.epochs uuid) (h'.epochs uuid), h.flow.trans h'.flow, ?_,
    le_trans h.nextSession h'.nextSession, le_trans h.nextTicket h'.nextTicket, ?_,
    fun placed => h'.placed (h.placed placed)⟩
  · intro uuid id here
    rcases h'.sessions uuid id here with here | new
    · exact h.sessions uuid id here
    · exact .inr (le_trans h.nextSession new)
  · intro entry inFlight
    rcases h'.pending entry inFlight with old | ⟨from₂, upTo₃, bounded⟩
    · rcases h.pending entry old with old | ⟨from₁, upTo₂, bounded⟩
      · exact .inl old
      · exact .inr ⟨from₁, lt_of_lt_of_le upTo₂ h'.nextTicket, h'.bounded bounded⟩
    · exact .inr ⟨le_trans h.nextTicket from₂, upTo₃, bounded⟩

/-- The marks of the manager, what is in flight and what is on file. -/
def marks (m : Manager) : (String → Nat) × PairingFlow × (String → Option Nat) × Nat ×
    List (Nat × Callback) × Nat × MoonlightHostRepository :=
  (m.epochs, m.flow, m.sessions, m.nextSession, m.pending, m.nextTicket, m.repo)

theorem Onward.same {m : Manager} (h : m'.marks = m.marks) : Onward m m' := by
  simp only [marks, Prod.mk.injEq] at h
  obtain ⟨epochs, flow, sessions, nextSession, pending, nextTicket, repo⟩ := h
  refine ⟨fun uuid => le_of_eq (congrFun epochs uuid).symm, flow ▸ .refl _, ?_,
    le_of_eq nextSession.symm, le_of_eq nextTicket.symm, ?_,
    fun placed => ⟨repo ▸ placed.filed, flow ▸ placed.pairing⟩⟩
  · intro uuid id here
    exact .inl (sessions ▸ here)
  · intro entry inFlight
    exact .inl (pending ▸ inFlight)

theorem Onward.refl : Onward m m := .same rfl

theorem onward_ask (h : callback.Bounded m) : Onward m (m.ask callback) := by
  refine ⟨fun _ => le_rfl, .refl _, fun _ _ => .inl, le_rfl, Nat.le_succ _, ?_,
    fun placed => ⟨placed.filed, placed.pairing⟩⟩
  intro entry inFlight
  rcases List.mem_append.mp inFlight with old | new
  · exact .inl old
  · rw [List.mem_singleton.mp new]
    refine .inr ⟨le_rfl, Nat.lt_succ_self _, ?_⟩
    cases callback <;> exact h

theorem Onward.asking {m : Manager} (h : m'.marks = m.marks) (bounded : callback.Bounded m') :
    Onward m (m'.ask callback) :=
  (Onward.same h).trans (onward_ask m' bounded)

/-- A host that can be dialled has a record, or a row, which is under a placeholder. -/
theorem placeholder_of_row {m : Manager} {uuid : String} {found : Found}
    (row : m.discovered.rows uuid = some found) : isAddressPlaceholder uuid = true := by
  rw [m.discovered.keyed uuid found row, isAddressPlaceholder_placeholder]

/-- A probe is made for the record under its key, or for a row. -/
theorem probeTargetFor_remembered {m : Manager} {uuid : String} {target : ProbeTarget}
    (h : m.probeTargetFor uuid = some target) : target.rememberedUuid = uuid ∨
      (target.rememberedUuid = "" ∧ isAddressPlaceholder uuid = true) := by
  unfold probeTargetFor at h
  cases stored : m.repo.get uuid with
  | some host =>
    simp only [stored] at h
    split at h
    · cases h
    · cases h
      exact .inl (m.repo.load_filed uuid host stored)
  | none =>
    simp only [stored] at h
    cases row : m.discovered.rows uuid with
    | none => simp [row] at h
    | some found =>
      simp only [row] at h
      split at h
      · cases h
      · cases h
        exact .inr ⟨rfl, placeholder_of_row row⟩

/-! ### Frames -/

/-- What the session sent and raised in the step. -/
def outOf (m : Manager) (id : Nat) : List Out :=
  m.out.filterMap fun entry => if entry.1 = id then some entry.2 else none

/-- Nobody came into the tables of the sessions or left them. -/
structure SameTables (m m' : Manager) : Prop where
  sessions : m'.sessions = m.sessions
  nextSession : m'.nextSession = m.nextSession
  leaving : m'.leaving = m.leaving
  dying : m'.dying = m.dying

theorem SameTables.trans (h : SameTables m₁ m₂) (h' : SameTables m₂ m₃) : SameTables m₁ m₃ :=
  ⟨h'.sessions.trans h.sessions, h'.nextSession.trans h.nextSession, h'.leaving.trans h.leaving,
    h'.dying.trans h.dying⟩

/-- The manager has changed nothing about its sessions, their table and the bindings. -/
structure Records (m m' : Manager) : Prop extends SameTables m m' where
  objects : m'.objects = m.objects
  bindings : m'.bindings = m.bindings
  out : m'.out = m.out
  onward : Onward m m'

/-- All of a manager but what it knows of the hosts beside their records. -/
def held (m : Manager) : (Nat → Option Session) × List Nat × List Nat × Bindings ×
    List (Nat × Out) × (String → Nat) × PairingFlow × (String → Option Nat) × Nat ×
    List (Nat × Callback) × Nat × MoonlightHostRepository :=
  (m.objects, m.leaving, m.dying, m.bindings, m.out, m.marks)

theorem Records.noted {m : Manager} (h : m'.held = m.held) : Records m m' := by
  have marks : m'.marks = m.marks := congrArg (·.2.2.2.2.2) h
  simp only [held, Manager.marks, Prod.mk.injEq] at h
  obtain ⟨objects, leaving, dying, bindings, out, -, -, sessions, nextSession, -⟩ := h
  exact ⟨⟨sessions, nextSession, leaving, dying⟩, objects, bindings, out, .same marks⟩

theorem Records.refl : Records m m := .noted rfl

theorem Records.trans (h : Records m₁ m₂) (h' : Records m₂ m₃) : Records m₁ m₃ :=
  ⟨h.toSameTables.trans h'.toSameTables, h'.objects.trans h.objects,
    h'.bindings.trans h.bindings, h'.out.trans h.out, h.onward.trans h'.onward⟩

theorem Records.asking {m : Manager} (h : m'.held = m.held) (bounded : callback.Bounded m') :
    Records m (m'.ask callback) :=
  (Records.noted h).trans ⟨⟨rfl, rfl, rfl, rfl⟩, rfl, rfl, rfl, onward_ask m' bounded⟩

theorem Records.stored {m : Manager} {repo : MoonlightHostRepository}
    (filed : m.Placed → ∀ key, (repo.get key).isSome = true → isAddressPlaceholder key = true) :
    Records m { m with repo := repo } :=
  ⟨⟨rfl, rfl, rfl, rfl⟩, rfl, rfl, rfl, fun _ => le_rfl, .refl _, fun _ _ => .inl, le_rfl, le_rfl,
    fun _ => .inl, fun placed => ⟨filed placed, placed.pairing⟩⟩

theorem Records.upserted {m : Manager} {host : MoonlightHost}
    (h : m.Placed → host.uuid ≠ "" → isAddressPlaceholder host.uuid = true) :
    Records m { m with repo := m.repo.upsert host } := by
  refine .stored fun placed key there => ?_
  by_cases same : key = host.uuid
  · by_cases named : host.uuid = ""
    · rw [MoonlightHostRepository.upsert, if_pos named] at there
      exact placed.filed key there
    · exact same ▸ h placed named
  · rw [MoonlightHostRepository.get_upsert_ne same] at there
    exact placed.filed key there

/-- A record is stored again under the key it was read from. -/
theorem Records.again {m : Manager} {uuid : String} {host host' : MoonlightHost}
    (found : m.repo.get uuid = some host) (same : host'.uuid = host.uuid) :
    Records m { m with repo := m.repo.upsert host' } := by
  refine .upserted fun placed _ => ?_
  rw [same, m.repo.load_filed uuid host found]
  exact placed.filed uuid (Option.isSome_of_eq_some found)

theorem records_onDiscovered (hosts : List Found) : Records m (m.onDiscovered hosts) := by
  unfold onDiscovered
  induction hosts generalizing m with
  | nil => exact .refl m
  | cons found rest ih =>
    refine .trans ?_ (ih (m.onFound found))
    exact .noted rfl

theorem records_rememberDestination : Records m (m.rememberDestination uuid) := by
  unfold rememberDestination
  split
  · exact .refl m
  · split
    · exact .refl m
    · rename_i row
      exact .upserted fun _ _ => placeholder_of_row row

theorem records_probe (m : Manager) (uuid : String) : Records m (m.probe o uuid) := by
  unfold probe
  cases aimed : m.probeTargetFor uuid with
  | none => exact .refl m
  | some target =>
    simp only
    split
    · exact .refl m
    · exact .asking rfl ⟨le_refl _, probeTargetFor_remembered aimed⟩

theorem records_onPlainServerInfo (target : ProbeTarget) (epoch : Nat) (reply : ServerInfoReply) :
    Records m (m.onPlainServerInfo uuid target epoch reply) := by
  unfold onPlainServerInfo
  split
  · exact .refl m
  · rename_i current
    split
    · exact .noted rfl
    · simp only
      split
      · exact .noted rfl
      · exact .asking rfl (le_of_eq (not_not.mp current).symm)

theorem records_onTlsServerInfo (epoch : Nat) (reply : ServerInfoReply) :
    Records m (m.onTlsServerInfo uuid epoch reply) := by
  unfold onTlsServerInfo
  split
  · exact .refl m
  · exact .noted rfl

theorem records_refreshApps (m : Manager) (uuid : String) : Records m (m.refreshApps o uuid) := by
  have loaded : Records m (m.ensureIdentityLoaded o) := .noted rfl
  refine loaded.trans ?_
  unfold refreshApps
  simp only
  repeat' split
  all_goals first
    | exact .noted rfl
    | exact .asking rfl (le_refl _)

theorem records_onAppListReply (epoch : Nat) (status : Int) (root : Option Status)
    (apps : List MoonlightApp) : Records m (m.onAppListReply uuid epoch status root apps) := by
  unfold onAppListReply
  split
  · exact .refl m
  · simp only
    split
    · split <;> exact .noted rfl
    · exact .noted rfl

theorem pairedRecord_uuid (serverCertPem : String) :
    (m.pairedRecord uuid serverCertPem).uuid = uuid := by
  unfold pairedRecord
  split <;> rfl

theorem records_onPairingFinished (ok : Bool) (reasonToken serverCertPem : String) :
    Records m (m.onPairingFinished ok reasonToken serverCertPem) := by
  unfold onPairingFinished
  split
  · refine .trans (.upserted fun placed => ?_) (.noted rfl)
    rw [pairedRecord_uuid]
    exact placed.pairing
  · exact .noted rfl

theorem records_flow {m : Manager} {flow : PairingFlow} (h : m.flow.Onward flow)
    (placed : m.Placed → flow.hostUuid ≠ "" → isAddressPlaceholder flow.hostUuid = true) :
    Records m { m with flow := flow } :=
  ⟨⟨rfl, rfl, rfl, rfl⟩, rfl, rfl, rfl, fun _ => le_rfl, h, fun _ _ => .inl, le_rfl, le_rfl,
    fun _ => .inl, fun before => ⟨before.filed, placed before⟩⟩

theorem records_onFlow {m : Manager} {moved : PairingFlow × Option FlowOut}
    (h : m.flow.Onward moved.1)
    (placed : m.Placed → moved.1.hostUuid ≠ "" → isAddressPlaceholder moved.1.hostUuid = true) :
    Records m (m.onFlow moved) := by
  refine (records_flow h placed).trans ?_
  unfold onFlow
  split
  · exact .refl _
  · exact .asking rfl (le_refl _)
  · exact records_onPairingFinished _ _ _ _

theorem records_addManualHost (m : Manager) (address name : String) (httpPort httpsPort : Int) :
    Records m (m.addManualHost o address name httpPort httpsPort) := by
  have rows (found : Found) : Records m { m with discovered := m.discovered.insert found } :=
    .noted rfl
  refine .trans ((rows _).trans (.upserted fun _ _ => ?_)) (records_probe o _ _)
  exact isAddressPlaceholder_placeholder address

theorem Placed.dialled {m : Manager} {uuid : String} (h : m.Placed)
    (address : (m.pairingEndpoint uuid).1 ≠ "") : isAddressPlaceholder uuid = true := by
  unfold pairingEndpoint at address
  cases stored : m.repo.get uuid with
  | some host => exact h.filed uuid (Option.isSome_of_eq_some stored)
  | none =>
    cases row : m.discovered.rows uuid with
    | some found => exact placeholder_of_row row
    | none => simp [stored, row] at address

theorem records_pair (m : Manager) (uuid : String) : Records m (m.pair o uuid) := by
  unfold pair
  simp only
  split
  · exact .noted rfl
  · split
    · exact .noted rfl
    · split
      · exact .noted rfl
      · split
        · exact .noted rfl
        · rename_i dialled _
          refine .trans ?_ (records_onFlow (PairingFlow.onward_start _ _ _ _ _ _) ?_)
          · exact .noted rfl
          · intro placed _
            rw [PairingFlow.start_hostUuid]
            exact placed.dialled dialled

theorem records_rememberBinding (binding : MoonlightBinding) :
    Records m (m.rememberBinding binding) := by
  unfold rememberBinding
  split
  · exact .refl m
  · refine .trans (m.records_rememberDestination binding.hostUuid) (.stored fun placed => ?_)
    rw [MoonlightHostRepository.get_rememberBinding]
    exact placed.filed

theorem records_forgetBinding (slotId : String) : Records m (m.forgetBinding slotId) := by
  unfold forgetBinding
  split
  · exact .refl m
  · exact .stored fun placed => placed.filed

theorem records_setLastApp (appId appName : String) :
    Records m (m.setLastApp uuid appId appName) := by
  unfold setLastApp
  split
  · exact .refl m
  · rename_i found
    exact .again found rfl

theorem records_setControllerType (type : Int) : Records m (m.setControllerType uuid type) := by
  unfold setControllerType
  split
  · exact .refl m
  · rename_i found
    exact .again found rfl

/-! ### Calling a session -/

/-- What a session sends is logged and put on the wire, and its failure may mark the probe of its
host.  Nothing else of the manager changes. -/
theorem absorb_eq (o : Out) :
    ∃ probes pending nextTicket, m.absorb id uuid o = { m with
      probes := probes
      pending := pending
      nextTicket := nextTicket
      out := m.out ++ [(id, o)] } := by
  cases o with
  | request => exact ⟨_, _, _, rfl⟩
  | failed =>
    unfold absorb onSessionFailed
    simp only
    split
    · exact ⟨_, _, _, rfl⟩
    · split <;> exact ⟨_, _, _, rfl⟩
  | _ => exact ⟨_, _, _, rfl⟩

theorem put_eq (s : Session) :
    ∃ probes pending nextTicket, m.put id s = { m with
      objects := update m.objects id (some { s with out := [] })
      probes := probes
      pending := pending
      nextTicket := nextTicket
      out := m.out ++ s.out.map (id, ·) } := by
  have fold : ∀ (sent : List Out) (m : Manager), ∃ probes pending nextTicket,
      sent.foldl (fun m o => m.absorb id s.host.uuid o) m = { m with
        probes := probes
        pending := pending
        nextTicket := nextTicket
        out := m.out ++ sent.map (id, ·) } := by
    intro sent
    induction sent with
    | nil => exact fun m => ⟨m.probes, m.pending, m.nextTicket, by simp⟩
    | cons o rest ih =>
      intro m
      obtain ⟨probes, pending, nextTicket, first⟩ := m.absorb_eq id s.host.uuid o
      obtain ⟨probes', pending', nextTicket', others⟩ := ih (m.absorb id s.host.uuid o)
      refine ⟨probes', pending', nextTicket', ?_⟩
      rw [List.foldl_cons, others, first]
      simp
  obtain ⟨probes, pending, nextTicket, eq⟩ := fold s.out
    { m with objects := update m.objects id (some { s with out := [] }) }
  exact ⟨probes, pending, nextTicket, eq⟩

/-- One call of a session: the objects but one, the tables and the bindings are as they were. -/
structure Called (m : Manager) (id : Nat) (s : Session) (m' : Manager) : Prop
    extends SameTables m m' where
  self : m'.objects id = some { s with out := [] }
  others : ∀ other, other ≠ id → m'.objects other = m.objects other
  out : m'.out = m.out ++ s.out.map (id, ·)
  bindings : m'.bindings = m.bindings
  repo : m'.repo = m.repo

theorem put_called (s : Session) : Called m id s (m.put id s) := by
  obtain ⟨probes, pending, nextTicket, eq⟩ := m.put_eq id s
  rw [eq]
  exact ⟨⟨rfl, rfl, rfl, rfl⟩, update_self .., fun other h => update_of_ne h .., rfl, rfl, rfl⟩

theorem onward_absorb {id : Nat} (h : id < m.nextSession) (uuid : String) (o : Out) :
    Onward m (m.absorb id uuid o) := by
  unfold absorb
  cases o with
  | request => exact .asking rfl h
  | failed =>
    simp only
    unfold onSessionFailed
    split
    · exact .same rfl
    · split <;> exact .same rfl
  | _ => exact .same rfl

theorem onward_put {id : Nat} (h : id < m.nextSession) (s : Session) : Onward m (m.put id s) := by
  refine List.foldlRecOn (motive := Onward m) s.out _ (.same rfl) ?_
  intro m' onward o _
  exact onward.trans (m'.onward_absorb (lt_of_lt_of_le h onward.nextSession) s.host.uuid o)

end Manager

/-! ### Who rides where -/

/-- What of a session its events leave alone: the host and the pads that ride. -/
structure Chart where
  host : MoonlightHost
  slots : PadSlots
  pads : List (String × PadDeclaration)

def Session.chart (s : Session) : Chart := ⟨s.host, s.slots, s.pads⟩

theorem Session.Rides.chart {s s' : Session} (h : Session.Rides s s') : s'.chart = s.chart := by
  simp [Session.chart, h.host, h.slots, h.pads]

namespace Manager

variable {id : Nat} {s s' : Session} (o : Outside) (m : Manager)

def chart (m : Manager) (id : Nat) : Option Chart := (m.objects id).map Session.chart

def housing (m : Manager) (id : Nat) : Option MoonlightHost := (m.objects id).map (·.host)

/-- The session is in an attempt. -/
def underWay (m : Manager) (id : Nat) : Bool :=
  match m.objects id with
  | none => false
  | some s => !sessionNeedsStart s.machine.phase

theorem underWay_iff {m : Manager} :
    m.underWay id = true ↔
      ∃ s, m.objects id = some s ∧ sessionNeedsStart s.machine.phase = false := by
  unfold underWay
  cases m.objects id with
  | none => simp
  | some s => simp

/-- What a session sends is taken at the end of every call, and what was taken goes where the copy
of the session says. -/
structure Tidy (m : Manager) : Prop where
  clean : ∀ id s, m.objects id = some s → s.out = []
  below : ∀ id host, m.housing id = some host → id < m.nextSession
  posted : ∀ entry ∈ m.out, entry.1 < m.nextSession ∧
    ∀ host, m.housing entry.1 = some host → entry.2.GoesTo host

theorem Tidy.same {m m' : Manager} (h : m.Tidy) (objects : m'.objects = m.objects)
    (nextSession : m'.nextSession = m.nextSession) (out : m'.out ⊆ m.out) : m'.Tidy := by
  have housing : m'.housing = m.housing := by
    funext id
    rw [housing, housing, objects]
  refine ⟨?_, ?_, ?_⟩
  · rw [objects]
    exact h.clean
  · rw [housing, nextSession]
    exact h.below
  · rw [housing, nextSession]
    exact fun entry sent => h.posted entry (out sent)

theorem put_housing (there : m.objects id = some s) (host : s'.host = s.host) :
    (m.put id s').housing = m.housing := by
  have called := m.put_called id s'
  funext other
  by_cases same : other = id
  · subst same
    simp [housing, called.self, there, host]
  · rw [housing, housing, called.others other same]

theorem Tidy.put {m : Manager} (h : m.Tidy) (there : m.objects id = some s)
    (abides : Session.Abides s s') : (m.put id s').Tidy := by
  have called := m.put_called id s'
  have housing := m.put_housing there abides.host
  have housed : m.housing id = some s.host := by simp [Manager.housing, there]
  refine ⟨?_, ?_, ?_⟩
  · intro other found there'
    by_cases same : other = id
    · subst same
      rw [called.self, Option.some.injEq] at there'
      rw [← there']
    · rw [called.others other same] at there'
      exact h.clean other found there'
  · rw [housing, called.nextSession]
    exact h.below
  · rw [housing, called.nextSession, called.out]
    intro entry sent
    rcases List.mem_append.mp sent with sent | sent
    · exact h.posted entry sent
    · obtain ⟨o, ho, same⟩ := List.mem_map.mp sent
      obtain ⟨more, out, goes⟩ := abides.sends
      rw [out, h.clean id s there, List.nil_append] at ho
      subst same
      refine ⟨h.below id s.host housed, ?_⟩
      intro host housed'
      rw [housed, Option.some.injEq] at housed'
      rw [← housed']
      exact goes o ho

theorem Tidy.lt {m : Manager} (h : m.Tidy) (there : m.objects id = some s) :
    id < m.nextSession := by
  apply h.below id s.host
  simp [housing, there]

/-- The manager may have called sessions, but nobody changed places. -/
structure Frame (m m' : Manager) : Prop extends SameTables m m' where
  bindings : m'.bindings = m.bindings
  chart : m'.chart = m.chart
  tidy : m.Tidy → m'.Tidy
  onward : m.Tidy → Onward m m'

variable {m₁ m₂ m₃ : Manager}

theorem Frame.trans (h : Frame m₁ m₂) (h' : Frame m₂ m₃) : Frame m₁ m₃ :=
  ⟨h.toSameTables.trans h'.toSameTables, h'.bindings.trans h.bindings, h'.chart.trans h.chart,
    fun tidy => h'.tidy (h.tidy tidy),
    fun tidy => (h.onward tidy).trans (h'.onward (h.tidy tidy))⟩

theorem put_chart (id : Nat) (s : Session) :
    (m.put id s).chart = update m.chart id (some s.chart) := by
  have called := m.put_called id s
  funext other
  by_cases same : other = id
  · subst same
    rw [update_self, chart, called.self]
    rfl
  · rw [update_of_ne same, chart, called.others other same]
    rfl

theorem frame_put (there : m.objects id = some s) (rides : Session.Rides s s') :
    Frame m (m.put id s') := by
  have called := m.put_called id s'
  refine ⟨called.toSameTables, called.bindings, ?_,
    fun tidy => tidy.put there rides.toAbides, fun tidy => m.onward_put (tidy.lt there) s'⟩
  rw [put_chart, rides.chart]
  apply update_eq_self_iff.mpr
  rw [chart, there]
  rfl

/-- No session has begun an attempt. -/
def Rests (m m' : Manager) : Prop := ∀ id, m'.underWay id = true → m.underWay id = true

theorem rests_put (there : m.objects id = some s)
    (rest : sessionNeedsStart s.machine.phase = true → sessionNeedsStart s'.machine.phase = true) :
    Rests m (m.put id s') := by
  have called := m.put_called id s'
  intro other under
  obtain ⟨t, there', under⟩ := underWay_iff.mp under
  by_cases same : other = id
  · subst same
    rw [called.self, Option.some.injEq] at there'
    subst there'
    refine underWay_iff.mpr ⟨s, there, ?_⟩
    cases needs : sessionNeedsStart s.machine.phase with
    | false => rfl
    | true =>
      rw [rest needs] at under
      cases under
  · rw [called.others other same] at there'
    exact underWay_iff.mpr ⟨t, there', under⟩

/-- Nobody changed places and no attempt began. -/
structure Quiet (m m' : Manager) : Prop extends Frame m m' where
  rests : Rests m m'

theorem Quiet.refl : Quiet m m :=
  ⟨⟨⟨rfl, rfl, rfl, rfl⟩, rfl, rfl, id, fun _ => .refl m⟩, fun _ => id⟩

theorem Quiet.trans (h : Quiet m₁ m₂) (h' : Quiet m₂ m₃) : Quiet m₁ m₃ :=
  ⟨h.toFrame.trans h'.toFrame, fun id under => h.rests id (h'.rests id under)⟩

theorem Records.quiet {m m' : Manager} (h : Records m m') : Quiet m m' := by
  refine ⟨⟨h.toSameTables, h.bindings, ?_, ?_, fun _ => h.onward⟩, ?_⟩
  · funext id
    rw [chart, chart, h.objects]
  · intro tidy
    exact tidy.same h.objects h.nextSession (h.out ▸ List.Subset.refl _)
  · intro id
    rw [underWay, underWay, h.objects]
    exact fun under => under

theorem quiet_withSession (id : Nat) {call : Session → Session}
    (plays : ∀ s, Session.Plays s (call s)) : Quiet m (m.withSession id call) := by
  unfold withSession
  split
  · exact .refl m
  · rename_i s there
    exact ⟨m.frame_put there (plays s).toRides, m.rests_put there (plays s).rest⟩

theorem quiet_readMotionSwitch (slotId : String) : Quiet m (m.readMotionSwitch o slotId) := by
  unfold readMotionSwitch
  split
  · exact .refl m
  · refine m.quiet_withSession _ fun s => ?_
    split <;> exact ⟨.silent rfl rfl rfl rfl, id⟩

theorem quiet_readTouchpadPick (id : Nat) (number : PadNumber) (uuid : String) (storedType : Int)
    (source : SourceCapabilities) :
    Quiet m (m.readTouchpadPick o id number uuid storedType source) :=
  m.quiet_withSession id fun _ => ⟨.silent rfl rfl rfl rfl, fun h => h⟩

theorem frame_ensureSessionRunning (id : Nat) (host : MoonlightHost) :
    Frame m (m.ensureSessionRunning o id host) := by
  unfold ensureSessionRunning
  split
  · exact (Quiet.refl m).toFrame
  · rename_i s there
    split
    · exact (Quiet.refl m).toFrame
    · split
      · exact (Quiet.refl m).toFrame
      · exact m.frame_put there (s.start_rides o.world _ _)

theorem quiet_refreshMotionSwitches : Quiet m (m.refreshMotionSwitches o) := by
  unfold refreshMotionSwitches
  generalize m.bindings.entries = entries
  induction entries generalizing m with
  | nil => exact .refl m
  | cons entry rest ih => exact (m.quiet_readMotionSwitch o entry.1).trans (ih _)

/-- What a quit comes to: the attempt of the host's session is stopped, or no session hears of
it. -/
theorem quitHostApp_cases (uuid : String) :
    Records m (m.quitHostApp o uuid) ∨
      ∃ id s, m.sessions uuid = some id ∧ m.objects id = some s ∧
        sessionNeedsStart s.machine.phase = false ∧
        m.quitHostApp o uuid =
          ((m.ensureIdentityLoaded o).withSession id fun s => s.stop o.world true).probe o uuid := by
  unfold quitHostApp
  simp only
  cases stored : (m.ensureIdentityLoaded o).repo.get uuid with
  | none => exact .inl (.noted rfl)
  | some host =>
    simp only
    split
    · exact .inl (.noted rfl)
    cases attempt : ((m.ensureIdentityLoaded o).sessions uuid).bind fun id =>
        ((m.ensureIdentityLoaded o).objects id).bind fun s =>
          if sessionNeedsStart s.machine.phase then none else some id with
    | none => exact .inl (.asking rfl trivial)
    | some id =>
      obtain ⟨found, here, under⟩ := Option.bind_eq_some_iff.mp attempt
      obtain ⟨s, there, under⟩ := Option.bind_eq_some_iff.mp under
      cases needs : sessionNeedsStart s.machine.phase with
      | true => simp [needs] at under
      | false =>
        have same : found = id := by simpa [needs] using under
        subst same
        exact .inr ⟨found, s, here, there, needs, rfl⟩

theorem quiet_quitHostApp (uuid : String) : Quiet m (m.quitHostApp o uuid) := by
  rcases quitHostApp_cases o m uuid with records | ⟨id, s, -, -, -, eq⟩
  · exact records.quiet
  · rw [eq]
    have identity : Records m (m.ensureIdentityLoaded o) := .noted rfl
    refine identity.quiet.trans (.trans ?_ (records_probe o _ uuid).quiet)
    exact quiet_withSession _ id fun s => s.stop_plays o.world true

theorem quiet_stopSessions : Quiet m (m.stopSessions o) := by
  unfold stopSessions
  generalize m.sessionIds = ids
  induction ids generalizing m with
  | nil => exact .refl m
  | cons id rest ih =>
    exact (m.quiet_withSession id fun s => s.stop_plays o.world false).trans (ih _)

theorem quiet_onReply (callback : Callback) (reply : GatewayReply) :
    Quiet m (m.onReply o callback reply) := by
  unfold onReply
  split
  · exact (m.records_onPlainServerInfo _ _ _ _).quiet
  · exact (m.records_onTlsServerInfo _ _ _).quiet
  · exact (m.records_onAppListReply _ _ _ _ _).quiet
  · refine (records_onFlow (m.flow.onward_onReply _ _ _) ?_).quiet
    rw [PairingFlow.onReply_hostUuid]
    exact Placed.pairing
  · unfold onSessionReply
    split
    · exact m.quiet_withSession _ fun s => s.onReply_plays o.world _ _
    · exact m.quiet_withSession _ fun s => s.onReply_plays o.world _ _
    · exact .refl m
  · exact (records_probe o m _).quiet
  · exact .refl m

/-- The manager with the reply's request off the wire. -/
def answered (m : Manager) (ticket : Nat) : Manager :=
  { m with pending := m.pending.filter (·.1 ≠ ticket) }

theorem records_answered (ticket : Nat) : Records m (m.answered ticket) :=
  ⟨⟨rfl, rfl, rfl, rfl⟩, rfl, rfl, rfl, fun _ => le_rfl, .refl _, fun _ _ => .inl, le_rfl, le_rfl,
    fun _ inFlight => .inl (List.mem_filter.mp inFlight).1, fun placed => ⟨placed.1, placed.2⟩⟩

theorem quiet_deliver (ticket : Nat) (reply : GatewayReply) :
    Quiet m (m.deliver o ticket reply) := by
  unfold deliver
  split
  · exact .refl m
  · exact (m.records_answered ticket).quiet.trans (quiet_onReply o _ _ reply)

end Manager

/-- The acts that seat, unseat or retire someone. -/
def ManagerAct.seats : ManagerAct → Bool
  | .bindController .. | .unbindController _ | .forget _ | .leave _ | .delete _ => true
  | _ => false

namespace Manager

/-- **Every other act leaves everyone where they are.** -/
theorem quiet_act (o : Outside) (m : Manager) {act : ManagerAct} (h : act.seats = false) :
    Quiet m (m.act o act) := by
  cases act with
  | bindController | unbindController | forget | leave | delete => cases h
  | discovered hosts => exact (m.records_onDiscovered hosts).quiet
  | addManualHost address name httpPort httpsPort =>
    exact (records_addManualHost o m address name httpPort httpsPort).quiet
  | pair uuid => exact (records_pair o m uuid).quiet
  | cancelPairing =>
    refine Records.quiet ((records_flow m.flow.onward_cancel Placed.pairing).trans ?_)
    exact .noted rfl
  | probe uuid => exact (records_probe o m uuid).quiet
  | refreshApps uuid => exact (records_refreshApps o m uuid).quiet
  | rememberBinding binding => exact (m.records_rememberBinding binding).quiet
  | forgetBinding slotId => exact (m.records_forgetBinding slotId).quiet
  | refreshMotionSwitches => exact quiet_refreshMotionSwitches o m
  | quitHostApp uuid => exact quiet_quitHostApp o m uuid
  | stopSessions => exact quiet_stopSessions o m
  | setLastApp uuid appId appName => exact (m.records_setLastApp uuid appId appName).quiet
  | setControllerType uuid type => exact (m.records_setControllerType uuid type).quiet
  | reply ticket reply => exact quiet_deliver o m ticket reply
  | session id input =>
    show Quiet m (if input.external then _ else m)
    split
    · rename_i external
      have unseated : input.seats = false := by cases input <;> first | rfl | cases external
      have other : ∀ appId appName, input ≠ .start appId appName := by
        intro appId appName same
        rw [same] at external
        cases external
      exact m.quiet_withSession id fun s =>
        ⟨s.onInput_rides o.world unseated, Session.onInput_rest other⟩
    · exact .refl m

end Manager

/-! ### The table of the sessions -/

namespace Manager

variable {m : Manager} {id : Nat}

/-- The manager may have called sessions and moved pads, but the sessions are those of the same
hosts. -/
structure Housed (m m' : Manager) : Prop extends SameTables m m' where
  housing : m'.housing = m.housing
  tidy : m.Tidy → m'.Tidy
  onward : m.Tidy → Onward m m'

theorem Housed.trans {m₁ m₂ m₃ : Manager} (h : Housed m₁ m₂) (h' : Housed m₂ m₃) : Housed m₁ m₃ :=
  ⟨h.toSameTables.trans h'.toSameTables, h'.housing.trans h.housing,
    fun tidy => h'.tidy (h.tidy tidy), fun tidy => (h.onward tidy).trans (h'.onward (h.tidy tidy))⟩

theorem Frame.housed {m' : Manager} (h : Frame m m') : Housed m m' := by
  refine ⟨h.toSameTables, ?_, h.tidy, h.onward⟩
  have byChart : ∀ (m : Manager) (id : Nat), m.housing id = (m.chart id).map Chart.host := by
    intro m id
    unfold Manager.chart Manager.housing
    rw [Option.map_map]
    rfl
  funext id
  rw [byChart, byChart, h.chart]

theorem housed_put (m : Manager) {s s' : Session} (there : m.objects id = some s)
    (abides : Session.Abides s s') : Housed m (m.put id s') := by
  have called := m.put_called id s'
  exact ⟨called.toSameTables, m.put_housing there abides.host, fun tidy => tidy.put there abides,
    fun tidy => m.onward_put (tidy.lt there) s'⟩

/-- A session of the table is there, for the host it is filed under, and one that was taken out
never comes back. -/
structure Roster (m : Manager) : Prop extends Tidy m where
  known : ∀ uuid id, m.sessions uuid = some id → ∃ host, m.housing id = some host ∧ host.uuid = uuid
  retired : ∀ id, id ∈ m.leaving ∨ id ∈ m.dying →
    id < m.nextSession ∧ ∀ uuid, m.sessions uuid ≠ some id

theorem Housed.roster {m' : Manager} (h : Housed m m') (hm : m.Roster) : m'.Roster := by
  refine ⟨h.tidy hm.toTidy, ?_, ?_⟩
  · rw [h.sessions, h.housing]
    exact hm.known
  · rw [h.leaving, h.dying, h.sessions, h.nextSession]
    exact hm.retired

theorem housed_bindings (m : Manager) (bindings : Bindings) :
    Housed m { m with bindings := bindings } :=
  ⟨⟨rfl, rfl, rfl, rfl⟩, rfl, fun tidy => tidy.same rfl rfl (List.Subset.refl _),
    fun _ => .same rfl⟩

theorem Roster.injective (hm : m.Roster) {uuid other : String} (h : m.sessions uuid = some id)
    (h' : m.sessions other = some id) : uuid = other := by
  obtain ⟨host, housed, name⟩ := hm.known uuid id h
  obtain ⟨host', housed', name'⟩ := hm.known other id h'
  rw [housed, Option.some.injEq] at housed'
  rw [← name, ← name', housed']

theorem Roster.there (hm : m.Roster) {uuid : String} (h : m.sessions uuid = some id) :
    ∃ s, m.objects id = some s ∧ s.host.uuid = uuid := by
  obtain ⟨host, housed, name⟩ := hm.known uuid id h
  obtain ⟨s, there, same⟩ := Option.map_eq_some_iff.mp housed
  exact ⟨s, there, by rw [same, name]⟩

theorem housed_unbindController (o : Outside) (m : Manager) (slotId : String) :
    Housed m (m.unbindController o slotId) := by
  unfold unbindController
  split
  · exact (Quiet.refl m).housed
  · refine (m.housed_bindings (m.bindings.remove slotId)).trans ?_
    simp only
    split
    · exact (Quiet.refl _).housed
    · split
      · exact (Quiet.refl _).housed
      · rename_i id here _ s there
        have detached := housed_put { m with bindings := m.bindings.remove slotId } there
          (s.aside_detachController slotId).abides
        split
        · exact detached.trans (quiet_withSession _ id fun s => s.stop_plays o.world true).housed
        · exact detached

/-- The manager with a session made for the host. -/
def enroll (m : Manager) (host : MoonlightHost) : Manager :=
  { m with
    objects := update m.objects m.nextSession (some { host := host })
    sessions := update m.sessions host.uuid (some m.nextSession)
    nextSession := m.nextSession + 1 }

variable {host : MoonlightHost}

theorem ensureSession_of_some (h : m.sessions host.uuid = some id) :
    m.ensureSession host = (id, m) := by
  simp [ensureSession, h]

theorem ensureSession_of_none (h : m.sessions host.uuid = none) :
    m.ensureSession host = (m.nextSession, m.enroll host) := by
  simp [ensureSession, h, enroll]

theorem Roster.unused (hm : m.Roster) : m.objects m.nextSession = none := by
  cases there : m.objects m.nextSession with
  | none => rfl
  | some s =>
    have housed : m.housing m.nextSession = some s.host := by simp [housing, there]
    exact absurd (hm.below _ _ housed) (Nat.lt_irrefl _)

section
variable (m : Manager) (host : MoonlightHost)

theorem enroll_objects (id : Nat) :
    (m.enroll host).objects id =
      if id = m.nextSession then some { host := host } else m.objects id :=
  update_apply ..

theorem enroll_sessions (uuid : String) :
    (m.enroll host).sessions uuid =
      if uuid = host.uuid then some m.nextSession else m.sessions uuid :=
  update_apply ..

theorem enroll_housing (id : Nat) :
    (m.enroll host).housing id = if id = m.nextSession then some host else m.housing id := by
  rw [housing, enroll_objects]
  split <;> rfl

end

theorem Tidy.enroll (hm : m.Tidy) (host : MoonlightHost) : (m.enroll host).Tidy := by
  refine ⟨?_, ?_, ?_⟩
  · intro id s there
    rw [enroll_objects] at there
    split at there
    · cases there
      rfl
    · exact hm.clean id s there
  · intro id other housed
    show id < m.nextSession + 1
    rw [enroll_housing] at housed
    split at housed
    · omega
    · exact Nat.lt_succ_of_lt (hm.below id other housed)
  · intro entry sent
    obtain ⟨below, goes⟩ := hm.posted entry sent
    refine ⟨Nat.lt_succ_of_lt below, ?_⟩
    intro other housed
    rw [enroll_housing, if_neg (Nat.ne_of_lt below)] at housed
    exact goes other housed

theorem Roster.enroll (hm : m.Roster) (host : MoonlightHost) : (m.enroll host).Roster := by
  refine ⟨hm.toTidy.enroll host, ?_, ?_⟩
  · intro uuid id here
    rw [enroll_housing]
    rw [enroll_sessions] at here
    split at here
    · rename_i mine
      rw [Option.some.injEq] at here
      exact ⟨host, by rw [if_pos here.symm], mine.symm⟩
    · obtain ⟨other, housed, name⟩ := hm.known uuid id here
      have old : id ≠ m.nextSession := Nat.ne_of_lt (hm.below id other housed)
      exact ⟨other, by rw [if_neg old, housed], name⟩
  · intro id gone
    obtain ⟨old, out⟩ := hm.retired id gone
    refine ⟨Nat.lt_succ_of_lt old, ?_⟩
    intro uuid here
    rw [enroll_sessions] at here
    split at here
    · rw [Option.some.injEq] at here
      omega
    · exact out uuid here

theorem ensureSession_roster (hm : m.Roster) (host : MoonlightHost) :
    (m.ensureSession host).2.Roster ∧
      (m.ensureSession host).2.sessions host.uuid = some (m.ensureSession host).1 := by
  cases found : m.sessions host.uuid with
  | some id =>
    rw [ensureSession_of_some found]
    exact ⟨hm, found⟩
  | none =>
    rw [ensureSession_of_none found]
    exact ⟨hm.enroll host, update_self ..⟩

end Manager

/-! ### Everything a bind can come to -/

/-- The pad keeps its number or takes one. -/
def Session.seatController (s : Session) (slotId : String) (storedType : Int)
    (source : SourceCapabilities) : Option PadNumber × Session :=
  match s.reannounceController slotId storedType source with
  | (some number, s) => (some number, s)
  | (none, s) => s.attachController slotId storedType source

theorem Session.aside_seatController (s : Session) (slotId : String) (storedType : Int)
    (source : SourceCapabilities) :
    Session.Aside s (s.seatController slotId storedType source).2 := by
  have first := s.aside_reannounceController slotId storedType source
  unfold Session.seatController
  cases answer : s.reannounceController slotId storedType source with
  | mk number after =>
    rw [answer] at first
    cases number with
    | some number => exact first
    | none => exact first.trans (after.aside_attachController slotId storedType source)

namespace Manager

variable {m m' : Manager} {uuid : String} (o : Outside)

/-- The manager once the slot is free of any other host. -/
def freed (o : Outside) (m : Manager) (slotId uuid : String) : Manager :=
  if m.boundElsewhere slotId uuid then m.unbindController o slotId else m

/-- The manager once the binding stands, with the host remembered. -/
def claimed (o : Outside) (m : Manager) (slotId uuid : String) : Manager :=
  rememberDestination (ensureIdentityLoaded o { m.freed o slotId uuid with
    bindings := (m.freed o slotId uuid).bindings.insert slotId uuid }) uuid

/-- The rest of the bind. -/
def joinStored (o : Outside) (m : Manager) (slotId uuid : String) (storedType : Int)
    (source : SourceCapabilities) : Option PadNumber × Manager :=
  match m.repo.get uuid with
  | none => (none, m)
  | some host =>
    if !host.paired then (none, m) else m.joinSession o slotId uuid storedType source host

theorem records_claimed (m : Manager) (slotId uuid : String) :
    Records { m.freed o slotId uuid with
      bindings := (m.freed o slotId uuid).bindings.insert slotId uuid }
        (m.claimed o slotId uuid) := by
  refine .trans ?_ (records_rememberDestination _ _)
  exact .noted rfl

/-- The manager once the host has a session, and which it is. -/
def joining (o : Outside) (m : Manager) (slotId uuid : String) (host : MoonlightHost) :
    Nat × Manager :=
  (m.claimed o slotId uuid).ensureSession host

/-- The switches of a pad that has taken its place, and the start of its session. -/
def launch (o : Outside) (m : Manager) (slotId uuid : String) (storedType : Int)
    (source : SourceCapabilities) (host : MoonlightHost) (id : Nat) (number : PadNumber) :
    Manager :=
  ((m.readMotionSwitch o slotId).readTouchpadPick o id number uuid storedType
    source).ensureSessionRunning o id host

inductive Bound (o : Outside) (m : Manager) (slotId uuid : String) (storedType : Int)
    (source : SourceCapabilities) : Option PadNumber × Manager → Prop where
  | empty (unnamed : slotId = "" ∨ uuid = "") : Bound o m slotId uuid storedType source (none, m)
  | full (named : ¬(slotId = "" ∨ uuid = ""))
      (full : (m.freed o slotId uuid).full slotId uuid = true) :
      Bound o m slotId uuid storedType source (none, m.freed o slotId uuid)
  | waiting (named : ¬(slotId = "" ∨ uuid = ""))
      (room : (m.freed o slotId uuid).full slotId uuid = false) :
      Bound o m slotId uuid storedType source (none, m.claimed o slotId uuid)
  | unnumbered {host : MoonlightHost} {s : Session} {id : Nat} {m' after : Manager}
      (room : (m.freed o slotId uuid).full slotId uuid = false)
      (stored : (m.claimed o slotId uuid).repo.get uuid = some host)
      (joining : m.joining o slotId uuid host = (id, m')) (there : m'.objects id = some s)
      (none : (s.seatController slotId storedType source).1 = none)
      (put : after = m'.put id (s.seatController slotId storedType source).2) :
      Bound o m slotId uuid storedType source
        (.none, { after with bindings := after.bindings.remove slotId })
  | joined {host : MoonlightHost} {s : Session} {id : Nat} {m' : Manager} {number : PadNumber}
      (named : ¬(slotId = "" ∨ uuid = ""))
      (room : (m.freed o slotId uuid).full slotId uuid = false)
      (stored : (m.claimed o slotId uuid).repo.get uuid = some host)
      (paired : host.paired = true)
      (joining : m.joining o slotId uuid host = (id, m')) (there : m'.objects id = some s)
      (some : (s.seatController slotId storedType source).1 = some number) :
      Bound o m slotId uuid storedType source
        (.some number, (m'.put id (s.seatController slotId storedType source).2).launch o slotId
          uuid storedType source host id number)

variable {host : MoonlightHost} {slotId : String}

theorem joinSession_eq {o : Outside} {storedType : Int}
    {source : SourceCapabilities} {id : Nat} {s : Session}
    (ensured : m.ensureSession host = (id, m')) (there : m'.objects id = some s) :
    m.joinSession o slotId uuid storedType source host =
      let after := m'.put id (s.seatController slotId storedType source).2
      match (s.seatController slotId storedType source).1 with
      | none => (none, { after with bindings := after.bindings.remove slotId })
      | some number =>
        (some number, after.launch o slotId uuid storedType source host id number) := by
  unfold joinSession Session.seatController
  simp only [ensured, there]
  cases s.reannounceController slotId storedType source with
  | mk number first =>
    cases number with
    | some number => rfl
    | none =>
      simp only
      cases first.attachController slotId storedType source with
      | mk number second => cases number <;> rfl

theorem housed_freed (m : Manager) (slotId uuid : String) : Housed m (m.freed o slotId uuid) := by
  unfold freed
  split
  · exact housed_unbindController o m slotId
  · exact (Quiet.refl m).housed

theorem housed_claimed (m : Manager) (slotId uuid : String) : Housed m (m.claimed o slotId uuid) :=
  ((housed_freed o m slotId uuid).trans (housed_bindings _ _)).trans
    (records_claimed o m slotId uuid).quiet.housed

/-- **Everything a bind can come to.** -/
theorem bindController_bound {o : Outside} (hm : m.Roster) (slotId uuid : String)
    (storedType : Int) (source : SourceCapabilities) :
    Bound o m slotId uuid storedType source (m.bindController o slotId uuid storedType source) := by
  unfold bindController
  by_cases named : slotId = "" ∨ uuid = ""
  · rw [if_pos named]
    exact .empty named
  rw [if_neg named]
  show Bound o m slotId uuid storedType source
    ((m.freed o slotId uuid).bindFreed o slotId uuid storedType source)
  unfold bindFreed
  cases full : (m.freed o slotId uuid).full slotId uuid with
  | true => exact .full named full
  | false =>
    show Bound o m slotId uuid storedType source
      ((m.claimed o slotId uuid).joinStored o slotId uuid storedType source)
    unfold joinStored
    cases stored : (m.claimed o slotId uuid).repo.get uuid with
    | none => exact .waiting named full
    | some host =>
      simp only
      cases paired : host.paired with
      | false => exact .waiting named full
      | true =>
        obtain ⟨ensured, filed⟩ :=
          ensureSession_roster ((housed_claimed o m slotId uuid).roster hm) host
        obtain ⟨s, there, -⟩ := ensured.there filed
        rw [joinSession_eq rfl there]
        cases answer : (s.seatController slotId storedType source).1 with
        | none => exact .unnumbered full stored rfl there answer rfl
        | some number => exact .joined named full stored paired rfl there answer

/-! ### Everything an unbind and a forget can come to -/

inductive Unbound (o : Outside) (m : Manager) (slotId : String) : Manager → Prop where
  | unbound (unbound : m.bindings.value slotId = none) : Unbound o m slotId m
  | alone {uuid : String} (bound : m.bindings.value slotId = some uuid)
      (alone : (m.sessions uuid).bind m.objects = none) :
      Unbound o m slotId { m with bindings := m.bindings.remove slotId }
  | left {uuid : String} {id : Nat} {s : Session}
      (bound : m.bindings.value slotId = some uuid) (here : m.sessions uuid = some id)
      (there : m.objects id = some s) (others : (s.detachController slotId).1 ≠ 0) :
      Unbound o m slotId ({ m with bindings := m.bindings.remove slotId }.put id
        (s.detachController slotId).2)
  | last {uuid : String} {id : Nat} {s : Session}
      (bound : m.bindings.value slotId = some uuid) (here : m.sessions uuid = some id)
      (there : m.objects id = some s) (none : (s.detachController slotId).1 = 0) :
      Unbound o m slotId (({ m with bindings := m.bindings.remove slotId }.put id
        (s.detachController slotId).2).withSession id fun s => s.stop o.world true)

theorem unbindController_unbound (m : Manager) (slotId : String) :
    Unbound o m slotId (m.unbindController o slotId) := by
  unfold unbindController
  cases bound : m.bindings.value slotId with
  | none => exact .unbound bound
  | some uuid =>
    simp only
    cases here : m.sessions uuid with
    | none => exact .alone bound (by rw [here]; rfl)
    | some id =>
      simp only
      cases there : m.objects id with
      | none => exact .alone bound (by rw [here]; exact there)
      | some s =>
        simp only
        split
        · rename_i none
          exact .last bound here there none
        · rename_i others
          exact .left bound here there others

/-- The sessions and the bindings after a forget. -/
structure Forgotten (m : Manager) (uuid : String) (m' : Manager) : Prop where
  sessions : m'.sessions = update m.sessions uuid none
  objects : m'.objects = m.objects
  nextSession : m'.nextSession = m.nextSession
  leaving : m'.leaving = m.leaving ++ (m.sessions uuid).toList
  dying : m'.dying = m.dying
  bindings : m'.bindings = (m.bindings.slotsOf uuid).foldl Bindings.remove m.bindings
  out : m'.out = m.out

theorem forget_forgotten (m : Manager) (named : uuid ≠ "") : Forgotten m uuid (m.forget uuid) := by
  unfold forget
  rw [if_neg named]
  unfold dropRecordsFor cancelPairingWith
  simp only
  split <;> split <;> exact ⟨rfl, rfl, rfl, rfl, rfl, rfl, rfl⟩

theorem Forgotten.roster (h : Forgotten m uuid m') (hm : m.Roster) : m'.Roster := by
  have housing : m'.housing = m.housing := by
    funext id
    rw [housing, housing, h.objects]
  have here : ∀ other id, m'.sessions other = some id →
      other ≠ uuid ∧ m.sessions other = some id := by
    intro other id filed
    rw [h.sessions, update_apply] at filed
    split at filed
    · cases filed
    · exact ⟨‹_›, filed⟩
  refine ⟨hm.toTidy.same h.objects h.nextSession (h.out ▸ List.Subset.refl _), ?_, ?_⟩
  · intro other id filed
    rw [housing]
    exact hm.known other id (here other id filed).2
  · rw [h.leaving, h.dying, h.nextSession]
    intro id gone
    by_cases mine : m.sessions uuid = some id
    · obtain ⟨host, housed, -⟩ := hm.known uuid id mine
      refine ⟨hm.below id host housed, ?_⟩
      intro other filed
      obtain ⟨ne, old⟩ := here other id filed
      exact ne (hm.injective old mine)
    · have before : id ∈ m.leaving ∨ id ∈ m.dying := by
        rcases gone with gone | gone
        · rcases List.mem_append.mp gone with gone | gone
          · exact .inl gone
          · exact absurd (Option.mem_toList.mp gone) mine
        · exact .inr gone
      obtain ⟨below, out⟩ := hm.retired id before
      exact ⟨below, fun other filed => out other (here other id filed).2⟩

theorem roster_leave (hm : m.Roster) (id : Nat) : (m.leave o id).Roster := by
  unfold leave
  split
  · exact hm
  · rename_i leaving
    have leaving : id ∈ m.leaving := not_not.mp leaving
    have stopped := quiet_withSession m id fun s => s.stop_plays o.world true
    have roster := stopped.housed.roster hm
    refine ⟨roster.toTidy.same rfl rfl (List.Subset.refl _), roster.known, ?_⟩
    intro other gone
    apply roster.retired other
    rcases gone with gone | gone
    · exact .inl (List.mem_of_mem_erase gone)
    · rcases List.mem_cons.mp gone with same | gone
      · rw [stopped.leaving, same]
        exact .inl leaving
      · exact .inr gone

theorem roster_delete (hm : m.Roster) (id : Nat) : (m.delete id).Roster := by
  unfold delete
  split
  · exact hm
  · rename_i dying
    have dying : id ∈ m.dying := not_not.mp dying
    have housing : ∀ other host, Manager.housing
        { m with objects := update m.objects id none } other = some host →
          m.housing other = some host := by
      intro other host housed
      unfold Manager.housing at housed ⊢
      simp only [update_apply] at housed
      split at housed
      · cases housed
      · exact housed
    refine ⟨⟨?_, ?_, ?_⟩, ?_, hm.retired⟩
    · intro other s there
      simp only [update_apply] at there
      split at there
      · cases there
      · exact hm.clean other s there
    · intro other host housed
      exact hm.below other host (housing other host housed)
    · intro entry sent
      obtain ⟨below, goes⟩ := hm.posted entry sent
      exact ⟨below, fun host housed => goes host (housing entry.1 host housed)⟩
    · intro uuid other filed
      obtain ⟨host, housed, name⟩ := hm.known uuid other filed
      refine ⟨host, ?_, name⟩
      have kept : other ≠ id := by
        intro same
        subst same
        exact (hm.retired other (.inr dying)).2 uuid filed
      unfold Manager.housing at housed ⊢
      simp only [update_of_ne kept]
      exact housed

theorem frame_launch (m : Manager) (slotId uuid : String) (storedType : Int)
    (source : SourceCapabilities) (host : MoonlightHost) (id : Nat) (number : PadNumber) :
    Frame m (m.launch o slotId uuid storedType source host id number) :=
  (quiet_readMotionSwitch o m slotId).toFrame.trans
    ((quiet_readTouchpadPick o _ id number uuid storedType source).toFrame.trans
      (frame_ensureSessionRunning o _ id host))

theorem joining_roster {o : Outside} {id : Nat}
    (hm : m.Roster) (stored : (m.claimed o slotId uuid).repo.get uuid = some host)
    (joining : m.joining o slotId uuid host = (id, m')) :
    m'.Roster ∧ m'.sessions uuid = some id := by
  have name : host.uuid = uuid := MoonlightHostRepository.load_filed _ uuid host stored
  obtain ⟨roster, filed⟩ := ensureSession_roster ((housed_claimed o m slotId uuid).roster hm) host
  rw [name] at filed
  unfold Manager.joining at joining
  rw [joining] at roster filed
  exact ⟨roster, filed⟩

theorem roster_bindController (hm : m.Roster) (slotId uuid : String) (storedType : Int)
    (source : SourceCapabilities) :
    (m.bindController o slotId uuid storedType source).2.Roster := by
  have seated : ∀ {m' : Manager} {id : Nat} {s : Session}, m'.Roster → m'.objects id = some s →
      (m'.put id (s.seatController slotId storedType source).2).Roster := by
    intro m' id s roster there
    exact (housed_put _ there (s.aside_seatController slotId storedType source).abides).roster roster
  have bound := bindController_bound (o := o) hm slotId uuid storedType source
  generalize m.bindController o slotId uuid storedType source = result at bound
  cases bound with
  | empty => exact hm
  | full => exact (housed_freed o m slotId uuid).roster hm
  | waiting => exact (housed_claimed o m slotId uuid).roster hm
  | unnumbered room stored joining there none put =>
    subst put
    exact (housed_bindings _ _).roster (seated (joining_roster hm stored joining).1 there)
  | joined named room stored paired joining there =>
    exact (frame_launch o _ _ _ _ _ _ _ _).housed.roster
      (seated (joining_roster hm stored joining).1 there)

/-- **Every act keeps the table of the sessions in order.** -/
theorem roster_act (hm : m.Roster) (act : ManagerAct) : (m.act o act).Roster := by
  cases seats : act.seats with
  | false => exact (quiet_act o m seats).housed.roster hm
  | true =>
    cases act with
    | bindController slotId uuid storedType source =>
      exact roster_bindController o hm slotId uuid storedType source
    | unbindController slotId => exact (housed_unbindController o m slotId).roster hm
    | forget uuid =>
      by_cases named : uuid = ""
      · subst named
        exact hm
      · exact (m.forget_forgotten named).roster hm
    | leave id => exact roster_leave o hm id
    | delete id => exact roster_delete hm id
    | _ => cases seats

theorem Roster.cleared (hm : m.Roster) : Roster { m with out := [] } :=
  ⟨hm.toTidy.same rfl rfl (List.nil_subset _), hm.known, hm.retired⟩

theorem roster_step (hm : m.Roster) (act : Outside × ManagerAct) : (m.step act).Roster := by
  exact roster_act act.1 hm.cleared act.2

theorem roster_init (repo : MoonlightHostRepository) : Roster { repo := repo } := by
  refine ⟨⟨?_, ?_, ?_⟩, ?_, ?_⟩
  · intro id s there
    simp at there
  · intro id host housed
    simp [housing] at housed
  · intro entry sent
    simp at sent
  · intro uuid id filed
    simp at filed
  · intro id gone
    simp at gone

end Manager

end Dish.Moonlight
