/-
Protocol versions offered again after a refusal.

A 409 that leaves a common version lowers the connection's offer to the satellite's ceiling and arms
a retry.  The answer alone decides: the offer that was refused is not looked at, and the retry is for
silent attempts only.  Nothing else writes the offer.  Where each such ceiling is below the refused
offer, the attempt is silent and the satellite can be dialled again, every refusal lowers the offer
within the range of versions spoken here, and the retry it arms sends the lower offer when it comes
due.
-/
import Dish.Proofs.Addressed
import Dish.Proofs.Connecting

namespace Dish

open Steps WifiConnection

theorem SessionResponse.settled_of_asksLower {resp : SessionResponse}
    (lower : resp.asksLower = true) :
    (settleRejected resp.supportedProtocol resp.supportedProtocolMin).2 =
        min resp.supportedProtocol kProtocolVersion ∧
      kProtocolVersionMin ≤ resp.supportedProtocol := by
  have lower := of_decide_eq_true lower
  unfold settleRejected at lower ⊢
  split_ifs at lower ⊢ with unusable ours theirs
  exact ⟨rfl, Nat.not_lt.mp theirs⟩

/-- The connection of a satellite is dropped from the pool. -/
def ManagerAction.forgets (id : SatelliteId) : ManagerAction → Bool
  | .forget other => other = id
  | _ => false

namespace Manager

variable {id : SatelliteId} {s s' : Manager} {a : ManagerAction} {r : VersionRefusal}

/-! ### The offer -/

/-- The version a session PUT of the connection offers. -/
def offer (s : Manager) (id : SatelliteId) : Option Nat :=
  (s.conn? id).map fun p => p.conn.sessionBody.protocolVersion

/-- A connection that was there is there still, with the same offer. -/
def OfferKept (id : SatelliteId) (s s' : Manager) : Prop :=
  ∀ v, s.offer id = some v → s'.offer id = some v

theorem OfferKept.of_lookup (same : s'.conn? id = s.conn? id) : OfferKept id s s' := by
  intro v offered
  rw [offer, same]
  exact offered

theorem OfferKept.modify {other : SatelliteId} {f : Pooled → Pooled}
    (keeps : other = id → ∀ p, s.conn? id = some p →
      (f p).conn.offeredProtocolVersion = p.conn.offeredProtocolVersion) :
    OfferKept id s { s with connections := s.connections.modify other f } := by
  intro v offered
  obtain ⟨p, there, is⟩ := Option.map_eq_some_iff.mp offered
  have found : Manager.conn? { s with connections := s.connections.modify other f } id =
      some (if id = other then f p else p) := by
    rw [conn?, Pool.lookup_modify]
    exact congrArg _ there
  rw [offer, found, Option.map_some, ← is]
  split
  · next same => exact congrArg some (keeps same.symm p there)
  · rfl

theorem offerKept (id : SatelliteId) : StepClosed False (· = id) (OfferKept id) where
  refl _ _ h := h
  trans h h' v offered := h' v (h v offered)
  given h := h False.elim
  note h := by
    simp only [books, Prod.mk.injEq] at h
    exact .of_lookup (congrArg (AList.lookup id) h.1)
  make s server := by
    unfold ensureConnection
    split
    · exact .of_lookup rfl
    · next fresh =>
        by_cases new : id = server.id
        · intro v offered
          rw [offer, new, fresh] at offered
          cases offered
        · exact .of_lookup (AList.lookup_insert_ne new)
  conn h := .modify fun same p there => (h p (same ▸ there)).2.2 same
  send _ _ _ := .of_lookup rfl
  link _ := .modify fun _ p _ => p.conn.offered_markConnecting
  ask _ _ _ := .of_lookup rfl
  start _ _ _ h := .modify fun _ p _ => h p.conn
  write h _ := .of_lookup (congrArg (AList.lookup id) h)
  drop _ _ := .of_lookup rfl
  check s k presented := by
    unfold handshake
    split <;> exact .of_lookup rfl
  approve _ _ := .of_lookup rfl
  erase s other kept := .of_lookup (AList.lookup_erase_ne fun same => kept same.symm)

/-! ### A refusal -/

/-- A 409 that asks for a lower offer is handled by `onSessionVersionRefused`, with a connection id in
the answer or without. -/
theorem onSessionReply_refused {p : Pooled} {sentOn : Nat} {server : DiscoveredServer}
    {intent : ConnectIntent} {resp : SessionResponse} {pinMismatch : Bool}
    (target : s.replyTarget id sentOn = some p) (linking : p.conn.state = .linking)
    (version : classifyRest resp pinMismatch = .versionMismatch) (sentSlots : List DesiredSlot)
    (derived : BitVec 256) (socketOpened : Bool) :
    s.onSessionReply id sentOn server intent sentSlots resp derived socketOpened pinMismatch =
      s.onSessionVersionRefused id server intent resp := by
  unfold onSessionReply
  rw [target]
  simp only [linking, version, onSessionRefused, ne_eq, not_true_eq_false, if_false, reduceCtorEq,
    not_false_eq_true, true_or, if_true]
  split <;> rfl

/-- The callback of the refused PUT runs on the connection it was sent on. -/
theorem step_refusal (refused : s.refusal id a = some r) :
    ∃ k x p, s.net[k]? = some x ∧ x.request.satellite = id ∧ x.request.server = r.server ∧
      s.conn? id = some p ∧ r.resp.asksLower = true ∧
      s.step a = (s.popped k).onSessionVersionRefused id r.server r.intent r.resp := by
  cases a with
  | reply k answer =>
    cases answered : s.answered (.reply k answer) with
    | none => simp [refusal, answered] at refused
    | some x =>
      obtain ⟨there, -, does⟩ := step_reply answered
      obtain ⟨serial, request, tls⟩ := x
      rw [refusal, answered, Option.bind_some] at refused
      split at refused
      · next about =>
          dsimp only at about refused does
          cases request with
          | session other sentOn server intent key body =>
            cases answer with
            | session resp derived socketOpened =>
              obtain rfl : other = id := about
              rw [refusedBy] at refused
              split at refused
              · next asks =>
                  cases refused
                  obtain ⟨linking, version, lower⟩ := asks
                  obtain ⟨p, target, linking⟩ := (Option.any_eq_true _ _).mp linking
                  refine ⟨k, _, p, there, rfl, rfl, (Option.filter_eq_some_iff.mp target).1, lower,
                    does.trans ?_⟩
                  exact onSessionReply_refused (s := s.popped k) target (of_decide_eq_true linking)
                    version ..
              · cases refused
            | _ => cases refused
          | _ => cases refused
      · cases refused
  | _ => cases refused

/-! ### What a refusal leads to -/

/-- A silent attempt would dial the satellite, and with a key. -/
def Redials (s : Manager) (id : SatelliteId) (server : DiscoveredServer) : Prop :=
  id ∉ s.heldByUser ∧ (s.credentialsFor id).isSome = true ∧
    addressRefusal ((s.store.satellites.get id).getD server) = none

/-- The retry is current and its connection still down: nothing but time has passed. -/
structure Waits (s : Manager) (id : SatelliteId) (retry : Retry) : Prop where
  target : retry.id = id ∧ retry.server.id = id
  current : s.retryGeneration id = retry.generation
  settled : s.stateOf id = some .idle ∨ s.stateOf id = some .stale
  redials : s.Redials id retry.server

/-- A silent attempt at a connection that is down, with a key on file, sends its session PUT. -/
theorem sent_connectTo {server : DiscoveredServer} {intent : ConnectIntent} {p : Pooled}
    {key : String} (silent : intent ≠ .userInitiated) (dialled : addressRefusal server = none)
    (free : server.id ∉ s.heldByUser) (pooled : s.conn? server.id = some p)
    (down : ¬ (s.stateOf server.id = some .live ∨ s.stateOf server.id = some .linking))
    (keyed : s.credentialsFor server.id = some key) :
    (s.connectTo server intent).sent = s.sent ++ [.session server.id p.ref server intent key
      (p.conn.updateServer server).markConnecting.sessionBody] := by
  have there : s.ensureConnection server = s := by
    unfold ensureConnection
    rw [pooled]
  have linked : ((s.onConn server.id (·.updateServer server)).onConn server.id
      markConnecting).conn? server.id =
        some { p with conn := (p.conn.updateServer server).markConnecting } :=
    conn?_onConn_self _ (conn?_onConn_self _ pooled)
  have keyed' : ((s.onConn server.id (·.updateServer server)).onConn server.id
      markConnecting).credentialsFor server.id = some key := keyed
  unfold connectTo
  rw [dialled]
  simp only [free, silent, and_false, if_false, there, down]
  unfold dial openSession
  simp only [keyed', Option.isSome_some, if_true, linked]
  rfl

theorem onRetryDue_of_current {retry : Retry}
    (current : s.retryGeneration retry.id = retry.generation)
    (settled : s.stateOf retry.id = some .idle ∨ s.stateOf retry.id = some .stale) :
    s.onRetryDue retry = s.startDiscovery.connectTo
      ((s.store.satellites.get retry.id).getD retry.server) .retryAfterDeath := by
  unfold onRetryDue
  rw [if_neg (not_not.mpr current), if_pos settled]

/-- **A retry that waits sends the offer.** -/
theorem reoffer_of_waits {k : Nat} {retry : Retry} (armed : s.retries[k]? = some retry)
    (waits : s.Waits id retry) :
    ∃ ref server key body,
      (s.step (.retryDue k)).sent = s.sent ++ [.session id ref server .retryAfterDeath key body] ∧
        s.offer id = some body.protocolVersion := by
  obtain ⟨⟨rfl, serverId⟩, current, settled, free, keyed, dialled⟩ := waits
  obtain ⟨key, keyed⟩ := Option.isSome_iff_exists.mp keyed
  obtain ⟨p, pooled⟩ : ∃ p, s.conn? retry.id = some p := by
    unfold stateOf at settled
    cases found : s.conn? retry.id with
    | none => simp [found] at settled
    | some p => exact ⟨p, rfl⟩
  have down : ¬ (s.stateOf retry.id = some .live ∨ s.stateOf retry.id = some .linking) := by
    rcases settled with is | is <;> rw [is] <;> decide
  -- The row on file is the satellite's own, as the server the retry was armed with is.
  generalize row : (s.store.satellites.get retry.id).getD retry.server = server at dialled
  have isServer : retry.id = server.id := by
    rw [← row]
    cases found : s.store.satellites.get retry.id with
    | none => exact serverId.symm
    | some remembered =>
      have named : remembered.id = retry.id := by simpa using List.find?_some found
      exact named.symm
  refine ⟨p.ref, server, key, (p.conn.updateServer server).markConnecting.sessionBody, ?_, ?_⟩
  · have due : s.step (.retryDue k) =
        ({ s with retries := s.retries.eraseIdx k } : Manager).startDiscovery.connectTo server
          .retryAfterDeath := by
      unfold step
      dsimp only
      rw [armed, ← row]
      exact onRetryDue_of_current current settled
    rw [due]
    rw [isServer] at free pooled down keyed ⊢
    exact sent_connectTo (s := ({ s with retries := s.retries.eraseIdx k } : Manager).startDiscovery)
      (by decide) dialled free pooled down keyed
  · rw [offer, pooled, Option.map_some]
    exact congrArg some (offered_markConnecting (p.conn.updateServer server)).symm

/-- The refusal is one the code answers rightly: the ceiling is below the refused offer and the one
that stands, the attempt is silent, and the satellite can be dialled again. -/
def FromAbove (s : Manager) (id : SatelliteId) (r : VersionRefusal) : Prop :=
  r.resp.supportedProtocol < r.body.protocolVersion ∧
    (∀ v ∈ s.offer id, r.resp.supportedProtocol < v) ∧ r.intent ≠ .userInitiated ∧
    s.Redials id r.server

/-- A refusal lowers the offer, below the refused one, within the versions spoken here; and it leaves
a retry that waits, which sends the offer that stands whenever it comes due and waits still. -/
structure Reoffers (s : Manager) (id : SatelliteId) (a : ManagerAction) (r : VersionRefusal) :
    Prop where
  lower : ∃ old new, s.offer id = some old ∧ (s.step a).offer id = some new ∧
    kProtocolVersionMin ≤ new ∧ new < old ∧ new < r.body.protocolVersion
  retry : ∃ retry, (s.step a).retries = s.retries ++ [retry] ∧ (s.step a).Waits id retry ∧
    ∀ (t : Manager) k, t.retries[k]? = some retry → t.Waits id retry →
      ∃ ref server key body,
        (t.step (.retryDue k)).sent =
            t.sent ++ [.session id ref server .retryAfterDeath key body] ∧
          t.offer id = some body.protocolVersion

/-- The offer is lowered, the connection parked, and a retry armed for the satellite. -/
theorem versionRefused_silent (server : DiscoveredServer) {p : Pooled} {intent : ConnectIntent}
    {resp : SessionResponse} (pooled : s.conn? id = some p) (lower : resp.asksLower = true)
    (silent : intent ≠ .userInitiated) :
    let t := s.onSessionVersionRefused id server intent resp
    t.conn? id = some { p with conn := (p.conn.setOfferedProtocolVersion
        (min resp.supportedProtocol kProtocolVersion)).markStale } ∧
      t.heldByUser = s.heldByUser ∧ t.store = s.store ∧
      t.retryGeneration = s.retryGeneration ∧ ∃ delay, t.retries =
        s.retries ++ [⟨server.id, server, s.retryGeneration server.id, delay⟩] := by
  unfold onSessionVersionRefused
  dsimp only
  rw [if_pos (of_decide_eq_true lower), (SessionResponse.settled_of_asksLower lower).1,
    scheduleRetry, if_neg silent]
  exact ⟨conn?_onConn_self _ (conn?_onConn_self _ pooled), rfl, rfl, rfl, _, rfl⟩

theorem reoffers_of_refusal (addressed : s.Addressed) (refused : s.refusal id a = some r)
    (above : s.FromAbove id r) : s.Reoffers id a r := by
  obtain ⟨k, x, p, out, isId, isServer, pooled, lower, does⟩ := step_refusal refused
  obtain ⟨belowRefused, belowOffer, silent, free, keyed, dialled⟩ := above
  obtain ⟨after, held, store, generation, delay, retries⟩ :=
    versionRefused_silent (s := s.popped k) r.server pooled lower silent
  rw [← does] at after held store generation retries
  have least := (SessionResponse.settled_of_asksLower lower).2
  have serverId : r.server.id = id := by
    rw [← isServer, ← isId]
    exact addressed.requests x (List.mem_of_getElem? out)
  have offered : s.offer id = some p.conn.offeredProtocolVersion := by
    rw [offer, pooled]
    rfl
  have below := belowOffer _ offered
  refine ⟨⟨_, min r.resp.supportedProtocol kProtocolVersion, offered, ?_, ?_, ?_, ?_⟩,
    _, retries, ⟨⟨serverId, serverId⟩, ?_, ?_, ?_, ?_, ?_⟩, fun t k => reoffer_of_waits⟩
  · rw [offer, after, Option.map_some]
    exact congrArg some (offered_markStale _)
  · exact le_min least (by decide)
  · exact Nat.lt_of_le_of_lt (Nat.min_le_left ..) below
  · exact Nat.lt_of_le_of_lt (Nat.min_le_left ..) belowRefused
  · rw [generation, serverId]
  · right
    rw [stateOf, after]
    exact congrArg some (state_markStale _)
  · rw [held]
    exact free
  · rw [credentialsFor, store]
    exact keyed
  · rw [store]
    exact dialled

/-! ### Whole runs -/

/-- The connection is not forgotten, and a refusal comes from above. -/
def Obliges (id : SatelliteId) (s : Manager) (a : ManagerAction) : Prop :=
  a.forgets id = false ∧ ∀ r ∈ s.refusal id a, s.FromAbove id r

/-- The offer is in the range of versions spoken here, and requests go where they should. -/
def OffersSpoken (id : SatelliteId) (s : Manager) : Prop :=
  s.Addressed ∧ ∃ v, s.offer id = some v ∧ kProtocolVersionMin ≤ v ∧ v ≤ kProtocolVersion

theorem offer_step (kept : a.forgets id = false) (none : s.refusal id a = none) :
    OfferKept id s (s.step a) := by
  refine (offerKept id).step s ?_ ?_
  · rintro other rfl rfl
    simp [ManagerAction.forgets] at kept
  · rintro other rfl
    exact none

theorem offersSpoken_step (spoken : OffersSpoken id s) (ok : Obliges id s a) :
    OffersSpoken id (s.step a) := by
  obtain ⟨addressed, v, offered, least, most⟩ := spoken
  refine ⟨addressed_step addressed a, ?_⟩
  cases refused : s.refusal id a with
  | none => exact ⟨v, offer_step ok.1 refused v offered, least, most⟩
  | some r =>
    obtain ⟨old, new, was, now, least, less, _⟩ :=
      (reoffers_of_refusal addressed refused (ok.2 r refused)).lower
    cases offered.symm.trans was
    exact ⟨new, now, least, by omega⟩

end Manager

open Manager

instance (s : Manager) (id : SatelliteId) (r : VersionRefusal) : Decidable (s.FromAbove id r) :=
  inferInstanceAs (Decidable (_ ∧ _ ∧ _ ∧ _ ∧ _ ∧ _))

instance (id : SatelliteId) (s : Manager) (a : ManagerAction) : Decidable (Obliges id s a) :=
  inferInstanceAs (Decidable (_ ∧ _))

/-- The satellite refuses the version, and speaks those from 1 to a ceiling. -/
def versionRefused (ceiling : Nat) : HttpAnswer :=
  .session
    { httpStatus := 409, reachable := true, supportedProtocol := ceiling, supportedProtocolMin := 1 }
    0 false

/-- Two answers to silent attempts, with ceilings of 2 and of 1, and the retry between them. -/
def refusedTwice : List ManagerAction :=
  answering 0 (versionRefused 2) ++ [.retryDue 0] ++ answering 0 (versionRefused 1)

end Dish
