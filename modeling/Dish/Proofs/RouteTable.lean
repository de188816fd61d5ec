/-
No reader uses a route table that has been freed.

`Lib/GraceEpoch.lean` has the argument for one participant; here it is put together for
the whole of `republish`.  The publisher goes through the participants in order, and what
it knows is carried by its position (`PublisherOk`): both addresses name the new table,
and no bracket on a participant it has passed holds the old one.  At the end no bracket
holds it at all, and none ever will again (`Gone`).

A device has a thread of its own and so has a mic sender, so their brackets cannot
overlap.  A session's participant is shared by every client its connection has had, and
there the condition is needed (`OneAtATime`).
-/
import Dish.SlotRouter

namespace Dish

open Steps

namespace Routes

open GraceEpoch (Past Awaits Keeps)

variable {p : Nat} {g : GraceEpoch.State RouteReader Nat (Option Nat)}

/-- A receive thread opens a bracket only while no other client of its connection is in one. -/
def OneAtATime (s : Routes) : RouteAction → Prop
  | .enter (.client c) =>
    ∀ p ∈ s.participantOf (.client c), ∀ d < s.clients.length, d ≠ c →
      (s.grace.bracket (.client d)).map Prod.fst ≠ some p
  | _ => True

instance (s : Routes) (a : RouteAction) : Decidable (s.OneAtATime a) := by
  unfold OneAtATime
  split <;> infer_instance

/-! ### The invariant -/

/-- The participants a reader may be found on. -/
def Owns : RouteReader → Nat → Prop
  | .device i, p => p = i ∧ i < kDeviceParticipants
  | .client _, p => kDeviceParticipants ≤ p ∧ p < kRouteParticipants
  | .mic i, p => p = kRouteParticipants + i ∧ i < kMicSenders

/-- The table is out of every reader's reach. -/
structure Gone (s : Routes) (table : Nat) : Prop where
  pointer : ∀ p, s.grace.pointer p ≠ some table
  past : ∀ p, Past s.grace (some table) p

/-- Both addresses name the published table, and `retired` is another. -/
structure Swapped (s : Routes) (retired : Option Nat) : Prop where
  pointer : ∀ p, s.grace.pointer p = s.published
  other : s.published ≠ retired
  built : ∀ v ∈ retired, v < s.built

/-- A table that has been built and is named nowhere yet. -/
structure Unseen (s : Routes) (next : Nat) : Prop where
  built : next < s.built
  published : s.published ≠ some next
  freed : next ∉ s.freed

/-- What the position of the publisher says. -/
def PublisherOk (s : Routes) : Publisher → Prop
  | .idle => ∀ p, s.grace.pointer p = s.published
  | .storing next => s.Unseen next ∧ ∀ p, s.grace.pointer p = s.published
  | .storingMics next =>
    s.Unseen next ∧ (∀ p < kRouteParticipants, s.grace.pointer p = some next) ∧
      ∀ p, kRouteParticipants ≤ p → s.grace.pointer p = s.published
  | .loading q retired =>
    s.Swapped retired ∧ q < kParticipants ∧ ∀ p < q, Past s.grace retired p
  | .waiting q seen retired =>
    s.Swapped retired ∧ q < kParticipants ∧ (∀ p < q, Past s.grace retired p) ∧
      Awaits s.grace retired q seen
  | .freeing retired => s.Swapped retired ∧ ∀ p, Past s.grace retired p

structure Inv (s : Routes) : Prop where
  grace : GraceEpoch.Inv s.grace
  owns : ∀ r p, GraceEpoch.Open s.grace r p → Owns r p
  known : ∀ c p, GraceEpoch.Open s.grace (.client c) p → c < s.clients.length
  clients : ∀ k ∈ s.clients, ∀ p ∈ k.participant, kDeviceParticipants ≤ p ∧ p < kRouteParticipants
  sessions : s.sessionParticipants.length ≤ kSessionParticipants
  published : ∀ v ∈ s.published, v < s.built
  freed : ∀ v ∈ s.freed, v < s.built ∧ s.Gone v
  publisher : s.PublisherOk s.publisher

variable {s : Routes}

section
variable (h : s.Inv)
include h

theorem Inv.past_of_le (hp : kParticipants ≤ p) (v : Option Nat) :
    Past s.grace v p := by
  intro r b hb
  have hown := h.owns r p ⟨b, hb⟩
  unfold kParticipants at hp
  cases r <;> simp only [Owns, kRouteParticipants] at hown hp <;> omega

theorem Inv.owns_of_participantOf {r : RouteReader} (hp : s.participantOf r = some p) :
    Owns r p := by
  cases r with
  | device =>
    simp only [participantOf] at hp
    split at hp
    · next hi => exact ⟨(Option.some_inj.mp hp).symm, hi⟩
    · simp at hp
  | client =>
    simp only [participantOf] at hp
    split at hp
    · next client hc =>
      split at hp
      · exact h.clients client (List.mem_of_getElem? hc) p hp
      · simp at hp
    · simp at hp
  | mic =>
    simp only [participantOf] at hp
    split at hp
    · next hi => exact ⟨(Option.some_inj.mp hp).symm, hi.1⟩
    · simp at hp

/-! ### The readers -/

omit h in
theorem PublisherOk.keep {pc : Publisher} (hk : Keeps s.grace g) (h : s.PublisherOk pc) :
    PublisherOk { s with grace := g } pc := by
  have hpast : ∀ retired p, s.Swapped retired → Past s.grace retired p → Past g retired p :=
    fun retired p hs => hk.past retired p fun he => hs.other (hs.pointer p ▸ he)
  have hswap : ∀ retired, s.Swapped retired → Swapped { s with grace := g } retired :=
    fun retired hs => ⟨fun p => by rw [hk.pointer]; exact hs.pointer p, hs.other, hs.built⟩
  have hunseen : ∀ next, s.Unseen next → Unseen { s with grace := g } next :=
    fun next hu => ⟨hu.built, hu.published, hu.freed⟩
  cases pc with
  | idle => exact fun p => by rw [hk.pointer]; exact h p
  | storing next => exact ⟨hunseen next h.1, fun p => by rw [hk.pointer]; exact h.2 p⟩
  | storingMics next =>
    exact ⟨hunseen next h.1, fun p hp => by rw [hk.pointer]; exact h.2.1 p hp,
      fun p hp => by rw [hk.pointer]; exact h.2.2 p hp⟩
  | loading q retired =>
    exact ⟨hswap retired h.1, h.2.1, fun p hp => hpast retired p h.1 (h.2.2 p hp)⟩
  | waiting q seen retired =>
    obtain ⟨hs, hq, hbefore, hawaits⟩ := h
    exact ⟨hswap retired hs, hq, fun p hp => hpast retired p hs (hbefore p hp),
      hk.awaits retired q seen (fun he => hs.other (hs.pointer q ▸ he)) hawaits⟩
  | freeing retired => exact ⟨hswap retired h.1, fun p => hpast retired p h.1 (h.2 p)⟩

/-- What the readers do leaves what the publisher knows. -/
theorem Inv.keep (hk : Keeps s.grace g)
    (howns : ∀ r p, GraceEpoch.Open g r p → Owns r p)
    (hknown : ∀ c p, GraceEpoch.Open g (.client c) p → c < s.clients.length) :
    Inv { s with grace := g } := by
  refine ⟨hk.inv, howns, hknown, h.clients, h.sessions, h.published, fun v hv => ?_, ?_⟩
  · obtain ⟨hlt, hgone⟩ := h.freed v hv
    exact ⟨hlt, fun p => by rw [hk.pointer]; exact hgone.pointer p,
      fun p => hk.past _ p (hgone.pointer p) (hgone.past p)⟩
  · exact h.publisher.keep hk

/-- A step inside a bracket or out of it opens none. -/
theorem Inv.keep_of_open (hk : Keeps s.grace g)
    (hopen : ∀ r p, GraceEpoch.Open g r p → GraceEpoch.Open s.grace r p) :
    Inv { s with grace := g } :=
  h.keep hk (fun r p hr => h.owns r p (hopen r p hr)) fun c p hc => h.known c p (hopen _ p hc)

/-- Nobody else is on the participant of a reader that opens a bracket. -/
theorem Inv.alone {r : RouteReader} (hp : s.participantOf r = some p)
    (hone : s.OneAtATime (.enter r)) (hr : s.grace.bracket r = none) (u : RouteReader) :
    ¬ GraceEpoch.Open s.grace u p := by
  intro hu
  have hur : u ≠ r := by
    rintro rfl
    obtain ⟨b, hb⟩ := hu
    simp [hr] at hb
  have hmine := h.owns_of_participantOf hp
  have hown := h.owns u p hu
  cases r <;> cases u <;> simp only [Owns, kRouteParticipants] at hmine hown
  case client.client c d =>
    obtain ⟨b, hb⟩ := hu
    exact hone p hp d (h.known d p ⟨b, hb⟩) (by simpa using hur) (by rw [hb]; rfl)
  case device.device i j => exact hur (by rw [← hown.1, ← hmine.1])
  case mic.mic i j => exact hur (by congr 1; omega)
  all_goals omega

theorem Inv.step_enter (r : RouteReader) (hone : s.OneAtATime (.enter r)) :
    (s.step (.enter r)).Inv := by
  simp only [step]
  split
  · next p hp =>
    have hk := h.grace.keeps_enter (show 2 ^ 64 % 2 = 0 by decide) (h.alone hp hone)
    refine h.keep hk (fun u q hu => ?_) fun c q hc => ?_
    · rcases GraceEpoch.open_enter hu with hu | ⟨rfl, rfl⟩
      · exact h.owns u q hu
      · exact h.owns_of_participantOf hp
    · rcases GraceEpoch.open_enter hc with hc | ⟨rfl, rfl⟩
      · exact h.known c q hc
      · by_contra hlen
        simp [participantOf, List.getElem?_eq_none (Nat.le_of_not_lt hlen)] at hp
  · exact h

/-! ### Sessions, clients and mic senders -/

omit h in
theorem length_installFeedbackHandlers {ids : List SatelliteId} (id : SatelliteId)
    (h : ids.length ≤ kSessionParticipants) :
    (installFeedbackHandlers ids id).1.length ≤ kSessionParticipants := by
  unfold installFeedbackHandlers
  split
  · exact h
  · split
    · exact h
    · next hlt =>
      simp only [List.length_append, List.length_singleton]
      omega

theorem Inv.withClients {ids : List SatelliteId} {clients : List RouteClient}
    {taken : Nat → Bool} (hids : ids.length ≤ kSessionParticipants)
    (hlen : s.clients.length ≤ clients.length)
    (hclients : ∀ k ∈ clients, ∀ p ∈ k.participant,
      kDeviceParticipants ≤ p ∧ p < kRouteParticipants) :
    Inv { s with sessionParticipants := ids, clients := clients, taken := taken } := by
  refine ⟨h.grace, h.owns, fun c p hc => Nat.lt_of_lt_of_le (h.known c p hc) hlen, hclients, hids,
    h.published, fun v hv => ⟨(h.freed v hv).1, ⟨(h.freed v hv).2.pointer, (h.freed v hv).2.past⟩⟩,
    ?_⟩
  have hpub := h.publisher
  cases hpc : s.publisher <;> rw [hpc] at hpub
  case idle => exact hpub
  case storing => exact ⟨⟨hpub.1.built, hpub.1.published, hpub.1.freed⟩, hpub.2⟩
  case storingMics => exact ⟨⟨hpub.1.built, hpub.1.published, hpub.1.freed⟩, hpub.2⟩
  all_goals exact ⟨⟨hpub.1.pointer, hpub.1.other, hpub.1.built⟩, hpub.2⟩

theorem Inv.step_connected (id : SatelliteId) : (s.step (.connected id)).Inv := by
  refine h.withClients h.sessions (by simp) fun k hk p hp => ?_
  rcases List.mem_append.mp hk with hk | hk
  · exact h.clients k hk p hp
  · obtain rfl := List.mem_singleton.mp hk
    simp only [Option.mem_def, Option.map_eq_some_iff] at hp
    obtain ⟨i, hi, rfl⟩ := hp
    have hlt : i < s.sessionParticipants.length := by
      rw [List.idxOf?_eq_some_iff] at hi
      exact hi.1
    have := h.sessions
    simp only [kRouteParticipants]
    omega

theorem Inv.step_closed (c : Nat) : (s.step (.closed c)).Inv := by
  simp only [step]
  split
  · refine h.withClients h.sessions (by simp) fun k hk p hp => ?_
    obtain ⟨i, hi⟩ := List.mem_iff_getElem?.mp hk
    rw [List.getElem?_modify] at hi
    obtain ⟨k', hk', rfl⟩ := Option.map_eq_some_iff.mp hi
    refine h.clients k' (List.mem_of_getElem? hk') p ?_
    split at hp <;> exact hp
  · exact h

/-! ### The publisher -/

omit h in
/-- The publisher goes past a participant on which no bracket holds the old table. -/
theorem PublisherOk.next {q : Nat} {retired : Option Nat} (h : s.Inv) (hs : s.Swapped retired)
    (hq : q < kParticipants) (hbefore : ∀ p < q, Past s.grace retired p)
    (hpast : Past s.grace retired q) : s.PublisherOk (nextParticipant q retired) := by
  have hupto : ∀ p < q + 1, Past s.grace retired p := fun p hp => by
    rcases Nat.lt_succ_iff_lt_or_eq.mp hp with hp | rfl
    · exact hbefore p hp
    · exact hpast
  unfold nextParticipant
  split
  · next hlt => exact ⟨hs, hlt, hupto⟩
  · next hend =>
    refine ⟨hs, fun p => ?_⟩
    rcases Nat.lt_or_ge p kParticipants with hp | hp
    · exact hupto p (by omega)
    · exact h.past_of_le hp retired

theorem Inv.withPublisher {pc : Publisher} (hpc : s.PublisherOk pc) :
    Inv { s with publisher := pc } := by
  refine ⟨h.grace, h.owns, h.known, h.clients, h.sessions, h.published,
    fun v hv => ⟨(h.freed v hv).1, ⟨(h.freed v hv).2.pointer, (h.freed v hv).2.past⟩⟩, ?_⟩
  cases pc
  case idle => exact hpc
  case storing => exact ⟨⟨hpc.1.built, hpc.1.published, hpc.1.freed⟩, hpc.2⟩
  case storingMics => exact ⟨⟨hpc.1.built, hpc.1.published, hpc.1.freed⟩, hpc.2⟩
  all_goals exact ⟨⟨hpc.1.pointer, hpc.1.other, hpc.1.built⟩, hpc.2⟩

omit h in
/-- A table no address has named is stored at one of them: the freed ones stay gone. -/
theorem Gone.store {v next : Nat} (h : s.Gone v) (hne : v ≠ next) (there : Nat → Bool) :
    Gone { s with grace := s.grace.store there (some next) } v := by
  refine ⟨fun p => ?_, h.past⟩
  simp only [GraceEpoch.State.store]
  split
  · simpa using hne.symm
  · exact h.pointer p

theorem Inv.publish_storing {next : Nat} (hpc : s.publisher = .storing next) :
    s.publish.Inv := by
  have hok := h.publisher
  rw [hpc] at hok
  obtain ⟨hunseen, hpointer⟩ := hok
  simp only [publish, hpc]
  refine ⟨h.grace.store _, h.owns, h.known, h.clients, h.sessions, h.published, fun v hv => ?_, ?_⟩
  · obtain ⟨hlt, hgone⟩ := h.freed v hv
    have hne : v ≠ next := fun he => hunseen.freed (he ▸ hv)
    have hstore := hgone.store hne fun p => p < kRouteParticipants
    exact ⟨hlt, hstore.pointer, hstore.past⟩
  · refine ⟨⟨hunseen.built, hunseen.published, hunseen.freed⟩, fun p hp => ?_, fun p hp => ?_⟩
    · simp [GraceEpoch.State.store, hp]
    · simpa [GraceEpoch.State.store, Nat.not_lt.mpr hp] using hpointer p

theorem Inv.publish_storingMics {next : Nat}
    (hpc : s.publisher = .storingMics next) : s.publish.Inv := by
  have hok := h.publisher
  rw [hpc] at hok
  obtain ⟨hunseen, hroutes, -⟩ := hok
  simp only [publish, hpc]
  refine ⟨h.grace.store _, h.owns, h.known, h.clients, h.sessions, fun v hv => ?_,
    fun v hv => ?_, ⟨fun p => ?_, fun he => hunseen.published he.symm, h.published⟩, by decide,
    fun p hp => ?_⟩
  · obtain rfl := Option.some_inj.mp hv
    exact hunseen.built
  · obtain ⟨hlt, hgone⟩ := h.freed v hv
    have hne : v ≠ next := fun he => hunseen.freed (he ▸ hv)
    have hstore := hgone.store hne fun p => kRouteParticipants ≤ p
    exact ⟨hlt, hstore.pointer, hstore.past⟩
  · by_cases hp : kRouteParticipants ≤ p
    · simp [GraceEpoch.State.store, hp]
    · simpa [GraceEpoch.State.store, hp] using hroutes p (Nat.lt_of_not_le hp)
  · exact absurd hp (Nat.not_lt_zero p)

theorem Inv.publish_freeing {retired : Option Nat}
    (hpc : s.publisher = .freeing retired) : s.publish.Inv := by
  have hok := h.publisher
  rw [hpc] at hok
  obtain ⟨hs, hpast⟩ := hok
  simp only [publish, hpc]
  refine ⟨h.grace, h.owns, h.known, h.clients, h.sessions, h.published, fun v hv => ?_, hs.pointer⟩
  rcases List.mem_append.mp hv with hv | hv
  · obtain rfl := Option.mem_toList.mp hv
    exact ⟨hs.built v rfl, fun p he => hs.other (hs.pointer p ▸ he), hpast⟩
  · exact ⟨(h.freed v hv).1, (h.freed v hv).2.pointer, (h.freed v hv).2.past⟩

theorem Inv.publish : s.publish.Inv := by
  have hok := h.publisher
  cases hpc : s.publisher with
  | idle => simpa only [Routes.publish, hpc] using h
  | storing => exact h.publish_storing hpc
  | storingMics => exact h.publish_storingMics hpc
  | loading q retired =>
    rw [hpc] at hok
    obtain ⟨hs, hq, hbefore⟩ := hok
    simp only [Routes.publish, hpc]
    split
    · next heven =>
      exact h.withPublisher (.next h hs hq hbefore (h.grace.past_of_even (by omega) retired))
    · exact h.withPublisher ⟨hs, hq, hbefore, .inl rfl⟩
  | waiting =>
    rw [hpc] at hok
    obtain ⟨hs, hq, hbefore, hawaits⟩ := hok
    simp only [Routes.publish, hpc]
    split
    · exact h
    · next hne => exact h.withPublisher (.next h hs hq hbefore (hawaits.resolve_left hne))
  | freeing => exact h.publish_freeing hpc

theorem Inv.republish : (s.step .republish).Inv := by
  have hok := h.publisher
  simp only [step]
  split
  · next hpc =>
    rw [hpc] at hok
    refine ⟨h.grace, h.owns, h.known, h.clients, h.sessions,
      fun v hv => Nat.lt_succ_of_lt (h.published v hv), fun v hv => ?_, ⟨?_, ?_, ?_⟩, hok⟩
    · obtain ⟨hlt, hgone⟩ := h.freed v hv
      exact ⟨Nat.lt_succ_of_lt hlt, hgone.pointer, hgone.past⟩
    · exact Nat.lt_succ_self s.built
    · exact fun he => Nat.lt_irrefl _ (h.published s.built he)
    · exact fun hv => Nat.lt_irrefl _ (h.freed s.built hv).1
  · exact h

/-! ### Every run -/

/-- **What one step keeps.** -/
theorem Inv.step (a : RouteAction) (hone : s.OneAtATime a) : (s.step a).Inv := by
  cases a with
  | install id =>
    exact h.withClients (length_installFeedbackHandlers id h.sessions) (Nat.le_refl _) h.clients
  | connected id => exact h.step_connected id
  | closed c => exact h.step_closed c
  | micSender =>
    simp only [Routes.step, micSenderForSlot]
    split
    · exact h.withClients h.sessions (Nat.le_refl _) h.clients
    · exact h
  | micSenderGone =>
    simp only [Routes.step]
    split
    · exact h.withClients h.sessions (Nat.le_refl _) h.clients
    · exact h
  | enter r => exact h.step_enter r hone
  | load r => exact h.keep_of_open (h.grace.keeps_load r) fun _ _ => GraceEpoch.open_load
  | leave r => exact h.keep_of_open (h.grace.keeps_leave r) fun _ _ => GraceEpoch.open_leave
  | exit r =>
    exact h.keep_of_open (h.grace.keeps_exit (by decide) r) fun _ _ => GraceEpoch.open_exit
  | republish => exact h.republish
  | publish => exact h.publish

end

theorem inv_fresh : ({} : Routes).Inv where
  grace :=
    { single := fun t u p ⟨b, hb⟩ => by simp at hb
      odd := fun p => ⟨fun ho => by simp at ho, fun ⟨t, b, hb⟩ => by simp at hb⟩
      leaving := fun t p v seen hb => by simp at hb }
  owns r p := fun ⟨b, hb⟩ => by simp at hb
  known c p := fun ⟨b, hb⟩ => by simp at hb
  clients k hk := by simp at hk
  sessions := by simp
  published v hv := by simp at hv
  freed v hv := by simp at hv
  publisher p := rfl

/-- **No reader uses a freed table.**  In a run in which no two clients of a connection are
inside their handlers at once, no open bracket has loaded a table that `republish` has
freed, and when it is about to free one no bracket holds it. -/
theorem no_reader_of_freed_table (acts : List RouteAction)
    (hone : Along step OneAtATime ({} : Routes) acts) :
    let s := run step ({} : Routes) acts
    (∀ table ∈ s.freed, ∀ r p b, s.grace.bracket r = some (p, b) → b.value ≠ some (some table)) ∧
      ∀ retired, s.publisher = .freeing retired → ∀ r p b,
        s.grace.bracket r = some (p, b) → b.value ≠ some retired := by
  intro s
  have h : s.Inv := run_keeps (I := Inv) (fun _ a hs => hs.step a) inv_fresh hone
  refine ⟨fun table ht r p b hb => (h.freed table ht).2.past p r b hb, fun retired hpc r p b hb => ?_⟩
  have hok := h.publisher
  rw [hpc] at hok
  exact hok.2 p r b hb

/-- One whole `republish` that nobody keeps waiting. -/
def republishing : List RouteAction :=
  .republish :: List.replicate (kParticipants + 3) .publish

/-- A device's thread holds the first table while the second is published. -/
def deviceReads : List RouteAction :=
  republishing ++ [.enter (.device 0), .load (.device 0), .republish] ++
    List.replicate 4 .publish ++ [.leave (.device 0), .exit (.device 0)] ++
    List.replicate (kParticipants + 1) .publish

set_option maxRecDepth 4000 in
theorem device_delays_the_free :
    (run step ({} : Routes) deviceReads).freed = [0] ∧
      ∀ r p b, (run step ({} : Routes) deviceReads).grace.bracket r = some (p, b) →
        b.value ≠ some (some 0) :=
  have hfreed : (run step ({} : Routes) deviceReads).freed = [0] := by decide +kernel
  ⟨hfreed, (no_reader_of_freed_table deviceReads (by decide +kernel)).1 0 (by simp [hfreed])⟩

/-- A connection has been opened again and its first client is not closed yet.  The first
client's receive thread holds the table when the second's opens a bracket. -/
def twoClients : List RouteAction :=
  [.install (.wifi "10.0.0.2" 9876), .connected (.wifi "10.0.0.2" 9876),
    .connected (.wifi "10.0.0.2" 9876)] ++ republishing ++
    [.enter (.client 0), .load (.client 0), .enter (.client 1)] ++ republishing

set_option maxRecDepth 4000 in
theorem overlapping_clients_lose_the_table :
    let s := run step ({} : Routes) twoClients
    s.freed = [0] ∧ s.grace.bracket (.client 0) = some (64, .holding (some 0)) := by
  decide +kernel

end Routes

end Dish
