/-
Bindings, pads and the room on a host.

Three tables have to agree: which slot is bound to which host, which pads ride the session of a
host, and which number each of them holds.  They are written at different points of one call, so
the invariant `Seated` is carried through a bind stage by stage.  Its content is that a pad on a
session is bound to that session's host, and with the four bindings a host may have this is why a
slot that was let through always finds a free number.
-/
import Dish.Lib.Run
import Dish.Proofs.MoonlightManager

namespace Dish.Moonlight

open Function Steps Bindings PadSlots

/-! ### The binding map -/

namespace Bindings

variable {b : Bindings} {slotId uuid other : String}

theorem value_eq_some : b.value slotId = some uuid ↔ (slotId, uuid) ∈ b.entries :=
  find_value_iff b.slotsOnce

theorem value_remove :
    (b.remove slotId).value other = some uuid ↔ other ≠ slotId ∧ b.value other = some uuid := by
  rw [value_eq_some, value_eq_some]
  simp [remove, and_comm]

theorem value_insert {host : String} :
    (b.insert slotId host).value other = some uuid ↔
      (other = slotId ∧ uuid = host) ∨ (other ≠ slotId ∧ b.value other = some uuid) := by
  rw [value_eq_some, value_eq_some]
  simp only [insert, List.mem_append, List.mem_singleton, Prod.mk.injEq]
  rw [← value_eq_some, value_remove, value_eq_some]
  exact or_comm

theorem mem_slotsOf : slotId ∈ b.slotsOf uuid ↔ b.value slotId = some uuid := by
  rw [value_eq_some]
  simp [slotsOf]

theorem slotsOf_nodup (b : Bindings) (uuid : String) : (b.slotsOf uuid).Nodup :=
  b.slotsOnce.sublist (List.filter_sublist.map _)

theorem slotsOf_length_le {b' : Bindings}
    (h : ∀ slotId, b'.value slotId = some uuid → b.value slotId = some uuid) :
    (b'.slotsOf uuid).length ≤ (b.slotsOf uuid).length := by
  apply (List.subperm_of_subset (b'.slotsOf_nodup uuid) ?_).length_le
  intro slotId here
  exact mem_slotsOf.mpr (h slotId (mem_slotsOf.mp here))

theorem remove_of_value_none (h : b.value slotId = none) : b.remove slotId = b := by
  have absent : ∀ entry ∈ b.entries, entry.1 ≠ slotId := by
    intro entry here same
    have bound : b.value slotId = some entry.2 := value_eq_some.mpr (same ▸ here)
    rw [h] at bound
    cases bound
  have same : b.entries.filter (·.1 ≠ slotId) = b.entries :=
    List.filter_eq_self.mpr fun entry here => by simpa using absent entry here
  cases b
  simpa [remove] using same

theorem value_foldl_remove {slots : List String} :
    (slots.foldl remove b).value other = some uuid ↔ other ∉ slots ∧ b.value other = some uuid := by
  induction slots generalizing b with
  | nil => simp
  | cons slot rest ih =>
    rw [List.foldl_cons, ih, value_remove, List.mem_cons, not_or]
    tauto

theorem slotsOf_insert_le (b : Bindings) (slotId uuid : String) :
    ((b.insert slotId uuid).slotsOf uuid).length ≤ (b.slotsOf uuid).length + 1 := by
  have sub : (b.insert slotId uuid).slotsOf uuid ⊆ slotId :: b.slotsOf uuid := by
    intro other here
    rcases value_insert.mp (mem_slotsOf.mp here) with ⟨same, -⟩ | ⟨-, bound⟩
    · exact same ▸ List.mem_cons_self
    · exact List.mem_cons_of_mem _ (mem_slotsOf.mpr bound)
  exact (List.subperm_of_subset (slotsOf_nodup _ uuid) sub).length_le

end Bindings

/-! ### The pads of one session -/

namespace Chart

variable {c : Chart}

/-- The pads that are declared are those that hold a number, with that number. -/
def Numbered (c : Chart) : Prop :=
  c.pads.map (fun pad => (pad.1, pad.2.number)) = c.slots.assigned

/-- The slot's pad has left. -/
def release (slotId : String) (c : Chart) : Chart :=
  { c with
    slots := (c.slots.release slotId).2
    pads := c.pads.filter (·.1 ≠ slotId) }

theorem Numbered.release (h : c.Numbered) (slotId : String) : (c.release slotId).Numbered := by
  show (c.pads.filter _).map _ = c.slots.assigned.filter _
  rw [← h, List.filter_map]
  rfl

theorem numberFor_release {slotId other : String} {n : PadNumber} :
    (c.release slotId).slots.numberFor other = some n ↔
      c.slots.numberFor other = some n ∧ other ≠ slotId := by
  rw [numberFor_eq_some, numberFor_eq_some]
  exact mem_release

/-- The slot may have taken a number; everyone else keeps theirs. -/
structure Seats (slotId : String) (c c' : Chart) : Prop where
  numbered : c'.Numbered
  kept : ∀ slot n, c.slots.numberFor slot = some n → c'.slots.numberFor slot = some n
  only : ∀ slot n, c'.slots.numberFor slot = some n →
    slot = slotId ∨ c.slots.numberFor slot = some n

theorem Seats.refl {slotId : String} (h : c.Numbered) : Seats slotId c c :=
  ⟨h, fun _ _ => id, fun _ _ => .inr⟩

end Chart

namespace Session

variable {s : Session}

theorem detachController_chart (s : Session) (slotId : String) :
    (s.detachController slotId).2.chart = s.chart.release slotId := by
  unfold detachController
  cases released : (s.slots.release slotId).1 with
  | none =>
    simp only [released]
    rfl
  | some number =>
    simp only [released]
    split <;> rfl

theorem announcePad_chart (s : Session) (slotId : String) :
    (s.announcePad slotId).chart = s.chart := by
  unfold announcePad
  split
  · rfl
  · split <;> rfl

theorem reannounceController_seats (numbered : s.chart.Numbered) (slotId : String)
    (storedType : Int) (source : SourceCapabilities) :
    s.chart.Seats slotId (s.reannounceController slotId storedType source).2.chart ∧
      ((s.reannounceController slotId storedType source).1 = none →
        (s.reannounceController slotId storedType source).2 = s ∧ ¬s.slots.holds slotId) := by
  have agrees : s.pads.map (fun pad => (pad.1, pad.2.number)) = s.slots.assigned := numbered
  unfold reannounceController
  cases found : s.padFor slotId with
  | none =>
    refine ⟨.refl numbered, fun _ => ⟨rfl, ?_⟩⟩
    intro holds
    unfold PadSlots.holds at holds
    rw [← agrees, List.map_map] at holds
    obtain ⟨pad, here, slot⟩ := List.mem_map.mp holds
    have absent := List.find?_eq_none.mp (Option.map_eq_none_iff.mp found) pad here
    exact absent (by simpa using slot)
  | some held =>
    obtain ⟨pad, first, same⟩ := Option.map_eq_some_iff.mp found
    have slot : pad.1 = slotId := by simpa using List.find?_some first
    have holds : s.slots.numberFor slotId = some held.number := by
      rw [numberFor_eq_some, ← agrees]
      refine List.mem_map.mpr ⟨pad, List.mem_of_find?_eq_some first, ?_⟩
      rw [slot, same]
    simp only
    split
    · exact ⟨.refl numbered, nofun⟩
    · refine ⟨?_, nofun⟩
      have chart : ∀ (t : Session) (d : PadDeclaration), (t.replugPad d).chart = t.chart := by
        intro t d
        unfold replugPad
        split <;> rfl
      rw [chart]
      refine ⟨?_, fun _ _ => id, fun _ _ => .inr⟩
      show (s.pads.map _).map _ = s.slots.assigned
      rw [List.map_map, ← agrees]
      apply List.map_congr_left
      intro other here
      -- Only the pad of the slot is declared anew, and it is the one that was found.
      by_cases mine : other.1 = slotId
      · have number : (other.1, other.2.number) ∈ s.slots.assigned := by
          rw [← agrees]
          exact List.mem_map_of_mem here
        rw [mine, ← numberFor_eq_some, holds, Option.some.injEq] at number
        simp only [comp_apply, if_pos mine]
        rw [← number]
        rfl
      · simp only [comp_apply, if_neg mine]

theorem attachController_seats (numbered : s.chart.Numbered) {slotId : String}
    (fresh : ¬s.slots.holds slotId) (storedType : Int) (source : SourceCapabilities) :
    s.chart.Seats slotId (s.attachController slotId storedType source).2.chart ∧
      ((s.attachController slotId storedType source).1 = none → s.slots.size = kMaxPads) := by
  have agrees : s.pads.map (fun pad => (pad.1, pad.2.number)) = s.slots.assigned := numbered
  unfold attachController
  cases assigned : s.slots.assign slotId with
  | none =>
    refine ⟨.refl numbered, fun _ => ?_⟩
    exact (assign_eq_none assigned).resolve_left fresh
  | some taken =>
    obtain ⟨number, slots⟩ := taken
    obtain ⟨-, next⟩ := assign_eq_some assigned
    refine ⟨?_, nofun⟩
    rw [announcePad_chart]
    refine ⟨?_, ?_, ?_⟩
    · show (setPad s.pads slotId _).map _ = slots.assigned
      have others : s.pads.filter (·.1 ≠ slotId) = s.pads := by
        apply List.filter_eq_self.mpr
        intro pad here
        have holds : pad.1 ≠ slotId := by
          intro same
          apply fresh
          unfold holds
          rw [← agrees, List.map_map]
          exact List.mem_map.mpr ⟨pad, here, same⟩
        simpa using holds
      rw [next, setPad, others, List.map_append, agrees]
      rfl
    · intro slot n h
      rw [numberFor_eq_some] at h ⊢
      show (slot, n) ∈ slots.assigned
      rw [next]
      exact List.mem_append_left _ h
    · intro slot n h
      rw [numberFor_eq_some] at h ⊢
      have h : (slot, n) ∈ slots.assigned := h
      rw [next] at h
      rcases List.mem_append.mp h with h | h
      · exact .inr h
      · exact .inl (congrArg Prod.fst (List.mem_singleton.mp h))

/-- The pad keeps its number or takes one, and only where four others have theirs it has none. -/
theorem seatController_seats (numbered : s.chart.Numbered) (slotId : String) (storedType : Int)
    (source : SourceCapabilities) :
    s.chart.Seats slotId (s.seatController slotId storedType source).2.chart ∧
      ((s.seatController slotId storedType source).1 = none →
        ¬s.slots.holds slotId ∧ s.slots.size = kMaxPads) := by
  obtain ⟨seats, unheld⟩ := reannounceController_seats numbered slotId storedType source
  unfold seatController
  cases answer : s.reannounceController slotId storedType source with
  | mk number after =>
    rw [answer] at seats unheld
    cases number with
    | some number => exact ⟨seats, nofun⟩
    | none =>
      obtain ⟨same, fresh⟩ := unheld rfl
      subst same
      obtain ⟨seats, taken⟩ := attachController_seats numbered fresh storedType source
      exact ⟨seats, fun none => ⟨fresh, taken none⟩⟩

end Session

/-! ### The invariant -/

namespace Manager

variable {m m' : Manager} {id : Nat} {s : Session} {slotId uuid : String} {c : Chart} (o : Outside)

/-- The tables agree, but for the pads of the one session. -/
structure SeatedBut (m : Manager) (but : Nat → Prop) : Prop where
  roster : m.Roster
  room : ∀ uuid, (m.bindings.slotsOf uuid).length ≤ kMaxPads
  numbered : ∀ id c, m.chart id = some c → c.Numbered
  bound : ∀ uuid id c slot n, ¬but id → m.sessions uuid = some id → m.chart id = some c →
    c.slots.numberFor slot = some n → m.bindings.value slot = some uuid

/-- The tables agree: no host has more bindings than numbers, and the pads of a session are bound
to its host. -/
abbrev Seated (m : Manager) : Prop := m.SeatedBut fun _ => False

theorem SeatedBut.mono {but but' : Nat → Prop} (h : m.SeatedBut but)
    (more : ∀ id, but id → but' id) : m.SeatedBut but' :=
  ⟨h.roster, h.room, h.numbered, fun uuid id c slot n out =>
    h.bound uuid id c slot n fun inside => out (more id inside)⟩

theorem SeatedBut.same (hm : m.Seated) (roster : m'.Roster) (bindings : m'.bindings = m.bindings)
    (sessions : m'.sessions = m.sessions)
    (chart : ∀ id c, m'.chart id = some c → m.chart id = some c) : m'.Seated := by
  refine ⟨roster, ?_, fun id c found => hm.numbered id c (chart id c found), ?_⟩
  · rw [bindings]
    exact hm.room
  · intro uuid id c slot n out filed found
    rw [sessions] at filed
    rw [bindings]
    exact hm.bound uuid id c slot n out filed (chart id c found)

theorem Frame.seated (h : Frame m m') (hm : m.Seated) : m'.Seated :=
  hm.same (h.housed.roster hm.roster) h.bindings h.sessions fun _ _ found => h.chart ▸ found

theorem SeatedBut.put {s' : Session} (hm : m.SeatedBut (· = id))
    (there : m.objects id = some s) (abides : Session.Abides s s') (numbered : s'.chart.Numbered)
    (bound : ∀ uuid slot n, m.sessions uuid = some id → s'.chart.slots.numberFor slot = some n →
      m.bindings.value slot = some uuid) : (m.put id s').Seated := by
  have called := m.put_called id s'
  have chart : ∀ other c, (m.put id s').chart other = some c →
      (other = id ∧ c = s'.chart) ∨ (other ≠ id ∧ m.chart other = some c) := by
    intro other c found
    rw [put_chart, update_apply] at found
    split at found
    · rw [Option.some.injEq] at found
      exact .inl ⟨‹_›, found.symm⟩
    · exact .inr ⟨‹_›, found⟩
  refine ⟨(m.housed_put there abides).roster hm.roster, ?_, ?_, ?_⟩
  · rw [called.bindings]
    exact hm.room
  · intro other c found
    rcases chart other c found with ⟨-, same⟩ | ⟨-, found⟩
    · rw [same]
      exact numbered
    · exact hm.numbered other c found
  · intro uuid other c slot n _ filed found holds
    rw [called.sessions] at filed
    rw [called.bindings]
    rcases chart other c found with ⟨same, same'⟩ | ⟨ne, found⟩
    · subst same same'
      exact bound uuid slot n filed holds
    · exact hm.bound uuid other c slot n ne filed found holds

theorem chart_of_objects (h : m.objects id = some s) : m.chart id = some s.chart := by
  simp [chart, h]

/-! ### An unbind -/

theorem unbind_bindings (m : Manager) (slotId : String) :
    (m.unbindController o slotId).bindings = m.bindings.remove slotId := by
  have unbound := unbindController_unbound o m slotId
  generalize m.unbindController o slotId = after at unbound
  cases unbound with
  | unbound unbound => exact (remove_of_value_none unbound).symm
  | alone => rfl
  | left => exact (put_called _ _ _).bindings
  | last =>
    rw [(quiet_withSession _ _ fun s => s.stop_plays o.world true).bindings]
    exact (put_called _ _ _).bindings

/-- Once the slot is unbound, only the pads of the session it was bound to are not in order. -/
theorem SeatedBut.unbound (hm : m.Seated) (slotId : String) :
    SeatedBut { m with bindings := m.bindings.remove slotId }
      (fun id => ∃ uuid, m.bindings.value slotId = some uuid ∧ m.sessions uuid = some id) := by
  refine ⟨(m.housed_bindings _).roster hm.roster, ?_, hm.numbered, ?_⟩
  · intro uuid
    refine le_trans (slotsOf_length_le ?_) (hm.room uuid)
    intro slot bound
    exact (value_remove.mp bound).2
  · intro uuid id c slot n other filed found holds
    have bound := hm.bound uuid id c slot n nofun filed found holds
    refine value_remove.mpr ⟨?_, bound⟩
    intro same
    subst same
    exact other ⟨uuid, bound, filed⟩

theorem seated_unbind (hm : m.Seated) (slotId : String) : (m.unbindController o slotId).Seated := by
  have removed := SeatedBut.unbound hm slotId
  have detached : ∀ {uuid : String} {id : Nat} {s : Session},
      m.bindings.value slotId = some uuid → m.sessions uuid = some id → m.objects id = some s →
      (put { m with bindings := m.bindings.remove slotId } id
        (s.detachController slotId).2).Seated := by
    intro uuid id s bound here there
    have chart := m.chart_of_objects there
    have only : SeatedBut { m with bindings := m.bindings.remove slotId } (· = id) := by
      refine removed.mono ?_
      intro other ⟨uuid', bound', filed⟩
      rw [bound, Option.some.injEq] at bound'
      subst bound'
      rw [here, Option.some.injEq] at filed
      exact filed.symm
    refine only.put there (s.aside_detachController slotId).abides ?_ ?_
    · rw [s.detachController_chart]
      exact (hm.numbered id _ chart).release slotId
    · intro uuid' slot n filed holds
      rw [s.detachController_chart] at holds
      obtain ⟨holds, other⟩ := Chart.numberFor_release.mp holds
      have bound' := hm.bound uuid' id _ slot n nofun filed chart holds
      exact value_remove.mpr ⟨other, bound'⟩
  have unbound := unbindController_unbound o m slotId
  generalize m.unbindController o slotId = after at unbound
  cases unbound with
  | unbound => exact hm
  | alone bound alone =>
    refine removed.mono ?_
    intro id ⟨uuid, bound', filed⟩
    rw [bound, Option.some.injEq] at bound'
    subst bound'
    obtain ⟨s, there, -⟩ := hm.roster.there filed
    rw [filed] at alone
    exact absurd (alone.symm.trans there) nofun
  | left bound here there => exact detached bound here there
  | last bound here there =>
    exact (quiet_withSession _ _ fun s => s.stop_plays o.world true).seated
      (detached bound here there)

/-! ### A bind -/

theorem seated_freed (hm : m.Seated) (slotId uuid : String) : (m.freed o slotId uuid).Seated := by
  unfold freed
  split
  · exact seated_unbind o hm slotId
  · exact hm

theorem freed_value (m : Manager) (slotId uuid : String) {other : String}
    (h : (m.freed o slotId uuid).bindings.value slotId = some other) : other = uuid := by
  unfold freed boundElsewhere at h
  cases bound : m.bindings.value slotId with
  | none =>
    simp [bound] at h
  | some prior =>
    simp only [bound, ne_eq, decide_not] at h
    split at h
    · rw [unbind_bindings] at h
      exact absurd rfl (value_remove.mp h).1
    · rename_i same
      rw [bound, Option.some.injEq] at h
      subst h
      simpa using same

theorem SeatedBut.insert (hm : m.Seated)
    (free : ∀ other, m.bindings.value slotId = some other → other = uuid)
    (room : m.full slotId uuid = false) :
    Seated { m with bindings := m.bindings.insert slotId uuid } := by
  refine ⟨(m.housed_bindings _).roster hm.roster, ?_, hm.numbered, ?_⟩
  · intro host
    show ((m.bindings.insert slotId uuid).slotsOf host).length ≤ kMaxPads
    by_cases mine : host = uuid
    · subst mine
      by_cases bound : m.bindings.value slotId = some host
      · refine le_trans (slotsOf_length_le ?_) (hm.room host)
        intro slot h
        rcases value_insert.mp h with ⟨same, -⟩ | ⟨-, h⟩
        · exact same ▸ bound
        · exact h
      · have less : (m.bindings.slotsOf host).length < kMaxPads := by
          simpa [full, bound] using room
        exact le_trans (m.bindings.slotsOf_insert_le slotId host) less
    · refine le_trans (slotsOf_length_le ?_) (hm.room host)
      intro slot h
      rcases value_insert.mp h with ⟨-, same⟩ | ⟨-, h⟩
      · exact absurd same mine
      · exact h
  · intro host id c slot n _ filed found holds
    have bound := hm.bound host id c slot n nofun filed found holds
    refine value_insert.mpr ?_
    by_cases same : slot = slotId
    · exact .inl ⟨same, free host (same ▸ bound)⟩
    · exact .inr ⟨same, bound⟩

theorem seated_ensureSession (hm : m.Seated) (host : MoonlightHost) :
    (m.ensureSession host).2.Seated := by
  cases found : m.sessions host.uuid with
  | some id =>
    rw [ensureSession_of_some found]
    exact hm
  | none =>
    rw [ensureSession_of_none found]
    have chart : ∀ id c, (m.enroll host).chart id = some c →
        (id = m.nextSession ∧ c = ⟨host, {}, []⟩) ∨ m.chart id = some c := by
      intro id c charted
      rw [Manager.chart, enroll_objects] at charted
      split at charted
      · exact .inl ⟨‹_›, (Option.some.inj charted).symm⟩
      · exact .inr charted
    refine ⟨hm.roster.enroll host, hm.room, ?_, ?_⟩
    · intro id c charted
      rcases chart id c charted with ⟨-, same⟩ | charted
      · rw [same]
        rfl
      · exact hm.numbered id c charted
    · intro uuid id c slot n _ filed charted holds
      rcases chart id c charted with ⟨-, same⟩ | charted
      · rw [same] at holds
        cases holds
      · rw [enroll_sessions] at filed
        split at filed
        · rw [Option.some.injEq] at filed
          have unused := hm.roster.unused
          rw [Manager.chart, ← filed, unused] at charted
          cases charted
        · exact hm.bound uuid id c slot n (by simp) filed charted holds

section
variable (hm : m.Seated) (filed : m.sessions uuid = some id) (there : m.objects id = some s) (bound : m.bindings.value slotId = some uuid) (storedType : Int) (source : SourceCapabilities)
include hm filed there bound

/-- The pad of a slot that is bound to the host finds a number on its session: those that hold one
are bound to the host as well, and there are no more than four. -/
theorem seat_some :
    (s.seatController slotId storedType source).1 ≠ none := by
  intro none
  have chart := m.chart_of_objects there
  obtain ⟨fresh, taken⟩ :=
    (Session.seatController_seats (hm.numbered id _ chart) slotId storedType source).2 none
  have distinct : (slotId :: s.slots.assigned.map (·.1)).Nodup :=
    List.nodup_cons.mpr ⟨fresh, s.slots.slotsOnce⟩
  have among : slotId :: s.slots.assigned.map (·.1) ⊆ m.bindings.slotsOf uuid := by
    intro slot here
    rw [mem_slotsOf]
    rcases List.mem_cons.mp here with same | here
    · exact same ▸ bound
    · obtain ⟨n, holds⟩ := holds_iff.mp here
      exact hm.bound uuid id _ slot n nofun filed chart holds
  have more := (List.subperm_of_subset distinct among).length_le
  have room := hm.room uuid
  simp only [size] at taken
  simp only [List.length_cons, List.length_map] at more
  omega

theorem seated_seat :
    (m.put id (s.seatController slotId storedType source).2).Seated := by
  have chart := m.chart_of_objects there
  obtain ⟨seats, -⟩ :=
    Session.seatController_seats (hm.numbered id _ chart) slotId storedType source
  refine SeatedBut.put (hm.mono nofun) there
    (s.aside_seatController slotId storedType source).abides seats.numbered ?_
  intro uuid' slot n filed' holds
  rcases seats.only slot n holds with same | holds
  · rw [same, ← hm.roster.injective filed filed', bound]
  · exact hm.bound uuid' id _ slot n nofun filed' chart holds

end

/-- What a bind leaves once the slot is free of other hosts: everyone keeps their number, and the
slot may have one on the session of the host. -/
structure Joined (m : Manager) (slotId uuid : String) (m' : Manager) : Prop where
  kept : ∀ id c, m.chart id = some c → ∃ c', m'.chart id = some c' ∧
    ∀ slot n, c.slots.numberFor slot = some n → c'.slots.numberFor slot = some n
  only : ∀ id c c', m.chart id = some c → m'.chart id = some c' →
    ∀ slot n, c'.slots.numberFor slot = some n →
      c.slots.numberFor slot = some n ∨ (slot = slotId ∧ m'.sessions uuid = some id)

theorem Joined.of_chart (h : m'.chart = m.chart) : Joined m slotId uuid m' := by
  refine ⟨?_, ?_⟩
  · intro id c found
    exact ⟨c, by rw [h, found], fun _ _ holds => holds⟩
  · intro id c c' found found' slot n holds
    rw [h, found, Option.some.injEq] at found'
    exact .inl (found' ▸ holds)

theorem joined_seat (hm : m.Seated) (slotId : String) (filed : m.sessions uuid = some id)
    (there : m.objects id = some s) (storedType : Int) (source : SourceCapabilities) :
    Joined m slotId uuid (m.put id (s.seatController slotId storedType source).2) := by
  have charted := m.chart_of_objects there
  obtain ⟨seats, -⟩ :=
    Session.seatController_seats (hm.numbered id _ charted) slotId storedType source
  refine ⟨?_, ?_⟩
  · intro other c found
    rw [put_chart]
    by_cases same : other = id
    · subst same
      rw [charted, Option.some.injEq] at found
      subst found
      exact ⟨_, update_self .., seats.kept⟩
    · exact ⟨c, by rw [update_of_ne same, found], fun _ _ holds => holds⟩
  · intro other c c' found found' slot n holds
    rw [(m.put_called id _).sessions]
    rw [put_chart] at found'
    by_cases same : other = id
    · subst same
      rw [charted, Option.some.injEq] at found
      rw [update_self, Option.some.injEq] at found'
      subst found found'
      rcases seats.only slot n holds with mine | holds
      · exact .inr ⟨mine, filed⟩
      · exact .inl holds
    · rw [update_of_ne same, found, Option.some.injEq] at found'
      exact .inl (found' ▸ holds)

theorem Joined.before {m₀ : Manager} (h : Joined m₀ slotId uuid m')
    (same : ∀ id c, m.chart id = some c → m₀.chart id = some c) : Joined m slotId uuid m' :=
  ⟨fun id c found => h.kept id c (same id c found),
    fun id c c' found => h.only id c c' (same id c found)⟩

theorem Joined.after {m₁ : Manager} (h : Joined m slotId uuid m₁) (frame : Frame m₁ m') :
    Joined m slotId uuid m' := by
  refine ⟨?_, ?_⟩
  · rw [frame.chart]
    exact h.kept
  · rw [frame.chart, frame.sessions]
    exact h.only

theorem ensureSession_chart (hm : m.Roster) (host : MoonlightHost) (found : m.chart id = some c) :
    (m.ensureSession host).2.chart id = some c := by
  cases filed : m.sessions host.uuid with
  | some other =>
    rw [ensureSession_of_some filed]
    exact found
  | none =>
    rw [ensureSession_of_none filed, chart, enroll_objects]
    have old : id ≠ m.nextSession := by
      intro new
      rw [chart, new, hm.unused] at found
      cases found
    rw [if_neg old]
    exact found

/-- The manager with the binding made, as a bind that is let through has it. -/
theorem seated_claimed (hm : m.Seated) (room : (m.freed o slotId uuid).full slotId uuid = false) :
    (m.claimed o slotId uuid).Seated ∧ (m.claimed o slotId uuid).bindings.value slotId = some uuid ∧
      (m.claimed o slotId uuid).chart = (m.freed o slotId uuid).chart := by
  have records := records_claimed o m slotId uuid
  have seated := SeatedBut.insert (seated_freed o hm slotId uuid)
    (fun _ => freed_value o m slotId uuid) room
  refine ⟨records.quiet.toFrame.seated seated, ?_, records.quiet.toFrame.chart⟩
  rw [records.bindings]
  exact value_insert.mpr (.inl ⟨rfl, rfl⟩)

/-- The session a bind joins, in the state it joins it in. -/
theorem seated_joining {o : Outside} {host : MoonlightHost} (hm : m.Seated)
    (room : (m.freed o slotId uuid).full slotId uuid = false)
    (joining : m.joining o slotId uuid host = (id, m')) :
    m'.Seated ∧ m'.bindings.value slotId = some uuid ∧
      ∀ id c, (m.freed o slotId uuid).chart id = some c → m'.chart id = some c := by
  obtain ⟨seated, bound, chart⟩ := seated_claimed o hm room
  have after : ((m.claimed o slotId uuid).ensureSession host).2 = m' := by
    unfold Manager.joining at joining
    rw [joining]
  rw [← after]
  refine ⟨seated_ensureSession seated host, ?_, ?_⟩
  · unfold ensureSession
    split <;> exact bound
  · intro id c found
    rw [← chart] at found
    exact ensureSession_chart seated.roster host found

/-- **A bind keeps the tables in agreement, and seats at most the slot.** -/
theorem bind_seated (hm : m.Seated) (slotId uuid : String) (storedType : Int)
    (source : SourceCapabilities) :
    (m.bindController o slotId uuid storedType source).2.Seated ∧
      (¬(slotId = "" ∨ uuid = "") → Joined (m.freed o slotId uuid) slotId uuid
        (m.bindController o slotId uuid storedType source).2) := by
  have bound := bindController_bound (o := o) hm.roster slotId uuid storedType source
  generalize m.bindController o slotId uuid storedType source = result at bound
  cases bound with
  | empty unnamed => exact ⟨hm, fun named => absurd unnamed named⟩
  | full => exact ⟨seated_freed o hm slotId uuid, fun _ => .of_chart rfl⟩
  | waiting named room =>
    obtain ⟨seated, -, chart⟩ := seated_claimed o hm room
    exact ⟨seated, fun _ => .of_chart chart⟩
  | unnumbered room stored joining there none =>
    obtain ⟨seated, bound', -⟩ := seated_joining hm room joining
    obtain ⟨-, filed⟩ := joining_roster hm.roster stored joining
    exact absurd none (seat_some seated filed there bound' storedType source)
  | joined named room stored paired joining there some =>
    rename_i host s id m' number
    obtain ⟨seated, bound', chart⟩ := seated_joining hm room joining
    obtain ⟨-, filed⟩ := joining_roster hm.roster stored joining
    have frame := frame_launch o (m'.put id (s.seatController slotId storedType source).2)
      slotId uuid storedType source host id number
    refine ⟨frame.seated (seated_seat seated filed there bound' storedType source), fun _ => ?_⟩
    exact ((joined_seat seated slotId filed there storedType source).before chart).after frame

/-! ### The other acts -/

theorem Forgotten.seated (h : Forgotten m uuid m') (hm : m.Seated) : m'.Seated := by
  have chart : m'.chart = m.chart := by
    funext id
    rw [chart, chart, h.objects]
  refine ⟨h.roster hm.roster, ?_, ?_, ?_⟩
  · intro host
    refine le_trans (slotsOf_length_le ?_) (hm.room host)
    intro slot bound
    rw [h.bindings] at bound
    exact (value_foldl_remove.mp bound).2
  · rw [chart]
    exact hm.numbered
  · intro host id c slot n _ filed found holds
    rw [chart] at found
    rw [h.sessions, update_apply] at filed
    split at filed
    · cases filed
    · rename_i other
      have bound := hm.bound host id c slot n (by simp) filed found holds
      rw [h.bindings]
      refine value_foldl_remove.mpr ⟨?_, bound⟩
      intro forgotten
      rw [mem_slotsOf, bound, Option.some.injEq] at forgotten
      exact other forgotten

theorem leave_chart (m : Manager) (id : Nat) :
    (m.leave o id).chart = m.chart ∧ (m.leave o id).sessions = m.sessions ∧
      (m.leave o id).bindings = m.bindings := by
  unfold leave
  split
  · exact ⟨rfl, rfl, rfl⟩
  · have frame := m.quiet_withSession id fun s => s.stop_plays o.world true
    exact ⟨frame.chart, frame.sessions, frame.bindings⟩

theorem delete_chart (m : Manager) {other : Nat} (h : (m.delete id).chart other = some c) :
    m.chart other = some c := by
  unfold delete at h
  split at h
  · exact h
  · unfold chart at h ⊢
    simp only [update_apply] at h
    split at h
    · cases h
    · exact h

/-- **Every act keeps the tables in agreement.** -/
theorem seated_act (hm : m.Seated) (act : ManagerAct) : (m.act o act).Seated := by
  cases seats : act.seats with
  | false => exact (quiet_act o m seats).seated hm
  | true =>
    cases act with
    | bindController slotId uuid storedType source =>
      exact (bind_seated o hm slotId uuid storedType source).1
    | unbindController slotId => exact seated_unbind o hm slotId
    | forget uuid =>
      by_cases named : uuid = ""
      · subst named
        exact hm
      · exact (m.forget_forgotten named).seated hm
    | leave id =>
      obtain ⟨chart, sessions, bindings⟩ := leave_chart o m id
      exact hm.same (roster_leave o hm.roster id) bindings sessions fun _ _ found =>
        chart ▸ found
    | delete id =>
      have sessions : (m.delete id).sessions = m.sessions := by
        unfold delete
        split <;> rfl
      have bindings : (m.delete id).bindings = m.bindings := by
        unfold delete
        split <;> rfl
      exact hm.same (roster_delete hm.roster id) bindings sessions fun _ _ => m.delete_chart
    | _ => cases seats

/-! ### Numbers -/

theorem unbind_chart (m : Manager) (slotId : String) (found : m.chart id = some c) :
    ∃ c', (m.unbindController o slotId).chart id = some c' ∧
      ∀ slot n, c'.slots.numberFor slot = some n → c.slots.numberFor slot = some n := by
  have detached : ∀ {other : Nat} {s : Session}, m.objects other = some s →
      ∃ c', (put { m with bindings := m.bindings.remove slotId } other
          (s.detachController slotId).2).chart id = some c' ∧
        ∀ slot n, c'.slots.numberFor slot = some n → c.slots.numberFor slot = some n := by
    intro other s there
    rw [put_chart]
    by_cases same : id = other
    · subst same
      rw [m.chart_of_objects there, Option.some.injEq] at found
      subst found
      refine ⟨_, update_self .., ?_⟩
      intro slot n holds
      rw [s.detachController_chart] at holds
      exact (Chart.numberFor_release.mp holds).1
    · exact ⟨c, by rw [update_of_ne same]; exact found, fun _ _ holds => holds⟩
  have unbound := unbindController_unbound o m slotId
  generalize m.unbindController o slotId = after at unbound
  cases unbound with
  | unbound | alone => exact ⟨c, found, fun _ _ holds => holds⟩
  | left bound here there => exact detached there
  | last bound here there =>
    rw [(quiet_withSession _ _ fun s => s.stop_plays o.world true).chart]
    exact detached there

theorem number_kept (hm : m.Seated) (act : ManagerAct) {c' : Chart} {slot : String}
    {n n' : PadNumber} (filed : m.sessions uuid = some id)
    (filed' : (m.act o act).sessions uuid = some id) (found : m.chart id = some c)
    (found' : (m.act o act).chart id = some c') (holds : c.slots.numberFor slot = some n)
    (holds' : c'.slots.numberFor slot = some n') : n' = n := by
  -- Where the pads are the same, so is the number.
  have same : c = c' → n' = n := by
    intro same
    subst same
    rw [holds, Option.some.injEq] at holds'
    exact holds'.symm
  cases seats : act.seats with
  | false =>
    rw [(quiet_act o m seats).chart, found, Option.some.injEq] at found'
    exact same found'
  | true =>
    cases act with
    | bindController slotId host storedType source =>
      by_cases unnamed : slotId = "" ∨ host = ""
      · have nothing : m.act o (.bindController slotId host storedType source) = m := by
          simp [act, bindController, unnamed]
        rw [nothing, found, Option.some.injEq] at found'
        exact same found'
      · obtain ⟨seated', joined⟩ := bind_seated o hm slotId host storedType source
        have joined := joined unnamed
        obtain ⟨c₁, found₁, shrinks⟩ : ∃ c₁, (m.freed o slotId host).chart id = some c₁ ∧
            ∀ slot n, c₁.slots.numberFor slot = some n → c.slots.numberFor slot = some n := by
          unfold freed
          split
          · exact unbind_chart o m slotId found
          · exact ⟨c, found, fun _ _ holds => holds⟩
        rcases joined.only id c₁ c' found₁ found' slot n' holds' with old | ⟨mine, here⟩
        · have old := shrinks slot n' old
          rw [holds, Option.some.injEq] at old
          exact old.symm
        · -- The slot was bound to this host, so nothing was freed and its number stands.
          have hosts := seated'.roster.injective filed' here
          have bound := hm.bound uuid id c slot n nofun filed found holds
          subst mine hosts
          have free : m.freed o slot uuid = m := by
            simp [freed, boundElsewhere, bound]
          rw [free, found, Option.some.injEq] at found₁
          subst found₁
          obtain ⟨c₂, found₂, kept⟩ := joined.kept id c (by rw [free, found])
          have found' : (m.bindController o slot uuid storedType source).2.chart id =
            some c' := found'
          rw [found', Option.some.injEq] at found₂
          subst found₂
          have kept := kept slot n holds
          rw [holds', Option.some.injEq] at kept
          exact kept
    | unbindController slotId =>
      obtain ⟨c₁, found₁, shrinks⟩ := unbind_chart o m slotId found
      have found' : (m.unbindController o slotId).chart id = some c' := found'
      rw [found₁, Option.some.injEq] at found'
      subst found'
      have old := shrinks slot n' holds'
      rw [holds, Option.some.injEq] at old
      exact old.symm
    | forget host =>
      have chart : (m.forget host).chart id = m.chart id := by
        by_cases named : host = ""
        · subst named
          rfl
        · rw [chart, chart, (m.forget_forgotten named).objects]
      have found' : (m.forget host).chart id = some c' := found'
      rw [chart, found, Option.some.injEq] at found'
      exact same found'
    | leave other =>
      have found' : (m.leave o other).chart id = some c' := found'
      rw [(leave_chart o m other).1, found, Option.some.injEq] at found'
      exact same found'
    | delete =>
      have found' := m.delete_chart found'
      rw [found, Option.some.injEq] at found'
      exact same found'
    | _ => cases seats

/-! ### A refused bind -/

/-- The bind gave no number, and left no binding that waits for one. -/
def Refused (o : Outside) (m : Manager) (slotId uuid : String) (storedType : Int)
    (source : SourceCapabilities) : Prop :=
  (m.bindController o slotId uuid storedType source).1 = none ∧
    (m.bindController o slotId uuid storedType source).2.bindings.value slotId ≠ some uuid

/-- A slot that is bound to another host is bound to one that has room. -/
def Roomy (m : Manager) (slotId uuid : String) : Prop :=
  m.boundElsewhere slotId uuid = true → (m.bindings.slotsOf uuid).length < kMaxPads

/-- A refused bind of such a slot was no bind at all. -/
theorem refused_unchanged {o : Outside} (hm : m.Seated) {storedType : Int}
    {source : SourceCapabilities} (roomy : m.Roomy slotId uuid)
    (refused : m.Refused o slotId uuid storedType source) :
    (m.bindController o slotId uuid storedType source).2 = m := by
  have bound := bindController_bound (o := o) hm.roster slotId uuid storedType source
  obtain ⟨none, unbound⟩ := refused
  generalize m.bindController o slotId uuid storedType source = result at bound none unbound
  cases bound with
  | empty => rfl
  | full named full =>
    cases elsewhere : m.boundElsewhere slotId uuid with
    | false => simp [freed, elsewhere]
    | true =>
      -- Letting go of the other host takes nothing from this one.
      have less := roomy elsewhere
      have fewer : ((m.freed o slotId uuid).bindings.slotsOf uuid).length ≤
          (m.bindings.slotsOf uuid).length := by
        apply slotsOf_length_le
        intro slot here
        rw [freed, if_pos elsewhere, unbind_bindings] at here
        exact (value_remove.mp here).2
      simp only [Manager.full, Bool.and_eq_true, decide_eq_true_eq] at full
      omega
  | waiting named room => exact absurd (seated_claimed o hm room).2.1 unbound
  | unnumbered room stored joining there unseated =>
    obtain ⟨seated, bound', -⟩ := seated_joining hm room joining
    obtain ⟨-, filed⟩ := joining_roster hm.roster stored joining
    exact absurd unseated (seat_some seated filed there bound' storedType source)
  | joined => cases none

/-! ### The contract -/

/-- What holds of the bindings and the pads in every state. -/
structure BindingContract (m : Manager) : Prop where
  oneHost : ∀ slot uuid uuid', (slot, uuid) ∈ m.bindings.entries →
    (slot, uuid') ∈ m.bindings.entries → uuid = uuid'
  capacity : ∀ uuid, (m.bindings.slotsOf uuid).length ≤ kMaxPads
  attached : ∀ uuid id s slot number, m.sessions uuid = some id → m.objects id = some s →
    s.slots.numberFor slot = some number → m.bindings.value slot = some uuid
  declared : ∀ uuid id s slot pad, m.sessions uuid = some id → m.objects id = some s →
    (slot, pad) ∈ s.pads → s.slots.numberFor slot = some pad.number
  distinct : ∀ uuid id s slot slot' number, m.sessions uuid = some id → m.objects id = some s →
    s.slots.numberFor slot = some number → s.slots.numberFor slot' = some number → slot = slot'
  below : ∀ uuid id s slot number, m.sessions uuid = some id → m.objects id = some s →
    s.slots.numberFor slot = some number → number.val < 4

/-- What holds of every step: numbers stay while their pads are attached, and a refused bind of a
slot the condition admits changes no binding, no session and no pad. -/
structure BindingStep (m : Manager) (act : Outside × ManagerAct) : Prop where
  stable : ∀ uuid id s s' slot number number', m.sessions uuid = some id →
    m.objects id = some s → (m.step act).sessions uuid = some id →
    (m.step act).objects id = some s' → s.slots.numberFor slot = some number →
    s'.slots.numberFor slot = some number' → number' = number
  refused : ∀ slotId uuid storedType source, act.2 = .bindController slotId uuid storedType source →
    Manager.Roomy { m with out := [] } slotId uuid →
    Manager.Refused act.1 { m with out := [] } slotId uuid storedType source →
    (m.step act).bindings = m.bindings ∧ (m.step act).sessions = m.sessions ∧
      (m.step act).objects = m.objects

theorem SeatedBut.contract (hm : m.Seated) : m.BindingContract := by
  refine ⟨?_, hm.room, ?_, ?_, ?_, ?_⟩
  · intro slot uuid uuid' h h'
    rw [← value_eq_some] at h h'
    rw [h, Option.some.injEq] at h'
    exact h'
  · intro uuid id s slot number filed there holds
    exact hm.bound uuid id _ slot number nofun filed (m.chart_of_objects there) holds
  · intro uuid id s slot pad filed there here
    have numbered : s.pads.map (fun pad => (pad.1, pad.2.number)) = s.slots.assigned :=
      hm.numbered id _ (m.chart_of_objects there)
    rw [numberFor_eq_some, ← numbered]
    exact List.mem_map_of_mem (f := fun pad : String × PadDeclaration =>
      (pad.1, pad.2.number)) here
  · intro uuid id s slot slot' number filed there holds holds'
    rw [numberFor_eq_some] at holds holds'
    have same := List.inj_on_of_nodup_map s.slots.numbersOnce holds holds' rfl
    exact congrArg Prod.fst same
  · intro uuid id s slot number filed there holds
    exact number.isLt

theorem SeatedBut.cleared (hm : m.Seated) : Seated { m with out := [] } :=
  ⟨hm.roster.cleared, hm.room, hm.numbered, hm.bound⟩

theorem SeatedBut.bindingStep (hm : m.Seated) (act : Outside × ManagerAct) : m.BindingStep act := by
  refine ⟨?_, ?_⟩
  · intro uuid id s s' slot number number' filed there filed' there' holds holds'
    have found' := chart_of_objects there'
    exact number_kept act.1 hm.cleared act.2 filed filed' (m.chart_of_objects there) found' holds
      holds'
  · intro slotId uuid storedType source isBind roomy refused
    have unchanged := refused_unchanged hm.cleared roomy refused
    have eq : m.step act = { m with out := [] } := by
      unfold step
      rw [isBind]
      exact unchanged
    rw [eq]
    exact ⟨rfl, rfl, rfl⟩

theorem seated_init (repo : MoonlightHostRepository) : Seated { repo := repo } := by
  refine ⟨roster_init repo, ?_, ?_, ?_⟩
  · intro uuid
    simp [slotsOf]
  · intro id c found
    simp [chart] at found
  · intro uuid id c slot n _ filed
    simp at filed

/-- **Bindings respect the room on a host.**  In every run, from any store: a slot is bound to one
host, a host carries four bindings at most, the pads of a host's session are bound to it and hold
numbers of their own below four that do not change while they are attached, and a bind that is
refused changes nothing, unless it was made for a slot of another host on a host without room. -/
theorem bindings_respect_capacity (repo : MoonlightHostRepository)
    (acts : List (Outside × ManagerAct)) :
    BindingContract (run step { repo := repo } acts) ∧
      Along step BindingStep { repo := repo } acts := by
  have keeps : ∀ (m : Manager) (act : Outside × ManagerAct), m.Seated → (m.step act).Seated :=
    fun m act hm => seated_act act.1 hm.cleared act.2
  refine ⟨(run_inv keeps (seated_init repo) acts).contract, ?_⟩
  have every : Along step (fun _ _ => True) { repo := repo } acts :=
    along_of_forall fun _ _ => trivial
  exact along_of_inv (fun m act hm _ => keeps m act hm)
    (fun m act hm _ => hm.bindingStep act) (seated_init repo) every

/-- Four slots on one host and a fifth on another. -/
def fifthElsewhere : Manager :=
  run step initial (
    [("one", "A"), ("two", "A"), ("three", "A"), ("four", "A"), ("five", "B")].map
      fun (slotId, uuid) => ({}, .bindController slotId uuid 0 {}))

/-- The fifth slot is refused on the host without room, and has lost the host it was bound to. -/
theorem refused_bind_unbinds :
    fifthElsewhere.Refused {} "five" "A" 0 {} ∧ fifthElsewhere.bindings.value "five" = some "B" ∧
      (fifthElsewhere.step ({}, .bindController "five" "A" 0 {})).bindings.value "five" = none := by
  unfold Refused
  decide +kernel

end Manager

end Dish.Moonlight
