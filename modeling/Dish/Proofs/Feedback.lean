/-
Every connection in the pool delivers feedback, on a participant of its own.

Under the condition of the run theorem (`FreshId`) an id is wired when its connection is
created and never again, so the ids that are wired and the ids that have a participant are
the same list, and each connection's participant is its id's place in it.
-/
import Dish.AppModel
import Mathlib.Data.List.Nodup

namespace Dish

open Steps

namespace FeedbackWiring

/-- A connection is created for an id that has had none before, while a participant is left. -/
def FreshId (s : FeedbackWiring) : PoolChange → Prop
  | .ensureConnection id =>
    id ∈ s.pool.map (·.id) ∨
      id ∉ s.rumbleWiredConnections ∧ s.rumbleWiredConnections.length < kSessionParticipants
  | .forget _ => True

instance (s : FeedbackWiring) (a : PoolChange) : Decidable (s.FreshId a) := by
  unfold FreshId
  split <;> infer_instance

/-- The connection's handlers are installed on the participant of its id. -/
def Wired (ids : List SatelliteId) (conn : WiredConnection) : Prop :=
  conn.id ∈ ids ∧ conn.handlers = .on (kDeviceParticipants + ids.idxOf conn.id)

structure Inv (s : FeedbackWiring) : Prop where
  nodup : (s.pool.map (·.id)).Nodup
  same : s.rumbleWiredConnections = s.sessionParticipants
  wired : ∀ conn ∈ s.pool, Wired s.sessionParticipants conn

variable {s : FeedbackWiring} {ids : List SatelliteId} {conn : WiredConnection}

theorem wireAll_of_wired {rest : List WiredConnection}
    (h : ∀ conn ∈ rest, conn.id ∈ s.rumbleWiredConnections) : s.wireAll rest = (s, rest) := by
  induction rest with
  | nil => rfl
  | cons conn rest ih =>
    have hconn : s.wire conn = (s, conn) := if_pos (h conn List.mem_cons_self)
    simp only [wireAll, hconn, ih fun c hc => h c (List.mem_cons_of_mem conn hc)]

theorem wireAll_append (xs ys : List WiredConnection) :
    s.wireAll (xs ++ ys) =
      (((s.wireAll xs).1.wireAll ys).1, (s.wireAll xs).2 ++ ((s.wireAll xs).1.wireAll ys).2) := by
  induction xs generalizing s with
  | nil => rfl
  | cons conn rest ih => simp [wireAll, ih]

theorem installFeedbackHandlers_new {id : SatelliteId} (hnew : id ∉ ids)
    (hlt : ids.length < kSessionParticipants) :
    installFeedbackHandlers ids id = (ids ++ [id], some (kDeviceParticipants + ids.length)) := by
  have hnone : ids.idxOf? id = none := List.idxOf?_eq_none_iff.mpr hnew
  simp [installFeedbackHandlers, hnone, Nat.not_le.mpr hlt]

theorem Wired.append (h : Wired ids conn) (id : SatelliteId) : Wired (ids ++ [id]) conn := by
  refine ⟨List.mem_append_left _ h.1, ?_⟩
  rw [List.idxOf_append_of_mem h.1]
  exact h.2

theorem Inv.step_ensureConnection (h : s.Inv) {id : SatelliteId}
    (hfresh : s.FreshId (.ensureConnection id)) : (s.step (.ensureConnection id)).Inv := by
  simp only [step]
  split
  · exact h
  · next hpool =>
    obtain ⟨hnew, hlt⟩ := hfresh.resolve_left hpool
    have hold : ∀ conn ∈ s.pool, conn.id ∈ s.rumbleWiredConnections := fun conn hc =>
      h.same ▸ (h.wired conn hc).1
    have hnew' : id ∉ s.sessionParticipants := h.same ▸ hnew
    have hinstall := installFeedbackHandlers_new hnew' (h.same ▸ hlt)
    -- The loop leaves the old connections alone and wires the new one, which is last.
    have hloop : installRumbleHandlers { s with pool := s.pool ++ [{ id := id }] } =
        { pool := s.pool ++
            [{ id := id, handlers := .on (kDeviceParticipants + s.sessionParticipants.length) }]
          rumbleWiredConnections := s.rumbleWiredConnections ++ [id]
          sessionParticipants := s.sessionParticipants ++ [id] } := by
      have hdone := wireAll_of_wired (s := { s with pool := s.pool ++ [{ id := id }] }) hold
      simp [installRumbleHandlers, wireAll_append, hdone, wireAll, wire, hnew, hinstall]
    rw [hloop]
    refine ⟨?_, by rw [h.same], fun conn hc => ?_⟩
    · rw [List.map_append, List.nodup_append]
      refine ⟨h.nodup, by simp, fun a ha b hb => ?_⟩
      rintro rfl
      obtain rfl : a = id := by simpa using hb
      exact hpool ha
    · rcases List.mem_append.mp hc with hc | hc
      · exact (h.wired conn hc).append id
      · obtain rfl := List.mem_singleton.mp hc
        refine ⟨by simp, ?_⟩
        rw [List.idxOf_append_of_notMem hnew']
        simp

theorem Inv.step_forget (h : s.Inv) (id : SatelliteId) : (s.step (.forget id)).Inv := by
  simp only [step]
  split
  · have hold : ∀ conn ∈ s.pool.filter (·.id ≠ id), conn.id ∈ s.rumbleWiredConnections :=
      fun conn hc => h.same ▸ (h.wired conn (List.mem_of_mem_filter hc)).1
    have hloop : installRumbleHandlers { s with pool := s.pool.filter (·.id ≠ id) } =
        { s with pool := s.pool.filter (·.id ≠ id) } := by
      have hdone := wireAll_of_wired (s := { s with pool := s.pool.filter (·.id ≠ id) }) hold
      simp only [installRumbleHandlers, hdone]
    rw [hloop]
    refine ⟨?_, h.same, fun conn hc => h.wired conn (List.mem_of_mem_filter hc)⟩
    exact h.nodup.sublist (List.filter_sublist.map _)
  · exact h

/-- **What one change of the pool keeps.** -/
theorem Inv.step (h : s.Inv) (a : PoolChange) (hfresh : s.FreshId a) : (s.step a).Inv := by
  cases a with
  | ensureConnection => exact h.step_ensureConnection hfresh
  | forget id => exact h.step_forget id

/-- **Every pooled connection can deliver feedback.**  After changes of the pool that create
no id twice and no more ids than there are participants, every connection has all its
handlers, and no two have the same participant. -/
theorem pooled_connections_wired (acts : List PoolChange)
    (hfresh : Along step FreshId ({} : FeedbackWiring) acts) :
    let s := run step ({} : FeedbackWiring) acts
    ∃ participant : SatelliteId → Nat,
      (∀ conn ∈ s.pool, conn.handlers = .on (participant conn.id)) ∧
        (s.pool.map fun conn => participant conn.id).Nodup := by
  intro s
  have h : s.Inv := run_keeps (I := Inv) (fun _ a hs => hs.step a)
    ⟨List.nodup_nil, rfl, fun _ hc => absurd hc List.not_mem_nil⟩ hfresh
  refine ⟨fun id => kDeviceParticipants + s.sessionParticipants.idxOf id,
    fun conn hc => (h.wired conn hc).2, ?_⟩
  have hmap : (s.pool.map fun conn => kDeviceParticipants + s.sessionParticipants.idxOf conn.id) =
      (s.pool.map (·.id)).map fun id => kDeviceParticipants + s.sessionParticipants.idxOf id := by
    simp
  rw [hmap]
  refine List.Nodup.map_on (fun a ha b _ hab => ?_) h.nodup
  obtain ⟨conn, hconn, rfl⟩ := List.mem_map.mp ha
  exact (List.idxOf_inj (h.wired conn hconn).1).mp (Nat.add_left_cancel hab)

/-- Two satellites are paired, one is forgotten and a third takes its place. -/
theorem replaced_satellite_wired :
    let acts : List PoolChange :=
      [.ensureConnection (.mid "a"), .ensureConnection (.mid "b"), .forget (.mid "a"),
        .ensureConnection (.mid "c")]
    ∃ participant : SatelliteId → Nat,
      (∀ conn ∈ (run step ({} : FeedbackWiring) acts).pool,
        conn.handlers = .on (participant conn.id)) ∧
        ((run step ({} : FeedbackWiring) acts).pool.map fun conn => participant conn.id).Nodup :=
  pooled_connections_wired _ (by decide +kernel)

/-- A satellite that is forgotten and paired again comes back without a handler. -/
theorem forgotten_satellite_unwired :
    (run step ({} : FeedbackWiring)
      [.ensureConnection (.mid "a"), .forget (.mid "a"), .ensureConnection (.mid "a")]).pool =
      [{ id := .mid "a", handlers := {} }] := by
  decide +kernel

end FeedbackWiring

end Dish
