/-
Every request goes to the satellite it is about.

A request carries an id, which its reply is looked up by, and the record of the server it
goes to.  They are two arguments in the code, passed side by side through the callbacks;
that they always name one satellite is the invariant of this file.  The record a session
was opened with, which its death arms a retry for, is then one of the same satellite.
-/
import Dish.Proofs.ManagerSteps

namespace Dish

namespace Manager

variable {s : Manager} {id : SatelliteId} {server : DiscoveredServer}

/-! ### The edits -/

theorem Addressed.of_same {s' : Manager} (h : Addressed s) (hnet : s'.net = s.net)
    (hconn : s'.connections = s.connections) : Addressed s' where
  requests := hnet ▸ h.requests
  server := fun id p hp => h.server id p (by rwa [conn?, hconn] at hp)
  startedWith := fun id p hp => h.startedWith id p (by rwa [conn?, hconn] at hp)

theorem Addressed.modify (h : Addressed s) {f : Pooled → Pooled}
    (hserver : ∀ p, s.conn? id = some p → p.conn.server.id = id → (f p).conn.server.id = id)
    (hstarted : ∀ p, p.startedWith.id = id → (f p).startedWith.id = id) :
    Addressed { s with connections := s.connections.modify id f } := by
  refine ⟨h.requests, ?_, ?_⟩
  all_goals
    intro other p hp
    rw [conn?, Pool.lookup_modify, Option.map_eq_some_iff] at hp
    obtain ⟨q, hq, rfl⟩ := hp
    by_cases hid : other = id
  · subst hid
    rw [if_pos rfl]
    exact hserver q hq (h.server other q hq)
  · rw [if_neg hid]
    exact h.server other q hq
  · subst hid
    rw [if_pos rfl]
    exact hstarted q (h.startedWith other q hq)
  · rw [if_neg hid]
    exact h.startedWith other q hq

theorem addressed_send (h : Addressed s) {r : HttpRequest} (hr : r.IsAddressed) :
    Addressed (s.send r) where
  requests := by
    intro x hx
    rcases List.mem_append.mp hx with hx | hx
    · exact h.requests x hx
    · rw [List.mem_singleton.mp hx]
      exact hr
  server := h.server
  startedWith := h.startedWith

theorem addressed_ensureConnection (h : Addressed s) (server : DiscoveredServer) :
    Addressed (s.ensureConnection server) := by
  unfold ensureConnection
  split
  · exact h
  · refine ⟨h.requests, ?_, ?_⟩ <;> intro other p hp <;> (by_cases hid : other = server.id)
    · subst hid
      rw [conn?, AList.lookup_insert, Option.some.injEq] at hp
      exact hp ▸ rfl
    · rw [conn?, AList.lookup_insert_ne hid] at hp
      exact h.server other p hp
    · subst hid
      rw [conn?, AList.lookup_insert, Option.some.injEq] at hp
      exact hp ▸ rfl
    · rw [conn?, AList.lookup_insert_ne hid] at hp
      exact h.startedWith other p hp

theorem addressed : StepClosed True (fun _ => False) fun s s' => s.Addressed → s'.Addressed where
  refl _ := id
  trans h h' := h' ∘ h
  given h hs := h (fun _ => hs) hs
  note h hs := by
    simp only [books, Prod.mk.injEq] at h
    exact hs.of_same h.2.1 h.1
  make _ server hs := addressed_ensureConnection hs server
  conn hf hs := hs.modify (fun p hp => (hf p hp).2.1 trivial) fun _ => id
  send _ _ hr hs := addressed_send hs (hr trivial)
  link _ hs := hs.modify (fun p _ hp => by rw [WifiConnection.server_markConnecting]; exact hp)
    fun _ => id
  ask _ _ hr hs := addressed_send hs (hr trivial)
  start _ hid hf _ hs := hs.modify (fun p _ hp => by rw [hf]; exact hp) fun _ _ => hid trivial
  write hconn hnet hs := hs.of_same hnet hconn
  drop _ _ hs :=
    ⟨fun x hx => hs.requests x (List.mem_of_mem_eraseIdx hx), hs.server, hs.startedWith⟩
  check s k presented hs := by
    unfold handshake
    split
    · rename_i serial request hget
      refine ⟨fun x hx => ?_, hs.server, hs.startedWith⟩
      rcases List.mem_or_eq_of_mem_set hx with hx | rfl
      · exact hs.requests x hx
      · exact hs.requests ⟨serial, request, none⟩ (List.mem_of_getElem? hget)
    · exact hs
  approve _ hr hs := addressed_send hs (hr trivial)
  erase s id _ hs := by
    have herased : ∀ other p, (s.connections.erase id).lookup other = some p →
        s.conn? other = some p := by
      intro other p hp
      by_cases hid : other = id
      · subst hid
        exact absurd hp (by simp)
      · rwa [AList.lookup_erase_ne hid] at hp
    exact ⟨hs.requests, fun other p hp => hs.server other p (herased other p hp),
      fun other p hp => hs.startedWith other p (herased other p hp)⟩

theorem addressed_step (h : Addressed s) (a : ManagerAction) : Addressed (s.step a) :=
  addressed.step s (fun _ _ => id) (fun _ => False.elim) h

theorem addressed_ofStore (store : ConnectionStore) : Addressed (ofStore store) where
  requests := fun x hx => absurd hx (by simp [ofStore])
  server := fun id p hp => absurd hp (by simp [ofStore, conn?])
  startedWith := fun id p hp => absurd hp (by simp [ofStore, conn?])

/-- **Every request goes to the satellite it is about.** -/
theorem requests_addressed (store : ConnectionStore) (acts : List ManagerAction) :
    Addressed (Steps.run step (ofStore store) acts) :=
  Steps.run_inv (I := Addressed) (fun _ a h => addressed_step h a) (addressed_ofStore store) acts

end Manager

end Dish
