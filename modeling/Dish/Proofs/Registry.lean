/-
One index per device id, in every run of the registry.

`RegistryInv` states the invariant and `RegistryWrites` carries it over the steps that
write a record.  Here each access of a call is one of those steps or writes nothing, so
the invariant holds along every run whose steps are `Safe`, and what a caller of `add` may
rely on is read off it.  Nobody waits for a thread that waits, whatever the run.

A run that is not `Safe` splits an id over two records (`freed_record_splits_id`).
-/
import Dish.Proofs.RegistryWrites
import Mathlib.Logic.Relation

namespace Dish

open Steps

namespace Registry

variable {Thread : Type}

/-! ### One step -/

section Step

variable {s : Registry Thread} {t : Thread} {id : DeviceId} {i j : Nat}

variable (f : Record Thread → Record Thread)

@[simp] theorem records_modify_self (f : Record Thread → Record Thread) :
    (s.modify i f).records i = f (s.records i) := by simp [modify]

theorem records_modify_of_ne (h : j ≠ i) :
    (s.modify i f).records j = s.records j := by simp [modify, h]

theorem parity_bump (r : Record Thread) : (bump r).idSeq % 2 = (r.idSeq + 1) % 2 := by
  simp only [bump]
  omega

variable [DecidableEq Thread]

theorem writes_goto (pc : Pc) : Writes s ((s.modify i f).goto t id pc) t i :=
  ⟨fun _ hk => records_modify_of_ne f hk, fun _ hu => calls_goto_of_ne pc hu⟩

theorem writes_finish : Writes s ((s.modify i f).finish t) t i :=
  ⟨fun _ hk => records_modify_of_ne f hk, fun _ hu => calls_finish_of_ne hu⟩

section
variable (h : s.Inv)
include h

theorem Inv.access_claiming (hcall : s.calls t = some ⟨id, .claiming i⟩) :
    (s.access t id (.claiming i)).Inv := by
  simp only [access]
  split
  · next hfree =>
    have hc : Claims s ((s.modify i fun r =>
        { r with state := .claimed, claim := some (t, id) }).goto t id (.opening i)) t id i :=
      { toWrites := writes_goto _ _
        free := hfree
        before := hcall
        self := by simp
        after := calls_goto_self _
        returned := rfl }
    exact hc.inv h
  · next hfree => exact h.claimNext hcall hfree

/-- A step that writes the claimed record and moves on to the next part of the claim. -/
theorem Inv.access_pending {pc pc' : Pc} {f : Record Thread → Record Thread}
    (hcall : s.calls t = some ⟨id, pc⟩) (hpc : pc.pending = some i) (hpc' : pc'.pending = some i)
    (hclaim : (s.records i).claim = some (t, id)) (hclaimed : (s.records i).state = .claimed)
    (hkeep : (f (s.records i)).claim = (s.records i).claim)
    (hstate : (f (s.records i)).state = (s.records i).state)
    (htext : (f (s.records i)).idText = (s.records i).idText ∨ (f (s.records i)).idText = id)
    (hok : ((s.modify i f).goto t id pc').CallOk t id pc') :
    ((s.modify i f).goto t id pc').Inv := by
  have he : Edits s ((s.modify i f).goto t id pc') t id i :=
    { toWrites := writes_goto f pc'
      claim := hclaim
      claimed := hclaimed
      before := ⟨pc, hcall, hpc⟩
      claim_self := by simpa using hkeep
      state_self := by simpa using hstate
      text_self := by simpa using htext
      after := ⟨pc', calls_goto_self _, hpc', hok⟩
      returned := rfl }
  exact he.inv h

theorem Inv.access_opening (hcall : s.calls t = some ⟨id, .opening i⟩) :
    (s.access t id (.opening i)).Inv := by
  have hok : s.Pending t id i 0 := h.call t _ hcall
  refine h.access_pending hcall rfl rfl hok.claim hok.claimed rfl rfl (.inl rfl) ?_
  refine ⟨by simpa [bump] using hok.claim, by simpa [bump] using hok.claimed, ?_⟩
  have := hok.parity
  rw [records_goto, records_modify_self, parity_bump]
  omega

theorem Inv.access_writing (hcall : s.calls t = some ⟨id, .writing i⟩) :
    (s.access t id (.writing i)).Inv := by
  have hok : s.Pending t id i 1 := h.call t _ hcall
  refine h.access_pending hcall rfl rfl hok.claim hok.claimed rfl rfl (.inr rfl) ?_
  exact ⟨⟨by simpa using hok.claim, by simpa using hok.claimed, by simpa using hok.parity⟩, by simp⟩

theorem Inv.access_closing (hcall : s.calls t = some ⟨id, .closing i⟩) :
    (s.access t id (.closing i)).Inv := by
  obtain ⟨hok, htext⟩ : s.Pending t id i 1 ∧ (s.records i).idText = id := h.call t _ hcall
  refine h.access_pending hcall rfl rfl hok.claim hok.claimed rfl rfl (.inl rfl) ?_
  refine ⟨⟨by simpa [bump] using hok.claim, by simpa [bump] using hok.claimed, ?_⟩,
    by simpa [bump] using htext⟩
  have := hok.parity
  rw [records_goto, records_modify_self, parity_bump]
  omega

theorem Inv.access_publishing (hcall : s.calls t = some ⟨id, .publishing i⟩) :
    (s.access t id (.publishing i)).Inv := by
  obtain ⟨hok, -⟩ : s.Pending t id i 0 ∧ (s.records i).idText = id := h.call t _ hcall
  simp only [Registry.access, Registry.settle]
  split
  · next hpos =>
    have hp : Publishes s ((s.modify i fun r => { r with state := .live }).goto t id
        (.settling i 0)) t id i :=
      { toWrites := writes_goto _ _
        before := hcall
        self := by simp
        after := .inl ⟨_, calls_goto_self _, rfl, hpos⟩
        returned := h.returned }
    exact hp.inv h
  · next hpos =>
    obtain rfl : i = 0 := by omega
    have hp : Publishes s ((s.modify 0 fun r => { r with state := .live }).finish t) t id 0 :=
      { toWrites := writes_finish _
        before := hcall
        self := by simp
        after := .inr ⟨calls_finish_self, rfl⟩
        returned := h.returned }
    refine (hp.inv h).returns ⟨?_, fun j hj => absurd hj (Nat.not_lt_zero j)⟩
    exact holds_of_claim (t := t) (by simpa using hok.claim)

theorem Inv.access_givingBack (hcall : s.calls t = some ⟨id, .givingBack i j⟩)
    (hfree : s.FreeOk t i) : (s.access t id (.givingBack i j)).Inv := by
  obtain ⟨hpub, hlt, hlow⟩ := h.call t _ hcall
  have hholds : s.Holds id i := holds_of_claim hpub.claim
  have hf : Frees s ((s.modify i free).finish t) t id i :=
    { toWrites := writes_finish _
      live := ⟨hpub.live, h.text_of_live hpub.live hholds⟩
      self := by simp [free]
      before := fun c hc => by
        rw [hcall] at hc
        cases hc
        exact ⟨rfl, fun k hk => (Option.some_inj.mp hk).symm⟩
      after := calls_finish_self
      others := fun u hu c hc hid => by
        refine .inr ⟨?_, hpub.claim, j, hlt, hlow.1⟩
        by_contra hrem
        rcases h.alone u t c _ hc hcall hid (by simpa using hrem) with hfind | he
        · simp [Pc.isFind] at hfind
        · exact hu he
      ok := hfree
      returned := fun w k hk => by
        have hk' := h.returned w k hk
        refine ⟨hk', ?_⟩
        rintro rfl
        obtain rfl : w = id := by
          rw [← h.text_of_live hpub.live hk'.1, h.text_of_live hpub.live hholds]
        exact hk'.2 j hlt hlow.1 }
  exact (hf.inv h).returns (hf.lowest hlow (by omega))

/-- The `remove` that is about to free a record is the only call on its id, and the record
is the only one the id has. -/
theorem Inv.access_freeing (hcall : s.calls t = some ⟨id, .freeing i⟩)
    (hfree : s.FreeOk t i) : (s.access t id (.freeing i)).Inv := by
  have hlive : s.LiveAs id i := h.call t _ hcall
  have halone : ∀ u ≠ t, ∀ c ∈ s.calls u, c.id = id → c.pc.isFind = true := fun u hu c hc hid =>
    (h.alone t u _ c hcall hc hid.symm rfl).resolve_right fun he => hu he.symm
  -- The answers for the id go with it, before anything else is said about the records.
  have hinv : (s.removed t id).Inv := (h.finish hcall rfl (by simp [Pc.unsettled])).removed
  have hf : Frees s ((s.modify i free).removed t id) t id i :=
    { record := (writes_finish (s := s) (t := t) free).record
      call := (writes_finish (s := s) (i := i) free).call
      live := hlive
      self := by simp [free]
      before := fun c hc => by
        rw [hcall] at hc
        cases hc
        exact ⟨rfl, fun k hk => by simp [Pc.unsettled] at hk⟩
      after := by simp
      others := fun u hu c hc hid => .inl (halone u hu c hc hid)
      ok := hfree
      returned := fun w k hk => by
        have hk' : s.Lowest w k := hinv.returned w k hk
        refine ⟨hk', fun he => ?_⟩
        have htext : (s.records i).idText = w := h.text_of_live hlive.1 (he ▸ hk'.1)
        obtain rfl : w = id := htext.symm.trans hlive.2
        simp [Registry.removed] at hk }
  exact hf.inv h

theorem Inv.access {pc : Pc} (hcall : s.calls t = some ⟨id, pc⟩)
    (hok : s.AccessOk t id pc) : (s.access t id pc).Inv := by
  cases pc with
  | looking goal l =>
    cases l with
    | loading => exact h.look_loading hcall
    | matching => exact h.look_matching hcall
    | confirming => exact h.look_confirming hcall hok
  | claiming => exact h.access_claiming hcall
  | opening => exact h.access_opening hcall
  | writing => exact h.access_writing hcall
  | closing => exact h.access_closing hcall
  | publishing => exact h.access_publishing hcall
  | settling => exact h.access_settling hcall
  | comparing => exact h.access_comparing hcall
  | givingBack => exact h.access_givingBack hcall hok
  | freeing => exact h.access_freeing hcall hok

/-- A call begins: an `add` with the promise its condition gives, a `remove` alone. -/
theorem Inv.start {goal : LookupFor} (hok : s.CallOk t id (.looking goal (.loading 0)))
    (hadd : goal = .add → s.NoRemove id) (hremove : goal = .remove → s.Unused id) :
    (s.start t id goal).Inv := by
  unfold Registry.start
  split
  · next hnone =>
    have hother : ∀ u ≠ t, (s.goto t id (.looking goal (.loading 0))).calls u = s.calls u :=
      fun u hu => calls_goto_of_ne _ hu
    have hkept : ReachKept s (s.goto t id (.looking goal (.loading 0))) t := by
      intro w p hp
      refine .inl ?_
      simp only [reachOf, calls_goto_self, Option.bind_some] at hp
      split at hp
      · cases goal <;> simp_all [Pc.reach]
      · simp at hp
    refine h.move rfl rfl hother hkept (fun i => ⟨by simp [hnone], by simp [hnone]⟩) ?_
      fun v u c d hc hd hid hrem => ?_
    · intro d hd
      rw [calls_goto_self, Option.some_inj] at hd
      subst hd
      exact hok
    · by_cases hv : v = t <;> by_cases hu : u = t
      · exact .inr (hv.trans hu.symm)
      · subst hv
        rw [calls_goto_self, Option.some_inj] at hc
        subst hc
        rw [hother u hu] at hd
        cases goal with
        | remove => exact .inl (hremove rfl u d hd hid.symm)
        | find | add => simp [Pc.isRemove] at hrem
      · subst hu
        rw [calls_goto_self, Option.some_inj] at hd
        subst hd
        rw [hother v hv] at hc
        cases goal with
        | find => exact .inl rfl
        | add => simp [hadd rfl v c hc hid] at hrem
        | remove =>
          have hfind := hremove rfl v c hc hid
          cases hpc : c.pc <;> simp_all [Pc.isRemove, Pc.isFind]
          rename_i goal l
          cases goal <;> simp_all
      · rw [hother v hv] at hc
        rw [hother u hu] at hd
        exact h.alone v u c d hc hd hid hrem
  · exact h

/-- **What one step keeps.** -/
theorem Inv.step (a : RegistryAction Thread) (hok : s.Safe a) : (s.step a).Inv := by
  cases a with
  | find => exact h.start trivial (by simp) (by simp)
  | add =>
    simp only [Registry.step]
    split
    · exact h
    · exact h.start hok.2 (fun _ => hok.1) (by simp)
  | remove => exact h.start trivial (by simp) fun _ => hok
  | advance =>
    simp only [Registry.step]
    split
    · exact h
    · next c hcall => exact h.access hcall (hok c hcall)

end

end Step

/-! ### Waiting -/

section Waits

/-- `t` has published its record and waits for `u` to publish the lower one it has claimed. -/
def WaitsFor (s : Registry Thread) (t u : Thread) : Prop :=
  ∃ c d i j, s.calls t = some c ∧ c.pc = .settling i j ∧ (s.records j).state = .claimed ∧
    s.calls u = some d ∧ d.pc.pending = some j

variable {s : Registry Thread} {t u : Thread}

theorem WaitsFor.not_waiting (h : s.WaitsFor t u) (v : Thread) : ¬ s.WaitsFor u v := by
  rintro ⟨c, -, i, j, hcall, hpc, -⟩
  obtain ⟨-, d, -, k, -, -, -, hcall', hpending⟩ := h
  rw [hcall, Option.some_inj] at hcall'
  simp [← hcall', hpc, Pc.pending] at hpending

theorem waitsFor_acyclic (s : Registry Thread) (t : Thread) :
    ¬ Relation.TransGen s.WaitsFor t t := by
  intro h
  obtain ⟨u, htu, hut⟩ := Relation.TransGen.head'_iff.mp h
  rcases Relation.ReflTransGen.cases_head hut with rfl | ⟨v, huv, -⟩
  · exact htu.not_waiting _ htu
  · exact htu.not_waiting v huv

variable [DecidableEq Thread] {id : DeviceId} {j : Nat}

/-- A claimed record is published by the next four accesses of the thread that claimed it. -/
theorem publishes_within {pc : Pc} (hcall : s.calls u = some ⟨id, pc⟩)
    (hpc : pc.pending = some j) : ∃ n ≤ 4,
      ((run step s (List.replicate n (.advance u))).records j).state = .live := by
  have hpublish : ∀ s : Registry Thread, s.calls u = some ⟨id, .publishing j⟩ →
      ((step s (.advance u)).records j).state = .live := by
    intro s hcall
    simp only [step, hcall, access, settle]
    split <;> simp
  have hclose : ∀ s : Registry Thread, s.calls u = some ⟨id, .closing j⟩ →
      (step s (.advance u)).calls u = some ⟨id, .publishing j⟩ := by
    intro s hcall
    simp [step, hcall, access]
  have hwrite : ∀ s : Registry Thread, s.calls u = some ⟨id, .writing j⟩ →
      (step s (.advance u)).calls u = some ⟨id, .closing j⟩ := by
    intro s hcall
    simp [step, hcall, access]
  have hopen : ∀ s : Registry Thread, s.calls u = some ⟨id, .opening j⟩ →
      (step s (.advance u)).calls u = some ⟨id, .writing j⟩ := by
    intro s hcall
    simp [step, hcall, access]
  cases pc with
  | opening i =>
    obtain rfl : i = j := by simpa [Pc.pending] using hpc
    exact ⟨4, by omega, hpublish _ (hclose _ (hwrite _ (hopen _ hcall)))⟩
  | writing i =>
    obtain rfl : i = j := by simpa [Pc.pending] using hpc
    exact ⟨3, by omega, hpublish _ (hclose _ (hwrite _ hcall))⟩
  | closing i =>
    obtain rfl : i = j := by simpa [Pc.pending] using hpc
    exact ⟨2, by omega, hpublish _ (hclose _ hcall)⟩
  | publishing i =>
    obtain rfl : i = j := by simpa [Pc.pending] using hpc
    exact ⟨1, by omega, hpublish _ hcall⟩
  | _ => simp [Pc.pending] at hpc

end Waits

/-! ### Every run -/

section Run

theorem inv_empty : ({} : Registry Thread).Inv where
  record i := ⟨rfl, rfl⟩
  call t c hc := by simp at hc
  returned id i hi := by simp at hi
  alone t u c d hc := by simp at hc

variable {s : Registry Thread} {id : DeviceId} {i j : Nat}

theorem Inv.lowest_of_quiet (h : s.Inv) (hquiet : ∀ t, s.calls t = none) (hi : s.LiveAs id i) :
    s.Lowest id i := by
  have hrec := h.record i
  simp only [RecordOk, hi.1] at hrec
  obtain ⟨-, -, t, -, hlow | ⟨pc, hcall, -⟩⟩ := hrec
  · exact hi.2 ▸ hlow
  · simp [hquiet] at hcall

theorem Inv.live_of_quiet (h : s.Inv) (hquiet : ∀ t, s.calls t = none) (hi : s.Holds id i) :
    s.LiveAs id i := by
  cases hstate : (s.records i).state with
  | free => exact absurd hi (h.not_holds_of_free hstate)
  | claimed =>
    have hrec := h.record i
    simp only [RecordOk, hstate] at hrec
    obtain ⟨-, t, w, pc, -, hcall, -⟩ := hrec
    simp [hquiet] at hcall
  | live => exact ⟨hstate, h.text_of_live hstate hi⟩

variable [DecidableEq Thread]

theorem run_inv {acts : List (RegistryAction Thread)}
    (hsafe : Along step Safe ({} : Registry Thread) acts) :
    (run step ({} : Registry Thread) acts).Inv :=
  run_keeps (I := Inv) (fun _ a h hok => h.step a hok) inv_empty hsafe

/-- **One index per id.**  In a run whose steps are all `Safe`, every `add` of an id since
its last `remove` has answered the same index; once no call is running that index is live
with the id and no other record is; and whoever waits, waits for a thread that does not
wait itself and publishes within its next four accesses. -/
theorem one_index_per_id (acts : List (RegistryAction Thread))
    (hsafe : Along step Safe ({} : Registry Thread) acts) :
    let s := run step ({} : Registry Thread) acts
    (∀ id, ∀ i ∈ s.returned id, ∀ j ∈ s.returned id, i = j) ∧
      ((∀ t, s.calls t = none) →
        (∀ id i j, s.LiveAs id i → s.LiveAs id j → i = j) ∧
          ∀ id, ∀ i ∈ s.returned id, s.LiveAs id i) ∧
      (∀ t, ¬ Relation.TransGen s.WaitsFor t t) ∧
      ∀ t c i j, s.calls t = some c → c.pc = .settling i j → (s.records j).state = .claimed →
        ∃ u, s.WaitsFor t u ∧ ∃ n ≤ 4,
          ((run step s (List.replicate n (.advance u))).records j).state = .live := by
  intro s
  have h : s.Inv := run_inv hsafe
  refine ⟨fun id i hi j hj => ?_, fun hquiet => ⟨fun id i j hi hj => ?_, fun id i hi => ?_⟩,
    waitsFor_acyclic s, fun t c i j hcall hpc hj => ?_⟩
  · exact (h.returned id i hi).eq (h.returned id j hj)
  · exact (h.lowest_of_quiet hquiet hi).eq (h.lowest_of_quiet hquiet hj)
  · exact h.live_of_quiet hquiet (h.returned id i hi).1
  · have hrec := h.record j
    simp only [RecordOk, hj] at hrec
    obtain ⟨-, u, id, pc, -, hcall', hpc'⟩ := hrec
    exact ⟨u, ⟨c, _, i, j, hcall, hpc, hj, hcall', hpc'⟩, publishes_within hcall' hpc'⟩

end Run

/-! ### What a freed record does -/

/-- The accesses of a lookup that finds nothing. -/
def walk {Thread : Type} (t : Thread) : List (RegistryAction Thread) :=
  List.replicate kMaxDevices (.advance t)

/-- Two threads add an id at once.  The one that claims the lower record publishes last, and
the other gives its record back. -/
def twoAdds : List (RegistryAction (Fin 2)) :=
  [.add 0 [1], .add 1 [1]] ++ walk 0 ++ walk 1 ++ [.advance 0] ++
    List.replicate 7 (.advance 1) ++ List.replicate 4 (.advance 0) ++
    List.replicate 4 (.advance 1)

set_option maxRecDepth 4000 in
theorem two_adds_agree :
    (run step ({} : Registry (Fin 2)) twoAdds).returned [1] = [0, 0] ∧
      ∀ i ∈ (run step ({} : Registry (Fin 2)) twoAdds).returned [1],
        ∀ j ∈ (run step ({} : Registry (Fin 2)) twoAdds).returned [1], i = j :=
  ⟨by decide +kernel, (one_index_per_id twoAdds (by decide +kernel)).1 [1]⟩

/-- Threads 1 and 2 look up an id that is not there.  Thread 1 claims record 1, because
record 0 is another device's, and is done; then that device is removed and thread 2 claims
record 0. -/
def freedUnderneath : List (RegistryAction (Fin 3)) :=
  [.add 0 [9]] ++ walk 0 ++ List.replicate 5 (.advance 0) ++
    -- Comparing the id of record 0 takes each lookup two accesses more.
    [.add 1 [1], .add 2 [1]] ++ walk 1 ++ walk 2 ++ List.replicate 2 (.advance 2) ++
    List.replicate 11 (.advance 1) ++
    [.remove 0 [9]] ++ List.replicate 5 (.advance 0) ++ List.replicate 5 (.advance 2)

set_option maxRecDepth 4000 in
theorem freed_record_splits_id :
    let s := run step ({} : Registry (Fin 3)) freedUnderneath
    (∀ t, s.calls t = none) ∧ s.LiveAs [1] 0 ∧ s.LiveAs [1] 1 ∧ s.returned [1] = [0, 1] := by
  decide +kernel

end Registry

end Dish
