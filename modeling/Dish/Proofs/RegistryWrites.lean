/-
The steps that write a record of the registry.

There are four: the exchange that claims a record, the writes of its id text, the store
that publishes it and the store that frees it.  Each is described by what it does to the
record and to the call that makes it (`Claims`, `Edits`, `Publishes`, `Frees`), and each
keeps the invariant: what it leaves to the calls of the other threads is `Leaves`.
-/
import Dish.Proofs.RegistryInv

namespace Dish

namespace Registry

variable {Thread : Type}

/-! ### What the other threads keep -/

section Write

variable {s s' : Registry Thread} {t u : Thread} {id : DeviceId} {i : Nat} {pc : Pc}

/-- What a step of another thread has to leave to a call on `id`: the record the call has,
and what it knows about the records of its id. -/
structure Leaves (s s' : Registry Thread) (u : Thread) (id : DeviceId) (pc : Pc) : Prop where
  searching : ∀ p ∈ pc.reach, s'.CallOk u id pc
  pending : ∀ k p, s.Pending u id k p → s'.records k = s.records k
  published : ∀ k, s.Published u id k → pc.unsettled = some k → s'.records k = s.records k
  below : ∀ k, s.Holds id k → ∀ j, (∀ h < j, ¬ s.Holds id h) → ∀ h < j, ¬ s'.Holds id h
  lowest : pc.unsettled ≠ none → ∀ m, s.Lowest id m → s'.Lowest id m
  comparable : ∀ k, s.Published u id k → pc.unsettled = some k → ∀ j r,
    (∀ h < j, ¬ s.Holds id h) → s.Comparable id j r → s'.Comparable id j r
  removing : pc.isRemove = true → ∀ k,
    (s.LiveAs id k → s'.LiveAs id k) ∧ ((s.records k).idText ≠ id → (s'.records k).idText ≠ id)

theorem CallOk.frame (hl : Leaves s s' u id pc) (h : s.CallOk u id pc) : s'.CallOk u id pc := by
  cases pc with
  | looking goal l =>
    cases goal with
    | find => trivial
    | add => exact hl.searching 0 rfl
    | remove =>
      have hrem := hl.removing rfl
      cases l with
      | loading => trivial
      | matching k => exact h.imp (hrem k).1 (hrem k).2
      | confirming k => exact (hrem k).1 h
  | claiming p => exact hl.searching p rfl
  | opening k => exact h.congr (hl.pending k 0 h)
  | writing k => exact h.congr (hl.pending k 1 h)
  | closing k => exact ⟨h.1.congr (hl.pending k 1 h.1), hl.pending k 1 h.1 ▸ h.2⟩
  | publishing k => exact ⟨h.1.congr (hl.pending k 0 h.1), hl.pending k 0 h.1 ▸ h.2⟩
  | settling k j =>
    obtain ⟨hpub, hlt, hbelow⟩ := h
    exact ⟨hpub.congr (hl.published k hpub rfl), hlt,
      hl.below k (holds_of_claim hpub.claim) j hbelow⟩
  | comparing k j r =>
    obtain ⟨hpub, hlt, hbelow, hcomp⟩ := h
    exact ⟨hpub.congr (hl.published k hpub rfl), hlt,
      hl.below k (holds_of_claim hpub.claim) j hbelow, hl.comparable k hpub rfl j r hbelow hcomp⟩
  | givingBack k j =>
    obtain ⟨hpub, hlt, hlow⟩ := h
    exact ⟨hpub.congr (hl.published k hpub rfl), hlt, hl.lowest (by simp [Pc.unsettled]) j hlow⟩
  | freeing k => exact (hl.removing rfl k).1 h

end Write

section Write

variable {s s' : Registry Thread} {t u : Thread} {id w : DeviceId} {i k m : Nat}

variable {p : Nat} {l : Lookup}

/-- A step of `t` that writes record `i`. -/
structure Writes (s s' : Registry Thread) (t : Thread) (i : Nat) : Prop where
  record : ∀ k ≠ i, s'.records k = s.records k
  call : ∀ u ≠ t, s'.calls u = s.calls u

/-! #### Claiming -/

/-- `t` claims record `i` for `id`. -/
structure Claims (s s' : Registry Thread) (t : Thread) (id : DeviceId) (i : Nat) : Prop
    extends Writes s s' t i where
  free : (s.records i).state = .free
  before : s.calls t = some ⟨id, .claiming i⟩
  self : s'.records i = { s.records i with state := .claimed, claim := some (t, id) }
  after : s'.calls t = some ⟨id, .opening i⟩
  returned : s'.returned = s.returned

section
variable (hc : Claims s s' t id i) (h : s.Inv)
include hc h

theorem Claims.holds : s'.Holds w k ↔ s.Holds w k ∨ (w = id ∧ k = i) := by
  by_cases hk : k = i
  · subst hk
    have hnot : ¬ s.Holds w k := h.not_holds_of_free hc.free
    unfold Holds at hnot ⊢
    rw [hc.self]
    simp [hnot, eq_comm]
  · simp [Holds, hc.record k hk, hk]

theorem Claims.isOpen : s.Open t id i := by
  have hok := h.call t _ hc.before
  exact hok.2 i hok.1 (Nat.le_refl i) hc.free

theorem Claims.lowest (hm : s.Lowest w m) : s'.Lowest w m := by
  refine ⟨(hc.holds h).mpr (.inl hm.1), fun j hj hholds => ?_⟩
  rcases (hc.holds h).mp hholds with hold | ⟨rfl, rfl⟩
  · exact hm.2 j hj hold
  · exact absurd (h.lt_of_open (hc.isOpen h) hc.free hm) (by omega)

/-- No record of an id that has one comes to lie below what a call has seen of it. -/
theorem Claims.below (hk : s.Holds w k) {j : Nat}
    (hj : ∀ b < j, ¬ s.Holds w b) : ∀ b < j, ¬ s'.Holds w b := by
  intro b hb hholds
  rcases (hc.holds h).mp hholds with hold | ⟨rfl, rfl⟩
  · exact hj b hb hold
  · obtain ⟨m, -, hm⟩ := exists_lowest hk
    have hlt := h.lt_of_open (hc.isOpen h) hc.free hm
    exact hj m (by omega) hm.1

/-- What is open to another thread stays open: the claim puts a record under it, or is of
another id. -/
theorem Claims.open_other (hu : u ≠ t) (hk : k ≠ i) (hopen : s.Open u w k) : s'.Open u w k := by
  rcases hopen with ⟨j, hj, hold⟩ | ⟨hall, hothers⟩
  · exact .inl ⟨j, hj, (hc.holds h).mpr (.inl hold)⟩
  · by_cases hw : w = id
    · subst hw
      have hreach : i ∈ s.reachOf t w := by simp [reachOf, hc.before, Pc.reach]
      have hle := hothers t hu.symm i hreach
      exact .inl ⟨i, by omega, (hc.holds h).mpr (.inr ⟨rfl, rfl⟩)⟩
    · refine .inr ⟨fun j hj hold => ?_, fun v hv p hp => ?_⟩
      · exact hall j hj (((hc.holds h).mp hold).resolve_right fun he => hw he.1)
      · by_cases hvt : v = t
        · subst hvt
          simp [reachOf, hc.after, Pc.reach] at hp
        · rw [reachOf_congr (hc.call v hvt)] at hp
          exact hothers v hv p hp

theorem Claims.clear (hu : u ≠ t) (hclear : s.Clear u w p) : s'.Clear u w p := by
  intro k hk hp hfree
  have hki : k ≠ i := by
    rintro rfl
    simp [hc.self] at hfree
  rw [hc.record k hki] at hfree
  exact hc.open_other h hu hki (hclear k hk hp hfree)

theorem Claims.willFind (hw : s.WillFind w l) : s'.WillFind w l := by
  obtain ⟨m, hm, hlow, hlive, hbefore⟩ := hw
  have hmi : m ≠ i := by
    rintro rfl
    simp [hc.free] at hlive
  exact ⟨m, hm, hc.lowest h hlow, by rw [hc.record m hmi]; exact hlive,
    by rw [hc.record m hmi]; exact hbefore⟩

theorem Claims.leaves (hu : u ≠ t) {pc : Pc} (hok : s.CallOk u w pc) : Leaves s s' u w pc where
  searching p hp := by
    cases pc with
    | looking goal =>
      cases goal with
      | add => exact hok.imp (hc.willFind h) (hc.clear h hu)
      | find | remove => simp [Pc.reach] at hp
    | claiming => exact ⟨hok.1, hc.clear h hu hok.2⟩
    | _ => simp [Pc.reach] at hp
  pending k p hk := hc.record k (by rintro rfl; simpa [hc.free] using hk.claimed)
  published k hk _ := hc.record k (by rintro rfl; simpa [hc.free] using hk.live)
  below k hk j hj := hc.below h hk hj
  lowest _ m hm := hc.lowest h hm
  comparable k hk _ j r hj hcomp := by
    rcases hcomp with ⟨hnot, htext⟩ | ⟨hold, hlive, hbefore⟩
    · refine .inl ⟨fun hholds => ?_, ?_⟩
      · -- Every record of `w` is at or above `j`, so one at `j` would be below the others.
        refine hc.below h (holds_of_claim hk.claim) (j := j + 1) (fun b hb => ?_) j
          (Nat.lt_succ_self j) hholds
        rcases Nat.lt_succ_iff_lt_or_eq.mp hb with hb | rfl
        · exact hj b hb
        · exact hnot
      · by_cases hji : j = i
        · subst hji
          rw [hc.self]
          exact htext
        · rw [hc.record j hji]
          exact htext
    · have hji : j ≠ i := by
        rintro rfl
        simpa [hc.free] using hlive.1
      exact .inr ⟨(hc.holds h).mpr (.inl hold), hlive.congr (hc.record j hji),
        by rw [hc.record j hji]; exact hbefore⟩
  removing hrem k := by
    by_cases hk : k = i
    · subst hk
      refine ⟨fun hlive => ?_, fun htext => by rw [hc.self]; exact htext⟩
      simpa [hc.free] using hlive.1
    · rw [hc.record k hk]
      exact ⟨LiveAs.congr (hc.record k hk), fun htext => htext⟩

theorem Claims.inv : s'.Inv := by
  have hlt : i < kMaxDevices := (h.call t _ hc.before).1
  refine ⟨fun k => ?_, fun u d hd => ?_, fun w j hj => ?_, ?_⟩
  · by_cases hk : k = i
    · subst hk
      simp only [RecordOk, hc.self]
      exact ⟨hlt, t, id, .opening k, rfl, hc.after, rfl⟩
    · refine (h.record k).frame (hc.record k hk) hc.call (fun w => hc.lowest h) ?_
      exact .of_call hc.before (by simp [Pc.pending]) (by simp [Pc.unsettled])
  · by_cases hu : u = t
    · subst hu
      rw [hc.after, Option.some_inj] at hd
      subst hd
      have heven := h.record i
      simp only [RecordOk, hc.free] at heven
      exact ⟨by rw [hc.self], by rw [hc.self], by rw [hc.self]; exact heven.2⟩
    · rw [hc.call u hu] at hd
      have hok := h.call u d hd
      exact hok.frame (hc.leaves h hu hok)
  · rw [hc.returned] at hj
    exact hc.lowest h (h.returned w j hj)
  · refine h.alone_frame hc.call fun d hd => ?_
    rw [hc.after, Option.some_inj] at hd
    subst hd
    exact ⟨_, hc.before, rfl, rfl, rfl⟩

end

/-! #### Writing a claimed record -/

/-- `t` writes the record it has claimed for `id` and leaves the claim. -/
structure WritesOwn (s s' : Registry Thread) (t : Thread) (id : DeviceId) (i : Nat) : Prop
    extends Writes s s' t i where
  claim : (s.records i).claim = some (t, id)
  claimed : (s.records i).state = .claimed
  before : ∃ pc, s.calls t = some ⟨id, pc⟩ ∧ pc.pending = some i
  claim_self : (s'.records i).claim = (s.records i).claim
  text_self : (s'.records i).idText = (s.records i).idText ∨ (s'.records i).idText = id

/-- It keeps the record and claims nothing more. -/
structure Rewrites (s s' : Registry Thread) (t : Thread) (id : DeviceId) (i : Nat) : Prop
    extends WritesOwn s s' t id i where
  taken : (s'.records i).state ≠ .free
  reach : ∀ w, s'.reachOf t w = none

namespace Rewrites

variable (he : Rewrites s s' t id i)
include he

theorem holds : s'.Holds = s.Holds := by
  funext w k
  by_cases hk : k = i
  · subst hk
    simp [Holds, he.claim_self]
  · simp [Holds, he.record k hk]

theorem lowest : s'.Lowest = s.Lowest := by
  funext w k
  simp [Lowest, he.holds]

theorem live (hk : (s.records k).state = .live) : s'.records k = s.records k :=
  he.record k (by rintro rfl; simp [he.claimed] at hk)

theorem clear (hclear : s.Clear u w p) : s'.Clear u w p := by
  intro k hk hp hfree
  have hki : k ≠ i := by
    rintro rfl
    exact he.taken hfree
  rw [he.record k hki] at hfree
  refine (hclear k hk hp hfree).imp (he.holds ▸ ·) fun ⟨hall, hothers⟩ =>
    ⟨he.holds ▸ hall, fun v hv q hq => ?_⟩
  by_cases hvt : v = t
  · subst hvt
    simp [he.reach] at hq
  · rw [reachOf_congr (he.call v hvt)] at hq
    exact hothers v hv q hq

theorem willFind (hw : s.WillFind w l) : s'.WillFind w l := by
  obtain ⟨m, hm, hlow, hlive, hbefore⟩ := hw
  exact ⟨m, hm, he.lowest ▸ hlow, by rw [he.live hlive]; exact hlive,
    by rw [he.live hlive]; exact hbefore⟩

theorem text_ne (hk : k = i → w ≠ id) (htext : (s.records k).idText ≠ w) :
    (s'.records k).idText ≠ w := by
  by_cases hki : k = i
  · subst hki
    rcases he.text_self with hsame | hid
    · rwa [hsame]
    · rw [hid]
      exact (hk rfl).symm
  · rwa [he.record k hki]

theorem leaves (h : s.Inv) (hu : u ≠ t) {pc : Pc}
    (hcall : s.calls u = some ⟨w, pc⟩) : Leaves s s' u w pc where
  searching p hp := by
    have hok := h.call u _ hcall
    cases pc with
    | looking goal =>
      cases goal with
      | add => exact hok.imp he.willFind he.clear
      | find | remove => simp [Pc.reach] at hp
    | claiming => exact ⟨hok.1, he.clear hok.2⟩
    | _ => simp [Pc.reach] at hp
  pending k p hk := he.record k (by
    rintro rfl
    have := hk.claim.symm.trans he.claim
    simp_all)
  published k hk _ := he.live hk.live
  below k _ j hj := he.holds ▸ hj
  lowest _ m hm := he.lowest ▸ hm
  comparable k _ _ j r _ hcomp := by
    rcases hcomp with ⟨hnot, htext⟩ | ⟨hold, hlive, hbefore⟩
    · refine .inl ⟨he.holds ▸ hnot, he.text_ne ?_ htext⟩
      rintro rfl rfl
      exact hnot (holds_of_claim he.claim)
    · exact .inr ⟨he.holds ▸ hold, hlive.congr (he.live hlive.1),
        by rw [he.live hlive.1]; exact hbefore⟩
  removing hrem k := by
    refine ⟨fun hlive => hlive.congr (he.live hlive.1), he.text_ne fun _ => ?_⟩
    rintro rfl
    -- A `remove` of the id is running, so no `add` of it is.
    obtain ⟨pc', hcall', hpc'⟩ := he.before
    rcases h.alone u t _ _ hcall hcall' rfl hrem with hfind | rfl
    · cases pc' <;> simp_all [Pc.pending, Pc.isFind]
    · exact hu rfl

end Rewrites

theorem not_reach_of_pending {pc : Pc} (h : pc.pending = some i) : pc.reach = none := by
  cases pc <;> simp_all [Pc.pending, Pc.reach]

/-- `t` writes the id text of the record it has claimed. -/
structure Edits (s s' : Registry Thread) (t : Thread) (id : DeviceId) (i : Nat) : Prop
    extends WritesOwn s s' t id i where
  state_self : (s'.records i).state = (s.records i).state
  after : ∃ pc, s'.calls t = some ⟨id, pc⟩ ∧ pc.pending = some i ∧ s'.CallOk t id pc
  returned : s'.returned = s.returned

theorem Edits.rewrites (he : Edits s s' t id i) : Rewrites s s' t id i where
  toWritesOwn := he.toWritesOwn
  taken := by simp [he.state_self, he.claimed]
  reach w := by
    obtain ⟨pc, hcall, hpc, -⟩ := he.after
    simp [reachOf, hcall, not_reach_of_pending hpc]

theorem Edits.inv (he : Edits s s' t id i) (h : s.Inv) : s'.Inv := by
  obtain ⟨pc, hcall, hpc⟩ := he.before
  obtain ⟨pc', hcall', hpc', hok'⟩ := he.after
  have hunsettled : pc.unsettled = none := by cases pc <;> simp_all [Pc.pending, Pc.unsettled]
  refine ⟨fun k => ?_, fun u d hd => ?_, fun w j hj => ?_, ?_⟩
  · by_cases hk : k = i
    · subst hk
      have hrec := h.record k
      simp only [RecordOk, he.claimed] at hrec
      simp only [RecordOk, he.state_self, he.claimed]
      exact ⟨hrec.1, t, id, pc', he.claim_self.trans he.claim, hcall', hpc'⟩
    · refine (h.record k).frame (he.record k hk) he.call (fun w hl => he.rewrites.lowest ▸ hl) ?_
      refine .of_call hcall (fun hpend => ⟨pc', hcall', ?_⟩) (by simp [hunsettled])
      rw [hpc', ← hpc, hpend]
  · by_cases hu : u = t
    · subst hu
      rw [hcall', Option.some_inj] at hd
      subst hd
      exact hok'
    · rw [he.call u hu] at hd
      exact (h.call u d hd).frame (he.rewrites.leaves h hu hd)
  · rw [he.returned] at hj
    exact he.rewrites.lowest ▸ h.returned w j hj
  · refine h.alone_frame he.call fun d hd => ?_
    rw [hcall', Option.some_inj] at hd
    subst hd
    refine ⟨_, hcall, rfl, ?_, ?_⟩
    · cases pc <;> cases pc' <;> simp_all [Pc.pending, Pc.isRemove]
    · cases pc <;> cases pc' <;> simp_all [Pc.pending, Pc.isFind]

/-! #### Publishing -/

/-- `t` publishes the record it has claimed, and settles or is done. -/
structure Publishes (s s' : Registry Thread) (t : Thread) (id : DeviceId) (i : Nat) : Prop
    extends Writes s s' t i where
  before : s.calls t = some ⟨id, .publishing i⟩
  self : s'.records i = { s.records i with state := .live }
  after : (∃ pc, s'.calls t = some ⟨id, pc⟩ ∧ pc = .settling i 0 ∧ 0 < i) ∨
    s'.calls t = none ∧ i = 0
  returned : ∀ w, ∀ j ∈ s'.returned w, s.Lowest w j

theorem Publishes.rewrites (hp : Publishes s s' t id i) (h : s.Inv) : Rewrites s s' t id i where
  toWrites := hp.toWrites
  claim := (h.call t _ hp.before).1.claim
  claimed := (h.call t _ hp.before).1.claimed
  before := ⟨_, hp.before, rfl⟩
  claim_self := by rw [hp.self]
  taken := by simp [hp.self]
  text_self := .inl (by rw [hp.self])
  reach w := by
    rcases hp.after with ⟨-, hcall, rfl, -⟩ | ⟨hcall, -⟩
    · simp [reachOf, hcall, Pc.reach]
    · simp [reachOf, hcall]

theorem Publishes.inv (hp : Publishes s s' t id i) (h : s.Inv) : s'.Inv := by
  obtain ⟨hpending, htext⟩ := h.call t _ hp.before
  have hlow := (hp.rewrites h).lowest
  refine ⟨fun k => ?_, fun u d hd => ?_, fun w j hj => hlow ▸ hp.returned w j hj, ?_⟩
  · by_cases hk : k = i
    · subst hk
      have hrec := h.record k
      simp only [RecordOk, hpending.claimed] at hrec
      simp only [RecordOk, hp.self, htext]
      refine ⟨hrec.1, hpending.parity, t, hpending.claim, ?_⟩
      rcases hp.after with ⟨-, hcall, rfl, -⟩ | ⟨-, rfl⟩
      · exact .inr ⟨_, hcall, rfl⟩
      · exact .inl (hlow ▸ ⟨holds_of_claim hpending.claim, fun j hj => by omega⟩)
    · refine (h.record k).frame (hp.record k hk) hp.call (fun w hl => hlow ▸ hl) ?_
      refine .of_call hp.before (fun hpend => ?_) (by simp [Pc.unsettled])
      exact absurd (Option.some_inj.mp hpend) (Ne.symm hk)
  · by_cases hu : u = t
    · subst hu
      rcases hp.after with ⟨-, hcall, rfl, hpos⟩ | ⟨hcall, -⟩
      · rw [hcall, Option.some_inj] at hd
        subst hd
        exact ⟨⟨by rw [hp.self]; exact hpending.claim, by rw [hp.self]⟩, hpos, fun j hj => by omega⟩
      · simp [hcall] at hd
    · rw [hp.call u hu] at hd
      exact (h.call u d hd).frame ((hp.rewrites h).leaves h hu hd)
  · refine h.alone_frame hp.call fun d hd => ?_
    rcases hp.after with ⟨-, hcall, rfl, -⟩ | ⟨hcall, -⟩
    · rw [hcall, Option.some_inj] at hd
      subst hd
      exact ⟨_, hp.before, rfl, rfl, rfl⟩
    · simp [hcall] at hd

/-! #### Freeing -/

/-- `t` frees record `i` of `id` and is done.  Another call on the id is a plain `find`, or
an `add` for which the id has a lower record. -/
structure Frees (s s' : Registry Thread) (t : Thread) (id : DeviceId) (i : Nat) : Prop
    extends Writes s s' t i where
  live : s.LiveAs id i
  self : s'.records i = { s.records i with state := .free, claim := none }
  before : ∀ c ∈ s.calls t, c.pc.pending = none ∧ ∀ k, c.pc.unsettled = some k → k = i
  after : s'.calls t = none
  others : ∀ u ≠ t, ∀ c ∈ s.calls u, c.id = id → c.pc.isFind = true ∨
    c.pc.isRemove = false ∧ (s.records i).claim = some (t, id) ∧ ∃ j < i, s.Holds id j
  ok : s.FreeOk t i
  returned : ∀ w, ∀ j ∈ s'.returned w, s.Lowest w j ∧ j ≠ i

section
variable (hf : Frees s s' t id i)
include hf

theorem Frees.holds : s'.Holds w k ↔ s.Holds w k ∧ k ≠ i := by
  by_cases hk : k = i
  · subst hk
    simp [Holds, hf.self]
  · simp [Holds, hf.record k hk, hk]

theorem Frees.lowest (hm : s.Lowest w m) (hne : m ≠ i) : s'.Lowest w m :=
  ⟨hf.holds.mpr ⟨hm.1, hne⟩, fun j hj hholds => hm.2 j hj (hf.holds.mp hholds).1⟩

/-- The freed record is the one its id has to itself. -/
theorem Frees.id_eq (h : s.Inv) (hw : s.Holds w i) : w = id := by
  rw [← h.text_of_live hf.live.1 hw, hf.live.2]

variable (h : s.Inv) (hu : u ≠ t) {pc : Pc} (hcall : s.calls u = some ⟨w, pc⟩)
include h hu hcall

section
variable (hpc : pc.isFind = false)
include hpc

/-- The record that another call's id ends on is not the one that is freed. -/
theorem Frees.lowest_ne (hm : s.Lowest w m) : m ≠ i := by
  rintro rfl
  obtain rfl := hf.id_eq h hm.1
  rcases hf.others u hu _ hcall rfl with hfind | ⟨-, -, j, hj, hholds⟩
  · simp [hpc] at hfind
  · exact hm.2 j hj hholds

theorem Frees.open_other (hopen : s.Open u w k) : s'.Open u w k := by
  rcases hopen with ⟨j, hj, hholds⟩ | ⟨hall, hothers⟩
  · obtain ⟨m, hle, hm⟩ := exists_lowest hholds
    have hne := hf.lowest_ne h hu hcall hpc hm
    exact .inl ⟨m, by omega, (hf.lowest hm hne).1⟩
  · refine .inr ⟨fun j hj hholds => hall j hj (hf.holds.mp hholds).1, fun v hv p hp => ?_⟩
    by_cases hvt : v = t
    · subst hvt
      simp [reachOf, hf.after] at hp
    · rw [reachOf_congr (hf.call v hvt)] at hp
      exact hothers v hv p hp

theorem Frees.willFind (hw : s.WillFind w l) : s'.WillFind w l := by
  obtain ⟨m, hm, hlow, hlive, hbefore⟩ := hw
  have hne := hf.lowest_ne h hu hcall hpc hlow
  exact ⟨m, hm, hf.lowest hlow hne, by rw [hf.record m hne]; exact hlive,
    by rw [hf.record m hne]; exact hbefore⟩

theorem Frees.clear (hopen : p ≤ i → s.Open u w i) (hclear : s.Clear u w p) : s'.Clear u w p := by
  intro k hk hp hfree
  refine hf.open_other h hu hcall hpc ?_
  by_cases hki : k = i
  · subst hki
    exact hopen hp
  · rw [hf.record k hki] at hfree
    exact hclear k hk hp hfree

end

theorem Frees.searching (hp : p ∈ pc.reach) : s'.CallOk u w pc := by
  have hok := h.call u _ hcall
  have hfree := hf.ok u hu _ hcall p hp
  cases pc with
  | looking goal =>
    cases goal with
    | find | remove => simp [Pc.reach] at hp
    | add =>
      obtain rfl : 0 = p := by simpa [Pc.reach] using hp
      rcases hok with hw | hclear
      · exact .inl (hf.willFind h hu hcall rfl hw)
      · rcases hfree (Nat.zero_le i) with hw | hopen
        · exact .inl (hf.willFind h hu hcall rfl hw)
        · exact .inr (hf.clear h hu hcall rfl (fun _ => hopen) hclear)
  | claiming q =>
    obtain rfl : q = p := by simpa [Pc.reach] using hp
    refine ⟨hok.1, hf.clear h hu hcall rfl (fun hle => (hfree hle).resolve_left ?_) hok.2⟩
    simp [Finds]
  | _ => simp [Pc.reach] at hp

/-- A call that is not a plain `find` has not published the record that is freed. -/
theorem Frees.not_published (hpc : pc.isFind = false) : (s.records i).claim ≠ some (u, w) := by
  intro hclaim
  obtain rfl := hf.id_eq h (holds_of_claim hclaim)
  rcases hf.others u hu _ hcall rfl with hfind | ⟨-, hmine, -⟩
  · simp [hpc] at hfind
  · simp_all

end

theorem not_find_of_unsettled {pc : Pc} (h : pc.unsettled = some i) : pc.isFind = false := by
  cases pc <;> simp_all [Pc.unsettled, Pc.isFind]

theorem Frees.leaves (hf : Frees s s' t id i) (h : s.Inv) (hu : u ≠ t) {pc : Pc}
    (hcall : s.calls u = some ⟨w, pc⟩) : Leaves s s' u w pc where
  searching p hp := hf.searching h hu hcall hp
  pending k p hk := hf.record k (by rintro rfl; simpa [hf.live.1] using hk.claimed)
  published k hk hpc := hf.record k (by
    rintro rfl
    exact hf.not_published h hu hcall (not_find_of_unsettled hpc) hk.claim)
  below k _ j hj b hb hholds := hj b hb (hf.holds.mp hholds).1
  lowest hpc m hm := by
    obtain ⟨k, hk⟩ := Option.ne_none_iff_exists'.mp hpc
    exact hf.lowest hm (hf.lowest_ne h hu hcall (not_find_of_unsettled hk) hm)
  comparable k _ hpc j r hj hcomp := by
    rcases hcomp with ⟨hnot, htext⟩ | ⟨hold, hlive, hbefore⟩
    · refine .inl ⟨fun hholds => hnot (hf.holds.mp hholds).1, ?_⟩
      by_cases hji : j = i
      · subst hji
        rw [hf.self]
        exact htext
      · rw [hf.record j hji]
        exact htext
    · have hji := hf.lowest_ne h hu hcall (not_find_of_unsettled hpc) ⟨hold, hj⟩
      exact .inr ⟨hf.holds.mpr ⟨hold, hji⟩, hlive.congr (hf.record j hji),
        by rw [hf.record j hji]; exact hbefore⟩
  removing hrem k := by
    by_cases hk : k = i
    · subst hk
      refine ⟨fun hlive => ?_, fun htext => by rw [hf.self]; exact htext⟩
      obtain rfl : w = id := hf.id_eq h (h.holds_of_liveAs hlive)
      rcases hf.others u hu _ hcall rfl with hfind | ⟨hnot, -⟩
      · cases pc <;> simp_all [Pc.isRemove, Pc.isFind]
        rename_i goal l
        cases goal <;> simp_all
      · simp [hrem] at hnot
    · rw [hf.record k hk]
      exact ⟨LiveAs.congr (hf.record k hk), fun htext => htext⟩

theorem Frees.inv (hf : Frees s s' t id i) (h : s.Inv) : s'.Inv := by
  refine ⟨fun k => ?_, fun u d hd => ?_, fun w j hj => ?_, ?_⟩
  · by_cases hk : k = i
    · subst hk
      simp only [RecordOk, hf.self]
      exact ⟨trivial, h.even_of_live hf.live.1⟩
    · refine (h.record k).frame (hf.record k hk) hf.call (fun w hl => hf.lowest hl hk) ⟨?_, ?_⟩
      · intro w pc hcall hpc
        simp [(hf.before _ hcall).1] at hpc
      · intro w pc hcall hpc
        exact absurd ((hf.before _ hcall).2 k hpc) hk
  · by_cases hu : u = t
    · subst hu
      simp [hf.after] at hd
    · rw [hf.call u hu] at hd
      exact (h.call u d hd).frame (hf.leaves h hu hd)
  · obtain ⟨hlow, hne⟩ := hf.returned w j hj
    exact hf.lowest hlow hne
  · exact h.alone_frame hf.call fun d hd => by simp [hf.after] at hd

end Write

end Registry

end Dish
