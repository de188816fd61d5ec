/-
One index per device id.

Two threads that add the same id at once may both claim a record.  The one with the
higher record sees the lower one when it settles and gives its own back, so what the
scheme rests on is that a record claimed later is never the lower one.  A record is
claimed by an exchange that walks the array upwards, so a later claim is the higher
one as long as nothing the walk of an earlier claim has passed becomes free again.

That is `Open s t id i`: if `t` claimed record `i` for `id` now, it would not put it
under a record the id has already, or under one another thread may yet claim for it.
`Clear` asks it of every free record a walk has still to come to.  `Holds` and
`Lowest` are read off the claims, and the invariant says of each record who may still
give it up, and of each thread what its position promises.

Freeing a record is what endangers all this, so the condition of the run theorem
(`Safe`) is stated where a record is freed, where an `add` starts over one, and where
a lookup answers with a record that its owner may still give back.
-/
import Dish.Input.GamepadInputProcessor
import Mathlib.Data.Fintype.Basic
import Mathlib.Data.Fintype.Pi

namespace Dish

namespace Registry

namespace Pc

variable {pc : Pc} {rd : IdRead}

/-- The record a call has claimed and not yet published. -/
def pending : Pc → Option Nat
  | .opening i | .writing i | .closing i | .publishing i => some i
  | _ => none

/-- The record a call has published and not yet settled. -/
def unsettled : Pc → Option Nat
  | .settling i _ | .comparing i _ _ | .givingBack i _ => some i
  | _ => none

/-- The first record an `add` that has claimed none may still claim. -/
def reach : Pc → Option Nat
  | .looking .add _ => some 0
  | .claiming i => some i
  | _ => none

/-- The call is a `remove`. -/
def isRemove : Pc → Bool
  | .looking .remove _ | .freeing _ => true
  | _ => false

/-- The call is a `find`, which changes nothing. -/
def isFind : Pc → Bool
  | .looking .find _ => true
  | _ => false

end Pc

/-- A lookup that has not passed record `m`, whose generation is `gen`, without reading it. -/
def Lookup.Before (m gen : Nat) : Lookup → Prop
  | .loading i | .confirming i => i ≤ m
  | .matching i (.noting _) => i ≤ m
  | .matching i (.closing _ before) => i < m ∨ i = m ∧ before = gen

instance (m gen : Nat) (l : Lookup) : Decidable (l.Before m gen) := by
  unfold Lookup.Before
  split <;> infer_instance

variable {Thread : Type}

/-- Record `i` is claimed, or live, for `id`. -/
def Holds (s : Registry Thread) (id : DeviceId) (i : Nat) : Prop :=
  (s.records i).claim.map Prod.snd = some id

instance (s : Registry Thread) (id : DeviceId) (i : Nat) : Decidable (s.Holds id i) :=
  inferInstanceAs (Decidable (_ = _))

/-- The lowest record of `id`. -/
def Lowest (s : Registry Thread) (id : DeviceId) (i : Nat) : Prop :=
  s.Holds id i ∧ ∀ j < i, ¬ s.Holds id j

instance (s : Registry Thread) (id : DeviceId) (i : Nat) : Decidable (s.Lowest id i) :=
  inferInstanceAs (Decidable (_ ∧ _))

/-- From where on thread `u` may still claim a record for `id`, if it is in an `add` of it. -/
def reachOf (s : Registry Thread) (u : Thread) (id : DeviceId) : Option Nat :=
  (s.calls u).bind fun c => if c.id = id then c.pc.reach else none

/-- Record `i`, claimed for `id` by `t` now, would not come to lie under a record the id
has, nor under one that another `add` of the id may still claim. -/
def Open (s : Registry Thread) (t : Thread) (id : DeviceId) (i : Nat) : Prop :=
  (∃ h < i, s.Holds id h) ∨
    (∀ h < kMaxDevices, s.Holds id h → h ≤ i) ∧ ∀ u ≠ t, ∀ p ∈ s.reachOf u id, p ≤ i

/-- The lookup will come to the settled record of its id. -/
def WillFind (s : Registry Thread) (id : DeviceId) (l : Lookup) : Prop :=
  ∃ m < kMaxDevices, s.Lowest id m ∧ (s.records m).state = .live ∧ l.Before m (s.records m).idSeq

/-- The call is the lookup of an `add` that will find what it is looking for. -/
def Finds (s : Registry Thread) (c : Call) : Prop :=
  match c.pc with
  | .looking .add l => s.WillFind c.id l
  | _ => False

/-- Every free record from `p` on is open to `t`. -/
def Clear (s : Registry Thread) (t : Thread) (id : DeviceId) (p : Nat) : Prop :=
  ∀ i < kMaxDevices, p ≤ i → (s.records i).state = .free → s.Open t id i

/-! ### What is asked of a step -/

/-- Record `i` may be freed: it is open to every `add` that could claim it next. -/
def FreeOk (s : Registry Thread) (t : Thread) (i : Nat) : Prop :=
  ∀ u ≠ t, ∀ c ∈ s.calls u, ∀ p ∈ c.pc.reach, p ≤ i → s.Finds c ∨ s.Open u c.id i

/-- What is asked of the step a call takes. -/
def AccessOk (s : Registry Thread) (t : Thread) (id : DeviceId) : Pc → Prop
  | .looking .add (.confirming i) =>
    (s.records i).state = .live → s.Lowest id i
  | .givingBack i _ | .freeing i => s.FreeOk t i
  | _ => True

/-- No call on `id` other than a plain `find` is running. -/
def Unused (s : Registry Thread) (id : DeviceId) : Prop :=
  ∀ u, ∀ c ∈ s.calls u, c.id = id → c.pc.isFind = true

/-- No `remove` of `id` is running. -/
def NoRemove (s : Registry Thread) (id : DeviceId) : Prop :=
  ∀ u, ∀ c ∈ s.calls u, c.id = id → c.pc.isRemove = false

/-- What is asked of a step: a `remove` has its id to itself, and no `add` is left with a
free record under one of its id. -/
def Safe (s : Registry Thread) : RegistryAction Thread → Prop
  | .find _ _ => True
  | .add t id => s.NoRemove id ∧ (s.WillFind id (.loading 0) ∨ s.Clear t id 0)
  | .remove _ id => s.Unused id
  | .advance t => ∀ c ∈ s.calls t, s.AccessOk t c.id c.pc

section Decidable

variable [Fintype Thread] [DecidableEq Thread]

instance (s : Registry Thread) (t : Thread) (id : DeviceId) (i : Nat) :
    Decidable (s.Open t id i) := by unfold Open; infer_instance

instance (s : Registry Thread) (id : DeviceId) (l : Lookup) : Decidable (s.WillFind id l) := by
  unfold WillFind; infer_instance

instance (s : Registry Thread) (c : Call) : Decidable (s.Finds c) := by
  unfold Finds; split <;> infer_instance

instance (s : Registry Thread) (t : Thread) (id : DeviceId) (p : Nat) :
    Decidable (s.Clear t id p) := by unfold Clear; infer_instance

instance (s : Registry Thread) (t : Thread) (i : Nat) : Decidable (s.FreeOk t i) := by
  unfold FreeOk; infer_instance

instance (s : Registry Thread) (t : Thread) (id : DeviceId) (pc : Pc) :
    Decidable (s.AccessOk t id pc) := by unfold AccessOk; split <;> infer_instance

instance (s : Registry Thread) (id : DeviceId) : Decidable (s.Unused id) := by
  unfold Unused; infer_instance

instance (s : Registry Thread) (id : DeviceId) : Decidable (s.NoRemove id) := by
  unfold NoRemove; infer_instance

instance (s : Registry Thread) (a : RegistryAction Thread) : Decidable (s.Safe a) := by
  unfold Safe; split <;> infer_instance

end Decidable

/-! ### The invariant -/

/-- What a record's state says about its claim. -/
def RecordOk (s : Registry Thread) (i : Nat) : Prop :=
  match (s.records i).state with
  | .free => (s.records i).claim = none ∧ (s.records i).idSeq % 2 = 0
  | .claimed =>
    i < kMaxDevices ∧ ∃ t id pc, (s.records i).claim = some (t, id) ∧
      s.calls t = some ⟨id, pc⟩ ∧ pc.pending = some i
  | .live =>
    i < kMaxDevices ∧ (s.records i).idSeq % 2 = 0 ∧
      ∃ t, (s.records i).claim = some (t, (s.records i).idText) ∧
        (s.Lowest (s.records i).idText i ∨
          ∃ pc, s.calls t = some ⟨(s.records i).idText, pc⟩ ∧ pc.unsettled = some i)

/-- `t` has published record `i` for `id`. -/
structure Published (s : Registry Thread) (t : Thread) (id : DeviceId) (i : Nat) : Prop where
  claim : (s.records i).claim = some (t, id)
  live : (s.records i).state = .live

/-- `t` has claimed record `i` for `id`; an open write shows in the generation. -/
structure Pending (s : Registry Thread) (t : Thread) (id : DeviceId) (i parity : Nat) : Prop where
  claim : (s.records i).claim = some (t, id)
  claimed : (s.records i).state = .claimed
  parity : (s.records i).idSeq % 2 = parity

/-- The record is live with this id. -/
def LiveAs (s : Registry Thread) (id : DeviceId) (i : Nat) : Prop :=
  (s.records i).state = .live ∧ (s.records i).idText = id

instance (s : Registry Thread) (id : DeviceId) (i : Nat) : Decidable (s.LiveAs id i) :=
  inferInstanceAs (Decidable (_ ∧ _))

/-- What a settling `add` knows about the record it compares with: it is another id's and
stays so, or it is the lowest of its own id and the read will say so. -/
def Comparable (s : Registry Thread) (id : DeviceId) (j : Nat) (r : IdRead) : Prop :=
  (¬ s.Holds id j ∧ (s.records j).idText ≠ id) ∨
    (s.Holds id j ∧ s.LiveAs id j ∧ Lookup.Before j (s.records j).idSeq (.matching j r))

/-- What the position of a call promises. -/
def CallOk (s : Registry Thread) (t : Thread) (id : DeviceId) : Pc → Prop
  | .looking .find _ => True
  | .looking .add l => s.WillFind id l ∨ s.Clear t id 0
  | .looking .remove (.loading _) => True
  | .looking .remove (.matching i _) => s.LiveAs id i ∨ (s.records i).idText ≠ id
  | .looking .remove (.confirming i) | .freeing i => s.LiveAs id i
  | .claiming p => p < kMaxDevices ∧ s.Clear t id p
  | .opening i => s.Pending t id i 0
  | .writing i => s.Pending t id i 1
  | .closing i => s.Pending t id i 1 ∧ (s.records i).idText = id
  | .publishing i => s.Pending t id i 0 ∧ (s.records i).idText = id
  | .settling i j => s.Published t id i ∧ j < i ∧ ∀ h < j, ¬ s.Holds id h
  | .comparing i j r =>
    s.Published t id i ∧ j < i ∧ (∀ h < j, ¬ s.Holds id h) ∧ s.Comparable id j r
  | .givingBack i j => s.Published t id i ∧ j < i ∧ s.Lowest id j

structure Inv (s : Registry Thread) : Prop where
  record : ∀ i, s.RecordOk i
  call : ∀ t c, s.calls t = some c → s.CallOk t c.id c.pc
  returned : ∀ id, ∀ i ∈ s.returned id, s.Lowest id i
  /-- A `remove` has its id to itself. -/
  alone : ∀ t u c d, s.calls t = some c → s.calls u = some d → c.id = d.id →
    c.pc.isRemove = true → d.pc.isFind = true ∨ t = u

/-! ### Reading the invariant -/

section Basic

variable {s : Registry Thread} {t u : Thread} {id : DeviceId} {i j m : Nat}

theorem Lowest.eq (hi : s.Lowest id i) (hj : s.Lowest id j) : i = j := by
  rcases Nat.lt_trichotomy i j with h | h | h
  · exact absurd hi.1 (hj.2 i h)
  · exact h
  · exact absurd hj.1 (hi.2 j h)

theorem exists_lowest (h : s.Holds id i) : ∃ m ≤ i, s.Lowest id m := by
  classical
  exact ⟨Nat.find ⟨i, h⟩, Nat.find_min' _ h, Nat.find_spec ⟨i, h⟩, fun _ hj => Nat.find_min _ hj⟩

theorem holds_of_claim (h : (s.records i).claim = some (t, id)) : s.Holds id i := by
  simp [Holds, h]

section
variable (h : s.Inv)
include h

theorem Inv.not_holds_of_free (hi : (s.records i).state = .free) : ¬ s.Holds id i := by
  have hrec := h.record i
  simp only [RecordOk, hi] at hrec
  simp [Holds, hrec.1]

theorem Inv.lt_of_holds (hi : s.Holds id i) : i < kMaxDevices := by
  have hrec := h.record i
  unfold RecordOk at hrec
  split at hrec
  · next hfree => exact absurd hi (h.not_holds_of_free hfree)
  · exact hrec.1
  · exact hrec.1

theorem Inv.text_of_live (hlive : (s.records i).state = .live)
    (hi : s.Holds id i) : (s.records i).idText = id := by
  have hrec := h.record i
  simp only [RecordOk, hlive] at hrec
  obtain ⟨-, -, t, hclaim, -⟩ := hrec
  simpa [Holds, hclaim] using hi

theorem Inv.holds_of_liveAs (hi : s.LiveAs id i) : s.Holds id i := by
  have hrec := h.record i
  simp only [RecordOk, hi.1] at hrec
  obtain ⟨-, -, t, hclaim, -⟩ := hrec
  exact hi.2 ▸ holds_of_claim hclaim

theorem Inv.even_of_live (hlive : (s.records i).state = .live) :
    (s.records i).idSeq % 2 = 0 := by
  have hrec := h.record i
  simp only [RecordOk, hlive] at hrec
  exact hrec.2.1

theorem Inv.lt_of_open (hopen : s.Open t id i) (hfree : (s.records i).state = .free)
    (hm : s.Lowest id m) : m < i := by
  rcases hopen with ⟨k, hk, hholds⟩ | ⟨hall, -⟩
  · exact Nat.lt_of_not_le fun hle => hm.2 k (by omega) hholds
  · have hle := hall m (h.lt_of_holds hm.1) hm.1
    have hne : m ≠ i := fun he => h.not_holds_of_free hfree (he ▸ hm.1)
    omega

end

end Basic

/-! ### Steps that leave the records alone -/

section Move

variable {s s' : Registry Thread} {t u : Thread} {id : DeviceId} {i p : Nat}

theorem holds_congr (h : s'.records = s.records) : s'.Holds = s.Holds := by
  funext id i; simp [Holds, h]

theorem lowest_congr (h : s'.records = s.records) : s'.Lowest = s.Lowest := by
  funext id i; simp [Lowest, holds_congr h]

theorem willFind_congr (h : s'.records = s.records) : s'.WillFind = s.WillFind := by
  funext id l; simp [WillFind, lowest_congr h, h]

theorem reachOf_congr (h : s'.calls u = s.calls u) : s'.reachOf u = s.reachOf u := by
  funext id; simp [reachOf, h]

section
variable (hi : s'.records i = s.records i)
include hi

theorem Pending.congr (h : s.Pending t id i p) :
    s'.Pending t id i p :=
  ⟨hi ▸ h.claim, hi ▸ h.claimed, hi ▸ h.parity⟩

theorem Published.congr (h : s.Published t id i) :
    s'.Published t id i :=
  ⟨hi ▸ h.claim, hi ▸ h.live⟩

theorem LiveAs.congr (h : s.LiveAs id i) : s'.LiveAs id i :=
  ⟨hi ▸ h.1, hi ▸ h.2⟩

end

/-- The first record `t` may still claim moves past no free record. -/
def ReachKept (s s' : Registry Thread) (t : Thread) : Prop :=
  ∀ id, ∀ p ∈ s'.reachOf t id, p = 0 ∨
    ∃ q ∈ s.reachOf t id, ∀ i < p, (s.records i).state = .free → i < q

section
variable (hrec : s'.records = s.records) (hother : ∀ u ≠ t, s'.calls u = s.calls u)
    (hreach : ReachKept s s' t)
include hrec hother hreach

theorem Open.move (hfree : (s.records i).state = .free) (hi : s.Open u id i) : s'.Open u id i := by
  unfold Open at hi ⊢
  rw [holds_congr hrec]
  refine hi.imp_right fun ⟨hall, hothers⟩ => ⟨hall, fun v hv p hp => ?_⟩
  by_cases hvt : v = t
  · subst hvt
    rcases hreach id p hp with rfl | ⟨q, hq, hpass⟩
    · exact Nat.zero_le i
    · have := hothers v hv q hq
      exact Nat.le_of_not_lt fun hlt => absurd (hpass i hlt hfree) (by omega)
  · rw [reachOf_congr (hother v hvt)] at hp
    exact hothers v hv p hp

theorem Clear.move (h : s.Clear u id p) : s'.Clear u id p := by
  intro i hi hp hfree
  rw [hrec] at hfree
  exact (h i hi hp hfree).move hrec hother hreach hfree

end

theorem CallOk.move (hrec : s'.records = s.records)
    (hother : ∀ u ≠ t, s'.calls u = s.calls u) (hreach : ReachKept s s' t)
    (h : s.CallOk u id pc) : s'.CallOk u id pc := by
  have hat : ∀ i, s'.records i = s.records i := fun i => by rw [hrec]
  unfold CallOk at h ⊢
  split at h
  case h_1 | h_3 => trivial
  case h_2 => exact h.imp (fun hw => willFind_congr hrec ▸ hw) (Clear.move hrec hother hreach)
  case h_7 => exact ⟨h.1, h.2.move hrec hother hreach⟩
  case h_8 | h_9 => exact h.congr (hat _)
  case h_10 | h_11 => exact ⟨h.1.congr (hat _), hrec ▸ h.2⟩
  case h_12 => exact ⟨h.1.congr (hat _), holds_congr hrec ▸ h.2⟩
  case h_13 =>
    refine ⟨h.1.congr (hat _), h.2.1, holds_congr hrec ▸ h.2.2.1, ?_⟩
    simpa only [Comparable, LiveAs, holds_congr hrec, hrec] using h.2.2.2
  case h_14 => exact ⟨h.1.congr (hat _), lowest_congr hrec ▸ h.2⟩
  all_goals simpa only [LiveAs, hrec] using h

theorem Inv.withReturned (h : s.Inv) (hrec : s'.records = s.records) (hcalls : s'.calls = s.calls)
    (hret : ∀ id, ∀ i ∈ s'.returned id, s.Lowest id i) : s'.Inv := by
  refine ⟨fun i => ?_, fun u c hc => ?_, lowest_congr hrec ▸ hret, by rw [hcalls]; exact h.alone⟩
  · have := h.record i
    unfold RecordOk at this ⊢
    rwa [hrec, hcalls, lowest_congr hrec]
  · rw [hcalls] at hc
    refine (h.call u c hc).move (t := u) hrec (fun v _ => by rw [hcalls]) fun w p hp => ?_
    rw [reachOf_congr (show s'.calls u = s.calls u by rw [hcalls])] at hp
    exact .inr ⟨p, hp, fun i hi _ => hi⟩

/-- The call of `t` keeps the record it has, or gives up one that is the lowest of its id. -/
structure Carried (s s' : Registry Thread) (t : Thread) (i : Nat) : Prop where
  pending : ∀ id pc, s.calls t = some ⟨id, pc⟩ → pc.pending = some i →
    ∃ pc', s'.calls t = some ⟨id, pc'⟩ ∧ pc'.pending = some i
  unsettled : ∀ id pc, s.calls t = some ⟨id, pc⟩ → pc.unsettled = some i →
    s.Lowest id i ∨ ∃ pc', s'.calls t = some ⟨id, pc'⟩ ∧ pc'.unsettled = some i

theorem Carried.of_call (hcall : s.calls t = some ⟨id, pc⟩)
    (hpending : pc.pending = some i → ∃ pc', s'.calls t = some ⟨id, pc'⟩ ∧ pc'.pending = some i)
    (hunsettled : pc.unsettled = some i →
      s.Lowest id i ∨ ∃ pc', s'.calls t = some ⟨id, pc'⟩ ∧ pc'.unsettled = some i) :
    Carried s s' t i := by
  constructor <;> intro id' pc' hcall' <;> cases hcall.symm.trans hcall'
  · exact hpending
  · exact hunsettled

/-- A record's state and claim stay explained when the call that has it carries it along. -/
theorem RecordOk.frame (hrec : s'.records i = s.records i)
    (hother : ∀ u ≠ t, s'.calls u = s.calls u)
    (hlow : ∀ id, s.Lowest id i → s'.Lowest id i)
    (hcarried : Carried s s' t i) (h : s.RecordOk i) : s'.RecordOk i := by
  unfold RecordOk at h ⊢
  rw [hrec]
  split at h
  · exact h
  · obtain ⟨hi, v, id, pc, hclaim, hcall, hpc⟩ := h
    refine ⟨hi, v, id, ?_⟩
    by_cases hv : v = t
    · subst hv
      obtain ⟨pc', hcall', hpc'⟩ := hcarried.pending id pc hcall hpc
      exact ⟨pc', hclaim, hcall', hpc'⟩
    · exact ⟨pc, hclaim, by rw [hother v hv]; exact hcall, hpc⟩
  · obtain ⟨hi, heven, v, hclaim, hor⟩ := h
    refine ⟨hi, heven, v, hclaim, ?_⟩
    rcases hor with hl | ⟨pc, hcall, hpc⟩
    · exact .inl (hlow _ hl)
    · by_cases hv : v = t
      · subst hv
        exact (hcarried.unsettled _ pc hcall hpc).imp_left (hlow _)
      · exact .inr ⟨pc, by rw [hother v hv]; exact hcall, hpc⟩

/-- A `remove` has its id to itself. -/
def RemovesAlone (s : Registry Thread) : Prop :=
  ∀ t u c d, s.calls t = some c → s.calls u = some d → c.id = d.id →
    c.pc.isRemove = true → d.pc.isFind = true ∨ t = u

/-- A `remove` still has its id to itself when the call of `t` stays on its id and stays a
`remove` or a `find` if it is one. -/
theorem Inv.alone_frame (h : s.Inv) (hother : ∀ u ≠ t, s'.calls u = s.calls u)
    (hat : ∀ d, s'.calls t = some d → ∃ e, s.calls t = some e ∧ d.id = e.id ∧
      d.pc.isRemove = e.pc.isRemove ∧ d.pc.isFind = e.pc.isFind) : s'.RemovesAlone := by
  have hcalls : ∀ u d, s'.calls u = some d → ∃ e, s.calls u = some e ∧ d.id = e.id ∧
      d.pc.isRemove = e.pc.isRemove ∧ d.pc.isFind = e.pc.isFind := by
    intro u d hd
    by_cases hu : u = t
    · subst hu
      exact hat d hd
    · exact ⟨d, hother u hu ▸ hd, rfl, rfl, rfl⟩
  intro v u c d hc hd hid hrem
  obtain ⟨e, he, heid, herem, -⟩ := hcalls v c hc
  obtain ⟨f, hf, hfid, -, hffind⟩ := hcalls u d hd
  rw [hffind]
  exact h.alone v u e f he hf (by rw [← heid, ← hfid, hid]) (herem ▸ hrem)

/-- The call of `t` moves on, or ends, or is new, and every other call stays where it is. -/
theorem Inv.move (h : s.Inv) (hrec : s'.records = s.records) (hret : s'.returned = s.returned)
    (hother : ∀ u ≠ t, s'.calls u = s.calls u) (hkept : ReachKept s s' t)
    (hcarried : ∀ i, Carried s s' t i) (hok : ∀ d, s'.calls t = some d → s.CallOk t d.id d.pc)
    (halone : s'.RemovesAlone) : s'.Inv := by
  refine ⟨fun i => ?_, fun u d hd => CallOk.move hrec hother hkept ?_, ?_, halone⟩
  · exact (h.record i).frame (by rw [hrec]) hother (fun _ => lowest_congr hrec ▸ id) (hcarried i)
  · by_cases hu : u = t
    · subst hu
      exact hok d hd
    · exact h.call u d (hother u hu ▸ hd)
  · rw [hret, lowest_congr hrec]
    exact h.returned

end Move

section Calls

variable [DecidableEq Thread] {s : Registry Thread} {t u : Thread} {id : DeviceId} {i : Nat}

@[simp] theorem records_goto (pc : Pc) : (s.goto t id pc).records = s.records := rfl
@[simp] theorem calls_goto_self (pc : Pc) : (s.goto t id pc).calls t = some ⟨id, pc⟩ := by
  simp [goto]
@[simp] theorem records_finish : (s.finish t).records = s.records := rfl
@[simp] theorem calls_finish_self : (s.finish t).calls t = none := by simp [finish]
@[simp] theorem records_returns : (s.returns t id i).records = s.records := rfl
@[simp] theorem records_removed : (s.removed t id).records = s.records := rfl
@[simp] theorem calls_removed : (s.removed t id).calls = (s.finish t).calls := rfl

theorem calls_goto_of_ne (pc : Pc) (h : u ≠ t) : (s.goto t id pc).calls u = s.calls u := by
  simp [goto, h]

theorem calls_finish_of_ne (h : u ≠ t) : (s.finish t).calls u = s.calls u := by
  simp [finish, h]

/-- A call moves on inside its own phase: it keeps the record it has, its walk passes no
free record, and it stays a `remove` or a `find` if it is one. -/
theorem Inv.goto {pc' : Pc} (h : s.Inv) (hcall : s.calls t = some ⟨id, pc⟩)
    (hpending : pc'.pending = pc.pending) (hunsettled : pc'.unsettled = pc.unsettled)
    (hremove : pc'.isRemove = pc.isRemove) (hfind : pc'.isFind = pc.isFind)
    (hreach : ∀ p ∈ pc'.reach, p = 0 ∨ ∃ q ∈ pc.reach, ∀ i < p, (s.records i).state = .free → i < q)
    (hok : s.CallOk t id pc') : (s.goto t id pc').Inv := by
  have hother : ∀ u ≠ t, (s.goto t id pc').calls u = s.calls u :=
    fun u hu => calls_goto_of_ne pc' hu
  have hkept : ReachKept s (s.goto t id pc') t := by
    intro w p hp
    simp only [reachOf, calls_goto_self, hcall, Option.bind_some] at hp ⊢
    by_cases hw : id = w
    · simp only [if_pos hw] at hp ⊢
      exact hreach p hp
    · simp [if_neg hw] at hp
  refine h.move rfl rfl hother hkept (fun i => .of_call hcall ?_ ?_) ?_ ?_
  · exact fun hpend => ⟨pc', calls_goto_self pc', hpending.trans hpend⟩
  · exact fun huns => .inr ⟨pc', calls_goto_self pc', hunsettled.trans huns⟩
  · intro d hd
    rw [calls_goto_self, Option.some_inj] at hd
    subst hd
    exact hok
  · refine h.alone_frame hother fun d hd => ?_
    rw [calls_goto_self, Option.some_inj] at hd
    subst hd
    exact ⟨_, hcall, rfl, hremove, hfind⟩

theorem Inv.finish (h : s.Inv) (hcall : s.calls t = some ⟨id, pc⟩)
    (hpending : pc.pending = none) (hunsettled : ∀ i, pc.unsettled = some i → s.Lowest id i) :
    (s.finish t).Inv := by
  have hother : ∀ u ≠ t, (s.finish t).calls u = s.calls u := fun u hu => calls_finish_of_ne hu
  have hkept : ReachKept s (s.finish t) t := by
    intro w p hp
    simp [reachOf] at hp
  refine h.move rfl rfl hother hkept (fun i => .of_call hcall ?_ ?_) (by simp)
    (h.alone_frame hother (by simp))
  · simp [hpending]
  · exact fun huns => .inl (hunsettled i huns)

theorem Inv.returns (h : (s.finish t).Inv) (hi : s.Lowest id i) : (s.returns t id i).Inv := by
  refine h.withReturned rfl rfl fun w j hj => ?_
  by_cases hw : w = id
  · subst hw
    simp only [Registry.returns, Function.update_self, List.mem_cons] at hj
    rcases hj with rfl | hj
    · exact hi
    · exact h.returned w j hj
  · simp only [Registry.returns, Function.update_of_ne hw] at hj
    exact h.returned w j hj

theorem Inv.removed (h : (s.finish t).Inv) : (s.removed t id).Inv := by
  refine h.withReturned rfl rfl fun w j hj => ?_
  by_cases hw : w = id
  · subst hw
    simp [Registry.removed] at hj
  · simp only [Registry.removed, Function.update_of_ne hw] at hj
    exact h.returned w j hj

end Calls

/-! ### Lookups -/

theorem idMatches_true {r : Record Thread} {id : DeviceId}
    (h : idMatches r id rd = .answer true) : r.idText = id := by
  cases rd with
  | noting =>
    simp only [idMatches, IdRead.retry] at h
    split at h
    · split at h <;> simp at h
    · simp at h
  | closing =>
    simp only [idMatches, IdRead.retry] at h
    split at h
    · simpa using h
    · split at h <;> simp at h

/-- A read that has not passed record `m`, if it is of that record and nothing is being
written there, goes on or finds the id. -/
theorem Lookup.Before.idMatches {r : Record Thread} {id : DeviceId} {i m gen : Nat}
    (h : Lookup.Before m gen (.matching i rd))
    (hm : i = m → r.idSeq = gen ∧ gen % 2 = 0 ∧ r.idText = id) :
    match idMatches r id rd with
    | .reading rd' => Lookup.Before m gen (.matching i rd')
    | .answer true => i ≤ m
    | .answer false => i < m := by
  rcases Nat.lt_or_ge i m with hlt | hge
  · split
    · next rd' _ => cases rd' <;> simp [Lookup.Before, hlt, Nat.le_of_lt hlt]
    · exact Nat.le_of_lt hlt
    · exact hlt
  · cases rd with
    | noting =>
      have him : i = m := Nat.le_antisymm h hge
      obtain ⟨hgen, heven, -⟩ := hm him
      simp [Registry.idMatches, hgen, heven, Lookup.Before, him]
    | closing attempt before =>
      obtain ⟨him, hbefore⟩ : i = m ∧ before = gen := h.resolve_left (by omega)
      obtain ⟨hgen, -, htext⟩ := hm him
      simp [Registry.idMatches, hgen, hbefore, htext, him]

section Lookup

variable {s : Registry Thread} {t : Thread} {id : DeviceId} {i : Nat} {goal : LookupFor}
  {l l' : Lookup}

/-- The lookup of an `add` that will find its record either stays so or finds it. -/
theorem WillFind.next (hi : s.WillFind id (.confirming i)) (hdead : (s.records i).state ≠ .live) :
    s.WillFind id (.loading (i + 1)) := by
  obtain ⟨m, hm, hlow, hlive, hle⟩ := hi
  -- a settled record is live, so this one is not the settled record
  have hne : i ≠ m := fun he => hdead (he ▸ hlive)
  exact ⟨m, hm, hlow, hlive, show i + 1 ≤ m from Nat.lt_of_le_of_ne hle hne⟩

/-- The lookup of an `add` that will find its record is not put off by a read. -/
theorem WillFind.matching (h : s.Inv) (hw : s.WillFind id (.matching i rd)) :
    match idMatches (s.records i) id rd with
    | .reading rd' => s.WillFind id (.matching i rd')
    | .answer true => s.WillFind id (.confirming i)
    | .answer false => s.WillFind id (.loading (i + 1)) := by
  obtain ⟨m, hlt, hlow, hlive, hbefore⟩ := hw
  have hm : i = m → (s.records i).idSeq = (s.records m).idSeq ∧
      (s.records m).idSeq % 2 = 0 ∧ (s.records i).idText = id := by
    rintro rfl
    exact ⟨rfl, h.even_of_live hlive, h.text_of_live hlive hlow.1⟩
  have hread := hbefore.idMatches hm
  split <;> simp_all only
  all_goals exact ⟨m, hlt, hlow, hlive, hread⟩

variable [DecidableEq Thread]

section
variable (h : s.Inv) (hcall : s.calls t = some ⟨id, .looking goal l⟩)
include h hcall

theorem Inv.lookTo
    (hok : s.CallOk t id (.looking goal l')) : (s.goto t id (.looking goal l')).Inv := by
  refine h.goto hcall rfl rfl ?_ ?_ ?_ hok
  · cases goal <;> rfl
  · cases goal <;> rfl
  · intro p hp
    cases goal <;> simp_all [Pc.reach]

theorem Inv.finish_looking : (s.finish t).Inv :=
  h.finish hcall rfl (by simp [Pc.unsettled])

/-- The loop of `find` goes on; an `add` keeps what it knows about its id. -/
theorem Inv.findNext (hadd : goal = .add → s.WillFind id (.loading (i + 1)) ∨ s.Clear t id 0) :
    (s.findNext t id goal i).Inv := by
  unfold Registry.findNext
  split
  · refine h.lookTo hcall ?_
    cases goal
    · trivial
    · exact hadd rfl
    · trivial
  · next hend =>
    cases goal
    · exact h.finish_looking hcall
    · refine h.goto hcall rfl rfl rfl rfl (fun p hp => .inl ?_) ?_
      · simpa [Pc.reach, eq_comm] using hp
      · -- The lookup has passed every record, so there is none it will still find.
        refine ⟨by decide, (hadd rfl).resolve_left fun ⟨m, hm, _, _, hle⟩ => hend ?_⟩
        exact Nat.lt_of_le_of_lt hle hm
    · exact (h.finish_looking hcall).removed

end

theorem Inv.look_loading (h : s.Inv) (hcall : s.calls t = some ⟨id, .looking goal (.loading i)⟩) :
    (s.look t id goal (.loading i)).Inv := by
  have hok := h.call t _ hcall
  simp only [look]
  split
  · next hlive =>
    refine h.lookTo hcall ?_
    cases goal
    · trivial
    · exact hok
    · exact (em ((s.records i).idText = id)).imp (fun he => ⟨hlive, he⟩) (fun hne => hne)
  · next hdead =>
    refine h.findNext hcall ?_
    rintro rfl
    exact Or.imp_left (fun hw => WillFind.next hw hdead) hok

theorem Inv.look_matching (h : s.Inv)
    (hcall : s.calls t = some ⟨id, .looking goal (.matching i rd)⟩) :
    (s.look t id goal (.matching i rd)).Inv := by
  have hok := h.call t _ hcall
  simp only [look]
  cases goal with
  | find =>
    split
    · exact h.lookTo hcall trivial
    · exact h.lookTo hcall trivial
    · exact h.findNext hcall nofun
  | remove =>
    split
    · exact h.lookTo hcall hok
    · next htrue => exact h.lookTo hcall (hok.resolve_right fun hne => hne (idMatches_true htrue))
    · exact h.findNext hcall nofun
  | add =>
    have hnext := hok.imp_left (WillFind.matching h)
    split <;> simp_all only
    · exact h.lookTo hcall hnext
    · exact h.lookTo hcall hnext
    · exact h.findNext hcall fun _ => hnext

theorem Inv.look_confirming (h : s.Inv)
    (hcall : s.calls t = some ⟨id, .looking goal (.confirming i)⟩)
    (haccess : s.AccessOk t id (.looking goal (.confirming i))) :
    (s.look t id goal (.confirming i)).Inv := by
  have hok := h.call t _ hcall
  simp only [look]
  split
  · next hlive =>
    cases goal
    · exact h.finish_looking hcall
    · exact (h.finish_looking hcall).returns (haccess hlive)
    · exact h.goto hcall rfl rfl rfl rfl (by simp [Pc.reach]) hok
  · next hdead =>
    refine h.findNext hcall ?_
    rintro rfl
    exact Or.imp_left (fun hw => WillFind.next hw hdead) hok

end Lookup

/-! ### Settling -/

section Settle

variable [DecidableEq Thread] {s : Registry Thread} {t : Thread} {id : DeviceId} {i j : Nat}

/-- The settling loop goes on; past the last lower record its own is the lowest. -/
theorem Inv.settle (h : s.Inv) (hcall : s.calls t = some ⟨id, pc⟩)
    (hpc : pc.unsettled = some i) (hpub : s.Published t id i)
    (hlower : ∀ k < j, ¬ s.Holds id k) (hj : ¬ s.Holds id j) :
    (s.settle t id i (j + 1)).Inv := by
  have hbelow : ∀ k < j + 1, ¬ s.Holds id k := by
    intro k hk
    rcases Nat.lt_succ_iff_lt_or_eq.mp hk with hk | rfl
    · exact hlower k hk
    · exact hj
  have hpending : pc.pending = none := by cases pc <;> simp_all [Pc.unsettled, Pc.pending]
  unfold Registry.settle
  split
  · next hlt =>
    refine h.goto hcall hpending.symm hpc.symm ?_ ?_ (by simp [Pc.reach]) ⟨hpub, hlt, hbelow⟩
    · cases pc <;> simp_all [Pc.unsettled, Pc.isRemove]
    · cases pc <;> simp_all [Pc.unsettled, Pc.isFind]
  · next hend =>
    have hlow : s.Lowest id i :=
      ⟨holds_of_claim hpub.claim, fun k hk => hbelow k (by omega)⟩
    refine Inv.returns (h.finish hcall hpending fun k hk => ?_) hlow
    rw [hpc, Option.some_inj] at hk
    exact hk ▸ hlow

theorem Inv.access_settling (h : s.Inv) (hcall : s.calls t = some ⟨id, .settling i j⟩) :
    (s.access t id (.settling i j)).Inv := by
  obtain ⟨hpub, hlt, hbelow⟩ := h.call t _ hcall
  simp only [access]
  split
  · exact h
  · next hlive =>
    refine h.goto hcall rfl rfl rfl rfl (by simp [Pc.reach]) ⟨hpub, hlt, hbelow, ?_⟩
    by_cases hj : s.Holds id j
    · exact .inr ⟨hj, ⟨hlive, h.text_of_live hlive hj⟩, Nat.le_refl j⟩
    · exact .inl ⟨hj, fun htext => hj (h.holds_of_liveAs ⟨hlive, htext⟩)⟩
  · next hfree => exact h.settle hcall rfl hpub hbelow (h.not_holds_of_free hfree)

theorem Inv.access_comparing (h : s.Inv) {r : IdRead}
    (hcall : s.calls t = some ⟨id, .comparing i j r⟩) :
    (s.access t id (.comparing i j r)).Inv := by
  obtain ⟨hpub, hlt, hbelow, hcomp⟩ := h.call t _ hcall
  simp only [access]
  rcases hcomp with ⟨hj, htext⟩ | ⟨hj, hlive, hbefore⟩
  · split
    · exact h.goto hcall rfl rfl rfl rfl (by simp [Pc.reach]) ⟨hpub, hlt, hbelow, .inl ⟨hj, htext⟩⟩
    · next htrue => exact absurd (idMatches_true htrue) htext
    · exact h.settle hcall rfl hpub hbelow hj
  · have hm : j = j → (s.records j).idSeq = (s.records j).idSeq ∧
        (s.records j).idSeq % 2 = 0 ∧ (s.records j).idText = id :=
      fun _ => ⟨rfl, h.even_of_live hlive.1, hlive.2⟩
    have hread := hbefore.idMatches hm
    split <;> simp_all only
    · exact h.goto hcall rfl rfl rfl rfl (by simp [Pc.reach])
        ⟨hpub, hlt, hbelow, .inr ⟨hj, hlive, hread⟩⟩
    · exact h.goto hcall rfl rfl rfl rfl (by simp [Pc.reach]) ⟨hpub, hlt, hj, hbelow⟩

/-- The claiming loop goes on past a record that is taken. -/
theorem Inv.claimNext (h : s.Inv) (hcall : s.calls t = some ⟨id, .claiming i⟩)
    (hi : (s.records i).state ≠ .free) : (s.claimNext t id i).Inv := by
  have hclear : s.Clear t id i := (h.call t _ hcall).2
  unfold Registry.claimNext
  split
  · next hlt =>
    refine h.goto hcall rfl rfl rfl rfl ?_ ⟨hlt, fun k hk hle hfree => ?_⟩
    · rintro p hp
      obtain rfl : i + 1 = p := by simpa [Pc.reach] using hp
      refine .inr ⟨i, rfl, fun k hk hfree => Nat.lt_of_le_of_ne (Nat.lt_succ_iff.mp hk) ?_⟩
      rintro rfl
      exact hi hfree
    · exact hclear k hk (by omega) hfree
  · exact h.finish hcall rfl (by simp [Pc.unsettled])

end Settle

end Registry

end Dish
