/-
The multi-producer queue is a bounded first-in, first-out queue, in every interleaving.

The positions from the first cell not freed up to the one the producers claim next are taken, and
the rest of one turn of the ring is free.  `Inv` says what the sequence of each of these cells is:
its position while it is free or being filled, one more once its item is published.  A step touches
one cell of this window, and two positions of the window never share a cell.  From it each access is
a step of `BoundedQueue`: a successful compare-and-swap takes the item, a sequence that lags refuses
it, and freeing a cell pops it.
-/
import Mathlib.Data.Nat.ModEq
import Dish.Core.MpscQueue
import Dish.Lib.BoundedQueue
import Dish.Lib.Run

namespace Dish

/-- The thread has claimed the position and not published it. -/
def Producer.Holds {α : Type} (pos : Nat) : Producer α → Prop
  | .filling _ p => p = pos
  | .publishing p => p = pos
  | _ => False

namespace MpscQueue

open Steps

variable {α : Type} {capacity : Nat} {q q' : MpscQueue α capacity} {t pos : Nat} {x : α}

/-! ### The invariant -/

/-- The position is claimed, and its cell not published. -/
structure Unpublished (q : MpscQueue α capacity) (pos : Nat) : Prop where
  freed : q.freed ≤ pos
  lt : pos < q.enqueuePos
  sequence : (q.cell pos).sequence = pos

/-- What holds for a thread where it stands.  The sequence a thread has read may be old, but a
sequence never falls. -/
def Ok (q : MpscQueue α capacity) : Producer α → Prop
  | .loadingSequence _ pos => pos ≤ q.enqueuePos
  | .claiming _ pos => pos ≤ (q.cell pos).sequence
  | .filling x pos => q.Unpublished pos ∧ q.claimed[pos]? = some x
  | .publishing pos => q.Unpublished pos ∧ (q.cell pos).item = q.claimed[pos]?
  | _ => True

/-- The consumer has seen the item at its position. -/
structure Seen (q : MpscQueue α capacity) (pos : Nat) : Prop where
  first : pos = q.dequeuePos
  lt : pos < q.enqueuePos
  sequence : (q.cell pos).sequence = pos + 1

/-- What holds for the consumer where it stands. -/
def Reads (q : MpscQueue α capacity) : Consumer α → Prop
  | .loadingSequence pos => pos = q.dequeuePos
  | .copying pos => q.Seen pos
  | .freeing pos x => q.Seen pos ∧ x = q.claimed[pos]?
  | .advancing pos => pos = q.dequeuePos ∧ pos < q.enqueuePos
  | _ => True

structure Inv (q : MpscQueue α capacity) : Prop where
  behind : q.freed ≤ q.enqueuePos
  room : q.enqueuePos ≤ q.freed + capacity
  count : q.claimed.length = q.enqueuePos
  free : ∀ p, q.enqueuePos ≤ p → p < q.freed + capacity → (q.cell p).sequence = p
  taken : ∀ p, q.freed ≤ p → p < q.enqueuePos → (q.cell p).sequence = p ∨
    (q.cell p).sequence = p + 1 ∧ (q.cell p).item = q.claimed[p]?
  thread : ∀ t, q.Ok (q.producers t)
  alone : ∀ {t u p}, (q.producers t).Holds p → (q.producers u).Holds p → t = u
  reads : q.Reads q.consumer
  popped : q.popped = q.claimed.take q.freed

/-! ### Cells -/

@[simp] theorem cell_setCell_self (q : MpscQueue α capacity) (pos : Nat) (c : MpscCell α) :
    (q.setCell pos c).cell pos = c := Function.update_self ..

theorem producers_setProducer_self (q : MpscQueue α capacity) (t : Nat) (p : Producer α) :
    (q.setProducer t p).producers t = p := Function.update_self ..

theorem producers_setProducer_of_ne {u : Nat} {p : Producer α} (h : u ≠ t) :
    (q.setProducer t p).producers u = q.producers u := Function.update_of_ne h ..

/-- Two positions less than one turn apart do not share a cell. -/
theorem mod_ne {a b : Nat} (h : a ≠ b) (hab : a < b + capacity) (hba : b < a + capacity) :
    a % capacity ≠ b % capacity := by
  intro same
  exact h (Nat.ModEq.eq_of_abs_lt same (abs_lt.mpr ⟨by omega, by omega⟩))

theorem cell_setCell_of_ne {p : Nat} (c : MpscCell α) (h : p ≠ pos) (hp : p < pos + capacity)
    (hpos : pos < p + capacity) : (q.setCell pos c).cell p = q.cell p :=
  Function.update_of_ne (mod_ne h hp hpos) ..

theorem cell_sequence_le {c : MpscCell α} (h : (q.cell pos).sequence ≤ c.sequence) (p : Nat) :
    (q.cell p).sequence ≤ ((q.setCell pos c).cell p).sequence := by
  by_cases hp : p % capacity = pos % capacity
  · have hcell : (q.setCell pos c).cell p = c := by
      simp only [cell, setCell, hp, Function.update_self]
    have : q.cell p = q.cell pos := by simp only [cell, hp]
    rwa [hcell, this]
  · exact Nat.le_of_eq (congrArg _ (Function.update_of_ne hp ..).symm)

/-! ### What the threads know -/

/-- Positions and sequences only grow, and what is claimed stays. -/
structure Grows (q q' : MpscQueue α capacity) : Prop where
  enqueuePos : q.enqueuePos ≤ q'.enqueuePos
  sequence : ∀ pos, (q.cell pos).sequence ≤ (q'.cell pos).sequence
  claimed : ∀ {pos}, pos < q.enqueuePos → q'.claimed[pos]? = q.claimed[pos]?

theorem Ok.mono {p : Producer α} (ok : q.Ok p) (grows : Grows q q')
    (hold : ∀ pos, p.Holds pos → q.Unpublished pos →
      q'.freed ≤ pos ∧ q'.cell pos = q.cell pos) : q'.Ok p := by
  have kept : ∀ {pos}, p.Holds pos → q.Unpublished pos → q'.Unpublished pos := fun held un =>
    have ⟨hfreed, hcell⟩ := hold _ held un
    ⟨hfreed, Nat.lt_of_lt_of_le un.lt grows.enqueuePos, hcell ▸ un.sequence⟩
  cases p with
  | idle | loadingPos | refusing => trivial
  | loadingSequence => exact Nat.le_trans ok grows.enqueuePos
  | claiming _ pos => exact Nat.le_trans ok (grows.sequence pos)
  | filling => exact ⟨kept rfl ok.1, (grows.claimed ok.1.lt).trans ok.2⟩
  | publishing pos =>
    refine ⟨kept rfl ok.1, ?_⟩
    rw [(hold pos rfl ok.1).2, grows.claimed ok.1.lt]
    exact ok.2

theorem Reads.mono {c : Consumer α} (reads : q.Reads c) (grows : Grows q q')
    (hdeq : q'.dequeuePos = q.dequeuePos)
    (hseq : ∀ pos, q.Seen pos → (q'.cell pos).sequence = (q.cell pos).sequence) :
    q'.Reads c := by
  have kept : ∀ {pos}, q.Seen pos → q'.Seen pos := fun seen =>
    ⟨seen.first.trans hdeq.symm, Nat.lt_of_lt_of_le seen.lt grows.enqueuePos,
      (hseq _ seen).trans seen.sequence⟩
  cases c with
  | idle => trivial
  | loadingSequence => exact Eq.trans reads hdeq.symm
  | copying => exact kept reads
  | freeing => exact ⟨kept reads.1, reads.2.trans (grows.claimed reads.1.lt).symm⟩
  | advancing =>
    exact ⟨reads.1.trans hdeq.symm, Nat.lt_of_lt_of_le reads.2 grows.enqueuePos⟩

/-! ### The steps -/

theorem Inv.unpublished (h : Inv q) (held : (q.producers t).Holds pos) : q.Unpublished pos := by
  have ok := h.thread t
  cases hp : q.producers t <;> rw [hp] at ok held <;> cases held
  · exact ok.1
  · exact ok.1

theorem Inv.setProducer (h : Inv q) {p : Producer α} (ok : q.Ok p)
    (hold : ∀ {pos u}, p.Holds pos → (q.producers u).Holds pos → u = t) :
    Inv (q.setProducer t p) := by
  have grows : Grows q (q.setProducer t p) := ⟨Nat.le_refl _, fun _ => Nat.le_refl _, fun _ => rfl⟩
  have ok' : ∀ {p'}, q.Ok p' → (q.setProducer t p).Ok p' := fun ok =>
    ok.mono grows fun _ _ un => ⟨un.freed, rfl⟩
  have at_t := producers_setProducer_self q t p
  have others {u : Nat} (hu : u ≠ t) := producers_setProducer_of_ne (q := q) (p := p) hu
  refine { h with
    thread := fun u => ?_
    alone := fun {u v pos} hu hv => ?_
    reads := h.reads.mono grows rfl fun _ _ => rfl }
  · by_cases hut : u = t
    · subst hut
      exact at_t.symm ▸ ok' ok
    · exact (others hut).symm ▸ ok' (h.thread u)
  · by_cases hut : u = t
    · subst hut
      by_cases hvt : v = u
      · exact hvt.symm
      · exact (hold (at_t ▸ hu) (others hvt ▸ hv)).symm
    · by_cases hvt : v = t
      · subst hvt
        exact hold (at_t ▸ hv) (others hut ▸ hu)
      · exact h.alone (others hut ▸ hu) (others hvt ▸ hv)

section

variable (hcap : 2 ≤ capacity)
include hcap

omit hcap in
theorem Inv.unpublished_apart (h : Inv q) {p : Nat} (un : q.Unpublished pos)
    (un' : q.Unpublished p) (ne : p ≠ pos) : p % capacity ≠ pos % capacity := by
  have := h.room
  obtain ⟨_, _, _⟩ := un
  obtain ⟨_, _, _⟩ := un'
  exact mod_ne ne (by omega) (by omega)

/-- The cell the consumer has seen is published: one that shares it would be the next position. -/
theorem Unpublished.apart (un : q.Unpublished pos) {p : Nat} (seen : q.Seen p) :
    p % capacity ≠ pos % capacity := by
  intro same
  have hcell : q.cell p = q.cell pos := by simp only [cell, same]
  have := hcell ▸ seen.sequence
  have := un.sequence
  exact mod_ne (by omega) (by omega) (by omega) same

/-- A claimed cell is filled or published. -/
theorem Inv.setCell (h : Inv q) {c : MpscCell α} (un : q.Unpublished pos)
    (held : ∀ u, (q.producers u).Holds pos → (q.setCell pos c).Ok (q.producers u))
    (hc : c.sequence = pos ∨ c.sequence = pos + 1 ∧ c.item = q.claimed[pos]?) :
    Inv (q.setCell pos c) := by
  have hroom := h.room
  have hfreed := un.freed
  have hlt := un.lt
  have others : ∀ p, q.freed ≤ p → p < q.freed + capacity → p ≠ pos →
      (q.setCell pos c).cell p = q.cell p :=
    fun p low high hp => cell_setCell_of_ne c hp (by omega) (by omega)
  have grows : Grows q (q.setCell pos c) :=
    ⟨Nat.le_refl _, cell_sequence_le (by rw [un.sequence]; omega), fun _ => rfl⟩
  refine { h with free := ?_, taken := ?_, thread := ?_, reads := ?_ }
  · intro p low high
    have : p ≠ pos := Nat.ne_of_gt (Nat.lt_of_lt_of_le hlt low)
    rw [others p (Nat.le_trans h.behind low) high this]
    exact h.free p low high
  · intro p low high
    by_cases hp : p = pos
    · subst hp
      rw [cell_setCell_self]
      exact hc
    · rw [others p low (Nat.lt_of_lt_of_le high hroom) hp]
      exact h.taken p low high
  · intro u
    by_cases hu : (q.producers u).Holds pos
    · exact held u hu
    · refine (h.thread u).mono grows fun p hp unp => ⟨unp.freed, ?_⟩
      exact others p unp.freed (Nat.lt_of_lt_of_le unp.lt hroom) fun same => hu (same ▸ hp)
  · refine h.reads.mono grows rfl fun p seen => congrArg _ (Function.update_of_ne ?_ ..)
    exact un.apart hcap seen

/-- The compare-and-swap finds the position the thread has read, so there is room. -/
theorem Inv.room_of_claiming (h : Inv q) (ok : q.Ok (.claiming x q.enqueuePos)) :
    q.enqueuePos < q.freed + capacity := by
  refine Nat.lt_of_le_of_ne h.room fun full => ?_
  -- in a full ring the next position shares the cell of the first one not freed
  have hcell : q.cell q.enqueuePos = q.cell q.freed := by
    simp only [cell, full, Nat.add_mod_right]
  have hseq : q.enqueuePos ≤ (q.cell q.freed).sequence := hcell ▸ ok
  have := h.taken q.freed (Nat.le_refl _) (by omega)
  omega

omit hcap in
theorem Inv.claim (h : Inv q) (room : q.enqueuePos < q.freed + capacity) : Inv (q.claim x) := by
  have hcount := h.count
  have hkept : ∀ {p}, p < q.enqueuePos → (q.claim x).claimed[p]? = q.claimed[p]? := fun hp =>
    List.getElem?_append_left (by omega)
  have grows : Grows q (q.claim x) := ⟨Nat.le_succ _, fun _ => Nat.le_refl _, hkept⟩
  refine
    { h with
      behind := Nat.le_succ_of_le h.behind
      room := room
      count := by rw [MpscQueue.claim, List.length_append, hcount]; rfl
      free := fun p low high => h.free p (Nat.le_of_succ_le low) high
      taken := fun p low high => ?_
      thread := fun t => (h.thread t).mono grows fun _ _ un => ⟨un.freed, rfl⟩
      reads := h.reads.mono grows rfl fun _ _ => rfl
      popped := ?_ }
  · rcases Nat.lt_succ_iff_lt_or_eq.mp high with hp | rfl
    · rw [hkept hp]
      exact h.taken p low hp
    · exact .inl (h.free _ (Nat.le_refl _) room)
  · exact h.popped.trans (List.take_append_of_le_length (by rw [hcount]; exact h.behind)).symm

omit hcap in
/-- What is neither a position, a cell nor an item claimed is nothing to the invariant. -/
theorem Inv.note (h : Inv q) (dropped : Nat) (offered : List α) :
    Inv ({ q with dropped := dropped, offered := offered } : MpscQueue α capacity) := by
  have grows : Grows q { q with dropped := dropped, offered := offered } :=
    ⟨Nat.le_refl _, fun _ => Nat.le_refl _, fun _ => rfl⟩
  exact
    { h with
      thread := fun t => (h.thread t).mono grows fun _ _ un => ⟨un.freed, rfl⟩
      reads := h.reads.mono grows rfl fun _ _ => rfl }

theorem Inv.produce (h : Inv q) (t : Nat) (spurious : Bool) : Inv (q.produce t spurious) := by
  have ok := h.thread t
  unfold MpscQueue.produce
  split <;> rename_i hp <;> rw [hp] at ok
  · exact h
  · exact h.setProducer (Nat.le_refl _) fun held => False.elim held
  · dsimp only
    split
    · exact h.setProducer (show _ ≤ _ by omega) fun held => False.elim held
    · split
      · exact (h.note _ _).setProducer trivial fun held => False.elim held
      · exact h.setProducer trivial fun held => False.elim held
  · split <;> rename_i hcas
    · obtain ⟨rfl, -⟩ := hcas
      have room := h.room_of_claiming hcap ok
      refine (h.claim room).setProducer ⟨⟨h.behind, Nat.lt_succ_self _, ?_⟩, ?_⟩ ?_
      · exact h.free _ (Nat.le_refl _) room
      · rw [← h.count]
        exact List.getElem?_concat_length
      · rintro _ u rfl held
        exact absurd (h.unpublished held).lt (Nat.lt_irrefl _)
    · exact h.setProducer (Nat.le_refl _) fun held => False.elim held
  · rename_i x pos
    have held : (q.producers t).Holds pos := hp ▸ rfl
    have kept {c : MpscCell α} (hc : c.sequence = pos) : (q.setCell pos c).Unpublished pos :=
      ⟨ok.1.freed, ok.1.lt, by rw [cell_setCell_self, hc]⟩
    have filled := h.setCell hcap (c := { q.cell pos with item := some x }) ok.1
      (fun u hu => by rw [h.alone hu held, hp]; exact ⟨kept ok.1.sequence, ok.2⟩)
      (.inl ok.1.sequence)
    refine filled.setProducer ⟨kept ok.1.sequence, ?_⟩ fun same hu => h.alone hu (same ▸ held)
    rw [cell_setCell_self]
    exact ok.2.symm
  · rename_i pos
    have held : (q.producers t).Holds pos := hp ▸ rfl
    have idle : Inv (q.setProducer t .idle) := h.setProducer trivial fun held => False.elim held
    refine idle.setCell hcap ⟨ok.1.freed, ok.1.lt, ok.1.sequence⟩ (fun u hu => ?_)
      (.inr ⟨rfl, ok.2⟩)
    by_cases hut : u = t
    · subst hut
      rw [producers_setProducer_self]
      trivial
    · rw [producers_setProducer_of_ne hut] at hu
      exact absurd (h.alone hu held) hut
  · exact (h.note _ _).setProducer trivial fun held => False.elim held

omit hcap in
/-- The consumer goes on without freeing a cell. -/
theorem Inv.moved (h : Inv q) {dequeuePos : Nat} {c : Consumer α}
    (same : ({ q with dequeuePos := dequeuePos, consumer := c } : MpscQueue α capacity).freed =
      q.freed)
    (reads : ({ q with dequeuePos := dequeuePos, consumer := c } : MpscQueue α capacity).Reads c) :
    Inv ({ q with dequeuePos := dequeuePos, consumer := c } : MpscQueue α capacity) := by
  have grows : Grows q { q with dequeuePos := dequeuePos, consumer := c } :=
    ⟨Nat.le_refl _, fun _ => Nat.le_refl _, fun _ => rfl⟩
  exact
    { h with
      behind := same.symm ▸ h.behind
      room := same.symm ▸ h.room
      free := same.symm ▸ h.free
      taken := same.symm ▸ h.taken
      thread := fun t => (h.thread t).mono grows fun _ _ un => ⟨same.symm ▸ un.freed, rfl⟩
      reads := reads
      popped := same.symm ▸ h.popped }

omit hcap in
theorem Inv.setConsumer (h : Inv q) {c : Consumer α} (same : (q.setConsumer c).freed = q.freed)
    (reads : q.Reads c) : Inv (q.setConsumer c) :=
  h.moved same (reads.mono ⟨Nat.le_refl _, fun _ => Nat.le_refl _, fun _ => rfl⟩ rfl
    fun _ _ => rfl)

theorem Inv.freeing (h : Inv q) {x : Option α} (hfreed : q.freed = pos) (seen : q.Seen pos)
    (hx : x = q.claimed[pos]?) :
    Inv (q.free pos x) := by
  subst hfreed
  have hlt := seen.lt
  have hroom := h.room
  have others : ∀ p, q.freed < p → p < q.freed + capacity →
      (q.setCell q.freed { q.cell q.freed with sequence := q.freed + capacity }).cell p = q.cell p :=
    fun p low high => cell_setCell_of_ne _ (Nat.ne_of_gt low) high (by omega)
  have grows : Grows q (q.free q.freed x) :=
    ⟨Nat.le_refl _, cell_sequence_le (by rw [seen.sequence]; show _ ≤ _ + _; omega), fun _ => rfl⟩
  refine
    { h with
      behind := hlt
      room := Nat.le_trans hroom (Nat.add_le_add_right (Nat.le_succ _) _)
      free := fun p low high => ?_
      taken := fun p low high => ?_
      thread := fun t => ?_
      reads := ⟨seen.first, hlt⟩
      popped := ?_ }
  · have high : p < q.freed + 1 + capacity := high
    by_cases hp : p = q.freed + capacity
    -- the cell freed is the first of the next turn
    · subst hp
      simp only [cell, MpscQueue.free, MpscQueue.setCell, Nat.add_mod_right, Function.update_self]
    · have low : q.enqueuePos ≤ p := low
      exact (congrArg _ (others p (by omega) (by omega))).trans (h.free p low (by omega))
  · have low : q.freed < p := low
    exact (others p low (Nat.lt_of_lt_of_le high hroom)).symm ▸ h.taken p (Nat.le_of_lt low) high
  · refine (h.thread t).mono grows fun p _ un => ?_
    have : p ≠ q.freed := fun hp => by
      have := hp ▸ un.sequence
      have := seen.sequence
      omega
    have low : q.freed < p := Nat.lt_of_le_of_ne un.freed this.symm
    exact ⟨low, others p low (Nat.lt_of_lt_of_le un.lt hroom)⟩
  · have hget : q.freed < q.claimed.length := h.count ▸ hlt
    show q.popped ++ x.toList = q.claimed.take (q.freed + 1)
    rw [List.take_succ_eq_append_getElem hget, ← h.popped, hx, List.getElem?_eq_getElem hget]
    rfl

theorem Inv.consume (h : Inv q) : Inv q.consume := by
  have reads := h.reads
  unfold MpscQueue.consume
  split <;> rename_i hc <;> rw [hc] at reads
  · exact h
  · have hfreed : q.freed = q.dequeuePos := by rw [freed, hc]
    split <;> rename_i hseq
    · exact h.setConsumer hfreed.symm trivial
    · have seen := of_not_not hseq
      refine h.setConsumer hfreed.symm ⟨reads, Nat.lt_of_not_le fun hle => ?_, seen⟩
      have := h.free _ hle (by rw [hfreed, ← reads]; omega)
      omega
  · have hfreed : q.freed = q.dequeuePos := by rw [freed, hc]
    refine h.setConsumer hfreed.symm ⟨reads, ?_⟩
    have := h.taken _ (by rw [hfreed, reads.first]) reads.lt
    have := reads.sequence
    grind
  · have hfreed : q.freed = q.dequeuePos := by rw [freed, hc]
    exact h.freeing hcap (hfreed.trans reads.1.first.symm) reads.1 reads.2
  · obtain ⟨rfl, -⟩ := reads
    exact h.moved (show q.dequeuePos + 1 = q.freed by rw [freed, hc]) trivial

omit hcap in
theorem init_inv : Inv ({} : MpscQueue α capacity) where
  behind := Nat.le_refl _
  room := Nat.zero_le _
  count := rfl
  free _ _ high := Nat.mod_eq_of_lt (Nat.lt_of_lt_of_eq high (Nat.zero_add _))
  taken _ _ high := absurd high (Nat.not_lt_zero _)
  thread _ := trivial
  alone held := False.elim held
  reads := trivial
  popped := rfl

theorem Inv.step (h : Inv q) (a : MpscAction α) : Inv (q.step a) := by
  cases a with
  | push t x =>
    unfold MpscQueue.step
    dsimp only
    split
    · exact h.setProducer trivial fun held => False.elim held
    · exact h
  | produce t spurious => exact h.produce hcap t spurious
  | pop =>
    unfold MpscQueue.step
    dsimp only
    split <;> rename_i hc
    · exact h.setConsumer (by rw [freed, freed, hc]; rfl) rfl
    · exact h
  | consume => exact h.consume hcap

/-! ### A full ring -/

omit hcap in
/-- No sequence is behind a position of this turn or of an earlier one. -/
theorem Inv.le_sequence (h : Inv q) : ∀ (turns p : Nat), p < q.freed + capacity →
    q.freed ≤ p + turns * capacity → p ≤ (q.cell p).sequence := by
  have window : ∀ p, q.freed ≤ p → p < q.freed + capacity → p ≤ (q.cell p).sequence := by
    intro p low high
    by_cases hp : p < q.enqueuePos
    · have := h.taken p low hp
      omega
    · exact Nat.le_of_eq (h.free p (Nat.le_of_not_lt hp) high).symm
  intro turns
  induction turns with
  | zero =>
    intro p high low
    exact window p (by omega) high
  | succ turns ih =>
    intro p high low
    by_cases hp : q.freed ≤ p
    · exact window p hp high
    · have next := ih (p + capacity) (by omega) (by rw [Nat.succ_mul] at low; omega)
      have : q.cell (p + capacity) = q.cell p := by simp only [cell, Nat.add_mod_right]
      exact Nat.le_trans (Nat.le_add_right _ _) (this ▸ next)

/-- A sequence behind the position says that one turn of the ring is taken. -/
theorem Inv.full (h : Inv q) (hp : q.producers t = .loadingSequence x pos)
    (lag : (q.cell pos).sequence < pos) : q.freed + capacity ≤ q.enqueuePos := by
  have hle : q.Ok (q.producers t) := h.thread t
  rw [hp] at hle
  refine Nat.le_of_not_lt fun room => Nat.not_lt.mpr ?_ lag
  refine h.le_sequence q.freed pos (Nat.lt_of_le_of_lt hle room) ?_
  exact Nat.le_trans (Nat.le_mul_of_pos_right _ (by omega)) (Nat.le_add_left _ _)

/-! ### Refinement -/

omit hcap in
theorem Inv.length_waiting (h : Inv q) : q.waiting.length = q.enqueuePos - q.freed := by
  rw [waiting, List.length_drop, h.count]

omit hcap in
theorem Inv.waiting_le (h : Inv q) : q.waiting.length ≤ capacity := by
  have := h.room
  rw [h.length_waiting]
  omega

/-- What can be seen of the queue. -/
def toBounded (q : MpscQueue α capacity) : BoundedQueue α := ⟨q.waiting, q.offered, q.popped⟩

omit hcap in
theorem stay_of_freed (same : q'.freed = q.freed)
    (lists : (q'.claimed, q'.offered, q'.popped) = (q.claimed, q.offered, q.popped)) :
    BoundedQueue.Step capacity q.toBounded q'.toBounded := by
  simp only [Prod.mk.injEq] at lists
  unfold toBounded waiting
  rw [same, lists.1, lists.2.1, lists.2.2]
  exact .stay

theorem Inv.refines_produce (h : Inv q) (t : Nat) (spurious : Bool) :
    BoundedQueue.Step capacity q.toBounded (q.produce t spurious).toBounded := by
  have ok := h.thread t
  unfold MpscQueue.produce
  split <;> rename_i hp <;> rw [hp] at ok
  · exact .stay
  · exact .stay
  · dsimp only
    split
    · exact .stay
    · split
      · have full := h.full hcap hp (by omega)
        exact .refuse _ (by rw [toBounded, h.length_waiting]; omega)
      · exact .stay
  · rename_i x pos
    split <;> rename_i hcas
    · obtain ⟨rfl, -⟩ := hcas
      have room := h.room_of_claiming hcap ok
      have more : ((q.claim x).setProducer t (.filling x q.enqueuePos)).waiting =
          q.waiting ++ [x] := List.drop_append_of_le_length (by rw [h.count]; exact h.behind)
      unfold toBounded
      rw [more]
      exact .take x (by rw [h.length_waiting]; omega)
    · exact .stay
  all_goals exact .stay

omit hcap in
theorem Inv.refines_consume (h : Inv q) :
    BoundedQueue.Step capacity q.toBounded q.consume.toBounded := by
  have reads := h.reads
  unfold MpscQueue.consume
  split <;> rename_i hc <;> rw [hc] at reads
  · exact .stay
  · have same : q.freed = q.dequeuePos := by rw [freed, hc]
    split
    · exact stay_of_freed same.symm rfl
    · exact stay_of_freed same.symm rfl
  · have same : q.freed = q.dequeuePos := by rw [freed, hc]
    exact stay_of_freed same.symm rfl
  · rename_i pos x
    obtain ⟨seen, is⟩ := reads
    have same : q.freed = pos := by rw [freed, hc, seen.first]
    have inside : pos < q.claimed.length := h.count ▸ seen.lt
    have first : q.waiting = q.claimed[pos] :: q.claimed.drop (pos + 1) := by
      rw [waiting, same, List.drop_eq_getElem_cons inside]
    have popped : (q.free pos x).popped = q.popped ++ [q.claimed[pos]] := by
      rw [MpscQueue.free, is, List.getElem?_eq_getElem inside]
      rfl
    unfold toBounded
    rw [popped]
    exact .pop _ _ first
  · obtain ⟨rfl, -⟩ := reads
    have same : q.freed = q.dequeuePos + 1 := by rw [freed, hc]
    exact stay_of_freed same.symm rfl

/-- **Every access is a step of a bounded queue.** -/
theorem Inv.refines (h : Inv q) (a : MpscAction α) :
    BoundedQueue.Step capacity q.toBounded (q.step a).toBounded := by
  cases a with
  | push t x =>
    unfold MpscQueue.step
    dsimp only
    split <;> exact .stay
  | produce t spurious => exact h.refines_produce hcap t spurious
  | pop =>
    unfold MpscQueue.step
    dsimp only
    split <;> rename_i hc
    · have same : q.freed = q.dequeuePos := by rw [freed, hc]
      exact stay_of_freed same.symm rfl
    · exact .stay
  | consume => exact h.refines_consume

/-- A full queue is offered something only by a thread that looks at the sequence of a cell. -/
theorem Inv.looks_of_offered (h : Inv q) {a : MpscAction α} (full : capacity ≤ q.waiting.length)
    (offered : (q.step a).offered ≠ q.offered) :
    ∃ t spurious x pos, a = .produce t spurious ∧ q.producers t = .loadingSequence x pos := by
  cases a with
  | push t x =>
    simp only [MpscQueue.step] at offered
    split at offered <;> exact absurd rfl offered
  | produce t spurious =>
    have ok := h.thread t
    simp only [MpscQueue.step, MpscQueue.produce] at offered
    cases hp : q.producers t with
    | loadingSequence x pos => exact ⟨t, spurious, x, pos, rfl, hp⟩
    | claiming x pos =>
      rw [hp] at ok offered
      dsimp only at offered
      split at offered <;> rename_i hcas
      · obtain ⟨rfl, -⟩ := hcas
        have room := h.room_of_claiming hcap ok
        rw [h.length_waiting] at full
        omega
      · exact absurd rfl offered
    | _ =>
      rw [hp] at offered
      exact absurd rfl offered
  | pop =>
    simp only [MpscQueue.step] at offered
    split at offered <;> exact absurd rfl offered
  | consume =>
    simp only [MpscQueue.step, MpscQueue.consume] at offered
    split at offered
    · exact absurd rfl offered
    · split at offered <;> exact absurd rfl offered
    all_goals exact absurd rfl offered

end

/-! ### Whole runs -/

/-- A thread's push finds the sequence of its cell behind. -/
def TurnsAway (q : MpscQueue α capacity) (a : MpscAction α) : Prop :=
  ∃ t spurious x pos, a = .produce t spurious ∧ q.producers t = .loadingSequence x pos ∧
    (q.cell pos).sequence < pos

/-- The pushes that return false with the access. -/
def refusals (q : MpscQueue α capacity) : MpscAction α → Nat
  | .produce t _ => match q.producers t with
    | .refusing => 1
    | _ => 0
  | _ => 0

theorem dropped_step (q : MpscQueue α capacity) (a : MpscAction α) :
    (q.step a).dropped = q.dropped + q.refusals a := by
  cases a with
  | push | pop =>
    unfold MpscQueue.step
    dsimp only
    split <;> rfl
  | produce t spurious =>
    simp only [MpscQueue.step, MpscQueue.produce, refusals]
    cases q.producers t with
    | loadingSequence x pos =>
      dsimp only
      repeat' split
      all_goals rfl
    | claiming x pos =>
      dsimp only
      split <;> rfl
    | _ => rfl
  | consume =>
    simp only [MpscQueue.step, MpscQueue.consume]
    repeat' split
    all_goals rfl

theorem dropped_run (q : MpscQueue α capacity) (acts : List (MpscAction α)) :
    (run step q acts).dropped = q.dropped + cost step refusals q acts := by
  induction acts generalizing q with
  | nil => rfl
  | cons a rest ih => rw [run_cons, ih, dropped_step, cost, Nat.add_assoc]

end MpscQueue

end Dish
