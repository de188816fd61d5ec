/-
What the reorder window makes of a stream.

The window is compared with a reference that has no slots and no loop.  It counts frames from the
first packet on, without wrapping, and says of each frame whether it was played, concealed or
skipped: `absorb` gives the frames that one packet settles, from how far ahead it is, the number of
frames concealed last and the one packet that may be waiting.  A push of the window emits the events
of those frames and holds the packet the reference holds (`offer_absorb`), and everything else is
read off the frames.
-/
import Mathlib.Data.List.Perm.Basic
import Mathlib.Data.List.Chain
import Dish.Core.AudioJitter

namespace Dish

open Function

variable {d : Nat} {n : UInt16}

/-! ### Wrapping distances -/

/-- How many frames after `n` the number `seq` comes, around the wrap. -/
def framesFrom (n seq : UInt16) : Nat := (seq - n).toNat

theorem framesFrom_lt (n seq : UInt16) : framesFrom n seq < 65536 := (seq - n).toNat_lt

theorem framesFrom_self (n : UInt16) : framesFrom n n = 0 := by
  unfold framesFrom
  rw [UInt16.sub_self]
  rfl

theorem add_framesFrom (n seq : UInt16) : n + UInt16.ofNat (framesFrom n seq) = seq := by
  unfold framesFrom
  rw [UInt16.ofNat_toNat, UInt16.add_comm]
  exact UInt16.sub_add_cancel seq n

theorem framesFrom_add (h : d < 65536) :
    framesFrom n (n + UInt16.ofNat d) = d := by
  unfold framesFrom
  rw [UInt16.add_comm, UInt16.add_sub_cancel, UInt16.toNat_ofNat_of_lt' h]

theorem framesFrom_next (n : UInt16) : framesFrom n (n + 1) = 1 :=
  framesFrom_add (d := 1) (by omega)

theorem framesFrom_eq_zero {seq : UInt16} : framesFrom n seq = 0 ↔ seq = n := by
  constructor
  · intro h
    rw [← add_framesFrom n seq, h]
    exact UInt16.add_zero n
  · rintro rfl
    exact framesFrom_self seq

theorem ne_of_ahead {seq : UInt16} (h : 0 < framesFrom n seq) : seq ≠ n :=
  fun heq => Nat.ne_of_gt h (framesFrom_eq_zero.mpr heq)

theorem framesFrom_succ {seq : UInt16} (h : seq ≠ n) :
    framesFrom (n + 1) seq = framesFrom n seq - 1 := by
  have hpos : framesFrom n seq ≠ 0 := fun hzero => h (framesFrom_eq_zero.mp hzero)
  have hlt := framesFrom_lt n seq
  have hseq := add_framesFrom n seq
  generalize hd : framesFrom n seq = d at hpos hlt hseq
  obtain ⟨e, rfl⟩ : ∃ e, d = e + 1 := ⟨d - 1, by omega⟩
  rw [UInt16.ofNat_add, UInt16.add_comm (UInt16.ofNat e), ← UInt16.add_assoc] at hseq
  rw [← hseq]
  exact framesFrom_add (by omega)

theorem toInt_toInt16 (x : UInt16) :
    x.toInt16.toInt = if x.toNat < 32768 then (x.toNat : Int) else x.toNat - 65536 := by
  show x.toBitVec.toInt = _
  have hnat : x.toBitVec.toNat = x.toNat := rfl
  rw [BitVec.toInt_eq_toNat_cond, hnat]
  split <;> split <;> omega

namespace AudioJitterWindow

variable {w : AudioJitterWindow} {seq : UInt16}

theorem deltaFromNext_of_lt (h : framesFrom w.next seq < 32768) :
    w.deltaFromNext seq = framesFrom w.next seq := by
  unfold deltaFromNext
  rw [toInt_toInt16]
  exact if_pos h

theorem deltaFromNext_neg : w.deltaFromNext seq < 0 ↔ 32768 ≤ framesFrom w.next seq := by
  have hlt := framesFrom_lt w.next seq
  unfold deltaFromNext
  rw [toInt_toInt16]
  show (if framesFrom w.next seq < 32768 then _ else _) < 0 ↔ _
  unfold framesFrom at hlt ⊢
  split <;> omega

/-! ### Windows with one packet or two

A window is told by the packets it holds.  In `push` it never holds more than two. -/

def slot0 : Fin audioJitterWindowFrames := ⟨0, by decide⟩

def slot1 : Fin audioJitterWindowFrames := ⟨1, by decide⟩

theorem slots_eq : List.finRange audioJitterWindowFrames = [slot0, slot1] := rfl

theorem slot_cases (i : Fin audioJitterWindowFrames) : i = slot0 ∨ i = slot1 := by
  obtain ⟨i, -⟩ := i
  have hframes : audioJitterWindowFrames = 2 := rfl
  rcases Nat.lt_or_ge i 1 with h | h
  · left
    exact Fin.ext (by show i = 0; omega)
  · right
    exact Fin.ext (by show i = 1; omega)

/-- Nothing is held. -/
def Empty (w : AudioJitterWindow) : Prop := ∀ i, (w.slots i).used = false

/-- One packet is held. -/
structure Only (w : AudioJitterWindow) (i : Fin audioJitterWindowFrames) (seq : UInt16)
    (data : List UInt8) : Prop where
  slot : w.slots i = ⟨true, seq, data⟩
  others : ∀ j, j ≠ i → (w.slots j).used = false

/-- Two packets are held. -/
structure Pair (w : AudioJitterWindow) (i j : Fin audioJitterWindowFrames) (a : UInt16)
    (as : List UInt8) (b : UInt16) (bs : List UInt8) : Prop where
  ne : i ≠ j
  first : w.slots i = ⟨true, a, as⟩
  second : w.slots j = ⟨true, b, bs⟩

section Held

variable {i j : Fin audioJitterWindowFrames} {a b : UInt16} {data as bs : List UInt8}

theorem Empty.usedSlots (h : w.Empty) : w.usedSlots = 0 := by
  simp [AudioJitterWindow.usedSlots, h _]

theorem Empty.freeSlot (h : w.Empty) : w.freeSlot = some slot0 := by
  simp [AudioJitterWindow.freeSlot, slots_eq, h _]

theorem Empty.find (h : w.Empty) (seq : UInt16) : w.find seq = none := by
  simp [AudioJitterWindow.find, h _]

theorem Empty.turn (h : w.Empty) : w.turn = none := by
  have hahead : w.maxAhead = -1 := by simp [AudioJitterWindow.maxAhead, slots_eq, h _]
  unfold AudioJitterWindow.turn
  rw [h.find, hahead]
  rfl

theorem Empty.buffered (h : w.Empty) : w.buffered = [] := by
  simp [AudioJitterWindow.buffered, h _]

section
variable (h : w.Only i seq data)
include h

theorem Only.slots : i = slot0 ∧ w.slots slot0 = ⟨true, seq, data⟩ ∧ (w.slots slot1).used = false ∨
    i = slot1 ∧ (w.slots slot0).used = false ∧ w.slots slot1 = ⟨true, seq, data⟩ := by
  rcases slot_cases i with rfl | rfl
  · exact .inl ⟨rfl, h.slot, h.others slot1 (by decide)⟩
  · exact .inr ⟨rfl, h.others slot0 (by decide), h.slot⟩

theorem Only.usedSlots : w.usedSlots = 1 := by
  rcases h.slots with ⟨-, h0, h1⟩ | ⟨-, h0, h1⟩ <;>
    simp [AudioJitterWindow.usedSlots, slots_eq, h0, h1]

theorem Only.buffered : w.buffered = [(seq, data)] := by
  rcases h.slots with ⟨-, h0, h1⟩ | ⟨-, h0, h1⟩ <;>
    simp [AudioJitterWindow.buffered, slots_eq, h0, h1]

theorem Only.find_self : w.find seq = some i := by
  rcases h.slots with ⟨rfl, h0, h1⟩ | ⟨rfl, h0, h1⟩ <;>
    simp [find, slots_eq, h0, h1]

theorem Only.find_of_ne (hne : seq ≠ a) : w.find a = none := by
  rcases h.slots with ⟨rfl, h0, h1⟩ | ⟨rfl, h0, h1⟩ <;>
    simp [find, slots_eq, h0, h1, hne]

theorem Only.maxAhead (hd : framesFrom w.next seq < 32768) :
    w.maxAhead = framesFrom w.next seq := by
  have hdelta := deltaFromNext_of_lt hd
  have hpos : ((framesFrom w.next seq : Nat) : Int) > -1 := by omega
  rcases h.slots with ⟨rfl, h0, h1⟩ | ⟨rfl, h0, h1⟩ <;>
    simp [AudioJitterWindow.maxAhead, slots_eq, h0, h1, hdelta, hpos]

theorem Only.oldestHeld : w.oldestHeld = some i := by
  rcases h.slots with ⟨rfl, h0, h1⟩ | ⟨rfl, h0, h1⟩ <;>
    simp [oldestHeld, slots_eq, h0, h1]

theorem Only.freeSlot : ∃ j, j ≠ i ∧ w.freeSlot = some j := by
  rcases h.slots with ⟨rfl, h0, h1⟩ | ⟨rfl, h0, h1⟩
  · exact ⟨slot1, by decide, by simp [freeSlot, slots_eq, h0, h1]⟩
  · exact ⟨slot0, by decide, by simp [freeSlot, slots_eq, h0]⟩

end

section
variable (h : w.Pair i j a as b bs)
include h

theorem Pair.slots :
    (i = slot0 ∧ j = slot1 ∧ w.slots slot0 = ⟨true, a, as⟩ ∧ w.slots slot1 = ⟨true, b, bs⟩) ∨
    (i = slot1 ∧ j = slot0 ∧ w.slots slot0 = ⟨true, b, bs⟩ ∧ w.slots slot1 = ⟨true, a, as⟩) := by
  have hne := h.ne
  rcases slot_cases i with rfl | rfl <;> rcases slot_cases j with rfl | rfl
  · exact (hne rfl).elim
  · exact .inl ⟨rfl, rfl, h.first, h.second⟩
  · exact .inr ⟨rfl, rfl, h.second, h.first⟩
  · exact (hne rfl).elim

theorem Pair.find_first (hab : a ≠ b) : w.find a = some i := by
  rcases h.slots with ⟨rfl, rfl, h0, h1⟩ | ⟨rfl, rfl, h0, h1⟩ <;>
    simp [find, slots_eq, h0, h1, hab.symm]

theorem Pair.find_of_ne (ha : a ≠ seq) (hb : b ≠ seq) :
    w.find seq = none := by
  rcases h.slots with ⟨rfl, rfl, h0, h1⟩ | ⟨rfl, rfl, h0, h1⟩ <;>
    simp [find, slots_eq, h0, h1, ha, hb]

section
variable (hab : framesFrom w.next a < framesFrom w.next b) (hb : framesFrom w.next b < 32768)
include hab hb

theorem Pair.maxAhead : w.maxAhead = framesFrom w.next b := by
  have ha : w.deltaFromNext a = framesFrom w.next a := deltaFromNext_of_lt (by omega)
  have hb := deltaFromNext_of_lt hb
  rcases h.slots with ⟨rfl, rfl, h0, h1⟩ | ⟨rfl, rfl, h0, h1⟩ <;>
    · simp only [AudioJitterWindow.maxAhead, slots_eq, h0, h1, ha, hb, List.foldl, if_true]
      split <;> split <;> omega

theorem Pair.oldestHeld
    :
    w.oldestHeld = some i := by
  have ha : w.deltaFromNext a = framesFrom w.next a := deltaFromNext_of_lt (by omega)
  have hb := deltaFromNext_of_lt hb
  have hnot : ¬ framesFrom w.next b < framesFrom w.next a := by omega
  rcases h.slots with ⟨rfl, rfl, h0, h1⟩ | ⟨rfl, rfl, h0, h1⟩ <;>
    simp [oldestHeld, slots_eq, h0, h1, ha, hb, hab, hnot]

end

end

/-! ### One turn of the loop -/

theorem Only.turn_due (h : w.Only i w.next data) :
    ∃ w', w.turn = some (w', [.packet w.next data]) ∧ w'.Empty ∧ w'.next = w.next + 1 ∧
      w'.consecutiveGaps = 0 ∧ w'.primed = w.primed := by
  unfold turn
  rw [h.find_self]
  simp only [h.slot]
  refine ⟨_, rfl, fun j => ?_, rfl, rfl, rfl⟩
  show (update w.slots i _ j).used = false
  by_cases hj : j = i
  · rw [hj, update_self]
  · rw [update_of_ne hj]
    exact h.others j hj

theorem Only.turn_wait (h : w.Only i seq data) (hd : framesFrom w.next seq = 1) :
    w.turn = none := by
  have hne : seq ≠ w.next := ne_of_ahead (by omega)
  unfold turn
  rw [h.find_of_ne hne, h.maxAhead (by omega), hd]
  rfl

/-- With the frame that is due missing and a packet far enough ahead, the frame is concealed while
the run is short enough, and a longer run is given up for the oldest packet in hand. -/
theorem turn_hole (hfind : w.find w.next = none) (hahead : 2 ≤ w.maxAhead) :
    w.turn = if w.consecutiveGaps < 2 then
        some ({ w with next := w.next + 1, consecutiveGaps := w.consecutiveGaps + 1 },
          [.gap w.next ((w.find (w.next + 1)).map fun i => (w.slots i).bytes)])
      else w.oldestHeld.map fun i => ({ w with next := (w.slots i).seq, consecutiveGaps := 0 }, []) := by
  have hfar : ¬ w.maxAhead < audioJitterWindowFrames := Int.not_lt_of_ge hahead
  unfold turn
  rw [hfind]
  simp only [hfar, if_false]
  by_cases hgaps : w.consecutiveGaps < 2
  · have hrun : ¬ w.consecutiveGaps ≥ audioJitterMaxConcealFrames := Nat.not_le.mpr hgaps
    rw [if_neg hrun, if_pos hgaps]
  · have hrun : w.consecutiveGaps ≥ audioJitterMaxConcealFrames := Nat.not_lt.mp hgaps
    rw [if_pos hrun, if_neg hgaps]
    cases w.oldestHeld <;> rfl

section
variable (h : w.Only i seq data) (hd : 2 ≤ framesFrom w.next seq)
    (hlt : framesFrom w.next seq < 32768)
include h hd hlt

theorem Only.turn_gap (hgaps : w.consecutiveGaps < 2) :
    ∃ w', w.turn = some (w', [.gap w.next none]) ∧ w'.Only i seq data ∧ w'.next = w.next + 1 ∧
      w'.consecutiveGaps = w.consecutiveGaps + 1 ∧ w'.primed = w.primed := by
  have hne' : seq ≠ w.next + 1 := fun heq => by rw [heq, framesFrom_next] at hd; omega
  rw [turn_hole (h.find_of_ne (ne_of_ahead (by omega))) (by rw [h.maxAhead hlt]; omega),
    if_pos hgaps, h.find_of_ne hne']
  exact ⟨_, rfl, ⟨h.slot, h.others⟩, rfl, rfl, rfl⟩

theorem Only.turn_resync (hgaps : 2 ≤ w.consecutiveGaps) :
    ∃ w', w.turn = some (w', []) ∧ w'.Only i seq data ∧ w'.next = seq ∧
      w'.consecutiveGaps = 0 ∧ w'.primed = w.primed := by
  rw [turn_hole (h.find_of_ne (ne_of_ahead (by omega))) (by rw [h.maxAhead hlt]; omega),
    if_neg (by omega), h.oldestHeld]
  exact ⟨_, rfl, ⟨h.slot, h.others⟩, by rw [h.slot], rfl, rfl⟩

end

theorem Pair.turn_due (h : w.Pair i j w.next as b bs) (hb : b ≠ w.next) :
    ∃ w', w.turn = some (w', [.packet w.next as]) ∧ w'.Only j b bs ∧ w'.next = w.next + 1 ∧
      w'.consecutiveGaps = 0 ∧ w'.primed = w.primed := by
  unfold turn
  rw [h.find_first hb.symm]
  simp only [h.first]
  refine ⟨_, rfl, ⟨?_, fun k hk => ?_⟩, rfl, rfl, rfl⟩
  · show update w.slots i _ j = _
    rw [update_of_ne h.ne.symm]
    exact h.second
  · show (update w.slots i _ k).used = false
    have hki : k = i := by
      have hij := h.ne
      rcases slot_cases i with rfl | rfl <;> rcases slot_cases j with rfl | rfl <;>
        rcases slot_cases k with rfl | rfl <;>
        first | rfl | exact (hij rfl).elim | exact (hk rfl).elim
    rw [hki, update_self]

/-- With a packet right behind the missing frame, that packet carries a copy of it, or is resumed
from. -/
theorem Pair.turn_lost (h : w.Pair i j (w.next + 1) as b bs) (hb : 2 ≤ framesFrom w.next b)
    (hlt : framesFrom w.next b < 32768) :
    ∃ w', w.turn = some (w', if w.consecutiveGaps < 2 then [.gap w.next (some as)] else []) ∧
      w'.Pair i j w'.next as b bs ∧ w'.next = w.next + 1 ∧ w'.primed = w.primed := by
  have ha := framesFrom_next w.next
  have hab : w.next + 1 ≠ b := fun heq => by rw [heq] at ha; omega
  rw [turn_hole (h.find_of_ne (ne_of_ahead (by omega)) (ne_of_ahead (by omega)))
    (by rw [h.maxAhead (by omega) hlt]; omega)]
  split
  · rw [h.find_first hab]
    simp only [Option.map_some, h.first]
    exact ⟨_, rfl, ⟨h.ne, h.first, h.second⟩, rfl, rfl⟩
  · rw [h.oldestHeld (by omega) hlt]
    simp only [Option.map_some, h.first]
    exact ⟨_, rfl, ⟨h.ne, h.first, h.second⟩, rfl, rfl⟩

end Held

end AudioJitterWindow

/-! ### Frames -/

/-- What became of one frame of the stream. -/
inductive JitterFrame where
  | played (data : List UInt8)
  | concealed (carrier : Option (List UInt8))
  | skipped
  deriving DecidableEq

/-- The events of frames that start at a number. -/
def eventsOf : UInt16 → List JitterFrame → List JitterEvent
  | _, [] => []
  | n, .played data :: rest => .packet n data :: eventsOf (n + 1) rest
  | n, .concealed carrier :: rest => .gap n carrier :: eventsOf (n + 1) rest
  | n, .skipped :: rest => eventsOf (n + 1) rest

/-- The number that many frames on. -/
def after (n : UInt16) (frames : List JitterFrame) : UInt16 := n + UInt16.ofNat frames.length

theorem after_nil (n : UInt16) : after n [] = n := UInt16.add_zero n

theorem after_cons (n : UInt16) (f : JitterFrame) (rest : List JitterFrame) :
    after n (f :: rest) = after (n + 1) rest := by
  unfold after
  rw [List.length_cons, UInt16.ofNat_add, UInt16.add_comm (UInt16.ofNat rest.length),
    ← UInt16.add_assoc]
  rfl

theorem after_append (n : UInt16) (fs gs : List JitterFrame) :
    after n (fs ++ gs) = after (after n fs) gs := by
  induction fs generalizing n with
  | nil => rw [List.nil_append, after_nil]
  | cons f rest ih => rw [List.cons_append, after_cons, after_cons, ih]

theorem eventsOf_append (n : UInt16) (fs gs : List JitterFrame) :
    eventsOf n (fs ++ gs) = eventsOf n fs ++ eventsOf (after n fs) gs := by
  induction fs generalizing n with
  | nil => rw [List.nil_append, after_nil]; rfl
  | cons f rest ih =>
    rw [after_cons]
    cases f with
    | played | concealed => exact congrArg _ (ih (n + 1))
    | skipped => exact ih (n + 1)

theorem eventsOf_skipped (n : UInt16) (k : Nat) : eventsOf n (List.replicate k .skipped) = [] := by
  induction k generalizing n with
  | zero => rfl
  | succ k ih => exact ih (n + 1)

/-! ### The reference -/

/-- What a packet leaves behind: the frames it settled, the run of concealed frames at the end and
the packet that waits one frame ahead. -/
structure Settled where
  frames : List JitterFrame
  gaps : Nat := 0
  held : Option (List UInt8) := none

/-- A packet `d` frames ahead, nothing waiting and no frame concealed last. -/
def settle (data : List UInt8) : Nat → Settled
  | 0 => { frames := [.played data] }
  | 1 => { frames := [], held := some data }
  | 2 => { frames := [.concealed none], gaps := 1, held := some data }
  | 3 => { frames := [.concealed none, .concealed none], gaps := 2, held := some data }
  | d + 4 =>
    { frames := [.concealed none, .concealed none] ++ List.replicate (d + 2) .skipped ++
        [.played data] }

/-- A packet `d` frames ahead, in any state the window rests in. -/
def absorb (gaps : Nat) (held : Option (List UInt8)) (data : List UInt8) (d : Nat) : Settled :=
  match held with
  | none => settle data d
  | some waiting =>
    match d with
    | 0 => { frames := [.played data, .played waiting] }
    | 1 => { frames := [], gaps, held }
    | d + 2 =>
      let lost := if gaps < 2 then .concealed (some waiting) else .skipped
      { settle data d with frames := lost :: .played waiting :: (settle data d).frames }

namespace AudioJitterWindow

variable {w w' : AudioJitterWindow} {seq : UInt16} {i j : Fin audioJitterWindowFrames}
  {data as bs : List UInt8} {fuel : Nat} {events emitted : List JitterEvent}
  {fs gs : List JitterFrame} {gaps : Nat} {held : Option (List UInt8)}

/-- The window as a push leaves it. -/
structure Rests (w : AudioJitterWindow) (gaps : Nat) (held : Option (List UInt8)) : Prop where
  gaps : w.consecutiveGaps = gaps
  empty : held = none → w.Empty
  waits : ∀ data, held = some data → ∃ i, w.Only i (w.next + 1) data

theorem rests_empty (h : w.Empty) : w.Rests w.consecutiveGaps none := ⟨rfl, fun _ => h, nofun⟩

theorem rests_only (h : w.Only i (w.next + 1) data) : w.Rests w.consecutiveGaps (some data) :=
  ⟨rfl, nofun, fun _ hdata => ⟨i, Option.some.inj hdata ▸ h⟩⟩

/-- The window after the frames that were settled. -/
structure Moves (w : AudioJitterWindow) (r : Settled) (w' : AudioJitterWindow) : Prop where
  rests : w'.Rests r.gaps r.held
  next : w'.next = after w.next r.frames
  primed : w'.primed = w.primed

theorem drainOn_stop (h : w.turn = none) : w.drainOn fuel events = (w, events) := by
  cases fuel with
  | zero => rfl
  | succ fuel =>
    unfold drainOn
    rw [h]
    split <;> rfl

theorem drainOn_step (hlen : events.length < 6) (h : w.turn = some (w', emitted)) :
    w.drainOn (fuel + 1) events = w'.drainOn fuel (events ++ emitted) := by
  have hroom : events.length < audioJitterMaxEventsPerPush := hlen
  rw [drainOn, if_pos hroom, h]

/-- The loop settles the frames and rests. -/
def Drains (w : AudioJitterWindow) (fuel : Nat) (events : List JitterEvent) (r : Settled) : Prop :=
  ∃ w', w.drainOn fuel events = (w', events ++ eventsOf w.next r.frames) ∧ w.Moves r w'

theorem Drains.stop (hturn : w.turn = none) (hrests : w.Rests gaps held) :
    w.Drains fuel events ⟨[], gaps, held⟩ :=
  ⟨w, by rw [drainOn_stop hturn]; exact congrArg _ (List.append_nil events).symm, hrests,
    (after_nil _).symm, rfl⟩

theorem Drains.step (fs : List JitterFrame) (hlen : events.length < 6)
    (hturn : w.turn = some (w', eventsOf w.next fs))
    (hnext : w'.next = after w.next fs) (hprimed : w'.primed = w.primed)
    (h : w'.Drains fuel (events ++ eventsOf w.next fs) ⟨gs, gaps, held⟩) :
    w.Drains (fuel + 1) events ⟨fs ++ gs, gaps, held⟩ := by
  obtain ⟨w'', hdrain, hmoves⟩ := h
  refine ⟨w'', ?_, hmoves.rests, ?_, hmoves.primed.trans hprimed⟩
  · rw [drainOn_step hlen hturn, hdrain, eventsOf_append, hnext, List.append_assoc]
  · rw [hmoves.next, hnext, after_append]

theorem Only.drains_due (h : w.Only i w.next data) (fuel : Nat) (hlen : events.length < 6) :
    w.Drains (fuel + 1) events ⟨[.played data], 0, none⟩ := by
  obtain ⟨w', hturn, hempty, hnext, hgaps, hprimed⟩ := h.turn_due
  refine Drains.step [.played data] hlen hturn hnext hprimed ?_
  exact Drains.stop hempty.turn (hgaps ▸ rests_empty hempty)

section
variable (h : w.Only i seq data)
include h

theorem Only.drains_wait (hd : framesFrom w.next seq = 1) (fuel : Nat)
    (events : List JitterEvent) : w.Drains fuel events ⟨[], w.consecutiveGaps, some data⟩ := by
  obtain rfl : seq = w.next + 1 := by
    rw [← add_framesFrom w.next seq, hd]
    rfl
  exact Drains.stop (h.turn_wait hd) (rests_only h)

/-- The frame that is due is concealed, and the packet is one frame nearer. -/
theorem Only.drains_gap (hd : framesFrom w.next seq = d + 2)
    (hlt : d + 2 < 32768) (hgaps : w.consecutiveGaps < 2) (hlen : events.length < 6)
    (hrest : ∀ (w' : AudioJitterWindow) (events' : List JitterEvent), w'.Only i seq data →
      framesFrom w'.next seq = d + 1 → w'.consecutiveGaps = w.consecutiveGaps + 1 →
      events'.length = events.length + 1 → w'.Drains fuel events' ⟨fs, gaps, held⟩) :
    w.Drains (fuel + 1) events ⟨.concealed none :: fs, gaps, held⟩ := by
  obtain ⟨w', hturn, honly, hnext, hgaps', hprimed⟩ := h.turn_gap (by omega) (by omega) hgaps
  refine Drains.step [.concealed none] hlen hturn hnext hprimed (hrest w' _ honly ?_ hgaps' ?_)
  · rw [hnext, framesFrom_succ (ne_of_ahead (by omega)), hd]
    rfl
  · rw [List.length_append]
    rfl

/-- The rest of a hole is skipped. -/
theorem Only.drains_skip (hd : framesFrom w.next seq = d + 2)
    (hlt : d + 2 < 32768) (hgaps : 2 ≤ w.consecutiveGaps) (hlen : events.length < 6) :
    w.Drains (fuel + 2) events ⟨List.replicate (d + 2) .skipped ++ [.played data], 0, none⟩ := by
  obtain ⟨w', hturn, honly, hnext, -, hprimed⟩ := h.turn_resync (by omega) (by omega) hgaps
  obtain rfl : seq = w'.next := hnext.symm
  have hskip := eventsOf_skipped w.next (d + 2)
  refine Drains.step _ hlen (by rw [hskip]; exact hturn) ?_ hprimed ?_
  · unfold after
    rw [List.length_replicate, ← hd, add_framesFrom]
  · rw [hskip, List.append_nil]
    exact honly.drains_due fuel hlen

/-- A packet alone in the window, with no frame concealed last. -/
theorem Only.drains (fuel : Nat) (hlt : framesFrom w.next seq < 32768)
    (hgaps : w.consecutiveGaps = 0) (hlen : events.length ≤ 2) :
    w.Drains (fuel + 4) events (settle data (framesFrom w.next seq)) := by
  generalize hd : framesFrom w.next seq = d at hlt
  match d with
  | 0 =>
    obtain rfl : seq = w.next := framesFrom_eq_zero.mp hd
    exact h.drains_due (fuel + 3) (by omega)
  | 1 =>
    have hwait := h.drains_wait hd (fuel + 4) events
    rwa [hgaps] at hwait
  | 2 =>
    refine h.drains_gap hd hlt (by omega) (by omega) fun w₁ events₁ h₁ hd₁ hgaps₁ hlen₁ => ?_
    have hwait := h₁.drains_wait hd₁ (fuel + 3) events₁
    rwa [hgaps₁, hgaps] at hwait
  | 3 =>
    refine h.drains_gap hd hlt (by omega) (by omega) fun w₁ events₁ h₁ hd₁ hgaps₁ hlen₁ => ?_
    refine h₁.drains_gap hd₁ (by omega) (by omega) (by omega) ?_
    intro w₂ events₂ h₂ hd₂ hgaps₂ hlen₂
    have hwait := h₂.drains_wait hd₂ (fuel + 2) events₂
    rwa [hgaps₂, hgaps₁, hgaps] at hwait
  | d + 4 =>
    refine h.drains_gap hd hlt (by omega) (by omega) fun w₁ events₁ h₁ hd₁ hgaps₁ hlen₁ => ?_
    refine h₁.drains_gap hd₁ (by omega) (by omega) (by omega) ?_
    intro w₂ events₂ h₂ hd₂ hgaps₂ hlen₂
    exact h₂.drains_skip hd₂ (by omega) (by omega) (by omega)

end

theorem Empty.setSlot (h : w.Empty) (i : Fin audioJitterWindowFrames) (seq : UInt16)
    (data : List UInt8) :
    (w.setSlot i ⟨true, seq, data⟩).Only i seq data := by
  refine ⟨update_self .., fun j hj => ?_⟩
  show (update w.slots i _ j).used = false
  rw [update_of_ne hj]
  exact h j

theorem Only.setSlot {a : UInt16} (h : w.Only i a as) (hj : j ≠ i) (seq : UInt16)
    (data : List UInt8) :
    (w.setSlot j ⟨true, seq, data⟩).slots i = ⟨true, a, as⟩ ∧
    (w.setSlot j ⟨true, seq, data⟩).slots j = ⟨true, seq, data⟩ := by
  refine ⟨?_, update_self ..⟩
  show update w.slots j _ i = _
  rw [update_of_ne hj.symm]
  exact h.slot

/-- A packet that comes while another waits one frame ahead. -/
theorem Pair.drains {b : UInt16} (h : w.Pair i j (w.next + 1) as b bs) (fuel : Nat)
    (hb : framesFrom w.next b = d + 2) (hlt : d + 2 < 32768) :
    w.Drains (fuel + 6) [] (absorb w.consecutiveGaps (some as) bs (d + 2)) := by
  obtain ⟨w₁, hturn₁, hpair, hnext₁, hprimed₁⟩ := h.turn_lost (by omega) (by omega)
  obtain ⟨lost, hkind⟩ : ∃ lost : JitterFrame,
      lost = if w.consecutiveGaps < 2 then .concealed (some as) else .skipped := ⟨_, rfl⟩
  have hevents : eventsOf w.next [lost] =
      if w.consecutiveGaps < 2 then [.gap w.next (some as)] else [] := by
    rw [hkind]
    split <;> rfl
  have hone : (eventsOf w.next [lost]).length ≤ 1 := by
    rw [hevents]
    split <;> simp
  rw [← hevents] at hturn₁
  have hd₁ : framesFrom w₁.next b = d + 1 := by
    rw [hnext₁, framesFrom_succ (ne_of_ahead (by omega)), hb]
    rfl
  have hbne₁ : b ≠ w₁.next := ne_of_ahead (by omega)
  obtain ⟨w₂, hturn₂, honly, hnext₂, hgaps₂, hprimed₂⟩ := hpair.turn_due hbne₁
  have hd₂ : framesFrom w₂.next b = d := by
    rw [hnext₂, framesFrom_succ hbne₁, hd₁]
    rfl
  have htwo : ([] ++ eventsOf w.next [lost] ++ eventsOf w₁.next [.played as]).length ≤ 2 := by
    rw [List.length_append, List.nil_append]
    exact Nat.succ_le_succ hone
  have hrest := honly.drains fuel (by omega) hgaps₂ htwo
  rw [hd₂] at hrest
  have hsecond := Drains.step [.played as] (Nat.lt_of_le_of_lt hone (by decide)) hturn₂ hnext₂
    hprimed₂ hrest
  have hroom : ([] : List JitterEvent).length < 6 := by decide
  have hfirst := Drains.step [lost] hroom hturn₁ hnext₁ hprimed₁ hsecond
  rw [hkind] at hfirst
  exact hfirst

theorem Pair.drains_due (h : w.Pair i j w.next as (w.next + 1) bs) (fuel : Nat) :
    w.Drains (fuel + 2) [] ⟨[.played as, .played bs], 0, none⟩ := by
  have hone := framesFrom_next w.next
  obtain ⟨w', hturn, honly, hnext, -, hprimed⟩ := h.turn_due (ne_of_ahead (by omega))
  refine Drains.step [.played as] (by decide : 0 < 6) hturn hnext hprimed ?_
  rw [← hnext] at honly
  exact honly.drains_due fuel (by decide : 1 < 6)

/-! ### A push -/

/-- What the packet is worth, when it is not too late. -/
def acceptOf (held : Option (List UInt8)) (d : Nat) : JitterAccept :=
  if held.isSome ∧ d = 1 then .duplicate else .ok

theorem offer_late (h : 32768 ≤ framesFrom w.next seq) : w.offer seq data = (w, .late, []) := by
  unfold offer
  exact if_pos (deltaFromNext_neg.mpr h)

theorem offer_slot (hd : framesFrom w.next seq < 32768)
    (hslow : ¬ (framesFrom w.next seq = 0 ∧ w.usedSlots = 0)) (hfind : w.find seq = none)
    (hfree : w.freeSlot = some i) {r : Settled}
    (h : (w.setSlot i ⟨true, seq, data⟩).Drains (2 * audioJitterMaxEventsPerPush + 1) [] r) :
    ∃ w', w.offer seq data = (w', .ok, eventsOf w.next r.frames) ∧ w.Moves r w' := by
  obtain ⟨w', hdrain, hmoves⟩ := h
  have hdelta := deltaFromNext_of_lt hd
  have hnonneg : ¬ w.deltaFromNext seq < 0 := by omega
  have hslow' : ¬ (w.deltaFromNext seq = 0 ∧ w.usedSlots = 0) := by
    omega
  refine ⟨w', ?_, hmoves.rests, hmoves.next, hmoves.primed⟩
  unfold offer drain
  rw [if_neg hnonneg, if_neg hslow', hfind, hfree]
  simp only [Option.isSome_none, Bool.false_eq_true, if_false, hdrain]
  rfl

/-- **One push, read off the reference.**  A packet that is not too late settles the frames that
`absorb` says, and leaves the window resting. -/
theorem offer_absorb (data : List UInt8) (h : w.Rests gaps held) (hgaps : held = none → gaps = 0)
    (hdist : framesFrom w.next seq = d) (hd : d < 32768) :
    ∃ w', w.offer seq data =
        (w', acceptOf held d, eventsOf w.next (absorb gaps held data d).frames) ∧
      w.Moves (absorb gaps held data d) w' := by
  have hseq := add_framesFrom w.next seq
  cases held with
  | none =>
    have hempty := h.empty rfl
    have hzero : w.consecutiveGaps = 0 := h.gaps.trans (hgaps rfl)
    by_cases hdue : d = 0
    · -- the frame that is waited for goes straight through
      subst hdue
      have hdelta : w.deltaFromNext seq = 0 := by rw [deltaFromNext_of_lt (by omega), hdist]; rfl
      obtain rfl : seq = w.next := framesFrom_eq_zero.mp hdist
      refine ⟨{ w with next := w.next + 1, consecutiveGaps := 0 }, ?_, ?_, rfl, rfl⟩
      · unfold offer
        rw [hdelta, hempty.usedSlots]
        rfl
      · exact ⟨rfl, fun _ => hempty, nofun⟩
    · have honly := hempty.setSlot slot0 seq data
      subst hdist
      exact offer_slot hd (fun hc => hdue hc.1) (hempty.find seq) hempty.freeSlot
        (honly.drains 9 hd hzero (Nat.zero_le 2))
  | some waiting =>
    obtain ⟨i, honly⟩ := h.waits waiting rfl
    have hfull : ¬ (framesFrom w.next seq = 0 ∧ w.usedSlots = 0) := by
      rw [honly.usedSlots]
      omega
    obtain ⟨j, hji, hfree⟩ := honly.freeSlot
    obtain ⟨hslot, hnew⟩ := honly.setSlot hji seq data
    rw [hdist] at hseq
    match d with
    | 0 =>
      obtain rfl : seq = w.next := framesFrom_eq_zero.mp hdist
      have hone := framesFrom_next w.next
      have hne : w.next + 1 ≠ w.next := ne_of_ahead (by omega)
      have hpair : (w.setSlot j ⟨true, w.next, data⟩).Pair j i w.next data (w.next + 1) waiting :=
        ⟨hji, hnew, hslot⟩
      exact offer_slot (by omega) hfull (honly.find_of_ne hne) hfree (hpair.drains_due 11)
    | 1 =>
      obtain rfl : seq = w.next + 1 := hseq.symm
      have hdelta : w.deltaFromNext (w.next + 1) = 1 := by
        rw [deltaFromNext_of_lt (by omega), hdist]
        rfl
      refine ⟨w, ?_, h, (after_nil _).symm, rfl⟩
      unfold offer
      rw [hdelta, honly.find_self]
      rfl
    | d + 2 =>
      have hne : w.next + 1 ≠ seq := fun heq => by
        rw [← heq, framesFrom_next] at hdist
        omega
      have hpair : (w.setSlot j ⟨true, seq, data⟩).Pair i j (w.next + 1) waiting seq data :=
        ⟨hji.symm, hslot, hnew⟩
      have hdrains := hpair.drains 7 hdist (by omega)
      rw [show (w.setSlot j ⟨true, seq, data⟩).consecutiveGaps = gaps from h.gaps] at hdrains
      exact offer_slot (by omega) hfull (honly.find_of_ne hne) hfree hdrains

end AudioJitterWindow

end Dish
