/-
The whole stream through the reorder window.

A run of pushes settles the frames from the first packet on, each once: `Tracks` keeps the frames
settled so far beside the window and says where each accepted packet has its place among them.  The
order of the events, the bound on a run of concealed frames and the fate of every packet are then
facts about that list of frames.
-/
import Mathlib.Data.List.Chain
import Mathlib.Data.List.Nodup
import Dish.Lib.Run
import Dish.Proofs.AudioJitter

namespace Dish

open Steps AudioJitterWindow JitterFrame

variable {k g g' : Nat} {fs : List JitterFrame} {n : UInt16}

/-! ### Order -/

/-- The event comes after, in the wrapping order. -/
def JitterEvent.Before (e f : JitterEvent) : Prop := 0 < (f.seq - e.seq).toInt16.toInt

/-- The frames leave no more than half the numbers between one event and the next, and the last of
them is an event.  `k` counts the frames since the last event. -/
def Reaches : Nat → List JitterFrame → Prop
  | k, [] => k = 1
  | k, .skipped :: rest => Reaches (k + 1) rest
  | k, .played _ :: rest | k, .concealed _ :: rest => k < 32768 ∧ Reaches 1 rest

variable {gs : List JitterFrame}

theorem Reaches.append (hfs : Reaches k fs) (hgs : Reaches 1 gs) : Reaches k (fs ++ gs) := by
  induction fs generalizing k with
  | nil =>
    obtain rfl : k = 1 := hfs
    exact hgs
  | cons f rest ih =>
    cases f with
    | played | concealed => exact ⟨hfs.1, ih hfs.2⟩
    | skipped => exact ih hfs

theorem reaches_skipped {m : Nat} {data : List UInt8} (h : k + m < 32768) :
    Reaches k (List.replicate m .skipped ++ [.played data]) := by
  induction m generalizing k with
  | zero => exact ⟨h, rfl⟩
  | succ m ih =>
    show Reaches (k + 1) (List.replicate m .skipped ++ [.played data])
    exact ih (by omega)

theorem before_of_frames {e f : JitterEvent} (hpos : 0 < k) (hlt : k < 32768)
    (h : f.seq = e.seq + UInt16.ofNat k) : e.Before f := by
  have hk : framesFrom e.seq f.seq = k := by
    rw [h]
    exact framesFrom_add (by omega)
  unfold JitterEvent.Before
  rw [toInt_toInt16]
  unfold framesFrom at hk
  omega

theorem Reaches.chain (h : Reaches k fs) (hpos : 0 < k) {e : JitterEvent}
    (hn : n = e.seq + UInt16.ofNat k) : List.IsChain JitterEvent.Before (e :: eventsOf n fs) := by
  induction fs generalizing k e n with
  | nil => exact List.isChain_singleton e
  | cons f rest ih =>
    cases f with
    | played data =>
      exact (ih h.2 Nat.one_pos (e := .packet n data) rfl).cons_cons (before_of_frames hpos h.1 hn)
    | concealed carrier =>
      exact (ih h.2 Nat.one_pos (e := .gap n carrier) rfl).cons_cons (before_of_frames hpos h.1 hn)
    | skipped =>
      refine ih (k := k + 1) h (Nat.succ_pos k) ?_
      rw [hn, UInt16.ofNat_add, ← UInt16.add_assoc]
      rfl

/-! ### Concealment -/

/-- No run of concealed frames is longer than two.  `g` counts the frames concealed last before,
`g'` those after. -/
def Conceals : Nat → List JitterFrame → Nat → Prop
  | g, [], g' => g = g'
  | _, .played _ :: rest, g' => Conceals 0 rest g'
  | g, .concealed _ :: rest, g' => g < audioJitterMaxConcealFrames ∧ Conceals (g + 1) rest g'
  | g, .skipped :: rest, g' => Conceals g rest g'

theorem Conceals.append {g'' : Nat} (hfs : Conceals g fs g')
    (hgs : Conceals g' gs g'') : Conceals g (fs ++ gs) g'' := by
  induction fs generalizing g with
  | nil =>
    obtain rfl : g = g' := hfs
    exact hgs
  | cons f rest ih =>
    cases f with
    | played => exact ih hfs
    | concealed => exact ⟨hfs.1, ih hfs.2⟩
    | skipped => exact ih hfs

theorem conceals_skipped {m : Nat} (h : Conceals g fs g') :
    Conceals g (List.replicate m .skipped ++ fs) g' := by
  induction m with
  | zero => exact h
  | succ m ih => exact ih

def JitterEvent.isGap : JitterEvent → Bool
  | .packet .. => false
  | .gap .. => true

/-- A run of gaps at the front of the events is what is left of the bound. -/
theorem Conceals.front (h : Conceals g fs g') {mid post : List JitterEvent}
    (hevents : eventsOf n fs = mid ++ post) (hgap : ∀ e ∈ mid, e.isGap = true) :
    mid.length = 0 ∨ g + mid.length ≤ 2 := by
  induction fs generalizing g n mid with
  | nil =>
    have hnil : mid = [] := (List.append_eq_nil_iff.mp hevents.symm).1
    exact .inl (by rw [hnil]; rfl)
  | cons f rest ih =>
    cases f with
    | skipped => exact ih h hevents hgap
    | played data =>
      cases mid with
      | nil => exact .inl rfl
      | cons e mid =>
        obtain rfl : .packet n data = e := (List.cons.inj hevents).1
        exact absurd (hgap _ List.mem_cons_self) Bool.false_ne_true
    | concealed =>
      have hbound : g < 2 := h.1
      cases mid with
      | nil => exact .inl rfl
      | cons e mid =>
        have hrest := ih h.2 (List.cons.inj hevents).2
          fun e he => hgap e (List.mem_cons_of_mem _ he)
        right
        rw [List.length_cons]
        omega

/-- Anywhere in the stream, no more than two gaps stand together. -/
theorem Conceals.run_le (h : Conceals g fs g') {pre mid post : List JitterEvent}
    (hevents : eventsOf n fs = pre ++ mid ++ post) (hgap : ∀ e ∈ mid, e.isGap = true) :
    mid.length ≤ 2 := by
  induction fs generalizing g n pre with
  | nil =>
    have hnil := (List.append_eq_nil_iff.mp (List.append_eq_nil_iff.mp hevents.symm).1).2
    rw [hnil]
    exact Nat.zero_le 2
  | cons f rest ih =>
    cases pre with
    | nil =>
      have hfront : eventsOf n (f :: rest) = mid ++ post := hevents
      rcases h.front hfront hgap with hzero | hle <;> omega
    | cons e pre =>
      cases f with
      | skipped =>
        have hlater : eventsOf (n + 1) rest = (e :: pre) ++ mid ++ post := hevents
        exact ih h hlater
      | played => exact ih h (List.cons.inj hevents).2
      | concealed => exact ih h.2 (List.cons.inj hevents).2

/-! ### What one packet settles -/

variable {d : Nat}

theorem reaches_settle (data : List UInt8) (h : d < 32768) : Reaches 1 (settle data d).frames := by
  match d with
  | 0 => exact ⟨by decide, rfl⟩
  | 1 => exact rfl
  | 2 => exact ⟨by decide, rfl⟩
  | 3 => exact ⟨by decide, by decide, rfl⟩
  | d + 4 =>
    have hrest : Reaches 1 (List.replicate (d + 2) .skipped ++ [.played data]) :=
      reaches_skipped (by omega)
    exact ⟨by decide, by decide, hrest⟩

theorem conceals_settle (data : List UInt8) (d : Nat) :
    Conceals 0 (settle data d).frames (settle data d).gaps := by
  match d with
  | 0 => exact rfl
  | 1 => exact rfl
  | 2 => exact ⟨by decide, rfl⟩
  | 3 => exact ⟨by decide, by decide, rfl⟩
  | d + 4 =>
    have hrest : Conceals 2 (List.replicate (d + 2) .skipped ++ [.played data]) 0 :=
      conceals_skipped rfl
    exact ⟨by decide, by decide, hrest⟩

theorem gaps_settle {data : List UInt8} (h : (settle data d).held = none) :
    (settle data d).gaps = 0 := by
  match d, h with
  | 0, _ => exact rfl
  | d + 4, _ => exact rfl

/-- The packet has its place, or waits one frame ahead. -/
theorem place_settle (data : List UInt8) (d : Nat) :
    (settle data d).frames[d]? = some (.played data) ∨
    d = (settle data d).frames.length + 1 ∧ (settle data d).held = some data := by
  match d with
  | 0 => exact .inl rfl
  | 1 => exact .inr ⟨rfl, rfl⟩
  | 2 => exact .inr ⟨rfl, rfl⟩
  | 3 => exact .inr ⟨rfl, rfl⟩
  | d + 4 =>
    left
    show (List.replicate (d + 2) skipped ++ [.played data])[d + 2]? = _
    rw [List.getElem?_append_right (by rw [List.length_replicate]), List.length_replicate,
      Nat.sub_self]
    rfl

variable {data x : List UInt8}

theorem held_settle (h : (settle data d).held = some x) :
    x = data ∧ d = (settle data d).frames.length + 1 := by
  match d, h with
  | 1, h => exact ⟨(Option.some.inj h).symm, rfl⟩
  | 2, h => exact ⟨(Option.some.inj h).symm, rfl⟩
  | 3, h => exact ⟨(Option.some.inj h).symm, rfl⟩

theorem played_settle (h : (settle data d).frames[k]? = some (.played x)) : k = d ∧ x = data := by
  match d, k, h with
  | 0, 0, h => exact ⟨rfl, (played.inj (Option.some.inj h)).symm⟩
  | 2, 0, h => cases Option.some.inj h
  | 3, 0, h => cases Option.some.inj h
  | 3, 1, h => cases Option.some.inj h
  | d + 4, 0, h => cases Option.some.inj h
  | d + 4, 1, h => cases Option.some.inj h
  | d + 4, k + 2, h =>
    have h' : (List.replicate (d + 2) skipped ++ [.played data])[k]? = some (.played x) := h
    rcases Nat.lt_or_ge k (d + 2) with hlt | hge
    · rw [List.getElem?_append_left (by rw [List.length_replicate]; exact hlt),
        List.getElem?_replicate_of_lt hlt] at h'
      cases h'
    · rw [List.getElem?_append_right (by rw [List.length_replicate]; exact hge),
        List.length_replicate] at h'
      have hk : k - (d + 2) = 0 := by
        have := (List.getElem?_eq_some_iff.mp h').1
        rw [List.length_singleton] at this
        omega
      rw [hk] at h'
      exact ⟨by omega, (played.inj (Option.some.inj h')).symm⟩

section Absorb

variable {gaps : Nat} {held : Option (List UInt8)} {data : List UInt8} {d : Nat}

theorem reaches_absorb (h : d < 32768) : Reaches 1 (absorb gaps held data d).frames := by
  match held, d with
  | none, d => exact reaches_settle data h
  | some waiting, 0 => exact ⟨by decide, by decide, rfl⟩
  | some waiting, 1 => exact rfl
  | some waiting, d + 2 =>
    have hrest : Reaches 1 (settle data d).frames := reaches_settle data (by omega)
    show Reaches 1 ((if gaps < 2 then .concealed (some waiting) else .skipped) ::
      .played waiting :: (settle data d).frames)
    split
    · exact ⟨by decide, by decide, hrest⟩
    · exact ⟨by decide, hrest⟩

theorem conceals_absorb (hgaps : held = none → gaps = 0) :
    Conceals gaps (absorb gaps held data d).frames (absorb gaps held data d).gaps := by
  match held, d with
  | none, d =>
    rw [hgaps rfl]
    exact conceals_settle data d
  | some waiting, 0 => exact rfl
  | some waiting, 1 => exact rfl
  | some waiting, d + 2 =>
    have hrest := conceals_settle data d
    show Conceals gaps ((if gaps < 2 then .concealed (some waiting) else .skipped) ::
      .played waiting :: (settle data d).frames) (settle data d).gaps
    split
    case isTrue hlt => exact ⟨hlt, hrest⟩
    case isFalse => exact hrest

theorem gaps_absorb (h : (absorb gaps held data d).held = none) :
    (absorb gaps held data d).gaps = 0 := by
  match held, d, h with
  | none, d, h => exact gaps_settle h
  | some waiting, 0, _ => exact rfl
  | some waiting, d + 2, h =>
    have hsettle : (settle data d).held = none := h
    exact gaps_settle hsettle

/-- The new packet, when it is taken, has its place or waits. -/
theorem place_absorb (gaps : Nat) (data : List UInt8) (h : acceptOf held d = .ok) :
    (absorb gaps held data d).frames[d]? = some (.played data) ∨
    d = (absorb gaps held data d).frames.length + 1 ∧
      (absorb gaps held data d).held = some data := by
  match held, d, h with
  | none, d, _ => exact place_settle data d
  | some waiting, 0, _ => exact .inl rfl
  | some waiting, d + 2, _ =>
    rcases place_settle data d with hplace | ⟨hlen, hheld⟩
    · exact .inl hplace
    · refine .inr ⟨?_, hheld⟩
      show d + 2 = (settle data d).frames.length + 2 + 1
      omega

theorem waited_absorb (gaps : Nat) (data : List UInt8) (d : Nat) {waiting : List UInt8}
    (h : held = some waiting) :
    (absorb gaps held data d).frames[1]? = some (.played waiting) ∨
    (absorb gaps held data d).frames = [] ∧ (absorb gaps held data d).held = some waiting := by
  subst h
  match d with
  | 0 => exact .inl rfl
  | 1 => exact .inr ⟨rfl, rfl⟩
  | d + 2 => exact .inl rfl

theorem played_absorb {x : List UInt8}
    (h : (absorb gaps held data d).frames[k]? = some (.played x)) :
    k = d ∧ x = data ∧ acceptOf held d = .ok ∨ k = 1 ∧ held = some x := by
  match held, d, k, h with
  | none, d, k, h =>
    obtain ⟨hk, hx⟩ := played_settle h
    exact .inl ⟨hk, hx, rfl⟩
  | some waiting, 0, 0, h =>
    exact .inl ⟨rfl, (played.inj (Option.some.inj h)).symm, rfl⟩
  | some waiting, 0, 1, h =>
    exact .inr ⟨rfl, congrArg some (played.inj (Option.some.inj h))⟩
  | some waiting, d + 2, 0, h =>
    have hlost : some (if gaps < 2 then concealed (some waiting) else .skipped) =
      some (.played x) := h
    split at hlost <;> cases hlost
  | some waiting, d + 2, 1, h =>
    exact .inr ⟨rfl, congrArg some (played.inj (Option.some.inj h))⟩
  | some waiting, d + 2, k + 2, h =>
    have h' : (settle data d).frames[k]? = some (.played x) := h
    obtain ⟨hk, hx⟩ := played_settle h'
    exact .inl ⟨by omega, hx, rfl⟩

theorem held_absorb {x : List UInt8} (h : (absorb gaps held data d).held = some x) :
    x = data ∧ d = (absorb gaps held data d).frames.length + 1 ∧ acceptOf held d = .ok ∨
    (absorb gaps held data d).frames = [] ∧ held = some x ∧ acceptOf held d = .duplicate := by
  match held, d, h with
  | none, d, h =>
    obtain ⟨hx, hd⟩ := held_settle h
    exact .inl ⟨hx, hd, rfl⟩
  | some waiting, 1, h => exact .inr ⟨rfl, h, rfl⟩
  | some waiting, d + 2, h =>
    have h' : (settle data d).held = some x := h
    obtain ⟨hx, hd⟩ := held_settle h'
    refine .inl ⟨hx, ?_, rfl⟩
    show d + 2 = (settle data d).frames.length + 2 + 1
    omega

end Absorb

/-! ### Where the packets are -/

/-- Every packet taken has a frame of its own, played or waited for, and every frame played is a
packet taken. -/
structure Places (frames : List JitterFrame) (held : Option (List UInt8))
    (places : List (Nat × List UInt8)) : Prop where
  nodup : (places.map Prod.fst).Nodup
  settled : ∀ p ∈ places, frames[p.1]? = some (.played p.2) ∨
    p.1 = frames.length + 1 ∧ held = some p.2
  played : ∀ k x, frames[k]? = some (.played x) → (k, x) ∈ places
  waiting : ∀ x, held = some x → (frames.length + 1, x) ∈ places

section Places

variable {frames : List JitterFrame} {held : Option (List UInt8)}
  {places : List (Nat × List UInt8)} {gaps d : Nat} {data : List UInt8}

section
variable (h : Places frames held places) (hok : acceptOf held d = .ok)
include h hok

theorem Places.fresh :
    frames.length + d ∉ places.map Prod.fst := by
  intro hmem
  obtain ⟨p, hp, hplace⟩ := List.mem_map.mp hmem
  rcases h.settled p hp with hplayed | ⟨hlen, hheld⟩
  · have hlt := (List.getElem?_eq_some_iff.mp hplayed).1
    omega
  · -- the packet that waits has that place, so the new one is a duplicate
    obtain rfl : d = 1 := by omega
    rw [hheld] at hok
    cases hok

theorem Places.ok :
    Places (frames ++ (absorb gaps held data d).frames) (absorb gaps held data d).held
      (places ++ [(frames.length + d, data)]) := by
  have hshift : ∀ k, (frames ++ (absorb gaps held data d).frames)[frames.length + k]? =
      (absorb gaps held data d).frames[k]? := by
    intro k
    rw [List.getElem?_append_right (Nat.le_add_right ..), Nat.add_sub_cancel_left]
  refine ⟨?_, ?_, ?_, ?_⟩
  · rw [List.map_append, List.nodup_append]
    refine ⟨h.nodup, List.nodup_singleton _, fun a ha b hb heq => ?_⟩
    obtain rfl := List.mem_singleton.mp hb
    rw [heq] at ha
    exact h.fresh hok ha
  · intro p hp
    rcases List.mem_append.mp hp with hold | hnew
    · rcases h.settled p hold with hplayed | ⟨hlen, hheld⟩
      · have hlt := (List.getElem?_eq_some_iff.mp hplayed).1
        exact .inl (by rw [List.getElem?_append_left hlt]; exact hplayed)
      · rcases waited_absorb gaps data d hheld with hnow | ⟨hnil, hstill⟩
        · exact .inl (by rw [hlen, hshift]; exact hnow)
        · exact .inr ⟨by rw [hnil, List.append_nil]; exact hlen, hstill⟩
    · obtain rfl := List.mem_singleton.mp hnew
      rcases place_absorb gaps data hok with hnow | ⟨hlen, hheld⟩
      · exact .inl (by rw [hshift]; exact hnow)
      · refine .inr ⟨?_, hheld⟩
        rw [List.length_append]
        omega
  · intro k x hk
    rcases Nat.lt_or_ge k frames.length with hlt | hge
    · rw [List.getElem?_append_left hlt] at hk
      exact List.mem_append_left _ (h.played k x hk)
    · obtain ⟨k, rfl⟩ : ∃ m, k = frames.length + m := ⟨k - frames.length, by omega⟩
      rw [hshift] at hk
      rcases played_absorb hk with ⟨rfl, rfl, -⟩ | ⟨rfl, hheld⟩
      · exact List.mem_append_right _ (List.mem_singleton_self _)
      · exact List.mem_append_left _ (h.waiting x hheld)
  · intro x hx
    rcases held_absorb hx with ⟨rfl, hlen, -⟩ | ⟨-, -, hdup⟩
    · refine List.mem_append_right _ (List.mem_singleton.mpr (Prod.ext ?_ rfl))
      show (frames ++ (absorb gaps held x d).frames).length + 1 = frames.length + d
      rw [List.length_append]
      omega
    · rw [hok] at hdup
      cases hdup

end

end Places

/-! ### The run -/

/-- One push with what came of it. -/
structure JitterPush where
  seq : UInt16
  data : List UInt8
  accept : JitterAccept
  events : List JitterEvent

structure JitterRun where
  window : AudioJitterWindow
  log : List JitterPush := []

namespace JitterRun

def step (s : JitterRun) (packet : UInt16 × List UInt8) : JitterRun :=
  let (window, accept, events) := s.window.push packet.1 packet.2
  ⟨window, s.log ++ [⟨packet.1, packet.2, accept, events⟩]⟩

/-- Everything emitted so far, in order. -/
def emitted (s : JitterRun) : List JitterEvent := s.log.flatMap JitterPush.events

/-- The packets accepted, in the order they came. -/
def accepted (s : JitterRun) : List (UInt16 × List UInt8) :=
  (s.log.filter fun r => r.accept == .ok).map fun r => (r.seq, r.data)

/-- A packet the window is meant to take. -/
def Fits (packet : UInt16 × List UInt8) : Prop :=
  packet.2 ≠ [] ∧ packet.2.length ≤ audioJitterMaxPacketBytes

instance (packet : UInt16 × List UInt8) : Decidable (Fits packet) :=
  inferInstanceAs (Decidable (_ ∧ _))

/-- The frames settled from the first packet on, and how the run stands to them. -/
structure Tracks (s : JitterRun) (first : UInt16) (frames : List JitterFrame) (gaps : Nat)
    (held : Option (List UInt8)) (places : List (Nat × List UInt8)) : Prop where
  primed : s.window.primed = true
  next : s.window.next = after first frames
  rests : s.window.Rests gaps held
  settled : held = none → gaps = 0
  emitted : s.emitted = eventsOf first frames
  accepted : s.accepted = places.map fun p => (first + UInt16.ofNat p.1, p.2)
  places : Places frames held places
  reaches : ∃ data rest, frames = .played data :: rest ∧ Reaches 1 rest
  conceals : Conceals 0 frames gaps
  pushes : ∀ r ∈ s.log, r.accept ≠ .rejected ∧ r.events.length ≤ audioJitterMaxEventsPerPush

variable {s : JitterRun} {first : UInt16} {frames : List JitterFrame} {gaps : Nat}
  {held : Option (List UInt8)} {places : List (Nat × List UInt8)}
  {packet : UInt16 × List UInt8} {w : AudioJitterWindow} {accept : JitterAccept}
  {events : List JitterEvent}

theorem length_eventsOf_settle (n : UInt16) (data : List UInt8) (d : Nat) :
    (eventsOf n (settle data d).frames).length ≤ 3 := by
  match d with
  | 0 => exact (by decide : 1 ≤ 3)
  | 1 => exact (by decide : 0 ≤ 3)
  | 2 => exact (by decide : 1 ≤ 3)
  | 3 => exact (by decide : 2 ≤ 3)
  | d + 4 =>
    show (eventsOf n ([.concealed none, .concealed none] ++ List.replicate (d + 2) .skipped ++
      [.played data])).length ≤ 3
    rw [eventsOf_append, eventsOf_append, eventsOf_skipped]
    exact Nat.le_refl 3

theorem length_eventsOf_absorb (n : UInt16) (gaps : Nat) (held : Option (List UInt8))
    (data : List UInt8) (d : Nat) :
    (eventsOf n (absorb gaps held data d).frames).length ≤ audioJitterMaxEventsPerPush := by
  have hmax : audioJitterMaxEventsPerPush = 6 := rfl
  match held, d with
  | none, d =>
    have hlen := length_eventsOf_settle n data d
    exact Nat.le_trans hlen (by omega)
  | some waiting, 0 => exact (by decide : 2 ≤ 6)
  | some waiting, 1 => exact (by decide : 0 ≤ 6)
  | some waiting, d + 2 =>
    have hlen := length_eventsOf_settle (n + 1 + 1) data d
    show (eventsOf n ((if gaps < 2 then .concealed (some waiting) else .skipped) ::
      .played waiting :: (settle data d).frames)).length ≤ 6
    split
    · show (eventsOf (n + 1 + 1) (settle data d).frames).length + 1 + 1 ≤ 6
      omega
    · show (eventsOf (n + 1 + 1) (settle data d).frames).length + 1 ≤ 6
      omega

theorem step_eq (h : s.window.push packet.1 packet.2 = (w, accept, events)) :
    s.step packet = ⟨w, s.log ++ [⟨packet.1, packet.2, accept, events⟩]⟩ := by
  unfold step
  rw [h]

theorem push_eq (w : AudioJitterWindow) (h : Fits packet) :
    w.push packet.1 packet.2 = (w.prime packet.1).offer packet.1 packet.2 := by
  unfold push
  rw [if_neg]
  rintro (hnil | hlong)
  · exact h.1 hnil
  · exact Nat.not_lt.mpr h.2 hlong

theorem prime_of_primed (h : w.primed = true) (seq : UInt16) : w.prime seq = w := if_pos h

section
variable (h : s.Tracks first frames gaps held places)
include h

theorem Tracks.idle (accept : JitterAccept)
    (haccept : accept ≠ .ok) (hrejected : accept ≠ .rejected) (hrests : w.Rests gaps held)
    (hnext : w.next = s.window.next) (hprimed : w.primed = s.window.primed)
    (hstep : s.step packet = ⟨w, s.log ++ [⟨packet.1, packet.2, accept, []⟩]⟩) :
    (s.step packet).Tracks first frames gaps held places := by
  have hbeq : (accept == .ok) = false := beq_false_of_ne haccept
  rw [hstep]
  refine ⟨hprimed.trans h.primed, hnext.trans h.next, hrests, h.settled, ?_, ?_, h.places,
    h.reaches, h.conceals, ?_⟩
  · rw [← h.emitted]
    simp [JitterRun.emitted]
  · rw [← h.accepted]
    simp [JitterRun.accepted, hbeq]
  · intro r hr
    rcases List.mem_append.mp hr with hold | hnew
    · exact h.pushes r hold
    · obtain rfl := List.mem_singleton.mp hnew
      exact ⟨hrejected, Nat.zero_le _⟩

theorem Tracks.take {d : Nat}
    (hdist : framesFrom s.window.next packet.1 = d) (hd : d < 32768) (hok : acceptOf held d = .ok)
    (hmoves : s.window.Moves (absorb gaps held packet.2 d) w)
    (hstep : s.step packet = ⟨w, s.log ++ [⟨packet.1, packet.2, .ok,
      eventsOf s.window.next (absorb gaps held packet.2 d).frames⟩]⟩) :
    ∃ frames' gaps' held' places', (s.step packet).Tracks first frames' gaps' held' places' := by
  have hseq := add_framesFrom s.window.next packet.1
  rw [hdist] at hseq
  refine ⟨frames ++ (absorb gaps held packet.2 d).frames, (absorb gaps held packet.2 d).gaps,
    (absorb gaps held packet.2 d).held, places ++ [(frames.length + d, packet.2)], ?_⟩
  rw [hstep]
  refine ⟨hmoves.primed.trans h.primed, ?_, hmoves.rests, gaps_absorb, ?_, ?_, h.places.ok hok, ?_,
    ?_, ?_⟩
  · rw [hmoves.next, h.next, after_append]
  · rw [eventsOf_append, ← h.emitted, ← h.next]
    simp [JitterRun.emitted]
  · have hplace : first + UInt16.ofNat (frames.length + d) = packet.1 := by
      rw [← hseq, h.next, UInt16.ofNat_add, ← UInt16.add_assoc]
      rfl
    rw [List.map_append, ← h.accepted, List.map_singleton, hplace]
    simp [JitterRun.accepted]
  · obtain ⟨data, rest, hframes, hreaches⟩ := h.reaches
    exact ⟨data, rest ++ (absorb gaps held packet.2 d).frames, by rw [hframes]; rfl,
      hreaches.append (reaches_absorb hd)⟩
  · exact h.conceals.append (conceals_absorb h.settled)
  · intro r hr
    rcases List.mem_append.mp hr with hold | hnew
    · exact h.pushes r hold
    · obtain rfl := List.mem_singleton.mp hnew
      exact ⟨nofun, length_eventsOf_absorb ..⟩

theorem Tracks.step (hfits : Fits packet) :
    ∃ frames' gaps' held' places', (s.step packet).Tracks first frames' gaps' held' places' := by
  have hpush := push_eq s.window hfits
  rw [prime_of_primed h.primed] at hpush
  generalize hdist : framesFrom s.window.next packet.1 = d
  rcases Nat.lt_or_ge d 32768 with hd | hlate
  · obtain ⟨w, hoffer, hmoves⟩ := offer_absorb packet.2 h.rests h.settled hdist hd
    rw [hoffer] at hpush
    have hstep := step_eq hpush
    by_cases hdup : held.isSome ∧ d = 1
    · -- another packet with this number waits
      obtain ⟨hsome, rfl⟩ := hdup
      obtain ⟨waiting, rfl⟩ := Option.isSome_iff_exists.mp hsome
      exact ⟨frames, gaps, some waiting, places, h.idle .duplicate nofun nofun hmoves.rests
        (hmoves.next.trans (after_nil _)) hmoves.primed hstep⟩
    · have hok : acceptOf held d = .ok := if_neg hdup
      rw [hok] at hstep
      exact h.take hdist hd hok hmoves hstep
  · rw [offer_late (hdist ▸ hlate)] at hpush
    exact ⟨frames, gaps, held, places, h.idle .late nofun nofun h.rests rfl rfl (step_eq hpush)⟩

end

theorem push_first (w : AudioJitterWindow) (hfits : Fits packet) :
    ∃ w', w.reset.push packet.1 packet.2 = (w', .ok, [.packet packet.1 packet.2]) ∧
      w'.Rests 0 none ∧ w'.next = after packet.1 [.played packet.2] ∧ w'.primed = true := by
  have hrests : (w.reset.prime packet.1).Rests 0 none := ⟨rfl, fun _ _ => rfl, nofun⟩
  obtain ⟨w', hoffer, hmoves⟩ := offer_absorb packet.2 hrests (fun _ => rfl)
    (framesFrom_self packet.1) (by decide)
  exact ⟨w', (push_eq w.reset hfits).trans hoffer, hmoves.rests, hmoves.next, hmoves.primed⟩

theorem tracks_first (w : AudioJitterWindow) (hfits : Fits packet) :
    (step ⟨w.reset, []⟩ packet).Tracks packet.1 [.played packet.2] 0 none
      [(0, packet.2)] := by
  obtain ⟨w', hpush, hrests, hnext, hprimed⟩ := push_first w hfits
  have hstep : step ⟨w.reset, []⟩ packet = _ := step_eq hpush
  rw [hstep]
  refine ⟨hprimed, hnext, hrests, fun _ => rfl, rfl, ?_, ?_, ⟨_, [], rfl, rfl⟩, rfl, ?_⟩
  · show [(packet.1, packet.2)] = [(packet.1 + UInt16.ofNat 0, packet.2)]
    rw [show packet.1 + UInt16.ofNat 0 = packet.1 from UInt16.add_zero packet.1]
  · refine ⟨List.nodup_singleton 0, fun p hp => ?_, fun k x hk => ?_, nofun⟩
    · obtain rfl := List.mem_singleton.mp hp
      exact .inl rfl
    · match k, hk with
      | 0, hk =>
        obtain rfl := played.inj (Option.some.inj hk)
        exact List.mem_singleton_self _
  · intro r hr
    obtain rfl := List.mem_singleton.mp hr
    exact ⟨nofun, (by decide : 1 ≤ 6)⟩

theorem tracks_run (w : AudioJitterWindow) {packets : List (UInt16 × List UInt8)}
    (hfits : ∀ p ∈ packets, Fits p) :
    packets = [] ∨ ∃ first frames gaps held places,
      (run step ⟨w.reset, []⟩ packets).Tracks first frames gaps held places := by
  cases packets with
  | nil => exact .inl rfl
  | cons p rest =>
    right
    have hrest : Along step (fun _ p => Fits p) (step ⟨w.reset, []⟩ p) rest :=
      along_of_forall fun q hq => hfits q (List.mem_cons_of_mem p hq)
    rw [run_cons]
    refine run_keeps (I := fun s : JitterRun => ∃ first frames gaps held places,
      s.Tracks first frames gaps held places) (fun s p hs hp => ?_) ?_ hrest
    · obtain ⟨first, frames, gaps, held, places, htracks⟩ := hs
      exact ⟨first, htracks.step hp⟩
    · exact ⟨_, _, _, _, _, tracks_first w (hfits p List.mem_cons_self)⟩

/-! ### The contract -/

/-- How the packets of a run stand to the frames of the stream: frame 0 is the first packet's. -/
structure Accounted (s : JitterRun) (first : UInt16) (frames : List JitterFrame)
    (places : List (Nat × List UInt8)) : Prop where
  emitted : s.emitted = eventsOf first frames
  accepted : s.accepted = places.map fun p => (first + UInt16.ofNat p.1, p.2)
  /-- No two packets share a frame. -/
  nodup : (places.map Prod.fst).Nodup
  /-- An accepted packet was emitted with its own bytes or is still buffered. -/
  settled : ∀ p ∈ places, frames[p.1]? = some (.played p.2) ∨
    s.window.buffered = [(first + UInt16.ofNat p.1, p.2)]
  /-- Nothing else was emitted. -/
  played : ∀ k x, frames[k]? = some (.played x) → (k, x) ∈ places
  /-- A packet that comes late has a number up to half a cycle behind: its frame was emitted,
  concealed or skipped, unless it is from before the first packet. -/
  late : ∀ packet, Fits packet → (s.window.push packet.1 packet.2).2.1 = .late →
    ∃ back, 0 < back ∧ back ≤ 32768 ∧ packet.1 + UInt16.ofNat back = s.window.next ∧
      (back ≤ frames.length →
        ∃ k, k < frames.length ∧ packet.1 = first + UInt16.ofNat k ∧ k + back = frames.length)

/-- What a run of pushes guarantees. -/
structure Contract (s : JitterRun) : Prop where
  bounded : ∀ r ∈ s.log, r.events.length ≤ audioJitterMaxEventsPerPush
  ordered : s.emitted.IsChain JitterEvent.Before
  conceals : ∀ pre mid post, s.emitted = pre ++ mid ++ post → (∀ e ∈ mid, e.isGap = true) →
    mid.length ≤ audioJitterMaxConcealFrames
  accounted : ∃ first frames places, s.Accounted first frames places
  waits : s.window.buffered = [] ∨ ∃ data, s.window.buffered = [(s.window.next + 1, data)]
  room : ∀ r ∈ s.log, r.accept ≠ .rejected

section
variable (h : s.Tracks first frames gaps held places)
include h

theorem Tracks.buffered :
    s.window.buffered = (held.map fun data => (s.window.next + 1, data)).toList := by
  cases held with
  | none => exact (h.rests.empty rfl).buffered
  | some data =>
    obtain ⟨i, honly⟩ := h.rests.waits data rfl
    exact honly.buffered

omit h in
theorem back_of_late {n seq : UInt16} (h : 32768 ≤ framesFrom n seq) :
    ∃ back, 0 < back ∧ back ≤ 32768 ∧ seq + UInt16.ofNat back = n := by
  have hlt := framesFrom_lt n seq
  have hseq := add_framesFrom n seq
  generalize framesFrom n seq = d at h hlt hseq
  refine ⟨65536 - d, by omega, by omega, ?_⟩
  rw [← hseq, UInt16.add_assoc, ← UInt16.ofNat_add, Nat.add_sub_cancel' (by omega)]
  exact UInt16.add_zero n

theorem Tracks.late (hfits : Fits packet)
    (hlate : (s.window.push packet.1 packet.2).2.1 = .late) :
    ∃ back, 0 < back ∧ back ≤ 32768 ∧ packet.1 + UInt16.ofNat back = s.window.next ∧
      (back ≤ frames.length →
        ∃ k, k < frames.length ∧ packet.1 = first + UInt16.ofNat k ∧ k + back = frames.length) := by
  have hfar : 32768 ≤ framesFrom s.window.next packet.1 := by
    by_contra hnear
    obtain ⟨w, hoffer, -⟩ := offer_absorb packet.2 h.rests h.settled rfl (Nat.lt_of_not_le hnear)
    rw [push_eq s.window hfits, prime_of_primed h.primed, hoffer] at hlate
    unfold acceptOf at hlate
    split at hlate <;> cases hlate
  obtain ⟨back, hpos, hle, hback⟩ := back_of_late hfar
  refine ⟨back, hpos, hle, hback, fun hin => ⟨frames.length - back, by omega, ?_, by omega⟩⟩
  have hnext : packet.1 + UInt16.ofNat back =
      first + UInt16.ofNat (frames.length - back) + UInt16.ofNat back := by
    rw [hback, h.next, UInt16.add_assoc, ← UInt16.ofNat_add, Nat.sub_add_cancel hin]
    rfl
  have hcancel := congrArg (· - UInt16.ofNat back) hnext
  simpa only [UInt16.add_sub_cancel] using hcancel

theorem Tracks.contract : s.Contract where
  bounded r hr := (h.pushes r hr).2
  ordered := by
    obtain ⟨data, rest, hframes, hreaches⟩ := h.reaches
    rw [h.emitted, hframes]
    exact hreaches.chain Nat.one_pos rfl
  conceals pre mid post hevents hgap := by
    rw [h.emitted] at hevents
    exact h.conceals.run_le hevents hgap
  accounted := by
    refine ⟨first, frames, places, h.emitted, h.accepted, h.places.nodup, fun p hp => ?_,
      h.places.played, fun packet => h.late⟩
    rcases h.places.settled p hp with hplayed | ⟨hlen, hheld⟩
    · exact .inl hplayed
    · right
      rw [h.buffered, hheld, hlen, h.next]
      show [(after first frames + 1, p.2)] = _
      rw [UInt16.ofNat_add, ← UInt16.add_assoc]
      rfl
  waits := by
    rw [h.buffered]
    cases held with
    | none => exact .inl rfl
    | some data => exact .inr ⟨data, rfl⟩
  room r hr := (h.pushes r hr).1

end

/-- Before the first packet there is nothing to be late for. -/
theorem contract_start (w : AudioJitterWindow) : Contract ⟨w.reset, []⟩ where
  bounded := nofun
  ordered := List.isChain_nil
  conceals pre mid post hevents _ := by
    have hnil := (List.append_eq_nil_iff.mp (List.append_eq_nil_iff.mp hevents.symm).1).2
    rw [hnil]
    exact Nat.zero_le _
  accounted := by
    refine ⟨0, [], [], rfl, rfl, List.nodup_nil, nofun, nofun, fun packet hfits hlate => ?_⟩
    obtain ⟨w', hpush, -⟩ := push_first w hfits
    have hok : (w.reset.push packet.1 packet.2).2.1 = .ok := by rw [hpush]
    cases hok.symm.trans hlate
  waits := by
    have hempty : w.reset.Empty := fun _ => rfl
    exact .inl hempty.buffered
  room := nofun

/-- **The stream contract of the reorder window**, for every sequence of packets after a reset. -/
theorem jitter_stream_contract (w : AudioJitterWindow) (packets : List (UInt16 × List UInt8))
    (hfits : ∀ p ∈ packets, Fits p) :
    (run step ⟨w.reset, []⟩ packets).Contract := by
  rcases tracks_run w hfits with rfl | ⟨first, frames, gaps, held, places, htracks⟩
  · exact contract_start w
  · exact htracks.contract

/-- The theorem across the wrap, with a packet that comes before its turn. -/
theorem jitter_contract_over_wrap :
    (run step ⟨({} : AudioJitterWindow).reset, []⟩
      [(65535, [1]), (1, [3]), (0, [2])]).Contract ∧
    (run step ⟨({} : AudioJitterWindow).reset, []⟩
      [(65535, [1]), (1, [3]), (0, [2])]).emitted =
        [.packet 65535 [1], .packet 0 [2], .packet 1 [3]] :=
  ⟨jitter_stream_contract {} _ (by decide), by decide +kernel⟩

/-- The stream starts at the first packet: one that it overtook is late, though its frame was never
emitted, concealed or skipped. -/
theorem overtaken_first_late :
    (run step ⟨({} : AudioJitterWindow).reset, []⟩ [(5, [5]), (4, [4])]).log.map
      (fun r => (r.seq, r.accept, r.events)) = [(5, .ok, [.packet 5 [5]]), (4, .late, [])] ∧
    (run step ⟨({} : AudioJitterWindow).reset, []⟩ [(5, [5])]).window.next = 6 := by
  decide +kernel

end JitterRun

end Dish
