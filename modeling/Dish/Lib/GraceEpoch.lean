/-
Grace epochs: retiring a value that other threads may still be reading.

Every reader brackets its use of the value with `enter` and `exit` on a participant.
`enter` makes the participant's epoch odd, `exit` makes it even again; in between the
reader loads the pointer.  A writer stores a new pointer and then looks at every
participant once: an even epoch means no bracket is open there, and behind an odd one it
waits until the epoch is another.

The counters mean this only as long as one bracket at a time is open on a participant.
`exit` is a load and a store, not one atomic addition, and two brackets that overlap make
the epoch even while both are open.  So `Inv` is kept by `enter` only on a participant
without an open bracket.  What the writer learns is `Past v p`: no bracket on `p` holds
`v`.  It stays true once the pointer of `p` is no longer `v`.

Epochs are counted modulo a number that is even and otherwise arbitrary.
-/
import Mathlib.Logic.Function.Basic
import Mathlib.Data.Nat.ModEq

namespace GraceEpoch

variable {T P V : Type*}

/-- Where a reader is in its bracket: the value loaded, and on the way out the epoch. -/
inductive Bracket (V : Type*) where
  | entered
  | holding (v : V)
  | leaving (v : V) (seen : Nat)
deriving DecidableEq

/-- The value a bracket has loaded. -/
def Bracket.value : Bracket V → Option V
  | .entered => none
  | .holding v | .leaving v _ => some v

structure State (T P V : Type*) where
  epoch : P → Nat
  pointer : P → V
  bracket : T → Option (P × Bracket V)

namespace State

/-- The pointer of some of the participants is replaced. -/
def store (s : State T P V) (there : P → Bool) (v : V) : State T P V :=
  { s with pointer := fun p => if there p then v else s.pointer p }

variable [DecidableEq T]

def load (s : State T P V) (t : T) : State T P V :=
  match s.bracket t with
  | some (p, .entered) =>
    { s with bracket := Function.update s.bracket t (some (p, .holding (s.pointer p))) }
  | _ => s

/-- The load of `exit`. -/
def leave (s : State T P V) (t : T) : State T P V :=
  match s.bracket t with
  | some (p, .holding v) =>
    { s with bracket := Function.update s.bracket t (some (p, .leaving v (s.epoch p))) }
  | _ => s

variable [DecidableEq P]

def enter (width : Nat) (s : State T P V) (t : T) (p : P) : State T P V :=
  match s.bracket t with
  | none =>
    { s with
      epoch := Function.update s.epoch p ((s.epoch p + 1) % width)
      bracket := Function.update s.bracket t (some (p, .entered)) }
  | some _ => s

/-- The store of `exit`. -/
def exit (width : Nat) (s : State T P V) (t : T) : State T P V :=
  match s.bracket t with
  | some (p, .leaving _ seen) =>
    { s with
      epoch := Function.update s.epoch p ((seen + 1) % width)
      bracket := Function.update s.bracket t none }
  | _ => s

end State

/-! ### One bracket at a time -/

/-- Thread `t` has a bracket open on `p`. -/
def Open (s : State T P V) (t : T) (p : P) : Prop := ∃ b, s.bracket t = some (p, b)

/-- No bracket on `p` holds `v`. -/
def Past (s : State T P V) (v : V) (p : P) : Prop :=
  ∀ t b, s.bracket t = some (p, b) → b.value ≠ some v

/-- A writer that waits for the epoch of `p` to be another than `seen` waits for `Past`. -/
def Awaits (s : State T P V) (v : V) (p : P) (seen : Nat) : Prop :=
  s.epoch p = seen ∨ Past s v p

structure Inv (s : State T P V) : Prop where
  single : ∀ t u p, Open s t p → Open s u p → t = u
  odd : ∀ p, s.epoch p % 2 = 1 ↔ ∃ t, Open s t p
  leaving : ∀ t p v seen, s.bracket t = some (p, .leaving v seen) → seen = s.epoch p

theorem Inv.past_of_even {s : State T P V} (h : Inv s) {p : P} (heven : s.epoch p % 2 ≠ 1)
    (v : V) : Past s v p :=
  fun t b hb => absurd ((h.odd p).mpr ⟨t, b, hb⟩) heven

/-- A step of a reader keeps what the writer knows about a value that no pointer is. -/
structure Keeps (s s' : State T P V) : Prop where
  inv : Inv s'
  pointer : s'.pointer = s.pointer
  past : ∀ v p, s.pointer p ≠ v → Past s v p → Past s' v p
  awaits : ∀ v p seen, s.pointer p ≠ v → Awaits s v p seen → Awaits s' v p seen

section Steps

variable {width : Nat} {s : State T P V} {t u : T} {p q : P} {v : V} {seen : Nat}

theorem Inv.store (h : Inv s) (there : P → Bool) : Inv (s.store there v) :=
  ⟨h.single, h.odd, h.leaving⟩

variable [DecidableEq T]

/-! #### A bracket is replaced -/

variable {n : Nat} {epoch : P → Nat} {b : Option (P × Bracket V)}

theorem update_eq_some {α : Type*} {f : T → Option α} {b : Option α} {x : α} :
    Function.update f t b u = some x ↔ (u = t ∧ b = some x) ∨ (u ≠ t ∧ f u = some x) := by
  by_cases hu : u = t
  · subst hu
    simp
  · simp [hu]

theorem open_set : Open { s with epoch, bracket := Function.update s.bracket t b } u q ↔
    (u = t ∧ ∃ c, b = some (q, c)) ∨ (u ≠ t ∧ Open s u q) := by
  simp only [Open, update_eq_some, exists_or, exists_and_left]

theorem past_set (hb : ∀ c, b = some (q, c) → c.value ≠ some v) (h : Past s v q) :
    Past { s with epoch, bracket := Function.update s.bracket t b } v q := by
  intro u c hu
  rcases update_eq_some.mp hu with ⟨-, heq⟩ | ⟨-, hu⟩
  · exact hb c heq
  · exact h u c hu

/-- The one bracket on `p` opens, moves on or closes, and the epoch is odd if it is open then. -/
theorem Inv.set [DecidableEq P] (h : Inv s) (halone : ∀ u, u ≠ t → ¬ Open s u p)
    (hown : ∀ q, Open s t q → q = p) (hb : ∀ q c, b = some (q, c) → q = p)
    (hodd : n % 2 = 1 ↔ b.isSome) (hleaving : ∀ v seen, b = some (p, .leaving v seen) → seen = n) :
    Inv { s with
      epoch := Function.update s.epoch p n, bracket := Function.update s.bracket t b } := by
  refine ⟨fun u w q hu hw => ?_, fun q => ?_, fun u q v seen hq => ?_⟩
  · rw [open_set] at hu hw
    rcases hu with ⟨rfl, c, hc⟩ | ⟨hut, hu⟩ <;> rcases hw with ⟨rfl, d, hd⟩ | ⟨hwt, hw⟩
    · rfl
    · exact absurd (hb q c hc ▸ hw) (halone w hwt)
    · exact absurd (hb q d hd ▸ hu) (halone u hut)
    · exact h.single u w q hu hw
  · simp only [open_set]
    by_cases hq : q = p
    · subst hq
      rw [Function.update_self, hodd]
      constructor
      · intro hsome
        obtain ⟨⟨q', c⟩, rfl⟩ := Option.isSome_iff_exists.mp hsome
        obtain rfl := hb q' c rfl
        exact ⟨t, .inl ⟨rfl, c, rfl⟩⟩
      · rintro ⟨u, ⟨-, c, rfl⟩ | ⟨hut, hu⟩⟩
        · rfl
        · exact absurd hu (halone u hut)
    · rw [Function.update_of_ne hq, h.odd q]
      refine exists_congr fun u => ⟨fun hu => .inr ⟨?_, hu⟩, ?_⟩
      · rintro rfl
        exact hq (hown q hu)
      · rintro (⟨-, c, hc⟩ | ⟨-, hu⟩)
        · exact absurd (hb q c hc) hq
        · exact hu
  · dsimp only at hq ⊢
    rw [update_eq_some] at hq
    rcases hq with ⟨rfl, hq⟩ | ⟨hut, hq⟩
    · obtain rfl := hb q _ hq
      rw [Function.update_self]
      exact hleaving v seen hq
    · have hqp : q ≠ p := by
        rintro rfl
        exact halone u hut ⟨_, hq⟩
      rw [Function.update_of_ne hqp]
      exact h.leaving u q v seen hq

/-! #### Inside a bracket -/

omit [DecidableEq T] in
theorem Inv.alone (h : Inv s) (ht : Open s t p) : ∀ u, u ≠ t → ¬ Open s u p :=
  fun u hu hup => hu (h.single u t p hup ht)

omit [DecidableEq T] in
theorem Open.at {c : Bracket V} (hc : s.bracket t = some (p, c)) (h : Open s t q) : q = p := by
  obtain ⟨d, hd⟩ := h
  exact congrArg Prod.fst (Option.some.inj (hd.symm.trans hc))

theorem Inv.move (h : Inv s) {c c' : Bracket V} (hc : s.bracket t = some (p, c))
    (hleaving : ∀ v seen, c' = .leaving v seen → seen = s.epoch p) :
    Inv { s with bracket := Function.update s.bracket t (some (p, c')) } := by
  classical
  have hnext := h.set (n := s.epoch p) (b := some (p, c')) (h.alone ⟨c, hc⟩) (fun q => Open.at hc)
    (by simp +contextual) (by simpa using (h.odd p).mpr ⟨t, c, hc⟩) fun v seen heq =>
      hleaving v seen (congrArg Prod.snd (Option.some.inj heq))
  rwa [Function.update_eq_self] at hnext

theorem open_load (h : Open (s.load t) u q) : Open s u q := by
  unfold State.load at h
  split at h
  · next hc =>
    rcases open_set.mp h with ⟨rfl, d, hd⟩ | ⟨-, h⟩
    · obtain ⟨rfl, -⟩ := Prod.mk.inj (Option.some.inj hd)
      exact ⟨_, hc⟩
    · exact h
  · exact h

theorem open_leave (h : Open (s.leave t) u q) : Open s u q := by
  unfold State.leave at h
  split at h
  · next hc =>
    rcases open_set.mp h with ⟨rfl, d, hd⟩ | ⟨-, h⟩
    · obtain ⟨rfl, -⟩ := Prod.mk.inj (Option.some.inj hd)
      exact ⟨_, hc⟩
    · exact h
  · exact h

theorem Inv.load (h : Inv s) : Inv (s.load t) := by
  unfold State.load
  split
  · next hb => exact h.move hb nofun
  · exact h

theorem past_load (hv : s.pointer q ≠ v) (h : Past s v q) : Past (s.load t) v q := by
  unfold State.load
  split
  · refine past_set (fun c heq => ?_) h
    obtain ⟨rfl, rfl⟩ := Prod.mk.inj (Option.some.inj heq)
    simpa [Bracket.value] using hv
  · exact h

theorem Awaits.load (hv : s.pointer q ≠ v) (h : Awaits s v q seen) : Awaits (s.load t) v q seen := by
  refine h.imp (fun he => ?_) (past_load hv)
  unfold State.load
  split <;> exact he

theorem Inv.leave (h : Inv s) : Inv (s.leave t) := by
  unfold State.leave
  split
  · next hb =>
    refine h.move hb fun v seen he => ?_
    cases he
    rfl
  · exact h

theorem past_leave (h : Past s v q) : Past (s.leave t) v q := by
  unfold State.leave
  split
  · next hb =>
    refine past_set (fun c heq => ?_) h
    obtain ⟨rfl, rfl⟩ := Prod.mk.inj (Option.some.inj heq)
    exact h t (.holding _) hb
  · exact h

theorem Awaits.leave (h : Awaits s v q seen) : Awaits (s.leave t) v q seen := by
  refine h.imp (fun he => ?_) past_leave
  unfold State.leave
  split <;> exact he

theorem Inv.keeps_load (h : Inv s) (t : T) : Keeps s (s.load t) where
  inv := h.load
  pointer := by unfold State.load; split <;> rfl
  past _ _ := past_load
  awaits _ _ _ := Awaits.load

theorem Inv.keeps_leave (h : Inv s) (t : T) : Keeps s (s.leave t) where
  inv := h.leave
  pointer := by unfold State.leave; split <;> rfl
  past _ _ _ := past_leave
  awaits _ _ _ _ := Awaits.leave

theorem mod_even_mod_two (hwidth : width % 2 = 0) (n : Nat) : n % width % 2 = n % 2 :=
  Nat.mod_mod_of_dvd n (Nat.dvd_of_mod_eq_zero hwidth)

variable [DecidableEq P]

/-! #### Entering -/

theorem open_enter (h : Open (s.enter width t p) u q) : Open s u q ∨ u = t ∧ q = p := by
  unfold State.enter at h
  split at h
  · rcases open_set.mp h with ⟨hu, c, hc⟩ | ⟨-, h⟩
    · exact .inr ⟨hu, (congrArg Prod.fst (Option.some.inj hc)).symm⟩
    · exact .inl h
  · exact .inl h

theorem Inv.enter (hwidth : width % 2 = 0) (h : Inv s)
    (halone : s.bracket t = none → ∀ u, ¬ Open s u p) : Inv (s.enter width t p) := by
  unfold State.enter
  split
  · next hnone =>
    have heven : ¬ s.epoch p % 2 = 1 := fun hodd =>
      let ⟨u, hu⟩ := (h.odd p).mp hodd
      halone hnone u hu
    refine h.set (fun u _ => halone hnone u) ?_ (by simp +contextual) ?_ nofun
    · rintro q ⟨c, hc⟩
      exact nomatch hnone.symm.trans hc
    · rw [mod_even_mod_two hwidth]
      exact iff_of_true (by omega) rfl
  · exact h

theorem past_enter (h : Past s v q) : Past (s.enter width t p) v q := by
  unfold State.enter
  split
  · refine past_set (fun c heq => ?_) h
    obtain ⟨rfl, rfl⟩ := Prod.mk.inj (Option.some.inj heq)
    exact nofun
  · exact h

/-- A bracket that opens on `p` itself has nothing loaded, and no other is open there. -/
theorem Awaits.enter (halone : s.bracket t = none → ∀ u, ¬ Open s u p)
    (h : Awaits s v q seen) : Awaits (s.enter width t p) v q seen := by
  rcases h with he | hpast
  · by_cases hnone : s.bracket t = none
    · by_cases hq : q = p
      · subst hq
        exact .inr (past_enter fun u b hb => absurd ⟨b, hb⟩ (halone hnone u))
      · exact .inl (by simpa [State.enter, hnone, hq] using he)
    · obtain ⟨x, hx⟩ := Option.ne_none_iff_exists'.mp hnone
      exact .inl (by simpa [State.enter, hx] using he)
  · exact .inr (past_enter hpast)

theorem Inv.keeps_enter (hwidth : width % 2 = 0) (h : Inv s)
    (halone : s.bracket t = none → ∀ u, ¬ Open s u p) : Keeps s (s.enter width t p) where
  inv := h.enter hwidth halone
  pointer := by unfold State.enter; split <;> rfl
  past _ _ _ := past_enter
  awaits _ _ _ _ := Awaits.enter halone

/-! #### Leaving -/

theorem open_exit (h : Open (s.exit width t) u q) : Open s u q := by
  unfold State.exit at h
  split at h
  · rcases open_set.mp h with ⟨-, c, hc⟩ | ⟨-, h⟩
    · exact nomatch hc
    · exact h
  · exact h

theorem past_exit (h : Past s v q) : Past (s.exit width t) v q := by
  unfold State.exit
  split
  · exact past_set nofun h
  · exact h

theorem Inv.exit (hwidth : width % 2 = 0) (h : Inv s) : Inv (s.exit width t) := by
  unfold State.exit
  split
  · next p v seen hb =>
    have hseen := h.leaving t p v seen hb
    have hodd : s.epoch p % 2 = 1 := (h.odd p).mpr ⟨t, _, hb⟩
    refine h.set (h.alone ⟨_, hb⟩) (fun q => Open.at hb) nofun ?_ nofun
    rw [mod_even_mod_two hwidth]
    exact iff_of_false (by omega) nofun
  · exact h

/-- The bracket that closes on `p` was the only one there. -/
theorem Awaits.exit (h : Inv s) (ha : Awaits s v q seen) : Awaits (s.exit width t) v q seen := by
  rcases ha with he | hpast
  · unfold State.exit
    split
    · next p v' seen' hb =>
      by_cases hq : q = p
      · subst hq
        refine .inr fun u c hu => ?_
        rcases update_eq_some.mp hu with ⟨-, hu⟩ | ⟨hut, hu⟩
        · exact nomatch hu
        · exact absurd ⟨c, hu⟩ (h.alone ⟨_, hb⟩ u hut)
      · exact .inl (by simpa [hq] using he)
    · exact .inl he
  · exact .inr (past_exit hpast)

theorem Inv.keeps_exit (hwidth : width % 2 = 0) (h : Inv s) (t : T) : Keeps s (s.exit width t) where
  inv := h.exit hwidth
  pointer := by unfold State.exit; split <;> rfl
  past _ _ _ := past_exit
  awaits _ _ _ _ := Awaits.exit h

end Steps

end GraceEpoch
