/-
Nothing posted to a pad's worker is lost.

A kind that was posted is marked in the pending word, about to be marked, or in the hands of the
worker, which answers for it with a take or puts it back (`Due`, `Kept`).  A worker that goes to
sleep while something is pending has a wake-up coming (`Woken`).
-/
import Dish.Proofs.Mailbox

namespace Dish

open Seqlock Function

/-! ### Kinds that are due -/

/-- The kinds the worker took off the pending word and has not answered for yet. -/
def Worker.held : Worker → UInt32
  | .noting kinds | .copying kinds _ | .restoring kinds => kinds
  | _ => 0

/-- A copy the worker is making began at the generation or later. -/
def Worker.Since (n : Nat) : Worker → Prop
  | .copying _ copy => n ≤ copy.before
  | _ => True

/-- A `notify` of the thread is still to finish. -/
def Caller.Notifies : Caller → Prop
  | .freeing | .looking _ | .waking _ | .releasing _ => True
  | _ => False

/-- The worker has announced its sleep. -/
def Worker.Announced : Worker → Prop
  | .askingStop | .askingPending | .acquiring => True
  | _ => False

namespace OutputWorker

variable {s : OutputWorker} {k : OutputKind} {n : Nat}

/-- The kind is marked pending or in the worker's hands, which will answer for every write closed
before the generation. -/
def Due (s : OutputWorker) (k : OutputKind) (n : Nat) : Prop :=
  HasKind s.pending k ∨ HasKind s.worker.held k ∧ s.worker.Since n

/-- A take has answered for the kind, with every write closed before the generation. -/
def Answered (s : OutputWorker) (k : OutputKind) (n : Nat) : Prop :=
  ∃ e ∈ s.takes, HasKind e.taken.kinds k ∧ n / 2 ≤ e.posts

theorem Due.pending (h : s.Due k n) (hheld : s.worker.held = 0) : HasKind s.pending k := by
  rcases h with hpending | ⟨hk, -⟩
  · exact hpending
  · rw [hheld] at hk
    exact (not_hasKind_zero k hk).elim

theorem stepCaller_pending (s : OutputWorker) (t : Nat) : (s.stepCaller t).pending = s.pending ∨
    ∃ p, s.callers t = .marking p ∧ (s.stepCaller t).pending = s.pending ||| p.kind.bit := by
  unfold stepCaller
  cases s.callers t with
  | marking p => exact .inr ⟨p, rfl, rfl⟩
  | claiming | loading | storing | joining => left; dsimp only; split <;> rfl
  | _ => exact .inl rfl

theorem Due.stepCaller (h : s.Due k n) (t : Nat) : (s.stepCaller t).Due k n := by
  rcases h with hpending | hheld
  · left
    rcases s.stepCaller_pending t with hp | ⟨p, -, hp⟩
    · rw [hp]
      exact hpending
    · rw [hp]
      exact hasKind_or.mpr (.inl hpending)
  · right
    rw [(s.stepCaller_frame t).1]
    exact hheld

theorem Due.stepWorker (h : s.Due k n) (hclosed : s.cell.gen % 2 = 0 → n ≤ s.cell.gen)
    (accepts : OutputKind → Bool) :
    (s.stepWorker accepts).Due k n ∨
      ∃ e, (s.stepWorker accepts).takes = s.takes ++ [e] ∧ HasKind e.taken.kinds k ∧
        n / 2 ≤ e.posts := by
  unfold OutputWorker.stepWorker
  cases hw : s.worker with
  | taking =>
    have hpending := h.pending (by rw [hw]; rfl)
    have hne : s.pending ≠ 0 := fun hzero => not_hasKind_zero k (hzero ▸ hpending)
    left
    simp only [hne, if_false]
    exact .inr ⟨hpending, trivial⟩
  | noting =>
    left
    rcases h with hpending | ⟨hk, -⟩
    · exact .inl hpending
    · rw [hw] at hk
      by_cases hodd : s.cell.gen % 2 ^ 32 % 2 ≠ 0
      · simp only [hodd, if_true, ne_eq, not_false_eq_true]
        exact .inr ⟨hk, trivial⟩
      · have heven : s.cell.gen % 2 = 0 := by omega
        simp only [hodd, if_false]
        exact .inr ⟨hk, hclosed heven⟩
  | copying kinds copy =>
    by_cases hnext : copy.next < OutputState.kWords
    · simp only [hnext, if_true]
      left
      rcases h with hpending | hheld
      · exact .inl hpending
      · rw [hw] at hheld
        exact .inr hheld
    · by_cases hsame : s.cell.gen % 2 ^ 32 = copy.before % 2 ^ 32
      · simp only [hnext, hsame, if_true, if_false]
        rcases h with hpending | ⟨hk, hsince⟩
        · exact .inl (.inl hpending)
        · rw [hw] at hk hsince
          exact .inr ⟨_, rfl, hk, Nat.div_le_div_right hsince⟩
      · simp only [hnext, hsame, if_false]
        left
        rcases h with hpending | ⟨hk, -⟩
        · exact .inl hpending
        · rw [hw] at hk
          exact .inr ⟨hk, trivial⟩
  | restoring =>
    left
    rcases h with hpending | ⟨hk, -⟩
    · exact .inl (hasKind_or.mpr (.inl hpending))
    · rw [hw] at hk
      exact .inl (hasKind_or.mpr (.inr hk))
  | acquiring =>
    left
    have hpending := h.pending (by rw [hw]; rfl)
    dsimp only
    split
    · exact h
    · exact .inl hpending
  | checking | announcing | askingStop | askingPending | rising | writing =>
    exact .inl (.inl (h.pending (by rw [hw]; rfl)))
  | exited => exact .inl h

theorem stepWorker_takes (s : OutputWorker) (accepts : OutputKind → Bool) :
    ∃ more, (s.stepWorker accepts).takes = s.takes ++ more := by
  unfold stepWorker
  cases s.worker with
  | copying kinds copy =>
    by_cases hnext : copy.next < OutputState.kWords
    · simp only [hnext, if_true]
      exact ⟨[], (List.append_nil _).symm⟩
    · by_cases hsame : s.cell.gen % 2 ^ 32 = copy.before % 2 ^ 32
      · simp only [hnext, hsame, if_true, if_false]
        exact ⟨_, rfl⟩
      · simp only [hnext, hsame, if_false]
        exact ⟨[], (List.append_nil _).symm⟩
  | acquiring =>
    dsimp only
    split <;> exact ⟨[], (List.append_nil _).symm⟩
  | _ => exact ⟨[], (List.append_nil _).symm⟩

theorem step_takes (s : OutputWorker) (a : Action) :
    ∃ more, (s.step a).takes = s.takes ++ more := by
  refine step_cases (Q := fun s' => ∃ more, s'.takes = s.takes ++ more) ?_ ?_ ?_
    s.stepWorker_takes a
  · exact ⟨[], (List.append_nil _).symm⟩
  · intro t c _ _
    exact ⟨[], (List.append_nil _).symm⟩
  · intro t
    exact ⟨[], by rw [(s.stepCaller_frame t).2, List.append_nil]⟩

theorem Answered.step (h : s.Answered k n) (a : Action) : (s.step a).Answered k n := by
  obtain ⟨e, he, hk, hn⟩ := h
  obtain ⟨more, htakes⟩ := s.step_takes a
  exact ⟨e, by rw [htakes]; exact List.mem_append_left _ he, hk, hn⟩

theorem Due.step (h : s.Due k n) (hclosed : s.cell.gen % 2 = 0 → n ≤ s.cell.gen) (a : Action) :
    (s.step a).Due k n ∨
      ∃ e, (s.step a).takes = s.takes ++ [e] ∧ HasKind e.taken.kinds k ∧ n / 2 ≤ e.posts :=
  step_cases (Q := fun s' => s'.Due k n ∨
      ∃ e, s'.takes = s.takes ++ [e] ∧ HasKind e.taken.kinds k ∧ n / 2 ≤ e.posts) (.inl h)
    (fun _ _ _ _ => .inl h) (fun t => .inl (h.stepCaller t))
    (h.stepWorker hclosed) a

theorem answered_of_take {e : Take} {l : List Take} (htakes : s.takes = l ++ [e])
    (hk : HasKind e.taken.kinds k) (hn : n / 2 ≤ e.posts) : s.Answered k n :=
  ⟨e, by rw [htakes]; exact List.mem_append_right _ (List.mem_singleton_self _), hk, hn⟩

/-! ### Every post is kept -/

/-- The post whose write was closed last has not marked its kind yet. -/
def Unmarked (s : OutputWorker) (i : Nat) (p : OutputPost) : Prop :=
  i + 1 = s.log.length ∧ ∃ t, s.callers t = .marking p

/-- Every post is answered for, due, or about to be marked. -/
def Kept (s : OutputWorker) : Prop :=
  ∀ i p, s.log[i]? = some p →
    s.Answered p.kind (2 * (i + 1)) ∨ s.Due p.kind (2 * (i + 1)) ∨ s.Unmarked i p

theorem Locked.closed_before (h : s.Locked) {i : Nat} {p : OutputPost} (hp : s.log[i]? = some p) :
    s.cell.gen % 2 = 0 → 2 * (i + 1) ≤ s.cell.gen := by
  intro heven
  have hi : i < s.log.length := (List.getElem?_eq_some_iff.mp hp).1
  have hgen := (h.closed_of_even heven).gen
  omega

theorem Unmarked.move {i : Nat} {p : OutputPost} {t : Nat} {c : Caller} (h : s.Unmarked i p)
    (ht : ∀ q, s.callers t ≠ .marking q) {s' : OutputWorker}
    (hcallers : s'.callers = update s.callers t c) (hlog : s'.log = s.log) :
    s'.Unmarked i p := by
  obtain ⟨hi, u, hu⟩ := h
  refine ⟨by rw [hlog]; exact hi, u, ?_⟩
  have hne : u ≠ t := fun heq => ht p (heq ▸ hu)
  rw [hcallers, update_of_ne hne]
  exact hu

/-- The places a calling thread can move between without marking or closing a write. -/
theorem stepCaller_cases (s : OutputWorker) (t : Nat) :
    (∃ p, s.callers t = .marking p ∧
      s.stepCaller t = { s with pending := s.pending ||| p.kind.bit }.setCaller t .freeing) ∨
    (∃ p next i, s.callers t = .storing p next i ∧ ¬ i < OutputState.kWords ∧
      s.stepCaller t = { s with cell := s.cell.bump, log := s.log ++ [p] }.setCaller t
        (.marking p)) ∨
    (∀ q, s.callers t ≠ .marking q) ∧ (s.stepCaller t).log = s.log ∧
      ∃ c, (s.stepCaller t).callers = update s.callers t c := by
  have hself : ∃ c, s.callers = update s.callers t c :=
    ⟨s.callers t, (update_eq_self t s.callers).symm⟩
  unfold stepCaller
  cases hc : s.callers t with
  | marking p => exact .inl ⟨p, rfl, rfl⟩
  | storing p next i =>
    by_cases hi : i < OutputState.kWords
    · simp only [hi, if_true]
      exact .inr (.inr ⟨nofun, rfl, _, rfl⟩)
    · simp only [hi, if_false]
      exact .inr (.inl ⟨p, next, i, rfl, hi, rfl⟩)
  | idle => exact .inr (.inr ⟨nofun, rfl, hself⟩)
  | claiming =>
    right; right
    refine ⟨nofun, ?_⟩
    dsimp only
    split
    · exact ⟨rfl, hself⟩
    · exact ⟨rfl, _, rfl⟩
  | loading =>
    right; right
    refine ⟨nofun, ?_⟩
    dsimp only
    split <;> exact ⟨rfl, _, rfl⟩
  | joining =>
    right; right
    refine ⟨nofun, ?_⟩
    dsimp only
    split
    · exact ⟨rfl, _, rfl⟩
    · exact ⟨rfl, hself⟩
  | _ => exact .inr (.inr ⟨nofun, rfl, _, rfl⟩)

theorem Kept.stepCaller (h : s.Kept) (hlock : s.Locked) (t : Nat) : (s.stepCaller t).Kept := by
  intro i p hp
  have htakes := (s.stepCaller_frame t).2
  -- what is answered for or due stays so, whatever the thread does
  have hold : s.log[i]? = some p → ¬ s.Unmarked i p →
      (s.stepCaller t).Answered p.kind (2 * (i + 1)) ∨ (s.stepCaller t).Due p.kind (2 * (i + 1)) ∨
        (s.stepCaller t).Unmarked i p := by
    intro hp' hmarked
    rcases h i p hp' with hanswered | hdue | hunmarked
    · left
      unfold Answered
      rw [htakes]
      exact hanswered
    · exact .inr (.inl (hdue.stepCaller t))
    · exact (hmarked hunmarked).elim
  rcases s.stepCaller_cases t with ⟨q, hq, hstep⟩ | ⟨q, next, j, hq, -, hstep⟩ | ⟨hq, hlog, c, hc⟩
  · -- the thread marks its kind
    have hp' : s.log[i]? = some p := by rw [hstep] at hp; exact hp
    by_cases hunmarked : s.Unmarked i p
    · obtain ⟨-, u, hu⟩ := hunmarked
      obtain rfl := hlock.alone u t (by rw [hu]; trivial) (by rw [hq]; trivial)
      obtain rfl : p = q := Caller.marking.inj (hu.symm.trans hq)
      right; left; left
      rw [hstep]
      exact hasKind_or.mpr (.inr (hasKind_bit _))
    · exact hold hp' hunmarked
  · -- the thread closes its write, and its post is the last of the log
    have hlog : (s.stepCaller t).log = s.log ++ [q] := by rw [hstep]; rfl
    rw [hlog] at hp
    rcases Nat.lt_or_ge i s.log.length with hlt | hge
    · rw [List.getElem?_append_left hlt] at hp
      refine hold hp fun ⟨_, u, hu⟩ => ?_
      obtain rfl := hlock.alone u t (by rw [hu]; trivial) (by rw [hq]; trivial)
      rw [hu] at hq
      cases hq
    · have hi : i < (s.log ++ [q]).length := (List.getElem?_eq_some_iff.mp hp).1
      rw [List.length_append, List.length_singleton] at hi
      obtain rfl : i = s.log.length := by omega
      rw [List.getElem?_concat_length] at hp
      obtain rfl := Option.some.inj hp
      refine .inr (.inr ⟨by rw [hlog, List.length_append, List.length_singleton], t, ?_⟩)
      rw [hstep]
      exact update_self ..
  · rw [hlog] at hp
    by_cases hunmarked : s.Unmarked i p
    · exact .inr (.inr (hunmarked.move hq hc hlog))
    · exact hold hp hunmarked

theorem Kept.stepWorker (h : s.Kept) (hlock : s.Locked) (accepts : OutputKind → Bool) :
    (s.stepWorker accepts).Kept := by
  obtain ⟨hcallers, -, -, hlog, -⟩ := s.stepWorker_frame accepts
  intro i p hp
  rw [hlog] at hp
  rcases h i p hp with hanswered | hdue | hunmarked
  · exact .inl (hanswered.step (.worker accepts))
  · rcases hdue.stepWorker (hlock.closed_before hp) accepts with hdue | ⟨e, htakes, hk, hn⟩
    · exact .inr (.inl hdue)
    · exact .inl (answered_of_take htakes hk hn)
  · right; right
    unfold Unmarked
    rw [hlog, hcallers]
    exact hunmarked

theorem Kept.step (h : s.Kept) (hlock : s.Locked) (a : Action) : (s.step a).Kept := by
  refine step_cases h (fun t c hidle _ => ?_) (h.stepCaller hlock) (h.stepWorker hlock) a
  intro i p hp
  rcases h i p hp with hanswered | hdue | hunmarked
  · exact .inl hanswered
  · exact .inr (.inl hdue)
  · exact .inr (.inr (hunmarked.move (by rw [hidle]; exact nofun) rfl rfl))

/-! ### No wake-up is lost -/

/-- The worker has looked for work and there is some by now. -/
def Overlooks (s : OutputWorker) : Prop :=
  s.worker = .acquiring ∧ s.pending ≠ 0 ∨
  (s.worker = .askingPending ∨ s.worker = .acquiring) ∧ s.stopping = true

theorem Overlooks.announced (h : s.Overlooks) : s.worker.Announced := by
  rcases h with ⟨hw, -⟩ | ⟨hw | hw, -⟩ <;> rw [hw] <;> trivial

structure Woken (s : OutputWorker) : Prop where
  /-- Whoever took the announcement down brings a token. -/
  announced : s.worker.Announced →
    s.sleeping = true ∨ 0 < s.wake ∨ ∃ t n, s.callers t = .releasing n
  overlooks : s.Overlooks → 0 < s.wake ∨ ∃ t, (s.callers t).Notifies

variable {t : Nat} {c : Caller} {s' : OutputWorker}

theorem releasing_move (h : ∃ u n, s.callers u = .releasing n)
    (ht : ∀ n, s.callers t ≠ .releasing n)
    (hcallers : s'.callers = update s.callers t c) :
    ∃ u n, s'.callers u = .releasing n := by
  obtain ⟨u, n, hu⟩ := h
  refine ⟨u, n, ?_⟩
  have hne : u ≠ t := fun heq => ht n (heq ▸ hu)
  rw [hcallers, update_of_ne hne]
  exact hu

theorem notifies_move (h : ∃ u, (s.callers u).Notifies) (ht : ¬ (s.callers t).Notifies)
    (hcallers : s'.callers = update s.callers t c) : ∃ u, (s'.callers u).Notifies := by
  obtain ⟨u, hu⟩ := h
  refine ⟨u, ?_⟩
  have hne : u ≠ t := fun heq => ht (heq ▸ hu)
  rw [hcallers, update_of_ne hne]
  exact hu

section
variable (h : s.Woken)
include h

theorem Woken.notifying (ht : ∀ n, s.callers t ≠ .releasing n) (hc : c.Notifies)
    (hcallers : s'.callers = update s.callers t c)
    (hworker : s'.worker = s.worker) (hsleeping : s'.sleeping = s.sleeping)
    (hwake : s'.wake = s.wake) : s'.Woken := by
  refine ⟨fun hann => ?_, fun _ => .inr ⟨t, ?_⟩⟩
  · rw [hworker] at hann
    rw [hsleeping, hwake]
    rcases h.announced hann with hs | hw | hr
    · exact .inl hs
    · exact .inr (.inl hw)
    · exact .inr (.inr (releasing_move hr ht hcallers))
  · rw [hcallers, update_self]
    exact hc

theorem Woken.silent (ht : ¬ (s.callers t).Notifies)
    (hcallers : s'.callers = update s.callers t c)
    (hworker : s'.worker = s.worker) (hsleeping : s'.sleeping = s.sleeping)
    (hwake : s'.wake = s.wake) (hpending : s'.pending = s.pending)
    (hstopping : s'.stopping = s.stopping) : s'.Woken := by
  have hrelease : ∀ n, s.callers t ≠ .releasing n := fun n hn => ht (by rw [hn]; trivial)
  refine ⟨fun hann => ?_, fun hover => ?_⟩
  · rw [hworker] at hann
    rw [hsleeping, hwake]
    rcases h.announced hann with hs | hw | hr
    · exact .inl hs
    · exact .inr (.inl hw)
    · exact .inr (.inr (releasing_move hr hrelease hcallers))
  · unfold Overlooks at hover
    rw [hworker, hpending, hstopping] at hover
    rw [hwake]
    rcases h.overlooks hover with hw | hn
    · exact .inl hw
    · exact .inr (notifies_move hn ht hcallers)

/-- A `notify` that finds the announcement down may end: somebody else brings a token. -/
theorem Woken.needless (ht : ∀ n, s.callers t ≠ .releasing n)
    (hdown : s.sleeping = false) (hcallers : s'.callers = update s.callers t c)
    (hworker : s'.worker = s.worker) (hwake : s'.wake = s.wake) : s'.Woken := by
  have htoken : s'.worker.Announced → 0 < s'.wake ∨ ∃ u n, s'.callers u = .releasing n := by
    intro hann
    rw [hworker] at hann
    rw [hwake]
    rcases h.announced hann with hs | hw | hr
    · exact absurd (hdown.symm.trans hs) Bool.false_ne_true
    · exact .inl hw
    · exact .inr (releasing_move hr ht hcallers)
  refine ⟨fun hann => .inr (htoken hann), fun hover => ?_⟩
  rcases htoken hover.announced with hw | ⟨u, n, hu⟩
  · exact .inl hw
  · exact .inr ⟨u, by rw [hu]; trivial⟩

theorem Woken.stepCaller (t : Nat) : (s.stepCaller t).Woken := by
  unfold OutputWorker.stepCaller
  cases hc : s.callers t with
  | idle => exact h
  | claiming =>
    dsimp only
    split
    · exact h
    · exact h.silent (by rw [hc]; exact id) rfl rfl rfl rfl rfl rfl
  | loading | storing =>
    dsimp only
    split <;> exact h.silent (by rw [hc]; exact id) rfl rfl rfl rfl rfl rfl
  | marking => exact h.notifying (by rw [hc]; exact nofun) (c := .freeing) trivial rfl rfl rfl rfl
  | freeing =>
    exact h.notifying (by rw [hc]; exact nofun) (c := .looking .post) trivial rfl rfl rfl rfl
  | stopping =>
    cases hs : s.stopping with
    | true => exact h.silent (by rw [hc]; exact id) rfl rfl rfl rfl rfl hs.symm
    | false =>
      exact h.notifying (by rw [hc]; exact nofun) (c := .looking .stop) trivial rfl rfl rfl rfl
  | looking n =>
    cases hs : s.sleeping with
    | true => exact h.notifying (by rw [hc]; exact nofun) (c := .waking n) trivial rfl rfl rfl rfl
    | false => exact h.needless (by rw [hc]; exact nofun) hs rfl rfl rfl
  | waking n =>
    cases hs : s.sleeping with
    | true =>
      -- the thread has taken the announcement down and will bring the token
      have hself : update s.callers t (.releasing n) t = .releasing n :=
        update_self ..
      have hnotifies : (update s.callers t (.releasing n) t).Notifies := by
        rw [hself]
        trivial
      exact ⟨fun _ => .inr (.inr ⟨t, n, hself⟩), fun _ => .inr ⟨t, hnotifies⟩⟩
    | false => exact h.needless (by rw [hc]; exact nofun) hs rfl rfl rfl
  | releasing =>
    exact ⟨fun _ => .inr (.inl (Nat.succ_pos _)), fun _ => .inl (Nat.succ_pos _)⟩
  | joining =>
    dsimp only
    split
    · exact h.silent (by rw [hc]; exact id) rfl rfl rfl rfl rfl rfl
    · exact h

omit h in
/-- A worker that has not announced its sleep overlooks nothing. -/
theorem Woken.of_not_announced (h : ¬ s.worker.Announced) : s.Woken :=
  ⟨fun hann => (h hann).elim, fun hover => (h hover.announced).elim⟩

theorem Woken.stepWorker (accepts : OutputKind → Bool) :
    (s.stepWorker accepts).Woken := by
  unfold OutputWorker.stepWorker
  cases hw : s.worker with
  | checking | taking | noting =>
    apply Woken.of_not_announced
    dsimp only
    split <;> exact id
  | announcing =>
    refine ⟨fun _ => .inl rfl, fun hover => ?_⟩
    rcases hover with ⟨hover, -⟩ | ⟨hover | hover, -⟩ <;> cases hover
  | askingStop =>
    cases hs : s.stopping with
    | true => exact Woken.of_not_announced id
    | false =>
      refine ⟨fun _ => h.announced (by rw [hw]; trivial), fun hover => ?_⟩
      rcases hover with ⟨hover, -⟩ | ⟨-, hstop⟩
      · cases hover
      · exact absurd hstop Bool.false_ne_true
  | askingPending =>
    by_cases hp : s.pending = 0
    · simp only [hp, if_true]
      refine ⟨fun _ => h.announced (by rw [hw]; trivial), fun hover => ?_⟩
      -- nothing is pending, so it can only have overlooked a stop
      rcases hover with ⟨-, hne⟩ | ⟨-, hstop⟩
      · exact (hne rfl).elim
      · exact h.overlooks (.inr ⟨.inl hw, hstop⟩)
    · simp only [hp, if_false]
      exact Woken.of_not_announced id
  | acquiring =>
    dsimp only
    split
    · exact h
    · exact Woken.of_not_announced id
  | copying =>
    apply Woken.of_not_announced
    dsimp only
    split
    · exact id
    · split <;> exact id
  | exited => exact h
  | rising | restoring | writing => exact Woken.of_not_announced id

theorem Woken.step (a : Action) : (s.step a).Woken :=
  step_cases h (fun _ _ hidle _ => h.silent (by rw [hidle]; exact id) rfl rfl rfl rfl rfl rfl)
    h.stepCaller h.stepWorker a

end

/-! ### The invariants over a run -/

/-- The worker's thread only ends when it was told to. -/
def Ended (s : OutputWorker) : Prop := s.worker = .exited → s.stopping = true

theorem Ended.stepCaller (h : s.Ended) (t : Nat) : (s.stepCaller t).Ended := by
  have hstopping : s.stopping = true → (s.stepCaller t).stopping = true := by
    intro hs
    unfold OutputWorker.stepCaller
    split
    case h_2 => split <;> exact hs
    case h_3 => split <;> exact hs
    case h_4 => split <;> exact hs
    case h_11 => split <;> exact hs
    all_goals first | exact hs | rfl
  intro hw
  rw [(s.stepCaller_frame t).1] at hw
  exact hstopping (h hw)

theorem Ended.stepWorker (h : s.Ended) (accepts : OutputKind → Bool) :
    (s.stepWorker accepts).Ended := by
  intro hw
  rw [(s.stepWorker_frame accepts).2.2.2.2]
  unfold OutputWorker.stepWorker at hw
  cases hc : s.worker with
  | checking =>
    rw [hc] at hw
    by_contra hs
    simp only [hs] at hw
    cases hw
  | exited => exact h hc
  | copying =>
    rw [hc] at hw
    dsimp only at hw
    split at hw
    · cases hw
    · split at hw <;> cases hw
  | acquiring =>
    rw [hc] at hw
    dsimp only at hw
    split at hw
    · exact h hw
    · cases hw
  | askingStop | askingPending | taking | noting =>
    rw [hc] at hw
    dsimp only at hw
    split at hw <;> cases hw
  | announcing | rising | restoring | writing =>
    rw [hc] at hw
    cases hw

/-- What holds in every state of every run in which the generation keeps to its width. -/
structure Sound (s : OutputWorker) : Prop where
  locked : s.Locked
  copies : s.Copies
  kept : s.Kept
  woken : s.Woken
  ended : s.Ended

theorem sound_started (parser : HidParser) : (started parser).Sound where
  locked := locked_started parser
  copies := ⟨nofun, nofun⟩
  kept := nofun
  woken := Woken.of_not_announced id
  ended := nofun

theorem Sound.step (h : s.Sound) (hwidth : s.InWidth) (a : Action) : (s.step a).Sound where
  locked := h.locked.step a
  copies := step_cases h.copies (fun _ _ _ _ => ⟨h.copies.copy, h.copies.takes⟩)
    (h.copies.stepCaller h.locked) (h.copies.stepWorker h.locked hwidth) a
  kept := h.kept.step h.locked a
  woken := h.woken.step a
  ended := step_cases h.ended (fun _ _ _ _ => h.ended) h.ended.stepCaller h.ended.stepWorker a

theorem sound_run (parser : HidParser) {acts : List Action}
    (hwidth : Steps.Along step (fun s _ => s.InWidth) (started parser) acts) :
    (Steps.run step (started parser) acts).Sound :=
  Steps.run_keeps (fun _ a hs hok => hs.step hok a) (sound_started parser) hwidth

end OutputWorker

end Dish
