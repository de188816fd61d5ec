/-
Every post reaches the pad's worker.

While no write is open and the worker is not asleep, its turns run down to a take that answers for
all that is due (`rank`).  With the invariants this says what becomes of a post, and the last
section shows where the 32-bit generation, `stop` and a stream of posts set the limits.
-/
import Dish.Proofs.Deliveries

namespace Dish

open Seqlock Function Steps OutputState

namespace OutputWorker

variable {s s' : OutputWorker} {k : OutputKind} {n : Nat}

/-! ### The worker gets to it -/

/-- No write is open and nobody has stopped the worker. -/
def Calm (s : OutputWorker) : Prop := s.cell.gen % 2 = 0 ∧ s.stopping = false

/-- The worker sleeps on the semaphore. -/
def Asleep (s : OutputWorker) : Prop := s.worker = .acquiring ∧ s.wake = 0

/-- What a step counts: the worker's turns, but for those in which it sleeps. -/
def turn (s : OutputWorker) : Action → Nat
  | .worker _ => match s.worker with
      | .acquiring => if s.wake = 0 then 0 else 1
      | _ => 1
  | _ => 0

/-- How many of its turns the worker is from a take that answers for the kind. -/
def rank (s : OutputWorker) (k : OutputKind) : Nat :=
  match s.worker with
  | .copying kinds copy =>
    if HasKind kinds k ∧ copy.before = s.cell.gen then OutputState.kWords - copy.next + 1
    else OutputState.kWords - copy.next + 1 + (OutputState.kWords + 9)
  | .noting kinds =>
    if HasKind kinds k then OutputState.kWords + 2 else 2 * OutputState.kWords + 11
  | .taking => OutputState.kWords + 3
  | .rising => OutputState.kWords + 4
  | .acquiring | .askingPending => OutputState.kWords + 5
  | .askingStop => OutputState.kWords + 6
  | .announcing => OutputState.kWords + 7
  | .checking => OutputState.kWords + 8
  | .writing _ | .restoring _ => OutputState.kWords + 9
  | .exited => 0

theorem rank_le (s : OutputWorker) (k : OutputKind) : s.rank k ≤ 21 := by
  have hwords : OutputState.kWords = 5 := rfl
  unfold rank
  cases s.worker <;> dsimp only <;> (try split) <;> omega

/-- Every turn of the worker brings it nearer to a take that answers for what is due. -/
theorem Sound.turn_stepWorker (h : s.Sound) (hwidth : s.InWidth) (hcalm : s.Calm)
    (hdue : s.Due k n) (hn : n ≤ s.cell.gen) (accepts : OutputKind → Bool) :
    (s.stepWorker accepts).Answered k n ∨
      s.turn (.worker accepts) + (s.stepWorker accepts).rank k ≤ s.rank k := by
  obtain ⟨heven, hstopping⟩ := hcalm
  unfold stepWorker turn
  cases hw : s.worker with
  | checking | askingStop =>
    right
    simp only [hstopping, rank, hw, Bool.false_eq_true, if_false]
    omega
  | askingPending =>
    have hpending := hdue.pending (by rw [hw]; rfl)
    have hne : s.pending ≠ 0 := fun hzero => not_hasKind_zero k (hzero ▸ hpending)
    right
    simp only [hne, rank, hw, if_false]
    omega
  | acquiring =>
    right
    by_cases hwake : s.wake = 0
    · simp only [hwake, if_true]
      omega
    · simp only [hwake, rank, hw, if_false]
      omega
  | taking =>
    have hpending := hdue.pending (by rw [hw]; rfl)
    have hne : s.pending ≠ 0 := fun hzero => not_hasKind_zero k (hzero ▸ hpending)
    right
    simp only [hne, hpending, rank, hw, if_true, if_false]
    omega
  | noting =>
    right
    have hgen : ¬ s.cell.gen % 2 ^ 32 % 2 ≠ 0 := by omega
    simp only [hgen, rank, hw, Copy.start, if_false, and_true]
    split <;> omega
  | copying kinds copy =>
    by_cases hnext : copy.next < OutputState.kWords
    · right
      simp only [hnext, rank, hw, Copy.load, if_true]
      split <;> omega
    · by_cases hsame : s.cell.gen % 2 ^ 32 = copy.before % 2 ^ 32
      · simp only [hnext, hsame, if_true, if_false]
        by_cases hk : HasKind kinds k
        · have hgen := h.copies.gen_of_same hwidth hw hsame
          exact .inl ⟨_, List.mem_append_right _ (List.mem_singleton_self _), hk,
            Nat.div_le_div_right (hgen ▸ hn)⟩
        · right
          simp only [rank, hw, hk, false_and, if_false]
          omega
      · right
        have hold : copy.before ≠ s.cell.gen := fun heq => hsame (by rw [heq])
        simp only [hnext, hsame, hold, rank, hw, and_false, if_false]
        omega
  | exited => exact absurd (hstopping.symm.trans (h.ended hw)) Bool.false_ne_true
  | announcing | rising | restoring | writing =>
    right
    simp only [rank, hw]
    omega

theorem Locked.calm_cell (h : s.Locked) (hcalm : s.Calm) (t : Nat)
    (hcalm' : (s.stepCaller t).Calm) : (s.stepCaller t).cell = s.cell := by
  have heven := hcalm.1
  have heven' := hcalm'.1
  rcases h.stepCaller_cell t with ⟨hc, -⟩ | ⟨hc, -⟩ | ⟨hodd, -⟩
  · exact hc
  · rw [hc] at heven'
    have hodd : (s.cell.gen + 1) % 2 = 0 := heven'
    omega
  · omega

theorem rank_congr (hworker : s'.worker = s.worker) (hcell : s'.cell = s.cell) :
    s'.rank k = s.rank k := by
  unfold rank
  rw [hworker, hcell]

theorem Sound.turn_step (h : s.Sound) (hwidth : s.InWidth) (hdue : s.Due k n)
    (hn : n ≤ s.cell.gen) (a : Action) (hcalm : s.Calm) (hcalm' : (s.step a).Calm) :
    (s.step a).Answered k n ∨
      ((s.step a).Sound ∧ (s.step a).Due k n ∧ n ≤ (s.step a).cell.gen) ∧
        s.turn a + (s.step a).rank k ≤ s.rank k := by
  have hsound := h.step hwidth a
  rcases hdue.step (fun _ => hn) a with hdue' | ⟨e, htakes, hk, hposts⟩
  swap
  · exact .inl (answered_of_take htakes hk hposts)
  cases a with
  | worker accepts =>
    rcases h.turn_stepWorker hwidth hcalm hdue hn accepts with hanswered | hrank
    · exact .inl hanswered
    · have hn' : n ≤ (s.stepWorker accepts).cell.gen := by
        rw [(s.stepWorker_frame accepts).2.2.1]
        exact hn
      exact .inr ⟨⟨hsound, hdue', hn'⟩, hrank⟩
  | caller t =>
    have hcell := h.locked.calm_cell hcalm t hcalm'
    have hn' : n ≤ (s.stepCaller t).cell.gen := by
      rw [hcell]
      exact hn
    refine .inr ⟨⟨hsound, hdue', hn'⟩, ?_⟩
    have hrank : (s.stepCaller t).rank k = s.rank k :=
      rank_congr (s.stepCaller_frame t).1 hcell
    show 0 + (s.stepCaller t).rank k ≤ s.rank k
    omega
  | post | stop =>
    right
    revert hsound hdue'
    simp only [OutputWorker.step, turn]
    split <;> exact fun hsound hdue' => ⟨⟨hsound, hdue', hn⟩, Nat.le_of_eq (Nat.zero_add _)⟩

/-- While no write is open, so many turns of the worker answer for what is due. -/
theorem Sound.answered_or_turns (h : s.Sound) (hdue : s.Due k n) (hn : n ≤ s.cell.gen)
    {acts : List Action}
    (hok : Along OutputWorker.step (fun s a => s.InWidth ∧ s.Calm ∧ (s.step a).Calm) s acts) :
    (run OutputWorker.step s acts).Answered k n ∨ cost OutputWorker.step turn s acts ≤ 21 := by
  have hreach := reaches_or_cost_le turn (fun s => s.Sound ∧ s.Due k n ∧ n ≤ s.cell.gen)
    (fun s => s.Answered k n) (fun s => s.rank k) (fun s a hs => hs.step a)
    (fun s a hs ha => hs.1.turn_step ha.1 hs.2.1 hs.2.2 a ha.2.1 ha.2.2) ⟨h, hdue, hn⟩ hok
  rcases hreach with hanswered | hcost
  · exact .inl hanswered
  · exact .inr (hcost.trans (s.rank_le k))

/-- Nobody is in a call, and nobody has stopped the worker. -/
structure Idle (s : OutputWorker) : Prop where
  callers : ∀ t, s.callers t = .idle
  running : s.stopping = false

def isWorker : Action → Bool
  | .worker _ => true
  | _ => false

/-- A worker with something due does not sleep while nobody is in a call. -/
theorem Sound.turn_of_idle (h : s.Sound) (hidle : s.Idle) (hdue : s.Due k n)
    (accepts : OutputKind → Bool) : s.turn (.worker accepts) = 1 := by
  unfold turn
  cases hw : s.worker with
  | acquiring =>
    have hpending := hdue.pending (by rw [hw]; rfl)
    have hne : s.pending ≠ 0 := fun hzero => not_hasKind_zero k (hzero ▸ hpending)
    have hwake : s.wake ≠ 0 := by
      rcases h.woken.overlooks (.inl ⟨hw, hne⟩) with hwake | ⟨t, ht⟩
      · omega
      · rw [hidle.callers t] at ht
        exact ht.elim
    simp only [hwake, if_false]
  | _ => rfl

theorem Sound.idle_step (h : s.Sound) (hidle : s.Idle) (hwidth : s.InWidth) (hdue : s.Due k n)
    (hn : n ≤ s.cell.gen) (accepts : OutputKind → Bool) :
    (s.stepWorker accepts).Answered k n ∨
      ((s.stepWorker accepts).Sound ∧ (s.stepWorker accepts).Idle ∧
        (s.stepWorker accepts).Due k n ∧ n ≤ (s.stepWorker accepts).cell.gen) ∧
        1 + (s.stepWorker accepts).rank k ≤ s.rank k := by
  obtain ⟨hcallers, -, hcell, -, hstopping⟩ := s.stepWorker_frame accepts
  have hclosed := h.locked.closed fun t => by rw [hidle.callers t]; exact id
  have hcalm : s.Calm := ⟨by have := hclosed.gen; omega, hidle.running⟩
  have hcalm' : (s.stepWorker accepts).Calm := by
    unfold Calm
    rw [hcell, hstopping]
    exact hcalm
  rcases h.turn_step hwidth hdue hn (.worker accepts) hcalm hcalm' with
    hanswered | ⟨⟨hsound, hdue', hn'⟩, hrank⟩
  · exact .inl hanswered
  · rw [h.turn_of_idle hidle hdue accepts] at hrank
    refine .inr ⟨⟨hsound, ⟨?_, ?_⟩, hdue', hn'⟩, hrank⟩
    · intro t
      rw [hcallers]
      exact hidle.callers t
    · rw [hstopping]
      exact hidle.running

/-- While nobody is in a call, so many steps of the worker answer for what is due. -/
theorem Sound.answered_or_length (h : s.Sound) (hidle : s.Idle) (hdue : s.Due k n)
    (hn : n ≤ s.cell.gen) {acts : List Action}
    (hok : Along OutputWorker.step (fun s a => s.InWidth ∧ isWorker a = true) s acts) :
    (run OutputWorker.step s acts).Answered k n ∨ acts.length ≤ 21 := by
  have hreach := reaches_or_cost_le (fun _ _ => 1)
    (fun s => s.Sound ∧ s.Idle ∧ s.Due k n ∧ n ≤ s.cell.gen) (fun s => s.Answered k n)
    (fun s => s.rank k) (fun s a hs => hs.step a) (fun s a hs ha => by
      cases a with
      | worker accepts => exact hs.1.idle_step hs.2.1 ha.1 hs.2.2.1 hs.2.2.2 accepts
      | _ => cases ha.2) ⟨h, hidle, hdue, hn⟩ hok
  rcases hreach with hanswered | hcost
  · exact .inl hanswered
  · rw [cost_one] at hcost
    exact .inr (hcost.trans (s.rank_le k))

/-! ### What becomes of a post -/

/-- A successful take has the post's kind, and its value or that of a later post of the kind. -/
def Covered (s : OutputWorker) (i : Nat) (p : OutputPost) : Prop :=
  ∃ e ∈ s.takes, HasKind e.taken.kinds p.kind ∧ ∃ j q, i ≤ j ∧ j < e.posts ∧
    s.log[j]? = some q ∧ q.kind = p.kind ∧ q.ShownBy e.taken.state

theorem Sound.covered (h : s.Sound) {i : Nat} {p : OutputPost} (hp : s.log[i]? = some p)
    (hanswered : s.Answered p.kind (2 * (i + 1))) : s.Covered i p := by
  obtain ⟨e, he, hk, hposts⟩ := hanswered
  obtain ⟨hle, hstate⟩ := h.copies.takes e he
  have hi : i < e.posts := by omega
  have hp' : (s.log.take e.posts)[i]? = some p := by rw [List.getElem?_take_of_lt hi, hp]
  obtain ⟨j, q, hij, hj, hq, hshown⟩ := stateAfter_shows hp'
  have hjlt : j < e.posts := by
    have := (List.getElem?_eq_some_iff.mp hj).1
    rw [List.length_take] at this
    omega
  rw [List.getElem?_take_of_lt hjlt] at hj
  exact ⟨e, he, hk, j, q, hij, hjlt, hj, hq, hstate ▸ hshown⟩

/-- The kind is marked pending, or the worker took it and has not answered for it yet. -/
def Carried (s : OutputWorker) (k : OutputKind) : Prop :=
  HasKind s.pending k ∨ HasKind s.worker.held k

theorem Carried.step (h : s.Carried k) (a : Action) :
    (s.step a).Carried k ∨ ∃ e, (s.step a).takes = s.takes ++ [e] ∧ HasKind e.taken.kinds k := by
  have hdue : s.Due k 0 := by
    rcases h with hpending | hheld
    · exact .inl hpending
    · refine .inr ⟨hheld, ?_⟩
      cases s.worker <;> first | trivial | exact Nat.zero_le _
  rcases hdue.step (fun _ => Nat.zero_le _) a with (hpending | ⟨hheld, -⟩) | ⟨e, htakes, hk, -⟩
  · exact .inl (.inl hpending)
  · exact .inl (.inr hheld)
  · exact .inr ⟨e, htakes, hk⟩

/-- What every state of a run says of the takes and the posts so far. -/
structure Delivers (s : OutputWorker) : Prop where
  /-- A take is the record some number of posts made, never a mix. -/
  snapshot : ∀ e ∈ s.takes, e.posts ≤ s.log.length ∧ e.taken.state = stateAfter (s.log.take e.posts)
  /-- A post is covered by a take, due, or about to be marked. -/
  kept : ∀ i p, s.log[i]? = some p → s.Covered i p ∨ s.Due p.kind (2 * (i + 1)) ∨ s.Unmarked i p
  /-- The worker does not sleep over what is pending, but for a `notify` still to run. -/
  awake : s.Asleep → s.pending ≠ 0 → ∃ t, (s.callers t).Notifies

theorem Sound.delivers (h : s.Sound) : s.Delivers where
  snapshot := h.copies.takes
  kept i p hp := by
    rcases h.kept i p hp with hanswered | hrest
    · exact .inl (h.covered hp hanswered)
    · exact .inr hrest
  awake hasleep hpending := by
    rcases h.woken.overlooks (.inl ⟨hasleep.1, hpending⟩) with hwake | hnotify
    · have := hasleep.2
      omega
    · exact hnotify

theorem Locked.log_le (h : s.Locked) : 2 * s.log.length ≤ s.cell.gen := by
  by_cases hopen : ∃ t, (s.callers t).Open
  · obtain ⟨t, ht⟩ := hopen
    have hok := h.callerOk t
    cases hc : s.callers t with
    | storing =>
      rw [hc] at hok
      have hgen := hok.1
      omega
    | _ => rw [hc] at ht; exact ht.elim
  · exact Nat.le_of_eq (h.closed (not_exists.mp hopen)).gen.symm

theorem Locked.step_log (h : s.Locked) (a : Action) : ∃ more, (s.step a).log = s.log ++ more := by
  have hself : ∃ more, s.log = s.log ++ more := ⟨[], (List.append_nil _).symm⟩
  refine step_cases (Q := fun s' => ∃ more, s'.log = s.log ++ more) hself
    (fun _ _ _ _ => hself) (fun t => ?_) (fun accepts => ?_) a
  · rcases h.stepCaller_cell t with ⟨-, hl⟩ | ⟨-, hl⟩ | ⟨-, -, hl⟩
    · rw [hl]
      exact hself
    · exact hl
    · rw [hl]
      exact hself
  · rw [(s.stepWorker_frame accepts).2.2.2.1]
    exact hself

theorem Locked.run_log (h : s.Locked) {i : Nat} {p : OutputPost} (hp : s.log[i]? = some p)
    (acts : List Action) : (run OutputWorker.step s acts).log[i]? = some p := by
  refine (run_inv (I := fun s : OutputWorker => s.Locked ∧ s.log[i]? = some p)
    (fun s a hs => ?_) ⟨h, hp⟩ acts).2
  obtain ⟨more, hlog⟩ := hs.1.step_log a
  have hi : i < s.log.length := (List.getElem?_eq_some_iff.mp hs.2).1
  exact ⟨hs.1.step a, by rw [hlog, List.getElem?_append_left hi]; exact hs.2⟩

/-- What the worker has gone through: enough of its turns with no write open and no stop, or
enough of its steps with nobody in a call. -/
def Undisturbed (s : OutputWorker) (acts : List Action) : Prop :=
  Along step (fun s a => s.Calm ∧ (s.step a).Calm) s acts ∧ 21 < cost step turn s acts ∨
  s.Idle ∧ (∀ a ∈ acts, isWorker a = true) ∧ 21 < acts.length

theorem Answered.run (h : s.Answered k n) (acts : List Action) :
    (run OutputWorker.step s acts).Answered k n :=
  run_inv (I := fun s : OutputWorker => s.Answered k n) (fun _ a hs => hs.step a) h acts

theorem Sound.answered_of_undisturbed (h : s.Sound) (hdue : s.Due k n) (hn : n ≤ s.cell.gen)
    {acts : List Action} (hwidth : Along OutputWorker.step (fun s _ => s.InWidth) s acts)
    (hfree : s.Undisturbed acts) : (run OutputWorker.step s acts).Answered k n := by
  rcases hfree with ⟨hcalm, hturns⟩ | ⟨hidle, hworker, hlength⟩
  · rcases h.answered_or_turns hdue hn (along_and.mpr ⟨hwidth, hcalm⟩) with hanswered | hle
    · exact hanswered
    · omega
  · have hown : Along OutputWorker.step (fun _ a => isWorker a = true) s acts :=
      along_of_forall hworker
    rcases h.answered_or_length hidle hdue hn (along_and.mpr ⟨hwidth, hown⟩) with
      hanswered | hle
    · exact hanswered
    · omega

/-- **No feedback is lost on its way to the pad's worker.**  In every run in which the 32-bit
generation does not go round during one take: every take is a snapshot, every post is covered or
still on its way, a kind leaves the pending word only into a take that succeeds, the worker does
not sleep over what is pending, and a post that was marked is covered once the worker has had its
turns undisturbed. -/
theorem posts_delivered (parser : HidParser) (acts more : List Action)
    (hwidth : Along step (fun s _ => s.InWidth) (started parser) (acts ++ more)) :
    (run step (started parser) acts).Delivers ∧
    (∀ k a, (run step (started parser) acts).Carried k →
      ((run step (started parser) acts).step a).Carried k ∨
      ∃ e, ((run step (started parser) acts).step a).takes =
        (run step (started parser) acts).takes ++ [e] ∧ HasKind e.taken.kinds k) ∧
    ∀ i p, (run step (started parser) acts).log[i]? = some p →
      ¬ (run step (started parser) acts).Unmarked i p →
      (run step (started parser) acts).Undisturbed more →
      (run step (started parser) (acts ++ more)).Covered i p := by
  have hwidths := (along_append step).mp hwidth
  have hsound := sound_run parser hwidths.1
  have hlater := sound_run parser hwidth
  refine ⟨hsound.delivers, fun k a hk => hk.step a, fun i p hp hmarked hfree => ?_⟩
  rw [run_append] at hlater ⊢
  refine hlater.covered (hsound.locked.run_log hp more) ?_
  rcases hsound.kept i p hp with hanswered | hdue | hunmarked
  · exact hanswered.run more
  · have hi : i < (run step (started parser) acts).log.length :=
      (List.getElem?_eq_some_iff.mp hp).1
    have hn := hsound.locked.log_le
    exact hsound.answered_of_undisturbed hdue (by omega) hwidths.2 hfree
  · exact (hmarked hunmarked).elim

/-! ### Where the limits are -/

/-- A pad that takes every report. -/
def allTaken : OutputKind → Bool := fun _ => true

def workerTurns (n : Nat) : List Action := List.replicate n (.worker allTaken)

/-- One whole post of a thread, while the worker is not announced. -/
def postCall (t : Nat) (p : OutputPost) : List Action :=
  .post t p :: List.replicate 16 (.caller t)

/-- Nobody is in a call and the worker has not announced its sleep. -/
structure Free (s : OutputWorker) : Prop where
  idle : ∀ t, s.callers t = .idle
  writer : s.writer = false
  sleeping : s.sleeping = false

theorem Free.run_postCall (h : s.Free) (t : Nat) (p : OutputPost) :
    (run step s (postCall t p)).Free ∧
    (run step s (postCall t p)).worker = s.worker ∧
    (run step s (postCall t p)).takes = s.takes ∧
    (run step s (postCall t p)).log = s.log ++ [p] := by
  have hidle := h.idle t
  have hcallers : ∀ u, update s.callers t .idle u = .idle := by
    intro u
    by_cases hu : u = t
    · rw [hu, update_self]
    · rw [update_of_ne hu]
      exact h.idle u
  refine ⟨⟨fun u => ?_, ?_, ?_⟩, ?_, ?_, ?_⟩
  · simpa [postCall, List.replicate, step, stepCaller, setCaller, hidle, h.writer,
      h.sleeping, OutputState.kWords, Notifier.after] using hcallers u
  all_goals simp [postCall, List.replicate, step, stepCaller, setCaller, hidle,
    h.writer, h.sleeping, OutputState.kWords, Notifier.after]

/-- The same post, again and again. -/
def postCalls (t n : Nat) (p : OutputPost) : List Action := (List.replicate n (postCall t p)).flatten

theorem Free.run_postCalls (h : s.Free) (t n : Nat) (p : OutputPost) :
    (run step s (postCalls t n p)).Free ∧
    (run step s (postCalls t n p)).worker = s.worker ∧
    (run step s (postCalls t n p)).takes = s.takes ∧
    (run step s (postCalls t n p)).log = s.log ++ List.replicate n p := by
  induction n generalizing s with
  | zero => exact ⟨h, rfl, rfl, (List.append_nil _).symm⟩
  | succ n ih =>
    have hcalls : postCalls t (n + 1) p = postCall t p ++ postCalls t n p := by
      simp only [postCalls, List.replicate_succ, List.flatten_cons]
    obtain ⟨hfree, hworker, htakes, hlog⟩ := h.run_postCall t p
    obtain ⟨hfree', hworker', htakes', hlog'⟩ := ih hfree
    rw [hcalls, run_append]
    refine ⟨hfree', hworker'.trans hworker, htakes'.trans htakes, ?_⟩
    rw [hlog', hlog, List.append_assoc, List.replicate_succ]
    rfl

theorem Locked.run (h : s.Locked) (acts : List Action) : (run OutputWorker.step s acts).Locked :=
  run_inv (I := Locked) (fun _ a hs => hs.step a) h acts

theorem Locked.closed_of_free (h : s.Locked) (hfree : s.Free) : s.Closed :=
  h.closed fun t => by rw [hfree.idle t]; exact id

theorem grey_stateAfter {posts : List OutputPost} (h : ∀ p ∈ posts, ∃ c, p = .lightbar c c c) :
    (stateAfter posts).r = (stateAfter posts).b := by
  induction posts using List.reverseRecOn with
  | nil => rfl
  | append_singleton posts p =>
    obtain ⟨c, rfl⟩ := h p (List.mem_append_right _ (List.mem_singleton_self p))
    rw [stateAfter_concat]
    rfl

/-- The worker finishes a copy of which it has the first word, under a generation that has come
round to the one it noted. -/
theorem run_stale_copy {kinds : UInt32} {copy : Copy OutputState.Word}
    (hworker : s.worker = .copying kinds copy) (hnext : copy.next = 1)
    (hcycle : s.cell.gen % 2 ^ 32 = copy.before % 2 ^ 32) :
    ∃ e : Take, (run step s (workerTurns 5)).takes = s.takes ++ [e] ∧
      (run step s (workerTurns 5)).log = s.log ∧
      e.taken.state.r = copy.words 0 6 ∧ e.taken.state.b = s.cell.words 1 0 := by
  obtain ⟨before, words, next⟩ := copy
  obtain rfl : next = 1 := hnext
  have hresidue : s.cell.gen % 4294967296 = before % 4294967296 := hcycle
  refine ⟨⟨⟨kinds, .ofWords (update (update (update (update
    words 1 (s.cell.words 1)) 2 (s.cell.words 2)) 3 (s.cell.words 3)) 4 (s.cell.words 4))⟩,
    before / 2⟩, ?_, ?_, ?_, ?_⟩
  · simp [workerTurns, List.replicate, step, stepWorker, hworker, Copy.load,
      OutputState.kWords, hresidue]
  · simp [workerTurns, List.replicate, step, stepWorker, hworker, Copy.load,
      OutputState.kWords, hresidue]
  · rfl
  · rfl

theorem run_workerTurns (s : OutputWorker) (n : Nat) :
    (run step s (workerTurns n)).callers = s.callers ∧
    (run step s (workerTurns n)).writer = s.writer := by
  induction n generalizing s with
  | zero => exact ⟨rfl, rfl⟩
  | succ n ih =>
    obtain ⟨hcallers, hwriter, -⟩ := s.stepWorker_frame allTaken
    obtain ⟨hrest, hrest'⟩ := ih (s.stepWorker allTaken)
    exact ⟨hrest.trans hcallers, hrest'.trans hwriter⟩

/-- A take that sleeps through posts whose count the generation cannot tell from none. -/
theorem mixed_take {n : Nat} (hn : 0 < n) (hcycle : (2 + 2 * n) % 2 ^ 32 = 2 % 2 ^ 32) :
    ∃ acts, ∃ s : OutputWorker, s = run step (started .none) acts ∧
      ∃ e ∈ s.takes, ∀ m, e.taken.state ≠ stateAfter (s.log.take m) := by
  -- a first post, and the worker in its take, the first word copied
  obtain ⟨start, hstart⟩ : ∃ s, s = run step (started .none)
    (postCall 0 (.lightbar 0 0 0) ++ workerTurns 8) := ⟨_, rfl⟩
  have hlock : start.Locked := hstart ▸ (locked_started .none).run _
  have hposted := (Free.run_postCall (s := started .none) ⟨fun _ => rfl, rfl, rfl⟩ 0
    (.lightbar 0 0 0)).1
  have hfree : start.Free := by
    rw [hstart, run_append]
    obtain ⟨hcallers, hwriter⟩ := run_workerTurns
      (run step (started .none) (postCall 0 (.lightbar 0 0 0))) 8
    exact ⟨fun t => by rw [hcallers]; exact hposted.idle t, hwriter.trans hposted.writer, rfl⟩
  obtain ⟨kinds, copy, hcopying, hnext, hbefore, hblack⟩ : ∃ kinds copy,
      start.worker = .copying kinds copy ∧ copy.next = 1 ∧ copy.before = 2 ∧
      copy.words 0 6 = 0 := by
    rw [hstart]
    exact ⟨_, _, rfl, rfl, rfl, rfl⟩
  have hlog : start.log = [.lightbar 0 0 0] := by rw [hstart]; rfl
  -- white again and again, until the generation is the one noted
  obtain ⟨hfree', hworker', -, hlog'⟩ := hfree.run_postCalls 0 n (.lightbar 1 1 1)
  have hclosed := (hlock.run (postCalls 0 n (.lightbar 1 1 1))).closed_of_free hfree'
  obtain ⟨e, htakes, hlogged, hr, hb⟩ := run_stale_copy (hworker'.trans hcopying) hnext (by
    rw [hclosed.gen, hlog', hlog, hbefore, List.length_append, List.length_replicate,
      List.length_singleton, ← hcycle, Nat.mul_add])
  refine ⟨(postCall 0 (.lightbar 0 0 0) ++ workerTurns 8) ++ (postCalls 0 n (.lightbar 1 1 1) ++
    workerTurns 5), _, rfl, e, ?_, fun m hmixed => ?_⟩
  · rw [run_append, ← hstart, run_append, htakes]
    exact List.mem_append_right _ (List.mem_singleton_self e)
  · -- every record the posts made is a grey, and this one is not
    rw [run_append, ← hstart, run_append, hlogged, hlog', hlog] at hmixed
    have hgreys : ∀ p ∈ ([OutputPost.lightbar 0 0 0] ++
        List.replicate n (OutputPost.lightbar 1 1 1)).take m,
        ∃ c, p = .lightbar c c c := by
      intro p hp
      rcases List.mem_append.mp (List.mem_of_mem_take hp) with hp | hp
      · exact ⟨0, List.mem_singleton.mp hp⟩
      · exact ⟨1, List.eq_of_mem_replicate hp⟩
    have hgrey := grey_stateAfter hgreys
    have hwhite : (stateAfter ([.lightbar 0 0 0] ++ List.replicate n (.lightbar 1 1 1))).b = 1 := by
      obtain ⟨n, rfl⟩ : ∃ k, n = k + 1 := ⟨n - 1, by omega⟩
      rw [List.replicate_succ', ← List.append_assoc, stateAfter_concat]
      rfl
    rw [← hmixed, hr, hb, hblack] at hgrey
    have hword : (ofWords (run step start
      (postCalls 0 n (.lightbar 1 1 1))).cell.words).b = 1 := by
        rw [hclosed.state, hlog', hlog]
        exact hwhite
    exact absurd (hgrey.trans hword) (by decide)

theorem exited_stays {more : List Action} (hexited : s.worker = .exited) :
    (run step s more).takes = s.takes := by
  refine (run_inv (I := fun s' : OutputWorker => s'.worker = .exited ∧ s'.takes = s.takes)
    (fun s' a hs => ?_) ⟨hexited, rfl⟩ more).2
  refine step_cases (Q := fun s'' => s''.worker = .exited ∧ s''.takes = s.takes) hs
    (fun _ _ _ _ => hs) (fun t => ?_) (fun accepts => ?_) a
  · rw [(s'.stepCaller_frame t).1, (s'.stepCaller_frame t).2]
    exact hs
  · unfold stepWorker
    rw [hs.1]
    exact hs

/-- A turn of the loop that finds a write open puts everything back. -/
theorem run_spin (hworker : s.worker = .checking) (hstopping : s.stopping = false)
    (hsleeping : s.sleeping = false) (hpending : s.pending ≠ 0) (hodd : s.cell.gen % 2 = 1) :
    run step s (workerTurns 8) = s ∧
    Along step (fun s a => (s.step a).takes = s.takes ∧
      (s.step a).stopping = s.stopping) s (workerTurns 8) ∧
    cost step turn s (workerTurns 8) = 8 := by
  cases s
  refine ⟨?_, ?_, ?_⟩
  · simp_all [workerTurns, List.replicate, step, stepWorker]
  · simp_all [workerTurns, List.replicate, step, stepWorker]
  · simp_all [workerTurns, List.replicate, step, stepWorker, cost, turn]

/-- Past these limits a take is a mix or a post is never covered.  A worker that sleeps in a take
through `2 ^ 31` posts finds the generation it noted and returns the words of two records.  A post
that is marked when `stop` is called may never be taken.  And for as long as a write is open the
worker makes turn after turn without a take. -/
theorem delivery_limits :
    (∃ acts, ∃ s : OutputWorker, s = run step (started .none) acts ∧
      ∃ e ∈ s.takes, ∀ m, e.taken.state ≠ stateAfter (s.log.take m)) ∧
    (∃ acts, (run step (started .none) acts).log = [.rumble 0 0 0] ∧
      (run step (started .none) acts).pending = OutputKind.rumble.bit ∧
      ∀ more, (run step (started .none) (acts ++ more)).takes = []) ∧
    ∃ acts, (run step (started .none) acts).log = [.rumble 0 0 0] ∧
      (run step (started .none) acts).pending = OutputKind.rumble.bit ∧
      ∀ n, ∃ more, n ≤ cost step turn (run step (started .none) acts) more ∧
        (run step (started .none) (acts ++ more)).stopping = false ∧
        (run step (started .none) (acts ++ more)).takes = [] := by
  refine ⟨mixed_take (n := 2 ^ 31) (by omega) (by omega), ?_, ?_⟩
  · refine ⟨postCall 0 (.rumble 0 0 0) ++ [.stop 0, .caller 0, .worker allTaken], rfl, rfl,
      fun more => ?_⟩
    rw [run_append]
    exact exited_stays rfl
  · -- a second post stays in its open write
    refine ⟨postCall 0 (.rumble 0 0 0) ++ .post 0 (.rumble 1 1 0) :: List.replicate 7 (.caller 0),
      rfl, rfl, fun n => ?_⟩
    obtain ⟨s, hs⟩ : ∃ s, s = run step (started .none) (postCall 0 (.rumble 0 0 0) ++
      .post 0 (.rumble 1 1 0) :: List.replicate 7 (.caller 0)) := ⟨_, rfl⟩
    obtain ⟨hback, hquiet, hcost⟩ := run_spin (s := s) (by rw [hs]; rfl) (by rw [hs]; rfl)
      (by rw [hs]; rfl) (by rw [hs]; decide) (by rw [hs]; rfl)
    have hpositive : 0 < cost step turn s (workerTurns 8) := by omega
    obtain ⟨more, hmore, hn⟩ := cost_unbounded (workerTurns 8) hquiet hback hpositive n
    have hkept := run_keeps (I := fun s : OutputWorker => s.takes = [] ∧ s.stopping = false)
      (fun s a hs ha => ⟨ha.1.trans hs.1, ha.2.trans hs.2⟩) (by rw [hs]; exact ⟨rfl, rfl⟩) hmore
    refine ⟨more, by rw [← hs]; exact hn, ?_, ?_⟩
    · rw [run_append, ← hs]
      exact hkept.2
    · rw [run_append, ← hs]
      exact hkept.1

/-- The theorem at one post, its thread gone and the worker on its own. -/
theorem posts_delivered_rumble :
    (run step (started .dualSense)
      (postCall 0 (.rumble 7 9 0) ++ workerTurns 22)).Covered 0 (.rumble 7 9 0) := by
  have hposted := Free.run_postCall (s := started .dualSense) ⟨fun _ => rfl, rfl, rfl⟩ 0
    (.rumble 7 9 0)
  refine (posts_delivered .dualSense (postCall 0 (.rumble 7 9 0)) (workerTurns 22) ?_).2.2 0 _ rfl
    ?_ (.inr ⟨⟨hposted.1.idle, rfl⟩, ?_, by decide⟩)
  · decide +kernel
  · rintro ⟨-, t, ht⟩
    rw [hposted.1.idle t] at ht
    cases ht
  · intro a ha
    rw [List.eq_of_mem_replicate ha]
    rfl

end OutputWorker

end Dish
