/-
What a take of the mailbox returns.

Two invariants, each over every step of every thread.

  * One thread at a time is inside a post, and between posts the words are the record the posts
    made so far (`Locked`).
  * What the worker copies under one generation is that record, so that every take is of the posts
    that were closed when it began (`Copies`).
-/
import Dish.Usb.OutputWorker

namespace Dish

open Seqlock Function OutputState

/-! ### Inside a post -/

/-- The thread holds the writer flag. -/
def Caller.Inside : Caller → Prop
  | .loading .. | .storing .. | .marking _ | .freeing => True
  | _ => False

/-- The thread has a write open. -/
def Caller.Open : Caller → Prop
  | .storing .. => True
  | _ => False

theorem Caller.Open.inside {c : Caller} (h : c.Open) : c.Inside := by
  cases c <;> first | exact h.elim | trivial

theorem Notifier.not_inside_after (n : Notifier) : ¬ n.after.Inside := by
  cases n <;> exact id

namespace OutputWorker

variable {s : OutputWorker} {t : Nat} {c : Caller}

/-- What a thread inside a post has done so far. -/
def CallerOk (s : OutputWorker) : Caller → Prop
  | .loading _ words i => ∀ j, j < i → words j = s.cell.words j
  | .storing p next i =>
    s.cell.gen = 2 * s.log.length + 1 ∧ next = p.edit (stateAfter s.log) ∧
    ∀ j, j < i → s.cell.words j = next.word j
  | .marking p => s.log.getLast? = some p
  | _ => True

theorem callerOk_of_not_inside (h : ¬ c.Inside) : s.CallerOk c := by
  cases c <;> first | trivial | exact (h trivial).elim

/-- The words are the record the posts made. -/
structure Closed (s : OutputWorker) : Prop where
  gen : s.cell.gen = 2 * s.log.length
  state : ofWords s.cell.words = stateAfter s.log

structure Locked (s : OutputWorker) : Prop where
  alone : ∀ t u, (s.callers t).Inside → (s.callers u).Inside → t = u
  held : ∀ t, (s.callers t).Inside → s.writer = true
  callerOk : ∀ t, s.CallerOk (s.callers t)
  closed : (∀ t, ¬ (s.callers t).Open) → s.Closed

theorem Locked.closed_of_even (h : s.Locked) (heven : s.cell.gen % 2 = 0) : s.Closed := by
  refine h.closed fun t hopen => ?_
  have hok := h.callerOk t
  cases hc : s.callers t with
  | storing =>
    rw [hc] at hok
    have hgen := hok.1
    omega
  | _ => rw [hc] at hopen; exact hopen

theorem Locked.outside (h : s.Locked) (ht : ¬ (s.callers t).Inside) (hc : ¬ c.Inside)
    {s' : OutputWorker} (hcallers : s'.callers = update s.callers t c)
    (hwriter : s'.writer = s.writer) (hcell : s'.cell = s.cell)
    (hlog : s'.log = s.log) : s'.Locked := by
  -- who is inside is as it was
  have hsame : ∀ u, (s'.callers u).Inside → s'.callers u = s.callers u := by
    intro u hu
    rw [hcallers] at hu ⊢
    by_cases htu : u = t
    · subst htu
      rw [update_self] at hu
      exact (hc hu).elim
    · rw [update_of_ne htu]
  have hback : ∀ u, (s.callers u).Inside → s'.callers u = s.callers u := by
    intro u hu
    have htu : u ≠ t := fun htu => ht (htu ▸ hu)
    rw [hcallers, update_of_ne htu]
  have hok : ∀ d, s.CallerOk d → s'.CallerOk d := by
    intro d hd
    cases d <;> simp only [CallerOk, hcell, hlog] at hd ⊢ <;> exact hd
  refine ⟨?_, ?_, ?_, ?_⟩
  · intro u v hu hv
    exact h.alone u v (hsame u hu ▸ hu) (hsame v hv ▸ hv)
  · intro u hu
    rw [hwriter]
    exact h.held u (hsame u hu ▸ hu)
  · intro u
    by_cases hu : (s'.callers u).Inside
    · rw [hsame u hu]
      exact hok _ (h.callerOk u)
    · exact callerOk_of_not_inside hu
  · intro hopen
    have hclosed := h.closed fun u hu => hopen u (by rw [hback u hu.inside]; exact hu)
    exact ⟨by rw [hcell, hlog]; exact hclosed.gen, by rw [hcell, hlog]; exact hclosed.state⟩

/-- A move of the one thread that may be inside a post. -/
theorem Locked.only {s' : OutputWorker} (hothers : ∀ u, u ≠ t → ¬ (s.callers u).Inside)
    (hcallers : s'.callers = update s.callers t c)
    (hwriter : c.Inside → s'.writer = true) (hok : s'.CallerOk c) (hclosed : ¬ c.Open → s'.Closed) :
    s'.Locked := by
  have hself : s'.callers t = c := by rw [hcallers, update_self]
  have hrest : ∀ u, (s'.callers u).Inside → u = t := by
    intro u hu
    by_contra hne
    rw [hcallers, update_of_ne hne] at hu
    exact hothers u hne hu
  refine ⟨?_, ?_, ?_, ?_⟩
  · intro u v hu hv
    rw [hrest u hu, hrest v hv]
  · intro u hu
    obtain rfl := hrest u hu
    exact hwriter (hself ▸ hu)
  · intro u
    by_cases hu : (s'.callers u).Inside
    · obtain rfl := hrest u hu
      rw [hself]
      exact hok
    · exact callerOk_of_not_inside hu
  · intro hopen
    exact hclosed (hself ▸ hopen t)

theorem Locked.others (h : s.Locked) (ht : (s.callers t).Inside) :
    ∀ u, u ≠ t → ¬ (s.callers u).Inside :=
  fun u hne hu => hne (h.alone u t hu ht)

/-- While the thread inside has no write open, the words are the record. -/
theorem Locked.closed_of (h : s.Locked) (ht : (s.callers t).Inside) (hopen : ¬ (s.callers t).Open) :
    s.Closed := by
  refine h.closed fun u hu => ?_
  obtain rfl := h.alone u t hu.inside ht
  exact hopen hu

theorem locked_started (parser : HidParser) : (started parser).Locked :=
  ⟨fun _ _ h => h.elim, fun _ h => h.elim, fun _ => trivial, fun _ => ⟨rfl, ofWords_word {}⟩⟩

theorem Locked.stepCaller (h : s.Locked) (t : Nat) : (s.stepCaller t).Locked := by
  have hok := h.callerOk t
  unfold OutputWorker.stepCaller
  cases hc : s.callers t with
  | idle => exact h
  | claiming =>
    cases hwriter : s.writer with
    | true =>
      exact h
    | false =>
      -- the flag is free, so nobody is inside
      have hnone : ∀ u, ¬ (s.callers u).Inside := fun u hu =>
        Bool.false_ne_true (hwriter.symm.trans (h.held u hu))
      have hclosed := h.closed fun u hu => hnone u hu.inside
      exact Locked.only (fun u _ => hnone u) rfl (fun _ => rfl)
        (fun j hj => absurd hj (Nat.not_lt_zero j)) (fun _ => ⟨hclosed.gen, hclosed.state⟩)
  | loading p words i =>
    have hinside : (s.callers t).Inside := by rw [hc]; trivial
    have hclosed := h.closed_of hinside (by rw [hc]; exact id)
    rw [hc] at hok
    by_cases hi : i < OutputState.kWords
    · simp only [hi, if_true]
      refine Locked.only (h.others hinside) rfl (fun _ => h.held t hinside) (fun j hj => ?_)
        (fun _ => ⟨hclosed.gen, hclosed.state⟩)
      show update words i (s.cell.words i) j = s.cell.words j
      by_cases hji : j = i
      · rw [hji, update_self]
      · rw [update_of_ne hji]
        exact hok j (by omega)
    · simp only [hi, if_false]
      have hwords : ofWords words = stateAfter s.log := by
        rw [← hclosed.state]
        exact ofWords_congr fun j hj => hok j (by omega)
      refine Locked.only (h.others hinside) rfl (fun _ => h.held t hinside)
        ⟨congrArg (· + 1) hclosed.gen, by rw [hwords]; rfl, fun j hj => absurd hj ?_⟩
        (fun hopen => (hopen trivial).elim)
      exact Nat.not_lt_zero j
  | storing p next i =>
    have hinside : (s.callers t).Inside := by rw [hc]; trivial
    rw [hc] at hok
    obtain ⟨hgen, hnext, hstored⟩ := hok
    by_cases hi : i < OutputState.kWords
    · simp only [hi, if_true]
      refine Locked.only (h.others hinside) rfl (fun _ => h.held t hinside)
        ⟨hgen, hnext, fun j hj => ?_⟩ (fun hopen => (hopen trivial).elim)
      show update s.cell.words i (next.word i) j = next.word j
      by_cases hji : j = i
      · rw [hji, update_self]
      · rw [update_of_ne hji]
        exact hstored j (by omega)
    · simp only [hi, if_false]
      refine Locked.only (h.others hinside) rfl (fun _ => h.held t hinside)
        List.getLast?_concat (fun _ => ⟨?_, ?_⟩)
      · show s.cell.gen + 1 = 2 * (s.log ++ [p]).length
        rw [List.length_append, List.length_singleton]
        omega
      · show ofWords s.cell.words = stateAfter (s.log ++ [p])
        rw [stateAfter_concat, ← hnext, ← ofWords_word next]
        exact ofWords_congr fun j hj => hstored j (by omega)
  | marking =>
    have hinside : (s.callers t).Inside := by rw [hc]; trivial
    have hclosed := h.closed_of hinside (by rw [hc]; exact id)
    exact Locked.only (h.others hinside) rfl (fun _ => h.held t hinside) trivial
      (fun _ => ⟨hclosed.gen, hclosed.state⟩)
  | freeing =>
    have hinside : (s.callers t).Inside := by rw [hc]; trivial
    have hclosed := h.closed_of hinside (by rw [hc]; exact id)
    exact Locked.only (h.others hinside) rfl (fun hin => hin.elim) trivial
      (fun _ => ⟨hclosed.gen, hclosed.state⟩)
  | stopping =>
    refine h.outside (by rw [hc]; exact id) ?_ rfl rfl rfl rfl
    cases s.stopping <;> exact id
  | looking n | waking n =>
    refine h.outside (by rw [hc]; exact id) ?_ rfl rfl rfl rfl
    cases s.sleeping
    · exact n.not_inside_after
    · exact id
  | releasing n => exact h.outside (by rw [hc]; exact id) n.not_inside_after rfl rfl rfl rfl
  | joining =>
    dsimp only
    split
    · exact h.outside (by rw [hc]; exact id) id rfl rfl rfl rfl
    · exact h

theorem stepWorker_frame (s : OutputWorker) (accepts : OutputKind → Bool) :
    (s.stepWorker accepts).callers = s.callers ∧ (s.stepWorker accepts).writer = s.writer ∧
    (s.stepWorker accepts).cell = s.cell ∧ (s.stepWorker accepts).log = s.log ∧
    (s.stepWorker accepts).stopping = s.stopping := by
  unfold stepWorker
  split
  case h_5 => split <;> exact ⟨rfl, rfl, rfl, rfl, rfl⟩
  case h_9 => split <;> [skip; split] <;> exact ⟨rfl, rfl, rfl, rfl, rfl⟩
  all_goals exact ⟨rfl, rfl, rfl, rfl, rfl⟩

theorem stepCaller_frame (s : OutputWorker) (t : Nat) :
    (s.stepCaller t).worker = s.worker ∧ (s.stepCaller t).takes = s.takes := by
  unfold stepCaller
  split
  case h_2 => split <;> exact ⟨rfl, rfl⟩
  case h_3 => split <;> exact ⟨rfl, rfl⟩
  case h_4 => split <;> exact ⟨rfl, rfl⟩
  case h_11 => split <;> exact ⟨rfl, rfl⟩
  all_goals exact ⟨rfl, rfl⟩

theorem Locked.stepWorker (h : s.Locked) (accepts : OutputKind → Bool) :
    (s.stepWorker accepts).Locked := by
  obtain ⟨hcallers, hwriter, hcell, hlog, -⟩ := s.stepWorker_frame accepts
  have hok : ∀ d, s.CallerOk d → (s.stepWorker accepts).CallerOk d := by
    intro d hd
    cases d <;> simp only [CallerOk, hcell, hlog] at hd ⊢ <;> exact hd
  refine ⟨?_, ?_, ?_, ?_⟩
  · rw [hcallers]
    exact h.alone
  · rw [hcallers, hwriter]
    exact h.held
  · intro t
    rw [hcallers]
    exact hok _ (h.callerOk t)
  · intro hopen
    rw [hcallers] at hopen
    have hclosed := h.closed hopen
    exact ⟨by rw [hcell, hlog]; exact hclosed.gen, by rw [hcell, hlog]; exact hclosed.state⟩

theorem step_cases {Q : OutputWorker → Prop} (hself : Q s)
    (hcall : ∀ t c, s.callers t = .idle → (c = .stopping ∨ ∃ p, c = .claiming p) →
      Q (s.setCaller t c))
    (hcaller : ∀ t, Q (s.stepCaller t)) (hworker : ∀ accepts, Q (s.stepWorker accepts))
    (a : Action) : Q (s.step a) := by
  cases a with
  | post t p =>
    simp only [step]
    split
    case h_1 hidle => exact hcall t _ hidle (.inr ⟨p, rfl⟩)
    case h_2 => exact hself
  | stop t =>
    simp only [step]
    split
    case h_1 hidle => exact hcall t _ hidle (.inl rfl)
    case h_2 => exact hself
  | caller t => exact hcaller t
  | worker accepts => exact hworker accepts

theorem Locked.step (h : s.Locked) (a : Action) : (s.step a).Locked := by
  refine step_cases h (fun t c hidle hc => ?_) h.stepCaller h.stepWorker a
  refine h.outside (by rw [hidle]; exact id) ?_ rfl rfl rfl rfl
  rcases hc with rfl | ⟨p, rfl⟩ <;> exact id

/-! ### What the worker copies -/

/-- The generation has not gone round its width since the worker noted it. -/
def InWidth (s : OutputWorker) : Prop :=
  match s.worker with
  | .copying _ copy => s.cell.gen < copy.before + 2 ^ 32
  | _ => True

instance (s : OutputWorker) : Decidable s.InWidth := by
  unfold InWidth
  split <;> infer_instance

structure Copies (s : OutputWorker) : Prop where
  copy : ∀ kinds copy, s.worker = .copying kinds copy → copy.Valid s.cell
  takes : ∀ e ∈ s.takes, e.posts ≤ s.log.length ∧ e.taken.state = stateAfter (s.log.take e.posts)

/-- A calling thread leaves the words alone, opens or closes a write, or stores a word of an open
one. -/
theorem Locked.stepCaller_cell (h : s.Locked) (t : Nat) :
    (s.stepCaller t).cell = s.cell ∧ (s.stepCaller t).log = s.log ∨
    (s.stepCaller t).cell = s.cell.bump ∧ (∃ more, (s.stepCaller t).log = s.log ++ more) ∨
    s.cell.gen % 2 = 1 ∧ (∃ i w, (s.stepCaller t).cell = s.cell.store i w) ∧
      (s.stepCaller t).log = s.log := by
  have hok := h.callerOk t
  unfold OutputWorker.stepCaller
  cases hc : s.callers t with
  | loading p words i =>
    by_cases hi : i < OutputState.kWords
    · simp only [hi, if_true]
      exact .inl ⟨rfl, rfl⟩
    · simp only [hi, if_false]
      exact .inr (.inl ⟨rfl, [], (List.append_nil _).symm⟩)
  | storing p next i =>
    rw [hc] at hok
    by_cases hi : i < OutputState.kWords
    · simp only [hi, if_true]
      have hodd : s.cell.gen % 2 = 1 := by have := hok.1; omega
      exact .inr (.inr ⟨hodd, ⟨i, next.word i, rfl⟩, rfl⟩)
    · simp only [hi, if_false]
      exact .inr (.inl ⟨rfl, [p], rfl⟩)
  | claiming | joining => left; dsimp only; split <;> exact ⟨rfl, rfl⟩
  | _ => exact .inl ⟨rfl, rfl⟩

theorem Copies.stepCaller (h : s.Copies) (hlock : s.Locked) (t : Nat) :
    (s.stepCaller t).Copies := by
  obtain ⟨hworker, htakes⟩ := s.stepCaller_frame t
  have hcell := hlock.stepCaller_cell t
  refine ⟨fun kinds copy hcopy => ?_, fun e he => ?_⟩
  · have hvalid := h.copy kinds copy (hworker ▸ hcopy)
    rcases hcell with ⟨hc, -⟩ | ⟨hc, -⟩ | ⟨hodd, ⟨i, w, hc⟩, -⟩
    · rw [hc]
      exact hvalid
    · rw [hc]
      exact hvalid.bump
    · rw [hc]
      exact hvalid.store hodd i w
  · -- the log only grows, and a take is of the posts it began with
    have hlog : ∃ more, (s.stepCaller t).log = s.log ++ more := by
      rcases hcell with ⟨-, hl⟩ | ⟨-, hl⟩ | ⟨-, -, hl⟩
      · exact ⟨[], by rw [hl, List.append_nil]⟩
      · exact hl
      · exact ⟨[], by rw [hl, List.append_nil]⟩
    obtain ⟨more, hl⟩ := hlog
    obtain ⟨hle, hstate⟩ := h.takes e (htakes ▸ he)
    rw [hl, List.take_append_of_le_length hle, List.length_append]
    exact ⟨Nat.le_add_right_of_le hle, hstate⟩

theorem Copies.gen_of_same (h : s.Copies) (hwidth : s.InWidth) {kinds : UInt32}
    {copy : Copy OutputState.Word} (hworker : s.worker = .copying kinds copy)
    (hsame : s.cell.gen % 2 ^ 32 = copy.before % 2 ^ 32) : s.cell.gen = copy.before := by
  have hlt : s.cell.gen < copy.before + 2 ^ 32 := by
    unfold InWidth at hwidth
    rw [hworker] at hwidth
    exact hwidth
  exact eq_of_mod_eq (h.copy kinds copy hworker).le hlt hsame

/-- A copy that ends under the generation it began with is the record after the posts so far. -/
theorem Copies.copied (h : s.Copies) (hlock : s.Locked) (hwidth : s.InWidth) {kinds : UInt32}
    {copy : Copy OutputState.Word} (hworker : s.worker = .copying kinds copy)
    (hnext : ¬ copy.next < OutputState.kWords)
    (hsame : s.cell.gen % 2 ^ 32 = copy.before % 2 ^ 32) :
    copy.before = 2 * s.log.length ∧ ofWords copy.words = stateAfter s.log := by
  have hvalid := h.copy kinds copy hworker
  have hgen := h.gen_of_same hwidth hworker hsame
  have hclosed := hlock.closed_of_even (hgen ▸ hvalid.even)
  refine ⟨hgen ▸ hclosed.gen, ?_⟩
  rw [← hclosed.state]
  exact ofWords_congr fun i hi => hvalid.agrees hgen i (by omega)

theorem Copies.stepWorker (h : s.Copies) (hlock : s.Locked) (hwidth : s.InWidth)
    (accepts : OutputKind → Bool) : (s.stepWorker accepts).Copies := by
  unfold OutputWorker.stepWorker
  cases hw : s.worker with
  | noting =>
    refine ⟨fun k copy hcopy => ?_, h.takes⟩
    by_cases hodd : s.cell.gen % 2 ^ 32 % 2 ≠ 0
    · simp only [hodd, if_true, ne_eq, not_false_eq_true] at hcopy
      cases hcopy
    · have heven : s.cell.gen % 2 = 0 := by omega
      simp only [hodd, if_false] at hcopy
      cases hcopy
      exact Copy.valid_start heven
  | copying kinds copy =>
    have hvalid := h.copy kinds copy hw
    by_cases hnext : copy.next < OutputState.kWords
    · simp only [hnext, if_true]
      refine ⟨fun k c hcopy => ?_, h.takes⟩
      cases hcopy
      exact hvalid.load
    · by_cases hsame : s.cell.gen % 2 ^ 32 = copy.before % 2 ^ 32
      · simp only [hnext, hsame, if_true, if_false]
        refine ⟨fun k c hcopy => (by cases hcopy), fun e he => ?_⟩
        rcases List.mem_append.mp he with hold | hnew
        · exact h.takes e hold
        · obtain rfl := List.mem_singleton.mp hnew
          obtain ⟨hbefore, hstate⟩ := h.copied hlock hwidth hw hnext hsame
          have hposts : copy.before / 2 = s.log.length := by omega
          rw [hposts, List.take_length]
          exact ⟨Nat.le_refl _, hstate⟩
      · simp only [hnext, hsame, if_false]
        exact ⟨fun k c hcopy => (by cases hcopy), h.takes⟩
  | acquiring =>
    dsimp only
    split
    · exact h
    · exact ⟨fun k c hcopy => (by cases hcopy), h.takes⟩
  | exited => exact h
  | checking | askingStop | askingPending | taking =>
    refine ⟨fun k c hcopy => ?_, h.takes⟩
    dsimp only at hcopy
    split at hcopy <;> cases hcopy
  | announcing | rising | restoring | writing =>
    exact ⟨fun k c hcopy => (by cases hcopy), h.takes⟩

end OutputWorker

end Dish
