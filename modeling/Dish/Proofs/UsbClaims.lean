/-
No USB claim is leaked and none is made twice.

`applyEvent_unfold` says that the bounded interpreter is the recursion of the source: three levels
of nesting are all there ever are.  The rest is one invariant, the `Ledger`: which claims the
gateway has open, which controller each belongs to, and which workers run.  Between two steps of
one event the accounts can be off by a single claim, one just answered and not yet written to its
controller or one whose controller has let go and which is about to be released.  The ledger
carries that claim as `pending`; every event starts and ends with none.
-/
import Dish.Usb.UsbGamepadManager
import Dish.Proofs.UsbPath

namespace Dish

open UsbController

variable {effects : List UsbEffect}

/-! ### The nesting of events -/

/-- How many levels of events an event can make, itself included. -/
def UsbEvent.nesting : UsbEvent → Nat
  | .claimSucceeded _ | .claimFailed _ _ => 1
  | .permissionGranted => 2
  | _ => 3

/-- How many levels of events carrying out an effect can make. -/
def UsbEffect.nesting : UsbEffect → Nat
  | .claim | .reclaim => 1
  | .requestPermission => 2
  | _ => 0

theorem UsbEffect.nesting_of_quiet {fx : UsbEffect} (quiet : fx.isQuiet) : fx.nesting = 0 := by
  cases fx <;> first | rfl | simp [UsbEffect.isQuiet] at quiet

theorem UsbEvent.nesting_pos (event : UsbEvent) : 0 < event.nesting := by
  cases event <;> simp [UsbEvent.nesting]

namespace UsbController

variable {fx : UsbEffect}

theorem nesting_dropPlaceholder (c : UsbController) : c.dropPlaceholder.nesting = 0 := by
  unfold dropPlaceholder
  cases c.syntheticId <;> rfl

theorem nesting_removePlaceholder {c : UsbController} (h : fx ∈ c.removePlaceholder) :
    fx.nesting = 0 := by
  unfold removePlaceholder at h
  cases held : c.syntheticId <;> simp [held] at h
  rw [h]
  rfl

theorem nesting_unplug {c : UsbController} (h : fx ∈ c.unplug.effects) : fx.nesting = 0 := by
  simp only [unplug, List.mem_append] at h
  rcases h with h | h
  · exact nesting_removePlaceholder h
  · unfold endHoldOnUnplug at h
    cases phase : c.phase <;> simp [phase] at h <;> rw [h] <;> rfl

/-- A move nests no event, unless it asks for something: for permission or for a claim. -/
theorem Moves.flat {c : UsbController} {event : UsbEvent} {next : Option UsbController}
    (moves : c.Moves event next effects) :
    (∀ fx ∈ effects, fx.nesting = 0) ∨
    (event = .choose .direct true ∧ c.phase = .routed ∧ effects = [.requestPermission] ∧
      ∃ n, next = some n ∧ n.phase = .routed) ∨
    ((event = .permissionGranted ∨ ∃ u, event = .choose .direct u) ∧ c.phase = .routed ∧
      effects = [.clearFailure, .beginHold, .claim] ∧ ∃ n, next = some n ∧ n.phase = .claiming) ∨
    ((∃ u, event = .choose .direct u) ∧ effects = [.reclaim] ∧
      ∃ n, next = some n ∧ n.phase = .restoreStuck) := by
  have quietly : ∀ {effects : List UsbEffect}, (∀ fx ∈ effects, fx.isQuiet) →
      ∀ fx ∈ effects, fx.nesting = 0 := fun quiet fx h => UsbEffect.nesting_of_quiet (quiet fx h)
  cases moves with
  | asks n was phase => exact .inr (.inl ⟨rfl, was, rfl, n, rfl, phase⟩)
  | claims event n wants was phase => exact .inr (.inr (.inl ⟨wants, was, rfl, n, rfl, phase⟩))
  | reclaims user n was phase => exact .inr (.inr (.inr ⟨⟨user, rfl⟩, rfl, n, rfl, phase⟩))
  | stays event n effects phase syn quiet | drops n effects was held phase syn quiet
  | reclaimed id n effects was phase syn quiet
  | reclaimFails reason taken n effects was phase syn quiet
  | replugged id n effects was phase syn quiet => exact .inl (quietly quiet)
  | loses | stolen | claimed | released | sticks | waits => exact .inl (by simp [UsbEffect.nesting])
  | refused reason taken n rest was phase syn quiet =>
    exact .inl (List.forall_mem_cons.mpr ⟨rfl, quietly quiet⟩)
  | settled event n rest gives was phase syn quiet =>
    refine .inl (List.forall_mem_cons.mpr ⟨rfl, List.forall_mem_append.mpr ⟨?_, quietly quiet⟩⟩)
    exact fun fx h => nesting_removePlaceholder h
  | returned id n rest was phase syn quiet =>
    exact .inl (List.forall_mem_cons.mpr ⟨c.nesting_dropPlaceholder, quietly quiet⟩)
  | unstuck =>
    refine .inl (List.forall_mem_cons.mpr ⟨c.nesting_dropPlaceholder, ?_⟩)
    simp [UsbEffect.nesting]
  | unplugged => exact .inl fun fx h => nesting_unplug h

theorem Moves.nesting_lt {c : UsbController} {event : UsbEvent} {next : Option UsbController}
    (moves : c.Moves event next effects) (h : fx ∈ effects) :
    fx.nesting < event.nesting := by
  rcases moves.flat with flat | ⟨rfl, -, rfl, -⟩ | ⟨rfl | ⟨u, rfl⟩, -, rfl, -⟩ | ⟨⟨u, rfl⟩, rfl, -⟩
  · rw [flat fx h]
    exact event.nesting_pos
  all_goals
    simp only [List.mem_cons, List.not_mem_nil, or_false] at h
    rcases h with rfl | rfl | rfl <;> simp [UsbEvent.nesting, UsbEffect.nesting]

end UsbController

namespace UsbManager

variable {fx : UsbEffect} {event : UsbEvent} {m m' : UsbManager} {pending : Option Int}
  {key id : Int} {next : Option UsbController} {n : UsbController}

section
variable {f g : UsbManager → Int → UsbEvent → UsbManager}

/-- Carrying out an effect asks `nested` only about events of the effect's nesting. -/
theorem execute_congr
    (same : ∀ event : UsbEvent, event.nesting ≤ fx.nesting → ∀ m key, f m key event = g m key event)
    (key : Int) (c : UsbController) (m : UsbManager) :
    execute f key c m fx = execute g key c m fx := by
  cases fx with
  | claim | reclaim =>
    simp only [execute, runClaim, runReclaim]
    cases (m.claimTracked key).1 with
    | success id => exact same (.claimSucceeded id) (Nat.le_refl 1) _ _
    | fail reason stolen => exact same (.claimFailed reason stolen) (Nat.le_refl 1) _ _
  | requestPermission => exact same .permissionGranted (by decide) m key
  | _ => rfl

theorem applyEventWith_congr
    (same : ∀ e : UsbEvent, e.nesting < event.nesting → ∀ m key, f m key e = g m key e)
    (m : UsbManager) (key : Int) : applyEventWith f m key event = applyEventWith g m key event := by
  unfold applyEventWith
  cases m.controllers.lookup key with
  | none => rfl
  | some cur =>
    dsimp only
    congr 1
    refine List.foldl_ext _ _ _ fun m' fx mem => ?_
    refine execute_congr (fun e small => ?_) key _ m'
    exact same e (Nat.lt_of_le_of_lt small ((cur.reduce_moves event).nesting_lt mem))

end

theorem applyEventUpTo_succ (depth : Nat) :
    ∀ (event : UsbEvent), event.nesting ≤ depth → ∀ m key,
      applyEventUpTo depth m key event = applyEventUpTo (depth + 1) m key event := by
  induction depth with
  | zero => exact fun event none => absurd none (Nat.not_le.mpr event.nesting_pos)
  | succ depth ih =>
    intro event bound m key
    refine applyEventWith_congr (fun e small => ?_) m key
    exact ih e (Nat.le_of_lt_succ (Nat.lt_of_lt_of_le small bound))

/-- **The interpreter is the source's recursion**: what an event does is one layer of `execute` whose
nested events are events of the same interpreter. -/
theorem applyEvent_unfold (m : UsbManager) (key : Int) (event : UsbEvent) :
    m.applyEvent key event = applyEventWith applyEvent m key event := by
  refine applyEventUpTo_succ 3 event ?_ m key
  cases event <;> simp [UsbEvent.nesting]

/-! ### The ledger -/

/-- The id a controller streams through. -/
def streamId (c : UsbController) : Option Int :=
  if c.phase = .direct then c.syntheticId else none

/-- Some controller streams through the id. -/
def StreamsOn (m : UsbManager) (id : Int) : Prop :=
  ∃ key c, m.controllers.lookup key = some c ∧ streamId c = some id

/-- The gateway has given the id out. -/
def Issued (m : UsbManager) (id : Int) : Prop :=
  ∃ g, m.gateway = some g ∧ ∃ n < m.claimsAsked, g.syntheticIds n = id

/-- The accounts of the claims, off by `pending`. -/
structure Ledger (pending : Option Int) (m : UsbManager) : Prop where
  direct : ∀ {key c}, m.controllers.lookup key = some c → c.phase = .direct → c.syntheticId.isSome
  open_iff : ∀ id, id ∈ m.openClaims ↔ pending = some id ∨ m.StreamsOn id
  nodup : m.openClaims.Nodup
  apart : ∀ {id k₁ k₂ c₁ c₂}, m.controllers.lookup k₁ = some c₁ →
    m.controllers.lookup k₂ = some c₂ → c₁.syntheticId = some id → c₂.syntheticId = some id →
    k₁ = k₂
  held : ∀ {id key c}, m.controllers.lookup key = some c → c.syntheticId = some id → m.Issued id
  model : ∀ {id key c}, m.controllers.lookup key = some c → c.syntheticId = some id →
    m.claimedFor id = some key
  pending_issued : ∀ {id}, pending = some id → m.Issued id
  worker : ∀ id, id ∈ m.workers ↔ id ∈ m.openClaims
  thread : ∀ id, m.threads.count id = if id ∈ m.openClaims then 1 else 0

/-- The fields the ledger speaks about are the same. -/
structure SameBooks (m m' : UsbManager) : Prop where
  gateway : m'.gateway = m.gateway
  controllers : m'.controllers = m.controllers
  workers : m'.workers = m.workers
  threads : m'.threads = m.threads
  claimsAsked : m'.claimsAsked = m.claimsAsked
  openClaims : m'.openClaims = m.openClaims
  claimedFor : m'.claimedFor = m.claimedFor

theorem SameBooks.refl (m : UsbManager) : SameBooks m m := ⟨rfl, rfl, rfl, rfl, rfl, rfl, rfl⟩

theorem SameBooks.trans {m'' : UsbManager} (a : SameBooks m m') (b : SameBooks m' m'') :
    SameBooks m m'' :=
  ⟨b.gateway.trans a.gateway, b.controllers.trans a.controllers, b.workers.trans a.workers,
    b.threads.trans a.threads, b.claimsAsked.trans a.claimsAsked, b.openClaims.trans a.openClaims,
    b.claimedFor.trans a.claimedFor⟩

theorem Ledger.of_same (books : Ledger pending m) (same : SameBooks m m') : Ledger pending m' := by
  obtain ⟨g, c, w, t, n, o, f⟩ := same
  constructor
  · intro key c'
    rw [c]
    exact books.direct
  · intro id
    simp only [StreamsOn, o, c]
    exact books.open_iff id
  · rw [o]
    exact books.nodup
  · intro id k₁ k₂ c₁ c₂
    rw [c]
    exact books.apart
  · intro id key c'
    simp only [Issued, c, g, n]
    exact books.held
  · intro id key c'
    rw [c, f]
    exact books.model
  · intro id
    simp only [Issued, g, n]
    exact books.pending_issued
  · intro id
    rw [w, o]
    exact books.worker id
  · intro id
    rw [t, o]
    exact books.thread id

theorem sameBooks_tell (m : UsbManager) (call : UsbObserverCall) : SameBooks m (m.tell call) := by
  unfold tell
  split
  · exact ⟨rfl, rfl, rfl, rfl, rfl, rfl, rfl⟩
  · exact .refl m

theorem sameBooks_setChoice (m : UsbManager) (vendorId productId : Int) (choice : PathChoice) :
    SameBooks m (m.setChoice vendorId productId choice) := ⟨rfl, rfl, rfl, rfl, rfl, rfl, rfl⟩

theorem sameBooks_bindCarried (m : UsbManager) (c : UsbController) (deviceId : Int) :
    SameBooks m (m.bindCarried c deviceId) := by
  unfold bindCarried
  cases c.connId with
  | none => exact .refl m
  | some connId => exact sameBooks_tell m _

/-- The effects that reach neither the gateway nor a worker, and nest no event. -/
def Bookless : UsbEffect → Prop
  | .claim | .reclaim | .release | .requestPermission | .removeSynthetic _ => False
  | _ => True

theorem Bookless.of_quiet (quiet : fx.isQuiet) : Bookless fx := by
  cases fx <;> trivial

section
variable (nested : UsbManager → Int → UsbEvent → UsbManager) (key : Int) (c : UsbController)

theorem sameBooks_execute (m : UsbManager) (bookless : Bookless fx) :
    SameBooks m (execute nested key c m fx) := by
  cases fx with
  | claim | reclaim | release | requestPermission | removeSynthetic => exact bookless.elim
  | bindFramework id => exact sameBooks_bindCarried m c id
  | startTimeout => exact .refl m
  | setPref => exact sameBooks_setChoice m _ _ _
  | markFailure reason =>
    have noted : SameBooks m { m with priorFailures := m.priorFailures.insert key reason } :=
      ⟨rfl, rfl, rfl, rfl, rfl, rfl, rfl⟩
    exact noted.trans (sameBooks_tell _ _)
  | clearFailure =>
    have cleared : SameBooks m { m with priorFailures := m.priorFailures.erase key } :=
      ⟨rfl, rfl, rfl, rfl, rfl, rfl, rfl⟩
    exact cleared.trans (sameBooks_tell _ _)
  | beginHold | endHold | markNeedsReplug | markRestoreStuck | clearRestoreStuck | notify =>
    exact sameBooks_tell m _

theorem sameBooks_effects (effects : List UsbEffect) (bookless : ∀ fx ∈ effects, Bookless fx)
    (m : UsbManager) : SameBooks m (effects.foldl (execute nested key c) m) :=
  List.foldlRecOn (motive := SameBooks m) effects _ (.refl m) fun m' same fx mem =>
    same.trans (sameBooks_execute nested key c m' (bookless fx mem))

end

/-! ### Storing a controller -/

@[simp] theorem lookup_store_self (m : UsbManager) (key : Int) (next : Option UsbController) :
    (m.store key next).controllers.lookup key = next := by
  cases next with
  | none => exact AList.lookup_erase ..
  | some n => exact AList.lookup_insert ..

theorem lookup_store_ne (m : UsbManager) {other : Int} (ne : other ≠ key)
    (next : Option UsbController) :
    (m.store key next).controllers.lookup other = m.controllers.lookup other := by
  cases next with
  | none => exact AList.lookup_erase_ne ne
  | some n => exact AList.lookup_insert_ne ne

theorem lookup_store {other : Int} {c : UsbController}
    (h : (m.store key next).controllers.lookup other = some c) :
    (other = key ∧ next = some c) ∨ (other ≠ key ∧ m.controllers.lookup other = some c) := by
  by_cases same : other = key
  · subst same
    rw [lookup_store_self] at h
    exact .inl ⟨rfl, h⟩
  · rw [lookup_store_ne m same] at h
    exact .inr ⟨same, h⟩

theorem streamsOn_store :
    (m.store key next).StreamsOn id ↔
      next.bind streamId = some id ∨
        ∃ other c, other ≠ key ∧ m.controllers.lookup other = some c ∧ streamId c = some id := by
  constructor
  · rintro ⟨other, c, at', streams⟩
    rcases lookup_store at' with ⟨-, rfl⟩ | ⟨ne, there⟩
    · exact .inl streams
    · exact .inr ⟨other, c, ne, there, streams⟩
  · rintro (streams | ⟨other, c, ne, there, streams⟩)
    · cases next with
      | none => simp at streams
      | some n => exact ⟨key, n, lookup_store_self m key _, streams⟩
    · exact ⟨other, c, (lookup_store_ne m ne next).trans there, streams⟩

theorem streamsOn_split (key id : Int) :
    m.StreamsOn id ↔ (m.controllers.lookup key).bind streamId = some id ∨
      ∃ other c, other ≠ key ∧ m.controllers.lookup other = some c ∧ streamId c = some id := by
  constructor
  · rintro ⟨other, c, there, streams⟩
    by_cases same : other = key
    · subst same
      rw [there]
      exact .inl streams
    · exact .inr ⟨other, c, same, there, streams⟩
  · rintro (streams | ⟨other, c, -, there, streams⟩)
    · obtain ⟨c, there, streams⟩ := Option.bind_eq_some_iff.mp streams
      exact ⟨key, c, there, streams⟩
    · exact ⟨other, c, there, streams⟩

section
variable {c : UsbController}

theorem syntheticId_of_streamId (h : streamId c = some id) :
    c.syntheticId = some id := by
  unfold streamId at h
  split at h
  · exact h
  · simp at h

theorem streamId_of_direct (h : c.phase = .direct) :
    streamId c = c.syntheticId := if_pos h

theorem streamId_of_not_direct (h : c.phase ≠ .direct) : streamId c = none :=
  if_neg h

/-- The next controller holds no id the old one did not hold. -/
def HoldsOnly (c : UsbController) (next : Option UsbController) : Prop :=
  ∀ n id, next = some n → n.syntheticId = some id → c.syntheticId = some id

theorem HoldsOnly.of_same (syn : n.syntheticId = c.syntheticId) :
    HoldsOnly c (some n) := by
  rintro _ id ⟨⟩ held
  exact syn ▸ held

theorem HoldsOnly.of_none (syn : n.syntheticId = none) :
    HoldsOnly c (some n) := by
  rintro _ id ⟨⟩ held
  simp [syn] at held

end

/-- What of a controller the ledger has to hear about before it is stored: what it holds it holds
alone, and the claim it streams through and the pending one are those of before. -/
theorem Ledger.store {after : Option Int} (books : Ledger pending m)
    (direct : ∀ n, next = some n → n.phase = .direct → n.syntheticId.isSome)
    (streams : ∀ id, after = some id ∨ next.bind streamId = some id ↔
      pending = some id ∨ (m.controllers.lookup key).bind streamId = some id)
    (alone : ∀ n id, next = some n → n.syntheticId = some id →
      m.Issued id ∧ m.claimedFor id = some key ∧
        ∀ other c, m.controllers.lookup other = some c → c.syntheticId = some id → other = key)
    (issued : ∀ id, after = some id → m.Issued id) : Ledger after (m.store key next) where
  direct := by
    intro other c there phase
    rcases lookup_store there with ⟨-, is⟩ | ⟨-, was⟩
    · exact direct c is phase
    · exact books.direct was phase
  open_iff := by
    intro id
    rw [streamsOn_store, show (m.store key next).openClaims = m.openClaims from rfl,
      books.open_iff id, streamsOn_split key id, ← or_assoc, ← or_assoc, streams id]
  nodup := books.nodup
  apart := by
    intro id k₁ k₂ c₁ c₂ h₁ h₂ s₁ s₂
    rcases lookup_store h₁ with ⟨rfl, is₁⟩ | ⟨-, was₁⟩ <;>
      rcases lookup_store h₂ with ⟨rfl, is₂⟩ | ⟨-, was₂⟩
    · rfl
    · exact ((alone c₁ id is₁ s₁).2.2 k₂ c₂ was₂ s₂).symm
    · exact (alone c₂ id is₂ s₂).2.2 k₁ c₁ was₁ s₁
    · exact books.apart was₁ was₂ s₁ s₂
  held := by
    intro id other c there syn
    rcases lookup_store there with ⟨-, is⟩ | ⟨-, was⟩
    · exact (alone c id is syn).1
    · exact books.held was syn
  model := by
    intro id other c there syn
    rcases lookup_store there with ⟨rfl, is⟩ | ⟨-, was⟩
    · exact (alone c id is syn).2.1
    · exact books.model was syn
  pending_issued := fun {id} => issued id
  worker := books.worker
  thread := books.thread

theorem Ledger.alone_of_holds (books : Ledger pending m) {c : UsbController}
    (at' : m.controllers.lookup key = some c) (holds : HoldsOnly c next) (n : UsbController)
    (id : Int) (is : next = some n) (syn : n.syntheticId = some id) :
    m.Issued id ∧ m.claimedFor id = some key ∧
      ∀ other c, m.controllers.lookup other = some c → c.syntheticId = some id → other = key :=
  have held := holds n id is syn
  ⟨books.held at' held, books.model at' held, fun _ _ there syn' => books.apart there at' syn' held⟩

section
variable {c : UsbController} (books : Ledger none m) (at' : m.controllers.lookup key = some c)
include books at'

/-- The controller stops streaming, or goes: its claim is left pending. -/
theorem Ledger.store_leaves (idle : ∀ n, next = some n → n.phase ≠ .direct)
    (holds : HoldsOnly c next) : Ledger (streamId c) (m.store key next) := by
  refine books.store (fun n is phase => absurd phase (idle n is)) ?_
    (books.alone_of_holds at' holds) fun id streams => books.held at' (syntheticId_of_streamId streams)
  intro id
  have quiet : next.bind streamId ≠ some id := by
    cases next with
    | none => simp
    | some n => simp [streamId_of_not_direct (idle n rfl)]
  simp [quiet, at']

theorem Ledger.store_idle (was : c.phase ≠ .direct)
    (idle : ∀ n, next = some n → n.phase ≠ .direct) (holds : HoldsOnly c next) :
    Ledger none (m.store key next) :=
  streamId_of_not_direct was ▸ books.store_leaves at' idle holds

theorem Ledger.store_same (phase : n.phase = c.phase)
    (syn : n.syntheticId = c.syntheticId) : Ledger none (m.store key (some n)) := by
  refine books.store ?_ ?_ (books.alone_of_holds at' (.of_same syn)) (by simp)
  · rintro _ ⟨⟩ is
    rw [syn]
    exact books.direct at' (phase ▸ is)
  · simp [at', streamId, phase, syn]

end

/-- The pending claim, held by nobody, is the one the controller streams through now. -/
theorem Ledger.store_enters (books : Ledger (some id) m) {c : UsbController}
    (at' : m.controllers.lookup key = some c) (was : c.phase ≠ .direct)
    (phase : n.phase = .direct) (syn : n.syntheticId = some id)
    (model : m.claimedFor id = some key)
    (unheld : ∀ other c', m.controllers.lookup other = some c' → c'.syntheticId ≠ some id) :
    Ledger none (m.store key (some n)) := by
  refine books.store ?_ ?_ ?_ (by simp)
  · rintro _ ⟨⟩ -
    simp [syn]
  · simp [at', streamId_of_not_direct was, streamId_of_direct phase, syn]
  · rintro _ id' ⟨⟩ syn'
    obtain rfl : id = id' := Option.some.inj (syn.symm.trans syn')
    exact ⟨books.pending_issued rfl, model, fun other c' there held => absurd held (unheld other c' there)⟩

/-! ### Releasing and claiming -/

@[simp] theorem controllers_release (m : UsbManager) (id : Int) :
    (m.releaseClaimAndWorker id).controllers = m.controllers := by
  unfold releaseClaimAndWorker
  cases m.gateway <;> dsimp only <;> split <;> rfl

@[simp] theorem gateway_release (m : UsbManager) (id : Int) :
    (m.releaseClaimAndWorker id).gateway = m.gateway := by
  unfold releaseClaimAndWorker
  cases known : m.gateway <;> dsimp only <;> split <;> first | rfl | exact known

@[simp] theorem claimsAsked_release (m : UsbManager) (id : Int) :
    (m.releaseClaimAndWorker id).claimsAsked = m.claimsAsked := by
  unfold releaseClaimAndWorker
  cases m.gateway <;> dsimp only <;> split <;> rfl

@[simp] theorem claimedFor_release (m : UsbManager) (id : Int) :
    (m.releaseClaimAndWorker id).claimedFor = m.claimedFor := by
  unfold releaseClaimAndWorker
  cases m.gateway <;> dsimp only <;> split <;> rfl

theorem openClaims_release {g : UsbGateway} (gateway : m.gateway = some g) (id : Int) :
    (m.releaseClaimAndWorker id).openClaims = m.openClaims.filter (· ≠ id) := by
  simp only [releaseClaimAndWorker, gateway]
  split <;> rfl

theorem mem_workers_release (m : UsbManager) (id other : Int) :
    other ∈ (m.releaseClaimAndWorker id).workers ↔ other ≠ id ∧ other ∈ m.workers := by
  have workers : (m.releaseClaimAndWorker id).workers =
      if id ∈ m.workers then m.workers.erase id else m.workers := by
    unfold releaseClaimAndWorker
    cases m.gateway <;> dsimp only <;> split <;> rfl
  rw [workers]
  split
  · exact AList.mem_erase
  case isFalse absent => exact ⟨fun mem => ⟨fun is => absent (is ▸ mem), mem⟩, And.right⟩

theorem threads_release (m : UsbManager) (id : Int) :
    (m.releaseClaimAndWorker id).threads =
      if id ∈ m.workers then m.threads.erase id else m.threads := by
  unfold releaseClaimAndWorker
  cases m.gateway <;> dsimp only <;> split <;> rfl

theorem Ledger.count_threads_release (books : Ledger pending m) (id other : Int) :
    (m.releaseClaimAndWorker id).threads.count other =
      if other = id then 0 else m.threads.count other := by
  have own : m.threads.count id = if id ∈ m.workers then 1 else 0 := by
    rw [books.thread id]
    simp only [books.worker id]
  rw [threads_release]
  by_cases same : other = id
  · subst same
    split
    case isTrue there => simp [List.count_erase_self, own, there]
    case isFalse absent => simp [own, absent]
  · rw [if_neg same]
    split
    · exact List.count_erase_of_ne same
    · rfl

/-- Releasing the pending claim settles the accounts; releasing an id nobody streams through, where
nothing is pending, leaves them settled. -/
theorem Ledger.release (books : Ledger pending m) (only : ∀ id', pending = some id' → id' = id)
    (idle : ¬ m.StreamsOn id) (issued : m.Issued id) :
    Ledger none (m.releaseClaimAndWorker id) := by
  obtain ⟨g, gateway, -⟩ := issued
  have opens : ∀ other, other ∈ (m.releaseClaimAndWorker id).openClaims ↔
      other ≠ id ∧ other ∈ m.openClaims := by
    intro other
    rw [openClaims_release gateway]
    simp [and_comm]
  constructor
  · intro key c
    rw [controllers_release]
    exact books.direct
  · intro other
    rw [opens, books.open_iff other]
    simp only [StreamsOn, controllers_release, reduceCtorEq, false_or]
    constructor
    · rintro ⟨ne, is | streams⟩
      · exact absurd (only other is) ne
      · exact streams
    · exact fun streams => ⟨fun is => idle (is ▸ streams), .inr streams⟩
  · rw [openClaims_release gateway]
    exact books.nodup.filter _
  · intro other k₁ k₂ c₁ c₂
    rw [controllers_release]
    exact books.apart
  · intro other key c
    simp only [Issued, controllers_release, gateway_release, claimsAsked_release]
    exact books.held
  · intro other key c
    rw [controllers_release, claimedFor_release]
    exact books.model
  · simp
  · intro other
    rw [mem_workers_release, opens, books.worker other]
  · intro other
    rw [books.count_threads_release, books.thread other]
    by_cases same : other = id <;> simp [opens, same]

theorem sameBooks_release_unknown (worker : id ∉ m.workers) (closed : id ∉ m.openClaims) :
    SameBooks m (m.releaseClaimAndWorker id) := by
  have all : m.openClaims.filter (· ≠ id) = m.openClaims := by
    refine List.filter_eq_self.mpr fun other mem => ?_
    simpa using fun is : other = id => closed (is ▸ mem)
  simp only [releaseClaimAndWorker, worker, if_false]
  cases known : m.gateway with
  | none => exact .refl m
  | some g => exact ⟨known.symm, rfl, rfl, rfl, rfl, all, rfl⟩

theorem sameBooks_startWorker (same : SameBooks m m') (id key : Int) :
    SameBooks (m.startWorker id key) (m'.startWorker id key) := by
  unfold startWorker
  rw [same.gateway]
  cases known : m.gateway with
  | none => exact same
  | some g =>
    refine ⟨rfl, same.controllers, ?_, ?_, same.claimsAsked, same.openClaims, same.claimedFor⟩
    · simp only [same.workers]
    · simp only [same.threads]

theorem Issued.mono (issued : m.Issued id) (gateway : m'.gateway = m.gateway)
    (more : m.claimsAsked ≤ m'.claimsAsked) : m'.Issued id := by
  obtain ⟨g, known, n, asked, given⟩ := issued
  exact ⟨g, gateway.trans known, n, Nat.lt_of_lt_of_le asked more, given⟩

theorem Ledger.asked (books : Ledger none m) :
    Ledger none { m with claimsAsked := m.claimsAsked + 1 } where
  direct := books.direct
  open_iff := books.open_iff
  nodup := books.nodup
  apart := books.apart
  held := fun there syn => (books.held there syn).mono rfl (Nat.le_succ _)
  model := books.model
  pending_issued := by simp
  worker := books.worker
  thread := books.thread

/-- The state of a claim granted, once its worker is started: the claim is pending. -/
theorem Ledger.granted (books : Ledger none m) {g : UsbGateway} (gateway : m.gateway = some g)
    (is : id = g.syntheticIds m.claimsAsked) (new : ¬ m.Issued id) (key : Int)
    (model : Option Int) :
    Ledger (some id) ({ m with
      claimsAsked := m.claimsAsked + 1
      openClaims := id :: m.openClaims
      claimedFor := Function.update m.claimedFor id model }.startWorker id key) := by
  have closed : id ∉ m.openClaims := by
    intro mem
    rcases (books.open_iff id).mp mem with none | ⟨other, c, there, streams⟩
    · simp at none
    · exact new (books.held there (syntheticId_of_streamId streams))
  simp only [startWorker, gateway]
  constructor
  · exact books.direct
  · intro other
    have := books.open_iff other
    simp only [reduceCtorEq, false_or] at this
    simp only [List.mem_cons, this, Option.some.injEq, eq_comm (a := id)]
    rfl
  · exact List.nodup_cons.mpr ⟨closed, books.nodup⟩
  · exact books.apart
  · intro other k c there syn
    exact (books.held there syn).mono gateway.symm (Nat.le_succ _)
  · intro other k c there syn
    have apart : other ≠ id := fun same => new (same ▸ books.held there syn)
    exact (Function.update_of_ne apart ..).trans (books.model there syn)
  · intro other same
    exact ⟨g, rfl, m.claimsAsked, Nat.lt_succ_self _, by simp_all⟩
  · intro other
    simp only [AList.mem_insert, List.mem_cons, books.worker other]
  · intro other
    have := books.thread other
    by_cases same : other = id
    · subst same
      simp [this, closed]
    · simp [this, same, Ne.symm same]

/-- What asking for a claim does to the accounts. -/
structure ClaimSpec (m : UsbManager) (key : Int) (result : ClaimResult × UsbManager) : Prop where
  controllers : result.2.controllers = m.controllers
  workers : result.2.workers = m.workers
  refused : ∀ reason stolen, result.1 = .fail reason stolen → Ledger none result.2
  granted : ∀ id, result.1 = .success id → ¬ m.Issued id ∧
    (∀ other ∈ result.2.openClaims, other = id ∨ other ∈ m.openClaims) ∧
    result.2.claimedFor id = some key ∧ Ledger (some id) (result.2.startWorker id key)

theorem Ledger.doClaim (books : Ledger none m) (device : UsbDeviceInfo) :
    ClaimSpec m device.vpKey (m.doClaim device) := by
  unfold UsbManager.doClaim
  split
  case h_1 => exact ⟨rfl, rfl, fun _ _ _ => books, by simp⟩
  case h_2 g gateway =>
    split
    case h_1 reason stolen answer => exact ⟨rfl, rfl, fun _ _ _ => books.asked, by simp⟩
    case h_2 answer =>
      have same := sameBooks_tell
        { m with
          claimsAsked := m.claimsAsked + 1
          openClaims := g.syntheticIds m.claimsAsked :: m.openClaims
          claimedFor :=
            Function.update m.claimedFor (g.syntheticIds m.claimsAsked) (some device.vpKey) }
        (.syntheticAdded (g.syntheticIds m.claimsAsked) device.name device.hasImu
          (computeUsbPollRateHz device.endpointInInterval device.endpointInMaxPacket)
          device.vendorId device.productId)
      have new : ¬ m.Issued (g.syntheticIds m.claimsAsked) := by
        rintro ⟨g', known, n, asked, given⟩
        obtain rfl : g = g' := Option.some.inj (gateway.symm.trans known)
        exact absurd (g.fresh given) (Nat.ne_of_lt asked)
      refine ⟨same.controllers, same.workers, by simp, ?_⟩
      rintro id ⟨⟩
      refine ⟨new, ?_, ?_, ?_⟩
      · intro other mem
        rw [same.openClaims] at mem
        exact List.mem_cons.mp mem
      · rw [same.claimedFor]
        exact Function.update_self ..
      · exact (books.granted gateway rfl new _ _).of_same (sameBooks_startWorker same _ _)

theorem Ledger.claimTracked (books : Ledger none m) (key : Int) :
    ClaimSpec m key (m.claimTracked key) := by
  unfold UsbManager.claimTracked
  cases listed : m.devices.table.lookup key with
  | none => exact ⟨rfl, rfl, fun _ _ _ => books, by simp⟩
  | some device => exact m.devices.keyed listed ▸ books.doClaim device

/-! ### The events

First the answers to a claim, which nest nothing; then the claim itself; then every event from
outside. -/

theorem applyEvent_none (h : m.controllers.lookup key = none) (event : UsbEvent) :
    m.applyEvent key event = m := by
  rw [applyEvent_unfold]
  simp only [applyEventWith, h]

theorem applyEvent_some {c : UsbController} (h : m.controllers.lookup key = some c)
    (event : UsbEvent) :
    m.applyEvent key event =
      ((c.reduce event).effects.foldl (execute applyEvent key ((c.reduce event).next.getD c))
        (m.store key (c.reduce event).next)).tell .controllersChanged := by
  rw [applyEvent_unfold]
  simp only [applyEventWith, h]

/-- Effects that reach no claim, and the observer's last call, end an event as they find it. -/
theorem Ledger.finish (books : Ledger pending m) {c : UsbController}
    (bookless : ∀ fx ∈ effects, Bookless fx) :
    Ledger pending ((effects.foldl (execute applyEvent key c) m).tell .controllersChanged) :=
  (books.of_same (sameBooks_effects _ key c effects bookless m)).of_same (sameBooks_tell _ _)

theorem bookless_of_quiet (quiet : ∀ fx ∈ effects, fx.isQuiet) :
    ∀ fx ∈ effects, Bookless fx := fun fx mem => .of_quiet (quiet fx mem)

/-- A controller that was idle is stored idle, holding what it held or nothing. -/
theorem Ledger.store_still (books : Ledger none m) {c : UsbController}
    (at' : m.controllers.lookup key = some c) {was is : UsbPhase} (phase : c.phase = was)
    (phase' : n.phase = is) (holds : HoldsOnly c (some n)) (still : was ≠ .direct ∧ is ≠ .direct) :
    Ledger none (m.store key (some n)) := by
  refine books.store_idle at' (phase ▸ still.1) ?_ holds
  rintro _ ⟨⟩
  exact phase' ▸ still.2

theorem Ledger.claimFailed (books : Ledger none m) (key : Int) (reason : DirectClaimFailure)
    (stolen : Bool) : Ledger none (m.applyEvent key (.claimFailed reason stolen)) := by
  cases there : m.controllers.lookup key with
  | none => rwa [applyEvent_none there]
  | some c =>
    rw [applyEvent_some there]
    have moves := c.reduce_moves (.claimFailed reason stolen)
    generalize (c.reduce (.claimFailed reason stolen)).next = next at moves
    generalize (c.reduce (.claimFailed reason stolen)).effects = effects at moves
    cases moves with
    | stays event n effects phase syn quiet =>
      exact (books.store_same there phase syn).finish (bookless_of_quiet quiet)
    | claims event n wants => simp at wants
    | stolen reason n was expected phase syn =>
      exact (books.store_still there was phase (.of_none syn) (by decide)).finish
        (by simp [Bookless])
    | refused reason taken n rest was phase syn quiet =>
      refine (books.store_still there was phase (.of_none syn) (by decide)).finish fun fx mem => ?_
      rcases List.mem_cons.mp mem with rfl | mem
      · trivial
      · exact .of_quiet (quiet fx mem)
    | released event n gives => simp at gives
    | settled event n rest gives => simp at gives
    | reclaimFails reason taken n effects was phase syn quiet =>
      exact (books.store_still there was phase (.of_none syn) (by decide)).finish
        (bookless_of_quiet quiet)

/-- A claim that was granted is written to the controller that asked for it. -/
theorem Ledger.claimSucceeded (books : Ledger (some id) m) {c : UsbController}
    (there : m.controllers.lookup key = some c)
    (asks : c.phase = .claiming ∨ c.phase = .restoreStuck) (model : m.claimedFor id = some key)
    (unheld : ∀ other c', m.controllers.lookup other = some c' → c'.syntheticId ≠ some id) :
    Ledger none (m.applyEvent key (.claimSucceeded id)) := by
  rw [applyEvent_some there]
  rcases asks with was | was
  · have reduces : c.reduce (.claimSucceeded id) = c.claimingSucceeded id := by
      simp [reduce, reduceClaiming, was]
    rw [reduces]
    exact (books.store_enters there (by simp [was]) rfl rfl model unheld).finish
      (by simp [claimingSucceeded, Bookless])
  · have reduces : c.reduce (.claimSucceeded id) = c.restoreStuckClaimSucceeded id := by
      simp [reduce, reduceRestoreStuck, was]
    rw [reduces]
    exact (books.store_enters there (by simp [was]) rfl rfl model unheld).finish
      (by simp [restoreStuckClaimSucceeded, Bookless])

@[simp] theorem claimedFor_startWorker (m : UsbManager) (id key : Int) :
    (m.startWorker id key).claimedFor = m.claimedFor := by
  unfold startWorker
  split <;> rfl

@[simp] theorem controllers_startWorker (m : UsbManager) (id key : Int) :
    (m.startWorker id key).controllers = m.controllers := by
  unfold startWorker
  split <;> rfl

theorem Ledger.runClaim (books : Ledger none m) {c : UsbController}
    (there : m.controllers.lookup key = some c) (was : c.phase = .claiming) :
    Ledger none (runClaim applyEvent m key) := by
  have spec := books.claimTracked key
  unfold UsbManager.runClaim
  generalize m.claimTracked key = result at spec
  obtain ⟨outcome, claimed⟩ := result
  cases outcome with
  | fail reason stolen => exact (spec.refused reason stolen rfl).claimFailed key reason stolen
  | success id =>
    obtain ⟨new, -, model, pending⟩ := spec.granted id rfl
    have same : (claimed.startWorker id key).controllers = m.controllers :=
      (controllers_startWorker claimed id key).trans spec.controllers
    refine pending.claimSucceeded (c := c) (by rw [same, there]) (.inl was)
      ((congrFun (claimedFor_startWorker ..) id).trans model) ?_
    intro other c' there' syn
    rw [same] at there'
    exact new (books.held there' syn)

theorem Ledger.not_streamsOn (books : Ledger pending m) {c : UsbController}
    (there : m.controllers.lookup key = some c) (syn : c.syntheticId = some id)
    (idle : c.phase ≠ .direct) : ¬ m.StreamsOn id := by
  rintro ⟨other, c', there', streams⟩
  obtain rfl := books.apart there there' syn (syntheticId_of_streamId streams)
  obtain rfl : c = c' := Option.some.inj (there.symm.trans there')
  simp [streamId_of_not_direct idle] at streams

section
variable {c : UsbController} (books : Ledger none m) (there : m.controllers.lookup key = some c)
include books there

theorem sameBooks_dropOld {claimed : UsbManager} (was : c.phase = .restoreStuck)
    {outcome : ClaimResult} (spec : ClaimSpec m key (outcome, claimed))
    (closed : ∀ other ∈ claimed.openClaims, outcome = .success other ∨ other ∈ m.openClaims) :
    SameBooks claimed
      (match c.syntheticId with
        | some old => (claimed.releaseClaimAndWorker old).tell (.syntheticRemoved old)
        | none => claimed) := by
  cases syn : c.syntheticId with
  | none => exact .refl claimed
  | some old =>
    have idle : old ∉ m.openClaims := by
      rw [books.open_iff old]
      simpa using books.not_streamsOn there syn (by simp [was])
    refine SameBooks.trans (sameBooks_release_unknown ?_ ?_) (sameBooks_tell _ _)
    · rw [show claimed.workers = m.workers from spec.workers, books.worker old]
      exact idle
    · intro mem
      rcases closed old mem with is | mem
      · exact (spec.granted old is).1 (books.held there syn)
      · exact idle mem

theorem Ledger.runReclaim (was : c.phase = .restoreStuck) :
    Ledger none (runReclaim applyEvent m key c) := by
  have spec := books.claimTracked key
  unfold UsbManager.runReclaim
  generalize m.claimTracked key = result at spec
  obtain ⟨outcome, claimed⟩ := result
  cases outcome with
  | fail reason stolen =>
    have pending := spec.refused reason stolen rfl
    have same := sameBooks_dropOld books there was spec (by
      intro other mem
      rw [pending.open_iff] at mem
      rw [books.open_iff]
      simpa only [StreamsOn, reduceCtorEq, false_or,
        show claimed.controllers = m.controllers from spec.controllers] using mem)
    exact (pending.of_same same).claimFailed key reason stolen
  | success id =>
    obtain ⟨new, opens, model, pending⟩ := spec.granted id rfl
    have same := sameBooks_dropOld books there was spec (by
      intro other mem
      rcases opens other mem with rfl | mem
      · exact .inl rfl
      · exact .inr mem)
    have bound := (sameBooks_startWorker same id key).trans (sameBooks_bindCarried _ c id)
    have controllers : _ = m.controllers :=
      bound.controllers.trans ((controllers_startWorker claimed id key).trans spec.controllers)
    refine (pending.of_same bound).claimSucceeded (c := c) ?_ (.inr was) ?_ ?_
    · rw [controllers, there]
    · rw [bound.claimedFor, claimedFor_startWorker]
      exact model
    · intro other c' there' syn
      rw [controllers] at there'
      exact new (books.held there' syn)

/-! ### Every event from outside -/

/-- The placeholder of a controller that streams no more, or that is going, is released. -/
theorem Ledger.removed (syn : c.syntheticId = some id)
    (idle : ∀ n, next = some n → n.phase ≠ .direct) (holds : HoldsOnly c next) :
    Ledger none ((m.store key next).releaseClaimAndWorker id) := by
  have left := books.store_leaves there idle holds
  refine left.release ?_ ?_ ?_
  · intro id' streams
    exact Option.some.inj ((syntheticId_of_streamId streams).symm.trans syn)
  · rw [streamsOn_store]
    rintro (streams | ⟨other, c', ne, there', streams⟩)
    · cases next with
      | none => simp at streams
      | some n => simp [streamId_of_not_direct (idle n rfl)] at streams
    · exact ne (books.apart there' there (syntheticId_of_streamId streams) syn)
  · exact (books.held there syn).mono rfl (Nat.le_refl _)

theorem Ledger.dropPlaceholder (was : c.phase ≠ .direct)
    (idle : n.phase ≠ .direct) (syn : n.syntheticId = none) (ctx : UsbController) :
    Ledger none (execute applyEvent key ctx (m.store key (some n)) c.dropPlaceholder) := by
  have idle' : ∀ n', some n = some n' → n'.phase ≠ .direct := by
    rintro _ ⟨⟩
    exact idle
  unfold UsbController.dropPlaceholder
  cases held : c.syntheticId with
  | none => exact (books.store_idle there was idle' (.of_none syn)).of_same (sameBooks_tell _ _)
  | some id =>
    exact (books.removed there held idle' (.of_none syn)).of_same (sameBooks_tell _ _)

theorem Ledger.removePlaceholder (idle : ∀ n, next = some n → n.phase ≠ .direct)
    (holds : HoldsOnly c next) (ctx : UsbController) :
    Ledger none (c.removePlaceholder.foldl (execute applyEvent key ctx) (m.store key next)) := by
  unfold UsbController.removePlaceholder
  cases held : c.syntheticId with
  | none =>
    have was : c.phase ≠ .direct := by
      intro is
      simpa [held] using books.direct there is
    exact books.store_idle there was idle holds
  | some id => exact (books.removed there held idle holds).of_same (sameBooks_tell _ _)

end

theorem bookless_endHoldOnUnplug (c : UsbController) : ∀ fx ∈ c.endHoldOnUnplug, Bookless fx := by
  intro fx h
  unfold endHoldOnUnplug at h
  cases phase : c.phase <;> simp [phase] at h <;> rw [h] <;> trivial

/-- The events that come from outside: every one but the answers to a claim. -/
def FromOutside : UsbEvent → Prop
  | .claimSucceeded _ | .claimFailed _ _ => False
  | _ => True

/-- **An event from outside keeps the accounts.**  `granted` is the same for the one event it can
nest from outside, the permission taken as granted. -/
theorem Ledger.applyEvent_of (outside : FromOutside event)
    (granted : event ≠ .permissionGranted → ∀ m key, Ledger none m →
      Ledger none (m.applyEvent key .permissionGranted))
    (books : Ledger none m) (key : Int) :
    Ledger none (m.applyEvent key event) := by
  cases there : m.controllers.lookup key with
  | none => rwa [applyEvent_none there]
  | some c =>
    rw [applyEvent_some there]
    have moves := c.reduce_moves event
    generalize (c.reduce event).next = next at moves
    generalize (c.reduce event).effects = effects at moves
    cases moves with
    | stays event n effects phase syn quiet =>
      exact (books.store_same there phase syn).finish (bookless_of_quiet quiet)
    | asks n was phase syn =>
      have stored := books.store_still there was phase (.of_same syn) (by decide)
      exact (granted (by simp) _ key stored).of_same (sameBooks_tell _ _)
    | claims event n wants was phase syn =>
      have stored := books.store_still there was phase (.of_same syn) (by decide)
      have before := sameBooks_effects applyEvent key n
        [.clearFailure, .beginHold] (by simp [Bookless]) (m.store key (some n))
      have there' := (congrArg (·.lookup key) before.controllers).trans
        (lookup_store_self m key (some n))
      exact ((stored.of_same before).runClaim there' phase).of_same (sameBooks_tell _ _)
    | loses n was phase syn | sticks n was held phase syn | waits user n was phase syn =>
      exact (books.store_still there was phase (.of_same syn) (by decide)).finish
        (by simp [Bookless])
    | claimed | stolen | refused | reclaimed | reclaimFails => exact outside.elim
    | released event n gives was expected phase syn =>
      obtain ⟨id, held⟩ := Option.isSome_iff_exists.mp (books.direct there was)
      have idle : ∀ n', some n = some n' → n'.phase ≠ .direct := by
        rintro _ ⟨⟩
        simp [phase]
      have gone := books.removed there held idle (.of_same syn)
      refine Ledger.of_same ?_ (sameBooks_tell _ _)
      simpa only [List.foldl_cons, List.foldl_nil, execute, Option.getD_some, syn, held]
        using gone
    | settled event n rest gives was phase syn quiet =>
      have idle : ∀ n', some n = some n' → n'.phase ≠ .direct := by
        rintro _ ⟨⟩
        simp [phase]
      have gone := books.removePlaceholder there idle (.of_none syn) n
      simp only [List.foldl_cons, List.foldl_append, execute, Option.getD_some, syn]
      exact gone.finish (bookless_of_quiet quiet)
    | returned id n rest was phase syn quiet =>
      have gone := books.dropPlaceholder there (by simp [was]) (by simp [phase]) syn n
      exact gone.finish (bookless_of_quiet quiet)
    | drops n effects was held phase syn quiet =>
      exact (books.store_still there was phase (.of_none syn) (by decide)).finish
        (bookless_of_quiet quiet)
    | reclaims user n was phase syn =>
      have stored := books.store_still there was phase (.of_same syn) (by decide)
      exact (stored.runReclaim (lookup_store_self m key _) phase).of_same (sameBooks_tell _ _)
    | unstuck id n was phase syn =>
      have gone := books.dropPlaceholder there (by simp [was]) (by simp [phase]) syn n
      rw [List.foldl_cons]
      exact gone.finish (by simp [Bookless])
    | replugged id n effects was phase syn quiet =>
      exact (books.store_still there was phase (.of_same syn) (by decide)).finish
        (bookless_of_quiet quiet)
    | unplugged =>
      have holds : HoldsOnly c none := by simp [HoldsOnly]
      have gone := books.removePlaceholder there (by simp) holds c
      simp only [unplug, List.foldl_append, Option.getD_none]
      exact gone.finish (bookless_endHoldOnUnplug c)

theorem Ledger.applyEvent (outside : FromOutside event) (books : Ledger none m) (key : Int) :
    Ledger none (m.applyEvent key event) := by
  refine books.applyEvent_of outside (fun _ m' key' books' => ?_) key
  have outside' : FromOutside .permissionGranted := trivial
  exact books'.applyEvent_of outside' (fun ne => absurd rfl ne) key'

/-! ### The calls -/

theorem Ledger.track (books : Ledger none m) {c : UsbController}
    (new : m.controllers.lookup key = none) (idle : c.phase ≠ .direct)
    (syn : c.syntheticId = none) : Ledger none (m.store key (some c)) := by
  refine books.store ?_ ?_ ?_ (by simp)
  · rintro _ ⟨⟩ is
    exact absurd is idle
  · simp [new, streamId_of_not_direct idle]
  · rintro _ id ⟨⟩ held
    simp [syn] at held

/-- Accounts, observer and log are the same. -/
structure Beside (m m' : UsbManager) : Prop extends SameBooks m m' where
  observer : m'.observer = m.observer
  observed : m'.observed = m.observed

/-- A preorder on managers that holds of an event from outside, of a controller tracked and driven
at once, and of what touches neither the accounts nor the observer. -/
structure CallClosed (R : UsbManager → UsbManager → Prop) : Prop where
  refl : ∀ m, R m m
  trans : ∀ {a b c}, R a b → R b c → R a c
  event : ∀ m key {event}, FromOutside event → R m (m.applyEvent key event)
  track : ∀ {m : UsbManager} {device : UsbDeviceInfo} {event},
    m.controllers.lookup device.vpKey = none → FromOutside event →
      R m ((m.store device.vpKey (some (m.newController device))).applyEvent device.vpKey event)
  beside : ∀ {m m'}, Beside m m' → R m m'

namespace CallClosed

variable {R : UsbManager → UsbManager → Prop} (closed : CallClosed R)
include closed

section
variable (m : UsbManager)

theorem ensureTracked (device : UsbDeviceInfo) : R m (m.ensureTracked device) := by
  have seen : R m { m with devices := m.devices.insert device } :=
    closed.beside ⟨⟨rfl, rfl, rfl, rfl, rfl, rfl, rfl⟩, rfl, rfl⟩
  unfold UsbManager.ensureTracked
  dsimp only
  split
  · exact seen
  case h_2 new => exact closed.trans seen (closed.track new trivial)

section
variable (listed : List UsbDeviceInfo) (vendorId productId : Int)

theorem ensureListed :
    R m (m.ensureListed listed vendorId productId) := by
  unfold UsbManager.ensureListed
  split
  · exact closed.refl m
  · split
    · exact closed.ensureTracked m _
    · exact closed.refl m

theorem setPathChoice
    (choice : PathChoice) : R m (m.setPathChoice listed vendorId productId choice) := by
  have picked : R m (m.setChoice vendorId productId choice) :=
    closed.beside ⟨sameBooks_setChoice m _ _ _, rfl, rfl⟩
  exact closed.trans (closed.trans picked (closed.ensureListed _ listed vendorId productId))
    (closed.event _ _ trivial)

theorem clearChoice :
    R m (m.clearChoice listed vendorId productId) := by
  have cleared : R m (m.dropChoice vendorId productId) :=
    closed.beside ⟨⟨rfl, rfl, rfl, rfl, rfl, rfl, rfl⟩, rfl, rfl⟩
  exact closed.trans (closed.trans cleared (closed.ensureListed _ listed vendorId productId))
    (closed.event _ _ trivial)

end

theorem onUsbGone (vendorId productId : Int) :
    R m (m.onUsbGone vendorId productId) := by
  have outside : FromOutside .usbUnplugged := trivial
  refine closed.trans (closed.event m (vpKey vendorId productId) outside) ?_
  exact closed.beside ⟨⟨rfl, rfl, rfl, rfl, rfl, rfl, rfl⟩, rfl, rfl⟩

theorem judgeClaim (scan : UsbScan) (key : Int) : R m (m.judgeClaim scan key) := by
  have counted : ∀ scans, R m { m with directScans := scans } := fun scans =>
    closed.beside ⟨⟨rfl, rfl, rfl, rfl, rfl, rfl, rfl⟩, rfl, rfl⟩
  unfold UsbManager.judgeClaim
  split
  · exact counted _
  · dsimp only
    split
    · exact closed.trans (counted _) (closed.event _ _ trivial)
    · exact counted _

end

theorem scanDevice (scan : UsbScan) (m : UsbManager) (device : UsbDeviceInfo) :
    R m (scanDevice scan m device) := by
  have ended : R m (if m.claimEnded scan device.vpKey then
      m.onUsbGone device.vendorId device.productId else m) := by
    split
    · exact closed.onUsbGone m _ _
    · exact closed.refl m
  exact closed.trans (closed.trans ended (closed.ensureTracked _ device)) (closed.judgeClaim _ scan _)

theorem foldl {α : Type*} {f : UsbManager → α → UsbManager} (each : ∀ m a, R m (f m a))
    (l : List α) (m : UsbManager) : R m (l.foldl f m) :=
  Steps.run_inv (I := R m) (fun m' a held => closed.trans held (each m' a)) (closed.refl m) l

theorem reconcile (m : UsbManager) (scan : UsbScan) : R m (m.reconcile scan) := by
  unfold UsbManager.reconcile
  split
  · exact closed.refl m
  · refine closed.trans (closed.foldl (closed.scanDevice scan) scan.devices m) ?_
    refine closed.trans ?_ (closed.foldl (fun m e => closed.onUsbGone m _ _) _ _)
    exact closed.beside ⟨⟨rfl, rfl, rfl, rfl, rfl, rfl, rfl⟩, rfl, rfl⟩

theorem call (m : UsbManager) (c : Call) : R m (m.call c) := by
  cases c with
  | ensureTracked device => exact closed.ensureTracked m device
  | setPathChoice listed vendorId productId choice =>
    exact closed.setPathChoice m listed vendorId productId choice
  | clearChoice listed vendorId productId => exact closed.clearChoice m listed vendorId productId
  | onUsbGone vendorId productId => exact closed.onUsbGone m vendorId productId
  | reconcile scan => exact closed.reconcile m scan
  | onFrameworkUp | onFrameworkDown | fireTimeout | claimUnreadable =>
    exact closed.event m _ trivial

end CallClosed

theorem callClosed_ledger : CallClosed fun m m' => Ledger none m → Ledger none m' where
  refl _ := id
  trans ab bc := bc ∘ ab
  event _ key _ outside books := books.applyEvent outside key
  track new outside books := (books.track new (by simp [newController]) rfl).applyEvent outside _
  beside same books := books.of_same same.toSameBooks

theorem ledger_start (gateway : Option UsbGateway)
    (prefs : Option (AList fun _ : Int × Int => PathChoice)) (observer : Bool) :
    Ledger none (start gateway prefs observer) := by
  have nothing : ∀ {key c}, (start gateway prefs observer).controllers.lookup key ≠ some c := by
    simp [start]
  constructor
  · exact fun there => absurd there nothing
  · intro id
    simp [start, StreamsOn]
  · exact List.nodup_nil
  · exact fun there => absurd there nothing
  · exact fun there => absurd there nothing
  · exact fun there => absurd there nothing
  · simp
  · intro id
    simp [start]
  · intro id
    simp [start]

end UsbManager

/-- **No claim is leaked and none is made twice.**  After any sequence of calls, with a gateway that
gives fresh ids and refuses as it likes: the open claims are exactly the ids of the controllers in
Direct, no two of which share one; every controller in Direct has one; and each open claim has one
registered worker, running, with no other worker registered or running. -/
theorem usb_claims_accounted (gateway : Option UsbGateway)
    (prefs : Option (AList fun _ : Int × Int => PathChoice)) (observer : Bool)
    (calls : List UsbManager.Call) :
    let m := Steps.run UsbManager.call (.start gateway prefs observer) calls
    (∀ id, id ∈ m.openClaims ↔ ∃ key c, m.controllers.lookup key = some c ∧
      c.phase = .direct ∧ c.syntheticId = some id) ∧
    m.openClaims.Nodup ∧
    (∀ key c, m.controllers.lookup key = some c → c.phase = .direct → c.syntheticId.isSome) ∧
    (∀ id k₁ k₂ c₁ c₂, m.controllers.lookup k₁ = some c₁ → m.controllers.lookup k₂ = some c₂ →
      c₁.syntheticId = some id → c₂.syntheticId = some id → k₁ = k₂) ∧
    (∀ id, id ∈ m.workers ↔ id ∈ m.openClaims) ∧
    ∀ id, m.threads.count id = if id ∈ m.openClaims then 1 else 0 := by
  intro m
  have books : UsbManager.Ledger none m :=
    Steps.run_inv (I := UsbManager.Ledger none) (fun m c => UsbManager.callClosed_ledger.call m c)
      (UsbManager.ledger_start gateway prefs observer) calls
  refine ⟨fun id => ?_, books.nodup, fun _ _ => books.direct, fun _ _ _ _ _ => books.apart,
    books.worker, books.thread⟩
  rw [books.open_iff id]
  simp only [reduceCtorEq, false_or, UsbManager.StreamsOn, UsbManager.streamId,
    Option.ite_none_right_eq_some]

/-- A known pad is claimed by the first scan, and lets go of its claim on a Standard pick. -/
example :
    let gateway : UsbGateway :=
      { refuses := fun _ => none, syntheticIds := fun n => n, fresh := fun _ _ h => Int.ofNat.inj h,
        isKnownFastLaneModel := fun _ _ => true }
    let pad : UsbDeviceInfo := { vendorId := 0x054C, productId := 0x0CE6 }
    let m := Steps.run UsbManager.call (.start (some gateway) none true) [.ensureTracked pad]
    m.openClaims = [0] ∧ m.threads = [0] ∧
      (m.call (.setPathChoice [pad] 0x054C 0x0CE6 .standard)).openClaims = [] := by
  decide

end Dish
