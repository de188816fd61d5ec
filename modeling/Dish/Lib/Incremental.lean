/-
Readers over a growing input.

A reader looks at the input from the front and answers one of three things: the input ends too
early to tell, the input is wrong, or a value and what is left.  Input that arrives in pieces is
read again from the start each time more of it is there, so what matters is that an answer once
given is not taken back: `Stable` says that more input behind does not change it.  It is enough to
show it of the readers that touch the input; sequencing and looping keep it.
-/
import Mathlib.Data.List.Basic

namespace Incremental

/-- What a reader says of its input. -/
inductive Outcome (β α : Type*) where
  /-- The input ends before the reader can tell. -/
  | short
  /-- The input is not what the reader reads, whatever follows. -/
  | bad
  | done (value : α) (rest : List β)
  deriving DecidableEq, Repr

/-- A reader of `β`s. -/
abbrev Reader (β α : Type*) := List β → Outcome β α

variable {β α γ σ : Type*}

def ret (a : α) : Reader β α := fun p => .done a p

def fail : Reader β α := fun _ => .bad

def andThen (r : Reader β α) (k : α → Reader β γ) : Reader β γ := fun p =>
  match r p with
  | .short => .short
  | .bad => .bad
  | .done a rest => k a rest

/-- The `body` again and again, from the state it leaves, until it gives a value.  A turn that takes
nothing from the input would be taken forever; it makes the input bad. -/
def loop (body : σ → Reader β (σ ⊕ α)) (s : σ) (p : List β) : Outcome β α :=
  match body s p with
  | .short => .short
  | .bad => .bad
  | .done (.inr a) rest => .done a rest
  | .done (.inl s') rest => if _ : rest.length < p.length then loop body s' rest else .bad
termination_by p.length

/-- An answer, once given, stays when more input follows. -/
structure Stable (r : Reader β α) : Prop where
  bad : ∀ {p}, r p = .bad → ∀ q, r (p ++ q) = .bad
  done : ∀ {p a rest}, r p = .done a rest → ∀ q, r (p ++ q) = .done a (rest ++ q)

theorem stable_ret (a : α) : Stable (ret a : Reader β α) where
  bad := by simp [ret]
  done := by
    intro p a' rest h q
    obtain ⟨rfl, rfl⟩ := h
    rfl

theorem stable_fail : Stable (fail : Reader β α) where
  bad := fun _ _ => rfl
  done := by simp [fail]

theorem Stable.andThen {r : Reader β α} (first : Stable r) {k : α → Reader β γ}
    (next : ∀ a, Stable (k a)) : Stable (andThen r k) where
  bad := by
    intro p h q
    unfold Incremental.andThen at *
    cases answer : r p with
    | short => simp [answer] at h
    | bad => rw [first.bad answer q]
    | done a =>
      rw [answer] at h
      rw [first.done answer q]
      exact (next a).bad h q
  done := by
    intro p c rest h q
    unfold Incremental.andThen at *
    cases answer : r p with
    | short => simp [answer] at h
    | bad => simp [answer] at h
    | done a =>
      rw [answer] at h
      rw [first.done answer q]
      exact (next a).done h q

/-! ### Loops -/

section Loop

variable {body : σ → Reader β (σ ⊕ α)} {s s' : σ} {p rest : List β}

theorem loop_short (h : body s p = .short) : loop body s p = .short := by
  rw [loop, h]

theorem loop_bad (h : body s p = .bad) : loop body s p = .bad := by
  rw [loop, h]

theorem loop_stop {a : α} (h : body s p = .done (.inr a) rest) : loop body s p = .done a rest := by
  rw [loop, h]

theorem loop_again (h : body s p = .done (.inl s') rest) (less : rest.length < p.length) :
    loop body s p = loop body s' rest := by
  rw [loop, h]
  simp [less]

theorem loop_stuck (h : body s p = .done (.inl s') rest) (less : ¬ rest.length < p.length) :
    loop body s p = .bad := by
  rw [loop, h]
  simp [less]

theorem Stable.loop (each : ∀ s, Stable (body s)) (s : σ) : Stable (loop body s) := by
  -- Both parts at once, by induction on the input's length: a turn leaves a shorter one.
  have both : ∀ n, ∀ (p : List β) (s : σ), p.length = n → ∀ q,
      (Incremental.loop body s p = .bad → Incremental.loop body s (p ++ q) = .bad) ∧
      ∀ a rest, Incremental.loop body s p = .done a rest →
        Incremental.loop body s (p ++ q) = .done a (rest ++ q) := by
    intro n
    induction n using Nat.strongRecOn with
    | ind n ih =>
      intro p s size q
      cases answer : body s p with
      | short => simp [loop_short answer]
      | bad =>
        rw [loop_bad answer, loop_bad ((each s).bad answer q)]
        simp
      | done next rest =>
        have after := (each s).done answer q
        cases next with
        | inr a =>
          rw [loop_stop answer, loop_stop after]
          simp
        | inl s' =>
          by_cases less : rest.length < p.length
          · have less' : (rest ++ q).length < (p ++ q).length := by
              simpa using less
            rw [loop_again answer less, loop_again after less']
            exact ih rest.length (size ▸ less) rest s' rfl q
          · have stuck : ¬ (rest ++ q).length < (p ++ q).length := by
              simpa using less
            rw [loop_stuck answer less, loop_stuck after stuck]
            simp
  exact ⟨fun {p} h q => (both p.length p s rfl q).1 h,
    fun {p a rest} h q => (both p.length p s rfl q).2 a rest h⟩

end Loop

end Incremental
