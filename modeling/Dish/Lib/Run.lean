/-
Deterministic transition systems and their runs.

A system is a step function `σ → α → σ`: whatever is decided outside it (which
thread moves, which reply lands, what a device answers) is data of the action, so
a run is a fold over a list of actions and two runs over the same list agree.  An
action that is not possible in a state leaves it alone.

`Along step P s acts` reads a run step by step: every action satisfies `P` in the
state it is taken in.  It is used on both sides of an implication, for what is
assumed of the actions and for what is concluded about them.
-/
import Mathlib.Data.List.Basic
import Mathlib.Tactic.Tauto

namespace Steps

variable {σ α : Type*} (step : σ → α → σ)

/-- The state after the actions, taken in order. -/
def run (s : σ) (acts : List α) : σ := acts.foldl step s

/-- Every action of the run satisfies `P` in the state it is taken in. -/
def Along (P : σ → α → Prop) : σ → List α → Prop
  | _, [] => True
  | s, a :: rest => P s a ∧ Along P (step s a) rest

instance Along.decidable (P : σ → α → Prop) [∀ s a, Decidable (P s a)] :
    ∀ s acts, Decidable (Along step P s acts)
  | _, [] => inferInstanceAs (Decidable True)
  | s, a :: rest =>
    have := Along.decidable P (step s a) rest
    inferInstanceAs (Decidable (P s a ∧ Along step P (step s a) rest))

@[simp] theorem run_nil (s : σ) : run step s [] = s := rfl

@[simp] theorem run_cons (s : σ) (a : α) (rest : List α) :
    run step s (a :: rest) = run step (step s a) rest := rfl

@[simp] theorem run_append (s : σ) (xs ys : List α) :
    run step s (xs ++ ys) = run step (run step s xs) ys := List.foldl_append ..

@[simp] theorem along_nil (P : σ → α → Prop) (s : σ) : Along step P s [] := trivial

variable {s : σ} {P : σ → α → Prop}

@[simp] theorem along_cons {a : α} {rest : List α} :
    Along step P s (a :: rest) ↔ P s a ∧ Along step P (step s a) rest := Iff.rfl

theorem along_append {xs ys : List α} :
    Along step P s (xs ++ ys) ↔ Along step P s xs ∧ Along step P (run step s xs) ys := by
  induction xs generalizing s with
  | nil => simp
  | cons a rest ih => simp [ih, and_assoc]

variable {step}

variable {acts : List α}

theorem along_and {P Q : σ → α → Prop} :
    Along step (fun s a => P s a ∧ Q s a) s acts ↔ Along step P s acts ∧ Along step Q s acts := by
  induction acts generalizing s with
  | nil => simp
  | cons a rest ih =>
    rw [along_cons, along_cons, along_cons, ih]
    tauto

theorem along_of_forall {P : α → Prop} (h : ∀ a ∈ acts, P a) :
    Along step (fun _ a => P a) s acts := by
  induction acts generalizing s with
  | nil => trivial
  | cons a rest ih =>
    exact ⟨h a List.mem_cons_self, ih fun b hb => h b (List.mem_cons_of_mem a hb)⟩

variable {ok : σ → α → Prop} {I : σ → Prop}

theorem run_keeps (hstep : ∀ s a, I s → ok s a → I (step s a)) :
    ∀ {s : σ} {acts : List α}, I s → Along step ok s acts → I (run step s acts) := by
  intro s acts
  induction acts generalizing s with
  | nil => intro hs _; exact hs
  | cons a rest ih => intro hs hok; exact ih (hstep s a hs hok.1) hok.2

/-- What every step preserves, whatever the action, every run preserves. -/
theorem run_inv (hstep : ∀ s a, I s → I (step s a)) (hs : I s)
    (acts : List α) : I (run step s acts) := by
  induction acts generalizing s with
  | nil => exact hs
  | cons a rest ih => exact ih (hstep s a hs)

/-- What an invariant gives about one step, a run has about each of its steps. -/
theorem along_of_inv {ok P : σ → α → Prop} (hstep : ∀ s a, I s → ok s a → I (step s a))
    (hP : ∀ s a, I s → ok s a → P s a) :
    ∀ {s : σ} {acts : List α}, I s → Along step ok s acts → Along step P s acts := by
  intro s acts
  induction acts generalizing s with
  | nil => intro _ _; trivial
  | cons a rest ih =>
    intro hs hok
    exact ⟨hP s a hs hok.1, ih (hstep s a hs hok.1) hok.2⟩

/-- What the actions of a run cost together, each in the state it is taken in. -/
def cost (step : σ → α → σ) (price : σ → α → Nat) : σ → List α → Nat
  | _, [] => 0
  | s, a :: rest => price s a + cost step price (step s a) rest

theorem cost_append (step : σ → α → σ) (price : σ → α → Nat) (s : σ) (xs ys : List α) :
    cost step price s (xs ++ ys) = cost step price s xs + cost step price (run step s xs) ys := by
  induction xs generalizing s with
  | nil => simp [cost]
  | cons a rest ih =>
    show price s a + cost step price (step s a) (rest ++ ys) = _
    rw [ih]
    exact (Nat.add_assoc _ _ _).symm

theorem cost_one (step : σ → α → σ) (s : σ) (acts : List α) :
    cost step (fun _ _ => 1) s acts = acts.length := by
  induction acts generalizing s with
  | nil => rfl
  | cons a rest ih =>
    show 1 + cost step (fun _ _ => 1) (step s a) rest = rest.length + 1
    rw [ih, Nat.add_comm]

variable {price : σ → α → Nat}

/-- A loop that costs something and comes back to where it started costs without bound. -/
theorem cost_unbounded (loop : List α) (hok : Along step ok s loop) (hback : run step s loop = s)
    (hcost : 0 < cost step price s loop) (n : Nat) :
    ∃ acts, Along step ok s acts ∧ n ≤ cost step price s acts := by
  induction n with
  | zero => exact ⟨[], trivial, Nat.zero_le _⟩
  | succ n ih =>
    obtain ⟨acts, hacts, hn⟩ := ih
    refine ⟨loop ++ acts, ?_, ?_⟩
    · rw [along_append, hback]
      exact ⟨hok, hacts⟩
    · rw [cost_append, hback]
      omega

/-- A potential that pays for every step bounds what a whole run costs. -/
theorem cost_le {potential : σ → Nat} (hstep : ∀ s a, I s → ok s a → I (step s a))
    (hpays : ∀ s a, I s → ok s a → price s a + potential (step s a) ≤ potential s) :
    ∀ {s : σ} {acts : List α}, I s → Along step ok s acts →
      cost step price s acts ≤ potential s := by
  intro s acts
  induction acts generalizing s with
  | nil => intro _ _; exact Nat.zero_le _
  | cons a rest ih =>
    intro hs hok
    have hrest := ih (hstep s a hs hok.1) hok.2
    have hfirst := hpays s a hs hok.1
    show price s a + cost step price (step s a) rest ≤ potential s
    omega

/-- A run whose steps each reach the goal or are paid for by a potential reaches the goal or costs
no more than the potential. -/
theorem reaches_or_cost_le (price : σ → α → Nat) (I goal : σ → Prop)
    (potential : σ → Nat) (hgoal : ∀ s a, goal s → goal (step s a))
    (hstep : ∀ s a, I s → ok s a →
      goal (step s a) ∨ I (step s a) ∧ price s a + potential (step s a) ≤ potential s) :
    ∀ {s : σ} {acts : List α}, I s → Along step ok s acts →
      goal (run step s acts) ∨ cost step price s acts ≤ potential s := by
  intro s acts
  induction acts generalizing s with
  | nil => intro _ _; exact .inr (Nat.zero_le _)
  | cons a rest ih =>
    intro hs hok
    rcases hstep s a hs hok.1 with hreached | ⟨hnext, hpays⟩
    · exact .inl (run_inv hgoal hreached rest)
    · rcases ih hnext hok.2 with hreached | hcost
      · exact .inl hreached
      · right
        show price s a + cost step price (step s a) rest ≤ potential s
        omega

end Steps
