/-
Noninterference, by unwinding.

Some entries of some tables are to make no difference.  A view of the state hides them; if what a
step does to the view depends on the view alone, and the actions that only touch hidden entries
leave it alone, then two runs that differ only in such actions end alike.

`lay p top t` is the table `t` with the entries of `top` laid over it under the keys of `p`.
-/
import Mathlib.Logic.Function.Basic
import Dish.Lib.Run

namespace Steps

variable {σ α β : Type*} {step : σ → α → σ}

/-- A view that a step depends on alone, and that hidden actions leave alone, depends only on the
actions that are not hidden. -/
theorem view_run_filter {view : σ → β} {hidden : α → Bool}
    (hcongr : ∀ s t a, view s = view t → view (step s a) = view (step t a))
    (hhidden : ∀ s a, hidden a = true → view (step s a) = view s) :
    ∀ {s t : σ} (acts : List α), view s = view t →
      view (run step s acts) = view (run step t (acts.filter (!hidden ·))) := by
  intro s t acts
  induction acts generalizing s t with
  | nil => intro same; exact same
  | cons a rest ih =>
    intro same
    cases secret : hidden a with
    | true =>
      rw [List.filter_cons_of_neg (by simp [secret])]
      exact ih ((hhidden s a secret).trans same)
    | false =>
      rw [List.filter_cons_of_pos (by simp [secret])]
      exact ih (hcongr s t a same)

end Steps

namespace Table

variable {κ β : Type*} (p : κ → Prop) [DecidablePred p]

def lay (top t : κ → β) : κ → β := fun k => if p k then top k else t k

variable {p} {top t : κ → β} {k : κ} {v : β}

theorem lay_apply_of (h : p k) : lay p top t k = top k := if_pos h

theorem lay_apply_of_not (h : ¬p k) : lay p top t k = t k := if_neg h

theorem lay_lay (top low t : κ → β) : lay p top (lay p low t) = lay p top t := by
  funext k
  by_cases h : p k
  · rw [lay_apply_of h, lay_apply_of h]
  · rw [lay_apply_of_not h, lay_apply_of_not h, lay_apply_of_not h]

theorem lay_self (h : ∀ k, p k → top k = t k) : lay p top t = t := by
  funext k
  by_cases hk : p k
  · rw [lay_apply_of hk, h k hk]
  · rw [lay_apply_of_not hk]

theorem update_lay_of [DecidableEq κ] (h : p k) :
    Function.update (lay p top t) k v = lay p (Function.update top k v) t := by
  funext j
  by_cases here : j = k
  · subst here
    rw [lay_apply_of h, Function.update_self, Function.update_self]
  · rw [Function.update_of_ne here]
    unfold lay
    rw [Function.update_of_ne here]

theorem update_lay_of_not [DecidableEq κ] (h : ¬p k) :
    Function.update (lay p top t) k v = lay p top (Function.update t k v) := by
  funext j
  by_cases here : j = k
  · subst here
    rw [lay_apply_of_not h, Function.update_self, Function.update_self]
  · rw [Function.update_of_ne here]
    unfold lay
    rw [Function.update_of_ne here]

end Table
