/-
When the shared-key repository is a map.

What the repository should be is simple to say: `get` returns the value of the
latest `put` that no `remove` or `clear` followed.  `latestPut` says it of a list of
calls.  The two stores refine that reading through `KeyStores.view`, the keyring's
copy if it has one and the file's otherwise, as long as no call leaves an older
copy in the keyring that it could not reach.  `KeyCall.Kept` is that condition on
one call, and it is exact: a call that breaks it breaks the map.
-/
import Mathlib.Data.List.Induction
import Dish.Lib.Run
import Dish.Repository.SharedKey

namespace Dish

open SatelliteSharedKeyRepository Steps SatelliteSharedKeyRepository SecretServiceStore KeyStores KeyTable

variable {Id : Type} [DecidableEq Id]

/-! ### The map the repository should be -/

/-- What a call makes of the value the map holds for `id`. -/
def KeyOp.effect (id : Id) (v : Option String) : KeyOp Id → Option String
  | .get _ => v
  | .put j keyHex => if j = id then some keyHex else v
  | .remove j => if j = id then none else v
  | .clear => none

/-- The value of the latest `put` of `id` that no `remove` or `clear` followed. -/
def latestPut (calls : List (KeyCall Id)) (id : Id) : Option String :=
  calls.foldl (fun v c => c.op.effect id v) none

/-- A call returns what the map holds: only `get` returns anything. -/
def KeyCall.Answered (s : KeyStores Id) (m : Id → Option String) (c : KeyCall Id) : Prop :=
  match c.op with
  | .get id => (get c.answers s id).1 = m id
  | _ => True

/-- What the two stores hold for an id: the keyring's copy comes first. -/
def KeyStores.view (s : KeyStores Id) (id : Id) : Option String :=
  (s.keyring.value id).or (s.settings.value id)

/-- A keyring that takes every call. -/
def Answers.healthy : Answers Id := ⟨true, true, true, fun _ => true, fun _ => true⟩

/--
The call leaves no older copy behind.  A `get` reads the keyring or need not, a
`put` or `remove` replaces the keyring's copy or finds none that says otherwise,
and a `clear` erases every key the keyring holds.
-/
def KeyCall.Kept (s : KeyStores Id) (c : KeyCall Id) : Prop :=
  match c.op with
  | .get id => (c.answers.available && c.answers.reads) ∨ s.keyring.text id = "" ∨
      s.keyring.text id = s.settings.text id
  | .put id keyHex => keyHex ≠ "" ∧ ((c.answers.available && c.answers.writes) ∨
      s.keyring.text id = "" ∨ s.keyring.text id = keyHex)
  | .remove id => (c.answers.available && c.answers.erases id) ∨ s.keyring.text id = ""
  | .clear => ∀ id ∈ s.keyring.keys, s.keyring.text id = "" ∨
      (c.answers.available && c.answers.listed id && c.answers.erases id)

/-! ### Tables -/

namespace KeyTable

@[simp] theorem text_insert (t : KeyTable Id) (i j : Id) (v : String) :
    text (t.insert j v) i = if j = i then v else t.text i := by
  unfold text
  by_cases h : j = i
  · subst h; simp
  · rw [AList.lookup_insert_ne (Ne.symm h), if_neg h]

@[simp] theorem text_erase (t : KeyTable Id) (i j : Id) :
    text (t.erase j) i = if j = i then "" else t.text i := by
  unfold text
  by_cases h : j = i
  · subst h; simp
  · rw [AList.lookup_erase_ne (Ne.symm h), if_neg h]

@[simp] theorem text_empty (i : Id) : text (∅ : KeyTable Id) i = "" := by
  simp [text]

theorem text_of_not_mem {t : KeyTable Id} {i : Id} (h : i ∉ t.keys) : t.text i = "" := by
  have hnone : t.lookup i = none := AList.lookup_eq_none.mpr h
  simp [text, hnone]

end KeyTable

variable (w : Answers Id) (s : KeyStores Id) (id : Id)

/-- The view in terms of the two texts, which is how the calls read it. -/
theorem view_eq :
    s.view id = if s.keyring.text id ≠ "" then some (s.keyring.text id)
      else if s.settings.text id ≠ "" then some (s.settings.text id) else none := by
  unfold view value
  by_cases hk : s.keyring.text id = "" <;> by_cases hf : s.settings.text id = "" <;> simp [hk, hf]

@[simp] theorem view_empty (id : Id) : (empty : KeyStores Id).view id = none := by
  simp [view_eq, empty]

/-! ### What a call makes of the view -/

theorem get_healthy : (get .healthy s id).1 = s.view id := by
  rw [view_eq]
  by_cases hk : s.keyring.text id = "" <;> by_cases hf : s.settings.text id = "" <;>
    simp [SatelliteSharedKeyRepository.get, keyringUsable, SecretServiceStore.read,
      write, value, Answers.healthy, hk, hf]

/-- What `get` returns is the view exactly when it can read the keyring or need not. -/
theorem get_value_iff : (get w s id).1 = s.view id ↔ KeyCall.Kept s ⟨.get id, w⟩ := by
  rw [view_eq]
  rcases w with ⟨_ | _, _ | _, _ | _, _, _⟩ <;>
    by_cases hk : s.keyring.text id = "" <;> by_cases hf : s.settings.text id = "" <;>
    simp [SatelliteSharedKeyRepository.get, keyringUsable, SecretServiceStore.read,
      write, value, KeyCall.Kept, hk, hf, eq_comm]

/-- A `get` that answers from the right copy moves it between the stores and no more. -/
theorem get_view {w : Answers Id} {s : KeyStores Id} {id : Id}
    (h : KeyCall.Kept s ⟨.get id, w⟩) (j : Id) : (get w s id).2.view j = s.view j := by
  by_cases hj : id = j
  · subst hj
    simp only [view_eq]
    rcases w with ⟨_ | _, _ | _, _ | _, _, _⟩ <;>
      by_cases hk : s.keyring.text id = "" <;> by_cases hf : s.settings.text id = "" <;>
      simp_all [SatelliteSharedKeyRepository.get, keyringUsable, SecretServiceStore.read,
        write, value, KeyCall.Kept]
  · simp only [view_eq]
    rcases w with ⟨_ | _, _ | _, _ | _, _, _⟩ <;>
      by_cases hk : s.keyring.text id = "" <;> by_cases hf : s.settings.text id = "" <;>
      simp [SatelliteSharedKeyRepository.get, keyringUsable, SecretServiceStore.read,
        write, value, hk, hf, hj]

theorem put_view_ne {w : Answers Id} {s : KeyStores Id} {id j : Id} {v : String} (hj : id ≠ j) :
    (put w s id v).view j = s.view j := by
  simp only [view_eq]
  rcases w with ⟨_ | _, _, _ | _, _, _⟩ <;> simp [put, keyringUsable, write, hj]

theorem put_view_iff (v : String) :
    (put w s id v).view id = some v ↔ KeyCall.Kept s ⟨.put id v, w⟩ := by
  rw [view_eq]
  rcases w with ⟨_ | _, _, _ | _, _, _⟩ <;>
    by_cases hk : s.keyring.text id = "" <;> by_cases hv : v = "" <;>
    simp [put, keyringUsable, write, KeyCall.Kept, hk, hv]

theorem remove_view_ne {w : Answers Id} {s : KeyStores Id} {id j : Id} (hj : id ≠ j) :
    (remove w s id).view j = s.view j := by
  simp only [view_eq]
  rcases w with ⟨_ | _, _, _, _, erases⟩ <;> cases he : erases id <;>
    simp [remove, keyringUsable, erase, he, hj]

theorem remove_view_iff : (remove w s id).view id = none ↔ KeyCall.Kept s ⟨.remove id, w⟩ := by
  rw [view_eq]
  rcases w with ⟨_ | _, _, _, _, erases⟩ <;> cases he : erases id <;>
    by_cases hk : s.keyring.text id = "" <;>
    simp [remove, keyringUsable, erase, KeyCall.Kept, he, hk]

theorem text_foldl_erase (ids : List Id) :
    ∀ (t : KeyTable Id) (j : Id), (ids.foldl (erase w) t).text j =
      if j ∈ ids ∧ (w.available && w.erases j) then "" else t.text j := by
  induction ids with
  | nil => intro t j; simp
  | cons i rest ih =>
    intro t j
    rw [List.foldl_cons, ih]
    unfold erase
    by_cases hij : i = j
    · subst hij
      by_cases hw : (w.available && w.erases i) = true <;> simp [hw]
    · by_cases hw : (w.available && w.erases i) = true <;> simp [hw, hij, Ne.symm hij]

theorem clear_view_iff : (∀ id, (clear w s).view id = none) ↔ KeyCall.Kept s ⟨.clear, w⟩ := by
  have htext : ∀ id, (clear w s).keyring.text id =
      if id ∈ s.keyring.keys ∧ (w.available && w.listed id && w.erases id) then ""
        else s.keyring.text id := by
    intro id
    unfold clear
    by_cases ha : w.available = true
    · simp only [keyringUsable, ha, if_true, text_foldl_erase, ids]
      simp [and_assoc]
    · simp [keyringUsable, ha]
  have hview : ∀ id, (clear w s).view id = none ↔ (clear w s).keyring.text id = "" := by
    intro id
    have hfile : (clear w s).settings.text id = "" := by
      simp [clear]
    simp [view_eq, hfile]
  simp only [hview, htext, KeyCall.Kept]
  refine forall_congr' fun id => ?_
  by_cases hmem : id ∈ s.keyring.keys
  · by_cases hw : (w.available && w.listed id && w.erases id) = true <;> simp [hmem, hw]
  · simp [hmem, text_of_not_mem hmem]

/-! ### One call, exactly -/

/-- The view after the call is what the map would hold, and a `get` returned it. -/
structure KeyCall.Refines (s : KeyStores Id) (c : KeyCall Id) : Prop where
  answered : c.Answered s s.view
  view : ∀ id, (s.step c).view id = c.op.effect id (s.view id)

theorem refines_iff_kept (c : KeyCall Id) : c.Refines s ↔ c.Kept s := by
  obtain ⟨op, w⟩ := c
  constructor
  · rintro ⟨hans, hview⟩
    cases op with
    | get id => exact (get_value_iff w s id).mp hans
    | put id v => exact (put_view_iff w s id v).mp (by simpa [step, KeyOp.effect] using hview id)
    | remove id => exact (remove_view_iff w s id).mp (by simpa [step, KeyOp.effect] using hview id)
    | clear => exact (clear_view_iff w s).mp hview
  · intro hkept
    cases op with
    | get id => exact ⟨(get_value_iff w s id).mpr hkept, get_view hkept⟩
    | put id v =>
      refine ⟨trivial, fun j => ?_⟩
      by_cases hj : id = j
      · subst hj
        simpa [step, KeyOp.effect] using (put_view_iff w s id v).mpr hkept
      · simpa [step, KeyOp.effect, hj] using put_view_ne hj
    | remove id =>
      refine ⟨trivial, fun j => ?_⟩
      by_cases hj : id = j
      · subst hj
        simpa [step, KeyOp.effect] using (remove_view_iff w s id).mpr hkept
      · simpa [step, KeyOp.effect, hj] using remove_view_ne hj
    | clear => exact ⟨trivial, (clear_view_iff w s).mpr hkept⟩

/-! ### Whole runs -/

theorem latestPut_append (calls : List (KeyCall Id)) (c : KeyCall Id) (id : Id) :
    latestPut (calls ++ [c]) id = c.op.effect id (latestPut calls id) := by
  simp [latestPut]

/-- The stores after a list of calls on a fresh install. -/
def storesAfter (calls : List (KeyCall Id)) : KeyStores Id :=
  run step .empty calls

theorem storesAfter_append (calls : List (KeyCall Id)) (c : KeyCall Id) :
    storesAfter (calls ++ [c]) = (storesAfter calls).step c := by
  simp [storesAfter]

/-- The repository has been a map throughout the calls. -/
structure IsMapAfter (calls : List (KeyCall Id)) : Prop where
  /-- A `get` with a working keyring would return the latest `put`, at any point. -/
  holds : ∀ before after, calls = before ++ after →
    ∀ id, (get .healthy (storesAfter before) id).1 = latestPut before id
  /-- Each `get` of the calls, whatever its keyring did, returned the latest `put`. -/
  answers : ∀ before c after, calls = before ++ c :: after →
    c.Answered (storesAfter before) (latestPut before)

/-- Calls that all leave no older copy behind keep the view equal to the map. -/
theorem view_eq_latestPut {calls : List (KeyCall Id)}
    (h : Along step (fun s c => c.Kept s) .empty calls) (id : Id) :
    (storesAfter calls).view id = latestPut calls id := by
  induction calls using List.reverseRecOn with
  | nil => simp [storesAfter, latestPut]
  | append_singleton before c ih =>
    rw [along_append] at h
    have hc : c.Refines (storesAfter before) := (refines_iff_kept _ c).mpr h.2.1
    rw [storesAfter_append, latestPut_append, hc.view, ih h.1]

/--
**The shared-key store is a map exactly while no call leaves an older copy behind.**

From right to left the view is carried through the run.  From left to right the map
property at two neighbouring points says that the call between them refined the
map, and only a kept call does.
-/
theorem isMapAfter_iff_kept (calls : List (KeyCall Id)) :
    IsMapAfter calls ↔ Along step (fun s c => c.Kept s) .empty calls := by
  constructor
  · intro h
    induction calls using List.reverseRecOn with
    | nil => trivial
    | append_singleton before c ih =>
      have hview : ∀ id, (storesAfter before).view id = latestPut before id := by
        intro id
        rw [← get_healthy]
        exact h.holds before [c] rfl id
      have hafter : ∀ id, ((storesAfter before).step c).view id =
          c.op.effect id ((storesAfter before).view id) := by
        intro id
        rw [hview, ← latestPut_append, ← storesAfter_append, ← get_healthy]
        exact h.holds (before ++ [c]) [] (by simp) id
      have hans := h.answers before c [] rfl
      rw [← funext hview] at hans
      refine (along_append _).mpr ⟨ih ⟨?_, ?_⟩, ?_, trivial⟩
      · intro xs ys hxy
        exact h.holds xs (ys ++ [c]) (by simp [hxy])
      · intro xs d ys hxy
        exact h.answers xs d (ys ++ [c]) (by simp [hxy])
      · exact (refines_iff_kept _ c).mp ⟨hans, hafter⟩
  · intro h
    refine ⟨?_, ?_⟩
    · intro before after hsplit id
      rw [hsplit, along_append] at h
      rw [get_healthy, view_eq_latestPut h.1]
    · intro before c after hsplit
      rw [hsplit, along_append] at h
      have hc : c.Refines (storesAfter before) := (refines_iff_kept _ c).mpr h.2.1
      rw [← funext (view_eq_latestPut h.1)]
      exact hc.answered

/-- A keyring that is reachable for reading and refuses to change. -/
private def readOnly : Answers Id := ⟨true, true, false, fun _ => true, fun _ => false⟩

/-- No Secret Service on the bus. -/
private def absent : Answers Id := ⟨false, false, false, fun _ => false, fun _ => false⟩

/--
A re-pair whose keyring write failed is undone by the next `get`, which returns the
older key and sweeps the newer one; a forgotten key comes back when the erase
failed; and a key the keyring holds is not found while no keyring answers.
-/
theorem older_key_returns :
    (get .healthy (storesAfter [⟨.put 0 "old", .healthy⟩, ⟨.put 0 "new", readOnly⟩]) 0).1
        = some "old" ∧
      (get .healthy (storesAfter [⟨.put 0 "old", .healthy⟩, ⟨.put 0 "new", readOnly⟩,
        ⟨.get 0, .healthy⟩]) 0).2.view 0 = some "old" ∧
      (get .healthy (storesAfter [⟨.put 0 "old", .healthy⟩, ⟨.remove 0, readOnly⟩]) 0).1
        = some "old" ∧
      (get absent (storesAfter [⟨.put 0 "old", .healthy⟩]) 0).1 = none ∧
      latestPut [⟨.put 0 "old", .healthy⟩, ⟨.put 0 "new", readOnly⟩] 0 = some "new" ∧
      latestPut [⟨.put 0 "old", .healthy⟩, ⟨.remove 0, readOnly⟩] 0 = none ∧
      ¬ IsMapAfter [⟨.put 0 "old", .healthy⟩, ⟨.put 0 "new", readOnly⟩] := by
  refine ⟨by decide, by decide, by decide, by decide, by decide, by decide, ?_⟩
  intro h
  have hget := h.holds [_, _] [] rfl 0
  exact absurd hget (by decide)

end Dish
