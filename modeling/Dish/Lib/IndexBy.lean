/-
Indexing a list by a key, as a loop of `m[key(x)] = x` does: a later entry replaces
an earlier one under the same key.

When no two entries share a key the index is the list read as a function of the
key, which is the form every user of it wants.
-/
import Mathlib.Data.List.AList
import Mathlib.Data.List.Induction
import Mathlib.Data.List.Nodup

namespace IndexBy

variable {α κ : Type*} (key : α → κ)

/-- No two entries of the list share a key. -/
def Distinct (l : List α) : Prop := (l.map key).Nodup

variable {l : List α}

theorem Distinct.eq_of_key {key : α → κ} (hl : Distinct key l) {a b : α}
    (ha : a ∈ l) (hb : b ∈ l) (h : key a = key b) : a = b :=
  List.inj_on_of_nodup_map hl ha hb h

variable [DecidableEq κ]

instance (l : List α) : Decidable (Distinct key l) :=
  inferInstanceAs (Decidable (l.map key).Nodup)

variable {k : κ} {a : α}

theorem Distinct.find?_eq_some {key : α → κ} (hl : Distinct key l) :
    (l.find? fun x => key x = k) = some a ↔ a ∈ l ∧ key a = k := by
  constructor
  · intro h
    exact ⟨List.mem_of_find?_eq_some h, by simpa using List.find?_some h⟩
  · rintro ⟨ha, rfl⟩
    cases hf : l.find? (fun x => key x = key a) with
    | none => exact absurd (List.find?_eq_none.mp hf a ha) (by simp)
    | some b =>
      have hkey : key b = key a := by simpa using List.find?_some hf
      rw [hl.eq_of_key (List.mem_of_find?_eq_some hf) ha hkey]

/-- The entries of the list under their keys, later ones winning. -/
def indexBy (l : List α) : AList fun _ : κ => α :=
  l.foldl (fun m a => m.insert (key a) a) ∅

variable {key}

theorem indexBy_append_singleton (l : List α) (a : α) :
    indexBy key (l ++ [a]) = (indexBy key l).insert (key a) a := by
  simp [indexBy]

theorem mem_indexBy : k ∈ indexBy key l ↔ k ∈ l.map key := by
  induction l using List.reverseRecOn with
  | nil => simp [indexBy]
  | append_singleton rest a ih =>
    rw [indexBy_append_singleton, AList.mem_insert, ih]
    simp [or_comm, eq_comm]

theorem lookup_indexBy_eq_none : (indexBy key l).lookup k = none ↔ k ∉ l.map key := by
  rw [AList.lookup_eq_none, mem_indexBy]

theorem of_lookup_indexBy (h : (indexBy key l).lookup k = some a) : a ∈ l ∧ key a = k := by
  induction l using List.reverseRecOn with
  | nil => simp [indexBy] at h
  | append_singleton rest b ih =>
    rw [indexBy_append_singleton] at h
    by_cases hk : k = key b
    · subst hk
      obtain rfl : b = a := by simpa using h
      simp
    · rw [AList.lookup_insert_ne hk] at h
      exact ⟨List.mem_append_left _ (ih h).1, (ih h).2⟩

/-- With distinct keys the index is the list, read by key. -/
theorem lookup_indexBy_eq_some (hl : Distinct key l) :
    (indexBy key l).lookup k = some a ↔ a ∈ l ∧ key a = k := by
  constructor
  · exact of_lookup_indexBy
  · rintro ⟨ha, rfl⟩
    cases hb : (indexBy key l).lookup (key a) with
    | none => exact absurd (List.mem_map_of_mem ha) (lookup_indexBy_eq_none.mp hb)
    | some b =>
      obtain ⟨hbl, hkey⟩ := of_lookup_indexBy hb
      rw [hl.eq_of_key hbl ha hkey]

end IndexBy
