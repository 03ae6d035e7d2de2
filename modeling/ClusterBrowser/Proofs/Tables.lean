import ClusterBrowser.Table
import Mathlib.Data.List.Nodup
import Mathlib.Tactic.SplitIfs

/-!
# Tables after a change

* `Table.find?_put`, `Table.find?_adjust`: what is found after a change.
* `Table.keys_put`, `Table.keys_adjust`: the keys after a change.
* `Table.put_of_not_mem_keys`, `Table.put_of_mem`: what putting does to an absent key, and to an entry that is there.
* `Table.find?_eq_some_iff`, `Table.mem_put_iff`: a table without repeated keys holds what is found in it, and nothing
  else.
-/

namespace ClusterBrowser.Table

variable {κ α : Type} [DecidableEq κ]

/-! ## What is found -/

theorem find?_put (t : Table κ α) (key : κ) (a : α) (k : κ) :
    (t.put key a).find? k = if key = k then some a else t.find? k := by
  induction t with
  | nil => rfl
  | cons entry rest ih =>
    obtain ⟨k', b⟩ := entry
    rw [put]
    by_cases hkey : k' = key
    · subst hkey
      rw [if_pos rfl, find?, find?]
      split_ifs <;> rfl
    · rw [if_neg hkey, find?, find?, ih]
      by_cases hk : k' = k
      · subst hk
        rw [if_pos rfl, if_pos rfl, if_neg fun h => hkey h.symm]
      · rw [if_neg hk, if_neg hk]

theorem find?_adjust (t : Table κ α) (key : κ) (f : α → α) (k : κ) :
    (t.adjust key f).find? k = if key = k then (t.find? k).map f else t.find? k := by
  induction t with
  | nil => simp [adjust, find?]
  | cons entry rest ih =>
    obtain ⟨k', b⟩ := entry
    have hcons : adjust key f ((k', b) :: rest) = (k', if k' = key then f b else b) :: adjust key f rest := by
      rw [adjust, adjust, List.map_cons]
      dsimp only
      split_ifs <;> rfl
    rw [hcons, find?, find?, ih]
    by_cases hk : k' = k
    · subst hk
      rw [if_pos rfl, if_pos rfl]
      by_cases hkey : k' = key
      · rw [if_pos hkey, if_pos hkey.symm]
        rfl
      · rw [if_neg hkey, if_neg fun h => hkey h.symm]
    · rw [if_neg hk, if_neg hk]

theorem mem_of_find? {t : Table κ α} {key : κ} {a : α} (h : t.find? key = some a) :
    (key, a) ∈ t := by
  induction t with
  | nil => exact nomatch h
  | cons entry rest ih =>
    obtain ⟨k, b⟩ := entry
    rw [find?] at h
    split_ifs at h with hkey
    · obtain rfl := Option.some.inj h
      exact hkey ▸ List.mem_cons_self
    · exact List.mem_cons_of_mem _ (ih h)

/-! ## Keys -/

omit [DecidableEq κ] in
theorem keys_cons (key : κ) (a : α) (t : Table κ α) : keys ((key, a) :: t) = key :: t.keys := rfl

omit [DecidableEq κ] in
theorem mem_keys_of_mem {t : Table κ α} {key : κ} {a : α} (h : (key, a) ∈ t) : key ∈ t.keys :=
  List.mem_map_of_mem h

theorem isSome_find?_iff {t : Table κ α} {key : κ} : (t.find? key).isSome = true ↔ key ∈ t.keys := by
  induction t with
  | nil => simp [find?, keys]
  | cons entry rest ih =>
    obtain ⟨k, a⟩ := entry
    rw [find?, keys_cons, List.mem_cons]
    by_cases hkey : k = key
    · simp [hkey]
    · rw [if_neg hkey, ih]
      exact (or_iff_right fun h => hkey h.symm).symm

theorem keys_adjust (t : Table κ α) (key : κ) (f : α → α) : (t.adjust key f).keys = t.keys := by
  rw [keys, adjust, List.map_map, keys]
  apply List.map_congr_left
  intro entry _
  dsimp only [Function.comp_apply]
  split_ifs <;> rfl

theorem keys_put (t : Table κ α) (key : κ) (a : α) :
    (t.put key a).keys = if key ∈ t.keys then t.keys else t.keys ++ [key] := by
  induction t with
  | nil => rfl
  | cons entry rest ih =>
    obtain ⟨k, b⟩ := entry
    rw [put, keys_cons]
    by_cases hkey : k = key
    · subst hkey
      rw [if_pos rfl, if_pos List.mem_cons_self]
      rfl
    · have hmem : key ∈ k :: keys rest ↔ key ∈ keys rest := List.mem_cons.trans (or_iff_right fun h => hkey h.symm)
      rw [if_neg hkey, keys_cons, ih]
      by_cases hrest : key ∈ keys rest
      · rw [if_pos hrest, if_pos (hmem.mpr hrest)]
      · rw [if_neg hrest, if_neg fun h => hrest (hmem.mp h)]
        rfl

theorem nodup_keys_put {t : Table κ α} (h : t.keys.Nodup) (key : κ) (a : α) : (t.put key a).keys.Nodup := by
  rw [keys_put]
  split_ifs with hkey
  · exact h
  · rw [← List.concat_eq_append]
    exact h.concat hkey

theorem find?_eq_some_iff {t : Table κ α} (h : t.keys.Nodup) {key : κ} {a : α} :
    t.find? key = some a ↔ (key, a) ∈ t := by
  refine ⟨mem_of_find?, ?_⟩
  intro hmem
  induction t with
  | nil => exact nomatch hmem
  | cons entry rest ih =>
    obtain ⟨k, b⟩ := entry
    obtain ⟨hfirst, hrest⟩ := List.nodup_cons.mp h
    rw [find?]
    rcases List.mem_cons.mp hmem with heq | hmem
    · obtain ⟨rfl, rfl⟩ := Prod.mk.inj heq
      rw [if_pos rfl]
    · -- The first key is not repeated further on.
      have hkey : k ≠ key := by
        rintro rfl
        exact hfirst (mem_keys_of_mem hmem)
      rw [if_neg hkey]
      exact ih hrest hmem

theorem mem_put_iff {t : Table κ α} (h : t.keys.Nodup) {key k : κ} {a b : α} :
    (k, b) ∈ t.put key a ↔ (k = key ∧ b = a) ∨ (k ≠ key ∧ (k, b) ∈ t) := by
  rw [← find?_eq_some_iff (nodup_keys_put h key a), find?_put, ← find?_eq_some_iff h]
  by_cases hkey : key = k
  · rw [if_pos hkey]
    simp [hkey, eq_comm]
  · have hkey' : k ≠ key := fun h => hkey h.symm
    rw [if_neg hkey]
    simp [hkey']

theorem put_of_not_mem_keys {t : Table κ α} {key : κ} (h : key ∉ t.keys) (a : α) : t.put key a = t ++ [(key, a)] := by
  induction t with
  | nil => rfl
  | cons entry rest ih =>
    obtain ⟨k, b⟩ := entry
    rw [keys_cons, List.mem_cons, not_or] at h
    rw [put, if_neg fun hk => h.1 hk.symm, ih h.2, List.cons_append]

theorem put_of_mem {t : Table κ α} (h : t.keys.Nodup) {key : κ} {a : α} (hmem : (key, a) ∈ t) : t.put key a = t := by
  induction t with
  | nil => exact nomatch hmem
  | cons entry rest ih =>
    obtain ⟨k, b⟩ := entry
    obtain ⟨hfirst, hrest⟩ := List.nodup_cons.mp h
    rw [put]
    rcases List.mem_cons.mp hmem with heq | hmem
    · obtain ⟨rfl, rfl⟩ := Prod.mk.inj heq
      rw [if_pos rfl]
    · have hkey : k ≠ key := by
        rintro rfl
        exact hfirst (mem_keys_of_mem hmem)
      rw [if_neg hkey, ih hrest hmem]

end ClusterBrowser.Table
