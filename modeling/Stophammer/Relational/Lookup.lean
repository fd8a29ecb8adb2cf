import Stophammer.Relational.Outcome
import Stophammer.Relational.Steps

/-!
# The row of a key

What a write of one table does to the row that has a given value of a column.
-/

namespace Relational

open Statement Database

section Rows

variable {α κ : Type} [DecidableEq κ] {key : α → κ} {k₀ k : κ}

theorem find_update {f : α → α} (hf : ∀ a, key a = k₀ → key (f a) = k₀) (rows : List α) :
    (rows.map fun a => if key a == k₀ then f a else a).find? (fun a => key a == k) =
      if k = k₀ then (rows.find? fun a => key a == k).map f
      else rows.find? fun a => key a == k := by
  induction rows with
  | nil => simp
  | cons a rows ih =>
    rw [List.map_cons]
    by_cases ha : key a = k₀
    · have hkey : key (f a) = k₀ := hf a ha
      rw [if_pos (beq_iff_eq.mpr ha)]
      by_cases hk : k = k₀
      · subst hk
        rw [if_pos rfl, List.find?_cons_of_pos (by simp [hkey]),
          List.find?_cons_of_pos (by simp [ha]), Option.map_some]
      · have hne : k₀ ≠ k := fun h => hk h.symm
        rw [List.find?_cons_of_neg (by simp [hkey, hne]), List.find?_cons_of_neg (by simp [ha, hne]),
          ih]
    · rw [if_neg (by simp [ha])]
      by_cases hk : key a = k
      · have hne : k ≠ k₀ := fun h => ha (hk.trans h)
        rw [List.find?_cons_of_pos (by simp [hk]), if_neg hne, List.find?_cons_of_pos (by simp [hk])]
      · rw [List.find?_cons_of_neg (by simp [hk]), List.find?_cons_of_neg (by simp [hk]), ih]

theorem find_delete (rows : List α) :
    (rows.filter fun a => !(key a == k₀)).find? (fun a => key a == k) =
      if k = k₀ then none else rows.find? fun a => key a == k := by
  induction rows with
  | nil => simp
  | cons a rows ih =>
    by_cases ha : key a = k₀
    · rw [List.filter_cons_of_neg (by simp [ha]), ih]
      split
      · rfl
      · rename_i hk
        have hne : key a ≠ k := fun h => hk (h.symm.trans ha)
        rw [List.find?_cons_of_neg (by simp [hne])]
    · rw [List.filter_cons_of_pos (by simp [ha])]
      by_cases hk : key a = k
      · have hne : k ≠ k₀ := fun h => ha (hk.trans h)
        rw [List.find?_cons_of_pos (by simp [hk]), if_neg hne, List.find?_cons_of_pos (by simp [hk])]
      · rw [List.find?_cons_of_neg (by simp [hk]), List.find?_cons_of_neg (by simp [hk]), ih]

theorem find_insert (rows : List α) {a : α} (hnew : ∀ b ∈ rows, key b ≠ key a) :
    (rows ++ [a]).find? (fun b => key b == k) =
      if k = key a then some a else rows.find? fun b => key b == k := by
  rw [List.find?_append]
  by_cases hk : k = key a
  · have hnone : (rows.find? fun b => key b == k) = none := by
      rw [List.find?_eq_none]
      intro b hb
      simpa [hk] using hnew b hb
    rw [hnone, if_pos hk]
    simp [hk]
  · have hne : ¬ key a = k := fun h => hk h.symm
    rw [if_neg hk]
    simp [hne]

end Rows

variable {S : Schema} {t : S.Table} {κ : Type} [DecidableEq κ] {k₀ : κ} {d e : Database S}
  {a : Unit}

theorem modify_ok_rows {f : List (S.Row t) → List (S.Row t)} (h : modify t f d = (.ok a, e)) :
    e t = f (d t) := by
  rcases modify_rows d f with herror | ⟨e', hrun, hcontents⟩
  · rw [herror] at h
    cases h
  · rw [hrun] at h
    cases h
    rw [hcontents, Contents.set_same]

theorem update_lookup (key : S.Row t → κ) {f : S.Row t → S.Row t}
    (h : update t (fun r => key r == k₀) f d = (.ok a, e))
    (hf : ∀ r, key r = k₀ → key (f r) = k₀) (k : κ) :
    (e t).find? (fun r => key r == k) =
      if k = k₀ then ((d t).find? fun r => key r == k).map f
      else (d t).find? fun r => key r == k := by
  rw [modify_ok_rows h]
  exact find_update hf (d t)

theorem delete_lookup (key : S.Row t → κ) (h : delete t (fun r => key r == k₀) d = (.ok a, e)) (k : κ) :
    (e t).find? (fun r => key r == k) =
      if k = k₀ then none else (d t).find? fun r => key r == k := by
  rw [modify_ok_rows h]
  exact find_delete (d t)

theorem modify_error_state {f : List (S.Row t) → List (S.Row t)} {err : S.Error}
    (h : modify t f d = (.error err, e)) : e = d := by
  rcases modify_rows d f with herror | ⟨e', hrun, -⟩
  · rw [herror] at h
    cases h
    rfl
  · rw [hrun] at h
    cases h

theorem upsert_error_state {p : S.Row t → Bool} {r : S.Row t} {f : S.Row t → S.Row t}
    {err : S.Error} (h : upsert t p r f d = (.error err, e)) : e = d := by
  by_cases hany : (d t).any p = true
  · rw [upsert_present d hany] at h
    exact modify_error_state h
  · rw [upsert_absent d hany] at h
    exact modify_error_state h

theorem upsert_lookup (key : S.Row t → κ) {r : S.Row t} {f : S.Row t → S.Row t}
    (h : upsert t (fun r' => key r' == k₀) r f d = (.ok a, e)) (hr : key r = k₀)
    (hf : ∀ r', key r' = k₀ → key (f r') = k₀) (k : κ) :
    (e t).find? (fun r' => key r' == k) =
      if k = k₀ then some ((((d t).find? fun r' => key r' == k).map f).getD r)
      else (d t).find? fun r' => key r' == k := by
  by_cases hany : ((d t).any fun r' => key r' == k₀) = true
  · rw [upsert_present d hany] at h
    rw [update_lookup key h hf]
    split
    · rename_i hk
      subst hk
      obtain ⟨r', hr'⟩ := Option.isSome_iff_exists.mp (List.find?_isSome.mpr (List.any_eq_true.mp hany))
      simp [hr']
    · rfl
  · rw [upsert_absent d hany] at h
    subst hr
    have hnew : ∀ r' ∈ d t, key r' ≠ key r := by
      intro r' hr' hkey
      exact hany (List.any_eq_true.mpr ⟨r', hr', by simp [hkey]⟩)
    rw [modify_ok_rows h, find_insert (d t) hnew]
    split
    · rename_i hk
      have hnone : ((d t).find? fun r' => key r' == k) = none := by
        rw [List.find?_eq_none]
        intro r' hr'
        simpa [hk] using hnew r' hr'
      simp [hnone]
    · rfl

theorem insertOrIgnore_mem {r : S.Row t} {b : Bool} (h : insertOrIgnore t r d = (.ok b, e))
    (hcheck : S.check t r = true)
    (hkey : ∀ r', ∀ k ∈ S.keys t r, k ∈ S.keys t r' → r' = r) (r' : S.Row t) :
    r' ∈ e t ↔ r' ∈ d t ∨ r' = r := by
  by_cases hnew : (∀ k ∈ S.keys t r, ¬ d.Has k) ∧ S.check t r
  · unfold insertOrIgnore at h
    rw [read_bind_run, if_pos (decide_eq_true hnew)] at h
    obtain ⟨_, d', hinsert, hpure⟩ := bind_ok h
    cases hpure
    rw [modify_ok_rows hinsert, List.mem_append, List.mem_singleton]
  · rw [insertOrIgnore_skip d hnew] at h
    cases h
    have hthere : r ∈ d t := by
      obtain ⟨k, hk, hhas⟩ : ∃ k ∈ S.keys t r, d.Has k := by
        by_contra hnone
        exact hnew ⟨fun k hk hhas => hnone ⟨k, hk, hhas⟩, hcheck⟩
      obtain ⟨r'', hr'', hshared⟩ := (has_iff (S.keys_home t r k hk)).mp hhas
      rw [← hkey r'' k hk hshared]
      exact hr''
    constructor
    · exact Or.inl
    · intro hr'
      rcases hr' with hr' | rfl
      · exact hr'
      · exact hthere

end Relational
