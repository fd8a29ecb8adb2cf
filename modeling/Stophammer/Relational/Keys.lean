import Stophammer.Relational.Outcome
import Stophammer.Relational.Steps

/-!
# Keys that a statement keeps

Which keys of the rows are there after a write of one table.
-/

namespace Relational

open Statement Database

variable {S : Schema} {t : S.Table} {k : S.Key} {ε α : Type}

theorem modify_has {f : List (S.Row t) → List (S.Row t)} {d e : Database S} {a : Unit}
    (h : modify t f d = (.ok a, e)) (ht : S.home k = t) :
    e.Has k ↔ ∃ r ∈ f (d t), k ∈ S.keys t r := by
  rcases modify_rows d f with herror | ⟨e', hrun, hcontents⟩
  · rw [herror] at h
    cases h
  · rw [hrun] at h
    cases h
    rw [has_iff ht, hcontents, Contents.set_same]

theorem modify_keeps {f : List (S.Row t) → List (S.Row t)} {d : Database S}
    (hf : S.home k = t → (∃ r ∈ d t, k ∈ S.keys t r) → ∃ r ∈ f (d t), k ∈ S.keys t r) :
    Keeps (fun d : Database S => d.Has k) d (modify t f d).2 := by
  intro hd
  by_cases ht : S.home k = t
  · rcases hrun : modify t f d with ⟨_ | a, e⟩
    · rcases modify_rows d f with herror | ⟨e', hok, -⟩
      · rw [herror] at hrun
        cases hrun
        exact hd
      · rw [hok] at hrun
        cases hrun
    · exact (modify_has hrun ht).mpr (hf ht ((has_iff ht).mp hd))
  · exact (has_congr (modify_leaves ht d)).mpr hd

theorem insert_keeps {r : S.Row t} : Steps (Keeps fun d : Database S => d.Has k) (insert t r) := by
  intro d
  apply modify_keeps
  rintro - ⟨r', hr', hk⟩
  exact ⟨r', List.mem_append_left _ hr', hk⟩

theorem delete_keeps {p : S.Row t → Bool} (hp : ∀ r, k ∈ S.keys t r → p r = false) :
    Steps (Keeps fun d : Database S => d.Has k) (delete t p) := by
  intro d
  apply modify_keeps
  rintro - ⟨r, hr, hk⟩
  exact ⟨r, List.mem_filter.mpr ⟨hr, by simp [hp r hk]⟩, hk⟩

theorem insertOrIgnore_keeps {r : S.Row t} :
    Steps (Keeps fun d : Database S => d.Has k) (insertOrIgnore t r) :=
  Steps.read_then fun _ => .ite (insert_keeps.bind fun _ => .pure true) (.pure false)

theorem insertOrReplace_keeps {r : S.Row t}
    (hkeys : ∀ r' k', k' ∈ S.keys t r → k' ∈ S.keys t r' → k ∈ S.keys t r' → k ∈ S.keys t r) :
    Steps (Keeps fun d : Database S => d.Has k) (insertOrReplace t r) := by
  intro d
  apply modify_keeps
  rintro - ⟨r', hr', hk⟩
  by_cases hshared : ∀ k' ∈ S.keys t r, k' ∉ S.keys t r'
  · refine ⟨r', List.mem_append_left _ (List.mem_filter.mpr ⟨hr', ?_⟩), hk⟩
    exact decide_eq_true hshared
  · obtain ⟨k', hk', hmem⟩ := not_forall₂.mp hshared
    refine ⟨r, by simp, hkeys r' k' hk' (not_not.mp hmem) hk⟩

theorem upsert_keeps {p : S.Row t → Bool} {r : S.Row t} {f : S.Row t → S.Row t}
    (hf : ∀ r', p r' = true → k ∈ S.keys t r' → k ∈ S.keys t (f r')) :
    Steps (Keeps fun d : Database S => d.Has k) (upsert t p r f) := by
  have hupdate : Steps (Keeps fun d : Database S => d.Has k) (update t p f) := by
    intro d
    apply modify_keeps
    rintro - ⟨r', hr', hk⟩
    refine ⟨_, List.mem_map_of_mem hr', ?_⟩
    split
    · exact hf r' ‹_› hk
    · exact hk
  exact Steps.read_then fun _ => .ite hupdate insert_keeps

theorem upsert_has {p : S.Row t → Bool} {r : S.Row t} {f : S.Row t → S.Row t}
    {d e : Database S} {a : Unit} (h : upsert t p r f d = (.ok a, e)) (hr : k ∈ S.keys t r)
    (hf : ∀ r', p r' = true → k ∈ S.keys t (f r')) : e.Has k := by
  have ht : S.home k = t := S.keys_home t r k hr
  by_cases hany : (d t).any p = true
  · rw [upsert_present d hany] at h
    obtain ⟨r', hr', hp⟩ := List.any_eq_true.mp hany
    refine (modify_has h ht).mpr ⟨_, List.mem_map_of_mem hr', ?_⟩
    rw [if_pos hp]
    exact hf r' hp
  · rw [upsert_absent d hany] at h
    exact (modify_has h ht).mpr ⟨r, by simp, hr⟩

theorem upsert_gains {p : S.Row t → Bool} {r : S.Row t} {f : S.Row t → S.Row t}
    (hr : k ∉ S.keys t r) (hf : ∀ r', p r' = true → k ∈ S.keys t (f r') → k ∈ S.keys t r')
    {d : Database S} (h : (upsert t p r f d).2.Has k) : d.Has k := by
  by_cases ht : S.home k = t
  · rcases hrun : upsert t p r f d with ⟨err | a, e⟩
    · have hsame : e = d := by
        by_cases hany : (d t).any p = true
        · rw [upsert_present d hany] at hrun
          rcases modify_rows d (fun rows : List (S.Row t) => rows.map fun r' =>
            if p r' then f r' else r') with herror | ⟨e', hok, -⟩
          · exact (congrArg Prod.snd (herror.symm.trans hrun)).symm
          · cases hok.symm.trans hrun
        · rw [upsert_absent d hany] at hrun
          rcases insert_rows d r with herror | ⟨e', hok, -⟩
          · exact (congrArg Prod.snd (herror.symm.trans hrun)).symm
          · cases hok.symm.trans hrun
      rw [hrun, hsame] at h
      exact h
    · rw [hrun] at h
      by_cases hany : (d t).any p = true
      · rw [upsert_present d hany] at hrun
        obtain ⟨r', hr', hk⟩ := (modify_has hrun ht).mp h
        obtain ⟨old, hold, rfl⟩ := List.mem_map.mp hr'
        refine (has_iff ht).mpr ⟨old, hold, ?_⟩
        split at hk
        · exact hf old ‹_› hk
        · exact hk
      · rw [upsert_absent d hany] at hrun
        obtain ⟨r', hr', hk⟩ := (modify_has hrun ht).mp h
        rcases List.mem_append.mp hr' with hr' | hr'
        · exact (has_iff ht).mpr ⟨r', hr', hk⟩
        · rw [List.mem_singleton.mp hr'] at hk
          exact absurd hk hr
  · have hwrites : Writes [t] (upsert t p r f) := Writes.upsert (by simp)
    exact (has_congr (hwrites (S.home k) (by simpa using ht) d)).mp h

theorem Shrinks.has {x : Statement ε (Database S) α} (hx : Shrinks x) {d : Database S}
    (h : (x d).2.Has k) : d.Has k := by
  obtain ⟨r, hr, hk⟩ := (has_iff rfl).mp h
  exact (has_iff rfl).mpr ⟨r, (hx d _).subset hr, hk⟩

end Relational
