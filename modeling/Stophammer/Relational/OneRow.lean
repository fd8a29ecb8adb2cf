import Stophammer.Relational.Outcome

/-!
# An update of the row of a key

The row that holds a key can take other keys, when no other row has them and no row names the
keys that it gives up.
-/

namespace Relational

open Statement Database

variable {S : Schema} {t : S.Table} {d : Database S} {k : S.Key} {old : S.Row t}
  {p : S.Row t → Bool} {f : S.Row t → S.Row t}

theorem keysOf_update_nodup (hp : ∀ r ∈ d t, (p r = true ↔ k ∈ S.keys t r))
    (hnew : ∀ r ∈ d t, p r = true → ∀ j ∈ S.keys t (f r), j ∈ S.keys t r ∨ ¬ d.Has j) :
    (Contents.keysOf t ((d t).map fun r => if p r then f r else r)).Nodup := by
  have hapart := (List.nodup_flatMap.mp (d.valid.unique t)).2
  -- a key of an updated row is one of its own or new, so no other row has it
  have hother : ∀ r ∈ d t, ∀ r' ∈ d t, p r = true → (S.keys t r).Disjoint (S.keys t r') →
      (S.keys t (f r)).Disjoint (S.keys t r') := by
    intro r hr r' hr' hpr hdisjoint j hj hj'
    rcases hnew r hr hpr j hj with hown | hfree
    · exact hdisjoint hown hj'
    · exact hfree ((has_iff (S.keys_home t r' j hj')).mpr ⟨r', hr', hj'⟩)
  rw [Contents.keysOf, List.nodup_flatMap]
  refine ⟨fun r _ => S.keys_nodup t r, ?_⟩
  rw [List.pairwise_map]
  refine hapart.imp_of_mem ?_
  intro r r' hr hr' hdisjoint
  by_cases hpr : p r = true <;> by_cases hpr' : p r' = true
  · exact absurd ((hp r' hr').mp hpr') (hdisjoint ((hp r hr).mp hpr))
  · simp only [Function.onFun, hpr, hpr', if_true]
    exact hother r hr r' hr' hpr hdisjoint
  · simp only [Function.onFun, hpr, hpr', if_true]
    exact fun j hj hj' => hother r' hr' r hr hpr' (fun _ h h' => hdisjoint h' h) hj' hj
  · simp only [Function.onFun, hpr, hpr']
    exact hdisjoint

theorem update_row_run (hp : ∀ r ∈ d t, (p r = true ↔ k ∈ S.keys t r))
    (hnew : ∀ r ∈ d t, p r = true → ∀ j ∈ S.keys t (f r), j ∈ S.keys t r ∨ ¬ d.Has j)
    (hkept : ∀ r ∈ d t, p r = true → ∀ j ∈ S.keys t r, j ∈ S.keys t (f r) ∨ d.Unreferenced j)
    (hrefs : ∀ r ∈ d t, p r = true → S.refs t (f r) = S.refs t r)
    (hcheck : ∀ r ∈ d t, p r = true → S.check t (f r)) :
    ∃ e : Database S, update t p f d = (.ok (), e) ∧
      e.contents = d.contents.set t ((d t).map fun r => if p r then f r else r) := by
  refine ⟨_, modify_ok (Contents.valid_set d.valid (keysOf_update_nodup hp hnew) ?_ ?_ ?_), rfl⟩
  · intro r hr
    obtain ⟨r', hr', rfl⟩ := List.mem_map.mp hr
    split
    · exact hcheck r' hr' ‹_›
    · exact d.valid.checked t r' hr'
  · intro r hr j hj
    obtain ⟨r', hr', rfl⟩ := List.mem_map.mp hr
    split at hj
    · rw [hrefs r' hr' ‹_›] at hj
      exact d.valid.referenced t r' hr' j hj
    · exact d.valid.referenced t r' hr' j hj
  · intro v r hr j hj hhome
    obtain ⟨row, hrow, hkey⟩ := (has_iff hhome).mp (d.valid.referenced v r hr j hj)
    refine List.mem_flatMap.mpr ⟨_, List.mem_map_of_mem hrow, ?_⟩
    split
    · rename_i hprow
      rcases hkept row hrow hprow j hkey with hstays | hfree
      · exact hstays
      · exact absurd hj (hfree v r hr)
    · exact hkey

end Relational
