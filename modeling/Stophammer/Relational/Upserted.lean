import Stophammer.Relational.Lookup

/-!
# Rows after an upsert

The rows of a table as a list: what `INSERT ... ON CONFLICT DO UPDATE` makes of them, and what
a reader that sees a part of each row makes of it.
-/

namespace Relational

open Statement

section

variable {α β : Type} {p : α → Bool} {q : β → Bool} {f : α → α} {f' : β → β} {g : α → β}

/-- The rows with `p` are changed.  The new row goes in when there is none. -/
def upserted (p : α → Bool) (a : α) (f : α → α) (rows : List α) : List α :=
  if rows.any p then rows.map fun b => if p b then f b else b else rows ++ [a]

theorem map_updated (hq : ∀ b, q (g b) = p b) (hf : ∀ b, p b = true → g (f b) = f' (g b))
    (rows : List α) : (rows.map fun b => if p b then f b else b).map g =
      (rows.map g).map fun c => if q c then f' c else c := by
  rw [List.map_map, List.map_map]
  apply List.map_congr_left
  intro b _
  rw [Function.comp_apply, Function.comp_apply, hq]
  cases hp : p b with
  | true => exact hf b hp
  | false => rfl

theorem upserted_map (hq : ∀ b, q (g b) = p b) (hf : ∀ b, p b = true → g (f b) = f' (g b))
    (a : α) (rows : List α) :
    (upserted p a f rows).map g = upserted q (g a) f' (rows.map g) := by
  have hany : (rows.map g).any q = rows.any p := by
    rw [List.any_map]
    exact congrArg rows.any (funext hq)
  rw [upserted, upserted, hany]
  split
  · exact map_updated hq hf rows
  · rw [List.map_append]
    rfl

theorem mem_upserted {a b : α} {rows : List α} (hb : b ∈ rows) (hp : p b = false) :
    b ∈ upserted p a f rows := by
  rw [upserted]
  split
  · exact List.mem_map.mpr ⟨b, hb, by rw [if_neg (by simp [hp])]⟩
  · exact List.mem_append_left _ hb

theorem exists_upserted (p : α → Bool) (a : α) (f : α → α) (rows : List α) :
    ∃ b ∈ upserted p a f rows, b = a ∨ ∃ c ∈ rows, p c = true ∧ b = f c := by
  rw [upserted]
  split
  · rename_i hany
    obtain ⟨c, hc, hp⟩ := List.any_eq_true.mp hany
    exact ⟨f c, List.mem_map.mpr ⟨c, hc, if_pos hp⟩, .inr ⟨c, hc, hp, rfl⟩⟩
  · exact ⟨a, List.mem_append_right _ (List.mem_singleton.mpr rfl), .inl rfl⟩

theorem map_updated_absent {rows : List α} (h : ∀ b ∈ rows, p b = false) :
    (rows.map fun b => if p b then f b else b) = rows := by
  conv_rhs => rw [← List.map_id rows]
  apply List.map_congr_left
  intro b hb
  rw [if_neg (by simp [h b hb])]
  rfl

end

variable {S : Schema} {t : S.Table} {d e : Database S} {p : S.Row t → Bool} {r : S.Row t}
  {f : S.Row t → S.Row t} {a : Unit}

theorem upsert_rows (h : upsert t p r f d = (.ok a, e)) : e t = upserted p r f (d t) := by
  rw [upserted]
  by_cases hany : (d t).any p = true
  · rw [upsert_present d hany] at h
    rw [if_pos hany]
    exact modify_ok_rows h
  · rw [upsert_absent d hany] at h
    rw [if_neg hany]
    exact modify_ok_rows h

end Relational
