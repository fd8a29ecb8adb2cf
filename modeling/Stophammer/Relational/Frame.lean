import Stophammer.Relational.Lookup

/-!
# Rows that stay

A set of rows of each table, and the statements that leave every row of it as it is.
-/

namespace Relational

open Statement Database

variable {S : Schema} {t : S.Table} {α β : Type}

/-- The rows of `mine` are the same, in the same order. -/
def SameRows (mine : (t : S.Table) → S.Row t → Bool) (d e : Database S) : Prop :=
  ∀ t, (e t).filter (mine t) = (d t).filter (mine t)

variable {mine : (t : S.Table) → S.Row t → Bool}

instance : IsPreorder (Database S) (SameRows mine) where
  refl _ _ := rfl
  trans _ _ _ hst htu t := (htu t).trans (hst t)

theorem SameRows.find {d e : Database S} (h : SameRows mine d e) {p : S.Row t → Bool}
    (hp : ∀ r, p r = true → mine t r = true) : (e t).find? p = (d t).find? p := by
  have hfilter : ∀ rows : List (S.Row t), (rows.filter (mine t)).find? p = rows.find? p := by
    intro rows
    rw [List.find?_filter]
    congr 1
    funext r
    cases hr : p r with
    | true => simp [hp r hr]
    | false => simp
  rw [← hfilter (e t), h t, hfilter]

theorem SameRows.filter {d e : Database S} (h : SameRows mine d e) {p : S.Row t → Bool}
    (hp : ∀ r, p r = true → mine t r = true) : (e t).filter p = (d t).filter p := by
  have hfilter : ∀ rows : List (S.Row t), (rows.filter (mine t)).filter p = rows.filter p := by
    intro rows
    rw [List.filter_filter]
    apply List.filter_congr
    intro r _
    cases hr : p r with
    | true => simp [hp r hr]
    | false => simp
  rw [← hfilter (e t), h t, hfilter]

theorem forEach_insert_rows {rows : List (S.Row t)} {d e : Database S} {a : Unit}
    (h : forEach (insert t) rows d = (.ok a, e)) : e t = d t ++ rows := by
  induction rows generalizing d with
  | nil =>
    cases h
    rw [List.append_nil]
  | cons r rows ih =>
    obtain ⟨_, d₁, hinsert, hrest⟩ := bind_ok h
    rw [ih hrest, modify_ok_rows hinsert, List.append_assoc]
    rfl

theorem replaceRows_rows {p : S.Row t → Bool} {rows : List (S.Row t)} {d e : Database S} {a : Unit}
    (h : replaceRows t p rows d = (.ok a, e)) : e t = (d t).filter (!p ·) ++ rows := by
  obtain ⟨_, d₁, hdelete, hinsert⟩ := bind_ok h
  rw [forEach_insert_rows hinsert, modify_ok_rows hdelete]

theorem replaceRows_filter {p : S.Row t → Bool} {rows : List (S.Row t)} {d e : Database S} {a : Unit}
    (h : replaceRows t p rows d = (.ok a, e)) (hrows : ∀ r ∈ rows, p r = true) :
    (e t).filter p = rows := by
  rw [replaceRows_rows h, List.filter_append, List.filter_eq_self.mpr hrows, List.filter_filter]
  simp

namespace SameRows

theorem of_writes {ts : List S.Table} {x : Query S α} (hx : Writes ts x)
    (h : ∀ t ∈ ts, ∀ r, mine t r = false) : Steps (SameRows mine) x := by
  intro d u
  by_cases hu : u ∈ ts
  · rw [List.filter_eq_nil_iff.mpr fun r _ => by rw [h u hu r]; decide,
      List.filter_eq_nil_iff.mpr fun r _ => by rw [h u hu r]; decide]
  · exact congrArg (List.filter (mine u)) (hx u hu d)

theorem modify {f : List (S.Row t) → List (S.Row t)}
    (h : ∀ rows, (f rows).filter (mine t) = rows.filter (mine t)) :
    Steps (SameRows mine) (modify t f) := by
  intro d u
  by_cases hu : u = t
  · subst hu
    rcases modify_rows d f with hrun | ⟨e, hrun, hcontents⟩
    · rw [hrun]
    · rw [hrun, hcontents, Contents.set_same]
      exact h (d u)
  · exact congrArg (List.filter (mine u)) (modify_leaves hu d)

theorem delete {p : S.Row t → Bool} (h : ∀ r, p r = true → mine t r = false) :
    Steps (SameRows mine) (delete t p) := by
  apply SameRows.modify
  intro rows
  rw [List.filter_filter]
  apply List.filter_congr
  intro r _
  cases hr : p r with
  | true => simp [h r hr]
  | false => simp

theorem insert {r : S.Row t} (h : mine t r = false) : Steps (SameRows mine) (insert t r) := by
  apply SameRows.modify
  intro rows
  simp [List.filter_append, h]

theorem update {p : S.Row t → Bool} {f : S.Row t → S.Row t}
    (h : ∀ r, p r = true → mine t r = false ∧ mine t (f r) = false) :
    Steps (SameRows mine) (update t p f) := by
  apply SameRows.modify
  intro rows
  induction rows with
  | nil => rfl
  | cons r rows ih =>
    rw [List.map_cons, List.filter_cons, List.filter_cons, ih]
    by_cases hr : p r = true
    · simp [hr, (h r hr).1, (h r hr).2]
    · simp [hr]

theorem upsert {p : S.Row t → Bool} {r : S.Row t} {f : S.Row t → S.Row t} (hr : mine t r = false)
    (h : ∀ r, p r = true → mine t r = false ∧ mine t (f r) = false) :
    Steps (SameRows mine) (upsert t p r f) :=
  Steps.read_then fun _ => Steps.ite (SameRows.update h) (SameRows.insert hr)

theorem insertOrIgnore {r : S.Row t} (hr : mine t r = false) :
    Steps (SameRows mine) (insertOrIgnore t r) :=
  Steps.read_then fun _ => Steps.ite ((SameRows.insert hr).bind fun _ => .pure _) (.pure _)

theorem replaceRows {p : S.Row t → Bool} {rows : List (S.Row t)}
    (h : ∀ r, p r = true → mine t r = false) (hrows : ∀ r ∈ rows, mine t r = false) :
    Steps (SameRows mine) (replaceRows t p rows) :=
  (SameRows.delete h).bind fun _ => Steps.forEach fun r hr => SameRows.insert (hrows r hr)

theorem updateLast_at {f : β → S.Row t → S.Row t} (hf : ∀ b r, mine t r = false → mine t (f b r) = false)
    {xs : List β} {rows : List (S.Row t)} {r : S.Row t} {d : Database S}
    (hlast : d t = rows ++ [r]) (hr : mine t r = false) :
    SameRows mine d (forEach (fun b => updateLast t (f b)) xs d).2 := by
  induction xs generalizing d r with
  | nil => exact refl_of (SameRows mine) d
  | cons b xs ih =>
    have hnew : mapLast (f b) (d t) = rows ++ [f b r] := by rw [hlast, mapLast_append]
    rcases updateLast_rows d (f b) with hrun | ⟨e, hrun, hcontents⟩
    · rw [forEach_cons, bind_run_error hrun]
      exact refl_of (SameRows mine) d
    · rw [forEach_cons, bind_run_ok hrun]
      have hrows : e t = rows ++ [f b r] := by rw [hcontents, Contents.set_same, hnew]
      refine trans_of (SameRows mine) (fun u => ?_) (ih hrows (hf b r hr))
      by_cases hu : u = t
      · subst hu
        simp [hrows, hlast, hr, hf b r hr]
      · exact congrArg (List.filter (mine u)) (by rw [hcontents, Contents.set_other hu])

theorem insert_updateLast {f : β → S.Row t → S.Row t}
    (hf : ∀ b r, mine t r = false → mine t (f b r) = false) {xs : List β} {r : S.Row t}
    (hr : mine t r = false) :
    Steps (SameRows mine)
      (Relational.insert t r >>= fun _ => forEach (fun b => updateLast t (f b)) xs) := fun d =>
  Steps.after (SameRows.insert hr d) fun _ _ hinsert =>
    updateLast_at hf (modify_ok_rows hinsert) hr

end SameRows

end Relational
