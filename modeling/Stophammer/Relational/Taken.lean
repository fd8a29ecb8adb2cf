import Stophammer.Relational.Growth

/-!
# What a run takes away

The exact rows that a sequence of deletes takes from each table.
-/

namespace Relational

open Statement

variable {S : Schema} {ε α β : Type}

/-- The rows of one table with `p`. -/
def onTable (u : S.Table) (p : S.Row u → Bool) (t : S.Table) (r : S.Row t) : Bool :=
  if h : t = u then p (h ▸ r) else false

@[simp] theorem onTable_same (t : S.Table) (p : S.Row t → Bool) (r : S.Row t) :
    onTable t p t r = p r := by simp [onTable]

@[simp] theorem onTable_other {u t : S.Table} (h : t ≠ u) (p : S.Row u → Bool) (r : S.Row t) :
    onTable u p t r = false := by simp [onTable, h]

/-- The rows of `e` are the rows of `d` without those with `p`. -/
def Without (p : (t : S.Table) → S.Row t → Bool) (d e : Database S) : Prop :=
  ∀ t, e t = (d t).filter (!p t ·)

variable {p q : (t : S.Table) → S.Row t → Bool} {d e f : Database S}

theorem Without.trans (h : Without p d e) (h' : Without q e f) :
    Without (fun t r => p t r || q t r) d f := by
  intro t
  rw [h' t, h t, List.filter_filter]
  apply List.filter_congr
  intro r _
  rw [Bool.not_or, Bool.and_comm]

theorem Without.congr (h : Without p d e) (hpq : ∀ t, ∀ r ∈ d t, p t r = q t r) :
    Without q d e := by
  intro t
  rw [h t]
  apply List.filter_congr
  intro r hr
  rw [hpq t r hr]

theorem Without.mem (h : Without p d e) {t : S.Table} {r : S.Row t} :
    r ∈ e t ↔ r ∈ d t ∧ p t r = false := by
  rw [h t, List.mem_filter, Bool.not_eq_true']

theorem Without.eq_of_none (h : Without p d e) (hnone : ∀ t, ∀ r ∈ d t, p t r = false) : e = d := by
  apply Database.ext
  intro t
  rw [h t, List.filter_eq_self]
  intro r hr
  rw [hnone t r hr]
  rfl

theorem Without.gone_iff (h : Without p d e) {P : (t : S.Table) → S.Row t → Prop} :
    (∀ t, ∀ r ∈ e t, ¬ P t r) ↔ ∀ t, ∀ r ∈ d t, P t r → p t r = true := by
  constructor
  · intro hgone t r hr hP
    by_contra hp
    exact hgone t r (h.mem.mpr ⟨hr, (Bool.not_eq_true _).mp hp⟩) hP
  · intro htaken t r hr hP
    obtain ⟨hmem, hp⟩ := h.mem.mp hr
    rw [htaken t r hmem hP] at hp
    cases hp

/-- The rows with `P` stay, in the same order. -/
def Unchanged (P : (t : S.Table) → S.Row t → Prop) (d e : Database S) : Prop :=
  ∀ t (part : S.Row t → Bool), (∀ r, part r = true → P t r) →
    (e t).filter part = (d t).filter part

open Classical in
theorem Without.unchanged_iff (h : Without p d e) {P : (t : S.Table) → S.Row t → Prop} :
    Unchanged P d e ↔ ∀ t, ∀ r ∈ d t, P t r → p t r = false := by
  constructor
  · intro hsame t r hr hP
    have hpart := hsame t (fun r' => decide (r' = r)) fun r' hr' => by
      rw [of_decide_eq_true hr']
      exact hP
    have hmem : r ∈ (d t).filter fun r' => decide (r' = r) :=
      List.mem_filter.mpr ⟨hr, decide_eq_true rfl⟩
    rw [← hpart] at hmem
    exact (h.mem.mp (List.mem_filter.mp hmem).1).2
  · intro hkept t part hpart
    rw [h t, List.filter_filter]
    apply List.filter_congr
    intro r hr
    cases hr' : part r with
    | false => rfl
    | true => rw [hkept t r hr (hpart r hr')]; rfl

/-- A run with a result takes away exactly the rows with `p`. -/
def Takes (p : (t : S.Table) → S.Row t → Bool) (x : Statement ε (Database S) α) : Prop :=
  ∀ d a e, x d = (.ok a, e) → Without p d e

namespace Takes

theorem pure (a : α) : Takes (S := S) (fun _ _ => false) (Pure.pure a : Statement ε (Database S) α) := by
  intro d b e hrun t
  cases hrun
  exact (List.filter_true _).symm

theorem delete {u : S.Table} {p : S.Row u → Bool} :
    Takes (onTable u p) (Relational.delete u p) := by
  intro d a e hrun t
  rcases modify_rows d fun rows : List (S.Row u) => rows.filter (!p ·) with
    herror | ⟨e', hok, hcontents⟩
  · cases herror.symm.trans hrun
  · cases hok.symm.trans hrun
    by_cases ht : t = u
    · subst ht
      rw [hcontents, Contents.set_same]
      simp only [onTable_same]
    · rw [hcontents, Contents.set_other ht]
      simp only [onTable_other ht, Bool.not_false, List.filter_true]

theorem bind {x : Statement ε (Database S) α} {g : α → Statement ε (Database S) β}
    (hx : Takes p x) (hg : ∀ a, Takes q (g a)) :
    Takes (fun t r => p t r || q t r) (x >>= g) := by
  intro d b e hrun
  obtain ⟨a, d', hfirst, hrest⟩ := bind_ok hrun
  exact (hx d a d' hfirst).trans (hg a d' b e hrest)

theorem forEach {g : β → Statement ε (Database S) Unit}
    {ps : β → (t : S.Table) → S.Row t → Bool} (hg : ∀ b, Takes (ps b) (g b)) (xs : List β) :
    Takes (fun t r => xs.any fun b => ps b t r) (forEach g xs) := by
  induction xs with
  | nil => exact Takes.pure ()
  | cons b xs ih =>
    intro d a e hrun
    exact ((hg b).bind fun _ => ih) d a e hrun

end Takes

end Relational
