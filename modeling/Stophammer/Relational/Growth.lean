import Stophammer.Relational.Write

/-!
# Tables that only grow or only shrink

What a statement that ends with a result adds to the end of one table, and statements
that only take rows away.
-/

namespace Relational

open Statement

variable {S : Schema} {t : S.Table} {ε α β : Type}

/-- A run with a result only adds rows to `t`, and `P` holds of the result and of the
rows `pre` with the added ones after them. -/
def Appends (t : S.Table) (pre : List (S.Row t)) (x : Statement ε (Database S) α)
    (P : α → List (S.Row t) → Prop) : Prop :=
  ∀ d a e, x d = (.ok a, e) → ∃ rows, e t = d t ++ rows ∧ P a (pre ++ rows)

namespace Appends

variable {pre : List (S.Row t)} {P Q : α → List (S.Row t) → Prop}

theorem pure {a : α} (h : P a pre) :
    Appends t pre (Pure.pure a : Statement ε (Database S) α) P := by
  intro d b e hrun
  cases hrun
  exact ⟨[], (List.append_nil _).symm, by rwa [List.append_nil]⟩

theorem fail (err : ε) : Appends t pre (fail err : Statement ε (Database S) α) P := by
  intro d b e hrun
  cases hrun

theorem of_leaves {x : Statement ε (Database S) α} (hx : Leaves (fun d => d t) x)
    (h : ∀ a, P a pre) : Appends t pre x P := by
  intro d a e hrun
  have hsame := hx d
  rw [hrun] at hsame
  refine ⟨[], ?_, ?_⟩
  · rw [List.append_nil]
    exact hsame
  · rw [List.append_nil]
    exact h a

theorem bind {x : Statement ε (Database S) α} {f : α → Statement ε (Database S) β}
    {R : β → List (S.Row t) → Prop} (hx : Appends t pre x Q)
    (hf : ∀ a rows, Q a rows → Appends t rows (f a) R) : Appends t pre (x >>= f) R := by
  intro d b e hrun
  obtain ⟨a, d', hfirst, hrest⟩ := bind_ok hrun
  obtain ⟨rows, hrows, hQ⟩ := hx d a d' hfirst
  obtain ⟨rows', hrows', hR⟩ := hf a _ hQ d' b e hrest
  refine ⟨rows ++ rows', ?_, ?_⟩
  · rw [hrows', hrows, List.append_assoc]
  · rwa [← List.append_assoc]

theorem leaves_bind {x : Statement ε (Database S) α} {f : α → Statement ε (Database S) β}
    {R : β → List (S.Row t) → Prop} (hx : Leaves (fun d => d t) x)
    (hf : ∀ a, Appends t pre (f a) R) : Appends t pre (x >>= f) R := by
  have hfirst : Appends t pre x fun _ rows => rows = pre := of_leaves hx fun _ => rfl
  apply hfirst.bind
  intro a rows hrows
  rw [hrows]
  exact hf a

theorem mono {x : Statement ε (Database S) α} (hx : Appends t pre x P)
    (h : ∀ a rows, P a rows → Q a rows) : Appends t pre x Q := by
  intro d a e hrun
  obtain ⟨rows, hrows, hP⟩ := hx d a e hrun
  exact ⟨rows, hrows, h a _ hP⟩

theorem after {x : Statement ε (Database S) α} (hx : Appends t [] x P)
    (h : ∀ a rows, P a rows → Q a (pre ++ rows)) : Appends t pre x Q := by
  intro d a e hrun
  obtain ⟨rows, hrows, hP⟩ := hx d a e hrun
  exact ⟨rows, hrows, h a rows hP⟩

theorem ite {p : Prop} [Decidable p] {x y : Statement ε (Database S) α}
    (hx : Appends t pre x P) (hy : Appends t pre y P) :
    Appends t pre (if p then x else y) P := by
  split
  · exact hx
  · exact hy

theorem transaction {x : Statement ε (Database S) α} (hx : Appends t pre x P) :
    Appends t pre (transaction x) P := by
  intro d a e hrun
  unfold Statement.transaction at hrun
  rcases hd : x d with ⟨err | b, d'⟩
  · rw [hd] at hrun
    cases hrun
  · rw [hd] at hrun
    exact hx d a e (hd.trans hrun)

theorem mapError {ε' : Type} {f : ε → ε'} {x : Statement ε (Database S) α}
    (hx : Appends t pre x P) : Appends t pre (mapError f x) P := by
  intro d a e hrun
  exact hx d a e (mapError_ok.mp hrun)

end Appends

/-- The rows after the run are rows from before it in the same order, whatever the
result. -/
def Shrinks (x : Statement ε (Database S) α) : Prop :=
  ∀ d t, ((x d).2 t).Sublist (d t)

namespace Shrinks

theorem pure (a : α) : Shrinks (S := S) (Pure.pure a : Statement ε (Database S) α) :=
  fun d t => List.Sublist.refl (d t)

theorem read (g : Database S → α) : Shrinks (read g : Statement ε (Database S) α) :=
  fun d t => List.Sublist.refl (d t)

theorem bind {x : Statement ε (Database S) α} {f : α → Statement ε (Database S) β}
    (hx : Shrinks x) (hf : ∀ a, Shrinks (f a)) : Shrinks (x >>= f) := by
  intro d t
  have hfirst := hx d t
  rw [bind_run]
  rcases hd : x d with ⟨err | a, d'⟩
  · rw [hd] at hfirst
    exact hfirst
  · rw [hd] at hfirst
    exact (hf a d' t).trans hfirst

theorem forEach {f : β → Statement ε (Database S) Unit} {xs : List β}
    (hf : ∀ b, Shrinks (f b)) : Shrinks (forEach f xs) := by
  induction xs with
  | nil => exact Shrinks.pure ()
  | cons b xs ih => exact (hf b).bind fun _ => ih

theorem transaction {x : Statement ε (Database S) α} (hx : Shrinks x) :
    Shrinks (transaction x) := by
  intro d t
  have h := hx d t
  unfold Statement.transaction
  rcases hd : x d with ⟨err | a, d'⟩
  · exact List.Sublist.refl (d t)
  · rw [hd] at h
    exact h

theorem delete {p : S.Row t → Bool} : Shrinks (delete t p) := by
  intro d u
  rcases modify_rows d (fun rows : List (S.Row t) => rows.filter (!p ·)) with
    herror | ⟨e, hok, hcontents⟩
  · change ((modify t _ d).2 u).Sublist (d u)
    rw [herror]
  · change ((modify t _ d).2 u).Sublist (d u)
    rw [hok, hcontents]
    by_cases hu : u = t
    · subst hu
      rw [Contents.set_same]
      exact List.filter_sublist
    · rw [Contents.set_other hu]

end Shrinks

/-- No row with `p` is in the table `t` after a run with a result. -/
def Clears (t : S.Table) (p : S.Row t → Bool) (x : Statement ε (Database S) α) : Prop :=
  ∀ d a e, x d = (.ok a, e) → ∀ r ∈ e t, p r = false

namespace Clears

variable {p : S.Row t → Bool}

theorem delete : Clears t p (Relational.delete t p) := by
  intro d a e hrun r hr
  have hrows := modify_rows d fun rows : List (S.Row t) => rows.filter (!p ·)
  rcases hrows with herror | ⟨e', hok, hcontents⟩
  · cases herror.symm.trans hrun
  · cases hok.symm.trans hrun
    rw [hcontents, Contents.set_same, List.mem_filter] at hr
    simpa using hr.2

theorem bind {x : Statement ε (Database S) α} {f : α → Statement ε (Database S) β}
    (hx : Clears t p x) (hf : ∀ a, Shrinks (f a)) : Clears t p (x >>= f) := by
  intro d b e hrun r hr
  obtain ⟨a, d', hfirst, hrest⟩ := bind_ok hrun
  have hsub := hf a d' t
  rw [hrest] at hsub
  exact hx d a d' hfirst r (hsub.subset hr)

theorem skip {x : Statement ε (Database S) α} {f : α → Statement ε (Database S) β}
    (hf : ∀ a, Clears t p (f a)) : Clears t p (x >>= f) := by
  intro d b e hrun
  obtain ⟨a, d', -, hrest⟩ := bind_ok hrun
  exact hf a d' b e hrest

theorem transaction {x : Statement ε (Database S) α} (hx : Clears t p x) :
    Clears t p (transaction x) := fun d a e hrun => hx d a e (transaction_ok.mp hrun)

theorem rows {x : Statement ε (Database S) α} (hx : Clears t p x) {d e : Database S} {a : α}
    (hrun : x d = (.ok a, e)) (hkeeps : Leaves (fun d => (d t).filter (!p ·)) x) :
    e t = (d t).filter (!p ·) := by
  rw [← hkeeps.run hrun]
  exact (List.filter_eq_self.mpr fun r hr => by simp [hx d a e hrun r hr]).symm

end Clears

theorem delete_keeps_rows {p q : S.Row t → Bool} (h : ∀ r, p r = true → q r = true) :
    Leaves (fun d : Database S => (d t).filter (!q ·)) (delete t p) := by
  intro d
  rcases modify_rows d (fun rows : List (S.Row t) => rows.filter (!p ·)) with
    herror | ⟨e, hok, hcontents⟩
  · rw [delete, herror]
  · rw [delete, hok]
    change (e t).filter (!q ·) = (d t).filter (!q ·)
    rw [hcontents, Contents.set_same, List.filter_filter]
    apply List.filter_congr
    intro r _
    cases hp : p r with
    | false => simp
    | true => simp [h r hp]

end Relational
