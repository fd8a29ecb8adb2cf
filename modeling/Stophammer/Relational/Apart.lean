import Stophammer.Relational.Write

/-!
# A table that stands apart

No reference goes to the table and none comes from it.  A statement that neither reads
nor writes it does the same in two databases that differ in this table alone.
-/

namespace Relational

open Statement Contents Database

variable {S : Schema} {t u : S.Table} {α β : Type}

class Apart (t : S.Table) : Prop where
  leaf : Leaf t
  refs_nil : ∀ r : S.Row t, S.refs t r = []

/-- The databases differ in the rows of `t` at most. -/
def AgreeOff (t : S.Table) (d e : Database S) : Prop := ∀ u, u ≠ t → d u = e u

/-- The statement neither reads nor writes the table `t`. -/
abbrev Ignores (t : S.Table) (x : Query S α) : Prop := Respects (AgreeOff t) x

namespace AgreeOff

variable {d e : Database S}

theorem has_iff (h : AgreeOff t d e) {k : S.Key} (hk : S.home k ≠ t) : d.Has k ↔ e.Has k := by
  unfold Database.Has Contents.Has
  rw [h _ hk]

theorem set (h : AgreeOff t d e) (rows : List (S.Row u)) {v : S.Table} (hv : v ≠ t) :
    d.contents.set u rows v = e.contents.set u rows v := by
  by_cases hvu : v = u
  · subst hvu
    rw [set_same, set_same]
  · rw [set_other hvu, set_other hvu]
    exact h v hv

theorem valid_set (h : AgreeOff t d e) [ht : Apart t] (hu : u ≠ t) {rows : List (S.Row u)}
    (hvalid : (d.contents.set u rows).Valid) : (e.contents.set u rows).Valid where
  unique v := by
    by_cases hv : v = t
    · subst hv
      rw [set_other (Ne.symm hu)]
      exact e.valid.unique v
    · rw [← h.set rows hv]
      exact hvalid.unique v
  checked v r hr := by
    by_cases hv : v = t
    · subst hv
      rw [set_other (Ne.symm hu)] at hr
      exact e.valid.checked v r hr
    · rw [← h.set rows hv] at hr
      exact hvalid.checked v r hr
  referenced v r hr k hk := by
    by_cases hv : v = t
    · subst hv
      rw [ht.refs_nil r] at hk
      cases hk
    · rw [← h.set rows hv] at hr
      have hhas := hvalid.referenced v r hr k hk
      have hhome : S.home k ≠ t := ht.leaf v r k hk
      unfold Contents.Has at hhas ⊢
      rw [← h.set rows hhome]
      exact hhas

theorem valid_set_iff (h : AgreeOff t d e) [Apart t] (hu : u ≠ t) (rows : List (S.Row u)) :
    (d.contents.set u rows).Valid ↔ (e.contents.set u rows).Valid :=
  ⟨h.valid_set hu, AgreeOff.valid_set (fun v hv => (h v hv).symm) hu⟩

end AgreeOff

namespace Ignores

variable [Apart t]

theorem modify (hu : u ≠ t) (f : List (S.Row u) → List (S.Row u)) :
    Ignores t (modify u f) := by
  intro d e h
  have hrows : f (d u) = f (e u) := congrArg f (h u hu)
  have hiff := h.valid_set_iff hu (f (d u))
  by_cases hvalid : (d.contents.set u (f (d u))).Valid
  · have hvalid' : (e.contents.set u (f (e u))).Valid := by
      rw [← hrows]
      exact hiff.mp hvalid
    rw [modify_ok hvalid, modify_ok hvalid']
    refine ⟨rfl, fun v hv => ?_⟩
    change d.contents.set u (f (d u)) v = e.contents.set u (f (e u)) v
    rw [← hrows]
    exact h.set _ hv
  · have hvalid' : ¬ (e.contents.set u (f (e u))).Valid := by
      rw [← hrows]
      exact fun hv => hvalid (hiff.mpr hv)
    rw [modify_error hvalid, modify_error hvalid']
    exact ⟨rfl, h⟩

theorem insert (hu : u ≠ t) {r : S.Row u} : Ignores t (insert u r) := modify hu _

theorem delete (hu : u ≠ t) {p : S.Row u → Bool} : Ignores t (delete u p) := modify hu _

theorem update (hu : u ≠ t) {p : S.Row u → Bool} {f : S.Row u → S.Row u} :
    Ignores t (update u p f) := modify hu _

theorem updateLast (hu : u ≠ t) {f : S.Row u → S.Row u} : Ignores t (updateLast u f) :=
  modify hu _

theorem insertOrReplace (hu : u ≠ t) {r : S.Row u} : Ignores t (insertOrReplace u r) :=
  modify hu _

omit [Apart t] in
theorem read_rows (hu : u ≠ t) (g : List (S.Row u) → α) :
    Ignores t (read fun d : Database S => g (d u)) :=
  Respects.read fun _ _ h => congrArg g (h u hu)

theorem upsert (hu : u ≠ t) {p : S.Row u → Bool} {r : S.Row u} {f : S.Row u → S.Row u} :
    Ignores t (upsert u p r f) := by
  apply (read_rows hu fun rows => rows.any p).bind
  intro found
  exact Respects.ite (update hu) (insert hu)

theorem insertOrIgnore (hu : u ≠ t) {r : S.Row u} : Ignores t (insertOrIgnore u r) := by
  have hkeys : ∀ d e : Database S, AgreeOff t d e →
      decide ((∀ k ∈ S.keys u r, ¬ d.Has k) ∧ S.check u r) =
        decide ((∀ k ∈ S.keys u r, ¬ e.Has k) ∧ S.check u r) := by
    intro d e h
    have hhas : ∀ k ∈ S.keys u r, (¬ d.Has k) ↔ ¬ e.Has k := by
      intro k hk
      have hhome : S.home k ≠ t := by
        rw [S.keys_home u r k hk]
        exact hu
      exact not_congr (h.has_iff hhome)
    apply decide_eq_decide.mpr
    apply and_congr _ Iff.rfl
    constructor
    · exact fun hfresh k hk => (hhas k hk).mp (hfresh k hk)
    · exact fun hfresh k hk => (hhas k hk).mpr (hfresh k hk)
  apply (Respects.read hkeys).bind
  intro fresh
  exact Respects.ite ((insert hu).bind fun _ => Respects.pure true) (Respects.pure false)

theorem replaceRows (hu : u ≠ t) {p : S.Row u → Bool} {rows : List (S.Row u)} :
    Ignores t (replaceRows u p rows) :=
  (delete hu).bind fun _ => Respects.forEach fun _ _ => insert hu

end Ignores
end Relational
