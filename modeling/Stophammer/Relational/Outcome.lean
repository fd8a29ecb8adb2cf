import Stophammer.Relational.Growth

/-!
# When a statement ends with a result

A condition on the inputs that decides whether a statement ends with a result or with an
error, the rules that put such conditions together, and the statements that always end
with a result.
-/

namespace Relational

open Statement

namespace Statement

variable {ε σ α β γ : Type}

/-- From a state with `P`, the statement ends with a result exactly when `c` holds.  `Q`
holds of the result and of the state after it. -/
def Decides (P : σ → Prop) (c : Prop) (x : Statement ε σ α) (Q : α → σ → Prop) : Prop :=
  ∀ s, P s → (c ∧ ∃ a t, x s = (.ok a, t) ∧ Q a t) ∨ (¬ c ∧ ∃ e t, x s = (.error e, t))

namespace Decides

variable {P P' : σ → Prop} {c c' : Prop} {x : Statement ε σ α} {Q Q' : α → σ → Prop}

theorem pure (a : α) : Decides P True (Pure.pure a : Statement ε σ α) fun b s => b = a ∧ P s :=
  fun s hs => .inl ⟨trivial, a, s, rfl, rfl, hs⟩

theorem read (f : σ → α) : Decides P True (read f : Statement ε σ α) fun a s => a = f s ∧ P s :=
  fun s hs => .inl ⟨trivial, f s, s, rfl, rfl, hs⟩

theorem bind {f : α → Statement ε σ β} {R : β → σ → Prop} (hx : Decides P c x Q)
    (hf : ∀ a, Decides (Q a) c' (f a) R) : Decides P (c ∧ c') (x >>= f) R := by
  intro s hs
  rcases hx s hs with ⟨hc, a, t, hrun, hQ⟩ | ⟨hc, e, t, hrun⟩
  · rw [bind_run_ok hrun]
    rcases hf a t hQ with ⟨hc', hrest⟩ | ⟨hc', hrest⟩
    · exact .inl ⟨⟨hc, hc'⟩, hrest⟩
    · exact .inr ⟨fun h => hc' h.2, hrest⟩
  · rw [bind_run_error hrun]
    exact .inr ⟨fun h => hc h.1, e, t, rfl⟩

theorem read_bind {f : σ → β} {g : β → Statement ε σ α}
    (hg : ∀ s, P s → Decides P c (g (f s)) Q) : Decides P c (Statement.read f >>= g) Q := by
  intro s hs
  rw [read_bind_run]
  exact hg s hs s hs

theorem mono (hx : Decides P c x Q) (hP : ∀ s, P' s → P s) (hc : c ↔ c')
    (hQ : ∀ a s, Q a s → Q' a s) : Decides P' c' x Q' := by
  intro s hs
  rcases hx s (hP s hs) with ⟨h, a, t, hrun, hpost⟩ | ⟨h, herror⟩
  · exact .inl ⟨hc.mp h, a, t, hrun, hQ a t hpost⟩
  · exact .inr ⟨fun h' => h (hc.mpr h'), herror⟩

theorem forEach {f : β → Statement ε σ Unit} {xs : List β} {cond : β → Prop}
    (hf : ∀ b ∈ xs, Decides P (cond b) (f b) fun _ => P) :
    Decides P (∀ b ∈ xs, cond b) (forEach f xs) fun _ => P := by
  induction xs with
  | nil =>
    intro s hs
    exact .inl ⟨List.forall_mem_nil _, (), s, rfl, hs⟩
  | cons b xs ih =>
    have hrest := (hf b (by simp)).bind fun _ => ih fun c hc => hf c (by simp [hc])
    apply hrest.mono (fun _ hs => hs) _ fun _ _ hs => hs
    rw [List.forall_mem_cons]

theorem of_run (hx : Decides P c x Q) (hP : ∀ s, P' s → P s)
    (hQ : ∀ s a t, P' s → x s = (.ok a, t) → Q a t → Q' a t) : Decides P' c x Q' := by
  intro s hs
  rcases hx s (hP s hs) with ⟨hc, a, t, hrun, hpost⟩ | hfails
  · exact .inl ⟨hc, a, t, hrun, hQ s a t hs hrun hpost⟩
  · exact .inr hfails

theorem transaction (hx : Decides P c x Q) : Decides P c (transaction x) Q := by
  intro s hs
  unfold Statement.transaction
  rcases hx s hs with ⟨hc, a, t, hrun, hQ⟩ | ⟨hc, e, t, hrun⟩
  · rw [hrun]
    exact .inl ⟨hc, a, t, rfl, hQ⟩
  · rw [hrun]
    exact .inr ⟨hc, e, s, rfl⟩

end Decides

/-- The statement ends with a result from every state. -/
def Ends (x : Statement ε σ α) : Prop := ∀ s, ∃ a t, x s = (.ok a, t)

namespace Ends

theorem pure (a : α) : Ends (Pure.pure a : Statement ε σ α) := fun s => ⟨a, s, rfl⟩

theorem read (f : σ → α) : Ends (read f : Statement ε σ α) := fun s => ⟨f s, s, rfl⟩

theorem bind {x : Statement ε σ α} {f : α → Statement ε σ β} (hx : Ends x)
    (hf : ∀ a, Ends (f a)) : Ends (x >>= f) := by
  intro s
  obtain ⟨a, t, hrun⟩ := hx s
  rw [bind_run_ok hrun]
  exact hf a t

theorem forEach {f : β → Statement ε σ Unit} {xs : List β} (hf : ∀ b, Ends (f b)) :
    Ends (forEach f xs) := by
  induction xs with
  | nil => exact Ends.pure ()
  | cons b xs ih => exact (hf b).bind fun _ => ih

theorem ite {p : Prop} [Decidable p] {x y : Statement ε σ α} (hx : Ends x) (hy : Ends y) :
    Ends (if p then x else y) := by
  split
  · exact hx
  · exact hy

theorem transaction {x : Statement ε σ α} (hx : Ends x) : Ends (transaction x) := by
  intro s
  obtain ⟨a, t, hrun⟩ := hx s
  exact ⟨a, t, transaction_ok.mpr hrun⟩

theorem decides {x : Statement ε σ α} {P : σ → Prop} (hx : Ends x) :
    Decides P True x fun _ _ => True := by
  intro s _
  obtain ⟨a, t, hrun⟩ := hx s
  exact .inl ⟨trivial, a, t, hrun, trivial⟩

end Ends
end Statement

variable {S : Schema} {t u : S.Table} {ε α β : Type}

namespace Database

/-- No row of the database names the key. -/
def Unreferenced (d : Database S) (k : S.Key) : Prop := ∀ v, ∀ r ∈ d v, k ∉ S.refs v r

theorem delete_unreferenced {d : Database S} {p : S.Row t → Bool}
    (h : ∀ r ∈ d t, p r = true → ∀ k ∈ S.keys t r, d.Unreferenced k) :
    ∃ e, delete t p d = (.ok (), e) ∧ e.contents = d.contents.set t ((d t).filter (!p ·)) := by
  refine ⟨_, modify_ok ?_, rfl⟩
  have hrows : ((d t).filter (!p ·)).Sublist (d t) := List.filter_sublist
  have hkeys : (Contents.keysOf t ((d t).filter (!p ·))).Sublist (Contents.keysOf t (d t)) :=
    hrows.flatMap (S.keys t)
  refine Contents.valid_set d.valid ((d.valid.unique t).sublist hkeys) ?_ ?_ ?_
  · exact fun r hr => d.valid.checked t r (hrows.subset hr)
  · exact fun r hr => d.valid.referenced t r (hrows.subset hr)
  · intro v r hr k hk hhome
    obtain ⟨row, hrow, hkey⟩ := (has_iff hhome).mp (d.valid.referenced v r hr k hk)
    rw [Contents.keysOf, List.mem_flatMap]
    refine ⟨row, ?_, hkey⟩
    rw [List.mem_filter]
    refine ⟨hrow, ?_⟩
    by_contra hp
    rw [Bool.not_eq_true', Bool.not_eq_false] at hp
    exact h row hrow hp k hkey v r hr hk

end Database

theorem Statement.Ends.delete (ht : Database.Leaf t) {p : S.Row t → Bool} :
    Ends (delete t p) := by
  intro d
  obtain ⟨e, hrun, -⟩ := delete_ok d ht p
  exact ⟨(), e, hrun⟩

theorem Statement.Ends.insertOrIgnore {r : S.Row t} (hrefs : S.refs t r = []) :
    Ends (insertOrIgnore t r) := by
  intro d
  by_cases h : (∀ k ∈ S.keys t r, ¬ d.Has k) ∧ S.check t r
  · have hadmits : d.Admits t r := by
      refine ⟨h.1, h.2, fun k hk => ?_⟩
      rw [hrefs] at hk
      cases hk
    obtain ⟨e, hrun, -⟩ := insertOrIgnore_ok d hadmits
    exact ⟨true, e, hrun⟩
  · exact ⟨false, d, insertOrIgnore_skip d h⟩

theorem update_leaves_has {k : S.Key} {p : S.Row t → Bool} {f : S.Row t → S.Row t}
    (hkeys : ∀ r, p r = true → (k ∈ S.keys t (f r) ↔ k ∈ S.keys t r)) :
    Leaves (fun d : Database S => d.Has k) (update t p f) := by
  intro d
  have hrows := modify_rows d fun rows : List (S.Row t) => rows.map fun r => if p r then f r else r
  rcases hrows with herror | ⟨e, hrun, hcontents⟩
  · rw [update, herror]
  · rw [update, hrun]
    change e.Has k = d.Has k
    by_cases ht : S.home k = t
    · rw [Database.has_iff ht, Database.has_iff ht, hcontents, Contents.set_same]
      have hkey : ∀ r, k ∈ S.keys t (if p r = true then f r else r) ↔ k ∈ S.keys t r := by
        intro r
        split
        · exact hkeys r ‹_›
        · exact Iff.rfl
      simp only [List.mem_map, exists_exists_and_eq_and, hkey]
    · simp only [Database.Has, Contents.Has, hcontents, Contents.set_other ht]

theorem insert_decides {P : Database S → Prop} {r : S.Row t}
    (hfresh : ∀ d, P d → ∀ k ∈ S.keys t r, ¬ d.Has k)
    (hrefs : ∀ d, P d → ∀ k ∈ S.refs t r, d.Has k) :
    Decides P (S.check t r = true) (insert t r) fun _ e =>
      ∃ d, P d ∧ e.contents = d.contents.set t (d t ++ [r]) := by
  intro d hd
  by_cases hcheck : S.check t r = true
  · obtain ⟨e, hrun, hcontents⟩ := insert_ok d ⟨hfresh d hd, hcheck, hrefs d hd⟩
    exact .inl ⟨hcheck, (), e, hrun, d, hd, hcontents⟩
  · exact .inr ⟨hcheck, _, d, insert_error d fun h => hcheck h.checked⟩

theorem upsert_run {d : Database S} {p : S.Row t → Bool} {r : S.Row t} {f : S.Row t → S.Row t}
    (hfound : ∀ r' ∈ d t, p r' = false → ∀ k ∈ S.keys t r, k ∉ S.keys t r')
    (hcheck : S.check t r) (hrefs : ∀ k ∈ S.refs t r, d.Has k)
    (hkeys : ∀ r' ∈ d t, p r' → S.keys t (f r') = S.keys t r')
    (hsame : ∀ r' ∈ d t, p r' → S.refs t (f r') = S.refs t r')
    (hchecks : ∀ r' ∈ d t, p r' → S.check t (f r')) :
    ∃ e : Database S, upsert t p r f d = (.ok (), e) ∧
      ∃ r' ∈ e t, r' = r ∨ ∃ old ∈ d t, p old = true ∧ r' = f old := by
  by_cases hany : (d t).any p = true
  · rw [upsert_present d hany]
    obtain ⟨e, hrun, hcontents⟩ := update_ok d hkeys hsame hchecks
    obtain ⟨old, hold, hp⟩ := List.any_eq_true.mp hany
    refine ⟨e, hrun, f old, ?_, .inr ⟨old, hold, hp, rfl⟩⟩
    rw [hcontents, Contents.set_same, List.mem_map]
    exact ⟨old, hold, if_pos hp⟩
  · rw [upsert_absent d hany]
    have hadmits : d.Admits t r := by
      refine ⟨fun k hk hhas => ?_, hcheck, hrefs⟩
      obtain ⟨r', hr', hkey⟩ := (Database.has_iff (S.keys_home t r k hk)).mp hhas
      apply hfound r' hr' _ k hk hkey
      rw [← Bool.not_eq_true]
      exact fun hp => hany (List.any_eq_true.mpr ⟨r', hr', hp⟩)
    obtain ⟨e, hrun, hcontents⟩ := insert_ok d hadmits
    refine ⟨e, hrun, r, ?_, .inl rfl⟩
    rw [hcontents, Contents.set_same]
    exact List.mem_append_right _ (List.mem_singleton.mpr rfl)

theorem insertOrReplace_run (ht : Database.Leaf t) {d : Database S} {r : S.Row t}
    (hcheck : S.check t r) (hrefs : ∀ k ∈ S.refs t r, d.Has k) :
    ∃ e : Database S, insertOrReplace t r d = (.ok (), e) ∧
      e.contents = d.contents.set t
        ((d t).filter (fun r' => decide (∀ k ∈ S.keys t r, k ∉ S.keys t r')) ++ [r]) := by
  set kept := (d t).filter fun r' => decide (∀ k ∈ S.keys t r, k ∉ S.keys t r') with hkept
  have hsub : kept.Sublist (d t) := List.filter_sublist
  have hkeys : Contents.keysOf t (kept ++ [r]) = Contents.keysOf t kept ++ S.keys t r := by
    simp [Contents.keysOf]
  refine ⟨_, modify_ok ?_, rfl⟩
  refine Contents.valid_set d.valid ?_ ?_ ?_ fun v r' _ k hk hhome => absurd hhome (ht v r' k hk)
  · rw [← hkept, hkeys, List.nodup_append]
    refine ⟨(d.valid.unique t).sublist (hsub.flatMap (S.keys t)), S.keys_nodup t r, ?_⟩
    rintro k hk k' hk' rfl
    obtain ⟨r', hr', hkey⟩ := List.mem_flatMap.mp hk
    rw [hkept, List.mem_filter, decide_eq_true_eq] at hr'
    exact hr'.2 k hk' hkey
  · intro r' hr'
    rw [← hkept, List.mem_append, List.mem_singleton] at hr'
    rcases hr' with hr' | rfl
    · exact d.valid.checked t r' (hsub.subset hr')
    · exact hcheck
  · intro r' hr'
    rw [← hkept, List.mem_append, List.mem_singleton] at hr'
    rcases hr' with hr' | rfl
    · exact d.valid.referenced t r' (hsub.subset hr')
    · exact hrefs

/-- The statement only takes rows away, and a run with a result leaves no row in the
tables `ts` that names the key. -/
structure Frees (k : S.Key) (ts : List S.Table) (x : Statement ε (Database S) α) : Prop where
  shrinks : Shrinks x
  clear : ∀ {d a e}, x d = (.ok a, e) → ∀ t ∈ ts, ∀ r ∈ e t, k ∉ S.refs t r

namespace Frees

variable {k : S.Key} {ts us : List S.Table} {x : Statement ε (Database S) α}

theorem of_shrinks (hx : Shrinks x) : Frees k [] x where
  shrinks := hx
  clear := fun _ _ ht => by cases ht

theorem delete {p : S.Row t → Bool} (hp : ∀ r, k ∈ S.refs t r → p r = true) :
    Frees k [t] (delete t p) where
  shrinks := Shrinks.delete
  clear := by
    intro d a e hrun v hv r hr hk
    cases List.mem_singleton.mp hv
    rcases modify_rows d (fun rows : List (S.Row t) => rows.filter (!p ·)) with
      herror | ⟨e', hok, hcontents⟩
    · have hfail := herror.symm.trans hrun
      cases hfail
    · have hsame := hok.symm.trans hrun
      cases hsame
      rw [hcontents, Contents.set_same, List.mem_filter, hp r hk] at hr
      cases hr.2

theorem bind {f : α → Statement ε (Database S) β} (hx : Frees k ts x)
    (hf : ∀ a, Frees k us (f a)) : Frees k (ts ++ us) (x >>= f) where
  shrinks := hx.shrinks.bind fun a => (hf a).shrinks
  clear := by
    intro d b e hrun t ht r hr
    obtain ⟨a, d', hfirst, hrest⟩ := bind_ok hrun
    rcases List.mem_append.mp ht with ht | ht
    · have hsub := (hf a).shrinks d' t
      rw [hrest] at hsub
      exact hx.clear hfirst t ht r (hsub.subset hr)
    · exact (hf a).clear hrest t ht r hr

theorem cons {f : α → Statement ε (Database S) β} (hx : Frees k [t] x)
    (hf : ∀ a, Frees k ts (f a)) : Frees k (t :: ts) (x >>= f) := hx.bind hf

theorem skip {f : α → Statement ε (Database S) β} (hx : Shrinks x)
    (hf : ∀ a, Frees k ts (f a)) : Frees k ts (x >>= f) := (of_shrinks hx).bind hf

theorem mono (hx : Frees k ts x) (h : us ⊆ ts) : Frees k us x where
  shrinks := hx.shrinks
  clear := fun hrun t ht => hx.clear hrun t (h ht)

theorem forEach {f : β → Statement ε (Database S) Unit} {xs : List β} {b : β} (hb : b ∈ xs)
    (hf : Frees k ts (f b)) (hshrinks : ∀ b, Shrinks (f b)) : Frees k ts (forEach f xs) := by
  induction xs with
  | nil => cases hb
  | cons c xs ih =>
    rcases List.mem_cons.mp hb with rfl | hb
    · have hshrink : Shrinks (Statement.forEach f xs) := Shrinks.forEach hshrinks
      have hrest := hf.bind fun _ => of_shrinks (k := k) hshrink
      rwa [List.append_nil] at hrest
    · exact skip (hshrinks c) fun _ => ih hb

theorem transaction (hx : Frees k ts x) : Frees k ts (transaction x) where
  shrinks := Shrinks.transaction hx.shrinks
  clear := fun hrun => hx.clear (transaction_ok.mp hrun)

theorem unreferenced (hx : Frees k ts x) (hother : ∀ t, t ∉ ts → ∀ r, k ∉ S.refs t r)
    {d e : Database S} {a : α} (hrun : x d = (.ok a, e)) : e.Unreferenced k := by
  intro t r hr
  by_cases ht : t ∈ ts
  · exact hx.clear hrun t ht r hr
  · exact hother t ht r

end Frees

namespace Database

theorem has_congr {d e : Database S} {k : S.Key} (h : e (S.home k) = d (S.home k)) :
    e.Has k ↔ d.Has k := by
  rw [Has, Has, Contents.Has, Contents.Has, h]

end Database

open Database

/-- Rows go into a table that no row references exactly when the constraints admit them
all. -/
theorem insertRows_run (ht : Leaf t) (rows : List (S.Row t)) (d : Database S) :
    (∃ h : (d.contents.set t (d t ++ rows)).Valid,
      forEach (insert t) rows d = (.ok (), ⟨_, h⟩)) ∨
    (¬ (d.contents.set t (d t ++ rows)).Valid ∧
      ∃ err e, forEach (insert t) rows d = (.error err, e)) := by
  induction rows generalizing d with
  | nil =>
    have hsame : d.contents.set t (d t ++ []) = d.contents := by
      rw [List.append_nil]
      exact Function.update_eq_self ..
    left
    refine ⟨by rw [hsame]; exact d.valid, Prod.ext rfl (Database.ext fun u => ?_)⟩
    exact congrFun hsame.symm u
  | cons r rows ih =>
    rw [forEach_cons]
    by_cases hr : (d.contents.set t (d t ++ [r])).Valid
    · have hinsert : insert t r d = (.ok (), ⟨_, hr⟩) := modify_ok hr
      rw [bind_run_ok hinsert]
      have hset : (d.contents.set t (d t ++ [r])).set t
          (d.contents.set t (d t ++ [r]) t ++ rows) = d.contents.set t (d t ++ r :: rows) := by
        rw [Contents.set_same, List.append_assoc, List.singleton_append]
        exact Function.update_idem ..
      have hrest := ih ⟨_, hr⟩
      simp only [hset] at hrest
      exact hrest
    · right
      have hinsert : insert t r d = (.error (S.violation t), d) := modify_error hr
      refine ⟨fun hall => hr ?_, S.violation t, d, bind_run_error hinsert⟩
      -- fewer rows of a table that no row references are valid too
      have hsub : (d t ++ [r]).Sublist (d.contents.set t (d t ++ r :: rows) t) := by
        rw [Contents.set_same]
        exact (List.Sublist.refl (d t)).append (List.singleton_sublist.mpr (by simp))
      have hvalid := valid_sublist ⟨_, hall⟩ ht hsub
      rw [show (d.contents.set t (d t ++ r :: rows)).set t (d t ++ [r]) =
        d.contents.set t (d t ++ [r]) from Function.update_idem ..] at hvalid
      exact hvalid

theorem replaceRows_decides {P : Database S → Prop} (ht : Leaf t) {p : S.Row t → Bool}
    {rows : List (S.Row t)}
    (hkept : ∀ r, p r = false → ∀ k ∈ S.keys t r, k ∉ Contents.keysOf t rows)
    (hrefs : ∀ d, P d → ∀ r ∈ rows, ∀ k ∈ S.refs t r, d.Has k)
    (hP : ∀ d e : Database S, (∀ v, v ≠ t → e v = d v) → P d → P e) :
    Decides P ((Contents.keysOf t rows).Nodup ∧ ∀ r ∈ rows, S.check t r = true)
      (replaceRows t p rows) fun _ => P := by
  intro d hd
  obtain ⟨d', hdelete, hcontents⟩ := delete_ok d ht p
  have hother : ∀ v, v ≠ t → d' v = d v := by
    intro v hv
    rw [hcontents, Contents.set_other hv]
  have hd' : P d' := hP d d' hother hd
  have hmem : ∀ r ∈ d' t, p r = false := by
    intro r hr
    rw [hcontents, Contents.set_same, List.mem_filter] at hr
    simpa using hr.2
  have hdecide : (d'.contents.set t (d' t ++ rows)).Valid ↔
      (Contents.keysOf t rows).Nodup ∧ ∀ r ∈ rows, S.check t r = true := by
    have hkeys : Contents.keysOf t (d' t ++ rows) =
        Contents.keysOf t (d' t) ++ Contents.keysOf t rows := List.flatMap_append
    constructor
    · intro hvalid
      have hnodup := hvalid.unique t
      rw [Contents.set_same, hkeys] at hnodup
      refine ⟨(List.nodup_append.mp hnodup).2.1, fun r hr => ?_⟩
      exact hvalid.checked t r (by rw [Contents.set_same]; exact List.mem_append_right _ hr)
    · rintro ⟨hnodup, hcheck⟩
      refine Contents.valid_set d'.valid ?_ ?_ ?_ fun v r _ k hk hhome => absurd hhome (ht v r k hk)
      · rw [hkeys, List.nodup_append]
        refine ⟨d'.valid.unique t, hnodup, ?_⟩
        rintro k hk k' hk' rfl
        obtain ⟨r, hr, hkr⟩ := List.mem_flatMap.mp hk
        exact hkept r (hmem r hr) k hkr hk'
      · intro r hr
        rcases List.mem_append.mp hr with hr | hr
        · exact d'.valid.checked t r hr
        · exact hcheck r hr
      · intro r hr
        rcases List.mem_append.mp hr with hr | hr
        · exact d'.valid.referenced t r hr
        · exact hrefs d' hd' r hr
  unfold replaceRows
  rw [bind_run_ok hdelete]
  rcases insertRows_run ht rows d' with ⟨hvalid, hrun⟩ | ⟨hvalid, hfails⟩
  · refine .inl ⟨hdecide.mp hvalid, (), _, hrun, hP d' _ (fun v hv => ?_) hd'⟩
    exact Contents.set_other hv _
  · exact .inr ⟨fun h => hvalid (hdecide.mpr h), hfails⟩

end Relational
