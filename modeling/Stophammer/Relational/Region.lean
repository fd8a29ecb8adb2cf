import Mathlib.Data.List.Perm.Basic
import Stophammer.Relational.Write

/-!
# Regions

A region takes some rows of every table so that no key and no reference crosses its
border.  The constraints then hold of the whole if and only if they hold on each side,
and a statement that works on one side cannot see or change the other one.
-/

namespace Relational

open Statement

variable {S : Schema} {t : S.Table} {α β : Type}

/-- The rows and the keys of a region.  `Fits` says that a row lies on one side: its
keys and its references are on the side of the row. -/
structure Region (S : Schema) where
  row : (t : S.Table) → S.Row t → Bool
  key : S.Key → Bool
  Fits : (t : S.Table) → S.Row t → Prop
  keys_side : ∀ t r, Fits t r → ∀ k ∈ S.keys t r, key k = row t r
  refs_side : ∀ t r, Fits t r → ∀ k ∈ S.refs t r, key k = row t r

namespace Region

open Contents

variable {R : Region S}

/-- The rows of the side `b`: `true` for the region, `false` for the rest. -/
def side (R : Region S) (b : Bool) (T : Contents S) : Contents S := fun t =>
  (T t).filter fun r => R.row t r == b

/-- Every row lies on one side. -/
def Separated (R : Region S) (T : Contents S) : Prop := ∀ t, ∀ r ∈ T t, R.Fits t r

theorem mem_side {T : Contents S} {b : Bool} {r : S.Row t} :
    r ∈ R.side b T t ↔ r ∈ T t ∧ R.row t r = b := by
  unfold side
  rw [List.mem_filter, beq_iff_eq]

theorem has_side_iff {T : Contents S} (hT : R.Separated T) (b : Bool) (k : S.Key) :
    (R.side b T).Has k ↔ T.Has k ∧ R.key k = b := by
  simp only [Has, keysOf, List.mem_flatMap, mem_side]
  constructor
  · rintro ⟨r, ⟨hr, hrow⟩, hk⟩
    exact ⟨⟨r, hr, hk⟩, (R.keys_side _ r (hT _ r hr) k hk).trans hrow⟩
  · rintro ⟨⟨r, hr, hk⟩, hkey⟩
    exact ⟨r, ⟨hr, (R.keys_side _ r (hT _ r hr) k hk).symm.trans hkey⟩, hk⟩

theorem Separated.side {T : Contents S} (hT : R.Separated T) (b : Bool) :
    R.Separated (R.side b T) := fun t r hr => hT t r (mem_side.mp hr).1

theorem side_valid {T : Contents S} (hT : R.Separated T) (hvalid : T.Valid) (b : Bool) :
    (R.side b T).Valid where
  unique t := (hvalid.unique t).sublist (List.filter_sublist.flatMap (S.keys t))
  checked t r hr := hvalid.checked t r (mem_side.mp hr).1
  referenced := by
    intro t r hr k hk
    obtain ⟨hmem, hrow⟩ := mem_side.mp hr
    rw [has_side_iff hT]
    exact ⟨hvalid.referenced t r hmem k hk, (R.refs_side t r (hT t r hmem) k hk).trans hrow⟩

theorem valid_iff_sides {T : Contents S} (hT : R.Separated T) :
    T.Valid ↔ (R.side true T).Valid ∧ (R.side false T).Valid := by
  constructor
  · intro hvalid
    exact ⟨side_valid hT hvalid true, side_valid hT hvalid false⟩
  · rintro ⟨hin, hout⟩
    have hside : ∀ b, (R.side b T).Valid := by
      intro b
      cases b with
      | true => exact hin
      | false => exact hout
    refine ⟨fun t => ?_, fun t r hr => ?_, fun t r hr k hk => ?_⟩
    · have hperm : (keysOf t (R.side true T t) ++ keysOf t (R.side false T t)).Perm
          (keysOf t (T t)) := by
        unfold keysOf
        rw [← List.flatMap_append]
        apply List.Perm.flatMap_right
        have hsplit := List.filter_append_perm (fun r => R.row t r == true) (T t)
        have hneg : (fun r => !(R.row t r == true)) = fun r => R.row t r == false := by
          funext r
          cases R.row t r <;> rfl
        rw [hneg] at hsplit
        exact hsplit
      rw [← hperm.nodup_iff, List.nodup_append]
      refine ⟨hin.unique t, hout.unique t, fun k hk k' hk' heq => ?_⟩
      subst heq
      obtain ⟨r, hr, hkr⟩ := List.mem_flatMap.mp hk
      obtain ⟨r', hr', hkr'⟩ := List.mem_flatMap.mp hk'
      obtain ⟨hmem, hrow⟩ := mem_side.mp hr
      obtain ⟨hmem', hrow'⟩ := mem_side.mp hr'
      have htrue := R.keys_side t r (hT t r hmem) k hkr
      have hfalse := R.keys_side t r' (hT t r' hmem') k hkr'
      rw [hrow] at htrue
      rw [hrow', htrue] at hfalse
      cases hfalse
    · exact (hside (R.row t r)).checked t r (mem_side.mpr ⟨hr, rfl⟩)
    · have hhas := (hside (R.row t r)).referenced t r (mem_side.mpr ⟨hr, rfl⟩) k hk
      exact ((has_side_iff hT _ k).mp hhas).1

theorem side_set (T : Contents S) (b : Bool) (rows : List (S.Row t)) :
    R.side b (T.set t rows) = (R.side b T).set t (rows.filter fun r => R.row t r == b) := by
  funext u
  by_cases hu : u = t
  · subst hu
    rw [set_same, Region.side, set_same]
  · rw [set_other hu, Region.side, set_other hu]
    rfl

theorem Separated.set {T : Contents S} (hT : R.Separated T) {rows : List (S.Row t)}
    (hrows : ∀ r ∈ rows, R.Fits t r) : R.Separated (T.set t rows) := by
  intro u r hr
  by_cases hu : u = t
  · subst hu
    rw [set_same] at hr
    exact hrows r hr
  · rw [set_other hu] at hr
    exact hT u r hr

theorem side_set_same {T : Contents S} {b : Bool} {rows : List (S.Row t)}
    (h : (rows.filter fun r => R.row t r == b) = R.side b T t) :
    R.side b (T.set t rows) = R.side b T := by
  rw [side_set, h]
  exact Function.update_eq_self ..

section Reads

variable {T : Contents S} {p : S.Row t → Bool}

theorem filter_side (hT : R.Separated T) (hp : ∀ r, R.Fits t r → p r = true → R.row t r = true) :
    (R.side true T t).filter p = (T t).filter p := by
  unfold Region.side
  rw [List.filter_filter]
  apply List.filter_congr
  intro r hr
  cases hpr : p r with
  | false => rfl
  | true => simp [hp r (hT t r hr) hpr]

theorem find_side (hT : R.Separated T) (hp : ∀ r, R.Fits t r → p r = true → R.row t r = true) :
    (R.side true T t).find? p = (T t).find? p := by
  rw [← List.head?_filter, ← List.head?_filter, filter_side hT hp]

theorem any_side (hT : R.Separated T) (hp : ∀ r, R.Fits t r → p r = true → R.row t r = true) :
    (R.side true T t).any p = (T t).any p := by
  have hfilter : ∀ rows : List (S.Row t), rows.any p = !(rows.filter p).isEmpty := by
    intro rows
    rw [Bool.eq_iff_iff, List.any_eq_true, Bool.not_eq_true', List.isEmpty_eq_false_iff_exists_mem]
    simp only [List.mem_filter]
  rw [hfilter, hfilter, filter_side hT hp]

end Reads

/-- Two databases that are one in the region. -/
structure SameIn (R : Region S) (d e : Database S) : Prop where
  left : R.Separated d.contents
  right : R.Separated e.contents
  same : R.side true d.contents = R.side true e.contents

/-- The statement leaves the region as it is. -/
def Spares (R : Region S) (x : Query S α) : Prop :=
  ∀ d : Database S, R.Separated d.contents →
    R.Separated (x d).2.contents ∧ R.side true (x d).2.contents = R.side true d.contents

/-- The statement works on the side `b`: outside of the region it leaves the region as
it is, and inside it depends on the region alone. -/
structure Local (R : Region S) (b : Bool) (x : Query S α) : Prop where
  outside : b = false → R.Spares x
  inside : b = true → Respects R.SameIn x

theorem SameIn.of_spares {x : Query S α} (hx : R.Spares x) {d e : Database S}
    (h : R.SameIn d e) : R.SameIn (x d).2 (x e).2 where
  left := (hx d h.left).1
  right := (hx e h.right).1
  same := by rw [(hx d h.left).2, (hx e h.right).2, h.same]

/-- New rows that keep the rest as it is: valid if and only if they are valid in the
region. -/
theorem valid_set_iff {d : Database S} (hd : R.Separated d.contents) {rows : List (S.Row t)}
    (hfits : ∀ r ∈ rows, R.Fits t r)
    (hother : (rows.filter fun r => R.row t r == false) = R.side false d.contents t) :
    (d.contents.set t rows).Valid ↔
      ((R.side true d.contents).set t (rows.filter fun r => R.row t r == true)).Valid := by
  rw [valid_iff_sides (hd.set hfits), side_set_same hother, side_set]
  exact and_iff_left (side_valid hd d.valid false)

theorem SameIn.modify {d e : Database S} (h : R.SameIn d e)
    {f : List (S.Row t) → List (S.Row t)}
    (hfits : ∀ r ∈ f (d t), R.Fits t r) (hfits' : ∀ r ∈ f (e t), R.Fits t r)
    (hother : ((f (d t)).filter fun r => R.row t r == false) = R.side false d.contents t)
    (hother' : ((f (e t)).filter fun r => R.row t r == false) = R.side false e.contents t)
    (hown : ((f (d t)).filter fun r => R.row t r == true) =
      (f (e t)).filter fun r => R.row t r == true) :
    (∃ d' e' : Database S, modify t f d = (.ok (), d') ∧ modify t f e = (.ok (), e') ∧
        d'.contents = d.contents.set t (f (d t)) ∧ e'.contents = e.contents.set t (f (e t)) ∧
        R.SameIn d' e') ∨
      (modify t f d = (.error (S.violation t), d) ∧ modify t f e = (.error (S.violation t), e)) := by
  have hiff : (d.contents.set t (f (d t))).Valid ↔ (e.contents.set t (f (e t))).Valid := by
    rw [valid_set_iff h.left hfits hother, valid_set_iff h.right hfits' hother', hown, h.same]
  by_cases hvalid : (d.contents.set t (f (d t))).Valid
  · left
    refine ⟨_, _, modify_ok hvalid, modify_ok (hiff.mp hvalid), rfl, rfl,
      h.left.set hfits, h.right.set hfits', ?_⟩
    rw [side_set, side_set, hown, h.same]
  · right
    exact ⟨modify_error hvalid, modify_error fun hv => hvalid (hiff.mpr hv)⟩

namespace Spares

theorem pure (a : α) : R.Spares (pure a : Query S α) := fun _ h => ⟨h, rfl⟩

theorem read (g : Database S → α) : R.Spares (read g : Query S α) := fun _ h => ⟨h, rfl⟩

theorem bind {x : Query S α} {f : α → Query S β} (hx : R.Spares x)
    (hf : ∀ a, R.Spares (f a)) : R.Spares (x >>= f) := by
  intro d hd
  rw [bind_run]
  obtain ⟨hsep, hsame⟩ := hx d hd
  rcases hrun : x d with ⟨e | a, d'⟩
  · rw [hrun] at hsep hsame
    exact ⟨hsep, hsame⟩
  · rw [hrun] at hsep hsame
    obtain ⟨hsep', hsame'⟩ := hf a d' hsep
    exact ⟨hsep', hsame'.trans hsame⟩

theorem transaction {x : Query S α} (hx : R.Spares x) : R.Spares (transaction x) := by
  intro d hd
  have h := hx d hd
  unfold Statement.transaction
  rcases hrun : x d with ⟨e | a, d'⟩
  · exact ⟨hd, rfl⟩
  · rw [hrun] at h
    exact h

theorem of_writes {ts : List S.Table} {x : Query S α} (hx : Writes ts x)
    (hts : ∀ t ∈ ts, ∀ r, R.Fits t r ∧ R.row t r = false) : R.Spares x := by
  intro d hd
  have hkeep : ∀ u, u ∉ ts → (x d).2 u = d u := fun u hu => hx u hu d
  constructor
  · intro u r hr
    by_cases hu : u ∈ ts
    · exact (hts u hu r).1
    · change r ∈ (x d).2 u at hr
      rw [hkeep u hu] at hr
      exact hd u r hr
  · funext u
    by_cases hu : u ∈ ts
    · have hnone : ∀ T : Contents S, R.side true T u = [] := by
        intro T
        rw [Region.side, List.filter_eq_nil_iff]
        intro r _
        rw [(hts u hu r).2]
        decide
      rw [hnone, hnone]
    · change ((x d).2 u).filter _ = (d u).filter _
      rw [hkeep u hu]

end Spares

namespace Local

variable {b : Bool}

theorem pure (a : α) : R.Local b (pure a : Query S α) where
  outside _ := Spares.pure a
  inside _ := Respects.pure a

theorem bind {x : Query S α} {f : α → Query S β} (hx : R.Local b x)
    (hf : ∀ a, R.Local b (f a)) : R.Local b (x >>= f) where
  outside h := (hx.outside h).bind fun a => (hf a).outside h
  inside h := (hx.inside h).bind fun a => (hf a).inside h

theorem ite {p : Prop} [Decidable p] {x y : Query S α} (hx : R.Local b x) (hy : R.Local b y) :
    R.Local b (if p then x else y) := by
  split
  · exact hx
  · exact hy

theorem forEach {f : β → Query S Unit} {xs : List β} (hf : ∀ x ∈ xs, R.Local b (f x)) :
    R.Local b (forEach f xs) := by
  induction xs with
  | nil => exact Local.pure ()
  | cons x xs ih => exact (hf x (by simp)).bind fun _ => ih fun y hy => hf y (by simp [hy])

theorem read_bind {g : Database S → α} {f : α → Query S β} (P : α → Prop)
    (hg : b = true → ∀ d e, R.SameIn d e → g d = g e)
    (hP : ∀ d : Database S, R.Separated d.contents → P (g d)) (hf : ∀ a, P a → R.Local b (f a)) :
    R.Local b (read g >>= f) where
  outside := by
    intro hb d hd
    exact (hf (g d) (hP d hd)).outside hb d hd
  inside := by
    intro hb d e h
    rw [read_bind_run, read_bind_run, hg hb d e h]
    exact (hf (g e) (hP e h.right)).inside hb d e h

theorem transaction {x : Query S α} (hx : R.Local b x) : R.Local b (transaction x) where
  outside hb := (hx.outside hb).transaction
  inside := by
    intro hb d e h
    obtain ⟨hres, hst⟩ := hx.inside hb d e h
    unfold Statement.transaction
    rcases hd : x d with ⟨err | a, d'⟩ <;> rcases he : x e with ⟨err' | a', e'⟩ <;>
      rw [hd, he] at hres hst <;> simp only [Except.error.injEq, Except.ok.injEq, reduceCtorEq]
        at hres hst
    · exact ⟨congrArg Except.error hres, h⟩
    · exact ⟨congrArg Except.ok hres, hst⟩

theorem of_writes {ts : List S.Table} {x : Query S α} (hx : Writes ts x)
    (hts : ∀ t ∈ ts, ∀ r, R.Fits t r ∧ R.row t r = false) {a : α}
    (hok : ∀ d, (x d).1 = .ok a) : R.Local b x where
  outside _ := Spares.of_writes hx hts
  inside := by
    intro _ d e h
    exact ⟨(hok d).trans (hok e).symm, h.of_spares (Spares.of_writes hx hts)⟩

theorem modify {f : List (S.Row t) → List (S.Row t)}
    (hfits : ∀ rows, (∀ r ∈ rows, R.Fits t r) → ∀ r ∈ f rows, R.Fits t r)
    (hother : ∀ rows, (∀ r ∈ rows, R.Fits t r) →
      ((f rows).filter fun r => R.row t r == !b) = rows.filter fun r => R.row t r == !b)
    (hown : ∀ rows, (∀ r ∈ rows, R.Fits t r) →
      ((f rows).filter fun r => R.row t r == b) = f (rows.filter fun r => R.row t r == b)) :
    R.Local b (modify t f) where
  outside := by
    rintro rfl d hd
    by_cases hvalid : (d.contents.set t (f (d t))).Valid
    · rw [modify_ok hvalid]
      exact ⟨hd.set (hfits _ (hd t)), side_set_same (hother _ (hd t))⟩
    · rw [modify_error hvalid]
      exact ⟨hd, rfl⟩
  inside := by
    rintro rfl d e h
    have hsame : ((f (d t)).filter fun r => R.row t r == true) =
        (f (e t)).filter fun r => R.row t r == true := by
      rw [hown _ (h.left t), hown _ (h.right t)]
      exact congrArg f (congrFun h.same t)
    rcases h.modify (hfits _ (h.left t)) (hfits _ (h.right t)) (hother _ (h.left t))
      (hother _ (h.right t)) hsame with ⟨d', e', hd, he, -, -, h'⟩ | ⟨hd, he⟩
    · rw [hd, he]
      exact ⟨rfl, h'⟩
    · rw [hd, he]
      exact ⟨rfl, h⟩

theorem delete {p : S.Row t → Bool} (hp : ∀ r, R.Fits t r → p r = true → R.row t r = b) :
    R.Local b (delete t p) := by
  apply modify
  · exact fun rows hrows r hr => hrows r (List.mem_of_mem_filter hr)
  · intro rows hrows
    rw [List.filter_filter]
    apply List.filter_congr
    intro r hr
    cases hpr : p r with
    | false => simp
    | true =>
      have hrow := hp r (hrows r hr) hpr
      cases b <;> simp [hrow]
  · intro rows _
    rw [List.filter_filter, List.filter_filter]
    apply List.filter_congr
    intro r _
    exact Bool.and_comm _ _

theorem insert {r : S.Row t} (hfits : R.Fits t r) (hrow : R.row t r = b) :
    R.Local b (insert t r) := by
  apply modify
  · intro rows hrows r' hr'
    rcases List.mem_append.mp hr' with hr' | hr'
    · exact hrows r' hr'
    · rw [List.mem_singleton.mp hr']
      exact hfits
  · intro rows _
    have hnot : (R.row t r == !b) = false := by
      rw [hrow]
      cases b <;> rfl
    rw [List.filter_append, List.filter_cons_of_neg (by rw [hnot]; decide)]
    simp
  · intro rows _
    rw [List.filter_append, List.filter_cons_of_pos (by rw [hrow]; simp)]
    simp

theorem update {p : S.Row t → Bool} {f : S.Row t → S.Row t}
    (h : ∀ r, R.Fits t r → p r = true → R.row t r = b ∧ R.Fits t (f r) ∧ R.row t (f r) = b) :
    R.Local b (update t p f) := by
  have hrow : ∀ r, R.Fits t r → R.row t (if p r then f r else r) = R.row t r := by
    intro r hr
    split
    · obtain ⟨hold, -, hnew⟩ := h r hr ‹_›
      rw [hold, hnew]
    · rfl
  have hcomm : ∀ (c : Bool) (rows : List (S.Row t)), (∀ r ∈ rows, R.Fits t r) →
      ((rows.map fun r => if p r then f r else r).filter fun r => R.row t r == c) =
        (rows.filter fun r => R.row t r == c).map fun r => if p r then f r else r := by
    intro c rows hrows
    rw [List.filter_map]
    congr 1
    apply List.filter_congr
    intro r hr
    simp only [Function.comp_apply, hrow r (hrows r hr)]
  apply modify
  · intro rows hrows r' hr'
    obtain ⟨r, hr, rfl⟩ := List.mem_map.mp hr'
    split
    · exact (h r (hrows r hr) ‹_›).2.1
    · exact hrows r hr
  · intro rows hrows
    rw [hcomm _ rows hrows, List.map_congr_left (g := id), List.map_id]
    intro r hr
    obtain ⟨hmem, hother⟩ := List.mem_filter.mp hr
    rw [beq_iff_eq] at hother
    have hnot : ¬ p r = true := by
      intro hp
      rw [(h r (hrows r hmem) hp).1] at hother
      cases b <;> cases hother
    rw [if_neg hnot]
    rfl
  · exact fun rows hrows => hcomm b rows hrows

theorem upsert {p : S.Row t → Bool} {r : S.Row t} {f : S.Row t → S.Row t}
    (hfits : R.Fits t r) (hrow : R.row t r = b)
    (h : ∀ r', R.Fits t r' → p r' = true →
      R.row t r' = b ∧ R.Fits t (f r') ∧ R.row t (f r') = b) :
    R.Local b (upsert t p r f) := by
  apply read_bind fun _ => True
  · rintro rfl d e hde
    have hp : ∀ r', R.Fits t r' → p r' = true → R.row t r' = true := fun r' hr' hpr =>
      (h r' hr' hpr).1
    rw [← any_side hde.left hp, ← any_side hde.right hp, hde.same]
  · exact fun _ _ => trivial
  · exact fun present _ => ite (update h) (insert hfits hrow)

theorem insertOrIgnore {r : S.Row t} (hfits : R.Fits t r) (hrow : R.row t r = b) :
    R.Local b (insertOrIgnore t r) := by
  apply read_bind fun _ => True
  · rintro rfl d e hde
    have hhas : ∀ k ∈ S.keys t r, (d.Has k ↔ e.Has k) := by
      intro k hk
      have hkey : R.key k = true := (R.keys_side t r hfits k hk).trans hrow
      have hd := has_side_iff hde.left true k
      have he := has_side_iff hde.right true k
      rw [hde.same] at hd
      constructor
      · intro h
        exact (he.mp (hd.mpr ⟨h, hkey⟩)).1
      · intro h
        exact (hd.mp (he.mpr ⟨h, hkey⟩)).1
    have hfresh : (∀ k ∈ S.keys t r, ¬ d.Has k) ↔ ∀ k ∈ S.keys t r, ¬ e.Has k :=
      forall₂_congr fun k hk => not_congr (hhas k hk)
    simp only [hfresh]
  · exact fun _ _ => trivial
  · exact fun fresh _ => ite ((insert hfits hrow).bind fun _ => pure true) (pure false)

theorem replaceRows {p : S.Row t → Bool} {rows : List (S.Row t)}
    (hp : ∀ r, R.Fits t r → p r = true → R.row t r = b)
    (hrows : ∀ r ∈ rows, R.Fits t r ∧ R.row t r = b) : R.Local b (replaceRows t p rows) :=
  (delete hp).bind fun _ => forEach fun r hr => insert (hrows r hr).1 (hrows r hr).2

theorem filter_append_singleton {rows : List (S.Row t)} {r : S.Row t} (c : Bool) :
    ((rows ++ [r]).filter fun r => R.row t r == c) =
      (rows.filter fun r => R.row t r == c) ++ if R.row t r = c then [r] else [] := by
  rw [List.filter_append]
  congr 1
  by_cases hrow : R.row t r = c
  · rw [if_pos hrow, List.filter_cons_of_pos (by simpa using hrow), List.filter_nil]
  · rw [if_neg hrow, List.filter_cons_of_neg (by simpa using hrow), List.filter_nil]

private theorem updateLast_outside {fs : List (S.Row t → S.Row t)}
    (hfs : ∀ f ∈ fs, ∀ r, R.Fits t r → R.row t r = false → R.Fits t (f r) ∧ R.row t (f r) = false)
    {d : Database S} (hd : R.Separated d.contents) {rows : List (S.Row t)} {r : S.Row t}
    (hlast : d t = rows ++ [r]) (hfits : R.Fits t r) (hrow : R.row t r = false) :
    R.Separated (Statement.forEach (updateLast t) fs d).2.contents ∧
      R.side true (Statement.forEach (updateLast t) fs d).2.contents = R.side true d.contents := by
  induction fs generalizing d r with
  | nil => exact ⟨hd, rfl⟩
  | cons f fs ih =>
    obtain ⟨hfits', hrow'⟩ := hfs f (by simp) r hfits hrow
    have hnew : mapLast f (d t) = rows ++ [f r] := by rw [hlast, mapLast_append]
    rw [forEach_cons]
    rcases updateLast_rows d f with hrun | ⟨d', hrun, hcontents⟩
    · rw [bind_run_error hrun]
      exact ⟨hd, rfl⟩
    · rw [bind_run_ok hrun]
      rw [hnew] at hcontents
      have hsep : R.Separated d'.contents := by
        rw [hcontents]
        apply hd.set
        intro r' hr'
        rcases List.mem_append.mp hr' with hr' | hr'
        · exact hd t r' (by rw [hlast]; exact List.mem_append_left _ hr')
        · rw [List.mem_singleton.mp hr']
          exact hfits'
      have hsame : R.side true d'.contents = R.side true d.contents := by
        rw [hcontents]
        apply side_set_same
        rw [Region.side, hlast, filter_append_singleton, filter_append_singleton, hrow, hrow']
        rfl
      have hlast' : d' t = rows ++ [f r] := by rw [hcontents, set_same]
      obtain ⟨hsep', hsame'⟩ := ih (fun g hg => hfs g (by simp [hg])) hsep hlast' hfits' hrow'
      exact ⟨hsep', hsame'.trans hsame⟩

private theorem updateLast_inside {fs : List (S.Row t → S.Row t)}
    (hfs : ∀ f ∈ fs, ∀ r, R.Fits t r → R.row t r = true → R.Fits t (f r) ∧ R.row t (f r) = true)
    {d e : Database S} (h : R.SameIn d e) {rows rows' : List (S.Row t)} {r : S.Row t}
    (hlast : d t = rows ++ [r]) (hlast' : e t = rows' ++ [r]) (hfits : R.Fits t r)
    (hrow : R.row t r = true) :
    (Statement.forEach (updateLast t) fs d).1 = (Statement.forEach (updateLast t) fs e).1 ∧
      R.SameIn (Statement.forEach (updateLast t) fs d).2
        (Statement.forEach (updateLast t) fs e).2 := by
  induction fs generalizing d e r with
  | nil => exact ⟨rfl, h⟩
  | cons f fs ih =>
    obtain ⟨hfits', hrow'⟩ := hfs f (by simp) r hfits hrow
    have hnew : mapLast f (d t) = rows ++ [f r] := by rw [hlast, mapLast_append]
    have hnew' : mapLast f (e t) = rows' ++ [f r] := by rw [hlast', mapLast_append]
    have hall : ∀ d : Database S, R.Separated d.contents → ∀ rows, d t = rows ++ [r] →
        ∀ r' ∈ rows ++ [f r], R.Fits t r' := by
      intro d hd rows hrows r' hr'
      rcases List.mem_append.mp hr' with hr' | hr'
      · exact hd t r' (by rw [hrows]; exact List.mem_append_left _ hr')
      · rw [List.mem_singleton.mp hr']
        exact hfits'
    have hother : ∀ (d : Database S) (rows : List (S.Row t)), d t = rows ++ [r] →
        ((rows ++ [f r]).filter fun r => R.row t r == false) = R.side false d.contents t := by
      intro d rows hrows
      rw [Region.side, hrows, filter_append_singleton, filter_append_singleton, hrow, hrow']
      rfl
    have hown : ((rows ++ [f r]).filter fun r => R.row t r == true) =
        (rows' ++ [f r]).filter fun r => R.row t r == true := by
      have hsame := congrFun h.same t
      rw [Region.side, Region.side, hlast, hlast', filter_append_singleton,
        filter_append_singleton] at hsame
      rw [filter_append_singleton, filter_append_singleton, List.append_cancel_right hsame]
    rw [forEach_cons]
    rcases h.modify (f := mapLast f) (by rw [hnew]; exact hall d h.left rows hlast)
      (by rw [hnew']; exact hall e h.right rows' hlast') (by rw [hnew]; exact hother d rows hlast)
      (by rw [hnew']; exact hother e rows' hlast') (by rw [hnew, hnew']; exact hown) with
      ⟨d', e', hd, he, hcd, hce, h'⟩ | ⟨hd, he⟩
    · have hd' : updateLast t f d = _ := hd
      have he' : updateLast t f e = _ := he
      rw [bind_run_ok hd', bind_run_ok he']
      apply ih (fun g hg => hfs g (by simp [hg])) h' _ _ hfits' hrow'
      · rw [hcd, set_same, hnew]
      · rw [hce, set_same, hnew']
    · have hd' : updateLast t f d = _ := hd
      have he' : updateLast t f e = _ := he
      rw [bind_run_error hd', bind_run_error he']
      exact ⟨rfl, h⟩

theorem insert_updateLast {r : S.Row t} {fs : List (S.Row t → S.Row t)} (hfits : R.Fits t r)
    (hrow : R.row t r = b)
    (hfs : ∀ f ∈ fs, ∀ r, R.Fits t r → R.row t r = b → R.Fits t (f r) ∧ R.row t (f r) = b) :
    R.Local b (Relational.insert t r >>= fun _ => Statement.forEach (updateLast t) fs) where
  outside := by
    rintro rfl d hd
    obtain ⟨hsep, hsame⟩ := (insert hfits hrow).outside rfl d hd
    rcases insert_rows d r with hrun | ⟨d', hrun, hcontents⟩
    · rw [bind_run_error hrun]
      exact ⟨hd, rfl⟩
    · rw [hrun] at hsep hsame
      rw [bind_run_ok hrun]
      have hlast : d' t = d t ++ [r] := by rw [hcontents, set_same]
      obtain ⟨hsep', hsame'⟩ := updateLast_outside hfs hsep hlast hfits hrow
      exact ⟨hsep', hsame'.trans hsame⟩
  inside := by
    rintro rfl d e h
    obtain ⟨hres, hst⟩ := (insert hfits hrow).inside rfl d e h
    rcases insert_rows d r with hd | ⟨d', hd, hcd⟩ <;>
      rcases insert_rows e r with he | ⟨e', he, hce⟩ <;> rw [hd, he] at hres hst
    · rw [bind_run_error hd, bind_run_error he]
      exact ⟨rfl, h⟩
    · cases hres
    · cases hres
    · rw [bind_run_ok hd, bind_run_ok he]
      exact updateLast_inside hfs hst (by rw [hcd, set_same]) (by rw [hce, set_same]) hfits hrow

end Local

/-- As `Local`, but for the database alone: the results can be different. -/
structure Confined (R : Region S) (b : Bool) (x : Query S α) : Prop where
  outside : b = false → R.Spares x
  inside : b = true → ∀ d e, R.SameIn d e → R.SameIn (x d).2 (x e).2

theorem Local.confined {b : Bool} {x : Query S α} (hx : R.Local b x) : R.Confined b x where
  outside := hx.outside
  inside := fun hb d e h => (hx.inside hb d e h).2

theorem Spares.confined {b : Bool} {x : Query S α} (hx : R.Spares x) : R.Confined b x where
  outside _ := hx
  inside _ _ _ h := h.of_spares hx

theorem Local.bind_confined {b : Bool} {x : Query S α} {f : α → Query S β} (hx : R.Local b x)
    (hf : ∀ a, R.Confined b (f a)) : R.Confined b (x >>= f) where
  outside hb := (hx.outside hb).bind fun a => (hf a).outside hb
  inside := by
    intro hb d e h
    obtain ⟨hres, hst⟩ := hx.inside hb d e h
    rw [bind_run, bind_run]
    rcases hd : x d with ⟨err | a, d'⟩ <;> rcases he : x e with ⟨err' | a', e'⟩ <;>
      rw [hd, he] at hres hst <;> simp only [Except.error.injEq, Except.ok.injEq, reduceCtorEq]
        at hres hst
    · exact hst
    · subst hres
      exact (hf a).inside hb d' e' hst

end Region
end Relational
