import Mathlib.Data.List.Flatten
import Mathlib.Data.List.Sort
import Stophammer.Relational.Schema

/-!
# Write statements

`INSERT`, `UPDATE`, `DELETE` and the upserts, each one as a change of the rows of
one table.  A change that would break a constraint is an error and changes nothing.
-/

namespace Relational

variable {S : Schema} {t u : S.Table}

namespace Contents

theorem has_set_same {T : Contents S} {k : S.Key} (hk : S.home k = t) (rows : List (S.Row t)) :
    (T.set t rows).Has k ↔ k ∈ keysOf t rows := by
  subst hk
  rw [Has, set_same]

theorem has_set_other {T : Contents S} {k : S.Key} (hk : S.home k ≠ t) (rows : List (S.Row t)) :
    (T.set t rows).Has k ↔ T.Has k := by
  rw [Has, set_other hk, Has]

theorem valid_set {T : Contents S} (hT : T.Valid) {rows : List (S.Row t)}
    (hunique : (keysOf t rows).Nodup) (hcheck : ∀ r ∈ rows, S.check t r)
    (hrefs : ∀ r ∈ rows, ∀ k ∈ S.refs t r, T.Has k)
    (hreferenced : ∀ v r, r ∈ T v → ∀ k ∈ S.refs v r, S.home k = t → k ∈ keysOf t rows) :
    (T.set t rows).Valid := by
  refine ⟨fun v => ?_, fun v r hr => ?_, fun v r hr k hk => ?_⟩
  · by_cases hv : v = t
    · subst hv
      rwa [set_same]
    · rw [set_other hv]
      exact hT.unique v
  · by_cases hv : v = t
    · subst hv
      rw [set_same] at hr
      exact hcheck r hr
    · rw [set_other hv] at hr
      exact hT.checked v r hr
  · by_cases hv : v = t
    · subst hv
      rw [set_same] at hr
      exact (has_set_other (S.refs_home v r k hk) rows).mpr (hrefs r hr k hk)
    · rw [set_other hv] at hr
      by_cases hh : S.home k = t
      · exact (has_set_same hh rows).mpr (hreferenced v r hr k hk hh)
      · exact (has_set_other hh rows).mpr (hT.referenced v r hr k hk)

end Contents

namespace Database

open Contents

/-- The constraints admit the new row `r` of the table `t`. -/
structure Admits (d : Database S) (t : S.Table) (r : S.Row t) : Prop where
  fresh : ∀ k ∈ S.keys t r, ¬ d.Has k
  checked : S.check t r
  referenced : ∀ k ∈ S.refs t r, d.Has k

instance (d : Database S) (t : S.Table) (r : S.Row t) : Decidable (d.Admits t r) :=
  decidable_of_iff
    ((∀ k ∈ S.keys t r, ¬ d.Has k) ∧ S.check t r ∧ ∀ k ∈ S.refs t r, d.Has k)
    ⟨fun h => ⟨h.1, h.2.1, h.2.2⟩, fun h => ⟨h.fresh, h.checked, h.referenced⟩⟩

theorem valid_append_iff (d : Database S) (r : S.Row t) :
    (d.contents.set t (d t ++ [r])).Valid ↔ d.Admits t r := by
  have hkeys : keysOf t (d t ++ [r]) = keysOf t (d t) ++ S.keys t r := by
    simp [keysOf]
  constructor
  · intro h
    refine ⟨fun k hk hhas => ?_, ?_, fun k hk => ?_⟩
    · have hnodup := h.unique t
      rw [set_same, hkeys] at hnodup
      have hhome := S.keys_home t r k hk
      subst hhome
      exact (List.nodup_append.mp hnodup).2.2 k hhas k hk rfl
    · exact h.checked t r (by simp)
    · exact (has_set_other (S.refs_home t r k hk) _).mp (h.referenced t r (by simp) k hk)
  · intro h
    refine valid_set d.valid ?_ ?_ ?_ ?_
    · rw [hkeys, List.nodup_append]
      refine ⟨d.valid.unique t, S.keys_nodup t r, fun k hk k' hk' heq => ?_⟩
      subst heq
      have hhome := S.keys_home t r k hk'
      subst hhome
      exact h.fresh k hk' hk
    · intro r' hr'
      rcases List.mem_append.mp hr' with hr' | hr'
      · exact d.valid.checked t r' hr'
      · rw [List.mem_singleton.mp hr']
        exact h.checked
    · intro r' hr'
      rcases List.mem_append.mp hr' with hr' | hr'
      · exact d.valid.referenced t r' hr'
      · rw [List.mem_singleton.mp hr']
        exact h.referenced
    · intro v r' hr' k hk hhome
      rw [hkeys]
      have hhas := d.valid.referenced v r' hr' k hk
      subst hhome
      exact List.mem_append_left _ hhas

/-- No constraint names a key of the table `t`. -/
def Leaf (t : S.Table) : Prop := ∀ v r, ∀ k ∈ S.refs v r, S.home k ≠ t

theorem valid_sublist (d : Database S) (ht : Leaf t) {rows : List (S.Row t)}
    (hrows : rows.Sublist (d t)) : (d.contents.set t rows).Valid := by
  have hkeys : (keysOf t rows).Sublist (keysOf t (d t)) := hrows.flatMap (S.keys t)
  refine valid_set d.valid ((d.valid.unique t).sublist hkeys) ?_ ?_ ?_
  · exact fun r hr => d.valid.checked t r (hrows.subset hr)
  · exact fun r hr => d.valid.referenced t r (hrows.subset hr)
  · exact fun v r _ k hk hhome => absurd hhome (ht v r k hk)

theorem valid_map (d : Database S) {f : S.Row t → S.Row t}
    (hkeys : ∀ r ∈ d t, S.keys t (f r) = S.keys t r) (hrefs : ∀ r ∈ d t, S.refs t (f r) = S.refs t r)
    (hcheck : ∀ r ∈ d t, S.check t (f r)) : (d.contents.set t ((d t).map f)).Valid := by
  have hsame : keysOf t ((d t).map f) = keysOf t (d t) := by
    unfold keysOf
    rw [List.flatMap_map]
    exact List.flatMap_congr hkeys
  refine valid_set d.valid ?_ ?_ ?_ ?_
  · rw [hsame]
    exact d.valid.unique t
  · intro r hr
    obtain ⟨r', hr', rfl⟩ := List.mem_map.mp hr
    exact hcheck r' hr'
  · intro r hr
    obtain ⟨r', hr', rfl⟩ := List.mem_map.mp hr
    rw [hrefs r' hr']
    exact d.valid.referenced t r' hr'
  · intro v r hr k hk hhome
    have hhas := d.valid.referenced v r hr k hk
    rw [hsame]
    subst hhome
    exact hhas

end Database

/-- `ORDER BY`.  Rows that compare equal stay in rowid order. -/
def orderBy {α : Type} (cmp : α → α → Ordering) (rows : List α) : List α :=
  rows.insertionSort fun a b => (cmp a b).isLE

theorem orderBy_perm {α : Type} (cmp : α → α → Ordering) (rows : List α) :
    (orderBy cmp rows).Perm rows := List.perm_insertionSort _ _

section Sorted

variable {α : Type} (key : α → Int) (rows : List α)

theorem sort_pairwise :
    (rows.insertionSort fun a b => key a ≤ key b).Pairwise fun a b => key a ≤ key b := by
  have htotal : Std.Total fun a b : α => key a ≤ key b := ⟨fun a b => Int.le_total (key a) (key b)⟩
  have htrans : IsTrans α fun a b => key a ≤ key b := ⟨fun _ _ _ hab hbc => Int.le_trans hab hbc⟩
  exact List.pairwise_insertionSort _ _

theorem orderBy_compareOn :
    orderBy (compareOn key) rows = rows.insertionSort fun a b => key a ≤ key b := by
  have hle : (fun a b => (compareOn key a b).isLE = true) = fun a b => key a ≤ key b := by
    funext a b
    exact propext Std.isLE_compare
  unfold orderBy
  congr!

theorem orderBy_of_pairwise {rows : List α} (h : rows.Pairwise fun a b => key a ≤ key b) :
    orderBy (compareOn key) rows = rows := by
  rw [orderBy_compareOn]
  exact h.insertionSort_eq

end Sorted

open Statement Database

/-- A statement of the database of `S`. -/
abbrev Query (S : Schema) (α : Type) : Type := Statement S.Error (Database S) α

/-- Put `f` of the rows of `t` in place of them, when every constraint holds then. -/
def modify (t : S.Table) (f : List (S.Row t) → List (S.Row t)) : Query S Unit := fun d =>
  if h : (d.contents.set t (f (d t))).Valid then (.ok (), ⟨_, h⟩)
  else (.error (S.violation t), d)

/-- `INSERT`. -/
def insert (t : S.Table) (r : S.Row t) : Query S Unit := modify t (· ++ [r])

/-- `DELETE … WHERE p`. -/
def delete (t : S.Table) (p : S.Row t → Bool) : Query S Unit := modify t (·.filter (!p ·))

/-- `UPDATE … SET f WHERE p`. -/
def update (t : S.Table) (p : S.Row t → Bool) (f : S.Row t → S.Row t) : Query S Unit :=
  modify t (·.map fun r => if p r then f r else r)

/-- `f` of the last element. -/
def mapLast {α : Type} (f : α → α) : List α → List α
  | [] => []
  | [a] => [f a]
  | a :: b :: as => a :: mapLast f (b :: as)

theorem mapLast_append {α : Type} (f : α → α) (as : List α) (a : α) :
    mapLast f (as ++ [a]) = as ++ [f a] := by
  induction as with
  | nil => rfl
  | cons x as ih =>
    cases as with
    | nil => rfl
    | cons y as => exact congrArg (x :: ·) ih

def updateLast (t : S.Table) (f : S.Row t → S.Row t) : Query S Unit := modify t (mapLast f)

/-- `INSERT … ON CONFLICT DO UPDATE SET f` where `p` finds the row in conflict. -/
def upsert (t : S.Table) (p : S.Row t → Bool) (r : S.Row t) (f : S.Row t → S.Row t) :
    Query S Unit := do
  if ← read fun d => (d t).any p then update t p f else insert t r

/-- `INSERT OR IGNORE`: whether the row went in.  A `FOREIGN KEY` still fails. -/
def insertOrIgnore (t : S.Table) (r : S.Row t) : Query S Bool := do
  if ← read fun d => decide ((∀ k ∈ S.keys t r, ¬ d.Has k) ∧ S.check t r) then
    insert t r
    pure true
  else pure false

/-- `INSERT OR REPLACE`: the rows that share a key with `r` leave. -/
def insertOrReplace (t : S.Table) (r : S.Row t) : Query S Unit :=
  modify t fun rows => rows.filter (fun r' => decide (∀ k ∈ S.keys t r, k ∉ S.keys t r')) ++ [r]

/-- Delete the rows with `p`, then insert `rows` in order. -/
def replaceRows (t : S.Table) (p : S.Row t → Bool) (rows : List (S.Row t)) : Query S Unit := do
  delete t p
  forEach (insert t) rows

section Modify

variable {d : Database S} {f : List (S.Row t) → List (S.Row t)}

theorem modify_ok (h : (d.contents.set t (f (d t))).Valid) : modify t f d = (.ok (), ⟨_, h⟩) :=
  dif_pos h

theorem modify_error (h : ¬ (d.contents.set t (f (d t))).Valid) :
    modify t f d = (.error (S.violation t), d) := dif_neg h

theorem modify_leaves (hu : u ≠ t) : Leaves (fun d : Database S => d u) (modify t f) := by
  intro d
  by_cases h : (d.contents.set t (f (d t))).Valid
  · rw [modify_ok h]
    exact Contents.set_other hu _
  · rw [modify_error h]

theorem modify_rows (d : Database S) (f : List (S.Row t) → List (S.Row t)) :
    modify t f d = (.error (S.violation t), d) ∨
      ∃ e : Database S, modify t f d = (.ok (), e) ∧ e.contents = d.contents.set t (f (d t)) := by
  by_cases h : (d.contents.set t (f (d t))).Valid
  · exact .inr ⟨_, modify_ok h, rfl⟩
  · exact .inl (modify_error h)

theorem insert_rows (d : Database S) (r : S.Row t) :
    insert t r d = (.error (S.violation t), d) ∨
      ∃ e : Database S, insert t r d = (.ok (), e) ∧ e.contents = d.contents.set t (d t ++ [r]) :=
  modify_rows d (· ++ [r])

theorem updateLast_rows (d : Database S) (f : S.Row t → S.Row t) :
    updateLast t f d = (.error (S.violation t), d) ∨
      ∃ e : Database S, updateLast t f d = (.ok (), e) ∧
        e.contents = d.contents.set t (mapLast f (d t)) :=
  modify_rows d (mapLast f)

end Modify

section Run

variable (d : Database S)

theorem insert_ok {r : S.Row t} (h : d.Admits t r) :
    ∃ e : Database S, insert t r d = (.ok (), e) ∧ e.contents = d.contents.set t (d t ++ [r]) :=
  ⟨_, modify_ok ((valid_append_iff d r).mpr h), rfl⟩

theorem insert_error {r : S.Row t} (h : ¬ d.Admits t r) :
    insert t r d = (.error (S.violation t), d) :=
  modify_error fun hv => h ((valid_append_iff d r).mp hv)

theorem delete_ok (ht : Leaf t) (p : S.Row t → Bool) :
    ∃ e : Database S, delete t p d = (.ok (), e) ∧
      e.contents = d.contents.set t ((d t).filter (!p ·)) :=
  ⟨_, modify_ok (valid_sublist d ht List.filter_sublist), rfl⟩

theorem update_ok {p : S.Row t → Bool} {f : S.Row t → S.Row t}
    (hkeys : ∀ r ∈ d t, p r → S.keys t (f r) = S.keys t r)
    (hrefs : ∀ r ∈ d t, p r → S.refs t (f r) = S.refs t r)
    (hcheck : ∀ r ∈ d t, p r → S.check t (f r)) :
    ∃ e : Database S, update t p f d = (.ok (), e) ∧
      e.contents = d.contents.set t ((d t).map fun r => if p r then f r else r) := by
  refine ⟨_, modify_ok (valid_map d ?_ ?_ ?_), rfl⟩
  · intro r hr
    split
    · exact hkeys r hr ‹_›
    · rfl
  · intro r hr
    split
    · exact hrefs r hr ‹_›
    · rfl
  · intro r hr
    split
    · exact hcheck r hr ‹_›
    · exact d.valid.checked t r hr

theorem upsert_present {p : S.Row t → Bool} {r : S.Row t} {f : S.Row t → S.Row t}
    (h : (d t).any p) : upsert t p r f d = update t p f d := by
  unfold upsert
  rw [read_bind_run, if_pos h]

theorem upsert_absent {p : S.Row t → Bool} {r : S.Row t} {f : S.Row t → S.Row t}
    (h : ¬ (d t).any p) : upsert t p r f d = insert t r d := by
  unfold upsert
  rw [read_bind_run, if_neg h]

theorem insertOrIgnore_skip {r : S.Row t}
    (h : ¬ ((∀ k ∈ S.keys t r, ¬ d.Has k) ∧ S.check t r)) :
    insertOrIgnore t r d = (.ok false, d) := by
  unfold insertOrIgnore
  rw [read_bind_run, if_neg (by simpa using h)]
  rfl

theorem insertOrIgnore_ok {r : S.Row t} (h : d.Admits t r) :
    ∃ e : Database S, insertOrIgnore t r d = (.ok true, e) ∧
      e.contents = d.contents.set t (d t ++ [r]) := by
  obtain ⟨e, hrun, he⟩ := insert_ok d h
  refine ⟨e, ?_, he⟩
  unfold insertOrIgnore
  rw [read_bind_run, if_pos (decide_eq_true ⟨h.fresh, h.checked⟩), bind_run_ok hrun]
  rfl

end Run

/-- Only the rows of the tables `ts` can change, whatever the result. -/
def Writes (ts : List S.Table) {α : Type} (x : Query S α) : Prop :=
  ∀ u, u ∉ ts → Leaves (fun d : Database S => d u) x

namespace Writes

variable {ts : List S.Table} {α β : Type}

theorem pure (a : α) : Writes ts (pure a : Query S α) := fun _ _ => Leaves.pure a

theorem read (f : Database S → α) : Writes ts (read f : Query S α) := fun _ _ => Leaves.read f

theorem fail (e : S.Error) : Writes ts (fail e : Query S α) := fun _ _ => Leaves.fail e

theorem bind {x : Query S α} {f : α → Query S β} (hx : Writes ts x)
    (hf : ∀ a, Writes ts (f a)) : Writes ts (x >>= f) :=
  fun u hu => (hx u hu).bind fun a => hf a u hu

theorem forEach {f : β → Query S Unit} {xs : List β} (hf : ∀ b, Writes ts (f b)) :
    Writes ts (forEach f xs) :=
  fun u hu => Leaves.forEach fun b _ => hf b u hu

theorem ite {p : Prop} [Decidable p] {x y : Query S α} (hx : Writes ts x) (hy : Writes ts y) :
    Writes ts (if p then x else y) := fun u hu => Leaves.ite (hx u hu) (hy u hu)

theorem attempt {x : Query S α} (hx : Writes ts x) : Writes ts (attempt x) :=
  fun u hu => Leaves.attempt (hx u hu)

theorem transaction {x : Query S α} (hx : Writes ts x) : Writes ts (transaction x) :=
  fun u hu => Leaves.transaction (hx u hu)

theorem mono {us : List S.Table} {x : Query S α} (hx : Writes ts x) (h : ts ⊆ us) :
    Writes us x := fun u hu => hx u fun ht => hu (h ht)

theorem modify {f : List (S.Row t) → List (S.Row t)} (ht : t ∈ ts) : Writes ts (modify t f) :=
  fun _ hu => modify_leaves fun h => hu (h ▸ ht)

theorem insert {r : S.Row t} (ht : t ∈ ts) : Writes ts (insert t r) := modify ht

theorem delete {p : S.Row t → Bool} (ht : t ∈ ts) : Writes ts (delete t p) := modify ht

theorem update {p : S.Row t → Bool} {f : S.Row t → S.Row t} (ht : t ∈ ts) :
    Writes ts (update t p f) := modify ht

theorem updateLast {f : S.Row t → S.Row t} (ht : t ∈ ts) : Writes ts (updateLast t f) :=
  modify ht

theorem insertOrReplace {r : S.Row t} (ht : t ∈ ts) : Writes ts (insertOrReplace t r) :=
  modify ht

theorem upsert {p : S.Row t → Bool} {r : S.Row t} {f : S.Row t → S.Row t} (ht : t ∈ ts) :
    Writes ts (upsert t p r f) :=
  (Writes.read _).bind fun _ => .ite (update ht) (insert ht)

theorem insertOrIgnore {r : S.Row t} (ht : t ∈ ts) : Writes ts (insertOrIgnore t r) :=
  (Writes.read _).bind fun _ => .ite ((insert ht).bind fun _ => .pure true) (.pure false)

theorem replaceRows {p : S.Row t → Bool} {rows : List (S.Row t)} (ht : t ∈ ts) :
    Writes ts (replaceRows t p rows) := (delete ht).bind fun _ => .forEach fun _ => insert ht

end Writes
end Relational
