import Mathlib.Data.List.Basic
import Mathlib.Data.List.Nodup
import Mathlib.Logic.Function.Basic
import Stophammer.Relational.Statement

/-!
# Databases of a schema

A table is a list of rows in rowid order.  A database is a family of tables that
meets the constraints of its schema, so a statement can only end in such a
database: a write that would break a constraint fails and changes nothing.
-/

namespace Relational

/-- The tables of a database with their constraints.  `keys` lists the values of
the `PRIMARY KEY` and `UNIQUE` constraints of a row, `refs` the keys its
`FOREIGN KEY` columns name, and `check` is the conjunction of its `CHECK`s. -/
structure Schema where
  Table : Type
  [decTable : DecidableEq Table]
  tables : List Table
  mem_tables : ∀ t, t ∈ tables
  Row : Table → Type
  Key : Type
  [decKey : DecidableEq Key]
  home : Key → Table
  keys : (t : Table) → Row t → List Key
  refs : (t : Table) → Row t → List Key
  check : (t : Table) → Row t → Bool
  keys_nodup : ∀ t r, (keys t r).Nodup
  keys_home : ∀ t r, ∀ k ∈ keys t r, home k = t
  refs_home : ∀ t r, ∀ k ∈ refs t r, home k ≠ t
  Error : Type
  violation : Table → Error

attribute [instance] Schema.decTable Schema.decKey

variable {S : Schema}

/-- The rows of each table, with or without the constraints. -/
abbrev Contents (S : Schema) : Type := (t : S.Table) → List (S.Row t)

namespace Contents

def set (T : Contents S) (t : S.Table) (rows : List (S.Row t)) : Contents S :=
  Function.update T t rows

@[simp] theorem set_same (T : Contents S) (t : S.Table) (rows : List (S.Row t)) :
    T.set t rows t = rows := Function.update_self ..

@[simp] theorem set_other {T : Contents S} {t u : S.Table} (h : u ≠ t) (rows : List (S.Row t)) :
    T.set t rows u = T u := Function.update_of_ne h ..

/-- The key values of the rows of one table. -/
def keysOf (t : S.Table) (rows : List (S.Row t)) : List S.Key := rows.flatMap (S.keys t)

/-- A row of the key's table holds the key. -/
def Has (T : Contents S) (k : S.Key) : Prop := k ∈ keysOf (S.home k) (T (S.home k))

instance (T : Contents S) (k : S.Key) : Decidable (T.Has k) :=
  inferInstanceAs (Decidable (k ∈ keysOf (S.home k) (T (S.home k))))

/-- Every constraint of the schema holds. -/
structure Valid (T : Contents S) : Prop where
  unique : ∀ t, (keysOf t (T t)).Nodup
  checked : ∀ t, ∀ r ∈ T t, S.check t r
  referenced : ∀ t, ∀ r ∈ T t, ∀ k ∈ S.refs t r, T.Has k

instance (T : Contents S) : Decidable T.Valid :=
  decidable_of_iff
    (∀ t ∈ S.tables, (keysOf t (T t)).Nodup ∧
      ∀ r ∈ T t, S.check t r ∧ ∀ k ∈ S.refs t r, T.Has k)
    ⟨fun h => ⟨fun t => (h t (S.mem_tables t)).1,
        fun t r hr => ((h t (S.mem_tables t)).2 r hr).1,
        fun t r hr => ((h t (S.mem_tables t)).2 r hr).2⟩,
      fun h t _ => ⟨h.unique t, fun r hr => ⟨h.checked t r hr, h.referenced t r hr⟩⟩⟩

end Contents

/-- A database in which every constraint holds. -/
structure Database (S : Schema) where
  contents : Contents S
  valid : contents.Valid

namespace Database

instance : CoeFun (Database S) fun _ => (t : S.Table) → List (S.Row t) := ⟨Database.contents⟩

theorem ext {d e : Database S} (h : ∀ t, d t = e t) : d = e := by
  rcases d with ⟨D, hD⟩
  rcases e with ⟨E, hE⟩
  have hDE : D = E := funext h
  subst hDE
  rfl

/-- The database with no rows. -/
def empty (S : Schema) : Database S where
  contents := fun _ => []
  valid :=
    ⟨fun _ => List.nodup_nil, fun _ _ h => (List.not_mem_nil h).elim,
      fun _ _ h => (List.not_mem_nil h).elim⟩

/-- A row of the key's table holds the key. -/
abbrev Has (d : Database S) (k : S.Key) : Prop := d.contents.Has k

theorem has_iff {d : Database S} {k : S.Key} {t : S.Table} (ht : S.home k = t) :
    d.Has k ↔ ∃ r ∈ d t, k ∈ S.keys t r := by
  subst ht
  simp only [Has, Contents.Has, Contents.keysOf, List.mem_flatMap]

theorem eq_of_shared_key (d : Database S) {t : S.Table} {r r' : S.Row t} (hr : r ∈ d t)
    (hr' : r' ∈ d t) {k : S.Key} (hk : k ∈ S.keys t r) (hk' : k ∈ S.keys t r') : r = r' := by
  have hpair := (List.nodup_flatMap.mp (d.valid.unique t)).2
  obtain ⟨i, hi, rfl⟩ := List.getElem_of_mem hr
  obtain ⟨j, hj, rfl⟩ := List.getElem_of_mem hr'
  have hsep := List.pairwise_iff_getElem.mp hpair
  rcases Nat.lt_trichotomy i j with hij | rfl | hji
  · exact absurd hk' (hsep i j hi hj hij hk)
  · rfl
  · exact absurd hk (hsep j i hj hi hji hk')

theorem rows_nodup (d : Database S) {t : S.Table} (hkeys : ∀ r, S.keys t r ≠ []) : (d t).Nodup := by
  have hpairs := (List.nodup_flatMap.mp (d.valid.unique t)).2
  refine hpairs.imp fun {r r'} hdisjoint hsame => ?_
  obtain ⟨k, hk⟩ := List.exists_mem_of_ne_nil _ (hkeys r)
  exact hdisjoint hk (hsame ▸ hk)

end Database
end Relational
