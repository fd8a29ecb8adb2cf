import Mathlib.Data.Set.Function

/-!
# Rows at the codes of their keys

A table that stores a map: the value of a key is in a row at a code of the key, such as a hash.
While no two keys of `K` have one code, a write at the code of a key of `K` changes the map at
that key only.
-/

namespace Relational

section

variable {κ ν ρ ι : Type} {row : κ → ν → ρ} {code : κ → ι} {place : ρ → ι} {K : Set κ}
  {m : κ → Option ν} {rows rows' : List ρ}

/-- The rows are those of the map. -/
def Stores (row : κ → ν → ρ) (m : κ → Option ν) (rows : List ρ) : Prop :=
  ∀ r, r ∈ rows ↔ ∃ x v, m x = some v ∧ row x v = r

theorem stores_nil : Stores row (fun _ => none) [] := by
  intro r
  simp

/-- The row of a key is at its code, and the keys of `K` have different codes. -/
structure Coding (row : κ → ν → ρ) (code : κ → ι) (place : ρ → ι) (K : Set κ) : Prop where
  place_row : ∀ x v, place (row x v) = code x
  injOn : K.InjOn code

namespace Coding

variable (c : Coding row code place K) (hkeys : ∀ x v, m x = some v → x ∈ K)

include c hkeys

theorem eq_of_place (h : Stores row m rows) {r : ρ} (hr : r ∈ rows) {x : κ} (hx : x ∈ K)
    (hcode : place r = code x) : ∃ v, m x = some v ∧ row x v = r := by
  obtain ⟨y, v, hy, rfl⟩ := (h r).mp hr
  have hsame : y = x := c.injOn (hkeys y v hy) hx ((c.place_row y v).symm.trans hcode)
  exact ⟨v, hsame ▸ hy, by rw [hsame]⟩

theorem erase [DecidableEq κ] (h : Stores row m rows) {xs : List κ} (hxs : ∀ x ∈ xs, x ∈ K)
    (hrows : ∀ r, r ∈ rows' ↔ r ∈ rows ∧ place r ∉ xs.map code) :
    Stores row (fun x => if x ∈ xs then none else m x) rows' := by
  intro r
  rw [hrows]
  constructor
  · rintro ⟨hr, hcode⟩
    obtain ⟨y, v, hy, rfl⟩ := (h r).mp hr
    have hnot : y ∉ xs := by
      intro hmem
      apply hcode
      rw [c.place_row]
      exact List.mem_map_of_mem hmem
    exact ⟨y, v, (if_neg hnot).trans hy, rfl⟩
  · rintro ⟨y, v, hy, rfl⟩
    dsimp only at hy
    by_cases hmem : y ∈ xs
    · rw [if_pos hmem] at hy
      cases hy
    · rw [if_neg hmem] at hy
      refine ⟨(h _).mpr ⟨y, v, hy, rfl⟩, ?_⟩
      intro hcode
      obtain ⟨x, hx, hsame⟩ := List.mem_map.mp hcode
      have heq : x = y := c.injOn (hxs x hx) (hkeys y v hy) (hsame.trans (c.place_row y v))
      exact hmem (heq ▸ hx)

theorem put [DecidableEq κ] (h : Stores row m rows) {x : κ} (hx : x ∈ K) {v : ν}
    (hrows : ∀ r, r ∈ rows' ↔ r ∈ rows ∧ place r ≠ code x ∨ r = row x v) :
    Stores row (Function.update m x (some v)) rows' := by
  intro r
  rw [hrows]
  constructor
  · rintro (⟨hr, hcode⟩ | rfl)
    · obtain ⟨y, w, hy, rfl⟩ := (h r).mp hr
      have hne : y ≠ x := fun hsame => hcode (hsame ▸ c.place_row y w)
      exact ⟨y, w, by rwa [Function.update_of_ne hne], rfl⟩
    · exact ⟨x, v, Function.update_self .., rfl⟩
  · rintro ⟨y, w, hy, rfl⟩
    by_cases hsame : y = x
    · subst hsame
      rw [Function.update_self, Option.some.injEq] at hy
      exact .inr (by rw [hy])
    · rw [Function.update_of_ne hsame] at hy
      refine .inl ⟨(h _).mpr ⟨y, w, hy, rfl⟩, fun hcode => hsame ?_⟩
      exact c.injOn (hkeys y w hy) hx ((c.place_row y w).symm.trans hcode)

end Coding

end

end Relational
