import Mathlib

/-!
# Checked arithmetic

Arithmetic on signed 64-bit integers that has no result when a value leaves their range.
-/

namespace CheckedInt

def InRange (x : Int) : Prop := -2 ^ 63 ≤ x ∧ x < 2 ^ 63

instance (x : Int) : Decidable (InRange x) := inferInstanceAs (Decidable (_ ∧ _))

def ofInt (x : Int) : Option Int := if InRange x then some x else none

def add (a b : Int) : Option Int := ofInt (a + b)

def sub (a b : Int) : Option Int := ofInt (a - b)

def abs (x : Int) : Option Int := ofInt |x|

/-- The sum from the left, with `acc` as the sum so far. -/
def sumFrom (acc : Int) : List Int → Option Int
  | [] => some acc
  | x :: xs => (add acc x).bind fun acc => sumFrom acc xs

def sum (xs : List Int) : Option Int := sumFrom 0 xs

theorem ofInt_eq_some {x y : Int} : ofInt x = some y ↔ InRange x ∧ y = x := by
  unfold ofInt
  split
  · rename_i h
    rw [Option.some.injEq, and_iff_right h, eq_comm]
  · rename_i h
    exact iff_of_false (by simp) fun hx => h hx.1

theorem ofInt_isSome {x : Int} : (ofInt x).isSome = true ↔ InRange x := by
  rw [Option.isSome_iff_exists]
  simp only [ofInt_eq_some, exists_and_left, exists_eq, and_true]

theorem inRange_zero : InRange 0 := by decide

theorem sumFrom_eq_some {acc total : Int} {xs : List Int} (h : sumFrom acc xs = some total) :
    total = acc + xs.sum := by
  induction xs generalizing acc with
  | nil =>
    rw [sumFrom, Option.some.injEq] at h
    rw [List.sum_nil, ← h, Int.add_zero]
  | cons x xs ih =>
    obtain ⟨next, hnext, hrest⟩ := Option.bind_eq_some_iff.mp h
    obtain ⟨-, rfl⟩ := ofInt_eq_some.mp hnext
    rw [ih hrest, List.sum_cons, Int.add_assoc]

theorem sumFrom_isSome {acc : Int} {xs : List Int} (hacc : InRange acc) :
    (sumFrom acc xs).isSome = true ↔ ∀ front, front <+: xs → InRange (acc + front.sum) := by
  induction xs generalizing acc with
  | nil => simpa [sumFrom] using hacc
  | cons x xs ih =>
    by_cases hnext : InRange (acc + x)
    · have hstep : sumFrom acc (x :: xs) = sumFrom (acc + x) xs := by
        rw [sumFrom, add, ofInt, if_pos hnext, Option.bind_some]
      rw [hstep, ih hnext]
      constructor
      · intro h front hfront
        cases front with
        | nil => simpa using hacc
        | cons y front =>
          obtain ⟨rfl, hrest⟩ := List.cons_prefix_cons.mp hfront
          rw [List.sum_cons, ← Int.add_assoc]
          exact h front hrest
      · intro h front hfront
        have hlonger := h (x :: front) (List.cons_prefix_cons.mpr ⟨rfl, hfront⟩)
        rwa [List.sum_cons, ← Int.add_assoc] at hlonger
    · have hstep : sumFrom acc (x :: xs) = none := by
        rw [sumFrom, add, ofInt, if_neg hnext, Option.bind_none]
      rw [hstep]
      refine iff_of_false (by simp) fun h => hnext ?_
      simpa using h [x] (List.cons_prefix_cons.mpr ⟨rfl, List.nil_prefix⟩)

theorem sum_isSome {xs : List Int} :
    (sum xs).isSome = true ↔ ∀ front, front <+: xs → InRange front.sum := by
  rw [sum, sumFrom_isSome inRange_zero]
  simp only [Int.zero_add]

theorem sum_eq_some {xs : List Int} {total : Int} (h : sum xs = some total) : total = xs.sum := by
  rw [sumFrom_eq_some h, Int.zero_add]

theorem abs_sub_isSome {a b : Int} :
    ((sub a b).bind abs).isSome = true ↔ |a - b| < 2 ^ 63 := by
  rw [Option.isSome_iff_exists]
  simp only [Option.bind_eq_some_iff, sub, abs, ofInt_eq_some]
  constructor
  · rintro ⟨_, _, ⟨-, rfl⟩, ⟨-, hlt⟩, -⟩
    exact hlt
  · intro hlt
    obtain ⟨hlower, hupper⟩ := abs_lt.mp hlt
    have hnonneg := abs_nonneg (a - b)
    exact ⟨_, _, ⟨⟨by omega, hupper⟩, rfl⟩, ⟨by omega, hlt⟩, rfl⟩

end CheckedInt
