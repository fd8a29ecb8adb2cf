import Mathlib.Data.Nat.Basic
import Mathlib.Tactic.Ring

/-!
# Blocks of addresses

The addresses of a block have the leading bits of its base.  A block is a range of numbers, and a
test of the leading bits with a mask is a test for a block.
-/

namespace Net

/-- The addresses that have the first `length` bits of `base`. -/
structure Block (w : Nat) where
  base : BitVec w
  length : Nat
  fits : length ≤ w := by decide

namespace Block

variable {w : Nat}

def size (b : Block w) : Nat := 2 ^ (w - b.length)

def Contains (b : Block w) (a : BitVec w) : Prop :=
  a >>> (w - b.length) = b.base >>> (w - b.length)

instance (b : Block w) (a : BitVec w) : Decidable (b.Contains a) :=
  inferInstanceAs (Decidable (_ = _))

/-- The bits that the block fixes. -/
def mask (b : Block w) : BitVec w := BitVec.allOnes w <<< (w - b.length)

/-- The lowest address. -/
def first (b : Block w) : Nat := b.base.toNat / b.size * b.size

theorem size_pos (b : Block w) : 0 < b.size := Nat.two_pow_pos _

theorem contains_iff_div {b : Block w} {a : BitVec w} :
    b.Contains a ↔ a.toNat / b.size = b.base.toNat / b.size := by
  rw [Contains, BitVec.toNat_eq, BitVec.toNat_ushiftRight, BitVec.toNat_ushiftRight,
    Nat.shiftRight_eq_div_pow, Nat.shiftRight_eq_div_pow, size]

theorem contains_iff_range {b : Block w} {a : BitVec w} :
    b.Contains a ↔ b.first ≤ a.toNat ∧ a.toNat < b.first + b.size := by
  rw [contains_iff_div, first, Nat.div_eq_iff b.size_pos]
  have hpos := b.size_pos
  constructor
  · rintro ⟨hlow, hhigh⟩
    exact ⟨hlow, by omega⟩
  · rintro ⟨hlow, hhigh⟩
    exact ⟨hlow, by omega⟩

theorem contains_iff_mask {b : Block w} {a : BitVec w} :
    b.Contains a ↔ a &&& b.mask = b.base &&& b.mask := by
  have hbit : ∀ (x : BitVec w) (i : Nat), (x &&& b.mask).getLsbD i =
      (decide (w - b.length ≤ i) && x.getLsbD i) := by
    intro x i
    rw [BitVec.getLsbD_and, mask, BitVec.getLsbD_shiftLeft, BitVec.getLsbD_allOnes]
    by_cases hi : i < w
    · by_cases hk : w - b.length ≤ i
      · have hdiff : i - (w - b.length) < w := by omega
        simp only [hi, hk, hdiff, Nat.not_lt.mpr hk, decide_true, decide_false, Bool.not_false,
          Bool.and_true, Bool.true_and]
      · simp only [hi, hk, Nat.not_le.mp hk, decide_true, decide_false, Bool.not_true,
          Bool.and_false, Bool.false_and]
    · simp [BitVec.getLsbD_of_ge x i (Nat.le_of_not_lt hi)]
  have hshift : ∀ (x : BitVec w) (i : Nat), (x >>> (w - b.length)).getLsbD i =
      x.getLsbD (w - b.length + i) := fun x i => BitVec.getLsbD_ushiftRight x _ i
  constructor
  · intro h
    apply BitVec.eq_of_getLsbD_eq
    intro i _
    rw [hbit, hbit]
    by_cases hk : w - b.length ≤ i
    · have hsame := congrArg (BitVec.getLsbD · (i - (w - b.length))) h
      simp only [hshift, Nat.add_sub_cancel' hk] at hsame
      rw [hsame]
    · simp [hk]
  · intro h
    apply BitVec.eq_of_getLsbD_eq
    intro i _
    have hsame := congrArg (BitVec.getLsbD · (w - b.length + i)) h
    simpa only [hbit, hshift, Nat.le_add_right, decide_true, Bool.true_and] using hsame

/-- The block of `b` in the last bits behind `leading`. -/
def behind {v : Nat} (leading : BitVec v) (b : Block w) : Block (v + w) where
  base := leading ++ b.base
  length := v + b.length
  fits := Nat.add_le_add_left b.fits v

theorem digits_eq_iff {m x y x' y' : Nat} (hy : y < m) (hy' : y' < m) :
    m * x + y = m * x' + y' ↔ x = x' ∧ y = y' := by
  constructor
  · intro h
    have hpos : 0 < m := Nat.zero_lt_of_lt hy
    have hx : x = x' := by
      have hdiv := congrArg (· / m) h
      simpa [Nat.mul_add_div hpos, Nat.div_eq_of_lt hy, Nat.div_eq_of_lt hy'] using hdiv
    subst hx
    exact ⟨rfl, Nat.add_left_cancel h⟩
  · rintro ⟨rfl, rfl⟩
    rfl

theorem behind_contains {v : Nat} {leading : BitVec v} {b : Block w} {a : BitVec (v + w)} :
    (b.behind leading).Contains a ↔ a.extractLsb' w v = leading ∧ b.Contains (a.setWidth w) := by
  have hsize : (b.behind leading).size = b.size := by
    simp [size, behind, Nat.add_sub_add_left]
  have hwhole : 2 ^ w = b.size * 2 ^ b.length := by
    rw [size, ← Nat.pow_add, Nat.sub_add_cancel b.fits]
  have hsplit : ∀ (hi lo : Nat), (2 ^ w * hi + lo) / b.size =
      2 ^ b.length * hi + lo / b.size := by
    intro hi lo
    rw [hwhole, Nat.mul_assoc, Nat.mul_add_div b.size_pos]
  have hbound : ∀ (lo : BitVec w), lo.toNat / b.size < 2 ^ b.length := by
    intro lo
    rw [Nat.div_lt_iff_lt_mul b.size_pos, Nat.mul_comm, ← hwhole]
    exact lo.isLt
  have hparts : a.toNat = 2 ^ w * (a.extractLsb' w v).toNat + (a.setWidth w).toNat := by
    rw [BitVec.extractLsb'_toNat, BitVec.toNat_setWidth, Nat.shiftRight_eq_div_pow,
      Nat.mod_eq_of_lt, Nat.div_add_mod]
    rw [Nat.div_lt_iff_lt_mul (Nat.two_pow_pos w), ← Nat.pow_add]
    exact a.isLt
  have hbase : (b.behind leading).base.toNat = 2 ^ w * leading.toNat + b.base.toNat := by
    rw [behind, BitVec.toNat_append, Nat.shiftLeft_eq, Nat.mul_comm,
      Nat.two_pow_add_eq_or_of_lt b.base.isLt]
  rw [contains_iff_div, hsize, hparts, hbase, hsplit, hsplit,
    digits_eq_iff (hbound _) (hbound _), ← contains_iff_div, ← BitVec.toNat_eq]

def InAny (blocks : List (Block w)) (a : BitVec w) : Prop := ∃ b ∈ blocks, b.Contains a

instance (blocks : List (Block w)) (a : BitVec w) : Decidable (InAny blocks a) :=
  inferInstanceAs (Decidable (∃ b ∈ blocks, b.Contains a))

variable {blocks : List (Block w)} {a : BitVec w}

@[simp] theorem inAny_nil : ¬ InAny ([] : List (Block w)) a := by
  rintro ⟨b, hb, -⟩
  exact absurd hb List.not_mem_nil

@[simp] theorem inAny_cons {b : Block w} :
    InAny (b :: blocks) a ↔ b.Contains a ∨ InAny blocks a := by
  simp only [InAny, List.mem_cons, or_and_right, exists_or, exists_eq_left]

@[simp] theorem inAny_append {others : List (Block w)} :
    InAny (blocks ++ others) a ↔ InAny blocks a ∨ InAny others a := by
  simp only [InAny, List.mem_append, or_and_right, exists_or]

theorem inAny_behind {v : Nat} {leading : BitVec v} {a : BitVec (v + w)} :
    InAny (blocks.map (behind leading)) a ↔
      a.extractLsb' w v = leading ∧ InAny blocks (a.setWidth w) := by
  simp only [InAny, List.mem_map, exists_exists_and_eq_and, behind_contains]
  constructor
  · rintro ⟨b, hb, hlead, hlow⟩
    exact ⟨hlead, b, hb, hlow⟩
  · rintro ⟨hlead, b, hb, hlow⟩
    exact ⟨b, hb, hlead, hlow⟩

end Block

end Net
