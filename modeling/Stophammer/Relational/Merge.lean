import Stophammer.Relational.OrderBy

/-!
# The first rows of two orders

The first rows of two ordered lists together are found among the first rows of each.
-/

namespace Relational

variable {α : Type}

theorem take_cons_take (n : Nat) (a : α) (rows : List α) :
    (a :: rows.take n).take n = (a :: rows).take n := by
  rw [← List.take_succ_cons, List.take_take, Nat.min_eq_left (Nat.le_succ n)]

theorem take_merge (le : α → α → Bool) (n : Nat) (xs ys : List α) :
    (List.merge xs ys le).take n = (List.merge (xs.take n) (ys.take n) le).take n := by
  induction n generalizing xs ys with
  | zero => rw [List.take_zero, List.take_zero]
  | succ n ih =>
    cases xs with
    | nil => rw [List.take_nil, List.nil_merge, List.nil_merge, List.take_take, Nat.min_self]
    | cons a xs =>
      cases ys with
      | nil =>
        rw [List.take_nil, List.merge_right, List.merge_right, List.take_take, Nat.min_self]
      | cons b ys =>
        rw [List.take_succ_cons, List.take_succ_cons, List.cons_merge_cons, List.cons_merge_cons]
        split
        · rw [List.take_succ_cons, List.take_succ_cons, ih xs (b :: ys),
            ih (xs.take n) (b :: ys.take n), List.take_take, Nat.min_self, take_cons_take]
        · rw [List.take_succ_cons, List.take_succ_cons, ih (a :: xs) ys,
            ih (a :: xs.take n) (ys.take n), List.take_take, Nat.min_self, take_cons_take]

variable {cmp : α → α → Ordering} [Std.TransCmp cmp]

theorem orderBy_append {xs ys : List α} (hxs : xs.Pairwise fun a b => (cmp a b).isLE)
    (hys : ys.Pairwise fun a b => (cmp a b).isLE)
    (hcmp : ∀ a ∈ xs ++ ys, ∀ b ∈ xs ++ ys, cmp a b = .eq → a = b) :
    orderBy cmp (xs ++ ys) = List.merge xs ys fun a b => (cmp a b).isLE := by
  have htotal : Std.Total fun a b : α => (cmp a b).isLE = true := ⟨fun a b => by
    rw [@Std.OrientedCmp.eq_swap _ cmp _ b]
    cases cmp a b <;> simp⟩
  have htrans : IsTrans α fun a b => (cmp a b).isLE = true :=
    ⟨fun _ _ _ hab hbc => Std.TransCmp.isLE_trans hab hbc⟩
  have hsorted : (List.merge xs ys fun a b => (cmp a b).isLE).Pairwise
      fun a b => (cmp a b).isLE := by
    simpa using List.Pairwise.merge hxs hys
  rw [orderBy_eq_of_perm (List.merge_perm_append fun a b => (cmp a b).isLE).symm hcmp]
  exact hsorted.insertionSort_eq

theorem take_orderBy_append (n : Nat) {xs ys : List α}
    (hcmp : ∀ a ∈ xs ++ ys, ∀ b ∈ xs ++ ys, cmp a b = .eq → a = b) :
    (orderBy cmp ((orderBy cmp xs).take n ++ (orderBy cmp ys).take n)).take n =
      (orderBy cmp (xs ++ ys)).take n := by
  have hperm : (xs ++ ys).Perm (orderBy cmp xs ++ orderBy cmp ys) :=
    ((orderBy_perm cmp xs).append (orderBy_perm cmp ys)).symm
  have hboth : ∀ a ∈ orderBy cmp xs ++ orderBy cmp ys, ∀ b ∈ orderBy cmp xs ++ orderBy cmp ys,
      cmp a b = .eq → a = b := fun a ha b hb =>
    hcmp a (hperm.mem_iff.mpr ha) b (hperm.mem_iff.mpr hb)
  have hmem : ∀ {a}, a ∈ (orderBy cmp xs).take n ++ (orderBy cmp ys).take n →
      a ∈ orderBy cmp xs ++ orderBy cmp ys := by
    intro a ha
    rcases List.mem_append.mp ha with ha | ha
    · exact List.mem_append_left _ (List.mem_of_mem_take ha)
    · exact List.mem_append_right _ (List.mem_of_mem_take ha)
  rw [orderBy_eq_of_perm hperm hcmp, orderBy_append (orderBy_pairwise xs) (orderBy_pairwise ys)
    hboth, take_merge]
  rw [orderBy_append ((orderBy_pairwise xs).sublist (List.take_sublist n _))
    ((orderBy_pairwise ys).sublist (List.take_sublist n _))
    (fun a ha b hb => hboth a (hmem ha) b (hmem hb))]

end Relational
