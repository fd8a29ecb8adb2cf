import Stophammer.Relational.Write

/-!
# Rows in an order

What `orderBy` gives for a comparison that is transitive: sorted rows, and the same rows
whatever the order of the input was.
-/

namespace Relational

variable {α : Type} {cmp : α → α → Ordering}

section

variable [Std.TransCmp cmp]

theorem orderBy_pairwise (rows : List α) :
    (orderBy cmp rows).Pairwise fun a b => (cmp a b).isLE := by
  have htotal : Std.Total fun a b : α => (cmp a b).isLE = true := ⟨fun a b => by
    rw [@Std.OrientedCmp.eq_swap _ cmp _ b]
    cases cmp a b <;> simp⟩
  have htrans : IsTrans α fun a b => (cmp a b).isLE = true :=
    ⟨fun _ _ _ hab hbc => Std.TransCmp.isLE_trans hab hbc⟩
  exact List.pairwise_insertionSort _ _

omit [Std.TransCmp cmp] in
theorem mem_orderBy {rows : List α} {a : α} : a ∈ orderBy cmp rows ↔ a ∈ rows :=
  (orderBy_perm cmp rows).mem_iff

theorem orderBy_eq_of_perm {rows rows' : List α} (h : rows.Perm rows')
    (hcmp : ∀ a ∈ rows, ∀ b ∈ rows, cmp a b = .eq → a = b) :
    orderBy cmp rows = orderBy cmp rows' := by
  apply List.Perm.eq_of_pairwise _ (orderBy_pairwise rows) (orderBy_pairwise rows')
    (((orderBy_perm cmp rows).trans h).trans (orderBy_perm cmp rows').symm)
  intro a b ha hb hab hba
  rw [@Std.OrientedCmp.eq_swap _ cmp] at hba
  apply hcmp a (mem_orderBy.mp ha) b (h.mem_iff.mpr (mem_orderBy.mp hb))
  cases hc : cmp a b <;> simp_all

theorem orderBy_strict {rows : List α} (hnodup : rows.Nodup)
    (hcmp : ∀ a ∈ rows, ∀ b ∈ rows, cmp a b = .eq → a = b) :
    (orderBy cmp rows).Pairwise fun a b => cmp a b = .lt := by
  have hsorted : (orderBy cmp rows).Pairwise fun a b => (cmp a b).isLE := orderBy_pairwise rows
  have hdistinct := ((orderBy_perm cmp rows).nodup_iff).mpr hnodup
  have hboth := List.pairwise_and_iff.mpr ⟨hsorted, hdistinct⟩
  refine List.Pairwise.imp_of_mem (fun {a b} ha hb h => ?_) hboth
  cases hc : cmp a b with
  | lt => rfl
  | eq => exact absurd (hcmp a (mem_orderBy.mp ha) b (mem_orderBy.mp hb) hc) h.2
  | gt => simp [hc] at h

omit [Std.TransCmp cmp] in
theorem orderBy_map {β : Type} {cmp' : β → β → Ordering} {f : α → β}
    (hf : ∀ a b, cmp' (f a) (f b) = cmp a b) (rows : List α) :
    orderBy cmp' (rows.map f) = (orderBy cmp rows).map f := by
  refine (List.map_insertionSort (fun a b => (cmp a b).isLE) (fun a b => (cmp' a b).isLE) f rows
    fun a _ b _ => ?_).symm
  rw [hf]

omit [Std.TransCmp cmp] in
theorem orderBy_of_sorted {rows : List α} (h : rows.Pairwise fun a b => (cmp a b).isLE) :
    orderBy cmp rows = rows := h.insertionSort_eq

theorem orderBy_head {rows : List α} (h : rows.Pairwise fun a b => (cmp b a).isLE)
    (hcmp : ∀ a ∈ rows, ∀ b ∈ rows, cmp a b = .eq → a = b) :
    (orderBy cmp rows).head? = rows.getLast? := by
  have hsorted : orderBy cmp rows.reverse = rows.reverse :=
    (List.pairwise_reverse.mpr h).insertionSort_eq
  rw [orderBy_eq_of_perm (List.reverse_perm rows).symm hcmp, hsorted, List.head?_reverse]

omit [Std.TransCmp cmp] in
theorem filter_orderedInsert {r : α → α → Prop} [DecidableRel r] [IsTrans α r] (a : α)
    {rows : List α} (hsorted : rows.Pairwise r) (p : α → Bool) :
    (rows.orderedInsert r a).filter p =
      if p a then (rows.filter p).orderedInsert r a else rows.filter p := by
  induction rows with
  | nil => cases hp : p a <;> simp [hp]
  | cons b rows ih =>
    obtain ⟨hb, hsorted⟩ := List.pairwise_cons.mp hsorted
    by_cases hab : r a b
    · -- the row goes before all others
      rw [List.orderedInsert_cons_of_le r rows hab]
      have hall : ∀ c ∈ (b :: rows).filter p, r a c := by
        intro c hc
        rcases List.mem_cons.mp (List.mem_of_mem_filter hc) with rfl | hc
        · exact hab
        · exact Trans.trans hab (hb c hc)
      cases hp : p a with
      | false => rw [List.filter_cons_of_neg (by simp [hp]), if_neg (by simp)]
      | true =>
        rw [List.filter_cons_of_pos hp, if_pos rfl]
        cases hrows : (b :: rows).filter p with
        | nil => rfl
        | cons c rest =>
          rw [List.orderedInsert_cons_of_le r rest (hall c (by simp [hrows]))]
    · rw [List.orderedInsert_of_not_le r rows hab]
      cases hp : p b with
      | false =>
        rw [List.filter_cons_of_neg (by simp [hp]), List.filter_cons_of_neg (by simp [hp])]
        exact ih hsorted
      | true =>
        rw [List.filter_cons_of_pos hp, List.filter_cons_of_pos hp, ih hsorted,
          List.orderedInsert_of_not_le r _ hab]
        split <;> rfl

theorem orderBy_filter (rows : List α) (p : α → Bool) :
    orderBy cmp (rows.filter p) = (orderBy cmp rows).filter p := by
  have htrans : IsTrans α fun a b => (cmp a b).isLE = true :=
    ⟨fun _ _ _ hab hbc => Std.TransCmp.isLE_trans hab hbc⟩
  induction rows with
  | nil => rfl
  | cons a rows ih =>
    have hsorted : (orderBy cmp rows).Pairwise fun a b => (cmp a b).isLE := orderBy_pairwise rows
    have hinsert := filter_orderedInsert a hsorted p
    cases hp : p a with
    | true =>
      rw [hp, if_pos rfl, ← ih] at hinsert
      rw [List.filter_cons_of_pos hp]
      exact hinsert.symm
    | false =>
      rw [hp, if_neg (by simp), ← ih] at hinsert
      rw [List.filter_cons_of_neg (by simp [hp])]
      exact hinsert.symm

theorem filter_lt_behind {rows front back : List α} {r : α} {p : α → Bool}
    (hsorted : rows.Pairwise fun a b => (cmp a b).isLE)
    (hp : ∀ a b, cmp a b = .lt → p a = true → p b = true)
    (hpart : rows.filter p = front ++ r :: back) :
    rows.filter (fun a => cmp r a == .lt) = back.filter fun a => cmp r a == .lt := by
  have hr : p r = true := by
    have hmem : r ∈ rows.filter p := by simp [hpart]
    exact (List.mem_filter.mp hmem).2
  have hsame : rows.filter (fun a => cmp r a == .lt) =
      (rows.filter p).filter fun a => cmp r a == .lt := by
    rw [List.filter_filter]
    apply List.filter_congr
    intro a _
    cases hcmp : cmp r a <;> simp [hp r a, hcmp, hr]
  have hsorted' := hpart ▸ hsorted.filter p
  obtain ⟨-, -, hfront⟩ := List.pairwise_append.mp hsorted'
  rw [hsame, hpart, List.filter_append, List.filter_eq_nil_iff.mpr, List.nil_append,
    List.filter_cons_of_neg]
  · simp [@Std.ReflCmp.compare_self _ cmp]
  · intro a ha hless
    have hle := hfront a ha r List.mem_cons_self
    rw [@Std.OrientedCmp.eq_swap _ cmp, beq_iff_eq.mp hless] at hle
    cases hle

end

theorem filter_behind {R : α → α → Prop} [DecidableRel R] [IsTrans α R] (hirrefl : ∀ a, ¬ R a a)
    {front back : List α} {r : α} (hsorted : (front ++ r :: back).Pairwise R) :
    (front ++ r :: back).filter (fun a => R r a) = back := by
  obtain ⟨-, hback, hfront⟩ := List.pairwise_append.mp hsorted
  rw [List.filter_append, List.filter_eq_nil_iff.mpr, List.nil_append, List.filter_cons_of_neg,
    List.filter_eq_self.mpr]
  · exact fun a ha => by simpa using (List.pairwise_cons.mp hback).1 a ha
  · simpa using hirrefl r
  · intro a ha hafter
    have hafter : R r a := by simpa using hafter
    exact hirrefl a (Trans.trans (hfront a ha r List.mem_cons_self) hafter)

theorem filter_after {R : α → α → Prop} [DecidableRel R] [IsTrans α R] (hirrefl : ∀ a, ¬ R a a)
    {rows front back : List α} {r : α} {p : α → Bool} (hsorted : rows.Pairwise R)
    (hp : ∀ a b, R a b → p a = true → p b = true) (hpart : rows.filter p = front ++ r :: back) :
    rows.filter (fun a => R r a) = back := by
  have hr : p r = true := by
    have hmem : r ∈ rows.filter p := by simp [hpart]
    exact (List.mem_filter.mp hmem).2
  have hsame : rows.filter (fun a => R r a) = (rows.filter p).filter fun a => R r a := by
    rw [List.filter_filter]
    apply List.filter_congr
    intro a _
    by_cases hafter : R r a
    · simp [hafter, hp r a hafter hr]
    · simp [hafter]
  rw [hsame, hpart]
  exact filter_behind hirrefl (hpart ▸ hsorted.filter p)

section Rank

variable {r : α → α → Prop} [DecidableRel r]

theorem length_takeWhile_countP {p : α → Bool} {rows : List α}
    (hfront : rows.Pairwise fun a b => p b = true → p a = true) :
    (rows.takeWhile p).length = rows.countP p := by
  induction rows with
  | nil => rfl
  | cons a rows ih =>
    obtain ⟨ha, hrows⟩ := List.pairwise_cons.mp hfront
    by_cases hp : p a = true
    · rw [List.takeWhile_cons_of_pos hp, List.countP_cons_of_pos hp, List.length_cons, ih hrows]
    · have hzero : rows.countP p = 0 :=
        List.countP_eq_zero.mpr fun b hb hpb => hp (ha b hb hpb)
      rw [List.takeWhile_cons_of_neg hp, List.countP_cons_of_neg hp, hzero, List.length_nil]

theorem orderedInsert_front {a x : α} (h : r a x) (before after : List α) :
    ∃ before', (before ++ x :: after).orderedInsert r a = before' ++ x :: after ∧
      before'.length = before.length + 1 := by
  induction before with
  | nil => exact ⟨[a], List.orderedInsert_cons_of_le r after h, rfl⟩
  | cons b before ih =>
    by_cases hab : r a b
    · exact ⟨a :: b :: before, List.orderedInsert_cons_of_le r _ hab, rfl⟩
    · obtain ⟨before', hinsert, hlength⟩ := ih
      refine ⟨b :: before', ?_, by rw [List.length_cons, List.length_cons, hlength]⟩
      rw [List.cons_append, List.orderedInsert_of_not_le r _ hab, hinsert, List.cons_append]

theorem orderedInsert_behind {a x : α} (h : ¬r a x) {before : List α}
    (hbefore : ∀ b ∈ before, ¬r a b) (after : List α) :
    (before ++ x :: after).orderedInsert r a = before ++ x :: after.orderedInsert r a := by
  induction before with
  | nil => exact List.orderedInsert_of_not_le r after h
  | cons b before ih =>
    rw [List.cons_append, List.orderedInsert_of_not_le r _ (hbefore b List.mem_cons_self),
      ih fun c hc => hbefore c (List.mem_cons_of_mem _ hc), List.cons_append]

theorem insertionSort_split [IsTrans α r] [Std.Total r] (front back : List α) (x : α) :
    ∃ before after, (front ++ x :: back).insertionSort r = before ++ x :: after ∧
      before.length = front.countP (fun a => r a x) + back.countP fun b => ¬r x b := by
  induction front with
  | nil =>
    refine ⟨_, _, List.insertionSort_cons_eq_take_drop r x back, ?_⟩
    have hfront : (back.insertionSort r).Pairwise
        fun a b => (decide ¬r x b) = true → (decide ¬r x a) = true := by
      refine (List.pairwise_insertionSort r back).imp fun {a b} hab hb => ?_
      rw [decide_eq_true_eq] at hb ⊢
      exact fun ha => hb (Trans.trans ha hab)
    rw [length_takeWhile_countP hfront, (List.perm_insertionSort r back).countP_eq,
      List.countP_nil, Nat.zero_add]
  | cons a front ih =>
    obtain ⟨before, after, hsort, hlength⟩ := ih
    rw [List.cons_append, List.insertionSort_cons, hsort]
    by_cases hax : r a x
    · obtain ⟨before', hinsert, hlength'⟩ := orderedInsert_front hax before after
      refine ⟨before', after, hinsert, ?_⟩
      rw [hlength', hlength, List.countP_cons_of_pos (by simpa using hax)]
      omega
    · have hsorted : (before ++ x :: after).Pairwise r := by
        rw [← hsort]
        exact List.pairwise_insertionSort r _
      obtain ⟨-, -, hall⟩ := List.pairwise_append.mp hsorted
      have hbefore : ∀ b ∈ before, ¬r a b := fun b hb hab =>
        hax (Trans.trans hab (hall b hb x List.mem_cons_self))
      refine ⟨before, after.orderedInsert r a, orderedInsert_behind hax hbefore after, ?_⟩
      rw [hlength, List.countP_cons_of_neg (by simpa using hax)]

end Rank

end Relational
