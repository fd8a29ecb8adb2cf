import Stophammer.Paging
import Stophammer.Relational.OrderBy
import Mathlib.Order.Defs.LinearOrder

/-!
# Pages of a list that changes

A client follows the cursors while the rows change between its requests.  When a cursor stands for
the place of a row, no place comes twice, and a place that has a row at each request comes once.
-/

namespace Paging

variable {α κ σ π : Type}

/-- A client that asks from `c` finds a new state at each request and comes to an end with these
rows. -/
inductive WalkOver (request : σ → Option κ → Page α κ) : Option κ → List σ → List α → Prop
  | last {c : Option κ} {s : σ} : (request s c).next = none →
      WalkOver request c [s] (request s c).items
  | more {c : Option κ} {c' : κ} {s : σ} {states : List σ} {rows : List α} :
      (request s c).next = some c' → WalkOver request (some c') states rows →
      WalkOver request c (s :: states) ((request s c).items ++ rows)

section

variable [LinearOrder π] {rows : σ → List α} {place : α → π} {cursor : α → κ}
  {after : σ → Option κ → List α} {limit : Nat}

/-- The rows behind a place, all of them when there is none. -/
def behind (rows : σ → List α) (place : α → π) (s : σ) (low : Option π) : List α :=
  (rows s).filter fun r => low.all fun p => decide (p < place r)

/-- The rows of each state are in the order of their places, and the cursor of a row of one state
stands for the rows behind its place in each other one. -/
structure Keyset (rows : σ → List α) (place : α → π) (cursor : α → κ)
    (after : σ → Option κ → List α) : Prop where
  sorted : ∀ s, (rows s).Pairwise fun a b => place a < place b
  start : ∀ s, after s none = rows s
  cursor : ∀ s t, ∀ r ∈ rows s, after t (some (cursor r)) = behind rows place t (some (place r))

theorem mem_behind {s : σ} {low : Option π} {r : α} :
    r ∈ behind rows place s low ↔ r ∈ rows s ∧ ∀ p ∈ low, p < place r := by
  rw [behind, List.mem_filter, Option.all_eq_true]
  simp only [decide_eq_true_eq, Option.mem_def]

theorem behind_none (s : σ) : behind rows place s none = rows s :=
  List.filter_eq_self.mpr fun _ _ => rfl

theorem Keyset.walk (hkeys : Keyset rows place cursor after) (hlimit : 0 < limit) (s : σ) :
    Walk (fun c => pageOf limit cursor (after s c)) none (rows s) := by
  refine walk_pages hlimit (fun r back hborder => ?_) (hkeys.start s)
  obtain ⟨front, hrows, -⟩ := hborder.split
  have htrans : IsTrans α fun a b => place a < place b := ⟨fun _ _ _ hab hbc => hab.trans hbc⟩
  rw [hkeys.cursor s s r (by simp [hrows]), behind, hrows]
  exact Relational.filter_behind (fun a => lt_irrefl (place a)) (hrows ▸ hkeys.sorted s)

/-- The rows of a walk, which started behind a place. -/
structure Ahead (place : α → π) (low : Option π) (out : List α) : Prop where
  increasing : out.Pairwise fun a b => place a < place b
  behind : ∀ r ∈ out, ∀ p ∈ low, p < place r

theorem WalkOver.ahead (hkeys : Keyset rows place cursor after) (hlimit : 0 < limit)
    {c : Option κ} {states : List σ} {out : List α}
    (h : WalkOver (fun s c => pageOf limit cursor (after s c)) c states out) {low : Option π}
    (hlow : ∀ s, after s c = behind rows place s low) : Ahead place low out := by
  induction h generalizing low with
  | @last c s hlast =>
    rw [pageOf_next_none hlimit hlast, hlow s]
    exact ⟨(hkeys.sorted s).filter _, fun r hr => (mem_behind.mp hr).2⟩
  | @more c c' s states later hmore _ ih =>
    obtain ⟨front, r, back, hrows, -, -, rfl, hitems⟩ := pageOf_next_some hmore
    rw [hlow s] at hrows
    have hr : r ∈ behind rows place s low := by simp [hrows]
    have hsorted : (front ++ r :: back).Pairwise fun a b => place a < place b :=
      hrows ▸ (hkeys.sorted s).filter _
    obtain ⟨hlater, hbehind⟩ := ih fun t => hkeys.cursor s t r (mem_behind.mp hr).1
    have hfront : ∀ a ∈ front ++ [r], place a ≤ place r := by
      intro a ha
      rcases List.mem_append.mp ha with ha | ha
      · exact ((List.pairwise_append.mp hsorted).2.2 a ha r List.mem_cons_self).le
      · exact (congrArg place (List.mem_singleton.mp ha)).le
    have hpage : (front ++ [r]).Pairwise fun a b => place a < place b := by
      rw [← List.singleton_append, ← List.append_assoc] at hsorted
      exact (List.pairwise_append.mp hsorted).1
    rw [hitems]
    constructor
    · refine List.pairwise_append.mpr ⟨hpage, hlater, fun a ha b hb => ?_⟩
      exact lt_of_le_of_lt (hfront a ha) (hbehind b hb _ rfl)
    · intro a ha p hp
      have hlowr : p < place r := (mem_behind.mp hr).2 p hp
      rcases List.mem_append.mp ha with ha | ha
      · have hmem : a ∈ behind rows place s low := by
          rw [hrows, ← List.singleton_append, ← List.append_assoc]
          exact List.mem_append_left back ha
        exact (mem_behind.mp hmem).2 p hp
      · exact hlowr.trans (hbehind a ha _ rfl)

theorem WalkOver.complete (hkeys : Keyset rows place cursor after) (hlimit : 0 < limit)
    {c : Option κ} {states : List σ} {out : List α}
    (h : WalkOver (fun s c => pageOf limit cursor (after s c)) c states out) {low : Option π}
    (hlow : ∀ s, after s c = behind rows place s low) {p : π} (hp : ∀ q ∈ low, q < p)
    (hthere : ∀ s ∈ states, ∃ r ∈ rows s, place r = p) : ∃ r ∈ out, place r = p := by
  induction h generalizing low with
  | @last c s hlast =>
    obtain ⟨r, hr, rfl⟩ := hthere s (List.mem_singleton.mpr rfl)
    rw [pageOf_next_none hlimit hlast, hlow s]
    exact ⟨r, mem_behind.mpr ⟨hr, hp⟩, rfl⟩
  | @more c c' s states later hmore _ ih =>
    obtain ⟨front, r, back, hrows, -, -, rfl, hitems⟩ := pageOf_next_some hmore
    rw [hlow s] at hrows
    have hr : r ∈ behind rows place s low := by simp [hrows]
    have hsorted : (front ++ r :: back).Pairwise fun a b => place a < place b :=
      hrows ▸ (hkeys.sorted s).filter _
    obtain ⟨found, hfound, rfl⟩ := hthere s List.mem_cons_self
    have hmem : found ∈ front ++ r :: back := hrows ▸ mem_behind.mpr ⟨hfound, hp⟩
    by_cases hback : found ∈ back
    · -- the row is behind the page, so the place is behind the cursor
      have hnext : place r < place found :=
        (List.pairwise_cons.mp (List.pairwise_append.mp hsorted).2.1).1 found hback
      obtain ⟨other, hother, hplace⟩ := ih (fun t => hkeys.cursor s t r (mem_behind.mp hr).1)
        (fun q hq => (Option.some.inj hq) ▸ hnext)
        (fun t ht => hthere t (List.mem_cons_of_mem s ht))
      exact ⟨other, List.mem_append_right _ hother, hplace⟩
    · refine ⟨found, List.mem_append_left _ ?_, rfl⟩
      rw [hitems]
      rcases List.mem_append.mp hmem with hfront | hrest
      · exact List.mem_append_left _ hfront
      · rcases List.mem_cons.mp hrest with rfl | hrest
        · exact List.mem_append_right _ (List.mem_singleton.mpr rfl)
        · exact absurd hrest hback

theorem WalkOver.sound {request : σ → Option κ → Page α κ} {P : σ → α → Prop}
    (hitems : ∀ s c, ∀ r ∈ (request s c).items, P s r) {c : Option κ} {states : List σ}
    {out : List α} (h : WalkOver request c states out) : ∀ r ∈ out, ∃ s ∈ states, P s r := by
  induction h with
  | @last c s _ => exact fun r hr => ⟨s, List.mem_singleton.mpr rfl, hitems s c r hr⟩
  | @more c c' s states later _ _ ih =>
    intro r hr
    rcases List.mem_append.mp hr with hr | hr
    · exact ⟨s, List.mem_cons_self, hitems s c r hr⟩
    · obtain ⟨t, ht, hP⟩ := ih r hr
      exact ⟨t, List.mem_cons_of_mem s ht, hP⟩

end

end Paging
