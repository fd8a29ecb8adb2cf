import Mathlib.Data.List.Basic
import Mathlib.Data.Nat.ModEq

/-!
# Lists in pages

A client follows the cursors of a list from page to page.  What it gets is the whole list
when each cursor goes on at the place where its page ended.
-/

namespace Paging

/-- The rows of an answer, and the cursor for the next one. -/
structure Page (α κ : Type) where
  items : List α
  next : Option κ

variable {α κ : Type}

/-- A client that asks from `c` and follows each cursor comes to an end with these rows. -/
inductive Walk (request : Option κ → Page α κ) : Option κ → List α → Prop
  | last {c : Option κ} : (request c).next = none → Walk request c (request c).items
  | more {c : Option κ} {c' : κ} {rows : List α} : (request c).next = some c' →
      Walk request (some c') rows → Walk request c ((request c).items ++ rows)

section Walk

variable {request : Option κ → Page α κ}

theorem Walk.unique {c : Option κ} {rows rows' : List α} (h : Walk request c rows)
    (h' : Walk request c rows') : rows = rows' := by
  induction h generalizing rows' with
  | last hlast =>
    cases h' with
    | last _ => rfl
    | more hmore _ =>
      rw [hlast] at hmore
      cases hmore
  | more hmore _ ih =>
    cases h' with
    | last hlast =>
      rw [hlast] at hmore
      cases hmore
    | more hmore' hwalk =>
      rw [hmore, Option.some.injEq] at hmore'
      subst hmore'
      rw [ih hwalk]

theorem walk_of_rest {I : Option κ → Prop} {rest : Option κ → List α} {μ : Option κ → Nat}
    (hlast : ∀ c, I c → (request c).next = none → (request c).items = rest c)
    (hmore : ∀ c c', I c → (request c).next = some c' →
      (request c).items ++ rest (some c') = rest c ∧ I (some c') ∧ μ (some c') < μ c)
    {c : Option κ} (hc : I c) : Walk request c (rest c) := by
  induction hμ : μ c using Nat.strong_induction_on generalizing c with
  | _ n ih =>
    subst hμ
    cases hnext : (request c).next with
    | none =>
      rw [← hlast c hc hnext]
      exact .last hnext
    | some c' =>
      obtain ⟨hrest, hc', hless⟩ := hmore c c' hc hnext
      rw [← hrest]
      exact .more hnext (ih _ hless hc' rfl)

end Walk

/-- The page of a query that reads one row more than the page holds. -/
def pageOf (limit : Nat) (cursor : α → κ) (rows : List α) : Page α κ where
  items := rows.take limit
  next := if limit < rows.length then (rows.take limit).getLast?.map cursor else none

/-- After `r` the page is full, and the rows `back` are left. -/
structure Border (limit : Nat) (rows : List α) (r : α) (back : List α) : Prop where
  split : ∃ front, rows = front ++ r :: back ∧ limit ∣ front.length + 1
  left : back ≠ []

section Pages

variable {limit : Nat} {cursor : α → κ}

theorem pageOf_take (rows : List α) :
    pageOf limit cursor (rows.take (limit + 1)) = pageOf limit cursor rows := by
  unfold pageOf
  rw [List.take_take, Nat.min_eq_left (Nat.le_succ limit), List.length_take]
  have hiff : limit < min (limit + 1) rows.length ↔ limit < rows.length := by omega
  simp only [hiff]

theorem pageOf_next_none {rows : List α} (hlimit : 0 < limit)
    (h : (pageOf limit cursor rows).next = none) : (pageOf limit cursor rows).items = rows := by
  simp only [pageOf] at h ⊢
  split at h
  · rename_i hless
    rw [Option.map_eq_none_iff, List.getLast?_eq_none_iff, List.take_eq_nil_iff] at h
    rcases h with h | h
    · omega
    · rw [h] at hless
      simp at hless
  · exact List.take_of_length_le (by omega)

theorem pageOf_next_some {rows : List α} {c : κ}
    (h : (pageOf limit cursor rows).next = some c) :
    ∃ front r back, rows = front ++ r :: back ∧ front.length + 1 = limit ∧ back ≠ [] ∧
      cursor r = c ∧ (pageOf limit cursor rows).items = front ++ [r] := by
  simp only [pageOf] at h ⊢
  split at h
  · rename_i hless
    obtain ⟨r, hlast, hr⟩ := Option.map_eq_some_iff.mp h
    have hitems := List.dropLast_append_getLast? r hlast
    refine ⟨(rows.take limit).dropLast, r, rows.drop limit, ?_, ?_, ?_, hr, hitems.symm⟩
    · have hsplit := List.take_append_drop limit rows
      rw [← hitems] at hsplit
      simpa using hsplit.symm
    · have hlength := congrArg List.length hitems
      rw [List.length_append, List.length_singleton, List.length_take] at hlength
      omega
    · intro hnil
      have hlength := congrArg List.length hnil
      rw [List.length_drop, List.length_nil] at hlength
      omega
  · cases h

theorem walk_pages {after : Option κ → List α} {rows : List α} (hlimit : 0 < limit)
    (hborder : ∀ r back, Border limit rows r back → after (some (cursor r)) = back)
    (hstart : after none = rows) : Walk (fun c => pageOf limit cursor (after c)) none rows := by
  have hwalk : Walk (fun c => pageOf limit cursor (after c)) none (after none) := by
    refine @walk_of_rest _ _ _ (fun c => ∃ front, rows = front ++ after c ∧ limit ∣ front.length)
      after (fun c => (after c).length) ?_ ?_ none ?_
    · exact fun c _ hlast => pageOf_next_none hlimit hlast
    · rintro c c' ⟨front, hrows, hdvd⟩ hnext
      obtain ⟨middle, r, back, hafter, hlength, hback, rfl, hitems⟩ := pageOf_next_some hnext
      have hrest : after (some (cursor r)) = back := by
        apply hborder
        refine ⟨⟨front ++ middle, ?_, ?_⟩, hback⟩
        · rw [hrows, hafter, List.append_assoc]
        · rw [List.length_append, Nat.add_assoc, hlength]
          exact Nat.dvd_add hdvd (dvd_refl limit)
      refine ⟨?_, ⟨front ++ (middle ++ [r]), ?_, ?_⟩, ?_⟩
      · rw [hitems, hrest, hafter, List.append_assoc, List.singleton_append]
      · rw [hrows, hafter, hrest]
        simp
      · rw [List.length_append, List.length_append, List.length_singleton, hlength]
        exact Nat.dvd_add hdvd (dvd_refl limit)
      · rw [hrest, hafter]
        simp only [List.length_append, List.length_cons]
        omega
    · exact ⟨[], by rw [hstart, List.nil_append], dvd_zero limit⟩
  rwa [hstart] at hwalk

theorem Walk.sublist {after : Option κ → List α}
    (hafter : ∀ c front r back, after c = front ++ r :: back →
      (after (some (cursor r))).Sublist back)
    {c : Option κ} {rows : List α} (h : Walk (fun c => pageOf limit cursor (after c)) c rows) :
    rows.Sublist (after c) := by
  induction h with
  | last _ => exact List.take_sublist limit _
  | @more c _ later hmore _ ih =>
    obtain ⟨front, r, back, hrest, -, -, rfl, hitems⟩ := pageOf_next_some hmore
    rw [hitems, hrest, List.append_assoc, List.singleton_append]
    exact ((ih.trans (hafter c front r back hrest)).cons_cons r).append_left front

theorem Walk.at_border {after : Option κ → List α} {c : Option κ} {rows : List α}
    (h : Walk (fun c => pageOf limit cursor (after c)) c rows) {r : α} {back : List α}
    (hborder : Border limit rows r back) :
    Walk (fun c => pageOf limit cursor (after c)) (some (cursor r)) back := by
  obtain ⟨⟨front, hrows, hdvd⟩, hback⟩ := hborder
  have hbackLength := List.length_pos_of_ne_nil hback
  induction h generalizing front with
  | last hlast =>
    -- the last page holds at most `limit` rows
    have hlength : (front ++ r :: back).length ≤ limit := by
      rw [← hrows]
      exact List.length_take_le limit _
    rw [List.length_append, List.length_cons] at hlength
    have hle := Nat.le_of_dvd (Nat.succ_pos _) hdvd
    omega
  | @more _ _ later hmore hwalk ih =>
    obtain ⟨middle, s, tail, -, hlength, -, rfl, hitems⟩ := pageOf_next_some hmore
    rw [hitems] at hrows
    have hmiddle : (middle ++ [s]).length = limit := by
      rw [List.length_append, List.length_singleton, hlength]
    rcases Nat.lt_or_ge limit (front.length + 1) with hlater | hfirst
    · -- the border is on a later page
      have hfront : ∃ front', front = middle ++ [s] ++ front' := by
        have hprefix : (middle ++ [s]) <+: front :=
          List.prefix_of_prefix_length_le ⟨_, hrows⟩ ⟨_, rfl⟩ (by omega)
        obtain ⟨front', hfront⟩ := hprefix
        exact ⟨front', hfront.symm⟩
      obtain ⟨front', rfl⟩ := hfront
      apply ih front'
      · rw [List.append_assoc (middle ++ [s])] at hrows
        exact List.append_cancel_left hrows
      · rw [List.length_append, hmiddle, Nat.add_assoc] at hdvd
        exact (Nat.dvd_add_right (dvd_refl limit)).mp hdvd
    · -- the border is the end of this page
      have hsame : front.length + 1 = limit :=
        le_antisymm hfirst (Nat.le_of_dvd (Nat.succ_pos _) hdvd)
      obtain ⟨hpage, hrest⟩ : middle ++ [s] = front ++ [r] ∧ later = back := by
        apply List.append_inj
        · rw [hrows, List.append_assoc, List.singleton_append]
        · rw [hmiddle, List.length_append, List.length_singleton, hsame]
      obtain ⟨-, hr⟩ := List.append_inj' hpage rfl
      rw [List.singleton_inj.mp hr, hrest] at hwalk
      exact hwalk

theorem Walk.head_eq {after : Option κ → List α} {c : Option κ} {rows : List α}
    (h : Walk (fun c => pageOf limit cursor (after c)) c rows) (hlimit : 0 < limit) :
    rows.head? = (after c).head? := by
  have htake : ((after c).take limit).head? = (after c).head? := by
    rw [List.head?_take, if_neg (by omega)]
  cases h with
  | last _ => exact htake
  | more hmore _ =>
    obtain ⟨front, r, back, hafter, -, -, -, hitems⟩ := pageOf_next_some hmore
    rw [hitems, hafter]
    cases front <;> rfl

end Pages

end Paging
