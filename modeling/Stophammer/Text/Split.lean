import Mathlib.Data.List.TakeWhile

/-!
# Texts that are split and joined

A text is split at each separator from the left, and a join of parts is split into the same
parts again when no part holds the first character of the separator.
-/

namespace Text

variable {α : Type} [DecidableEq α]

/-- The parts between the separators.  `skip` is what is left of a separator that was read,
and `acc` the part so far, reversed. -/
def splitAt (sep : List α) : Nat → List α → List α → List (List α)
  | _, acc, [] => [acc.reverse]
  | skip + 1, acc, _ :: rest => splitAt sep skip acc rest
  | 0, acc, a :: rest =>
    if sep.isPrefixOf (a :: rest) then acc.reverse :: splitAt sep (sep.length - 1) [] rest
    else splitAt sep 0 (a :: acc) rest

def split (sep text : List α) : List (List α) := splitAt sep 0 [] text

/-- At most `n` parts: the last one holds the rest with its separators. -/
def splitn (a : α) : Nat → List α → List (List α)
  | 0, _ => []
  | 1, text => [text]
  | n + 2, text =>
    match text.dropWhile (· ≠ a) with
    | [] => [text]
    | _ :: rest => text.takeWhile (· ≠ a) :: splitn a (n + 1) rest

/-- The texts before and after the first `a`. -/
def cut (a : α) (text : List α) : Option (List α × List α) :=
  match text.dropWhile (· ≠ a) with
  | [] => none
  | _ :: rest => some (text.takeWhile (· ≠ a), rest)

def join (sep : List α) : List (List α) → List α
  | [] => []
  | [part] => part
  | part :: next :: parts => part ++ sep ++ join sep (next :: parts)

section Split

variable {a : α} {sep : List α}

theorem splitAt_skip (skip : List α) (acc text : List α) :
    splitAt sep skip.length acc (skip ++ text) = splitAt sep 0 acc text := by
  induction skip with
  | nil => rfl
  | cons b skip ih => exact ih

theorem splitAt_part {part : List α} (hpart : a ∉ part) (acc text : List α) :
    splitAt (a :: sep) 0 acc (part ++ text) = splitAt (a :: sep) 0 (part.reverse ++ acc) text := by
  induction part generalizing acc with
  | nil => rfl
  | cons b part ih =>
    obtain ⟨hb, hpart⟩ := List.ne_and_not_mem_of_not_mem_cons hpart
    have hno : (a :: sep).isPrefixOf (b :: (part ++ text)) = false := by
      simp [List.isPrefixOf, hb]
    rw [List.cons_append, splitAt, if_neg (by simp [hno]), ih hpart]
    simp

theorem splitAt_sep (acc text : List α) :
    splitAt (a :: sep) 0 acc (a :: sep ++ text) = acc.reverse :: splitAt (a :: sep) 0 [] text := by
  have hprefix : (a :: sep).isPrefixOf (a :: (sep ++ text)) = true := by
    simp [List.isPrefixOf_iff_prefix]
  rw [List.cons_append, splitAt, if_pos hprefix]
  exact congrArg _ (splitAt_skip sep [] text)

theorem split_join {parts : List (List α)} (hparts : ∀ part ∈ parts, a ∉ part)
    (hne : parts ≠ []) : split (a :: sep) (join (a :: sep) parts) = parts := by
  unfold split
  induction parts with
  | nil => exact absurd rfl hne
  | cons part parts ih =>
    have hpart : ∀ text, splitAt (a :: sep) 0 [] (part ++ text) =
        splitAt (a :: sep) 0 (part.reverse ++ []) text :=
      splitAt_part (hparts part (by simp)) []
    rw [List.append_nil] at hpart
    cases parts with
    | nil =>
      have hlast := hpart []
      rw [List.append_nil] at hlast
      rw [join, hlast, splitAt, List.reverse_reverse]
    | cons next parts =>
      rw [join, List.append_assoc, hpart, splitAt_sep, List.reverse_reverse,
        ih (fun p hp => hparts p (List.mem_cons_of_mem _ hp)) (by simp)]

theorem splitn_sep {part : List α} (hpart : a ∉ part) (n : Nat) (text : List α) :
    splitn a (n + 2) (part ++ a :: text) = part :: splitn a (n + 1) text := by
  have hall : ∀ b ∈ part, (decide (b ≠ a)) = true := by
    intro b hb
    simp only [ne_eq, decide_not, Bool.not_eq_true', decide_eq_false_iff_not]
    rintro rfl
    exact hpart hb
  rw [splitn, List.dropWhile_append_of_pos hall, List.takeWhile_append_of_pos hall]
  simp

theorem splitn_first {n : Nat} {text part : List α} {parts : List (List α)}
    (h : splitn a (n + 2) text = part :: parts) : a ∉ part := by
  intro hmem
  rw [splitn] at h
  split at h
  · rename_i hnone
    obtain ⟨rfl, -⟩ := List.cons.inj h
    have hall := List.dropWhile_eq_nil_iff.mp hnone a hmem
    simp at hall
  · obtain ⟨rfl, -⟩ := List.cons.inj h
    have hall := List.mem_takeWhile_imp hmem
    simp at hall

theorem cut_eq_none {text : List α} : cut a text = none ↔ a ∉ text := by
  unfold cut
  split
  · rename_i hdrop
    refine iff_of_true rfl fun hmem => ?_
    have hall := List.dropWhile_eq_nil_iff.mp hdrop a hmem
    simp at hall
  · rename_i b rest hdrop
    refine iff_of_false (by simp) fun hmem => ?_
    have hnil : text.dropWhile (· ≠ a) = [] :=
      List.dropWhile_eq_nil_iff.mpr fun c hc => decide_eq_true (by rintro rfl; exact hmem hc)
    rw [hnil] at hdrop
    cases hdrop

theorem cut_eq_some {text before after : List α} :
    cut a text = some (before, after) ↔ a ∉ before ∧ text = before ++ a :: after := by
  constructor
  · intro h
    unfold cut at h
    split at h
    · cases h
    · rename_i b rest hdrop
      obtain ⟨rfl, rfl⟩ := Prod.mk.inj (Option.some.inj h)
      refine ⟨fun hmem => by simpa using List.mem_takeWhile_imp hmem, ?_⟩
      have hb : b = a := by
        have hnot := List.head?_dropWhile_not (· ≠ a) text
        rw [hdrop] at hnot
        simpa using hnot
      have hparts := List.takeWhile_append_dropWhile (p := (· ≠ a)) (l := text)
      rwa [hdrop, hb, eq_comm] at hparts
  · rintro ⟨hbefore, rfl⟩
    have hall : ∀ b ∈ before, (decide (b ≠ a)) = true := fun b hb =>
      decide_eq_true (by rintro rfl; exact hbefore hb)
    rw [cut, List.dropWhile_append_of_pos hall, List.takeWhile_append_of_pos hall]
    simp

theorem split_noSep {text part : List α} (h : part ∈ split [a] text) :
    a ∉ part := by
  have hall : ∀ {acc : List α}, a ∉ acc → ∀ part ∈ splitAt [a] 0 acc text,
      a ∉ part := by
    clear h
    induction text with
    | nil =>
      intro acc hacc part hpart
      rw [splitAt, List.mem_singleton] at hpart
      simpa [hpart] using hacc
    | cons c text ih =>
      intro acc hacc part hpart
      rw [splitAt] at hpart
      split at hpart
      · rcases List.mem_cons.mp hpart with rfl | hpart
        · simpa using hacc
        · exact ih (by simp) part hpart
      · rename_i hno
        refine ih ?_ part hpart
        rw [List.mem_cons, not_or]
        refine ⟨?_, hacc⟩
        rintro rfl
        simp [List.isPrefixOf] at hno
  exact hall (by simp) part h

theorem splitAt_ne_nil (skip : Nat) (acc text : List α) : splitAt sep skip acc text ≠ [] := by
  fun_induction splitAt sep skip acc text with
  | case1 => simp
  | case2 _ _ _ _ ih => exact ih
  | case3 => simp
  | case4 _ _ _ _ ih => exact ih

omit [DecidableEq α] in
theorem join_cons {part : List α} {parts : List (List α)} (h : parts ≠ []) :
    join sep (part :: parts) = part ++ sep ++ join sep parts := by
  obtain ⟨next, parts, rfl⟩ := List.exists_cons_of_ne_nil h
  rfl

theorem join_splitAt (acc text : List α) :
    join [a] (splitAt [a] 0 acc text) = acc.reverse ++ text := by
  induction text generalizing acc with
  | nil => rw [splitAt, join, List.append_nil]
  | cons c text ih =>
    rw [splitAt]
    split
    · rename_i hsep
      have hc : a = c := by simpa [List.isPrefixOf] using hsep
      rw [join_cons (splitAt_ne_nil _ _ _), List.length_singleton, ih, hc]
      simp
    · rw [ih]
      simp

theorem join_split (text : List α) : join [a] (split [a] text) = text :=
  join_splitAt [] text

theorem splitn_one (text : List α) : splitn a 1 text = [text] := rfl

end Split

end Text
