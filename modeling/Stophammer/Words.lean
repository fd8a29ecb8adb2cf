import Mathlib.Data.List.DropRight
import Stophammer.Text
import Stophammer.Text.Split

/-!
# Words

The words of a text are its runs of characters with no white space.
-/

namespace Stophammer

/-- A run of characters with no white space. -/
def IsWord (w : List Char) : Prop := w ≠ [] ∧ ∀ c ∈ w, isWhitespace c = false

theorem splitWords_words {acc cs : List Char} (hacc : ∀ c ∈ acc, isWhitespace c = false) :
    ∀ w ∈ splitWords acc cs, IsWord w := by
  have hrun : ∀ {acc : List Char}, (∀ c ∈ acc, isWhitespace c = false) → acc ≠ [] →
      IsWord acc.reverse := fun hacc hne =>
    ⟨by simpa using hne, fun c hc => hacc c (List.mem_reverse.mp hc)⟩
  induction cs generalizing acc with
  | nil =>
    intro w hw
    unfold splitWords at hw
    split at hw
    · cases hw
    · rename_i hne
      rw [List.mem_singleton.mp hw]
      exact hrun hacc hne
  | cons c cs ih =>
    intro w hw
    unfold splitWords at hw
    split at hw
    · split at hw
      · exact ih (by simp) w hw
      · rename_i hne
        rcases List.mem_cons.mp hw with rfl | hw
        · exact hrun hacc hne
        · exact ih (by simp) w hw
    · rename_i hc
      refine ih (fun b hb => ?_) w hw
      rcases List.mem_cons.mp hb with rfl | hb
      · simpa using hc
      · exact hacc b hb

theorem mem_splitWords {acc cs w : List Char} {c : Char} (hw : w ∈ splitWords acc cs)
    (hc : c ∈ w) : c ∈ acc ∨ c ∈ cs := by
  induction cs generalizing acc with
  | nil =>
    unfold splitWords at hw
    split at hw
    · cases hw
    · rw [List.mem_singleton.mp hw] at hc
      exact .inl (List.mem_reverse.mp hc)
  | cons b cs ih =>
    unfold splitWords at hw
    split at hw
    · split at hw
      · rcases ih hw with h | h
        · cases h
        · exact .inr (List.mem_cons_of_mem _ h)
      · rcases List.mem_cons.mp hw with rfl | hw
        · exact .inl (List.mem_reverse.mp hc)
        · rcases ih hw with h | h
          · cases h
          · exact .inr (List.mem_cons_of_mem _ h)
    · rcases ih hw with h | h
      · rcases List.mem_cons.mp h with rfl | h
        · exact .inr List.mem_cons_self
        · exact .inl h
      · exact .inr (List.mem_cons_of_mem _ h)

theorem splitWords_word {w : List Char} (hw : ∀ c ∈ w, isWhitespace c = false)
    (acc cs : List Char) : splitWords acc (w ++ cs) = splitWords (w.reverse ++ acc) cs := by
  induction w generalizing acc with
  | nil => rfl
  | cons c w ih =>
    rw [List.cons_append, splitWords, if_neg (by simp [hw c (by simp)]),
      ih (fun b hb => hw b (List.mem_cons_of_mem _ hb))]
    simp

theorem splitWords_join {words : List (List Char)} (hwords : ∀ w ∈ words, IsWord w) :
    splitWords [] (Text.join [' '] words) = words := by
  induction words with
  | nil => rfl
  | cons w words ih =>
    obtain ⟨hne, hw⟩ := hwords w (by simp)
    have hfirst := splitWords_word hw []
    rw [List.append_nil] at hfirst
    cases words with
    | nil =>
      have hlast := hfirst []
      rw [List.append_nil] at hlast
      rw [Text.join, hlast, splitWords, if_neg (by simpa using hne), List.reverse_reverse]
    | cons next words =>
      rw [Text.join, List.append_assoc, hfirst, List.singleton_append, splitWords,
        if_pos (by decide), if_neg (by simpa using hne), List.reverse_reverse,
        ih fun v hv => hwords v (List.mem_cons_of_mem _ hv)]

theorem splitWords_space (cs : List Char) : splitWords [] (' ' :: cs) = splitWords [] cs := by
  rw [splitWords, if_pos (by decide), if_pos rfl]

theorem dropWhile_trimChars (cs : List Char) :
    (trimChars cs).dropWhile isWhitespace = trimChars cs := by
  have hprefix : trimChars cs <+: cs.dropWhile isWhitespace :=
    List.rdropWhile_prefix isWhitespace (cs.dropWhile isWhitespace)
  rcases hhead : trimChars cs with _ | ⟨c, rest⟩
  · rfl
  · obtain ⟨after, happend⟩ := hprefix
    rw [hhead, List.cons_append] at happend
    have hc : isWhitespace c ≠ true := by
      have hfirst := List.head?_dropWhile_not isWhitespace cs
      rw [← happend] at hfirst
      simpa using hfirst
    rw [List.dropWhile_cons_of_neg hc]

theorem trim_trim (s : String) : trim (trim s) = trim s := by
  have hchars : trimChars (trimChars s.toList) = trimChars s.toList := by
    have hleft := dropWhile_trimChars s.toList
    have hright : (trimChars s.toList).rdropWhile isWhitespace = trimChars s.toList :=
      List.rdropWhile_idempotent isWhitespace (s.toList.dropWhile isWhitespace)
    change ((trimChars s.toList).dropWhile isWhitespace).rdropWhile isWhitespace = _
    rw [hleft, hright]
  rw [trim, trim, String.toList_ofList, hchars]

theorem toNat_toAsciiLower (c : Char) :
    (toAsciiLower c).toNat = if 65 ≤ c.toNat ∧ c.toNat ≤ 90 then c.toNat + 32 else c.toNat := by
  have hiff : ('A' ≤ c ∧ c ≤ 'Z') ↔ 65 ≤ c.toNat ∧ c.toNat ≤ 90 := Iff.rfl
  unfold toAsciiLower
  by_cases h : 'A' ≤ c ∧ c ≤ 'Z'
  · have hrange := hiff.mp h
    have hvalid : (c.toNat + 32).isValidChar := by
      left
      omega
    rw [if_pos h, if_pos hrange, Char.ofNat, dif_pos hvalid]
    rfl
  · rw [if_neg h, if_neg fun hrange => h (hiff.mpr hrange)]

theorem isWhitespace_toAsciiLower (c : Char) : isWhitespace (toAsciiLower c) = isWhitespace c := by
  unfold isWhitespace
  rw [toNat_toAsciiLower]
  split
  · rw [Bool.eq_iff_iff]
    simp only [Bool.or_eq_true, Bool.and_eq_true, decide_eq_true_eq, beq_iff_eq]
    omega
  · rfl

theorem toAsciiLower_idem (c : Char) : toAsciiLower (toAsciiLower c) = toAsciiLower c := by
  apply Char.toNat_inj.mp
  rw [toNat_toAsciiLower (toAsciiLower c), if_neg]
  rw [toNat_toAsciiLower]
  split <;> omega

theorem trim_toAsciiLowercase (s : String) :
    trim (toAsciiLowercase s) = toAsciiLowercase (trim s) := by
  have hspace : isWhitespace ∘ toAsciiLower = isWhitespace := funext isWhitespace_toAsciiLower
  have hchars : trimChars (s.toList.map toAsciiLower) = (trimChars s.toList).map toAsciiLower := by
    rw [trimChars, trimChars, List.dropWhile_map, hspace, ← List.map_reverse, List.dropWhile_map,
      hspace, List.map_reverse]
  rw [trim, trim, toAsciiLowercase, toAsciiLowercase, String.toList_ofList, String.toList_ofList,
    hchars]

theorem toAsciiLowercase_idem (s : String) :
    toAsciiLowercase (toAsciiLowercase s) = toAsciiLowercase s := by
  rw [toAsciiLowercase, toAsciiLowercase, String.toList_ofList, List.map_map]
  rw [show toAsciiLower ∘ toAsciiLower = toAsciiLower from funext toAsciiLower_idem]

theorem trimChars_noSpace {cs : List Char} (h : ∀ c ∈ cs, isWhitespace c = false) :
    trimChars cs = cs := by
  have hkeep : ∀ {l : List Char}, (∀ c ∈ l, isWhitespace c = false) →
      l.dropWhile isWhitespace = l := by
    intro l hl
    cases l with
    | nil => rfl
    | cons c l => rw [List.dropWhile_cons_of_neg (by simp [hl c List.mem_cons_self])]
  rw [trimChars, hkeep h, hkeep fun c hc => h c (List.mem_reverse.mp hc), List.reverse_reverse]

theorem joinWith_toList (sep : String) (words : List String) :
    (joinWith sep words).toList = Text.join sep.toList (words.map String.toList) := by
  induction words with
  | nil => rfl
  | cons w words ih =>
    cases words with
    | nil => rfl
    | cons next words =>
      change (w ++ sep ++ joinWith sep (next :: words)).toList = _
      rw [String.toList_append, String.toList_append, ih]
      rfl

theorem map_join (f : Char → Char) (sep : List Char) (parts : List (List Char)) :
    (Text.join sep parts).map f = Text.join (sep.map f) (parts.map (List.map f)) := by
  induction parts with
  | nil => rfl
  | cons part parts ih =>
    cases parts with
    | nil => rfl
    | cons next parts =>
      rw [Text.join, List.map_append, List.map_append, ih]
      rfl

theorem mem_join {sep : List Char} {parts : List (List Char)} {c : Char}
    (h : c ∈ Text.join sep parts) : c ∈ sep ∨ ∃ part ∈ parts, c ∈ part := by
  induction parts with
  | nil => cases h
  | cons part parts ih =>
    cases parts with
    | nil => exact .inr ⟨part, by simp, h⟩
    | cons next parts =>
      rw [Text.join, List.mem_append, List.mem_append] at h
      rcases h with (h | h) | h
      · exact .inr ⟨part, by simp, h⟩
      · exact .inl h
      · rcases ih h with h | ⟨other, hother, h⟩
        · exact .inl h
        · exact .inr ⟨other, List.mem_cons_of_mem _ hother, h⟩

theorem toList_joinWith (sep : String) (parts : List (List Char)) :
    (joinWith sep (parts.map String.ofList)).toList = Text.join sep.toList parts := by
  rw [joinWith_toList, List.map_map]
  simp [Function.comp_def]

/-- `words` are the runs of `text`, in order, with white space between them. -/
inductive WordsOf : List Char → List (List Char) → Prop
  | blank {gap : List Char} (hgap : ∀ c ∈ gap, isWhitespace c = true) : WordsOf gap []
  | word {gap w rest : List Char} {words : List (List Char)}
      (hgap : ∀ c ∈ gap, isWhitespace c = true) (hw : IsWord w)
      (hend : ∀ c ∈ rest.head?, isWhitespace c = true) (hrest : WordsOf rest words) :
      WordsOf (gap ++ w ++ rest) (w :: words)

theorem splitWords_gap {gap : List Char} (hgap : ∀ c ∈ gap, isWhitespace c = true)
    (cs : List Char) : splitWords [] (gap ++ cs) = splitWords [] cs := by
  induction gap with
  | nil => rfl
  | cons c gap ih =>
    rw [List.cons_append, splitWords, if_pos (hgap c List.mem_cons_self), if_pos rfl]
    exact ih fun b hb => hgap b (List.mem_cons_of_mem _ hb)

theorem splitWords_run {acc rest : List Char} (hne : acc ≠ [])
    (hend : ∀ c ∈ rest.head?, isWhitespace c = true) :
    splitWords acc rest = acc.reverse :: splitWords [] rest := by
  cases rest with
  | nil => rw [splitWords, if_neg hne, splitWords, if_pos rfl]
  | cons c rest =>
    have hc : isWhitespace c = true := hend c rfl
    rw [splitWords, if_pos hc, if_neg hne, splitWords, if_pos hc, if_pos rfl]

theorem WordsOf.splitWords_eq {cs : List Char} {words : List (List Char)}
    (h : WordsOf cs words) : splitWords [] cs = words := by
  induction h with
  | @blank gap hgap =>
    have hblank := splitWords_gap hgap []
    rwa [List.append_nil] at hblank
  | word hgap hw hend _ ih =>
    rw [List.append_assoc, splitWords_gap hgap, splitWords_word hw.2, List.append_nil,
      splitWords_run (by simpa using hw.1) hend, List.reverse_reverse, ih]

theorem wordsOf_splitWords (cs : List Char) : WordsOf cs (splitWords [] cs) := by
  induction hn : cs.length using Nat.strong_induction_on generalizing cs with
  | _ n ih =>
    subst hn
    have hgap : ∀ c ∈ cs.takeWhile isWhitespace, isWhitespace c = true := fun c hc =>
      List.mem_takeWhile_imp hc
    have hcs : cs.takeWhile isWhitespace ++ cs.dropWhile isWhitespace = cs :=
      List.takeWhile_append_dropWhile
    rcases hbody : cs.dropWhile isWhitespace with _ | ⟨c, body⟩
    · rw [hbody, List.append_nil] at hcs
      have hblank := splitWords_gap hgap []
      rw [List.append_nil, hcs] at hblank
      rw [hblank]
      rw [hcs] at hgap
      exact .blank hgap
    · -- the first word is the run at the front of `c :: body`
      have hc : isWhitespace c = false := by
        have hnot := List.head?_dropWhile_not isWhitespace cs
        rw [hbody] at hnot
        simpa using hnot
      have hrun : ∀ b ∈ (c :: body).takeWhile (!isWhitespace ·), isWhitespace b = false :=
        fun b hb => by simpa using List.mem_takeWhile_imp hb
      have hw : IsWord ((c :: body).takeWhile (!isWhitespace ·)) :=
        ⟨by simp [hc], hrun⟩
      have hend : ∀ b ∈ ((c :: body).dropWhile (!isWhitespace ·)).head?,
          isWhitespace b = true := by
        intro b hb
        have hnot := List.head?_dropWhile_not (!isWhitespace ·) (c :: body)
        rw [Option.mem_def.mp hb] at hnot
        simpa using hnot
      have hshort : ((c :: body).dropWhile (!isWhitespace ·)).length < cs.length := by
        have h1 := List.length_dropWhile_le isWhitespace cs
        have h2 := List.length_dropWhile_le (!isWhitespace ·) body
        rw [hbody, List.length_cons] at h1
        rw [List.dropWhile_cons, if_pos (by simp [hc])]
        omega
      have hrest := ih _ hshort _ rfl
      have hall := WordsOf.word hgap hw hend hrest
      rw [List.append_assoc, List.takeWhile_append_dropWhile, ← hbody, hcs] at hall
      rwa [hall.splitWords_eq]

theorem wordsOf_iff {cs : List Char} {words : List (List Char)} :
    WordsOf cs words ↔ words = splitWords [] cs :=
  ⟨fun h => h.splitWords_eq.symm, fun h => h ▸ wordsOf_splitWords cs⟩

end Stophammer
