import Mathlib.Data.String.Basic
import Stophammer.Text.Fts5
import Stophammer.Words

/-!
# Search phrases

The text of a search is divided into phrases, and the phrases are written as an FTS5 query of
strings.  No character of the text is read as query syntax.
-/

namespace Stophammer

/-- The Unicode category `Cc`. -/
def isControl (c : Char) : Bool := c.toNat < 0x20 || (0x7F ≤ c.toNat && c.toNat < 0xA0)

/-- `text.replace(from, to)` with a character to replace. -/
def replaceChar (old : Char) (new text : String) : String :=
  String.ofList (text.toList.flatMap fun c => if c = old then new.toList else [c])

/-- Each word of `text` as one quoted phrase. -/
def pushWords (phrases : List String) (text : List Char) : List String :=
  phrases ++ (splitWhitespace (String.ofList text)).map fun word =>
    "\"" ++ replaceChar '"' "\"\"" word ++ "\""

/-- The words between two quotes as one phrase. -/
def pushQuoted (phrases : List String) (text : List Char) : List String :=
  let words := splitWhitespace (String.ofList text)
  if words.isEmpty then phrases else phrases ++ ["\"" ++ joinWith " " words ++ "\""]

/-- The text in front of the first two quotes, the text between them, and the rest. -/
def quotePair (rest : List Char) : Option (List Char × List Char × List Char) :=
  (Text.cut '"' rest).bind fun opened =>
    (Text.cut '"' opened.2).map fun closed => (opened.1, closed.1, closed.2)

theorem quotePair_eq_some {rest before inside after : List Char} :
    quotePair rest = some (before, inside, after) ↔
      '"' ∉ before ∧ '"' ∉ inside ∧ rest = before ++ '"' :: (inside ++ '"' :: after) := by
  unfold quotePair
  constructor
  · intro h
    obtain ⟨⟨first, opened⟩, hopen, h⟩ := Option.bind_eq_some_iff.mp h
    obtain ⟨⟨second, closed⟩, hclose, h⟩ := Option.map_eq_some_iff.mp h
    cases h
    obtain ⟨hfirst, rfl⟩ := Text.cut_eq_some.mp hopen
    obtain ⟨hsecond, hrest⟩ := Text.cut_eq_some.mp hclose
    simp only at hrest
    exact ⟨hfirst, hsecond, by rw [hrest]⟩
  · rintro ⟨hbefore, hinside, rfl⟩
    rw [Text.cut_eq_some.mpr ⟨hbefore, rfl⟩, Option.bind_some,
      Text.cut_eq_some.mpr ⟨hinside, rfl⟩, Option.map_some]

theorem count_of_quotePair_none {rest : List Char} (h : quotePair rest = none) :
    rest.count '"' ≤ 1 := by
  unfold quotePair at h
  rcases hopen : Text.cut '"' rest with _ | ⟨before, opened⟩
  · have hnone := List.count_eq_zero.mpr (Text.cut_eq_none.mp hopen)
    omega
  · rw [hopen, Option.bind_some, Option.map_eq_none_iff, Text.cut_eq_none] at h
    obtain ⟨hbefore, rfl⟩ := Text.cut_eq_some.mp hopen
    rw [List.count_append, List.count_cons_self, List.count_eq_zero.mpr hbefore,
      List.count_eq_zero.mpr h]

theorem quotePair_length {rest before inside after : List Char}
    (h : quotePair rest = some (before, inside, after)) : after.length < rest.length := by
  obtain ⟨-, -, rfl⟩ := quotePair_eq_some.mp h
  simp only [List.length_append, List.length_cons]
  omega

/-- The loop of `fts5_phrases`: while `rest` holds two quotes. -/
def phrasesFrom (phrases : List String) (rest : List Char) : List String :=
  match _h : quotePair rest with
  | none => pushWords phrases rest
  | some (before, inside, after) =>
    phrasesFrom (pushQuoted (pushWords phrases before) inside) after
termination_by rest.length
decreasing_by exact quotePair_length _h

def fts5Phrases (input : String) : List String :=
  phrasesFrom [] (input.toList.filter (!isControl ·))

def fts5QueryFromWords (input : String) : String := joinWith " " (fts5Phrases input)

/-- The words between two quotes, with one space between them. -/
def onePhrase (words : List (List Char)) : List (List Char) :=
  if words = [] then [] else [Text.join [' '] words]

/-- `phrases` are the phrases of `text`: the text between two quotes is one phrase, each other
word is one phrase, and a quote with no second quote after it is part of its word. -/
inductive Segmented : List Char → List (List Char) → Prop
  | last {text : List Char} {words : List (List Char)} (hquotes : text.count '"' ≤ 1)
      (hwords : WordsOf text words) : Segmented text words
  | pair {before inside after : List Char} {outer inner phrases : List (List Char)}
      (hbefore : '"' ∉ before) (hinside : '"' ∉ inside) (houter : WordsOf before outer)
      (hinner : WordsOf inside inner) (hafter : Segmented after phrases) :
      Segmented (before ++ '"' :: (inside ++ '"' :: after)) (outer ++ onePhrase inner ++ phrases)

theorem segmented_of_none {text : List Char} {phrases : List (List Char)}
    (h : quotePair text = none) : Segmented text phrases ↔ phrases = splitWords [] text := by
  refine ⟨fun hseg => ?_, fun hwords =>
    .last (count_of_quotePair_none h) (wordsOf_iff.mpr hwords)⟩
  cases hseg with
  | last _ hwords => exact wordsOf_iff.mp hwords
  | pair hbefore hinside =>
    rw [quotePair_eq_some.mpr ⟨hbefore, hinside, rfl⟩] at h
    cases h

theorem segmented_of_some {text before inside after : List Char} {phrases : List (List Char)}
    (h : quotePair text = some (before, inside, after)) :
    Segmented text phrases ↔ ∃ later, Segmented after later ∧
      phrases = splitWords [] before ++ onePhrase (splitWords [] inside) ++ later := by
  obtain ⟨hbefore, hinside, htext⟩ := quotePair_eq_some.mp h
  constructor
  · intro hseg
    cases hseg with
    | last hquotes _ =>
      rw [htext] at hquotes
      simp only [List.count_append, List.count_cons_self] at hquotes
      omega
    | pair hbefore' hinside' houter hinner hafter =>
      rw [quotePair_eq_some.mpr ⟨hbefore', hinside', rfl⟩] at h
      cases h
      rw [wordsOf_iff.mp houter, wordsOf_iff.mp hinner]
      exact ⟨_, hafter, rfl⟩
  · rintro ⟨later, hlater, rfl⟩
    rw [htext]
    exact .pair hbefore hinside (wordsOf_splitWords _) (wordsOf_splitWords _) hlater

/-- A text of the query grammar. -/
def quoted (text : List Char) : String := String.ofList (Fts5.quote text)

theorem pushWords_eq (phrases : List String) (text : List Char) :
    pushWords phrases text = phrases ++ (splitWords [] text).map quoted := by
  have hword : ∀ word : List Char,
      "\"" ++ replaceChar '"' "\"\"" (String.ofList word) ++ "\"" = quoted word := by
    intro word
    apply String.toList_injective
    simp [quoted, Fts5.quote, Fts5.double, replaceChar]
  unfold pushWords splitWhitespace
  rw [String.toList_ofList, List.map_map]
  exact congrArg _ (List.map_congr_left fun word _ => hword word)

theorem pushQuoted_eq (phrases : List String) {text : List Char} (h : '"' ∉ text) :
    pushQuoted phrases text = phrases ++ (onePhrase (splitWords [] text)).map quoted := by
  have hjoin : '"' ∉ Text.join [' '] (splitWords [] text) := by
    intro hmem
    rcases mem_join hmem with hspace | ⟨word, hword, hmem⟩
    · simp at hspace
    · rcases mem_splitWords hword hmem with hmem | hmem
      · cases hmem
      · exact h hmem
  simp only [pushQuoted, splitWhitespace, onePhrase, String.toList_ofList, List.isEmpty_map,
    List.isEmpty_iff]
  split
  · rw [List.map_nil, List.append_nil]
  · have hquoted : "\"" ++ joinWith " " ((splitWords [] text).map String.ofList) ++ "\"" =
        quoted (Text.join [' '] (splitWords [] text)) := by
      apply String.toList_injective
      rw [quoted, Fts5.quote, Fts5.double_of_not_mem hjoin]
      simp [toList_joinWith]
    rw [hquoted, List.map_singleton]

theorem phrasesFrom_segmented (phrases : List String) (rest : List Char) :
    ∃ added, phrasesFrom phrases rest = phrases ++ added.map quoted ∧
      ∀ other, Segmented rest other ↔ other = added := by
  fun_induction phrasesFrom phrases rest with
  | case1 phrases rest hpair =>
    exact ⟨_, pushWords_eq phrases rest, fun other => segmented_of_none hpair⟩
  | case2 phrases rest before inside after hpair ih =>
    obtain ⟨later, hloop, hlater⟩ := ih
    obtain ⟨-, hinside, -⟩ := quotePair_eq_some.mp hpair
    refine ⟨splitWords [] before ++ onePhrase (splitWords [] inside) ++ later, ?_, fun other => ?_⟩
    · rw [hloop, pushQuoted_eq _ hinside, pushWords_eq]
      simp only [List.map_append, List.append_assoc]
    · simp only [segmented_of_some hpair, hlater, exists_eq_left]

/-- The query is read as the phrases of the text without control characters, and as nothing
else. -/
theorem fts5QueryFromWords_tokens (input : String) :
    ∃ phrases, Fts5.tokens (fts5QueryFromWords input).toList = some (phrases.map .string) ∧
      ∀ other, Segmented (input.toList.filter (!isControl ·)) other ↔ other = phrases := by
  obtain ⟨phrases, hloop, hseg⟩ :=
    phrasesFrom_segmented [] (input.toList.filter (!isControl ·))
  refine ⟨phrases, ?_, hseg⟩
  have hquery : (fts5QueryFromWords input).toList =
      Text.join [' '] (phrases.map Fts5.quote) := by
    have htexts : phrases.map quoted = (phrases.map Fts5.quote).map String.ofList := by
      rw [List.map_map]
      rfl
    rw [fts5QueryFromWords, fts5Phrases, hloop, List.nil_append, htexts, toList_joinWith]
    rfl
  rw [hquery, Fts5.tokens_join_quote]

end Stophammer
