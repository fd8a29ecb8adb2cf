import Mathlib
import Stophammer.Platform
import Stophammer.Words

/-!
# Web links

A link with no scheme is read as an `https` link when it starts with a host name.  Each other link
is read as it is, and only when its scheme is a web scheme.
-/

namespace Stophammer

/-- The rest of a scheme, up to the first `:`. -/
def schemeEnds : List Char → Bool
  | [] => false
  | c :: cs =>
    if c = ':' then true
    else if c.isAlphanum || c ∈ ['+', '-', '.'] then schemeEnds cs
    else false

def startsWithUriScheme : List Char → Bool
  | [] => false
  | c :: cs => c.isAlpha && schemeEnds cs

def isHostNameLabel (label : List Char) : Bool :=
  (1 ≤ label.length && label.length ≤ 63) && label.all (fun c => c.isAlphanum || c = '-') &&
    !(label.head? == some '-') && !(label.getLast? == some '-')

def isHostName (candidate : List Char) : Bool :=
  let labels := Text.split ['.'] candidate
  match labels.getLast? with
  | none => false
  | some last =>
    2 ≤ labels.length && labels.all isHostNameLabel && 2 ≤ (String.ofList last).utf8ByteSize &&
      last.all Char.isAlpha

def endsHost (c : Char) : Bool := c ∈ ['/', '?', '#']

def hostCandidate (trimmed : List Char) : List Char := trimmed.takeWhile (!endsHost ·)

/-- The read value of a link, and if the scheme was added. -/
def webLinkForRead [Platform] (raw : String) : Option String × Bool :=
  let trimmed := trim raw
  let hasNoSchemeOrSpace :=
    !startsWithUriScheme trimmed.toList && !trimmed.toList.any isWhitespace
  if hasNoSchemeOrSpace && isHostName (hostCandidate trimmed.toList) then
    (webUrlOrNone (some ("https://" ++ trimmed)), true)
  else (webUrlOrNone (some trimmed), false)

/-- A letter, then letters, digits, `+`, `-` and `.`, then `:`. -/
def HasScheme (value : List Char) : Prop :=
  ∃ c scheme rest, value = c :: scheme ++ ':' :: rest ∧ c.isAlpha = true ∧
    ∀ b ∈ scheme, b.isAlphanum = true ∨ b ∈ ['+', '-', '.']

/-- 1 to 63 letters, digits and `-`, with no `-` at an end. -/
structure IsHostLabel (label : List Char) : Prop where
  size : 1 ≤ label.length ∧ label.length ≤ 63
  chars : ∀ c ∈ label, c.isAlphanum = true ∨ c = '-'
  front : label.head? ≠ some '-'
  back : label.getLast? ≠ some '-'

/-- Two or more labels with a `.` between them.  The last one has two or more letters. -/
inductive IsHost : List Char → Prop
  | labels {labels : List (List Char)} {top : List Char} (hne : labels ≠ [])
      (hlabels : ∀ label ∈ labels, IsHostLabel label) (htop : IsHostLabel top)
      (hsize : 2 ≤ top.length) (hletters : ∀ c ∈ top, c.isAlpha = true) :
      IsHost (Text.join ['.'] (labels ++ [top]))

/-- The value has no scheme and no white space, and a host stands in front of its first `/`, `?`
or `#`. -/
structure StartsWithHost (value : List Char) : Prop where
  noScheme : ¬HasScheme value
  noSpace : ∀ c ∈ value, isWhitespace c = false
  host : ∃ host rest, value = host ++ rest ∧ IsHost host ∧ ∀ c ∈ rest.head?, endsHost c = true

theorem schemeEnds_iff {cs : List Char} : schemeEnds cs = true ↔
    ∃ scheme rest, cs = scheme ++ ':' :: rest ∧
      ∀ b ∈ scheme, b.isAlphanum = true ∨ b ∈ ['+', '-', '.'] := by
  induction cs with
  | nil => simp [schemeEnds]
  | cons c cs ih =>
    by_cases hcolon : c = ':'
    · subst hcolon
      exact iff_of_true (by simp [schemeEnds]) ⟨[], cs, rfl, by simp⟩
    · rw [schemeEnds, if_neg hcolon]
      constructor
      · intro h
        split at h
        · rename_i hc
          obtain ⟨scheme, rest, rfl, hscheme⟩ := ih.mp h
          refine ⟨c :: scheme, rest, rfl, fun b hb => ?_⟩
          rcases List.mem_cons.mp hb with rfl | hb
          · simpa using hc
          · exact hscheme b hb
        · cases h
      · rintro ⟨scheme, rest, hcs, hscheme⟩
        cases scheme with
        | nil => exact absurd (List.cons.inj hcs).1 hcolon
        | cons b scheme =>
          obtain ⟨rfl, rfl⟩ := List.cons.inj hcs
          rw [if_pos (by simpa using hscheme c List.mem_cons_self)]
          exact ih.mpr ⟨scheme, rest, rfl, fun b hb => hscheme b (List.mem_cons_of_mem _ hb)⟩

theorem startsWithUriScheme_iff {value : List Char} :
    startsWithUriScheme value = true ↔ HasScheme value := by
  cases value with
  | nil => simp [startsWithUriScheme, HasScheme]
  | cons c cs =>
    rw [startsWithUriScheme, Bool.and_eq_true, schemeEnds_iff]
    constructor
    · rintro ⟨hc, scheme, rest, rfl, hscheme⟩
      exact ⟨c, scheme, rest, rfl, hc, hscheme⟩
    · rintro ⟨b, scheme, rest, hvalue, hb, hscheme⟩
      obtain ⟨rfl, rfl⟩ := List.cons.inj hvalue
      exact ⟨hb, scheme, rest, rfl, hscheme⟩

theorem isHostNameLabel_iff {label : List Char} :
    isHostNameLabel label = true ↔ IsHostLabel label := by
  simp only [isHostNameLabel, Bool.and_eq_true, decide_eq_true_eq, List.all_eq_true,
    Bool.or_eq_true, Bool.not_eq_true', beq_eq_false_iff_ne]
  exact ⟨fun ⟨⟨⟨hsize, hchars⟩, hfront⟩, hback⟩ => ⟨hsize, hchars, hfront, hback⟩,
    fun h => ⟨⟨⟨h.size, h.chars⟩, h.front⟩, h.back⟩⟩

theorem isAlpha_utf8Size {c : Char} (h : c.isAlpha = true) : c.utf8Size = 1 := by
  rw [Char.utf8Size_eq_one_iff, UInt32.le_iff_toNat_le]
  simp only [Char.isAlpha, Char.isUpper, Char.isLower, Bool.or_eq_true, Bool.and_eq_true,
    decide_eq_true_eq, UInt32.le_iff_toNat_le, ge_iff_le] at h
  have hupper : 'Z'.val.toNat = 90 := rfl
  have hlower : 'z'.val.toNat = 122 := rfl
  have hascii : (127 : UInt32).toNat = 127 := rfl
  omega

theorem utf8ByteSize_letters {cs : List Char} (h : ∀ c ∈ cs, c.isAlpha = true) :
    (String.ofList cs).utf8ByteSize = cs.length := by
  induction cs with
  | nil => simp
  | cons c cs ih =>
    have hcons : String.ofList (c :: cs) = String.singleton c ++ String.ofList cs := by
      simp
    rw [hcons, String.utf8ByteSize_append, String.utf8ByteSize_singleton,
      isAlpha_utf8Size (h c List.mem_cons_self),
      ih fun b hb => h b (List.mem_cons_of_mem _ hb), List.length_cons, Nat.add_comm]

theorem IsHostLabel.noDot {label : List Char} (h : IsHostLabel label) : '.' ∉ label := by
  intro hmem
  rcases h.chars '.' hmem with hdot | hdot
  · exact absurd hdot (by decide)
  · exact absurd hdot (by decide)

theorem isHostName_of_split {candidate top : List Char} {labels : List (List Char)}
    (h : Text.split ['.'] candidate = labels ++ [top]) :
    isHostName candidate = true ↔ labels ≠ [] ∧ (∀ label ∈ labels, IsHostLabel label) ∧
      IsHostLabel top ∧ 2 ≤ top.length ∧ ∀ c ∈ top, c.isAlpha = true := by
  have hlabels : 2 ≤ (labels ++ [top]).length ↔ labels ≠ [] := by
    rw [List.length_append, List.length_singleton, ← List.length_pos_iff]
    omega
  simp only [isHostName, h, List.getLast?_concat, Bool.and_eq_true, decide_eq_true_eq, hlabels,
    List.all_append, List.all_eq_true, List.mem_singleton, forall_eq, isHostNameLabel_iff]
  constructor
  · rintro ⟨⟨⟨hne, hall, htop⟩, hsize⟩, hletters⟩
    rw [utf8ByteSize_letters hletters] at hsize
    exact ⟨hne, hall, htop, hsize, hletters⟩
  · rintro ⟨hne, hall, htop, hsize, hletters⟩
    rw [utf8ByteSize_letters hletters]
    exact ⟨⟨⟨hne, hall, htop⟩, hsize⟩, hletters⟩

theorem isHostName_iff {candidate : List Char} :
    isHostName candidate = true ↔ IsHost candidate := by
  constructor
  · intro h
    have hne : Text.split ['.'] candidate ≠ [] := Text.splitAt_ne_nil _ _ _
    have hsplit := (List.dropLast_append_getLast hne).symm
    obtain ⟨hlabels, hall, htop, hsize, hletters⟩ := (isHostName_of_split hsplit).mp h
    have hhost := IsHost.labels hlabels hall htop hsize hletters
    rwa [← hsplit, Text.join_split] at hhost
  · intro h
    cases h with
    | labels hne hlabels htop hsize hletters =>
      refine (isHostName_of_split (Text.split_join (fun label hlabel => ?_) (by simp))).mpr
        ⟨hne, hlabels, htop, hsize, hletters⟩
      rcases List.mem_append.mp hlabel with hlabel | hlabel
      · exact (hlabels label hlabel).noDot
      · rw [List.mem_singleton.mp hlabel]
        exact htop.noDot

theorem IsHost.chars {host : List Char} (h : IsHost host) :
    ∀ c ∈ host, c.isAlphanum = true ∨ c ∈ ['-', '.'] := by
  cases h with
  | @labels labels top _ hlabels htop _ _ =>
    intro c hc
    rcases mem_join hc with hdot | ⟨label, hlabel, hc⟩
    · exact .inr (by simpa using .inr (List.mem_singleton.mp hdot))
    · have hhost : IsHostLabel label := by
        rcases List.mem_append.mp hlabel with hlabel | hlabel
        · exact hlabels label hlabel
        · rwa [List.mem_singleton.mp hlabel]
      rcases hhost.chars c hc with hc | hc
      · exact .inl hc
      · exact .inr (by simp [hc])

theorem isHost_hostCandidate {value : List Char} :
    IsHost (hostCandidate value) ↔
      ∃ host rest, value = host ++ rest ∧ IsHost host ∧ ∀ c ∈ rest.head?, endsHost c = true := by
  constructor
  · intro h
    refine ⟨_, value.dropWhile (!endsHost ·), List.takeWhile_append_dropWhile.symm, h, ?_⟩
    intro c hc
    have hnot := List.head?_dropWhile_not (!endsHost ·) value
    rw [Option.mem_def.mp hc] at hnot
    simpa using hnot
  · rintro ⟨host, rest, rfl, hhost, hrest⟩
    have hall : ∀ c ∈ host, (!endsHost c) = true := by
      intro c hc
      have hchar := hhost.chars c hc
      rw [Bool.not_eq_true', ← Bool.not_eq_true]
      intro hends
      rw [endsHost, decide_eq_true_eq] at hends
      simp only [List.mem_cons, List.not_mem_nil, or_false] at hends
      rcases hends with rfl | rfl | rfl
      all_goals exact absurd hchar (by decide)
    have hcandidate : hostCandidate (host ++ rest) = host := by
      rw [hostCandidate, List.takeWhile_append_of_pos hall]
      cases rest with
      | nil => rw [List.takeWhile_nil, List.append_nil]
      | cons c rest => rw [List.takeWhile_cons_of_neg (by simp [hrest c rfl]), List.append_nil]
    rwa [hcandidate]

theorem hasScheme_https (rest : List Char) : HasScheme ("https:".toList ++ rest) := by
  have hletters : ("ttps".toList.all Char.isAlphanum) = true := by decide
  exact ⟨'h', "ttps".toList, rest, rfl, by decide, fun c hc =>
    .inl (List.all_eq_true.mp hletters c hc)⟩

theorem trim_https {value : String} (h : ∀ c ∈ value.toList, isWhitespace c = false) :
    trim ("https://" ++ value) = "https://" ++ value := by
  have hall : ∀ c ∈ ("https://" ++ value).toList, isWhitespace c = false := by
    intro c hc
    rw [String.toList_append, List.mem_append] at hc
    have hadded : ("https://".toList.all fun c => !isWhitespace c) = true := by decide
    rcases hc with hc | hc
    · exact (Bool.not_eq_true' _).mp (List.all_eq_true.mp hadded c hc)
    · exact h c hc
  rw [trim, trimChars_noSpace hall, String.ofList_toList]

section

variable [Platform]

theorem webLinkForRead_added (raw : String) :
    (webLinkForRead raw).2 = true ↔ StartsWithHost (trim raw).toList := by
  have htests : ((!startsWithUriScheme (trim raw).toList && !(trim raw).toList.any isWhitespace) &&
      isHostName (hostCandidate (trim raw).toList)) = true ↔
        StartsWithHost (trim raw).toList := by
    rw [Bool.and_eq_true, Bool.and_eq_true, isHostName_iff, isHost_hostCandidate,
      Bool.not_eq_true', Bool.not_eq_true', ← Bool.not_eq_true, startsWithUriScheme_iff,
      List.any_eq_false]
    simp only [Bool.not_eq_true]
    exact ⟨fun ⟨⟨hscheme, hspace⟩, hhost⟩ => ⟨hscheme, hspace, hhost⟩,
      fun h => ⟨⟨h.noScheme, h.noSpace⟩, h.host⟩⟩
  rw [← htests]
  unfold webLinkForRead
  simp only
  split
  · rename_i h
    exact iff_of_true rfl h
  · rename_i h
    exact iff_of_false (by simp) h

theorem webLinkForRead_value (raw : String) :
    (webLinkForRead raw).1 = webUrlOrNone (some
      (if (webLinkForRead raw).2 = true then "https://" ++ trim raw else trim raw)) := by
  unfold webLinkForRead
  simp only
  split
  · rfl
  · rfl

theorem webLinkForRead_of_not {url : String} (htrim : trim url = url)
    (hno : ¬StartsWithHost url.toList) :
    webLinkForRead url = (webUrlOrNone (some url), false) := by
  have hflag : (webLinkForRead url).2 = false := by
    rw [← Bool.not_eq_true, webLinkForRead_added, htrim]
    exact hno
  refine Prod.ext ?_ hflag
  rw [webLinkForRead_value, hflag, htrim]
  rfl

theorem webUrlOrNone_eq_some {raw url : String} :
    webUrlOrNone (some raw) = some url ↔ url = raw ∧ (urlScheme raw).any isWebScheme = true := by
  rw [webUrlOrNone, Option.filter_eq_some_iff, Option.some.injEq]
  constructor
  · rintro ⟨rfl, hweb⟩
    exact ⟨rfl, hweb⟩
  · rintro ⟨rfl, hweb⟩
    exact ⟨rfl, hweb⟩

/-- The read value of a link is a web URL.  The scheme is added exactly to a value that starts with
a host, and the read value is read as the same value again. -/
theorem webLinkForRead_spec (raw : String) :
    (∀ url ∈ (webLinkForRead raw).1,
      ∃ scheme ∈ urlScheme url, scheme = "http" ∨ scheme = "https") ∧
    ((webLinkForRead raw).2 = true ↔ StartsWithHost (trim raw).toList) ∧
    (webLinkForRead raw).1 = webUrlOrNone (some
      (if (webLinkForRead raw).2 = true then "https://" ++ trim raw else trim raw)) ∧
    ∀ url ∈ (webLinkForRead raw).1, webLinkForRead url = (some url, false) := by
  refine ⟨fun url hurl => ?_, webLinkForRead_added raw, webLinkForRead_value raw,
    fun url hurl => ?_⟩
  · rw [Option.mem_def, webLinkForRead_value, webUrlOrNone_eq_some] at hurl
    obtain ⟨rfl, hweb⟩ := hurl
    obtain ⟨scheme, hscheme, hname⟩ := (Option.any_eq_true _ _).mp hweb
    exact ⟨scheme, hscheme, by simpa [isWebScheme] using hname⟩
  · have hvalue := hurl
    rw [Option.mem_def, webLinkForRead_value, webUrlOrNone_eq_some] at hvalue
    obtain ⟨hurl, hweb⟩ := hvalue
    have hread : webUrlOrNone (some url) = some url :=
      webUrlOrNone_eq_some.mpr ⟨rfl, hurl ▸ hweb⟩
    have hagain : trim url = url ∧ ¬StartsWithHost url.toList := by
      by_cases hadded : (webLinkForRead raw).2 = true
      · have hhost := (webLinkForRead_added raw).mp hadded
        rw [if_pos hadded] at hurl
        refine ⟨hurl ▸ trim_https hhost.noSpace, fun h => h.noScheme ?_⟩
        rw [hurl, String.toList_append]
        exact hasScheme_https ('/' :: '/' :: (trim raw).toList)
      · rw [if_neg hadded] at hurl
        rw [webLinkForRead_added, ← hurl] at hadded
        exact ⟨hurl ▸ trim_trim raw, hadded⟩
    rw [webLinkForRead_of_not hagain.1 hagain.2, hread]

end

end Stophammer
