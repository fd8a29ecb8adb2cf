import Mathlib.Data.String.Basic
import Stophammer.Db.Content
import Stophammer.Relational.OrderBy
import Stophammer.Words

/-!
# Roles

The `rel` of a remote item is read as a set of roles, and given back as one text.
-/

namespace Stophammer

open Relational

theorem toAsciiLower_eq_comma {c : Char} : toAsciiLower c = ',' ↔ c = ',' := by
  rw [← Char.toNat_inj, ← Char.toNat_inj, toNat_toAsciiLower]
  have hcomma : (',').toNat = 44 := rfl
  split <;> omega

theorem IsWord.lower {w : List Char} (h : IsWord w) : IsWord (w.map toAsciiLower) := by
  refine ⟨by simpa using h.1, fun c hc => ?_⟩
  obtain ⟨b, hb, rfl⟩ := List.mem_map.mp hc
  rw [isWhitespace_toAsciiLower]
  exact h.2 b hb

def textSet (texts : List String) : List String := orderBy compare (dedupeBy id [] texts)

/-- The roles that the value states.  A value with a comma is a comma list, else a list
separated by white space. -/
def relRoles (value : String) : List String :=
  if value.toList.contains ',' then
    ((Text.split [','] value.toList).map fun part =>
      toAsciiLowercase (joinWith " " (splitWhitespace (String.ofList part)))).filter (!·.isEmpty)
  else (splitWhitespace value).map toAsciiLowercase

def normalizeRel (value : String) : Option String :=
  if (relRoles value).isEmpty then none else some (joinWith ", " (textSet (relRoles value)))

/-- The role without the name of the side that gave it. -/
def resolveRole (publisherRel musicRel : Option String) : Option String :=
  match publisherRel.bind normalizeRel, musicRel.bind normalizeRel with
  | some publisherValue, none => some publisherValue
  | none, some musicValue => some musicValue
  | some publisherValue, some musicValue =>
    if publisherValue == musicValue then some publisherValue else none
  | none, none => none

inductive RoleAgreement where
  | both
  | conflict
  | oneSide
deriving DecidableEq

def roleAgreement (publisherRel musicRel : Option String) : Option RoleAgreement :=
  match publisherRel.bind normalizeRel, musicRel.bind normalizeRel with
  | some publisherValue, some musicValue =>
    some (if publisherValue == musicValue then .both else .conflict)
  | some _, none | none, some _ => some .oneSide
  | none, none => none

def relTokens (value : String) : List String :=
  match normalizeRel value with
  | some roles => (Text.split [',', ' '] roles.toList).map String.ofList
  | none => []

theorem mem_dedupeBy_id {seen texts : List String} {text : String} :
    text ∈ dedupeBy id seen texts ↔ text ∈ texts ∧ text ∉ seen := by
  induction texts generalizing seen with
  | nil => simp [dedupeBy]
  | cons t texts ih =>
    unfold dedupeBy
    split
    · rename_i hseen
      rw [ih]
      constructor
      · exact fun h => ⟨List.mem_cons_of_mem _ h.1, h.2⟩
      · rintro ⟨h, hnot⟩
        rcases List.mem_cons.mp h with rfl | h
        · exact absurd hseen hnot
        · exact ⟨h, hnot⟩
    · rename_i hseen
      simp only [List.mem_cons, ih, not_or]
      constructor
      · rintro (rfl | ⟨h, -, hnot⟩)
        · exact ⟨.inl rfl, hseen⟩
        · exact ⟨.inr h, hnot⟩
      · rintro ⟨rfl | h, hnot⟩
        · exact .inl rfl
        · by_cases htext : text = t
          · exact .inl htext
          · exact .inr ⟨h, htext, hnot⟩

@[simp] theorem mem_textSet {texts : List String} {text : String} :
    text ∈ textSet texts ↔ text ∈ texts := by
  rw [textSet, mem_orderBy, mem_dedupeBy_id]
  simp

theorem textSet_nodup (texts : List String) : (textSet texts).Nodup := by
  have hdistinct : ((dedupeBy id [] texts).map id).Nodup := (dedupeBy_nodup [] texts).1
  rw [List.map_id] at hdistinct
  exact ((orderBy_perm _ _).nodup_iff).mpr hdistinct

theorem textSet_eq_iff {texts texts' : List String} :
    textSet texts = textSet texts' ↔ ∀ text, text ∈ texts ↔ text ∈ texts' := by
  constructor
  · intro h text
    rw [← mem_textSet, h, mem_textSet]
  · intro h
    have hdistinct : ∀ texts, (dedupeBy id [] texts : List String).Nodup := by
      intro texts
      have hnodup : ((dedupeBy id [] texts).map id).Nodup := (dedupeBy_nodup [] texts).1
      rwa [List.map_id] at hnodup
    apply orderBy_eq_of_perm
    · apply (List.perm_ext_iff_of_nodup (hdistinct _) (hdistinct _)).mpr
      intro text
      rw [mem_dedupeBy_id, mem_dedupeBy_id, h]
    · exact fun a _ b _ => Std.LawfulEqOrd.eq_of_compare

theorem textSet_ne_nil {texts : List String} (h : texts ≠ []) : textSet texts ≠ [] := by
  obtain ⟨text, htext⟩ := List.exists_mem_of_ne_nil texts h
  exact List.ne_nil_of_mem (mem_textSet.mpr htext)

/-- Lower words with one space between them, and no comma. -/
structure IsRole (role : List Char) : Prop where
  words : ∃ words, words ≠ [] ∧ (∀ w ∈ words, IsWord w) ∧ role = Text.join [' '] words
  lower : role.map toAsciiLower = role
  noComma : ',' ∉ role

def rolePart (part : List Char) : List Char :=
  (Text.join [' '] (splitWords [] part)).map toAsciiLower

theorem toAsciiLowercase_toList (part : List Char) :
    (toAsciiLowercase (joinWith " " (splitWhitespace (String.ofList part)))).toList =
      rolePart part := by
  simp [toAsciiLowercase, joinWith_toList, splitWhitespace, rolePart, Function.comp_def]

theorem rolePart_isRole {part : List Char} (hcomma : ',' ∉ part) (hne : rolePart part ≠ []) :
    IsRole (rolePart part) where
  words := by
    refine ⟨(splitWords [] part).map (List.map toAsciiLower), ?_, ?_, ?_⟩
    · intro hnil
      rw [List.map_eq_nil_iff] at hnil
      rw [rolePart, hnil] at hne
      exact hne rfl
    · intro w hw
      obtain ⟨v, hv, rfl⟩ := List.mem_map.mp hw
      exact (splitWords_words (by simp) v hv).lower
    · rw [rolePart, map_join]
      rfl
  lower := by
    rw [rolePart, List.map_map]
    exact List.map_congr_left fun c _ => toAsciiLower_idem c
  noComma := by
    intro h
    obtain ⟨c, hc, hlower⟩ := List.mem_map.mp h
    rw [toAsciiLower_eq_comma] at hlower
    subst hlower
    rcases mem_join hc with hc | ⟨w, hw, hc⟩
    · exact absurd hc (by decide)
    · rcases mem_splitWords hw hc with hc | hc
      · cases hc
      · exact hcomma hc

theorem IsRole.rolePart_eq {role : List Char} (h : IsRole role) : rolePart role = role := by
  obtain ⟨words, -, hwords, hrole⟩ := h.words
  have hread : splitWords [] role = words := hrole ▸ splitWords_join hwords
  rw [rolePart, hread, ← hrole, h.lower]

theorem IsRole.rolePart_space {role : List Char} (h : IsRole role) :
    rolePart (' ' :: role) = role := by
  rw [rolePart, splitWords_space]
  exact h.rolePart_eq

theorem IsRole.ne_nil {role : List Char} (h : IsRole role) : role ≠ [] := by
  obtain ⟨words, hne, hwords, rfl⟩ := h.words
  obtain ⟨w, words, rfl⟩ := List.exists_cons_of_ne_nil hne
  have hw := (hwords w (by simp)).1
  cases words with
  | nil => exact hw
  | cons next words => simp [Text.join, hw]

theorem relRoles_isRole {value role : String} (h : role ∈ relRoles value) :
    IsRole role.toList := by
  unfold relRoles at h
  split at h
  · obtain ⟨hmem, hne⟩ := List.mem_filter.mp h
    obtain ⟨part, hpart, rfl⟩ := List.mem_map.mp hmem
    rw [toAsciiLowercase_toList]
    refine rolePart_isRole (Text.split_noSep hpart) ?_
    rw [← toAsciiLowercase_toList]
    simpa using hne
  · rename_i hcomma
    obtain ⟨word, hword, rfl⟩ := List.mem_map.mp h
    obtain ⟨w, hw, rfl⟩ := List.mem_map.mp hword
    have hisWord := splitWords_words (by simp) w hw
    have hread : splitWords [] w = [w] := @splitWords_join [w] (by simpa using hisWord)
    have hsame : (toAsciiLowercase (String.ofList w)).toList = rolePart w := by
      simp [toAsciiLowercase, rolePart, hread, Text.join]
    rw [hsame]
    apply rolePart_isRole
    · intro hc
      rcases mem_splitWords hw hc with hc | hc
      · cases hc
      · exact hcomma (by simpa using hc)
    · simp [rolePart, hread, Text.join, hisWord.1]

theorem relRoles_joined {first second : String} {roles : List String}
    (hroles : ∀ role ∈ first :: second :: roles, IsRole role.toList) :
    relRoles (joinWith ", " (first :: second :: roles)) = first :: second :: roles := by
  have hparts : ∀ (role : List Char) (roles : List (List Char)),
      Text.join [',', ' '] (role :: roles) = Text.join [','] (role :: roles.map (' ' :: ·)) := by
    intro role roles
    induction roles generalizing role with
    | nil => rfl
    | cons next roles ih =>
      rw [Text.join, ih, List.map_cons, Text.join]
      cases roles <;> simp [Text.join]
  have htext : (joinWith ", " (first :: second :: roles)).toList =
      Text.join [','] (first.toList ::
        ((second :: roles).map String.toList).map (' ' :: ·)) := by
    rw [joinWith_toList, List.map_cons]
    exact hparts _ _
  have hcomma : (joinWith ", " (first :: second :: roles)).toList.contains ',' = true := by
    rw [htext]
    simp [Text.join]
  unfold relRoles
  rw [if_pos hcomma, htext, Text.split_join _ (by simp), List.map_cons, List.map_map, List.map_map]
  · have hfirst : toAsciiLowercase (joinWith " " (splitWhitespace (String.ofList first.toList))) =
        first := by
      apply String.toList_injective
      rw [toAsciiLowercase_toList]
      exact (hroles first (by simp)).rolePart_eq
    have hrest : (second :: roles).map ((fun part : List Char =>
        toAsciiLowercase (joinWith " " (splitWhitespace (String.ofList part)))) ∘ (' ' :: ·) ∘
          String.toList) = second :: roles := by
      conv_rhs => rw [← List.map_id (second :: roles)]
      apply List.map_congr_left
      intro role hrole
      apply String.toList_injective
      rw [Function.comp_apply, Function.comp_apply, toAsciiLowercase_toList]
      exact (hroles role (List.mem_cons_of_mem _ hrole)).rolePart_space
    rw [hfirst, ← Function.comp_assoc] at *
    rw [hrest]
    apply List.filter_eq_self.mpr
    intro role hrole
    have hne := (hroles role hrole).ne_nil
    simpa using hne
  · intro part hpart
    rcases List.mem_cons.mp hpart with rfl | hpart
    · exact (hroles first (by simp)).noComma
    · obtain ⟨role, hrole, rfl⟩ := List.mem_map.mp hpart
      obtain ⟨text, htext, rfl⟩ := List.mem_map.mp hrole
      have hno := (hroles text (List.mem_cons_of_mem _ htext)).noComma
      simp [hno]

theorem relRoles_single {role : String} {words : List (List Char)}
    (hrole : IsRole role.toList) (hwords : ∀ w ∈ words, IsWord w)
    (htext : role.toList = Text.join [' '] words) :
    relRoles role = words.map String.ofList := by
  have hno : role.toList.contains ',' = false := by
    have hcomma := hrole.noComma
    simpa using hcomma
  have hread : splitWords [] role.toList = words := htext ▸ splitWords_join hwords
  have hlower : ∀ w ∈ words, w.map toAsciiLower = w := by
    have hmapped := hrole.lower
    rw [htext, map_join] at hmapped
    have hwordsLower : ∀ w ∈ words.map (List.map toAsciiLower), IsWord w := by
      intro w hw
      obtain ⟨v, hv, rfl⟩ := List.mem_map.mp hw
      exact (hwords v hv).lower
    have hsame := congrArg (splitWords []) hmapped
    have hspace : [' '].map toAsciiLower = [' '] := by decide
    rw [hspace, splitWords_join hwordsLower, splitWords_join hwords] at hsame
    have hid : words.map (List.map toAsciiLower) = words.map id := by rw [hsame, List.map_id]
    intro w hw
    exact List.map_inj_left.mp hid w hw
  unfold relRoles
  rw [hno, if_neg (by decide), splitWhitespace, hread, List.map_map]
  apply List.map_congr_left
  intro w hw
  simp [toAsciiLowercase, hlower w hw]

theorem textSet_isRole {value role : String} (h : role ∈ textSet (relRoles value)) :
    IsRole role.toList := relRoles_isRole (mem_textSet.mp h)

theorem split_joined {roles : List String} (hroles : ∀ role ∈ roles, IsRole role.toList)
    (hne : roles ≠ []) :
    (Text.split [',', ' '] (joinWith ", " roles).toList).map String.ofList = roles := by
  have hsplit : Text.split [',', ' '] (joinWith ", " roles).toList = roles.map String.toList := by
    rw [joinWith_toList]
    apply Text.split_join
    · intro part hpart
      obtain ⟨role, hrole, rfl⟩ := List.mem_map.mp hpart
      exact (hroles role hrole).noComma
    · simpa using hne
  rw [hsplit, List.map_map]
  conv_rhs => rw [← List.map_id roles]
  exact List.map_congr_left fun role _ => String.ofList_toList

theorem normalizeRel_some {value roles : String} (h : normalizeRel value = some roles) :
    relRoles value ≠ [] ∧ roles = joinWith ", " (textSet (relRoles value)) := by
  unfold normalizeRel at h
  split at h
  · cases h
  · rename_i hne
    exact ⟨by simpa using hne, (Option.some.inj h).symm⟩

theorem normalizeRel_none {value : String} : normalizeRel value = none ↔ relRoles value = [] := by
  unfold normalizeRel
  split
  · rename_i hempty
    simpa using hempty
  · rename_i hne
    simpa using hne

theorem relTokens_eq (value : String) : relTokens value = textSet (relRoles value) := by
  unfold relTokens
  cases h : normalizeRel value with
  | none =>
    rw [normalizeRel_none.mp h]
    rfl
  | some roles =>
    obtain ⟨hne, rfl⟩ := normalizeRel_some h
    exact split_joined (fun _ => textSet_isRole) (textSet_ne_nil hne)

theorem normalizeRel_eq_iff {value other : String} :
    normalizeRel value = normalizeRel other ↔
      ∀ role, role ∈ relRoles value ↔ role ∈ relRoles other := by
  rw [← textSet_eq_iff]
  constructor
  · intro h
    rw [← relTokens_eq, ← relTokens_eq, relTokens, relTokens, h]
  · intro h
    have hempty : relRoles value = [] ↔ relRoles other = [] := by
      constructor
      · intro hnil
        by_contra hne
        exact textSet_ne_nil hne (h ▸ (by rw [hnil]; rfl))
      · intro hnil
        by_contra hne
        exact textSet_ne_nil hne (h ▸ (by rw [hnil]; rfl))
    unfold normalizeRel
    simp only [List.isEmpty_iff, hempty, h]

/-- The value states one role, of two words or more. -/
def StatesOnePhrase (value : String) : Prop :=
  ∃ role, relTokens value = [role] ∧ ' ' ∈ role.toList

instance (value : String) : Decidable (StatesOnePhrase value) :=
  match h : relTokens value with
  | [role] =>
    if hspace : ' ' ∈ role.toList then isTrue ⟨role, h, hspace⟩
    else isFalse fun ⟨other, hother, hin⟩ => by
      rw [h] at hother
      cases hother
      exact hspace hin
  | [] => isFalse fun ⟨_, hother, _⟩ => by simp [h] at hother
  | _ :: _ :: _ => isFalse fun ⟨_, hother, _⟩ => by simp [h] at hother

/-- The tokens of what was normalized before. -/
def rereadTokens (value : String) : List String := ((normalizeRel value).map relTokens).getD []

theorem rereadTokens_iff (value : String) :
    rereadTokens value = relTokens value ↔ ¬ StatesOnePhrase value := by
  unfold rereadTokens StatesOnePhrase
  cases hnormal : normalizeRel value with
  | none =>
    have hnil : relTokens value = [] := by rw [relTokens, hnormal]
    simp [hnil]
  | some roles =>
    obtain ⟨hne, rfl⟩ := normalizeRel_some hnormal
    rw [Option.map_some, Option.getD_some, relTokens_eq, relTokens_eq]
    have hroles : ∀ role ∈ textSet (relRoles value), IsRole role.toList := fun _ => textSet_isRole
    have hset : ∀ role, role ∈ textSet (relRoles value) ↔ role ∈ relRoles value :=
      fun _ => mem_textSet
    have hidem : textSet (textSet (relRoles value)) = textSet (relRoles value) :=
      textSet_eq_iff.mpr fun _ => mem_textSet
    generalize textSet (relRoles value) = sorted at hroles hset hidem ⊢
    match sorted, hroles, hidem with
    | [], _, _ =>
      obtain ⟨role, hrole⟩ := List.exists_mem_of_ne_nil _ hne
      exact absurd ((hset role).mpr hrole) (by simp)
    | first :: second :: rest, hroles, hidem =>
      rw [relRoles_joined hroles, hidem]
      simp
    | [role], hroles, _ =>
      have hrole := hroles role (by simp)
      obtain ⟨words, hwordsNe, hwords, htext⟩ := hrole.words
      have hspace : ∀ w ∈ words, ' ' ∉ w := fun w hw hin =>
        absurd ((hwords w hw).2 ' ' hin) (by decide)
      rw [show joinWith ", " [role] = role from rfl, relRoles_single hrole hwords htext]
      match words, hwordsNe, hspace, htext with
      | [word], _, hspace, htext =>
        have hword : role.toList = word := htext
        have hone : [word].map String.ofList = [role] := by
          rw [← hword, List.map_singleton, String.ofList_toList]
        rw [hone]
        refine ⟨fun _ ⟨other, hother, hin⟩ => ?_, fun _ => rfl⟩
        rw [← List.singleton_inj.mp hother, hword] at hin
        exact hspace word (by simp) hin
      | word :: next :: words, _, hspace, htext =>
        have hin : ' ' ∈ role.toList := by
          rw [htext]
          simp [Text.join]
        refine ⟨fun h => ?_, fun h => absurd ⟨role, rfl, hin⟩ h⟩
        have hfirst : String.ofList word ∈ [role] := by
          rw [← h]
          simp
        rw [List.mem_singleton] at hfirst
        rw [← hfirst, String.toList_ofList] at hin
        exact absurd hin (hspace word (by simp))

end Stophammer
