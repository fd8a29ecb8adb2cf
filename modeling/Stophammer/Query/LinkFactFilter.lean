import Stophammer.Operator
import Stophammer.Query.ArtistNames
import Stophammer.Sample

/-!
# The filters on link facts

The filters of a list of publisher feeds, and what the readers of a normalized value see:
the roles, but for a value that states one role of two words.
-/

namespace Stophammer

/-- The two filters of `GET /v1/feeds/recent`. -/
structure LinkFactFilter where
  statedRel : Option String
  noTwoWayLinks : Bool

namespace LinkFactFilter

/-- `None` when the request names no filter. -/
def fromParams (statedRel twoWayLinks : Option String) (medium : String) :
    Except ApiError (Option LinkFactFilter) :=
  if statedRel.isNone && twoWayLinks.isNone then .ok none
  else if medium != "publisher" then
    .error (badRequest
      "stated_rel and two_way_links need medium=publisher (ADR 0068 section 4)")
  else if statedRel.any String.isEmpty then
    .error (badRequest "stated_rel must not be empty")
  else if twoWayLinks.any (· != "none") then
    .error (badRequest "two_way_links accepts only none")
  else
    match statedRel.map relTokens with
    | none => .ok (some { statedRel := none, noTwoWayLinks := twoWayLinks.isSome })
    | some [token] => .ok (some { statedRel := some token, noTwoWayLinks := twoWayLinks.isSome })
    | some _ => .error (badRequest "stated_rel must be one role token")

def keeps (filter : LinkFactFilter) (facts : LinkFacts) : Bool :=
  filter.statedRel.all (fun rel => facts.statedRels.contains rel) &&
    (!filter.noTwoWayLinks || facts.twoWayLinkCount == 0)

end LinkFactFilter

/-- The roles that the value states. -/
def roleSet (value : String) : Set String := { role | role ∈ relRoles value }

/-- A publisher feed that the node holds names the release with this role, and the release
names it with the same one. -/
structure HeldLink (row : PublisherResponse) (value : String) : Prop where
  direction : row.direction = .musicToPublisher
  held : row.remoteFeedTitle.isSome
  agreement : row.roleAgreement = some .both
  role : row.role = normalizeRel value

/-- Each reader of the value sees its roles. -/
structure ReadsRoles [Platform] (value : String) : Prop where
  normal : ∀ other, normalizeRel value = normalizeRel other ↔ roleSet value = roleSet other
  tokens : { role | role ∈ relTokens value } = roleSet value
  again : { role | role ∈ rereadTokens value } = roleSet value
  nameLevel : ∀ row rows, HeldLink row value →
    (isNameLevelRelease (row :: rows) = true ↔
      "artist" ∉ roleSet value ∧ isNameLevelRelease rows = true)
  filter : ∀ filter, LinkFactFilter.fromParams (some value) none "publisher" = .ok (some filter) →
    ∃ token, roleSet value = {token} ∧ ∀ rows, filter.keeps (linkFacts rows) = true ↔
      ∃ row ∈ rows, row.direction = .publisherToMusic ∧ isConfirmedLink row = true ∧
        ∃ rel, row.publisherRel = some rel ∧ token ∈ roleSet rel

theorem mem_relTokens {value role : String} : role ∈ relTokens value ↔ role ∈ roleSet value := by
  rw [relTokens_eq, mem_textSet]
  rfl

theorem roleSet_eq_iff {value other : String} :
    roleSet value = roleSet other ↔ ∀ role, role ∈ relRoles value ↔ role ∈ relRoles other :=
  Set.ext_iff

section

variable [Platform]

theorem mem_statedRels {rows : List PublisherResponse} {token : String} :
    token ∈ (linkFacts rows).statedRels ↔
      ∃ row ∈ rows, row.direction = .publisherToMusic ∧ isConfirmedLink row = true ∧
        ∃ rel, row.publisherRel = some rel ∧ token ∈ roleSet rel := by
  simp only [linkFacts, mem_textSet, List.mem_flatMap, List.mem_filterMap, List.mem_filter,
    Bool.and_eq_true, beq_iff_eq, mem_relTokens]
  constructor
  · rintro ⟨rel, ⟨row, ⟨hrow, hdirection, hconfirmed⟩, hrel⟩, htoken⟩
    exact ⟨row, hrow, hdirection, hconfirmed, rel, hrel, htoken⟩
  · rintro ⟨row, hrow, hdirection, hconfirmed, rel, hrel, htoken⟩
    exact ⟨rel, ⟨row, ⟨hrow, hdirection, hconfirmed⟩, hrel⟩, htoken⟩

theorem fromParams_keeps {value : String} {filter : LinkFactFilter}
    (h : LinkFactFilter.fromParams (some value) none "publisher" = .ok (some filter)) :
    ∃ token, roleSet value = {token} ∧ ∀ rows, filter.keeps (linkFacts rows) = true ↔
      ∃ row ∈ rows, row.direction = .publisherToMusic ∧ isConfirmedLink row = true ∧
        ∃ rel, row.publisherRel = some rel ∧ token ∈ roleSet rel := by
  simp only [LinkFactFilter.fromParams, Option.isNone_some, Bool.false_and, Bool.false_eq_true,
    if_false, bne_self_eq_false, Option.any_none, Option.map_some] at h
  split at h
  · cases h
  · split at h
    · rename_i hnone
      cases hnone
    · rename_i token htokens
      rw [Except.ok.injEq, Option.some.injEq] at h
      subst h
      refine ⟨token, ?_, fun rows => ?_⟩
      · ext role
        rw [← mem_relTokens, Option.some.inj htokens, List.mem_singleton, Set.mem_singleton_iff]
      · rw [← mem_statedRels]
        simp [LinkFactFilter.keeps]
    · cases h

omit [Platform] in
theorem isNameLevelRelease_held {row : PublisherResponse} {value : String}
    (hrow : HeldLink row value) (rows : List PublisherResponse) :
    isNameLevelRelease (row :: rows) = true ↔
      "artist" ∉ rereadTokens value ∧ isNameLevelRelease rows = true := by
  have htokens : ((row.role.map relTokens).getD []).all (fun token => token != "artist") = true ↔
      "artist" ∉ rereadTokens value := by
    rw [hrow.role, List.all_eq_true]
    constructor
    · intro h hin
      exact absurd rfl (bne_iff_ne.mp (h "artist" hin))
    · rintro h token htoken
      rw [bne_iff_ne]
      rintro rfl
      exact h htoken
  unfold isNameLevelRelease
  rw [List.filter_cons_of_pos (by simp [hrow.direction, hrow.held]), List.all_cons,
    Bool.and_eq_true, Bool.and_eq_true, htokens, hrow.agreement]
  simp

/-- Every reader sees the roles of the value, unless it states one role of two words or
more. -/
theorem readsRoles_iff (value : String) : ReadsRoles value ↔ ¬ StatesOnePhrase value := by
  rw [← rereadTokens_iff]
  constructor
  · intro h
    have hsame : ∀ role, role ∈ rereadTokens value ↔ role ∈ relTokens value := by
      intro role
      rw [mem_relTokens, ← h.again]
      rfl
    unfold rereadTokens at hsame ⊢
    cases hnormal : normalizeRel value with
    | none => rw [relTokens, hnormal, Option.map_none, Option.getD_none]
    | some roles =>
      rw [hnormal, Option.map_some, Option.getD_some] at hsame
      rw [Option.map_some, Option.getD_some, relTokens_eq, relTokens_eq, textSet_eq_iff]
      simpa only [relTokens_eq, mem_textSet] using hsame
  · intro h
    have hagain : { role | role ∈ rereadTokens value } = roleSet value := by
      ext role
      rw [← mem_relTokens, ← h]
      rfl
    exact
      { normal := fun other => by rw [normalizeRel_eq_iff, roleSet_eq_iff]
        tokens := by
          ext role
          exact mem_relTokens
        again := hagain
        nameLevel := fun row rows hrow => by
          rw [isNameLevelRelease_held hrow, ← hagain]
          rfl
        filter := fun filter => fromParams_keeps }

end

section Sample

attribute [local instance] samplePlatform

/-- The two sides of a link state the role of an artist manager, in a list of one. -/
theorem artistManager_readAgain :
    ¬ ReadsRoles "Artist Manager," ∧ relTokens "Artist Manager," = ["artist manager"] ∧
      rereadTokens "Artist Manager," = ["artist", "manager"] := by
  refine ⟨fun h => ?_, by decide +kernel, by decide +kernel⟩
  have hin : "artist" ∈ rereadTokens "Artist Manager," := by decide +kernel
  have hout : "artist" ∉ relTokens "Artist Manager," := by decide +kernel
  have hrole : "artist" ∈ roleSet "Artist Manager," := by
    rw [← h.again]
    exact hin
  exact hout (mem_relTokens.mpr hrole)

end Sample

end Stophammer
