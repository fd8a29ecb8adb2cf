import Stophammer.Db.Removed
import Stophammer.ItemColumns

/-!
# Deletes of feeds and tracks

A delete should take every row of its feed or of its track and no row of another feed.  A delete
of a track leaves what the source claims about it.
-/

namespace Stophammer

open Relational Statement

/-- The entity of the index is the feed, its publisher entry or one of its tracks. -/
def IndexEntityOf (feedGuid entityType entityId : String) : Prop :=
  (entityType = "feed" ∨ entityType = "publisher") ∧ entityId = feedGuid ∨
    entityType = "track" ∧ ∃ trackGuid, entityId = canonicalTrackEntityId feedGuid trackGuid

/-- The rows of the index and the scores of a feed and of its tracks. -/
def IsReadModelRow (feedGuid : String) (d : Db) : (t : Table) → t.Row → Prop
  | .searchEntities, r => IndexEntityOf feedGuid r.entityType r.entityId
  | .searchIndex, r => ∃ entity ∈ d .searchEntities, entity.rowid = r.rowid ∧
      IndexEntityOf feedGuid entity.entityType entity.entityId
  | .entityQuality, r => r.entityType = "feed" ∧ r.entityId = feedGuid ∨
      r.entityType = "track" ∧ ∃ trackGuid, r.entityId = canonicalTrackEntityId feedGuid trackGuid
  | _, _ => False

/-- The row names a track by its GUID alone. -/
def IsBareRow (trackGuid : String) : (t : Table) → t.Row → Prop
  | .valueTimeSplits, r => r.sourceTrackGuid = trackGuid ∧ r.sourceFeedGuid = none
  | .trackRemoteItemsRaw, r => r.trackGuid = trackGuid ∧ r.feedGuid = none
  | .entityQuality, r => r.entityType = "track" ∧ r.entityId = trackGuid
  | _, _ => False

def trackGuidsOf (d : Db) (feedGuid : String) : List String :=
  (getTracksForFeed d feedGuid).map Track.trackGuid

/-- A row of the feed: it names the feed, it is one of its read models, or it names a track of
the feed by the GUID of the track alone. -/
def IsFeedRow (feedGuid : String) (d : Db) (t : Table) (r : t.Row) : Prop :=
  ofFeed feedGuid t r = true ∨ IsReadModelRow feedGuid d t r ∨
    ∃ trackGuid ∈ trackGuidsOf d feedGuid, IsBareRow trackGuid t r

def IsTrackClaim (feedGuid trackGuid : String) : (t : Table) → t.Row → Prop
  | .sourceContributorClaims, r | .sourceEntityIds, r | .sourceEntityLinks, r
  | .sourceReleaseClaims, r | .sourceItemEnclosures, r | .sourceItemTranscripts, r =>
    r.feedGuid = feedGuid ∧ r.entityType = "track" ∧ r.entityId = trackGuid
  | _, _ => False

def IsTrackEntity (feedGuid trackGuid : String) (r : SearchEntityRow) : Prop :=
  r.entityType = "track" ∧ r.entityId = canonicalTrackEntityId feedGuid trackGuid

def IsTrackRow (feedGuid trackGuid : String) (d : Db) (t : Table) (r : t.Row) : Prop :=
  trackRows feedGuid trackGuid t r = true ∨
    match t, r with
    | .tracks, r => r.feedGuid = feedGuid ∧ r.trackGuid = trackGuid
    | .searchEntities, r => IsTrackEntity feedGuid trackGuid r
    | .searchIndex, r => ∃ entity ∈ d .searchEntities, entity.rowid = r.rowid ∧
        IsTrackEntity feedGuid trackGuid entity
    | _, _ => False

section

variable [Platform]

/-- The delete of the feed works, it takes every row of the feed and no row of another feed, and a
second delete changes nothing. -/
structure DeletesFeed (d : Db) (feedGuid : String) (e : Db) : Prop where
  runs : deleteFeedSql feedGuid d = (.ok (), e)
  gone : ∀ t, ∀ r ∈ e t, ¬ IsFeedRow feedGuid d t r
  others : ∀ guid, guid ≠ feedGuid → Unchanged (S := schema) (IsFeedRow guid d) d e
  again : deleteFeedSql feedGuid e = (.ok (), e)

/-- The same for a track and all that belongs to it: every other row of its feed stays, too. -/
structure DeletesTrack (d : Db) (feedGuid trackGuid : String) (e : Db) : Prop where
  runs : deleteTrackSql feedGuid trackGuid d = (.ok (), e)
  gone : ∀ t, ∀ r ∈ e t, ¬ (IsTrackRow feedGuid trackGuid d t r ∨ IsTrackClaim feedGuid trackGuid t r)
  others : ∀ guid, guid ≠ feedGuid → Unchanged (S := schema) (IsFeedRow guid d) d e
  rest : Unchanged (S := schema) (fun t r => IsFeedRow feedGuid d t r ∧
    ¬ (IsTrackRow feedGuid trackGuid d t r ∨ IsTrackClaim feedGuid trackGuid t r)) d e
  again : deleteTrackSql feedGuid trackGuid e = (.ok (), e)

/-- The score with this id is one of the track. -/
def ScoreOf (feedGuid trackGuid entityId : String) : Prop :=
  entityId = canonicalTrackEntityId feedGuid trackGuid ∨ entityId = trackGuid

/-- A track that leaves shares no row and no rowid with another feed: the rows with its bare GUID
and its scores are not those of a track of another feed. -/
structure TrackApart (d : Db) (feedGuid trackGuid : String) : Prop where
  bare : ∀ t, t = .valueTimeSplits ∨ t = .trackRemoteItemsRaw → ∀ r ∈ d t, IsBareRow trackGuid t r →
    ∀ guid, guid ≠ feedGuid → trackGuid ∉ trackGuidsOf d guid
  scores : ∀ r ∈ d .entityQuality, r.entityType = "track" → ScoreOf feedGuid trackGuid r.entityId →
    ∀ guid, guid ≠ feedGuid → (∀ other, r.entityId ≠ canonicalTrackEntityId guid other) ∧
      r.entityId ∉ trackGuidsOf d guid

/-- No entity of another feed is at one of these rowids. -/
def IndexApart (d : Db) (feedGuid : String) (rowids : List Int) : Prop :=
  ∀ r ∈ d .searchEntities, r.rowid ∈ rowids → ∀ guid, guid ≠ feedGuid →
    ¬ IndexEntityOf guid r.entityType r.entityId

structure FeedDeletable (d : Db) (feedGuid : String) : Prop where
  /-- The index holds the feed and its stored tracks only, each at its own rowid. -/
  indexed : ∀ r ∈ d .searchEntities, IndexEntityOf feedGuid r.entityType r.entityId →
    r.rowid ∈ indexRowids d feedGuid
  /-- Each score of a track of the feed is one of a stored track. -/
  scored : ∀ r ∈ d .entityQuality, r.entityType = "track" →
    (∃ trackGuid, r.entityId = canonicalTrackEntityId feedGuid trackGuid) →
      ∃ trackGuid ∈ trackGuidsOf d feedGuid, ScoreOf feedGuid trackGuid r.entityId
  index : IndexApart d feedGuid (indexRowids d feedGuid)
  tracks : ∀ trackGuid ∈ trackGuidsOf d feedGuid, TrackApart d feedGuid trackGuid

structure TrackDeletable (d : Db) (feedGuid trackGuid : String) : Prop where
  /-- The source claims nothing about the track. -/
  unclaimed : ∀ t, ∀ r ∈ d t, ¬ IsTrackClaim feedGuid trackGuid t r
  indexed : ∀ r ∈ d .searchEntities, IsTrackEntity feedGuid trackGuid r →
    r.rowid = rowidFor "track" (canonicalTrackEntityId feedGuid trackGuid)
  /-- No other entity of the feed is at the rowid of the track. -/
  alone : ∀ r ∈ d .searchEntities,
    r.rowid = rowidFor "track" (canonicalTrackEntityId feedGuid trackGuid) →
      IndexEntityOf feedGuid r.entityType r.entityId → IsTrackEntity feedGuid trackGuid r
  index : IndexApart d feedGuid [rowidFor "track" (canonicalTrackEntityId feedGuid trackGuid)]
  track : TrackApart d feedGuid trackGuid

variable {d e : Db} {feedGuid trackGuid : String}

omit [Platform] in
theorem bareRows_iff {t : Table} {r : t.Row} :
    bareRows feedGuid trackGuid t r = true ↔ IsBareRow trackGuid t r ∨
      match t, r with
      | .entityQuality, r => r.entityType = "track" ∧
          r.entityId = canonicalTrackEntityId feedGuid trackGuid
      | _, _ => False := by
  cases t with
  | entityQuality =>
    simp only [bareRows, IsBareRow, Bool.and_eq_true, Bool.or_eq_true, beq_iff_eq]
    rw [or_comm, and_or_left]
  | _ => simp [bareRows, IsBareRow]

omit [Platform] in
theorem hasEntityAt_of_mem {r : SearchEntityRow} (hr : r ∈ d .searchEntities) {rowid : Int}
    (hsame : r.rowid = rowid) : hasEntityAt d rowid = true :=
  List.any_eq_true.mpr ⟨r, hr, beq_iff_eq.mpr hsame⟩

theorem feedTakes_iff {t : Table} {r : t.Row} :
    feedTakes feedGuid d t r = true ↔ indexTakes (indexRowids d feedGuid) d t r = true ∨
      ofFeed feedGuid t r = true ∨
        onTable (S := schema) .entityQuality (feedQualityRow feedGuid) t r = true ∨
          ∃ trackGuid ∈ trackGuidsOf d feedGuid, bareRows feedGuid trackGuid t r = true := by
  rw [feedTakes, Bool.or_eq_true, Bool.or_eq_true, Bool.or_eq_true, List.any_eq_true, trackGuidsOf]

theorem trackTakes_iff {t : Table} {r : t.Row} :
    trackTakes feedGuid trackGuid d t r = true ↔
      indexTakes [rowidFor "track" (canonicalTrackEntityId feedGuid trackGuid)] d t r = true ∨
        trackRows feedGuid trackGuid t r = true ∨
          onTable (S := schema) .tracks
            (fun r : Track => r.feedGuid == feedGuid && r.trackGuid == trackGuid) t r = true := by
  rw [trackTakes, Bool.or_eq_true, Bool.or_eq_true]

omit [Platform] in
theorem indexTakes_mono {rowids others : List Int} (hrowids : rowids ⊆ others)
    (hsub : ∀ t, ∀ r ∈ e t, r ∈ d t) {t : Table} {r : t.Row}
    (h : indexTakes rowids e t r = true) : indexTakes others d t r = true := by
  have hcontains : ∀ rowid, rowids.contains rowid = true → others.contains rowid = true := by
    intro rowid hrowid
    rw [List.contains_iff_mem] at hrowid ⊢
    exact hrowids hrowid
  cases t with
  | searchEntities => exact hcontains _ h
  | searchIndex =>
    rw [indexTakes, Bool.and_eq_true] at h ⊢
    refine ⟨hcontains _ h.1, ?_⟩
    obtain ⟨entity, hentity, hsame⟩ := List.any_eq_true.mp h.2
    exact hasEntityAt_of_mem (hsub .searchEntities entity hentity) (beq_iff_eq.mp hsame)
  | _ => cases h

omit [Platform] in
theorem trackGuidsOf_mono (hsub : ∀ t, ∀ r ∈ e t, r ∈ d t) :
    trackGuidsOf e feedGuid ⊆ trackGuidsOf d feedGuid := by
  intro trackGuid h
  obtain ⟨track, htrack, rfl⟩ := List.mem_map.mp h
  obtain ⟨hmem, hguid⟩ := List.mem_filter.mp htrack
  exact List.mem_map_of_mem (List.mem_filter.mpr ⟨hsub .tracks track hmem, hguid⟩)

theorem deleteFeedSql_again (h : Without (S := schema) (feedTakes feedGuid d) d e) :
    deleteFeedSql feedGuid e = (.ok (), e) := by
  obtain ⟨_, e', hrun⟩ := deleteFeedSql_ends feedGuid e
  have hsub : ∀ t, ∀ r ∈ e t, r ∈ d t := fun t r hr => (h.mem.mp hr).1
  have hsame : e' = e := by
    apply (deleteFeedSql_without hrun).eq_of_none
    intro t r hr
    refine (Bool.not_eq_true _).mp fun htaken => ?_
    have hkept := (h.mem.mp hr).2
    have htaken' : feedTakes feedGuid d t r = true := by
      rw [feedTakes_iff] at htaken ⊢
      rcases htaken with hindex | hfeed | hscore | ⟨trackGuid, htrack, hbare⟩
      · refine .inl (indexTakes_mono ?_ hsub hindex)
        apply List.cons_subset_cons
        apply List.cons_subset_cons
        exact List.map_subset _ (trackGuidsOf_mono hsub)
      · exact .inr (.inl hfeed)
      · exact .inr (.inr (.inl hscore))
      · exact .inr (.inr (.inr ⟨trackGuid, trackGuidsOf_mono hsub htrack, hbare⟩))
    rw [hkept] at htaken'
    cases htaken'
  rw [hrun, hsame]

theorem deleteTrackSql_ends (feedGuid trackGuid : String) :
    Ends (deleteTrackSql feedGuid trackGuid) := by
  apply deleteFromSearchIndex_ends.bind
  intro _
  iterate 4
    apply (ends_delete (by decide)).bind
    intro _
  exact deleteTracks_ends

theorem deleteTrackSql_again (h : Without (S := schema) (trackTakes feedGuid trackGuid d) d e) :
    deleteTrackSql feedGuid trackGuid e = (.ok (), e) := by
  obtain ⟨_, e', hrun⟩ := deleteTrackSql_ends feedGuid trackGuid e
  have hsub : ∀ t, ∀ r ∈ e t, r ∈ d t := fun t r hr => (h.mem.mp hr).1
  have hsame : e' = e := by
    apply (deleteTrackSql_without hrun).eq_of_none
    intro t r hr
    refine (Bool.not_eq_true _).mp fun htaken => ?_
    have hkept := (h.mem.mp hr).2
    have htaken' : trackTakes feedGuid trackGuid d t r = true := by
      rw [trackTakes_iff] at htaken ⊢
      exact htaken.imp_left (indexTakes_mono (List.Subset.refl _) hsub)
    rw [hkept] at htaken'
    cases htaken'
  rw [hrun, hsame]

theorem feedTakes_of_isFeedRow (h : FeedDeletable d feedGuid) {t : Table} {r : t.Row} (hr : r ∈ d t)
    (hrow : IsFeedRow feedGuid d t r) : feedTakes feedGuid d t r = true := by
  rw [feedTakes_iff]
  rcases hrow with hfeed | hmodel | ⟨trackGuid, htrack, hbare⟩
  · exact .inr (.inl hfeed)
  · cases t with
    | searchEntities =>
      exact .inl (List.contains_iff_mem.mpr (h.indexed r hr hmodel))
    | searchIndex =>
      obtain ⟨entity, hentity, hsame, hof⟩ := hmodel
      have hmem := h.indexed entity hentity hof
      rw [hsame] at hmem
      left
      rw [indexTakes, Bool.and_eq_true]
      exact ⟨List.contains_iff_mem.mpr hmem, hasEntityAt_of_mem hentity hsame⟩
    | entityQuality =>
      rcases hmodel with ⟨htype, hid⟩ | ⟨htype, hid⟩
      · exact .inr (.inr (.inl (by simp [feedQualityRow, htype, hid])))
      · obtain ⟨trackGuid, htrack, hscore⟩ := h.scored r hr htype hid
        refine .inr (.inr (.inr ⟨trackGuid, htrack, ?_⟩))
        simpa [bareRows, htype, ScoreOf] using hscore
    | _ => exact hmodel.elim
  · exact .inr (.inr (.inr ⟨trackGuid, htrack, bareRows_iff.mpr (.inl hbare)⟩))

omit [Platform] in
theorem indexTakes_apart {rowids : List Int} (h : IndexApart d feedGuid rowids) {guid : String}
    (hne : guid ≠ feedGuid) {t : Table} {r : t.Row} (hr : r ∈ d t)
    (hrow : IsReadModelRow guid d t r) : indexTakes rowids d t r = false := by
  refine (Bool.not_eq_true _).mp fun hindex => ?_
  cases t with
  | searchEntities => exact h r hr (List.contains_iff_mem.mp hindex) guid hne hrow
  | searchIndex =>
    obtain ⟨entity, hentity, hsame, hof⟩ := hrow
    rw [indexTakes, Bool.and_eq_true] at hindex
    refine h entity hentity ?_ guid hne hof
    rw [hsame]
    exact List.contains_iff_mem.mp hindex.1
  | _ => cases hindex

omit [Platform] in
theorem indexTakes_isFeedRow {rowids : List Int} (h : IndexApart d feedGuid rowids) {guid : String}
    (hne : guid ≠ feedGuid) {t : Table} {r : t.Row} (hr : r ∈ d t) (hrow : IsFeedRow guid d t r) :
    indexTakes rowids d t r = false := by
  rcases hrow with hfeed | hmodel | ⟨_, -, hbare⟩
  · cases t with
    | searchEntities | searchIndex => cases hfeed
    | _ => rfl
  · exact indexTakes_apart h hne hr hmodel
  · cases t with
    | searchEntities | searchIndex => exact hbare.elim
    | _ => rfl

omit [Platform] in
theorem ofFeed_isFeedRow {guid : String} (hne : guid ≠ feedGuid) {t : Table} {r : t.Row}
    (hfeed : ofFeed feedGuid t r = true) : ¬ IsFeedRow guid d t r := by
  have hguid : t.feedOf r = some feedGuid := beq_iff_eq.mp hfeed
  rintro (hother | hmodel | ⟨trackGuid, -, hbare⟩)
  · exact hne (Option.some.inj ((beq_iff_eq.mp hother).symm.trans hguid))
  · cases t with
    | searchEntities | searchIndex | entityQuality => cases hguid
    | _ => exact hmodel
  · cases t with
    | valueTimeSplits | trackRemoteItemsRaw =>
      rw [Table.feedOf, hbare.2] at hguid
      cases hguid
    | entityQuality => cases hguid
    | _ => exact hbare

omit [Platform] in
theorem feedScore_isFeedRow {guid : String} (hne : guid ≠ feedGuid) {t : Table} {r : t.Row}
    (hscore : onTable (S := schema) .entityQuality (feedQualityRow feedGuid) t r = true) :
    ¬ IsFeedRow guid d t r := by
  cases t with
  | entityQuality =>
    simp only [onTable_same, feedQualityRow, Bool.and_eq_true, beq_iff_eq] at hscore
    rintro (hother | (⟨-, hid⟩ | ⟨htype, -⟩) | ⟨_, -, htype, -⟩)
    · cases hother
    · exact hne (hid.symm.trans hscore.2)
    · exact absurd (hscore.1.symm.trans htype) (by decide)
    · exact absurd (hscore.1.symm.trans htype) (by decide)
  | _ => simp at hscore

omit [Platform] in
theorem bareRows_apart (h : TrackApart d feedGuid trackGuid) {guid : String} (hne : guid ≠ feedGuid)
    {t : Table} {r : t.Row} (hr : r ∈ d t) (hrow : IsFeedRow guid d t r) :
    bareRows feedGuid trackGuid t r = false := by
  refine (Bool.not_eq_true _).mp fun hbare => ?_
  cases t with
  | valueTimeSplits =>
    have hthis : IsBareRow trackGuid .valueTimeSplits r := (bareRows_iff.mp hbare).resolve_right id
    rcases hrow with hfeed | hmodel | ⟨other, hother, hbare'⟩
    · rw [ofFeed, Table.feedOf, hthis.2] at hfeed
      cases hfeed
    · exact hmodel
    · have hsame : other = trackGuid := hbare'.1.symm.trans hthis.1
      exact h.bare _ (.inl rfl) r hr hthis guid hne (hsame ▸ hother)
  | trackRemoteItemsRaw =>
    have hthis : IsBareRow trackGuid .trackRemoteItemsRaw r :=
      (bareRows_iff.mp hbare).resolve_right id
    rcases hrow with hfeed | hmodel | ⟨other, hother, hbare'⟩
    · rw [ofFeed, Table.feedOf, hthis.2] at hfeed
      cases hfeed
    · exact hmodel
    · have hsame : other = trackGuid := hbare'.1.symm.trans hthis.1
      exact h.bare _ (.inr rfl) r hr hthis guid hne (hsame ▸ hother)
  | entityQuality =>
    simp only [bareRows, Bool.and_eq_true, Bool.or_eq_true, beq_iff_eq] at hbare
    obtain ⟨hcanonical, hshort⟩ := h.scores r hr hbare.1 hbare.2 guid hne
    rcases hrow with hfeed | (⟨htype, -⟩ | ⟨-, other, hid⟩) | ⟨other, hother, -, hid⟩
    · cases hfeed
    · exact absurd (hbare.1.symm.trans htype) (by decide)
    · exact hcanonical other hid
    · exact hshort (hid ▸ hother)
  | _ => cases hbare

theorem feedTakes_apart (h : FeedDeletable d feedGuid) {guid : String} (hne : guid ≠ feedGuid)
    {t : Table} {r : t.Row} (hr : r ∈ d t) (hrow : IsFeedRow guid d t r) :
    feedTakes feedGuid d t r = false := by
  refine (Bool.not_eq_true _).mp fun htaken => ?_
  rw [feedTakes_iff] at htaken
  rcases htaken with hindex | hfeed | hscore | ⟨trackGuid, htrack, hbare⟩
  · rw [indexTakes_isFeedRow h.index hne hr hrow] at hindex
    cases hindex
  · exact ofFeed_isFeedRow hne hfeed hrow
  · exact feedScore_isFeedRow hne hscore hrow
  · rw [bareRows_apart (h.tracks trackGuid htrack) hne hr hrow] at hbare
    cases hbare

omit [Platform] in
theorem not_taken_apart {p : (t : Table) → t.Row → Bool}
    (hothers : ∀ guid, guid ≠ feedGuid → ∀ t, ∀ r ∈ d t, IsFeedRow guid d t r → p t r = false)
    {guid : String} (hne : guid ≠ feedGuid) {t : Table} {r : t.Row} (hr : r ∈ d t)
    (htaken : p t r = true) : ¬ IsFeedRow guid d t r := by
  intro hrow
  rw [hothers guid hne t r hr hrow] at htaken
  cases htaken

omit [Platform] in
theorem trackApart_of_taken {p : (t : Table) → t.Row → Bool}
    (hothers : ∀ guid, guid ≠ feedGuid → ∀ t, ∀ r ∈ d t, IsFeedRow guid d t r → p t r = false)
    (htakes : ∀ t (r : t.Row), bareRows feedGuid trackGuid t r = true → p t r = true) :
    TrackApart d feedGuid trackGuid where
  bare := by
    intro t ht r hr hbare guid hne htrack
    have htaken := htakes t r (bareRows_iff.mpr (.inl hbare))
    exact not_taken_apart hothers hne hr htaken (.inr (.inr ⟨trackGuid, htrack, hbare⟩))
  scores := by
    intro r hr htype hscore guid hne
    have htaken : p .entityQuality r = true :=
      htakes .entityQuality r (by simpa [bareRows, htype, ScoreOf] using hscore)
    have hnot := not_taken_apart hothers hne hr htaken
    constructor
    · exact fun other hid => hnot (.inr (.inl (.inr ⟨htype, other, hid⟩)))
    · exact fun hshort => hnot (.inr (.inr ⟨r.entityId, hshort, htype, rfl⟩))

omit [Platform] in
theorem indexApart_of_taken {p : (t : Table) → t.Row → Bool} {rowids : List Int}
    (hothers : ∀ guid, guid ≠ feedGuid → ∀ t, ∀ r ∈ d t, IsFeedRow guid d t r → p t r = false)
    (htakes : ∀ t (r : t.Row), indexTakes rowids d t r = true → p t r = true) :
    IndexApart d feedGuid rowids := by
  intro r hr hrowid guid hne hof
  have htaken : p .searchEntities r = true :=
    htakes .searchEntities r (List.contains_iff_mem.mpr hrowid)
  exact not_taken_apart hothers hne hr htaken (.inr (.inl hof))

theorem deletesFeed_iff : (∃ e, DeletesFeed d feedGuid e) ↔ FeedDeletable d feedGuid := by
  constructor
  · rintro ⟨e, hdeletes⟩
    have hwithout := deleteFeedSql_without hdeletes.runs
    have hgone := hwithout.gone_iff.mp hdeletes.gone
    have hothers := fun guid hne => hwithout.unchanged_iff.mp (hdeletes.others guid hne)
    refine ⟨?_, ?_, ?_, ?_⟩
    · intro r hr hof
      have htaken := hgone .searchEntities r hr (.inr (.inl hof))
      rw [feedTakes_iff] at htaken
      rcases htaken with hindex | hfeed | hscore | ⟨_, -, hbare⟩
      · exact List.contains_iff_mem.mp hindex
      · cases hfeed
      · simp at hscore
      · cases hbare
    · intro r hr htype hid
      have htaken := hgone .entityQuality r hr (.inr (.inl (.inr ⟨htype, hid⟩)))
      rw [feedTakes_iff] at htaken
      rcases htaken with hindex | hfeed | hscore | ⟨trackGuid, htrack, hbare⟩
      · cases hindex
      · cases hfeed
      · simp [feedQualityRow, htype] at hscore
      · exact ⟨trackGuid, htrack, by simpa [bareRows, htype, ScoreOf] using hbare⟩
    · exact indexApart_of_taken hothers fun t r hindex => feedTakes_iff.mpr (.inl hindex)
    · intro trackGuid htrack
      apply trackApart_of_taken hothers
      exact fun t r hbare => feedTakes_iff.mpr (.inr (.inr (.inr ⟨trackGuid, htrack, hbare⟩)))
  · intro h
    obtain ⟨_, e, hrun⟩ := deleteFeedSql_ends feedGuid d
    have hwithout := deleteFeedSql_without hrun
    exact ⟨e, hrun, hwithout.gone_iff.mpr fun t r hr hrow => feedTakes_of_isFeedRow h hr hrow,
      fun guid hne => hwithout.unchanged_iff.mpr fun t r hr hrow => feedTakes_apart h hne hr hrow,
      deleteFeedSql_again hwithout⟩

omit [Platform] in
theorem ofFeed_of_tracks {t : Table} {r : t.Row}
    (h : onTable (S := schema) .tracks
      (fun r : Track => r.feedGuid == feedGuid && r.trackGuid == trackGuid) t r = true) :
    ofFeed feedGuid t r = true ∧ IsTrackRow feedGuid trackGuid d t r := by
  cases t with
  | tracks =>
    simp only [onTable_same, Bool.and_eq_true, beq_iff_eq] at h
    exact ⟨by rw [ofFeed, Table.feedOf, h.1, beq_self_eq_true], .inr h⟩
  | _ => simp at h

theorem trackTakes_apart (h : TrackDeletable d feedGuid trackGuid) {guid : String}
    (hne : guid ≠ feedGuid) {t : Table} {r : t.Row} (hr : r ∈ d t) (hrow : IsFeedRow guid d t r) :
    trackTakes feedGuid trackGuid d t r = false := by
  refine (Bool.not_eq_true _).mp fun htaken => ?_
  rw [trackTakes_iff] at htaken
  rcases htaken with hindex | hset | htrack
  · rw [indexTakes_isFeedRow h.index hne hr hrow] at hindex
    cases hindex
  · rcases ofFeed_of_trackRows hset with hfeed | hbare
    · exact ofFeed_isFeedRow hne hfeed hrow
    · rw [bareRows_apart h.track hne hr hrow] at hbare
      cases hbare
  · exact ofFeed_isFeedRow hne (ofFeed_of_tracks (d := d) htrack).1 hrow

theorem trackTakes_of_isTrackRow (h : TrackDeletable d feedGuid trackGuid) {t : Table} {r : t.Row}
    (hr : r ∈ d t) (hrow : IsTrackRow feedGuid trackGuid d t r) :
    trackTakes feedGuid trackGuid d t r = true := by
  rw [trackTakes_iff]
  rcases hrow with hset | hrow
  · exact .inr (.inl hset)
  · cases t with
    | tracks => exact .inr (.inr (by simpa using hrow))
    | searchEntities =>
      exact .inl (List.contains_iff_mem.mpr (List.mem_singleton.mpr (h.indexed r hr hrow)))
    | searchIndex =>
      obtain ⟨entity, hentity, hsame, hof⟩ := hrow
      have hrowid := h.indexed entity hentity hof
      rw [hsame] at hrowid
      left
      rw [indexTakes, Bool.and_eq_true]
      exact ⟨List.contains_iff_mem.mpr (List.mem_singleton.mpr hrowid),
        hasEntityAt_of_mem hentity hsame⟩
    | _ => exact hrow.elim

theorem isTrackRow_of_taken (h : TrackDeletable d feedGuid trackGuid) {t : Table} {r : t.Row}
    (hr : r ∈ d t) (hrow : IsFeedRow feedGuid d t r)
    (htaken : trackTakes feedGuid trackGuid d t r = true) :
    IsTrackRow feedGuid trackGuid d t r := by
  rw [trackTakes_iff] at htaken
  rcases htaken with hindex | hset | htrack
  · cases t with
    | searchEntities =>
      have hrowid := List.mem_singleton.mp (List.contains_iff_mem.mp hindex)
      rcases hrow with hfeed | hmodel | ⟨_, -, hbare⟩
      · cases hfeed
      · exact .inr (h.alone r hr hrowid hmodel)
      · exact hbare.elim
    | searchIndex =>
      rw [indexTakes, Bool.and_eq_true] at hindex
      have hrowid := List.mem_singleton.mp (List.contains_iff_mem.mp hindex.1)
      rcases hrow with hfeed | ⟨entity, hentity, hsame, hof⟩ | ⟨_, -, hbare⟩
      · cases hfeed
      · exact .inr ⟨entity, hentity, hsame, h.alone entity hentity (hsame.trans hrowid) hof⟩
      · exact hbare.elim
    | _ => cases hindex
  · exact .inl hset
  · exact (ofFeed_of_tracks htrack).2

theorem trackTakes_claim {t : Table} {r : t.Row} (h : IsTrackClaim feedGuid trackGuid t r) :
    trackTakes feedGuid trackGuid d t r = false := by
  cases t with
  | sourceContributorClaims | sourceEntityIds | sourceEntityLinks | sourceReleaseClaims
  | sourceItemEnclosures | sourceItemTranscripts => simp [trackTakes, indexTakes, trackRows]
  | _ => exact h.elim

theorem deletesTrack_iff :
    (∃ e, DeletesTrack d feedGuid trackGuid e) ↔ TrackDeletable d feedGuid trackGuid := by
  constructor
  · rintro ⟨e, hdeletes⟩
    have hwithout := deleteTrackSql_without hdeletes.runs
    have hgone := hwithout.gone_iff.mp hdeletes.gone
    have hothers := fun guid hne => hwithout.unchanged_iff.mp (hdeletes.others guid hne)
    have hrest := hwithout.unchanged_iff.mp hdeletes.rest
    refine ⟨?_, ?_, ?_, ?_, ?_⟩
    · intro t r hr hclaim
      have htaken := hgone t r hr (.inr hclaim)
      rw [trackTakes_claim hclaim] at htaken
      cases htaken
    · intro r hr hentity
      have htaken := hgone .searchEntities r hr (.inl (.inr hentity))
      rw [trackTakes_iff] at htaken
      rcases htaken with hindex | hset | htrack
      · exact List.mem_singleton.mp (List.contains_iff_mem.mp hindex)
      · cases hset
      · simp at htrack
    · intro r hr hrowid hof
      by_contra hnot
      have hkept := hrest .searchEntities r hr ⟨.inr (.inl hof), ?_⟩
      · have htaken : trackTakes feedGuid trackGuid d .searchEntities r = true :=
          trackTakes_iff.mpr (.inl (List.contains_iff_mem.mpr (List.mem_singleton.mpr hrowid)))
        rw [hkept] at htaken
        cases htaken
      · rintro ((hset | hentity) | hclaim)
        · cases hset
        · exact hnot hentity
        · exact hclaim
    · exact indexApart_of_taken hothers fun t r hindex => trackTakes_iff.mpr (.inl hindex)
    · apply trackApart_of_taken hothers
      intro t r hbare
      refine trackTakes_iff.mpr (.inr (.inl ?_))
      cases t with
      | valueTimeSplits | trackRemoteItemsRaw =>
        simp only [bareRows, Bool.and_eq_true, beq_iff_eq] at hbare
        simp [trackRows, isSplitOf, isTrackRemoteItemOf, hbare.1, hbare.2]
      | entityQuality => exact hbare
      | _ => cases hbare
  · intro h
    obtain ⟨_, e, hrun⟩ := deleteTrackSql_ends feedGuid trackGuid d
    have hwithout := deleteTrackSql_without hrun
    refine ⟨e, hrun, hwithout.gone_iff.mpr ?_, fun guid hne => hwithout.unchanged_iff.mpr ?_,
      hwithout.unchanged_iff.mpr ?_, deleteTrackSql_again hwithout⟩
    · rintro t r hr (hrow | hclaim)
      · exact trackTakes_of_isTrackRow h hr hrow
      · exact (h.unclaimed t r hr hclaim).elim
    · exact fun t r hr hrow => trackTakes_apart h hne hr hrow
    · rintro t r hr ⟨hrow, hnot⟩
      exact (Bool.not_eq_true _).mp fun htaken => hnot (.inl (isTrackRow_of_taken h hr hrow htaken))

/-- From any state, the delete of a feed and the delete of a track are clean exactly when the index
and the scores hold nothing else of the feed or at its rowids, no bare row is shared with another
feed, and the source claims nothing about the track. -/
theorem deletes_clean_iff (d : Db) (feedGuid trackGuid : String) :
    ((∃ e, DeletesFeed d feedGuid e) ∧ ∃ e, DeletesTrack d feedGuid trackGuid e) ↔
      FeedDeletable d feedGuid ∧ TrackDeletable d feedGuid trackGuid :=
  and_congr deletesFeed_iff deletesTrack_iff

end

section Sample

attribute [local instance] itemPlatform

theorem twoItemDb_claim :
    ∃ r ∈ twoItemDb .sourceReleaseClaims,
      r.feedGuid = "f1" ∧ r.entityType = "track" ∧ r.entityId = "t1" := by
  decide +kernel

/-- The delete of a track leaves what the source claimed about it. -/
theorem twoItemDb_deletes :
    ¬ ∀ (d : Db) (feedGuid trackGuid : String),
        (∃ e, DeletesFeed d feedGuid e) ∧ ∃ e, DeletesTrack d feedGuid trackGuid e := by
  intro hall
  obtain ⟨r, hr, hclaim⟩ := twoItemDb_claim
  have hdeletable := deletesTrack_iff.mp (hall twoItemDb "f1" "t1").2
  exact hdeletable.unclaimed .sourceReleaseClaims r hr hclaim

end Sample

end Stophammer
