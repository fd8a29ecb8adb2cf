import Stophammer.Db.Delete
import Stophammer.Relational.Frame

/-!
# The rows of a feed

The feed that a row names, and the statements that leave the rows of every other feed.
-/

namespace Stophammer

open Relational Statement

/-- The feed of a row.  An old row of a track can name none, and a row of another table has
no feed. -/
def Table.feedOf : (t : Table) → t.Row → Option String
  | .feeds, r => some r.feed.feedGuid
  | .tracks, r => some r.feedGuid
  | .paymentRoutes, r => some r.feedGuid
  | .feedPaymentRoutes, r => some r.feedGuid
  | .feedListValueRaw, r => some r.feedGuid
  | .valueTimeSplits, r => r.sourceFeedGuid
  | .feedRemoteItemsRaw, r => some r.feedGuid
  | .trackRemoteItemsRaw, r => r.feedGuid
  | .liveEvents, r => some r.feedGuid
  | .sourceContributorClaims, r => some r.feedGuid
  | .sourceEntityIds, r => some r.feedGuid
  | .sourceEntityLinks, r => some r.feedGuid
  | .sourceReleaseClaims, r => some r.feedGuid
  | .sourceItemEnclosures, r => some r.feedGuid
  | .sourceItemTranscripts, r => some r.feedGuid
  | .sourcePlatformClaims, r => some r.feedGuid
  | .feedCopies, r => some r.feedGuid
  | .sourceGoneAnswers, r => some r.feedGuid
  | .feedCopyOverflow, r => some r.feedGuid
  | .feedLeftUrls, r => some r.feedGuid
  | .feedMoveState, r => some r.feedGuid
  | .feedUrlObservations, _ | .feedBlocks, _ | .feedGuidChanges, _ | .feedGuidSupersessions, _
  | .feedCrawlCache, _ | .retiredSourceHolds, _ | .searchIndex, _ | .searchEntities, _
  | .entityQuality, _ | .events, _ | .nodeSyncState, _ | .peerNodes, _ => none

def ofFeed (feedGuid : String) (t : Table) (r : t.Row) : Bool := t.feedOf r == some feedGuid

abbrev SameFeed (feedGuid : String) (d e : Db) : Prop :=
  SameRows (S := schema) (ofFeed feedGuid) d e

variable {guid feedGuid trackGuid : String}

theorem ofFeed_of_feedOf {t : Table} {r : t.Row} (hne : guid ≠ feedGuid)
    (h : t.feedOf r = some feedGuid ∨ t.feedOf r = none) : ofFeed guid t r = false := by
  rw [ofFeed, beq_eq_false_iff_ne]
  rcases h with h | h
  · rw [h]
    exact fun heq => hne (Option.some.inj heq).symm
  · rw [h]
    exact (Option.some_ne_none guid).symm

theorem sameFeed_of_writes {w : List Table} {α : Type} {x : Stmt α}
    (hx : Writes (S := schema) w x)
    (hw : ∀ t ∈ w, ∀ r : t.Row, t.feedOf r = none) : Steps (SameFeed guid) x := by
  apply SameRows.of_writes hx
  intro t ht r
  rw [ofFeed, hw t ht r]
  rfl

theorem readModels_noFeed : ∀ t ∈ readModelTables, ∀ r : t.Row, t.feedOf r = none := by
  intro t ht r
  simp only [readModelTables, List.mem_cons, List.not_mem_nil, or_false] at ht
  rcases ht with rfl | rfl | rfl <;> rfl

theorem find_feed_of_mem {d : Db} {r : FeedRow} (hr : r ∈ d .feeds) :
    (d .feeds).find? (fun r' : FeedRow => r'.feed.feedGuid == r.feed.feedGuid) = some r := by
  cases hfind : (d .feeds).find? fun r' : FeedRow => r'.feed.feedGuid == r.feed.feedGuid with
  | none =>
    have hnone := List.find?_eq_none.mp hfind r hr
    simp at hnone
  | some other =>
    have hfound := List.find?_some hfind
    have hguid : other.feed.feedGuid = r.feed.feedGuid := beq_iff_eq.mp hfound
    have hkey : ∀ r' : FeedRow, Key.feed r'.feed.feedGuid ∈ schema.keys .feeds r' :=
      fun r' => List.mem_cons_self
    rw [d.eq_of_shared_key (t := .feeds) hr (List.mem_of_find?_eq_some hfind) (hkey r)
      (hguid ▸ hkey other)]

section Deletes

variable (hne : guid ≠ feedGuid)

include hne

theorem sameFeed_delete {t : Table} {p : t.Row → Bool}
    (hp : ∀ r, p r = true → t.feedOf r = some feedGuid ∨ t.feedOf r = none) :
    Steps (SameFeed guid) (delete (S := schema) t p) :=
  SameRows.delete fun r hr => ofFeed_of_feedOf hne (hp r hr)

theorem sameFeed_deleteOf {t : Table} {column : t.Row → String}
    (hcolumn : ∀ r, t.feedOf r = some (column r)) :
    Steps (SameFeed guid) (delete (S := schema) t fun r => column r == feedGuid) :=
  sameFeed_delete hne fun r hr => .inl (by rw [hcolumn, beq_iff_eq.mp hr])

theorem deleteSplitsOf_sameFeed : Steps (SameFeed guid) (deleteSplitsOf feedGuid trackGuid) := by
  apply sameFeed_delete hne
  intro s hs
  simp only [isSplitOf, Bool.and_eq_true, Bool.or_eq_true, beq_iff_eq] at hs
  exact hs.2

theorem deletePaymentRoutesOf_sameFeed :
    Steps (SameFeed guid) (deletePaymentRoutesOf feedGuid trackGuid) := by
  apply sameFeed_delete hne
  intro r hr
  simp only [Bool.and_eq_true, beq_iff_eq] at hr
  exact .inl (congrArg some hr.1)

theorem deleteTrackRemoteItemsOf_sameFeed :
    Steps (SameFeed guid) (deleteTrackRemoteItemsOf feedGuid trackGuid) := by
  apply sameFeed_delete hne
  intro r hr
  simp only [isTrackRemoteItemOf, Bool.and_eq_true, Bool.or_eq_true, beq_iff_eq] at hr
  exact hr.2

omit hne in
theorem deleteTrackQuality_sameFeed :
    Steps (SameFeed guid) (deleteTrackQuality feedGuid trackGuid) :=
  sameFeed_of_writes (w := readModelTables) (Writes.delete (by decide)) readModels_noFeed

theorem deleteTracks_sameFeed {p : Track → Bool} (hp : ∀ r, p r = true → r.feedGuid = feedGuid) :
    Steps (SameFeed guid) (deleteTracks p) := by
  apply Steps.transaction
  apply Steps.read_bind
  intro d
  refine Steps.bind (Steps.forEach fun old hold => ?_) (fun _ => ?_) d
  · have hguid : old.feedGuid = feedGuid := hp old (List.mem_filter.mp hold).2
    unfold tracksCleanupBeforeDelete
    rw [hguid]
    apply (deleteSplitsOf_sameFeed hne).bind
    intro _
    apply (deletePaymentRoutesOf_sameFeed hne).bind
    intro _
    exact (deleteTrackRemoteItemsOf_sameFeed hne).bind fun _ => deleteTrackQuality_sameFeed
  · exact sameFeed_delete hne fun r hr => .inl (congrArg some (hp r hr))

theorem deleteSourceClaims_sameFeed : Steps (SameFeed guid) (deleteSourceClaims feedGuid) := by
  iterate 6
    apply (sameFeed_deleteOf hne fun _ => rfl).bind
    intro _
  exact sameFeed_deleteOf hne fun _ => rfl

theorem deleteFeeds_sameFeed :
    Steps (SameFeed guid) (deleteFeeds fun r : FeedRow => r.feed.feedGuid == feedGuid) := by
  apply Steps.transaction
  apply Steps.read_bind
  intro d
  have hguid : ∀ old ∈ (d .feeds).filter fun r : FeedRow => r.feed.feedGuid == feedGuid,
      old.feed.feedGuid = feedGuid := fun old hold => beq_iff_eq.mp (List.mem_filter.mp hold).2
  refine Steps.bind (Steps.forEach fun old hold => ?_) (fun _ => ?_) d
  · unfold feedsCleanupBeforeDelete
    rw [hguid old hold]
    iterate 2
      apply (sameFeed_deleteOf hne fun _ => rfl).bind
      intro _
    apply (sameFeed_of_writes (w := readModelTables) (Writes.delete (by decide))
      readModels_noFeed).bind
    intro _
    iterate 2
      apply (sameFeed_deleteOf hne fun _ => rfl).bind
      intro _
    apply (deleteSourceClaims_sameFeed hne).bind
    intro _
    exact deleteTracks_sameFeed hne fun _ => beq_iff_eq.mp
  · refine Steps.bind (Steps.forEach fun old hold => ?_) fun _ =>
      sameFeed_deleteOf hne fun _ => rfl
    rw [hguid old hold]
    exact sameFeed_deleteOf hne fun _ => rfl

section

variable [Platform]

omit hne in
theorem deleteFromSearchIndex_sameFeed {entityType entityId : String} :
    Steps (SameFeed guid) (deleteFromSearchIndex entityType entityId) :=
  sameFeed_of_writes deleteFromSearchIndex_writes readModels_noFeed

theorem deleteTrackSql_sameFeed : Steps (SameFeed guid) (deleteTrackSql feedGuid trackGuid) := by
  apply deleteFromSearchIndex_sameFeed.bind
  intro _
  apply (deleteSplitsOf_sameFeed hne).bind
  intro _
  apply (deletePaymentRoutesOf_sameFeed hne).bind
  intro _
  apply deleteTrackQuality_sameFeed.bind
  intro _
  apply (deleteTrackRemoteItemsOf_sameFeed hne).bind
  intro _
  apply deleteTracks_sameFeed hne
  intro r hr
  simp only [Bool.and_eq_true, beq_iff_eq] at hr
  exact hr.1

theorem deleteFeedSql_sameFeed : Steps (SameFeed guid) (deleteFeedSql feedGuid) := by
  apply Steps.read_then
  intro trackGuids
  iterate 2
    apply deleteFromSearchIndex_sameFeed.bind
    intro _
  apply (Steps.forEach fun _ _ => deleteFromSearchIndex_sameFeed).bind
  intro _
  have hnamed : ∀ {t : Table}, Steps (SameFeed guid)
      (delete (S := schema) t fun r => t.feedOf r == some feedGuid) :=
    sameFeed_delete hne fun r hr => .inl (beq_iff_eq.mp hr)
  apply (hnamed (t := .valueTimeSplits)).bind
  intro _
  apply (Steps.forEach fun _ _ => sameFeed_delete hne fun s hs => .inr ?_).bind
  · intro _
    apply (sameFeed_deleteOf hne fun _ => rfl).bind
    intro _
    apply (hnamed (t := .trackRemoteItemsRaw)).bind
    intro _
    apply (Steps.forEach fun _ _ => sameFeed_delete hne fun s hs => .inr ?_).bind
    · intro _
      apply (sameFeed_deleteOf hne fun _ => rfl).bind
      intro _
      apply (Steps.forEach fun _ _ => deleteTrackQuality_sameFeed).bind
      intro _
      apply (sameFeed_of_writes (w := readModelTables) (Writes.delete (by decide))
        readModels_noFeed).bind
      intro _
      iterate 2
        apply (sameFeed_deleteOf hne fun _ => rfl).bind
        intro _
      apply (deleteSourceClaims_sameFeed hne).bind
      intro _
      iterate 4
        apply (sameFeed_deleteOf hne fun _ => rfl).bind
        intro _
      apply (deleteTracks_sameFeed hne fun _ => beq_iff_eq.mp).bind
      intro _
      exact deleteFeeds_sameFeed hne
    · simp only [Bool.and_eq_true, beq_iff_eq] at hs
      exact hs.2
  · simp only [Bool.and_eq_true, beq_iff_eq] at hs
    exact hs.2

end

end Deletes

end Stophammer
