import Stophammer.Db.ReadModels
import Stophammer.Relational.Growth

/-!
# Deletes of tracks and feeds

The cascades of the source with the `BEFORE DELETE` triggers of the schema and the
one `ON DELETE CASCADE` that refers to a feed.
-/

namespace Stophammer

open Relational Statement

def deleteSplitsOf (feedGuid trackGuid : String) : Stmt Unit :=
  delete .valueTimeSplits (isSplitOf feedGuid trackGuid)

def deletePaymentRoutesOf (feedGuid trackGuid : String) : Stmt Unit :=
  delete .paymentRoutes fun r : PaymentRoute => r.feedGuid == feedGuid && r.trackGuid == trackGuid

def deleteTrackRemoteItemsOf (feedGuid trackGuid : String) : Stmt Unit :=
  delete .trackRemoteItemsRaw (isTrackRemoteItemOf feedGuid trackGuid)

/-- `trg_tracks_cleanup_before_delete`. -/
def tracksCleanupBeforeDelete (old : Track) : Stmt Unit := do
  deleteSplitsOf old.feedGuid old.trackGuid
  deletePaymentRoutesOf old.feedGuid old.trackGuid
  deleteTrackRemoteItemsOf old.feedGuid old.trackGuid
  deleteTrackQuality old.feedGuid old.trackGuid

/-- `DELETE FROM tracks` with its trigger: one statement. -/
def deleteTracks (p : Track → Bool) : Stmt Unit := transaction do
  let olds ← read fun d : Db => (d .tracks).filter p
  forEach tracksCleanupBeforeDelete olds
  delete .tracks p

/-- The child tables of a feed that its trigger and its delete clear alike. -/
def deleteSourceClaims (feedGuid : String) : Stmt Unit := do
  delete .sourceContributorClaims fun r : SourceContributorClaim => r.feedGuid == feedGuid
  delete .sourceEntityIds fun r : SourceEntityIdClaim => r.feedGuid == feedGuid
  delete .sourceEntityLinks fun r : SourceEntityLink => r.feedGuid == feedGuid
  delete .sourceReleaseClaims fun r : SourceReleaseClaim => r.feedGuid == feedGuid
  delete .sourceItemEnclosures fun r : SourceItemEnclosure => r.feedGuid == feedGuid
  delete .sourceItemTranscripts fun r : SourceItemTranscript => r.feedGuid == feedGuid
  delete .sourcePlatformClaims fun r : SourcePlatformClaim => r.feedGuid == feedGuid

def deleteFeedPaymentRoutes (feedGuid : String) : Stmt Unit :=
  delete .feedPaymentRoutes fun r : FeedPaymentRoute => r.feedGuid == feedGuid

def deleteFeedRemoteItems (feedGuid : String) : Stmt Unit :=
  delete .feedRemoteItemsRaw fun r : FeedRemoteItemRaw => r.feedGuid == feedGuid

def deleteLiveEvents (feedGuid : String) : Stmt Unit :=
  delete .liveEvents fun r : LiveEvent => r.feedGuid == feedGuid

/-- `trg_feeds_cleanup_before_delete`. -/
def feedsCleanupBeforeDelete (old : FeedRow) : Stmt Unit := do
  let feedGuid := old.feed.feedGuid
  deleteFeedPaymentRoutes feedGuid
  delete .feedListValueRaw fun r : FeedListValueRaw => r.feedGuid == feedGuid
  deleteFeedQuality feedGuid
  deleteFeedRemoteItems feedGuid
  deleteLiveEvents feedGuid
  deleteSourceClaims feedGuid
  deleteTracks fun r : Track => r.feedGuid == feedGuid

/-- `DELETE FROM feeds` with its trigger and with the cascade to
`source_gone_answers`: one statement. -/
def deleteFeeds (p : FeedRow → Bool) : Stmt Unit := transaction do
  let olds ← read fun d : Db => (d .feeds).filter p
  forEach feedsCleanupBeforeDelete olds
  forEach (fun old : FeedRow =>
    delete .sourceGoneAnswers fun r : SourceGoneAnswer => r.feedGuid == old.feed.feedGuid) olds
  delete .feeds p

def feedTables : List Table :=
  [.feeds, .tracks, .paymentRoutes, .feedPaymentRoutes, .feedListValueRaw, .valueTimeSplits,
    .feedRemoteItemsRaw, .trackRemoteItemsRaw, .liveEvents, .sourceContributorClaims,
    .sourceEntityIds, .sourceEntityLinks, .sourceReleaseClaims, .sourceItemEnclosures,
    .sourceItemTranscripts, .sourcePlatformClaims, .feedCopies, .sourceGoneAnswers,
    .feedCopyOverflow, .feedLeftUrls, .feedMoveState, .searchIndex, .searchEntities,
    .entityQuality]

def trackTables : List Table :=
  [.tracks, .paymentRoutes, .valueTimeSplits, .trackRemoteItemsRaw, .entityQuality]

theorem deleteTracks_writes {p : Track → Bool} : Writes trackTables (deleteTracks p) := by
  apply Writes.transaction
  apply (Writes.read _).bind
  intro olds
  refine (Writes.forEach fun old => ?_).bind fun _ => Writes.delete (by decide)
  apply (Writes.delete (by decide)).bind
  intro _
  apply (Writes.delete (by decide)).bind
  intro _
  exact (Writes.delete (by decide)).bind fun _ => Writes.delete (by decide)

def sourceClaimTables : List Table :=
  [.sourceContributorClaims, .sourceEntityIds, .sourceEntityLinks, .sourceReleaseClaims,
    .sourceItemEnclosures, .sourceItemTranscripts, .sourcePlatformClaims]

theorem deleteSourceClaims_writes {feedGuid : String} :
    Writes sourceClaimTables (deleteSourceClaims feedGuid) := by
  iterate 6
    apply (Writes.delete (by decide)).bind
    intro _
  exact Writes.delete (by decide)

theorem feedsCleanupBeforeDelete_writes {old : FeedRow} :
    Writes feedTables (feedsCleanupBeforeDelete old) := by
  iterate 5
    apply (Writes.delete (by decide)).bind
    intro _
  apply (deleteSourceClaims_writes.mono (by decide)).bind
  intro _
  exact deleteTracks_writes.mono (by decide)

theorem deleteFeeds_writes {p : FeedRow → Bool} : Writes feedTables (deleteFeeds p) := by
  apply Writes.transaction
  apply (Writes.read _).bind
  intro olds
  apply (Writes.forEach fun _ => feedsCleanupBeforeDelete_writes).bind
  intro _
  apply (Writes.forEach fun _ => Writes.delete (by decide)).bind
  intro _
  exact Writes.delete (by decide)

theorem deleteTracks_shrinks {p : Track → Bool} : Shrinks (deleteTracks p) := by
  apply Shrinks.transaction
  apply (Shrinks.read _).bind
  intro olds
  refine (Shrinks.forEach fun old => ?_).bind fun _ => Shrinks.delete
  apply Shrinks.delete.bind
  intro _
  apply Shrinks.delete.bind
  intro _
  exact Shrinks.delete.bind fun _ => Shrinks.delete

theorem deleteSourceClaims_shrinks {feedGuid : String} :
    Shrinks (deleteSourceClaims feedGuid) := by
  iterate 6
    apply Shrinks.delete.bind
    intro _
  exact Shrinks.delete

theorem deleteFeeds_shrinks {p : FeedRow → Bool} : Shrinks (deleteFeeds p) := by
  apply Shrinks.transaction
  apply (Shrinks.read _).bind
  intro olds
  refine (Shrinks.forEach fun old => ?_).bind fun _ =>
    (Shrinks.forEach fun _ => Shrinks.delete).bind fun _ => Shrinks.delete
  iterate 5
    apply Shrinks.delete.bind
    intro _
  exact deleteSourceClaims_shrinks.bind fun _ => deleteTracks_shrinks

variable [Platform]

def deleteTrackSql (feedGuid trackGuid : String) : Stmt Unit := do
  deleteFromSearchIndex "track" (canonicalTrackEntityId feedGuid trackGuid)
  deleteSplitsOf feedGuid trackGuid
  deletePaymentRoutesOf feedGuid trackGuid
  deleteTrackQuality feedGuid trackGuid
  deleteTrackRemoteItemsOf feedGuid trackGuid
  deleteTracks fun r : Track => r.feedGuid == feedGuid && r.trackGuid == trackGuid

def deleteFeedSql (feedGuid : String) : Stmt Unit := do
  -- the order of the GUIDs does not matter: each one is deleted in the same way
  let trackGuids ← read fun d => (getTracksForFeed d feedGuid).map Track.trackGuid
  deleteFromSearchIndex "feed" feedGuid
  deleteFromSearchIndex "publisher" feedGuid
  forEach (fun t => deleteFromSearchIndex "track" (canonicalTrackEntityId feedGuid t)) trackGuids
  delete .valueTimeSplits fun s : ValueTimeSplitRow => s.sourceFeedGuid == some feedGuid
  forEach (fun t => delete .valueTimeSplits fun s : ValueTimeSplitRow =>
    s.sourceTrackGuid == t && s.sourceFeedGuid == none) trackGuids
  delete .paymentRoutes fun r : PaymentRoute => r.feedGuid == feedGuid
  delete .trackRemoteItemsRaw fun r : TrackRemoteItemRow => r.feedGuid == some feedGuid
  forEach (fun t => delete .trackRemoteItemsRaw fun r : TrackRemoteItemRow =>
    r.trackGuid == t && r.feedGuid == none) trackGuids
  deleteFeedPaymentRoutes feedGuid
  forEach (deleteTrackQuality feedGuid) trackGuids
  deleteFeedQuality feedGuid
  deleteFeedRemoteItems feedGuid
  deleteLiveEvents feedGuid
  deleteSourceClaims feedGuid
  delete .feedCopies fun r : FeedCopyRow => r.feedGuid == feedGuid
  delete .feedCopyOverflow fun r : CopyOverflowRow => r.feedGuid == feedGuid
  delete .feedLeftUrls fun r : LeftUrlRow => r.feedGuid == feedGuid
  delete .feedMoveState fun r : MoveStateRow => r.feedGuid == feedGuid
  deleteTracks fun r : Track => r.feedGuid == feedGuid
  deleteFeeds fun r : FeedRow => r.feed.feedGuid == feedGuid

theorem searchDelete_shrinks {entityType entityId : String} :
    Shrinks (deleteFromSearchIndex entityType entityId) := by
  apply (Shrinks.read _).bind
  intro existing
  cases existing with
  | none => exact (Shrinks.pure ()).bind fun _ => Shrinks.delete
  | some _ => exact Shrinks.delete.bind fun _ => Shrinks.delete

theorem deleteFeedSql_shrinks {feedGuid : String} : Shrinks (deleteFeedSql feedGuid) := by
  apply (Shrinks.read _).bind
  intro trackGuids
  apply searchDelete_shrinks.bind
  intro _
  apply searchDelete_shrinks.bind
  intro _
  apply (Shrinks.forEach fun _ => searchDelete_shrinks).bind
  intro _
  apply Shrinks.delete.bind
  intro _
  apply (Shrinks.forEach fun _ => Shrinks.delete).bind
  intro _
  iterate 2
    apply Shrinks.delete.bind
    intro _
  apply (Shrinks.forEach fun _ => Shrinks.delete).bind
  intro _
  apply Shrinks.delete.bind
  intro _
  apply (Shrinks.forEach fun _ => Shrinks.delete).bind
  intro _
  iterate 3
    apply Shrinks.delete.bind
    intro _
  apply deleteSourceClaims_shrinks.bind
  intro _
  iterate 4
    apply Shrinks.delete.bind
    intro _
  exact deleteTracks_shrinks.bind fun _ => deleteFeeds_shrinks

theorem searchDelete_writes {entityType entityId : String} :
    Writes feedTables (deleteFromSearchIndex entityType entityId) :=
  deleteFromSearchIndex_writes.mono (by decide)

def trackDeleteTables : List Table := trackTables ++ [.searchIndex, .searchEntities]

theorem deleteTrackSql_writes {feedGuid trackGuid : String} :
    Writes trackDeleteTables (deleteTrackSql feedGuid trackGuid) := by
  apply (deleteFromSearchIndex_writes.mono (by decide)).bind
  intro _
  iterate 4
    apply (Writes.delete (by decide)).bind
    intro _
  exact deleteTracks_writes.mono (by decide)

theorem deleteFeedSql_writes {feedGuid : String} :
    Writes feedTables (deleteFeedSql feedGuid) := by
  apply (Writes.read _).bind
  intro trackGuids
  apply searchDelete_writes.bind
  intro _
  apply searchDelete_writes.bind
  intro _
  apply (Writes.forEach fun _ => searchDelete_writes).bind
  intro _
  apply (Writes.delete (by decide)).bind
  intro _
  apply (Writes.forEach fun _ => Writes.delete (by decide)).bind
  intro _
  iterate 2
    apply (Writes.delete (by decide)).bind
    intro _
  apply (Writes.forEach fun _ => Writes.delete (by decide)).bind
  intro _
  apply (Writes.delete (by decide)).bind
  intro _
  apply (Writes.forEach fun _ => Writes.delete (by decide)).bind
  intro _
  iterate 3
    apply (Writes.delete (by decide)).bind
    intro _
  apply (deleteSourceClaims_writes.mono (by decide)).bind
  intro _
  iterate 4
    apply (Writes.delete (by decide)).bind
    intro _
  exact (deleteTracks_writes.mono (by decide)).bind fun _ => deleteFeeds_writes

end Stophammer
