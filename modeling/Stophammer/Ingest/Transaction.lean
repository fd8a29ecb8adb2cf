import Stophammer.Db.Moves
import Stophammer.Db.Retire
import Stophammer.Ingest.Diff

/-!
# The ingest transaction

The case of a submission, and the one transaction that writes its content with its
events.
-/

namespace Stophammer

open Relational Statement

inductive SubmissionClass where
  /-- A URL of the submission is the source of another record, and the GUID has one. -/
  | recordConflict
  /-- A URL of the submission is the source of another record, and the GUID has none. -/
  | guidChange (heldGuid : String)
  | update
  | mirror (sourceUrl : String)
  | newFeed
deriving DecidableEq

/-- The records of another GUID whose source is one of the two URLs. -/
def conflictingRecords (d : Db) (feedGuid sourceUrl canonicalUrl : String) : List Feed :=
  ((d .feeds).map FeedRow.feed).filter fun f =>
    (f.feedUrl == sourceUrl || f.feedUrl == canonicalUrl) && f.feedGuid != feedGuid

section

variable [Platform]

/-- The first row of the query: two URLs can belong to two records, and the query names
no order. -/
def conflictingGuid (d : Db) (feedGuid sourceUrl canonicalUrl : String) : Option String :=
  (orderBy (compareOn fun f : Feed => scanRank f.feedUrl)
    (conflictingRecords d feedGuid sourceUrl canonicalUrl)).head?.map Feed.feedGuid

def classifySubmission (d : Db) (feedGuid sourceUrl canonicalUrl : String) : SubmissionClass :=
  let heldUrl := (getFeedByGuid d feedGuid).map Feed.feedUrl
  match conflictingGuid d feedGuid sourceUrl canonicalUrl with
  | some heldGuid => if heldUrl.isSome then .recordConflict else .guidChange heldGuid
  | none =>
    match heldUrl with
    | some url => if url == sourceUrl || url == canonicalUrl then .update else .mirror url
    | none => .newFeed

end

def replaceFeedSets (c : IngestContent) : Stmt Unit := do
  let feedGuid := c.feed.feedGuid
  replaceFeedPaymentRoutes feedGuid c.feedRoutes
  replaceFeedRemoteItemsRaw feedGuid c.remoteItems
  replaceFeedListValueRaw feedGuid c.feedListValues
  replaceLiveEventsForFeed feedGuid c.liveEvents
  replaceSourceContributorClaimsForFeed feedGuid c.sourceContributorClaims
  replaceSourceEntityIdsForFeed feedGuid c.sourceEntityIds
  replaceSourceEntityLinksForFeed feedGuid c.sourceEntityLinks
  replaceSourceReleaseClaimsForFeed feedGuid c.sourceReleaseClaims
  replaceSourceItemEnclosuresForFeed feedGuid c.sourceItemEnclosures
  replaceSourceItemTranscriptsForFeed feedGuid c.sourceItemTranscripts
  replaceSourcePlatformClaimsForFeed feedGuid c.sourcePlatformClaims

def writeTrack (t : TrackIngestBundle) : Stmt Unit := do
  upsertTrack t.track
  replacePaymentRoutesForFeedTrack t.track.feedGuid t.track.trackGuid t.routes
  replaceValueTimeSplitsForFeedTrack t.track.feedGuid t.track.trackGuid t.splits
  replaceTrackRemoteItemsRawForFeedTrack t.track.feedGuid t.track.trackGuid t.remoteItems

/-- The tables that `replaceFeedSets` writes. -/
def feedSetTables : List Table :=
  [.feedPaymentRoutes, .feedRemoteItemsRaw, .feedListValueRaw, .liveEvents,
    .sourceContributorClaims, .sourceEntityIds, .sourceEntityLinks, .sourceReleaseClaims,
    .sourceItemEnclosures, .sourceItemTranscripts, .sourcePlatformClaims]

theorem replaceFeedSets_writes {c : IngestContent} :
    Writes feedSetTables (replaceFeedSets c) := by
  iterate 10
    apply (Writes.replaceRows (by decide)).bind
    intro _
  exact Writes.replaceRows (by decide)

/-- The tables that `writeTrack` writes. -/
def trackSetTables : List Table :=
  [.tracks, .paymentRoutes, .valueTimeSplits, .trackRemoteItemsRaw]

theorem writeTrack_writes {t : TrackIngestBundle} : Writes trackSetTables (writeTrack t) := by
  apply (Writes.upsert (by decide)).bind
  intro _
  apply (Writes.replaceRows (by decide)).bind
  intro _
  apply (replaceValueTimeSplitsForFeedTrack_writes.mono (by decide)).bind
  intro _
  exact Writes.replaceRows (by decide)

/-- The stored tracks of the feed that the submission does not have. -/
def staleTrackGuids (d : Db) (c : IngestContent) : List String :=
  ((getTracksForFeed d c.feed.feedGuid).map Track.trackGuid).filter fun trackGuid =>
    !(c.tracks.any fun t => t.track.trackGuid == trackGuid)

section

variable [Platform]

/-- A source that serves a body again has no gone answers, and its GUID no hold. -/
def writeFeed (feed : Feed) : Stmt Unit := do
  upsertFeed feed
  delete .sourceGoneAnswers fun r : SourceGoneAnswer => r.feedGuid == feed.feedGuid
  delete .retiredSourceHolds fun r : RetiredSourceHold =>
    r.feedGuid == toLowercase feed.feedGuid

theorem writeFeed_writes {feed : Feed} :
    Writes [Table.feeds, Table.sourceGoneAnswers, Table.retiredSourceHolds] (writeFeed feed) := by
  apply (Writes.upsert (by decide)).bind
  intro _
  exact (Writes.delete (by decide)).bind fun _ => Writes.delete (by decide)

def removeStaleTrack (feedGuid trackGuid : String) : Stmt Unit := do
  match ← read (getTrackForFeed · feedGuid trackGuid) with
  | some _ => deleteTrackSql feedGuid trackGuid
  | none => pure ()

theorem removeStaleTrack_writes {feedGuid trackGuid : String} :
    Writes trackDeleteTables (removeStaleTrack feedGuid trackGuid) := by
  apply (Writes.read _).bind
  intro track
  cases track with
  | none => exact Writes.pure ()
  | some _ => exact deleteTrackSql_writes

def trackRemovedEvent (feed : Feed) (trackGuid : String) : EventDraft :=
  eventDraft (.trackRemoved { trackGuid := trackGuid, feedGuid := feed.feedGuid }) trackGuid
    feed.updatedAt []

/-- Insert and sign each row, in order. -/
def insertEvents (signer : NodeSigner) : List EventRow → Stmt (List (Int × String × String))
  | [] => pure []
  | row :: rows => do
    let signed ← insertEvent signer row
    let rest ← insertEvents signer rows
    pure (signed :: rest)

omit [Platform] in
theorem insertEvents_writes {signer : NodeSigner} {rows : List EventRow} :
    Writes (S := schema) [Table.events] (insertEvents signer rows) := by
  induction rows with
  | nil => exact Writes.pure _
  | cons row rows ih =>
    exact insertEvent_writes.bind fun _ => ih.bind fun _ => Writes.pure _

/-- What a primary gives to a transaction. -/
structure PrimaryEnv where
  signer : NodeSigner
  /-- The place of a track in the iteration over a hash set. -/
  hashRank : String → Nat

def ingestTransaction (env : PrimaryEnv) (removalUuid : Nat → String) (c : IngestContent)
    (eventRows : List EventRow) (feedMove : Option FeedMoveWrite) :
    Stmt (List (Int × String × String)) := transaction do
  writeFeed c.feed
  replaceFeedSets c
  -- the GUIDs are read before the tracks are written
  let staleGuids ← read fun d =>
    orderBy (compareOn env.hashRank) (staleTrackGuids d c)
  forEach writeTrack c.tracks
  forEach (removeStaleTrack c.feed.feedGuid) staleGuids
  let removals := assignIds removalUuid (staleGuids.map (trackRemovedEvent c.feed))
  let seqs ← insertEvents env.signer (eventRows ++ removals)
  syncSourceReadModelsForFeed c.feed.feedGuid
  match feedMove with
  | some mv => writeFeedMove c.feed.feedGuid mv
  | none => pure ()
  pure seqs

end

end Stophammer
