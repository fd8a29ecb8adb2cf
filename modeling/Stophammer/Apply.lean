import Stophammer.Db.Delete
import Stophammer.Db.Events
import Stophammer.Db.Records
import Stophammer.Sse

/-!
# Application of events

A verified event is written once: its row in the log is the guard.  `applyEvents`
drives a batch in one transaction that an event with an error does not end.
-/

namespace Stophammer

open Relational Statement

/-- The one cursor key that the push handler and the poll loop share. -/
def syncCursorKey : String := "primary_sync_cursor"

inductive ApplyOutcome where
  /-- The event was new: the seq that this node gave it. -/
  | applied (seq : Int)
  | duplicate
deriving DecidableEq

structure ApplySummary where
  applied : Nat
  duplicate : Nat
  rejected : Nat
  maxSeq : Int
deriving DecidableEq

variable [Platform]

def FeedCopyObservedPayload.summary (p : FeedCopyObservedPayload) : CopySummary where
  title := p.title
  itemGuids := p.itemGuids
  itemTitles := p.itemTitles
  imageUrl := p.imageUrl
  remoteItems := p.remoteItems
  itemDurations := p.itemDurations
  itemEnclosureUrls := p.itemEnclosureUrls
  itemPubDates := p.itemPubDates
  author := p.author
  feedRecipients := p.feedRecipients
  trackRecipients := p.trackRecipients

/-- The writes of one payload.  `createdAt` is the time of its event. -/
def applyPayload (createdAt : Int) : EventPayload → Stmt Unit
  -- only an old event carries one of these two
  | .artistUpserted _ | .artistCreditCreated _ => pure ()
  | .feedUpserted p => do
    upsertFeed p.feed
    syncSourceReadModelsForFeed p.feed.feedGuid
  | .trackUpserted p => do
    upsertTrack p.track
    replacePaymentRoutesForFeedTrack p.track.feedGuid p.track.trackGuid p.routes
    replaceValueTimeSplitsForFeedTrack p.track.feedGuid p.track.trackGuid p.valueTimeSplits
    syncSourceReadModelsForFeed p.track.feedGuid
  | .routesReplaced p =>
    match p.feedGuid with
    | some feedGuid => replacePaymentRoutesForFeedTrack feedGuid p.trackGuid p.routes
    | none => replacePaymentRoutes p.trackGuid p.routes
  | .feedRoutesReplaced p => replaceFeedPaymentRoutes p.feedGuid p.routes
  | .feedRemoteItemsReplaced p => replaceFeedRemoteItemsRaw p.feedGuid p.remoteItems
  | .feedListValueReplaced p => replaceFeedListValueRaw p.feedGuid p.listValues
  | .trackRemoteItemsReplaced p =>
    match p.feedGuid with
    | some feedGuid => replaceTrackRemoteItemsRawForFeedTrack feedGuid p.trackGuid p.remoteItems
    | none => replaceTrackRemoteItemsRaw p.trackGuid p.remoteItems
  | .liveEventsReplaced p => replaceLiveEventsForFeed p.feedGuid p.liveEvents
  | .sourceContributorClaimsReplaced p => replaceSourceContributorClaimsForFeed p.feedGuid p.claims
  | .sourceEntityIdsReplaced p => replaceSourceEntityIdsForFeed p.feedGuid p.claims
  | .sourceEntityLinksReplaced p => replaceSourceEntityLinksForFeed p.feedGuid p.links
  | .sourceReleaseClaimsReplaced p => replaceSourceReleaseClaimsForFeed p.feedGuid p.claims
  | .sourceItemEnclosuresReplaced p => replaceSourceItemEnclosuresForFeed p.feedGuid p.enclosures
  | .sourceItemTranscriptsReplaced p =>
    replaceSourceItemTranscriptsForFeed p.feedGuid p.transcripts
  | .sourcePlatformClaimsReplaced p => replaceSourcePlatformClaimsForFeed p.feedGuid p.claims
  | .feedUrlObserved p => upsertFeedUrlObservation p.url p.feedGuid p.observedAt
  | .feedBlocked p => do
    let _ ← insertFeedBlock
      { blockId := p.blockId
        kind := p.kind
        value := p.value
        reason := p.reason
        blockedAt := p.blockedAt }
    pure ()
  | .feedUnblocked p => deleteFeedBlock p.blockId
  | .feedCopyObserved p =>
    upsertFeedCopySummary p.feedGuid p.url p.firstSeen p.summary p.summaryDigest
      (remoteItemsDigest p.summary)
  | .feedCopyResolved p =>
    setFeedCopyResolution p.feedGuid p.url p.decision p.reason p.resolvedAt p.resolvedDigest
      p.resolvedRemoteItemsDigest
  | .feedGuidChangeObserved p =>
    if p.newGuid == p.oldGuid then deleteGuidChange p.sourceUrl
    else upsertGuidChange p.sourceUrl p.oldGuid p.newGuid p.firstSeen
  | .feedGuidChangeDecided p =>
    setGuidChangeDecision p.sourceUrl p.decision p.reason p.decidedAt
  | .feedGuidSuperseded p => insertGuidSupersession p.oldGuid p.newGuid p.sourceUrl createdAt
  | .feedRetired p => do
    if (← read (getFeedByGuid · p.feedGuid)).isSome then deleteFeedSql p.feedGuid
  | .trackRemoved p => do
    if (← read (getTrackForFeed · p.feedGuid p.trackGuid)).isSome then
      deleteTrackSql p.feedGuid p.trackGuid

def liftDecode : Option EventPayload → Stmt EventPayload
  | some payload => pure payload
  | none => fail .json

/-- Apply one verified event inside a transaction of the caller. -/
def applySingleEventInner (ev : Event) : Stmt ApplyOutcome := do
  match ← insertEventIdempotent ev with
  | none => pure .duplicate
  | some seq => do
    let verifiedPayload ← liftDecode (deserializeVerifiedPayload ev)
    applyPayload ev.createdAt verifiedPayload
    pure (.applied seq)

def applySingleEvent (ev : Event) : Stmt ApplyOutcome := transaction do
  let outcome ← applySingleEventInner ev
  match outcome with
  | .applied _ => upsertNodeSyncState syncCursorKey ev.seq
  | .duplicate => pure ()
  pure outcome

structure PendingLiveSseDiff where
  feedGuid : String
  oldLiveEvents : List LiveEvent
  newLiveEvents : List LiveEvent
deriving DecidableEq

/-- What the loop of a batch has gathered so far. -/
structure Batch where
  applied : List (Event × Int)
  pendingLiveSseDiffs : List PendingLiveSseDiff
  duplicate : Nat
  rejected : Nat
  maxSeq : Int
  maxPrimarySeq : Int
deriving DecidableEq

def Batch.start : Batch where
  applied := []
  pendingLiveSseDiffs := []
  duplicate := 0
  rejected := 0
  maxSeq := 0
  maxPrimarySeq := 0

/-- The live items of the feed before and after a snapshot event. -/
def pendingLiveSseDiff (d : Db) : EventPayload → List PendingLiveSseDiff
  | .liveEventsReplaced p =>
    [{ feedGuid := p.feedGuid
       oldLiveEvents := getLiveEventsForFeed d p.feedGuid
       newLiveEvents := p.liveEvents }]
  | _ => []

/-- Count the outcome of one event. -/
def Batch.record (b : Batch) (ev : Event) : Except DbError ApplyOutcome → Batch
  | .ok (.applied localSeq) =>
    { b with
      applied := b.applied ++ [(ev, localSeq)]
      maxSeq := max (max b.maxSeq localSeq) ev.seq
      maxPrimarySeq := max b.maxPrimarySeq ev.seq }
  | .ok .duplicate =>
    { b with duplicate := b.duplicate + 1, maxPrimarySeq := max b.maxPrimarySeq ev.seq }
  | .error _ => { b with rejected := b.rejected + 1 }

/-- One turn of the loop.  An error of the event is counted and the transaction goes
on; a payload that does not decode ends it. -/
def applyBatchEvent (b : Batch) (ev : Event) : Stmt Batch := do
  let payload ← liftDecode (deserializeVerifiedPayload ev)
  let diffs ← read (pendingLiveSseDiff · payload)
  let result ← attempt (applySingleEventInner ev)
  pure ({ b with pendingLiveSseDiffs := b.pendingLiveSseDiffs ++ diffs }.record ev result)

def applyBatchEvents : Batch → List Event → Stmt Batch
  | b, [] => pure b
  | b, ev :: evs => do
    let b' ← applyBatchEvent b ev
    applyBatchEvents b' evs

def writeBatchCursor (maxPrimarySeq : Int) : Stmt Unit :=
  if 0 < maxPrimarySeq then upsertNodeSyncState syncCursorKey maxPrimarySeq else pure ()

/-- The transaction of a batch of verified events. -/
def applyBatch (verified : List Event) : Stmt Batch := transaction do
  let b ← applyBatchEvents Batch.start verified
  writeBatchCursor b.maxPrimarySeq
  pure b

/-- An applied event with the seq of this node.  Its typed payload is the one received. -/
def localEvent (result : Event × Int) : Event := { result.1 with seq := result.2 }

/-- The frames of a committed batch: its events, then its live items. -/
def Batch.frames (b : Batch) : List (String × SseFrame) :=
  eventFrames (b.applied.map localEvent) ++
    b.pendingLiveSseDiffs.flatMap fun diff =>
      buildLiveSseFramesForFeed diff.feedGuid diff.oldLiveEvents diff.newLiveEvents
        (b.applied.map localEvent)

/-- The counts of a call, and the frames that it has for a registry. -/
structure ApplyResult where
  summary : ApplySummary
  frames : List (String × SseFrame)
deriving DecidableEq

/-- Verify and apply a batch.  `commits` is false where the writer lock is poisoned,
the transaction cannot begin or commit, or the task panics. -/
def applyEvents (commits : Bool) (events : List Event) (d : Db) : ApplyResult × Db :=
  let verified := events.filter fun ev => verifyEventSignature ev
  let invalid := events.length - verified.length
  let failed : ApplyResult :=
    { summary := { applied := 0, duplicate := 0, rejected := events.length, maxSeq := 0 }
      frames := [] }
  if verified = [] then (failed, d)
  else if !commits then (failed, d)
  else
    match applyBatch verified d with
    | (.error _, d') => (failed, d')
    | (.ok b, d') =>
      ({ summary :=
          { applied := b.applied.length
            duplicate := b.duplicate
            rejected := invalid + b.rejected
            maxSeq := b.maxSeq }
         frames := b.frames }, d')

/-- What a call sends to the channels of the registry that it was given. -/
structure SsePublication where
  sent : List (String × SseFrame)
  registry : Option SseRegistry
deriving DecidableEq

/-- A node with no registry sends nothing. -/
def ApplyResult.publish (result : ApplyResult) (sseRegistry : Option SseRegistry) :
    SsePublication :=
  match sseRegistry with
  | none => { sent := [], registry := none }
  | some registry =>
    let (sent, after) := publishSseFrames registry result.frames
    { sent := sent, registry := some after }

end Stophammer
