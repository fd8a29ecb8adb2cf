import Stophammer.Relational.Write
import Stophammer.Platform

/-!
# Schema

The tables of the node, with the constraints of the schema script.  The recipients
of a value time split are a list in the row of the split.  The columns that no code
reads back (`computed_at`, `last_seen_at`) are left out.
-/

namespace Stophammer

inductive Table where
  | feeds
  | tracks
  | paymentRoutes
  | feedPaymentRoutes
  | feedListValueRaw
  | valueTimeSplits
  | feedRemoteItemsRaw
  | trackRemoteItemsRaw
  | liveEvents
  | sourceContributorClaims
  | sourceEntityIds
  | sourceEntityLinks
  | sourceReleaseClaims
  | sourceItemEnclosures
  | sourceItemTranscripts
  | sourcePlatformClaims
  | feedUrlObservations
  | feedBlocks
  | feedCopies
  | feedGuidChanges
  | feedGuidSupersessions
  | feedCrawlCache
  | sourceGoneAnswers
  | retiredSourceHolds
  | feedCopyOverflow
  | feedLeftUrls
  | feedMoveState
  | searchIndex
  | searchEntities
  | entityQuality
  | events
  | nodeSyncState
  | peerNodes
deriving DecidableEq

def Table.all : List Table :=
  [.feeds, .tracks, .paymentRoutes, .feedPaymentRoutes, .feedListValueRaw, .valueTimeSplits,
    .feedRemoteItemsRaw, .trackRemoteItemsRaw, .liveEvents, .sourceContributorClaims,
    .sourceEntityIds, .sourceEntityLinks, .sourceReleaseClaims, .sourceItemEnclosures,
    .sourceItemTranscripts, .sourcePlatformClaims, .feedUrlObservations, .feedBlocks,
    .feedCopies, .feedGuidChanges, .feedGuidSupersessions, .feedCrawlCache,
    .sourceGoneAnswers, .retiredSourceHolds, .feedCopyOverflow, .feedLeftUrls,
    .feedMoveState, .searchIndex, .searchEntities, .entityQuality, .events,
    .nodeSyncState, .peerNodes]

theorem Table.mem_all (t : Table) : t ∈ Table.all := by
  cases t <;> decide

/-- The columns that no event carries are beside the `Feed`. -/
structure FeedRow where
  feed : Feed
  declaredSelfUrl : Option String
  declaredNewFeedUrl : Option String
  podcastLocked : Option Bool
  lockedOwner : Option String
  titleSort : Option String
  feedHost : Option String
deriving DecidableEq

structure ValueTimeSplitRow where
  sourceFeedGuid : Option String
  sourceTrackGuid : String
  position : Int
  form : ValueTimeSplitForm
  startTimeSecs : Double
  durationSecs : Option Double
  remoteFeedGuid : Option String
  remoteItemGuid : Option String
  remoteStartTimeSecs : Option Double
  remotePercentage : Option Double
  recipients : List ValueTimeSplitRecipient
  createdAt : Int
deriving DecidableEq

structure TrackRemoteItemRow where
  feedGuid : Option String
  trackGuid : String
  position : Int
  medium : Option String
  remoteFeedGuid : String
  remoteFeedUrl : Option String
  rel : Option String
  source : String
deriving DecidableEq

/-- Which URL gave which `podcast:guid`, and when. -/
structure FeedUrlObservation where
  url : String
  feedGuid : String
  observedAt : Int
deriving DecidableEq

structure FeedCopyRow where
  feedGuid : String
  url : String
  firstSeen : Int
  lastSeen : Option Int
  summary : CopySummary
  summaryDigest : String
  remoteItemsDigest : Option String
  resolution : Option String
  resolutionReason : Option String
  resolvedAt : Option Int
  resolvedDigest : Option String
  resolvedRemoteItemsDigest : Option String
deriving DecidableEq

structure GuidChangeRow where
  sourceUrl : String
  oldGuid : String
  newGuid : String
  firstSeen : Int
  lastSeen : Option Int
  decision : Option String
  decisionReason : Option String
  decidedAt : Option Int
deriving DecidableEq

structure GuidSupersessionRow where
  oldGuid : String
  newGuid : String
  sourceUrl : String
  supersededAt : Int
deriving DecidableEq

structure CrawlCacheRow where
  feedUrl : String
  contentHash : String
  crawledAt : Int
deriving DecidableEq

structure SourceGoneAnswer where
  feedGuid : String
  sourceUrl : String
  firstGoneAt : Int
  lastGoneAt : Int
  lastStatus : Int
deriving DecidableEq

structure RetiredSourceHold where
  feedGuid : String
  sourceUrl : String
  reason : String
  retiredAt : Int
  releasedAt : Option Int
deriving DecidableEq

structure CopyOverflowRow where
  feedGuid : String
  count : Int
deriving DecidableEq

structure LeftUrlRow where
  feedGuid : String
  url : String
deriving DecidableEq

structure MoveStateRow where
  feedGuid : String
  arrivalTag : Option String
  returnCount : Int
  lastReturnAt : Option Int
  arrivalPending : Bool
deriving DecidableEq

structure SearchIndexRow where
  rowid : Int
  name : String
  title : String
  description : String
deriving DecidableEq

structure SearchEntityRow where
  rowid : Int
  entityType : String
  entityId : String
deriving DecidableEq

structure EntityQualityRow where
  entityType : String
  entityId : String
  score : Int
deriving DecidableEq

structure StoredEvent where
  eventId : String
  eventType : EventType
  payloadJson : String
  subjectGuid : String
  signedBy : String
  signature : String
  seq : Int
  createdAt : Int
  warnings : List String
deriving DecidableEq

structure NodeSyncStateRow where
  nodePubkey : String
  lastSeq : Int
deriving DecidableEq

structure PeerNode where
  nodePubkey : String
  nodeUrl : String
  discoveredAt : Int
  lastPushAt : Option Int
  consecutiveFailures : Int
deriving DecidableEq

abbrev Table.Row : Table → Type
  | .feeds => FeedRow
  | .tracks => Track
  | .paymentRoutes => PaymentRoute
  | .feedPaymentRoutes => FeedPaymentRoute
  | .feedListValueRaw => FeedListValueRaw
  | .valueTimeSplits => ValueTimeSplitRow
  | .feedRemoteItemsRaw => FeedRemoteItemRaw
  | .trackRemoteItemsRaw => TrackRemoteItemRow
  | .liveEvents => LiveEvent
  | .sourceContributorClaims => SourceContributorClaim
  | .sourceEntityIds => SourceEntityIdClaim
  | .sourceEntityLinks => SourceEntityLink
  | .sourceReleaseClaims => SourceReleaseClaim
  | .sourceItemEnclosures => SourceItemEnclosure
  | .sourceItemTranscripts => SourceItemTranscript
  | .sourcePlatformClaims => SourcePlatformClaim
  | .feedUrlObservations => FeedUrlObservation
  | .feedBlocks => FeedBlock
  | .feedCopies => FeedCopyRow
  | .feedGuidChanges => GuidChangeRow
  | .feedGuidSupersessions => GuidSupersessionRow
  | .feedCrawlCache => CrawlCacheRow
  | .sourceGoneAnswers => SourceGoneAnswer
  | .retiredSourceHolds => RetiredSourceHold
  | .feedCopyOverflow => CopyOverflowRow
  | .feedLeftUrls => LeftUrlRow
  | .feedMoveState => MoveStateRow
  | .searchIndex => SearchIndexRow
  | .searchEntities => SearchEntityRow
  | .entityQuality => EntityQualityRow
  | .events => StoredEvent
  | .nodeSyncState => NodeSyncStateRow
  | .peerNodes => PeerNode

/-- The values of the `PRIMARY KEY` and `UNIQUE` constraints. -/
inductive Key where
  | feed (feedGuid : String)
  | feedUrl (feedUrl : String)
  | track (feedGuid trackGuid : String)
  | feedRemoteItem (feedGuid : String) (position : Int)
  | trackRemoteItem (feedGuid trackGuid : String) (position : Int)
  | liveEvent (feedGuid liveItemGuid : String)
  | contributor (feedGuid entityType entityId : String) (position : Int) (source : String)
  | entityId (feedGuid entityType entityId scheme value : String)
  | entityLink (feedGuid entityType entityId linkType url : String)
  | release (feedGuid entityType entityId claimType : String) (position : Int)
  | enclosure (feedGuid entityType entityId : String) (position : Int) (url : String)
  | transcript (feedGuid entityType entityId : String) (position : Int) (url : String)
  | urlObservation (url : String)
  | block (blockId : String)
  | blockValue (kind : FeedBlockKind) (value : String)
  | copy (feedGuid url : String)
  | guidChange (sourceUrl : String)
  | supersession (oldGuid : String)
  | crawlCache (feedUrl : String)
  | goneAnswer (feedGuid : String)
  | hold (feedGuid : String)
  | overflow (feedGuid : String)
  | leftUrl (feedGuid url : String)
  | moveState (feedGuid : String)
  | searchIndex (rowid : Int)
  | searchEntity (rowid : Int)
  | quality (entityType entityId : String)
  | event (eventId : String)
  | eventSeq (seq : Int)
  | syncState (nodePubkey : String)
  | peer (nodePubkey : String)
deriving DecidableEq

def Key.home : Key → Table
  | .feed _ | .feedUrl _ => .feeds
  | .track .. => .tracks
  | .feedRemoteItem .. => .feedRemoteItemsRaw
  | .trackRemoteItem .. => .trackRemoteItemsRaw
  | .liveEvent .. => .liveEvents
  | .contributor .. => .sourceContributorClaims
  | .entityId .. => .sourceEntityIds
  | .entityLink .. => .sourceEntityLinks
  | .release .. => .sourceReleaseClaims
  | .enclosure .. => .sourceItemEnclosures
  | .transcript .. => .sourceItemTranscripts
  | .urlObservation _ => .feedUrlObservations
  | .block _ | .blockValue .. => .feedBlocks
  | .copy .. => .feedCopies
  | .guidChange _ => .feedGuidChanges
  | .supersession _ => .feedGuidSupersessions
  | .crawlCache _ => .feedCrawlCache
  | .goneAnswer _ => .sourceGoneAnswers
  | .hold _ => .retiredSourceHolds
  | .overflow _ => .feedCopyOverflow
  | .leftUrl .. => .feedLeftUrls
  | .moveState _ => .feedMoveState
  | .searchIndex _ => .searchIndex
  | .searchEntity _ => .searchEntities
  | .quality .. => .entityQuality
  | .event _ | .eventSeq _ => .events
  | .syncState _ => .nodeSyncState
  | .peer _ => .peerNodes

def Table.keys : (t : Table) → t.Row → List Key
  | .feeds, r => [.feed r.feed.feedGuid, .feedUrl r.feed.feedUrl]
  | .tracks, r => [.track r.feedGuid r.trackGuid]
  | .paymentRoutes, _ => []
  | .feedPaymentRoutes, _ => []
  | .feedListValueRaw, _ => []
  | .valueTimeSplits, _ => []
  | .feedRemoteItemsRaw, r => [.feedRemoteItem r.feedGuid r.position]
  -- a NULL in a UNIQUE constraint is equal to no other value
  | .trackRemoteItemsRaw, r =>
    (r.feedGuid.map fun f => Key.trackRemoteItem f r.trackGuid r.position).toList
  | .liveEvents, r => [.liveEvent r.feedGuid r.liveItemGuid]
  | .sourceContributorClaims, r =>
    [.contributor r.feedGuid r.entityType r.entityId r.position r.source]
  | .sourceEntityIds, r => [.entityId r.feedGuid r.entityType r.entityId r.scheme r.value]
  | .sourceEntityLinks, r => [.entityLink r.feedGuid r.entityType r.entityId r.linkType r.url]
  | .sourceReleaseClaims, r =>
    [.release r.feedGuid r.entityType r.entityId r.claimType r.position]
  | .sourceItemEnclosures, r =>
    [.enclosure r.feedGuid r.entityType r.entityId r.position r.url]
  | .sourceItemTranscripts, r =>
    [.transcript r.feedGuid r.entityType r.entityId r.position r.url]
  | .sourcePlatformClaims, _ => []
  | .feedUrlObservations, r => [.urlObservation r.url]
  | .feedBlocks, r => [.block r.blockId, .blockValue r.kind r.value]
  | .feedCopies, r => [.copy r.feedGuid r.url]
  | .feedGuidChanges, r => [.guidChange r.sourceUrl]
  | .feedGuidSupersessions, r => [.supersession r.oldGuid]
  | .feedCrawlCache, r => [.crawlCache r.feedUrl]
  | .sourceGoneAnswers, r => [.goneAnswer r.feedGuid]
  | .retiredSourceHolds, r => [.hold r.feedGuid]
  | .feedCopyOverflow, r => [.overflow r.feedGuid]
  | .feedLeftUrls, r => [.leftUrl r.feedGuid r.url]
  | .feedMoveState, r => [.moveState r.feedGuid]
  | .searchIndex, r => [.searchIndex r.rowid]
  | .searchEntities, r => [.searchEntity r.rowid]
  | .entityQuality, r => [.quality r.entityType r.entityId]
  | .events, r => [.event r.eventId, .eventSeq r.seq]
  | .nodeSyncState, r => [.syncState r.nodePubkey]
  | .peerNodes, r => [.peer r.nodePubkey]

/-- The values of the `FOREIGN KEY` columns. -/
def Table.refs : (t : Table) → t.Row → List Key
  | .tracks, r => [.feed r.feedGuid]
  | .paymentRoutes, r => [.track r.feedGuid r.trackGuid]
  | .feedPaymentRoutes, r => [.feed r.feedGuid]
  | .feedListValueRaw, r => [.feed r.feedGuid]
  | .valueTimeSplits, r => (r.sourceFeedGuid.map fun f => Key.track f r.sourceTrackGuid).toList
  | .feedRemoteItemsRaw, r => [.feed r.feedGuid]
  | .trackRemoteItemsRaw, r => (r.feedGuid.map fun f => Key.track f r.trackGuid).toList
  | .liveEvents, r => [.feed r.feedGuid]
  | .sourceContributorClaims, r => [.feed r.feedGuid]
  | .sourceEntityIds, r => [.feed r.feedGuid]
  | .sourceEntityLinks, r => [.feed r.feedGuid]
  | .sourceReleaseClaims, r => [.feed r.feedGuid]
  | .sourceItemEnclosures, r => [.feed r.feedGuid]
  | .sourceItemTranscripts, r => [.feed r.feedGuid]
  | .sourcePlatformClaims, r => [.feed r.feedGuid]
  | .sourceGoneAnswers, r => [.feed r.feedGuid]
  | _, _ => []

def Table.check : (t : Table) → t.Row → Bool
  | .paymentRoutes, r => 0 ≤ r.split
  | .feedPaymentRoutes, r => 0 ≤ r.split
  | .feedListValueRaw, r => 0 ≤ r.split
  | .valueTimeSplits, r =>
    (r.form == .local || r.remoteFeedGuid.isSome) && r.recipients.all (0 ≤ ·.split)
  | .liveEvents, r => r.status ∈ ["pending", "live", "ended"]
  | .sourceContributorClaims, r => r.entityType ∈ ["feed", "track", "live_item"]
  | .sourceEntityIds, r => r.entityType ∈ ["feed", "track", "live_item"]
  | .sourceEntityLinks, r => r.entityType ∈ ["feed", "track", "live_item"]
  | .sourceReleaseClaims, r => r.entityType ∈ ["feed", "track", "live_item"]
  | .sourceItemEnclosures, r => r.entityType ∈ ["track", "live_item"]
  | .sourceItemTranscripts, r => r.entityType ∈ ["track", "live_item"]
  | .feedCopies, r => r.resolution.all (· ∈ ["keep_source", "relocate"])
  | .feedGuidChanges, r => r.decision.all (· ∈ ["approve", "reject"])
  | _, _ => true

inductive DbError where
  /-- A constraint of the table refused the statement. -/
  | rusqlite (t : Table)
  | json
  | poisoned
  | other (message : String)
deriving DecidableEq

abbrev schema : Relational.Schema where
  Table := Table
  tables := Table.all
  mem_tables := Table.mem_all
  Row := Table.Row
  Key := Key
  home := Key.home
  keys := Table.keys
  refs := Table.refs
  check := Table.check
  keys_nodup := by
    intro t r
    cases t with
    | trackRemoteItemsRaw =>
      rcases r with ⟨_ | _, _⟩ <;> simp [Table.keys]
    | _ => simp [Table.keys]
  keys_home := by
    intro t r k hk
    cases t with
    | trackRemoteItemsRaw =>
      rcases r with ⟨_ | _, _⟩ <;> simp_all [Table.keys, Key.home]
    | _ =>
      simp only [Table.keys, List.mem_cons, List.not_mem_nil, or_false] at hk
      try rcases hk with rfl | rfl
      all_goals rfl
  refs_home := by
    intro t r k hk
    cases t with
    | trackRemoteItemsRaw | valueTimeSplits =>
      rcases r with ⟨_ | _, _⟩ <;> simp_all [Table.refs, Key.home]
    | _ => simp_all [Table.refs, Key.home]
  Error := DbError
  violation := .rusqlite

theorem refs_home {v : Table} {r : v.Row} {k : Key} (hk : k ∈ v.refs r) :
    k.home = .feeds ∨ k.home = .tracks := by
  cases v with
  | trackRemoteItemsRaw | valueTimeSplits =>
    rcases r with ⟨_ | _, _⟩ <;> simp_all [Table.refs, Key.home]
  | _ => simp_all [Table.refs, Key.home]

theorem leaf_of_ne {t : Table} (hf : t ≠ .feeds) (ht : t ≠ .tracks) :
    Relational.Database.Leaf (S := schema) t := by
  intro v r k hk hhome
  rcases refs_home hk with h | h
  · exact hf (hhome.symm.trans h)
  · exact ht (hhome.symm.trans h)

/-- A database of the node. -/
abbrev Db : Type := Relational.Database schema

/-- A statement on the database of the node. -/
abbrev Stmt (α : Type) : Type := Relational.Query schema α

end Stophammer
