import Stophammer.Model

/-!
# Events

The signed event is the unit that the nodes replicate.  The signature covers the
text `payloadJson`; the typed payload travels beside it.
-/

namespace Stophammer

inductive EventType where
  | feedUpserted
  | feedRetired
  | trackUpserted
  | trackRemoved
  | artistUpserted
  | routesReplaced
  | artistCreditCreated
  | feedRoutesReplaced
  | feedRemoteItemsReplaced
  | trackRemoteItemsReplaced
  | feedListValueReplaced
  | liveEventsReplaced
  | sourceContributorClaimsReplaced
  | sourceEntityIdsReplaced
  | sourceEntityLinksReplaced
  | sourceReleaseClaimsReplaced
  | sourceItemEnclosuresReplaced
  | sourceItemTranscriptsReplaced
  | sourcePlatformClaimsReplaced
  | feedUrlObserved
  | feedBlocked
  | feedUnblocked
  | feedCopyObserved
  | feedCopyResolved
  | feedGuidChangeObserved
  | feedGuidChangeDecided
  | feedGuidSuperseded
deriving DecidableEq

structure FeedUpsertedPayload where
  feed : Feed
  /-- The operator's reason for a relocation.  The apply step does not read it. -/
  reason : Option String
deriving DecidableEq

structure FeedRetiredPayload where
  feedGuid : String
  reason : Option String
deriving DecidableEq

structure TrackUpsertedPayload where
  track : Track
  routes : List PaymentRoute
  valueTimeSplits : List ValueTimeSplit
deriving DecidableEq

structure TrackRemovedPayload where
  trackGuid : String
  feedGuid : String
deriving DecidableEq

structure RoutesReplacedPayload where
  trackGuid : String
  /-- Absent in an old event: the routes of the track in every feed are meant. -/
  feedGuid : Option String
  routes : List PaymentRoute
deriving DecidableEq

structure FeedRoutesReplacedPayload where
  feedGuid : String
  routes : List FeedPaymentRoute
deriving DecidableEq

structure FeedRemoteItemsReplacedPayload where
  feedGuid : String
  remoteItems : List FeedRemoteItemRaw
deriving DecidableEq

structure TrackRemoteItemsReplacedPayload where
  trackGuid : String
  feedGuid : Option String
  remoteItems : List TrackRemoteItemRaw
deriving DecidableEq

structure FeedListValueReplacedPayload where
  feedGuid : String
  listValues : List FeedListValueRaw
deriving DecidableEq

structure LiveEventsReplacedPayload where
  feedGuid : String
  liveEvents : List LiveEvent
deriving DecidableEq

structure SourceContributorClaimsReplacedPayload where
  feedGuid : String
  claims : List SourceContributorClaim
deriving DecidableEq

structure SourceEntityIdsReplacedPayload where
  feedGuid : String
  claims : List SourceEntityIdClaim
deriving DecidableEq

structure SourceEntityLinksReplacedPayload where
  feedGuid : String
  links : List SourceEntityLink
deriving DecidableEq

structure SourceReleaseClaimsReplacedPayload where
  feedGuid : String
  claims : List SourceReleaseClaim
deriving DecidableEq

structure SourceItemEnclosuresReplacedPayload where
  feedGuid : String
  enclosures : List SourceItemEnclosure
deriving DecidableEq

structure SourceItemTranscriptsReplacedPayload where
  feedGuid : String
  transcripts : List SourceItemTranscript
deriving DecidableEq

structure SourcePlatformClaimsReplacedPayload where
  feedGuid : String
  claims : List SourcePlatformClaim
deriving DecidableEq

structure FeedUrlObservedPayload where
  url : String
  feedGuid : String
  observedAt : Int
deriving DecidableEq

structure FeedBlockedPayload where
  blockId : String
  kind : FeedBlockKind
  value : String
  reason : String
  blockedAt : Int
deriving DecidableEq

structure FeedUnblockedPayload where
  blockId : String
deriving DecidableEq

structure FeedCopyObservedPayload where
  feedGuid : String
  url : String
  firstSeen : Int
  title : String
  itemGuids : List String
  itemTitles : Option (List (Option String))
  imageUrl : Option String
  remoteItems : Option (List CopyRemoteItem)
  itemDurations : Option (List (Option Int))
  itemEnclosureUrls : Option (List (Option String))
  itemPubDates : Option (List (Option Int))
  author : Option String
  feedRecipients : List RouteRecipient
  trackRecipients : List (String × List RouteRecipient)
  summaryDigest : String
deriving DecidableEq

structure FeedCopyResolvedPayload where
  feedGuid : String
  url : String
  decision : String
  reason : String
  resolvedAt : Int
  resolvedDigest : String
  resolvedRemoteItemsDigest : Option String
deriving DecidableEq

/-- `newGuid` equal to `oldGuid` is the marker that deletes the row. -/
structure FeedGuidChangeObservedPayload where
  sourceUrl : String
  oldGuid : String
  newGuid : String
  firstSeen : Int
deriving DecidableEq

structure FeedGuidChangeDecidedPayload where
  sourceUrl : String
  oldGuid : String
  newGuid : String
  decision : String
  reason : String
  decidedAt : Int
deriving DecidableEq

structure FeedGuidSupersededPayload where
  oldGuid : String
  newGuid : String
  sourceUrl : String
deriving DecidableEq

inductive EventPayload where
  | feedUpserted (p : FeedUpsertedPayload)
  | feedRetired (p : FeedRetiredPayload)
  | trackUpserted (p : TrackUpsertedPayload)
  | trackRemoved (p : TrackRemovedPayload)
  | artistUpserted (artist : Artist)
  | routesReplaced (p : RoutesReplacedPayload)
  | artistCreditCreated (artistCredit : ArtistCredit)
  | feedRoutesReplaced (p : FeedRoutesReplacedPayload)
  | feedRemoteItemsReplaced (p : FeedRemoteItemsReplacedPayload)
  | trackRemoteItemsReplaced (p : TrackRemoteItemsReplacedPayload)
  | feedListValueReplaced (p : FeedListValueReplacedPayload)
  | liveEventsReplaced (p : LiveEventsReplacedPayload)
  | sourceContributorClaimsReplaced (p : SourceContributorClaimsReplacedPayload)
  | sourceEntityIdsReplaced (p : SourceEntityIdsReplacedPayload)
  | sourceEntityLinksReplaced (p : SourceEntityLinksReplacedPayload)
  | sourceReleaseClaimsReplaced (p : SourceReleaseClaimsReplacedPayload)
  | sourceItemEnclosuresReplaced (p : SourceItemEnclosuresReplacedPayload)
  | sourceItemTranscriptsReplaced (p : SourceItemTranscriptsReplacedPayload)
  | sourcePlatformClaimsReplaced (p : SourcePlatformClaimsReplacedPayload)
  | feedUrlObserved (p : FeedUrlObservedPayload)
  | feedBlocked (p : FeedBlockedPayload)
  | feedUnblocked (p : FeedUnblockedPayload)
  | feedCopyObserved (p : FeedCopyObservedPayload)
  | feedCopyResolved (p : FeedCopyResolvedPayload)
  | feedGuidChangeObserved (p : FeedGuidChangeObservedPayload)
  | feedGuidChangeDecided (p : FeedGuidChangeDecidedPayload)
  | feedGuidSuperseded (p : FeedGuidSupersededPayload)
deriving DecidableEq

def EventPayload.eventType : EventPayload → EventType
  | .feedUpserted _ => .feedUpserted
  | .feedRetired _ => .feedRetired
  | .trackUpserted _ => .trackUpserted
  | .trackRemoved _ => .trackRemoved
  | .artistUpserted _ => .artistUpserted
  | .routesReplaced _ => .routesReplaced
  | .artistCreditCreated _ => .artistCreditCreated
  | .feedRoutesReplaced _ => .feedRoutesReplaced
  | .feedRemoteItemsReplaced _ => .feedRemoteItemsReplaced
  | .trackRemoteItemsReplaced _ => .trackRemoteItemsReplaced
  | .feedListValueReplaced _ => .feedListValueReplaced
  | .liveEventsReplaced _ => .liveEventsReplaced
  | .sourceContributorClaimsReplaced _ => .sourceContributorClaimsReplaced
  | .sourceEntityIdsReplaced _ => .sourceEntityIdsReplaced
  | .sourceEntityLinksReplaced _ => .sourceEntityLinksReplaced
  | .sourceReleaseClaimsReplaced _ => .sourceReleaseClaimsReplaced
  | .sourceItemEnclosuresReplaced _ => .sourceItemEnclosuresReplaced
  | .sourceItemTranscriptsReplaced _ => .sourceItemTranscriptsReplaced
  | .sourcePlatformClaimsReplaced _ => .sourcePlatformClaimsReplaced
  | .feedUrlObserved _ => .feedUrlObserved
  | .feedBlocked _ => .feedBlocked
  | .feedUnblocked _ => .feedUnblocked
  | .feedCopyObserved _ => .feedCopyObserved
  | .feedCopyResolved _ => .feedCopyResolved
  | .feedGuidChangeObserved _ => .feedGuidChangeObserved
  | .feedGuidChangeDecided _ => .feedGuidChangeDecided
  | .feedGuidSuperseded _ => .feedGuidSuperseded

/-- The number of rows of the payload that have an `id`. -/
def EventPayload.idRows : EventPayload → Nat
  | .trackUpserted p => p.routes.length + p.valueTimeSplits.length
  | .routesReplaced p => p.routes.length
  | .feedRoutesReplaced p => p.routes.length
  | .feedRemoteItemsReplaced p => p.remoteItems.length
  | .trackRemoteItemsReplaced p => p.remoteItems.length
  | .feedListValueReplaced p => p.listValues.length
  | .sourceContributorClaimsReplaced p => p.claims.length
  | .sourceEntityIdsReplaced p => p.claims.length
  | .sourceEntityLinksReplaced p => p.links.length
  | .sourceReleaseClaimsReplaced p => p.claims.length
  | .sourceItemEnclosuresReplaced p => p.enclosures.length
  | .sourceItemTranscriptsReplaced p => p.transcripts.length
  | .sourcePlatformClaimsReplaced p => p.claims.length
  | _ => 0

/-- A payload with the `id` that each of its rows carries, in the order of the rows.  No write
reads an `id`. -/
structure TypedPayload where
  payload : EventPayload
  ids : List (Option Int)
  length : ids.length = payload.idRows
deriving DecidableEq

/-- The payload with no `id` in its rows, as a primary makes it from a feed. -/
def EventPayload.plain (payload : EventPayload) : TypedPayload where
  payload := payload
  ids := List.replicate payload.idRows none
  length := List.length_replicate

structure Event where
  eventId : String
  eventType : EventType
  typed : TypedPayload
  subjectGuid : String
  signedBy : String
  signature : String
  seq : Int
  createdAt : Int
  warnings : List String
  payloadJson : String
deriving DecidableEq

abbrev Event.payload (ev : Event) : EventPayload := ev.typed.payload

/-- An event of the primary before the database gives it a seq. -/
structure EventRow where
  eventId : String
  eventType : EventType
  payloadJson : String
  subjectGuid : String
  createdAt : Int
  warnings : List String
deriving DecidableEq

/-- The fields that the signature covers. -/
structure EventSigningPayload where
  eventId : String
  eventType : EventType
  payloadJson : String
  subjectGuid : String
  createdAt : Int
  seq : Int
deriving DecidableEq

def Event.signingPayload (ev : Event) : EventSigningPayload where
  eventId := ev.eventId
  eventType := ev.eventType
  payloadJson := ev.payloadJson
  subjectGuid := ev.subjectGuid
  createdAt := ev.createdAt
  seq := ev.seq

end Stophammer
