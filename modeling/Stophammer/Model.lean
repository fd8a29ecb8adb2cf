import Mathlib.Logic.Basic

/-!
# Domain types of the feed index

The rows that an ingest writes and an event carries.  The surrogate `id` of a row is
not a field of it: the list order of a table is its order, and an event has the `id`s of
its rows beside them.
-/

namespace Stophammer

/-- A finite IEEE double as its bits.  JSON and SQLite carry no other value. -/
structure Double where
  bits : BitVec 64
  finite : bits.extractLsb' 52 11 ≠ BitVec.allOnes 11
deriving DecidableEq

/-- A wire type only: an old `ArtistUpserted` event carries it. -/
structure Artist where
  artistId : String
  name : String
  nameLower : String
  sortName : Option String
  typeId : Option Int
  area : Option String
  imgUrl : Option String
  url : Option String
  beginYear : Option Int
  endYear : Option Int
  createdAt : Int
  updatedAt : Int
deriving DecidableEq

structure ArtistCreditName where
  id : Int
  artistCreditId : Int
  artistId : String
  position : Int
  name : String
  joinPhrase : String
deriving DecidableEq

/-- A wire type only: an old `ArtistCreditCreated` event carries it. -/
structure ArtistCredit where
  id : Int
  displayName : String
  feedGuid : Option String
  createdAt : Int
  names : List ArtistCreditName
deriving DecidableEq

structure Feed where
  feedGuid : String
  feedUrl : String
  title : String
  titleLower : String
  description : Option String
  imageUrl : Option String
  publisher : Option String
  language : Option String
  explicit : Bool
  itunesType : Option String
  releaseArtist : Option String
  releaseArtistSort : Option String
  releaseDate : Option Int
  releaseKind : Option String
  episodeCount : Int
  newestItemAt : Option Int
  oldestItemAt : Option Int
  createdAt : Int
  updatedAt : Int
  /-- Verbatim `podcast:medium`. -/
  rawMedium : Option String
  /-- The time the feed file was made, not a release date. -/
  lastBuildDate : Option Int
  releaseArtistSource : Option String
deriving DecidableEq

structure Track where
  trackGuid : String
  feedGuid : String
  title : String
  titleLower : String
  pubDate : Option Int
  durationSecs : Option Int
  enclosureUrl : Option String
  enclosureType : Option String
  enclosureBytes : Option Int
  trackNumber : Option Int
  season : Option Int
  imageUrl : Option String
  publisher : Option String
  language : Option String
  explicit : Bool
  description : Option String
  trackArtist : Option String
  trackArtistSort : Option String
  createdAt : Int
  updatedAt : Int
deriving DecidableEq

inductive RouteType where
  | node
  | wallet
  | keysend
  | lnaddress
deriving DecidableEq

structure PaymentRoute where
  trackGuid : String
  feedGuid : String
  recipientName : Option String
  routeType : RouteType
  address : String
  customKey : Option String
  customValue : Option String
  split : Int
  fee : Bool
deriving DecidableEq

/-- The fallback of a track with no routes of its own. -/
structure FeedPaymentRoute where
  feedGuid : String
  recipientName : Option String
  routeType : RouteType
  address : String
  customKey : Option String
  customValue : Option String
  split : Int
  fee : Bool
deriving DecidableEq

/-- The value block of a `musicL` feed. -/
structure FeedListValueRaw where
  feedGuid : String
  recipientName : Option String
  routeType : RouteType
  address : String
  customKey : Option String
  customValue : Option String
  split : Int
  fee : Bool
  position : Int
deriving DecidableEq

structure RouteRecipient where
  address : String
  customKey : Option String
  customValue : Option String
  split : Int
deriving DecidableEq

inductive ValueTimeSplitForm where
  | remote
  | «local»
deriving DecidableEq

structure ValueTimeSplitRecipient where
  recipientName : Option String
  routeType : RouteType
  address : String
  customKey : Option String
  customValue : Option String
  split : Int
  fee : Bool
deriving DecidableEq

structure ValueTimeSplit where
  /-- Empty in an old event: the feed of the payload then applies. -/
  sourceFeedGuid : String
  sourceTrackGuid : String
  position : Int
  form : ValueTimeSplitForm
  startTimeSecs : Double
  durationSecs : Option Double
  remoteFeedGuid : Option String
  remoteItemGuid : Option String
  remoteStartTimeSecs : Option Double
  remotePercentage : Option Double
  recipients : List ValueTimeSplitRecipient
  createdAt : Int
deriving DecidableEq

structure FeedRemoteItemRaw where
  feedGuid : String
  position : Int
  medium : Option String
  remoteFeedGuid : String
  remoteFeedUrl : Option String
  rel : Option String
  source : String
  remoteItemGuid : Option String
  remoteItemTitle : Option String
deriving DecidableEq

structure TrackRemoteItemRaw where
  /-- Empty in an old event: the feed of the payload then applies. -/
  feedGuid : String
  trackGuid : String
  position : Int
  medium : Option String
  remoteFeedGuid : String
  remoteFeedUrl : Option String
  rel : Option String
  source : String
deriving DecidableEq

structure LiveEvent where
  liveItemGuid : String
  feedGuid : String
  title : String
  contentLink : Option String
  status : String
  scheduledStart : Option Int
  scheduledEnd : Option Int
  createdAt : Int
  updatedAt : Int
  liveValueUri : Option String
  liveValueProtocol : Option String
deriving DecidableEq

structure SourceContributorClaim where
  feedGuid : String
  entityType : String
  entityId : String
  position : Int
  name : String
  role : Option String
  roleNorm : Option String
  groupName : Option String
  href : Option String
  img : Option String
  npub : Option String
  source : String
  extractionPath : String
  observedAt : Int
deriving DecidableEq

structure SourceEntityIdClaim where
  feedGuid : String
  entityType : String
  entityId : String
  position : Int
  scheme : String
  value : String
  source : String
  extractionPath : String
  observedAt : Int
deriving DecidableEq

structure SourceEntityLink where
  feedGuid : String
  entityType : String
  entityId : String
  position : Int
  linkType : String
  url : String
  source : String
  extractionPath : String
  observedAt : Int
  label : Option String
deriving DecidableEq

structure SourceReleaseClaim where
  feedGuid : String
  entityType : String
  entityId : String
  position : Int
  claimType : String
  claimValue : String
  source : String
  extractionPath : String
  observedAt : Int
deriving DecidableEq

structure SourceItemEnclosure where
  feedGuid : String
  entityType : String
  entityId : String
  position : Int
  url : String
  mimeType : Option String
  bytes : Option Int
  rel : Option String
  title : Option String
  isPrimary : Bool
  source : String
  extractionPath : String
  observedAt : Int
deriving DecidableEq

structure SourceItemTranscript where
  feedGuid : String
  entityType : String
  entityId : String
  position : Int
  url : String
  mimeType : Option String
  language : Option String
  rel : Option String
  source : String
  extractionPath : String
  observedAt : Int
deriving DecidableEq

structure SourcePlatformClaim where
  feedGuid : String
  platformKey : String
  url : Option String
  ownerName : Option String
  source : String
  extractionPath : String
  observedAt : Int
deriving DecidableEq

inductive FeedBlockKind where
  | guid
  | url
deriving DecidableEq

structure FeedBlock where
  blockId : String
  kind : FeedBlockKind
  value : String
  reason : String
  blockedAt : Int
deriving DecidableEq

structure CopyRemoteItem where
  medium : Option String
  feedGuid : String
  feedUrl : Option String
  itemGuid : Option String
deriving DecidableEq

/-- The summary of one submission at a URL for a feed GUID. -/
structure CopySummary where
  title : String
  itemGuids : List String
  itemTitles : Option (List (Option String))
  imageUrl : Option String
  remoteItems : Option (List CopyRemoteItem)
  itemDurations : Option (List (Option Int))
  itemEnclosureUrls : Option (List (Option String))
  itemPubDates : Option (List (Option Int))
  author : Option String
  feedRecipients : List RouteRecipient
  /-- The entries of the map in key order. -/
  trackRecipients : List (String × List RouteRecipient)
deriving DecidableEq

end Stophammer
