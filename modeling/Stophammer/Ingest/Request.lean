import Stophammer.Platform

/-!
# Submissions of a crawler

The request and the response of `POST /ingest/feed`.  The fields of a live item that
the node does not read are left out.
-/

namespace Stophammer

/-- One hop of the redirects from the source URL to the canonical URL. -/
structure RedirectHop where
  url : String
  status : Nat
deriving DecidableEq

structure IngestBlockTag where
  id : Option String
  value : String
deriving DecidableEq

structure IngestRemoteFeedRef where
  position : Int
  medium : Option String
  remoteFeedGuid : String
  remoteFeedUrl : Option String
  rel : Option String
  itemGuid : Option String
  itemTitle : Option String
  publisherReference : Bool
deriving DecidableEq

structure IngestPerson where
  position : Int
  name : String
  role : Option String
  groupName : Option String
  href : Option String
  img : Option String
  npub : Option String
deriving DecidableEq

structure IngestEntityId where
  position : Int
  scheme : String
  value : String
deriving DecidableEq

structure IngestLink where
  position : Int
  linkType : String
  url : String
  extractionPath : String
  label : Option String
deriving DecidableEq

structure IngestAlternateEnclosure where
  position : Int
  url : String
  mimeType : Option String
  bytes : Option Int
  rel : Option String
  title : Option String
  extractionPath : String
deriving DecidableEq

structure IngestTranscript where
  position : Int
  url : String
  mimeType : Option String
  language : Option String
  rel : Option String
deriving DecidableEq

structure IngestPaymentRoute where
  recipientName : Option String
  routeType : RouteType
  address : String
  customKey : Option String
  customValue : Option String
  split : Int
  fee : Bool
deriving DecidableEq

structure IngestValueTimeSplit where
  form : ValueTimeSplitForm
  startTimeSecs : Double
  durationSecs : Option Double
  remoteFeedGuid : Option String
  remoteItemGuid : Option String
  remoteStartTimeSecs : Option Double
  remotePercentage : Option Double
  recipients : List IngestPaymentRoute
deriving DecidableEq

structure IngestLiveItemData where
  liveItemGuid : String
  title : String
  status : String
  startAt : Option Int
  endAt : Option Int
  contentLink : Option String
  pubDate : Option Int
  enclosureUrl : Option String
  enclosureType : Option String
  enclosureBytes : Option Int
  alternateEnclosures : List IngestAlternateEnclosure
  description : Option String
  liveValueUri : Option String
  liveValueProtocol : Option String
  persons : List IngestPerson
  entityIds : List IngestEntityId
  links : List IngestLink
  transcripts : List IngestTranscript
deriving DecidableEq

structure IngestTrackData where
  trackGuid : String
  title : String
  pubDate : Option Int
  durationSecs : Option Int
  imageUrl : Option String
  language : Option String
  enclosureUrl : Option String
  enclosureType : Option String
  enclosureBytes : Option Int
  alternateEnclosures : List IngestAlternateEnclosure
  trackNumber : Option Int
  season : Option Int
  explicit : Bool
  description : Option String
  authorName : Option String
  remoteItems : List IngestRemoteFeedRef
  persons : List IngestPerson
  entityIds : List IngestEntityId
  links : List IngestLink
  paymentRoutes : List IngestPaymentRoute
  valueTimeSplits : List IngestValueTimeSplit
  transcripts : List IngestTranscript
deriving DecidableEq

structure IngestFeedData where
  feedGuid : String
  title : String
  description : Option String
  imageUrl : Option String
  language : Option String
  explicit : Bool
  itunesType : Option String
  rawMedium : Option String
  authorName : Option String
  ownerName : Option String
  pubDate : Option Int
  lastBuildDate : Option Int
  newFeedUrl : Option String
  locked : Option Bool
  lockedOwner : Option String
  remoteItems : List IngestRemoteFeedRef
  persons : List IngestPerson
  entityIds : List IngestEntityId
  links : List IngestLink
  feedPaymentRoutes : List IngestPaymentRoute
  liveItems : List IngestLiveItemData
  blocks : List IngestBlockTag
  tracks : List IngestTrackData
deriving DecidableEq

structure IngestFeedRequest where
  canonicalUrl : String
  /-- The URL before any redirect. -/
  sourceUrl : String
  crawlToken : String
  httpStatus : Nat
  contentHash : String
  feedData : Option IngestFeedData
  forceReingest : Bool
  redirects : List RedirectHop
deriving DecidableEq

structure IngestResponse where
  accepted : Bool
  reason : Option String
  eventsEmitted : List String
  noChange : Bool
  warnings : List String
  sourceUrl : Option String
deriving DecidableEq

def indexSlug : String := "musicindex"

section

variable [Platform]

def IngestBlockTag.isThisIndex (tag : IngestBlockTag) : Bool :=
  tag.id.any fun id => toLowercase (trim id) == indexSlug

/-- A tag that names no platform is for every index. -/
def hasBlockTag (blocks : List IngestBlockTag) (thisIndex : Bool) (value : String) : Bool :=
  blocks.any fun tag =>
    (if thisIndex then tag.isThisIndex else tag.id.all fun id => (trim id).isEmpty) &&
      toLowercase (trim tag.value) == value

/-- Each step reads every tag, so the order of the tags does not matter. -/
def sourceBlocksThisIndex (blocks : List IngestBlockTag) : Bool :=
  if hasBlockTag blocks true "no" then false
  else hasBlockTag blocks true "yes" || hasBlockTag blocks false "yes"

end

end Stophammer
