import Stophammer.Ingest.Live

/-!
# The content of a submission

The rows that the body of a submission makes, before a transaction writes them.
-/

namespace Stophammer

/-- A track with its payment routes, value time splits and remote items. -/
structure TrackIngestBundle where
  track : Track
  routes : List PaymentRoute
  splits : List ValueTimeSplit
  remoteItems : List TrackRemoteItemRaw
deriving DecidableEq

structure IngestContent where
  feed : Feed
  remoteItems : List FeedRemoteItemRaw
  sourceContributorClaims : List SourceContributorClaim
  sourceEntityIds : List SourceEntityIdClaim
  sourceEntityLinks : List SourceEntityLink
  sourceReleaseClaims : List SourceReleaseClaim
  sourceItemEnclosures : List SourceItemEnclosure
  sourceItemTranscripts : List SourceItemTranscript
  sourcePlatformClaims : List SourcePlatformClaim
  feedRoutes : List FeedPaymentRoute
  feedListValues : List FeedListValueRaw
  liveEvents : List LiveEvent
  tracks : List TrackIngestBundle
deriving DecidableEq

def classifyPlatformOwner (ownerName : String) : Option String :=
  match toAsciiLowercase (trim ownerName) with
  | "wavlake" => some "wavlake"
  | "fountain" => some "fountain"
  | "rss blue" | "rssblue" => some "rss_blue"
  | "podhome" => some "podhome"
  | "justcast" => some "justcast"
  | _ => none

def isPlatformOwnerName (name : String) : Bool := (classifyPlatformOwner name).isSome

def platformOfHost (host : String) : Option String :=
  match toAsciiLowercase (trim host) with
  | "wavlake.com" | "www.wavlake.com" => some "wavlake"
  | "fountain.fm" | "www.fountain.fm" | "feeds.fountain.fm" => some "fountain"
  | "rssblue.com" | "www.rssblue.com" | "feeds.rssblue.com" => some "rss_blue"
  | "podhome.fm" | "serve.podhome.fm" => some "podhome"
  | "justcast.com" | "feed.justcast.com" => some "justcast"
  | _ => none

def normalizeRole (role : Option String) : Option String :=
  (nonEmptyTrimmed role).map fun text =>
    joinWith " " ((splitWhitespace text).map toAsciiLowercase)

def deriveReleaseArtist (feedData : IngestFeedData) : String × String :=
  match nonEmptyTrimmed feedData.authorName, nonEmptyTrimmed feedData.ownerName with
  | some authorName, _ => (authorName, "itunes_author")
  | none, some ownerName =>
    if isPlatformOwnerName ownerName then ("Unknown Artist", "placeholder")
    else (ownerName, "itunes_owner")
  | none, none => ("Unknown Artist", "placeholder")

def derivePublisherName (feedData : IngestFeedData) : Option String :=
  nonEmptyTrimmed feedData.ownerName

def nonEmptyText (value : Option String) : Bool := value.any fun text => !(trim text).isEmpty

/-- Each form also asks for the absence of the other one. -/
def IngestValueTimeSplit.valid (v : IngestValueTimeSplit) : Bool :=
  match v.form with
  | .remote => nonEmptyText v.remoteFeedGuid && v.recipients.isEmpty
  | .local =>
    !v.recipients.isEmpty && !nonEmptyText v.remoteFeedGuid && !nonEmptyText v.remoteItemGuid

def IngestPaymentRoute.recipient (r : IngestPaymentRoute) : ValueTimeSplitRecipient where
  recipientName := r.recipientName
  routeType := r.routeType
  address := r.address
  customKey := r.customKey
  customValue := r.customValue
  split := r.split
  fee := r.fee

/-- The position of a split is its place in the body, also when others are dropped. -/
def buildValueTimeSplits (feedGuid trackGuid : String) (splits : List IngestValueTimeSplit)
    (now : Int) : List ValueTimeSplit :=
  (splits.zipIdx.filter fun (v, _) => v.valid).map fun (v, index) =>
    { sourceFeedGuid := feedGuid
      sourceTrackGuid := trackGuid
      position := index
      form := v.form
      startTimeSecs := v.startTimeSecs
      durationSecs := v.durationSecs
      remoteFeedGuid := v.remoteFeedGuid
      remoteItemGuid := v.remoteItemGuid
      remoteStartTimeSecs := v.remoteStartTimeSecs
      remotePercentage := v.remotePercentage
      recipients := v.recipients.map IngestPaymentRoute.recipient
      createdAt := now }

section Claims

variable (feedGuid entityType entityId : String) (now : Int)

def buildSourceContributorClaims (persons : List IngestPerson) : List SourceContributorClaim :=
  persons.zipIdx.map fun (person, position) =>
    { feedGuid := feedGuid
      entityType := entityType
      entityId := entityId
      position := position
      name := person.name
      role := person.role
      roleNorm := normalizeRole person.role
      groupName := person.groupName
      href := person.href
      img := person.img
      npub := person.npub
      source := "podcast_person"
      extractionPath := entityType ++ ".podcast:person"
      observedAt := now }

def buildSourceEntityIdClaims (entityIds : List IngestEntityId) : List SourceEntityIdClaim :=
  (dedupeBy (fun c => (c.scheme, c.value)) [] entityIds).map fun claim =>
    { feedGuid := feedGuid
      entityType := entityType
      entityId := entityId
      position := claim.position
      scheme := claim.scheme
      value := claim.value
      source := "podcast_txt"
      extractionPath := entityType ++ ".podcast:txt"
      observedAt := now }

def linkExtractionPath (link : IngestLink) : String :=
  if (trim link.extractionPath).isEmpty then
    match link.linkType with
    | "self_feed" => "feed.atom:link[@rel='self']"
    | "website" => "feed.link[*]"
    | "web_page" => "entity.link[*]"
    | "content_stream" => "live_item.@contentLink"
    | _ => "entity.link"
  else link.extractionPath

def buildSourceEntityLinks (links : List IngestLink) : List SourceEntityLink :=
  (dedupeBy (fun l => (l.linkType, l.url)) [] links).map fun link =>
    { feedGuid := feedGuid
      entityType := entityType
      entityId := entityId
      position := link.position
      linkType := link.linkType
      url := link.url
      source := if link.linkType == "funding" then "podcast_funding" else "rss_link"
      extractionPath := linkExtractionPath link
      observedAt := now
      label := link.label }

def primaryEnclosure (primaryMimeType : Option String) (primaryBytes : Option Int)
    (url : String) : SourceItemEnclosure where
  feedGuid := feedGuid
  entityType := entityType
  entityId := entityId
  position := 0
  url := url
  mimeType := primaryMimeType
  bytes := primaryBytes
  rel := none
  title := none
  isPrimary := true
  source := "rss_enclosure"
  extractionPath := entityType ++ ".enclosure"
  observedAt := now

/-- The position is the number of enclosures before this one. -/
def alternateEnclosure (enclosure : IngestAlternateEnclosure) (position : Nat) :
    SourceItemEnclosure where
  feedGuid := feedGuid
  entityType := entityType
  entityId := entityId
  position := position
  url := trim enclosure.url
  mimeType := enclosure.mimeType
  bytes := enclosure.bytes
  rel := enclosure.rel
  title := enclosure.title
  isPrimary := false
  source := "podcast_alternate_enclosure"
  extractionPath :=
    if (trim enclosure.extractionPath).isEmpty then entityType ++ ".podcast:alternateEnclosure"
    else enclosure.extractionPath
  observedAt := now

def buildSourceItemEnclosures (primaryUrl primaryMimeType : Option String)
    (primaryBytes : Option Int) (alternateEnclosures : List IngestAlternateEnclosure) :
    List SourceItemEnclosure :=
  let primary := (nonEmptyTrimmed primaryUrl).toList
  let alternates := dedupeBy (fun e => trim e.url) primary
    (alternateEnclosures.filter fun e => !(trim e.url).isEmpty)
  primary.map (primaryEnclosure feedGuid entityType entityId now primaryMimeType primaryBytes) ++
    (alternates.zipIdx primary.length).map fun (e, position) =>
      alternateEnclosure feedGuid entityType entityId now e position

def buildSourceItemTranscripts (transcripts : List IngestTranscript) :
    List SourceItemTranscript :=
  (transcripts.filter fun t => !(trim t.url).isEmpty).zipIdx.map fun (transcript, position) =>
    { feedGuid := feedGuid
      entityType := entityType
      entityId := entityId
      position := position
      url := trim transcript.url
      mimeType := transcript.mimeType
      language := transcript.language
      rel := transcript.rel
      source := "podcast_transcript"
      extractionPath := entityType ++ ".podcast:transcript"
      observedAt := now }

/-- No claim for a value that is absent or blank. -/
def sourceReleaseClaim (claimType : String) (claimValue : Option String)
    (extractionPath : String) : List SourceReleaseClaim :=
  (nonEmptyTrimmed claimValue).toList.map fun value =>
    { feedGuid := feedGuid
      entityType := entityType
      entityId := entityId
      position := 0
      claimType := claimType
      claimValue := value
      source := "rss_metadata"
      extractionPath := extractionPath
      observedAt := now }

end Claims

section

variable [Platform]

def classifyPlatformUrl (url : String) : Option String := (urlHost url).bind platformOfHost

def platformClaim (feedGuid platformKey : String) (url ownerName : Option String)
    (extractionPath : String) (now : Int) : SourcePlatformClaim where
  feedGuid := feedGuid
  platformKey := platformKey
  url := url
  ownerName := ownerName
  source := "platform_classifier"
  extractionPath := extractionPath
  observedAt := now

/-- The first claim of each platform, URL, owner name and path. -/
def buildSourcePlatformClaims (feedGuid canonicalUrl : String) (ownerName : Option String)
    (links : List IngestLink) (now : Int) : List SourcePlatformClaim :=
  let canonical := (classifyPlatformUrl canonicalUrl).toList.map fun platformKey =>
    platformClaim feedGuid platformKey (some (trim canonicalUrl)) none "request.canonical_url" now
  let linked := links.filterMap fun link =>
    (classifyPlatformUrl link.url).map fun platformKey =>
      platformClaim feedGuid platformKey (some (trim link.url)) none
        (if (trim link.extractionPath).isEmpty then "feed.link" else link.extractionPath) now
  let owned := ((nonEmptyTrimmed ownerName).bind fun name =>
    (classifyPlatformOwner name).map fun platformKey =>
      platformClaim feedGuid platformKey none (some name) "feed.owner_name" now).toList
  dedupeBy (fun c => (c.platformKey, c.url, c.ownerName, c.extractionPath)) []
    (canonical ++ linked ++ owned)

end

/-- The submission with what the handler has read and chosen before it makes the rows. -/
structure BuildInput where
  feedData : IngestFeedData
  canonicalUrl : String
  /-- The URL that the record keeps or takes. -/
  feedUrl : String
  now : Int

namespace BuildInput

variable (i : BuildInput)

def isMusicl : Bool := Stophammer.isMusicl i.feedData.rawMedium

/-- A list feed has no tracks and no live items. -/
def tracks : List IngestTrackData := if i.isMusicl then [] else i.feedData.tracks

def rawLiveItems : List IngestLiveItemData := if i.isMusicl then [] else i.feedData.liveItems

def liveItems : List IngestLiveItemData := (selectLiveItems i.rawLiveItems).1

def pubDates : List Int := i.tracks.filterMap IngestTrackData.pubDate

def newestItemAt : Option Int := i.pubDates.max?

def oldestItemAt : Option Int := i.pubDates.min?

def effectiveReleaseDate : Option Int := i.feedData.pubDate.or i.oldestItemAt

def feedRemoteItem (item : IngestRemoteFeedRef) : FeedRemoteItemRaw where
  feedGuid := i.feedData.feedGuid
  position := item.position
  medium := item.medium
  remoteFeedGuid := item.remoteFeedGuid
  remoteFeedUrl := item.remoteFeedUrl
  rel := item.rel
  source := if item.publisherReference then "podcast_publisher" else "podcast_remote_item"
  remoteItemGuid := item.itemGuid
  remoteItemTitle := item.itemTitle

def feedRoute (r : IngestPaymentRoute) : FeedPaymentRoute where
  feedGuid := i.feedData.feedGuid
  recipientName := r.recipientName
  routeType := r.routeType
  address := r.address
  customKey := r.customKey
  customValue := r.customValue
  split := r.split
  fee := r.fee

def feedListValue (r : IngestPaymentRoute) (position : Nat) : FeedListValueRaw where
  feedGuid := i.feedData.feedGuid
  recipientName := r.recipientName
  routeType := r.routeType
  address := r.address
  customKey := r.customKey
  customValue := r.customValue
  split := r.split
  fee := r.fee
  position := position

def liveEvent (item : IngestLiveItemData) : LiveEvent where
  liveItemGuid := item.liveItemGuid
  feedGuid := i.feedData.feedGuid
  title := item.title
  contentLink := item.contentLink
  status := item.status
  scheduledStart := item.startAt
  scheduledEnd := item.endAt
  createdAt := i.now
  updatedAt := i.now
  liveValueUri := item.liveValueUri
  liveValueProtocol := item.liveValueProtocol

def trackRoute (trackGuid : String) (r : IngestPaymentRoute) : PaymentRoute where
  trackGuid := trackGuid
  feedGuid := i.feedData.feedGuid
  recipientName := r.recipientName
  routeType := r.routeType
  address := r.address
  customKey := r.customKey
  customValue := r.customValue
  split := r.split
  fee := r.fee

def trackRemoteItem (trackGuid : String) (r : IngestRemoteFeedRef) : TrackRemoteItemRaw where
  feedGuid := i.feedData.feedGuid
  trackGuid := trackGuid
  position := r.position
  medium := r.medium
  remoteFeedGuid := r.remoteFeedGuid
  remoteFeedUrl := r.remoteFeedUrl
  rel := r.rel
  source := "podcast_remote_item"

section Entities

/-- The claims of the feed, of its tracks and of its live items, in that order. -/
def perEntity {α : Type} (ofFeed : List α) (ofTrack : IngestTrackData → List α)
    (ofLiveItem : IngestLiveItemData → List α) : List α :=
  ofFeed ++ i.tracks.flatMap ofTrack ++ i.liveItems.flatMap ofLiveItem

def contributorClaims : List SourceContributorClaim :=
  let claims := fun entityType entityId persons =>
    buildSourceContributorClaims i.feedData.feedGuid entityType entityId i.now persons
  i.perEntity (claims "feed" i.feedData.feedGuid i.feedData.persons)
    (fun t => claims "track" t.trackGuid t.persons)
    (fun l => claims "live_item" l.liveItemGuid l.persons)

def entityIdClaims : List SourceEntityIdClaim :=
  let claims := fun entityType entityId entityIds =>
    buildSourceEntityIdClaims i.feedData.feedGuid entityType entityId i.now entityIds
  i.perEntity (claims "feed" i.feedData.feedGuid i.feedData.entityIds)
    (fun t => claims "track" t.trackGuid t.entityIds)
    (fun l => claims "live_item" l.liveItemGuid l.entityIds)

def entityLinks : List SourceEntityLink :=
  let claims := fun entityType entityId links =>
    buildSourceEntityLinks i.feedData.feedGuid entityType entityId i.now links
  i.perEntity (claims "feed" i.feedData.feedGuid i.feedData.links)
    (fun t => claims "track" t.trackGuid t.links)
    (fun l => claims "live_item" l.liveItemGuid l.links)

def itemEnclosures : List SourceItemEnclosure :=
  let claims := buildSourceItemEnclosures i.feedData.feedGuid
  i.perEntity []
    (fun t => claims "track" t.trackGuid i.now t.enclosureUrl t.enclosureType t.enclosureBytes
      t.alternateEnclosures)
    (fun l => claims "live_item" l.liveItemGuid i.now l.enclosureUrl l.enclosureType
      l.enclosureBytes l.alternateEnclosures)

def itemTranscripts : List SourceItemTranscript :=
  let claims := fun entityType entityId transcripts =>
    buildSourceItemTranscripts i.feedData.feedGuid entityType entityId i.now transcripts
  i.perEntity [] (fun t => claims "track" t.trackGuid t.transcripts)
    (fun l => claims "live_item" l.liveItemGuid l.transcripts)

def feedReleaseClaims : List SourceReleaseClaim :=
  let claim := fun claimType claimValue extractionPath =>
    sourceReleaseClaim i.feedData.feedGuid "feed" i.feedData.feedGuid i.now claimType claimValue
      extractionPath
  claim "release_date" (i.effectiveReleaseDate.map toString)
      (if i.feedData.pubDate.isSome then "feed.pub_date" else "oldest_item.pub_date") ++
    claim "last_build_date" (i.feedData.lastBuildDate.map toString) "feed.last_build_date" ++
    claim "description" i.feedData.description "feed.description" ++
    claim "language" i.feedData.language "feed.language" ++
    claim "image_url" i.feedData.imageUrl "feed.image_url" ++
    claim "raw_medium" i.feedData.rawMedium "feed.raw_medium" ++
    claim "itunes_type" i.feedData.itunesType "feed.itunes_type"

def itemReleaseClaims (entityType entityId : String) (pubDate : Option Int)
    (description : Option String) : List SourceReleaseClaim :=
  sourceReleaseClaim i.feedData.feedGuid entityType entityId i.now "release_date"
      (pubDate.map toString) (entityType ++ ".pub_date") ++
    sourceReleaseClaim i.feedData.feedGuid entityType entityId i.now "description" description
      (entityType ++ ".description")

def releaseClaims : List SourceReleaseClaim :=
  i.perEntity i.feedReleaseClaims
    (fun t => i.itemReleaseClaims "track" t.trackGuid t.pubDate t.description)
    (fun l => i.itemReleaseClaims "live_item" l.liveItemGuid l.pubDate l.description)

end Entities

variable [Platform]

def feed : Feed where
  feedGuid := i.feedData.feedGuid
  feedUrl := i.feedUrl
  title := i.feedData.title
  titleLower := toLowercase i.feedData.title
  description := i.feedData.description
  imageUrl := i.feedData.imageUrl
  publisher := derivePublisherName i.feedData
  language := i.feedData.language
  explicit := i.feedData.explicit
  itunesType := i.feedData.itunesType
  releaseArtist := some (deriveReleaseArtist i.feedData).1
  releaseArtistSort := none
  releaseDate := i.effectiveReleaseDate
  releaseKind := some "unknown"
  episodeCount := i.tracks.length
  newestItemAt := i.newestItemAt
  oldestItemAt := i.oldestItemAt
  createdAt := i.now
  updatedAt := i.now
  rawMedium := i.feedData.rawMedium
  lastBuildDate := i.feedData.lastBuildDate
  releaseArtistSource := some (deriveReleaseArtist i.feedData).2

def track (t : IngestTrackData) : Track where
  trackGuid := t.trackGuid
  feedGuid := i.feedData.feedGuid
  title := t.title
  titleLower := toLowercase t.title
  pubDate := t.pubDate
  durationSecs := t.durationSecs
  enclosureUrl := t.enclosureUrl
  enclosureType := t.enclosureType
  enclosureBytes := t.enclosureBytes
  trackNumber := t.trackNumber
  season := t.season
  imageUrl := t.imageUrl
  publisher := derivePublisherName i.feedData
  language := t.language.or i.feedData.language
  explicit := t.explicit
  description := t.description
  trackArtist := some (t.authorName.getD (deriveReleaseArtist i.feedData).1)
  trackArtistSort := none
  createdAt := i.now
  updatedAt := i.now

def trackBundle (t : IngestTrackData) : TrackIngestBundle where
  track := i.track t
  routes := t.paymentRoutes.map (i.trackRoute t.trackGuid)
  splits := buildValueTimeSplits i.feedData.feedGuid t.trackGuid t.valueTimeSplits i.now
  remoteItems := t.remoteItems.map (i.trackRemoteItem t.trackGuid)

def content : IngestContent where
  feed := i.feed
  remoteItems := i.feedData.remoteItems.map i.feedRemoteItem
  sourceContributorClaims := dedupeSourceContributorClaims i.contributorClaims
  sourceEntityIds := dedupeSourceEntityIds i.entityIdClaims
  sourceEntityLinks := dedupeSourceEntityLinks i.entityLinks
  sourceReleaseClaims := dedupeSourceReleaseClaims i.releaseClaims
  sourceItemEnclosures := dedupeSourceItemEnclosures i.itemEnclosures
  sourceItemTranscripts := dedupeSourceItemTranscripts i.itemTranscripts
  sourcePlatformClaims := buildSourcePlatformClaims i.feedData.feedGuid i.canonicalUrl
    i.feedData.ownerName i.feedData.links i.now
  feedRoutes := if i.isMusicl then [] else i.feedData.feedPaymentRoutes.map i.feedRoute
  feedListValues :=
    if i.isMusicl then
      i.feedData.feedPaymentRoutes.zipIdx.map fun (r, position) => i.feedListValue r position
    else []
  liveEvents := i.liveItems.map i.liveEvent
  tracks := i.tracks.map i.trackBundle

end BuildInput

section Warnings

variable [Platform]

def isNonWeb (value : Option String) : Bool := value.isSome && (webUrlOrNone value).isNone

/-- A text with no scheme is an identifier, not a URL. -/
def isNonWebScheme (value : Option String) : Bool :=
  (value.bind urlScheme).any fun scheme => !isWebScheme scheme

def nonWebUrlWarning (field : String) (bad : Bool) : List String :=
  if bad then ["non-web URL in " ++ field] else []

/-- One warning for each field name, not for each value. -/
def nonWebUrlWarnings (feedData : IngestFeedData) (tracks : List IngestTrackData)
    (liveItems : List IngestLiveItemData) : List String :=
  nonWebUrlWarning "image_url" (isNonWeb feedData.imageUrl ||
      tracks.any fun t => isNonWeb t.imageUrl) ++
    nonWebUrlWarning "enclosure_url" (tracks.any fun t => isNonWeb t.enclosureUrl) ++
    nonWebUrlWarning "url" (feedData.links.any (fun l => isNonWeb (some l.url)) ||
      tracks.any fun t => t.links.any (fun l => isNonWeb (some l.url)) ||
        t.alternateEnclosures.any (fun e => isNonWeb (some e.url)) ||
        t.transcripts.any fun t => isNonWeb (some t.url)) ++
    nonWebUrlWarning "remote_feed_url"
      (feedData.remoteItems.any (fun r => isNonWeb r.remoteFeedUrl) ||
        tracks.any fun t => t.remoteItems.any fun r => isNonWeb r.remoteFeedUrl) ++
    nonWebUrlWarning "href" (feedData.persons.any (fun p => isNonWeb p.href) ||
      tracks.any fun t => t.persons.any fun p => isNonWeb p.href) ++
    nonWebUrlWarning "img" (feedData.persons.any (fun p => isNonWeb p.img) ||
      tracks.any fun t => t.persons.any fun p => isNonWeb p.img) ++
    nonWebUrlWarning "content_link" (liveItems.any fun l => isNonWeb l.contentLink) ++
    nonWebUrlWarning "live_value_uri" (liveItems.any fun l => isNonWebScheme l.liveValueUri)

end Warnings

end Stophammer
