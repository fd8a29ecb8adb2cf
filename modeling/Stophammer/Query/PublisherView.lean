import Stophammer.Db.Records
import Stophammer.Ingest.Diff
import Stophammer.Query.Roles

/-!
# The `publisher` view

The links of a feed: an album names its publisher feeds, and a publisher feed lists its
albums.  The other side of a link is the first of its items that leads back.  The rows hold
only the columns that a result reads.
-/

namespace Stophammer

open Relational

/-- A row of `feeds` as the queries read it. -/
structure ListedFeed where
  feedGuid : String
  feedUrl : String
  title : String
  imageUrl : Option String
  rawMedium : Option String
  releaseArtist : Option String
  releaseArtistSource : Option String
deriving DecidableEq

/-- A row of `feed_remote_items_raw` as the queries read it. -/
structure ListedItem where
  position : Int
  medium : Option String
  remoteFeedGuid : String
  remoteFeedUrl : Option String
  rel : Option String
  source : String
deriving DecidableEq

def Feed.listed (f : Feed) : ListedFeed where
  feedGuid := f.feedGuid
  feedUrl := f.feedUrl
  title := f.title
  imageUrl := f.imageUrl
  rawMedium := f.rawMedium
  releaseArtist := f.releaseArtist
  releaseArtistSource := f.releaseArtistSource

def FeedRemoteItemRaw.listed (r : FeedRemoteItemRaw) : ListedItem where
  position := r.position
  medium := r.medium
  remoteFeedGuid := r.remoteFeedGuid
  remoteFeedUrl := r.remoteFeedUrl
  rel := r.rel
  source := r.source

/-- The rows that the view, and the list, are built from. -/
structure ListInputs where
  feeds : List ListedFeed
  remoteItems : String → List ListedItem
  observedGuid : String → Option String

def listInputs (d : Db) : ListInputs where
  feeds := (d .feeds).map fun r : FeedRow => r.feed.listed
  remoteItems feedGuid := (getFeedRemoteItemsForFeed d feedGuid).map FeedRemoteItemRaw.listed
  observedGuid url := (getFeedUrlObservation d url).map FeedUrlObservation.feedGuid

namespace ListInputs

variable (t : ListInputs)

def getFeed (feedGuid : String) : Option ListedFeed :=
  t.feeds.find? fun f => f.feedGuid == feedGuid

def feedGuidIsIndexed (feedGuid : String) : Bool := t.feeds.any fun f => f.feedGuid == feedGuid

end ListInputs

inductive ListedFeedResolution where
  | guid (feedGuid : String)
  | feedUrl (feedGuid : String)
  | unresolved
deriving DecidableEq

def ListedFeedResolution.feedGuid : ListedFeedResolution → Option String
  | .guid feedGuid | .feedUrl feedGuid => some feedGuid
  | .unresolved => none

/-- An observation comes before a stored URL. -/
def resolveListedFeed (t : ListInputs) (listedFeedGuid : String) (listedFeedUrl : Option String) :
    ListedFeedResolution :=
  if t.feedGuidIsIndexed listedFeedGuid then .guid listedFeedGuid
  else
    match listedFeedUrl with
    | none => .unresolved
    | some url =>
      match (t.observedGuid url).filter t.feedGuidIsIndexed with
      | some feedGuid => .feedUrl feedGuid
      | none =>
        match t.feeds.find? fun f => f.feedUrl == url with
        | some feed => .feedUrl feed.feedGuid
        | none => .unresolved

def ListedItem.resolve (t : ListInputs) (item : ListedItem) : ListedFeedResolution :=
  resolveListedFeed t item.remoteFeedGuid item.remoteFeedUrl

inductive PublisherDirection where
  | musicToPublisher
  | publisherToMusic
deriving DecidableEq

def publisherDirection (medium : Option String) : Option PublisherDirection :=
  if medium == some "publisher" then some .musicToPublisher
  else if medium == some "music" then some .publisherToMusic
  else none

def isAlbumPublisherLink (source : String) : Bool := source == "podcast_publisher"

/-- The place of an item among the publisher links of its album, from one on. -/
def albumItemRank (items : List ListedItem) (matchedPosition : Int) : Option Nat :=
  ((items.filter fun item =>
    item.medium == some "publisher" && isAlbumPublisherLink item.source).findIdx? fun item =>
      item.position == matchedPosition).map (· + 1)

structure PublisherLinkFacts where
  musicNamesPublisher : Bool
  publisherListsMusic : Bool
  publisherLinkResolution : ListedFeedResolution
  publisherFeedGuid : String
  musicFeedGuid : String
  matchedItemRel : Option String
  albumNamesRank : Option Nat
  namedFeedGuid : Option String

/-- `currentFeed` names the item as its publisher. -/
def musicToPublisherFacts (t : ListInputs) (currentFeed : ListedFeed) (item : ListedItem) :
    PublisherLinkFacts :=
  let publisherResolution := item.resolve t
  let matched := publisherResolution.feedGuid.bind fun publisherGuid =>
    ((t.remoteItems publisherGuid).filter fun candidate =>
      candidate.medium == some "music").find? fun candidate =>
        (candidate.resolve t).feedGuid == some currentFeed.feedGuid
  { musicNamesPublisher := true
    publisherListsMusic := matched.isSome
    publisherLinkResolution := (matched.map (·.resolve t)).getD .unresolved
    publisherFeedGuid := publisherResolution.feedGuid.getD item.remoteFeedGuid
    musicFeedGuid := currentFeed.feedGuid
    matchedItemRel := matched.bind ListedItem.rel
    albumNamesRank := none
    namedFeedGuid := publisherResolution.feedGuid }

/-- `currentFeed` lists the item as an album. -/
def publisherToMusicFacts (t : ListInputs) (currentFeed : ListedFeed) (item : ListedItem) :
    PublisherLinkFacts :=
  let musicResolution := item.resolve t
  let albumItems := (musicResolution.feedGuid.map t.remoteItems).getD []
  let matched :=
    (albumItems.filter fun candidate =>
      candidate.medium == some "publisher" && isAlbumPublisherLink candidate.source).find?
        fun candidate => (candidate.resolve t).feedGuid == some currentFeed.feedGuid
  { musicNamesPublisher := matched.isSome
    publisherListsMusic := true
    publisherLinkResolution := musicResolution
    publisherFeedGuid := currentFeed.feedGuid
    musicFeedGuid := musicResolution.feedGuid.getD item.remoteFeedGuid
    matchedItemRel := matched.bind ListedItem.rel
    albumNamesRank := matched.bind fun candidate => albumItemRank albumItems candidate.position
    namedFeedGuid := musicResolution.feedGuid }

structure PublisherResponse where
  direction : PublisherDirection
  publisherFeedGuid : String
  musicFeedGuid : String
  publisherLinkResolution : ListedFeedResolution
  twoWayValidated : Bool
  publisherRel : Option String
  musicRel : Option String
  role : Option String
  roleAgreement : Option RoleAgreement
  remoteFeedTitle : Option String
  remoteReleaseArtist : Option String
  remoteReleaseArtistSource : Option String
  albumNamesRank : Option Nat

def buildPublisherRow (t : ListInputs) (currentFeed : ListedFeed)
    (currentFeedRemoteItems : List ListedItem) (item : ListedItem) : Option PublisherResponse :=
  (publisherDirection item.medium).map fun direction =>
    let facts :=
      match direction with
      | .musicToPublisher => musicToPublisherFacts t currentFeed item
      | .publisherToMusic => publisherToMusicFacts t currentFeed item
    let (publisherRel, musicRel) :=
      match direction with
      | .musicToPublisher => (facts.matchedItemRel, item.rel)
      | .publisherToMusic => (item.rel, facts.matchedItemRel)
    let named := facts.namedFeedGuid.bind t.getFeed
    { direction := direction
      publisherFeedGuid := facts.publisherFeedGuid
      musicFeedGuid := facts.musicFeedGuid
      publisherLinkResolution := facts.publisherLinkResolution
      twoWayValidated := facts.musicNamesPublisher && facts.publisherListsMusic
      publisherRel := publisherRel
      musicRel := musicRel
      role := resolveRole publisherRel musicRel
      roleAgreement := Stophammer.roleAgreement publisherRel musicRel
      remoteFeedTitle := named.map ListedFeed.title
      remoteReleaseArtist := named.bind ListedFeed.releaseArtist
      remoteReleaseArtistSource := named.bind ListedFeed.releaseArtistSource
      albumNamesRank :=
        match direction with
        | .musicToPublisher => albumItemRank currentFeedRemoteItems item.position
        | .publisherToMusic => facts.albumNamesRank }

/-- A bare item with the medium `publisher` is no link. -/
def loadPublisher (t : ListInputs) (feedGuid : String) : List PublisherResponse :=
  match t.getFeed feedGuid with
  | none => []
  | some currentFeed =>
    let remoteItems := t.remoteItems feedGuid
    (remoteItems.filter fun item =>
      !(item.medium == some "publisher" && !isAlbumPublisherLink item.source)).filterMap
        (buildPublisherRow t currentFeed remoteItems)

def isConfirmedLink (row : PublisherResponse) : Bool :=
  row.twoWayValidated && row.roleAgreement != some .conflict

/-- No publisher feed that the node holds claims the release as an artist. -/
def isNameLevelRelease (rows : List PublisherResponse) : Bool :=
  (rows.filter fun row =>
    row.direction == .musicToPublisher && row.remoteFeedTitle.isSome).all fun row =>
      row.roleAgreement == some .both &&
        ((row.role.map relTokens).getD []).all fun token => token != "artist"

end Stophammer
