import Stophammer.Query.PublisherView

/-!
# The artist list

The list of `GET /v1/artist-names`: one row for each publisher feed, with the facts of its
links, and one row for each artist name of the releases that no held publisher feed claims.
-/

namespace Stophammer

open Relational

section

variable [Platform]

/-- The raw artists of the confirmed albums, the first one of each sort key. -/
def confirmedReleaseArtists (rows : List PublisherResponse) : List String :=
  dedupeBy sortKey [] <|
    (rows.filter fun row =>
      row.direction == .publisherToMusic && row.publisherLinkResolution != .unresolved &&
        row.remoteReleaseArtistSource != some "placeholder" && isConfirmedLink row).filterMap
          PublisherResponse.remoteReleaseArtist

structure LinkFacts where
  twoWayLinkCount : Nat
  statedRels : List String
  agreedRoles : List String
  confirmedReleaseArtists : List String
  firstNamedCount : Nat
deriving DecidableEq

def linkFacts (rows : List PublisherResponse) : LinkFacts :=
  let confirmed := rows.filter fun row => row.direction == .publisherToMusic && isConfirmedLink row
  { twoWayLinkCount := confirmed.length
    statedRels := textSet ((confirmed.filterMap PublisherResponse.publisherRel).flatMap relTokens)
    agreedRoles :=
      textSet (((confirmed.filter fun row => row.roleAgreement == some .both).filterMap
        PublisherResponse.publisherRel).flatMap relTokens)
    confirmedReleaseArtists := Stophammer.confirmedReleaseArtists rows
    firstNamedCount := confirmed.countP fun row => row.albumNamesRank == some 1 }

inductive ArtistNameKind where
  | publisher
  | name
deriving DecidableEq

def ArtistNameKind.text : ArtistNameKind → String
  | .publisher => "publisher"
  | .name => "name"

structure ArtistNameRow where
  kind : ArtistNameKind
  name : String
  sortName : String
  key : String
  feedGuid : Option String
  imageUrl : Option String
  releaseCount : Option Nat
  linkFacts : Option LinkFacts
deriving DecidableEq

structure ArtistNameList where
  rows : List ArtistNameRow
  /-- The releases of each `name` row, by its key. -/
  nameReleases : List (String × List String)
deriving DecidableEq

/-- The text that the most releases state, the first in code point order with a tie. -/
def groupName (rawArtists : List String) : String :=
  ((textSet rawArtists).foldl
    (fun best raw =>
      match best with
      | some (_, bestCount) =>
        if rawArtists.count raw ≤ bestCount then best else some (raw, rawArtists.count raw)
      | none => some (raw, rawArtists.count raw))
    (none : Option (String × Nat))).elim "" Prod.fst

def nameLevelReleases (t : ListInputs) : List (String × String) :=
  (t.feeds.filter fun f => isMusic f.rawMedium).filterMap fun f =>
    (f.releaseArtist.filter fun rawArtist =>
      !(trim rawArtist).isEmpty && isNameLevelRelease (loadPublisher t f.feedGuid)).map
        fun rawArtist => (f.feedGuid, rawArtist)

def publisherRow (t : ListInputs) (f : ListedFeed) : ArtistNameRow where
  kind := .publisher
  name := f.title
  sortName := sortKey f.title
  key := f.feedGuid
  feedGuid := some f.feedGuid
  imageUrl := webUrlOrNone f.imageUrl
  releaseCount := none
  linkFacts := some (Stophammer.linkFacts (loadPublisher t f.feedGuid))

def nameRow (key : String) (releases : List (String × String)) : ArtistNameRow where
  kind := .name
  name := groupName (releases.map Prod.snd)
  sortName := key
  key := key
  feedGuid := none
  imageUrl := none
  releaseCount := some releases.length
  linkFacts := none

def buildArtistNameList (t : ListInputs) : ArtistNameList :=
  let releases := nameLevelReleases t
  let groups := (textSet (releases.map fun r => sortKey r.2)).map fun key =>
    (key, releases.filter fun r => sortKey r.2 == key)
  let rows :=
    (t.feeds.filter fun f => isPublisher f.rawMedium).map (publisherRow t) ++
      groups.map fun (key, releases) => nameRow key releases
  { rows :=
      orderBy
        (compareLex (compareOn ArtistNameRow.sortName) <|
          compareLex (compareOn fun row => row.kind.text) (compareOn ArtistNameRow.key)) rows
    nameReleases := groups.map fun (key, releases) => (key, releases.map Prod.fst) }

structure ArtistNameCacheEntry where
  list : ArtistNameList
  seqAtBuild : Int
  builtAt : Nat

/-- The highest seq of the event log, and zero when it is empty. -/
def currentEventSeq (d : Db) : Int := ((d .events).map StoredEvent.seq).max?.getD 0

/-- `builtAt` is read after a build, and `now` before it. -/
def getOrBuild (minRebuildInterval now builtAt : Nat) (d : Db)
    (cache : Option ArtistNameCacheEntry) : ArtistNameList × Option ArtistNameCacheEntry :=
  let currentSeq := currentEventSeq d
  match cache.filter fun entry =>
      entry.seqAtBuild == currentSeq || decide (now - entry.builtAt < minRebuildInterval) with
  | some entry => (entry.list, cache)
  | none =>
    let list := buildArtistNameList (listInputs d)
    (list, some { list := list, seqAtBuild := currentSeq, builtAt := builtAt })

end

end Stophammer
