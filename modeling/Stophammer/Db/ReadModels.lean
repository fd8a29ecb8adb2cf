import Stophammer.Db.Content

/-!
# Read models

The full-text index with its companion table, and the quality scores.  A rowid is a
hash of the entity, so two entities can want one rowid.
-/

namespace Stophammer

open Relational Statement

/-- The order is the one of the rows: the query names none. -/
def getTracksForFeed (d : Db) (feedGuid : String) : List Track :=
  (d .tracks).filter fun r : Track => r.feedGuid == feedGuid

theorem getTracksForFeed_unindexed {d : Db} {feedGuid : String}
    (h : getFeedByGuid d feedGuid = none) : getTracksForFeed d feedGuid = [] := by
  rw [getTracksForFeed, List.filter_eq_nil_iff]
  intro track htrack hguid
  have href := d.valid.referenced .tracks track htrack (.feed track.feedGuid) (by simp [Table.refs])
  obtain ⟨row, hrow, hkey⟩ :=
    (Database.has_iff (show schema.home (.feed track.feedGuid) = Table.feeds from rfl)).mp href
  simp only [Table.keys, List.mem_cons, List.not_mem_nil, or_false, Key.feed.injEq,
    reduceCtorEq] at hkey
  rw [getFeedByGuid, Option.map_eq_none_iff, List.find?_eq_none] at h
  apply h row hrow
  rw [← hkey]
  exact hguid

def hasText (value : Option String) : Bool := value.any (!·.isEmpty)

/-- `points` when the condition holds. -/
def score (condition : Bool) (points : Int) : Int := if condition then points else 0

def feedFieldsQuality (f : Feed) : Int :=
  score (!f.title.isEmpty) 10 + score (hasText f.description) 15 + score f.imageUrl.isSome 15 +
    score f.language.isSome 5 + score (0 < f.episodeCount) 5 + score (hasText f.releaseArtist) 10 +
    score f.newestItemAt.isSome 5 + score f.explicit 5 + score f.itunesType.isSome 5

def computeFeedQuality (d : Db) (feedGuid : String) : Int :=
  ((getFeedByGuid d feedGuid).map feedFieldsQuality).getD 0 +
    score ((d .tracks).any fun r : Track => r.feedGuid == feedGuid) 10 +
    score (((d .feedPaymentRoutes).any fun r : FeedPaymentRoute => r.feedGuid == feedGuid) ||
      (d .paymentRoutes).any fun r : PaymentRoute => r.feedGuid == feedGuid) 15

def trackFieldsQuality (releaseArtist : Option String) (t : Track) : Int :=
  score (!t.title.isEmpty) 10 + score t.enclosureUrl.isSome 15 + score t.enclosureType.isSome 5 +
    score (t.durationSecs.any (0 < ·)) 10 + score t.pubDate.isSome 5 +
    score (hasText t.description) 10 +
    score (hasText t.trackArtist || hasText releaseArtist) 5 +
    score t.trackNumber.isSome 5 + score t.season.isSome 5

def computeTrackQualityForFeedTrack (d : Db) (feedGuid trackGuid : String) : Int :=
  ((getTrackForFeed d feedGuid trackGuid).map
      (trackFieldsQuality ((getFeedByGuid d feedGuid).bind Feed.releaseArtist))).getD 0 +
    score ((d .paymentRoutes).any fun r : PaymentRoute =>
      r.feedGuid == feedGuid && r.trackGuid == trackGuid) 20 +
    score ((d .valueTimeSplits).any (isSplitOf feedGuid trackGuid)) 10

def storeQuality (entityType entityId : String) (score : Int) : Stmt Unit :=
  upsert .entityQuality
    (fun r : EntityQualityRow => r.entityType == entityType && r.entityId == entityId)
    { entityType := entityType, entityId := entityId, score := score }
    (fun r : EntityQualityRow => { r with score := score })

def readModelTables : List Table := [.searchIndex, .searchEntities, .entityQuality]

theorem storeQuality_writes {entityType entityId : String} {score : Int} :
    Writes readModelTables (storeQuality entityType entityId score) :=
  Writes.upsert (by decide)

def deleteTrackQuality (feedGuid trackGuid : String) : Stmt Unit :=
  delete .entityQuality fun r : EntityQualityRow =>
    r.entityType == "track" &&
      (r.entityId == canonicalTrackEntityId feedGuid trackGuid || r.entityId == trackGuid)

def deleteFeedQuality (feedGuid : String) : Stmt Unit :=
  delete .entityQuality fun r : EntityQualityRow =>
    r.entityType == "feed" && r.entityId == feedGuid

variable [Platform]

def searchEntityAt (d : Db) (rowid : Int) : Option SearchEntityRow :=
  (d .searchEntities).find? fun r : SearchEntityRow => r.rowid == rowid

def populateSearchIndex (entityType entityId name title description : String) : Stmt Unit := do
  let rowid := rowidFor entityType entityId
  match ← read (searchEntityAt · rowid) with
  | some existing =>
    -- another entity holds the rowid: this one stays out of the index
    if existing.entityType != entityType || existing.entityId != entityId then pure ()
    else do
      delete .searchIndex fun r : SearchIndexRow => r.rowid == rowid
      writeRow rowid
  | none => writeRow rowid
where
  writeRow (rowid : Int) : Stmt Unit := do
    insert .searchIndex
      { rowid := rowid
        name := truncateFtsField name
        title := truncateFtsField title
        description := truncateFtsField description }
    insertOrReplace .searchEntities
      { rowid := rowid, entityType := entityType, entityId := entityId }

/-- The rowid alone names the row, so this can delete the row of another entity. -/
def deleteFromSearchIndex (entityType entityId : String) : Stmt Unit := do
  let rowid := rowidFor entityType entityId
  match ← read (searchEntityAt · rowid) with
  | some _ => delete .searchIndex fun r : SearchIndexRow => r.rowid == rowid
  | none => pure ()
  delete .searchEntities fun r : SearchEntityRow => r.rowid == rowid

def syncSearchEntity (keep : Bool) (entityType entityId name title description : String) :
    Stmt Unit :=
  if keep then populateSearchIndex entityType entityId name title description
  else deleteFromSearchIndex entityType entityId

def syncTrackReadModels (isMusic : Bool) (track : Track) : Stmt Unit := do
  let entityId := canonicalTrackEntityId track.feedGuid track.trackGuid
  syncSearchEntity isMusic "track" entityId (track.trackArtist.getD "") track.title
    (track.description.getD "")
  let trackScore ← read (computeTrackQualityForFeedTrack · track.feedGuid track.trackGuid)
  storeQuality "track" entityId trackScore

def syncSourceReadModelsForFeed (feedGuid : String) : Stmt Unit := do
  match ← read (getFeedByGuid · feedGuid) with
  | none => pure ()
  | some feed =>
    let name := feed.releaseArtist.getD ""
    let description := feed.description.getD ""
    syncSearchEntity (isMusic feed.rawMedium) "feed" feed.feedGuid name feed.title description
    syncSearchEntity (isPublisher feed.rawMedium) "publisher" feed.feedGuid name feed.title
      description
    let feedScore ← read (computeFeedQuality · feed.feedGuid)
    storeQuality "feed" feed.feedGuid feedScore
    let tracks ← read (getTracksForFeed · feedGuid)
    forEach (syncTrackReadModels (isMusic feed.rawMedium)) tracks

theorem populateSearchIndex_writes {entityType entityId name title description : String} :
    Writes readModelTables (populateSearchIndex entityType entityId name title description) := by
  have hrow : ∀ rowid, Writes readModelTables
      (populateSearchIndex.writeRow entityType entityId name title description rowid) := by
    intro rowid
    exact (Writes.insert (by decide)).bind fun _ => Writes.insertOrReplace (by decide)
  apply (Writes.read _).bind
  intro existing
  cases existing with
  | none => exact hrow _
  | some existing =>
    exact Writes.ite (Writes.pure ()) ((Writes.delete (by decide)).bind fun _ => hrow _)

theorem deleteFromSearchIndex_writes {entityType entityId : String} :
    Writes readModelTables (deleteFromSearchIndex entityType entityId) := by
  apply (Writes.read _).bind
  intro existing
  cases existing with
  | none => exact (Writes.pure ()).bind fun _ => Writes.delete (by decide)
  | some _ => exact (Writes.delete (by decide)).bind fun _ => Writes.delete (by decide)

theorem syncSearchEntity_writes {keep : Bool}
    {entityType entityId name title description : String} :
    Writes readModelTables (syncSearchEntity keep entityType entityId name title description) :=
  Writes.ite populateSearchIndex_writes deleteFromSearchIndex_writes

theorem syncTrackReadModels_writes {isMusic : Bool} {track : Track} :
    Writes readModelTables (syncTrackReadModels isMusic track) := by
  apply syncSearchEntity_writes.bind
  intro _
  exact (Writes.read _).bind fun _ => storeQuality_writes

theorem syncSourceReadModelsForFeed_writes {feedGuid : String} :
    Writes readModelTables (syncSourceReadModelsForFeed feedGuid) := by
  apply (Writes.read _).bind
  intro feed
  cases feed with
  | none => exact Writes.pure ()
  | some feed =>
    apply syncSearchEntity_writes.bind
    intro _
    apply syncSearchEntity_writes.bind
    intro _
    apply (Writes.read _).bind
    intro _
    apply storeQuality_writes.bind
    intro _
    exact (Writes.read _).bind fun _ => Writes.forEach fun _ => syncTrackReadModels_writes

end Stophammer
