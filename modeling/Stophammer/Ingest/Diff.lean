import Stophammer.Db.Events
import Stophammer.Db.ReadModels
import Stophammer.Ingest.Content

/-!
# Events of a submission

The stored rows of a feed, in the order in which the source reads them, the tests that
compare them with the rows of a submission, and the events that the differences make.
-/

namespace Stophammer

open Relational

section Reads

variable (d : Db) (feedGuid : String)

def getFeedPaymentRoutesForFeed : List FeedPaymentRoute :=
  (d .feedPaymentRoutes).filter fun r : FeedPaymentRoute => r.feedGuid == feedGuid

def getFeedListValueRawForFeed : List FeedListValueRaw :=
  orderBy (compareOn FeedListValueRaw.position)
    ((d .feedListValueRaw).filter fun r : FeedListValueRaw => r.feedGuid == feedGuid)

def getFeedRemoteItemsForFeed : List FeedRemoteItemRaw :=
  orderBy (compareOn FeedRemoteItemRaw.position)
    ((d .feedRemoteItemsRaw).filter fun r : FeedRemoteItemRaw => r.feedGuid == feedGuid)

/-- A read gives the empty text for an absent feed GUID. -/
def TrackRemoteItemRow.raw (r : TrackRemoteItemRow) : TrackRemoteItemRaw where
  feedGuid := r.feedGuid.getD ""
  trackGuid := r.trackGuid
  position := r.position
  medium := r.medium
  remoteFeedGuid := r.remoteFeedGuid
  remoteFeedUrl := r.remoteFeedUrl
  rel := r.rel
  source := r.source

def getTrackRemoteItemsForFeedTrack (trackGuid : String) : List TrackRemoteItemRaw :=
  (orderBy (compareOn TrackRemoteItemRow.position)
    ((d .trackRemoteItemsRaw).filter (isTrackRemoteItemOf feedGuid trackGuid))).map
      TrackRemoteItemRow.raw

def getSourceContributorClaimsForFeed : List SourceContributorClaim :=
  orderBy
    (compareLex (compareOn SourceContributorClaim.entityType) <|
      compareLex (compareOn SourceContributorClaim.entityId)
        (compareOn SourceContributorClaim.position))
    ((d .sourceContributorClaims).filter fun r : SourceContributorClaim => r.feedGuid == feedGuid)

def getSourceEntityIdsForFeed : List SourceEntityIdClaim :=
  orderBy
    (compareLex (compareOn SourceEntityIdClaim.entityType) <|
      compareLex (compareOn SourceEntityIdClaim.entityId) <|
      compareLex (compareOn SourceEntityIdClaim.position) <|
      compareLex (compareOn SourceEntityIdClaim.scheme) (compareOn SourceEntityIdClaim.value))
    ((d .sourceEntityIds).filter fun r : SourceEntityIdClaim => r.feedGuid == feedGuid)

def getSourceEntityLinksForFeed : List SourceEntityLink :=
  orderBy
    (compareLex (compareOn SourceEntityLink.entityType) <|
      compareLex (compareOn SourceEntityLink.entityId) <|
      compareLex (compareOn SourceEntityLink.position) <|
      compareLex (compareOn SourceEntityLink.linkType) (compareOn SourceEntityLink.url))
    ((d .sourceEntityLinks).filter fun r : SourceEntityLink => r.feedGuid == feedGuid)

def getSourceReleaseClaimsForFeed : List SourceReleaseClaim :=
  orderBy
    (compareLex (compareOn SourceReleaseClaim.entityType) <|
      compareLex (compareOn SourceReleaseClaim.entityId) <|
      compareLex (compareOn SourceReleaseClaim.claimType) (compareOn SourceReleaseClaim.position))
    ((d .sourceReleaseClaims).filter fun r : SourceReleaseClaim => r.feedGuid == feedGuid)

def getSourceItemEnclosuresForFeed : List SourceItemEnclosure :=
  orderBy
    (compareLex (compareOn SourceItemEnclosure.entityType) <|
      compareLex (compareOn SourceItemEnclosure.entityId) <|
      compareLex (compareOn SourceItemEnclosure.position) (compareOn SourceItemEnclosure.url))
    ((d .sourceItemEnclosures).filter fun r : SourceItemEnclosure => r.feedGuid == feedGuid)

def getSourceItemTranscriptsForFeed : List SourceItemTranscript :=
  orderBy
    (compareLex (compareOn SourceItemTranscript.entityType) <|
      compareLex (compareOn SourceItemTranscript.entityId) <|
      compareLex (compareOn SourceItemTranscript.position) (compareOn SourceItemTranscript.url))
    ((d .sourceItemTranscripts).filter fun r : SourceItemTranscript => r.feedGuid == feedGuid)

/-- An absent URL or owner name comes first. -/
def getSourcePlatformClaimsForFeed : List SourcePlatformClaim :=
  orderBy
    (compareLex (compareOn SourcePlatformClaim.platformKey) <|
      compareLex (compareOn SourcePlatformClaim.extractionPath) <|
      compareLex (compareOn SourcePlatformClaim.url) (compareOn SourcePlatformClaim.ownerName))
    ((d .sourcePlatformClaims).filter fun r : SourcePlatformClaim => r.feedGuid == feedGuid)

end Reads

/-- The two lists differ in length, or two rows of one index differ in `fields`. -/
def rowsChanged {α β : Type} [BEq β] (fields : α → β) (existing new : List α) : Bool :=
  existing.length != new.length ||
    (existing.zip new).any fun (a, b) => fields a != fields b

theorem rowsChanged_eq_false {α β : Type} [BEq β] [LawfulBEq β] {fields : α → β}
    {existing new : List α} :
    rowsChanged fields existing new = false ↔ existing.map fields = new.map fields := by
  induction existing generalizing new with
  | nil =>
    cases new with
    | nil => simp [rowsChanged]
    | cons b new => simp [rowsChanged]
  | cons a existing ih =>
    cases new with
    | nil => simp [rowsChanged]
    | cons b new =>
      have hrest := @ih new
      simp only [rowsChanged, Bool.or_eq_false_iff, bne_eq_false_iff_eq] at hrest
      simp only [rowsChanged, List.length_cons, List.zip_cons_cons, List.any_cons, List.map_cons,
        List.cons.injEq, Bool.or_eq_false_iff, bne_eq_false_iff_eq, Nat.add_right_cancel_iff,
        ← hrest]
      constructor
      · rintro ⟨hlen, hhead, htail⟩
        exact ⟨hhead, hlen, htail⟩
      · rintro ⟨hhead, hlen, htail⟩
        exact ⟨hlen, hhead, htail⟩

/-- The times and the counted fields are not compared. -/
def feedFieldsChanged (existing new : Feed) : Bool :=
  fields existing != fields new
where
  fields (f : Feed) :=
    (f.title, f.description, f.imageUrl, f.publisher, f.language, f.explicit, f.itunesType,
      f.releaseArtist, f.releaseArtistSort, f.releaseDate, f.releaseKind, f.rawMedium, f.feedUrl)

def trackFieldsChanged (existing new : Track) : Bool :=
  fields existing != fields new
where
  fields (t : Track) :=
    (t.title, t.pubDate, t.durationSecs, t.imageUrl, t.language, t.enclosureUrl, t.enclosureType,
      t.enclosureBytes, t.trackNumber, t.season, t.explicit, t.description, t.publisher,
      t.trackArtist, t.trackArtistSort)

def feedRoutesChanged : List FeedPaymentRoute → List FeedPaymentRoute → Bool :=
  rowsChanged fun r =>
    (r.recipientName, r.routeType, r.address, r.customKey, r.customValue, r.split, r.fee)

def feedRemoteItemsChanged : List FeedRemoteItemRaw → List FeedRemoteItemRaw → Bool :=
  rowsChanged fun r =>
    (r.position, r.medium, r.remoteFeedGuid, r.remoteFeedUrl, r.rel, r.source, r.remoteItemGuid,
      r.remoteItemTitle)

def feedListValuesChanged : List FeedListValueRaw → List FeedListValueRaw → Bool :=
  rowsChanged fun r =>
    (r.recipientName, r.routeType, r.address, r.customKey, r.customValue, r.split, r.fee,
      r.position)

/-- The `rel` is not compared. -/
def trackRemoteItemsChanged : List TrackRemoteItemRaw → List TrackRemoteItemRaw → Bool :=
  rowsChanged fun r => (r.position, r.medium, r.remoteFeedGuid, r.remoteFeedUrl, r.source)

def liveEventsChanged : List LiveEvent → List LiveEvent → Bool :=
  rowsChanged fun e =>
    (e.liveItemGuid, e.title, e.contentLink, e.status, e.scheduledStart, e.scheduledEnd,
      e.liveValueUri, e.liveValueProtocol)

def sourceContributorClaimsChanged :
    List SourceContributorClaim → List SourceContributorClaim → Bool :=
  rowsChanged fun c =>
    (c.feedGuid, c.entityType, c.entityId, c.position, c.name, c.role, c.groupName, c.href,
      c.img, c.npub, c.source, c.extractionPath)

def sourceEntityIdsChanged : List SourceEntityIdClaim → List SourceEntityIdClaim → Bool :=
  rowsChanged fun c =>
    (c.feedGuid, c.entityType, c.entityId, c.position, c.scheme, c.value, c.source,
      c.extractionPath)

def sourceEntityLinksChanged : List SourceEntityLink → List SourceEntityLink → Bool :=
  rowsChanged fun l =>
    (l.feedGuid, l.entityType, l.entityId, l.position, l.linkType, l.url, l.source,
      l.extractionPath, l.label)

def sourceReleaseClaimsChanged : List SourceReleaseClaim → List SourceReleaseClaim → Bool :=
  rowsChanged fun c =>
    (c.feedGuid, c.entityType, c.entityId, c.position, c.claimType, c.claimValue, c.source,
      c.extractionPath)

def sourceItemEnclosuresChanged : List SourceItemEnclosure → List SourceItemEnclosure → Bool :=
  rowsChanged fun e =>
    (e.feedGuid, e.entityType, e.entityId, e.position, e.url, e.mimeType, e.bytes, e.rel,
      e.title, e.isPrimary, e.source, e.extractionPath)

def sourceItemTranscriptsChanged :
    List SourceItemTranscript → List SourceItemTranscript → Bool :=
  rowsChanged fun t =>
    (t.feedGuid, t.entityType, t.entityId, t.position, t.url, t.mimeType, t.language, t.rel,
      t.source, t.extractionPath)

def sourcePlatformClaimsChanged : List SourcePlatformClaim → List SourcePlatformClaim → Bool :=
  rowsChanged fun c =>
    (c.feedGuid, c.platformKey, c.url, c.ownerName, c.source, c.extractionPath)

/-- The stored order of the snapshot of live items. -/
def dedupeAndSortLiveEvents (liveEvents : List LiveEvent) : List LiveEvent :=
  orderBy (compareOn LiveEvent.liveItemGuid) (dedupeLiveEvents liveEvents)

/-- An event row that waits for its new event id. -/
abbrev EventDraft : Type := String → EventRow

/-- Give each draft its own id, in order. -/
def assignIds (uuid : Nat → String) (drafts : List EventDraft) : List EventRow :=
  drafts.zipIdx.map fun (draft, index) => draft (uuid index)

section Builders

variable [Platform]

def eventDraft (payload : EventPayload) (subjectGuid : String) (createdAt : Int)
    (warnings : List String) : EventDraft := fun eventId =>
  { eventId := eventId
    eventType := payload.eventType
    payloadJson := Platform.encodePayload payload
    subjectGuid := subjectGuid
    createdAt := createdAt
    warnings := warnings }

section OfFeed

variable (feed : Feed) (now : Int) (warnings : List String)

def buildFeedUpsertedEvent : EventDraft :=
  eventDraft (.feedUpserted { feed := feed, reason := none }) feed.feedGuid now warnings

def buildFeedRoutesEvent (routes : List FeedPaymentRoute) : EventDraft :=
  eventDraft (.feedRoutesReplaced { feedGuid := feed.feedGuid, routes := routes }) feed.feedGuid
    now warnings

def buildFeedListValueEvent (listValues : List FeedListValueRaw) : EventDraft :=
  eventDraft (.feedListValueReplaced { feedGuid := feed.feedGuid, listValues := listValues })
    feed.feedGuid now warnings

def buildFeedRemoteItemsEvent (remoteItems : List FeedRemoteItemRaw) : EventDraft :=
  eventDraft (.feedRemoteItemsReplaced { feedGuid := feed.feedGuid, remoteItems := remoteItems })
    feed.feedGuid now warnings

def buildLiveEventsEvent (liveEvents : List LiveEvent) : EventDraft :=
  eventDraft (.liveEventsReplaced { feedGuid := feed.feedGuid, liveEvents := liveEvents })
    feed.feedGuid now warnings

def buildSourceContributorClaimsEvent (claims : List SourceContributorClaim) : EventDraft :=
  eventDraft (.sourceContributorClaimsReplaced { feedGuid := feed.feedGuid, claims := claims })
    feed.feedGuid now warnings

def buildSourceEntityIdsEvent (claims : List SourceEntityIdClaim) : EventDraft :=
  eventDraft (.sourceEntityIdsReplaced { feedGuid := feed.feedGuid, claims := claims })
    feed.feedGuid now warnings

def buildSourceEntityLinksEvent (links : List SourceEntityLink) : EventDraft :=
  eventDraft (.sourceEntityLinksReplaced { feedGuid := feed.feedGuid, links := links })
    feed.feedGuid now warnings

def buildSourceReleaseClaimsEvent (claims : List SourceReleaseClaim) : EventDraft :=
  eventDraft (.sourceReleaseClaimsReplaced { feedGuid := feed.feedGuid, claims := claims })
    feed.feedGuid now warnings

def buildSourceItemEnclosuresEvent (enclosures : List SourceItemEnclosure) : EventDraft :=
  eventDraft
    (.sourceItemEnclosuresReplaced { feedGuid := feed.feedGuid, enclosures := enclosures })
    feed.feedGuid now warnings

def buildSourceItemTranscriptsEvent (transcripts : List SourceItemTranscript) : EventDraft :=
  eventDraft
    (.sourceItemTranscriptsReplaced { feedGuid := feed.feedGuid, transcripts := transcripts })
    feed.feedGuid now warnings

def buildSourcePlatformClaimsEvent (claims : List SourcePlatformClaim) : EventDraft :=
  eventDraft (.sourcePlatformClaimsReplaced { feedGuid := feed.feedGuid, claims := claims })
    feed.feedGuid now warnings

end OfFeed

section OfTrack

variable (track : Track) (now : Int) (warnings : List String)

def buildTrackUpsertedEvent (routes : List PaymentRoute) (splits : List ValueTimeSplit) :
    EventDraft :=
  eventDraft (.trackUpserted { track := track, routes := routes, valueTimeSplits := splits })
    track.trackGuid now warnings

def buildTrackRemoteItemsEvent (remoteItems : List TrackRemoteItemRaw) : EventDraft :=
  eventDraft
    (.trackRemoteItemsReplaced
      { trackGuid := track.trackGuid, feedGuid := some track.feedGuid,
        remoteItems := remoteItems })
    track.trackGuid now warnings

end OfTrack

/-- The draft, when the condition holds. -/
def draftIf (condition : Bool) (draft : EventDraft) : List EventDraft :=
  if condition then [draft] else []

/-- The events of the sets of a feed.  `changed` says which sets send one. -/
structure SetsChanged where
  feedRoutes : Bool
  feedListValues : Bool
  remoteItems : Bool
  sourceContributorClaims : Bool
  sourceEntityIds : Bool
  sourceEntityLinks : Bool
  sourceReleaseClaims : Bool
  sourceItemEnclosures : Bool
  sourceItemTranscripts : Bool
  sourcePlatformClaims : Bool
  liveEvents : Bool
deriving DecidableEq

def feedSetEvents (c : IngestContent) (changed : SetsChanged) (now : Int)
    (warnings : List String) : List EventDraft :=
  draftIf changed.feedRoutes (buildFeedRoutesEvent c.feed now warnings c.feedRoutes) ++
    draftIf changed.feedListValues
      (buildFeedListValueEvent c.feed now warnings c.feedListValues) ++
    draftIf changed.remoteItems (buildFeedRemoteItemsEvent c.feed now warnings c.remoteItems) ++
    draftIf changed.sourceContributorClaims
      (buildSourceContributorClaimsEvent c.feed now warnings c.sourceContributorClaims) ++
    draftIf changed.sourceEntityIds
      (buildSourceEntityIdsEvent c.feed now warnings c.sourceEntityIds) ++
    draftIf changed.sourceEntityLinks
      (buildSourceEntityLinksEvent c.feed now warnings c.sourceEntityLinks) ++
    draftIf changed.sourceReleaseClaims
      (buildSourceReleaseClaimsEvent c.feed now warnings c.sourceReleaseClaims) ++
    draftIf changed.sourceItemEnclosures
      (buildSourceItemEnclosuresEvent c.feed now warnings c.sourceItemEnclosures) ++
    draftIf changed.sourceItemTranscripts
      (buildSourceItemTranscriptsEvent c.feed now warnings c.sourceItemTranscripts) ++
    draftIf changed.sourcePlatformClaims
      (buildSourcePlatformClaimsEvent c.feed now warnings c.sourcePlatformClaims) ++
    draftIf changed.liveEvents
      (buildLiveEventsEvent c.feed now warnings (dedupeAndSortLiveEvents c.liveEvents))

/-- A first ingest sends the sets that are not empty. -/
def setsPresent (c : IngestContent) : SetsChanged where
  feedRoutes := !c.feedRoutes.isEmpty
  feedListValues := !c.feedListValues.isEmpty
  remoteItems := !c.remoteItems.isEmpty
  sourceContributorClaims := !c.sourceContributorClaims.isEmpty
  sourceEntityIds := !c.sourceEntityIds.isEmpty
  sourceEntityLinks := !c.sourceEntityLinks.isEmpty
  sourceReleaseClaims := !c.sourceReleaseClaims.isEmpty
  sourceItemEnclosures := !c.sourceItemEnclosures.isEmpty
  sourceItemTranscripts := !c.sourceItemTranscripts.isEmpty
  sourcePlatformClaims := !c.sourcePlatformClaims.isEmpty
  liveEvents := !(dedupeAndSortLiveEvents c.liveEvents).isEmpty

/-- A change to an empty set is a change too. -/
def setsChanged (d : Db) (c : IngestContent) : SetsChanged :=
  let feedGuid := c.feed.feedGuid
  { feedRoutes := feedRoutesChanged (getFeedPaymentRoutesForFeed d feedGuid) c.feedRoutes
    feedListValues :=
      feedListValuesChanged (getFeedListValueRawForFeed d feedGuid) c.feedListValues
    remoteItems := feedRemoteItemsChanged (getFeedRemoteItemsForFeed d feedGuid) c.remoteItems
    sourceContributorClaims :=
      sourceContributorClaimsChanged (getSourceContributorClaimsForFeed d feedGuid)
        c.sourceContributorClaims
    sourceEntityIds :=
      sourceEntityIdsChanged (getSourceEntityIdsForFeed d feedGuid) c.sourceEntityIds
    sourceEntityLinks :=
      sourceEntityLinksChanged (getSourceEntityLinksForFeed d feedGuid) c.sourceEntityLinks
    sourceReleaseClaims :=
      sourceReleaseClaimsChanged (getSourceReleaseClaimsForFeed d feedGuid) c.sourceReleaseClaims
    sourceItemEnclosures :=
      sourceItemEnclosuresChanged (getSourceItemEnclosuresForFeed d feedGuid)
        c.sourceItemEnclosures
    sourceItemTranscripts :=
      sourceItemTranscriptsChanged (getSourceItemTranscriptsForFeed d feedGuid)
        c.sourceItemTranscripts
    sourcePlatformClaims :=
      sourcePlatformClaimsChanged (getSourcePlatformClaimsForFeed d feedGuid)
        c.sourcePlatformClaims
    liveEvents :=
      liveEventsChanged
        (orderBy (compareOn LiveEvent.liveItemGuid) (getLiveEventsForFeed d feedGuid))
        (dedupeAndSortLiveEvents c.liveEvents) }

def buildAllEvents (c : IngestContent) (now : Int) (warnings : List String) :
    List EventDraft :=
  buildFeedUpsertedEvent c.feed now warnings :: feedSetEvents c (setsPresent c) now warnings ++
    c.tracks.flatMap fun t =>
      buildTrackUpsertedEvent t.track now warnings t.routes t.splits ::
        draftIf (!t.remoteItems.isEmpty)
          (buildTrackRemoteItemsEvent t.track now warnings t.remoteItems)

/-- The routes and the splits of a track are not compared: they go with its row. -/
def changedTrackEvents (d : Db) (feedGuid : String) (t : TrackIngestBundle) (now : Int)
    (warnings : List String) : List EventDraft :=
  let stored := getTrackRemoteItemsForFeedTrack d t.track.feedGuid t.track.trackGuid
  let remoteItemsEvent := buildTrackRemoteItemsEvent t.track now warnings t.remoteItems
  let existing :=
    (getTracksForFeed d feedGuid).find? fun e : Track => e.trackGuid == t.track.trackGuid
  if existing.all fun e => trackFieldsChanged e t.track then
    let emptied := existing.isSome && !stored.isEmpty
    buildTrackUpsertedEvent t.track now warnings t.routes t.splits ::
      draftIf (!t.remoteItems.isEmpty || emptied) remoteItemsEvent
  else draftIf (trackRemoteItemsChanged stored t.remoteItems) remoteItemsEvent

def buildChangedEvents (d : Db) (existing : Feed) (c : IngestContent) (now : Int)
    (warnings : List String) : List EventDraft :=
  draftIf (feedFieldsChanged existing c.feed) (buildFeedUpsertedEvent c.feed now warnings) ++
    feedSetEvents c (setsChanged d c) now warnings ++
    c.tracks.flatMap fun t => changedTrackEvents d c.feed.feedGuid t now warnings

/-- Every event for a new feed, the changes for a stored one. -/
def buildDiffEvents (d : Db) (c : IngestContent) (now : Int) (warnings : List String) :
    List EventDraft :=
  match getFeedByGuid d c.feed.feedGuid with
  | none => buildAllEvents c now warnings
  | some existing => buildChangedEvents d existing c now warnings

/-- The events that the content of a body makes. -/
def contentTypes : List EventType :=
  [.feedUpserted, .trackUpserted, .feedRoutesReplaced, .feedRemoteItemsReplaced,
    .trackRemoteItemsReplaced, .feedListValueReplaced, .liveEventsReplaced,
    .sourceContributorClaimsReplaced, .sourceEntityIdsReplaced, .sourceEntityLinksReplaced,
    .sourceReleaseClaimsReplaced, .sourceItemEnclosuresReplaced, .sourceItemTranscriptsReplaced,
    .sourcePlatformClaimsReplaced]

section Drafts

variable {P : EventDraft → Prop}
  (h : ∀ payload subjectGuid createdAt warnings, EventPayload.eventType payload ∈ contentTypes →
    P (eventDraft payload subjectGuid createdAt warnings))

omit [Platform] in
theorem forall_draftIf {condition : Bool} {draft : EventDraft} (hdraft : P draft) :
    ∀ r ∈ draftIf condition draft, P r := by
  intro r hr
  unfold draftIf at hr
  split at hr
  · rw [List.mem_singleton.mp hr]
    exact hdraft
  · cases hr

include h

theorem forall_feedSetEvents {c : IngestContent} {changed : SetsChanged} {now : Int}
    {warnings : List String} : ∀ r ∈ feedSetEvents c changed now warnings, P r := by
  intro r hr
  simp only [feedSetEvents, List.mem_append] at hr
  rcases hr with (((((((((hr | hr) | hr) | hr) | hr) | hr) | hr) | hr) | hr) | hr) | hr <;>
    exact forall_draftIf (h _ _ _ _ (by simp [EventPayload.eventType, contentTypes])) r hr

theorem forall_buildDiffEvents {d : Db} {c : IngestContent} {now : Int}
    {warnings : List String} : ∀ r ∈ buildDiffEvents d c now warnings, P r := by
  intro r hr
  unfold buildDiffEvents at hr
  split at hr
  · unfold buildAllEvents at hr
    rcases List.mem_append.mp hr with hr | hr
    · rcases List.mem_cons.mp hr with rfl | hr
      · exact h _ _ _ _ (by simp [EventPayload.eventType, contentTypes])
      · exact forall_feedSetEvents h r hr
    · obtain ⟨t, -, hr⟩ := List.mem_flatMap.mp hr
      rcases List.mem_cons.mp hr with rfl | hr
      · exact h _ _ _ _ (by simp [EventPayload.eventType, contentTypes])
      · exact forall_draftIf (h _ _ _ _ (by simp [EventPayload.eventType, contentTypes])) r hr
  · unfold buildChangedEvents at hr
    rcases List.mem_append.mp hr with hr | hr
    · rcases List.mem_append.mp hr with hr | hr
      · exact forall_draftIf (h _ _ _ _ (by simp [EventPayload.eventType, contentTypes])) r hr
      · exact forall_feedSetEvents h r hr
    · obtain ⟨t, -, hr⟩ := List.mem_flatMap.mp hr
      unfold changedTrackEvents at hr
      simp only at hr
      split at hr
      · rcases List.mem_cons.mp hr with rfl | hr
        · exact h _ _ _ _ (by simp [EventPayload.eventType, contentTypes])
        · exact forall_draftIf (h _ _ _ _ (by simp [EventPayload.eventType, contentTypes])) r hr
      · exact forall_draftIf (h _ _ _ _ (by simp [EventPayload.eventType, contentTypes])) r hr

omit [Platform] h in
theorem forall_assignIds {uuid : Nat → String} {drafts : List EventDraft} {Q : EventRow → Prop}
    (hdrafts : ∀ draft ∈ drafts, ∀ eventId, Q (draft eventId)) :
    ∀ row ∈ assignIds uuid drafts, Q row := by
  intro row hrow
  obtain ⟨⟨draft, index⟩, hmem, rfl⟩ := List.mem_map.mp hrow
  exact hdrafts draft (List.mem_of_getElem? (List.mk_mem_zipIdx_iff_getElem?.mp hmem)) _

end Drafts

end Builders

end Stophammer
