import Stophammer.FeedSets
import Stophammer.SharedSources

/-!
# The content that the nodes share

The compared columns of each feed and of its sets.  A submission sends a set only when a
compared column of it changed, so the other columns can differ on a replica.
-/

namespace Stophammer

open Relational Statement

/-- The columns of a feed that an ingest compares. -/
def Feed.shared (f : Feed) : Feed :=
  { f with
    titleLower := ""
    episodeCount := 0
    newestItemAt := none
    oldestItemAt := none
    createdAt := 0
    updatedAt := 0
    lastBuildDate := none
    releaseArtistSource := none }

@[ext]
structure SharedContent where
  /-- The GUID of each record with its source URL. -/
  urls : List (String × String)
  feeds : String → Option Feed
  sets : (k : FeedSet) → String → List k.Row

def sharedContent (d : Db) : SharedContent where
  urls := sourceUrls d
  feeds guid := (getFeedByGuid d guid).map Feed.shared
  sets k guid := k.view d guid

def sharedContentTables : List Table := .feeds :: feedSetTables

/-- The types of the events about it. -/
def sharedContentTypes : List EventType :=
  .feedUpserted :: .feedRetired :: FeedSet.all.map FeedSet.eventType

theorem FeedSet.mem_sharedContentTypes (k : FeedSet) : k.eventType ∈ sharedContentTypes :=
  List.mem_cons_of_mem _ (List.mem_cons_of_mem _ (List.mem_map_of_mem k.mem_all))

namespace SharedContent

/-- A URL has one record: where another record has it, the event changes nothing. -/
def withFeed (s : SharedContent) (feed : Feed) : SharedContent :=
  if s.urls.any fun q => q.2 == feed.feedUrl && q.1 != feed.feedGuid then s
  else
    { s with
      urls := putUrl s.urls feed.feedGuid feed.feedUrl
      feeds := Function.update s.feeds feed.feedGuid (some feed.shared) }

def without (s : SharedContent) (guid : String) : SharedContent where
  urls := s.urls.filter fun q => !(q.1 == guid)
  feeds := Function.update s.feeds guid none
  sets k := Function.update (s.sets k) guid []

/-- A set goes in where its feed is. -/
def withSet (s : SharedContent) (k : FeedSet) (guid : String) (rows : List k.Row) : SharedContent :=
  if s.urls.any fun q => q.1 == guid then
    { s with sets := Function.update s.sets k (Function.update (s.sets k) guid (k.shown rows)) }
  else s

/-- What the event of the payload makes of it. -/
def replay (s : SharedContent) : EventPayload → SharedContent
  | .feedUpserted p => s.withFeed p.feed
  | .feedRetired p => if s.urls.any fun q => q.1 == p.feedGuid then s.without p.feedGuid else s
  | .feedRoutesReplaced p => s.withSet .feedRoutes p.feedGuid p.routes
  | .feedListValueReplaced p => s.withSet .feedListValues p.feedGuid p.listValues
  | .feedRemoteItemsReplaced p => s.withSet .remoteItems p.feedGuid p.remoteItems
  | .sourceContributorClaimsReplaced p => s.withSet .sourceContributorClaims p.feedGuid p.claims
  | .sourceEntityIdsReplaced p => s.withSet .sourceEntityIds p.feedGuid p.claims
  | .sourceEntityLinksReplaced p => s.withSet .sourceEntityLinks p.feedGuid p.links
  | .sourceReleaseClaimsReplaced p => s.withSet .sourceReleaseClaims p.feedGuid p.claims
  | .sourceItemEnclosuresReplaced p => s.withSet .sourceItemEnclosures p.feedGuid p.enclosures
  | .sourceItemTranscriptsReplaced p => s.withSet .sourceItemTranscripts p.feedGuid p.transcripts
  | .sourcePlatformClaimsReplaced p => s.withSet .sourcePlatformClaims p.feedGuid p.claims
  | .liveEventsReplaced p => s.withSet .liveEvents p.feedGuid p.liveEvents
  | _ => s

/-- The constraints take the rows of the event. -/
def Applies : EventPayload → Prop
  | .feedRoutesReplaced p => FeedSet.Fits p.feedGuid .feedRoutes p.routes
  | .feedListValueReplaced p => FeedSet.Fits p.feedGuid .feedListValues p.listValues
  | .feedRemoteItemsReplaced p => FeedSet.Fits p.feedGuid .remoteItems p.remoteItems
  | .sourceContributorClaimsReplaced p =>
    FeedSet.Fits p.feedGuid .sourceContributorClaims p.claims
  | .sourceEntityIdsReplaced p => FeedSet.Fits p.feedGuid .sourceEntityIds p.claims
  | .sourceEntityLinksReplaced p => FeedSet.Fits p.feedGuid .sourceEntityLinks p.links
  | .sourceReleaseClaimsReplaced p => FeedSet.Fits p.feedGuid .sourceReleaseClaims p.claims
  | .sourceItemEnclosuresReplaced p => FeedSet.Fits p.feedGuid .sourceItemEnclosures p.enclosures
  | .sourceItemTranscriptsReplaced p =>
    FeedSet.Fits p.feedGuid .sourceItemTranscripts p.transcripts
  | .sourcePlatformClaimsReplaced p => FeedSet.Fits p.feedGuid .sourcePlatformClaims p.claims
  | .liveEventsReplaced p => FeedSet.Fits p.feedGuid .liveEvents p.liveEvents
  | _ => True

theorem replay_payload (s : SharedContent) (guid : String) (k : FeedSet) (rows : List k.Row) :
    s.replay (k.payload guid rows) = s.withSet k guid rows := by
  cases k <;> rfl

theorem applies_payload {guid : String} {k : FeedSet} {rows : List k.Row} :
    Applies (k.payload guid rows) ↔ FeedSet.Fits guid k rows := by
  cases k <;> exact Iff.rfl

theorem payload_cases {payload : EventPayload} (h : payload.eventType ∈ sharedContentTypes) :
    (∃ p, payload = .feedUpserted p) ∨ (∃ p, payload = .feedRetired p) ∨
      ∃ (k : FeedSet) (guid : String) (rows : List k.Row), payload = k.payload guid rows := by
  cases payload with
  | feedUpserted p => exact .inl ⟨p, rfl⟩
  | feedRetired p => exact .inr (.inl ⟨p, rfl⟩)
  | feedRoutesReplaced p => exact .inr (.inr ⟨.feedRoutes, p.feedGuid, p.routes, rfl⟩)
  | feedListValueReplaced p => exact .inr (.inr ⟨.feedListValues, p.feedGuid, p.listValues, rfl⟩)
  | feedRemoteItemsReplaced p => exact .inr (.inr ⟨.remoteItems, p.feedGuid, p.remoteItems, rfl⟩)
  | sourceContributorClaimsReplaced p =>
    exact .inr (.inr ⟨.sourceContributorClaims, p.feedGuid, p.claims, rfl⟩)
  | sourceEntityIdsReplaced p => exact .inr (.inr ⟨.sourceEntityIds, p.feedGuid, p.claims, rfl⟩)
  | sourceEntityLinksReplaced p => exact .inr (.inr ⟨.sourceEntityLinks, p.feedGuid, p.links, rfl⟩)
  | sourceReleaseClaimsReplaced p =>
    exact .inr (.inr ⟨.sourceReleaseClaims, p.feedGuid, p.claims, rfl⟩)
  | sourceItemEnclosuresReplaced p =>
    exact .inr (.inr ⟨.sourceItemEnclosures, p.feedGuid, p.enclosures, rfl⟩)
  | sourceItemTranscriptsReplaced p =>
    exact .inr (.inr ⟨.sourceItemTranscripts, p.feedGuid, p.transcripts, rfl⟩)
  | sourcePlatformClaimsReplaced p =>
    exact .inr (.inr ⟨.sourcePlatformClaims, p.feedGuid, p.claims, rfl⟩)
  | liveEventsReplaced p => exact .inr (.inr ⟨.liveEvents, p.feedGuid, p.liveEvents, rfl⟩)
  | _ =>
    simp [sharedContentTypes, FeedSet.all, FeedSet.eventType, EventPayload.eventType] at h

theorem replay_other {s : SharedContent} {payload : EventPayload}
    (h : payload.eventType ∉ sharedContentTypes) : s.replay payload = s := by
  cases payload with
  | feedUpserted | feedRetired | feedRoutesReplaced | feedListValueReplaced | feedRemoteItemsReplaced
  | sourceContributorClaimsReplaced | sourceEntityIdsReplaced | sourceEntityLinksReplaced
  | sourceReleaseClaimsReplaced | sourceItemEnclosuresReplaced | sourceItemTranscriptsReplaced
  | sourcePlatformClaimsReplaced | liveEventsReplaced =>
    exact absurd (by simp [sharedContentTypes, FeedSet.all, FeedSet.eventType,
      EventPayload.eventType]) h
  | _ => rfl

theorem applies_other {payload : EventPayload} (h : payload.eventType ∉ sharedContentTypes) :
    Applies payload := by
  cases payload with
  | feedUpserted | feedRetired | feedRoutesReplaced | feedListValueReplaced | feedRemoteItemsReplaced
  | sourceContributorClaimsReplaced | sourceEntityIdsReplaced | sourceEntityLinksReplaced
  | sourceReleaseClaimsReplaced | sourceItemEnclosuresReplaced | sourceItemTranscriptsReplaced
  | sourcePlatformClaimsReplaced | liveEventsReplaced =>
    exact absurd (by simp [sharedContentTypes, FeedSet.all, FeedSet.eventType,
      EventPayload.eventType]) h
  | _ => trivial

end SharedContent

section

variable {d e : Db} {guid : String}

theorem sharedContent_congr (h : ∀ t ∈ sharedContentTables, e t = d t) :
    sharedContent e = sharedContent d := by
  have hfeeds : e .feeds = d .feeds := h _ List.mem_cons_self
  have hsets : ∀ k : FeedSet, k.view e = k.view d := fun k => funext fun guid =>
    FeedSet.view_congr (h _ (List.mem_cons_of_mem _ k.mem_feedSetTables))
  simp only [sharedContent, sourceUrls, getFeedByGuid, hfeeds, hsets]

theorem sharedContent_feeds (h : ∀ t ∈ feedSetTables, e t = d t) :
    sharedContent e =
      { sharedContent d with
        urls := sourceUrls e
        feeds := fun guid => (getFeedByGuid e guid).map Feed.shared } := by
  have hsets : ∀ k : FeedSet, k.view e = k.view d := fun k => funext fun guid =>
    FeedSet.view_congr (h _ k.mem_feedSetTables)
  simp only [sharedContent, hsets]

theorem hasUrl_iff (d : Db) (guid : String) :
    ((sharedContent d).urls.any fun q => q.1 == guid) = true ↔ HasFeed guid d := by
  have hkey : ∀ r : FeedRow, Key.feed guid ∈ Table.keys .feeds r ↔ r.feed.feedGuid = guid := by
    intro r
    simp [Table.keys, eq_comm]
  rw [HasFeed, Database.has_iff (S := schema) (t := .feeds) rfl, sharedContent, sourceUrls,
    List.any_map, List.any_eq_true]
  exact exists_congr fun r => and_congr_right fun _ => beq_iff_eq.trans (hkey r).symm

theorem hasUrl_eq (d : Db) (guid : String) :
    ((sharedContent d).urls.any fun q => q.1 == guid) = (getFeedByGuid d guid).isSome := by
  rw [Bool.eq_iff_iff, getFeedByGuid, Option.isSome_map, List.find?_isSome, sharedContent,
    sourceUrls, List.any_map, List.any_eq_true]
  rfl

section

variable [Platform]

theorem upsertFeed_lookup {feed : Feed} (h : upsertFeed feed d = (.ok (), e)) (guid : String) :
    (getFeedByGuid e guid).map Feed.shared =
      Function.update (fun guid => (getFeedByGuid d guid).map Feed.shared) feed.feedGuid
        (some feed.shared) guid := by
  have hrow := upsert_lookup (S := schema) (t := .feeds) (fun r : FeedRow => r.feed.feedGuid) h rfl
    (fun _ _ => rfl) guid
  rw [getFeedByGuid, hrow]
  by_cases hguid : guid = feed.feedGuid
  · subst hguid
    rw [if_pos rfl, Function.update_self]
    cases (d .feeds).find? fun r : FeedRow => r.feed.feedGuid == feed.feedGuid <;> rfl
  · rw [if_neg hguid, Function.update_of_ne hguid]
    rfl

theorem upsertFeed_shared (feed : Feed) (d : Db) :
    sharedContent (upsertFeed feed d).2 = (sharedContent d).withFeed feed := by
  have hwrites : Writes (S := schema) [Table.feeds] (upsertFeed feed) := Writes.upsert (by decide)
  have hurls := upsertFeed_urls feed d
  rcases hrun : upsertFeed feed d with ⟨err | ⟨⟩, e⟩
  · have htaken : ((sharedContent d).urls.any fun q =>
        q.2 == feed.feedUrl && q.1 != feed.feedGuid) = true := by
      by_contra hfree
      obtain ⟨e', hok⟩ := upsertFeed_ok_iff.mpr (Bool.not_eq_true _ ▸ hfree)
      cases hrun.symm.trans hok
    rw [upsert_error_state hrun, SharedContent.withFeed, if_pos htaken]
  · have hfree : ((sharedContent d).urls.any fun q =>
        q.2 == feed.feedUrl && q.1 != feed.feedGuid) = false := upsertFeed_ok_iff.mp ⟨e, hrun⟩
    have hsets : ∀ t ∈ feedSetTables, e t = d t := fun t ht =>
      (hwrites t (by revert ht; cases t <;> decide)).run hrun
    rw [hrun] at hurls
    rw [sharedContent_feeds hsets, SharedContent.withFeed, hfree]
    exact SharedContent.ext hurls (funext fun guid => upsertFeed_lookup hrun guid) rfl

theorem deleteFeedSql_shared (h : deleteFeedSql guid d = (.ok (), e)) :
    sharedContent e = (sharedContent d).without guid := by
  have hurls : sourceUrls e = (sourceUrls d).filter fun q => !(q.1 == guid) :=
    congrArg SharedSources.urls (deleteFeedSql_sources h)
  have hfeeds : ∀ other, (getFeedByGuid e other).map Feed.shared =
      Function.update (sharedContent d).feeds guid none other := by
    intro other
    have hfind : ((d .feeds).filter fun r : FeedRow => !(r.feed.feedGuid == guid)).find?
        (fun r : FeedRow => r.feed.feedGuid == other) = _ := find_delete (d .feeds)
    rw [getFeedByGuid, deleteFeedSql_feeds h, hfind]
    by_cases hother : other = guid
    · rw [if_pos hother, hother, Function.update_self]
      rfl
    · rw [if_neg hother, Function.update_of_ne hother]
      rfl
  have hsets : ∀ (k : FeedSet) (other : String), k.view e other =
      Function.update (k.view d) guid [] other := by
    intro k other
    have hrows : e k.table = (d k.table).filter fun r => !(k.feedGuid r == guid) := by
      rw [deleteFeedSql_without h k.table]
      apply List.filter_congr
      intro r _
      cases k <;> simp [feedTakes, indexTakes, ofFeed, Table.feedOf, onTable, bareRows,
        FeedSet.feedGuid]
    rw [FeedSet.view_eq, hrows, List.filter_filter]
    by_cases hother : other = guid
    · subst hother
      rw [Function.update_self, List.filter_eq_nil_iff.mpr fun r _ => by simp]
      rfl
    · rw [Function.update_of_ne hother, FeedSet.view_eq]
      congr 2
      apply List.filter_congr
      intro r _
      by_cases hguid : k.feedGuid r = other
      · simp [hguid, hother]
      · simp [hguid]
  exact SharedContent.ext hurls (funext hfeeds) (funext fun k => funext (hsets k))

def otherPayloadTables : List Table :=
  payloadTables.filter fun t => decide (t ∉ sharedContentTables)

theorem applyPayload_writes_other (createdAt : Int) {payload : EventPayload}
    (h : payload.eventType ∉ sharedContentTypes) :
    Writes (S := schema) otherPayloadTables (applyPayload createdAt payload) := by
  have hsync : ∀ feedGuid, Writes (S := schema) otherPayloadTables
      (syncSourceReadModelsForFeed feedGuid) :=
    fun _ => syncSourceReadModelsForFeed_writes.mono (by decide)
  cases payload
  case artistUpserted | artistCreditCreated => exact Writes.pure ()
  case trackUpserted p =>
    apply (Writes.upsert (by decide)).bind
    intro _
    apply (Writes.replaceRows (by decide)).bind
    intro _
    exact (replaceValueTimeSplitsForFeedTrack_writes.mono (by decide)).bind fun _ => hsync _
  case routesReplaced p =>
    rcases p with ⟨_, _ | _, _⟩
    · exact Writes.replaceRows (by decide)
    · exact Writes.replaceRows (by decide)
  case trackRemoteItemsReplaced p =>
    rcases p with ⟨_, _ | _, _⟩
    · exact Writes.replaceRows (by decide)
    · exact Writes.replaceRows (by decide)
  case trackRemoved p =>
    apply (Writes.read _).bind
    intro track
    exact Writes.ite (deleteTrackSql_writes.mono (by decide)) (Writes.pure ())
  case feedUrlObserved | feedCopyObserved => exact Writes.upsert (by decide)
  case feedBlocked p =>
    exact (insertFeedBlock_writes.mono (by decide)).bind fun _ => Writes.pure ()
  case feedUnblocked p => exact Writes.delete (by decide)
  case feedCopyResolved | feedGuidChangeDecided => exact Writes.update (by decide)
  case feedGuidChangeObserved p =>
    exact Writes.ite (Writes.delete (by decide)) (Writes.upsert (by decide))
  case feedGuidSuperseded p =>
    exact (Writes.insertOrIgnore (by decide)).bind fun _ => Writes.pure ()
  all_goals simp [sharedContentTypes, FeedSet.all, FeedSet.eventType, EventPayload.eventType] at h

theorem applyPayload_content (createdAt : Int) {payload : EventPayload} (d : Db)
    (h : SharedContent.Applies payload) :
    sharedContent (applyPayload createdAt payload d).2 = (sharedContent d).replay payload := by
  by_cases htype : payload.eventType ∈ sharedContentTypes
  · rcases SharedContent.payload_cases htype with ⟨p, rfl⟩ | ⟨p, rfl⟩ | ⟨k, guid, rows, rfl⟩
    · have hsync : Writes (S := schema) readModelTables
          (syncSourceReadModelsForFeed p.feed.feedGuid) := syncSourceReadModelsForFeed_writes
      have hshared := upsertFeed_shared p.feed d
      change sharedContent ((upsertFeed p.feed >>= fun _ =>
        syncSourceReadModelsForFeed p.feed.feedGuid) d).2 = (sharedContent d).withFeed p.feed
      rcases hrun : upsertFeed p.feed d with ⟨err | ⟨⟩, e⟩
      · rw [hrun] at hshared
        rw [bind_run_error hrun, hshared]
      · rw [hrun] at hshared
        rw [bind_run_ok hrun, ← hshared]
        apply sharedContent_congr
        exact fun t ht => hsync t (by revert ht; cases t <;> decide) e
    · change sharedContent ((read (getFeedByGuid · p.feedGuid) >>= fun feed =>
        if feed.isSome then deleteFeedSql p.feedGuid else pure ()) d).2 = _
      rw [read_bind_run]
      simp only [SharedContent.replay, hasUrl_eq]
      split
      · obtain ⟨⟨⟩, e, hrun⟩ := deleteFeedSql_ends p.feedGuid d
        rw [hrun]
        exact deleteFeedSql_shared hrun
      · rfl
    · have hfits := SharedContent.applies_payload.mp h
      have hsets := FeedSet.view_applyPayload createdAt hfits d
      have hwrites : Writes (S := schema) [k.table] (applyPayload createdAt (k.payload guid rows)) := by
        rw [FeedSet.applyPayload_payload]
        exact Writes.replaceRows List.mem_cons_self
      have hfeeds : (applyPayload createdAt (k.payload guid rows) d).2 .feeds = d .feeds :=
        hwrites .feeds (by simpa using k.table_child.1.symm) d
      have hurls : sourceUrls (applyPayload createdAt (k.payload guid rows) d).2 = sourceUrls d := by
        rw [sourceUrls, hfeeds, sourceUrls]
      have hrecords : (sharedContent (applyPayload createdAt (k.payload guid rows) d).2).feeds =
          (sharedContent d).feeds := by
        funext other
        change (getFeedByGuid _ other).map Feed.shared = (getFeedByGuid d other).map Feed.shared
        rw [getFeedByGuid, hfeeds]
        rfl
      rw [SharedContent.replay_payload, SharedContent.withSet]
      by_cases hfeed : HasFeed guid d
      · rw [if_pos ((hasUrl_iff d guid).mpr hfeed)]
        rw [if_pos hfeed] at hsets
        exact SharedContent.ext hurls hrecords (funext fun k' => funext (hsets k'))
      · rw [if_neg fun hany => hfeed ((hasUrl_iff d guid).mp hany)]
        rw [if_neg hfeed, Function.update_eq_self, Function.update_eq_self] at hsets
        exact SharedContent.ext hurls hrecords (funext fun k' => funext (hsets k'))
  · rw [SharedContent.replay_other htype]
    apply sharedContent_congr
    intro t ht
    exact applyPayload_writes_other createdAt htype t (by revert ht; cases t <;> decide) d

/-- The content, which the nodes share. -/
def contentView : SharedView SharedContent where
  view := sharedContent
  tables := sharedContentTables
  types := sharedContentTypes
  replay := SharedContent.replay
  Applies := SharedContent.Applies
  tables_shared := by decide
  types_stored := by decide
  view_congr _ _ h := sharedContent_congr h
  replay_other _ _ := SharedContent.replay_other
  applies_other _ := SharedContent.applies_other
  view_applyPayload createdAt _ d := applyPayload_content createdAt d

end

end

end Stophammer
