import Stophammer.GuidChange
import Stophammer.Ingest.OtherFeeds
import Stophammer.Ingest.StoredTracks
import Stophammer.Record
import Stophammer.Recording
import Stophammer.RecordWrites

/-!
# The item columns of a feed

A feed row keeps the number of its tracks with the newest and the oldest of their dates.  The
columns are those of the list of the body, and the tracks are stored by their GUIDs.
-/

namespace Stophammer

open Relational Statement

structure Feed.CountsTracks (feed : Feed) (tracks : List Track) : Prop where
  episodeCount : feed.episodeCount = tracks.length
  newestItemAt : feed.newestItemAt = (tracks.filterMap Track.pubDate).max?
  oldestItemAt : feed.oldestItemAt = (tracks.filterMap Track.pubDate).min?

theorem max?_congr {xs ys : List Int} (h : ∀ a, a ∈ xs ↔ a ∈ ys) : xs.max? = ys.max? := by
  apply Option.ext
  intro a
  rw [List.max?_eq_some_iff, List.max?_eq_some_iff]
  simp only [h]

theorem min?_congr {xs ys : List Int} (h : ∀ a, a ∈ xs ↔ a ∈ ys) : xs.min? = ys.min? := by
  apply Option.ext
  intro a
  rw [List.min?_eq_some_iff, List.min?_eq_some_iff]
  simp only [h]

theorem Feed.CountsTracks.of_perm {feed other : Feed} {tracks others : List Track}
    (h : feed.CountsTracks tracks)
    (hcolumns : other.episodeCount = feed.episodeCount ∧ other.newestItemAt = feed.newestItemAt ∧
      other.oldestItemAt = feed.oldestItemAt)
    (hdates : (others.map Track.pubDate).Perm (tracks.map Track.pubDate)) :
    other.CountsTracks others := by
  have hlength : others.length = tracks.length := by
    have hperm := hdates.length_eq
    rwa [List.length_map, List.length_map] at hperm
  have hmem : ∀ a, a ∈ others.filterMap Track.pubDate ↔ a ∈ tracks.filterMap Track.pubDate := by
    intro a
    have hsome := hdates.mem_iff (a := some a)
    rwa [List.mem_map, List.mem_map, ← List.mem_filterMap, ← List.mem_filterMap] at hsome
  obtain ⟨hcount, hnewest, holdest⟩ := hcolumns
  exact
    { episodeCount := by rw [hcount, h.episodeCount, hlength]
      newestItemAt := by rw [hnewest, h.newestItemAt, max?_congr hmem]
      oldestItemAt := by rw [holdest, h.oldestItemAt, min?_congr hmem] }

/-- Every stored feed has the columns of its stored tracks. -/
def ItemsCounted (d : Db) : Prop :=
  ∀ r ∈ d .feeds, r.feed.CountsTracks (getTracksForFeed d r.feed.feedGuid)

section

variable {d e : Db}

theorem ItemsCounted.of_feeds (h : ItemsCounted d)
    (hfeeds : ∀ r ∈ e .feeds, r.feed.CountsTracks (getTracksForFeed e r.feed.feedGuid) ∨
      ∃ old ∈ d .feeds, (r.feed.episodeCount = old.feed.episodeCount ∧
        r.feed.newestItemAt = old.feed.newestItemAt ∧
          r.feed.oldestItemAt = old.feed.oldestItemAt) ∧
        ((getTracksForFeed e r.feed.feedGuid).map Track.pubDate).Perm
          ((getTracksForFeed d old.feed.feedGuid).map Track.pubDate)) : ItemsCounted e := by
  intro r hr
  rcases hfeeds r hr with hcounts | ⟨old, hold, hcolumns, hdates⟩
  · exact hcounts
  · exact (h old hold).of_perm hcolumns hdates

theorem keepsItems_of_tables (hfeeds : e .feeds = d .feeds) (htracks : e .tracks = d .tracks) :
    Keeps ItemsCounted d e := by
  intro h
  apply h.of_feeds
  intro r hr
  refine .inr ⟨r, hfeeds ▸ hr, ⟨rfl, rfl, rfl⟩, ?_⟩
  rw [getTracksForFeed, htracks]
  exact List.Perm.refl _

theorem updateFeeds_keepsItems {p : FeedRow → Bool} {f : FeedRow → FeedRow}
    (hf : ∀ r, (f r).feed.feedGuid = r.feed.feedGuid ∧
      (f r).feed.episodeCount = r.feed.episodeCount ∧
        (f r).feed.newestItemAt = r.feed.newestItemAt ∧
          (f r).feed.oldestItemAt = r.feed.oldestItemAt) :
    Steps (Keeps ItemsCounted) (update (S := schema) .feeds p f) := by
  intro d h
  rcases hrun : update (S := schema) .feeds p f d with ⟨err | _, e⟩
  · rw [modify_error_state hrun]
    exact h
  · have htracks : e .tracks = d .tracks :=
      ((show Writes (S := schema) [Table.feeds] _ from Writes.update (by decide)) .tracks
        (by decide)).run hrun
    apply h.of_feeds
    intro r hr
    rw [modify_ok_rows hrun, List.mem_map] at hr
    obtain ⟨old, hold, rfl⟩ := hr
    right
    refine ⟨old, hold, ?_⟩
    obtain ⟨hguid, hcolumns⟩ := hf old
    split
    · rw [hguid, getTracksForFeed, htracks]
      exact ⟨hcolumns, List.Perm.refl _⟩
    · rw [getTracksForFeed, htracks]
      exact ⟨⟨rfl, rfl, rfl⟩, List.Perm.refl _⟩

theorem updateTracks_keepsItems {p : Track → Bool} {f : Track → Track}
    (hf : ∀ r, (f r).feedGuid = r.feedGuid ∧ (f r).pubDate = r.pubDate) :
    Steps (Keeps ItemsCounted) (update (S := schema) .tracks p f) := by
  intro d h
  rcases hrun : update (S := schema) .tracks p f d with ⟨err | _, e⟩
  · rw [modify_error_state hrun]
    exact h
  · have hfeeds : e .feeds = d .feeds :=
      ((show Writes (S := schema) [Table.tracks] _ from Writes.update (by decide)) .feeds
        (by decide)).run hrun
    apply h.of_feeds
    intro r hr
    refine .inr ⟨r, hfeeds ▸ hr, ⟨rfl, rfl, rfl⟩, ?_⟩
    have hdates : ∀ rows : List Track,
        ((rows.map fun t => if p t then f t else t).filter
            fun t => t.feedGuid == r.feed.feedGuid).map Track.pubDate =
          (rows.filter fun t => t.feedGuid == r.feed.feedGuid).map Track.pubDate := by
      intro rows
      induction rows with
      | nil => rfl
      | cons t rows ih =>
        have hguid : (if p t then f t else t).feedGuid = t.feedGuid := by
          split
          · exact (hf t).1
          · rfl
        have hdate : (if p t then f t else t).pubDate = t.pubDate := by
          split
          · exact (hf t).2
          · rfl
        rw [List.map_cons, List.filter_cons, List.filter_cons, hguid]
        split
        · rw [List.map_cons, List.map_cons, hdate, ih]
        · exact ih
    rw [getTracksForFeed, modify_ok_rows hrun, hdates]
    exact List.Perm.refl _

theorem record_row_of_mem {r : FeedRow} (hr : r ∈ d .feeds) :
    (record d r.feed.feedGuid).row = some r := find_feed_of_mem hr

theorem SameFeed.feed {guid : String} (h : SameFeed guid d e) {r : FeedRow} (hr : r ∈ e .feeds)
    (hguid : r.feed.feedGuid = guid) :
    r ∈ d .feeds ∧ getTracksForFeed e guid = getTracksForFeed d guid := by
  have hmine : ofFeed guid .feeds r = true := by
    rw [ofFeed, beq_iff_eq, ← hguid]
    rfl
  have hmem : r ∈ (e .feeds).filter (ofFeed guid .feeds) := List.mem_filter.mpr ⟨hr, hmine⟩
  rw [h .feeds] at hmem
  refine ⟨(List.mem_filter.mp hmem).1, ?_⟩
  have htracks : ∀ t : Track, (t.feedGuid == guid) = true → ofFeed guid .tracks t = true := by
    intro t ht
    rw [ofFeed, beq_iff_eq, ← beq_iff_eq.mp ht]
    rfl
  exact SameRows.filter (S := schema) (t := .tracks) h htracks

theorem SameFeed.keepsItems {guid : String} (h : SameFeed guid d e) {r : FeedRow}
    (hr : r ∈ e .feeds) (hguid : r.feed.feedGuid = guid) (hcounted : ItemsCounted d) :
    r.feed.CountsTracks (getTracksForFeed e r.feed.feedGuid) := by
  obtain ⟨hmem, htracks⟩ := h.feed hr hguid
  rw [hguid, htracks, ← hguid]
  exact hcounted r hmem

end

section

variable [Platform] {d e : Db} {guid : String}

theorem deleteFeedSql_keepsItems (feedGuid : String) :
    Steps (Keeps ItemsCounted) (deleteFeedSql feedGuid) := by
  intro d hcounted
  obtain ⟨_, e, hrun⟩ := deleteFeedSql_ends feedGuid d
  rw [hrun]
  intro r hr
  have hrow := record_row_of_mem hr
  have hne : r.feed.feedGuid ≠ feedGuid := by
    intro hguid
    rw [deleteFeedSql_record hrun, if_pos hguid] at hrow
    cases hrow
  exact ((deleteFeedSql_sameFeed hne).run hrun).keepsItems hr rfl hcounted

/-- The body names each of its tracks once. -/
def DistinctTracks (body : IngestFeedData) : Prop :=
  isMusicl body.rawMedium = false → (body.tracks.map IngestTrackData.trackGuid).Nodup

omit [Platform] in
theorem writtenTrack_pubDate {ts : List TrackIngestBundle} {t : TrackIngestBundle}
    (hnodup : (ts.map fun t => t.track.trackGuid).Nodup) (ht : t ∈ ts) (old : Option Track) :
    ∃ r, writtenTrack t.track.trackGuid ts old = some r ∧ r.pubDate = t.track.pubDate := by
  induction ts generalizing old with
  | nil => cases ht
  | cons t' ts ih =>
    rw [List.map_cons, List.nodup_cons, List.mem_map] at hnodup
    rw [writtenTrack]
    rcases List.mem_cons.mp ht with rfl | ht
    · rw [if_pos rfl, writtenTrack_absent fun t' ht' hguid => hnodup.1 ⟨t', ht', hguid⟩]
      refine ⟨_, rfl, ?_⟩
      rw [storedTrack]
      cases old <;> rfl
    · exact ih hnodup.2 ht _

theorem ingestTransaction_dates {env : PrimaryEnv} {removalUuid : Nat → String}
    {c : IngestContent} {eventRows : List EventRow} {feedMove : Option FeedMoveWrite}
    {seqs : List (Int × String × String)}
    (hfeed : ∀ t ∈ c.tracks, t.track.feedGuid = c.feed.feedGuid)
    (hnodup : (c.tracks.map fun t => t.track.trackGuid).Nodup)
    (h : ingestTransaction env removalUuid c eventRows feedMove d = (.ok seqs, e)) :
    ((getTracksForFeed e c.feed.feedGuid).map Track.pubDate).Perm
      (c.tracks.map fun t => t.track.pubDate) := by
  have hlookup := ingestTransaction_lookup hfeed h
  have hstored : ((getTracksForFeed e c.feed.feedGuid).map Track.trackGuid).Nodup := by
    have hkeys := (List.nodup_flatMap.mp (e.valid.unique .tracks)).2
    have hsub : (getTracksForFeed e c.feed.feedGuid).Sublist (e .tracks) := List.filter_sublist
    rw [List.nodup_iff_pairwise_ne, List.pairwise_map]
    refine (hkeys.sublist hsub).imp_of_mem fun {a b} ha hb hdisjoint hguid => ?_
    have hfeeds : a.feedGuid = b.feedGuid :=
      (beq_iff_eq.mp (List.mem_filter.mp ha).2).trans (beq_iff_eq.mp (List.mem_filter.mp hb).2).symm
    exact hdisjoint (a := Key.track a.feedGuid a.trackGuid) (List.mem_singleton_self _)
      (by rw [hfeeds, hguid]; exact List.mem_singleton_self _)
  have hpairs : ((getTracksForFeed e c.feed.feedGuid).map fun r => (r.trackGuid, r.pubDate)).Perm
      (c.tracks.map fun t => (t.track.trackGuid, t.track.pubDate)) := by
    rw [List.perm_ext_iff_of_nodup (.of_map Prod.fst (by rwa [List.map_map]))
      (.of_map Prod.fst (by rwa [List.map_map]))]
    rintro ⟨trackGuid, date⟩
    rw [List.mem_map, List.mem_map]
    constructor
    · rintro ⟨r, hr, hpair⟩
      cases hpair
      obtain ⟨hmem, hguid⟩ := List.mem_filter.mp hr
      have hfound := getTrackForFeed_of_mem hmem
      rw [beq_iff_eq.mp hguid, hlookup] at hfound
      split at hfound
      · rename_i hin
        obtain ⟨t, ht, hsame⟩ := hin
        obtain ⟨r', hwritten, hdate⟩ := writtenTrack_pubDate hnodup ht
          (getTrackForFeed d c.feed.feedGuid r.trackGuid)
        rw [hsame, hfound] at hwritten
        cases hwritten
        exact ⟨t, ht, by rw [hsame, hdate]⟩
      · cases hfound
    · rintro ⟨t, ht, hpair⟩
      cases hpair
      obtain ⟨r, hwritten, hdate⟩ := writtenTrack_pubDate hnodup ht
        (getTrackForFeed d c.feed.feedGuid t.track.trackGuid)
      have hfound := hlookup t.track.trackGuid
      rw [if_pos ⟨t, ht, rfl⟩, hwritten] at hfound
      obtain ⟨hmem, hguid, htrack⟩ := getTrackForFeed_some hfound
      exact ⟨r, List.mem_filter.mpr ⟨hmem, beq_iff_eq.mpr hguid⟩, by rw [htrack, hdate]⟩
  have hdates := hpairs.map Prod.snd
  rwa [List.map_map, List.map_map] at hdates

theorem BuildInput.feed_countsTracks (i : BuildInput) :
    i.content.feed.CountsTracks (i.content.tracks.map TrackIngestBundle.track) := by
  have hdates : (i.content.tracks.map TrackIngestBundle.track).filterMap Track.pubDate =
      i.pubDates := by
    rw [content, List.map_map, List.filterMap_map]
    rfl
  refine ⟨?_, by rw [hdates]; rfl, by rw [hdates]; rfl⟩
  rw [List.length_map, content, List.length_map]
  rfl

theorem ingestTransaction_keepsItems {env : PrimaryEnv} {removalUuid : Nat → String}
    {i : BuildInput} {eventRows : List EventRow} {feedMove : Option FeedMoveWrite}
    (hdistinct : DistinctTracks i.feedData) :
    Steps (Keeps ItemsCounted) (ingestTransaction env removalUuid i.content eventRows feedMove) := by
  intro d hcounted
  rcases hrun : ingestTransaction env removalUuid i.content eventRows feedMove d with ⟨err | seqs, e⟩
  · rw [transaction_error hrun]
    exact hcounted
  have htracks : (i.content.tracks.map fun t => t.track.trackGuid).Nodup := by
    have hguids : (i.content.tracks.map fun t => t.track.trackGuid) =
        i.tracks.map IngestTrackData.trackGuid := List.map_map
    rw [hguids, BuildInput.tracks]
    split
    · exact List.nodup_nil
    · exact hdistinct (Bool.not_eq_true _ ▸ ‹_›)
  have hdates := ingestTransaction_dates (fun t ht => (i.tracks_ofFeed t ht).track) htracks hrun
  intro r hr
  by_cases hguid : r.feed.feedGuid = i.content.feed.feedGuid
  · have hrow := record_row_of_mem hr
    rw [ingestTransaction_record hrun, if_pos hguid] at hrow
    have hstored : r = Record.storedRow (record d r.feed.feedGuid).row i.content.feed :=
      (Option.some.inj hrow).symm
    rw [hguid]
    apply i.feed_countsTracks.of_perm
    · rw [hstored]
      cases (record d r.feed.feedGuid).row <;> exact ⟨rfl, rfl, rfl⟩
    · rw [List.map_map]
      exact hdates
  · exact ((ingestTransaction_sameFeed hguid i.content_ofFeed i.tracks_ofFeed).run hrun).keepsItems
      hr rfl hcounted

/-- The operation keeps the columns: its content names each track once, and it removes no stored
track. -/
def KeepsColumns (d : Db) : Operation → Prop
  | .ingest env snapshot req => ∀ body, ReachesContent env snapshot d req body → DistinctTracks body
  | .admin _ true (.removeTrack guid trackGuid) => getTrackForFeed d guid trackGuid = none
  | _ => True

theorem Operation.keepsItems {operation : Operation} (hkeeps : KeepsColumns d operation) :
    Keeps ItemsCounted d (operation.next d) := by
  apply operation.record_steps
  · exact fun s t h => keepsItems_of_tables (h .feeds (by decide)) (h .tracks (by decide))
  · intro p f hf
    apply updateFeeds_keepsItems
    intro r
    rw [hf]
    exact ⟨rfl, rfl, rfl, rfl⟩
  · intro feedGuid newUrl
    apply updateFeeds_keepsItems
    exact fun _ => ⟨rfl, rfl, rfl, rfl⟩
  · exact deleteFeedSql_keepsItems
  · rintro env guid trackGuid rfl
    have hnone : getTrackForFeed d guid trackGuid = none := hkeeps
    rw [handleRemoveTrack, read_bind_run, hnone]
    exact id
  · intro _ _ _ _ feedGuid trackGuid newUrl
    refine updateTracks_keepsItems ?_ d
    exact fun _ => ⟨rfl, rfl⟩
  · rintro env snapshot req body rfl hreach e recordMove eventRows
    exact ingestTransaction_keepsItems (hkeeps body hreach)

/-- After a run whose bodies name each track once and whose operator removes no stored track, each
stored feed has the number of its stored tracks and the newest and the oldest of their dates. -/
theorem itemColumns_fit {history : List RunStep} (hrun : PrimaryRun KeepsColumns history d)
    {r : FeedRow} (hr : r ∈ d .feeds) :
    r.feed.CountsTracks (getTracksForFeed d r.feed.feedGuid) := by
  have hcounted : ItemsCounted d := by
    refine PrimaryRun.keeps ?_ (fun d operation hok => Operation.keepsItems hok) hrun
    exact fun r hr => (List.not_mem_nil hr).elim
  exact hcounted r hr

end

def twoItemFeed : Feed :=
  { runFeed "f1" sampleUrl 1 with
    releaseDate := some 10
    episodeCount := 2
    newestItemAt := some 10
    oldestItemAt := some 10 }

def itemUpserted (trackGuid : String) (pubDate : Option Int) : EventPayload :=
  .trackUpserted
    { track := { sampleTrack with trackGuid := trackGuid, pubDate := pubDate }
      routes := []
      valueTimeSplits := [] }

def itemDateClaim (entityType entityId extractionPath : String) : SourceReleaseClaim where
  feedGuid := "f1"
  entityType := entityType
  entityId := entityId
  position := 0
  claimType := "release_date"
  claimValue := "10"
  source := "rss_metadata"
  extractionPath := extractionPath
  observedAt := 1

def itemDateClaimed : EventPayload :=
  .sourceReleaseClaimsReplaced
    { feedGuid := "f1"
      claims :=
        [itemDateClaim "feed" "f1" "oldest_item.pub_date",
          itemDateClaim "track" "t1" "track.pub_date"] }

/-- The events of a body with two items, of two GUIDs or of one. -/
def itemRecording : Recording where
  texts :=
    [(itemUpserted "t1" none,
      "\x7b\"track\":\x7b\"track_guid\":\"t1\",\"feed_guid\":\"f1\",\"title\":\"b\",\"t" ++
        "itle_lower\":\"b\",\"pub_date\":null,\"duration_secs\":null,\"enclosure_url\":nu" ++
        "ll,\"enclosure_type\":null,\"enclosure_bytes\":null,\"track_number\":null,\"seas" ++
        "on\":null,\"image_url\":null,\"publisher\":null,\"language\":null,\"explicit\":f" ++
        "alse,\"description\":null,\"track_artist\":\"Unknown Artist\",\"track_artist_sor" ++
        "t\":null,\"created_at\":1,\"updated_at\":1\x7d,\"routes\":[],\"value_time_splits" ++
        "\":[]\x7d"),
      (itemUpserted "t2" none,
       "\x7b\"track\":\x7b\"track_guid\":\"t2\",\"feed_guid\":\"f1\",\"title\":\"b\",\"t" ++
         "itle_lower\":\"b\",\"pub_date\":null,\"duration_secs\":null,\"enclosure_url\":nu" ++
         "ll,\"enclosure_type\":null,\"enclosure_bytes\":null,\"track_number\":null,\"seas" ++
         "on\":null,\"image_url\":null,\"publisher\":null,\"language\":null,\"explicit\":f" ++
         "alse,\"description\":null,\"track_artist\":\"Unknown Artist\",\"track_artist_sor" ++
         "t\":null,\"created_at\":1,\"updated_at\":1\x7d,\"routes\":[],\"value_time_splits" ++
         "\":[]\x7d"),
      (itemUpserted "t1" (some 10),
       "\x7b\"track\":\x7b\"track_guid\":\"t1\",\"feed_guid\":\"f1\",\"title\":\"b\",\"t" ++
         "itle_lower\":\"b\",\"pub_date\":10,\"duration_secs\":null,\"enclosure_url\":null" ++
         ",\"enclosure_type\":null,\"enclosure_bytes\":null,\"track_number\":null,\"season" ++
         "\":null,\"image_url\":null,\"publisher\":null,\"language\":null,\"explicit\":fal" ++
         "se,\"description\":null,\"track_artist\":\"Unknown Artist\",\"track_artist_sort" ++
         "\":null,\"created_at\":1,\"updated_at\":1\x7d,\"routes\":[],\"value_time_splits" ++
         "\":[]\x7d"),
      (itemDateClaimed,
       "\x7b\"feed_guid\":\"f1\",\"claims\":[\x7b\"id\":null,\"feed_guid\":\"f1\",\"enti" ++
         "ty_type\":\"feed\",\"entity_id\":\"f1\",\"position\":0,\"claim_type\":\"release_" ++
         "date\",\"claim_value\":\"10\",\"source\":\"rss_metadata\",\"extraction_path\":\"" ++
         "oldest_item.pub_date\",\"observed_at\":1\x7d,\x7b\"id\":null,\"feed_guid\":\"f1" ++
         "\",\"entity_type\":\"track\",\"entity_id\":\"t1\",\"position\":0,\"claim_type\":" ++
         "\"release_date\",\"claim_value\":\"10\",\"source\":\"rss_metadata\",\"extraction" ++
         "_path\":\"track.pub_date\",\"observed_at\":1\x7d]\x7d"),
      (.feedUpserted { feed := twoItemFeed, reason := none },
       "\x7b\"feed\":\x7b\"feed_guid\":\"f1\",\"feed_url\":\"https://a.example/feed\",\"" ++
         "title\":\"a\",\"title_lower\":\"a\",\"description\":null,\"image_url\":null,\"pu" ++
         "blisher\":null,\"language\":null,\"explicit\":false,\"itunes_type\":null,\"relea" ++
         "se_artist\":\"Unknown Artist\",\"release_artist_sort\":null,\"release_date\":10," ++
         "\"release_kind\":\"unknown\",\"episode_count\":2,\"newest_item_at\":10,\"oldest_" ++
         "item_at\":10,\"created_at\":1,\"updated_at\":1,\"raw_medium\":null,\"last_build_" ++
         "date\":null,\"release_artist_source\":\"placeholder\"\x7d\x7d"),
      (runObserved sampleUrl "f1" 1,
       "\x7b\"url\":\"https://a.example/feed\",\"feed_guid\":\"f1\",\"observed_at\":1" ++
         "\x7d")]
  signatures :=
    [{ eventId := "bc000"
       payload := itemUpserted "t1" none
       subjectGuid := "t1"
       createdAt := 1
       seq := 4
       signature :=
         "15ffd00bdde71a5def290dd91ebf1da58bced6571386c9788fbc2b49363fc0bc9d43452a1b4c9922" ++
           "872e4a6b218178b4af09ef027a95ceb5395ba2b4d049e303" },
      { eventId := "bc000"
        payload := itemUpserted "t2" none
        subjectGuid := "t2"
        createdAt := 1
        seq := 4
        signature :=
          "94663d161b2722e49b6cdfdc6dcfcbcc22463a09ab4eec60df92cd74ae96d531d67c64af3ab76e69" ++
            "03ae9ec20181c735a1ca8e76514ef91abcbe56b7d9a47507" },
      { eventId := "bc00"
        payload := itemUpserted "t1" (some 10)
        subjectGuid := "t1"
        createdAt := 1
        seq := 3
        signature :=
          "25a087b11c802c345ef6b95a444603a59dd653e8d27562e0ade172218eb7f39dc590eee1c0862d18" ++
            "0a8139b319d60d905d327878394f9efb1038e9d94c96770e" },
      { eventId := "bc0"
        payload := itemDateClaimed
        subjectGuid := "f1"
        createdAt := 1
        seq := 2
        signature :=
          "0371c802e50005d6fa80f52c34f536c0ef56220d208b8461332a168b8e448273955bf731c43782ca" ++
            "e757816ad3a1aa083808e415dff246cfd6726b5ca3258103" },
      { eventId := "bc"
        payload := .feedUpserted { feed := twoItemFeed, reason := none }
        subjectGuid := "f1"
        createdAt := 1
        seq := 1
        signature :=
          "ce3d1154e2f8df33dad2f2871a6bbef0e3f4597c6cc8e1058d910313ac14b7ab08741e2fad614f34" ++
            "0a4d9ade6207e5a434590127e31f25de4a882ebc87743e07" },
      { eventId := "bu"
        payload := runObserved sampleUrl "f1" 1
        subjectGuid := "f1"
        createdAt := 1
        seq := 5
        signature :=
          "74202d789915a5863a6a53b73e5b58ad512a2d76022239af70a54ed6bef7768784717dca866dba1c" ++
            "c269fa4b3a4a2d99d0d9883569f42ab40e1edbf6e8632f01" }]

@[reducible] def itemPlatform : Platform := itemRecording.platform

section Sample

attribute [local instance] itemPlatform

def sampleItem (trackGuid : String) (pubDate : Option Int) : IngestTrackData where
  trackGuid := trackGuid
  title := "b"
  pubDate := pubDate
  durationSecs := none
  imageUrl := none
  language := none
  enclosureUrl := none
  enclosureType := none
  enclosureBytes := none
  alternateEnclosures := []
  trackNumber := none
  season := none
  explicit := false
  description := none
  authorName := none
  remoteItems := []
  persons := []
  entityIds := []
  links := []
  paymentRoutes := []
  valueTimeSplits := []
  transcripts := []

/-- The sample URL serves a feed with two items, the first of which has a date. -/
def twoItemIngest (second : String) : Operation :=
  .ingest (itemRecording.env 'b' 1) (Database.empty schema)
    (runRequest sampleUrl sampleUrl []
      { sampleBody "f1" [] with tracks := [sampleItem "t1" (some 10), sampleItem second none] })

/-- The second item has the GUID of the first one. -/
def sameItemDb : Db := (twoItemIngest "t1").next (Database.empty schema)

def twoItemDb : Db := (twoItemIngest "t2").next (Database.empty schema)

theorem sameItemDb_rows :
    ∃ r ∈ sameItemDb .feeds, r.feed.episodeCount = 2 ∧ r.feed.newestItemAt = some 10 ∧
      (getTracksForFeed sameItemDb r.feed.feedGuid).map Track.pubDate = [none] := by
  decide +kernel

/-- Two items of one GUID are two episodes and one track. -/
theorem sameItemDb_counted :
    ¬ ∀ (history : List RunStep) (d : Db), PrimaryRun (fun _ _ => True) history d →
        ∀ r ∈ d .feeds, r.feed.CountsTracks (getTracksForFeed d r.feed.feedGuid) := by
  intro hall
  have hrun : PrimaryRun (fun _ _ => True)
      [{ before := Database.empty schema, operation := twoItemIngest "t1" }] sameItemDb :=
    .step (twoItemIngest "t1") .empty trivial
  obtain ⟨r, hr, hcount, -, hdates⟩ := sameItemDb_rows
  have hlength : (getTracksForFeed sameItemDb r.feed.feedGuid).length = 1 := by
    have hmapped := congrArg List.length hdates
    rwa [List.length_map] at hmapped
  have hcounted := (hall _ _ hrun r hr).episodeCount
  rw [hcount, hlength] at hcounted
  exact absurd hcounted (by decide)

theorem twoItemDb_rows :
    (twoItemDb .feeds).length = 1 ∧ (twoItemDb .tracks).length = 2 := by
  decide +kernel

theorem twoItemIngest_keeps : KeepsColumns (Database.empty schema) (twoItemIngest "t2") := by
  rintro body ⟨-, -, hbody, -⟩
  cases hbody
  intro _
  decide

theorem itemColumns_fit_sample :
    (twoItemDb .feeds).length = 1 ∧ (twoItemDb .tracks).length = 2 ∧
      ∀ r ∈ twoItemDb .feeds, r.feed.CountsTracks (getTracksForFeed twoItemDb r.feed.feedGuid) := by
  have hrun : PrimaryRun KeepsColumns
      [{ before := Database.empty schema, operation := twoItemIngest "t2" }] twoItemDb :=
    .step (twoItemIngest "t2") .empty twoItemIngest_keeps
  exact ⟨twoItemDb_rows.1, twoItemDb_rows.2, fun r hr => itemColumns_fit hrun hr⟩

end Sample

end Stophammer
