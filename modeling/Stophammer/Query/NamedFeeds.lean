import Mathlib.Data.List.Dedup
import Stophammer.Query.PublisherView
import Stophammer.Relational.OrderBy

/-!
# The feeds that name a feed

The search for the feeds that name a publisher feed: by the GUID that an item declares, then by
each URL that names the feed.  A scan of all feeds with the `publisher` view finds the same ones.
-/

namespace Stophammer

open Relational

structure HashOrder where
  iter : List String → List String
  perm : ∀ members, (iter members).Perm members

namespace HashOrder

variable (order : HashOrder)

/-- The members of the set that these values were put into. -/
def collect (found : List String) : List String := order.iter found.dedup

theorem mem_collect {found : List String} {s : String} : s ∈ order.collect found ↔ s ∈ found := by
  rw [collect, (order.perm _).mem_iff, List.mem_dedup]

theorem collect_nodup (found : List String) : (order.collect found).Nodup :=
  (order.perm _).nodup_iff.mpr (List.nodup_dedup found)

end HashOrder

section Resolve

variable {t : ListInputs} {listedFeedGuid feedGuid : String} {listedFeedUrl : Option String}

theorem ListInputs.feedGuidIsIndexed_iff :
    t.feedGuidIsIndexed feedGuid = true ↔ ∃ f ∈ t.feeds, f.feedGuid = feedGuid := by
  simp [ListInputs.feedGuidIsIndexed]

theorem ListInputs.getFeed_isSome :
    (t.getFeed feedGuid).isSome = t.feedGuidIsIndexed feedGuid := by
  rw [Bool.eq_iff_iff, getFeed, List.find?_isSome, feedGuidIsIndexed_iff]
  simp

theorem resolveListedFeed_feedUrl
    (h : resolveListedFeed t listedFeedGuid listedFeedUrl = .feedUrl feedGuid) :
    ∃ url, listedFeedUrl = some url ∧ t.feedGuidIsIndexed feedGuid = true ∧
      (t.observedGuid url = some feedGuid ∨
        ∃ f ∈ t.feeds, f.feedUrl = url ∧ f.feedGuid = feedGuid) := by
  unfold resolveListedFeed at h
  split at h
  · cases h
  split at h
  · cases h
  rename_i url
  refine ⟨url, rfl, ?_⟩
  split at h
  · rename_i observed hobserved
    rw [ListedFeedResolution.feedUrl.injEq] at h
    subst h
    obtain ⟨hguid, hindexed⟩ := Option.filter_eq_some_iff.mp hobserved
    exact ⟨hindexed, .inl hguid⟩
  · split at h
    · rename_i feed hfind
      rw [ListedFeedResolution.feedUrl.injEq] at h
      have hmem := List.mem_of_find?_eq_some hfind
      have hfound := List.find?_some hfind
      have hurl : feed.feedUrl = url := beq_iff_eq.mp hfound
      exact ⟨ListInputs.feedGuidIsIndexed_iff.mpr ⟨feed, hmem, h⟩, .inr ⟨feed, hmem, hurl, h⟩⟩
    · cases h

theorem resolveListedFeed_guid
    (h : resolveListedFeed t listedFeedGuid listedFeedUrl = .guid feedGuid) :
    listedFeedGuid = feedGuid ∧ t.feedGuidIsIndexed feedGuid = true := by
  unfold resolveListedFeed at h
  split at h
  · rename_i hindexed
    rw [ListedFeedResolution.guid.injEq] at h
    subst h
    exact ⟨rfl, hindexed⟩
  · split at h
    · cases h
    · split at h
      · cases h
      · split at h <;> cases h

end Resolve

theorem publisherDirection_names {medium : Option String}
    (h : publisherDirection medium = some .musicToPublisher) : medium = some "publisher" := by
  unfold publisherDirection at h
  split at h
  · rename_i hmedium
    exact beq_iff_eq.mp hmedium
  · split at h <;> cases h

theorem publisherDirection_lists {medium : Option String}
    (h : publisherDirection medium = some .publisherToMusic) : medium = some "music" := by
  unfold publisherDirection at h
  split at h
  · cases h
  · split at h
    · rename_i hmedium
      exact beq_iff_eq.mp hmedium
    · cases h

theorem mem_loadPublisher {t : ListInputs} {feedGuid : String} {current : ListedFeed}
    (hcurrent : t.getFeed feedGuid = some current) {row : PublisherResponse} :
    row ∈ loadPublisher t feedGuid ↔ ∃ item ∈ t.remoteItems feedGuid,
      (item.medium = some "publisher" → isAlbumPublisherLink item.source = true) ∧
        buildPublisherRow t current (t.remoteItems feedGuid) item = some row := by
  have hkept : ∀ item : ListedItem,
      (!(item.medium == some "publisher" && !isAlbumPublisherLink item.source)) = true ↔
        (item.medium = some "publisher" → isAlbumPublisherLink item.source = true) := by
    intro item
    by_cases hmedium : item.medium = some "publisher" <;> simp [hmedium]
  unfold loadPublisher
  rw [hcurrent]
  simp only [List.mem_filterMap, List.mem_filter, hkept, and_assoc]

section Searches

variable (d : Db)

/-- `medium = 'publisher' AND source = 'podcast_publisher'`. -/
def publisherItems : List FeedRemoteItemRaw :=
  (d .feedRemoteItemsRaw).filter fun r : FeedRemoteItemRaw =>
    r.medium == some "publisher" && r.source == "podcast_publisher"

def guidCandidates (namedFeedGuid : String) : List FeedRemoteItemRaw :=
  (publisherItems d).filter fun r => r.remoteFeedGuid == namedFeedGuid

def urlCandidates (url : String) : List FeedRemoteItemRaw :=
  (publisherItems d).filter fun r => r.remoteFeedUrl == some url

def observedUrls (feedGuid : String) : List String :=
  ((d .feedUrlObservations).filter fun o : FeedUrlObservation => o.feedGuid == feedGuid).map
    FeedUrlObservation.url

/-- The feed that the item of a row resolves to. -/
def resolved (r : FeedRemoteItemRaw) : Option String := (r.listed.resolve (listInputs d)).feedGuid

/-- No feed is stored under a GUID that only an unresolved item declares. -/
def getFeedsNamingFeed (order : HashOrder) (namedFeedGuid : String) : List String :=
  let guidMatches := (guidCandidates d namedFeedGuid).filter fun r =>
    (resolved d r).all (· == namedFeedGuid)
  let urlMatches :=
    match (listInputs d).getFeed namedFeedGuid with
    | none => []
    | some feed =>
      (order.collect (observedUrls d namedFeedGuid ++ [feed.feedUrl])).flatMap fun url =>
        (urlCandidates d url).filter fun r => resolved d r == some namedFeedGuid
  order.collect ((guidMatches ++ urlMatches).map FeedRemoteItemRaw.feedGuid)

end Searches

section Found

variable {d : Db} {r : FeedRemoteItemRaw} {feedGuid namedFeedGuid : String}

theorem mem_listedFeeds {f : ListedFeed} :
    f ∈ (listInputs d).feeds ↔ ∃ r : FeedRow, r ∈ d .feeds ∧ r.feed.listed = f := by
  simp [listInputs]

theorem getFeed_of_mem {f : ListedFeed} (hf : f ∈ (listInputs d).feeds) :
    (listInputs d).getFeed f.feedGuid = some f := by
  have hsome : ((listInputs d).getFeed f.feedGuid).isSome := by
    rw [ListInputs.getFeed_isSome, ListInputs.feedGuidIsIndexed_iff]
    exact ⟨f, hf, rfl⟩
  obtain ⟨g, hg⟩ := Option.isSome_iff_exists.mp hsome
  have hfound := List.find?_some hg
  have hguid : g.feedGuid = f.feedGuid := beq_iff_eq.mp hfound
  obtain ⟨row, hrow, rfl⟩ := mem_listedFeeds.mp hf
  obtain ⟨other, hother, rfl⟩ := mem_listedFeeds.mp (List.mem_of_find?_eq_some hg)
  have hkey : Key.feed row.feed.feedGuid ∈ schema.keys .feeds row := List.mem_cons_self
  have hkey' : Key.feed row.feed.feedGuid ∈ schema.keys .feeds other := by
    have hsame : other.feed.feedGuid = row.feed.feedGuid := hguid
    rw [← hsame]
    exact List.mem_cons_self
  rw [hg, d.eq_of_shared_key hrow hother hkey hkey']

theorem getFeed_of_item (hr : r ∈ d .feedRemoteItemsRaw) :
    ((listInputs d).getFeed r.feedGuid).isSome := by
  have hhas : d.Has (.feed r.feedGuid) :=
    d.valid.referenced .feedRemoteItemsRaw r hr _ List.mem_cons_self
  obtain ⟨row, hrow, hkey⟩ :=
    (Database.has_iff (show schema.home (.feed r.feedGuid) = Table.feeds from rfl)).mp hhas
  have hguid : row.feed.feedGuid = r.feedGuid := by
    simpa [schema, Table.keys, eq_comm] using hkey
  have hfeed := getFeed_of_mem (mem_listedFeeds.mpr ⟨row, hrow, rfl⟩)
  rw [← hguid]
  exact Option.isSome_of_eq_some hfeed

theorem mem_publisherItems : r ∈ publisherItems d ↔
    r ∈ d .feedRemoteItemsRaw ∧ r.medium = some "publisher" ∧ isAlbumPublisherLink r.source := by
  simp [publisherItems, isAlbumPublisherLink]

theorem observedGuid_mem {url : String} (h : (listInputs d).observedGuid url = some feedGuid) :
    url ∈ observedUrls d feedGuid := by
  obtain ⟨o, ho, rfl⟩ := Option.map_eq_some_iff.mp h
  have hfound := List.find?_some ho
  have hurl : o.url = url := beq_iff_eq.mp hfound
  refine List.mem_map.mpr ⟨o, ?_, hurl⟩
  exact List.mem_filter.mpr ⟨List.mem_of_find?_eq_some ho, beq_self_eq_true _⟩

theorem resolved_found (hr : r ∈ publisherItems d) (h : resolved d r = some feedGuid) :
    r ∈ guidCandidates d feedGuid ∨ ∃ feed, (listInputs d).getFeed feedGuid = some feed ∧
      ∃ url ∈ observedUrls d feedGuid ++ [feed.feedUrl], r ∈ urlCandidates d url := by
  unfold resolved at h
  cases hresolution : r.listed.resolve (listInputs d) with
  | unresolved =>
    rw [hresolution] at h
    cases h
  | guid named =>
    rw [hresolution] at h
    cases h
    have hguid := (resolveListedFeed_guid hresolution).1
    exact .inl (List.mem_filter.mpr ⟨hr, beq_iff_eq.mpr hguid⟩)
  | feedUrl named =>
    rw [hresolution] at h
    cases h
    obtain ⟨url, hurl, hindexed, hfound⟩ := resolveListedFeed_feedUrl hresolution
    rw [← ListInputs.getFeed_isSome] at hindexed
    obtain ⟨feed, hfeed⟩ := Option.isSome_iff_exists.mp hindexed
    refine .inr ⟨feed, hfeed, url, ?_, List.mem_filter.mpr ⟨hr, beq_iff_eq.mpr hurl⟩⟩
    rcases hfound with hobserved | ⟨stored, hstored, rfl, rfl⟩
    · exact List.mem_append_left _ (observedGuid_mem hobserved)
    · rw [getFeed_of_mem hstored, Option.some.injEq] at hfeed
      subst hfeed
      simp

theorem mem_remoteItems {item : ListedItem} :
    item ∈ (listInputs d).remoteItems feedGuid ↔
      ∃ r : FeedRemoteItemRaw, r ∈ d .feedRemoteItemsRaw ∧ r.feedGuid = feedGuid ∧
        r.listed = item := by
  simp only [listInputs, getFeedRemoteItemsForFeed, List.mem_map, mem_orderBy, List.mem_filter,
    beq_iff_eq, and_assoc]

theorem loadPublisher_names :
    (∃ row ∈ loadPublisher (listInputs d) feedGuid,
      row.direction = .musicToPublisher ∧ row.publisherFeedGuid = namedFeedGuid) ↔
    ∃ r ∈ publisherItems d, r.feedGuid = feedGuid ∧
      (resolved d r).getD r.remoteFeedGuid = namedFeedGuid := by
  constructor
  · rintro ⟨row, hrow, hdirection, hnamed⟩
    obtain ⟨current, hcurrent⟩ : ∃ current, (listInputs d).getFeed feedGuid = some current := by
      cases hcurrent : (listInputs d).getFeed feedGuid with
      | none =>
        unfold loadPublisher at hrow
        rw [hcurrent] at hrow
        cases hrow
      | some current => exact ⟨current, rfl⟩
    obtain ⟨item, hitem, hlink, hbuild⟩ := (mem_loadPublisher hcurrent).mp hrow
    obtain ⟨r, hr, rfl, rfl⟩ := mem_remoteItems.mp hitem
    obtain ⟨direction, hmedium, rfl⟩ := Option.map_eq_some_iff.mp hbuild
    change direction = .musicToPublisher at hdirection
    subst hdirection
    have hpublisher : r.medium = some "publisher" := publisherDirection_names hmedium
    exact ⟨r, mem_publisherItems.mpr ⟨hr, hpublisher, hlink hpublisher⟩, rfl, hnamed⟩
  · rintro ⟨r, hr, rfl, hnamed⟩
    obtain ⟨hr, hpublisher, hlink⟩ := mem_publisherItems.mp hr
    obtain ⟨feed, hfeed⟩ := Option.isSome_iff_exists.mp (getFeed_of_item hr)
    have hdirection : publisherDirection r.listed.medium = some .musicToPublisher := by
      simp [publisherDirection, FeedRemoteItemRaw.listed, hpublisher]
    obtain ⟨row, hrow⟩ : ∃ row, buildPublisherRow (listInputs d) feed
        ((listInputs d).remoteItems r.feedGuid) r.listed = some row := by
      rw [buildPublisherRow, hdirection]
      exact ⟨_, rfl⟩
    have hmem : row ∈ loadPublisher (listInputs d) r.feedGuid :=
      (mem_loadPublisher hfeed).mpr
        ⟨r.listed, mem_remoteItems.mpr ⟨r, hr, rfl, rfl⟩, fun _ => hlink, hrow⟩
    rw [buildPublisherRow, hdirection, Option.map_some, Option.some.injEq] at hrow
    subst hrow
    exact ⟨_, hmem, rfl, hnamed⟩

theorem mem_getFeedsNamingFeed (order : HashOrder) :
    feedGuid ∈ getFeedsNamingFeed d order namedFeedGuid ↔
      ∃ r ∈ publisherItems d, r.feedGuid = feedGuid ∧
        (resolved d r).getD r.remoteFeedGuid = namedFeedGuid := by
  rw [getFeedsNamingFeed, HashOrder.mem_collect, List.mem_map]
  constructor
  · rintro ⟨r, hr, rfl⟩
    rcases List.mem_append.mp hr with hr | hr
    · obtain ⟨hr, hall⟩ := List.mem_filter.mp hr
      obtain ⟨hr, hguid⟩ := List.mem_filter.mp hr
      refine ⟨r, hr, rfl, ?_⟩
      cases hresolved : resolved d r with
      | none => exact beq_iff_eq.mp hguid
      | some other =>
        rw [hresolved, Option.all_some] at hall
        exact beq_iff_eq.mp hall
    · split at hr
      · cases hr
      · obtain ⟨url, -, hr⟩ := List.mem_flatMap.mp hr
        obtain ⟨hr, hresolved⟩ := List.mem_filter.mp hr
        refine ⟨r, (List.mem_filter.mp hr).1, rfl, ?_⟩
        rw [beq_iff_eq.mp hresolved, Option.getD_some]
  · rintro ⟨r, hr, rfl, hnamed⟩
    refine ⟨r, List.mem_append.mpr ?_, rfl⟩
    cases hresolved : resolved d r with
    | none =>
      rw [hresolved, Option.getD_none] at hnamed
      refine .inl (List.mem_filter.mpr ⟨List.mem_filter.mpr ⟨hr, beq_iff_eq.mpr hnamed⟩, ?_⟩)
      rw [hresolved, Option.all_none]
    | some other =>
      rw [hresolved, Option.getD_some] at hnamed
      subst hnamed
      rcases resolved_found hr hresolved with hguid | ⟨feed, hfeed, url, hurl, hcandidate⟩
      · refine .inl (List.mem_filter.mpr ⟨hguid, ?_⟩)
        rw [hresolved, Option.all_some, beq_self_eq_true]
      · rw [hfeed]
        refine .inr (List.mem_flatMap.mpr ⟨url, (order.mem_collect).mpr hurl, ?_⟩)
        exact List.mem_filter.mpr ⟨hcandidate, beq_iff_eq.mpr hresolved⟩

/-- The search gives, once each, the feeds whose view names the feed. -/
theorem getFeedsNamingFeed_scan (d : Db) (order : HashOrder) (namedFeedGuid : String) :
    (getFeedsNamingFeed d order namedFeedGuid).Nodup ∧
      ∀ feedGuid, feedGuid ∈ getFeedsNamingFeed d order namedFeedGuid ↔
        ∃ row ∈ loadPublisher (listInputs d) feedGuid,
          row.direction = .musicToPublisher ∧ row.publisherFeedGuid = namedFeedGuid := by
  refine ⟨order.collect_nodup _, fun feedGuid => ?_⟩
  rw [mem_getFeedsNamingFeed, loadPublisher_names]

end Found

section Sample

def viewFeed (feedGuid feedUrl medium : String) (author : Option String) : FeedRow where
  feed :=
    { feedGuid := feedGuid
      feedUrl := feedUrl
      title := feedGuid
      titleLower := feedGuid
      description := none
      imageUrl := none
      publisher := none
      language := none
      explicit := false
      itunesType := none
      releaseArtist := some (author.getD "Unknown Artist")
      releaseArtistSort := none
      releaseDate := none
      releaseKind := some "unknown"
      episodeCount := 0
      newestItemAt := none
      oldestItemAt := none
      createdAt := 1
      updatedAt := 1
      rawMedium := some medium
      lastBuildDate := none
      releaseArtistSource := some (if author.isSome then "itunes_author" else "placeholder") }
  declaredSelfUrl := none
  declaredNewFeedUrl := none
  podcastLocked := none
  lockedOwner := none
  titleSort := some feedGuid
  feedHost := none

/-- An item by which an album names its publisher feed, or a publisher feed lists an album. -/
def viewItem (feedGuid remoteFeedGuid medium : String) (position : Int) (rel : Option String) :
    FeedRemoteItemRaw where
  feedGuid := feedGuid
  position := position
  medium := some medium
  remoteFeedGuid := remoteFeedGuid
  remoteFeedUrl := none
  rel := rel
  source := if medium == "publisher" then "podcast_publisher" else "podcast_remote_item"
  remoteItemGuid := none
  remoteItemTitle := none

/-- The rows that the views read, and nothing else. -/
def viewContents (feeds : List FeedRow) (items : List FeedRemoteItemRaw) : Contents schema
  | .feeds => feeds
  | .feedRemoteItemsRaw => items
  | _ => []

end Sample

end Stophammer
