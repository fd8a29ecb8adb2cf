import Stophammer.Blocks
import Stophammer.Constraints
import Stophammer.Relational.Upserted

/-!
# The sources that the nodes share

The source URL of each record, the blocks, the copies at other URLs, the records of URLs and
the GUIDs that replaced others.  A row of them changes by the same statement on each node: on
the primary beside its event, and on a replica from the event.
-/

namespace Stophammer

open Relational Statement

variable [Platform] {d e : Db}

/-- What the nodes share of a copy.  When a node saw it last is its own. -/
def FeedCopyRow.shared (r : FeedCopyRow) : FeedCopyRow := { r with lastSeen := none }

/-- The GUIDs of a supersession with its source URL. -/
def GuidSupersessionRow.pair (r : GuidSupersessionRow) : String × String × String :=
  (r.oldGuid, r.newGuid, r.sourceUrl)

structure SharedSources where
  /-- The GUID of each record with its source URL. -/
  urls : List (String × String)
  blocks : List FeedBlock
  copies : List FeedCopyRow
  observations : List FeedUrlObservation
  supersessions : List (String × String × String)
deriving DecidableEq

def FeedRow.source (r : FeedRow) : String × String := (r.feed.feedGuid, r.feed.feedUrl)

def sourceUrls (d : Db) : List (String × String) := (d .feeds).map FeedRow.source

def sharedCopies (d : Db) : List FeedCopyRow := (d .feedCopies).map FeedCopyRow.shared

def sharedSources (d : Db) : SharedSources where
  urls := sourceUrls d
  blocks := d .feedBlocks
  copies := sharedCopies d
  observations := d .feedUrlObservations
  supersessions := (d .feedGuidSupersessions).map GuidSupersessionRow.pair

/-- The tables of what the nodes share. -/
def sourceTables : List Table :=
  [.feeds, .feedBlocks, .feedCopies, .feedUrlObservations, .feedGuidSupersessions]

/-- The types of the events about it. -/
def sourceTypes : List EventType :=
  [.feedUpserted, .feedRetired, .feedBlocked, .feedUnblocked, .feedCopyObserved, .feedCopyResolved,
    .feedUrlObserved, .feedGuidSuperseded]

/-- A URL has one record: where another record has it, the event changes nothing. -/
def putUrl (urls : List (String × String)) (guid url : String) : List (String × String) :=
  if urls.any fun q => q.2 == url && q.1 != guid then urls
  else upserted (fun q => q.1 == guid) (guid, url) (fun _ => (guid, url)) urls

def putCopy (copies : List FeedCopyRow) (feedGuid url : String) (firstSeen : Int)
    (summary : CopySummary) (digest : String) : List FeedCopyRow :=
  upserted (isCopyAt feedGuid url)
    { feedGuid := feedGuid
      url := url
      firstSeen := firstSeen
      lastSeen := none
      summary := summary
      summaryDigest := digest
      remoteItemsDigest := remoteItemsDigest summary
      resolution := none
      resolutionReason := none
      resolvedAt := none
      resolvedDigest := none
      resolvedRemoteItemsDigest := none }
    (fun r =>
      { r with
        summary := summary
        summaryDigest := digest
        remoteItemsDigest := remoteItemsDigest summary })
    copies

def FeedCopyRow.resolved (r : FeedCopyRow) (decision reason : String) (resolvedAt : Int)
    (digest : String) (remoteDigest : Option String) : FeedCopyRow :=
  { r with
    resolution := some decision
    resolutionReason := some reason
    resolvedAt := some resolvedAt
    resolvedDigest := some digest
    resolvedRemoteItemsDigest := remoteDigest }

/-- The table takes two decisions. -/
def resolveCopies (copies : List FeedCopyRow) (feedGuid url decision reason : String)
    (resolvedAt : Int) (digest : String) (remoteDigest : Option String) : List FeedCopyRow :=
  if decision ∈ ["keep_source", "relocate"] then
    copies.map fun r =>
      if isCopyAt feedGuid url r then r.resolved decision reason resolvedAt digest remoteDigest
      else r
  else copies

namespace SharedSources

def retired (s : SharedSources) (guid : String) : SharedSources :=
  { s with
    urls := s.urls.filter fun q => !(q.1 == guid)
    copies := s.copies.filter fun r => !(r.feedGuid == guid) }

/-- A new URL block takes the copies at its URL away. -/
def withBlock (s : SharedSources) (block : FeedBlock) : SharedSources :=
  if block.taken s.blocks then s
  else
    { s with
      blocks := s.blocks ++ [block.stored]
      copies :=
        if block.kind == .url then s.copies.filter fun r => !(r.url == block.stored.value)
        else s.copies }

def withoutBlock (s : SharedSources) (blockId : String) : SharedSources :=
  { s with blocks := s.blocks.filter fun r => !(r.blockId == blockId) }

/-- The first supersession of a GUID stays. -/
def superseded (s : SharedSources) (oldGuid newGuid sourceUrl : String) : SharedSources :=
  if s.supersessions.any fun q => q.1 == oldGuid then s
  else { s with supersessions := s.supersessions ++ [(oldGuid, newGuid, sourceUrl)] }

def observed (s : SharedSources) (url feedGuid : String) (observedAt : Int) : SharedSources :=
  { s with
    observations := upserted (fun r => r.url == url)
      { url := url, feedGuid := feedGuid, observedAt := observedAt }
      (fun r => { r with feedGuid := feedGuid, observedAt := observedAt }) s.observations }

/-- What the event of the payload makes of it. -/
def replay (s : SharedSources) : EventPayload → SharedSources
  | .feedUpserted p => { s with urls := putUrl s.urls p.feed.feedGuid p.feed.feedUrl }
  | .feedRetired p => if s.urls.any fun q => q.1 == p.feedGuid then s.retired p.feedGuid else s
  | .feedBlocked p => s.withBlock p.block
  | .feedUnblocked p => s.withoutBlock p.blockId
  | .feedCopyObserved p =>
    { s with copies := putCopy s.copies p.feedGuid p.url p.firstSeen p.summary p.summaryDigest }
  | .feedCopyResolved p =>
    { s with
      copies := resolveCopies s.copies p.feedGuid p.url p.decision p.reason p.resolvedAt
        p.resolvedDigest p.resolvedRemoteItemsDigest }
  | .feedUrlObserved p => s.observed p.url p.feedGuid p.observedAt
  | .feedGuidSuperseded p => s.superseded p.oldGuid p.newGuid p.sourceUrl
  | _ => s

theorem replay_other {s : SharedSources} {payload : EventPayload}
    (h : payload.eventType ∉ sourceTypes) : s.replay payload = s := by
  cases payload with
  | feedUpserted | feedRetired | feedBlocked | feedUnblocked | feedCopyObserved
  | feedCopyResolved | feedUrlObserved | feedGuidSuperseded =>
    exact absurd (by simp [sourceTypes, EventPayload.eventType]) h
  | _ => rfl

end SharedSources

omit [Platform] in
theorem sharedSources_congr (h : ∀ t ∈ sourceTables, e t = d t) :
    sharedSources e = sharedSources d := by
  simp only [sharedSources, sourceUrls, sharedCopies, h .feeds (by decide),
    h .feedBlocks (by decide), h .feedCopies (by decide), h .feedUrlObservations (by decide),
    h .feedGuidSupersessions (by decide)]

omit [Platform] in
theorem sharedSources_feeds {ts : List Table} (h : SameOutside (S := schema) ts d e)
    (hts : ∀ t ∈ sourceTables, t ≠ .feeds → t ∉ ts) :
    sharedSources e = { sharedSources d with urls := sourceUrls e } := by
  have hsame : ∀ t ∈ sourceTables, t ≠ .feeds → e t = d t := fun t ht hne => h t (hts t ht hne)
  simp only [sharedSources, sharedCopies, hsame .feedBlocks (by decide) (by decide),
    hsame .feedCopies (by decide) (by decide), hsame .feedUrlObservations (by decide) (by decide),
    hsame .feedGuidSupersessions (by decide) (by decide)]

omit [Platform] in
theorem sharedSources_copies {ts : List Table} (h : SameOutside (S := schema) ts d e)
    (hts : ∀ t ∈ sourceTables, t ≠ .feedCopies → t ∉ ts) :
    sharedSources e = { sharedSources d with copies := sharedCopies e } := by
  have hsame : ∀ t ∈ sourceTables, t ≠ .feedCopies → e t = d t := fun t ht hne =>
    h t (hts t ht hne)
  simp only [sharedSources, sourceUrls, hsame .feedBlocks (by decide) (by decide),
    hsame .feeds (by decide) (by decide), hsame .feedUrlObservations (by decide) (by decide),
    hsame .feedGuidSupersessions (by decide) (by decide)]

theorem upsertFeed_ends {feed : Feed} (hurl : UrlFree d feed) :
    ∃ e, upsertFeed feed d = (.ok (), e) := by
  by_cases hany : (d .feeds).any (fun r : FeedRow => r.feed.feedGuid == feed.feedGuid) = true
  · obtain ⟨e, hrun, -⟩ := upsertFeed_update hurl hany
    exact ⟨e, hrun⟩
  · unfold upsertFeed
    rw [upsert_absent (S := schema) d hany]
    have hadmits : d.Admits (S := schema) .feeds
        { feed := feed
          declaredSelfUrl := none
          declaredNewFeedUrl := none
          podcastLocked := none
          lockedOwner := none
          titleSort := some (sortKey feed.title)
          feedHost := some (feedHostOf feed.feedUrl) } := by
      refine ⟨fun k hk hhas => ?_, rfl, fun k hk => (List.not_mem_nil hk).elim⟩
      obtain ⟨r, hr, hkey⟩ := (Database.has_iff (S := schema)
        (schema.keys_home .feeds _ k hk)).mp hhas
      have hguid : r.feed.feedGuid = feed.feedGuid := by
        simp only [schema, Table.keys, List.mem_cons, List.not_mem_nil, or_false] at hk
        rcases hk with rfl | rfl
        · simpa [schema, Table.keys, eq_comm] using hkey
        · exact hurl r hr (by simpa [schema, Table.keys, eq_comm] using hkey)
      exact hany (List.any_eq_true.mpr ⟨r, hr, beq_iff_eq.mpr hguid⟩)
    obtain ⟨e, hrun, -⟩ := insert_ok d hadmits
    exact ⟨e, hrun⟩

theorem upsertFeed_ok_iff {feed : Feed} :
    (∃ e, upsertFeed feed d = (.ok (), e)) ↔
      ((sourceUrls d).any fun q => q.2 == feed.feedUrl && q.1 != feed.feedGuid) = false := by
  have hfree : ((sourceUrls d).any fun q => q.2 == feed.feedUrl && q.1 != feed.feedGuid) = false ↔
      UrlFree d feed := by
    rw [sourceUrls, List.any_map, List.any_eq_false, UrlFree]
    simp [FeedRow.source]
  rw [hfree]
  refine ⟨?_, upsertFeed_ends⟩
  rintro ⟨e, hrun⟩ r hr hurl
  by_contra hguid
  have hrows := upsert_rows (S := schema) hrun
  have hstays : r ∈ e .feeds := by
    rw [hrows]
    exact mem_upserted hr (beq_eq_false_iff_ne.mpr hguid)
  obtain ⟨r', hr', hnew⟩ : ∃ r' ∈ e .feeds, r'.source = (feed.feedGuid, feed.feedUrl) := by
    obtain ⟨r', hr', hcases⟩ := exists_upserted
      (fun r : FeedRow => r.feed.feedGuid == feed.feedGuid) _ _ (d .feeds)
    rw [← hrows] at hr'
    refine ⟨r', hr', ?_⟩
    rcases hcases with rfl | ⟨old, -, -, rfl⟩ <;> rfl
  obtain ⟨hguid', hurl'⟩ := Prod.mk.inj hnew
  have hsame : r = r' := e.eq_of_shared_key (t := .feeds) (k := .feedUrl feed.feedUrl) hstays hr'
    (by simp [schema, Table.keys, hurl]) (by simp [schema, Table.keys, hurl'])
  exact hguid (hsame ▸ hguid')

theorem upsertFeed_urls (feed : Feed) (d : Db) :
    sourceUrls (upsertFeed feed d).2 = putUrl (sourceUrls d) feed.feedGuid feed.feedUrl := by
  rw [putUrl]
  rcases hrun : upsertFeed feed d with ⟨err | ⟨⟩, e⟩
  · rw [upsert_error_state hrun, if_pos]
    by_contra hfree
    obtain ⟨e', hok⟩ := upsertFeed_ok_iff.mpr (Bool.not_eq_true _ ▸ hfree)
    cases hrun.symm.trans hok
  · rw [upsertFeed_ok_iff.mp ⟨e, hrun⟩, if_neg Bool.false_ne_true, sourceUrls,
      upsert_rows (S := schema) hrun]
    refine upserted_map (g := FeedRow.source) ?_ ?_ _ (d .feeds)
    · exact fun _ => rfl
    · exact fun _ _ => rfl

theorem deleteFeedSql_sources {guid : String} (h : deleteFeedSql guid d = (.ok (), e)) :
    sharedSources e = (sharedSources d).retired guid := by
  have hrows := deleteFeedSql_without h
  have hfeeds : e .feeds = (d .feeds).filter fun r : FeedRow => !(r.feed.feedGuid == guid) :=
    deleteFeedSql_feeds h
  have hcopies : e .feedCopies = (d .feedCopies).filter fun r : FeedCopyRow =>
      !(r.feedGuid == guid) := by
    rw [hrows .feedCopies]
    apply List.filter_congr
    intro r _
    simp [feedTakes, indexTakes, ofFeed, Table.feedOf, onTable, bareRows]
  have hother : ∀ t ∈ [Table.feedBlocks, .feedUrlObservations, .feedGuidSupersessions],
      e t = d t := fun t ht =>
    (deleteFeedSql_writes t (by revert ht; cases t <;> decide)).run h
  simp only [sharedSources, sourceUrls, sharedCopies, SharedSources.retired, hfeeds, hcopies,
    hother .feedBlocks (by decide), hother .feedUrlObservations (by decide),
    hother .feedGuidSupersessions (by decide), List.filter_map]
  rfl

theorem insertFeedBlock_copies {block : FeedBlock} {b : Bool} (h : insertFeedBlock block d = (.ok b, e)) :
    e .feedCopies = if b && block.kind == .url then
      (d .feedCopies).filter fun r : FeedCopyRow => !(r.url == block.stored.value)
    else d .feedCopies := by
  have hinserts : Writes (S := schema) [Table.feedBlocks]
      (insertOrIgnore (S := schema) .feedBlocks block.stored) := Writes.insertOrIgnore (by decide)
  rw [insertFeedBlock_eq] at h
  obtain ⟨changed, t, hinsert, h⟩ := bind_ok h
  have hsame : t .feedCopies = d .feedCopies := (hinserts .feedCopies (by decide)).run hinsert
  obtain ⟨_, u, hdelete, hpure⟩ := bind_ok h
  cases hpure
  rw [← hsame]
  split at hdelete
  · rw [if_pos ‹_›]
    exact modify_ok_rows (S := schema) hdelete
  · rw [if_neg ‹_›]
    cases hdelete
    rfl

theorem insertFeedBlock_sources {block : FeedBlock} {b : Bool}
    (h : insertFeedBlock block d = (.ok b, e)) :
    sharedSources e = (sharedSources d).withBlock block ∧ (b = false → e = d) := by
  obtain ⟨e', hrun, hblocks, hsame⟩ := insertFeedBlock_run block d
  obtain ⟨hb, rfl⟩ := Prod.mk.inj (h.symm.trans hrun)
  have hb : b = !block.taken (d .feedBlocks) := Except.ok.inj hb
  subst hb
  refine ⟨?_, fun hfalse => hsame (by simpa using hfalse)⟩
  have hcopies := insertFeedBlock_copies h
  have hframe : SameOutside (S := schema) [Table.feedBlocks, .feedCopies] d e :=
    (insertFeedBlock_writes.sameOutside (List.Subset.refl _)).run h
  cases htaken : block.taken (d .feedBlocks) with
  | true =>
    have hshared : FeedBlock.taken (sharedSources d).blocks block = true := htaken
    rw [hsame htaken, SharedSources.withBlock, if_pos hshared]
  | false =>
    rw [htaken] at hcopies
    simp only [sharedSources, sourceUrls, sharedCopies, SharedSources.withBlock, hblocks, htaken,
      hcopies, hframe .feeds (by decide), hframe .feedUrlObservations (by decide),
      hframe .feedGuidSupersessions (by decide), Bool.not_false, Bool.true_and,
      Bool.false_eq_true, if_false]
    congr 1
    split
    · rw [List.filter_map]
      rfl
    · rfl

omit [Platform] in
theorem deleteFeedBlock_sources {blockId : String} (h : deleteFeedBlock blockId d = (.ok (), e)) :
    sharedSources e = (sharedSources d).withoutBlock blockId := by
  have hwrites : Writes (S := schema) [Table.feedBlocks] (deleteFeedBlock blockId) :=
    Writes.delete (by decide)
  have hframe : SameOutside (S := schema) [Table.feedBlocks] d e :=
    (hwrites.sameOutside (List.Subset.refl _)).run h
  have hblocks : e .feedBlocks = (d .feedBlocks).filter fun r : FeedBlock =>
      !(r.blockId == blockId) := modify_ok_rows (S := schema) h
  simp only [sharedSources, sourceUrls, sharedCopies, SharedSources.withoutBlock, hblocks,
    hframe .feeds (by decide), hframe .feedCopies (by decide),
    hframe .feedUrlObservations (by decide), hframe .feedGuidSupersessions (by decide)]

theorem upsertFeedCopySummary_copies {feedGuid url digest : String} {firstSeen : Int}
    {summary : CopySummary}
    (h : upsertFeedCopySummary feedGuid url firstSeen summary digest (remoteItemsDigest summary) d =
      (.ok (), e)) :
    sharedCopies e = putCopy (sharedCopies d) feedGuid url firstSeen summary digest := by
  rw [sharedCopies, upsert_rows (S := schema) h]
  refine upserted_map (g := FeedCopyRow.shared) ?_ ?_ _ (d .feedCopies)
  · exact fun _ => rfl
  · exact fun _ _ => rfl

theorem upsertFeedCopySummary_ends (d : Db) (feedGuid url digest : String) (firstSeen : Int)
    (summary : CopySummary) :
    ∃ e, upsertFeedCopySummary feedGuid url firstSeen summary digest (remoteItemsDigest summary) d =
      (.ok (), e) := by
  unfold upsertFeedCopySummary
  obtain ⟨e, hrun, -⟩ := upsert_run (S := schema) (t := .feedCopies) (d := d)
    (p := isCopyAt feedGuid url)
    (r :=
      { feedGuid := feedGuid
        url := url
        firstSeen := firstSeen
        lastSeen := none
        summary := summary
        summaryDigest := digest
        remoteItemsDigest := remoteItemsDigest summary
        resolution := none
        resolutionReason := none
        resolvedAt := none
        resolvedDigest := none
        resolvedRemoteItemsDigest := none })
    (f := fun r : FeedCopyRow =>
      { r with
        summary := summary
        summaryDigest := digest
        remoteItemsDigest := remoteItemsDigest summary })
    (by
      intro r' _ hother k hk hk'
      simp only [schema, Table.keys, List.mem_singleton] at hk hk'
      rw [hk, Key.copy.injEq] at hk'
      simp [isCopyAt, hk'.1, hk'.2] at hother)
    rfl (fun k hk => (List.not_mem_nil hk).elim) (fun _ _ _ => rfl) (fun _ _ _ => rfl)
    (fun r' hr' _ => d.valid.checked .feedCopies r' hr')
  exact ⟨e, hrun⟩

omit [Platform] in
theorem touchFeedCopyLastSeen_copies {feedGuid url : String} {now : Int}
    (h : touchFeedCopyLastSeen feedGuid url now d = (.ok (), e)) :
    sharedCopies e = sharedCopies d := by
  have hrows : e .feedCopies = (d .feedCopies).map fun r : FeedCopyRow =>
      if isCopyAt feedGuid url r then { r with lastSeen := some now } else r :=
    modify_ok_rows (S := schema) h
  rw [sharedCopies, hrows, List.map_map, sharedCopies]
  apply List.map_congr_left
  intro r _
  rw [Function.comp_apply]
  split <;> rfl

omit [Platform] in
theorem setFeedCopyResolution_copies (feedGuid url decision reason : String) (resolvedAt : Int)
    (digest : String) (remoteDigest : Option String) (d : Db) :
    sharedCopies (setFeedCopyResolution feedGuid url decision reason resolvedAt digest remoteDigest
        d).2 =
      resolveCopies (sharedCopies d) feedGuid url decision reason resolvedAt digest
        remoteDigest := by
  have hrows : ∀ {e : Db}, setFeedCopyResolution feedGuid url decision reason resolvedAt digest
      remoteDigest d = (.ok (), e) → e .feedCopies = (d .feedCopies).map fun r : FeedCopyRow =>
        if isCopyAt feedGuid url r then r.resolved decision reason resolvedAt digest remoteDigest
        else r := fun hrun => modify_ok_rows (S := schema) hrun
  have hshared : ∀ {e : Db}, setFeedCopyResolution feedGuid url decision reason resolvedAt digest
      remoteDigest d = (.ok (), e) → sharedCopies e = (sharedCopies d).map fun r =>
        if isCopyAt feedGuid url r then r.resolved decision reason resolvedAt digest remoteDigest
        else r := by
    intro e hrun
    rw [sharedCopies, hrows hrun]
    refine map_updated (g := FeedCopyRow.shared) ?_ ?_ (d .feedCopies)
    · exact fun _ => rfl
    · exact fun _ _ => rfl
  by_cases hvalid : decision ∈ ["keep_source", "relocate"]
  · obtain ⟨e, hrun, -⟩ := update_ok (S := schema) (t := .feedCopies) d
      (p := isCopyAt feedGuid url)
      (f := fun r : FeedCopyRow => r.resolved decision reason resolvedAt digest remoteDigest)
      (fun _ _ _ => rfl) (fun _ _ _ => rfl)
      (fun _ _ _ => by simpa [schema, Table.check, FeedCopyRow.resolved] using hvalid)
    rw [resolveCopies, if_pos hvalid]
    have hset : setFeedCopyResolution feedGuid url decision reason resolvedAt digest remoteDigest
        d = (.ok (), e) := hrun
    rw [hset]
    exact hshared hset
  · rw [resolveCopies, if_neg hvalid]
    rcases hrun : setFeedCopyResolution feedGuid url decision reason resolvedAt digest remoteDigest
      d with ⟨err | ⟨⟩, e⟩
    · rw [modify_error_state hrun]
    · have habsent : ∀ r ∈ d .feedCopies, isCopyAt feedGuid url r = false := by
        intro r hr
        by_contra hat
        have hmem : r.resolved decision reason resolvedAt digest remoteDigest ∈ e .feedCopies := by
          rw [hrows hrun]
          exact List.mem_map.mpr ⟨r, hr, if_pos (by simpa using hat)⟩
        have hcheck := e.valid.checked .feedCopies _ hmem
        simp [Table.check, FeedCopyRow.resolved] at hcheck
        exact hvalid (by simpa using hcheck)
      rw [sharedCopies, hrows hrun, map_updated_absent habsent]
      rfl

omit [Platform] in
theorem upsertFeedUrlObservation_sources (url feedGuid : String) (observedAt : Int) (d : Db) :
    sharedSources (upsertFeedUrlObservation url feedGuid observedAt d).2 =
      (sharedSources d).observed url feedGuid observedAt := by
  have hwrites : Writes (S := schema) [Table.feedUrlObservations]
      (upsertFeedUrlObservation url feedGuid observedAt) := Writes.upsert (by decide)
  obtain ⟨e, hrun, -⟩ := upsert_run (S := schema) (t := .feedUrlObservations) (d := d)
    (p := fun r : FeedUrlObservation => r.url == url)
    (r := { url := url, feedGuid := feedGuid, observedAt := observedAt })
    (f := fun r : FeedUrlObservation => { r with feedGuid := feedGuid, observedAt := observedAt })
    (by
      intro r' _ hother k hk hk'
      simp only [schema, Table.keys, List.mem_singleton] at hk hk'
      rw [hk, Key.urlObservation.injEq] at hk'
      simp [hk'] at hother)
    rfl (fun k hk => (List.not_mem_nil hk).elim) (fun _ _ _ => rfl) (fun _ _ _ => rfl)
    (fun _ _ _ => rfl)
  have hset : upsertFeedUrlObservation url feedGuid observedAt d = (.ok (), e) := hrun
  have hframe : SameOutside (S := schema) [Table.feedUrlObservations] d e :=
    (hwrites.sameOutside (List.Subset.refl _)).run hset
  rw [hset]
  simp only [sharedSources, sourceUrls, sharedCopies, SharedSources.observed,
    upsert_rows (S := schema) hrun, hframe .feeds (by decide), hframe .feedCopies (by decide),
    hframe .feedBlocks (by decide), hframe .feedGuidSupersessions (by decide)]

omit [Platform] in
theorem recordFeedUrlObservation_sources {url feedGuid : String} {now : Int}
    {observation : FeedUrlObservation}
    (h : recordFeedUrlObservation url feedGuid now d = (.ok (some observation), e)) :
    observation = { url := url, feedGuid := feedGuid, observedAt := now } ∧
      sharedSources e = (sharedSources d).observed url feedGuid now := by
  have hframe : SameOutside (S := schema) [Table.feedUrlObservations] d e :=
    (recordFeedUrlObservation_writes.sameOutside (List.Subset.refl _)).run h
  have hrows : observation = { url := url, feedGuid := feedGuid, observedAt := now } ∧
      e .feedUrlObservations = ((sharedSources d).observed url feedGuid now).observations := by
    unfold recordFeedUrlObservation at h
    rw [read_bind_run] at h
    cases hstored : getFeedUrlObservation d url with
    | none =>
      have hnone : ¬ ((d .feedUrlObservations).any fun r : FeedUrlObservation => r.url == url) =
          true := by
        rw [List.any_eq_true]
        rintro ⟨r, hr, hurl⟩
        exact List.find?_eq_none.mp hstored r hr hurl
      rw [hstored] at h
      obtain ⟨_, t, hinsert, hpure⟩ := bind_ok h
      cases hpure
      refine ⟨rfl, (modify_ok_rows (S := schema) hinsert).trans ?_⟩
      exact (if_neg hnone).symm
    | some row =>
      have hany : ((d .feedUrlObservations).any fun r : FeedUrlObservation => r.url == url) =
          true := List.any_eq_true.mpr
        ⟨row, List.mem_of_find?_eq_some hstored, List.find?_some (p := fun r : FeedUrlObservation =>
          r.url == url) hstored⟩
      rw [hstored] at h
      simp only at h
      split at h
      · cases h
      · obtain ⟨_, t, hupdate, hpure⟩ := bind_ok h
        cases hpure
        refine ⟨rfl, (modify_ok_rows (S := schema) hupdate).trans ?_⟩
        exact (if_pos hany).symm
  refine ⟨hrows.1, ?_⟩
  simp only [sharedSources, sourceUrls, sharedCopies, hrows.2, SharedSources.observed,
    hframe .feeds (by decide), hframe .feedCopies (by decide), hframe .feedBlocks (by decide),
    hframe .feedGuidSupersessions (by decide)]

omit [Platform] in
theorem has_supersession (d : Db) (oldGuid : String) :
    d.Has (S := schema) (.supersession oldGuid) ↔
      ∃ r ∈ d .feedGuidSupersessions, r.oldGuid = oldGuid := by
  have hkey (r : GuidSupersessionRow) :
      Key.supersession oldGuid ∈ schema.keys .feedGuidSupersessions r ↔ r.oldGuid = oldGuid := by
    simp [schema, Table.keys, eq_comm]
  simp only [Database.has_iff (S := schema) (t := .feedGuidSupersessions)
    (k := .supersession oldGuid) rfl, hkey]

omit [Platform] in
theorem insertGuidSupersession_sources (oldGuid newGuid sourceUrl : String) (supersededAt : Int)
    (d : Db) : sharedSources (insertGuidSupersession oldGuid newGuid sourceUrl supersededAt d).2 =
      (sharedSources d).superseded oldGuid newGuid sourceUrl := by
  obtain ⟨e, hrun, hcontents⟩ := insertOrIgnore_run (S := schema) (t := .feedGuidSupersessions)
    (r := { oldGuid := oldGuid
            newGuid := newGuid
            sourceUrl := sourceUrl
            supersededAt := supersededAt }) rfl rfl d
  have hfresh : (∀ k ∈ schema.keys .feedGuidSupersessions
        ({ oldGuid := oldGuid, newGuid := newGuid, sourceUrl := sourceUrl,
           supersededAt := supersededAt } : GuidSupersessionRow), ¬ d.Has k) ↔
      ¬ ((sharedSources d).supersessions.any fun q => q.1 == oldGuid) = true := by
    have hkeys : ∀ r : GuidSupersessionRow, schema.keys .feedGuidSupersessions r =
        [.supersession r.oldGuid] := fun _ => rfl
    have hany : ((sharedSources d).supersessions.any fun q => q.1 == oldGuid) = true ↔
        d.Has (S := schema) (.supersession oldGuid) := by
      rw [has_supersession]
      simp [sharedSources, GuidSupersessionRow.pair]
    rw [hany, hkeys]
    exact List.forall_mem_singleton
  unfold insertGuidSupersession
  rw [bind_run_ok hrun, SharedSources.superseded]
  by_cases hnew : ((sharedSources d).supersessions.any fun q => q.1 == oldGuid) = true
  · rw [if_neg fun h => hfresh.mp h hnew] at hcontents
    rw [if_pos hnew]
    exact sharedSources_congr fun t _ => congrFun hcontents t
  · rw [if_pos (hfresh.mpr hnew)] at hcontents
    rw [if_neg hnew]
    change sharedSources e = _
    have hother : ∀ t ∈ [Table.feeds, .feedBlocks, .feedCopies, .feedUrlObservations],
        e t = d t := by
      intro t ht
      rw [hcontents, Contents.set_other (by revert ht; cases t <;> decide)]
    have hrows : e .feedGuidSupersessions = d .feedGuidSupersessions ++
        [({ oldGuid := oldGuid, newGuid := newGuid, sourceUrl := sourceUrl,
            supersededAt := supersededAt } : GuidSupersessionRow)] := by
      rw [hcontents, Contents.set_same]
    simp only [sharedSources, sourceUrls, sharedCopies, hrows, hother .feeds (by decide),
      hother .feedCopies (by decide), hother .feedBlocks (by decide),
      hother .feedUrlObservations (by decide), List.map_append]
    rfl

theorem applyPayload_feedUpserted (createdAt : Int) (p : FeedUpsertedPayload) (d : Db) :
    sharedSources (applyPayload createdAt (.feedUpserted p) d).2 =
      (sharedSources d).replay (.feedUpserted p) := by
  have hwrites : Writes (S := schema) (payloadTablesOf .feedUpserted)
      (applyPayload createdAt (.feedUpserted p)) := applyPayload_writes_of createdAt (.feedUpserted p)
  have hsync : Writes (S := schema) readModelTables
      (syncSourceReadModelsForFeed p.feed.feedGuid) := syncSourceReadModelsForFeed_writes
  rw [sharedSources_feeds (hwrites.sameOutside (List.Subset.refl _) d) (by decide)]
  have hurls := upsertFeed_urls p.feed d
  change ({ sharedSources d with
    urls := sourceUrls ((upsertFeed p.feed >>= fun _ =>
      syncSourceReadModelsForFeed p.feed.feedGuid) d).2 } : SharedSources) = _
  rcases hrun : upsertFeed p.feed d with ⟨err | ⟨⟩, e⟩
  · rw [hrun] at hurls
    rw [bind_run_error hrun, hurls]
    rfl
  · rw [hrun] at hurls
    rw [bind_run_ok hrun]
    have hfeeds : (syncSourceReadModelsForFeed p.feed.feedGuid e).2 .feeds = e .feeds :=
      hsync .feeds (by decide) e
    rw [sourceUrls, hfeeds, ← sourceUrls, hurls]
    rfl

theorem applyPayload_feedRetired (createdAt : Int) (p : FeedRetiredPayload) (d : Db) :
    sharedSources (applyPayload createdAt (.feedRetired p) d).2 =
      (sharedSources d).replay (.feedRetired p) := by
  have hany : ((sharedSources d).urls.any fun q => q.1 == p.feedGuid) =
      (getFeedByGuid d p.feedGuid).isSome := by
    rw [Bool.eq_iff_iff, getFeedByGuid, Option.isSome_map, List.find?_isSome, List.any_eq_true]
    simp [sharedSources, sourceUrls, FeedRow.source]
  change sharedSources ((read (getFeedByGuid · p.feedGuid) >>= fun feed =>
    if feed.isSome then deleteFeedSql p.feedGuid else pure ()) d).2 = _
  rw [read_bind_run]
  simp only [SharedSources.replay, hany]
  split
  · obtain ⟨⟨⟩, e, hrun⟩ := deleteFeedSql_ends p.feedGuid d
    rw [hrun]
    exact deleteFeedSql_sources hrun
  · rfl

/-- The tables of a payload beside the feeds. -/
def childTables : List Table := payloadTables.filter fun t => decide (t ≠ .feeds)

theorem applyPayload_writes_children (createdAt : Int) {payload : EventPayload}
    (hupserted : payload.eventType ≠ .feedUpserted) (hretired : payload.eventType ≠ .feedRetired) :
    Writes (S := schema) childTables (applyPayload createdAt payload) := by
  have hsync : ∀ feedGuid, Writes (S := schema) childTables
      (syncSourceReadModelsForFeed feedGuid) :=
    fun _ => syncSourceReadModelsForFeed_writes.mono (by decide)
  cases payload
  case feedUpserted => exact absurd rfl hupserted
  case feedRetired => exact absurd rfl hretired
  case artistUpserted | artistCreditCreated => exact Writes.pure ()
  case trackUpserted p =>
    apply (Writes.upsert (by decide)).bind
    intro _
    apply (Writes.replaceRows (by decide)).bind
    intro _
    exact (replaceValueTimeSplitsForFeedTrack_writes.mono (by decide)).bind fun _ => hsync _
  case routesReplaced p =>
    rcases p with ⟨_, _ | _, _⟩
    · exact Writes.replaceRows (by decide)
    · exact Writes.replaceRows (by decide)
  case trackRemoteItemsReplaced p =>
    rcases p with ⟨_, _ | _, _⟩
    · exact Writes.replaceRows (by decide)
    · exact Writes.replaceRows (by decide)
  case trackRemoved p =>
    apply (Writes.read _).bind
    intro track
    exact Writes.ite (deleteTrackSql_writes.mono (by decide)) (Writes.pure ())
  case feedUrlObserved | feedCopyObserved => exact Writes.upsert (by decide)
  case feedBlocked p =>
    exact (insertFeedBlock_writes.mono (by decide)).bind fun _ => Writes.pure ()
  case feedUnblocked p => exact Writes.delete (by decide)
  case feedCopyResolved | feedGuidChangeDecided => exact Writes.update (by decide)
  case feedGuidChangeObserved p =>
    exact Writes.ite (Writes.delete (by decide)) (Writes.upsert (by decide))
  case feedGuidSuperseded p =>
    exact (Writes.insertOrIgnore (by decide)).bind fun _ => Writes.pure ()
  all_goals exact Writes.replaceRows (by decide)

theorem applyPayload_sources (createdAt : Int) (payload : EventPayload) (d : Db) :
    sharedSources (applyPayload createdAt payload d).2 = (sharedSources d).replay payload := by
  by_cases htype : payload.eventType ∈ sourceTypes
  · cases payload with
    | feedUpserted p => exact applyPayload_feedUpserted createdAt p d
    | feedRetired p => exact applyPayload_feedRetired createdAt p d
    | feedBlocked p =>
      obtain ⟨e, hrun, -⟩ := insertFeedBlock_run p.block d
      change sharedSources ((insertFeedBlock p.block >>= fun _ => pure ()) d).2 = _
      rw [bind_run_ok hrun]
      exact (insertFeedBlock_sources hrun).1
    | feedUnblocked p =>
      obtain ⟨e, hrun, -⟩ := deleteFeedBlock_run p.blockId d
      rw [applyPayload, hrun]
      exact deleteFeedBlock_sources hrun
    | feedCopyObserved p =>
      have hwrites : Writes (S := schema) [Table.feedCopies]
          (applyPayload createdAt (.feedCopyObserved p)) := Writes.upsert (by decide)
      obtain ⟨e, hrun⟩ := upsertFeedCopySummary_ends d p.feedGuid p.url p.summaryDigest p.firstSeen
        p.summary
      rw [sharedSources_copies (hwrites.sameOutside (List.Subset.refl _) d) (by decide),
        applyPayload, hrun, upsertFeedCopySummary_copies hrun]
      rfl
    | feedCopyResolved p =>
      have hwrites : Writes (S := schema) [Table.feedCopies]
          (applyPayload createdAt (.feedCopyResolved p)) := Writes.update (by decide)
      rw [sharedSources_copies (hwrites.sameOutside (List.Subset.refl _) d) (by decide),
        applyPayload, setFeedCopyResolution_copies]
      rfl
    | feedUrlObserved p => exact upsertFeedUrlObservation_sources p.url p.feedGuid p.observedAt d
    | feedGuidSuperseded p =>
      exact insertGuidSupersession_sources p.oldGuid p.newGuid p.sourceUrl createdAt d
    | _ => simp [sourceTypes, EventPayload.eventType] at htype
  · rw [SharedSources.replay_other htype]
    have hupserted : payload.eventType ≠ .feedUpserted := fun h => htype (h ▸ by decide)
    have hretired : payload.eventType ≠ .feedRetired := fun h => htype (h ▸ by decide)
    apply sharedSources_congr
    intro t ht
    by_cases hfeeds : t = .feeds
    · subst hfeeds
      exact applyPayload_writes_children createdAt hupserted hretired .feeds (by decide) d
    · refine applyPayload_writes_of createdAt payload t ?_ d
      generalize payload.eventType = τ at htype
      revert hfeeds ht
      cases τ with
      | feedUpserted | feedRetired | feedBlocked | feedUnblocked | feedCopyObserved
      | feedCopyResolved | feedUrlObserved | feedGuidSuperseded =>
        exact absurd (by decide) htype
      | _ => cases t <;> decide

/-- The sources, which the nodes share. -/
def sourcesView : SharedView SharedSources where
  view := sharedSources
  tables := sourceTables
  types := sourceTypes
  replay := SharedSources.replay
  Applies _ := True
  tables_shared := by decide
  types_stored := by decide
  view_congr _ _ h := sharedSources_congr h
  replay_other _ _ := SharedSources.replay_other
  applies_other _ _ := trivial
  view_applyPayload createdAt payload d _ := applyPayload_sources createdAt payload d

end Stophammer
