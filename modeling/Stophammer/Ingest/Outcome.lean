import Stophammer.Db.Cascade
import Stophammer.Ingest.Transaction

/-!
# When the ingest transaction commits

What the constraints ask of the content of a submission, statement by statement.
-/

namespace Stophammer

open Relational Statement Database

abbrev HasFeed (feedGuid : String) (d : Db) : Prop := d.Has (.feed feedGuid)

theorem hasFeed_congr {feedGuid : String} {d e : Db} (h : e .feeds = d .feeds) :
    HasFeed feedGuid e ↔ HasFeed feedGuid d := has_congr (S := schema) (k := .feed feedGuid) h

theorem replaceFeedSet_decides {t : Table} {feedGuid : String} {column : t.Row → String}
    (rows : List t.Row) (ht : t ≠ .feeds ∧ t ≠ .tracks)
    (hrefs : ∀ r, t.refs r = [.feed (column r)])
    (hkeys : ∀ r r' k, k ∈ t.keys r → k ∈ t.keys r' → column r = column r')
    (hrows : ∀ r ∈ rows, column r = feedGuid) :
    Decides (HasFeed feedGuid)
      ((Contents.keysOf (S := schema) t rows).Nodup ∧ ∀ r ∈ rows, t.check r = true)
      (replaceRows (S := schema) t (fun r => column r == feedGuid) rows)
      fun _ => HasFeed feedGuid := by
  apply replaceRows_decides (leaf_of_ne ht.1 ht.2)
  · intro r hp k hk hmem
    obtain ⟨r', hr', hkey⟩ := List.mem_flatMap.mp hmem
    rw [hkeys r r' k hk hkey, hrows r' hr', beq_self_eq_true] at hp
    cases hp
  · intro d hd r hr k hk
    rw [show schema.refs t r = [.feed (column r)] from hrefs r, hrows r hr,
      List.mem_singleton] at hk
    rwa [hk]
  · intro d e hsame hd
    exact (hasFeed_congr (hsame .feeds ht.1.symm)).mpr hd

theorem keysOf_nodup {t : Table} (h : ∀ r : t.Row, t.keys r = []) (rows : List t.Row) :
    (Contents.keysOf (S := schema) t rows).Nodup := by
  have hnil : Contents.keysOf (S := schema) t rows = [] :=
    List.flatMap_eq_nil_iff.mpr fun r _ => h r
  rw [hnil]
  exact List.nodup_nil

theorem replaceFeedList_decides {t : Table} {feedGuid : String} (column : t.Row → String)
    {rows : List t.Row} (ht : t ≠ .feeds ∧ t ≠ .tracks)
    (hrefs : ∀ r, t.refs r = [.feed (column r)]) (hkeys : ∀ r, t.keys r = [])
    (hrows : ∀ r ∈ rows, column r = feedGuid) :
    Decides (HasFeed feedGuid) (∀ r ∈ rows, t.check r = true)
      (replaceRows (S := schema) t (fun r => column r == feedGuid) rows)
      fun _ => HasFeed feedGuid := by
  have hset := replaceFeedSet_decides rows ht hrefs
    (fun r _ k hk => by rw [hkeys r] at hk; cases hk) hrows
  exact hset.mono (fun _ hd => hd) (and_iff_right (keysOf_nodup hkeys rows)) fun _ _ hd => hd

section Keyed

variable {t : Table} {feedGuid : String} (column : t.Row → String) {κ : Type}
  (key : t.Row → κ) (toKey : String × κ → Key)

theorem replaceKeyedSet_decides {rows : List t.Row} (ht : t ≠ .feeds ∧ t ≠ .tracks)
    (hrefs : ∀ r, t.refs r = [.feed (column r)]) (hinj : Function.Injective toKey)
    (hkeys : ∀ r, t.keys r = [toKey (column r, key r)])
    (hrows : ∀ r ∈ rows, column r = feedGuid) :
    Decides (HasFeed feedGuid)
      ((rows.map fun r => (column r, key r)).Nodup ∧ ∀ r ∈ rows, t.check r = true)
      (replaceRows (S := schema) t (fun r => column r == feedGuid) rows)
      fun _ => HasFeed feedGuid := by
  have hset := replaceFeedSet_decides rows ht hrefs ?_ hrows
  · refine hset.mono (fun _ hd => hd) (and_congr_left' ?_) fun _ _ hd => hd
    have hmap : Contents.keysOf (S := schema) t rows =
        (rows.map fun r => (column r, key r)).map toKey := by
      rw [Contents.keysOf, List.map_map, List.map_eq_flatMap]
      exact List.flatMap_congr fun r _ => hkeys r
    rw [hmap, List.nodup_map_iff hinj]
  · intro r r' k hk hk'
    rw [hkeys, List.mem_singleton] at hk hk'
    exact congrArg Prod.fst (hinj (hk.symm.trans hk'))

theorem replaceClaims_decides [DecidableEq κ] {claims : List t.Row}
    (ht : t ≠ .feeds ∧ t ≠ .tracks) (hrefs : ∀ r, t.refs r = [.feed (column r)])
    (hinj : Function.Injective toKey) (hkeys : ∀ r, t.keys r = [toKey (column r, key r)])
    (hclaims : ∀ r ∈ claims, column r = feedGuid ∧ t.check r = true) :
    Decides (HasFeed feedGuid) True
      (replaceRows (S := schema) t (fun r => column r == feedGuid)
        (dedupeBy (fun r => (column r, key r)) [] claims))
      fun _ => HasFeed feedGuid := by
  have hmem : ∀ r ∈ dedupeBy (fun r => (column r, key r)) [] claims,
      column r = feedGuid ∧ t.check r = true := fun r hr => hclaims r (mem_of_mem_dedupeBy hr)
  have hset := replaceKeyedSet_decides column key toKey ht hrefs hinj hkeys fun r hr =>
    (hmem r hr).1
  refine hset.mono (fun _ hd => hd) (iff_true_intro ⟨?_, fun r hr => (hmem r hr).2⟩)
    fun _ _ hd => hd
  exact (dedupeBy_nodup [] claims).1

end Keyed

/-- Each row of the sets is about the feed of the content, with the kinds of entities that
the checks admit. -/
structure IngestContent.OfFeed (c : IngestContent) : Prop where
  feedRoutes : ∀ r ∈ c.feedRoutes, r.feedGuid = c.feed.feedGuid
  remoteItems : ∀ r ∈ c.remoteItems, r.feedGuid = c.feed.feedGuid
  feedListValues : ∀ v ∈ c.feedListValues, v.feedGuid = c.feed.feedGuid
  liveEvents : ∀ e ∈ c.liveEvents, e.feedGuid = c.feed.feedGuid
  contributorClaims : ∀ r ∈ c.sourceContributorClaims,
    r.feedGuid = c.feed.feedGuid ∧ Table.check .sourceContributorClaims r = true
  entityIds : ∀ r ∈ c.sourceEntityIds,
    r.feedGuid = c.feed.feedGuid ∧ Table.check .sourceEntityIds r = true
  entityLinks : ∀ r ∈ c.sourceEntityLinks,
    r.feedGuid = c.feed.feedGuid ∧ Table.check .sourceEntityLinks r = true
  releaseClaims : ∀ r ∈ c.sourceReleaseClaims,
    r.feedGuid = c.feed.feedGuid ∧ Table.check .sourceReleaseClaims r = true
  itemEnclosures : ∀ r ∈ c.sourceItemEnclosures,
    r.feedGuid = c.feed.feedGuid ∧ Table.check .sourceItemEnclosures r = true
  itemTranscripts : ∀ r ∈ c.sourceItemTranscripts,
    r.feedGuid = c.feed.feedGuid ∧ Table.check .sourceItemTranscripts r = true
  platformClaims : ∀ r ∈ c.sourcePlatformClaims, r.feedGuid = c.feed.feedGuid

structure FeedSetsFit (c : IngestContent) : Prop where
  feedRoutes : ∀ r ∈ c.feedRoutes, 0 ≤ r.split
  feedListValues : ∀ v ∈ c.feedListValues, 0 ≤ v.split
  remoteItems : (c.remoteItems.map FeedRemoteItemRaw.position).Nodup
  liveEvents : ∀ e ∈ dedupeLiveEvents c.liveEvents, e.status ∈ ["pending", "live", "ended"]

section Sets

variable {feedGuid : String}

theorem replaceFeedPaymentRoutes_decides {routes : List FeedPaymentRoute}
    (h : ∀ r ∈ routes, r.feedGuid = feedGuid) :
    Decides (HasFeed feedGuid) (∀ r ∈ routes, 0 ≤ r.split)
      (replaceFeedPaymentRoutes feedGuid routes) fun _ => HasFeed feedGuid := by
  have hset := replaceFeedList_decides (t := .feedPaymentRoutes) FeedPaymentRoute.feedGuid
    (by decide) (fun _ => rfl) (fun _ => rfl)
    (show ∀ r ∈ routes.map feedPaymentRouteRow, r.feedGuid = feedGuid by
      simpa [feedPaymentRouteRow] using h)
  refine hset.mono (fun _ hd => hd) ?_ fun _ _ hd => hd
  simp [Table.check, feedPaymentRouteRow]

theorem replaceFeedListValueRaw_decides {listValues : List FeedListValueRaw}
    (h : ∀ v ∈ listValues, v.feedGuid = feedGuid) :
    Decides (HasFeed feedGuid) (∀ v ∈ listValues, 0 ≤ v.split)
      (replaceFeedListValueRaw feedGuid listValues) fun _ => HasFeed feedGuid := by
  have hset := replaceFeedList_decides (t := .feedListValueRaw) FeedListValueRaw.feedGuid
    (by decide) (fun _ => rfl) (fun _ => rfl)
    (show ∀ v ∈ listValues.map feedListValueRow, v.feedGuid = feedGuid by
      simpa [feedListValueRow] using h)
  refine hset.mono (fun _ hd => hd) ?_ fun _ _ hd => hd
  simp [Table.check, feedListValueRow]

theorem replaceFeedRemoteItemsRaw_decides {remoteItems : List FeedRemoteItemRaw}
    (h : ∀ r ∈ remoteItems, r.feedGuid = feedGuid) :
    Decides (HasFeed feedGuid) (remoteItems.map FeedRemoteItemRaw.position).Nodup
      (replaceFeedRemoteItemsRaw feedGuid remoteItems) fun _ => HasFeed feedGuid := by
  have hset := replaceKeyedSet_decides (t := .feedRemoteItemsRaw) FeedRemoteItemRaw.feedGuid
    FeedRemoteItemRaw.position (fun p => .feedRemoteItem p.1 p.2) (by decide) (fun _ => rfl)
    (by rintro ⟨f, p⟩ ⟨f', p'⟩ hkey; simpa using hkey) (fun _ => rfl) h
  refine hset.mono (fun _ hd => hd) ?_ fun _ _ hd => hd
  have hpairs : remoteItems.map (fun r => (r.feedGuid, r.position)) =
      (remoteItems.map FeedRemoteItemRaw.position).map (feedGuid, ·) := by
    rw [List.map_map]
    exact List.map_congr_left fun r hr => by rw [h r hr]; rfl
  rw [hpairs, List.nodup_map_iff (Prod.mk_right_injective feedGuid)]
  simp [Table.check]

theorem replaceLiveEventsForFeed_decides {liveEvents : List LiveEvent}
    (h : ∀ e ∈ liveEvents, e.feedGuid = feedGuid) :
    Decides (HasFeed feedGuid)
      (∀ e ∈ dedupeLiveEvents liveEvents, e.status ∈ ["pending", "live", "ended"])
      (replaceLiveEventsForFeed feedGuid liveEvents) fun _ => HasFeed feedGuid := by
  have hmem : ∀ e ∈ dedupeLiveEvents liveEvents, e.feedGuid = feedGuid :=
    fun e he => h e (mem_of_mem_dedupeBy he)
  have hset := replaceKeyedSet_decides (t := .liveEvents) LiveEvent.feedGuid LiveEvent.liveItemGuid
    (fun p => .liveEvent p.1 p.2) (by decide)
    (fun _ => rfl) (by rintro ⟨f, p⟩ ⟨f', p'⟩ hkey; simpa using hkey) (fun _ => rfl) hmem
  refine hset.mono (fun _ hd => hd) ?_ fun _ _ hd => hd
  have hnodup : ((dedupeLiveEvents liveEvents).map fun e => (e.feedGuid, e.liveItemGuid)).Nodup := by
    apply List.Nodup.of_map Prod.snd
    rw [List.map_map]
    exact (dedupeBy_nodup [] liveEvents).1
  rw [and_iff_right hnodup]
  simp [Table.check]

end Sets

theorem replaceFeedSets_decides {c : IngestContent} (h : c.OfFeed) :
    Decides (HasFeed c.feed.feedGuid) (FeedSetsFit c) (replaceFeedSets c)
      fun _ => HasFeed c.feed.feedGuid := by
  have hsets := (replaceFeedPaymentRoutes_decides h.feedRoutes).bind fun _ =>
    (replaceFeedRemoteItemsRaw_decides h.remoteItems).bind fun _ =>
    (replaceFeedListValueRaw_decides h.feedListValues).bind fun _ =>
    (replaceLiveEventsForFeed_decides h.liveEvents).bind fun _ =>
    (replaceClaims_decides (t := .sourceContributorClaims) SourceContributorClaim.feedGuid
      (fun c => (c.entityType, c.entityId, c.position, c.source))
      (fun p => .contributor p.1 p.2.1 p.2.2.1 p.2.2.2.1 p.2.2.2.2) (by decide)
      (fun _ => rfl) (by rintro ⟨_, _, _, _, _⟩ ⟨_, _, _, _, _⟩ hkey; simpa using hkey)
      (fun _ => rfl) h.contributorClaims).bind fun _ =>
    (replaceClaims_decides (t := .sourceEntityIds) SourceEntityIdClaim.feedGuid
      (fun c => (c.entityType, c.entityId, c.scheme, c.value))
      (fun p => .entityId p.1 p.2.1 p.2.2.1 p.2.2.2.1 p.2.2.2.2) (by decide)
      (fun _ => rfl) (by rintro ⟨_, _, _, _, _⟩ ⟨_, _, _, _, _⟩ hkey; simpa using hkey)
      (fun _ => rfl) h.entityIds).bind fun _ =>
    (replaceClaims_decides (t := .sourceEntityLinks) SourceEntityLink.feedGuid
      (fun l => (l.entityType, l.entityId, l.linkType, l.url))
      (fun p => .entityLink p.1 p.2.1 p.2.2.1 p.2.2.2.1 p.2.2.2.2) (by decide)
      (fun _ => rfl) (by rintro ⟨_, _, _, _, _⟩ ⟨_, _, _, _, _⟩ hkey; simpa using hkey)
      (fun _ => rfl) h.entityLinks).bind fun _ =>
    (replaceClaims_decides (t := .sourceReleaseClaims) SourceReleaseClaim.feedGuid
      (fun c => (c.entityType, c.entityId, c.claimType, c.position))
      (fun p => .release p.1 p.2.1 p.2.2.1 p.2.2.2.1 p.2.2.2.2) (by decide)
      (fun _ => rfl) (by rintro ⟨_, _, _, _, _⟩ ⟨_, _, _, _, _⟩ hkey; simpa using hkey)
      (fun _ => rfl) h.releaseClaims).bind fun _ =>
    (replaceClaims_decides (t := .sourceItemEnclosures) SourceItemEnclosure.feedGuid
      (fun e => (e.entityType, e.entityId, e.position, e.url))
      (fun p => .enclosure p.1 p.2.1 p.2.2.1 p.2.2.2.1 p.2.2.2.2) (by decide)
      (fun _ => rfl) (by rintro ⟨_, _, _, _, _⟩ ⟨_, _, _, _, _⟩ hkey; simpa using hkey)
      (fun _ => rfl) h.itemEnclosures).bind fun _ =>
    (replaceClaims_decides (t := .sourceItemTranscripts) SourceItemTranscript.feedGuid
      (fun t => (t.entityType, t.entityId, t.position, t.url))
      (fun p => .transcript p.1 p.2.1 p.2.2.1 p.2.2.2.1 p.2.2.2.2) (by decide)
      (fun _ => rfl) (by rintro ⟨_, _, _, _, _⟩ ⟨_, _, _, _, _⟩ hkey; simpa using hkey)
      (fun _ => rfl) h.itemTranscripts).bind fun _ =>
    replaceFeedList_decides (t := .sourcePlatformClaims) SourcePlatformClaim.feedGuid
      (by decide) (fun _ => rfl) (fun _ => rfl) h.platformClaims
  refine hsets.mono (fun _ hd => hd) ?_ fun _ _ hd => hd
  constructor
  · rintro ⟨hroutes, hitems, hvalues, hlive, -⟩
    exact ⟨hroutes, hvalues, hitems, hlive⟩
  · rintro ⟨hroutes, hvalues, hitems, hlive⟩
    exact ⟨hroutes, hitems, hvalues, hlive, trivial, trivial, trivial, trivial, trivial, trivial,
      fun _ _ => rfl⟩

/-- The feed and its track have rows. -/
def HasTrack (feedGuid trackGuid : String) (d : Db) : Prop :=
  HasFeed feedGuid d ∧ d.Has (.track feedGuid trackGuid)

section Tracks

variable {feedGuid trackGuid : String}

theorem hasTrack_congr {d e : Db} (hfeeds : e .feeds = d .feeds) (htracks : e .tracks = d .tracks)
    (h : HasTrack feedGuid trackGuid d) : HasTrack feedGuid trackGuid e :=
  ⟨(hasFeed_congr hfeeds).mpr h.1,
    (has_congr (S := schema) (k := .track feedGuid trackGuid) htracks).mpr h.2⟩

theorem upsertTrack_decides {track : Track} :
    Decides (HasFeed track.feedGuid) True (upsertTrack track) fun _ =>
      HasTrack track.feedGuid track.trackGuid := by
  intro d hd
  obtain ⟨e, hrun, row, hrow, hsame⟩ := upsert_run (S := schema) (t := .tracks) (d := d)
    (p := fun r : Track => r.feedGuid == track.feedGuid && r.trackGuid == track.trackGuid)
    (r := track) (f := fun r : Track => { track with createdAt := r.createdAt })
    (by
      intro r _ hp k hk hkey
      simp only [Table.keys, List.mem_singleton] at hk hkey
      rw [hk, Key.track.injEq] at hkey
      simp [hkey.1, hkey.2] at hp)
    rfl
    (by
      intro k hk
      rwa [List.mem_singleton.mp hk])
    (by
      intro r _ hp
      simp only [Bool.and_eq_true, beq_iff_eq] at hp
      simp [Table.keys, hp.1, hp.2])
    (by
      intro r _ hp
      simp only [Bool.and_eq_true, beq_iff_eq] at hp
      simp [Table.refs, hp.1])
    fun _ _ _ => rfl
  refine .inl ⟨trivial, (), e, hrun, (hasFeed_congr ?_).mpr hd, ?_⟩
  · have hwrites : Writes [Table.tracks] (upsertTrack track) := Writes.upsert (by decide)
    exact (hwrites .feeds (by decide)).run hrun
  · refine (has_iff (show schema.home (.track track.feedGuid track.trackGuid) = Table.tracks
      from rfl)).mpr ⟨row, hrow, ?_⟩
    rcases hsame with rfl | ⟨old, _, _, rfl⟩ <;> exact List.mem_singleton.mpr rfl

theorem replacePaymentRoutesForFeedTrack_decides (routes : List PaymentRoute) :
    Decides (HasTrack feedGuid trackGuid) (∀ r ∈ routes, 0 ≤ r.split)
      (replacePaymentRoutesForFeedTrack feedGuid trackGuid routes)
      fun _ => HasTrack feedGuid trackGuid := by
  have hset := replaceRows_decides (S := schema) (t := .paymentRoutes)
    (P := HasTrack feedGuid trackGuid)
    (p := fun r : PaymentRoute => r.feedGuid == feedGuid && r.trackGuid == trackGuid)
    (leaf_of_ne (by decide) (by decide)) (fun _ _ _ hk => by cases hk)
    (show ∀ d, HasTrack feedGuid trackGuid d → ∀ r ∈ routes.map (paymentRouteRow feedGuid trackGuid),
        ∀ k ∈ Table.refs .paymentRoutes r, d.Has k by
      intro d hd r hr k hk
      obtain ⟨route, -, rfl⟩ := List.mem_map.mp hr
      rw [List.mem_singleton.mp hk]
      exact hd.2)
    fun d e hsame => hasTrack_congr (hsame .feeds (by decide)) (hsame .tracks (by decide))
  refine hset.mono (fun _ hd => hd) ?_ fun _ _ hd => hd
  rw [and_iff_right (keysOf_nodup (t := .paymentRoutes) (fun _ => rfl) _)]
  simp [Table.check, paymentRouteRow]

/-- What the constraints ask of a split. -/
def SplitFits (s : ValueTimeSplit) : Prop :=
  (s.form = .local ∨ s.remoteFeedGuid.isSome) ∧ ∀ r ∈ s.recipients, 0 ≤ r.split

/-- The track has a row, and the table of the splits a last one. -/
def HasSplit (feedGuid trackGuid : String) (d : Db) : Prop :=
  HasTrack feedGuid trackGuid d ∧
    ∃ (rows : List ValueTimeSplitRow) (row : ValueTimeSplitRow), d .valueTimeSplits = rows ++ [row]

theorem addRecipient_decides {r : ValueTimeSplitRecipient} :
    Decides (HasSplit feedGuid trackGuid) (0 ≤ r.split)
      (updateLast (S := schema) .valueTimeSplits (addRecipient r))
      fun _ => HasSplit feedGuid trackGuid := by
  rintro d ⟨hd, rows, row, hrows⟩
  have hlast : mapLast (addRecipient r) (d .valueTimeSplits) = rows ++ [addRecipient r row] := by
    rw [hrows, mapLast_append]
  have hrow : Table.check .valueTimeSplits row = true :=
    d.valid.checked .valueTimeSplits row (by rw [hrows]; simp)
  have hcheck : Table.check .valueTimeSplits (addRecipient r row) = true ↔ 0 ≤ r.split := by
    simp only [Table.check, Bool.and_eq_true] at hrow
    simp [Table.check, addRecipient, hrow]
  have hvalid : (d.contents.set .valueTimeSplits
      (mapLast (addRecipient r) (d .valueTimeSplits))).Valid ↔ 0 ≤ r.split := by
    rw [hlast, ← hcheck]
    constructor
    · intro h
      exact h.checked .valueTimeSplits _ (by rw [Contents.set_same]; simp)
    · intro hnew
      refine Contents.valid_set d.valid (keysOf_nodup (t := .valueTimeSplits) (fun _ => rfl) _) ?_
        ?_ fun v r _ k hk hhome => absurd hhome (leaf_of_ne (by decide) (by decide) v r k hk)
      · intro s hs
        rcases List.mem_append.mp hs with hs | hs
        · exact d.valid.checked .valueTimeSplits s (by rw [hrows]; simp [hs])
        · rw [List.mem_singleton.mp hs]
          exact hnew
      · intro s hs
        rcases List.mem_append.mp hs with hs | hs
        · exact d.valid.referenced .valueTimeSplits s (by rw [hrows]; simp [hs])
        · rw [List.mem_singleton.mp hs]
          exact d.valid.referenced .valueTimeSplits row (by rw [hrows]; simp)
  by_cases hsplit : 0 ≤ r.split
  · obtain ⟨e, hrun, hcontents⟩ : ∃ e : Db,
        updateLast (S := schema) .valueTimeSplits (addRecipient r) d = (.ok (), e) ∧
          e.contents = d.contents.set .valueTimeSplits
            (mapLast (addRecipient r) (d .valueTimeSplits)) :=
      ⟨_, modify_ok (hvalid.mpr hsplit), rfl⟩
    refine .inl ⟨hsplit, (), e, hrun, hasTrack_congr ?_ ?_ hd, rows, addRecipient r row, ?_⟩
    · rw [hcontents, Contents.set_other (by decide)]
    · rw [hcontents, Contents.set_other (by decide)]
    · rw [hcontents, Contents.set_same, hlast]
  · exact .inr ⟨hsplit, _, d, modify_error fun h => hsplit (hvalid.mp h)⟩

theorem insertValueTimeSplit_decides {s : ValueTimeSplit} :
    Decides (HasTrack feedGuid trackGuid) (SplitFits s) (insertValueTimeSplit feedGuid trackGuid s)
      fun _ => HasTrack feedGuid trackGuid := by
  have hinsert := insert_decides (S := schema) (t := .valueTimeSplits)
    (P := HasTrack feedGuid trackGuid) (r := valueTimeSplitRow feedGuid trackGuid s)
    (fun _ _ _ hk => by cases hk)
    (by
      intro d hd k hk
      rw [List.mem_singleton.mp hk]
      exact hd.2)
  have hrow : Decides (HasTrack feedGuid trackGuid)
      (s.form = .local ∨ s.remoteFeedGuid.isSome)
      (insert (S := schema) .valueTimeSplits (valueTimeSplitRow feedGuid trackGuid s))
      fun _ => HasSplit feedGuid trackGuid := by
    refine hinsert.mono (fun _ hd => hd) (by simp [Table.check, valueTimeSplitRow]) ?_
    rintro _ e ⟨d, hd, hcontents⟩
    refine ⟨hasTrack_congr ?_ ?_ hd, d .valueTimeSplits, valueTimeSplitRow feedGuid trackGuid s, ?_⟩
    · rw [hcontents, Contents.set_other (by decide)]
    · rw [hcontents, Contents.set_other (by decide)]
    · rw [hcontents, Contents.set_same]
  exact (hrow.bind fun _ => Decides.forEach fun _ _ => addRecipient_decides).mono
    (fun _ hd => hd) Iff.rfl fun _ _ hd => hd.1

theorem replaceValueTimeSplitsForFeedTrack_decides {splits : List ValueTimeSplit}
    (h : ∀ s ∈ splits, s.sourceFeedGuid = feedGuid) :
    Decides (HasTrack feedGuid trackGuid) (∀ s ∈ splits, SplitFits s)
      (replaceValueTimeSplitsForFeedTrack feedGuid trackGuid splits)
      fun _ => HasTrack feedGuid trackGuid := by
  have hdelete : Decides (HasTrack feedGuid trackGuid) True
      (delete (S := schema) .valueTimeSplits (isSplitOf feedGuid trackGuid))
      fun _ => HasTrack feedGuid trackGuid := by
    intro d hd
    obtain ⟨e, hrun, hcontents⟩ := delete_ok (S := schema) (t := .valueTimeSplits) d
      (leaf_of_ne (by decide) (by decide)) (isSplitOf feedGuid trackGuid)
    refine .inl ⟨trivial, (), e, hrun, hasTrack_congr ?_ ?_ hd⟩
    · rw [hcontents, Contents.set_other (by decide)]
    · rw [hcontents, Contents.set_other (by decide)]
  have hinsert : ∀ s ∈ splits, Decides (HasTrack feedGuid trackGuid) (SplitFits s)
      (insertValueTimeSplit
        (if s.sourceFeedGuid.isEmpty then feedGuid else s.sourceFeedGuid) trackGuid s)
      fun _ => HasTrack feedGuid trackGuid := by
    intro s hs
    rw [h s hs, ite_self]
    exact insertValueTimeSplit_decides
  exact (hdelete.bind fun _ => Decides.forEach hinsert).mono (fun _ hd => hd)
    (by rw [true_and]) fun _ _ hd => hd

theorem replaceTrackRemoteItems_decides {remoteItems : List TrackRemoteItemRaw}
    (h : ∀ r ∈ remoteItems, r.feedGuid = feedGuid) :
    Decides (HasTrack feedGuid trackGuid) (remoteItems.map TrackRemoteItemRaw.position).Nodup
      (replaceTrackRemoteItemsRawForFeedTrack feedGuid trackGuid remoteItems)
      fun _ => HasTrack feedGuid trackGuid := by
  have hrows : remoteItems.map (fun r => trackRemoteItemRow
      (some (if r.feedGuid.isEmpty then feedGuid else r.feedGuid)) trackGuid r) =
      remoteItems.map (trackRemoteItemRow (some feedGuid) trackGuid) :=
    List.map_congr_left fun r hr => by rw [h r hr, ite_self]
  have hkeysOf : Contents.keysOf (S := schema) .trackRemoteItemsRaw
      (remoteItems.map (trackRemoteItemRow (some feedGuid) trackGuid)) =
      (remoteItems.map TrackRemoteItemRaw.position).map
        fun p => Key.trackRemoteItem feedGuid trackGuid p := by
    rw [Contents.keysOf, List.flatMap_map, List.map_map, List.map_eq_flatMap]
    exact List.flatMap_congr fun _ _ => rfl
  have hset := replaceRows_decides (S := schema) (t := .trackRemoteItemsRaw)
    (P := HasTrack feedGuid trackGuid) (p := isTrackRemoteItemOf feedGuid trackGuid)
    (leaf_of_ne (by decide) (by decide))
    (show ∀ r, isTrackRemoteItemOf feedGuid trackGuid r = false →
        ∀ k ∈ Table.keys .trackRemoteItemsRaw r, k ∉ Contents.keysOf (S := schema)
          .trackRemoteItemsRaw (remoteItems.map (trackRemoteItemRow (some feedGuid) trackGuid)) by
      intro r hp k hk hmem
      rw [hkeysOf, List.map_map, List.mem_map] at hmem
      obtain ⟨item, -, rfl⟩ := hmem
      rcases hfeed : r.feedGuid with _ | guid
      · simp [Table.keys, hfeed] at hk
      · simp only [Table.keys, hfeed, Option.map_some, Option.toList_some, List.mem_singleton,
          Function.comp_apply, Key.trackRemoteItem.injEq] at hk
        simp [isTrackRemoteItemOf, hfeed, ← hk.1, ← hk.2.1] at hp)
    (by
      intro d hd r hr k hk
      obtain ⟨item, -, rfl⟩ := List.mem_map.mp hr
      rw [List.mem_singleton.mp hk]
      exact hd.2)
    fun d e hsame => hasTrack_congr (hsame .feeds (by decide)) (hsame .tracks (by decide))
  unfold replaceTrackRemoteItemsRawForFeedTrack
  rw [hrows]
  refine hset.mono (fun _ hd => hd) ?_ fun _ _ hd => hd
  have hinj : Function.Injective fun p => Key.trackRemoteItem feedGuid trackGuid p := by
    intro p p' hkey
    simpa using hkey
  rw [hkeysOf, List.nodup_map_iff hinj]
  simp [Table.check]

end Tracks

structure TrackIngestBundle.OfFeed (t : TrackIngestBundle) (feedGuid : String) : Prop where
  track : t.track.feedGuid = feedGuid
  splits : ∀ s ∈ t.splits, s.sourceFeedGuid = feedGuid
  remoteItems : ∀ r ∈ t.remoteItems, r.feedGuid = feedGuid

/-- What the constraints ask of a track and its sets. -/
structure TrackFits (t : TrackIngestBundle) : Prop where
  routes : ∀ r ∈ t.routes, 0 ≤ r.split
  splits : ∀ s ∈ t.splits, SplitFits s
  remoteItems : (t.remoteItems.map TrackRemoteItemRaw.position).Nodup

theorem writeTrack_decides {t : TrackIngestBundle} {feedGuid : String} (h : t.OfFeed feedGuid) :
    Decides (HasFeed feedGuid) (TrackFits t) (writeTrack t) fun _ => HasFeed feedGuid := by
  rw [← h.track]
  have hwrite := upsertTrack_decides.bind fun _ =>
    (replacePaymentRoutesForFeedTrack_decides t.routes).bind fun _ =>
    (replaceValueTimeSplitsForFeedTrack_decides (by rw [h.track]; exact h.splits)).bind fun _ =>
    replaceTrackRemoteItems_decides (by rw [h.track]; exact h.remoteItems)
  refine hwrite.mono (fun _ hd => hd) ?_ fun _ _ hd => hd.1
  constructor
  · rintro ⟨-, hroutes, hsplits, hitems⟩
    exact ⟨hroutes, hsplits, hitems⟩
  · rintro ⟨hroutes, hsplits, hitems⟩
    exact ⟨trivial, hroutes, hsplits, hitems⟩

theorem upsertTrack_tracks {track : Track} {trackGuids : List String} {d e : Db}
    (h : upsertTrack track d = (.ok (), e)) (hd : HoldsTracks track.feedGuid trackGuids d) :
    HoldsTracks track.feedGuid (trackGuids ++ [track.trackGuid]) e := by
  have hrows : e .tracks = (d .tracks).map (fun r : Track =>
        if r.feedGuid == track.feedGuid && r.trackGuid == track.trackGuid then
          { track with createdAt := r.createdAt } else r) ∧
        track.trackGuid ∈ (getTracksForFeed d track.feedGuid).map Track.trackGuid ∨
      e .tracks = d .tracks ++ [track] := by
    unfold upsertTrack at h
    by_cases hany : (d .tracks).any (fun r : Track =>
        r.feedGuid == track.feedGuid && r.trackGuid == track.trackGuid) = true
    · rw [upsert_present d hany] at h
      rcases modify_rows (S := schema) (t := .tracks) d (fun rows : List Track => rows.map fun r =>
        if r.feedGuid == track.feedGuid && r.trackGuid == track.trackGuid then
          { track with createdAt := r.createdAt } else r) with herror | ⟨e', hok, hcontents⟩
      · have hfail := herror.symm.trans h
        cases hfail
      · have hsame := hok.symm.trans h
        cases hsame
        obtain ⟨row, hrow, hp⟩ := List.any_eq_true.mp hany
        simp only [Bool.and_eq_true, beq_iff_eq] at hp
        refine .inl ⟨by rw [hcontents, Contents.set_same], ?_⟩
        rw [← hp.2]
        exact List.mem_map_of_mem (List.mem_filter.mpr ⟨hrow, by simp [hp.1]⟩)
    · rw [upsert_absent d hany] at h
      rcases insert_rows (S := schema) (t := .tracks) d track with herror | ⟨e', hok, hcontents⟩
      · have hfail := herror.symm.trans h
        cases hfail
      · have hsame := hok.symm.trans h
        cases hsame
        exact .inr (by rw [hcontents, Contents.set_same])
  intro trackGuid
  rw [List.mem_append, List.mem_singleton, ← hd trackGuid]
  rcases hrows with ⟨hrows, hheld⟩ | hrows
  · have hguids : (getTracksForFeed e track.feedGuid).map Track.trackGuid =
        (getTracksForFeed d track.feedGuid).map Track.trackGuid := by
      unfold getTracksForFeed
      rw [hrows, List.filter_map, List.map_map]
      have hfilter : ((fun r : Track => r.feedGuid == track.feedGuid) ∘ fun r : Track =>
          if r.feedGuid == track.feedGuid && r.trackGuid == track.trackGuid then
            { track with createdAt := r.createdAt } else r) =
          fun r : Track => r.feedGuid == track.feedGuid := by
        funext r
        simp only [Function.comp_apply]
        split
        · rename_i hp
          simp only [Bool.and_eq_true, beq_iff_eq] at hp
          simp [hp.1]
        · rfl
      rw [hfilter]
      apply List.map_congr_left
      intro r _
      simp only [Function.comp_apply]
      split
      · rename_i hp
        simp only [Bool.and_eq_true, beq_iff_eq] at hp
        exact hp.2.symm
      · rfl
    rw [hguids]
    constructor
    · exact .inl
    · rintro (hmem | rfl)
      · exact hmem
      · exact hheld
  · unfold getTracksForFeed
    rw [hrows, List.filter_append, List.map_append, List.mem_append]
    simp

theorem writeTracks_tracks {tracks : List TrackIngestBundle} {feedGuid : String}
    (hfeed : ∀ t ∈ tracks, t.track.feedGuid = feedGuid) {trackGuids : List String} {d e : Db}
    (h : forEach writeTrack tracks d = (.ok (), e)) (hd : HoldsTracks feedGuid trackGuids d) :
    HoldsTracks feedGuid (trackGuids ++ tracks.map fun t => t.track.trackGuid) e := by
  induction tracks generalizing d trackGuids with
  | nil =>
    cases h
    rw [List.map_nil, List.append_nil]
    exact hd
  | cons t tracks ih =>
    obtain ⟨_, d₁, hwrite, hrest⟩ := bind_ok h
    obtain ⟨_, d₂, hupsert, hsets⟩ := bind_ok hwrite
    have hguid : t.track.feedGuid = feedGuid := hfeed t (by simp)
    have hsame : d₁ .tracks = d₂ .tracks := by
      have hwrites : Writes (S := schema) [.paymentRoutes, .valueTimeSplits, .trackRemoteItemsRaw]
          (do
            replacePaymentRoutesForFeedTrack t.track.feedGuid t.track.trackGuid t.routes
            replaceValueTimeSplitsForFeedTrack t.track.feedGuid t.track.trackGuid t.splits
            replaceTrackRemoteItemsRawForFeedTrack t.track.feedGuid t.track.trackGuid
              t.remoteItems) := by
        apply (Writes.replaceRows (by decide)).bind
        intro _
        apply (replaceValueTimeSplitsForFeedTrack_writes.mono (by decide)).bind
        intro _
        exact Writes.replaceRows (by decide)
      exact (hwrites .tracks (by decide)).run hsets
    rw [← hguid] at hd
    have hnext := holdsTracks_congr hsame (upsertTrack_tracks hupsert hd)
    rw [hguid] at hnext
    have hall := ih (fun t ht => hfeed t (by simp [ht])) hrest hnext
    rwa [List.append_assoc, List.singleton_append] at hall

theorem insertEvents_run (signer : NodeSigner) {rows : List EventRow} {d : Db}
    (hnodup : (rows.map EventRow.eventId).Nodup)
    (hfresh : ∀ row ∈ rows, hasEvent d row.eventId = false) :
    ∃ seqs e, insertEvents signer rows d = (.ok seqs, e) := by
  induction rows generalizing d with
  | nil => exact ⟨[], d, rfl⟩
  | cons row rows ih =>
    obtain ⟨d₁, hinsert, hcontents⟩ := insertEvent_fresh signer (hfresh row (by simp))
    rw [List.map_cons, List.nodup_cons] at hnodup
    have hrest : ∀ row' ∈ rows, hasEvent d₁ row'.eventId = false := by
      intro row' hrow'
      unfold hasEvent
      rw [hcontents, Contents.set_same, List.any_append]
      have hother : (row.eventId == row'.eventId) = false := by
        rw [beq_eq_false_iff_ne]
        intro hsame
        exact hnodup.1 (hsame ▸ List.mem_map_of_mem hrow')
      have hold : (d .events).any (fun r : StoredEvent => r.eventId == row'.eventId) = false :=
        hfresh row' (by simp [hrow'])
      rw [hold, Bool.false_or]
      simpa [signedRow, EventRow.stored] using hother
    obtain ⟨seqs, e, hrun⟩ := ih hnodup.2 hrest
    refine ⟨(nextSeq d, signer.pubkeyHex, signer.sign (row.signingPayload (nextSeq d))) :: seqs, e, ?_⟩
    unfold insertEvents
    rw [bind_run_ok hinsert, bind_run_ok hrun]
    rfl

section

variable [Platform]

/-- A state of the transaction of a new record: its feed row is in, with these tracks, and
the log and the stray rows of the index are those of the start. -/
structure Admitting (d₀ : Db) (feed : Feed) (trackGuids : List String) (d : Db) : Prop where
  log : d .events = d₀ .events
  stray : Stray d = Stray d₀
  indexed : getFeedByGuid d feed.feedGuid = some feed
  tracks : HoldsTracks feed.feedGuid trackGuids d

omit [Platform] in
theorem hasFeed_iff {feedGuid : String} {d : Db} :
    HasFeed feedGuid d ↔ ∃ feed, getFeedByGuid d feedGuid = some feed := by
  rw [HasFeed, has_iff (show schema.home (.feed feedGuid) = Table.feeds from rfl)]
  have hkey : ∀ r : FeedRow, Key.feed feedGuid ∈ Table.keys .feeds r ↔
      r.feed.feedGuid = feedGuid := by
    intro r
    simp [Table.keys, eq_comm]
  simp only [hkey]
  rw [← Option.isSome_iff_exists, getFeedByGuid, Option.isSome_map, List.find?_isSome]
  simp only [beq_iff_eq]

omit [Platform] in
theorem Admitting.hasFeed {d₀ d : Db} {feed : Feed} {trackGuids : List String}
    (h : Admitting d₀ feed trackGuids d) : HasFeed feed.feedGuid d :=
  hasFeed_iff.mpr ⟨feed, h.indexed⟩

omit [Platform] in
theorem Admitting.of_writes {d₀ d e : Db} {feed : Feed} {trackGuids : List String}
    (h : Admitting d₀ feed trackGuids d) {ts : List Table} {α : Type} {x : Stmt α}
    (hx : Writes (S := schema) ts x) {a : Except DbError α} (hrun : x d = (a, e))
    (hts : ∀ t ∈ [Table.events, .searchIndex, .searchEntities, .feeds, .tracks], t ∉ ts) :
    Admitting d₀ feed trackGuids e where
  log := ((hx _ (hts .events (by simp))).run hrun).trans h.log
  stray := (stray_congr ((hx _ (hts .searchIndex (by simp))).run hrun)
    ((hx _ (hts .searchEntities (by simp))).run hrun)).trans h.stray
  indexed := by
    rw [getFeedByGuid, (hx _ (hts .feeds (by simp))).run hrun]
    exact h.indexed
  tracks := holdsTracks_congr ((hx _ (hts .tracks (by simp))).run hrun) h.tracks

theorem writeFeed_decides {feed : Feed} {d₀ : Db} (hnew : getFeedByGuid d₀ feed.feedGuid = none) :
    Decides (fun d => d = d₀) (¬ d₀.Has (.feedUrl feed.feedUrl)) (writeFeed feed)
      fun _ => Admitting d₀ feed [] := by
  rintro d rfl
  have habsent : ¬ (d .feeds).any (fun r : FeedRow => r.feed.feedGuid == feed.feedGuid) = true := by
    rw [List.any_eq_true]
    rintro ⟨r, hr, hguid⟩
    rw [getFeedByGuid, Option.map_eq_none_iff] at hnew
    exact List.find?_eq_none.mp hnew r hr hguid
  have hfresh : ¬ HasFeed feed.feedGuid d := by
    rw [hasFeed_iff, hnew]
    rintro ⟨_, h⟩
    cases h
  set row : FeedRow :=
    { feed := feed
      declaredSelfUrl := none
      declaredNewFeedUrl := none
      podcastLocked := none
      lockedOwner := none
      titleSort := some (sortKey feed.title)
      feedHost := some (feedHostOf feed.feedUrl) } with hrow
  have hadmits : d.Admits .feeds row ↔ ¬ d.Has (.feedUrl feed.feedUrl) := by
    constructor
    · exact fun h => h.fresh _ (by simp [Table.keys, hrow])
    · intro h
      refine ⟨fun k hk => ?_, rfl, fun k hk => by cases hk⟩
      simp only [Table.keys, List.mem_cons, List.not_mem_nil, or_false, hrow] at hk
      rcases hk with rfl | rfl
      · exact hfresh
      · exact h
  unfold writeFeed upsertFeed
  by_cases hurl : d.Has (.feedUrl feed.feedUrl)
  · right
    refine ⟨not_not.mpr hurl, .rusqlite .feeds, d, bind_run_error ?_⟩
    rw [upsert_absent d habsent]
    exact insert_error d fun h => hadmits.mp h hurl
  · left
    obtain ⟨d₁, hinsert, hcontents⟩ := insert_ok d (hadmits.mpr hurl)
    have hdeletes : Ends (do
        delete (S := schema) .sourceGoneAnswers
          fun r : SourceGoneAnswer => r.feedGuid == feed.feedGuid
        delete (S := schema) .retiredSourceHolds
          fun r : RetiredSourceHold => r.feedGuid == toLowercase feed.feedGuid) :=
      (ends_delete (by decide)).bind fun _ => ends_delete (by decide)
    have hwrites : Writes (S := schema) [.sourceGoneAnswers, .retiredSourceHolds] (do
        delete (S := schema) .sourceGoneAnswers
          fun r : SourceGoneAnswer => r.feedGuid == feed.feedGuid
        delete (S := schema) .retiredSourceHolds
          fun r : RetiredSourceHold => r.feedGuid == toLowercase feed.feedGuid) :=
      (Writes.delete (by decide)).bind fun _ => Writes.delete (by decide)
    obtain ⟨_, e, hrun⟩ := hdeletes d₁
    have hadmitting : Admitting d feed [] d₁ := by
      refine ⟨?_, stray_congr ?_ ?_, ?_, ?_⟩
      · rw [hcontents, Contents.set_other (by decide)]
      · rw [hcontents, Contents.set_other (by decide)]
      · rw [hcontents, Contents.set_other (by decide)]
      · have hnone : (d .feeds).find? (fun r : FeedRow => r.feed.feedGuid == feed.feedGuid) = none := by
          rwa [getFeedByGuid, Option.map_eq_none_iff] at hnew
        rw [getFeedByGuid, hcontents, Contents.set_same, List.find?_append, hnone]
        simp [hrow]
      · apply holdsTracks_congr (d := d)
        · rw [hcontents, Contents.set_other (by decide)]
        · intro trackGuid
          rw [getTracksForFeed_unindexed hnew]
          simp
    refine ⟨hurl, (), e, ?_, hadmitting.of_writes hwrites hrun (by decide)⟩
    have hupsert := (upsert_absent (S := schema) (t := .feeds) d
      (p := fun r : FeedRow => r.feed.feedGuid == feed.feedGuid) (r := row)
      (f := fun r : FeedRow =>
        { r with
          feed := { feed with createdAt := r.feed.createdAt }
          titleSort := some (sortKey feed.title)
          feedHost := some (feedHostOf feed.feedUrl) }) habsent).trans hinsert
    rw [bind_run_ok hupsert]
    exact hrun

/-- What the constraints ask of the content of a new record. -/
structure ContentFits (d : Db) (c : IngestContent) : Prop where
  url : ¬ d.Has (.feedUrl c.feed.feedUrl)
  feedSets : FeedSetsFit c
  tracks : ∀ t ∈ c.tracks, TrackFits t
  index : ∀ rowid, IndexedAt c.feed.rawMedium c.feed.feedGuid
    (c.tracks.map fun t => t.track.trackGuid) rowid → ¬ Stray d rowid

theorem ingestTransaction_decides (env : PrimaryEnv) (removalUuid : Nat → String)
    {c : IngestContent} {eventRows : List EventRow} {d₀ : Db} (hc : c.OfFeed)
    (htracks : ∀ t ∈ c.tracks, t.OfFeed c.feed.feedGuid)
    (hnew : getFeedByGuid d₀ c.feed.feedGuid = none)
    (hnodup : (eventRows.map EventRow.eventId).Nodup)
    (hfresh : ∀ row ∈ eventRows, hasEvent d₀ row.eventId = false) :
    Decides (fun d => d = d₀) (ContentFits d₀ c)
      (ingestTransaction env removalUuid c eventRows none)
      fun _ => HasFeed c.feed.feedGuid := by
  set feed := c.feed with hfeed
  set trackGuids := c.tracks.map fun t => t.track.trackGuid with hguids
  have hsets : Decides (Admitting d₀ feed []) (FeedSetsFit c) (replaceFeedSets c)
      fun _ => Admitting d₀ feed [] :=
    (replaceFeedSets_decides hc).of_run (fun _ hd => hd.hasFeed) fun _ _ _ hd hrun _ =>
      hd.of_writes replaceFeedSets_writes hrun (by decide)
  have hwrite : Decides (Admitting d₀ feed []) (∀ t ∈ c.tracks, TrackFits t)
      (forEach writeTrack c.tracks) fun _ => Admitting d₀ feed trackGuids := by
    apply (Decides.forEach fun t ht => writeTrack_decides (htracks t ht)).of_run
      (fun _ hd => hd.hasFeed)
    intro d _ e hd hrun _
    have hwrites : Writes (S := schema) trackSetTables (forEach writeTrack c.tracks) :=
      Writes.forEach fun _ => writeTrack_writes
    refine ⟨((hwrites .events (by decide)).run hrun).trans hd.log,
      ((leaves_stray hwrites (by decide) (by decide)).run hrun).trans hd.stray, ?_, ?_⟩
    · rw [getFeedByGuid, (hwrites .feeds (by decide)).run hrun]
      exact hd.indexed
    · exact writeTracks_tracks (fun t ht => (htracks t ht).track) hrun hd.tracks
  have hevents : Decides (Admitting d₀ feed trackGuids) True (insertEvents env.signer eventRows)
      fun _ d => Stray d = Stray d₀ ∧ getFeedByGuid d feed.feedGuid = some feed ∧
        HoldsTracks feed.feedGuid trackGuids d := by
    intro d hd
    have hnew : ∀ row ∈ eventRows, hasEvent d row.eventId = false := by
      intro row hrow
      rw [hasEvent, hd.log]
      exact hfresh row hrow
    obtain ⟨seqs, e, hrun⟩ := insertEvents_run env.signer hnodup hnew
    have hwrites : Writes (S := schema) [Table.events] (insertEvents env.signer eventRows) :=
      insertEvents_writes
    refine .inl ⟨trivial, seqs, e, hrun, ?_, ?_, ?_⟩
    · exact ((leaves_stray hwrites (by decide) (by decide)).run hrun).trans hd.stray
    · rw [getFeedByGuid, (hwrites .feeds (by decide)).run hrun]
      exact hd.indexed
    · exact holdsTracks_congr ((hwrites .tracks (by decide)).run hrun) hd.tracks
  have hsync : Decides
      (fun d => Stray d = Stray d₀ ∧ getFeedByGuid d feed.feedGuid = some feed ∧
        HoldsTracks feed.feedGuid trackGuids d)
      (∀ rowid, IndexedAt feed.rawMedium feed.feedGuid trackGuids rowid → ¬ Stray d₀ rowid)
      (syncSourceReadModelsForFeed feed.feedGuid) fun _ => HasFeed feed.feedGuid :=
    syncSourceReadModelsForFeed_decides.of_run (fun _ hd => hd) fun d _ e hd hrun _ =>
      (hasFeed_congr ((syncSourceReadModelsForFeed_writes .feeds (by decide)).run hrun)).mpr
        (hasFeed_iff.mpr ⟨feed, hd.2.1⟩)
  -- a new record has no stored track, so the transaction removes none
  have hrest : Decides (Admitting d₀ feed [])
      ((∀ t ∈ c.tracks, TrackFits t) ∧ True ∧
        (∀ rowid, IndexedAt feed.rawMedium feed.feedGuid trackGuids rowid → ¬ Stray d₀ rowid) ∧ True)
      (do
        let staleGuids ← read fun d => orderBy (compareOn env.hashRank) (staleTrackGuids d c)
        forEach writeTrack c.tracks
        forEach (removeStaleTrack feed.feedGuid) staleGuids
        let removals := assignIds removalUuid (staleGuids.map (trackRemovedEvent feed))
        let seqs ← insertEvents env.signer (eventRows ++ removals)
        syncSourceReadModelsForFeed feed.feedGuid
        pure seqs)
      fun _ => HasFeed feed.feedGuid := by
    apply Decides.read_bind
    intro d hd
    have hstored : (getTracksForFeed d feed.feedGuid).map Track.trackGuid = [] :=
      List.eq_nil_iff_forall_not_mem.mpr fun guid hguid =>
        List.not_mem_nil ((hd.tracks guid).mp hguid)
    have hstale : staleTrackGuids d c = [] := by
      rw [staleTrackGuids, ← hfeed, hstored, List.filter_nil]
    have hnone : orderBy (compareOn env.hashRank) ([] : List String) = [] := rfl
    rw [hstale, hnone, List.map_nil]
    simp only [assignIds, List.zipIdx_nil, List.map_nil, List.append_nil]
    have hpure : ∀ seqs : List (Int × String × String), Decides (HasFeed feed.feedGuid) True
        (pure seqs : Stmt (List (Int × String × String))) fun _ => HasFeed feed.feedGuid :=
      fun seqs => (Decides.pure seqs).mono (fun _ hd => hd) Iff.rfl fun _ _ hd => hd.2
    exact hwrite.bind fun _ => hevents.bind fun seqs => hsync.bind fun _ => hpure seqs
  apply Decides.transaction
  apply ((writeFeed_decides hnew).bind fun _ => hsets.bind fun _ => hrest).mono (fun _ hd => hd) _
    fun _ _ hd => hd
  constructor
  · rintro ⟨hurl, hfits, htracks, -, hindex, -⟩
    exact ⟨hurl, hfits, htracks, hindex⟩
  · rintro ⟨hurl, hfits, htracks, hindex⟩
    exact ⟨hurl, hfits, htracks, trivial, hindex, trivial⟩

end

end Stophammer
