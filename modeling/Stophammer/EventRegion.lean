import Stophammer.PayloadPlaces

/-!
# Events and regions

The writes of an event are on the side of its places, and the log that guards them is
in no region.  A replica that gets only the events of a region has the rows of the
region as a replica that gets them all.
-/

namespace Stophammer

open Relational Statement

section Arms

variable {legacy : String → Bool} {K : Place → Bool} {b : Bool}

theorem upsertFeed_local [Platform] {feed : Feed} (hrec : K (.record feed.feedGuid) = b)
    (hurl : K (.feedUrl feed.feedUrl) = b) : (region legacy K).Local b (upsertFeed feed) := by
  apply local_upsert (t := .feeds) hrec
  · intro r _ hp
    rw [beq_iff_eq] at hp
    simp [Table.places, hp]
  · refine ⟨rfl, by simp [Table.places], ?_⟩
    simp [Table.places, hrec, hurl]
  · exact fun _ _ _ => ⟨rfl, .inr rfl⟩

theorem trackRow_side {feedGuid trackGuid : String} (hrec : K (.record feedGuid) = b)
    (htrack : ∀ a ∈ trackPlaces legacy trackGuid, K a = b) :
    ∀ a ∈ Place.record feedGuid :: trackPlaces legacy trackGuid, K a = b := by
  intro a ha
  rcases List.mem_cons.mp ha with rfl | ha
  · exact hrec
  · exact htrack a ha

theorem upsertTrack_local {track : Track} (hrec : K (.record track.feedGuid) = b)
    (htrack : ∀ a ∈ trackPlaces legacy track.trackGuid, K a = b) :
    (region legacy K).Local b (upsertTrack track) := by
  apply local_upsert (t := .tracks) hrec
  · intro r _ hp
    simp only [Bool.and_eq_true, beq_iff_eq] at hp
    simp [Table.places, hp.1]
  · exact ⟨rfl, List.cons_ne_nil _ _, trackRow_side hrec htrack⟩
  · exact fun _ _ _ => ⟨rfl, .inr rfl⟩

theorem replacePaymentRoutesForFeedTrack_local {feedGuid trackGuid : String}
    {routes : List PaymentRoute} (hrec : K (.record feedGuid) = b)
    (htrack : ∀ a ∈ trackPlaces legacy trackGuid, K a = b) :
    (region legacy K).Local b (replacePaymentRoutesForFeedTrack feedGuid trackGuid routes) := by
  apply local_replaceRows (t := .paymentRoutes) hrec
  · intro r _ hp
    simp only [Bool.and_eq_true, beq_iff_eq] at hp
    simp [Table.places, hp.1]
  · intro r hr
    obtain ⟨route, -, rfl⟩ := List.mem_map.mp hr
    exact ⟨rfl, List.cons_ne_nil _ _, trackRow_side hrec htrack⟩

theorem replacePaymentRoutes_local {trackGuid : String} {routes : List PaymentRoute}
    (hlegacy : legacy trackGuid = true) (htrack : K (.track trackGuid) = b)
    (hroutes : ∀ r ∈ routes, ∀ a ∈ Place.record r.feedGuid :: trackPlaces legacy r.trackGuid,
      K a = b) : (region legacy K).Local b (replacePaymentRoutes trackGuid routes) := by
  apply local_replaceRows (t := .paymentRoutes) htrack
  · intro r _ hp
    rw [beq_iff_eq] at hp
    have hmem : Place.track r.trackGuid ∈ Table.places legacy .paymentRoutes r :=
      List.mem_cons_of_mem _ (mem_trackPlaces (by rw [hp]; exact hlegacy))
    rwa [hp] at hmem
  · intro r hr
    obtain ⟨route, hroute, rfl⟩ := List.mem_map.mp hr
    exact ⟨rfl, List.cons_ne_nil _ _, hroutes route hroute⟩

theorem insertValueTimeSplit_local {feedGuid trackGuid : String} {s : ValueTimeSplit}
    (hrec : K (.record feedGuid) = b) :
    (region legacy K).Local b (insertValueTimeSplit feedGuid trackGuid s) := by
  have hmap : (forEach (fun r => updateLast Table.valueTimeSplits (addRecipient r)) s.recipients :
      Stmt Unit) = forEach (updateLast Table.valueTimeSplits) (s.recipients.map addRecipient) :=
    (forEach_map _ addRecipient s.recipients).symm
  unfold insertValueTimeSplit
  rw [hmap]
  have hrow := @fits_row legacy K .valueTimeSplits
    (valueTimeSplitRow feedGuid trackGuid s) b rfl (List.cons_ne_nil _ _)
    (by simpa [Table.places, valueTimeSplitRow] using hrec)
  apply Region.Local.insert_updateLast hrow.1 hrow.2
  intro f hf r hr hside
  obtain ⟨recipient, -, rfl⟩ := List.mem_map.mp hf
  exact ⟨hr, hside⟩

theorem replaceValueTimeSplitsForFeedTrack_local {feedGuid trackGuid : String}
    {splits : List ValueTimeSplit} (hrec : K (.record feedGuid) = b)
    (hsplits : ∀ s ∈ splits, K (.record (ownFeed feedGuid s.sourceFeedGuid)) = b) :
    (region legacy K).Local b (replaceValueTimeSplitsForFeedTrack feedGuid trackGuid splits) := by
  apply (deleteSplitsOf_local hrec).bind
  intro _
  exact Region.Local.forEach fun s hs => insertValueTimeSplit_local (hsplits s hs)

theorem replaceTrackRemoteItemsRawForFeedTrack_local {feedGuid trackGuid : String}
    {remoteItems : List TrackRemoteItemRaw} (hrec : K (.record feedGuid) = b)
    (htrack : ∀ a ∈ trackPlaces legacy trackGuid, K a = b)
    (hitems : ∀ r ∈ remoteItems, K (.record (ownFeed feedGuid r.feedGuid)) = b) :
    (region legacy K).Local b
      (replaceTrackRemoteItemsRawForFeedTrack feedGuid trackGuid remoteItems) := by
  apply Region.Local.replaceRows
  · intro r hr hp
    exact isTrackRemoteItemOf_row hrec (fun h => htrack _ (mem_trackPlaces h)) hr hp
  · intro r hr
    obtain ⟨item, hitem, rfl⟩ := List.mem_map.mp hr
    apply fits_row
    · rfl
    · exact List.cons_ne_nil _ _
    · exact trackRow_side (hitems item hitem) htrack

theorem replaceTrackRemoteItemsRaw_local {trackGuid : String}
    {remoteItems : List TrackRemoteItemRaw} (hlegacy : legacy trackGuid = true)
    (htrack : K (.track trackGuid) = b)
    (hitems : ∀ r ∈ remoteItems, legacy r.trackGuid = true ∧ K (.track r.trackGuid) = b) :
    (region legacy K).Local b (replaceTrackRemoteItemsRaw trackGuid remoteItems) := by
  apply local_replaceRows (t := .trackRemoteItemsRaw) htrack
  · intro r _ hp
    rw [beq_iff_eq] at hp
    subst hp
    rcases hfeed : r.feedGuid with _ | feedGuid
    · simp [Table.places, hfeed]
    · simp only [Table.places, hfeed]
      exact List.mem_cons_of_mem _ (mem_trackPlaces hlegacy)
  · intro r hr
    obtain ⟨item, hitem, rfl⟩ := List.mem_map.mp hr
    obtain ⟨hitemLegacy, hitemTrack⟩ := hitems item hitem
    refine ⟨?_, ?_, ?_⟩
    · simpa [Table.wellPlaced, trackRemoteItemRow] using hitemLegacy
    · simp [Table.places, trackRemoteItemRow]
    · simpa [Table.places, trackRemoteItemRow] using hitemTrack

theorem insertFeedBlock_local [Platform] {block : FeedBlock} (hblock : K (.block block.blockId) = b)
    (hvalue : K (.blockValue block.kind (block.kind.normalize block.value)) = b)
    (hcopies : block.kind = .url → K (.copyUrl (block.kind.normalize block.value)) = b) :
    (region legacy K).Local b (insertFeedBlock block) := by
  have hrow := @fits_row legacy K .feedBlocks
    { block with value := block.kind.normalize block.value } b rfl (List.cons_ne_nil _ _)
    (by simp [Table.places, hblock, hvalue])
  apply (Region.Local.insertOrIgnore hrow.1 hrow.2).bind
  intro changed
  by_cases hurl : (changed && block.kind == .url) = true
  · rw [if_pos hurl]
    simp only [Bool.and_eq_true, beq_iff_eq] at hurl
    refine Region.Local.bind (local_delete (t := .feedCopies) (hcopies hurl.2) ?_) fun _ =>
      Region.Local.pure changed
    intro r _ hp
    rw [beq_iff_eq] at hp
    simp [Table.places, hp]
  · rw [if_neg hurl]
    exact (Region.Local.pure ()).bind fun _ => Region.Local.pure changed

theorem isCopyAt_mem {feedGuid url : String} (r : FeedCopyRow)
    (h : isCopyAt feedGuid url r = true) :
    Place.record feedGuid ∈ Table.places legacy .feedCopies r := by
  simp only [isCopyAt, Bool.and_eq_true, beq_iff_eq] at h
  simp [Table.places, h.1]

theorem upsertGuidChange_local {sourceUrl oldGuid newGuid : String} {firstSeen : Int}
    (hchange : K (.change sourceUrl) = b) :
    (region legacy K).Local b (upsertGuidChange sourceUrl oldGuid newGuid firstSeen) := by
  apply local_upsert (t := .feedGuidChanges) hchange
  · intro r _ hp
    rw [beq_iff_eq] at hp
    simp [Table.places, hp]
  · exact ⟨rfl, List.cons_ne_nil _ _, by simpa [Table.places] using hchange⟩
  · intro r _ _
    split <;> exact ⟨rfl, .inl rfl⟩

end Arms

section Payloads

variable [Platform] {legacy : String → Bool} {K : Place → Bool} {b : Bool}

omit [Platform] in
theorem snapshot_side {α : Type} {feedGuid : String} {rows : List α} {feedGuidOf : α → String}
    (h : ∀ a ∈ Place.record feedGuid :: rows.map fun r => Place.record (feedGuidOf r), K a = b) :
    K (.record feedGuid) = b ∧ ∀ r ∈ rows, K (.record (feedGuidOf r)) = b := by
  constructor
  · exact h _ List.mem_cons_self
  · intro r hr
    exact h _ (List.mem_cons_of_mem _ (List.mem_map.mpr ⟨r, hr, rfl⟩))

omit [Platform] in
theorem trackPayload_side {feedGuid trackGuid : String} {rest : List Place}
    (h : ∀ a ∈ Place.record feedGuid :: trackPlaces legacy trackGuid ++ rest, K a = b) :
    K (.record feedGuid) = b ∧ (∀ a ∈ trackPlaces legacy trackGuid, K a = b) ∧
      ∀ a ∈ rest, K a = b := by
  refine ⟨h _ List.mem_cons_self, fun a ha => h a ?_, fun a ha => h a ?_⟩
  · exact List.mem_cons_of_mem _ (List.mem_append_left _ ha)
  · exact List.mem_cons_of_mem _ (List.mem_append_right _ ha)

theorem trackUpserted_confined {p : TrackUpsertedPayload} (createdAt : Int)
    (hK : ∀ a ∈ EventPayload.places legacy (.trackUpserted p), K a = b) :
    (region legacy K).Confined b (applyPayload createdAt (.trackUpserted p)) := by
  obtain ⟨hrec, htrack, hsplits⟩ := trackPayload_side hK
  apply (upsertTrack_local hrec htrack).bind_confined
  intro _
  apply (replacePaymentRoutesForFeedTrack_local hrec htrack).bind_confined
  intro _
  refine (replaceValueTimeSplitsForFeedTrack_local hrec fun s hs => ?_).bind_confined fun _ => ?_
  · exact hsplits _ (List.mem_map.mpr ⟨s, hs, rfl⟩)
  · exact (sync_spares _).confined

theorem routesReplaced_local {p : RoutesReplacedPayload} (createdAt : Int)
    (hlegacy : ∀ g ∈ (EventPayload.routesReplaced p).legacyTracks, legacy g = true)
    (hK : ∀ a ∈ EventPayload.places legacy (.routesReplaced p), K a = b) :
    (region legacy K).Local b (applyPayload createdAt (.routesReplaced p)) := by
  rcases p with ⟨trackGuid, _ | feedGuid, routes⟩
  · apply replacePaymentRoutes_local
    · exact hlegacy trackGuid (by simp [EventPayload.legacyTracks])
    · exact hK _ List.mem_cons_self
    · intro r hr a ha
      exact hK a (List.mem_cons_of_mem _ (List.mem_flatMap.mpr ⟨r, hr, ha⟩))
  · apply replacePaymentRoutesForFeedTrack_local
    · exact hK _ List.mem_cons_self
    · exact fun a ha => hK a (List.mem_cons_of_mem _ ha)

theorem trackRemoteItemsReplaced_local {p : TrackRemoteItemsReplacedPayload} (createdAt : Int)
    (hlegacy : ∀ g ∈ (EventPayload.trackRemoteItemsReplaced p).legacyTracks, legacy g = true)
    (hK : ∀ a ∈ EventPayload.places legacy (.trackRemoteItemsReplaced p), K a = b) :
    (region legacy K).Local b (applyPayload createdAt (.trackRemoteItemsReplaced p)) := by
  rcases p with ⟨trackGuid, _ | feedGuid, remoteItems⟩
  · have hown : ∀ g ∈ trackGuid :: remoteItems.map TrackRemoteItemRaw.trackGuid,
        legacy g = true := by
      intro g hg
      exact hlegacy g (by simpa [EventPayload.legacyTracks] using hg)
    apply replaceTrackRemoteItemsRaw_local
    · exact hown trackGuid List.mem_cons_self
    · exact hK _ List.mem_cons_self
    · intro r hr
      constructor
      · exact hown _ (List.mem_cons_of_mem _ (List.mem_map_of_mem hr))
      · exact hK _ (List.mem_cons_of_mem _ (List.mem_map.mpr ⟨r, hr, rfl⟩))
  · obtain ⟨hrec, htrack, hitems⟩ := trackPayload_side hK
    apply replaceTrackRemoteItemsRawForFeedTrack_local hrec htrack
    intro r hr
    exact hitems _ (List.mem_map.mpr ⟨r, hr, rfl⟩)

theorem feedRetired_local {p : FeedRetiredPayload} (createdAt : Int)
    (hK : ∀ a ∈ EventPayload.places legacy (.feedRetired p), K a = b) :
    (region legacy K).Local b (applyPayload createdAt (.feedRetired p)) := by
  have hrec : K (.record p.feedGuid) = b := hK _ List.mem_cons_self
  apply Region.Local.read_bind fun _ => True
  · rintro rfl d e h
    have hp : ∀ r, (region legacy K).Fits .feeds r → (r.feed.feedGuid == p.feedGuid) = true →
        (region legacy K).row .feeds r = true := by
      intro r hr hguid
      rw [beq_iff_eq] at hguid
      exact (row_eq hr (a := .record p.feedGuid) (by simp [Table.places, hguid])).trans hrec
    unfold getFeedByGuid
    rw [← Region.find_side (t := Table.feeds) h.left hp,
      ← Region.find_side (t := Table.feeds) h.right hp, h.same]
  · exact fun _ _ => trivial
  · exact fun _ _ => Region.Local.ite (deleteFeedSql_local hrec) (Region.Local.pure ())

theorem trackRemoved_local {p : TrackRemovedPayload} (createdAt : Int)
    (hK : ∀ a ∈ EventPayload.places legacy (.trackRemoved p), K a = b) :
    (region legacy K).Local b (applyPayload createdAt (.trackRemoved p)) := by
  have hrec : K (.record p.feedGuid) = b := hK _ List.mem_cons_self
  apply Region.Local.read_bind fun _ => True
  · rintro rfl d e h
    have hp : ∀ r, (region legacy K).Fits .tracks r →
        (r.feedGuid == p.feedGuid && r.trackGuid == p.trackGuid) = true →
        (region legacy K).row .tracks r = true := by
      intro r hr hguid
      simp only [Bool.and_eq_true, beq_iff_eq] at hguid
      exact (row_eq hr (a := .record p.feedGuid) (by simp [Table.places, hguid.1])).trans hrec
    unfold getTrackForFeed
    rw [← Region.find_side (t := Table.tracks) h.left hp,
      ← Region.find_side (t := Table.tracks) h.right hp, h.same]
  · exact fun _ _ => trivial
  · intro _ _
    apply Region.Local.ite _ (Region.Local.pure ())
    exact deleteTrackSql_local hrec fun h => hK _ (List.mem_cons_of_mem _ (mem_trackPlaces h))

theorem applyPayload_confined (createdAt : Int) {payload : EventPayload}
    (hlegacy : ∀ g ∈ payload.legacyTracks, legacy g = true)
    (hK : ∀ a ∈ payload.places legacy, K a = b) :
    (region legacy K).Confined b (applyPayload createdAt payload) := by
  cases payload with
  | artistUpserted _ | artistCreditCreated _ => exact (Region.Local.pure ()).confined
  | feedUpserted p =>
    apply (upsertFeed_local (hK _ List.mem_cons_self) (hK _ (by
      exact List.mem_cons_of_mem _ List.mem_cons_self))).bind_confined
    exact fun _ => (sync_spares _).confined
  | trackUpserted p => exact trackUpserted_confined createdAt hK
  | routesReplaced p => exact (routesReplaced_local createdAt hlegacy hK).confined
  | trackRemoteItemsReplaced p =>
    exact (trackRemoteItemsReplaced_local createdAt hlegacy hK).confined
  | feedRetired p => exact (feedRetired_local createdAt hK).confined
  | trackRemoved p => exact (trackRemoved_local createdAt hK).confined
  | feedRoutesReplaced p =>
    obtain ⟨hrec, hrows⟩ := snapshot_side hK
    apply Region.Local.confined
    apply local_replaceRecord (t := .feedPaymentRoutes) (fun _ => rfl) (fun _ => rfl) hrec
    intro r hr
    obtain ⟨route, hroute, rfl⟩ := List.mem_map.mp hr
    exact hrows route hroute
  | feedListValueReplaced p =>
    obtain ⟨hrec, hrows⟩ := snapshot_side hK
    apply Region.Local.confined
    apply local_replaceRecord (t := .feedListValueRaw) (fun _ => rfl) (fun _ => rfl) hrec
    intro r hr
    obtain ⟨value, hvalue, rfl⟩ := List.mem_map.mp hr
    exact hrows value hvalue
  | feedRemoteItemsReplaced p =>
    obtain ⟨hrec, hrows⟩ := snapshot_side hK
    exact (local_replaceRecord (t := .feedRemoteItemsRaw) (fun _ => rfl) (fun _ => rfl) hrec
      hrows).confined
  | sourcePlatformClaimsReplaced p =>
    obtain ⟨hrec, hrows⟩ := snapshot_side hK
    exact (local_replaceRecord (t := .sourcePlatformClaims) (fun _ => rfl) (fun _ => rfl) hrec
      hrows).confined
  | liveEventsReplaced p =>
    obtain ⟨hrec, hrows⟩ := snapshot_side hK
    exact (local_replaceRecord (t := .liveEvents) (fun _ => rfl) (fun _ => rfl) hrec
      fun r hr => hrows r (mem_of_mem_dedupeBy hr)).confined
  | sourceContributorClaimsReplaced p =>
    obtain ⟨hrec, hrows⟩ := snapshot_side hK
    exact (local_replaceRecord (t := .sourceContributorClaims) (fun _ => rfl) (fun _ => rfl) hrec
      fun r hr => hrows r (mem_of_mem_dedupeBy hr)).confined
  | sourceEntityIdsReplaced p =>
    obtain ⟨hrec, hrows⟩ := snapshot_side hK
    exact (local_replaceRecord (t := .sourceEntityIds) (fun _ => rfl) (fun _ => rfl) hrec
      fun r hr => hrows r (mem_of_mem_dedupeBy hr)).confined
  | sourceEntityLinksReplaced p =>
    obtain ⟨hrec, hrows⟩ := snapshot_side hK
    exact (local_replaceRecord (t := .sourceEntityLinks) (fun _ => rfl) (fun _ => rfl) hrec
      fun r hr => hrows r (mem_of_mem_dedupeBy hr)).confined
  | sourceReleaseClaimsReplaced p =>
    obtain ⟨hrec, hrows⟩ := snapshot_side hK
    exact (local_replaceRecord (t := .sourceReleaseClaims) (fun _ => rfl) (fun _ => rfl) hrec
      fun r hr => hrows r (mem_of_mem_dedupeBy hr)).confined
  | sourceItemEnclosuresReplaced p =>
    obtain ⟨hrec, hrows⟩ := snapshot_side hK
    exact (local_replaceRecord (t := .sourceItemEnclosures) (fun _ => rfl) (fun _ => rfl) hrec
      fun r hr => hrows r (mem_of_mem_dedupeBy hr)).confined
  | sourceItemTranscriptsReplaced p =>
    obtain ⟨hrec, hrows⟩ := snapshot_side hK
    exact (local_replaceRecord (t := .sourceItemTranscripts) (fun _ => rfl) (fun _ => rfl) hrec
      fun r hr => hrows r (mem_of_mem_dedupeBy hr)).confined
  | feedUrlObserved p =>
    have hurl : K (.observed p.url) = b := hK _ List.mem_cons_self
    apply Region.Local.confined
    apply local_upsert (t := .feedUrlObservations) hurl
    · intro r _ hp
      rw [beq_iff_eq] at hp
      simp [Table.places, hp]
    · exact ⟨rfl, List.cons_ne_nil _ _, hK⟩
    · exact fun _ _ _ => ⟨rfl, .inl rfl⟩
  | feedBlocked p =>
    apply Region.Local.confined
    refine (insertFeedBlock_local ?_ ?_ fun hurl => ?_).bind fun _ => Region.Local.pure ()
    · exact hK _ List.mem_cons_self
    · exact hK _ (List.mem_cons_of_mem _ List.mem_cons_self)
    · apply hK
      simp only [EventPayload.places, if_pos (show p.kind = .url from hurl)]
      exact List.mem_cons_of_mem _ (List.mem_cons_of_mem _ List.mem_cons_self)
  | feedUnblocked p =>
    have hblock : K (.block p.blockId) = b := hK _ List.mem_cons_self
    apply Region.Local.confined
    apply local_delete (t := .feedBlocks) hblock
    intro r _ hp
    rw [beq_iff_eq] at hp
    simp [Table.places, hp]
  | feedCopyObserved p =>
    apply Region.Local.confined
    apply local_upsert (t := .feedCopies) (hK _ List.mem_cons_self)
    · exact fun r _ hp => isCopyAt_mem r hp
    · exact ⟨rfl, List.cons_ne_nil _ _, hK⟩
    · exact fun _ _ _ => ⟨rfl, .inl rfl⟩
  | feedCopyResolved p =>
    apply Region.Local.confined
    apply local_update (t := .feedCopies) (hK _ List.mem_cons_self)
    · exact fun r _ hp => isCopyAt_mem r hp
    · exact fun _ => ⟨rfl, rfl⟩
  | feedGuidChangeObserved p =>
    have hchange : K (.change p.sourceUrl) = b := hK _ List.mem_cons_self
    apply Region.Local.confined
    apply Region.Local.ite _ (upsertGuidChange_local hchange)
    apply local_delete (t := .feedGuidChanges) hchange
    intro r _ hp
    rw [beq_iff_eq] at hp
    simp [Table.places, hp]
  | feedGuidChangeDecided p =>
    apply Region.Local.confined
    apply local_update (t := .feedGuidChanges) (hK _ List.mem_cons_self)
    · intro r _ hp
      rw [beq_iff_eq] at hp
      simp [Table.places, hp]
    · exact fun _ => ⟨rfl, rfl⟩
  | feedGuidSuperseded p =>
    have hrow := @fits_row legacy K .feedGuidSupersessions
      { oldGuid := p.oldGuid, newGuid := p.newGuid, sourceUrl := p.sourceUrl,
        supersededAt := createdAt } b rfl (List.cons_ne_nil _ _) hK
    apply Region.Local.confined
    exact (Region.Local.insertOrIgnore hrow.1 hrow.2).bind fun _ => Region.Local.pure ()

end Payloads

end Stophammer
