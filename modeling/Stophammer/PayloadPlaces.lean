import Stophammer.Batch
import Stophammer.Places

/-!
# The places of an event

An event works at its own places: it reads and changes no row that has its places
elsewhere.
-/

namespace Stophammer

open Relational Statement

/-- The tracks that an old event names without their feeds. -/
def EventPayload.legacyTracks : EventPayload → List String
  | .routesReplaced p => if p.feedGuid = none then [p.trackGuid] else []
  | .trackRemoteItemsReplaced p =>
    if p.feedGuid = none then p.trackGuid :: p.remoteItems.map TrackRemoteItemRaw.trackGuid else []
  | _ => []

/-- The feed that a split or an item of a payload belongs to. -/
def ownFeed (feedGuid rowFeedGuid : String) : String :=
  if rowFeedGuid.isEmpty then feedGuid else rowFeedGuid

section

variable [Platform] (legacy : String → Bool)

def EventPayload.places : EventPayload → List Place
  | .artistUpserted _ | .artistCreditCreated _ => []
  | .feedUpserted p => [.record p.feed.feedGuid, .feedUrl p.feed.feedUrl]
  | .feedRetired p => [.record p.feedGuid]
  | .trackUpserted p =>
    .record p.track.feedGuid :: trackPlaces legacy p.track.trackGuid ++
      p.valueTimeSplits.map fun s => .record (ownFeed p.track.feedGuid s.sourceFeedGuid)
  | .trackRemoved p => .record p.feedGuid :: trackPlaces legacy p.trackGuid
  | .routesReplaced p =>
    match p.feedGuid with
    | some feedGuid => .record feedGuid :: trackPlaces legacy p.trackGuid
    | none =>
      .track p.trackGuid ::
        p.routes.flatMap fun r => .record r.feedGuid :: trackPlaces legacy r.trackGuid
  | .feedRoutesReplaced p => .record p.feedGuid :: p.routes.map (.record ·.feedGuid)
  | .feedRemoteItemsReplaced p => .record p.feedGuid :: p.remoteItems.map (.record ·.feedGuid)
  | .feedListValueReplaced p => .record p.feedGuid :: p.listValues.map (.record ·.feedGuid)
  | .trackRemoteItemsReplaced p =>
    match p.feedGuid with
    | some feedGuid =>
      .record feedGuid :: trackPlaces legacy p.trackGuid ++
        p.remoteItems.map fun r => .record (ownFeed feedGuid r.feedGuid)
    | none => .track p.trackGuid :: p.remoteItems.map (.track ·.trackGuid)
  | .liveEventsReplaced p => .record p.feedGuid :: p.liveEvents.map (.record ·.feedGuid)
  | .sourceContributorClaimsReplaced p => .record p.feedGuid :: p.claims.map (.record ·.feedGuid)
  | .sourceEntityIdsReplaced p => .record p.feedGuid :: p.claims.map (.record ·.feedGuid)
  | .sourceEntityLinksReplaced p => .record p.feedGuid :: p.links.map (.record ·.feedGuid)
  | .sourceReleaseClaimsReplaced p => .record p.feedGuid :: p.claims.map (.record ·.feedGuid)
  | .sourceItemEnclosuresReplaced p =>
    .record p.feedGuid :: p.enclosures.map (.record ·.feedGuid)
  | .sourceItemTranscriptsReplaced p =>
    .record p.feedGuid :: p.transcripts.map (.record ·.feedGuid)
  | .sourcePlatformClaimsReplaced p => .record p.feedGuid :: p.claims.map (.record ·.feedGuid)
  | .feedUrlObserved p => [.observed p.url]
  | .feedBlocked p =>
    .block p.blockId :: .blockValue p.kind (p.kind.normalize p.value) ::
      if p.kind = .url then [.copyUrl (p.kind.normalize p.value)] else []
  | .feedUnblocked p => [.block p.blockId]
  | .feedCopyObserved p => [.record p.feedGuid, .copyUrl p.url]
  | .feedCopyResolved p => [.record p.feedGuid, .copyUrl p.url]
  | .feedGuidChangeObserved p => [.change p.sourceUrl]
  | .feedGuidChangeDecided p => [.change p.sourceUrl]
  | .feedGuidSuperseded p => [.superseded p.oldGuid]

end

section Own

variable [Platform] {legacy : String → Bool} {K : Place → Bool} {b : Bool}

omit [Platform] in
theorem readModel_own : ∀ t ∈ readModelTables, ∀ r : t.Row,
    (region legacy K).Fits t r ∧ (region legacy K).row t r = false := by
  intro t ht r
  simp only [readModelTables, List.mem_cons, List.not_mem_nil, or_false] at ht
  rcases ht with rfl | rfl | rfl <;> exact own_table (fun _ => rfl) (fun _ => rfl) r

omit [Platform] in
theorem delete_total {t : Table} (ht : Database.Leaf (S := schema) t) (p : t.Row → Bool) (d : Db) :
    (delete t p d).1 = .ok () := by
  obtain ⟨e, hrun, -⟩ := delete_ok d ht p
  rw [hrun]

theorem deleteFromSearchIndex_total (entityType entityId : String) (d : Db) :
    (deleteFromSearchIndex entityType entityId d).1 = .ok () := by
  have hdelete : ∀ (t : Table) (p : t.Row → Bool), t ∈ readModelTables → ∀ d : Db,
      ∃ e, delete t p d = (.ok (), e) := by
    intro t p ht d
    have hleaf : Database.Leaf (S := schema) t := by
      simp only [readModelTables, List.mem_cons, List.not_mem_nil, or_false] at ht
      rcases ht with rfl | rfl | rfl <;> exact leaf_of_ne (by decide) (by decide)
    obtain ⟨e, hrun, -⟩ := delete_ok d hleaf p
    exact ⟨e, hrun⟩
  unfold deleteFromSearchIndex
  simp only [read_bind_run]
  cases searchEntityAt d (rowidFor entityType entityId) with
  | some row =>
    obtain ⟨e, hrun⟩ := hdelete .searchIndex (fun r => r.rowid == rowidFor entityType entityId)
      (by decide) d
    obtain ⟨e', hrun'⟩ := hdelete .searchEntities (fun r => r.rowid == rowidFor entityType entityId)
      (by decide) e
    simp only [bind_run_ok hrun, hrun']
  | none =>
    obtain ⟨e', hrun'⟩ := hdelete .searchEntities (fun r => r.rowid == rowidFor entityType entityId)
      (by decide) d
    simp only [hrun']

theorem deleteFromSearchIndex_local (entityType entityId : String) :
    (region legacy K).Local b (deleteFromSearchIndex entityType entityId) :=
  .of_writes deleteFromSearchIndex_writes readModel_own (deleteFromSearchIndex_total _ _)

omit [Platform] in
theorem deleteQuality_local (p : EntityQualityRow → Bool) :
    (region legacy K).Local b (delete Table.entityQuality p : Stmt Unit) :=
  .of_writes (show Writes (S := schema) readModelTables (delete Table.entityQuality p) from
    Writes.delete (by decide)) readModel_own
    (delete_total (t := .entityQuality) (leaf_of_ne (by decide) (by decide)) p)

theorem sync_spares (feedGuid : String) :
    (region legacy K).Spares (syncSourceReadModelsForFeed feedGuid) :=
  .of_writes syncSourceReadModelsForFeed_writes readModel_own

end Own

section Deletes

variable {legacy : String → Bool} {K : Place → Bool} {b : Bool} {feedGuid trackGuid : String}

theorem mem_trackPlaces (h : legacy trackGuid = true) :
    Place.track trackGuid ∈ trackPlaces legacy trackGuid := by
  unfold trackPlaces
  rw [if_pos h]
  exact List.mem_singleton.mpr rfl

theorem deleteSplitsOf_local (hrec : K (.record feedGuid) = b) :
    (region legacy K).Local b (deleteSplitsOf feedGuid trackGuid) := by
  apply local_delete (t := .valueTimeSplits) hrec
  intro r hwell hp
  simp only [Table.wellPlaced] at hwell
  simp only [isSplitOf, Bool.and_eq_true, Bool.or_eq_true, beq_iff_eq] at hp
  rcases hp.2 with hfeed | hfeed
  · simp [Table.places, hfeed]
  · rw [hfeed] at hwell
    cases hwell

theorem deletePaymentRoutesOf_local (hrec : K (.record feedGuid) = b) :
    (region legacy K).Local b (deletePaymentRoutesOf feedGuid trackGuid) := by
  apply local_delete (t := .paymentRoutes) hrec
  intro r _ hp
  simp only [Bool.and_eq_true, beq_iff_eq] at hp
  simp [Table.places, hp.1]

theorem isTrackRemoteItemOf_row (hrec : K (.record feedGuid) = b)
    (htrack : legacy trackGuid = true → K (.track trackGuid) = b) {r : TrackRemoteItemRow}
    (hr : (region legacy K).Fits .trackRemoteItemsRaw r)
    (hp : isTrackRemoteItemOf feedGuid trackGuid r = true) :
    (region legacy K).row .trackRemoteItemsRaw r = b := by
  simp only [isTrackRemoteItemOf, Bool.and_eq_true, Bool.or_eq_true, beq_iff_eq] at hp
  obtain ⟨htrackGuid, hfeed | hfeed⟩ := hp
  · exact (row_eq hr (a := .record feedGuid) (by simp [Table.places, hfeed])).trans hrec
  · have hlegacy : legacy trackGuid = true := by
      have hwell := hr.1
      simp only [Table.wellPlaced, hfeed, Option.isSome_none, Bool.false_or] at hwell
      rwa [htrackGuid] at hwell
    have hmem : Place.track trackGuid ∈ Table.places legacy .trackRemoteItemsRaw r := by
      simp [Table.places, hfeed, htrackGuid]
    exact (row_eq hr hmem).trans (htrack hlegacy)

theorem deleteTrackRemoteItemsOf_local (hrec : K (.record feedGuid) = b)
    (htrack : legacy trackGuid = true → K (.track trackGuid) = b) :
    (region legacy K).Local b (deleteTrackRemoteItemsOf feedGuid trackGuid) :=
  Region.Local.delete fun _ hr hp => isTrackRemoteItemOf_row hrec htrack hr hp

theorem track_side {r : Track} (hr : (region legacy K).Fits .tracks r)
    (hrow : (region legacy K).row .tracks r = b) :
    K (.record r.feedGuid) = b ∧ (legacy r.trackGuid = true → K (.track r.trackGuid) = b) := by
  constructor
  · exact (row_eq hr (a := .record r.feedGuid) (by simp [Table.places])).symm.trans hrow
  · intro hlegacy
    have hmem : Place.track r.trackGuid ∈ Table.places legacy .tracks r :=
      List.mem_cons_of_mem _ (mem_trackPlaces hlegacy)
    exact (row_eq hr hmem).symm.trans hrow

theorem deleteTracks_local {p : Track → Bool}
    (hp : ∀ r, (region legacy K).Fits .tracks r → p r = true →
      (region legacy K).row .tracks r = b) :
    (region legacy K).Local b (deleteTracks p) := by
  apply Region.Local.transaction
  apply Region.Local.read_bind fun olds : List Track => ∀ old ∈ olds,
    (region legacy K).Fits .tracks old ∧ (region legacy K).row .tracks old = b
  · rintro rfl d e h
    rw [← Region.filter_side (t := Table.tracks) h.left hp,
      ← Region.filter_side (t := Table.tracks) h.right hp, h.same]
  · intro d hd old hold
    obtain ⟨hmem, hpold⟩ := List.mem_filter.mp hold
    exact ⟨hd .tracks old hmem, hp old (hd .tracks old hmem) hpold⟩
  · intro olds holds
    refine Region.Local.bind (Region.Local.forEach fun old hold => ?_) fun _ =>
      Region.Local.delete hp
    obtain ⟨hfits, hrow⟩ := holds old hold
    obtain ⟨hrec, htrack⟩ := track_side hfits hrow
    apply (deleteSplitsOf_local hrec).bind
    intro _
    apply (deletePaymentRoutesOf_local hrec).bind
    intro _
    apply (deleteTrackRemoteItemsOf_local hrec htrack).bind
    intro _
    exact deleteQuality_local _

theorem deleteRecord_local {t : Table} {feedGuidOf : t.Row → String}
    (hplaces : ∀ r, Place.record (feedGuidOf r) ∈ t.places legacy r)
    (hrec : K (.record feedGuid) = b) :
    (region legacy K).Local b (delete t (fun r => feedGuidOf r == feedGuid) : Stmt Unit) := by
  apply local_delete hrec
  intro r _ hp
  have hmem := hplaces r
  rwa [beq_iff_eq.mp hp] at hmem

theorem deleteSourceClaims_local (hrec : K (.record feedGuid) = b) :
    (region legacy K).Local b (deleteSourceClaims feedGuid) := by
  have hmem : ∀ g : String, Place.record g ∈ [Place.record g] := fun _ => List.mem_singleton.mpr rfl
  apply Region.Local.bind (deleteRecord_local (t := .sourceContributorClaims) (fun _ => hmem _) hrec)
  intro _
  apply Region.Local.bind (deleteRecord_local (t := .sourceEntityIds) (fun _ => hmem _) hrec)
  intro _
  apply Region.Local.bind (deleteRecord_local (t := .sourceEntityLinks) (fun _ => hmem _) hrec)
  intro _
  apply Region.Local.bind (deleteRecord_local (t := .sourceReleaseClaims) (fun _ => hmem _) hrec)
  intro _
  apply Region.Local.bind (deleteRecord_local (t := .sourceItemEnclosures) (fun _ => hmem _) hrec)
  intro _
  apply Region.Local.bind (deleteRecord_local (t := .sourceItemTranscripts) (fun _ => hmem _) hrec)
  intro _
  exact deleteRecord_local (t := .sourcePlatformClaims) (fun _ => hmem _) hrec

theorem deleteTracksOfFeed_local (hrec : K (.record feedGuid) = b) :
    (region legacy K).Local b (deleteTracks fun r : Track => r.feedGuid == feedGuid) := by
  apply deleteTracks_local
  intro r hr hp
  rw [beq_iff_eq] at hp
  exact (row_eq hr (a := .record feedGuid) (by simp [Table.places, hp])).trans hrec

theorem feedsCleanupBeforeDelete_local {old : FeedRow}
    (hrec : K (.record old.feed.feedGuid) = b) :
    (region legacy K).Local b (feedsCleanupBeforeDelete old) := by
  have hmem : ∀ g : String, Place.record g ∈ [Place.record g] := fun _ => List.mem_singleton.mpr rfl
  apply Region.Local.bind (deleteRecord_local (t := .feedPaymentRoutes) (fun _ => hmem _) hrec)
  intro _
  apply Region.Local.bind (deleteRecord_local (t := .feedListValueRaw) (fun _ => hmem _) hrec)
  intro _
  apply (deleteQuality_local _).bind
  intro _
  apply Region.Local.bind (deleteRecord_local (t := .feedRemoteItemsRaw) (fun _ => hmem _) hrec)
  intro _
  apply Region.Local.bind (deleteRecord_local (t := .liveEvents) (fun _ => hmem _) hrec)
  intro _
  exact (deleteSourceClaims_local hrec).bind fun _ => deleteTracksOfFeed_local hrec

theorem deleteFeed_local (hrec : K (.record feedGuid) = b) :
    (region legacy K).Local b (deleteFeeds fun r : FeedRow => r.feed.feedGuid == feedGuid) := by
  have hmem : ∀ g : String, Place.record g ∈ [Place.record g] := fun _ => List.mem_singleton.mpr rfl
  have hp : ∀ r, (region legacy K).Fits .feeds r → (r.feed.feedGuid == feedGuid) = true →
      (region legacy K).row .feeds r = b := by
    intro r hr hguid
    rw [beq_iff_eq] at hguid
    exact (row_eq hr (a := .record feedGuid) (by simp [Table.places, hguid])).trans hrec
  apply Region.Local.transaction
  apply Region.Local.read_bind fun olds : List FeedRow => ∀ old ∈ olds,
    K (.record old.feed.feedGuid) = b
  · rintro rfl d e h
    rw [← Region.filter_side (t := Table.feeds) h.left hp,
      ← Region.filter_side (t := Table.feeds) h.right hp, h.same]
  · intro d _ old hold
    rw [beq_iff_eq.mp (List.mem_filter.mp hold).2]
    exact hrec
  · intro olds holds
    apply (Region.Local.forEach fun old hold => feedsCleanupBeforeDelete_local (holds old hold)).bind
    intro _
    refine Region.Local.bind (Region.Local.forEach fun old hold => ?_) fun _ =>
      Region.Local.delete hp
    exact deleteRecord_local (t := .sourceGoneAnswers) (fun _ => hmem _) (holds old hold)

variable [Platform]

theorem deleteTrackSql_local (hrec : K (.record feedGuid) = b)
    (htrack : legacy trackGuid = true → K (.track trackGuid) = b) :
    (region legacy K).Local b (deleteTrackSql feedGuid trackGuid) := by
  apply (deleteFromSearchIndex_local _ _).bind
  intro _
  apply (deleteSplitsOf_local hrec).bind
  intro _
  apply (deletePaymentRoutesOf_local hrec).bind
  intro _
  apply (deleteQuality_local _).bind
  intro _
  apply (deleteTrackRemoteItemsOf_local hrec htrack).bind
  intro _
  apply deleteTracks_local
  intro r hr hp
  simp only [Bool.and_eq_true, beq_iff_eq] at hp
  exact (row_eq hr (a := .record feedGuid) (by simp [Table.places, hp.1])).trans hrec

theorem deleteFeedSql_local (hrec : K (.record feedGuid) = b) :
    (region legacy K).Local b (deleteFeedSql feedGuid) := by
  have hmem : ∀ g : String, Place.record g ∈ [Place.record g] := fun _ => List.mem_singleton.mpr rfl
  have hp : ∀ r, (region legacy K).Fits .tracks r → (r.feedGuid == feedGuid) = true →
      (region legacy K).row .tracks r = b := by
    intro r hr hguid
    rw [beq_iff_eq] at hguid
    exact (row_eq hr (a := .record feedGuid) (by simp [Table.places, hguid])).trans hrec
  apply Region.Local.read_bind fun trackGuids : List String => ∀ g ∈ trackGuids,
    legacy g = true → K (.track g) = b
  · rintro rfl d e h
    unfold getTracksForFeed
    rw [← Region.filter_side (t := Table.tracks) h.left hp,
      ← Region.filter_side (t := Table.tracks) h.right hp, h.same]
  · intro d hd g hg
    obtain ⟨r, hr, rfl⟩ := List.mem_map.mp hg
    obtain ⟨hmemr, hguid⟩ := List.mem_filter.mp hr
    exact (track_side (hd .tracks r hmemr) (hp r (hd .tracks r hmemr) hguid)).2
  intro trackGuids htracks
  apply (deleteFromSearchIndex_local _ _).bind
  intro _
  apply (deleteFromSearchIndex_local _ _).bind
  intro _
  apply (Region.Local.forEach fun _ _ => deleteFromSearchIndex_local _ _).bind
  intro _
  refine Region.Local.bind (local_delete (t := .valueTimeSplits) hrec ?_) fun _ => ?_
  · intro r _ hsplit
    rw [beq_iff_eq] at hsplit
    simp [Table.places, hsplit]
  refine Region.Local.bind (Region.Local.forEach fun g _ => ?_) fun _ => ?_
  · apply local_delete (t := .valueTimeSplits) hrec
    intro r hwell hsplit
    simp only [Bool.and_eq_true, beq_iff_eq] at hsplit
    simp only [Table.wellPlaced, hsplit.2] at hwell
    cases hwell
  refine Region.Local.bind (local_delete (t := .paymentRoutes) hrec ?_) fun _ => ?_
  · intro r _ hroute
    rw [beq_iff_eq] at hroute
    simp [Table.places, hroute]
  refine Region.Local.bind (local_delete (t := .trackRemoteItemsRaw) hrec ?_) fun _ => ?_
  · intro r _ hitem
    rw [beq_iff_eq] at hitem
    simp [Table.places, hitem]
  refine Region.Local.bind (Region.Local.forEach fun g hg => ?_) fun _ => ?_
  · apply Region.Local.delete
    intro r hr hitem
    simp only [Bool.and_eq_true, beq_iff_eq] at hitem
    apply isTrackRemoteItemOf_row hrec (htracks g hg) hr
    simp [isTrackRemoteItemOf, hitem.1, hitem.2]
  apply Region.Local.bind (deleteRecord_local (t := .feedPaymentRoutes) (fun _ => hmem _) hrec)
  intro _
  apply (Region.Local.forEach fun _ _ => deleteQuality_local _).bind
  intro _
  apply (deleteQuality_local _).bind
  intro _
  apply Region.Local.bind (deleteRecord_local (t := .feedRemoteItemsRaw) (fun _ => hmem _) hrec)
  intro _
  apply Region.Local.bind (deleteRecord_local (t := .liveEvents) (fun _ => hmem _) hrec)
  intro _
  apply (deleteSourceClaims_local hrec).bind
  intro _
  apply Region.Local.bind (deleteRecord_local (t := .feedCopies)
    (fun _ => List.mem_cons_self) hrec)
  intro _
  apply Region.Local.bind (deleteRecord_local (t := .feedCopyOverflow) (fun _ => hmem _) hrec)
  intro _
  apply Region.Local.bind (deleteRecord_local (t := .feedLeftUrls) (fun _ => hmem _) hrec)
  intro _
  apply Region.Local.bind (deleteRecord_local (t := .feedMoveState) (fun _ => hmem _) hrec)
  intro _
  exact (deleteTracksOfFeed_local hrec).bind fun _ => deleteFeed_local hrec

end Deletes

end Stophammer
