import Stophammer.Relational.Apart
import Stophammer.Batch
import Stophammer.Sample

/-!
# Redeliveries

Delivery is at least once.  An event that the replica holds is skipped, so a run without
its redelivery ends with the same log and the same tables: only the cursor can differ,
and no statement of an event reads the cursor.
-/

namespace Stophammer

open Relational Statement

instance : Apart (S := schema) Table.nodeSyncState where
  leaf := leaf_of_ne (by decide) (by decide)
  refs_nil _ := rfl

/-- The statement neither reads nor writes a cursor. -/
abbrev IgnoresCursor {α : Type} (x : Stmt α) : Prop := Ignores (S := schema) Table.nodeSyncState x

/-- The databases are one, the cursors apart. -/
abbrev SameReplica (d e : Db) : Prop := AgreeOff (S := schema) Table.nodeSyncState d e

theorem read_ignores {α : Type} {g : Db → α} (hg : ∀ d e, SameReplica d e → g d = g e) :
    IgnoresCursor (read g) := Respects.read hg

theorem getFeedByGuid_sameReplica {d e : Db} (h : SameReplica d e) (feedGuid : String) :
    getFeedByGuid d feedGuid = getFeedByGuid e feedGuid := by
  unfold getFeedByGuid
  rw [h .feeds (by decide)]

theorem getTrackForFeed_sameReplica {d e : Db} (h : SameReplica d e)
    (feedGuid trackGuid : String) :
    getTrackForFeed d feedGuid trackGuid = getTrackForFeed e feedGuid trackGuid := by
  unfold getTrackForFeed
  rw [h .tracks (by decide)]

theorem getTracksForFeed_sameReplica {d e : Db} (h : SameReplica d e) (feedGuid : String) :
    getTracksForFeed d feedGuid = getTracksForFeed e feedGuid := by
  unfold getTracksForFeed
  rw [h .tracks (by decide)]

theorem replaceValueTimeSplits_ignores {feedGuid trackGuid : String}
    {splits : List ValueTimeSplit} :
    IgnoresCursor (replaceValueTimeSplitsForFeedTrack feedGuid trackGuid splits) := by
  apply (Ignores.delete (by decide)).bind
  intro _
  apply Respects.forEach
  intro s _
  apply (Ignores.insert (by decide)).bind
  intro _
  exact Respects.forEach fun _ _ => Ignores.updateLast (by decide)

theorem deleteTracks_ignores {p : Track → Bool} : IgnoresCursor (deleteTracks p) := by
  have hread : IgnoresCursor (read fun d : Db => (d .tracks).filter p) :=
    read_ignores fun _ _ h => congrArg (List.filter p) (h .tracks (by decide))
  apply Respects.transaction
  apply hread.bind
  intro olds
  refine (Respects.forEach fun old _ => ?_).bind fun _ => Ignores.delete (by decide)
  iterate 3
    apply (Ignores.delete (by decide)).bind
    intro _
  exact Ignores.delete (by decide)

theorem deleteSourceClaims_ignores {feedGuid : String} :
    IgnoresCursor (deleteSourceClaims feedGuid) := by
  iterate 6
    apply (Ignores.delete (by decide)).bind
    intro _
  exact Ignores.delete (by decide)

theorem deleteFeeds_ignores {p : FeedRow → Bool} : IgnoresCursor (deleteFeeds p) := by
  have hread : IgnoresCursor (read fun d : Db => (d .feeds).filter p) :=
    read_ignores fun _ _ h => congrArg (List.filter p) (h .feeds (by decide))
  apply Respects.transaction
  apply hread.bind
  intro olds
  have hcleanup : ∀ old, IgnoresCursor (feedsCleanupBeforeDelete old) := by
    intro old
    iterate 5
      apply (Ignores.delete (by decide)).bind
      intro _
    exact deleteSourceClaims_ignores.bind fun _ => deleteTracks_ignores
  apply (Respects.forEach fun old _ => hcleanup old).bind
  intro _
  apply (Respects.forEach fun _ _ => Ignores.delete (by decide)).bind
  intro _
  exact Ignores.delete (by decide)

theorem storeQuality_ignores {entityType entityId : String} {score : Int} :
    IgnoresCursor (storeQuality entityType entityId score) := Ignores.upsert (by decide)

theorem insertEventIdempotent_ignores [Platform] (ev : Event) :
    IgnoresCursor (insertEventIdempotent ev) := by
  have hseq : ∀ d e : Db, SameReplica d e → nextSeq d = nextSeq e := by
    intro d e h
    unfold nextSeq
    rw [h .events (by decide)]
  apply (Respects.read hseq).bind
  intro seq
  apply Respects.ite (Respects.fail _)
  apply (Ignores.insertOrIgnore (by decide)).bind
  intro fresh
  exact Respects.ite (Respects.pure _) (Respects.pure _)

section

variable [Platform]

omit [Platform] in
theorem searchEntityAt_ignores (rowid : Int) : IgnoresCursor (read (searchEntityAt · rowid)) := by
  apply read_ignores
  intro d e h
  unfold searchEntityAt
  rw [h .searchEntities (by decide)]

theorem deleteFromSearchIndex_ignores {entityType entityId : String} :
    IgnoresCursor (deleteFromSearchIndex entityType entityId) := by
  apply (searchEntityAt_ignores _).bind
  intro existing
  cases existing with
  | none => exact (Respects.pure ()).bind fun _ => Ignores.delete (by decide)
  | some _ => exact (Ignores.delete (by decide)).bind fun _ => Ignores.delete (by decide)

theorem syncSearchEntity_ignores {keep : Bool}
    {entityType entityId name title description : String} :
    IgnoresCursor (syncSearchEntity keep entityType entityId name title description) := by
  have hrow : ∀ rowid, IgnoresCursor
      (populateSearchIndex.writeRow entityType entityId name title description rowid) := by
    intro rowid
    exact (Ignores.insert (by decide)).bind fun _ => Ignores.insertOrReplace (by decide)
  have hpopulate : IgnoresCursor
      (populateSearchIndex entityType entityId name title description) := by
    apply (searchEntityAt_ignores _).bind
    intro existing
    cases existing with
    | none => exact hrow _
    | some existing =>
      exact Respects.ite (Respects.pure ()) ((Ignores.delete (by decide)).bind fun _ => hrow _)
  exact Respects.ite hpopulate deleteFromSearchIndex_ignores

theorem syncTrackReadModels_ignores {isMusic : Bool} {track : Track} :
    IgnoresCursor (syncTrackReadModels isMusic track) := by
  have hquality : IgnoresCursor
      (read (computeTrackQualityForFeedTrack · track.feedGuid track.trackGuid)) := by
    apply read_ignores
    intro d e h
    unfold computeTrackQualityForFeedTrack
    rw [getTrackForFeed_sameReplica h, getFeedByGuid_sameReplica h, h .paymentRoutes (by decide),
      h .valueTimeSplits (by decide)]
  apply syncSearchEntity_ignores.bind
  intro _
  exact hquality.bind fun _ => storeQuality_ignores

theorem syncSourceReadModelsForFeed_ignores {feedGuid : String} :
    IgnoresCursor (syncSourceReadModelsForFeed feedGuid) := by
  have hquality : ∀ guid, IgnoresCursor (read (computeFeedQuality · guid)) := by
    intro guid
    apply read_ignores
    intro d e h
    unfold computeFeedQuality
    rw [getFeedByGuid_sameReplica h, h .tracks (by decide), h .feedPaymentRoutes (by decide),
      h .paymentRoutes (by decide)]
  have hfeed : IgnoresCursor (read (getFeedByGuid · feedGuid)) :=
    read_ignores fun _ _ h => getFeedByGuid_sameReplica h feedGuid
  have htracks : IgnoresCursor (read (getTracksForFeed · feedGuid)) :=
    read_ignores fun _ _ h => getTracksForFeed_sameReplica h feedGuid
  apply hfeed.bind
  intro feed
  cases feed with
  | none => exact Respects.pure ()
  | some feed =>
    apply syncSearchEntity_ignores.bind
    intro _
    apply syncSearchEntity_ignores.bind
    intro _
    apply (hquality _).bind
    intro _
    apply storeQuality_ignores.bind
    intro _
    exact htracks.bind fun _ => Respects.forEach fun _ _ => syncTrackReadModels_ignores

theorem insertFeedBlock_ignores {block : FeedBlock} : IgnoresCursor (insertFeedBlock block) := by
  apply (Ignores.insertOrIgnore (by decide)).bind
  intro changed
  by_cases h : (changed && block.kind == .url) = true
  · rw [if_pos h]
    exact (Ignores.delete (by decide)).bind fun _ => Respects.pure changed
  · rw [if_neg h]
    exact (Respects.pure ()).bind fun _ => Respects.pure changed

theorem deleteTrackSql_ignores {feedGuid trackGuid : String} :
    IgnoresCursor (deleteTrackSql feedGuid trackGuid) := by
  apply deleteFromSearchIndex_ignores.bind
  intro _
  iterate 4
    apply (Ignores.delete (by decide)).bind
    intro _
  exact deleteTracks_ignores

theorem deleteFeedSql_ignores {feedGuid : String} : IgnoresCursor (deleteFeedSql feedGuid) := by
  have heach : ∀ {u : Table} (hu : u ≠ .nodeSyncState) (p : String → u.Row → Bool)
      (guids : List String),
      IgnoresCursor (forEach (fun g => (delete (S := schema) u (p g) : Stmt Unit)) guids) :=
    fun hu _ _ => Respects.forEach fun _ _ => Ignores.delete hu
  have hsearch : ∀ guids : List String, IgnoresCursor (forEach (fun t =>
      deleteFromSearchIndex "track" (canonicalTrackEntityId feedGuid t)) guids) :=
    fun _ => Respects.forEach fun _ _ => deleteFromSearchIndex_ignores
  have htracks : IgnoresCursor
      (read fun d => (getTracksForFeed d feedGuid).map Track.trackGuid) :=
    read_ignores fun _ _ h => congrArg _ (getTracksForFeed_sameReplica h feedGuid)
  apply htracks.bind
  intro trackGuids
  apply deleteFromSearchIndex_ignores.bind
  intro _
  apply deleteFromSearchIndex_ignores.bind
  intro _
  apply (hsearch _).bind
  intro _
  apply (Ignores.delete (by decide)).bind
  intro _
  apply (heach (by decide) _ _).bind
  intro _
  iterate 2
    apply (Ignores.delete (by decide)).bind
    intro _
  apply (heach (by decide) _ _).bind
  intro _
  apply (Ignores.delete (by decide)).bind
  intro _
  apply (heach (by decide) _ _).bind
  intro _
  iterate 3
    apply (Ignores.delete (by decide)).bind
    intro _
  apply deleteSourceClaims_ignores.bind
  intro _
  iterate 4
    apply (Ignores.delete (by decide)).bind
    intro _
  exact deleteTracks_ignores.bind fun _ => deleteFeeds_ignores

theorem applyPayload_ignores (createdAt : Int) (payload : EventPayload) :
    IgnoresCursor (applyPayload createdAt payload) := by
  cases payload with
  | artistUpserted _ | artistCreditCreated _ => exact Respects.pure ()
  | feedUpserted p =>
    exact (Ignores.upsert (by decide)).bind fun _ => syncSourceReadModelsForFeed_ignores
  | trackUpserted p =>
    apply (Ignores.upsert (by decide)).bind
    intro _
    apply (Ignores.replaceRows (by decide)).bind
    intro _
    exact replaceValueTimeSplits_ignores.bind fun _ => syncSourceReadModelsForFeed_ignores
  | routesReplaced p =>
    rcases p with ⟨_, _ | _, _⟩
    · exact Ignores.replaceRows (by decide)
    · exact Ignores.replaceRows (by decide)
  | trackRemoteItemsReplaced p =>
    rcases p with ⟨_, _ | _, _⟩
    · exact Ignores.replaceRows (by decide)
    · exact Ignores.replaceRows (by decide)
  | feedUrlObserved p | feedCopyObserved p => exact Ignores.upsert (by decide)
  | feedBlocked p => exact insertFeedBlock_ignores.bind fun _ => Respects.pure ()
  | feedUnblocked p => exact Ignores.delete (by decide)
  | feedCopyResolved p | feedGuidChangeDecided p => exact Ignores.update (by decide)
  | feedGuidChangeObserved p =>
    exact Respects.ite (Ignores.delete (by decide)) (Ignores.upsert (by decide))
  | feedGuidSuperseded p =>
    exact (Ignores.insertOrIgnore (by decide)).bind fun _ => Respects.pure ()
  | feedRetired p =>
    have hfeed : IgnoresCursor (read (getFeedByGuid · p.feedGuid)) :=
      read_ignores fun _ _ h => getFeedByGuid_sameReplica h p.feedGuid
    apply hfeed.bind
    intro feed
    exact Respects.ite deleteFeedSql_ignores (Respects.pure ())
  | trackRemoved p =>
    have htrack : IgnoresCursor (read (getTrackForFeed · p.feedGuid p.trackGuid)) :=
      read_ignores fun _ _ h => getTrackForFeed_sameReplica h p.feedGuid p.trackGuid
    apply htrack.bind
    intro track
    exact Respects.ite deleteTrackSql_ignores (Respects.pure ())
  | _ => exact Ignores.replaceRows (by decide)

theorem applySingleEventInner_ignores (ev : Event) : IgnoresCursor (applySingleEventInner ev) := by
  apply (insertEventIdempotent_ignores ev).bind
  intro seq
  cases seq with
  | none => exact Respects.pure _
  | some seq =>
    have hdecode : IgnoresCursor (liftDecode (deserializeVerifiedPayload ev)) := by
      cases deserializeVerifiedPayload ev with
      | none => exact Respects.fail _
      | some payload => exact Respects.pure payload
    apply hdecode.bind
    intro payload
    exact (applyPayload_ignores ev.createdAt payload).bind fun _ => Respects.pure _

theorem applyEach_sameReplica (events : List Event) {d e : Db} (h : SameReplica d e) :
    SameReplica (applyEach events d) (applyEach events e) := by
  induction events generalizing d e with
  | nil => exact h
  | cons ev events ih => exact ih (applySingleEventInner_ignores ev d e h).2

theorem committed_sameReplica (events : List Event) (d : Db) :
    SameReplica (committed events d) (applyEach events d) :=
  fun _ ht => withBatchCursor_other _ _ ht

theorem applySingleEvent_db (ev : Event) (d : Db) :
    SameReplica (applySingleEvent ev d).2
      (if (applySingleEventInner ev d).1.isOk then applyOne ev d else d) := by
  have hcursor : ∀ e : Db, SameReplica (upsertNodeSyncState syncCursorKey ev.seq e).2 e :=
    fun e t ht => upsertNodeSyncState_writes t (by simpa using ht) e
  have hone : applyOne ev d = (applySingleEventInner ev d).2 := rfl
  rw [hone]
  unfold applySingleEvent transaction
  rw [bind_run]
  rcases hrun : applySingleEventInner ev d with ⟨err | outcome, d'⟩
  · intro t _
    rfl
  · cases outcome with
    | duplicate =>
      intro t _
      rfl
    | applied seq =>
      obtain ⟨e, hupsert⟩ := upsertNodeSyncState_ok d' syncCursorKey ev.seq
      have hleft := hcursor d'
      simp only [bind_run, hupsert] at hleft ⊢
      exact hleft

/-- One call of `apply_events` or of `apply_single_event`.  `commits` is false where its
transaction does not begin or does not commit. -/
inductive Delivery where
  | batch (commits : Bool) (events : List Event)
  | single (commits : Bool) (ev : Event)

def Delivery.apply : Delivery → Db → Db
  | .batch commits events, d => (applyEvents commits events d).2
  | .single commits ev, d => if commits then (applySingleEvent ev d).2 else d

def deliverAll (deliveries : List Delivery) (d : Db) : Db :=
  deliveries.foldl (fun d x => x.apply d) d

theorem deliverAll_append (xs ys : List Delivery) (d : Db) :
    deliverAll (xs ++ ys) d = deliverAll ys (deliverAll xs d) := List.foldl_append ..

theorem Delivery.apply_sameReplica (x : Delivery) {d e : Db} (h : SameReplica d e) :
    SameReplica (x.apply d) (x.apply e) := by
  cases x with
  | batch commits events =>
    unfold Delivery.apply
    simp only [applyEvents_db]
    split
    · intro t ht
      rw [committed_sameReplica _ _ t ht, committed_sameReplica _ _ t ht]
      exact applyEach_sameReplica _ h t ht
    · exact h
  | single commits ev =>
    unfold Delivery.apply
    cases commits with
    | false => exact h
    | true =>
      obtain ⟨hres, hst⟩ := applySingleEventInner_ignores ev d e h
      intro t ht
      simp only [if_true]
      rw [applySingleEvent_db ev d t ht, applySingleEvent_db ev e t ht, hres]
      split
      · exact hst t ht
      · exact h t ht

theorem deliverAll_sameReplica (deliveries : List Delivery) {d e : Db} (h : SameReplica d e) :
    SameReplica (deliverAll deliveries d) (deliverAll deliveries e) := by
  induction deliveries generalizing d e with
  | nil => exact h
  | cons x deliveries ih => exact ih (x.apply_sameReplica h)

/-- Every row of the log holds a payload of its type. -/
def LogDecodes (d : Db) : Prop :=
  ∀ r ∈ d .events, (Platform.decodePayload r.eventType r.payloadJson).isSome

theorem LogDecodes.empty : LogDecodes (Database.empty schema) := by
  intro r hr
  cases hr

theorem LogDecodes.applyEach {events : List Event} {d : Db} (h : LogDecodes d)
    (hdec : ∀ ev ∈ events, Decodes ev) : LogDecodes (applyEach events d) := by
  intro r hr
  rcases mem_applyEach hr with hr | ⟨ev, hev, heq⟩
  · exact h r hr
  · rw [heq]
    exact hdec ev hev

theorem LogDecodes.of_sameReplica {d e : Db} (h : SameReplica d e) (he : LogDecodes e) :
    LogDecodes d := by
  intro r hr
  rw [h .events (by decide)] at hr
  exact he r hr

theorem LogDecodes.apply {d : Db} (h : LogDecodes d) (x : Delivery) : LogDecodes (x.apply d) := by
  cases x with
  | batch commits events =>
    change LogDecodes (applyEvents commits events d).2
    rw [applyEvents_db]
    split
    · rename_i hcommits
      exact LogDecodes.of_sameReplica (committed_sameReplica _ _) (h.applyEach hcommits.2)
    · exact h
  | single commits ev =>
    unfold Delivery.apply
    cases commits with
    | false => exact h
    | true =>
      apply LogDecodes.of_sameReplica (applySingleEvent_db ev d)
      split
      · rename_i hok
        cases hnew : isNew d ev with
        | false =>
          rw [applyOne_old hnew]
          exact h
        | true =>
          have hdec : Decodes ev := by
            cases hpayload : deserializeVerifiedPayload ev with
            | some payload => exact Option.isSome_iff_exists.mpr ⟨payload, hpayload⟩
            | none =>
              rw [applySingleEventInner_new hnew, hpayload] at hok
              cases hok
          exact h.applyEach (by simpa using hdec : ∀ e ∈ [ev], Decodes e)
      · exact h

theorem LogDecodes.deliverAll {d : Db} (h : LogDecodes d) (deliveries : List Delivery) :
    LogDecodes (deliverAll deliveries d) := by
  induction deliveries generalizing d with
  | nil => exact h
  | cons x deliveries ih => exact ih (h.apply x)

/-- The log has the event, under the seq of this node. -/
def Held (ev : Event) (d : Db) : Prop := ∃ r ∈ d .events, r = storedEvent r.seq ev

omit [Platform] in
theorem Held.hasEvent {ev : Event} {d : Db} (h : Held ev d) : hasEvent d ev.eventId = true := by
  obtain ⟨r, hr, heq⟩ := h
  apply List.any_eq_true.mpr
  refine ⟨r, hr, ?_⟩
  rw [heq]
  exact beq_self_eq_true _

/-- The delivery `x` to `d`, and the same without an event that is held at that point. -/
inductive Drops (ev : Event) (d : Db) : Delivery → List Delivery → Prop where
  | batch {commits : Bool} {pre post : List Event} (h : Held ev (applyEach (verifiedOf pre) d)) :
    Drops ev d (.batch commits (pre ++ ev :: post)) [.batch commits (pre ++ post)]
  | single {commits : Bool} (h : Held ev d) : Drops ev d (.single commits ev) []

theorem Held.decodes {ev : Event} {events : List Event} {d : Db} (hd : LogDecodes d)
    (h : Held ev (applyEach events d)) (hdec : ∀ e ∈ events, Decodes e) : Decodes ev := by
  obtain ⟨r, hr, heq⟩ := h
  have hrow := hd.applyEach hdec r hr
  rw [heq] at hrow
  exact hrow

theorem Drops.sameReplica {ev : Event} {d : Db} {x : Delivery} {xs : List Delivery}
    (h : Drops ev d x xs) (hd : LogDecodes d) : SameReplica (x.apply d) (deliverAll xs d) := by
  cases h with
  | @batch commits pre post hheld =>
    change SameReplica (applyEvents commits (pre ++ ev :: post) d).2
      (applyEvents commits (pre ++ post) d).2
    have hwithout : verifiedOf (pre ++ post) = verifiedOf pre ++ verifiedOf post :=
      List.filter_append ..
    by_cases hver : verifyEventSignature ev = true
    · have hwith : verifiedOf (pre ++ ev :: post) = verifiedOf pre ++ ev :: verifiedOf post := by
        unfold verifiedOf
        rw [List.filter_append, List.filter_cons_of_pos hver]
      have hcommits : Commits commits (pre ++ ev :: post) ↔ Commits commits (pre ++ post) := by
        unfold Commits
        rw [hwith, hwithout]
        refine and_congr_right fun _ => ⟨fun hdec e he => ?_, fun hdec e he => ?_⟩
        · apply hdec e
          rcases List.mem_append.mp he with he | he <;> simp [he]
        · rcases List.mem_append.mp he with he | he
          · exact hdec e (List.mem_append_left _ he)
          · rcases List.mem_cons.mp he with rfl | he
            · exact hheld.decodes hd fun e' he' => hdec e' (List.mem_append_left _ he')
            · exact hdec e (List.mem_append_right _ he)
      rw [applyEvents_db, applyEvents_db, hwith, hwithout]
      by_cases hc : Commits commits (pre ++ post)
      · rw [if_pos hc, if_pos (hcommits.mpr hc)]
        intro t ht
        rw [committed_sameReplica _ _ t ht, committed_sameReplica _ _ t ht, applyEach_append,
          applyEach_append]
        change applyEach (verifiedOf post) (applyOne ev (applyEach (verifiedOf pre) d)) t = _
        rw [applyOne_seen hheld.hasEvent]
      · rw [if_neg hc, if_neg fun h => hc (hcommits.mp h)]
        exact fun _ _ => rfl
    · have hwith : verifiedOf (pre ++ ev :: post) = verifiedOf (pre ++ post) := by
        unfold verifiedOf
        rw [List.filter_append, List.filter_cons_of_neg hver, List.filter_append]
      have hcommits : Commits commits (pre ++ ev :: post) ↔ Commits commits (pre ++ post) := by
        unfold Commits
        rw [hwith]
      rw [applyEvents_db, applyEvents_db, hwith, if_congr hcommits rfl rfl]
      exact fun _ _ => rfl
  | @single commits hheld =>
    unfold Delivery.apply
    cases commits with
    | false => exact fun _ _ => rfl
    | true =>
      intro t ht
      simp only [if_true]
      rw [applySingleEvent_db ev d t ht, applyOne_seen hheld.hasEvent, ite_self]
      rfl

/-- A redelivery changes nothing but the cursor, to the end of the run. -/
theorem redelivery_dropped {earlier later : List Delivery} {ev : Event} {x : Delivery}
    {xs : List Delivery} (h : Drops ev (deliverAll earlier (Database.empty schema)) x xs) :
    ∀ t, t ≠ Table.nodeSyncState →
      deliverAll (earlier ++ x :: later) (Database.empty schema) t =
        deliverAll (earlier ++ xs ++ later) (Database.empty schema) t := by
  have hnow := h.sameReplica (LogDecodes.empty.deliverAll earlier)
  rw [deliverAll_append, deliverAll_append, deliverAll_append]
  exact deliverAll_sameReplica later hnow

end

section Sample

attribute [local instance] samplePlatform

/-- A page with one event twice, then the event alone. -/
theorem observedFirst_redelivered :
    deliverAll ([.batch true [observedFirst]] ++
        .batch true ([observedSecond] ++ observedFirst :: []) :: [.single true observedFirst])
        (Database.empty schema) .events =
      deliverAll ([.batch true [observedFirst]] ++ [.batch true ([observedSecond] ++ [])] ++
        [.single true observedFirst]) (Database.empty schema) .events := by
  have hdropped : Drops observedFirst
      (deliverAll [.batch true [observedFirst]] (Database.empty schema))
      (.batch true ([observedSecond] ++ observedFirst :: []))
      [.batch true ([observedSecond] ++ [])] := by
    apply Drops.batch
    exact ⟨storedEvent 1 observedFirst, by decide +kernel, rfl⟩
  exact redelivery_dropped hdropped .events (by decide)

end Sample

end Stophammer
