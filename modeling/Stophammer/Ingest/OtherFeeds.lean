import Stophammer.Db.FeedRows
import Stophammer.Ingest.Outcome

/-!
# The other feeds of a content

The ingest transaction of one feed leaves the rows of every other feed.
-/

namespace Stophammer

open Relational Statement

variable {guid feedGuid : String}

section Statements

variable (hne : guid ≠ feedGuid)

include hne

theorem sameFeed_replaceRows {t : Table} {p : t.Row → Bool} {rows : List t.Row}
    (hp : ∀ r, p r = true → t.feedOf r = some feedGuid ∨ t.feedOf r = none)
    (hrows : ∀ r ∈ rows, t.feedOf r = some feedGuid) :
    Steps (SameFeed guid) (replaceRows (S := schema) t p rows) :=
  SameRows.replaceRows (fun r hr => ofFeed_of_feedOf hne (hp r hr)) fun r hr =>
    ofFeed_of_feedOf hne (.inl (hrows r hr))

theorem sameFeed_replaceOf {t : Table} {column : t.Row → String} {rows : List t.Row}
    (hcolumn : ∀ r, t.feedOf r = some (column r)) (hrows : ∀ r ∈ rows, column r = feedGuid) :
    Steps (SameFeed guid) (replaceRows (S := schema) t (fun r => column r == feedGuid) rows) :=
  sameFeed_replaceRows hne (fun r hr => .inl (by rw [hcolumn, beq_iff_eq.mp hr])) fun r hr => by
    rw [hcolumn, hrows r hr]

theorem sameFeed_replaceClaims {t : Table} {column : t.Row → String} {κ : Type} [DecidableEq κ]
    {key : t.Row → κ} {claims : List t.Row} (hcolumn : ∀ r, t.feedOf r = some (column r))
    (hclaims : ∀ r ∈ claims, column r = feedGuid) :
    Steps (SameFeed guid) (replaceRows (S := schema) t (fun r => column r == feedGuid)
      (dedupeBy key [] claims)) :=
  sameFeed_replaceOf hne hcolumn fun r hr => hclaims r (mem_of_mem_dedupeBy hr)

theorem sameFeed_replaceMapped {t : Table} {column : t.Row → String} {α : Type} {f : α → t.Row}
    {items : List α} (hcolumn : ∀ r, t.feedOf r = some (column r))
    (hitems : ∀ a ∈ items, column (f a) = feedGuid) :
    Steps (SameFeed guid) (replaceRows (S := schema) t (fun r => column r == feedGuid)
      (items.map f)) := by
  apply sameFeed_replaceOf hne hcolumn
  intro r hr
  obtain ⟨a, ha, rfl⟩ := List.mem_map.mp hr
  exact hitems a ha

theorem sameFeed_upsert {t : Table} {p : t.Row → Bool} {r : t.Row} {f : t.Row → t.Row}
    (hr : t.feedOf r = some feedGuid)
    (hp : ∀ r, p r = true → t.feedOf r = some feedGuid ∧ t.feedOf (f r) = some feedGuid) :
    Steps (SameFeed guid) (upsert (S := schema) t p r f) :=
  SameRows.upsert (ofFeed_of_feedOf hne (.inl hr)) fun r hpr =>
    ⟨ofFeed_of_feedOf hne (.inl (hp r hpr).1), ofFeed_of_feedOf hne (.inl (hp r hpr).2)⟩

end Statements

theorem replaceFeedSets_sameFeed {c : IngestContent} (hne : guid ≠ c.feed.feedGuid)
    (h : c.OfFeed) : Steps (SameFeed guid) (replaceFeedSets c) := by
  apply (sameFeed_replaceMapped hne (fun _ => rfl) h.feedRoutes).bind
  intro _
  apply (sameFeed_replaceOf hne (fun _ => rfl) h.remoteItems).bind
  intro _
  apply (sameFeed_replaceMapped hne (fun _ => rfl) h.feedListValues).bind
  intro _
  apply (sameFeed_replaceClaims hne (fun _ => rfl) h.liveEvents).bind
  intro _
  apply (sameFeed_replaceClaims hne (fun _ => rfl) fun r hr => (h.contributorClaims r hr).1).bind
  intro _
  apply (sameFeed_replaceClaims hne (fun _ => rfl) fun r hr => (h.entityIds r hr).1).bind
  intro _
  apply (sameFeed_replaceClaims hne (fun _ => rfl) fun r hr => (h.entityLinks r hr).1).bind
  intro _
  apply (sameFeed_replaceClaims hne (fun _ => rfl) fun r hr => (h.releaseClaims r hr).1).bind
  intro _
  apply (sameFeed_replaceClaims hne (fun _ => rfl) fun r hr => (h.itemEnclosures r hr).1).bind
  intro _
  apply (sameFeed_replaceClaims hne (fun _ => rfl) fun r hr => (h.itemTranscripts r hr).1).bind
  intro _
  exact sameFeed_replaceOf hne (fun _ => rfl) h.platformClaims

theorem replaceValueTimeSplits_sameFeed {trackGuid : String} {splits : List ValueTimeSplit}
    (hne : guid ≠ feedGuid) (h : ∀ s ∈ splits, s.sourceFeedGuid = feedGuid) :
    Steps (SameFeed guid) (replaceValueTimeSplitsForFeedTrack feedGuid trackGuid splits) := by
  apply (deleteSplitsOf_sameFeed hne).bind
  intro _
  apply Steps.forEach
  intro s hs
  have hguid : (if s.sourceFeedGuid.isEmpty then feedGuid else s.sourceFeedGuid) = feedGuid := by
    rw [h s hs, ite_self]
  rw [hguid]
  have hnew : ofFeed guid .valueTimeSplits (valueTimeSplitRow feedGuid trackGuid s) = false :=
    ofFeed_of_feedOf (t := .valueTimeSplits) hne (.inl rfl)
  have hkeeps : ∀ recipient r, ofFeed guid .valueTimeSplits r = false →
      ofFeed guid .valueTimeSplits (addRecipient recipient r) = false := fun _ _ hr => hr
  exact SameRows.insert_updateLast (S := schema) (t := .valueTimeSplits) hkeeps hnew

theorem writeTrack_sameFeed {t : TrackIngestBundle} (hne : guid ≠ feedGuid) (h : t.OfFeed feedGuid) :
    Steps (SameFeed guid) (writeTrack t) := by
  unfold writeTrack
  rw [h.track]
  have htrack : Steps (SameFeed guid) (upsertTrack t.track) := by
    apply sameFeed_upsert (t := .tracks) hne (congrArg some h.track)
    intro r hr
    simp only [Bool.and_eq_true, beq_iff_eq] at hr
    exact ⟨congrArg some (hr.1.trans h.track), congrArg some h.track⟩
  apply htrack.bind
  intro _
  refine Steps.bind (sameFeed_replaceRows hne ?_ ?_) fun _ => ?_
  · intro r hr
    simp only [Bool.and_eq_true, beq_iff_eq] at hr
    exact .inl (congrArg some hr.1)
  · intro r hr
    obtain ⟨_, -, rfl⟩ := List.mem_map.mp hr
    rfl
  apply (replaceValueTimeSplits_sameFeed hne h.splits).bind
  intro _
  apply sameFeed_replaceRows hne
  · intro r hr
    simp only [isTrackRemoteItemOf, Bool.and_eq_true, Bool.or_eq_true, beq_iff_eq] at hr
    exact hr.2
  · intro r hr
    obtain ⟨item, hitem, rfl⟩ := List.mem_map.mp hr
    rw [h.remoteItems item hitem, ite_self]
    rfl

section

variable [Platform]

theorem writeFeed_sameFeed {feed : Feed} (hne : guid ≠ feed.feedGuid) :
    Steps (SameFeed guid) (writeFeed feed) := by
  have hfeed : Steps (SameFeed guid) (upsertFeed feed) := by
    apply sameFeed_upsert hne rfl
    intro r hr
    exact ⟨congrArg some (beq_iff_eq.mp hr), rfl⟩
  apply hfeed.bind
  intro _
  apply (sameFeed_deleteOf hne fun _ => rfl).bind
  intro _
  exact sameFeed_of_writes (w := [.retiredSourceHolds]) (Writes.delete (by decide))
    fun t ht r => by
      cases List.mem_singleton.mp ht
      rfl

theorem removeStaleTrack_sameFeed {trackGuid : String} (hne : guid ≠ feedGuid) :
    Steps (SameFeed guid) (removeStaleTrack feedGuid trackGuid) := by
  apply Steps.read_then
  intro track
  cases track with
  | none => exact .pure _
  | some _ => exact deleteTrackSql_sameFeed hne

omit [Platform] in
theorem writeFeedMove_sameFeed {mv : FeedMoveWrite} (hne : guid ≠ feedGuid) :
    Steps (SameFeed guid) (writeFeedMove feedGuid mv) := by
  have hadd : Steps (SameFeed guid) (addLeftUrl feedGuid mv.oldUrl) :=
    (SameRows.insertOrIgnore (ofFeed_of_feedOf hne (.inl rfl))).bind fun _ => .pure _
  apply hadd.bind
  intro _
  refine Steps.bind (sameFeed_delete hne fun r hr => ?_) fun _ => ?_
  · simp only [Bool.and_eq_true, beq_iff_eq] at hr
    exact .inl (congrArg some hr.1)
  refine Steps.bind (sameFeed_upsert hne rfl fun r hr => ?_) fun _ => ?_
  · exact ⟨congrArg some (beq_iff_eq.mp hr), congrArg some (beq_iff_eq.mp hr)⟩
  cases mv.returnValues with
  | none => exact .pure _
  | some values =>
    apply SameRows.update
    intro r hr
    have hr' : r.feedGuid = feedGuid := beq_iff_eq.mp hr
    exact ⟨ofFeed_of_feedOf hne (.inl (congrArg some hr')),
      ofFeed_of_feedOf hne (.inl (congrArg some hr'))⟩

theorem ingestTransaction_sameFeed {env : PrimaryEnv} {removalUuid : Nat → String}
    {c : IngestContent} {eventRows : List EventRow} {feedMove : Option FeedMoveWrite}
    (hne : guid ≠ c.feed.feedGuid) (h : c.OfFeed)
    (htracks : ∀ t ∈ c.tracks, t.OfFeed c.feed.feedGuid) :
    Steps (SameFeed guid) (ingestTransaction env removalUuid c eventRows feedMove) := by
  apply Steps.transaction
  apply (writeFeed_sameFeed hne).bind
  intro _
  apply (replaceFeedSets_sameFeed hne h).bind
  intro _
  apply Steps.read_then
  intro staleGuids
  apply (Steps.forEach fun t ht => writeTrack_sameFeed hne (htracks t ht)).bind
  intro _
  apply (Steps.forEach fun _ _ => removeStaleTrack_sameFeed hne).bind
  intro _
  refine Steps.bind (sameFeed_of_writes insertEvents_writes fun t ht r => ?_) fun seqs => ?_
  · cases List.mem_singleton.mp ht
    rfl
  apply (sameFeed_of_writes syncSourceReadModelsForFeed_writes readModels_noFeed).bind
  intro _
  cases feedMove with
  | none => exact (Steps.pure ()).bind fun _ => .pure _
  | some mv => exact (writeFeedMove_sameFeed hne).bind fun _ => .pure _

end

end Stophammer
