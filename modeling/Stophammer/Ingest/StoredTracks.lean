import Stophammer.Ingest.Transaction
import Stophammer.Relational.Lookup

/-!
# The tracks after a content

The ingest transaction stores the tracks of its content and removes the others of the feed.
-/

namespace Stophammer

open Relational Statement

variable {d e : Db} {feedGuid trackGuid : String}

def trackKey (r : Track) : Key := .track r.feedGuid r.trackGuid

theorem getTrackForFeed_eq (d : Db) (feedGuid trackGuid : String) :
    getTrackForFeed d feedGuid trackGuid =
      (d .tracks).find? fun r => trackKey r == .track feedGuid trackGuid := by
  have hkey : (fun r : Track => r.feedGuid == feedGuid && r.trackGuid == trackGuid) =
      fun r => trackKey r == .track feedGuid trackGuid := by
    funext r
    rw [Bool.eq_iff_iff]
    simp [trackKey]
  rw [getTrackForFeed, hkey]

theorem getTrackForFeed_congr (h : e .tracks = d .tracks) :
    getTrackForFeed e feedGuid trackGuid = getTrackForFeed d feedGuid trackGuid := by
  rw [getTrackForFeed, h, getTrackForFeed]

theorem getTrackForFeed_some {track : Track} (h : getTrackForFeed d feedGuid trackGuid = some track) :
    track ∈ d .tracks ∧ track.feedGuid = feedGuid ∧ track.trackGuid = trackGuid := by
  have hkey := List.find?_some h
  simp only [Bool.and_eq_true, beq_iff_eq] at hkey
  exact ⟨List.mem_of_find?_eq_some h, hkey⟩

theorem getTrackForFeed_of_mem {track : Track} (h : track ∈ d .tracks) :
    getTrackForFeed d track.feedGuid track.trackGuid = some track := by
  cases hfind : getTrackForFeed d track.feedGuid track.trackGuid with
  | none =>
    have hnone := List.find?_eq_none.mp hfind track h
    simp at hnone
  | some other =>
    obtain ⟨hmem, hfeed, htrack⟩ := getTrackForFeed_some hfind
    have hkey : ∀ r : Track, Key.track r.feedGuid r.trackGuid ∈ Table.keys .tracks r :=
      fun r => List.mem_singleton_self _
    have hother := hkey other
    rw [hfeed, htrack] at hother
    rw [d.eq_of_shared_key hmem h hother (hkey track)]

/-- A new row, or the row of the track with its time of creation. -/
def storedTrack (old : Option Track) (track : Track) : Track :=
  (old.map fun r => { track with createdAt := r.createdAt }).getD track

theorem upsertTrack_lookup {track : Track} {a : Unit} (h : upsertTrack track d = (.ok a, e))
    (feedGuid trackGuid : String) :
    getTrackForFeed e feedGuid trackGuid =
      if Key.track feedGuid trackGuid = trackKey track then
        some (storedTrack (getTrackForFeed d feedGuid trackGuid) track)
      else getTrackForFeed d feedGuid trackGuid := by
  have hkey : (fun r : Track => r.feedGuid == track.feedGuid && r.trackGuid == track.trackGuid) =
      fun r => trackKey r == trackKey track := by
    funext r
    rw [Bool.eq_iff_iff]
    simp [trackKey]
  rw [upsertTrack, hkey] at h
  have hrow := upsert_lookup (S := schema) (t := .tracks) trackKey h rfl (fun _ _ => rfl)
    (.track feedGuid trackGuid)
  rw [getTrackForFeed_eq, getTrackForFeed_eq, storedTrack]
  exact hrow

theorem writeTrack_lookup {t : TrackIngestBundle} {a : Unit} (h : writeTrack t d = (.ok a, e))
    (feedGuid trackGuid : String) :
    getTrackForFeed e feedGuid trackGuid =
      if Key.track feedGuid trackGuid = trackKey t.track then
        some (storedTrack (getTrackForFeed d feedGuid trackGuid) t.track)
      else getTrackForFeed d feedGuid trackGuid := by
  obtain ⟨_, d₁, htrack, h⟩ := bind_ok h
  have hrest : Writes (S := schema) [Table.paymentRoutes, .valueTimeSplits, .trackRemoteItemsRaw]
      (do
        replacePaymentRoutesForFeedTrack t.track.feedGuid t.track.trackGuid t.routes
        replaceValueTimeSplitsForFeedTrack t.track.feedGuid t.track.trackGuid t.splits
        replaceTrackRemoteItemsRawForFeedTrack t.track.feedGuid t.track.trackGuid t.remoteItems) := by
    apply (Writes.replaceRows (by decide)).bind
    intro _
    apply (replaceValueTimeSplitsForFeedTrack_writes.mono (by decide)).bind
    intro _
    exact Writes.replaceRows (by decide)
  rw [getTrackForFeed_congr ((hrest .tracks (by decide)).run h)]
  exact upsertTrack_lookup htrack feedGuid trackGuid

theorem deleteTracks_rows {p : Track → Bool} {a : Unit} (h : deleteTracks p d = (.ok a, e)) :
    e .tracks = (d .tracks).filter (!p ·) := by
  have hclears : Clears (S := schema) .tracks p (deleteTracks p) := by
    apply Clears.transaction
    iterate 2
      refine Clears.skip fun _ => ?_
    exact Clears.delete
  apply hclears.rows h
  have hcleanup : ∀ old, Writes (S := schema) [Table.valueTimeSplits, .paymentRoutes,
      .trackRemoteItemsRaw, .entityQuality] (tracksCleanupBeforeDelete old) := by
    intro old
    iterate 3
      apply (Writes.delete (by decide)).bind
      intro _
    exact Writes.delete (by decide)
  apply Leaves.transaction
  apply (Leaves.read _).bind
  intro olds
  refine Leaves.bind (Leaves.forEach fun old _ => fun d => ?_) fun _ =>
    delete_keeps_rows (S := schema) (t := .tracks) fun _ hr => hr
  exact congrArg (List.filter (!p ·)) (hcleanup old .tracks (by decide) d)

section

variable [Platform]

theorem deleteTrackSql_lookup {a : Unit} (h : deleteTrackSql feedGuid trackGuid d = (.ok a, e))
    (feedGuid' trackGuid' : String) :
    getTrackForFeed e feedGuid' trackGuid' =
      if Key.track feedGuid' trackGuid' = .track feedGuid trackGuid then none
      else getTrackForFeed d feedGuid' trackGuid' := by
  obtain ⟨_, d₁, hsearch, h⟩ := bind_ok h
  obtain ⟨_, d₂, hsplits, h⟩ := bind_ok h
  obtain ⟨_, d₃, hroutes, h⟩ := bind_ok h
  obtain ⟨_, d₄, hquality, h⟩ := bind_ok h
  obtain ⟨_, d₅, hitems, h⟩ := bind_ok h
  have hdelete : ∀ {t : Table} {p : t.Row → Bool} {s u : Db} {b : Unit}, Table.tracks ∉ [t] →
      delete (S := schema) t p s = (.ok b, u) → u .tracks = s .tracks :=
    fun ht hrun => (Writes.delete (by simp) _ ht).run hrun
  have hsame : d₅ .tracks = d .tracks := by
    rw [hdelete (by decide) hitems, hdelete (by decide) hquality, hdelete (by decide) hroutes,
      hdelete (by decide) hsplits,
      (deleteFromSearchIndex_writes .tracks (by decide)).run hsearch]
  have hkey : (fun r : Track => r.feedGuid == feedGuid && r.trackGuid == trackGuid) =
      fun r => trackKey r == .track feedGuid trackGuid := by
    funext r
    rw [Bool.eq_iff_iff]
    simp [trackKey]
  rw [hkey] at h
  rw [getTrackForFeed_eq, deleteTracks_rows h, hsame, find_delete, ← getTrackForFeed_eq]

theorem removeStaleTrack_lookup {a : Unit}
    (h : removeStaleTrack feedGuid trackGuid d = (.ok a, e)) (feedGuid' trackGuid' : String) :
    getTrackForFeed e feedGuid' trackGuid' =
      if Key.track feedGuid' trackGuid' = .track feedGuid trackGuid then none
      else getTrackForFeed d feedGuid' trackGuid' := by
  unfold removeStaleTrack at h
  rw [read_bind_run] at h
  cases htrack : getTrackForFeed d feedGuid trackGuid with
  | none =>
    rw [htrack] at h
    cases h
    split
    · rename_i hsame
      rw [Key.track.injEq] at hsame
      rw [hsame.1, hsame.2, htrack]
    · rfl
  | some track =>
    rw [htrack] at h
    exact deleteTrackSql_lookup h feedGuid' trackGuid'

omit [Platform] in
/-- What the writes of the tracks `ts` leave of a track. -/
def writtenTrack (trackGuid : String) : List TrackIngestBundle → Option Track → Option Track
  | [], old => old
  | t :: ts, old =>
    writtenTrack trackGuid ts
      (if trackGuid = t.track.trackGuid then some (storedTrack old t.track) else old)

omit [Platform] in
theorem writeTracks_lookup {ts : List TrackIngestBundle} {a : Unit}
    (hfeed : ∀ t ∈ ts, t.track.feedGuid = feedGuid)
    (h : forEach writeTrack ts d = (.ok a, e)) (trackGuid : String) :
    getTrackForFeed e feedGuid trackGuid =
      writtenTrack trackGuid ts (getTrackForFeed d feedGuid trackGuid) := by
  induction ts generalizing d with
  | nil =>
    cases h
    rfl
  | cons t ts ih =>
    rw [forEach_cons] at h
    obtain ⟨_, d₁, hwrite, hrest⟩ := bind_ok h
    have hkey : Key.track feedGuid trackGuid = trackKey t.track ↔ trackGuid = t.track.trackGuid := by
      rw [trackKey, hfeed t List.mem_cons_self, Key.track.injEq, and_iff_right rfl]
    rw [ih (fun t' ht' => hfeed t' (List.mem_cons_of_mem _ ht')) hrest,
      writeTrack_lookup hwrite, writtenTrack]
    simp only [hkey]

theorem removeStaleTracks_lookup {trackGuids : List String} {a : Unit}
    (h : forEach (removeStaleTrack feedGuid) trackGuids d = (.ok a, e)) (trackGuid : String) :
    getTrackForFeed e feedGuid trackGuid =
      if trackGuid ∈ trackGuids then none else getTrackForFeed d feedGuid trackGuid := by
  induction trackGuids generalizing d with
  | nil =>
    cases h
    simp
  | cons stale trackGuids ih =>
    rw [forEach_cons] at h
    obtain ⟨_, d₁, hremove, hrest⟩ := bind_ok h
    rw [ih hrest, removeStaleTrack_lookup hremove]
    by_cases hstale : trackGuid = stale
    · simp [hstale]
    · simp [hstale]

omit [Platform] in
theorem writtenTrack_isSome {ts : List TrackIngestBundle} {old : Option Track}
    (h : ∃ t ∈ ts, t.track.trackGuid = trackGuid) : (writtenTrack trackGuid ts old).isSome = true := by
  have hkeeps : ∀ ts : List TrackIngestBundle, ∀ old : Option Track, old.isSome = true →
      (writtenTrack trackGuid ts old).isSome = true := by
    intro ts
    induction ts with
    | nil => exact fun _ hold => hold
    | cons t ts ih =>
      intro old hold
      rw [writtenTrack]
      split
      · exact ih _ rfl
      · exact ih _ hold
  induction ts generalizing old with
  | nil => obtain ⟨t, ht, -⟩ := h; cases ht
  | cons t ts ih =>
    obtain ⟨t', ht', hguid⟩ := h
    rw [writtenTrack]
    rcases List.mem_cons.mp ht' with rfl | ht'
    · rw [if_pos hguid.symm]
      exact hkeeps ts _ rfl
    · exact ih ⟨t', ht', hguid⟩

omit [Platform] in
theorem writtenTrack_absent {ts : List TrackIngestBundle} {old : Option Track}
    (h : ∀ t ∈ ts, t.track.trackGuid ≠ trackGuid) : writtenTrack trackGuid ts old = old := by
  induction ts with
  | nil => rfl
  | cons t ts ih =>
    rw [writtenTrack, if_neg (h t List.mem_cons_self).symm]
    exact ih fun t' ht' => h t' (List.mem_cons_of_mem _ ht')

def afterContentTables : List Table := .events :: .feedLeftUrls :: .feedMoveState :: readModelTables

theorem ingestTransaction_states {env : PrimaryEnv} {removalUuid : Nat → String}
    {c : IngestContent} {eventRows : List EventRow} {feedMove : Option FeedMoveWrite}
    {seqs : List (Int × String × String)}
    (h : ingestTransaction env removalUuid c eventRows feedMove d = (.ok seqs, e)) :
    ∃ d₁ d₂ d₃ d₄ : Db, writeFeed c.feed d = (.ok (), d₁) ∧
      replaceFeedSets c d₁ = (.ok (), d₂) ∧
      forEach writeTrack c.tracks d₂ = (.ok (), d₃) ∧
      forEach (removeStaleTrack c.feed.feedGuid)
        (orderBy (compareOn env.hashRank) (staleTrackGuids d₂ c)) d₃ = (.ok (), d₄) ∧
      SameOutside (S := schema) afterContentTables d₄ e := by
  have h := transaction_ok.mp h
  obtain ⟨_, d₁, hrow, h⟩ := bind_ok h
  obtain ⟨_, d₂, hsets, h⟩ := bind_ok h
  obtain ⟨stale, d₂', hstale, h⟩ := bind_ok h
  cases hstale
  obtain ⟨_, d₃, htracks, h⟩ := bind_ok h
  obtain ⟨_, d₄, hremoved, h⟩ := bind_ok h
  refine ⟨d₁, d₂, d₃, d₄, hrow, hsets, htracks, hremoved, ?_⟩
  obtain ⟨seqs', d₅, hevents, h⟩ := bind_ok h
  obtain ⟨_, d₆, hmodels, h⟩ := bind_ok h
  have hmodeled : SameOutside (S := schema) afterContentTables d₄ d₆ :=
    trans_of (SameOutside _) ((insertEvents_writes.sameOutside (by decide)).run hevents)
      ((syncSourceReadModelsForFeed_writes.sameOutside (by decide)).run hmodels)
  cases feedMove with
  | none =>
    cases h
    exact hmodeled
  | some mv =>
    obtain ⟨_, d₇, hmove, h⟩ := bind_ok h
    cases h
    exact trans_of (SameOutside _) hmodeled
      ((writeFeedMove_writes.sameOutside (by decide)).run hmove)

theorem ingestTransaction_lookup {env : PrimaryEnv} {removalUuid : Nat → String}
    {c : IngestContent} {eventRows : List EventRow} {feedMove : Option FeedMoveWrite}
    {seqs : List (Int × String × String)}
    (hfeed : ∀ t ∈ c.tracks, t.track.feedGuid = c.feed.feedGuid)
    (h : ingestTransaction env removalUuid c eventRows feedMove d = (.ok seqs, e))
    (trackGuid : String) :
    getTrackForFeed e c.feed.feedGuid trackGuid =
      if ∃ t ∈ c.tracks, t.track.trackGuid = trackGuid then
        writtenTrack trackGuid c.tracks (getTrackForFeed d c.feed.feedGuid trackGuid)
      else none := by
  obtain ⟨d₁, d₂, d₃, d₄, hrow, hsets, htracks, hremoved, hrest⟩ := ingestTransaction_states h
  have hfirst : d₂ .tracks = d .tracks := by
    rw [(replaceFeedSets_writes .tracks (by decide)).run hsets,
      (writeFeed_writes .tracks (by decide)).run hrow]
  rw [getTrackForFeed_congr (hrest .tracks (by decide)), removeStaleTracks_lookup hremoved,
    writeTracks_lookup hfeed htracks, getTrackForFeed_congr hfirst]
  have hmem : trackGuid ∈ orderBy (compareOn env.hashRank) (staleTrackGuids d₂ c) ↔
      (getTrackForFeed d c.feed.feedGuid trackGuid).isSome = true ∧
        ¬ ∃ t ∈ c.tracks, t.track.trackGuid = trackGuid := by
    rw [(orderBy_perm _ _).mem_iff, staleTrackGuids, List.mem_filter, List.mem_map]
    refine and_congr ?_ (by simp)
    rw [Option.isSome_iff_exists, getTracksForFeed, hfirst]
    constructor
    · rintro ⟨track, htrack, rfl⟩
      obtain ⟨hmem, hguid⟩ := List.mem_filter.mp htrack
      rw [← beq_iff_eq.mp hguid]
      exact ⟨track, getTrackForFeed_of_mem hmem⟩
    · rintro ⟨track, htrack⟩
      obtain ⟨hmem, hfeed, hguid⟩ := getTrackForFeed_some htrack
      exact ⟨track, List.mem_filter.mpr ⟨hmem, beq_iff_eq.mpr hfeed⟩, hguid⟩
  by_cases hin : ∃ t ∈ c.tracks, t.track.trackGuid = trackGuid
  · rw [if_pos hin, if_neg fun hmem' => (hmem.mp hmem').2 hin]
  · rw [if_neg hin]
    split
    · rfl
    · rename_i hnot
      rw [writtenTrack_absent fun t ht hguid => hin ⟨t, ht, hguid⟩]
      by_contra hsome
      exact hnot (hmem.mpr ⟨Option.isSome_iff_ne_none.mpr hsome, hin⟩)

end

end Stophammer
