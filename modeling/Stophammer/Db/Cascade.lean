import Stophammer.Db.Delete
import Stophammer.Db.IndexRows

/-!
# The cascades never fail

A delete of a feed or of a track first takes away each row that names it, so no foreign
key refuses it.
-/

namespace Stophammer

open Relational Statement Database

theorem ends_delete {t : Table} {p : t.Row → Bool} (h : t ≠ .feeds ∧ t ≠ .tracks) :
    Ends (delete (S := schema) t p) :=
  Ends.delete (leaf_of_ne h.1 h.2)

def trackRefTables : List Table := [.valueTimeSplits, .paymentRoutes, .trackRemoteItemsRaw]

theorem trackRefTables_only {t : Table} (ht : t ∉ trackRefTables) (r : t.Row)
    (feedGuid trackGuid : String) : Key.track feedGuid trackGuid ∉ t.refs r := by
  cases t with
  | valueTimeSplits | paymentRoutes | trackRemoteItemsRaw => exact absurd (by decide) ht
  | _ => simp [Table.refs]

theorem deleteSplitsOf_frees {feedGuid trackGuid : String} :
    Frees (S := schema) (.track feedGuid trackGuid) [.valueTimeSplits]
      (deleteSplitsOf feedGuid trackGuid) := by
  apply Frees.delete
  intro s hs
  rcases hfeed : s.sourceFeedGuid with _ | guid
  · simp [Table.refs, hfeed] at hs
  · simp only [Table.refs, hfeed, Option.map_some, Option.toList_some, List.mem_singleton,
      Key.track.injEq] at hs
    simp [isSplitOf, hfeed, hs.1, hs.2]

theorem deletePaymentRoutesOf_frees {feedGuid trackGuid : String} :
    Frees (S := schema) (.track feedGuid trackGuid) [.paymentRoutes]
      (deletePaymentRoutesOf feedGuid trackGuid) := by
  apply Frees.delete
  intro r hr
  simp only [Table.refs, List.mem_singleton, Key.track.injEq] at hr
  simp [hr.1, hr.2]

theorem deleteTrackRemoteItemsOf_frees {feedGuid trackGuid : String} :
    Frees (S := schema) (.track feedGuid trackGuid) [.trackRemoteItemsRaw]
      (deleteTrackRemoteItemsOf feedGuid trackGuid) := by
  apply Frees.delete
  intro r hr
  rcases hfeed : r.feedGuid with _ | guid
  · simp [Table.refs, hfeed] at hr
  · simp only [Table.refs, hfeed, Option.map_some, Option.toList_some, List.mem_singleton,
      Key.track.injEq] at hr
    simp [isTrackRemoteItemOf, hfeed, hr.1, hr.2]

section Track

variable {old : Track}

theorem tracksCleanupBeforeDelete_frees :
    Frees (S := schema) (.track old.feedGuid old.trackGuid) trackRefTables
      (tracksCleanupBeforeDelete old) := by
  apply deleteSplitsOf_frees.bind
  intro _
  apply deletePaymentRoutesOf_frees.bind
  intro _
  exact deleteTrackRemoteItemsOf_frees.bind fun _ => Frees.of_shrinks Shrinks.delete

theorem tracksCleanupBeforeDelete_ends : Ends (tracksCleanupBeforeDelete old) := by
  iterate 3
    apply (ends_delete (by decide)).bind
    intro _
  exact ends_delete (by decide)

end Track

theorem deleteTracks_ends {p : Track → Bool} : Ends (deleteTracks p) := by
  apply Ends.transaction
  intro d
  rw [read_bind_run]
  set olds := (d .tracks).filter p with holds
  have hshrinks : Shrinks (S := schema) (forEach tracksCleanupBeforeDelete olds) :=
    Shrinks.forEach fun _ => tracksCleanupBeforeDelete_frees.shrinks
  have hends : Ends (forEach tracksCleanupBeforeDelete olds) :=
    Ends.forEach fun _ => tracksCleanupBeforeDelete_ends
  obtain ⟨_, d₁, hcleanup⟩ := hends d
  rw [bind_run_ok hcleanup]
  have hfree : ∀ r ∈ d₁ .tracks, p r = true → ∀ k ∈ Table.keys .tracks r,
      d₁.Unreferenced k := by
    intro r hr hp k hk
    have hsub := hshrinks d .tracks
    rw [hcleanup] at hsub
    have hold : r ∈ olds := List.mem_filter.mpr ⟨hsub.subset hr, hp⟩
    rw [List.mem_singleton.mp hk]
    have hfrees := Frees.forEach hold tracksCleanupBeforeDelete_frees
      fun _ => tracksCleanupBeforeDelete_frees.shrinks
    exact hfrees.unreferenced (fun t ht row => trackRefTables_only ht row _ _) hcleanup
  obtain ⟨e, hrun, -⟩ := delete_unreferenced hfree
  exact ⟨(), e, hrun⟩

def feedRefTables : List Table :=
  [.feedPaymentRoutes, .feedListValueRaw, .feedRemoteItemsRaw, .liveEvents] ++
    sourceClaimTables ++ [.tracks, .sourceGoneAnswers]

theorem feedRefTables_only {t : Table} (ht : t ∉ feedRefTables) (r : t.Row)
    (feedGuid : String) : Key.feed feedGuid ∉ t.refs r := by
  cases t with
  | feeds | valueTimeSplits | paymentRoutes | trackRemoteItemsRaw | feedUrlObservations
  | feedBlocks | feedCopies | feedGuidChanges | feedGuidSupersessions | feedCrawlCache
  | retiredSourceHolds | feedCopyOverflow | feedLeftUrls | feedMoveState | searchIndex
  | searchEntities | entityQuality | events | nodeSyncState | peerNodes => simp [Table.refs]
  | _ => exact absurd (by decide) ht

theorem delete_feed_frees {t : Table} {feedGuid : String} {column : t.Row → String}
    (hrefs : ∀ r, t.refs r = [.feed (column r)]) :
    Frees (S := schema) (.feed feedGuid) [t] (delete t fun r => column r == feedGuid) := by
  apply Frees.delete
  intro r hr
  rw [show schema.refs t r = [.feed (column r)] from hrefs r, List.mem_singleton,
    Key.feed.injEq] at hr
  rw [hr, beq_self_eq_true]

section Feed

variable {old : FeedRow} {feedGuid : String}

theorem deleteSourceClaims_frees :
    Frees (S := schema) (.feed feedGuid) sourceClaimTables (deleteSourceClaims feedGuid) := by
  iterate 6
    apply Frees.cons (delete_feed_frees fun _ => rfl)
    intro _
  exact delete_feed_frees fun _ => rfl

theorem deleteSourceClaims_ends : Ends (deleteSourceClaims feedGuid) := by
  iterate 6
    apply (ends_delete (by decide)).bind
    intro _
  exact ends_delete (by decide)

theorem deleteTracksOf_frees :
    Frees (S := schema) (.feed feedGuid) [.tracks]
      (deleteTracks fun r : Track => r.feedGuid == feedGuid) := by
  apply Frees.transaction
  apply Frees.skip (Shrinks.read _)
  intro olds
  apply Frees.skip (Shrinks.forEach fun _ => tracksCleanupBeforeDelete_frees.shrinks)
  intro _
  exact delete_feed_frees fun _ => rfl

theorem feedsCleanupBeforeDelete_frees :
    Frees (S := schema) (.feed old.feed.feedGuid)
      ([.feedPaymentRoutes, .feedListValueRaw, .feedRemoteItemsRaw, .liveEvents] ++
        sourceClaimTables ++ [.tracks])
      (feedsCleanupBeforeDelete old) := by
  iterate 2
    apply Frees.cons (delete_feed_frees fun _ => rfl)
    intro _
  apply Frees.skip Shrinks.delete
  intro _
  iterate 2
    apply Frees.cons (delete_feed_frees fun _ => rfl)
    intro _
  exact deleteSourceClaims_frees.bind fun _ => deleteTracksOf_frees

theorem feedsCleanupBeforeDelete_ends : Ends (feedsCleanupBeforeDelete old) := by
  iterate 5
    apply (ends_delete (by decide)).bind
    intro _
  exact deleteSourceClaims_ends.bind fun _ => deleteTracks_ends

end Feed

theorem deleteGoneAnswers_frees {old : FeedRow} :
    Frees (S := schema) (.feed old.feed.feedGuid) [.sourceGoneAnswers]
      (delete .sourceGoneAnswers fun r : SourceGoneAnswer =>
        r.feedGuid == old.feed.feedGuid) :=
  delete_feed_frees fun _ => rfl

theorem deleteFeeds_run (p : FeedRow → Bool) (d : Db) :
    ∃ e, deleteFeeds p d = (.ok (), e) ∧ e .feeds = (d .feeds).filter (!p ·) := by
  set olds := (d .feeds).filter p with holds
  set cascade : Stmt Unit := do
    forEach feedsCleanupBeforeDelete olds
    forEach (fun old : FeedRow =>
      delete .sourceGoneAnswers fun r : SourceGoneAnswer => r.feedGuid == old.feed.feedGuid) olds
    with hcascade
  have hfrees : ∀ old ∈ olds, Frees (S := schema) (.feed old.feed.feedGuid) feedRefTables cascade := by
    intro old hold
    have hcleanup := Frees.forEach hold feedsCleanupBeforeDelete_frees
      fun _ => feedsCleanupBeforeDelete_frees.shrinks
    have hgone : Frees (S := schema) (.feed old.feed.feedGuid) [.sourceGoneAnswers]
        (forEach (fun old : FeedRow => delete .sourceGoneAnswers fun r : SourceGoneAnswer =>
          r.feedGuid == old.feed.feedGuid) olds) :=
      Frees.forEach hold deleteGoneAnswers_frees fun _ => Shrinks.delete
    exact (hcleanup.bind fun _ => hgone).mono (by decide)
  have hends : Ends cascade :=
    (Ends.forEach fun _ => feedsCleanupBeforeDelete_ends).bind fun _ =>
      Ends.forEach fun _ => ends_delete (by decide)
  have hwrites : Writes (S := schema)
      (trackTables ++ sourceClaimTables ++ [.feedPaymentRoutes, .feedListValueRaw,
        .feedRemoteItemsRaw, .liveEvents, .entityQuality, .sourceGoneAnswers]) cascade := by
    refine (Writes.forEach fun old => ?_).bind fun _ =>
      Writes.forEach fun _ => Writes.delete (by decide)
    iterate 5
      apply (Writes.delete (by decide)).bind
      intro _
    apply (deleteSourceClaims_writes.mono (by decide)).bind
    intro _
    exact deleteTracks_writes.mono (by decide)
  obtain ⟨_, d₁, hrun⟩ := hends d
  have hfeeds : d₁ .feeds = d .feeds := (hwrites .feeds (by decide)).run hrun
  have hfree : ∀ r ∈ d₁ .feeds, p r = true → ∀ k ∈ Table.keys .feeds r, d₁.Unreferenced k := by
    intro r hr hp k hk
    rw [hfeeds] at hr
    simp only [Table.keys, List.mem_cons, List.not_mem_nil, or_false] at hk
    rcases hk with rfl | rfl
    · exact (hfrees r (List.mem_filter.mpr ⟨hr, hp⟩)).unreferenced
        (fun t ht row => feedRefTables_only ht row _) hrun
    · intro t row _ hkey
      cases t with
      | trackRemoteItemsRaw | valueTimeSplits =>
        rcases row with ⟨_ | _, _⟩ <;> simp [Table.refs] at hkey
      | _ => simp [Table.refs] at hkey
  obtain ⟨e, hdelete, hcontents⟩ := delete_unreferenced hfree
  refine ⟨e, ?_, by rw [hcontents, Contents.set_same, hfeeds]⟩
  apply transaction_ok.mpr
  rw [read_bind_run, ← holds]
  have hall : (cascade >>= fun _ => delete .feeds p) d = (.ok (), e) := by
    rw [bind_run_ok hrun, hdelete]
  rw [hcascade, bind_assoc] at hall
  exact hall

section

variable [Platform]

theorem deleteFeedSql_ends (feedGuid : String) : Ends (deleteFeedSql feedGuid) := by
  have hfeeds : Ends (deleteFeeds fun r : FeedRow => r.feed.feedGuid == feedGuid) := by
    intro d
    obtain ⟨e, hrun, -⟩ := deleteFeeds_run (fun r : FeedRow => r.feed.feedGuid == feedGuid) d
    exact ⟨(), e, hrun⟩
  apply (Ends.read _).bind
  intro trackGuids
  apply deleteFromSearchIndex_ends.bind
  intro _
  apply deleteFromSearchIndex_ends.bind
  intro _
  apply (Ends.forEach fun _ => deleteFromSearchIndex_ends).bind
  intro _
  apply (ends_delete (by decide)).bind
  intro _
  apply (Ends.forEach fun _ => ends_delete (by decide)).bind
  intro _
  iterate 2
    apply (ends_delete (by decide)).bind
    intro _
  apply (Ends.forEach fun _ => ends_delete (by decide)).bind
  intro _
  apply (ends_delete (by decide)).bind
  intro _
  apply (Ends.forEach fun _ => ends_delete (by decide)).bind
  intro _
  iterate 3
    apply (ends_delete (by decide)).bind
    intro _
  apply deleteSourceClaims_ends.bind
  intro _
  iterate 4
    apply (ends_delete (by decide)).bind
    intro _
  exact deleteTracks_ends.bind fun _ => hfeeds

/-- The tables whose rows a delete of a feed is followed through. -/
def recordTables : List Table := [.feeds, .feedLeftUrls, .feedMoveState, .sourceGoneAnswers]

theorem deleteFeedSql_leaves {γ : Type} {f : Db → γ} {feedGuid : String}
    (hsearch : ∀ entityType entityId, Leaves f (deleteFromSearchIndex entityType entityId))
    (hother : ∀ (ts : List Table) (x : Stmt Unit), Writes (S := schema) ts x →
      (∀ t ∈ Table.searchIndex :: .searchEntities :: recordTables, t ∉ ts) → Leaves f x)
    (hleft : Leaves f (delete (S := schema) .feedLeftUrls fun r : LeftUrlRow =>
      r.feedGuid == feedGuid))
    (hmove : Leaves f (delete (S := schema) .feedMoveState fun r : MoveStateRow =>
      r.feedGuid == feedGuid))
    (hfeeds : Leaves f (deleteFeeds fun r : FeedRow => r.feed.feedGuid == feedGuid)) :
    Leaves f (deleteFeedSql feedGuid) := by
  have hdelete : ∀ {t : Table} {p : t.Row → Bool},
      (∀ u ∈ Table.searchIndex :: .searchEntities :: recordTables, u ∉ [t]) →
        Leaves f (delete (S := schema) t p) :=
    fun {t} _ ht => hother [t] _ (Writes.delete (by simp)) ht
  apply (Leaves.read _).bind
  intro trackGuids
  apply (hsearch _ _).bind
  intro _
  apply (hsearch _ _).bind
  intro _
  apply (Leaves.forEach fun _ _ => hsearch _ _).bind
  intro _
  apply (hdelete (by decide)).bind
  intro _
  apply (Leaves.forEach fun _ _ => hdelete (by decide)).bind
  intro _
  iterate 2
    apply (hdelete (by decide)).bind
    intro _
  apply (Leaves.forEach fun _ _ => hdelete (by decide)).bind
  intro _
  apply (hdelete (by decide)).bind
  intro _
  apply (Leaves.forEach fun _ _ => hdelete (by decide)).bind
  intro _
  iterate 3
    apply (hdelete (by decide)).bind
    intro _
  apply (hother _ _ deleteSourceClaims_writes (by decide)).bind
  intro _
  iterate 2
    apply (hdelete (by decide)).bind
    intro _
  apply hleft.bind
  intro _
  apply hmove.bind
  intro _
  exact (hother _ _ deleteTracks_writes (by decide)).bind fun _ => hfeeds

omit [Platform] in
theorem deleteFeeds_writes_others {p : FeedRow → Bool} :
    Writes (S := schema)
      ([Table.feeds, .feedPaymentRoutes, .feedListValueRaw, .feedRemoteItemsRaw, .liveEvents,
        .entityQuality, .sourceGoneAnswers] ++ trackTables ++ sourceClaimTables)
      (deleteFeeds p) := by
  apply Writes.transaction
  apply (Writes.read _).bind
  intro olds
  refine (Writes.forEach fun old => ?_).bind fun _ =>
    (Writes.forEach fun _ => Writes.delete (by decide)).bind fun _ => Writes.delete (by decide)
  iterate 5
    apply (Writes.delete (by decide)).bind
    intro _
  apply (deleteSourceClaims_writes.mono (by decide)).bind
  intro _
  exact deleteTracks_writes.mono (by decide)

theorem deleteFeedSql_stray {feedGuid : String} : Leaves Stray (deleteFeedSql feedGuid) := by
  have hdelete : ∀ {t : Table} {p : t.Row → Bool}, t ≠ .searchIndex → t ≠ .searchEntities →
      Leaves Stray (delete (S := schema) t p) := fun {t} _ hindex hentities =>
    leaves_stray (Writes.delete (List.mem_singleton.mpr rfl)) (by simpa using hindex.symm)
      (by simpa using hentities.symm)
  exact deleteFeedSql_leaves (fun _ _ => deleteFromSearchIndex_leaves)
    (fun _ _ hx hts => leaves_stray hx (hts _ (by simp)) (hts _ (by simp)))
    (hdelete (by decide) (by decide)) (hdelete (by decide) (by decide))
    (leaves_stray deleteFeeds_writes_others (by decide) (by decide))

section Records

variable {feedGuid : String}

theorem deleteFeedSql_others {t : Table} {q : t.Row → Bool} (ht : t ∈ recordTables)
    (hleft : Leaves (fun d : Db => (d t).filter (!q ·))
      (delete (S := schema) .feedLeftUrls fun r : LeftUrlRow => r.feedGuid == feedGuid))
    (hmove : Leaves (fun d : Db => (d t).filter (!q ·))
      (delete (S := schema) .feedMoveState fun r : MoveStateRow => r.feedGuid == feedGuid))
    (hfeeds : Leaves (fun d : Db => (d t).filter (!q ·))
      (deleteFeeds fun r : FeedRow => r.feed.feedGuid == feedGuid)) :
    Leaves (fun d : Db => (d t).filter (!q ·)) (deleteFeedSql feedGuid) := by
  have hother : ∀ (ts : List Table) (x : Stmt Unit), Writes (S := schema) ts x → t ∉ ts →
      Leaves (fun d : Db => (d t).filter (!q ·)) x :=
    fun ts x hx hts d => congrArg (List.filter (!q ·)) (hx t hts d)
  apply deleteFeedSql_leaves _ _ hleft hmove hfeeds
  · refine fun _ _ => hother _ _ deleteFromSearchIndex_writes ?_
    revert ht
    cases t <;> decide
  · exact fun ts x hx hts => hother ts x hx (hts t (by simp [ht]))

omit [Platform] in
theorem delete_leaves_rows {t u : Table} {p : u.Row → Bool} {q : t.Row → Bool} (h : t ≠ u) :
    Leaves (fun d : Db => (d t).filter (!q ·)) (delete (S := schema) u p) := fun d =>
  congrArg (List.filter (!q ·)) (modify_leaves (S := schema) h d)

omit [Platform] in
theorem deleteFeeds_leaves_rows {t : Table} {p : FeedRow → Bool} {q : t.Row → Bool}
    (h : t ∈ [Table.feedLeftUrls, .feedMoveState]) :
    Leaves (fun d : Db => (d t).filter (!q ·)) (deleteFeeds p) := by
  intro d
  apply congrArg (List.filter (!q ·))
  apply deleteFeeds_writes_others (p := p) t _ d
  revert h
  cases t <;> decide

omit [Platform] in
theorem deleteFeeds_leaves_answers :
    Leaves (fun d : Db => (d .sourceGoneAnswers).filter fun r : SourceGoneAnswer =>
      !(r.feedGuid == feedGuid)) (deleteFeeds fun r : FeedRow => r.feed.feedGuid == feedGuid) := by
  have hother : ∀ {ts : List Table} {x : Stmt Unit}, Writes (S := schema) ts x →
      Table.sourceGoneAnswers ∉ ts → Leaves (fun d : Db => (d .sourceGoneAnswers).filter
        fun r : SourceGoneAnswer => !(r.feedGuid == feedGuid)) x :=
    fun hx hts d => congrArg _ (hx .sourceGoneAnswers hts d)
  have hfeeds : ∀ {p : FeedRow → Bool}, Writes (S := schema) [Table.feeds]
      (delete (S := schema) .feeds p) := Writes.delete (by decide)
  have hcleanup : ∀ {old : FeedRow}, Writes (S := schema)
      ([Table.feedPaymentRoutes, .feedListValueRaw, .entityQuality, .feedRemoteItemsRaw,
        .liveEvents] ++ sourceClaimTables ++ trackTables) (feedsCleanupBeforeDelete old) := by
    intro old
    iterate 5
      apply (Writes.delete (by decide)).bind
      intro _
    apply (deleteSourceClaims_writes.mono (by decide)).bind
    intro _
    exact deleteTracks_writes.mono (by decide)
  apply Leaves.transaction
  intro d
  rw [read_bind_run]
  set olds := (d .feeds).filter fun r : FeedRow => r.feed.feedGuid == feedGuid with holds
  have hguid : ∀ old ∈ olds, old.feed.feedGuid = feedGuid := fun old hold =>
    beq_iff_eq.mp (List.mem_filter.mp hold).2
  refine Leaves.bind (Leaves.forEach fun old _ => hother hcleanup (by decide)) (fun _ => ?_) d
  refine Leaves.bind (Leaves.forEach fun old hold => ?_) fun _ => hother hfeeds (by decide)
  apply delete_keeps_rows (S := schema) (t := .sourceGoneAnswers)
  intro r hr
  rw [hguid old hold] at hr
  exact hr

theorem deleteFeedSql_feeds {d e : Db} (h : deleteFeedSql feedGuid d = (.ok (), e)) :
    e .feeds = (d .feeds).filter fun r : FeedRow => !(r.feed.feedGuid == feedGuid) := by
  have hclears : Clears (S := schema) .feeds (fun r : FeedRow => r.feed.feedGuid == feedGuid)
      (deleteFeedSql feedGuid) := by
    iterate 20
      refine Clears.skip fun _ => ?_
    apply Clears.transaction
    iterate 3
      refine Clears.skip fun _ => ?_
    exact Clears.delete
  refine hclears.rows h (deleteFeedSql_others (t := .feeds) (by decide)
    (delete_leaves_rows (by decide)) (delete_leaves_rows (by decide)) fun d => ?_)
  obtain ⟨e, hrun, hrows⟩ := deleteFeeds_run (fun r : FeedRow => r.feed.feedGuid == feedGuid) d
  simp only [hrun, hrows, List.filter_filter, Bool.and_self]

theorem deleteFeedSql_leftUrls {d e : Db} (h : deleteFeedSql feedGuid d = (.ok (), e)) :
    e .feedLeftUrls = (d .feedLeftUrls).filter fun r : LeftUrlRow => !(r.feedGuid == feedGuid) := by
  have hclears : Clears (S := schema) .feedLeftUrls (fun r : LeftUrlRow => r.feedGuid == feedGuid)
      (deleteFeedSql feedGuid) := by
    iterate 17
      refine Clears.skip fun _ => ?_
    apply Clears.delete.bind
    intro _
    exact Shrinks.delete.bind fun _ => deleteTracks_shrinks.bind fun _ => deleteFeeds_shrinks
  exact hclears.rows h (deleteFeedSql_others (t := .feedLeftUrls) (by decide)
    (delete_keeps_rows (S := schema) (t := .feedLeftUrls) fun _ hr => hr)
    (delete_leaves_rows (by decide))
    (deleteFeeds_leaves_rows (by decide)))

theorem deleteFeedSql_moveState {d e : Db} (h : deleteFeedSql feedGuid d = (.ok (), e)) :
    e .feedMoveState =
      (d .feedMoveState).filter fun r : MoveStateRow => !(r.feedGuid == feedGuid) := by
  have hclears : Clears (S := schema) .feedMoveState
      (fun r : MoveStateRow => r.feedGuid == feedGuid) (deleteFeedSql feedGuid) := by
    iterate 18
      refine Clears.skip fun _ => ?_
    apply Clears.delete.bind
    intro _
    exact deleteTracks_shrinks.bind fun _ => deleteFeeds_shrinks
  exact hclears.rows h (deleteFeedSql_others (t := .feedMoveState) (by decide)
    (delete_leaves_rows (by decide))
    (delete_keeps_rows (S := schema) (t := .feedMoveState) fun _ hr => hr)
    (deleteFeeds_leaves_rows (by decide)))

theorem deleteFeedSql_answers {d e : Db} (h : deleteFeedSql feedGuid d = (.ok (), e)) :
    e .sourceGoneAnswers =
      (d .sourceGoneAnswers).filter fun r : SourceGoneAnswer => !(r.feedGuid == feedGuid) := by
  have hothers := deleteFeedSql_others (t := .sourceGoneAnswers)
    (q := fun r : SourceGoneAnswer => r.feedGuid == feedGuid) (by decide)
    (delete_leaves_rows (by decide)) (delete_leaves_rows (by decide)) deleteFeeds_leaves_answers
  rw [← hothers.run h]
  refine (List.filter_eq_self.mpr fun r hr => ?_).symm
  have hfeed : e.Has (.feed r.feedGuid) := e.valid.referenced .sourceGoneAnswers r hr _ (by
    simp [Table.refs])
  obtain ⟨row, hrow, hk⟩ := (Database.has_iff (show schema.home (.feed r.feedGuid) = Table.feeds
    from rfl)).mp hfeed
  rw [deleteFeedSql_feeds h, List.mem_filter] at hrow
  have hguid : r.feedGuid = row.feed.feedGuid := by simpa [Table.keys] using hk
  rw [hguid]
  exact hrow.2

end Records

end

end Stophammer
