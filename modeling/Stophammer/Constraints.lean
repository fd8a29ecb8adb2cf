import Stophammer.CleanDeletes
import Stophammer.GuidChange
import Stophammer.PendingChanges
import Stophammer.RecordChange
import Stophammer.RecordWrites
import Stophammer.Relational.OneRow
import Stophammer.SourceMoves
import Stophammer.TrackPayments

/-!
# The constraints and an accepted content

The index of a primary has no stray row, and the URL of an accepted content is free.  What is
left are the splits, the positions of the remote items and the statuses of the live items.
-/

namespace Stophammer

open Relational Statement Database

section

variable [Platform] {d e : Db} {feedGuid : String}

/-- Each row of the index has its entity. -/
def NoStray (d : Db) : Prop := ∀ rowid, ¬ Stray d rowid

omit [Platform] in
theorem NoStray.congr (hd : NoStray d) (h : Stray e = Stray d) : NoStray e := by
  intro rowid
  rw [h]
  exact hd rowid

omit [Platform] in
theorem keeps_noStray_of_leaves {ε α : Type} {x : Statement ε Db α} (hx : Leaves Stray x) :
    Steps (Keeps NoStray) x := fun s hs => hs.congr (hx s)

omit [Platform] in
theorem keeps_noStray_of_writes {ts : List Table} {α : Type} {x : Stmt α}
    (hx : Writes (S := schema) ts x) (hts : ∀ t ∈ [Table.searchIndex, .searchEntities], t ∉ ts) :
    Steps (Keeps NoStray) x :=
  keeps_noStray_of_leaves (leaves_stray hx (hts _ (by simp)) (hts _ (by simp)))

theorem syncSourceReadModelsForFeed_run (feedGuid : String) :
    Decides NoStray True (syncSourceReadModelsForFeed feedGuid) fun _ => NoStray := by
  intro s hs
  cases hfeed : getFeedByGuid s feedGuid with
  | none =>
    refine .inl ⟨trivial, (), s, ?_, hs⟩
    unfold syncSourceReadModelsForFeed
    rw [read_bind_run, hfeed]
    rfl
  | some feed =>
    have hguid : feed.feedGuid = feedGuid := by
      obtain ⟨r, hr, rfl⟩ := Option.map_eq_some_iff.mp hfeed
      simpa using List.find?_some hr
    subst hguid
    have hstart : Stray s = Stray s ∧ getFeedByGuid s feed.feedGuid = some feed ∧
        HoldsTracks feed.feedGuid ((getTracksForFeed s feed.feedGuid).map Track.trackGuid) s :=
      ⟨rfl, hfeed, fun _ => Iff.rfl⟩
    rcases syncSourceReadModelsForFeed_decides s hstart with ⟨-, a, t, hrun, hstray⟩ | ⟨hsome, -⟩
    · exact .inl ⟨trivial, a, t, hrun, hs.congr hstray⟩
    · exact absurd (fun rowid _ => hs rowid) hsome

theorem syncSourceReadModelsForFeed_keeps :
    Steps (Keeps NoStray) (syncSourceReadModelsForFeed feedGuid) := by
  intro s hs
  rcases syncSourceReadModelsForFeed_run feedGuid s hs with ⟨-, a, t, hrun, ht⟩ | ⟨hfalse, -⟩
  · rw [hrun]
    exact ht
  · exact absurd trivial hfalse

theorem deleteTrackSql_keeps {trackGuid : String} :
    Steps (Keeps NoStray) (deleteTrackSql feedGuid trackGuid) := by
  have hdelete : ∀ {t : Table} {p : t.Row → Bool}, t ≠ .searchIndex ∧ t ≠ .searchEntities →
      Steps (Keeps NoStray) (delete (S := schema) t p) := fun {t} _ ht =>
    keeps_noStray_of_writes (Writes.delete (List.mem_singleton.mpr rfl))
      (by simpa [eq_comm] using ht)
  apply (keeps_noStray_of_leaves deleteFromSearchIndex_leaves).bind
  intro _
  iterate 4
    apply (hdelete (by decide)).bind
    intro _
  exact keeps_noStray_of_writes deleteTracks_writes (by decide)

theorem removeStaleTrack_keeps {trackGuid : String} :
    Steps (Keeps NoStray) (removeStaleTrack feedGuid trackGuid) := by
  apply Steps.read_then
  intro track
  cases track with
  | none => exact .pure _
  | some _ => exact deleteTrackSql_keeps

theorem ingestTransaction_keeps {env : PrimaryEnv} {removalUuid : Nat → String}
    {c : IngestContent} {eventRows : List EventRow} {feedMove : Option FeedMoveWrite} :
    Steps (Keeps NoStray) (ingestTransaction env removalUuid c eventRows feedMove) := by
  have htracks : Writes (S := schema) trackSetTables (forEach writeTrack c.tracks) :=
    Writes.forEach fun _ => writeTrack_writes
  apply Steps.transaction
  apply (keeps_noStray_of_writes writeFeed_writes (by decide)).bind
  intro _
  apply (keeps_noStray_of_writes replaceFeedSets_writes (by decide)).bind
  intro _
  apply Steps.read_then
  intro staleGuids
  apply (keeps_noStray_of_writes htracks (by decide)).bind
  intro _
  apply (Steps.forEach fun _ _ => removeStaleTrack_keeps).bind
  intro _
  apply (keeps_noStray_of_writes insertEvents_writes (by decide)).bind
  intro seqs
  apply syncSourceReadModelsForFeed_keeps.bind
  intro _
  cases feedMove with
  | none => exact (Steps.pure ()).bind fun _ => .pure _
  | some mv =>
    exact (keeps_noStray_of_writes writeFeedMove_writes (by decide)).bind fun _ => .pure _

theorem Operation.keeps_noStray (operation : Operation) (d : Db) :
    Keeps NoStray d (operation.next d) := by
  have hupdate : ∀ {t : Table} {p : t.Row → Bool} {f : t.Row → t.Row},
      t ≠ .searchIndex ∧ t ≠ .searchEntities →
        Steps (Keeps NoStray) (update (S := schema) t p f) := fun {t} _ _ ht =>
    keeps_noStray_of_writes (Writes.update (List.mem_singleton.mpr rfl))
      (by simpa [eq_comm] using ht)
  apply operation.record_steps (R := Keeps NoStray)
  · exact fun s t hsame hs => hs.congr
      (stray_congr (hsame .searchIndex (by decide)) (hsame .searchEntities (by decide)))
  · exact fun _ _ _ => hupdate (by decide)
  · exact fun _ _ => hupdate (by decide)
  · exact fun _ => keeps_noStray_of_leaves deleteFeedSql_stray
  · intro env guid trackGuid _
    unfold handleRemoveTrack
    refine Steps.read_then (fun track => ?_) d
    cases track with
    | none => exact .fail _
    | some _ =>
      refine Steps.bind (Steps.mapError (Steps.transaction ?_)) fun _ =>
        fanoutEvent_steps.bind fun _ => .pure _
      exact deleteTrackSql_keeps.bind fun _ =>
        keeps_noStray_of_writes signEventRow_writes (by decide)
  · exact fun _ _ _ _ _ _ _ => hupdate (by decide) d
  · exact fun _ _ _ _ _ _ _ _ _ => ingestTransaction_keeps

theorem run_noStray {ok : Db → Operation → Prop} {history : List RunStep}
    (hrun : PrimaryRun ok history d) : NoStray d :=
  hrun.keeps (fun _ h => List.not_mem_nil h.1.choose_spec.1) fun d operation _ =>
    operation.keeps_noStray d

/-- A state of the transaction: the log is that of the start, the index has no stray row, and the
feed has its row. -/
structure Storing (d₀ : Db) (feedGuid : String) (d : Db) : Prop where
  log : d .events = d₀ .events
  index : NoStray d
  feed : HasFeed feedGuid d

omit [Platform] in
theorem Storing.of_writes {d₀ : Db} (h : Storing d₀ feedGuid d) {ts : List Table} {α : Type}
    {x : Stmt α} (hx : Writes (S := schema) ts x) {a : Except DbError α} (hrun : x d = (a, e))
    (hts : ∀ t ∈ [Table.events, .searchIndex, .searchEntities, .feeds], t ∉ ts) :
    Storing d₀ feedGuid e where
  log := ((hx _ (hts .events (by simp))).run hrun).trans h.log
  index := h.index.congr (stray_congr ((hx _ (hts .searchIndex (by simp))).run hrun)
    ((hx _ (hts .searchEntities (by simp))).run hrun))
  feed := (hasFeed_congr ((hx _ (hts .feeds (by simp))).run hrun)).mpr h.feed

omit [Platform] in
theorem feedUrl_unreferenced (d : Db) (url : String) : d.Unreferenced (.feedUrl url) := by
  have hrefs : ∀ (t : Table) (r : t.Row), Key.feedUrl url ∉ t.refs r := by
    intro t r
    cases t with
    | trackRemoteItemsRaw | valueTimeSplits => rcases r with ⟨_ | _, _⟩ <;> simp [Table.refs]
    | tracks | paymentRoutes | feedPaymentRoutes | feedListValueRaw | feedRemoteItemsRaw
    | liveEvents | sourceContributorClaims | sourceEntityIds | sourceEntityLinks
    | sourceReleaseClaims | sourceItemEnclosures | sourceItemTranscripts | sourcePlatformClaims
    | sourceGoneAnswers => simp [Table.refs]
    | _ => exact List.not_mem_nil
  exact fun t r _ => hrefs t r

def UrlFree (d : Db) (feed : Feed) : Prop :=
  ∀ r : FeedRow, r ∈ d .feeds → r.feed.feedUrl = feed.feedUrl → r.feed.feedGuid = feed.feedGuid

theorem upsertFeed_update {feed : Feed} (hurl : UrlFree d feed)
    (hstored : (d .feeds).any (fun r : FeedRow => r.feed.feedGuid == feed.feedGuid) = true) :
    ∃ e, upsertFeed feed d = (.ok (), e) ∧ HasFeed feed.feedGuid e := by
  set f : FeedRow → FeedRow := fun r =>
    { r with
      feed := { feed with createdAt := r.feed.createdAt }
      titleSort := some (sortKey feed.title)
      feedHost := some (feedHostOf feed.feedUrl) } with hf
  have hkey : ∀ r : FeedRow, (r.feed.feedGuid == feed.feedGuid) = true ↔
      Key.feed feed.feedGuid ∈ Table.keys .feeds r := by
    intro r
    rw [beq_iff_eq, Table.keys, List.mem_cons, Key.feed.injEq, List.mem_singleton, eq_comm]
    simp
  have hnew : ∀ r ∈ d .feeds, (r.feed.feedGuid == feed.feedGuid) = true →
      ∀ j ∈ Table.keys .feeds (f r), j ∈ Table.keys .feeds r ∨ ¬ d.Has j := by
    intro r hr hp j hj
    rw [show Table.keys .feeds (f r) = [.feed feed.feedGuid, .feedUrl feed.feedUrl] from rfl,
      List.mem_cons, List.mem_singleton] at hj
    rcases hj with rfl | rfl
    · exact .inl ((hkey r).mp hp)
    · by_cases hhas : d.Has (.feedUrl feed.feedUrl)
      · obtain ⟨other, hother, hsame⟩ := (has_iff
          (show schema.home (.feedUrl feed.feedUrl) = Table.feeds from rfl)).mp hhas
        have hsameUrl : other.feed.feedUrl = feed.feedUrl := by
          simpa [Table.keys, eq_comm] using hsame
        have hguid := hurl other hother hsameUrl
        have heq := d.eq_of_shared_key (t := .feeds) hr hother ((hkey r).mp hp)
          ((hkey other).mp (beq_iff_eq.mpr hguid))
        exact .inl (heq ▸ hsame)
      · exact .inr hhas
  have hkept : ∀ r ∈ d .feeds, (r.feed.feedGuid == feed.feedGuid) = true →
      ∀ j ∈ Table.keys .feeds r, j ∈ Table.keys .feeds (f r) ∨ d.Unreferenced j := by
    intro r hr hp j hj
    rw [show Table.keys .feeds r = [.feed r.feed.feedGuid, .feedUrl r.feed.feedUrl] from rfl,
      List.mem_cons, List.mem_singleton] at hj
    rcases hj with rfl | rfl
    · left
      rw [beq_iff_eq.mp hp]
      exact List.mem_cons_self
    · exact .inr (feedUrl_unreferenced d _)
  obtain ⟨e, hrun, hcontents⟩ := update_row_run (S := schema) (t := .feeds)
    (fun r _ => hkey r) hnew hkept (fun _ _ _ => rfl) (fun _ _ _ => rfl)
  refine ⟨e, (upsert_present d hstored).trans hrun, ?_⟩
  obtain ⟨old, hold, hp⟩ := List.any_eq_true.mp hstored
  rw [HasFeed, has_iff (show schema.home (.feed feed.feedGuid) = Table.feeds from rfl),
    hcontents, Contents.set_same]
  exact ⟨f old, List.mem_map.mpr ⟨old, hold, if_pos hp⟩, List.mem_cons_self⟩

theorem writeFeed_stores {feed : Feed} (hindex : NoStray d) (hurl : UrlFree d feed) :
    ∃ e, writeFeed feed d = (.ok (), e) ∧ Storing d feed.feedGuid e := by
  cases hstored : getFeedByGuid d feed.feedGuid with
  | none =>
    have hfree : ¬ d.Has (.feedUrl feed.feedUrl) := by
      intro hhas
      obtain ⟨r, hr, hkey⟩ := (has_iff
        (show schema.home (.feedUrl feed.feedUrl) = Table.feeds from rfl)).mp hhas
      have hguid := hurl r hr (by simpa [Table.keys, eq_comm] using hkey)
      rw [getFeedByGuid, Option.map_eq_none_iff] at hstored
      exact List.find?_eq_none.mp hstored r hr (beq_iff_eq.mpr hguid)
    rcases writeFeed_decides hstored d rfl with ⟨-, _, e, hrun, hadmitting⟩ | ⟨hnot, -⟩
    · exact ⟨e, hrun, hadmitting.log, hindex.congr hadmitting.stray, hadmitting.hasFeed⟩
    · exact absurd hfree hnot
  | some stored =>
    have hany : (d .feeds).any (fun r : FeedRow => r.feed.feedGuid == feed.feedGuid) = true := by
      obtain ⟨r, hr, -⟩ := Option.map_eq_some_iff.mp hstored
      exact List.any_eq_true.mpr ⟨r, List.mem_of_find?_eq_some hr,
        List.find?_some (p := fun r : FeedRow => r.feed.feedGuid == feed.feedGuid) hr⟩
    obtain ⟨d₁, hupsert, hhas⟩ := upsertFeed_update hurl hany
    have hwrites : Writes (S := schema) [Table.feeds] (upsertFeed feed) := Writes.upsert (by decide)
    have hstoring : Storing d feed.feedGuid d₁ :=
      ⟨(hwrites .events (by decide)).run hupsert,
        hindex.congr (stray_congr ((hwrites .searchIndex (by decide)).run hupsert)
          ((hwrites .searchEntities (by decide)).run hupsert)), hhas⟩
    have hdeletes : Writes (S := schema) [.sourceGoneAnswers, .retiredSourceHolds] (do
        delete (S := schema) .sourceGoneAnswers
          fun r : SourceGoneAnswer => r.feedGuid == feed.feedGuid
        delete (S := schema) .retiredSourceHolds
          fun r : RetiredSourceHold => r.feedGuid == toLowercase feed.feedGuid) :=
      (Writes.delete (by decide)).bind fun _ => Writes.delete (by decide)
    have hends : Ends (do
        delete (S := schema) .sourceGoneAnswers
          fun r : SourceGoneAnswer => r.feedGuid == feed.feedGuid
        delete (S := schema) .retiredSourceHolds
          fun r : RetiredSourceHold => r.feedGuid == toLowercase feed.feedGuid) :=
      (ends_delete (by decide)).bind fun _ => ends_delete (by decide)
    obtain ⟨_, e, hrun⟩ := hends d₁
    refine ⟨e, ?_, hstoring.of_writes hdeletes hrun (by decide)⟩
    unfold writeFeed
    rw [bind_run_ok hupsert]
    exact hrun

omit [Platform] in
theorem writeFeedMove_ends {mv : FeedMoveWrite} : Ends (writeFeedMove feedGuid mv) := by
  have hadd : Ends (addLeftUrl feedGuid mv.oldUrl) :=
    (Ends.insertOrIgnore rfl).bind fun _ => Ends.pure _
  have hremove : Ends (removeLeftUrl feedGuid mv.newUrl) := ends_delete (by decide)
  have harrive : Ends (upsert (S := schema) .feedMoveState
      (fun r : MoveStateRow => r.feedGuid == feedGuid)
      { feedGuid := feedGuid
        arrivalTag := mv.arrivalTag
        returnCount := 0
        lastReturnAt := none
        arrivalPending := false }
      (fun r : MoveStateRow => { r with arrivalTag := mv.arrivalTag, arrivalPending := false })) := by
    intro d
    obtain ⟨e, hrun, -⟩ := upsert_run (S := schema) (t := .feedMoveState) (d := d)
      (p := fun r : MoveStateRow => r.feedGuid == feedGuid)
      (r := { feedGuid := feedGuid
              arrivalTag := mv.arrivalTag
              returnCount := 0
              lastReturnAt := none
              arrivalPending := false })
      (f := fun r : MoveStateRow => { r with arrivalTag := mv.arrivalTag, arrivalPending := false })
      (fun r' _ hp k hk hk' => by
        simp only [Table.keys, List.mem_singleton] at hk hk'
        cases hk.symm.trans hk'
        simp at hp)
      rfl (fun k hk => by cases hk) (fun _ _ _ => rfl) (fun _ _ _ => rfl) (fun _ _ _ => rfl)
    exact ⟨(), e, hrun⟩
  apply hadd.bind
  intro _
  apply hremove.bind
  intro _
  apply harrive.bind
  intro _
  cases mv.returnValues with
  | none => exact Ends.pure ()
  | some values => exact updateMoveState_ends fun _ => rfl

theorem removeStaleTrack_ends {trackGuid : String} :
    Ends (removeStaleTrack feedGuid trackGuid) := by
  apply (Ends.read _).bind
  intro track
  cases track with
  | none => exact Ends.pure ()
  | some _ => exact deleteTrackSql_ends feedGuid trackGuid

/-- The ids of the events of a content are different and new, whatever tracks it removes. -/
structure NewIds (d : Db) (c : IngestContent) (eventRows : List EventRow)
    (removalUuid : Nat → String) : Prop where
  nodup : ∀ guids : List String, ((eventRows ++ assignIds removalUuid
    (guids.map (trackRemovedEvent c.feed))).map EventRow.eventId).Nodup
  fresh : ∀ guids : List String, ∀ row ∈ eventRows ++ assignIds removalUuid
    (guids.map (trackRemovedEvent c.feed)), hasEvent d row.eventId = false

theorem ingestTransaction_commits (env : PrimaryEnv) {removalUuid : Nat → String}
    {c : IngestContent} {eventRows : List EventRow} (feedMove : Option FeedMoveWrite) {d₀ : Db}
    (hc : c.OfFeed) (htracks : ∀ t ∈ c.tracks, t.OfFeed c.feed.feedGuid) (hindex : NoStray d₀)
    (hurl : UrlFree d₀ c.feed) (hids : NewIds d₀ c eventRows removalUuid) :
    (ingestTransaction env removalUuid c eventRows feedMove d₀).1.isOk = true ↔
      FeedSetsFit c ∧ ∀ t ∈ c.tracks, TrackFits t := by
  have hfeed : Decides (fun d => d = d₀) True (writeFeed c.feed)
      fun _ => Storing d₀ c.feed.feedGuid := by
    rintro d rfl
    obtain ⟨e, hrun, hstoring⟩ := writeFeed_stores hindex hurl
    exact .inl ⟨trivial, (), e, hrun, hstoring⟩
  have hsets : Decides (Storing d₀ c.feed.feedGuid) (FeedSetsFit c) (replaceFeedSets c)
      fun _ => Storing d₀ c.feed.feedGuid :=
    (replaceFeedSets_decides hc).of_run (fun _ hd => hd.feed) fun _ _ _ hd hrun _ =>
      hd.of_writes replaceFeedSets_writes hrun (by decide)
  have hwrite : Decides (Storing d₀ c.feed.feedGuid) (∀ t ∈ c.tracks, TrackFits t)
      (forEach writeTrack c.tracks) fun _ => Storing d₀ c.feed.feedGuid := by
    have hwrites : Writes (S := schema) trackSetTables (forEach writeTrack c.tracks) :=
      Writes.forEach fun _ => writeTrack_writes
    exact (Decides.forEach fun t ht => writeTrack_decides (htracks t ht)).of_run
      (fun _ hd => hd.feed) fun _ _ _ hd hrun _ => hd.of_writes hwrites hrun (by decide)
  have hremove : ∀ guids, Decides (Storing d₀ c.feed.feedGuid) True
      (forEach (removeStaleTrack c.feed.feedGuid) guids)
      fun _ => Storing d₀ c.feed.feedGuid := by
    intro guids
    have hends : Ends (forEach (removeStaleTrack c.feed.feedGuid) guids) :=
      Ends.forEach fun _ => removeStaleTrack_ends
    have hwrites : Writes (S := schema) trackDeleteTables
        (forEach (removeStaleTrack c.feed.feedGuid) guids) :=
      Writes.forEach fun _ => removeStaleTrack_writes
    have hkeeps : Steps (Keeps NoStray) (forEach (removeStaleTrack c.feed.feedGuid) guids) :=
      Steps.forEach fun _ _ => removeStaleTrack_keeps
    refine (hends.decides (P := Storing d₀ c.feed.feedGuid)).of_run (fun _ hd => hd)
      fun d _ e hd hrun _ => ?_
    exact ⟨((hwrites .events (by decide)).run hrun).trans hd.log, hkeeps.run hrun hd.index,
      (hasFeed_congr ((hwrites .feeds (by decide)).run hrun)).mpr hd.feed⟩
  have hevents : ∀ guids : List String, Decides (Storing d₀ c.feed.feedGuid) True
      (insertEvents env.signer (eventRows ++ assignIds removalUuid
        (guids.map (trackRemovedEvent c.feed)))) fun _ => NoStray := by
    intro guids d hd
    have hfresh : ∀ row ∈ eventRows ++ assignIds removalUuid
        (guids.map (trackRemovedEvent c.feed)), hasEvent d row.eventId = false := by
      intro row hrow
      rw [hasEvent, hd.log]
      exact hids.fresh guids row hrow
    obtain ⟨seqs, e, hrun⟩ := insertEvents_run env.signer (hids.nodup guids) hfresh
    exact .inl ⟨trivial, seqs, e, hrun,
      (keeps_noStray_of_writes insertEvents_writes (by decide)).run hrun hd.index⟩
  have hall : Decides (fun d => d = d₀)
      (True ∧ FeedSetsFit c ∧ (∀ t ∈ c.tracks, TrackFits t) ∧ True ∧ True ∧ True ∧ True ∧ True)
      (ingestTransaction env removalUuid c eventRows feedMove) fun _ _ => True := by
    apply Decides.transaction
    apply hfeed.bind
    intro _
    apply hsets.bind
    intro _
    apply Decides.read_bind
    intro d _
    apply hwrite.bind
    intro _
    apply (hremove _).bind
    intro _
    apply (hevents _).bind
    intro seqs
    apply (syncSourceReadModelsForFeed_run c.feed.feedGuid).bind
    intro _
    cases feedMove with
    | none => exact (Ends.pure ()).decides.bind fun _ => (Ends.pure seqs).decides
    | some mv => exact writeFeedMove_ends.decides.bind fun _ => (Ends.pure seqs).decides
  rcases hall d₀ rfl with ⟨hfits, a, e, hrun, -⟩ | ⟨hfails, err, e, hrun⟩
  · rw [hrun]
    exact iff_of_true rfl ⟨hfits.2.1, hfits.2.2.1⟩
  · rw [hrun]
    refine iff_of_false Bool.false_ne_true fun h => hfails ?_
    exact ⟨trivial, h.1, h.2, trivial, trivial, trivial, trivial, trivial⟩

section Body

variable {env : IngestEnv} {snapshot : Db} {req : IngestFeedRequest} {body : IngestFeedData}
  {warnings : List String} {admission : Admission}

theorem decideCase_state
    (h : decideCase env req body warnings d = (.ok (.admitted admission), e)) :
    e = d ∨ ∃ rows, recordGuidChangeReturnForIngest env.signer (env.uuid .guidReturn 0)
      req.sourceUrl body.feedGuid (env.now .guidReturn) d = (.ok rows, e) := by
  unfold decideCase at h
  rw [read_bind_run] at h
  cases hclass : classifySubmission d body.feedGuid req.sourceUrl req.canonicalUrl with
  | update =>
    rw [hclass] at h
    simp only [decideUpdate, read_bind_run] at h
    split at h
    · cases h
    · split at h
      · obtain ⟨events, d', -, hpure⟩ := bind_ok h
        cases hpure
      · obtain ⟨rows, d', hreturn, hrest⟩ := bind_ok h
        right
        refine ⟨rows, ?_⟩
        rw [read_bind_run] at hrest
        have hsame : d' = e := by
          cases hmove : moveTarget d' body.feedGuid req.sourceUrl req.canonicalUrl req.redirects
              body (env.now .writeMove) with
          | noTrigger | move target | refused targetUrl | waitingRedirect targetUrl =>
            rw [hmove] at hrest
            cases hrest
            rfl
        exact hsame ▸ mapError_ok.mp hreturn
  | newFeed =>
    rw [hclass] at h
    simp only [decideNewFeed, read_bind_run] at h
    split at h
    · cases h
    · split at h
      · cases h
      · cases h
        exact .inl rfl
  | mirror sourceUrl =>
    rw [hclass] at h
    have hfinish : ∀ refusalWarnings,
        decideMirror.finish env req body sourceUrl refusalWarnings d ≠
          (.ok (.admitted admission), e) := by
      intro refusalWarnings hrun
      obtain ⟨signedRows, d₁, -, hrest⟩ := bind_ok hrun
      obtain ⟨events, d₂, -, hpure⟩ := bind_ok hrest
      cases hpure
    simp only [decideMirror, read_bind_run] at h
    cases hmove : moveTarget d body.feedGuid req.sourceUrl req.canonicalUrl req.redirects body
        (env.now .writeMove) with
    | move target =>
      rw [hmove] at h
      cases h
      exact .inl rfl
    | noTrigger | refused targetUrl | waitingRedirect targetUrl =>
      rw [hmove] at h
      exact absurd h (hfinish _)
  | recordConflict =>
    rw [hclass] at h
    cases h
  | guidChange heldGuid =>
    rw [hclass] at h
    exact .inl (decideGuidChange_admits h).2.2.2

omit [Platform] in
theorem signEventRow_takes {signer : NodeSigner} {row : EventRow} {signed : SignedEventRow}
    (h : signEventRow signer row d = (.ok signed, e)) {id : String} (hid : hasEvent e id = true) :
    hasEvent d id = true ∨ id = row.eventId := by
  rcases insertEvent_run signer row d with ⟨t, hrun, hcontents⟩ | ⟨err, hrun⟩
  · rw [signEventRow, bind_run_ok hrun] at h
    cases h
    rw [hasEvent, hcontents, Contents.set_same, List.any_append, Bool.or_eq_true] at hid
    refine hid.imp_right fun hsame => ?_
    have hrow : row.eventId = id := by simpa [signedRow, EventRow.stored] using hsame
    exact hrow.symm
  · rw [signEventRow, bind_run_error hrun] at h
    cases h

theorem recordGuidChangeReturnForIngest_takes {signer : NodeSigner}
    {eventId sourceUrl guid : String} {now : Int} {rows : List SignedEventRow}
    (h : recordGuidChangeReturnForIngest signer eventId sourceUrl guid now d = (.ok rows, e))
    {id : String} (hid : hasEvent e id = true) : hasEvent d id = true ∨ id = eventId := by
  unfold recordGuidChangeReturnForIngest at h
  rw [read_bind_run] at h
  cases hrow : getGuidChange d sourceUrl with
  | none =>
    rw [hrow] at h
    cases h
    exact .inl hid
  | some row =>
    rw [hrow] at h
    obtain ⟨_, t, hdelete, h⟩ := bind_ok (transaction_ok.mp h)
    obtain ⟨signed, u, hsign, hpure⟩ := bind_ok h
    cases hpure
    refine (signEventRow_takes hsign hid).imp_left fun hseen => ?_
    rwa [hasEvent, deleteGuidChange_sameOutside hdelete .events (by decide)] at hseen

/-- The transaction of the content of a body, in the state that its case leaves. -/
def contentOutcome (env : IngestEnv) (req : IngestFeedRequest) (body : IngestFeedData)
    (admission : Admission) (d : Db) : Except DbError (List (Int × String × String)) × Db :=
  let input := buildInput env req body d admission.recordMove
  ingestTransaction env.toPrimaryEnv (env.uuid .staleTracks) input.content
    (assignIds (env.uuid .content)
      (buildDiffEvents d input.content input.now (contentWarnings body input admission)))
    (admission.recordMove.map (feedMoveWrite body)) d

/-- What the constraints of the schema ask of a body. -/
structure BodyFits (i : BuildInput) : Prop where
  routes : ∀ r ∈ i.feedData.feedPaymentRoutes, 0 ≤ r.split
  remoteItems : (i.feedData.remoteItems.map IngestRemoteFeedRef.position).Nodup
  liveItems : ∀ item ∈ i.liveItems, item.status ∈ ["pending", "live", "ended"]
  tracks : ∀ t ∈ i.tracks, TrackDataFits t

theorem bodyFits_iff {i : BuildInput} :
    BodyFits i ↔ FeedSetsFit i.content ∧ ∀ t ∈ i.content.tracks, TrackFits t := by
  have htracks : (∀ t ∈ i.content.tracks, TrackFits t) ↔ ∀ t ∈ i.tracks, TrackDataFits t := by
    rw [BuildInput.content, List.forall_mem_map]
    exact forall₂_congr fun _ _ => BuildInput.trackBundle_fits
  rw [htracks, BuildInput.feedSets_fit]
  constructor
  · rintro ⟨hroutes, hitems, hlive, htracks⟩
    exact ⟨⟨hroutes, hitems, hlive⟩, htracks⟩
  · rintro ⟨⟨hroutes, hitems, hlive⟩, htracks⟩
    exact ⟨hroutes, hitems, hlive, htracks⟩

theorem ownUrls {feedGuid sourceUrl canonicalUrl : String}
    (h : conflictingGuid d feedGuid sourceUrl canonicalUrl = none) {r : FeedRow}
    (hr : r ∈ d .feeds) (hurl : r.feed.feedUrl = sourceUrl ∨ r.feed.feedUrl = canonicalUrl) :
    r.feed.feedGuid = feedGuid := by
  rw [conflictingGuid, Option.map_eq_none_iff, List.head?_eq_none_iff] at h
  by_contra hne
  have hmem : r.feed ∈ conflictingRecords d feedGuid sourceUrl canonicalUrl := by
    refine List.mem_filter.mpr ⟨List.mem_map_of_mem hr, ?_⟩
    simp [hurl, hne]
  rw [← (orderBy_perm (compareOn fun f : Feed => scanRank f.feedUrl) _).mem_iff, h] at hmem
  exact List.not_mem_nil hmem

theorem chooseFeedUrl_own
    (hfree : conflictingGuid d body.feedGuid req.sourceUrl req.canonicalUrl = none) {r : FeedRow}
    (hr : r ∈ d .feeds)
    (hurl : r.feed.feedUrl = chooseFeedUrl d req body.feedGuid (admittedMove env req body d)) :
    r.feed.feedGuid = body.feedGuid := by
  cases hmove : admittedMove env req body d with
  | some mv =>
    obtain ⟨target, htarget, -, hnew, -, -⟩ := admittedMove_eq_some hmove
    rw [hmove, chooseFeedUrl, hnew] at hurl
    rcases moveTarget_move htarget with hredirect | hdeclared
    · exact ownUrls hfree hr (.inr (hurl.trans hredirect.lands))
    · rcases (mirrorTarget_own hdeclared.declared).1 with hsource | hcanonical
      · exact ownUrls hfree hr (.inl (hurl.trans hsource))
      · exact ownUrls hfree hr (.inr (hurl.trans hcanonical))
  | none =>
    rw [hmove, chooseFeedUrl] at hurl
    cases hstored : getFeedByGuid d body.feedGuid with
    | none =>
      rw [hstored] at hurl
      exact ownUrls hfree hr (.inr hurl)
    | some stored =>
      rw [hstored] at hurl
      obtain ⟨row, hrow, hfeed⟩ := Option.map_eq_some_iff.mp hstored
      have hguid : row.feed.feedGuid = body.feedGuid := by simpa using List.find?_some hrow
      have hsame : row.feed.feedUrl = r.feed.feedUrl := by
        rw [hfeed]
        exact hurl.symm
      have hkey : Key.feedUrl r.feed.feedUrl ∈ schema.keys .feeds row := by
        rw [← hsame]
        exact List.mem_cons_of_mem _ List.mem_cons_self
      have heq : r = row := d.eq_of_shared_key (t := .feeds) hr (List.mem_of_find?_eq_some hrow)
        (List.mem_cons_of_mem _ List.mem_cons_self) hkey
      rw [heq]
      exact hguid

theorem FreshIds.newIds (hids : FreshIds env d)
    (hdecide : decideCase env req body warnings d = (.ok (.admitted admission), e))
    {c : IngestContent} {drafts : List EventDraft} (hdrafts : ∀ r ∈ drafts, TakesId r) :
    NewIds e c (assignIds (env.uuid .content) drafts) (env.uuid .staleTracks) := by
  have hlog : ∀ step index, step ≠ IngestStep.guidReturn →
      hasEvent e (env.uuid step index) = false := by
    intro step index hstep
    rcases decideCase_state hdecide with rfl | ⟨rows, hreturn⟩
    · exact hids.fresh step index
    · rw [← Bool.not_eq_true]
      intro hseen
      rcases recordGuidChangeReturnForIngest_takes hreturn hseen with hold | hsame
      · rw [hids.fresh step index] at hold
        cases hold
      · exact hstep (hids.injective _ _ _ _ hsame).1
  have hcontent := hids.rows hdrafts fun index => hlog .content index (by decide)
  have hremoved : ∀ guids : List String, ∀ r ∈ guids.map (trackRemovedEvent c.feed), TakesId r := by
    intro guids
    rw [List.forall_mem_map]
    exact fun _ _ _ => rfl
  have hremovals := fun guids : List String =>
    hids.rows (hremoved guids) fun index => hlog .staleTracks index (by decide)
  constructor
  · intro guids
    rw [List.map_append, List.nodup_append]
    refine ⟨hcontent.1, (hremovals guids).1, ?_⟩
    rintro id hid id' hid' rfl
    rw [assignIds_eventIds _ hdrafts] at hid
    rw [assignIds_eventIds _ (hremoved guids)] at hid'
    obtain ⟨index, -, hindex⟩ := List.mem_map.mp hid
    obtain ⟨index', -, hindex'⟩ := List.mem_map.mp hid'
    have hstep := (hids.injective _ _ _ _ (hindex.trans hindex'.symm)).1
    cases hstep
  · intro guids row hrow
    rcases List.mem_append.mp hrow with hrow | hrow
    · exact hcontent.2 row hrow
    · exact (hremovals guids).2 row hrow

/-- In a reachable state, the content of an admitted submission whose URLs belong to no other
record violates no constraint exactly when its body fits. -/
theorem contentOutcome_isOk_iff {ok : Db → Operation → Prop} {history : List RunStep}
    (hrun : PrimaryRun ok history d) (hids : FreshIds env d)
    (hfree : conflictingGuid d body.feedGuid req.sourceUrl req.canonicalUrl = none)
    (hdecide : decideCase env req body warnings d = (.ok (.admitted admission), e)) :
    (contentOutcome env req body admission e).1.isOk = true ↔
      BodyFits (buildInput env req body e admission.recordMove) := by
  obtain ⟨⟨-, -, hmove⟩, hsame⟩ := decideCase_admits hdecide
  have hfeeds : e .feeds = d .feeds := hsame .feeds (by decide)
  have hindex : NoStray e := (run_noStray hrun).congr
    (stray_congr (hsame .searchIndex (by decide)) (hsame .searchEntities (by decide)))
  have hurl : UrlFree e (buildInput env req body e admission.recordMove).content.feed := by
    intro r hr hsameUrl
    rw [hfeeds] at hr
    have hchosen : r.feed.feedUrl =
        chooseFeedUrl d req body.feedGuid (admittedMove env req body d) := by
      rw [hsameUrl, hmove]
      change chooseFeedUrl e req body.feedGuid (admittedMove env req body d) = _
      unfold chooseFeedUrl getFeedByGuid
      rw [hfeeds]
    exact chooseFeedUrl_own hfree hr hchosen
  have hdrafts : ∀ r ∈ buildDiffEvents e (buildInput env req body e admission.recordMove).content
      (buildInput env req body e admission.recordMove).now
      (contentWarnings body (buildInput env req body e admission.recordMove) admission),
      TakesId r := forall_buildDiffEvents fun _ _ _ _ _ _ => rfl
  rw [bodyFits_iff]
  exact ingestTransaction_commits env.toPrimaryEnv _ BuildInput.content_ofFeed
    BuildInput.tracks_ofFeed hindex hurl (hids.newIds hdecide hdrafts)

end Body

end

section Sample

attribute [local instance] paidPlatform

theorem paidEnv_freshIds : FreshIds paidEnv (Database.empty schema) :=
  ⟨fun _ _ _ _ h => runUuid_injective h, fun _ _ => rfl⟩

def routedBody (routes : List IngestPaymentRoute) : IngestFeedData :=
  { paidBody with feedPaymentRoutes := routes }

def routedRequest (routes : List IngestPaymentRoute) : IngestFeedRequest :=
  runRequest sampleUrl sampleUrl [] (routedBody routes)

def paidAdmission : Admission where
  warnings := []
  recordMove := none
  prefixEvents := []
  pendingGuidTransition := none

theorem routedRequest_decided (routes : List IngestPaymentRoute) :
    conflictingGuid (Database.empty schema) sampleGuid sampleUrl sampleUrl = none ∧
      decideCase paidEnv (routedRequest routes) (routedBody routes) [] (Database.empty schema) =
        (.ok (.admitted paidAdmission), Database.empty schema) := by
  constructor
  · rfl
  · rfl

/-- A receiver with a share and one with a negative share. -/
def negativeRoutes : List IngestPaymentRoute := [nodeRoute "a" 100, nodeRoute "b" (-1)]

/-- The second submission of the record, with these routes of the feed. -/
def publisherRoutedBody (routes : List IngestPaymentRoute) : IngestFeedData :=
  { publisherBody with feedPaymentRoutes := routes }

def publisherRouted (routes : List IngestPaymentRoute) : IngestFeedRequest :=
  { publisherRequest with feedData := some (publisherRoutedBody routes) }

/-- The handler admits the submission to its content, which the constraints take or not. -/
def AdmitsContent (d : Db) (routes : List IngestPaymentRoute) (commits : Bool) : Prop :=
  (decideCase publisherEnv (publisherRouted routes) (publisherRoutedBody routes) [] d).1 =
      .ok (.admitted paidAdmission) ∧
    (contentOutcome publisherEnv (publisherRouted routes) (publisherRoutedBody routes) paidAdmission
      (decideCase publisherEnv (publisherRouted routes) (publisherRoutedBody routes) [] d).2).1.isOk =
        commits

theorem paidDb_facts :
    conflictingGuid paidDb sampleGuid sampleUrl sampleUrl = none ∧
      (∀ id ∈ (paidDb .events).map StoredEvent.eventId, id.toList.head? ≠ some 'd') ∧
      AdmitsContent paidDb [nodeRoute "a" 100] true ∧ AdmitsContent paidDb negativeRoutes false := by
  unfold AdmitsContent
  decide +kernel

theorem contentOutcome_isOk_iff_sample :
    (∃ e, decideCase publisherEnv (publisherRouted [nodeRoute "a" 100])
        (publisherRoutedBody [nodeRoute "a" 100]) [] paidDb =
          (.ok (.admitted paidAdmission), e) ∧
        BodyFits (buildInput publisherEnv (publisherRouted [nodeRoute "a" 100])
          (publisherRoutedBody [nodeRoute "a" 100]) e none)) ∧
      ∃ e, decideCase publisherEnv (publisherRouted negativeRoutes)
          (publisherRoutedBody negativeRoutes) [] paidDb =
            (.ok (.admitted paidAdmission), e) ∧
          ¬ BodyFits (buildInput publisherEnv (publisherRouted negativeRoutes)
            (publisherRoutedBody negativeRoutes) e none) := by
  obtain ⟨hfree, hids, ⟨hdecided, hcommits⟩, hdecided', hfails⟩ := paidDb_facts
  have hrun : PrimaryRun (fun _ _ => True) _ paidDb :=
    .step payingIngest .empty trivial
  -- the state of the run is not computed again
  generalize paidDb = d at hdecided hcommits hdecided' hfails hfree hids hrun ⊢
  have hfresh : FreshIds (runEnv 'd' 2) d := runEnv_freshIds hids
  have hnew : FreshIds publisherEnv d := ⟨hfresh.injective, hfresh.fresh⟩
  constructor
  · have hdecide : decideCase publisherEnv (publisherRouted [nodeRoute "a" 100])
        (publisherRoutedBody [nodeRoute "a" 100]) [] d = (.ok (.admitted paidAdmission), _) :=
      Prod.ext hdecided rfl
    exact ⟨_, hdecide, (contentOutcome_isOk_iff hrun hnew (by exact hfree) hdecide).mp hcommits⟩
  · have hdecide : decideCase publisherEnv (publisherRouted negativeRoutes)
        (publisherRoutedBody negativeRoutes) [] d = (.ok (.admitted paidAdmission), _) :=
      Prod.ext hdecided' rfl
    refine ⟨_, hdecide, fun hfits => ?_⟩
    have hok := (contentOutcome_isOk_iff hrun hnew (by exact hfree) hdecide).mpr hfits
    rw [hfails] at hok
    cases hok

theorem negativeRoutes_fail :
    readPhase paidEnv (Database.empty schema) (routedRequest negativeRoutes) = .verified [] ∧
      (contentOutcome paidEnv (routedRequest negativeRoutes) (routedBody negativeRoutes)
        paidAdmission (Database.empty schema)).1.isOk = false := by
  decide +kernel

theorem negativeSplit_aborts :
    ¬ ∀ (isUuid : String → Bool) (env : IngestEnv) (crawlToken : String),
      buildChain isUuid (chainNames defaultChainNames) crawlToken = some env.chain →
        ∀ (history : List RunStep) (d : Db), PrimaryRun (fun _ _ => True) history d →
          FreshIds env d →
            ∀ (snapshot : Db) (req : IngestFeedRequest) (body : IngestFeedData)
              (warnings : List String), readPhase env snapshot req = .verified warnings →
              req.feedData = some body → body.tracks.length ≤ maxTracksPerIngest →
              conflictingGuid d body.feedGuid req.sourceUrl req.canonicalUrl = none →
                ∀ (admission : Admission) (e : Db),
                  decideCase env req body warnings d = (.ok (.admitted admission), e) →
                  (contentOutcome env req body admission e).1.isOk = true := by
  intro hall
  obtain ⟨hfree, hdecide⟩ := routedRequest_decided negativeRoutes
  obtain ⟨hphase, hfails⟩ := negativeRoutes_fail
  have hok := hall isSampleUuid paidEnv "t" paidChain_default [] _ .empty paidEnv_freshIds
    (Database.empty schema) (routedRequest negativeRoutes) (routedBody negativeRoutes) [] hphase rfl
    (by decide) hfree paidAdmission _ hdecide
  rw [hfails] at hok
  cases hok

end Sample

end Stophammer
