import Stophammer.Db.FeedRows
import Stophammer.Primary

/-!
# What writes the records

A rule about the records and their read models needs to look at a few statements only: the
content of a body, the delete of a record or of a track, and the columns that an operator or a
declaration changes.
-/

namespace Stophammer

open Relational Statement

/-- The tables of sources, decisions, peers and the log. -/
def besideTables : List Table :=
  [.feedUrlObservations, .feedCopies, .feedCopyOverflow, .feedCrawlCache, .feedBlocks,
    .feedGuidChanges, .feedGuidSupersessions, .retiredSourceHolds, .sourceGoneAnswers,
    .feedLeftUrls, .feedMoveState, .peerNodes, .nodeSyncState, .events]

section

variable [Platform] {R : Db → Db → Prop} [IsPreorder Db R]

omit [Platform] [IsPreorder Db R] in
theorem besideStep {w : List Table} {α : Type} {x : Stmt α}
    (hbeside : ∀ s t, SameOutside (S := schema) besideTables s t → R s t)
    (hx : Writes (S := schema) w x) (hw : w ⊆ besideTables) : Steps R x :=
  (hx.sameOutside hw).mono hbeside

theorem deleteFeedWithEvent_steps {signer : NodeSigner} {feedGuid : String} {row : EventRow}
    {blocks : List (FeedBlock × String)} {d : Db}
    (hbeside : ∀ s t, SameOutside (S := schema) besideTables s t → R s t)
    (hdelete : R d (deleteFeedSql feedGuid d).2) :
    R d (deleteFeedWithEvent signer feedGuid row blocks d).2 := by
  apply Steps.transaction_at
  rw [read_bind_run]
  apply Steps.after hdelete
  intro _ t _
  refine ((besideStep hbeside writeHold_writes (by decide)).bind fun _ => ?_ : Steps R _) t
  apply (besideStep hbeside signEventRow_writes (by decide)).bind
  intro signed
  apply (signedEvent_steps (R := R)).bind
  intro retired
  exact (besideStep hbeside signBlocks_writes (by decide)).bind fun _ => .pure _

theorem guidChangeTransition_steps {signer : NodeSigner} {uuid : Nat → String}
    {oldGuid newGuid sourceUrl : String} {now : Int} {d : Db}
    (hbeside : ∀ s t, SameOutside (S := schema) besideTables s t → R s t)
    (hdelete : R d (deleteFeedSql oldGuid d).2) :
    R d (guidChangeTransition signer uuid oldGuid newGuid sourceUrl now d).2 := by
  have hsign : ∀ row, Steps R (signEventRow signer row) := fun _ =>
    besideStep hbeside signEventRow_writes (by decide)
  have hsupersede : Steps R (insertGuidSupersession oldGuid newGuid sourceUrl now) := by
    apply besideStep (w := [.feedGuidSupersessions]) hbeside _ (by decide)
    exact (Writes.insertOrIgnore (by decide)).bind fun _ => Writes.pure _
  have hclear : Steps R (deleteGuidChange sourceUrl) :=
    besideStep (w := [.feedGuidChanges]) hbeside (Writes.delete (by decide)) (by decide)
  apply Steps.transaction_at
  apply Steps.after hdelete
  intro _ t _
  refine ((hsign _).bind fun retired => ?_ : Steps R _) t
  apply hsupersede.bind
  intro _
  apply (hsign _).bind
  intro superseded
  apply Steps.read_then
  intro pending
  cases pending with
  | none => exact .pure _
  | some row =>
    apply hclear.bind
    intro _
    exact (hsign _).bind fun _ => .pure _

theorem handleSourceGoneReport_steps {env : IngestEnv} {req : IngestFeedRequest}
    (hanswer : ∀ s t, SameOutside (S := schema) [Table.sourceGoneAnswers] s t → R s t)
    (hretire : ∀ feedGuid row, Steps R (deleteFeedWithEvent env.signer feedGuid row [])) :
    Steps R (handleSourceGoneReport env req) := by
  apply Steps.read_then
  intro block
  refine Steps.ite (.pure _) (Steps.read_then fun held => ?_)
  cases held with
  | none => exact .pure _
  | some feedGuid =>
    apply Steps.read_then
    intro existing
    refine Steps.ite ?_ ?_
    · exact (hretire feedGuid _).mapError.bind fun _ => .pure _
    · have hrecord : Writes (S := schema) [Table.sourceGoneAnswers]
          (recordSourceGoneAnswer feedGuid req.sourceUrl (env.now .goneReport) req.httpStatus) :=
        Writes.upsert (by decide)
      exact ((hrecord.sameOutside (List.Subset.refl _)).mono hanswer).mapError.bind fun _ => .pure _

theorem handleSourceGoneReport_steps_at {env : IngestEnv} {req : IngestFeedRequest} {d : Db}
    (hanswer : ∀ s t, SameOutside (S := schema) [Table.sourceGoneAnswers] s t → R s t)
    (hretire : ∀ feedGuid reason now warnings eventId feed,
      getFeedByGuid d feedGuid = some feed →
        R d (deleteFeedWithEvent env.signer feedGuid
          (retireRow feedGuid reason now warnings eventId) [] d).2) :
    R d (handleSourceGoneReport env req d).2 := by
  unfold handleSourceGoneReport
  rw [read_bind_run]
  split
  · exact refl_of R d
  rw [read_bind_run]
  by_cases hcounts : sourceGoneReportCounts req env.sourceGoneHosts = true
  · simp only [hcounts, if_true]
    cases hsource : feedGuidForSourceUrl d req.sourceUrl with
    | none => exact refl_of R d
    | some feedGuid =>
      simp only
      rw [read_bind_run]
      split
      · rw [bind_pure_state, dbStep, mapError_state]
        obtain ⟨feed, hfind, rfl⟩ := Option.map_eq_some_iff.mp hsource
        obtain ⟨r, hr, rfl⟩ := List.mem_map.mp (List.mem_of_find?_eq_some hfind)
        have hfeed : getFeedByGuid d r.feed.feedGuid = some r.feed := by
          rw [getFeedByGuid, find_feed_of_mem hr]
          rfl
        exact hretire _ _ _ _ _ _ hfeed
      · have hrecord : Writes (S := schema) [Table.sourceGoneAnswers]
            (recordSourceGoneAnswer feedGuid req.sourceUrl (env.now .goneReport) req.httpStatus) :=
          Writes.upsert (by decide)
        rw [bind_pure_state, dbStep, mapError_state]
        exact hanswer _ _ (hrecord.sameOutside (List.Subset.refl _) d)
  · simp only [hcounts]
    exact refl_of R d

omit [Platform] in
theorem writeDeclarations_steps {body : IngestFeedData} {isMove : Bool}
    (hstate : ∀ s t, SameOutside (S := schema) [Table.feedMoveState] s t → R s t)
    (hcolumns : ∀ (p : FeedRow → Bool) (f : FeedRow → FeedRow), (∀ r, (f r).feed = r.feed) →
      Steps R (update (S := schema) .feeds p f)) :
    Steps R (writeDeclarations body isMove) := by
  have hself : ∀ url, Steps R (setDeclaredSelfUrl body.feedGuid url) :=
    fun _ => hcolumns _ _ fun _ => rfl
  have hmove : Steps R (setFeedMoveDeclarations body.feedGuid body.newFeedUrl body.locked
      body.lockedOwner) := hcolumns _ _ fun _ => rfl
  apply (hself _).mapError.bind
  intro _
  apply hmove.mapError.bind
  intro _
  have hclear : Writes (S := schema) [Table.feedMoveState]
      (clearArrivalTagUnless body.feedGuid body.newFeedUrl) := Writes.update (by decide)
  refine Steps.ite (.pure _) (Steps.mapError ?_)
  exact (hclear.sameOutside (List.Subset.refl _)).mono hstate

theorem relocateFeed_steps {env : OperatorEnv} {feedGuid newUrl reason eventId : String}
    (hbeside : ∀ s t, SameOutside (S := schema) besideTables s t → R s t)
    (hcolumns : ∀ (p : FeedRow → Bool) (f : FeedRow → FeedRow), (∀ r, (f r).feed = r.feed) →
      Steps R (update (S := schema) .feeds p f))
    (hurl : Steps R (update (S := schema) .feeds (fun r : FeedRow => r.feed.feedGuid == feedGuid)
      (fun r : FeedRow =>
        { r with
          feed := { r.feed with feedUrl := newUrl, lastBuildDate := none }
          feedHost := some (feedHostOf newUrl) }))) :
    Steps R (relocateFeed env feedGuid newUrl reason eventId) := by
  have hself : Steps R (setDeclaredSelfUrl feedGuid none) := hcolumns _ _ fun _ => rfl
  have hclear : Steps R (clearDeclaredNewFeedUrl feedGuid) := hcolumns _ _ fun _ => rfl
  apply Steps.read_then
  intro conflict
  refine Steps.ite (.pure _) (Steps.read_then fun stored => ?_)
  cases stored with
  | none => exact .fail _
  | some old =>
    apply hurl.bind
    intro _
    apply hself.bind
    intro _
    apply hclear.bind
    intro _
    apply (besideStep hbeside writeRelocationState_writes (by decide)).bind
    intro _
    apply Steps.read_then
    intro relocated
    cases relocated with
    | none => exact .fail _
    | some feed =>
      exact (besideStep hbeside signEventRow_writes (by decide)).bind fun _ => .pure _

theorem patchTrackRow_steps {env : OperatorEnv} {feedGuid trackGuid newUrl : String} {d : Db}
    (hbeside : ∀ s t, SameOutside (S := schema) besideTables s t → R s t)
    (hpatch : R d (update (S := schema) .tracks
      (fun r : Track => r.feedGuid == feedGuid && r.trackGuid == trackGuid)
      (fun r : Track => { r with enclosureUrl := some newUrl }) d).2) :
    R d (patchTrackRow env feedGuid trackGuid newUrl d).2 := by
  apply Steps.transaction_at
  apply Steps.after (Steps.mapError_at hpatch)
  intro _ t _
  refine (Steps.read_then fun updated => ?_ : Steps R _) t
  cases updated with
  | none => exact .fail _
  | some track =>
    refine Steps.read_then fun routes => Steps.read_then fun splits => ?_
    exact (besideStep hbeside signEventRow_writes (by decide)).mapError

theorem getFeedByGuid_conflicting {d : Db} {guid sourceUrl canonicalUrl heldGuid : String}
    (h : conflictingGuid d guid sourceUrl canonicalUrl = some heldGuid) :
    ∃ feed, getFeedByGuid d heldGuid = some feed := by
  obtain ⟨r, hr, rfl, -⟩ := conflictingGuid_row h
  exact ⟨r.feed, by rw [getFeedByGuid, find_feed_of_mem hr]; rfl⟩

theorem Operation.record_steps_at {d : Db} (operation : Operation)
    (hbeside : ∀ s t, SameOutside (S := schema) besideTables s t → R s t)
    (hcolumns : ∀ (p : FeedRow → Bool) (f : FeedRow → FeedRow), (∀ r, (f r).feed = r.feed) →
      Steps R (update (S := schema) .feeds p f))
    (hurl : ∀ feedGuid newUrl, Steps R (update (S := schema) .feeds
      (fun r : FeedRow => r.feed.feedGuid == feedGuid)
      (fun r : FeedRow =>
        { r with
          feed := { r.feed with feedUrl := newUrl, lastBuildDate := none }
          feedHost := some (feedHostOf newUrl) })))
    (hdelete : ∀ s feedGuid feed, getFeedByGuid s feedGuid = some feed →
      R s (deleteFeedSql feedGuid s).2)
    (hremove : ∀ env guid trackGuid, operation = .admin env true (.removeTrack guid trackGuid) →
      R d (handleRemoveTrack env guid trackGuid d).2)
    (hpatch : ∀ env request, operation = .admin env true request → request.Patches →
      ∀ feedGuid trackGuid newUrl, R d (update (S := schema) .tracks
        (fun r : Track => r.feedGuid == feedGuid && r.trackGuid == trackGuid)
        (fun r : Track => { r with enclosureUrl := some newUrl }) d).2)
    (hcontent : ∀ env snapshot req body, operation = .ingest env snapshot req →
      ReachesContent env snapshot d req body → ∀ e recordMove eventRows,
        Steps R (ingestTransaction env.toPrimaryEnv (env.uuid .staleTracks)
          (buildInput env req body e recordMove).content eventRows
          (recordMove.map (feedMoveWrite body)))) :
    R d (operation.next d) := by
  have hlogs : ∀ {ts types s t}, ts ⊆ besideTables → Logs ts types s t → R s t :=
    fun hts h => hbeside _ _ (h.frame.mono hts)
  cases operation with
  | ingest env snapshot req =>
    apply ingest_steps
    · intro _ _
      exact handleSourceGoneReport_steps_at (fun s t h => hbeside s t (h.mono (by decide)))
        fun feedGuid _ _ _ _ feed hfeed =>
          deleteFeedWithEvent_steps hbeside (hdelete d feedGuid feed hfeed)
    · exact fun s t h => hlogs (by decide) h.logs
    · intro body _ _ hclass _ _
      obtain ⟨-, stored, hstored, -⟩ := classifySubmission_update.mp hclass
      exact deleteFeedWithEvent_steps hbeside (hdelete d _ stored hstored)
    · exact fun body _ _ _ _ =>
        besideStep hbeside recordGuidChangeReturnForIngest_writes (by decide) d
    · exact fun body heldGuid _ _ _ =>
        besideStep hbeside recordGuidChangePendingForIngest_writes (by decide) d
    · intro body admission e hreach hheld _ hsame _
      apply admitContent_steps
      · intro heldGuid hpending
        rw [hpending] at hheld
        obtain ⟨-, hconflict⟩ :=
          classifySubmission_guidChange (SubmissionClass.held_eq_some.mp hheld.symm)
        obtain ⟨feed, hfeed⟩ := getFeedByGuid_conflicting hconflict
        refine guidChangeTransition_steps hbeside (hdelete e heldGuid feed ?_)
        rw [getFeedByGuid, hsame .feeds (by decide)]
        exact hfeed
      · exact fun eventRows _ => hcontent env snapshot req body rfl hreach e _ eventRows
      · exact fun isMove => writeDeclarations_steps
          (fun s t h => hbeside s t (h.mono (by decide))) hcolumns
      · exact fun s t h => hlogs (by decide) h.logs
  | admin env tokenAccepted request =>
    cases tokenAccepted with
    | false => exact refl_of R d
    | true =>
      have hlocal : ∀ s t, Logs blockTables operatorTypes s t → R s t :=
        fun s t h => hlogs (by decide) h
      apply AdminRequest.steps_parts
      · exact fun _ _ _ => createBlock_logs.mono hlocal
      · exact fun _ => removeBlock_logs.mono hlocal
      · exact fun _ _ _ _ _ _ _ _ h => hlocal _ _ (signResolution_logs.run h)
      · exact fun guid trackGuid heq => hremove env guid trackGuid (by rw [heq])
      · exact fun hpatches feedGuid trackGuid newUrl =>
          patchTrackRow_steps hbeside (hpatch env request rfl hpatches feedGuid trackGuid newUrl)
      · exact fun guid _ feed blocks _ hfeed =>
          deleteFeedWithEvent_steps hbeside (hdelete d guid feed hfeed)
      · exact fun guid newUrl reason eventId _ _ _ hrun =>
          (relocateFeed_steps hbeside hcolumns (hurl guid newUrl)).run hrun
      · exact fun guid => besideStep hbeside releaseRetiredSourceHold_writes (by decide) d
      · exact fun guid decision reason _ =>
          besideStep hbeside (decideGuidChangeRow_writes env) (by decide) d
  | seedBlocks env entries => exact hlogs (by decide) (seedBlocks_logs d)
  | fillRetiredSourceHolds =>
    refine fillRetiredSourceHolds_steps (fun hold => ?_) d
    exact besideStep (w := [.retiredSourceHolds]) hbeside (Writes.insertOrIgnore (by decide))
      (by decide)
  | peers write only => exact besideStep hbeside only (by decide) d

theorem Operation.record_steps {d : Db} (operation : Operation)
    (hbeside : ∀ s t, SameOutside (S := schema) besideTables s t → R s t)
    (hcolumns : ∀ (p : FeedRow → Bool) (f : FeedRow → FeedRow), (∀ r, (f r).feed = r.feed) →
      Steps R (update (S := schema) .feeds p f))
    (hurl : ∀ feedGuid newUrl, Steps R (update (S := schema) .feeds
      (fun r : FeedRow => r.feed.feedGuid == feedGuid)
      (fun r : FeedRow =>
        { r with
          feed := { r.feed with feedUrl := newUrl, lastBuildDate := none }
          feedHost := some (feedHostOf newUrl) })))
    (hdelete : ∀ feedGuid, Steps R (deleteFeedSql feedGuid))
    (hremove : ∀ env guid trackGuid, operation = .admin env true (.removeTrack guid trackGuid) →
      R d (handleRemoveTrack env guid trackGuid d).2)
    (hpatch : ∀ env request, operation = .admin env true request → request.Patches →
      ∀ feedGuid trackGuid newUrl, R d (update (S := schema) .tracks
        (fun r : Track => r.feedGuid == feedGuid && r.trackGuid == trackGuid)
        (fun r : Track => { r with enclosureUrl := some newUrl }) d).2)
    (hcontent : ∀ env snapshot req body, operation = .ingest env snapshot req →
      ReachesContent env snapshot d req body → ∀ e recordMove eventRows,
        Steps R (ingestTransaction env.toPrimaryEnv (env.uuid .staleTracks)
          (buildInput env req body e recordMove).content eventRows
          (recordMove.map (feedMoveWrite body)))) :
    R d (operation.next d) :=
  operation.record_steps_at hbeside hcolumns hurl
    (fun s feedGuid _ _ => hdelete feedGuid s) hremove hpatch hcontent

end

end Stophammer
