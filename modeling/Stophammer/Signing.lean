import Stophammer.Primary

/-!
# Writes and signatures

The operations of a primary write tables beside the log, and sign new rows of it with the
text of a payload.  So a relation between states that holds along both holds along every
operation.
-/

namespace Stophammer

open Relational Statement

section

variable [Platform]

/-- The row carries the text of a payload, under its type. -/
def EventRow.OfPayload (row : EventRow) : Prop :=
  ∃ payload : EventPayload, row.eventType = payload.eventType ∧
    row.payloadJson = Platform.encodePayload payload

theorem eventDraft_ofPayload {payload : EventPayload} {subjectGuid eventId : String}
    {createdAt : Int} {warnings : List String} :
    (eventDraft payload subjectGuid createdAt warnings eventId).OfPayload := ⟨payload, rfl, rfl⟩

/-- `R` holds along each write beside the log, and along each new row of a payload. -/
structure SignRule (signer : NodeSigner) (R : Db → Db → Prop) : Prop where
  writes : ∀ {ts : List Table} {α : Type} {x : Stmt α}, Writes (S := schema) ts x →
    Table.events ∉ ts → Steps R x
  signs : ∀ row : EventRow, row.OfPayload → Steps R (insertEvent signer row)

end

theorem SignRule.dbStep [Platform] {signer : NodeSigner} {R : Db → Db → Prop}
    (hrule : SignRule signer R) {ts : List Table} {α : Type} {x : Stmt α}
    (hx : Writes (S := schema) ts x) (h : Table.events ∉ ts) : Steps R (dbStep x) :=
  (hrule.writes hx h).mapError

section Statements

variable [Platform] {signer : NodeSigner} {R : Db → Db → Prop} [IsPreorder Db R]
  (hrule : SignRule signer R)

include hrule

theorem signEventRow_along {row : EventRow} (hrow : row.OfPayload) :
    Steps R (signEventRow signer row) := (hrule.signs row hrow).bind fun _ => .pure _

theorem insertEvents_along {rows : List EventRow} (hrows : ∀ row ∈ rows, row.OfPayload) :
    Steps R (insertEvents signer rows) := by
  induction rows with
  | nil => exact .pure _
  | cons row rows ih =>
    apply (hrule.signs row (hrows row (by simp))).bind
    intro signed
    exact (ih fun r hr => hrows r (by simp [hr])).bind fun _ => .pure _

theorem signDraft_along {payload : EventPayload} {subjectGuid eventId : String}
    {createdAt : Int} {warnings : List String} :
    Steps R (signEventRow signer (eventDraft payload subjectGuid createdAt warnings eventId)) :=
  signEventRow_along hrule eventDraft_ofPayload

theorem recordUrls_along {feedGuid : String} {now : Int} {urls : List (String × String)} :
    Steps R (recordUrls signer feedGuid now urls) := by
  induction urls with
  | nil => exact .pure _
  | cons entry urls ih =>
    apply (hrule.writes recordFeedUrlObservation_writes (by decide)).bind
    intro observation
    cases observation with
    | none => exact ih
    | some observation =>
      exact (signDraft_along hrule).bind fun _ => ih.bind fun _ => .pure _

theorem recordFeedCopyForIngest_along {eventId feedGuid url : String}
    {feedData : IngestFeedData} {now : Int} :
    Steps R (recordFeedCopyForIngest signer eventId feedGuid url feedData now) := by
  have hcopies : ∀ {x : Stmt Unit}, Writes (S := schema) [Table.feedCopies, .feedCopyOverflow] x →
      Steps R x := fun hx => hrule.writes hx (by decide)
  apply Steps.transaction
  apply Steps.read_then
  intro stored
  cases stored with
  | some row =>
    apply (hcopies (Writes.update (by decide))).bind
    intro _
    apply Steps.ite
    · apply (hcopies (Writes.upsert (by decide))).bind
      intro _
      exact (signDraft_along hrule).bind fun _ => .pure _
    · exact .pure _
  | none =>
    apply Steps.read_then
    intro count
    apply Steps.ite
    · exact (hcopies (Writes.upsert (by decide))).bind fun _ => .pure _
    · apply (hcopies (Writes.upsert (by decide))).bind
      intro _
      apply (hcopies (Writes.update (by decide))).bind
      intro _
      exact (signDraft_along hrule).bind fun _ => .pure _

theorem recordGuidChangePendingForIngest_along
    {eventId sourceUrl oldGuid newGuid : String} {now : Int} :
    Steps R (recordGuidChangePendingForIngest signer eventId sourceUrl oldGuid newGuid now) := by
  have hchanges : ∀ {x : Stmt Unit}, Writes (S := schema) [Table.feedGuidChanges] x →
      Steps R x := fun hx => hrule.writes hx (by decide)
  have hwrite : ∀ firstSeen isNewOrChanged, Steps R
      (writePendingGuidChange signer eventId sourceUrl oldGuid newGuid firstSeen now
        isNewOrChanged) := by
    intro firstSeen isNewOrChanged
    apply Steps.transaction
    apply (hchanges (Writes.upsert (by decide))).bind
    intro _
    apply (hchanges (Writes.update (by decide))).bind
    intro _
    exact .ite ((signDraft_along hrule).bind fun _ => .pure _) (.pure _)
  apply Steps.read_then
  intro existing
  exact .ite (.pure _) ((hwrite _ _).bind fun _ => .pure _)

theorem recordGuidChangeReturnForIngest_along {eventId sourceUrl guid : String} {now : Int} :
    Steps R (recordGuidChangeReturnForIngest signer eventId sourceUrl guid now) := by
  apply Steps.read_then
  intro row
  cases row with
  | none => exact .pure _
  | some _ =>
    apply Steps.transaction
    have hdelete : Writes (S := schema) [Table.feedGuidChanges] (deleteGuidChange sourceUrl) :=
      Writes.delete (by decide)
    apply (hrule.writes hdelete (by decide)).bind
    intro _
    exact (signDraft_along hrule).bind fun _ => .pure _

theorem guidChangeTransition_along {uuid : Nat → String}
    {oldGuid newGuid sourceUrl : String} {now : Int} :
    Steps R (guidChangeTransition signer uuid oldGuid newGuid sourceUrl now) := by
  have hsupersede : Writes (S := schema) [Table.feedGuidSupersessions]
      (insertGuidSupersession oldGuid newGuid sourceUrl now) :=
    (Writes.insertOrIgnore (by decide)).bind fun _ => Writes.pure _
  have hdelete : Writes (S := schema) [Table.feedGuidChanges] (deleteGuidChange sourceUrl) :=
    Writes.delete (by decide)
  apply Steps.transaction
  apply (hrule.writes deleteFeedSql_writes (by decide)).bind
  intro _
  apply (signDraft_along hrule).bind
  intro retired
  apply (hrule.writes hsupersede (by decide)).bind
  intro _
  apply (signDraft_along hrule).bind
  intro superseded
  apply Steps.read_then
  intro row
  cases row with
  | none => exact .pure _
  | some _ =>
    apply (hrule.writes hdelete (by decide)).bind
    intro _
    exact (signDraft_along hrule).bind fun _ => .pure _

theorem signBlocks_along {createdAt : Int} {blocks : List (FeedBlock × String)} :
    Steps R (signBlocks signer createdAt blocks) := by
  induction blocks with
  | nil => exact .pure _
  | cons entry blocks ih =>
    apply (hrule.writes insertFeedBlock_writes (by decide)).bind
    intro changed
    apply Steps.ite
    · apply (signEventRow_along hrule ⟨.feedBlocked _, rfl, rfl⟩).bind
      intro signed
      exact signedEvent_steps.bind fun _ => ih.bind fun _ => .pure _
    · exact ih

theorem deleteFeedWithEvent_along {feedGuid : String} {row : EventRow}
    {blocks : List (FeedBlock × String)} (hrow : row.OfPayload) :
    Steps R (deleteFeedWithEvent signer feedGuid row blocks) := by
  apply Steps.transaction
  apply Steps.read_then
  intro sourceUrl
  apply (hrule.writes deleteFeedSql_writes (by decide)).bind
  intro _
  apply (hrule.writes writeHold_writes (by decide)).bind
  intro _
  apply (signEventRow_along hrule hrow).bind
  intro signed
  have hrest : ∀ retired : Event, Steps R (signBlocks signer row.createdAt blocks >>= fun blocked =>
      pure (retired :: blocked)) := fun _ => (signBlocks_along hrule).bind fun _ => .pure _
  exact signedEvent_steps.bind hrest

theorem ingestTransaction_along {env : PrimaryEnv} (henv : env.signer = signer)
    {removalUuid : Nat → String} {c : IngestContent} {eventRows : List EventRow}
    {feedMove : Option FeedMoveWrite} (hrows : ∀ row ∈ eventRows, row.OfPayload) :
    Steps R (ingestTransaction env removalUuid c eventRows feedMove) := by
  apply Steps.transaction
  apply (hrule.writes writeFeed_writes (by decide)).bind
  intro _
  apply (hrule.writes replaceFeedSets_writes (by decide)).bind
  intro _
  apply Steps.read_then
  intro staleGuids
  apply (hrule.writes (Writes.forEach fun _ => writeTrack_writes) (by decide)).bind
  intro _
  apply (hrule.writes (Writes.forEach fun _ => removeStaleTrack_writes) (by decide)).bind
  intro _
  rw [henv]
  have hsigned : ∀ row ∈ eventRows ++
      assignIds removalUuid (staleGuids.map (trackRemovedEvent c.feed)), row.OfPayload := by
    intro row hrow
    rcases List.mem_append.mp hrow with hrow | hrow
    · exact hrows row hrow
    · apply forall_assignIds _ row hrow
      intro draft hdraft eventId
      obtain ⟨trackGuid, -, rfl⟩ := List.mem_map.mp hdraft
      exact eventDraft_ofPayload
  apply (insertEvents_along hrule hsigned).bind
  intro seqs
  apply (hrule.writes syncSourceReadModelsForFeed_writes (by decide)).bind
  intro _
  cases feedMove with
  | none => exact (Steps.pure ()).bind fun _ => .pure _
  | some mv => exact (hrule.writes writeFeedMove_writes (by decide)).bind fun _ => .pure _

end Statements

section Ingest

variable [Platform] {env : IngestEnv} {R : Db → Db → Prop} [IsPreorder Db R]
  (hrule : SignRule env.signer R)
  {req : IngestFeedRequest} {body : IngestFeedData} {warnings : List String}

include hrule

theorem recordObservations_along {mirrorSource : Option String} :
    Steps R (recordObservations env req body mirrorSource) := by
  have hobserve : Steps R (dbStep (recordFeedUrlObservationsForIngest env.signer
      (env.uuid .urlObservations) req.canonicalUrl req.sourceUrl body.feedGuid
      (env.now .urlObservations))) :=
    (recordUrls_along hrule).transaction.mapError
  apply hobserve.bind
  intro observations
  cases mirrorSource with
  | none => exact .pure _
  | some sourceUrl =>
    apply (recordFeedCopyForIngest_along hrule).mapError.bind
    intro canonicalCopy
    apply Steps.ite
    · exact (recordFeedCopyForIngest_along hrule).mapError.bind fun _ => .pure _
    · exact .pure _

theorem handleSourceGoneReport_along : Steps R (handleSourceGoneReport env req) := by
  apply Steps.read_then
  intro block
  refine Steps.ite (.pure _) ?_
  apply Steps.read_then
  intro feedGuid
  cases feedGuid with
  | none => exact .pure _
  | some feedGuid =>
    apply Steps.read_then
    intro existing
    apply Steps.ite
    · exact (deleteFeedWithEvent_along hrule eventDraft_ofPayload).mapError.bind fun _ => .pure _
    · have hrecord : Writes (S := schema) [Table.sourceGoneAnswers]
          (recordSourceGoneAnswer feedGuid req.sourceUrl (env.now .goneReport) req.httpStatus) :=
        Writes.upsert (by decide)
      exact (hrule.dbStep hrecord (by decide)).bind fun _ => .pure _

theorem handleNoChange_along : Steps R (handleNoChange env req) := by
  have hfinish : ∀ body mirrorSource,
      Steps R (handleNoChange.finish env req body mirrorSource) := by
    intro body mirrorSource
    apply (recordObservations_along hrule).bind
    intro signedRows
    exact signedRowsToEvents_steps.bind fun _ => .pure _
  unfold handleNoChange
  cases req.feedData with
  | none => exact .pure _
  | some body =>
    apply Steps.read_then
    intro submissionClass
    cases submissionClass with
    | recordConflict => exact .pure _
    | guidChange _ => exact .pure _
    | update => exact hfinish _ _
    | newFeed => exact hfinish _ _
    | mirror _ => exact hfinish _ _

theorem decideUpdate_along : Steps R (decideUpdate env req body warnings) := by
  apply Steps.read_then
  intro stale
  refine Steps.ite (.pure _) ?_
  apply Steps.ite
  · exact (deleteFeedWithEvent_along hrule eventDraft_ofPayload).mapError.bind fun _ => .pure _
  · apply (recordGuidChangeReturnForIngest_along hrule).mapError.bind
    intro prefixEvents
    apply Steps.read_then
    intro decision
    cases decision with
    | noTrigger => exact .pure _
    | move target => exact .pure _
    | refused targetUrl => exact .pure _
    | waitingRedirect targetUrl => exact .pure _

theorem decideMirror_along {sourceUrl : String} :
    Steps R (decideMirror env req body warnings sourceUrl) := by
  have hfinish : ∀ refusalWarnings,
      Steps R (decideMirror.finish env req body sourceUrl refusalWarnings) := by
    intro refusalWarnings
    apply (recordObservations_along hrule).bind
    intro signedRows
    exact signedRowsToEvents_steps.bind fun _ => .pure _
  apply Steps.read_then
  intro decision
  cases decision with
  | move target => exact .pure _
  | refused targetUrl => exact hfinish _
  | noTrigger => exact hfinish _
  | waitingRedirect _ => exact hfinish _

theorem decideGuidChange_along {heldGuid : String} :
    Steps R (decideGuidChange env req body warnings heldGuid) := by
  apply Steps.read_then
  intro allowed
  refine Steps.ite (.pure _) ?_
  apply (recordGuidChangePendingForIngest_along hrule).mapError.bind
  intro outcome
  cases outcome with
  | rejected => exact .pure _
  | pending signedRows => exact signedRowsToEvents_steps.bind fun _ => .pure _

theorem decideCase_along : Steps R (decideCase env req body warnings) := by
  apply Steps.read_then
  intro submissionClass
  cases submissionClass with
  | update => exact decideUpdate_along hrule
  | newFeed =>
    apply Steps.read_then
    intro held
    exact .ite (.pure _) (.ite (.pure _) (.pure _))
  | mirror sourceUrl => exact decideMirror_along hrule
  | recordConflict => exact .pure _
  | guidChange heldGuid => exact decideGuidChange_along hrule

theorem admitContent_along {admission : Admission} :
    Steps R (admitContent env req body admission) := by
  apply Steps.read_then
  intro input
  refine Steps.ite (.fail _) ?_
  apply Steps.read_then
  intro existingLiveEvents
  apply Steps.read_bind
  intro d
  -- the rows are those of the state that is read here
  suffices hrest : ∀ eventRows : List EventRow, (∀ row ∈ eventRows, row.OfPayload) →
      Steps R (do
        let transitionRows ← runTransition env req body admission.pendingGuidTransition
        let prefixEvents := admission.prefixEvents ++ transitionRows
        let seqs ← dbStep (ingestTransaction env.toPrimaryEnv (env.uuid .staleTracks) input.content
          eventRows (admission.recordMove.map (feedMoveWrite body)))
        writeDeclarations body admission.recordMove.isSome
        let observations ← dbStep (recordFeedUrlObservationsForIngest env.signer
          (env.uuid .urlObservations) req.canonicalUrl req.sourceUrl body.feedGuid input.now)
        dbStep (upsertFeedCrawlCache req.canonicalUrl req.contentHash input.now)
        let events ← signedRowsToEvents (prefixEvents ++ signedPairs eventRows seqs ++ observations)
        pure (acceptedOutput
          (eventIdsOf prefixEvents ++ eventRows.map EventRow.eventId ++ eventIdsOf observations)
          (contentWarnings body input admission) events
          (buildLiveSseFramesForFeed body.feedGuid existingLiveEvents input.content.liveEvents
            events)) : Handler IngestOutput) by
    apply hrest
    exact forall_assignIds (forall_buildDiffEvents fun _ _ _ _ _ _ => eventDraft_ofPayload)
  intro eventRows hrows
  have htransition : Steps R (runTransition env req body admission.pendingGuidTransition) := by
    cases admission.pendingGuidTransition with
    | none => exact .pure _
    | some oldGuid => exact (guidChangeTransition_along hrule).mapError
  apply htransition.bind
  intro transitionRows
  apply (ingestTransaction_along hrule rfl hrows).mapError.bind
  intro seqs
  have hself : ∀ url, Writes (S := schema) [Table.feeds] (setDeclaredSelfUrl body.feedGuid url) :=
    fun _ => Writes.update (by decide)
  have hmove : Writes (S := schema) [Table.feeds] (setFeedMoveDeclarations body.feedGuid
      body.newFeedUrl body.locked body.lockedOwner) := Writes.update (by decide)
  have hclear : Writes (S := schema) [Table.feedMoveState]
      (clearArrivalTagUnless body.feedGuid body.newFeedUrl) := Writes.update (by decide)
  have hdeclare : Steps R (writeDeclarations body admission.recordMove.isSome) := by
    apply (hrule.dbStep (hself _) (by decide)).bind
    intro _
    apply (hrule.dbStep hmove (by decide)).bind
    intro _
    exact .ite (.pure _) (hrule.dbStep hclear (by decide))
  apply hdeclare.bind
  intro _
  apply (recordUrls_along hrule).transaction.mapError.bind
  intro observations
  have hcache : Writes (S := schema) [Table.feedCrawlCache]
      (upsertFeedCrawlCache req.canonicalUrl req.contentHash input.now) :=
    Writes.upsert (by decide)
  apply (hrule.dbStep hcache (by decide)).bind
  intro _
  exact signedRowsToEvents_steps.bind fun _ => .pure _

theorem handleIngestFeed_along {snapshot : Db} :
    Steps R (handleIngestFeed env snapshot req) := by
  unfold handleIngestFeed
  split
  · exact .pure _
  · refine Steps.ite (handleSourceGoneReport_along hrule) ?_
    split
    · exact .pure _
    · exact handleNoChange_along hrule
    · unfold writePhase
      split
      · exact .fail _
      · apply (decideCase_along hrule).bind
        intro decision
        cases decision with
        | answer output => exact .pure _
        | admitted admission => exact admitContent_along hrule

end Ingest

section Admin

variable [Platform] {env : OperatorEnv}

variable {R : Db → Db → Prop} [IsPreorder Db R] (hrule : SignRule env.signer R)

include hrule

theorem handleRetireFeed_along {guid : String} {block : Option Bool} :
    Steps R (handleRetireFeed env guid block) := by
  apply Steps.read_then
  intro feed
  cases feed with
  | none => exact .fail _
  | some feed => exact (deleteFeedWithEvent_along hrule eventDraft_ofPayload).mapError

theorem handleRemoveTrack_along {guid trackGuid : String} :
    Steps R (handleRemoveTrack env guid trackGuid) := by
  apply Steps.read_then
  intro track
  cases track with
  | none => exact .fail _
  | some _ =>
    refine Steps.bind (Steps.mapError (Steps.transaction ?_)) fun _ =>
      fanoutEvent_steps.bind fun _ => .pure _
    exact (hrule.writes deleteTrackSql_writes (by decide)).bind fun _ =>
      signDraft_along hrule

theorem handleCreateBlock_along {kind : FeedBlockKind} {value reason : String} :
    Steps R (handleCreateBlock env kind value reason) := by
  have hcreate : ∀ value reason, Steps R (createBlock env kind value reason) := by
    intro value reason
    apply Steps.transaction
    apply Steps.read_then
    intro existing
    cases existing with
    | some _ => exact .pure _
    | none =>
      apply (hrule.writes insertFeedBlock_writes (by decide)).bind
      intro _
      exact (signDraft_along hrule).bind fun _ => .pure _
  refine Steps.ite (.fail _) ((hcreate _ _).mapError.bind fun outcome => ?_)
  cases outcome with
  | conflict blockId => exact .fail _
  | created block signed => exact signedEvent_steps.mapError.bind fun _ => .pure _

theorem handleDeleteBlock_along {blockId : String} :
    Steps R (handleDeleteBlock env blockId) := by
  have hremove : Steps R (removeBlock env blockId) := by
    have hdelete : Writes (S := schema) [Table.feedBlocks] (deleteFeedBlock blockId) :=
      Writes.delete (by decide)
    apply Steps.transaction
    apply Steps.read_then
    intro found
    refine Steps.ite ?_ (.pure _)
    apply (hrule.writes hdelete (by decide)).bind
    intro _
    exact (signDraft_along hrule).bind fun _ => .pure _
  apply hremove.mapError.bind
  intro signed
  cases signed with
  | none => exact .fail _
  | some signed => exact signedEvent_steps.mapError.bind fun _ => .pure _

theorem handleDeleteRetiredSourceHold_along {guid : String} :
    Steps R (handleDeleteRetiredSourceHold env guid) := by
  apply Steps.read_then
  intro hold
  cases hold with
  | none => exact .fail _
  | some _ =>
    apply (hrule.dbStep releaseRetiredSourceHold_writes (by decide)).bind
    intro released
    exact .ite (.pure _) (.fail _)

theorem relocateFeed_along {feedGuid newUrl reason eventId : String} :
    Steps R (relocateFeed env feedGuid newUrl reason eventId) := by
  apply Steps.read_then
  intro conflict
  refine Steps.ite (.pure _) (Steps.read_then fun stored => ?_)
  cases stored with
  | none => exact .fail _
  | some old =>
    have hfeeds : ∀ {f : FeedRow → FeedRow} {p : FeedRow → Bool},
        Steps R (update (S := schema) .feeds p f) :=
      hrule.writes (show Writes (S := schema) [Table.feeds] _ from Writes.update (by decide))
        (by decide)
    apply hfeeds.bind
    intro _
    apply hfeeds.bind
    intro _
    apply hfeeds.bind
    intro _
    apply (hrule.writes writeRelocationState_writes (by decide)).bind
    intro _
    apply Steps.read_then
    intro relocated
    cases relocated with
    | none => exact .fail _
    | some feed => exact (signDraft_along hrule).bind fun _ => .pure _

theorem handlePatchFeed_along {guid : String} {feedUrl reason : Option String} :
    Steps R (handlePatchFeed env guid feedUrl reason) := by
  apply Steps.read_then
  intro feed
  cases feed with
  | none => exact .fail _
  | some _ =>
    cases feedUrl with
    | none => exact .pure _
    | some newUrl =>
      refine Steps.ite (.fail _)
        ((relocateFeed_along hrule).transaction.mapError.bind fun outcome => ?_)
      cases outcome with
      | conflict => exact .fail _
      | relocated signed => exact signedRowsToEvents_steps

theorem handleResolveCopy_along {guid url decision reason : String} :
    Steps R (handleResolveCopy env guid url decision reason) := by
  have hresolution : ∀ reason row eventId,
      Steps R (signResolution env guid decision reason row eventId) := by
    intro reason row eventId
    have hset : Writes (S := schema) [Table.feedCopies] (setFeedCopyResolution guid row.url decision
        reason env.now row.summaryDigest row.remoteItemsDigest) := Writes.update (by decide)
    apply (signDraft_along hrule).bind
    intro signed
    exact (hrule.writes hset (by decide)).bind fun _ => .pure _
  have hresolve : ∀ reason, Steps R (resolveCopy env guid url decision reason) := by
    intro reason
    apply Steps.transaction
    apply Steps.read_then
    intro feed
    refine Steps.ite (.pure _) (Steps.read_then fun copy => ?_)
    cases copy with
    | none => exact .pure _
    | some row =>
      refine Steps.ite ((relocateFeed_along hrule).bind fun outcome => ?_)
        ((hresolution _ _ _).bind fun _ => .pure _)
      cases outcome with
      | conflict => exact .pure _
      | relocated relocation => exact (hresolution _ _ _).bind fun _ => .pure _
  refine Steps.ite (.fail _) (Steps.ite (.fail _) ((hresolve _).mapError.bind fun outcome => ?_))
  cases outcome with
  | notFound => exact .fail _
  | conflict => exact .fail _
  | resolved signedRows => exact signedRowsToEvents_steps

theorem decideGuidChangeRow_along {guid decision reason : String} :
    Steps R (decideGuidChangeRow env guid decision reason) := by
  apply Steps.transaction
  apply Steps.read_then
  intro row
  cases row with
  | none => exact .pure _
  | some row =>
    have hset : Writes (S := schema) [Table.feedGuidChanges]
        (setGuidChangeDecision row.sourceUrl decision reason env.now) :=
      Writes.update (by decide)
    apply (hrule.writes hset (by decide)).bind
    intro _
    exact (signDraft_along hrule).bind fun _ => .pure _

theorem handleGuidChangeDecision_along {guid decision reason : String} :
    Steps R (handleGuidChangeDecision env guid decision reason) := by
  refine Steps.ite (.fail _) (Steps.ite (.fail _)
    ((decideGuidChangeRow_along hrule).mapError.bind fun signed => ?_))
  cases signed with
  | none => exact .fail _
  | some signed => exact signedRowsToEvents_steps

theorem patchResolvedTrack_along {feedGuid trackGuid : String}
    {enclosureUrl : Option String} :
    Steps R (patchResolvedTrack env feedGuid trackGuid enclosureUrl) := by
  cases enclosureUrl with
  | none => exact .pure _
  | some newUrl =>
    have hpatch : Steps R (patchTrackRow env feedGuid trackGuid newUrl) := by
      have htrack : ∀ {f : Track → Track} {p : Track → Bool},
          Writes (S := schema) [Table.tracks] (update (S := schema) .tracks p f) :=
        Writes.update (by decide)
      apply Steps.transaction
      apply (hrule.dbStep htrack (by decide)).bind
      intro _
      apply Steps.read_then
      intro updated
      cases updated with
      | none => exact .fail _
      | some track =>
        refine Steps.read_then fun routes => Steps.read_then fun splits => ?_
        exact (signDraft_along hrule).mapError
    exact hpatch.bind fun _ => fanoutEvent_steps.bind fun _ => .pure _

theorem handlePatchTrack_along {guid : String} {enclosureUrl : Option String} :
    Steps R (handlePatchTrack env guid enclosureUrl) := by
  apply Steps.read_then
  rintro (_ | ⟨track, _ | ⟨_, _⟩⟩)
  · exact .fail _
  · exact patchResolvedTrack_along hrule
  · exact .fail _

theorem handlePatchFeedTrack_along {feedGuid trackGuid : String}
    {enclosureUrl : Option String} :
    Steps R (handlePatchFeedTrack env feedGuid trackGuid enclosureUrl) := by
  apply Steps.read_then
  intro track
  cases track with
  | none => exact .fail _
  | some track => exact patchResolvedTrack_along hrule

theorem AdminRequest.handle_along (request : AdminRequest) : Steps R (request.handle env) := by
  cases request with
  | retireFeed => exact handleRetireFeed_along hrule
  | removeTrack => exact handleRemoveTrack_along hrule
  | createBlock => exact handleCreateBlock_along hrule
  | deleteBlock => exact handleDeleteBlock_along hrule
  | deleteRetiredSourceHold => exact handleDeleteRetiredSourceHold_along hrule
  | patchFeed => exact handlePatchFeed_along hrule
  | resolveCopy => exact handleResolveCopy_along hrule
  | decideGuidChange => exact handleGuidChangeDecision_along hrule
  | patchTrack => exact handlePatchTrack_along hrule
  | patchFeedTrack => exact handlePatchFeedTrack_along hrule

theorem seedEntries_along {entries : List (FeedBlockKind × String)} {index : Nat} :
    Steps R (seedEntries env index entries) := by
  induction entries generalizing index with
  | nil => exact .pure _
  | cons entry entries ih =>
    apply (hrule.writes insertFeedBlock_writes (by decide)).bind
    intro changed
    refine Steps.ite ((signDraft_along hrule).bind fun _ => ?_) ih
    exact ih.bind fun _ => .pure _

end Admin

section

variable [Platform] {signer : NodeSigner} {R : Db → Db → Prop} [IsPreorder Db R]
  (hrule : SignRule signer R)

include hrule

theorem fillRetiredSourceHolds_along : Steps R fillRetiredSourceHolds := by
  apply fillRetiredSourceHolds_steps
  intro hold
  have hinsert : Writes (S := schema) [Table.retiredSourceHolds]
      (insertOrIgnore (S := schema) .retiredSourceHolds hold) := Writes.insertOrIgnore (by decide)
  exact hrule.writes hinsert (by decide)

theorem Operation.along {d : Db} {operation : Operation} (hsigned : operation.SignedBy signer) :
    R d (operation.next d) := by
  cases operation with
  | ingest env snapshot req =>
    cases hsigned
    exact handleIngestFeed_along hrule d
  | admin env tokenAccepted request =>
    cases hsigned
    exact Steps.ite (AdminRequest.handle_along hrule request) (.fail _) d
  | seedBlocks env entries =>
    cases hsigned
    exact (seedEntries_along hrule).transaction d
  | fillRetiredSourceHolds => exact fillRetiredSourceHolds_along hrule d
  | peers write only => exact hrule.writes only (by decide) d

omit hrule in
theorem Operation.along_each (hrule : ∀ signer, SignRule signer R) {d : Db}
    (operation : Operation) : R d (operation.next d) := by
  cases operation with
  | ingest env snapshot req => exact Operation.along (hrule env.signer) rfl
  | admin env tokenAccepted request => exact Operation.along (hrule env.signer) rfl
  | seedBlocks env entries => exact Operation.along (hrule env.signer) rfl
  | fillRetiredSourceHolds =>
    exact Operation.along (hrule { pubkeyHex := "", sign := fun _ => "" }) trivial
  | peers write only =>
    exact Operation.along (hrule { pubkeyHex := "", sign := fun _ => "" }) trivial

end

end Stophammer
