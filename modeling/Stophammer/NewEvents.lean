import Stophammer.Ingest.Handler
import Stophammer.Relational.Steps

/-!
# New events

The tables that a part of a request writes, with the types of the events that it appends to
the log.
-/

namespace Stophammer

open Relational Statement

/-- Beside `ts` the tables are the same, and the log has new events of these types. -/
abbrev Logs (ts : List Table) (types : List EventType) : Db → Db → Prop :=
  ExtendsOnly (S := schema) ts .events fun r : StoredEvent => r.eventType ∈ types

section

variable {ts : List Table} {types : List EventType}

theorem Logs.of_writes {us : List Table} {α : Type} {x : Stmt α}
    (hx : Writes (S := schema) us x) (hus : us ⊆ ts) (hlog : Table.events ∉ us) :
    Steps (Logs ts types) x := ExtendsOnly.of_writes hx hus hlog

theorem Logs.dbStep {us : List Table} {α : Type} {x : Stmt α}
    (hx : Writes (S := schema) us x) (hus : us ⊆ ts) (hlog : Table.events ∉ us) :
    Steps (Logs ts types) (dbStep x) := (Logs.of_writes hx hus hlog).mapError

theorem insertEvent_logs {signer : NodeSigner} {row : EventRow} (hts : Table.events ∈ ts)
    (htype : row.eventType ∈ types) : Steps (Logs ts types) (insertEvent signer row) := by
  intro d
  refine ⟨insertEvent_writes.sameOutside (by simpa using hts) d, ?_⟩
  rcases insertEvent_run signer row d with ⟨e, hrun, hcontents⟩ | ⟨err, hrun⟩
  · refine ⟨[signedRow signer row (nextSeq d)], ?_, ?_⟩
    · rw [hrun, hcontents, Contents.set_same]
    · intro r hr
      rw [List.mem_singleton.mp hr]
      exact htype
  · rw [hrun]
    exact ⟨[], (List.append_nil _).symm, fun _ hr => absurd hr List.not_mem_nil⟩

theorem insertEvents_logs {signer : NodeSigner} {rows : List EventRow}
    (hts : Table.events ∈ ts) (htypes : ∀ row ∈ rows, row.eventType ∈ types) :
    Steps (Logs ts types) (insertEvents signer rows) := by
  induction rows with
  | nil => exact .pure _
  | cons row rows ih =>
    apply (insertEvent_logs hts (htypes row List.mem_cons_self)).bind
    intro _
    exact (ih fun r hr => htypes r (List.mem_cons_of_mem _ hr)).bind fun _ => .pure _

variable [Platform]

omit [Platform] in
theorem signEventRow_logs {signer : NodeSigner} {row : EventRow} (hts : Table.events ∈ ts)
    (htype : row.eventType ∈ types) : Steps (Logs ts types) (signEventRow signer row) :=
  (insertEvent_logs hts htype).bind fun _ => .pure _

theorem signedEvent_steps {R : Db → Db → Prop} [IsPreorder Db R] {signed : SignedEventRow} :
    Steps R (signedEvent signed) := by
  unfold signedEvent
  split
  · exact .pure _
  · exact .fail _

theorem signedRowsToEvents_steps {R : Db → Db → Prop} [IsPreorder Db R]
    {rows : List SignedEventRow} : Steps R (signedRowsToEvents rows) := by
  unfold signedRowsToEvents
  split
  · exact .pure _
  · exact .fail _

def logLength (d : Db) : Nat := (d .events).length

omit [Platform] in
theorem Logs.length_le {d e : Db} (h : Logs ts types d e) : logLength d ≤ logLength e := by
  obtain ⟨rows, hrows, -⟩ := h.appended
  rw [logLength, logLength, hrows, List.length_append]
  exact Nat.le_add_right _ _

omit [Platform] in
theorem insertEvent_length {signer : NodeSigner} {row : EventRow} {d e : Db}
    {signed : Int × String × String} (h : insertEvent signer row d = (.ok signed, e)) :
    logLength e = logLength d + 1 := by
  rcases insertEvent_run signer row d with ⟨e', hrun, hcontents⟩ | ⟨err, hrun⟩
  · cases hrun.symm.trans h
    rw [logLength, logLength, hcontents, Contents.set_same, List.length_append]
    rfl
  · cases hrun.symm.trans h

omit [Platform] in
theorem signEventRow_length {signer : NodeSigner} {row : EventRow} {d e : Db}
    {signed : SignedEventRow} (h : signEventRow signer row d = (.ok signed, e)) :
    logLength d < logLength e := by
  obtain ⟨result, d₁, hinsert, hpure⟩ := bind_ok h
  cases hpure
  rw [insertEvent_length hinsert]
  exact Nat.lt_succ_self _

/-- The tables of what an ingest observes beside the content. -/
def observationTables : List Table :=
  [.feedUrlObservations, .feedCopies, .feedCopyOverflow, .events]

/-- The events about URLs and copies. -/
def observationTypes : List EventType := [.feedUrlObserved, .feedCopyObserved]

/-- Beside `ts` the tables are the same, and no URL has a new record without an event. -/
structure Observes (ts : List Table) (d e : Db) : Prop where
  logs : Logs ts observationTypes d e
  urls : e .feedUrlObservations = d .feedUrlObservations ∨ logLength d < logLength e

instance : IsPreorder Db (Observes ts) where
  refl d := ⟨refl_of _ d, .inl rfl⟩
  trans d e f hde hef := by
    refine ⟨trans_of _ hde.logs hef.logs, ?_⟩
    rcases hde.urls with hsame | hlt
    · rcases hef.urls with hsame' | hlt
      · exact .inl (hsame'.trans hsame)
      · exact .inr (Nat.lt_of_le_of_lt hde.logs.length_le hlt)
    · exact .inr (Nat.lt_of_lt_of_le hlt hef.logs.length_le)

omit [Platform] in
theorem Observes.mono {us : List Table} (hts : ts ⊆ us) {d e : Db} (h : Observes ts d e) :
    Observes us d e := ⟨h.logs.mono hts fun _ => id, h.urls⟩

omit [Platform] in
theorem Observes.of_writes {us : List Table} {α : Type} {x : Stmt α}
    (hx : Writes (S := schema) us x) (hus : us ⊆ ts) (hlog : Table.events ∉ us)
    (hurls : Table.feedUrlObservations ∉ us) : Steps (Observes ts) x := fun d =>
  ⟨Logs.of_writes hx hus hlog d, .inl (hx _ hurls d)⟩

omit [Platform] in
theorem signEventRow_observes {signer : NodeSigner} {row : EventRow} (hts : Table.events ∈ ts)
    (htype : row.eventType ∈ observationTypes) :
    Steps (Observes ts) (signEventRow signer row) := fun d =>
  ⟨signEventRow_logs hts htype d, .inl (signEventRow_writes .feedUrlObservations (by decide) d)⟩

theorem recordUrls_logs {signer : NodeSigner} {feedGuid : String} {now : Int}
    {urls : List (String × String)} :
    Steps (Logs observationTables observationTypes) (recordUrls signer feedGuid now urls) := by
  induction urls with
  | nil => exact .pure _
  | cons entry urls ih =>
    apply (Logs.of_writes recordFeedUrlObservation_writes (by decide) (by decide)).bind
    intro observation
    cases observation with
    | none => exact ih
    | some observation =>
      apply (signEventRow_logs (by decide) (show EventType.feedUrlObserved ∈ observationTypes by
        decide)).bind
      intro _
      exact ih.bind fun _ => .pure _

omit [Platform] in
theorem recordFeedUrlObservation_none {url feedGuid : String} {now : Int} {d e : Db}
    (h : recordFeedUrlObservation url feedGuid now d = (.ok none, e)) : e = d := by
  unfold recordFeedUrlObservation at h
  rw [read_bind_run] at h
  cases hstored : getFeedUrlObservation d url with
  | none =>
    rw [hstored] at h
    obtain ⟨_, d₁, -, hpure⟩ := bind_ok h
    cases hpure
  | some row =>
    rw [hstored] at h
    simp only at h
    split at h
    · cases h
      rfl
    · obtain ⟨_, d₁, -, hpure⟩ := bind_ok h
      cases hpure

theorem recordUrls_urls {signer : NodeSigner} {feedGuid : String} {now : Int}
    {urls : List (String × String)} {d e : Db} {rows : List SignedEventRow}
    (h : recordUrls signer feedGuid now urls d = (.ok rows, e)) :
    e .feedUrlObservations = d .feedUrlObservations ∨ logLength d < logLength e := by
  induction urls generalizing d rows with
  | nil =>
    cases h
    exact .inl rfl
  | cons entry urls ih =>
    obtain ⟨observation, d₁, hrecord, hrest⟩ := bind_ok h
    cases observation with
    | none =>
      rw [recordFeedUrlObservation_none hrecord] at hrest
      exact ih hrest
    | some observation =>
      obtain ⟨signed, d₂, hsign, hrest⟩ := bind_ok hrest
      obtain ⟨rest, d₃, hrest, hpure⟩ := bind_ok hrest
      cases hpure
      have hsame : logLength d₁ = logLength d :=
        congrArg List.length ((recordFeedUrlObservation_writes .events (by decide)).run hrecord)
      right
      rw [← hsame]
      exact Nat.lt_of_lt_of_le (signEventRow_length hsign) (recordUrls_logs.run hrest).length_le

theorem recordUrls_observes {signer : NodeSigner} {feedGuid : String} {now : Int}
    {urls : List (String × String)} :
    Steps (Observes observationTables) (transaction (recordUrls signer feedGuid now urls)) := by
  apply Steps.transaction_ok
  intro d rows e h
  exact ⟨recordUrls_logs.run h, recordUrls_urls h⟩

theorem recordFeedCopyForIngest_observes {signer : NodeSigner} {eventId feedGuid url : String}
    {body : IngestFeedData} {now : Int} :
    Steps (Observes observationTables)
      (recordFeedCopyForIngest signer eventId feedGuid url body now) := by
  have hcopies : ∀ {x : Stmt Unit}, Writes (S := schema) [Table.feedCopies] x →
      Steps (Observes observationTables) x :=
    fun hx => .of_writes hx (by decide) (by decide) (by decide)
  have hsummary : ∀ firstSeen, Steps (Observes observationTables)
      (upsertFeedCopySummary feedGuid url firstSeen (copySummary body)
        (summaryDigest (copySummary body)) (remoteItemsDigest (copySummary body))) :=
    fun _ => hcopies (Writes.upsert (by decide))
  have htouch : Steps (Observes observationTables)
      (touchFeedCopyLastSeen feedGuid url now) := hcopies (Writes.update (by decide))
  have hsign : ∀ {firstSeen}, Steps (Observes observationTables)
      (signEventRow signer (feedCopyObservedEventRow feedGuid url firstSeen (copySummary body)
        (summaryDigest (copySummary body)) now eventId)) :=
    signEventRow_observes (by decide) (show EventType.feedCopyObserved ∈ observationTypes by decide)
  have hoverflow : Steps (Observes observationTables) (incrementCopyOverflow feedGuid) :=
    have hwrites : Writes (S := schema) [Table.feedCopyOverflow] (incrementCopyOverflow feedGuid) :=
      Writes.upsert (by decide)
    .of_writes hwrites (by decide) (by decide) (by decide)
  apply Steps.transaction
  apply Steps.read_then
  intro stored
  cases stored with
  | some row =>
    apply htouch.bind
    intro _
    refine Steps.ite ?_ (.pure _)
    exact (hsummary _).bind fun _ => hsign.bind fun _ => .pure _
  | none =>
    apply Steps.read_then
    intro count
    refine Steps.ite (hoverflow.bind fun _ => .pure _) ?_
    apply (hsummary _).bind
    intro _
    exact htouch.bind fun _ => hsign.bind fun _ => .pure _

section Handlers

variable {env : IngestEnv} {req : IngestFeedRequest} {body : IngestFeedData}
  {warnings : List String}

section Steps

variable {R : Db → Db → Prop} [IsPreorder Db R]
  (hurls : ∀ feedGuid now urls,
    Steps R (transaction (recordUrls env.signer feedGuid now urls)))
  (hcopy : ∀ eventId feedGuid url body now,
    Steps R (recordFeedCopyForIngest env.signer eventId feedGuid url body now))

include hurls hcopy

theorem recordObservations_steps {mirrorSource : Option String} :
    Steps R (recordObservations env req body mirrorSource) := by
  apply (hurls _ _ _).mapError.bind
  intro observations
  cases mirrorSource with
  | none => exact .pure _
  | some sourceUrl =>
    apply (hcopy _ _ _ _ _).mapError.bind
    intro canonicalCopy
    exact .ite ((hcopy _ _ _ _ _).mapError.bind fun _ => .pure _) (.pure _)

theorem handleNoChange_steps : Steps R (handleNoChange env req) := by
  have hfinish : ∀ body mirrorSource, Steps R (handleNoChange.finish env req body mirrorSource) := by
    intro body mirrorSource
    apply (recordObservations_steps hurls hcopy).bind
    intro signedRows
    exact signedRowsToEvents_steps.bind fun _ => .pure _
  unfold handleNoChange
  cases req.feedData with
  | none => exact .pure _
  | some body =>
    apply Steps.read_then
    intro submissionClass
    cases submissionClass with
    | recordConflict => exact .pure _
    | guidChange _ => exact .pure _
    | update => exact hfinish _ _
    | newFeed => exact hfinish _ _
    | mirror _ => exact hfinish _ _

theorem decideMirror_steps {sourceUrl : String} :
    Steps R (decideMirror env req body warnings sourceUrl) := by
  have hfinish : ∀ refusalWarnings, Steps R
      (decideMirror.finish env req body sourceUrl refusalWarnings) := by
    intro refusalWarnings
    apply (recordObservations_steps hurls hcopy).bind
    intro signedRows
    exact signedRowsToEvents_steps.bind fun _ => .pure _
  apply Steps.read_then
  intro decision
  cases decision with
  | move target => exact .pure _
  | refused targetUrl => exact hfinish _
  | noTrigger => exact hfinish _
  | waitingRedirect _ => exact hfinish _

end Steps

theorem handleNoChange_observes :
    Steps (Observes observationTables) (handleNoChange env req) :=
  handleNoChange_steps (fun _ _ _ => recordUrls_observes)
    fun _ _ _ _ _ => recordFeedCopyForIngest_observes

theorem decideMirror_observes {sourceUrl : String} :
    Steps (Observes observationTables)
      (decideMirror env req body warnings sourceUrl) :=
  decideMirror_steps (fun _ _ _ => recordUrls_observes)
    fun _ _ _ _ _ => recordFeedCopyForIngest_observes

end Handlers

/-- The tables that a retirement writes. -/
def retireTables : List Table :=
  feedTables ++ [.retiredSourceHolds, .feedBlocks, .feedCopies, .events]

theorem signBlocks_logs {signer : NodeSigner} {createdAt : Int}
    {blocks : List (FeedBlock × String)} (hfeedBlocks : Table.feedBlocks ∈ ts)
    (hfeedCopies : Table.feedCopies ∈ ts) (hevents : Table.events ∈ ts)
    (hblocked : EventType.feedBlocked ∈ types) :
    Steps (Logs ts types) (signBlocks signer createdAt blocks) := by
  induction blocks with
  | nil => exact .pure _
  | cons entry blocks ih =>
    have hinsert : [Table.feedBlocks, Table.feedCopies] ⊆ ts := by
      simp [hfeedBlocks, hfeedCopies]
    apply (Logs.of_writes insertFeedBlock_writes hinsert (by decide)).bind
    intro changed
    refine Steps.ite ?_ ih
    apply (signEventRow_logs hevents hblocked).bind
    intro signed
    exact signedEvent_steps.bind fun _ => ih.bind fun _ => .pure _

theorem deleteFeedWithEvent_logs {signer : NodeSigner} {feedGuid : String} {row : EventRow}
    {blocks : List (FeedBlock × String)} (hblocked : EventType.feedBlocked ∈ types)
    (htype : row.eventType ∈ types) :
    Steps (Logs retireTables types) (deleteFeedWithEvent signer feedGuid row blocks) := by
  apply Steps.transaction
  apply Steps.read_then
  intro holdSourceUrl
  apply (Logs.of_writes deleteFeedSql_writes (by decide) (by decide)).bind
  intro _
  apply (Logs.of_writes writeHold_writes (by decide) (by decide)).bind
  intro _
  apply (signEventRow_logs (by decide) htype).bind
  intro signed
  refine Steps.bind signedEvent_steps fun retired => ?_
  exact (signBlocks_logs (by decide) (by decide) (by decide) hblocked).bind fun _ => .pure _

theorem handleSourceGoneReport_logs {env : IngestEnv} {req : IngestFeedRequest} :
    Steps (Logs retireTables [.feedRetired, .feedBlocked]) (handleSourceGoneReport env req) := by
  apply Steps.read_then
  intro block
  refine Steps.ite (.pure _) (Steps.read_then fun feedGuid => ?_)
  cases feedGuid with
  | none => exact .pure _
  | some feedGuid =>
    refine Steps.read_then fun existing => .ite ?_ ?_
    · refine Steps.bind (Steps.mapError ?_) fun _ => .pure _
      exact deleteFeedWithEvent_logs (by decide) List.mem_cons_self
    · have hrecord : Writes (S := schema) [Table.sourceGoneAnswers]
          (recordSourceGoneAnswer feedGuid req.sourceUrl (env.now .goneReport) req.httpStatus) :=
        Writes.upsert (by decide)
      exact (Logs.dbStep hrecord (by decide) (by decide)).bind fun _ => .pure _

theorem recordGuidChangePendingForIngest_logs {signer : NodeSigner}
    {eventId sourceUrl oldGuid newGuid : String} {now : Int} :
    Steps (Logs [.feedGuidChanges, .events] [.feedGuidChangeObserved])
      (recordGuidChangePendingForIngest signer eventId sourceUrl oldGuid newGuid now) := by
  have hchanges : ∀ {x : Stmt Unit}, Writes (S := schema) [Table.feedGuidChanges] x →
      Steps (Logs [.feedGuidChanges, .events] [.feedGuidChangeObserved]) x :=
    fun hx => .of_writes hx (by decide) (by decide)
  have hwrite : ∀ firstSeen isNewOrChanged,
      Steps (Logs [.feedGuidChanges, .events] [.feedGuidChangeObserved])
        (writePendingGuidChange signer eventId sourceUrl oldGuid newGuid firstSeen now
          isNewOrChanged) := by
    intro firstSeen isNewOrChanged
    apply Steps.transaction
    apply (hchanges (Writes.upsert (by decide))).bind
    intro _
    apply (hchanges (Writes.update (by decide))).bind
    intro _
    have hsign : Steps (Logs [.feedGuidChanges, .events] [.feedGuidChangeObserved])
        (signEventRow signer
          (guidChangeObservedEventRow sourceUrl oldGuid newGuid firstSeen now eventId)) :=
      signEventRow_logs (by decide) List.mem_cons_self
    exact Steps.ite (hsign.bind fun _ => .pure _) (.pure _)
  apply Steps.read_then
  intro existing
  exact .ite (.pure _) ((hwrite _ _).bind fun _ => .pure _)

theorem recordGuidChangeReturnForIngest_logs {signer : NodeSigner}
    {eventId sourceUrl guid : String} {now : Int} :
    Steps (Logs [.feedGuidChanges, .events] [.feedGuidChangeObserved])
      (recordGuidChangeReturnForIngest signer eventId sourceUrl guid now) := by
  apply Steps.read_then
  intro row
  cases row with
  | none => exact .pure _
  | some _ =>
    have hdelete : Writes (S := schema) [Table.feedGuidChanges] (deleteGuidChange sourceUrl) :=
      Writes.delete (by decide)
    have hsign : Steps (Logs [.feedGuidChanges, .events] [.feedGuidChangeObserved])
        (signEventRow signer (guidChangeObservedEventRow sourceUrl guid guid now now eventId)) :=
      signEventRow_logs (by decide) List.mem_cons_self
    apply Steps.transaction
    apply (Logs.of_writes hdelete (by decide) (by decide)).bind
    intro _
    exact hsign.bind fun _ => .pure _

def transitionTypes : List EventType :=
  [.feedRetired, .feedGuidSuperseded, .feedGuidChangeObserved]

theorem guidChangeTransition_logs {signer : NodeSigner} {uuid : Nat → String}
    {oldGuid newGuid sourceUrl : String} {now : Int} :
    Steps (Logs (feedTables ++ [.feedGuidSupersessions, .feedGuidChanges, .events])
      transitionTypes) (guidChangeTransition signer uuid oldGuid newGuid sourceUrl now) := by
  have hsupersede : Writes (S := schema) [Table.feedGuidSupersessions]
      (insertGuidSupersession oldGuid newGuid sourceUrl now) :=
    (Writes.insertOrIgnore (by decide)).bind fun _ => Writes.pure _
  have hdelete : Writes (S := schema) [Table.feedGuidChanges] (deleteGuidChange sourceUrl) :=
    Writes.delete (by decide)
  have hsign : ∀ row : EventRow, row.eventType ∈ transitionTypes →
      Steps (Logs (feedTables ++ [.feedGuidSupersessions, .feedGuidChanges, .events])
        transitionTypes) (signEventRow signer row) :=
    fun _ htype => signEventRow_logs (by decide) htype
  apply Steps.transaction
  apply (Logs.of_writes deleteFeedSql_writes (by decide) (by decide)).bind
  intro _
  apply (hsign _ (show EventType.feedRetired ∈ _ by decide)).bind
  intro retired
  apply (Logs.of_writes hsupersede (by decide) (by decide)).bind
  intro _
  apply (hsign _ (show EventType.feedGuidSuperseded ∈ _ by decide)).bind
  intro superseded
  apply Steps.read_then
  intro row
  cases row with
  | none => exact .pure _
  | some _ =>
    apply (Logs.of_writes hdelete (by decide) (by decide)).bind
    intro _
    exact (hsign _ (show EventType.feedGuidChangeObserved ∈ _ by decide)).bind fun _ => .pure _

def contentTables : List Table := feedTables ++ [.retiredSourceHolds, .events]

theorem ingestTransaction_logs {env : PrimaryEnv} {removalUuid : Nat → String} {c : IngestContent}
    {eventRows : List EventRow} {feedMove : Option FeedMoveWrite}
    (htypes : ∀ row ∈ eventRows, row.eventType ∈ contentTypes) :
    Steps (Logs contentTables (.trackRemoved :: contentTypes))
      (ingestTransaction env removalUuid c eventRows feedMove) := by
  have hquiet : ∀ {us : List Table} {α : Type} {x : Stmt α}, Writes (S := schema) us x →
      us ⊆ contentTables → Table.events ∉ us →
        Steps (Logs contentTables (.trackRemoved :: contentTypes)) x :=
    fun hx hus hlog => .of_writes hx hus hlog
  apply Steps.transaction
  apply (hquiet writeFeed_writes (by decide) (by decide)).bind
  intro _
  apply (hquiet replaceFeedSets_writes (by decide) (by decide)).bind
  intro _
  apply Steps.read_then
  intro staleGuids
  apply (hquiet (Writes.forEach fun _ => writeTrack_writes) (by decide) (by decide)).bind
  intro _
  apply (hquiet (Writes.forEach fun _ => removeStaleTrack_writes) (by decide) (by decide)).bind
  intro _
  have hrows : ∀ row ∈ eventRows ++
      assignIds removalUuid (staleGuids.map (trackRemovedEvent c.feed)),
        row.eventType ∈ EventType.trackRemoved :: contentTypes := by
    intro row hrow
    rcases List.mem_append.mp hrow with hrow | hrow
    · exact List.mem_cons_of_mem _ (htypes row hrow)
    · apply forall_assignIds _ row hrow
      intro draft hdraft eventId
      obtain ⟨trackGuid, -, rfl⟩ := List.mem_map.mp hdraft
      exact List.mem_cons_self
  apply (insertEvents_logs (by decide) hrows).bind
  intro seqs
  apply (hquiet syncSourceReadModelsForFeed_writes (by decide) (by decide)).bind
  intro _
  cases feedMove with
  | none => exact (Steps.pure ()).bind fun _ => .pure _
  | some mv =>
    exact (hquiet writeFeedMove_writes (by decide) (by decide)).bind fun _ => .pure _

end

end Stophammer
