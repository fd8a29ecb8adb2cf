import Stophammer.Primary
import Stophammer.Record

/-!
# What an operation does to a record

One relation for all of them: the record of a GUID stays, leaves, takes the content of a
body, or changes its URL.  A rule about records needs one case for each.
-/

namespace Stophammer

open Relational Statement

section

variable {d e : Db} {guid : String}

theorem updateFeeds_ends {feedGuid : String} {f : FeedRow → FeedRow}
    (hf : ∀ r, (f r).feed = r.feed) :
    Ends (update (S := schema) .feeds (fun r : FeedRow => r.feed.feedGuid == feedGuid) f) := by
  intro d
  obtain ⟨e, hrun, -⟩ := update_ok (S := schema) (t := .feeds) d
    (p := fun r : FeedRow => r.feed.feedGuid == feedGuid) (f := f)
    (fun r _ _ => by simp only [Table.keys, hf]) (fun _ _ _ => rfl) (fun _ _ _ => rfl)
  exact ⟨(), e, hrun⟩

theorem updateMoveState_ends {feedGuid : String} {f : MoveStateRow → MoveStateRow}
    (hf : ∀ r, (f r).feedGuid = r.feedGuid) :
    Ends (update (S := schema) .feedMoveState
      (fun r : MoveStateRow => r.feedGuid == feedGuid) f) := by
  intro d
  obtain ⟨e, hrun, -⟩ := update_ok (S := schema) (t := .feedMoveState) d
    (p := fun r : MoveStateRow => r.feedGuid == feedGuid) (f := f)
    (fun r _ _ => by simp only [Table.keys, hf]) (fun _ _ _ => rfl) (fun _ _ _ => rfl)
  exact ⟨(), e, hrun⟩

theorem writeDeclarations_record (body : IngestFeedData) (isMove : Bool) (d : Db) :
    ∃ e, writeDeclarations body isMove d = (.ok (), e) ∧ ∀ guid, record e guid =
      if guid = body.feedGuid then
        { record d guid with
          row := (record d guid).row.map (Record.declared body)
          move :=
            if isMove then (record d guid).move
            else (record d guid).move.map (Record.stayed body.newFeedUrl) }
      else record d guid := by
  have hself : Ends (setDeclaredSelfUrl body.feedGuid
      ((body.links.find? fun link => link.linkType == "self_feed").map IngestLink.url)) :=
    updateFeeds_ends fun _ => rfl
  have hmove : Ends (setFeedMoveDeclarations body.feedGuid body.newFeedUrl body.locked
      body.lockedOwner) := updateFeeds_ends fun _ => rfl
  have hclear : Ends (clearArrivalTagUnless body.feedGuid body.newFeedUrl) :=
    updateMoveState_ends fun _ => rfl
  obtain ⟨_, d₁, hself⟩ := hself d
  obtain ⟨_, d₂, hmove⟩ := hmove d₁
  have hdeclared : ∀ guid, record d₂ guid =
      if guid = body.feedGuid then
        { record d guid with row := (record d guid).row.map (Record.declared body) }
      else record d guid := by
    intro guid
    rw [updateFeeds_record hmove fun _ => rfl, updateFeeds_record hself fun _ => rfl]
    by_cases hguid : guid = body.feedGuid
    · simp only [if_pos hguid, Option.map_map]
      rfl
    · simp only [if_neg hguid]
  have hselfStep : dbStep (setDeclaredSelfUrl body.feedGuid
      ((body.links.find? fun link => link.linkType == "self_feed").map IngestLink.url)) d =
        (.ok (), d₁) := mapError_ok.mpr hself
  have hmoveStep : dbStep (setFeedMoveDeclarations body.feedGuid body.newFeedUrl body.locked
      body.lockedOwner) d₁ = (.ok (), d₂) := mapError_ok.mpr hmove
  unfold writeDeclarations
  rw [bind_run_ok hselfStep, bind_run_ok hmoveStep]
  cases isMove with
  | true =>
    refine ⟨d₂, rfl, fun guid => ?_⟩
    rw [hdeclared]
    simp only [if_true]
  | false =>
    obtain ⟨_, e, hclear⟩ := hclear d₂
    refine ⟨e, mapError_ok.mpr hclear, fun guid => ?_⟩
    rw [updateMoveState_record hclear fun _ => rfl, hdeclared]
    by_cases hguid : guid = body.feedGuid
    · simp only [if_pos hguid]
      rfl
    · simp only [if_neg hguid]

variable [Platform]

theorem deleteFeedWithEvent_record (signer : NodeSigner) (feedGuid : String) (row : EventRow)
    (blocks : List (FeedBlock × String)) (d : Db) (guid : String) :
    record (deleteFeedWithEvent signer feedGuid row blocks d).2 guid = record d guid ∨
      guid = feedGuid ∧
        record (deleteFeedWithEvent signer feedGuid row blocks d).2 guid = Record.empty := by
  rcases hrun : deleteFeedWithEvent signer feedGuid row blocks d with ⟨err | events, e⟩
  · rw [transaction_error hrun]
    exact .inl rfl
  · obtain ⟨holdSourceUrl, d₁, hread, h⟩ := bind_ok (transaction_ok.mp hrun)
    cases hread
    obtain ⟨_, d₂, hdelete, h⟩ := bind_ok h
    have hrest : ∀ {holdSourceUrl : Option String}, Writes (S := schema)
        [Table.retiredSourceHolds, .feedBlocks, .feedCopies, .events] (do
          writeHold feedGuid row.payloadJson row.createdAt holdSourceUrl
          let signed ← signEventRow signer row
          let retired ← signedEvent signed
          let blocked ← signBlocks signer row.createdAt blocks
          pure (retired :: blocked)) := by
      intro holdSourceUrl
      apply (writeHold_writes.mono (by decide)).bind
      intro _
      apply (signEventRow_writes.mono (by decide)).bind
      intro signed
      apply signedEvent_writes.bind
      intro retired
      exact (signBlocks_writes.mono (by decide)).bind fun _ => Writes.pure _
    have hsame : record e guid = record d₂ guid :=
      record_sameOutside ((hrest.sameOutside (List.Subset.refl _)).run h) (by decide) guid
    simp only [hsame, deleteFeedSql_record hdelete]
    by_cases hguid : guid = feedGuid
    · simp [hguid]
    · simp [hguid]

theorem guidChangeTransition_record (signer : NodeSigner) (uuid : Nat → String)
    (oldGuid newGuid sourceUrl : String) (now : Int) (d : Db) (guid : String) :
    record (guidChangeTransition signer uuid oldGuid newGuid sourceUrl now d).2 guid =
        record d guid ∨
      guid = oldGuid ∧
        record (guidChangeTransition signer uuid oldGuid newGuid sourceUrl now d).2 guid =
          Record.empty := by
  rcases hrun : guidChangeTransition signer uuid oldGuid newGuid sourceUrl now d with
    ⟨err | signedRows, e⟩
  · rw [transaction_error hrun]
    exact .inl rfl
  · obtain ⟨_, d₁, hdelete, h⟩ := bind_ok (transaction_ok.mp hrun)
    have hsupersede : Writes (S := schema) [Table.feedGuidSupersessions, .feedGuidChanges, .events]
        (insertGuidSupersession oldGuid newGuid sourceUrl now) :=
      (Writes.insertOrIgnore (by decide)).bind fun _ => Writes.pure _
    obtain ⟨retired, d₂, hretired, h⟩ := bind_ok h
    obtain ⟨_, d₃, hinsert, h⟩ := bind_ok h
    obtain ⟨superseded, d₄, hsigned, h⟩ := bind_ok h
    rw [read_bind_run] at h
    have hevents : ∀ {d e : Db} {row : EventRow} {signed : SignedEventRow},
        signEventRow signer row d = (.ok signed, e) → record e guid = record d guid := by
      intro d e row signed hsign
      exact record_sameOutside ((signEventRow_writes.sameOutside (List.Subset.refl _)).run hsign)
        (by decide) guid
    have hmarked : record e guid = record d₄ guid := by
      cases hrow : getGuidChange d₄ sourceUrl with
      | none =>
        rw [hrow] at h
        cases h
        rfl
      | some _ =>
        rw [hrow] at h
        obtain ⟨_, d₅, hgone, h⟩ := bind_ok h
        obtain ⟨marker, d₆, hmarker, hpure⟩ := bind_ok h
        cases hpure
        have hdeleted : SameOutside (S := schema) [Table.feedGuidChanges] d₄ d₅ :=
          sameOutside_of_run (Writes.delete (by decide)) hgone
        rw [hevents hmarker, record_sameOutside hdeleted (by decide)]
    have hinserted : record d₃ guid = record d₂ guid :=
      record_sameOutside ((hsupersede.sameOutside (List.Subset.refl _)).run hinsert)
        (by decide) guid
    simp only [hmarked, hevents hsigned, hinserted, hevents hretired, deleteFeedSql_record hdelete]
    by_cases hguid : guid = oldGuid
    · simp [hguid]
    · simp [hguid]

omit [Platform] in
theorem writeRelocationState_ends {feedGuid oldUrl newUrl : String} :
    Ends (writeRelocationState feedGuid oldUrl newUrl) := by
  have hadd : Ends (addLeftUrl feedGuid oldUrl) :=
    (Ends.insertOrIgnore rfl).bind fun _ => Ends.pure _
  have hremove : Ends (removeLeftUrl feedGuid newUrl) := Ends.delete (leaf_of_ne (by decide) (by decide))
  apply hadd.bind
  intro _
  apply hremove.bind
  intro _ d
  obtain ⟨e, hrun, -⟩ := upsert_run (S := schema) (t := .feedMoveState) (d := d)
    (p := fun r : MoveStateRow => r.feedGuid == feedGuid)
    (r := { feedGuid := feedGuid
            arrivalTag := none
            returnCount := 0
            lastReturnAt := none
            arrivalPending := true })
    (f := fun r : MoveStateRow =>
      { r with arrivalTag := none, returnCount := 0, arrivalPending := true })
    (fun r' _ hp k hk hk' => by
      simp only [Table.keys, List.mem_singleton] at hk hk'
      cases hk.symm.trans hk'
      simp at hp)
    rfl (fun k hk => by cases hk) (fun _ _ _ => rfl) (fun _ _ _ => rfl) (fun _ _ _ => rfl)
  exact ⟨(), e, hrun⟩

omit [Platform] in
theorem writeRelocationState_record {feedGuid oldUrl newUrl : String} {a : Unit}
    (h : writeRelocationState feedGuid oldUrl newUrl d = (.ok a, e)) :
    record e guid =
      if guid = feedGuid then
        { record d guid with
          left := Record.leave (record d guid).left oldUrl newUrl
          move := some (Record.awaiting feedGuid (record d guid).move) }
      else record d guid := by
  obtain ⟨_, d₁, hadd, h⟩ := bind_ok h
  obtain ⟨_, d₂, hremove, hawait⟩ := bind_ok h
  have hleft : (addLeftUrl feedGuid oldUrl >>= fun _ => removeLeftUrl feedGuid newUrl) d =
      (.ok (), d₂) := by rw [bind_run_ok hadd, hremove]
  have hleave : record d₂ guid = _ := leaveUrl_record hleft
  rw [upsertMoveState_record hawait rfl fun _ => rfl, hleave]
  by_cases hguid : guid = feedGuid
  · simp only [if_pos hguid, Record.awaiting]
    cases (record d guid).move <;> rfl
  · simp only [if_neg hguid]

theorem relocateFeed_record (env : OperatorEnv) (feedGuid newUrl reason eventId : String) (d : Db)
    (guid : String) :
    record (relocateFeed env feedGuid newUrl reason eventId d).2 guid = record d guid ∨
      guid = feedGuid ∧ ∃ row, (record d guid).row = some row ∧
        record (relocateFeed env feedGuid newUrl reason eventId d).2 guid =
          (record d guid).relocated guid row.feed.feedUrl newUrl := by
  unfold relocateFeed
  rw [read_bind_run]
  split
  · exact .inl rfl
  rw [read_bind_run]
  cases hold : getFeedByGuid d feedGuid with
  | none => exact .inl rfl
  | some old =>
    obtain ⟨row, hrow, rfl⟩ := Option.map_eq_some_iff.mp ((getFeedByGuid_record d feedGuid) ▸ hold)
    simp only
    rw [bind_run]
    rcases hupdate : update (S := schema) .feeds (fun r : FeedRow => r.feed.feedGuid == feedGuid)
        (fun r : FeedRow =>
          { r with
            feed := { r.feed with feedUrl := newUrl, lastBuildDate := none }
            feedHost := some (feedHostOf newUrl) }) d with ⟨err | a, d₁⟩
    · rw [modify_error_state hupdate]
      exact .inl rfl
    have hself : Ends (setDeclaredSelfUrl feedGuid none) := updateFeeds_ends fun _ => rfl
    have hclear : Ends (clearDeclaredNewFeedUrl feedGuid) := updateFeeds_ends fun _ => rfl
    obtain ⟨_, d₂, hself⟩ := hself d₁
    obtain ⟨_, d₃, hclear⟩ := hclear d₂
    have hstate : Ends (writeRelocationState feedGuid row.feed.feedUrl newUrl) :=
      writeRelocationState_ends
    obtain ⟨_, d₄, hstate⟩ := hstate d₃
    have hrelocated : record d₄ guid = record d guid ∨
        guid = feedGuid ∧ ∃ row, (record d guid).row = some row ∧
          record d₄ guid = (record d guid).relocated guid row.feed.feedUrl newUrl := by
      rw [writeRelocationState_record hstate, updateFeeds_record hclear fun _ => rfl,
        updateFeeds_record hself fun _ => rfl, updateFeeds_record hupdate fun _ => rfl]
      by_cases hguid : guid = feedGuid
      · subst hguid
        refine .inr ⟨rfl, row, hrow, ?_⟩
        simp only [if_true, Option.map_map]
        rfl
      · left
        simp only [if_neg hguid]
    simp only
    rw [bind_run_ok hself, bind_run_ok hclear, bind_run_ok hstate, read_bind_run]
    cases getFeedByGuid d₄ feedGuid with
    | none => exact hrelocated
    | some feed =>
      -- from here on only the log changes
      have hsign : Steps (SameOutside (S := schema) [Table.events])
          (signEventRow env.signer
            (eventDraft (.feedUpserted { feed := feed, reason := some reason }) feedGuid env.now []
              eventId) >>= fun signed => pure (RelocateOutcome.relocated signed)) :=
        (signEventRow_writes.sameOutside (List.Subset.refl _)).bind fun _ => .pure _
      have hsame := record_sameOutside (hsign d₄) (by decide) guid
      simp only at hsame ⊢
      rw [hsame]
      exact hrelocated

/-- The report of a crawler counts against the source of the record. -/
structure CountedGoneReport (env : IngestEnv) (d : Db) (req : IngestFeedRequest)
    (feedGuid : String) : Prop where
  authentic : env.chain.authenticate req = none
  gone : isGoneReport req = true
  counts : sourceGoneReportCounts req env.sourceGoneHosts = true
  source : feedGuidForSourceUrl d req.sourceUrl = some feedGuid

/-- The first counted answer is old enough to retire the record. -/
def isLateAnswer (env : IngestEnv) (answer : Option SourceGoneAnswer) : Bool :=
  answer.any fun row => sourceGoneRetireAfterSecs ≤ env.now .goneReport - row.firstGoneAt

omit [Platform] in
theorem recordSourceGoneAnswer_record (feedGuid sourceUrl : String) (now : Int) (status : Nat)
    (d : Db) (guid : String) :
    record (recordSourceGoneAnswer feedGuid sourceUrl now status d).2 guid = record d guid ∨
      guid = feedGuid ∧
        record (recordSourceGoneAnswer feedGuid sourceUrl now status d).2 guid =
          (record d guid).answered guid sourceUrl now status := by
  rcases hrun : recordSourceGoneAnswer feedGuid sourceUrl now status d with ⟨err | _, e⟩
  · rw [upsert_error_state hrun]
    exact .inl rfl
  · have hrow : getSourceGoneAnswer e guid = _ := upsert_lookup (S := schema)
      (t := .sourceGoneAnswers) (fun r : SourceGoneAnswer => r.feedGuid) hrun rfl (fun _ h => h) guid
    have hanswers : record e guid = _ :=
      record_answers (sameOutside_of_run (Writes.upsert (by decide)) hrun)
    simp only [hanswers, hrow]
    by_cases hguid : guid = feedGuid
    · subst hguid
      refine .inr ⟨rfl, ?_⟩
      simp only [if_true, Record.answered, record, getSourceGoneAnswer]
      cases (d .sourceGoneAnswers).find? fun r : SourceGoneAnswer => r.feedGuid == guid <;> rfl
    · left
      simp only [if_neg hguid]
      rfl

theorem handleSourceGoneReport_record {env : IngestEnv} {req : IngestFeedRequest}
    (hauth : env.chain.authenticate req = none) (hgone : isGoneReport req = true) :
    record (handleSourceGoneReport env req d).2 guid = record d guid ∨
      CountedGoneReport env d req guid ∧
        record (handleSourceGoneReport env req d).2 guid =
          if isLateAnswer env (record d guid).gone then Record.empty
          else (record d guid).answered guid req.sourceUrl (env.now .goneReport) req.httpStatus := by
  unfold handleSourceGoneReport
  rw [read_bind_run]
  split
  · exact .inl rfl
  rw [read_bind_run]
  by_cases hcounts : sourceGoneReportCounts req env.sourceGoneHosts = true
  · simp only [hcounts, if_true]
    cases hsource : feedGuidForSourceUrl d req.sourceUrl with
    | none => exact .inl rfl
    | some feedGuid =>
      simp only
      rw [read_bind_run]
      have hreport : CountedGoneReport env d req feedGuid := ⟨hauth, hgone, hcounts, hsource⟩
      split
      · rename_i hlate
        rw [bind_pure_state, dbStep, mapError_state]
        rcases deleteFeedWithEvent_record env.signer feedGuid _ [] d guid with
          hsame | ⟨rfl, hempty⟩
        · exact .inl hsame
        · refine .inr ⟨hreport, ?_⟩
          rw [hempty, if_pos]
          exact hlate
      · rename_i hlate
        rw [bind_pure_state, dbStep, mapError_state]
        rcases recordSourceGoneAnswer_record feedGuid req.sourceUrl (env.now .goneReport)
          req.httpStatus d guid with hsame | ⟨rfl, hanswered⟩
        · exact .inl hsame
        · refine .inr ⟨hreport, ?_⟩
          rw [hanswered, if_neg]
          exact hlate
  · simp only [hcounts]
    exact .inl rfl

def contentFeed (env : IngestEnv) (req : IngestFeedRequest) (body : IngestFeedData) (d : Db)
    (recordMove : Option RecordMove) : Feed :=
  (buildInput env req body d recordMove).content.feed

theorem runTransition_record (env : IngestEnv) (req : IngestFeedRequest) (body : IngestFeedData)
    (heldGuid : Option String) (d : Db) (guid : String) :
    record (runTransition env req body heldGuid d).2 guid = record d guid ∨
      heldGuid = some guid ∧
        record (runTransition env req body heldGuid d).2 guid = Record.empty := by
  cases heldGuid with
  | none => exact .inl rfl
  | some oldGuid =>
    rw [runTransition, dbStep, mapError_state]
    rcases guidChangeTransition_record env.signer (env.uuid .guidTransition) oldGuid body.feedGuid
      req.sourceUrl (env.now .content) d guid with hsame | ⟨rfl, hempty⟩
    · exact .inl hsame
    · exact .inr ⟨rfl, hempty⟩

/-- What is made of the signed rows changes no record. -/
def RestOfContent (rest : List (Int × String × String) → Handler IngestOutput) : Prop :=
  ∀ seqs, Steps (SameOutside (S := schema) (.feedCrawlCache :: observationTables)) (rest seqs)

theorem content_state {P : Db → Prop} {env : PrimaryEnv} {removalUuid : Nat → String}
    {c : IngestContent} {eventRows : List EventRow} {body : IngestFeedData}
    {recordMove : Option RecordMove} {rest : List (Int × String × String) → Handler IngestOutput}
    {d : Db} (hfeed : c.feed.feedGuid = body.feedGuid) (hrest : RestOfContent rest) (hfail : P d)
    (hwritten : ∀ e, (∀ guid, record e guid =
      if guid = body.feedGuid then (record d guid).written c.feed body recordMove
      else record d guid) → P e) :
    P ((dbStep (ingestTransaction env removalUuid c eventRows
        (recordMove.map (feedMoveWrite body))) >>= fun seqs =>
      writeDeclarations body recordMove.isSome >>= fun _ => rest seqs) d).2 := by
  rw [bind_run]
  rcases htransaction : dbStep (ingestTransaction env removalUuid c eventRows
    (recordMove.map (feedMoveWrite body))) d with ⟨err | seqs, t⟩
  · have hsame : t = d := by
      have hstate := mapError_state ApiError.ofDb (ingestTransaction env removalUuid c eventRows
        (recordMove.map (feedMoveWrite body))) d
      rw [← dbStep, htransaction] at hstate
      rcases hrun : ingestTransaction env removalUuid c eventRows
        (recordMove.map (feedMoveWrite body)) d with ⟨err' | seqs, t'⟩
      · rw [hrun] at hstate
        exact hstate.trans (transaction_error hrun)
      · have hok := mapError_ok (f := ApiError.ofDb).mpr hrun
        rw [← dbStep, htransaction] at hok
        cases hok
    rw [hsame]
    exact hfail
  · have hstored : ∀ guid, record t guid = _ := fun guid =>
      ingestTransaction_record (mapError_ok.mp htransaction)
    obtain ⟨u, hdeclare, hdeclared⟩ := writeDeclarations_record body recordMove.isSome t
    simp only
    rw [bind_run_ok hdeclare]
    apply hwritten
    intro guid
    rw [record_sameOutside (hrest seqs u) (by decide), hdeclared, hstored, hfeed]
    by_cases hguid : guid = body.feedGuid
    · simp only [if_pos hguid, Record.written, Record.stored]
      cases recordMove with
      | none => rfl
      | some mv => rfl
    · simp only [if_neg hguid]

theorem admitContent_record (env : IngestEnv) (req : IngestFeedRequest) (body : IngestFeedData)
    (admission : Admission) (d : Db) (guid : String)
    (hheld : admission.pendingGuidTransition ≠ some body.feedGuid) :
    record (admitContent env req body admission d).2 guid = record d guid ∨
      (admission.pendingGuidTransition = some guid ∧
        record (admitContent env req body admission d).2 guid = Record.empty) ∨
      guid = body.feedGuid ∧
        record (admitContent env req body admission d).2 guid =
          (record d guid).written (contentFeed env req body d admission.recordMove) body
            admission.recordMove := by
  have hcache : ∀ now, Writes (S := schema) [Table.feedCrawlCache]
      (upsertFeedCrawlCache req.canonicalUrl req.contentHash now) :=
    fun _ => Writes.upsert (by decide)
  unfold admitContent
  rw [read_bind_run]
  split
  · exact .inl rfl
  rw [read_bind_run, read_bind_run, bind_run]
  have hretired := runTransition_record env req body admission.pendingGuidTransition d guid
  rcases htransition : runTransition env req body admission.pendingGuidTransition d with
    ⟨err | rows, t⟩
  · rw [htransition] at hretired
    rcases hretired with hsame | hempty
    · exact .inl hsame
    · exact .inr (.inl hempty)
  · rw [htransition] at hretired
    apply content_state (P := fun e => record e guid = record d guid ∨
      (admission.pendingGuidTransition = some guid ∧ record e guid = Record.empty) ∨
      guid = body.feedGuid ∧ record e guid = (record d guid).written
        (contentFeed env req body d admission.recordMove) body admission.recordMove)
    · rfl
    · intro seqs
      apply (dbStep_sameOutside recordUrls_writes.transaction (by decide)).bind
      intro observations
      apply (dbStep_sameOutside (hcache _) (by decide)).bind
      intro _
      exact signedRowsToEvents_steps.bind fun _ => .pure _
    · rcases hretired with hsame | hempty
      · exact .inl hsame
      · exact .inr (.inl hempty)
    · intro e hrecord
      rw [hrecord]
      by_cases hguid : guid = body.feedGuid
      · rw [if_pos hguid]
        rcases hretired with hsame | ⟨hpending, -⟩
        · rw [show record t guid = record d guid from hsame]
          exact .inr (.inr ⟨hguid, rfl⟩)
        · exact absurd (hguid ▸ hpending) hheld
      · rw [if_neg hguid]
        rcases hretired with hsame | hempty
        · exact .inl hsame
        · exact .inr (.inl hempty)

/-- What an operation makes of the record of a GUID. -/
inductive Change (d : Db) (guid : String) : Operation → Record → Prop
  | same (operation : Operation) : Change d guid operation (record d guid)
  | answered {env : IngestEnv} {snapshot : Db} {req : IngestFeedRequest}
      (report : CountedGoneReport env d req guid)
      (early : isLateAnswer env (record d guid).gone = false) :
      Change d guid (.ingest env snapshot req)
        ((record d guid).answered guid req.sourceUrl (env.now .goneReport) req.httpStatus)
  | sourceGone {env : IngestEnv} {snapshot : Db} {req : IngestFeedRequest}
      (report : CountedGoneReport env d req guid)
      (late : isLateAnswer env (record d guid).gone = true) :
      Change d guid (.ingest env snapshot req) Record.empty
  | sourceBlocked {env : IngestEnv} {snapshot : Db} {req : IngestFeedRequest}
      {body : IngestFeedData} (carries : req.feedData = some body) (own : body.feedGuid = guid)
      (blocks : sourceBlocksThisIndex body.blocks = true) :
      Change d guid (.ingest env snapshot req) Record.empty
  | superseded {env : IngestEnv} {snapshot : Db} {req : IngestFeedRequest} {body : IngestFeedData}
      (reaches : ReachesContent env snapshot d req body)
      (held : classifySubmission d body.feedGuid req.sourceUrl req.canonicalUrl =
        .guidChange guid) :
      Change d guid (.ingest env snapshot req) Record.empty
  | content {env : IngestEnv} {snapshot : Db} {req : IngestFeedRequest} {body : IngestFeedData}
      (reaches : ReachesContent env snapshot d req body) (own : guid = body.feedGuid) :
      Change d guid (.ingest env snapshot req)
        ((record d guid).written (contentFeed env req body d (admittedMove env req body d)) body
          (admittedMove env req body d))
  | retired {env : OperatorEnv} (block : Option Bool) :
      Change d guid (.admin env true (.retireFeed guid block)) Record.empty
  | relocated {env : OperatorEnv} {request : AdminRequest} {row : FeedRow} (newUrl : String)
      (relocates : request.Relocates guid) (stored : (record d guid).row = some row) :
      Change d guid (.admin env true request)
        ((record d guid).relocated guid row.feed.feedUrl newUrl)

omit [Platform] in
theorem endsIn_sameOutside {C : Record → Prop} {ts : List Table} {s t : Db}
    (h : SameOutside (S := schema) ts s t) (hts : ∀ u ∈ recordTables, u ∉ ts) :
    EndsIn (record · guid) C s t := .inl (record_sameOutside h hts guid)

theorem contentFeed_congr {env : IngestEnv} {req : IngestFeedRequest} {body : IngestFeedData}
    {recordMove : Option RecordMove} (h : e .feeds = d .feeds) :
    contentFeed env req body e recordMove = contentFeed env req body d recordMove := by
  rw [contentFeed, contentFeed, buildInput_congr h]

theorem handleIngestFeed_change (env : IngestEnv) (snapshot : Db) (req : IngestFeedRequest)
    (d : Db) (guid : String) :
    EndsIn (record · guid) (Change d guid (.ingest env snapshot req)) d
      (handleIngestFeed env snapshot req d).2 := by
  apply ingest_steps (R := EndsIn (record · guid) (Change d guid (.ingest env snapshot req)))
  · intro hauth hgone
    have hstep : record (handleSourceGoneReport env req d).2 guid = record d guid ∨ _ :=
      handleSourceGoneReport_record hauth hgone
    rcases hstep with hsame | ⟨hreport, hrecord⟩
    · exact .inl hsame
    · right
      change Change d _ _ (record _ _)
      rw [hrecord]
      split
      · exact .sourceGone hreport ‹_›
      · exact .answered hreport (Bool.not_eq_true _ ▸ ‹_›)
  · exact fun s t h => endsIn_sameOutside h.logs.frame (by decide)
  · intro body warnings hverified hclass hstale hblocks
    rcases deleteFeedWithEvent_record env.signer body.feedGuid _ [] d guid with
      hsame | ⟨rfl, hempty⟩
    · exact .inl hsame
    · right
      change Change d _ _ (record _ _)
      rw [sourceBlockRetire, hempty]
      exact .sourceBlocked hverified.carries rfl hblocks
  · exact fun body _ _ _ _ =>
      endsIn_sameOutside ((recordGuidChangeReturnForIngest_writes.sameOutside
        (List.Subset.refl _)) d) (by decide)
  · exact fun body heldGuid _ _ _ =>
      endsIn_sameOutside ((recordGuidChangePendingForIngest_writes.sameOutside
        (List.Subset.refl _)) d) (by decide)
  · intro body admission e hreach hheld hmove hsame _
    have hrecord : record e guid = record d guid := record_sameOutside hsame (by decide) guid
    have hother : admission.pendingGuidTransition ≠ some body.feedGuid := by
      intro hself
      rw [hheld, SubmissionClass.held_eq_some] at hself
      obtain ⟨r, -, -, -, hne⟩ := conflictingGuid_row (classifySubmission_guidChange hself).2
      exact hne rfl
    rcases admitContent_record env req body admission e guid hother with
      hstays | ⟨hsuperseded, hempty⟩ | ⟨rfl, hwritten⟩
    · exact .inl hstays
    · right
      change Change d _ _ (record _ _)
      rw [hempty]
      exact .superseded hreach (SubmissionClass.held_eq_some.mp (hheld ▸ hsuperseded))
    · right
      change Change d _ _ (record _ _)
      rw [hwritten, hrecord, hmove, contentFeed_congr (hsame .feeds (by decide))]
      exact .content hreach rfl

theorem handleAdmin_change (env : OperatorEnv) (tokenAccepted : Bool) (request : AdminRequest)
    (d : Db) (guid : String) :
    EndsIn (record · guid) (Change d guid (.admin env tokenAccepted request)) d
      (handleAdmin env tokenAccepted request d).2 := by
  cases tokenAccepted with
  | false => exact .inl rfl
  | true =>
    apply AdminRequest.steps (R := EndsIn (record · guid) (Change d guid (.admin env true request)))
    · exact fun s t h => endsIn_sameOutside h.frame (by decide)
    · rintro retiredGuid block row blocks rfl -
      rcases deleteFeedWithEvent_record env.signer retiredGuid row blocks d guid with
        hsame | ⟨rfl, hempty⟩
      · exact .inl hsame
      · right
        change Change d _ _ (record _ _)
        rw [hempty]
        exact .retired block
    · intro movedGuid newUrl reason eventId hrelocates
      rcases relocateFeed_record env movedGuid newUrl reason eventId d guid with
        hsame | ⟨rfl, row, hrow, hrelocated⟩
      · exact .inl hsame
      · right
        change Change d _ _ (record _ _)
        rw [hrelocated]
        exact .relocated newUrl hrelocates hrow
    · intro releasedGuid
      exact endsIn_sameOutside
        (releaseRetiredSourceHold_writes.sameOutside (List.Subset.refl _) d) (by decide)
    · exact fun _ _ _ _ => endsIn_sameOutside
        ((decideGuidChangeRow_writes env).sameOutside (List.Subset.refl _) d) (by decide)

theorem Operation.change (operation : Operation) (d : Db) (guid : String) :
    Change d guid operation (record (operation.next d) guid) := by
  have hends : ∀ {operation : Operation}, EndsIn (record · guid) (Change d guid operation) d
      (operation.next d) → Change d guid operation (record (operation.next d) guid) := by
    intro operation h
    rcases h with (hsame : record (operation.next d) guid = record d guid) | hchange
    · rw [hsame]
      exact .same operation
    · exact hchange
  cases operation with
  | ingest env snapshot req => exact hends (handleIngestFeed_change env snapshot req d guid)
  | admin env tokenAccepted request =>
    exact hends (handleAdmin_change env tokenAccepted request d guid)
  | seedBlocks env entries =>
    exact hends (endsIn_sameOutside (seedBlocks_logs d).frame (by decide))
  | fillRetiredSourceHolds =>
    have hfill : Steps (SameOutside (S := schema) [Table.retiredSourceHolds])
        Stophammer.fillRetiredSourceHolds := by
      apply fillRetiredSourceHolds_steps
      intro hold
      have hinsert : Writes (S := schema) [Table.retiredSourceHolds]
          (insertOrIgnore (S := schema) .retiredSourceHolds hold) :=
        Writes.insertOrIgnore (by decide)
      exact hinsert.sameOutside (List.Subset.refl _)
    exact hends (endsIn_sameOutside (hfill d) (by decide))
  | peers write only =>
    exact hends (endsIn_sameOutside ((only.sameOutside (List.Subset.refl _)) d) (by decide))

end

end Stophammer
