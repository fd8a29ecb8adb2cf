import Stophammer.Followed
import Stophammer.GuidApprovals
import Stophammer.SharedSources

/-!
# The sources in a run

Each operation of a primary that changes the sources signs events that give the change.  So a
replica that applied the log has the sources of the primary, although it gets none of the
requests.
-/

namespace Stophammer

open Relational Statement SharedView

section

variable [Platform] {d e t : Db} {signer : NodeSigner}

/-- The events of the step give what it made of the sources. -/
abbrev Follows : Db → Db → Prop := sourcesView.Followed

theorem follows_of_writes {ts : List Table} {α : Type} {x : Stmt α}
    (hx : Writes (S := schema) ts x) (hts : ∀ t ∈ Table.events :: sourceTables, t ∉ ts) :
    Steps Follows x :=
  followed_of_writes hx (hts _ List.mem_cons_self) fun _ ht => hts _ (List.mem_cons_of_mem _ ht)

theorem follows_of_sameOutside {ts : List Table} (h : SameOutside (S := schema) ts d e)
    (hts : ∀ t ∈ Table.events :: sourceTables, t ∉ ts) : Follows d e :=
  followed_of_sameOutside h (hts _ List.mem_cons_self) fun _ ht =>
    hts _ (List.mem_cons_of_mem _ ht)

theorem follows_of_logs {ts : List Table} {types : List EventType} (h : Logs ts types d e)
    (hts : ∀ t ∈ sourceTables, t ∉ ts) (htypes : ∀ τ ∈ types, τ ∉ sourceTypes) : Follows d e :=
  followed_of_logs h hts htypes

theorem signedEvent_same {signed : SignedEventRow} {ev : Event}
    (h : signedEvent signed d = (.ok ev, e)) : e = d := by
  unfold signedEvent at h
  cases hev : eventOfRow signed.stored with
  | ok ev' =>
    rw [hev] at h
    cases h
    rfl
  | error err =>
    rw [hev] at h
    cases h

theorem follows_of_sign {payload : EventPayload} {subjectGuid eventId : String} {createdAt : Int}
    {warnings : List String} {signed : SignedEventRow}
    (hsign : signEventRow signer (eventDraft payload subjectGuid createdAt warnings eventId) t =
      (.ok signed, e))
    (htype : payload.eventType ∈ sourceTypes) (hlog : t .events = d .events)
    (hview : sharedSources t = (sharedSources d).replay payload) : Follows d e :=
  followed_of_write_sign hsign htype trivial hlog hview

theorem recordUrls_follows {feedGuid : String} {now : Int} {urls : List (String × String)}
    {rows : List SignedEventRow} (h : recordUrls signer feedGuid now urls d = (.ok rows, e)) :
    Follows d e := by
  induction urls generalizing d rows with
  | nil =>
    cases h
    exact refl_of Follows _
  | cons entry urls ih =>
    obtain ⟨observation, d₁, hrecord, hrest⟩ := bind_ok h
    cases observation with
    | none =>
      rw [recordFeedUrlObservation_none hrecord] at hrest
      exact ih hrest
    | some observation =>
      obtain ⟨signed, d₂, hsign, hrest⟩ := bind_ok hrest
      obtain ⟨rest, d₃, hurls, hpure⟩ := bind_ok hrest
      cases hpure
      obtain ⟨rfl, hview⟩ := recordFeedUrlObservation_sources hrecord
      have hlog := (recordFeedUrlObservation_writes .events (by decide)).run hrecord
      have htype : EventType.feedUrlObserved ∈ sourceTypes := by decide
      exact trans_of Follows (follows_of_sign hsign htype hlog hview) (ih hurls)

theorem recordFeedCopyForIngest_follows {eventId feedGuid url : String} {body : IngestFeedData}
    {now : Int} : Steps Follows (recordFeedCopyForIngest signer eventId feedGuid url body now) := by
  have hupsert : ∀ firstSeen, Writes (S := schema) [Table.feedCopies]
      (upsertFeedCopySummary feedGuid url firstSeen (copySummary body)
        (summaryDigest (copySummary body)) (remoteItemsDigest (copySummary body))) :=
    fun _ => Writes.upsert (by decide)
  have htouch : Writes (S := schema) [Table.feedCopies] (touchFeedCopyLastSeen feedGuid url now) :=
    Writes.update (by decide)
  have htouched : ∀ {s u : Db}, touchFeedCopyLastSeen feedGuid url now s = (.ok (), u) →
      u .events = s .events ∧ sharedSources u = sharedSources s := by
    intro s u hrun
    refine ⟨(htouch .events (by decide)).run hrun, ?_⟩
    rw [sharedSources_copies ((htouch.sameOutside (List.Subset.refl _)).run hrun) (by decide),
      touchFeedCopyLastSeen_copies hrun]
    rfl
  -- the event carries the summary that the row got
  have hsummary : ∀ {s u : Db} {firstSeen : Int},
      upsertFeedCopySummary feedGuid url firstSeen (copySummary body)
        (summaryDigest (copySummary body)) (remoteItemsDigest (copySummary body)) s = (.ok (), u) →
      u .events = s .events ∧ ∀ v : Db, sharedSources v = sharedSources u → ∀ id : String,
        ∃ payload, feedCopyObservedEventRow feedGuid url firstSeen (copySummary body)
            (summaryDigest (copySummary body)) now id = eventDraft payload feedGuid now [] id ∧
          payload.eventType ∈ sourceTypes ∧
            sharedSources v = (sharedSources s).replay payload := by
    intro s u firstSeen hrun
    have htype : EventType.feedCopyObserved ∈ sourceTypes := by decide
    refine ⟨(hupsert firstSeen .events (by decide)).run hrun, fun v hv id => ⟨_, rfl, htype, ?_⟩⟩
    rw [hv, sharedSources_copies (((hupsert firstSeen).sameOutside (List.Subset.refl _)).run hrun)
      (by decide), upsertFeedCopySummary_copies hrun]
    rfl
  apply Steps.transaction_ok
  intro d rows e h
  rw [read_bind_run] at h
  cases hstored : getFeedCopy d feedGuid url with
  | some row =>
    rw [hstored] at h
    obtain ⟨_, d₁, hseen, h⟩ := bind_ok h
    obtain ⟨hlog, hview⟩ := htouched hseen
    have hfirst : Follows d d₁ := followed_of_same hlog hview
    split at h
    · obtain ⟨_, d₂, hwrite, h⟩ := bind_ok h
      obtain ⟨signed, d₃, hsign, hpure⟩ := bind_ok h
      cases hpure
      obtain ⟨hlog, hpayload⟩ := hsummary hwrite
      obtain ⟨payload, hrow, htype, hview⟩ := hpayload d₂ rfl eventId
      rw [hrow] at hsign
      exact trans_of Follows hfirst (follows_of_sign hsign htype hlog hview)
    · cases h
      exact hfirst
  | none =>
    rw [hstored] at h
    simp only at h
    rw [read_bind_run] at h
    split at h
    · have hoverflow : Writes (S := schema) [Table.feedCopyOverflow]
          (incrementCopyOverflow feedGuid) := Writes.upsert (by decide)
      obtain ⟨_, d₁, hcount, hpure⟩ := bind_ok h
      cases hpure
      exact (follows_of_writes hoverflow (by decide)).run hcount
    · obtain ⟨_, d₁, hwrite, h⟩ := bind_ok h
      obtain ⟨_, d₂, hseen, h⟩ := bind_ok h
      obtain ⟨signed, d₃, hsign, hpure⟩ := bind_ok h
      cases hpure
      obtain ⟨hlog, hpayload⟩ := hsummary hwrite
      obtain ⟨hsame, hview⟩ := htouched hseen
      obtain ⟨payload, hrow, htype, hview⟩ := hpayload d₂ hview eventId
      rw [hrow] at hsign
      exact follows_of_sign hsign htype (hsame.trans hlog) hview

theorem block_follows {block : FeedBlock} {b : Bool} {subjectGuid eventId : String}
    {createdAt : Int} {signed : SignedEventRow} (hinsert : insertFeedBlock block d = (.ok b, t))
    (hsign : signEventRow signer
      (eventDraft
        (.feedBlocked
          { blockId := block.blockId
            kind := block.kind
            value := block.value
            reason := block.reason
            blockedAt := block.blockedAt }) subjectGuid createdAt [] eventId) t =
        (.ok signed, e)) : Follows d e := by
  have htype : EventType.feedBlocked ∈ sourceTypes := by decide
  exact follows_of_sign hsign htype ((insertFeedBlock_writes .events (by decide)).run hinsert)
    (insertFeedBlock_sources hinsert).1

theorem signBlocks_follows {createdAt : Int} {blocks : List (FeedBlock × String)}
    {events : List Event} (h : signBlocks signer createdAt blocks d = (.ok events, e)) :
    Follows d e := by
  induction blocks generalizing d events with
  | nil =>
    cases h
    exact refl_of Follows _
  | cons entry blocks ih =>
    obtain ⟨b, d₁, hinsert, h⟩ := bind_ok h
    cases b with
    | true =>
      obtain ⟨signed, d₂, hsign, h⟩ := bind_ok h
      obtain ⟨ev, d₃, hevent, h⟩ := bind_ok h
      obtain ⟨rest, d₄, hrest, hpure⟩ := bind_ok h
      cases hpure
      rw [signedEvent_same hevent] at hrest
      exact trans_of Follows (block_follows hinsert hsign) (ih hrest)
    | false =>
      rw [(insertFeedBlock_sources hinsert).2 rfl] at h
      exact ih h

theorem replay_feedRetired {guid : String} {reason : Option String} {feed : Feed}
    (h : getFeedByGuid d guid = some feed) :
    (sharedSources d).replay (.feedRetired { feedGuid := guid, reason := reason }) =
      (sharedSources d).retired guid := by
  obtain ⟨r, hr, -⟩ := Option.map_eq_some_iff.mp h
  refine if_pos (List.any_eq_true.mpr ⟨r.source, ?_, List.find?_some (p := fun r : FeedRow =>
    r.feed.feedGuid == guid) hr⟩)
  exact List.mem_map_of_mem (List.mem_of_find?_eq_some hr)

theorem deleteFeedWithEvent_follows {guid reason eventId : String} {now : Int}
    {warnings : List String} {blocks : List (FeedBlock × String)} {feed : Feed}
    (hfeed : getFeedByGuid d guid = some feed) :
    Follows d (deleteFeedWithEvent signer guid (retireRow guid reason now warnings eventId) blocks
      d).2 := by
  apply Steps.transaction_ok_at
  intro events e h
  rw [read_bind_run] at h
  obtain ⟨_, d₁, hdelete, h⟩ := bind_ok h
  obtain ⟨_, d₂, hhold, h⟩ := bind_ok h
  obtain ⟨signed, d₃, hsign, h⟩ := bind_ok h
  obtain ⟨ev, d₄, hevent, h⟩ := bind_ok h
  obtain ⟨rest, d₅, hrest, hpure⟩ := bind_ok h
  cases hpure
  rw [signedEvent_same hevent] at hrest
  have htype : EventType.feedRetired ∈ sourceTypes := by decide
  have hheld : ∀ u ∈ Table.events :: sourceTables, d₂ u = d₁ u := fun u hu =>
    (writeHold_writes u (by revert hu; cases u <;> decide)).run hhold
  have hlog : d₂ .events = d .events := by
    rw [hheld .events List.mem_cons_self]
    exact (deleteFeedSql_writes .events (by decide)).run hdelete
  have hview : sharedSources d₂ = (sharedSources d).retired guid := by
    rw [sharedSources_congr fun u hu => hheld u (List.mem_cons_of_mem _ hu)]
    exact deleteFeedSql_sources hdelete
  exact trans_of Follows
    (follows_of_sign hsign htype hlog (hview.trans (replay_feedRetired hfeed).symm))
    (signBlocks_follows hrest)

theorem handleSourceGoneReport_follows {env : IngestEnv} {req : IngestFeedRequest} :
    Follows d (handleSourceGoneReport env req d).2 := by
  apply handleSourceGoneReport_steps_at
  · exact fun s t h => follows_of_sameOutside h (by decide)
  · exact fun feedGuid reason now warnings eventId feed hfeed => deleteFeedWithEvent_follows hfeed

theorem guidChangeTransition_follows {uuid : Nat → String} {oldGuid newGuid sourceUrl : String}
    {now : Int} {feed : Feed} (hfeed : getFeedByGuid d oldGuid = some feed) :
    Follows d (guidChangeTransition signer uuid oldGuid newGuid sourceUrl now d).2 := by
  apply Steps.transaction_ok_at
  intro rows e h
  obtain ⟨_, d₁, hdelete, h⟩ := bind_ok h
  obtain ⟨retired, d₂, hretire, h⟩ := bind_ok h
  obtain ⟨_, d₃, hinsert, h⟩ := bind_ok h
  obtain ⟨superseded, d₄, hsupersede, h⟩ := bind_ok h
  have hretired : Follows d d₂ := by
    have htype : EventType.feedRetired ∈ sourceTypes := by decide
    refine follows_of_sign hretire htype ((deleteFeedSql_writes .events (by decide)).run hdelete) ?_
    exact (deleteFeedSql_sources hdelete).trans (replay_feedRetired hfeed).symm
  have hsuperseded : Follows d₂ d₄ := by
    have htype : EventType.feedGuidSuperseded ∈ sourceTypes := by decide
    have hwrites : Writes (S := schema) [Table.feedGuidSupersessions]
        (insertGuidSupersession oldGuid newGuid sourceUrl now) :=
      (Writes.insertOrIgnore (by decide)).bind fun _ => Writes.pure _
    refine follows_of_sign hsupersede htype ((hwrites .events (by decide)).run hinsert) ?_
    have hview := insertGuidSupersession_sources oldGuid newGuid sourceUrl now d₂
    rwa [hinsert] at hview
  refine trans_of Follows (trans_of Follows hretired hsuperseded) ?_
  rw [read_bind_run] at h
  cases hrow : getGuidChange d₄ sourceUrl with
  | none =>
    rw [hrow] at h
    cases h
    exact refl_of Follows _
  | some row =>
    rw [hrow] at h
    obtain ⟨_, d₅, hclear, h⟩ := bind_ok h
    obtain ⟨marker, d₆, hsign, hpure⟩ := bind_ok h
    cases hpure
    have hdelete : Writes (S := schema) [Table.feedGuidChanges] (deleteGuidChange sourceUrl) :=
      Writes.delete (by decide)
    have htype : EventType.feedGuidChangeObserved ∉ sourceTypes := by decide
    exact trans_of Follows ((follows_of_writes hdelete (by decide)).run hclear)
      ((followed_of_sign htype).run hsign)

omit [Platform] in
theorem updateColumns_sources {p : FeedRow → Bool} {f : FeedRow → FeedRow}
    (h : update (S := schema) .feeds p f d = (.ok (), e)) (hf : ∀ r, (f r).feed = r.feed) :
    e .events = d .events ∧ sharedSources e = sharedSources d := by
  have hwrites : Writes (S := schema) [Table.feeds] (update (S := schema) .feeds p f) :=
    Writes.update (by decide)
  have hurls : sourceUrls e = sourceUrls d := by
    rw [sourceUrls, modify_ok_rows h, sourceUrls, List.map_map]
    apply List.map_congr_left
    intro r _
    rw [Function.comp_apply]
    split
    · rw [FeedRow.source, hf]
      rfl
    · rfl
  refine ⟨(hwrites .events (by decide)).run h, ?_⟩
  rw [sharedSources_feeds ((hwrites.sameOutside (List.Subset.refl _)).run h) (by decide), hurls]
  rfl

theorem updateColumns_follows {p : FeedRow → Bool} {f : FeedRow → FeedRow}
    (hf : ∀ r, (f r).feed = r.feed) : Steps Follows (update (S := schema) .feeds p f) := by
  intro d
  rcases hrun : update (S := schema) .feeds p f d with ⟨err | _, e⟩
  · rw [modify_error_state hrun]
    exact refl_of Follows d
  · obtain ⟨hlog, hview⟩ := updateColumns_sources hrun hf
    exact followed_of_same hlog hview

theorem ingestTransaction_sources {env : PrimaryEnv} {removalUuid : Nat → String}
    {c : IngestContent} {eventRows : List EventRow} {feedMove : Option FeedMoveWrite}
    {seqs : List (Int × String × String)}
    (h : ingestTransaction env removalUuid c eventRows feedMove d = (.ok seqs, e)) :
    sharedSources e = { sharedSources d with
      urls := putUrl (sourceUrls d) c.feed.feedGuid c.feed.feedUrl } := by
  obtain ⟨_, d₁, hfeed, h⟩ := bind_ok (transaction_ok.mp h)
  obtain ⟨_, d₂, hsets, h⟩ := bind_ok h
  rw [read_bind_run] at h
  obtain ⟨_, d₃, htracks, h⟩ := bind_ok h
  obtain ⟨_, d₄, hstale, h⟩ := bind_ok h
  obtain ⟨seqs', d₅, hevents, h⟩ := bind_ok h
  obtain ⟨_, d₆, hsync, h⟩ := bind_ok h
  have hrest : ∀ u ∈ sourceTables, e u = d₁ u := by
    intro u hu
    have hmove : e u = d₆ u := by
      cases feedMove with
      | none =>
        cases h
        rfl
      | some mv =>
        obtain ⟨_, d₇, hwrite, hpure⟩ := bind_ok h
        cases hpure
        exact (writeFeedMove_writes u (by revert hu; cases u <;> decide)).run hwrite
    have hremove := (Leaves.forEach (f := fun d : Db => d u) fun trackGuid _ =>
      removeStaleTrack_writes u (by revert hu; cases u <;> decide)).run hstale
    have hwrite := (Leaves.forEach (f := fun d : Db => d u) fun track _ =>
      writeTrack_writes u (by revert hu; cases u <;> decide)).run htracks
    have hlogged : d₅ u = d₄ u :=
      (insertEvents_writes u (by revert hu; cases u <;> decide)).run hevents
    have hindexed : d₆ u = d₅ u :=
      (syncSourceReadModelsForFeed_writes u (by revert hu; cases u <;> decide)).run hsync
    have hreplaced : d₂ u = d₁ u :=
      (replaceFeedSets_writes u (by revert hu; cases u <;> decide)).run hsets
    exact hmove.trans (hindexed.trans (hlogged.trans (hremove.trans (hwrite.trans hreplaced))))
  obtain ⟨_, t, hupsert, hdeletes⟩ := bind_ok hfeed
  have hclear : ∀ u ∈ sourceTables, d₁ u = t u := by
    have hwrites : Writes (S := schema) [.sourceGoneAnswers, .retiredSourceHolds] (do
        delete (S := schema) .sourceGoneAnswers
          fun r : SourceGoneAnswer => r.feedGuid == c.feed.feedGuid
        delete (S := schema) .retiredSourceHolds
          fun r : RetiredSourceHold => r.feedGuid == toLowercase c.feed.feedGuid) :=
      (Writes.delete (by decide)).bind fun _ => Writes.delete (by decide)
    exact fun u hu => (hwrites u (by revert hu; cases u <;> decide)).run hdeletes
  have hwrites : Writes (S := schema) [Table.feeds] (upsertFeed c.feed) := Writes.upsert (by decide)
  have hurls := upsertFeed_urls c.feed d
  rw [hupsert] at hurls
  rw [sharedSources_congr hrest, sharedSources_congr hclear,
    sharedSources_feeds ((hwrites.sameOutside (List.Subset.refl _)).run hupsert) (by decide), hurls]

omit [Platform] in
theorem putUrl_same {guid url : String} {feed : Feed} (hfeed : getFeedByGuid d guid = some feed)
    (hurl : feed.feedUrl = url) : putUrl (sourceUrls d) guid url = sourceUrls d := by
  rw [putUrl]
  split
  · rfl
  · obtain ⟨r, hr, rfl⟩ := Option.map_eq_some_iff.mp hfeed
    have hmem := List.mem_of_find?_eq_some hr
    have hguid : r.feed.feedGuid = guid := by simpa using List.find?_some hr
    have hany : ((sourceUrls d).any fun q => q.1 == guid) = true :=
      List.any_eq_true.mpr ⟨r.source, List.mem_map_of_mem hmem, beq_iff_eq.mpr hguid⟩
    rw [upserted, if_pos hany]
    conv_rhs => rw [← List.map_id (sourceUrls d)]
    apply List.map_congr_left
    intro q hq
    split
    · obtain ⟨r', hr', rfl⟩ := List.mem_map.mp hq
      have hsame : r' = r := d.eq_of_shared_key (t := .feeds) (k := .feed guid) hr' hmem
        (by simp_all [schema, Table.keys, FeedRow.source]) (by simp [schema, Table.keys, hguid])
      rw [hsame, id, FeedRow.source, hguid, hurl]
    · rfl

omit [Platform] in
theorem rowsOf_quiet {types : List EventType} {stored : List StoredEvent} {rows : List EventRow}
    (h : List.Forall₂ IsSigned stored rows) (hrows : ∀ row ∈ rows, row.eventType ∉ types) :
    (stored.filter fun r : StoredEvent => decide (r.eventType ∈ types)) = [] := by
  induction h with
  | nil => rfl
  | cons hsigned _ ih =>
    obtain ⟨hrow, hrows⟩ := List.forall_mem_cons.mp hrows
    obtain ⟨signer, seq, rfl⟩ := hsigned
    rw [List.filter_cons_of_neg (decide_eq_false hrow ▸ Bool.false_ne_true)]
    exact ih hrows

theorem ingestTransaction_follows {env : PrimaryEnv} {removalUuid uuid : Nat → String}
    {c : IngestContent} {now : Int} {warnings : List String} {feedMove : Option FeedMoveWrite}
    (hsame : ∀ existing, getFeedByGuid d c.feed.feedGuid = some existing →
      getFeedByGuid t c.feed.feedGuid = some existing) :
    Follows t (ingestTransaction env removalUuid c
      (assignIds uuid (buildDiffEvents d c now warnings)) feedMove t).2 := by
  rcases hrun : ingestTransaction env removalUuid c
    (assignIds uuid (buildDiffEvents d c now warnings)) feedMove t with ⟨err | seqs, e⟩
  · rw [transaction_error hrun]
    exact refl_of Follows t
  obtain ⟨stored, removals, hlog, hsigned, hremovals⟩ := ingestTransaction_signed hrun
  have hview := ingestTransaction_sources hrun
  have hquiet : ∀ τ, τ ∈ contentTypes → τ ≠ .feedUpserted → τ ∉ sourceTypes := by
    intro τ
    cases τ <;> decide
  obtain ⟨rest, hrest, hdrafts⟩ := buildDiffEvents_content d c now warnings
  have hall : ∀ draft ∈ rest, ∀ id, (draft id).eventType ∉ sourceTypes := by
    intro draft hdraft id
    have hmem : draft ∈ buildDiffEvents d c now warnings := by
      rcases hdrafts with hdrafts | ⟨hdrafts, -⟩
      · exact hdrafts ▸ List.mem_cons_of_mem _ hdraft
      · exact hdrafts ▸ hdraft
    have htypes := forall_buildDiffEvents (P := fun draft : EventDraft =>
      ∀ id, (draft id).eventType ∈ contentTypes) (fun _ _ _ _ htype _ => htype) draft hmem id
    exact hquiet _ htypes (hrest draft hdraft id)
  have hids : ∀ index, ∀ row ∈ (rest.zipIdx index).map (fun p => p.1 (uuid p.2)) ++ removals,
      row.eventType ∉ sourceTypes := by
    intro index row hrow
    rcases List.mem_append.mp hrow with hrow | hrow
    · obtain ⟨⟨draft, i⟩, hmem, rfl⟩ := List.mem_map.mp hrow
      exact hall draft (List.fst_mem_of_mem_zipIdx hmem) _
    · rw [hremovals row hrow]
      decide
  rcases hdrafts with hdrafts | ⟨hdrafts, hurl⟩
  · rw [hdrafts, assignIds, List.zipIdx_cons, List.map_cons, List.cons_append] at hsigned
    obtain ⟨first, later, hfirst, hlater, rfl⟩ := List.forall₂_cons_right_iff.mp hsigned
    have hcarries : Carries first (.feedUpserted { feed := c.feed, reason := none }) := by
      obtain ⟨signer, seq, rfl⟩ := hfirst
      exact ⟨rfl, rfl⟩
    have hkept : decide (first.eventType ∈ sourceTypes) = true := by
      rw [hcarries.1]
      rfl
    have hrows : ((first :: later).filter fun r : StoredEvent =>
        decide (r.eventType ∈ sourceTypes)) = [first] := by
      rw [List.filter_cons, if_pos hkept, rowsOf_quiet hlater (hids _)]
    exact ⟨[first], _, (rowsOf_append sourceTypes hlog).trans (congrArg _ hrows),
      .cons hcarries .nil, fun _ _ => trivial, hview⟩
  · obtain ⟨existing, hexisting, hsameUrl⟩ := Option.map_eq_some_iff.mp hurl
    rw [hdrafts] at hsigned
    rw [putUrl_same (hsame existing hexisting) hsameUrl] at hview
    refine ⟨[], [], (rowsOf_append sourceTypes hlog).trans (congrArg _ ?_), .nil,
      fun _ h => (List.not_mem_nil h).elim, hview⟩
    exact rowsOf_quiet hsigned (hids 0)

omit [Platform] in
theorem updateUrl_sources {guid newUrl : String} {feed : Feed} {f : FeedRow → FeedRow}
    (hf : ∀ r, (f r).source = (r.feed.feedGuid, newUrl))
    (hfree : ((d .feeds).any fun r : FeedRow =>
      r.feed.feedUrl == newUrl && r.feed.feedGuid != guid) = false)
    (hfeed : getFeedByGuid d guid = some feed)
    (h : update (S := schema) .feeds (fun r : FeedRow => r.feed.feedGuid == guid) f d =
      (.ok (), e)) :
    e .events = d .events ∧
      sharedSources e = { sharedSources d with urls := putUrl (sourceUrls d) guid newUrl } := by
  have hwrites : Writes (S := schema) [Table.feeds] (update (S := schema) .feeds
      (fun r : FeedRow => r.feed.feedGuid == guid) f) := Writes.update (by decide)
  obtain ⟨r, hr, -⟩ := Option.map_eq_some_iff.mp hfeed
  have hmem := List.mem_of_find?_eq_some hr
  have hguid : r.feed.feedGuid = guid := by simpa using List.find?_some hr
  have hany : ((sourceUrls d).any fun q => q.1 == guid) = true :=
    List.any_eq_true.mpr ⟨r.source, List.mem_map_of_mem hmem, beq_iff_eq.mpr hguid⟩
  have htaken : ((sourceUrls d).any fun q => q.2 == newUrl && q.1 != guid) = false := by
    rw [sourceUrls, List.any_map]
    exact hfree
  have hurls : sourceUrls e = putUrl (sourceUrls d) guid newUrl := by
    rw [putUrl, htaken, if_neg Bool.false_ne_true, upserted, if_pos hany, sourceUrls,
      modify_ok_rows h]
    refine map_updated (g := FeedRow.source) ?_ ?_ (d .feeds)
    · exact fun _ => rfl
    · intro r hr
      rw [hf, beq_iff_eq.mp hr]
  refine ⟨(hwrites .events (by decide)).run h, ?_⟩
  rw [sharedSources_feeds ((hwrites.sameOutside (List.Subset.refl _)).run h) (by decide), hurls]

omit [Platform] in
theorem feedUrl_of_putUrl {guid newUrl : String} {urls : List (String × String)} {feed : Feed}
    (hput : sourceUrls d = putUrl urls guid newUrl)
    (hfree : (urls.any fun q => q.2 == newUrl && q.1 != guid) = false)
    (hfeed : getFeedByGuid d guid = some feed) : feed.feedGuid = guid ∧ feed.feedUrl = newUrl := by
  obtain ⟨r, hr, rfl⟩ := Option.map_eq_some_iff.mp hfeed
  have hguid : r.feed.feedGuid = guid := by simpa using List.find?_some hr
  refine ⟨hguid, ?_⟩
  have hmem : r.source ∈ putUrl urls guid newUrl :=
    hput ▸ List.mem_map_of_mem (List.mem_of_find?_eq_some hr)
  rw [putUrl, hfree, if_neg Bool.false_ne_true, upserted] at hmem
  split at hmem
  · obtain ⟨q, -, hq⟩ := List.mem_map.mp hmem
    split at hq
    · exact (congrArg Prod.snd hq).symm
    · rename_i hother
      rw [hq] at hother
      exact absurd (beq_iff_eq.mpr hguid) hother
  · rename_i hnone
    rcases List.mem_append.mp hmem with hold | hnew
    · refine absurd (List.any_eq_true.mpr ⟨r.source, hold, ?_⟩) hnone
      exact beq_iff_eq.mpr hguid
    · exact congrArg Prod.snd (List.mem_singleton.mp hnew)

theorem relocateFeed_follows {env : OperatorEnv} {feedGuid newUrl reason eventId : String}
    {outcome : RelocateOutcome}
    (h : relocateFeed env feedGuid newUrl reason eventId d = (.ok outcome, e)) : Follows d e := by
  unfold relocateFeed at h
  rw [read_bind_run] at h
  split at h
  · cases h
    exact refl_of Follows d
  · rename_i hconflict
    have hfree := Bool.not_eq_true _ ▸ hconflict
    rw [read_bind_run] at h
    cases hold : getFeedByGuid d feedGuid with
    | none =>
      rw [hold] at h
      cases h
    | some old =>
      rw [hold] at h
      simp only at h
      obtain ⟨_, d₁, hurl, h⟩ := bind_ok h
      obtain ⟨_, d₂, hself, h⟩ := bind_ok h
      obtain ⟨_, d₃, hclear, h⟩ := bind_ok h
      obtain ⟨_, d₄, hstate, h⟩ := bind_ok h
      obtain ⟨hlog₁, hview₁⟩ := updateUrl_sources (fun _ => rfl) hfree hold hurl
      obtain ⟨hlog₂, hview₂⟩ := updateColumns_sources hself fun _ => rfl
      obtain ⟨hlog₃, hview₃⟩ := updateColumns_sources hclear fun _ => rfl
      have hsame : ∀ u ∈ Table.events :: sourceTables, d₄ u = d₃ u := fun u hu =>
        (writeRelocationState_writes u (by revert hu; cases u <;> decide)).run hstate
      have hlog : d₄ .events = d .events := by
        rw [hsame .events List.mem_cons_self, hlog₃, hlog₂, hlog₁]
      have hview : sharedSources d₄ =
          { sharedSources d with urls := putUrl (sourceUrls d) feedGuid newUrl } := by
        rw [sharedSources_congr fun u hu => hsame u (List.mem_cons_of_mem _ hu), hview₃, hview₂,
          hview₁]
      rw [read_bind_run] at h
      cases hfeed : getFeedByGuid d₄ feedGuid with
      | none =>
        rw [hfeed] at h
        cases h
      | some feed =>
        rw [hfeed] at h
        obtain ⟨signed, d₅, hsign, h⟩ := bind_ok h
        cases h
        have htaken : ((sourceUrls d).any fun q => q.2 == newUrl && q.1 != feedGuid) = false := by
          rw [sourceUrls, List.any_map]
          exact hfree
        obtain ⟨hguid, hurl⟩ := feedUrl_of_putUrl (congrArg SharedSources.urls hview) htaken hfeed
        have htype : EventType.feedUpserted ∈ sourceTypes := by decide
        refine follows_of_sign hsign htype hlog (hview.trans ?_)
        rw [← hguid, ← hurl]
        rfl

theorem signResolution_follows {env : OperatorEnv} {guid decision reason eventId : String}
    {row : FeedCopyRow} {signed : SignedEventRow}
    (h : signResolution env guid decision reason row eventId d = (.ok signed, e)) :
    Follows d e := by
  obtain ⟨signed', t, hsign, h⟩ := bind_ok h
  obtain ⟨_, u, hset, hpure⟩ := bind_ok h
  cases hpure
  have hwrites : Writes (S := schema) [Table.feedCopies] (setFeedCopyResolution guid row.url decision
      reason env.now row.summaryDigest row.remoteItemsDigest) := Writes.update (by decide)
  have htype : EventType.feedCopyResolved ∈ sourceTypes := by decide
  refine followed_of_sign_write hsign htype trivial ((hwrites .events (by decide)).run hset) ?_
  have hcopies := setFeedCopyResolution_copies guid row.url decision reason env.now
    row.summaryDigest row.remoteItemsDigest t
  rw [hset] at hcopies
  exact (sharedSources_copies ((hwrites.sameOutside (List.Subset.refl _)).run hset)
    (by decide)).trans (by rw [hcopies]; rfl)

theorem createBlock_follows {env : OperatorEnv} {kind : FeedBlockKind} {value reason : String} :
    Steps Follows (createBlock env kind value reason) := by
  intro d
  rcases createBlock_cases env kind value reason d with
    ⟨hsame, -⟩ | ⟨b, t, signed, e, -, hinsert, hsign, hrun⟩
  · rw [hsame]
    exact refl_of Follows d
  · rw [hrun]
    exact block_follows hinsert hsign

theorem removeBlock_follows {env : OperatorEnv} {blockId : String} :
    Steps Follows (removeBlock env blockId) := by
  intro d
  rcases removeBlock_cases env blockId d with ⟨hsame, -⟩ | ⟨t, signed, e, hdelete, hsign, hrun⟩
  · rw [hsame]
    exact refl_of Follows d
  · rw [hrun]
    have hwrites : Writes (S := schema) [Table.feedBlocks] (deleteFeedBlock blockId) :=
      Writes.delete (by decide)
    have htype : EventType.feedUnblocked ∈ sourceTypes := by decide
    exact follows_of_sign hsign htype ((hwrites .events (by decide)).run hdelete)
      (deleteFeedBlock_sources hdelete)

theorem seedBlocks_follows {env : OperatorEnv} {entries : List (FeedBlockKind × String)} :
    Steps Follows (seedBlocks env entries) := by
  apply Steps.transaction_ok
  intro d n e h
  suffices hentries : ∀ index n d, seedEntries env index entries d = (.ok n, e) → Follows d e from
    hentries 0 n d h
  clear h
  induction entries with
  | nil =>
    intro index n d h
    cases h
    exact refl_of Follows _
  | cons entry entries ih =>
    intro index n d h
    obtain ⟨kind, value⟩ := entry
    obtain ⟨b, d₁, hinsert, h⟩ := bind_ok h
    cases b with
    | true =>
      obtain ⟨signed, d₂, hsign, h⟩ := bind_ok h
      obtain ⟨written, d₃, hrest, hpure⟩ := bind_ok h
      cases hpure
      exact trans_of Follows (block_follows hinsert hsign) (ih _ _ _ hrest)
    | false =>
      rw [(insertFeedBlock_sources hinsert).2 rfl] at h
      exact ih _ _ _ h

theorem handleRemoveTrack_follows {env : OperatorEnv} {guid trackGuid : String} :
    Steps Follows (handleRemoveTrack env guid trackGuid) := by
  apply Steps.read_then
  intro track
  cases track with
  | none => exact .fail _
  | some _ =>
    have htype : EventType.trackRemoved ∉ sourceTypes := by decide
    refine Steps.bind (Steps.mapError (Steps.transaction ?_)) fun _ =>
      fanoutEvent_steps.bind fun _ => .pure _
    exact (follows_of_writes deleteTrackSql_writes (by decide)).bind fun _ => followed_of_sign htype

theorem patchTrackRow_follows {env : OperatorEnv} {feedGuid trackGuid newUrl : String} :
    Steps Follows (patchTrackRow env feedGuid trackGuid newUrl) := by
  have htrack : ∀ {f : Track → Track} {p : Track → Bool},
      Writes (S := schema) [Table.tracks] (update (S := schema) .tracks p f) :=
    Writes.update (by decide)
  apply Steps.transaction
  apply (follows_of_writes htrack (by decide)).mapError.bind
  intro _
  apply Steps.read_then
  intro updated
  cases updated with
  | none => exact .fail _
  | some track =>
    have htype : EventType.trackUpserted ∉ sourceTypes := by decide
    exact Steps.read_then fun routes => Steps.read_then fun splits =>
      (followed_of_sign htype).mapError

theorem admitContent_follows {env : IngestEnv} {req : IngestFeedRequest} {body : IngestFeedData}
    {admission : Admission}
    (hheld : ∀ heldGuid, admission.pendingGuidTransition = some heldGuid →
      getFeedByGuid d body.feedGuid = none ∧ ∃ feed, getFeedByGuid d heldGuid = some feed) :
    Follows d (admitContent env req body admission d).2 := by
  apply admitContent_steps_parts
  · intro heldGuid hpending
    obtain ⟨-, feed, hfeed⟩ := hheld heldGuid hpending
    exact guidChangeTransition_follows hfeed
  · intro t ht contentWarnings
    apply ingestTransaction_follows
    intro existing hexisting
    cases hpending : admission.pendingGuidTransition with
    | none => rwa [ht hpending]
    | some heldGuid => cases (hheld heldGuid hpending).1.symm.trans hexisting
  · intro isMove
    apply writeDeclarations_steps
    · exact fun s t h => follows_of_sameOutside h (by decide)
    · exact fun p f hf => updateColumns_follows hf
  · exact fun now urls => Steps.transaction_ok fun _ _ _ h => recordUrls_follows h
  · intro now
    have hcache : Writes (S := schema) [Table.feedCrawlCache]
        (upsertFeedCrawlCache req.canonicalUrl req.contentHash now) := Writes.upsert (by decide)
    exact follows_of_writes hcache (by decide)

theorem handleIngestFeed_follows (env : IngestEnv) (snapshot : Db) (req : IngestFeedRequest)
    (d : Db) : Follows d (handleIngestFeed env snapshot req d).2 := by
  have hurls : ∀ feedGuid now urls,
      Steps Follows (transaction (recordUrls env.signer feedGuid now urls)) :=
    fun _ _ _ => Steps.transaction_ok fun _ _ _ h => recordUrls_follows h
  have hcopy : ∀ eventId feedGuid url body now,
      Steps Follows (recordFeedCopyForIngest env.signer eventId feedGuid url body now) :=
    fun _ _ _ _ _ => recordFeedCopyForIngest_follows
  apply ingest_steps_each
  · exact fun _ _ => handleSourceGoneReport_follows
  · exact handleNoChange_steps hurls hcopy d
  · exact fun body warnings sourceUrl _ _ => decideMirror_steps hurls hcopy d
  · intro body warnings _ hclass _ _
    obtain ⟨-, stored, hstored, -⟩ := classifySubmission_update.mp hclass
    exact deleteFeedWithEvent_follows hstored
  · intro body _ _ _ _
    exact follows_of_logs (recordGuidChangeReturnForIngest_logs d) (by decide) (by decide)
  · intro body heldGuid _ _ _
    exact follows_of_logs (recordGuidChangePendingForIngest_logs d) (by decide) (by decide)
  · intro body admission e hreach hheld hmove hsame _
    apply admitContent_follows
    intro heldGuid hpending
    rw [hpending] at hheld
    obtain ⟨hnone, hconflict⟩ :=
      classifySubmission_guidChange (SubmissionClass.held_eq_some.mp hheld.symm)
    have hfeed : ∀ guid, getFeedByGuid e guid = getFeedByGuid d guid := by
      intro guid
      rw [getFeedByGuid, hsame .feeds (by decide)]
      rfl
    rw [hfeed, hfeed]
    exact ⟨hnone, getFeedByGuid_conflicting hconflict⟩

theorem AdminRequest.follows {env : OperatorEnv} (request : AdminRequest) :
    Follows d (request.handle env d).2 := by
  apply request.steps_parts
  · exact fun _ _ _ => createBlock_follows
  · exact fun _ => removeBlock_follows
  · exact fun _ _ _ _ _ _ _ _ h => signResolution_follows h
  · exact fun guid trackGuid _ => handleRemoveTrack_follows d
  · exact fun _ feedGuid trackGuid newUrl => patchTrackRow_follows d
  · exact fun guid block feed blocks _ hfeed => deleteFeedWithEvent_follows hfeed
  · exact fun guid newUrl reason eventId _ outcome e h => relocateFeed_follows h
  · exact fun guid => follows_of_writes releaseRetiredSourceHold_writes (by decide) d
  · intro guid decision reason _
    exact follows_of_logs (decideGuidChangeRow_logs d) (by decide) (by decide)

theorem Operation.follows (operation : Operation) (d : Db) : Follows d (operation.next d) := by
  cases operation with
  | ingest env snapshot req => exact handleIngestFeed_follows env snapshot req d
  | admin env tokenAccepted request =>
    exact (Steps.ite (fun d => request.follows) (.fail _) : Steps Follows _) d
  | seedBlocks env entries => exact seedBlocks_follows d
  | fillRetiredSourceHolds =>
    apply fillRetiredSourceHolds_steps
    exact fun hold => follows_of_writes (Writes.insertOrIgnore (List.mem_singleton.mpr rfl))
      (by decide)
  | peers write only => exact follows_of_writes only (by decide) d

theorem run_sources {ok : Db → Operation → Prop} {history : List RunStep}
    (hrun : PrimaryRun ok history d) : sourcesView.Replays d :=
  hrun.keeps sourcesView.replays_empty fun d operation _ => (operation.follows d).keeps

/-- After every run of a primary, a replica to which the whole log came has the source URL of
each record, the blocks, the copies, the records of URLs and the supersessions of the primary.
Batches can fail and come again, and an event can come more than once.  Of a copy `last_seen`
and of a supersession `superseded_at` are not compared. -/
theorem replica_sources (hsound : signer.Sound) (hjson : JsonNonempty) {history : List RunStep}
    (hrun : PrimaryRun (fun _ operation => operation.SignedBy signer) history d)
    (hreads : ReadsRows sourceTypes d) {limit : Int} (hlimit : (d .events).length ≤ limit)
    {batches : List (Bool × List Event)}
    (hserved : getEventsSince d 0 limit = .ok (arrived batches).eraseDups) :
    sharedSources (deliverAll (batches.map fun b => Delivery.batch b.1 b.2)
      (Database.empty schema)) = sharedSources d :=
  (run_sources hrun).replica_arrived (log_signed hsound hjson hrun) hreads hlimit hserved

end

section Sample

attribute [local instance] runPlatform

/-- The approved change has retired `f1`, and `g2` has its URL. -/
def changedDb : Db := approvedChange.next approvedDb

/-- A batch that fails, a part of it, and the whole batch again. -/
def resent (events : List Event) : List (Bool × List Event) :=
  [(false, events), (true, events.take 5), (true, events)]

theorem changedDb_facts :
    (∀ r ∈ changedDb .events, r.payloadJson ≠ "null" ∧
        (Platform.decodePayload r.eventType r.payloadJson).map EventPayload.eventType =
          some r.eventType) ∧
      (changedDb .events).length ≤ 20 ∧
      (getEventsSince changedDb 0 20).isOk = true ∧
      (∀ events ∈ (getEventsSince changedDb 0 20).toOption,
        (arrived (resent events)).eraseDups = events) ∧
      (sharedSources changedDb).urls = [("g2", sampleUrl)] := by
  decide +kernel

theorem changedDb_reads (types : List EventType) : ReadsRows types changedDb :=
  .of_texts (fun _ => Recording.text_decodes ⟨runTexts, runSignatures⟩ runTexts_nodup)
    changedDb_facts.1

theorem replica_sources_changedDb :
    ∃ events, getEventsSince changedDb 0 20 = .ok events ∧
      (sharedSources (deliverAll ((resent events).map fun b => Delivery.batch b.1 b.2)
        (Database.empty schema))).urls = [("g2", sampleUrl)] := by
  obtain ⟨-, hlength, hserved, hall, hurls⟩ := changedDb_facts
  have hrun : PrimaryRun (fun _ operation => operation.SignedBy runSigner)
      ({ before := approvedDb, operation := approvedChange } :: approvedHistory) changedDb :=
    .step approvedChange (.step approving (.step rejecting (.step pendingIngest
      (.step firstIngest .empty rfl) rfl) rfl) rfl) rfl
  have hreads := changedDb_reads sourceTypes
  -- from here only the facts say what the state holds
  generalize changedDb = d at hlength hserved hall hurls hrun hreads ⊢
  rcases hevents : getEventsSince d 0 20 with err | events
  · rw [hevents] at hserved
    cases hserved
  · rw [hevents] at hall
    have hsame := replica_sources runSigner_sound runJson_readsBack.nonempty hrun hreads
      (by exact_mod_cast hlength) (hevents.trans (congrArg _ (hall events rfl).symm))
    exact ⟨events, rfl, by rw [hsame, hurls]⟩

end Sample

end Stophammer
