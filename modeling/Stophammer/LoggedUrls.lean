import Stophammer.PendingChanges
import Stophammer.RecordChange
import Stophammer.RecordWrites

/-!
# The URLs that the log names

The last event of content about a record names its source URL: each operation that gives a
record another URL signs its content.
-/

namespace Stophammer

open Relational Statement

section

variable [Platform]

def isContentOf (guid : String) (r : StoredEvent) : Bool :=
  r.eventType == .feedUpserted && r.subjectGuid == guid

def lastContent (rows : List StoredEvent) (guid : String) : Option StoredEvent :=
  (rows.filter (isContentOf guid)).getLast?

/-- The event carries a feed at the URL. -/
def NamesUrl (r : StoredEvent) (url : String) : Prop :=
  ∃ p : FeedUpsertedPayload, Carries r (.feedUpserted p) ∧ p.feed.feedUrl = url

/-- The last content of each record names its URL. -/
def UrlsLogged (d : Db) : Prop :=
  ∀ guid url, (record d guid).feedUrl = some url →
    ∃ r, lastContent (d .events) guid = some r ∧ NamesUrl r url

variable {d e : Db} {guid url : String}

omit [Platform] in
theorem lastContent_append (rows rows' : List StoredEvent) (guid : String) :
    lastContent (rows ++ rows') guid = (lastContent rows' guid).or (lastContent rows guid) := by
  rw [lastContent, List.filter_append, List.getLast?_append]
  rfl

theorem UrlsLogged.step {rows : List StoredEvent} (h : UrlsLogged d)
    (hrows : e .events = d .events ++ rows)
    (hurl : ∀ guid url, (record e guid).feedUrl = some url →
      (∃ r, lastContent rows guid = some r ∧ NamesUrl r url) ∨
        lastContent rows guid = none ∧ (record d guid).feedUrl = some url) : UrlsLogged e := by
  intro guid url he
  have hlast : lastContent (e .events) guid =
      (lastContent rows guid).or (lastContent (d .events) guid) := by
    rw [hrows, lastContent_append]
  rcases hurl guid url he with ⟨r, hr, hnames⟩ | ⟨hnone, hd⟩
  · exact ⟨r, by rw [hlast, hr, Option.some_or], hnames⟩
  · obtain ⟨r, hr, hnames⟩ := h guid url hd
    exact ⟨r, by rw [hlast, hnone, Option.none_or, hr], hnames⟩

omit [Platform] in
theorem lastContent_none {rows : List StoredEvent}
    (h : ∀ r ∈ rows, r.eventType ≠ .feedUpserted) : lastContent rows guid = none := by
  rw [lastContent, List.getLast?_eq_none_iff, List.filter_eq_nil_iff]
  intro r hr
  simp [isContentOf, h r hr]

theorem urlsLogged_of_logs {ts : List Table} {types : List EventType} (h : Logs ts types d e)
    (htypes : EventType.feedUpserted ∉ types)
    (hurl : ∀ guid url, (record e guid).feedUrl = some url →
      (record d guid).feedUrl = some url) : Keeps UrlsLogged d e := by
  obtain ⟨rows, hrows, hall⟩ := h.appended
  refine fun hd => hd.step hrows fun guid url he => .inr ⟨lastContent_none ?_, hurl guid url he⟩
  exact fun r hr htype => htypes (htype ▸ hall r hr)

theorem urlsLogged_of_frame {ts : List Table} {types : List EventType} (h : Logs ts types d e)
    (htypes : EventType.feedUpserted ∉ types) (hts : ∀ t ∈ recordTables, t ∉ ts) :
    Keeps UrlsLogged d e :=
  urlsLogged_of_logs h htypes fun guid url he => by
    rwa [record_sameOutside h.frame hts] at he

theorem urlsLogged_of_writes {ts : List Table} {α : Type} {x : Stmt α}
    (hx : Writes (S := schema) ts x) (hts : ∀ t ∈ Table.events :: recordTables, t ∉ ts) :
    Steps (Keeps UrlsLogged) x := by
  intro d
  have hlogs : Logs ts [] d (x d).2 := Logs.of_writes hx (List.Subset.refl _)
    (hts _ List.mem_cons_self) d
  exact urlsLogged_of_frame hlogs (by decide) fun t ht => hts t (List.mem_cons_of_mem _ ht)

theorem urlsLogged_of_observes {ts : List Table} (h : Observes ts d e)
    (hts : ∀ t ∈ recordTables, t ∉ ts) : Keeps UrlsLogged d e :=
  urlsLogged_of_frame h.logs (by decide) hts

omit [Platform] in
theorem feedUrl_record : (record d guid).feedUrl = (getFeedByGuid d guid).map Feed.feedUrl := by
  rw [getFeedByGuid_record, Option.map_map]
  rfl

omit [Platform] in
theorem getFeedByGuid_map : getFeedByGuid d guid =
    ((d .feeds).map FeedRow.feed).find? fun feed => feed.feedGuid == guid := by
  rw [getFeedByGuid, List.find?_map]
  rfl

theorem deleteFeedWithEvent_urlsLogged {signer : NodeSigner} {feedGuid : String} {row : EventRow}
    {blocks : List (FeedBlock × String)} (htype : row.eventType = .feedRetired) :
    Steps (Keeps UrlsLogged) (deleteFeedWithEvent signer feedGuid row blocks) := by
  intro d
  have hlogs : Steps (Logs retireTables [.feedRetired, .feedBlocked])
      (deleteFeedWithEvent signer feedGuid row blocks) :=
    deleteFeedWithEvent_logs (by decide) (htype ▸ List.mem_cons_self)
  apply urlsLogged_of_logs (hlogs d) (by decide)
  intro guid url he
  rcases deleteFeedWithEvent_record signer feedGuid row blocks d guid with hsame | ⟨-, hempty⟩
  · rwa [hsame] at he
  · rw [hempty] at he
    cases he

theorem guidChangeTransition_urlsLogged {signer : NodeSigner} {uuid : Nat → String}
    {oldGuid newGuid sourceUrl : String} {now : Int} :
    Steps (Keeps UrlsLogged) (guidChangeTransition signer uuid oldGuid newGuid sourceUrl now) := by
  intro d
  apply urlsLogged_of_logs (guidChangeTransition_logs d) (by decide)
  intro guid url he
  rcases guidChangeTransition_record signer uuid oldGuid newGuid sourceUrl now d guid with
    hsame | ⟨-, hempty⟩
  · rwa [hsame] at he
  · rw [hempty] at he
    cases he

theorem handleSourceGoneReport_urlsLogged {env : IngestEnv} {req : IngestFeedRequest}
    (hauth : env.chain.authenticate req = none) (hgone : isGoneReport req = true) :
    Keeps UrlsLogged d (handleSourceGoneReport env req d).2 := by
  apply urlsLogged_of_logs (handleSourceGoneReport_logs d) (by decide)
  intro guid url he
  rcases handleSourceGoneReport_record hauth hgone with hsame | ⟨-, hchange⟩
  · rwa [hsame] at he
  · rw [hchange] at he
    split at he
    · cases he
    · exact he

theorem updateColumns_urlsLogged {p : FeedRow → Bool} {f : FeedRow → FeedRow}
    (hf : ∀ r, (f r).feed = r.feed) :
    Steps (Keeps UrlsLogged) (update (S := schema) .feeds p f) := by
  have hwrites : Writes (S := schema) [Table.feeds] (update (S := schema) .feeds p f) :=
    Writes.update (by decide)
  intro d
  rcases hrun : update (S := schema) .feeds p f d with ⟨err | _, e⟩
  · rw [modify_error_state hrun]
    exact refl_of (Keeps UrlsLogged) d
  · have hfeeds : (e .feeds).map FeedRow.feed = (d .feeds).map FeedRow.feed := by
      rw [modify_ok_rows hrun, List.map_map]
      apply List.map_congr_left
      intro r _
      rw [Function.comp_apply]
      split
      · exact hf r
      · rfl
    have hlog : e .events = d .events ++ [] := by
      rw [List.append_nil]
      exact (hwrites .events (by decide)).run hrun
    refine fun hd => hd.step hlog fun guid url he => .inr ⟨rfl, ?_⟩
    rw [feedUrl_record] at he ⊢
    rwa [getFeedByGuid_map, hfeeds, ← getFeedByGuid_map] at he

omit [Platform] in
theorem signEventRow_contents {signer : NodeSigner} {row : EventRow} {signed : SignedEventRow}
    (h : signEventRow signer row d = (.ok signed, e)) :
    e.contents = d.contents.set .events (d .events ++ [signedRow signer row (nextSeq d)]) := by
  obtain ⟨_, d₁, hinsert, hpure⟩ := bind_ok h
  cases hpure
  rcases insertEvent_run signer row d with ⟨t, hrun, hcontents⟩ | ⟨err, hrun⟩
  · cases hrun.symm.trans hinsert
    exact hcontents
  · cases hrun.symm.trans hinsert

omit [Platform] in
theorem lastContent_signed {signer : NodeSigner} {row : EventRow} {seq : Int}
    (htype : row.eventType = .feedUpserted) :
    lastContent [signedRow signer row seq] guid =
      if row.subjectGuid = guid then some (signedRow signer row seq) else none := by
  have hcontent : isContentOf guid (signedRow signer row seq) =
      decide (row.subjectGuid = guid) := by
    simp [isContentOf, signedRow, EventRow.stored, htype, Bool.beq_eq_decide_eq]
  rw [lastContent, List.filter_cons, hcontent]
  by_cases hguid : row.subjectGuid = guid <;> simp [hguid]

theorem relocateFeed_urlsLogged {env : OperatorEnv} {feedGuid newUrl reason eventId : String}
    {outcome : RelocateOutcome}
    (h : relocateFeed env feedGuid newUrl reason eventId d = (.ok outcome, e)) :
    Keeps UrlsLogged d e := by
  have hothers : ∀ guid, guid ≠ feedGuid → record e guid = record d guid := by
    intro guid hguid
    rcases relocateFeed_record env feedGuid newUrl reason eventId d guid with hsame | ⟨heq, -⟩
    · rwa [h] at hsame
    · exact absurd heq hguid
  unfold relocateFeed at h
  rw [read_bind_run] at h
  split at h
  · cases h
    exact refl_of (Keeps UrlsLogged) d
  · rw [read_bind_run] at h
    cases hold : getFeedByGuid d feedGuid with
    | none =>
      rw [hold] at h
      cases h
    | some old =>
      rw [hold] at h
      simp only at h
      have hfeeds : ∀ {p : FeedRow → Bool} {f : FeedRow → FeedRow} {s t : Db},
          update (S := schema) .feeds p f s = (.ok (), t) → t .events = s .events := by
        intro p f s t hrun
        have hwrites : Writes (S := schema) [Table.feeds] (update (S := schema) .feeds p f) :=
          Writes.update (by decide)
        exact (hwrites .events (by decide)).run hrun
      obtain ⟨_, d₁, hurl, h⟩ := bind_ok h
      obtain ⟨_, d₂, hself, h⟩ := bind_ok h
      obtain ⟨_, d₃, hclear, h⟩ := bind_ok h
      obtain ⟨_, d₄, hstate, h⟩ := bind_ok h
      have hlog : d₄ .events = d .events := by
        rw [(writeRelocationState_writes .events (by decide)).run hstate, hfeeds hclear,
          hfeeds hself, hfeeds hurl]
      rw [read_bind_run] at h
      cases hfeed : getFeedByGuid d₄ feedGuid with
      | none =>
        rw [hfeed] at h
        cases h
      | some feed =>
        rw [hfeed] at h
        obtain ⟨signed, d₅, hsign, h⟩ := bind_ok h
        cases h
        have hcontents := signEventRow_contents hsign
        have hrows : e .events = d .events ++ [signedRow env.signer (eventDraft
            (.feedUpserted { feed := feed, reason := some reason }) feedGuid env.now [] eventId)
              (nextSeq d₄)] := by
          rw [hcontents, Contents.set_same, hlog]
        refine fun hd => hd.step hrows fun guid url he => ?_
        rw [lastContent_signed rfl]
        by_cases hguid : guid = feedGuid
        · subst hguid
          refine .inl ⟨_, if_pos rfl, _, ⟨rfl, rfl⟩, ?_⟩
          have hsame : getFeedByGuid e guid = getFeedByGuid d₄ guid := by
            rw [getFeedByGuid, hcontents, Contents.set_other (by decide)]
            rfl
          rw [feedUrl_record, hsame, hfeed, Option.map_some, Option.some.injEq] at he
          exact he
        · rw [hothers guid hguid] at he
          exact .inr ⟨if_neg fun hsame => hguid hsame.symm, he⟩

/-- The row of the log comes from the row of an ingest. -/
def IsSigned (r : StoredEvent) (row : EventRow) : Prop := ∃ signer seq, r = signedRow signer row seq

omit [Platform] in
theorem insertEvents_signed {signer : NodeSigner} {rows : List EventRow}
    {seqs : List (Int × String × String)} (h : insertEvents signer rows d = (.ok seqs, e)) :
    ∃ stored, e .events = d .events ++ stored ∧ List.Forall₂ IsSigned stored rows := by
  induction rows generalizing d seqs with
  | nil =>
    cases h
    exact ⟨[], (List.append_nil _).symm, .nil⟩
  | cons row rows ih =>
    obtain ⟨signed, d₁, hfirst, h⟩ := bind_ok h
    obtain ⟨rest, d₂, hrest, h⟩ := bind_ok h
    cases h
    rcases insertEvent_run signer row d with ⟨t, hrun, hcontents⟩ | ⟨err, hrun⟩
    · cases hrun.symm.trans hfirst
      obtain ⟨stored, hstored, hsigned⟩ := ih hrest
      refine ⟨signedRow signer row (nextSeq d) :: stored, ?_, .cons ⟨signer, _, rfl⟩ hsigned⟩
      rw [hstored, hcontents, Contents.set_same, List.append_assoc, List.singleton_append]
    · cases hrun.symm.trans hfirst

omit [Platform] in
theorem lastContent_signedRows {stored : List StoredEvent} {rows : List EventRow}
    (h : List.Forall₂ IsSigned stored rows) (hrows : ∀ row ∈ rows, row.eventType ≠ .feedUpserted) :
    lastContent stored guid = none := by
  apply lastContent_none
  induction h with
  | nil => exact List.forall_mem_nil _
  | cons hsigned _ ih =>
    obtain ⟨hrow, hrows⟩ := List.forall_mem_cons.mp hrows
    obtain ⟨signer, seq, rfl⟩ := hsigned
    exact List.forall_mem_cons.mpr ⟨hrow, ih hrows⟩

theorem feedSetEvents_noContent {c : IngestContent} {changed : SetsChanged} {now : Int}
    {warnings : List String} :
    ∀ draft ∈ feedSetEvents c changed now warnings, ∀ id, (draft id).eventType ≠ .feedUpserted := by
  intro draft hdraft
  simp only [feedSetEvents, List.mem_append] at hdraft
  rcases hdraft with (((((((((h | h) | h) | h) | h) | h) | h) | h) | h) | h) | h <;>
    exact @forall_draftIf (fun draft => ∀ id, (draft id).eventType ≠ .feedUpserted) _ _
      (fun _ h => by cases h) draft h

theorem buildDiffEvents_content (d : Db) (c : IngestContent) (now : Int) (warnings : List String) :
    ∃ rest : List EventDraft, (∀ draft ∈ rest, ∀ id, (draft id).eventType ≠ .feedUpserted) ∧
      (buildDiffEvents d c now warnings = buildFeedUpsertedEvent c.feed now warnings :: rest ∨
        buildDiffEvents d c now warnings = rest ∧
          (getFeedByGuid d c.feed.feedGuid).map Feed.feedUrl = some c.feed.feedUrl) := by
  have hif : ∀ {condition : Bool} {draft : EventDraft},
      (∀ id, (draft id).eventType ≠ .feedUpserted) →
        ∀ r ∈ draftIf condition draft, ∀ id, (r id).eventType ≠ .feedUpserted :=
    fun h => forall_draftIf h
  cases hexisting : getFeedByGuid d c.feed.feedGuid with
  | none =>
    refine ⟨feedSetEvents c (setsPresent c) now warnings ++ c.tracks.flatMap fun t =>
      buildTrackUpsertedEvent t.track now warnings t.routes t.splits ::
        draftIf (!t.remoteItems.isEmpty)
          (buildTrackRemoteItemsEvent t.track now warnings t.remoteItems), ?_, .inl ?_⟩
    · intro draft hdraft
      rcases List.mem_append.mp hdraft with hdraft | hdraft
      · exact feedSetEvents_noContent draft hdraft
      · obtain ⟨t, -, hdraft⟩ := List.mem_flatMap.mp hdraft
        rcases List.mem_cons.mp hdraft with rfl | hdraft
        · exact fun _ h => by cases h
        · exact hif (fun _ h => by cases h) draft hdraft
    · rw [buildDiffEvents, hexisting]
      rfl
  | some existing =>
    have hrest : ∀ draft ∈ feedSetEvents c (setsChanged d c) now warnings ++
        c.tracks.flatMap fun t => changedTrackEvents d c.feed.feedGuid t now warnings,
          ∀ id, (draft id).eventType ≠ .feedUpserted := by
      intro draft hdraft
      rcases List.mem_append.mp hdraft with hdraft | hdraft
      · exact feedSetEvents_noContent draft hdraft
      · obtain ⟨t, -, hdraft⟩ := List.mem_flatMap.mp hdraft
        unfold changedTrackEvents at hdraft
        simp only at hdraft
        split at hdraft
        · rcases List.mem_cons.mp hdraft with rfl | hdraft
          · exact fun _ h => by cases h
          · exact hif (fun _ h => by cases h) draft hdraft
        · exact hif (fun _ h => by cases h) draft hdraft
    refine ⟨_, hrest, ?_⟩
    rw [buildDiffEvents, hexisting]
    simp only [buildChangedEvents]
    cases hchanged : feedFieldsChanged existing c.feed with
    | true =>
      left
      simp [draftIf]
    | false =>
      have hfields : feedFieldsChanged.fields existing = feedFieldsChanged.fields c.feed :=
        bne_eq_false_iff_eq.mp hchanged
      simp only [feedFieldsChanged.fields, Prod.mk.injEq] at hfields
      right
      refine ⟨by simp [draftIf], ?_⟩
      rw [Option.map_some, hfields.2.2.2.2.2.2.2.2.2.2.2.2]

theorem Record.stored_feedUrl (r : Record) (feed : Feed) (feedMove : Option FeedMoveWrite) :
    (r.stored feed feedMove).feedUrl = some feed.feedUrl := by
  rcases r with ⟨_ | row, move, left, gone⟩ <;> rfl

theorem ingestTransaction_signed {env : PrimaryEnv} {removalUuid : Nat → String} {c : IngestContent}
    {eventRows : List EventRow} {feedMove : Option FeedMoveWrite}
    {seqs : List (Int × String × String)}
    (h : ingestTransaction env removalUuid c eventRows feedMove d = (.ok seqs, e)) :
    ∃ stored removals, e .events = d .events ++ stored ∧
      List.Forall₂ IsSigned stored (eventRows ++ removals) ∧
        ∀ row ∈ removals, row.eventType = .trackRemoved := by
  obtain ⟨_, d₁, hfeed, h⟩ := bind_ok (transaction_ok.mp h)
  obtain ⟨_, d₂, hsets, h⟩ := bind_ok h
  rw [read_bind_run] at h
  obtain ⟨_, d₃, htracks, h⟩ := bind_ok h
  obtain ⟨_, d₄, hstale, h⟩ := bind_ok h
  obtain ⟨seqs', d₅, hevents, h⟩ := bind_ok h
  obtain ⟨_, d₆, hsync, h⟩ := bind_ok h
  have hbefore : d₄ .events = d .events := by
    have hremove := (Leaves.forEach (f := fun d : Db => d .events) fun trackGuid _ =>
      removeStaleTrack_writes .events (by decide)).run hstale
    have hwrite := (Leaves.forEach (f := fun d : Db => d .events) fun track _ =>
      writeTrack_writes .events (by decide)).run htracks
    exact hremove.trans (hwrite.trans (((replaceFeedSets_writes .events (by decide)).run hsets).trans
      ((writeFeed_writes .events (by decide)).run hfeed)))
  have hafter : e .events = d₅ .events := by
    refine Eq.trans ?_ ((syncSourceReadModelsForFeed_writes .events (by decide)).run hsync)
    cases feedMove with
    | none =>
      cases h
      rfl
    | some mv =>
      obtain ⟨_, d₇, hwrite, hpure⟩ := bind_ok h
      cases hpure
      exact (writeFeedMove_writes .events (by decide)).run hwrite
  obtain ⟨stored, hstored, hsigned⟩ := insertEvents_signed hevents
  refine ⟨stored, _, ?_, hsigned, forall_assignIds fun draft hdraft id => ?_⟩
  · rw [hafter, hstored, hbefore]
  · obtain ⟨trackGuid, -, rfl⟩ := List.mem_map.mp hdraft
    rfl

theorem ingestTransaction_urlsLogged {env : PrimaryEnv} {removalUuid uuid : Nat → String}
    {c : IngestContent} {now : Int} {warnings : List String} {feedMove : Option FeedMoveWrite} {t : Db}
    (hsame : ∀ existing, getFeedByGuid d c.feed.feedGuid = some existing →
      getFeedByGuid t c.feed.feedGuid = some existing) :
    Keeps UrlsLogged t (ingestTransaction env removalUuid c
      (assignIds uuid (buildDiffEvents d c now warnings)) feedMove t).2 := by
  rcases hrun : ingestTransaction env removalUuid c
    (assignIds uuid (buildDiffEvents d c now warnings)) feedMove t with ⟨err | seqs, e⟩
  · rw [transaction_error hrun]
    exact refl_of (Keeps UrlsLogged) t
  obtain ⟨stored, removals, hlog, hsigned, hremovals⟩ := ingestTransaction_signed hrun
  refine fun hlogged => hlogged.step hlog fun guid url he => ?_
  rw [ingestTransaction_record hrun] at he
  obtain ⟨rest, hrest, hdrafts | ⟨hdrafts, hurl⟩⟩ := buildDiffEvents_content d c now warnings
  · rw [hdrafts, assignIds, List.zipIdx_cons, List.map_cons, List.cons_append] at hsigned
    obtain ⟨first, later, ⟨signer, seq, rfl⟩, hlater, rfl⟩ := List.forall₂_cons_right_iff.mp hsigned
    have hnone : lastContent later guid = none := by
      apply lastContent_signedRows hlater
      intro row hrow
      rcases List.mem_append.mp hrow with hrow | hrow
      · obtain ⟨⟨draft, index⟩, hmem, rfl⟩ := List.mem_map.mp hrow
        exact hrest draft (List.fst_mem_of_mem_zipIdx hmem) _
      · rw [hremovals row hrow]
        decide
    rw [← List.singleton_append, lastContent_append, hnone, Option.none_or, lastContent_signed rfl]
    by_cases hguid : guid = c.feed.feedGuid
    · subst hguid
      rw [if_pos rfl, Record.stored_feedUrl, Option.some.injEq] at he
      exact .inl ⟨_, if_pos rfl, _, ⟨rfl, rfl⟩, he⟩
    · rw [if_neg hguid] at he
      exact .inr ⟨if_neg fun h => hguid h.symm, he⟩
  · have hnone : lastContent stored guid = none := by
      apply lastContent_signedRows hsigned
      intro row hrow
      rcases List.mem_append.mp hrow with hrow | hrow
      · rw [hdrafts] at hrow
        exact @forall_assignIds _ _ (fun row => row.eventType ≠ .feedUpserted) hrest row hrow
      · rw [hremovals row hrow]
        decide
    refine .inr ⟨hnone, ?_⟩
    split at he
    · rename_i hguid
      subst hguid
      obtain ⟨existing, hexisting, hsameUrl⟩ := Option.map_eq_some_iff.mp hurl
      rw [Record.stored_feedUrl] at he
      rw [feedUrl_record, hsame existing hexisting, Option.map_some, hsameUrl, he]
    · exact he

variable {env : IngestEnv} {snapshot : Db} {req : IngestFeedRequest} {body : IngestFeedData}
  {admission : Admission}

theorem admitContent_urlsLogged
    (hnew : admission.pendingGuidTransition ≠ none → getFeedByGuid e body.feedGuid = none) :
    Keeps UrlsLogged e (admitContent env req body admission e).2 := by
  apply admitContent_steps_each
  · exact fun heldGuid _ => guidChangeTransition_urlsLogged e
  · intro t ht contentWarnings
    apply ingestTransaction_urlsLogged
    intro existing hexisting
    cases hpending : admission.pendingGuidTransition with
    | none => rwa [ht hpending]
    | some heldGuid =>
      have hnone := hnew (by rw [hpending]; exact Option.some_ne_none _)
      cases hnone.symm.trans hexisting
  · intro isMove
    apply writeDeclarations_steps
    · intro s t h
      have hlogs : Logs [.feedMoveState] [] s t := ⟨h, [], by simp [h .events (by decide)], by simp⟩
      exact urlsLogged_of_logs hlogs (by decide) fun guid url he => by
        rw [feedUrl_record, getFeedByGuid, h .feeds (by decide)] at he
        rwa [feedUrl_record]
    · exact fun p f hf => updateColumns_urlsLogged hf
  · exact fun s t h => urlsLogged_of_observes h (by decide)

theorem handleIngestFeed_urlsLogged (env : IngestEnv) (snapshot : Db) (req : IngestFeedRequest)
    (d : Db) : Keeps UrlsLogged d (handleIngestFeed env snapshot req d).2 := by
  apply ingest_steps
  · exact fun hauth hgone => handleSourceGoneReport_urlsLogged hauth hgone
  · exact fun s t h => urlsLogged_of_observes h (by decide)
  · intro body warnings _ _ _ _
    exact deleteFeedWithEvent_urlsLogged rfl d
  · intro body _ _ _ _
    exact urlsLogged_of_frame (recordGuidChangeReturnForIngest_logs d) (by decide) (by decide)
  · intro body heldGuid _ _ _
    exact urlsLogged_of_frame (recordGuidChangePendingForIngest_logs d) (by decide) (by decide)
  · intro body admission e hreach hheld hmove hsame _
    apply admitContent_urlsLogged
    intro hpending
    rw [hheld] at hpending
    cases hclass : classifySubmission d body.feedGuid req.sourceUrl req.canonicalUrl with
    | guidChange heldGuid =>
      have hnone := (classifySubmission_guidChange hclass).1
      rwa [getFeedByGuid, hsame .feeds (by decide)]
    | _ =>
      rw [hclass] at hpending
      exact absurd rfl hpending

theorem AdminRequest.urlsLogged {env : OperatorEnv} (request : AdminRequest) :
    Keeps UrlsLogged d (request.handle env d).2 := by
  apply request.steps_each
  · exact fun s t h => urlsLogged_of_frame h (by decide) (by decide)
  · exact fun guid trackGuid _ =>
      urlsLogged_of_frame (handleRemoveTrack_logs d) (by decide) (by decide)
  · exact fun _ feedGuid trackGuid newUrl =>
      urlsLogged_of_frame (patchTrackRow_logs d) (by decide) (by decide)
  · exact fun guid block row blocks _ htype => deleteFeedWithEvent_urlsLogged htype d
  · exact fun guid newUrl reason eventId _ outcome e h => relocateFeed_urlsLogged h
  · exact fun guid => urlsLogged_of_writes releaseRetiredSourceHold_writes (by decide) d
  · intro guid decision reason _
    exact urlsLogged_of_frame (decideGuidChangeRow_logs d) (by decide) (by decide)

theorem Operation.urlsLogged (operation : Operation) (d : Db) :
    Keeps UrlsLogged d (operation.next d) := by
  cases operation with
  | ingest env snapshot req => exact handleIngestFeed_urlsLogged env snapshot req d
  | admin env tokenAccepted request =>
    exact (Steps.ite (fun d => request.urlsLogged) (.fail _) : Steps (Keeps UrlsLogged) _) d
  | seedBlocks env entries => exact urlsLogged_of_frame (seedBlocks_logs d) (by decide) (by decide)
  | fillRetiredSourceHolds =>
    apply fillRetiredSourceHolds_steps
    exact fun hold => urlsLogged_of_writes
      (Writes.insertOrIgnore (List.mem_singleton.mpr rfl)) (by decide)
  | peers write only => exact urlsLogged_of_writes only (by decide) d

theorem run_urlsLogged {ok : Db → Operation → Prop} {history : List RunStep}
    (hrun : PrimaryRun ok history d) : UrlsLogged d :=
  hrun.keeps (fun _ _ h => by cases h) fun d operation _ => operation.urlsLogged d

end

end Stophammer
