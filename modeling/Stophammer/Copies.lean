import Stophammer.RecordWrites
import Stophammer.Recording
import Stophammer.Relational.Upserted

/-!
# Copies of a feed

A primary keeps a summary of each other URL that serves a body with the GUID of a record, up to a
limit.  An operator decides about a copy, and the decision holds while the copy has the content
that it was made about.
-/

namespace Stophammer

open Relational Statement

/-- The decision is about the summary that the row has now. -/
def copyResolutionHolds (row : FeedCopyRow) : Bool :=
  (row.resolvedDigest.any fun digest => digest == row.summaryDigest) &&
    row.resolvedRemoteItemsDigest.all fun digest => some digest == row.remoteItemsDigest

section

variable [Platform] {d e : Db}

/-- The row has the digests of its summary. -/
def Digested (r : FeedCopyRow) : Prop :=
  r.summaryDigest = summaryDigest r.summary ∧ r.remoteItemsDigest = remoteItemsDigest r.summary

/-- The log has this decision about a copy. -/
def CopyResolved (d : Db) (p : FeedCopyResolvedPayload) : Prop :=
  ∃ r ∈ d .events, r.eventType = .feedCopyResolved ∧
    r.payloadJson = Platform.encodePayload (.feedCopyResolved p)

/-- The decision that the row names was signed. -/
def Decided (d : Db) (r : FeedCopyRow) : Prop :=
  ∀ digest, r.resolvedDigest = some digest → ∃ p, CopyResolved d p ∧ p.feedGuid = r.feedGuid ∧
    p.url = r.url ∧ r.resolution = some p.decision ∧ p.resolvedDigest = digest ∧
    p.resolvedRemoteItemsDigest = r.resolvedRemoteItemsDigest

structure CopiesKept (d : Db) : Prop where
  few : ∀ guid, countFeedCopies d guid ≤ maxCopiesPerGuid
  digested : ∀ r ∈ d .feedCopies, Digested r
  decided : ∀ r ∈ d .feedCopies, Decided d r

theorem copiesKept_empty : CopiesKept (Database.empty schema) where
  few _ := (by decide : (0 : Int) ≤ maxCopiesPerGuid)
  digested _ hr := absurd hr List.not_mem_nil
  decided _ hr := absurd hr List.not_mem_nil

theorem Decided.mono (hlog : ∀ r ∈ d .events, r ∈ e .events) {r : FeedCopyRow}
    (h : Decided d r) : Decided e r := by
  intro digest hdigest
  obtain ⟨p, ⟨ev, hev, htype, htext⟩, hrest⟩ := h digest hdigest
  exact ⟨p, ⟨ev, hlog ev hev, htype, htext⟩, hrest⟩

/-- Copies leave, and events come. -/
structure Fewer (d e : Db) : Prop where
  copies : (e .feedCopies).Sublist (d .feedCopies)
  events : ∀ r ∈ d .events, r ∈ e .events

instance : IsPreorder Db Fewer where
  refl _ := ⟨List.Sublist.refl _, fun _ => id⟩
  trans _ _ _ hde hef :=
    ⟨hef.copies.trans hde.copies, fun r hr => hef.events r (hde.events r hr)⟩

omit [Platform] in
theorem Fewer.of_logs {ts : List Table} {types : List EventType} (hts : Table.feedCopies ∉ ts)
    (h : Logs ts types d e) : Fewer d e := by
  obtain ⟨rows, hrows, -⟩ := h.appended
  refine ⟨?_, fun r hr => ?_⟩
  · rw [h.frame .feedCopies hts]
  · rw [hrows]
    exact List.mem_append_left _ hr

omit [Platform] in
theorem Fewer.of_writes {ts : List Table} {α : Type} {x : Stmt α} (hx : Writes (S := schema) ts x)
    (hts : Table.feedCopies ∉ ts) (hlog : Table.events ∉ ts) : Steps Fewer x := by
  intro d
  have hcopies : (x d).2 .feedCopies = d .feedCopies := hx .feedCopies hts d
  have hevents : (x d).2 .events = d .events := hx .events hlog d
  exact ⟨by rw [hcopies], fun r hr => by rwa [hevents]⟩

omit [Platform] in
theorem signEventRow_fewer {signer : NodeSigner} {row : EventRow} :
    Steps Fewer (signEventRow signer row) := fun d =>
  have hlogs : Logs [.events] [row.eventType] d (signEventRow signer row d).2 :=
    signEventRow_logs List.mem_cons_self List.mem_cons_self d
  .of_logs (by decide) hlogs

omit [Platform] in
theorem Fewer.of_shrinks {ts : List Table} {α : Type} {x : Stmt α} (hx : Shrinks (S := schema) x)
    (hwrites : Writes (S := schema) ts x) (hlog : Table.events ∉ ts) : Steps Fewer x := by
  intro d
  have hevents : (x d).2 .events = d .events := hwrites .events hlog d
  exact ⟨hx d .feedCopies, fun r hr => by rwa [hevents]⟩

theorem insertFeedBlock_fewer {block : FeedBlock} : Steps Fewer (insertFeedBlock block) := by
  have hinsert : Writes (S := schema) [Table.feedBlocks]
      (insertOrIgnore (S := schema) .feedBlocks
        ({ block with value := block.kind.normalize block.value } : FeedBlock)) :=
    Writes.insertOrIgnore (by decide)
  have hdelete : ∀ p, Steps Fewer (delete (S := schema) .feedCopies p) := fun p => by
    have hwrites : Writes (S := schema) [Table.feedCopies] (delete (S := schema) .feedCopies p) :=
      Writes.delete (by decide)
    exact .of_shrinks Shrinks.delete hwrites (by decide)
  apply (Fewer.of_writes hinsert (by decide) (by decide)).bind
  intro changed
  by_cases h : (changed && block.kind == .url) = true
  · rw [if_pos h]
    exact (hdelete _).bind fun _ => .pure changed
  · rw [if_neg h]
    exact (Steps.pure ()).bind fun _ => .pure changed

theorem Fewer.keeps (h : Fewer d e) : Keeps CopiesKept d e := by
  intro hkept
  refine ⟨fun guid => ?_, fun r hr => hkept.digested r (h.copies.subset hr),
    fun r hr => (hkept.decided r (h.copies.subset hr)).mono h.events⟩
  refine le_trans (Int.ofNat_le.mpr ?_) (hkept.few guid)
  exact (h.copies.filter _).length_le

omit [Platform] in
theorem countFeedCopies_updated {rows : List FeedCopyRow} {p : FeedCopyRow → Bool}
    {f : FeedCopyRow → FeedCopyRow} (hf : ∀ r, (f r).feedGuid = r.feedGuid) (guid : String) :
    ((rows.map fun r => if p r then f r else r).filter fun r => r.feedGuid == guid).length =
      (rows.filter fun r => r.feedGuid == guid).length := by
  rw [List.filter_map, List.length_map]
  congr 2
  funext r
  rw [Function.comp_apply]
  split
  · rw [hf]
  · rfl

theorem keeps_of_updated {p : FeedCopyRow → Bool} {f : FeedCopyRow → FeedCopyRow}
    (hrows : e .feedCopies = (d .feedCopies).map fun r : FeedCopyRow => if p r then f r else r)
    (hguid : ∀ r, (f r).feedGuid = r.feedGuid)
    (hnew : ∀ r ∈ d .feedCopies, p r = true → Digested r → Decided d r →
      Digested (f r) ∧ Decided e (f r))
    (hlog : ∀ r ∈ d .events, r ∈ e .events) : Keeps CopiesKept d e := by
  intro hkept
  have hall : ∀ r ∈ e .feedCopies, Digested r ∧ Decided e r := by
    intro r hr
    rw [hrows] at hr
    obtain ⟨old, hold, rfl⟩ := List.mem_map.mp hr
    split
    · rename_i hp
      exact hnew old hold hp (hkept.digested old hold) (hkept.decided old hold)
    · exact ⟨hkept.digested old hold, (hkept.decided old hold).mono hlog⟩
  refine ⟨fun guid => ?_, fun r hr => (hall r hr).1, fun r hr => (hall r hr).2⟩
  rw [countFeedCopies, hrows, countFeedCopies_updated hguid]
  exact hkept.few guid

theorem touchFeedCopyLastSeen_keeps {feedGuid url : String} {now : Int} :
    Steps (Keeps CopiesKept) (touchFeedCopyLastSeen feedGuid url now) := by
  intro d
  have hwrites : Writes (S := schema) [Table.feedCopies] (touchFeedCopyLastSeen feedGuid url now) :=
    Writes.update (by decide)
  rcases hrun : touchFeedCopyLastSeen feedGuid url now d with ⟨err | ⟨⟩, e⟩
  · have hsame : e = d := modify_error_state hrun
    rw [hsame]
    exact refl_of (Keeps CopiesKept) d
  · have hrows := modify_ok_rows (S := schema) hrun
    have hevents : e .events = d .events := (hwrites .events (by decide)).run hrun
    refine keeps_of_updated hrows (fun _ => rfl) ?_ fun r hr => hevents ▸ hr
    exact fun r _ _ hdigested hdecided =>
      ⟨hdigested, hdecided.mono fun r hr => hevents ▸ hr⟩

theorem upsertFeedCopySummary_keeps {feedGuid url : String} {firstSeen : Int}
    {summary : CopySummary} {u : Unit}
    (hroom : getFeedCopy d feedGuid url = none → countFeedCopies d feedGuid < maxCopiesPerGuid)
    (h : upsertFeedCopySummary feedGuid url firstSeen summary (summaryDigest summary)
      (remoteItemsDigest summary) d = (.ok u, e)) : Keeps CopiesKept d e := by
  have hwrites : Writes (S := schema) [Table.feedCopies]
      (upsertFeedCopySummary feedGuid url firstSeen summary (summaryDigest summary)
        (remoteItemsDigest summary)) := Writes.upsert (by decide)
  have hevents : e .events = d .events := (hwrites .events (by decide)).run h
  have hrows := upsert_rows (S := schema) h
  rw [upserted] at hrows
  cases hstored : getFeedCopy d feedGuid url with
  | some row =>
    have hany : (d .feedCopies).any (isCopyAt feedGuid url) = true :=
      List.any_eq_true.mpr ⟨row, List.mem_of_find?_eq_some hstored, List.find?_some hstored⟩
    rw [if_pos hany] at hrows
    refine keeps_of_updated hrows (fun _ => rfl) ?_ fun r hr => hevents ▸ hr
    exact fun r _ _ _ hdecided => ⟨⟨rfl, rfl⟩, hdecided.mono fun r hr => hevents ▸ hr⟩
  | none =>
    have hany : ¬ (d .feedCopies).any (isCopyAt feedGuid url) = true := by
      intro hany
      obtain ⟨r, hr, hat⟩ := List.any_eq_true.mp hany
      exact List.find?_eq_none.mp hstored r hr hat
    rw [if_neg hany] at hrows
    intro hkept
    refine ⟨fun guid => ?_, fun r hr => ?_, fun r hr => ?_⟩
    · have hfew := hkept.few guid
      rw [countFeedCopies] at hfew ⊢
      rw [hrows, List.filter_append, List.length_append]
      by_cases hguid : feedGuid = guid
      · subst hguid
        have hlt := hroom hstored
        rw [countFeedCopies] at hlt
        simp only [List.filter_cons, beq_self_eq_true, if_true, List.filter_nil,
          List.length_singleton]
        omega
      · have hother : (feedGuid == guid) = false := beq_eq_false_iff_ne.mpr hguid
        simp only [List.filter_cons, hother, Bool.false_eq_true, if_false, List.filter_nil,
          List.length_nil, Nat.add_zero]
        exact hfew
    · rw [hrows] at hr
      rcases List.mem_append.mp hr with hold | hnew
      · exact hkept.digested r hold
      · rw [List.mem_singleton.mp hnew]
        exact ⟨rfl, rfl⟩
    · rw [hrows] at hr
      rcases List.mem_append.mp hr with hold | hnew
      · exact (hkept.decided r hold).mono fun r hr => hevents ▸ hr
      · rw [List.mem_singleton.mp hnew]
        intro digest hdigest
        cases hdigest

theorem recordFeedCopyForIngest_keeps {signer : NodeSigner} {eventId feedGuid url : String}
    {body : IngestFeedData} {now : Int} :
    Steps (Keeps CopiesKept) (recordFeedCopyForIngest signer eventId feedGuid url body now) := by
  have hsigned : ∀ {row : EventRow} {s t : Db} {signed : SignedEventRow},
      signEventRow signer row s = (.ok signed, t) → Keeps CopiesKept s t :=
    fun h => (signEventRow_fewer.run h).keeps
  apply Steps.transaction_ok
  intro d rows e h
  rw [read_bind_run] at h
  cases hstored : getFeedCopy d feedGuid url with
  | some row =>
    rw [hstored] at h
    obtain ⟨_, d₁, hseen, h⟩ := bind_ok h
    have hfirst := touchFeedCopyLastSeen_keeps.run hseen
    split at h
    · obtain ⟨_, d₂, hwrite, h⟩ := bind_ok h
      obtain ⟨signed, d₃, hsign, hpure⟩ := bind_ok h
      cases hpure
      have hthere : getFeedCopy d₁ feedGuid url ≠ none := by
        intro hnone
        have hseenRows := modify_ok_rows (S := schema) hseen
        have hat := List.find?_some hstored
        refine List.find?_eq_none.mp hnone { row with lastSeen := some now } ?_ hat
        rw [hseenRows]
        exact List.mem_map.mpr ⟨row, List.mem_of_find?_eq_some hstored, if_pos hat⟩
      exact trans_of _ hfirst (trans_of _
        (upsertFeedCopySummary_keeps (fun hnone => absurd hnone hthere) hwrite) (hsigned hsign))
    · cases h
      exact hfirst
  | none =>
    rw [hstored] at h
    simp only at h
    rw [read_bind_run] at h
    split at h
    · obtain ⟨_, d₁, hoverflow, hpure⟩ := bind_ok h
      cases hpure
      have hwrites : Writes (S := schema) [Table.feedCopyOverflow]
          (incrementCopyOverflow feedGuid) := Writes.upsert (by decide)
      exact ((Fewer.of_writes hwrites (by decide) (by decide)).run hoverflow).keeps
    · rename_i hroom
      obtain ⟨_, d₁, hwrite, h⟩ := bind_ok h
      obtain ⟨_, d₂, hseen, h⟩ := bind_ok h
      obtain ⟨signed, d₃, hsign, hpure⟩ := bind_ok h
      cases hpure
      exact trans_of _ (upsertFeedCopySummary_keeps (fun _ => not_le.mp hroom) hwrite)
        (trans_of _ (touchFeedCopyLastSeen_keeps.run hseen) (hsigned hsign))

omit [Platform] in
theorem signEventRow_event {signer : NodeSigner} {row : EventRow} {signed : SignedEventRow}
    (h : signEventRow signer row d = (.ok signed, e)) :
    ∃ r ∈ e .events, r.eventType = row.eventType ∧ r.payloadJson = row.payloadJson := by
  obtain ⟨result, d₁, hinsert, hpure⟩ := bind_ok h
  cases hpure
  rcases insertEvent_run signer row d with ⟨t, hrun, hcontents⟩ | ⟨err, hrun⟩
  · cases hrun.symm.trans hinsert
    refine ⟨signedRow signer row (nextSeq d), ?_, rfl, rfl⟩
    rw [hcontents, Contents.set_same]
    exact List.mem_append_right _ List.mem_cons_self
  · cases hrun.symm.trans hinsert

theorem signResolution_keeps {env : OperatorEnv} {guid decision reason eventId : String}
    {row : FeedCopyRow} {signed : SignedEventRow}
    (h : signResolution env guid decision reason row eventId d = (.ok signed, e)) :
    Keeps CopiesKept d e := by
  obtain ⟨signed', t, hsign, h⟩ := bind_ok h
  obtain ⟨_, u, hset, hpure⟩ := bind_ok h
  cases hpure
  have hwrites : Writes (S := schema) [Table.feedCopies] (setFeedCopyResolution guid row.url decision
      reason env.now row.summaryDigest row.remoteItemsDigest) := Writes.update (by decide)
  have hevents : e .events = t .events := (hwrites .events (by decide)).run hset
  obtain ⟨r, hr, htype, htext⟩ := signEventRow_event hsign
  have hresolved : CopyResolved e
      { feedGuid := guid
        url := row.url
        decision := decision
        reason := reason
        resolvedAt := env.now
        resolvedDigest := row.summaryDigest
        resolvedRemoteItemsDigest := row.remoteItemsDigest } :=
    ⟨r, hevents ▸ hr, htype, htext⟩
  refine trans_of _ (signEventRow_fewer.run hsign).keeps ?_
  refine keeps_of_updated (modify_ok_rows (S := schema) hset) (fun _ => rfl) ?_
    fun r hr => hevents ▸ hr
  intro old _ hat hdigested _
  refine ⟨hdigested, fun digest hdigest => ?_⟩
  cases hdigest
  rw [isCopyAt, Bool.and_eq_true, beq_iff_eq, beq_iff_eq] at hat
  exact ⟨_, hresolved, hat.1.symm, hat.2.symm, rfl, rfl, rfl⟩

theorem signBlocks_fewer {signer : NodeSigner} {createdAt : Int}
    {blocks : List (FeedBlock × String)} : Steps Fewer (signBlocks signer createdAt blocks) := by
  induction blocks with
  | nil => exact .pure _
  | cons entry blocks ih =>
    apply insertFeedBlock_fewer.bind
    intro changed
    refine Steps.ite ?_ ih
    apply signEventRow_fewer.bind
    intro signed
    exact signedEvent_steps.bind fun _ => ih.bind fun _ => .pure _

theorem deleteFeedSql_fewer {feedGuid : String} : Steps Fewer (deleteFeedSql feedGuid) :=
  .of_shrinks deleteFeedSql_shrinks deleteFeedSql_writes (by decide)

theorem deleteFeedWithEvent_fewer {signer : NodeSigner} {feedGuid : String} {row : EventRow}
    {blocks : List (FeedBlock × String)} :
    Steps Fewer (deleteFeedWithEvent signer feedGuid row blocks) := by
  apply Steps.transaction
  apply Steps.read_then
  intro holdSourceUrl
  apply deleteFeedSql_fewer.bind
  intro _
  apply (Fewer.of_writes writeHold_writes (by decide) (by decide)).bind
  intro _
  apply signEventRow_fewer.bind
  intro signed
  apply (signedEvent_steps (R := Fewer)).bind
  intro retired
  exact signBlocks_fewer.bind fun _ => .pure _

theorem guidChangeTransition_fewer {signer : NodeSigner} {uuid : Nat → String}
    {oldGuid newGuid sourceUrl : String} {now : Int} :
    Steps Fewer (guidChangeTransition signer uuid oldGuid newGuid sourceUrl now) := by
  have hsupersede : Writes (S := schema) [Table.feedGuidSupersessions]
      (insertGuidSupersession oldGuid newGuid sourceUrl now) :=
    (Writes.insertOrIgnore (by decide)).bind fun _ => Writes.pure _
  have hclear : Writes (S := schema) [Table.feedGuidChanges] (deleteGuidChange sourceUrl) :=
    Writes.delete (by decide)
  apply Steps.transaction
  apply deleteFeedSql_fewer.bind
  intro _
  apply signEventRow_fewer.bind
  intro retired
  apply (Fewer.of_writes hsupersede (by decide) (by decide)).bind
  intro _
  apply signEventRow_fewer.bind
  intro superseded
  apply Steps.read_then
  intro pending
  cases pending with
  | none => exact .pure _
  | some row =>
    apply (Fewer.of_writes hclear (by decide) (by decide)).bind
    intro _
    exact signEventRow_fewer.bind fun _ => .pure _

theorem ingestTransaction_fewer {env : PrimaryEnv} {removalUuid : Nat → String} {c : IngestContent}
    {eventRows : List EventRow} {feedMove : Option FeedMoveWrite} :
    Steps Fewer (ingestTransaction env removalUuid c eventRows feedMove) := by
  have hevents : ∀ rows, Steps Fewer (insertEvents env.signer rows) := fun rows d =>
    have hlogs : Logs [.events] (rows.map EventRow.eventType) d (insertEvents env.signer rows d).2 :=
      insertEvents_logs List.mem_cons_self (fun _ hrow => List.mem_map_of_mem hrow) d
    .of_logs (by decide) hlogs
  apply Steps.transaction
  apply (Fewer.of_writes writeFeed_writes (by decide) (by decide)).bind
  intro _
  apply (Fewer.of_writes replaceFeedSets_writes (by decide) (by decide)).bind
  intro _
  apply Steps.read_then
  intro staleGuids
  apply (Fewer.of_writes (Writes.forEach fun _ => writeTrack_writes) (by decide)
    (by decide)).bind
  intro _
  apply (Fewer.of_writes (Writes.forEach fun _ => removeStaleTrack_writes) (by decide)
    (by decide)).bind
  intro _
  apply (hevents _).bind
  intro seqs
  apply (Fewer.of_writes syncSourceReadModelsForFeed_writes (by decide) (by decide)).bind
  intro _
  cases feedMove with
  | none => exact (Steps.pure ()).bind fun _ => .pure _
  | some mv =>
    exact (Fewer.of_writes writeFeedMove_writes (by decide) (by decide)).bind fun _ => .pure _

theorem createBlock_fewer {env : OperatorEnv} {kind : FeedBlockKind} {value reason : String} :
    Steps Fewer (createBlock env kind value reason) := by
  apply Steps.transaction
  apply Steps.read_then
  intro existing
  cases existing with
  | some _ => exact .pure _
  | none =>
    apply insertFeedBlock_fewer.bind
    intro _
    exact signEventRow_fewer.bind fun _ => .pure _

theorem removeBlock_fewer {env : OperatorEnv} {blockId : String} :
    Steps Fewer (removeBlock env blockId) := by
  have hdelete : Writes (S := schema) [Table.feedBlocks] (deleteFeedBlock blockId) :=
    Writes.delete (by decide)
  apply Steps.transaction
  apply Steps.read_then
  intro found
  refine Steps.ite ?_ (.pure _)
  apply (Fewer.of_writes hdelete (by decide) (by decide)).bind
  intro _
  exact signEventRow_fewer.bind fun _ => .pure _

theorem handleRemoveTrack_fewer {env : OperatorEnv} {guid trackGuid : String} :
    Steps Fewer (handleRemoveTrack env guid trackGuid) := by
  apply Steps.read_then
  intro track
  cases track with
  | none => exact .fail _
  | some _ =>
    refine Steps.bind (Steps.mapError (Steps.transaction ?_)) fun _ =>
      fanoutEvent_steps.bind fun _ => .pure _
    apply (Fewer.of_writes deleteTrackSql_writes (by decide) (by decide)).bind
    exact fun _ => signEventRow_fewer

theorem patchTrackRow_fewer {env : OperatorEnv} {feedGuid trackGuid newUrl : String} :
    Steps Fewer (patchTrackRow env feedGuid trackGuid newUrl) := by
  have htrack : ∀ {f : Track → Track} {p : Track → Bool},
      Writes (S := schema) [Table.tracks] (update (S := schema) .tracks p f) :=
    Writes.update (by decide)
  apply Steps.transaction
  apply (Fewer.of_writes htrack (by decide) (by decide)).mapError.bind
  intro _
  apply Steps.read_then
  intro updated
  cases updated with
  | none => exact .fail _
  | some track =>
    exact Steps.read_then fun routes => Steps.read_then fun splits => signEventRow_fewer.mapError

theorem recordUrls_fewer {signer : NodeSigner} {feedGuid : String} {now : Int}
    {urls : List (String × String)} : Steps Fewer (recordUrls signer feedGuid now urls) := by
  induction urls with
  | nil => exact .pure _
  | cons entry urls ih =>
    apply (Fewer.of_writes recordFeedUrlObservation_writes (by decide) (by decide)).bind
    intro observation
    cases observation with
    | none => exact ih
    | some observation => exact signEventRow_fewer.bind fun _ => ih.bind fun _ => .pure _

theorem seedBlocks_fewer {env : OperatorEnv} {entries : List (FeedBlockKind × String)} :
    Steps Fewer (seedBlocks env entries) := by
  have hentries : ∀ index, Steps Fewer (seedEntries env index entries) := by
    induction entries with
    | nil => exact fun _ => .pure _
    | cons entry entries ih =>
      intro index
      apply insertFeedBlock_fewer.bind
      intro changed
      refine Steps.ite ?_ (ih _)
      exact signEventRow_fewer.bind fun _ => (ih _).bind fun _ => .pure _
  exact (hentries 0).transaction

theorem keeps_of_fewer {ε α : Type} {x : Statement ε Db α} (h : Steps Fewer x) :
    Steps (Keeps CopiesKept) x := h.mono fun _ _ => Fewer.keeps

theorem handleIngestFeed_keepsCopies (env : IngestEnv) (snapshot : Db) (req : IngestFeedRequest)
    (d : Db) : Keeps CopiesKept d (handleIngestFeed env snapshot req d).2 := by
  have hurls : ∀ feedGuid now urls, Steps (Keeps CopiesKept)
      (transaction (recordUrls env.signer feedGuid now urls)) :=
    fun _ _ _ => keeps_of_fewer recordUrls_fewer.transaction
  have hcopy : ∀ eventId feedGuid url body now, Steps (Keeps CopiesKept)
      (recordFeedCopyForIngest env.signer eventId feedGuid url body now) :=
    fun _ _ _ _ _ => recordFeedCopyForIngest_keeps
  have hsame : ∀ {ts : List Table} {s t : Db}, Table.feedCopies ∉ ts → Table.events ∉ ts →
      SameOutside (S := schema) ts s t → Keeps CopiesKept s t := by
    intro ts s t hts hlog h
    refine Fewer.keeps ⟨?_, fun r hr => ?_⟩
    · rw [h .feedCopies hts]
    · rwa [h .events hlog]
  apply ingest_steps_each
  · intro _ _
    apply handleSourceGoneReport_steps (R := Keeps CopiesKept)
    · exact fun s t h => hsame (by decide) (by decide) h
    · exact fun _ _ => keeps_of_fewer deleteFeedWithEvent_fewer
  · exact handleNoChange_steps hurls hcopy d
  · exact fun body warnings sourceUrl _ _ => decideMirror_steps hurls hcopy d
  · exact fun _ _ _ _ _ _ => (deleteFeedWithEvent_fewer d).keeps
  · exact fun _ _ _ _ _ =>
      (Fewer.of_logs (by decide) (recordGuidChangeReturnForIngest_logs d)).keeps
  · exact fun _ _ _ _ _ =>
      (Fewer.of_logs (by decide) (recordGuidChangePendingForIngest_logs d)).keeps
  · intro body admission e hreach hheld hmove _ _
    apply admitContent_steps_parts
    · exact fun _ _ => (guidChangeTransition_fewer _).keeps
    · exact fun t _ _ => (ingestTransaction_fewer t).keeps
    · intro isMove
      apply writeDeclarations_steps (R := Keeps CopiesKept)
      · exact fun s t h => hsame (by decide) (by decide) h
      · intro p f _
        have hwrites : Writes (S := schema) [Table.feeds] (update (S := schema) .feeds p f) :=
          Writes.update (by decide)
        exact keeps_of_fewer (Fewer.of_writes hwrites (by decide) (by decide))
    · exact fun now urls => hurls _ _ _
    · intro now
      have hcache : Writes (S := schema) [Table.feedCrawlCache]
          (upsertFeedCrawlCache req.canonicalUrl req.contentHash now) := Writes.upsert (by decide)
      exact keeps_of_fewer (Fewer.of_writes hcache (by decide) (by decide))

theorem AdminRequest.keepsCopies {env : OperatorEnv} (request : AdminRequest) :
    Keeps CopiesKept d (request.handle env d).2 := by
  apply request.steps_parts
  · exact fun _ _ _ => keeps_of_fewer createBlock_fewer
  · exact fun _ => keeps_of_fewer removeBlock_fewer
  · exact fun _ _ _ _ _ _ _ _ h => signResolution_keeps h
  · exact fun guid trackGuid _ => (handleRemoveTrack_fewer d).keeps
  · exact fun _ _ _ _ => (patchTrackRow_fewer d).keeps
  · exact fun _ _ _ _ _ _ => (deleteFeedWithEvent_fewer d).keeps
  · intro guid newUrl reason eventId _ outcome e h
    exact (Fewer.of_logs (by decide) (relocateFeed_logs.run h)).keeps
  · intro guid
    exact (Fewer.of_writes releaseRetiredSourceHold_writes (by decide) (by decide) d).keeps
  · exact fun _ _ _ _ => (Fewer.of_logs (by decide) (decideGuidChangeRow_logs d)).keeps

theorem Operation.keepsCopies (operation : Operation) (d : Db) :
    Keeps CopiesKept d (operation.next d) := by
  cases operation with
  | ingest env snapshot req => exact handleIngestFeed_keepsCopies env snapshot req d
  | admin env tokenAccepted request =>
    exact (Steps.ite (fun d => request.keepsCopies) (.fail _) : Steps (Keeps CopiesKept) _) d
  | seedBlocks env entries => exact (seedBlocks_fewer d).keeps
  | fillRetiredSourceHolds =>
    apply fillRetiredSourceHolds_steps (R := Keeps CopiesKept)
    intro hold
    have hinsert : Writes (S := schema) [Table.retiredSourceHolds]
        (insertOrIgnore (S := schema) .retiredSourceHolds hold) := Writes.insertOrIgnore (by decide)
    exact keeps_of_fewer (Fewer.of_writes hinsert (by decide) (by decide))
  | peers write only => exact (Fewer.of_writes only (by decide) (by decide) d).keeps

/-- In every run each GUID has at most twenty copies, and a decision holds only for a copy that has
now the summary that a signed decision about it names. -/
theorem run_copies {ok : Db → Operation → Prop} {history : List RunStep}
    (hrun : PrimaryRun ok history d) :
    (∀ guid, countFeedCopies d guid ≤ maxCopiesPerGuid) ∧
      ∀ r ∈ d .feedCopies, copyResolutionHolds r = true →
        ∃ p, CopyResolved d p ∧ p.feedGuid = r.feedGuid ∧ p.url = r.url ∧
          r.resolution = some p.decision ∧ p.resolvedDigest = summaryDigest r.summary ∧
          ∀ digest, p.resolvedRemoteItemsDigest = some digest →
            remoteItemsDigest r.summary = some digest := by
  have hkept : CopiesKept d := hrun.keeps copiesKept_empty fun d operation _ =>
    operation.keepsCopies d
  refine ⟨hkept.few, fun r hr hholds => ?_⟩
  rw [copyResolutionHolds, Bool.and_eq_true] at hholds
  obtain ⟨digest, hdigest, hsame⟩ := (Option.any_eq_true _ _).mp hholds.1
  obtain ⟨hsummary, hremote⟩ := hkept.digested r hr
  obtain ⟨p, hp, hguid, hurl, hdecision, hresolved, hlist⟩ := hkept.decided r hr digest hdigest
  refine ⟨p, hp, hguid, hurl, hdecision, ?_, ?_⟩
  · rw [hresolved, beq_iff_eq.mp hsame, hsummary]
  · intro listDigest hnamed
    rw [hlist] at hnamed
    have hall := hholds.2
    rw [hnamed, Option.all_some, beq_iff_eq] at hall
    rw [← hremote, ← hall]

end

section Sample

attribute [local instance] copyPlatform

/-- The operator keeps the source. -/
def resolvingCopy : Operation :=
  .admin (copyRecording.operatorEnv 'v' 3) true (.resolveCopy "f1" otherUrl "keep_source" " ok ")

def resolvedDb : Db := resolvingCopy.next mirroredDb

theorem run_copies_resolvedDb :
    ∃ r ∈ resolvedDb .feedCopies, ∃ p, CopyResolved resolvedDb p ∧ p.url = r.url ∧
      p.resolvedDigest = summaryDigest (FeedCopyRow.summary r) := by
  have hholds : ∃ r ∈ resolvedDb .feedCopies, copyResolutionHolds r = true := by decide +kernel
  have hrun : PrimaryRun (fun _ _ => True) _ resolvedDb :=
    .step resolvingCopy (.step mirrorIngest (.step copiedIngest .empty trivial) trivial) trivial
  obtain ⟨r, hr, hholds⟩ := hholds
  obtain ⟨p, hp, -, hurl, -, hdigest, -⟩ := (run_copies hrun).2 r hr hholds
  exact ⟨r, hr, p, hp, hurl, hdigest⟩

end Sample

end Stophammer
