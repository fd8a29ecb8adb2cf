import Stophammer.Record

/-!
# Pending GUID changes

The row of a source URL that declares another GUID, and the events about it.  Four
statements write such a row: the observation, the return, the transition and the decision of
the operator.  All other operations leave the rows and write no event about them.
-/

namespace Stophammer

open Relational Statement

/-- The types of the events about pending changes. -/
def guidChangeTypes : List EventType := [.feedGuidChangeObserved, .feedGuidChangeDecided]

/-- The rows of the log about pending changes. -/
def guidRows (d : Db) : List StoredEvent :=
  (d .events).filter fun r : StoredEvent => decide (r.eventType ∈ guidChangeTypes)

/-- The pending changes are the same, and the log has no new event about them. -/
structure Quiet (d e : Db) : Prop where
  rows : e .feedGuidChanges = d .feedGuidChanges
  log : guidRows e = guidRows d

instance : IsPreorder Db Quiet where
  refl _ := ⟨rfl, rfl⟩
  trans _ _ _ hde hef := ⟨hef.rows.trans hde.rows, hef.log.trans hde.log⟩

namespace Quiet

variable {d e : Db}

theorem getGuidChange (h : Quiet d e) (url : String) :
    Stophammer.getGuidChange e url = Stophammer.getGuidChange d url := by
  rw [Stophammer.getGuidChange, h.rows]
  rfl

theorem of_sameOutside {ts : List Table} (h : SameOutside (S := schema) ts d e)
    (hrows : Table.feedGuidChanges ∉ ts) (hlog : Table.events ∉ ts) : Quiet d e :=
  ⟨h _ hrows, by rw [guidRows, guidRows, h _ hlog]⟩

theorem of_writes {ts : List Table} {α : Type} {x : Stmt α} (hx : Writes (S := schema) ts x)
    (hrows : Table.feedGuidChanges ∉ ts) (hlog : Table.events ∉ ts) : Steps Quiet x :=
  fun d => of_sameOutside (hx.sameOutside (List.Subset.refl _) d) hrows hlog

theorem of_logs {ts : List Table} {types : List EventType} (h : Logs ts types d e)
    (hrows : Table.feedGuidChanges ∉ ts) (hlog : ∀ τ ∈ types, τ ∉ guidChangeTypes) :
    Quiet d e := by
  obtain ⟨rows, hevents, htypes⟩ := h.appended
  refine ⟨h.frame _ hrows, ?_⟩
  have hnone : rows.filter (fun r : StoredEvent => decide (r.eventType ∈ guidChangeTypes)) = [] := by
    rw [List.filter_eq_nil_iff]
    intro r hr
    simpa using hlog _ (htypes r hr)
  rw [guidRows, hevents, List.filter_append, hnone, List.append_nil]
  rfl

end Quiet

/-- The row of the log carries the payload. -/
def Carries [Platform] (r : StoredEvent) (payload : EventPayload) : Prop :=
  r.eventType = payload.eventType ∧ r.payloadJson = Platform.encodePayload payload

/-- The change of one URL becomes `row`, and the log has the events of these payloads. -/
structure GuidStep [Platform] (d e : Db) (sourceUrl : String) (row : Option GuidChangeRow)
    (payloads : List EventPayload) : Prop where
  rows : ∀ url, getGuidChange e url = if url = sourceUrl then row else getGuidChange d url
  log : ∃ rows, guidRows e = guidRows d ++ rows ∧ List.Forall₂ Carries rows payloads

section

variable [Platform] {d e t : Db} {signer : NodeSigner}

theorem GuidStep.of_quiet {sourceUrl : String} {row : Option GuidChangeRow}
    {payloads : List EventPayload} (h : GuidStep d t sourceUrl row payloads) (hquiet : Quiet t e) :
    GuidStep d e sourceUrl row payloads where
  rows url := (hquiet.getGuidChange url).trans (h.rows url)
  log := by
    obtain ⟨rows, hlog, hcarries⟩ := h.log
    exact ⟨rows, hquiet.log.trans hlog, hcarries⟩

theorem GuidStep.sign {sourceUrl : String} {row : Option GuidChangeRow} {payload : EventPayload}
    {subjectGuid eventId : String} {createdAt : Int} {warnings : List String}
    {signed : SignedEventRow}
    (hrows : ∀ url, getGuidChange t url = if url = sourceUrl then row else getGuidChange d url)
    (hlog : guidRows t = guidRows d) (htype : payload.eventType ∈ guidChangeTypes)
    (hsign : signEventRow signer (eventDraft payload subjectGuid createdAt warnings eventId) t =
      (.ok signed, e)) :
    GuidStep d e sourceUrl row [payload] := by
  obtain ⟨_, t', hinsert, hpure⟩ := bind_ok hsign
  cases hpure
  rcases insertEvent_run signer (eventDraft payload subjectGuid createdAt warnings eventId) t with
    ⟨t', hrun, hcontents⟩ | ⟨err, hrun⟩
  · rw [hrun] at hinsert
    cases hinsert
    constructor
    · intro url
      rw [← hrows url, getGuidChange, hcontents, Contents.set_other (by decide)]
      rfl
    · refine ⟨[signedRow signer (eventDraft payload subjectGuid createdAt warnings eventId)
        (nextSeq t)], ?_, .cons ⟨rfl, rfl⟩ .nil⟩
      rw [guidRows, hcontents, Contents.set_same, List.filter_append, ← hlog]
      congr 1
      exact List.filter_cons_of_pos (decide_eq_true htype)
  · rw [hrun] at hinsert
    cases hinsert

/-- The row after an observation of `newGuid`. -/
def observedRow (row : Option GuidChangeRow) (sourceUrl oldGuid newGuid : String) (now : Int) :
    GuidChangeRow :=
  match row with
  | some r =>
    if r.newGuid == newGuid then { r with oldGuid := oldGuid, lastSeen := some now }
    else
      { r with
        oldGuid := oldGuid
        newGuid := newGuid
        firstSeen := now
        lastSeen := some now
        decision := none
        decisionReason := none
        decidedAt := none }
  | none =>
    { sourceUrl := sourceUrl
      oldGuid := oldGuid
      newGuid := newGuid
      firstSeen := now
      lastSeen := some now
      decision := none
      decisionReason := none
      decidedAt := none }

/-- The row after a decision of the operator. -/
def GuidChangeRow.decided (row : GuidChangeRow) (decision reason : String) (now : Int) :
    GuidChangeRow :=
  { row with decision := some decision, decisionReason := some reason, decidedAt := some now }

/-- An observation of another GUID than that of the row. -/
def isNewChange (row : Option GuidChangeRow) (newGuid : String) : Bool :=
  row.all fun r => r.newGuid != newGuid

/-- The operator rejected this new GUID. -/
def isRejected (row : Option GuidChangeRow) (newGuid : String) : Bool :=
  row.any fun r => r.newGuid == newGuid && r.decision == some "reject"

def observedPayload (sourceUrl oldGuid newGuid : String) (firstSeen : Int) : EventPayload :=
  .feedGuidChangeObserved
    { sourceUrl := sourceUrl, oldGuid := oldGuid, newGuid := newGuid, firstSeen := firstSeen }

omit [Platform] in
theorem upsertGuidChange_lookup {sourceUrl oldGuid newGuid : String} {firstSeen now : Int}
    (hupsert : upsertGuidChange sourceUrl oldGuid newGuid firstSeen d = (.ok (), t))
    (htouch : touchGuidChangeLastSeen sourceUrl now t = (.ok (), e))
    (hfirst : isNewChange (getGuidChange d sourceUrl) newGuid = true → firstSeen = now)
    (url : String) :
    getGuidChange e url =
      if url = sourceUrl then
        some (observedRow (getGuidChange d sourceUrl) sourceUrl oldGuid newGuid now)
      else getGuidChange d url := by
  have hrow : getGuidChange t url = _ := upsert_lookup (S := schema) (t := .feedGuidChanges)
    (fun r : GuidChangeRow => r.sourceUrl) hupsert rfl
    (fun r hr => by by_cases hguid : r.newGuid == newGuid <;> simp [hguid, hr]) url
  have hseen : getGuidChange e url = _ := update_lookup (S := schema) (t := .feedGuidChanges)
    (fun r : GuidChangeRow => r.sourceUrl) htouch (fun r hr => hr) url
  rw [hseen]
  change (if url = sourceUrl then (getGuidChange t url).map _ else getGuidChange t url) = _
  rw [hrow]
  by_cases hurl : url = sourceUrl
  · subst hurl
    rw [if_pos rfl, if_pos rfl, if_pos rfl]
    change Option.map _ (some (Option.getD (Option.map _ (getGuidChange d url)) _)) = _
    cases hold : getGuidChange d url with
    | none =>
      rw [hold] at hfirst
      cases hfirst rfl
      rfl
    | some r =>
      rw [hold] at hfirst
      by_cases hguid : (r.newGuid == newGuid) = true
      · simp only [observedRow, Option.map_some, Option.getD_some, if_pos hguid]
      · have hnow := hfirst (by simpa [isNewChange, bne] using hguid)
        simp only [observedRow, Option.map_some, Option.getD_some, if_neg hguid, hnow]
  · rw [if_neg hurl, if_neg hurl, if_neg hurl]
    rfl

omit [Platform] in
theorem deleteGuidChange_lookup {sourceUrl : String} (h : deleteGuidChange sourceUrl d = (.ok (), e))
    (url : String) :
    getGuidChange e url = if url = sourceUrl then none else getGuidChange d url :=
  delete_lookup (S := schema) (t := .feedGuidChanges) (fun r : GuidChangeRow => r.sourceUrl) h url

omit [Platform] in
theorem deleteGuidChange_sameOutside {sourceUrl : String} {a : Unit}
    (h : deleteGuidChange sourceUrl d = (.ok a, e)) :
    SameOutside (S := schema) [Table.feedGuidChanges] d e :=
  sameOutside_of_run (Writes.delete (by decide)) h

omit [Platform] in
theorem observedPayload_type {sourceUrl oldGuid newGuid : String} {firstSeen : Int} :
    (observedPayload sourceUrl oldGuid newGuid firstSeen).eventType ∈ guidChangeTypes :=
  List.mem_cons_self

theorem writePendingGuidChange_guidStep {eventId sourceUrl oldGuid newGuid : String}
    {firstSeen now : Int} {isNew : Bool}
    (hnew : isNewChange (getGuidChange d sourceUrl) newGuid = isNew)
    (hfirst : isNew = true → firstSeen = now) :
    (writePendingGuidChange signer eventId sourceUrl oldGuid newGuid firstSeen now isNew d).2 = d ∨
      GuidStep d
        (writePendingGuidChange signer eventId sourceUrl oldGuid newGuid firstSeen now isNew d).2
        sourceUrl (some (observedRow (getGuidChange d sourceUrl) sourceUrl oldGuid newGuid now))
        (if isNew then [observedPayload sourceUrl oldGuid newGuid now] else []) := by
  rcases hrun : writePendingGuidChange signer eventId sourceUrl oldGuid newGuid firstSeen now isNew d
    with ⟨err | signedRows, e⟩
  · exact .inl (transaction_error hrun)
  obtain ⟨_, t, hupsert, h⟩ := bind_ok (transaction_ok.mp hrun)
  obtain ⟨_, u, htouch, h⟩ := bind_ok h
  have hrows := upsertGuidChange_lookup hupsert htouch fun h => hfirst (hnew.symm.trans h)
  have hwrites : SameOutside (S := schema) [Table.feedGuidChanges] d u :=
    trans_of (SameOutside (S := schema) [Table.feedGuidChanges])
      (sameOutside_of_run (Writes.upsert (by decide)) hupsert)
      (sameOutside_of_run (Writes.update (by decide)) htouch)
  have hlog : guidRows u = guidRows d := by
    rw [guidRows, guidRows, hwrites _ (by decide)]
  cases isNew with
  | true =>
    obtain ⟨signed, v, hsign, hpure⟩ := bind_ok h
    cases hpure
    cases hfirst rfl
    exact .inr (GuidStep.sign hrows hlog observedPayload_type hsign)
  | false =>
    cases h
    exact .inr ⟨hrows, [], by rw [hlog]; exact (List.append_nil _).symm, .nil⟩

variable (d signer) in
theorem recordGuidChangePendingForIngest_guidStep (eventId sourceUrl oldGuid newGuid : String)
    (now : Int) :
    (recordGuidChangePendingForIngest signer eventId sourceUrl oldGuid newGuid now d).2 = d ∨
      isRejected (getGuidChange d sourceUrl) newGuid = false ∧
        GuidStep d (recordGuidChangePendingForIngest signer eventId sourceUrl oldGuid newGuid now d).2
          sourceUrl (some (observedRow (getGuidChange d sourceUrl) sourceUrl oldGuid newGuid now))
          (if isNewChange (getGuidChange d sourceUrl) newGuid then
            [observedPayload sourceUrl oldGuid newGuid now] else []) := by
  unfold recordGuidChangePendingForIngest
  rw [read_bind_run]
  split
  · exact .inl rfl
  · rename_i hopen
    rw [bind_pure_state]
    refine (writePendingGuidChange_guidStep rfl fun hnew => if_pos hnew).imp_right fun hstep => ?_
    exact ⟨Bool.not_eq_true _ ▸ hopen, hstep⟩

theorem recordGuidChangeReturnForIngest_ok {eventId sourceUrl guid : String} {now : Int}
    {row : GuidChangeRow} {signedRows : List SignedEventRow}
    (hrow : getGuidChange d sourceUrl = some row)
    (hrun : recordGuidChangeReturnForIngest signer eventId sourceUrl guid now d =
      (.ok signedRows, e)) :
    GuidStep d e sourceUrl none [observedPayload sourceUrl guid guid now] := by
  unfold recordGuidChangeReturnForIngest at hrun
  rw [read_bind_run, hrow] at hrun
  obtain ⟨_, t, hdelete, h⟩ := bind_ok (transaction_ok.mp hrun)
  obtain ⟨signed, u, hsign, hpure⟩ := bind_ok h
  cases hpure
  refine GuidStep.sign (deleteGuidChange_lookup hdelete) ?_ observedPayload_type hsign
  rw [guidRows, guidRows, deleteGuidChange_sameOutside hdelete .events (by decide)]

omit [Platform] in
theorem signEventRow_fresh (signer : NodeSigner) (row : EventRow) {p : Db}
    (hfresh : hasEvent p row.eventId = false) :
    ∃ signed p', signEventRow signer row p = (.ok signed, p') := by
  obtain ⟨p', hinsert, -⟩ := insertEvent_fresh signer hfresh
  exact ⟨_, p', bind_run_ok hinsert⟩

theorem recordGuidChangeReturnForIngest_run (signer : NodeSigner) {eventId sourceUrl : String}
    (guid : String) (now : Int) (hrow : (getGuidChange d sourceUrl).isSome = true) (hfresh : hasEvent d eventId = false) :
    ∃ signedRows e, recordGuidChangeReturnForIngest signer eventId sourceUrl guid now d =
        (.ok signedRows, e) ∧
      GuidStep d e sourceUrl none [observedPayload sourceUrl guid guid now] := by
  obtain ⟨row, hrow⟩ := Option.isSome_iff_exists.mp hrow
  have hends : Ends (deleteGuidChange sourceUrl) := ends_delete (by decide)
  obtain ⟨_, t, hdelete⟩ := hends d
  have hlog : t .events = d .events := deleteGuidChange_sameOutside hdelete .events (by decide)
  obtain ⟨signed, u, hsign⟩ := signEventRow_fresh signer
    (guidChangeObservedEventRow sourceUrl guid guid now now eventId)
    (show hasEvent t eventId = false by rw [hasEvent, hlog]; exact hfresh)
  have hrun : recordGuidChangeReturnForIngest signer eventId sourceUrl guid now d =
      (.ok [signed], u) := by
    unfold recordGuidChangeReturnForIngest
    rw [read_bind_run, hrow]
    apply transaction_ok.mpr
    rw [bind_run_ok hdelete, bind_run_ok hsign]
    rfl
  exact ⟨[signed], u, hrun, recordGuidChangeReturnForIngest_ok hrow hrun⟩

variable (d signer) in
theorem recordGuidChangeReturnForIngest_guidStep (eventId sourceUrl guid : String) (now : Int) :
    (recordGuidChangeReturnForIngest signer eventId sourceUrl guid now d).2 = d ∨
      (getGuidChange d sourceUrl).isSome = true ∧
        GuidStep d (recordGuidChangeReturnForIngest signer eventId sourceUrl guid now d).2
          sourceUrl none [observedPayload sourceUrl guid guid now] := by
  rcases hrun : recordGuidChangeReturnForIngest signer eventId sourceUrl guid now d with
    ⟨err | signedRows, e⟩
  · left
    unfold recordGuidChangeReturnForIngest at hrun
    rw [read_bind_run] at hrun
    cases hrow : getGuidChange d sourceUrl with
    | none =>
      rw [hrow] at hrun
      cases hrun
    | some row =>
      rw [hrow] at hrun
      exact transaction_error hrun
  · cases hrow : getGuidChange d sourceUrl with
    | none =>
      unfold recordGuidChangeReturnForIngest at hrun
      rw [read_bind_run, hrow] at hrun
      cases hrun
      exact .inl rfl
    | some row => exact .inr ⟨rfl, recordGuidChangeReturnForIngest_ok hrow hrun⟩

omit [Platform] in
theorem signEventRow_quiet {row : EventRow} (htype : row.eventType ∉ guidChangeTypes) :
    Steps Quiet (signEventRow signer row) := by
  have hlogs : Steps (Logs [Table.events] [row.eventType]) (signEventRow signer row) :=
    signEventRow_logs (by decide) List.mem_cons_self
  exact hlogs.mono fun _ _ h => Quiet.of_logs h (by decide) (by simpa using htype)

variable (d signer) in
theorem guidChangeTransition_guidStep (uuid : Nat → String) (oldGuid newGuid sourceUrl : String)
    (now : Int) :
    Quiet d (guidChangeTransition signer uuid oldGuid newGuid sourceUrl now d).2 ∨
      GuidStep d (guidChangeTransition signer uuid oldGuid newGuid sourceUrl now d).2 sourceUrl none
        [observedPayload sourceUrl oldGuid oldGuid now] := by
  rcases hrun : guidChangeTransition signer uuid oldGuid newGuid sourceUrl now d with
    ⟨err | signedRows, e⟩
  · left
    rw [transaction_error hrun]
    exact refl_of Quiet d
  obtain ⟨_, d₁, hdelete, h⟩ := bind_ok (transaction_ok.mp hrun)
  obtain ⟨retired, d₂, hretired, h⟩ := bind_ok h
  obtain ⟨_, d₃, hinsert, h⟩ := bind_ok h
  obtain ⟨superseded, d₄, hsuperseded, h⟩ := bind_ok h
  have hsupersede : Writes (S := schema) [Table.feedGuidSupersessions]
      (insertGuidSupersession oldGuid newGuid sourceUrl now) :=
    (Writes.insertOrIgnore (by decide)).bind fun _ => Writes.pure ()
  have hquiet : Quiet d d₄ := by
    apply trans_of Quiet ((Quiet.of_writes deleteFeedSql_writes (by decide) (by decide)).run hdelete)
    apply trans_of Quiet ((signEventRow_quiet
      (show EventType.feedRetired ∉ guidChangeTypes by decide)).run hretired)
    apply trans_of Quiet ((Quiet.of_writes hsupersede (by decide) (by decide)).run hinsert)
    exact (signEventRow_quiet
      (show EventType.feedGuidSuperseded ∉ guidChangeTypes by decide)).run hsuperseded
  rw [read_bind_run] at h
  cases hrow : getGuidChange d₄ sourceUrl with
  | none =>
    rw [hrow] at h
    cases h
    exact .inl hquiet
  | some row =>
    rw [hrow] at h
    obtain ⟨_, d₅, hgone, h⟩ := bind_ok h
    obtain ⟨marker, d₆, hmarker, hpure⟩ := bind_ok h
    cases hpure
    right
    refine GuidStep.sign (t := d₅) (fun url => ?_) ?_ observedPayload_type hmarker
    · rw [deleteGuidChange_lookup hgone, hquiet.getGuidChange]
    · rw [← hquiet.log, guidRows, guidRows,
        deleteGuidChange_sameOutside hgone .events (by decide)]

theorem getGuidChangeForOldGuid_row {guid : String} {row : GuidChangeRow}
    (h : getGuidChangeForOldGuid d guid = some row) : getGuidChange d row.sourceUrl = some row := by
  have hmem : row ∈ d .feedGuidChanges := by
    have hhead := List.mem_of_head? h
    rw [(orderBy_perm _ _).mem_iff] at hhead
    exact List.mem_of_mem_filter hhead
  cases hfound : getGuidChange d row.sourceUrl with
  | none =>
    have hnone := List.find?_eq_none.mp hfound row hmem
    simp at hnone
  | some row' =>
    have hurl : row'.sourceUrl = row.sourceUrl := by simpa using List.find?_some hfound
    rw [Database.eq_of_shared_key (S := schema) d (t := .feedGuidChanges)
      (List.mem_of_find?_eq_some hfound) hmem (k := .guidChange row.sourceUrl)
      (by simp [Table.keys, hurl]) (by simp [Table.keys])]

def decidedPayload (row : GuidChangeRow) (decision reason : String) (now : Int) : EventPayload :=
  .feedGuidChangeDecided
    { sourceUrl := row.sourceUrl
      oldGuid := row.oldGuid
      newGuid := row.newGuid
      decision := decision
      reason := reason
      decidedAt := now }

theorem decideGuidChangeRow_ok {env : OperatorEnv} {guid decision reason : String}
    {row : GuidChangeRow} {signed : Option SignedEventRow}
    (hfound : getGuidChangeForOldGuid d guid = some row)
    (hrun : decideGuidChangeRow env guid decision reason d = (.ok signed, e)) :
    GuidStep d e row.sourceUrl (some (row.decided decision reason env.now))
      [decidedPayload row decision reason env.now] := by
  have h := transaction_ok.mp hrun
  rw [read_bind_run, hfound] at h
  obtain ⟨_, t, hset, h⟩ := bind_ok h
  obtain ⟨signed', u, hsign, hpure⟩ := bind_ok h
  cases hpure
  refine GuidStep.sign (t := t) (fun url => ?_) ?_ ?_ hsign
  · have hrow : getGuidChange t url = _ := update_lookup (S := schema) (t := .feedGuidChanges)
      (fun r : GuidChangeRow => r.sourceUrl) hset (fun r hr => hr) url
    rw [hrow]
    by_cases hurl : url = row.sourceUrl
    · rw [if_pos hurl, if_pos hurl, hurl]
      change (getGuidChange d row.sourceUrl).map _ = _
      rw [getGuidChangeForOldGuid_row hfound]
      rfl
    · rw [if_neg hurl, if_neg hurl]
      rfl
  · have hwrites : SameOutside (S := schema) [Table.feedGuidChanges] d t :=
      sameOutside_of_run (Writes.update (by decide)) hset
    rw [guidRows, guidRows, hwrites _ (by decide)]
  · simp [guidChangeTypes, decidedPayload, EventPayload.eventType]

variable (d) in
theorem decideGuidChangeRow_guidStep (env : OperatorEnv) (guid decision reason : String) :
    (decideGuidChangeRow env guid decision reason d).2 = d ∨
      ∃ row, getGuidChangeForOldGuid d guid = some row ∧
        GuidStep d (decideGuidChangeRow env guid decision reason d).2 row.sourceUrl
          (some (row.decided decision reason env.now))
          [decidedPayload row decision reason env.now] := by
  rcases hrun : decideGuidChangeRow env guid decision reason d with ⟨err | signed, e⟩
  · exact .inl (transaction_error hrun)
  · cases hfound : getGuidChangeForOldGuid d guid with
    | none =>
      have h := transaction_ok.mp hrun
      rw [read_bind_run, hfound] at h
      cases h
      exact .inl rfl
    | some row => exact .inr ⟨row, rfl, decideGuidChangeRow_ok hfound hrun⟩

theorem admitContent_pending {R : Db → Db → Prop} [IsPreorder Db R] {env : IngestEnv}
    {req : IngestFeedRequest} {body : IngestFeedData} {admission : Admission}
    (hquiet : ∀ s t, Quiet s t → R s t)
    (htransition : ∀ heldGuid, admission.pendingGuidTransition = some heldGuid →
      R d (guidChangeTransition env.signer (env.uuid .guidTransition) heldGuid body.feedGuid
        req.sourceUrl (env.now .content) d).2) :
    R d (admitContent env req body admission d).2 := by
  apply admitContent_steps htransition
  · intro eventRows htypes
    exact (ingestTransaction_logs htypes).mono fun s t h =>
      hquiet s t (Quiet.of_logs h (by decide) (by decide))
  · exact fun isMove => writeDeclarations_sameOutside.mono fun s t h =>
      hquiet s t (Quiet.of_sameOutside h (by decide) (by decide))
  · exact fun s t h => hquiet s t (Quiet.of_logs h.logs (by decide) (by decide))

theorem Operation.pending_steps {R : Db → Db → Prop} [IsPreorder Db R] (operation : Operation)
    (hquiet : ∀ s t, Quiet s t → R s t)
    (hreturn : ∀ env snapshot req body, operation = .ingest env snapshot req →
      Verified env snapshot req body →
        classifySubmission d body.feedGuid req.sourceUrl req.canonicalUrl = .update →
          isStale body d = false → sourceBlocksThisIndex body.blocks = false →
            R d (recordGuidChangeReturnForIngest env.signer (env.uuid .guidReturn 0) req.sourceUrl
              body.feedGuid (env.now .guidReturn) d).2)
    (hpending : ∀ env snapshot req body heldGuid, operation = .ingest env snapshot req →
      Verified env snapshot req body →
        classifySubmission d body.feedGuid req.sourceUrl req.canonicalUrl = .guidChange heldGuid →
          transitionAllowed req body d = false →
            R d (recordGuidChangePendingForIngest env.signer (env.uuid .guidPending 0) req.sourceUrl
              heldGuid body.feedGuid (env.now .guidPending) d).2)
    (htransition : ∀ env snapshot req body heldGuid, operation = .ingest env snapshot req →
      ReachesContent env snapshot d req body →
        classifySubmission d body.feedGuid req.sourceUrl req.canonicalUrl = .guidChange heldGuid →
          R d (guidChangeTransition env.signer (env.uuid .guidTransition) heldGuid body.feedGuid
            req.sourceUrl (env.now .content) d).2)
    (hdecide : ∀ env guid decision reason,
      operation = .admin env true (.decideGuidChange guid decision reason) →
        R d (decideGuidChangeRow env guid decision (trim reason) d).2) :
    R d (operation.next d) := by
  cases operation with
  | ingest env snapshot req =>
    apply ingest_steps
    · intro _ _
      exact hquiet _ _ (Quiet.of_logs (handleSourceGoneReport_logs d) (by decide) (by decide))
    · exact fun s t h => hquiet s t (Quiet.of_logs h.logs (by decide) (by decide))
    · intro body warnings _ _ _ _
      have hretire : Steps (Logs retireTables [.feedRetired, .feedBlocked])
          (sourceBlockRetire env body warnings) := by
        apply deleteFeedWithEvent_logs
        · decide
        · exact List.mem_cons_self
      exact hquiet _ _ (Quiet.of_logs (hretire d) (by decide) (by decide))
    · exact fun body hverified => hreturn env snapshot req body rfl hverified
    · exact fun body heldGuid hverified => hpending env snapshot req body heldGuid rfl hverified
    · intro body admission e hreach hheld hmove _ hsame
      apply admitContent_pending hquiet
      intro heldGuid hsome
      have hclass := SubmissionClass.held_eq_some.mp (hheld ▸ hsome)
      rw [hsame heldGuid hclass]
      exact htransition env snapshot req body heldGuid rfl hreach hclass
  | admin env tokenAccepted request =>
    cases tokenAccepted with
    | false => exact refl_of R d
    | true =>
      apply AdminRequest.steps
      · exact fun s t h => hquiet s t (Quiet.of_logs h (by decide) (by decide))
      · rintro guid block row blocks rfl htype
        have hretire : Logs retireTables [.feedRetired, .feedBlocked] d
            (deleteFeedWithEvent env.signer guid row blocks d).2 :=
          deleteFeedWithEvent_logs (by decide) (by simp [htype]) d
        exact hquiet _ _ (Quiet.of_logs hretire (by decide) (by decide))
      · intro guid newUrl reason eventId _
        exact hquiet _ _ (Quiet.of_logs (relocateFeed_logs d) (by decide) (by decide))
      · intro guid
        exact hquiet _ _
          (Quiet.of_writes releaseRetiredSourceHold_writes (by decide) (by decide) d)
      · rintro guid decision reason rfl
        exact hdecide env guid decision reason rfl
  | seedBlocks env entries =>
    exact hquiet _ _ (Quiet.of_logs (seedBlocks_logs d) (by decide) (by decide))
  | fillRetiredSourceHolds =>
    have hfill : Steps Quiet Stophammer.fillRetiredSourceHolds := by
      apply fillRetiredSourceHolds_steps
      intro hold
      have hinsert : Writes (S := schema) [Table.retiredSourceHolds]
          (insertOrIgnore (S := schema) .retiredSourceHolds hold) :=
        Writes.insertOrIgnore (by decide)
      exact Quiet.of_writes hinsert (by decide) (by decide)
    exact hquiet _ _ (hfill d)
  | peers write only => exact hquiet _ _ (Quiet.of_writes only (by decide) (by decide) d)

end

end Stophammer
