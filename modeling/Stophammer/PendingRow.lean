import Stophammer.GuidChange
import Stophammer.PendingChanges

/-!
# The pending row of a source URL

What an operation makes of the row of one URL.  A source that serves its own GUID again
takes the row away, when its submission comes as far as the classification and names the
stored URL.
-/

namespace Stophammer

open Relational Statement

section

variable [Platform] {d : Db} {url : String}

/-- What an operation makes of the pending row of a URL. -/
inductive RowChange (d : Db) (url : String) : Operation → Option GuidChangeRow → Prop
  | same (operation : Operation) : RowChange d url operation (getGuidChange d url)
  | observed {env : IngestEnv} {snapshot : Db} {req : IngestFeedRequest} {body : IngestFeedData}
      {heldGuid : String} (verified : Verified env snapshot req body)
      (held : classifySubmission d body.feedGuid req.sourceUrl req.canonicalUrl =
        .guidChange heldGuid)
      (waits : transitionAllowed req body d = false) (source : req.sourceUrl = url)
      (unrejected : isRejected (getGuidChange d url) body.feedGuid = false) :
      RowChange d url (.ingest env snapshot req)
        (some (observedRow (getGuidChange d url) url heldGuid body.feedGuid
          (env.now .guidPending)))
  | returned {env : IngestEnv} {snapshot : Db} {req : IngestFeedRequest} {body : IngestFeedData}
      (verified : Verified env snapshot req body)
      (update : classifySubmission d body.feedGuid req.sourceUrl req.canonicalUrl = .update)
      (current : isStale body d = false) (listed : sourceBlocksThisIndex body.blocks = false)
      (source : req.sourceUrl = url) : RowChange d url (.ingest env snapshot req) none
  | superseded {env : IngestEnv} {snapshot : Db} {req : IngestFeedRequest} {body : IngestFeedData}
      {heldGuid : String} (reaches : ReachesContent env snapshot d req body)
      (held : classifySubmission d body.feedGuid req.sourceUrl req.canonicalUrl =
        .guidChange heldGuid)
      (source : req.sourceUrl = url) : RowChange d url (.ingest env snapshot req) none
  | decided {env : OperatorEnv} {guid decision reason : String} {row : GuidChangeRow}
      (found : getGuidChangeForOldGuid d guid = some row) (source : row.sourceUrl = url) :
      RowChange d url (.admin env true (.decideGuidChange guid decision reason))
        (some (row.decided decision (trim reason) env.now))

theorem endsIn_guidStep {C : Option GuidChangeRow → Prop} {e : Db} {sourceUrl : String}
    {row : Option GuidChangeRow} {payloads : List EventPayload}
    (h : GuidStep d e sourceUrl row payloads) (hrow : url = sourceUrl → C row) :
    EndsIn (getGuidChange · url) C d e := by
  by_cases hurl : url = sourceUrl
  · right
    change C (getGuidChange e url)
    rw [h.rows, if_pos hurl]
    exact hrow hurl
  · left
    change getGuidChange e url = _
    rw [h.rows, if_neg hurl]

theorem Operation.rowChange (operation : Operation) (d : Db) (url : String) :
    RowChange d url operation (getGuidChange (operation.next d) url) := by
  have hends : EndsIn (getGuidChange · url) (RowChange d url operation) d (operation.next d) := by
    apply operation.pending_steps (R := EndsIn (getGuidChange · url) (RowChange d url operation))
    · exact fun s t h => .inl (h.getGuidChange url)
    · rintro env snapshot req body rfl hverified hclass hstale hblocks
      rcases recordGuidChangeReturnForIngest_guidStep d env.signer (env.uuid .guidReturn 0)
        req.sourceUrl body.feedGuid (env.now .guidReturn) with hsame | ⟨-, hstep⟩
      · exact .inl (congrArg (getGuidChange · url) hsame)
      · apply endsIn_guidStep hstep
        rintro rfl
        exact .returned hverified hclass hstale hblocks rfl
    · rintro env snapshot req body heldGuid rfl hverified hclass hwaits
      rcases recordGuidChangePendingForIngest_guidStep d env.signer (env.uuid .guidPending 0)
        req.sourceUrl heldGuid body.feedGuid (env.now .guidPending) with hsame | ⟨hopen, hstep⟩
      · exact .inl (congrArg (getGuidChange · url) hsame)
      · apply endsIn_guidStep hstep
        rintro rfl
        exact .observed hverified hclass hwaits rfl hopen
    · rintro env snapshot req body heldGuid rfl hreach hclass
      rcases guidChangeTransition_guidStep d env.signer (env.uuid .guidTransition) heldGuid
        body.feedGuid req.sourceUrl (env.now .content) with hquiet | hstep
      · exact .inl (hquiet.getGuidChange url)
      · apply endsIn_guidStep hstep
        rintro rfl
        exact .superseded hreach hclass rfl
    · rintro env guid decision reason rfl
      rcases decideGuidChangeRow_guidStep d env guid decision (trim reason) with
        hsame | ⟨row, hfound, hstep⟩
      · exact .inl (congrArg (getGuidChange · url) hsame)
      · apply endsIn_guidStep hstep
        rintro rfl
        exact .decided hfound rfl
  rcases hends with (hsame : getGuidChange (operation.next d) url = _) | hchange
  · rw [hsame]
    exact .same operation
  · exact hchange

/-- A submission of the GUID of a record in the update case, with the stored URL. -/
structure UpdateSubmission (env : IngestEnv) (snapshot d : Db) (req : IngestFeedRequest)
    (body : IngestFeedData) (stored : String) : Prop where
  authentic : env.chain.authenticate req = none
  passes : ∀ reason, readPhase env snapshot req ≠ .rejected reason
  carries : req.feedData = some body
  update : classifySubmission d body.feedGuid req.sourceUrl req.canonicalUrl = .update
  source : (getFeedByGuid d body.feedGuid).map Feed.feedUrl = some stored

/-- No row of the URL is left, and the row that was there has its delete marker in the log. -/
structure Withdrawn (d e : Db) (url guid : String) (now : Int) : Prop where
  gone : getGuidChange e url = none
  marked : (getGuidChange d url).isSome = true →
    ∃ r, guidRows e = guidRows d ++ [r] ∧ Carries r (observedPayload url guid guid now)

/-- The submission comes as far as the return of the GUID, from the URL of the record. -/
structure ReachesReturn (env : IngestEnv) (snapshot d : Db) (req : IngestFeedRequest)
    (body : IngestFeedData) (stored : String) : Prop where
  verified : ∃ warnings, readPhase env snapshot req = .verified warnings
  current : isStale body d = false
  listed : sourceBlocksThisIndex body.blocks = false
  source : req.sourceUrl = stored

def Operation.TakesNewIds (d : Db) : Operation → Prop
  | .ingest env _ _ => FreshIds env d
  | _ => True

section Return

variable {env : IngestEnv} {snapshot : Db} {req : IngestFeedRequest} {body : IngestFeedData}
  {stored : String}

theorem UpdateSubmission.next (h : UpdateSubmission env snapshot d req body stored)
    {warnings : List String} (hphase : readPhase env snapshot req = .verified warnings) :
    handleIngestFeed env snapshot req d =
      ((decideUpdate env req body warnings >>= fun decision =>
        match decision with
        | .answer output => pure output
        | .admitted admission => admitContent env req body admission) : Handler IngestOutput) d := by
  have hgone : isGoneReport req = false := by simp [isGoneReport, h.carries]
  unfold handleIngestFeed writePhase decideCase
  simp only [h.authentic, hgone, hphase, h.carries, Bool.false_eq_true, if_false]
  rw [bind_run, read_bind_run, h.update]
  rfl

theorem decideUpdate_return (warnings : List String) {signedRows : List SignedEventRow} {e : Db}
    (hstale : isStale body d = false) (hblocks : sourceBlocksThisIndex body.blocks = false)
    (hreturn : recordGuidChangeReturnForIngest env.signer (env.uuid .guidReturn 0) req.sourceUrl
      body.feedGuid (env.now .guidReturn) d = (.ok signedRows, e)) :
    ∃ admission, decideUpdate env req body warnings d = (.ok (.admitted admission), e) ∧
      admission.pendingGuidTransition = none := by
  have hstep : dbStep (recordGuidChangeReturnForIngest env.signer (env.uuid .guidReturn 0)
      req.sourceUrl body.feedGuid (env.now .guidReturn)) d = (.ok signedRows, e) :=
    mapError_ok.mpr hreturn
  unfold decideUpdate
  rw [read_bind_run, if_neg (by simp [hstale]), if_neg (by simp [hblocks]), bind_run_ok hstep,
    read_bind_run]
  cases moveTarget e body.feedGuid req.sourceUrl req.canonicalUrl req.redirects body
      (env.now .writeMove) with
  | noTrigger => exact ⟨_, rfl, rfl⟩
  | move target => exact ⟨_, rfl, rfl⟩
  | refused targetUrl => exact ⟨_, rfl, rfl⟩
  | waitingRedirect targetUrl => exact ⟨_, rfl, rfl⟩

theorem UpdateSubmission.withdraws (h : UpdateSubmission env snapshot d req body stored)
    (hids : FreshIds env d) (hreach : ReachesReturn env snapshot d req body stored)
    (hrow : (getGuidChange d stored).isSome = true) :
    Withdrawn d (handleIngestFeed env snapshot req d).2 stored body.feedGuid
      (env.now .guidReturn) := by
  obtain ⟨⟨warnings, hphase⟩, hstale, hblocks, rfl⟩ := hreach
  obtain ⟨signedRows, e, hreturn, hstep⟩ := recordGuidChangeReturnForIngest_run
    env.signer body.feedGuid (env.now .guidReturn) hrow (hids.fresh .guidReturn 0)
  obtain ⟨admission, hdecide, hnone⟩ := decideUpdate_return warnings hstale hblocks hreturn
  have hquiet : Quiet e (admitContent env req body admission e).2 := by
    apply admitContent_pending (fun _ _ => id)
    intro heldGuid hheld
    rw [hnone] at hheld
    cases hheld
  have hstep := hstep.of_quiet hquiet
  rw [h.next hphase, bind_run_ok hdecide]
  refine ⟨(hstep.rows _).trans (if_pos rfl), fun _ => ?_⟩
  obtain ⟨rows, hlog, hcarries⟩ := hstep.log
  cases hcarries with
  | cons hr hnil =>
    cases hnil
    exact ⟨_, hlog, hr⟩

/-- A submission in the update case that finds a row takes it away exactly when it reaches the
return. -/
theorem UpdateSubmission.reaches (h : UpdateSubmission env snapshot d req body stored)
    (hrow : (getGuidChange d stored).isSome = true)
    (hgone : getGuidChange (handleIngestFeed env snapshot req d).2 stored = none) :
    ReachesReturn env snapshot d req body stored := by
  have hchange : RowChange d stored (.ingest env snapshot req) none :=
    hgone ▸ Operation.rowChange (.ingest env snapshot req) d stored
  generalize hnone : (none : Option GuidChangeRow) = row at hchange
  cases hchange with
  | same =>
    rw [← hnone] at hrow
    cases hrow
  | observed => cases hnone
  | @returned _ _ _ body' hverified hupdate hstale hblocks hsource =>
    cases h.carries.symm.trans hverified.carries
    exact ⟨hverified.verified, hstale, hblocks, hsource⟩
  | @superseded _ _ _ body' heldGuid hreach hheld hsource =>
    cases h.carries.symm.trans hreach.carries
    rw [h.update] at hheld
    cases hheld

/-- After every run: a submission in the update case leaves no row for the URL of the record,
with the marker of the row that it took away, if and only if there was no row or it reaches the
return of the GUID. -/
theorem run_withdrawn_iff {history : List RunStep}
    (hrun : PrimaryRun Operation.TakesNewIds history d) :
    ∀ s ∈ history, ∀ env snapshot req body stored, s.operation = .ingest env snapshot req →
      UpdateSubmission env snapshot s.before req body stored →
        (Withdrawn s.before (s.operation.next s.before) stored body.feedGuid
            (env.now .guidReturn) ↔
          getGuidChange s.before stored = none ∨
            ReachesReturn env snapshot s.before req body stored) := by
  intro s hs env snapshot req body stored hop h
  have hids : FreshIds env s.before := by
    have hok := (hrun.before hs).1
    rw [hop] at hok
    exact hok
  rw [hop]
  cases hrow : getGuidChange s.before stored with
  | none =>
    refine iff_of_true ⟨?_, fun hsome => ?_⟩ (.inl rfl)
    · by_contra hne
      have hchange := Operation.rowChange (.ingest env snapshot req) s.before stored
      generalize getGuidChange (Operation.next (.ingest env snapshot req) s.before) stored = row
        at hne hchange
      cases hchange with
      | same => exact hne hrow
      | @observed _ _ _ body' heldGuid hverified hheld =>
        cases h.carries.symm.trans hverified.carries
        rw [h.update] at hheld
        cases hheld
      | returned => exact hne rfl
      | superseded => exact hne rfl
    · rw [hrow] at hsome
      cases hsome
  | some row =>
    have hsome : (getGuidChange s.before stored).isSome = true := by rw [hrow]; rfl
    simp only [reduceCtorEq, false_or]
    exact ⟨fun hgone => h.reaches hsome hgone.gone, fun hreach => h.withdraws hids hreach hsome⟩

end Return

end

section Sample

attribute [local instance] runPlatform

/-- The URL of `f1` declares the GUID `g2`. -/
def pendingIngest : Operation := .ingest (runEnv 'p' 2) oneFeedDb (sampleRequest "g2" [])

def pendingDb : Db := pendingIngest.next oneFeedDb

def pendingHistory : List RunStep :=
  [{ before := oneFeedDb, operation := pendingIngest },
    { before := Database.empty schema, operation := firstIngest }]

theorem pendingDb_run : PrimaryRun Operation.TakesNewIds pendingHistory pendingDb := by
  have hfirst : FreshIds (runEnv 'a' 1) (Database.empty schema) := runEnv_freshIds (by decide)
  have hpending : FreshIds (runEnv 'p' 2) oneFeedDb :=
    runEnv_freshIds (by rw [oneFeedDb_events]; decide)
  exact .step pendingIngest (.step firstIngest .empty hfirst) hpending

def contentHashEnv (tag : Char) (now : Int) : IngestEnv :=
  { runEnv tag now with chain := { crawlToken := "t", verifiers := [contentHashVerifier] } }

theorem pendingDb_facts :
    (pendingDb .events).map StoredEvent.eventId = ["ac", "au", "pp"] ∧
      (getGuidChange pendingDb sampleUrl).isSome = true ∧
      classifySubmission pendingDb "f1" sampleUrl sampleUrl = .update ∧
      (getFeedByGuid pendingDb "f1").map Feed.feedUrl = some sampleUrl ∧
      isStale (sampleBody "f1" []) pendingDb = false ∧
      readPhase (contentHashEnv 'u' 3) pendingDb (sampleRequest "f1" []) = .noChange := by
  decide +kernel

/-- The source serves `f1` again, with the body of the crawl cache. -/
theorem unchangedReturn_keepsRow :
    ¬ ∀ (history : List RunStep) (d : Db), PrimaryRun Operation.TakesNewIds history d →
        ∀ env snapshot req body stored, FreshIds env d →
          UpdateSubmission env snapshot d req body stored →
            Withdrawn d (handleIngestFeed env snapshot req d).2 stored body.feedGuid
              (env.now .guidReturn) := by
  intro hall
  obtain ⟨hids, hrow, hclass, hstored, -, hphase⟩ := pendingDb_facts
  have hfresh : FreshIds (runEnv 'u' 3) pendingDb := runEnv_freshIds (by rw [hids]; decide)
  have hupdate : UpdateSubmission (contentHashEnv 'u' 3) pendingDb pendingDb (sampleRequest "f1" [])
      (sampleBody "f1" []) sampleUrl :=
    ⟨rfl, by rw [hphase]; exact fun _ h => (by cases h), rfl, hclass, hstored⟩
  have hgone := (hall _ _ pendingDb_run (contentHashEnv 'u' 3) _ _ _ _
    ⟨hfresh.injective, hfresh.fresh⟩ hupdate).gone
  have hreach := hupdate.reaches hrow hgone
  obtain ⟨warnings, hverified⟩ := hreach.verified
  rw [hphase] at hverified
  cases hverified

/-- The source serves `f1` again, with a chain that has no verifier. -/
def returningGuid : Operation := .ingest (runEnv 'q' 3) pendingDb (sampleRequest "f1" [])

theorem run_withdrawn_iff_pendingDb :
    UpdateSubmission (runEnv 'q' 3) pendingDb pendingDb (sampleRequest "f1" [])
        (sampleBody "f1" []) sampleUrl ∧
      Withdrawn pendingDb (returningGuid.next pendingDb) sampleUrl "f1" 3 := by
  obtain ⟨hids, -, hclass, hstored, hstale, -⟩ := pendingDb_facts
  have hfresh : FreshIds (runEnv 'q' 3) pendingDb := runEnv_freshIds (by rw [hids]; decide)
  have hphase : readPhase (runEnv 'q' 3) pendingDb (sampleRequest "f1" []) = .verified [] := by
    decide +kernel
  have hupdate : UpdateSubmission (runEnv 'q' 3) pendingDb pendingDb (sampleRequest "f1" [])
      (sampleBody "f1" []) sampleUrl :=
    ⟨rfl, by rw [hphase]; exact fun _ h => (by cases h), rfl, hclass, hstored⟩
  have hiff := forall_steps_last (P := fun d operation =>
    ∀ env snapshot req body stored, operation = .ingest env snapshot req →
      UpdateSubmission env snapshot d req body stored →
        (Withdrawn d (operation.next d) stored body.feedGuid (env.now .guidReturn) ↔
          getGuidChange d stored = none ∨ ReachesReturn env snapshot d req body stored))
    (run_withdrawn_iff (PrimaryRun.step returningGuid pendingDb_run hfresh))
  exact ⟨hupdate, (hiff _ _ _ _ _ rfl hupdate).mpr (.inr ⟨⟨[], hphase⟩, hstale, rfl, rfl⟩)⟩

end Sample

end Stophammer
