import Stophammer.FanOut
import Stophammer.NewEvents

/-!
# What an ingest can do

The submissions whose content goes in, and one rule for the whole handler: a relation
between states holds along an ingest when it holds along each of its parts.
-/

namespace Stophammer

open Relational Statement

section

variable [Platform]

/-- The case of the submission lets its content in. -/
def admitsContent (env : IngestEnv) (req : IngestFeedRequest) (body : IngestFeedData)
    (d : Db) : Bool :=
  match classifySubmission d body.feedGuid req.sourceUrl req.canonicalUrl with
  | .update => !isStale body d && !sourceBlocksThisIndex body.blocks
  | .newFeed => !isRetiredSourceConflict req body d && !sourceBlocksThisIndex body.blocks
  | .mirror _ =>
    (moveTarget d body.feedGuid req.sourceUrl req.canonicalUrl req.redirects body
      (env.now .writeMove)).isMove
  | .recordConflict => false
  | .guidChange _ => transitionAllowed req body d

/-- The GUID that the content replaces. -/
def SubmissionClass.held : SubmissionClass → Option String
  | .guidChange heldGuid => some heldGuid
  | _ => none

/-- The move that the content of the body brings with it. -/
def admittedMove (env : IngestEnv) (req : IngestFeedRequest) (body : IngestFeedData) (d : Db) :
    Option RecordMove :=
  match moveTarget d body.feedGuid req.sourceUrl req.canonicalUrl req.redirects body
      (env.now .writeMove) with
  | .move target =>
    (getFeedByGuid d body.feedGuid).map fun stored =>
      { oldFeedUrl := stored.feedUrl
        newFeedUrl := target.newFeedUrl
        returnValues := target.returnValues }
  | .noTrigger | .refused _ | .waitingRedirect _ => none

omit [Platform] in
theorem SubmissionClass.held_eq_some {c : SubmissionClass} {heldGuid : String} :
    c.held = some heldGuid ↔ c = .guidChange heldGuid := by
  cases c <;> simp [SubmissionClass.held]

/-- The token and the verifiers pass the submission of the body. -/
structure Verified (env : IngestEnv) (snapshot : Db) (req : IngestFeedRequest)
    (body : IngestFeedData) : Prop where
  authentic : env.chain.authenticate req = none
  verified : ∃ warnings, readPhase env snapshot req = .verified warnings
  carries : req.feedData = some body

/-- The submission passes the checks in front of its content. -/
structure ReachesContent (env : IngestEnv) (snapshot d : Db) (req : IngestFeedRequest)
    (body : IngestFeedData) : Prop where
  authentic : env.chain.authenticate req = none
  verified : ∃ warnings, readPhase env snapshot req = .verified warnings
  carries : req.feedData = some body
  admits : admitsContent env req body d = true

variable {env : IngestEnv} {req : IngestFeedRequest} {body : IngestFeedData}
  {warnings : List String} {d e : Db} {admission : Admission}

omit [Platform] in
theorem dbStep_sameOutside {ts us : List Table} {α : Type} {x : Stmt α}
    (hx : Writes (S := schema) ts x) (h : ts ⊆ us) :
    Steps (SameOutside (S := schema) us) (dbStep x) := (hx.sameOutside h).mapError

section Cases

variable {feedGuid sourceUrl canonicalUrl : String}

theorem conflictingGuid_row {heldGuid : String}
    (h : conflictingGuid d feedGuid sourceUrl canonicalUrl = some heldGuid) :
    ∃ r ∈ d .feeds, r.feed.feedGuid = heldGuid ∧
      (r.feed.feedUrl = sourceUrl ∨ r.feed.feedUrl = canonicalUrl) ∧ heldGuid ≠ feedGuid := by
  obtain ⟨feed, hhead, rfl⟩ := Option.map_eq_some_iff.mp h
  have hmem := (orderBy_perm _ _).mem_iff.mp (List.mem_of_mem_head? hhead)
  obtain ⟨hfeed, hconflict⟩ := List.mem_filter.mp hmem
  obtain ⟨r, hr, rfl⟩ := List.mem_map.mp hfeed
  simp only [Bool.and_eq_true, Bool.or_eq_true, beq_iff_eq, bne_iff_ne] at hconflict
  exact ⟨r, hr, rfl, hconflict.1, hconflict.2⟩

theorem classifySubmission_update :
    classifySubmission d feedGuid sourceUrl canonicalUrl = .update ↔
      conflictingGuid d feedGuid sourceUrl canonicalUrl = none ∧
        ∃ stored, getFeedByGuid d feedGuid = some stored ∧
          (stored.feedUrl = sourceUrl ∨ stored.feedUrl = canonicalUrl) := by
  unfold classifySubmission
  cases conflictingGuid d feedGuid sourceUrl canonicalUrl with
  | some guid =>
    simp only [reduceCtorEq, false_and, iff_false]
    split
    · exact fun h => by cases h
    · exact fun h => by cases h
  | none =>
    cases getFeedByGuid d feedGuid with
    | none => simp
    | some stored =>
      simp only [Option.map_some, true_and, Option.some.injEq, exists_eq_left']
      by_cases hurl : stored.feedUrl = sourceUrl ∨ stored.feedUrl = canonicalUrl
      · simp [hurl]
      · simp [hurl]

theorem classifySubmission_mirror {url : String} :
    classifySubmission d feedGuid sourceUrl canonicalUrl = .mirror url ↔
      conflictingGuid d feedGuid sourceUrl canonicalUrl = none ∧
        ∃ stored, getFeedByGuid d feedGuid = some stored ∧ stored.feedUrl = url ∧
          url ≠ sourceUrl ∧ url ≠ canonicalUrl := by
  unfold classifySubmission
  cases conflictingGuid d feedGuid sourceUrl canonicalUrl with
  | some guid =>
    simp only [reduceCtorEq, false_and, iff_false]
    split
    · exact fun h => by cases h
    · exact fun h => by cases h
  | none =>
    cases getFeedByGuid d feedGuid with
    | none => simp
    | some stored =>
      simp only [Option.map_some, true_and, Option.some.injEq, exists_eq_left']
      by_cases hurl : stored.feedUrl = sourceUrl ∨ stored.feedUrl = canonicalUrl
      · simp only [Bool.or_eq_true, beq_iff_eq, hurl, if_true, reduceCtorEq, false_iff, not_and]
        rintro rfl hsource hcanonical
        exact hurl.elim hsource hcanonical
      · simp only [Bool.or_eq_true, beq_iff_eq, hurl, if_false, SubmissionClass.mirror.injEq]
        constructor
        · rintro rfl
          exact ⟨rfl, not_or.mp hurl⟩
        · exact fun h => h.1

theorem classifySubmission_newFeed :
    classifySubmission d feedGuid sourceUrl canonicalUrl = .newFeed ↔
      conflictingGuid d feedGuid sourceUrl canonicalUrl = none ∧
        getFeedByGuid d feedGuid = none := by
  unfold classifySubmission
  cases conflictingGuid d feedGuid sourceUrl canonicalUrl with
  | some guid =>
    simp only [reduceCtorEq, false_and, iff_false]
    split
    · exact fun h => by cases h
    · exact fun h => by cases h
  | none =>
    cases getFeedByGuid d feedGuid with
    | none => simp
    | some stored =>
      simp only [Option.map_some, reduceCtorEq, and_false, iff_false]
      split
      · exact fun h => by cases h
      · exact fun h => by cases h

omit [Platform] in
theorem redirectDecision_move {redirects : List RedirectHop} {now : Int} {target : MoveTarget}
    (h : redirectDecision d feedGuid sourceUrl canonicalUrl redirects now = .move target) :
    ∃ stored, getFeedByGuid d feedGuid = some stored ∧ sourceUrl = stored.feedUrl ∧
      canonicalUrl ≠ stored.feedUrl ∧ target.newFeedUrl = canonicalUrl := by
  unfold redirectDecision at h
  cases hstored : getFeedByGuid d feedGuid with
  | none =>
    rw [hstored] at h
    cases h
  | some stored =>
    rw [hstored] at h
    simp only [Option.map_some] at h
    split at h
    · cases h
    · rename_i hguard
      simp only [Bool.or_eq_true, bne_iff_ne, beq_iff_eq, Bool.not_eq_true', not_or,
        ne_eq, not_not] at hguard
      refine ⟨stored, rfl, hguard.1.1.1, hguard.1.2, ?_⟩
      split at h
      · split at h
        · cases h
        · cases h
          rfl
      · cases h
        rfl

omit [Platform] in
theorem mirrorTarget_own {target : MoveTarget}
    (h : mirrorTarget d feedGuid sourceUrl canonicalUrl = some target) :
    (target.newFeedUrl = sourceUrl ∨ target.newFeedUrl = canonicalUrl) ∧
      target.returnValues = none := by
  simp only [mirrorTarget] at h
  have hown : ∀ {url} {declared : Option String},
      declared.filter (fun url => url == sourceUrl || url == canonicalUrl) = some url →
        url = sourceUrl ∨ url = canonicalUrl := by
    intro url declared hfilter
    simpa using (Option.filter_eq_some_iff.mp hfilter).2
  split at h
  · rename_i hurl
    cases h
    exact ⟨hown hurl, rfl⟩
  · split at h
    · rename_i hurl
      cases h
      exact ⟨hown hurl, rfl⟩
    · cases h

end Cases

theorem moveTarget_congr {e : Db} (hfeeds : e .feeds = d .feeds)
    (hleft : e .feedLeftUrls = d .feedLeftUrls) (hmove : e .feedMoveState = d .feedMoveState)
    {feedGuid sourceUrl canonicalUrl : String} {redirects : List RedirectHop} {now : Int} :
    moveTarget e feedGuid sourceUrl canonicalUrl redirects body now =
      moveTarget d feedGuid sourceUrl canonicalUrl redirects body now := by
  have hfeed : getFeedByGuid e feedGuid = getFeedByGuid d feedGuid := by
    rw [getFeedByGuid, getFeedByGuid, hfeeds]
  have hclass : classifySubmission e feedGuid sourceUrl canonicalUrl =
      classifySubmission d feedGuid sourceUrl canonicalUrl := by
    rw [classifySubmission, classifySubmission, hfeed, conflictingGuid, conflictingGuid,
      conflictingRecords, conflictingRecords, hfeeds]
  have hurls : getLeftUrls e feedGuid = getLeftUrls d feedGuid := by
    rw [getLeftUrls, getLeftUrls, hleft]
  have hstate : getMoveState e feedGuid = getMoveState d feedGuid := by
    rw [getMoveState, getMoveState, hmove]
  have htarget : mirrorTarget e feedGuid sourceUrl canonicalUrl =
      mirrorTarget d feedGuid sourceUrl canonicalUrl := by
    rw [mirrorTarget, mirrorTarget, getDeclaredNewFeedUrl, getDeclaredNewFeedUrl,
      getDeclaredSelfUrl, getDeclaredSelfUrl, feedRow, feedRow, hfeeds]
  simp only [moveTarget, mirrorDecision, redirectDecision, hclass, hurls, hstate, htarget, hfeed]

omit [Platform] in
theorem buildInput_congr {recordMove : Option RecordMove} (h : e .feeds = d .feeds) :
    buildInput env req body e recordMove = buildInput env req body d recordMove := by
  have hurl : chooseFeedUrl e req body.feedGuid recordMove =
      chooseFeedUrl d req body.feedGuid recordMove := by
    unfold chooseFeedUrl getFeedByGuid
    rw [h]
  rw [buildInput, buildInput, hurl]

theorem decideUpdate_admits
    (hclass : classifySubmission d body.feedGuid req.sourceUrl req.canonicalUrl = .update)
    (h : decideUpdate env req body warnings d = (.ok (.admitted admission), e)) :
    isStale body d = false ∧ sourceBlocksThisIndex body.blocks = false ∧
      admission.pendingGuidTransition = none ∧
        admission.recordMove = admittedMove env req body d := by
  unfold decideUpdate at h
  rw [read_bind_run] at h
  by_cases hstale : isStale body d = true
  · rw [if_pos hstale] at h
    cases h
  · rw [if_neg hstale] at h
    by_cases hblocks : sourceBlocksThisIndex body.blocks = true
    · rw [if_pos hblocks] at h
      obtain ⟨events, d', -, hpure⟩ := bind_ok h
      cases hpure
    · rw [if_neg hblocks] at h
      obtain ⟨prefixEvents, d', hreturn, hrest⟩ := bind_ok h
      have hsame : SameOutside (S := schema) [Table.feedGuidChanges, .events] d d' :=
        (dbStep_sameOutside recordGuidChangeReturnForIngest_writes (by decide)).run hreturn
      rw [read_bind_run, moveTarget_congr (hsame .feeds (by decide))
        (hsame .feedLeftUrls (by decide)) (hsame .feedMoveState (by decide))] at hrest
      refine ⟨Bool.not_eq_true _ ▸ hstale, Bool.not_eq_true _ ▸ hblocks, ?_⟩
      unfold admittedMove
      cases hmove : moveTarget d body.feedGuid req.sourceUrl req.canonicalUrl req.redirects
          body (env.now .writeMove) with
      | move target =>
        rw [hmove] at hrest
        cases hrest
        rw [moveTarget, hclass] at hmove
        obtain ⟨stored, hstored, hsource, -⟩ := redirectDecision_move hmove
        exact ⟨rfl, by rw [hstored, admitMove, hsource]; rfl⟩
      | waitingRedirect targetUrl =>
        rw [hmove] at hrest
        cases hrest
        exact ⟨rfl, rfl⟩
      | noTrigger =>
        rw [hmove] at hrest
        cases hrest
        exact ⟨rfl, rfl⟩
      | refused targetUrl =>
        rw [hmove] at hrest
        cases hrest
        exact ⟨rfl, rfl⟩

theorem decideMirror_admits {sourceUrl : String}
    (hclass : classifySubmission d body.feedGuid req.sourceUrl req.canonicalUrl =
      .mirror sourceUrl)
    (h : decideMirror env req body warnings sourceUrl d = (.ok (.admitted admission), e)) :
    (moveTarget d body.feedGuid req.sourceUrl req.canonicalUrl req.redirects body
      (env.now .writeMove)).isMove = true ∧ admission.pendingGuidTransition = none ∧
        admission.recordMove = admittedMove env req body d := by
  have hfinish : ∀ refusalWarnings,
      decideMirror.finish env req body sourceUrl refusalWarnings d ≠
        (.ok (.admitted admission), e) := by
    intro refusalWarnings hrun
    obtain ⟨signedRows, d₁, -, hrest⟩ := bind_ok hrun
    obtain ⟨events, d₂, -, hpure⟩ := bind_ok hrest
    cases hpure
  unfold decideMirror at h
  rw [read_bind_run] at h
  cases hmove : moveTarget d body.feedGuid req.sourceUrl req.canonicalUrl req.redirects
      body (env.now .writeMove) with
  | move target =>
    rw [hmove] at h
    cases h
    obtain ⟨-, stored, hstored, hurl, -⟩ := classifySubmission_mirror.mp hclass
    refine ⟨rfl, rfl, ?_⟩
    rw [admittedMove, hmove, hstored, admitMove, ← hurl]
    rfl
  | refused targetUrl =>
    rw [hmove] at h
    exact absurd h (hfinish _)
  | noTrigger =>
    rw [hmove] at h
    exact absurd h (hfinish _)
  | waitingRedirect targetUrl =>
    rw [hmove] at h
    exact absurd h (hfinish _)

theorem decideGuidChange_admits {heldGuid : String}
    (h : decideGuidChange env req body warnings heldGuid d = (.ok (.admitted admission), e)) :
    transitionAllowed req body d = true ∧ admission.pendingGuidTransition = some heldGuid ∧
      admission.recordMove = none ∧ e = d := by
  unfold decideGuidChange at h
  rw [read_bind_run] at h
  by_cases hallowed : transitionAllowed req body d = true
  · rw [if_pos hallowed] at h
    cases h
    exact ⟨hallowed, rfl, rfl, rfl⟩
  · rw [if_neg hallowed] at h
    obtain ⟨outcome, d₁, -, hrest⟩ := bind_ok h
    cases outcome with
    | rejected => cases hrest
    | pending signedRows =>
      obtain ⟨events, d₂, -, hpure⟩ := bind_ok hrest
      cases hpure

theorem decideCase_admits
    (h : decideCase env req body warnings d = (.ok (.admitted admission), e)) :
    (admitsContent env req body d = true ∧
      admission.pendingGuidTransition =
        (classifySubmission d body.feedGuid req.sourceUrl req.canonicalUrl).held ∧
      admission.recordMove = admittedMove env req body d) ∧
      SameOutside (S := schema) [Table.feedGuidChanges, .events] d e := by
  refine ⟨?_, (decideCase_decided h).frame⟩
  unfold decideCase at h
  rw [read_bind_run] at h
  unfold admitsContent
  have hnone : ∀ {c : SubmissionClass},
      classifySubmission d body.feedGuid req.sourceUrl req.canonicalUrl = c →
        (c = .newFeed ∨ ∃ heldGuid, c = .guidChange heldGuid) →
          admittedMove env req body d = none := by
    rintro c hclass (rfl | ⟨heldGuid, rfl⟩)
    · rw [admittedMove, moveTarget, hclass]
    · rw [admittedMove, moveTarget, hclass]
  cases hclass : classifySubmission d body.feedGuid req.sourceUrl req.canonicalUrl with
  | update =>
    rw [hclass] at h
    obtain ⟨hstale, hblocks, hheld, hmove⟩ := decideUpdate_admits hclass h
    simp [hstale, hblocks, hheld, hmove, SubmissionClass.held]
  | newFeed =>
    rw [hnone hclass (.inl rfl)]
    rw [hclass] at h
    simp only [decideNewFeed, read_bind_run] at h
    split at h
    · cases h
    · split at h
      · cases h
      · cases h
        simp_all [admitInPlace, SubmissionClass.held]
  | mirror sourceUrl =>
    rw [hclass] at h
    obtain ⟨hmove, hheld, hrecord⟩ := decideMirror_admits hclass h
    simp [hmove, hheld, hrecord, SubmissionClass.held]
  | recordConflict =>
    rw [hclass] at h
    cases h
  | guidChange heldGuid =>
    rw [hnone hclass (.inr ⟨heldGuid, rfl⟩)]
    rw [hclass] at h
    obtain ⟨hallowed, hheld, hmove, -⟩ := decideGuidChange_admits h
    simp [hallowed, hheld, hmove, SubmissionClass.held]

theorem decideCase_admits_held {heldGuid : String}
    (hclass : classifySubmission d body.feedGuid req.sourceUrl req.canonicalUrl =
      .guidChange heldGuid)
    (h : decideCase env req body warnings d = (.ok (.admitted admission), e)) : e = d := by
  unfold decideCase at h
  rw [read_bind_run, hclass] at h
  exact (decideGuidChange_admits h).2.2.2

omit [Platform] in
theorem writeDeclarations_sameOutside {isMove : Bool} :
    Steps (SameOutside (S := schema) [Table.feeds, .feedMoveState])
      (writeDeclarations body isMove) := by
  have hself : ∀ url, Writes (S := schema) [Table.feeds] (setDeclaredSelfUrl body.feedGuid url) :=
    fun _ => Writes.update (by decide)
  have hmove : Writes (S := schema) [Table.feeds] (setFeedMoveDeclarations body.feedGuid
      body.newFeedUrl body.locked body.lockedOwner) := Writes.update (by decide)
  have hclear : Writes (S := schema) [Table.feedMoveState]
      (clearArrivalTagUnless body.feedGuid body.newFeedUrl) := Writes.update (by decide)
  apply (dbStep_sameOutside (hself _) (by decide)).bind
  intro _
  apply (dbStep_sameOutside hmove (by decide)).bind
  intro _
  exact Steps.ite (.pure _) (dbStep_sameOutside hclear (by decide))

/-- The retirement of a record whose source blocks this index. -/
def sourceBlockRetire (env : IngestEnv) (body : IngestFeedData) (warnings : List String) :
    Stmt (List Event) :=
  deleteFeedWithEvent env.signer body.feedGuid
    (retireRow body.feedGuid "podcast_block" (env.now .sourceBlock) warnings
      (env.uuid .sourceBlock 0)) []

/-- A relation holds along the decision when it holds along a mirror, the pending GUID changes
and the retirement that a source asks for. -/
theorem decideCase_steps_each {R : Db → Db → Prop} [IsPreorder Db R]
    (hmirror : ∀ sourceUrl,
      classifySubmission d body.feedGuid req.sourceUrl req.canonicalUrl = .mirror sourceUrl →
        R d (decideMirror env req body warnings sourceUrl d).2)
    (hretire : classifySubmission d body.feedGuid req.sourceUrl req.canonicalUrl = .update →
      isStale body d = false → sourceBlocksThisIndex body.blocks = true →
        R d (sourceBlockRetire env body warnings d).2)
    (hreturn : classifySubmission d body.feedGuid req.sourceUrl req.canonicalUrl = .update →
      isStale body d = false → sourceBlocksThisIndex body.blocks = false →
        R d (recordGuidChangeReturnForIngest env.signer (env.uuid .guidReturn 0) req.sourceUrl
          body.feedGuid (env.now .guidReturn) d).2)
    (hpending : ∀ heldGuid,
      classifySubmission d body.feedGuid req.sourceUrl req.canonicalUrl = .guidChange heldGuid →
      transitionAllowed req body d = false →
        R d (recordGuidChangePendingForIngest env.signer (env.uuid .guidPending 0) req.sourceUrl
          heldGuid body.feedGuid (env.now .guidPending) d).2) :
    R d (decideCase env req body warnings d).2 := by
  unfold decideCase
  rw [read_bind_run]
  cases hclass : classifySubmission d body.feedGuid req.sourceUrl req.canonicalUrl with
  | update =>
    change R d (decideUpdate env req body warnings d).2
    unfold decideUpdate
    rw [read_bind_run]
    split
    · exact refl_of R d
    · rename_i hstale
      split
      · apply Steps.after
        · exact Steps.mapError_at (hretire hclass (Bool.not_eq_true _ ▸ hstale) ‹_›)
        · exact fun _ t _ => refl_of R t
      · rename_i hblocks
        apply Steps.after
        · exact Steps.mapError_at (hreturn hclass (Bool.not_eq_true _ ▸ hstale)
            (Bool.not_eq_true _ ▸ hblocks))
        · intro prefixEvents t _
          rw [read_bind_run]
          cases moveTarget t body.feedGuid req.sourceUrl req.canonicalUrl req.redirects body
              (env.now .writeMove) with
          | noTrigger => exact refl_of R t
          | move target => exact refl_of R t
          | refused targetUrl => exact refl_of R t
          | waitingRedirect targetUrl => exact refl_of R t
  | newFeed =>
    have hnew : Steps R (decideNewFeed req body warnings) := by
      apply Steps.read_then
      intro held
      exact .ite (.pure _) (.ite (.pure _) (.pure _))
    exact hnew d
  | mirror sourceUrl => exact hmirror sourceUrl hclass
  | recordConflict => exact refl_of R d
  | guidChange heldGuid =>
    simp only [decideGuidChange]
    rw [read_bind_run]
    split
    · exact refl_of R d
    · rename_i hallowed
      apply Steps.after
      · exact Steps.mapError_at (hpending heldGuid hclass (Bool.not_eq_true _ ▸ hallowed))
      · intro outcome t _
        cases outcome with
        | rejected => exact refl_of R t
        | pending signedRows =>
          exact (signedRowsToEvents_steps.bind fun _ => .pure _ : Steps R _) t

theorem ingest_steps_each {R : Db → Db → Prop} [IsPreorder Db R] {snapshot : Db}
    (hgone : env.chain.authenticate req = none → isGoneReport req = true →
      R d (handleSourceGoneReport env req d).2)
    (hnoChange : R d (handleNoChange env req d).2)
    (hmirror : ∀ body warnings sourceUrl, Verified env snapshot req body →
      classifySubmission d body.feedGuid req.sourceUrl req.canonicalUrl = .mirror sourceUrl →
        R d (decideMirror env req body warnings sourceUrl d).2)
    (hretire : ∀ body warnings, Verified env snapshot req body →
      classifySubmission d body.feedGuid req.sourceUrl req.canonicalUrl = .update →
        isStale body d = false → sourceBlocksThisIndex body.blocks = true →
          R d (sourceBlockRetire env body warnings d).2)
    (hreturn : ∀ body, Verified env snapshot req body →
      classifySubmission d body.feedGuid req.sourceUrl req.canonicalUrl = .update →
        isStale body d = false → sourceBlocksThisIndex body.blocks = false →
          R d (recordGuidChangeReturnForIngest env.signer (env.uuid .guidReturn 0) req.sourceUrl
            body.feedGuid (env.now .guidReturn) d).2)
    (hpending : ∀ body heldGuid, Verified env snapshot req body →
      classifySubmission d body.feedGuid req.sourceUrl req.canonicalUrl = .guidChange heldGuid →
        transitionAllowed req body d = false →
          R d (recordGuidChangePendingForIngest env.signer (env.uuid .guidPending 0) req.sourceUrl
            heldGuid body.feedGuid (env.now .guidPending) d).2)
    (hcontent : ∀ body admission e, ReachesContent env snapshot d req body →
      admission.pendingGuidTransition =
        (classifySubmission d body.feedGuid req.sourceUrl req.canonicalUrl).held →
      admission.recordMove = admittedMove env req body d →
      SameOutside (S := schema) [Table.feedGuidChanges, .events] d e →
      (∀ heldGuid, classifySubmission d body.feedGuid req.sourceUrl req.canonicalUrl =
        .guidChange heldGuid → e = d) →
        R e (admitContent env req body admission e).2) :
    R d (handleIngestFeed env snapshot req d).2 := by
  unfold handleIngestFeed
  cases hauth : env.chain.authenticate req with
  | some reason => exact refl_of R d
  | none =>
    simp only
    split
    · exact hgone hauth ‹_›
    · cases hphase : readPhase env snapshot req with
      | rejected reason => exact refl_of R d
      | noChange => exact hnoChange
      | verified warnings =>
        simp only [writePhase]
        cases hbody : req.feedData with
        | none => exact refl_of R d
        | some body =>
          have hverified : Verified env snapshot req body := ⟨hauth, ⟨warnings, hphase⟩, hbody⟩
          apply Steps.after
          · exact decideCase_steps_each (fun sourceUrl => hmirror body warnings sourceUrl hverified)
              (hretire body warnings hverified) (hreturn body hverified)
              fun heldGuid => hpending body heldGuid hverified
          · intro decision e hrun
            cases decision with
            | answer output => exact refl_of R e
            | admitted admission =>
              obtain ⟨⟨hadmits, hheld, hmove⟩, hsame⟩ := decideCase_admits hrun
              exact hcontent body admission e ⟨hauth, ⟨warnings, hphase⟩, hbody, hadmits⟩ hheld
                hmove hsame fun heldGuid hclass => decideCase_admits_held hclass hrun

theorem ingest_steps {R : Db → Db → Prop} [IsPreorder Db R] {snapshot : Db}
    (hgone : env.chain.authenticate req = none → isGoneReport req = true →
      R d (handleSourceGoneReport env req d).2)
    (hobserve : ∀ s t, Observes observationTables s t → R s t)
    (hretire : ∀ body warnings, Verified env snapshot req body →
      classifySubmission d body.feedGuid req.sourceUrl req.canonicalUrl = .update →
        isStale body d = false → sourceBlocksThisIndex body.blocks = true →
          R d (sourceBlockRetire env body warnings d).2)
    (hreturn : ∀ body, Verified env snapshot req body →
      classifySubmission d body.feedGuid req.sourceUrl req.canonicalUrl = .update →
        isStale body d = false → sourceBlocksThisIndex body.blocks = false →
          R d (recordGuidChangeReturnForIngest env.signer (env.uuid .guidReturn 0) req.sourceUrl
            body.feedGuid (env.now .guidReturn) d).2)
    (hpending : ∀ body heldGuid, Verified env snapshot req body →
      classifySubmission d body.feedGuid req.sourceUrl req.canonicalUrl = .guidChange heldGuid →
        transitionAllowed req body d = false →
          R d (recordGuidChangePendingForIngest env.signer (env.uuid .guidPending 0) req.sourceUrl
            heldGuid body.feedGuid (env.now .guidPending) d).2)
    (hcontent : ∀ body admission e, ReachesContent env snapshot d req body →
      admission.pendingGuidTransition =
        (classifySubmission d body.feedGuid req.sourceUrl req.canonicalUrl).held →
      admission.recordMove = admittedMove env req body d →
      SameOutside (S := schema) [Table.feedGuidChanges, .events] d e →
      (∀ heldGuid, classifySubmission d body.feedGuid req.sourceUrl req.canonicalUrl =
        .guidChange heldGuid → e = d) →
        R e (admitContent env req body admission e).2) :
    R d (handleIngestFeed env snapshot req d).2 :=
  ingest_steps_each hgone (hobserve _ _ (handleNoChange_observes d))
    (fun _ _ _ _ _ => hobserve _ _ (decideMirror_observes d)) hretire hreturn hpending hcontent

/-- One rule for the content: the change of the GUID, the transaction with the events of the
differences, the declarations of the body, and what is observed beside them.  The transaction
starts where the change of the GUID ended. -/
theorem admitContent_steps_runs {R : Db → Db → Prop} [IsPreorder Db R]
    (htransition : ∀ heldGuid, admission.pendingGuidTransition = some heldGuid →
      R d (guidChangeTransition env.signer (env.uuid .guidTransition) heldGuid body.feedGuid
        req.sourceUrl (env.now .content) d).2)
    (htransaction : ∀ t, (admission.pendingGuidTransition = none → t = d) →
      (∀ heldGuid, admission.pendingGuidTransition = some heldGuid →
        t = (guidChangeTransition env.signer (env.uuid .guidTransition) heldGuid body.feedGuid
          req.sourceUrl (env.now .content) d).2) → ∀ contentWarnings,
      R t (ingestTransaction env.toPrimaryEnv (env.uuid .staleTracks)
        (buildInput env req body d admission.recordMove).content
        (assignIds (env.uuid .content) (buildDiffEvents d
          (buildInput env req body d admission.recordMove).content (env.now .content)
            contentWarnings))
        (admission.recordMove.map (feedMoveWrite body)) t).2)
    (hdeclare : ∀ isMove, Steps R (writeDeclarations body isMove))
    (hurls : ∀ now urls,
      Steps R (transaction (recordUrls env.signer body.feedGuid now urls)))
    (hcache : ∀ now, Steps R (upsertFeedCrawlCache req.canonicalUrl req.contentHash now)) :
    R d (admitContent env req body admission d).2 := by
  unfold admitContent
  rw [read_bind_run]
  split
  · exact refl_of R d
  · rw [read_bind_run, read_bind_run]
    apply Steps.after
    · cases hheld : admission.pendingGuidTransition with
      | none => exact refl_of R d
      | some heldGuid => exact Steps.mapError_at (htransition heldGuid hheld)
    · intro transitionRows t hrun
      have hsame : admission.pendingGuidTransition = none → t = d := by
        intro hnone
        rw [hnone] at hrun
        cases hrun
        rfl
      have hchanged : ∀ heldGuid, admission.pendingGuidTransition = some heldGuid →
          t = (guidChangeTransition env.signer (env.uuid .guidTransition) heldGuid body.feedGuid
            req.sourceUrl (env.now .content) d).2 := by
        intro heldGuid hheld
        rw [hheld] at hrun
        have hstate := mapError_state ApiError.ofDb (guidChangeTransition env.signer
          (env.uuid .guidTransition) heldGuid body.feedGuid req.sourceUrl (env.now .content)) d
        exact (congrArg Prod.snd hrun).symm.trans hstate
      apply Steps.after
      · exact Steps.mapError_at (htransaction t hsame hchanged _)
      intro seqs u _
      refine Steps.bind (hdeclare _) (fun _ => ?_) u
      apply (hurls _ _).mapError.bind
      intro observations
      apply (hcache _).mapError.bind
      intro _
      exact signedRowsToEvents_steps.bind fun _ => .pure _

/-- The same rule, where it is enough that a transaction with no change of the GUID starts at the
state before. -/
theorem admitContent_steps_parts {R : Db → Db → Prop} [IsPreorder Db R]
    (htransition : ∀ heldGuid, admission.pendingGuidTransition = some heldGuid →
      R d (guidChangeTransition env.signer (env.uuid .guidTransition) heldGuid body.feedGuid
        req.sourceUrl (env.now .content) d).2)
    (htransaction : ∀ t, (admission.pendingGuidTransition = none → t = d) → ∀ contentWarnings,
      R t (ingestTransaction env.toPrimaryEnv (env.uuid .staleTracks)
        (buildInput env req body d admission.recordMove).content
        (assignIds (env.uuid .content) (buildDiffEvents d
          (buildInput env req body d admission.recordMove).content (env.now .content)
            contentWarnings))
        (admission.recordMove.map (feedMoveWrite body)) t).2)
    (hdeclare : ∀ isMove, Steps R (writeDeclarations body isMove))
    (hurls : ∀ now urls,
      Steps R (transaction (recordUrls env.signer body.feedGuid now urls)))
    (hcache : ∀ now, Steps R (upsertFeedCrawlCache req.canonicalUrl req.contentHash now)) :
    R d (admitContent env req body admission d).2 :=
  admitContent_steps_runs htransition (fun t hsame _ => htransaction t hsame) hdeclare hurls hcache

theorem admitContent_steps_each {R : Db → Db → Prop} [IsPreorder Db R]
    (htransition : ∀ heldGuid, admission.pendingGuidTransition = some heldGuid →
      R d (guidChangeTransition env.signer (env.uuid .guidTransition) heldGuid body.feedGuid
        req.sourceUrl (env.now .content) d).2)
    (htransaction : ∀ t, (admission.pendingGuidTransition = none → t = d) → ∀ contentWarnings,
      R t (ingestTransaction env.toPrimaryEnv (env.uuid .staleTracks)
        (buildInput env req body d admission.recordMove).content
        (assignIds (env.uuid .content) (buildDiffEvents d
          (buildInput env req body d admission.recordMove).content (env.now .content)
            contentWarnings))
        (admission.recordMove.map (feedMoveWrite body)) t).2)
    (hdeclare : ∀ isMove, Steps R (writeDeclarations body isMove))
    (hobserve : ∀ s t, Observes (.feedCrawlCache :: observationTables) s t → R s t) :
    R d (admitContent env req body admission d).2 := by
  have hcache : ∀ now, Writes (S := schema) [Table.feedCrawlCache]
      (upsertFeedCrawlCache req.canonicalUrl req.contentHash now) := fun _ =>
    Writes.upsert (by decide)
  apply admitContent_steps_parts htransition htransaction hdeclare
  · exact fun now urls => recordUrls_observes.mono fun s t h =>
      hobserve s t (h.mono (List.subset_cons_self _ _))
  · exact fun now => (Observes.of_writes (hcache now) (by decide) (by decide) (by decide)).mono
      hobserve

theorem admitContent_steps {R : Db → Db → Prop} [IsPreorder Db R]
    (htransition : ∀ heldGuid, admission.pendingGuidTransition = some heldGuid →
      R d (guidChangeTransition env.signer (env.uuid .guidTransition) heldGuid body.feedGuid
        req.sourceUrl (env.now .content) d).2)
    (htransaction : ∀ eventRows, (∀ row ∈ eventRows, EventRow.eventType row ∈ contentTypes) →
      Steps R (ingestTransaction env.toPrimaryEnv (env.uuid .staleTracks)
        (buildInput env req body d admission.recordMove).content eventRows
        (admission.recordMove.map (feedMoveWrite body))))
    (hdeclare : ∀ isMove, Steps R (writeDeclarations body isMove))
    (hobserve : ∀ s t, Observes (.feedCrawlCache :: observationTables) s t → R s t) :
    R d (admitContent env req body admission d).2 := by
  apply admitContent_steps_each htransition _ hdeclare hobserve
  intro t _ contentWarnings
  apply htransaction
  exact forall_assignIds (forall_buildDiffEvents fun _ _ _ _ htype _ => htype)

end

end Stophammer
