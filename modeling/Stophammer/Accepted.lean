import Stophammer.Admission

/-!
# Accepted submissions

An accepted submission either did not change, or its content went in.  The states between
the steps of its content are named here.
-/

namespace Stophammer

open Relational Statement

section

variable [Platform] {env : IngestEnv} {snapshot d e : Db} {req : IngestFeedRequest}
  {out : IngestOutput}

structure ContentSteps (env : IngestEnv) (req : IngestFeedRequest) (body : IngestFeedData)
    (warnings : List String) (d : Db) (admission : Admission) (out : IngestOutput)
    (e : Db) where
  decided : Db
  retired : Db
  stored : Db
  declared : Db
  observed : Db
  transitionRows : List SignedEventRow
  seqs : List (Int × String × String)
  observations : List SignedEventRow
  decides : decideCase env req body warnings d = (.ok (.admitted admission), decided)
  retires : runTransition env req body admission.pendingGuidTransition decided =
    (.ok transitionRows, retired)
  stores : ingestTransaction env.toPrimaryEnv (env.uuid .staleTracks)
      (buildInput env req body decided admission.recordMove).content
      (assignIds (env.uuid .content) (buildDiffEvents decided
        (buildInput env req body decided admission.recordMove).content (env.now .content)
        (contentWarnings body (buildInput env req body decided admission.recordMove) admission)))
      (admission.recordMove.map (feedMoveWrite body)) retired = (.ok seqs, stored)
  declares : writeDeclarations body admission.recordMove.isSome stored = (.ok (), declared)
  observes : recordFeedUrlObservationsForIngest env.signer (env.uuid .urlObservations)
      req.canonicalUrl req.sourceUrl body.feedGuid (env.now .content) declared =
    (.ok observations, observed)
  caches : upsertFeedCrawlCache req.canonicalUrl req.contentHash (env.now .content) observed =
    (.ok (), e)
  fansOut : ((admission.prefixEvents ++ transitionRows ++
      signedPairs (assignIds (env.uuid .content) (buildDiffEvents decided
        (buildInput env req body decided admission.recordMove).content (env.now .content)
        (contentWarnings body (buildInput env req body decided admission.recordMove)
          admission))) seqs ++ observations).map SignedEventRow.stored).mapM eventOfRow =
    .ok out.fanoutEvents

theorem admitContent_steps_ok {body : IngestFeedData} {warnings : List String}
    {admission : Admission} {d₀ : Db}
    (hdecide : decideCase env req body warnings d = (.ok (.admitted admission), d₀))
    (h : admitContent env req body admission d₀ = (.ok out, e)) :
    Nonempty (ContentSteps env req body warnings d admission out e) := by
  unfold admitContent at h
  rw [read_bind_run] at h
  by_cases hcount : maxTracksPerIngest <
      (buildInput env req body d₀ admission.recordMove).tracks.length
  · rw [if_pos hcount] at h
    cases h
  · rw [if_neg hcount, read_bind_run, read_bind_run] at h
    obtain ⟨transitionRows, d₁, htransition, h⟩ := bind_ok h
    obtain ⟨seqs, d₂, hcontent, h⟩ := bind_ok h
    obtain ⟨_, d₃, hdeclare, h⟩ := bind_ok h
    obtain ⟨observations, d₄, hobserve, h⟩ := bind_ok h
    obtain ⟨_, d₅, hcache, h⟩ := bind_ok h
    obtain ⟨events, d₆, hevents, hpure⟩ := bind_ok h
    obtain ⟨hsame, hdecode⟩ := signedRowsToEvents_run hevents
    subst hsame
    cases hpure
    exact ⟨{
      decided := d₀
      retired := d₁
      stored := d₂
      declared := d₃
      observed := d₄
      transitionRows := transitionRows
      seqs := seqs
      observations := observations
      decides := hdecide
      retires := htransition
      stores := mapError_ok.mp hcontent
      declares := hdeclare
      observes := mapError_ok.mp hobserve
      caches := mapError_ok.mp hcache
      fansOut := hdecode }⟩

theorem accepted_cases (h : handleIngestFeed env snapshot req d = (.ok out, e))
    (haccepted : out.response.accepted = true) :
    (readPhase env snapshot req = .noChange ∧ handleNoChange env req d = (.ok out, e)) ∨
      ∃ body warnings admission, ReachesContent env snapshot d req body ∧
        Nonempty (ContentSteps env req body warnings d admission out e) := by
  unfold handleIngestFeed at h
  cases hauth : env.chain.authenticate req with
  | some reason =>
    rw [hauth] at h
    cases h
    cases haccepted
  | none =>
    rw [hauth] at h
    simp only at h
    by_cases hgone : isGoneReport req = true
    · rw [if_pos hgone] at h
      have hrefused := handleSourceGoneReport_refused h
      rw [hrefused] at haccepted
      cases haccepted
    · rw [if_neg hgone] at h
      cases hphase : readPhase env snapshot req with
      | rejected reason =>
        rw [hphase] at h
        cases h
        cases haccepted
      | noChange =>
        rw [hphase] at h
        exact .inl ⟨rfl, h⟩
      | verified warnings =>
        rw [hphase] at h
        simp only [writePhase] at h
        cases hbody : req.feedData with
        | none =>
          rw [hbody] at h
          cases h
        | some body =>
          rw [hbody] at h
          obtain ⟨decision, d₀, hdecide, hrest⟩ := bind_ok h
          have hdecided := decideCase_decided hdecide
          cases decision with
          | answer output =>
            cases hrest
            rw [hdecided] at haccepted
            cases haccepted
          | admitted admission =>
            have hadmits := (decideCase_admits hdecide).1.1
            exact .inr ⟨body, warnings, admission, ⟨hauth, ⟨warnings, hphase⟩, hbody, hadmits⟩,
              admitContent_steps_ok hdecide hrest⟩

namespace ContentSteps

variable {body : IngestFeedData} {warnings : List String} {admission : Admission}
  (c : ContentSteps env req body warnings d admission out e)

include c

theorem stored_same : SameOutside (S := schema)
    [Table.feeds, .feedMoveState, .feedUrlObservations, .events, .feedCrawlCache] c.stored e := by
  have hdeclared := writeDeclarations_sameOutside.run c.declares
  have hobserved := (recordUrls_writes.transaction.sameOutside (List.Subset.refl _)).run c.observes
  have hcache : Writes (S := schema) [Table.feedCrawlCache]
      (upsertFeedCrawlCache req.canonicalUrl req.contentHash (env.now .content)) :=
    Writes.upsert (by decide)
  have hcached := (hcache.sameOutside (List.Subset.refl _)).run c.caches
  exact trans_of (SameOutside _) (hdeclared.mono (by decide))
    (trans_of (SameOutside _) (hobserved.mono (by decide)) (hcached.mono (by decide)))

end ContentSteps

end

end Stophammer
