import Stophammer.Community
import Stophammer.Ingest.Handler
import Stophammer.Sample

/-!
# The events of an ingest

What an accepted submission adds to the log, and what it hands to fan-out.  The rows of
removed tracks go into the log after the rows that the handler knows, so the handler
does not hand them on.
-/

namespace Stophammer

open Relational Statement

theorem leaves_events {ts : List Table} {α : Type} {x : Stmt α} (hx : Writes (S := schema) ts x)
    (h : Table.events ∉ ts) : Leaves (fun d : Db => d .events) x := hx .events h

theorem dbStep_leaves {γ α : Type} {f : Db → γ} {x : Stmt α} (hx : Leaves f x) :
    Leaves f (dbStep x) := hx.mapError

theorem signEventRow_appends {pre : List StoredEvent} (signer : NodeSigner) (row : EventRow) :
    Appends (S := schema) .events pre (signEventRow signer row)
      fun signed rows => signed.row = row ∧ rows = pre ++ [signed.stored] := by
  intro d signed e hrun
  obtain ⟨⟨seq, signedBy, signature⟩, d', hinsert, hpure⟩ := bind_ok hrun
  cases hpure
  rcases insertEvent_run signer row d with ⟨d', hok, hcontents⟩ | ⟨err, herror⟩
  · rw [hok] at hinsert
    cases hinsert
    refine ⟨[signedRow signer row (nextSeq d)], ?_, rfl, rfl⟩
    rw [hcontents, Contents.set_same]
  · rw [herror] at hinsert
    cases hinsert

theorem insertEvents_appends (signer : NodeSigner) (rows : List EventRow) :
    Appends (S := schema) .events [] (insertEvents signer rows)
      fun seqs added => seqs.length = rows.length ∧
        added = (signedPairs rows seqs).map SignedEventRow.stored := by
  induction rows with
  | nil => exact Appends.pure ⟨rfl, rfl⟩
  | cons row rows ih =>
    intro d seqs e hrun
    obtain ⟨signed, d₁, hinsert, hrest⟩ := bind_ok hrun
    obtain ⟨rest, d₂, hrows, hpure⟩ := bind_ok hrest
    cases hpure
    obtain ⟨added, hadded, hlen, hsame⟩ := ih d₁ rest e hrows
    rcases insertEvent_run signer row d with ⟨d', hok, hcontents⟩ | ⟨err, herror⟩
    · rw [hok] at hinsert
      cases hinsert
      refine ⟨signedRow signer row (nextSeq d) :: added, ?_, ?_, ?_⟩
      · rw [hadded, hcontents, Contents.set_same, List.append_assoc, List.singleton_append]
      · simp only [List.length_cons, hlen]
      · rw [List.nil_append] at hsame ⊢
        rw [hsame]
        rfl
    · rw [herror] at hinsert
      cases hinsert

theorem signedPairs_append {rows rest : List EventRow} {seqs : List (Int × String × String)}
    (h : rows.length ≤ seqs.length) :
    signedPairs (rows ++ rest) seqs =
      signedPairs rows seqs ++ signedPairs rest (seqs.drop rows.length) := by
  induction rows generalizing seqs with
  | nil => rfl
  | cons row rows ih =>
    cases seqs with
    | nil => exact absurd h (by simp)
    | cons seq seqs =>
      have hrest := @ih seqs (by simpa using h)
      simp only [signedPairs, List.cons_append, List.zip_cons_cons, List.map_cons,
        List.length_cons, List.drop_succ_cons] at hrest ⊢
      rw [hrest]

theorem signedPairs_length {rows : List EventRow} {seqs : List (Int × String × String)} :
    (signedPairs rows seqs).length = min rows.length seqs.length := by
  rw [signedPairs, List.length_map, List.length_zip]

section

variable [Platform]

theorem signedRowsToEvents_run {signedRows : List SignedEventRow} {d e : Db}
    {events : List Event} (h : signedRowsToEvents signedRows d = (.ok events, e)) :
    e = d ∧ (signedRows.map SignedEventRow.stored).mapM eventOfRow = .ok events := by
  have hmap : ∀ (rows : List SignedEventRow) (evs : List Event),
      rows.mapM signedRowToEvent = .ok evs →
        (rows.map SignedEventRow.stored).mapM eventOfRow = .ok evs := by
    intro rows
    induction rows with
    | nil =>
      intro evs hevs
      rw [List.mapM_nil] at hevs
      cases hevs
      rfl
    | cons row rows ih =>
      intro evs hevs
      rw [List.mapM_cons] at hevs
      rw [List.map_cons, List.mapM_cons]
      rcases hrow : eventOfRow row.stored with err | ev
      · simp only [signedRowToEvent, hrow] at hevs
        cases hevs
      · rcases hrest : rows.mapM signedRowToEvent with err | rest
        · simp only [signedRowToEvent, hrow, hrest] at hevs
          cases hevs
        · simp only [signedRowToEvent, hrow, hrest] at hevs
          cases hevs
          rw [ih rest hrest]
          rfl
  unfold signedRowsToEvents at h
  rcases hrows : signedRows.mapM signedRowToEvent with err | evs
  · rw [hrows] at h
    cases h
  · rw [hrows] at h
    cases h
    exact ⟨rfl, hmap signedRows events hrows⟩

/-- The statement signs the rows of its result. -/
def Signs (x : Stmt (List SignedEventRow)) : Prop :=
  Appends (S := schema) .events [] x fun signed rows => rows = signed.map SignedEventRow.stored

omit [Platform] in
theorem Signs.one {signer : NodeSigner} {row : EventRow} :
    Signs (do let signed ← signEventRow signer row; pure [signed]) := by
  apply (signEventRow_appends signer row).bind
  rintro signed rows ⟨-, hrows⟩
  exact Appends.pure hrows

omit [Platform] in
theorem Signs.leaves_bind {α : Type} {x : Stmt α} {f : α → Stmt (List SignedEventRow)}
    (hx : Leaves (fun d : Db => d .events) x) (hf : ∀ a, Signs (f a)) : Signs (x >>= f) :=
  Appends.leaves_bind hx hf

theorem recordUrls_signs (signer : NodeSigner) (feedGuid : String) (now : Int)
    (urls : List (String × String)) : Signs (recordUrls signer feedGuid now urls) := by
  induction urls with
  | nil => exact Appends.pure rfl
  | cons url urls ih =>
    apply Signs.leaves_bind (leaves_events recordFeedUrlObservation_writes (by decide))
    intro observation
    cases observation with
    | none => exact ih
    | some observation =>
      apply (signEventRow_appends signer _).bind
      rintro signed rows ⟨-, hrows⟩
      have hrest : Appends (S := schema) .events rows (recordUrls signer feedGuid now urls)
          fun rest added => added = rows ++ rest.map SignedEventRow.stored :=
        Appends.after ih fun rest added hadded => by rw [hadded]
      apply hrest.bind
      intro rest added hadded
      apply Appends.pure
      rw [hadded, hrows]
      rfl

theorem recordFeedUrlObservationsForIngest_signs {signer : NodeSigner} {uuid : Nat → String}
    {canonicalUrl sourceUrl feedGuid : String} {now : Int} :
    Signs (recordFeedUrlObservationsForIngest signer uuid canonicalUrl sourceUrl feedGuid now) :=
  (recordUrls_signs signer feedGuid now _).transaction

theorem recordFeedCopyForIngest_signs {signer : NodeSigner} {eventId feedGuid url : String}
    {feedData : IngestFeedData} {now : Int} :
    Signs (recordFeedCopyForIngest signer eventId feedGuid url feedData now) := by
  have hcopies : ∀ {x : Stmt Unit}, Writes (S := schema) [Table.feedCopies, .feedCopyOverflow] x →
      Leaves (fun d : Db => d .events) x := fun hx => leaves_events hx (by decide)
  apply Appends.transaction
  apply Signs.leaves_bind (Leaves.read _)
  intro stored
  cases stored with
  | some row =>
    apply Signs.leaves_bind (hcopies (Writes.update (by decide)))
    intro _
    apply Appends.ite
    · exact Signs.leaves_bind (hcopies (Writes.upsert (by decide))) fun _ => Signs.one
    · exact Appends.pure rfl
  | none =>
    apply Signs.leaves_bind (Leaves.read _)
    intro count
    apply Appends.ite
    · exact Signs.leaves_bind (hcopies (Writes.upsert (by decide))) fun _ => Appends.pure rfl
    · apply Signs.leaves_bind (hcopies (Writes.upsert (by decide)))
      intro _
      exact Signs.leaves_bind (hcopies (Writes.update (by decide))) fun _ => Signs.one

theorem recordGuidChangeReturnForIngest_signs {signer : NodeSigner}
    {eventId sourceUrl guid : String} {now : Int} :
    Signs (recordGuidChangeReturnForIngest signer eventId sourceUrl guid now) := by
  apply Signs.leaves_bind (Leaves.read _)
  intro stored
  cases stored with
  | none => exact Appends.pure rfl
  | some row =>
    apply Appends.transaction
    have hdelete : Writes (S := schema) [Table.feedGuidChanges] (deleteGuidChange sourceUrl) :=
      Writes.delete (by decide)
    exact Signs.leaves_bind (leaves_events hdelete (by decide)) fun _ => Signs.one

theorem guidChangeTransition_signs {signer : NodeSigner} {uuid : Nat → String}
    {oldGuid newGuid sourceUrl : String} {now : Int} :
    Signs (guidChangeTransition signer uuid oldGuid newGuid sourceUrl now) := by
  apply Appends.transaction
  apply Signs.leaves_bind (leaves_events deleteFeedSql_writes (by decide))
  intro _
  apply (signEventRow_appends signer _).bind
  rintro retired rows ⟨-, hretired⟩
  have hsupersession : Writes (S := schema) [Table.feedGuidSupersessions]
      (insertGuidSupersession oldGuid newGuid sourceUrl now) :=
    (Writes.insertOrIgnore (by decide)).bind fun _ => Writes.pure ()
  apply Appends.leaves_bind (leaves_events hsupersession (by decide))
  intro _
  apply (signEventRow_appends signer _).bind
  rintro superseded rows' ⟨-, hsuperseded⟩
  apply Appends.leaves_bind (Leaves.read _)
  intro stored
  cases stored with
  | none =>
    apply Appends.pure
    rw [hsuperseded, hretired]
    rfl
  | some row =>
    have hdelete : Writes (S := schema) [Table.feedGuidChanges] (deleteGuidChange sourceUrl) :=
      Writes.delete (by decide)
    apply Appends.leaves_bind (leaves_events hdelete (by decide))
    intro _
    apply (signEventRow_appends signer _).bind
    rintro marker rows'' ⟨-, hmarker⟩
    apply Appends.pure
    rw [hmarker, hsuperseded, hretired]
    rfl

theorem recordObservations_appends {env : IngestEnv} {req : IngestFeedRequest}
    {feedData : IngestFeedData} {mirrorSource : Option String} :
    Appends (S := schema) .events [] (recordObservations env req feedData mirrorSource)
      fun signed rows => rows = signed.map SignedEventRow.stored := by
  apply (recordFeedUrlObservationsForIngest_signs.mapError).bind
  intro observations rows hrows
  cases mirrorSource with
  | none => exact Appends.pure hrows
  | some sourceUrl =>
    have hcopy : ∀ (pre : List StoredEvent) (eventId url : String),
        Appends (S := schema) .events pre
          (dbStep (recordFeedCopyForIngest env.signer eventId feedData.feedGuid url feedData
            (env.now .urlObservations)))
          fun signed added => added = pre ++ signed.map SignedEventRow.stored := by
      intro pre eventId url
      apply recordFeedCopyForIngest_signs.mapError.after
      intro signed added hadded
      rw [hadded]
    apply (hcopy rows _ _).bind
    intro canonicalCopy rows' hrows'
    apply Appends.ite
    · apply (hcopy rows' _ _).bind
      intro sourceCopy rows'' hrows''
      apply Appends.pure
      rw [hrows'', hrows', hrows, List.map_append, List.map_append]
    · apply Appends.pure
      rw [hrows', hrows, List.map_append]

/-- The events are the rows that the log of `e` has after those of `d`, each with the
payload that its text decodes to. -/
def ExactFanout (d e : Db) (events : List Event) : Prop :=
  ∃ rows, e .events = d .events ++ rows ∧ rows.mapM eventOfRow = .ok events

theorem handleNoChange_exact {env : IngestEnv} {req : IngestFeedRequest} {d e : Db}
    {out : IngestOutput} (h : handleNoChange env req d = (.ok out, e)) :
    ExactFanout d e out.fanoutEvents := by
  have hnone : ∀ {o : IngestOutput}, o.fanoutEvents = [] → ExactFanout d d o.fanoutEvents := by
    intro o ho
    exact ⟨[], (List.append_nil _).symm, by rw [ho]; rfl⟩
  have hfinish : ∀ feedData mirrorSource,
      handleNoChange.finish env req feedData mirrorSource d = (.ok out, e) →
        ExactFanout d e out.fanoutEvents := by
    intro feedData mirrorSource hrun
    obtain ⟨signedRows, d₁, hrecord, hrest⟩ := bind_ok hrun
    obtain ⟨events, d₂, hevents, hpure⟩ := bind_ok hrest
    obtain ⟨hsame, hdecode⟩ := signedRowsToEvents_run hevents
    obtain ⟨rows, hrows, hsigned⟩ := recordObservations_appends d signedRows d₁ hrecord
    cases hpure
    subst hsame
    refine ⟨rows, hrows, ?_⟩
    rw [List.nil_append] at hsigned
    rw [hsigned]
    exact hdecode
  unfold handleNoChange at h
  cases hdata : req.feedData with
  | none =>
    rw [hdata] at h
    cases h
    exact hnone rfl
  | some feedData =>
    rw [hdata] at h
    simp only [read_bind_run] at h
    cases hclass : classifySubmission d feedData.feedGuid req.sourceUrl req.canonicalUrl with
    | recordConflict =>
      rw [hclass] at h
      cases h
      exact hnone rfl
    | guidChange heldGuid =>
      rw [hclass] at h
      cases h
      exact hnone rfl
    | update =>
      rw [hclass] at h
      exact hfinish feedData none h
    | newFeed =>
      rw [hclass] at h
      exact hfinish feedData none h
    | mirror sourceUrl =>
      rw [hclass] at h
      exact hfinish feedData (some sourceUrl) h

/-- The state that the case of a submission leaves for its content. -/
structure AdmittedFrom (d e : Db) (feedGuid : String) (admission : Admission) : Prop where
  log : e .events = d .events ++ admission.prefixEvents.map SignedEventRow.stored
  frame : ∀ t, t ∉ [Table.feedGuidChanges, .events] → e t = d t
  unheld : ∀ heldGuid, admission.pendingGuidTransition = some heldGuid →
    getFeedByGuid d feedGuid = none

omit [Platform] in
theorem AdmittedFrom.refl {d : Db} {feedGuid : String} {admission : Admission}
    (hempty : admission.prefixEvents = []) (hpending : admission.pendingGuidTransition = none) :
    AdmittedFrom d d feedGuid admission where
  log := by rw [hempty, List.map_nil, List.append_nil]
  frame := fun _ _ => rfl
  unheld := by
    intro heldGuid h
    rw [hpending] at h
    cases h

/-- A decision that answers does not accept, and one that admits has only signed the
rows of its prefix. -/
def DecidedFrom (d e : Db) (feedGuid : String) : Decision → Prop
  | .answer output => output.response.accepted = false
  | .admitted admission => AdmittedFrom d e feedGuid admission

section

variable {env : IngestEnv} {req : IngestFeedRequest} {feedData : IngestFeedData}
  {warnings : List String} {d e : Db} {decision : Decision}

theorem decideUpdate_decided (h : decideUpdate env req feedData warnings d = (.ok decision, e)) :
    DecidedFrom d e feedData.feedGuid decision := by
  unfold decideUpdate at h
  rw [read_bind_run] at h
  by_cases hstale : isStale feedData d = true
  · rw [if_pos hstale] at h
    cases h
    rfl
  · rw [if_neg hstale] at h
    by_cases hblocks : sourceBlocksThisIndex feedData.blocks = true
    · rw [if_pos hblocks] at h
      obtain ⟨events, d', -, hpure⟩ := bind_ok h
      cases hpure
      rfl
    · rw [if_neg hblocks] at h
      obtain ⟨prefixEvents, d', hreturn, hrest⟩ := bind_ok h
      rw [read_bind_run] at hrest
      have hreturn' := mapError_ok.mp hreturn
      obtain ⟨rows, hrows, hsigned⟩ := recordGuidChangeReturnForIngest_signs d prefixEvents d'
        hreturn'
      have hwrites : Writes (S := schema) [Table.feedGuidChanges, .events]
          (recordGuidChangeReturnForIngest env.signer (env.uuid .guidReturn 0) req.sourceUrl
            feedData.feedGuid (env.now .guidReturn)) := by
        apply (Writes.read _).bind
        intro stored
        cases stored with
        | none => exact Writes.pure _
        | some row =>
          apply Writes.transaction
          apply (Writes.delete (by decide)).bind
          intro _
          exact (signEventRow_writes.mono (by decide)).bind fun _ => Writes.pure _
      have hadmitted : ∀ admission : Admission, admission.prefixEvents = prefixEvents →
          admission.pendingGuidTransition = none →
            AdmittedFrom d d' feedData.feedGuid admission := by
        intro admission hempty hpending
        refine ⟨?_, ?_, ?_⟩
        · rw [hrows, hempty]
          rw [List.nil_append] at hsigned
          rw [hsigned]
        · intro t ht
          have hleaves := hwrites t ht d
          rw [hreturn'] at hleaves
          exact hleaves
        · intro heldGuid hheld
          rw [hpending] at hheld
          cases hheld
      cases hmove : moveTarget d' feedData.feedGuid req.sourceUrl req.canonicalUrl req.redirects
          feedData (env.now .writeMove) with
      | move target =>
        rw [hmove] at hrest
        cases hrest
        exact hadmitted _ rfl rfl
      | waitingRedirect targetUrl =>
        rw [hmove] at hrest
        cases hrest
        exact hadmitted _ rfl rfl
      | noTrigger =>
        rw [hmove] at hrest
        cases hrest
        exact hadmitted _ rfl rfl
      | refused targetUrl =>
        rw [hmove] at hrest
        cases hrest
        exact hadmitted _ rfl rfl

theorem decideNewFeed_decided (h : decideNewFeed req feedData warnings d = (.ok decision, e)) :
    DecidedFrom d e feedData.feedGuid decision := by
  unfold decideNewFeed at h
  rw [read_bind_run] at h
  by_cases hhold : isRetiredSourceConflict req feedData d = true
  · rw [if_pos hhold] at h
    cases h
    rfl
  · rw [if_neg hhold] at h
    by_cases hblocks : sourceBlocksThisIndex feedData.blocks = true
    · rw [if_pos hblocks] at h
      cases h
      rfl
    · rw [if_neg hblocks] at h
      cases h
      exact AdmittedFrom.refl rfl rfl

theorem decideMirror_decided {sourceUrl : String}
    (h : decideMirror env req feedData warnings sourceUrl d = (.ok decision, e)) :
    DecidedFrom d e feedData.feedGuid decision := by
  have hfinish : ∀ refusalWarnings,
      decideMirror.finish env req feedData sourceUrl refusalWarnings d = (.ok decision, e) →
        DecidedFrom d e feedData.feedGuid decision := by
    intro refusalWarnings hrun
    obtain ⟨signedRows, d₁, -, hrest⟩ := bind_ok hrun
    obtain ⟨events, d₂, -, hpure⟩ := bind_ok hrest
    cases hpure
    rfl
  unfold decideMirror at h
  rw [read_bind_run] at h
  cases hmove : moveTarget d feedData.feedGuid req.sourceUrl req.canonicalUrl req.redirects
      feedData (env.now .writeMove) with
  | move target =>
    rw [hmove] at h
    cases h
    exact AdmittedFrom.refl rfl rfl
  | refused targetUrl =>
    rw [hmove] at h
    exact hfinish _ h
  | noTrigger =>
    rw [hmove] at h
    exact hfinish _ h
  | waitingRedirect targetUrl =>
    rw [hmove] at h
    exact hfinish _ h

theorem decideGuidChange_decided {heldGuid : String}
    (hnone : getFeedByGuid d feedData.feedGuid = none)
    (h : decideGuidChange env req feedData warnings heldGuid d = (.ok decision, e)) :
    DecidedFrom d e feedData.feedGuid decision := by
  unfold decideGuidChange at h
  rw [read_bind_run] at h
  by_cases hallowed : transitionAllowed req feedData d = true
  · rw [if_pos hallowed] at h
    cases h
    exact ⟨(List.append_nil _).symm, fun _ _ => rfl, fun _ _ => hnone⟩
  · rw [if_neg hallowed] at h
    obtain ⟨outcome, d₁, -, hrest⟩ := bind_ok h
    cases outcome with
    | rejected =>
      cases hrest
      rfl
    | pending signedRows =>
      obtain ⟨events, d₂, -, hpure⟩ := bind_ok hrest
      cases hpure
      rfl

theorem classifySubmission_guidChange {feedGuid sourceUrl canonicalUrl heldGuid : String}
    (h : classifySubmission d feedGuid sourceUrl canonicalUrl = .guidChange heldGuid) :
    getFeedByGuid d feedGuid = none ∧
      conflictingGuid d feedGuid sourceUrl canonicalUrl = some heldGuid := by
  unfold classifySubmission at h
  cases hconflict : conflictingGuid d feedGuid sourceUrl canonicalUrl with
  | some guid =>
    rw [hconflict] at h
    cases hfeed : getFeedByGuid d feedGuid with
    | none =>
      rw [hfeed] at h
      cases h
      exact ⟨rfl, rfl⟩
    | some feed =>
      rw [hfeed] at h
      cases h
  | none =>
    rw [hconflict] at h
    simp only at h
    split at h
    · split at h
      · cases h
      · cases h
    · cases h

theorem decideCase_decided (h : decideCase env req feedData warnings d = (.ok decision, e)) :
    DecidedFrom d e feedData.feedGuid decision := by
  unfold decideCase at h
  rw [read_bind_run] at h
  cases hclass : classifySubmission d feedData.feedGuid req.sourceUrl req.canonicalUrl with
  | update =>
    rw [hclass] at h
    exact decideUpdate_decided h
  | newFeed =>
    rw [hclass] at h
    exact decideNewFeed_decided h
  | mirror sourceUrl =>
    rw [hclass] at h
    exact decideMirror_decided h
  | recordConflict =>
    rw [hclass] at h
    cases h
    rfl
  | guidChange heldGuid =>
    rw [hclass] at h
    exact decideGuidChange_decided (classifySubmission_guidChange hclass).1 h

end

theorem ingestTransaction_log {env : PrimaryEnv} {uuid : Nat → String} {c : IngestContent}
    {eventRows : List EventRow} {feedMove : Option FeedMoveWrite} {d e : Db}
    {seqs : List (Int × String × String)}
    (h : ingestTransaction env uuid c eventRows feedMove d = (.ok seqs, e)) :
    ∃ removals : List EventRow, removals.length = (staleTrackGuids d c).length ∧
      (∀ row ∈ removals, row.eventType = .trackRemoved) ∧
      seqs.length = (eventRows ++ removals).length ∧
      e .events = d .events ++
        (signedPairs (eventRows ++ removals) seqs).map SignedEventRow.stored := by
  obtain ⟨_, d₁, hfeed, h⟩ := bind_ok (transaction_ok.mp h)
  obtain ⟨_, d₂, hsets, h⟩ := bind_ok h
  rw [read_bind_run] at h
  obtain ⟨_, d₃, htracks, h⟩ := bind_ok h
  obtain ⟨_, d₄, hstale, h⟩ := bind_ok h
  obtain ⟨seqs', d₅, hevents, h⟩ := bind_ok h
  obtain ⟨_, d₆, hsync, h⟩ := bind_ok h
  -- the tracks are the ones of the start when the GUIDs are read
  have hsameTracks : d₂ .tracks = d .tracks :=
    ((replaceFeedSets_writes .tracks (by decide)).run hsets).trans
      ((writeFeed_writes .tracks (by decide)).run hfeed)
  have hguids : staleTrackGuids d₂ c = staleTrackGuids d c := by
    unfold staleTrackGuids getTracksForFeed
    rw [hsameTracks]
  have hlog : d₄ .events = d .events := by
    have h₁ := (leaves_events writeFeed_writes (by decide)).run hfeed
    have h₂ := (leaves_events replaceFeedSets_writes (by decide)).run hsets
    have h₃ := (leaves_events (Writes.forEach fun _ => writeTrack_writes) (by decide)).run htracks
    have h₄ := (leaves_events (Writes.forEach fun _ => removeStaleTrack_writes)
      (by decide)).run hstale
    rw [h₄, h₃, h₂, h₁]
  obtain ⟨added, hadded, hlen, hrows⟩ := insertEvents_appends env.signer _ d₄ seqs' d₅ hevents
  have hend : seqs' = seqs ∧ e .events = d₅ .events := by
    have h₆ := (leaves_events syncSourceReadModelsForFeed_writes (by decide)).run hsync
    cases feedMove with
    | none =>
      cases h
      exact ⟨rfl, h₆⟩
    | some mv =>
      obtain ⟨_, d₇, hmove, h⟩ := bind_ok h
      cases h
      exact ⟨rfl, ((leaves_events writeFeedMove_writes (by decide)).run hmove).trans h₆⟩
  obtain ⟨rfl, hlast⟩ := hend
  refine ⟨_, ?_, ?_, hlen, ?_⟩
  · rw [assignIds, List.length_map, List.length_zipIdx, List.length_map,
      (orderBy_perm _ _).length_eq, hguids]
  · apply forall_assignIds
    intro draft hdraft eventId
    obtain ⟨trackGuid, -, rfl⟩ := List.mem_map.mp hdraft
    rfl
  · rw [hlast, hadded, hlog]
    rw [List.nil_append] at hrows
    rw [hrows]

/-- The tracks that the submission brings: a list feed has none. -/
def bodyTracks (feedData : IngestFeedData) : List IngestTrackData :=
  if Stophammer.isMusicl feedData.rawMedium then [] else feedData.tracks

/-- Every stored track of the feed is in the submission. -/
def keepsEveryTrack (d : Db) (feedData : IngestFeedData) : Bool :=
  (getTracksForFeed d feedData.feedGuid).all fun stored =>
    (bodyTracks feedData).any fun t => t.trackGuid == stored.trackGuid

theorem staleTrackGuids_eq_nil {d : Db} {input : BuildInput} :
    staleTrackGuids d input.content = [] ↔ keepsEveryTrack d input.feedData = true := by
  have hbody : ∀ trackGuid : String,
      (input.content.tracks.any fun t => t.track.trackGuid == trackGuid) =
        (bodyTracks input.feedData).any fun t => t.trackGuid == trackGuid := by
    intro trackGuid
    change ((bodyTracks input.feedData).map input.trackBundle).any _ = _
    rw [List.any_map]
    rfl
  have hfeed : input.content.feed.feedGuid = input.feedData.feedGuid := rfl
  unfold staleTrackGuids keepsEveryTrack
  rw [List.filter_eq_nil_iff, List.all_eq_true, hfeed]
  simp only [List.mem_map, hbody, Bool.not_eq_true', Bool.not_eq_false, forall_exists_index,
    and_imp, forall_apply_eq_imp_iff₂]

theorem guidChangeTransition_tracks {signer : NodeSigner} {uuid : Nat → String}
    {oldGuid newGuid sourceUrl : String} {now : Int} {d e : Db} {rows : List SignedEventRow}
    (h : guidChangeTransition signer uuid oldGuid newGuid sourceUrl now d = (.ok rows, e)) :
    (e .tracks).Sublist (d .tracks) := by
  obtain ⟨_, d₁, hdelete, h⟩ := bind_ok (transaction_ok.mp h)
  have hshrinks := @deleteFeedSql_shrinks _ oldGuid d .tracks
  rw [hdelete] at hshrinks
  obtain ⟨retired, d₂, hretired, h⟩ := bind_ok h
  obtain ⟨_, d₃, hsupersede, h⟩ := bind_ok h
  obtain ⟨superseded, d₄, hsuperseded, h⟩ := bind_ok h
  have hinsert : Writes (S := schema) [Table.feedGuidSupersessions]
      (insertGuidSupersession oldGuid newGuid sourceUrl now) :=
    (Writes.insertOrIgnore (by decide)).bind fun _ => Writes.pure ()
  have hmarks : d₄ .tracks = d₁ .tracks :=
    ((signEventRow_writes .tracks (by decide)).run hsuperseded).trans <|
      ((hinsert .tracks (by decide)).run hsupersede).trans <|
        (signEventRow_writes .tracks (by decide)).run hretired
  have hlast : e .tracks = d₄ .tracks := by
    rw [read_bind_run] at h
    cases hrow : getGuidChange d₄ sourceUrl with
    | none =>
      rw [hrow] at h
      cases h
      rfl
    | some row =>
      rw [hrow] at h
      obtain ⟨_, d₅, hclear, h⟩ := bind_ok h
      obtain ⟨marker, d₆, hmarker, h⟩ := bind_ok h
      cases h
      have hcleared : Writes (S := schema) [Table.feedGuidChanges] (deleteGuidChange sourceUrl) :=
        Writes.delete (by decide)
      exact ((signEventRow_writes .tracks (by decide)).run hmarker).trans <|
        (hcleared .tracks (by decide)).run hclear
  rw [hlast, hmarks]
  exact hshrinks

/-- The tracks that are stale for the transaction are those that are stale at the start:
a transition only takes rows of the old GUID away. -/
theorem runTransition_keepsEveryTrack {env : IngestEnv} {req : IngestFeedRequest}
    {feedData : IngestFeedData} {heldGuid : Option String} {d e : Db}
    {rows : List SignedEventRow}
    (hunheld : ∀ guid, heldGuid = some guid → getFeedByGuid d feedData.feedGuid = none)
    (h : runTransition env req feedData heldGuid d = (.ok rows, e)) :
    keepsEveryTrack e feedData = keepsEveryTrack d feedData := by
  cases heldGuid with
  | none =>
    cases h
    rfl
  | some guid =>
    have hd : getTracksForFeed d feedData.feedGuid = [] :=
      getTracksForFeed_unindexed (hunheld guid rfl)
    have hsub : (getTracksForFeed e feedData.feedGuid).Sublist
        (getTracksForFeed d feedData.feedGuid) :=
      (guidChangeTransition_tracks (mapError_ok.mp h)).filter _
    rw [hd, List.sublist_nil] at hsub
    rw [keepsEveryTrack, keepsEveryTrack, hd, hsub]

omit [Platform] in
theorem writeDeclarations_leaves {feedData : IngestFeedData} {isMove : Bool} :
    Leaves (fun d : Db => d .events) (writeDeclarations feedData isMove) := by
  have hfeeds : ∀ {x : Stmt Unit}, Writes (S := schema) [Table.feeds, .feedMoveState] x →
      Leaves (fun d : Db => d .events) (dbStep x) :=
    fun hx => dbStep_leaves (leaves_events hx (by decide))
  apply (hfeeds (Writes.update (by decide))).bind
  intro _
  apply (hfeeds (Writes.update (by decide))).bind
  intro _
  exact Leaves.ite (Leaves.pure ()) (hfeeds (Writes.update (by decide)))

theorem runTransition_appends {env : IngestEnv} {req : IngestFeedRequest}
    {feedData : IngestFeedData} {heldGuid : Option String} :
    Appends (S := schema) .events [] (runTransition env req feedData heldGuid)
      fun signed rows => rows = signed.map SignedEventRow.stored := by
  cases heldGuid with
  | none => exact Appends.pure rfl
  | some guid => exact guidChangeTransition_signs.mapError

theorem admitContent_log {env : IngestEnv} {req : IngestFeedRequest} {feedData : IngestFeedData}
    {admission : Admission} {d e : Db} {out : IngestOutput}
    (hunheld : ∀ guid, admission.pendingGuidTransition = some guid →
      getFeedByGuid d feedData.feedGuid = none)
    (h : admitContent env req feedData admission d = (.ok out, e)) :
    ∃ before removals after : List StoredEvent,
      e .events = d .events ++ (before ++ removals ++ after) ∧
      (admission.prefixEvents.map SignedEventRow.stored ++ before ++ after).mapM eventOfRow =
        .ok out.fanoutEvents ∧
      (removals = [] ↔ keepsEveryTrack d feedData = true) := by
  unfold admitContent at h
  rw [read_bind_run] at h
  set input := buildInput env req feedData d admission.recordMove with hinput
  by_cases hcount : maxTracksPerIngest < input.tracks.length
  · rw [if_pos hcount] at h
    cases h
  · rw [if_neg hcount, read_bind_run, read_bind_run] at h
    set eventRows := assignIds (env.uuid .content)
      (buildDiffEvents d input.content input.now (contentWarnings feedData input admission))
    obtain ⟨transitionRows, d₁, htransition, h⟩ := bind_ok h
    obtain ⟨seqs, d₂, hcontent, h⟩ := bind_ok h
    obtain ⟨_, d₃, hdeclare, h⟩ := bind_ok h
    obtain ⟨observations, d₄, hobserve, h⟩ := bind_ok h
    obtain ⟨_, d₅, hcache, h⟩ := bind_ok h
    obtain ⟨events, d₆, hevents, hpure⟩ := bind_ok h
    obtain ⟨hsame, hdecode⟩ := signedRowsToEvents_run hevents
    subst hsame
    cases hpure
    obtain ⟨rows₁, hrows₁, htransitionRows⟩ :=
      runTransition_appends d transitionRows d₁ htransition
    obtain ⟨removals, hremovals, -, hlen, hrows₂⟩ := ingestTransaction_log (mapError_ok.mp hcontent)
    obtain ⟨rows₄, hrows₄, hobservations⟩ :=
      recordFeedUrlObservationsForIngest_signs.mapError d₃ observations d₄ hobserve
    have hrows₃ : d₃ .events = d₂ .events := writeDeclarations_leaves.run hdeclare
    have hcacheWrites : Writes (S := schema) [Table.feedCrawlCache]
        (upsertFeedCrawlCache req.canonicalUrl req.contentHash input.now) :=
      Writes.upsert (by decide)
    have hrows₅ := (dbStep_leaves (leaves_events hcacheWrites (by decide))).run hcache
    rw [List.nil_append] at htransitionRows hobservations
    rw [List.length_append] at hlen
    rw [signedPairs_append (by omega)] at hrows₂
    refine ⟨rows₁ ++ (signedPairs eventRows seqs).map SignedEventRow.stored,
      (signedPairs removals (seqs.drop eventRows.length)).map SignedEventRow.stored, rows₄,
      ?_, ?_, ?_⟩
    · simp only at hrows₅
      rw [hrows₅, hrows₄, hrows₃, hrows₂, hrows₁, List.map_append]
      simp only [List.append_assoc]
    · rw [htransitionRows, hobservations, acceptedOutput, ← hdecode]
      simp only [List.map_append, List.append_assoc]
    · rw [← runTransition_keepsEveryTrack hunheld htransition]
      have hstale : staleTrackGuids d₁ input.content = [] ↔ keepsEveryTrack d₁ feedData = true :=
        staleTrackGuids_eq_nil
      rw [← List.length_eq_zero_iff, ← hremovals] at hstale
      rw [← List.length_eq_zero_iff, List.length_map, signedPairs_length, List.length_drop, ← hstale]
      omega

theorem handleSourceGoneReport_refused {env : IngestEnv} {req : IngestFeedRequest} {d e : Db}
    {out : IngestOutput} (h : handleSourceGoneReport env req d = (.ok out, e)) :
    out.response.accepted = false := by
  unfold handleSourceGoneReport at h
  rw [read_bind_run] at h
  by_cases hblock : (findFeedBlock d none [req.sourceUrl, req.canonicalUrl]).isSome = true
  · rw [if_pos hblock] at h
    cases h
    rfl
  · rw [if_neg hblock, read_bind_run] at h
    cases hguid : (if sourceGoneReportCounts req env.sourceGoneHosts = true then
        feedGuidForSourceUrl d req.sourceUrl else none) with
    | none =>
      rw [hguid] at h
      cases h
      rfl
    | some feedGuid =>
      rw [hguid] at h
      simp only [read_bind_run] at h
      split at h
      · obtain ⟨events, d₁, -, hpure⟩ := bind_ok h
        cases hpure
        rfl
      · obtain ⟨_, d₁, -, hpure⟩ := bind_ok h
        cases hpure
        rfl

theorem ExactFanout.of_append {d e : Db} {rows : List StoredEvent} {events : List Event}
    (hrows : e .events = d .events ++ rows) :
    ExactFanout d e events ↔ rows.mapM eventOfRow = .ok events := by
  constructor
  · rintro ⟨rows', hrows', hdecode⟩
    rw [hrows, List.append_cancel_left_eq] at hrows'
    rwa [hrows']
  · intro hdecode
    exact ⟨rows, hrows, hdecode⟩

theorem writePhase_exact_iff {env : IngestEnv} {req : IngestFeedRequest}
    {warnings : List String} {d e : Db} {out : IngestOutput}
    (h : writePhase env req warnings d = (.ok out, e)) (haccepted : out.response.accepted = true) :
    ExactFanout d e out.fanoutEvents ↔
      ∀ feedData, req.feedData = some feedData → keepsEveryTrack d feedData = true := by
  unfold writePhase at h
  cases hdata : req.feedData with
  | none =>
    rw [hdata] at h
    cases h
  | some feedData =>
    rw [hdata] at h
    obtain ⟨decision, d₁, hdecide, hrest⟩ := bind_ok h
    have hdecided := decideCase_decided hdecide
    cases decision with
    | answer output =>
      cases hrest
      rw [hdecided] at haccepted
      cases haccepted
    | admitted admission =>
      have hkeeps : keepsEveryTrack d₁ feedData = keepsEveryTrack d feedData := by
        have hsame := hdecided.frame .tracks (by decide)
        rw [keepsEveryTrack, keepsEveryTrack, getTracksForFeed, getTracksForFeed, hsame]
      have hunheld : ∀ guid, admission.pendingGuidTransition = some guid →
          getFeedByGuid d₁ feedData.feedGuid = none := by
        intro guid hguid
        have hsame := hdecided.frame .feeds (by decide)
        rw [getFeedByGuid, hsame]
        exact hdecided.unheld guid hguid
      obtain ⟨before, removals, after, hlog, hdecode, hremovals⟩ := admitContent_log hunheld hrest
      have hrows : e .events = d .events ++
          (admission.prefixEvents.map SignedEventRow.stored ++ (before ++ removals ++ after)) := by
        rw [hlog, hdecided.log, List.append_assoc]
      rw [ExactFanout.of_append hrows]
      constructor
      · intro hall feedData' hsome
        cases hsome
        rw [← hkeeps, ← hremovals]
        -- both lists decode to the same events, so they have one length
        have hlen := congrArg List.length
          ((mapM_eventOfRow hall).symm.trans (mapM_eventOfRow hdecode))
        simp only [List.length_append] at hlen
        apply List.eq_nil_of_length_eq_zero
        omega
      · intro hall
        have hnil : removals = [] := hremovals.mpr (hkeeps.trans (hall feedData rfl))
        rw [hnil, List.append_nil, ← List.append_assoc]
        exact hdecode

/-- The fan-out of an accepted submission is the rows it added to the log exactly when
its body did not change or has every stored track. -/
theorem fanout_exact_iff {env : IngestEnv} {snapshot d : Db} {req : IngestFeedRequest}
    {out : IngestOutput} (h : (handleIngestFeed env snapshot req d).1 = .ok out)
    (haccepted : out.response.accepted = true) :
    ExactFanout d (handleIngestFeed env snapshot req d).2 out.fanoutEvents ↔
      readPhase env snapshot req = .noChange ∨
        ∀ feedData, req.feedData = some feedData → keepsEveryTrack d feedData = true := by
  obtain ⟨e, hrun⟩ : ∃ e, handleIngestFeed env snapshot req d = (.ok out, e) :=
    ⟨_, Prod.ext h rfl⟩
  rw [hrun]
  unfold handleIngestFeed at hrun
  cases hauth : env.chain.authenticate req with
  | some reason =>
    rw [hauth] at hrun
    cases hrun
    cases haccepted
  | none =>
    rw [hauth] at hrun
    simp only at hrun
    by_cases hgone : isGoneReport req = true
    · rw [if_pos hgone] at hrun
      have hrefused := handleSourceGoneReport_refused hrun
      rw [hrefused] at haccepted
      cases haccepted
    · rw [if_neg hgone] at hrun
      cases hphase : readPhase env snapshot req with
      | rejected reason =>
        rw [hphase] at hrun
        cases hrun
        cases haccepted
      | noChange =>
        rw [hphase] at hrun
        exact iff_of_true (handleNoChange_exact hrun) (.inl rfl)
      | verified warnings =>
        rw [hphase] at hrun
        simp only [reduceCtorEq, false_or]
        exact writePhase_exact_iff hrun haccepted

end

section Sample

attribute [local instance] samplePlatform

def sampleFeed : Feed where
  feedGuid := "f1"
  feedUrl := sampleUrl
  title := "a"
  titleLower := "a"
  description := none
  imageUrl := none
  publisher := none
  language := none
  explicit := false
  itunesType := none
  releaseArtist := some "Unknown Artist"
  releaseArtistSort := none
  releaseDate := none
  releaseKind := some "unknown"
  episodeCount := 1
  newestItemAt := none
  oldestItemAt := none
  createdAt := 1
  updatedAt := 1
  rawMedium := none
  lastBuildDate := none
  releaseArtistSource := some "placeholder"

def sampleTrack : Track where
  trackGuid := "t1"
  feedGuid := "f1"
  title := "b"
  titleLower := "b"
  pubDate := none
  durationSecs := none
  enclosureUrl := none
  enclosureType := none
  enclosureBytes := none
  trackNumber := none
  season := none
  imageUrl := none
  publisher := none
  language := none
  explicit := false
  description := none
  trackArtist := some "Unknown Artist"
  trackArtistSort := none
  createdAt := 1
  updatedAt := 1

def sampleContents : Contents schema
  | .feeds =>
    [{ feed := sampleFeed
       declaredSelfUrl := none
       declaredNewFeedUrl := none
       podcastLocked := none
       lockedOwner := none
       titleSort := some "a"
       feedHost := some "a.example" }]
  | .tracks => [sampleTrack]
  | .feedUrlObservations => [{ url := sampleUrl, feedGuid := "f1", observedAt := 1 }]
  | _ => []

/-- A primary with one feed of one track. -/
def sampleDb : Db where
  contents := sampleContents
  valid := by decide +kernel

def sampleBody (feedGuid : String) (liveItems : List IngestLiveItemData) : IngestFeedData where
  feedGuid := feedGuid
  title := "a"
  description := none
  imageUrl := none
  language := none
  explicit := false
  itunesType := none
  rawMedium := none
  authorName := none
  ownerName := none
  pubDate := none
  lastBuildDate := none
  newFeedUrl := none
  locked := none
  lockedOwner := none
  remoteItems := []
  persons := []
  entityIds := []
  links := []
  feedPaymentRoutes := []
  liveItems := liveItems
  blocks := []
  tracks := []

/-- A submission of a body with no tracks from the sample URL. -/
def sampleRequest (feedGuid : String) (liveItems : List IngestLiveItemData) :
    IngestFeedRequest where
  canonicalUrl := sampleUrl
  sourceUrl := sampleUrl
  crawlToken := "t"
  httpStatus := 200
  contentHash := "h"
  feedData := some (sampleBody feedGuid liveItems)
  forceReingest := false
  redirects := []

def sampleEnv : IngestEnv where
  signer := sampleSigner
  hashRank _ := 0
  chain := { crawlToken := "t", verifiers := [] }
  sourceGoneHosts := []
  now _ := 5
  uuid
    | .staleTracks, _ => "e5"
    | .guidTransition, 0 => "e6"
    | .guidTransition, _ => "e7"
    | _, index => "n" ++ toString index

/-- The sample feed loses its track. -/
def withoutTracks : IngestFeedRequest := sampleRequest "f1" []

theorem withoutTracks_output :
    (handleIngestFeed sampleEnv sampleDb withoutTracks sampleDb).1 =
      .ok (acceptedOutput [] [] [] []) := by
  decide +kernel

theorem withoutTracks_log :
    (handleIngestFeed sampleEnv sampleDb withoutTracks sampleDb).2 .events =
      sampleDb .events ++ [logRow sampleTrackRemoved] := by
  decide +kernel

/-- The row of the removed track stays out of the fan-out. -/
theorem fanout_without_removal :
    ¬ ∀ (env : IngestEnv) (snapshot d : Db) (req : IngestFeedRequest) (out : IngestOutput),
      (handleIngestFeed env snapshot req d).1 = .ok out → out.response.accepted = true →
        ExactFanout d (handleIngestFeed env snapshot req d).2 out.fanoutEvents := by
  intro hall
  have hexact := hall sampleEnv sampleDb sampleDb withoutTracks _ withoutTracks_output rfl
  rw [ExactFanout.of_append withoutTracks_log] at hexact
  have hrows := mapM_eventOfRow hexact
  cases hrows

theorem fanout_exact_iff_withoutTracks :
    (acceptedOutput [] [] [] []).response.accepted = true ∧
      (ExactFanout sampleDb (handleIngestFeed sampleEnv sampleDb withoutTracks sampleDb).2 [] ↔
        readPhase sampleEnv sampleDb withoutTracks = .noChange ∨
          ∀ feedData, withoutTracks.feedData = some feedData →
            keepsEveryTrack sampleDb feedData = true) :=
  ⟨rfl, fanout_exact_iff withoutTracks_output rfl⟩

end Sample

end Stophammer
