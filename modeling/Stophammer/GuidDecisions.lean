import Mathlib.Logic.Relation
import Stophammer.PendingRow
import Stophammer.Recording
import Stophammer.Replay

/-!
# Decisions about GUID changes

A rejection holds for its pair of source URL and new GUID while the source declares no other
GUID.  The events about the rows give each replica the decision, so it gives the same answer.
-/

namespace Stophammer

open Relational Statement

section

variable [Platform] {d e : Db} {url guid : String}

/-- The row of the URL holds a rejection of the GUID. -/
def Rejects (d : Db) (url guid : String) : Prop :=
  ∃ row, getGuidChange d url = some row ∧ row.newGuid = guid ∧ row.decision = some "reject"

/-- No pending GUID is the UUIDv5 of its URL. -/
def NoOriginPending (d : Db) : Prop :=
  ∀ url row, getGuidChange d url = some row → guidOriginMatches row.newGuid url = false

/-- A submission from the URL declares this GUID, and it is not the GUID of the record. -/
def Operation.Declares (url guid : String) (d : Db) (operation : Operation) : Prop :=
  ∀ env snapshot req body, operation = .ingest env snapshot req → Verified env snapshot req body →
    req.sourceUrl = url → body.feedGuid = guid ∧
      classifySubmission d body.feedGuid req.sourceUrl req.canonicalUrl ≠ .update

/-- The operator decides about no row of the URL. -/
def Operation.Undecided (url : String) (d : Db) (operation : Operation) : Prop :=
  ∀ env oldGuid decision reason row,
    operation = .admin env true (.decideGuidChange oldGuid decision reason) →
      getGuidChangeForOldGuid d oldGuid = some row → row.sourceUrl ≠ url

omit [Platform] in
theorem observedRow_newGuid {row : Option GuidChangeRow} {oldGuid newGuid : String} {now : Int} :
    (observedRow row url oldGuid newGuid now).newGuid = newGuid := by
  cases row with
  | none => rfl
  | some r =>
    rw [observedRow]
    split
    · rename_i hguid
      exact beq_iff_eq.mp hguid
    · rfl

theorem Operation.keeps_noOriginPending (operation : Operation) (h : NoOriginPending d) :
    NoOriginPending (operation.next d) := by
  intro url row hrow
  have hchange := operation.rowChange d url
  rw [hrow] at hchange
  generalize hsome : some row = row' at hchange
  cases hchange with
  | same => exact h url row hsome.symm
  | observed verified held waits source unrejected =>
    cases hsome
    rw [observedRow_newGuid, ← source]
    simp only [transitionAllowed, Bool.or_eq_false_iff] at waits
    exact waits.1
  | returned => cases hsome
  | superseded => cases hsome
  | @decided _ _ _ _ row' found source =>
    cases hsome
    have hfound : getGuidChange d url = some row' := source ▸ getGuidChangeForOldGuid_row found
    exact h url row' hfound

theorem Rejects.next {operation : Operation} (h : Rejects d url guid) (hd : NoOriginPending d)
    (hdeclares : operation.Declares url guid d) (hundecided : operation.Undecided url d) :
    Rejects (operation.next d) url guid := by
  obtain ⟨row, hrow, hguid, hreject⟩ := h
  have hchange := operation.rowChange d url
  rw [Rejects]
  generalize getGuidChange (operation.next d) url = row' at hchange
  cases hchange with
  | same => exact ⟨row, hrow, hguid, hreject⟩
  | observed verified held waits source unrejected =>
    have hsame := (hdeclares _ _ _ _ rfl verified source).1
    rw [hrow] at unrejected
    simp [isRejected, hguid, hreject, hsame] at unrejected
  | returned verified update current listed source =>
    exact absurd update (hdeclares _ _ _ _ rfl verified source).2
  | @superseded env snapshot req body heldGuid reaches held source =>
    have hsame := (hdeclares _ _ _ _ rfl
      ⟨reaches.authentic, reaches.verified, reaches.carries⟩ source).1
    have hallowed := reaches.admits
    rw [admitsContent, held] at hallowed
    have horigin : guidOriginMatches guid url = false := hguid ▸ hd url row hrow
    simp [transitionAllowed, isApproved, source, hsame, horigin, hrow, hreject] at hallowed
  | decided found source => exact absurd source (hundecided _ _ _ _ _ rfl found)

/-- A later state: each operation on the way keeps to `ok`. -/
def Later (ok : Db → Operation → Prop) : Db → Db → Prop :=
  Relation.ReflTransGen fun s t => ∃ operation : Operation, ok s operation ∧ t = operation.next s

theorem Rejects.later (h : Rejects d url guid) (hd : NoOriginPending d)
    (hlater : Later (fun s operation => operation.Declares url guid s ∧ operation.Undecided url s)
      d e) : Rejects e url guid ∧ NoOriginPending e := by
  induction hlater with
  | refl => exact ⟨h, hd⟩
  | tail _ hstep ih =>
    obtain ⟨operation, ⟨hdeclares, hundecided⟩, rfl⟩ := hstep
    exact ⟨ih.1.next ih.2 hdeclares hundecided, operation.keeps_noOriginPending ih.2⟩

theorem Rejects.answer {env : IngestEnv} {snapshot : Db} {req : IngestFeedRequest}
    {body : IngestFeedData} {heldGuid : String} (h : Rejects d req.sourceUrl body.feedGuid)
    (hd : NoOriginPending d) (hbody : req.feedData = some body)
    (hclass : classifySubmission d body.feedGuid req.sourceUrl req.canonicalUrl =
      .guidChange heldGuid) :
    ∃ reason, handleIngestFeed env snapshot req d = (.ok (refused reason [] []), d) ∧
      (Verified env snapshot req body → reason = "guid_change_rejected") := by
  obtain ⟨row, hrow, hguid, hreject⟩ := h
  have hgone : isGoneReport req = false := by simp [isGoneReport, hbody]
  unfold handleIngestFeed
  cases hauth : env.chain.authenticate req with
  | some reason => exact ⟨reason, rfl, fun hv => by rw [hv.authentic] at hauth; cases hauth⟩
  | none =>
    simp only [hgone, Bool.false_eq_true, if_false]
    cases hphase : readPhase env snapshot req with
    | rejected reason =>
      refine ⟨reason, rfl, fun hv => ?_⟩
      obtain ⟨warnings, hverified⟩ := hv.verified
      rw [hphase] at hverified
      cases hverified
    | noChange =>
      refine ⟨"guid_change_pending", ?_, fun hv => ?_⟩
      · simp only [handleNoChange, hbody]
        rw [read_bind_run, hclass]
        rfl
      · obtain ⟨warnings, hverified⟩ := hv.verified
        rw [hphase] at hverified
        cases hverified
    | verified warnings =>
      refine ⟨"guid_change_rejected", ?_, fun _ => rfl⟩
      have horigin := hd _ _ hrow
      rw [hguid] at horigin
      have hwaits : transitionAllowed req body d = false := by
        simp [transitionAllowed, isApproved, hrow, hreject, horigin]
      have hpending : recordGuidChangePendingForIngest env.signer (env.uuid .guidPending 0)
          req.sourceUrl heldGuid body.feedGuid (env.now .guidPending) d = (.ok .rejected, d) := by
        unfold recordGuidChangePendingForIngest
        rw [read_bind_run, if_pos (by simp [hrow, hguid, hreject])]
        rfl
      have hdecide : decideCase env req body warnings d =
          (.ok (.answer (refused "guid_change_rejected" [] [])), d) := by
        have hstep : dbStep (recordGuidChangePendingForIngest env.signer (env.uuid .guidPending 0)
            req.sourceUrl heldGuid body.feedGuid (env.now .guidPending)) d = (.ok .rejected, d) :=
          mapError_ok.mpr hpending
        unfold decideCase decideGuidChange
        rw [read_bind_run, hclass]
        simp only
        rw [read_bind_run, if_neg (by simp [hwaits]), bind_run_ok hstep]
        rfl
      simp only [writePhase, hbody]
      rw [bind_run_ok hdecide]
      rfl

/-- What the nodes share of a row.  The old GUID is not part of it: another observation of the
same new GUID can change it with no event. -/
structure SharedChange where
  newGuid : String
  firstSeen : Int
  decision : Option String
  decisionReason : Option String
  decidedAt : Option Int
deriving DecidableEq

/-- The shared rows by URL. -/
abbrev SharedChanges : Type := String → Option SharedChange

def GuidChangeRow.shared (row : GuidChangeRow) : SharedChange where
  newGuid := row.newGuid
  firstSeen := row.firstSeen
  decision := row.decision
  decisionReason := row.decisionReason
  decidedAt := row.decidedAt

def sharedChanges (d : Db) : SharedChanges := fun url =>
  (getGuidChange d url).map GuidChangeRow.shared

namespace SharedChange

/-- A row that has this new GUID stays. -/
def observed (row : Option SharedChange) (newGuid : String) (firstSeen : Int) : SharedChange :=
  (row.filter fun r => r.newGuid == newGuid).getD
    { newGuid := newGuid
      firstSeen := firstSeen
      decision := none
      decisionReason := none
      decidedAt := none }

def decided (row : SharedChange) (decision reason : String) (decidedAt : Int) : SharedChange :=
  { row with
    decision := some decision
    decisionReason := some reason
    decidedAt := some decidedAt }

end SharedChange

/-- What the event of the payload makes of the rows. -/
def SharedChanges.replay (rows : SharedChanges) : EventPayload → SharedChanges
  | .feedGuidChangeObserved p =>
    Function.update rows p.sourceUrl
      (if p.newGuid == p.oldGuid then none
        else some (SharedChange.observed (rows p.sourceUrl) p.newGuid p.firstSeen))
  | .feedGuidChangeDecided p =>
    Function.update rows p.sourceUrl
      ((rows p.sourceUrl).map fun row => row.decided p.decision p.reason p.decidedAt)
  | _ => rows

def SharedChanges.replayAll (rows : SharedChanges) (payloads : List EventPayload) : SharedChanges :=
  payloads.foldl SharedChanges.replay rows

omit [Platform] in
theorem SharedChanges.replay_other {rows : SharedChanges} {payload : EventPayload}
    (h : payload.eventType ∉ guidChangeTypes) : rows.replay payload = rows := by
  cases payload with
  | feedGuidChangeObserved p => exact absurd List.mem_cons_self h
  | feedGuidChangeDecided p => exact absurd (List.mem_cons_of_mem _ List.mem_cons_self) h
  | _ => rfl

omit [Platform] in
theorem observedRow_shared {row : Option GuidChangeRow} {oldGuid newGuid : String} {now : Int} :
    (observedRow row url oldGuid newGuid now).shared =
      SharedChange.observed (row.map GuidChangeRow.shared) newGuid now := by
  cases row with
  | none => rfl
  | some r =>
    by_cases hguid : (r.newGuid == newGuid) = true
    · simp [observedRow, SharedChange.observed, hguid, GuidChangeRow.shared, Option.filter]
    · simp [observedRow, SharedChange.observed, hguid, GuidChangeRow.shared, Option.filter]

/-- The decision of the payload is one that the table takes. -/
def EventPayload.DecidesOneOf : EventPayload → Prop
  | .feedGuidChangeDecided p => p.decision ∈ ["approve", "reject"]
  | _ => True

/-- The events of the log give the rows. -/
def Replays (d : Db) : Prop :=
  ∃ payloads, List.Forall₂ Carries (guidRows d) payloads ∧
    (∀ payload ∈ payloads, payload.DecidesOneOf) ∧
      sharedChanges d = SharedChanges.replayAll (fun _ => none) payloads

theorem Replays.of_quiet (hquiet : Quiet d e) (h : Replays d) : Replays e := by
  obtain ⟨payloads, hcarries, hdecides, hrows⟩ := h
  refine ⟨payloads, by rwa [hquiet.log], hdecides, ?_⟩
  rw [← hrows]
  funext url
  rw [sharedChanges, sharedChanges, hquiet.getGuidChange]

theorem Replays.guidStep {sourceUrl : String} {row : Option GuidChangeRow}
    {payloads : List EventPayload} (h : Replays d) (hstep : GuidStep d e sourceUrl row payloads)
    (hdecides : ∀ payload ∈ payloads, payload.DecidesOneOf)
    (hshared : (sharedChanges d).replayAll payloads =
      Function.update (sharedChanges d) sourceUrl (row.map GuidChangeRow.shared)) : Replays e := by
  obtain ⟨before, hcarries, hbefore, hrows⟩ := h
  obtain ⟨signed, hlog, hsigned⟩ := hstep.log
  refine ⟨before ++ payloads, by rw [hlog]; exact List.rel_append hcarries hsigned, ?_, ?_⟩
  · intro payload hpayload
    rcases List.mem_append.mp hpayload with hold | hnew
    · exact hbefore payload hold
    · exact hdecides payload hnew
  rw [SharedChanges.replayAll, List.foldl_append]
  change _ = SharedChanges.replayAll (SharedChanges.replayAll _ before) payloads
  rw [← hrows, hshared]
  funext url
  rw [sharedChanges, hstep.rows]
  by_cases hurl : url = sourceUrl
  · rw [if_pos hurl, hurl, Function.update_self]
  · rw [if_neg hurl, Function.update_of_ne hurl]
    rfl

omit [Platform] in
theorem replayAll_observed {oldGuid newGuid : String} {now : Int} (hne : newGuid ≠ oldGuid) :
    (sharedChanges d).replayAll (if isNewChange (getGuidChange d url) newGuid then
        [observedPayload url oldGuid newGuid now] else []) =
      Function.update (sharedChanges d) url
        (some (observedRow (getGuidChange d url) url oldGuid newGuid now).shared) := by
  rw [observedRow_shared]
  cases hnew : isNewChange (getGuidChange d url) newGuid with
  | true =>
    have hdiffer : (newGuid == oldGuid) = false := by simpa using hne
    simp only [if_true, SharedChanges.replayAll, List.foldl_cons, List.foldl_nil, observedPayload,
      SharedChanges.replay, hdiffer, Bool.false_eq_true, if_false]
    rfl
  | false =>
    cases hrow : getGuidChange d url with
    | none =>
      rw [hrow] at hnew
      cases hnew
    | some r =>
      have hguid : r.newGuid = newGuid := by simpa [isNewChange, hrow] using hnew
      have hkept : SharedChange.observed ((some r).map GuidChangeRow.shared) newGuid now =
          r.shared := by simp [SharedChange.observed, Option.filter, GuidChangeRow.shared, hguid]
      have hshared : sharedChanges d url = some r.shared := by rw [sharedChanges, hrow]; rfl
      simp only [Bool.false_eq_true, if_false, SharedChanges.replayAll, List.foldl_nil, hkept]
      rw [← hshared, Function.update_eq_self]

omit [Platform] in
theorem replayAll_marker {guid : String} {now : Int} :
    (sharedChanges d).replayAll [observedPayload url guid guid now] =
      Function.update (sharedChanges d) url ((none : Option GuidChangeRow).map
        GuidChangeRow.shared) := by
  simp [SharedChanges.replayAll, observedPayload, SharedChanges.replay]

omit [Platform] in
theorem replayAll_decided {row : GuidChangeRow} {decision reason : String} {now : Int}
    (hrow : getGuidChange d row.sourceUrl = some row) :
    (sharedChanges d).replayAll [decidedPayload row decision reason now] =
      Function.update (sharedChanges d) row.sourceUrl
        ((some (row.decided decision reason now)).map GuidChangeRow.shared) := by
  have hshared : sharedChanges d row.sourceUrl = some row.shared := by
    rw [sharedChanges, hrow]
    rfl
  simp only [SharedChanges.replayAll, List.foldl_cons, List.foldl_nil, decidedPayload,
    SharedChanges.replay, hshared, Option.map_some]
  rfl

omit [Platform] in
theorem decidesOneOf_observed {payloads : List EventPayload}
    (h : ∀ payload ∈ payloads, payload.eventType = .feedGuidChangeObserved) :
    ∀ payload ∈ payloads, payload.DecidesOneOf := by
  intro payload hpayload
  have htype := h payload hpayload
  cases payload with
  | feedGuidChangeDecided p => cases htype
  | _ => trivial

theorem decidesOneOf_decided {row : GuidChangeRow} {decision reason : String} {now : Int}
    {payloads : List EventPayload}
    (hstep : GuidStep d e row.sourceUrl (some (row.decided decision reason now)) payloads) :
    (decidedPayload row decision reason now).DecidesOneOf := by
  have hrow : getGuidChange e row.sourceUrl = some (row.decided decision reason now) := by
    rw [hstep.rows, if_pos rfl]
  have hcheck := e.valid.checked .feedGuidChanges _ (List.mem_of_find?_eq_some hrow)
  simpa [schema, Table.check, GuidChangeRow.decided, EventPayload.DecidesOneOf, decidedPayload]
    using hcheck

theorem Operation.keeps_replays (operation : Operation) (d : Db) :
    Keeps Replays d (operation.next d) := by
  apply operation.pending_steps (R := Keeps Replays)
  · exact fun s t hquiet h => h.of_quiet hquiet
  · intro env snapshot req body _ _ _ _ _ h
    rcases recordGuidChangeReturnForIngest_guidStep d env.signer (env.uuid .guidReturn 0)
      req.sourceUrl body.feedGuid (env.now .guidReturn) with hsame | ⟨-, hstep⟩
    · rwa [hsame]
    · exact h.guidStep hstep (decidesOneOf_observed (by simp [observedPayload,
        EventPayload.eventType])) replayAll_marker
  · intro env snapshot req body heldGuid _ _ hclass _ h
    rcases recordGuidChangePendingForIngest_guidStep d env.signer (env.uuid .guidPending 0)
      req.sourceUrl heldGuid body.feedGuid (env.now .guidPending) with hsame | ⟨-, hstep⟩
    · rwa [hsame]
    · obtain ⟨-, -, -, -, hne⟩ := conflictingGuid_row (classifySubmission_guidChange hclass).2
      refine h.guidStep hstep (decidesOneOf_observed ?_) (replayAll_observed hne.symm)
      split
      · simp [observedPayload, EventPayload.eventType]
      · exact fun _ h => (List.not_mem_nil h).elim
  · intro env snapshot req body heldGuid _ _ _ h
    rcases guidChangeTransition_guidStep d env.signer (env.uuid .guidTransition) heldGuid
      body.feedGuid req.sourceUrl (env.now .content) with hquiet | hstep
    · exact h.of_quiet hquiet
    · exact h.guidStep hstep (decidesOneOf_observed (by simp [observedPayload,
        EventPayload.eventType])) replayAll_marker
  · intro env oldGuid decision reason _ h
    rcases decideGuidChangeRow_guidStep d env oldGuid decision (trim reason) with
      hsame | ⟨row, hfound, hstep⟩
    · rwa [hsame]
    · exact h.guidStep hstep (by simpa using decidesOneOf_decided hstep)
        (replayAll_decided (getGuidChangeForOldGuid_row hfound))

theorem run_replays {ok : Db → Operation → Prop} {history : List RunStep}
    (hrun : PrimaryRun ok history d) : Replays d :=
  hrun.keeps (I := Replays) ⟨[], .nil, by simp, rfl⟩ fun d operation _ => operation.keeps_replays d

omit [Platform] in
theorem upsertGuidChange_run (d : Db) (sourceUrl oldGuid newGuid : String) (firstSeen : Int) :
    ∃ e, upsertGuidChange sourceUrl oldGuid newGuid firstSeen d = (.ok (), e) := by
  obtain ⟨e, hrun, -⟩ := upsert_run (S := schema) (t := .feedGuidChanges) (d := d)
    (p := fun r : GuidChangeRow => r.sourceUrl == sourceUrl)
    (r := { sourceUrl := sourceUrl
            oldGuid := oldGuid
            newGuid := newGuid
            firstSeen := firstSeen
            lastSeen := none
            decision := none
            decisionReason := none
            decidedAt := none })
    (f := fun r : GuidChangeRow =>
      if r.newGuid == newGuid then { r with oldGuid := oldGuid }
      else
        { r with
          oldGuid := oldGuid
          newGuid := newGuid
          firstSeen := firstSeen
          decision := none
          decisionReason := none
          decidedAt := none })
    (by
      intro r' _ hother k hk
      have hne : r'.sourceUrl ≠ sourceUrl := by simpa using hother
      simp only [schema, Table.keys, List.mem_singleton] at hk
      simp [schema, Table.keys, hk, hne.symm])
    rfl (fun k hk => (List.not_mem_nil hk).elim)
    (by
      intro r' _ _
      by_cases hguid : (r'.newGuid == newGuid) = true
      · simp [schema, Table.keys, hguid]
      · simp [schema, Table.keys, hguid])
    (fun _ _ _ => rfl)
    (by
      intro r' hr' _
      have hcheck := d.valid.checked .feedGuidChanges r' hr'
      by_cases hguid : (r'.newGuid == newGuid) = true
      · simpa [schema, Table.check, hguid] using hcheck
      · simp [Table.check, hguid])
  exact ⟨e, hrun⟩

omit [Platform] in
theorem upsertGuidChange_shared {sourceUrl oldGuid newGuid : String} {firstSeen : Int}
    (hrun : upsertGuidChange sourceUrl oldGuid newGuid firstSeen d = (.ok (), e)) :
    sharedChanges e = Function.update (sharedChanges d) sourceUrl
      (some (SharedChange.observed (sharedChanges d sourceUrl) newGuid firstSeen)) := by
  funext url
  have hrow : getGuidChange e url = _ := upsert_lookup (S := schema) (t := .feedGuidChanges)
    (fun r : GuidChangeRow => r.sourceUrl) hrun rfl
    (fun r hr => by by_cases hguid : r.newGuid == newGuid <;> simp [hguid, hr]) url
  rw [sharedChanges, hrow]
  by_cases hurl : url = sourceUrl
  · rw [if_pos hurl, hurl, Function.update_self, sharedChanges]
    change Option.map _ (some (Option.getD (Option.map _ (getGuidChange d sourceUrl)) _)) = _
    cases getGuidChange d sourceUrl with
    | none => rfl
    | some r =>
      by_cases hguid : r.newGuid = newGuid
      · simp [SharedChange.observed, Option.filter, GuidChangeRow.shared, hguid]
      · simp [SharedChange.observed, Option.filter, GuidChangeRow.shared, hguid]
  · rw [if_neg hurl, Function.update_of_ne hurl]
    rfl

omit [Platform] in
theorem setGuidChangeDecision_run (d : Db) (sourceUrl : String) {decision : String}
    (reason : String) (decidedAt : Int) (h : decision ∈ ["approve", "reject"]) :
    ∃ e, setGuidChangeDecision sourceUrl decision reason decidedAt d = (.ok (), e) := by
  obtain ⟨e, hrun, -⟩ := update_ok (S := schema) (t := .feedGuidChanges) d
    (p := fun r : GuidChangeRow => r.sourceUrl == sourceUrl)
    (f := fun r : GuidChangeRow =>
      { r with
        decision := some decision
        decisionReason := some reason
        decidedAt := some decidedAt })
    (fun _ _ _ => rfl) (fun _ _ _ => rfl)
    (fun _ _ _ => by simpa [schema, Table.check] using h)
  exact ⟨e, hrun⟩

omit [Platform] in
theorem setGuidChangeDecision_shared {sourceUrl decision reason : String} {decidedAt : Int}
    (hrun : setGuidChangeDecision sourceUrl decision reason decidedAt d = (.ok (), e)) :
    sharedChanges e = Function.update (sharedChanges d) sourceUrl
      ((sharedChanges d sourceUrl).map fun row => row.decided decision reason decidedAt) := by
  funext url
  have hrow : getGuidChange e url = _ := update_lookup (S := schema) (t := .feedGuidChanges)
    (fun r : GuidChangeRow => r.sourceUrl) hrun (fun r hr => hr) url
  rw [sharedChanges, hrow]
  by_cases hurl : url = sourceUrl
  · rw [if_pos hurl, hurl, Function.update_self]
    change Option.map _ (Option.map _ (getGuidChange d sourceUrl)) =
      Option.map _ (Option.map _ (getGuidChange d sourceUrl))
    rw [Option.map_map, Option.map_map]
    rfl
  · rw [if_neg hurl, Function.update_of_ne hurl]
    rfl

omit [Platform] in
theorem decidesOneOf_other {payload : EventPayload} (h : payload.eventType ∉ guidChangeTypes) :
    payload.DecidesOneOf := by
  cases payload with
  | feedGuidChangeDecided p => exact absurd (List.mem_cons_of_mem _ List.mem_cons_self) h
  | _ => trivial

omit [Platform] in
theorem sharedChanges_of_rows (h : e .feedGuidChanges = d .feedGuidChanges) :
    sharedChanges e = sharedChanges d := by
  funext url
  rw [sharedChanges, sharedChanges, getGuidChange, getGuidChange, h]

theorem applyPayload_shared (createdAt : Int) {payload : EventPayload} (s : Db)
    (hdecides : payload.DecidesOneOf) :
    sharedChanges (applyPayload createdAt payload s).2 = (sharedChanges s).replay payload := by
  by_cases htype : payload.eventType ∈ guidChangeTypes
  · cases payload with
    | feedGuidChangeObserved p =>
      rw [applyPayload]
      by_cases hmarker : (p.newGuid == p.oldGuid) = true
      · have hends : Ends (deleteGuidChange p.sourceUrl) := ends_delete (by decide)
        obtain ⟨_, t, hrun⟩ := hends s
        rw [if_pos hmarker, hrun]
        funext url
        simp only [SharedChanges.replay, if_pos hmarker]
        rw [sharedChanges, deleteGuidChange_lookup hrun]
        by_cases hurl : url = p.sourceUrl
        · rw [if_pos hurl, hurl, Function.update_self]
          rfl
        · rw [if_neg hurl, Function.update_of_ne hurl]
          rfl
      · obtain ⟨t, hrun⟩ := upsertGuidChange_run s p.sourceUrl p.oldGuid p.newGuid p.firstSeen
        rw [if_neg hmarker, hrun]
        simp only [SharedChanges.replay, if_neg hmarker]
        exact upsertGuidChange_shared hrun
    | feedGuidChangeDecided p =>
      obtain ⟨t, hrun⟩ := setGuidChangeDecision_run s p.sourceUrl p.reason p.decidedAt hdecides
      rw [applyPayload, hrun]
      exact setGuidChangeDecision_shared hrun
    | _ => simp [guidChangeTypes, EventPayload.eventType] at htype
  · rw [SharedChanges.replay_other htype]
    have hwrites : Writes (S := schema) contentPayloadTables (applyPayload createdAt payload) :=
      applyPayload_writes_content createdAt (fun h => htype (h ▸ List.mem_cons_self))
        (fun h => htype (h ▸ List.mem_cons_of_mem _ List.mem_cons_self))
    have hrows : (applyPayload createdAt payload s).2 .feedGuidChanges = s .feedGuidChanges :=
      hwrites .feedGuidChanges (by decide) s
    exact sharedChanges_of_rows hrows

/-- The shared rows of the pending changes. -/
def guidChangesView : SharedView SharedChanges where
  view := sharedChanges
  tables := [.feedGuidChanges]
  types := guidChangeTypes
  replay := SharedChanges.replay
  Applies := EventPayload.DecidesOneOf
  tables_shared := by decide
  types_stored := by decide
  view_congr _ _ h := sharedChanges_of_rows (h .feedGuidChanges List.mem_cons_self)
  replay_other _ _ := SharedChanges.replay_other
  applies_other _ := decidesOneOf_other
  view_applyPayload createdAt _ s := applyPayload_shared createdAt s

/-- `serde_json` on the rows of the log: a text is read as a payload of the type of its row, and
the text of a pending change is read as the change that it was written from. -/
structure ReadsLog (d : Db) : Prop where
  tagged : ∀ r ∈ d .events, ∀ payload,
    Platform.decodePayload r.eventType r.payloadJson = some payload →
      payload.eventType = r.eventType
  reads : ∀ r ∈ guidRows d, ∀ payload, Carries r payload →
    Platform.decodePayload r.eventType r.payloadJson = some payload

theorem Replays.sharedChanges_replica (h : Replays d) (hlog : SignedLog d) (hreads : ReadsLog d)
    {limit : Int} (hlimit : (d .events).length ≤ limit) {batches : List (List Event)}
    (hserved : getEventsSince d 0 limit = .ok batches.flatten) :
    sharedChanges (deliverAll (batches.map (Delivery.batch true)) (Database.empty schema)) =
      sharedChanges d :=
  SharedView.Replays.replica (S := guidChangesView) h hlog ⟨hreads.tagged, hreads.reads⟩ hlimit
    hserved

/-- After a rejection and any later operations that `ok` allows, a submission of the pair that
`asked` allows is not accepted and changes nothing. -/
def RejectionLasts (ok : String → String → Db → Operation → Prop)
    (asked : Db → IngestFeedRequest → IngestFeedData → Prop) : Prop :=
  ∀ history d, PrimaryRun (fun _ _ => True) history d →
    ∀ env oldGuid reason row events rejected, getGuidChangeForOldGuid d oldGuid = some row →
      handleAdmin env true (.decideGuidChange oldGuid "reject" reason) d = (.ok events, rejected) →
        ∀ later, Later (ok row.sourceUrl row.newGuid) rejected later →
          ∀ env snapshot req body, req.feedData = some body → req.sourceUrl = row.sourceUrl →
            body.feedGuid = row.newGuid → asked later req body →
              ∃ answer, handleIngestFeed env snapshot req later =
                  (.ok (refused answer [] []), later) ∧
                (Verified env snapshot req body → answer = "guid_change_rejected")

theorem handleGuidChangeDecision_rejects {env : OperatorEnv} {oldGuid reason : String}
    {row : GuidChangeRow} {events : List Event} (hfound : getGuidChangeForOldGuid d oldGuid = some row)
    (hrun : handleGuidChangeDecision env oldGuid "reject" reason d = (.ok events, e)) :
    Rejects e row.sourceUrl row.newGuid := by
  unfold handleGuidChangeDecision at hrun
  split at hrun
  · cases hrun
  · split at hrun
    · cases hrun
    · obtain ⟨signed, t, hdecide, hrest⟩ := bind_ok hrun
      have hstep := decideGuidChangeRow_ok hfound (mapError_ok.mp hdecide)
      have hsame : e = t := by
        cases signed with
        | none => cases hrest
        | some signed =>
          have hleaves : Leaves id (signedRowsToEvents [signed]) := signedRowsToEvents_leaves
          have hstate := hleaves t
          simp only at hrest
          rw [hrest] at hstate
          exact hstate
      rw [hsame]
      exact ⟨_, (hstep.rows _).trans (if_pos rfl), rfl, rfl⟩

/-- After every run: a rejection lasts while the source declares no other GUID, the operator
decides nothing else about the row and the URL is held, and a replica with the whole log has
the shared rows of the primary. -/
theorem run_guidDecisions :
    RejectionLasts
        (fun url guid s operation => operation.Declares url guid s ∧ operation.Undecided url s)
        (fun s req body => ∃ heldGuid,
          classifySubmission s body.feedGuid req.sourceUrl req.canonicalUrl = .guidChange heldGuid) ∧
      ∀ signer : NodeSigner, signer.Sound → JsonNonempty → ∀ history d,
        PrimaryRun (fun _ operation => operation.SignedBy signer) history d → ReadsLog d →
          ∀ (batches : List (List Event)) (limit : Int), (d .events).length ≤ limit →
            getEventsSince d 0 limit = .ok batches.flatten → ∀ url,
              sharedChanges (deliverAll (batches.map (Delivery.batch true))
                (Database.empty schema)) url = sharedChanges d url := by
  constructor
  · rintro history d hrun env oldGuid reason row events rejected hfound hdecide later hlater
      env' snapshot req body hbody hurl hguid ⟨heldGuid, hclass⟩
    have horigin : NoOriginPending d :=
      hrun.keeps (I := NoOriginPending) (fun _ _ h => by cases h)
        fun _ operation _ h => operation.keeps_noOriginPending h
    have hnext : NoOriginPending rejected := by
      have hkeeps := Operation.keeps_noOriginPending
        (.admin env true (.decideGuidChange oldGuid "reject" reason)) horigin
      rwa [Operation.next, hdecide] at hkeeps
    rw [handleAdmin_decides] at hdecide
    have hrejects : Rejects rejected row.sourceUrl row.newGuid :=
      handleGuidChangeDecision_rejects hfound hdecide
    obtain ⟨hrejects, hlate⟩ := hrejects.later hnext hlater
    rw [← hurl, ← hguid] at hrejects
    exact hrejects.answer hlate hbody hclass
  · intro signer hsound hjson history d hrun hreads batches limit hlimit hserved url
    have hlog := log_signed hsound hjson hrun
    rw [(run_replays hrun).sharedChanges_replica hlog hreads hlimit hserved]

end

section Sample

attribute [local instance] runPlatform

/-- The row of `g2` at the URL of `f1`. -/
def pendingChange : GuidChangeRow where
  sourceUrl := sampleUrl
  oldGuid := "f1"
  newGuid := "g2"
  firstSeen := 2
  lastSeen := some 2
  decision := none
  decisionReason := none
  decidedAt := none

def rejecting : Operation :=
  .admin (runOperatorEnv 'k' 3) true (.decideGuidChange "f1" "reject" "no")

def rejectedDb : Db := rejecting.next pendingDb

/-- The operator retires `f1`. -/
def retiring : Operation := .admin (runOperatorEnv 'r' 4) true (.retireFeed "f1" (some false))

/-- The operator decides again. -/
def approving : Operation :=
  .admin (runOperatorEnv 'l' 4) true (.decideGuidChange "f1" "approve" "yes")

def answersAccepted (env : IngestEnv) (req : IngestFeedRequest) (d : Db) : Bool :=
  match (handleIngestFeed env d req d).1 with
  | .ok output => output.response.accepted
  | .error _ => false

theorem rejectedDb_facts :
    getGuidChangeForOldGuid pendingDb "f1" = some pendingChange ∧
      (handleAdmin (runOperatorEnv 'k' 3) true (.decideGuidChange "f1" "reject" "no")
        pendingDb).1.isOk = true ∧
      classifySubmission rejectedDb "g2" sampleUrl sampleUrl = .guidChange "f1" ∧
      (∀ r ∈ rejectedDb .events, r.payloadJson ≠ "null" ∧
        (Platform.decodePayload r.eventType r.payloadJson).map EventPayload.eventType =
          some r.eventType) ∧
      (rejectedDb .events).length = 4 ∧
      (getEventsSince rejectedDb 0 4).isOk = true ∧
      answersAccepted (runEnv 'n' 5) (sampleRequest "g2" []) (retiring.next rejectedDb) = true ∧
      classifySubmission (approving.next rejectedDb) "g2" sampleUrl sampleUrl = .guidChange "f1" ∧
      answersAccepted (runEnv 'n' 5) (sampleRequest "g2" []) (approving.next rejectedDb) = true := by
  decide +kernel

theorem pendingDb_rejected :
    ∃ events, handleAdmin (runOperatorEnv 'k' 3) true (.decideGuidChange "f1" "reject" "no")
      pendingDb = (.ok events, rejectedDb) := by
  obtain ⟨-, hok, -⟩ := rejectedDb_facts
  rw [rejectedDb, rejecting, Operation.next_admin]
  exact exists_ok hok

theorem later_retiring :
    Later (fun s operation => Operation.Declares sampleUrl "g2" s operation ∧
      Operation.Undecided sampleUrl s operation) rejectedDb (retiring.next rejectedDb) := by
  apply Relation.ReflTransGen.single
  refine ⟨retiring, ⟨?_, ?_⟩, rfl⟩
  · intro env snapshot req body h
    cases h
  · intro env oldGuid decision reason row h
    cases h

theorem later_approving :
    Later (fun s operation => Operation.Declares sampleUrl "g2" s operation) rejectedDb
      (approving.next rejectedDb) := by
  apply Relation.ReflTransGen.single
  refine ⟨approving, ?_, rfl⟩
  intro env snapshot req body h
  cases h

theorem not_refused_of_accepted {env : IngestEnv} {req : IngestFeedRequest} {d : Db}
    (haccepted : answersAccepted env req d = true) (answer : String) :
    handleIngestFeed env d req d ≠ (.ok (refused answer [] []), d) := by
  intro hanswer
  rw [answersAccepted, hanswer] at haccepted
  cases haccepted

/-- `g2` is admitted after `f1` was retired, and after the operator approved it. -/
theorem rejection_lifted :
    ¬ RejectionLasts
        (fun url guid s operation => operation.Declares url guid s ∧ operation.Undecided url s)
        (fun _ _ _ => True) ∧
      ¬ RejectionLasts (fun url guid s operation => operation.Declares url guid s)
        (fun s req body => ∃ heldGuid,
          classifySubmission s body.feedGuid req.sourceUrl req.canonicalUrl =
            .guidChange heldGuid) := by
  obtain ⟨hfound, -, -, -, -, -, hretired, hclass, happroved⟩ := rejectedDb_facts
  obtain ⟨events, hdecide⟩ := pendingDb_rejected
  have hrun : PrimaryRun (fun _ _ => True) pendingHistory pendingDb :=
    pendingDb_run.mono fun _ _ _ => trivial
  constructor
  · intro hall
    obtain ⟨answer, hanswer, -⟩ := hall _ _ hrun _ _ _ _ _ _ hfound hdecide _ later_retiring
      (runEnv 'n' 5) _ (sampleRequest "g2" []) _ rfl rfl rfl trivial
    exact not_refused_of_accepted hretired answer hanswer
  · intro hall
    obtain ⟨answer, hanswer, -⟩ := hall _ _ hrun _ _ _ _ _ _ hfound hdecide _ later_approving
      (runEnv 'n' 5) _ (sampleRequest "g2" []) _ rfl rfl rfl ⟨"f1", hclass⟩
    exact not_refused_of_accepted happroved answer hanswer

theorem rejectedDb_readsLog : ReadsLog rejectedDb := by
  obtain ⟨-, -, -, hall, -⟩ := rejectedDb_facts
  constructor
  · intro r hr payload hpayload
    have htype := (hall r hr).2
    rw [hpayload] at htype
    exact Option.some.inj htype
  · rintro r hguid payload ⟨htype, htext⟩
    have hnull := (hall r (List.mem_filter.mp hguid).1).1
    rw [htext] at hnull
    rw [htype, htext]
    exact Recording.text_decodes ⟨runTexts, runSignatures⟩ runTexts_nodup hnull

/-- The submission of `g2` is rejected again, and a replica has the rejection. -/
theorem run_guidDecisions_rejectedDb :
    (handleIngestFeed (runEnv 'n' 5) rejectedDb (sampleRequest "g2" []) rejectedDb).2 = rejectedDb ∧
      ∃ events, getEventsSince rejectedDb 0 4 = .ok events ∧
        sharedChanges (deliverAll [Delivery.batch true events] (Database.empty schema)) sampleUrl =
          sharedChanges rejectedDb sampleUrl := by
  obtain ⟨hfound, -, hclass, -, hlength, hserved, -⟩ := rejectedDb_facts
  obtain ⟨events, hdecide⟩ := pendingDb_rejected
  have hrun : PrimaryRun (fun _ _ => True) pendingHistory pendingDb :=
    pendingDb_run.mono fun _ _ _ => trivial
  obtain ⟨answer, hanswer, -⟩ := run_guidDecisions.1 _ _ hrun _ _ _ _ _ _ hfound hdecide _ .refl
    (runEnv 'n' 5) rejectedDb (sampleRequest "g2" []) (sampleBody "g2" []) rfl rfl rfl
    ⟨"f1", hclass⟩
  refine ⟨by rw [hanswer], ?_⟩
  rcases hevents : getEventsSince rejectedDb 0 4 with err | events
  · rw [hevents] at hserved
    cases hserved
  · refine ⟨events, rfl, ?_⟩
    have hsigned : PrimaryRun (fun _ operation => operation.SignedBy runSigner)
        ({ before := pendingDb, operation := rejecting } :: pendingHistory) rejectedDb :=
      .step rejecting (.step pendingIngest (.step firstIngest .empty rfl) rfl) rfl
    exact run_guidDecisions.2 runSigner runSigner_sound runJson_readsBack.nonempty _ _ hsigned
      rejectedDb_readsLog [events] 4 (by rw [hlength]; decide) (by simpa using hevents) sampleUrl

end Sample

end Stophammer
