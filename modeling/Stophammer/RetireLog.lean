import Stophammer.LoggedUrls

/-!
# The retirements in the log

Each retirement that a run signs is the first event that `deleteFeedWithEvent` signs in the state
in front of the step, unless it is the retirement of a superseded GUID.
-/

namespace Stophammer

open Relational Statement

section

variable [Platform]

/-- The retirement of a GUID that another one supersedes. -/
def Supersedes (r : StoredEvent) : Prop :=
  ∃ p : FeedRetiredPayload,
    Carries r (.feedRetired p) ∧ p.reason = some guidSupersededReason

/-- The retirement is the one that the delete of a record signs in `d`. -/
def RetiredIn (d : Db) (r : StoredEvent) : Prop :=
  (getFeedByGuid d r.subjectGuid).isSome ∧ ∃ signer row blocks events e,
    deleteFeedWithEvent signer r.subjectGuid row blocks d = (.ok events, e) ∧
      r = signedRow signer row (nextSeq d)

/-- The log grows from `s` to `t`, and a new retirement stands behind the log of `d`. -/
structure RetiresFrom (d s t : Db) : Prop where
  grows : s .events <+: t .events
  retired : ∀ i r, (t .events)[i]? = some r → (s .events).length ≤ i → r.eventType = .feedRetired →
    Supersedes r ∨ i = (d .events).length ∧ RetiredIn d r

variable {d s t : Db}

theorem retiresFrom_same (h : t .events = s .events) : RetiresFrom d s t := by
  refine ⟨h ▸ List.prefix_refl _, fun i r hi hlength _ => ?_⟩
  rw [h, List.getElem?_eq_none hlength] at hi
  cases hi

instance : IsPreorder Db (RetiresFrom d) where
  refl _ := retiresFrom_same rfl
  trans s t u hst htu := by
    refine ⟨hst.grows.trans htu.grows, fun i r hi hlength htype => ?_⟩
    rcases Nat.lt_or_ge i (t .events).length with hlt | hge
    · obtain ⟨rows, hrows⟩ := htu.grows
      rw [← hrows, List.getElem?_append_left hlt] at hi
      exact hst.retired i r hi hlength htype
    · exact htu.retired i r hi hge htype

theorem retiresFrom_of_append {rows : List StoredEvent} (h : t .events = s .events ++ rows)
    (hrows : ∀ r ∈ rows, r.eventType = .feedRetired → Supersedes r) : RetiresFrom d s t := by
  refine ⟨h ▸ List.prefix_append _ _, fun i r hi hlength htype => .inl ?_⟩
  rw [h, List.getElem?_append_right hlength] at hi
  exact hrows r (List.mem_of_getElem? hi) htype

theorem retiresFrom_of_logs {ts : List Table} {types : List EventType} (h : Logs ts types s t)
    (htypes : EventType.feedRetired ∉ types) : RetiresFrom d s t := by
  obtain ⟨rows, hrows, hall⟩ := h.appended
  exact retiresFrom_of_append hrows fun r hr htype => absurd (htype ▸ hall r hr) htypes

theorem retiresFrom_of_writes {ts : List Table} {α : Type} {x : Stmt α}
    (hx : Writes (S := schema) ts x) (hts : Table.events ∉ ts) : Steps (RetiresFrom d) x :=
  fun s => retiresFrom_same (hx .events hts s)

theorem signEventRow_retiresFrom {signer : NodeSigner} {row : EventRow}
    (hrow : row.eventType = .feedRetired → ∀ seq, Supersedes (signedRow signer row seq)) :
    Steps (RetiresFrom d) (signEventRow signer row) := by
  intro s
  rcases insertEvent_run signer row s with ⟨t, hrun, hcontents⟩ | ⟨err, hrun⟩
  · have hsigned : (signEventRow signer row s).2 = t := by
      rw [signEventRow, bind_run_ok hrun]
      rfl
    rw [hsigned]
    have hlog : t .events = s .events ++ [signedRow signer row (nextSeq s)] := by
      rw [hcontents, Contents.set_same]
    apply retiresFrom_of_append hlog
    intro r hr htype
    rw [List.mem_singleton.mp hr] at htype ⊢
    exact hrow htype _
  · have hsame : (signEventRow signer row s).2 = s := by
      rw [signEventRow, bind_run_error hrun]
    rw [hsame]
    exact refl_of (RetiresFrom d) s

theorem guidChangeTransition_retiresFrom {signer : NodeSigner} {uuid : Nat → String}
    {oldGuid newGuid sourceUrl : String} {now : Int} :
    Steps (RetiresFrom d) (guidChangeTransition signer uuid oldGuid newGuid sourceUrl now) := by
  have hsupersede : Writes (S := schema) [Table.feedGuidSupersessions]
      (insertGuidSupersession oldGuid newGuid sourceUrl now) :=
    (Writes.insertOrIgnore (by decide)).bind fun _ => Writes.pure _
  have hdelete : Writes (S := schema) [Table.feedGuidChanges] (deleteGuidChange sourceUrl) :=
    Writes.delete (by decide)
  apply Steps.transaction
  apply (retiresFrom_of_writes deleteFeedSql_writes (by decide)).bind
  intro _
  apply (signEventRow_retiresFrom fun _ seq => ⟨_, ⟨rfl, rfl⟩, rfl⟩).bind
  intro retired
  apply (retiresFrom_of_writes hsupersede (by decide)).bind
  intro _
  apply (signEventRow_retiresFrom fun htype => by cases htype).bind
  intro superseded
  apply Steps.read_then
  intro row
  cases row with
  | none => exact .pure _
  | some _ =>
    apply (retiresFrom_of_writes hdelete (by decide)).bind
    intro _
    exact (signEventRow_retiresFrom fun htype => by cases htype).bind fun _ => .pure _

theorem deleteFeedWithEvent_log {e : Db} {signer : NodeSigner} {feedGuid : String} {row : EventRow}
    {blocks : List (FeedBlock × String)} {events : List Event}
    (h : deleteFeedWithEvent signer feedGuid row blocks d = (.ok events, e)) :
    ∃ later, e .events = d .events ++ signedRow signer row (nextSeq d) :: later ∧
      ∀ r ∈ later, r.eventType = .feedBlocked := by
  obtain ⟨_, d₀, hread, h⟩ := bind_ok (transaction_ok.mp h)
  cases hread
  obtain ⟨_, d₁, hdelete, h⟩ := bind_ok h
  obtain ⟨_, d₂, hhold, h⟩ := bind_ok h
  obtain ⟨signed, d₃, hsign, h⟩ := bind_ok h
  have hlog : d₂ .events = d .events :=
    ((writeHold_writes .events (by decide)).run hhold).trans
      ((deleteFeedSql_writes .events (by decide)).run hdelete)
  have hrest : Logs retireTables [.feedBlocked] d₃ e :=
    (signedEvent_steps.bind fun _ => (signBlocks_logs (by decide) (by decide) (by decide)
      List.mem_cons_self).bind fun _ => .pure _ : Steps (Logs _ _) _).run h
  obtain ⟨later, hlater, hblocked⟩ := hrest.appended
  have hseq : nextSeq d₂ = nextSeq d := by rw [nextSeq, nextSeq, hlog]
  refine ⟨later, ?_, fun r hr => List.mem_singleton.mp (hblocked r hr)⟩
  rw [hlater, signEventRow_contents hsign, Contents.set_same, hlog, hseq, List.append_assoc,
    List.singleton_append]

theorem deleteFeedWithEvent_retiresFrom {signer : NodeSigner} {row : EventRow} {feedGuid : String}
    {blocks : List (FeedBlock × String)} (hsubject : row.subjectGuid = feedGuid)
    (hfeed : (getFeedByGuid d feedGuid).isSome) :
    RetiresFrom d d (deleteFeedWithEvent signer feedGuid row blocks d).2 := by
  subst hsubject
  rcases hrun : deleteFeedWithEvent signer row.subjectGuid row blocks d with ⟨err | events, e⟩
  · rw [transaction_error hrun]
    exact refl_of (RetiresFrom d) d
  · obtain ⟨later, hlog, hblocked⟩ := deleteFeedWithEvent_log hrun
    refine ⟨hlog ▸ List.prefix_append _ _, fun i r hi hlength htype => .inr ?_⟩
    change (e .events)[i]? = some r at hi
    rw [hlog, List.getElem?_append_right hlength] at hi
    rcases hindex : i - (d .events).length with _ | j
    · rw [hindex, List.getElem?_cons_zero] at hi
      cases hi
      exact ⟨by omega, hfeed, signer, row, blocks, events, e, hrun, rfl⟩
    · rw [hindex, List.getElem?_cons_succ] at hi
      rw [hblocked r (List.mem_of_getElem? hi)] at htype
      cases htype

variable {env : IngestEnv} {snapshot : Db} {req : IngestFeedRequest} {body : IngestFeedData}
  {admission : Admission}

theorem handleSourceGoneReport_retiresFrom :
    RetiresFrom d d (handleSourceGoneReport env req d).2 := by
  unfold handleSourceGoneReport
  rw [read_bind_run]
  split
  · exact refl_of (RetiresFrom d) d
  rw [read_bind_run]
  by_cases hcounts : sourceGoneReportCounts req env.sourceGoneHosts = true
  · simp only [hcounts, if_true]
    cases hsource : feedGuidForSourceUrl d req.sourceUrl with
    | none => exact refl_of (RetiresFrom d) d
    | some feedGuid =>
      have hfeed : (getFeedByGuid d feedGuid).isSome := by
        obtain ⟨feed, hfound, rfl⟩ := Option.map_eq_some_iff.mp hsource
        rw [getFeedByGuid_map, List.find?_isSome]
        exact ⟨feed, List.mem_of_find?_eq_some hfound, beq_self_eq_true _⟩
      have hanswer : Writes (S := schema) [Table.sourceGoneAnswers]
          (recordSourceGoneAnswer feedGuid req.sourceUrl (env.now .goneReport) req.httpStatus) :=
        Writes.upsert (by decide)
      simp only
      rw [read_bind_run]
      split
      · rw [bind_pure_state, dbStep, mapError_state]
        exact deleteFeedWithEvent_retiresFrom rfl hfeed
      · rw [bind_pure_state, dbStep, mapError_state]
        exact retiresFrom_of_writes hanswer (by decide) d
  · simp only [hcounts]
    exact refl_of (RetiresFrom d) d

theorem admitContent_retiresFrom : RetiresFrom d s (admitContent env req body admission s).2 := by
  apply admitContent_steps
  · exact fun heldGuid _ => guidChangeTransition_retiresFrom s
  · intro eventRows htypes
    exact (ingestTransaction_logs htypes).mono fun s t h => retiresFrom_of_logs h (by decide)
  · exact fun isMove => writeDeclarations_sameOutside.mono fun s t h =>
      retiresFrom_same (h .events (by decide))
  · exact fun s t h => retiresFrom_of_logs h.logs (by decide)

theorem handleIngestFeed_retiresFrom : RetiresFrom d d (handleIngestFeed env snapshot req d).2 := by
  apply ingest_steps (R := RetiresFrom d)
  · exact fun _ _ => handleSourceGoneReport_retiresFrom
  · exact fun s t h => retiresFrom_of_logs h.logs (by decide)
  · intro body warnings _ hclass _ _
    obtain ⟨-, stored, hstored, -⟩ := classifySubmission_update.mp hclass
    have hfeed : (getFeedByGuid d body.feedGuid).isSome := by rw [hstored]; rfl
    exact deleteFeedWithEvent_retiresFrom rfl hfeed
  · intro body _ _ _ _
    exact retiresFrom_of_logs (recordGuidChangeReturnForIngest_logs d) (by decide)
  · intro body heldGuid _ _ _
    exact retiresFrom_of_logs (recordGuidChangePendingForIngest_logs d) (by decide)
  · exact fun body admission e _ _ _ _ _ => admitContent_retiresFrom

theorem handleRetireFeed_retiresFrom {env : OperatorEnv} {guid : String} {block : Option Bool} :
    RetiresFrom d d (handleRetireFeed env guid block d).2 := by
  unfold handleRetireFeed
  rw [read_bind_run]
  cases hfeed : getFeedByGuid d guid with
  | none => exact refl_of (RetiresFrom d) d
  | some feed =>
    have hsome : (getFeedByGuid d guid).isSome := by rw [hfeed]; rfl
    apply Steps.mapError_at
    exact deleteFeedWithEvent_retiresFrom rfl hsome

theorem AdminRequest.retiresFrom {env : OperatorEnv} (request : AdminRequest) :
    RetiresFrom d d (request.handle env d).2 := by
  cases request with
  | retireFeed guid block => exact handleRetireFeed_retiresFrom
  | _ =>
    apply AdminRequest.steps (R := RetiresFrom d)
    · exact fun s t h => retiresFrom_of_logs h (by decide)
    · exact fun guid block row blocks h => by cases h
    · exact fun guid newUrl reason eventId _ => retiresFrom_of_logs (relocateFeed_logs d) (by decide)
    · exact fun guid => retiresFrom_of_writes releaseRetiredSourceHold_writes (by decide) d
    · exact fun guid decision reason _ =>
        retiresFrom_of_logs (decideGuidChangeRow_logs d) (by decide)

theorem Operation.retiresFrom (operation : Operation) (d : Db) :
    RetiresFrom d d (operation.next d) := by
  cases operation with
  | ingest env snapshot req => exact handleIngestFeed_retiresFrom
  | admin env tokenAccepted request =>
    cases tokenAccepted with
    | false => exact refl_of (RetiresFrom d) d
    | true => exact request.retiresFrom
  | seedBlocks env entries => exact retiresFrom_of_logs (seedBlocks_logs d) (by decide)
  | fillRetiredSourceHolds =>
    apply fillRetiredSourceHolds_steps (R := RetiresFrom d)
    exact fun hold => retiresFrom_of_writes
      (Writes.insertOrIgnore (List.mem_singleton.mpr rfl)) (by decide)
  | peers write only => exact retiresFrom_of_writes only (by decide) d

theorem run_retirements {ok : Db → Operation → Prop} {history : List RunStep}
    (hrun : PrimaryRun ok history d) {r : StoredEvent} (hr : r ∈ d .events)
    (htype : r.eventType = .feedRetired) : Supersedes r ∨
      ∃ s ∈ history, RetiredIn s.before r ∧ ∃ later, d .events = s.before .events ++ r :: later := by
  obtain ⟨i, hi⟩ := List.getElem?_of_mem hr
  clear hr
  induction hrun with
  | empty => cases hi
  | @step history d operation _ _ ih =>
    have hstep := operation.retiresFrom d
    obtain ⟨rows, hrows⟩ := hstep.grows
    rcases Nat.lt_or_ge i (d .events).length with hlt | hge
    · have hold : (d .events)[i]? = some r := by
        rw [← hi, ← hrows, List.getElem?_append_left hlt]
      refine (ih hold).imp id fun ⟨s, hs, hretired, later, hlater⟩ => ?_
      refine ⟨s, List.mem_cons_of_mem _ hs, hretired, later ++ rows, ?_⟩
      rw [← hrows, hlater, List.append_assoc, List.cons_append]
    · refine (hstep.retired i r hi hge htype).imp id fun ⟨hindex, hretired⟩ => ?_
      refine ⟨_, List.mem_cons_self, hretired, ?_⟩
      rw [← hrows, hindex, List.getElem?_append_right (le_refl _), Nat.sub_self] at hi
      cases rows with
      | nil => cases hi
      | cons first later =>
        cases hi
        exact ⟨later, hrows.symm⟩

end

end Stophammer
