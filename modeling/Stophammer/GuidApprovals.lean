import Stophammer.GuidDecisions
import Stophammer.SourceMoves

/-!
# Approved GUID changes

A GUID change retires the record that holds one of the two URLs of the submission.  The trigger
and the approval are those of the source URL, and the new record takes the canonical URL.
-/

namespace Stophammer

open Relational Statement

section

variable [Platform] {d : Db} {url : String} {history earlier : List RunStep}

/-- The step is a decision of the operator that approves the change of the one GUID to the
other. -/
def RunStep.Approves (s : RunStep) (oldGuid newGuid : String) : Prop :=
  ∃ env reason row, s.operation = .admin env true (.decideGuidChange oldGuid "approve" reason) ∧
    getGuidChangeForOldGuid s.before oldGuid = some row ∧ row.newGuid = newGuid ∧
      getGuidChange (s.operation.next s.before) row.sourceUrl =
        some (row.decided "approve" (trim reason) env.now)

def Approved (history : List RunStep) (oldGuid newGuid : String) : Prop :=
  ∃ s ∈ history, s.Approves oldGuid newGuid

def ApprovedRows (history : List RunStep) (d : Db) : Prop :=
  ∀ url row, getGuidChange d url = some row → row.decision = some "approve" →
    Approved history row.oldGuid row.newGuid

theorem getGuidChangeForOldGuid_oldGuid {guid : String} {row : GuidChangeRow}
    (h : getGuidChangeForOldGuid d guid = some row) : row.oldGuid = guid := by
  have hmem := (orderBy_perm _ _).mem_iff.mp (List.mem_of_head? h)
  exact beq_iff_eq.mp (List.mem_filter.mp hmem).2

omit [Platform] in
theorem observedRow_decision {row : Option GuidChangeRow} {oldGuid newGuid decision : String}
    {now : Int} (h : (observedRow row url oldGuid newGuid now).decision = some decision) :
    ∃ r, row = some r ∧ r.newGuid = newGuid ∧ r.decision = some decision := by
  cases row with
  | none => cases h
  | some r =>
    rw [observedRow] at h
    split at h
    · rename_i hguid
      exact ⟨r, rfl, beq_iff_eq.mp hguid, h⟩
    · cases h

/-- A row is approved by a decision only.  Another old GUID does not take an approval over: the
submission that brings it runs the change. -/
theorem ApprovedRows.next (h : ApprovedRows history d) (operation : Operation) :
    ApprovedRows ({ before := d, operation := operation } :: history) (operation.next d) := by
  intro url row hrow hdecision
  have hchange := operation.rowChange d url
  rw [hrow] at hchange
  generalize hsome : some row = row' at hchange
  cases hchange with
  | same =>
    obtain ⟨s, hs, happroves⟩ := h url row hsome.symm hdecision
    exact ⟨s, List.mem_cons_of_mem _ hs, happroves⟩
  | observed verified held waits source unrejected =>
    cases hsome
    obtain ⟨r, hr, hguid, happrove⟩ := observedRow_decision hdecision
    rw [← source] at hr
    simp [transitionAllowed, isApproved, hr, hguid, happrove] at waits
  | returned => cases hsome
  | superseded => cases hsome
  | @decided env guid decision reason row' found source =>
    cases hsome
    have hsame : decision = "approve" := Option.some.inj hdecision
    have hold : row'.oldGuid = guid := getGuidChangeForOldGuid_oldGuid found
    subst hsame
    refine ⟨_, List.mem_cons_self, env, reason, row', ?_, ?_, rfl, ?_⟩
    · rw [← hold]
      rfl
    · rw [← hold] at found
      exact found
    · rw [source]
      exact hrow

theorem run_approvedRows {ok : Db → Operation → Prop} (hrun : PrimaryRun ok history d) :
    ApprovedRows history d := by
  induction hrun with
  | empty => exact fun _ _ hrow => by cases hrow
  | step operation _ _ ih => exact ih.next operation

/-- The canonical URL is the stored URL of the held record, and the trigger is one of this
record: the new GUID is the UUIDv5 of its URL, or the approved row has its GUID. -/
structure FromHeldRecord (d : Db) (req : IngestFeedRequest) (newGuid : String) (held : Feed) :
    Prop where
  canonical : req.canonicalUrl = held.feedUrl
  trigger : guidOriginMatches newGuid held.feedUrl = true ∨
    ∃ row, getGuidChange d req.sourceUrl = some row ∧ row.oldGuid = held.feedGuid ∧
      row.newGuid = newGuid ∧ row.decision = some "approve"

/-- A GUID change comes from the record that it retires. -/
def Operation.ChangesFromHeld (d : Db) (operation : Operation) : Prop :=
  ∀ env snapshot req body heldGuid held, operation = .ingest env snapshot req →
    ReachesContent env snapshot d req body →
      classifySubmission d body.feedGuid req.sourceUrl req.canonicalUrl = .guidChange heldGuid →
        getFeedByGuid d heldGuid = some held → FromHeldRecord d req body.feedGuid held

/-- A submission in the case of a GUID change retires the held record only for the UUIDv5 of its
URL or an approval of the pair, and the admitted record has its URL. -/
def RetiresRightly (earlier : List RunStep) (d : Db) (operation : Operation) : Prop :=
  ∀ env snapshot req body heldGuid held, operation = .ingest env snapshot req →
    req.feedData = some body →
      classifySubmission d body.feedGuid req.sourceUrl req.canonicalUrl = .guidChange heldGuid →
        getFeedByGuid d heldGuid = some held → getFeedByGuid (operation.next d) heldGuid = none →
          (guidOriginMatches body.feedGuid held.feedUrl = true ∨
            Approved earlier heldGuid body.feedGuid) ∧
          ∀ feed, getFeedByGuid (operation.next d) body.feedGuid = some feed →
            feed.feedUrl = held.feedUrl

theorem reachesContent_of_retired {env : IngestEnv} {snapshot : Db} {req : IngestFeedRequest}
    {body : IngestFeedData} {heldGuid : String} {held : Feed} (hbody : req.feedData = some body)
    (hclass : classifySubmission d body.feedGuid req.sourceUrl req.canonicalUrl =
      .guidChange heldGuid)
    (hheld : getFeedByGuid d heldGuid = some held)
    (hgone : getFeedByGuid (Operation.next (.ingest env snapshot req) d) heldGuid = none) :
    ReachesContent env snapshot d req body := by
  obtain ⟨-, -, -, -, hne⟩ := conflictingGuid_row (classifySubmission_guidChange hclass).2
  have hchange := (Operation.ingest env snapshot req).change d heldGuid
  have hrow : (record (Operation.next (.ingest env snapshot req) d) heldGuid).row = none :=
    Option.map_eq_none_iff.mp hgone
  generalize record (Operation.next (.ingest env snapshot req) d) heldGuid = r at hchange hrow
  cases hchange with
  | same =>
    have hnone : getFeedByGuid d heldGuid = none := Option.map_eq_none_iff.mpr hrow
    rw [hnone] at hheld
    cases hheld
  | answered report early =>
    have hnone : getFeedByGuid d heldGuid = none := Option.map_eq_none_iff.mpr hrow
    rw [hnone] at hheld
    cases hheld
  | sourceGone report late =>
    have hreport := report.gone
    simp [isGoneReport, hbody] at hreport
  | sourceBlocked carries own blocks =>
    rw [hbody] at carries
    cases carries
    exact absurd own.symm hne
  | superseded reaches held =>
    have hsame := reaches.carries
    rw [hbody] at hsame
    cases hsame
    exact reaches
  | content reaches own => cases hrow

theorem admitted_feedUrl {env : IngestEnv} {snapshot : Db} {req : IngestFeedRequest}
    {body : IngestFeedData} {heldGuid : String} {feed : Feed} (hbody : req.feedData = some body)
    (hclass : classifySubmission d body.feedGuid req.sourceUrl req.canonicalUrl =
      .guidChange heldGuid)
    (hfeed : getFeedByGuid (Operation.next (.ingest env snapshot req) d) body.feedGuid =
      some feed) : feed.feedUrl = req.canonicalUrl := by
  obtain ⟨hfree, -⟩ := classifySubmission_guidChange hclass
  have hchange := (Operation.ingest env snapshot req).change d body.feedGuid
  have hurl : (record (Operation.next (.ingest env snapshot req) d) body.feedGuid).feedUrl =
      some feed.feedUrl := by
    rw [feedUrl_getFeedByGuid, hfeed]
    rfl
  have hempty : (record d body.feedGuid).feedUrl = none := by
    rw [feedUrl_getFeedByGuid, hfree]
    rfl
  generalize record (Operation.next (.ingest env snapshot req) d) body.feedGuid = r at hchange hurl
  cases hchange with
  | same =>
    rw [hempty] at hurl
    cases hurl
  | answered report early =>
    rw [show (Record.answered _ _ _ _ _).feedUrl = (record d body.feedGuid).feedUrl from rfl,
      hempty] at hurl
    cases hurl
  | sourceGone report late => cases hurl
  | sourceBlocked carries own blocks => cases hurl
  | superseded reaches held => cases hurl
  | @content _ _ _ body' reaches own =>
    have hsame := reaches.carries
    rw [hbody] at hsame
    cases hsame
    have hmove : admittedMove env req body d = none := by
      unfold admittedMove
      rw [hfree]
      split <;> rfl
    rw [Record.written_feedUrl, contentFeed_feedUrl, hmove, chooseFeedUrl, hfree] at hurl
    exact (Option.some.inj hurl).symm

theorem ApprovedRows.retiresRightly (h : ApprovedRows earlier d) {operation : Operation}
    (hfrom : operation.ChangesFromHeld d) : RetiresRightly earlier d operation := by
  rintro env snapshot req body heldGuid held rfl hbody hclass hheld hgone
  have hreach := reachesContent_of_retired hbody hclass hheld hgone
  obtain ⟨hcanonical, htrigger⟩ := hfrom env snapshot req body heldGuid held rfl hreach hclass hheld
  refine ⟨?_, fun feed hfeed => (admitted_feedUrl hbody hclass hfeed).trans hcanonical⟩
  rcases htrigger with horigin | ⟨row, hrow, hold, hnew, happrove⟩
  · exact Or.inl horigin
  · have hguid : held.feedGuid = heldGuid := by
      obtain ⟨r, hr, rfl⟩ := Option.map_eq_some_iff.mp hheld
      simpa using List.find?_some hr
    have happroved := h _ row hrow happrove
    rw [hold, hguid, hnew] at happroved
    exact Or.inr happroved

/-- In a run in which each GUID change comes from the record that it retires, each one retires it
rightly. -/
theorem run_retiresRightly (hrun : PrimaryRun Operation.ChangesFromHeld history d) :
    ∀ later s earlier, history = later ++ s :: earlier →
      RetiresRightly earlier s.before s.operation := by
  induction hrun with
  | empty =>
    intro later s earlier h
    cases later <;> cases h
  | step operation hbefore hfrom ih =>
    intro later s earlier h
    cases later with
    | nil =>
      cases h
      exact (run_approvedRows hbefore).retiresRightly hfrom
    | cons last later => exact ih later s earlier (List.cons.inj h).2

end

section Sample

attribute [local instance] runPlatform

/-- The URL of `f1` serves its UUIDv5 through a redirect. -/
def redirectedRequest : IngestFeedRequest :=
  runRequest sampleUrl otherUrl [{ url := otherUrl, status := 302 }] (runBody sampleGuid none none)

def redirectedChange : Operation := .ingest (runEnv 'b' 5) oneFeedDb redirectedRequest

theorem redirectedChange_facts :
    classifySubmission oneFeedDb sampleGuid sampleUrl otherUrl = .guidChange "f1" ∧
      (getFeedByGuid oneFeedDb "f1").map Feed.feedUrl = some sampleUrl ∧
      getFeedByGuid (redirectedChange.next oneFeedDb) "f1" = none ∧
      (getFeedByGuid (redirectedChange.next oneFeedDb) sampleGuid).map Feed.feedUrl =
        some otherUrl := by
  decide +kernel

/-- The record of the new GUID does not have the URL of the record that it replaces. -/
theorem guidChange_takes_canonicalUrl :
    ¬ ∀ (signer : NodeSigner) (history : List RunStep) (d : Db),
      PrimaryRun (fun _ operation => operation.SignedBy signer) history d →
        ∀ later s earlier, history = later ++ s :: earlier →
          RetiresRightly earlier s.before s.operation := by
  intro hall
  obtain ⟨hclass, hheld, hgone, hnew⟩ := redirectedChange_facts
  obtain ⟨held, hheld, hurl⟩ := Option.map_eq_some_iff.mp hheld
  obtain ⟨feed, hfeed, hother⟩ := Option.map_eq_some_iff.mp hnew
  have hrun := oneFeedDb_run.step redirectedChange rfl
  have hstep := hall runSigner _ _ hrun [] _ _ rfl
  -- the state of the step is named before it is compared
  dsimp only at hstep
  have hright := hstep (runEnv 'b' 5) oneFeedDb redirectedRequest (runBody sampleGuid none none)
    "f1" held rfl rfl hclass hheld hgone
  have hsame := hright.2 feed hfeed
  rw [hurl, hother] at hsame
  exact absurd hsame (by decide)

/-- The operator has approved the change of `f1` to `g2`. -/
def approvedDb : Db := approving.next rejectedDb

def approvedHistory : List RunStep :=
  { before := rejectedDb, operation := approving } ::
    { before := pendingDb, operation := rejecting } :: pendingHistory

def approvedChange : Operation := .ingest (runEnv 'n' 5) approvedDb (sampleRequest "g2" [])

theorem approvedDb_facts :
    classifySubmission (Database.empty schema) "f1" sampleUrl sampleUrl = .newFeed ∧
      admitsContent (runEnv 'p' 2) (sampleRequest "g2" []) (sampleBody "g2" []) oneFeedDb = false ∧
      (getFeedByGuid approvedDb "f1").map (fun held => (held.feedGuid, held.feedUrl)) =
        some ("f1", sampleUrl) ∧
      (getGuidChange approvedDb sampleUrl).map
          (fun row => (row.oldGuid, row.newGuid, row.decision)) =
        some ("f1", "g2", some "approve") ∧
      classifySubmission approvedDb "g2" sampleUrl sampleUrl = .guidChange "f1" ∧
      getFeedByGuid (approvedChange.next approvedDb) "f1" = none ∧
      (getFeedByGuid (approvedChange.next approvedDb) "g2").isSome = true := by
  decide +kernel

theorem approvedDb_run : PrimaryRun Operation.ChangesFromHeld approvedHistory approvedDb := by
  obtain ⟨hnew, hwaits, -⟩ := approvedDb_facts
  refine .step approving (.step rejecting (.step pendingIngest (.step firstIngest .empty ?_) ?_)
    ?_) ?_
  · rintro env snapshot req body heldGuid held h hreach hclass -
    cases h
    cases hreach.carries
    have hsame : SubmissionClass.newFeed = .guidChange heldGuid := hnew.symm.trans hclass
    cases hsame
  · rintro env snapshot req body heldGuid held h hreach - -
    cases h
    cases hreach.carries
    exact absurd (hwaits.symm.trans hreach.admits) (by decide)
  · rintro env snapshot req body heldGuid held h
    cases h
  · rintro env snapshot req body heldGuid held h
    cases h

theorem run_retiresRightly_approved :
    ∃ held feed, getFeedByGuid approvedDb "f1" = some held ∧
      getFeedByGuid (approvedChange.next approvedDb) "g2" = some feed ∧
      (guidOriginMatches "g2" held.feedUrl = true ∨ Approved approvedHistory "f1" "g2") ∧
      feed.feedUrl = held.feedUrl := by
  obtain ⟨-, -, hheld, hrow, hclass, hgone, hnew⟩ := approvedDb_facts
  obtain ⟨held, hheld, hfields⟩ := Option.map_eq_some_iff.mp hheld
  obtain ⟨hguid, hurl⟩ := Prod.mk.inj hfields
  obtain ⟨row, hrow, hvalues⟩ := Option.map_eq_some_iff.mp hrow
  obtain ⟨hold, hnewGuid, hdecision⟩ : row.oldGuid = "f1" ∧ row.newGuid = "g2" ∧
      row.decision = some "approve" := by simpa using hvalues
  obtain ⟨feed, hfeed⟩ := Option.isSome_iff_exists.mp hnew
  have hfrom : approvedChange.ChangesFromHeld approvedDb := by
    rintro env snapshot req body heldGuid other h hreach hclass' hother
    cases h
    cases hreach.carries
    have hsame : heldGuid = "f1" := by
      have heq : SubmissionClass.guidChange heldGuid = .guidChange "f1" :=
        hclass'.symm.trans hclass
      cases heq
      rfl
    rw [hsame, hheld] at hother
    cases hother
    exact ⟨hurl.symm, Or.inr ⟨row, hrow, hold.trans hguid.symm, hnewGuid, hdecision⟩⟩
  have hstep := run_retiresRightly (approvedDb_run.step approvedChange hfrom) [] _ _ rfl
  dsimp only at hstep
  have hright := hstep (runEnv 'n' 5) approvedDb (sampleRequest "g2" []) (sampleBody "g2" []) "f1"
    held rfl rfl hclass hheld hgone
  exact ⟨held, feed, hheld, hfeed, hright.1, hright.2 feed hfeed⟩

end Sample

end Stophammer
