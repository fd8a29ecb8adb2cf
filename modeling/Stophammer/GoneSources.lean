import Stophammer.Accepted
import Stophammer.GuidChange
import Stophammer.RecordChange

/-!
# Gone sources

A record is retired for its source when a report of a gone source comes a day after an earlier
one.  The first report stays stored until a new content goes in or the record leaves.
-/

namespace Stophammer

open Relational Statement

section

variable [Platform] {d e : Db} {guid : String}

omit [Platform] in
theorem getSourceGoneAnswer_row {answer : SourceGoneAnswer}
    (h : getSourceGoneAnswer d guid = some answer) : ∃ row, feedRow d guid = some row := by
  have hguid := List.find?_some h
  rw [beq_iff_eq] at hguid
  have hfeed : d.Has (Key.feed answer.feedGuid) :=
    d.valid.referenced .sourceGoneAnswers answer (List.mem_of_find?_eq_some h) _
      List.mem_cons_self
  obtain ⟨r, hr, hkey⟩ := (Database.has_iff (S := schema) (t := .feeds) rfl).mp hfeed
  have hsame : r.feed.feedGuid = guid := by
    rcases List.mem_cons.mp hkey with hfeedKey | hurlKey
    · exact (Key.feed.inj hfeedKey).symm.trans hguid
    · cases List.mem_singleton.mp hurlKey
  exact Option.isSome_iff_exists.mp (List.find?_isSome.mpr ⟨r, hr, by simp [hsame]⟩)

omit [Platform] in
theorem feedGuidForSourceUrl_row {url : String} (h : feedGuidForSourceUrl d url = some guid) :
    ∃ row, feedRow d guid = some row ∧ row.feed.feedUrl = url := by
  obtain ⟨feed, hfind, hguid⟩ := Option.map_eq_some_iff.mp h
  obtain ⟨row, hrow, rfl⟩ := List.mem_map.mp (List.mem_of_find?_eq_some hfind)
  have hurl := List.find?_some hfind
  rw [beq_iff_eq] at hurl
  obtain ⟨stored, hstored⟩ := Option.isSome_iff_exists.mp (List.find?_isSome.mpr
    ⟨row, hrow, by simp [hguid]⟩ : (feedRow d guid).isSome)
  have hkey := List.find?_some hstored
  rw [beq_iff_eq] at hkey
  have hsame : stored = row := d.eq_of_shared_key (List.mem_of_find?_eq_some hstored) hrow
    (k := Key.feed guid) (hkey ▸ List.mem_cons_self) (hguid ▸ List.mem_cons_self)
  exact ⟨stored, hstored, hsame ▸ hurl⟩

namespace RunStep

/-- The step is a counted report of the gone source of the record, at this time. -/
def ReportsGone (guid : String) (s : RunStep) (url : String) (reportedAt : Int) : Prop :=
  ∃ env snapshot req, s.operation = .ingest env snapshot req ∧
    CountedGoneReport env s.before req guid ∧ req.sourceUrl = url ∧ env.now .goneReport = reportedAt

def AcceptsContent (guid : String) (s : RunStep) : Prop :=
  ∃ env snapshot req body out e, s.operation = .ingest env snapshot req ∧
    req.feedData = some body ∧ body.feedGuid = guid ∧
    handleIngestFeed env snapshot req s.before = (.ok out, e) ∧
    out.response.accepted = true ∧ out.response.noChange = false

/-- An operator gives the record another URL. -/
def RelocatesFeed (guid : String) (s : RunStep) : Prop :=
  ∃ env tokenAccepted request, s.operation = .admin env tokenAccepted request ∧
    request.Relocates guid

end RunStep

theorem handleNoChange_noChange {env : IngestEnv} {req : IngestFeedRequest} {out : IngestOutput}
    (h : handleNoChange env req d = (.ok out, e)) (haccepted : out.response.accepted = true) :
    out.response.noChange = true := by
  have hfinish : ∀ {feedData mirrorSource},
      handleNoChange.finish env req feedData mirrorSource d = (.ok out, e) →
        out.response.noChange = true := by
    intro feedData mirrorSource hrun
    obtain ⟨signedRows, d₁, -, hrest⟩ := bind_ok hrun
    obtain ⟨events, d₂, -, hpure⟩ := bind_ok hrest
    cases hpure
    rfl
  unfold handleNoChange at h
  cases hdata : req.feedData with
  | none =>
    rw [hdata] at h
    cases h
    rfl
  | some feedData =>
    rw [hdata] at h
    simp only [read_bind_run] at h
    cases hclass : classifySubmission d feedData.feedGuid req.sourceUrl req.canonicalUrl with
    | recordConflict =>
      rw [hclass] at h
      cases h
      cases haccepted
    | guidChange heldGuid =>
      rw [hclass] at h
      cases h
      cases haccepted
    | update =>
      rw [hclass] at h
      exact hfinish h
    | newFeed =>
      rw [hclass] at h
      exact hfinish h
    | mirror sourceUrl =>
      rw [hclass] at h
      exact hfinish h

theorem RunStep.AcceptsContent.answer {s : RunStep} (h : s.AcceptsContent guid) :
    getSourceGoneAnswer (s.operation.next s.before) guid = none := by
  obtain ⟨env, snapshot, req, body, out, e, hop, hbody, rfl, hrun, haccepted, hchanged⟩ := h
  have hnext : s.operation.next s.before = e := by
    rw [hop, Operation.next, hrun]
  rw [hnext]
  rcases accepted_cases hrun haccepted with ⟨-, hsame⟩ | ⟨own, warnings, admission, hreach, ⟨c⟩⟩
  · exact absurd (handleNoChange_noChange hsame haccepted) (by simp [hchanged])
  · have hown : own = body := Option.some.inj (hreach.carries.symm.trans hbody)
    subst hown
    have hanswers : e .sourceGoneAnswers = c.stored .sourceGoneAnswers :=
      c.stored_same .sourceGoneAnswers (by decide)
    have hrecord : record c.stored own.feedGuid = _ := ingestTransaction_record c.stores
    have hsame : own.feedGuid =
        (buildInput env req own c.decided admission.recordMove).content.feed.feedGuid := rfl
    rw [if_pos hsame] at hrecord
    have hgone : (record c.stored own.feedGuid).gone = none := by rw [hrecord]; rfl
    rw [getSourceGoneAnswer, hanswers]
    exact hgone

/-- A counted report of the URL came at this time, and since then the record was there, and no
new content of it. -/
def GoneSince (guid : String) (history : List RunStep) (d : Db) (since : Int) : Prop :=
  ∃ between first earlier url, history = between ++ first :: earlier ∧
    first.ReportsGone guid url since ∧
    (∀ s ∈ between, (feedRow s.before guid).isSome ∧ ¬ s.AcceptsContent guid) ∧
    ((∃ s ∈ between, s.RelocatesFeed guid) ∨
      (getFeedByGuid d guid).map Feed.feedUrl = some url)

omit [Platform] in
theorem getFeedByGuid_url (d : Db) (guid : String) :
    (getFeedByGuid d guid).map Feed.feedUrl = (record d guid).feedUrl := by
  rw [getFeedByGuid_record, Record.feedUrl, Option.map_map]
  rfl

theorem GoneSince.step {history : List RunStep} {operation : Operation} {since : Int}
    (h : GoneSince guid history d since) (hrow : (feedRow d guid).isSome)
    (hcontent : ¬ RunStep.AcceptsContent guid { before := d, operation := operation })
    (hurl : RunStep.RelocatesFeed guid { before := d, operation := operation } ∨
      (getFeedByGuid (operation.next d) guid).map Feed.feedUrl =
        (getFeedByGuid d guid).map Feed.feedUrl) :
    GoneSince guid ({ before := d, operation := operation } :: history) (operation.next d)
      since := by
  obtain ⟨between, first, earlier, url, rfl, hfirst, hbetween, hsource⟩ := h
  refine ⟨_ :: between, first, earlier, url, rfl, hfirst, ?_, ?_⟩
  · rintro s (_ | ⟨_, hs⟩)
    · exact ⟨hrow, hcontent⟩
    · exact hbetween s hs
  · rcases hurl with hrelocates | hsame
    · exact .inl ⟨_, List.mem_cons_self, hrelocates⟩
    · rcases hsource with ⟨s, hs, hmoved⟩ | hstays
      · exact .inl ⟨s, List.mem_cons_of_mem _ hs, hmoved⟩
      · exact .inr (hsame.trans hstays)

theorem run_goneSince {ok : Db → Operation → Prop} {history : List RunStep}
    (hrun : PrimaryRun ok history d) {answer : SourceGoneAnswer}
    (hanswer : getSourceGoneAnswer d guid = some answer) :
    GoneSince guid history d answer.firstGoneAt := by
  induction hrun generalizing answer with
  | empty => cases hanswer
  | @step history d operation hrun hok ih =>
    have hcontent : ¬ RunStep.AcceptsContent guid { before := d, operation := operation } := by
      intro haccepts
      rw [haccepts.answer] at hanswer
      cases hanswer
    have hstays : (record d guid).gone.map SourceGoneAnswer.firstGoneAt = some answer.firstGoneAt →
        (RunStep.RelocatesFeed guid { before := d, operation := operation } ∨
          (record (operation.next d) guid).feedUrl = (record d guid).feedUrl) →
        GoneSince guid ({ before := d, operation := operation } :: history) (operation.next d)
          answer.firstGoneAt := by
      intro hsame hurl
      obtain ⟨old, hold, hfirst⟩ := Option.map_eq_some_iff.mp hsame
      obtain ⟨row, hrow⟩ := getSourceGoneAnswer_row hold
      rw [← getFeedByGuid_url, ← getFeedByGuid_url] at hurl
      exact (hfirst ▸ ih hold).step (Option.isSome_iff_exists.mpr ⟨row, hrow⟩) hcontent hurl
    have hchange := operation.change d guid
    have hgone : (record (operation.next d) guid).gone = some answer := hanswer
    have hurl := getFeedByGuid_url (operation.next d) guid
    generalize hafter : record (operation.next d) guid = r at hchange hgone hstays hurl
    cases hchange with
    | same => exact hstays (by rw [hgone]; rfl) (.inr rfl)
    | @answered env snapshot req report early =>
      cases hbefore : (record d guid).gone with
      | none =>
        rw [Record.answered, hbefore] at hgone
        cases hgone
        obtain ⟨row, hrow, hsource⟩ := feedGuidForSourceUrl_row report.source
        refine ⟨[], _, history, req.sourceUrl, rfl, ⟨env, snapshot, req, rfl, report, rfl, rfl⟩,
          fun s hs => absurd hs List.not_mem_nil, .inr ?_⟩
        have hrow' : (record d guid).row = some row := hrow
        rw [hurl, Record.feedUrl, Record.answered, hrow', Option.map_some, hsource]
      | some old =>
        rw [Record.answered, hbefore] at hgone
        cases hgone
        exact hstays (by rw [hbefore]; rfl) (.inr rfl)
    | sourceGone report late => cases hgone
    | sourceBlocked carries own blocks => cases hgone
    | superseded reaches held => cases hgone
    | content reaches own => cases hgone
    | retired block => cases hgone
    | @relocated env request row newUrl relocates stored =>
      exact hstays (congrArg _ hgone) (.inl ⟨env, true, request, rfl, relocates⟩)

/-- What a record that a report takes away went through: a report a day before it, and since then
the record was there and no new content of it was accepted.  The two reports name one source URL
unless an operator relocated the record. -/
def GoneForADay (guid : String) (earlier : List RunStep) (url : String) (reportedAt : Int) : Prop :=
  ∃ between first before firstUrl since, earlier = between ++ first :: before ∧
    first.ReportsGone guid firstUrl since ∧ sourceGoneRetireAfterSecs ≤ reportedAt - since ∧
    (∀ s ∈ between, (feedRow s.before guid).isSome ∧ ¬ s.AcceptsContent guid) ∧
    ((∃ s ∈ between, s.RelocatesFeed guid) ∨ firstUrl = url)

theorem retired_goneForADay {ok : Db → Operation → Prop} {history : List RunStep}
    (hrun : PrimaryRun ok history d) {env : IngestEnv} {snapshot : Db} {req : IngestFeedRequest}
    (hreport : isGoneReport req = true) (hheld : (feedRow d guid).isSome)
    (hgone : feedRow (Operation.next (.ingest env snapshot req) d) guid = none) :
    CountedGoneReport env d req guid ∧
      GoneForADay guid history req.sourceUrl (env.now .goneReport) := by
  have hnone : req.feedData = none := by
    rw [isGoneReport, Bool.and_eq_true, Option.isNone_iff_eq_none] at hreport
    exact hreport.1
  have hchange := Operation.change (.ingest env snapshot req) d guid
  have hrow : (record (Operation.next (.ingest env snapshot req) d) guid).row = none := hgone
  generalize record (Operation.next (.ingest env snapshot req) d) guid = r at hchange hrow
  cases hchange with
  | same =>
    have hlost : feedRow d guid = none := hrow
    rw [hlost] at hheld
    cases hheld
  | answered report early =>
    have hlost : feedRow d guid = none := hrow
    rw [hlost] at hheld
    cases hheld
  | sourceBlocked carries own blocks => cases hnone.symm.trans carries
  | superseded reaches held => cases hnone.symm.trans reaches.carries
  | content reaches own => cases hrow
  | sourceGone report late =>
    obtain ⟨answer, hanswer, hlate⟩ := (Option.any_eq_true _ _).mp late
    obtain ⟨between, first, before, firstUrl, hhistory, hfirst, hbetween, hsource⟩ :=
      run_goneSince hrun hanswer
    refine ⟨report, between, first, before, firstUrl, _, hhistory, hfirst,
      of_decide_eq_true hlate, hbetween, hsource.imp_right fun hurl => ?_⟩
    obtain ⟨row, hrow, hown⟩ := feedGuidForSourceUrl_row report.source
    have hfeed : getFeedByGuid d guid = some row.feed := congrArg (Option.map FeedRow.feed) hrow
    rw [hfeed] at hurl
    exact (Option.some.inj hurl).symm.trans hown

/-- In every run, a report of a gone source retires a record only when it counts, and when the
source was gone for a day. -/
theorem run_sourceGone {ok : Db → Operation → Prop} {history : List RunStep}
    (hrun : PrimaryRun ok history d) :
    ∀ later s earlier, history = later ++ s :: earlier →
      ∀ env snapshot req guid, s.operation = .ingest env snapshot req →
        isGoneReport req = true → (feedRow s.before guid).isSome →
          feedRow (s.operation.next s.before) guid = none →
            CountedGoneReport env s.before req guid ∧
              GoneForADay guid earlier req.sourceUrl (env.now .goneReport) := by
  induction hrun with
  | empty =>
    intro later s earlier h
    cases later <;> cases h
  | step operation hbefore hok ih =>
    intro later s earlier h
    cases later with
    | nil =>
      cases h
      rintro env snapshot req guid rfl hreport hheld hgone
      exact retired_goneForADay hbefore hreport hheld hgone
    | cons last later => exact ih later s earlier (List.cons.inj h).2

end

section Sample

attribute [local instance] runPlatform

/-- The source URL of `f1` gives the status 410. -/
def goneRequest : IngestFeedRequest :=
  { sampleRequest "f1" [] with feedData := none, httpStatus := 410 }

def firstReport : Operation := .ingest (runEnv 'g' 10) oneFeedDb goneRequest

def reportedDb : Db := firstReport.next oneFeedDb

/-- A day later. -/
def lastReport : Operation := .ingest (runEnv 'h' 86410) reportedDb goneRequest

theorem run_sourceGone_reported :
    GoneForADay "f1"
      [{ before := oneFeedDb, operation := firstReport },
        { before := Database.empty schema, operation := firstIngest }] sampleUrl 86410 := by
  have hheld : (feedRow reportedDb "f1").isSome := by decide +kernel
  have hgone : feedRow (lastReport.next reportedDb) "f1" = none := by decide +kernel
  have hrun : PrimaryRun (fun _ operation => operation.SignedBy runSigner)
      ({ before := reportedDb, operation := lastReport } :: _) _ :=
    .step lastReport (.step firstReport oneFeedDb_run rfl) rfl
  have hstep := run_sourceGone hrun [] _ _ rfl
  dsimp only at hstep
  exact (hstep (runEnv 'h' 86410) reportedDb goneRequest "f1" rfl rfl hheld hgone).2

end Sample

end Stophammer
