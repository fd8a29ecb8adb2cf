import Stophammer.Blocks
import Stophammer.SampleRun

/-!
# Submissions under a block

The reader of a request looks for a block on the GUID, the source URL and the canonical URL.
It reads a snapshot, and a block can be committed between this read and the first write.  The
URLs of the redirects are not looked up.
-/

namespace Stophammer

open Relational Statement

section

variable [Platform] {d : Db}

def IngestFeedRequest.feedGuid (req : IngestFeedRequest) : Option String :=
  req.feedData.map IngestFeedData.feedGuid

/-- The URLs that a submission came through. -/
def IngestFeedRequest.urls (req : IngestFeedRequest) : List String :=
  req.sourceUrl :: req.canonicalUrl :: req.redirects.map RedirectHop.url

/-- The block is on the GUID of the submission or on one of its URLs. -/
def FeedBlock.Names (block : FeedBlock) (req : IngestFeedRequest) : Prop :=
  (block.kind = .guid ∧ ∃ guid, req.feedGuid = some guid ∧
      block.value = FeedBlockKind.guid.normalize guid) ∨
    (block.kind = .url ∧ ∃ url ∈ req.urls, url ≠ "" ∧
      block.value = FeedBlockKind.url.normalize url)

/-- A committed block names the submission. -/
def Blocked (d : Db) (req : IngestFeedRequest) : Prop := ∃ block ∈ d .feedBlocks, block.Names req

/-- The reader finds a block for a submission that a committed block names.  The report of a gone
source is checked under the lock of the writer. -/
def Operation.SeesBlocks (d : Db) : Operation → Prop
  | .ingest env snapshot req =>
    Blocked d req → env.chain.authenticate req = none → isGoneReport req = false →
      (findFeedBlock snapshot req.feedGuid [req.sourceUrl, req.canonicalUrl]).isSome = true
  | _ => True

/-- A submission that a committed block names changes no table. -/
def Operation.StopsAtBlocks (d : Db) (operation : Operation) : Prop :=
  ∀ env snapshot req, operation = .ingest env snapshot req → Blocked d req → operation.next d = d

theorem sourceGoneReportCounts_redirects {req : IngestFeedRequest} {hosts : List String}
    (h : sourceGoneReportCounts req hosts = true) : req.redirects = [] := by
  rw [sourceGoneReportCounts, Bool.and_eq_true, Bool.and_eq_true] at h
  exact List.isEmpty_iff.mp h.1.2

theorem Blocked.goneReport {req : IngestFeedRequest} (h : Blocked d req)
    (hgone : isGoneReport req = true) :
    (findFeedBlock d none [req.sourceUrl, req.canonicalUrl]).isSome = true ∨
      req.redirects ≠ [] := by
  rw [isGoneReport, Bool.and_eq_true, Option.isNone_iff_eq_none] at hgone
  obtain ⟨block, hblock, ⟨-, guid, hguid, -⟩ | ⟨hkind, url, hurl, hfull, hvalue⟩⟩ := h
  · rw [IngestFeedRequest.feedGuid, hgone.1] at hguid
    cases hguid
  · by_cases hred : req.redirects = []
    · left
      rw [IngestFeedRequest.urls, hred, List.map_nil] at hurl
      rw [findFeedBlock_isSome]
      exact Or.inr ⟨url, hurl, hfull, (getFeedBlockByPair_isSome d .url url).mpr
        ⟨block, hblock, hkind, hvalue⟩⟩
    · exact Or.inr hred

theorem handleSourceGoneReport_blocked {env : IngestEnv} {req : IngestFeedRequest}
    (h : Blocked d req) (hgone : isGoneReport req = true) :
    (handleSourceGoneReport env req d).2 = d := by
  unfold handleSourceGoneReport
  rw [read_bind_run]
  rcases h.goneReport hgone with hfound | hredirects
  · rw [if_pos hfound]
    rfl
  · have hcounts : sourceGoneReportCounts req env.sourceGoneHosts = false := by
      by_contra hcounts
      exact hredirects (sourceGoneReportCounts_redirects (eq_true_of_ne_false hcounts))
    split
    · rfl
    · rw [read_bind_run, hcounts]
      rfl

theorem Operation.SeesBlocks.stops {operation : Operation} (h : operation.SeesBlocks d) :
    operation.StopsAtBlocks d := by
  rintro env snapshot req rfl hblocked
  change (handleIngestFeed env snapshot req d).2 = d
  unfold handleIngestFeed
  cases hauth : env.chain.authenticate req with
  | some reason => rfl
  | none =>
    by_cases hgone : isGoneReport req = true
    · simp only [if_pos hgone]
      exact handleSourceGoneReport_blocked hblocked hgone
    · have hfound := h hblocked hauth (eq_false_of_ne_true hgone)
      have hphase : readPhase env snapshot req = .rejected "blocked" := by
        unfold readPhase
        exact if_pos hfound
      simp only [if_neg hgone, hphase]
      rfl

/-- In a run in which every reader finds a block for each submission that a committed block
names, such a submission leaves every table and the log. -/
theorem run_stopsAtBlocks {history : List RunStep}
    (hrun : PrimaryRun Operation.SeesBlocks history d) :
    ∀ s ∈ history, s.operation.StopsAtBlocks s.before :=
  fun _ hs => (hrun.before hs).1.stops

end

section Sample

attribute [local instance] runPlatform

def blockingSample : Operation :=
  .admin (runOperatorEnv 'd' 1) true (.createBlock .url sampleUrl "spam")

def sampleBlockedDb : Db := blockingSample.next (Database.empty schema)

/-- The reader of the submission saw the empty database. -/
def lateBlockHistory : List RunStep :=
  [{ before := sampleBlockedDb, operation := firstIngest },
    { before := Database.empty schema, operation := blockingSample }]

/-- The reader of the submission sees the block. -/
def seeingIngest : Operation := .ingest (runEnv 'a' 1) sampleBlockedDb (sampleRequest "f1" [])

theorem sampleBlockedDb_facts :
    (sampleBlockedDb .feedBlocks).map (fun block : FeedBlock => (block.kind, block.value)) =
        [(.url, sampleUrl)] ∧
      FeedBlockKind.url.normalize sampleUrl = sampleUrl ∧
      (findFeedBlock sampleBlockedDb (some "f1") [sampleUrl, sampleUrl]).isSome = true ∧
      (sampleBlockedDb .events).length = 1 ∧
      ((firstIngest.next sampleBlockedDb) .events).length = 3 := by
  decide +kernel

theorem sampleBlockedDb_blocked : Blocked sampleBlockedDb (sampleRequest "f1" []) := by
  obtain ⟨hrows, hurl, -⟩ := sampleBlockedDb_facts
  have hmem : (FeedBlockKind.url, sampleUrl) ∈ (sampleBlockedDb .feedBlocks).map
      (fun block : FeedBlock => (block.kind, block.value)) := by
    rw [hrows]
    exact List.mem_singleton_self _
  obtain ⟨block, hblock, heq⟩ := List.mem_map.mp hmem
  obtain ⟨hkind, hvalue⟩ := Prod.mk.inj heq
  exact ⟨block, hblock, Or.inr ⟨hkind, sampleUrl, List.mem_cons_self, by decide,
    hvalue.trans hurl.symm⟩⟩

/-- The block on the URL is committed before the first write of the submission, and its content
goes in. -/
theorem late_block_missed :
    PrimaryRun (fun _ operation => operation.SignedBy runSigner) lateBlockHistory
        (firstIngest.next sampleBlockedDb) ∧
      ¬∀ s ∈ lateBlockHistory, s.operation.StopsAtBlocks s.before := by
  refine ⟨.step firstIngest (.step blockingSample .empty rfl) rfl, ?_⟩
  intro h
  obtain ⟨-, -, -, hbefore, hafter⟩ := sampleBlockedDb_facts
  have hstops : firstIngest.StopsAtBlocks sampleBlockedDb := h _ List.mem_cons_self
  have hsame : firstIngest.next sampleBlockedDb = sampleBlockedDb :=
    hstops _ _ _ rfl sampleBlockedDb_blocked
  rw [hsame, hbefore] at hafter
  exact absurd hafter (by decide)

theorem run_stopsAtBlocks_seen : seeingIngest.next sampleBlockedDb = sampleBlockedDb := by
  obtain ⟨-, -, hfound, -⟩ := sampleBlockedDb_facts
  have hrun : PrimaryRun Operation.SeesBlocks
      [{ before := sampleBlockedDb, operation := seeingIngest },
        { before := Database.empty schema, operation := blockingSample }]
      (seeingIngest.next sampleBlockedDb) :=
    .step seeingIngest (.step blockingSample .empty trivial) fun _ _ _ => hfound
  exact run_stopsAtBlocks hrun _ List.mem_cons_self _ _ _ rfl sampleBlockedDb_blocked

end Sample

end Stophammer
