import Stophammer.SourceMoves

/-!
# The build date of a record

An update with an older build date is stale.  A mirror that moves the record is not asked for
its date, so the stored date goes back only by such a move.
-/

namespace Stophammer

open Relational Statement

def Record.lastBuildDate (r : Record) : Option Int := r.row.bind fun row => row.feed.lastBuildDate

section

variable [Platform] {d : Db} {guid : String}

/-- The content of a mirror that moves the record to its own URL. -/
structure MirrorMove (env : IngestEnv) (snapshot d : Db) (req : IngestFeedRequest)
    (body : IngestFeedData) : Prop where
  reaches : ReachesContent env snapshot d req body
  moves : ∃ target, DeclaredMove d body.feedGuid req.sourceUrl req.canonicalUrl body
    (env.now .writeMove) target

omit [Platform] in
theorem getFeedByGuid_lastBuildDate (d : Db) (guid : String) :
    (getFeedByGuid d guid).bind Feed.lastBuildDate = (record d guid).lastBuildDate := by
  rw [getFeedByGuid_record, Record.lastBuildDate, Option.bind_map]
  rfl

omit [Platform] in
theorem le_of_not_isStale {body : IngestFeedData} {stored submitted : Int}
    (h : isStale body d = false)
    (hstored : (record d body.feedGuid).lastBuildDate = some stored)
    (hsubmitted : body.lastBuildDate = some submitted) : stored ≤ submitted := by
  rw [isStale, getFeedByGuid_lastBuildDate, hstored, hsubmitted] at h
  simpa using h

theorem Record.written_lastBuildDate {r : Record} {env : IngestEnv} {req : IngestFeedRequest}
    {body : IngestFeedData} {recordMove recordMove' : Option RecordMove} :
    (r.written (contentFeed env req body d recordMove) body recordMove').lastBuildDate =
      body.lastBuildDate := by
  cases hrow : r.row <;> simp [Record.lastBuildDate, Record.written, Record.storedRow, hrow] <;> rfl

/-- Content is an update that is not stale, the first content of its GUID, or a mirror that
moves the record. -/
theorem ReachesContent.dates {env : IngestEnv} {snapshot : Db} {req : IngestFeedRequest}
    {body : IngestFeedData} (h : ReachesContent env snapshot d req body) :
    isStale body d = false ∨ (record d body.feedGuid).row = none ∨
      MirrorMove env snapshot d req body := by
  have hadmits := h.admits
  unfold admitsContent at hadmits
  cases hclass : classifySubmission d body.feedGuid req.sourceUrl req.canonicalUrl with
  | update =>
    rw [hclass] at hadmits
    simp only [Bool.and_eq_true, Bool.not_eq_true'] at hadmits
    exact .inl hadmits.1
  | mirror source =>
    rw [hclass] at hadmits
    simp only at hadmits
    cases hmove : moveTarget d body.feedGuid req.sourceUrl req.canonicalUrl req.redirects body
        (env.now .writeMove) with
    | move target =>
      rcases moveTarget_move hmove with hredirect | hdeclared
      · have hupdate := hredirect.update
        rw [hclass] at hupdate
        cases hupdate
      · exact .inr (.inr ⟨h, target, hdeclared⟩)
    | noTrigger | refused | waitingRedirect =>
      rw [hmove] at hadmits
      cases hadmits
  | recordConflict =>
    rw [hclass] at hadmits
    cases hadmits
  | guidChange heldGuid =>
    have hnone := (classifySubmission_guidChange hclass).1
    exact .inr (.inl (Option.map_eq_none_iff.mp hnone))
  | newFeed =>
    have hnone := (classifySubmission_newFeed.mp hclass).2
    exact .inr (.inl (Option.map_eq_none_iff.mp hnone))

/-- The stored build date goes back only when a mirror moves the record, and then it is the one
of the mirror. -/
theorem lastBuildDate_goesBack (d : Db) (guid : String) :
    ∀ operation stored later, (record d guid).lastBuildDate = some stored →
      (record (Operation.next operation d) guid).lastBuildDate = some later →
        stored ≤ later ∨ ∃ env snapshot req body, operation = .ingest env snapshot req ∧
          body.feedGuid = guid ∧ MirrorMove env snapshot d req body ∧
            body.lastBuildDate = some later := by
  intro operation stored later hstored hlater
  have hchange := operation.change d guid
  generalize record (operation.next d) guid = r at *
  cases hchange with
  | same =>
    rw [hstored] at hlater
    exact .inl (Option.some.inj hlater).le
  | answered report =>
    have hsame : some stored = some later := hstored.symm.trans hlater
    exact .inl (Option.some.inj hsame).le
  | sourceGone | sourceBlocked | superseded | retired => cases hlater
  | relocated newUrl relocates hrow =>
    rw [Record.lastBuildDate, Record.relocated, hrow] at hlater
    cases hlater
  | content reaches own =>
    subst own
    rw [Record.written_lastBuildDate] at hlater
    rcases reaches.dates with hfresh | hnone | hmirror
    · exact .inl (le_of_not_isStale hfresh hstored hlater)
    · rw [Record.lastBuildDate, hnone] at hstored
      cases hstored
    · exact .inr ⟨_, _, _, _, rfl, rfl, hmirror, hlater⟩

end

section Sample

attribute [local instance] runPlatform

/-- The first URL serves a body of the date 100 and names the second URL. -/
def datedIngest : Operation :=
  .ingest (runEnv 'a' 1) (Database.empty schema)
    (runRequest sampleUrl sampleUrl [] (runBody "f1" (some otherUrl) (some 100)))

def datedDb : Db := datedIngest.next (Database.empty schema)

/-- The second URL serves an older body. -/
def olderMove : Operation :=
  .ingest (runEnv 'v' 3) datedDb (runRequest otherUrl otherUrl [] (runBody "f1" none (some 50)))

theorem olderMove_dates :
    (record datedDb "f1").lastBuildDate = some 100 ∧
      (record (olderMove.next datedDb) "f1").lastBuildDate = some 50 := by
  decide +kernel

theorem olderMove_stored :
    ¬ ∀ (history : List RunStep) (d : Db), PrimaryRun (fun _ _ => True) history d →
        ∀ env snapshot req guid stored later, (record d guid).lastBuildDate = some stored →
          (record (handleIngestFeed env snapshot req d).2 guid).lastBuildDate = some later →
            stored ≤ later := by
  intro hall
  have hrun : PrimaryRun (fun _ _ => True)
      [{ before := Database.empty schema, operation := datedIngest }] datedDb :=
    .step datedIngest .empty trivial
  have hle := hall _ _ hrun _ _ _ "f1" _ _ olderMove_dates.1 olderMove_dates.2
  exact absurd hle (by decide)

theorem lastBuildDate_goesBack_olderMove :
    (100 : Int) ≤ 50 ∨ ∃ env snapshot req body, olderMove = .ingest env snapshot req ∧
      body.feedGuid = "f1" ∧ MirrorMove env snapshot datedDb req body ∧
        body.lastBuildDate = some 50 :=
  lastBuildDate_goesBack datedDb "f1" olderMove 100 50 olderMove_dates.1 olderMove_dates.2

end Sample

end Stophammer
