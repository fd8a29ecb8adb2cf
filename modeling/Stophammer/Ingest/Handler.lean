import Stophammer.Ingest.Observe
import Stophammer.Ingest.Verify
import Stophammer.Sse

/-!
# The ingest handler

`POST /ingest/feed` on a primary.  The verifiers read a snapshot that can be older than
the state that the write phase finds.  A transaction that has committed stays when a
later step fails.
-/

namespace Stophammer

open Relational Statement

/-- The answer of a handler that failed.  The text of a parser error is left out. -/
structure ApiError where
  status : Nat
  message : String
deriving DecidableEq

def ApiError.ofDb (e : DbError) : ApiError where
  status := 500
  message :=
    match e with
    | .rusqlite _ => "database error"
    | .json => "json error"
    | .poisoned => "database mutex poisoned"
    | .other message => message

/-- A step of the handler.  The state is the committed database. -/
abbrev Handler (α : Type) : Type := Statement ApiError Db α

def dbStep {α : Type} (x : Stmt α) : Handler α := mapError ApiError.ofDb x

/-- The reads of the clock and the places where a new event gets its id. -/
inductive IngestStep where
  | goneReport
  | sourceBlock
  | guidReturn
  | readMove
  | writeMove
  | guidPending
  | urlObservations
  | canonicalCopy
  | sourceCopy
  | content
  | guidTransition
  | staleTracks
deriving DecidableEq

/-- The configuration of a primary with its clock and its random ids. -/
structure IngestEnv extends PrimaryEnv where
  chain : VerifierChain
  sourceGoneHosts : List String
  now : IngestStep → Int
  uuid : IngestStep → Nat → String

structure IngestOutput where
  response : IngestResponse
  fanoutEvents : List Event
  liveSseFrames : List (String × SseFrame)
deriving DecidableEq

/-- The answer to a submission that is not accepted. -/
def refused (reason : String) (eventIds : List String) (events : List Event) : IngestOutput where
  response :=
    { accepted := false
      reason := some reason
      eventsEmitted := eventIds
      noChange := false
      warnings := []
      sourceUrl := none }
  fanoutEvents := events
  liveSseFrames := []

def eventIdsOf (signedRows : List SignedEventRow) : List String :=
  signedRows.map fun signed => signed.row.eventId

variable [Platform]

def signedRowToEvent (signed : SignedEventRow) : Except ApiError Event :=
  match eventOfRow signed.stored with
  | .ok ev => .ok ev
  | .error _ =>
    .error { status := 500, message := "failed to deserialize event payload for fan-out" }

def signedRowsToEvents (signedRows : List SignedEventRow) : Handler (List Event) :=
  match signedRows.mapM signedRowToEvent with
  | .ok events => pure events
  | .error e => fail e

def sourceGoneRetireAfterSecs : Int := 24 * 60 * 60

def sourceGoneUrlHost (url : String) : Option String := (urlHost url).map toAsciiLowercase

def sourceGoneReportCounts (req : IngestFeedRequest) (hosts : List String) : Bool :=
  req.sourceUrl == req.canonicalUrl && req.redirects.isEmpty &&
    match req.httpStatus with
    | 410 => true
    | 404 => (sourceGoneUrlHost req.sourceUrl).any fun host => host ∈ hosts
    | _ => false

def feedGuidForSourceUrl (d : Db) (sourceUrl : String) : Option String :=
  (((d .feeds).map FeedRow.feed).find? fun f : Feed => f.feedUrl == sourceUrl).map Feed.feedGuid

def retireRow (feedGuid reason : String) (now : Int) (warnings : List String) : EventDraft :=
  eventDraft (.feedRetired { feedGuid := feedGuid, reason := some reason }) feedGuid now warnings

def isGoneReport (req : IngestFeedRequest) : Bool :=
  req.feedData.isNone && (req.httpStatus == 404 || req.httpStatus == 410)

def handleSourceGoneReport (env : IngestEnv) (req : IngestFeedRequest) :
    Handler IngestOutput := do
  let block ← read fun d : Db => findFeedBlock d none [req.sourceUrl, req.canonicalUrl]
  if block.isSome then pure (refused "blocked" [] [])
  else
    match ← read fun d : Db =>
      if sourceGoneReportCounts req env.sourceGoneHosts then feedGuidForSourceUrl d req.sourceUrl
      else none with
    | none => pure (refused "source_gone_ignored" [] [])
    | some feedGuid =>
      let now := env.now .goneReport
      let existing ← read fun d : Db => getSourceGoneAnswer d feedGuid
      if existing.any fun row => sourceGoneRetireAfterSecs ≤ now - row.firstGoneAt then do
        let events ← dbStep (deleteFeedWithEvent env.signer feedGuid
          (retireRow feedGuid "source_gone" now [] (env.uuid .goneReport 0)) [])
        pure (refused "source_gone" (events.map Event.eventId) events)
      else do
        dbStep (recordSourceGoneAnswer feedGuid req.sourceUrl now req.httpStatus)
        pure (refused "source_gone_observed" [] [])

structure MoveTarget where
  newFeedUrl : String
  trigger : String
  returnValues : Option (Int × Int)
deriving DecidableEq

inductive MoveDecision where
  | noTrigger
  | move (target : MoveTarget)
  | refused (targetUrl : String)
  | waitingRedirect (targetUrl : String)
deriving DecidableEq

def MoveDecision.isMove : MoveDecision → Bool
  | .move _ => true
  | _ => false

def refusedMoveWarning (targetUrl : String) : String :=
  "move to " ++ targetUrl ++ " refused: the record left that URL (ADR 0083)"

def nextReturnValues (state : MoveState) (now : Int) : Int × Int :=
  (saturate (effectiveReturnCount state.returnCount state.lastReturnAt now + 1), now)

def isWaiting (state : MoveState) (now : Int) : Bool :=
  (returnCooldownEnd state.returnCount state.lastReturnAt now).any (now < ·)

/-- The move that the declarations of the record name for a mirror. -/
def mirrorTarget (d : Db) (feedGuid sourceUrl canonicalUrl : String) : Option MoveTarget :=
  let isOwn := fun url => url == sourceUrl || url == canonicalUrl
  match (getDeclaredNewFeedUrl d feedGuid).filter isOwn with
  | some url => some { newFeedUrl := url, trigger := "new-feed-url", returnValues := none }
  | none =>
    match (getDeclaredSelfUrl d feedGuid).filter isOwn with
    | some url => some { newFeedUrl := url, trigger := "self link", returnValues := none }
    | none => none

def mirrorDecision (d : Db) (feedGuid sourceUrl canonicalUrl : String) (body : IngestFeedData)
    (now : Int) : MoveDecision :=
  match mirrorTarget d feedGuid sourceUrl canonicalUrl with
  | none => .noTrigger
  | some target =>
    if target.newFeedUrl ∉ getLeftUrls d feedGuid then .move target
    else
      let state := getMoveState d feedGuid
      if target.trigger == "new-feed-url" && body.newFeedUrl == some target.newFeedUrl &&
          state.arrivalTag != some target.newFeedUrl && !isWaiting state now then
        .move { target with returnValues := some (nextReturnValues state now) }
      else .refused target.newFeedUrl

def redirectDecision (d : Db) (feedGuid sourceUrl canonicalUrl : String)
    (redirects : List RedirectHop) (now : Int) : MoveDecision :=
  match (getFeedByGuid d feedGuid).map Feed.feedUrl with
  | none => .noTrigger
  | some storedSourceUrl =>
    if sourceUrl != storedSourceUrl || redirects.isEmpty || canonicalUrl == storedSourceUrl ||
        !redirects.all fun hop => hop.status == 301 || hop.status == 308 then
      .noTrigger
    else
      let target : MoveTarget :=
        { newFeedUrl := canonicalUrl, trigger := "permanent redirect", returnValues := none }
      if canonicalUrl ∈ getLeftUrls d feedGuid then
        let state := getMoveState d feedGuid
        if isWaiting state now then .waitingRedirect canonicalUrl
        else .move { target with returnValues := some (nextReturnValues state now) }
      else .move target

def moveTarget (d : Db) (feedGuid sourceUrl canonicalUrl : String)
    (redirects : List RedirectHop) (body : IngestFeedData) (now : Int) : MoveDecision :=
  match classifySubmission d feedGuid sourceUrl canonicalUrl with
  | .mirror _ => mirrorDecision d feedGuid sourceUrl canonicalUrl body now
  | .update => redirectDecision d feedGuid sourceUrl canonicalUrl redirects now
  | .recordConflict | .guidChange _ | .newFeed => .noTrigger

inductive ReadPhaseOutcome where
  | verified (warnings : List String)
  | noChange
  | rejected (reason : String)
deriving DecidableEq

def getExistingFeed (d : Db) (feedUrl : String) : Option Feed :=
  ((d .feeds).map FeedRow.feed).find? fun f : Feed => f.feedUrl == feedUrl

/-- The verifiers on the snapshot.  A move does not stop at `noChange`. -/
def readPhase (env : IngestEnv) (snapshot : Db) (req : IngestFeedRequest) : ReadPhaseOutcome :=
  if (findFeedBlock snapshot (req.feedData.map IngestFeedData.feedGuid)
      [req.sourceUrl, req.canonicalUrl]).isSome then .rejected "blocked"
  else
    let isMove := req.feedData.any fun body =>
      (moveTarget snapshot body.feedGuid req.sourceUrl req.canonicalUrl req.redirects body
        (env.now .readMove)).isMove
    let request := if isMove then { req with forceReingest := true } else req
    match env.chain.run
      { request := request
        db := snapshot
        existing := getExistingFeed snapshot req.canonicalUrl } with
    | .ok warnings => .verified warnings
    | .error reason => if isNoChangeReason reason then .noChange else .rejected reason

/-- The observations and the copies of a submission that writes no content.  Only a
mirror has copies. -/
def recordObservations (env : IngestEnv) (req : IngestFeedRequest) (feedData : IngestFeedData)
    (mirrorSource : Option String) : Handler (List SignedEventRow) := do
  let now := env.now .urlObservations
  let observations ← dbStep (recordFeedUrlObservationsForIngest env.signer
    (env.uuid .urlObservations) req.canonicalUrl req.sourceUrl feedData.feedGuid now)
  match mirrorSource with
  | none => pure observations
  | some sourceUrl => do
    let canonicalCopy ← dbStep (recordFeedCopyForIngest env.signer (env.uuid .canonicalCopy 0)
      feedData.feedGuid req.canonicalUrl feedData now)
    if req.sourceUrl != sourceUrl && req.sourceUrl != req.canonicalUrl then do
      let sourceCopy ← dbStep (recordFeedCopyForIngest env.signer (env.uuid .sourceCopy 0)
        feedData.feedGuid req.sourceUrl feedData now)
      pure (observations ++ canonicalCopy ++ sourceCopy)
    else pure (observations ++ canonicalCopy)

def noChangeOutput (signedRows : List SignedEventRow) (events : List Event) : IngestOutput where
  response :=
    { accepted := true
      reason := none
      eventsEmitted := eventIdsOf signedRows
      noChange := true
      warnings := []
      sourceUrl := none }
  fanoutEvents := events
  liveSseFrames := []

/-- The body did not change, but the URL that gave it can be new. -/
def handleNoChange (env : IngestEnv) (req : IngestFeedRequest) : Handler IngestOutput := do
  match req.feedData with
  | none => pure (noChangeOutput [] [])
  | some feedData =>
    match ← read fun d : Db =>
      classifySubmission d feedData.feedGuid req.sourceUrl req.canonicalUrl with
    | .recordConflict => pure (refused "record_conflict" [] [])
    | .guidChange _ => pure (refused "guid_change_pending" [] [])
    | .update | .newFeed => finish feedData none
    | .mirror sourceUrl => finish feedData (some sourceUrl)
where
  finish (feedData : IngestFeedData) (mirrorSource : Option String) : Handler IngestOutput := do
    let signedRows ← recordObservations env req feedData mirrorSource
    let events ← signedRowsToEvents signedRows
    pure (noChangeOutput signedRows events)

structure RecordMove where
  oldFeedUrl : String
  newFeedUrl : String
  returnValues : Option (Int × Int)
deriving DecidableEq

/-- What the case of a submission leaves for the steps that write its content. -/
structure Admission where
  warnings : List String
  recordMove : Option RecordMove
  /-- The rows that are signed before the content. -/
  prefixEvents : List SignedEventRow
  /-- The GUID that a transition must retire, just before the content goes in. -/
  pendingGuidTransition : Option String
deriving DecidableEq

inductive Decision where
  | answer (output : IngestOutput)
  | admitted (admission : Admission)
deriving DecidableEq

def moveWarning (oldFeedUrl : String) (target : MoveTarget) : String :=
  "moved from " ++ oldFeedUrl ++ " to " ++ target.newFeedUrl ++ " (ADR 0052 " ++
    target.trigger ++ ")"

/-- The admission of a body that moves its record away from `oldFeedUrl`. -/
def admitMove (warnings : List String) (prefixEvents : List SignedEventRow)
    (oldFeedUrl : String) (target : MoveTarget) : Admission where
  warnings := warnings ++ [moveWarning oldFeedUrl target]
  recordMove := some
    { oldFeedUrl := oldFeedUrl
      newFeedUrl := target.newFeedUrl
      returnValues := target.returnValues }
  prefixEvents := prefixEvents
  pendingGuidTransition := none

def admitInPlace (warnings : List String) (prefixEvents : List SignedEventRow) : Admission where
  warnings := warnings
  recordMove := none
  prefixEvents := prefixEvents
  pendingGuidTransition := none

section Cases

variable (env : IngestEnv) (req : IngestFeedRequest) (feedData : IngestFeedData)
  (warnings : List String)

/-- Both bodies carry a build date, and the one of the submission is older. -/
def isStale (d : Db) : Bool :=
  match (getFeedByGuid d feedData.feedGuid).bind Feed.lastBuildDate, feedData.lastBuildDate with
  | some stored, some submitted => submitted < stored
  | _, _ => false

def decideUpdate : Handler Decision := do
  if ← read (isStale feedData) then pure (.answer (refused "stale_submission" [] []))
  else if sourceBlocksThisIndex feedData.blocks then do
    let events ← dbStep (deleteFeedWithEvent env.signer feedData.feedGuid
      (retireRow feedData.feedGuid "podcast_block" (env.now .sourceBlock) warnings
        (env.uuid .sourceBlock 0)) [])
    pure (.answer (refused "source_blocked" (events.map Event.eventId) events))
  else do
    let prefixEvents ← dbStep (recordGuidChangeReturnForIngest env.signer (env.uuid .guidReturn 0)
      req.sourceUrl feedData.feedGuid (env.now .guidReturn))
    match ← read fun d : Db =>
      moveTarget d feedData.feedGuid req.sourceUrl req.canonicalUrl req.redirects feedData
        (env.now .writeMove) with
    | .move target => pure (.admitted (admitMove warnings prefixEvents req.sourceUrl target))
    | .waitingRedirect targetUrl =>
      pure (.admitted (admitInPlace (warnings ++ [refusedMoveWarning targetUrl]) prefixEvents))
    | .noTrigger | .refused _ => pure (.admitted (admitInPlace warnings prefixEvents))

/-- A held GUID is admitted only from the held URL. -/
def isRetiredSourceConflict (d : Db) : Bool :=
  (getRetiredSourceHold d feedData.feedGuid).any fun hold =>
    hold.releasedAt.isNone && hold.sourceUrl != req.sourceUrl &&
      hold.sourceUrl != req.canonicalUrl

def decideNewFeed : Handler Decision := do
  if ← read (isRetiredSourceConflict req feedData) then
    pure (.answer (refused "retired_source_conflict" [] []))
  else if sourceBlocksThisIndex feedData.blocks then
    pure (.answer (refused "source_blocked" [] []))
  else pure (.admitted (admitInPlace warnings []))

/-- The answer to a mirror names the source and carries the warning of a refused move. -/
def mirrorOutput (sourceUrl : String) (refusalWarnings : List String)
    (signedRows : List SignedEventRow) (events : List Event) : IngestOutput where
  response :=
    { accepted := false
      reason := some "source_conflict"
      eventsEmitted := eventIdsOf signedRows
      noChange := false
      warnings := refusalWarnings
      sourceUrl := some sourceUrl }
  fanoutEvents := events
  liveSseFrames := []

def decideMirror (sourceUrl : String) : Handler Decision := do
  match ← read fun d : Db =>
    moveTarget d feedData.feedGuid req.sourceUrl req.canonicalUrl req.redirects feedData
      (env.now .writeMove) with
  | .move target => pure (.admitted (admitMove warnings [] sourceUrl target))
  | .refused targetUrl => finish [refusedMoveWarning targetUrl]
  | .noTrigger | .waitingRedirect _ => finish []
where
  finish (refusalWarnings : List String) : Handler Decision := do
    let signedRows ← recordObservations env req feedData (some sourceUrl)
    let events ← signedRowsToEvents signedRows
    pure (.answer (mirrorOutput sourceUrl refusalWarnings signedRows events))

/-- The operator approved this same new GUID. -/
def isApproved (d : Db) : Bool :=
  (getGuidChange d req.sourceUrl).any fun row =>
    row.newGuid == feedData.feedGuid && row.decision == some "approve"

/-- The GUID is the UUIDv5 of the source URL, or the operator approved it. -/
def transitionAllowed (d : Db) : Bool :=
  guidOriginMatches feedData.feedGuid req.sourceUrl || isApproved req feedData d

def guidChangeWarning (heldGuid : String) : String :=
  "GUID changed from " ++ heldGuid ++ " to " ++ feedData.feedGuid ++ " (ADR 0052 " ++
    (if guidOriginMatches feedData.feedGuid req.sourceUrl then "UUIDv5" else "approved") ++ ")"

def decideGuidChange (heldGuid : String) : Handler Decision := do
  if ← read (transitionAllowed req feedData) then
    pure (.admitted
      { warnings := warnings ++ [guidChangeWarning req feedData heldGuid]
        recordMove := none
        prefixEvents := []
        pendingGuidTransition := some heldGuid })
  else do
    match ← dbStep (recordGuidChangePendingForIngest env.signer (env.uuid .guidPending 0)
      req.sourceUrl heldGuid feedData.feedGuid (env.now .guidPending)) with
    | .rejected => pure (.answer (refused "guid_change_rejected" [] []))
    | .pending signedRows => do
      let events ← signedRowsToEvents signedRows
      pure (.answer (refused "guid_change_pending" (eventIdsOf signedRows) events))

/-- The case of the submission, before the first write of content. -/
def decideCase : Handler Decision := do
  match ← read fun d : Db =>
    classifySubmission d feedData.feedGuid req.sourceUrl req.canonicalUrl with
  | .update => decideUpdate env req feedData warnings
  | .newFeed => decideNewFeed req feedData warnings
  | .mirror sourceUrl => decideMirror env req feedData warnings sourceUrl
  | .recordConflict => pure (.answer (refused "record_conflict" [] []))
  | .guidChange heldGuid => decideGuidChange env req feedData warnings heldGuid

end Cases

def maxTracksPerIngest : Nat := 500

/-- A move gives the URL, then the stored record, then the submission. -/
def chooseFeedUrl (d : Db) (req : IngestFeedRequest) (feedGuid : String)
    (recordMove : Option RecordMove) : String :=
  match recordMove with
  | some mv => mv.newFeedUrl
  | none => ((getFeedByGuid d feedGuid).map Feed.feedUrl).getD req.canonicalUrl

section Content

variable (env : IngestEnv) (req : IngestFeedRequest) (feedData : IngestFeedData)

def buildInput (d : Db) (recordMove : Option RecordMove) : BuildInput where
  feedData := feedData
  canonicalUrl := req.canonicalUrl
  feedUrl := chooseFeedUrl d req feedData.feedGuid recordMove
  now := env.now .content

/-- The warnings of the admission with those of the live items and of the URLs. -/
def contentWarnings (input : BuildInput) (admission : Admission) : List String :=
  admission.warnings ++ (selectLiveItems input.rawLiveItems).2 ++
    nonWebUrlWarnings feedData input.tracks input.liveItems

def feedMoveWrite (mv : RecordMove) : FeedMoveWrite where
  oldUrl := mv.oldFeedUrl
  newUrl := mv.newFeedUrl
  arrivalTag := feedData.newFeedUrl
  returnValues := mv.returnValues

def runTransition (heldGuid : Option String) : Handler (List SignedEventRow) :=
  match heldGuid with
  | some oldGuid =>
    dbStep (guidChangeTransition env.signer (env.uuid .guidTransition) oldGuid feedData.feedGuid
      req.sourceUrl (env.now .content))
  | none => pure []

/-- The declarations of the body about itself, after its content is in. -/
def writeDeclarations (isMove : Bool) : Handler Unit := do
  dbStep (setDeclaredSelfUrl feedData.feedGuid
    ((feedData.links.find? fun link => link.linkType == "self_feed").map IngestLink.url))
  dbStep (setFeedMoveDeclarations feedData.feedGuid feedData.newFeedUrl feedData.locked
    feedData.lockedOwner)
  if isMove then pure () else dbStep (clearArrivalTagUnless feedData.feedGuid feedData.newFeedUrl)

/-- Each row with the values of the same place in `seqs`. -/
def signedPairs (rows : List EventRow) (seqs : List (Int × String × String)) :
    List SignedEventRow :=
  (rows.zip seqs).map fun (row, seq, signedBy, signature) =>
    { row := row, seq := seq, signedBy := signedBy, signature := signature }

def acceptedOutput (eventIds warnings : List String) (events : List Event)
    (frames : List (String × SseFrame)) : IngestOutput where
  response :=
    { accepted := true
      reason := none
      eventsEmitted := eventIds
      noChange := false
      warnings := warnings
      sourceUrl := none }
  fanoutEvents := events
  liveSseFrames := frames

def tooManyTracks (count : Nat) : ApiError where
  status := 400
  message := "feed contains " ++ toString count ++ " tracks, maximum is " ++
    toString maxTracksPerIngest

/-- The rows for fan-out: the snapshot is taken before the transaction runs. -/
def admitContent (admission : Admission) : Handler IngestOutput := do
  let input ← read fun d : Db => buildInput env req feedData d admission.recordMove
  if maxTracksPerIngest < input.tracks.length then fail (tooManyTracks input.tracks.length)
  else do
    let warnings := contentWarnings feedData input admission
    let content := input.content
    let existingLiveEvents ← read fun d : Db => getLiveEventsForFeed d feedData.feedGuid
    let eventRows ← read fun d : Db =>
      assignIds (env.uuid .content) (buildDiffEvents d content input.now warnings)
    let transitionRows ← runTransition env req feedData admission.pendingGuidTransition
    let prefixEvents := admission.prefixEvents ++ transitionRows
    let seqs ← dbStep (ingestTransaction env.toPrimaryEnv (env.uuid .staleTracks) content eventRows
      (admission.recordMove.map (feedMoveWrite feedData)))
    writeDeclarations feedData admission.recordMove.isSome
    let observations ← dbStep (recordFeedUrlObservationsForIngest env.signer
      (env.uuid .urlObservations) req.canonicalUrl req.sourceUrl feedData.feedGuid input.now)
    dbStep (upsertFeedCrawlCache req.canonicalUrl req.contentHash input.now)
    let events ← signedRowsToEvents (prefixEvents ++ signedPairs eventRows seqs ++ observations)
    pure (acceptedOutput
      (eventIdsOf prefixEvents ++ eventRows.map EventRow.eventId ++ eventIdsOf observations)
      warnings events
      (buildLiveSseFramesForFeed feedData.feedGuid existingLiveEvents content.liveEvents events))

end Content

def feedDataRequired : ApiError where
  status := 400
  message := "feed_data is required for successful ingest"

def writePhase (env : IngestEnv) (req : IngestFeedRequest) (warnings : List String) :
    Handler IngestOutput :=
  match req.feedData with
  | none => fail feedDataRequired
  | some feedData => do
    match ← decideCase env req feedData warnings with
    | .answer output => pure output
    | .admitted admission => admitContent env req feedData admission

/-- `snapshot` is the state that the reader connection sees. -/
def handleIngestFeed (env : IngestEnv) (snapshot : Db) (req : IngestFeedRequest) :
    Handler IngestOutput :=
  match env.chain.authenticate req with
  | some reason => pure (refused reason [] [])
  | none =>
    if isGoneReport req then handleSourceGoneReport env req
    else
      match readPhase env snapshot req with
      | .rejected reason => pure (refused reason [] [])
      | .noChange => handleNoChange env req
      | .verified warnings => writePhase env req warnings

end Stophammer
