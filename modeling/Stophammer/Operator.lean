import Stophammer.Ingest.Handler

/-!
# Operator routes

The requests that an operator sends with the admin token, and the steps of a primary at
its start.  Each one writes in one transaction; the event that it signs is read back for
fan-out after the commit.
-/

namespace Stophammer

open Relational Statement

/-- The clock and the random ids of one request. -/
structure OperatorEnv where
  signer : NodeSigner
  now : Int
  uuid : Nat → String

def notFound (message : String) : ApiError where
  status := 404
  message := message

def badRequest (message : String) : ApiError where
  status := 400
  message := message

def conflict (message : String) : ApiError where
  status := 409
  message := message

def getGuidChangeForOldGuid [Platform] (d : Db) (oldGuid : String) : Option GuidChangeRow :=
  (orderBy
    (compareLex (fun a b : GuidChangeRow => compare b.firstSeen a.firstSeen)
      (compareOn fun r => scanRank r.sourceUrl))
    ((d .feedGuidChanges).filter fun r : GuidChangeRow => r.oldGuid == oldGuid)).head?

def getTracksByGuid (d : Db) (trackGuid : String) : List Track :=
  orderBy (compareOn Track.feedGuid)
    ((d .tracks).filter fun r : Track => r.trackGuid == trackGuid)

def getPaymentRoutesForFeedTrack (d : Db) (feedGuid trackGuid : String) : List PaymentRoute :=
  (d .paymentRoutes).filter fun r : PaymentRoute =>
    r.feedGuid == feedGuid && r.trackGuid == trackGuid

def ValueTimeSplitRow.split (r : ValueTimeSplitRow) : ValueTimeSplit where
  sourceFeedGuid := r.sourceFeedGuid.getD ""
  sourceTrackGuid := r.sourceTrackGuid
  position := r.position
  form := r.form
  startTimeSecs := r.startTimeSecs
  durationSecs := r.durationSecs
  remoteFeedGuid := r.remoteFeedGuid
  remoteItemGuid := r.remoteItemGuid
  remoteStartTimeSecs := r.remoteStartTimeSecs
  remotePercentage := r.remotePercentage
  recipients := r.recipients
  createdAt := r.createdAt

def getValueTimeSplitsForFeedTrack (d : Db) (feedGuid trackGuid : String) :
    List ValueTimeSplit :=
  (orderBy (compareOn ValueTimeSplitRow.position)
    ((d .valueTimeSplits).filter (isSplitOf feedGuid trackGuid))).map ValueTimeSplitRow.split

def clearDeclaredNewFeedUrl (feedGuid : String) : Stmt Unit :=
  update .feeds (fun r : FeedRow => r.feed.feedGuid == feedGuid)
    (fun r : FeedRow => { r with declaredNewFeedUrl := none })

/-- The next body gives the arrival tag, and the count of returns starts again. -/
def writeRelocationState (feedGuid oldUrl newUrl : String) : Stmt Unit := do
  addLeftUrl feedGuid oldUrl
  removeLeftUrl feedGuid newUrl
  upsert .feedMoveState (fun r : MoveStateRow => r.feedGuid == feedGuid)
    { feedGuid := feedGuid
      arrivalTag := none
      returnCount := 0
      lastReturnAt := none
      arrivalPending := true }
    (fun r : MoveStateRow =>
      { r with arrivalTag := none, returnCount := 0, arrivalPending := true })

theorem writeRelocationState_writes {feedGuid oldUrl newUrl : String} :
    Writes (S := schema) [Table.feedLeftUrls, .feedMoveState]
      (writeRelocationState feedGuid oldUrl newUrl) := by
  have hadd : Writes (S := schema) [Table.feedLeftUrls, .feedMoveState]
      (addLeftUrl feedGuid oldUrl) :=
    (Writes.insertOrIgnore (by decide)).bind fun _ => Writes.pure ()
  apply hadd.bind
  intro _
  exact (Writes.delete (by decide)).bind fun _ => Writes.upsert (by decide)

/-- Whether an active hold was there. -/
def releaseRetiredSourceHold (feedGuid : String) (releasedAt : Int) : Stmt Bool := do
  let active : RetiredSourceHold → Bool := fun r =>
    r.feedGuid == toAsciiLowercase feedGuid && r.releasedAt.isNone
  let changed ← read fun d : Db => (d .retiredSourceHolds).any active
  update .retiredSourceHolds active
    (fun r : RetiredSourceHold => { r with releasedAt := some releasedAt })
  pure changed

theorem releaseRetiredSourceHold_writes {feedGuid : String} {releasedAt : Int} :
    Writes (S := schema) [Table.retiredSourceHolds]
      (releaseRetiredSourceHold feedGuid releasedAt) :=
  (Writes.read _).bind fun _ => (Writes.update (by decide)).bind fun _ => Writes.pure _

section

variable [Platform] (env : OperatorEnv)

/-- The event of a committed row.  The row stays when its text does not decode. -/
def fanoutEvent (message : String) (signed : SignedEventRow) : Handler Event :=
  match eventOfRow signed.stored with
  | .ok ev => pure ev
  | .error _ => fail { status := 500, message := message }

/-- The two blocks of a retirement, each with the id of its event. -/
def retireBlocks (feed : Feed) : List (FeedBlock × String) :=
  [({ blockId := env.uuid 1
      kind := .guid
      value := feed.feedGuid
      reason := "retired"
      blockedAt := env.now }, env.uuid 3),
    ({ blockId := env.uuid 2
       kind := .url
       value := feed.feedUrl
       reason := "retired"
       blockedAt := env.now }, env.uuid 4)]

/-- `DELETE /v1/feeds/{guid}`.  A retirement blocks unless the caller asks otherwise. -/
def handleRetireFeed (guid : String) (block : Option Bool) : Handler (List Event) := do
  match ← read (getFeedByGuid · guid) with
  | none => fail (notFound ("feed " ++ guid ++ " not found"))
  | some feed =>
    dbStep (deleteFeedWithEvent env.signer guid
      (retireRow guid "admin retired via API" env.now [] (env.uuid 0))
      (if block.getD true then retireBlocks env feed else []))

def deleteTrackWithEvent (signer : NodeSigner) (feedGuid trackGuid : String) (row : EventRow) :
    Stmt SignedEventRow := transaction do
  deleteTrackSql feedGuid trackGuid
  signEventRow signer row

/-- `DELETE /v1/feeds/{guid}/tracks/{track_guid}`. -/
def handleRemoveTrack (guid trackGuid : String) : Handler (List Event) := do
  match ← read (getTrackForFeed · guid trackGuid) with
  | none => fail (notFound ("track " ++ trackGuid ++ " not found"))
  | some _ =>
    let signed ← dbStep (deleteTrackWithEvent env.signer guid trackGuid
      (eventDraft (.trackRemoved { trackGuid := trackGuid, feedGuid := guid }) trackGuid env.now []
        (env.uuid 0)))
    let ev ← fanoutEvent "failed to deserialize TrackRemoved event for fan-out" signed
    pure [ev]

def feedBlockedEventRow (block : FeedBlock) (now : Int) : EventDraft :=
  eventDraft
    (.feedBlocked
      { blockId := block.blockId
        kind := block.kind
        value := block.value
        reason := block.reason
        blockedAt := block.blockedAt })
    block.blockId now []

inductive CreateBlockOutcome where
  /-- The pair has a row already. -/
  | conflict (blockId : String)
  | created (block : FeedBlock) (signed : SignedEventRow)
deriving DecidableEq

def createBlock (kind : FeedBlockKind) (value reason : String) : Stmt CreateBlockOutcome :=
  transaction do
    match ← read (getFeedBlockByPair · kind value) with
    | some existing => pure (.conflict existing.blockId)
    | none => do
      let block : FeedBlock :=
        { blockId := env.uuid 0
          kind := kind
          value := value
          reason := reason
          blockedAt := env.now }
      let _ ← insertFeedBlock block
      let signed ← signEventRow env.signer (feedBlockedEventRow block env.now (env.uuid 1))
      pure (.created block signed)

/-- `POST /v1/blocks`. -/
def handleCreateBlock (kind : FeedBlockKind) (value reason : String) : Handler (List Event) := do
  let value := kind.normalize value
  let reason := trim reason
  if value.isEmpty || reason.isEmpty then
    fail (badRequest "value and reason must not be empty")
  else
    match ← dbStep (createBlock env kind value reason) with
    | .conflict blockId => fail (conflict blockId)
    | .created _ signed => do
      let ev ← dbStep (signedEvent signed)
      pure [ev]

/-- None when no row has the id. -/
def removeBlock (blockId : String) : Stmt (Option SignedEventRow) := transaction do
  if ← read fun d : Db => (d .feedBlocks).any fun r : FeedBlock => r.blockId == blockId then do
    deleteFeedBlock blockId
    let signed ← signEventRow env.signer
      (eventDraft (.feedUnblocked { blockId := blockId }) blockId env.now [] (env.uuid 0))
    pure (some signed)
  else pure none

/-- `DELETE /v1/blocks/{block_id}`. -/
def handleDeleteBlock (blockId : String) : Handler (List Event) := do
  match ← dbStep (removeBlock env blockId) with
  | none => fail (notFound ("block " ++ blockId ++ " not found"))
  | some signed => do
    let ev ← dbStep (signedEvent signed)
    pure [ev]

/-- `DELETE /v1/retired-source-holds/{guid}`.  The table is local, so no event is signed. -/
def handleDeleteRetiredSourceHold (guid : String) : Handler (List Event) := do
  let missing := notFound "no active retired source hold for this GUID"
  match ← read (getRetiredSourceHold · guid) with
  | none => fail missing
  | some _ =>
    if ← dbStep (releaseRetiredSourceHold guid env.now) then pure [] else fail missing

/-- Another record holds the URL, or the signed event of the relocation. -/
inductive RelocateOutcome where
  | conflict
  | relocated (signed : SignedEventRow)
deriving DecidableEq

def relocateFeed (feedGuid newUrl reason eventId : String) : Stmt RelocateOutcome := do
  if ← read fun d : Db => (d .feeds).any fun r : FeedRow =>
      r.feed.feedUrl == newUrl && r.feed.feedGuid != feedGuid then pure .conflict
  else
    match ← read (getFeedByGuid · feedGuid) with
    | none => fail (.other ("feed " ++ feedGuid ++ " vanished before relocation"))
    | some old => do
      update .feeds (fun r : FeedRow => r.feed.feedGuid == feedGuid)
        (fun r : FeedRow =>
          { r with
            feed := { r.feed with feedUrl := newUrl, lastBuildDate := none }
            feedHost := some (feedHostOf newUrl) })
      setDeclaredSelfUrl feedGuid none
      clearDeclaredNewFeedUrl feedGuid
      writeRelocationState feedGuid old.feedUrl newUrl
      match ← read (getFeedByGuid · feedGuid) with
      | none => fail (.other ("feed " ++ feedGuid ++ " vanished after relocation"))
      | some feed => do
        let signed ← signEventRow env.signer
          (eventDraft (.feedUpserted { feed := feed, reason := some reason }) feedGuid env.now []
            eventId)
        pure (.relocated signed)

/-- `PATCH /v1/feeds/{guid}`. -/
def handlePatchFeed (guid : String) (feedUrl reason : Option String) : Handler (List Event) := do
  match ← read (getFeedByGuid · guid) with
  | none => fail (notFound ("feed " ++ guid ++ " not found"))
  | some _ =>
    match feedUrl with
    | none => pure []
    | some newUrl =>
      let reason := trim (reason.getD "")
      if reason.isEmpty then
        fail (badRequest "reason must not be empty when patching feed_url")
      else
        match ← dbStep (transaction (relocateFeed env guid newUrl reason (env.uuid 0))) with
        | .conflict =>
          fail (conflict (newUrl ++ " is already the source URL of another record"))
        | .relocated signed => signedRowsToEvents [signed]

inductive ResolveCopyOutcome where
  | notFound
  | conflict
  | resolved (signedRows : List SignedEventRow)
deriving DecidableEq

/-- The resolution holds until the summary of the row changes. -/
def signResolution (guid decision reason : String) (row : FeedCopyRow) (eventId : String) :
    Stmt SignedEventRow := do
  let signed ← signEventRow env.signer
    (eventDraft
      (.feedCopyResolved
        { feedGuid := guid
          url := row.url
          decision := decision
          reason := reason
          resolvedAt := env.now
          resolvedDigest := row.summaryDigest
          resolvedRemoteItemsDigest := row.remoteItemsDigest })
      guid env.now [] eventId)
  setFeedCopyResolution guid row.url decision reason env.now row.summaryDigest
    row.remoteItemsDigest
  pure signed

def resolveCopy (guid url decision reason : String) : Stmt ResolveCopyOutcome := transaction do
  if (← read (getFeedByGuid · guid)).isNone then pure .notFound
  else
    match ← read (getFeedCopy · guid url) with
    | none => pure .notFound
    | some row =>
      if decision == "relocate" then
        match ← relocateFeed env guid row.url reason (env.uuid 0) with
        | .conflict => pure .conflict
        | .relocated relocation => do
          let resolution ← signResolution env guid decision reason row (env.uuid 1)
          pure (.resolved [relocation, resolution])
      else do
        let resolution ← signResolution env guid decision reason row (env.uuid 0)
        pure (.resolved [resolution])

def isOneOf (decision first second : String) : Bool := decision == first || decision == second

def decisionError (first second decision : String) : ApiError :=
  badRequest ("decision must be \"" ++ first ++ "\" or \"" ++ second ++ "\", got " ++
    jsonString decision)

/-- `POST /v1/feeds/{guid}/copies/resolve`. -/
def handleResolveCopy (guid url decision reason : String) : Handler (List Event) := do
  let reason := trim reason
  if reason.isEmpty then fail (badRequest "reason must not be empty")
  else if !isOneOf decision "keep_source" "relocate" then
    fail (decisionError "keep_source" "relocate" decision)
  else
    match ← dbStep (resolveCopy env guid url decision reason) with
    | .notFound => fail (notFound ("feed " ++ guid ++ " not found, or it has no copy at that url"))
    | .conflict => fail (conflict "the copy's url is already the source URL of another record")
    | .resolved signedRows => signedRowsToEvents signedRows

/-- None when no row names the GUID as its old one. -/
def decideGuidChangeRow (guid decision reason : String) : Stmt (Option SignedEventRow) :=
  transaction do
    match ← read (getGuidChangeForOldGuid · guid) with
    | none => pure none
    | some row => do
      setGuidChangeDecision row.sourceUrl decision reason env.now
      let signed ← signEventRow env.signer
        (eventDraft
          (.feedGuidChangeDecided
            { sourceUrl := row.sourceUrl
              oldGuid := row.oldGuid
              newGuid := row.newGuid
              decision := decision
              reason := reason
              decidedAt := env.now })
          row.oldGuid env.now [] (env.uuid 0))
      pure (some signed)

theorem decideGuidChangeRow_writes {guid decision reason : String} :
    Writes (S := schema) [Table.feedGuidChanges, .events]
      (decideGuidChangeRow env guid decision reason) := by
  apply Writes.transaction
  apply (Writes.read _).bind
  intro row
  cases row with
  | none => exact Writes.pure _
  | some row =>
    apply (Writes.update (by decide)).bind
    intro _
    exact (signEventRow_writes.mono (by decide)).bind fun _ => Writes.pure _

/-- `POST /v1/feeds/{guid}/guid-change`.  The transition itself runs at the next
submission of the new GUID. -/
def handleGuidChangeDecision (guid decision reason : String) : Handler (List Event) := do
  let reason := trim reason
  if reason.isEmpty then fail (badRequest "reason must not be empty")
  else if !isOneOf decision "approve" "reject" then
    fail (decisionError "approve" "reject" decision)
  else
    match ← dbStep (decideGuidChangeRow env guid decision reason) with
    | none => fail (notFound ("no pending GUID change names " ++ guid ++ " as its old GUID"))
    | some signed => signedRowsToEvents [signed]

/-- The write of a new enclosure URL with the event of the whole track. -/
def patchTrackRow (feedGuid trackGuid newUrl : String) : Handler SignedEventRow :=
  transaction do
    dbStep (update .tracks
      (fun r : Track => r.feedGuid == feedGuid && r.trackGuid == trackGuid)
      (fun r : Track => { r with enclosureUrl := some newUrl }))
    match ← read (getTrackForFeed · feedGuid trackGuid) with
    | none =>
      fail { status := 500, message := "track " ++ trackGuid ++ " vanished after update" }
    | some updatedTrack => do
      let routes ← read (getPaymentRoutesForFeedTrack · feedGuid trackGuid)
      let valueTimeSplits ← read (getValueTimeSplitsForFeedTrack · feedGuid trackGuid)
      dbStep (signEventRow env.signer
        (eventDraft
          (.trackUpserted
            { track := updatedTrack, routes := routes, valueTimeSplits := valueTimeSplits })
          trackGuid env.now [] (env.uuid 0)))

def patchResolvedTrack (feedGuid trackGuid : String) (enclosureUrl : Option String) :
    Handler (List Event) :=
  match enclosureUrl with
  | none => pure []
  | some newUrl => do
    let signed ← patchTrackRow env feedGuid trackGuid newUrl
    let ev ← fanoutEvent "failed to deserialize TrackUpserted event for fan-out" signed
    pure [ev]

/-- `PATCH /v1/tracks/{guid}`: the GUID must name one track. -/
def handlePatchTrack (guid : String) (enclosureUrl : Option String) : Handler (List Event) := do
  match ← read (getTracksByGuid · guid) with
  | [] => fail (notFound ("track " ++ guid ++ " not found"))
  | [track] => patchResolvedTrack env track.feedGuid guid enclosureUrl
  | _ => fail (conflict "ambiguous track GUID")

/-- `PATCH /v1/feeds/{guid}/tracks/{track_guid}`. -/
def handlePatchFeedTrack (feedGuid trackGuid : String) (enclosureUrl : Option String) :
    Handler (List Event) := do
  match ← read (getTrackForFeed · feedGuid trackGuid) with
  | none => fail (notFound ("track " ++ trackGuid ++ " not found in feed " ++ feedGuid))
  | some track => patchResolvedTrack env track.feedGuid trackGuid enclosureUrl

/-- The entry at `index` uses two ids: one for its row and one for its event. -/
def seedEntries : Nat → List (FeedBlockKind × String) → Stmt Nat
  | _, [] => pure 0
  | index, (kind, value) :: entries => do
    let block : FeedBlock :=
      { blockId := env.uuid (2 * index)
        kind := kind
        value := kind.normalize value
        reason := "seeded from environment"
        blockedAt := env.now }
    if ← insertFeedBlock block then
      let _ ← signEventRow env.signer
        (feedBlockedEventRow block env.now (env.uuid (2 * index + 1)))
      let written ← seedEntries (index + 1) entries
      pure (written + 1)
    else seedEntries (index + 1) entries

/-- A block for each value of the environment that has none. -/
def seedBlocks (entries : List (FeedBlockKind × String)) : Stmt Nat :=
  transaction (seedEntries env 0 entries)

/-- The retirements that free a GUID with no block. -/
def holdRetireReasons : List String := ["podcast_block", "source_gone", "admin retired via API"]

def lastRetirements (d : Db) : List StoredEvent :=
  let retired := (d .events).filter fun r : StoredEvent => r.eventType == .feedRetired
  orderBy (compareOn StoredEvent.seq)
    (retired.filter fun e => retired.all fun r => r.subjectGuid != e.subjectGuid || r.seq ≤ e.seq)

def lastUpsertBefore (d : Db) (guid : String) (seq : Int) : Option StoredEvent :=
  (orderBy (fun a b => compare b.seq a.seq)
    ((d .events).filter fun r : StoredEvent =>
      r.eventType == .feedUpserted && r.subjectGuid == guid && decide (r.seq < seq))).head?

/-- The GUID has a record, a block or a hold. -/
def blockedOrPresent (d : Db) (guid : String) : Bool :=
  let lower := toLowercase guid
  ((d .feeds).any fun r : FeedRow => r.feed.feedGuid == guid || r.feed.feedGuid == lower) ||
    ((d .feedBlocks).any fun r : FeedBlock => r.kind == .guid && r.value == lower) ||
    (d .retiredSourceHolds).any fun r : RetiredSourceHold => r.feedGuid == lower

def upsertedFeedUrl (payloadJson : String) : Stmt String :=
  match Platform.decodePayload .feedUpserted payloadJson with
  | some (.feedUpserted p) => pure p.feed.feedUrl
  | _ => fail .json

/-- Whether a hold was written. -/
def fillHold (e : StoredEvent) : Stmt Bool := do
  let reason ← retiredReason e.payloadJson
  if reason ∉ holdRetireReasons then pure false
  else if ← read (blockedOrPresent · e.subjectGuid) then pure false
  else
    match ← read (lastUpsertBefore · e.subjectGuid e.seq) with
    | none => pure false
    | some upserted => do
      let sourceUrl ← upsertedFeedUrl upserted.payloadJson
      insertOrIgnore .retiredSourceHolds
        ({ feedGuid := toLowercase e.subjectGuid
           sourceUrl := sourceUrl
           reason := reason
           retiredAt := e.createdAt
           releasedAt := none } : RetiredSourceHold)

def fillHolds : List StoredEvent → Stmt Nat
  | [] => pure 0
  | e :: events => do
    let filled ← fillHold e
    let written ← fillHolds events
    pure (if filled then written + 1 else written)

/-- A hold for each GUID that a retirement freed before holds were kept. -/
def fillRetiredSourceHolds : Stmt Nat := transaction do
  let retires ← read lastRetirements
  fillHolds retires

end

end Stophammer
