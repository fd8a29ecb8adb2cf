import Stophammer.Schema

/-!
# Observations, blocks, copies and GUID changes

The statements on the tables that hold decisions and observations about feeds.
-/

namespace Stophammer

open Relational Statement

def getFeedUrlObservation (d : Db) (url : String) : Option FeedUrlObservation :=
  (d .feedUrlObservations).find? fun r : FeedUrlObservation => r.url == url

/-- Record that `url` gave `feedGuid`.  Nothing when the row already says so. -/
def recordFeedUrlObservation (url feedGuid : String) (now : Int) :
    Stmt (Option FeedUrlObservation) := do
  let observation : FeedUrlObservation := { url := url, feedGuid := feedGuid, observedAt := now }
  match ← read (getFeedUrlObservation · url) with
  | none => do
    insert .feedUrlObservations observation
    pure (some observation)
  | some row =>
    if row.feedGuid == feedGuid then pure none
    else do
      update .feedUrlObservations (fun r : FeedUrlObservation => r.url == url)
        (fun r : FeedUrlObservation => { r with feedGuid := feedGuid, observedAt := now })
      pure (some observation)

theorem recordFeedUrlObservation_writes {url feedGuid : String} {now : Int} :
    Writes (S := schema) [Table.feedUrlObservations] (recordFeedUrlObservation url feedGuid now) := by
  apply (Writes.read _).bind
  intro stored
  cases stored with
  | none => exact (Writes.insert (by decide)).bind fun _ => Writes.pure _
  | some row =>
    exact Writes.ite (Writes.pure _) ((Writes.update (by decide)).bind fun _ => Writes.pure _)

def upsertFeedUrlObservation (url feedGuid : String) (observedAt : Int) : Stmt Unit :=
  upsert .feedUrlObservations (fun r : FeedUrlObservation => r.url == url)
    { url := url, feedGuid := feedGuid, observedAt := observedAt }
    (fun r : FeedUrlObservation => { r with feedGuid := feedGuid, observedAt := observedAt })

def maxCopiesPerGuid : Int := 20

def isCopyAt (feedGuid url : String) (r : FeedCopyRow) : Bool :=
  r.feedGuid == feedGuid && r.url == url

def getFeedCopy (d : Db) (feedGuid url : String) : Option FeedCopyRow :=
  (d .feedCopies).find? (isCopyAt feedGuid url)

def countFeedCopies (d : Db) (feedGuid : String) : Int :=
  ((d .feedCopies).filter fun r : FeedCopyRow => r.feedGuid == feedGuid).length

def upsertFeedCopySummary (feedGuid url : String) (firstSeen : Int) (summary : CopySummary)
    (digest : String) (remoteItemsDigest : Option String) : Stmt Unit :=
  upsert .feedCopies (isCopyAt feedGuid url)
    { feedGuid := feedGuid
      url := url
      firstSeen := firstSeen
      lastSeen := none
      summary := summary
      summaryDigest := digest
      remoteItemsDigest := remoteItemsDigest
      resolution := none
      resolutionReason := none
      resolvedAt := none
      resolvedDigest := none
      resolvedRemoteItemsDigest := none }
    (fun r : FeedCopyRow =>
      { r with
        summary := summary, summaryDigest := digest, remoteItemsDigest := remoteItemsDigest })

def touchFeedCopyLastSeen (feedGuid url : String) (now : Int) : Stmt Unit :=
  update .feedCopies (isCopyAt feedGuid url)
    (fun r : FeedCopyRow => { r with lastSeen := some now })

def incrementCopyOverflow (feedGuid : String) : Stmt Unit :=
  upsert .feedCopyOverflow (fun r : CopyOverflowRow => r.feedGuid == feedGuid)
    { feedGuid := feedGuid, count := 1 }
    (fun r : CopyOverflowRow => { r with count := r.count + 1 })

def setFeedCopyResolution (feedGuid url decision reason : String) (resolvedAt : Int)
    (resolvedDigest : String) (resolvedRemoteItemsDigest : Option String) : Stmt Unit :=
  update .feedCopies (isCopyAt feedGuid url)
    (fun r : FeedCopyRow =>
      { r with
        resolution := some decision
        resolutionReason := some reason
        resolvedAt := some resolvedAt
        resolvedDigest := some resolvedDigest
        resolvedRemoteItemsDigest := resolvedRemoteItemsDigest })

def getGuidChange (d : Db) (sourceUrl : String) : Option GuidChangeRow :=
  (d .feedGuidChanges).find? fun r : GuidChangeRow => r.sourceUrl == sourceUrl

def upsertGuidChange (sourceUrl oldGuid newGuid : String) (firstSeen : Int) : Stmt Unit :=
  upsert .feedGuidChanges (fun r : GuidChangeRow => r.sourceUrl == sourceUrl)
    { sourceUrl := sourceUrl
      oldGuid := oldGuid
      newGuid := newGuid
      firstSeen := firstSeen
      lastSeen := none
      decision := none
      decisionReason := none
      decidedAt := none }
    (fun r : GuidChangeRow =>
      -- a decision is about one new GUID
      if r.newGuid == newGuid then { r with oldGuid := oldGuid }
      else
        { r with
          oldGuid := oldGuid
          newGuid := newGuid
          firstSeen := firstSeen
          decision := none
          decisionReason := none
          decidedAt := none })

def touchGuidChangeLastSeen (sourceUrl : String) (now : Int) : Stmt Unit :=
  update .feedGuidChanges (fun r : GuidChangeRow => r.sourceUrl == sourceUrl)
    (fun r : GuidChangeRow => { r with lastSeen := some now })

def deleteGuidChange (sourceUrl : String) : Stmt Unit :=
  delete .feedGuidChanges fun r : GuidChangeRow => r.sourceUrl == sourceUrl

def setGuidChangeDecision (sourceUrl decision decisionReason : String) (decidedAt : Int) :
    Stmt Unit :=
  update .feedGuidChanges (fun r : GuidChangeRow => r.sourceUrl == sourceUrl)
    (fun r : GuidChangeRow =>
      { r with
        decision := some decision
        decisionReason := some decisionReason
        decidedAt := some decidedAt })

def insertGuidSupersession (oldGuid newGuid sourceUrl : String) (supersededAt : Int) :
    Stmt Unit := do
  let _ ← insertOrIgnore .feedGuidSupersessions
    ({ oldGuid := oldGuid, newGuid := newGuid, sourceUrl := sourceUrl,
       supersededAt := supersededAt } : GuidSupersessionRow)
  pure ()

variable [Platform]

/-- Whether a row was written.  A new URL block clears the copies at that URL. -/
def insertFeedBlock (block : FeedBlock) : Stmt Bool := do
  let value := block.kind.normalize block.value
  let changed ← insertOrIgnore .feedBlocks ({ block with value := value } : FeedBlock)
  if changed && block.kind == .url then
    delete .feedCopies fun r : FeedCopyRow => r.url == value
  pure changed

theorem insertFeedBlock_writes {block : FeedBlock} :
    Writes [Table.feedBlocks, Table.feedCopies] (insertFeedBlock block) := by
  apply (Writes.insertOrIgnore (by decide)).bind
  intro changed
  by_cases h : (changed && block.kind == .url) = true
  · rw [if_pos h]
    exact (Writes.delete (by decide)).bind fun _ => Writes.pure changed
  · rw [if_neg h]
    exact (Writes.pure ()).bind fun _ => Writes.pure changed

def deleteFeedBlock (blockId : String) : Stmt Unit :=
  delete .feedBlocks fun r : FeedBlock => r.blockId == blockId

def getFeedBlockByPair (d : Db) (kind : FeedBlockKind) (value : String) : Option FeedBlock :=
  (d .feedBlocks).find? fun r : FeedBlock => r.kind == kind && r.value == kind.normalize value

/-- The GUID is checked first, then each URL in order.  An empty URL is not checked. -/
def findFeedBlock (d : Db) (feedGuid : Option String) (urls : List String) : Option FeedBlock :=
  (feedGuid.bind (getFeedBlockByPair d .guid)).or
    ((urls.filter (!·.isEmpty)).findSome? (getFeedBlockByPair d .url))

/-- The derived order of the entries: field by field, no value first. -/
def CopyRemoteItem.cmp (a b : CopyRemoteItem) : Ordering :=
  (compare a.medium b.medium).then <| (compare a.feedGuid b.feedGuid).then <|
    (compare a.feedUrl b.feedUrl).then (compare a.itemGuid b.itemGuid)

/-- Put an entry in a sorted set. -/
def insertEntry (e : CopyRemoteItem) : List CopyRemoteItem → List CopyRemoteItem
  | [] => [e]
  | x :: xs =>
    match e.cmp x with
    | .lt => e :: x :: xs
    | .eq => x :: xs
    | .gt => x :: insertEntry e xs

/-- The digest of the different entries, sorted.  None when the summary has no list. -/
def remoteItemsDigest (summary : CopySummary) : Option String :=
  summary.remoteItems.map fun entries => sha256Hex (.remoteItems (entries.foldr insertEntry []))

def summaryDigest (summary : CopySummary) : String :=
  sha256Hex (.summary summary.itemGuids summary.feedRecipients summary.trackRecipients)

end Stophammer
