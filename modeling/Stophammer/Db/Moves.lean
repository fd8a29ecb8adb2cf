import Mathlib.Algebra.Ring.Int.Defs
import Stophammer.Schema

/-!
# Moves of a feed

The declarations that a source makes about itself, the URLs that a record left, and
the wait after a return to one of them.
-/

namespace Stophammer

open Relational Statement

def feedRow (d : Db) (feedGuid : String) : Option FeedRow :=
  (d .feeds).find? fun r : FeedRow => r.feed.feedGuid == feedGuid

def getDeclaredSelfUrl (d : Db) (feedGuid : String) : Option String :=
  (feedRow d feedGuid).bind FeedRow.declaredSelfUrl

def setDeclaredSelfUrl (feedGuid : String) (declaredSelfUrl : Option String) : Stmt Unit :=
  update .feeds (fun r : FeedRow => r.feed.feedGuid == feedGuid)
    (fun r : FeedRow => { r with declaredSelfUrl := declaredSelfUrl })

def getDeclaredNewFeedUrl (d : Db) (feedGuid : String) : Option String :=
  (feedRow d feedGuid).bind FeedRow.declaredNewFeedUrl

def setFeedMoveDeclarations (feedGuid : String) (declaredNewFeedUrl : Option String)
    (locked : Option Bool) (lockedOwner : Option String) : Stmt Unit :=
  update .feeds (fun r : FeedRow => r.feed.feedGuid == feedGuid)
    (fun r : FeedRow =>
      { r with
        declaredNewFeedUrl := declaredNewFeedUrl
        podcastLocked := locked
        lockedOwner := lockedOwner })

def getLeftUrls (d : Db) (feedGuid : String) : List String :=
  orderBy compare
    (((d .feedLeftUrls).filter fun r : LeftUrlRow => r.feedGuid == feedGuid).map LeftUrlRow.url)

def addLeftUrl (feedGuid url : String) : Stmt Unit := do
  let _ ← insertOrIgnore .feedLeftUrls ({ feedGuid := feedGuid, url := url } : LeftUrlRow)
  pure ()

def removeLeftUrl (feedGuid url : String) : Stmt Unit :=
  delete .feedLeftUrls fun r : LeftUrlRow => r.feedGuid == feedGuid && r.url == url

structure MoveState where
  arrivalTag : Option String
  /-- The count before the reset of 30 days. -/
  returnCount : Int
  lastReturnAt : Option Int
deriving DecidableEq

structure FeedMoveWrite where
  oldUrl : String
  newUrl : String
  arrivalTag : Option String
  /-- The new count and the time of a return.  None leaves both values. -/
  returnValues : Option (Int × Int)
deriving DecidableEq

def i64Max : Int := 9223372036854775807

def i64Min : Int := -9223372036854775808

/-- The nearest value that 64 bits hold. -/
def saturate (n : Int) : Int := max i64Min (min i64Max n)

def returnWaitBaseSecs : Int := 3600

def returnWaitLimitSecs : Int := 604800

def returnCountResetSecs : Int := 2592000

def effectiveReturnCount (count : Int) (lastReturnAt : Option Int) (now : Int) : Int :=
  match lastReturnAt with
  | some last =>
    if 0 < count ∧ saturate (now - last) < returnCountResetSecs then count else 0
  | none => 0

def returnCooldownEnd (count : Int) (lastReturnAt : Option Int) (now : Int) : Option Int :=
  let effective := effectiveReturnCount count lastReturnAt now
  if effective < 1 then none
  else
    let shift := min (effective - 1).toNat 20
    let wait := min (returnWaitBaseSecs * 2 ^ shift) returnWaitLimitSecs
    lastReturnAt.map fun last => saturate (last + wait)

/-- A record with no row has the default state. -/
def getMoveState (d : Db) (feedGuid : String) : MoveState :=
  match (d .feedMoveState).find? fun r : MoveStateRow => r.feedGuid == feedGuid with
  | some r =>
    { arrivalTag := r.arrivalTag, returnCount := r.returnCount, lastReturnAt := r.lastReturnAt }
  | none => { arrivalTag := none, returnCount := 0, lastReturnAt := none }

/-- After a relocation the first body gives the arrival tag. -/
def clearArrivalTagUnless (feedGuid : String) (tag : Option String) : Stmt Unit :=
  update .feedMoveState (fun r : MoveStateRow => r.feedGuid == feedGuid)
    (fun r : MoveStateRow =>
      { r with
        arrivalTag :=
          if r.arrivalPending then tag else if r.arrivalTag = tag then r.arrivalTag else none
        arrivalPending := false })

def writeFeedMove (feedGuid : String) (mv : FeedMoveWrite) : Stmt Unit := do
  addLeftUrl feedGuid mv.oldUrl
  removeLeftUrl feedGuid mv.newUrl
  upsert .feedMoveState (fun r : MoveStateRow => r.feedGuid == feedGuid)
    { feedGuid := feedGuid
      arrivalTag := mv.arrivalTag
      returnCount := 0
      lastReturnAt := none
      arrivalPending := false }
    (fun r : MoveStateRow => { r with arrivalTag := mv.arrivalTag, arrivalPending := false })
  match mv.returnValues with
  | some (count, returnedAt) =>
    update .feedMoveState (fun r : MoveStateRow => r.feedGuid == feedGuid)
      (fun r : MoveStateRow => { r with returnCount := count, lastReturnAt := some returnedAt })
  | none => pure ()

theorem writeFeedMove_writes {feedGuid : String} {mv : FeedMoveWrite} :
    Writes [Table.feedLeftUrls, Table.feedMoveState] (writeFeedMove feedGuid mv) := by
  have hadd : Writes [Table.feedLeftUrls, Table.feedMoveState] (addLeftUrl feedGuid mv.oldUrl) :=
    (Writes.insertOrIgnore (by decide)).bind fun _ => Writes.pure ()
  apply hadd.bind
  intro _
  apply (Writes.delete (by decide)).bind
  intro _
  apply (Writes.upsert (by decide)).bind
  intro _
  cases mv.returnValues with
  | none => exact Writes.pure ()
  | some values => exact Writes.update (by decide)

def getSourceGoneAnswer (d : Db) (feedGuid : String) : Option SourceGoneAnswer :=
  (d .sourceGoneAnswers).find? fun r : SourceGoneAnswer => r.feedGuid == feedGuid

def recordSourceGoneAnswer (feedGuid sourceUrl : String) (now : Int) (status : Nat) :
    Stmt Unit :=
  upsert .sourceGoneAnswers (fun r : SourceGoneAnswer => r.feedGuid == feedGuid)
    { feedGuid := feedGuid
      sourceUrl := sourceUrl
      firstGoneAt := now
      lastGoneAt := now
      lastStatus := status }
    (fun r : SourceGoneAnswer => { r with lastGoneAt := now, lastStatus := status })

def upsertFeedCrawlCache (feedUrl contentHash : String) (crawledAt : Int) : Stmt Unit :=
  upsert .feedCrawlCache (fun r : CrawlCacheRow => r.feedUrl == feedUrl)
    { feedUrl := feedUrl, contentHash := contentHash, crawledAt := crawledAt }
    (fun r : CrawlCacheRow => { r with contentHash := contentHash, crawledAt := crawledAt })

end Stophammer
