import Stophammer.Db.Delete
import Stophammer.Db.Events
import Stophammer.Db.Records

/-!
# Retirement of a feed

The delete of a record with the events that it signs, and the hold that keeps a
retired GUID at its source.
-/

namespace Stophammer

open Relational Statement

variable [Platform]

/-- The GUID of a hold is in lower case. -/
def getRetiredSourceHold (d : Db) (feedGuid : String) : Option RetiredSourceHold :=
  (d .retiredSourceHolds).find? fun r : RetiredSourceHold => r.feedGuid == toLowercase feedGuid

structure SignedEventRow where
  row : EventRow
  seq : Int
  signedBy : String
  signature : String
deriving DecidableEq

namespace SignedEventRow

/-- The row of the log. -/
def stored (s : SignedEventRow) : StoredEvent := s.row.stored s.signedBy s.signature s.seq

end SignedEventRow

def signEventRow (signer : NodeSigner) (row : EventRow) : Stmt SignedEventRow := do
  let (seq, signedBy, signature) ← insertEvent signer row
  pure { row := row, seq := seq, signedBy := signedBy, signature := signature }

omit [Platform] in
theorem signEventRow_writes {signer : NodeSigner} {row : EventRow} :
    Writes (S := schema) [Table.events] (signEventRow signer row) :=
  insertEvent_writes.bind fun _ => Writes.pure _

/-- The event of a signed row, with the payload that its text decodes to. -/
def signedEvent (s : SignedEventRow) : Stmt Event :=
  match eventOfRow s.stored with
  | .ok ev => pure ev
  | .error e => fail e

/-- The reason inside the payload of a retirement. -/
def retiredReason (payloadJson : String) : Stmt String :=
  match Platform.decodePayload .feedRetired payloadJson with
  | some (.feedRetired p) => pure (p.reason.getD "")
  | _ => fail .json

/-- A retire with no block keeps a hold on the GUID. -/
def writeHold (feedGuid payloadJson : String) (createdAt : Int) : Option String → Stmt Unit
  | some sourceUrl => do
    let reason ← retiredReason payloadJson
    insertOrReplace .retiredSourceHolds
      { feedGuid := toLowercase feedGuid
        sourceUrl := sourceUrl
        reason := reason
        retiredAt := createdAt
        releasedAt := none }
  | none => pure ()

/-- One event for each block that was not there. -/
def signBlocks (signer : NodeSigner) (createdAt : Int) : List (FeedBlock × String) →
    Stmt (List Event)
  | [] => pure []
  | (block, eventId) :: blocks => do
    if ← insertFeedBlock block then
      let signed ← signEventRow signer
        { eventId := eventId
          eventType := .feedBlocked
          payloadJson := Platform.encodePayload (.feedBlocked
            { blockId := block.blockId
              kind := block.kind
              value := block.value
              reason := block.reason
              blockedAt := block.blockedAt })
          subjectGuid := block.blockId
          createdAt := createdAt
          warnings := [] }
      let ev ← signedEvent signed
      let events ← signBlocks signer createdAt blocks
      pure (ev :: events)
    else signBlocks signer createdAt blocks

/-- Each block comes with the id of its event. -/
def deleteFeedWithEvent (signer : NodeSigner) (feedGuid : String) (row : EventRow)
    (blocks : List (FeedBlock × String)) : Stmt (List Event) := transaction do
  let holdSourceUrl ← read fun d : Db =>
    if blocks.isEmpty then (getFeedByGuid d feedGuid).map Feed.feedUrl else none
  deleteFeedSql feedGuid
  writeHold feedGuid row.payloadJson row.createdAt holdSourceUrl
  let signed ← signEventRow signer row
  let retired ← signedEvent signed
  let blocked ← signBlocks signer row.createdAt blocks
  pure (retired :: blocked)

theorem signedEvent_writes {ts : List Table} {s : SignedEventRow} :
    Writes (S := schema) ts (signedEvent s) := by
  unfold signedEvent
  split
  · exact Writes.pure _
  · exact Writes.fail _

theorem retiredReason_writes {ts : List Table} {payloadJson : String} :
    Writes (S := schema) ts (retiredReason payloadJson) := by
  unfold retiredReason
  split
  · exact Writes.pure _
  · exact Writes.fail _

theorem writeHold_writes {feedGuid payloadJson : String} {createdAt : Int}
    {sourceUrl : Option String} :
    Writes (S := schema) [Table.retiredSourceHolds]
      (writeHold feedGuid payloadJson createdAt sourceUrl) := by
  cases sourceUrl with
  | none => exact Writes.pure _
  | some url => exact retiredReason_writes.bind fun _ => Writes.insertOrReplace (by decide)

theorem signBlocks_writes {signer : NodeSigner} {createdAt : Int}
    {blocks : List (FeedBlock × String)} :
    Writes (S := schema) [Table.feedBlocks, .feedCopies, .events]
      (signBlocks signer createdAt blocks) := by
  induction blocks with
  | nil => exact Writes.pure _
  | cons entry blocks ih =>
    apply (insertFeedBlock_writes.mono (by decide)).bind
    intro changed
    refine Writes.ite ?_ ih
    apply (signEventRow_writes.mono (by decide)).bind
    intro signed
    exact signedEvent_writes.bind fun _ => ih.bind fun _ => Writes.pure _

end Stophammer
