import Mathlib.Algebra.Group.Nat.Defs
import Mathlib.Algebra.Ring.Int.Defs
import Mathlib.Data.List.Sort
import Stophammer.Ingest.Request
import Stophammer.Db.Content

/-!
# Live items of a submission

The rules that drop a live item before it is stored, each with its warning.
-/

namespace Stophammer

def maxActiveLiveRows : Nat := 10

def maxEndedLiveRows : Nat := 10

def maxUnrelayedLiveSecs : Int := 6 * 3600

/-- The difference of two `i64` values, as a release build wraps it. -/
def wrappingSub (a b : Int) : Int := (a - b).bmod (2 ^ 64)

namespace IngestLiveItemData

def hasRelayLink (item : IngestLiveItemData) : Bool := item.liveValueUri.any (!·.isEmpty)

def isEnded (item : IngestLiveItemData) : Bool := eqIgnoreAsciiCase item.status "ended"

def knownStatus (item : IngestLiveItemData) : Bool :=
  toAsciiLowercase item.status ∈ ["pending", "live", "ended"]

/-- A live item with no relay needs a short window from its start to its end. -/
def isBannedLiveItem (item : IngestLiveItemData) : Bool :=
  if !eqIgnoreAsciiCase item.status "live" || item.hasRelayLink then false
  else
    match item.startAt, item.endAt with
    | some startAt, some endAt => maxUnrelayedLiveSecs < wrappingSub endAt startAt
    | _, _ => true

/-- The newest start first; an item with no start is last. -/
def startsLater (a b : IngestLiveItemData) : Bool :=
  match a.startAt, b.startAt with
  | some aStart, some bStart => bStart ≤ aStart
  | some _, none => true
  | none, some _ => false
  | none, none => true

def droppedItem (item : IngestLiveItemData) (rule : String) : String :=
  "dropped live item " ++ item.liveItemGuid ++ ": " ++ rule ++ " (ADR 0064 section 4)"

def unknownStatusWarning (item : IngestLiveItemData) : String :=
  item.droppedItem ("unknown status " ++ item.status)

def duplicateWarning (item : IngestLiveItemData) : String :=
  "dropped duplicate live_item_guid " ++ item.liveItemGuid ++ " (ADR 0064 section 4)"

def bannedWarning (item : IngestLiveItemData) : String :=
  item.droppedItem "no relay link and no start/end window of at most 6 hours"

def activeCapWarning (item : IngestLiveItemData) : String :=
  item.droppedItem "more than 10 pending or live items"

def endedCapWarning (item : IngestLiveItemData) : String :=
  item.droppedItem "more than 10 ended items"

end IngestLiveItemData

open IngestLiveItemData

/-- The elements whose key an earlier element has. -/
def repeatsBy {α κ : Type} [DecidableEq κ] (key : α → κ) : List κ → List α → List α
  | _, [] => []
  | seen, a :: as =>
    if key a ∈ seen then a :: repeatsBy key seen as else repeatsBy key (key a :: seen) as

/-- The kept items in RSS order, and one warning for each dropped item. -/
def selectLiveItems (items : List IngestLiveItemData) : List IngestLiveItemData × List String :=
  let known := items.filter knownStatus
  let deduped := dedupeBy liveItemGuid [] known
  let survivors := deduped.filter (!·.isBannedLiveItem)
  let active := survivors.filter (!·.isEnded)
  let ended := (survivors.filter isEnded).insertionSort fun a b => startsLater a b
  let keptGuids :=
    (active.take maxActiveLiveRows ++ ended.take maxEndedLiveRows).map liveItemGuid
  (survivors.filter fun item => item.liveItemGuid ∈ keptGuids,
    (items.filter (!·.knownStatus)).map unknownStatusWarning ++
      (repeatsBy liveItemGuid [] known).map duplicateWarning ++
      (deduped.filter isBannedLiveItem).map bannedWarning ++
      (active.drop maxActiveLiveRows).map activeCapWarning ++
      (ended.drop maxEndedLiveRows).map endedCapWarning)

end Stophammer
