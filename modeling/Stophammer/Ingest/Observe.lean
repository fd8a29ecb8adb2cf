import Stophammer.Ingest.Transaction

/-!
# What an ingest records beside the content

The URL observations, the copies at other URLs and the GUID changes.  Each function
runs in its own transaction and gives the rows that it signed.
-/

namespace Stophammer

open Relational Statement

def IngestPaymentRoute.routeRecipient (r : IngestPaymentRoute) : RouteRecipient where
  address := r.address
  customKey := r.customKey
  customValue := r.customValue
  split := r.split

def IngestRemoteFeedRef.copyRemoteItem (r : IngestRemoteFeedRef) : CopyRemoteItem where
  medium := r.medium
  feedGuid := r.remoteFeedGuid
  feedUrl := r.remoteFeedUrl
  itemGuid := r.itemGuid

/-- The entries of a map after an insert, in key order. -/
def insertByKey {α : Type} (key : String) (value : α) :
    List (String × α) → List (String × α)
  | [] => [(key, value)]
  | entry :: entries =>
    match compare key entry.1 with
    | .lt => (key, value) :: entry :: entries
    | .eq => (key, value) :: entries
    | .gt => entry :: insertByKey key value entries

/-- The text, when it is not empty. -/
def nonEmpty (value : Option String) : Option String := value.filter (!·.isEmpty)

/-- The last track of a GUID gives its recipients. -/
def copySummary (feed : IngestFeedData) : CopySummary where
  title := feed.title
  itemGuids := feed.tracks.map IngestTrackData.trackGuid
  itemTitles := some (feed.tracks.map fun t => nonEmpty (some t.title))
  imageUrl := feed.imageUrl
  remoteItems := some (feed.remoteItems.map IngestRemoteFeedRef.copyRemoteItem)
  itemDurations := some (feed.tracks.map IngestTrackData.durationSecs)
  itemEnclosureUrls := some (feed.tracks.map fun t => nonEmpty t.enclosureUrl)
  itemPubDates := some (feed.tracks.map IngestTrackData.pubDate)
  author := nonEmpty feed.authorName
  feedRecipients := feed.feedPaymentRoutes.map IngestPaymentRoute.routeRecipient
  trackRecipients :=
    feed.tracks.foldl
      (fun entries t =>
        insertByKey t.trackGuid (t.paymentRoutes.map IngestPaymentRoute.routeRecipient) entries)
      []

variable [Platform]

def feedCopyObservedEventRow (feedGuid url : String) (firstSeen : Int) (summary : CopySummary)
    (digest : String) (now : Int) : EventDraft :=
  eventDraft
    (.feedCopyObserved
      { feedGuid := feedGuid
        url := url
        firstSeen := firstSeen
        title := summary.title
        itemGuids := summary.itemGuids
        itemTitles := summary.itemTitles
        imageUrl := summary.imageUrl
        remoteItems := summary.remoteItems
        itemDurations := summary.itemDurations
        itemEnclosureUrls := summary.itemEnclosureUrls
        itemPubDates := summary.itemPubDates
        author := summary.author
        feedRecipients := summary.feedRecipients
        trackRecipients := summary.trackRecipients
        summaryDigest := digest })
    feedGuid now []

/-- A field that a community node stores differs from the stored row. -/
def copyChanged (summary : CopySummary) (row : FeedCopyRow) : Bool :=
  summaryDigest summary != row.summaryDigest ||
    summary.title != row.summary.title ||
    summary.itemTitles != row.summary.itemTitles ||
    summary.imageUrl != row.summary.imageUrl ||
    remoteItemsDigest summary != row.remoteItemsDigest ||
    summary.itemDurations != row.summary.itemDurations ||
    summary.itemEnclosureUrls != row.summary.itemEnclosureUrls ||
    summary.itemPubDates != row.summary.itemPubDates ||
    summary.author != row.summary.author

def recordFeedCopyForIngest (signer : NodeSigner) (eventId feedGuid url : String)
    (feedData : IngestFeedData) (now : Int) : Stmt (List SignedEventRow) := transaction do
  let summary := copySummary feedData
  let digest := summaryDigest summary
  match ← read (getFeedCopy · feedGuid url) with
  | some row =>
    touchFeedCopyLastSeen feedGuid url now
    if copyChanged summary row then
      upsertFeedCopySummary feedGuid url row.firstSeen summary digest (remoteItemsDigest summary)
      let signed ← signEventRow signer
        (feedCopyObservedEventRow feedGuid url row.firstSeen summary digest now eventId)
      pure [signed]
    else pure []
  | none =>
    if maxCopiesPerGuid ≤ (← read (countFeedCopies · feedGuid)) then
      incrementCopyOverflow feedGuid
      pure []
    else
      upsertFeedCopySummary feedGuid url now summary digest (remoteItemsDigest summary)
      touchFeedCopyLastSeen feedGuid url now
      let signed ← signEventRow signer
        (feedCopyObservedEventRow feedGuid url now summary digest now eventId)
      pure [signed]

def feedUrlObservedEventRow (observation : FeedUrlObservation) : EventDraft :=
  eventDraft
    (.feedUrlObserved
      { url := observation.url
        feedGuid := observation.feedGuid
        observedAt := observation.observedAt })
    observation.feedGuid observation.observedAt []

def recordUrls (signer : NodeSigner) (feedGuid : String) (now : Int) :
    List (String × String) → Stmt (List SignedEventRow)
  | [] => pure []
  | (url, eventId) :: urls => do
    match ← recordFeedUrlObservation url feedGuid now with
    | some observation => do
      let signed ← signEventRow signer (feedUrlObservedEventRow observation eventId)
      let rest ← recordUrls signer feedGuid now urls
      pure (signed :: rest)
    | none => recordUrls signer feedGuid now urls

/-- The canonical URL, then the source URL when it differs. -/
def recordFeedUrlObservationsForIngest (signer : NodeSigner) (uuid : Nat → String)
    (canonicalUrl sourceUrl feedGuid : String) (now : Int) : Stmt (List SignedEventRow) :=
  transaction <|
    recordUrls signer feedGuid now <|
      (canonicalUrl, uuid 0) :: if sourceUrl == canonicalUrl then [] else [(sourceUrl, uuid 1)]

/-- `newGuid` equal to `oldGuid` is the delete marker. -/
def guidChangeObservedEventRow (sourceUrl oldGuid newGuid : String) (firstSeen now : Int) :
    EventDraft :=
  eventDraft
    (.feedGuidChangeObserved
      { sourceUrl := sourceUrl, oldGuid := oldGuid, newGuid := newGuid, firstSeen := firstSeen })
    oldGuid now []

inductive GuidChangePendingOutcome where
  /-- The operator rejected this same new GUID.  Nothing was written. -/
  | rejected
  | pending (signedRows : List SignedEventRow)
deriving DecidableEq

def writePendingGuidChange (signer : NodeSigner) (eventId sourceUrl oldGuid newGuid : String)
    (firstSeen now : Int) (isNewOrChanged : Bool) : Stmt (List SignedEventRow) :=
  transaction do
    upsertGuidChange sourceUrl oldGuid newGuid firstSeen
    touchGuidChangeLastSeen sourceUrl now
    if isNewOrChanged then
      let signed ← signEventRow signer
        (guidChangeObservedEventRow sourceUrl oldGuid newGuid firstSeen now eventId)
      pure [signed]
    else pure []

def recordGuidChangePendingForIngest (signer : NodeSigner)
    (eventId sourceUrl oldGuid newGuid : String) (now : Int) : Stmt GuidChangePendingOutcome := do
  let existing ← read (getGuidChange · sourceUrl)
  if existing.any fun row => row.newGuid == newGuid && row.decision == some "reject" then
    pure .rejected
  else
    let isNewOrChanged := existing.all fun row => row.newGuid != newGuid
    let firstSeen := if isNewOrChanged then now else (existing.map GuidChangeRow.firstSeen).getD now
    let signedRows ← writePendingGuidChange signer eventId sourceUrl oldGuid newGuid firstSeen now
      isNewOrChanged
    pure (.pending signedRows)

/-- The source serves the GUID of its record again: the pending row leaves. -/
def recordGuidChangeReturnForIngest (signer : NodeSigner) (eventId sourceUrl guid : String)
    (now : Int) : Stmt (List SignedEventRow) := do
  match ← read (getGuidChange · sourceUrl) with
  | none => pure []
  | some _ => transaction do
    deleteGuidChange sourceUrl
    let signed ← signEventRow signer
      (guidChangeObservedEventRow sourceUrl guid guid now now eventId)
    pure [signed]

def guidSupersededReason : String := "guid_superseded"

/-- Retire the old GUID and mark it as superseded.  The record of the new GUID is not
admitted here. -/
def guidChangeTransition (signer : NodeSigner) (uuid : Nat → String)
    (oldGuid newGuid sourceUrl : String) (now : Int) : Stmt (List SignedEventRow) :=
  transaction do
    deleteFeedSql oldGuid
    let retired ← signEventRow signer
      (eventDraft (.feedRetired { feedGuid := oldGuid, reason := some guidSupersededReason })
        oldGuid now [] (uuid 0))
    insertGuidSupersession oldGuid newGuid sourceUrl now
    let superseded ← signEventRow signer
      (eventDraft
        (.feedGuidSuperseded { oldGuid := oldGuid, newGuid := newGuid, sourceUrl := sourceUrl })
        oldGuid now [] (uuid 1))
    match ← read (getGuidChange · sourceUrl) with
    | some _ => do
      deleteGuidChange sourceUrl
      let marker ← signEventRow signer
        (guidChangeObservedEventRow sourceUrl oldGuid oldGuid now now (uuid 2))
      pure [retired, superseded, marker]
    | none => pure [retired, superseded]

section Writes

variable {signer : NodeSigner}

theorem recordUrls_writes {feedGuid : String} {now : Int} {urls : List (String × String)} :
    Writes (S := schema) [Table.feedUrlObservations, .events]
      (recordUrls signer feedGuid now urls) := by
  induction urls with
  | nil => exact Writes.pure _
  | cons entry urls ih =>
    apply (recordFeedUrlObservation_writes.mono (by decide)).bind
    intro observation
    cases observation with
    | none => exact ih
    | some observation =>
      exact (signEventRow_writes.mono (by decide)).bind fun _ => ih.bind fun _ => Writes.pure _

theorem recordGuidChangePendingForIngest_writes {eventId sourceUrl oldGuid newGuid : String}
    {now : Int} :
    Writes (S := schema) [Table.feedGuidChanges, .events]
      (recordGuidChangePendingForIngest signer eventId sourceUrl oldGuid newGuid now) := by
  have hwrite : ∀ firstSeen isNewOrChanged, Writes (S := schema) [Table.feedGuidChanges, .events]
      (writePendingGuidChange signer eventId sourceUrl oldGuid newGuid firstSeen now
        isNewOrChanged) := by
    intro firstSeen isNewOrChanged
    apply Writes.transaction
    apply (Writes.upsert (by decide)).bind
    intro _
    apply (Writes.update (by decide)).bind
    intro _
    exact Writes.ite ((signEventRow_writes.mono (by decide)).bind fun _ => Writes.pure _)
      (Writes.pure _)
  apply (Writes.read _).bind
  intro existing
  exact Writes.ite (Writes.pure _) ((hwrite _ _).bind fun _ => Writes.pure _)

theorem recordGuidChangeReturnForIngest_writes {eventId sourceUrl guid : String} {now : Int} :
    Writes (S := schema) [Table.feedGuidChanges, .events]
      (recordGuidChangeReturnForIngest signer eventId sourceUrl guid now) := by
  apply (Writes.read _).bind
  intro row
  cases row with
  | none => exact Writes.pure _
  | some _ =>
    apply Writes.transaction
    apply (Writes.delete (by decide)).bind
    intro _
    exact (signEventRow_writes.mono (by decide)).bind fun _ => Writes.pure _

end Writes

end Stophammer
