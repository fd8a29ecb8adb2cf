import Stophammer.Admission
import Stophammer.Operator

/-!
# Runs of a primary

What changes the database of a primary: the submissions of the crawlers, the requests of
the operator, the steps at its start and the writes about its peers.  A run keeps each
operation with the state in front of it.
-/

namespace Stophammer

open Relational Statement

/-- A request of the operator. -/
inductive AdminRequest where
  | retireFeed (guid : String) (block : Option Bool)
  | removeTrack (guid trackGuid : String)
  | createBlock (kind : FeedBlockKind) (value reason : String)
  | deleteBlock (blockId : String)
  | deleteRetiredSourceHold (guid : String)
  | patchFeed (guid : String) (feedUrl reason : Option String)
  | resolveCopy (guid url decision reason : String)
  | decideGuidChange (guid decision reason : String)
  | patchTrack (guid : String) (enclosureUrl : Option String)
  | patchFeedTrack (feedGuid trackGuid : String) (enclosureUrl : Option String)
deriving DecidableEq

def invalidAdminToken : ApiError where
  status := 403
  message := "invalid or missing X-Admin-Token"

/-- One change of the database of a primary. -/
inductive Operation where
  /-- `snapshot` is the state that the reader of the request sees. -/
  | ingest (env : IngestEnv) (snapshot : Db) (req : IngestFeedRequest)
  | admin (env : OperatorEnv) (tokenAccepted : Bool) (request : AdminRequest)
  | seedBlocks (env : OperatorEnv) (entries : List (FeedBlockKind × String))
  | fillRetiredSourceHolds
  /-- A registration of a peer, or the count of its failures. -/
  | peers (write : Stmt Unit) (only : Writes (S := schema) [Table.peerNodes] write)

/-- The events that the operation signs are those of `signer`. -/
def Operation.SignedBy (signer : NodeSigner) : Operation → Prop
  | .ingest env _ _ => env.signer = signer
  | .admin env _ _ => env.signer = signer
  | .seedBlocks env _ => env.signer = signer
  | .fillRetiredSourceHolds => True
  | .peers _ _ => True

section

variable [Platform]

def AdminRequest.handle (env : OperatorEnv) : AdminRequest → Handler (List Event)
  | .retireFeed guid block => handleRetireFeed env guid block
  | .removeTrack guid trackGuid => handleRemoveTrack env guid trackGuid
  | .createBlock kind value reason => handleCreateBlock env kind value reason
  | .deleteBlock blockId => handleDeleteBlock env blockId
  | .deleteRetiredSourceHold guid => handleDeleteRetiredSourceHold env guid
  | .patchFeed guid feedUrl reason => handlePatchFeed env guid feedUrl reason
  | .resolveCopy guid url decision reason => handleResolveCopy env guid url decision reason
  | .decideGuidChange guid decision reason => handleGuidChangeDecision env guid decision reason
  | .patchTrack guid enclosureUrl => handlePatchTrack env guid enclosureUrl
  | .patchFeedTrack feedGuid trackGuid enclosureUrl =>
    handlePatchFeedTrack env feedGuid trackGuid enclosureUrl

/-- The token is checked in front of every route of the operator. -/
def handleAdmin (env : OperatorEnv) (tokenAccepted : Bool) (request : AdminRequest) :
    Handler (List Event) :=
  if tokenAccepted then request.handle env else fail invalidAdminToken

theorem handleAdmin_decides {env : OperatorEnv} {oldGuid decision reason : String} :
    handleAdmin env true (.decideGuidChange oldGuid decision reason) =
      handleGuidChangeDecision env oldGuid decision reason :=
  if_pos rfl

/-- The state after the operation, whatever its answer. -/
def Operation.next : Operation → Db → Db
  | .ingest env snapshot req, d => (handleIngestFeed env snapshot req d).2
  | .admin env tokenAccepted request, d => (handleAdmin env tokenAccepted request d).2
  | .seedBlocks env entries, d => (Stophammer.seedBlocks env entries d).2
  | .fillRetiredSourceHolds, d => (Stophammer.fillRetiredSourceHolds d).2
  | .peers write _, d => (write d).2

theorem Operation.next_admin {env : OperatorEnv} {tokenAccepted : Bool} {request : AdminRequest}
    {d : Db} : Operation.next (.admin env tokenAccepted request) d =
      (handleAdmin env tokenAccepted request d).2 := rfl

/-- An operation of a run with the state in front of it. -/
structure RunStep where
  before : Db
  operation : Operation

/-- A run from the empty database in which `ok` holds of each operation in its state.  The
last step comes first. -/
inductive PrimaryRun (ok : Db → Operation → Prop) : List RunStep → Db → Prop
  | empty : PrimaryRun ok [] (Database.empty schema)
  | step {history : List RunStep} {d : Db} (operation : Operation) :
      PrimaryRun ok history d → ok d operation →
      PrimaryRun ok ({ before := d, operation := operation } :: history) (operation.next d)

namespace PrimaryRun

variable {ok : Db → Operation → Prop} {history : List RunStep} {d : Db}

theorem keeps {I : Db → Prop} (hempty : I (Database.empty schema))
    (hstep : ∀ d operation, ok d operation → Keeps I d (operation.next d))
    (hrun : PrimaryRun ok history d) : I d := by
  induction hrun with
  | empty => exact hempty
  | step operation _ hok ih => exact hstep _ operation hok ih

theorem mono {ok' : Db → Operation → Prop} (h : ∀ d operation, ok d operation → ok' d operation)
    (hrun : PrimaryRun ok history d) : PrimaryRun ok' history d := by
  induction hrun with
  | empty => exact .empty
  | step operation _ hok ih => exact .step operation ih (h _ _ hok)

theorem before (hrun : PrimaryRun ok history d) {s : RunStep} (hs : s ∈ history) :
    ok s.before s.operation ∧ ∃ earlier, PrimaryRun ok earlier s.before := by
  induction hrun with
  | empty => cases hs
  | step operation hrest hok ih =>
    rcases List.mem_cons.mp hs with rfl | hs
    · exact ⟨hok, _, hrest⟩
    · exact ih hs

end PrimaryRun

omit [Platform] in
theorem forall_steps_last {P : Db → Operation → Prop} {history : List RunStep} {d : Db}
    {operation : Operation}
    (h : ∀ s ∈ ({ before := d, operation := operation } : RunStep) :: history,
      P s.before s.operation) : P d operation := h _ List.mem_cons_self

/-- The tables that the routes write that change no feed, no hold and no GUID change. -/
def operatorTables : List Table := trackDeleteTables ++ [.feedBlocks, .feedCopies, .events]

/-- Those of them that change no track. -/
def blockTables : List Table := [.feedBlocks, .feedCopies, .events]

omit [Platform] in
theorem blockTables_subset : blockTables ⊆ operatorTables := List.subset_append_right _ _

/-- The events of these routes. -/
def operatorTypes : List EventType :=
  [.trackRemoved, .feedBlocked, .feedUnblocked, .trackUpserted, .feedCopyResolved]

/-- The request gives a track another enclosure URL. -/
def AdminRequest.Patches : AdminRequest → Prop
  | .patchTrack _ (some _) => True
  | .patchFeedTrack _ _ (some _) => True
  | _ => False

/-- The request gives the record another source URL. -/
def AdminRequest.Relocates (guid : String) : AdminRequest → Prop
  | .patchFeed feedGuid (some _) _ => feedGuid = guid
  | .resolveCopy feedGuid _ decision _ => decision = "relocate" ∧ feedGuid = guid
  | _ => False

section Rules

variable {env : OperatorEnv} {R : Db → Db → Prop} [IsPreorder Db R]

theorem fanoutEvent_steps {message : String} {signed : SignedEventRow} :
    Steps R (fanoutEvent message signed) := by
  unfold fanoutEvent
  split
  · exact .pure _
  · exact .fail _

theorem handleRemoveTrack_logs {guid trackGuid : String} :
    Steps (Logs operatorTables operatorTypes) (handleRemoveTrack env guid trackGuid) := by
  apply Steps.read_then
  intro track
  cases track with
  | none => exact .fail _
  | some _ =>
    refine Steps.bind (Steps.mapError (Steps.transaction ?_)) fun _ =>
      fanoutEvent_steps.bind fun _ => .pure _
    apply (Logs.of_writes deleteTrackSql_writes (by decide) (by decide)).bind
    intro _
    exact signEventRow_logs (by decide) (show EventType.trackRemoved ∈ operatorTypes by decide)

theorem handleCreateBlock_steps {kind : FeedBlockKind} {value reason : String}
    (hcreate : ∀ value reason, Steps R (createBlock env kind value reason)) :
    Steps R (handleCreateBlock env kind value reason) := by
  refine Steps.ite (.fail _) ((hcreate _ _).mapError.bind fun outcome => ?_)
  cases outcome with
  | conflict blockId => exact .fail _
  | created block signed => exact signedEvent_steps.mapError.bind fun _ => .pure _

theorem handleDeleteBlock_steps {blockId : String} (hremove : Steps R (removeBlock env blockId)) :
    Steps R (handleDeleteBlock env blockId) := by
  apply hremove.mapError.bind
  intro signed
  cases signed with
  | none => exact .fail _
  | some signed => exact signedEvent_steps.mapError.bind fun _ => .pure _

theorem createBlock_logs {kind : FeedBlockKind} {value reason : String} :
    Steps (Logs blockTables operatorTypes) (createBlock env kind value reason) := by
  apply Steps.transaction
  apply Steps.read_then
  intro existing
  cases existing with
  | some _ => exact .pure _
  | none =>
    apply (Logs.of_writes insertFeedBlock_writes (by decide) (by decide)).bind
    intro _
    apply (signEventRow_logs (by decide) (show EventType.feedBlocked ∈ operatorTypes by
      decide)).bind
    exact fun _ => .pure _

theorem removeBlock_logs {blockId : String} :
    Steps (Logs blockTables operatorTypes) (removeBlock env blockId) := by
  have hdelete : Writes (S := schema) [Table.feedBlocks] (deleteFeedBlock blockId) :=
    Writes.delete (by decide)
  apply Steps.transaction
  apply Steps.read_then
  intro found
  refine Steps.ite ?_ (.pure _)
  apply (Logs.of_writes hdelete (by decide) (by decide)).bind
  intro _
  apply (signEventRow_logs (by decide) (show EventType.feedUnblocked ∈ operatorTypes by
    decide)).bind
  exact fun _ => .pure _

theorem patchTrackRow_logs {feedGuid trackGuid newUrl : String} :
    Steps (Logs operatorTables operatorTypes) (patchTrackRow env feedGuid trackGuid newUrl) := by
  have htrack : ∀ {f : Track → Track} {p : Track → Bool},
      Writes (S := schema) [Table.tracks] (update (S := schema) .tracks p f) :=
    Writes.update (by decide)
  apply Steps.transaction
  apply (Logs.dbStep htrack (by decide) (by decide)).bind
  intro _
  apply Steps.read_then
  intro updated
  cases updated with
  | none => exact .fail _
  | some track =>
    refine Steps.read_then fun routes => Steps.read_then fun splits => ?_
    exact (signEventRow_logs (by decide) (show EventType.trackUpserted ∈ operatorTypes by
      decide)).mapError

section Patch

variable {d : Db}

theorem patchResolvedTrack_steps {feedGuid trackGuid : String} {enclosureUrl : Option String}
    (hpatch : ∀ newUrl, enclosureUrl = some newUrl →
      R d (patchTrackRow env feedGuid trackGuid newUrl d).2) :
    R d (patchResolvedTrack env feedGuid trackGuid enclosureUrl d).2 := by
  cases enclosureUrl with
  | none => exact refl_of R d
  | some newUrl =>
    apply Steps.after (hpatch newUrl rfl)
    exact fun signed t _ => (fanoutEvent_steps.bind fun _ => .pure _ : Steps R _) t

theorem handlePatchTrack_steps {guid : String} {enclosureUrl : Option String}
    (hpatch : ∀ feedGuid newUrl, enclosureUrl = some newUrl →
      R d (patchTrackRow env feedGuid guid newUrl d).2) :
    R d (handlePatchTrack env guid enclosureUrl d).2 := by
  unfold handlePatchTrack
  rw [read_bind_run]
  rcases getTracksByGuid d guid with _ | ⟨track, _ | ⟨_, _⟩⟩
  · exact refl_of R d
  · exact patchResolvedTrack_steps (hpatch track.feedGuid)
  · exact refl_of R d

theorem handlePatchFeedTrack_steps {feedGuid trackGuid : String} {enclosureUrl : Option String}
    (hpatch : ∀ feedGuid newUrl, enclosureUrl = some newUrl →
      R d (patchTrackRow env feedGuid trackGuid newUrl d).2) :
    R d (handlePatchFeedTrack env feedGuid trackGuid enclosureUrl d).2 := by
  unfold handlePatchFeedTrack
  rw [read_bind_run]
  cases getTrackForFeed d feedGuid trackGuid with
  | none => exact refl_of R d
  | some track => exact patchResolvedTrack_steps (hpatch track.feedGuid)

end Patch

theorem signResolution_logs {guid decision reason eventId : String} {row : FeedCopyRow} :
    Steps (Logs blockTables operatorTypes)
      (signResolution env guid decision reason row eventId) := by
  have hset : Writes (S := schema) [Table.feedCopies] (setFeedCopyResolution guid row.url decision
      reason env.now row.summaryDigest row.remoteItemsDigest) := Writes.update (by decide)
  apply (signEventRow_logs (by decide) (show EventType.feedCopyResolved ∈ operatorTypes by
    decide)).bind
  intro signed
  exact (Logs.of_writes hset (by decide) (by decide)).bind fun _ => .pure _

theorem decideGuidChangeRow_logs {guid decision reason : String} :
    Steps (Logs [.feedGuidChanges, .events] [.feedGuidChangeDecided])
      (decideGuidChangeRow env guid decision reason) := by
  have hsign : ∀ row : EventRow, row.eventType = .feedGuidChangeDecided →
      Steps (Logs [.feedGuidChanges, .events] [.feedGuidChangeDecided])
        (signEventRow env.signer row) :=
    fun _ htype => signEventRow_logs (by decide) (List.mem_singleton.mpr htype)
  apply Steps.transaction
  apply Steps.read_then
  intro row
  cases row with
  | none => exact .pure _
  | some row =>
    have hset : Writes (S := schema) [Table.feedGuidChanges]
        (setGuidChangeDecision row.sourceUrl decision reason env.now) := Writes.update (by decide)
    apply (Logs.of_writes hset (by decide) (by decide)).bind
    intro _
    exact (hsign _ rfl).bind fun _ => .pure _

section Relocate

variable {d : Db}
  (hresolution : ∀ guid decision reason row eventId s signed t,
    signResolution env guid decision reason row eventId s = (.ok signed, t) → R s t)

theorem handlePatchFeed_steps {guid : String} {feedUrl reason : Option String}
    (hrelocate : ∀ newUrl reason eventId, feedUrl = some newUrl → ∀ outcome e,
      relocateFeed env guid newUrl reason eventId d = (.ok outcome, e) → R d e) :
    R d (handlePatchFeed env guid feedUrl reason d).2 := by
  unfold handlePatchFeed
  rw [read_bind_run]
  cases getFeedByGuid d guid with
  | none => exact refl_of R d
  | some _ =>
    cases feedUrl with
    | none => exact refl_of R d
    | some newUrl =>
      simp only
      split
      · exact refl_of R d
      · apply Steps.after
        · exact Steps.mapError_at (Steps.transaction_ok_at (hrelocate newUrl _ _ rfl))
        · intro outcome t _
          cases outcome with
          | conflict => exact refl_of R t
          | relocated signed => exact (signedRowsToEvents_steps : Steps R _) t

include hresolution

theorem resolveCopy_steps {guid url decision reason : String}
    (hrelocate : decision = "relocate" → ∀ newUrl eventId outcome e,
      relocateFeed env guid newUrl reason eventId d = (.ok outcome, e) → R d e) :
    R d (resolveCopy env guid url decision reason d).2 := by
  apply Steps.transaction_ok_at
  intro answer e hrun
  rw [read_bind_run] at hrun
  split at hrun
  · cases hrun
    exact refl_of R d
  · rw [read_bind_run] at hrun
    cases hcopy : getFeedCopy d guid url with
    | none =>
      rw [hcopy] at hrun
      cases hrun
      exact refl_of R d
    | some row =>
      rw [hcopy] at hrun
      simp only at hrun
      split at hrun
      · rename_i hdecision
        obtain ⟨outcome, d₁, hmove, hrest⟩ := bind_ok hrun
        have hfirst := hrelocate (by simpa using hdecision) row.url _ outcome d₁ hmove
        cases outcome with
        | conflict =>
          cases hrest
          exact hfirst
        | relocated relocation =>
          obtain ⟨resolution, d₂, hsign, hpure⟩ := bind_ok hrest
          cases hpure
          exact trans_of R hfirst (hresolution _ _ _ _ _ _ _ _ hsign)
      · obtain ⟨resolution, d₂, hsign, hpure⟩ := bind_ok hrun
        cases hpure
        exact hresolution _ _ _ _ _ _ _ _ hsign

theorem handleResolveCopy_steps {guid url decision reason : String}
    (hrelocate : decision = "relocate" → ∀ newUrl reason eventId outcome e,
      relocateFeed env guid newUrl reason eventId d = (.ok outcome, e) → R d e) :
    R d (handleResolveCopy env guid url decision reason d).2 := by
  unfold handleResolveCopy
  split
  · exact refl_of R d
  · split
    · exact refl_of R d
    · apply Steps.after
      · exact Steps.mapError_at (resolveCopy_steps hresolution fun h newUrl eventId =>
          hrelocate h newUrl _ eventId)
      · intro outcome t _
        cases outcome with
        | notFound => exact refl_of R t
        | conflict => exact refl_of R t
        | resolved signedRows => exact (signedRowsToEvents_steps : Steps R _) t

end Relocate

/-- A relation holds along a request of the operator when it holds along a new block, the
removal of one, the resolution of a copy, the removal of a track, a new enclosure URL, a
retirement, a relocation, the release of a hold and a decision about a GUID change. -/
theorem AdminRequest.steps_parts {d : Db} (request : AdminRequest)
    (hcreate : ∀ kind value reason, Steps R (Stophammer.createBlock env kind value reason))
    (hunblock : ∀ blockId, Steps R (removeBlock env blockId))
    (hresolution : ∀ guid decision reason row eventId s signed t,
      signResolution env guid decision reason row eventId s = (.ok signed, t) → R s t)
    (hremove : ∀ guid trackGuid, request = .removeTrack guid trackGuid →
      R d (handleRemoveTrack env guid trackGuid d).2)
    (hpatch : request.Patches → ∀ feedGuid trackGuid newUrl,
      R d (patchTrackRow env feedGuid trackGuid newUrl d).2)
    (hretire : ∀ guid block feed blocks, request = .retireFeed guid block →
      getFeedByGuid d guid = some feed →
        R d (deleteFeedWithEvent env.signer guid
          (retireRow guid "admin retired via API" env.now [] (env.uuid 0)) blocks d).2)
    (hrelocate : ∀ guid newUrl reason eventId, request.Relocates guid → ∀ outcome e,
      relocateFeed env guid newUrl reason eventId d = (.ok outcome, e) → R d e)
    (hrelease : ∀ guid, R d (releaseRetiredSourceHold guid env.now d).2)
    (hdecide : ∀ guid decision reason, request = .decideGuidChange guid decision reason →
      R d (decideGuidChangeRow env guid decision (trim reason) d).2) :
    R d (request.handle env d).2 := by
  cases request with
  | retireFeed guid block =>
    change R d (handleRetireFeed env guid block d).2
    unfold handleRetireFeed
    rw [read_bind_run]
    cases hfeed : getFeedByGuid d guid with
    | none => exact refl_of R d
    | some feed => exact Steps.mapError_at (hretire guid block feed _ rfl hfeed)
  | removeTrack guid trackGuid => exact hremove guid trackGuid rfl
  | createBlock kind => exact handleCreateBlock_steps (hcreate kind) d
  | deleteBlock blockId => exact handleDeleteBlock_steps (hunblock blockId) d
  | deleteRetiredSourceHold guid =>
    change R d (handleDeleteRetiredSourceHold env guid d).2
    unfold handleDeleteRetiredSourceHold
    rw [read_bind_run]
    cases getRetiredSourceHold d guid with
    | none => exact refl_of R d
    | some _ =>
      apply Steps.after (Steps.mapError_at (hrelease guid))
      intro released t _
      exact (Steps.ite (.pure _) (.fail _) : Steps R _) t
  | patchFeed guid feedUrl reason =>
    apply handlePatchFeed_steps
    rintro newUrl _ eventId rfl
    exact hrelocate guid newUrl _ eventId rfl
  | resolveCopy guid url decision reason =>
    apply handleResolveCopy_steps hresolution
    intro hdecision newUrl _ eventId
    exact hrelocate guid newUrl _ eventId ⟨hdecision, rfl⟩
  | decideGuidChange guid decision reason =>
    change R d (handleGuidChangeDecision env guid decision reason d).2
    unfold handleGuidChangeDecision
    split
    · exact refl_of R d
    · split
      · exact refl_of R d
      · apply Steps.after (Steps.mapError_at (hdecide guid decision reason rfl))
        intro signed t _
        cases signed with
        | none => exact refl_of R t
        | some signed => exact (signedRowsToEvents_steps : Steps R _) t
  | patchTrack guid enclosureUrl =>
    apply handlePatchTrack_steps
    rintro feedGuid newUrl rfl
    exact hpatch trivial feedGuid guid newUrl
  | patchFeedTrack feedGuid trackGuid enclosureUrl =>
    apply handlePatchFeedTrack_steps
    rintro feedGuid newUrl rfl
    exact hpatch trivial feedGuid trackGuid newUrl

theorem AdminRequest.steps_each {d : Db} (request : AdminRequest)
    (hlocal : ∀ s t, Logs blockTables operatorTypes s t → R s t)
    (hremove : ∀ guid trackGuid, request = .removeTrack guid trackGuid →
      R d (handleRemoveTrack env guid trackGuid d).2)
    (hpatch : request.Patches → ∀ feedGuid trackGuid newUrl,
      R d (patchTrackRow env feedGuid trackGuid newUrl d).2)
    (hretire : ∀ guid block row blocks, request = .retireFeed guid block →
      EventRow.eventType row = .feedRetired →
        R d (deleteFeedWithEvent env.signer guid row blocks d).2)
    (hrelocate : ∀ guid newUrl reason eventId, request.Relocates guid → ∀ outcome e,
      relocateFeed env guid newUrl reason eventId d = (.ok outcome, e) → R d e)
    (hrelease : ∀ guid, R d (releaseRetiredSourceHold guid env.now d).2)
    (hdecide : ∀ guid decision reason, request = .decideGuidChange guid decision reason →
      R d (decideGuidChangeRow env guid decision (trim reason) d).2) :
    R d (request.handle env d).2 :=
  request.steps_parts (fun _ _ _ => createBlock_logs.mono hlocal)
    (fun _ => removeBlock_logs.mono hlocal)
    (fun _ _ _ _ _ _ _ _ h => hlocal _ _ (signResolution_logs.run h)) hremove hpatch
    (fun guid block _ blocks hrequest _ => hretire guid block _ blocks hrequest rfl) hrelocate
    hrelease hdecide

theorem AdminRequest.steps {d : Db} (request : AdminRequest)
    (hlocal : ∀ s t, Logs operatorTables operatorTypes s t → R s t)
    (hretire : ∀ guid block row blocks, request = .retireFeed guid block →
      EventRow.eventType row = .feedRetired →
        R d (deleteFeedWithEvent env.signer guid row blocks d).2)
    (hrelocate : ∀ guid newUrl reason eventId, request.Relocates guid →
      R d (relocateFeed env guid newUrl reason eventId d).2)
    (hrelease : ∀ guid, R d (releaseRetiredSourceHold guid env.now d).2)
    (hdecide : ∀ guid decision reason, request = .decideGuidChange guid decision reason →
      R d (decideGuidChangeRow env guid decision (trim reason) d).2) :
    R d (request.handle env d).2 :=
  request.steps_each (fun s t h => hlocal s t (h.mono blockTables_subset fun _ => id))
    (fun _ _ _ => hlocal _ _ (handleRemoveTrack_logs d))
    (fun _ _ _ _ => hlocal _ _ (patchTrackRow_logs d)) hretire
    (fun guid newUrl reason eventId hrequest _ _ hrun => by
      have hstep := hrelocate guid newUrl reason eventId hrequest
      rw [hrun] at hstep
      exact hstep) hrelease hdecide

def relocationTables : List Table := [.feeds, .feedLeftUrls, .feedMoveState, .events]

omit [IsPreorder Db R] in
theorem relocateFeed_logs {feedGuid newUrl reason eventId : String} :
    Steps (Logs relocationTables [.feedUpserted])
      (relocateFeed env feedGuid newUrl reason eventId) := by
  apply Steps.read_then
  intro conflict
  refine Steps.ite (.pure _) (Steps.read_then fun stored => ?_)
  cases stored with
  | none => exact .fail _
  | some old =>
    have hfeeds : ∀ {f : FeedRow → FeedRow} {p : FeedRow → Bool},
        Steps (Logs relocationTables [.feedUpserted]) (update (S := schema) .feeds p f) :=
      .of_writes (show Writes (S := schema) [Table.feeds] _ from Writes.update (by decide))
        (by decide) (by decide)
    have hstate : Steps (Logs relocationTables [.feedUpserted])
        (writeRelocationState feedGuid old.feedUrl newUrl) :=
      .of_writes writeRelocationState_writes (by decide) (by decide)
    apply hfeeds.bind
    intro _
    apply hfeeds.bind
    intro _
    apply hfeeds.bind
    intro _
    apply hstate.bind
    intro _
    apply Steps.read_then
    intro relocated
    cases relocated with
    | none => exact .fail _
    | some feed =>
      refine Steps.bind ?_ fun _ => .pure _
      exact signEventRow_logs (by decide) List.mem_cons_self

omit [IsPreorder Db R] in
theorem seedBlocks_logs {entries : List (FeedBlockKind × String)} :
    Steps (Logs blockTables operatorTypes) (seedBlocks env entries) := by
  have hentries : ∀ index, Steps (Logs blockTables operatorTypes)
      (seedEntries env index entries) := by
    induction entries with
    | nil => exact fun _ => .pure _
    | cons entry entries ih =>
      intro index
      apply (Logs.of_writes insertFeedBlock_writes (by decide) (by decide)).bind
      intro changed
      refine Steps.ite ?_ (ih _)
      apply (signEventRow_logs (by decide) (show EventType.feedBlocked ∈ operatorTypes by
        decide)).bind
      intro _
      exact (ih _).bind fun _ => .pure _
  exact (hentries 0).transaction

theorem fillRetiredSourceHolds_steps
    (hinsert : ∀ hold : RetiredSourceHold,
      Steps R (insertOrIgnore (S := schema) .retiredSourceHolds hold)) :
    Steps R fillRetiredSourceHolds := by
  have hreason : ∀ payloadJson, Steps R (retiredReason payloadJson) := by
    intro payloadJson
    unfold retiredReason
    split
    · exact .pure _
    · exact .fail _
  have hurl : ∀ payloadJson, Steps R (upsertedFeedUrl payloadJson) := by
    intro payloadJson
    unfold upsertedFeedUrl
    split
    · exact .pure _
    · exact .fail _
  have hfill : ∀ e, Steps R (fillHold e) := by
    intro e
    apply (hreason _).bind
    intro reason
    refine Steps.ite (.pure _) (Steps.read_then fun present => ?_)
    refine Steps.ite (.pure _) (Steps.read_then fun upserted => ?_)
    cases upserted with
    | none => exact .pure _
    | some upserted => exact (hurl _).bind fun _ => hinsert _
  have hfills : ∀ events, Steps R (fillHolds events) := by
    intro events
    induction events with
    | nil => exact .pure _
    | cons e events ih => exact (hfill e).bind fun _ => ih.bind fun _ => .pure _
  exact (Steps.read_then fun _ => hfills _).transaction

end Rules

end

end Stophammer
