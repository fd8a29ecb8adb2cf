import Mathlib
import Stophammer.Ingest.Verify
import Stophammer.Text.Split

/-!
# The built-in verifiers

The quality rules that a primary builds its chain from, and the names that a configuration
gives them.
-/

namespace Stophammer

open IngestPaymentRoute

/-- A publisher feed without a music child is an empty shell. -/
def mediumMusicVerifier : Verifier where
  name := "medium_music"
  verify ctx :=
    match ctx.request.feedData.bind IngestFeedData.rawMedium with
    | none => .fail "podcast:medium absent — must be 'music', 'publisher', or 'musicL'"
    | some rawMedium =>
      if isMusic (some rawMedium) then .pass
      else if isPublisher (some rawMedium) then
        if ctx.request.feedData.any fun f => f.remoteItems.any fun item => isMusic item.medium then
          .pass
        else .fail "publisher feed has no remoteItem with medium='music'"
      else if isMusicl (some rawMedium) then .pass
      else .fail ("medium is '" ++ rawMedium ++ "', expected 'music', 'publisher', or 'musicL'")

/-- GUIDs that a hosting platform gives to thousands of feeds. -/
def badGuids : List String := ["c9c7bad3-4712-514e-9ebd-d1e208fa1b76"]

/-- `isUuid` tells the texts that parse as a UUID. -/
def feedGuidVerifier (isUuid : String → Bool) : Verifier where
  name := "feed_guid"
  verify ctx :=
    match ctx.request.feedData.map IngestFeedData.feedGuid with
    | none => .pass
    | some guid =>
      if guid ∈ badGuids then .fail ("known bad guid: " ++ guid)
      else if isUuid guid then .pass
      else .fail ("invalid uuid: " ++ guid)

def IngestPaymentRoute.isValid (r : IngestPaymentRoute) : Bool := !r.address.isEmpty && 0 < r.split

/-- The reason when no recipient is valid. -/
def validateRoutes (context : String) (routes : List IngestPaymentRoute) : Option String :=
  if routes.any isValid then none
  else
    some (context ++ " podcast:value block has no valid recipient " ++
      "(all routes have empty address or zero split)")

def trackContext (track : IngestTrackData) : String := "track '" ++ track.trackGuid ++ "'"

/-- The reason of the first track that resolves to no valid route. -/
def validateTracks (feedRoutesValid : Bool) : List IngestTrackData → Option String
  | [] => none
  | track :: tracks =>
    if track.paymentRoutes.isEmpty then
      if feedRoutesValid then validateTracks feedRoutesValid tracks
      else
        some (trackContext track ++ " declares no podcast:value block, and the feed has no " ++
          "feed-level block to fall back to")
    else
      match validateRoutes (trackContext track) track.paymentRoutes with
      | some reason => some reason
      | none => validateTracks feedRoutesValid tracks

/-- The reason of a refusal.  A declared feed block is checked also when each track has its own. -/
def validatePayment (feedData : IngestFeedData) : Option String :=
  if feedData.feedPaymentRoutes.isEmpty then
    if feedData.tracks.isEmpty then
      some ("no feed-level podcast:value block and no tracks — feed does not " ++
        "participate in V4V")
    else validateTracks false feedData.tracks
  else
    match validateRoutes "feed" feedData.feedPaymentRoutes with
    | some reason => some reason
    | none => validateTracks true feedData.tracks

def v4vPaymentVerifier : Verifier where
  name := "v4v_payment"
  verify ctx :=
    match ctx.request.feedData with
    | none => .pass
    | some feedData =>
      if paymentExempt feedData.rawMedium then .pass
      else (validatePayment feedData).elim .pass .fail

def splitSum (routes : List IngestPaymentRoute) : Int :=
  (routes.map IngestPaymentRoute.split).sum.bmod (2 ^ 64)

def paymentRouteSumVerifier : Verifier where
  name := "payment_route_sum"
  verify ctx :=
    match ctx.request.feedData.bind fun feedData => feedData.tracks.find? fun track =>
        !track.paymentRoutes.isEmpty && splitSum track.paymentRoutes != 100 with
    | none => .pass
    | some track =>
      .fail (trackContext track ++ " payment splits sum to " ++
        toString (splitSum track.paymentRoutes) ++ " (expected 100)")

def isVideo (mimeType : String) : Bool := "video/".toList.isPrefixOf mimeType.toList

def videoTrack (feedData : IngestFeedData) : Option (IngestTrackData × String) :=
  feedData.tracks.findSome? fun track =>
    (track.enclosureType.filter isVideo).map fun mimeType => (track, mimeType)

def enclosureTypeVerifier : Verifier where
  name := "enclosure_type"
  verify ctx :=
    match ctx.request.feedData.bind videoTrack with
    | none => .pass
    | some (track, mimeType) =>
      .warn (trackContext track ++ " has video enclosure type '" ++ mimeType ++ "'")

def defaultChainNames : String := "content_hash,medium_music,feed_guid,v4v_payment,enclosure_type"

def chainNames (raw : String) : List String :=
  ((Text.split [','] raw.toList).map fun part => trim (String.ofList part)).filter (!·.isEmpty)

/-- A name that the node knows no longer stands for nothing, and one that it does not know stops
its start.  The crawl token is not a name of the list. -/
def builtInVerifier (isUuid : String → Bool) : String → Option (List Verifier)
  | "feed_blocklist" => some []
  | "content_hash" => some [contentHashVerifier]
  | "medium_music" => some [mediumMusicVerifier]
  | "feed_guid" => some [feedGuidVerifier isUuid]
  | "v4v_payment" => some [v4vPaymentVerifier]
  | "payment_route_sum" => some [paymentRouteSumVerifier]
  | "enclosure_type" => some [enclosureTypeVerifier]
  | _ => none

/-- The chain of a configuration; `none` where the node does not start. -/
def buildChain (isUuid : String → Bool) (names : List String) (crawlToken : String) :
    Option VerifierChain :=
  match names.mapM (builtInVerifier isUuid) with
  | none => none
  | some verifiers =>
    if (trim crawlToken).isEmpty then none
    else some { crawlToken := crawlToken, verifiers := verifiers.flatten }

theorem chainNames_default : chainNames defaultChainNames =
    ["content_hash", "medium_music", "feed_guid", "v4v_payment", "enclosure_type"] := by
  decide +kernel

theorem buildChain_default {isUuid : String → Bool} {crawlToken : String} {chain : VerifierChain}
    (h : buildChain isUuid (chainNames defaultChainNames) crawlToken = some chain) :
    chain.verifiers = [contentHashVerifier, mediumMusicVerifier, feedGuidVerifier isUuid,
      v4vPaymentVerifier, enclosureTypeVerifier] := by
  rw [chainNames_default] at h
  cases htoken : (trim crawlToken).isEmpty with
  | true => simp [buildChain, builtInVerifier, htoken] at h
  | false =>
    simp [buildChain, builtInVerifier, htoken] at h
    rw [← h]

theorem runVerifiers_ok {ctx : IngestContext} {vs : List Verifier} {warnings : List String}
    (h : runVerifiers ctx vs = .ok warnings) {v : Verifier} (hv : v ∈ vs) (message : String) :
    v.verify ctx ≠ .fail message := by
  induction vs generalizing warnings with
  | nil => cases hv
  | cons first vs ih =>
    rw [runVerifiers] at h
    intro hfail
    rcases List.mem_cons.mp hv with rfl | hv
    · rw [hfail] at h
      cases h
    · cases hfirst : first.verify ctx with
      | pass =>
        rw [hfirst] at h
        exact ih h hv hfail
      | warn text =>
        rw [hfirst] at h
        cases hrest : runVerifiers ctx vs with
        | ok rest => exact ih hrest hv hfail
        | error reason =>
          rw [hrest] at h
          cases h
      | fail reason =>
        rw [hfirst] at h
        cases h

/-- The block that pays for a track, when the body has one. -/
def IngestFeedData.routesFor (feedData : IngestFeedData) (track : IngestTrackData) :
    List IngestPaymentRoute :=
  if track.paymentRoutes.isEmpty then feedData.feedPaymentRoutes else track.paymentRoutes

theorem validateRoutes_none {context : String} {routes : List IngestPaymentRoute} :
    validateRoutes context routes = none ↔ routes.any isValid = true := by
  unfold validateRoutes
  split
  · rename_i hvalid
    exact iff_of_true rfl hvalid
  · rename_i hinvalid
    exact iff_of_false (fun h => by cases h) hinvalid

theorem validateTracks_none {feedRoutesValid : Bool} {tracks : List IngestTrackData} :
    validateTracks feedRoutesValid tracks = none ↔ ∀ track ∈ tracks,
      if track.paymentRoutes.isEmpty = true then feedRoutesValid = true
      else track.paymentRoutes.any isValid = true := by
  induction tracks with
  | nil => exact iff_of_true rfl (List.forall_mem_nil _)
  | cons track tracks ih =>
    rw [validateTracks, List.forall_mem_cons, ← ih]
    by_cases hroutes : track.paymentRoutes.isEmpty = true
    · rw [if_pos hroutes, if_pos hroutes]
      cases feedRoutesValid with
      | true => exact (and_iff_right rfl).symm
      | false => exact iff_of_false (fun h => by cases h) fun h => absurd h.1 (by decide)
    · rw [if_neg hroutes, if_neg hroutes, ← @validateRoutes_none (trackContext track)]
      cases hreason : validateRoutes (trackContext track) track.paymentRoutes with
      | none => exact (and_iff_right rfl).symm
      | some reason => exact iff_of_false (fun h => by cases h) fun h => by cases h.1

theorem validatePayment_routes {feedData : IngestFeedData} (h : validatePayment feedData = none)
    {track : IngestTrackData} (htrack : track ∈ feedData.tracks) :
    (feedData.routesFor track).any isValid = true := by
  rw [validatePayment] at h
  rw [IngestFeedData.routesFor]
  by_cases hfeed : feedData.feedPaymentRoutes.isEmpty = true
  · rw [if_pos hfeed] at h
    split at h
    · cases h
    · have hown := validateTracks_none.mp h track htrack
      split at hown
      · cases hown
      · rename_i hroutes
        rw [if_neg hroutes]
        exact hown
  · rw [if_neg hfeed] at h
    split at h
    · cases h
    · rename_i hvalid
      have hown := validateTracks_none.mp h track htrack
      split at hown
      · rename_i hroutes
        rw [if_pos hroutes]
        exact validateRoutes_none.mp hvalid
      · rename_i hroutes
        rw [if_neg hroutes]
        exact hown

end Stophammer
