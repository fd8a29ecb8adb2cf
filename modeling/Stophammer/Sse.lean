import Mathlib.Data.List.Nodup
import Stophammer.Event

/-!
# Frames for the event stream of a feed

What a node publishes after a commit: one frame for each event and the frames of
the live items that started or ended.
-/

namespace Stophammer

def EventType.str : EventType → String
  | .feedUpserted => "feed_upserted"
  | .feedRetired => "feed_retired"
  | .trackUpserted => "track_upserted"
  | .trackRemoved => "track_removed"
  | .artistUpserted => "artist_upserted"
  | .routesReplaced => "routes_replaced"
  | .artistCreditCreated => "artist_credit_created"
  | .feedRoutesReplaced => "feed_routes_replaced"
  | .feedRemoteItemsReplaced => "feed_remote_items_replaced"
  | .trackRemoteItemsReplaced => "track_remote_items_replaced"
  | .feedListValueReplaced => "feed_list_value_replaced"
  | .liveEventsReplaced => "live_events_replaced"
  | .sourceContributorClaimsReplaced => "source_contributor_claims_replaced"
  | .sourceEntityIdsReplaced => "source_entity_ids_replaced"
  | .sourceEntityLinksReplaced => "source_entity_links_replaced"
  | .sourceReleaseClaimsReplaced => "source_release_claims_replaced"
  | .sourceItemEnclosuresReplaced => "source_item_enclosures_replaced"
  | .sourceItemTranscriptsReplaced => "source_item_transcripts_replaced"
  | .sourcePlatformClaimsReplaced => "source_platform_claims_replaced"
  | .feedUrlObserved => "feed_url_observed"
  | .feedBlocked => "feed_blocked"
  | .feedUnblocked => "feed_unblocked"
  | .feedCopyObserved => "feed_copy_observed"
  | .feedCopyResolved => "feed_copy_resolved"
  | .feedGuidChangeObserved => "feed_guid_change_observed"
  | .feedGuidChangeDecided => "feed_guid_change_decided"
  | .feedGuidSuperseded => "feed_guid_superseded"

/-- The JSON value of a frame. -/
inductive SsePayload where
  | event (typed : TypedPayload)
  | live (feedGuid liveItemGuid title : String) (contentLink : Option String) (status : String)
      (scheduledStart scheduledEnd : Option Int)
deriving DecidableEq

structure SseFrame where
  eventType : String
  subjectGuid : String
  payload : SsePayload
  seq : Int
deriving DecidableEq

def EventPayload.channel : EventPayload → Option String
  | .feedUpserted p => some p.feed.feedGuid
  | .trackUpserted p => some p.track.feedGuid
  | .feedRetired p => some p.feedGuid
  | .trackRemoved p => some p.feedGuid
  | .routesReplaced p => p.feedGuid
  | .feedRoutesReplaced p => some p.feedGuid
  | .feedRemoteItemsReplaced p => some p.feedGuid
  | .trackRemoteItemsReplaced p => p.feedGuid
  | .feedListValueReplaced p => some p.feedGuid
  | .liveEventsReplaced p => some p.feedGuid
  | .sourceContributorClaimsReplaced p => some p.feedGuid
  | .sourceEntityIdsReplaced p => some p.feedGuid
  | .sourceEntityLinksReplaced p => some p.feedGuid
  | .sourceReleaseClaimsReplaced p => some p.feedGuid
  | .sourceItemEnclosuresReplaced p => some p.feedGuid
  | .sourceItemTranscriptsReplaced p => some p.feedGuid
  | .sourcePlatformClaimsReplaced p => some p.feedGuid
  | .feedUrlObserved p => some p.feedGuid
  | .feedCopyObserved p => some p.feedGuid
  | .feedCopyResolved p => some p.feedGuid
  | .artistUpserted _ | .artistCreditCreated _ | .feedBlocked _ | .feedUnblocked _
  | .feedGuidChangeObserved _ | .feedGuidChangeDecided _ | .feedGuidSuperseded _ => none

def feedGuidForEvent (ev : Event) : Option String := ev.payload.channel

def eventFrame (ev : Event) : SseFrame where
  eventType := ev.eventType.str
  subjectGuid := ev.subjectGuid
  payload := .event ev.typed
  seq := ev.seq

def eventFrames (events : List Event) : List (String × SseFrame) :=
  events.filterMap fun ev => (feedGuidForEvent ev).map fun feedGuid => (feedGuid, eventFrame ev)

def liveSsePayload (feedGuid : String) (liveEvent : LiveEvent) (status : String) : SsePayload :=
  .live feedGuid liveEvent.liveItemGuid liveEvent.title liveEvent.contentLink status
    liveEvent.scheduledStart liveEvent.scheduledEnd

def liveFrame (eventType feedGuid : String) (liveEvent : LiveEvent) (status : String)
    (seq : Int) : String × SseFrame :=
  (feedGuid,
    { eventType := eventType
      subjectGuid := liveEvent.liveItemGuid
      payload := liveSsePayload feedGuid liveEvent status
      seq := seq })

/-- The last item of a GUID, as a map built in list order holds it. -/
def liveEventByGuid (liveEvents : List LiveEvent) (liveItemGuid : String) : Option LiveEvent :=
  liveEvents.reverse.find? fun e => e.liveItemGuid == liveItemGuid

/-- The seq of the last snapshot event of the feed, as its typed payload names it. -/
def liveSnapshotSeq (feedGuid : String) (events : List Event) : Option Int :=
  (events.filterMap fun ev =>
    match ev.payload with
    | .liveEventsReplaced p => if p.feedGuid == feedGuid then some ev.seq else none
    | _ => none).max?

def startedFrames (feedGuid : String) (old new : List LiveEvent) (seq : Int) :
    List (String × SseFrame) :=
  (new.filter fun e => e.status == "live" &&
    !(liveEventByGuid old e.liveItemGuid).any (·.status == "live")).map fun e =>
      liveFrame "live_event_started" feedGuid e "live" seq

def endedFrames (feedGuid : String) (old new : List LiveEvent) (seq : Int) :
    List (String × SseFrame) :=
  (old.filter fun e => (e.status == "pending" || e.status == "live") &&
    (liveEventByGuid new e.liveItemGuid).all (·.status == "ended")).map fun e =>
      liveFrame "live_event_ended" feedGuid e "ended" seq

def buildLiveSseFramesForFeed (feedGuid : String) (old new : List LiveEvent)
    (events : List Event) : List (String × SseFrame) :=
  match liveSnapshotSeq feedGuid events with
  | some seq => startedFrames feedGuid old new seq ++ endedFrames feedGuid old new seq
  | none => []

def sseRingBufferSize : Nat := 100

def maxSseRegistryFeeds : Nat := 10000

/-- The feeds with a channel, and the last frames of a feed for a subscriber that comes back. -/
structure SseRegistry where
  senders : List String
  ringBuffers : List (String × List SseFrame)
  sendersNodup : senders.Nodup
  ringBuffersNodup : (ringBuffers.map Prod.fst).Nodup
deriving DecidableEq

/-- A frame for the feed finds a channel, or room for a new one. -/
def canSend (senders : List String) (feedGuid : String) : Bool :=
  senders.contains feedGuid || senders.length < maxSseRegistryFeeds

def addSender (senders : List String) (feedGuid : String) : List String :=
  if senders.contains feedGuid then senders else senders ++ [feedGuid]

theorem addSender_nodup {senders : List String} (h : senders.Nodup) (feedGuid : String) :
    (addSender senders feedGuid).Nodup := by
  rw [addSender]
  split
  · exact h
  · rename_i hnew
    rw [List.contains_iff_mem] at hnew
    exact List.concat_eq_append ▸ List.Nodup.concat hnew h

theorem canSend_of_addSender {senders : List String} {opened feedGuid : String}
    (hopened : canSend senders opened = true)
    (h : canSend (addSender senders opened) feedGuid = true) :
    canSend senders feedGuid = true := by
  rw [addSender] at h
  split at h
  · exact h
  · rw [canSend, Bool.or_eq_true, List.contains_iff_mem, List.mem_append, List.mem_singleton,
      decide_eq_true_eq, List.length_append] at h
    rcases h with (hmem | rfl) | hroom
    · rw [canSend, List.contains_iff_mem.mpr hmem, Bool.true_or]
    · exact hopened
    · rw [canSend, decide_eq_true (Nat.lt_of_succ_lt hroom), Bool.or_true]

/-- A full buffer loses its oldest frame. -/
def pushFrame (buffer : List SseFrame) (frame : SseFrame) : List SseFrame :=
  (if sseRingBufferSize ≤ buffer.length then buffer.drop 1 else buffer) ++ [frame]

def appendFrame (ringBuffers : List (String × List SseFrame)) (feedGuid : String)
    (frame : SseFrame) : List (String × List SseFrame) :=
  if feedGuid ∈ ringBuffers.map Prod.fst then
    ringBuffers.map fun b => if b.1 == feedGuid then (b.1, pushFrame b.2 frame) else b
  else if maxSseRegistryFeeds ≤ ringBuffers.length then ringBuffers
  else ringBuffers ++ [(feedGuid, [frame])]

theorem appendFrame_nodup {ringBuffers : List (String × List SseFrame)}
    (h : (ringBuffers.map Prod.fst).Nodup) (feedGuid : String) (frame : SseFrame) :
    ((appendFrame ringBuffers feedGuid frame).map Prod.fst).Nodup := by
  rw [appendFrame]
  split
  · have hkeys : (Prod.fst ∘ fun b : String × List SseFrame =>
        if b.1 == feedGuid then (b.1, pushFrame b.2 frame) else b) = Prod.fst := by
      funext b
      simp only [Function.comp_apply]
      split <;> rfl
    rwa [List.map_map, hkeys]
  · rename_i hnew
    split
    · exact h
    · rw [List.map_append]
      exact List.concat_eq_append ▸ List.Nodup.concat hnew h

namespace SseRegistry

def empty : SseRegistry where
  senders := []
  ringBuffers := []
  sendersNodup := List.nodup_nil
  ringBuffersNodup := List.nodup_nil

/-- A full registry drops the frame of a feed that has no channel. -/
def publish (registry : SseRegistry) (feedGuid : String) (frame : SseFrame) : SseRegistry :=
  if canSend registry.senders feedGuid then
    { senders := addSender registry.senders feedGuid
      ringBuffers := appendFrame registry.ringBuffers feedGuid frame
      sendersNodup := addSender_nodup registry.sendersNodup feedGuid
      ringBuffersNodup := appendFrame_nodup registry.ringBuffersNodup feedGuid frame }
  else registry

theorem publish_dropped {registry : SseRegistry} {feedGuid : String}
    (h : canSend registry.senders feedGuid = false) (frame : SseFrame) :
    registry.publish feedGuid frame = registry := by
  rw [publish, h]
  rfl

theorem publish_senders {registry : SseRegistry} {feedGuid : String}
    (h : canSend registry.senders feedGuid = true) (frame : SseFrame) :
    (registry.publish feedGuid frame).senders = addSender registry.senders feedGuid := by
  rw [publish, if_pos h]

theorem canSend_of_publish {registry : SseRegistry} {published feedGuid : String}
    {frame : SseFrame} (h : canSend (registry.publish published frame).senders feedGuid = true) :
    canSend registry.senders feedGuid = true := by
  cases hroom : canSend registry.senders published with
  | false => rwa [publish_dropped hroom] at h
  | true =>
    rw [publish_senders hroom] at h
    exact canSend_of_addSender hroom h

end SseRegistry

/-- The frames that channels took, and the registry after them. -/
def publishSseFrames : SseRegistry → List (String × SseFrame) →
    List (String × SseFrame) × SseRegistry
  | registry, [] => ([], registry)
  | registry, f :: frames =>
    let (sent, after) := publishSseFrames (registry.publish f.1 f.2) frames
    (if canSend registry.senders f.1 then f :: sent else sent, after)

theorem publishSseFrames_sent {registry : SseRegistry} {f : String × SseFrame}
    (h : canSend registry.senders f.1 = true) (frames : List (String × SseFrame)) :
    publishSseFrames registry (f :: frames) =
      (f :: (publishSseFrames (registry.publish f.1 f.2) frames).1,
        (publishSseFrames (registry.publish f.1 f.2) frames).2) := by
  rw [publishSseFrames, h]
  rfl

theorem publishSseFrames_dropped {registry : SseRegistry} {f : String × SseFrame}
    (h : canSend registry.senders f.1 = false) (frames : List (String × SseFrame)) :
    publishSseFrames registry (f :: frames) = publishSseFrames registry frames := by
  rw [publishSseFrames, h, SseRegistry.publish_dropped h]
  rfl

theorem publishSseFrames_append (registry : SseRegistry) (xs ys : List (String × SseFrame)) :
    publishSseFrames registry (xs ++ ys) =
      ((publishSseFrames registry xs).1 ++
          (publishSseFrames (publishSseFrames registry xs).2 ys).1,
        (publishSseFrames (publishSseFrames registry xs).2 ys).2) := by
  induction xs generalizing registry with
  | nil => rfl
  | cons f xs ih =>
    cases h : canSend registry.senders f.1 with
    | true =>
      rw [List.cons_append, publishSseFrames_sent h, publishSseFrames_sent h, ih]
      rfl
    | false => rw [List.cons_append, publishSseFrames_dropped h, publishSseFrames_dropped h, ih]

theorem mem_of_mem_publishSseFrames {registry : SseRegistry} {frames : List (String × SseFrame)}
    {f : String × SseFrame} (hf : f ∈ (publishSseFrames registry frames).1) : f ∈ frames := by
  induction frames generalizing registry with
  | nil => exact hf
  | cons x frames ih =>
    cases h : canSend registry.senders x.1 with
    | true =>
      rw [publishSseFrames_sent h] at hf
      rcases List.mem_cons.mp hf with rfl | hf
      · exact List.mem_cons_self
      · exact List.mem_cons_of_mem _ (ih hf)
    | false =>
      rw [publishSseFrames_dropped h] at hf
      exact List.mem_cons_of_mem _ (ih hf)

theorem canSend_of_publishSseFrames {registry : SseRegistry}
    {frames : List (String × SseFrame)} {feedGuid : String}
    (h : canSend (publishSseFrames registry frames).2.senders feedGuid = true) :
    canSend registry.senders feedGuid = true := by
  induction frames generalizing registry with
  | nil => exact h
  | cons f frames ih => exact SseRegistry.canSend_of_publish (ih h)

theorem publishSseFrames_full {registry : SseRegistry} {feedGuid : String}
    (h : canSend registry.senders feedGuid = false) {frames : List (String × SseFrame)}
    (hframes : ∀ f ∈ frames, f.1 = feedGuid) :
    publishSseFrames registry frames = ([], registry) := by
  induction frames with
  | nil => rfl
  | cons f frames ih =>
    rw [publishSseFrames_dropped (by rw [hframes f (by simp), h])]
    exact ih fun x hx => hframes x (by simp [hx])

end Stophammer
