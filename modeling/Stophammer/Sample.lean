import Stophammer.Platform

/-!
# Sample events

Signed events with the texts, the keys and the signatures that the libraries give for
them: Ed25519 keys from the seeds of 32 bytes 1 and 2.  The sample platform knows these
values, and the values for one feed URL and the UUIDv5 of that URL.
-/

namespace Stophammer

def sampleKey : String := "8a88e3dd7409f195fd52db2d3cba5d72ca6709bf1d94121bf3748801b40f6f5c"

def strangerKey : String := "8139770ea87d175f56a35466c34c7ecccb8d8a91b4ee37a25df60f5b8fc9b394"

def sampleUrl : String := "https://a.example/feed"

/-- The UUIDv5 of the sample URL. -/
def sampleGuid : String := "3908aa83-eed0-5818-a220-bbc8523ee34f"

/-- The URL `u` gave the GUID `g1`. -/
def observedFirst : Event where
  eventId := "e1"
  eventType := .feedUrlObserved
  typed := EventPayload.plain (.feedUrlObserved { url := "u", feedGuid := "g1", observedAt := 1 })
  subjectGuid := "g1"
  signedBy := sampleKey
  signature :=
    "e0c4451895e0f4fe8b45ef55c3d2fdddb62bd0f48d4aac545ed09283bda0d3d005594954db68b8ed0efd" ++
      "a11ca6c4c6f14460cbc6e02993cb6c6051b4fe157602"
  seq := 1
  createdAt := 1
  warnings := []
  payloadJson :=
    "\x7b\"url\":\"u\",\"feed_guid\":\"g1\",\"observed_at\":1\x7d"

/-- Later the URL `u` gave the GUID `g2`. -/
def observedSecond : Event where
  eventId := "e2"
  eventType := .feedUrlObserved
  typed := EventPayload.plain (.feedUrlObserved { url := "u", feedGuid := "g2", observedAt := 2 })
  subjectGuid := "g2"
  signedBy := sampleKey
  signature :=
    "c5af4cf9ffbf09b8822470460e523c97360b9e1fe3c0c5cce72f19f35ff6d76e5b0d555e4445fe2d3a7c" ++
      "d54625050c73a1838d3c94387416f6f2376af1bc2808"
  seq := 2
  createdAt := 2
  warnings := []
  payloadJson :=
    "\x7b\"url\":\"u\",\"feed_guid\":\"g2\",\"observed_at\":2\x7d"

def routesOfUnknownFeed : Event where
  eventId := "e3"
  eventType := .feedRoutesReplaced
  typed := EventPayload.plain <| .feedRoutesReplaced
    { feedGuid := "f1"
      routes :=
        [{ feedGuid := "f1"
           recipientName := none
           routeType := .node
           address := "a1"
           customKey := none
           customValue := none
           split := 100
           fee := false }] }
  subjectGuid := "f1"
  signedBy := sampleKey
  signature :=
    "fb1b05b23ffc2e9c6925680f64283e8027240727586f0f75df1a0952e0a32d032482a8b9063faad2135d" ++
      "0fafd4569f408e44ad193b2642f9d01fb71fdc5aae0f"
  seq := 1
  createdAt := 1
  warnings := []
  payloadJson :=
    "\x7b\"feed_guid\":\"f1\",\"routes\":[\x7b\"id\":null,\"feed_guid\":\"f1\",\"recipien" ++
      "t_name\":null,\"route_type\":\"node\",\"address\":\"a1\",\"custom_key\":null,\"custo" ++
      "m_value\":null,\"split\":100,\"fee\":false\x7d]\x7d"

/-- An event with a valid signature of another key. -/
def strangerObserved : Event where
  eventId := "e4"
  eventType := .feedUrlObserved
  typed := EventPayload.plain (.feedUrlObserved { url := "u", feedGuid := "g3", observedAt := 3 })
  subjectGuid := "g3"
  signedBy := strangerKey
  signature :=
    "4b32afb759bc08a2c866f9c06a799a30d60db153933f7f843b3a1c56468a19850ad07beb308d1ecbe2ac" ++
      "6811dd45f850363b2bfe56f2fb20113fabecb990b30d"
  seq := 1
  createdAt := 3
  warnings := []
  payloadJson :=
    "\x7b\"url\":\"u\",\"feed_guid\":\"g3\",\"observed_at\":3\x7d"

/-- The track `t1` leaves the feed `f1`. -/
def sampleTrackRemoved : Event where
  eventId := "e5"
  eventType := .trackRemoved
  typed := EventPayload.plain (.trackRemoved { trackGuid := "t1", feedGuid := "f1" })
  subjectGuid := "t1"
  signedBy := sampleKey
  signature :=
    "9698a2755cc228439ebd552549d04c54362cd3cdf9234dd025ee3a61158ff90e0f9627057ccac5392778" ++
      "b392cc6f5fa24b4a7aa0de7cecbc659f6b7ac2c0720e"
  seq := 1
  createdAt := 5
  warnings := []
  payloadJson :=
    "\x7b\"track_guid\":\"t1\",\"feed_guid\":\"f1\"\x7d"

/-- The feed `f1` leaves for a new GUID. -/
def sampleFeedRetired : Event where
  eventId := "e6"
  eventType := .feedRetired
  typed := EventPayload.plain (.feedRetired { feedGuid := "f1", reason := some "guid_superseded" })
  subjectGuid := "f1"
  signedBy := sampleKey
  signature :=
    "972d0d188b1b0653ab9dc1bd7e9c6a220a8926db65fd4b740846b8f36e270e7b38773f1a460cf4b219eb" ++
      "6b94098b9edaa74a7993b48397e78b3799ff33db200b"
  seq := 1
  createdAt := 5
  warnings := []
  payloadJson :=
    "\x7b\"feed_guid\":\"f1\",\"reason\":\"guid_superseded\"\x7d"

/-- The new GUID of the feed `f1`. -/
def sampleSuperseded : Event where
  eventId := "e7"
  eventType := .feedGuidSuperseded
  typed := EventPayload.plain <| .feedGuidSuperseded
    { oldGuid := "f1", newGuid := sampleGuid, sourceUrl := sampleUrl }
  subjectGuid := "f1"
  signedBy := sampleKey
  signature :=
    "acf9bfcea48a05bd00ededa1d8ef9829d96b24e86baa6c82fae21211d0db0d2f9fc54b83a9fe38048884" ++
      "1ca52e82c9f623ec5dcf4383ed9edd84d8833de28906"
  seq := 2
  createdAt := 5
  warnings := []
  payloadJson :=
    "\x7b\"old_guid\":\"f1\",\"new_guid\":\"3908aa83-eed0-5818-a220-bbc8523ee34f\",\"sour" ++
      "ce_url\":\"https://a.example/feed\"\x7d"

/-- A signed text that is no observation of a URL. -/
def undecodedObserved : Event where
  eventId := "e8"
  eventType := .feedUrlObserved
  typed := EventPayload.plain (.feedUrlObserved { url := "u", feedGuid := "g2", observedAt := 2 })
  subjectGuid := "g2"
  signedBy := sampleKey
  signature :=
    "a5dda094d290ab9fa993c6044849f500c339cdf1dde6b31722a8bad351398e1f641298d0daae86ef3ff3" ++
      "41ed0cd1a334a78727286c52f9fc0b6b0984dfddab08"
  seq := 2
  createdAt := 2
  warnings := []
  payloadJson :=
    "\x7b\x7d"

/-- Routes of a track with a text that decodes inside the tagged object and is no JSON alone. -/
def malformedRoutes : Event where
  eventId := "e9"
  eventType := .routesReplaced
  typed := EventPayload.plain (.routesReplaced { trackGuid := "t", feedGuid := none, routes := [] })
  subjectGuid := "t"
  signedBy := sampleKey
  signature :=
    "9e01606d3dfcebfe60be3039f6f53f9d5e7dc1981164a2e86793adf01728b72245fbcf71e17221636097" ++
      "14b2c6de859ad64338a7134f049911fd1f501f027a08"
  seq := 1
  createdAt := 1
  warnings := []
  payloadJson :=
    "\x7b\"track_guid\":\"t\",\"routes\":[]\x7d,\"x\":1"

def sampleEvents : List Event :=
  [observedFirst, observedSecond, routesOfUnknownFeed, strangerObserved, sampleTrackRemoved,
    sampleFeedRetired, sampleSuperseded]

def sampleOf (payload : EventPayload) : Option Event :=
  sampleEvents.find? fun ev => ev.payload == payload

def sampleText (eventType : EventType) (text : String) : Option Event :=
  (malformedRoutes :: sampleEvents).find? fun ev =>
    ev.eventType == eventType && ev.payloadJson == text

def signedSample (key : String) (payload : EventSigningPayload) : Option Event :=
  (undecodedObserved :: malformedRoutes :: sampleEvents).find? fun ev =>
    ev.signedBy == key && ev.signingPayload == payload

/-- The libraries on the values of the sample events, with one text and one signature
for all other values. -/
@[reducible] def samplePlatform : Platform where
  encodePayload payload := ((sampleOf payload).map Event.payloadJson).getD "null"
  decodeTyped eventType text :=
    if text == "null" then some (EventPayload.plain (.feedUnblocked { blockId := "" }))
    else (sampleText eventType text).map Event.typed
  jsonValid text := text != malformedRoutes.payloadJson
  reparse x := x
  verifySignature key payload signature :=
    ((signedSample key payload).map Event.signature).getD "00" == signature
  sha256Hex
    | .text "t" => "e3b98a4da31a127d4bde6e43033f66ba274cab0eb7eb1c70ec41402bf6273dd8"
    | _ => ""
  uuidV5 name := if name == "a.example/feed" then sampleGuid else ""
  urlHost url := if url == sampleUrl then some "a.example" else none
  urlScheme url := if url == sampleUrl then some "https" else none
  toLowercase text := text
  rowidFor entityType entityId :=
    match entityType, entityId == "f1" with
    | "track", _ => 5837933187240734241
    | "publisher", true => 2801783614821081770
    | "publisher", false => 467713157229424211
    | _, true => 5034871259117766305
    | _, false => 3798415453233261215
  scanRank _ := 0

def sampleSigner : NodeSigner where
  pubkeyHex := sampleKey
  sign payload := ((signedSample sampleKey payload).map Event.signature).getD "00"

end Stophammer
