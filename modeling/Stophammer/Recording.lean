import Stophammer.SampleRun
import Stophammer.SignedLog

/-!
# Recorded runs

The texts and the signatures that the libraries give for the events of one run, and the
platform that knows them.  One run is here: a record with a copy.
-/

namespace Stophammer

open Relational

structure Recording where
  texts : List (EventPayload × String)
  signatures : List RunSignature

namespace Recording

variable (r : Recording)

def entry (payload : EventPayload) : Option (EventPayload × String) :=
  r.texts.find? fun p => p.1 == payload

def text (payload : EventPayload) : String := ((r.entry payload).map Prod.snd).getD "null"

def signs (s : RunSignature) (p : EventSigningPayload) : Bool :=
  p == ({ eventId := s.eventId
          eventType := s.payload.eventType
          payloadJson := r.text s.payload
          subjectGuid := s.subjectGuid
          createdAt := s.createdAt
          seq := s.seq } : EventSigningPayload)

def signature (key : String) (p : EventSigningPayload) : String :=
  if key == sampleKey then
    ((r.signatures.find? fun s => r.signs s p).map RunSignature.signature).getD "00"
  else "00"

/-- The libraries on the values of the run. -/
@[reducible] def platform : Platform :=
  { runPlatform with
    encodePayload := r.text
    decodeTyped := fun eventType text =>
      if text == "null" then some (EventPayload.plain (.feedUnblocked { blockId := "" }))
      else (r.texts.find? fun p => p.1.eventType == eventType && p.2 == text).map fun p => p.1.plain
    verifySignature := fun key p signature => r.signature key p == signature }

def signer : NodeSigner where
  pubkeyHex := sampleKey
  sign p := r.signature sampleKey p

def env (tag : Char) (now : Int) : IngestEnv := { runEnv tag now with signer := r.signer }

def operatorEnv (tag : Char) (now : Int) : OperatorEnv :=
  { runOperatorEnv tag now with signer := r.signer }

theorem signer_sound : @NodeSigner.Sound r.platform r.signer := fun _ => beq_self_eq_true _

theorem text_nonempty (h : ∀ p ∈ r.texts, p.2 ≠ "") : @JsonNonempty r.platform := by
  intro payload
  change ((r.entry payload).map Prod.snd).getD "null" ≠ ""
  rcases hfind : r.entry payload with _ | p
  · decide
  · exact h p (List.mem_of_find?_eq_some hfind)

theorem text_decodes (hnodup : (r.texts.map Prod.snd).Nodup) {payload : EventPayload}
    (h : r.text payload ≠ "null") :
    @Platform.decodePayload r.platform payload.eventType (r.text payload) = some payload := by
  rcases hfind : r.entry payload with _ | p
  · rw [text, hfind] at h
    exact absurd rfl h
  · have hsame : p.1 = payload := by simpa using List.find?_some hfind
    have htext : r.text payload = p.2 := by rw [text, hfind]; rfl
    have hmem := List.mem_of_find?_eq_some hfind
    change (if (r.text payload == "null") = true
      then some (EventPayload.plain (.feedUnblocked { blockId := "" }))
      else (r.texts.find? fun q => q.1.eventType == payload.eventType &&
        q.2 == r.text payload).map fun q => q.1.plain).map TypedPayload.payload = some payload
    rw [if_neg (by simpa using h)]
    cases hread : r.texts.find? fun q => q.1.eventType == payload.eventType &&
        q.2 == r.text payload with
    | none =>
      have hnone := List.find?_eq_none.mp hread p hmem
      simp [hsame, htext] at hnone
    | some q =>
      have hq := List.find?_some hread
      simp only [Bool.and_eq_true, beq_iff_eq] at hq
      obtain rfl := List.inj_on_of_nodup_map hnodup (List.mem_of_find?_eq_some hread) hmem
        (hq.2.trans htext)
      rw [Option.map_some, Option.map_some, hsame]
      rfl

end Recording

theorem runTexts_nodup : (runTexts.map Prod.snd).Nodup := by
  decide +kernel

/-- The digest of a body with no tracks and no recipients. -/
def emptyDigest : String :=
  "07e25ee479f5eb38d8408341e29eeb6696ae6c9a59ab73959550a1664d37268a"

def emptyListDigest : String :=
  "4f53cda18c2baa0c0354bb5f9a3ecbe5ed12ab4d8e11ba873c2f11161202b945"

def copyObserved : EventPayload :=
  .feedCopyObserved
    { feedGuid := "f1"
      url := otherUrl
      firstSeen := 2
      title := "a"
      itemGuids := []
      itemTitles := some []
      imageUrl := none
      remoteItems := some []
      itemDurations := some []
      itemEnclosureUrls := some []
      itemPubDates := some []
      author := none
      feedRecipients := []
      trackRecipients := []
      summaryDigest := emptyDigest }

def copyResolved : FeedCopyResolvedPayload where
  feedGuid := "f1"
  url := otherUrl
  decision := "keep_source"
  reason := "ok"
  resolvedAt := 3
  resolvedDigest := emptyDigest
  resolvedRemoteItemsDigest := some emptyListDigest

/-- The events of a record with a copy about which the operator decided. -/
def copyRecording : Recording where
  texts :=
    [(runUpserted "f1" sampleUrl 1,
      "\x7b\"feed\":\x7b\"feed_guid\":\"f1\",\"feed_url\":\"https://a.example/feed\",\"" ++
        "title\":\"a\",\"title_lower\":\"a\",\"description\":null,\"image_url\":null,\"pu" ++
        "blisher\":null,\"language\":null,\"explicit\":false,\"itunes_type\":null,\"relea" ++
        "se_artist\":\"Unknown Artist\",\"release_artist_sort\":null,\"release_date\":nul" ++
        "l,\"release_kind\":\"unknown\",\"episode_count\":0,\"newest_item_at\":null,\"old" ++
        "est_item_at\":null,\"created_at\":1,\"updated_at\":1,\"raw_medium\":null,\"last_" ++
        "build_date\":null,\"release_artist_source\":\"placeholder\"\x7d\x7d"),
      (runObserved sampleUrl "f1" 1,
       "\x7b\"url\":\"https://a.example/feed\",\"feed_guid\":\"f1\",\"observed_at\":1" ++
         "\x7d"),
      (runObserved otherUrl "f1" 2,
       "\x7b\"url\":\"https://b.example/feed\",\"feed_guid\":\"f1\",\"observed_at\":2" ++
         "\x7d"),
      (copyObserved,
       "\x7b\"feed_guid\":\"f1\",\"url\":\"https://b.example/feed\",\"first_seen\":2,\"t" ++
         "itle\":\"a\",\"item_guids\":[],\"item_titles\":[],\"remote_items\":[],\"item_dur" ++
         "ations\":[],\"item_enclosure_urls\":[],\"item_pub_dates\":[],\"feed_recipients\"" ++
         ":[],\"track_recipients\":\x7b\x7d,\"summary_digest\":\"07e25ee479f5eb38d8408341e" ++
         "29eeb6696ae6c9a59ab73959550a1664d37268a\"\x7d"),
      (.feedCopyResolved copyResolved,
       "\x7b\"feed_guid\":\"f1\",\"url\":\"https://b.example/feed\",\"decision\":\"keep_" ++
         "source\",\"reason\":\"ok\",\"resolved_at\":3,\"resolved_digest\":\"07e25ee479f5e" ++
         "b38d8408341e29eeb6696ae6c9a59ab73959550a1664d37268a\",\"resolved_remote_items_di" ++
         "gest\":\"4f53cda18c2baa0c0354bb5f9a3ecbe5ed12ab4d8e11ba873c2f11161202b945\"\x7d")]
  signatures :=
    [{ eventId := "ac"
       payload := runUpserted "f1" sampleUrl 1
       subjectGuid := "f1"
       createdAt := 1
       seq := 1
       signature :=
         "b07f152b72adc0d8cd95480850677e104f33e404155cf5d3c10fffc743cd0c99e3a8933ca58404d3" ++
           "790c3b2c4f8e78335bae87702995a88363f4402af2d7ce0a" },
      { eventId := "au"
        payload := runObserved sampleUrl "f1" 1
        subjectGuid := "f1"
        createdAt := 1
        seq := 2
        signature :=
          "f19b92faec3a415901205ed1b1a773c916d8d0c42d89292807ce9e29d75515cf9006fdcefa61d824" ++
            "2f5e112e573d9e058e79750935a213e7c3329f9f36a64d04" },
      { eventId := "mu"
        payload := runObserved otherUrl "f1" 2
        subjectGuid := "f1"
        createdAt := 2
        seq := 3
        signature :=
          "4bde245e24a45539e1d591cec0cbf647b4bde27e50c72f9f32bec9fde9dbc9b0338775961b57f2d7" ++
            "7616f99ee87085e9ef9ab24045d53323810eb5aada359000" },
      { eventId := "mk"
        payload := copyObserved
        subjectGuid := "f1"
        createdAt := 2
        seq := 4
        signature :=
          "3d6db2b9ed799de78cdd4ef99a5794d801068a2629d6c52273748fd40b2112fe7e94aaa90f981b8e" ++
            "d09140abf5e8fa18447fef329505547386e34a938fc13302" },
      { eventId := "v"
        payload := .feedCopyResolved copyResolved
        subjectGuid := "f1"
        createdAt := 3
        seq := 5
        signature :=
          "8299f04ca822ee2d12e4d3eac1a1b87dc30b18bcdd56e6b370a8f658e4e4c0d5bf43d2bd4d2e0198" ++
            "1ac57193d8a938a07ffffab10e551f762a4a2a3ed357830f" }]

/-- The libraries on the values of the copy. -/
@[reducible] def copyPlatform : Platform :=
  { copyRecording.platform with
    sha256Hex := fun input =>
      match input with
      | .summary [] [] [] => emptyDigest
      | .remoteItems [] => emptyListDigest
      | input => samplePlatform.sha256Hex input }

section Sample

attribute [local instance] copyPlatform

def copiedIngest : Operation :=
  .ingest (copyRecording.env 'a' 1) (Database.empty schema) (sampleRequest "f1" [])

def copiedDb : Db := copiedIngest.next (Database.empty schema)

def mirrorRequest : IngestFeedRequest :=
  { sampleRequest "f1" [] with canonicalUrl := otherUrl, sourceUrl := otherUrl }

/-- Another URL serves the body of `f1`. -/
def mirrorIngest : Operation := .ingest (copyRecording.env 'm' 2) copiedDb mirrorRequest

def mirroredDb : Db := mirrorIngest.next copiedDb

end Sample

end Stophammer
