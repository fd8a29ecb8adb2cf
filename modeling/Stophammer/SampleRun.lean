import Stophammer.FanOut
import Stophammer.Primary
import Stophammer.ServedEvents

/-!
# Sample runs of a primary

Operations on two feed URLs, with the texts and the signatures that the libraries give for
the events of these runs.
-/

namespace Stophammer

open Relational

/-- A second feed URL. -/
def otherUrl : String := "https://b.example/feed"

def thirdUrl : String := "https://c.example/feed"

/-- The record of a body with no tracks. -/
def runFeed (feedGuid feedUrl : String) (now : Int) : Feed :=
  { sampleFeed with
    feedGuid := feedGuid
    feedUrl := feedUrl
    episodeCount := 0
    createdAt := now
    updatedAt := now }

def runUpserted (feedGuid feedUrl : String) (now : Int) : EventPayload :=
  .feedUpserted { feed := runFeed feedGuid feedUrl now, reason := none }

def runObserved (url feedGuid : String) (observedAt : Int) : EventPayload :=
  .feedUrlObserved { url := url, feedGuid := feedGuid, observedAt := observedAt }

def runRetired (feedGuid reason : String) : EventPayload :=
  .feedRetired { feedGuid := feedGuid, reason := some reason }

def runSuperseded : EventPayload :=
  .feedGuidSuperseded { oldGuid := "f1", newGuid := sampleGuid, sourceUrl := sampleUrl }

def runGuidChange (oldGuid newGuid : String) (firstSeen : Int) : EventPayload :=
  .feedGuidChangeObserved
    { sourceUrl := sampleUrl, oldGuid := oldGuid, newGuid := newGuid, firstSeen := firstSeen }

def runBlocked : EventPayload :=
  .feedBlocked
    { blockId := "d", kind := .url, value := sampleUrl, reason := "spam", blockedAt := 1 }

def runDated (feedGuid feedUrl : String) (now lastBuildDate : Int) : EventPayload :=
  .feedUpserted
    { feed := { runFeed feedGuid feedUrl now with lastBuildDate := some lastBuildDate }
      reason := none }

def runDateClaimed (feedGuid lastBuildDate : String) (observedAt : Int) : EventPayload :=
  .sourceReleaseClaimsReplaced
    { feedGuid := feedGuid
      claims :=
        [{ feedGuid := feedGuid
           entityType := "feed"
           entityId := feedGuid
           position := 0
           claimType := "last_build_date"
           claimValue := lastBuildDate
           source := "rss_metadata"
           extractionPath := "feed.last_build_date"
           observedAt := observedAt }] }

def runRejected (oldGuid newGuid : String) (decidedAt : Int) : EventPayload :=
  .feedGuidChangeDecided
    { sourceUrl := sampleUrl
      oldGuid := oldGuid
      newGuid := newGuid
      decision := "reject"
      reason := "no"
      decidedAt := decidedAt }

def runApproved (oldGuid newGuid : String) (decidedAt : Int) : EventPayload :=
  .feedGuidChangeDecided
    { sourceUrl := sampleUrl
      oldGuid := oldGuid
      newGuid := newGuid
      decision := "approve"
      reason := "yes"
      decidedAt := decidedAt }

def runSupersession (oldGuid newGuid : String) : EventPayload :=
  .feedGuidSuperseded { oldGuid := oldGuid, newGuid := newGuid, sourceUrl := sampleUrl }

/-- The text of a record with no tracks. -/
def upsertedText (feedGuid feedUrl now lastBuildDate : String) : String :=
  "\x7b\"feed\":\x7b\"feed_guid\":\"" ++ feedGuid ++ "\",\"feed_url\":\"" ++ feedUrl ++
    "\",\"title\":\"a\",\"title_lower\":\"a\",\"description\":null,\"image_url\":null,\"publ" ++
    "isher\":null,\"language\":null,\"explicit\":false,\"itunes_type\":null,\"release_artist" ++
    "\":\"Unknown Artist\",\"release_artist_sort\":null,\"release_date\":null,\"release_kind" ++
    "\":\"unknown\",\"episode_count\":0,\"newest_item_at\":null,\"oldest_item_at\":null,\"cr" ++
    "eated_at\":" ++ now ++ ",\"updated_at\":" ++ now ++
    ",\"raw_medium\":null,\"last_build_date\":" ++ lastBuildDate ++
    ",\"release_artist_source\":\"placeholder\"\x7d\x7d"

def runTexts : List (EventPayload × String) :=
  [(runUpserted "f1" sampleUrl 1,
      "\x7b\"feed\":\x7b\"feed_guid\":\"f1\",\"feed_url\":\"https://a.example/feed\",\"titl" ++
        "e\":\"a\",\"title_lower\":\"a\",\"description\":null,\"image_url\":null,\"publisher" ++
        "\":null,\"language\":null,\"explicit\":false,\"itunes_type\":null,\"release_artist\"" ++
        ":\"Unknown Artist\",\"release_artist_sort\":null,\"release_date\":null,\"release_kin" ++
        "d\":\"unknown\",\"episode_count\":0,\"newest_item_at\":null,\"oldest_item_at\":null," ++
        "\"created_at\":1,\"updated_at\":1,\"raw_medium\":null,\"last_build_date\":null,\"rel" ++
        "ease_artist_source\":\"placeholder\"\x7d\x7d"),
    (runObserved sampleUrl "f1" 1,
      "\x7b\"url\":\"https://a.example/feed\",\"feed_guid\":\"f1\",\"observed_at\":1\x7d"),
    (runRetired "f1" "guid_superseded",
      "\x7b\"feed_guid\":\"f1\",\"reason\":\"guid_superseded\"\x7d"),
    (runSuperseded,
      "\x7b\"old_guid\":\"f1\",\"new_guid\":\"3908aa83-eed0-5818-a220-bbc8523ee34f\",\"sour" ++
        "ce_url\":\"https://a.example/feed\"\x7d"),
    (runUpserted sampleGuid otherUrl 5,
      "\x7b\"feed\":\x7b\"feed_guid\":\"3908aa83-eed0-5818-a220-bbc8523ee34f\",\"feed_url\"" ++
        ":\"https://b.example/feed\",\"title\":\"a\",\"title_lower\":\"a\",\"description\":nu" ++
        "ll,\"image_url\":null,\"publisher\":null,\"language\":null,\"explicit\":false,\"itun" ++
        "es_type\":null,\"release_artist\":\"Unknown Artist\",\"release_artist_sort\":null,\"" ++
        "release_date\":null,\"release_kind\":\"unknown\",\"episode_count\":0,\"newest_item_a" ++
        "t\":null,\"oldest_item_at\":null,\"created_at\":5,\"updated_at\":5,\"raw_medium\":nu" ++
        "ll,\"last_build_date\":null,\"release_artist_source\":\"placeholder\"\x7d\x7d"),
    (runObserved otherUrl sampleGuid 5,
      "\x7b\"url\":\"https://b.example/feed\",\"feed_guid\":\"3908aa83-eed0-5818-a220-bbc85" ++
        "23ee34f\",\"observed_at\":5\x7d"),
    (runObserved sampleUrl sampleGuid 5,
      "\x7b\"url\":\"https://a.example/feed\",\"feed_guid\":\"3908aa83-eed0-5818-a220-bbc85" ++
        "23ee34f\",\"observed_at\":5\x7d"),
    (runBlocked,
      "\x7b\"block_id\":\"d\",\"kind\":\"url\",\"value\":\"https://a.example/feed\",\"reaso" ++
        "n\":\"spam\",\"blocked_at\":1\x7d"),
    (runUpserted sampleGuid otherUrl 2,
      "\x7b\"feed\":\x7b\"feed_guid\":\"3908aa83-eed0-5818-a220-bbc8523ee34f\",\"feed_url\"" ++
        ":\"https://b.example/feed\",\"title\":\"a\",\"title_lower\":\"a\",\"description\":nu" ++
        "ll,\"image_url\":null,\"publisher\":null,\"language\":null,\"explicit\":false,\"itun" ++
        "es_type\":null,\"release_artist\":\"Unknown Artist\",\"release_artist_sort\":null,\"" ++
        "release_date\":null,\"release_kind\":\"unknown\",\"episode_count\":0,\"newest_item_a" ++
        "t\":null,\"oldest_item_at\":null,\"created_at\":2,\"updated_at\":2,\"raw_medium\":nu" ++
        "ll,\"last_build_date\":null,\"release_artist_source\":\"placeholder\"\x7d\x7d"),
    (runObserved otherUrl sampleGuid 2,
      "\x7b\"url\":\"https://b.example/feed\",\"feed_guid\":\"3908aa83-eed0-5818-a220-bbc85" ++
        "23ee34f\",\"observed_at\":2\x7d"),
    (runRetired sampleGuid "admin retired via API",
      "\x7b\"feed_guid\":\"3908aa83-eed0-5818-a220-bbc8523ee34f\",\"reason\":\"admin retire" ++
        "d via API\"\x7d"),
    (runUpserted sampleGuid sampleUrl 5,
      "\x7b\"feed\":\x7b\"feed_guid\":\"3908aa83-eed0-5818-a220-bbc8523ee34f\",\"feed_url\"" ++
        ":\"https://a.example/feed\",\"title\":\"a\",\"title_lower\":\"a\",\"description\":nu" ++
        "ll,\"image_url\":null,\"publisher\":null,\"language\":null,\"explicit\":false,\"itun" ++
        "es_type\":null,\"release_artist\":\"Unknown Artist\",\"release_artist_sort\":null,\"" ++
        "release_date\":null,\"release_kind\":\"unknown\",\"episode_count\":0,\"newest_item_a" ++
        "t\":null,\"oldest_item_at\":null,\"created_at\":5,\"updated_at\":5,\"raw_medium\":nu" ++
        "ll,\"last_build_date\":null,\"release_artist_source\":\"placeholder\"\x7d\x7d"),
    (runRetired "f1" "source_gone",
      "\x7b\"feed_guid\":\"f1\",\"reason\":\"source_gone\"\x7d"),
    (runGuidChange "f1" "g2" 2,
      "\x7b\"source_url\":\"https://a.example/feed\",\"old_guid\":\"f1\",\"new_guid\":\"g2" ++
        "\",\"first_seen\":2\x7d"),
    (runGuidChange "f1" "f1" 3,
      "\x7b\"source_url\":\"https://a.example/feed\",\"old_guid\":\"f1\",\"new_guid\":\"f1" ++
        "\",\"first_seen\":3\x7d"),
    (runUpserted "f1" otherUrl 3, upsertedText "f1" otherUrl "3" "null"),
    (runObserved otherUrl "f1" 3,
      "\x7b\"url\":\"https://b.example/feed\",\"feed_guid\":\"f1\",\"observed_at\":3\x7d"),
    (runUpserted "f1" sampleUrl 4, upsertedText "f1" sampleUrl "4" "null"),
    (runUpserted "f1" otherUrl 3604, upsertedText "f1" otherUrl "3604" "null"),
    (runDated "f1" sampleUrl 1 100, upsertedText "f1" sampleUrl "1" "100"),
    (runDateClaimed "f1" "100" 1,
      "\x7b\"feed_guid\":\"f1\",\"claims\":[\x7b\"id\":null,\"feed_guid\":\"f1\",\"entity_t" ++
        "ype\":\"feed\",\"entity_id\":\"f1\",\"position\":0,\"claim_type\":\"last_build_date" ++
        "\",\"claim_value\":\"100\",\"source\":\"rss_metadata\",\"extraction_path\":\"feed.la" ++
        "st_build_date\",\"observed_at\":1\x7d]\x7d"),
    (runDated "f1" otherUrl 3 50, upsertedText "f1" otherUrl "3" "50"),
    (runDateClaimed "f1" "50" 3,
      "\x7b\"feed_guid\":\"f1\",\"claims\":[\x7b\"id\":null,\"feed_guid\":\"f1\",\"entity_t" ++
        "ype\":\"feed\",\"entity_id\":\"f1\",\"position\":0,\"claim_type\":\"last_build_date" ++
        "\",\"claim_value\":\"50\",\"source\":\"rss_metadata\",\"extraction_path\":\"feed.las" ++
        "t_build_date\",\"observed_at\":3\x7d]\x7d"),
    (runRejected "f1" "g2" 3,
      "\x7b\"source_url\":\"https://a.example/feed\",\"old_guid\":\"f1\",\"new_guid\":\"g2" ++
        "\",\"decision\":\"reject\",\"reason\":\"no\",\"decided_at\":3\x7d"),
    (runRetired "f1" "admin retired via API",
      "\x7b\"feed_guid\":\"f1\",\"reason\":\"admin retired via API\"\x7d"),
    (runUpserted "g2" sampleUrl 5, upsertedText "g2" sampleUrl "5" "null"),
    (runObserved sampleUrl "g2" 5,
      "\x7b\"url\":\"https://a.example/feed\",\"feed_guid\":\"g2\",\"observed_at\":5\x7d"),
    (runUpserted "f3" sampleUrl 4, upsertedText "f3" sampleUrl "4" "null"),
    (runObserved sampleUrl "f3" 4,
      "\x7b\"url\":\"https://a.example/feed\",\"feed_guid\":\"f3\",\"observed_at\":4\x7d"),
    (runApproved "f1" "g2" 4,
      "\x7b\"source_url\":\"https://a.example/feed\",\"old_guid\":\"f1\",\"new_guid\":\"g2" ++
        "\",\"decision\":\"approve\",\"reason\":\"yes\",\"decided_at\":4\x7d"),
    (runSupersession "f1" "g2",
      "\x7b\"old_guid\":\"f1\",\"new_guid\":\"g2\",\"source_url\":\"https://a.example/feed" ++
        "\"\x7d"),
    (runGuidChange "f1" "f1" 5,
      "\x7b\"source_url\":\"https://a.example/feed\",\"old_guid\":\"f1\",\"new_guid\":\"f1" ++
        "\",\"first_seen\":5\x7d")]

def runEntry (payload : EventPayload) : Option (EventPayload × String) :=
  runTexts.find? fun p => p.1 == payload

def runText (payload : EventPayload) : String := ((runEntry payload).map Prod.snd).getD "null"

/-- The signed event of a payload: its id, subject, time and seq with the signature. -/
structure RunSignature where
  eventId : String
  payload : EventPayload
  subjectGuid : String
  createdAt : Int
  seq : Int
  signature : String

def RunSignature.signs (s : RunSignature) (p : EventSigningPayload) : Bool :=
  p == ({ eventId := s.eventId
          eventType := s.payload.eventType
          payloadJson := runText s.payload
          subjectGuid := s.subjectGuid
          createdAt := s.createdAt
          seq := s.seq } : EventSigningPayload)

def runSignatures : List RunSignature :=
  [{ eventId := "ac"
     payload := runUpserted "f1" sampleUrl 1
     subjectGuid := "f1"
     createdAt := 1
     seq := 1
     signature :=
       "b07f152b72adc0d8cd95480850677e104f33e404155cf5d3c10fffc743cd0c99e3a8933ca58404d3790c" ++
         "3b2c4f8e78335bae87702995a88363f4402af2d7ce0a" },
    { eventId := "au"
      payload := runObserved sampleUrl "f1" 1
      subjectGuid := "f1"
      createdAt := 1
      seq := 2
      signature :=
        "f19b92faec3a415901205ed1b1a773c916d8d0c42d89292807ce9e29d75515cf9006fdcefa61d8242f5e" ++
          "112e573d9e058e79750935a213e7c3329f9f36a64d04" },
    { eventId := "bt"
      payload := runRetired "f1" "guid_superseded"
      subjectGuid := "f1"
      createdAt := 5
      seq := 3
      signature :=
        "66b86ea16fd608b8e83d3f08bbdca6e7c49714578628e884f52dc3fc8ca596ee8f84698da8bf09c95298" ++
          "0d833207a895e54c2453499bd9d88cdcfa7e720eba06" },
    { eventId := "bt0"
      payload := runSuperseded
      subjectGuid := "f1"
      createdAt := 5
      seq := 4
      signature :=
        "62175293fb28d8bc02d4ea2bb04e21ca895a76f6d8ade056082a9aecf9b85c1f11361e6a752009809684" ++
          "c9184b73ced5c45955303b09dd7c28d9da378196860b" },
    { eventId := "bc"
      payload := runUpserted sampleGuid otherUrl 5
      subjectGuid := sampleGuid
      createdAt := 5
      seq := 5
      signature :=
        "bdf2d211ed08ee3bd0eca735405eb0d0965a792b7e82057687af4b6b38f19cd0e4908f6d29d4b59e35ce" ++
          "1d378f625450b8664f7e74fa533bf1ad43860a8c9e07" },
    { eventId := "bu"
      payload := runObserved otherUrl sampleGuid 5
      subjectGuid := sampleGuid
      createdAt := 5
      seq := 6
      signature :=
        "80dc50b4839e9c142f0580b81c1aa128934f5d577451c248c0c2e4e29d0878452c42296e57161239f62e" ++
          "f9aeac9b8ca5d7c8523fb90cacdbe0a9502a35d7200c" },
    { eventId := "bu0"
      payload := runObserved sampleUrl sampleGuid 5
      subjectGuid := sampleGuid
      createdAt := 5
      seq := 7
      signature :=
        "2a512b46715918a3c9b277a6166b524c43309e6ff6fa77b613619d81dff12882858837e138284cafc8d6" ++
          "4e56807da81be258544b24c7ad312e8a7929ffc3a40e" },
    { eventId := "d0"
      payload := runBlocked
      subjectGuid := "d"
      createdAt := 1
      seq := 1
      signature :=
        "118c7f71e076a5794d8ff75e156d5d91d17b40396599c8e6ac2b63d1780f490d53c48af18cfb062bafd3" ++
          "74247dc8694a1fc98607a5f00ee4d7086366bb483a0b" },
    { eventId := "ac"
      payload := runUpserted "f1" sampleUrl 1
      subjectGuid := "f1"
      createdAt := 1
      seq := 2
      signature :=
        "61e033b6819da9189d697a2a80721c4d325451793e2399f1c6ab94659077b9e6cce7689e66280a4eeb87" ++
          "0c97998054b64e511e3f094172b99e622678712b3603" },
    { eventId := "au"
      payload := runObserved sampleUrl "f1" 1
      subjectGuid := "f1"
      createdAt := 1
      seq := 3
      signature :=
        "b8380cfddaf93f22a602b3003f6021354dd155652a0d76b6431253d9fcee9fe622d845e9375fa982807a" ++
          "2622b111b385f4be880e4619f7d3795d784414c28908" },
    { eventId := "ec"
      payload := runUpserted sampleGuid otherUrl 2
      subjectGuid := sampleGuid
      createdAt := 2
      seq := 3
      signature :=
        "59cfee0305130e3384c3ca5d6c4599db668f58b43edb6f46c0596565aaa38948b80c030b9bb5a4289120" ++
          "85d466760b5902e8ef89cc80387f9ce9a24b913d9a02" },
    { eventId := "eu"
      payload := runObserved otherUrl sampleGuid 2
      subjectGuid := sampleGuid
      createdAt := 2
      seq := 4
      signature :=
        "aca4c1bc1adb1b1063135a3566d97e4a29adca2c081851c12eda5cec934ae6b87b4f2e1ecb18e21c6b13" ++
          "e7f6d297aca109ec02d79a454015f232fb8bdfc7580f" },
    { eventId := "r"
      payload := runRetired sampleGuid "admin retired via API"
      subjectGuid := sampleGuid
      createdAt := 3
      seq := 5
      signature :=
        "f84a1575ddc89bdca67998a4c9d3415c6ce493624ffd437782fcb15d84e517eb9d703b6250eecd355dc4" ++
          "024101c6cd8f33e818be9a3bd692560c083858e8b100" },
    { eventId := "bt"
      payload := runRetired "f1" "guid_superseded"
      subjectGuid := "f1"
      createdAt := 5
      seq := 6
      signature :=
        "0572b4f597707643b17e7812bea1220b83325c8a551b4f402e204880309cb286ac9d1172ae5f53d6a6fd" ++
          "bd3e89d05909cb12e4cf1a68c0946304aa8d9b99300b" },
    { eventId := "bt0"
      payload := runSuperseded
      subjectGuid := "f1"
      createdAt := 5
      seq := 7
      signature :=
        "68a8293b12acfdff77a278f65ea1c69aa8064b9c6e562d88a886bd80ea21433fe27d482996e6728550a8" ++
          "1533deca203ce4aa432c8b805ff44a3e53bed775a407" },
    { eventId := "bc"
      payload := runUpserted sampleGuid sampleUrl 5
      subjectGuid := sampleGuid
      createdAt := 5
      seq := 8
      signature :=
        "ef71ae5b270b049b046b7ec436736e283c5870bb14797772fc371b8a763332f5ecfdb978eb1fa57b593e" ++
          "55cf983484166b766b3b62b97fe0ff92f0437f8e0405" },
    { eventId := "bu"
      payload := runObserved sampleUrl sampleGuid 5
      subjectGuid := sampleGuid
      createdAt := 5
      seq := 9
      signature :=
        "f8f7053a9c69bbd4027ecbfd89a2fe295bee5a90fe0a17586781f92be537f1493d62dbd57ea431bac366" ++
          "fabaa44c32d9ebabae234ec18fb4800282bb065ea10a" },
    { eventId := "hg"
      payload := runRetired "f1" "source_gone"
      subjectGuid := "f1"
      createdAt := 86410
      seq := 3
      signature :=
        "b11a4d9c30d2af14742ca4eb09ab3c09717a10d500cd0d66bb12cf57ec277eab3deb925f79881e8c0dbc" ++
          "37259046669223521becf753574aae48f1f004566705" },
    { eventId := "pp"
      payload := runGuidChange "f1" "g2" 2
      subjectGuid := "f1"
      createdAt := 2
      seq := 3
      signature :=
        "820e8e28b5928549463c8841cac82132079eaceebd178e44aa6c6cf044a8c4e3f10f5754bef56683b0a9" ++
          "551648bfc2ba697e6c691cfbf1b3ca0df38a03baf80a" },
    { eventId := "qr"
      payload := runGuidChange "f1" "f1" 3
      subjectGuid := "f1"
      createdAt := 3
      seq := 4
      signature :=
        "8409e9fede5dcc4a4fdd03981835d6c6f894cce37279cc33149013a62f8e88f3f47bd9613842facc52d1" ++
          "eeb0abf61177c94e709f5bfa26e5f1665eb517e58a0f" },
    { eventId := "vc"
      payload := runUpserted "f1" otherUrl 3
      subjectGuid := "f1"
      createdAt := 3
      seq := 3
      signature :=
        "15896bc20ece37873ddae51ff3641facce85c6d320976e7be677cefc1adc70745e081ec96927cb524ff0" ++
          "613ceafd5472f4c1bf0b14f08ef011c11dbe28e5250b" },
    { eventId := "vu"
      payload := runObserved otherUrl "f1" 3
      subjectGuid := "f1"
      createdAt := 3
      seq := 4
      signature :=
        "b0fb6e6b7fb9926e1002270c0138c6652f7989f97eb3dc7b52f01c35ea8b21910260ad76d6363aebbcbc" ++
          "a258d57def43aa4d363e4d998894aab2e308fe07ee08" },
    { eventId := "wc"
      payload := runUpserted "f1" sampleUrl 4
      subjectGuid := "f1"
      createdAt := 4
      seq := 5
      signature :=
        "910f94305fc56fba1505cbae485d4d1d6cdbb5456ff1a0847968c5c6aa1b81af159b22f78343559689ba" ++
          "40c90e7c141ec3812e91eaa5646c94ac70972c4a2503" },
    { eventId := "xc"
      payload := runUpserted "f1" otherUrl 3604
      subjectGuid := "f1"
      createdAt := 3604
      seq := 6
      signature :=
        "734c46dbb3f66b3786db32abcf6e54b554e6013577b5b2429076ba6dc0218b48ee363e20ed02759fb3e8" ++
          "86b8aff8f1e86db8a6361b1d576d58b8cf68cb858707" },
    { eventId := "ac"
      payload := runDated "f1" sampleUrl 1 100
      subjectGuid := "f1"
      createdAt := 1
      seq := 1
      signature :=
        "77481bd262e8bc7ecf45e1ac356d7259b517b7913734949cc3ce552e42a39c7817274fe389c02d61d570" ++
          "d1eb9cffb3193a1d1148a32923b5c434dabff0151f09" },
    { eventId := "ac0"
      payload := runDateClaimed "f1" "100" 1
      subjectGuid := "f1"
      createdAt := 1
      seq := 2
      signature :=
        "472af979c8b7a4d1fe6ef2b5b0f0f7cc8373b64f8ec0e58093f1c37687c2f21abad7f20c75107ae3ce49" ++
          "1b249db363f3f15365eec430bc58b792566801999f0b" },
    { eventId := "vc"
      payload := runDated "f1" otherUrl 3 50
      subjectGuid := "f1"
      createdAt := 3
      seq := 4
      signature :=
        "b41b1191ff6ac96e16fb69014e5b260d9e90cc984577e72fa68d2e64ec8d539199be56fc9c7981843912" ++
          "fb13a883c488ff0af3f0d00bed02157675496213b402" },
    { eventId := "vc0"
      payload := runDateClaimed "f1" "50" 3
      subjectGuid := "f1"
      createdAt := 3
      seq := 5
      signature :=
        "7ba24735c60b62b0fb006940030156181f3cc7d13bcb91c98e17f3aa882e101178a27255cd1793ccb7f6" ++
          "c3273a661347aac31d354f280cff9ee2825c395bab0d" },
    { eventId := "vu"
      payload := runObserved otherUrl "f1" 3
      subjectGuid := "f1"
      createdAt := 3
      seq := 6
      signature :=
        "4a8e6e091e7e5fc0dfa78090f105257f2f2dd9e969d01006fe5af0ad74bbce86bdbb90044c9b1cd8d382" ++
          "439dad0624ab0996d89f0a27053b633802b3d36d700f" },
    { eventId := "k"
      payload := runRejected "f1" "g2" 3
      subjectGuid := "f1"
      createdAt := 3
      seq := 4
      signature :=
        "7f519efabcbc38876930c75f117fcad9ca2c4dab94a754733c12a1bc2cfa382afa030b0ce45f172fa444" ++
          "22b6c818f2a0f92951fc00a28d1894e6db5a4317880d" },
    { eventId := "r"
      payload := runRetired "f1" "admin retired via API"
      subjectGuid := "f1"
      createdAt := 4
      seq := 5
      signature :=
        "929c6668df23ca060261815a15e344f589563311398c2d330258b0f3430c479f7b149b20e9696f2f734b" ++
          "147e2378f1cbf1cf2b9e1a5b31cac0f92861bcd43e05" },
    { eventId := "nc"
      payload := runUpserted "g2" sampleUrl 5
      subjectGuid := "g2"
      createdAt := 5
      seq := 6
      signature :=
        "ac8be6ed5edd354f52f6b595086d47e6db7bb9270dc22a2b9b039db87c5236215be61b2445ce7f0ffe39" ++
          "f4ffafa1c6cf1eb3f12ab13e809d17f32d616e9e6f0f" },
    { eventId := "nu"
      payload := runObserved sampleUrl "g2" 5
      subjectGuid := "g2"
      createdAt := 5
      seq := 7
      signature :=
        "6f5d2c863500ffab94c387871b76b9850454a4c72dcdcd43a100b1777260f6379855fe12d10657253847" ++
          "a9f7da11599e42cb19d321f272095b9061cff05cf90a" },
    { eventId := "vc"
      payload := runUpserted "f1" otherUrl 3
      subjectGuid := "f1"
      createdAt := 3
      seq := 4
      signature :=
        "080401301c7f2fcd6056bd155e82bc335b72b67b23e64195bf02036d15140ee3a163ba3212ac1654cb73" ++
          "1e2bd8a5b4a53573a9ee0738ec52cb48dd0b42bb7c01" },
    { eventId := "vu"
      payload := runObserved otherUrl "f1" 3
      subjectGuid := "f1"
      createdAt := 3
      seq := 5
      signature :=
        "e9ecbed8b454d332327c7a61457b6de583dec7a6ced58fd424e855ca3db07deda61e60f084d5306c5391" ++
          "5c24cf1e1d0054761db6774e908f17f5bb6f7d06040b" },
    { eventId := "nc"
      payload := runUpserted "f3" sampleUrl 4
      subjectGuid := "f3"
      createdAt := 4
      seq := 6
      signature :=
        "fc24cdcc922ea64e847a25cf5ab627647ee02fce3a888889395923b41c6845d4c6a1f3a873e8256c4084" ++
          "122a16af6a837141b0beda7696f573faca7097c6200e" },
    { eventId := "nu"
      payload := runObserved sampleUrl "f3" 4
      subjectGuid := "f3"
      createdAt := 4
      seq := 7
      signature :=
        "b1940eabac69d0782c91472af07ff0077ae2c78e75f78c64e21796a06c44d3c257440fbe165ffae5c8c7" ++
          "9241bda6307d935622b4a86ac451799771fe4c802005" },
    { eventId := "r"
      payload := runRetired "f1" "admin retired via API"
      subjectGuid := "f1"
      createdAt := 3
      seq := 3
      signature :=
        "db99ad682f41bd4459af03a635290f64032db03cac37449866d8f28be408a51fd6c15d123980fef687e6" ++
          "f0fe87125d1ec2c357f45f90c2c81e63e84f3d008e01" },
    { eventId := "l"
      payload := runApproved "f1" "g2" 4
      subjectGuid := "f1"
      createdAt := 4
      seq := 5
      signature :=
        "f975f765c24713a89b8ec355e0f48cd54e3f0f5f28e96821a75dc024a980387b6fe7f6db1de6b4790294" ++
          "30c8cf56e33262ae67e898e9312c0acdf664705cf907" },
    { eventId := "nt"
      payload := runRetired "f1" "guid_superseded"
      subjectGuid := "f1"
      createdAt := 5
      seq := 6
      signature :=
        "e9eacf07f083140527bfa41593610ffee8a0dfa6c3a5127f657468c8135ac94ede7fefe01b9e290d9773" ++
          "f563f674c53e97d74b1deeadb16021fd59187cd1510a" },
    { eventId := "nt0"
      payload := runSupersession "f1" "g2"
      subjectGuid := "f1"
      createdAt := 5
      seq := 7
      signature :=
        "a7e18b8d5efa10b3e4ed854d421f8927d2cb5cb153e3505a9fffe57426ef0650bb60ddd3491e9b8ef94f" ++
          "891f063efb6ff79f29bc9f7b7c5db15dc3214e2ee10f" },
    { eventId := "nt00"
      payload := runGuidChange "f1" "f1" 5
      subjectGuid := "f1"
      createdAt := 5
      seq := 8
      signature :=
        "3a2e0d5248b8234aebc7bdf53a6a581f19872d45c13002d1d6ce360b0688ce01f9192bad3a38bbdcf580" ++
          "88a93c700d7d021ca9748b40b8a357a3ec581e089803" },
    { eventId := "nc"
      payload := runUpserted "g2" sampleUrl 5
      subjectGuid := "g2"
      createdAt := 5
      seq := 9
      signature :=
        "3b8c7027d7309dbd720aa1f285da7cfdbfa202844d57326a4cf7f87ecce5196cd8aafc21cd7ffac8e07b" ++
          "928f06ee67f7072f22dd4d13c5a71a8cd58044c3d804" },
    { eventId := "nu"
      payload := runObserved sampleUrl "g2" 5
      subjectGuid := "g2"
      createdAt := 5
      seq := 10
      signature :=
        "3b933f2846d442831d5cb76ad318e74e9243565fd99162f7ae60952db9a9323d29d300f5611ca63672d6" ++
          "c2a4b4dc0a4cec74e6490ec80205ed1c96e4bae73607" },
    { eventId := "hc"
      payload := runUpserted sampleGuid otherUrl 5
      subjectGuid := sampleGuid
      createdAt := 5
      seq := 6
      signature :=
        "7194c620cdc3a374cc43c3e25e08ee4709726bdb5e959ab5eded47b6827be737033a536847e312ffb088" ++
          "3d3e356450ea46b47ed1cf7f90e4db9432af034dea06" }]

def runSignature (key : String) (p : EventSigningPayload) : String :=
  if key == sampleKey then
    ((runSignatures.find? fun s => s.signs p).map RunSignature.signature).getD "00"
  else "00"

/-- The libraries on the values of the sample runs. -/
@[reducible] def runPlatform : Platform :=
  { samplePlatform with
    encodePayload := runText
    decodeTyped := fun eventType text =>
      if text == "null" then some (EventPayload.plain (.feedUnblocked { blockId := "" }))
      else (runTexts.find? fun p => p.1.eventType == eventType && p.2 == text).map fun p => p.1.plain
    verifySignature := fun key p signature => runSignature key p == signature
    urlHost := fun url =>
      if url == sampleUrl then some "a.example"
      else if url == otherUrl then some "b.example"
      else if url == thirdUrl then some "c.example" else none
    urlScheme := fun url =>
      if url == sampleUrl || url == otherUrl || url == thirdUrl then some "https" else none
    rowidFor := fun entityType entityId =>
      match entityType, entityId with
      | "feed", "g2" => 3223964312302776619
      | "feed", "f3" => 4945345651616561697
      | _, _ => samplePlatform.rowidFor entityType entityId }

def runSigner : NodeSigner where
  pubkeyHex := sampleKey
  sign p := runSignature sampleKey p

def IngestStep.letter : IngestStep → Char
  | .goneReport => 'g'
  | .sourceBlock => 's'
  | .guidReturn => 'r'
  | .readMove => 'm'
  | .writeMove => 'w'
  | .guidPending => 'p'
  | .urlObservations => 'u'
  | .canonicalCopy => 'k'
  | .sourceCopy => 'y'
  | .content => 'c'
  | .guidTransition => 't'
  | .staleTracks => 'x'

theorem IngestStep.letter_injective : Function.Injective IngestStep.letter := by
  intro a b h
  cases a <;> cases b <;> first | rfl | exact absurd h (by decide)

/-- The ids of one request start with its tag. -/
def runUuid (tag : Char) (step : IngestStep) (index : Nat) : String :=
  String.ofList (tag :: step.letter :: List.replicate index '0')

theorem runUuid_injective {tag : Char} {step step' : IngestStep} {index index' : Nat}
    (h : runUuid tag step index = runUuid tag step' index') : step = step' ∧ index = index' := by
  have hchars := String.ofList_injective h
  rw [List.cons_inj_right, List.cons_eq_cons] at hchars
  refine ⟨IngestStep.letter_injective hchars.1, ?_⟩
  have hlen := congrArg List.length hchars.2
  rwa [List.length_replicate, List.length_replicate] at hlen

def runEnv (tag : Char) (now : Int) : IngestEnv where
  signer := runSigner
  hashRank _ := 0
  chain := { crawlToken := "t", verifiers := [] }
  sourceGoneHosts := []
  now _ := now
  uuid := runUuid tag

def runOperatorEnv (tag : Char) (now : Int) : OperatorEnv where
  signer := runSigner
  now := now
  uuid index := String.ofList (tag :: List.replicate index '0')

section Sample

attribute [local instance] runPlatform

theorem runSigner_sound : runSigner.Sound := fun _ => beq_self_eq_true _

theorem runJson_readsBack : JsonReadsBack where
  nonempty := by
    intro payload
    change ((runEntry payload).map Prod.snd).getD "null" ≠ ""
    rcases hfind : runEntry payload with _ | p
    · decide
    · have hall : ∀ p ∈ runTexts, p.2 ≠ "" := by decide
      exact hall p (List.mem_of_find?_eq_some hfind)
  decodes := by
    intro payload
    rw [Platform.decodePayload, Option.isSome_map]
    change (if (runText payload == "null") = true
      then some (EventPayload.plain (.feedUnblocked { blockId := "" }))
      else (runTexts.find? fun p => p.1.eventType == payload.eventType &&
        p.2 == runText payload).map fun p => p.1.plain).isSome
    split
    · rfl
    · rename_i hnull
      rcases hfind : runEntry payload with _ | p
      · rw [runText, hfind] at hnull
        exact absurd rfl hnull
      · have hsame : p.1 = payload := by simpa using List.find?_some hfind
        have htext : runText payload = p.2 := by rw [runText, hfind]; rfl
        rw [Option.isSome_map, List.find?_isSome]
        exact ⟨p, List.mem_of_find?_eq_some hfind, by simp [hsame, htext]⟩

/-- The first submission of the feed `f1`. -/
def firstIngest : Operation :=
  .ingest (runEnv 'a' 1) (Database.empty schema) (sampleRequest "f1" [])

/-- A body with this new-feed-url tag and this build date. -/
def runBody (feedGuid : String) (newFeedUrl : Option String) (lastBuildDate : Option Int) :
    IngestFeedData :=
  { sampleBody feedGuid [] with newFeedUrl := newFeedUrl, lastBuildDate := lastBuildDate }

/-- A crawler fetched the source URL and arrived at the canonical URL. -/
def runRequest (sourceUrl canonicalUrl : String) (redirects : List RedirectHop)
    (body : IngestFeedData) : IngestFeedRequest :=
  { sampleRequest body.feedGuid [] with
    canonicalUrl := canonicalUrl
    sourceUrl := sourceUrl
    redirects := redirects
    feedData := some body }

end Sample

end Stophammer
