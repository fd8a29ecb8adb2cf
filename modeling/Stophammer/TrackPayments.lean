import Stophammer.Accepted
import Stophammer.GuidChange
import Stophammer.Ingest.ChainSpec
import Stophammer.Ingest.StoredSets
import Stophammer.ItemColumns
import Stophammer.Operator

/-!
# Payment routes of a track

The routes that a reader of a track gets: its own ones, or those of its feed.  A content that
passed the payment verifier leaves each of its tracks with a valid recipient.
-/

namespace Stophammer

open Relational Statement

def RouteType.text : RouteType → String
  | .node => "node"
  | .wallet => "wallet"
  | .keysend => "keysend"
  | .lnaddress => "lnaddress"

structure RouteResponse where
  recipientName : Option String
  routeType : String
  address : String
  customKey : Option String
  customValue : Option String
  split : Int
  fee : Bool
deriving DecidableEq

def PaymentRoute.response (r : PaymentRoute) : RouteResponse where
  recipientName := r.recipientName
  routeType := r.routeType.text
  address := r.address
  customKey := r.customKey
  customValue := r.customValue
  split := r.split
  fee := r.fee

def FeedPaymentRoute.response (r : FeedPaymentRoute) : RouteResponse where
  recipientName := r.recipientName
  routeType := r.routeType.text
  address := r.address
  customKey := r.customKey
  customValue := r.customValue
  split := r.split
  fee := r.fee

/-- A track with no routes of its own inherits those of its feed. -/
def effectiveRoutes (d : Db) (feedGuid trackGuid : String) : List RouteResponse :=
  let routes := (getPaymentRoutesForFeedTrack d feedGuid trackGuid).map PaymentRoute.response
  if routes.isEmpty then (getFeedPaymentRoutesForFeed d feedGuid).map FeedPaymentRoute.response
  else routes

/-- A recipient that a payment reaches. -/
def RouteResponse.Payable (r : RouteResponse) : Prop := r.address ≠ "" ∧ 0 < r.split

/-- The route rows of one track. -/
def routesOf (feedGuid trackGuid : String) : (t : Table) → t.Row → Bool
  | .paymentRoutes => fun r : PaymentRoute => r.feedGuid == feedGuid && r.trackGuid == trackGuid
  | _ => fun _ => false

variable {d e : Db} {feedGuid trackGuid : String}

theorem routesOf_of_writes {ts : List Table} {α : Type} {x : Stmt α}
    (hx : Writes (S := schema) ts x) (hts : Table.paymentRoutes ∉ ts) :
    Steps (SameRows (S := schema) (routesOf feedGuid trackGuid)) x := by
  apply SameRows.of_writes hx
  intro t ht r
  cases t with
  | paymentRoutes => exact absurd ht hts
  | _ => rfl

theorem getPaymentRoutes_same
    (h : SameRows (S := schema) (routesOf feedGuid trackGuid) d e) :
    getPaymentRoutesForFeedTrack e feedGuid trackGuid =
      getPaymentRoutesForFeedTrack d feedGuid trackGuid := h .paymentRoutes

theorem routesOf_other {other : String} (hother : other ≠ trackGuid) {r : PaymentRoute}
    (hr : (r.feedGuid == feedGuid && r.trackGuid == other) = true) :
    routesOf feedGuid trackGuid .paymentRoutes r = false := by
  simp only [Bool.and_eq_true, beq_iff_eq] at hr
  simp [routesOf, hr.2, hother]

theorem writeTrack_routes {t : TrackIngestBundle} {a : Unit} (hfeed : t.track.feedGuid = feedGuid)
    (h : writeTrack t d = (.ok a, e)) :
    getPaymentRoutesForFeedTrack e feedGuid trackGuid =
      if trackGuid = t.track.trackGuid then
        t.routes.map (paymentRouteRow feedGuid t.track.trackGuid)
      else getPaymentRoutesForFeedTrack d feedGuid trackGuid := by
  subst hfeed
  obtain ⟨_, d₁, htrack, h⟩ := bind_ok h
  obtain ⟨_, d₂, hroutes, h⟩ := bind_ok h
  obtain ⟨_, d₃, hsplits, hitems⟩ := bind_ok h
  have hfirst : SameRows (S := schema) (routesOf t.track.feedGuid trackGuid) d d₁ :=
    (routesOf_of_writes (Writes.upsert (List.mem_singleton_self _)) (by decide)).run htrack
  have hlast : SameRows (S := schema) (routesOf t.track.feedGuid trackGuid) d₂ e :=
    trans_of (SameRows _)
      ((routesOf_of_writes replaceValueTimeSplitsForFeedTrack_writes (by decide)).run hsplits)
      ((routesOf_of_writes (Writes.replaceRows (List.mem_singleton_self _)) (by decide)).run hitems)
  rw [getPaymentRoutes_same hlast]
  split
  · rename_i hguid
    subst hguid
    apply replaceRows_filter (S := schema) (t := .paymentRoutes) hroutes
    intro r hr
    obtain ⟨route, -, rfl⟩ := List.mem_map.mp hr
    simp [paymentRouteRow]
  · rename_i hguid
    have hsame : SameRows (S := schema) (routesOf t.track.feedGuid trackGuid) d₁ d₂ := by
      refine (SameRows.replaceRows (fun r hr => routesOf_other (Ne.symm hguid) hr)
        fun r hr => ?_).run hroutes
      obtain ⟨route, -, rfl⟩ := List.mem_map.mp hr
      exact routesOf_other (Ne.symm hguid) (by simp [paymentRouteRow])
    rw [getPaymentRoutes_same (trans_of (SameRows _) hfirst hsame)]

theorem writeTracks_routes {ts : List TrackIngestBundle} {a : Unit}
    (hfeed : ∀ t ∈ ts, t.track.feedGuid = feedGuid) (h : forEach writeTrack ts d = (.ok a, e)) :
    (∃ t ∈ ts, t.track.trackGuid = trackGuid ∧
      getPaymentRoutesForFeedTrack e feedGuid trackGuid =
        t.routes.map (paymentRouteRow feedGuid trackGuid)) ∨
    (∀ t ∈ ts, t.track.trackGuid ≠ trackGuid) ∧
      getPaymentRoutesForFeedTrack e feedGuid trackGuid =
        getPaymentRoutesForFeedTrack d feedGuid trackGuid := by
  induction ts generalizing d with
  | nil =>
    cases h
    exact .inr ⟨List.forall_mem_nil _, rfl⟩
  | cons t ts ih =>
    rw [forEach_cons] at h
    obtain ⟨_, d₁, hwrite, hrest⟩ := bind_ok h
    obtain ⟨hfirst, hfeed⟩ := List.forall_mem_cons.mp hfeed
    rcases ih hfeed hrest with ⟨t', ht', hguid, hroutes⟩ | ⟨habsent, hsame⟩
    · exact .inl ⟨t', List.mem_cons_of_mem _ ht', hguid, hroutes⟩
    · rw [writeTrack_routes hfirst hwrite] at hsame
      split at hsame
      · rename_i hguid
        subst hguid
        exact .inl ⟨t, List.mem_cons_self, rfl, hsame⟩
      · rename_i hguid
        exact .inr ⟨List.forall_mem_cons.mpr ⟨Ne.symm hguid, habsent⟩, hsame⟩

theorem deleteTracks_routes {p : Track → Bool} {a : Unit} (h : deleteTracks p d = (.ok a, e))
    (hp : ∀ r, p r = true → r.trackGuid ≠ trackGuid) :
    SameRows (S := schema) (routesOf feedGuid trackGuid) d e := by
  obtain ⟨olds, d₁, hread, h⟩ := bind_ok (transaction_ok.mp h)
  cases hread
  obtain ⟨_, d₂, hcleanup, hdelete⟩ := bind_ok h
  refine trans_of (SameRows _) ((Steps.forEach fun old hold => ?_).run hcleanup)
    ((routesOf_of_writes (Writes.delete (List.mem_singleton_self _)) (by decide)).run hdelete)
  apply (routesOf_of_writes (Writes.delete (List.mem_singleton_self _)) (by decide)).bind
  intro _
  refine Steps.bind (SameRows.delete fun r hr => ?_) fun _ => ?_
  · have hguid := hp old (List.mem_filter.mp hold).2
    simp only [Bool.and_eq_true, beq_iff_eq] at hr
    simp [routesOf, hr.2, hguid]
  · apply (routesOf_of_writes (Writes.delete (List.mem_singleton_self _)) (by decide)).bind
    intro _
    exact routesOf_of_writes (Writes.delete (List.mem_singleton_self _)) (by decide)

section

variable [Platform]

theorem removeStaleTrack_routes {stale : String} {a : Unit} (hstale : stale ≠ trackGuid)
    (h : removeStaleTrack feedGuid stale d = (.ok a, e)) :
    SameRows (S := schema) (routesOf feedGuid trackGuid) d e := by
  unfold removeStaleTrack at h
  rw [read_bind_run] at h
  cases htrack : getTrackForFeed d feedGuid stale with
  | none =>
    rw [htrack] at h
    cases h
    exact refl_of _ d
  | some track =>
    rw [htrack] at h
    obtain ⟨_, d₁, hsearch, h⟩ := bind_ok h
    obtain ⟨_, d₂, hsplits, h⟩ := bind_ok h
    obtain ⟨_, d₃, hroutes, h⟩ := bind_ok h
    obtain ⟨_, d₄, hquality, h⟩ := bind_ok h
    obtain ⟨_, d₅, hitems, h⟩ := bind_ok h
    have hother : ∀ {t : Table} {q : t.Row → Bool} {s u : Db} {b : Unit}, Table.paymentRoutes ∉ [t] →
        delete (S := schema) t q s = (.ok b, u) →
          SameRows (S := schema) (routesOf feedGuid trackGuid) s u :=
      fun ht hrun => (routesOf_of_writes (Writes.delete (List.mem_singleton_self _)) ht).run hrun
    apply trans_of (SameRows _) ((routesOf_of_writes deleteFromSearchIndex_writes (by decide)).run hsearch)
    apply trans_of (SameRows _) (hother (by decide) hsplits)
    apply trans_of (SameRows _) ((SameRows.delete fun r hr => routesOf_other hstale hr).run hroutes)
    apply trans_of (SameRows _) (hother (by decide) hquality)
    apply trans_of (SameRows _) (hother (by decide) hitems)
    apply deleteTracks_routes h
    intro r hr
    simp only [Bool.and_eq_true, beq_iff_eq] at hr
    rw [hr.2]
    exact hstale

theorem removeStaleTracks_routes {stale : List String} {a : Unit} (hstale : trackGuid ∉ stale)
    (h : forEach (removeStaleTrack feedGuid) stale d = (.ok a, e)) :
    SameRows (S := schema) (routesOf feedGuid trackGuid) d e := by
  induction stale generalizing d with
  | nil =>
    cases h
    exact refl_of _ _
  | cons first stale ih =>
    rw [forEach_cons] at h
    obtain ⟨_, d₁, hfirst, hrest⟩ := bind_ok h
    obtain ⟨hne, hstale⟩ := not_or.mp (mt List.mem_cons.mpr hstale)
    exact trans_of (SameRows _) (removeStaleTrack_routes (Ne.symm hne) hfirst) (ih hstale hrest)

theorem ingestTransaction_routes {env : PrimaryEnv} {removalUuid : Nat → String}
    {c : IngestContent} {eventRows : List EventRow} {feedMove : Option FeedMoveWrite}
    {seqs : List (Int × String × String)}
    (hfeed : ∀ t ∈ c.tracks, t.track.feedGuid = c.feed.feedGuid)
    (h : ingestTransaction env removalUuid c eventRows feedMove d = (.ok seqs, e))
    (htrack : ∃ t ∈ c.tracks, t.track.trackGuid = trackGuid) :
    ∃ t ∈ c.tracks, t.track.trackGuid = trackGuid ∧
      getPaymentRoutesForFeedTrack e c.feed.feedGuid trackGuid =
        t.routes.map (paymentRouteRow c.feed.feedGuid trackGuid) := by
  obtain ⟨d₁, d₂, d₃, d₄, -, -, htracks, hremoved, hrest⟩ := ingestTransaction_states h
  obtain ⟨t, ht, hguid⟩ := htrack
  have hkept : trackGuid ∉ orderBy (compareOn env.hashRank) (staleTrackGuids d₂ c) := by
    rw [(orderBy_perm _ _).mem_iff, staleTrackGuids, List.mem_filter]
    rintro ⟨-, habsent⟩
    rw [Bool.not_eq_true', List.any_eq_false] at habsent
    exact habsent t ht (beq_iff_eq.mpr hguid)
  have hroutes : getPaymentRoutesForFeedTrack e c.feed.feedGuid trackGuid =
      getPaymentRoutesForFeedTrack d₃ c.feed.feedGuid trackGuid := by
    rw [← getPaymentRoutes_same (removeStaleTracks_routes hkept hremoved),
      getPaymentRoutesForFeedTrack, hrest .paymentRoutes (by decide), getPaymentRoutesForFeedTrack]
  rw [hroutes]
  rcases writeTracks_routes hfeed htracks with hlast | ⟨habsent, -⟩
  · exact hlast
  · exact absurd hguid (habsent t ht)

theorem readPhase_verified {env : IngestEnv} {snapshot : Db} {req : IngestFeedRequest}
    {warnings : List String} (h : readPhase env snapshot req = .verified warnings) :
    ∃ request, request.feedData = req.feedData ∧
      env.chain.run
        { request := request
          db := snapshot
          existing := getExistingFeed snapshot req.canonicalUrl } = .ok warnings := by
  unfold readPhase at h
  split at h
  · cases h
  · dsimp only at h
    split at h
    · rename_i hrun
      cases h
      refine ⟨_, ?_, hrun⟩
      split <;> rfl
    · split at h <;> cases h

theorem verified_payment {isUuid : String → Bool} {crawlToken : String} {env : IngestEnv}
    {snapshot : Db} {req : IngestFeedRequest} {body : IngestFeedData} {warnings : List String}
    (hchain : buildChain isUuid (chainNames defaultChainNames) crawlToken = some env.chain)
    (hphase : readPhase env snapshot req = .verified warnings) (hbody : req.feedData = some body)
    (hmedium : paymentExempt body.rawMedium = false) : validatePayment body = none := by
  have hverifier : v4vPaymentVerifier ∈ env.chain.verifiers := by
    rw [buildChain_default hchain]
    simp
  obtain ⟨request, hdata, hrun⟩ := readPhase_verified hphase
  cases hreason : validatePayment body with
  | none => rfl
  | some reason =>
    have hpass := runVerifiers_ok hrun hverifier reason
    simp [v4vPaymentVerifier, hdata, hbody, hmedium, hreason] at hpass

omit [Platform] in
theorem payable_of_valid {r : IngestPaymentRoute} (h : r.isValid = true) :
    r.address ≠ "" ∧ 0 < r.split := by
  rw [IngestPaymentRoute.isValid, Bool.and_eq_true, Bool.not_eq_true', decide_eq_true_eq] at h
  exact ⟨fun haddress => by rw [haddress] at h; exact absurd h.1 (by decide), h.2⟩

variable {env : IngestEnv} {snapshot : Db} {req : IngestFeedRequest} {out : IngestOutput}

theorem content_tracksPayable {i : BuildInput} {removalUuid : Nat → String}
    {eventRows : List EventRow} {feedMove : Option FeedMoveWrite} {penv : PrimaryEnv}
    {seqs : List (Int × String × String)}
    (h : ingestTransaction penv removalUuid i.content eventRows feedMove d = (.ok seqs, e))
    (hmedium : paymentExempt i.feedData.rawMedium = false)
    (hpayment : validatePayment i.feedData = none) {track : Track}
    (htrack : track ∈ getTracksForFeed e i.feedData.feedGuid) :
    ∃ r ∈ effectiveRoutes e track.feedGuid track.trackGuid, r.Payable := by
  have hmusicl : i.isMusicl = false := (Bool.or_eq_false_iff.mp hmedium).2
  obtain ⟨hmem, hguid⟩ := List.mem_filter.mp htrack
  have hfeed := beq_iff_eq.mp hguid
  have hof : ∀ t ∈ i.content.tracks, t.track.feedGuid = i.content.feed.feedGuid :=
    fun t ht => (i.tracks_ofFeed t ht).track
  have hin : ∃ t ∈ i.content.tracks, t.track.trackGuid = track.trackGuid := by
    have hlookup := ingestTransaction_lookup hof h track.trackGuid
    have hfound := getTrackForFeed_of_mem hmem
    rw [hfeed] at hfound
    by_contra hnone
    rw [if_neg hnone] at hlookup
    exact absurd (hlookup.symm.trans hfound) (by simp)
  obtain ⟨t, ht, htrackGuid, hroutes⟩ := ingestTransaction_routes hof h hin
  have hsets := (ingestTransaction_sets i.content_ofFeed h).feedRoutes
  obtain ⟨data, hdata, rfl⟩ := List.mem_map.mp ht
  rw [BuildInput.tracks, hmusicl] at hdata
  obtain ⟨route, hroute, hvalid⟩ := List.any_eq_true.mp (validatePayment_routes hpayment hdata)
  have hpayable := payable_of_valid hvalid
  rw [hfeed, effectiveRoutes, show i.feedData.feedGuid = i.content.feed.feedGuid from rfl, hroutes]
  rw [IngestFeedData.routesFor] at hroute
  by_cases hown : data.paymentRoutes.isEmpty = true
  · rw [if_pos hown] at hroute
    have hnone : (i.trackBundle data).routes = [] := by
      rw [BuildInput.trackBundle, List.isEmpty_iff.mp hown]
      rfl
    rw [hnone, getFeedPaymentRoutesForFeed, hsets]
    refine ⟨(feedPaymentRouteRow (i.feedRoute route)).response, ?_, hpayable⟩
    have hcontent : i.content.feedRoutes = i.feedData.feedPaymentRoutes.map i.feedRoute := by
      rw [BuildInput.content, hmusicl]
      rfl
    rw [hcontent]
    exact List.mem_map_of_mem (List.mem_map_of_mem (List.mem_map_of_mem hroute))
  · rw [if_neg hown] at hroute
    have hrows : (((i.trackBundle data).routes.map (paymentRouteRow i.content.feed.feedGuid
        track.trackGuid)).map PaymentRoute.response).isEmpty = false := by
      rw [List.isEmpty_map, List.isEmpty_map, BuildInput.trackBundle, List.isEmpty_map]
      exact Bool.eq_false_iff.mpr hown
    rw [hrows]
    refine ⟨(paymentRouteRow i.content.feed.feedGuid track.trackGuid
      (i.trackRoute data.trackGuid route)).response, ?_, hpayable⟩
    exact List.mem_map_of_mem (List.mem_map_of_mem (List.mem_map_of_mem hroute))

/-- An accepted submission of the default chain stores no track, or its medium is exempt, or each
track of its feed has a recipient that a payment reaches. -/
theorem ingest_tracksPayable {isUuid : String → Bool} {crawlToken : String}
    {body : IngestFeedData}
    (hchain : buildChain isUuid (chainNames defaultChainNames) crawlToken = some env.chain)
    (h : handleIngestFeed env snapshot req d = (.ok out, e))
    (haccepted : out.response.accepted = true) (hbody : req.feedData = some body)
    (hmedium : paymentExempt body.rawMedium = false) :
    (readPhase env snapshot req = .noChange → e .tracks = d .tracks) ∧
      (readPhase env snapshot req ≠ .noChange →
        ∀ track ∈ getTracksForFeed e body.feedGuid,
          ∃ r ∈ effectiveRoutes e track.feedGuid track.trackGuid, r.Payable) := by
  rcases accepted_cases h haccepted with ⟨hphase, hrun⟩ | ⟨body', warnings, admission, hreaches, ⟨c⟩⟩
  · refine ⟨fun _ => ?_, fun hchanged => absurd hphase hchanged⟩
    exact (handleNoChange_observes.run hrun).logs.frame .tracks (by decide)
  · cases hbody.symm.trans hreaches.carries
    obtain ⟨_, hphase⟩ := hreaches.verified
    refine ⟨fun hsame => absurd (hphase.symm.trans hsame) (by simp), fun _ track htrack => ?_⟩
    have hroutes : ∀ feedGuid trackGuid, effectiveRoutes e feedGuid trackGuid =
        effectiveRoutes c.stored feedGuid trackGuid := by
      intro feedGuid trackGuid
      rw [effectiveRoutes, getPaymentRoutesForFeedTrack, getFeedPaymentRoutesForFeed,
        c.stored_same .paymentRoutes (by decide), c.stored_same .feedPaymentRoutes (by decide)]
      rfl
    rw [getTracksForFeed, c.stored_same .tracks (by decide)] at htrack
    rw [hroutes]
    exact content_tracksPayable c.stores hmedium (verified_payment hchain hphase hbody hmedium) htrack

end

def paidFeed (rawMedium : String) (episodeCount createdAt : Int) : Feed :=
  { runFeed sampleGuid sampleUrl createdAt with
    episodeCount := episodeCount
    rawMedium := some rawMedium }

def paidFeedRoutes : EventPayload :=
  .feedRoutesReplaced
    { feedGuid := sampleGuid
      routes :=
        [{ feedGuid := sampleGuid
           recipientName := none
           routeType := .node
           address := "a"
           customKey := none
           customValue := none
           split := 100
           fee := false }] }

def paidClaims (rawMedium : String) (observedAt : Int) : EventPayload :=
  .sourceReleaseClaimsReplaced
    { feedGuid := sampleGuid
      claims :=
        [{ feedGuid := sampleGuid
           entityType := "feed"
           entityId := sampleGuid
           position := 0
           claimType := "raw_medium"
           claimValue := rawMedium
           source := "rss_metadata"
           extractionPath := "feed.raw_medium"
           observedAt := observedAt }] }

/-- The event of a track with routes of these addresses and splits. -/
def paidUpserted (trackGuid : String) (routes : List (String × Int)) : EventPayload :=
  .trackUpserted
    { track := { sampleTrack with trackGuid := trackGuid, feedGuid := sampleGuid }
      routes := routes.map fun (address, split) =>
        { trackGuid := trackGuid
          feedGuid := sampleGuid
          recipientName := none
          routeType := .node
          address := address
          customKey := none
          customValue := none
          split := split
          fee := false }
      valueTimeSplits := [] }

def albumItem : FeedRemoteItemRaw where
  feedGuid := sampleGuid
  position := 0
  medium := some "music"
  remoteFeedGuid := "f1"
  remoteFeedUrl := none
  rel := none
  source := "podcast_remote_item"
  remoteItemGuid := none
  remoteItemTitle := none

def paidAlbumItems : EventPayload :=
  .feedRemoteItemsReplaced { feedGuid := sampleGuid, remoteItems := [albumItem] }

/-- The events of a music feed whose first track has routes of its own, and of the publisher feed
that it becomes. -/
def paidRecording : Recording where
  texts :=
    [(.feedUpserted { feed := paidFeed "music" 2 1, reason := none },
      "\x7b\"feed\":\x7b\"feed_guid\":\"3908aa83-eed0-5818-a220-bbc8523ee34f\",\"feed_u" ++
        "rl\":\"https://a.example/feed\",\"title\":\"a\",\"title_lower\":\"a\",\"descript" ++
        "ion\":null,\"image_url\":null,\"publisher\":null,\"language\":null,\"explicit\":" ++
        "false,\"itunes_type\":null,\"release_artist\":\"Unknown Artist\",\"release_artis" ++
        "t_sort\":null,\"release_date\":null,\"release_kind\":\"unknown\",\"episode_count" ++
        "\":2,\"newest_item_at\":null,\"oldest_item_at\":null,\"created_at\":1,\"updated_" ++
        "at\":1,\"raw_medium\":\"music\",\"last_build_date\":null,\"release_artist_source" ++
        "\":\"placeholder\"\x7d\x7d"),
      (paidFeedRoutes,
       "\x7b\"feed_guid\":\"3908aa83-eed0-5818-a220-bbc8523ee34f\",\"routes\":[\x7b\"id" ++
         "\":null,\"feed_guid\":\"3908aa83-eed0-5818-a220-bbc8523ee34f\",\"recipient_name" ++
         "\":null,\"route_type\":\"node\",\"address\":\"a\",\"custom_key\":null,\"custom_v" ++
         "alue\":null,\"split\":100,\"fee\":false\x7d]\x7d"),
      (paidClaims "music" 1,
       "\x7b\"feed_guid\":\"3908aa83-eed0-5818-a220-bbc8523ee34f\",\"claims\":[\x7b\"id" ++
         "\":null,\"feed_guid\":\"3908aa83-eed0-5818-a220-bbc8523ee34f\",\"entity_type\":" ++
         "\"feed\",\"entity_id\":\"3908aa83-eed0-5818-a220-bbc8523ee34f\",\"position\":0," ++
         "\"claim_type\":\"raw_medium\",\"claim_value\":\"music\",\"source\":\"rss_metadat" ++
         "a\",\"extraction_path\":\"feed.raw_medium\",\"observed_at\":1\x7d]\x7d"),
      (paidUpserted "t1" [("", 1), ("b", 99)],
       "\x7b\"track\":\x7b\"track_guid\":\"t1\",\"feed_guid\":\"3908aa83-eed0-5818-a220-" ++
         "bbc8523ee34f\",\"title\":\"b\",\"title_lower\":\"b\",\"pub_date\":null,\"duratio" ++
         "n_secs\":null,\"enclosure_url\":null,\"enclosure_type\":null,\"enclosure_bytes\"" ++
         ":null,\"track_number\":null,\"season\":null,\"image_url\":null,\"publisher\":nul" ++
         "l,\"language\":null,\"explicit\":false,\"description\":null,\"track_artist\":\"U" ++
         "nknown Artist\",\"track_artist_sort\":null,\"created_at\":1,\"updated_at\":1\x7d" ++
         ",\"routes\":[\x7b\"id\":null,\"track_guid\":\"t1\",\"feed_guid\":\"3908aa83-eed0" ++
         "-5818-a220-bbc8523ee34f\",\"recipient_name\":null,\"route_type\":\"node\",\"addr" ++
         "ess\":\"\",\"custom_key\":null,\"custom_value\":null,\"split\":1,\"fee\":false" ++
         "\x7d,\x7b\"id\":null,\"track_guid\":\"t1\",\"feed_guid\":\"3908aa83-eed0-5818-a2" ++
         "20-bbc8523ee34f\",\"recipient_name\":null,\"route_type\":\"node\",\"address\":\"" ++
         "b\",\"custom_key\":null,\"custom_value\":null,\"split\":99,\"fee\":false\x7d],\"" ++
         "value_time_splits\":[]\x7d"),
      (paidUpserted "t2" [],
       "\x7b\"track\":\x7b\"track_guid\":\"t2\",\"feed_guid\":\"3908aa83-eed0-5818-a220-" ++
         "bbc8523ee34f\",\"title\":\"b\",\"title_lower\":\"b\",\"pub_date\":null,\"duratio" ++
         "n_secs\":null,\"enclosure_url\":null,\"enclosure_type\":null,\"enclosure_bytes\"" ++
         ":null,\"track_number\":null,\"season\":null,\"image_url\":null,\"publisher\":nul" ++
         "l,\"language\":null,\"explicit\":false,\"description\":null,\"track_artist\":\"U" ++
         "nknown Artist\",\"track_artist_sort\":null,\"created_at\":1,\"updated_at\":1\x7d" ++
         ",\"routes\":[],\"value_time_splits\":[]\x7d"),
      (runObserved sampleUrl sampleGuid 1,
       "\x7b\"url\":\"https://a.example/feed\",\"feed_guid\":\"3908aa83-eed0-5818-a220-b" ++
         "bc8523ee34f\",\"observed_at\":1\x7d"),
      (.feedUpserted { feed := paidFeed "publisher" 0 2, reason := none },
       "\x7b\"feed\":\x7b\"feed_guid\":\"3908aa83-eed0-5818-a220-bbc8523ee34f\",\"feed_u" ++
         "rl\":\"https://a.example/feed\",\"title\":\"a\",\"title_lower\":\"a\",\"descript" ++
         "ion\":null,\"image_url\":null,\"publisher\":null,\"language\":null,\"explicit\":" ++
         "false,\"itunes_type\":null,\"release_artist\":\"Unknown Artist\",\"release_artis" ++
         "t_sort\":null,\"release_date\":null,\"release_kind\":\"unknown\",\"episode_count" ++
         "\":0,\"newest_item_at\":null,\"oldest_item_at\":null,\"created_at\":2,\"updated_" ++
         "at\":2,\"raw_medium\":\"publisher\",\"last_build_date\":null,\"release_artist_so" ++
         "urce\":\"placeholder\"\x7d\x7d"),
      (paidAlbumItems,
       "\x7b\"feed_guid\":\"3908aa83-eed0-5818-a220-bbc8523ee34f\",\"remote_items\":[" ++
         "\x7b\"id\":null,\"feed_guid\":\"3908aa83-eed0-5818-a220-bbc8523ee34f\",\"positio" ++
         "n\":0,\"medium\":\"music\",\"remote_feed_guid\":\"f1\",\"remote_feed_url\":null," ++
         "\"rel\":null,\"source\":\"podcast_remote_item\"\x7d]\x7d"),
      (paidClaims "publisher" 2,
       "\x7b\"feed_guid\":\"3908aa83-eed0-5818-a220-bbc8523ee34f\",\"claims\":[\x7b\"id" ++
         "\":null,\"feed_guid\":\"3908aa83-eed0-5818-a220-bbc8523ee34f\",\"entity_type\":" ++
         "\"feed\",\"entity_id\":\"3908aa83-eed0-5818-a220-bbc8523ee34f\",\"position\":0," ++
         "\"claim_type\":\"raw_medium\",\"claim_value\":\"publisher\",\"source\":\"rss_met" ++
         "adata\",\"extraction_path\":\"feed.raw_medium\",\"observed_at\":2\x7d]\x7d"),
      (.trackRemoved { trackGuid := "t1", feedGuid := sampleGuid },
       "\x7b\"track_guid\":\"t1\",\"feed_guid\":\"3908aa83-eed0-5818-a220-bbc8523ee34f\"" ++
         "\x7d"),
      (.trackRemoved { trackGuid := "t2", feedGuid := sampleGuid },
       "\x7b\"track_guid\":\"t2\",\"feed_guid\":\"3908aa83-eed0-5818-a220-bbc8523ee34f\"" ++
         "\x7d")]
  signatures :=
    [{ eventId := "bc"
       payload := .feedUpserted { feed := paidFeed "music" 2 1, reason := none }
       subjectGuid := sampleGuid
       createdAt := 1
       seq := 1
       signature :=
         "f19dd10744ed3ba1cf3c45b7c358df656d161d41e135135dc0d14e4b480ef91eda7e920d6878ee66" ++
           "f5ff8450bc0e2bbe8a2f54fbe156d42a750068b528dc4d04" },
      { eventId := "bc0"
        payload := paidFeedRoutes
        subjectGuid := sampleGuid
        createdAt := 1
        seq := 2
        signature :=
          "64dfb7aa2b9a45088170a47ba14fd50fb46388581dd3c96d9618c31e368670dcf5574a4d65aa8fbd" ++
            "caf2a3210afe761177a8a77274a47e1b901d0b4c07950500" },
      { eventId := "bc00"
        payload := paidClaims "music" 1
        subjectGuid := sampleGuid
        createdAt := 1
        seq := 3
        signature :=
          "85ce778f840c1733a81b724451ec9988b3f5c53b5e5cc42d31238f2d2c178a09f13229bc1074df76" ++
            "e2dd9176f0bf19e48545fba4e0105b2f2163fb19a444e106" },
      { eventId := "bc000"
        payload := paidUpserted "t1" [("", 1), ("b", 99)]
        subjectGuid := "t1"
        createdAt := 1
        seq := 4
        signature :=
          "b04ed97316941287070f28affb3016249a07e51d3f342e137c746ebe116adda793b00658e2f9df57" ++
            "64901f6b2226915d6addbc80d0f8a3512448b0d2c63d140e" },
      { eventId := "bc0000"
        payload := paidUpserted "t2" []
        subjectGuid := "t2"
        createdAt := 1
        seq := 5
        signature :=
          "ac802f9929dedf1ec247b745d15703c4ff4fd783d38276887528e2bbd1d86b045c96d168bbeea4db" ++
            "41372cc91e84d44c818892d129a39cb741e2f9c1ca49e80e" },
      { eventId := "bu"
        payload := runObserved sampleUrl sampleGuid 1
        subjectGuid := sampleGuid
        createdAt := 1
        seq := 6
        signature :=
          "402fd66b0ccf26c1f9b5275a07a290fc6835fe7d9f5f8ade8279edad6f290c1bd9850510b6ba5276" ++
            "303d405c1e1079bbd2884c054ee2be36e82610e7db1a240b" },
      { eventId := "dc"
        payload := .feedUpserted { feed := paidFeed "publisher" 0 2, reason := none }
        subjectGuid := sampleGuid
        createdAt := 2
        seq := 7
        signature :=
          "a6a88f46deaecd24303679ecf010ab916c06feb935c90105944e41be91e6991d769da1662cd5eaff" ++
            "89b41fd053e6a7d5d91ac75011892c69bd258d358bc6b60b" },
      { eventId := "dc0"
        payload := paidAlbumItems
        subjectGuid := sampleGuid
        createdAt := 2
        seq := 8
        signature :=
          "b6cd638c59e68196b2cdcf9bb7b4495d74c1192d731bbeaab27bf2e57d522d4e5934d6ad58b87858" ++
            "6d8907562135205ba08b3fea049fc81bfcef70a87febb209" },
      { eventId := "dc00"
        payload := paidClaims "publisher" 2
        subjectGuid := sampleGuid
        createdAt := 2
        seq := 9
        signature :=
          "a79bf2b2e1ecff94e617ecab7ff5a5ca2da9c7692ae59efa8ea0ebb80ecdddab3ef3025d20e74af4" ++
            "67f3247bb1361fddbc89be3b7035c651496effb8d3488e02" },
      { eventId := "dx"
        payload := .trackRemoved { trackGuid := "t1", feedGuid := sampleGuid }
        subjectGuid := "t1"
        createdAt := 2
        seq := 10
        signature :=
          "d4eb16a59113a3bbd0321e8fda64595935f4b9afaf8e04d9d4d4b0d634f3a09f6ba4da968f33b1a0" ++
            "f5dc3165bfd6304ed5bace36d395fc137731860e7e78b607" },
      { eventId := "dx0"
        payload := .trackRemoved { trackGuid := "t2", feedGuid := sampleGuid }
        subjectGuid := "t2"
        createdAt := 2
        seq := 11
        signature :=
          "634f97a11ee9cb33ffaf7caaba26e05b36b9549db12cec7c8940ac2ad53e516639cb607f1c1cad0c" ++
            "b7add74a317ee97e4ed4a131203fe6876dcb62abb5770409" }]

/-- The libraries on the values of the run, with the rowids of its two tracks. -/
@[reducible] def paidPlatform : Platform :=
  { paidRecording.platform with
    rowidFor := fun entityType entityId =>
      if entityId == canonicalTrackEntityId sampleGuid "t1" then 6149353348699569816
      else if entityId == canonicalTrackEntityId sampleGuid "t2" then 1752700144468463376
      else paidRecording.platform.rowidFor entityType entityId }

section Sample

attribute [local instance] paidPlatform

def nodeRoute (address : String) (split : Int) : IngestPaymentRoute where
  recipientName := none
  routeType := .node
  address := address
  customKey := none
  customValue := none
  split := split
  fee := false

/-- The first track has routes of its own, one of them of no use, and the second one has none. -/
def paidBody : IngestFeedData :=
  { sampleBody sampleGuid [] with
    rawMedium := some "music"
    feedPaymentRoutes := [nodeRoute "a" 100]
    tracks :=
      [{ sampleItem "t1" none with paymentRoutes := [nodeRoute "" 1, nodeRoute "b" 99] },
        sampleItem "t2" none] }

def paidRequest : IngestFeedRequest := runRequest sampleUrl sampleUrl [] paidBody

/-- The only text of the run that is read as a UUID. -/
def isSampleUuid (text : String) : Bool := text == sampleGuid

def paidChain : VerifierChain where
  crawlToken := "t"
  verifiers := [contentHashVerifier, mediumMusicVerifier, feedGuidVerifier isSampleUuid,
    v4vPaymentVerifier, enclosureTypeVerifier]

theorem paidChain_default :
    buildChain isSampleUuid (chainNames defaultChainNames) "t" = some paidChain := by
  rw [chainNames_default]
  rfl

def paidEnv : IngestEnv := { paidRecording.env 'b' 1 with chain := paidChain }

/-- What the submission answers, and the state after it. -/
def paidRun : Except ApiError IngestOutput × Db :=
  handleIngestFeed paidEnv (Database.empty schema) paidRequest (Database.empty schema)

theorem paidRun_accepted :
    paidRun.1.toOption.any (·.response.accepted) = true ∧
      readPhase paidEnv (Database.empty schema) paidRequest = .verified [] ∧
      (getTracksForFeed paidRun.2 sampleGuid).map Track.trackGuid = ["t1", "t2"] := by
  decide +kernel

theorem ingest_tracksPayable_sample :
    (getTracksForFeed paidRun.2 sampleGuid).map Track.trackGuid = ["t1", "t2"] ∧
      ∀ track ∈ getTracksForFeed paidRun.2 sampleGuid,
        ∃ r ∈ effectiveRoutes paidRun.2 track.feedGuid track.trackGuid, r.Payable := by
  obtain ⟨haccepted, hphase, htracks⟩ := paidRun_accepted
  have hrun : handleIngestFeed paidEnv (Database.empty schema) paidRequest
    (Database.empty schema) = paidRun := rfl
  -- the state of the run is not computed again
  generalize paidRun = run at haccepted htracks hrun ⊢
  obtain ⟨result, e⟩ := run
  refine ⟨htracks, ?_⟩
  cases result with
  | error err => cases haccepted
  | ok out =>
    apply (ingest_tracksPayable paidChain_default hrun haccepted rfl (by decide)).2
    rw [hphase]
    simp

/-- The feed is a publisher now, with an album: its tracks are gone, and its route is the same. -/
def publisherBody : IngestFeedData :=
  { paidBody with
    rawMedium := some "publisher"
    tracks := []
    remoteItems :=
      [{ position := 0
         medium := some "music"
         remoteFeedGuid := "f1"
         remoteFeedUrl := none
         rel := none
         itemGuid := none
         itemTitle := none
         publisherReference := false }] }

def publisherRequest : IngestFeedRequest :=
  { runRequest sampleUrl sampleUrl [] publisherBody with contentHash := "i" }

def publisherEnv : IngestEnv := { paidRecording.env 'd' 2 with chain := paidChain }

def payingIngest : Operation := .ingest paidEnv (Database.empty schema) paidRequest

def paidDb : Db := payingIngest.next (Database.empty schema)

def becomingPublisher : Operation := .ingest publisherEnv paidDb publisherRequest

def publisherDb : Db := becomingPublisher.next paidDb

end Sample

end Stophammer
