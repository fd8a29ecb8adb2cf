import Stophammer.SearchIndex
import Stophammer.TrackPayments

/-!
# The search index in a run

Each operation of a primary keeps the index exact: a content gives it the text of its feed and
tracks, a delete takes its entities, and no other write changes a text.
-/

namespace Stophammer

open Relational Statement

section

variable [Platform] {d e : Db} {x : Entity} {guid feedGuid trackGuid : String} {K : Set Entity}
  {m : Entity → Option IndexText}

omit [Platform] in
theorem updateFeeds_facts {p : FeedRow → Bool} {f : FeedRow → FeedRow}
    (hf : ∀ r, (f r).feed.feedGuid = r.feed.feedGuid ∧ (f r).feed.indexFacts = r.feed.indexFacts)
    (hrun : update (S := schema) .feeds p f d = (.ok (), e)) :
    (getFeedByGuid e guid).map Feed.indexFacts = (getFeedByGuid d guid).map Feed.indexFacts := by
  have hfind : ∀ s : Db, (getFeedByGuid s guid).map Feed.indexFacts =
      (((s .feeds).map fun r : FeedRow => (r.feed.feedGuid, r.feed.indexFacts)).find? fun q =>
        q.1 == guid).map Prod.snd := by
    intro s
    rw [List.find?_map, Option.map_map, getFeedByGuid, Option.map_map]
    rfl
  rw [hfind, hfind, modify_ok_rows (S := schema) hrun, List.map_map]
  congr 2
  apply List.map_congr_left
  intro r _
  rw [Function.comp_apply]
  split
  · rw [(hf r).1, (hf r).2]
  · rfl

theorem updateFeeds_indexed {p : FeedRow → Bool} {f : FeedRow → FeedRow}
    (hf : ∀ r, (f r).feed.feedGuid = r.feed.feedGuid ∧ (f r).feed.indexFacts = r.feed.indexFacts) :
    Steps (Keeps (Indexed K)) (update (S := schema) .feeds p f) := by
  intro d
  rcases hrun : update (S := schema) .feeds p f d with ⟨err | ⟨⟩, e⟩
  · rw [modify_error_state hrun]
    exact id
  · have hwrites : Writes (S := schema) [Table.feeds] (update (S := schema) .feeds p f) :=
      Writes.update (by decide)
    intro h
    apply h.of_facts
    · exact fun guid => updateFeeds_facts hf hrun
    · exact fun _ _ => by rw [getTrackForFeed_congr ((hwrites .tracks (by decide)).run hrun)]
    · exact (hwrites .searchEntities (by decide)).run hrun
    · exact (hwrites .searchIndex (by decide)).run hrun

theorem patchTrack_indexed {feedGuid trackGuid newUrl : String} :
    Steps (Keeps (Indexed K)) (update (S := schema) .tracks
      (fun r : Track => r.feedGuid == feedGuid && r.trackGuid == trackGuid)
      (fun r : Track => { r with enclosureUrl := some newUrl })) := by
  intro d
  rcases hrun : update (S := schema) .tracks
      (fun r : Track => r.feedGuid == feedGuid && r.trackGuid == trackGuid)
      (fun r : Track => { r with enclosureUrl := some newUrl }) d with ⟨err | ⟨⟩, e⟩
  · rw [modify_error_state hrun]
    exact id
  · have hwrites : Writes (S := schema) [Table.tracks] (update (S := schema) .tracks
        (fun r : Track => r.feedGuid == feedGuid && r.trackGuid == trackGuid)
        (fun r : Track => { r with enclosureUrl := some newUrl })) := Writes.update (by decide)
    intro h
    apply h.of_facts
    · intro guid
      rw [getFeedByGuid, (hwrites .feeds (by decide)).run hrun]
      rfl
    · intro feedGuid' trackGuid'
      have hfind : ∀ s : Db, (getTrackForFeed s feedGuid' trackGuid').map Track.indexText =
          (((s .tracks).map fun r : Track => ((r.feedGuid, r.trackGuid), r.indexText)).find?
            fun q => q.1.1 == feedGuid' && q.1.2 == trackGuid').map Prod.snd := by
        intro s
        rw [List.find?_map, Option.map_map, getTrackForFeed]
        rfl
      rw [hfind, hfind, modify_ok_rows (S := schema) hrun, List.map_map]
      congr 2
      apply List.map_congr_left
      intro r _
      rw [Function.comp_apply]
      split
      · rfl
      · rfl
    · exact (hwrites .searchEntities (by decide)).run hrun
    · exact (hwrites .searchIndex (by decide)).run hrun

section Contents

variable (hinj : K.InjOn Entity.rowid)

include hinj

theorem removeStaleTracks_holds {stale : List String} (h : IndexHolds K m d)
    (hstale : ∀ trackGuid ∈ stale, Entity.track guid trackGuid ∈ K)
    (hgone : ∀ x, x.feedGuid = guid → ¬x.Known d → m x = none)
    (hrun : forEach (removeStaleTrack guid) stale d = (.ok (), e)) :
    ∃ m', IndexHolds K m' e ∧ (∀ x, x.feedGuid = guid → ¬x.Known e → m' x = none) ∧
      ∀ x, x.feedGuid ≠ guid → m' x = m x := by
  induction stale generalizing d m with
  | nil =>
    cases hrun
    exact ⟨m, h, hgone, fun _ _ => rfl⟩
  | cons trackGuid stale ih =>
    rw [forEach_cons] at hrun
    obtain ⟨_, s, hfirst, hrest⟩ := bind_ok hrun
    have hlater : ∀ trackGuid' ∈ stale, Entity.track guid trackGuid' ∈ K :=
      fun trackGuid' hmem => hstale trackGuid' (List.mem_cons_of_mem _ hmem)
    unfold removeStaleTrack at hfirst
    rw [read_bind_run] at hfirst
    cases htrack : getTrackForFeed d guid trackGuid with
    | none =>
      rw [htrack] at hfirst
      cases hfirst
      exact ih h hlater hgone hrest
    | some track =>
      rw [htrack] at hfirst
      have hremoved := deleteTrackSql_holds hinj h (hstale trackGuid List.mem_cons_self) hfirst
      obtain ⟨m', hholds, hgone', hother⟩ := ih hremoved hlater (by
        intro x hguid hunknown
        by_cases hsame : x = .track guid trackGuid
        · rw [hsame, Function.update_self]
        · rw [Function.update_of_ne hsame]
          apply hgone x hguid
          intro hknown
          apply hunknown
          have hfeeds : ∀ guid, getFeedByGuid s guid = getFeedByGuid d guid := by
            intro guid
            rw [getFeedByGuid, (deleteTrackSql_writes .feeds (by decide)).run hfirst]
            rfl
          cases x with
          | feed feedGuid | publisher feedGuid =>
            rwa [Entity.Known, hfeeds]
          | track feedGuid' trackGuid' =>
            have hkey : ¬Key.track feedGuid' trackGuid' = .track guid trackGuid := by
              simpa using hsame
            rwa [Entity.Known, deleteTrackSql_lookup hfirst, if_neg hkey]) hrest
      refine ⟨m', hholds, hgone', fun x hne => ?_⟩
      rw [hother x hne]
      refine Function.update_of_ne ?_ ..
      rintro rfl
      exact hne rfl

def IngestContent.entities (c : IngestContent) : List Entity :=
  .feed c.feed.feedGuid :: .publisher c.feed.feedGuid ::
    c.tracks.map fun t => .track c.feed.feedGuid t.track.trackGuid

omit hinj in
theorem ingestTransaction_entities {env : PrimaryEnv} {removalUuid : Nat → String}
    {c : IngestContent} {eventRows : List EventRow} {feedMove : Option FeedMoveWrite}
    {seqs : List (Int × String × String)}
    (htracks : ∀ t ∈ c.tracks, t.OfFeed c.feed.feedGuid)
    (hrun : ingestTransaction env removalUuid c eventRows feedMove d = (.ok seqs, e))
    (hguid : x.feedGuid = c.feed.feedGuid) (hknown : x.Known e) : x ∈ c.entities := by
  cases x with
  | feed feedGuid =>
    obtain rfl : feedGuid = c.feed.feedGuid := hguid
    exact List.mem_cons_self
  | publisher feedGuid =>
    obtain rfl : feedGuid = c.feed.feedGuid := hguid
    exact List.mem_cons_of_mem _ List.mem_cons_self
  | track feedGuid trackGuid =>
    obtain rfl : feedGuid = c.feed.feedGuid := hguid
    rw [Entity.Known, ingestTransaction_lookup (fun t ht => (htracks t ht).track) hrun] at hknown
    split at hknown
    · rename_i hin
      obtain ⟨t, ht, rfl⟩ := hin
      exact List.mem_cons_of_mem _ (List.mem_cons_of_mem _ (List.mem_map.mpr ⟨t, ht, rfl⟩))
    · cases hknown

omit [Platform] hinj in
theorem writeTracks_gone {c : IngestContent} {s : Db}
    (htracks : ∀ t ∈ c.tracks, t.OfFeed c.feed.feedGuid) (hbefore : s .tracks = d .tracks)
    (hrun : forEach writeTrack c.tracks s = (.ok (), e))
    (hfeed : (getFeedByGuid e c.feed.feedGuid).isSome) (hguid : x.feedGuid = c.feed.feedGuid)
    (hunknown : ¬x.Known e) : indexed d x = none := by
  cases x with
  | feed feedGuid | publisher feedGuid =>
    obtain rfl : feedGuid = c.feed.feedGuid := hguid
    exact absurd hfeed hunknown
  | track feedGuid trackGuid =>
    obtain rfl : feedGuid = c.feed.feedGuid := hguid
    apply indexed_of_not_known
    rw [Entity.Known, writeTracks_lookup (fun t ht => (htracks t ht).track) hrun,
      getTrackForFeed_congr hbefore] at hunknown
    intro hknown
    apply hunknown
    by_cases hnamed : ∃ t ∈ c.tracks, t.track.trackGuid = trackGuid
    · exact writtenTrack_isSome hnamed
    · rw [writtenTrack_absent fun t ht hsame => hnamed ⟨t, ht, hsame⟩]
      exact hknown

theorem ingestTransaction_indexed {env : PrimaryEnv} {removalUuid : Nat → String}
    {c : IngestContent} {eventRows : List EventRow} {feedMove : Option FeedMoveWrite}
    {seqs : List (Int × String × String)} (hc : c.OfFeed)
    (htracks : ∀ t ∈ c.tracks, t.OfFeed c.feed.feedGuid) (hnames : ∀ x ∈ c.entities, x ∈ K)
    (h : Indexed K d)
    (hrun : ingestTransaction env removalUuid c eventRows feedMove d = (.ok seqs, e)) :
    Indexed K e := by
  have hview := (ingestTransaction_shared hc htracks hrun).1
  have hnamed : ∀ x : Entity, x.feedGuid = c.feed.feedGuid → x.Known e → x ∈ K :=
    fun x hguid hknown => hnames x (ingestTransaction_entities htracks hrun hguid hknown)
  have hsteps := transaction_ok.mp hrun
  obtain ⟨_, d₁, hrow, hsteps⟩ := bind_ok hsteps
  obtain ⟨_, d₂, hsets, hsteps⟩ := bind_ok hsteps
  obtain ⟨stale, d₂', hstale, hsteps⟩ := bind_ok hsteps
  cases hstale
  obtain ⟨_, d₃, hwritten, hsteps⟩ := bind_ok hsteps
  obtain ⟨_, d₄, hremoved, hsteps⟩ := bind_ok hsteps
  obtain ⟨seqs', d₅, hevents, hsteps⟩ := bind_ok hsteps
  obtain ⟨_, d₆, hsync, hsteps⟩ := bind_ok hsteps
  have hlast : SameOutside (S := schema) [Table.feedLeftUrls, .feedMoveState] d₆ e := by
    cases feedMove with
    | none =>
      cases hsteps
      exact fun _ _ => rfl
    | some mv =>
      obtain ⟨_, d₇, hmove, hpure⟩ := bind_ok hsteps
      cases hpure
      exact (writeFeedMove_writes.sameOutside (List.Subset.refl _)).run hmove
  have hmodels : SameOutside (S := schema) readModelTables d₅ d₆ :=
    (syncSourceReadModelsForFeed_writes.sameOutside (List.Subset.refl _)).run hsync
  have hwrites : Writes (S := schema) trackSetTables (forEach writeTrack c.tracks) :=
    Writes.forEach fun _ => writeTrack_writes
  have hfeedsSame : e .feeds = d₅ .feeds := by
    rw [hlast .feeds (by decide), hmodels .feeds (by decide)]
  -- what the sync reads is what the transaction leaves
  have hrecords : indexed e = indexed d₅ ∧ ∀ x : Entity, x.Known e ↔ x.Known d₅ := by
    apply indexed_of_tables hfeedsSame
    rw [hlast .tracks (by decide), hmodels .tracks (by decide)]
  have hlogged : indexed d₅ = indexed d₄ ∧ ∀ x : Entity, x.Known d₅ ↔ x.Known d₄ := by
    apply indexed_of_tables
    · exact (insertEvents_writes .feeds (by decide)).run hevents
    · exact (insertEvents_writes .tracks (by decide)).run hevents
  obtain ⟨feed, hfeed⟩ : ∃ feed, getFeedByGuid e c.feed.feedGuid = some feed := by
    have hshared := congrFun (congrArg SharedContent.feeds hview) c.feed.feedGuid
    have hsome : (getFeedByGuid e c.feed.feedGuid).map Feed.shared = some c.feed.shared :=
      hshared.trans (Function.update_self ..)
    obtain ⟨feed, hfeed, -⟩ := Option.map_eq_some_iff.mp hsome
    exact ⟨feed, hfeed⟩
  have hfeed₅ : getFeedByGuid d₅ c.feed.feedGuid = some feed := by
    rw [getFeedByGuid, ← hfeedsSame]
    exact hfeed
  have hbefore : IndexHolds K (indexed d) d₃ := by
    apply h.holds.congr
    · rw [(hwrites .searchEntities (by decide)).run hwritten,
        (replaceFeedSets_writes .searchEntities (by decide)).run hsets,
        (writeFeed_writes .searchEntities (by decide)).run hrow]
    · rw [(hwrites .searchIndex (by decide)).run hwritten,
        (replaceFeedSets_writes .searchIndex (by decide)).run hsets,
        (writeFeed_writes .searchIndex (by decide)).run hrow]
  have htracks₂ : d₂ .tracks = d .tracks := by
    rw [(replaceFeedSets_writes .tracks (by decide)).run hsets,
      (writeFeed_writes .tracks (by decide)).run hrow]
  have hfeeds₃ : d₃ .feeds = d₅ .feeds := by
    have hremoves : Writes (S := schema) trackDeleteTables
        (forEach (removeStaleTrack c.feed.feedGuid)
          (orderBy (compareOn env.hashRank) (staleTrackGuids d₂ c))) :=
      Writes.forEach fun _ => removeStaleTrack_writes
    rw [(insertEvents_writes .feeds (by decide)).run hevents,
      (hremoves .feeds (by decide)).run hremoved]
  have hsome : (getFeedByGuid d₃ c.feed.feedGuid).isSome := by
    rw [getFeedByGuid, hfeeds₃]
    change (getFeedByGuid d₅ c.feed.feedGuid).isSome
    rw [hfeed₅]
    rfl
  obtain ⟨m, hholds, hgone, hother⟩ := removeStaleTracks_holds hinj hbefore
    (fun trackGuid hmem => by
      have hmem := List.mem_of_mem_filter ((orderBy_perm _ _).mem_iff.mp hmem)
      obtain ⟨track, htrack, rfl⟩ := List.mem_map.mp hmem
      obtain ⟨hstored, hguid⟩ := List.mem_filter.mp htrack
      rw [htracks₂] at hstored
      apply h.known
      rw [← beq_iff_eq.mp hguid, Entity.Known, getTrackForFeed_of_mem hstored]
      rfl)
    (fun x => writeTracks_gone htracks htracks₂ hwritten hsome) hremoved
  have hsynced := syncSource_holds hinj
    (hholds.congr ((insertEvents_writes .searchEntities (by decide)).run hevents)
      ((insertEvents_writes .searchIndex (by decide)).run hevents)) hfeed₅
    (fun x hguid hknown => hnamed x hguid ((hrecords.2 x).mpr hknown))
    (fun x hguid hunknown => hgone x hguid fun hknown => hunknown ((hlogged.2 x).mpr hknown)) hsync
  have hsame : ∀ x : Entity, x.feedGuid ≠ c.feed.feedGuid →
      indexed e x = indexed d x ∧ (x.Known e ↔ x.Known d) := fun x hne =>
    indexed_sameFeed ((ingestTransaction_sameFeed hne hc htracks).run hrun)
  have hmap : indexed e = fun x => if x.feedGuid = c.feed.feedGuid then indexed d₅ x else m x := by
    funext x
    split
    · rw [hrecords.1]
    · rename_i hne
      rw [(hsame x hne).1, hother x hne]
  refine ⟨fun x hknown => ?_, ?_⟩
  · by_cases hguid : x.feedGuid = c.feed.feedGuid
    · exact hnamed x hguid hknown
    · exact h.known x ((hsame x hguid).2.mp hknown)
  · rw [hmap]
    exact hsynced.congr (hlast .searchEntities (by decide)) (hlast .searchIndex (by decide))

omit [Platform] hinj in
/-- The submissions of the operation bring entities of `K` only. -/
def Operation.Brings (K : Set Entity) : Operation → Prop
  | .ingest _ _ req => ∀ body, req.feedData = some body →
      .feed body.feedGuid ∈ K ∧ .publisher body.feedGuid ∈ K ∧
        ∀ t ∈ bodyTracks body, .track body.feedGuid t.trackGuid ∈ K
  | _ => True

theorem Operation.keepsIndexed {operation : Operation} (hbrings : operation.Brings K) :
    Keeps (Indexed K) d (operation.next d) := by
  apply operation.record_steps_at
  · exact fun s t hsame hs => hs.congr fun u hu => hsame u (by revert hu; cases u <;> decide)
  · intro p f hf
    apply updateFeeds_indexed
    intro r
    rw [hf]
    exact ⟨rfl, rfl⟩
  · intro guid newUrl
    apply updateFeeds_indexed
    exact fun _ => ⟨rfl, rfl⟩
  · intro s guid feed hfeed hs
    obtain ⟨⟨⟩, t, hrun⟩ := deleteFeedSql_ends guid s
    rw [hrun]
    exact deleteFeedSql_indexed hinj hfeed hs hrun
  · rintro env guid trackGuid -
    unfold handleRemoveTrack
    rw [read_bind_run]
    cases htrack : getTrackForFeed d guid trackGuid with
    | none => exact id
    | some track =>
      have hsign : ∀ row, Steps (Keeps (Indexed K)) (signEventRow env.signer row) := by
        intro row s hs
        exact hs.congr fun u hu =>
          signEventRow_writes u (by revert hu; cases u <;> decide) s
      apply Steps.after
      · apply Steps.mapError_at
        apply Steps.transaction_at
        apply Steps.after
        · intro h
          obtain ⟨⟨⟩, s, hrun⟩ := deleteTrackSql_ends guid trackGuid d
          rw [hrun]
          exact deleteTrackSql_indexed hinj htrack h hrun
        · exact fun _ s _ => hsign _ s
      · intro signed s _
        exact (fanoutEvent_steps.bind fun _ => .pure _ : Steps (Keeps (Indexed K)) _) s
  · exact fun _ _ _ _ _ _ _ => patchTrack_indexed d
  · rintro env snapshot req body rfl hreach s recordMove eventRows
    obtain ⟨hfeed, hpublisher, htracks⟩ := hbrings body hreach.carries
    intro u
    rcases hrun : ingestTransaction env.toPrimaryEnv (env.uuid .staleTracks)
      (buildInput env req body s recordMove).content eventRows (recordMove.map (feedMoveWrite body)) u
      with ⟨err | seqs, t⟩
    · rw [transaction_error hrun]
      exact id
    · refine fun h => ingestTransaction_indexed hinj BuildInput.content_ofFeed
        BuildInput.tracks_ofFeed ?_ h hrun
      intro x hx
      simp only [IngestContent.entities, List.mem_cons, List.mem_map] at hx
      rcases hx with rfl | rfl | ⟨bundle, hbundle, rfl⟩
      · exact hfeed
      · exact hpublisher
      · obtain ⟨t, ht, rfl⟩ := List.mem_map.mp hbundle
        exact htracks t ht

/-- In every run whose submissions bring entities of different rowids, the index has the current
text of each music feed, publisher feed and track of a music feed, and no other row. -/
theorem run_indexed {history : List RunStep}
    (hrun : PrimaryRun (fun _ operation => operation.Brings K) history d) :
    Stores (fun x _ => x.entityRow) (indexed d) (d .searchEntities) ∧
      Stores Entity.indexRow (indexed d) (d .searchIndex) := by
  have hindexed : Indexed K d := by
    apply hrun.keeps
    · have hunknown : ∀ x : Entity, ¬x.Known (Database.empty schema) := by
        intro x hx
        cases x <;> cases hx
      have hnone : indexed (Database.empty schema) = fun _ => none := by
        funext x
        exact indexed_of_not_known (hunknown x)
      refine ⟨fun x hx => absurd hx (hunknown x), ?_⟩
      rw [hnone]
      exact ⟨stores_nil, stores_nil, fun _ _ h => by cases h⟩
    · exact fun d operation hbrings => operation.keepsIndexed hinj hbrings
  exact ⟨hindexed.holds.entities, hindexed.holds.texts⟩

end Contents

end

section Sample

attribute [local instance] paidPlatform

/-- What the two submissions of the sample bring. -/
def paidEntities : List Entity :=
  [.feed sampleGuid, .publisher sampleGuid, .track sampleGuid "t1", .track sampleGuid "t2"]

/-- The music feed and its tracks leave the index when the feed becomes a publisher. -/
theorem publisherDb_indexed :
    (paidEntities.map fun x => (indexed paidDb x).isSome) = [true, false, true, true] ∧
      (paidEntities.map fun x => (indexed publisherDb x).isSome) = [false, true, false, false] ∧
        (publisherDb .searchEntities).length = 1 := by
  decide +kernel

theorem run_indexed_publisherDb :
    Stores (fun x _ => x.entityRow) (indexed publisherDb) (publisherDb .searchEntities) ∧
      Stores Entity.indexRow (indexed publisherDb) (publisherDb .searchIndex) ∧
        (paidEntities.map fun x => (indexed publisherDb x).isSome) = [false, true, false, false] ∧
          (publisherDb .searchEntities).length = 1 := by
  have hfacts := publisherDb_indexed.2
  have hinj : Set.InjOn Entity.rowid {x | x ∈ paidEntities} := by
    have hall : ∀ x ∈ paidEntities, ∀ y ∈ paidEntities, x.rowid = y.rowid → x = y := by
      decide +kernel
    exact fun x hx y hy hsame => hall x hx y hy hsame
  have hbrings : payingIngest.Brings {x | x ∈ paidEntities} := by
    intro body hbody
    obtain rfl : paidBody = body := Option.some.inj hbody
    refine ⟨List.mem_cons_self, List.mem_cons_of_mem _ List.mem_cons_self, ?_⟩
    decide
  have hbringsLater : becomingPublisher.Brings {x | x ∈ paidEntities} := by
    intro body hbody
    obtain rfl : publisherBody = body := Option.some.inj hbody
    refine ⟨List.mem_cons_self, List.mem_cons_of_mem _ List.mem_cons_self, ?_⟩
    decide
  have hrun : PrimaryRun (fun _ operation => operation.Brings {x | x ∈ paidEntities}) _
      publisherDb :=
    .step becomingPublisher (.step payingIngest .empty hbrings) hbringsLater
  generalize publisherDb = d at hfacts hrun ⊢
  obtain ⟨hentities, htexts⟩ := run_indexed hinj hrun
  exact ⟨hentities, htexts, hfacts⟩

end Sample

end Stophammer
