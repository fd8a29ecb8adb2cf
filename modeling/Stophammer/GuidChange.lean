import Stophammer.Ingest.Outcome
import Stophammer.SampleRun

/-!
# A GUID change

The record of the old GUID leaves in one transaction, and the record of the new GUID comes
in with the next one.  What can stop the second transaction, after the first one has
committed, is a property of the body and of the other records.
-/

namespace Stophammer

open Relational Statement Database

theorem dedupeBy_eq_self {α κ : Type} [DecidableEq κ] {key : α → κ} {seen : List κ} {as : List α}
    (hnodup : (as.map key).Nodup) (hseen : ∀ a ∈ as, key a ∉ seen) : dedupeBy key seen as = as := by
  induction as generalizing seen with
  | nil => rfl
  | cons a as ih =>
    rw [List.map_cons, List.nodup_cons] at hnodup
    unfold dedupeBy
    rw [if_neg (hseen a (by simp)), ih hnodup.2]
    intro b hb hmem
    rcases List.mem_cons.mp hmem with hkey | hmem
    · exact hnodup.1 (hkey ▸ List.mem_map_of_mem hb)
    · exact hseen b (by simp [hb]) hmem

section Claims

variable {feedGuid entityType entityId : String} {now : Int}

theorem buildSourceContributorClaims_of {persons : List IngestPerson} :
    ∀ r ∈ buildSourceContributorClaims feedGuid entityType entityId now persons,
      r.feedGuid = feedGuid ∧ r.entityType = entityType := by
  intro r hr
  obtain ⟨_, -, rfl⟩ := List.mem_map.mp hr
  exact ⟨rfl, rfl⟩

theorem buildSourceEntityIdClaims_of {entityIds : List IngestEntityId} :
    ∀ r ∈ buildSourceEntityIdClaims feedGuid entityType entityId now entityIds,
      r.feedGuid = feedGuid ∧ r.entityType = entityType := by
  intro r hr
  obtain ⟨_, -, rfl⟩ := List.mem_map.mp hr
  exact ⟨rfl, rfl⟩

theorem buildSourceEntityLinks_of {links : List IngestLink} :
    ∀ r ∈ buildSourceEntityLinks feedGuid entityType entityId now links,
      r.feedGuid = feedGuid ∧ r.entityType = entityType := by
  intro r hr
  obtain ⟨_, -, rfl⟩ := List.mem_map.mp hr
  exact ⟨rfl, rfl⟩

theorem buildSourceItemEnclosures_of {url mimeType : Option String} {bytes : Option Int}
    {alternates : List IngestAlternateEnclosure} :
    ∀ r ∈ buildSourceItemEnclosures feedGuid entityType entityId now url mimeType bytes alternates,
      r.feedGuid = feedGuid ∧ r.entityType = entityType := by
  intro r hr
  rcases List.mem_append.mp hr with hr | hr
  · obtain ⟨_, -, rfl⟩ := List.mem_map.mp hr
    exact ⟨rfl, rfl⟩
  · obtain ⟨_, -, rfl⟩ := List.mem_map.mp hr
    exact ⟨rfl, rfl⟩

theorem buildSourceItemTranscripts_of {transcripts : List IngestTranscript} :
    ∀ r ∈ buildSourceItemTranscripts feedGuid entityType entityId now transcripts,
      r.feedGuid = feedGuid ∧ r.entityType = entityType := by
  intro r hr
  obtain ⟨_, -, rfl⟩ := List.mem_map.mp hr
  exact ⟨rfl, rfl⟩

theorem sourceReleaseClaim_of {claimType extractionPath : String} {claimValue : Option String} :
    ∀ r ∈ sourceReleaseClaim feedGuid entityType entityId now claimType claimValue extractionPath,
      r.feedGuid = feedGuid ∧ r.entityType = entityType := by
  intro r hr
  obtain ⟨_, -, rfl⟩ := List.mem_map.mp hr
  exact ⟨rfl, rfl⟩

end Claims

namespace BuildInput

variable {i : BuildInput}

theorem forall_perEntity {α : Type} {ofFeed : List α} {ofTrack : IngestTrackData → List α}
    {ofLiveItem : IngestLiveItemData → List α} {p : α → Prop} (hfeed : ∀ a ∈ ofFeed, p a)
    (htrack : ∀ t, ∀ a ∈ ofTrack t, p a) (hlive : ∀ l, ∀ a ∈ ofLiveItem l, p a) :
    ∀ a ∈ i.perEntity ofFeed ofTrack ofLiveItem, p a := by
  intro a ha
  rcases List.mem_append.mp ha with ha | ha
  · rcases List.mem_append.mp ha with ha | ha
    · exact hfeed a ha
    · obtain ⟨t, -, ha⟩ := List.mem_flatMap.mp ha
      exact htrack t a ha
  · obtain ⟨l, -, ha⟩ := List.mem_flatMap.mp ha
    exact hlive l a ha

theorem feedReleaseClaims_of : ∀ r ∈ i.feedReleaseClaims,
    r.feedGuid = i.feedData.feedGuid ∧ r.entityType = "feed" := by
  intro r hr
  unfold feedReleaseClaims at hr
  simp only [List.mem_append] at hr
  rcases hr with (((((hr | hr) | hr) | hr) | hr) | hr) | hr <;>
    exact sourceReleaseClaim_of r hr

theorem itemReleaseClaims_of {entityType entityId : String} {pubDate : Option Int}
    {description : Option String} :
    ∀ r ∈ i.itemReleaseClaims entityType entityId pubDate description,
      r.feedGuid = i.feedData.feedGuid ∧ r.entityType = entityType := by
  intro r hr
  rcases List.mem_append.mp hr with hr | hr <;> exact sourceReleaseClaim_of r hr

variable [Platform]

theorem platformClaims_of : ∀ r ∈ i.content.sourcePlatformClaims,
    r.feedGuid = i.feedData.feedGuid := by
  intro r hr
  have hclaim := mem_of_mem_dedupeBy hr
  simp only [List.mem_append] at hclaim
  rcases hclaim with (hclaim | hclaim) | hclaim
  · obtain ⟨_, -, rfl⟩ := List.mem_map.mp hclaim
    rfl
  · obtain ⟨link, -, hlink⟩ := List.mem_filterMap.mp hclaim
    obtain ⟨_, -, rfl⟩ := Option.map_eq_some_iff.mp hlink
    rfl
  · rw [Option.mem_toList, Option.bind_eq_some_iff] at hclaim
    obtain ⟨_, -, hname⟩ := hclaim
    obtain ⟨_, -, rfl⟩ := Option.map_eq_some_iff.mp hname
    rfl

theorem content_ofFeed : i.content.OfFeed where
  feedRoutes := by
    intro r hr
    simp only [content] at hr
    split at hr
    · cases hr
    · obtain ⟨_, -, rfl⟩ := List.mem_map.mp hr
      rfl
  remoteItems := by
    intro r hr
    obtain ⟨_, -, rfl⟩ := List.mem_map.mp hr
    rfl
  feedListValues := by
    intro v hv
    simp only [content] at hv
    split at hv
    · obtain ⟨_, -, rfl⟩ := List.mem_map.mp hv
      rfl
    · cases hv
  liveEvents := by
    intro e he
    obtain ⟨_, -, rfl⟩ := List.mem_map.mp he
    rfl
  contributorClaims := by
    intro r hr
    refine forall_perEntity (i := i) (p := fun r : SourceContributorClaim =>
      r.feedGuid = i.feedData.feedGuid ∧ Table.check .sourceContributorClaims r = true)
      (fun r hr => ?_) (fun t r hr => ?_) (fun l r hr => ?_) r (mem_of_mem_dedupeBy hr)
    all_goals
      obtain ⟨hguid, htype⟩ := buildSourceContributorClaims_of r hr
      exact ⟨hguid, by simp [Table.check, htype]⟩
  entityIds := by
    intro r hr
    refine forall_perEntity (i := i) (p := fun r : SourceEntityIdClaim =>
      r.feedGuid = i.feedData.feedGuid ∧ Table.check .sourceEntityIds r = true)
      (fun r hr => ?_) (fun t r hr => ?_) (fun l r hr => ?_) r (mem_of_mem_dedupeBy hr)
    all_goals
      obtain ⟨hguid, htype⟩ := buildSourceEntityIdClaims_of r hr
      exact ⟨hguid, by simp [Table.check, htype]⟩
  entityLinks := by
    intro r hr
    refine forall_perEntity (i := i) (p := fun r : SourceEntityLink =>
      r.feedGuid = i.feedData.feedGuid ∧ Table.check .sourceEntityLinks r = true)
      (fun r hr => ?_) (fun t r hr => ?_) (fun l r hr => ?_) r (mem_of_mem_dedupeBy hr)
    all_goals
      obtain ⟨hguid, htype⟩ := buildSourceEntityLinks_of r hr
      exact ⟨hguid, by simp [Table.check, htype]⟩
  releaseClaims := by
    intro r hr
    refine forall_perEntity (i := i) (p := fun r : SourceReleaseClaim =>
      r.feedGuid = i.feedData.feedGuid ∧ Table.check .sourceReleaseClaims r = true)
      (fun r hr => ?_) (fun t r hr => ?_) (fun l r hr => ?_) r (mem_of_mem_dedupeBy hr)
    · obtain ⟨hguid, htype⟩ := feedReleaseClaims_of r hr
      exact ⟨hguid, by simp [Table.check, htype]⟩
    · obtain ⟨hguid, htype⟩ := itemReleaseClaims_of r hr
      exact ⟨hguid, by simp [Table.check, htype]⟩
    · obtain ⟨hguid, htype⟩ := itemReleaseClaims_of r hr
      exact ⟨hguid, by simp [Table.check, htype]⟩
  itemEnclosures := by
    intro r hr
    refine forall_perEntity (i := i) (p := fun r : SourceItemEnclosure =>
      r.feedGuid = i.feedData.feedGuid ∧ Table.check .sourceItemEnclosures r = true)
      (List.forall_mem_nil _) (fun t r hr => ?_) (fun l r hr => ?_) r (mem_of_mem_dedupeBy hr)
    all_goals
      obtain ⟨hguid, htype⟩ := buildSourceItemEnclosures_of r hr
      exact ⟨hguid, by simp [Table.check, htype]⟩
  itemTranscripts := by
    intro r hr
    refine forall_perEntity (i := i) (p := fun r : SourceItemTranscript =>
      r.feedGuid = i.feedData.feedGuid ∧ Table.check .sourceItemTranscripts r = true)
      (List.forall_mem_nil _) (fun t r hr => ?_) (fun l r hr => ?_) r (mem_of_mem_dedupeBy hr)
    all_goals
      obtain ⟨hguid, htype⟩ := buildSourceItemTranscripts_of r hr
      exact ⟨hguid, by simp [Table.check, htype]⟩
  platformClaims := platformClaims_of

theorem tracks_ofFeed : ∀ t ∈ i.content.tracks, t.OfFeed i.content.feed.feedGuid := by
  intro t ht
  obtain ⟨data, -, rfl⟩ := List.mem_map.mp ht
  refine ⟨rfl, fun s hs => ?_, fun r hr => ?_⟩
  · obtain ⟨_, -, rfl⟩ := List.mem_map.mp hs
    rfl
  · obtain ⟨_, -, rfl⟩ := List.mem_map.mp hr
    rfl

end BuildInput

/-- What they ask of a track of a body. -/
structure TrackDataFits (t : IngestTrackData) : Prop where
  routes : ∀ r ∈ t.paymentRoutes, 0 ≤ r.split
  splits : ∀ v ∈ t.valueTimeSplits, v.valid = true → ∀ r ∈ v.recipients, 0 ≤ r.split
  remoteItems : (t.remoteItems.map IngestRemoteFeedRef.position).Nodup

/-- What they ask of a body that takes the place of the record `heldGuid`. -/
structure SubmissionFits [Platform] (d : Db) (i : BuildInput) (heldGuid : String) : Prop where
  url : ∀ r : FeedRow, r ∈ d .feeds → r.feed.feedUrl = i.canonicalUrl → r.feed.feedGuid = heldGuid
  routes : ∀ r ∈ i.feedData.feedPaymentRoutes, 0 ≤ r.split
  remoteItems : (i.feedData.remoteItems.map IngestRemoteFeedRef.position).Nodup
  liveItems : ∀ item ∈ i.liveItems, item.status ∈ ["pending", "live", "ended"]
  tracks : ∀ t ∈ i.tracks, TrackDataFits t
  index : ∀ rowid, IndexedAt i.feedData.rawMedium i.feedData.feedGuid
    (i.tracks.map IngestTrackData.trackGuid) rowid → ¬ Stray d rowid

namespace BuildInput

variable {i : BuildInput}

theorem splits_fit {feedGuid trackGuid : String} {splits : List IngestValueTimeSplit} {now : Int} :
    (∀ s ∈ buildValueTimeSplits feedGuid trackGuid splits now, SplitFits s) ↔
      ∀ v ∈ splits, v.valid = true → ∀ r ∈ v.recipients, 0 ≤ r.split := by
  have hrecipients : ∀ v : IngestValueTimeSplit,
      (∀ r ∈ v.recipients.map IngestPaymentRoute.recipient, 0 ≤ r.split) ↔
        ∀ r ∈ v.recipients, 0 ≤ r.split := by
    intro v
    rw [List.forall_mem_map]
    rfl
  have hform : ∀ v : IngestValueTimeSplit, v.valid = true →
      v.form = .local ∨ v.remoteFeedGuid.isSome := by
    intro v hv
    cases hform : v.form with
    | «local» => exact .inl rfl
    | remote =>
      right
      rw [IngestValueTimeSplit.valid, hform, Bool.and_eq_true] at hv
      cases hguid : v.remoteFeedGuid with
      | none =>
        rw [hguid] at hv
        cases hv.1
      | some guid => rfl
  unfold buildValueTimeSplits
  rw [List.forall_mem_map]
  constructor
  · intro h v hv hvalid
    obtain ⟨index, hindex, rfl⟩ := List.getElem_of_mem hv
    have hmem : (splits[index], index) ∈ splits.zipIdx := by
      rw [List.mk_mem_zipIdx_iff_getElem?]
      exact List.getElem?_eq_getElem hindex
    have hfits := h (splits[index], index) (List.mem_filter.mpr ⟨hmem, hvalid⟩)
    exact (hrecipients _).mp hfits.2
  · rintro h ⟨v, index⟩ hv
    obtain ⟨hmem, hvalid⟩ := List.mem_filter.mp hv
    have hsplit : v ∈ splits := by
      rw [List.mk_mem_zipIdx_iff_getElem?] at hmem
      exact List.mem_of_getElem? hmem
    exact ⟨hform v hvalid, (hrecipients v).mpr (h v hsplit hvalid)⟩

theorem liveItems_nodup : (i.liveItems.map IngestLiveItemData.liveItemGuid).Nodup := by
  have hsub : i.liveItems.Sublist (dedupeBy IngestLiveItemData.liveItemGuid []
      (i.rawLiveItems.filter IngestLiveItemData.knownStatus)) :=
    List.filter_sublist.trans List.filter_sublist
  exact (dedupeBy_nodup [] _).1.sublist (hsub.map _)

variable [Platform]

theorem feedSets_fit : FeedSetsFit i.content ↔
    (∀ r ∈ i.feedData.feedPaymentRoutes, 0 ≤ r.split) ∧
      (i.feedData.remoteItems.map IngestRemoteFeedRef.position).Nodup ∧
        ∀ item ∈ i.liveItems, item.status ∈ ["pending", "live", "ended"] := by
  have hlive : dedupeLiveEvents i.content.liveEvents = i.liveItems.map i.liveEvent := by
    apply dedupeBy_eq_self _ fun _ _ => List.not_mem_nil
    rw [content, List.map_map]
    exact liveItems_nodup
  have hitems : i.content.remoteItems.map FeedRemoteItemRaw.position =
      i.feedData.remoteItems.map IngestRemoteFeedRef.position := by
    rw [content, List.map_map]
    rfl
  have hroutes : ((∀ r ∈ i.content.feedRoutes, 0 ≤ r.split) ∧
      ∀ v ∈ i.content.feedListValues, 0 ≤ v.split) ↔
        ∀ r ∈ i.feedData.feedPaymentRoutes, 0 ≤ r.split := by
    simp only [content]
    by_cases hmusicl : i.isMusicl = true
    · rw [if_pos hmusicl, if_pos hmusicl, and_iff_right (List.forall_mem_nil _),
        List.forall_mem_map]
      constructor
      · intro h r hr
        obtain ⟨index, hindex, rfl⟩ := List.getElem_of_mem hr
        refine h (i.feedData.feedPaymentRoutes[index], index) ?_
        rw [List.mk_mem_zipIdx_iff_getElem?]
        exact List.getElem?_eq_getElem hindex
      · rintro h ⟨r, index⟩ hr
        rw [List.mk_mem_zipIdx_iff_getElem?] at hr
        exact h r (List.mem_of_getElem? hr)
    · rw [if_neg hmusicl, if_neg hmusicl, and_iff_left (List.forall_mem_nil _),
        List.forall_mem_map]
      rfl
  rw [← hroutes]
  constructor
  · rintro ⟨hfeed, hvalues, hnodup, hstatus⟩
    rw [hlive, List.forall_mem_map] at hstatus
    exact ⟨⟨hfeed, hvalues⟩, hitems ▸ hnodup, hstatus⟩
  · rintro ⟨⟨hfeed, hvalues⟩, hnodup, hstatus⟩
    refine ⟨hfeed, hvalues, hitems ▸ hnodup, ?_⟩
    rw [hlive, List.forall_mem_map]
    exact hstatus

theorem trackBundle_fits {t : IngestTrackData} : TrackFits (i.trackBundle t) ↔ TrackDataFits t := by
  have hroutes : (∀ r ∈ (i.trackBundle t).routes, 0 ≤ r.split) ↔
      ∀ r ∈ t.paymentRoutes, 0 ≤ r.split := by
    rw [trackBundle, List.forall_mem_map]
    rfl
  have hitems : (i.trackBundle t).remoteItems.map TrackRemoteItemRaw.position =
      t.remoteItems.map IngestRemoteFeedRef.position := by
    rw [trackBundle, List.map_map]
    rfl
  constructor
  · rintro ⟨hr, hs, hn⟩
    exact ⟨hroutes.mp hr, splits_fit.mp hs, hitems ▸ hn⟩
  · rintro ⟨hr, hs, hn⟩
    exact ⟨hroutes.mpr hr, splits_fit.mpr hs, hitems ▸ hn⟩

end BuildInput

/-- The ids of the new events are all different, and the log has none of them. -/
structure FreshIds (env : IngestEnv) (d : Db) : Prop where
  injective : ∀ step index step' index',
    env.uuid step index = env.uuid step' index' → step = step' ∧ index = index'
  fresh : ∀ step index, hasEvent d (env.uuid step index) = false

section Drafts

def TakesId (draft : EventDraft) : Prop := ∀ eventId, (draft eventId).eventId = eventId

theorem assignIds_eventIds (uuid : Nat → String) {drafts : List EventDraft}
    (h : ∀ r ∈ drafts, TakesId r) :
    (assignIds uuid drafts).map EventRow.eventId = (List.range drafts.length).map uuid := by
  have hids : (assignIds uuid drafts).map EventRow.eventId =
      drafts.zipIdx.map fun p => uuid p.2 := by
    rw [assignIds, List.map_map]
    apply List.map_congr_left
    rintro ⟨draft, index⟩ hmem
    rw [List.mk_mem_zipIdx_iff_getElem?] at hmem
    exact h draft (List.mem_of_getElem? hmem) (uuid index)
  have hindices : drafts.zipIdx.map Prod.snd = List.range drafts.length := by
    rw [List.zipIdx_map_snd, List.range_eq_range']
  rw [hids, ← hindices, List.map_map]
  rfl

theorem FreshIds.rows {env : IngestEnv} {d e : Db} (h : FreshIds env d) {step : IngestStep}
    {drafts : List EventDraft} (hdrafts : ∀ r ∈ drafts, TakesId r)
    (hlog : ∀ index, hasEvent e (env.uuid step index) = false) :
    ((assignIds (env.uuid step) drafts).map EventRow.eventId).Nodup ∧
      ∀ row ∈ assignIds (env.uuid step) drafts, hasEvent e row.eventId = false := by
  have hids := assignIds_eventIds (env.uuid step) hdrafts
  constructor
  · rw [hids, List.nodup_map_iff fun _ _ hsame => (h.injective _ _ _ _ hsame).2]
    exact List.nodup_range
  · intro row hrow
    have hmem := List.mem_map_of_mem (f := EventRow.eventId) hrow
    rw [hids, List.mem_map] at hmem
    obtain ⟨index, -, hindex⟩ := hmem
    rw [← hindex]
    exact hlog index

end Drafts

section Transition

variable [Platform]

/-- A state of the transition: the record of the old GUID has left the feeds, and the log has
taken no id beside `ids`. -/
structure Retiring (d : Db) (oldGuid : String) (ids : List String) (e : Db) : Prop where
  feeds : e .feeds = (d .feeds).filter fun r : FeedRow => !(r.feed.feedGuid == oldGuid)
  stray : Stray e = Stray d
  log : ∀ id, hasEvent e id = true → hasEvent d id = true ∨ id ∈ ids

namespace Retiring

variable {d e : Db} {oldGuid : String} {ids : List String}

omit [Platform] in
theorem of_writes (h : Retiring d oldGuid ids e) {ts : List Table} {α : Type} {x : Stmt α}
    (hx : Writes (S := schema) ts x)
    (hts : ∀ t ∈ [Table.feeds, .searchIndex, .searchEntities, .events], t ∉ ts)
    {a : Except DbError α} {e' : Db} (hrun : x e = (a, e')) : Retiring d oldGuid ids e' where
  feeds := ((hx _ (hts .feeds (by simp))).run hrun).trans h.feeds
  stray := (stray_congr ((hx _ (hts .searchIndex (by simp))).run hrun)
    ((hx _ (hts .searchEntities (by simp))).run hrun)).trans h.stray
  log := by
    intro id hid
    rw [hasEvent, (hx _ (hts .events (by simp))).run hrun] at hid
    exact h.log id hid

omit [Platform] in
theorem sign (h : Retiring d oldGuid ids e) (signer : NodeSigner) (row : EventRow)
    (hfresh : hasEvent e row.eventId = false) :
    ∃ signed e', signEventRow signer row e = (.ok signed, e') ∧
      Retiring d oldGuid (row.eventId :: ids) e' := by
  obtain ⟨e', hinsert, hcontents⟩ := insertEvent_fresh signer hfresh
  refine ⟨_, e', by unfold signEventRow; rw [bind_run_ok hinsert]; rfl, ?_, ?_, ?_⟩
  · rw [hcontents, Contents.set_other (by decide)]
    exact h.feeds
  · rw [stray_congr (d := e), h.stray]
    · rw [hcontents, Contents.set_other (by decide)]
    · rw [hcontents, Contents.set_other (by decide)]
  · intro id hid
    rw [hasEvent, hcontents, Contents.set_same, List.any_append, Bool.or_eq_true] at hid
    rcases hid with hid | hid
    · rcases h.log id hid with hold | hmem
      · exact .inl hold
      · exact .inr (List.mem_cons_of_mem _ hmem)
    · right
      have hsame : row.eventId = id := by
        simpa [signedRow, EventRow.stored] using hid
      rw [hsame]
      exact List.mem_cons_self

omit [Platform] in
theorem fresh (h : Retiring d oldGuid ids e) {id : String} (hnew : hasEvent d id = false)
    (hid : id ∉ ids) : hasEvent e id = false := by
  rw [← Bool.not_eq_true]
  intro hseen
  rcases h.log id hseen with hold | hmem
  · rw [hnew] at hold
    cases hold
  · exact hid hmem

omit [Platform] in
theorem unindexed (h : Retiring d oldGuid ids e) {feedGuid : String}
    (hnone : getFeedByGuid d feedGuid = none) : getFeedByGuid e feedGuid = none := by
  rw [getFeedByGuid, Option.map_eq_none_iff, List.find?_eq_none] at hnone ⊢
  rw [h.feeds]
  exact fun r hr => hnone r (List.mem_of_mem_filter hr)

omit [Platform] in
theorem retired (h : Retiring d oldGuid ids e) : ¬ HasFeed oldGuid e := by
  rw [hasFeed_iff]
  rintro ⟨feed, hfeed⟩
  obtain ⟨r, hr, -⟩ := Option.map_eq_some_iff.mp hfeed
  have hmem := List.mem_of_find?_eq_some hr
  have hguid := List.find?_some hr
  rw [h.feeds, List.mem_filter] at hmem
  simp_all

end Retiring

theorem guidChangeTransition_run (signer : NodeSigner) {uuid : Nat → String}
    (oldGuid newGuid sourceUrl : String) (now : Int) {d : Db} (hinj : Function.Injective uuid)
    (hfresh : ∀ index, hasEvent d (uuid index) = false) :
    ∃ rows e, guidChangeTransition signer uuid oldGuid newGuid sourceUrl now d = (.ok rows, e) ∧
      Retiring d oldGuid [uuid 2, uuid 1, uuid 0] e := by
  have hne : ∀ {i j : Nat}, i ≠ j → uuid i ≠ uuid j := fun hij hsame => hij (hinj hsame)
  obtain ⟨_, d₁, hdelete⟩ := deleteFeedSql_ends oldGuid d
  have hretiring : Retiring d oldGuid [] d₁ := by
    refine ⟨deleteFeedSql_feeds hdelete, deleteFeedSql_stray.run hdelete, fun id hid => .inl ?_⟩
    rw [hasEvent, (deleteFeedSql_writes .events (by decide)).run hdelete] at hid
    exact hid
  obtain ⟨retired, d₂, hretired, h₂⟩ := hretiring.sign signer (eventDraft
    (.feedRetired { feedGuid := oldGuid, reason := some guidSupersededReason }) oldGuid now []
    (uuid 0)) (hretiring.fresh (hfresh 0) List.not_mem_nil)
  have hsupersede : Ends (insertGuidSupersession oldGuid newGuid sourceUrl now) :=
    (Ends.insertOrIgnore rfl).bind fun _ => Ends.pure ()
  have hsupersedeWrites : Writes (S := schema) [Table.feedGuidSupersessions]
      (insertGuidSupersession oldGuid newGuid sourceUrl now) :=
    (Writes.insertOrIgnore (by decide)).bind fun _ => Writes.pure ()
  obtain ⟨_, d₃, hinsert⟩ := hsupersede d₂
  have h₃ := h₂.of_writes hsupersedeWrites (by decide) hinsert
  obtain ⟨superseded, d₄, hsuperseded, h₄⟩ := h₃.sign signer (eventDraft
    (.feedGuidSuperseded { oldGuid := oldGuid, newGuid := newGuid, sourceUrl := sourceUrl })
    oldGuid now [] (uuid 1)) (h₃.fresh (hfresh 1) (by
      change uuid 1 ∉ [uuid 0]
      simpa using hne (show (1 : Nat) ≠ 0 by decide)))
  cases hchange : getGuidChange d₄ sourceUrl with
  | none =>
    refine ⟨[retired, superseded], d₄, transaction_ok.mpr ?_, h₄.feeds, h₄.stray, fun id hid => ?_⟩
    · rw [bind_run_ok hdelete, bind_run_ok hretired, bind_run_ok hinsert,
        bind_run_ok hsuperseded, read_bind_run, hchange]
      rfl
    · rcases h₄.log id hid with hold | hmem
      · exact .inl hold
      · exact .inr (List.mem_cons_of_mem _ hmem)
  | some row =>
    obtain ⟨_, d₅, hclear⟩ := ends_delete (t := .feedGuidChanges) (by decide)
      (p := fun r : GuidChangeRow => r.sourceUrl == sourceUrl) d₄
    have h₅ := h₄.of_writes (show Writes (S := schema) [Table.feedGuidChanges]
      (deleteGuidChange sourceUrl) from Writes.delete (by decide)) (by decide) hclear
    obtain ⟨marker, d₆, hmarker, h₆⟩ := h₅.sign signer
      (guidChangeObservedEventRow sourceUrl oldGuid oldGuid now now (uuid 2))
      (h₅.fresh (hfresh 2) (by
        change uuid 2 ∉ [uuid 1, uuid 0]
        simpa using ⟨hne (show (2 : Nat) ≠ 1 by decide), hne (show (2 : Nat) ≠ 0 by decide)⟩))
    refine ⟨[retired, superseded, marker], d₆, transaction_ok.mpr ?_, h₆⟩
    rw [bind_run_ok hdelete, bind_run_ok hretired, bind_run_ok hinsert, bind_run_ok hsuperseded,
      read_bind_run, hchange]
    simp only
    have hdeleted : deleteGuidChange sourceUrl d₄ = (.ok (), d₅) := hclear
    rw [bind_run_ok hdeleted, bind_run_ok hmarker]
    rfl

end Transition

section Handler

variable [Platform] {env : IngestEnv} {req : IngestFeedRequest} {body : IngestFeedData}

theorem contentFits_retired {d e : Db} {heldGuid : String} {ids : List String}
    (hnone : getFeedByGuid d body.feedGuid = none) (h : Retiring d heldGuid ids e) :
    ContentFits e (buildInput env req body d none).content ↔
      SubmissionFits d (buildInput env req body d none) heldGuid := by
  set i := buildInput env req body d none with hi
  have hfeedUrl : i.content.feed.feedUrl = i.canonicalUrl := by
    change chooseFeedUrl d req body.feedGuid none = req.canonicalUrl
    rw [chooseFeedUrl, hnone]
    rfl
  have hurl : ¬ e.Has (.feedUrl i.content.feed.feedUrl) ↔
      ∀ r : FeedRow, r ∈ d .feeds → r.feed.feedUrl = i.canonicalUrl → r.feed.feedGuid = heldGuid := by
    rw [hfeedUrl, has_iff (show schema.home (.feedUrl i.canonicalUrl) = Table.feeds from rfl),
      h.feeds]
    simp only [Table.keys, List.mem_cons, List.not_mem_nil, or_false, reduceCtorEq, false_or,
      Key.feedUrl.injEq, List.mem_filter, Bool.not_eq_true', beq_eq_false_iff_ne, not_exists,
      not_and, and_imp]
    constructor
    · intro hall r hr hsame
      by_contra hguid
      exact hall r hr hguid hsame.symm
    · intro hall r hr hguid hsame
      exact hguid (hall r hr hsame.symm)
  have htracks : (∀ t ∈ i.content.tracks, TrackFits t) ↔ ∀ t ∈ i.tracks, TrackDataFits t := by
    rw [BuildInput.content, List.forall_mem_map]
    exact forall₂_congr fun _ _ => BuildInput.trackBundle_fits
  have hguids : i.content.tracks.map (fun t => t.track.trackGuid) =
      i.tracks.map IngestTrackData.trackGuid := by
    rw [BuildInput.content, List.map_map]
    rfl
  constructor
  · rintro ⟨hfree, hsets, hall, hindex⟩
    rw [hguids, h.stray] at hindex
    obtain ⟨hroutes, hitems, hlive⟩ := BuildInput.feedSets_fit.mp hsets
    exact ⟨hurl.mp hfree, hroutes, hitems, hlive, htracks.mp hall, hindex⟩
  · rintro ⟨hfree, hroutes, hitems, hlive, hall, hindex⟩
    refine ⟨hurl.mpr hfree, BuildInput.feedSets_fit.mpr ⟨hroutes, hitems, hlive⟩,
      htracks.mpr hall, ?_⟩
    rw [hguids, h.stray]
    exact hindex

omit [Platform] in
theorem dbStep_leaves_feed {feedGuid : String} {ts : List Table} {α : Type} {x : Stmt α}
    (hx : Writes (S := schema) ts x) (hts : Table.feeds ∉ ts) :
    Leaves (HasFeed feedGuid) (dbStep x) :=
  dbStep_leaves fun d => propext (hasFeed_congr (hx .feeds hts d))

omit [Platform] in
theorem updateFeeds_leaves_feed {feedGuid : String} {p : FeedRow → Bool} {f : FeedRow → FeedRow}
    (hguid : ∀ r : FeedRow, (f r).feed.feedGuid = r.feed.feedGuid) :
    Leaves (HasFeed feedGuid) (update (S := schema) .feeds p f) := by
  apply update_leaves_has (S := schema) (t := .feeds) (k := .feed feedGuid)
  intro r _
  simp [Table.keys, hguid]

omit [Platform] in
theorem writeDeclarations_leaves_feed {feedGuid : String} {isMove : Bool} :
    Leaves (HasFeed feedGuid) (writeDeclarations body isMove) := by
  have hself : ∀ url, Leaves (HasFeed feedGuid) (dbStep (setDeclaredSelfUrl body.feedGuid url)) :=
    fun _ => dbStep_leaves (updateFeeds_leaves_feed fun _ => rfl)
  have hmove : Leaves (HasFeed feedGuid) (dbStep (setFeedMoveDeclarations body.feedGuid
      body.newFeedUrl body.locked body.lockedOwner)) :=
    dbStep_leaves (updateFeeds_leaves_feed fun _ => rfl)
  apply (hself _).bind
  intro _
  apply hmove.bind
  intro _
  have hclear : Writes (S := schema) [Table.feedMoveState]
      (clearArrivalTagUnless body.feedGuid body.newFeedUrl) := Writes.update (by decide)
  exact Leaves.ite (Leaves.pure ()) (dbStep_leaves_feed hclear (by decide))

theorem signedRowsToEvents_leaves {γ : Type} {f : Db → γ} {rows : List SignedEventRow} :
    Leaves f (signedRowsToEvents rows) := by
  unfold signedRowsToEvents
  split
  · exact Leaves.pure _
  · exact Leaves.fail _

/-- A record of the held GUID or of the declared one is there after the content step exactly
when the constraints admit the body. -/
theorem admitContent_keeps_iff {admission : Admission} {d : Db} {heldGuid : String}
    (hpending : admission.pendingGuidTransition = some heldGuid)
    (hmove : admission.recordMove = none) (hnone : getFeedByGuid d body.feedGuid = none)
    (hids : FreshIds env d)
    (hcount : (buildInput env req body d none).tracks.length ≤ maxTracksPerIngest) :
    (HasFeed heldGuid (admitContent env req body admission d).2 ∨
      HasFeed body.feedGuid (admitContent env req body admission d).2) ↔
        SubmissionFits d (buildInput env req body d none) heldGuid := by
  set i := buildInput env req body d none with hi
  set drafts := buildDiffEvents d i.content i.now (contentWarnings body i admission) with hdrafts
  obtain ⟨transitionRows, d₁, htransition, hretiring⟩ := guidChangeTransition_run env.signer
    heldGuid body.feedGuid req.sourceUrl (env.now .content)
    (fun _ _ hsame => (hids.injective _ _ _ _ hsame).2) (hids.fresh .guidTransition)
  have hcontentIds : ∀ index, hasEvent d₁ (env.uuid .content index) = false := by
    intro index
    apply hretiring.fresh (hids.fresh .content index)
    simp only [List.mem_cons, List.not_mem_nil, or_false, not_or]
    refine ⟨?_, ?_, ?_⟩ <;>
    · intro hsame
      have hstep := (hids.injective _ _ _ _ hsame).1
      cases hstep
  have htakes : ∀ r ∈ drafts, TakesId r := forall_buildDiffEvents fun _ _ _ _ _ _ => rfl
  obtain ⟨hnodup, hfresh⟩ := hids.rows htakes hcontentIds
  have hnew : getFeedByGuid d₁ i.content.feed.feedGuid = none := hretiring.unindexed hnone
  have hdecides := ingestTransaction_decides env.toPrimaryEnv (env.uuid .staleTracks)
    BuildInput.content_ofFeed BuildInput.tracks_ofFeed hnew hnodup hfresh
  rw [contentFits_retired hnone hretiring] at hdecides
  have hstep : runTransition env req body (some heldGuid) d = (.ok transitionRows, d₁) :=
    mapError_ok.mpr htransition
  unfold admitContent
  rw [read_bind_run, hmove, ← hi, if_neg (Nat.not_lt.mpr hcount), read_bind_run, read_bind_run,
    hpending, bind_run_ok hstep]
  rcases hdecides d₁ rfl with ⟨hfits, seqs, d₂, hcommit, hhas⟩ | ⟨hfits, err, d₂, herror⟩
  · have hcontent : dbStep (ingestTransaction env.toPrimaryEnv (env.uuid .staleTracks) i.content
        (assignIds (env.uuid .content) drafts) none) d₁ = (.ok seqs, d₂) := mapError_ok.mpr hcommit
    rw [Option.map_none, bind_run_ok hcontent]
    -- what follows the transaction keeps the record that it admitted
    refine iff_of_true (.inr (Eq.mpr (writeDeclarations_leaves_feed.bind (fun _ => ?_) d₂) hhas))
      hfits
    have hobserve : Writes (S := schema) [Table.feedUrlObservations, .events]
        (recordFeedUrlObservationsForIngest env.signer (env.uuid .urlObservations)
          req.canonicalUrl req.sourceUrl body.feedGuid i.now) :=
      recordUrls_writes.transaction
    apply (dbStep_leaves_feed hobserve (by decide)).bind
    intro observations
    have hcache : Writes (S := schema) [Table.feedCrawlCache]
        (upsertFeedCrawlCache req.canonicalUrl req.contentHash i.now) :=
      Writes.upsert (by decide)
    apply (dbStep_leaves_feed hcache (by decide)).bind
    intro _
    exact signedRowsToEvents_leaves.bind fun _ => Leaves.pure _
  · have hcontent : dbStep (ingestTransaction env.toPrimaryEnv (env.uuid .staleTracks) i.content
        (assignIds (env.uuid .content) drafts) none) d₁ = (.error (ApiError.ofDb err), d₂) :=
      mapError_run_error _ herror
    have hsame : d₂ = d₁ := transaction_error herror
    rw [Option.map_none, bind_run_error hcontent, hsame]
    refine iff_of_false ?_ hfits
    rintro (hheld | hadmitted)
    · exact hretiring.retired hheld
    · obtain ⟨feed, hfeed⟩ := hasFeed_iff.mp hadmitted
      rw [hretiring.unindexed hnone] at hfeed
      cases hfeed

/-- The submission gets as far as the transition. -/
structure ReachesTransition (env : IngestEnv) (snapshot d : Db) (req : IngestFeedRequest)
    (body : IngestFeedData) : Prop where
  authentic : env.chain.authenticate req = none
  verified : ∃ warnings, readPhase env snapshot req = .verified warnings
  allowed : transitionAllowed req body d = true
  tracks : (buildInput env req body d none).tracks.length ≤ maxTracksPerIngest

theorem recordGuidChangePending_leaves_feed {feedGuid eventId sourceUrl oldGuid newGuid : String}
    {now : Int} : Leaves (HasFeed feedGuid)
      (dbStep (recordGuidChangePendingForIngest env.signer eventId sourceUrl oldGuid newGuid now)) :=
  dbStep_leaves_feed recordGuidChangePendingForIngest_writes (by decide)

section Decide

variable {warnings : List String} {d : Db} {heldGuid : String}

theorem decideCase_transition
    (hclass : classifySubmission d body.feedGuid req.sourceUrl req.canonicalUrl =
      .guidChange heldGuid) (hallowed : transitionAllowed req body d = true) :
    decideCase env req body warnings d =
      (.ok (.admitted
        { warnings := warnings ++ [guidChangeWarning req body heldGuid]
          recordMove := none
          prefixEvents := []
          pendingGuidTransition := some heldGuid }), d) := by
  unfold decideCase
  rw [read_bind_run, hclass]
  simp only [decideGuidChange]
  rw [read_bind_run, if_pos hallowed]
  rfl

theorem decideCase_pending
    (hclass : classifySubmission d body.feedGuid req.sourceUrl req.canonicalUrl =
      .guidChange heldGuid) (hallowed : ¬ transitionAllowed req body d = true) :
    decideCase env req body warnings d = (do
      match ← dbStep (recordGuidChangePendingForIngest env.signer (env.uuid .guidPending 0)
        req.sourceUrl heldGuid body.feedGuid (env.now .guidPending)) with
      | .rejected => pure (.answer (refused "guid_change_rejected" [] []))
      | .pending signedRows => do
        let events ← signedRowsToEvents signedRows
        pure (.answer (refused "guid_change_pending" (eventIdsOf signedRows) events)) :
        Handler Decision) d := by
  unfold decideCase
  rw [read_bind_run, hclass]
  simp only [decideGuidChange]
  rw [read_bind_run]
  exact congrFun (if_neg hallowed) d

end Decide

theorem handleIngestFeed_leaves_feed {snapshot d : Db} {heldGuid : String}
    (hbody : req.feedData = some body)
    (hclass : classifySubmission d body.feedGuid req.sourceUrl req.canonicalUrl =
      .guidChange heldGuid) (h : ¬ ReachesTransition env snapshot d req body) (feedGuid : String) :
    HasFeed feedGuid (handleIngestFeed env snapshot req d).2 ↔ HasFeed feedGuid d := by
  unfold handleIngestFeed
  cases hauth : env.chain.authenticate req with
  | some reason => rfl
  | none =>
    have hgone : ¬ isGoneReport req = true := by
      rw [isGoneReport, hbody]
      simp
    simp only [if_neg hgone]
    cases hphase : readPhase env snapshot req with
    | rejected reason => rfl
    | noChange =>
      simp only [handleNoChange, hbody, read_bind_run, hclass]
      rfl
    | verified warnings =>
      simp only [writePhase, hbody]
      by_cases hallowed : transitionAllowed req body d = true
      · have hcount : maxTracksPerIngest < (buildInput env req body d none).tracks.length :=
          Nat.lt_of_not_le fun hcount => h ⟨hauth, ⟨warnings, hphase⟩, hallowed, hcount⟩
        rw [bind_run_ok (decideCase_transition hclass hallowed)]
        simp only [admitContent]
        rw [read_bind_run, if_pos hcount]
        rfl
      · rw [bind_run, decideCase_pending hclass hallowed, bind_run]
        have hleaves := @recordGuidChangePending_leaves_feed _ env feedGuid (env.uuid .guidPending 0)
          req.sourceUrl heldGuid body.feedGuid (env.now .guidPending)
        rcases hrecord : dbStep (recordGuidChangePendingForIngest env.signer
            (env.uuid .guidPending 0) req.sourceUrl heldGuid body.feedGuid
            (env.now .guidPending)) d with ⟨err | outcome, d₁⟩
        · exact (hleaves.run hrecord).to_iff
        · cases outcome with
          | rejected => exact (hleaves.run hrecord).to_iff
          | pending signedRows =>
            simp only [bind_run]
            have hevents := @signedRowsToEvents_leaves _ _ (HasFeed feedGuid) signedRows
            rcases hdecode : signedRowsToEvents signedRows d₁ with ⟨err | events, d₂⟩
            · exact ((hevents.run hdecode).trans (hleaves.run hrecord)).to_iff
            · exact ((hevents.run hdecode).trans (hleaves.run hrecord)).to_iff

theorem conflictingGuid_hasFeed {d : Db} {feedGuid sourceUrl canonicalUrl heldGuid : String}
    (h : conflictingGuid d feedGuid sourceUrl canonicalUrl = some heldGuid) :
    HasFeed heldGuid d := by
  obtain ⟨feed, hhead, rfl⟩ := Option.map_eq_some_iff.mp h
  have hmem := (orderBy_perm _ _).mem_iff.mp (List.mem_of_mem_head? hhead)
  obtain ⟨r, hr, rfl⟩ := List.mem_map.mp (List.mem_of_mem_filter hmem)
  rw [HasFeed, has_iff (show schema.home (.feed r.feed.feedGuid) = Table.feeds from rfl)]
  exact ⟨r, hr, List.mem_cons_self⟩

/-- After a submission that changes a GUID there is a record of the held GUID or of the
declared one exactly when the submission stops in front of the transition or the constraints
admit its body. -/
theorem guidChange_keeps_iff {snapshot d : Db} {heldGuid : String}
    (hbody : req.feedData = some body)
    (hclass : classifySubmission d body.feedGuid req.sourceUrl req.canonicalUrl =
      .guidChange heldGuid) (hids : FreshIds env d) :
    (HasFeed heldGuid (handleIngestFeed env snapshot req d).2 ∨
      HasFeed body.feedGuid (handleIngestFeed env snapshot req d).2) ↔
        (ReachesTransition env snapshot d req body →
          SubmissionFits d (buildInput env req body d none) heldGuid) := by
  by_cases h : ReachesTransition env snapshot d req body
  · rw [forall_prop_of_true h]
    obtain ⟨warnings, hphase⟩ := h.verified
    have hgone : ¬ isGoneReport req = true := by
      rw [isGoneReport, hbody]
      simp
    unfold handleIngestFeed
    simp only [h.authentic, if_neg hgone, hphase, writePhase, hbody]
    rw [bind_run_ok (decideCase_transition hclass h.allowed)]
    exact admitContent_keeps_iff rfl rfl (classifySubmission_guidChange hclass).1 hids h.tracks
  · refine iff_of_true (.inl ?_) fun hreach => absurd hreach h
    rw [handleIngestFeed_leaves_feed hbody hclass h]
    exact conflictingGuid_hasFeed (classifySubmission_guidChange hclass).2

end Handler

section Sample

attribute [local instance] runPlatform

/-- A live item that the rules of the handler keep and the table does not take: the rules
compare the status with no regard to case. -/
def capitalsLiveItem : IngestLiveItemData where
  liveItemGuid := "l1"
  title := "live"
  status := "LIVE"
  startAt := some 0
  endAt := some 100
  contentLink := none
  pubDate := none
  enclosureUrl := none
  enclosureType := none
  enclosureBytes := none
  alternateEnclosures := []
  description := none
  liveValueUri := none
  liveValueProtocol := none
  persons := []
  entityIds := []
  links := []
  transcripts := []

/-- The primary after the first submission of the feed `f1`. -/
def oneFeedDb : Db := firstIngest.next (Database.empty schema)

theorem oneFeedDb_run :
    PrimaryRun (fun _ operation => operation.SignedBy runSigner)
      [{ before := Database.empty schema, operation := firstIngest }] oneFeedDb :=
  .step firstIngest .empty rfl

theorem runEnv_freshIds {tag : Char} {now : Int} {d : Db}
    (h : ∀ id ∈ (d .events).map StoredEvent.eventId, id.toList.head? ≠ some tag) :
    FreshIds (runEnv tag now) d where
  injective _ _ _ _ h := runUuid_injective h
  fresh step index := by
    rw [← Bool.not_eq_true, hasEvent, List.any_eq_true]
    rintro ⟨r, hr, hid⟩
    have hsame : r.eventId = runUuid tag step index := beq_iff_eq.mp hid
    apply h r.eventId (List.mem_map_of_mem hr)
    rw [hsame, runUuid, String.toList_ofList, List.head?_cons]

theorem oneFeedDb_events : (oneFeedDb .events).map StoredEvent.eventId = ["ac", "au"] := by
  decide +kernel

theorem oneFeedDb_freshIds : FreshIds (runEnv 'b' 5) oneFeedDb := by
  apply runEnv_freshIds
  rw [oneFeedDb_events]
  decide

/-- The body of the UUIDv5 of the sample URL, with a live item that the table refuses. -/
def capitalsChange : IngestFeedRequest := sampleRequest sampleGuid [capitalsLiveItem]

theorem capitalsChange_body :
    capitalsChange.feedData = some (sampleBody sampleGuid [capitalsLiveItem]) := rfl

theorem capitalsChange_class :
    classifySubmission oneFeedDb sampleGuid capitalsChange.sourceUrl capitalsChange.canonicalUrl =
      .guidChange "f1" := by
  decide +kernel

/-- The record `f1` is retired, and the record of the new GUID is not admitted. -/
theorem guidChange_loses_record :
    ¬ ∀ (signer : NodeSigner) (history : List RunStep) (d : Db),
      PrimaryRun (fun _ operation => operation.SignedBy signer) history d →
        ∀ (env : IngestEnv) (snapshot : Db) (req : IngestFeedRequest) (body : IngestFeedData)
          (heldGuid : String), req.feedData = some body →
          classifySubmission d body.feedGuid req.sourceUrl req.canonicalUrl = .guidChange heldGuid →
          FreshIds env d →
            HasFeed heldGuid (handleIngestFeed env snapshot req d).2 ∨
              HasFeed body.feedGuid (handleIngestFeed env snapshot req d).2 := by
  intro hall
  have hkeeps := hall runSigner _ oneFeedDb oneFeedDb_run (runEnv 'b' 5) oneFeedDb capitalsChange _
    "f1" capitalsChange_body capitalsChange_class oneFeedDb_freshIds
  have hfeeds : (handleIngestFeed (runEnv 'b' 5) oneFeedDb capitalsChange oneFeedDb).2 .feeds = [] := by
    decide +kernel
  have hnone : ∀ feedGuid, ¬ HasFeed feedGuid
      (handleIngestFeed (runEnv 'b' 5) oneFeedDb capitalsChange oneFeedDb).2 := by
    intro feedGuid hhas
    obtain ⟨feed, hfeed⟩ := hasFeed_iff.mp hhas
    rw [getFeedByGuid, hfeeds] at hfeed
    cases hfeed
  rcases hkeeps with hheld | hdeclared
  · exact hnone _ hheld
  · exact hnone _ hdeclared

theorem guidChange_keeps_iff_capitals :
    FreshIds (runEnv 'b' 5) oneFeedDb ∧
      ((HasFeed "f1" (handleIngestFeed (runEnv 'b' 5) oneFeedDb capitalsChange oneFeedDb).2 ∨
        HasFeed sampleGuid
          (handleIngestFeed (runEnv 'b' 5) oneFeedDb capitalsChange oneFeedDb).2) ↔
        (ReachesTransition (runEnv 'b' 5) oneFeedDb oneFeedDb capitalsChange
            (sampleBody sampleGuid [capitalsLiveItem]) →
          SubmissionFits oneFeedDb
            (buildInput (runEnv 'b' 5) capitalsChange (sampleBody sampleGuid [capitalsLiveItem])
              oneFeedDb none) "f1")) :=
  ⟨oneFeedDb_freshIds,
    guidChange_keeps_iff capitalsChange_body capitalsChange_class oneFeedDb_freshIds⟩

end Sample

end Stophammer
