import Stophammer.Relational.Region
import Stophammer.Schema

/-!
# Places

The places of a row: what its keys and its references name.  The rows whose places are
all in one set of places are a region of the database.
-/

namespace Stophammer

open Relational Statement

inductive Place where
  | record (feedGuid : String)
  | feedUrl (feedUrl : String)
  | track (trackGuid : String)
  | observed (url : String)
  | block (blockId : String)
  | blockValue (kind : FeedBlockKind) (value : String)
  | copyUrl (url : String)
  | change (sourceUrl : String)
  | superseded (oldGuid : String)
deriving DecidableEq

/-- Only an old event names a track without its feed.  `legacy` has the tracks that
such an event of the history names. -/
def trackPlaces (legacy : String → Bool) (trackGuid : String) : List Place :=
  if legacy trackGuid then [.track trackGuid] else []

/-- No place stands for a table that the node keeps for itself. -/
def Table.places (legacy : String → Bool) : (t : Table) → t.Row → List Place
  | .feeds, r => [.record r.feed.feedGuid, .feedUrl r.feed.feedUrl]
  | .tracks, r => .record r.feedGuid :: trackPlaces legacy r.trackGuid
  | .paymentRoutes, r => .record r.feedGuid :: trackPlaces legacy r.trackGuid
  | .feedPaymentRoutes, r => [.record r.feedGuid]
  | .feedListValueRaw, r => [.record r.feedGuid]
  | .valueTimeSplits, r => [.record (r.sourceFeedGuid.getD "")]
  | .feedRemoteItemsRaw, r => [.record r.feedGuid]
  | .trackRemoteItemsRaw, r =>
    match r.feedGuid with
    | some feedGuid => .record feedGuid :: trackPlaces legacy r.trackGuid
    | none => [.track r.trackGuid]
  | .liveEvents, r => [.record r.feedGuid]
  | .sourceContributorClaims, r => [.record r.feedGuid]
  | .sourceEntityIds, r => [.record r.feedGuid]
  | .sourceEntityLinks, r => [.record r.feedGuid]
  | .sourceReleaseClaims, r => [.record r.feedGuid]
  | .sourceItemEnclosures, r => [.record r.feedGuid]
  | .sourceItemTranscripts, r => [.record r.feedGuid]
  | .sourcePlatformClaims, r => [.record r.feedGuid]
  | .feedUrlObservations, r => [.observed r.url]
  | .feedBlocks, r => [.block r.blockId, .blockValue r.kind r.value]
  | .feedCopies, r => [.record r.feedGuid, .copyUrl r.url]
  | .feedGuidChanges, r => [.change r.sourceUrl]
  | .feedGuidSupersessions, r => [.superseded r.oldGuid]
  | .sourceGoneAnswers, r => [.record r.feedGuid]
  | .feedCopyOverflow, r => [.record r.feedGuid]
  | .feedLeftUrls, r => [.record r.feedGuid]
  | .feedMoveState, r => [.record r.feedGuid]
  | .feedCrawlCache, _ | .retiredSourceHolds, _ | .searchIndex, _ | .searchEntities, _
  | .entityQuality, _ | .events, _ | .nodeSyncState, _ | .peerNodes, _ => []

def Key.place : Key → Option Place
  | .feed feedGuid => some (.record feedGuid)
  | .feedUrl url => some (.feedUrl url)
  | .track feedGuid _ => some (.record feedGuid)
  | .feedRemoteItem feedGuid _ => some (.record feedGuid)
  | .trackRemoteItem feedGuid _ _ => some (.record feedGuid)
  | .liveEvent feedGuid _ => some (.record feedGuid)
  | .contributor feedGuid _ _ _ _ => some (.record feedGuid)
  | .entityId feedGuid _ _ _ _ => some (.record feedGuid)
  | .entityLink feedGuid _ _ _ _ => some (.record feedGuid)
  | .release feedGuid _ _ _ _ => some (.record feedGuid)
  | .enclosure feedGuid _ _ _ _ => some (.record feedGuid)
  | .transcript feedGuid _ _ _ _ => some (.record feedGuid)
  | .urlObservation url => some (.observed url)
  | .block blockId => some (.block blockId)
  | .blockValue kind value => some (.blockValue kind value)
  | .copy feedGuid _ => some (.record feedGuid)
  | .guidChange sourceUrl => some (.change sourceUrl)
  | .supersession oldGuid => some (.superseded oldGuid)
  | .goneAnswer feedGuid => some (.record feedGuid)
  | .overflow feedGuid => some (.record feedGuid)
  | .leftUrl feedGuid _ => some (.record feedGuid)
  | .moveState feedGuid => some (.record feedGuid)
  | .crawlCache _ | .hold _ | .searchIndex _ | .searchEntity _ | .quality .. | .event _
  | .eventSeq _ | .syncState _ | .peer _ => none

/-- What a replica never writes: a split without its feed, and an item of a track
without its feed when no old event names the track. -/
def Table.wellPlaced (legacy : String → Bool) : (t : Table) → t.Row → Bool
  | .valueTimeSplits, r => r.sourceFeedGuid.isSome
  | .trackRemoteItemsRaw, r => r.feedGuid.isSome || legacy r.trackGuid
  | _, _ => true

theorem keyPlace_mem {legacy : String → Bool} {t : Table} {r : t.Row}
    (hr : t.wellPlaced legacy r = true) {k : Key} (hk : k ∈ t.keys r ∨ k ∈ t.refs r) :
    (∃ a, k.place = some a ∧ a ∈ t.places legacy r) ∨ (k.place = none ∧ t.places legacy r = []) := by
  cases t with
  | trackRemoteItemsRaw =>
    rcases r with ⟨_ | feedGuid, _⟩
    · rcases hk with hk | hk <;> cases hk
    · simp only [Table.keys, Table.refs, Option.map_some, Option.toList_some,
        List.mem_singleton] at hk
      rcases hk with rfl | rfl <;> simp [Table.places, Key.place]
  | valueTimeSplits =>
    rcases r with ⟨_ | feedGuid, _⟩
    · cases hr
    · simp only [Table.keys, Table.refs, Option.map_some, Option.toList_some, List.mem_singleton,
        List.not_mem_nil, false_or] at hk
      rw [hk]
      simp [Table.places, Key.place]
  | _ =>
    simp only [Table.keys, Table.refs, List.mem_cons, List.not_mem_nil, or_false, false_or] at hk
    try rcases hk with hk | hk
    all_goals first
      | exact hk.elim
      | (try rcases hk with rfl | rfl)
    all_goals simp_all [Table.places, Key.place]

section

variable (legacy : String → Bool) (K : Place → Bool)

/-- The region of a set of places. -/
def region : Region schema where
  row t r := (Table.places legacy t r).any K
  key k := k.place.any K
  Fits t r := Table.wellPlaced legacy t r = true ∧
    ∀ a ∈ Table.places legacy t r, K a = (Table.places legacy t r).any K
  keys_side := by
    rintro t r ⟨hwell, hfits⟩ k hk
    rcases keyPlace_mem hwell (.inl hk) with ⟨a, ha, hmem⟩ | ⟨hnone, hnil⟩
    · rw [ha]
      exact hfits a hmem
    · rw [hnone, hnil]
      rfl
  refs_side := by
    rintro t r ⟨hwell, hfits⟩ k hk
    rcases keyPlace_mem hwell (.inr hk) with ⟨a, ha, hmem⟩ | ⟨hnone, hnil⟩
    · rw [ha]
      exact hfits a hmem
    · rw [hnone, hnil]
      rfl

variable {legacy K}

theorem row_eq {t : Table} {r : t.Row} (hr : (region legacy K).Fits t r) {a : Place}
    (ha : a ∈ t.places legacy r) : (region legacy K).row t r = K a := (hr.2 a ha).symm

theorem fits_row {t : Table} {r : t.Row} {b : Bool} (hwell : t.wellPlaced legacy r = true)
    (hne : t.places legacy r ≠ []) (h : ∀ a ∈ t.places legacy r, K a = b) :
    (region legacy K).Fits t r ∧ (region legacy K).row t r = b := by
  obtain ⟨a, ha⟩ := List.exists_mem_of_ne_nil _ hne
  have hany : (Table.places legacy t r).any K = b := by
    cases b with
    | true => exact List.any_eq_true.mpr ⟨a, ha, h a ha⟩
    | false =>
      rw [List.any_eq_false]
      intro a' ha'
      rw [h a' ha']
      decide
  exact ⟨⟨hwell, fun a' ha' => by rw [h a' ha', hany]⟩, hany⟩

theorem own_table {t : Table} (ht : ∀ r, t.places legacy r = [])
    (hwell : ∀ r, t.wellPlaced legacy r = true) (r : t.Row) :
    (region legacy K).Fits t r ∧ (region legacy K).row t r = false := by
  refine ⟨⟨hwell r, fun a ha => ?_⟩, ?_⟩
  · rw [ht r] at ha
    cases ha
  · change (Table.places legacy t r).any K = false
    rw [ht r]
    rfl

section Statements

variable {t : Table} {b : Bool} {a : Place}

theorem local_delete {p : t.Row → Bool} (ha : K a = b)
    (hp : ∀ r, t.wellPlaced legacy r = true → p r = true → a ∈ t.places legacy r) :
    (region legacy K).Local b (delete t p : Stmt Unit) :=
  Region.Local.delete fun r hr hpr => (row_eq hr (hp r hr.1 hpr)).trans ha

theorem local_upsert {p : t.Row → Bool} {r : t.Row} {f : t.Row → t.Row} (ha : K a = b)
    (hp : ∀ r, t.wellPlaced legacy r = true → p r = true → a ∈ t.places legacy r)
    (hr : t.wellPlaced legacy r = true ∧ t.places legacy r ≠ [] ∧ ∀ a ∈ t.places legacy r, K a = b)
    (hf : ∀ r', t.wellPlaced legacy r' = true → p r' = true →
      t.wellPlaced legacy (f r') = true ∧
        (t.places legacy (f r') = t.places legacy r' ∨ t.places legacy (f r') = t.places legacy r)) :
    (region legacy K).Local b (upsert t p r f : Stmt Unit) := by
  obtain ⟨hfits, hrow⟩ := fits_row hr.1 hr.2.1 hr.2.2
  apply Region.Local.upsert hfits hrow
  intro r' hr' hpr
  have hmem := hp r' hr'.1 hpr
  have hold : (region legacy K).row t r' = b := (row_eq hr' hmem).trans ha
  have hside : ∀ a ∈ t.places legacy r', K a = b := fun c hc => (row_eq hr' hc).symm.trans hold
  obtain ⟨hwell, hplaces | hplaces⟩ := hf r' hr'.1 hpr
  · refine ⟨hold, fits_row hwell ?_ ?_⟩
    · rw [hplaces]
      exact List.ne_nil_of_mem hmem
    · rw [hplaces]
      exact hside
  · refine ⟨hold, fits_row hwell ?_ ?_⟩
    · rw [hplaces]
      exact hr.2.1
    · rw [hplaces]
      exact hr.2.2

theorem local_update {p : t.Row → Bool} {f : t.Row → t.Row} (ha : K a = b)
    (hp : ∀ r, t.wellPlaced legacy r = true → p r = true → a ∈ t.places legacy r)
    (hf : ∀ r, t.wellPlaced legacy (f r) = t.wellPlaced legacy r ∧
      t.places legacy (f r) = t.places legacy r) :
    (region legacy K).Local b (update t p f : Stmt Unit) := by
  apply Region.Local.update
  intro r hr hpr
  have hmem := hp r hr.1 hpr
  have hold : (region legacy K).row t r = b := (row_eq hr hmem).trans ha
  refine ⟨hold, fits_row (by rw [(hf r).1]; exact hr.1) ?_ ?_⟩
  · rw [(hf r).2]
    exact List.ne_nil_of_mem hmem
  · rw [(hf r).2]
    exact fun c hc => (row_eq hr hc).symm.trans hold

theorem local_replaceRows {p : t.Row → Bool} {rows : List t.Row} (ha : K a = b)
    (hp : ∀ r, t.wellPlaced legacy r = true → p r = true → a ∈ t.places legacy r)
    (hrows : ∀ r ∈ rows, t.wellPlaced legacy r = true ∧ t.places legacy r ≠ [] ∧
      ∀ a ∈ t.places legacy r, K a = b) :
    (region legacy K).Local b (replaceRows t p rows : Stmt Unit) := by
  apply Region.Local.replaceRows
  · exact fun r hr hpr => (row_eq hr (hp r hr.1 hpr)).trans ha
  · intro r hr
    obtain ⟨hwell, hne, hplaces⟩ := hrows r hr
    exact fits_row hwell hne hplaces

theorem local_replaceRecord {feedGuidOf : t.Row → String}
    (hplaces : ∀ r, t.places legacy r = [.record (feedGuidOf r)])
    (hwell : ∀ r, t.wellPlaced legacy r = true) {feedGuid : String} {rows : List t.Row}
    (ha : K (.record feedGuid) = b) (hrows : ∀ r ∈ rows, K (.record (feedGuidOf r)) = b) :
    (region legacy K).Local b
      (replaceRows t (fun r => feedGuidOf r == feedGuid) rows : Stmt Unit) := by
  apply local_replaceRows ha
  · intro r _ hpr
    rw [hplaces, beq_iff_eq.mp hpr]
    simp
  · intro r hr
    refine ⟨hwell r, by rw [hplaces]; simp, fun a ha => ?_⟩
    rw [hplaces, List.mem_singleton] at ha
    rw [ha]
    exact hrows r hr

end Statements

end

end Stophammer
