import Stophammer.Apply
import Stophammer.Ingest.StoredSets
import Stophammer.Relational.OrderBy

/-!
# The sets of a feed

The child tables of a feed that each ingest replaces as a whole.  An ingest compares some of
their columns with the stored rows, in the order of a read, and sends a set that changed.
-/

namespace Stophammer

open Relational Statement

theorem dedupeBy_of_nodup {α κ : Type} [DecidableEq κ] {key : α → κ} {seen : List κ} {as : List α}
    (hnodup : (as.map key).Nodup) (hseen : ∀ a ∈ as, key a ∉ seen) : dedupeBy key seen as = as := by
  induction as generalizing seen with
  | nil => rfl
  | cons a as ih =>
    obtain ⟨hfirst, hrest⟩ := List.nodup_cons.mp hnodup
    rw [dedupeBy, if_neg (hseen a List.mem_cons_self)]
    congr 1
    apply ih hrest
    intro b hb hmem
    rcases List.mem_cons.mp hmem with hsame | hmem
    · exact hfirst (hsame ▸ List.mem_map_of_mem hb)
    · exact hseen b (List.mem_cons_of_mem _ hb) hmem

theorem dedupeBy_map {α κ : Type} [DecidableEq κ] {key : α → κ} {f : α → α}
    (hf : ∀ a, key (f a) = key a) (seen : List κ) (as : List α) :
    dedupeBy key seen (as.map f) = (dedupeBy key seen as).map f := by
  induction as generalizing seen with
  | nil => rfl
  | cons a as ih =>
    rw [List.map_cons, dedupeBy, dedupeBy, hf]
    split
    · exact ih seen
    · rw [List.map_cons, ih]

inductive FeedSet where
  | feedRoutes
  | feedListValues
  | remoteItems
  | sourceContributorClaims
  | sourceEntityIds
  | sourceEntityLinks
  | sourceReleaseClaims
  | sourceItemEnclosures
  | sourceItemTranscripts
  | sourcePlatformClaims
  | liveEvents
deriving DecidableEq

namespace FeedSet

/-- In the order of their events. -/
def all : List FeedSet :=
  [.feedRoutes, .feedListValues, .remoteItems, .sourceContributorClaims, .sourceEntityIds,
    .sourceEntityLinks, .sourceReleaseClaims, .sourceItemEnclosures, .sourceItemTranscripts,
    .sourcePlatformClaims, .liveEvents]

theorem mem_all (k : FeedSet) : k ∈ all := by
  cases k <;> decide

abbrev table : FeedSet → Table
  | .feedRoutes => .feedPaymentRoutes
  | .feedListValues => .feedListValueRaw
  | .remoteItems => .feedRemoteItemsRaw
  | .sourceContributorClaims => .sourceContributorClaims
  | .sourceEntityIds => .sourceEntityIds
  | .sourceEntityLinks => .sourceEntityLinks
  | .sourceReleaseClaims => .sourceReleaseClaims
  | .sourceItemEnclosures => .sourceItemEnclosures
  | .sourceItemTranscripts => .sourceItemTranscripts
  | .sourcePlatformClaims => .sourcePlatformClaims
  | .liveEvents => .liveEvents

abbrev Row (k : FeedSet) : Type := k.table.Row

theorem mem_feedSetTables (k : FeedSet) : k.table ∈ feedSetTables := by
  cases k <;> decide

theorem table_injective : Function.Injective table := by
  intro k k' h
  cases k <;> cases k' <;> first | rfl | cases h

def feedGuid : (k : FeedSet) → k.Row → String
  | .feedRoutes => FeedPaymentRoute.feedGuid
  | .feedListValues => FeedListValueRaw.feedGuid
  | .remoteItems => FeedRemoteItemRaw.feedGuid
  | .sourceContributorClaims => SourceContributorClaim.feedGuid
  | .sourceEntityIds => SourceEntityIdClaim.feedGuid
  | .sourceEntityLinks => SourceEntityLink.feedGuid
  | .sourceReleaseClaims => SourceReleaseClaim.feedGuid
  | .sourceItemEnclosures => SourceItemEnclosure.feedGuid
  | .sourceItemTranscripts => SourceItemTranscript.feedGuid
  | .sourcePlatformClaims => SourcePlatformClaim.feedGuid
  | .liveEvents => LiveEvent.feedGuid

/-- The order in which the rows are compared. -/
def order : (k : FeedSet) → k.Row → k.Row → Ordering
  -- in the order of the inserts
  | .feedRoutes => fun _ _ => .eq
  | .feedListValues => compareOn FeedListValueRaw.position
  | .remoteItems => compareOn FeedRemoteItemRaw.position
  | .sourceContributorClaims =>
    compareLex (compareOn SourceContributorClaim.entityType) <|
      compareLex (compareOn SourceContributorClaim.entityId)
        (compareOn SourceContributorClaim.position)
  | .sourceEntityIds =>
    compareLex (compareOn SourceEntityIdClaim.entityType) <|
      compareLex (compareOn SourceEntityIdClaim.entityId) <|
      compareLex (compareOn SourceEntityIdClaim.position) <|
      compareLex (compareOn SourceEntityIdClaim.scheme) (compareOn SourceEntityIdClaim.value)
  | .sourceEntityLinks =>
    compareLex (compareOn SourceEntityLink.entityType) <|
      compareLex (compareOn SourceEntityLink.entityId) <|
      compareLex (compareOn SourceEntityLink.position) <|
      compareLex (compareOn SourceEntityLink.linkType) (compareOn SourceEntityLink.url)
  | .sourceReleaseClaims =>
    compareLex (compareOn SourceReleaseClaim.entityType) <|
      compareLex (compareOn SourceReleaseClaim.entityId) <|
      compareLex (compareOn SourceReleaseClaim.claimType) (compareOn SourceReleaseClaim.position)
  | .sourceItemEnclosures =>
    compareLex (compareOn SourceItemEnclosure.entityType) <|
      compareLex (compareOn SourceItemEnclosure.entityId) <|
      compareLex (compareOn SourceItemEnclosure.position) (compareOn SourceItemEnclosure.url)
  | .sourceItemTranscripts =>
    compareLex (compareOn SourceItemTranscript.entityType) <|
      compareLex (compareOn SourceItemTranscript.entityId) <|
      compareLex (compareOn SourceItemTranscript.position) (compareOn SourceItemTranscript.url)
  | .sourcePlatformClaims =>
    compareLex (compareOn SourcePlatformClaim.platformKey) <|
      compareLex (compareOn SourcePlatformClaim.extractionPath) <|
      compareLex (compareOn SourcePlatformClaim.url) (compareOn SourcePlatformClaim.ownerName)
  | .liveEvents => compareOn LiveEvent.liveItemGuid

instance (k : FeedSet) : Std.TransCmp k.order := by
  cases k with
  | feedRoutes => exact { eq_swap := rfl, isLE_trans := fun _ _ => rfl }
  | _ => dsimp only [order]; infer_instance

/-- The row with its compared columns only. -/
def compared : (k : FeedSet) → k.Row → k.Row
  | .feedRoutes => feedPaymentRouteRow
  | .feedListValues => feedListValueRow
  | .remoteItems => id
  | .sourceContributorClaims => fun c => { c with roleNorm := none, observedAt := 0 }
  | .sourceEntityIds => fun c => { c with observedAt := 0 }
  | .sourceEntityLinks => fun l => { l with observedAt := 0 }
  | .sourceReleaseClaims => fun c => { c with observedAt := 0 }
  | .sourceItemEnclosures => fun e => { e with observedAt := 0 }
  | .sourceItemTranscripts => fun t => { t with observedAt := 0 }
  | .sourcePlatformClaims => fun c => { c with observedAt := 0 }
  | .liveEvents => fun e => { e with createdAt := 0, updatedAt := 0 }

/-- The rows that a replacement of the set puts into the table. -/
def stored : (k : FeedSet) → List k.Row → List k.Row
  | .feedRoutes => List.map feedPaymentRouteRow
  | .feedListValues => List.map feedListValueRow
  | .remoteItems => id
  | .sourceContributorClaims => dedupeSourceContributorClaims
  | .sourceEntityIds => dedupeSourceEntityIds
  | .sourceEntityLinks => dedupeSourceEntityLinks
  | .sourceReleaseClaims => dedupeSourceReleaseClaims
  | .sourceItemEnclosures => dedupeSourceItemEnclosures
  | .sourceItemTranscripts => dedupeSourceItemTranscripts
  | .sourcePlatformClaims => id
  | .liveEvents => dedupeLiveEvents

/-- The rows of the set in the content of a submission. -/
def content (c : IngestContent) : (k : FeedSet) → List k.Row
  | .feedRoutes => c.feedRoutes
  | .feedListValues => c.feedListValues
  | .remoteItems => c.remoteItems
  | .sourceContributorClaims => c.sourceContributorClaims
  | .sourceEntityIds => c.sourceEntityIds
  | .sourceEntityLinks => c.sourceEntityLinks
  | .sourceReleaseClaims => c.sourceReleaseClaims
  | .sourceItemEnclosures => c.sourceItemEnclosures
  | .sourceItemTranscripts => c.sourceItemTranscripts
  | .sourcePlatformClaims => c.sourcePlatformClaims
  | .liveEvents => c.liveEvents

/-- The rows of the set in its event. -/
def sent (c : IngestContent) : (k : FeedSet) → List k.Row
  | .liveEvents => dedupeAndSortLiveEvents c.liveEvents
  | k => k.content c

def payload (guid : String) : (k : FeedSet) → List k.Row → EventPayload
  | .feedRoutes, rows => .feedRoutesReplaced { feedGuid := guid, routes := rows }
  | .feedListValues, rows => .feedListValueReplaced { feedGuid := guid, listValues := rows }
  | .remoteItems, rows => .feedRemoteItemsReplaced { feedGuid := guid, remoteItems := rows }
  | .sourceContributorClaims, rows =>
    .sourceContributorClaimsReplaced { feedGuid := guid, claims := rows }
  | .sourceEntityIds, rows => .sourceEntityIdsReplaced { feedGuid := guid, claims := rows }
  | .sourceEntityLinks, rows => .sourceEntityLinksReplaced { feedGuid := guid, links := rows }
  | .sourceReleaseClaims, rows => .sourceReleaseClaimsReplaced { feedGuid := guid, claims := rows }
  | .sourceItemEnclosures, rows =>
    .sourceItemEnclosuresReplaced { feedGuid := guid, enclosures := rows }
  | .sourceItemTranscripts, rows =>
    .sourceItemTranscriptsReplaced { feedGuid := guid, transcripts := rows }
  | .sourcePlatformClaims, rows =>
    .sourcePlatformClaimsReplaced { feedGuid := guid, claims := rows }
  | .liveEvents, rows => .liveEventsReplaced { feedGuid := guid, liveEvents := rows }

def eventType : FeedSet → EventType
  | .feedRoutes => .feedRoutesReplaced
  | .feedListValues => .feedListValueReplaced
  | .remoteItems => .feedRemoteItemsReplaced
  | .sourceContributorClaims => .sourceContributorClaimsReplaced
  | .sourceEntityIds => .sourceEntityIdsReplaced
  | .sourceEntityLinks => .sourceEntityLinksReplaced
  | .sourceReleaseClaims => .sourceReleaseClaimsReplaced
  | .sourceItemEnclosures => .sourceItemEnclosuresReplaced
  | .sourceItemTranscripts => .sourceItemTranscriptsReplaced
  | .sourcePlatformClaims => .sourcePlatformClaimsReplaced
  | .liveEvents => .liveEventsReplaced

theorem payload_eventType (guid : String) (k : FeedSet) (rows : List k.Row) :
    (k.payload guid rows).eventType = k.eventType := by
  cases k <;> rfl

/-- Whether a submission sends the set. -/
def changed (changes : SetsChanged) : FeedSet → Bool
  | .feedRoutes => changes.feedRoutes
  | .feedListValues => changes.feedListValues
  | .remoteItems => changes.remoteItems
  | .sourceContributorClaims => changes.sourceContributorClaims
  | .sourceEntityIds => changes.sourceEntityIds
  | .sourceEntityLinks => changes.sourceEntityLinks
  | .sourceReleaseClaims => changes.sourceReleaseClaims
  | .sourceItemEnclosures => changes.sourceItemEnclosures
  | .sourceItemTranscripts => changes.sourceItemTranscripts
  | .sourcePlatformClaims => changes.sourcePlatformClaims
  | .liveEvents => changes.liveEvents

/-- The comparison of the stored rows with those of a submission. -/
def setChanged : (k : FeedSet) → List k.Row → List k.Row → Bool
  | .feedRoutes => feedRoutesChanged
  | .feedListValues => feedListValuesChanged
  | .remoteItems => feedRemoteItemsChanged
  | .sourceContributorClaims => sourceContributorClaimsChanged
  | .sourceEntityIds => sourceEntityIdsChanged
  | .sourceEntityLinks => sourceEntityLinksChanged
  | .sourceReleaseClaims => sourceReleaseClaimsChanged
  | .sourceItemEnclosures => sourceItemEnclosuresChanged
  | .sourceItemTranscripts => sourceItemTranscriptsChanged
  | .sourcePlatformClaims => sourcePlatformClaimsChanged
  | .liveEvents => liveEventsChanged

/-- The stored rows of the feed, as they are compared. -/
def read (k : FeedSet) (d : Db) (guid : String) : List k.Row :=
  orderBy k.order ((d k.table).filter fun r => k.feedGuid r == guid)

/-- What the nodes share of the set of a feed. -/
def view (k : FeedSet) (d : Db) (guid : String) : List k.Row := (k.read d guid).map k.compared

/-- What the nodes share of a set that these rows replaced. -/
def shown (k : FeedSet) (rows : List k.Row) : List k.Row :=
  orderBy k.order (k.stored (rows.map k.compared))

section

variable {k : FeedSet}

theorem order_compared (a b : k.Row) : k.order (k.compared a) (k.compared b) = k.order a b := by
  cases k <;> rfl

theorem nullif_nullif (value : Option String) : nullif (nullif value) = nullif value := by
  rw [nullif, nullif, Option.filter_filter]
  simp

theorem stored_compared (rows : List k.Row) :
    k.stored (rows.map k.compared) = (k.stored rows).map k.compared := by
  cases k with
  | feedRoutes | feedListValues | remoteItems | sourcePlatformClaims => rfl
  | _ =>
    apply dedupeBy_map
    intro r
    rfl

theorem dedupeBy_of_keysOf {t : Table} {κ : Type} [DecidableEq κ] {key : t.Row → κ}
    (toKey : κ → Key) {rows : List t.Row} (hkeys : ∀ r ∈ rows, t.keys r = [toKey (key r)])
    (h : (Contents.keysOf (S := schema) t rows).Nodup) : dedupeBy key [] rows = rows := by
  have hmap : Contents.keysOf (S := schema) t rows = (rows.map key).map toKey := by
    rw [Contents.keysOf, List.map_map, List.map_eq_flatMap]
    exact List.flatMap_congr hkeys
  exact dedupeBy_of_nodup (List.Nodup.of_map toKey (hmap ▸ h)) fun _ _ => List.not_mem_nil

theorem stored_of_distinct {rows : List k.Row} {guid : String}
    (hguid : ∀ r ∈ rows, k.feedGuid r = guid)
    (h : (Contents.keysOf (S := schema) k.table rows).Nodup) :
    k.stored (rows.map k.compared) = rows.map k.compared := by
  rw [stored_compared]
  cases k with
  | feedRoutes | feedListValues =>
    change (rows.map _).map _ = rows.map _
    rw [List.map_map]
    apply List.map_congr_left
    intro r _
    simp [compared, feedPaymentRouteRow, feedListValueRow, nullif_nullif]
  | remoteItems | sourcePlatformClaims => rfl
  | sourceContributorClaims =>
    exact congrArg _ (dedupeBy_of_keysOf (fun p =>
      .contributor p.1 p.2.1 p.2.2.1 p.2.2.2.1 p.2.2.2.2) (fun _ _ => rfl) h)
  | sourceEntityIds =>
    exact congrArg _ (dedupeBy_of_keysOf (fun p =>
      .entityId p.1 p.2.1 p.2.2.1 p.2.2.2.1 p.2.2.2.2) (fun _ _ => rfl) h)
  | sourceEntityLinks =>
    exact congrArg _ (dedupeBy_of_keysOf (fun p =>
      .entityLink p.1 p.2.1 p.2.2.1 p.2.2.2.1 p.2.2.2.2) (fun _ _ => rfl) h)
  | sourceReleaseClaims =>
    exact congrArg _ (dedupeBy_of_keysOf (fun p =>
      .release p.1 p.2.1 p.2.2.1 p.2.2.2.1 p.2.2.2.2) (fun _ _ => rfl) h)
  | sourceItemEnclosures =>
    exact congrArg _ (dedupeBy_of_keysOf (fun p =>
      .enclosure p.1 p.2.1 p.2.2.1 p.2.2.2.1 p.2.2.2.2) (fun _ _ => rfl) h)
  | sourceItemTranscripts =>
    exact congrArg _ (dedupeBy_of_keysOf (fun p =>
      .transcript p.1 p.2.1 p.2.2.1 p.2.2.2.1 p.2.2.2.2) (fun _ _ => rfl) h)
  | liveEvents =>
    refine congrArg _ (dedupeBy_of_keysOf (fun itemGuid => .liveEvent guid itemGuid)
      (fun r hr => ?_) h)
    rw [← hguid r hr]
    rfl

variable {d e : Db} {guid : String}

theorem mem_read {r : k.Row} : r ∈ k.read d guid ↔ r ∈ d k.table ∧ k.feedGuid r = guid := by
  rw [read, mem_orderBy, List.mem_filter, beq_iff_eq]

theorem view_eq (k : FeedSet) (d : Db) (guid : String) : k.view d guid =
    orderBy k.order (((d k.table).filter fun r => k.feedGuid r == guid).map k.compared) :=
  (orderBy_map order_compared _).symm

theorem view_congr (h : e k.table = d k.table) : k.view e guid = k.view d guid := by
  rw [view, read, h]
  rfl

theorem view_stored {rows : List k.Row}
    (h : ((e k.table).filter fun r => k.feedGuid r == guid) = k.stored rows) :
    k.view e guid = k.shown rows := by
  rw [view_eq, h, ← stored_compared, shown]

theorem shown_of_view {rows : List k.Row} (h : k.view d guid = rows.map k.compared) :
    k.shown rows = k.view d guid := by
  have hdistinct : (Contents.keysOf (S := schema) k.table (k.read d guid)).Nodup := by
    have hrows : ((d k.table).filter fun r => k.feedGuid r == guid).Sublist (d k.table) :=
      List.filter_sublist
    have hkeys := (d.valid.unique k.table).sublist (hrows.flatMap (schema.keys k.table))
    exact ((orderBy_perm k.order _).flatMap_right _).nodup_iff.mpr hkeys
  have hsorted : (k.view d guid).Pairwise fun a b => (k.order a b).isLE := by
    rw [view_eq]
    exact orderBy_pairwise _
  have hguid : ∀ r ∈ k.read d guid, k.feedGuid r = guid := fun r hr => (mem_read.mp hr).2
  rw [shown, ← h, view, stored_of_distinct hguid hdistinct]
  exact orderBy_of_sorted hsorted

theorem shown_sent (k : FeedSet) (c : IngestContent) : k.shown (k.sent c) = k.shown (k.content c) := by
  cases k with
  | liveEvents =>
    change orderBy _ (dedupeLiveEvents ((orderBy (compareOn LiveEvent.liveItemGuid)
      (dedupeLiveEvents c.liveEvents)).map _)) = orderBy _ (dedupeLiveEvents (c.liveEvents.map _))
    have hmap : ∀ rows : List LiveEvent, dedupeLiveEvents (rows.map (compared .liveEvents)) =
        (dedupeLiveEvents rows).map (compared .liveEvents) := stored_compared (k := .liveEvents)
    have hsorted : (orderBy (compareOn LiveEvent.liveItemGuid)
        (dedupeLiveEvents c.liveEvents)).map LiveEvent.liveItemGuid |>.Nodup :=
      (((orderBy_perm _ _).map _).nodup_iff).mpr (dedupeBy_nodup [] c.liveEvents).1
    have hagain : dedupeLiveEvents (orderBy (compareOn LiveEvent.liveItemGuid)
        (dedupeLiveEvents c.liveEvents)) = orderBy (compareOn LiveEvent.liveItemGuid)
          (dedupeLiveEvents c.liveEvents) :=
      dedupeBy_of_nodup hsorted fun _ _ => List.not_mem_nil
    have hpairs : (orderBy (compareOn LiveEvent.liveItemGuid)
        (dedupeLiveEvents c.liveEvents)).Pairwise
          fun a b => (compareOn LiveEvent.liveItemGuid a b).isLE := orderBy_pairwise _
    have horder := order_compared (k := .liveEvents)
    rw [hmap, hmap, hagain, orderBy_map horder, orderBy_map horder]
    exact congrArg _ (orderBy_of_sorted hpairs)
  | _ => rfl

theorem map_eq_of_fields {α β γ : Type} {fields : α → β} {g : α → γ} {as bs : List α}
    (h : as.map fields = bs.map fields)
    (hg : ∀ a ∈ as, ∀ b ∈ bs, fields a = fields b → g a = g b) : as.map g = bs.map g := by
  induction as generalizing bs with
  | nil =>
    cases bs with
    | nil => rfl
    | cons b bs => cases h
  | cons a as ih =>
    cases bs with
    | nil => cases h
    | cons b bs =>
      obtain ⟨hfirst, hrest⟩ := List.cons.inj h
      rw [List.map_cons, List.map_cons, hg a List.mem_cons_self b List.mem_cons_self hfirst,
        ih hrest fun a ha b hb =>
          hg a (List.mem_cons_of_mem _ ha) b (List.mem_cons_of_mem _ hb)]

theorem map_compared {existing new : List k.Row}
    (hexisting : ∀ r ∈ existing, k.feedGuid r = guid) (hnew : ∀ r ∈ new, k.feedGuid r = guid)
    (h : k.setChanged existing new = false) : existing.map k.compared = new.map k.compared := by
  have hguid : ∀ a ∈ existing, ∀ b ∈ new, k.feedGuid a = k.feedGuid b :=
    fun a ha b hb => (hexisting a ha).trans (hnew b hb).symm
  cases k <;>
  · simp only [setChanged, feedRoutesChanged, feedListValuesChanged, feedRemoteItemsChanged,
      sourceContributorClaimsChanged, sourceEntityIdsChanged, sourceEntityLinksChanged,
      sourceReleaseClaimsChanged, sourceItemEnclosuresChanged, sourceItemTranscriptsChanged,
      sourcePlatformClaimsChanged, liveEventsChanged] at h
    refine map_eq_of_fields (rowsChanged_eq_false.mp h) fun a ha b hb hfields => ?_
    have hsame := hguid a ha b hb
    simp only [feedGuid, Prod.mk.injEq] at hsame hfields
    cases a
    cases b
    simp_all [compared, feedPaymentRouteRow, feedListValueRow]

theorem content_feedGuid {c : IngestContent} (hc : c.OfFeed) (k : FeedSet) :
    ∀ r ∈ k.content c, k.feedGuid r = c.feed.feedGuid := by
  cases k with
  | feedRoutes => exact hc.feedRoutes
  | feedListValues => exact hc.feedListValues
  | remoteItems => exact hc.remoteItems
  | sourceContributorClaims => exact fun r hr => (hc.contributorClaims r hr).1
  | sourceEntityIds => exact fun r hr => (hc.entityIds r hr).1
  | sourceEntityLinks => exact fun r hr => (hc.entityLinks r hr).1
  | sourceReleaseClaims => exact fun r hr => (hc.releaseClaims r hr).1
  | sourceItemEnclosures => exact fun r hr => (hc.itemEnclosures r hr).1
  | sourceItemTranscripts => exact fun r hr => (hc.itemTranscripts r hr).1
  | sourcePlatformClaims => exact hc.platformClaims
  | liveEvents => exact hc.liveEvents

theorem sent_subset (k : FeedSet) (c : IngestContent) : ∀ r ∈ k.sent c, r ∈ k.content c := by
  cases k with
  | liveEvents => exact fun r hr => mem_of_mem_dedupeBy (mem_orderBy.mp hr)
  | _ => exact fun r hr => hr

theorem read_liveEvents (d : Db) (guid : String) :
    orderBy (compareOn LiveEvent.liveItemGuid) (getLiveEventsForFeed d guid) =
      read .liveEvents d guid := by
  apply orderBy_eq_of_perm (orderBy_perm _ _)
  intro a ha b hb hsame
  obtain ⟨hin, hguid⟩ := List.mem_filter.mp (mem_orderBy.mp ha)
  obtain ⟨hin', hguid'⟩ := List.mem_filter.mp (mem_orderBy.mp hb)
  have hitem : a.liveItemGuid = b.liveItemGuid := Std.LawfulEqCmp.eq_of_compare hsame
  have hfeed : a.feedGuid = b.feedGuid := (beq_iff_eq.mp hguid).trans (beq_iff_eq.mp hguid').symm
  exact d.eq_of_shared_key (t := .liveEvents) (k := .liveEvent a.feedGuid a.liveItemGuid) hin hin'
    (by simp [schema, Table.keys]) (by simp [schema, Table.keys, hfeed, hitem])

theorem changed_setsChanged (k : FeedSet) (d : Db) (c : IngestContent) :
    k.changed (setsChanged d c) = k.setChanged (k.read d c.feed.feedGuid) (k.sent c) := by
  cases k with
  | feedRoutes =>
    have hinserts : read .feedRoutes d c.feed.feedGuid =
        getFeedPaymentRoutesForFeed d c.feed.feedGuid :=
      orderBy_of_sorted (List.pairwise_iff_forall_sublist.mpr fun _ => rfl)
    rw [hinserts]
    rfl
  | liveEvents =>
    rw [← read_liveEvents]
    rfl
  | _ => rfl

theorem shown_of_unchanged {c : IngestContent} (hc : c.OfFeed)
    (h : k.changed (setsChanged d c) = false) :
    k.shown (k.content c) = k.view d c.feed.feedGuid := by
  rw [changed_setsChanged] at h
  rw [← shown_sent]
  apply shown_of_view
  apply map_compared (fun r hr => (mem_read.mp hr).2) _ h
  exact fun r hr => content_feedGuid hc k r (sent_subset k c r hr)

theorem filter_storedSets {c : IngestContent} (h : StoredSets c e) (k : FeedSet) :
    ((e k.table).filter fun r => k.feedGuid r == c.feed.feedGuid) = k.stored (k.content c) := by
  cases k with
  | feedRoutes => exact h.feedRoutes
  | feedListValues => exact h.feedListValues
  | remoteItems => exact h.remoteItems
  | sourceContributorClaims => exact h.contributorClaims
  | sourceEntityIds => exact h.entityIds
  | sourceEntityLinks => exact h.entityLinks
  | sourceReleaseClaims => exact h.releaseClaims
  | sourceItemEnclosures => exact h.itemEnclosures
  | sourceItemTranscripts => exact h.itemTranscripts
  | sourcePlatformClaims => exact h.platformClaims
  | liveEvents => exact h.liveEvents

theorem view_storedSets {c : IngestContent} (h : StoredSets c e) (k : FeedSet) :
    k.view e c.feed.feedGuid = k.shown (k.content c) :=
  view_stored (filter_storedSets h k)

/-- What the constraints ask of the rows of a set. -/
structure Fits (guid : String) (k : FeedSet) (rows : List k.Row) : Prop where
  feed : ∀ r ∈ k.stored rows, k.feedGuid r = guid
  distinct : (Contents.keysOf (S := schema) k.table (k.stored rows)).Nodup
  checked : ∀ r ∈ k.stored rows, k.table.check r = true

theorem Fits.perm {rows rows' : List k.Row} (h : Fits guid k rows)
    (hperm : (k.stored rows').Perm (k.stored rows)) : Fits guid k rows' where
  feed r hr := h.feed r (hperm.mem_iff.mp hr)
  distinct := ((hperm.flatMap_right _).nodup_iff).mpr h.distinct
  checked r hr := h.checked r (hperm.mem_iff.mp hr)

theorem fits_of_filter {rows : List k.Row}
    (h : ((e k.table).filter fun r => k.feedGuid r == guid) = k.stored rows) : Fits guid k rows where
  feed r hr := by
    rw [← h] at hr
    exact beq_iff_eq.mp (List.mem_filter.mp hr).2
  distinct := by
    have hrows : (k.stored rows).Sublist (e k.table) := h ▸ List.filter_sublist
    exact (e.valid.unique k.table).sublist (hrows.flatMap (schema.keys k.table))
  checked r hr := by
    rw [← h] at hr
    exact e.valid.checked k.table r (List.mem_filter.mp hr).1

theorem fits_sent {c : IngestContent} (h : StoredSets c e) (k : FeedSet) :
    Fits c.feed.feedGuid k (k.sent c) := by
  apply (fits_of_filter (filter_storedSets h k)).perm
  cases k with
  | liveEvents =>
    have hperm : (dedupeAndSortLiveEvents c.liveEvents).Perm (dedupeLiveEvents c.liveEvents) :=
      orderBy_perm _ _
    have hdistinct := ((hperm.map LiveEvent.liveItemGuid).nodup_iff).mpr
      (dedupeBy_nodup [] c.liveEvents).1
    have hagain : dedupeLiveEvents (dedupeAndSortLiveEvents c.liveEvents) =
        dedupeAndSortLiveEvents c.liveEvents :=
      dedupeBy_of_nodup hdistinct fun _ _ => List.not_mem_nil
    change (dedupeLiveEvents (dedupeAndSortLiveEvents c.liveEvents)).Perm _
    rw [hagain]
    exact hperm
  | _ => exact List.Perm.refl _

theorem refs_feed (r : k.Row) : k.table.refs r = [.feed (k.feedGuid r)] := by
  cases k <;> rfl

theorem keys_feed {r r' : k.Row} {key : Key} (h : key ∈ k.table.keys r) (h' : key ∈ k.table.keys r') :
    k.feedGuid r = k.feedGuid r' := by
  cases k <;> simp_all [Table.keys, feedGuid]

theorem table_child (k : FeedSet) : k.table ≠ .feeds ∧ k.table ≠ .tracks := by
  cases k <;> decide

theorem replaceRows_fits {rows : List k.Row} (hfits : Fits guid k rows) (hfeed : HasFeed guid d) :
    ∃ e, replaceRows (S := schema) k.table (fun r => k.feedGuid r == guid) (k.stored rows) d =
      (.ok (), e) := by
  have hrefs : ∀ r : k.Row, k.table.refs r = [.feed (k.feedGuid r)] := refs_feed
  have hdecides := replaceFeedSet_decides (k.stored rows) k.table_child hrefs
    (fun r r' key hkey hkey' => keys_feed hkey hkey') hfits.feed
  rcases hdecides d hfeed with ⟨-, a, e, hrun, -⟩ | ⟨hnot, -⟩
  · exact ⟨e, hrun⟩
  · exact absurd ⟨hfits.distinct, hfits.checked⟩ hnot

theorem replaceRows_absent {rows : List k.Row} (hrows : ∀ r ∈ rows, k.feedGuid r = guid)
    (hfeed : ¬ HasFeed guid d) :
    (replaceRows (S := schema) k.table (fun r => k.feedGuid r == guid) rows d).2 k.table =
      d k.table := by
  obtain ⟨e, hdelete, hcontents⟩ := delete_ok (S := schema) d
    (leaf_of_ne k.table_child.1 k.table_child.2) fun r : k.Row => k.feedGuid r == guid
  have hnone : ∀ r ∈ d k.table, k.feedGuid r ≠ guid := by
    intro r hr hguid
    apply hfeed
    rw [← hguid]
    exact d.valid.referenced k.table r hr _ (by simp [schema, refs_feed])
  have hsame : e k.table = d k.table := by
    rw [hcontents, Contents.set_same, List.filter_eq_self]
    intro r hr
    simpa using hnone r hr
  unfold replaceRows
  rw [bind_run_ok hdelete, ← hsame]
  cases rows with
  | nil => rfl
  | cons r rows =>
    have hrefused : ¬ e.Admits (S := schema) k.table r := by
      intro hadmits
      have href := hadmits.referenced (.feed guid) (by
        simp [schema, refs_feed, hrows r List.mem_cons_self])
      exact hfeed ((hasFeed_congr (by
        rw [hcontents, Contents.set_other k.table_child.1.symm])).mp href)
    rw [forEach_cons, bind_run_error (insert_error e hrefused)]

theorem replaceRows_other {rows : List k.Row} {other : String} (hrows : ∀ r ∈ rows, k.feedGuid r = guid)
    (hne : other ≠ guid)
    (h : replaceRows (S := schema) k.table (fun r => k.feedGuid r == guid) rows d = (.ok (), e)) :
    k.view e other = k.view d other := by
  have hfilter : ((e k.table).filter fun r => k.feedGuid r == other) =
      (d k.table).filter fun r => k.feedGuid r == other := by
    have hnew : (rows.filter fun r => k.feedGuid r == other) = [] := by
      rw [List.filter_eq_nil_iff]
      intro r hr
      simpa [hrows r hr] using hne.symm
    rw [Relational.replaceRows_rows h, List.filter_append, hnew, List.append_nil, List.filter_filter]
    apply List.filter_congr
    intro r _
    by_cases hother : k.feedGuid r = other
    · simp [hother, hne]
    · simp [hother]
  rw [view, read, hfilter]
  rfl

theorem applyPayload_payload [Platform] (createdAt : Int) (guid : String) (k : FeedSet)
    (rows : List k.Row) : applyPayload createdAt (k.payload guid rows) =
      replaceRows (S := schema) k.table (fun r => k.feedGuid r == guid) (k.stored rows) := by
  cases k <;> rfl

theorem view_applyPayload [Platform] (createdAt : Int) {rows : List k.Row}
    (hfits : Fits guid k rows) (d : Db) (k' : FeedSet) (other : String) :
    k'.view (applyPayload createdAt (k.payload guid rows) d).2 other =
      Function.update (fun k : FeedSet => k.view d) k
        (Function.update (k.view d) guid (if HasFeed guid d then k.shown rows else k.view d guid))
        k' other := by
  rw [applyPayload_payload]
  by_cases hk : k' = k
  · subst hk
    rw [Function.update_self]
    by_cases hfeed : HasFeed guid d
    · obtain ⟨e, hrun⟩ := replaceRows_fits hfits hfeed
      rw [hrun, if_pos hfeed]
      by_cases hother : other = guid
      · subst hother
        rw [Function.update_self]
        apply view_stored
        exact Relational.replaceRows_filter hrun fun r hr => beq_iff_eq.mpr (hfits.feed r hr)
      · rw [Function.update_of_ne hother]
        exact replaceRows_other hfits.feed hother hrun
    · rw [if_neg hfeed, Function.update_eq_self, view, read, replaceRows_absent hfits.feed hfeed]
      rfl
  · rw [Function.update_of_ne hk]
    apply view_congr
    have hwrites : Writes (S := schema) [k.table] (replaceRows (S := schema) k.table
        (fun r => k.feedGuid r == guid) (k.stored rows)) :=
      Writes.replaceRows List.mem_cons_self
    exact hwrites k'.table (by simpa using fun h => hk (table_injective h)) d

theorem feedSetEvents_eq [Platform] (c : IngestContent) (changes : SetsChanged) (now : Int)
    (warnings : List String) :
    feedSetEvents c changes now warnings = all.flatMap fun k => draftIf (k.changed changes)
      (eventDraft (k.payload c.feed.feedGuid (k.sent c)) c.feed.feedGuid now warnings) := by
  simp only [all, List.flatMap_cons, List.flatMap_nil, List.append_nil, feedSetEvents,
    List.append_assoc]
  rfl

theorem changed_setsPresent (k : FeedSet) (c : IngestContent) :
    k.changed (setsPresent c) = !(k.sent c).isEmpty := by
  cases k <;> rfl

end

end FeedSet

end Stophammer
