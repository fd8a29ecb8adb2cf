import Stophammer.Ingest.Outcome
import Stophammer.Ingest.StoredTracks
import Stophammer.Relational.Frame

/-!
# The sets of a feed after a content

The ingest transaction leaves the rows of the feed in each child table as its content lists
them, the first row of each key.
-/

namespace Stophammer

open Relational Statement

/-- The child sets of the feed are those of the content, in the order of the inserts. -/
structure StoredSets (c : IngestContent) (d : Db) : Prop where
  feedRoutes : (d .feedPaymentRoutes).filter
      (fun r : FeedPaymentRoute => r.feedGuid == c.feed.feedGuid) =
    c.feedRoutes.map feedPaymentRouteRow
  remoteItems : (d .feedRemoteItemsRaw).filter
      (fun r : FeedRemoteItemRaw => r.feedGuid == c.feed.feedGuid) = c.remoteItems
  feedListValues : (d .feedListValueRaw).filter
      (fun r : FeedListValueRaw => r.feedGuid == c.feed.feedGuid) =
    c.feedListValues.map feedListValueRow
  liveEvents : (d .liveEvents).filter (fun r : LiveEvent => r.feedGuid == c.feed.feedGuid) =
    dedupeLiveEvents c.liveEvents
  contributorClaims : (d .sourceContributorClaims).filter
      (fun r : SourceContributorClaim => r.feedGuid == c.feed.feedGuid) =
    dedupeSourceContributorClaims c.sourceContributorClaims
  entityIds : (d .sourceEntityIds).filter
      (fun r : SourceEntityIdClaim => r.feedGuid == c.feed.feedGuid) =
    dedupeSourceEntityIds c.sourceEntityIds
  entityLinks : (d .sourceEntityLinks).filter
      (fun r : SourceEntityLink => r.feedGuid == c.feed.feedGuid) =
    dedupeSourceEntityLinks c.sourceEntityLinks
  releaseClaims : (d .sourceReleaseClaims).filter
      (fun r : SourceReleaseClaim => r.feedGuid == c.feed.feedGuid) =
    dedupeSourceReleaseClaims c.sourceReleaseClaims
  itemEnclosures : (d .sourceItemEnclosures).filter
      (fun r : SourceItemEnclosure => r.feedGuid == c.feed.feedGuid) =
    dedupeSourceItemEnclosures c.sourceItemEnclosures
  itemTranscripts : (d .sourceItemTranscripts).filter
      (fun r : SourceItemTranscript => r.feedGuid == c.feed.feedGuid) =
    dedupeSourceItemTranscripts c.sourceItemTranscripts
  platformClaims : (d .sourcePlatformClaims).filter
      (fun r : SourcePlatformClaim => r.feedGuid == c.feed.feedGuid) = c.sourcePlatformClaims

variable {c : IngestContent} {d e : Db}

theorem StoredSets.congr (h : StoredSets c d) (hsame : ∀ t ∈ feedSetTables, e t = d t) :
    StoredSets c e where
  feedRoutes := by rw [hsame _ (by decide)]; exact h.feedRoutes
  remoteItems := by rw [hsame _ (by decide)]; exact h.remoteItems
  feedListValues := by rw [hsame _ (by decide)]; exact h.feedListValues
  liveEvents := by rw [hsame _ (by decide)]; exact h.liveEvents
  contributorClaims := by rw [hsame _ (by decide)]; exact h.contributorClaims
  entityIds := by rw [hsame _ (by decide)]; exact h.entityIds
  entityLinks := by rw [hsame _ (by decide)]; exact h.entityLinks
  releaseClaims := by rw [hsame _ (by decide)]; exact h.releaseClaims
  itemEnclosures := by rw [hsame _ (by decide)]; exact h.itemEnclosures
  itemTranscripts := by rw [hsame _ (by decide)]; exact h.itemTranscripts
  platformClaims := by rw [hsame _ (by decide)]; exact h.platformClaims

theorem replaced_filter {t : Table} {ts : List Table} {p : t.Row → Bool} {rows : List t.Row}
    {f : Db} {a : Unit} (h : replaceRows (S := schema) t p rows d = (.ok a, e))
    (hrest : SameOutside (S := schema) ts e f) (ht : t ∉ ts) (hrows : ∀ r ∈ rows, p r = true) :
    (f t).filter p = rows := by
  rw [hrest t ht]
  exact replaceRows_filter (S := schema) h hrows

theorem replaceFeedSets_stored {a : Unit} (hc : c.OfFeed)
    (h : replaceFeedSets c d = (.ok a, e)) : StoredSets c e := by
  have hthen : ∀ {t : Table} {ts : List Table} {p : t.Row → Bool} {rows : List t.Row} {s u : Db}
      {b : Unit}, replaceRows (S := schema) t p rows s = (.ok b, u) →
        SameOutside (S := schema) ts u e → SameOutside (S := schema) (t :: ts) s e :=
    fun hrun hrest => trans_of (SameOutside _)
      (((Writes.replaceRows List.mem_cons_self).sameOutside (List.Subset.refl _)).run hrun)
      (hrest.mono (List.subset_cons_self _ _))
  obtain ⟨_, d₁, hfeedRoutes, h⟩ := bind_ok h
  obtain ⟨_, d₂, hremoteItems, h⟩ := bind_ok h
  obtain ⟨_, d₃, hlistValues, h⟩ := bind_ok h
  obtain ⟨_, d₄, hliveEvents, h⟩ := bind_ok h
  obtain ⟨_, d₅, hcontributors, h⟩ := bind_ok h
  obtain ⟨_, d₆, hentityIds, h⟩ := bind_ok h
  obtain ⟨_, d₇, hentityLinks, h⟩ := bind_ok h
  obtain ⟨_, d₈, hreleaseClaims, h⟩ := bind_ok h
  obtain ⟨_, d₉, henclosures, h⟩ := bind_ok h
  obtain ⟨_, d₁₀, htranscripts, hplatforms⟩ := bind_ok h
  have hlast : SameOutside (S := schema) [] e e := refl_of _ e
  have h₁₀ := hthen hplatforms hlast
  have h₉ := hthen htranscripts h₁₀
  have h₈ := hthen henclosures h₉
  have h₇ := hthen hreleaseClaims h₈
  have h₆ := hthen hentityLinks h₇
  have h₅ := hthen hentityIds h₆
  have h₄ := hthen hcontributors h₅
  have h₃ := hthen hliveEvents h₄
  have h₂ := hthen hlistValues h₃
  have h₁ := hthen hremoteItems h₂
  exact {
    feedRoutes := by
      apply replaced_filter hfeedRoutes h₁ (by decide)
      intro r hr
      obtain ⟨route, hroute, rfl⟩ := List.mem_map.mp hr
      exact beq_iff_eq.mpr (hc.feedRoutes route hroute)
    remoteItems := replaced_filter hremoteItems h₂ (by decide) fun r hr =>
      beq_iff_eq.mpr (hc.remoteItems r hr)
    feedListValues := by
      apply replaced_filter hlistValues h₃ (by decide)
      intro r hr
      obtain ⟨value, hvalue, rfl⟩ := List.mem_map.mp hr
      exact beq_iff_eq.mpr (hc.feedListValues value hvalue)
    liveEvents := replaced_filter hliveEvents h₄ (by decide) fun r hr =>
      beq_iff_eq.mpr (hc.liveEvents r (mem_of_mem_dedupeBy hr))
    contributorClaims := replaced_filter hcontributors h₅ (by decide) fun r hr =>
      beq_iff_eq.mpr (hc.contributorClaims r (mem_of_mem_dedupeBy hr)).1
    entityIds := replaced_filter hentityIds h₆ (by decide) fun r hr =>
      beq_iff_eq.mpr (hc.entityIds r (mem_of_mem_dedupeBy hr)).1
    entityLinks := replaced_filter hentityLinks h₇ (by decide) fun r hr =>
      beq_iff_eq.mpr (hc.entityLinks r (mem_of_mem_dedupeBy hr)).1
    releaseClaims := replaced_filter hreleaseClaims h₈ (by decide) fun r hr =>
      beq_iff_eq.mpr (hc.releaseClaims r (mem_of_mem_dedupeBy hr)).1
    itemEnclosures := replaced_filter henclosures h₉ (by decide) fun r hr =>
      beq_iff_eq.mpr (hc.itemEnclosures r (mem_of_mem_dedupeBy hr)).1
    itemTranscripts := replaced_filter htranscripts h₁₀ (by decide) fun r hr =>
      beq_iff_eq.mpr (hc.itemTranscripts r (mem_of_mem_dedupeBy hr)).1
    platformClaims := replaced_filter hplatforms hlast (by decide) fun r hr =>
      beq_iff_eq.mpr (hc.platformClaims r hr) }

theorem ingestTransaction_sets [Platform] {env : PrimaryEnv} {removalUuid : Nat → String}
    {eventRows : List EventRow} {feedMove : Option FeedMoveWrite}
    {seqs : List (Int × String × String)} (hc : c.OfFeed)
    (h : ingestTransaction env removalUuid c eventRows feedMove d = (.ok seqs, e)) :
    StoredSets c e := by
  obtain ⟨d₁, d₂, d₃, d₄, -, hsets, htracks, hremoved, hrest⟩ := ingestTransaction_states h
  apply (replaceFeedSets_stored hc hsets).congr
  have hafter : ∀ t ∈ feedSetTables, t ∉ afterContentTables ∧ t ∉ trackDeleteTables ∧
      t ∉ trackSetTables := by decide
  intro t ht
  obtain ⟨hrestTable, hremoveTable, htrackTable⟩ := hafter t ht
  rw [hrest t hrestTable,
    (Writes.forEach (fun _ => removeStaleTrack_writes) t hremoveTable).run hremoved,
    (Writes.forEach (fun _ => writeTrack_writes) t htrackTable).run htracks]

end Stophammer
