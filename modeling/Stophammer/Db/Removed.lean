import Stophammer.Db.Cascade
import Stophammer.Db.FeedRows
import Stophammer.Relational.Taken

/-!
# The rows that the deletes take

The exact rows that leave with a track and with a feed, from any state.
-/

namespace Stophammer

open Relational Statement

/-- The index has an entity at the rowid. -/
def hasEntityAt (d : Db) (rowid : Int) : Bool :=
  (d .searchEntities).any fun r : SearchEntityRow => r.rowid == rowid

/-- The entities at these rowids, and the index rows beside them. -/
def indexTakes (rowids : List Int) (d : Db) : (t : Table) → t.Row → Bool
  | .searchEntities, r => rowids.contains r.rowid
  | .searchIndex, r => rowids.contains r.rowid && hasEntityAt d r.rowid
  | _, _ => false

theorem hasEntityAt_eq {d : Db} {rowid : Int} :
    hasEntityAt d rowid = (searchEntityAt d rowid).isSome := by
  rw [Bool.eq_iff_iff, hasEntityAt, searchEntityAt, List.find?_isSome, List.any_eq_true]

theorem indexTakes_nil {d : Db} : Without (S := schema) (indexTakes [] d) d d := by
  intro t
  symm
  rw [List.filter_eq_self]
  intro r _
  cases t <;> rfl

theorem indexTakes_append {rowids others : List Int} {d e f : Db}
    (h : Without (S := schema) (indexTakes rowids d) d e)
    (h' : Without (S := schema) (indexTakes others e) e f) :
    Without (S := schema) (indexTakes (rowids ++ others) d) d f := by
  apply (h.trans h').congr
  intro t r hr
  have hat : ∀ rowid, hasEntityAt e rowid = (!rowids.contains rowid && hasEntityAt d rowid) := by
    intro rowid
    rw [hasEntityAt, h .searchEntities, List.any_filter, hasEntityAt, Bool.eq_iff_iff]
    simp only [List.any_eq_true, Bool.and_eq_true, beq_iff_eq, indexTakes]
    constructor
    · rintro ⟨r, hr, hkept, rfl⟩
      exact ⟨hkept, r, hr, rfl⟩
    · rintro ⟨hkept, r, hr, rfl⟩
      exact ⟨r, hr, hkept, rfl⟩
  cases t with
  | searchEntities => simp only [indexTakes, List.contains_eq_any_beq, List.any_append]
  | searchIndex =>
    simp only [indexTakes, hat, List.contains_eq_any_beq, List.any_append]
    cases rowids.any _ <;> cases hasEntityAt d _ <;> cases others.any _ <;> rfl
  | _ => rfl

section

variable [Platform] {d e : Db} {feedGuid trackGuid : String}

theorem deleteFromSearchIndex_without {entityType entityId : String} {a : Unit}
    (h : deleteFromSearchIndex entityType entityId d = (.ok a, e)) :
    Without (S := schema) (indexTakes [rowidFor entityType entityId] d) d e := by
  unfold deleteFromSearchIndex at h
  set rowid := rowidFor entityType entityId with hrowid
  rw [read_bind_run] at h
  cases hat : searchEntityAt d rowid with
  | none =>
    rw [hat] at h
    have hwithout := Takes.delete d _ e h
    apply hwithout.congr
    intro t r hr
    cases t with
    | searchIndex =>
      have hnone : hasEntityAt d r.rowid = true → r.rowid ≠ rowid := by
        intro hentity hsame
        rw [hasEntityAt_eq, hsame, hat] at hentity
        cases hentity
      rw [onTable_other (by decide), indexTakes]
      cases hentity : hasEntityAt d r.rowid with
      | false => rw [Bool.and_false]
      | true => simp [hnone hentity]
    | searchEntities =>
      rw [onTable_same, indexTakes, List.contains_cons, List.contains_nil, Bool.or_false]
    | _ => exact onTable_other (by decide) _ _
  | some existing =>
    rw [hat] at h
    obtain ⟨_, d₁, hindex, hentities⟩ := bind_ok h
    have hwithout := (Takes.delete d _ d₁ hindex).trans (Takes.delete d₁ _ e hentities)
    apply hwithout.congr
    intro t r hr
    cases t with
    | searchIndex =>
      have hentity : r.rowid = rowid → hasEntityAt d r.rowid = true := by
        intro hsame
        rw [hasEntityAt_eq, hsame, hat]
        rfl
      simp only [onTable_same, onTable_other (S := schema) (u := .searchEntities)
        (t := .searchIndex) (by decide), Bool.or_false, indexTakes, List.contains_cons,
        List.contains_nil]
      cases hrow : r.rowid == rowid with
      | false => rfl
      | true => rw [hentity (beq_iff_eq.mp hrow)]; rfl
    | searchEntities =>
      simp only [onTable_same, onTable_other (S := schema) (u := .searchIndex)
        (t := .searchEntities) (by decide), Bool.false_or, indexTakes, List.contains_cons,
        List.contains_nil, Bool.or_false]
    | _ => simp [indexTakes]

theorem deleteAllFromSearchIndex_without {entityType : String} {entityId : String → String}
    {xs : List String} {a : Unit}
    (h : forEach (fun x => deleteFromSearchIndex entityType (entityId x)) xs d = (.ok a, e)) :
    Without (S := schema) (indexTakes (xs.map fun x => rowidFor entityType (entityId x)) d) d e := by
  induction xs generalizing d with
  | nil =>
    cases h
    exact indexTakes_nil
  | cons x xs ih =>
    rw [forEach_cons] at h
    obtain ⟨_, d₁, hfirst, hrest⟩ := bind_ok h
    exact indexTakes_append (deleteFromSearchIndex_without hfirst) (ih hrest)

end

def trackRows (feedGuid trackGuid : String) : (t : Table) → t.Row → Bool
  | .valueTimeSplits, r => isSplitOf feedGuid trackGuid r
  | .paymentRoutes, r => r.feedGuid == feedGuid && r.trackGuid == trackGuid
  | .trackRemoteItemsRaw, r => isTrackRemoteItemOf feedGuid trackGuid r
  | .entityQuality, r => r.entityType == "track" &&
      (r.entityId == canonicalTrackEntityId feedGuid trackGuid || r.entityId == trackGuid)
  | _, _ => false

theorem tracksCleanupBeforeDelete_takes {old : Track} :
    Takes (S := schema) (trackRows old.feedGuid old.trackGuid) (tracksCleanupBeforeDelete old) := by
  have htakes := Takes.delete (S := schema) (u := .valueTimeSplits)
      (p := isSplitOf old.feedGuid old.trackGuid) |>.bind fun _ : Unit =>
    Takes.delete (S := schema) (u := .paymentRoutes)
      (p := fun r => r.feedGuid == old.feedGuid && r.trackGuid == old.trackGuid) |>.bind
        fun _ : Unit =>
    Takes.delete (S := schema) (u := .trackRemoteItemsRaw)
      (p := isTrackRemoteItemOf old.feedGuid old.trackGuid) |>.bind fun _ : Unit =>
    Takes.delete (S := schema) (u := .entityQuality)
      (p := fun r => r.entityType == "track" &&
        (r.entityId == canonicalTrackEntityId old.feedGuid old.trackGuid ||
          r.entityId == old.trackGuid))
  intro d a e hrun
  apply (htakes d a e hrun).congr
  intro t r _
  cases t <;> simp [trackRows]

theorem deleteTracks_without {p : Track → Bool} {d e : Db} {a : Unit}
    (h : deleteTracks p d = (.ok a, e)) :
    Without (S := schema) (fun t r =>
      (((d .tracks).filter p).any fun old => trackRows old.feedGuid old.trackGuid t r) ||
        onTable (S := schema) .tracks p t r) d e := by
  have h := transaction_ok.mp h
  rw [read_bind_run] at h
  obtain ⟨_, d₁, hcleanup, hdelete⟩ := bind_ok h
  exact (Takes.forEach (fun _ => tracksCleanupBeforeDelete_takes) _ d _ d₁ hcleanup).trans
    (Takes.delete d₁ _ e hdelete)

theorem any_trackRows {olds : List Track} {feedGuid trackGuid : String}
    (holds : ∀ old ∈ olds, old.feedGuid = feedGuid ∧ old.trackGuid = trackGuid) {t : Table}
    {r : t.Row} (h : (olds.any fun old => trackRows old.feedGuid old.trackGuid t r) = true) :
    trackRows feedGuid trackGuid t r = true := by
  obtain ⟨old, hold, hrow⟩ := List.any_eq_true.mp h
  obtain ⟨hfeed, htrack⟩ := holds old hold
  rwa [hfeed, htrack] at hrow

section

variable [Platform] {d e : Db} {feedGuid trackGuid : String}

def trackTakes (feedGuid trackGuid : String) (d : Db) (t : Table) (r : t.Row) : Bool :=
  indexTakes [rowidFor "track" (canonicalTrackEntityId feedGuid trackGuid)] d t r ||
    (trackRows feedGuid trackGuid t r ||
      onTable (S := schema) .tracks
        (fun r => r.feedGuid == feedGuid && r.trackGuid == trackGuid) t r)

theorem deleteTrackSql_without {a : Unit} (h : deleteTrackSql feedGuid trackGuid d = (.ok a, e)) :
    Without (S := schema) (trackTakes feedGuid trackGuid d) d e := by
  obtain ⟨_, d₁, hsearch, h⟩ := bind_ok h
  obtain ⟨_, d₂, hsplits, h⟩ := bind_ok h
  obtain ⟨_, d₃, hroutes, h⟩ := bind_ok h
  obtain ⟨_, d₄, hquality, h⟩ := bind_ok h
  obtain ⟨_, d₅, hitems, h⟩ := bind_ok h
  have hsets := (Takes.delete d₁ _ d₂ hsplits).trans <| (Takes.delete d₂ _ d₃ hroutes).trans <|
    (Takes.delete d₃ _ d₄ hquality).trans (Takes.delete d₄ _ d₅ hitems)
  have hrows : Without (S := schema) (trackRows feedGuid trackGuid) d₁ d₅ := by
    apply hsets.congr
    intro t r _
    cases t <;> simp [trackRows]
  apply ((deleteFromSearchIndex_without hsearch).trans
    (hrows.trans (deleteTracks_without h))).congr
  intro t r _
  rw [trackTakes]
  cases hcleanup : ((d₅ .tracks).filter fun r : Track =>
      r.feedGuid == feedGuid && r.trackGuid == trackGuid).any fun old =>
        trackRows old.feedGuid old.trackGuid t r with
  | false => rw [Bool.false_or]
  | true =>
    rw [any_trackRows (fun old hold => by simpa using (List.mem_filter.mp hold).2) hcleanup]
    rfl

end

def feedQualityRow (feedGuid : String) (r : EntityQualityRow) : Bool :=
  r.entityType == "feed" && r.entityId == feedGuid

/-- The tables whose rows the trigger of a feed and its cascade take. -/
def cascadeTables : List Table :=
  [.feedPaymentRoutes, .feedListValueRaw, .feedRemoteItemsRaw, .liveEvents] ++ sourceClaimTables

def cascadeRows (feedGuid : String) (t : Table) (r : t.Row) : Bool :=
  onTable (S := schema) .entityQuality (feedQualityRow feedGuid) t r ||
    (decide (t ∈ cascadeTables) && ofFeed feedGuid t r)

section

variable {d e : Db} {feedGuid : String}

theorem deleteOf_takes {g : String} {u : Table} {column : u.Row → String}
    (hcolumn : ∀ r, u.feedOf r = some (column r)) :
    Takes (S := schema) (fun t r => decide (t = u) && ofFeed g t r)
      (delete (S := schema) u fun r => column r == g) := by
  intro d a e hrun
  apply (Takes.delete d a e hrun).congr
  intro t r _
  by_cases ht : t = u
  · subst ht
    rw [onTable_same, decide_eq_true rfl, Bool.true_and, ofFeed, hcolumn, Option.some_beq_some]
  · rw [onTable_other ht, decide_eq_false ht, Bool.false_and]

theorem deleteSourceClaims_takes :
    Takes (S := schema) (fun t r => decide (t ∈ sourceClaimTables) && ofFeed feedGuid t r)
      (deleteSourceClaims feedGuid) := by
  intro d a e h
  obtain ⟨_, d₁, hcontributors, h⟩ := bind_ok h
  obtain ⟨_, d₂, hids, h⟩ := bind_ok h
  obtain ⟨_, d₃, hlinks, h⟩ := bind_ok h
  obtain ⟨_, d₄, hreleases, h⟩ := bind_ok h
  obtain ⟨_, d₅, henclosures, h⟩ := bind_ok h
  obtain ⟨_, d₆, htranscripts, hplatforms⟩ := bind_ok h
  have htakes := ((deleteOf_takes fun _ => rfl) d _ d₁ hcontributors).trans <|
    ((deleteOf_takes fun _ => rfl) d₁ _ d₂ hids).trans <|
    ((deleteOf_takes fun _ => rfl) d₂ _ d₃ hlinks).trans <|
    ((deleteOf_takes fun _ => rfl) d₃ _ d₄ hreleases).trans <|
    ((deleteOf_takes fun _ => rfl) d₄ _ d₅ henclosures).trans <|
    ((deleteOf_takes fun _ => rfl) d₅ _ d₆ htranscripts).trans <|
    (deleteOf_takes fun _ => rfl) d₆ _ e hplatforms
  apply htakes.congr
  intro t r _
  cases t <;> simp [sourceClaimTables]

theorem feedsCleanup_without {old : FeedRow} {a : Unit} (hguid : old.feed.feedGuid = feedGuid)
    (hnone : getTracksForFeed d feedGuid = [])
    (h : feedsCleanupBeforeDelete old d = (.ok a, e)) :
    Without (S := schema) (cascadeRows feedGuid) d e := by
  unfold feedsCleanupBeforeDelete at h
  rw [hguid] at h
  obtain ⟨_, d₁, hroutes, h⟩ := bind_ok h
  obtain ⟨_, d₂, hvalues, h⟩ := bind_ok h
  obtain ⟨_, d₃, hquality, h⟩ := bind_ok h
  obtain ⟨_, d₄, hitems, h⟩ := bind_ok h
  obtain ⟨_, d₅, hlive, h⟩ := bind_ok h
  obtain ⟨_, d₆, hclaims, htracks⟩ := bind_ok h
  have hsets := ((deleteOf_takes fun _ => rfl) d _ d₁ hroutes).trans <|
    ((deleteOf_takes fun _ => rfl) d₁ _ d₂ hvalues).trans <|
    (Takes.delete d₂ _ d₃ hquality).trans <|
    ((deleteOf_takes fun _ => rfl) d₃ _ d₄ hitems).trans <|
    ((deleteOf_takes fun _ => rfl) d₄ _ d₅ hlive).trans <|
    deleteSourceClaims_takes d₅ _ d₆ hclaims
  have hcascade : Without (S := schema) (cascadeRows feedGuid) d d₆ := by
    apply hsets.congr
    intro t r _
    cases t <;> simp [cascadeRows, cascadeTables, sourceClaimTables, feedQualityRow]
  have hgone : ∀ r ∈ d₆ .tracks, (r.feedGuid == feedGuid) = false := by
    intro r hr
    have hmem := (hcascade.mem.mp hr).1
    exact (Bool.not_eq_true _).mp (List.filter_eq_nil_iff.mp hnone r hmem)
  have hsame : e = d₆ := by
    apply (deleteTracks_without htracks).eq_of_none
    intro t r hr
    have holds : ((d₆ .tracks).filter fun r : Track => r.feedGuid == feedGuid) = [] :=
      List.filter_eq_nil_iff.mpr fun r hr => by rw [hgone r hr]; decide
    rw [holds, List.any_nil, Bool.false_or]
    by_cases ht : t = .tracks
    · subst ht
      rw [onTable_same, hgone r hr]
    · exact onTable_other ht _ _
  rw [hsame]
  exact hcascade

theorem forEach_feedsCleanup_without {olds : List FeedRow} {a : Unit}
    (hguids : ∀ old ∈ olds, old.feed.feedGuid = feedGuid)
    (hnone : getTracksForFeed d feedGuid = [])
    (h : forEach feedsCleanupBeforeDelete olds d = (.ok a, e)) :
    Without (S := schema) (fun t r => !olds.isEmpty && cascadeRows feedGuid t r) d e := by
  induction olds generalizing d with
  | nil =>
    cases h
    intro t
    symm
    rw [List.filter_eq_self]
    exact fun _ _ => rfl
  | cons old olds ih =>
    rw [forEach_cons] at h
    obtain ⟨_, d₁, hfirst, hrest⟩ := bind_ok h
    have hcleanup := feedsCleanup_without (hguids old List.mem_cons_self) hnone hfirst
    have hstill : getTracksForFeed d₁ feedGuid = [] := by
      rw [getTracksForFeed, List.filter_eq_nil_iff]
      exact fun r hr => List.filter_eq_nil_iff.mp hnone r (hcleanup.mem.mp hr).1
    apply (hcleanup.trans
      (ih (fun old' hold' => hguids old' (List.mem_cons_of_mem _ hold')) hstill hrest)).congr
    intro t r _
    cases cascadeRows feedGuid t r <;> simp

theorem deleteFeeds_without {a : Unit} (hnone : getTracksForFeed d feedGuid = [])
    (h : deleteFeeds (fun r : FeedRow => r.feed.feedGuid == feedGuid) d = (.ok a, e)) :
    Without (S := schema) (fun t r =>
      (getFeedByGuid d feedGuid).isSome && (cascadeRows feedGuid t r ||
        (decide (t = .sourceGoneAnswers) && ofFeed feedGuid t r)) ||
      (decide (t = .feeds) && ofFeed feedGuid t r)) d e := by
  have h := transaction_ok.mp h
  rw [read_bind_run] at h
  obtain ⟨_, d₁, hcleanup, h⟩ := bind_ok h
  obtain ⟨_, d₂, hanswers, hfeeds⟩ := bind_ok h
  set olds := (d .feeds).filter fun r : FeedRow => r.feed.feedGuid == feedGuid with holds
  have hguids : ∀ old ∈ olds, old.feed.feedGuid = feedGuid :=
    fun old hold => beq_iff_eq.mp (List.mem_filter.mp hold).2
  have hsome : (getFeedByGuid d feedGuid).isSome = !olds.isEmpty := by
    rw [getFeedByGuid, Option.isSome_map, holds, Bool.eq_iff_iff, List.find?_isSome]
    simp [List.filter_eq_nil_iff]
  have htakes := (forEach_feedsCleanup_without hguids hnone hcleanup).trans <|
    ((Takes.forEach (fun old => deleteOf_takes (u := .sourceGoneAnswers)
      (g := old.feed.feedGuid) fun _ => rfl) olds) d₁ _ d₂ hanswers).trans
    ((deleteOf_takes fun _ => rfl) d₂ _ e hfeeds)
  apply htakes.congr
  intro t r _
  have hany : (olds.any fun old => decide (t = .sourceGoneAnswers) &&
      ofFeed old.feed.feedGuid t r) =
        (!olds.isEmpty && (decide (t = .sourceGoneAnswers) && ofFeed feedGuid t r)) := by
    rw [Bool.eq_iff_iff, List.any_eq_true]
    simp only [Bool.and_eq_true, Bool.not_eq_true', List.isEmpty_eq_false_iff_exists_mem]
    constructor
    · rintro ⟨old, hold, hrow⟩
      rw [hguids old hold] at hrow
      exact ⟨⟨old, hold⟩, hrow⟩
    · rintro ⟨⟨old, hold⟩, hrow⟩
      rw [← hguids old hold] at hrow
      exact ⟨old, hold, hrow⟩
  rw [hany, hsome]
  cases olds.isEmpty <;> simp [Bool.or_assoc]

end

section

variable [Platform] {d e : Db} {feedGuid : String}

def indexRowids (d : Db) (feedGuid : String) : List Int :=
  rowidFor "feed" feedGuid :: rowidFor "publisher" feedGuid ::
    ((getTracksForFeed d feedGuid).map Track.trackGuid).map fun trackGuid =>
      rowidFor "track" (canonicalTrackEntityId feedGuid trackGuid)

omit [Platform] in
/-- The rows that name a track by its GUID alone, and its scores. -/
def bareRows (feedGuid trackGuid : String) : (t : Table) → t.Row → Bool
  | .valueTimeSplits, r => r.sourceTrackGuid == trackGuid && r.sourceFeedGuid == none
  | .trackRemoteItemsRaw, r => r.trackGuid == trackGuid && r.feedGuid == none
  | .entityQuality, r => r.entityType == "track" &&
      (r.entityId == canonicalTrackEntityId feedGuid trackGuid || r.entityId == trackGuid)
  | _, _ => false

def feedTakes (feedGuid : String) (d : Db) (t : Table) (r : t.Row) : Bool :=
  indexTakes (indexRowids d feedGuid) d t r || (ofFeed feedGuid t r ||
    (onTable (S := schema) .entityQuality (feedQualityRow feedGuid) t r ||
      ((getTracksForFeed d feedGuid).map Track.trackGuid).any fun trackGuid =>
        bareRows feedGuid trackGuid t r))

omit [Platform] in
theorem ofFeed_of_trackRows {trackGuid : String} {t : Table} {r : t.Row}
    (h : trackRows feedGuid trackGuid t r = true) :
    ofFeed feedGuid t r = true ∨ bareRows feedGuid trackGuid t r = true := by
  cases t with
  | valueTimeSplits =>
    simp only [trackRows, isSplitOf, Bool.and_eq_true, Bool.or_eq_true, beq_iff_eq] at h
    rcases h.2 with hfeed | hnone
    · exact .inl (by rw [ofFeed, Table.feedOf, hfeed, beq_self_eq_true])
    · exact .inr (by simp [bareRows, h.1, hnone])
  | trackRemoteItemsRaw =>
    simp only [trackRows, isTrackRemoteItemOf, Bool.and_eq_true, Bool.or_eq_true, beq_iff_eq] at h
    rcases h.2 with hfeed | hnone
    · exact .inl (by rw [ofFeed, Table.feedOf, hfeed, beq_self_eq_true])
    · exact .inr (by simp [bareRows, h.1, hnone])
  | paymentRoutes =>
    simp only [trackRows, Bool.and_eq_true, beq_iff_eq] at h
    exact .inl (by rw [ofFeed, Table.feedOf, h.1, beq_self_eq_true])
  | entityQuality => exact .inr h
  | _ => cases h

omit [Platform] in
theorem cascade_needs_feed {t : Table} (ht : t = .feedListValueRaw ∨ t = .sourceGoneAnswers)
    {r : t.Row} (hr : r ∈ d t) (hfeed : ofFeed feedGuid t r = true) :
    (getFeedByGuid d feedGuid).isSome = true := by
  have hkey : Key.feed feedGuid ∈ t.refs r := by
    rcases ht with rfl | rfl
    all_goals
      have hguid : r.feedGuid = feedGuid := Option.some.inj (beq_iff_eq.mp hfeed)
      rw [← hguid]
      exact List.mem_singleton_self _
  obtain ⟨row, hrow, hrowKey⟩ :=
    (Database.has_iff (show schema.home (.feed feedGuid) = Table.feeds from rfl)).mp
      (d.valid.referenced t r hr _ hkey)
  simp only [Table.keys, List.mem_cons, List.not_mem_nil, or_false, Key.feed.injEq,
    reduceCtorEq] at hrowKey
  rw [getFeedByGuid, Option.isSome_map, List.find?_isSome]
  exact ⟨row, hrow, by rw [hrowKey, beq_self_eq_true]⟩

omit [Platform] in
/-- The tables that a delete of a feed comes to last. -/
def lateTables : List Table := [.tracks, .feedListValueRaw, .sourceGoneAnswers, .feeds]

theorem deleteFeedSql_without {a : Unit} (h : deleteFeedSql feedGuid d = (.ok a, e)) :
    Without (S := schema) (feedTakes feedGuid d) d e := by
  unfold deleteFeedSql at h
  rw [read_bind_run] at h
  set trackGuids := (getTracksForFeed d feedGuid).map Track.trackGuid with htrackGuids
  obtain ⟨_, i₁, hfeedIndex, h⟩ := bind_ok h
  obtain ⟨_, i₂, hpublisherIndex, h⟩ := bind_ok h
  obtain ⟨_, d₁, htrackIndex, h⟩ := bind_ok h
  have hindex : Without (S := schema) (indexTakes (indexRowids d feedGuid) d) d d₁ :=
    indexTakes_append (deleteFromSearchIndex_without hfeedIndex) <|
      indexTakes_append (deleteFromSearchIndex_without hpublisherIndex)
        (deleteAllFromSearchIndex_without htrackIndex)
  obtain ⟨_, d₂, hsplits, h⟩ := bind_ok h
  obtain ⟨_, d₃, hbareSplits, h⟩ := bind_ok h
  obtain ⟨_, d₄, hroutes, h⟩ := bind_ok h
  obtain ⟨_, d₅, hitems, h⟩ := bind_ok h
  obtain ⟨_, d₆, hbareItems, h⟩ := bind_ok h
  obtain ⟨_, d₇, hfeedRoutes, h⟩ := bind_ok h
  obtain ⟨_, d₈, htrackQuality, h⟩ := bind_ok h
  obtain ⟨_, d₉, hfeedQuality, h⟩ := bind_ok h
  obtain ⟨_, d₁₀, hfeedItems, h⟩ := bind_ok h
  obtain ⟨_, d₁₁, hlive, h⟩ := bind_ok h
  obtain ⟨_, d₁₂, hclaims, h⟩ := bind_ok h
  obtain ⟨_, d₁₃, hcopies, h⟩ := bind_ok h
  obtain ⟨_, d₁₄, hoverflow, h⟩ := bind_ok h
  obtain ⟨_, d₁₅, hleft, h⟩ := bind_ok h
  obtain ⟨_, d₁₆, hmove, h⟩ := bind_ok h
  obtain ⟨_, d₁₇, htracks, hfeeds⟩ := bind_ok h
  have hsets := (Takes.delete d₁ _ d₂ hsplits).trans <|
    ((Takes.forEach (fun _ => Takes.delete) trackGuids) d₂ _ d₃ hbareSplits).trans <|
    ((deleteOf_takes fun _ => rfl) d₃ _ d₄ hroutes).trans <|
    (Takes.delete d₄ _ d₅ hitems).trans <|
    ((Takes.forEach (fun _ => Takes.delete) trackGuids) d₅ _ d₆ hbareItems).trans <|
    ((deleteOf_takes fun _ => rfl) d₆ _ d₇ hfeedRoutes).trans <|
    ((Takes.forEach (fun _ => Takes.delete) trackGuids) d₇ _ d₈ htrackQuality).trans <|
    (Takes.delete d₈ _ d₉ hfeedQuality).trans <|
    ((deleteOf_takes fun _ => rfl) d₉ _ d₁₀ hfeedItems).trans <|
    ((deleteOf_takes fun _ => rfl) d₁₀ _ d₁₁ hlive).trans <|
    (deleteSourceClaims_takes d₁₁ _ d₁₂ hclaims).trans <|
    ((deleteOf_takes fun _ => rfl) d₁₂ _ d₁₃ hcopies).trans <|
    ((deleteOf_takes fun _ => rfl) d₁₃ _ d₁₄ hoverflow).trans <|
    ((deleteOf_takes fun _ => rfl) d₁₄ _ d₁₅ hleft).trans <|
    (deleteOf_takes fun _ => rfl) d₁₅ _ d₁₆ hmove
  have hnone : (trackGuids.any fun _ => false) = false := by simp
  have hbefore : Without (S := schema) (fun t r => indexTakes (indexRowids d feedGuid) d t r ||
      (decide (t ∉ lateTables) && ofFeed feedGuid t r ||
        (onTable (S := schema) .entityQuality (feedQualityRow feedGuid) t r ||
          trackGuids.any fun trackGuid => bareRows feedGuid trackGuid t r))) d d₁₆ := by
    apply (hindex.trans hsets).congr
    intro t r _
    congr 1
    cases t <;>
      simp [lateTables, sourceClaimTables, bareRows, ofFeed, Table.feedOf, hnone, feedQualityRow,
        Bool.or_comm]
  have htracksKept : d₁₆ .tracks = d .tracks := by
    rw [hbefore .tracks, List.filter_eq_self]
    intro r _
    simp [indexTakes, lateTables, bareRows]
  have hdeleted := deleteTracks_without htracks
  have hgone : getTracksForFeed d₁₇ feedGuid = [] := by
    rw [getTracksForFeed, List.filter_eq_nil_iff]
    intro r hr hguid
    have hfalse := (hdeleted.mem.mp hr).2
    rw [onTable_same, hguid, Bool.or_true] at hfalse
    cases hfalse
  have hfeedsKept : getFeedByGuid d₁₇ feedGuid = getFeedByGuid d feedGuid := by
    have hrows : d₁₇ .feeds = d .feeds := by
      rw [(deleteTracks_writes .feeds (by decide)).run htracks, hbefore .feeds,
        List.filter_eq_self]
      intro r _
      simp [indexTakes, lateTables, bareRows]
    rw [getFeedByGuid, hrows, getFeedByGuid]
  apply (hbefore.trans (hdeleted.trans (deleteFeeds_without hgone hfeeds))).congr
  intro t r hr
  have hcleanup : (((d₁₆ .tracks).filter fun r : Track => r.feedGuid == feedGuid).any fun old =>
      trackRows old.feedGuid old.trackGuid t r) = true → ofFeed feedGuid t r = true ∨
        (trackGuids.any fun trackGuid => bareRows feedGuid trackGuid t r) = true := by
    intro hany
    obtain ⟨old, hold, hrow⟩ := List.any_eq_true.mp hany
    rw [htracksKept] at hold
    have hguid : old.feedGuid = feedGuid := beq_iff_eq.mp (List.mem_filter.mp hold).2
    rw [hguid] at hrow
    refine (ofFeed_of_trackRows hrow).imp_right fun hbare => ?_
    exact List.any_eq_true.mpr ⟨old.trackGuid, List.mem_map_of_mem hold, hbare⟩
  have htrack : onTable (S := schema) .tracks (fun r : Track => r.feedGuid == feedGuid) t r = true →
      ofFeed feedGuid t r = true := by
    cases t with
    | tracks => exact fun h => by simpa [ofFeed, Table.feedOf] using h
    | _ => simp
  have hlate : ofFeed feedGuid t r = true → t ∈ lateTables →
      onTable (S := schema) .tracks (fun r : Track => r.feedGuid == feedGuid) t r = true ∨
        (getFeedByGuid d feedGuid).isSome = true ∧
          (t ∈ cascadeTables ∨ t = .sourceGoneAnswers) ∨ t = .feeds := by
    intro hfeed ht
    simp only [lateTables, List.mem_cons, List.not_mem_nil, or_false] at ht
    rcases ht with rfl | rfl | rfl | rfl
    · exact .inl (by simpa [ofFeed, Table.feedOf] using hfeed)
    · exact .inr (.inl ⟨cascade_needs_feed (.inl rfl) hr hfeed, .inl (by decide)⟩)
    · exact .inr (.inl ⟨cascade_needs_feed (.inr rfl) hr hfeed, .inr rfl⟩)
    · exact .inr (.inr rfl)
  rw [feedTakes, hfeedsKept, Bool.eq_iff_iff]
  simp only [cascadeRows, Bool.or_eq_true, Bool.and_eq_true, decide_eq_true_iff]
  constructor
  · rintro ((hindex | ⟨-, hfeed⟩ | hset) | (hclean | htracks) |
      ⟨-, (hquality | ⟨-, hfeed⟩) | ⟨-, hfeed⟩⟩ | ⟨-, hfeed⟩)
    · exact .inl hindex
    · exact .inr (.inl hfeed)
    · exact .inr (.inr hset)
    · exact .inr ((hcleanup hclean).imp_right .inr)
    · exact .inr (.inl (htrack htracks))
    · exact .inr (.inr (.inl hquality))
    · exact .inr (.inl hfeed)
    · exact .inr (.inl hfeed)
    · exact .inr (.inl hfeed)
  · rintro (hindex | hfeed | hset)
    · exact .inl (.inl hindex)
    · by_cases ht : t ∈ lateTables
      · rcases hlate hfeed ht with htracks | ⟨hsome, hcascade | rfl⟩ | rfl
        · exact .inr (.inl (.inr htracks))
        · exact .inr (.inr (.inl ⟨hsome, .inl (.inr ⟨hcascade, hfeed⟩)⟩))
        · exact .inr (.inr (.inl ⟨hsome, .inr ⟨rfl, hfeed⟩⟩))
        · exact .inr (.inr (.inr ⟨rfl, hfeed⟩))
      · exact .inl (.inr (.inl ⟨ht, hfeed⟩))
    · exact .inl (.inr (.inr hset))

end

end Stophammer
