import Stophammer.Db.ReadModels
import Stophammer.Relational.Outcome

/-!
# Stray rows of the index

A row of the full-text index with no entity beside it stops an insert at its rowid.  The
writes of the read models make no such row, and they never take one away.
-/

namespace Stophammer

open Relational Statement Database

/-- The index has a row at the rowid, and the companion table none. -/
def Stray (d : Db) (rowid : Int) : Prop :=
  (∃ r : SearchIndexRow, r ∈ d .searchIndex ∧ r.rowid = rowid) ∧
    ∀ r : SearchEntityRow, r ∈ d .searchEntities → r.rowid ≠ rowid

theorem stray_congr {d e : Db} (hindex : e .searchIndex = d .searchIndex)
    (hentities : e .searchEntities = d .searchEntities) : Stray e = Stray d := by
  funext rowid
  rw [Stray, Stray, hindex, hentities]

theorem leaves_stray {ts : List Table} {α : Type} {x : Stmt α} (hx : Writes (S := schema) ts x)
    (hindex : Table.searchIndex ∉ ts) (hentities : Table.searchEntities ∉ ts) : Leaves Stray x :=
  fun d => stray_congr (hx _ hindex d) (hx _ hentities d)

theorem storeQuality_ends {entityType entityId : String} {score : Int} :
    Ends (storeQuality entityType entityId score) := by
  intro d
  obtain ⟨e, hrun, -⟩ := upsert_run (S := schema) (t := .entityQuality) (d := d)
    (p := fun r : EntityQualityRow => r.entityType == entityType && r.entityId == entityId)
    (r := { entityType := entityType, entityId := entityId, score := score })
    (f := fun r : EntityQualityRow => { r with score := score })
    (by
      intro r _ hp k hk hkey
      simp only [Table.keys, List.mem_singleton] at hk hkey
      rw [hk, Key.quality.injEq] at hkey
      simp [hkey.1, hkey.2] at hp)
    rfl (fun _ hk => by cases hk) (fun _ _ _ => rfl) (fun _ _ _ => rfl) fun _ _ _ => rfl
  exact ⟨(), e, hrun⟩

section

variable [Platform]

omit [Platform] in
theorem searchEntityAt_none {d : Db} {rowid : Int} (h : searchEntityAt d rowid = none)
    {r : SearchEntityRow} (hr : r ∈ d .searchEntities) : r.rowid ≠ rowid := by
  intro hrowid
  exact List.find?_eq_none.mp h r hr (by rw [hrowid, beq_self_eq_true])

omit [Platform] in
theorem searchEntityAt_some {d : Db} {rowid : Int} {r : SearchEntityRow}
    (h : searchEntityAt d rowid = some r) : r ∈ d .searchEntities ∧ r.rowid = rowid :=
  ⟨List.mem_of_find?_eq_some h, by simpa using List.find?_some h⟩

omit [Platform] in
theorem stray_deleted {d e : Db} (rowid : Int)
    (hentities : e .searchEntities = (d .searchEntities).filter fun r : SearchEntityRow =>
      !(r.rowid == rowid))
    (hindex : e .searchIndex = d .searchIndex ∧ searchEntityAt d rowid = none ∨
      e .searchIndex = ((d .searchIndex).filter fun r : SearchIndexRow => !(r.rowid == rowid)) ∧
        (searchEntityAt d rowid).isSome) : Stray e = Stray d := by
  funext other
  apply propext
  unfold Stray
  rw [hentities]
  simp only [List.mem_filter, Bool.not_eq_true', beq_eq_false_iff_ne, and_imp]
  rcases hindex with ⟨hindex, hnone⟩ | ⟨hindex, hsome⟩
  · rw [hindex]
    refine and_congr_right' ⟨fun h r hr hrowid => ?_, fun h r hr _ => h r hr⟩
    exact h r hr (searchEntityAt_none hnone hr) hrowid
  · rw [hindex]
    obtain ⟨entity, hentity⟩ := Option.isSome_iff_exists.mp hsome
    obtain ⟨hmem, hrowid⟩ := searchEntityAt_some hentity
    simp only [List.mem_filter, Bool.not_eq_true', beq_eq_false_iff_ne]
    constructor
    · rintro ⟨⟨row, ⟨hrow, hne⟩, rfl⟩, hnone⟩
      refine ⟨⟨row, hrow, rfl⟩, fun r hr hsame => ?_⟩
      exact hnone r hr (by rw [hsame]; exact hne) hsame
    · rintro ⟨⟨row, hrow, rfl⟩, hnone⟩
      have hne : row.rowid ≠ rowid := fun hsame => hnone entity hmem (hrowid.trans hsame.symm)
      exact ⟨⟨row, ⟨hrow, hne⟩, rfl⟩, fun r hr _ => hnone r hr⟩

theorem deleteFromSearchIndex_leaves {entityType entityId : String} :
    Leaves Stray (deleteFromSearchIndex entityType entityId) := by
  intro d
  set rowid := rowidFor entityType entityId with hrowid
  have hentities : ∀ d : Db, ∃ e, delete (S := schema) .searchEntities
      (fun r : SearchEntityRow => r.rowid == rowid) d = (.ok (), e) ∧
      e.contents = d.contents.set .searchEntities
        ((d .searchEntities).filter fun r : SearchEntityRow => !(r.rowid == rowid)) :=
    fun d => delete_ok d (leaf_of_ne (by decide) (by decide)) _
  unfold deleteFromSearchIndex
  simp only [read_bind_run, ← hrowid]
  rcases hat : searchEntityAt d rowid with _ | entity
  · obtain ⟨e, hrun, hcontents⟩ := hentities d
    simp only [hrun]
    apply stray_deleted rowid
    · rw [hcontents, Contents.set_same]
    · exact .inl ⟨by rw [hcontents, Contents.set_other (by decide)], hat⟩
  · obtain ⟨d₁, hindex, hcontents₁⟩ := delete_ok (S := schema) (t := .searchIndex) d
      (leaf_of_ne (by decide) (by decide)) fun r : SearchIndexRow => r.rowid == rowid
    obtain ⟨e, hrun, hcontents⟩ := hentities d₁
    simp only [bind_run_ok hindex, hrun]
    apply stray_deleted rowid
    · rw [hcontents, Contents.set_same, hcontents₁, Contents.set_other (by decide)]
    · refine .inr ⟨?_, by rw [hat]; rfl⟩
      rw [hcontents, Contents.set_other (by decide), hcontents₁, Contents.set_same]

omit [Platform] in
theorem writeRow_run (entityType entityId name title description : String) {rowid : Int} {d : Db}
    (h : ∀ r : SearchIndexRow, r ∈ d .searchIndex → r.rowid ≠ rowid) :
    ∃ e, populateSearchIndex.writeRow entityType entityId name title description rowid d =
      (.ok (), e) ∧ Stray e = Stray d := by
  have hadmits : d.Admits .searchIndex
      ({ rowid := rowid
         name := truncateFtsField name
         title := truncateFtsField title
         description := truncateFtsField description } : SearchIndexRow) := by
    refine ⟨fun k hk hhas => ?_, rfl, fun k hk => by cases hk⟩
    rw [List.mem_singleton.mp hk] at hhas
    obtain ⟨r, hr, hkey⟩ := (has_iff
      (show schema.home (.searchIndex rowid) = Table.searchIndex from rfl)).mp hhas
    simp only [Table.keys, List.mem_singleton, Key.searchIndex.injEq] at hkey
    exact h r hr hkey.symm
  obtain ⟨d₁, hindex, hcontents₁⟩ := insert_ok d hadmits
  obtain ⟨e, hrun, hcontents⟩ := insertOrReplace_run (S := schema) (t := .searchEntities)
    (leaf_of_ne (by decide) (by decide)) (d := d₁)
    (r := ({ rowid := rowid, entityType := entityType, entityId := entityId } : SearchEntityRow))
    rfl (fun k hk => by cases hk)
  refine ⟨e, ?_, ?_⟩
  · unfold populateSearchIndex.writeRow
    rw [bind_run_ok hindex, hrun]
  · have hindexRows : e .searchIndex = d .searchIndex ++
        [{ rowid := rowid
           name := truncateFtsField name
           title := truncateFtsField title
           description := truncateFtsField description }] := by
      rw [hcontents, Contents.set_other (by decide), hcontents₁, Contents.set_same]
    have hentityRows : ∀ r : SearchEntityRow, r ∈ e .searchEntities ↔
        r ∈ d .searchEntities ∧ r.rowid ≠ rowid ∨
          r = { rowid := rowid, entityType := entityType, entityId := entityId } := by
      intro r
      rw [hcontents, Contents.set_same, hcontents₁, Contents.set_other (by decide)]
      simp only [List.mem_append, List.mem_filter, List.mem_singleton, Table.keys,
        decide_eq_true_eq, Key.searchEntity.injEq, forall_eq, ne_comm (a := r.rowid), ne_eq]
    funext other
    apply propext
    unfold Stray
    rw [hindexRows]
    simp only [hentityRows, List.mem_append, List.mem_singleton]
    constructor
    · rintro ⟨⟨row, hrow, rfl⟩, hnone⟩
      have hne : rowid ≠ row.rowid := hnone _ (.inr rfl)
      rcases hrow with hrow | rfl
      · refine ⟨⟨row, hrow, rfl⟩, fun r hr hsame => hnone r (.inl ⟨hr, ?_⟩) hsame⟩
        rw [hsame]
        exact hne.symm
      · exact absurd rfl hne
    · rintro ⟨⟨row, hrow, rfl⟩, hnone⟩
      refine ⟨⟨row, .inl hrow, rfl⟩, ?_⟩
      rintro r (⟨hr, -⟩ | rfl)
      · exact hnone r hr
      · exact (h row hrow).symm

omit [Platform] in
theorem writeRow_stray {entityType entityId name title description : String} {rowid : Int}
    {d : Db} (h : ∃ r : SearchIndexRow, r ∈ d .searchIndex ∧ r.rowid = rowid) :
    ∃ err e, populateSearchIndex.writeRow entityType entityId name title description rowid d =
      (.error err, e) := by
  obtain ⟨row, hrow, hsame⟩ := h
  have hadmits : ¬ d.Admits .searchIndex
      ({ rowid := rowid
         name := truncateFtsField name
         title := truncateFtsField title
         description := truncateFtsField description } : SearchIndexRow) := by
    intro hadmits
    apply hadmits.fresh (.searchIndex rowid) (by simp [Table.keys])
    exact (has_iff (show schema.home (.searchIndex rowid) = Table.searchIndex from rfl)).mpr
      ⟨row, hrow, by simp [Table.keys, hsame]⟩
  refine ⟨.rusqlite .searchIndex, d, ?_⟩
  unfold populateSearchIndex.writeRow
  rw [bind_run_error (insert_error d hadmits)]

theorem populateSearchIndex_decides {entityType entityId name title description : String}
    {strays : Int → Prop} :
    Decides (fun d => Stray d = strays) (¬ strays (rowidFor entityType entityId))
      (populateSearchIndex entityType entityId name title description)
      fun _ d => Stray d = strays := by
  rintro d rfl
  set rowid := rowidFor entityType entityId with hrowid
  unfold populateSearchIndex
  simp only [read_bind_run, ← hrowid]
  rcases hat : searchEntityAt d rowid with _ | existing
  · by_cases hrow : ∃ r : SearchIndexRow, r ∈ d .searchIndex ∧ r.rowid = rowid
    · exact .inr ⟨fun h => h ⟨hrow, fun r hr => searchEntityAt_none hat hr⟩, writeRow_stray hrow⟩
    · obtain ⟨e, hrun, hstray⟩ := writeRow_run entityType entityId name title description
        fun r hr hsame => hrow ⟨r, hr, hsame⟩
      exact .inl ⟨fun h => hrow h.1, (), e, hrun, hstray⟩
  · obtain ⟨hmem, hsame⟩ := searchEntityAt_some hat
    have hnot : ¬ Stray d rowid := fun h => h.2 existing hmem hsame
    refine .inl ⟨hnot, ?_⟩
    by_cases hother : (existing.entityType != entityType || existing.entityId != entityId) = true
    · simp only [hother, if_true]
      exact ⟨(), d, rfl, rfl⟩
    · simp only [hother]
      obtain ⟨d₁, hdelete, hcontents₁⟩ := delete_ok (S := schema) (t := .searchIndex) d
        (leaf_of_ne (by decide) (by decide)) fun r : SearchIndexRow => r.rowid == rowid
      have hnone : ∀ r : SearchIndexRow, r ∈ d₁ .searchIndex → r.rowid ≠ rowid := by
        intro r hr
        rw [hcontents₁, Contents.set_same, List.mem_filter] at hr
        simpa using hr.2
      obtain ⟨e, hrun, hstray⟩ := writeRow_run entityType entityId name title description hnone
      refine ⟨(), e, ?_, ?_⟩
      · simp only [Bool.false_eq_true, if_false, bind_run_ok hdelete, hrun]
      · rw [hstray]
        funext other
        apply propext
        unfold Stray
        rw [hcontents₁, Contents.set_same, Contents.set_other (by decide)]
        simp only [List.mem_filter, Bool.not_eq_true', beq_eq_false_iff_ne]
        constructor
        · rintro ⟨⟨row, ⟨hrow, -⟩, rfl⟩, hall⟩
          exact ⟨⟨row, hrow, rfl⟩, hall⟩
        · rintro ⟨⟨row, hrow, rfl⟩, hall⟩
          have hne : row.rowid ≠ rowid := fun h => hall existing hmem (hsame.trans h.symm)
          exact ⟨⟨row, ⟨hrow, hne⟩, rfl⟩, hall⟩

theorem deleteFromSearchIndex_ends {entityType entityId : String} :
    Ends (deleteFromSearchIndex entityType entityId) := by
  have hdelete : ∀ {t : Table} {p : t.Row → Bool}, t ≠ .feeds ∧ t ≠ .tracks →
      Ends (delete (S := schema) t p) := fun ht => Ends.delete (leaf_of_ne ht.1 ht.2)
  apply (Ends.read _).bind
  intro existing
  cases existing with
  | none => exact (Ends.pure ()).bind fun _ => hdelete (by decide)
  | some _ => exact (hdelete (by decide)).bind fun _ => hdelete (by decide)

section Sync

variable {strays : Int → Prop}

theorem syncSearchEntity_decides (keep : Bool)
    (entityType entityId name title description : String) :
    Decides (fun d => Stray d = strays)
      (keep = true → ¬ strays (rowidFor entityType entityId))
      (syncSearchEntity keep entityType entityId name title description)
      fun _ d => Stray d = strays := by
  cases keep with
  | true =>
    exact populateSearchIndex_decides.mono (fun _ hd => hd) (by simp) fun _ _ hd => hd
  | false =>
    have hdelete : Decides (fun d => Stray d = strays) True
        (deleteFromSearchIndex entityType entityId) fun _ _ => True :=
      deleteFromSearchIndex_ends.decides
    exact (hdelete.of_run (fun _ hd => hd) fun _ _ _ hd hrun _ =>
      (deleteFromSearchIndex_leaves.run hrun).trans hd).mono (fun _ hd => hd) (by simp)
        fun _ _ hd => hd

omit [Platform] in
theorem storeQuality_decides {entityType entityId : String} {score : Int} :
    Decides (fun d => Stray d = strays) True (storeQuality entityType entityId score)
      fun _ d => Stray d = strays := by
  have hwrites : Writes (S := schema) [Table.entityQuality] (storeQuality entityType entityId score) :=
    Writes.upsert (by decide)
  exact storeQuality_ends.decides.of_run (fun _ hd => hd) fun _ _ _ hd hrun _ =>
    ((leaves_stray hwrites (by decide) (by decide)).run hrun).trans hd

theorem syncTrackReadModels_decides {isMusic : Bool} {track : Track} :
    Decides (fun d => Stray d = strays)
      (isMusic = true →
        ¬ strays (rowidFor "track" (canonicalTrackEntityId track.feedGuid track.trackGuid)))
      (syncTrackReadModels isMusic track) fun _ d => Stray d = strays := by
  apply ((syncSearchEntity_decides _ _ _ _ _ _).bind fun _ => Decides.read_bind fun _ _ =>
    storeQuality_decides).mono (fun _ hd => hd) (by simp) fun _ _ hd => hd

/-- The rowids at which the read models of a feed put rows in the index. -/
def IndexedAt (rawMedium : Option String) (feedGuid : String) (trackGuids : List String)
    (rowid : Int) : Prop :=
  isMusic rawMedium = true ∧ rowid = rowidFor "feed" feedGuid ∨
    isPublisher rawMedium = true ∧ rowid = rowidFor "publisher" feedGuid ∨
      isMusic rawMedium = true ∧ ∃ trackGuid ∈ trackGuids,
        rowid = rowidFor "track" (canonicalTrackEntityId feedGuid trackGuid)

omit [Platform] in
/-- The feed has tracks with these GUIDs. -/
def HoldsTracks (feedGuid : String) (trackGuids : List String) (d : Db) : Prop :=
  ∀ trackGuid, trackGuid ∈ (getTracksForFeed d feedGuid).map Track.trackGuid ↔
    trackGuid ∈ trackGuids

omit [Platform] in
theorem holdsTracks_congr {feedGuid : String} {trackGuids : List String} {d e : Db}
    (h : e .tracks = d .tracks) (hd : HoldsTracks feedGuid trackGuids d) :
    HoldsTracks feedGuid trackGuids e := by
  unfold HoldsTracks getTracksForFeed
  rw [h]
  exact hd

theorem syncSourceReadModelsForFeed_decides {feed : Feed} {trackGuids : List String} :
    Decides
      (fun d => Stray d = strays ∧ getFeedByGuid d feed.feedGuid = some feed ∧
        HoldsTracks feed.feedGuid trackGuids d)
      (∀ rowid, IndexedAt feed.rawMedium feed.feedGuid trackGuids rowid → ¬ strays rowid)
      (syncSourceReadModelsForFeed feed.feedGuid) fun _ d => Stray d = strays := by
  set P : Db → Prop := fun d => Stray d = strays ∧ HoldsTracks feed.feedGuid trackGuids d with hP
  set trackCond : Prop := ∀ trackGuid ∈ trackGuids, isMusic feed.rawMedium = true →
    ¬ strays (rowidFor "track" (canonicalTrackEntityId feed.feedGuid trackGuid))
  have hframe : ∀ {c : Prop} {x : Stmt Unit}, Writes (S := schema) readModelTables x →
      Decides (fun d => Stray d = strays) c x (fun _ d => Stray d = strays) →
      Decides P c x fun _ => P := by
    intro c x hx hdecides
    exact hdecides.of_run (fun _ hd => hd.1) fun d _ e hd hrun hstray =>
      ⟨hstray, holdsTracks_congr ((hx .tracks (by decide)).run hrun) hd.2⟩
  have htracks : Decides P trackCond
      (do
        let tracks ← read (getTracksForFeed · feed.feedGuid)
        forEach (syncTrackReadModels (isMusic feed.rawMedium)) tracks)
      fun _ d => Stray d = strays := by
    apply Decides.read_bind
    rintro d ⟨-, hholds⟩
    apply (Decides.forEach fun _ _ => syncTrackReadModels_decides).mono (fun _ hd => hd.1) _
      fun _ _ hd => hd
    constructor
    · intro h trackGuid hguid
      obtain ⟨track, htrack, rfl⟩ := List.mem_map.mp ((hholds trackGuid).mpr hguid)
      have hfeed : track.feedGuid = feed.feedGuid := by simpa using (List.mem_filter.mp htrack).2
      rw [← hfeed]
      exact h track htrack
    · intro h track htrack
      have hfeed : track.feedGuid = feed.feedGuid := by simpa using (List.mem_filter.mp htrack).2
      rw [hfeed]
      exact h track.trackGuid ((hholds _).mp (List.mem_map_of_mem htrack))
  have hscores : Decides P (True ∧ trackCond)
      (do
        let feedScore ← read (computeFeedQuality · feed.feedGuid)
        storeQuality "feed" feed.feedGuid feedScore
        let tracks ← read (getTracksForFeed · feed.feedGuid)
        forEach (syncTrackReadModels (isMusic feed.rawMedium)) tracks)
      fun _ d => Stray d = strays :=
    Decides.read_bind fun _ _ =>
      (hframe storeQuality_writes storeQuality_decides).bind fun _ => htracks
  have hsync := (hframe syncSearchEntity_writes (syncSearchEntity_decides
      (isMusic feed.rawMedium) "feed" feed.feedGuid (feed.releaseArtist.getD "") feed.title
      (feed.description.getD ""))).bind fun _ =>
    (hframe syncSearchEntity_writes (syncSearchEntity_decides
      (isPublisher feed.rawMedium) "publisher" feed.feedGuid (feed.releaseArtist.getD "")
      feed.title (feed.description.getD ""))).bind fun _ => hscores
  unfold syncSourceReadModelsForFeed
  apply Decides.read_bind
  rintro d ⟨-, hfeed, -⟩
  rw [hfeed]
  apply hsync.mono (fun _ hd => ⟨hd.1, hd.2.2⟩) _ fun _ _ hd => hd
  unfold IndexedAt
  constructor
  · rintro ⟨hmusic, hpublisher, -, htracks⟩ rowid
      (⟨hkind, rfl⟩ | ⟨hkind, rfl⟩ | ⟨hkind, trackGuid, hguid, rfl⟩)
    · exact hmusic hkind
    · exact hpublisher hkind
    · exact htracks trackGuid hguid hkind
  · intro h
    refine ⟨fun hkind => h _ (.inl ⟨hkind, rfl⟩), fun hkind => h _ (.inr (.inl ⟨hkind, rfl⟩)),
      trivial, ?_⟩
    exact fun trackGuid hguid hkind => h _ (.inr (.inr ⟨hkind, trackGuid, hguid, rfl⟩))

end Sync

end

end Stophammer
