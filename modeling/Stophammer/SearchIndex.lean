import Stophammer.ContentSteps
import Stophammer.Db.Removed
import Stophammer.Relational.Coded

/-!
# The search index

The index has a row for each music feed, publisher feed and track of a music feed, with its
current text.  The rowid is a hash, so this is so while no two of the entities that a node has
taken share one: a write at the rowid of one is a write at the rowid of the other.
-/

namespace Stophammer

open Relational Statement

inductive Entity where
  | feed (feedGuid : String)
  | publisher (feedGuid : String)
  | track (feedGuid trackGuid : String)
deriving DecidableEq

structure IndexText where
  name : String
  title : String
  description : String
deriving DecidableEq

namespace Entity

def entityType : Entity → String
  | .feed _ => "feed"
  | .publisher _ => "publisher"
  | .track _ _ => "track"

def entityId : Entity → String
  | .feed feedGuid => feedGuid
  | .publisher feedGuid => feedGuid
  | .track feedGuid trackGuid => canonicalTrackEntityId feedGuid trackGuid

def feedGuid : Entity → String
  | .feed feedGuid => feedGuid
  | .publisher feedGuid => feedGuid
  | .track feedGuid _ => feedGuid

section

variable [Platform]

def rowid (x : Entity) : Int := rowidFor x.entityType x.entityId

def entityRow (x : Entity) : SearchEntityRow where
  rowid := x.rowid
  entityType := x.entityType
  entityId := x.entityId

def indexRow (x : Entity) (text : IndexText) : SearchIndexRow where
  rowid := x.rowid
  name := truncateFtsField text.name
  title := truncateFtsField text.title
  description := truncateFtsField text.description

end

/-- The node has a record of it. -/
def Known (d : Db) : Entity → Prop
  | .feed feedGuid => (getFeedByGuid d feedGuid).isSome
  | .publisher feedGuid => (getFeedByGuid d feedGuid).isSome
  | .track feedGuid trackGuid => (getTrackForFeed d feedGuid trackGuid).isSome

end Entity

def Feed.indexText (f : Feed) : IndexText where
  name := f.releaseArtist.getD ""
  title := f.title
  description := f.description.getD ""

def Track.indexText (t : Track) : IndexText where
  name := t.trackArtist.getD ""
  title := t.title
  description := t.description.getD ""

def Track.entity (t : Track) : Entity := .track t.feedGuid t.trackGuid

/-- The text that the index has for each entity. -/
def indexed (d : Db) : Entity → Option IndexText
  | .feed feedGuid => (getFeedByGuid d feedGuid).bind fun feed =>
    if isMusic feed.rawMedium then some feed.indexText else none
  | .publisher feedGuid => (getFeedByGuid d feedGuid).bind fun feed =>
    if isPublisher feed.rawMedium then some feed.indexText else none
  | .track feedGuid trackGuid => (getFeedByGuid d feedGuid).bind fun feed =>
    if isMusic feed.rawMedium then (getTrackForFeed d feedGuid trackGuid).map Track.indexText
    else none

variable {d e : Db} {x : Entity} {guid feedGuid trackGuid : String}

theorem known_of_indexed {text : IndexText} (h : indexed d x = some text) : x.Known d := by
  cases x with
  | feed feedGuid | publisher feedGuid =>
    obtain ⟨feed, hfeed, -⟩ := Option.bind_eq_some_iff.mp h
    exact Option.isSome_iff_exists.mpr ⟨feed, hfeed⟩
  | track feedGuid trackGuid =>
    obtain ⟨feed, -, htrack⟩ := Option.bind_eq_some_iff.mp h
    split at htrack
    · obtain ⟨track, htrack, -⟩ := Option.map_eq_some_iff.mp htrack
      exact Option.isSome_iff_exists.mpr ⟨track, htrack⟩
    · cases htrack

def Feed.indexFacts (f : Feed) : Option String × IndexText := (f.rawMedium, f.indexText)

theorem indexed_congr
    (hfeeds : ∀ guid, (getFeedByGuid e guid).map Feed.indexFacts =
      (getFeedByGuid d guid).map Feed.indexFacts)
    (htracks : ∀ feedGuid trackGuid, (getTrackForFeed e feedGuid trackGuid).map Track.indexText =
      (getTrackForFeed d feedGuid trackGuid).map Track.indexText) : indexed e = indexed d := by
  have hbind : ∀ {α : Type} (s : Db) (guid : String) (f : Option String × IndexText → Option α),
      ((getFeedByGuid s guid).bind fun feed => f feed.indexFacts) =
        ((getFeedByGuid s guid).map Feed.indexFacts).bind f := fun _ _ _ =>
    Option.bind_map.symm
  funext x
  cases x with
  | feed feedGuid =>
    have h := hbind e feedGuid fun p => if isMusic p.1 then some p.2 else none
    rw [hfeeds, ← hbind] at h
    exact h
  | publisher feedGuid =>
    have h := hbind e feedGuid fun p => if isPublisher p.1 then some p.2 else none
    rw [hfeeds, ← hbind] at h
    exact h
  | track feedGuid trackGuid =>
    have h := hbind e feedGuid fun p =>
      if isMusic p.1 then (getTrackForFeed d feedGuid trackGuid).map Track.indexText else none
    rw [hfeeds, ← hbind] at h
    simp only [indexed, htracks]
    exact h

theorem known_congr
    (hfeeds : ∀ guid, (getFeedByGuid e guid).map Feed.indexFacts =
      (getFeedByGuid d guid).map Feed.indexFacts)
    (htracks : ∀ feedGuid trackGuid, (getTrackForFeed e feedGuid trackGuid).map Track.indexText =
      (getTrackForFeed d feedGuid trackGuid).map Track.indexText) : x.Known e ↔ x.Known d := by
  cases x with
  | feed feedGuid | publisher feedGuid =>
    have hsome := congrArg Option.isSome (hfeeds feedGuid)
    rw [Option.isSome_map, Option.isSome_map] at hsome
    rw [Entity.Known, Entity.Known, hsome]
  | track feedGuid trackGuid =>
    have hsome := congrArg Option.isSome (htracks feedGuid trackGuid)
    rw [Option.isSome_map, Option.isSome_map] at hsome
    rw [Entity.Known, Entity.Known, hsome]

theorem indexed_of_tables (hfeeds : e .feeds = d .feeds) (htracks : e .tracks = d .tracks) :
    indexed e = indexed d ∧ ∀ x : Entity, x.Known e ↔ x.Known d := by
  have hfeed : ∀ guid, getFeedByGuid e guid = getFeedByGuid d guid := by
    intro guid
    rw [getFeedByGuid, hfeeds]
    rfl
  have htrack : ∀ feedGuid trackGuid, getTrackForFeed e feedGuid trackGuid =
      getTrackForFeed d feedGuid trackGuid := fun _ _ => getTrackForFeed_congr htracks
  constructor
  · exact indexed_congr (fun guid => by rw [hfeed]) fun _ _ => by rw [htrack]
  · exact fun x => known_congr (fun guid => by rw [hfeed]) fun _ _ => by rw [htrack]

section

variable [Platform]

/-- The two tables of the index have the rows of the map. -/
structure IndexHolds (K : Set Entity) (m : Entity → Option IndexText) (d : Db) : Prop where
  entities : Stores (fun x _ => x.entityRow) m (d .searchEntities)
  texts : Stores Entity.indexRow m (d .searchIndex)
  known : ∀ x text, m x = some text → x ∈ K

/-- The index has the text of each record, and no other row. -/
structure Indexed (K : Set Entity) (d : Db) : Prop where
  known : ∀ x, x.Known d → x ∈ K
  holds : IndexHolds K (indexed d) d

variable {K : Set Entity} {m : Entity → Option IndexText} {text : IndexText}

theorem IndexHolds.congr (h : IndexHolds K m d) (hentities : e .searchEntities = d .searchEntities)
    (htexts : e .searchIndex = d .searchIndex) : IndexHolds K m e where
  entities := hentities ▸ h.entities
  texts := htexts ▸ h.texts
  known := h.known

theorem Indexed.of_facts (h : Indexed K d)
    (hfeeds : ∀ guid, (getFeedByGuid e guid).map Feed.indexFacts =
      (getFeedByGuid d guid).map Feed.indexFacts)
    (htracks : ∀ feedGuid trackGuid, (getTrackForFeed e feedGuid trackGuid).map Track.indexText =
      (getTrackForFeed d feedGuid trackGuid).map Track.indexText)
    (hentities : e .searchEntities = d .searchEntities)
    (htexts : e .searchIndex = d .searchIndex) : Indexed K e where
  known := fun x hx => h.known x ((known_congr hfeeds htracks).mp hx)
  holds := by
    rw [indexed_congr hfeeds htracks]
    exact h.holds.congr hentities htexts

theorem Indexed.congr (h : Indexed K d)
    (hsame : ∀ t ∈ [Table.feeds, .tracks, .searchIndex, .searchEntities], e t = d t) :
    Indexed K e := by
  apply h.of_facts
  · intro guid
    rw [getFeedByGuid, hsame .feeds (by decide)]
    rfl
  · exact fun _ _ => by rw [getTrackForFeed_congr (hsame .tracks (by decide))]
  · exact hsame _ (by decide)
  · exact hsame _ (by decide)

section Statements

variable (hinj : K.InjOn Entity.rowid)

include hinj

theorem entityRow_coding :
    Coding (fun x (_ : IndexText) => x.entityRow) Entity.rowid SearchEntityRow.rowid K :=
  ⟨fun _ _ => rfl, hinj⟩

theorem indexRow_coding : Coding Entity.indexRow Entity.rowid SearchIndexRow.rowid K :=
  ⟨fun _ _ => rfl, hinj⟩

theorem IndexHolds.entity_at (h : IndexHolds K m d) (hx : x ∈ K) {r : SearchEntityRow}
    (hr : r ∈ d .searchEntities) (hrowid : r.rowid = x.rowid) : (m x).isSome ∧ r = x.entityRow := by
  obtain ⟨text, hm, rfl⟩ := (entityRow_coding hinj).eq_of_place h.known h.entities hr hx hrowid
  exact ⟨Option.isSome_iff_exists.mpr ⟨text, hm⟩, rfl⟩

omit [Platform] hinj in
theorem update_none (m : Entity → Option IndexText) (x : Entity) :
    Function.update m x none = fun y => if y ∈ [x] then none else m y := by
  funext y
  by_cases hy : y = x <;> simp [hy]

theorem IndexHolds.erase (h : IndexHolds K m d) {xs : List Entity} (hxs : ∀ x ∈ xs, x ∈ K)
    {p : (t : Table) → t.Row → Bool} (hwithout : Without (S := schema) p d e)
    (hentities : ∀ r : SearchEntityRow, p .searchEntities r = (xs.map Entity.rowid).contains r.rowid)
    (htexts : ∀ r : SearchIndexRow, p .searchIndex r =
      ((xs.map Entity.rowid).contains r.rowid && hasEntityAt d r.rowid)) :
    IndexHolds K (fun x => if x ∈ xs then none else m x) e where
  entities := by
    apply (entityRow_coding hinj).erase h.known h.entities hxs
    intro r
    rw [hwithout.mem, hentities]
    simp
  texts := by
    apply (indexRow_coding hinj).erase h.known h.texts hxs
    intro r
    rw [hwithout.mem, htexts]
    refine and_congr_right fun hr => ?_
    -- the row has its entity beside it
    have hentity : hasEntityAt d r.rowid = true := by
      obtain ⟨y, text, hy, rfl⟩ := (h.texts r).mp hr
      exact List.any_eq_true.mpr ⟨y.entityRow, (h.entities _).mpr ⟨y, text, hy, rfl⟩,
        beq_iff_eq.mpr rfl⟩
    rw [hentity]
    simp
  known := by
    intro x text hm
    split at hm
    · cases hm
    · exact h.known x text hm

theorem deleteFromSearchIndex_holds (h : IndexHolds K m d) (hx : x ∈ K)
    (hrun : deleteFromSearchIndex x.entityType x.entityId d = (.ok (), e)) :
    IndexHolds K (Function.update m x none) e := by
  rw [update_none]
  exact h.erase hinj (by simpa using hx) (deleteFromSearchIndex_without hrun) (fun _ => rfl)
    fun _ => rfl

omit hinj in
theorem writeRow_rows (h : populateSearchIndex.writeRow x.entityType x.entityId text.name text.title
    text.description x.rowid d = (.ok (), e)) :
    e .searchIndex = d .searchIndex ++ [x.indexRow text] ∧
      ∀ r : SearchEntityRow, r ∈ e .searchEntities ↔
        r ∈ d .searchEntities ∧ r.rowid ≠ x.rowid ∨ r = x.entityRow := by
  obtain ⟨_, s, hinsert, hreplace⟩ := bind_ok h
  have hindex : s .searchIndex = d .searchIndex ++ [x.indexRow text] :=
    modify_ok_rows (S := schema) hinsert
  have hinserts : Writes (S := schema) [Table.searchIndex]
      (insert (S := schema) .searchIndex (x.indexRow text)) := Writes.insert (by decide)
  have hreplaces : Writes (S := schema) [Table.searchEntities]
      (insertOrReplace (S := schema) .searchEntities x.entityRow) :=
    Writes.insertOrReplace (by decide)
  have hentities : e .searchEntities = (s .searchEntities).filter (fun r' : SearchEntityRow =>
      decide (∀ k ∈ Table.keys .searchEntities x.entityRow, k ∉ Table.keys .searchEntities r')) ++
        [x.entityRow] := modify_ok_rows (S := schema) hreplace
  refine ⟨((hreplaces .searchIndex (by decide)).run hreplace).trans hindex, fun r => ?_⟩
  rw [hentities, (hinserts .searchEntities (by decide)).run hinsert, List.mem_append,
    List.mem_filter, List.mem_singleton, decide_eq_true_eq]
  have hkey : (∀ k ∈ Table.keys .searchEntities x.entityRow, k ∉ Table.keys .searchEntities r) ↔
      r.rowid ≠ x.rowid := by
    simp only [Table.keys, List.mem_singleton, forall_eq, Key.searchEntity.injEq]
    exact ne_comm
  rw [hkey]

theorem populateSearchIndex_holds (h : IndexHolds K m d) (hx : x ∈ K)
    (hrun : populateSearchIndex x.entityType x.entityId text.name text.title text.description d =
      (.ok (), e)) : IndexHolds K (Function.update m x (some text)) e := by
  -- the row goes in where the index has no other one at its rowid
  have hwrite : ∀ {s : Db}, (∀ r : SearchIndexRow, r ∈ s .searchIndex ↔
      r ∈ d .searchIndex ∧ r.rowid ≠ x.rowid) → s .searchEntities = d .searchEntities →
        populateSearchIndex.writeRow x.entityType x.entityId text.name text.title text.description
          x.rowid s = (.ok (), e) → IndexHolds K (Function.update m x (some text)) e := by
    intro s htexts hentities hrow
    obtain ⟨hindexRows, hentityRows⟩ := writeRow_rows hrow
    refine ⟨?_, ?_, ?_⟩
    · apply (entityRow_coding hinj).put h.known h.entities hx
      intro r
      rw [hentityRows, hentities]
    · apply (indexRow_coding hinj).put h.known h.texts hx
      intro r
      rw [hindexRows, List.mem_append, List.mem_singleton, htexts]
    · intro y value hy
      by_cases hsame : y = x
      · exact hsame ▸ hx
      · rw [Function.update_of_ne hsame] at hy
        exact h.known y value hy
  unfold populateSearchIndex at hrun
  rw [read_bind_run] at hrun
  dsimp only at hrun
  cases hat : searchEntityAt d (rowidFor x.entityType x.entityId) with
  | none =>
    rw [hat] at hrun
    refine hwrite (fun r => ?_) rfl hrun
    refine (and_iff_left_of_imp fun hr hrowid => ?_).symm
    obtain ⟨value, hm, -⟩ := (indexRow_coding hinj).eq_of_place h.known h.texts hr hx hrowid
    exact searchEntityAt_none hat ((h.entities _).mpr ⟨x, value, hm, rfl⟩) rfl
  | some existing =>
    rw [hat] at hrun
    obtain ⟨hmem, hrowid⟩ := searchEntityAt_some hat
    obtain ⟨-, rfl⟩ := h.entity_at hinj hx hmem hrowid
    have hown : (x.entityRow.entityType != x.entityType || x.entityRow.entityId != x.entityId) =
        false := by simp [Entity.entityRow]
    simp only [hown, Bool.false_eq_true, if_false] at hrun
    obtain ⟨_, s, hdelete, hrow⟩ := bind_ok hrun
    have hdeletes : Writes (S := schema) [Table.searchIndex] (delete (S := schema) .searchIndex
        fun r : SearchIndexRow => r.rowid == x.rowid) := Writes.delete (by decide)
    refine hwrite (fun r => ?_) ((hdeletes .searchEntities (by decide)).run hdelete) hrow
    have hrows : s .searchIndex = (d .searchIndex).filter fun r : SearchIndexRow =>
        !(r.rowid == x.rowid) := modify_ok_rows (S := schema) hdelete
    rw [hrows]
    simp

theorem syncSearchEntity_holds {keep : Bool} (text : IndexText) (h : IndexHolds K m d) (hx : x ∈ K)
    (hrun : syncSearchEntity keep x.entityType x.entityId text.name text.title text.description d =
      (.ok (), e)) :
    IndexHolds K (Function.update m x (if keep then some text else none)) e := by
  cases keep with
  | true => exact populateSearchIndex_holds hinj h hx hrun
  | false => exact deleteFromSearchIndex_holds hinj h hx hrun

omit hinj in
theorem storeQuality_holds {entityType entityId : String} {score : Int} (h : IndexHolds K m d)
    (hrun : storeQuality entityType entityId score d = (.ok (), e)) : IndexHolds K m e := by
  have hwrites : Writes (S := schema) [Table.entityQuality]
      (storeQuality entityType entityId score) := Writes.upsert (by decide)
  exact h.congr ((hwrites _ (by decide)).run hrun) ((hwrites _ (by decide)).run hrun)

def Track.indexed (music : Bool) (track : Track) : Option IndexText :=
  if music then some track.indexText else none

theorem syncTrackReadModels_holds {music : Bool} {track : Track} (h : IndexHolds K m d)
    (hx : track.entity ∈ K) (hrun : syncTrackReadModels music track d = (.ok (), e)) :
    IndexHolds K (Function.update m track.entity (track.indexed music)) e := by
  obtain ⟨_, s, hentity, hscore⟩ := bind_ok hrun
  rw [read_bind_run] at hscore
  exact storeQuality_holds (syncSearchEntity_holds hinj track.indexText h hx hentity)
    hscore

theorem syncTracks_holds {music : Bool} {tracks : List Track} (h : IndexHolds K m d)
    (hx : ∀ track ∈ tracks, track.entity ∈ K)
    (hone : ∀ track ∈ tracks, ∀ other ∈ tracks, track.entity = other.entity → track = other)
    (hrun : forEach (syncTrackReadModels music) tracks d = (.ok (), e)) :
    ∃ m', IndexHolds K m' e ∧ (∀ track ∈ tracks, m' track.entity = track.indexed music) ∧
      ∀ x, (∀ track ∈ tracks, x ≠ track.entity) → m' x = m x := by
  induction tracks generalizing d m with
  | nil =>
    cases hrun
    exact ⟨m, h, fun _ htrack => absurd htrack List.not_mem_nil, fun _ _ => rfl⟩
  | cons track tracks ih =>
    rw [forEach_cons] at hrun
    obtain ⟨_, s, hfirst, hrest⟩ := bind_ok hrun
    have hsynced := syncTrackReadModels_holds hinj h (hx track List.mem_cons_self) hfirst
    obtain ⟨m', hholds, hin, hout⟩ := ih hsynced
      (fun other hother => hx other (List.mem_cons_of_mem _ hother))
      (fun a ha b hb => hone a (List.mem_cons_of_mem _ ha) b (List.mem_cons_of_mem _ hb)) hrest
    refine ⟨m', hholds, fun other hother => ?_, fun x hne => ?_⟩
    · rcases List.mem_cons.mp hother with rfl | hother
      · by_cases hagain : ∃ later ∈ tracks, other.entity = later.entity
        · obtain ⟨later, hlater, hsame⟩ := hagain
          have heq := hone other List.mem_cons_self later (List.mem_cons_of_mem _ hlater) hsame
          rw [heq]
          exact hin later hlater
        · rw [hout _ fun later hlater hsame => hagain ⟨later, hlater, hsame⟩]
          exact Function.update_self ..
      · exact hin other hother
    · rw [hout x fun later hlater => hne later (List.mem_cons_of_mem _ hlater)]
      exact Function.update_of_ne (hne track List.mem_cons_self) ..

theorem syncSource_holds {feed : Feed} (h : IndexHolds K m d)
    (hfeed : getFeedByGuid d guid = some feed)
    (hknown : ∀ x, x.feedGuid = guid → x.Known d → x ∈ K)
    (hgone : ∀ x, x.feedGuid = guid → ¬x.Known d → m x = none)
    (hrun : syncSourceReadModelsForFeed guid d = (.ok (), e)) :
    IndexHolds K (fun x => if x.feedGuid = guid then indexed d x else m x) e := by
  obtain ⟨row, hrow, rfl⟩ := Option.map_eq_some_iff.mp hfeed
  have hguid : row.feed.feedGuid = guid := by simpa using List.find?_some hrow
  unfold syncSourceReadModelsForFeed at hrun
  rw [read_bind_run, hfeed] at hrun
  dsimp only at hrun
  rw [hguid] at hrun
  obtain ⟨_, s₁, hfirst, hrun⟩ := bind_ok hrun
  obtain ⟨_, s₂, hsecond, hrun⟩ := bind_ok hrun
  rw [read_bind_run] at hrun
  obtain ⟨_, s₃, hscore, hrun⟩ := bind_ok hrun
  rw [read_bind_run] at hrun
  have hsome : (getFeedByGuid d guid).isSome := by rw [hfeed]; rfl
  have hfeedHolds := syncSearchEntity_holds hinj (x := .feed guid) row.feed.indexText h
    (hknown (.feed guid) rfl hsome) hfirst
  have hpublisherHolds := syncSearchEntity_holds hinj (x := .publisher guid)
    row.feed.indexText hfeedHolds (hknown (.publisher guid) rfl hsome) hsecond
  have htracks : s₃ .tracks = d .tracks := by
    rw [(storeQuality_writes .tracks (by decide)).run hscore,
      (syncSearchEntity_writes .tracks (by decide)).run hsecond,
      (syncSearchEntity_writes .tracks (by decide)).run hfirst]
  have hlist : getTracksForFeed s₃ guid = getTracksForFeed d guid := by
    rw [getTracksForFeed, htracks, getTracksForFeed]
  rw [hlist] at hrun
  have hof : ∀ track ∈ getTracksForFeed d guid, track ∈ d .tracks ∧ track.feedGuid = guid := by
    intro track htrack
    obtain ⟨hmem, hfeedGuid⟩ := List.mem_filter.mp htrack
    exact ⟨hmem, beq_iff_eq.mp hfeedGuid⟩
  have hstored : ∀ track ∈ getTracksForFeed d guid,
      getTrackForFeed d guid track.trackGuid = some track := by
    intro track htrack
    obtain ⟨hmem, rfl⟩ := hof track htrack
    exact getTrackForFeed_of_mem hmem
  obtain ⟨m', hholds, hin, hout⟩ := syncTracks_holds hinj (storeQuality_holds hpublisherHolds hscore)
    (fun track htrack => by
      refine hknown track.entity (hof track htrack).2 ?_
      change (getTrackForFeed d track.feedGuid track.trackGuid).isSome
      rw [(hof track htrack).2, hstored track htrack]
      rfl)
    (fun track htrack other hother hsame => by
      have hsame' : track.trackGuid = other.trackGuid := by
        injection hsame
      have hother' := hstored other hother
      rw [← hsame', hstored track htrack] at hother'
      exact Option.some.inj hother')
    hrun
  have hmap : (fun x => if x.feedGuid = guid then indexed d x else m x) = m' := by
    funext x
    cases x with
    | feed feedGuid =>
      rw [hout _ fun _ _ => by simp [Track.entity], Function.update_of_ne (by simp)]
      by_cases hsame : feedGuid = guid
      · subst hsame
        simp [Entity.feedGuid, indexed, hfeed]
      · simp [Entity.feedGuid, hsame]
    | publisher feedGuid =>
      rw [hout _ fun _ _ => by simp [Track.entity]]
      by_cases hsame : feedGuid = guid
      · subst hsame
        simp [Entity.feedGuid, indexed, hfeed]
      · simp [Entity.feedGuid, hsame]
    | track feedGuid trackGuid =>
      by_cases hsame : feedGuid = guid
      · subst hsame
        cases htrack : getTrackForFeed d feedGuid trackGuid with
        | some track =>
          obtain ⟨hmem, hfeedGuid, rfl⟩ := getTrackForFeed_some htrack
          have hlisted : track ∈ getTracksForFeed d feedGuid :=
            List.mem_filter.mpr ⟨hmem, beq_iff_eq.mpr hfeedGuid⟩
          have hvalue := hin track hlisted
          rw [Track.entity, hfeedGuid] at hvalue
          rw [hvalue]
          simp [Entity.feedGuid, indexed, hfeed, htrack, Track.indexed]
        | none =>
          have hnone := hgone (.track feedGuid trackGuid) rfl (by simp [Entity.Known, htrack])
          have hnot : ∀ track ∈ getTracksForFeed d feedGuid,
              Entity.track feedGuid trackGuid ≠ track.entity := by
            intro track hlisted heq
            have htrackGuid : trackGuid = track.trackGuid := by injection heq
            rw [htrackGuid, hstored track hlisted] at htrack
            cases htrack
          rw [hout _ hnot]
          simp [Entity.feedGuid, indexed, hfeed, htrack, hnone]
      · have hnot : ∀ track ∈ getTracksForFeed d guid,
            Entity.track feedGuid trackGuid ≠ track.entity := by
          intro track hlisted heq
          have hfeedGuid : feedGuid = track.feedGuid := by injection heq
          exact hsame (hfeedGuid.trans (hof track hlisted).2)
        rw [hout _ hnot]
        simp [Entity.feedGuid, hsame]
  rw [hmap]
  exact hholds

theorem deleteTrackSql_holds (h : IndexHolds K m d) (hx : Entity.track feedGuid trackGuid ∈ K)
    (hrun : deleteTrackSql feedGuid trackGuid d = (.ok (), e)) :
    IndexHolds K (Function.update m (.track feedGuid trackGuid) none) e := by
  rw [update_none]
  apply h.erase hinj (by simpa using hx) (deleteTrackSql_without hrun)
  · intro r
    simp [trackTakes, indexTakes, trackRows, Entity.rowid, Entity.entityType, Entity.entityId]
  · intro r
    simp [trackTakes, indexTakes, trackRows, Entity.rowid, Entity.entityType, Entity.entityId]

def feedEntities (d : Db) (guid : String) : List Entity :=
  .feed guid :: .publisher guid :: (getTracksForFeed d guid).map fun t => .track guid t.trackGuid

omit [Platform] hinj in
theorem mem_feedEntities (h : x.Known d) : x ∈ feedEntities d x.feedGuid := by
  cases x with
  | feed feedGuid => exact List.mem_cons_self
  | publisher feedGuid => exact List.mem_cons_of_mem _ List.mem_cons_self
  | track feedGuid trackGuid =>
    obtain ⟨track, htrack⟩ := Option.isSome_iff_exists.mp h
    obtain ⟨hmem, hfeed, rfl⟩ := getTrackForFeed_some htrack
    refine List.mem_cons_of_mem _ (List.mem_cons_of_mem _ (List.mem_map.mpr ⟨track, ?_, rfl⟩))
    exact List.mem_filter.mpr ⟨hmem, beq_iff_eq.mpr hfeed⟩

omit [Platform] hinj in
theorem known_of_mem {feed : Feed} (hfeed : getFeedByGuid d guid = some feed)
    (hx : x ∈ feedEntities d guid) : x.Known d ∧ x.feedGuid = guid := by
  have hsome : (getFeedByGuid d guid).isSome := by rw [hfeed]; rfl
  simp only [feedEntities, List.mem_cons, List.mem_map] at hx
  rcases hx with rfl | rfl | ⟨track, htrack, rfl⟩
  · exact ⟨hsome, rfl⟩
  · exact ⟨hsome, rfl⟩
  · obtain ⟨hmem, hguid⟩ := List.mem_filter.mp htrack
    refine ⟨?_, rfl⟩
    obtain rfl : track.feedGuid = guid := beq_iff_eq.mp hguid
    change (getTrackForFeed d track.feedGuid track.trackGuid).isSome
    rw [getTrackForFeed_of_mem hmem]
    rfl

omit hinj in
theorem indexRowids_eq : indexRowids d guid = (feedEntities d guid).map Entity.rowid := by
  simp [indexRowids, feedEntities, Entity.rowid, Entity.entityType, Entity.entityId]

omit [Platform] hinj in
theorem indexed_of_not_known (h : ¬x.Known d) : indexed d x = none := by
  rw [Option.eq_none_iff_forall_ne_some]
  exact fun text htext => h (known_of_indexed htext)

omit [Platform] hinj in
theorem known_of_without {p : (t : Table) → t.Row → Bool}
    (hwithout : Without (S := schema) p d e) (h : x.Known e) : x.Known d := by
  have hfeed : ∀ guid, (getFeedByGuid e guid).isSome → (getFeedByGuid d guid).isSome := by
    intro guid hsome
    rw [getFeedByGuid, Option.isSome_map, List.find?_isSome] at hsome ⊢
    obtain ⟨r, hr, hguid⟩ := hsome
    exact ⟨r, (hwithout.mem.mp hr).1, hguid⟩
  cases x with
  | feed feedGuid | publisher feedGuid => exact hfeed feedGuid h
  | track feedGuid trackGuid =>
    obtain ⟨track, htrack⟩ := Option.isSome_iff_exists.mp h
    obtain ⟨hmem, rfl, rfl⟩ := getTrackForFeed_some htrack
    change (getTrackForFeed d track.feedGuid track.trackGuid).isSome
    rw [getTrackForFeed_of_mem (hwithout.mem.mp hmem).1]
    rfl

omit [Platform] hinj in
theorem getTrackForFeed_sameFeed (h : SameFeed feedGuid d e) :
    getTrackForFeed e feedGuid trackGuid = getTrackForFeed d feedGuid trackGuid := by
  have hrows := h .tracks
  have hfind : ∀ s : Db, getTrackForFeed s feedGuid trackGuid =
      ((s .tracks).filter (ofFeed feedGuid .tracks)).find? fun r : Track =>
        r.feedGuid == feedGuid && r.trackGuid == trackGuid := by
    intro s
    rw [List.find?_filter, getTrackForFeed]
    congr 1
    funext r
    rw [Bool.eq_iff_iff]
    simp [ofFeed, Table.feedOf]
  rw [hfind, hrows, ← hfind]

omit [Platform] hinj in
theorem indexed_sameFeed (h : SameFeed x.feedGuid d e) :
    indexed e x = indexed d x ∧ (x.Known e ↔ x.Known d) := by
  have hfeed := getFeedByGuid_sameFeed h
  cases x with
  | feed feedGuid | publisher feedGuid =>
    simp only [Entity.feedGuid] at hfeed
    simp [indexed, Entity.Known, hfeed]
  | track feedGuid trackGuid =>
    have htrack : getTrackForFeed e feedGuid trackGuid = getTrackForFeed d feedGuid trackGuid :=
      getTrackForFeed_sameFeed h
    simp only [Entity.feedGuid] at hfeed
    simp [indexed, Entity.Known, hfeed, htrack]

theorem deleteFeedSql_indexed {feed : Feed} (hfeed : getFeedByGuid d guid = some feed)
    (h : Indexed K d) (hrun : deleteFeedSql guid d = (.ok (), e)) : Indexed K e := by
  have hwithout := deleteFeedSql_without hrun
  have hholds := h.holds.erase hinj
    (fun x hx => h.known x (known_of_mem hfeed hx).1) hwithout
    (fun r => by
      rw [← indexRowids_eq]
      simp [feedTakes, indexTakes, ofFeed, Table.feedOf, bareRows])
    (fun r => by
      rw [← indexRowids_eq]
      simp [feedTakes, indexTakes, ofFeed, Table.feedOf, bareRows])
  have hnone : getFeedByGuid e guid = none := by
    have hfind : ((d .feeds).filter fun r : FeedRow => !(r.feed.feedGuid == guid)).find?
        (fun r : FeedRow => r.feed.feedGuid == guid) = _ := find_delete (d .feeds)
    rw [getFeedByGuid, deleteFeedSql_feeds hrun, hfind, if_pos rfl]
    rfl
  have hmap : indexed e = fun x => if x ∈ feedEntities d guid then none else indexed d x := by
    funext x
    by_cases hguid : x.feedGuid = guid
    · have hgone : indexed e x = none := by
        subst hguid
        cases x <;> simp only [Entity.feedGuid] at hnone <;> simp [indexed, hnone]
      rw [hgone]
      split
      · rfl
      · rename_i hnot
        rw [indexed_of_not_known fun hknown => hnot (hguid ▸ mem_feedEntities hknown)]
    · rw [if_neg fun hmem => hguid (known_of_mem hfeed hmem).2]
      exact (indexed_sameFeed ((deleteFeedSql_sameFeed hguid).run hrun)).1
  refine ⟨fun x hx => h.known x (known_of_without hwithout hx), ?_⟩
  rw [hmap]
  exact hholds

theorem deleteTrackSql_indexed {track : Track} (htrack : getTrackForFeed d feedGuid trackGuid = some track)
    (h : Indexed K d) (hrun : deleteTrackSql feedGuid trackGuid d = (.ok (), e)) : Indexed K e := by
  have hwithout := deleteTrackSql_without hrun
  have hx : Entity.track feedGuid trackGuid ∈ K :=
    h.known (.track feedGuid trackGuid) (by rw [Entity.Known, htrack]; rfl)
  have hholds := deleteTrackSql_holds hinj h.holds hx hrun
  have hfeeds : ∀ guid, getFeedByGuid e guid = getFeedByGuid d guid := by
    intro guid
    rw [getFeedByGuid, (deleteTrackSql_writes .feeds (by decide)).run hrun]
    rfl
  have hmap : indexed e = Function.update (indexed d) (.track feedGuid trackGuid) none := by
    funext x
    cases x with
    | feed guid | publisher guid =>
      rw [Function.update_of_ne (by simp)]
      simp [indexed, hfeeds]
    | track guid tguid =>
      by_cases hsame : Entity.track guid tguid = .track feedGuid trackGuid
      · injection hsame with hfeedGuid htrackGuid
        subst hfeedGuid
        subst htrackGuid
        rw [Function.update_self]
        simp [indexed, deleteTrackSql_lookup hrun]
      · rw [Function.update_of_ne hsame]
        have hkey : ¬Key.track guid tguid = .track feedGuid trackGuid := by
          simpa using hsame
        simp only [indexed, hfeeds, deleteTrackSql_lookup hrun, if_neg hkey]
  refine ⟨fun x hx => h.known x (known_of_without hwithout hx), ?_⟩
  rw [hmap]
  exact hholds

end Statements

end

end Stophammer
