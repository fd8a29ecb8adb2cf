import Stophammer.Paging
import Stophammer.Query.ArtistTracks
import Stophammer.Query.Cursor
import Stophammer.Query.Phrases
import Stophammer.Relational.OrderBy
import Stophammer.Schema
import Stophammer.Text.Decimal

/-!
# The search by date

A search with no word reads the index rows that its filters match, newest first.  Rows with no date
come last.  A cursor is the date and the rowid of the last row of a page.
-/

namespace Stophammer

open Relational Paging

/-- A field that a text filter reads. -/
inductive TextField where
  | artist
  | title
  | release
  | any
deriving DecidableEq

structure TextFilter where
  field : TextField
  phrases : List String

structure ValueFilters where
  kinds : Option (List String)
  tracks : Option Int
  minTracks : Option Int
  maxTracks : Option Int
  after : Option Int
  /-- The first second after the last day. -/
  beforeEnd : Option Int
  minDuration : Option Int
  maxDuration : Option Int
  host : Option String
  notHosts : List String

structure SearchFilters where
  included : List TextFilter
  excluded : List TextFilter
  values : ValueFilters

/-- What SQLite gives: if an index row matches an FTS5 expression, and the text at a path of a JSON
text. -/
structure Sqlite where
  ftsMatch : SearchIndexRow → String → Bool
  jsonExtract : String → String → Option String

/-- The phrases of a filter, each with the columns before it. -/
def TextFilter.expression (filter : TextFilter) (columns : String) : String :=
  joinWith " AND " (filter.phrases.map fun phrase => columns ++ " : " ++ phrase)

/-- An index row with the rows that are joined to it. -/
structure SearchHit where
  e : SearchEntityRow
  q : Option EntityQualityRow
  f : Option FeedRow
  t : Option Track

structure SearchResult where
  entityType : String
  entityId : String
  rank : Double
  qualityScore : Int
  effectiveRank : Double
  rowid : Int
deriving DecidableEq

structure DatedSearchResult where
  result : SearchResult
  date : Option Int
deriving DecidableEq

def zeroRank : Double := ⟨0, by decide⟩

namespace SearchHit

def date (h : SearchHit) : Option Int :=
  if h.e.entityType == "track" then h.t.bind Track.pubDate
  else h.f.bind fun r => r.feed.newestItemAt

def result (h : SearchHit) : DatedSearchResult where
  result :=
    { entityType := h.e.entityType
      entityId := h.e.entityId
      rank := zeroRank
      qualityScore := (h.q.map EntityQualityRow.score).getD 0
      effectiveRank := zeroRank
      rowid := h.e.rowid }
  date := h.date

end SearchHit

/-- `LEFT JOIN`: a row with no match is there once, with no right row. -/
def leftJoin {α : Type} (rows : List α) (on : α → Bool) : List (Option α) :=
  if (rows.filter on).isEmpty then [none] else (rows.filter on).map some

section

variable (sql : Sqlite)

def qualityOn (e : SearchEntityRow) (q : EntityQualityRow) : Bool :=
  q.entityType == (if e.entityType == "publisher" then "feed" else e.entityType) &&
    q.entityId == e.entityId

def feedOn (e : SearchEntityRow) (f : FeedRow) : Bool :=
  (if e.entityType == "track" then sql.jsonExtract e.entityId "$[0]" else some e.entityId) ==
    some f.feed.feedGuid

def trackOn (e : SearchEntityRow) (f : Option FeedRow) (t : Track) : Bool :=
  e.entityType == "track" && f.any (fun r => t.feedGuid == r.feed.feedGuid) &&
    sql.jsonExtract e.entityId "$[1]" == some t.trackGuid

/-- The index rows with their joins. -/
def searchHits (d : Db) : List SearchHit :=
  (d .searchEntities).flatMap fun e =>
    (leftJoin (d .entityQuality) (qualityOn e)).flatMap fun q =>
      (leftJoin (d .feeds) (feedOn sql e)).flatMap fun f =>
        (leftJoin (d .tracks) (trackOn sql e f)).map fun t => ⟨e, q, f, t⟩

def feedIndexRow (d : Db) (e : SearchEntityRow) : Option Int :=
  ((orderBy (compareOn SearchEntityRow.rowid)
    ((d .searchEntities).filter fun fe : SearchEntityRow =>
      fe.entityType == "feed" && sql.jsonExtract e.entityId "$[0]" == some fe.entityId)).map
        SearchEntityRow.rowid).head?

/-- The row and the columns that a text filter reads, when the entity type applies its field.  An
empty entity type is a search of feeds and tracks. -/
def TextFilter.target (filter : TextFilter) (entityType : String) (d : Db) (e : SearchEntityRow) :
    Option (Option Int × String) :=
  match filter.field with
  | .release =>
    if entityType == "publisher" then none
    else if entityType == "track" then some (feedIndexRow sql d e, "title")
    else if entityType == "" then
      some (if e.entityType == "track" then feedIndexRow sql d e else some e.rowid, "title")
    else some (some e.rowid, "title")
  | .title => some (some e.rowid, "title")
  | .artist => some (some e.rowid, if entityType == "publisher" then "title" else "name")
  | .any => some (some e.rowid, "{name title description}")

/-- `row IN (SELECT rowid FROM search_index WHERE search_index MATCH expression)`. -/
def inIndex (d : Db) (row : Option Int) (expression : String) : Bool :=
  row.any fun rowid => (d .searchIndex).any fun r : SearchIndexRow =>
    r.rowid == rowid && sql.ftsMatch r expression

def TextFilter.admits (filter : TextFilter) (isExcluded : Bool) (entityType : String) (d : Db)
    (e : SearchEntityRow) : Bool :=
  (filter.target sql entityType d e).all fun (row, columns) =>
    if isExcluded then !inIndex sql d row (filter.expression columns)
    else inIndex sql d row (filter.expression columns)

def SearchFilters.admitsText (filters : SearchFilters) (entityType : String) (d : Db)
    (e : SearchEntityRow) : Bool :=
  filters.included.all (fun filter => filter.admits sql false entityType d e) &&
    filters.excluded.all fun filter => filter.admits sql true entityType d e

/-- A limit that is set is a condition on a column that is not null. -/
def limitHolds (column : Option Int) (op : Int → Int → Bool) (limit : Option Int) : Bool :=
  limit.all fun n => column.any fun value => op value n

def hostMatch (f : Option FeedRow) (host : String) : Bool :=
  (f.bind FeedRow.feedHost).any fun stored =>
    stored == host ||
      stored.toList.drop (stored.toList.length - (host.toList.length + 1)) == '.' :: host.toList

def ValueFilters.admits (vf : ValueFilters) (h : SearchHit) : Bool :=
  let kind := h.f.bind fun r => r.feed.releaseKind
  let episodes := h.f.map fun r => r.feed.episodeCount
  let duration := h.t.bind Track.durationSecs
  vf.kinds.all (fun kinds =>
      kinds.any (fun k => kind == some k) || (kinds.contains "unknown" && kind.isNone)) &&
    limitHolds episodes (fun value n => value == n) vf.tracks &&
    limitHolds episodes (fun value n => n ≤ value) vf.minTracks &&
    limitHolds episodes (fun value n => value ≤ n) vf.maxTracks &&
    limitHolds h.date (fun value n => n ≤ value) vf.after &&
    limitHolds h.date (fun value n => value < n) vf.beforeEnd &&
    limitHolds duration (fun value n => n ≤ value) vf.minDuration &&
    limitHolds duration (fun value n => value ≤ n) vf.maxDuration &&
    vf.host.all (hostMatch h.f) && vf.notHosts.all fun host => !hostMatch h.f host

/-- No type is a search of feeds and tracks. -/
def ofEntityType (entityType : Option String) (e : SearchEntityRow) : Bool :=
  match entityType with
  | some entityType => e.entityType == entityType
  | none => e.entityType ∈ ["feed", "track"]

/-- The conditions of the search, the cursor apart. -/
def SearchFilters.admits (filters : SearchFilters) (entityType : Option String) (d : Db)
    (h : SearchHit) : Bool :=
  ofEntityType entityType h.e && filters.admitsText sql (entityType.getD "") d h.e &&
    filters.values.admits h

/-- The date and the rowid of a row. -/
abbrev DateCursor : Type := Option Int × Int

/-- The row stands after the cursor.  A cursor with a date also admits each row with no date. -/
def isAfterDate : DateCursor → DateCursor → Bool
  | (some date, rowid), (rowDate, rowRowid) =>
    rowDate.any (· < date) || rowDate.isNone || (rowDate == some date && rowid < rowRowid)
  | (none, rowid), (rowDate, rowRowid) => rowDate.isNone && rowid < rowRowid

/-- `DESC NULLS LAST`. -/
def compareDates : Option Int → Option Int → Ordering
  | some a, some b => compare b a
  | some _, none => .lt
  | none, some _ => .gt
  | none, none => .eq

def DatedSearchResult.position (r : DatedSearchResult) : DateCursor := (r.date, r.result.rowid)

def comparePlaces : DateCursor → DateCursor → Ordering :=
  compareLex (fun a b => compareDates a.1 b.1) (compareOn Prod.snd)

def compareDated (a b : DatedSearchResult) : Ordering := comparePlaces a.position b.position

def searchByDate (d : Db) (filters : SearchFilters) (entityType : Option String) (limit : Nat)
    (cursor : Option DateCursor) : List DatedSearchResult :=
  (orderBy compareDated (((searchHits sql d).filter fun h =>
    filters.admits sql entityType d h &&
      cursor.all fun c => isAfterDate c h.result.position).map SearchHit.result)).take limit

structure DateSearchParams where
  kind : Option String
  limit : Option Int
  filters : SearchFilters

def searchLimitMax : Int := 100

def DateSearchParams.cappedLimit (params : DateSearchParams) : Nat :=
  (max 1 (min (params.limit.getD 20) searchLimitMax)).toNat

def searchDateCursor (r : DatedSearchResult) : String :=
  encodeCursor (cursorText ("d" ++ (r.date.map toString).getD "") (toString r.result.rowid))

def trimStartMatches (a : Char) (text : String) : String :=
  String.ofList (text.toList.dropWhile (· == a))

def parseSearchDate (text : String) : Except ApiError (Option Int) :=
  if text == "" then .ok none
  else
    match Text.Decimal.parse text with
    | none => .error (badRequest "invalid cursor timestamp")
    | some date => .ok (some date)

/-- The `d` at the start tells the cursor from the one of a search with words. -/
def parseSearchDateCursor (cursor : String) : Except ApiError DateCursor :=
  match decodeCursor cursor with
  | .error err => .error err
  | .ok decoded =>
    match splitKeys 2 decoded with
    | [first, second] =>
      if first.toList.head? == some 'd' then
        match Text.Decimal.parse second with
        | none => .error (badRequest "invalid cursor rowid")
        | some rowid =>
          match parseSearchDate (trimStartMatches 'd' first) with
          | .error err => .error err
          | .ok date => .ok (date, rowid)
      else .error (badRequest "invalid cursor format")
    | _ => .error (badRequest "invalid cursor format")

/-- The page of the rows after a position.  The handler gives the rows without their dates. -/
def searchDateAnswer (d : Db) (params : DateSearchParams) (cursor : Option DateCursor) :
    Except ApiError (Page DatedSearchResult String) :=
  if params.kind.all (· ∈ ["feed", "track", "publisher"]) then
    let limit := params.cappedLimit
    let rows := searchByDate sql d params.filters params.kind (limit + 1) cursor
    .ok
      { items := rows.take limit
        next := if limit < rows.length then (rows.take limit).getLast?.map searchDateCursor
          else none }
  else
    .error (badRequest ("unsupported search type filter: " ++ params.kind.getD ""))

/-- `handle_search` of a request with no word. -/
def handleSearchByDate (d : Db) (params : DateSearchParams) :
    Option String → Except ApiError (Page DatedSearchResult String)
  | none => searchDateAnswer sql d params none
  | some cursor =>
    match parseSearchDateCursor cursor with
    | .error err => .error err
    | .ok position => searchDateAnswer sql d params (some position)

/-- An error ends the requests of a client. -/
def searchDatePage (d : Db) (params : DateSearchParams) (cursor : Option String) :
    Page DatedSearchResult String :=
  (handleSearchByDate sql d params cursor).toOption.getD { items := [], next := none }

end

theorem leftJoin_unique {α : Type} {rows : List α} {on : α → Bool} (hnodup : rows.Nodup)
    (h : ∀ a ∈ rows, ∀ b ∈ rows, on a = true → on b = true → a = b) :
    ∃ joined, leftJoin rows on = [joined] := by
  unfold leftJoin
  rcases hfound : rows.filter on with _ | ⟨a, _ | ⟨b, rest⟩⟩
  · exact ⟨none, rfl⟩
  · exact ⟨some a, rfl⟩
  · have ha : a ∈ rows.filter on := by simp [hfound]
    have hb : b ∈ rows.filter on := by simp [hfound]
    obtain ⟨ha, hona⟩ := List.mem_filter.mp ha
    obtain ⟨hb, honb⟩ := List.mem_filter.mp hb
    have hdistinct := hfound ▸ hnodup.filter on
    exact absurd (h a ha b hb hona honb) (by
      rintro rfl
      simp at hdistinct)

section

variable {sql : Sqlite} {d : Db}

theorem leftJoin_quality (e : SearchEntityRow) :
    ∃ q, leftJoin (d .entityQuality) (qualityOn e) = [q] := by
  refine leftJoin_unique (d.rows_nodup fun r => List.cons_ne_nil _ _) ?_
  intro a ha b hb hona honb
  simp only [qualityOn, Bool.and_eq_true, beq_iff_eq] at hona honb
  have hkey : Key.quality a.entityType a.entityId ∈ schema.keys .entityQuality a :=
    List.mem_cons_self
  refine d.eq_of_shared_key ha hb hkey ?_
  rw [hona.1, hona.2, ← honb.1, ← honb.2]
  exact List.mem_cons_self

theorem leftJoin_feeds (e : SearchEntityRow) :
    ∃ f, leftJoin (d .feeds) (feedOn sql e) = [f] := by
  refine leftJoin_unique (d.rows_nodup fun r => List.cons_ne_nil _ _) ?_
  intro a ha b hb hona honb
  simp only [feedOn, beq_iff_eq] at hona honb
  have hkey : Key.feed a.feed.feedGuid ∈ schema.keys .feeds a := List.mem_cons_self
  refine d.eq_of_shared_key ha hb hkey ?_
  rw [Option.some.inj (hona.symm.trans honb)]
  exact List.mem_cons_self

theorem leftJoin_tracks (e : SearchEntityRow) (f : Option FeedRow) :
    ∃ t, leftJoin (d .tracks) (trackOn sql e f) = [t] := by
  refine leftJoin_unique (d.rows_nodup fun r => List.cons_ne_nil _ _) ?_
  intro a ha b hb hona honb
  simp only [trackOn, Bool.and_eq_true, beq_iff_eq] at hona honb
  obtain ⟨⟨-, hfeedA⟩, htrackA⟩ := hona
  obtain ⟨⟨-, hfeedB⟩, htrackB⟩ := honb
  obtain ⟨r, hr, hguid⟩ := (Option.any_eq_true _ _).mp hfeedA
  obtain ⟨r', hr', hguid'⟩ := (Option.any_eq_true _ _).mp hfeedB
  rw [hr, Option.some.injEq] at hr'
  subst hr'
  have hkey : Key.track a.feedGuid a.trackGuid ∈ schema.keys .tracks a := List.mem_cons_self
  refine d.eq_of_shared_key ha hb hkey ?_
  rw [beq_iff_eq.mp hguid, ← beq_iff_eq.mp hguid',
    Option.some.inj (htrackA.symm.trans htrackB)]
  exact List.mem_cons_self

theorem searchHits_entities : (searchHits sql d).map SearchHit.e = d .searchEntities := by
  have hone : ∀ e : SearchEntityRow, ((leftJoin (d .entityQuality) (qualityOn e)).flatMap fun q =>
      (leftJoin (d .feeds) (feedOn sql e)).flatMap fun f =>
        (leftJoin (d .tracks) (trackOn sql e f)).map fun t =>
          (⟨e, q, f, t⟩ : SearchHit)).map SearchHit.e = [e] := by
    intro e
    obtain ⟨q, hq⟩ := leftJoin_quality (d := d) e
    obtain ⟨f, hf⟩ := @leftJoin_feeds sql d e
    obtain ⟨t, ht⟩ := @leftJoin_tracks sql d e f
    rw [hq, hf]
    simp [ht]
  have hall : ∀ entities : List SearchEntityRow,
      (entities.flatMap fun e => (leftJoin (d .entityQuality) (qualityOn e)).flatMap fun q =>
        (leftJoin (d .feeds) (feedOn sql e)).flatMap fun f =>
          (leftJoin (d .tracks) (trackOn sql e f)).map fun t =>
            (⟨e, q, f, t⟩ : SearchHit)).map SearchHit.e = entities := by
    intro entities
    induction entities with
    | nil => rfl
    | cons e entities ih =>
      rw [List.flatMap_cons, List.map_append, hone, ih]
      rfl
  exact hall _

end

theorem compareDates_eq (a b : Option Int) : compareDates a b = compare b a := by
  cases a <;> cases b <;> rfl

instance : Std.TransCmp compareDates where
  eq_swap {a b} := by
    rw [compareDates_eq, compareDates_eq]
    exact Std.OrientedCmp.eq_swap
  isLE_trans {a b c} hab hbc := by
    rw [compareDates_eq] at hab hbc ⊢
    exact Std.TransCmp.isLE_trans hbc hab

instance : Std.TransCmp fun a b : DateCursor => compareDates a.1 b.1 where
  eq_swap := @fun _ _ => @Std.OrientedCmp.eq_swap _ compareDates _ _ _
  isLE_trans hab hbc := @Std.TransCmp.isLE_trans _ compareDates _ _ _ _ hab hbc

instance : Std.TransCmp comparePlaces :=
  inferInstanceAs (Std.TransCmp
    (compareLex (fun a b : DateCursor => compareDates a.1 b.1) (compareOn Prod.snd)))

instance : Std.TransCmp compareDated where
  eq_swap := @fun _ _ => @Std.OrientedCmp.eq_swap _ comparePlaces _ _ _
  isLE_trans hab hbc := @Std.TransCmp.isLE_trans _ comparePlaces _ _ _ _ hab hbc

/-- The date of `a` is newer, or only `a` has one, or the dates are the same and the rowid of `a` is
smaller. -/
def GoesBefore (a b : DateCursor) : Prop :=
  (∃ date ∈ a.1, ∀ other ∈ b.1, other < date) ∨ (a.1 = b.1 ∧ a.2 < b.2)

theorem compareDates_lt {a b : Option Int} :
    compareDates a b = .lt ↔ ∃ date ∈ a, ∀ other ∈ b, other < date := by
  cases a <;> cases b <;> simp [compareDates, compare_lt_iff_lt]

theorem compareDates_eq_eq {a b : Option Int} : compareDates a b = .eq ↔ a = b := by
  cases a <;> cases b
  case some.some a b => rw [compareDates, compare_eq_iff_eq, Option.some.injEq, eq_comm]
  all_goals simp [compareDates]

theorem comparePlaces_lt {a b : DateCursor} : comparePlaces a b = .lt ↔ GoesBefore a b := by
  rw [comparePlaces, compareLex, Ordering.then_eq_lt, compareDates_lt, compareDates_eq_eq,
    compareOn, compare_lt_iff_lt]
  rfl

theorem isAfterDate_iff {a b : DateCursor} : isAfterDate a b = true ↔ GoesBefore a b := by
  obtain ⟨dateA, rowidA⟩ := a
  obtain ⟨dateB, rowidB⟩ := b
  cases dateA <;> cases dateB
  case some.some dateA dateB =>
    have hsame : dateB = dateA ↔ dateA = dateB := eq_comm
    simp [isAfterDate, GoesBefore, hsame]
  all_goals simp [isAfterDate, GoesBefore]

section

variable {sql : Sqlite} {d : Db} {params : DateSearchParams}

def searchDateRows (sql : Sqlite) (d : Db) (params : DateSearchParams) : List DatedSearchResult :=
  orderBy compareDated (((searchHits sql d).filter fun h =>
    params.filters.admits sql params.kind d h).map SearchHit.result)

theorem searchEntities_rowids : ((d .searchEntities).map SearchEntityRow.rowid).Nodup := by
  have hkeys : ((d .searchEntities).flatMap (schema.keys .searchEntities)).Nodup :=
    d.valid.unique .searchEntities
  have hmap : (d .searchEntities).flatMap (schema.keys .searchEntities) =
      ((d .searchEntities).map SearchEntityRow.rowid).map Key.searchEntity := by
    rw [List.map_map]
    exact List.flatMap_pure_eq_map (Key.searchEntity ∘ SearchEntityRow.rowid) (d .searchEntities)
  rw [hmap] at hkeys
  exact hkeys.of_map

theorem searchHits_rowids : ((searchHits sql d).map fun h => h.result.position.2).Nodup := by
  have hsame : (searchHits sql d).map (fun h => h.result.position.2) =
      ((searchHits sql d).map SearchHit.e).map SearchEntityRow.rowid := by
    rw [List.map_map]
    rfl
  rw [hsame, searchHits_entities]
  exact searchEntities_rowids

theorem matching_rowids (p : SearchHit → Bool) :
    ((((searchHits sql d).filter p).map SearchHit.result).map fun r => r.position.2).Nodup := by
  rw [List.map_map]
  exact searchHits_rowids.sublist (List.filter_sublist.map _)

theorem searchDateRows_rowids :
    ((searchDateRows sql d params).map fun r => r.position.2).Nodup :=
  ((orderBy_perm compareDated _).map fun r => r.position.2).nodup_iff.mpr (matching_rowids _)

theorem mem_searchDateRows {r : DatedSearchResult} : r ∈ searchDateRows sql d params ↔
    ∃ h ∈ searchHits sql d, params.filters.admits sql params.kind d h = true ∧ h.result = r := by
  rw [searchDateRows, mem_orderBy, List.mem_map]
  simp only [List.mem_filter, and_assoc]

theorem searchDateRows_sorted :
    (searchDateRows sql d params).Pairwise fun a b => compareDated a b = .lt := by
  have hrowids := @matching_rowids sql d fun h => params.filters.admits sql params.kind d h
  apply orderBy_strict hrowids.of_map
  intro a ha b hb hsame
  refine List.inj_on_of_nodup_map hrowids ha hb ?_
  have hplaces : comparePlaces a.position b.position = .eq := hsame
  exact compare_eq_iff_eq.mp (compareLex_eq_eq.mp hplaces).2

/-- The columns of the index rows and of their dates hold integers of 64 bits. -/
structure IndexInRange (d : Db) : Prop where
  rowids : ∀ e : SearchEntityRow, e ∈ d .searchEntities → CheckedInt.InRange e.rowid
  feeds : ∀ r : FeedRow, r ∈ d .feeds → ∀ date ∈ r.feed.newestItemAt, CheckedInt.InRange date
  tracks : ∀ t : Track, t ∈ d .tracks → ∀ date ∈ t.pubDate, CheckedInt.InRange date

theorem mem_of_mem_leftJoin {α : Type} {rows : List α} {on : α → Bool} {a : α}
    (h : some a ∈ leftJoin rows on) : a ∈ rows := by
  unfold leftJoin at h
  split at h
  · simp at h
  · obtain ⟨b, hb, hsame⟩ := List.mem_map.mp h
    rw [← Option.some.inj hsame]
    exact List.mem_of_mem_filter hb

theorem mem_searchHits {h : SearchHit} (hh : h ∈ searchHits sql d) :
    h.e ∈ d .searchEntities ∧ (∀ f ∈ h.f, f ∈ d .feeds) ∧ ∀ t ∈ h.t, t ∈ d .tracks := by
  obtain ⟨e, he, hh⟩ := List.mem_flatMap.mp hh
  obtain ⟨q, -, hh⟩ := List.mem_flatMap.mp hh
  obtain ⟨f, hf, hh⟩ := List.mem_flatMap.mp hh
  obtain ⟨t, ht, rfl⟩ := List.mem_map.mp hh
  refine ⟨he, fun r hr => ?_, fun track htrack => ?_⟩
  · cases (show f = some r from hr)
    exact mem_of_mem_leftJoin hf
  · cases (show t = some track from htrack)
    exact mem_of_mem_leftJoin ht

theorem IndexInRange.hit (hd : IndexInRange d) {h : SearchHit} (hh : h ∈ searchHits sql d) :
    CheckedInt.InRange h.e.rowid ∧ ∀ date ∈ h.date, CheckedInt.InRange date := by
  obtain ⟨he, hf, ht⟩ := mem_searchHits hh
  refine ⟨hd.rowids _ he, fun date hdate => ?_⟩
  unfold SearchHit.date at hdate
  split at hdate
  · obtain ⟨t, htrack, hdate⟩ := Option.bind_eq_some_iff.mp hdate
    exact hd.tracks t (ht t htrack) date hdate
  · obtain ⟨r, hr, hdate⟩ := Option.bind_eq_some_iff.mp hdate
    exact hd.feeds r (hf r hr) date hdate

theorem IndexInRange.position (hd : IndexInRange d) {r : DatedSearchResult}
    (hr : r ∈ searchDateRows sql d params) :
    CheckedInt.InRange r.result.rowid ∧ ∀ date ∈ r.date, CheckedInt.InRange date := by
  obtain ⟨h, hh, -, rfl⟩ := mem_searchDateRows.mp hr
  exact hd.hit hh

theorem trimStartMatches_mark {text : String} (h : 'd' ∉ text.toList) :
    trimStartMatches 'd' ("d" ++ text) = text := by
  have hkeep : text.toList.dropWhile (· == 'd') = text.toList := by
    cases hchars : text.toList with
    | nil => rfl
    | cons c cs =>
      rw [List.dropWhile_cons_of_neg]
      rintro hc
      rw [hchars, beq_iff_eq.mp hc] at h
      exact h List.mem_cons_self
  rw [trimStartMatches, String.toList_append]
  change String.ofList (text.toList.dropWhile (· == 'd')) = text
  rw [hkeep, String.ofList_toList]

theorem dateText_chars {date : Option Int} {c : Char}
    (h : c ∈ ((date.map toString).getD "").toList) : c.isDigit = true ∨ c = '-' := by
  cases date with
  | none => simp at h
  | some date => exact Text.Decimal.mem_toString h

theorem parseSearchDate_text {date : Option Int}
    (hdate : ∀ value ∈ date, CheckedInt.InRange value) :
    parseSearchDate ((date.map toString).getD "") = .ok date := by
  cases date with
  | none => rfl
  | some date =>
    rw [Option.map_some, Option.getD_some, parseSearchDate,
      if_neg (by simpa using Text.Decimal.toString_ne_empty date),
      Text.Decimal.parse_toString (hdate date rfl)]

theorem parseSearchDateCursor_ok {r : DatedSearchResult}
    (hrowid : CheckedInt.InRange r.result.rowid)
    (hdate : ∀ date ∈ r.date, CheckedInt.InRange date) :
    parseSearchDateCursor (searchDateCursor r) = .ok r.position := by
  have hmark : 'd' ∉ ((r.date.map toString).getD "").toList := fun hmem =>
    absurd (dateText_chars hmem) (by decide)
  have hnul : nul ∉ ("d" ++ (r.date.map toString).getD "").toList := by
    rw [String.toList_append, List.mem_append, not_or]
    exact ⟨by decide, fun hmem => absurd (dateText_chars hmem) (by decide)⟩
  have hhead : (("d" ++ (r.date.map toString).getD "").toList.head? == some 'd') = true := by
    rw [String.toList_append]
    rfl
  simp only [parseSearchDateCursor, searchDateCursor, decodeCursor_encode,
    splitKeys_cursorText hnul 0, Nat.zero_add, splitKeys_one, hhead, if_true,
    Text.Decimal.parse_toString hrowid, trimStartMatches_mark hmark, parseSearchDate_text hdate]
  rfl

/-- The rows behind a cursor. -/
def searchDateRest (sql : Sqlite) (d : Db) (params : DateSearchParams) :
    Option String → List DatedSearchResult
  | none => searchDateRows sql d params
  | some cursor =>
    match parseSearchDateCursor cursor with
    | .error _ => []
    | .ok position =>
      (searchDateRows sql d params).filter fun r => isAfterDate position r.position

theorem searchByDate_eq (cursor : Option DateCursor) (limit : Nat) :
    searchByDate sql d params.filters params.kind limit cursor =
      ((searchDateRows sql d params).filter fun r =>
        cursor.all fun c => isAfterDate c r.position).take limit := by
  unfold searchByDate searchDateRows
  rw [← orderBy_filter, List.filter_map, List.filter_filter]
  congr 3
  apply List.filter_congr
  intro h _
  rw [Bool.and_comm]
  rfl

/-- The type is one that a search takes. -/
def DateSearchParams.KindFits (params : DateSearchParams) : Prop :=
  ∀ kind ∈ params.kind, kind ∈ ["feed", "track", "publisher"]

theorem DateSearchParams.cappedLimit_pos : 0 < params.cappedLimit := by
  unfold cappedLimit
  omega

theorem searchDateAnswer_eq (hkind : params.KindFits) (cursor : Option DateCursor) :
    searchDateAnswer sql d params cursor = .ok (pageOf params.cappedLimit searchDateCursor
      ((searchDateRows sql d params).filter fun r =>
        cursor.all fun c => isAfterDate c r.position)) := by
  have hfits : params.kind.all (· ∈ ["feed", "track", "publisher"]) = true := by
    rw [Option.all_eq_true]
    exact fun kind h => decide_eq_true (hkind kind h)
  rw [searchDateAnswer, if_pos hfits, ← pageOf_take, ← searchByDate_eq]
  rfl

theorem searchDatePage_eq (hkind : params.KindFits) (cursor : Option String) :
    searchDatePage sql d params cursor =
      pageOf params.cappedLimit searchDateCursor (searchDateRest sql d params cursor) := by
  cases cursor with
  | none =>
    have hanswer := @searchDateAnswer_eq sql d params hkind none
    simp only [Option.all_none, List.filter_true] at hanswer
    rw [searchDatePage, handleSearchByDate, hanswer]
    rfl
  | some text =>
    simp only [searchDatePage, handleSearchByDate, searchDateRest]
    cases parseSearchDateCursor text with
    | error err => simp [pageOf, Except.toOption]
    | ok position =>
      have hanswer := @searchDateAnswer_eq sql d params hkind (some position)
      simp only [Option.all_some] at hanswer
      change (searchDateAnswer sql d params (some position)).toOption.getD _ = _
      rw [hanswer]
      rfl

theorem searchDateRest_behind (hd : IndexInRange d) {front back : List DatedSearchResult}
    {r : DatedSearchResult} (hrows : searchDateRows sql d params = front ++ r :: back) :
    searchDateRest sql d params (some (searchDateCursor r)) = back := by
  have htrans : IsTrans DatedSearchResult fun a b => compareDated a b = .lt :=
    ⟨fun _ _ _ hab hbc => Std.TransCmp.lt_trans hab hbc⟩
  have hirrefl : ∀ a, ¬compareDated a a = .lt := by
    intro a
    rw [@Std.ReflCmp.compare_self _ compareDated]
    decide
  have hr : r ∈ searchDateRows sql d params := by simp [hrows]
  obtain ⟨hrowid, hdate⟩ := hd.position hr
  have hbehind := filter_behind hirrefl (hrows ▸ searchDateRows_sorted)
  rw [searchDateRest, parseSearchDateCursor_ok hrowid hdate, hrows]
  refine Eq.trans (List.filter_congr fun a _ => ?_) hbehind
  rw [Bool.eq_iff_iff, isAfterDate_iff, ← comparePlaces_lt, decide_eq_true_eq]
  rfl

/-- The requests from the first page on give each row that the filters match exactly once, in the
order of the search, and each cursor is read back as the place of its row. -/
structure SearchDatePaged (sql : Sqlite) (d : Db) (params : DateSearchParams)
    (rows : List DatedSearchResult) : Prop where
  joined : (searchHits sql d).map SearchHit.e = d .searchEntities
  walk : Walk (searchDatePage sql d params) none rows
  matching : ∀ r, r ∈ rows ↔ ∃ h ∈ searchHits sql d,
    params.filters.admits sql params.kind d h = true ∧ h.result = r
  once : (rows.map fun r => r.result.rowid).Nodup
  ordered : rows.Pairwise fun a b => GoesBefore a.position b.position
  decodes : ∀ r ∈ rows, parseSearchDateCursor (searchDateCursor r) = .ok r.position

theorem searchDate_paged (sql : Sqlite) (d : Db) (params : DateSearchParams)
    (hd : IndexInRange d) (hkind : params.KindFits) :
    SearchDatePaged sql d params (searchDateRows sql d params) := by
  constructor
  case joined => exact searchHits_entities
  case walk =>
    have hpage : searchDatePage sql d params = fun c =>
        pageOf params.cappedLimit searchDateCursor (searchDateRest sql d params c) :=
      funext (searchDatePage_eq hkind)
    rw [hpage]
    apply walk_pages DateSearchParams.cappedLimit_pos
    · intro r back hborder
      obtain ⟨front, hrows, -⟩ := hborder.split
      exact searchDateRest_behind hd hrows
    · rfl
  case matching => exact fun r => mem_searchDateRows
  case once => exact searchDateRows_rowids
  case ordered => exact searchDateRows_sorted.imp fun h => comparePlaces_lt.mp h
  case decodes =>
    intro r hr
    obtain ⟨hrowid, hdate⟩ := hd.position hr
    exact parseSearchDateCursor_ok hrowid hdate

end

section Sample

/-- The JSON text of one track, and an index with no word. -/
def indexSqlite : Sqlite where
  ftsMatch _ _ := false
  jsonExtract text path :=
    if text == canonicalTrackEntityId "f" "t" then
      if path == "$[0]" then some "f" else if path == "$[1]" then some "t" else none
    else none

def datedFeed (feedGuid : String) (newestItemAt : Option Int) : FeedRow :=
  let row := viewFeed feedGuid ("https://" ++ feedGuid ++ ".example") "music" none
  { row with feed := { row.feed with newestItemAt := newestItemAt } }

/-- A track with a date, a feed with one and a feed with none. -/
def indexedDb : Db where
  contents
    | .feeds => [datedFeed "f" (some 5), datedFeed "g" none]
    | .tracks => [{ trackOf "f" "Nia" with pubDate := some 7 }]
    | .searchEntities =>
      [⟨2, "feed", "f"⟩, ⟨1, "feed", "g"⟩, ⟨3, "track", canonicalTrackEntityId "f" "t"⟩]
    | _ => []
  valid := by decide +kernel

def oneHitPerPage : DateSearchParams where
  kind := none
  limit := some 1
  filters :=
    { included := []
      excluded := []
      values :=
        { kinds := none
          tracks := none
          minTracks := none
          maxTracks := none
          after := none
          beforeEnd := none
          minDuration := none
          maxDuration := none
          host := none
          notHosts := [] } }

/-- Pages of one row, with a border between the rows with a date and the row with none. -/
theorem searchDate_paged_sample :
    SearchDatePaged indexSqlite indexedDb oneHitPerPage
      (searchDateRows indexSqlite indexedDb oneHitPerPage) :=
  searchDate_paged indexSqlite indexedDb oneHitPerPage
    { rowids := by decide +kernel
      feeds := by decide +kernel
      tracks := by decide +kernel }
    (fun _ hkind => by cases hkind)

example : (searchDateRows indexSqlite indexedDb oneHitPerPage).map DatedSearchResult.position =
    [(some 7, 3), (some 5, 2), (none, 1)] := by
  decide +kernel

end Sample

end Stophammer
