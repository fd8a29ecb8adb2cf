import Mathlib
import Stophammer.Paging.Changing
import Stophammer.Query.DateSearch
import Stophammer.Relational.Merge

/-!
# The search by rank

A search with words reads the index rows that match them, best rank first.  A request with no type
reads the feeds and the tracks apart, as far as one page needs, and puts the two lists together.  A
cursor is the bits of the rank and the rowid of the last row of a page.
-/

namespace Stophammer

open Relational Paging

/-- The place of a double among all doubles.  The two zeros have one place. -/
def Double.order (x : Double) : Int :=
  let magnitude : Int := (x.bits.extractLsb' 0 63).toNat
  if x.bits.msb then -magnitude else magnitude

/-- `f64::from_bits`, when the value is finite. -/
def Double.fromBits (bits : Nat) : Option Double :=
  if h : (BitVec.ofNat 64 bits).extractLsb' 52 11 ≠ BitVec.allOnes 11 then
    some ⟨BitVec.ofNat 64 bits, h⟩
  else none

/-- What SQLite gives for a search by rank: the rank of an index row that matches a query, and the
product of a rank and a quality score. -/
structure RankedSqlite extends Sqlite where
  bm25 : Db → String → SearchIndexRow → Double
  effectiveRank : Double → Int → Double

/-- An index row that matches the words. -/
structure RankedHit where
  hit : SearchHit
  ftsRank : Double

section

variable (sql : RankedSqlite)

/-- The matches of the words with their joins.  A join that no filter reads gives each row once. -/
def rankedHits (d : Db) (query : String) : List RankedHit :=
  (d .searchIndex).flatMap fun m : SearchIndexRow =>
    if sql.ftsMatch m query then
      ((searchHits sql.toSqlite d).filter fun h => h.e.rowid == m.rowid).map fun h =>
        ⟨h, sql.bm25 d query m⟩
    else []

def RankedHit.result (h : RankedHit) : SearchResult :=
  let qualityScore := (h.hit.q.map EntityQualityRow.score).getD 0
  { entityType := h.hit.e.entityType
    entityId := h.hit.e.entityId
    rank := h.ftsRank
    qualityScore := qualityScore
    effectiveRank := sql.effectiveRank h.ftsRank qualityScore
    rowid := h.hit.e.rowid }

/-- The rank and the rowid of a row. -/
abbrev RankCursor : Type := Double × Int

def RankCursor.place (c : RankCursor) : Int ×ₗ Int := toLex (c.1.order, c.2)

def SearchResult.place (r : SearchResult) : Int ×ₗ Int := toLex (r.effectiveRank.order, r.rowid)

/-- The row stands after the cursor. -/
def isAfterRank (c : RankCursor) (r : SearchResult) : Bool :=
  c.1.order < r.effectiveRank.order ||
    (r.effectiveRank.order == c.1.order && c.2 < r.rowid)

def compareRanked : SearchResult → SearchResult → Ordering := compareOn SearchResult.place

instance : Std.TransCmp compareRanked :=
  inferInstanceAs (Std.TransCmp (compareOn SearchResult.place))

def searchFiltered (d : Db) (query : String) (filters : SearchFilters) (entityType : String)
    (limit : Nat) (cursor : Option RankCursor) : List SearchResult :=
  let safeQuery := fts5QueryFromWords query
  if (trim safeQuery).isEmpty then []
  else
    (orderBy compareRanked (((rankedHits sql d safeQuery).filter fun h =>
      filters.admits sql.toSqlite (some entityType) d h.hit &&
        cursor.all fun c => isAfterRank c (h.result sql)).map (RankedHit.result sql))).take limit

structure RankSearchParams extends DateSearchParams where
  q : String

def searchRankCursor (r : SearchResult) : String :=
  encodeCursor (cursorText (toString r.effectiveRank.bits.toNat) (toString r.rowid))

/-- A cursor of a search by date starts with a `d`. -/
def parseSearchRankCursor (cursor : String) : Except ApiError RankCursor :=
  match decodeCursor cursor with
  | .error err => .error err
  | .ok decoded =>
    match splitKeys 2 decoded with
    | [first, second] =>
      if first.toList.head? == some 'd' then .error (badRequest "invalid cursor format")
      else
        match Text.Decimal.parse second with
        | none => .error (badRequest "invalid cursor rowid")
        | some rowid =>
          match Text.Decimal.parseUnsigned first with
          | none => .error (badRequest "invalid cursor rank")
          | some bits =>
            match Double.fromBits bits with
            | none => .error (badRequest "invalid cursor rank: non-finite value")
            | some rank => .ok (rank, rowid)
    | _ => .error (badRequest "invalid cursor format")

/-- The rows of one page and one more. -/
def searchRankRows (d : Db) (params : RankSearchParams) (limit : Nat)
    (cursor : Option RankCursor) : Except ApiError (List SearchResult) :=
  match params.kind with
  | some kind =>
    if kind ∈ ["feed", "track", "publisher"] then
      .ok (searchFiltered sql d params.q params.filters kind limit cursor)
    else .error (badRequest ("unsupported search type filter: " ++ kind))
  | none =>
    let merged := ["feed", "track"].flatMap fun entityType =>
      searchFiltered sql d params.q params.filters entityType limit cursor
    .ok ((orderBy compareRanked merged).take limit)

def searchRankAnswer (d : Db) (params : RankSearchParams) (cursor : Option RankCursor) :
    Except ApiError (Page SearchResult String) :=
  let limit := params.cappedLimit
  (searchRankRows sql d params (limit + 1) cursor).map fun rows =>
    { items := rows.take limit
      next := if limit < rows.length then (rows.take limit).getLast?.map searchRankCursor
        else none }

/-- `handle_search` of a request with words. -/
def handleSearchByRank (d : Db) (params : RankSearchParams) :
    Option String → Except ApiError (Page SearchResult String)
  | none => searchRankAnswer sql d params none
  | some cursor =>
    match parseSearchRankCursor cursor with
    | .error err => .error err
    | .ok position => searchRankAnswer sql d params (some position)

/-- An error ends the requests of a client. -/
def searchRankPage (d : Db) (params : RankSearchParams) (cursor : Option String) :
    Page SearchResult String :=
  (handleSearchByRank sql d params cursor).toOption.getD { items := [], next := none }

end

section

variable {sql : RankedSqlite} {d : Db} {query : String}

theorem mem_rankedHits {h : RankedHit} : h ∈ rankedHits sql d query ↔
    h.hit ∈ searchHits sql.toSqlite d ∧ ∃ m : SearchIndexRow, m ∈ d .searchIndex ∧
      sql.ftsMatch m query = true ∧ h.hit.e.rowid = m.rowid ∧
      h.ftsRank = sql.bm25 d query m := by
  rw [rankedHits, List.mem_flatMap]
  constructor
  · rintro ⟨m, hm, hh⟩
    split at hh
    · rename_i hmatch
      obtain ⟨hit, hhit, rfl⟩ := List.mem_map.mp hh
      obtain ⟨hhit, hrowid⟩ := List.mem_filter.mp hhit
      exact ⟨hhit, m, hm, hmatch, beq_iff_eq.mp hrowid, rfl⟩
    · cases hh
  · rintro ⟨hhit, m, hm, hmatch, hrowid, hrank⟩
    refine ⟨m, hm, ?_⟩
    rw [if_pos hmatch]
    exact List.mem_map.mpr ⟨h.hit, List.mem_filter.mpr ⟨hhit, beq_iff_eq.mpr hrowid⟩, by
      rw [← hrank]⟩

theorem rankedHits_rowids : ((rankedHits sql d query).map fun h => h.hit.e.rowid).Nodup := by
  have hindex : (d .searchIndex).Pairwise fun a b : SearchIndexRow => a.rowid ≠ b.rowid := by
    have hkeys : ((d .searchIndex).flatMap (schema.keys .searchIndex)).Nodup :=
      d.valid.unique .searchIndex
    have hmap : (d .searchIndex).flatMap (schema.keys .searchIndex) =
        (d .searchIndex).map (Key.searchIndex ∘ SearchIndexRow.rowid) :=
      List.flatMap_pure_eq_map (Key.searchIndex ∘ SearchIndexRow.rowid) (d .searchIndex)
    rw [hmap] at hkeys
    exact (List.pairwise_map.mp hkeys).imp fun hne hsame => hne (congrArg Key.searchIndex hsame)
  have hpiece : ∀ m : SearchIndexRow, ∀ h ∈ (if sql.ftsMatch m query then
      ((searchHits sql.toSqlite d).filter fun h => h.e.rowid == m.rowid).map fun h =>
        (⟨h, sql.bm25 d query m⟩ : RankedHit) else []), h.hit.e.rowid = m.rowid := by
    intro m h hh
    split at hh
    · obtain ⟨hit, hhit, rfl⟩ := List.mem_map.mp hh
      exact beq_iff_eq.mp (List.mem_filter.mp hhit).2
    · cases hh
  rw [rankedHits, List.map_flatMap, List.nodup_flatMap]
  refine ⟨fun m _ => ?_, hindex.imp fun {a b} hne => ?_⟩
  · split
    · rw [List.map_map]
      exact searchHits_rowids.sublist (List.filter_sublist.map _)
    · exact List.nodup_nil
  · intro rowid ha hb
    obtain ⟨h, hh, rfl⟩ := List.mem_map.mp ha
    obtain ⟨h', hh', hsame⟩ := List.mem_map.mp hb
    exact hne ((hpiece a h hh).symm.trans (hsame.symm.trans (hpiece b h' hh')))

end

section

variable (sql : RankedSqlite) (d : Db) (params : RankSearchParams)

/-- The types that a request reads. -/
def RankSearchParams.types : List String := params.kind.elim ["feed", "track"] fun kind => [kind]

/-- The rows of one type that the words and the filters match. -/
def matchingOf (entityType : String) : List SearchResult :=
  let safeQuery := fts5QueryFromWords params.q
  if (trim safeQuery).isEmpty then []
  else ((rankedHits sql d safeQuery).filter fun h =>
    params.filters.admits sql.toSqlite (some entityType) d h.hit).map (RankedHit.result sql)

/-- All matches in the order of the search. -/
def searchRankList : List SearchResult :=
  orderBy compareRanked (params.types.flatMap (matchingOf sql d params))

end

section

variable {sql : RankedSqlite} {d : Db} {params : RankSearchParams}

theorem mem_matchingOf {entityType : String} {r : SearchResult} :
    r ∈ matchingOf sql d params entityType ↔
      (trim (fts5QueryFromWords params.q)).isEmpty = false ∧
      ∃ h ∈ rankedHits sql d (fts5QueryFromWords params.q),
        params.filters.admits sql.toSqlite (some entityType) d h.hit = true ∧
        h.result sql = r := by
  unfold matchingOf
  dsimp only
  split
  · rename_i hempty
    simp [hempty]
  · rename_i hempty
    rw [Bool.not_eq_true] at hempty
    rw [List.mem_map]
    simp only [List.mem_filter, and_assoc, hempty, true_and]

theorem matchingOf_type {entityType : String} {r : SearchResult}
    (hr : r ∈ matchingOf sql d params entityType) : r.entityType = entityType := by
  obtain ⟨-, h, -, hadmits, rfl⟩ := mem_matchingOf.mp hr
  simp only [SearchFilters.admits, ofEntityType, Bool.and_eq_true, beq_iff_eq] at hadmits
  exact hadmits.1.1

theorem matchingOf_rowids (entityType : String) :
    ((matchingOf sql d params entityType).map SearchResult.rowid).Nodup := by
  unfold matchingOf
  dsimp only
  split
  · exact List.nodup_nil
  · rw [List.map_map]
    exact rankedHits_rowids.sublist (List.filter_sublist.map _)

theorem eq_of_rowid {type type' : String} {a b : SearchResult}
    (ha : a ∈ matchingOf sql d params type) (hb : b ∈ matchingOf sql d params type')
    (hsame : a.rowid = b.rowid) : a = b := by
  obtain ⟨-, h, hh, -, rfl⟩ := mem_matchingOf.mp ha
  obtain ⟨-, h', hh', -, rfl⟩ := mem_matchingOf.mp hb
  rw [List.inj_on_of_nodup_map rankedHits_rowids hh hh' hsame]

theorem searchRankList_rowids : ((searchRankList sql d params).map SearchResult.rowid).Nodup := by
  have hall : ∀ types : List String, types.Nodup →
      ((types.flatMap (matchingOf sql d params)).map SearchResult.rowid).Nodup := by
    intro types htypes
    rw [List.map_flatMap, List.nodup_flatMap]
    refine ⟨fun type _ => matchingOf_rowids type, htypes.imp fun {type type'} hne => ?_⟩
    intro rowid ha hb
    obtain ⟨a, ha, hrowid⟩ := List.mem_map.mp ha
    obtain ⟨b, hb, hrowid'⟩ := List.mem_map.mp hb
    have hsame := eq_of_rowid ha hb (hrowid.trans hrowid'.symm)
    have htype := matchingOf_type ha
    rw [hsame, matchingOf_type hb] at htype
    exact hne htype.symm
  have htypes : params.types.Nodup := by
    unfold RankSearchParams.types
    cases params.kind with
    | none => exact (by decide : ["feed", "track"].Nodup)
    | some kind => exact List.nodup_singleton kind
  exact ((orderBy_perm compareRanked _).map _).nodup_iff.mpr (hall _ htypes)

theorem compareRanked_eq {types : List String} :
    ∀ a ∈ types.flatMap (matchingOf sql d params), ∀ b ∈ types.flatMap (matchingOf sql d params),
      compareRanked a b = .eq → a = b := by
  intro a ha b hb hsame
  obtain ⟨type, -, ha⟩ := List.mem_flatMap.mp ha
  obtain ⟨type', -, hb⟩ := List.mem_flatMap.mp hb
  have hplace : a.place = b.place := compare_eq_iff_eq.mp hsame
  exact eq_of_rowid ha hb (Prod.mk.inj (toLex_inj.mp hplace)).2

theorem searchRankList_sorted :
    (searchRankList sql d params).Pairwise fun a b => a.place < b.place := by
  have hnodup : (params.types.flatMap (matchingOf sql d params)).Nodup :=
    (((orderBy_perm compareRanked _).map SearchResult.rowid).nodup_iff.mp
      searchRankList_rowids).of_map
  have hstrict : (searchRankList sql d params).Pairwise fun a b => compareRanked a b = .lt :=
    orderBy_strict hnodup compareRanked_eq
  exact hstrict.imp fun h => compare_lt_iff_lt.mp h

theorem isAfterRank_iff {c : RankCursor} {r : SearchResult} :
    isAfterRank c r = true ↔ c.place < r.place := by
  have hsame : r.effectiveRank.order = c.1.order ↔ c.1.order = r.effectiveRank.order := eq_comm
  rw [RankCursor.place, SearchResult.place, Prod.Lex.lt_iff]
  simp only [isAfterRank, Bool.or_eq_true, Bool.and_eq_true, decide_eq_true_eq, beq_iff_eq, hsame,
    ofLex_toLex]

def admitsCursor (cursor : Option RankCursor) (r : SearchResult) : Bool :=
  (cursor.map RankCursor.place).all fun p => decide (p < r.place)

theorem searchFiltered_eq (entityType : String) (limit : Nat) (cursor : Option RankCursor) :
    searchFiltered sql d params.q params.filters entityType limit cursor =
      (orderBy compareRanked ((matchingOf sql d params entityType).filter
        (admitsCursor cursor))).take limit := by
  have hcursor : ∀ r, (cursor.all fun c => isAfterRank c r) = admitsCursor cursor r := by
    intro r
    cases cursor with
    | none => rfl
    | some c =>
      rw [Option.all_some, admitsCursor, Option.map_some, Option.all_some, Bool.eq_iff_iff,
        isAfterRank_iff, decide_eq_true_eq]
  unfold searchFiltered matchingOf
  dsimp only
  split
  · exact List.take_nil.symm
  · rw [List.filter_map, List.filter_filter]
    congr 3
    apply List.filter_congr
    intro h _
    rw [Bool.and_comm, hcursor]
    rfl

/-- The type is one that a search takes. -/
def RankSearchParams.KindFits (params : RankSearchParams) : Prop :=
  ∀ kind ∈ params.kind, kind ∈ ["feed", "track", "publisher"]

theorem searchRankRows_eq (hkind : params.KindFits) (limit : Nat) (cursor : Option RankCursor) :
    searchRankRows sql d params limit cursor =
      .ok (((searchRankList sql d params).filter (admitsCursor cursor)).take limit) := by
  unfold searchRankRows searchRankList RankSearchParams.types
  cases hparams : params.kind with
  | some kind =>
    have hfits := hkind kind hparams
    dsimp only
    rw [if_pos hfits, searchFiltered_eq, Option.elim_some, List.flatMap_singleton, orderBy_filter]
  | none =>
    dsimp only
    rw [Option.elim_none, ← orderBy_filter]
    simp only [List.flatMap_cons, List.flatMap_nil, List.append_nil, searchFiltered_eq,
      List.filter_append]
    have hmem : ∀ r, r ∈ (matchingOf sql d params "feed").filter (admitsCursor cursor) ++
        (matchingOf sql d params "track").filter (admitsCursor cursor) →
          r ∈ ["feed", "track"].flatMap (matchingOf sql d params) := by
      intro r hr
      rw [List.flatMap_cons, List.flatMap_singleton]
      rw [← List.filter_append] at hr
      exact List.mem_of_mem_filter hr
    exact congrArg Except.ok (take_orderBy_append limit fun a ha b hb =>
      compareRanked_eq a (hmem a ha) b (hmem b hb))

theorem RankSearchParams.cappedLimit_pos : 0 < params.cappedLimit :=
  DateSearchParams.cappedLimit_pos

/-- The rows that a cursor stands for. -/
def searchRankAfter (sql : RankedSqlite) (d : Db) (params : RankSearchParams) (s : Unit) :
    Option String → List SearchResult
  | none => searchRankList sql d params
  | some cursor =>
    match parseSearchRankCursor cursor with
    | .error _ => []
    | .ok position =>
      behind (fun _ => searchRankList sql d params) SearchResult.place s (some position.place)

theorem searchRankAnswer_eq (hkind : params.KindFits) (cursor : Option RankCursor) :
    searchRankAnswer sql d params cursor = .ok (pageOf params.cappedLimit searchRankCursor
      ((searchRankList sql d params).filter (admitsCursor cursor))) := by
  rw [searchRankAnswer, searchRankRows_eq hkind, ← pageOf_take]
  rfl

theorem searchRankPage_eq (hkind : params.KindFits) (cursor : Option String) :
    searchRankPage sql d params cursor =
      pageOf params.cappedLimit searchRankCursor (searchRankAfter sql d params () cursor) := by
  cases cursor with
  | none =>
    have hall : (searchRankList sql d params).filter (admitsCursor none) =
        searchRankList sql d params := List.filter_eq_self.mpr fun _ _ => rfl
    rw [searchRankPage, handleSearchByRank, searchRankAnswer_eq hkind, hall]
    rfl
  | some text =>
    simp only [searchRankPage, handleSearchByRank, searchRankAfter]
    cases parseSearchRankCursor text with
    | error err => simp [pageOf, Except.toOption]
    | ok position =>
      dsimp only
      rw [searchRankAnswer_eq hkind]
      rfl

theorem Double.fromBits_bits (x : Double) : Double.fromBits x.bits.toNat = some x := by
  obtain ⟨bits, finite⟩ := x
  have hsame : BitVec.ofNat 64 bits.toNat = bits := by
    rw [BitVec.ofNat_toNat, BitVec.setWidth_eq]
  simp only [Double.fromBits, hsame]
  exact dif_pos finite

theorem natText_chars {n : Nat} {c : Char} (h : c ∈ (toString n).toList) : c.isDigit = true := by
  rw [show (toString n).toList = Nat.toDigits 10 n from Nat.toList_repr] at h
  exact Nat.isDigit_of_mem_toDigits (by decide) (by decide) h

theorem parseSearchRankCursor_ok {r : SearchResult} (hrowid : CheckedInt.InRange r.rowid) :
    parseSearchRankCursor (searchRankCursor r) = .ok (r.effectiveRank, r.rowid) := by
  have hnul : nul ∉ (toString r.effectiveRank.bits.toNat).toList := fun hmem =>
    absurd (natText_chars hmem) (by decide)
  have hhead : ((toString r.effectiveRank.bits.toNat).toList.head? == some 'd') = false := by
    rw [beq_eq_false_iff_ne]
    intro hd
    exact absurd (natText_chars (List.mem_of_head? hd)) (by decide)
  simp only [parseSearchRankCursor, searchRankCursor, decodeCursor_encode,
    splitKeys_cursorText hnul 0, Nat.zero_add, splitKeys_one, hhead, Bool.false_eq_true, if_false,
    Text.Decimal.parse_toString hrowid,
    Text.Decimal.parseUnsigned_toString r.effectiveRank.bits.isLt, Double.fromBits_bits]

theorem mem_searchRankList {r : SearchResult} : r ∈ searchRankList sql d params ↔
    ∃ type ∈ params.types, r ∈ matchingOf sql d params type := by
  rw [searchRankList, mem_orderBy, List.mem_flatMap]

theorem searchRank_keyset (hd : ∀ e : SearchEntityRow, e ∈ d .searchEntities →
    CheckedInt.InRange e.rowid) :
    Keyset (fun _ : Unit => searchRankList sql d params) SearchResult.place searchRankCursor
      (searchRankAfter sql d params) := by
  constructor
  case sorted => exact fun _ => searchRankList_sorted
  case start => exact fun _ => rfl
  case cursor =>
    intro _ _ r hr
    obtain ⟨type, -, hmatch⟩ := mem_searchRankList.mp hr
    obtain ⟨-, h, hh, -, rfl⟩ := mem_matchingOf.mp hmatch
    have hrowid := hd h.hit.e (mem_searchHits (mem_rankedHits.mp hh).1).1
    rw [searchRankAfter, parseSearchRankCursor_ok hrowid]
    rfl

/-- The requests from the first page on give each match of the words and the filters once, best
rank first. -/
structure SearchRankPaged (sql : RankedSqlite) (d : Db) (params : RankSearchParams)
    (rows : List SearchResult) : Prop where
  walk : Walk (searchRankPage sql d params) none rows
  matching : ∀ r, r ∈ rows ↔ (trim (fts5QueryFromWords params.q)).isEmpty = false ∧
    ∃ h ∈ searchHits sql.toSqlite d, ∃ m : SearchIndexRow, m ∈ d .searchIndex ∧
      sql.ftsMatch m (fts5QueryFromWords params.q) = true ∧ h.e.rowid = m.rowid ∧
      (∃ type ∈ params.types, params.filters.admits sql.toSqlite (some type) d h = true) ∧
      r = RankedHit.result sql ⟨h, sql.bm25 d (fts5QueryFromWords params.q) m⟩
  once : (rows.map SearchResult.rowid).Nodup
  ordered : rows.Pairwise fun a b => a.effectiveRank.order < b.effectiveRank.order ∨
    a.effectiveRank.order = b.effectiveRank.order ∧ a.rowid < b.rowid

/-- A request with no type gives the pages of one ordered list of feeds and tracks, though each
page is put together from a query for feeds and a query for tracks. -/
theorem searchRank_paged (sql : RankedSqlite) (d : Db) (params : RankSearchParams)
    (hd : ∀ e : SearchEntityRow, e ∈ d .searchEntities → CheckedInt.InRange e.rowid)
    (hkind : params.KindFits) :
    SearchRankPaged sql d params (searchRankList sql d params) := by
  constructor
  case walk =>
    have hpage : searchRankPage sql d params = fun c =>
        pageOf params.cappedLimit searchRankCursor (searchRankAfter sql d params () c) :=
      funext (searchRankPage_eq hkind)
    rw [hpage]
    exact (searchRank_keyset hd).walk RankSearchParams.cappedLimit_pos ()
  case matching =>
    intro r
    rw [mem_searchRankList]
    constructor
    · rintro ⟨type, htype, hr⟩
      obtain ⟨hwords, h, hh, hadmits, rfl⟩ := mem_matchingOf.mp hr
      obtain ⟨hhit, m, hm, hmatch, hrowid, hrank⟩ := mem_rankedHits.mp hh
      exact ⟨hwords, h.hit, hhit, m, hm, hmatch, hrowid, ⟨type, htype, hadmits⟩, by rw [← hrank]⟩
    · rintro ⟨hwords, h, hhit, m, hm, hmatch, hrowid, ⟨type, htype, hadmits⟩, rfl⟩
      exact ⟨type, htype, mem_matchingOf.mpr ⟨hwords, ⟨h, _⟩,
        mem_rankedHits.mpr ⟨hhit, m, hm, hmatch, hrowid, rfl⟩, hadmits, rfl⟩⟩
  case once => exact searchRankList_rowids
  case ordered =>
    refine searchRankList_sorted.imp fun h => ?_
    rw [SearchResult.place, SearchResult.place, Prod.Lex.lt_iff] at h
    exact h

end

section Sample

/-- The ranks that FTS5 gives for the word in the titles of `rankedDb`.  No row has a score. -/
def sunSqlite : RankedSqlite :=
  { indexSqlite with
    ftsMatch := fun r expression => r.title == "Sun" && expression == "\"Sun\""
    bm25 := fun _ _ r =>
      if r.rowid == 4 then ⟨0xbeb45812117ddd89, by decide⟩
      else if r.rowid == 2 then ⟨0xbeb335a86074f18a, by decide⟩
      else ⟨0xbeafb3a4cb28a62d, by decide⟩
    effectiveRank := fun rank _ => rank }

def rankedDb : Db where
  contents
    | .feeds => [datedFeed "f" none, datedFeed "g" none, datedFeed "h" none]
    | .tracks => [trackOf "f" "Nia"]
    | .searchEntities =>
      [⟨1, "feed", "g"⟩, ⟨2, "feed", "f"⟩, ⟨3, "track", canonicalTrackEntityId "f" "t"⟩,
        ⟨4, "feed", "h"⟩]
    | .searchIndex =>
      [⟨1, "", "Moon", ""⟩, ⟨2, "Nia", "Sun", "Sun"⟩, ⟨3, "Nia", "Sun", ""⟩, ⟨4, "", "Sun", ""⟩]
    | _ => []
  valid := by decide +kernel

def sunSearch : RankSearchParams := { oneHitPerPage with q := "Sun" }

/-- Pages of one row, put together from feeds and tracks. -/
theorem searchRank_paged_sample :
    SearchRankPaged sunSqlite rankedDb sunSearch (searchRankList sunSqlite rankedDb sunSearch) :=
  searchRank_paged sunSqlite rankedDb sunSearch (by decide +kernel)
    (fun _ hkind => by cases hkind)

example : (searchRankList sunSqlite rankedDb sunSearch).map SearchResult.rowid = [4, 2, 3] := by
  decide +kernel

end Sample

end Stophammer
