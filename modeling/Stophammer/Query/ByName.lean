import Stophammer.Query.Cursor
import Stophammer.Query.Recent

/-!
# The lists by name

The feeds of `GET /v1/feeds/by-name` and the rows of `GET /v1/artist-names`, in pages.  A client
that follows the cursors gets the whole list when the row at the end of each page has a sort key
that a cursor can hold.
-/

namespace Stophammer

open Relational Paging

/-- The parameters of the two lists.  `onlyGuids` is the set of an `artist_key` or a
`named_feed_guid`. -/
structure ByNameParams where
  medium : Option String
  limit : Option Int
  fromText : Option String
  onlyGuids : Option (List String)
  includeLinkFacts : Bool

def FeedRow.sortName (r : FeedRow) : String := r.titleSort.getD ""

/-- A feed with no sort key comes first. -/
def compareByName (a b : FeedRow) : Ordering :=
  compareLex (compareOn FeedRow.titleSort) (compareOn fun r => r.feed.feedGuid) a b

/-- `(title_sort, feed_guid) > (sort, guid)`: a NULL is after nothing. -/
def isAfterName (sort guid : String) (r : FeedRow) : Bool :=
  r.titleSort.any fun stored =>
    decide (sort < stored) || (stored == sort && decide (guid < r.feed.feedGuid))

def isFromFloor (fromFloor : Option String) (r : FeedRow) : Bool :=
  fromFloor.all fun floor => r.titleSort.any fun stored => decide (floor ≤ stored)

def isListed (medium : String) (onlyGuids : Option (List String)) (r : FeedRow) : Bool :=
  isOfMedium medium r.feed && onlyGuids.all fun guids => guids.contains r.feed.feedGuid

def byNameFeedRows (d : Db) (medium : String) (after : Option (String × String))
    (fromFloor : Option String) (onlyGuids : Option (List String)) (count : Nat) : List FeedRow :=
  (orderBy compareByName ((d .feeds).filter fun r : FeedRow =>
    isListed medium onlyGuids r && after.all (fun (sort, guid) => isAfterName sort guid r) &&
      isFromFloor fromFloor r)).take count

def parseByNameCursor (cursor : String) : Except ApiError (String × String) :=
  match decodeCursor cursor with
  | .error err => .error err
  | .ok decoded =>
    match splitKeys 2 decoded with
    | [sort, guid] => .ok (sort, guid)
    | _ => .error (badRequest "invalid cursor format")

def byNameCursor (r : FeedRow) : String :=
  encodeCursor (cursorText r.sortName r.feed.feedGuid)

section

variable [Platform]

/-- The page of the rows after a position. -/
def byNameAnswer (d : Db) (params : ByNameParams) (cursorAfter : Option (String × String))
    (fromFloor : Option String) : Page FeedRow String :=
  let limit := cappedLimit params.limit
  let medium := toLowercase (params.medium.getD "music")
  let rows := byNameFeedRows d medium cursorAfter fromFloor params.onlyGuids (limit + 1)
  { items := rows.take limit
    next := if limit < rows.length then (rows.take limit).getLast?.map byNameCursor else none }

/-- `from` applies only to a request with no cursor. -/
def handleGetFeedsByName (d : Db) (params : ByNameParams) :
    Option String → Except ApiError (Page FeedRow String)
  | none => .ok (byNameAnswer d params none (params.fromText.map sortKey))
  | some cursor =>
    match parseByNameCursor cursor with
    | .error err => .error err
    | .ok cursorAfter => .ok (byNameAnswer d params (some cursorAfter) none)

/-- An error ends the requests of a client. -/
def byNamePage (d : Db) (params : ByNameParams) (cursor : Option String) : Page FeedRow String :=
  (handleGetFeedsByName d params cursor).toOption.getD { items := [], next := none }

end

/-- The place of a row: its sort name, its kind and its key. -/
def ArtistNameRow.position (row : ArtistNameRow) : String × String × String :=
  (row.sortName, row.kind.text, row.key)

def comparePositions : String × String × String → String × String × String → Ordering :=
  compareLex (compareOn Prod.fst) (compareLex (compareOn fun p => p.2.1) (compareOn fun p => p.2.2))

def ArtistNameRow.withoutLinkFacts (row : ArtistNameRow) : ArtistNameRow :=
  { row with linkFacts := none }

/-- The count of the rows at the start that meet the condition, in rows that are in order. -/
def partitionPoint (p : ArtistNameRow → Bool) (rows : List ArtistNameRow) : Nat :=
  (rows.takeWhile p).length

def parseArtistNamesCursor (cursor : String) : Except ApiError (String × String × String) :=
  match decodeCursor cursor with
  | .error err => .error err
  | .ok decoded =>
    match splitKeys 3 decoded with
    | [sort, kind, key] => .ok (sort, kind, key)
    | _ => .error (badRequest "invalid cursor format")

def artistNamesCursor (row : ArtistNameRow) : String :=
  encodeCursor (cursorText row.sortName (cursorText row.kind.text row.key))

section

variable [Platform]

def artistNamesAnswer (allRows : List ArtistNameRow) (params : ByNameParams) (start : Nat) :
    Page ArtistNameRow String :=
  let limit := cappedLimit params.limit
  let page := ((allRows.drop start).take limit).map fun row =>
    if params.includeLinkFacts then row else row.withoutLinkFacts
  { items := page
    next := if limit < allRows.length - start then page.getLast?.map artistNamesCursor else none }

def handleGetArtistNames (allRows : List ArtistNameRow) (params : ByNameParams) :
    Option String → Except ApiError (Page ArtistNameRow String)
  | some cursor =>
    match parseArtistNamesCursor cursor with
    | .error err => .error err
    | .ok after =>
      .ok (artistNamesAnswer allRows params
        (partitionPoint (fun row => (comparePositions row.position after).isLE) allRows))
  | none =>
    match params.fromText.map sortKey with
    | some floor =>
      .ok (artistNamesAnswer allRows params
        (partitionPoint (fun row => decide (row.sortName < floor)) allRows))
    | none => .ok (artistNamesAnswer allRows params 0)

def artistNamesPage (allRows : List ArtistNameRow) (params : ByNameParams)
    (cursor : Option String) : Page ArtistNameRow String :=
  (handleGetArtistNames allRows params cursor).toOption.getD { items := [], next := none }

end

theorem parseByNameCursor_ok {sort guid : String} (h : nul ∉ sort.toList) :
    parseByNameCursor (encodeCursor (cursorText sort guid)) = .ok (sort, guid) := by
  simp only [parseByNameCursor, decodeCursor_encode, splitKeys_cursorText h 0,
    Nat.zero_add, splitKeys_one]

theorem parseByNameCursor_first {cursor sort guid : String}
    (h : parseByNameCursor cursor = .ok (sort, guid)) : nul ∉ sort.toList := by
  unfold parseByNameCursor at h
  split at h
  · cases h
  · split at h
    · rename_i hkeys
      cases h
      exact splitKeys_first hkeys
    · cases h

theorem kind_noNul (kind : ArtistNameKind) : nul ∉ kind.text.toList := by
  cases kind <;> decide

theorem parseArtistNamesCursor_ok {row : ArtistNameRow} (h : nul ∉ row.sortName.toList) :
    parseArtistNamesCursor (artistNamesCursor row) = .ok row.position := by
  simp only [parseArtistNamesCursor, artistNamesCursor, decodeCursor_encode,
    splitKeys_cursorText h 1, splitKeys_cursorText (kind_noNul row.kind) 0, Nat.zero_add,
    splitKeys_one, ArtistNameRow.position]

theorem parseArtistNamesCursor_first {cursor : String} {position : String × String × String}
    (h : parseArtistNamesCursor cursor = .ok position) : nul ∉ position.1.toList := by
  unfold parseArtistNamesCursor at h
  split at h
  · cases h
  · split at h
    · rename_i hkeys
      cases h
      exact splitKeys_first hkeys
    · cases h

section Feeds

variable {d : Db}

instance : Std.TransCmp compareByName :=
  inferInstanceAs
    (Std.TransCmp (compareLex (compareOn FeedRow.titleSort) (compareOn fun r => r.feed.feedGuid)))

theorem feedRow_eq_of_guid {r r' : FeedRow} (hr : r ∈ d .feeds) (hr' : r' ∈ d .feeds)
    (h : r.feed.feedGuid = r'.feed.feedGuid) : r = r' := by
  have hkey : Key.feed r.feed.feedGuid ∈ schema.keys .feeds r := List.mem_cons_self
  have hkey' : Key.feed r.feed.feedGuid ∈ schema.keys .feeds r' := by
    rw [h]
    exact List.mem_cons_self
  exact d.eq_of_shared_key hr hr' hkey hkey'

theorem eq_of_compareByName {r r' : FeedRow} (hr : r ∈ d .feeds) (hr' : r' ∈ d .feeds)
    (h : compareByName r r' = .eq) : r = r' := by
  obtain ⟨-, hguid⟩ := compareLex_eq_eq.mp h
  exact feedRow_eq_of_guid hr hr' (compare_eq_iff_eq.mp hguid)

theorem compareByName_lt {r f : FeedRow} : compareByName r f = .lt ↔
    compare r.titleSort f.titleSort = .lt ∨
      r.titleSort = f.titleSort ∧ r.feed.feedGuid < f.feed.feedGuid := by
  have hthen : compareByName r f =
      (compare r.titleSort f.titleSort).then (compare r.feed.feedGuid f.feed.feedGuid) := rfl
  rw [hthen, Ordering.then_eq_lt, compare_lt_iff_lt (a := r.feed.feedGuid), Std.compare_eq_iff_eq]

theorem isAfterName_eq {sort guid : String} {f : FeedRow} : isAfterName sort guid f = true ↔
    ∃ stored, f.titleSort = some stored ∧
      (sort < stored ∨ stored = sort ∧ guid < f.feed.feedGuid) := by
  simp only [isAfterName, Option.any_eq_true, Bool.or_eq_true, decide_eq_true_eq,
    Bool.and_eq_true, beq_iff_eq]

theorem isAfterName_iff {r f : FeedRow} {sort : String} (h : r.titleSort = some sort) :
    isAfterName sort r.feed.feedGuid f = true ↔ compareByName r f = .lt := by
  rw [isAfterName_eq, compareByName_lt, h]
  cases hf : f.titleSort with
  | none => simp
  | some stored =>
    have hcompare : compare (some sort) (some stored) = .lt ↔ sort < stored :=
      compare_lt_iff_lt (a := sort) (b := stored)
    rw [hcompare]
    simp only [Option.some.injEq, exists_eq_left', eq_comm]

theorem isAfterName_trans {sort guid : String} {r f : FeedRow} (hr : isAfterName sort guid r = true)
    (h : compareByName r f = .lt) : isAfterName sort guid f = true := by
  obtain ⟨stored, hstored, hafter⟩ := isAfterName_eq.mp hr
  rw [← isAfterName_iff hstored] at h
  obtain ⟨stored', hstored', hafter'⟩ := isAfterName_eq.mp h
  refine isAfterName_eq.mpr ⟨stored', hstored', ?_⟩
  rcases hafter with hless | ⟨rfl, hguid⟩
  · rcases hafter' with hless' | ⟨rfl, -⟩
    · exact .inl (lt_trans hless hless')
    · exact .inl hless
  · rcases hafter' with hless' | ⟨rfl, hguid'⟩
    · exact .inl hless'
    · exact .inr ⟨rfl, lt_trans hguid hguid'⟩

theorem isFromFloor_trans {fromFloor : Option String} {r f : FeedRow}
    (hr : isFromFloor fromFloor r = true) (h : compareByName r f = .lt) :
    isFromFloor fromFloor f = true := by
  cases fromFloor with
  | none => rfl
  | some floor =>
    simp only [isFromFloor, Option.all_some, Option.any_eq_true, decide_eq_true_eq] at hr ⊢
    obtain ⟨stored, hstored, hfloor⟩ := hr
    rw [← isAfterName_iff hstored] at h
    obtain ⟨stored', hstored', hless | ⟨rfl, -⟩⟩ := isAfterName_eq.mp h
    · exact ⟨stored', hstored', le_trans hfloor (le_of_lt hless)⟩
    · exact ⟨stored', hstored', hfloor⟩

end Feeds

section ByNamePages

variable [Platform] {d : Db} {params : ByNameParams}

/-- The feeds of the request, in order. -/
def byNameAll (d : Db) (params : ByNameParams) : List FeedRow :=
  orderBy compareByName ((d .feeds).filter fun r : FeedRow =>
    isListed (toLowercase (params.medium.getD "music")) params.onlyGuids r)

/-- The full list of the request. -/
def byNameList (d : Db) (params : ByNameParams) : List FeedRow :=
  (byNameAll d params).filter (isFromFloor (params.fromText.map sortKey))

/-- The rows that a cursor stands for. -/
def byNameRest (d : Db) (params : ByNameParams) : Option String → List FeedRow
  | none => byNameList d params
  | some text =>
    match parseByNameCursor text with
    | .error _ => []
    | .ok (sort, guid) => (byNameAll d params).filter (isAfterName sort guid)

theorem byNameAll_sorted : (byNameAll d params).Pairwise fun a b => compareByName a b = .lt := by
  apply orderBy_strict
  · exact (List.Nodup.of_map _ feeds_nodup).filter _
  · intro r hr r' hr'
    exact eq_of_compareByName (List.mem_of_mem_filter hr) (List.mem_of_mem_filter hr')

theorem byNameFeedRows_eq (after : Option (String × String)) (fromFloor : Option String)
    (count : Nat) :
    byNameFeedRows d (toLowercase (params.medium.getD "music")) after fromFloor params.onlyGuids
        count =
      ((byNameAll d params).filter fun r =>
        after.all (fun (sort, guid) => isAfterName sort guid r) && isFromFloor fromFloor r).take
          count := by
  unfold byNameFeedRows byNameAll
  rw [← orderBy_filter, List.filter_filter]
  congr 2
  apply List.filter_congr
  intro r _
  rw [Bool.and_assoc, Bool.and_comm]

theorem byNamePage_eq (cursor : Option String) :
    byNamePage d params cursor =
      pageOf (cappedLimit params.limit) byNameCursor (byNameRest d params cursor) := by
  rw [← pageOf_take]
  cases cursor with
  | none =>
    have hrows := @byNameFeedRows_eq _ d params none (params.fromText.map sortKey)
      (cappedLimit params.limit + 1)
    simp only [Option.all_none, Bool.true_and] at hrows
    rw [byNameRest, byNameList, ← hrows]
    rfl
  | some text =>
    simp only [byNamePage, handleGetFeedsByName, byNameRest]
    cases parseByNameCursor text with
    | error err => simp [pageOf, Except.toOption]
    | ok position =>
      have hrows := @byNameFeedRows_eq _ d params (some position) none
        (cappedLimit params.limit + 1)
      simp only [Option.all_some, isFromFloor, Option.all_none, Bool.and_true] at hrows
      change _ = pageOf _ _ (((byNameAll d params).filter fun r =>
        isAfterName position.1 position.2 r).take (cappedLimit params.limit + 1))
      rw [← hrows]
      rfl

/-- The key of the row can stand for the rows behind it: it holds no NUL, and a row with no stored
key is followed by one that comes after the empty key. -/
structure KeyStands (r : FeedRow) (back : List FeedRow) : Prop where
  noNul : nul ∉ r.sortName.toList
  stored : r.titleSort = none → ∃ next ∈ back.head?, isAfterName "" r.feed.feedGuid next = true

/-- The requests from the first page on give the list, and each cursor reads back as the keys of
its row. -/
structure ByNamePaged (d : Db) (params : ByNameParams) : Prop where
  walk : Walk (byNamePage d params) none (byNameList d params)
  decodes : ∀ r back, Border (cappedLimit params.limit) (byNameList d params) r back →
    parseByNameCursor (byNameCursor r) = .ok (r.sortName, r.feed.feedGuid)

theorem byNameRest_behind {front back : List FeedRow} {r : FeedRow}
    (hlist : byNameList d params = front ++ r :: back) (hkey : KeyStands r back) :
    byNameRest d params (some (byNameCursor r)) = back := by
  have htrans : IsTrans FeedRow fun a b => compareByName a b = .lt :=
    ⟨fun _ _ _ hab hbc => Std.TransCmp.lt_trans hab hbc⟩
  have hirrefl : ∀ a, ¬ compareByName a a = .lt := by
    intro a
    rw [@Std.ReflCmp.compare_self _ compareByName]
    decide
  rw [byNameRest, byNameCursor, parseByNameCursor_ok hkey.noNul]
  change (byNameAll d params).filter (isAfterName r.sortName r.feed.feedGuid) = back
  cases hsort : r.titleSort with
  | some sort =>
    have hbehind := filter_after hirrefl byNameAll_sorted
      (fun _ _ hab ha => isFromFloor_trans ha hab) hlist
    rw [← hbehind, FeedRow.sortName, hsort, Option.getD_some]
    apply List.filter_congr
    intro f _
    rw [Bool.eq_iff_iff, isAfterName_iff hsort, decide_eq_true_eq]
  | none =>
    -- the rows up to here have no stored key, and those behind come after the empty key
    obtain ⟨next, hnext, hafter⟩ := hkey.stored hsort
    obtain ⟨tail, rfl⟩ := List.head?_eq_some_iff.mp hnext
    have hfloor : isFromFloor (params.fromText.map sortKey) r = true := by
      have hmem : r ∈ byNameList d params := by simp [hlist]
      exact (List.mem_filter.mp hmem).2
    have hall : byNameAll d params = front ++ r :: next :: tail := by
      rw [← hlist, byNameList]
      refine (List.filter_eq_self.mpr fun f _ => ?_).symm
      cases hfrom : params.fromText.map sortKey with
      | none => rfl
      | some floor =>
        rw [hfrom, isFromFloor, Option.all_some, hsort, Option.any_none] at hfloor
        cases hfloor
    have hsorted := @byNameAll_sorted _ d params
    rw [hall] at hsorted
    obtain ⟨-, hback, hfront⟩ := List.pairwise_append.mp hsorted
    obtain ⟨-, hback⟩ := List.pairwise_cons.mp hback
    have hnone : ∀ f ∈ front ++ [r], isAfterName r.sortName r.feed.feedGuid f = false := by
      intro f hf
      have hfsort : f.titleSort = none := by
        rcases List.mem_append.mp hf with hf | hf
        · rcases compareByName_lt.mp (hfront f hf r List.mem_cons_self) with hless | ⟨hsame, -⟩
          · rw [hsort] at hless
            cases hstored : f.titleSort with
            | none => rfl
            | some stored =>
              rw [hstored] at hless
              cases hless
          · rw [hsame, hsort]
        · rw [List.mem_singleton.mp hf, hsort]
      rw [isAfterName, hfsort, Option.any_none]
    rw [hall, ← List.singleton_append (l := next :: tail), ← List.append_assoc,
      List.filter_append, List.filter_eq_nil_iff.mpr fun f hf => by simp [hnone f hf],
      List.nil_append, List.filter_eq_self]
    have hempty : r.sortName = "" := by rw [FeedRow.sortName, hsort, Option.getD_none]
    rw [hempty]
    intro f hf
    rcases List.mem_cons.mp hf with rfl | hf
    · exact hafter
    · exact isAfterName_trans hafter ((List.pairwise_cons.mp hback).1 f hf)

theorem byNamePaged_iff : ByNamePaged d params ↔
    ∀ r back, Border (cappedLimit params.limit) (byNameList d params) r back → KeyStands r back := by
  have hpage : byNamePage d params =
      fun c => pageOf (cappedLimit params.limit) byNameCursor (byNameRest d params c) :=
    funext byNamePage_eq
  constructor
  · intro h r back hborder
    have hdecodes := h.decodes r back hborder
    refine ⟨parseByNameCursor_first hdecodes, fun hnone => ?_⟩
    -- the walk from the cursor starts with the next row
    have hwalk := h.walk
    rw [hpage] at hwalk
    have hhead := (hwalk.at_border hborder).head_eq (cappedLimit_pos _)
    obtain ⟨next, tail, rfl⟩ := List.exists_cons_of_ne_nil hborder.left
    refine ⟨next, rfl, ?_⟩
    have hmem : next ∈ byNameRest d params (some (byNameCursor r)) := by
      apply List.mem_of_head?
      rw [← hhead]
      rfl
    rw [byNameRest, hdecodes] at hmem
    have hafter := (List.mem_filter.mp hmem).2
    rwa [FeedRow.sortName, hnone, Option.getD_none] at hafter
  · intro h
    refine ⟨?_, fun r back hborder => parseByNameCursor_ok (h r back hborder).noNul⟩
    rw [hpage]
    apply walk_pages (cappedLimit_pos _)
    · intro r back hborder
      obtain ⟨front, hlist, -⟩ := hborder.split
      exact byNameRest_behind hlist (h r back hborder)
    · rfl

end ByNamePages

instance : Std.TransCmp comparePositions :=
  inferInstanceAs (Std.TransCmp (compareLex (compareOn Prod.fst)
    (compareLex (compareOn fun p : String × String × String => p.2.1)
      (compareOn fun p : String × String × String => p.2.2))))

theorem comparePositions_eq {p q : String × String × String} (h : comparePositions p q = .eq) :
    p = q := by
  obtain ⟨hsort, hrest⟩ := compareLex_eq_eq.mp h
  obtain ⟨hkind, hkey⟩ := compareLex_eq_eq.mp hrest
  exact Prod.ext (compare_eq_iff_eq.mp hsort)
    (Prod.ext (compare_eq_iff_eq.mp hkind) (compare_eq_iff_eq.mp hkey))

instance : Std.TransCmp fun a b : ArtistNameRow => comparePositions a.position b.position where
  eq_swap := @fun _ _ => @Std.OrientedCmp.eq_swap _ comparePositions _ _ _
  isLE_trans hab hbc := @Std.TransCmp.isLE_trans _ comparePositions _ _ _ _ hab hbc

theorem listedFeeds_nodup {d : Db} : ((listInputs d).feeds.map ListedFeed.feedGuid).Nodup := by
  have hguids : ((d .feeds).flatMap (schema.keys .feeds)).Nodup := d.valid.unique .feeds
  have hpairs := (List.nodup_flatMap.mp hguids).2
  rw [listInputs, List.map_map]
  refine List.pairwise_map.mpr (hpairs.imp fun {r r'} hdisjoint hsame => ?_)
  have hkey : Key.feed r.feed.feedGuid ∈ schema.keys .feeds r := List.mem_cons_self
  have hkey' : Key.feed r.feed.feedGuid ∈ schema.keys .feeds r' := by
    rw [show r.feed.feedGuid = r'.feed.feedGuid from hsame]
    exact List.mem_cons_self
  exact hdisjoint hkey hkey'

theorem kind_of_text {k k' : ArtistNameKind} (h : k.text = k'.text) : k = k' := by
  cases k <;> cases k' <;> first | rfl | exact absurd h (by decide)

section ArtistNamePages

variable [Platform] {t : ListInputs} {params : ByNameParams}

/-- A row as the request shows it. -/
def shownRow (params : ByNameParams) (row : ArtistNameRow) : ArtistNameRow :=
  if params.includeLinkFacts then row else row.withoutLinkFacts

/-- The full list of the request. -/
def artistNamesList (t : ListInputs) (params : ByNameParams) : List ArtistNameRow :=
  ((buildArtistNameList t).rows.dropWhile fun row =>
    (params.fromText.map sortKey).any fun floor => decide (row.sortName < floor)).map
      (shownRow params)

/-- The requests from the first page on give the list, and each cursor reads back as the place
of its row. -/
structure ArtistNamesPaged (t : ListInputs) (params : ByNameParams) : Prop where
  walk : Walk (artistNamesPage (buildArtistNameList t).rows params) none (artistNamesList t params)
  decodes : ∀ row back, Border (cappedLimit params.limit) (artistNamesList t params) row back →
    parseArtistNamesCursor (artistNamesCursor row) = .ok row.position

/-- The rows of the list before they are put in order. -/
def unsortedRows (t : ListInputs) : List ArtistNameRow :=
  let groups := (textSet ((nameLevelReleases t).map fun r => sortKey r.2)).map fun key =>
    (key, (nameLevelReleases t).filter fun r => sortKey r.2 == key)
  (t.feeds.filter fun f => isPublisher f.rawMedium).map (publisherRow t) ++
    groups.map fun (key, releases) => nameRow key releases

theorem rows_eq (t : ListInputs) : (buildArtistNameList t).rows =
    orderBy (fun a b => comparePositions a.position b.position) (unsortedRows t) := rfl

variable {d : Db}

theorem unsortedRows_nodup :
    ((unsortedRows (listInputs d)).map fun row => (row.kind, row.key)).Nodup := by
  simp only [unsortedRows, List.map_append, List.map_map]
  refine List.Nodup.append ?_ ?_ ?_
  · have hguids := (listedFeeds_nodup (d := d)).sublist
      ((List.filter_sublist (p := fun f => isPublisher f.rawMedium)).map ListedFeed.feedGuid)
    have hpairs := hguids.map (f := fun guid => (ArtistNameKind.publisher, guid))
      fun _ _ h => congrArg Prod.snd h
    rwa [List.map_map] at hpairs
  · exact (textSet_nodup _).map fun _ _ h => congrArg Prod.snd h
  · intro p hp hp'
    obtain ⟨f, -, rfl⟩ := List.mem_map.mp hp
    obtain ⟨key, -, hkey⟩ := List.mem_map.mp hp'
    exact absurd (congrArg Prod.fst hkey) (by simp [publisherRow, nameRow])

theorem rows_sorted : (buildArtistNameList (listInputs d)).rows.Pairwise fun a b =>
    comparePositions a.position b.position = .lt := by
  rw [rows_eq]
  apply orderBy_strict
  · exact unsortedRows_nodup.of_map _
  · intro a ha b hb hcmp
    have hsame : a.position = b.position := comparePositions_eq hcmp
    refine List.inj_on_of_nodup_map unsortedRows_nodup ha hb (Prod.ext ?_ ?_)
    · exact kind_of_text (congrArg (fun p => p.2.1) hsame)
    · exact congrArg (fun p => p.2.2) hsame

/-- The rows that a cursor stands for. -/
def artistNamesRest (t : ListInputs) (params : ByNameParams) : Option String → List ArtistNameRow
  | none => artistNamesList t params
  | some cursor =>
    match parseArtistNamesCursor cursor with
    | .error _ => []
    | .ok after =>
      ((buildArtistNameList t).rows.dropWhile fun row =>
        (comparePositions row.position after).isLE).map (shownRow params)

omit [Platform] in
theorem drop_partitionPoint (p : ArtistNameRow → Bool) (rows : List ArtistNameRow) :
    rows.drop (partitionPoint p rows) = rows.dropWhile p := by
  induction rows with
  | nil => rfl
  | cons row rows ih =>
    cases hp : p row with
    | true =>
      rw [partitionPoint, List.takeWhile_cons_of_pos hp, List.dropWhile_cons_of_pos hp]
      exact ih
    | false =>
      have hneg : ¬ p row = true := by simp [hp]
      rw [partitionPoint, List.takeWhile_cons_of_neg hneg, List.dropWhile_cons_of_neg hneg]
      rfl

omit [Platform] in
theorem artistNamesAnswer_eq (allRows : List ArtistNameRow) (start : Nat) :
    artistNamesAnswer allRows params start = pageOf (cappedLimit params.limit) artistNamesCursor
      ((allRows.drop start).map (shownRow params)) := by
  unfold artistNamesAnswer pageOf
  rw [List.length_map, List.length_drop, ← List.map_take]
  rfl

theorem artistNamesPage_eq (t : ListInputs) (cursor : Option String) :
    artistNamesPage (buildArtistNameList t).rows params cursor =
      pageOf (cappedLimit params.limit) artistNamesCursor (artistNamesRest t params cursor) := by
  cases cursor with
  | none =>
    simp only [artistNamesPage, handleGetArtistNames, artistNamesRest, artistNamesList]
    cases params.fromText.map sortKey with
    | none =>
      change artistNamesAnswer _ _ _ = _
      rw [artistNamesAnswer_eq, List.drop_zero, List.dropWhile_eq_self_iff.mpr]
      exact fun _ => by simp
    | some floor =>
      rw [← drop_partitionPoint]
      exact artistNamesAnswer_eq _ _
  | some text =>
    simp only [artistNamesPage, handleGetArtistNames, artistNamesRest]
    cases parseArtistNamesCursor text with
    | error err => simp [pageOf, Except.toOption]
    | ok after =>
      change artistNamesAnswer _ _ _ = _
      rw [artistNamesAnswer_eq, drop_partitionPoint]

theorem artistNamesRest_behind {front back : List ArtistNameRow} {row : ArtistNameRow}
    (hlist : artistNamesList (listInputs d) params = front ++ row :: back)
    (hkey : nul ∉ row.sortName.toList) :
    artistNamesRest (listInputs d) params (some (artistNamesCursor row)) = back := by
  obtain ⟨front, rest, hdrop, -, hrest⟩ := List.map_eq_append_iff.mp hlist
  obtain ⟨row, back, rfl, rfl, rfl⟩ := List.map_eq_cons_iff.mp hrest
  have hposition : (shownRow params row).position = row.position := by
    unfold shownRow
    split <;> rfl
  rw [artistNamesRest, parseArtistNamesCursor_ok hkey, hposition]
  have hsplit := List.takeWhile_append_dropWhile (l := (buildArtistNameList (listInputs d)).rows)
    (p := fun row => (params.fromText.map sortKey).any fun floor => decide (row.sortName < floor))
  rw [hdrop, ← List.append_assoc] at hsplit
  have hsorted := rows_sorted (d := d)
  rw [← hsplit] at hsorted
  obtain ⟨-, hback, hfront⟩ := List.pairwise_append.mp hsorted
  rw [← hsplit]
  change List.map _ (List.dropWhile _ _) = _
  rw [List.dropWhile_append_of_pos]
  · rw [List.dropWhile_cons_of_pos (by simp [@Std.ReflCmp.compare_self _ comparePositions])]
    rw [List.dropWhile_eq_self_iff.mpr]
    intro hlength
    have hnext := (List.pairwise_cons.mp hback).1 _ (List.getElem_mem hlength)
    rw [@Std.OrientedCmp.eq_swap _ comparePositions, hnext]
    decide
  · intro a ha
    rw [hfront a ha row List.mem_cons_self]
    rfl

theorem artistNamesPaged_iff (d : Db) (params : ByNameParams) :
    ArtistNamesPaged (listInputs d) params ↔ ∀ row back,
      Border (cappedLimit params.limit) (artistNamesList (listInputs d) params) row back →
        nul ∉ row.sortName.toList := by
  constructor
  · exact fun h row back hborder => parseArtistNamesCursor_first (h.decodes row back hborder)
  · intro h
    refine ⟨?_, fun row back hborder => parseArtistNamesCursor_ok (h row back hborder)⟩
    rw [show artistNamesPage (buildArtistNameList (listInputs d)).rows params = fun c =>
      pageOf (cappedLimit params.limit) artistNamesCursor (artistNamesRest (listInputs d) params c)
      from funext (artistNamesPage_eq (listInputs d))]
    apply walk_pages (cappedLimit_pos _)
    · intro row back hborder
      obtain ⟨front, hlist, -⟩ := hborder.split
      exact artistNamesRest_behind hlist (h row back hborder)
    · rfl

end ArtistNamePages

section Lists

variable [Platform]

/-- Both lists are given whole, by requests that follow the cursors.  The row at the end of each
page that is not the last one has a sort key without NUL, and a feed there that has no stored key
is followed by one that comes after the empty key. -/
theorem namesPaged_iff (d : Db) (params : ByNameParams) :
    ByNamePaged d params ∧ ArtistNamesPaged (listInputs d) params ↔
      (∀ r back, Border (cappedLimit params.limit) (byNameList d params) r back →
        KeyStands r back) ∧
      ∀ row back, Border (cappedLimit params.limit) (artistNamesList (listInputs d) params) row back →
        nul ∉ row.sortName.toList :=
  and_congr byNamePaged_iff (artistNamesPaged_iff d params)

end Lists

section Sample

attribute [local instance] samplePlatform

def nulTitle (feedGuid feedUrl : String) : FeedRow :=
  { viewFeed feedGuid feedUrl "music" none with titleSort := some "a\x00b" }

def nulTitleDb : Db where
  contents :=
    viewContents [nulTitle "f" "https://f.example", nulTitle "g" "https://g.example"] []
  valid := by decide +kernel

def onePerPage : ByNameParams where
  medium := none
  limit := some 1
  fromText := none
  onlyGuids := none
  includeLinkFacts := false

/-- The cursor behind the first album leads to the first page again. -/
theorem nulTitleDb_stuck :
    ¬ (ByNamePaged nulTitleDb onePerPage ∧
        ArtistNamesPaged (listInputs nulTitleDb) onePerPage) ∧
      (byNamePage nulTitleDb onePerPage none).next =
        some (byNameCursor (nulTitle "f" "https://f.example")) ∧
      byNamePage nulTitleDb onePerPage (some (byNameCursor (nulTitle "f" "https://f.example"))) =
        byNamePage nulTitleDb onePerPage none := by
  have hlist : byNameList nulTitleDb onePerPage =
      [nulTitle "f" "https://f.example", nulTitle "g" "https://g.example"] := by
    decide +kernel
  have hall : byNameAll nulTitleDb onePerPage = byNameList nulTitleDb onePerPage :=
    (List.filter_eq_self.mpr fun _ _ => rfl).symm
  have hparse : parseByNameCursor (byNameCursor (nulTitle "f" "https://f.example")) =
      .ok ("a", "b\x00f") :=
    @parseByNameCursor_ok "a" "b\x00f" (by decide)
  refine ⟨fun h => ?_, ?_, ?_⟩
  · have hborder : Border (cappedLimit onePerPage.limit) (byNameList nulTitleDb onePerPage)
        (nulTitle "f" "https://f.example") [nulTitle "g" "https://g.example"] := by
      rw [hlist]
      exact ⟨⟨[], rfl, one_dvd _⟩, by simp⟩
    have hdecodes := h.1.decodes _ _ hborder
    exact parseByNameCursor_first hdecodes (by decide)
  · rw [byNamePage_eq, byNameRest, hlist]
    rfl
  · have hrest : byNameRest nulTitleDb onePerPage
        (some (byNameCursor (nulTitle "f" "https://f.example"))) =
          byNameRest nulTitleDb onePerPage none := by
      simp only [byNameRest, hparse]
      rw [hall, hlist]
      decide +kernel
    rw [byNamePage_eq, byNamePage_eq, hrest]

end Sample

end Stophammer
