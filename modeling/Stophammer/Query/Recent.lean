import Stophammer.Paging
import Stophammer.Query.LinkFactFilter
import Stophammer.Query.NamedFeeds

/-!
# The filtered list of recent feeds

The list of `GET /v1/feeds/recent` in the order of its keys, and the scan that keeps the rows
whose link facts a filter keeps.  The scan reads in batches and stops at a full page, at the
limit of examined rows or at the end of the list.
-/

namespace Stophammer

open Relational

/-- The time of the newest item, or `-1`, and the feed GUID. -/
abbrev RecentCursor : Type := Int × String

def recentKey (f : Feed) : RecentCursor := (f.newestItemAt.getD (-1), f.feedGuid)

/-- The order of two row values. -/
def compareKeys (a b : RecentCursor) : Ordering :=
  compareLex (compareOn Prod.fst) (compareOn Prod.snd) a b

/-- Newest first. -/
def compareRecent (a b : Feed) : Ordering := compareKeys (recentKey b) (recentKey a)

def isOfMedium (medium : String) (f : Feed) : Bool :=
  medium == "all" || f.rawMedium.map toAsciiLowercase == some medium

def recentFeedRows (d : Db) (medium : String) (after : Option RecentCursor)
    (onlyGuids : Option (List String)) (count : Nat) : List Feed :=
  (orderBy compareRecent (((d .feeds).map FeedRow.feed).filter fun f =>
    isOfMedium medium f && after.all (fun c => compareKeys (recentKey f) c == .lt) &&
      onlyGuids.all fun guids => guids.contains f.feedGuid)).take count

def linkFactFilterScanMax : Nat := 1000

/-- The rows that one batch reads. -/
def linkFactFilterBatch : Nat := 200

structure FilterScan where
  kept : List Feed
  examined : Nat
  after : Option RecentCursor

structure FilteredRows where
  kept : List Feed
  hasMore : Bool
  next : Option RecentCursor
  /-- The count of rows that the scan read the facts of. -/
  examined : Nat

/-- The scan after one more row. -/
def FilterScan.examine (keeps : Feed → Bool) (s : FilterScan) (row : Feed) : FilterScan where
  kept := if keeps row then s.kept ++ [row] else s.kept
  examined := s.examined + 1
  after := some (recentKey row)

/-- A full page goes on after its last row. -/
def FilterScan.fullPage (limit : Nat) (s : FilterScan) : FilteredRows where
  kept := s.kept.take limit
  hasMore := true
  next := (s.kept.take limit).getLast?.map recentKey
  examined := s.examined

/-- At the limit of examined rows, the next request goes on after the last of them. -/
def FilterScan.atLimit (s : FilterScan) : FilteredRows where
  kept := s.kept
  hasMore := true
  next := s.after
  examined := s.examined

def FilterScan.atEnd (s : FilterScan) : FilteredRows where
  kept := s.kept
  hasMore := false
  next := none
  examined := s.examined

/-- The rows of one batch.  An error is an answer before the end of the batch. -/
def scanBatch (limit : Nat) (keeps : Feed → Bool) : FilterScan → List Feed →
    Except FilteredRows FilterScan
  | s, [] => .ok s
  | s, row :: rows =>
    if keeps row && limit < (s.examine keeps row).kept.length then
      .error ((s.examine keeps row).fullPage limit)
    else if linkFactFilterScanMax ≤ (s.examine keeps row).examined then
      .error (s.examine keeps row).atLimit
    else scanBatch limit keeps (s.examine keeps row) rows

theorem scanBatch_examined {limit : Nat} {keeps : Feed → Bool} {s s' : FilterScan}
    {rows : List Feed} (h : scanBatch limit keeps s rows = .ok s') :
    s'.examined = s.examined + rows.length ∧
      (rows ≠ [] → s'.examined < linkFactFilterScanMax) := by
  induction rows generalizing s with
  | nil =>
    cases h
    exact ⟨rfl, fun hne => absurd rfl hne⟩
  | cons row rows ih =>
    unfold scanBatch at h
    split at h
    · cases h
    split at h
    · cases h
    rename_i hless
    obtain ⟨hexamined, hmax⟩ := ih h
    have hone : (s.examine keeps row).examined = s.examined + 1 := rfl
    refine ⟨?_, fun _ => ?_⟩
    · rw [hexamined, List.length_cons]
      omega
    · cases rows with
      | nil =>
        rw [hexamined]
        exact Nat.lt_of_not_le hless
      | cons next rows => exact hmax (by simp)

theorem scanBatch_less {limit : Nat} {keeps : Feed → Bool} {s s' : FilterScan} {rows : List Feed}
    (h : scanBatch limit keeps s rows = .ok s') (hfull : ¬ rows.length < linkFactFilterBatch) :
    linkFactFilterScanMax - s'.examined < linkFactFilterScanMax - s.examined := by
  obtain ⟨hexamined, hmax⟩ := scanBatch_examined h
  have hlength : 0 < rows.length := by
    unfold linkFactFilterBatch at hfull
    omega
  have hless := hmax (List.length_pos_iff.mp hlength)
  omega

/-- Batches are read until the scan stops. -/
def scanLoop (read : Option RecentCursor → List Feed) (limit : Nat) (keeps : Feed → Bool)
    (s : FilterScan) : FilteredRows :=
  match h : scanBatch limit keeps s (read s.after) with
  | .error result => result
  | .ok s' =>
    if hfull : (read s.after).length < linkFactFilterBatch then s'.atEnd
    else
      have := scanBatch_less h hfull
      scanLoop read limit keeps s'
termination_by linkFactFilterScanMax - s.examined

section

variable [Platform]

def LinkFactFilter.keepsFeed (filter : LinkFactFilter) (d : Db) (row : Feed) : Bool :=
  filter.keeps (linkFacts (loadPublisher (listInputs d) row.feedGuid))

/-- The rows after `after` whose link facts the filter keeps, at most `limit` of them. -/
def filteredRecentRows (d : Db) (medium : String) (after : Option RecentCursor) (limit : Nat)
    (filter : LinkFactFilter) : FilteredRows :=
  scanLoop (fun after => recentFeedRows d medium after none linkFactFilterBatch) limit
    (filter.keepsFeed d)
    { kept := [], examined := 0, after := after }

end

/-- The scan has read the rows `done`, which follow `start`. -/
structure Scanned (limit : Nat) (keeps : Feed → Bool) (start : Option RecentCursor)
    (done : List Feed) (s : FilterScan) : Prop where
  kept : s.kept = done.filter keeps
  room : s.kept.length ≤ limit
  examined : s.examined = done.length
  more : s.examined < linkFactFilterScanMax
  atStart : done = [] → s.after = start
  after : ∀ front row, done = front ++ [row] → s.after = some (recentKey row)

/-- The answer holds the kept rows of a front of `all`, and goes on behind it. -/
structure Serves (keeps : Feed → Bool) (all : List Feed) (result : FilteredRows) : Prop where
  examined : result.examined ≤ linkFactFilterScanMax
  last : result.hasMore = false → result.next = none ∧ result.kept = all.filter keeps
  more : result.hasMore = true → ∃ front row back, all = front ++ row :: back ∧
    result.next = some (recentKey row) ∧ result.kept = (front ++ [row]).filter keeps

section Scan

variable {limit : Nat} {keeps : Feed → Bool} {start : Option RecentCursor} {done : List Feed}
  {s : FilterScan} {row : Feed}

theorem examine_kept (h : Scanned limit keeps start done s) (row : Feed) :
    (s.examine keeps row).kept = (done ++ [row]).filter keeps := by
  rw [List.filter_append, ← h.kept]
  by_cases hkeeps : keeps row = true <;> simp [FilterScan.examine, hkeeps]

theorem filter_split {rows front : List Feed} {last : Feed}
    (h : rows.filter keeps = front ++ [last]) :
    ∃ before after, rows = before ++ last :: after ∧
      (before ++ [last]).filter keeps = rows.filter keeps := by
  obtain ⟨before, rest, rfl, hbefore, hrest⟩ := List.filter_eq_append_iff.mp h
  obtain ⟨skipped, after, rfl, hskipped, hlast, hafter⟩ := List.filter_eq_cons_iff.mp hrest
  refine ⟨before ++ skipped, after, by simp, ?_⟩
  have hnone : skipped.filter keeps = [] := List.filter_eq_nil_iff.mpr hskipped
  simp [List.filter_append, hnone, hlast, hafter]

theorem fullPage_serves (h : Scanned limit keeps start done s) (hlimit : 1 ≤ limit)
    (hkeeps : keeps row = true) (hfull : limit < (s.examine keeps row).kept.length)
    (back : List Feed) :
    Serves keeps (done ++ row :: back) ((s.examine keeps row).fullPage limit) := by
  have hkept : (s.examine keeps row).kept = s.kept ++ [row] := by
    simp [FilterScan.examine, hkeeps]
  have hroom := h.room
  have hlength : s.kept.length = limit := by
    rw [hkept, List.length_append, List.length_singleton] at hfull
    omega
  have htake : (s.examine keeps row).kept.take limit = s.kept := by
    rw [hkept, ← hlength, List.take_left]
  obtain ⟨front, last, hsplit⟩ : ∃ front last, s.kept = front ++ [last] := by
    have hne : s.kept ≠ [] := by
      intro hnil
      rw [hnil, List.length_nil] at hlength
      omega
    exact ⟨_, _, (List.dropLast_append_getLast hne).symm⟩
  obtain ⟨before, after, hdone, hfilter⟩ := filter_split (h.kept ▸ hsplit)
  constructor
  case examined => exact h.more
  case last => exact fun hmore => absurd hmore (by decide : ¬ true = false)
  case more =>
    refine fun _ => ⟨before, last, after ++ row :: back, by simp [hdone], ?_, ?_⟩
    · rw [FilterScan.fullPage, htake, hsplit, List.getLast?_concat, Option.map_some]
    · rw [FilterScan.fullPage, htake, hfilter, h.kept]

theorem atLimit_serves (h : Scanned limit keeps start done s) (row : Feed) (back : List Feed) :
    Serves keeps (done ++ row :: back) (s.examine keeps row).atLimit where
  examined := h.more
  last := fun hmore => absurd hmore (by decide : ¬ true = false)
  more := fun _ => ⟨done, row, back, rfl, rfl, examine_kept h row⟩

theorem Scanned.examine (h : Scanned limit keeps start done s)
    (hfull : ¬ (keeps row && limit < (s.examine keeps row).kept.length) = true)
    (hmax : ¬ linkFactFilterScanMax ≤ (s.examine keeps row).examined) :
    Scanned limit keeps start (done ++ [row]) (s.examine keeps row) where
  kept := examine_kept h row
  room := by
    by_cases hkeeps : keeps row = true
    · simpa [hkeeps] using hfull
    · simpa [FilterScan.examine, hkeeps] using h.room
  examined := by
    rw [List.length_append, ← h.examined]
    rfl
  more := Nat.lt_of_not_le hmax
  atStart := by simp
  after := by
    intro front other hdone
    obtain ⟨-, hsame⟩ := List.append_inj' hdone rfl
    rw [← List.singleton_inj.mp hsame]
    rfl

theorem scanBatch_error {rows : List Feed} {result : FilteredRows}
    (h : Scanned limit keeps start done s) (hlimit : 1 ≤ limit)
    (hresult : scanBatch limit keeps s rows = .error result) (back : List Feed) :
    Serves keeps (done ++ (rows ++ back)) result := by
  induction rows generalizing done s with
  | nil => cases hresult
  | cons row rows ih =>
    unfold scanBatch at hresult
    split_ifs at hresult with hfull hmax
    · cases hresult
      rw [Bool.and_eq_true, decide_eq_true_eq] at hfull
      exact fullPage_serves h hlimit hfull.1 hfull.2 _
    · cases hresult
      exact atLimit_serves h row _
    · have hrows := ih (h.examine hfull hmax) hresult
      rw [List.append_assoc, List.singleton_append] at hrows
      exact hrows

theorem scanBatch_ok {rows : List Feed} {s' : FilterScan} (h : Scanned limit keeps start done s)
    (hresult : scanBatch limit keeps s rows = .ok s') :
    Scanned limit keeps start (done ++ rows) s' := by
  induction rows generalizing done s with
  | nil =>
    cases hresult
    rwa [List.append_nil]
  | cons row rows ih =>
    unfold scanBatch at hresult
    split_ifs at hresult with hfull hmax
    have hrows := ih (h.examine hfull hmax) hresult
    rw [List.append_assoc, List.singleton_append] at hrows
    exact hrows

theorem atEnd_serves (h : Scanned limit keeps start done s) : Serves keeps done s.atEnd where
  examined := Nat.le_of_lt h.more
  last := fun _ => ⟨rfl, h.kept⟩
  more := fun hmore => absurd hmore (by decide : ¬ false = true)

theorem scanLoop_serves {read rest : Option RecentCursor → List Feed} (hlimit : 1 ≤ limit)
    (hread : ∀ c, read c = (rest c).take linkFactFilterBatch)
    (hrest : ∀ c front row back, rest c = front ++ row :: back → rest (some (recentKey row)) = back)
    {back : List Feed} (h : Scanned limit keeps start done s) (hall : rest start = done ++ back) :
    Serves keeps (rest start) (scanLoop read limit keeps s) := by
  induction hn : linkFactFilterScanMax - s.examined using Nat.strong_induction_on
    generalizing s done back with
  | _ n ih =>
    subst hn
    -- what is left to read is what the cursor of the scan stands for
    have hleft : rest s.after = back := by
      rcases List.eq_nil_or_concat done with rfl | ⟨front, row, rfl⟩
      · rw [h.atStart rfl, hall, List.nil_append]
      · rw [h.after front row (List.concat_eq_append ..)]
        apply hrest start front
        rw [hall, List.concat_eq_append, List.append_assoc, List.singleton_append]
    have hbatch : read s.after = back.take linkFactFilterBatch := by rw [hread, hleft]
    rw [scanLoop]
    split
    · rename_i result hresult
      rw [hbatch] at hresult
      have hserves := scanBatch_error h hlimit hresult (back.drop linkFactFilterBatch)
      rwa [List.take_append_drop, ← hall] at hserves
    · rename_i s' hresult
      split
      · rename_i hend
        rw [hbatch] at hresult
        rw [hbatch, List.length_take] at hend
        have htake : back.take linkFactFilterBatch = back := List.take_of_length_le (by omega)
        rw [htake] at hresult
        rw [hall]
        exact atEnd_serves (scanBatch_ok h hresult)
      · rename_i hfull
        have hless := scanBatch_less hresult hfull
        rw [hbatch] at hresult
        have hsplit : rest start =
            (done ++ back.take linkFactFilterBatch) ++ back.drop linkFactFilterBatch := by
          rw [List.append_assoc, List.take_append_drop, hall]
        exact ih _ hless (scanBatch_ok h hresult) hsplit rfl

end Scan

section List

instance : Std.TransCmp compareKeys :=
  inferInstanceAs (Std.TransCmp (compareLex (compareOn Prod.fst) (compareOn Prod.snd)))

instance : Std.TransCmp compareRecent where
  eq_swap := @fun _ _ => @Std.OrientedCmp.eq_swap _ compareKeys _ _ _
  isLE_trans hab hbc := @Std.TransCmp.isLE_trans _ compareKeys _ _ _ _ hbc hab

theorem compareKeys_eq {a b : RecentCursor} (h : compareKeys a b = .eq) : a = b := by
  obtain ⟨hfst, hsnd⟩ := compareLex_eq_eq.mp h
  exact Prod.ext (compare_eq_iff_eq.mp hfst) (compare_eq_iff_eq.mp hsnd)

/-- The rows of the medium, newest first. -/
def recentList (d : Db) (medium : String) : List Feed :=
  orderBy compareRecent (((d .feeds).map FeedRow.feed).filter (isOfMedium medium))

/-- The rows behind a cursor. -/
def recentRest (d : Db) (medium : String) (after : Option RecentCursor) : List Feed :=
  (recentList d medium).filter fun f =>
    after.all fun c => compareKeys (recentKey f) c == .lt

variable {d : Db} {medium : String}

theorem feed_eq_of_guid {f g : Feed} (hf : f ∈ (d .feeds).map FeedRow.feed)
    (hg : g ∈ (d .feeds).map FeedRow.feed) (h : f.feedGuid = g.feedGuid) : f = g := by
  obtain ⟨row, hrow, rfl⟩ := List.mem_map.mp hf
  obtain ⟨other, hother, rfl⟩ := List.mem_map.mp hg
  have hkey : Key.feed row.feed.feedGuid ∈ schema.keys .feeds row := List.mem_cons_self
  have hkey' : Key.feed row.feed.feedGuid ∈ schema.keys .feeds other := by
    rw [h]
    exact List.mem_cons_self
  rw [d.eq_of_shared_key hrow hother hkey hkey']

theorem feeds_nodup : ((d .feeds).map FeedRow.feed).Nodup := by
  have hguids : ((d .feeds).flatMap (schema.keys .feeds)).Nodup := d.valid.unique .feeds
  have hpairs := (List.nodup_flatMap.mp hguids).2
  refine List.pairwise_map.mpr (hpairs.imp fun {r r'} hdisjoint hsame => ?_)
  have hkey : Key.feed r.feed.feedGuid ∈ schema.keys .feeds r := List.mem_cons_self
  have hkey' : Key.feed r.feed.feedGuid ∈ schema.keys .feeds r' := by
    rw [hsame]
    exact List.mem_cons_self
  exact hdisjoint hkey hkey'

theorem eq_of_compareRecent {f g : Feed} (hf : f ∈ (d .feeds).map FeedRow.feed)
    (hg : g ∈ (d .feeds).map FeedRow.feed) (h : compareRecent f g = .eq) : f = g := by
  have hkey : recentKey g = recentKey f := compareKeys_eq h
  exact feed_eq_of_guid hf hg (congrArg Prod.snd hkey).symm

theorem recentList_sorted :
    (recentList d medium).Pairwise fun a b => compareRecent a b = .lt := by
  apply orderBy_strict (feeds_nodup.filter _)
  intro f hf g hg
  exact eq_of_compareRecent (List.mem_of_mem_filter hf) (List.mem_of_mem_filter hg)

theorem recentFeedRows_eq (after : Option RecentCursor) (count : Nat) :
    recentFeedRows d medium after none count = (recentRest d medium after).take count := by
  unfold recentFeedRows recentRest recentList
  rw [← orderBy_filter, List.filter_filter]
  congr 2
  apply List.filter_congr
  intro f _
  rw [Option.all_none, Bool.and_true, Bool.and_comm]

theorem recentRest_behind {after : Option RecentCursor} {front back : List Feed} {row : Feed}
    (h : recentRest d medium after = front ++ row :: back) :
    recentRest d medium (some (recentKey row)) = back := by
  have htrans : IsTrans Feed fun a b => compareRecent a b = .lt :=
    ⟨fun _ _ _ hab hbc => Std.TransCmp.lt_trans hab hbc⟩
  have hirrefl : ∀ a, ¬ compareRecent a a = .lt := by
    intro a
    rw [@Std.ReflCmp.compare_self _ compareRecent]
    decide
  have hbehind := filter_after hirrefl recentList_sorted (fun a b hab ha => ?_) h
  · rw [← hbehind]
    apply List.filter_congr
    intro f _
    rfl
  · cases after with
    | none => rfl
    | some c =>
      rw [Option.all_some, beq_iff_eq] at ha ⊢
      exact Std.TransCmp.lt_trans hab ha

end List

section Requests

variable [Platform]

/-- The cursor of an answer is given when more rows are left. -/
def FilteredRows.page (result : FilteredRows) : Paging.Page Feed RecentCursor where
  items := result.kept
  next := if result.hasMore then result.next else none

/-- The page that a request from `after` gives. -/
def filteredPage (d : Db) (medium : String) (limit : Nat) (filter : LinkFactFilter)
    (after : Option RecentCursor) : Paging.Page Feed RecentCursor :=
  (filteredRecentRows d medium after limit filter).page

omit [Platform] in
theorem Serves.next_none {keeps : Feed → Bool} {all : List Feed} {result : FilteredRows}
    (h : Serves keeps all result) (hlast : result.page.next = none) :
    result.page.items = all.filter keeps := by
  simp only [FilteredRows.page] at hlast ⊢
  split at hlast
  · rename_i hmore
    obtain ⟨front, row, back, -, hnext, -⟩ := h.more hmore
    rw [hnext] at hlast
    cases hlast
  · rename_i hmore
    exact (h.last (Bool.eq_false_iff.mpr hmore)).2

omit [Platform] in
theorem Serves.next_some {keeps : Feed → Bool} {all : List Feed} {result : FilteredRows}
    {c : RecentCursor} (h : Serves keeps all result) (hcursor : result.page.next = some c) :
    ∃ front row back, all = front ++ row :: back ∧ c = recentKey row ∧
      result.page.items = (front ++ [row]).filter keeps := by
  simp only [FilteredRows.page] at hcursor ⊢
  split at hcursor
  · rename_i hmore
    obtain ⟨front, row, back, hall, hnext, hkept⟩ := h.more hmore
    rw [hnext, Option.some.injEq] at hcursor
    exact ⟨front, row, back, hall, hcursor.symm, hkept⟩
  · cases hcursor

theorem filteredRecentRows_serves (d : Db) (medium : String) {limit : Nat} (hlimit : 1 ≤ limit)
    (filter : LinkFactFilter) (after : Option RecentCursor) :
    Serves (filter.keepsFeed d) (recentRest d medium after)
      (filteredRecentRows d medium after limit filter) := by
  refine @scanLoop_serves _ _ after [] _ _ _ hlimit ?_ ?_ (recentRest d medium after) ?_ ?_
  · exact fun c => recentFeedRows_eq c _
  · exact fun c front row back => recentRest_behind
  · exact
      { kept := rfl
        room := Nat.zero_le limit
        examined := rfl
        more := Nat.succ_pos 999
        atStart := fun _ => rfl
        after := by simp }
  · rw [List.nil_append]

/-- The requests from the first page on give the filtered list.  Each examines at most the limit
of rows, and each cursor lies behind the one before it. -/
theorem filteredRecentRows_paged (d : Db) (medium : String) (filter : LinkFactFilter) (limit : Nat)
    (hlimit : 1 ≤ limit) :
    Paging.Walk (filteredPage d medium limit filter) none
        ((recentList d medium).filter (filter.keepsFeed d)) ∧
      ∀ after, (filteredRecentRows d medium after limit filter).examined ≤ linkFactFilterScanMax ∧
        ((filteredRecentRows d medium after limit filter).hasMore = true →
          ∃ c, (filteredRecentRows d medium after limit filter).next = some c ∧
            ∀ c', after = some c' → compareKeys c c' = .lt) := by
  have hserves := filteredRecentRows_serves d medium hlimit filter
  constructor
  · have hstart : recentRest d medium none = recentList d medium :=
      List.filter_eq_self.mpr fun _ _ => rfl
    rw [← hstart]
    refine @Paging.walk_of_rest _ _ _ (fun _ => True)
      (fun c => (recentRest d medium c).filter (filter.keepsFeed d))
      (fun c => (recentRest d medium c).length) ?_ ?_ none ?_
    · exact fun c _ hlast => (hserves c).next_none hlast
    · intro c c' _ hnext
      obtain ⟨front, row, back, hrest, rfl, hitems⟩ := (hserves c).next_some hnext
      have hbehind := recentRest_behind hrest
      refine ⟨?_, trivial, ?_⟩
      · rw [filteredPage, hitems, hbehind, hrest, ← List.filter_append, List.append_assoc,
          List.singleton_append]
      · rw [hbehind, hrest, List.length_append, List.length_cons]
        omega
    · trivial
  · intro after
    refine ⟨(hserves after).examined, fun hmore => ?_⟩
    obtain ⟨front, row, back, hrest, hnext, -⟩ := (hserves after).more hmore
    refine ⟨recentKey row, hnext, ?_⟩
    rintro c' rfl
    have hmem : row ∈ recentRest d medium (some c') := by simp [hrest]
    have hafter := (List.mem_filter.mp hmem).2
    rwa [Option.all_some, beq_iff_eq] at hafter

end Requests

section Sample

attribute [local instance] samplePlatform

def twoPublishersDb : Db where
  contents :=
    viewContents
      [viewFeed "p" "https://p.example" "publisher" none,
        viewFeed "q" "https://q.example" "Publisher" none] []
  valid := by decide +kernel

/-- Pages of one row. -/
theorem filteredRecentRows_paged_sample :
    Paging.Walk
      (filteredPage twoPublishersDb "publisher" 1 { statedRel := none, noTwoWayLinks := true }) none
      [(viewFeed "q" "https://q.example" "Publisher" none).feed,
        (viewFeed "p" "https://p.example" "publisher" none).feed] := by
  have hwalk := (filteredRecentRows_paged twoPublishersDb "publisher"
    { statedRel := none, noTwoWayLinks := true } 1 (by decide)).1
  have hrows : (recentList twoPublishersDb "publisher").filter
      (LinkFactFilter.keepsFeed { statedRel := none, noTwoWayLinks := true } twoPublishersDb) =
        [(viewFeed "q" "https://q.example" "Publisher" none).feed,
          (viewFeed "p" "https://p.example" "publisher" none).feed] := by
    decide +kernel
  rwa [hrows] at hwalk

end Sample

end Stophammer
