import Mathlib
import Stophammer.Overflow
import Stophammer.Paging.Changing
import Stophammer.Query.Cursor
import Stophammer.Query.NamedFeeds
import Stophammer.Query.WebLink
import Stophammer.Relational.OrderBy
import Stophammer.Sample
import Stophammer.Schema

/-!
# The list of live items

`GET /v1/live-items` reads the live items of all feeds in the order of their keys, and the view is
applied behind the read.  Items start, end and go while a client follows the cursors.
-/

namespace Stophammer

open Relational Paging

inductive LiveItemView where
  | now
  | upcoming
  | all
deriving DecidableEq

structure LiveItemsQuery where
  view : Option String
  status : Option String
  liveValue : Option String
  endsAfter : Option Int
  startsAfter : Option Int
  limit : Option Int

structure LiveItemFilters where
  view : LiveItemView
  status : Option String
  liveValue : Option String
  endsAfter : Option Int
  startsAfter : Option Int

def parseLiveItemView (view : String) : Except ApiError LiveItemView :=
  if view == "now" then .ok .now
  else if view == "upcoming" then .ok .upcoming
  else if view == "all" then .ok .all
  else .error (badRequest ("unknown view: " ++ view))

def validateLiveItemsQuery (params : LiveItemsQuery) : Except ApiError LiveItemFilters :=
  match parseLiveItemView (params.view.getD "now") with
  | .error err => .error err
  | .ok view =>
    if (params.status.isSome || params.liveValue.isSome || params.endsAfter.isSome ||
        params.startsAfter.isSome) && view ≠ .all then
      .error (badRequest
        "status, live_value, ends_after and starts_after apply only with view=all")
    else
      match params.status.filter (· ∉ ["pending", "live", "ended"]) with
      | some status => .error (badRequest ("unknown status: " ++ status))
      | none =>
        match params.liveValue.filter (· ∉ ["set", "none"]) with
        | some liveValue => .error (badRequest ("unknown live_value: " ++ liveValue))
        | none =>
          .ok ⟨view, params.status, params.liveValue, params.endsAfter, params.startsAfter⟩

namespace LiveEvent

/-- `in_now_view` of a release build, where a sum wraps around. -/
def nowView (row : LiveEvent) (now : Int) (confirming : Bool) : Bool :=
  if !eqIgnoreAsciiCase row.status "live" then false
  else if confirming then true
  else
    match row.scheduledEnd with
    | none => true
    | some scheduledEnd => now < (scheduledEnd + liveEndMarginSecs).bmod (2 ^ 64)

/-- `in_upcoming_view` of a release build. -/
def upcomingView (row : LiveEvent) (now : Int) : Bool :=
  if !eqIgnoreAsciiCase row.status "pending" then false
  else
    match row.scheduledEnd with
    | some scheduledEnd => now < scheduledEnd
    | none =>
      match row.scheduledStart with
      | some scheduledStart => now < (scheduledStart + pendingStartMarginSecs).bmod (2 ^ 64)
      | none => false

def matchesRawFilters (event : LiveEvent) (status liveValue : Option String)
    (endsAfter startsAfter : Option Int) : Bool :=
  status.all (eqIgnoreAsciiCase event.status) &&
    liveValue.all (fun want => event.liveValueUri.any (!·.isEmpty) == (want == "set")) &&
    endsAfter.all (fun after => event.scheduledEnd.any (after < ·)) &&
    startsAfter.all fun after => event.scheduledStart.any (after < ·)

/-- The key of the table. -/
def place (event : LiveEvent) : String ×ₗ String := toLex (event.feedGuid, event.liveItemGuid)

end LiveEvent

theorem bmod_of_inRange {x : Int} (h : CheckedInt.InRange x) : x.bmod (2 ^ 64) = x := by
  obtain ⟨hlow, hhigh⟩ := h
  apply Int.bmod_eq_of_le <;> omega

theorem LiveEvent.nowView_of_checked {row : LiveEvent} {now : Int} {confirming shown : Bool}
    (h : row.inNowView now confirming = some shown) : row.nowView now confirming = shown := by
  unfold inNowView at h
  unfold nowView
  split
  · rw [if_pos (by assumption)] at h
    exact Option.some.inj h
  · rw [if_neg (by assumption)] at h
    split
    · rw [if_pos (by assumption)] at h
      exact Option.some.inj h
    · rw [if_neg (by assumption)] at h
      cases hend : row.scheduledEnd with
      | none =>
        rw [hend] at h
        exact Option.some.inj h
      | some scheduledEnd =>
        rw [hend] at h
        obtain ⟨sum, hsum, rfl⟩ := Option.map_eq_some_iff.mp h
        obtain ⟨hrange, rfl⟩ := CheckedInt.ofInt_eq_some.mp hsum
        dsimp only
        rw [bmod_of_inRange hrange]

theorem LiveEvent.upcomingView_of_checked {row : LiveEvent} {now : Int} {shown : Bool}
    (h : row.inUpcomingView now = some shown) : row.upcomingView now = shown := by
  unfold inUpcomingView at h
  unfold upcomingView
  split
  · rw [if_pos (by assumption)] at h
    exact Option.some.inj h
  · rw [if_neg (by assumption)] at h
    cases hend : row.scheduledEnd with
    | some scheduledEnd =>
      rw [hend] at h
      exact Option.some.inj h
    | none =>
      rw [hend] at h
      dsimp only at h ⊢
      cases hstart : row.scheduledStart with
      | none =>
        rw [hstart] at h
        exact Option.some.inj h
      | some scheduledStart =>
        rw [hstart] at h
        obtain ⟨sum, hsum, rfl⟩ := Option.map_eq_some_iff.mp h
        obtain ⟨hrange, rfl⟩ := CheckedInt.ofInt_eq_some.mp hsum
        dsimp only
        rw [bmod_of_inRange hrange]

structure LiveItemResponse where
  liveItemGuid : String
  title : String
  status : String
  contentLink : Option String
  scheduledStart : Option Int
  scheduledEnd : Option Int
  liveValueUri : Option String
  liveValueProtocol : Option String
  confirmingRelay : Bool
  inNowView : Bool
  inUpcomingView : Bool
  link : Option String
  linkSchemeAdded : Bool
deriving DecidableEq

structure NamedFeedSummary where
  title : Option String
  imageUrl : Option String
  releaseArtist : Option String
  releaseArtistSource : Option String
  episodeCount : Option Int

structure LiveItemListResponse where
  feedGuid : String
  feedTitle : Option String
  feedImageUrl : Option String
  item : LiveItemResponse
deriving DecidableEq

section

variable [Platform]

def isConfirmingRelay (uri : Option String) (hosts : List String) : Bool :=
  uri.any fun uri => urlScheme uri == some "https" &&
    (urlHost uri).any fun host => hosts.any fun listed => eqIgnoreAsciiCase listed host

def liveEventMatches (event : LiveEvent) (filters : LiveItemFilters) (now : Int)
    (hosts : List String) : Bool :=
  match filters.view with
  | .now => event.nowView now (isConfirmingRelay event.liveValueUri hosts)
  | .upcoming => event.upcomingView now
  | .all => event.matchesRawFilters filters.status filters.liveValue filters.endsAfter
      filters.startsAfter

/-- A value with no scheme, such as the id of an event, is given as it is. -/
def liveValueUriResponse (uri : Option String) : Option String :=
  uri.bind fun raw => if (urlScheme raw).isSome then webUrlOrNone (some raw) else some raw

def liveItemResponse (event : LiveEvent) (hosts : List String) (now : Int)
    (link : Option String) : LiveItemResponse :=
  let confirmingRelay := isConfirmingRelay event.liveValueUri hosts
  let read := (link.map webLinkForRead).getD (none, false)
  { liveItemGuid := event.liveItemGuid
    title := event.title
    status := event.status
    contentLink := webUrlOrNone event.contentLink
    scheduledStart := event.scheduledStart
    scheduledEnd := event.scheduledEnd
    liveValueUri := liveValueUriResponse event.liveValueUri
    liveValueProtocol := event.liveValueProtocol
    confirmingRelay := confirmingRelay
    inNowView := event.nowView now confirmingRelay
    inUpcomingView := event.upcomingView now
    link := read.1
    linkSchemeAdded := read.2 }

/-- `ORDER BY position, link_type, url, id`. -/
def getSourceEntityLinksForFeedEntity (d : Db) (feedGuid entityType entityId : String) :
    List SourceEntityLink :=
  orderBy (compareOn fun l : SourceEntityLink => toLex (l.position, toLex (l.linkType, l.url)))
    ((d .sourceEntityLinks).filter fun l : SourceEntityLink =>
      l.feedGuid == feedGuid && l.entityType == entityType && l.entityId == entityId)

def liveItemLinkForFeedItem (d : Db) (feedGuid liveItemGuid : String) : Option String :=
  ((getSourceEntityLinksForFeedEntity d feedGuid "live_item" liveItemGuid).find? fun l =>
    l.linkType == "web_page" && l.extractionPath == "entity.link").map SourceEntityLink.url

def namedFeedSummary (d : Db) (feedGuid : Option String) : NamedFeedSummary :=
  match feedGuid.bind fun guid => (d .feeds).find? fun r : FeedRow => r.feed.feedGuid == guid with
  | none => ⟨none, none, none, none, none⟩
  | some r =>
    ⟨some r.feed.title, webUrlOrNone r.feed.imageUrl, r.feed.releaseArtist,
      r.feed.releaseArtistSource, some r.feed.episodeCount⟩

def liveItemListResponse (d : Db) (event : LiveEvent) (hosts : List String) (now : Int) :
    LiveItemListResponse :=
  let feed := namedFeedSummary d (some event.feedGuid)
  { feedGuid := event.feedGuid
    feedTitle := feed.title
    feedImageUrl := feed.imageUrl
    item := liveItemResponse event hosts now
      (liveItemLinkForFeedItem d event.feedGuid event.liveItemGuid) }

/-- The live items of the feeds that the index holds, behind a key, in the order of the keys. -/
def getLiveEventsAfterCursor (d : Db) (cursor : Option (String × String)) : List LiveEvent :=
  orderBy (compareOn LiveEvent.place)
    (((d .liveEvents).flatMap fun le : LiveEvent =>
      ((d .feeds).filter fun f : FeedRow => f.feed.feedGuid == le.feedGuid).map fun _ => le).filter
        fun le => cursor.all fun c =>
          c.1 < le.feedGuid || (le.feedGuid == c.1 && c.2 < le.liveItemGuid))

def liveEventCursor (event : LiveEvent) : String :=
  encodeCursor (cursorText event.feedGuid event.liveItemGuid)

def parseLiveItemsCursor (cursor : String) : Except ApiError (String × String) :=
  match decodeCursor cursor with
  | .error err => .error err
  | .ok decoded =>
    match splitKeys 2 decoded with
    | [feedGuid, liveItemGuid] => .ok (feedGuid, liveItemGuid)
    | _ => .error (badRequest "invalid cursor format")

def liveItemsAnswer (d : Db) (filters : LiveItemFilters) (limit : Option Int) (now : Int)
    (hosts : List String) (cursor : Option (String × String)) :
    Page LiveItemListResponse String :=
  let matching := (getLiveEventsAfterCursor d cursor).filter fun event =>
    liveEventMatches event filters now hosts
  let page := matching.take (cappedLimit limit)
  { items := page.map fun event => liveItemListResponse d event hosts now
    next := if cappedLimit limit < matching.length then page.getLast?.map liveEventCursor
      else none }

def listLiveItems (d : Db) (params : LiveItemsQuery) (now : Int) (hosts : List String)
    (cursor : Option String) : Except ApiError (Page LiveItemListResponse String) :=
  match validateLiveItemsQuery params with
  | .error err => .error err
  | .ok filters =>
    match cursor with
    | none => .ok (liveItemsAnswer d filters params.limit now hosts none)
    | some text =>
      match parseLiveItemsCursor text with
      | .error err => .error err
      | .ok position => .ok (liveItemsAnswer d filters params.limit now hosts (some position))

end

theorem filter_unique {α : Type} {rows : List α} {p : α → Bool} (hnodup : rows.Nodup)
    (hunique : ∀ a ∈ rows, ∀ b ∈ rows, p a = true → p b = true → a = b)
    (hsome : ∃ a ∈ rows, p a = true) : ∃ a, rows.filter p = [a] := by
  rcases hfound : rows.filter p with _ | ⟨a, _ | ⟨b, rest⟩⟩
  · obtain ⟨a, ha, hp⟩ := hsome
    exact absurd hp (List.filter_eq_nil_iff.mp hfound a ha)
  · exact ⟨a, rfl⟩
  · have ha : a ∈ rows.filter p := by simp [hfound]
    have hb : b ∈ rows.filter p := by simp [hfound]
    obtain ⟨ha, hpa⟩ := List.mem_filter.mp ha
    obtain ⟨hb, hpb⟩ := List.mem_filter.mp hb
    have hdistinct := hfound ▸ hnodup.filter p
    exact absurd (hunique a ha b hb hpa hpb) (by
      rintro rfl
      simp at hdistinct)

theorem liveEvents_join (d : Db) : ((d .liveEvents).flatMap fun le : LiveEvent =>
    ((d .feeds).filter fun f : FeedRow => f.feed.feedGuid == le.feedGuid).map fun _ => le) =
      d .liveEvents := by
  have hone : ∀ le : LiveEvent, le ∈ d .liveEvents →
      (((d .feeds).filter fun f : FeedRow => f.feed.feedGuid == le.feedGuid).map
        fun _ => le) = [le] := by
    intro le hle
    have hhas : d.Has (Key.feed le.feedGuid) :=
      d.valid.referenced .liveEvents le hle _ List.mem_cons_self
    obtain ⟨row, hrow, hkey⟩ := (Database.has_iff (S := schema) (t := .feeds) rfl).mp hhas
    have hguid : row.feed.feedGuid = le.feedGuid := by
      rcases List.mem_cons.mp hkey with hfeed | hurl
      · exact (Key.feed.inj hfeed).symm
      · cases List.mem_singleton.mp hurl
    obtain ⟨found, hfound⟩ := filter_unique
      (d.rows_nodup (t := .feeds) fun r => List.cons_ne_nil _ _)
      (p := fun f : FeedRow => f.feed.feedGuid == le.feedGuid) (by
        intro a ha b hb hona honb
        have hkeyA : Key.feed a.feed.feedGuid ∈ schema.keys .feeds a := List.mem_cons_self
        refine d.eq_of_shared_key ha hb hkeyA ?_
        rw [beq_iff_eq.mp hona, ← beq_iff_eq.mp honb]
        exact List.mem_cons_self) ⟨row, hrow, beq_iff_eq.mpr hguid⟩
    rw [hfound]
    rfl
  rw [List.flatMap_congr hone]
  simp

theorem place_lt_iff {c : String × String} {event : LiveEvent} :
    (c.1 < event.feedGuid || (event.feedGuid == c.1 && c.2 < event.liveItemGuid)) = true ↔
      toLex c < event.place := by
  have hsame : event.feedGuid = c.1 ↔ c.1 = event.feedGuid := eq_comm
  rw [LiveEvent.place, Prod.Lex.lt_iff]
  simp only [Bool.or_eq_true, Bool.and_eq_true, decide_eq_true_eq, beq_iff_eq, hsame, ofLex_toLex]

def orderedLiveEvents (d : Db) : List LiveEvent :=
  orderBy (compareOn LiveEvent.place) (d .liveEvents)

theorem orderedLiveEvents_sorted (d : Db) :
    (orderedLiveEvents d).Pairwise fun a b => a.place < b.place := by
  have hstrict : (orderedLiveEvents d).Pairwise fun a b =>
      compareOn LiveEvent.place a b = .lt := by
    apply orderBy_strict (d.rows_nodup (t := .liveEvents) fun r => List.cons_ne_nil _ _)
    intro a ha b hb hsame
    have hplace : a.place = b.place := compare_eq_iff_eq.mp hsame
    have hkey : Key.liveEvent a.feedGuid a.liveItemGuid ∈ schema.keys .liveEvents a :=
      List.mem_cons_self
    refine d.eq_of_shared_key ha hb hkey ?_
    obtain ⟨hfeed, hitem⟩ := Prod.mk.inj (toLex_inj.mp hplace)
    rw [hfeed, hitem]
    exact List.mem_cons_self
  exact hstrict.imp fun h => compare_lt_iff_lt.mp h

theorem getLiveEventsAfterCursor_eq (d : Db) (cursor : Option (String × String)) :
    getLiveEventsAfterCursor d cursor =
      (orderedLiveEvents d).filter fun event =>
        (cursor.map toLex).all fun p => decide (p < event.place) := by
  unfold getLiveEventsAfterCursor orderedLiveEvents
  rw [liveEvents_join, ← orderBy_filter]
  congr 1
  apply List.filter_congr
  intro event _
  cases cursor with
  | none => rfl
  | some c =>
    rw [Option.map_some, Option.all_some, Option.all_some, Bool.eq_iff_iff, place_lt_iff,
      decide_eq_true_eq]

/-- What one request of a client finds: the database and the clock.  A feed GUID is a UUID. -/
structure LiveRead where
  db : Db
  now : Int
  noNul : ∀ row : FeedRow, row ∈ db .feeds → nul ∉ row.feed.feedGuid.toList

section

variable [Platform]

def LiveItemListResponse.place (r : LiveItemListResponse) : String ×ₗ String :=
  toLex (r.feedGuid, r.item.liveItemGuid)

def LiveItemListResponse.cursor (r : LiveItemListResponse) : String :=
  encodeCursor (cursorText r.feedGuid r.item.liveItemGuid)

/-- The rows of a view at one moment. -/
def liveItemRows (filters : LiveItemFilters) (hosts : List String) (s : LiveRead) :
    List LiveItemListResponse :=
  ((orderedLiveEvents s.db).filter fun event =>
    liveEventMatches event filters s.now hosts).map fun event =>
      liveItemListResponse s.db event hosts s.now

/-- An error ends the requests of a client. -/
def liveItemsPage (params : LiveItemsQuery) (hosts : List String) (s : LiveRead)
    (cursor : Option String) : Page LiveItemListResponse String :=
  (listLiveItems s.db params s.now hosts cursor).toOption.getD { items := [], next := none }

/-- The rows that a cursor stands for. -/
def liveItemsAfter (filters : LiveItemFilters) (hosts : List String) (s : LiveRead) :
    Option String → List LiveItemListResponse
  | none => liveItemRows filters hosts s
  | some cursor =>
    match parseLiveItemsCursor cursor with
    | .error _ => []
    | .ok position => behind (liveItemRows filters hosts) LiveItemListResponse.place s
        (some (toLex position))

variable {filters : LiveItemFilters} {hosts : List String}

theorem liveItemsAnswer_eq {limit : Option Int} (s : LiveRead)
    (cursor : Option (String × String)) :
    liveItemsAnswer s.db filters limit s.now hosts cursor =
      pageOf (cappedLimit limit) LiveItemListResponse.cursor
        (behind (liveItemRows filters hosts) LiveItemListResponse.place s
          (cursor.map toLex)) := by
  have hrows : behind (liveItemRows filters hosts) LiveItemListResponse.place s
      (cursor.map toLex) = ((getLiveEventsAfterCursor s.db cursor).filter fun event =>
        liveEventMatches event filters s.now hosts).map fun event =>
          liveItemListResponse s.db event hosts s.now := by
    rw [behind, liveItemRows, List.filter_map, List.filter_filter, getLiveEventsAfterCursor_eq,
      List.filter_filter]
    congr 1
    apply List.filter_congr
    intro event _
    rw [Bool.and_comm]
    rfl
  rw [hrows]
  unfold liveItemsAnswer pageOf
  rw [List.length_map, ← List.map_take, List.getLast?_map, Option.map_map]
  rfl

theorem liveItemsPage_eq {params : LiveItemsQuery}
    (hparams : validateLiveItemsQuery params = .ok filters) (s : LiveRead)
    (cursor : Option String) :
    liveItemsPage params hosts s cursor =
      pageOf (cappedLimit params.limit) LiveItemListResponse.cursor
        (liveItemsAfter filters hosts s cursor) := by
  unfold liveItemsPage listLiveItems
  rw [hparams]
  cases cursor with
  | none =>
    dsimp only
    rw [liveItemsAnswer_eq, Option.map_none, behind_none]
    rfl
  | some text =>
    dsimp only [liveItemsAfter]
    cases parseLiveItemsCursor text with
    | error err => simp [pageOf, Except.toOption]
    | ok position =>
      dsimp only
      rw [liveItemsAnswer_eq]
      rfl

theorem mem_liveItemRows {s : LiveRead} {r : LiveItemListResponse} :
    r ∈ liveItemRows filters hosts s ↔ ∃ event : LiveEvent, event ∈ s.db .liveEvents ∧
      liveEventMatches event filters s.now hosts = true ∧
      liveItemListResponse s.db event hosts s.now = r := by
  rw [liveItemRows, List.mem_map]
  simp only [List.mem_filter, orderedLiveEvents, mem_orderBy, and_assoc]

theorem liveItemRows_keyset : Keyset (liveItemRows filters hosts) LiveItemListResponse.place
    LiveItemListResponse.cursor (liveItemsAfter filters hosts) := by
  constructor
  case sorted =>
    intro s
    exact List.pairwise_map.mpr ((orderedLiveEvents_sorted s.db).filter _)
  case start => exact fun s => rfl
  case cursor =>
    intro s t r hr
    obtain ⟨event, hevent, -, rfl⟩ := mem_liveItemRows.mp hr
    have hfeed : nul ∉ event.feedGuid.toList := by
      have hhas : s.db.Has (Key.feed event.feedGuid) :=
        s.db.valid.referenced .liveEvents event hevent _ List.mem_cons_self
      obtain ⟨row, hrow, hkey⟩ := (Database.has_iff (S := schema) (t := .feeds) rfl).mp hhas
      rcases List.mem_cons.mp hkey with hfeed | hurl
      · rw [Key.feed.inj hfeed]
        exact s.noNul row hrow
      · cases List.mem_singleton.mp hurl
    have hparse : parseLiveItemsCursor
        (liveItemListResponse s.db event hosts s.now).cursor =
          .ok (event.feedGuid, event.liveItemGuid) := by
      rw [parseLiveItemsCursor, LiveItemListResponse.cursor, decodeCursor_encode]
      dsimp only [liveItemListResponse, liveItemResponse]
      rw [splitKeys_cursorText hfeed 0, Nat.zero_add, splitKeys_one]
    rw [liveItemsAfter, hparse]
    rfl

/-- What a client gets that follows the cursors while the database and the clock go on: no live
item twice, each as it was at one of the requests, and each that belongs in the view at all of
them. -/
structure LiveItemsRead (filters : LiveItemFilters) (hosts : List String) (reads : List LiveRead)
    (rows : List LiveItemListResponse) : Prop where
  ordered : rows.Pairwise fun a b => a.place < b.place
  sound : ∀ r ∈ rows, ∃ s ∈ reads, ∃ event : LiveEvent, event ∈ s.db .liveEvents ∧
    liveEventMatches event filters s.now hosts = true ∧
    liveItemListResponse s.db event hosts s.now = r
  complete : ∀ feedGuid liveItemGuid, (∀ s ∈ reads, ∃ event : LiveEvent,
    event ∈ s.db .liveEvents ∧ event.feedGuid = feedGuid ∧ event.liveItemGuid = liveItemGuid ∧
    liveEventMatches event filters s.now hosts = true) →
      ∃ r ∈ rows, r.feedGuid = feedGuid ∧ r.item.liveItemGuid = liveItemGuid

/-- While nothing changes, the pages are the rows of the view. -/
theorem liveItems_paged {params : LiveItemsQuery} (hosts : List String)
    (hparams : validateLiveItemsQuery params = .ok filters) :
    (∀ s, Walk (liveItemsPage params hosts s) none (liveItemRows filters hosts s)) ∧
    ∀ reads rows, WalkOver (liveItemsPage params hosts) none reads rows →
      LiveItemsRead filters hosts reads rows := by
  have hpage : liveItemsPage params hosts = fun s c =>
      pageOf (cappedLimit params.limit) LiveItemListResponse.cursor
        (liveItemsAfter filters hosts s c) :=
    funext fun s => funext (liveItemsPage_eq hparams s)
  have hlimit := cappedLimit_pos params.limit
  rw [hpage]
  refine ⟨fun s => liveItemRows_keyset.walk hlimit s, ?_⟩
  intro reads rows hwalk
  have hlow : ∀ s, liveItemsAfter filters hosts s none =
      behind (liveItemRows filters hosts) LiveItemListResponse.place s none :=
    fun s =>
      have hbehind : behind (liveItemRows filters hosts) LiveItemListResponse.place s none =
          liveItemRows filters hosts s := behind_none s
      hbehind.symm
  constructor
  case ordered => exact (hwalk.ahead liveItemRows_keyset hlimit hlow).increasing
  case sound =>
    intro r hr
    obtain ⟨s, hs, hmem⟩ := hwalk.sound (P := fun s r => r ∈ liveItemRows filters hosts s)
      (by
        intro s c r hr
        have hafter : r ∈ liveItemsAfter filters hosts s c := List.mem_of_mem_take hr
        cases c with
        | none => exact hafter
        | some text =>
          rw [liveItemsAfter] at hafter
          split at hafter
          · cases hafter
          · exact (mem_behind.mp hafter).1) r hr
    exact ⟨s, hs, mem_liveItemRows.mp hmem⟩
  case complete =>
    intro feedGuid liveItemGuid hthere
    obtain ⟨r, hr, hplace⟩ := hwalk.complete liveItemRows_keyset hlimit hlow
      (p := toLex (feedGuid, liveItemGuid)) (fun q hq => by cases hq) (by
        intro s hs
        obtain ⟨event, hevent, rfl, rfl, hmatch⟩ := hthere s hs
        exact ⟨_, mem_liveItemRows.mpr ⟨event, hevent, hmatch, rfl⟩, rfl⟩)
    obtain ⟨hfeed, hitem⟩ := Prod.mk.inj (toLex_inj.mp hplace)
    exact ⟨r, hr, hfeed, hitem⟩

end

section Sample

attribute [local instance] samplePlatform

def liveShow (liveItemGuid status : String) : LiveEvent where
  liveItemGuid := liveItemGuid
  feedGuid := "f"
  title := liveItemGuid
  contentLink := none
  status := status
  scheduledStart := some 5
  scheduledEnd := some 50
  createdAt := 1
  updatedAt := 1
  liveValueUri := none
  liveValueProtocol := none

def liveContents (events : List LiveEvent) : Contents schema
  | .feeds => [viewFeed "f" "https://f.example" "music" none]
  | .liveEvents => events
  | _ => []

def liveDb (events : List LiveEvent) (h : (liveContents events).Valid := by decide +kernel) : Db :=
  ⟨liveContents events, h⟩

/-- One item ends and another one starts behind the first request. -/
def liveReads : List LiveRead :=
  [⟨liveDb [liveShow "a" "live", liveShow "c" "live"], 10, by decide +kernel⟩,
    ⟨liveDb [liveShow "a" "ended", liveShow "b" "live", liveShow "c" "live"], 20,
      by decide +kernel⟩,
    ⟨liveDb [liveShow "b" "live", liveShow "c" "live"], 30, by decide +kernel⟩]

def oneItemPerPage : LiveItemsQuery := ⟨none, none, none, none, none, some 1⟩

def nowFilters : LiveItemFilters := ⟨.now, none, none, none, none⟩

theorem oneItemPerPage_walk : WalkOver (liveItemsPage oneItemPerPage []) none liveReads
    (((liveItemsPage oneItemPerPage [] liveReads[0] none).items) ++
      ((liveItemsPage oneItemPerPage [] liveReads[1]
        (some (encodeCursor (cursorText "f" "a")))).items ++
      (liveItemsPage oneItemPerPage [] liveReads[2]
        (some (encodeCursor (cursorText "f" "b")))).items)) :=
  .more (by decide +kernel) (.more (by decide +kernel) (.last (by decide +kernel)))

/-- The item that ends is given as it was, and the one that starts comes between the others. -/
theorem liveItems_paged_sample : ∃ rows : List LiveItemListResponse,
    rows.map (fun r => r.item.liveItemGuid) = ["a", "b", "c"] ∧
      LiveItemsRead nowFilters [] liveReads rows :=
  ⟨_, by decide +kernel,
    (@liveItems_paged samplePlatform nowFilters oneItemPerPage [] rfl).2 liveReads _ oneItemPerPage_walk⟩

end Sample

end Stophammer
