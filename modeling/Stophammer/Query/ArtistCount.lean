import Mathlib.Data.Finset.Max
import Stophammer.Query.NamedFeeds
import Stophammer.Sample

/-!
# The artist count of a publisher feed

The distinct artists of the albums that name a publisher feed.  The count does not depend on the
order in which the albums are found.  It takes each feed with a publisher link, of every medium.
-/

namespace Stophammer

open Relational

structure PublisherAlbumArtist where
  feedGuid : String
  releaseArtist : String
deriving DecidableEq

/-- The itunes author of a feed. -/
def ListedFeed.albumArtist (f : ListedFeed) : Option PublisherAlbumArtist :=
  if f.releaseArtistSource != some "itunes_author" then none
  else f.releaseArtist.map fun releaseArtist =>
    { feedGuid := f.feedGuid, releaseArtist := releaseArtist }

def getPublisherAlbumReleaseArtists (d : Db) (order : HashOrder) (publisherFeedGuid : String) :
    List PublisherAlbumArtist :=
  let confirmed (items : List FeedRemoteItemRaw) :=
    items.filter fun r => resolved d r == some publisherFeedGuid
  let storedUrl := ((listInputs d).getFeed publisherFeedGuid).map ListedFeed.feedUrl
  let urls := order.collect (observedUrls d publisherFeedGuid ++ storedUrl.toList)
  let candidates := confirmed (guidCandidates d publisherFeedGuid) ++
    urls.flatMap fun url => confirmed (urlCandidates d url)
  (order.collect (candidates.map FeedRemoteItemRaw.feedGuid)).filterMap fun feedGuid =>
    ((listInputs d).getFeed feedGuid).bind ListedFeed.albumArtist

section

variable [Platform]

def PublisherAlbumArtist.normalized (a : PublisherAlbumArtist) : String := sortKey a.releaseArtist

/-- The album with the lowest `feedGuid` for each normalized artist, sorted by that value. -/
def publisherArtistCount (d : Db) (order : HashOrder) (feedGuid : String) : Nat × List String :=
  let albums := orderBy (compareOn PublisherAlbumArtist.feedGuid)
    (getPublisherAlbumReleaseArtists d order feedGuid)
  let byNormalized := orderBy (compareOn PublisherAlbumArtist.normalized)
    (dedupeBy PublisherAlbumArtist.normalized [] albums)
  (byNormalized.length, byNormalized.map PublisherAlbumArtist.releaseArtist)

end

/-- The feeds of the media with an itunes author and a publisher link to the feed. -/
def linkedAlbums (d : Db) (feedGuid : String) (medium : Option String → Bool) :
    List PublisherAlbumArtist :=
  ((listInputs d).feeds.filter fun f => medium f.rawMedium &&
    (publisherItems d).any fun r => r.feedGuid == f.feedGuid && resolved d r == some feedGuid).filterMap
      ListedFeed.albumArtist

def anyMedium (_ : Option String) : Bool := true

section Scan

variable {d : Db} {feedGuid : String} {medium : Option String → Bool} {a : PublisherAlbumArtist}

theorem ListedFeed.albumArtist_feedGuid {f : ListedFeed} (h : f.albumArtist = some a) :
    a.feedGuid = f.feedGuid := by
  unfold albumArtist at h
  split at h
  · cases h
  · obtain ⟨_, _, rfl⟩ := Option.map_eq_some_iff.mp h
    rfl

theorem mem_linkedAlbums : a ∈ linkedAlbums d feedGuid medium ↔
    ∃ f ∈ (listInputs d).feeds, medium f.rawMedium = true ∧ f.albumArtist = some a ∧
      ∃ r ∈ publisherItems d, r.feedGuid = f.feedGuid ∧ resolved d r = some feedGuid := by
  simp only [linkedAlbums, List.mem_filterMap, List.mem_filter, Bool.and_eq_true, List.any_eq_true,
    beq_iff_eq]
  constructor
  · rintro ⟨f, ⟨hf, hmedium, hlink⟩, ha⟩
    exact ⟨f, hf, hmedium, ha, hlink⟩
  · rintro ⟨f, hf, hmedium, ha, hlink⟩
    exact ⟨f, ⟨hf, hmedium, hlink⟩, ha⟩

theorem linkedAlbums_eq {b : PublisherAlbumArtist} {medium' : Option String → Bool}
    (ha : a ∈ linkedAlbums d feedGuid medium) (hb : b ∈ linkedAlbums d feedGuid medium')
    (h : a.feedGuid = b.feedGuid) : a = b := by
  obtain ⟨f, hf, -, ha, -⟩ := mem_linkedAlbums.mp ha
  obtain ⟨g, hg, -, hb, -⟩ := mem_linkedAlbums.mp hb
  have hsame : f.feedGuid = g.feedGuid := by
    rw [← ListedFeed.albumArtist_feedGuid ha, h, ListedFeed.albumArtist_feedGuid hb]
  have hfind := getFeed_of_mem hf
  rw [hsame, getFeed_of_mem hg, Option.some.injEq] at hfind
  rw [hfind, ha, Option.some.injEq] at hb
  exact hb

theorem bind_albumArtist {guid : String}
    (h : ((listInputs d).getFeed guid).bind ListedFeed.albumArtist = some a) : a.feedGuid = guid := by
  obtain ⟨f, hf, ha⟩ := Option.bind_eq_some_iff.mp h
  have hfound := List.find?_some hf
  rw [ListedFeed.albumArtist_feedGuid ha]
  exact beq_iff_eq.mp hfound

theorem mem_getPublisherAlbumReleaseArtists (order : HashOrder) :
    a ∈ getPublisherAlbumReleaseArtists d order feedGuid ↔ a ∈ linkedAlbums d feedGuid anyMedium := by
  rw [mem_linkedAlbums, getPublisherAlbumReleaseArtists, List.mem_filterMap]
  constructor
  · rintro ⟨guid, hguid, ha⟩
    obtain ⟨r, hr, rfl⟩ := List.mem_map.mp (order.mem_collect.mp hguid)
    obtain ⟨f, hf, ha⟩ := Option.bind_eq_some_iff.mp ha
    have hfound := List.find?_some hf
    have hsame : r.feedGuid = f.feedGuid := (beq_iff_eq.mp hfound).symm
    refine ⟨f, List.mem_of_find?_eq_some hf, rfl, ha, r, ?_⟩
    rcases List.mem_append.mp hr with hr | hr
    · obtain ⟨hr, hresolved⟩ := List.mem_filter.mp hr
      exact ⟨(List.mem_filter.mp hr).1, hsame, beq_iff_eq.mp hresolved⟩
    · obtain ⟨url, -, hr⟩ := List.mem_flatMap.mp hr
      obtain ⟨hr, hresolved⟩ := List.mem_filter.mp hr
      exact ⟨(List.mem_filter.mp hr).1, hsame, beq_iff_eq.mp hresolved⟩
  · rintro ⟨f, hf, -, ha, r, hr, hsame, hresolved⟩
    refine ⟨f.feedGuid, order.mem_collect.mpr (List.mem_map.mpr ⟨r, List.mem_append.mpr ?_, hsame⟩),
      by rw [getFeed_of_mem hf, Option.bind_some, ha]⟩
    rcases resolved_found hr hresolved with hguid | ⟨feed, hfeed, url, hurl, hcandidate⟩
    · exact .inl (List.mem_filter.mpr ⟨hguid, beq_iff_eq.mpr hresolved⟩)
    · rw [hfeed]
      refine .inr (List.mem_flatMap.mpr ⟨url, order.mem_collect.mpr hurl, ?_⟩)
      exact List.mem_filter.mpr ⟨hcandidate, beq_iff_eq.mpr hresolved⟩

theorem getPublisherAlbumReleaseArtists_nodup (order : HashOrder) :
    ((getPublisherAlbumReleaseArtists d order feedGuid).map PublisherAlbumArtist.feedGuid).Nodup := by
  have hsublist : ∀ guids : List String,
      ((guids.filterMap fun guid => ((listInputs d).getFeed guid).bind ListedFeed.albumArtist).map
        PublisherAlbumArtist.feedGuid).Sublist guids := by
    intro guids
    induction guids with
    | nil => exact List.Sublist.slnil
    | cons guid guids ih =>
      cases hguid : ((listInputs d).getFeed guid).bind ListedFeed.albumArtist with
      | none =>
        simp only [List.filterMap_cons, hguid]
        exact ih.cons guid
      | some a =>
        simp only [List.filterMap_cons, hguid, List.map_cons, bind_albumArtist hguid]
        exact ih.cons_cons guid
  exact (order.collect_nodup _).sublist (hsublist _)

theorem albums_sorted (order : HashOrder) :
    (orderBy (compareOn PublisherAlbumArtist.feedGuid)
      (getPublisherAlbumReleaseArtists d order feedGuid)).Pairwise
        fun a b => a.feedGuid < b.feedGuid := by
  refine List.Pairwise.imp (fun h => compare_lt_iff_lt.mp h)
    (@orderBy_strict _ (compareOn PublisherAlbumArtist.feedGuid) _ _ ?_ ?_)
  · exact (getPublisherAlbumReleaseArtists_nodup order).of_map _
  · intro a ha b hb hcmp
    rw [mem_getPublisherAlbumReleaseArtists] at ha hb
    exact linkedAlbums_eq ha hb (compare_eq_iff_eq.mp hcmp)

theorem mem_dedupeBy_sorted {κ : Type} [DecidableEq κ] {key : PublisherAlbumArtist → κ}
    {seen : List κ} {albums : List PublisherAlbumArtist}
    (hsorted : albums.Pairwise fun a b => a.feedGuid < b.feedGuid) :
    a ∈ dedupeBy key seen albums ↔
      (a ∈ albums ∧ ∀ b ∈ albums, key b = key a → a.feedGuid ≤ b.feedGuid) ∧ key a ∉ seen := by
  induction albums generalizing seen with
  | nil => simp [dedupeBy]
  | cons c albums ih =>
    obtain ⟨hfirst, hsorted⟩ := List.pairwise_cons.mp hsorted
    unfold dedupeBy
    split
    · rename_i hseen
      rw [ih hsorted]
      constructor
      · rintro ⟨⟨ha, hleast⟩, hnew⟩
        refine ⟨⟨List.mem_cons_of_mem _ ha, fun b hb hkey => ?_⟩, hnew⟩
        rcases List.mem_cons.mp hb with rfl | hb
        · exact absurd (hkey ▸ hseen) hnew
        · exact hleast b hb hkey
      · rintro ⟨⟨ha, hleast⟩, hnew⟩
        rcases List.mem_cons.mp ha with rfl | ha
        · exact absurd hseen hnew
        · exact ⟨⟨ha, fun b hb => hleast b (List.mem_cons_of_mem _ hb)⟩, hnew⟩
    · rename_i hseen
      rw [List.mem_cons, ih hsorted, List.mem_cons, not_or]
      constructor
      · rintro (rfl | ⟨⟨ha, hleast⟩, hkey, hnew⟩)
        · refine ⟨⟨List.mem_cons_self, fun b hb hkey => ?_⟩, hseen⟩
          rcases List.mem_cons.mp hb with rfl | hb
          · exact le_refl _
          · exact le_of_lt (hfirst b hb)
        · refine ⟨⟨List.mem_cons_of_mem _ ha, fun b hb hkey' => ?_⟩, hnew⟩
          rcases List.mem_cons.mp hb with rfl | hb
          · exact absurd hkey'.symm hkey
          · exact hleast b hb hkey'
      · rintro ⟨⟨ha, hleast⟩, hnew⟩
        rcases List.mem_cons.mp ha with rfl | ha
        · exact .inl rfl
        · by_cases hkey : key a = key c
          · have hle := hleast c List.mem_cons_self hkey.symm
            exact absurd (hfirst a ha) (not_lt_of_ge hle)
          · exact .inr ⟨⟨ha, fun b hb => hleast b (List.mem_cons_of_mem _ hb)⟩, hkey, hnew⟩

end Scan

section

variable [Platform]

/-- No album with the same normalized artist has a lower feed GUID. -/
def IsFirst (albums : List PublisherAlbumArtist) (a : PublisherAlbumArtist) : Prop :=
  a ∈ albums ∧ ∀ b ∈ albums, b.normalized = a.normalized → a.feedGuid ≤ b.feedGuid

theorem exists_isFirst {albums : List PublisherAlbumArtist} {a : PublisherAlbumArtist}
    (ha : a ∈ albums) : ∃ b, IsFirst albums b ∧ b.normalized = a.normalized := by
  obtain ⟨b, hb, hleast⟩ := Finset.exists_min_image
    (albums.filter fun b => b.normalized = a.normalized).toFinset PublisherAlbumArtist.feedGuid
    ⟨a, by simp [ha]⟩
  simp only [List.mem_toFinset, List.mem_filter, decide_eq_true_eq] at hb hleast
  refine ⟨b, ⟨hb.1, fun c hc hkey => hleast c ⟨hc, ?_⟩⟩, hb.2⟩
  rw [hkey, hb.2]

/-- The result counts the artists of the albums, and shows the first value of each. -/
structure CountsArtists (albums : List PublisherAlbumArtist) (result : Nat × List String) :
    Prop where
  count : result.1 = (albums.map PublisherAlbumArtist.normalized).dedup.length
  sorted : result.2.Pairwise fun a b => sortKey a < sortKey b
  shown : ∀ text, text ∈ result.2 ↔ ∃ a, IsFirst albums a ∧ a.releaseArtist = text

/-- The count of the feed is that of its music albums, in whatever order they are found. -/
structure CountsMusicAlbums (d : Db) (feedGuid : String) : Prop where
  counts : ∀ order, CountsArtists (linkedAlbums d feedGuid isMusic)
    (publisherArtistCount d order feedGuid)
  stable : ∀ order order',
    publisherArtistCount d order feedGuid = publisherArtistCount d order' feedGuid

/-- Each album of another medium that is the first of its artist shows the value of the first
music album of that artist. -/
def OthersAgree (d : Db) (feedGuid : String) : Prop :=
  ∀ a, IsFirst (linkedAlbums d feedGuid anyMedium) a → a ∉ linkedAlbums d feedGuid isMusic →
    ∃ b, IsFirst (linkedAlbums d feedGuid isMusic) b ∧ b.releaseArtist = a.releaseArtist

theorem publisherArtistCount_counts (d : Db) (order : HashOrder) (feedGuid : String) :
    CountsArtists (linkedAlbums d feedGuid anyMedium) (publisherArtistCount d order feedGuid) := by
  have hfirst : ∀ a, a ∈ dedupeBy PublisherAlbumArtist.normalized []
      (orderBy (compareOn PublisherAlbumArtist.feedGuid)
        (getPublisherAlbumReleaseArtists d order feedGuid)) ↔
      IsFirst (linkedAlbums d feedGuid anyMedium) a := by
    intro a
    rw [mem_dedupeBy_sorted (albums_sorted order)]
    simp only [mem_orderBy, mem_getPublisherAlbumReleaseArtists, IsFirst, List.not_mem_nil,
      not_false_eq_true, and_true]
  set firsts := dedupeBy PublisherAlbumArtist.normalized []
    (orderBy (compareOn PublisherAlbumArtist.feedGuid)
      (getPublisherAlbumReleaseArtists d order feedGuid))
  have hnodup : (firsts.map PublisherAlbumArtist.normalized).Nodup := (dedupeBy_nodup [] _).1
  have hresult : publisherArtistCount d order feedGuid =
      ((orderBy (compareOn PublisherAlbumArtist.normalized) firsts).length,
        (orderBy (compareOn PublisherAlbumArtist.normalized) firsts).map
          PublisherAlbumArtist.releaseArtist) := rfl
  refine ⟨?_, ?_, fun text => ?_⟩
  · -- each key has one first album
    rw [hresult, (orderBy_perm _ firsts).length_eq,
      ← @List.length_map _ _ firsts PublisherAlbumArtist.normalized]
    refine ((List.perm_ext_iff_of_nodup hnodup (List.nodup_dedup _)).mpr fun key => ?_).length_eq
    rw [List.mem_dedup, List.mem_map, List.mem_map]
    constructor
    · rintro ⟨a, ha, rfl⟩
      exact ⟨a, ((hfirst a).mp ha).1, rfl⟩
    · rintro ⟨a, ha, rfl⟩
      obtain ⟨b, hb, hkey⟩ := exists_isFirst ha
      exact ⟨b, (hfirst b).mpr hb, hkey⟩
  · rw [hresult, List.pairwise_map]
    refine List.Pairwise.imp (fun h => compare_lt_iff_lt.mp h)
      (@orderBy_strict _ (compareOn PublisherAlbumArtist.normalized) _ _ ?_ ?_)
    · exact hnodup.of_map _
    · intro a ha b hb hcmp
      exact List.inj_on_of_nodup_map hnodup ha hb (compare_eq_iff_eq.mp hcmp)
  · rw [hresult, List.mem_map]
    simp only [mem_orderBy, hfirst]

theorem publisherArtistCount_order (d : Db) (order order' : HashOrder) (feedGuid : String) :
    publisherArtistCount d order feedGuid = publisherArtistCount d order' feedGuid := by
  have hperm : (getPublisherAlbumReleaseArtists d order feedGuid).Perm
      (getPublisherAlbumReleaseArtists d order' feedGuid) := by
    apply (List.perm_ext_iff_of_nodup ((getPublisherAlbumReleaseArtists_nodup order).of_map _)
      ((getPublisherAlbumReleaseArtists_nodup order').of_map _)).mpr
    intro a
    rw [mem_getPublisherAlbumReleaseArtists, mem_getPublisherAlbumReleaseArtists]
  have hsame := @orderBy_eq_of_perm _ (compareOn PublisherAlbumArtist.feedGuid) _ _ _ hperm
    fun a ha b hb hcmp => by
      rw [mem_getPublisherAlbumReleaseArtists] at ha hb
      exact linkedAlbums_eq ha hb (compare_eq_iff_eq.mp hcmp)
  unfold publisherArtistCount
  rw [hsame]

theorem IsFirst.of_music {d : Db} {feedGuid : String} {a : PublisherAlbumArtist}
    (ha : IsFirst (linkedAlbums d feedGuid anyMedium) a) (hmusic : a ∈ linkedAlbums d feedGuid isMusic) :
    IsFirst (linkedAlbums d feedGuid isMusic) a := by
  refine ⟨hmusic, fun b hb => ha.2 b ?_⟩
  obtain ⟨f, hf, -, hb, hlink⟩ := mem_linkedAlbums.mp hb
  exact mem_linkedAlbums.mpr ⟨f, hf, rfl, hb, hlink⟩

theorem IsFirst.eq {d : Db} {feedGuid : String} {medium : Option String → Bool}
    {a b : PublisherAlbumArtist} (ha : IsFirst (linkedAlbums d feedGuid medium) a)
    (hb : IsFirst (linkedAlbums d feedGuid medium) b) (h : a.normalized = b.normalized) : a = b :=
  linkedAlbums_eq ha.1 hb.1 (le_antisymm (ha.2 b hb.1 h.symm) (hb.2 a ha.1 h))

/-- The count is that of the music albums when the other albums show the same values. -/
theorem countsMusicAlbums_iff (d : Db) (feedGuid : String) :
    CountsMusicAlbums d feedGuid ↔ OthersAgree d feedGuid := by
  have hall := fun order => publisherArtistCount_counts d order feedGuid
  constructor
  · intro h a ha _
    have order : HashOrder := ⟨id, fun _ => .refl _⟩
    have hshown := ((hall order).shown a.releaseArtist).mpr ⟨a, ha, rfl⟩
    exact ((h.counts order).shown a.releaseArtist).mp hshown
  · intro h
    -- the first album of a key shows the value of the first music album of that key
    have hmusic : ∀ a, IsFirst (linkedAlbums d feedGuid anyMedium) a →
        ∃ b, IsFirst (linkedAlbums d feedGuid isMusic) b ∧ b.releaseArtist = a.releaseArtist := by
      intro a ha
      by_cases hin : a ∈ linkedAlbums d feedGuid isMusic
      · exact ⟨a, ha.of_music hin, rfl⟩
      · exact h a ha hin
    have hback : ∀ b, IsFirst (linkedAlbums d feedGuid isMusic) b →
        ∃ a, IsFirst (linkedAlbums d feedGuid anyMedium) a ∧ a.releaseArtist = b.releaseArtist := by
      intro b hb
      obtain ⟨f, hf, -, hauthor, hlink⟩ := mem_linkedAlbums.mp hb.1
      have hany : b ∈ linkedAlbums d feedGuid anyMedium :=
        mem_linkedAlbums.mpr ⟨f, hf, rfl, hauthor, hlink⟩
      obtain ⟨a, ha, hkey⟩ := exists_isFirst hany
      obtain ⟨c, hc, htext⟩ := hmusic a ha
      have hsame : c.normalized = b.normalized := by
        rw [← hkey]
        exact congrArg sortKey htext
      rw [hc.eq hb hsame] at htext
      exact ⟨a, ha, htext.symm⟩
    refine ⟨fun order => ⟨?_, (hall order).sorted, fun text => ?_⟩,
      fun order order' => publisherArtistCount_order d order order' feedGuid⟩
    · rw [(hall order).count]
      refine ((List.perm_ext_iff_of_nodup (List.nodup_dedup _) (List.nodup_dedup _)).mpr
        fun key => ?_).length_eq
      simp only [List.mem_dedup, List.mem_map]
      constructor
      · rintro ⟨a, ha, rfl⟩
        obtain ⟨first, hfirst, hkey⟩ := exists_isFirst ha
        obtain ⟨b, hb, htext⟩ := hmusic first hfirst
        refine ⟨b, hb.1, ?_⟩
        rw [← hkey]
        exact congrArg sortKey htext
      · rintro ⟨b, hb, rfl⟩
        obtain ⟨f, hf, -, hauthor, hlink⟩ := mem_linkedAlbums.mp hb
        exact ⟨b, mem_linkedAlbums.mpr ⟨f, hf, rfl, hauthor, hlink⟩, rfl⟩
    · rw [(hall order).shown]
      constructor
      · rintro ⟨a, ha, rfl⟩
        exact hmusic a ha
      · rintro ⟨b, hb, rfl⟩
        exact hback b hb

end

section Sample

attribute [local instance] samplePlatform

/-- A track list names a publisher feed, and no album does. -/
def listedDb : Db where
  contents :=
    viewContents
      [viewFeed "p" "https://p.example" "publisher" none,
        viewFeed "l" "https://l.example" "musicL" (some "ana")]
      [viewItem "l" "p" "publisher" 0 none]
  valid := by decide +kernel

/-- The author of a track list counts as an artist of the publisher feed. -/
theorem listedDb_counted :
    ¬ CountsMusicAlbums listedDb "p" ∧
      publisherArtistCount listedDb ⟨id, fun _ => .refl _⟩ "p" = (1, ["ana"]) ∧
      linkedAlbums listedDb "p" isMusic = [] := by
  have hcount : publisherArtistCount listedDb ⟨id, fun _ => .refl _⟩ "p" = (1, ["ana"]) := by
    decide +kernel
  have hmusic : linkedAlbums listedDb "p" isMusic = [] := by decide +kernel
  refine ⟨fun h => ?_, hcount, hmusic⟩
  have hcounts := (h.counts ⟨id, fun _ => .refl _⟩).count
  rw [hcount, hmusic] at hcounts
  exact absurd hcounts (by decide)

end Sample

end Stophammer
