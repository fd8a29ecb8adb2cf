import Stophammer.Query.Cursor
import Stophammer.Query.Recent

/-!
# The tracks of an artist

The list of `GET /v1/tracks`, newest first.  The query folds the stored name in the ASCII range
and the request in the whole of Unicode, and its key is not unique: two feeds can hold tracks of
one GUID and one time.
-/

namespace Stophammer

open Relational Paging

/-- The time and the GUID of a track.  The time is a decimal number in the text of a cursor, so
the two parts are read back from it. -/
abbrev TrackCursor : Type := Int × String

def trackPosition (t : Track) : TrackCursor := (t.createdAt, t.trackGuid)

/-- Newest first. -/
def compareTracks (a b : Track) : Ordering := compareKeys (trackPosition b) (trackPosition a)

/-- `lower(track_artist) = artistLower`. -/
def hasLowerArtist (artistLower : String) (t : Track) : Bool :=
  t.trackArtist.map toAsciiLowercase == some artistLower

section

variable [Platform]

/-- The columns of the feed are left out: the join gives each track once. -/
def handleArtistTracks (d : Db) (artist : String) (limit : Option Int)
    (cursor : Option TrackCursor) : Page Track TrackCursor :=
  let artistLower := toLowercase artist
  let rows := (orderBy compareTracks ((d .tracks).filter fun t : Track =>
    hasLowerArtist artistLower t &&
      cursor.all fun c => compareKeys (trackPosition t) c == .lt)).take (cappedLimit limit + 1)
  { items := rows.take (cappedLimit limit)
    next :=
      if cappedLimit limit < rows.length then (rows.take (cappedLimit limit)).getLast?.map trackPosition
      else none }

/-- The artist of the track is the requested text, whatever the case of either. -/
def isByArtist (artist : String) (t : Track) : Bool :=
  t.trackArtist.map toLowercase == some (toLowercase artist)

/-- The requests from the first page on give each track of the artist once. -/
def TracksPaged (d : Db) (artist : String) (limit : Option Int) : Prop :=
  ∃ rows, Walk (handleArtistTracks d artist limit) none rows ∧
    rows.Perm ((d .tracks).filter fun t : Track => isByArtist artist t)

/-- Unicode lowercase includes ASCII lowercase, and a second time changes nothing. -/
class LawfulLowercase : Prop where
  ascii : ∀ text : String, toLowercase (toAsciiLowercase text) = toLowercase text
  again : ∀ text : String, toLowercase (toLowercase text) = toLowercase text

/-- The tracks that the query finds, newest first. -/
def artistTracks (d : Db) (artist : String) : List Track :=
  orderBy compareTracks ((d .tracks).filter fun t : Track => hasLowerArtist (toLowercase artist) t)

/-- The tracks after a cursor. -/
def artistTracksRest (d : Db) (artist : String) (cursor : Option TrackCursor) : List Track :=
  (artistTracks d artist).filter fun t => cursor.all fun c => compareKeys (trackPosition t) c == .lt

variable {d : Db} {artist : String} {limit : Option Int}

instance : Std.TransCmp compareTracks where
  eq_swap := @fun _ _ => @Std.OrientedCmp.eq_swap _ compareKeys _ _ _
  isLE_trans hab hbc := @Std.TransCmp.isLE_trans _ compareKeys _ _ _ _ hbc hab

theorem handleArtistTracks_eq (cursor : Option TrackCursor) :
    handleArtistTracks d artist limit cursor =
      pageOf (cappedLimit limit) trackPosition (artistTracksRest d artist cursor) := by
  rw [← pageOf_take, artistTracksRest, artistTracks, ← orderBy_filter, List.filter_filter]
  simp only [Bool.and_comm]
  rfl

theorem artistTracksRest_behind {cursor : Option TrackCursor} {front back : List Track} {t : Track}
    (h : artistTracksRest d artist cursor = front ++ t :: back) :
    artistTracksRest d artist (some (trackPosition t)) =
      back.filter fun t' => compareKeys (trackPosition t') (trackPosition t) == .lt := by
  refine @filter_lt_behind _ compareTracks _ _ _ _ _ _ (orderBy_pairwise _)
    (fun a b hab ha => ?_) h
  cases cursor with
  | none => rfl
  | some c =>
    rw [Option.all_some, beq_iff_eq] at ha ⊢
    exact Std.TransCmp.lt_trans hab ha

theorem artistTracksRest_none : artistTracksRest d artist none = artistTracks d artist :=
  List.filter_eq_self.mpr fun _ _ => rfl

theorem artistTracksRest_border {front back : List Track} {t : Track}
    (hlist : artistTracks d artist = front ++ t :: back)
    (hkey : ∀ next ∈ back, trackPosition next ≠ trackPosition t) :
    artistTracksRest d artist (some (trackPosition t)) = back := by
  rw [artistTracksRest_behind (artistTracksRest_none.trans hlist), List.filter_eq_self]
  intro next hnext
  have hsorted : (artistTracks d artist).Pairwise fun a b => (compareTracks a b).isLE :=
    orderBy_pairwise _
  rw [hlist] at hsorted
  obtain ⟨-, hback, -⟩ := List.pairwise_append.mp hsorted
  have hle : (compareKeys (trackPosition next) (trackPosition t)).isLE :=
    (List.pairwise_cons.mp hback).1 next hnext
  cases hcmp : compareKeys (trackPosition next) (trackPosition t) with
  | lt => rfl
  | eq =>
    obtain ⟨htime, hguid⟩ := compareLex_eq_eq.mp hcmp
    exact absurd (Prod.ext (Std.compare_eq_iff_eq.mp htime) (Std.compare_eq_iff_eq.mp hguid))
      (hkey next hnext)
  | gt =>
    rw [hcmp] at hle
    cases hle

theorem hasLowerArtist.isByArtist [LawfulLowercase] {t : Track}
    (h : hasLowerArtist (toLowercase artist) t = true) : isByArtist artist t = true := by
  rw [hasLowerArtist, beq_iff_eq, Option.map_eq_some_iff] at h
  obtain ⟨stored, hstored, hlower⟩ := h
  rw [Stophammer.isByArtist, hstored, Option.map_some, beq_iff_eq, Option.some.injEq,
    ← LawfulLowercase.ascii stored, hlower, LawfulLowercase.again]

theorem tracksPaged_iff [LawfulLowercase] : TracksPaged d artist limit ↔
    (∀ t ∈ d .tracks, isByArtist artist t = true →
      hasLowerArtist (toLowercase artist) t = true) ∧
    ∀ t back, Border (cappedLimit limit) (artistTracks d artist) t back →
      ∀ next ∈ back, trackPosition next ≠ trackPosition t := by
  have hpage : handleArtistTracks d artist limit =
      fun c => pageOf (cappedLimit limit) trackPosition (artistTracksRest d artist c) :=
    funext handleArtistTracks_eq
  have hfound : (artistTracks d artist).Perm
      ((d .tracks).filter fun t : Track => hasLowerArtist (toLowercase artist) t) :=
    orderBy_perm _ _
  constructor
  · rintro ⟨rows, hwalk, hperm⟩
    rw [hpage] at hwalk
    have hsub : ∀ {c rows}, Walk (fun c => pageOf (cappedLimit limit) trackPosition
        (artistTracksRest d artist c)) c rows → rows.Sublist (artistTracksRest d artist c) :=
      fun h => h.sublist fun c front t back hrest => by
        rw [artistTracksRest_behind hrest]
        exact List.filter_sublist
    have hrows := hsub hwalk
    rw [artistTracksRest_none] at hrows
    -- the query finds no track but those of the artist, so the walk gave all that it finds
    have hlength : (artistTracks d artist).length ≤ rows.length := by
      rw [hfound.length_eq, hperm.length_eq]
      exact (List.monotone_filter_right _ fun t ht => hasLowerArtist.isByArtist ht).length_le
    have hall := hrows.eq_of_length_le hlength
    subst hall
    refine ⟨fun t ht hby => ?_, fun t back hborder next hnext hsame => ?_⟩
    · have hmem := hfound.mem_iff.mp (hperm.mem_iff.mpr (List.mem_filter.mpr ⟨ht, hby⟩))
      exact (List.mem_filter.mp hmem).2
    · have hmem := (hsub (hwalk.at_border hborder)).subset hnext
      have hless := (List.mem_filter.mp hmem).2
      have hself : compareKeys (trackPosition t) (trackPosition t) = .eq := Std.ReflCmp.compare_self
      rw [Option.all_some, hsame, hself] at hless
      cases hless
  · rintro ⟨hcase, hkeys⟩
    refine ⟨artistTracks d artist, ?_, hfound.trans ?_⟩
    · rw [hpage]
      apply walk_pages (cappedLimit_pos _)
      · intro t back hborder
        obtain ⟨front, hlist, -⟩ := hborder.split
        exact artistTracksRest_border hlist (hkeys t back hborder)
      · exact artistTracksRest_none
    · rw [List.filter_congr fun t ht => Bool.eq_iff_iff.mpr
        ⟨fun h => hasLowerArtist.isByArtist h, hcase t ht⟩]

end

section Sample

/-- Lowercase of the ASCII letters and of one other. -/
def toLowerAccent (c : Char) : Char := if c = 'É' then 'é' else toAsciiLower c

@[reducible] def accentPlatform : Platform :=
  { samplePlatform with
    toLowercase := fun text => String.ofList (text.toList.map toLowerAccent) }

attribute [local instance] accentPlatform

theorem upper_eq_ofNat {c : Char} (h : 'A' ≤ c ∧ c ≤ 'Z') :
    ∃ n : Fin 26, c = Char.ofNat (n.val + 65) := by
  have hlow : 65 ≤ c.toNat := h.1
  have hhigh : c.toNat ≤ 90 := h.2
  refine ⟨⟨c.toNat - 65, by omega⟩, ?_⟩
  rw [show c.toNat - 65 + 65 = c.toNat by omega, Char.ofNat_toNat]

theorem toLowerAccent_ascii (c : Char) : toLowerAccent (toAsciiLower c) = toLowerAccent c := by
  by_cases h : 'A' ≤ c ∧ c ≤ 'Z'
  · obtain ⟨n, rfl⟩ := upper_eq_ofNat h
    revert n
    decide
  · rw [toAsciiLower, if_neg h]

theorem toLowerAccent_again (c : Char) : toLowerAccent (toLowerAccent c) = toLowerAccent c := by
  by_cases hc : c = 'É'
  · subst hc
    decide
  · rw [show toLowerAccent c = toAsciiLower c from if_neg hc, toLowerAccent_ascii]
    exact if_neg hc

instance : LawfulLowercase where
  ascii text := by
    simp only [toLowercase, toAsciiLowercase, String.toList_ofList, List.map_map]
    rw [show toLowerAccent ∘ toAsciiLower = toLowerAccent from funext toLowerAccent_ascii]
  again text := by
    simp only [toLowercase, String.toList_ofList, List.map_map]
    rw [show toLowerAccent ∘ toLowerAccent = toLowerAccent from funext toLowerAccent_again]

def trackOf (feedGuid trackArtist : String) : Track where
  trackGuid := "t"
  feedGuid := feedGuid
  title := "Song"
  titleLower := "song"
  pubDate := none
  durationSecs := none
  enclosureUrl := none
  enclosureType := none
  enclosureBytes := none
  trackNumber := none
  season := none
  imageUrl := none
  publisher := none
  language := none
  explicit := false
  description := none
  trackArtist := some trackArtist
  trackArtistSort := none
  createdAt := 7
  updatedAt := 7

/-- Two feeds with a track of one GUID each, that came in the same second. -/
def trackContents (trackArtist : String) : Contents schema
  | .feeds =>
    [viewFeed "f" "https://f.example" "music" none, viewFeed "g" "https://g.example" "music" none]
  | .tracks => [trackOf "f" trackArtist, trackOf "g" trackArtist]
  | _ => []

def twinsDb : Db where
  contents := trackContents "Nia"
  valid := by decide +kernel

def accentDb : Db where
  contents := trackContents "É"
  valid := by decide +kernel

theorem tracksPaged_sample : TracksPaged twinsDb "NIA" none := by
  refine tracksPaged_iff.mpr ⟨by decide +kernel, fun t back hborder => ?_⟩
  -- both tracks are on the first page
  obtain ⟨⟨front, hlist, hdvd⟩, hback⟩ := hborder.split, hborder.left
  have hlength : (artistTracks twinsDb "NIA").length = 2 := by decide +kernel
  rw [hlist, List.length_append, List.length_cons] at hlength
  have hle := Nat.le_of_dvd (Nat.succ_pos _) hdvd
  have hlimit : cappedLimit none = 50 := rfl
  omega

/-- One of two tracks with one key is lost between two pages, and no track of a name with another
letter is found. -/
theorem twinsDb_lost : ¬ TracksPaged twinsDb "Nia" (some 1) ∧ ¬ TracksPaged accentDb "É" none := by
  constructor
  · intro h
    have hlist : artistTracks twinsDb "Nia" = [trackOf "f" "Nia", trackOf "g" "Nia"] := by
      decide +kernel
    have hborder : Border (cappedLimit (some 1)) (artistTracks twinsDb "Nia") (trackOf "f" "Nia")
        [trackOf "g" "Nia"] := by
      rw [hlist]
      exact ⟨⟨[], rfl, one_dvd _⟩, by simp⟩
    exact (tracksPaged_iff.mp h).2 _ _ hborder _ List.mem_cons_self rfl
  · intro h
    have hcase := (tracksPaged_iff.mp h).1 (trackOf "f" "É") List.mem_cons_self
    revert hcase
    decide +kernel

end Sample

end Stophammer
