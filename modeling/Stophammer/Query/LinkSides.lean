import Stophammer.Query.NamedFeeds

/-!
# The two sides of a link

The link of an album and a publisher feed as the view of each shows it.  Each view pairs its own
items with the first item of the other side, so the two show the same rows when the items of
each side state one `rel`.
-/

namespace Stophammer

open Relational

/-- What a row says of the link. -/
structure LinkSummary where
  twoWay : Bool
  publisherRel : Option String
  musicRel : Option String
  role : Option String
  roleAgreement : Option RoleAgreement
deriving DecidableEq

def PublisherResponse.summary (row : PublisherResponse) : LinkSummary where
  twoWay := row.twoWayValidated
  publisherRel := row.publisherRel
  musicRel := row.musicRel
  role := row.role
  roleAgreement := row.roleAgreement

/-- The summary of two values of `rel`. -/
def summaryOf (twoWay : Bool) (publisherRel musicRel : Option String) : LinkSummary where
  twoWay := twoWay
  publisherRel := publisherRel
  musicRel := musicRel
  role := resolveRole publisherRel musicRel
  roleAgreement := roleAgreement publisherRel musicRel

def LinkSummary.confirmed (s : LinkSummary) : Bool :=
  s.twoWay && s.roleAgreement != some .conflict

section

variable (t : ListInputs) (album publisher : String)

def albumRows : List PublisherResponse :=
  (loadPublisher t album).filter fun row =>
    row.direction == .musicToPublisher && row.publisherFeedGuid == publisher

def publisherRows : List PublisherResponse :=
  (loadPublisher t publisher).filter fun row =>
    row.direction == .publisherToMusic && row.musicFeedGuid == album

/-- The items of the album that lead to the publisher feed. -/
def albumLinks : List ListedItem :=
  ((t.remoteItems album).filter fun item =>
    item.medium == some "publisher" && isAlbumPublisherLink item.source).filter fun item =>
      (item.resolve t).feedGuid == some publisher

/-- The items of the publisher feed that lead to the album. -/
def publisherLinks : List ListedItem :=
  ((t.remoteItems publisher).filter fun item => item.medium == some "music").filter fun item =>
    (item.resolve t).feedGuid == some album

def firstRel (links : List ListedItem) : Option String := links.head?.bind ListedItem.rel

/-- The items state one `rel`. -/
def OneRel (links : List ListedItem) : Prop := ∀ item ∈ links, item.rel = firstRel links

def albumSummaries : Set LinkSummary := { s | ∃ row ∈ albumRows t album publisher, row.summary = s }

def publisherSummaries : Set LinkSummary :=
  { s | ∃ row ∈ publisherRows t album publisher, row.summary = s }

end

variable {t : ListInputs} {album publisher : String}

theorem resolve_getD {item : ListedItem} (hindexed : t.feedGuidIsIndexed publisher = true) :
    (item.resolve t).feedGuid.getD item.remoteFeedGuid = publisher ↔
      (item.resolve t).feedGuid = some publisher := by
  constructor
  · intro h
    cases hguid : (item.resolve t).feedGuid with
    | some other => rw [← h, hguid, Option.getD_some]
    | none =>
      -- an item that declares a stored GUID is resolved
      rw [hguid, Option.getD_none] at h
      unfold ListedItem.resolve resolveListedFeed at hguid
      rw [h, if_pos hindexed] at hguid
      cases hguid
  · intro h
    rw [h, Option.getD_some]

theorem buildPublisherRow_names (current : ListedFeed) (items : List ListedItem)
    {item : ListedItem} (hmedium : item.medium = some "publisher")
    (hresolved : (item.resolve t).feedGuid = some publisher) :
    ∃ row, buildPublisherRow t current items item = some row ∧
      row.direction = .musicToPublisher ∧ row.publisherFeedGuid = publisher ∧
      row.summary = summaryOf (publisherLinks t current.feedGuid publisher).head?.isSome
        (firstRel (publisherLinks t current.feedGuid publisher)) item.rel := by
  have hdirection : publisherDirection item.medium = some .musicToPublisher := by
    rw [hmedium]
    rfl
  rw [buildPublisherRow, hdirection]
  refine ⟨_, rfl, rfl, ?_, ?_⟩
  · simp only [musicToPublisherFacts, hresolved, Option.getD_some]
  · simp only [PublisherResponse.summary, summaryOf, musicToPublisherFacts, hresolved,
      Option.bind_some, publisherLinks, firstRel, ← List.head?_filter, Bool.true_and]

theorem buildPublisherRow_lists (current : ListedFeed) (items : List ListedItem)
    {item : ListedItem} (hmedium : item.medium = some "music")
    (hresolved : (item.resolve t).feedGuid = some album) :
    ∃ row, buildPublisherRow t current items item = some row ∧
      row.direction = .publisherToMusic ∧ row.musicFeedGuid = album ∧
      row.summary = summaryOf (albumLinks t album current.feedGuid).head?.isSome item.rel
        (firstRel (albumLinks t album current.feedGuid)) := by
  have hdirection : publisherDirection item.medium = some .publisherToMusic := by
    rw [hmedium]
    rfl
  rw [buildPublisherRow, hdirection]
  refine ⟨_, rfl, rfl, ?_, ?_⟩
  · simp only [publisherToMusicFacts, hresolved, Option.getD_some]
  · simp only [PublisherResponse.summary, summaryOf, publisherToMusicFacts, hresolved,
      Option.map_some, Option.getD_some, albumLinks, firstRel, ← List.head?_filter, Bool.and_true]

section Views

variable (hindexed : t.feedGuidIsIndexed album = true)
  (hpublisher : t.feedGuidIsIndexed publisher = true)

include hindexed hpublisher

theorem albumSummaries_eq :
    albumSummaries t album publisher = { s | ∃ item ∈ albumLinks t album publisher,
      s = summaryOf (publisherLinks t album publisher).head?.isSome
        (firstRel (publisherLinks t album publisher)) item.rel } := by
  rw [← ListInputs.getFeed_isSome] at hindexed
  obtain ⟨current, hcurrent⟩ := Option.isSome_iff_exists.mp hindexed
  have hfound := List.find?_some hcurrent
  have hguid : current.feedGuid = album := beq_iff_eq.mp hfound
  ext s
  constructor
  · rintro ⟨row, hrow, rfl⟩
    obtain ⟨hrow, hnames⟩ := List.mem_filter.mp hrow
    rw [Bool.and_eq_true, beq_iff_eq, beq_iff_eq] at hnames
    obtain ⟨item, hitem, hlink, hbuild⟩ := (mem_loadPublisher hcurrent).mp hrow
    obtain ⟨direction, hdirection, rfl⟩ := Option.map_eq_some_iff.mp hbuild
    obtain ⟨hside, hnamed⟩ := hnames
    change direction = .musicToPublisher at hside
    subst hside
    have hmedium := publisherDirection_names hdirection
    have hresolved : (item.resolve t).feedGuid = some publisher := (resolve_getD hpublisher).mp hnamed
    obtain ⟨row, hrow, -, -, hsummary⟩ :=
      buildPublisherRow_names current (t.remoteItems album) hmedium hresolved
    rw [hbuild, Option.some.injEq] at hrow
    subst hrow
    rw [hguid] at hsummary
    refine ⟨item, List.mem_filter.mpr ⟨List.mem_filter.mpr ⟨hitem, ?_⟩, ?_⟩, hsummary⟩
    · rw [hmedium, hlink hmedium, beq_self_eq_true, Bool.and_self]
    · rw [hresolved, beq_self_eq_true]
  · rintro ⟨item, hitem, rfl⟩
    obtain ⟨hitem, hresolved⟩ := List.mem_filter.mp hitem
    obtain ⟨hitem, hlink⟩ := List.mem_filter.mp hitem
    rw [Bool.and_eq_true, beq_iff_eq] at hlink
    obtain ⟨row, hrow, hdirection, hnamed, hsummary⟩ :=
      buildPublisherRow_names current (t.remoteItems album) hlink.1
        (beq_iff_eq.mp hresolved)
    rw [hguid] at hsummary
    refine ⟨row, List.mem_filter.mpr ⟨?_, ?_⟩, hsummary⟩
    · exact (mem_loadPublisher hcurrent).mpr ⟨item, hitem, fun _ => hlink.2, hrow⟩
    · rw [hdirection, hnamed, beq_self_eq_true, beq_self_eq_true, Bool.and_self]

theorem publisherSummaries_eq :
    publisherSummaries t album publisher = { s | ∃ item ∈ publisherLinks t album publisher,
      s = summaryOf (albumLinks t album publisher).head?.isSome item.rel
        (firstRel (albumLinks t album publisher)) } := by
  rw [← ListInputs.getFeed_isSome] at hpublisher
  obtain ⟨current, hcurrent⟩ := Option.isSome_iff_exists.mp hpublisher
  have hfound := List.find?_some hcurrent
  have hguid : current.feedGuid = publisher := beq_iff_eq.mp hfound
  ext s
  constructor
  · rintro ⟨row, hrow, rfl⟩
    obtain ⟨hrow, hnames⟩ := List.mem_filter.mp hrow
    rw [Bool.and_eq_true, beq_iff_eq, beq_iff_eq] at hnames
    obtain ⟨item, hitem, -, hbuild⟩ := (mem_loadPublisher hcurrent).mp hrow
    obtain ⟨direction, hdirection, rfl⟩ := Option.map_eq_some_iff.mp hbuild
    obtain ⟨hside, hnamed⟩ := hnames
    change direction = .publisherToMusic at hside
    subst hside
    have hmedium := publisherDirection_lists hdirection
    have hresolved : (item.resolve t).feedGuid = some album := (resolve_getD hindexed).mp hnamed
    obtain ⟨row, hrow, -, -, hsummary⟩ :=
      buildPublisherRow_lists current (t.remoteItems publisher) hmedium
        hresolved
    rw [hbuild, Option.some.injEq] at hrow
    subst hrow
    rw [hguid] at hsummary
    refine ⟨item, List.mem_filter.mpr ⟨List.mem_filter.mpr ⟨hitem, ?_⟩, ?_⟩, hsummary⟩
    · rw [hmedium, beq_self_eq_true]
    · rw [hresolved, beq_self_eq_true]
  · rintro ⟨item, hitem, rfl⟩
    obtain ⟨hitem, hresolved⟩ := List.mem_filter.mp hitem
    obtain ⟨hitem, hmedium⟩ := List.mem_filter.mp hitem
    obtain ⟨row, hrow, hdirection, hnamed, hsummary⟩ :=
      buildPublisherRow_lists current (t.remoteItems publisher)
        (beq_iff_eq.mp hmedium) (beq_iff_eq.mp hresolved)
    rw [hguid] at hsummary
    refine ⟨row, List.mem_filter.mpr ⟨?_, ?_⟩, hsummary⟩
    · refine (mem_loadPublisher hcurrent).mpr ⟨item, hitem, fun hother => ?_, hrow⟩
      rw [beq_iff_eq.mp hmedium] at hother
      exact absurd hother (by decide)
    · rw [hdirection, hnamed, beq_self_eq_true, beq_self_eq_true, Bool.and_self]

end Views

theorem confirmed_iff {rows : List PublisherResponse} :
    (∃ row ∈ rows, isConfirmedLink row = true) ↔
      ∃ s, (∃ row ∈ rows, row.summary = s) ∧ s.confirmed = true := by
  constructor
  · rintro ⟨row, hrow, hconfirmed⟩
    exact ⟨row.summary, ⟨row, hrow, rfl⟩, hconfirmed⟩
  · rintro ⟨_, ⟨row, hrow, rfl⟩, hconfirmed⟩
    exact ⟨row, hrow, hconfirmed⟩

theorem oneRel_rows {links : List ListedItem} (hone : OneRel links) (hne : links ≠ [])
    (f : Option String → LinkSummary) :
    { s | ∃ item ∈ links, s = f item.rel } = {f (firstRel links)} := by
  ext s
  constructor
  · rintro ⟨item, hitem, rfl⟩
    rw [hone item hitem]
    rfl
  · rintro rfl
    obtain ⟨item, hitem⟩ := List.exists_mem_of_ne_nil links hne
    exact ⟨item, hitem, by rw [hone item hitem]⟩

section Sides

variable (hindexed : t.feedGuidIsIndexed album = true)
  (hpublisher : t.feedGuidIsIndexed publisher = true)

include hindexed hpublisher

theorem albumRows_twoWay : (∃ row ∈ albumRows t album publisher, row.twoWayValidated = true) ↔
    albumLinks t album publisher ≠ [] ∧ publisherLinks t album publisher ≠ [] := by
  have hsummaries := Set.ext_iff.mp (albumSummaries_eq hindexed hpublisher)
  constructor
  · rintro ⟨row, hrow, htwoWay⟩
    obtain ⟨item, hitem, hsummary⟩ := (hsummaries row.summary).mp ⟨row, hrow, rfl⟩
    refine ⟨List.ne_nil_of_mem hitem, List.isSome_head?.mp ?_⟩
    rw [← htwoWay]
    exact (congrArg LinkSummary.twoWay hsummary).symm
  · rintro ⟨halbum, hlists⟩
    obtain ⟨item, hitem⟩ := List.exists_mem_of_ne_nil _ halbum
    obtain ⟨row, hrow, hsummary⟩ := (hsummaries _).mpr ⟨item, hitem, rfl⟩
    refine ⟨row, hrow, (congrArg LinkSummary.twoWay hsummary).trans ?_⟩
    exact List.isSome_head?.mpr hlists

theorem publisherRows_twoWay :
    (∃ row ∈ publisherRows t album publisher, row.twoWayValidated = true) ↔
      albumLinks t album publisher ≠ [] ∧ publisherLinks t album publisher ≠ [] := by
  have hsummaries := Set.ext_iff.mp (publisherSummaries_eq hindexed hpublisher)
  constructor
  · rintro ⟨row, hrow, htwoWay⟩
    obtain ⟨item, hitem, hsummary⟩ := (hsummaries row.summary).mp ⟨row, hrow, rfl⟩
    refine ⟨List.isSome_head?.mp ?_, List.ne_nil_of_mem hitem⟩
    rw [← htwoWay]
    exact (congrArg LinkSummary.twoWay hsummary).symm
  · rintro ⟨halbum, hlists⟩
    obtain ⟨item, hitem⟩ := List.exists_mem_of_ne_nil _ hlists
    obtain ⟨row, hrow, hsummary⟩ := (hsummaries _).mpr ⟨item, hitem, rfl⟩
    refine ⟨row, hrow, (congrArg LinkSummary.twoWay hsummary).trans ?_⟩
    exact List.isSome_head?.mpr halbum

theorem summaries_eq_iff (halbum : albumLinks t album publisher ≠ [])
    (hlists : publisherLinks t album publisher ≠ []) :
    albumSummaries t album publisher = publisherSummaries t album publisher ↔
      OneRel (albumLinks t album publisher) ∧ OneRel (publisherLinks t album publisher) := by
  have hhead := List.isSome_head?.mpr halbum
  have hhead' := List.isSome_head?.mpr hlists
  rw [albumSummaries_eq hindexed hpublisher, publisherSummaries_eq hindexed hpublisher, hhead,
    hhead']
  constructor
  · intro hsame
    rw [Set.ext_iff] at hsame
    constructor
    · intro item hitem
      obtain ⟨other, _, hsummary⟩ := (hsame _).mp ⟨item, hitem, rfl⟩
      exact congrArg LinkSummary.musicRel hsummary
    · intro item hitem
      obtain ⟨other, _, hsummary⟩ := (hsame _).mpr ⟨item, hitem, rfl⟩
      exact congrArg LinkSummary.publisherRel hsummary
  · rintro ⟨hone, hone'⟩
    rw [oneRel_rows hone halbum (summaryOf true (firstRel (publisherLinks t album publisher))),
      oneRel_rows hone' hlists fun rel => summaryOf true rel (firstRel (albumLinks t album publisher))]

end Sides

/-- The two views agree that a link is two-way.  They show the same rows of it exactly when the
items of each side state one `rel`, and then they agree that it is confirmed. -/
theorem linkSides_agree (d : Db) {album publisher : String}
    (halbum : (listInputs d).feedGuidIsIndexed album = true)
    (hpublisher : (listInputs d).feedGuidIsIndexed publisher = true) :
    ((∃ row ∈ albumRows (listInputs d) album publisher, row.twoWayValidated = true) ↔
      ∃ row ∈ publisherRows (listInputs d) album publisher, row.twoWayValidated = true) ∧
    ((∃ row ∈ albumRows (listInputs d) album publisher, row.twoWayValidated = true) →
      (albumSummaries (listInputs d) album publisher =
          publisherSummaries (listInputs d) album publisher ↔
        OneRel (albumLinks (listInputs d) album publisher) ∧
          OneRel (publisherLinks (listInputs d) album publisher))) ∧
    (OneRel (albumLinks (listInputs d) album publisher) →
      OneRel (publisherLinks (listInputs d) album publisher) →
      ((∃ row ∈ albumRows (listInputs d) album publisher, isConfirmedLink row = true) ↔
        ∃ row ∈ publisherRows (listInputs d) album publisher, isConfirmedLink row = true)) := by
  have htwoWay := albumRows_twoWay halbum hpublisher
  refine ⟨htwoWay.trans (publisherRows_twoWay halbum hpublisher).symm, fun h => ?_, ?_⟩
  · obtain ⟨hitems, hlists⟩ := htwoWay.mp h
    exact summaries_eq_iff halbum hpublisher hitems hlists
  · intro hone hone'
    by_cases hboth : albumLinks (listInputs d) album publisher ≠ [] ∧
        publisherLinks (listInputs d) album publisher ≠ []
    · have hsame := (summaries_eq_iff halbum hpublisher hboth.1 hboth.2).mpr ⟨hone, hone'⟩
      rw [confirmed_iff, confirmed_iff]
      exact exists_congr fun s => and_congr_left' (Set.ext_iff.mp hsame s)
    · -- a confirmed row is two-way
      constructor
      · rintro ⟨row, hrow, hconfirmed⟩
        rw [isConfirmedLink, Bool.and_eq_true] at hconfirmed
        exact absurd (htwoWay.mp ⟨row, hrow, hconfirmed.1⟩) hboth
      · rintro ⟨row, hrow, hconfirmed⟩
        rw [isConfirmedLink, Bool.and_eq_true] at hconfirmed
        exact absurd ((publisherRows_twoWay halbum hpublisher).mp ⟨row, hrow, hconfirmed.1⟩) hboth

section Sample

/-- An album names a publisher feed with each of the `rel`s, and the feed lists the album as a
label. -/
def linkContents (rels : List String) : Contents schema :=
  viewContents
    [viewFeed "p" "https://p.example" "publisher" none,
      viewFeed "a" "https://a.example" "music" (some "ana")]
    ((rels.zipIdx.map fun (rel, position) => viewItem "a" "p" "publisher" position (some rel)) ++
      [viewItem "p" "a" "music" 0 (some "label")])

def twoItemsDb : Db where
  contents := linkContents ["artist", "label"]
  valid := by decide +kernel

/-- The album shows a confirmed link, and the publisher feed a conflict. -/
theorem twoItemsDb_sides :
    (∃ row ∈ albumRows (listInputs twoItemsDb) "a" "p", isConfirmedLink row = true) ∧
      ¬ ∃ row ∈ publisherRows (listInputs twoItemsDb) "a" "p", isConfirmedLink row = true := by
  decide +kernel

/-- Both items of the album state the same `rel`. -/
def oneRelDb : Db where
  contents := linkContents ["label", "label"]
  valid := by decide +kernel

theorem oneRelDb_oneRel : OneRel (albumLinks (listInputs oneRelDb) "a" "p") ∧
    OneRel (publisherLinks (listInputs oneRelDb) "a" "p") := by
  unfold OneRel
  decide +kernel

theorem linkSides_agree_sample :
    ((∃ row ∈ publisherRows (listInputs twoItemsDb) "a" "p", row.twoWayValidated = true) ∧
      albumSummaries (listInputs twoItemsDb) "a" "p" ≠
        publisherSummaries (listInputs twoItemsDb) "a" "p") ∧
    albumSummaries (listInputs oneRelDb) "a" "p" =
      publisherSummaries (listInputs oneRelDb) "a" "p" ∧
    ∃ row ∈ publisherRows (listInputs oneRelDb) "a" "p", isConfirmedLink row = true := by
  have hindexed : ((listInputs twoItemsDb).feedGuidIsIndexed "a" = true ∧
      (listInputs twoItemsDb).feedGuidIsIndexed "p" = true) ∧
      (listInputs oneRelDb).feedGuidIsIndexed "a" = true ∧
      (listInputs oneRelDb).feedGuidIsIndexed "p" = true := by
    decide +kernel
  have hmixed : ∃ item ∈ albumLinks (listInputs twoItemsDb) "a" "p",
      item.rel ≠ firstRel (albumLinks (listInputs twoItemsDb) "a" "p") := by
    decide +kernel
  have hrows : (∃ row ∈ albumRows (listInputs twoItemsDb) "a" "p", row.twoWayValidated = true) ∧
      ∃ row ∈ albumRows (listInputs oneRelDb) "a" "p",
        row.twoWayValidated = true ∧ isConfirmedLink row = true := by
    decide +kernel
  obtain ⟨htwo, row, hrow, htwoWay, hconfirmed⟩ := hrows
  obtain ⟨hboth, hsame, -⟩ := linkSides_agree twoItemsDb hindexed.1.1 hindexed.1.2
  obtain ⟨-, hsame', hconfirms⟩ := linkSides_agree oneRelDb hindexed.2.1 hindexed.2.2
  refine ⟨⟨hboth.mp htwo, fun heq => ?_⟩, (hsame' ⟨row, hrow, htwoWay⟩).mpr oneRelDb_oneRel,
    (hconfirms oneRelDb_oneRel.1 oneRelDb_oneRel.2).mp ⟨row, hrow, hconfirmed⟩⟩
  obtain ⟨item, hitem, hne⟩ := hmixed
  exact hne (((hsame htwo).mp heq).1 item hitem)

end Sample

end Stophammer
