import Stophammer.Schema

/-!
# Content of a feed

The statements that write a feed row, a track row and the child sets of both, and
the reads of them.
-/

namespace Stophammer

open Relational Statement

section

variable [Platform]

def upsertFeed (feed : Feed) : Stmt Unit :=
  upsert .feeds (fun r : FeedRow => r.feed.feedGuid == feed.feedGuid)
    { feed := feed
      declaredSelfUrl := none
      declaredNewFeedUrl := none
      podcastLocked := none
      lockedOwner := none
      titleSort := some (sortKey feed.title)
      feedHost := some (feedHostOf feed.feedUrl) }
    (fun r : FeedRow =>
      { r with
        feed := { feed with createdAt := r.feed.createdAt }
        titleSort := some (sortKey feed.title)
        feedHost := some (feedHostOf feed.feedUrl) })

end

def upsertTrack (track : Track) : Stmt Unit :=
  upsert .tracks
    (fun r : Track => r.feedGuid == track.feedGuid && r.trackGuid == track.trackGuid) track
    (fun r : Track => { track with createdAt := r.createdAt })

def getFeedByGuid (d : Db) (feedGuid : String) : Option Feed :=
  ((d .feeds).find? fun r : FeedRow => r.feed.feedGuid == feedGuid).map FeedRow.feed

def getTrackForFeed (d : Db) (feedGuid trackGuid : String) : Option Track :=
  (d .tracks).find? fun r : Track => r.feedGuid == feedGuid && r.trackGuid == trackGuid

/-- An item with no start stands at the time of its row. -/
def getLiveEventsForFeed (d : Db) (feedGuid : String) : List LiveEvent :=
  orderBy
    (compareLex (compareOn fun e => e.scheduledStart.getD e.createdAt)
      (compareOn LiveEvent.liveItemGuid))
    ((d .liveEvents).filter fun r : LiveEvent => r.feedGuid == feedGuid)

/-- A column that holds the empty text for no value, as a read gives it. -/
def nullif (value : Option String) : Option String := value.filter (· != "")

def paymentRouteRow (feedGuid trackGuid : String) (r : PaymentRoute) : PaymentRoute :=
  { r with
    feedGuid := feedGuid
    trackGuid := trackGuid
    customKey := nullif r.customKey
    customValue := nullif r.customValue }

def replacePaymentRoutes (trackGuid : String) (routes : List PaymentRoute) : Stmt Unit :=
  replaceRows .paymentRoutes (fun r : PaymentRoute => r.trackGuid == trackGuid)
    (routes.map fun r => paymentRouteRow r.feedGuid r.trackGuid r)

def replacePaymentRoutesForFeedTrack (feedGuid trackGuid : String) (routes : List PaymentRoute) :
    Stmt Unit :=
  replaceRows .paymentRoutes
    (fun r : PaymentRoute => r.feedGuid == feedGuid && r.trackGuid == trackGuid)
    (routes.map (paymentRouteRow feedGuid trackGuid))

def feedPaymentRouteRow (r : FeedPaymentRoute) : FeedPaymentRoute :=
  { r with customKey := nullif r.customKey, customValue := nullif r.customValue }

def replaceFeedPaymentRoutes (feedGuid : String) (routes : List FeedPaymentRoute) : Stmt Unit :=
  replaceRows .feedPaymentRoutes (fun r : FeedPaymentRoute => r.feedGuid == feedGuid)
    (routes.map feedPaymentRouteRow)

def feedListValueRow (v : FeedListValueRaw) : FeedListValueRaw :=
  { v with customKey := nullif v.customKey, customValue := nullif v.customValue }

def replaceFeedListValueRaw (feedGuid : String) (listValues : List FeedListValueRaw) :
    Stmt Unit :=
  replaceRows .feedListValueRaw (fun v : FeedListValueRaw => v.feedGuid == feedGuid)
    (listValues.map feedListValueRow)

/-- The splits that belong to a track: an old row can name no feed. -/
def isSplitOf (feedGuid trackGuid : String) (s : ValueTimeSplitRow) : Bool :=
  s.sourceTrackGuid == trackGuid &&
    (s.sourceFeedGuid == some feedGuid || s.sourceFeedGuid == none)

def valueTimeSplitRow (feedGuid trackGuid : String) (s : ValueTimeSplit) : ValueTimeSplitRow where
  sourceFeedGuid := some feedGuid
  sourceTrackGuid := trackGuid
  position := s.position
  form := s.form
  startTimeSecs := s.startTimeSecs
  durationSecs := s.durationSecs
  remoteFeedGuid := s.remoteFeedGuid
  remoteItemGuid := s.remoteItemGuid
  remoteStartTimeSecs := s.remoteStartTimeSecs
  remotePercentage := s.remotePercentage
  recipients := []
  createdAt := s.createdAt

def addRecipient (r : ValueTimeSplitRecipient) (s : ValueTimeSplitRow) : ValueTimeSplitRow :=
  { s with
    recipients := s.recipients ++
      [{ r with customKey := nullif r.customKey, customValue := nullif r.customValue }] }

/-- Each recipient row goes to the split of the last rowid. -/
def insertValueTimeSplit (feedGuid trackGuid : String) (s : ValueTimeSplit) : Stmt Unit := do
  insert .valueTimeSplits (valueTimeSplitRow feedGuid trackGuid s)
  forEach (fun r => updateLast .valueTimeSplits (addRecipient r)) s.recipients

def replaceValueTimeSplitsForFeedTrack (sourceFeedGuid sourceTrackGuid : String)
    (splits : List ValueTimeSplit) : Stmt Unit := do
  delete .valueTimeSplits (isSplitOf sourceFeedGuid sourceTrackGuid)
  forEach (fun s : ValueTimeSplit =>
    insertValueTimeSplit (if s.sourceFeedGuid.isEmpty then sourceFeedGuid else s.sourceFeedGuid)
      sourceTrackGuid s) splits

theorem replaceValueTimeSplitsForFeedTrack_writes {sourceFeedGuid sourceTrackGuid : String}
    {splits : List ValueTimeSplit} :
    Writes [Table.valueTimeSplits]
      (replaceValueTimeSplitsForFeedTrack sourceFeedGuid sourceTrackGuid splits) := by
  apply (Writes.delete (by decide)).bind
  intro _
  apply Writes.forEach
  intro s
  apply (Writes.insert (by decide)).bind
  intro _
  exact Writes.forEach fun _ => Writes.updateLast (by decide)

def replaceFeedRemoteItemsRaw (feedGuid : String) (remoteItems : List FeedRemoteItemRaw) :
    Stmt Unit :=
  replaceRows .feedRemoteItemsRaw (fun r : FeedRemoteItemRaw => r.feedGuid == feedGuid) remoteItems

def trackRemoteItemRow (feedGuid : Option String) (trackGuid : String) (r : TrackRemoteItemRaw) :
    TrackRemoteItemRow where
  feedGuid := feedGuid
  trackGuid := trackGuid
  position := r.position
  medium := r.medium
  remoteFeedGuid := r.remoteFeedGuid
  remoteFeedUrl := r.remoteFeedUrl
  rel := r.rel
  source := r.source

def replaceTrackRemoteItemsRaw (trackGuid : String) (remoteItems : List TrackRemoteItemRaw) :
    Stmt Unit :=
  replaceRows .trackRemoteItemsRaw (fun r : TrackRemoteItemRow => r.trackGuid == trackGuid)
    (remoteItems.map fun r => trackRemoteItemRow none r.trackGuid r)

def isTrackRemoteItemOf (feedGuid trackGuid : String) (r : TrackRemoteItemRow) : Bool :=
  r.trackGuid == trackGuid && (r.feedGuid == some feedGuid || r.feedGuid == none)

def replaceTrackRemoteItemsRawForFeedTrack (feedGuid trackGuid : String)
    (remoteItems : List TrackRemoteItemRaw) : Stmt Unit :=
  replaceRows .trackRemoteItemsRaw (isTrackRemoteItemOf feedGuid trackGuid)
    (remoteItems.map fun r =>
      trackRemoteItemRow (some (if r.feedGuid.isEmpty then feedGuid else r.feedGuid)) trackGuid r)

/-- The first element of each key, in order. -/
def dedupeBy {α κ : Type} [DecidableEq κ] (key : α → κ) : List κ → List α → List α
  | _, [] => []
  | seen, a :: as =>
    if key a ∈ seen then dedupeBy key seen as else a :: dedupeBy key (key a :: seen) as

section Dedupe

variable {α κ : Type} [DecidableEq κ] {key : α → κ}

theorem dedupeBy_congr {seen seen' : List κ} (h : ∀ k, k ∈ seen ↔ k ∈ seen') (as : List α) :
    dedupeBy key seen as = dedupeBy key seen' as := by
  induction as generalizing seen seen' with
  | nil => rfl
  | cons a as ih =>
    unfold dedupeBy
    by_cases ha : key a ∈ seen
    · rw [if_pos ha, if_pos ((h _).mp ha)]
      exact ih h
    · rw [if_neg ha, if_neg fun ha' => ha ((h _).mpr ha')]
      congr 1
      apply ih
      intro k
      rw [List.mem_cons, List.mem_cons, h k]

theorem dedupeBy_sublist (seen : List κ) (as : List α) : (dedupeBy key seen as).Sublist as := by
  induction as generalizing seen with
  | nil => exact List.Sublist.refl []
  | cons a as ih =>
    unfold dedupeBy
    split
    · exact (ih seen).cons a
    · exact (ih (key a :: seen)).cons_cons a

theorem mem_of_mem_dedupeBy {seen : List κ} {as : List α} {a : α}
    (h : a ∈ dedupeBy key seen as) : a ∈ as := (dedupeBy_sublist seen as).subset h

theorem mem_dedupeBy_split {seen : List κ} {as : List α} {a : α} :
    a ∈ dedupeBy key seen as ↔
      ∃ front back, as = front ++ a :: back ∧ key a ∉ seen ∧ ∀ b ∈ front, key b ≠ key a := by
  induction as generalizing seen with
  | nil => simp [dedupeBy]
  | cons first as ih =>
    have hlater : (∃ front back, first :: as = front ++ a :: back ∧ key a ∉ seen ∧
        ∀ b ∈ front, key b ≠ key a) ↔
          (first = a ∧ key a ∉ seen) ∨ (key first ≠ key a ∧
            ∃ front back, as = front ++ a :: back ∧ key a ∉ seen ∧ ∀ b ∈ front, key b ≠ key a) := by
      constructor
      · rintro ⟨front, back, has, hseen, hfront⟩
        cases front with
        | nil => exact .inl ⟨(List.cons.inj has).1, hseen⟩
        | cons b front =>
          obtain ⟨rfl, rfl⟩ := List.cons.inj has
          obtain ⟨hb, hfront⟩ := List.forall_mem_cons.mp hfront
          exact .inr ⟨hb, front, back, rfl, hseen, hfront⟩
      · rintro (⟨rfl, hseen⟩ | ⟨hfirst, front, back, rfl, hseen, hfront⟩)
        · exact ⟨[], as, rfl, hseen, List.forall_mem_nil _⟩
        · exact ⟨first :: front, back, rfl, hseen, List.forall_mem_cons.mpr ⟨hfirst, hfront⟩⟩
    rw [hlater, dedupeBy]
    split
    · rename_i hold
      rw [ih]
      constructor
      · rintro ⟨front, back, has, hseen, hfront⟩
        exact .inr ⟨fun h => hseen (h ▸ hold), front, back, has, hseen, hfront⟩
      · rintro (⟨rfl, hseen⟩ | ⟨-, h⟩)
        · exact absurd hold hseen
        · exact h
    · rename_i hnew
      rw [List.mem_cons, ih]
      constructor
      · rintro (rfl | ⟨front, back, has, hseen, hfront⟩)
        · exact .inl ⟨rfl, hnew⟩
        · obtain ⟨hfirst, hseen⟩ := not_or.mp (mt List.mem_cons.mpr hseen)
          exact .inr ⟨Ne.symm hfirst, front, back, has, hseen, hfront⟩
      · rintro (⟨rfl, -⟩ | ⟨hfirst, front, back, has, hseen, hfront⟩)
        · exact .inl rfl
        · exact .inr ⟨front, back, has,
            mt List.mem_cons.mp (not_or.mpr ⟨Ne.symm hfirst, hseen⟩), hfront⟩

theorem dedupeBy_nodup (seen : List κ) (as : List α) :
    ((dedupeBy key seen as).map key).Nodup ∧ ∀ a ∈ dedupeBy key seen as, key a ∉ seen := by
  induction as generalizing seen with
  | nil => exact ⟨List.nodup_nil, List.forall_mem_nil _⟩
  | cons a as ih =>
    unfold dedupeBy
    split
    · exact ih seen
    · rename_i ha
      obtain ⟨hnodup, hnew⟩ := ih (key a :: seen)
      refine ⟨List.nodup_cons.mpr ⟨fun hmem => ?_, hnodup⟩, fun b hb => ?_⟩
      · obtain ⟨b, hb, hkey⟩ := List.mem_map.mp hmem
        exact hnew b hb (by simp [hkey])
      · rcases List.mem_cons.mp hb with rfl | hb
        · exact ha
        · exact fun hseen => hnew b hb (List.mem_cons_of_mem _ hseen)

end Dedupe

def dedupeLiveEvents : List LiveEvent → List LiveEvent :=
  dedupeBy LiveEvent.liveItemGuid []

def dedupeSourceContributorClaims : List SourceContributorClaim → List SourceContributorClaim :=
  dedupeBy (fun c => (c.feedGuid, c.entityType, c.entityId, c.position, c.source)) []

def dedupeSourceEntityLinks : List SourceEntityLink → List SourceEntityLink :=
  dedupeBy (fun l => (l.feedGuid, l.entityType, l.entityId, l.linkType, l.url)) []

def dedupeSourceEntityIds : List SourceEntityIdClaim → List SourceEntityIdClaim :=
  dedupeBy (fun c => (c.feedGuid, c.entityType, c.entityId, c.scheme, c.value)) []

def dedupeSourceReleaseClaims : List SourceReleaseClaim → List SourceReleaseClaim :=
  dedupeBy (fun c => (c.feedGuid, c.entityType, c.entityId, c.claimType, c.position)) []

def dedupeSourceItemEnclosures : List SourceItemEnclosure → List SourceItemEnclosure :=
  dedupeBy (fun e => (e.feedGuid, e.entityType, e.entityId, e.position, e.url)) []

def dedupeSourceItemTranscripts : List SourceItemTranscript → List SourceItemTranscript :=
  dedupeBy (fun t => (t.feedGuid, t.entityType, t.entityId, t.position, t.url)) []

def replaceLiveEventsForFeed (feedGuid : String) (liveEvents : List LiveEvent) : Stmt Unit :=
  replaceRows .liveEvents (fun r : LiveEvent => r.feedGuid == feedGuid)
    (dedupeLiveEvents liveEvents)

def replaceSourceContributorClaimsForFeed (feedGuid : String)
    (claims : List SourceContributorClaim) : Stmt Unit :=
  replaceRows .sourceContributorClaims (fun r : SourceContributorClaim => r.feedGuid == feedGuid)
    (dedupeSourceContributorClaims claims)

def replaceSourceEntityIdsForFeed (feedGuid : String) (claims : List SourceEntityIdClaim) :
    Stmt Unit :=
  replaceRows .sourceEntityIds (fun r : SourceEntityIdClaim => r.feedGuid == feedGuid)
    (dedupeSourceEntityIds claims)

def replaceSourceEntityLinksForFeed (feedGuid : String) (links : List SourceEntityLink) :
    Stmt Unit :=
  replaceRows .sourceEntityLinks (fun r : SourceEntityLink => r.feedGuid == feedGuid)
    (dedupeSourceEntityLinks links)

def replaceSourceReleaseClaimsForFeed (feedGuid : String) (claims : List SourceReleaseClaim) :
    Stmt Unit :=
  replaceRows .sourceReleaseClaims (fun r : SourceReleaseClaim => r.feedGuid == feedGuid)
    (dedupeSourceReleaseClaims claims)

def replaceSourceItemEnclosuresForFeed (feedGuid : String)
    (enclosures : List SourceItemEnclosure) : Stmt Unit :=
  replaceRows .sourceItemEnclosures (fun r : SourceItemEnclosure => r.feedGuid == feedGuid)
    (dedupeSourceItemEnclosures enclosures)

def replaceSourceItemTranscriptsForFeed (feedGuid : String)
    (transcripts : List SourceItemTranscript) : Stmt Unit :=
  replaceRows .sourceItemTranscripts (fun r : SourceItemTranscript => r.feedGuid == feedGuid)
    (dedupeSourceItemTranscripts transcripts)

/-- No constraint makes a platform claim unique, so no row is dropped. -/
def replaceSourcePlatformClaimsForFeed (feedGuid : String) (claims : List SourcePlatformClaim) :
    Stmt Unit :=
  replaceRows .sourcePlatformClaims (fun r : SourcePlatformClaim => r.feedGuid == feedGuid) claims

end Stophammer
