import Stophammer.SharedContent
import Stophammer.SourceSteps
import Stophammer.TrackPayments

/-!
# The content in a run

Each operation of a primary that changes a compared column of a feed or of its sets signs the
event that gives the change.  A submission sends only the sets that changed, and a replica has
the other ones as the primary has them.
-/

namespace Stophammer

open Relational Statement SharedView

section

variable [Platform] {d e t : Db} {signer : NodeSigner} {guid : String}

/-- The events of the step give what it made of the content. -/
abbrev Sends : Db → Db → Prop := contentView.Followed

theorem sends_of_sameOutside {ts : List Table} (h : SameOutside (S := schema) ts d e)
    (hts : ∀ u ∈ Table.events :: sharedContentTables, u ∉ ts) : Sends d e :=
  followed_of_sameOutside h (hts _ List.mem_cons_self) fun _ hu =>
    hts _ (List.mem_cons_of_mem _ hu)

theorem sends_of_writes {ts : List Table} {α : Type} {x : Stmt α}
    (hx : Writes (S := schema) ts x) (hts : ∀ u ∈ Table.events :: sharedContentTables, u ∉ ts) :
    Steps Sends x :=
  followed_of_writes hx (hts _ List.mem_cons_self) fun _ hu => hts _ (List.mem_cons_of_mem _ hu)

theorem sends_of_logs {ts : List Table} {types : List EventType} (h : Logs ts types d e)
    (hts : ∀ u ∈ sharedContentTables, u ∉ ts)
    (htypes : ∀ τ ∈ types, τ ∉ sharedContentTypes) : Sends d e :=
  followed_of_logs h hts htypes

theorem sends_of_sign {payload : EventPayload} {subjectGuid eventId : String} {createdAt : Int}
    {warnings : List String} {signed : SignedEventRow}
    (hsign : signEventRow signer (eventDraft payload subjectGuid createdAt warnings eventId) t =
      (.ok signed, e))
    (htype : payload.eventType ∈ sharedContentTypes) (happlies : SharedContent.Applies payload)
    (hlog : t .events = d .events)
    (hview : sharedContent t = (sharedContent d).replay payload) : Sends d e :=
  followed_of_write_sign hsign htype happlies hlog hview

omit [Platform] in
theorem content_feedRetired {reason : Option String} {feed : Feed}
    (h : getFeedByGuid d guid = some feed) :
    (sharedContent d).replay (.feedRetired { feedGuid := guid, reason := reason }) =
      (sharedContent d).without guid := by
  refine if_pos ?_
  rw [hasUrl_eq, h]
  rfl

theorem retire_sends {reason : Option String} {eventId : String} {now : Int}
    {warnings : List String} {feed : Feed} {signed : SignedEventRow} {s : Db}
    (hfeed : getFeedByGuid d guid = some feed) (hdelete : deleteFeedSql guid d = (.ok (), s))
    (hsame : ∀ u ∈ Table.events :: sharedContentTables, t u = s u)
    (hsign : signEventRow signer (eventDraft (.feedRetired { feedGuid := guid, reason := reason })
      guid now warnings eventId) t = (.ok signed, e)) : Sends d e := by
  have htype : EventType.feedRetired ∈ sharedContentTypes := by decide
  refine sends_of_sign hsign htype trivial ?_ ?_
  · rw [hsame _ List.mem_cons_self]
    exact (deleteFeedSql_writes .events (by decide)).run hdelete
  · rw [sharedContent_congr fun u hu => hsame u (List.mem_cons_of_mem _ hu),
      deleteFeedSql_shared hdelete, content_feedRetired hfeed]

theorem deleteFeedWithEvent_sends {reason eventId : String} {now : Int} {warnings : List String}
    {blocks : List (FeedBlock × String)} {feed : Feed} (hfeed : getFeedByGuid d guid = some feed) :
    Sends d (deleteFeedWithEvent signer guid (retireRow guid reason now warnings eventId) blocks
      d).2 := by
  apply Steps.transaction_ok_at
  intro events e h
  rw [read_bind_run] at h
  obtain ⟨_, d₁, hdelete, h⟩ := bind_ok h
  obtain ⟨_, d₂, hhold, h⟩ := bind_ok h
  obtain ⟨signed, d₃, hsign, h⟩ := bind_ok h
  obtain ⟨ev, d₄, hevent, h⟩ := bind_ok h
  obtain ⟨rest, d₅, hrest, hpure⟩ := bind_ok h
  cases hpure
  rw [signedEvent_same hevent] at hrest
  have hheld : ∀ u ∈ Table.events :: sharedContentTables, d₂ u = d₁ u := fun u hu =>
    (writeHold_writes u (by revert hu; cases u <;> decide)).run hhold
  have hblocks : Logs blockTables [.feedBlocked] d₃ e :=
    (signBlocks_logs (by decide) (by decide) (by decide) (by decide)).run hrest
  exact trans_of Sends (retire_sends hfeed hdelete hheld hsign)
    (sends_of_logs hblocks (by decide) (by decide))

theorem handleSourceGoneReport_sends {env : IngestEnv} {req : IngestFeedRequest} :
    Sends d (handleSourceGoneReport env req d).2 := by
  apply handleSourceGoneReport_steps_at
  · exact fun s t h => sends_of_sameOutside h (by decide)
  · exact fun feedGuid reason now warnings eventId feed hfeed => deleteFeedWithEvent_sends hfeed

theorem guidChangeTransition_sends {uuid : Nat → String} {oldGuid newGuid sourceUrl : String}
    {now : Int} {feed : Feed} (hfeed : getFeedByGuid d oldGuid = some feed) :
    Sends d (guidChangeTransition signer uuid oldGuid newGuid sourceUrl now d).2 := by
  apply Steps.transaction_ok_at
  intro rows e h
  obtain ⟨_, d₁, hdelete, h⟩ := bind_ok h
  obtain ⟨retired, d₂, hretire, h⟩ := bind_ok h
  have hretired : Sends d d₂ := retire_sends hfeed hdelete (fun _ _ => rfl) hretire
  refine trans_of Sends hretired ?_
  -- the rest of the transition is about no content
  have hsupersede : Writes (S := schema) [Table.feedGuidSupersessions]
      (insertGuidSupersession oldGuid newGuid sourceUrl now) :=
    (Writes.insertOrIgnore (by decide)).bind fun _ => Writes.pure _
  have hclear : Writes (S := schema) [Table.feedGuidChanges] (deleteGuidChange sourceUrl) :=
    Writes.delete (by decide)
  have hsuperseded : EventType.feedGuidSuperseded ∉ sharedContentTypes := by decide
  have hobserved : EventType.feedGuidChangeObserved ∉ sharedContentTypes := by decide
  obtain ⟨_, d₃, hinsert, h⟩ := bind_ok h
  obtain ⟨superseded, d₄, hsign, h⟩ := bind_ok h
  refine trans_of Sends ((sends_of_writes hsupersede (by decide)).run hinsert)
    (trans_of Sends ((followed_of_sign hsuperseded).run hsign) ?_)
  rw [read_bind_run] at h
  cases hrow : getGuidChange d₄ sourceUrl with
  | none =>
    rw [hrow] at h
    cases h
    exact refl_of Sends _
  | some row =>
    rw [hrow] at h
    obtain ⟨_, d₅, hdelete, h⟩ := bind_ok h
    obtain ⟨marker, d₆, hmark, hpure⟩ := bind_ok h
    cases hpure
    exact trans_of Sends ((sends_of_writes hclear (by decide)).run hdelete)
      ((followed_of_sign hobserved).run hmark)

/-- What the content of a submission makes of it. -/
def SharedContent.withContent (s : SharedContent) (c : IngestContent) : SharedContent where
  urls := putUrl s.urls c.feed.feedGuid c.feed.feedUrl
  feeds := Function.update s.feeds c.feed.feedGuid (some c.feed.shared)
  sets k := Function.update (s.sets k) c.feed.feedGuid (k.shown (k.content c))

section Others

omit [Platform]

theorem FeedSet.view_sameFeed {k : FeedSet} (h : SameFeed guid d e) :
    k.view e guid = k.view d guid := by
  have hof : ofFeed guid k.table = fun r => k.feedGuid r == guid := by
    funext r
    cases k <;> simp [ofFeed, Table.feedOf, FeedSet.feedGuid]
  have hrows := h k.table
  rw [hof] at hrows
  rw [view, read, hrows]
  rfl

theorem getFeedByGuid_sameFeed (h : SameFeed guid d e) :
    getFeedByGuid e guid = getFeedByGuid d guid := by
  have hof : ofFeed guid .feeds = fun r : FeedRow => r.feed.feedGuid == guid := by
    funext r
    simp [ofFeed, Table.feedOf]
  have hrows := h .feeds
  rw [hof] at hrows
  rw [getFeedByGuid, ← List.head?_filter, hrows, List.head?_filter]
  rfl

theorem FeedSet.view_absent {k : FeedSet} (h : getFeedByGuid d guid = none) :
    k.view d guid = [] := by
  have hfeed : ¬ HasFeed guid d := by
    rw [← hasUrl_iff, hasUrl_eq, h]
    exact Bool.false_ne_true
  have hnone : k.read d guid = [] := by
    rw [List.eq_nil_iff_forall_not_mem]
    intro r hr
    obtain ⟨hmem, hguid⟩ := mem_read.mp hr
    apply hfeed
    rw [← hguid]
    exact d.valid.referenced k.table r hmem _ (by simp [schema, refs_feed])
  rw [view, hnone]
  rfl

end Others

theorem ingestTransaction_shared {env : PrimaryEnv} {removalUuid : Nat → String}
    {c : IngestContent} {eventRows : List EventRow} {feedMove : Option FeedMoveWrite}
    {seqs : List (Int × String × String)} (hc : c.OfFeed)
    (htracks : ∀ t ∈ c.tracks, t.OfFeed c.feed.feedGuid)
    (h : ingestTransaction env removalUuid c eventRows feedMove d = (.ok seqs, e)) :
    sharedContent e = (sharedContent d).withContent c ∧
      ((sharedContent d).urls.any fun q =>
        q.2 == c.feed.feedUrl && q.1 != c.feed.feedGuid) = false := by
  obtain ⟨d₁, d₂, d₃, d₄, hrow, hsets, hwritten, hremoved, hrest⟩ := ingestTransaction_states h
  obtain ⟨_, s, hupsert, hdeletes⟩ := bind_ok hrow
  have hclear : Writes (S := schema) [.sourceGoneAnswers, .retiredSourceHolds] (do
      delete (S := schema) .sourceGoneAnswers
        fun r : SourceGoneAnswer => r.feedGuid == c.feed.feedGuid
      delete (S := schema) .retiredSourceHolds
        fun r : RetiredSourceHold => r.feedGuid == toLowercase c.feed.feedGuid) :=
    (Writes.delete (by decide)).bind fun _ => Writes.delete (by decide)
  have hfeeds : e .feeds = s .feeds := by
    rw [hrest _ (by decide),
      (Writes.forEach (fun _ => removeStaleTrack_writes) _ (by decide)).run hremoved,
      (Writes.forEach (fun _ => writeTrack_writes) _ (by decide)).run hwritten,
      (replaceFeedSets_writes _ (by decide)).run hsets, (hclear _ (by decide)).run hdeletes]
  have hother : ∀ guid, guid ≠ c.feed.feedGuid → SameFeed guid d e := fun guid hne =>
    (ingestTransaction_sameFeed hne hc htracks).run h
  have hurls : sourceUrls e = putUrl (sourceUrls d) c.feed.feedGuid c.feed.feedUrl :=
    congrArg SharedSources.urls (ingestTransaction_sources h)
  refine ⟨SharedContent.ext hurls (funext fun guid => ?_) (funext fun k => funext fun guid => ?_),
    upsertFeed_ok_iff.mp ⟨s, hupsert⟩⟩
  · change (getFeedByGuid e guid).map Feed.shared = Function.update (sharedContent d).feeds _ _ guid
    rw [getFeedByGuid, hfeeds]
    exact upsertFeed_lookup hupsert guid
  · change k.view e guid = Function.update (k.view d) _ _ guid
    by_cases hguid : guid = c.feed.feedGuid
    · rw [hguid, Function.update_self]
      exact FeedSet.view_storedSets (ingestTransaction_sets hc h) k
    · rw [Function.update_of_ne hguid]
      exact FeedSet.view_sameFeed (hother guid hguid)

/-- The payloads of the sets that changed. -/
def sentSets (c : IngestContent) (changes : SetsChanged) : List EventPayload :=
  (FeedSet.all.filter fun k => k.changed changes).map fun k =>
    k.payload c.feed.feedGuid (k.sent c)

/-- The payloads of the difference that are about the shared content. -/
def sentPayloads (d : Db) (c : IngestContent) : List EventPayload :=
  match getFeedByGuid d c.feed.feedGuid with
  | none => .feedUpserted { feed := c.feed, reason := none } :: sentSets c (setsPresent c)
  | some existing =>
    if feedFieldsChanged existing c.feed then
      .feedUpserted { feed := c.feed, reason := none } :: sentSets c (setsChanged d c)
    else sentSets c (setsChanged d c)

section Sent

variable {c : IngestContent} {changes : SetsChanged} {now : Int} {warnings : List String}

omit [Platform] in
theorem sentSets_types : ∀ p ∈ sentSets c changes, p.eventType ∈ sharedContentTypes := by
  intro p hp
  obtain ⟨k, -, rfl⟩ := List.mem_map.mp hp
  rw [FeedSet.payload_eventType]
  exact k.mem_sharedContentTypes

omit [Platform] in
theorem sentPayloads_types : ∀ p ∈ sentPayloads d c, p.eventType ∈ sharedContentTypes := by
  have hfeed : ∀ changes, ∀ p ∈ EventPayload.feedUpserted { feed := c.feed, reason := none } ::
      sentSets c changes, p.eventType ∈ sharedContentTypes := by
    intro changes p hp
    rcases List.mem_cons.mp hp with rfl | hp
    · exact List.mem_cons_self
    · exact sentSets_types p hp
  intro p hp
  unfold sentPayloads at hp
  split at hp
  · exact hfeed _ p hp
  · split at hp
    · exact hfeed _ p hp
    · exact sentSets_types p hp

omit [Platform] in
theorem flatMap_draftIf {α : Type} (condition : α → Bool) (draft : α → EventDraft) (as : List α) :
    (as.flatMap fun a => draftIf (condition a) (draft a)) = (as.filter condition).map draft := by
  induction as with
  | nil => rfl
  | cons a as ih =>
    rw [List.flatMap_cons, ih, draftIf]
    split
    · rw [List.filter_cons_of_pos ‹_›]
      rfl
    · rw [List.filter_cons_of_neg ‹_›]
      rfl

theorem feedSetEvents_sent : feedSetEvents c changes now warnings =
    (sentSets c changes).map fun p => eventDraft p c.feed.feedGuid now warnings := by
  rw [FeedSet.feedSetEvents_eq, flatMap_draftIf, sentSets, List.map_map]
  rfl

theorem trackEvents_other {draft : EventDraft} {t : TrackIngestBundle}
    (h : draft = buildTrackUpsertedEvent t.track now warnings t.routes t.splits ∨
      draft = buildTrackRemoteItemsEvent t.track now warnings t.remoteItems) (id : String) :
    (draft id).eventType ∉ sharedContentTypes := by
  rcases h with rfl | rfl
  · change EventType.trackUpserted ∉ _
    decide
  · change EventType.trackRemoteItemsReplaced ∉ _
    decide

omit [Platform] in
theorem mem_draftIf {condition : Bool} {draft draft' : EventDraft}
    (h : draft ∈ draftIf condition draft') : draft = draft' := by
  unfold draftIf at h
  split at h
  · exact List.mem_singleton.mp h
  · cases h

theorem buildDiffEvents_sent (d : Db) (c : IngestContent) (now : Int) (warnings : List String) :
    ∃ rest : List EventDraft, (∀ draft ∈ rest, ∀ id, (draft id).eventType ∉ sharedContentTypes) ∧
      buildDiffEvents d c now warnings =
        ((sentPayloads d c).map fun p => eventDraft p c.feed.feedGuid now warnings) ++ rest := by
  cases hexisting : getFeedByGuid d c.feed.feedGuid with
  | none =>
    refine ⟨c.tracks.flatMap fun t =>
      buildTrackUpsertedEvent t.track now warnings t.routes t.splits ::
        draftIf (!t.remoteItems.isEmpty)
          (buildTrackRemoteItemsEvent t.track now warnings t.remoteItems), ?_, ?_⟩
    · intro draft hdraft
      obtain ⟨t, -, hdraft⟩ := List.mem_flatMap.mp hdraft
      rcases List.mem_cons.mp hdraft with rfl | hdraft
      · exact trackEvents_other (.inl rfl)
      · exact trackEvents_other (.inr (mem_draftIf hdraft))
    · rw [buildDiffEvents, sentPayloads, hexisting]
      simp only [buildAllEvents, feedSetEvents_sent]
      rfl
  | some existing =>
    refine ⟨c.tracks.flatMap fun t => changedTrackEvents d c.feed.feedGuid t now warnings,
      ?_, ?_⟩
    · intro draft hdraft
      obtain ⟨t, -, hdraft⟩ := List.mem_flatMap.mp hdraft
      unfold changedTrackEvents at hdraft
      simp only at hdraft
      split at hdraft
      · rcases List.mem_cons.mp hdraft with rfl | hdraft
        · exact trackEvents_other (.inl rfl)
        · exact trackEvents_other (.inr (mem_draftIf hdraft))
      · exact trackEvents_other (.inr (mem_draftIf hdraft))
    · rw [buildDiffEvents, sentPayloads, hexisting]
      simp only [buildChangedEvents, feedSetEvents_sent]
      congr 1
      cases feedFieldsChanged existing c.feed <;> rfl

theorem carries_sent {types : List EventType} {payloads : List EventPayload}
    {subjectGuid : String} {uuid : Nat → String} {quiet : List EventRow}
    (hpayloads : ∀ p ∈ payloads, p.eventType ∈ types)
    (hquiet : ∀ row ∈ quiet, row.eventType ∉ types) {index : Nat} {stored : List StoredEvent}
    (h : List.Forall₂ IsSigned stored
      (((payloads.map fun p => eventDraft p subjectGuid now warnings).zipIdx index).map
        (fun q => q.1 (uuid q.2)) ++ quiet)) :
    List.Forall₂ Carries (stored.filter fun r : StoredEvent => decide (r.eventType ∈ types))
      payloads := by
  induction payloads generalizing index stored with
  | nil =>
    rw [rowsOf_quiet h hquiet]
    exact .nil
  | cons p payloads ih =>
    obtain ⟨hp, hpayloads⟩ := List.forall_mem_cons.mp hpayloads
    rw [List.map_cons, List.zipIdx_cons, List.map_cons, List.cons_append] at h
    obtain ⟨first, later, hfirst, hlater, rfl⟩ := List.forall₂_cons_right_iff.mp h
    have hcarries : Carries first p := by
      obtain ⟨signer, seq, rfl⟩ := hfirst
      exact ⟨rfl, rfl⟩
    have hkept : decide (first.eventType ∈ types) = true := by
      rw [hcarries.1]
      exact decide_eq_true hp
    rw [List.filter_cons, if_pos hkept]
    exact .cons hcarries (ih hpayloads hlater)

omit [Platform] in
theorem replay_sentSets {p : FeedSet → Bool} (ks : List FeedSet) {s : SharedContent}
    (hfeed : (s.urls.any fun q => q.1 == c.feed.feedGuid) = true)
    (hrest : ∀ k, p k = false → s.sets k c.feed.feedGuid = k.shown (k.content c)) :
    ((ks.filter p).map fun k => k.payload c.feed.feedGuid (k.sent c)).foldl
        SharedContent.replay s =
      { s with
        sets := fun k =>
          if k ∈ ks then Function.update (s.sets k) c.feed.feedGuid (k.shown (k.content c))
          else s.sets k } := by
  induction ks generalizing s with
  | nil => simp
  | cons k ks ih =>
    by_cases hk : p k = true
    · have hreplay : s.replay (k.payload c.feed.feedGuid (k.sent c)) =
          { s with
            sets := Function.update s.sets k
              (Function.update (s.sets k) c.feed.feedGuid (k.shown (k.content c))) } := by
        rw [SharedContent.replay_payload, SharedContent.withSet, if_pos hfeed, FeedSet.shown_sent]
      rw [List.filter_cons_of_pos hk, List.map_cons, List.foldl_cons, hreplay, ih]
      · refine SharedContent.ext rfl rfl (funext fun k' => ?_)
        by_cases hsame : k' = k
        · subst hsame
          simp
        · simp [hsame]
      · exact hfeed
      · intro k' hk'
        have hne : k' ≠ k := fun hsame => by simp [hsame, hk] at hk'
        exact (congrFun (Function.update_of_ne hne _ s.sets) _).trans (hrest k' hk')
    · have hunsent := hrest k (Bool.not_eq_true _ ▸ hk)
      rw [List.filter_cons_of_neg hk, ih hfeed hrest]
      refine SharedContent.ext rfl rfl (funext fun k' => ?_)
      by_cases hsame : k' = k
      · subst hsame
        simp [← hunsent]
      · simp [hsame]

omit [Platform] in
theorem any_putUrl {urls : List (String × String)} {guid url : String}
    (hfree : (urls.any fun q => q.2 == url && q.1 != guid) = false) :
    ((putUrl urls guid url).any fun q => q.1 == guid) = true := by
  rw [putUrl, hfree, if_neg Bool.false_ne_true, upserted]
  split
  · rename_i hany
    obtain ⟨q, hq, hguid⟩ := List.any_eq_true.mp hany
    refine List.any_eq_true.mpr ⟨(guid, url), List.mem_map.mpr ⟨q, hq, if_pos hguid⟩, ?_⟩
    exact beq_iff_eq.mpr rfl
  · simp

omit [Platform] in
theorem replay_upserted {s : SharedContent}
    (hfree : (s.urls.any fun q => q.2 == c.feed.feedUrl && q.1 != c.feed.feedGuid) = false)
    (hrest : ∀ k : FeedSet, k.changed changes = false →
      s.sets k c.feed.feedGuid = k.shown (k.content c)) :
    (EventPayload.feedUpserted { feed := c.feed, reason := none } :: sentSets c changes).foldl
      SharedContent.replay s = s.withContent c := by
  have hfeed : s.replay (.feedUpserted { feed := c.feed, reason := none }) =
      { s with
        urls := putUrl s.urls c.feed.feedGuid c.feed.feedUrl
        feeds := Function.update s.feeds c.feed.feedGuid (some c.feed.shared) } := by
    change s.withFeed c.feed = _
    rw [SharedContent.withFeed, hfree, if_neg Bool.false_ne_true]
  rw [List.foldl_cons, hfeed, sentSets, replay_sentSets]
  · exact SharedContent.ext rfl rfl (funext fun k => if_pos k.mem_all)
  · exact any_putUrl hfree
  · exact hrest

omit [Platform] in
theorem shared_of_unchanged {existing new : Feed} (hguid : existing.feedGuid = new.feedGuid)
    (h : feedFieldsChanged existing new = false) : existing.shared = new.shared := by
  have hfields : feedFieldsChanged.fields existing = feedFieldsChanged.fields new :=
    bne_eq_false_iff_eq.mp h
  simp only [feedFieldsChanged.fields, Prod.mk.injEq] at hfields
  cases existing
  cases new
  simp_all [Feed.shared]

omit [Platform] in
theorem replay_sentPayloads (hc : c.OfFeed)
    (hfree : ((sharedContent t).urls.any fun q =>
      q.2 == c.feed.feedUrl && q.1 != c.feed.feedGuid) = false)
    (hnew : getFeedByGuid d c.feed.feedGuid = none → getFeedByGuid t c.feed.feedGuid = none)
    (hstored : ∀ existing, getFeedByGuid d c.feed.feedGuid = some existing → t = d) :
    (sentPayloads d c).foldl SharedContent.replay (sharedContent t) =
      (sharedContent t).withContent c := by
  unfold sentPayloads
  cases hexisting : getFeedByGuid d c.feed.feedGuid with
  | none =>
    apply replay_upserted hfree
    intro k hk
    rw [FeedSet.changed_setsPresent, Bool.not_eq_false', List.isEmpty_iff] at hk
    rw [← FeedSet.shown_sent, hk]
    exact (FeedSet.view_absent (hnew hexisting)).trans (by cases k <;> rfl)
  | some existing =>
    obtain rfl := hstored existing hexisting
    have hrest : ∀ k : FeedSet, k.changed (setsChanged t c) = false →
        (sharedContent t).sets k c.feed.feedGuid = k.shown (k.content c) :=
      fun k hk => (FeedSet.shown_of_unchanged hc hk).symm
    simp only
    split
    · exact replay_upserted hfree hrest
    · rename_i hsame
      obtain ⟨r, hr, rfl⟩ := Option.map_eq_some_iff.mp hexisting
      have hguid : r.feed.feedGuid = c.feed.feedGuid := by simpa using List.find?_some hr
      have hshared := shared_of_unchanged hguid (Bool.not_eq_true _ ▸ hsame)
      have hfeed : ((sharedContent t).urls.any fun q => q.1 == c.feed.feedGuid) = true := by
        rw [hasUrl_eq, hexisting]
        rfl
      rw [sentSets, replay_sentSets _ hfeed hrest]
      refine SharedContent.ext (putUrl_same hexisting ?_).symm ?_ (funext fun k => if_pos k.mem_all)
      · have hurl := congrArg Feed.feedUrl hshared
        exact hurl
      · refine (Function.update_eq_self_iff.mpr ?_).symm
        change some c.feed.shared = (getFeedByGuid t c.feed.feedGuid).map Feed.shared
        rw [hexisting, Option.map_some, hshared]

omit [Platform] in
theorem applies_sentPayloads (h : StoredSets c e) :
    ∀ p ∈ sentPayloads d c, SharedContent.Applies p := by
  have hsets : ∀ changes, ∀ p ∈ sentSets c changes, SharedContent.Applies p := by
    intro changes p hp
    obtain ⟨k, -, rfl⟩ := List.mem_map.mp hp
    exact SharedContent.applies_payload.mpr (FeedSet.fits_sent h k)
  have hfeed : ∀ changes, ∀ p ∈ EventPayload.feedUpserted { feed := c.feed, reason := none } ::
      sentSets c changes, SharedContent.Applies p := fun changes =>
    List.forall_mem_cons.mpr ⟨trivial, hsets changes⟩
  unfold sentPayloads
  split
  · exact hfeed _
  · split
    · exact hfeed _
    · exact hsets _

theorem ingestTransaction_sends {env : PrimaryEnv} {removalUuid uuid : Nat → String}
    {feedMove : Option FeedMoveWrite} (hc : c.OfFeed)
    (htracks : ∀ t ∈ c.tracks, t.OfFeed c.feed.feedGuid)
    (hnew : getFeedByGuid d c.feed.feedGuid = none → getFeedByGuid t c.feed.feedGuid = none)
    (hstored : ∀ existing, getFeedByGuid d c.feed.feedGuid = some existing → t = d) :
    Sends t (ingestTransaction env removalUuid c
      (assignIds uuid (buildDiffEvents d c now warnings)) feedMove t).2 := by
  rcases hrun : ingestTransaction env removalUuid c
    (assignIds uuid (buildDiffEvents d c now warnings)) feedMove t with ⟨err | seqs, e⟩
  · rw [transaction_error hrun]
    exact refl_of Sends t
  obtain ⟨stored, removals, hlog, hsigned, hremovals⟩ := ingestTransaction_signed hrun
  obtain ⟨hview, hfree⟩ := ingestTransaction_shared hc htracks hrun
  obtain ⟨rest, hrest, hdrafts⟩ := buildDiffEvents_sent d c now warnings
  rw [hdrafts, assignIds, List.zipIdx_append, List.map_append, List.append_assoc] at hsigned
  refine ⟨_, sentPayloads d c, rowsOf_append sharedContentTypes hlog,
    carries_sent sentPayloads_types ?_ hsigned,
    applies_sentPayloads (ingestTransaction_sets hc hrun), ?_⟩
  · intro row hrow
    rcases List.mem_append.mp hrow with hrow | hrow
    · obtain ⟨⟨draft, i⟩, hmem, rfl⟩ := List.mem_map.mp hrow
      exact hrest draft (List.fst_mem_of_mem_zipIdx hmem) _
    · rw [hremovals row hrow]
      decide
  · exact hview.trans (replay_sentPayloads hc hfree hnew hstored).symm

end Sent

omit [Platform] in
theorem updateFeeds_other {f : FeedRow → FeedRow} {other : String}
    (h : update (S := schema) .feeds (fun r : FeedRow => r.feed.feedGuid == guid) f d =
      (.ok (), e)) (hf : ∀ r, (f r).feed.feedGuid = r.feed.feedGuid) (hne : other ≠ guid) :
    getFeedByGuid e other = getFeedByGuid d other := by
  have hfind : ((d .feeds).map fun r : FeedRow => if r.feed.feedGuid == guid then f r else r).find?
      (fun r : FeedRow => r.feed.feedGuid == other) = _ :=
    find_update (fun r hr => (hf r).trans hr) (d .feeds)
  rw [getFeedByGuid, modify_ok_rows h, hfind, if_neg hne]
  rfl

omit [Platform] in
theorem updateColumns_shared {p : FeedRow → Bool} {f : FeedRow → FeedRow}
    (h : update (S := schema) .feeds p f d = (.ok (), e)) (hf : ∀ r, (f r).feed = r.feed) :
    e .events = d .events ∧ sharedContent e = sharedContent d := by
  have hwrites : Writes (S := schema) [Table.feeds] (update (S := schema) .feeds p f) :=
    Writes.update (by decide)
  obtain ⟨hlog, hsources⟩ := updateColumns_sources h hf
  have hmap : (e .feeds).map FeedRow.feed = (d .feeds).map FeedRow.feed := by
    rw [modify_ok_rows h, List.map_map]
    apply List.map_congr_left
    intro r _
    rw [Function.comp_apply]
    split
    · exact hf r
    · rfl
  have hfeeds : ∀ guid, getFeedByGuid e guid = getFeedByGuid d guid := by
    intro guid
    have hfind : ∀ s : Db, getFeedByGuid s guid =
        ((s .feeds).map FeedRow.feed).find? fun f => f.feedGuid == guid := by
      intro s
      rw [List.find?_map]
      rfl
    rw [hfind, hfind, hmap]
  refine ⟨hlog, ?_⟩
  rw [sharedContent_feeds fun u hu => (hwrites u (by revert hu; cases u <;> decide)).run h]
  refine SharedContent.ext (congrArg SharedSources.urls hsources) (funext fun guid => ?_) rfl
  exact congrArg (Option.map Feed.shared) (hfeeds guid)

theorem updateColumns_sends {p : FeedRow → Bool} {f : FeedRow → FeedRow}
    (hf : ∀ r, (f r).feed = r.feed) : Steps Sends (update (S := schema) .feeds p f) := by
  intro d
  rcases hrun : update (S := schema) .feeds p f d with ⟨err | _, e⟩
  · rw [modify_error_state hrun]
    exact refl_of Sends d
  · obtain ⟨hlog, hview⟩ := updateColumns_shared hrun hf
    exact followed_of_same hlog hview

theorem relocateFeed_sends {env : OperatorEnv} {feedGuid newUrl reason eventId : String}
    {outcome : RelocateOutcome}
    (h : relocateFeed env feedGuid newUrl reason eventId d = (.ok outcome, e)) : Sends d e := by
  unfold relocateFeed at h
  rw [read_bind_run] at h
  split at h
  · cases h
    exact refl_of Sends d
  · rename_i hconflict
    have hfree := Bool.not_eq_true _ ▸ hconflict
    rw [read_bind_run] at h
    cases hold : getFeedByGuid d feedGuid with
    | none =>
      rw [hold] at h
      cases h
    | some old =>
      rw [hold] at h
      simp only at h
      obtain ⟨_, d₁, hurl, h⟩ := bind_ok h
      obtain ⟨_, d₂, hself, h⟩ := bind_ok h
      obtain ⟨_, d₃, hclear, h⟩ := bind_ok h
      obtain ⟨_, d₄, hstate, h⟩ := bind_ok h
      have hwrites : Writes (S := schema) [Table.feeds] (update (S := schema) .feeds
          (fun r : FeedRow => r.feed.feedGuid == feedGuid) fun r : FeedRow =>
            { r with
              feed := { r.feed with feedUrl := newUrl, lastBuildDate := none }
              feedHost := some (feedHostOf newUrl) }) := Writes.update (by decide)
      obtain ⟨hlog₁, hsources⟩ := updateUrl_sources (fun _ => rfl) hfree hold hurl
      obtain ⟨hlog₂, hview₂⟩ := updateColumns_shared hself fun _ => rfl
      obtain ⟨hlog₃, hview₃⟩ := updateColumns_shared hclear fun _ => rfl
      have hsame : ∀ u ∈ Table.events :: sharedContentTables, d₄ u = d₃ u := fun u hu =>
        (writeRelocationState_writes u (by revert hu; cases u <;> decide)).run hstate
      have hlog : d₄ .events = d .events := by
        rw [hsame .events List.mem_cons_self, hlog₃, hlog₂, hlog₁]
      have hview : sharedContent d₄ = sharedContent d₁ := by
        rw [sharedContent_congr fun u hu => hsame u (List.mem_cons_of_mem _ hu), hview₃, hview₂]
      have hurls : sourceUrls d₄ = putUrl (sourceUrls d) feedGuid newUrl :=
        (congrArg SharedContent.urls hview).trans (congrArg SharedSources.urls hsources)
      rw [read_bind_run] at h
      cases hfeed : getFeedByGuid d₄ feedGuid with
      | none =>
        rw [hfeed] at h
        cases h
      | some feed =>
        rw [hfeed] at h
        obtain ⟨signed, d₅, hsign, h⟩ := bind_ok h
        cases h
        have htaken : ((sourceUrls d).any fun q => q.2 == newUrl && q.1 != feedGuid) = false := by
          rw [sourceUrls, List.any_map]
          exact hfree
        obtain ⟨hguid, hurl'⟩ := feedUrl_of_putUrl hurls htaken hfeed
        have htype : EventType.feedUpserted ∈ sharedContentTypes := by decide
        refine sends_of_sign hsign htype trivial hlog ?_
        change sharedContent d₄ = (sharedContent d).withFeed feed
        rw [SharedContent.withFeed, hguid, hurl']
        refine Eq.trans ?_ (if_neg (htaken ▸ Bool.false_ne_true)).symm
        refine SharedContent.ext hurls (funext fun other => ?_) ?_
        · change (sharedContent d₄).feeds other =
            Function.update (sharedContent d).feeds feedGuid (some feed.shared) other
          by_cases hother : other = feedGuid
          · subst hother
            rw [Function.update_self]
            exact congrArg (Option.map Feed.shared) hfeed
          · rw [Function.update_of_ne hother, hview]
            exact congrArg (Option.map Feed.shared) (updateFeeds_other hurl (fun _ => rfl) hother)
        · rw [hview, sharedContent_feeds fun u hu =>
            (hwrites u (by revert hu; cases u <;> decide)).run hurl]

theorem sends_of_observes {ts : List Table} (h : Observes ts d e)
    (hts : ∀ u ∈ sharedContentTables, u ∉ ts) : Sends d e :=
  sends_of_logs h.logs hts (by decide)

theorem deleteFeedSql_keepsAbsent (oldGuid : String) :
    Steps (Keeps fun d => getFeedByGuid d guid = none) (deleteFeedSql oldGuid) := by
  intro d hnone
  obtain ⟨⟨⟩, e, hrun⟩ := deleteFeedSql_ends oldGuid d
  have hfind : ((d .feeds).filter fun r : FeedRow => !(r.feed.feedGuid == oldGuid)).find?
      (fun r : FeedRow => r.feed.feedGuid == guid) = _ := find_delete (d .feeds)
  rw [hrun, getFeedByGuid, deleteFeedSql_feeds hrun, hfind]
  split
  · rfl
  · exact hnone

theorem admitContent_sends {env : IngestEnv} {req : IngestFeedRequest} {body : IngestFeedData}
    {admission : Admission}
    (hheld : ∀ heldGuid, admission.pendingGuidTransition = some heldGuid →
      getFeedByGuid d body.feedGuid = none ∧ ∃ feed, getFeedByGuid d heldGuid = some feed) :
    Sends d (admitContent env req body admission d).2 := by
  apply admitContent_steps_runs
  · intro heldGuid hpending
    obtain ⟨-, feed, hfeed⟩ := hheld heldGuid hpending
    exact guidChangeTransition_sends hfeed
  · intro t hsame hchanged contentWarnings
    apply ingestTransaction_sends BuildInput.content_ofFeed BuildInput.tracks_ofFeed
    · intro hnone
      cases hpending : admission.pendingGuidTransition with
      | none => rwa [hsame hpending]
      | some heldGuid =>
        have hkeeps : Keeps (fun d => getFeedByGuid d body.feedGuid = none) d
            (guidChangeTransition env.signer (env.uuid .guidTransition) heldGuid body.feedGuid
              req.sourceUrl (env.now .content) d).2 := by
          apply guidChangeTransition_steps
          · intro s t h hnone
            rwa [getFeedByGuid, h .feeds (by decide)]
          · exact deleteFeedSql_keepsAbsent heldGuid d
        rw [hchanged heldGuid hpending]
        exact hkeeps hnone
    · intro existing hexisting
      cases hpending : admission.pendingGuidTransition with
      | none => exact hsame hpending
      | some heldGuid => cases (hheld heldGuid hpending).1.symm.trans hexisting
  · intro isMove
    apply writeDeclarations_steps
    · exact fun s t h => sends_of_sameOutside h (by decide)
    · exact fun p f hf => updateColumns_sends hf
  · exact fun now urls => recordUrls_observes.mono fun s t h => sends_of_observes h (by decide)
  · intro now
    have hcache : Writes (S := schema) [Table.feedCrawlCache]
        (upsertFeedCrawlCache req.canonicalUrl req.contentHash now) := Writes.upsert (by decide)
    exact sends_of_writes hcache (by decide)

theorem handleIngestFeed_sends (env : IngestEnv) (snapshot : Db) (req : IngestFeedRequest)
    (d : Db) : Sends d (handleIngestFeed env snapshot req d).2 := by
  apply ingest_steps
  · exact fun _ _ => handleSourceGoneReport_sends
  · exact fun s t h => sends_of_observes h (by decide)
  · intro body warnings _ hclass _ _
    obtain ⟨-, stored, hstored, -⟩ := classifySubmission_update.mp hclass
    exact deleteFeedWithEvent_sends hstored
  · intro body _ _ _ _
    exact sends_of_logs (recordGuidChangeReturnForIngest_logs d) (by decide) (by decide)
  · intro body heldGuid _ _ _
    exact sends_of_logs (recordGuidChangePendingForIngest_logs d) (by decide) (by decide)
  · intro body admission e hreach hheld hmove hsame _
    apply admitContent_sends
    intro heldGuid hpending
    rw [hpending] at hheld
    obtain ⟨hnone, hconflict⟩ :=
      classifySubmission_guidChange (SubmissionClass.held_eq_some.mp hheld.symm)
    have hfeed : ∀ guid, getFeedByGuid e guid = getFeedByGuid d guid := by
      intro guid
      rw [getFeedByGuid, hsame .feeds (by decide)]
      rfl
    rw [hfeed, hfeed]
    exact ⟨hnone, getFeedByGuid_conflicting hconflict⟩

theorem AdminRequest.sends {env : OperatorEnv} (request : AdminRequest) :
    Sends d (request.handle env d).2 := by
  have hblocks : ∀ {s t : Db}, Logs blockTables operatorTypes s t → Sends s t :=
    fun h => sends_of_logs h (by decide) (by decide)
  have htracks : ∀ {s t : Db}, Logs operatorTables operatorTypes s t → Sends s t :=
    fun h => sends_of_logs h (by decide) (by decide)
  apply request.steps_parts
  · exact fun _ _ _ s => hblocks (createBlock_logs s)
  · exact fun _ s => hblocks (removeBlock_logs s)
  · exact fun _ _ _ _ _ _ _ _ h => hblocks (signResolution_logs.run h)
  · exact fun guid trackGuid _ => htracks (handleRemoveTrack_logs d)
  · exact fun _ feedGuid trackGuid newUrl => htracks (patchTrackRow_logs d)
  · exact fun guid block feed blocks _ hfeed => deleteFeedWithEvent_sends hfeed
  · exact fun guid newUrl reason eventId _ outcome e h => relocateFeed_sends h
  · exact fun guid => sends_of_writes releaseRetiredSourceHold_writes (by decide) d
  · intro guid decision reason _
    exact sends_of_logs (decideGuidChangeRow_logs d) (by decide) (by decide)

theorem Operation.sends (operation : Operation) (d : Db) : Sends d (operation.next d) := by
  cases operation with
  | ingest env snapshot req => exact handleIngestFeed_sends env snapshot req d
  | admin env tokenAccepted request =>
    exact (Steps.ite (fun d => request.sends) (.fail _) : Steps Sends _) d
  | seedBlocks env entries =>
    exact sends_of_logs (seedBlocks_logs d) (by decide) (by decide)
  | fillRetiredSourceHolds =>
    apply fillRetiredSourceHolds_steps
    exact fun hold => sends_of_writes (Writes.insertOrIgnore (List.mem_singleton.mpr rfl))
      (by decide)
  | peers write only => exact sends_of_writes only (by decide) d

theorem run_content {ok : Db → Operation → Prop} {history : List RunStep}
    (hrun : PrimaryRun ok history d) : contentView.Replays d :=
  hrun.keeps contentView.replays_empty fun d operation _ => (operation.sends d).keeps

/-- After every run of a primary, a replica to which the whole log came has each feed and each of
its sets as the primary, in the columns that an ingest compares.  Batches can fail and come again,
and an event can come more than once. -/
theorem replica_content (hsound : signer.Sound) (hjson : JsonNonempty) {history : List RunStep}
    (hrun : PrimaryRun (fun _ operation => operation.SignedBy signer) history d)
    (hreads : ReadsRows sharedContentTypes d) {limit : Int} (hlimit : (d .events).length ≤ limit)
    {batches : List (Bool × List Event)}
    (hserved : getEventsSince d 0 limit = .ok (arrived batches).eraseDups) :
    sharedContent (deliverAll (batches.map fun b => Delivery.batch b.1 b.2)
      (Database.empty schema)) = sharedContent d :=
  (run_content hrun).replica_arrived (log_signed hsound hjson hrun) hreads hlimit hserved

end

section Sample

attribute [local instance] paidPlatform

/-- The second submission of the feed sends its remote items, and not its routes again. -/
theorem publisherDb_facts :
    (∀ r ∈ publisherDb .events, r.payloadJson ≠ "null" ∧
        (Platform.decodePayload r.eventType r.payloadJson).map EventPayload.eventType =
          some r.eventType) ∧
      (publisherDb .events).length ≤ 20 ∧
      (getEventsSince publisherDb 0 20).isOk = true ∧
      (∀ events ∈ (getEventsSince publisherDb 0 20).toOption,
        (arrived (resent events)).eraseDups = events ∧
          (events.drop 6).map Event.eventType =
            [.feedUpserted, .feedRemoteItemsReplaced, .sourceReleaseClaimsReplaced, .trackRemoved,
              .trackRemoved]) ∧
      ((sharedContent publisherDb).feeds sampleGuid).map Feed.rawMedium =
        some (some "publisher") ∧
      ((sharedContent publisherDb).sets .feedRoutes sampleGuid).map FeedPaymentRoute.address =
        ["a"] ∧
      (sharedContent publisherDb).sets .remoteItems sampleGuid = [albumItem] := by
  decide +kernel

theorem paidRecording_texts :
    (∀ p ∈ paidRecording.texts, p.2 ≠ "") ∧ (paidRecording.texts.map Prod.snd).Nodup := by
  decide +kernel

theorem publisherDb_reads : ReadsRows sharedContentTypes publisherDb :=
  .of_texts (fun _ => paidRecording.text_decodes paidRecording_texts.2) publisherDb_facts.1

theorem replica_content_publisherDb :
    ∃ events, getEventsSince publisherDb 0 20 = .ok events ∧
      (events.drop 6).map Event.eventType =
        [.feedUpserted, .feedRemoteItemsReplaced, .sourceReleaseClaimsReplaced, .trackRemoved,
          .trackRemoved] ∧
      ((sharedContent (deliverAll ((resent events).map fun b => Delivery.batch b.1 b.2)
        (Database.empty schema))).feeds sampleGuid).map Feed.rawMedium = some (some "publisher") ∧
      ((sharedContent (deliverAll ((resent events).map fun b => Delivery.batch b.1 b.2)
        (Database.empty schema))).sets .feedRoutes sampleGuid).map FeedPaymentRoute.address =
          ["a"] ∧
      (sharedContent (deliverAll ((resent events).map fun b => Delivery.batch b.1 b.2)
        (Database.empty schema))).sets .remoteItems sampleGuid = [albumItem] := by
  obtain ⟨-, hlength, hserved, hall, hcontent⟩ := publisherDb_facts
  have hrun : PrimaryRun (fun _ operation => operation.SignedBy paidRecording.signer) _
      publisherDb :=
    .step becomingPublisher (.step payingIngest .empty rfl) rfl
  have hsound : paidRecording.signer.Sound := paidRecording.signer_sound
  have hjson : JsonNonempty := paidRecording.text_nonempty paidRecording_texts.1
  have hreads := publisherDb_reads
  -- from here only the facts say what the state holds
  generalize publisherDb = d at hlength hserved hall hcontent hrun hreads ⊢
  rcases hevents : getEventsSince d 0 20 with err | events
  · rw [hevents] at hserved
    cases hserved
  · rw [hevents] at hall
    obtain ⟨harrived, hsent⟩ := hall events rfl
    have hsame := replica_content hsound hjson hrun hreads (by exact_mod_cast hlength)
      (hevents.trans (congrArg _ harrived.symm))
    refine ⟨events, rfl, hsent, ?_⟩
    rw [hsame]
    exact hcontent

end Sample

end Stophammer
