import Mathlib
import Stophammer.Db.FeedRows
import Stophammer.GuidChange
import Stophammer.Query.ArtistNames
import Stophammer.RecordWrites
import Stophammer.Recording
import Stophammer.Redelivery
import Stophammer.Relational.Frame
import Stophammer.Signing

/-!
# The artist list in memory

A node keeps the built list with the highest seq of its log, and builds it again only when
the seq is another one.  So each change of a row that the list reads has to come with an
event.
-/

namespace Stophammer

open Relational Statement

def listTables : List Table := [.feeds, .feedRemoteItemsRaw, .feedUrlObservations]

section

variable {d e : Db}

theorem listInputs_congr (h : ∀ t ∈ listTables, e t = d t) : listInputs e = listInputs d := by
  unfold listInputs getFeedRemoteItemsForFeed getFeedUrlObservation
  rw [h .feeds (by decide), h .feedRemoteItemsRaw (by decide), h .feedUrlObservations (by decide)]

/-- A change of the rows of the list makes the log longer. -/
abbrev MarksList : Db → Db → Prop := Marks logLength listInputs

theorem marksList_of_tables (hlog : e .events = d .events) (h : ∀ t ∈ listTables, e t = d t) :
    MarksList d e := .of_same (congrArg List.length hlog).ge (listInputs_congr h)

theorem marksList_of_sameOutside {ts : List Table} (h : SameOutside (S := schema) ts d e)
    (hlog : Table.events ∉ ts) (hts : ∀ t ∈ listTables, t ∉ ts) : MarksList d e :=
  marksList_of_tables (h .events hlog) fun t ht => h t (hts t ht)

theorem marksList_of_writes {ts : List Table} {α : Type} {x : Stmt α}
    (hx : Writes (S := schema) ts x) (hlog : Table.events ∉ ts)
    (hts : ∀ t ∈ listTables, t ∉ ts) : Steps MarksList x := fun d =>
  marksList_of_sameOutside (hx.sameOutside (List.Subset.refl _) d) hlog hts

theorem marksList_of_logs {ts : List Table} {types : List EventType} (h : Logs ts types d e)
    (hts : ∀ t ∈ listTables, t ∉ ts) : MarksList d e :=
  .of_same h.length_le (listInputs_congr fun t ht => h.frame t (hts t ht))

theorem marksList_of_observes {ts : List Table} (h : Observes ts d e) (hfeeds : Table.feeds ∉ ts)
    (hitems : Table.feedRemoteItemsRaw ∉ ts) : MarksList d e := by
  rcases h.urls with hsame | hlt
  · apply Marks.of_same h.logs.length_le
    apply listInputs_congr
    intro t ht
    simp only [listTables, List.mem_cons, List.not_mem_nil, or_false] at ht
    rcases ht with rfl | rfl | rfl
    · exact h.logs.frame _ hfeeds
    · exact h.logs.frame _ hitems
    · exact hsame
  · exact .of_lt hlt

theorem updateColumns_marks {p : FeedRow → Bool} {f : FeedRow → FeedRow}
    (hf : ∀ r, (f r).feed = r.feed) : Steps MarksList (update (S := schema) .feeds p f) := by
  have hwrites : Writes (S := schema) [Table.feeds] (update (S := schema) .feeds p f) :=
    Writes.update (by decide)
  intro d
  rcases hrun : update (S := schema) .feeds p f d with ⟨err | _, e⟩
  · rw [modify_error_state hrun]
    exact refl_of MarksList d
  · have hfeeds : (e .feeds).map (fun r : FeedRow => r.feed.listed) =
        (d .feeds).map fun r : FeedRow => r.feed.listed := by
      rw [modify_ok_rows hrun, List.map_map]
      apply List.map_congr_left
      intro r _
      rw [Function.comp_apply]
      split
      · rw [hf]
      · rfl
    have hsame : SameOutside (S := schema) [Table.feeds] d e :=
      (hwrites.sameOutside (List.Subset.refl _)).run hrun
    refine .of_same (congrArg List.length (hsame .events (by decide))).ge ?_
    unfold listInputs getFeedRemoteItemsForFeed getFeedUrlObservation
    rw [hfeeds, hsame .feedRemoteItemsRaw (by decide), hsame .feedUrlObservations (by decide)]

end

section Content

variable {c : IngestContent} {d e : Db}

theorem replaceFeedSets_remoteItems {a : Unit} (h : replaceFeedSets c d = (.ok a, e)) :
    e .feedRemoteItemsRaw = (d .feedRemoteItemsRaw).filter
      (fun r : FeedRemoteItemRaw => !(r.feedGuid == c.feed.feedGuid)) ++ c.remoteItems := by
  obtain ⟨_, d₁, hroutes, h⟩ := bind_ok h
  obtain ⟨_, d₂, hitems, hrest⟩ := bind_ok h
  have hother : ∀ {t : Table} {p : t.Row → Bool} {rows : List t.Row}, t ≠ .feedRemoteItemsRaw →
      Leaves (fun d : Db => d .feedRemoteItemsRaw) (replaceRows (S := schema) t p rows) :=
    fun ht => (Writes.replaceRows (List.mem_singleton.mpr rfl) : Writes (S := schema) [_] _)
      .feedRemoteItemsRaw (by simpa using ht.symm)
  have hlast : e .feedRemoteItemsRaw = d₂ .feedRemoteItemsRaw := by
    refine Leaves.run (f := fun d : Db => d .feedRemoteItemsRaw) ?_ hrest
    iterate 8
      apply (hother (by decide)).bind
      intro _
    exact hother (by decide)
  rw [hlast, replaceRows_rows hitems, (hother (by decide)).run hroutes]

/-- A feed that keeps its columns, and items that no compared column tells apart. -/
structure SameListed (d : Db) (c : IngestContent) : Prop where
  feed : ∃ existing, getFeedByGuid d c.feed.feedGuid = some existing ∧
    existing.listed = c.feed.listed
  items : (getFeedRemoteItemsForFeed d c.feed.feedGuid).map FeedRemoteItemRaw.listed =
    (orderBy (compareOn FeedRemoteItemRaw.position) c.remoteItems).map FeedRemoteItemRaw.listed

theorem remoteItems_listed (hc : c.OfFeed)
    (hitems : (getFeedRemoteItemsForFeed d c.feed.feedGuid).map FeedRemoteItemRaw.listed =
      (orderBy (compareOn FeedRemoteItemRaw.position) c.remoteItems).map FeedRemoteItemRaw.listed)
    (hrows : e .feedRemoteItemsRaw = (d .feedRemoteItemsRaw).filter
      (fun r : FeedRemoteItemRaw => !(r.feedGuid == c.feed.feedGuid)) ++ c.remoteItems)
    (feedGuid : String) :
    (getFeedRemoteItemsForFeed e feedGuid).map FeedRemoteItemRaw.listed =
      (getFeedRemoteItemsForFeed d feedGuid).map FeedRemoteItemRaw.listed := by
  unfold getFeedRemoteItemsForFeed
  rw [hrows, List.filter_append, List.filter_filter]
  by_cases hguid : feedGuid = c.feed.feedGuid
  · subst hguid
    have hold : (d .feedRemoteItemsRaw).filter (fun r : FeedRemoteItemRaw =>
        r.feedGuid == c.feed.feedGuid && !(r.feedGuid == c.feed.feedGuid)) = [] := by
      apply List.filter_eq_nil_iff.mpr
      intro r _
      simp
    have hnew : c.remoteItems.filter (fun r : FeedRemoteItemRaw =>
        r.feedGuid == c.feed.feedGuid) = c.remoteItems :=
      List.filter_eq_self.mpr fun r hr => beq_iff_eq.mpr (hc.remoteItems r hr)
    rw [hold, hnew, List.nil_append]
    exact hitems.symm
  · have hnew : c.remoteItems.filter (fun r : FeedRemoteItemRaw => r.feedGuid == feedGuid) = [] := by
      apply List.filter_eq_nil_iff.mpr
      intro r hr
      rw [beq_iff_eq, hc.remoteItems r hr]
      exact fun h => hguid h.symm
    have hold : (d .feedRemoteItemsRaw).filter (fun r : FeedRemoteItemRaw =>
        r.feedGuid == feedGuid && !(r.feedGuid == c.feed.feedGuid)) =
          (d .feedRemoteItemsRaw).filter fun r : FeedRemoteItemRaw => r.feedGuid == feedGuid := by
      apply List.filter_congr
      intro r _
      by_cases hr : r.feedGuid = feedGuid
      · simp [hr, hguid]
      · simp [hr]
    rw [hnew, hold, List.append_nil]

theorem upsertFeed_listed [Platform] {feed existing : Feed} {a : Unit}
    (hexisting : getFeedByGuid d feed.feedGuid = some existing)
    (hsame : existing.listed = feed.listed) (h : upsertFeed feed d = (.ok a, e)) :
    (e .feeds).map (fun r : FeedRow => r.feed.listed) =
      (d .feeds).map fun r : FeedRow => r.feed.listed := by
  obtain ⟨row, hfind, -⟩ := Option.map_eq_some_iff.mp hexisting
  have hfound := List.find?_some hfind
  have hany : ((d .feeds).any fun r : FeedRow => r.feed.feedGuid == feed.feedGuid) = true :=
    List.any_eq_true.mpr ⟨row, List.mem_of_find?_eq_some hfind, hfound⟩
  unfold upsertFeed at h
  rw [upsert_present d hany] at h
  rw [modify_ok_rows h, List.map_map]
  apply List.map_congr_left
  intro r hr
  rw [Function.comp_apply]
  split
  · rename_i hguid
    have hrow : getFeedByGuid d r.feed.feedGuid = some r.feed := by
      rw [getFeedByGuid, find_feed_of_mem hr]
      rfl
    rw [beq_iff_eq.mp hguid, hexisting, Option.some.injEq] at hrow
    rw [← hrow, hsame]
    rfl
  · rfl

end Content

section

variable [Platform]

/-- Each new row of the log takes the next seq. -/
def CountsRows (d e : Db) : Prop :=
  ∃ n : Nat, logLength e = logLength d + n ∧ nextSeq e = nextSeq d + n

omit [Platform] in
theorem CountsRows.of_events {d e : Db} (h : e .events = d .events) : CountsRows d e :=
  ⟨0, congrArg List.length h, by rw [nextSeq, nextSeq, h, Int.natCast_zero, add_zero]⟩

instance : IsPreorder Db CountsRows where
  refl _ := .of_events rfl
  trans s t u := by
    rintro ⟨m, hlength, hseq⟩ ⟨n, hlength', hseq'⟩
    exact ⟨m + n, by omega, by omega⟩

omit [Platform] in
theorem currentEventSeq_eq (d : Db) : currentEventSeq d = nextSeq d - 1 := by
  rw [currentEventSeq, nextSeq, add_sub_cancel_right]

omit [Platform] in
theorem CountsRows.logLength_eq {d e : Db} (h : CountsRows d e)
    (hseq : currentEventSeq e = currentEventSeq d) : logLength e = logLength d := by
  obtain ⟨n, hlength, hnext⟩ := h
  rw [currentEventSeq_eq, currentEventSeq_eq] at hseq
  omega

omit [Platform] in
theorem CountsRows.currentEventSeq_le {d e : Db} (h : CountsRows d e) :
    currentEventSeq d ≤ currentEventSeq e := by
  obtain ⟨n, -, hnext⟩ := h
  rw [currentEventSeq_eq, currentEventSeq_eq]
  omega

theorem countsRows_rule {signer : NodeSigner} : SignRule signer CountsRows where
  writes := fun hx hevents d => .of_events (hx .events hevents d)
  signs row _ d := by
    rcases insertEvent_run signer row d with ⟨e, hrun, hcontents⟩ | ⟨err, hrun⟩
    · rw [hrun]
      have hrows : e .events = d .events ++ [signedRow signer row (nextSeq d)] := by
        rw [hcontents, Contents.set_same]
      exact ⟨1, by simp [logLength, hrows], nextSeq_append hrows rfl⟩
    · rw [hrun]
      exact refl_of CountsRows d

omit [Platform] in
theorem marksList_of_counts {ts : List Table} {α : Type} {x : Stmt α} (hcounts : Steps CountsRows x) (hx : Writes (S := schema) ts x)
    (hts : ∀ t ∈ listTables, t ∉ ts) : Steps MarksList x := by
  intro d
  obtain ⟨n, hlength, -⟩ := hcounts d
  exact .of_same (by omega) (listInputs_congr fun t ht => hx t (hts t ht) d)

theorem deleteFeedWithEvent_marks {signer : NodeSigner} {feedGuid : String} {row : EventRow}
    {blocks : List (FeedBlock × String)} :
    Steps MarksList (deleteFeedWithEvent signer feedGuid row blocks) := by
  apply Steps.transaction_ok
  intro d events e h
  rw [read_bind_run] at h
  obtain ⟨_, d₁, hdelete, h⟩ := bind_ok h
  obtain ⟨_, d₂, hhold, h⟩ := bind_ok h
  obtain ⟨signed, d₃, hsign, h⟩ := bind_ok h
  have hrest : logLength d₃ ≤ logLength e :=
    @Logs.length_le retireTables [.feedBlocked] _ _
      ((signedEvent_steps.bind fun _ => (signBlocks_logs (by decide) (by decide) (by decide)
        List.mem_cons_self).bind fun _ => .pure _ : Steps (Logs _ _) _).run h)
  have hlog : logLength d₂ = logLength d := congrArg List.length
    (((writeHold_writes .events (by decide)).run hhold).trans
      ((deleteFeedSql_writes .events (by decide)).run hdelete))
  apply Marks.of_lt
  rw [← hlog]
  exact Nat.lt_of_lt_of_le (signEventRow_length hsign) hrest

theorem guidChangeTransition_marks {signer : NodeSigner} {uuid : Nat → String}
    {oldGuid newGuid sourceUrl : String} {now : Int} :
    Steps MarksList (guidChangeTransition signer uuid oldGuid newGuid sourceUrl now) := by
  apply Steps.transaction_ok
  intro d rows e h
  obtain ⟨_, d₁, hdelete, h⟩ := bind_ok h
  obtain ⟨retired, d₂, hretired, h⟩ := bind_ok h
  have hlog : logLength d₁ = logLength d :=
    congrArg List.length ((deleteFeedSql_writes .events (by decide)).run hdelete)
  obtain ⟨_, d₃, hsupersede, h⟩ := bind_ok h
  obtain ⟨superseded, d₄, hsuperseded, h⟩ := bind_ok h
  have hinsert : Writes (S := schema) [Table.feedGuidSupersessions]
      (insertGuidSupersession oldGuid newGuid sourceUrl now) :=
    (Writes.insertOrIgnore (by decide)).bind fun _ => Writes.pure ()
  have hmiddle : logLength d₃ = logLength d₂ :=
    congrArg List.length ((hinsert .events (by decide)).run hsupersede)
  have hlast : logLength d₄ ≤ logLength e := by
    rw [read_bind_run] at h
    cases hpending : getGuidChange d₄ sourceUrl with
    | none =>
      rw [hpending] at h
      cases h
      exact Nat.le_refl _
    | some row =>
      rw [hpending] at h
      obtain ⟨_, d₅, hclear, h⟩ := bind_ok h
      obtain ⟨marker, d₆, hmarker, h⟩ := bind_ok h
      cases h
      have hcleared : Writes (S := schema) [Table.feedGuidChanges] (deleteGuidChange sourceUrl) :=
        Writes.delete (by decide)
      have hsame : logLength d₅ = logLength d₄ :=
        congrArg List.length ((hcleared .events (by decide)).run hclear)
      rw [← hsame]
      exact (signEventRow_length hmarker).le
  have hfirst := signEventRow_length hretired
  have hsecond := signEventRow_length hsuperseded
  apply Marks.of_lt
  omega

theorem relocateFeed_marks {env : OperatorEnv} {feedGuid newUrl reason eventId : String}
    {outcome : RelocateOutcome} {d e : Db}
    (h : relocateFeed env feedGuid newUrl reason eventId d = (.ok outcome, e)) :
    MarksList d e := by
  unfold relocateFeed at h
  rw [read_bind_run] at h
  split at h
  · cases h
    exact refl_of MarksList d
  · rw [read_bind_run] at h
    cases hold : getFeedByGuid d feedGuid with
    | none =>
      rw [hold] at h
      cases h
    | some old =>
      rw [hold] at h
      simp only at h
      have hfeeds : ∀ {p : FeedRow → Bool} {f : FeedRow → FeedRow} {s t : Db},
          update (S := schema) .feeds p f s = (.ok (), t) → logLength t = logLength s := by
        intro p f s t hrun
        have hwrites : Writes (S := schema) [Table.feeds] (update (S := schema) .feeds p f) :=
          Writes.update (by decide)
        exact congrArg List.length ((hwrites .events (by decide)).run hrun)
      obtain ⟨_, d₁, hurl, h⟩ := bind_ok h
      obtain ⟨_, d₂, hself, h⟩ := bind_ok h
      obtain ⟨_, d₃, hclear, h⟩ := bind_ok h
      obtain ⟨_, d₄, hstate, h⟩ := bind_ok h
      have hlast : logLength d₄ = logLength d₃ :=
        congrArg List.length ((writeRelocationState_writes .events (by decide)).run hstate)
      rw [read_bind_run] at h
      cases hfeed : getFeedByGuid d₄ feedGuid with
      | none =>
        rw [hfeed] at h
        cases h
      | some feed =>
        rw [hfeed] at h
        obtain ⟨signed, d₅, hsign, h⟩ := bind_ok h
        cases h
        apply Marks.of_lt
        rw [← hfeeds hurl, ← hfeeds hself, ← hfeeds hclear, ← hlast]
        exact signEventRow_length hsign

omit [Platform] in
theorem insertEvents_length {signer : NodeSigner} {rows : List EventRow} {d e : Db}
    {seqs : List (Int × String × String)} (h : insertEvents signer rows d = (.ok seqs, e)) :
    logLength e = logLength d + rows.length := by
  induction rows generalizing d seqs with
  | nil =>
    cases h
    rfl
  | cons row rows ih =>
    obtain ⟨signed, d₁, hfirst, hrest⟩ := bind_ok h
    obtain ⟨rest, d₂, hrest, hpure⟩ := bind_ok hrest
    cases hpure
    rw [ih hrest, insertEvent_length hfirst, List.length_cons]
    omega

theorem ingestTransaction_marks {env : PrimaryEnv} {removalUuid : Nat → String}
    {c : IngestContent} {eventRows : List EventRow} {feedMove : Option FeedMoveWrite} {d : Db}
    (hc : c.OfFeed)
    (hsilent : eventRows = [] → staleTrackGuids d c = [] → SameListed d c) :
    MarksList d (ingestTransaction env removalUuid c eventRows feedMove d).2 := by
  apply Steps.transaction_ok_at
  intro seqs e h
  obtain ⟨_, d₁, hfeed, h⟩ := bind_ok h
  obtain ⟨_, d₂, hsets, h⟩ := bind_ok h
  rw [read_bind_run] at h
  obtain ⟨_, d₃, htracks, h⟩ := bind_ok h
  obtain ⟨_, d₄, hstale, h⟩ := bind_ok h
  obtain ⟨seqs', d₅, hevents, h⟩ := bind_ok h
  obtain ⟨_, d₆, hsync, h⟩ := bind_ok h
  have hbefore : ∀ t, t ∉ trackSetTables → t ∉ trackDeleteTables → d₄ t = d₂ t := by
    intro t hset hdelete
    have hremove := (Leaves.forEach (f := fun d : Db => d t) fun trackGuid _ =>
      removeStaleTrack_writes t hdelete).run hstale
    have hwrite := (Leaves.forEach (f := fun d : Db => d t) fun track _ =>
      writeTrack_writes t hset).run htracks
    exact hremove.trans hwrite
  have hafter : ∀ t, t ∉ readModelTables → t ∉ [Table.feedLeftUrls, .feedMoveState] →
      e t = d₅ t := by
    intro t hread hmove
    refine Eq.trans ?_ ((syncSourceReadModelsForFeed_writes t hread).run hsync)
    cases feedMove with
    | none =>
      cases h
      rfl
    | some mv =>
      obtain ⟨_, d₇, hwrite, hpure⟩ := bind_ok h
      cases hpure
      exact (writeFeedMove_writes t hmove).run hwrite
  have hlog : logLength d₄ = logLength d := by
    apply congrArg List.length
    rw [hbefore .events (by decide) (by decide), (replaceFeedSets_writes .events (by decide)).run hsets,
      (writeFeed_writes .events (by decide)).run hfeed]
  have hgrown : logLength e = logLength d + (eventRows ++ assignIds removalUuid
      ((orderBy (compareOn env.hashRank) (staleTrackGuids d₂ c)).map
        (trackRemovedEvent c.feed))).length := by
    rw [← hlog, ← insertEvents_length hevents]
    exact congrArg List.length (hafter .events (by decide) (by decide))
  by_cases hrows : (eventRows ++ assignIds removalUuid
      ((orderBy (compareOn env.hashRank) (staleTrackGuids d₂ c)).map
        (trackRemovedEvent c.feed))) = []
  · have hstay : staleTrackGuids d₂ c = staleTrackGuids d c := by
      unfold staleTrackGuids getTracksForFeed
      rw [(replaceFeedSets_writes .tracks (by decide)).run hsets,
        (writeFeed_writes .tracks (by decide)).run hfeed]
    obtain ⟨hnoRows, hnoRemovals⟩ := List.append_eq_nil_iff.mp hrows
    have hnone : staleTrackGuids d c = [] := by
      have hsorted : orderBy (compareOn env.hashRank) (staleTrackGuids d₂ c) = [] := by
        simpa [assignIds] using hnoRemovals
      have hperm := orderBy_perm (compareOn env.hashRank) (staleTrackGuids d₂ c)
      rw [hsorted, List.nil_perm] at hperm
      rw [← hstay, hperm]
    obtain ⟨⟨existing, hexisting, hlisted⟩, hitems⟩ := hsilent hnoRows hnone
    have hkept : ∀ t, t ∉ trackSetTables → t ∉ trackDeleteTables → t ∉ readModelTables →
        t ∉ [Table.feedLeftUrls, .feedMoveState] → t ≠ .events → e t = d₂ t := by
      intro t hset hdelete hread hmove hlog
      exact ((hafter t hread hmove).trans
        ((insertEvents_writes t (by simpa using hlog)).run hevents)).trans (hbefore t hset hdelete)
    apply Marks.of_same
    · rw [hgrown]
      exact Nat.le_add_right _ _
    · obtain ⟨_, d₀, hupsert, hdeletes⟩ := bind_ok hfeed
      have hrest : ∀ {t : Table}, t ≠ .sourceGoneAnswers → t ≠ .retiredSourceHolds →
          d₁ t = d₀ t := by
        intro t hanswers hholds
        obtain ⟨_, d', hfirst, hsecond⟩ := bind_ok hdeletes
        have hdeleted : ∀ {u : Table} {p : u.Row → Bool} {s s' : Db} {r : Except _ Unit}, t ≠ u →
            delete (S := schema) u p s = (r, s') → s' t = s t := fun hne hrun =>
          ((Writes.delete (List.mem_singleton.mpr rfl) : Writes (S := schema) [_] _) t
            (by simpa using hne)).run hrun
        exact (hdeleted hholds hsecond).trans (hdeleted hanswers hfirst)
      have hfeeds : (e .feeds).map (fun r : FeedRow => r.feed.listed) =
          (d .feeds).map fun r : FeedRow => r.feed.listed := by
        rw [hkept .feeds (by decide) (by decide) (by decide) (by decide) (by decide),
          (replaceFeedSets_writes .feeds (by decide)).run hsets, hrest (by decide) (by decide)]
        exact upsertFeed_listed hexisting hlisted hupsert
      have hobserved : e .feedUrlObservations = d .feedUrlObservations := by
        rw [hkept .feedUrlObservations (by decide) (by decide) (by decide) (by decide) (by decide),
          (replaceFeedSets_writes .feedUrlObservations (by decide)).run hsets,
          (writeFeed_writes .feedUrlObservations (by decide)).run hfeed]
      have hrows : e .feedRemoteItemsRaw = (d .feedRemoteItemsRaw).filter
          (fun r : FeedRemoteItemRaw => !(r.feedGuid == c.feed.feedGuid)) ++ c.remoteItems := by
        rw [hkept .feedRemoteItemsRaw (by decide) (by decide) (by decide) (by decide) (by decide),
          replaceFeedSets_remoteItems hsets, (writeFeed_writes .feedRemoteItemsRaw (by decide)).run hfeed]
      unfold listInputs getFeedUrlObservation
      rw [hfeeds, hobserved]
      congr 1
      funext feedGuid
      exact remoteItems_listed hc hitems hrows feedGuid
  · apply Marks.of_lt
    rw [hgrown]
    have hpos := List.length_pos_of_ne_nil hrows
    omega

omit [Platform] in
theorem draftIf_eq_nil {condition : Bool} {draft : EventDraft} :
    draftIf condition draft = [] ↔ condition = false := by
  cases condition <;> simp [draftIf]

theorem sameListed_of_noEvents {d : Db} {c : IngestContent} {now : Int} {warnings : List String}
    (hnone : buildDiffEvents d c now warnings = [])
    (hsource : ∀ existing, getFeedByGuid d c.feed.feedGuid = some existing →
      existing.releaseArtistSource = c.feed.releaseArtistSource) : SameListed d c := by
  unfold buildDiffEvents at hnone
  cases hexisting : getFeedByGuid d c.feed.feedGuid with
  | none =>
    rw [hexisting] at hnone
    simp [buildAllEvents] at hnone
  | some existing =>
    rw [hexisting] at hnone
    simp only [buildChangedEvents, List.append_eq_nil_iff, feedSetEvents, draftIf_eq_nil] at hnone
    obtain ⟨⟨hfeed, ⟨⟨⟨⟨⟨⟨⟨⟨⟨-, hitems⟩, -⟩, -⟩, -⟩, -⟩, -⟩, -⟩, -⟩, -⟩⟩, -⟩ := hnone
    have hguid : existing.feedGuid = c.feed.feedGuid := by
      obtain ⟨row, hfind, rfl⟩ := Option.map_eq_some_iff.mp hexisting
      have hfound := List.find?_some hfind
      exact beq_iff_eq.mp hfound
    have hfields : feedFieldsChanged.fields existing = feedFieldsChanged.fields c.feed :=
      bne_eq_false_iff_eq.mp hfeed
    simp only [feedFieldsChanged.fields, Prod.mk.injEq] at hfields
    obtain ⟨htitle, -, himage, -, -, -, -, hartist, -, -, -, hmedium, hurl⟩ := hfields
    have hchanged : feedRemoteItemsChanged (getFeedRemoteItemsForFeed d c.feed.feedGuid)
        c.remoteItems = false := hitems
    unfold feedRemoteItemsChanged at hchanged
    have hrows := rowsChanged_eq_false.mp hchanged
    have hsorted : c.remoteItems.Pairwise fun a b => a.position ≤ b.position := by
      have hstored : (getFeedRemoteItemsForFeed d c.feed.feedGuid).Pairwise
          fun a b => a.position ≤ b.position := by
        rw [getFeedRemoteItemsForFeed, orderBy_compareOn]
        exact sort_pairwise FeedRemoteItemRaw.position _
      have hpositions := congrArg (List.map Prod.fst) hrows
      rw [List.map_map, List.map_map] at hpositions
      have hle := List.pairwise_map.mpr hstored
      exact List.pairwise_map.mp (hpositions ▸ hle)
    refine ⟨⟨existing, hexisting, ?_⟩, ?_⟩
    · simp only [Feed.listed, hguid, hurl, htitle, himage, hmedium, hartist, hsource existing hexisting]
    · rw [orderBy_of_pairwise _ hsorted]
      have hlisted := congrArg (List.map fun q : Int × Option String × String × Option String ×
        Option String × String × Option String × Option String =>
          ListedItem.mk q.1 q.2.1 q.2.2.1 q.2.2.2.1 q.2.2.2.2.1 q.2.2.2.2.2.1) hrows
      rw [List.map_map, List.map_map] at hlisted
      exact hlisted

def signsContent (d : Db) (c : IngestContent) : Bool :=
  !(buildDiffEvents d c 0 []).isEmpty || !(staleTrackGuids d c).isEmpty

theorem changedTrackEvents_eq_nil {d : Db} {feedGuid : String} {t : TrackIngestBundle}
    {now : Int} {warnings : List String} :
    changedTrackEvents d feedGuid t now warnings = [] ↔
      changedTrackEvents d feedGuid t 0 [] = [] := by
  unfold changedTrackEvents
  simp only
  split
  · simp
  · rw [draftIf_eq_nil, draftIf_eq_nil]

theorem buildDiffEvents_eq_nil {d : Db} {c : IngestContent} {now : Int} {warnings : List String} :
    buildDiffEvents d c now warnings = [] ↔ buildDiffEvents d c 0 [] = [] := by
  unfold buildDiffEvents
  cases getFeedByGuid d c.feed.feedGuid with
  | none => simp [buildAllEvents]
  | some existing =>
    simp only [buildChangedEvents, List.append_eq_nil_iff, feedSetEvents, draftIf_eq_nil,
      List.flatMap_eq_nil_iff, @changedTrackEvents_eq_nil _ _ _ _ now warnings]

theorem buildDiffEvents_congr {d e : Db} {c : IngestContent} {now : Int} {warnings : List String}
    (h : SameOutside (S := schema) [Table.feedGuidChanges, .events] d e) :
    buildDiffEvents e c now warnings = buildDiffEvents d c now warnings := by
  unfold buildDiffEvents buildChangedEvents changedTrackEvents setsChanged getFeedByGuid
    getFeedPaymentRoutesForFeed getFeedListValueRawForFeed getFeedRemoteItemsForFeed
    getSourceContributorClaimsForFeed getSourceEntityIdsForFeed getSourceEntityLinksForFeed
    getSourceReleaseClaimsForFeed getSourceItemEnclosuresForFeed getSourceItemTranscriptsForFeed
    getSourcePlatformClaimsForFeed getLiveEventsForFeed getTracksForFeed
    getTrackRemoteItemsForFeedTrack
  rw [h .feeds (by decide), h .feedPaymentRoutes (by decide), h .feedListValueRaw (by decide),
    h .feedRemoteItemsRaw (by decide), h .sourceContributorClaims (by decide),
    h .sourceEntityIds (by decide), h .sourceEntityLinks (by decide),
    h .sourceReleaseClaims (by decide), h .sourceItemEnclosures (by decide),
    h .sourceItemTranscripts (by decide), h .sourcePlatformClaims (by decide),
    h .liveEvents (by decide), h .tracks (by decide), h .trackRemoteItemsRaw (by decide)]

/-- A body that gives a stored release artist another source makes an event. -/
def Operation.SignsSource (d : Db) (operation : Operation) : Prop :=
  ∀ env snapshot req body, operation = .ingest env snapshot req →
    ReachesContent env snapshot d req body →
      ∀ existing, getFeedByGuid d body.feedGuid = some existing →
        existing.releaseArtistSource ≠ some (deriveReleaseArtist body).2 →
          signsContent d (buildInput env req body d (admittedMove env req body d)).content = true

variable {env : IngestEnv} {snapshot d e : Db} {req : IngestFeedRequest} {body : IngestFeedData}
  {admission : Admission}

theorem admitContent_marks (hreach : ReachesContent env snapshot d req body)
    (hsigns : Operation.SignsSource d (.ingest env snapshot req))
    (hheld : admission.pendingGuidTransition =
      (classifySubmission d body.feedGuid req.sourceUrl req.canonicalUrl).held)
    (hmove : admission.recordMove = admittedMove env req body d)
    (hsame : SameOutside (S := schema) [Table.feedGuidChanges, .events] d e) :
    MarksList e (admitContent env req body admission e).2 := by
  have hcontent : (buildInput env req body e admission.recordMove).content =
      (buildInput env req body d (admittedMove env req body d)).content := by
    rw [hmove, buildInput_congr (hsame .feeds (by decide))]
  have hfeed : getFeedByGuid e body.feedGuid = getFeedByGuid d body.feedGuid := by
    rw [getFeedByGuid, getFeedByGuid, hsame .feeds (by decide)]
  apply admitContent_steps_each
  · exact fun heldGuid _ => guidChangeTransition_marks e
  · intro t ht contentWarnings
    apply ingestTransaction_marks BuildInput.content_ofFeed
    intro hrows hstale
    have hdrafts : buildDiffEvents d (buildInput env req body d
        (admittedMove env req body d)).content 0 [] = [] := by
      have hnone := hrows
      rw [assignIds, List.map_eq_nil_iff, List.zipIdx_eq_nil_iff, buildDiffEvents_congr hsame,
        hcontent] at hnone
      exact buildDiffEvents_eq_nil.mp hnone
    cases hclass : classifySubmission d body.feedGuid req.sourceUrl req.canonicalUrl with
    | guidChange heldGuid =>
      have hnew := (classifySubmission_guidChange hclass).1
      have hnone : getFeedByGuid d (buildInput env req body d
          (admittedMove env req body d)).content.feed.feedGuid = none := hnew
      simp [buildDiffEvents, hnone, buildAllEvents] at hdrafts
    | _ =>
      rw [hclass] at hheld
      obtain rfl := ht hheld
      have hstay : staleTrackGuids d (buildInput env req body d
          (admittedMove env req body d)).content = [] := by
        rw [hcontent] at hstale
        unfold staleTrackGuids getTracksForFeed at hstale ⊢
        rw [← hsame .tracks (by decide)]
        exact hstale
      have hsilent : signsContent d (buildInput env req body d
          (admittedMove env req body d)).content = false := by
        simp [signsContent, hdrafts, hstay]
      rw [hcontent]
      refine @sameListed_of_noEvents _ _ _ 0 [] ?_ ?_
      · rw [buildDiffEvents_congr hsame]
        exact hdrafts
      · intro existing hexisting
        by_contra hdiffers
        have hstored : getFeedByGuid d body.feedGuid = some existing := hfeed ▸ hexisting
        rw [hsigns env snapshot req body rfl hreach existing hstored hdiffers] at hsilent
        cases hsilent
  · exact fun isMove => writeDeclarations_steps
      (fun s t h => marksList_of_sameOutside h (by decide) (by decide)) fun _ _ => updateColumns_marks
  · exact fun s t h => marksList_of_observes h (by decide) (by decide)

theorem handleIngestFeed_marks
    (hsigns : Operation.SignsSource d (.ingest env snapshot req)) :
    MarksList d (handleIngestFeed env snapshot req d).2 := by
  apply ingest_steps
  · intro _ _
    apply handleSourceGoneReport_steps
    · exact fun s t h => marksList_of_sameOutside h (by decide) (by decide)
    · exact fun feedGuid row => deleteFeedWithEvent_marks
  · exact fun s t h => marksList_of_observes h (by decide) (by decide)
  · intro body warnings _ _ _ _
    exact deleteFeedWithEvent_marks d
  · intro body _ _ _ _
    exact marksList_of_counts (recordGuidChangeReturnForIngest_along countsRows_rule)
      recordGuidChangeReturnForIngest_writes (by decide) d
  · intro body heldGuid _ _ _
    exact marksList_of_counts (recordGuidChangePendingForIngest_along countsRows_rule)
      recordGuidChangePendingForIngest_writes (by decide) d
  · intro body admission e hreach hheld hmove hsame _
    exact admitContent_marks hreach hsigns hheld hmove hsame

theorem AdminRequest.marks {env : OperatorEnv} (request : AdminRequest) :
    MarksList d (request.handle env d).2 := by
  apply request.steps_each
  · exact fun s t h => marksList_of_logs h (by decide)
  · exact fun guid trackGuid _ => marksList_of_logs (handleRemoveTrack_logs d) (by decide)
  · exact fun _ feedGuid trackGuid newUrl => marksList_of_logs (patchTrackRow_logs d) (by decide)
  · exact fun guid block row blocks _ _ => deleteFeedWithEvent_marks d
  · exact fun guid newUrl reason eventId _ outcome e h => relocateFeed_marks h
  · exact fun guid => marksList_of_writes releaseRetiredSourceHold_writes (by decide) (by decide) d
  · intro guid decision reason _
    exact marksList_of_counts (decideGuidChangeRow_along countsRows_rule)
      (decideGuidChangeRow_writes env) (by decide) d

theorem Operation.marks {operation : Operation} (hsigns : operation.SignsSource d) :
    MarksList d (operation.next d) := by
  cases operation with
  | ingest env snapshot req => exact handleIngestFeed_marks hsigns
  | admin env tokenAccepted request =>
    exact (Steps.ite (fun d => request.marks) (.fail _) : Steps MarksList _) d
  | seedBlocks env entries => exact marksList_of_logs (seedBlocks_logs d) (by decide)
  | fillRetiredSourceHolds =>
    apply fillRetiredSourceHolds_steps
    intro hold
    exact marksList_of_writes (Writes.insertOrIgnore (List.mem_singleton.mpr rfl)) (by decide)
      (by decide)
  | peers write only => exact marksList_of_writes only (by decide) (by decide) d

theorem Operation.countsRows (operation : Operation) : CountsRows d (operation.next d) := by
  cases operation with
  | ingest env snapshot req => exact Operation.along (countsRows_rule : SignRule env.signer CountsRows) rfl
  | admin env tokenAccepted request =>
    exact Operation.along (countsRows_rule : SignRule env.signer CountsRows) rfl
  | seedBlocks env entries => exact Operation.along (countsRows_rule : SignRule env.signer CountsRows) rfl
  | fillRetiredSourceHolds =>
    exact Operation.along (countsRows_rule : SignRule { pubkeyHex := "", sign := fun _ => "" } _) trivial
  | peers write only =>
    exact Operation.along (countsRows_rule : SignRule { pubkeyHex := "", sign := fun _ => "" } _) trivial

/-- With the same highest seq the list has the same rows. -/
abbrev MarksSeq : Db → Db → Prop := Marks currentEventSeq listInputs

omit [Platform] in
theorem CountsRows.marksSeq (hcounts : CountsRows d e) (hmarks : MarksList d e) : MarksSeq d e :=
  ⟨hcounts.currentEventSeq_le, fun hsame => hmarks.2 (hcounts.logLength_eq hsame)⟩

omit [Platform] in
theorem marksSeq_of_sameReplica (h : SameReplica e d) : MarksSeq d e := by
  apply Marks.of_same
  · unfold currentEventSeq
    rw [h .events (by decide)]
  · apply listInputs_congr
    intro t ht
    refine h t ?_
    rintro rfl
    exact absurd ht (by decide)

theorem applyOne_marksSeq (ev : Event) (d : Db) : MarksSeq d (applyOne ev d) := by
  cases hnew : isNew d ev with
  | false =>
    rw [applyOne_old hnew]
    exact refl_of MarksSeq d
  | true =>
    apply Marks.of_lt
    rw [currentEventSeq_eq, currentEventSeq_eq, applyOne_nextSeq hnew]
    omega

theorem applyEach_marksSeq (events : List Event) (d : Db) : MarksSeq d (applyEach events d) := by
  induction events generalizing d with
  | nil => exact refl_of MarksSeq d
  | cons ev events ih => exact trans_of MarksSeq (applyOne_marksSeq ev d) (ih _)

theorem Delivery.marksSeq (x : Delivery) (d : Db) : MarksSeq d (x.apply d) := by
  cases x with
  | batch commits events =>
    unfold Delivery.apply
    simp only [applyEvents_db]
    split
    · exact trans_of MarksSeq (applyEach_marksSeq _ d)
        (marksSeq_of_sameReplica (committed_sameReplica _ d))
    · exact refl_of MarksSeq d
  | single commits ev =>
    unfold Delivery.apply
    cases commits with
    | false => exact refl_of MarksSeq d
    | true =>
      refine trans_of MarksSeq ?_ (marksSeq_of_sameReplica (applySingleEvent_db ev d))
      split
      · exact applyOne_marksSeq ev d
      · exact refl_of MarksSeq d

/-- The database of a node and the list that it keeps. -/
structure ArtistNode where
  db : Db
  cache : Option ArtistNameCacheEntry

/-- What changes the database of a primary or of a replica, and a request for the list. -/
inductive ArtistStep where
  | operation (operation : Operation)
  | delivery (delivery : Delivery)
  | request (now builtAt : Nat)

def ArtistStep.next (minRebuildInterval : Nat) : ArtistStep → ArtistNode → ArtistNode
  | .operation x, node => { node with db := x.next node.db }
  | .delivery x, node => { node with db := x.apply node.db }
  | .request now builtAt, node =>
    { node with cache := (getOrBuild minRebuildInterval now builtAt node.db node.cache).2 }

theorem ArtistStep.next_operation_cache (minRebuildInterval : Nat) (x : Operation)
    (node : ArtistNode) :
    (ArtistStep.next minRebuildInterval (.operation x) node).cache = node.cache := rfl

def ArtistStep.SignsSource (d : Db) : ArtistStep → Prop
  | .operation x => x.SignsSource d
  | .delivery _ | .request _ _ => True

/-- A run of a node from its start. -/
inductive ArtistRun (minRebuildInterval : Nat) (ok : Db → ArtistStep → Prop) : ArtistNode → Prop
  | start : ArtistRun minRebuildInterval ok { db := Database.empty schema, cache := none }
  | step {node : ArtistNode} (step : ArtistStep) : ArtistRun minRebuildInterval ok node →
      ok node.db step → ArtistRun minRebuildInterval ok (step.next minRebuildInterval node)

theorem ArtistStep.marksSeq {minRebuildInterval : Nat} {node : ArtistNode} {step : ArtistStep}
    (hsigns : step.SignsSource node.db) :
    MarksSeq node.db (step.next minRebuildInterval node).db := by
  cases step with
  | operation operation => exact operation.countsRows.marksSeq (Operation.marks hsigns)
  | delivery delivery => exact delivery.marksSeq node.db
  | request now builtAt => exact refl_of MarksSeq node.db

/-- A kept list of the highest seq is the list of the database. -/
def ArtistNode.Coherent (node : ArtistNode) : Prop :=
  ∀ entry ∈ node.cache, entry.seqAtBuild ≤ currentEventSeq node.db ∧
    (entry.seqAtBuild = currentEventSeq node.db →
      entry.list = buildArtistNameList (listInputs node.db))

theorem ArtistNode.Coherent.of_marks {node : ArtistNode} (h : node.Coherent)
    (hmarks : MarksSeq node.db e) : ArtistNode.Coherent { node with db := e } := by
  intro entry hentry
  obtain ⟨hle, hlist⟩ := h entry hentry
  refine ⟨hle.trans hmarks.1, fun hseq => ?_⟩
  have hsame : currentEventSeq e = currentEventSeq node.db :=
    le_antisymm (hseq.symm.trans_le hle) hmarks.1
  rw [hmarks.2 hsame]
  exact hlist (hseq.trans hsame)

theorem ArtistNode.Coherent.next {minRebuildInterval : Nat} {node : ArtistNode}
    {step : ArtistStep} (h : node.Coherent) (hsigns : step.SignsSource node.db) :
    (step.next minRebuildInterval node).Coherent := by
  have hmarks : MarksSeq node.db (step.next minRebuildInterval node).db :=
    ArtistStep.marksSeq hsigns
  cases step with
  | operation operation => exact h.of_marks hmarks
  | delivery delivery => exact h.of_marks hmarks
  | request now builtAt =>
    intro entry hentry
    simp only [ArtistStep.next, getOrBuild] at hentry ⊢
    split at hentry
    · exact h entry hentry
    · cases hentry
      exact ⟨le_rfl, fun _ => rfl⟩

theorem ArtistRun.coherent {minRebuildInterval : Nat} {node : ArtistNode}
    (hrun : ArtistRun minRebuildInterval (fun d step => step.SignsSource d) node) :
    node.Coherent := by
  induction hrun with
  | start => exact fun entry hentry => absurd hentry (by simp)
  | step step _ hsigns ih => exact ih.next hsigns

theorem getOrBuild_kept {minRebuildInterval now builtAt : Nat} {entry : ArtistNameCacheEntry}
    (hseq : entry.seqAtBuild = currentEventSeq d) :
    (getOrBuild minRebuildInterval now builtAt d (some entry)).1 = entry.list := by
  simp [getOrBuild, Option.filter, hseq]

theorem getOrBuild_first (minRebuildInterval now builtAt : Nat) (d : Db) :
    ∃ entry : ArtistNameCacheEntry, (getOrBuild minRebuildInterval now builtAt d none).2 = some entry ∧
      entry.list = buildArtistNameList (listInputs d) ∧
        entry.seqAtBuild = currentEventSeq d ∧ entry.builtAt = builtAt := ⟨_, rfl, rfl, rfl, rfl⟩

/-- While each body that gives a stored release artist another source makes an event, every
change of a row of the list raises the highest seq, and a list that is old enough is the
one of the database. -/
theorem artistNameList_current {minRebuildInterval : Nat} {node : ArtistNode}
    (hrun : ArtistRun minRebuildInterval (fun d step => step.SignsSource d) node) :
    (∀ step : ArtistStep, step.SignsSource node.db →
      listInputs (step.next minRebuildInterval node).db ≠ listInputs node.db →
        currentEventSeq node.db < currentEventSeq (step.next minRebuildInterval node).db) ∧
    ∀ now builtAt, (∀ entry ∈ node.cache, minRebuildInterval ≤ now - entry.builtAt) →
      (getOrBuild minRebuildInterval now builtAt node.db node.cache).1 =
        buildArtistNameList (listInputs node.db) := by
  constructor
  · intro step hsigns hchanged
    have hmarks : MarksSeq node.db (step.next minRebuildInterval node).db :=
      ArtistStep.marksSeq hsigns
    exact lt_of_le_of_ne hmarks.1 fun hsame => hchanged (hmarks.2 hsame.symm)
  · intro now builtAt hold
    simp only [getOrBuild]
    split
    · rename_i entry hentry
      rw [Option.filter_eq_some_iff] at hentry
      obtain ⟨hcached, hkept⟩ := hentry
      have hage := hold entry hcached
      simp only [Bool.or_eq_true, beq_iff_eq, decide_eq_true_eq] at hkept
      rcases hkept with hseq | hrecent
      · exact (hrun.coherent entry hcached).2 hseq
      · omega
    · rfl

end

def listFeedUpserted (feedGuid feedUrl rawMedium : String) (now : Int) : EventPayload :=
  .feedUpserted
    { feed := { runFeed feedGuid feedUrl now with rawMedium := some rawMedium }
      reason := none }

def listItemsReplaced (feedGuid medium remoteFeedGuid source : String) : EventPayload :=
  .feedRemoteItemsReplaced
    { feedGuid := feedGuid
      remoteItems :=
        [{ feedGuid := feedGuid
           position := 0
           medium := some medium
           remoteFeedGuid := remoteFeedGuid
           remoteFeedUrl := none
           rel := none
           source := source
           remoteItemGuid := none
           remoteItemTitle := none }] }

def listMediumClaimed (feedGuid rawMedium : String) (observedAt : Int) : EventPayload :=
  .sourceReleaseClaimsReplaced
    { feedGuid := feedGuid
      claims :=
        [{ feedGuid := feedGuid
           entityType := "feed"
           entityId := feedGuid
           position := 0
           claimType := "raw_medium"
           claimValue := rawMedium
           source := "rss_metadata"
           extractionPath := "feed.raw_medium"
           observedAt := observedAt }] }

/-- The album with an artist of its own. -/
def bandUpserted : EventPayload :=
  .feedUpserted
    { feed :=
        { runFeed "f1" sampleUrl 3 with
          rawMedium := some "music"
          releaseArtist := some "Band"
          releaseArtistSource := some "itunes_author" }
      reason := none }

/-- The events of a publisher feed and of an album, which name each other. -/
def listRecording : Recording where
  texts :=
    [(listFeedUpserted "p1" otherUrl "publisher" 1,
      "\x7b\"feed\":\x7b\"feed_guid\":\"p1\",\"feed_url\":\"https://b.example/feed\",\"" ++
        "title\":\"a\",\"title_lower\":\"a\",\"description\":null,\"image_url\":null,\"pu" ++
        "blisher\":null,\"language\":null,\"explicit\":false,\"itunes_type\":null,\"relea" ++
        "se_artist\":\"Unknown Artist\",\"release_artist_sort\":null,\"release_date\":nul" ++
        "l,\"release_kind\":\"unknown\",\"episode_count\":0,\"newest_item_at\":null,\"old" ++
        "est_item_at\":null,\"created_at\":1,\"updated_at\":1,\"raw_medium\":\"publisher" ++
        "\",\"last_build_date\":null,\"release_artist_source\":\"placeholder\"\x7d\x7d"),
      (listItemsReplaced "p1" "music" "f1" "podcast_remote_item",
       "\x7b\"feed_guid\":\"p1\",\"remote_items\":[\x7b\"id\":null,\"feed_guid\":\"p1\"," ++
         "\"position\":0,\"medium\":\"music\",\"remote_feed_guid\":\"f1\",\"remote_feed_ur" ++
         "l\":null,\"rel\":null,\"source\":\"podcast_remote_item\"\x7d]\x7d"),
      (listMediumClaimed "p1" "publisher" 1,
       "\x7b\"feed_guid\":\"p1\",\"claims\":[\x7b\"id\":null,\"feed_guid\":\"p1\",\"enti" ++
         "ty_type\":\"feed\",\"entity_id\":\"p1\",\"position\":0,\"claim_type\":\"raw_medi" ++
         "um\",\"claim_value\":\"publisher\",\"source\":\"rss_metadata\",\"extraction_path" ++
         "\":\"feed.raw_medium\",\"observed_at\":1\x7d]\x7d"),
      (runObserved otherUrl "p1" 1,
       "\x7b\"url\":\"https://b.example/feed\",\"feed_guid\":\"p1\",\"observed_at\":1" ++
         "\x7d"),
      (listFeedUpserted "f1" sampleUrl "music" 2,
       "\x7b\"feed\":\x7b\"feed_guid\":\"f1\",\"feed_url\":\"https://a.example/feed\",\"" ++
         "title\":\"a\",\"title_lower\":\"a\",\"description\":null,\"image_url\":null,\"pu" ++
         "blisher\":null,\"language\":null,\"explicit\":false,\"itunes_type\":null,\"relea" ++
         "se_artist\":\"Unknown Artist\",\"release_artist_sort\":null,\"release_date\":nul" ++
         "l,\"release_kind\":\"unknown\",\"episode_count\":0,\"newest_item_at\":null,\"old" ++
         "est_item_at\":null,\"created_at\":2,\"updated_at\":2,\"raw_medium\":\"music\",\"" ++
         "last_build_date\":null,\"release_artist_source\":\"placeholder\"\x7d\x7d"),
      (listItemsReplaced "f1" "publisher" "p1" "podcast_publisher",
       "\x7b\"feed_guid\":\"f1\",\"remote_items\":[\x7b\"id\":null,\"feed_guid\":\"f1\"," ++
         "\"position\":0,\"medium\":\"publisher\",\"remote_feed_guid\":\"p1\",\"remote_fee" ++
         "d_url\":null,\"rel\":null,\"source\":\"podcast_publisher\"\x7d]\x7d"),
      (listMediumClaimed "f1" "music" 2,
       "\x7b\"feed_guid\":\"f1\",\"claims\":[\x7b\"id\":null,\"feed_guid\":\"f1\",\"enti" ++
         "ty_type\":\"feed\",\"entity_id\":\"f1\",\"position\":0,\"claim_type\":\"raw_medi" ++
         "um\",\"claim_value\":\"music\",\"source\":\"rss_metadata\",\"extraction_path\":" ++
         "\"feed.raw_medium\",\"observed_at\":2\x7d]\x7d"),
      (runObserved sampleUrl "f1" 2,
       "\x7b\"url\":\"https://a.example/feed\",\"feed_guid\":\"f1\",\"observed_at\":2" ++
         "\x7d"),
      (bandUpserted,
       "\x7b\"feed\":\x7b\"feed_guid\":\"f1\",\"feed_url\":\"https://a.example/feed\",\"" ++
         "title\":\"a\",\"title_lower\":\"a\",\"description\":null,\"image_url\":null,\"pu" ++
         "blisher\":null,\"language\":null,\"explicit\":false,\"itunes_type\":null,\"relea" ++
         "se_artist\":\"Band\",\"release_artist_sort\":null,\"release_date\":null,\"releas" ++
         "e_kind\":\"unknown\",\"episode_count\":0,\"newest_item_at\":null,\"oldest_item_a" ++
         "t\":null,\"created_at\":3,\"updated_at\":3,\"raw_medium\":\"music\",\"last_build" ++
         "_date\":null,\"release_artist_source\":\"itunes_author\"\x7d\x7d")]
  signatures :=
    [{ eventId := "ac"
       payload := listFeedUpserted "p1" otherUrl "publisher" 1
       subjectGuid := "p1"
       createdAt := 1
       seq := 1
       signature :=
         "3d7763312893ea971f82635579e18dacc4a86905a5698eb60996593a6859d8dc29f7e165ea83b648" ++
           "338be5a295d0fd5d0d359846dacfcf489f5826a280e0ef06" },
      { eventId := "ac0"
        payload := listItemsReplaced "p1" "music" "f1" "podcast_remote_item"
        subjectGuid := "p1"
        createdAt := 1
        seq := 2
        signature :=
          "3b477a57a5e37f55c77a2249b79f8bb592e35f701374dc4179f5f250cfb478fc75ff929bf6428391" ++
            "b1129e08d387f47afae9a852dda34bbd975285e53eeaa601" },
      { eventId := "ac00"
        payload := listMediumClaimed "p1" "publisher" 1
        subjectGuid := "p1"
        createdAt := 1
        seq := 3
        signature :=
          "411000850b61766c23b5f13e9967e95487a64845dcc3e95a17d19e68e916971ebd047c8fced8c58e" ++
            "0cb57da765997d10c6b45e1032512ca959bad3bfe1364b0c" },
      { eventId := "au"
        payload := runObserved otherUrl "p1" 1
        subjectGuid := "p1"
        createdAt := 1
        seq := 4
        signature :=
          "52159799c916ff8b3668afa77de078879ccfe81a4ecea8603298f8d22700efa2873010396f7da710" ++
            "4316fc0d9c776b4c858d4d91b62f4c3b187bd239f708e201" },
      { eventId := "bc"
        payload := listFeedUpserted "f1" sampleUrl "music" 2
        subjectGuid := "f1"
        createdAt := 2
        seq := 5
        signature :=
          "2564e61a2658ae30d376bcba7b522a89d15646f3d6928a2944d0683651fd9d9e971d6435b0c36804" ++
            "44d2329c78514cd9e0b166982fbb95672e02db4cb026060b" },
      { eventId := "bc0"
        payload := listItemsReplaced "f1" "publisher" "p1" "podcast_publisher"
        subjectGuid := "f1"
        createdAt := 2
        seq := 6
        signature :=
          "1ff95bee037bc1dd5d80bc1c8f0cc9953d21817e171fecf8c982873421572b393462dd440db0f4fc" ++
            "43fe0c65bdc83884d2a54a48b118148cc0e892dca4dcad07" },
      { eventId := "bc00"
        payload := listMediumClaimed "f1" "music" 2
        subjectGuid := "f1"
        createdAt := 2
        seq := 7
        signature :=
          "5c60b07b50e817d1304a96d363500d14b2f905c9fb3ac67a2c1e53876f329671b8506f15cea94669" ++
            "9b9a43328bc35b123c4c4b9d491d3e3903c636d3129fa903" },
      { eventId := "bu"
        payload := runObserved sampleUrl "f1" 2
        subjectGuid := "f1"
        createdAt := 2
        seq := 8
        signature :=
          "f951629390313c2fa1450cb692c92eb082e9e26826bbb432f04a7b24657895701cec30203ff0b22a" ++
            "582fe0556438b240b7aa67975aaff1a28559c083f21f9009" },
      { eventId := "dc"
        payload := bandUpserted
        subjectGuid := "f1"
        createdAt := 3
        seq := 9
        signature :=
          "e101a31b0024a80837253d036e76d28832b83d0734570c95b39df5e8a30390f70cc4caf685d808e6" ++
            "e4ecc8014d987b3816fbaa7a16065a89f7bf591af24b3101" }]

@[reducible] def listPlatform : Platform := listRecording.platform

section Sample

attribute [local instance] listPlatform

def listedBody (feedGuid rawMedium : String) (authorName : Option String)
    (item : IngestRemoteFeedRef) : IngestFeedData :=
  { sampleBody feedGuid [] with
    rawMedium := some rawMedium
    authorName := authorName
    remoteItems := [item] }

def listedItem (medium remoteFeedGuid : String) (publisherReference : Bool) :
    IngestRemoteFeedRef where
  position := 0
  medium := some medium
  remoteFeedGuid := remoteFeedGuid
  remoteFeedUrl := none
  rel := none
  itemGuid := none
  itemTitle := none
  publisherReference := publisherReference

/-- A publisher feed that lists one album. -/
def publisherIngest : Operation :=
  .ingest (listRecording.env 'a' 1) (Database.empty schema)
    (runRequest otherUrl otherUrl []
      (listedBody "p1" "publisher" none (listedItem "music" "f1" false)))

/-- The album, which names the publisher feed. -/
def albumIngest (tag : Char) (now : Int) (authorName : Option String) : Operation :=
  .ingest (listRecording.env tag now) (Database.empty schema)
    (runRequest sampleUrl sampleUrl []
      (listedBody "f1" "music" authorName (listedItem "publisher" "p1" true)))

def publisherNode : ArtistNode :=
  ArtistStep.next 30 (.operation publisherIngest) { db := Database.empty schema, cache := none }

def albumNode : ArtistNode :=
  ArtistStep.next 30 (.operation (albumIngest 'b' 2 none)) publisherNode

/-- A request builds the list. -/
def askedNode : ArtistNode := ArtistStep.next 30 (.request 0 0) albumNode

/-- Then the album states as its author the text that stood in for one. -/
def authorNode : ArtistNode :=
  ArtistStep.next 30 (.operation (albumIngest 'c' 3 (some "Unknown Artist"))) askedNode

def sampleListedFeed (feedGuid feedUrl rawMedium releaseArtistSource : String) : ListedFeed where
  feedGuid := feedGuid
  feedUrl := feedUrl
  title := "a"
  imageUrl := none
  rawMedium := some rawMedium
  releaseArtist := some "Unknown Artist"
  releaseArtistSource := some releaseArtistSource

def sampleRemoteItem (feedGuid medium remoteFeedGuid source : String) : FeedRemoteItemRaw where
  feedGuid := feedGuid
  position := 0
  medium := some medium
  remoteFeedGuid := remoteFeedGuid
  remoteFeedUrl := none
  rel := none
  source := source
  remoteItemGuid := none
  remoteItemTitle := none

def sampleRemoteItems : List FeedRemoteItemRaw :=
  [sampleRemoteItem "p1" "music" "f1" "podcast_remote_item",
    sampleRemoteItem "f1" "publisher" "p1" "podcast_publisher"]

def sampleObservations : List FeedUrlObservation :=
  [{ url := otherUrl, feedGuid := "p1", observedAt := 1 },
    { url := sampleUrl, feedGuid := "f1", observedAt := 2 }]

/-- The rows of the list, with the source of the artist of the album. -/
def sampleInputs (releaseArtistSource : String) : ListInputs where
  feeds :=
    [sampleListedFeed "p1" otherUrl "publisher" "placeholder",
      sampleListedFeed "f1" sampleUrl "music" releaseArtistSource]
  remoteItems feedGuid :=
    (orderBy (compareOn FeedRemoteItemRaw.position)
      (sampleRemoteItems.filter fun r => r.feedGuid == feedGuid)).map FeedRemoteItemRaw.listed
  observedGuid url :=
    (sampleObservations.find? fun r => r.url == url).map FeedUrlObservation.feedGuid

theorem listInputs_sample {d : Db} {releaseArtistSource : String}
    (hfeeds : (d .feeds).map (fun r : FeedRow => r.feed.listed) =
      (sampleInputs releaseArtistSource).feeds)
    (hitems : d .feedRemoteItemsRaw = sampleRemoteItems)
    (hobserved : d .feedUrlObservations = sampleObservations) :
    listInputs d = sampleInputs releaseArtistSource := by
  unfold listInputs getFeedRemoteItemsForFeed getFeedUrlObservation
  rw [hfeeds, hitems, hobserved]
  rfl

theorem albumNode_rows :
    getFeedByGuid publisherNode.db "f1" = none ∧
      ((albumNode.db .feeds).map (fun r : FeedRow => r.feed.listed) =
        (sampleInputs "placeholder").feeds) ∧
      albumNode.db .feedRemoteItemsRaw = sampleRemoteItems ∧
      albumNode.db .feedUrlObservations = sampleObservations := by
  decide +kernel

theorem authorNode_rows :
    ((authorNode.db .feeds).map (fun r : FeedRow => r.feed.listed) =
        (sampleInputs "itunes_author").feeds) ∧
      authorNode.db .feedRemoteItemsRaw = sampleRemoteItems ∧
      authorNode.db .feedUrlObservations = sampleObservations ∧
      currentEventSeq authorNode.db = currentEventSeq albumNode.db := by
  decide +kernel

theorem sampleInputs_differ :
    (buildArtistNameList (sampleInputs "placeholder")).rows.map ArtistNameRow.linkFacts ≠
      (buildArtistNameList (sampleInputs "itunes_author")).rows.map ArtistNameRow.linkFacts := by
  decide +kernel

theorem askedNode_cache : askedNode.cache = (getOrBuild 30 0 0 albumNode.db none).2 := rfl

/-- The artist of a confirmed album is missing from the list, also when the copy is old. -/
theorem artistNameList_stale :
    ¬ ∀ (minRebuildInterval : Nat) (node : ArtistNode),
        ArtistRun minRebuildInterval (fun _ _ => True) node →
          ∀ now builtAt, (∀ entry ∈ node.cache, minRebuildInterval ≤ now - entry.builtAt) →
            (getOrBuild minRebuildInterval now builtAt node.db node.cache).1 =
              buildArtistNameList (listInputs node.db) := by
  intro hall
  have hpublisher : ArtistRun 30 (fun _ _ => True) publisherNode :=
    .step (.operation publisherIngest) .start trivial
  have halbum : ArtistRun 30 (fun _ _ => True) albumNode :=
    .step (.operation (albumIngest 'b' 2 none)) hpublisher trivial
  have hasked : ArtistRun 30 (fun _ _ => True) askedNode := .step (.request 0 0) halbum trivial
  have hauthor : ArtistRun 30 (fun _ _ => True) authorNode :=
    .step (.operation (albumIngest 'c' 3 (some "Unknown Artist"))) hasked trivial
  obtain ⟨entry, hcache, hlist, hbuildSeq, hbuilt⟩ := getOrBuild_first 30 0 0 albumNode.db
  have hkept : authorNode.cache = askedNode.cache := ArtistStep.next_operation_cache 30 _ askedNode
  have hkeeps := (hkept.trans askedNode_cache).trans hcache
  obtain ⟨hfeeds, hitems, hobserved, hseq⟩ := authorNode_rows
  obtain ⟨-, hfeeds', hitems', hobserved'⟩ := albumNode_rows
  have hsame := hall 30 authorNode hauthor 60 60 fun other hother => by
    rw [hkeeps, Option.mem_some_iff] at hother
    rw [← hother, hbuilt]
    decide
  rw [hkeeps, getOrBuild_kept (hbuildSeq.trans hseq.symm), hlist, listInputs_sample hfeeds hitems hobserved,
    listInputs_sample hfeeds' hitems' hobserved'] at hsame
  exact sampleInputs_differ (congrArg (fun list => list.rows.map ArtistNameRow.linkFacts) hsame)

/-- The album states an artist after the list was built. -/
def bandNode : ArtistNode :=
  ArtistStep.next 30 (.operation (albumIngest 'd' 3 (some "Band"))) askedNode

theorem bandNode_signs :
    (ArtistStep.operation (albumIngest 'd' 3 (some "Band"))).SignsSource askedNode.db := by
  intro env snapshot req body hingest hreach existing hexisting hother
  cases hingest
  cases hreach.carries
  decide +kernel

theorem bandNode_changed : listInputs bandNode.db ≠ listInputs askedNode.db := by
  intro hsame
  exact absurd (congrArg ListInputs.feeds hsame) (by decide +kernel)

/-- A node took both feeds and built the list.  The stored album then gets another artist, which
raises the highest seq, and the next request builds the list again. -/
theorem artistNameList_current_album :
    bandNode.cache = askedNode.cache ∧ askedNode.cache.isSome = true ∧
      listInputs bandNode.db ≠ listInputs askedNode.db ∧
      currentEventSeq askedNode.db < currentEventSeq bandNode.db ∧
      (getOrBuild 30 60 60 bandNode.db bandNode.cache).1 =
        buildArtistNameList (listInputs bandNode.db) := by
  have hpublisher : ArtistRun 30 (fun d step => step.SignsSource d) publisherNode := by
    refine .step (.operation publisherIngest) .start ?_
    intro env snapshot req body _ _ existing hexisting
    cases hexisting
  have halbum : ArtistRun 30 (fun d step => step.SignsSource d) albumNode := by
    refine .step (.operation (albumIngest 'b' 2 none)) hpublisher ?_
    intro env snapshot req body hingest hreach existing hexisting
    cases hingest
    cases hreach.carries
    exact absurd (albumNode_rows.1.symm.trans hexisting) (by simp)
  have hasked : ArtistRun 30 (fun d step => step.SignsSource d) askedNode :=
    .step (.request 0 0) halbum trivial
  have hband : ArtistRun 30 (fun d step => step.SignsSource d) bandNode :=
    .step (.operation (albumIngest 'd' 3 (some "Band"))) hasked bandNode_signs
  obtain ⟨entry, hcache, -, -, hbuilt⟩ := getOrBuild_first 30 0 0 albumNode.db
  have hkept : bandNode.cache = askedNode.cache := ArtistStep.next_operation_cache 30 _ askedNode
  have hentry : askedNode.cache = some entry := askedNode_cache.trans hcache
  refine ⟨hkept, by rw [hentry]; rfl, bandNode_changed,
    (artistNameList_current hasked).1 _ bandNode_signs bandNode_changed,
    (artistNameList_current hband).2 60 60 fun other hother => ?_⟩
  rw [hkept, hentry, Option.mem_some_iff] at hother
  rw [← hother, hbuilt]
  decide

end Sample

end Stophammer
