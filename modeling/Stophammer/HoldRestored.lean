import Stophammer.HoldFill
import Stophammer.Recording
import Stophammer.Replay
import Stophammer.RetireLog

/-!
# The holds that the fill restores

The log gives what a retirement had: its last event of content names the URL that the record had,
because each operation that gives a record another URL signs its content.  So the fill writes
the hold that the retirement writes with no block.
-/

namespace Stophammer

open Relational Statement

section

variable [Platform]

section Retire

variable {d e : Db}

instance : Std.TransCmp fun a b : StoredEvent => compare b.seq a.seq where
  eq_swap := @fun _ _ => Std.OrientedCmp.eq_swap
  isLE_trans hab hbc := Std.TransCmp.isLE_trans hbc hab

def SortedLog (d : Db) : Prop := (d .events).Pairwise fun a b => a.seq < b.seq

theorem sortedLog_rule (signer : NodeSigner) : SignRule signer (Keeps SortedLog) where
  writes := fun {_ _ x} hx hevents d hd => by
    have hsame : (x d).2 .events = d .events := hx .events hevents d
    rw [SortedLog, hsame]
    exact hd
  signs row _ d hd := by
    rcases insertEvent_run signer row d with ⟨e, hrun, hcontents⟩ | ⟨err, hrun⟩
    · rw [hrun, SortedLog, hcontents, Contents.set_same, List.pairwise_append]
      refine ⟨hd, List.pairwise_singleton _ _, fun r hr r' hr' => ?_⟩
      rw [List.mem_singleton.mp hr']
      exact seq_lt_nextSeq d hr
    · rw [hrun]
      exact hd

theorem run_sortedLog {ok : Db → Operation → Prop} {history : List RunStep}
    (hrun : PrimaryRun ok history d) : SortedLog d :=
  hrun.keeps List.Pairwise.nil fun _ operation _ => operation.along_each sortedLog_rule

omit [Platform] in
theorem seq_injective {rows : List StoredEvent} (h : rows.Pairwise fun a b => a.seq < b.seq)
    {a b : StoredEvent} (ha : a ∈ rows) (hb : b ∈ rows) (hseq : a.seq = b.seq) : a = b := by
  have hnodup : (rows.map StoredEvent.seq).Nodup :=
    List.pairwise_map.mpr (h.imp fun hlt => ne_of_lt hlt)
  exact List.inj_on_of_nodup_map hnodup ha hb hseq

omit [Platform] in
theorem lastUpsertBefore_eq {rows later : List StoredEvent} {r : StoredEvent}
    (hsorted : SortedLog d) (hsplit : d .events = rows ++ r :: later) (guid : String) :
    lastUpsertBefore d guid r.seq = lastContent rows guid := by
  rw [SortedLog, hsplit] at hsorted
  obtain ⟨hrows, hback, hfront⟩ := List.pairwise_append.mp hsorted
  have hearlier : (d .events).filter (fun c : StoredEvent =>
      c.eventType == .feedUpserted && c.subjectGuid == guid && decide (c.seq < r.seq)) =
        rows.filter (isContentOf guid) := by
    have hlate : ∀ c ∈ r :: later, ¬ c.seq < r.seq := by
      intro c hc
      rcases List.mem_cons.mp hc with rfl | hc
      · exact lt_irrefl _
      · exact not_lt.mpr (le_of_lt ((List.pairwise_cons.mp hback).1 c hc))
    have hnone : (r :: later).filter (fun c : StoredEvent =>
        c.eventType == .feedUpserted && c.subjectGuid == guid && decide (c.seq < r.seq)) = [] :=
      List.filter_eq_nil_iff.mpr fun c hc => by simp [hlate c hc]
    rw [hsplit, List.filter_append, hnone, List.append_nil]
    apply List.filter_congr
    intro c hc
    rw [decide_eq_true (hfront c hc r List.mem_cons_self), Bool.and_true]
    rfl
  have hcontent := hrows.filter (isContentOf guid)
  rw [lastUpsertBefore, hearlier, lastContent]
  refine @orderBy_head _ (fun a b : StoredEvent => compare b.seq a.seq) _ _ ?_ ?_
  · exact hcontent.imp fun h => Std.isLE_compare.mpr (le_of_lt h)
  · intro a ha b hb hcmp
    exact seq_injective hcontent ha hb (Std.compare_eq_iff_eq.mp hcmp).symm

theorem deleteFeedWithEvent_hold {signer : NodeSigner} {feedGuid : String} {row : EventRow}
    {events : List Event} {feed : Feed} (hfeed : getFeedByGuid d feedGuid = some feed)
    (h : deleteFeedWithEvent signer feedGuid row [] d = (.ok events, e)) :
    ∃ p : FeedRetiredPayload,
      Platform.decodePayload .feedRetired row.payloadJson = some (.feedRetired p) ∧
        ({ feedGuid := toLowercase feedGuid
           sourceUrl := feed.feedUrl
           reason := p.reason.getD ""
           retiredAt := row.createdAt
           releasedAt := none } : RetiredSourceHold) ∈ e .retiredSourceHolds := by
  obtain ⟨_, d₀, hread, h⟩ := bind_ok (transaction_ok.mp h)
  cases hread
  obtain ⟨_, d₁, hdelete, h⟩ := bind_ok h
  obtain ⟨_, d₂, hhold, h⟩ := bind_ok h
  obtain ⟨signed, d₃, hsign, h⟩ := bind_ok h
  obtain ⟨retired, d₄, hretired, h⟩ := bind_ok h
  cases h
  simp only [List.isEmpty_nil, if_true, hfeed, Option.map_some] at hhold
  obtain ⟨reason, d₅, hreason, hinsert⟩ := bind_ok hhold
  obtain ⟨rfl, p, hp, rfl⟩ := retiredReason_ok hreason
  refine ⟨p, hp, ?_⟩
  have hkept : e .retiredSourceHolds = d₂ .retiredSourceHolds :=
    ((signedEvent_writes .retiredSourceHolds List.not_mem_nil).run hretired).trans
      ((signEventRow_writes .retiredSourceHolds (by decide)).run hsign)
  rw [hkept, modify_ok_rows hinsert]
  exact List.mem_append_right _ List.mem_cons_self

omit [Platform] in
theorem insertEvent_new {signer : NodeSigner} {row : EventRow} {signed : Int × String × String}
    (h : insertEvent signer row d = (.ok signed, e)) : hasEvent d row.eventId = false := by
  rcases insertEvent_run signer row d with ⟨t, -, hcontents⟩ | ⟨err, hrun⟩
  · rw [Bool.eq_false_iff]
    intro hseen
    obtain ⟨r, hr, hid⟩ := List.any_eq_true.mp hseen
    have hrows : t .events = d .events ++ [signedRow signer row (nextSeq d)] := by
      rw [hcontents, Contents.set_same]
    have hkey : Key.event row.eventId ∈ schema.keys .events r := by
      rw [← beq_iff_eq.mp hid]
      exact List.mem_cons_self
    have hsame : r = signedRow signer row (nextSeq d) := t.eq_of_shared_key
      (by rw [hrows]; exact List.mem_append_left _ hr)
      (by rw [hrows]; exact List.mem_append_right _ List.mem_cons_self) hkey List.mem_cons_self
    have hlt := seq_lt_nextSeq d hr
    rw [hsame] at hlt
    exact lt_irrefl _ hlt
  · cases hrun.symm.trans h

theorem deleteFeedWithEvent_noBlocks {signer : NodeSigner} {feedGuid : String} {row : EventRow}
    {blocks : List (FeedBlock × String)} {events : List Event} {p : FeedRetiredPayload}
    (hp : Platform.decodePayload .feedRetired row.payloadJson = some (.feedRetired p))
    (h : deleteFeedWithEvent signer feedGuid row blocks d = (.ok events, e)) :
    ∃ events' e', deleteFeedWithEvent signer feedGuid row [] d = (.ok events', e') := by
  obtain ⟨_, d₀, hread, h⟩ := bind_ok (transaction_ok.mp h)
  cases hread
  obtain ⟨_, d₁, hdelete, h⟩ := bind_ok h
  obtain ⟨_, d₂, hhold, h⟩ := bind_ok h
  obtain ⟨signed, d₃, hsign, h⟩ := bind_ok h
  obtain ⟨retired, d₄, hretired, h⟩ := bind_ok h
  -- The hold of a retirement with no block goes in, whatever the table has.
  obtain ⟨t, hheld, hlog⟩ : ∃ t, writeHold feedGuid row.payloadJson row.createdAt
      ((getFeedByGuid d feedGuid).map Feed.feedUrl) d₁ = (.ok (), t) ∧ t .events = d₁ .events := by
    cases hfeed : (getFeedByGuid d feedGuid).map Feed.feedUrl with
    | none => exact ⟨d₁, rfl, rfl⟩
    | some url =>
      obtain ⟨t, hrun, hcontents⟩ := insertOrReplace_run (S := schema) (t := .retiredSourceHolds)
        (leaf_of_ne (by decide) (by decide)) (d := d₁)
        (r := ({ feedGuid := toLowercase feedGuid
                 sourceUrl := url
                 reason := p.reason.getD ""
                 retiredAt := row.createdAt
                 releasedAt := none } : RetiredSourceHold)) rfl (fun k hk => by cases hk)
      refine ⟨t, ?_, by rw [hcontents, Contents.set_other (by decide)]⟩
      rw [writeHold, bind_run_ok (retiredReason_run hp d₁)]
      exact hrun
  have hsame : t .events = d₂ .events :=
    hlog.trans ((writeHold_writes .events (by decide)).run hhold).symm
  obtain ⟨inserted, d₅, hinsert, hpure⟩ := bind_ok hsign
  have hnew : hasEvent t row.eventId = false := by
    rw [hasEvent, hsame]
    exact insertEvent_new hinsert
  have hseq : nextSeq t = nextSeq d₂ := by rw [nextSeq, nextSeq, hsame]
  obtain ⟨t₂, hrun, -⟩ := insertEvent_fresh signer hnew
  obtain ⟨t₃, hrun₂, -⟩ := insertEvent_fresh signer (insertEvent_new hinsert)
  have hsigned : signEventRow signer row t = (.ok signed, t₂) := by
    cases hrun₂.symm.trans hinsert
    cases hpure
    rw [hseq] at hrun
    rw [signEventRow, bind_run_ok hrun]
    rfl
  have hdecoded : signedEvent signed t₂ = (.ok retired, t₂) := by
    unfold signedEvent at hretired ⊢
    rcases hev : eventOfRow signed.stored with _ | ev
    · rw [hev] at hretired
      cases hretired
    · rw [hev] at hretired
      cases hretired
      rfl
  refine ⟨[retired], t₂, transaction_ok.mpr ?_⟩
  rw [read_bind_run]
  simp only [List.isEmpty_nil, if_true]
  rw [bind_run_ok hdelete, bind_run_ok hheld, bind_run_ok hsigned, bind_run_ok hdecoded]
  rfl

/-- The hold that the live path writes for the retirement when it signs no block. -/
def LiveHold (d : Db) (r : StoredEvent) (hold : RetiredSourceHold) : Prop :=
  ∃ signer row, r = signedRow signer row (nextSeq d) ∧
    (∃ blocks events e,
      deleteFeedWithEvent signer r.subjectGuid row blocks d = (.ok events, e)) ∧
    ∃ events e, deleteFeedWithEvent signer r.subjectGuid row [] d = (.ok events, e) ∧
      hold ∈ e .retiredSourceHolds

def LogCarries (d : Db) : Prop := ∀ r ∈ d .events, ∃ payload, Carries r payload

theorem logCarries_rule (signer : NodeSigner) : SignRule signer (Keeps LogCarries) where
  writes := fun {_ _ x} hx hevents d hd => by
    have hsame : (x d).2 .events = d .events := hx .events hevents d
    rw [LogCarries, hsame]
    exact hd
  signs row hrow d hd := by
    rcases insertEvent_run signer row d with ⟨e, hrun, hcontents⟩ | ⟨err, hrun⟩
    · rw [hrun, LogCarries, hcontents, Contents.set_same]
      intro r hr
      rcases List.mem_append.mp hr with hr | hr
      · exact hd r hr
      · rw [List.mem_singleton.mp hr]
        exact hrow
    · rw [hrun]
      exact hd

def fillTypes : List EventType := [.feedRetired, .feedUpserted]

section Run

variable {ok : Db → Operation → Prop} {history : List RunStep} (hrun : PrimaryRun ok history d)
  (hreads : ReadsRows fillTypes d)

include hreads in
theorem decodes_of_carries {r : StoredEvent} {payload : EventPayload} (hr : r ∈ d .events)
    (htype : r.eventType ∈ fillTypes) (hcarries : Carries r payload) :
    Platform.decodePayload r.eventType r.payloadJson = some payload :=
  hreads.reads r (List.mem_filter.mpr ⟨hr, decide_eq_true htype⟩) payload hcarries

include hrun hreads

theorem run_readsContent : ReadsContent d := by
  have hcarries : LogCarries d := hrun.keeps (fun _ hr => by cases hr)
    fun _ operation _ => operation.along_each logCarries_rule
  constructor
  · intro r hr htype
    obtain ⟨payload, hpayload⟩ := hcarries r hr
    have hdec := decodes_of_carries hreads hr (htype ▸ by decide) hpayload
    rw [htype] at hdec
    cases payload with
    | feedRetired p => exact ⟨p, hdec⟩
    | _ => exact absurd (htype.symm.trans hpayload.1) (by simp [EventPayload.eventType])
  · intro r hr htype
    obtain ⟨payload, hpayload⟩ := hcarries r hr
    have hdec := decodes_of_carries hreads hr (htype ▸ by decide) hpayload
    rw [htype] at hdec
    cases payload with
    | feedUpserted p => exact ⟨p, hdec⟩
    | _ => exact absurd (htype.symm.trans hpayload.1) (by simp [EventPayload.eventType])

theorem run_retirement {r : StoredEvent} {p : FeedRetiredPayload} (hr : r ∈ d .events)
    (htype : r.eventType = .feedRetired)
    (hp : Platform.decodePayload .feedRetired r.payloadJson = some (.feedRetired p))
    (hlisted : p.reason.getD "" ∈ holdRetireReasons) :
    ∃ s ∈ history, RetiredIn s.before r ∧ ∃ feed, getFeedByGuid s.before r.subjectGuid = some feed ∧
      ∃ content q, lastUpsertBefore d r.subjectGuid r.seq = some content ∧
        Platform.decodePayload .feedUpserted content.payloadJson = some (.feedUpserted q) ∧
          q.feed.feedUrl = feed.feedUrl := by
  rcases run_retirements hrun hr htype with ⟨p', hcarries, hreason⟩ | ⟨s, hs, hretired, later, hlog⟩
  · have hdec := decodes_of_carries hreads hr (htype ▸ by decide) hcarries
    rw [htype, hp] at hdec
    cases hdec
    rw [hreason] at hlisted
    exact absurd hlisted (by decide)
  · obtain ⟨feed, hfeed⟩ := Option.isSome_iff_exists.mp hretired.1
    obtain ⟨-, earlier, hbefore⟩ := hrun.before hs
    have hrecord : (record s.before r.subjectGuid).feedUrl = some feed.feedUrl := by
      rw [feedUrl_record, hfeed, Option.map_some]
    obtain ⟨content, hcontent, q, hcarries, hurl⟩ :=
      run_urlsLogged hbefore r.subjectGuid feed.feedUrl hrecord
    rw [← lastUpsertBefore_eq (run_sortedLog hrun) hlog] at hcontent
    obtain ⟨hmem, hcontentType⟩ := lastUpsertBefore_mem hcontent
    have hdec := decodes_of_carries hreads hmem (hcontentType ▸ by decide) hcarries
    rw [hcontentType] at hdec
    exact ⟨s, hs, hretired, feed, hfeed, content, q, hcontent, hdec, hurl⟩

theorem run_frees {r : StoredEvent} (hr : r ∈ d .events) (htype : r.eventType = .feedRetired) :
    (∃ hold, Frees d r hold) ↔ blockedOrPresent d r.subjectGuid = false ∧
      ∃ p : FeedRetiredPayload,
        Platform.decodePayload .feedRetired r.payloadJson = some (.feedRetired p) ∧
          p.reason.getD "" ∈ holdRetireReasons := by
  constructor
  · rintro ⟨hold, hfrees⟩
    obtain ⟨p, hp, hreason⟩ := hfrees.reason
    exact ⟨hfrees.free, p, hp, hreason ▸ hfrees.listed⟩
  · rintro ⟨hfree, p, hp, hlisted⟩
    obtain ⟨-, -, -, -, -, content, q, hcontent, hdec, -⟩ :=
      run_retirement hrun hreads hr htype hp hlisted
    exact ⟨{ feedGuid := toLowercase r.subjectGuid
             sourceUrl := q.feed.feedUrl
             reason := p.reason.getD ""
             retiredAt := r.createdAt
             releasedAt := none },
      { free := hfree
        reason := ⟨p, hp, rfl⟩
        listed := hlisted
        url := ⟨content, q, hcontent, hdec, rfl⟩
        guid := rfl
        retiredAt := rfl
        active := rfl }⟩

theorem run_liveHold {r : StoredEvent} {hold : RetiredSourceHold} (hr : r ∈ d .events)
    (htype : r.eventType = .feedRetired) (hfrees : Frees d r hold) :
    ∃ s ∈ history, LiveHold s.before r hold := by
  obtain ⟨p, hp, hreason⟩ := hfrees.reason
  obtain ⟨s, hs, ⟨-, signer, row, blocks, events, e, hdelete, hsigned⟩, feed, hfeed, content, q,
    hcontent, hdec, hurl⟩ := run_retirement hrun hreads hr htype hp (hreason ▸ hfrees.listed)
  have htext : r.payloadJson = row.payloadJson := by rw [hsigned]; rfl
  rw [htext] at hp
  obtain ⟨events', e', hdelete'⟩ := deleteFeedWithEvent_noBlocks hp hdelete
  refine ⟨s, hs, signer, row, hsigned, ⟨blocks, events, e, hdelete⟩, events', e', hdelete', ?_⟩
  obtain ⟨p', hp', hheld⟩ := deleteFeedWithEvent_hold hfeed hdelete'
  cases hp.symm.trans hp'
  obtain ⟨content', q', hcontent', hdec', hurl'⟩ := hfrees.url
  cases hcontent.symm.trans hcontent'
  cases hdec.symm.trans hdec'
  have htime : r.createdAt = row.createdAt := by rw [hsigned]; rfl
  have hsame : hold =
      { feedGuid := toLowercase r.subjectGuid
        sourceUrl := feed.feedUrl
        reason := p.reason.getD ""
        retiredAt := row.createdAt
        releasedAt := none } := by
    obtain ⟨-, -, -, -, hguid, hretired, hactive⟩ := hfrees
    cases hold
    simp_all
  exact hsame ▸ hheld

end Run

/-- In every run, the fill writes the hold of each free GUID whose last retirement has a listed
reason, and it is the hold that the retirement writes with no block.  A second fill writes
nothing. -/
theorem fill_refines_retirement {ok : Db → Operation → Prop} {history : List RunStep} {d : Db}
    (hrun : PrimaryRun ok history d) (hreads : ReadsRows fillTypes d) :
    (∃ n e, fillRetiredSourceHolds d = (.ok n, e) ∧ FillsHolds d e n ∧
        fillRetiredSourceHolds e = (.ok 0, e)) ∧
      ∀ r ∈ lastRetirements d,
        ((∃ hold, Frees d r hold) ↔ blockedOrPresent d r.subjectGuid = false ∧
          ∃ p : FeedRetiredPayload,
            Platform.decodePayload .feedRetired r.payloadJson = some (.feedRetired p) ∧
              p.reason.getD "" ∈ holdRetireReasons) ∧
          ∀ hold, Frees d r hold → ∃ s ∈ history, LiveHold s.before r hold := by
  constructor
  · obtain ⟨n, e, hfill⟩ := fillRetiredSourceHolds_ok (run_readsContent hrun hreads)
    exact ⟨n, e, hfill, fillRetiredSourceHolds_fills hfill, fillRetiredSourceHolds_again hfill⟩
  · intro r hr
    obtain ⟨hmem, htype⟩ := List.mem_filter.mp (List.mem_of_mem_filter (mem_orderBy.mp hr))
    have htype := beq_iff_eq.mp htype
    exact ⟨run_frees hrun hreads hmem htype, fun _ => run_liveHold hrun hreads hmem htype⟩

end Retire

end

/-- The events of a feed that is retired with its blocks, and of the end of its GUID block. -/
def freedRecording : Recording where
  texts :=
    [(runUpserted "f1" sampleUrl 1,
      "\x7b\"feed\":\x7b\"feed_guid\":\"f1\",\"feed_url\":\"https://a.example/feed\",\"" ++
        "title\":\"a\",\"title_lower\":\"a\",\"description\":null,\"image_url\":null,\"pu" ++
        "blisher\":null,\"language\":null,\"explicit\":false,\"itunes_type\":null,\"relea" ++
        "se_artist\":\"Unknown Artist\",\"release_artist_sort\":null,\"release_date\":nul" ++
        "l,\"release_kind\":\"unknown\",\"episode_count\":0,\"newest_item_at\":null,\"old" ++
        "est_item_at\":null,\"created_at\":1,\"updated_at\":1,\"raw_medium\":null,\"last_" ++
        "build_date\":null,\"release_artist_source\":\"placeholder\"\x7d\x7d"),
      (runObserved sampleUrl "f1" 1,
       "\x7b\"url\":\"https://a.example/feed\",\"feed_guid\":\"f1\",\"observed_at\":1" ++
         "\x7d"),
      (runRetired "f1" "admin retired via API",
       "\x7b\"feed_guid\":\"f1\",\"reason\":\"admin retired via API\"\x7d"),
      (.feedBlocked
         { blockId := "r0", kind := .guid, value := "f1", reason := "retired", blockedAt := 2 },
       "\x7b\"block_id\":\"r0\",\"kind\":\"guid\",\"value\":\"f1\",\"reason\":\"retired" ++
         "\",\"blocked_at\":2\x7d"),
      (.feedBlocked
         { blockId := "r00", kind := .url, value := sampleUrl, reason := "retired", blockedAt := 2 },
       "\x7b\"block_id\":\"r00\",\"kind\":\"url\",\"value\":\"https://a.example/feed\"," ++
         "\"reason\":\"retired\",\"blocked_at\":2\x7d"),
      (.feedUnblocked { blockId := "r0" },
       "\x7b\"block_id\":\"r0\"\x7d")]
  signatures :=
    [{ eventId := "ac"
       payload := runUpserted "f1" sampleUrl 1
       subjectGuid := "f1"
       createdAt := 1
       seq := 1
       signature :=
         "b07f152b72adc0d8cd95480850677e104f33e404155cf5d3c10fffc743cd0c99e3a8933ca58404d3" ++
           "790c3b2c4f8e78335bae87702995a88363f4402af2d7ce0a" },
      { eventId := "au"
        payload := runObserved sampleUrl "f1" 1
        subjectGuid := "f1"
        createdAt := 1
        seq := 2
        signature :=
          "f19b92faec3a415901205ed1b1a773c916d8d0c42d89292807ce9e29d75515cf9006fdcefa61d824" ++
            "2f5e112e573d9e058e79750935a213e7c3329f9f36a64d04" },
      { eventId := "r"
        payload := runRetired "f1" "admin retired via API"
        subjectGuid := "f1"
        createdAt := 2
        seq := 3
        signature :=
          "acd4d3af3bc4cdd08d45b1f74fc3a1c4e85e15acdfa79e845bb24d72174f07a05b9bc4ebf23df7d4" ++
            "f13f4c8c5885a520a639e7ae443cdb9e7f1f68386f5e2c01" },
      { eventId := "r000"
        payload :=
          .feedBlocked
            { blockId := "r0", kind := .guid, value := "f1", reason := "retired", blockedAt := 2 }
        subjectGuid := "r0"
        createdAt := 2
        seq := 4
        signature :=
          "a1a5d5cd7c300feea4e7d6c32fb8a76e0a4b89affdf07514da45a4acde5df1624dc1f4b4748a77f4" ++
            "0c68c8d232d13103cfb00bb2d19759cee71b5a57306bcf07" },
      { eventId := "r0000"
        payload :=
          .feedBlocked
            { blockId := "r00", kind := .url, value := sampleUrl, reason := "retired", blockedAt := 2 }
        subjectGuid := "r00"
        createdAt := 2
        seq := 5
        signature :=
          "e08802f114636c5373a82f869f108b49dc0350c695891109a780fdb3a0e7979730e3e13ef037b223" ++
            "fe00d575aa08fe42ecbda3215d0548a2237a4cfbe513380d" },
      { eventId := "o"
        payload := .feedUnblocked { blockId := "r0" }
        subjectGuid := "r0"
        createdAt := 3
        seq := 6
        signature :=
          "9430937eccd7b5fcc618ea5c40f5ccb20e8b862188a383e22b4662e75866eb06d25fea8289b92280" ++
            "42eefd2da9d2d8d8c297cba94d4c65df5c15eeb926e56f01" }]

@[reducible] def freedPlatform : Platform := freedRecording.platform

section Sample

attribute [local instance] freedPlatform

def freedIngest : Operation :=
  .ingest (freedRecording.env 'a' 1) (Database.empty schema) (sampleRequest "f1" [])

def storedDb : Db := freedIngest.next (Database.empty schema)

/-- The operator retires the record with its blocks. -/
def retireBlocked : Operation :=
  .admin (freedRecording.operatorEnv 'r' 2) true (.retireFeed "f1" none)

def retiredDb : Db := retireBlocked.next storedDb

def unblockRetired : Operation :=
  .admin (freedRecording.operatorEnv 'o' 3) true (.deleteBlock "r0")

/-- Nothing has the retired GUID. -/
def freedDb : Db := unblockRetired.next retiredDb

def freedHistory : List RunStep :=
  [{ before := retiredDb, operation := unblockRetired },
    { before := storedDb, operation := retireBlocked },
    { before := Database.empty schema, operation := freedIngest }]

theorem freedDb_run : PrimaryRun (fun _ operation => operation.SignedBy freedRecording.signer)
    freedHistory freedDb :=
  .step unblockRetired (.step retireBlocked (.step freedIngest .empty rfl) rfl) rfl

def freedHold : RetiredSourceHold where
  feedGuid := "f1"
  sourceUrl := sampleUrl
  reason := "admin retired via API"
  retiredAt := 2
  releasedAt := none

def retiredRows : List StoredEvent := (retiredDb .events).drop 2

theorem freedDb_facts :
    freedDb .retiredSourceHolds = [] ∧
      (fillRetiredSourceHolds freedDb).1.toOption = some 1 ∧
      (fillRetiredSourceHolds freedDb).2 .retiredSourceHolds = [freedHold] ∧
      (retireBlocked.next storedDb) .events = storedDb .events ++ retiredRows ∧
      (∃ r ∈ retiredRows, r.eventType = .feedBlocked) ∧
      ∀ r ∈ freedDb .events, r.eventType = .feedRetired → r ∈ retiredRows := by
  decide +kernel

theorem freedDb_texts :
    (∀ r ∈ freedDb .events, r.payloadJson ≠ "null" ∧
      (Platform.decodePayload r.eventType r.payloadJson).map EventPayload.eventType =
        some r.eventType) ∧
      (freedRecording.texts.map Prod.snd).Nodup := by
  decide +kernel

theorem freedDb_reads : ReadsRows fillTypes freedDb :=
  .of_texts (fun _ => freedRecording.text_decodes freedDb_texts.2) freedDb_texts.1

/-- The events of the step of the retirement have no block. -/
def SignedAlone (history : List RunStep) (r : StoredEvent) : Prop :=
  ∀ s ∈ history, ∀ rows, (s.operation.next s.before) .events = s.before .events ++ rows →
    r ∈ rows → ∀ r' ∈ rows, r'.eventType ≠ .feedBlocked

/-- A fill writes a hold for a retirement that was signed with its blocks. -/
theorem fill_after_blocks :
    ¬ ∀ (history : List RunStep) (d : Db),
      PrimaryRun (fun _ operation => operation.SignedBy freedRecording.signer) history d →
        ∀ n e, fillRetiredSourceHolds d = (.ok n, e) → ∀ hold ∈ e .retiredSourceHolds,
          hold ∈ d .retiredSourceHolds ∨ ∃ r ∈ lastRetirements d,
            hold.feedGuid = toLowercase r.subjectGuid ∧ SignedAlone history r := by
  intro hall
  obtain ⟨hempty, hok, hholds, hrows, ⟨block, hblock, hblocked⟩, hretired⟩ := freedDb_facts
  rcases hfill : fillRetiredSourceHolds freedDb with ⟨err | n, e⟩
  · rw [hfill] at hok
    cases hok
  rw [hfill] at hholds
  have hheld : freedHold ∈ e .retiredSourceHolds := by
    rw [show e .retiredSourceHolds = [freedHold] from hholds]
    exact List.mem_cons_self
  rcases hall freedHistory freedDb freedDb_run n e hfill freedHold hheld with
    hold | ⟨r, hr, -, halone⟩
  · rw [hempty] at hold
    cases hold
  · obtain ⟨hmem, htype⟩ := List.mem_filter.mp (List.mem_of_mem_filter (mem_orderBy.mp hr))
    have hstep : ({ before := storedDb, operation := retireBlocked } : RunStep) ∈ freedHistory :=
      List.mem_cons_of_mem _ List.mem_cons_self
    have hnone := halone _ hstep
    simp only at hnone
    exact hnone retiredRows hrows (hretired r hmem (beq_iff_eq.mp htype)) block hblock hblocked

/-- The fill writes the hold that the retirement writes with no block. -/
theorem fill_refines_retirement_freed :
    ∃ n e, fillRetiredSourceHolds freedDb = (.ok n, e) ∧
      fillRetiredSourceHolds e = (.ok 0, e) ∧
        ∃ r, Frees freedDb r freedHold ∧ ∃ s ∈ freedHistory, LiveHold s.before r freedHold := by
  obtain ⟨⟨n, e, hfill, hfills, hagain⟩, hlive⟩ :=
    fill_refines_retirement freedDb_run freedDb_reads
  refine ⟨n, e, hfill, hagain, ?_⟩
  obtain ⟨hempty, -, hholds, -⟩ := freedDb_facts
  rw [hfill] at hholds
  have hheld : freedHold ∈ e .retiredSourceHolds := by
    rw [show e .retiredSourceHolds = [freedHold] from hholds]
    exact List.mem_cons_self
  rcases (hfills.holds freedHold).mp hheld with hold | ⟨r, hr, hfrees, -⟩
  · rw [hempty] at hold
    cases hold
  · exact ⟨r, hfrees, (hlive r hr).2 freedHold hfrees⟩

end Sample

end Stophammer
