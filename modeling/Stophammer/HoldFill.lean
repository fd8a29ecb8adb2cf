import Stophammer.Operator
import Stophammer.Relational.OrderBy
import Stophammer.Relational.Outcome
import Stophammer.Relational.Steps

/-!
# The fill of the holds

A primary writes at its start the holds that earlier retirements left out: for each GUID that is
free, the hold of its last retirement.  A second fill writes nothing.
-/

namespace Stophammer

open Relational Statement

section

variable [Platform]

/-- The retirement frees its GUID, and this is its hold. -/
structure Frees (d : Db) (r : StoredEvent) (hold : RetiredSourceHold) : Prop where
  free : blockedOrPresent d r.subjectGuid = false
  reason : ∃ p : FeedRetiredPayload,
    Platform.decodePayload .feedRetired r.payloadJson = some (.feedRetired p) ∧
      p.reason.getD "" = hold.reason
  listed : hold.reason ∈ holdRetireReasons
  url : ∃ content p, lastUpsertBefore d r.subjectGuid r.seq = some content ∧
    Platform.decodePayload .feedUpserted content.payloadJson = some (.feedUpserted p) ∧
      p.feed.feedUrl = hold.sourceUrl
  guid : hold.feedGuid = toLowercase r.subjectGuid
  retiredAt : hold.retiredAt = r.createdAt
  active : hold.releasedAt = none

/-- The rows of `e` beside those of `d` are the holds of the last retirements.  Of the GUIDs that
are equal in lower case, the one that was retired first has its hold. -/
structure FillsHolds (d e : Db) (written : Nat) : Prop where
  only : SameOutside (S := schema) [Table.retiredSourceHolds] d e
  holds : ∀ hold, hold ∈ e .retiredSourceHolds ↔ hold ∈ d .retiredSourceHolds ∨
    ∃ r ∈ lastRetirements d, Frees d r hold ∧ ∀ r' ∈ lastRetirements d, ∀ hold',
      Frees d r' hold' → hold'.feedGuid = hold.feedGuid → r.seq ≤ r'.seq
  count : (e .retiredSourceHolds).length = (d .retiredSourceHolds).length + written

section Fill

variable {d e : Db} {r : StoredEvent} {hold : RetiredSourceHold}

theorem retiredReason_ok {payloadJson reason : String} (h : retiredReason payloadJson d = (.ok reason, e)) :
    e = d ∧ ∃ p : FeedRetiredPayload,
      Platform.decodePayload .feedRetired payloadJson = some (.feedRetired p) ∧
        p.reason.getD "" = reason := by
  unfold retiredReason at h
  rcases hp : Platform.decodePayload .feedRetired payloadJson with _ | payload
  · rw [hp] at h
    cases h
  · rw [hp] at h
    cases payload with
    | feedRetired p =>
      cases h
      exact ⟨rfl, p, rfl, rfl⟩
    | _ => cases h

theorem upsertedFeedUrl_ok {payloadJson url : String} (h : upsertedFeedUrl payloadJson d = (.ok url, e)) :
    e = d ∧ ∃ p : FeedUpsertedPayload,
      Platform.decodePayload .feedUpserted payloadJson = some (.feedUpserted p) ∧
        p.feed.feedUrl = url := by
  unfold upsertedFeedUrl at h
  rcases hp : Platform.decodePayload .feedUpserted payloadJson with _ | payload
  · rw [hp] at h
    cases h
  · rw [hp] at h
    cases payload with
    | feedUpserted p =>
      cases h
      exact ⟨rfl, p, rfl, rfl⟩
    | _ => cases h

theorem Frees.unique {hold' : RetiredSourceHold} (h : Frees d r hold) (h' : Frees d r hold') :
    hold = hold' := by
  obtain ⟨-, ⟨p, hp, hreason⟩, -, ⟨content, q, hcontent, hq, hurl⟩, hguid, htime, hactive⟩ := h
  obtain ⟨-, ⟨p', hp', hreason'⟩, -, ⟨content', q', hcontent', hq', hurl'⟩, hguid', htime',
    hactive'⟩ := h'
  cases hp.symm.trans hp'
  cases hcontent.symm.trans hcontent'
  cases hq.symm.trans hq'
  cases hold
  cases hold'
  simp_all

/-- The first part of a fill: why a retirement writes no hold, or the hold that it writes. -/
inductive FillCase (d : Db) (r : StoredEvent) : Bool → Db → Prop
  | unlisted (p : FeedRetiredPayload) :
      Platform.decodePayload .feedRetired r.payloadJson = some (.feedRetired p) →
      p.reason.getD "" ∉ holdRetireReasons → FillCase d r false d
  | present (p : FeedRetiredPayload) :
      Platform.decodePayload .feedRetired r.payloadJson = some (.feedRetired p) →
      blockedOrPresent d r.subjectGuid = true → FillCase d r false d
  | noContent (p : FeedRetiredPayload) :
      Platform.decodePayload .feedRetired r.payloadJson = some (.feedRetired p) →
      lastUpsertBefore d r.subjectGuid r.seq = none → FillCase d r false d
  | filled (hold : RetiredSourceHold) {e : Db} : Frees d r hold →
      e.contents = d.contents.set .retiredSourceHolds (d .retiredSourceHolds ++ [hold]) →
      FillCase d r true e

theorem admits_hold (hfree : blockedOrPresent d r.subjectGuid = false)
    (hguid : hold.feedGuid = toLowercase r.subjectGuid) :
    d.Admits .retiredSourceHolds hold := by
  refine ⟨fun k hk hhas => ?_, rfl, fun k hk => by cases hk⟩
  rw [List.mem_singleton.mp hk] at hhas
  obtain ⟨held, hheld, hkey⟩ := (Database.has_iff
    (show schema.home (.hold hold.feedGuid) = Table.retiredSourceHolds from rfl)).mp hhas
  have hsame : held.feedGuid = toLowercase r.subjectGuid := by
    rw [← hguid]
    exact (Key.hold.inj (List.mem_singleton.mp hkey)).symm
  have hany : ((d .retiredSourceHolds).any fun h : RetiredSourceHold =>
      h.feedGuid == toLowercase r.subjectGuid) = true :=
    List.any_eq_true.mpr ⟨held, hheld, beq_iff_eq.mpr hsame⟩
  simp [blockedOrPresent, hany] at hfree

theorem fillHold_cases {b : Bool} (h : fillHold r d = (.ok b, e)) : FillCase d r b e := by
  obtain ⟨reason, d₁, hreason, h⟩ := bind_ok h
  obtain ⟨rfl, p, hp, rfl⟩ := retiredReason_ok hreason
  split at h
  · rename_i hlisted
    cases h
    exact .unlisted p hp hlisted
  rename_i hlisted
  rw [read_bind_run] at h
  split at h
  · rename_i hpresent
    cases h
    exact .present p hp hpresent
  rename_i hfree
  rw [read_bind_run] at h
  cases hcontent : lastUpsertBefore d₁ r.subjectGuid r.seq with
  | none =>
    rw [hcontent] at h
    cases h
    exact .noContent p hp hcontent
  | some content =>
    rw [hcontent] at h
    obtain ⟨url, d₂, hurl, h⟩ := bind_ok h
    obtain ⟨rfl, q, hq, rfl⟩ := upsertedFeedUrl_ok hurl
    have hfree := Bool.not_eq_true _ ▸ hfree
    have hadmits : d₂.Admits .retiredSourceHolds
        ({ feedGuid := toLowercase r.subjectGuid
           sourceUrl := q.feed.feedUrl
           reason := p.reason.getD ""
           retiredAt := r.createdAt
           releasedAt := none } : RetiredSourceHold) := admits_hold hfree rfl
    obtain ⟨e', hrun, hcontents⟩ := insertOrIgnore_ok d₂ hadmits
    cases hrun.symm.trans h
    exact .filled _
      { free := hfree
        reason := ⟨p, hp, rfl⟩
        listed := Classical.not_not.mp hlisted
        url := ⟨content, q, hcontent, hq, rfl⟩
        guid := rfl
        retiredAt := rfl
        active := rfl } hcontents

theorem FillCase.false_frees (h : FillCase d r false e) : e = d ∧ ∀ hold, ¬ Frees d r hold := by
  generalize hb : false = b at h
  cases h with
  | unlisted p hp hlisted =>
    refine ⟨rfl, fun hold hfrees => ?_⟩
    obtain ⟨p', hp', hreason⟩ := hfrees.reason
    cases hp.symm.trans hp'
    rw [hreason] at hlisted
    exact hlisted hfrees.listed
  | present p hp hpresent =>
    refine ⟨rfl, fun hold hfrees => ?_⟩
    rw [hfrees.free] at hpresent
    cases hpresent
  | noContent p hp hnone =>
    refine ⟨rfl, fun hold hfrees => ?_⟩
    obtain ⟨content, q, hcontent, -⟩ := hfrees.url
    rw [hnone] at hcontent
    cases hcontent
  | filled => cases hb

theorem FillCase.true_frees (h : FillCase d r true e) : ∃ hold, Frees d r hold ∧
    e.contents = d.contents.set .retiredSourceHolds (d .retiredSourceHolds ++ [hold]) := by
  generalize hb : true = b at h
  cases h with
  | filled hold hfrees hcontents => exact ⟨hold, hfrees, hcontents⟩
  | _ => cases hb

section Insert

variable (hcontents : e.contents = d.contents.set .retiredSourceHolds (d .retiredSourceHolds ++ [hold]))

include hcontents

omit [Platform] in
theorem sameOutside_hold : SameOutside (S := schema) [Table.retiredSourceHolds] d e := by
  intro t ht
  rw [hcontents, Contents.set_other (by simpa using ht)]

omit [Platform] in
theorem mem_hold {held : RetiredSourceHold} :
    held ∈ e .retiredSourceHolds ↔ held ∈ d .retiredSourceHolds ∨ held = hold := by
  rw [hcontents, Contents.set_same, List.mem_append, List.mem_singleton]

theorem blockedOrPresent_hold (guid : String) :
    blockedOrPresent e guid = (blockedOrPresent d guid || hold.feedGuid == toLowercase guid) := by
  have hsame := sameOutside_hold hcontents
  have hholds : e .retiredSourceHolds = d .retiredSourceHolds ++ [hold] := by
    rw [hcontents, Contents.set_same]
  simp only [blockedOrPresent, hsame .feeds (by decide), hsame .feedBlocks (by decide), hholds,
    List.any_append, List.any_cons, List.any_nil, Bool.or_false, Bool.or_assoc]

theorem frees_hold {hold' : RetiredSourceHold} :
    Frees e r hold' ↔ Frees d r hold' ∧ hold'.feedGuid ≠ hold.feedGuid := by
  have hsame := sameOutside_hold hcontents
  have hcontent : lastUpsertBefore e r.subjectGuid r.seq = lastUpsertBefore d r.subjectGuid r.seq := by
    unfold lastUpsertBefore
    rw [hsame .events (by decide)]
  constructor
  · rintro ⟨hfree, hreason, hlisted, hurl, hguid, htime, hactive⟩
    rw [blockedOrPresent_hold hcontents, Bool.or_eq_false_iff, beq_eq_false_iff_ne] at hfree
    rw [hcontent] at hurl
    exact ⟨⟨hfree.1, hreason, hlisted, hurl, hguid, htime, hactive⟩,
      fun h => hfree.2 (h.symm.trans hguid)⟩
  · rintro ⟨⟨hfree, hreason, hlisted, hurl, hguid, htime, hactive⟩, hne⟩
    rw [← hcontent] at hurl
    refine ⟨?_, hreason, hlisted, hurl, hguid, htime, hactive⟩
    rw [blockedOrPresent_hold hcontents, hfree, Bool.false_or, beq_eq_false_iff_ne]
    exact fun h => hne (hguid.trans h.symm)

end Insert

/-- The retirement is the first of `rs` that frees the GUID of its hold. -/
def FreesFirst (d : Db) (rs : List StoredEvent) (hold : RetiredSourceHold) : Prop :=
  ∃ front r back, rs = front ++ r :: back ∧ Frees d r hold ∧
    ∀ r' ∈ front, ∀ hold', Frees d r' hold' → hold'.feedGuid ≠ hold.feedGuid

theorem freesFirst_cons {rs : List StoredEvent} : FreesFirst d (r :: rs) hold ↔
    Frees d r hold ∨ FreesFirst d rs hold ∧
      ∀ hold', Frees d r hold' → hold'.feedGuid ≠ hold.feedGuid := by
  constructor
  · rintro ⟨front, r', back, hsplit, hfrees, hfirst⟩
    cases front with
    | nil =>
      cases hsplit
      exact .inl hfrees
    | cons first front =>
      cases hsplit
      exact .inr ⟨⟨front, r', back, rfl, hfrees, fun x hx => hfirst x (List.mem_cons_of_mem _ hx)⟩,
        hfirst _ List.mem_cons_self⟩
  · rintro (hfrees | ⟨⟨front, r', back, rfl, hfrees, hfirst⟩, hother⟩)
    · exact ⟨[], r, rs, rfl, hfrees, fun _ hx => by cases hx⟩
    · exact ⟨r :: front, r', back, rfl, hfrees, List.forall_mem_cons.mpr ⟨hother, hfirst⟩⟩

theorem freesFirst_hold {rs : List StoredEvent} {hold' : RetiredSourceHold}
    (hcontents : e.contents =
      d.contents.set .retiredSourceHolds (d .retiredSourceHolds ++ [hold])) :
    FreesFirst e rs hold' ↔ FreesFirst d rs hold' ∧ hold'.feedGuid ≠ hold.feedGuid := by
  induction rs with
  | nil => simp [FreesFirst]
  | cons r rs ih =>
    rw [freesFirst_cons, freesFirst_cons, frees_hold hcontents, ih]
    constructor
    · rintro (⟨hfrees, hne⟩ | ⟨⟨hfirst, hne⟩, hother⟩)
      · exact ⟨.inl hfrees, hne⟩
      · refine ⟨.inr ⟨hfirst, fun x hx hsame => ?_⟩, hne⟩
        exact hother x ((frees_hold hcontents).mpr ⟨hx, hsame ▸ hne⟩) hsame
    · rintro ⟨hfrees | ⟨hfirst, hother⟩, hne⟩
      · exact .inl ⟨hfrees, hne⟩
      · exact .inr ⟨⟨hfirst, hne⟩, fun x hx => hother x ((frees_hold hcontents).mp hx).1⟩

theorem fillHolds_run {rs : List StoredEvent} {n : Nat} (h : fillHolds rs d = (.ok n, e)) :
    SameOutside (S := schema) [Table.retiredSourceHolds] d e ∧
      (e .retiredSourceHolds).length = (d .retiredSourceHolds).length + n ∧
        ∀ hold, hold ∈ e .retiredSourceHolds ↔
          hold ∈ d .retiredSourceHolds ∨ FreesFirst d rs hold := by
  induction rs generalizing d n with
  | nil =>
    cases h
    refine ⟨fun _ _ => rfl, rfl, fun hold => ?_⟩
    simp [FreesFirst]
  | cons r rs ih =>
    obtain ⟨filled, d₁, hfirst, h⟩ := bind_ok h
    obtain ⟨written, d₂, hrest, h⟩ := bind_ok h
    cases h
    obtain ⟨honly, hcount, hholds⟩ := ih hrest
    have hcase := fillHold_cases hfirst
    cases filled with
    | false =>
      obtain ⟨rfl, hnone⟩ := hcase.false_frees
      refine ⟨honly, hcount, fun hold => ?_⟩
      rw [hholds, freesFirst_cons]
      simp [hnone]
    | true =>
      obtain ⟨hold₁, hfrees, hcontents⟩ := hcase.true_frees
      have hrows : d₁ .retiredSourceHolds = d .retiredSourceHolds ++ [hold₁] := by
        rw [hcontents, Contents.set_same]
      refine ⟨trans_of _ (sameOutside_hold hcontents) honly, ?_, fun hold => ?_⟩
      · rw [hcount, hrows, List.length_append, List.length_singleton, if_pos rfl]
        omega
      · rw [hholds, mem_hold hcontents, freesFirst_cons, or_assoc]
        apply or_congr Iff.rfl
        apply or_congr
        · exact ⟨fun h => h ▸ hfrees, fun h => h.unique hfrees⟩
        · rw [freesFirst_hold hcontents]
          refine and_congr_right fun _ => ⟨fun hne x hx hsame => ?_, fun hother hsame => ?_⟩
          · rw [hx.unique hfrees] at hsame
            exact hne hsame.symm
          · exact hother hold₁ hfrees hsame.symm

omit [Platform] in
theorem lastRetirements_sorted : (lastRetirements d).Pairwise fun a b => a.seq < b.seq := by
  have hnodup : (d .events).Nodup := d.rows_nodup fun r => List.cons_ne_nil _ _
  refine List.Pairwise.imp (fun h => compare_lt_iff_lt.mp h)
    (@orderBy_strict _ (compareOn StoredEvent.seq) _ _ ((hnodup.filter _).filter _) ?_)
  intro a ha b hb hcmp
  have ha := List.mem_of_mem_filter (List.mem_of_mem_filter ha)
  have hb := List.mem_of_mem_filter (List.mem_of_mem_filter hb)
  have hseq : a.seq = b.seq := compare_eq_iff_eq.mp hcmp
  have hkey : Key.eventSeq a.seq ∈ schema.keys .events a :=
    List.mem_cons_of_mem _ List.mem_cons_self
  have hkey' : Key.eventSeq a.seq ∈ schema.keys .events b := by
    rw [hseq]
    exact List.mem_cons_of_mem _ List.mem_cons_self
  exact d.eq_of_shared_key ha hb hkey hkey'

theorem freesFirst_lastRetirements : FreesFirst d (lastRetirements d) hold ↔
    ∃ r ∈ lastRetirements d, Frees d r hold ∧ ∀ r' ∈ lastRetirements d, ∀ hold',
      Frees d r' hold' → hold'.feedGuid = hold.feedGuid → r.seq ≤ r'.seq := by
  have hsorted := @lastRetirements_sorted d
  constructor
  · rintro ⟨front, r, back, hsplit, hfrees, hfirst⟩
    rw [hsplit] at hsorted ⊢
    obtain ⟨-, hback, -⟩ := List.pairwise_append.mp hsorted
    refine ⟨r, by simp, hfrees, fun r' hr' hold' hfrees' hsame => ?_⟩
    rcases List.mem_append.mp hr' with hr' | hr'
    · exact absurd hsame (hfirst r' hr' hold' hfrees')
    · rcases List.mem_cons.mp hr' with rfl | hr'
      · exact le_refl _
      · exact le_of_lt ((List.pairwise_cons.mp hback).1 r' hr')
  · rintro ⟨r, hr, hfrees, hleast⟩
    obtain ⟨front, back, hsplit⟩ := List.append_of_mem hr
    refine ⟨front, r, back, hsplit, hfrees, fun r' hr' hold' hfrees' hsame => ?_⟩
    rw [hsplit] at hsorted hleast
    obtain ⟨-, -, hfront⟩ := List.pairwise_append.mp hsorted
    have hless := hfront r' hr' r List.mem_cons_self
    have hle := hleast r' (List.mem_append_left _ hr') hold' hfrees' hsame
    exact absurd hless (not_lt.mpr hle)

theorem fillRetiredSourceHolds_fills {n : Nat} (h : fillRetiredSourceHolds d = (.ok n, e)) :
    FillsHolds d e n := by
  obtain ⟨retires, d₁, hread, h⟩ := bind_ok (transaction_ok.mp h)
  cases hread
  obtain ⟨honly, hcount, hholds⟩ := fillHolds_run h
  refine ⟨honly, fun hold => ?_, hcount⟩
  rw [hholds, freesFirst_lastRetirements]

/-- Each text that the fill can read is read as a payload of its type. -/
structure ReadsContent (d : Db) : Prop where
  retired : ∀ r ∈ d .events, r.eventType = .feedRetired → ∃ p,
    Platform.decodePayload .feedRetired r.payloadJson = some (.feedRetired p)
  upserted : ∀ r ∈ d .events, r.eventType = .feedUpserted → ∃ p,
    Platform.decodePayload .feedUpserted r.payloadJson = some (.feedUpserted p)

theorem retiredReason_run {payloadJson : String} {p : FeedRetiredPayload}
    (h : Platform.decodePayload .feedRetired payloadJson = some (.feedRetired p)) (d : Db) :
    retiredReason payloadJson d = (.ok (p.reason.getD ""), d) := by
  unfold retiredReason
  rw [h]
  rfl

omit [Platform] in
theorem lastUpsertBefore_mem {guid : String} {seq : Int} {content : StoredEvent}
    (h : lastUpsertBefore d guid seq = some content) :
    content ∈ d .events ∧ content.eventType = .feedUpserted := by
  have hmem := List.mem_of_mem_filter (mem_orderBy.mp (List.mem_of_head? h))
  have hcond := (List.mem_filter.mp (mem_orderBy.mp (List.mem_of_head? h))).2
  simp only [Bool.and_eq_true, beq_iff_eq] at hcond
  exact ⟨hmem, hcond.1.1⟩

theorem fillHold_ok (hreads : ReadsContent d) (hr : r ∈ d .events)
    (htype : r.eventType = .feedRetired) : ∃ b e, fillHold r d = (.ok b, e) := by
  obtain ⟨p, hp⟩ := hreads.retired r hr htype
  unfold fillHold
  rw [bind_run_ok (retiredReason_run hp d)]
  split
  · exact ⟨false, d, rfl⟩
  rw [read_bind_run]
  split
  · exact ⟨false, d, rfl⟩
  rename_i hfree
  rw [read_bind_run]
  cases hcontent : lastUpsertBefore d r.subjectGuid r.seq with
  | none => exact ⟨false, d, rfl⟩
  | some content =>
    obtain ⟨hmem, hcontentType⟩ := lastUpsertBefore_mem hcontent
    obtain ⟨q, hq⟩ := hreads.upserted content hmem hcontentType
    have hurl : upsertedFeedUrl content.payloadJson d = (.ok q.feed.feedUrl, d) := by
      unfold upsertedFeedUrl
      rw [hq]
      rfl
    have hadmits : d.Admits .retiredSourceHolds
        ({ feedGuid := toLowercase r.subjectGuid
           sourceUrl := q.feed.feedUrl
           reason := p.reason.getD ""
           retiredAt := r.createdAt
           releasedAt := none } : RetiredSourceHold) :=
      admits_hold (Bool.not_eq_true _ ▸ hfree) rfl
    obtain ⟨e, hrun, -⟩ := insertOrIgnore_ok d hadmits
    exact ⟨true, e, by simp only [bind_run_ok hurl]; exact hrun⟩

theorem ReadsContent.congr (h : ReadsContent d) (hsame : e .events = d .events) : ReadsContent e := by
  refine ⟨?_, ?_⟩
  · rw [hsame]
    exact h.retired
  · rw [hsame]
    exact h.upserted

theorem fillHolds_ok {rs : List StoredEvent} (hreads : ReadsContent d)
    (hrs : ∀ r ∈ rs, r ∈ d .events ∧ r.eventType = .feedRetired) :
    ∃ n e, fillHolds rs d = (.ok n, e) := by
  induction rs generalizing d with
  | nil => exact ⟨0, d, rfl⟩
  | cons r rs ih =>
    obtain ⟨hr, htype⟩ := hrs r List.mem_cons_self
    obtain ⟨b, d₁, hfirst⟩ := fillHold_ok hreads hr htype
    have hsame : d₁ .events = d .events := by
      cases b with
      | false => rw [(fillHold_cases hfirst).false_frees.1]
      | true =>
        obtain ⟨hold, -, hcontents⟩ := (fillHold_cases hfirst).true_frees
        exact sameOutside_hold hcontents .events (by decide)
    obtain ⟨n, e, hrest⟩ := ih (hreads.congr hsame) fun x hx => by
      rw [hsame]
      exact hrs x (List.mem_cons_of_mem _ hx)
    unfold fillHolds
    rw [bind_run_ok hfirst, bind_run_ok hrest]
    exact ⟨_, e, rfl⟩

theorem fillRetiredSourceHolds_ok (hreads : ReadsContent d) :
    ∃ n e, fillRetiredSourceHolds d = (.ok n, e) := by
  have hrs : ∀ r ∈ lastRetirements d, r ∈ d .events ∧ r.eventType = .feedRetired := by
    intro r hr
    obtain ⟨hmem, htype⟩ := List.mem_filter.mp (List.mem_of_mem_filter (mem_orderBy.mp hr))
    exact ⟨hmem, beq_iff_eq.mp htype⟩
  obtain ⟨n, e, hrun⟩ := fillHolds_ok hreads hrs
  refine ⟨n, e, transaction_ok.mpr ?_⟩
  rw [read_bind_run]
  exact hrun

theorem fillHold_skips {p : FeedRetiredPayload}
    (hp : Platform.decodePayload .feedRetired r.payloadJson = some (.feedRetired p))
    (h : p.reason.getD "" ∈ holdRetireReasons → blockedOrPresent d r.subjectGuid = false →
      lastUpsertBefore d r.subjectGuid r.seq = none) : fillHold r d = (.ok false, d) := by
  unfold fillHold
  rw [bind_run_ok (retiredReason_run hp d)]
  split
  · rfl
  rename_i hlisted
  rw [read_bind_run]
  split
  · rfl
  rename_i hfree
  rw [read_bind_run, h (Classical.not_not.mp hlisted) (Bool.not_eq_true _ ▸ hfree)]
  rfl

theorem blockedOrPresent_mono (hsame : SameOutside (S := schema) [Table.retiredSourceHolds] d e)
    (hholds : d .retiredSourceHolds ⊆ e .retiredSourceHolds) {guid : String}
    (h : blockedOrPresent d guid = true) : blockedOrPresent e guid = true := by
  simp only [blockedOrPresent, hsame .feeds (by decide), hsame .feedBlocks (by decide),
    Bool.or_eq_true, List.any_eq_true] at h ⊢
  exact h.imp id fun ⟨held, hheld, hguid⟩ => ⟨held, hholds hheld, hguid⟩

theorem FillCase.again {d₁ : Db} {b : Bool} (h : FillCase d r b d₁)
    (hsame : SameOutside (S := schema) [Table.retiredSourceHolds] d₁ e)
    (hholds : d₁ .retiredSourceHolds ⊆ e .retiredSourceHolds) :
    fillHold r e = (.ok false, e) := by
  cases h with
  | unlisted p hp hlisted => exact fillHold_skips hp fun hmem => absurd hmem hlisted
  | present p hp hpresent =>
    refine fillHold_skips hp fun _ hfree => ?_
    rw [blockedOrPresent_mono hsame hholds hpresent] at hfree
    cases hfree
  | noContent p hp hnone =>
    refine fillHold_skips hp fun _ _ => ?_
    rw [← hnone, lastUpsertBefore, lastUpsertBefore, hsame .events (by decide)]
  | filled hold hfrees hcontents =>
    obtain ⟨p, hp, -⟩ := hfrees.reason
    refine fillHold_skips hp fun _ hfree => ?_
    have hpresent : blockedOrPresent d₁ r.subjectGuid = true := by
      rw [blockedOrPresent_hold hcontents, hfrees.guid, beq_self_eq_true, Bool.or_true]
    rw [blockedOrPresent_mono hsame hholds hpresent] at hfree
    cases hfree

theorem fillHolds_again {rs : List StoredEvent} {n : Nat} (h : fillHolds rs d = (.ok n, e)) :
    ∀ r ∈ rs, fillHold r e = (.ok false, e) := by
  induction rs generalizing d n with
  | nil => exact List.forall_mem_nil _
  | cons r rs ih =>
    obtain ⟨filled, d₁, hfirst, h⟩ := bind_ok h
    obtain ⟨written, d₂, hrest, h⟩ := bind_ok h
    cases h
    obtain ⟨honly, -, hholds⟩ := fillHolds_run hrest
    refine List.forall_mem_cons.mpr ⟨?_, ih hrest⟩
    exact (fillHold_cases hfirst).again honly fun hold hmem => (hholds hold).mpr (.inl hmem)

theorem fillHolds_zero {rs : List StoredEvent} (h : ∀ r ∈ rs, fillHold r d = (.ok false, d)) :
    fillHolds rs d = (.ok 0, d) := by
  induction rs with
  | nil => rfl
  | cons r rs ih =>
    obtain ⟨hfirst, hrest⟩ := List.forall_mem_cons.mp h
    unfold fillHolds
    rw [bind_run_ok hfirst, bind_run_ok (ih hrest)]
    rfl

theorem fillRetiredSourceHolds_again {n : Nat} (h : fillRetiredSourceHolds d = (.ok n, e)) :
    fillRetiredSourceHolds e = (.ok 0, e) := by
  obtain ⟨retires, d₁, hread, hrun⟩ := bind_ok (transaction_ok.mp h)
  cases hread
  have hlast : lastRetirements e = lastRetirements d := by
    unfold lastRetirements
    rw [(fillHolds_run hrun).1 .events (by decide)]
  apply transaction_ok.mpr
  rw [read_bind_run, hlast]
  exact fillHolds_zero (fillHolds_again hrun)

end Fill

end

end Stophammer
