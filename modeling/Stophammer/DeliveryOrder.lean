import Mathlib.Logic.Relation
import Stophammer.EventRegion
import Stophammer.Sample

/-!
# The order of delivery

A history of a primary, delivered to an empty replica in batches.  Events that share a
place must stay in order.  Events that no chain of shared places joins can change their
order: the rows of each place are the same rows in the same order.
-/

namespace Stophammer

open Relational Statement

/-- The tables that the events of a primary fill. -/
def replicatedTables : List Table :=
  [.feeds, .tracks, .paymentRoutes, .feedPaymentRoutes, .feedListValueRaw, .valueTimeSplits,
    .feedRemoteItemsRaw, .trackRemoteItemsRaw, .liveEvents, .sourceContributorClaims,
    .sourceEntityIds, .sourceEntityLinks, .sourceReleaseClaims, .sourceItemEnclosures,
    .sourceItemTranscripts, .sourcePlatformClaims, .feedUrlObservations, .feedBlocks, .feedCopies,
    .feedGuidChanges, .feedGuidSupersessions]

/-- The same rows in every replicated table. -/
def SameTables (d e : Db) : Prop := ∀ t ∈ replicatedTables, (d t).Perm (e t)

/-- The rows at each place are the same ones in the same order. -/
def SamePlaces (legacy : String → Bool) (d e : Db) : Prop :=
  ∀ t ∈ replicatedTables, ∀ a : Place,
    ((d t).filter fun r => decide (a ∈ t.places legacy r)) =
      (e t).filter fun r => decide (a ∈ t.places legacy r)

theorem places_ne_nil {legacy : String → Bool} {t : Table} (ht : t ∈ replicatedTables)
    (r : t.Row) : t.places legacy r ≠ [] := by
  cases t with
  | trackRemoteItemsRaw =>
    rcases r with ⟨_ | _, _⟩ <;> exact List.cons_ne_nil _ _
  | feedCrawlCache | sourceGoneAnswers | retiredSourceHolds | feedCopyOverflow | feedLeftUrls
  | feedMoveState | searchIndex | searchEntities | entityQuality | events | nodeSyncState
  | peerNodes => exact absurd ht (by decide)
  | _ => exact List.cons_ne_nil _ _

theorem SamePlaces.sameTables {legacy : String → Bool} {d e : Db} (h : SamePlaces legacy d e) :
    SameTables d e := by
  classical
  intro t ht
  rw [List.perm_iff_count]
  intro r
  obtain ⟨a, ha⟩ := List.exists_mem_of_ne_nil _ (@places_ne_nil legacy t ht r)
  have hcount : ∀ rows : List t.Row,
      (rows.filter fun r => decide (a ∈ t.places legacy r)).count r = rows.count r :=
    fun _ => List.count_filter (decide_eq_true ha)
  rw [← hcount (d t), ← hcount (e t), h t ht a]

section

variable [Platform]

/-- The signed events of a primary in the order of their seqs. -/
structure SignedHistory where
  events : List Event
  ordered : events.Pairwise fun a b => a.seq < b.seq
  distinct : (events.map Event.eventId).Nodup
  verified : ∀ ev ∈ events, verifyEventSignature ev = true
  decodes : ∀ ev ∈ events, Decodes ev

/-- The batches arrive one after another, and each one commits. -/
def deliver (batches : List (List Event)) (d : Db) : Db :=
  batches.foldl (fun d events => (applyEvents true events d).2) d

def Event.places (legacy : String → Bool) (ev : Event) : List Place :=
  ((deserializeVerifiedPayload ev).map (EventPayload.places legacy)).getD []

def Event.legacyTracks (ev : Event) : List String :=
  ((deserializeVerifiedPayload ev).map EventPayload.legacyTracks).getD []

namespace SignedHistory

def legacy (h : SignedHistory) (trackGuid : String) : Bool :=
  decide (trackGuid ∈ h.events.flatMap Event.legacyTracks)

/-- A chain of events of the history joins the two places. -/
def Linked (h : SignedHistory) : Place → Place → Prop :=
  Relation.EqvGen fun a b => ∃ ev ∈ h.events, a ∈ ev.places h.legacy ∧ b ∈ ev.places h.legacy

def Connected (h : SignedHistory) (x y : Event) : Prop :=
  ∃ a ∈ x.places h.legacy, ∃ b ∈ y.places h.legacy, h.Linked a b

/-- Connected events stand in the order of their seqs. -/
def KeepsOrder (h : SignedHistory) (events : List Event) : Prop :=
  events.Pairwise fun x y => h.Connected x y → x.seq < y.seq

theorem keepsOrder_events (h : SignedHistory) : h.KeepsOrder h.events := by
  unfold KeepsOrder
  apply h.ordered.imp
  intro x y hlt _
  exact hlt

end SignedHistory

section Regions

variable {legacy : String → Bool} {K : Place → Bool}

theorem insertEventIdempotent_spares (ev : Event) :
    (region legacy K).Spares (insertEventIdempotent ev) := by
  apply Region.Spares.of_writes insertEventIdempotent_writes
  intro t ht
  rw [List.mem_singleton.mp ht]
  exact own_table (t := Table.events) (fun _ => rfl) (fun _ => rfl)

omit [Platform] in
theorem withBatchCursor_sameIn {maxPrimarySeq : Int} {d e : Db} (h : (region legacy K).SameIn d e) :
    (region legacy K).SameIn (withBatchCursor maxPrimarySeq d) e := by
  have hwrites : Writes (S := schema) [Table.nodeSyncState] (writeBatchCursor maxPrimarySeq) :=
    Writes.ite upsertNodeSyncState_writes (Writes.pure ())
  have hspares : (region legacy K).Spares (writeBatchCursor maxPrimarySeq) := by
    apply Region.Spares.of_writes hwrites
    intro t ht
    rw [List.mem_singleton.mp ht]
    exact own_table (t := Table.nodeSyncState) (fun _ => rfl) (fun _ => rfl)
  obtain ⟨hsep, hsame⟩ := hspares d h.left
  exact ⟨hsep, h.right, hsame.trans h.same⟩

/-- The event is on the side `b`, and `legacy` has the tracks that it names alone. -/
structure Event.On (legacy : String → Bool) (K : Place → Bool) (b : Bool) (ev : Event) : Prop where
  tracks : ∀ g ∈ ev.legacyTracks, legacy g = true
  places : ∀ a ∈ ev.places legacy, K a = b

theorem Event.On.confined {ev : Event} {b : Bool} (hev : ev.On legacy K b)
    {payload : EventPayload} (hdec : deserializeVerifiedPayload ev = some payload) :
    (region legacy K).Confined b (applyPayload ev.createdAt payload) := by
  apply applyPayload_confined
  · intro g hg
    exact hev.tracks g (by simpa [Event.legacyTracks, hdec] using hg)
  · intro a ha
    exact hev.places a (by simpa [Event.places, hdec] using ha)

theorem applyOne_inside {ev : Event} (hev : ev.On legacy K true) (hdec : Decodes ev) {d e : Db}
    (hd : hasEvent d ev.eventId = false) (he : hasEvent e ev.eventId = false)
    (h : (region legacy K).SameIn d e) :
    (region legacy K).SameIn (applyOne ev d) (applyOne ev e) := by
  obtain ⟨payload, hpayload⟩ := Option.isSome_iff_exists.mp hdec
  cases hstorable : ev.storable with
  | false => rwa [applyOne_refused hstorable, applyOne_refused hstorable]
  | true =>
    have hrecord : (region legacy K).SameIn (recordEvent ev d) (recordEvent ev e) :=
      h.of_spares (insertEventIdempotent_spares ev)
    rw [applyOne_decoded (isNew_iff.mpr ⟨hstorable, hd⟩) hpayload,
      applyOne_decoded (isNew_iff.mpr ⟨hstorable, he⟩) hpayload]
    exact (hev.confined hpayload).inside rfl _ _ hrecord

theorem applyOne_outside {ev : Event} (hev : ev.On legacy K false) (hdec : Decodes ev) {d e : Db}
    (hd : hasEvent d ev.eventId = false) (h : (region legacy K).SameIn d e) :
    (region legacy K).SameIn (applyOne ev d) e := by
  obtain ⟨payload, hpayload⟩ := Option.isSome_iff_exists.mp hdec
  cases hstorable : ev.storable with
  | false => rwa [applyOne_refused hstorable]
  | true =>
    obtain ⟨hsep, hsame⟩ := @insertEventIdempotent_spares _ legacy K ev d h.left
    obtain ⟨hsep', hsame'⟩ := (hev.confined hpayload).outside rfl (recordEvent ev d) hsep
    rw [applyOne_decoded (isNew_iff.mpr ⟨hstorable, hd⟩) hpayload]
    exact ⟨hsep', h.right, (hsame'.trans hsame).trans h.same⟩

/-- What a delivery from the two states `d` and `e` needs. -/
structure Deliverable (legacy : String → Bool) (K : Place → Bool) (side : Event → Bool)
    (events : List Event) (d e : Db) : Prop where
  on : ∀ ev ∈ events, ev.On legacy K (side ev)
  decodes : ∀ ev ∈ events, Decodes ev
  distinct : (events.map Event.eventId).Nodup
  new : ∀ ev ∈ events, hasEvent d ev.eventId = false ∧ hasEvent e ev.eventId = false
  same : (region legacy K).SameIn d e

theorem applyEach_sameIn {side : Event → Bool} {events : List Event} {d e : Db}
    (h : Deliverable legacy K side events d e) :
    (region legacy K).SameIn (applyEach events d) (applyEach (events.filter side) e) := by
  induction events generalizing d e with
  | nil => exact h.same
  | cons ev events ih =>
    obtain ⟨hd, he⟩ := h.new ev (by simp)
    have hdec := h.decodes ev (by simp)
    have hdistinct := h.distinct
    rw [List.map_cons, List.nodup_cons] at hdistinct
    have hne : ∀ ev' ∈ events, ev'.eventId ≠ ev.eventId := by
      intro ev' hev' heq
      exact hdistinct.1 (heq ▸ List.mem_map_of_mem hev')
    have hlater : ∀ (d : Db), ∀ ev' ∈ events, hasEvent d ev'.eventId = false →
        hasEvent (applyOne ev d) ev'.eventId = false := by
      intro d ev' hev' hfalse
      rw [hasEvent_applyOne, hfalse, decide_eq_false (hne ev' hev'), Bool.and_false,
        Bool.or_false]
    have hrest : ∀ ev' ∈ events, hasEvent (applyOne ev d) ev'.eventId = false ∧
        hasEvent e ev'.eventId = false := by
      intro ev' hev'
      obtain ⟨hd', he'⟩ := h.new ev' (by simp [hev'])
      exact ⟨hlater d ev' hev' hd', he'⟩
    have hev := h.on ev (by simp)
    cases hside : side ev with
    | true =>
      rw [hside] at hev
      rw [List.filter_cons_of_pos hside]
      apply ih
      exact {
        on := fun ev' hev' => h.on ev' (by simp [hev'])
        decodes := fun ev' hev' => h.decodes ev' (by simp [hev'])
        distinct := hdistinct.2
        new := fun ev' hev' => ⟨(hrest ev' hev').1, hlater e ev' hev' (hrest ev' hev').2⟩
        same := applyOne_inside hev hdec hd he h.same }
    | false =>
      rw [hside] at hev
      rw [List.filter_cons_of_neg (by rw [hside]; decide)]
      apply ih
      exact {
        on := fun ev' hev' => h.on ev' (by simp [hev'])
        decodes := fun ev' hev' => h.decodes ev' (by simp [hev'])
        distinct := hdistinct.2
        new := hrest
        same := applyOne_outside hev hdec hd h.same }

theorem Deliverable.append {side : Event → Bool} {xs ys : List Event} {d e : Db}
    (h : Deliverable legacy K side (xs ++ ys) d e) :
    Deliverable legacy K side xs d e ∧ (xs.map Event.eventId).Disjoint (ys.map Event.eventId) := by
  have hdistinct := h.distinct
  rw [List.map_append, List.nodup_append] at hdistinct
  refine ⟨?_, fun id hx hy => hdistinct.2.2 id hx id hy rfl⟩
  exact {
    on := fun ev hev => h.on ev (List.mem_append_left _ hev)
    decodes := fun ev hev => h.decodes ev (List.mem_append_left _ hev)
    distinct := hdistinct.1
    new := fun ev hev => h.new ev (List.mem_append_left _ hev)
    same := h.same }

theorem deliver_sameIn {side : Event → Bool} {batches : List (List Event)} {d e : Db}
    (hverified : ∀ ev ∈ batches.flatten, verifyEventSignature ev = true)
    (h : Deliverable legacy K side batches.flatten d e) :
    (region legacy K).SameIn (deliver batches d) (applyEach (batches.flatten.filter side) e) := by
  induction batches generalizing d e with
  | nil => exact h.same
  | cons events batches ih =>
    rw [List.flatten_cons] at h hverified
    obtain ⟨hfirst, hdisjoint⟩ := h.append
    have hown : verifiedOf events = events :=
      verifiedOf_eq_self fun ev hev => hverified ev (List.mem_append_left _ hev)
    have hcommits : Commits true events := by
      refine ⟨rfl, fun ev hev => h.decodes ev (List.mem_append_left _ ?_)⟩
      rwa [hown] at hev
    have hrun : (applyEvents true events d).2 = committed events d := by
      rw [applyEvents_db, if_pos hcommits, hown]
    have hnotIn : ∀ ev ∈ batches.flatten, ∀ ev' ∈ events, ev.eventId ≠ ev'.eventId := by
      intro ev hev ev' hev' hid
      exact hdisjoint (List.mem_map_of_mem hev') (hid ▸ List.mem_map_of_mem hev)
    have hnew : ∀ ev ∈ batches.flatten, hasEvent (committed events d) ev.eventId = false ∧
        hasEvent (applyEach (events.filter side) e) ev.eventId = false := by
      intro ev hev
      obtain ⟨hd, he⟩ := h.new ev (List.mem_append_right _ hev)
      rw [hasEvent_committed, hasEvent_applyEach, hd, he, Bool.false_or, Bool.false_or,
        List.any_eq_false, List.any_eq_false]
      refine ⟨fun ev' hev' => ?_, fun ev' hev' => ?_⟩
      · rw [decide_eq_false (hnotIn ev hev ev' hev'), Bool.and_false]
        decide
      · rw [decide_eq_false (hnotIn ev hev ev' (List.mem_of_mem_filter hev')), Bool.and_false]
        decide
    have hrest : Deliverable legacy K side batches.flatten (committed events d)
        (applyEach (events.filter side) e) := {
      on := fun ev hev => h.on ev (List.mem_append_right _ hev)
      decodes := fun ev hev => h.decodes ev (List.mem_append_right _ hev)
      distinct := (List.map_append ▸ h.distinct).of_append_right
      new := hnew
      same := withBatchCursor_sameIn (applyEach_sameIn hfirst) }
    change (region legacy K).SameIn (deliver batches (applyEvents true events d).2) _
    rw [hrun, List.flatten_cons, List.filter_append, applyEach_append]
    exact ih (fun ev hev => hverified ev (List.mem_append_right _ hev)) hrest

end Regions

namespace SignedHistory

variable (h : SignedHistory)

open Classical in
/-- The places that the history links to `a`. -/
noncomputable def linkedTo (a b : Place) : Bool := decide (h.Linked a b)

/-- The event has a place that is linked to `a`. -/
noncomputable def isNear (a : Place) (ev : Event) : Bool :=
  (ev.places h.legacy).any (h.linkedTo a)

variable {h}

open Classical in
theorem linkedTo_iff {a b : Place} : h.linkedTo a b = true ↔ h.Linked a b := decide_eq_true_iff

theorem on_side {ev : Event} (hev : ev ∈ h.events) (a : Place) :
    ev.On h.legacy (h.linkedTo a) (h.isNear a ev) where
  tracks := by
    intro g hg
    exact decide_eq_true (List.mem_flatMap.mpr ⟨ev, hev, hg⟩)
  places := by
    intro b hb
    have hjoin : ∀ c ∈ ev.places h.legacy, h.linkedTo a c = h.linkedTo a b := by
      intro c hc
      have hlink : h.Linked c b := Relation.EqvGen.rel c b ⟨ev, hev, hc, hb⟩
      rw [Bool.eq_iff_iff, linkedTo_iff, linkedTo_iff]
      exact ⟨fun hac => hac.trans _ _ _ hlink, fun hab => hab.trans _ _ _ hlink.symm⟩
    cases hside : h.linkedTo a b with
    | true => exact (List.any_eq_true.mpr ⟨b, hb, hside⟩).symm
    | false =>
      symm
      apply List.any_eq_false.mpr
      intro c hc
      rw [hjoin c hc, hside]
      decide

theorem connected_of_isNear {a : Place} {x y : Event} (hx : h.isNear a x = true)
    (hy : h.isNear a y = true) : h.Connected x y := by
  obtain ⟨b, hb, hab⟩ := List.any_eq_true.mp hx
  obtain ⟨c, hc, hac⟩ := List.any_eq_true.mp hy
  rw [linkedTo_iff] at hab hac
  exact ⟨b, hb, c, hc, hab.symm.trans _ _ _ hac⟩

theorem filter_isNear {events : List Event} (hperm : events.Perm h.events)
    (horder : h.KeepsOrder events) (a : Place) :
    events.filter (h.isNear a) = h.events.filter (h.isNear a) := by
  have hsorted : ∀ xs : List Event, h.KeepsOrder xs →
      (xs.filter (h.isNear a)).Pairwise fun x y => x.seq < y.seq := by
    intro xs hxs
    rw [List.pairwise_filter]
    apply hxs.imp
    intro x y hxy hx hy
    exact hxy (connected_of_isNear hx hy)
  apply List.Perm.eq_of_pairwise _ (hsorted events horder) (hsorted h.events h.keepsOrder_events)
    (hperm.filter _)
  intro x y _ _ hxy hyx
  omega

omit [Platform] in
theorem empty_sameIn {legacy : String → Bool} {K : Place → Bool} :
    (region legacy K).SameIn (Database.empty schema) (Database.empty schema) where
  left := by
    intro t r hr
    cases hr
  right := by
    intro t r hr
    cases hr
  same := rfl

theorem deliverable {events : List Event} (hperm : events.Perm h.events) (a : Place) :
    Deliverable h.legacy (h.linkedTo a) (h.isNear a) events (Database.empty schema)
      (Database.empty schema) where
  on _ hev := on_side (hperm.mem_iff.mp hev) a
  decodes ev hev := h.decodes ev (hperm.mem_iff.mp hev)
  distinct := ((hperm.map Event.eventId).nodup_iff).mpr h.distinct
  new _ _ := ⟨rfl, rfl⟩
  same := empty_sameIn

/-- Deliveries that keep the order of connected events give one replica. -/
theorem delivery_order {batches batches' : List (List Event)}
    (hperm : batches.flatten.Perm h.events) (horder : h.KeepsOrder batches.flatten)
    (hseq : batches'.flatten = h.events) :
    SameTables (deliver batches (Database.empty schema))
        (deliver batches' (Database.empty schema)) ∧
      SamePlaces h.legacy (deliver batches (Database.empty schema))
        (deliver batches' (Database.empty schema)) := by
  have hplaces : SamePlaces h.legacy (deliver batches (Database.empty schema))
      (deliver batches' (Database.empty schema)) := by
    intro t _ a
    have hleft := deliver_sameIn (fun ev hev => h.verified ev (hperm.mem_iff.mp hev))
      (deliverable hperm a)
    have hperm' : batches'.flatten.Perm h.events := List.Perm.of_eq hseq
    have hright := deliver_sameIn (fun ev hev => h.verified ev (hperm'.mem_iff.mp hev))
      (deliverable hperm' a)
    rw [filter_isNear hperm horder a] at hleft
    rw [hseq] at hright
    have hown : ∀ r, (region h.legacy (h.linkedTo a)).Fits t r →
        decide (a ∈ t.places h.legacy r) = true →
        (region h.legacy (h.linkedTo a)).row t r = true := by
      intro r hr ha
      rw [row_eq hr (of_decide_eq_true ha)]
      exact linkedTo_iff.mpr (Relation.EqvGen.refl a)
    rw [← Region.filter_side hleft.left hown, ← Region.filter_side hright.left hown, hleft.same,
      hright.same]
  exact ⟨hplaces.sameTables, hplaces⟩

end SignedHistory

end

section Sample

attribute [local instance] samplePlatform

/-- Two observations of one URL. -/
def observations : SignedHistory where
  events := [observedFirst, observedSecond]
  ordered := by decide +kernel
  distinct := by decide +kernel
  verified := by decide +kernel
  decodes := by decide +kernel

/-- The last observation to arrive is the one that stays. -/
theorem observations_swapped :
    [[observedSecond, observedFirst]].flatten.Perm observations.events ∧
      ¬ SameTables (deliver [[observedSecond, observedFirst]] (Database.empty schema))
        (deliver [observations.events] (Database.empty schema)) := by
  refine ⟨List.Perm.swap observedFirst observedSecond [], fun h => ?_⟩
  have hrows := h .feedUrlObservations (by decide)
  revert hrows
  decide +kernel

def routesThenObservation : SignedHistory where
  events := [routesOfUnknownFeed, observedSecond]
  ordered := by decide +kernel
  distinct := by decide +kernel
  verified := by decide +kernel
  decodes := by decide +kernel

private theorem linked_observed {a b : Place} (h : routesThenObservation.Linked a b) :
    a = .observed "u" ↔ b = .observed "u" := by
  have hplaces : ∀ ev ∈ routesThenObservation.events,
      ev.places routesThenObservation.legacy = [.observed "u"] ∨
        ev.places routesThenObservation.legacy = [.record "f1", .record "f1"] := by
    decide +kernel
  induction h with
  | rel a b hab =>
    obtain ⟨ev, hev, ha, hb⟩ := hab
    rcases hplaces ev hev with hplace | hplace <;> rw [hplace] at ha hb <;> simp_all
  | refl a => exact Iff.rfl
  | symm a b _ ih => exact ih.symm
  | trans a b c _ _ ihab ihbc => exact ihab.trans ihbc

theorem routesThenObservation_swapped :
    SameTables (deliver [[observedSecond], [routesOfUnknownFeed]] (Database.empty schema))
        (deliver [[routesOfUnknownFeed, observedSecond]] (Database.empty schema)) ∧
      SamePlaces routesThenObservation.legacy
        (deliver [[observedSecond], [routesOfUnknownFeed]] (Database.empty schema))
        (deliver [[routesOfUnknownFeed, observedSecond]] (Database.empty schema)) := by
  have horder : routesThenObservation.KeepsOrder [observedSecond, routesOfUnknownFeed] := by
    refine List.pairwise_pair.mpr fun hconnected => ?_
    obtain ⟨a, ha, b, hb, hlink⟩ := hconnected
    have hfirst : observedSecond.places routesThenObservation.legacy = [.observed "u"] := by
      decide +kernel
    have hsecond : routesOfUnknownFeed.places routesThenObservation.legacy =
        [.record "f1", .record "f1"] := by
      decide +kernel
    rw [hfirst, List.mem_singleton] at ha
    rw [hsecond] at hb
    have hobserved := (linked_observed hlink).mp ha
    rw [hobserved] at hb
    exact absurd hb (by decide)
  exact @SignedHistory.delivery_order samplePlatform routesThenObservation
    [[observedSecond], [routesOfUnknownFeed]] [[routesOfUnknownFeed, observedSecond]]
    (List.Perm.swap routesOfUnknownFeed observedSecond []) horder rfl

end Sample

end Stophammer
