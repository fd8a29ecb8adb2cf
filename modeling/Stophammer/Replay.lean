import Stophammer.PendingChanges
import Stophammer.Reconcile
import Stophammer.Redelivery
import Stophammer.SignedLog

/-!
# Replay of the log

A part of the database that the events of some types determine: the primary writes it
together with its events, and a replica computes it from their payloads.
-/

namespace Stophammer

open Relational Statement

variable [Platform]

/-- What replicas share.  `replay` is what the event of a payload makes of it, and `Applies`
says which payloads the constraints of the tables take. -/
structure SharedView (V : Type) where
  view : Db → V
  tables : List Table
  types : List EventType
  replay : V → EventPayload → V
  Applies : EventPayload → Prop
  tables_shared : ∀ t ∈ tables, t ≠ .events ∧ t ≠ .nodeSyncState
  types_stored : ∀ τ ∈ types, τ.payloadIndexed = false
  view_congr : ∀ d e : Db, (∀ t ∈ tables, d t = e t) → view d = view e
  replay_other : ∀ v payload, payload.eventType ∉ types → replay v payload = v
  applies_other : ∀ payload, payload.eventType ∉ types → Applies payload
  view_applyPayload : ∀ createdAt payload d, Applies payload →
    view (applyPayload createdAt payload d).2 = replay (view d) payload

/-- The rows of the log of these types. -/
def rowsOf (types : List EventType) (d : Db) : List StoredEvent :=
  (d .events).filter fun r : StoredEvent => decide (r.eventType ∈ types)

/-- `serde_json` on the rows of the log: a text is read as a payload of the type of its row, and
the text of a row of `types` is read as the payload that it was written from. -/
structure ReadsRows (types : List EventType) (d : Db) : Prop where
  tagged : ∀ r ∈ d .events, ∀ payload,
    Platform.decodePayload r.eventType r.payloadJson = some payload →
      payload.eventType = r.eventType
  reads : ∀ r ∈ rowsOf types d, ∀ payload, Carries r payload →
    Platform.decodePayload r.eventType r.payloadJson = some payload

theorem ReadsRows.of_texts {types : List EventType} {d : Db}
    (hback : ∀ payload, Platform.encodePayload payload ≠ "null" →
      Platform.decodePayload payload.eventType (Platform.encodePayload payload) = some payload)
    (hrows : ∀ r ∈ d .events, r.payloadJson ≠ "null" ∧
      (Platform.decodePayload r.eventType r.payloadJson).map EventPayload.eventType =
        some r.eventType) : ReadsRows types d := by
  constructor
  · intro r hr payload hpayload
    have htype := (hrows r hr).2
    rw [hpayload] at htype
    exact Option.some.inj htype
  · rintro r hr payload ⟨htype, htext⟩
    have hnull := (hrows r (List.mem_filter.mp hr).1).1
    rw [htext] at hnull
    rw [htype, htext]
    exact hback payload hnull

theorem deliverAll_batches {batches : List (List Event)} {d : Db}
    (h : ∀ events ∈ batches, ∀ ev ∈ events, verifyEventSignature ev = true ∧ Decodes ev) :
    SameReplica (deliverAll (batches.map (Delivery.batch true)) d) (applyEach batches.flatten d) := by
  induction batches generalizing d with
  | nil => exact fun _ _ => rfl
  | cons events batches ih =>
    have hevents := h events List.mem_cons_self
    have hverified : verifiedOf events = events :=
      verifiedOf_eq_self fun ev hev => (hevents ev hev).1
    have hcommits : Commits true events := by
      refine ⟨rfl, ?_⟩
      rw [hverified]
      exact fun ev hev => (hevents ev hev).2
    have hbatch : SameReplica (Delivery.apply (.batch true events) d) (applyEach events d) := by
      change SameReplica (applyEvents true events d).2 _
      rw [applyEvents_db, if_pos hcommits, hverified]
      exact committed_sameReplica events d
    have hrest := ih (d := applyEach events d) fun b hb => h b (List.mem_cons_of_mem _ hb)
    intro t ht
    rw [List.flatten_cons, applyEach_append, ← hrest t ht]
    exact deliverAll_sameReplica _ hbatch t ht

omit [Platform] in
theorem rowsOf_append (types : List EventType) {d e : Db} {rows : List StoredEvent}
    (h : e .events = d .events ++ rows) : rowsOf types e = rowsOf types d ++
      rows.filter fun r : StoredEvent => decide (r.eventType ∈ types) := by
  rw [rowsOf, h, List.filter_append]
  rfl

theorem mapM_decodes {rows : List StoredEvent} {events : List Event}
    (h : rows.mapM eventOfRow = .ok events) :
    ∀ ev ∈ events, deserializeVerifiedPayload ev = some ev.payload := by
  induction rows generalizing events with
  | nil =>
    cases h
    exact fun ev hev => (List.not_mem_nil hev).elim
  | cons r rows ih =>
    rw [List.mapM_cons] at h
    rcases hr : eventOfRow r with err | ev
    · rw [hr] at h
      cases h
    · rcases hrest : rows.mapM eventOfRow with err | evs
      · rw [hr, hrest] at h
        cases h
      · rw [hr, hrest] at h
        cases h
        have hfirst : deserializeVerifiedPayload ev = some ev.payload := by
          unfold eventOfRow at hr
          split at hr
          · rename_i typed htyped
            cases hr
            rw [deserializeVerifiedPayload, Platform.decodePayload, htyped]
            rfl
          · cases hr
        intro ev' hev'
        rcases List.mem_cons.mp hev' with rfl | hev'
        · exact hfirst
        · exact ih hrest ev' hev'

omit [Platform] in
theorem ids_differ (d : Db) : ((d .events).map StoredEvent.eventId).Nodup := by
  have hkeys := (List.nodup_flatMap.mp (d.valid.unique .events)).2
  apply List.pairwise_map.mpr
  apply hkeys.imp
  intro a b hdisjoint hid
  exact hdisjoint (a := Key.event a.eventId) (by simp [schema, Table.keys])
    (by simp [schema, Table.keys, hid])

theorem SignedLog.storedEventsSince (h : SignedLog d) {limit : Int}
    (hlimit : (d .events).length ≤ limit) : storedEventsSince d 0 limit = d .events := by
  have hseq : (d .events).map StoredEvent.seq = _ := h.seqs
  have hascending : Ascending (d .events) := by
    have hup : ((d .events).map StoredEvent.seq).Pairwise (· < ·) := by
      rw [hseq, List.pairwise_map]
      exact List.pairwise_lt_range.imp fun hlt => by omega
    exact List.pairwise_map.mp hup
  have hall : rowsAfter d 0 = d .events := by
    apply Ascending.ext ((rowsFrom_ascending d 0).filter _) hascending
    intro r
    rw [← rowsAfter, mem_rowsAfter]
    refine and_iff_left_of_imp fun hr => ?_
    have hmem := List.mem_map_of_mem (f := StoredEvent.seq) hr
    rw [hseq, List.mem_map] at hmem
    obtain ⟨i, -, hi⟩ := hmem
    omega
  rw [storedEventsSince_eq, hall, List.take_of_length_le]
  omega

theorem payloads_of_rows {types : List EventType} {events : List Event} {payloads : List EventPayload}
    (hcarries : List.Forall₂ Carries
      ((events.map logRow).filter fun r => decide (r.eventType ∈ types)) payloads)
    (htag : ∀ ev ∈ events, ev.payload.eventType = ev.eventType)
    (hreads : ∀ ev ∈ events, ev.eventType ∈ types → ∀ payload,
      Carries (logRow ev) payload → ev.payload = payload) :
    ((events.map Event.payload).filter fun p => decide (p.eventType ∈ types)) =
      payloads := by
  induction events generalizing payloads with
  | nil =>
    cases hcarries
    rfl
  | cons ev events ih =>
    have hrest := fun ps hps => @ih ps hps (fun ev' h => htag ev' (List.mem_cons_of_mem _ h))
      (fun ev' h => hreads ev' (List.mem_cons_of_mem _ h))
    have hsame := htag ev List.mem_cons_self
    have hrow : (logRow ev).eventType = ev.eventType := rfl
    rw [List.map_cons] at hcarries ⊢
    by_cases htype : ev.eventType ∈ types
    · rw [List.filter_cons_of_pos (by simpa [hrow] using htype)] at hcarries
      rw [List.filter_cons_of_pos (by simpa [hsame] using htype)]
      cases hcarries with
      | cons hfirst hcarries =>
        rw [hreads ev List.mem_cons_self htype _ hfirst, hrest _ hcarries]
    · rw [List.filter_cons_of_neg (by simpa [hrow] using htype)] at hcarries
      rw [List.filter_cons_of_neg (by simpa [hsame] using htype)]
      exact hrest _ hcarries

namespace SharedView

variable {V : Type} {d e : Db}

theorem view_recordEvent (S : SharedView V) (ev : Event) (d : Db) :
    S.view (recordEvent ev d) = S.view d :=
  S.view_congr _ _ fun t ht => recordEvent_other (S.tables_shared t ht).1

theorem view_sameReplica (S : SharedView V) (h : SameReplica d e) : S.view d = S.view e :=
  S.view_congr _ _ fun t ht => h t (S.tables_shared t ht).2

def replayAll (S : SharedView V) (v : V) (payloads : List EventPayload) : V :=
  payloads.foldl S.replay v

/-- The events of the log give the shared part. -/
def Replays (S : SharedView V) (d : Db) : Prop :=
  ∃ payloads, List.Forall₂ Carries (rowsOf S.types d) payloads ∧
    (∀ payload ∈ payloads, S.Applies payload) ∧
      S.view d = S.replayAll (S.view (Database.empty schema)) payloads

theorem replays_empty (S : SharedView V) : S.Replays (Database.empty schema) :=
  ⟨[], .nil, fun _ h => (List.not_mem_nil h).elim, rfl⟩

theorem Replays.append {S : SharedView V} (h : S.Replays d) {rows : List StoredEvent}
    {payloads : List EventPayload} (hlog : rowsOf S.types e = rowsOf S.types d ++ rows)
    (hcarries : List.Forall₂ Carries rows payloads) (happlies : ∀ p ∈ payloads, S.Applies p)
    (hview : S.view e = S.replayAll (S.view d) payloads) : S.Replays e := by
  obtain ⟨before, hbefore, hold, hrows⟩ := h
  refine ⟨before ++ payloads, by rw [hlog]; exact List.rel_append hbefore hcarries, ?_, ?_⟩
  · intro payload hpayload
    rcases List.mem_append.mp hpayload with hin | hnew
    · exact hold payload hin
    · exact happlies payload hnew
  · rw [hview, replayAll, replayAll, List.foldl_append, hrows]
    rfl

theorem Replays.same {S : SharedView V} (h : S.Replays d)
    (hlog : rowsOf S.types e = rowsOf S.types d) (hview : S.view e = S.view d) : S.Replays e := by
  have hrows : rowsOf S.types e = rowsOf S.types d ++ [] := by rw [hlog, List.append_nil]
  exact h.append hrows .nil (fun _ hp => (List.not_mem_nil hp).elim) hview

theorem Replays.sign {S : SharedView V} (h : S.Replays d) {t : Db} {signer : NodeSigner}
    {payload : EventPayload} {subjectGuid eventId : String} {createdAt : Int}
    {warnings : List String} {signed : SignedEventRow}
    (hsign : signEventRow signer (eventDraft payload subjectGuid createdAt warnings eventId) t =
      (.ok signed, e))
    (htype : payload.eventType ∈ S.types) (happlies : S.Applies payload)
    (hlog : t .events = d .events) (hview : S.view t = S.replay (S.view d) payload) :
    S.Replays e := by
  obtain ⟨_, t', hinsert, hpure⟩ := bind_ok hsign
  cases hpure
  rcases insertEvent_run signer (eventDraft payload subjectGuid createdAt warnings eventId) t with
    ⟨t', hrun, hcontents⟩ | ⟨err, hrun⟩
  · rw [hrun] at hinsert
    cases hinsert
    have hrow : rowsOf S.types e = rowsOf S.types d ++
        [signedRow signer (eventDraft payload subjectGuid createdAt warnings eventId)
          (nextSeq t)] := by
      have hevents : e .events = d .events ++ [signedRow signer
          (eventDraft payload subjectGuid createdAt warnings eventId) (nextSeq t)] := by
        rw [hcontents, Contents.set_same, hlog]
      rw [rowsOf_append S.types hevents]
      congr 1
      exact List.filter_cons_of_pos (decide_eq_true htype)
    have hsame : S.view e = S.view t := by
      apply S.view_congr
      intro u hu
      rw [hcontents, Contents.set_other (S.tables_shared u hu).1]
    refine h.append hrow (.cons ⟨rfl, rfl⟩ .nil) ?_ (hsame.trans hview)
    intro p hp
    rw [List.mem_singleton.mp hp]
    exact happlies
  · rw [hrun] at hinsert
    cases hinsert

theorem replayAll_filter (S : SharedView V) (v : V) (payloads : List EventPayload) :
    S.replayAll v (payloads.filter fun p => decide (p.eventType ∈ S.types)) =
      S.replayAll v payloads := by
  induction payloads generalizing v with
  | nil => rfl
  | cons payload payloads ih =>
    by_cases htype : payload.eventType ∈ S.types
    · rw [List.filter_cons_of_pos (by simpa using htype)]
      exact ih _
    · rw [List.filter_cons_of_neg (by simpa using htype), ih]
      change _ = S.replayAll (S.replay v payload) payloads
      rw [S.replay_other _ _ htype]

theorem replay_refused (S : SharedView V) {ev : Event} (h : ev.storable = false)
    (htag : ev.payload.eventType = ev.eventType) (v : V) : S.replay v ev.payload = v := by
  apply S.replay_other
  intro htype
  rw [htag] at htype
  rw [Event.storable, S.types_stored _ htype] at h
  cases h

theorem view_applyEach (S : SharedView V) {events : List Event}
    (hdistinct : (events.map Event.eventId).Nodup)
    (hfresh : ∀ ev ∈ events, hasEvent d ev.eventId = false)
    (hdec : ∀ ev ∈ events, deserializeVerifiedPayload ev = some ev.payload)
    (htag : ∀ ev ∈ events, ev.payload.eventType = ev.eventType)
    (happlies : ∀ ev ∈ events, S.Applies ev.payload) :
    S.view (applyEach events d) = S.replayAll (S.view d) (events.map Event.payload) := by
  induction events generalizing d with
  | nil => rfl
  | cons ev events ih =>
    simp only [List.map_cons, List.nodup_cons] at hdistinct
    have hfirst : S.view (applyOne ev d) = S.replay (S.view d) ev.payload := by
      cases hstorable : ev.storable with
      | false =>
        rw [applyOne_refused hstorable, S.replay_refused hstorable (htag ev List.mem_cons_self)]
      | true =>
        have hnew : isNew d ev = true :=
          isNew_iff.mpr ⟨hstorable, hfresh ev List.mem_cons_self⟩
        rw [applyOne_decoded hnew (hdec ev List.mem_cons_self),
          S.view_applyPayload _ _ _ (happlies ev List.mem_cons_self), S.view_recordEvent]
    have hrest : ∀ ev' ∈ events, hasEvent (applyOne ev d) ev'.eventId = false := by
      intro ev' hev'
      have hne : ev'.eventId ≠ ev.eventId := fun hsame =>
        hdistinct.1 (hsame ▸ List.mem_map_of_mem hev')
      rw [hasEvent_applyOne, hfresh ev' (List.mem_cons_of_mem _ hev'), decide_eq_false hne,
        Bool.and_false, Bool.or_false]
    have happly : applyEach (ev :: events) d = applyEach events (applyOne ev d) := rfl
    rw [happly, ih hdistinct.2 hrest (fun ev' h => hdec ev' (List.mem_cons_of_mem _ h))
      (fun ev' h => htag ev' (List.mem_cons_of_mem _ h))
      (fun ev' h => happlies ev' (List.mem_cons_of_mem _ h)), hfirst]
    rfl

theorem Replays.replica {S : SharedView V} (h : S.Replays d) (hlog : SignedLog d)
    (hreads : ReadsRows S.types d) {limit : Int} (hlimit : (d .events).length ≤ limit)
    {batches : List (List Event)} (hserved : getEventsSince d 0 limit = .ok batches.flatten) :
    S.view (deliverAll (batches.map (Delivery.batch true)) (Database.empty schema)) = S.view d := by
  have hmap : (d .events).mapM eventOfRow = .ok batches.flatten := by
    rwa [getEventsSince, hlog.storedEventsSince hlimit] at hserved
  have hrows := mapM_eventOfRow hmap
  have hdec := mapM_decodes hmap
  have hmem : ∀ ev ∈ batches.flatten, logRow ev ∈ d .events := fun ev hev =>
    hrows ▸ List.mem_map_of_mem hev
  have htag : ∀ ev ∈ batches.flatten, ev.payload.eventType = ev.eventType := fun ev hev =>
    hreads.tagged _ (hmem ev hev) _ (hdec ev hev)
  obtain ⟨payloads, hcarries, happlies, hview⟩ := h
  have hpayloads : ((batches.flatten.map Event.payload).filter
      fun p => decide (p.eventType ∈ S.types)) = payloads := by
    apply payloads_of_rows
    · rw [hrows]
      exact hcarries
    · exact htag
    · intro ev hev htype payload hpayload
      have hread := hreads.reads (logRow ev)
        (List.mem_filter.mpr ⟨hmem ev hev, decide_eq_true htype⟩) payload hpayload
      exact Option.some.inj ((hdec ev hev).symm.trans hread)
  have hall : ∀ ev ∈ batches.flatten, S.Applies ev.payload := by
    intro ev hev
    by_cases htype : ev.payload.eventType ∈ S.types
    · apply happlies
      rw [← hpayloads, List.mem_filter]
      exact ⟨List.mem_map_of_mem hev, decide_eq_true htype⟩
    · exact S.applies_other _ htype
  have hdistinct : (batches.flatten.map Event.eventId).Nodup := by
    have hids := ids_differ d
    rw [← hrows, List.map_map] at hids
    exact hids
  have hone : S.view (applyEach batches.flatten (Database.empty schema)) = S.view d := by
    rw [S.view_applyEach hdistinct (fun _ _ => rfl) hdec htag hall, ← S.replayAll_filter, hpayloads,
      hview]
  have hbatches : ∀ events ∈ batches, ∀ ev ∈ events,
      verifyEventSignature ev = true ∧ Decodes ev := by
    intro events hevents ev hev
    have hflat := List.mem_flatten.mpr ⟨events, hevents, hev⟩
    exact ⟨hlog.verifies _ (hmem ev hflat) ev.typed, by rw [Decodes, hdec ev hflat]; rfl⟩
  rw [← hone]
  exact S.view_sameReplica (deliverAll_batches hbatches)

end SharedView

end Stophammer
