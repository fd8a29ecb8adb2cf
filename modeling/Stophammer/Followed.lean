import Stophammer.LoggedUrls
import Stophammer.Replay

/-!
# Steps that their events give

A step of the primary whose new events make of the shared part what the step made of it.
The order of the write and its event does not matter.
-/

namespace Stophammer

open Relational Statement

variable [Platform] {V : Type} {d e t : Db}

namespace SharedView

/-- The new rows of the log carry payloads that give the change of the shared part. -/
def Followed (S : SharedView V) (d e : Db) : Prop :=
  ∃ rows payloads, rowsOf S.types e = rowsOf S.types d ++ rows ∧
    List.Forall₂ Carries rows payloads ∧ (∀ p ∈ payloads, S.Applies p) ∧
      S.view e = S.replayAll (S.view d) payloads

instance (S : SharedView V) : IsPreorder Db S.Followed where
  refl d := ⟨[], [], (List.append_nil _).symm, .nil, fun _ h => (List.not_mem_nil h).elim, rfl⟩
  trans d e f hde hef := by
    obtain ⟨rows, payloads, hlog, hcarries, happlies, hview⟩ := hde
    obtain ⟨rows', payloads', hlog', hcarries', happlies', hview'⟩ := hef
    refine ⟨rows ++ rows', payloads ++ payloads', ?_, List.rel_append hcarries hcarries', ?_, ?_⟩
    · rw [hlog', hlog, List.append_assoc]
    · intro p hp
      exact (List.mem_append.mp hp).elim (happlies p) (happlies' p)
    · rw [hview', hview, replayAll, replayAll, replayAll, List.foldl_append]

variable {S : SharedView V}

theorem Followed.keeps (h : S.Followed d e) : Keeps S.Replays d e := by
  obtain ⟨rows, payloads, hlog, hcarries, happlies, hview⟩ := h
  exact fun hd => hd.append hlog hcarries happlies hview

theorem followed_of_same (hlog : e .events = d .events) (hview : S.view e = S.view d) :
    S.Followed d e :=
  ⟨[], [], by rw [rowsOf, hlog, ← rowsOf, List.append_nil], .nil,
    fun _ h => (List.not_mem_nil h).elim, hview⟩

theorem followed_of_logs {ts : List Table} {types : List EventType} (h : Logs ts types d e)
    (hts : ∀ u ∈ S.tables, u ∉ ts) (htypes : ∀ τ ∈ types, τ ∉ S.types) : S.Followed d e := by
  obtain ⟨rows, hrows, hall⟩ := h.appended
  have hnone : (rows.filter fun r : StoredEvent => decide (r.eventType ∈ S.types)) = [] := by
    rw [List.filter_eq_nil_iff]
    intro r hr
    simpa using htypes _ (hall r hr)
  refine ⟨[], [], ?_, .nil, fun _ h => (List.not_mem_nil h).elim, ?_⟩
  · rw [rowsOf_append S.types hrows, hnone]
  · exact S.view_congr _ _ fun u hu => h.frame u (hts u hu)

theorem followed_of_sameOutside {ts : List Table} (h : SameOutside (S := schema) ts d e)
    (hlog : Table.events ∉ ts) (hts : ∀ u ∈ S.tables, u ∉ ts) : S.Followed d e :=
  followed_of_same (h _ hlog) (S.view_congr _ _ fun u hu => h u (hts u hu))

theorem followed_of_writes {ts : List Table} {α : Type} {x : Stmt α}
    (hx : Writes (S := schema) ts x) (hlog : Table.events ∉ ts) (hts : ∀ u ∈ S.tables, u ∉ ts) :
    Steps S.Followed x := fun d =>
  have hlogs : Logs ts [] d (x d).2 := Logs.of_writes hx (List.Subset.refl _) hlog d
  followed_of_logs hlogs hts fun _ h => (List.not_mem_nil h).elim

theorem followed_of_row {r : StoredEvent} {payload : EventPayload}
    (hrow : e .events = d .events ++ [r]) (hcarries : Carries r payload)
    (htype : payload.eventType ∈ S.types) (happlies : S.Applies payload)
    (hview : S.view e = S.replay (S.view d) payload) : S.Followed d e := by
  have hkept : decide (r.eventType ∈ S.types) = true := by
    rw [decide_eq_true_eq, hcarries.1]
    exact htype
  refine ⟨[r], [payload], ?_, .cons hcarries .nil, ?_, hview⟩
  · rw [rowsOf_append S.types hrow]
    congr 1
    exact List.filter_cons_of_pos hkept
  · intro p hp
    rw [List.mem_singleton.mp hp]
    exact happlies

section Sign

variable {signer : NodeSigner} {payload : EventPayload} {subjectGuid eventId : String}
  {createdAt : Int} {warnings : List String} {signed : SignedEventRow}

theorem view_signEventRow {row : EventRow} (h : signEventRow signer row d = (.ok signed, e)) :
    S.view e = S.view d :=
  S.view_congr _ _ fun u hu => by
    rw [signEventRow_contents h, Contents.set_other (S.tables_shared u hu).1]

theorem followed_of_write_sign
    (hsign : signEventRow signer (eventDraft payload subjectGuid createdAt warnings eventId) t =
      (.ok signed, e))
    (htype : payload.eventType ∈ S.types) (happlies : S.Applies payload)
    (hlog : t .events = d .events) (hview : S.view t = S.replay (S.view d) payload) :
    S.Followed d e := by
  have hrow : e .events = d .events ++ [signedRow signer
      (eventDraft payload subjectGuid createdAt warnings eventId) (nextSeq t)] := by
    rw [signEventRow_contents hsign, Contents.set_same, hlog]
  exact followed_of_row hrow ⟨rfl, rfl⟩ htype happlies ((view_signEventRow hsign).trans hview)

theorem followed_of_sign_write
    (hsign : signEventRow signer (eventDraft payload subjectGuid createdAt warnings eventId) d =
      (.ok signed, t))
    (htype : payload.eventType ∈ S.types) (happlies : S.Applies payload)
    (hlog : e .events = t .events) (hview : S.view e = S.replay (S.view t) payload) :
    S.Followed d e := by
  have hrow : e .events = d .events ++ [signedRow signer
      (eventDraft payload subjectGuid createdAt warnings eventId) (nextSeq d)] := by
    rw [hlog, signEventRow_contents hsign, Contents.set_same]
  rw [view_signEventRow hsign] at hview
  exact followed_of_row hrow ⟨rfl, rfl⟩ htype happlies hview

theorem followed_of_sign {row : EventRow} (htype : row.eventType ∉ S.types) :
    Steps S.Followed (signEventRow signer row) := by
  intro d
  have hlogs : Steps (Logs [Table.events] [row.eventType]) (signEventRow signer row) :=
    signEventRow_logs List.mem_cons_self List.mem_cons_self
  refine followed_of_logs (hlogs d) (fun u hu => ?_) ?_
  · rw [List.mem_singleton]
    exact (S.tables_shared u hu).1
  · intro τ hτ
    rw [List.mem_singleton.mp hτ]
    exact htype

end Sign

end SharedView

theorem isNew_applyOne {ev : Event} (h : isNew d ev = false) (x : Event) :
    isNew (applyOne x d) ev = false := by
  rw [isNew] at h ⊢
  rw [hasEvent_applyOne, Bool.not_or, ← Bool.and_assoc, h, Bool.false_and]

theorem isNew_applyOne_self (ev : Event) (d : Db) : isNew (applyOne ev d) ev = false := by
  rw [isNew, hasEvent_applyOne, decide_eq_true rfl, Bool.and_true]
  cases ev.storable <;> simp

theorem applyEach_old {ev : Event} {events : List Event} (h : isNew d ev = false) :
    applyEach (events.filter fun x => !x == ev) d = applyEach events d := by
  induction events generalizing d with
  | nil => rfl
  | cons x events ih =>
    have hcons : ∀ xs, applyEach (x :: xs) d = applyEach xs (applyOne x d) := fun _ => rfl
    by_cases hx : x = ev
    · rw [List.filter_cons_of_neg (by simp [hx]), ih h, hcons, hx, applyOne_old h]
    · rw [List.filter_cons_of_pos (by simp [hx]), hcons, hcons]
      exact ih (isNew_applyOne h x)

theorem applyEach_eraseDups (events : List Event) (d : Db) :
    applyEach events.eraseDups d = applyEach events d := by
  induction hlen : events.length using Nat.strong_induction_on generalizing events d with
  | _ n ih =>
    cases events with
    | nil => rfl
    | cons ev events =>
      have hshort : (events.filter fun x => !x == ev).length < n := by
        rw [← hlen]
        exact Nat.lt_succ_of_le (List.length_filter_le _ _)
      rw [List.eraseDups_cons]
      change applyEach _ (applyOne ev d) = applyEach events (applyOne ev d)
      rw [ih _ hshort _ _ rfl, applyEach_old (isNew_applyOne_self ev d)]

/-- The events of the batches that were committed. -/
def arrived (batches : List (Bool × List Event)) : List Event :=
  (batches.filter Prod.fst).flatMap Prod.snd

theorem deliverAll_arrived {batches : List (Bool × List Event)}
    (h : ∀ ev ∈ arrived batches, verifyEventSignature ev = true ∧ Decodes ev) (d : Db) :
    SameReplica (deliverAll (batches.map fun b => Delivery.batch b.1 b.2) d)
      (applyEach (arrived batches) d) := by
  induction batches generalizing d with
  | nil => exact fun _ _ => rfl
  | cons b batches ih =>
    obtain ⟨commits, events⟩ := b
    cases commits with
    | false =>
      have hskip : Delivery.apply (.batch false events) d = d := by
        change (applyEvents false events d).2 = d
        rw [applyEvents_db, if_neg fun hc => Bool.false_ne_true hc.1]
      change SameReplica (deliverAll _ (Delivery.apply (.batch false events) d)) _
      rw [hskip]
      exact ih h d
    | true =>
      have hall : ∀ ev ∈ arrived batches, verifyEventSignature ev = true ∧ Decodes ev :=
        fun ev hev => h ev (List.mem_append_right events hev)
      have hfirst : ∀ xs ∈ [events], ∀ ev ∈ xs, verifyEventSignature ev = true ∧ Decodes ev := by
        intro xs hxs ev hev
        rw [List.mem_singleton.mp hxs] at hev
        exact h ev (List.mem_append_left _ hev)
      have hbatch : SameReplica (Delivery.apply (.batch true events) d)
          (applyEach [events].flatten d) := deliverAll_batches hfirst
      rw [List.flatten_singleton] at hbatch
      change SameReplica (deliverAll _ (Delivery.apply (.batch true events) d))
        (applyEach (events ++ arrived batches) d)
      intro t ht
      rw [applyEach_append, deliverAll_sameReplica _ hbatch t ht, ih hall _ t ht]

namespace SharedView

theorem Replays.replica_arrived {S : SharedView V} (h : S.Replays d) (hlog : SignedLog d)
    (hreads : ReadsRows S.types d) {limit : Int} (hlimit : (d .events).length ≤ limit)
    {batches : List (Bool × List Event)}
    (hserved : getEventsSince d 0 limit = .ok (arrived batches).eraseDups) :
    S.view (deliverAll (batches.map fun b => Delivery.batch b.1 b.2) (Database.empty schema)) =
      S.view d := by
  have hmap : (d .events).mapM eventOfRow = .ok (arrived batches).eraseDups := by
    rwa [getEventsSince, hlog.storedEventsSince hlimit] at hserved
  have hsound : ∀ ev ∈ (arrived batches).eraseDups,
      verifyEventSignature ev = true ∧ Decodes ev := by
    intro ev hev
    have hrow : logRow ev ∈ d .events := mapM_eventOfRow hmap ▸ List.mem_map_of_mem hev
    exact ⟨hlog.verifies _ hrow ev.typed, by rw [Decodes, mapM_decodes hmap ev hev]; rfl⟩
  have honce : S.view (applyEach (arrived batches).eraseDups (Database.empty schema)) =
      S.view d := by
    have hflat : [(arrived batches).eraseDups].flatten = (arrived batches).eraseDups :=
      List.flatten_singleton
    have hone : ∀ xs ∈ [(arrived batches).eraseDups], ∀ ev ∈ xs,
        verifyEventSignature ev = true ∧ Decodes ev := fun xs hxs =>
      List.mem_singleton.mp hxs ▸ hsound
    have hall : S.view (deliverAll ([(arrived batches).eraseDups].map (Delivery.batch true))
        (Database.empty schema)) = S.view d :=
      h.replica hlog hreads hlimit (hflat.symm ▸ hserved)
    have heach := S.view_sameReplica
      (deliverAll_batches (d := Database.empty schema) hone)
    rw [hflat] at heach
    rw [← heach, hall]
  rw [← honce, applyEach_eraseDups]
  exact S.view_sameReplica (deliverAll_arrived (fun ev hev =>
    hsound ev (List.mem_eraseDups.mpr hev)) _)

end SharedView

end Stophammer
