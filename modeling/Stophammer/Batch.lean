import Stophammer.Apply

/-!
# What a batch does

The row of an event in the log is written before its effects and no effect takes it
away.  A batch whose payloads decode is the fold of its single events, and its
cursor is the highest seq of the events that gave no error.
-/

namespace Stophammer

open Relational Statement

variable [Platform]

def payloadTables : List Table :=
  feedTables ++ [.feedUrlObservations, .feedBlocks, .feedGuidChanges, .feedGuidSupersessions]

/-- The tables of the payloads that are not about a pending GUID change. -/
def contentPayloadTables : List Table :=
  feedTables ++ [.feedUrlObservations, .feedBlocks, .feedGuidSupersessions]

/-- The tables of a feed that its content fills.  The others hold what this node keeps about
its copies and its sources. -/
def contentRowTables : List Table :=
  feedTables.filter fun t => decide
    (t ∉ [Table.feedCopies, .sourceGoneAnswers, .feedCopyOverflow, .feedLeftUrls, .feedMoveState])

def payloadTablesOf : EventType → List Table
  | .feedUrlObserved => [.feedUrlObservations]
  | .feedBlocked => [.feedBlocks, .feedCopies]
  | .feedUnblocked => [.feedBlocks]
  | .feedCopyObserved | .feedCopyResolved => [.feedCopies]
  | .feedGuidChangeObserved | .feedGuidChangeDecided => [.feedGuidChanges]
  | .feedGuidSuperseded => [.feedGuidSupersessions]
  | .feedRetired => feedTables
  | _ => contentRowTables

theorem applyPayload_writes_of (createdAt : Int) (payload : EventPayload) :
    Writes (payloadTablesOf payload.eventType) (applyPayload createdAt payload) := by
  have hsync : ∀ feedGuid, Writes contentRowTables (syncSourceReadModelsForFeed feedGuid) :=
    fun _ => syncSourceReadModelsForFeed_writes.mono (by decide)
  cases payload
  all_goals simp only [EventPayload.eventType]
  case artistUpserted | artistCreditCreated => exact Writes.pure ()
  case feedUpserted p => exact (Writes.upsert (by decide)).bind fun _ => hsync _
  case trackUpserted p =>
    apply (Writes.upsert (by decide)).bind
    intro _
    apply (Writes.replaceRows (by decide)).bind
    intro _
    exact (replaceValueTimeSplitsForFeedTrack_writes.mono (by decide)).bind fun _ => hsync _
  case routesReplaced p =>
    rcases p with ⟨_, _ | _, _⟩
    · exact Writes.replaceRows (by decide)
    · exact Writes.replaceRows (by decide)
  case trackRemoteItemsReplaced p =>
    rcases p with ⟨_, _ | _, _⟩
    · exact Writes.replaceRows (by decide)
    · exact Writes.replaceRows (by decide)
  case feedUrlObserved | feedCopyObserved => exact Writes.upsert (by decide)
  case feedBlocked p =>
    exact (insertFeedBlock_writes.mono (by decide)).bind fun _ => Writes.pure ()
  case feedUnblocked p => exact Writes.delete (by decide)
  case feedCopyResolved | feedGuidChangeDecided => exact Writes.update (by decide)
  case feedGuidChangeObserved p =>
    exact Writes.ite (Writes.delete (by decide)) (Writes.upsert (by decide))
  case feedGuidSuperseded p =>
    exact (Writes.insertOrIgnore (by decide)).bind fun _ => Writes.pure ()
  case feedRetired p =>
    apply (Writes.read _).bind
    intro feed
    exact Writes.ite (deleteFeedSql_writes.mono (by decide)) (Writes.pure ())
  case trackRemoved p =>
    apply (Writes.read _).bind
    intro track
    exact Writes.ite (deleteTrackSql_writes.mono (by decide)) (Writes.pure ())
  all_goals exact Writes.replaceRows (by decide)

theorem applyPayload_writes_content (createdAt : Int) {payload : EventPayload}
    (hobserved : payload.eventType ≠ .feedGuidChangeObserved)
    (hdecided : payload.eventType ≠ .feedGuidChangeDecided) :
    Writes contentPayloadTables (applyPayload createdAt payload) := by
  apply (applyPayload_writes_of createdAt payload).mono
  generalize payload.eventType = τ at hobserved hdecided
  cases τ with
  | feedGuidChangeObserved => exact absurd rfl hobserved
  | feedGuidChangeDecided => exact absurd rfl hdecided
  | _ => decide

theorem applyPayload_writes (createdAt : Int) (payload : EventPayload) :
    Writes payloadTables (applyPayload createdAt payload) := by
  apply (applyPayload_writes_of createdAt payload).mono
  generalize payload.eventType = τ
  cases τ <;> decide

/-- The database after one event, whatever its outcome. -/
def applyOne (ev : Event) (d : Db) : Db := (applySingleEventInner ev d).2

theorem applySingleEventInner_refused {ev : Event} (h : ev.storable = false) (d : Db) :
    applySingleEventInner ev d = (.error (.rusqlite .events), d) := by
  unfold applySingleEventInner
  rw [bind_run_error (insertEventIdempotent_refused h)]

theorem applySingleEventInner_seen {d : Db} {ev : Event} (hstorable : ev.storable = true)
    (h : hasEvent d ev.eventId = true) : applySingleEventInner ev d = (.ok .duplicate, d) := by
  unfold applySingleEventInner
  rw [bind_run_ok (insertEventIdempotent_seen hstorable h)]
  rfl

theorem applySingleEventInner_new {d : Db} {ev : Event} (h : isNew d ev = true) :
    applySingleEventInner ev d =
      (do
        let payload ← liftDecode (deserializeVerifiedPayload ev)
        applyPayload ev.createdAt payload
        pure (ApplyOutcome.applied (nextSeq d))) (recordEvent ev d) := by
  unfold applySingleEventInner
  rw [bind_run_ok (insertEventIdempotent_new h).1]

theorem applyOne_refused {ev : Event} (h : ev.storable = false) (d : Db) : applyOne ev d = d := by
  rw [applyOne, applySingleEventInner_refused h]

theorem applyOne_seen {d : Db} {ev : Event} (h : hasEvent d ev.eventId = true) :
    applyOne ev d = d := by
  cases hstorable : ev.storable with
  | false => exact applyOne_refused hstorable d
  | true => rw [applyOne, applySingleEventInner_seen hstorable h]

theorem applyOne_old {d : Db} {ev : Event} (h : isNew d ev = false) : applyOne ev d = d := by
  rcases not_isNew h with hrefused | ⟨-, hseen⟩
  · exact applyOne_refused hrefused d
  · exact applyOne_seen hseen

theorem applyOne_undecoded {d : Db} {ev : Event} (h : isNew d ev = true)
    (hdec : deserializeVerifiedPayload ev = none) : applyOne ev d = recordEvent ev d := by
  rw [applyOne, applySingleEventInner_new h, hdec]
  rfl

theorem applySingleEventInner_decoded {d : Db} {ev : Event} {payload : EventPayload}
    (h : isNew d ev = true) (hdec : deserializeVerifiedPayload ev = some payload) :
    applySingleEventInner ev d =
      (applyPayload ev.createdAt payload >>= fun _ => pure (ApplyOutcome.applied (nextSeq d)))
        (recordEvent ev d) := by
  rw [applySingleEventInner_new h, hdec]
  rfl

theorem applyOne_decoded {d : Db} {ev : Event} {payload : EventPayload}
    (h : isNew d ev = true) (hdec : deserializeVerifiedPayload ev = some payload) :
    applyOne ev d = (applyPayload ev.createdAt payload (recordEvent ev d)).2 := by
  rw [applyOne, applySingleEventInner_decoded h hdec, bind_run]
  rcases applyPayload ev.createdAt payload (recordEvent ev d) with ⟨_ | _, _⟩ <;> rfl

theorem applyOne_unwritten {d : Db} {ev : Event} (h : isNew d ev = true) {t : Table}
    (ht : t ∉ payloadTables) : applyOne ev d t = recordEvent ev d t := by
  rcases hdec : deserializeVerifiedPayload ev with _ | payload
  · rw [applyOne_undecoded h hdec]
  · rw [applyOne_decoded h hdec]
    exact applyPayload_writes ev.createdAt payload t ht (recordEvent ev d)

theorem applyOne_leaves {d : Db} {ev : Event} {t : Table} (ht : t ≠ .events)
    (hp : t ∉ payloadTables) : applyOne ev d t = d t := by
  cases h : isNew d ev with
  | false => rw [applyOne_old h]
  | true => rw [applyOne_unwritten h hp, recordEvent_other ht]

theorem applyOne_events (d : Db) (ev : Event) :
    applyOne ev d .events =
      if isNew d ev then d .events ++ [storedEvent (nextSeq d) ev] else d .events := by
  cases h : isNew d ev with
  | false => rw [applyOne_old h, if_neg Bool.false_ne_true]
  | true => rw [applyOne_unwritten h (by decide), recordEvent_events h, if_pos rfl]

theorem hasEvent_applyOne (d : Db) (ev : Event) (eventId : String) :
    hasEvent (applyOne ev d) eventId =
      (hasEvent d eventId || (ev.storable && decide (eventId = ev.eventId))) := by
  cases h : isNew d ev with
  | false =>
    rw [applyOne_old h]
    rcases not_isNew h with hrefused | ⟨-, hseen⟩
    · rw [hrefused, Bool.false_and, Bool.or_false]
    · by_cases hid : eventId = ev.eventId
      · rw [hid, hseen, Bool.true_or]
      · rw [decide_eq_false hid, Bool.and_false, Bool.or_false]
  | true =>
    rw [(isNew_iff.mp h).1, Bool.true_and]
    unfold hasEvent
    rw [applyOne_events, if_pos h, List.any_append]
    congr 1
    simp [storedEvent, Bool.beq_eq_decide_eq, eq_comm]

/-- The database after the events, one by one. -/
def applyEach (events : List Event) (d : Db) : Db := events.foldl (fun d ev => applyOne ev d) d

theorem applyEach_append (xs ys : List Event) (d : Db) :
    applyEach (xs ++ ys) d = applyEach ys (applyEach xs d) := List.foldl_append ..

theorem hasEvent_applyEach (d : Db) (events : List Event) (eventId : String) :
    hasEvent (applyEach events d) eventId =
      (hasEvent d eventId ||
        events.any fun ev => ev.storable && decide (eventId = ev.eventId)) := by
  induction events generalizing d with
  | nil => simp [applyEach]
  | cons ev events ih =>
    change hasEvent (applyEach events (applyOne ev d)) eventId = _
    rw [ih, hasEvent_applyOne, List.any_cons, Bool.or_assoc]

theorem applyEach_leaves {t : Table} (ht : t ≠ .events) (hp : t ∉ payloadTables)
    (events : List Event) (d : Db) : applyEach events d t = d t := by
  induction events generalizing d with
  | nil => rfl
  | cons ev events ih =>
    change applyEach events (applyOne ev d) t = d t
    rw [ih, applyOne_leaves ht hp]

def heldIds (d : Db) : List String := (d .events).map StoredEvent.eventId

omit [Platform] in
theorem mem_heldIds (d : Db) (eventId : String) : eventId ∈ heldIds d ↔ hasEvent d eventId := by
  simp only [heldIds, hasEvent, List.mem_map, List.any_eq_true, beq_iff_eq]

/-- The events that get a row, each at its first delivery. -/
def freshEvents (d : Db) (events : List Event) : List Event :=
  dedupeBy Event.eventId (heldIds d) (events.filter Event.storable)

/-- The rows of new events: the seqs of the node count on from `seq`. -/
def storedFrom : Int → List Event → List StoredEvent
  | _, [] => []
  | seq, ev :: events => storedEvent seq ev :: storedFrom (seq + 1) events

theorem applyOne_nextSeq {d : Db} {ev : Event} (h : isNew d ev = true) :
    nextSeq (applyOne ev d) = nextSeq d + 1 := by
  apply nextSeq_append (r := storedEvent (nextSeq d) ev) _ rfl
  rw [applyOne_events, if_pos h]

theorem heldIds_applyOne {ev : Event} (hstorable : ev.storable = true) (d : Db) (k : String) :
    k ∈ heldIds (applyOne ev d) ↔ k ∈ ev.eventId :: heldIds d := by
  rw [mem_heldIds, hasEvent_applyOne, hstorable, Bool.true_and, List.mem_cons, mem_heldIds,
    Bool.or_eq_true, decide_eq_true_eq, or_comm]

theorem applyEach_events (events : List Event) (d : Db) :
    applyEach events d .events =
      d .events ++ storedFrom (nextSeq d) (freshEvents d events) := by
  induction events generalizing d with
  | nil => simp [applyEach, freshEvents, dedupeBy, storedFrom]
  | cons ev events ih =>
    change applyEach events (applyOne ev d) .events = _
    rw [ih]
    unfold freshEvents
    cases hstorable : ev.storable with
    | false =>
      rw [applyOne_refused hstorable, List.filter_cons_of_neg (by rw [hstorable]; decide)]
    | true =>
      rw [List.filter_cons_of_pos hstorable, dedupeBy]
      cases hseen : hasEvent d ev.eventId with
      | true => rw [applyOne_seen hseen, if_pos ((mem_heldIds d ev.eventId).mpr hseen)]
      | false =>
        have hnot : ev.eventId ∉ heldIds d := by
          rw [mem_heldIds, hseen]
          decide
        have hnew : isNew d ev = true := isNew_iff.mpr ⟨hstorable, hseen⟩
        rw [if_neg hnot, applyOne_events, if_pos hnew, applyOne_nextSeq hnew,
          dedupeBy_congr (heldIds_applyOne hstorable d), List.append_assoc]
        rfl

theorem mem_applyEach {events : List Event} {d : Db} {r : StoredEvent}
    (hr : r ∈ applyEach events d .events) :
    r ∈ d .events ∨ ∃ ev ∈ events, r = storedEvent r.seq ev := by
  induction events generalizing d with
  | nil => exact .inl hr
  | cons ev events ih =>
    rcases ih hr with hold | ⟨ev', hev', hrow⟩
    · rw [applyOne_events] at hold
      split at hold
      · rcases List.mem_append.mp hold with hold | hnew
        · exact .inl hold
        · rw [List.mem_singleton.mp hnew]
          exact .inr ⟨ev, by simp, rfl⟩
      · exact .inl hold
    · exact .inr ⟨ev', by simp [hev'], hrow⟩

/-- The signed text gives a payload. -/
def Decodes (ev : Event) : Prop := (deserializeVerifiedPayload ev).isSome

instance (ev : Event) : Decidable (Decodes ev) :=
  inferInstanceAs (Decidable ((deserializeVerifiedPayload ev).isSome = true))

/-- The live items before and after an event that replaces them. -/
def liveDiffs (ev : Event) (d : Db) : List PendingLiveSseDiff :=
  ((deserializeVerifiedPayload ev).map (pendingLiveSseDiff d)).getD []

/-- What one turn of the loop makes of the batch. -/
def Batch.next (b : Batch) (ev : Event) (d : Db) : Batch :=
  { b with pendingLiveSseDiffs := b.pendingLiveSseDiffs ++ liveDiffs ev d }.record ev
    (applySingleEventInner ev d).1

def Batch.gather : List Event → Batch → Db → Batch
  | [], b, _ => b
  | ev :: events, b, d => gather events (b.next ev d) (applyOne ev d)

theorem applyBatchEvent_run {b : Batch} {ev : Event} {d : Db} (hdec : Decodes ev) :
    applyBatchEvent b ev d = (.ok (b.next ev d), applyOne ev d) := by
  obtain ⟨payload, hpayload⟩ := Option.isSome_iff_exists.mp hdec
  unfold applyBatchEvent Batch.next liveDiffs applyOne
  rw [hpayload]
  rfl

theorem applyBatchEvent_undecoded {b : Batch} {ev : Event} {d : Db} (hdec : ¬ Decodes ev) :
    applyBatchEvent b ev d = (.error .json, d) := by
  have hnone : deserializeVerifiedPayload ev = none := by simpa [Decodes] using hdec
  unfold applyBatchEvent
  rw [hnone]
  rfl

theorem applyBatchEvents_run {events : List Event} (hdec : ∀ ev ∈ events, Decodes ev)
    (b : Batch) (d : Db) :
    applyBatchEvents b events d = (.ok (b.gather events d), applyEach events d) := by
  induction events generalizing b d with
  | nil => rfl
  | cons ev events ih =>
    unfold applyBatchEvents
    rw [bind_run_ok (applyBatchEvent_run (hdec ev (by simp)))]
    exact ih (fun ev' hev' => hdec ev' (by simp [hev'])) _ _

theorem applyBatchEvents_undecoded {events : List Event} (hdec : ¬ ∀ ev ∈ events, Decodes ev)
    (b : Batch) (d : Db) : (applyBatchEvents b events d).1 = .error .json := by
  induction events generalizing b d with
  | nil => exact absurd (fun _ h => by cases h) hdec
  | cons ev events ih =>
    unfold applyBatchEvents
    by_cases hev : Decodes ev
    · rw [bind_run_ok (applyBatchEvent_run hev)]
      apply ih
      intro hall
      exact hdec fun ev' hev' => (List.mem_cons.mp hev').elim (fun h => h ▸ hev) (hall ev')
    · rw [bind_run_error (applyBatchEvent_undecoded hev)]

def withBatchCursor (maxPrimarySeq : Int) (d : Db) : Db := (writeBatchCursor maxPrimarySeq d).2

omit [Platform] in
theorem writeBatchCursor_run (maxPrimarySeq : Int) (d : Db) :
    writeBatchCursor maxPrimarySeq d = (.ok (), withBatchCursor maxPrimarySeq d) := by
  unfold withBatchCursor writeBatchCursor
  split
  · rename_i hpos
    obtain ⟨e, hrun, -, -⟩ := upsertNodeSyncState_run d syncCursorKey (Int.le_of_lt hpos)
    rw [hrun]
  · rfl

omit [Platform] in
theorem withBatchCursor_other (maxPrimarySeq : Int) (d : Db) {t : Table}
    (ht : t ≠ .nodeSyncState) : withBatchCursor maxPrimarySeq d t = d t := by
  unfold withBatchCursor writeBatchCursor
  split
  · exact upsertNodeSyncState_writes t (by simpa using ht) d
  · rfl

omit [Platform] in
theorem withBatchCursor_cursor (maxPrimarySeq : Int) (d : Db) :
    getNodeSyncCursor (withBatchCursor maxPrimarySeq d) syncCursorKey =
      if 0 < maxPrimarySeq then max (getNodeSyncCursor d syncCursorKey) maxPrimarySeq
      else getNodeSyncCursor d syncCursorKey := by
  unfold withBatchCursor writeBatchCursor
  split
  · rename_i hpos
    obtain ⟨e, hrun, -, hcursor⟩ := upsertNodeSyncState_run d syncCursorKey (Int.le_of_lt hpos)
    rw [hrun, hcursor]
  · rfl

/-- What a batch of verified events leaves when its transaction commits. -/
def committed (verified : List Event) (d : Db) : Db :=
  withBatchCursor (Batch.start.gather verified d).maxPrimarySeq (applyEach verified d)

theorem applyBatch_run {verified : List Event} (hdec : ∀ ev ∈ verified, Decodes ev) (d : Db) :
    applyBatch verified d = (.ok (Batch.start.gather verified d), committed verified d) := by
  unfold applyBatch transaction
  rw [bind_run_ok (applyBatchEvents_run hdec _ _), bind_run_ok (writeBatchCursor_run _ _)]
  rfl

theorem applyBatch_undecoded {verified : List Event} (hdec : ¬ ∀ ev ∈ verified, Decodes ev)
    (d : Db) : ∃ e, applyBatch verified d = (.error e, d) := by
  have herr := applyBatchEvents_undecoded hdec Batch.start d
  refine ⟨.json, ?_⟩
  unfold applyBatch transaction
  rw [bind_run]
  rcases hrun : applyBatchEvents Batch.start verified d with ⟨e | b, d'⟩
  · rw [hrun] at herr
    cases herr
    rfl
  · rw [hrun] at herr
    cases herr

omit [Platform] in
theorem Batch.record_rejected (b : Batch) (ev : Event) (r : Except DbError ApplyOutcome) :
    (b.record ev r).rejected = b.rejected + if r.isOk then 0 else 1 := by
  rcases r with e | (_ | _) <;> rfl

/-- The loop reaches `ev` after `pre`, and its application gives an error there. -/
def ErrorAt (pre : List Event) (ev : Event) (d : Db) : Prop :=
  (applySingleEventInner ev (applyEach pre d)).1.isOk = false

instance (pre : List Event) (ev : Event) (d : Db) : Decidable (ErrorAt pre ev d) :=
  inferInstanceAs (Decidable ((applySingleEventInner ev (applyEach pre d)).1.isOk = false))

theorem Batch.gather_rejected_le (events : List Event) (b : Batch) (d : Db) :
    b.rejected ≤ (b.gather events d).rejected := by
  induction events generalizing b d with
  | nil => exact Nat.le_refl _
  | cons ev events ih =>
    refine Nat.le_trans ?_ (ih (b.next ev d) (applyOne ev d))
    rw [Batch.next, Batch.record_rejected]
    exact Nat.le_add_right _ _

theorem Batch.gather_append (xs ys : List Event) (b : Batch) (d : Db) :
    b.gather (xs ++ ys) d = (b.gather xs d).gather ys (applyEach xs d) := by
  induction xs generalizing b d with
  | nil => rfl
  | cons x xs ih => exact ih (b.next x d) (applyOne x d)

theorem Batch.gather_maxPrimarySeq (events : List Event) (b : Batch) (d : Db) :
    (b.gather events d).maxPrimarySeq = b.maxPrimarySeq ∨
      ∃ ev ∈ events, (b.gather events d).maxPrimarySeq = ev.seq := by
  induction events generalizing b d with
  | nil => exact .inl rfl
  | cons ev events ih =>
    have hnext : (b.next ev d).maxPrimarySeq = b.maxPrimarySeq ∨
        (b.next ev d).maxPrimarySeq = ev.seq := by
      have hrecord : ∀ (b' : Batch) (r : Except DbError ApplyOutcome),
          (b'.record ev r).maxPrimarySeq = b'.maxPrimarySeq ∨
            (b'.record ev r).maxPrimarySeq = ev.seq := by
        intro b' r
        rcases r with e | (_ | _)
        · exact .inl rfl
        · simp only [Batch.record]
          omega
        · simp only [Batch.record]
          omega
      exact hrecord _ _
    rcases ih (b.next ev d) (applyOne ev d) with hsame | ⟨ev', hev', hseq⟩
    · rcases hnext with hnext | hnext
      · exact .inl (hsame.trans hnext)
      · exact .inr ⟨ev, by simp, hsame.trans hnext⟩
    · exact .inr ⟨ev', by simp [hev'], hseq⟩

/-- Every event of the batch is applied or is a duplicate. -/
def AllApply : List Event → Db → Prop
  | [], _ => True
  | ev :: events, d =>
    (applySingleEventInner ev d).1.isOk = true ∧ AllApply events (applyOne ev d)

instance AllApply.decidable : (events : List Event) → (d : Db) → Decidable (AllApply events d)
  | [], _ => inferInstanceAs (Decidable True)
  | ev :: events, d =>
    have : Decidable (AllApply events (applyOne ev d)) := AllApply.decidable events _
    inferInstanceAs (Decidable
      ((applySingleEventInner ev d).1.isOk = true ∧ AllApply events (applyOne ev d)))

theorem applySingleEventInner_isOk {d : Db} {ev : Event} (h : isNew d ev = true)
    (hok : (applySingleEventInner ev d).1.isOk = true) :
    (applySingleEventInner ev d).1 = .ok (.applied (nextSeq d)) := by
  rcases hdec : deserializeVerifiedPayload ev with _ | payload
  · rw [applySingleEventInner_new h, hdec] at hok
    cases hok
  · rw [applySingleEventInner_decoded h hdec, bind_run] at hok ⊢
    rcases hrun : applyPayload ev.createdAt payload (recordEvent ev d) with ⟨_ | _, _⟩
    · rw [hrun] at hok
      cases hok
    · rfl

theorem storable_of_isOk {d : Db} {ev : Event} (hok : (applySingleEventInner ev d).1.isOk = true) :
    ev.storable = true := by
  cases hstorable : ev.storable with
  | true => rfl
  | false =>
    rw [applySingleEventInner_refused hstorable] at hok
    cases hok

theorem AllApply.storable {events : List Event} {d : Db} (hall : AllApply events d) :
    ∀ ev ∈ events, ev.storable = true := by
  induction events generalizing d with
  | nil => exact fun _ hev => (List.not_mem_nil hev).elim
  | cons x events ih =>
    intro ev hev
    rcases List.mem_cons.mp hev with rfl | hev
    · exact storable_of_isOk hall.1
    · exact ih hall.2 ev hev

def Batch.appliedIds (b : Batch) : List String := b.applied.map fun a => a.1.eventId

omit [Platform] in
theorem Batch.mem_record_appliedIds {b : Batch} {ev : Event} {r : Except DbError ApplyOutcome}
    {id : String} (h : id ∈ (b.record ev r).appliedIds) : id ∈ b.appliedIds ∨ id = ev.eventId := by
  rcases r with e | (seq | _)
  · exact .inl h
  · have hlist : (b.record ev (.ok (.applied seq))).appliedIds = b.appliedIds ++ [ev.eventId] := by
      simp [Batch.record, Batch.appliedIds]
    rw [hlist] at h
    simpa using h
  · exact .inl h

theorem Batch.mem_of_mem_gather {events : List Event} {b : Batch} {d : Db} {id : String}
    (h : id ∈ (b.gather events d).appliedIds) :
    id ∈ b.appliedIds ∨ ∃ ev ∈ events, id = ev.eventId := by
  induction events generalizing b d with
  | nil => exact .inl h
  | cons ev events ih =>
    rcases ih h with hb | ⟨ev', hev', hid⟩
    · rcases Batch.mem_record_appliedIds hb with hb | hid
      · exact .inl hb
      · exact .inr ⟨ev, by simp, hid⟩
    · exact .inr ⟨ev', by simp [hev'], hid⟩

omit [Platform] in
theorem Batch.record_appliedIds_subset {b : Batch} {ev : Event}
    {r : Except DbError ApplyOutcome} : b.appliedIds ⊆ (b.record ev r).appliedIds := by
  intro id hid
  rcases r with e | (seq | _)
  · exact hid
  · simp only [Batch.record, Batch.appliedIds, List.map_append, List.mem_append]
    exact .inl hid
  · exact hid

theorem Batch.gather_appliedIds_subset (events : List Event) (b : Batch) (d : Db) :
    b.appliedIds ⊆ (b.gather events d).appliedIds := by
  induction events generalizing b d with
  | nil => exact List.Subset.refl _
  | cons ev events ih =>
    have hnext : b.appliedIds ⊆ (b.next ev d).appliedIds :=
      Batch.record_appliedIds_subset
        (b := { b with pendingLiveSseDiffs := b.pendingLiveSseDiffs ++ liveDiffs ev d })
    exact List.Subset.trans hnext (ih (b.next ev d) (applyOne ev d))

theorem Batch.gather_applies {events : List Event} {d : Db} (hall : AllApply events d)
    (b : Batch) {ev : Event} (hev : ev ∈ events) :
    hasEvent d ev.eventId = true ∨ ev.eventId ∈ (b.gather events d).appliedIds := by
  induction events generalizing b d with
  | nil => cases hev
  | cons x events ih =>
    obtain ⟨hok, hrest⟩ := hall
    have hfirst : hasEvent d x.eventId = true ∨ x.eventId ∈ (b.next x d).appliedIds := by
      cases hseen : hasEvent d x.eventId with
      | true => exact .inl rfl
      | false =>
        right
        unfold Batch.next
        rw [applySingleEventInner_isOk (isNew_iff.mpr ⟨storable_of_isOk hok, hseen⟩) hok]
        simp [Batch.record, Batch.appliedIds]
    have hkeep := Batch.gather_appliedIds_subset events (b.next x d) (applyOne x d)
    rcases List.mem_cons.mp hev with rfl | hev
    · exact hfirst.imp_right fun hmem => hkeep hmem
    · rcases ih hrest (b.next x d) hev with hseen | hmem
      · rw [hasEvent_applyOne, Bool.or_eq_true, Bool.and_eq_true, decide_eq_true_eq] at hseen
        rcases hseen with hseen | ⟨-, hid⟩
        · exact .inl hseen
        · rw [hid]
          exact hfirst.imp_right fun hmem => hkeep hmem
      · exact .inr hmem

/-- The events of a call whose signature verifies. -/
def verifiedOf (events : List Event) : List Event :=
  events.filter fun ev => verifyEventSignature ev

/-- The call ends with a commit. -/
def Commits (commits : Bool) (events : List Event) : Prop :=
  commits = true ∧ ∀ ev ∈ verifiedOf events, Decodes ev

instance (commits : Bool) (events : List Event) : Decidable (Commits commits events) :=
  inferInstanceAs (Decidable (commits = true ∧ ∀ ev ∈ verifiedOf events, Decodes ev))

theorem verifiedOf_eq_self {events : List Event}
    (h : ∀ ev ∈ events, verifyEventSignature ev) : verifiedOf events = events :=
  List.filter_eq_self.mpr h

/-- A delivered event of a committed batch that the indexes take has its row, whatever its
outcome was. -/
theorem hasEvent_committed (events : List Event) (d : Db) (eventId : String) :
    hasEvent (committed events d) eventId =
      (hasEvent d eventId ||
        events.any fun ev => ev.storable && decide (eventId = ev.eventId)) := by
  unfold hasEvent committed
  rw [withBatchCursor_other _ _ (by decide)]
  exact hasEvent_applyEach d events eventId

theorem applyEvents_failed {commits : Bool} {events : List Event} (h : ¬ Commits commits events)
    (d : Db) :
    applyEvents commits events d =
      ({ summary := { applied := 0, duplicate := 0, rejected := events.length, maxSeq := 0 }
         frames := [] }, d) := by
  unfold applyEvents
  by_cases hnil : events.filter (fun ev => verifyEventSignature ev) = []
  · rw [if_pos hnil]
  · rw [if_neg hnil]
    cases commits with
    | false => rfl
    | true =>
      have hdec : ¬ ∀ ev ∈ verifiedOf events, Decodes ev := fun hall => h ⟨rfl, hall⟩
      obtain ⟨e, hrun⟩ := applyBatch_undecoded hdec d
      rw [show events.filter (fun ev => verifyEventSignature ev) = verifiedOf events from rfl,
        hrun]
      rfl

theorem applyEvents_run {commits : Bool} {events : List Event} (h : Commits commits events)
    (d : Db) :
    applyEvents commits events d =
      (let b := Batch.start.gather (verifiedOf events) d
       { summary :=
          { applied := b.applied.length
            duplicate := b.duplicate
            rejected := events.length - (verifiedOf events).length + b.rejected
            maxSeq := b.maxSeq }
         frames := b.frames }, committed (verifiedOf events) d) := by
  obtain ⟨rfl, hdec⟩ := h
  unfold applyEvents
  by_cases hnil : events.filter (fun ev => verifyEventSignature ev) = []
  · rw [if_pos hnil, show verifiedOf events = [] from hnil]
    rfl
  · rw [if_neg hnil, show events.filter (fun ev => verifyEventSignature ev) = verifiedOf events
      from rfl, applyBatch_run hdec]
    rfl

/-- The ids of the events that a call applied. -/
def appliedBy (commits : Bool) (events : List Event) (d : Db) : List String :=
  if Commits commits events then (Batch.start.gather (verifiedOf events) d).appliedIds else []

theorem applyEvents_db (commits : Bool) (events : List Event) (d : Db) :
    (applyEvents commits events d).2 =
      if Commits commits events then committed (verifiedOf events) d else d := by
  split
  · rename_i h
    rw [applyEvents_run h]
  · rename_i h
    rw [applyEvents_failed h]

end Stophammer
