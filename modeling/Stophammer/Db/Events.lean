import Mathlib.Data.List.Sort
import Stophammer.Schema

/-!
# Event log and sync cursor
-/

namespace Stophammer

open Relational Statement

/-- `COALESCE(MAX(seq), 0) + 1`. -/
def nextSeq (d : Db) : Int := ((d .events).map StoredEvent.seq).max?.getD 0 + 1

def hasEvent (d : Db) (eventId : String) : Bool :=
  (d .events).any fun r : StoredEvent => r.eventId == eventId

/-- The row that a node stores for an event of another node: the seq is its own. -/
def storedEvent (seq : Int) (ev : Event) : StoredEvent where
  eventId := ev.eventId
  eventType := ev.eventType
  payloadJson := ev.payloadJson
  subjectGuid := ev.subjectGuid
  signedBy := ev.signedBy
  signature := ev.signature
  seq := seq
  createdAt := ev.createdAt
  warnings := ev.warnings

/-- An index of the log holds `json_extract` of the payload of each row of the type. -/
def EventType.payloadIndexed : EventType → Bool
  | .routesReplaced | .trackUpserted => true
  | _ => false

section

variable [Platform]

/-- The indexes of the log can hold the row of the event: `json_extract` of a text that is no
JSON is an error. -/
def Event.storable (ev : Event) : Bool :=
  !ev.eventType.payloadIndexed || Platform.jsonValid ev.payloadJson

/-- The seq of the new row, or none when the event id has a row. -/
def insertEventIdempotent (ev : Event) : Stmt (Option Int) := do
  let seq ← read nextSeq
  -- the index of an expression is computed before a conflict of the id is looked for
  if !ev.storable then fail (.rusqlite .events)
  else if ← insertOrIgnore .events (storedEvent seq ev) then pure (some seq) else pure none

end

theorem seq_lt_nextSeq (d : Db) {r : StoredEvent} (hr : r ∈ d .events) : r.seq < nextSeq d := by
  have hmem : r.seq ∈ (d .events).map StoredEvent.seq := List.mem_map_of_mem hr
  unfold nextSeq
  rcases hmax : ((d .events).map StoredEvent.seq).max? with _ | m
  · rw [List.max?_eq_none_iff.mp hmax] at hmem
    cases hmem
  · have hle := (List.max?_eq_some_iff.mp hmax).2 _ hmem
    simp only [Option.getD_some]
    omega

theorem hasEvent_iff (d : Db) (eventId : String) :
    hasEvent d eventId ↔ d.Has (.event eventId) := by
  rw [Database.has_iff (show schema.home (.event eventId) = Table.events from rfl), hasEvent,
    List.any_eq_true]
  apply exists_congr
  intro r
  simp only [Table.keys, List.mem_cons, List.not_mem_nil, or_false, reduceCtorEq, Key.event.injEq,
    beq_iff_eq]
  rw [eq_comm (a := r.eventId)]

section

variable [Platform]

/-- The database with the row of the event in its log. -/
def recordEvent (ev : Event) (d : Db) : Db := (insertEventIdempotent ev d).2

/-- The log gets a row of the event. -/
def isNew (d : Db) (ev : Event) : Bool := ev.storable && !hasEvent d ev.eventId

theorem isNew_iff {d : Db} {ev : Event} :
    isNew d ev = true ↔ ev.storable = true ∧ hasEvent d ev.eventId = false := by
  rw [isNew, Bool.and_eq_true, Bool.not_eq_true']

theorem not_isNew {d : Db} {ev : Event} (h : isNew d ev = false) :
    ev.storable = false ∨ ev.storable = true ∧ hasEvent d ev.eventId = true := by
  cases hstorable : ev.storable with
  | false => exact .inl rfl
  | true =>
    rw [isNew, hstorable, Bool.true_and, Bool.not_eq_false'] at h
    exact .inr ⟨rfl, h⟩

theorem insertEventIdempotent_refused {d : Db} {ev : Event} (h : ev.storable = false) :
    insertEventIdempotent ev d = (.error (.rusqlite .events), d) := by
  unfold insertEventIdempotent
  rw [read_bind_run, h]
  rfl

theorem insertEventIdempotent_storable {ev : Event} (h : ev.storable = true) (d : Db) :
    insertEventIdempotent ev d = (do
      if ← insertOrIgnore .events (storedEvent (nextSeq d) ev) then pure (some (nextSeq d))
      else pure none : Stmt (Option Int)) d := by
  unfold insertEventIdempotent
  rw [read_bind_run, h]
  rfl

theorem insertEventIdempotent_seen {d : Db} {ev : Event} (hstorable : ev.storable = true)
    (h : hasEvent d ev.eventId = true) : insertEventIdempotent ev d = (.ok none, d) := by
  have hhas := (hasEvent_iff d ev.eventId).mp h
  have hskip : (insertOrIgnore Table.events (storedEvent (nextSeq d) ev) : Stmt Bool) d =
      (.ok false, d) := by
    apply insertOrIgnore_skip
    rintro ⟨hfresh, -⟩
    exact hfresh (.event ev.eventId) (by simp [Table.keys, storedEvent]) hhas
  rw [insertEventIdempotent_storable hstorable, bind_run_ok hskip]
  rfl

end

theorem admits_event_iff {d : Db} {r : StoredEvent} (hseq : r.seq = nextSeq d) :
    d.Admits .events r ↔ hasEvent d r.eventId = false := by
  constructor
  · intro h
    rw [← Bool.not_eq_true]
    intro hseen
    exact h.fresh (.event r.eventId) (by simp [Table.keys]) ((hasEvent_iff d _).mp hseen)
  · intro h
    refine ⟨fun k hk hhas => ?_, rfl, fun k hk => by cases hk⟩
    simp only [Table.keys, List.mem_cons, List.not_mem_nil, or_false, hseq] at hk
    rcases hk with rfl | rfl
    · have hseen := (hasEvent_iff d r.eventId).mpr hhas
      rw [h] at hseen
      cases hseen
    · obtain ⟨old, hold, hkey⟩ := (Database.has_iff
        (show schema.home (.eventSeq (nextSeq d)) = Table.events from rfl)).mp hhas
      simp only [Table.keys, List.mem_cons, List.not_mem_nil, or_false, reduceCtorEq, false_or,
        Key.eventSeq.injEq] at hkey
      exact absurd hkey (Int.ne_of_gt (seq_lt_nextSeq d hold))

section

variable [Platform]

theorem insertEventIdempotent_new {d : Db} {ev : Event} (h : isNew d ev = true) :
    insertEventIdempotent ev d = (.ok (some (nextSeq d)), recordEvent ev d) ∧
      (recordEvent ev d).contents =
        d.contents.set .events (d .events ++ [storedEvent (nextSeq d) ev]) := by
  obtain ⟨hstorable, hfresh⟩ := isNew_iff.mp h
  obtain ⟨e, hrun, hcontents⟩ := insertOrIgnore_ok d
    ((admits_event_iff (r := storedEvent (nextSeq d) ev) rfl).mpr hfresh)
  have hgo : insertEventIdempotent ev d = (.ok (some (nextSeq d)), e) := by
    rw [insertEventIdempotent_storable hstorable, bind_run_ok hrun]
    rfl
  have hrecord : recordEvent ev d = e := by rw [recordEvent, hgo]
  rw [hrecord]
  exact ⟨hgo, hcontents⟩

theorem insertEventIdempotent_writes {ev : Event} :
    Writes (S := schema) [Table.events] (insertEventIdempotent ev) := by
  apply (Writes.read _).bind
  intro seq
  apply Writes.ite (Writes.fail _)
  apply (Writes.insertOrIgnore (by decide)).bind
  intro fresh
  exact Writes.ite (Writes.pure _) (Writes.pure _)

theorem recordEvent_other {d : Db} {ev : Event} {t : Table} (ht : t ≠ .events) :
    recordEvent ev d t = d t := insertEventIdempotent_writes t (by simpa using ht) d

theorem recordEvent_events {d : Db} {ev : Event} (h : isNew d ev = true) :
    recordEvent ev d .events = d .events ++ [storedEvent (nextSeq d) ev] := by
  rw [(insertEventIdempotent_new h).2, Contents.set_same]

end

def updateEventSignature (eventId signedBy signature : String) : Stmt Unit :=
  update .events (fun r : StoredEvent => r.eventId == eventId)
    (fun r : StoredEvent => { r with signedBy := signedBy, signature := signature })

def EventRow.signingPayload (row : EventRow) (seq : Int) : EventSigningPayload where
  eventId := row.eventId
  eventType := row.eventType
  payloadJson := row.payloadJson
  subjectGuid := row.subjectGuid
  createdAt := row.createdAt
  seq := seq

def EventRow.stored (row : EventRow) (signedBy signature : String) (seq : Int) : StoredEvent where
  eventId := row.eventId
  eventType := row.eventType
  payloadJson := row.payloadJson
  subjectGuid := row.subjectGuid
  signedBy := signedBy
  signature := signature
  seq := seq
  createdAt := row.createdAt
  warnings := row.warnings

/-- Insert with no signature to learn the seq, then sign with it. -/
def insertEvent (signer : NodeSigner) (row : EventRow) : Stmt (Int × String × String) := do
  let seq ← read nextSeq
  insert .events (row.stored signer.pubkeyHex "" seq)
  let signature := signer.sign (row.signingPayload seq)
  updateEventSignature row.eventId signer.pubkeyHex signature
  pure (seq, signer.pubkeyHex, signature)

theorem insertEvent_writes {signer : NodeSigner} {row : EventRow} :
    Writes (S := schema) [Table.events] (insertEvent signer row) := by
  apply (Writes.read _).bind
  intro seq
  apply (Writes.insert (by decide)).bind
  intro _
  exact (Writes.update (by decide)).bind fun _ => Writes.pure _

/-- The signed row that `insertEvent` leaves in the log. -/
def signedRow (signer : NodeSigner) (row : EventRow) (seq : Int) : StoredEvent :=
  row.stored signer.pubkeyHex (signer.sign (row.signingPayload seq)) seq

theorem updateEventSignature_run {p₁ : Db} {rows : List StoredEvent} {row : EventRow}
    {signer : NodeSigner} {seq : Int}
    (hrows : p₁ .events = rows ++ [row.stored signer.pubkeyHex "" seq])
    (hnew : ∀ r ∈ rows, r.eventId ≠ row.eventId) :
    ∃ p₂ : Db, updateEventSignature row.eventId signer.pubkeyHex
        (signer.sign (row.signingPayload seq)) p₁ = (.ok (), p₂) ∧
      p₂.contents = p₁.contents.set .events (rows ++ [signedRow signer row seq]) := by
  obtain ⟨p₂, hrun, hcontents⟩ := update_ok (t := Table.events) p₁
    (p := fun r : StoredEvent => r.eventId == row.eventId)
    (f := fun r : StoredEvent => StoredEvent.mk r.eventId r.eventType r.payloadJson r.subjectGuid
      signer.pubkeyHex (signer.sign (row.signingPayload seq)) r.seq r.createdAt r.warnings)
    (fun _ _ _ => rfl) (fun _ _ _ => rfl) (fun _ _ _ => rfl)
  refine ⟨p₂, hrun, ?_⟩
  rw [hcontents, hrows, List.map_append]
  congr 2
  · rw [List.map_congr_left (g := id), List.map_id]
    intro r hr
    rw [if_neg (by simpa using hnew r hr)]
    rfl
  · simp [EventRow.stored, signedRow]

theorem insertEvent_fresh (signer : NodeSigner) {row : EventRow} {p : Db}
    (hfresh : hasEvent p row.eventId = false) :
    ∃ p' : Db, insertEvent signer row p =
        (.ok (nextSeq p, signer.pubkeyHex, signer.sign (row.signingPayload (nextSeq p))), p') ∧
      p'.contents = p.contents.set .events (p .events ++ [signedRow signer row (nextSeq p)]) := by
  obtain ⟨p₁, hinsert, hcontents⟩ := insert_ok p
    ((admits_event_iff (r := row.stored signer.pubkeyHex "" (nextSeq p)) rfl).mpr hfresh)
  have hnew : ∀ r ∈ p .events, r.eventId ≠ row.eventId := by
    intro r hr hid
    have hseen : hasEvent p row.eventId = true := List.any_eq_true.mpr ⟨r, hr, by simp [hid]⟩
    rw [hfresh] at hseen
    cases hseen
  obtain ⟨p₂, hupdate, hcontents₂⟩ := updateEventSignature_run
    (show p₁ .events = _ from by rw [hcontents, Contents.set_same]) hnew
  refine ⟨p₂, ?_, ?_⟩
  · unfold insertEvent
    rw [read_bind_run, bind_run_ok hinsert, bind_run_ok hupdate]
    rfl
  · rw [hcontents₂, hcontents]
    exact Function.update_idem ..

theorem insertEvent_run (signer : NodeSigner) (row : EventRow) (p : Db) :
    (∃ p' : Db, insertEvent signer row p =
        (.ok (nextSeq p, signer.pubkeyHex, signer.sign (row.signingPayload (nextSeq p))), p') ∧
      p'.contents = p.contents.set .events (p .events ++ [signedRow signer row (nextSeq p)])) ∨
      ∃ e, insertEvent signer row p = (.error e, p) := by
  by_cases hfresh : hasEvent p row.eventId = false
  · exact .inl (insertEvent_fresh signer hfresh)
  · right
    have hadmits : ¬ p.Admits .events (row.stored signer.pubkeyHex "" (nextSeq p)) :=
      fun h => hfresh ((admits_event_iff rfl).mp h)
    refine ⟨.rusqlite .events, ?_⟩
    unfold insertEvent
    rw [read_bind_run, bind_run_error (insert_error p hadmits)]

/-- The log only grew, and each new row has a seq above those before it. -/
def Grows (p p' : Db) : Prop :=
  ∃ rows : List StoredEvent, p' .events = p .events ++ rows ∧ ∀ r ∈ rows, nextSeq p ≤ r.seq

theorem Grows.refl (p : Db) : Grows p p := ⟨[], by simp, by simp⟩

theorem Grows.subset {p p' : Db} (h : Grows p p') {r : StoredEvent} (hr : r ∈ p .events) :
    r ∈ p' .events := by
  obtain ⟨rows, hrows, -⟩ := h
  rw [hrows]
  exact List.mem_append_left _ hr

theorem nextSeq_le {p : Db} {s : Int} (h : ∀ r ∈ p .events, r.seq < s)
    (hs : 0 < s ∨ ∃ r, r ∈ p .events) : nextSeq p ≤ s := by
  unfold nextSeq
  rcases hmax : ((p .events).map StoredEvent.seq).max? with _ | m
  · have hnil := List.map_eq_nil_iff.mp (List.max?_eq_none_iff.mp hmax)
    rcases hs with hs | ⟨r, hr⟩
    · simp only [Option.getD_none]
      omega
    · rw [hnil] at hr
      cases hr
  · obtain ⟨hmem, -⟩ := List.max?_eq_some_iff.mp hmax
    obtain ⟨r, hr, rfl⟩ := List.mem_map.mp hmem
    have hlt := h r hr
    simp only [Option.getD_some]
    omega

theorem nextSeq_append {d e : Db} {r : StoredEvent} (he : e .events = d .events ++ [r])
    (hr : r.seq = nextSeq d) : nextSeq e = nextSeq d + 1 := by
  have hmem : r ∈ e .events := by
    rw [he]
    simp
  have hlt := seq_lt_nextSeq e hmem
  have hle : nextSeq e ≤ nextSeq d + 1 := by
    apply nextSeq_le
    · intro r' hr'
      rw [he] at hr'
      rcases List.mem_append.mp hr' with hold | hnew
      · have hlt' := seq_lt_nextSeq d hold
        omega
      · rw [List.mem_singleton.mp hnew]
        omega
    · exact .inr ⟨r, hmem⟩
  omega

theorem Grows.nextSeq_le {p p' : Db} (h : Grows p p') (hp : 0 < nextSeq p') :
    nextSeq p ≤ nextSeq p' :=
  Stophammer.nextSeq_le (fun _ hr => seq_lt_nextSeq p' (h.subset hr)) (.inl hp)

theorem Grows.mem_of_lt {p p' : Db} (h : Grows p p') {r : StoredEvent} (hr : r ∈ p' .events)
    (hlt : r.seq < nextSeq p) : r ∈ p .events := by
  obtain ⟨rows, hrows, hnew⟩ := h
  rw [hrows] at hr
  rcases List.mem_append.mp hr with hr | hr
  · exact hr
  · have hle := hnew r hr
    omega

def getNodeSyncCursor (d : Db) (nodePubkey : String) : Int :=
  (((d .nodeSyncState).find? fun r : NodeSyncStateRow => r.nodePubkey == nodePubkey).map
    NodeSyncStateRow.lastSeq).getD 0

/-- The cursor only goes up. -/
def upsertNodeSyncState (nodePubkey : String) (lastSeq : Int) : Stmt Unit :=
  upsert .nodeSyncState (fun r : NodeSyncStateRow => r.nodePubkey == nodePubkey)
    { nodePubkey := nodePubkey, lastSeq := lastSeq }
    (fun r : NodeSyncStateRow => { r with lastSeq := max r.lastSeq lastSeq })

theorem upsertNodeSyncState_writes {nodePubkey : String} {lastSeq : Int} :
    Writes [Table.nodeSyncState] (upsertNodeSyncState nodePubkey lastSeq) :=
  Writes.upsert (by decide)

theorem getNodeSyncCursor_absent {d : Db} {nodePubkey : String}
    (h : ¬ (d .nodeSyncState).any fun r : NodeSyncStateRow => r.nodePubkey == nodePubkey) :
    getNodeSyncCursor d nodePubkey = 0 := by
  have hnone : (d .nodeSyncState).find?
      (fun r : NodeSyncStateRow => r.nodePubkey == nodePubkey) = none := by
    rw [List.find?_eq_none]
    intro r hr hkey
    exact h (List.any_eq_true.mpr ⟨r, hr, hkey⟩)
  rw [getNodeSyncCursor, hnone]
  rfl

private theorem upsertNodeSyncState_present {d : Db} {nodePubkey : String} (lastSeq : Int)
    (h : (d .nodeSyncState).any fun r : NodeSyncStateRow => r.nodePubkey == nodePubkey) :
    ∃ e : Db, upsertNodeSyncState nodePubkey lastSeq d = (.ok (), e) ∧
      getNodeSyncCursor e nodePubkey = max (getNodeSyncCursor d nodePubkey) lastSeq := by
  obtain ⟨e, hrun, hcontents⟩ := update_ok (t := Table.nodeSyncState) d
    (p := fun r : NodeSyncStateRow => r.nodePubkey == nodePubkey)
    (f := fun r : NodeSyncStateRow => NodeSyncStateRow.mk r.nodePubkey (max r.lastSeq lastSeq))
    (fun _ _ _ => rfl) (fun _ _ _ => rfl) (fun _ _ _ => rfl)
  refine ⟨e, by rw [upsertNodeSyncState, upsert_present d h, hrun], ?_⟩
  obtain ⟨r, hr, hkey⟩ := List.any_eq_true.mp h
  rw [getNodeSyncCursor, getNodeSyncCursor, hcontents, Contents.set_same, List.find?_map]
  have hsame : ((fun r : NodeSyncStateRow => r.nodePubkey == nodePubkey) ∘
      fun r : NodeSyncStateRow =>
        if (r.nodePubkey == nodePubkey) = true then { r with lastSeq := max r.lastSeq lastSeq }
        else r) = fun r : NodeSyncStateRow => r.nodePubkey == nodePubkey := by
    funext r
    simp only [Function.comp_apply]
    split <;> rfl
  rw [hsame]
  rcases hfind : (d .nodeSyncState).find?
      (fun r : NodeSyncStateRow => r.nodePubkey == nodePubkey) with _ | row
  · exact absurd hkey (List.find?_eq_none.mp hfind r hr)
  · have hrow := List.find?_some hfind
    simp only [Option.map_some, Option.getD_some]
    rw [if_pos hrow]

private theorem upsertNodeSyncState_absent {d : Db} {nodePubkey : String} (lastSeq : Int)
    (h : ¬ (d .nodeSyncState).any fun r : NodeSyncStateRow => r.nodePubkey == nodePubkey) :
    ∃ e : Db, upsertNodeSyncState nodePubkey lastSeq d = (.ok (), e) ∧
      getNodeSyncCursor e nodePubkey = lastSeq := by
  have hadmits : d.Admits .nodeSyncState
      ({ nodePubkey := nodePubkey, lastSeq := lastSeq } : NodeSyncStateRow) := by
    refine ⟨fun k hk hhas => ?_, rfl, fun k hk => by cases hk⟩
    simp only [Table.keys, List.mem_cons, List.not_mem_nil, or_false] at hk
    subst hk
    obtain ⟨r, hr, hkey⟩ := (Database.has_iff
      (show schema.home (.syncState nodePubkey) = Table.nodeSyncState from rfl)).mp hhas
    simp only [Table.keys, List.mem_cons, List.not_mem_nil, or_false,
      Key.syncState.injEq] at hkey
    exact h (List.any_eq_true.mpr ⟨r, hr, by simp [hkey]⟩)
  obtain ⟨e, hrun, hcontents⟩ := insert_ok d hadmits
  refine ⟨e, by rw [upsertNodeSyncState, upsert_absent d h, hrun], ?_⟩
  have hnone : (d .nodeSyncState).find?
      (fun r : NodeSyncStateRow => r.nodePubkey == nodePubkey) = none := by
    rw [List.find?_eq_none]
    intro r hr hkey
    exact h (List.any_eq_true.mpr ⟨r, hr, hkey⟩)
  rw [getNodeSyncCursor, hcontents, Contents.set_same, List.find?_append, hnone]
  simp

theorem upsertNodeSyncState_ok (d : Db) (nodePubkey : String) (lastSeq : Int) :
    ∃ e : Db, upsertNodeSyncState nodePubkey lastSeq d = (.ok (), e) := by
  by_cases h : (d .nodeSyncState).any fun r : NodeSyncStateRow => r.nodePubkey == nodePubkey
  · obtain ⟨e, hrun, -⟩ := upsertNodeSyncState_present lastSeq h
    exact ⟨e, hrun⟩
  · obtain ⟨e, hrun, -⟩ := upsertNodeSyncState_absent lastSeq h
    exact ⟨e, hrun⟩

theorem upsertNodeSyncState_run (d : Db) (nodePubkey : String) {lastSeq : Int}
    (hpos : 0 ≤ lastSeq) :
    ∃ e : Db, upsertNodeSyncState nodePubkey lastSeq d = (.ok (), e) ∧
      (∀ t, t ≠ .nodeSyncState → e t = d t) ∧
      getNodeSyncCursor e nodePubkey = max (getNodeSyncCursor d nodePubkey) lastSeq := by
  have hleaves : ∀ t, t ≠ .nodeSyncState →
      (upsertNodeSyncState nodePubkey lastSeq d).2 t = d t :=
    fun t ht => upsertNodeSyncState_writes t (by simpa using ht) d
  by_cases h : (d .nodeSyncState).any fun r : NodeSyncStateRow => r.nodePubkey == nodePubkey
  · obtain ⟨e, hrun, hcursor⟩ := upsertNodeSyncState_present lastSeq h
    rw [hrun] at hleaves
    exact ⟨e, hrun, hleaves, hcursor⟩
  · obtain ⟨e, hrun, hcursor⟩ := upsertNodeSyncState_absent lastSeq h
    rw [hrun] at hleaves
    refine ⟨e, hrun, hleaves, ?_⟩
    rw [hcursor, getNodeSyncCursor_absent h, max_eq_right hpos]

variable [Platform]

/-- The event of a row.  Its typed payload comes from the stored text. -/
def eventOfRow (r : StoredEvent) : Except DbError Event :=
  match Platform.decodeTyped r.eventType r.payloadJson with
  | some typed =>
    .ok
      { eventId := r.eventId
        eventType := r.eventType
        typed := typed
        subjectGuid := r.subjectGuid
        signedBy := r.signedBy
        signature := r.signature
        seq := r.seq
        createdAt := r.createdAt
        warnings := r.warnings
        payloadJson := r.payloadJson }
  | none => .error .json

def storedEventsSince (d : Db) (afterSeq limit : Int) : List StoredEvent :=
  (((d .events).filter fun r : StoredEvent => afterSeq < r.seq).insertionSort
    fun a b => a.seq ≤ b.seq).take (max limit 1).toNat

def getEventsSince (d : Db) (afterSeq limit : Int) : Except DbError (List Event) :=
  (storedEventsSince d afterSeq limit).mapM eventOfRow

end Stophammer
