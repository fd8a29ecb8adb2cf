import Stophammer.Community
import Stophammer.Sample

/-!
# Events that a node serves

A node serves an event with the seq of its own row.  The signature covers the seq that
the primary gave, so the two must be one number.
-/

namespace Stophammer

open Relational Statement

section

variable [Platform]

/-- The row gives an event, and the signature of the event verifies. -/
def ServedVerifies (r : StoredEvent) : Prop :=
  ∃ ev, eventOfRow r = .ok ev ∧ verifyEventSignature ev = true

/-- Every event that the node serves verifies. -/
def ServesVerified (d : Db) : Prop := ∀ r ∈ d .events, ServedVerifies r

/-- `events` carry the seqs from `seq` on. -/
def SeqsFrom : Int → List Event → Prop
  | _, [] => True
  | seq, ev :: events => ev.seq = seq ∧ SeqsFrom (seq + 1) events

instance SeqsFrom.decidable : (seq : Int) → (events : List Event) → Decidable (SeqsFrom seq events)
  | _, [] => inferInstanceAs (Decidable True)
  | seq, ev :: events =>
    have : Decidable (SeqsFrom (seq + 1) events) := SeqsFrom.decidable (seq + 1) events
    inferInstanceAs (Decidable (ev.seq = seq ∧ SeqsFrom (seq + 1) events))

/-- The events of the batch that get a row carry the seqs that follow the highest one of the
node. -/
def InStep (d : Db) (events : List Event) : Prop :=
  SeqsFrom (nextSeq d) (freshEvents d (verifiedOf events))

/-- What `serde_json` writes is a text, and `serde_json` reads it back. -/
structure JsonReadsBack : Prop where
  nonempty : ∀ payload, Platform.encodePayload payload ≠ ""
  decodes : ∀ payload : EventPayload,
    (Platform.decodePayload payload.eventType (Platform.encodePayload payload)).isSome

def EventRow.ofPayload (eventId : String) (payload : EventPayload) (subjectGuid : String)
    (createdAt : Int) (warnings : List String) : EventRow where
  eventId := eventId
  eventType := payload.eventType
  payloadJson := Platform.encodePayload payload
  subjectGuid := subjectGuid
  createdAt := createdAt
  warnings := warnings

/-- The runs of a node: it signs events, it applies batches and it writes to the other
tables. -/
inductive LogRun (signer : NodeSigner) (ok : Db → List Event → Prop) : Db → Prop
  | empty : LogRun signer ok (Database.empty schema)
  | sign {d : Db} (eventId : String) (payload : EventPayload) (subjectGuid : String)
      (createdAt : Int) (warnings : List String) : LogRun signer ok d →
      LogRun signer ok
        (insertEvent signer (.ofPayload eventId payload subjectGuid createdAt warnings) d).2
  | deliver {d : Db} {commits : Bool} {events : List Event} : LogRun signer ok d →
      (Commits commits events → ok d events) → LogRun signer ok (applyEvents commits events d).2
  | other {d d' : Db} : LogRun signer ok d → d' .events = d .events → LogRun signer ok d'

theorem eventOfRow_some {r : StoredEvent} {typed : TypedPayload}
    (h : Platform.decodeTyped r.eventType r.payloadJson = some typed) :
    eventOfRow r = .ok
      { eventId := r.eventId
        eventType := r.eventType
        typed := typed
        subjectGuid := r.subjectGuid
        signedBy := r.signedBy
        signature := r.signature
        seq := r.seq
        createdAt := r.createdAt
        warnings := r.warnings
        payloadJson := r.payloadJson } := by
  unfold eventOfRow
  rw [h]

theorem servedVerifies_of_row {r : StoredEvent}
    (hdec : (Platform.decodePayload r.eventType r.payloadJson).isSome)
    (hjson : r.payloadJson ≠ "")
    (hsig : Platform.verifySignature r.signedBy
      { eventId := r.eventId
        eventType := r.eventType
        payloadJson := r.payloadJson
        subjectGuid := r.subjectGuid
        createdAt := r.createdAt
        seq := r.seq } r.signature = true) : ServedVerifies r := by
  rw [Platform.decodePayload, Option.isSome_map] at hdec
  obtain ⟨typed, htyped⟩ := Option.isSome_iff_exists.mp hdec
  refine ⟨_, eventOfRow_some htyped, ?_⟩
  unfold verifyEventSignature
  rw [Bool.and_eq_true, Bool.not_eq_true', String.isEmpty_eq_false_iff]
  exact ⟨hjson, hsig⟩

theorem signedRow_verifies {signer : NodeSigner} (hsound : signer.Sound) (hjson : JsonReadsBack)
    (eventId : String) (payload : EventPayload) (subjectGuid : String) (createdAt : Int)
    (warnings : List String) (seq : Int) :
    ServedVerifies (signedRow signer
      (.ofPayload eventId payload subjectGuid createdAt warnings) seq) := by
  apply servedVerifies_of_row
  · exact hjson.decodes payload
  · exact hjson.nonempty payload
  · exact hsound _

theorem insertEvent_servesVerified {signer : NodeSigner} (hsound : signer.Sound)
    (hjson : JsonReadsBack) {d : Db} (hd : ServesVerified d) (eventId : String)
    (payload : EventPayload) (subjectGuid : String) (createdAt : Int) (warnings : List String) :
    ServesVerified
      (insertEvent signer (.ofPayload eventId payload subjectGuid createdAt warnings) d).2 := by
  rcases insertEvent_run signer (.ofPayload eventId payload subjectGuid createdAt warnings) d with
    ⟨d', hrun, hcontents⟩ | ⟨e, hrun⟩
  · rw [hrun]
    intro r hr
    change r ∈ d'.contents .events at hr
    rw [hcontents, Contents.set_same] at hr
    rcases List.mem_append.mp hr with hold | hnew
    · exact hd r hold
    · rw [List.mem_singleton.mp hnew]
      exact signedRow_verifies hsound hjson ..
  · rw [hrun]
    exact hd

theorem logRow_verifies {ev : Event} (hver : verifyEventSignature ev = true)
    (hdec : Decodes ev) : ServedVerifies (logRow ev) := by
  unfold verifyEventSignature at hver
  rw [Bool.and_eq_true, Bool.not_eq_true', String.isEmpty_eq_false_iff] at hver
  exact servedVerifies_of_row hdec hver.1 hver.2

omit [Platform] in
theorem mem_storedFrom {seq : Int} {events : List Event} (hseqs : SeqsFrom seq events)
    {r : StoredEvent} (hr : r ∈ storedFrom seq events) : ∃ ev ∈ events, r = logRow ev := by
  induction events generalizing seq with
  | nil => cases hr
  | cons ev events ih =>
    obtain ⟨hseq, hrest⟩ := hseqs
    rcases List.mem_cons.mp hr with rfl | hr
    · exact ⟨ev, by simp, by rw [logRow, hseq]⟩
    · obtain ⟨ev', hev', hrow⟩ := ih hrest hr
      exact ⟨ev', by simp [hev'], hrow⟩

theorem committed_servesVerified {commits : Bool} {events : List Event} {d : Db}
    (hd : ServesVerified d) (hcommits : Commits commits events) (hstep : InStep d events) :
    ServesVerified (committed (verifiedOf events) d) := by
  intro r hr
  unfold committed at hr
  rw [withBatchCursor_other _ _ (by decide), applyEach_events] at hr
  rcases List.mem_append.mp hr with hold | hnew
  · exact hd r hold
  · obtain ⟨ev, hev, rfl⟩ := mem_storedFrom hstep hnew
    have hmem : ev ∈ verifiedOf events := (List.mem_filter.mp (mem_of_mem_dedupeBy hev)).1
    exact logRow_verifies (List.mem_filter.mp hmem).2 (hcommits.2 ev hmem)

/-- A node whose new events all arrive in step with its own seqs serves only events
that verify.  For a node that signs and takes no deliveries there is no condition. -/
theorem served_events_verify {signer : NodeSigner} (hsound : signer.Sound)
    (hjson : JsonReadsBack) {d : Db} (hrun : LogRun signer InStep d) : ServesVerified d := by
  induction hrun with
  | empty => exact fun _ hr => (List.not_mem_nil hr).elim
  | sign eventId payload subjectGuid createdAt warnings _ ih =>
    exact insertEvent_servesVerified hsound hjson ih eventId payload subjectGuid createdAt warnings
  | deliver _ hok ih =>
    rw [applyEvents_db]
    split
    · rename_i hcommits
      exact committed_servesVerified ih hcommits (hok hcommits)
    · exact ih
  | other _ hsame ih =>
    intro r hr
    rw [hsame] at hr
    exact ih r hr

end

section Sample

attribute [local instance] samplePlatform

theorem sampleSigner_sound : sampleSigner.Sound := fun _ => beq_self_eq_true _

theorem sampleJson_readsBack : JsonReadsBack where
  nonempty := by
    intro payload
    change ((sampleOf payload).map Event.payloadJson).getD "null" ≠ ""
    rcases hfind : sampleOf payload with _ | ev
    · decide
    · have hall : ∀ ev ∈ sampleEvents, ev.payloadJson ≠ "" := by decide
      exact hall ev (List.mem_of_find?_eq_some hfind)
  decodes := by
    intro payload
    rw [Platform.decodePayload, Option.isSome_map]
    change (if (((sampleOf payload).map Event.payloadJson).getD "null" == "null") = true
      then some (EventPayload.plain (.feedUnblocked { blockId := "" }))
      else (sampleText payload.eventType
        (((sampleOf payload).map Event.payloadJson).getD "null")).map Event.typed).isSome
    rcases hfind : sampleOf payload with _ | ev
    · rfl
    · have hmem : ev ∈ sampleEvents := List.mem_of_find?_eq_some hfind
      have hpayload : ev.payload = payload := by simpa using List.find?_some hfind
      have hall : ∀ ev ∈ sampleEvents, ev.eventType = ev.payload.eventType := by decide
      simp only [Option.map_some, Option.getD_some]
      split
      · rfl
      · rw [Option.isSome_map, sampleText, List.find?_isSome]
        exact ⟨ev, List.mem_cons_of_mem _ hmem, by simp [hall ev hmem, hpayload]⟩

/-- A replica that gets the first event of the primary first.  The event before it takes no
seq, because its insert is an error. -/
theorem inStepReplica_servesVerified :
    ServesVerified (applyEvents true [malformedRoutes, observedFirst, observedSecond]
      (Database.empty schema)).2 :=
  served_events_verify sampleSigner_sound sampleJson_readsBack
    (.deliver .empty fun _ => by unfold InStep; decide +kernel)

/-- A replica that gets the second event of the primary first serves it with its own
seq 1, and the signature of the served event does not verify. -/
theorem outOfStepReplica_fails :
    verifyEventSignature observedSecond = true ∧
      LogRun sampleSigner (fun _ _ => True)
        (applyEvents true [observedSecond] (Database.empty schema)).2 ∧
      (applyEvents true [observedSecond] (Database.empty schema)).2 .events =
        [storedEvent 1 observedSecond] ∧
      getEventsSince (applyEvents true [observedSecond] (Database.empty schema)).2 0 500 =
        .ok [{ observedSecond with seq := 1 }] ∧
      verifyEventSignature { observedSecond with seq := 1 } = false ∧
      ¬ ServesVerified (applyEvents true [observedSecond] (Database.empty schema)).2 := by
  have hrows : (applyEvents true [observedSecond] (Database.empty schema)).2 .events =
      [storedEvent 1 observedSecond] := by decide +kernel
  have hserved : eventOfRow (storedEvent 1 observedSecond) =
      .ok { observedSecond with seq := 1 } := by decide +kernel
  have hbad : verifyEventSignature { observedSecond with seq := 1 } = false := by decide +kernel
  refine ⟨by decide +kernel, .deliver .empty fun _ => trivial, hrows, by decide +kernel, hbad, ?_⟩
  intro hall
  obtain ⟨ev, hev, hver⟩ := hall (storedEvent 1 observedSecond) (by rw [hrows]; simp)
  rw [hserved] at hev
  cases hev
  rw [hbad] at hver
  cases hver

end Sample

end Stophammer
