import Stophammer.SampleRun
import Stophammer.Signing

/-!
# The log of a primary

Each row goes into the log with no signature and gets it in the same transaction, over the
seq that the insert gave.  So the seqs of the committed rows are 1 to n, and each row
verifies.
-/

namespace Stophammer

open Relational Statement

section

variable [Platform]

/-- The event of a row with a typed payload. -/
def StoredEvent.event (r : StoredEvent) (typed : TypedPayload) : Event where
  eventId := r.eventId
  eventType := r.eventType
  typed := typed
  subjectGuid := r.subjectGuid
  signedBy := r.signedBy
  signature := r.signature
  seq := r.seq
  createdAt := r.createdAt
  warnings := r.warnings
  payloadJson := r.payloadJson

/-- The event of the row verifies: the check reads the text and not the typed payload. -/
def RowVerifies (r : StoredEvent) : Prop := ∀ typed, verifyEventSignature (r.event typed) = true

/-- The rows carry the seqs from 1 on, and each one verifies. -/
structure SignedRows (rows : List StoredEvent) : Prop where
  seqs : rows.map StoredEvent.seq = (List.range rows.length).map fun i : Nat => (i : Int) + 1
  verifies : ∀ r ∈ rows, RowVerifies r

/-- The log of the state is `SignedRows`. -/
def SignedLog (d : Db) : Prop := SignedRows (d .events)

theorem SignedLog.nextSeq {d : Db} (h : SignedLog d) :
    nextSeq d = ((d .events).length : Int) + 1 := by
  apply le_antisymm
  · apply nextSeq_le
    · intro r hr
      have hseq := List.mem_map_of_mem (f := StoredEvent.seq) hr
      rw [h.seqs, List.mem_map] at hseq
      obtain ⟨i, hi, hsame⟩ := hseq
      rw [List.mem_range] at hi
      omega
    · left
      omega
  · rcases hlen : (d .events).length with _ | n
    · have hnil := List.eq_nil_of_length_eq_zero hlen
      rw [Stophammer.nextSeq, hnil]
      decide
    · have hlast : ((n : Int) + 1) ∈ (d .events).map StoredEvent.seq := by
        rw [h.seqs, List.mem_map]
        exact ⟨n, by rw [List.mem_range]; omega, rfl⟩
      obtain ⟨r, hr, hseq⟩ := List.mem_map.mp hlast
      have hlt := seq_lt_nextSeq d hr
      omega

theorem signedRow_rowVerifies {signer : NodeSigner} (hsound : signer.Sound) {row : EventRow}
    (htext : row.payloadJson ≠ "") (seq : Int) : RowVerifies (signedRow signer row seq) := by
  intro typed
  unfold verifyEventSignature
  rw [Bool.and_eq_true, Bool.not_eq_true', String.isEmpty_eq_false_iff]
  exact ⟨htext, hsound _⟩

/-- The statement keeps the log signed, with a result and with an error. -/
abbrev KeepsLog {ε α : Type} (x : Statement ε Db α) : Prop := Steps (Keeps SignedLog) x

theorem keepsLog_of_writes {ts : List Table} {α : Type} {x : Stmt α}
    (hx : Writes (S := schema) ts x) (h : Table.events ∉ ts) : KeepsLog x := by
  have hlog : ∀ d e : Db, (∀ t ∈ [Table.events], e t = d t) → Keeps SignedLog d e := by
    intro d e hsame hd
    unfold SignedLog
    rw [hsame .events (by simp)]
    exact hd
  exact hx.steps (by simpa using h) hlog

end

section Sign

variable [Platform] {signer : NodeSigner} (hsound : signer.Sound)

include hsound

theorem insertEvent_keepsLog {row : EventRow} (htext : row.payloadJson ≠ "") :
    KeepsLog (insertEvent signer row) := by
  intro d hd
  rcases insertEvent_run signer row d with ⟨d', hrun, hcontents⟩ | ⟨e, hrun⟩
  · rw [hrun]
    have hrows : d' .events = d .events ++ [signedRow signer row (nextSeq d)] := by
      rw [hcontents, Contents.set_same]
    unfold SignedLog
    rw [hrows]
    constructor
    · rw [List.map_append, hd.seqs, List.length_append, List.length_singleton, List.range_succ,
        List.map_append, List.map_singleton, List.map_singleton]
      congr 2
      exact hd.nextSeq
    · intro r hr
      rcases List.mem_append.mp hr with hr | hr
      · exact hd.verifies r hr
      · rw [List.mem_singleton.mp hr]
        exact signedRow_rowVerifies hsound htext _
  · rw [hrun]
    exact hd

end Sign

/-- What `serde_json` writes for a payload is not the empty text. -/
def JsonNonempty [Platform] : Prop := ∀ payload : EventPayload, Platform.encodePayload payload ≠ ""

section

variable [Platform] {signer : NodeSigner} (hsound : signer.Sound) (hjson : JsonNonempty)

include hsound hjson

theorem signedLog_rule : SignRule signer (Keeps SignedLog) where
  writes := keepsLog_of_writes
  signs := by
    rintro row ⟨payload, -, htext⟩
    apply insertEvent_keepsLog hsound
    rw [htext]
    exact hjson payload

theorem Operation.keepsLog {d : Db} {operation : Operation} (hsigned : operation.SignedBy signer) :
    Keeps SignedLog d (operation.next d) := Operation.along (signedLog_rule hsound hjson) hsigned

/-- After every run of a primary its log holds the seqs 1 to n, and each row verifies with
the seq of the row. -/
theorem log_signed {history : List RunStep} {d : Db}
    (hrun : PrimaryRun (fun _ operation => operation.SignedBy signer) history d) : SignedLog d := by
  apply hrun.keeps
  · exact ⟨rfl, fun _ hr => (List.not_mem_nil hr).elim⟩
  · intro d operation hsigned
    exact operation.keepsLog hsound hjson hsigned

end

section Sample

attribute [local instance] runPlatform

/-- The log after the first submission of a feed. -/
theorem log_signed_firstIngest :
    ((firstIngest.next (Database.empty schema)) .events).map (fun r : StoredEvent => r.seq) =
        [1, 2] ∧
      SignedLog (firstIngest.next (Database.empty schema)) :=
  ⟨by decide +kernel,
    log_signed runSigner_sound runJson_readsBack.nonempty (.step firstIngest .empty rfl)⟩

end Sample

end Stophammer
