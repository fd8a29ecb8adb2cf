import Stophammer.Community
import Stophammer.Sample

/-!
# The sync cursor of a community node

A primary and one community node.  The primary appends to its log; the node meets
pushes, answers to its polls and restarts in any order.  Beside the two states stands
the history of the events that the node has applied.
-/

namespace Stophammer

open Relational Statement

section

variable [Platform]

structure SyncSystem where
  primary : Db
  node : CommunityNode
  /-- The ids of the events that a delivery has applied so far. -/
  applied : List String

namespace SyncSystem

def start : SyncSystem where
  primary := Database.empty schema
  node := CommunityNode.fresh
  applied := []

/-- The primary reaches the database `p'`. -/
def ingest (s : SyncSystem) (p' : Db) : SyncSystem := { s with primary := p' }

/-- The node meets one input. -/
def input (cfg : CommunityConfig) (s : SyncSystem) (i : NodeInput) : SyncSystem :=
  { s with
    node := s.node.step cfg i
    applied := s.applied ++ appliedBy i.commits (s.node.delivered cfg i) s.node.db }

def cursor (s : SyncSystem) : Int := getNodeSyncCursor s.node.db syncCursorKey

end SyncSystem

/-- What a node meets comes from the primary: a push carries events of its log, and an
answer is what some earlier log gives for the cursor of the loop. -/
def FromPrimary (s : SyncSystem) : NodeInput → Prop
  | .push _ _ events => ∀ ev ∈ events, logRow ev ∈ s.primary .events
  | .answer _ (some response) =>
    ∃ p limit, Grows p s.primary ∧ handleSyncEvents p s.node.lastSeq limit = .ok response
  | _ => True

/-- The runs of the system in which each input of the node meets `ok`. -/
inductive SyncRun (cfg : CommunityConfig) (ok : SyncSystem → NodeInput → Prop) :
    SyncSystem → Prop
  | start : SyncRun cfg ok SyncSystem.start
  | ingest {s : SyncSystem} {p' : Db} : SyncRun cfg ok s → Grows s.primary p' →
      SyncRun cfg ok (s.ingest p')
  | input {s : SyncSystem} {i : NodeInput} : SyncRun cfg ok s → FromPrimary s i → ok s i →
      SyncRun cfg ok (s.input cfg i)

/-- No event of the batch is rejected. -/
structure Flawless (events : List Event) (d : Db) : Prop where
  verified : ∀ ev ∈ events, verifyEventSignature ev = true
  applies : AllApply events d

instance (events : List Event) (d : Db) : Decidable (Flawless events d) :=
  decidable_of_iff ((∀ ev ∈ events, verifyEventSignature ev = true) ∧ AllApply events d)
    ⟨fun h => ⟨h.1, h.2⟩, fun h => ⟨h.verified, h.applies⟩⟩

/-- The batch has every event of the primary between the stored cursor and its own
last event, apart from those that the node holds. -/
def Gapless (s : SyncSystem) (events : List Event) : Prop :=
  ∀ r ∈ s.primary .events, s.cursor < r.seq → (∃ ev ∈ events, r.seq ≤ ev.seq) →
    hasEvent s.node.db r.eventId = true ∨ ∃ ev ∈ events, ev.eventId = r.eventId

instance (s : SyncSystem) (events : List Event) : Decidable (Gapless s events) :=
  inferInstanceAs (Decidable (∀ r ∈ s.primary .events, s.cursor < r.seq →
    (∃ ev ∈ events, r.seq ≤ ev.seq) →
      hasEvent s.node.db r.eventId = true ∨ ∃ ev ∈ events, ev.eventId = r.eventId))

/-- A push that commits leaves no gap and has no rejected event, and a page commits
with no rejected event. -/
def LosesNothing (cfg : CommunityConfig) (s : SyncSystem) : NodeInput → Prop
  | i@(.push _ commits _) =>
    let batch := s.node.delivered cfg i
    Commits commits batch → Flawless batch s.node.db ∧ Gapless s batch
  | i@(.answer commits (some _)) =>
    let batch := s.node.delivered cfg i
    batch ≠ [] → Commits commits batch ∧ Flawless batch s.node.db
  | _ => True

/-- Every event of the primary up to `c` is applied at the node. -/
structure Covered (s : SyncSystem) (c : Int) : Prop where
  known : c < nextSeq s.primary
  applied : ∀ r ∈ s.primary .events, r.seq ≤ c → r.eventId ∈ s.applied

/-- What holds in every state of a run that loses nothing. -/
structure SyncInv (s : SyncSystem) : Prop where
  positive : ∀ r ∈ s.primary .events, 0 < r.seq
  logged : ∀ id, hasEvent s.node.db id = true ↔ id ∈ s.applied
  cursor : Covered s s.cursor
  lastSeq : Covered s s.node.lastSeq
  page : ∀ pages applied next hasMore, s.node.phase = .advancing pages applied next hasMore →
    Covered s next

omit [Platform] in
theorem nextSeq_pos {p : Db} (h : ∀ r ∈ p .events, 0 < r.seq) : 0 < nextSeq p := by
  unfold nextSeq
  rcases hmax : ((p .events).map StoredEvent.seq).max? with _ | m
  · simp only [Option.getD_none]
    omega
  · obtain ⟨hmem, -⟩ := List.max?_eq_some_iff.mp hmax
    obtain ⟨r, hr, rfl⟩ := List.mem_map.mp hmem
    have hpos := h r hr
    simp only [Option.getD_some]
    omega

omit [Platform] in
theorem Covered.le {s : SyncSystem} {c c' : Int} (h : Covered s c) (hle : c' ≤ c) :
    Covered s c' where
  known := by
    have := h.known
    omega
  applied := by
    intro r hr hseq
    exact h.applied r hr (Int.le_trans hseq hle)

omit [Platform] in
theorem Covered.max {s : SyncSystem} {c c' : Int} (h : Covered s c) (h' : Covered s c') :
    Covered s (max c c') := by
  rcases Int.le_total c c' with hle | hle
  · rw [max_eq_right hle]
    exact h'
  · rw [max_eq_left hle]
    exact h

omit [Platform] in
theorem Covered.ingest {s : SyncSystem} {p' : Db} {c : Int} (h : Covered s c)
    (hgrows : Grows s.primary p') (hpos : 0 < nextSeq p') : Covered (s.ingest p') c where
  known := Int.lt_of_lt_of_le h.known (hgrows.nextSeq_le hpos)
  applied := by
    intro r hr hseq
    have hlt : r.seq < nextSeq s.primary := Int.lt_of_le_of_lt hseq h.known
    exact h.applied r (hgrows.mem_of_lt hr hlt) hseq

theorem Covered.input {cfg : CommunityConfig} {s : SyncSystem} {i : NodeInput} {c : Int}
    (h : Covered s c) : Covered (s.input cfg i) c where
  known := h.known
  applied := fun r hr hseq => List.mem_append_left _ (h.applied r hr hseq)

omit [Platform] in
theorem SyncInv.zero {s : SyncSystem} (hinv : SyncInv s) : Covered s 0 where
  known := nextSeq_pos hinv.positive
  applied := by
    intro r hr hseq
    have hpos := hinv.positive r hr
    omega

omit [Platform] in
theorem SyncInv.start : SyncInv SyncSystem.start := by
  have hzero : Covered SyncSystem.start 0 :=
    ⟨by decide, fun _ hr => (List.not_mem_nil hr).elim⟩
  refine ⟨fun _ hr => (List.not_mem_nil hr).elim, fun id => ?_, hzero, hzero, ?_⟩
  · constructor <;> intro h <;> cases h
  · intro _ _ _ _ hphase
    cases hphase

omit [Platform] in
theorem SyncInv.ingest {s : SyncSystem} {p' : Db} (hinv : SyncInv s)
    (hgrows : Grows s.primary p') : SyncInv (s.ingest p') := by
  have hpositive : ∀ r ∈ p' .events, 0 < r.seq := by
    obtain ⟨rows, hrows, hnew⟩ := hgrows
    intro r hr
    rw [hrows] at hr
    rcases List.mem_append.mp hr with hr | hr
    · exact hinv.positive r hr
    · exact Int.lt_of_lt_of_le (nextSeq_pos hinv.positive) (hnew r hr)
  have hpos := nextSeq_pos hpositive
  exact
    { positive := hpositive
      logged := hinv.logged
      cursor := hinv.cursor.ingest hgrows hpos
      lastSeq := hinv.lastSeq.ingest hgrows hpos
      page := fun pages applied next hasMore hphase =>
        (hinv.page pages applied next hasMore hphase).ingest hgrows hpos }

theorem getNodeSyncCursor_committed (events : List Event) (d : Db) :
    getNodeSyncCursor (committed events d) syncCursorKey = getNodeSyncCursor d syncCursorKey ∨
      ∃ ev ∈ events, getNodeSyncCursor (committed events d) syncCursorKey =
        max (getNodeSyncCursor d syncCursorKey) ev.seq := by
  have hkeep : getNodeSyncCursor (applyEach events d) syncCursorKey =
      getNodeSyncCursor d syncCursorKey := by
    unfold getNodeSyncCursor
    rw [applyEach_leaves (by decide) (by decide)]
  unfold committed
  rw [withBatchCursor_cursor, hkeep]
  split
  · rename_i hpos
    rcases Batch.gather_maxPrimarySeq events Batch.start d with hmax | ⟨ev, hev, hmax⟩
    · rw [hmax] at hpos
      exact absurd hpos (by decide)
    · exact .inr ⟨ev, hev, by rw [hmax]⟩
  · exact .inl rfl

theorem mem_appliedBy {commits : Bool} {events : List Event} {d : Db}
    (hcommits : Commits commits events) (hflawless : Flawless events d) {ev : Event}
    (hev : ev ∈ events) : hasEvent d ev.eventId = true ∨ ev.eventId ∈ appliedBy commits events d := by
  unfold appliedBy
  rw [if_pos hcommits, verifiedOf_eq_self hflawless.verified]
  exact Batch.gather_applies hflawless.applies Batch.start hev

theorem hasEvent_applyEvents {commits : Bool} {events : List Event} {d : Db}
    (hflawless : Commits commits events → Flawless events d) (id : String) :
    hasEvent (applyEvents commits events d).2 id = true ↔
      hasEvent d id = true ∨ id ∈ appliedBy commits events d := by
  rw [applyEvents_db]
  by_cases hcommits : Commits commits events
  · have hf := hflawless hcommits
    rw [if_pos hcommits, hasEvent_committed, Bool.or_eq_true, List.any_eq_true,
      verifiedOf_eq_self hf.verified]
    constructor
    · rintro (hseen | ⟨ev, hev, hid⟩)
      · exact .inl hseen
      · rw [Bool.and_eq_true, decide_eq_true_eq] at hid
        obtain ⟨-, rfl⟩ := hid
        exact mem_appliedBy hcommits hf hev
    · rintro (hseen | hmem)
      · exact .inl hseen
      · unfold appliedBy at hmem
        rw [if_pos hcommits, verifiedOf_eq_self hf.verified] at hmem
        rcases Batch.mem_of_mem_gather hmem with hnil | ⟨ev, hev, hid⟩
        · cases hnil
        · refine .inr ⟨ev, hev, ?_⟩
          rw [hf.applies.storable ev hev, decide_eq_true hid]
          rfl
  · rw [if_neg hcommits, appliedBy, if_neg hcommits]
    simp

theorem delivered_known {cfg : CommunityConfig} {s : SyncSystem} {i : NodeInput}
    (hfrom : FromPrimary s i) {ev : Event} (hev : ev ∈ s.node.delivered cfg i) :
    logRow ev ∈ s.primary .events := by
  cases i with
  | push now commits events =>
    simp only [CommunityNode.delivered] at hev
    split at hev
    · cases hev
    · exact hfrom ev (List.mem_of_mem_filter hev)
  | answer commits answer =>
    cases answer with
    | none => cases hev
    | some response =>
      obtain ⟨p, limit, hgrows, hresponse⟩ := hfrom
      simp only [CommunityNode.delivered] at hev
      split at hev
      · exact hgrows.subset ((handleSyncEvents_page hresponse).from_log ev hev)
      · cases hev
  | wake _ | advance _ | restart _ => cases hev

theorem applied_after {cfg : CommunityConfig} {s : SyncSystem} {i : NodeInput}
    (hinv : SyncInv s) (hcommits : Commits i.commits (s.node.delivered cfg i))
    (hflawless : Flawless (s.node.delivered cfg i) s.node.db) {id : String}
    (h : hasEvent s.node.db id = true ∨ ∃ ev ∈ s.node.delivered cfg i, ev.eventId = id) :
    id ∈ (s.input cfg i).applied := by
  have happlied : ∀ id, hasEvent s.node.db id = true → id ∈ (s.input cfg i).applied := by
    intro id hseen
    exact List.mem_append_left _ ((hinv.logged id).mp hseen)
  rcases h with hseen | ⟨ev, hev, rfl⟩
  · exact happlied id hseen
  · rcases mem_appliedBy hcommits hflawless hev with hseen | hmem
    · exact happlied ev.eventId hseen
    · exact List.mem_append_right _ hmem

/-- A flawless page covers the log up to its end: what is before it is covered by the
cursor of the loop. -/
theorem page_covered {cfg : CommunityConfig} {s : SyncSystem} {commits : Bool}
    {response : SyncEventsResponse} {p : Db} (hinv : SyncInv s) (hgrows : Grows p s.primary)
    (hpage : IsPage p s.node.lastSeq response)
    (happlied : ∀ ev ∈ response.events,
      ev.eventId ∈ (s.input cfg (.answer commits (some response))).applied) :
    Covered (s.input cfg (.answer commits (some response))) response.nextSeq := by
  rcases hpage.nextSeq_known with hsame | ⟨last, hlast, hseq⟩
  · rw [hsame]
    exact hinv.lastSeq.input
  · have hknown : response.nextSeq < nextSeq p := by
      rw [hseq]
      exact seq_lt_nextSeq p (hpage.from_log last hlast)
    have hpos := nextSeq_pos hinv.positive
    refine ⟨Int.lt_of_lt_of_le hknown (hgrows.nextSeq_le hpos), fun r hr hle => ?_⟩
    by_cases hafter : s.node.lastSeq < r.seq
    · have hold : r ∈ p .events := hgrows.mem_of_lt hr (Int.lt_of_le_of_lt hle hknown)
      obtain ⟨ev, hev, hid⟩ := hpage.complete r hold hafter hle
      rw [← hid]
      exact happlied ev hev
    · exact hinv.lastSeq.input.applied r hr (Int.not_lt.mp hafter)

theorem LosesNothing.flawless {cfg : CommunityConfig} {s : SyncSystem} {i : NodeInput}
    (hok : LosesNothing cfg s i) (hcommits : Commits i.commits (s.node.delivered cfg i)) :
    Flawless (s.node.delivered cfg i) s.node.db := by
  have hnil : Flawless [] s.node.db := ⟨fun _ h => (List.not_mem_nil h).elim, trivial⟩
  cases i with
  | push now commits events => exact (hok hcommits).1
  | answer commits answer =>
    cases answer with
    | none => exact hnil
    | some response =>
      by_cases hempty : s.node.delivered cfg (.answer commits (some response)) = []
      · rw [hempty]
        exact hnil
      · exact (hok hempty).2
  | wake _ | advance _ | restart _ => exact hnil

theorem batch_covered {cfg : CommunityConfig} {s : SyncSystem} {i : NodeInput}
    (hinv : SyncInv s) (hfrom : FromPrimary s i) (hok : LosesNothing cfg s i)
    (hcommits : Commits i.commits (s.node.delivered cfg i)) {ev : Event}
    (hev : ev ∈ s.node.delivered cfg i) : Covered (s.input cfg i) ev.seq := by
  have hflawless := hok.flawless hcommits
  have hafter : ∀ id, (hasEvent s.node.db id = true ∨
      ∃ ev ∈ s.node.delivered cfg i, ev.eventId = id) → id ∈ (s.input cfg i).applied :=
    fun id => applied_after hinv hcommits hflawless
  cases i with
  | push now commits events =>
    have hgapless := (hok hcommits).2
    refine ⟨seq_lt_nextSeq s.primary (delivered_known hfrom hev), fun r hr hle => ?_⟩
    by_cases hcursor : s.cursor < r.seq
    · exact hafter _ (hgapless r hr hcursor ⟨ev, hev, hle⟩)
    · exact hinv.cursor.input.applied r hr (Int.not_lt.mp hcursor)
  | answer commits answer =>
    cases answer with
    | none => cases hev
    | some response =>
      obtain ⟨p, limit, hgrows, hresponse⟩ := hfrom
      have hpage := handleSyncEvents_page hresponse
      simp only [CommunityNode.delivered] at hev hafter
      split at hev
      · rename_i pages hphase
        simp only [hphase] at hafter
        have hcovered := page_covered hinv hgrows hpage
          fun ev' hev' => hafter ev'.eventId (.inr ⟨ev', hev', rfl⟩)
        exact hcovered.le (hpage.le_nextSeq ev hev)
      · cases hev
  | wake _ | advance _ | restart _ => cases hev

theorem SyncInv.input_logged {cfg : CommunityConfig} {s : SyncSystem} {i : NodeInput}
    (hinv : SyncInv s) (hok : LosesNothing cfg s i) (id : String) :
    hasEvent (s.input cfg i).node.db id = true ↔ id ∈ (s.input cfg i).applied := by
  change hasEvent (s.node.step cfg i).db id = true ↔ _
  rw [CommunityNode.step_db, hasEvent_applyEvents fun hcommits => hok.flawless hcommits,
    hinv.logged id]
  exact List.mem_append.symm

theorem SyncInv.input_cursor {cfg : CommunityConfig} {s : SyncSystem} {i : NodeInput}
    (hinv : SyncInv s) (hfrom : FromPrimary s i) (hok : LosesNothing cfg s i) :
    Covered (s.input cfg i) (s.input cfg i).cursor := by
  have hold : Covered (s.input cfg i) s.cursor := hinv.cursor.input
  have hcursor : (s.input cfg i).cursor =
      getNodeSyncCursor (applyEvents i.commits (s.node.delivered cfg i) s.node.db).2
        syncCursorKey := by
    change getNodeSyncCursor (s.node.step cfg i).db syncCursorKey = _
    rw [CommunityNode.step_db]
  rw [hcursor, applyEvents_db]
  split
  · rename_i hcommits
    rw [verifiedOf_eq_self (hok.flawless hcommits).verified]
    rcases getNodeSyncCursor_committed (s.node.delivered cfg i) s.node.db with
      hsame | ⟨ev, hev, hmax⟩
    · rw [hsame]
      exact hold
    · rw [hmax]
      exact hold.max (batch_covered hinv hfrom hok hcommits hev)
  · exact hold

theorem SyncInv.input_page {cfg : CommunityConfig} {s : SyncSystem} {i : NodeInput}
    (hinv : SyncInv s) (hfrom : FromPrimary s i) (hok : LosesNothing cfg s i)
    {pages applied : Nat} {next : Int} {hasMore : Bool}
    (hphase : (s.node.step cfg i).phase = .advancing pages applied next hasMore) :
    Covered (s.input cfg i) next := by
  rcases CommunityNode.step_advancing hphase with hold | ⟨commits, response, rfl, hold, hne, rfl⟩
  · exact (hinv.page _ _ _ _ hold).input
  · obtain ⟨p, limit, hgrows, hresponse⟩ := hfrom
    have hdelivered : s.node.delivered cfg (.answer commits (some response)) =
        response.events := by
      simp only [CommunityNode.delivered, hold]
    obtain ⟨hcommits, hflawless⟩ := hok (by rw [hdelivered]; exact hne)
    apply page_covered hinv hgrows (handleSyncEvents_page hresponse)
    intro ev hev
    apply applied_after (i := .answer commits (some response)) hinv hcommits hflawless
    exact .inr ⟨ev, by rw [hdelivered]; exact hev, rfl⟩

theorem SyncInv.input_lastSeq {cfg : CommunityConfig} {s : SyncSystem} {i : NodeInput}
    (hinv : SyncInv s) (hfrom : FromPrimary s i) :
    Covered (s.input cfg i) (s.node.step cfg i).lastSeq := by
  have hold : Covered (s.input cfg i) s.node.lastSeq := hinv.lastSeq.input
  have hstored : ∀ readerAnswers fallback, Covered s fallback →
      Covered (s.input cfg i) (storedCursor readerAnswers s.node fallback) := by
    intro readerAnswers fallback hfallback
    cases readerAnswers with
    | false => exact hfallback.input
    | true => exact hinv.cursor.input
  rcases CommunityNode.step_lastSeq cfg s.node i with
    hsame | ⟨commits, response, pages, rfl, -, hnil, hlast⟩ |
      ⟨readerAnswers, pages, applied, next, hasMore, -, hphase, hlast⟩ |
      ⟨readerAnswers, -, hlast⟩
  · rw [hsame]
    exact hold
  · -- an empty page ends where it began
    obtain ⟨p, limit, hgrows, hresponse⟩ := hfrom
    rcases (handleSyncEvents_page hresponse).nextSeq_known with hsame | ⟨ev, hev, -⟩
    · rw [hlast, hsame, max_self]
      exact hold
    · rw [hnil] at hev
      cases hev
  · rw [hlast]
    split
    · exact hold.max (hstored readerAnswers _ hinv.lastSeq)
    · exact hold.max (hinv.page _ _ _ _ hphase).input
  · rw [hlast]
    exact hstored readerAnswers 0 hinv.zero

theorem SyncInv.input {cfg : CommunityConfig} {s : SyncSystem} {i : NodeInput}
    (hinv : SyncInv s) (hfrom : FromPrimary s i) (hok : LosesNothing cfg s i) :
    SyncInv (s.input cfg i) where
  positive := hinv.positive
  logged := hinv.input_logged hok
  cursor := hinv.input_cursor hfrom hok
  lastSeq := hinv.input_lastSeq hfrom
  page := fun _ _ _ _ hphase => hinv.input_page hfrom hok hphase

theorem SyncRun.inv {cfg : CommunityConfig} {ok : SyncSystem → NodeInput → Prop} {s : SyncSystem}
    (hok : ∀ s i, ok s i → LosesNothing cfg s i) (hrun : SyncRun cfg ok s) : SyncInv s := by
  induction hrun with
  | start => exact SyncInv.start
  | ingest _ hgrows ih => exact ih.ingest hgrows
  | input _ hfrom hi ih => exact ih.input hfrom (hok _ _ hi)

/-- Every primary event up to the stored cursor has been applied. -/
def CursorSound (s : SyncSystem) : Prop :=
  ∀ r ∈ s.primary .events, r.seq ≤ s.cursor → r.eventId ∈ s.applied

instance (s : SyncSystem) : Decidable (CursorSound s) :=
  inferInstanceAs (Decidable
    (∀ r ∈ s.primary .events, r.seq ≤ s.cursor → r.eventId ∈ s.applied))

/-- In a run whose batches lose nothing the stored cursor is sound in every state. -/
theorem cursor_sound {cfg : CommunityConfig} {s : SyncSystem}
    (hrun : SyncRun cfg (LosesNothing cfg) s) : CursorSound s :=
  (hrun.inv fun _ _ hi => hi).cursor.applied

end

section Sample

attribute [local instance] samplePlatform

def sampleConfig : CommunityConfig where
  primaryPubkeyHex := sampleKey
  pushTimeoutSecs := 90

/-- The primary has signed two events that the node has not seen. -/
def samplePrimary : Db := recordEvent observedSecond (recordEvent observedFirst (Database.empty schema))

theorem samplePrimary_grows : Grows SyncSystem.start.primary samplePrimary :=
  ⟨[logRow observedFirst, logRow observedSecond], by decide +kernel, by decide +kernel⟩

def signedTwo : SyncSystem := SyncSystem.start.ingest samplePrimary

theorem signedTwo_run (ok : SyncSystem → NodeInput → Prop) :
    SyncRun sampleConfig ok signedTwo := .ingest .start samplePrimary_grows

/-- Both events in one push. -/
theorem wholePush_sound :
    CursorSound (signedTwo.input sampleConfig (.push 1 true [observedFirst, observedSecond])) := by
  apply cursor_sound
  refine .input (signedTwo_run _) ?_ fun _ => ⟨?_, ?_⟩
  · intro ev hev
    have hlog : ∀ ev ∈ [observedFirst, observedSecond], logRow ev ∈ signedTwo.primary .events := by
      decide +kernel
    exact hlog ev hev
  · decide +kernel
  · decide +kernel

/-- The push of the first event is lost and the push of the second one arrives: the
cursor is past the first event, which the node never applied. -/
theorem lostPush_unsound :
    ∃ s : SyncSystem, SyncRun sampleConfig (fun _ _ => True) s ∧
      logRow observedFirst ∈ s.primary .events ∧ s.cursor = 2 ∧
      observedFirst.eventId ∉ s.applied ∧ ¬ CursorSound s := by
  refine ⟨signedTwo.input sampleConfig (.push 1 true [observedSecond]),
    .input (signedTwo_run _) ?_ trivial, by decide +kernel, by decide +kernel, by decide +kernel,
    by decide +kernel⟩
  intro ev hev
  rw [List.mem_singleton.mp hev]
  decide +kernel

end Sample

section

variable [Platform]

def NodeInput.isPush : NodeInput → Bool
  | .push .. => true
  | _ => false

/-- Where the cursor of the loop moves past a primary event, the event is in the log
of the node and its effects are applied. -/
def DrainSound (s s' : SyncSystem) : Prop :=
  ∀ r ∈ s'.primary .events, s.node.lastSeq < r.seq → r.seq ≤ s'.node.lastSeq →
    hasEvent s'.node.db r.eventId = true ∧ r.eventId ∈ s'.applied

instance (s s' : SyncSystem) : Decidable (DrainSound s s') :=
  inferInstanceAs (Decidable
    (∀ r ∈ s'.primary .events, s.node.lastSeq < r.seq → r.seq ≤ s'.node.lastSeq →
      hasEvent s'.node.db r.eventId = true ∧ r.eventId ∈ s'.applied))

/-- In a run with no push whose pages all commit with no rejected event, each move of
the cursor of the loop is sound. -/
theorem drain_sound {cfg : CommunityConfig} {s : SyncSystem} {i : NodeInput}
    (hrun : SyncRun cfg (fun s i => i.isPush = false ∧ LosesNothing cfg s i) s)
    (hfrom : FromPrimary s i) (hi : i.isPush = false ∧ LosesNothing cfg s i) :
    DrainSound s (s.input cfg i) := by
  have hinv : SyncInv (s.input cfg i) :=
    SyncRun.inv (fun _ _ h => h.2) (SyncRun.input hrun hfrom hi)
  intro r hr _ hle
  have happlied := hinv.lastSeq.applied r hr hle
  exact ⟨(hinv.logged r.eventId).mpr happlied, happlied⟩

end

section Sample

attribute [local instance] samplePlatform

/-- The page that the primary gives to a node at the start. -/
def firstPage : SyncEventsResponse where
  events := [observedFirst, observedSecond]
  hasMore := false
  nextSeq := 2

theorem firstPage_from (s : SyncSystem) (hprimary : s.primary = samplePrimary)
    (hlast : s.node.lastSeq = 0) (commits : Bool) : FromPrimary s (.answer commits (some firstPage)) := by
  refine ⟨samplePrimary, some 500, ?_, ?_⟩
  · rw [hprimary]
    exact Grows.refl samplePrimary
  · rw [hlast]
    decide +kernel

/-- The loop is awake and asks for the first page. -/
def asking : SyncSystem := signedTwo.input sampleConfig (.wake 100)

/-- The answer is applied, and the cursor of the loop moves. -/
def moved (commits : Bool) : SyncSystem :=
  (asking.input sampleConfig (.answer commits (some firstPage))).input sampleConfig (.advance true)

theorem firstPage_drained :
    DrainSound (asking.input sampleConfig (.answer true (some firstPage))) (moved true) := by
  apply drain_sound
  · refine .input (.input (signedTwo_run _) trivial ⟨rfl, trivial⟩)
      (firstPage_from asking rfl (by decide +kernel) true) ⟨rfl, fun _ => ⟨?_, ?_⟩⟩
    · decide +kernel
    · decide +kernel
  · trivial
  · exact ⟨rfl, trivial⟩

/-- The transaction of the page fails, and the cursor of the loop moves to its end. -/
theorem failedPage_skipped :
    SyncRun sampleConfig (fun _ i => i.isPush = false)
        (asking.input sampleConfig (.answer false (some firstPage))) ∧
      (asking.input sampleConfig (.answer false (some firstPage))).node.lastSeq = 0 ∧
      (moved false).node.lastSeq = 2 ∧
      hasEvent (moved false).node.db observedFirst.eventId = false ∧
      ¬ DrainSound (asking.input sampleConfig (.answer false (some firstPage))) (moved false) := by
  refine ⟨.input (.input (signedTwo_run _) trivial rfl)
    (firstPage_from asking rfl (by decide +kernel) false) rfl, by decide +kernel,
    by decide +kernel, by decide +kernel, by decide +kernel⟩

end Sample

end Stophammer
