import Stophammer.Batch

/-!
# Community node

The push handler and the poll loop of a community node, and the answers of the node
that it polls.  The loop waits for a page, applies it and then moves its cursor; a
push can come between any two of these steps.
-/

namespace Stophammer

open Relational Statement

variable [Platform]

structure SyncEventsResponse where
  events : List Event
  hasMore : Bool
  nextSeq : Int
deriving DecidableEq

/-- `GET /sync/events`. -/
def handleSyncEvents (d : Db) (afterSeq : Int) (limit : Option Int) :
    Except DbError SyncEventsResponse :=
  let cappedLimit := max 1 (min (limit.getD 500) 1000)
  match getEventsSince d afterSeq cappedLimit with
  | .error e => .error e
  | .ok events =>
    .ok
      { events := events
        hasMore := events.length = cappedLimit.toNat
        nextSeq := (events.getLast?.map Event.seq).getD afterSeq }

def logRow (ev : Event) : StoredEvent := storedEvent ev.seq ev

theorem logRow_eventOfRow {r : StoredEvent} {ev : Event} (h : eventOfRow r = .ok ev) :
    logRow ev = r := by
  unfold eventOfRow at h
  split at h
  · cases h
    rfl
  · cases h

theorem mapM_eventOfRow {rows : List StoredEvent} {events : List Event}
    (h : rows.mapM eventOfRow = .ok events) : events.map logRow = rows := by
  induction rows generalizing events with
  | nil =>
    rw [List.mapM_nil] at h
    cases h
    rfl
  | cons r rows ih =>
    rw [List.mapM_cons] at h
    rcases hr : eventOfRow r with e | ev
    · rw [hr] at h
      cases h
    · rcases hrest : rows.mapM eventOfRow with e | evs
      · rw [hr, hrest] at h
        cases h
      · rw [hr, hrest] at h
        cases h
        rw [List.map_cons, logRow_eventOfRow hr, ih hrest]

/-- A page of a log: events of the log, and every one after `afterSeq` up to the end
of the page. -/
structure IsPage (p : Db) (afterSeq : Int) (response : SyncEventsResponse) : Prop where
  from_log : ∀ ev ∈ response.events, logRow ev ∈ p .events
  le_nextSeq : ∀ ev ∈ response.events, ev.seq ≤ response.nextSeq
  complete : ∀ r ∈ p .events, afterSeq < r.seq → r.seq ≤ response.nextSeq →
    ∃ ev ∈ response.events, ev.eventId = r.eventId
  nextSeq_known : response.nextSeq = afterSeq ∨
    ∃ ev ∈ response.events, response.nextSeq = ev.seq

omit [Platform] in
theorem mem_storedEventsSince {p : Db} {afterSeq limit : Int} {r : StoredEvent}
    (hr : r ∈ storedEventsSince p afterSeq limit) : r ∈ p .events ∧ afterSeq < r.seq := by
  have hmem := List.mem_of_mem_take hr
  rw [List.mem_insertionSort, List.mem_filter, decide_eq_true_eq] at hmem
  exact hmem

omit [Platform] in
theorem storedEventsSince_sorted (p : Db) (afterSeq limit : Int) :
    (storedEventsSince p afterSeq limit).Pairwise fun a b => a.seq ≤ b.seq :=
  (sort_pairwise StoredEvent.seq _).sublist (List.take_sublist _ _)

omit [Platform] in
theorem storedEventsSince_complete {p : Db} {afterSeq limit : Int} {r r' : StoredEvent}
    (hr : r ∈ p .events) (hafter : afterSeq < r.seq)
    (hr' : r' ∈ storedEventsSince p afterSeq limit) (hle : r.seq ≤ r'.seq) :
    r ∈ storedEventsSince p afterSeq limit := by
  let sorted := ((p .events).filter fun r : StoredEvent => afterSeq < r.seq).insertionSort
    fun a b => a.seq ≤ b.seq
  let n := (max limit 1).toNat
  have hsorted : sorted.Pairwise fun a b => a.seq ≤ b.seq := sort_pairwise StoredEvent.seq _
  have hmem : r ∈ sorted := by
    rw [List.mem_insertionSort, List.mem_filter, decide_eq_true_eq]
    exact ⟨hr, hafter⟩
  rw [← List.take_append_drop n sorted] at hmem hsorted
  rcases List.mem_append.mp hmem with htake | hdrop
  · exact htake
  · -- equal seqs are one row: the seq is a key
    have hge : r'.seq ≤ r.seq := (List.pairwise_append.mp hsorted).2.2 r' hr' r hdrop
    have hseq : r'.seq = r.seq := Int.le_antisymm hge hle
    have hrow : r = r' := p.eq_of_shared_key (k := Key.eventSeq r.seq) hr
      (mem_storedEventsSince hr').1 (by simp [Table.keys]) (by simp [Table.keys, hseq])
    rw [hrow]
    exact hr'

theorem handleSyncEvents_page {p : Db} {afterSeq : Int} {limit : Option Int}
    {response : SyncEventsResponse} (h : handleSyncEvents p afterSeq limit = .ok response) :
    IsPage p afterSeq response := by
  unfold handleSyncEvents at h
  simp only at h
  split at h
  · cases h
  · rename_i events hevents
    cases h
    let rows := storedEventsSince p afterSeq (max 1 (min (limit.getD 500) 1000))
    have hrows : events.map logRow = rows := mapM_eventOfRow hevents
    have hfrom : ∀ ev ∈ events, logRow ev ∈ rows := by
      intro ev hev
      rw [← hrows]
      exact List.mem_map_of_mem hev
    rcases hlast : events.getLast? with _ | last
    · have hnil : events = [] := List.getLast?_eq_none_iff.mp hlast
      subst hnil
      refine ⟨by simp, by simp, fun r hr hafter hle => ?_, .inl rfl⟩
      simp only [Option.map_none, Option.getD_none] at hle
      omega
    · have hmem : last ∈ events := List.mem_of_getLast? hlast
      simp only [Option.map_some, Option.getD_some]
      refine ⟨fun ev hev => (mem_storedEventsSince (hfrom ev hev)).1, fun ev hev => ?_,
        fun r hr hafter hle => ?_, .inr ⟨last, hmem, rfl⟩⟩
      · -- the page is sorted, so its last event has the highest seq
        obtain ⟨init, rfl⟩ := List.getLast?_eq_some_iff.mp hlast
        have hsorted : rows.Pairwise fun a b => a.seq ≤ b.seq := storedEventsSince_sorted ..
        rw [← hrows, List.map_append, List.pairwise_append] at hsorted
        rcases List.mem_append.mp hev with hev | hev
        · exact hsorted.2.2 _ (List.mem_map_of_mem hev) (logRow last) (by simp)
        · rw [List.mem_singleton.mp hev]
      · have hin : r ∈ rows := storedEventsSince_complete hr hafter (hfrom last hmem) hle
        rw [← hrows] at hin
        obtain ⟨ev, hev, rfl⟩ := List.mem_map.mp hin
        exact ⟨ev, hev, rfl⟩

structure CommunityConfig where
  primaryPubkeyHex : String
  pushTimeoutSecs : Int
deriving DecidableEq

/-- Where the poll loop is. -/
inductive PollPhase where
  | asleep
  /-- A request for the events after `last_seq` is under way. -/
  | fetching (pagesDrained : Nat)
  /-- The page is applied and the cursor of the loop is not moved yet. -/
  | advancing (pagesDrained applied : Nat) (nextSeq : Int) (hasMore : Bool)
deriving DecidableEq

structure CommunityNode where
  db : Db
  lastPushAt : Int
  /-- The cursor that the poll loop holds in memory. -/
  lastSeq : Int
  phase : PollPhase

/-- A node that starts with an empty database. -/
def CommunityNode.fresh : CommunityNode where
  db := Database.empty schema
  lastPushAt := 0
  lastSeq := 0
  phase := .asleep

structure PushResponse where
  applied : Nat
  rejected : Nat
  duplicate : Nat
deriving DecidableEq

def maxPushEvents : Nat := 1000

def maxDrainPages : Nat := 100

/-- The events of a push that name the primary as their signer. -/
def trustedOf (cfg : CommunityConfig) (events : List Event) : List Event :=
  events.filter fun ev => ev.signedBy == cfg.primaryPubkeyHex

/-- `POST /sync/push`.  No response stands for the status of a bad request. -/
def handleSyncPush (cfg : CommunityConfig) (now : Int) (commits : Bool) (events : List Event)
    (n : CommunityNode) : Option PushResponse × CommunityNode :=
  if maxPushEvents < events.length then (none, n)
  else
    let trusted := trustedOf cfg events
    let preRejected := events.length - trusted.length
    let (result, db) := applyEvents commits trusted n.db
    let summary := result.summary
    (some
      { applied := summary.applied
        rejected := summary.rejected + preRejected
        duplicate := summary.duplicate },
      { n with
        db := db
        lastPushAt :=
          if 0 < summary.applied ∨ 0 < summary.duplicate then now else n.lastPushAt })

/-- The loop wakes up, and starts to drain when no push came for some time. -/
def pollWake (cfg : CommunityConfig) (now : Int) (n : CommunityNode) : CommunityNode :=
  match n.phase with
  | .asleep =>
    if cfg.pushTimeoutSecs < now - n.lastPushAt then { n with phase := .fetching 0 } else n
  | _ => n

/-- After a page the loop asks for the next one, or sleeps. -/
def phaseAfterPage (pagesDrained : Nat) (hasMore : Bool) : PollPhase :=
  if !hasMore then .asleep
  else if maxDrainPages ≤ pagesDrained + 1 then .asleep
  else .fetching (pagesDrained + 1)

def pollAnswer (commits : Bool) (answer : Option SyncEventsResponse) (n : CommunityNode) :
    CommunityNode :=
  match n.phase, answer with
  | .fetching _, none => { n with phase := .asleep }
  | .fetching pagesDrained, some response =>
    if response.events = [] then
      { n with
        lastSeq := max n.lastSeq response.nextSeq
        phase := phaseAfterPage pagesDrained response.hasMore }
    else
      let (result, db) := applyEvents commits response.events n.db
      { n with
        db := db
        phase :=
          .advancing pagesDrained result.summary.applied response.nextSeq response.hasMore }
  | _, _ => n

def storedCursor (readerAnswers : Bool) (n : CommunityNode) (fallback : Int) : Int :=
  if readerAnswers then getNodeSyncCursor n.db syncCursorKey else fallback

/-- The cursor of the loop moves: to the stored cursor when an event was applied, to
the end of the page when none was. -/
def pollAdvance (readerAnswers : Bool) (n : CommunityNode) : CommunityNode :=
  match n.phase with
  | .advancing pagesDrained applied nextSeq hasMore =>
    { n with
      lastSeq :=
        if 0 < applied then max n.lastSeq (storedCursor readerAnswers n n.lastSeq)
        else max n.lastSeq nextSeq
      phase := phaseAfterPage pagesDrained hasMore }
  | _ => n

/-- The process starts again: the database is what stays. -/
def restart (readerAnswers : Bool) (n : CommunityNode) : CommunityNode :=
  { n with lastPushAt := 0, lastSeq := storedCursor readerAnswers n 0, phase := .asleep }

/-- What a community node meets, one at a time and in any order. -/
inductive NodeInput where
  | push (now : Int) (commits : Bool) (events : List Event)
  | wake (now : Int)
  | answer (commits : Bool) (answer : Option SyncEventsResponse)
  | advance (readerAnswers : Bool)
  | restart (readerAnswers : Bool)
deriving DecidableEq

namespace CommunityNode

def step (cfg : CommunityConfig) (n : CommunityNode) : NodeInput → CommunityNode
  | .push now commits events => (handleSyncPush cfg now commits events n).2
  | .wake now => pollWake cfg now n
  | .answer commits answer => pollAnswer commits answer n
  | .advance readerAnswers => pollAdvance readerAnswers n
  | .restart readerAnswers => Stophammer.restart readerAnswers n

def run (cfg : CommunityConfig) (n : CommunityNode) (inputs : List NodeInput) : CommunityNode :=
  inputs.foldl (step cfg) n

/-- The batch that an input hands to `applyEvents`. -/
def delivered (cfg : CommunityConfig) (n : CommunityNode) : NodeInput → List Event
  | .push _ _ events => if maxPushEvents < events.length then [] else trustedOf cfg events
  | .answer _ (some response) =>
    match n.phase with
    | .fetching _ => response.events
    | _ => []
  | _ => []

end CommunityNode

def NodeInput.commits : NodeInput → Bool
  | .push _ commits _ | .answer commits _ => commits
  | _ => true

theorem applyEvents_nil (commits : Bool) (d : Db) : (applyEvents commits [] d).2 = d := rfl

theorem CommunityNode.step_db (cfg : CommunityConfig) (n : CommunityNode) (i : NodeInput) :
    (n.step cfg i).db = (applyEvents i.commits (n.delivered cfg i) n.db).2 := by
  cases i with
  | push now commits events =>
    by_cases hlen : maxPushEvents < events.length
    · simp only [step, handleSyncPush, delivered, if_pos hlen, applyEvents_nil]
    · simp only [step, handleSyncPush, delivered, if_neg hlen, NodeInput.commits]
  | wake now =>
    simp only [step, pollWake, delivered, applyEvents_nil]
    split
    · split <;> rfl
    · rfl
  | answer commits answer =>
    rcases hphase : n.phase with _ | pages | ⟨pages, applied, nextSeq, hasMore⟩
    · cases answer <;> simp only [step, pollAnswer, delivered, hphase, applyEvents_nil]
    · cases answer with
      | none => simp only [step, pollAnswer, delivered, hphase, applyEvents_nil]
      | some response =>
        by_cases hnil : response.events = []
        · simp only [step, pollAnswer, delivered, hphase, hnil, if_true, applyEvents_nil]
        · simp only [step, pollAnswer, delivered, hphase, if_neg hnil, NodeInput.commits]
    · cases answer <;> simp only [step, pollAnswer, delivered, hphase, applyEvents_nil]
  | advance readerAnswers =>
    simp only [step, pollAdvance, delivered, applyEvents_nil]
    split <;> rfl
  | restart readerAnswers => rfl

theorem CommunityNode.step_lastSeq (cfg : CommunityConfig) (n : CommunityNode) (i : NodeInput) :
    (n.step cfg i).lastSeq = n.lastSeq ∨
      (∃ commits response pages, i = .answer commits (some response) ∧
        n.phase = .fetching pages ∧ response.events = [] ∧
        (n.step cfg i).lastSeq = max n.lastSeq response.nextSeq) ∨
      (∃ readerAnswers pages applied next hasMore, i = .advance readerAnswers ∧
        n.phase = .advancing pages applied next hasMore ∧
        (n.step cfg i).lastSeq =
          if 0 < applied then max n.lastSeq (storedCursor readerAnswers n n.lastSeq)
          else max n.lastSeq next) ∨
      ∃ readerAnswers, i = .restart readerAnswers ∧
        (n.step cfg i).lastSeq = storedCursor readerAnswers n 0 := by
  cases i with
  | push now commits events =>
    left
    simp only [step, handleSyncPush]
    split <;> rfl
  | wake now =>
    left
    simp only [step, pollWake]
    split
    · split <;> rfl
    · rfl
  | answer commits answer =>
    rcases hphase : n.phase with _ | pages | ⟨pages, applied, next, hasMore⟩
    · left
      cases answer <;> simp only [step, pollAnswer, hphase]
    · cases answer with
      | none =>
        left
        simp only [step, pollAnswer, hphase]
      | some response =>
        by_cases hnil : response.events = []
        · right
          left
          refine ⟨commits, response, pages, rfl, rfl, hnil, ?_⟩
          simp only [step, pollAnswer, hphase, hnil, if_true]
        · left
          simp only [step, pollAnswer, hphase, if_neg hnil]
    · left
      cases answer <;> simp only [step, pollAnswer, hphase]
  | advance readerAnswers =>
    rcases hphase : n.phase with _ | pages | ⟨pages, applied, next, hasMore⟩
    · left
      simp only [step, pollAdvance, hphase]
    · left
      simp only [step, pollAdvance, hphase]
    · right
      right
      left
      refine ⟨readerAnswers, pages, applied, next, hasMore, rfl, rfl, ?_⟩
      simp only [step, pollAdvance, hphase]
  | restart readerAnswers => exact .inr (.inr (.inr ⟨readerAnswers, rfl, rfl⟩))

omit [Platform] in
theorem phaseAfterPage_not_advancing {drained : Nat} {more : Bool} {pages applied : Nat}
    {next : Int} {hasMore : Bool} :
    phaseAfterPage drained more ≠ .advancing pages applied next hasMore := by
  unfold phaseAfterPage
  split
  · simp
  · split <;> simp

theorem CommunityNode.step_advancing {cfg : CommunityConfig} {n : CommunityNode} {i : NodeInput}
    {pages applied : Nat} {next : Int} {hasMore : Bool}
    (h : (n.step cfg i).phase = .advancing pages applied next hasMore) :
    n.phase = .advancing pages applied next hasMore ∨
      ∃ commits response, i = .answer commits (some response) ∧ n.phase = .fetching pages ∧
        response.events ≠ [] ∧ next = response.nextSeq := by
  cases i with
  | push now commits events =>
    left
    simp only [step, handleSyncPush] at h
    split at h <;> exact h
  | wake now =>
    left
    simp only [step, pollWake] at h
    split at h
    · split at h
      · cases h
      · exact h
    · exact h
  | answer commits answer =>
    rcases hphase : n.phase with _ | drained | ⟨drained, count, until', more⟩
    · left
      cases answer <;> simpa only [step, pollAnswer, hphase] using h
    · cases answer with
      | none =>
        simp only [step, pollAnswer, hphase] at h
        cases h
      | some response =>
        by_cases hnil : response.events = []
        · simp only [step, pollAnswer, hphase, hnil, if_true] at h
          exact (phaseAfterPage_not_advancing h).elim
        · simp only [step, pollAnswer, hphase, if_neg hnil, PollPhase.advancing.injEq] at h
          exact .inr ⟨commits, response, rfl, by rw [h.1], hnil, h.2.2.1.symm⟩
    · left
      cases answer <;> simpa only [step, pollAnswer, hphase] using h
  | advance readerAnswers =>
    rcases hphase : n.phase with _ | drained | ⟨drained, count, until', more⟩
    · simp only [step, pollAdvance, hphase] at h
      cases h
    · simp only [step, pollAdvance, hphase] at h
      cases h
    · simp only [step, pollAdvance, hphase] at h
      exact (phaseAfterPage_not_advancing h).elim
  | restart readerAnswers => cases h

end Stophammer
