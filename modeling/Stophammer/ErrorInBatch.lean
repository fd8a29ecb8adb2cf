import Stophammer.Batch
import Stophammer.Sample

/-!
# An error inside a batch

The transaction of a batch goes on after an event with an error.  The row of the
event stays in the log, so a redelivery finds it there, unless the insert of the row is
what failed.  A payload that does not decode ends the transaction, so no other event of
the batch is applied.
-/

namespace Stophammer

open Relational Statement

section

variable [Platform]

/-- The batch leaves what it leaves without `ev`, and a redelivery of `ev` is not
dropped as a duplicate. -/
def LeavesNoTrace (pre : List Event) (ev : Event) (post : List Event) (d : Db) : Prop :=
  (applyEvents true (pre ++ ev :: post) d).2 = (applyEvents true (pre ++ post) d).2 ∧
    (applyEvents true [ev] (applyEvents true (pre ++ ev :: post) d).2).1.summary.duplicate = 0

theorem gather_error_rejected {pre post : List Event} {ev : Event} {d : Db}
    (herr : ErrorAt pre ev d) :
    0 < (Batch.start.gather (pre ++ ev :: post) d).rejected := by
  rw [Batch.gather_append]
  change 0 < (((Batch.start.gather pre d).next ev (applyEach pre d)).gather post
    (applyOne ev (applyEach pre d))).rejected
  refine Nat.lt_of_lt_of_le ?_ (Batch.gather_rejected_le post _ _)
  rw [Batch.next, Batch.record_rejected, if_neg (by rw [herr]; decide)]
  exact Nat.succ_pos _

theorem ErrorAt.unseen {pre : List Event} {ev : Event} {d : Db} (herr : ErrorAt pre ev d)
    (hstorable : ev.storable = true) : hasEvent d ev.eventId = false := by
  cases hseen : hasEvent d ev.eventId with
  | false => rfl
  | true =>
    have hpre : hasEvent (applyEach pre d) ev.eventId = true := by
      rw [hasEvent_applyEach, hseen, Bool.true_or]
    unfold ErrorAt at herr
    rw [applySingleEventInner_seen hstorable hpre] at herr
    cases herr

theorem redelivery_duplicate {ev : Event} {d : Db} (hver : verifyEventSignature ev)
    (hdec : Decodes ev) (hstorable : ev.storable = true) (hseen : hasEvent d ev.eventId) :
    (applyEvents true [ev] d).1.summary.duplicate = 1 := by
  have hv : verifiedOf [ev] = [ev] := verifiedOf_eq_self (by simpa using hver)
  have hcommits : Commits true [ev] := ⟨rfl, by rw [hv]; simpa using hdec⟩
  rw [applyEvents_run hcommits, hv]
  simp only [Batch.gather, Batch.next, applySingleEventInner_seen hstorable hseen]
  rfl

theorem Batch.next_refused {b : Batch} {ev : Event} (h : ev.storable = false) (d : Db) :
    b.next ev d =
      { b with
        pendingLiveSseDiffs := b.pendingLiveSseDiffs ++ liveDiffs ev d
        rejected := b.rejected + 1 } := by
  rw [Batch.next, applySingleEventInner_refused h]
  rfl

theorem Batch.gather_maxPrimarySeq_congr {b b' : Batch} (h : b.maxPrimarySeq = b'.maxPrimarySeq)
    (events : List Event) (d : Db) :
    (b.gather events d).maxPrimarySeq = (b'.gather events d).maxPrimarySeq := by
  induction events generalizing b b' d with
  | nil => exact h
  | cons ev events ih =>
    apply ih
    unfold Batch.next
    rcases (applySingleEventInner ev d).1 with e | (_ | _)
    · exact h
    · simp only [Batch.record, h]
    · simp only [Batch.record, h]

theorem committed_refused {ev : Event} (h : ev.storable = false) (pre post : List Event)
    (d : Db) : committed (pre ++ ev :: post) d = committed (pre ++ post) d := by
  have heach : applyEach (pre ++ ev :: post) d = applyEach (pre ++ post) d := by
    rw [applyEach_append, applyEach_append]
    change applyEach post (applyOne ev (applyEach pre d)) = _
    rw [applyOne_refused h]
  have hcursor : (Batch.start.gather (pre ++ ev :: post) d).maxPrimarySeq =
      (Batch.start.gather (pre ++ post) d).maxPrimarySeq := by
    rw [Batch.gather_append, Batch.gather_append]
    change (((Batch.start.gather pre d).next ev (applyEach pre d)).gather post
      (applyOne ev (applyEach pre d))).maxPrimarySeq = _
    rw [applyOne_refused h]
    apply Batch.gather_maxPrimarySeq_congr
    rw [Batch.next_refused h]
  rw [committed, committed, heach, hcursor]

theorem redelivery_refused {ev : Event} (h : ev.storable = false) (hver : verifyEventSignature ev)
    (hdec : Decodes ev) (d : Db) : (applyEvents true [ev] d).1.summary.duplicate = 0 := by
  have hv : verifiedOf [ev] = [ev] := verifiedOf_eq_self (by simpa using hver)
  have hcommits : Commits true [ev] := ⟨rfl, by rw [hv]; simpa using hdec⟩
  rw [applyEvents_run hcommits, hv]
  simp only [Batch.gather, Batch.next_refused h]
  rfl

theorem Commits.without {pre post : List Event} {ev : Event} {commits : Bool}
    (hver : ∀ e ∈ pre ++ ev :: post, verifyEventSignature e)
    (hcommit : Commits commits (pre ++ ev :: post)) :
    verifiedOf (pre ++ post) = pre ++ post ∧ Commits commits (pre ++ post) := by
  have hmem : ∀ e ∈ pre ++ post, e ∈ pre ++ ev :: post := by
    intro e he
    rcases List.mem_append.mp he with he | he <;> simp [he]
  have hv : verifiedOf (pre ++ post) = pre ++ post :=
    verifiedOf_eq_self fun e he => hver e (hmem e he)
  refine ⟨hv, hcommit.1, fun e he => hcommit.2 e ?_⟩
  rw [hv] at he
  rw [verifiedOf_eq_self hver]
  exact hmem e he

/-- An event with an error is reported as rejected.  The batch leaves no trace of it exactly
where the insert of its row is what failed; else its row stays and every redelivery is
dropped. -/
theorem error_in_batch_is_kept {pre post : List Event} {ev : Event} {d : Db}
    (hver : ∀ e ∈ pre ++ ev :: post, verifyEventSignature e)
    (hcommit : Commits true (pre ++ ev :: post)) (herr : ErrorAt pre ev d) :
    0 < (applyEvents true (pre ++ ev :: post) d).1.summary.rejected ∧
      (LeavesNoTrace pre ev post d ↔ ev.storable = false) ∧
      (ev.storable = true → (∀ e ∈ pre ++ post, e.eventId ≠ ev.eventId) →
        (applyEvents true (pre ++ ev :: post) d).2 .events ≠
          (applyEvents true (pre ++ post) d).2 .events) := by
  have hv := verifiedOf_eq_self hver
  have hdb : (applyEvents true (pre ++ ev :: post) d).2 = committed (pre ++ ev :: post) d := by
    rw [applyEvents_run hcommit, hv]
  obtain ⟨hv', hcommit'⟩ := hcommit.without hver
  have hdb' : (applyEvents true (pre ++ post) d).2 = committed (pre ++ post) d := by
    rw [applyEvents_run hcommit', hv']
  have hdec : Decodes ev := hcommit.2 ev (by rw [hv]; simp)
  have hseen : ev.storable = true →
      hasEvent (committed (pre ++ ev :: post) d) ev.eventId = true := by
    intro hstorable
    rw [hasEvent_committed, List.any_eq_true.mpr ⟨ev, by simp, by simp [hstorable]⟩, Bool.or_true]
  refine ⟨?_, ⟨?_, ?_⟩, ?_⟩
  · rw [applyEvents_run hcommit, hv]
    exact Nat.lt_of_lt_of_le (gather_error_rejected herr) (Nat.le_add_left _ _)
  · rintro ⟨-, hredelivered⟩
    cases hstorable : ev.storable with
    | false => rfl
    | true =>
      rw [hdb, redelivery_duplicate (hver ev (by simp)) hdec hstorable (hseen hstorable)]
        at hredelivered
      cases hredelivered
  · intro hrefused
    refine ⟨?_, redelivery_refused hrefused (hver ev (by simp)) hdec _⟩
    rw [hdb, hdb', committed_refused hrefused]
  · intro hstorable hids heq
    have hunseen : hasEvent (committed (pre ++ post) d) ev.eventId = false := by
      rw [hasEvent_committed, herr.unseen hstorable, Bool.false_or, List.any_eq_false]
      intro e he
      rw [decide_eq_false fun h => hids e he h.symm, Bool.and_false]
      decide
    have hrow := hseen hstorable
    rw [hdb, hdb'] at heq
    unfold hasEvent at hrow hunseen
    rw [heq, hunseen] at hrow
    cases hrow

/-- The batch gives what it gives without `bad`, with one more event rejected. -/
def Isolates (commits : Bool) (pre : List Event) (bad : Event) (post : List Event) (d : Db) :
    Prop :=
  let result := applyEvents commits (pre ++ bad :: post) d
  let without := applyEvents commits (pre ++ post) d
  result.2 = without.2 ∧ result.1.frames = without.1.frames ∧
    result.1.summary =
      { without.1.summary with rejected := without.1.summary.rejected + 1 }

theorem Batch.gather_duplicate_le (events : List Event) (b : Batch) (d : Db) :
    b.duplicate ≤ (b.gather events d).duplicate := by
  induction events generalizing b d with
  | nil => exact Nat.le_refl _
  | cons ev events ih =>
    refine Nat.le_trans ?_ (ih (b.next ev d) (applyOne ev d))
    unfold Batch.next
    rcases (applySingleEventInner ev d).1 with e | (_ | _)
    · exact Nat.le_refl _
    · exact Nat.le_refl _
    · exact Nat.le_succ _

theorem Batch.gather_duplicate {events : List Event} {ev : Event} (hev : ev ∈ events)
    (hstorable : ev.storable = true) {d : Db} (hseen : hasEvent d ev.eventId = true) (b : Batch) :
    0 < (b.gather events d).duplicate := by
  obtain ⟨xs, ys, rfl⟩ := List.append_of_mem hev
  have hthere : hasEvent (applyEach xs d) ev.eventId = true := by
    rw [hasEvent_applyEach, hseen, Bool.true_or]
  rw [Batch.gather_append]
  change 0 < (((b.gather xs d).next ev (applyEach xs d)).gather ys
    (applyOne ev (applyEach xs d))).duplicate
  refine Nat.lt_of_lt_of_le ?_ (Batch.gather_duplicate_le ys _ _)
  rw [Batch.next, applySingleEventInner_seen hstorable hthere]
  exact Nat.succ_pos _

theorem Batch.gather_refused {events : List Event} (h : ∀ ev ∈ events, ev.storable = false)
    (b : Batch) (d : Db) : applyEach events d = d ∧ ∃ diffs,
      b.gather events d =
        { b with pendingLiveSseDiffs := diffs, rejected := b.rejected + events.length } := by
  induction events generalizing b with
  | nil => exact ⟨rfl, b.pendingLiveSseDiffs, rfl⟩
  | cons ev events ih =>
    have hev := h ev (by simp)
    obtain ⟨heach, diffs, hgather⟩ := ih (fun e he => h e (by simp [he])) (b.next ev d)
    change applyEach events (applyOne ev d) = d ∧ ∃ diffs,
      (b.next ev d).gather events (applyOne ev d) = _
    rw [applyOne_refused hev]
    refine ⟨heach, diffs, ?_⟩
    rw [hgather, Batch.next_refused hev, List.length_cons, Nat.add_right_comm, Nat.add_assoc]

omit [Platform] in
theorem Batch.frames_eq_nil {b : Batch} (h : b.applied = []) : b.frames = [] := by
  have hlive : ∀ diff ∈ b.pendingLiveSseDiffs,
      buildLiveSseFramesForFeed diff.feedGuid diff.oldLiveEvents diff.newLiveEvents [] = [] :=
    fun _ _ => rfl
  rw [Batch.frames, h]
  exact List.flatMap_eq_nil_iff.mpr hlive

theorem applyEvents_refused {events : List Event} (hver : ∀ ev ∈ events, verifyEventSignature ev)
    (h : ∀ ev ∈ events, ev.storable = false) {commits : Bool} (hcommit : Commits commits events)
    (d : Db) :
    applyEvents commits events d =
      ({ summary := { applied := 0, duplicate := 0, rejected := events.length, maxSeq := 0 }
         frames := [] }, d) := by
  obtain ⟨heach, diffs, hgather⟩ := Batch.gather_refused h Batch.start d
  rw [applyEvents_run hcommit, verifiedOf_eq_self hver, committed, heach, hgather]
  simp only [Batch.start, Nat.sub_self, Nat.zero_add, List.length_nil]
  rw [Batch.frames_eq_nil rfl]
  rfl

/-- The event with the bad payload takes every other event of the batch with it.  Nothing is
lost exactly where the log refuses each of them, or where the call commits nothing. -/
theorem isolates_iff {commits : Bool} {pre post : List Event} {bad : Event} {d : Db}
    (hver : ∀ ev ∈ pre ++ bad :: post, verifyEventSignature ev) (hbad : ¬ Decodes bad)
    (hdec : ∀ ev ∈ pre ++ post, Decodes ev) :
    Isolates commits pre bad post d ↔
      commits = false ∨ ∀ ev ∈ pre ++ post, ev.storable = false := by
  have hfail : ¬ Commits commits (pre ++ bad :: post) := by
    intro h
    exact hbad (h.2 bad (by rw [verifiedOf_eq_self hver]; simp))
  have hver' : ∀ ev ∈ pre ++ post, verifyEventSignature ev := by
    intro ev hev
    apply hver ev
    rcases List.mem_append.mp hev with h | h <;> simp [h]
  have hv := verifiedOf_eq_self hver'
  have hlen : (pre ++ bad :: post).length = (pre ++ post).length + 1 := by
    simp only [List.length_append, List.length_cons]
    omega
  unfold Isolates
  rw [applyEvents_failed hfail]
  constructor
  · rintro ⟨hdb, -, hsummary⟩
    cases commits with
    | false => exact .inl rfl
    | true =>
      right
      have hcommit : Commits true (pre ++ post) := ⟨rfl, by rw [hv]; exact hdec⟩
      rw [applyEvents_run hcommit, hv] at hdb hsummary
      intro ev hev
      cases hstorable : ev.storable with
      | false => rfl
      | true =>
        -- nothing was written, so the log held the event and it was a duplicate
        have hheld : hasEvent d ev.eventId = true := by
          rw [show d = committed (pre ++ post) d from hdb, hasEvent_committed,
            List.any_eq_true.mpr ⟨ev, hev, by simp [hstorable]⟩, Bool.or_true]
        have hdup := Batch.gather_duplicate hev hstorable hheld Batch.start
        have hzero : 0 = (Batch.start.gather (pre ++ post) d).duplicate :=
          congrArg ApplySummary.duplicate hsummary
        omega
  · intro h
    have hfail' : (applyEvents commits (pre ++ post) d) =
        ({ summary := { applied := 0, duplicate := 0, rejected := (pre ++ post).length, maxSeq := 0 }
           frames := [] }, d) := by
      by_cases hcommit : Commits commits (pre ++ post)
      · rcases h with rfl | hrefused
        · cases hcommit.1
        · exact applyEvents_refused hver' hrefused hcommit d
      · exact applyEvents_failed hcommit d
    rw [hfail', hlen]
    exact ⟨rfl, rfl, rfl⟩

end

section Sample

attribute [local instance] samplePlatform

/-- The routes of a feed that the replica does not hold have an error after their row is in
the log.  The text of `malformedRoutes` is no JSON, so its row is not. -/
theorem routesOfUnknownFeed_kept :
    (0 < (applyEvents true ([] ++ routesOfUnknownFeed :: [])
        (Database.empty schema)).1.summary.rejected ∧
      ¬ LeavesNoTrace [] routesOfUnknownFeed [] (Database.empty schema) ∧
      (applyEvents true ([] ++ routesOfUnknownFeed :: []) (Database.empty schema)).2 .events ≠
        (applyEvents true ([] ++ []) (Database.empty schema)).2 .events) ∧
    0 < (applyEvents true ([observedFirst] ++ malformedRoutes :: [])
        (Database.empty schema)).1.summary.rejected ∧
      LeavesNoTrace [observedFirst] malformedRoutes [] (Database.empty schema) := by
  have hkept := @error_in_batch_is_kept _ [] [] routesOfUnknownFeed (Database.empty schema)
    (by decide +kernel) (by decide +kernel) (by decide +kernel)
  have hrefused := @error_in_batch_is_kept _ [observedFirst] [] malformedRoutes
    (Database.empty schema) (by decide +kernel) (by decide +kernel) (by decide +kernel)
  refine ⟨⟨hkept.1, ?_, hkept.2.2 (by decide +kernel) (by simp)⟩, hrefused.1,
    hrefused.2.1.mpr (by decide +kernel)⟩
  rw [hkept.2.1]
  decide +kernel

/-- One batch with one event with an error: the state is not the one of the empty
batch, and the redelivery is dropped. -/
theorem routesOfUnknownFeed_leaves_trace :
    verifyEventSignature routesOfUnknownFeed = true ∧ Commits true [routesOfUnknownFeed] ∧
      ErrorAt [] routesOfUnknownFeed (Database.empty schema) ∧
      ¬ LeavesNoTrace [] routesOfUnknownFeed [] (Database.empty schema) ∧
      (applyEvents true [routesOfUnknownFeed] (Database.empty schema)).2 .events ≠
        Database.empty schema .events := by
  refine ⟨by decide +kernel, by decide +kernel, by decide +kernel, ?_, by decide +kernel⟩
  rintro ⟨-, hredelivered⟩
  exact absurd hredelivered (by decide +kernel)

/-- An event that does not decode takes the observation before it with it.  From a batch
whose other event has no row either way it takes nothing. -/
theorem undecodedObserved_isolates_iff :
    ¬ Isolates true [observedFirst] undecodedObserved [] (Database.empty schema) ∧
      Isolates true [malformedRoutes] undecodedObserved [] (Database.empty schema) := by
  have hobserved := @isolates_iff _ true [observedFirst] [] undecodedObserved
    (Database.empty schema) (by decide +kernel) (by decide +kernel) (by decide +kernel)
  have hmalformed := @isolates_iff _ true [malformedRoutes] [] undecodedObserved
    (Database.empty schema) (by decide +kernel) (by decide +kernel) (by decide +kernel)
  refine ⟨?_, hmalformed.mpr (.inr (by decide +kernel))⟩
  rw [hobserved]
  decide +kernel

/-- Alone the observation is applied; with the event that does not decode in the batch
it is not. -/
theorem undecodedObserved_blocks_batch :
    (∀ ev ∈ [observedFirst, undecodedObserved], verifyEventSignature ev = true) ∧
      ¬ Decodes undecodedObserved ∧ Decodes observedFirst ∧
      (applyEvents true [observedFirst] (Database.empty schema)).1.summary.applied = 1 ∧
      (applyEvents true [observedFirst, undecodedObserved]
        (Database.empty schema)).1.summary.applied = 0 ∧
      ¬ Isolates true [observedFirst] undecodedObserved [] (Database.empty schema) := by
  refine ⟨by decide +kernel, by decide +kernel, by decide +kernel, by decide +kernel,
    by decide +kernel, ?_⟩
  rintro ⟨-, -, hsummary⟩
  exact absurd (congrArg ApplySummary.applied hsummary) (by decide +kernel)

end Sample

end Stophammer
