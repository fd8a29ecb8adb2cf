import Stophammer.Batch
import Stophammer.Sample

/-!
# What the typed payload decides

The typed payload of an event is not signed.  The database and the counts do not
depend on it; the frames on the event stream do, where a channel takes them.
-/

namespace Stophammer

open Relational Statement

section

variable [Platform]

/-- The events agree on the signed fields, on the signature and on the warnings. -/
def SameSigned (ev ev' : Event) : Prop := { ev with typed := ev'.typed } = ev'

instance (ev ev' : Event) : Decidable (SameSigned ev ev') :=
  inferInstanceAs (Decidable ({ ev with typed := ev'.typed } = ev'))

/-- The channel that takes the frame of an event, and the typed payload that it carries. -/
def published (senders : List String) (ev : Event) : Option (String × TypedPayload) :=
  match feedGuidForEvent ev with
  | some feedGuid => if canSend senders feedGuid then some (feedGuid, ev.typed) else none
  | none => none

/-- The channels after the frame of an event. -/
def sendersAfter (senders : List String) (ev : Event) : List String :=
  match published senders ev with
  | some (feedGuid, _) => addSender senders feedGuid
  | none => senders

theorem SameSigned.verify {ev ev' : Event} (h : SameSigned ev ev') :
    verifyEventSignature ev' = verifyEventSignature ev := by
  rw [← h]
  rfl

theorem SameSigned.decodes {ev ev' : Event} (h : SameSigned ev ev') :
    Decodes ev' ↔ Decodes ev := by
  rw [← h]
  rfl

theorem SameSigned.inner {ev ev' : Event} (h : SameSigned ev ev') :
    applySingleEventInner ev' = applySingleEventInner ev := by
  rw [← h]
  rfl

theorem SameSigned.applyOne {ev ev' : Event} (h : SameSigned ev ev') (d : Db) :
    applyOne ev' d = Stophammer.applyOne ev d := by
  unfold Stophammer.applyOne
  rw [h.inner]

theorem SameSigned.liveDiffs {ev ev' : Event} (h : SameSigned ev ev') (d : Db) :
    liveDiffs ev' d = Stophammer.liveDiffs ev d := by
  rw [← h]
  rfl

omit [Platform] in
theorem SameSigned.seq {ev ev' : Event} (h : SameSigned ev ev') : ev'.seq = ev.seq := by
  rw [← h]

theorem SameSigned.verifiedOf {events events' : List Event}
    (h : List.Forall₂ SameSigned events events') :
    List.Forall₂ SameSigned (verifiedOf events) (verifiedOf events') := by
  induction h with
  | nil => exact .nil
  | @cons ev ev' events events' hev _ ih =>
    unfold Stophammer.verifiedOf at ih ⊢
    rw [List.filter_cons, List.filter_cons, hev.verify]
    split
    · exact .cons hev ih
    · exact ih

theorem SameSigned.applyEach {events events' : List Event}
    (h : List.Forall₂ SameSigned events events') (d : Db) :
    applyEach events' d = Stophammer.applyEach events d := by
  induction h generalizing d with
  | nil => rfl
  | @cons ev ev' events events' hev _ ih =>
    change Stophammer.applyEach events' (Stophammer.applyOne ev' d) =
      Stophammer.applyEach events (Stophammer.applyOne ev d)
    rw [hev.applyOne, ih]

theorem SameSigned.commits {commits : Bool} {events events' : List Event}
    (h : List.Forall₂ SameSigned events events') :
    Commits commits events' ↔ Commits commits events := by
  have hall : ∀ {xs ys : List Event}, List.Forall₂ SameSigned xs ys →
      ((∀ ev ∈ ys, Decodes ev) ↔ ∀ ev ∈ xs, Decodes ev) := by
    intro xs ys hxy
    induction hxy with
    | nil => simp
    | cons hev _ ih => rw [List.forall_mem_cons, List.forall_mem_cons, hev.decodes, ih]
  unfold Commits
  rw [hall (SameSigned.verifiedOf h)]

/-- Two batches with the same counts, whose applied events differ in the typed
payload alone. -/
structure SameBatch (b b' : Batch) : Prop where
  applied : List.Forall₂ (fun a a' : Event × Int => SameSigned a.1 a'.1 ∧ a'.2 = a.2)
    b.applied b'.applied
  diffs : b'.pendingLiveSseDiffs = b.pendingLiveSseDiffs
  duplicate : b'.duplicate = b.duplicate
  rejected : b'.rejected = b.rejected
  maxSeq : b'.maxSeq = b.maxSeq
  maxPrimarySeq : b'.maxPrimarySeq = b.maxPrimarySeq

theorem SameBatch.next {b b' : Batch} (h : SameBatch b b') {ev ev' : Event}
    (hev : SameSigned ev ev') (d : Db) : SameBatch (b.next ev d) (b'.next ev' d) := by
  have hdiffs : b'.pendingLiveSseDiffs ++ liveDiffs ev' d =
      b.pendingLiveSseDiffs ++ liveDiffs ev d := by
    rw [h.diffs, hev.liveDiffs]
  unfold Batch.next
  rw [hev.inner]
  rcases (applySingleEventInner ev d).1 with e | (localSeq | _)
  · exact
      { applied := h.applied
        diffs := hdiffs
        duplicate := h.duplicate
        rejected := congrArg (· + 1) h.rejected
        maxSeq := h.maxSeq
        maxPrimarySeq := h.maxPrimarySeq }
  · exact
      { applied := List.rel_append h.applied (.cons ⟨hev, rfl⟩ .nil)
        diffs := hdiffs
        duplicate := h.duplicate
        rejected := h.rejected
        maxSeq := by simp only [Batch.record, h.maxSeq, hev.seq]
        maxPrimarySeq := by simp only [Batch.record, h.maxPrimarySeq, hev.seq] }
  · exact
      { applied := h.applied
        diffs := hdiffs
        duplicate := congrArg (· + 1) h.duplicate
        rejected := h.rejected
        maxSeq := h.maxSeq
        maxPrimarySeq := by simp only [Batch.record, h.maxPrimarySeq, hev.seq] }

theorem SameBatch.gather {events events' : List Event}
    (hevents : List.Forall₂ SameSigned events events') {b b' : Batch} (h : SameBatch b b') (d : Db) :
    SameBatch (b.gather events d) (b'.gather events' d) := by
  induction hevents generalizing b b' d with
  | nil => exact h
  | @cons ev ev' events events' hev _ ih =>
    change SameBatch ((b.next ev d).gather events (applyOne ev d))
      ((b'.next ev' d).gather events' (applyOne ev' d))
    rw [hev.applyOne]
    exact ih (h.next hev d) _

/-- The local seqs of the applied events go up, and stay below the next one. -/
structure SeqsGoUp (b : Batch) (d : Db) : Prop where
  pairwise : b.applied.Pairwise fun a a' => a.2 < a'.2
  bounded : ∀ a ∈ b.applied, a.2 < nextSeq d

theorem applySingleEventInner_applied {ev : Event} {d : Db} {seq : Int}
    (h : (applySingleEventInner ev d).1 = .ok (.applied seq)) :
    isNew d ev = true ∧ seq = nextSeq d := by
  have hok : (applySingleEventInner ev d).1.isOk = true := by rw [h]; rfl
  have hstorable := storable_of_isOk hok
  cases hseen : hasEvent d ev.eventId with
  | true =>
    rw [applySingleEventInner_seen hstorable hseen] at h
    cases h
  | false =>
    have hnew : isNew d ev = true := isNew_iff.mpr ⟨hstorable, hseen⟩
    refine ⟨hnew, ?_⟩
    rw [applySingleEventInner_isOk hnew hok] at h
    cases h
    rfl

theorem nextSeq_le_applyOne (ev : Event) (d : Db) : nextSeq d ≤ nextSeq (applyOne ev d) := by
  cases hnew : isNew d ev with
  | false => rw [applyOne_old hnew]
  | true =>
    rw [applyOne_nextSeq hnew]
    omega

theorem SeqsGoUp.next {b : Batch} {d : Db} (h : SeqsGoUp b d) (ev : Event) :
    SeqsGoUp (b.next ev d) (applyOne ev d) := by
  have hle := nextSeq_le_applyOne ev d
  have hkeep : SeqsGoUp b (applyOne ev d) :=
    ⟨h.pairwise, fun a ha => Int.lt_of_lt_of_le (h.bounded a ha) hle⟩
  unfold Batch.next
  rcases hrun : (applySingleEventInner ev d).1 with e | (seq | _)
  · exact ⟨hkeep.pairwise, hkeep.bounded⟩
  · obtain ⟨hunseen, rfl⟩ := applySingleEventInner_applied hrun
    have hnext := applyOne_nextSeq hunseen
    constructor
    · simp only [Batch.record, List.pairwise_append, List.pairwise_singleton,
        List.mem_singleton, true_and]
      refine ⟨h.pairwise, fun a ha a' ha' => ?_⟩
      rw [ha']
      exact h.bounded a ha
    · simp only [Batch.record, List.mem_append, List.mem_singleton]
      rintro a (ha | rfl)
      · exact hkeep.bounded a ha
      · omega
  · exact ⟨hkeep.pairwise, hkeep.bounded⟩

theorem SeqsGoUp.gather {b : Batch} {d : Db} (h : SeqsGoUp b d) (events : List Event) :
    SeqsGoUp (b.gather events d) (applyEach events d) := by
  induction events generalizing b d with
  | nil => exact h
  | cons ev events ih => exact ih (h.next ev)

section Frames

omit [Platform]

def appliedFrame (a : Event × Int) : Option (String × SseFrame) :=
  (feedGuidForEvent (localEvent a)).map fun feedGuid => (feedGuid, eventFrame (localEvent a))

theorem eventFrames_applied (applied : List (Event × Int)) :
    eventFrames (applied.map localEvent) = applied.filterMap appliedFrame := by
  unfold eventFrames
  rw [List.filterMap_map]
  rfl

theorem appliedFrame_seq {a : Event × Int} {f : String × SseFrame} (h : appliedFrame a = some f) :
    f.2.seq = a.2 := by
  unfold appliedFrame at h
  rcases hch : feedGuidForEvent (localEvent a) with _ | feedGuid
  · rw [hch] at h
    cases h
  · rw [hch, Option.map_some, Option.some.injEq] at h
    rw [← h]
    rfl

theorem appliedFrame_not_later {a : Event × Int} {as : List (Event × Int)}
    {f : String × SseFrame} (hf : f.2.seq = a.2) (hlater : ∀ x ∈ as, a.2 < x.2) :
    f ∉ as.filterMap appliedFrame := by
  intro hmem
  obtain ⟨x, hx, hframe⟩ := List.mem_filterMap.mp hmem
  have hseq := appliedFrame_seq hframe
  have hlt := hlater x hx
  omega

/-- The applied events of two batches, in the same order and with the same local seqs. -/
def SameApplied : List (Event × Int) → List (Event × Int) → Prop :=
  List.Forall₂ fun a a' => SameSigned a.1 a'.1 ∧ a'.2 = a.2

theorem SameApplied.seqs {as as' : List (Event × Int)} (h : SameApplied as as') :
    as'.map Prod.snd = as.map Prod.snd := by
  induction h with
  | nil => rfl
  | cons ha _ ih => rw [List.map_cons, List.map_cons, ha.2, ih]

theorem SameApplied.later {as as' : List (Event × Int)} (h : SameApplied as as') {seq : Int}
    (hlater : ∀ x ∈ as, seq < x.2) : ∀ x ∈ as', seq < x.2 := by
  intro x hx
  have hmem : x.2 ∈ as.map Prod.snd := by
    rw [← h.seqs]
    exact List.mem_map_of_mem hx
  obtain ⟨y, hy, hyx⟩ := List.mem_map.mp hmem
  rw [← hyx]
  exact hlater y hy

/-- The channels take the same payloads from the one list as from the other. -/
def AppliedAlike : List String → List (Event × Int) → List (Event × Int) → Prop
  | senders, a :: as, a' :: as' =>
    published senders a.1 = published senders a'.1 ∧ AppliedAlike (sendersAfter senders a.1) as as'
  | _, _, _ => True

/-- The frame that a channel takes from an applied event. -/
def takenFrame (a : Event × Int) (x : String × TypedPayload) : String × SseFrame :=
  (x.1, eventFrame (localEvent ({ a.1 with typed := x.2 }, a.2)))

theorem published_some {senders : List String} {ev : Event} {x : String × TypedPayload}
    (h : published senders ev = some x) :
    feedGuidForEvent ev = some x.1 ∧ canSend senders x.1 = true ∧ ev.typed = x.2 := by
  unfold published at h
  split at h
  · rename_i feedGuid hfeed
    split at h
    · rename_i hsend
      cases h
      exact ⟨hfeed, hsend, rfl⟩
    · cases h
  · cases h

theorem publishSseFrames_taken {registry : SseRegistry} {a : Event × Int}
    {x : String × TypedPayload} (h : published registry.senders a.1 = some x)
    (as : List (Event × Int)) :
    publishSseFrames registry ((a :: as).filterMap appliedFrame) =
      (takenFrame a x :: (publishSseFrames (registry.publish x.1 (takenFrame a x).2)
          (as.filterMap appliedFrame)).1,
        (publishSseFrames (registry.publish x.1 (takenFrame a x).2)
          (as.filterMap appliedFrame)).2) := by
  obtain ⟨hfeed, hsend, htyped⟩ := published_some h
  have hframe : appliedFrame a = some (takenFrame a x) := by
    have hch : feedGuidForEvent (localEvent a) = feedGuidForEvent a.1 := rfl
    rw [appliedFrame, hch, hfeed, takenFrame, ← htyped]
    rfl
  rw [List.filterMap_cons_some hframe, publishSseFrames_sent hsend]
  rfl

theorem publishSseFrames_untaken {registry : SseRegistry} {a : Event × Int}
    (h : published registry.senders a.1 = none) (as : List (Event × Int)) :
    publishSseFrames registry ((a :: as).filterMap appliedFrame) =
      publishSseFrames registry (as.filterMap appliedFrame) := by
  have hch : feedGuidForEvent (localEvent a) = feedGuidForEvent a.1 := rfl
  unfold published at h
  split at h
  · rename_i feedGuid hfeed
    split at h
    · cases h
    · rename_i hsend
      rw [List.filterMap_cons_some (b := (feedGuid, eventFrame (localEvent a)))
        (by rw [appliedFrame, hch, hfeed]; rfl), publishSseFrames_dropped (by simpa using hsend)]
  · rename_i hfeed
    rw [List.filterMap_cons_none (by rw [appliedFrame, hch, hfeed]; rfl)]

theorem publish_sendersAfter {registry : SseRegistry} {ev : Event} {x : String × TypedPayload}
    (h : published registry.senders ev = some x) (frame : SseFrame) :
    (registry.publish x.1 frame).senders = sendersAfter registry.senders ev := by
  rw [SseRegistry.publish_senders (published_some h).2.1, sendersAfter, h]

theorem takenFrame_congr {a a' : Event × Int} (h : SameSigned a.1 a'.1) (hseq : a'.2 = a.2)
    (x : String × TypedPayload) : takenFrame a' x = takenFrame a x := by
  unfold takenFrame
  rw [← h, hseq]

theorem AppliedAlike.publish {as as' : List (Event × Int)} (h : SameApplied as as')
    {registry : SseRegistry} (halike : AppliedAlike registry.senders as as') :
    publishSseFrames registry (as.filterMap appliedFrame) =
      publishSseFrames registry (as'.filterMap appliedFrame) := by
  induction h generalizing registry with
  | nil => rfl
  | @cons a a' as as' ha _ ih =>
    obtain ⟨hone, hrest⟩ := halike
    rcases hx : published registry.senders a.1 with _ | x
    · rw [sendersAfter, hx] at hrest
      rw [publishSseFrames_untaken hx, publishSseFrames_untaken (hone ▸ hx)]
      exact ih hrest
    · rw [← publish_sendersAfter hx (takenFrame a x).2] at hrest
      rw [publishSseFrames_taken hx, publishSseFrames_taken (hone ▸ hx),
        takenFrame_congr ha.1 ha.2 x, ih hrest]

theorem AppliedAlike.of_sent {as as' : List (Event × Int)} (h : SameApplied as as')
    (hup : as.Pairwise fun a a' => a.2 < a'.2) {registry : SseRegistry}
    (hsent : (publishSseFrames registry (as.filterMap appliedFrame)).1 =
      (publishSseFrames registry (as'.filterMap appliedFrame)).1) :
    AppliedAlike registry.senders as as' := by
  induction h generalizing registry with
  | nil => trivial
  | @cons a a' as as' ha hrest ih =>
    obtain ⟨hlater, hup⟩ := List.pairwise_cons.mp hup
    have hlater' : ∀ x ∈ as', a'.2 < x.2 := by
      rw [ha.2]
      exact SameApplied.later hrest hlater
    have hseq : ∀ x, (takenFrame a x).2.seq = a.2 := fun _ => rfl
    have hseq' : ∀ x, (takenFrame a' x).2.seq = a'.2 := fun _ => rfl
    rcases hx : published registry.senders a.1 with _ | x <;>
      rcases hx' : published registry.senders a'.1 with _ | x'
    · rw [publishSseFrames_untaken hx, publishSseFrames_untaken hx'] at hsent
      refine ⟨hx.trans hx'.symm, ?_⟩
      rw [sendersAfter, hx]
      exact ih hup hsent
    · rw [publishSseFrames_untaken hx, publishSseFrames_taken hx'] at hsent
      have hmem : takenFrame a' x' ∈ as.filterMap appliedFrame := by
        apply @mem_of_mem_publishSseFrames registry
        rw [hsent]
        exact List.mem_cons_self
      exact absurd hmem (appliedFrame_not_later ((hseq' x').trans ha.2) hlater)
    · rw [publishSseFrames_taken hx, publishSseFrames_untaken hx'] at hsent
      have hmem : takenFrame a x ∈ as'.filterMap appliedFrame := by
        apply @mem_of_mem_publishSseFrames registry
        rw [← hsent]
        exact List.mem_cons_self
      exact absurd hmem (appliedFrame_not_later ((hseq x).trans ha.2.symm) hlater')
    · rw [publishSseFrames_taken hx, publishSseFrames_taken hx'] at hsent
      obtain ⟨hhead, htail⟩ := List.cons.inj hsent
      have hsame : x = x' := by
        rw [takenFrame_congr ha.1 ha.2] at hhead
        simp only [takenFrame, eventFrame, localEvent, Prod.mk.injEq, SseFrame.mk.injEq,
          SsePayload.event.injEq, true_and, and_true] at hhead
        exact Prod.ext hhead.1 hhead.2
      subst hsame
      refine ⟨hx.trans hx'.symm, ?_⟩
      rw [takenFrame_congr ha.1 ha.2] at htail
      rw [← publish_sendersAfter hx (takenFrame a x).2]
      exact ih hup htail

/-- The seq of a snapshot event of the feed, from its typed payload. -/
def snapshotSeq (feedGuid : String) (seq : Int) : EventPayload → Option Int
  | .liveEventsReplaced p => if p.feedGuid == feedGuid then some seq else none
  | _ => none

theorem snapshotSeq_channel {feedGuid : String} {seq : Int} {payload : EventPayload}
    (h : snapshotSeq feedGuid seq payload ≠ none) : payload.channel = some feedGuid := by
  unfold snapshotSeq at h
  split at h
  · split at h
    · rename_i p hfeed
      rw [EventPayload.channel, beq_iff_eq.mp hfeed]
    · exact absurd rfl h
  · exact absurd rfl h

theorem snapshotSeq_published {senders : List String} {feedGuid : String}
    (hsend : canSend senders feedGuid = true) (ev : Event) (seq : Int) :
    snapshotSeq feedGuid seq ev.payload =
      (published senders ev).bind fun x => snapshotSeq feedGuid seq x.2.payload := by
  by_cases h : snapshotSeq feedGuid seq ev.payload = none
  · rw [h]
    unfold published
    split
    · split
      · exact h.symm
      · rfl
    · rfl
  · have hch : feedGuidForEvent ev = some feedGuid := snapshotSeq_channel h
    simp only [published, hch, hsend, if_true, Option.bind_some]

theorem AppliedAlike.snapshotSeqs {as as' : List (Event × Int)} (h : SameApplied as as')
    {registry : SseRegistry} (halike : AppliedAlike registry.senders as as') {feedGuid : String}
    (hsend : canSend
      (publishSseFrames registry (as.filterMap appliedFrame)).2.senders feedGuid = true) :
    (as.filterMap fun a => snapshotSeq feedGuid a.2 a.1.payload) =
      as'.filterMap fun a => snapshotSeq feedGuid a.2 a.1.payload := by
  induction h generalizing registry with
  | nil => rfl
  | @cons a a' as as' ha _ ih =>
    have hbefore := canSend_of_publishSseFrames hsend
    obtain ⟨hone, hrest⟩ := halike
    have hsnapshot : snapshotSeq feedGuid a.2 a.1.payload =
        snapshotSeq feedGuid a'.2 a'.1.payload := by
      rw [snapshotSeq_published hbefore, snapshotSeq_published hbefore, hone, ha.2]
    have hlater : (as.filterMap fun a => snapshotSeq feedGuid a.2 a.1.payload) =
        as'.filterMap fun a => snapshotSeq feedGuid a.2 a.1.payload := by
      rcases hx : published registry.senders a.1 with _ | x
      · rw [publishSseFrames_untaken hx] at hsend
        rw [sendersAfter, hx] at hrest
        exact ih hrest hsend
      · rw [publishSseFrames_taken hx] at hsend
        rw [← publish_sendersAfter hx (takenFrame a x).2] at hrest
        exact ih hrest hsend
    rw [List.filterMap_cons, List.filterMap_cons, hsnapshot, hlater]

theorem liveSnapshotSeq_applied (feedGuid : String) (as : List (Event × Int)) :
    liveSnapshotSeq feedGuid (as.map localEvent) =
      (as.filterMap fun a => snapshotSeq feedGuid a.2 a.1.payload).max? := by
  unfold liveSnapshotSeq
  rw [List.filterMap_map]
  rfl

theorem mem_buildLiveSseFramesForFeed {feedGuid : String} {old new : List LiveEvent}
    {events : List Event} {f : String × SseFrame}
    (hf : f ∈ buildLiveSseFramesForFeed feedGuid old new events) :
    f.1 = feedGuid ∧ ∀ typed, f.2.payload ≠ .event typed := by
  unfold buildLiveSseFramesForFeed at hf
  split at hf
  · rcases List.mem_append.mp hf with hf | hf
    · obtain ⟨e, -, rfl⟩ := List.mem_map.mp hf
      exact ⟨rfl, fun _ h => by cases h⟩
    · obtain ⟨e, -, rfl⟩ := List.mem_map.mp hf
      exact ⟨rfl, fun _ h => by cases h⟩
  · cases hf

def Batch.liveFrames (b : Batch) : List (String × SseFrame) :=
  b.pendingLiveSseDiffs.flatMap fun diff =>
    buildLiveSseFramesForFeed diff.feedGuid diff.oldLiveEvents diff.newLiveEvents
      (b.applied.map localEvent)

theorem Batch.frames_eq (b : Batch) :
    b.frames = b.applied.filterMap appliedFrame ++ b.liveFrames := by
  rw [Batch.frames, eventFrames_applied]
  rfl

theorem publishSseFrames_live {events events' : List Event} (diffs : List PendingLiveSseDiff)
    {registry : SseRegistry} (h : ∀ feedGuid, canSend registry.senders feedGuid = true →
      liveSnapshotSeq feedGuid events = liveSnapshotSeq feedGuid events') :
    publishSseFrames registry (diffs.flatMap fun diff => buildLiveSseFramesForFeed diff.feedGuid
        diff.oldLiveEvents diff.newLiveEvents events) =
      publishSseFrames registry (diffs.flatMap fun diff => buildLiveSseFramesForFeed diff.feedGuid
        diff.oldLiveEvents diff.newLiveEvents events') := by
  induction diffs generalizing registry with
  | nil => rfl
  | cons diff diffs ih =>
    rw [List.flatMap_cons, List.flatMap_cons, publishSseFrames_append, publishSseFrames_append]
    cases hsend : canSend registry.senders diff.feedGuid with
    | true =>
      have hbuild : ∀ old new, buildLiveSseFramesForFeed diff.feedGuid old new events =
          buildLiveSseFramesForFeed diff.feedGuid old new events' := by
        intro old new
        unfold buildLiveSseFramesForFeed
        rw [h diff.feedGuid hsend]
      rw [hbuild, ih fun feedGuid hlater => h feedGuid (canSend_of_publishSseFrames hlater)]
    | false =>
      rw [publishSseFrames_full hsend fun f hf => (mem_buildLiveSseFramesForFeed hf).1,
        publishSseFrames_full hsend fun f hf => (mem_buildLiveSseFramesForFeed hf).1, ih h]

def SsePayload.isEvent : SsePayload → Bool
  | .event _ => true
  | .live .. => false

theorem sent_filter (registry : SseRegistry) (b : Batch) :
    (publishSseFrames registry b.frames).1.filter (fun f => f.2.payload.isEvent) =
      (publishSseFrames registry (b.applied.filterMap appliedFrame)).1 := by
  rw [b.frames_eq, publishSseFrames_append, List.filter_append]
  have hevents : (publishSseFrames registry (b.applied.filterMap appliedFrame)).1.filter
      (fun f => f.2.payload.isEvent) =
      (publishSseFrames registry (b.applied.filterMap appliedFrame)).1 := by
    rw [List.filter_eq_self]
    intro f hf
    obtain ⟨a, -, hframe⟩ := List.mem_filterMap.mp (mem_of_mem_publishSseFrames hf)
    obtain ⟨feedGuid, -, rfl⟩ := Option.map_eq_some_iff.mp hframe
    rfl
  have hlive : (publishSseFrames (publishSseFrames registry
      (b.applied.filterMap appliedFrame)).2 b.liveFrames).1.filter
      (fun f => f.2.payload.isEvent) = [] := by
    rw [List.filter_eq_nil_iff]
    intro f hf
    obtain ⟨diff, -, hframe⟩ := List.mem_flatMap.mp (mem_of_mem_publishSseFrames hf)
    rcases hpayload : f.2.payload with typed | _
    · exact absurd hpayload ((mem_buildLiveSseFramesForFeed hframe).2 typed)
    · simp [SsePayload.isEvent]
  rw [hevents, hlive, List.append_nil]

theorem SameBatch.publish_iff {b b' : Batch} (h : SameBatch b b')
    (hup : b.applied.Pairwise fun a a' => a.2 < a'.2) (registry : SseRegistry) :
    publishSseFrames registry b.frames = publishSseFrames registry b'.frames ↔
      AppliedAlike registry.senders b.applied b'.applied := by
  constructor
  · intro heq
    apply AppliedAlike.of_sent h.applied hup
    rw [← sent_filter, ← sent_filter, heq]
  · intro halike
    have hevents := AppliedAlike.publish h.applied halike
    have hlive : publishSseFrames (publishSseFrames registry
        (b.applied.filterMap appliedFrame)).2 b.liveFrames =
        publishSseFrames (publishSseFrames registry
          (b.applied.filterMap appliedFrame)).2 b'.liveFrames := by
      unfold Batch.liveFrames
      rw [h.diffs]
      apply publishSseFrames_live
      intro feedGuid hsend
      rw [liveSnapshotSeq_applied, liveSnapshotSeq_applied,
        AppliedAlike.snapshotSeqs h.applied halike hsend]
    rw [b.frames_eq, b'.frames_eq, publishSseFrames_append, publishSseFrames_append, ← hevents,
      hlive]

end Frames

/-- The event is new and its application gives no error. -/
def IsApplied (ev : Event) (d : Db) : Prop :=
  isNew d ev = true ∧ (applySingleEventInner ev d).1.isOk = true

instance (ev : Event) (d : Db) : Decidable (IsApplied ev d) :=
  inferInstanceAs (Decidable
    (isNew d ev = true ∧ (applySingleEventInner ev d).1.isOk = true))

/-- Where the loop applies an event, a channel takes one payload from both typed payloads, or
none takes a frame of either. -/
def PublishAlike : List String → List Event → List Event → Db → Prop
  | senders, ev :: events, ev' :: events', d =>
    (IsApplied ev d → published senders ev = published senders ev') ∧
      PublishAlike (if IsApplied ev d then sendersAfter senders ev else senders) events events'
        (applyOne ev d)
  | _, _, _, _ => True

omit [Platform] in
theorem appliedAlike_append {senders : List String} {as as' : List (Event × Int)}
    (hlen : as.length = as'.length) (bs bs' : List (Event × Int)) :
    AppliedAlike senders (as ++ bs) (as' ++ bs') ↔
      AppliedAlike senders as as' ∧
        AppliedAlike (as.foldl (fun senders a => sendersAfter senders a.1) senders) bs bs' := by
  induction as generalizing as' senders with
  | nil =>
    rw [List.length_eq_zero_iff.mp hlen.symm]
    simp [AppliedAlike]
  | cons a as ih =>
    obtain ⟨a', as', rfl⟩ := List.exists_of_length_succ as' hlen.symm
    rw [List.cons_append, List.cons_append, AppliedAlike, AppliedAlike,
      ih (Nat.succ.inj hlen), and_assoc]
    rfl

theorem gather_appliedAlike {events events' : List Event}
    (hevents : List.Forall₂ SameSigned events events') {b b' : Batch}
    (hlen : b.applied.length = b'.applied.length) (senders : List String) (d : Db) :
    AppliedAlike senders (b.gather events d).applied (b'.gather events' d).applied ↔
      AppliedAlike senders b.applied b'.applied ∧
        PublishAlike (b.applied.foldl (fun senders a => sendersAfter senders a.1) senders)
          events events' d := by
  induction hevents generalizing b b' d with
  | nil => simp [Batch.gather, PublishAlike]
  | @cons ev ev' events events' hev _ ih =>
    change AppliedAlike senders ((b.next ev d).gather events (applyOne ev d)).applied
      ((b'.next ev' d).gather events' (applyOne ev' d)).applied ↔ _
    rw [hev.applyOne]
    have hnext : ∀ r : Except DbError ApplyOutcome, (applySingleEventInner ev d).1 = r →
        (b.next ev d).applied = (b.record ev r).applied ∧
          (b'.next ev' d).applied = (b'.record ev' r).applied := by
      intro r hr
      unfold Batch.next
      rw [hev.inner, hr]
      rcases r with e | (_ | _) <;> exact ⟨rfl, rfl⟩
    by_cases happlied : IsApplied ev d
    · obtain ⟨h₁, h₂⟩ := hnext _ (applySingleEventInner_isOk happlied.1 happlied.2)
      rw [ih (by rw [h₁, h₂]; simp [Batch.record, hlen]), h₁, h₂]
      simp only [Batch.record]
      rw [appliedAlike_append hlen, List.foldl_append, PublishAlike, if_pos happlied, and_assoc]
      simp only [AppliedAlike, and_true, List.foldl_cons, List.foldl_nil, happlied,
        forall_const]
    · have hsame : (b.next ev d).applied = b.applied ∧ (b'.next ev' d).applied = b'.applied := by
        rcases hrun : (applySingleEventInner ev d).1 with e | (seq | _)
        · exact hnext _ hrun
        · refine absurd ?_ happlied
          exact ⟨(applySingleEventInner_applied hrun).1, by rw [hrun]; rfl⟩
        · exact hnext _ hrun
      rw [ih (by rw [hsame.1, hsame.2, hlen]), hsame.1, hsame.2, PublishAlike, if_neg happlied]
      simp only [happlied, false_implies, true_and]

/-- Two batches that differ in the typed payloads alone: the database and the counts are the
same.  The publication is the same if and only if each event that the batch applies has one
payload for one channel in both, where a channel of the registry takes it. -/
theorem typed_payload_reaches_frames_only {events events' : List Event}
    (hsame : List.Forall₂ SameSigned events events') (commits : Bool)
    (sseRegistry : Option SseRegistry) (d : Db) :
    (applyEvents commits events d).2 = (applyEvents commits events' d).2 ∧
      (applyEvents commits events d).1.summary = (applyEvents commits events' d).1.summary ∧
      ((applyEvents commits events d).1.publish sseRegistry =
          (applyEvents commits events' d).1.publish sseRegistry ↔
        (Commits commits events → ∀ registry, sseRegistry = some registry →
          PublishAlike registry.senders (verifiedOf events) (verifiedOf events') d)) := by
  have hlen : events'.length = events.length := hsame.length_eq.symm
  by_cases hcommits : Commits commits events
  · have hcommits' := (SameSigned.commits hsame).mpr hcommits
    have hverified := SameSigned.verifiedOf hsame
    have hstart : SameBatch Batch.start Batch.start := ⟨.nil, rfl, rfl, rfl, rfl, rfl⟩
    have hbatch := hstart.gather hverified d
    have hup : SeqsGoUp Batch.start d := ⟨.nil, fun _ h => (List.not_mem_nil h).elim⟩
    have happlied := hbatch.applied.length_eq
    rw [applyEvents_run hcommits, applyEvents_run hcommits']
    refine ⟨?_, ?_, ?_⟩
    · simp only [committed, hbatch.maxPrimarySeq, SameSigned.applyEach hverified]
    · simp only [happlied, hbatch.duplicate, hbatch.rejected, hbatch.maxSeq, hlen,
        hverified.length_eq]
    · cases sseRegistry with
      | none => simp [ApplyResult.publish]
      | some registry =>
        have hiff := hbatch.publish_iff (hup.gather _).pairwise registry
        rw [gather_appliedAlike hverified rfl] at hiff
        simp only [ApplyResult.publish, SsePublication.mk.injEq, Option.some.injEq,
          ← Prod.ext_iff, hiff, hcommits, forall_const, forall_eq']
        simp [Batch.start, AppliedAlike]
  · have hcommits' : ¬ Commits commits events' := fun h =>
      hcommits ((SameSigned.commits hsame).mp h)
    rw [applyEvents_failed hcommits, applyEvents_failed hcommits', hlen]
    simp [hcommits]

end

section Sample

attribute [local instance] samplePlatform

/-- The first sample event with the typed payload of the second one. -/
def observedRetyped : Event := { observedFirst with typed := observedSecond.typed }

/-- With no registry nothing is published of either event; a registry with room tells them
apart. -/
theorem observedFirst_reaches_frames_only :
    (applyEvents true [observedFirst] (Database.empty schema)).2 =
        (applyEvents true [observedRetyped] (Database.empty schema)).2 ∧
      (applyEvents true [observedFirst] (Database.empty schema)).1.summary =
        (applyEvents true [observedRetyped] (Database.empty schema)).1.summary ∧
      (applyEvents true [observedFirst] (Database.empty schema)).1.publish none =
        (applyEvents true [observedRetyped] (Database.empty schema)).1.publish none ∧
      (applyEvents true [observedFirst] (Database.empty schema)).1.publish (some .empty) ≠
        (applyEvents true [observedRetyped] (Database.empty schema)).1.publish (some .empty) := by
  have hsame : List.Forall₂ SameSigned [observedFirst] [observedRetyped] :=
    .cons (by decide) .nil
  obtain ⟨hdb, hsummary, hnone⟩ :=
    typed_payload_reaches_frames_only hsame true none (Database.empty schema)
  obtain ⟨-, -, hsome⟩ :=
    typed_payload_reaches_frames_only hsame true (some .empty) (Database.empty schema)
  refine ⟨hdb, hsummary, hnone.mpr (fun _ _ h => by cases h), fun heq => ?_⟩
  have halike := (hsome.mp heq (by decide +kernel) _ rfl).1 (by decide +kernel)
  exact absurd halike (by decide +kernel)

/-- A typed payload that the signed text does not carry reaches the event stream, on
the channel of a feed that it names. -/
theorem observedRetyped_published :
    SameSigned observedFirst observedRetyped ∧
      verifyEventSignature observedRetyped = true ∧
      ((applyEvents true [observedFirst] (Database.empty schema)).1.publish
        (some .empty)).sent.map Prod.fst = ["g1"] ∧
      ((applyEvents true [observedRetyped] (Database.empty schema)).1.publish
        (some .empty)).sent.map Prod.fst = ["g2"] ∧
      (applyEvents true [observedFirst] (Database.empty schema)).1.publish (some .empty) ≠
        (applyEvents true [observedRetyped] (Database.empty schema)).1.publish (some .empty) := by
  decide +kernel

end Sample

end Stophammer
