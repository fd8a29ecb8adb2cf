import Stophammer.SyncCursor

/-!
# The signer that a community node trusts

The signature of an event is checked against the key that the event names.  The push
handler drops the events of other keys before that; the poll loop does not.
-/

namespace Stophammer

open Relational Statement

section

variable [Platform]

/-- An event of the primary, with a signature that verifies under its key. -/
def Trusted (cfg : CommunityConfig) (ev : Event) : Prop :=
  ev.signedBy = cfg.primaryPubkeyHex ∧ verifyEventSignature ev = true

/-- The change is what a batch of trusted events gives. -/
def OnlyThroughTrusted (cfg : CommunityConfig) (d d' : Db) : Prop :=
  ∃ events, (∀ ev ∈ events, Trusted cfg ev) ∧ d' = committed events d

def LogTrusted (cfg : CommunityConfig) (d : Db) : Prop :=
  ∀ r ∈ d .events, ∃ ev, Trusted cfg ev ∧ r = storedEvent r.seq ev

/-- A poll response has no event that verifies under a key other than the primary's. -/
def AnswersTrusted (cfg : CommunityConfig) : NodeInput → Prop
  | .answer _ (some response) =>
    ∀ ev ∈ response.events, verifyEventSignature ev = true → ev.signedBy = cfg.primaryPubkeyHex
  | _ => True

theorem delivered_trusted {cfg : CommunityConfig} {n : CommunityNode} {i : NodeInput}
    (hi : AnswersTrusted cfg i) {ev : Event} (hev : ev ∈ verifiedOf (n.delivered cfg i)) :
    Trusted cfg ev := by
  obtain ⟨hmem, hver⟩ := List.mem_filter.mp hev
  refine ⟨?_, hver⟩
  cases i with
  | push now commits events =>
    simp only [CommunityNode.delivered] at hmem
    split at hmem
    · cases hmem
    · have hname := (List.mem_filter.mp hmem).2
      rwa [beq_iff_eq] at hname
  | answer commits answer =>
    cases answer with
    | none => cases hmem
    | some response =>
      simp only [CommunityNode.delivered] at hmem
      split at hmem
      · exact hi ev hmem hver
      · cases hmem
  | wake _ | advance _ | restart _ => cases hmem

theorem committed_nil (d : Db) : committed [] d = d := rfl

theorem step_onlyThroughTrusted {cfg : CommunityConfig} {i : NodeInput}
    (hi : AnswersTrusted cfg i) (n : CommunityNode) :
    OnlyThroughTrusted cfg n.db (n.step cfg i).db := by
  rw [CommunityNode.step_db, applyEvents_db]
  split
  · exact ⟨_, fun _ hev => delivered_trusted hi hev, rfl⟩
  · exact ⟨[], fun _ hev => (List.not_mem_nil hev).elim, (committed_nil n.db).symm⟩

theorem OnlyThroughTrusted.log {cfg : CommunityConfig} {d d' : Db} (hlog : LogTrusted cfg d)
    (h : OnlyThroughTrusted cfg d d') : LogTrusted cfg d' := by
  obtain ⟨events, htrusted, rfl⟩ := h
  intro r hr
  unfold committed at hr
  rw [withBatchCursor_other _ _ (by decide)] at hr
  rcases mem_applyEach hr with hold | ⟨ev, hev, hrow⟩
  · exact hlog r hold
  · exact ⟨ev, htrusted ev hev, hrow⟩

theorem run_log {cfg : CommunityConfig} {inputs : List NodeInput}
    (hin : ∀ i ∈ inputs, AnswersTrusted cfg i) {n : CommunityNode} (hlog : LogTrusted cfg n.db) :
    LogTrusted cfg (n.run cfg inputs).db := by
  induction inputs generalizing n with
  | nil => exact hlog
  | cons i inputs ih =>
    apply ih
    · exact fun j hj => hin j (by simp [hj])
    · exact (step_onlyThroughTrusted (hin i (by simp)) n).log hlog

/-- Where no poll response has a valid event of another key, every state of a run
comes from trusted events alone: each change, and each row of the log. -/
theorem run_onlyThroughTrusted {cfg : CommunityConfig} {inputs : List NodeInput}
    (hin : ∀ i ∈ inputs, AnswersTrusted cfg i) :
    LogTrusted cfg (CommunityNode.fresh.run cfg inputs).db ∧
      ∀ pre i post, inputs = pre ++ i :: post →
        OnlyThroughTrusted cfg (CommunityNode.fresh.run cfg pre).db
          (CommunityNode.fresh.run cfg (pre ++ [i])).db := by
  constructor
  · exact run_log hin fun _ hr => (List.not_mem_nil hr).elim
  · intro pre i post heq
    have hi : AnswersTrusted cfg i := hin i (by rw [heq]; simp)
    have hstep : CommunityNode.fresh.run cfg (pre ++ [i]) =
        (CommunityNode.fresh.run cfg pre).step cfg i := by
      simp only [CommunityNode.run, List.foldl_append, List.foldl_cons, List.foldl_nil]
    rw [hstep]
    exact step_onlyThroughTrusted hi _

end

section Sample

attribute [local instance] samplePlatform

/-- A page with one event, whose signature verifies under another key. -/
def strangerPage : SyncEventsResponse where
  events := [strangerObserved]
  hasMore := false
  nextSeq := 1

theorem firstPage_onlyThroughTrusted :
    LogTrusted sampleConfig (CommunityNode.fresh.run sampleConfig
        [.wake 100, .answer true (some firstPage), .push 101 true [strangerObserved]]).db ∧
      ∀ pre i post,
        [.wake 100, .answer true (some firstPage), .push 101 true [strangerObserved]] =
          pre ++ i :: post →
        OnlyThroughTrusted sampleConfig (CommunityNode.fresh.run sampleConfig pre).db
          (CommunityNode.fresh.run sampleConfig (pre ++ [i])).db := by
  apply run_onlyThroughTrusted
  intro i hi
  simp only [List.mem_cons, List.not_mem_nil, or_false] at hi
  rcases hi with rfl | rfl | rfl
  · trivial
  · intro ev hev _
    have hsigned : ∀ ev ∈ firstPage.events, ev.signedBy = sampleConfig.primaryPubkeyHex := by
      decide
    exact hsigned ev hev
  · trivial

/-- The poll loop applies an event of another key.  The push handler drops it. -/
theorem strangerPage_applied :
    (CommunityNode.fresh.run sampleConfig [.push 100 true [strangerObserved]]).db .events = [] ∧
      (CommunityNode.fresh.run sampleConfig
        [.wake 100, .answer true (some strangerPage)]).db .events = [logRow strangerObserved] ∧
      ¬ LogTrusted sampleConfig (CommunityNode.fresh.run sampleConfig
        [.wake 100, .answer true (some strangerPage)]).db ∧
      ¬ OnlyThroughTrusted sampleConfig
        (CommunityNode.fresh.run sampleConfig [.wake 100]).db
        (CommunityNode.fresh.run sampleConfig [.wake 100, .answer true (some strangerPage)]).db := by
  have hrows : (CommunityNode.fresh.run sampleConfig
      [.wake 100, .answer true (some strangerPage)]).db .events = [logRow strangerObserved] := by
    decide +kernel
  have hlog : ¬ LogTrusted sampleConfig (CommunityNode.fresh.run sampleConfig
      [.wake 100, .answer true (some strangerPage)]).db := by
    intro h
    obtain ⟨ev, ⟨hname, -⟩, hrow⟩ := h (logRow strangerObserved) (by rw [hrows]; simp)
    have hsigner : (logRow strangerObserved).signedBy = ev.signedBy := by rw [hrow]; rfl
    rw [hname] at hsigner
    exact absurd hsigner (by decide)
  refine ⟨by decide +kernel, hrows, hlog, fun h => hlog (h.log ?_)⟩
  intro r hr
  exact (List.not_mem_nil hr).elim

end Sample

end Stophammer
