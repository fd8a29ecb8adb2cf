import Mathlib.Data.List.Dedup
import Stophammer.ReturnWaits

/-!
# Sources that keep their tags

When each URL serves the same new-feed-url tag at all times, the arrival tag of a record is
the tag of its source.  So no declaration takes the record back, and it moves on until it has
been at each URL.
-/

namespace Stophammer

open Relational Statement

/-- The declared URL is the tag of the source, and so is the arrival tag of a record that left
a URL. -/
structure Record.Steady (tag : String → Option String) (r : Record) : Prop where
  declared : ∀ row, r.row = some row → row.declaredNewFeedUrl = tag row.feed.feedUrl
  arrived : ∀ url left, r.feedUrl = some url → r.left left →
    ∃ m, r.move = some m ∧ m.arrivalTag = tag url ∧ m.arrivalPending = false

theorem Record.steady_empty {tag : String → Option String} : Record.empty.Steady tag where
  declared _ h := by cases h
  arrived _ _ h := by cases h

/-- The URL of a submission of the GUID. -/
def Operation.submittedUrl (guid : String) : Operation → Option String
  | .ingest _ _ req =>
    if req.feedData.map IngestFeedData.feedGuid = some guid then some req.sourceUrl else none
  | _ => none

section

variable [Platform] {d : Db} {guid : String} {tag : String → Option String}

/-- The record stays, and each submission of it names one URL, reports no redirect and carries
the tag of that URL. -/
structure Operation.ServesTags (guid : String) (tag : String → Option String) (d : Db)
    (operation : Operation) : Prop where
  leaves : operation.LeavesRecord guid d
  plain : ∀ env snapshot req body, operation = .ingest env snapshot req →
    req.feedData = some body → body.feedGuid = guid →
      req.canonicalUrl = req.sourceUrl ∧ req.redirects = [] ∧
        body.newFeedUrl = tag req.sourceUrl

theorem ReachesContent.inPlace {env : IngestEnv} {snapshot : Db} {req : IngestFeedRequest}
    {body : IngestFeedData} (h : ReachesContent env snapshot d req body)
    (hmove : admittedMove env req body d = none) {url : String}
    (hurl : (record d body.feedGuid).feedUrl = some url) :
    url = req.sourceUrl ∨ url = req.canonicalUrl := by
  have hadmits := h.admits
  rw [feedUrl_getFeedByGuid] at hurl
  obtain ⟨stored, hstored, rfl⟩ := Option.map_eq_some_iff.mp hurl
  unfold admitsContent at hadmits
  cases hclass : classifySubmission d body.feedGuid req.sourceUrl req.canonicalUrl with
  | update =>
    obtain ⟨-, feed, hfeed, howns⟩ := classifySubmission_update.mp hclass
    rw [hstored] at hfeed
    cases hfeed
    exact howns
  | mirror source =>
    rw [hclass] at hadmits
    unfold admittedMove at hmove
    cases hdecision : moveTarget d body.feedGuid req.sourceUrl req.canonicalUrl req.redirects
        body (env.now .writeMove) with
    | move target =>
      rw [hdecision, hstored] at hmove
      cases hmove
    | noTrigger =>
      rw [hdecision] at hadmits
      cases hadmits
    | refused target =>
      rw [hdecision] at hadmits
      cases hadmits
    | waitingRedirect target =>
      rw [hdecision] at hadmits
      cases hadmits
  | recordConflict =>
    rw [hclass] at hadmits
    cases hadmits
  | guidChange heldGuid =>
    rw [(classifySubmission_guidChange hclass).1] at hstored
    cases hstored
  | newFeed =>
    rw [(classifySubmission_newFeed.mp hclass).2] at hstored
    cases hstored

/-- What a step does to the URL of a record whose sources keep their tags. -/
inductive Record.Takes (before after : Record) (operation : Operation) (guid : String) : Prop
  | stays (same : after.feedUrl = before.feedUrl)
  | admitted (url : String) (absent : before.row = none) (now : after.feedUrl = some url)
      (submits : operation.submittedUrl guid = some url)
  | moved (oldUrl newUrl : String) (old : before.feedUrl = some oldUrl)
      (now : after.feedUrl = some newUrl) (elsewhere : newUrl ≠ oldUrl)
      (fresh : ¬ before.left newUrl) (submits : operation.submittedUrl guid = some newUrl)

theorem Record.Steady.fresh {env : IngestEnv} {req : IngestFeedRequest} {body : IngestFeedData}
    {target : MoveTarget} (h : (record d body.feedGuid).Steady tag)
    (hmove : DeclaredMove d body.feedGuid req.sourceUrl req.canonicalUrl body
      (env.now .writeMove) target) :
    ¬ (record d body.feedGuid).left target.newFeedUrl := by
  intro hleft
  obtain ⟨stored, hurl, -, -⟩ := hmove.mirror
  obtain ⟨htrigger, -, harrival, -, -⟩ := hmove.returns hleft
  have hnamed := mirrorTarget_newFeedUrl hmove.declared htrigger
  obtain ⟨row, hrow, rfl⟩ := Option.map_eq_some_iff.mp hurl
  have hdeclared : row.declaredNewFeedUrl = some target.newFeedUrl := by
    have hsame : getDeclaredNewFeedUrl d body.feedGuid = row.declaredNewFeedUrl :=
      congrArg (Option.bind · FeedRow.declaredNewFeedUrl) hrow
    rw [← hsame]
    exact hnamed
  obtain ⟨m, hm, htag, -⟩ := h.arrived _ _ hurl hleft
  have hstate : (getMoveState d body.feedGuid).arrivalTag = m.arrivalTag := by
    have hfind : (d .feedMoveState).find? (fun r : MoveStateRow => r.feedGuid == body.feedGuid) =
        some m := hm
    rw [getMoveState, hfind]
  apply harrival
  rw [hstate, htag, ← h.declared row hrow, hdeclared]

/-- Content keeps a record steady: in place its source serves the same tag, and a move
arrives with the tag of the new source. -/
theorem Record.Steady.written {env : IngestEnv} {snapshot : Db} {req : IngestFeedRequest}
    {body : IngestFeedData} (h : (record d body.feedGuid).Steady tag)
    (hd : (record d body.feedGuid).Settled) (reaches : ReachesContent env snapshot d req body)
    (hcanonical : req.canonicalUrl = req.sourceUrl) (hredirects : req.redirects = [])
    (htag : body.newFeedUrl = tag req.sourceUrl) {after : Record}
    (hafter : after = (record d body.feedGuid).written
      (contentFeed env req body d (admittedMove env req body d)) body
        (admittedMove env req body d)) :
    after.Steady tag ∧ (record d body.feedGuid).Takes after (.ingest env snapshot req)
      body.feedGuid := by
  have hsubmits : Operation.submittedUrl body.feedGuid (.ingest env snapshot req) =
      some req.sourceUrl := by
    rw [Operation.submittedUrl, if_pos]
    rw [reaches.carries, Option.map_some]
  have hurl : after.feedUrl = some (chooseFeedUrl d req body.feedGuid
      (admittedMove env req body d)) := by
    rw [hafter, Record.written_feedUrl, contentFeed_feedUrl]
  -- the URL of the record is that of the submission, so its tag is that of the body
  have hdeclared : after.feedUrl = some req.sourceUrl → ∀ row, after.row = some row →
      row.declaredNewFeedUrl = tag row.feed.feedUrl := by
    intro hsource row hrow
    have hown : row.feed.feedUrl = req.sourceUrl := by
      rw [Record.feedUrl, hrow] at hsource
      exact Option.some.inj hsource
    rw [hown, ← htag]
    rw [hafter] at hrow
    cases hrow
    rfl
  cases hmove : admittedMove env req body d with
  | none =>
    rw [hmove] at hafter hurl
    have hsource : after.feedUrl = some req.sourceUrl := by
      rw [hurl, chooseFeedUrl, ← feedUrl_getFeedByGuid]
      cases hstored : (record d body.feedGuid).feedUrl with
      | none => rw [Option.getD_none, hcanonical]
      | some url =>
        rcases reaches.inPlace hmove hstored with hown | hown
        · rw [hown, Option.getD_some]
        · rw [hown, Option.getD_some, hcanonical]
    refine ⟨⟨hdeclared hsource, fun url left hnow hleft => ?_⟩, ?_⟩
    · rw [hsource] at hnow
      cases hnow
      rw [hafter] at hleft ⊢
      cases hstored : (record d body.feedGuid).feedUrl with
      | none =>
        exact absurd hleft ((hd.absent (Option.map_eq_none_iff.mp hstored)).1 left)
      | some url =>
        obtain ⟨m, hm, harrival, -⟩ := h.arrived url left hstored hleft
        have hown : url = req.sourceUrl := by
          rcases reaches.inPlace hmove hstored with hown | hown
          · exact hown
          · rw [hown, hcanonical]
        refine ⟨Record.stayed body.newFeedUrl m, ?_, ?_, rfl⟩
        · simp only [Record.written, hm, Option.map_some]
        · rw [hown, ← htag] at harrival
          simp only [Record.stayed, harrival, if_true, ite_self, ← htag]
    · cases hstored : (record d body.feedGuid).row with
      | none => exact .admitted req.sourceUrl hstored hsource hsubmits
      | some row =>
        have hold : (record d body.feedGuid).feedUrl = some row.feed.feedUrl := by
          rw [Record.feedUrl, hstored]
          rfl
        refine .stays ?_
        rw [hurl, chooseFeedUrl, ← feedUrl_getFeedByGuid, hold, Option.getD_some]
  | some mv =>
    obtain ⟨target, hdecided, hold, hlands, -, hne⟩ := admittedMove_eq_some hmove
    rw [hmove] at hafter hurl
    have hmirror : DeclaredMove d body.feedGuid req.sourceUrl req.canonicalUrl body
        (env.now .writeMove) target := by
      rcases moveTarget_move hdecided with hredirect | hdeclared
      · exact absurd hredirects hredirect.hops
      · exact hdeclared
    have htarget : mv.newFeedUrl = req.sourceUrl := by
      rw [hlands]
      rcases (mirrorTarget_own hmirror.declared).1 with hown | hown
      · exact hown
      · exact hown.trans hcanonical
    have hsource : after.feedUrl = some req.sourceUrl := by
      rw [hurl, chooseFeedUrl, htarget]
    refine ⟨⟨hdeclared hsource, fun url left hnow _ => ?_⟩, ?_⟩
    · rw [hsource] at hnow
      cases hnow
      refine ⟨_, by rw [hafter]; rfl, ?_, ?_⟩
      · rw [← htag]
        unfold Record.moved feedMoveWrite
        cases mv.returnValues <;> cases (record d body.feedGuid).move <;> rfl
      · unfold Record.moved feedMoveWrite
        cases mv.returnValues <;> cases (record d body.feedGuid).move <;> rfl
    · rw [← htarget] at hsource hsubmits
      exact .moved mv.oldFeedUrl mv.newFeedUrl hold hsource hne (hlands ▸ h.fresh hmirror)
        hsubmits

theorem Operation.ServesTags.step {operation : Operation} (h : operation.ServesTags guid tag d)
    (hd : (record d guid).Settled) (hsteady : (record d guid).Steady tag) :
    (record (operation.next d) guid).Steady tag ∧
      (record d guid).Takes (record (operation.next d) guid) operation guid := by
  rcases h.leaves.change hd with hsame | ⟨env, snapshot, req, body, rfl, reaches, rfl, hwritten⟩
  · refine ⟨⟨?_, fun url left hurl hleft => ?_⟩, .stays hsame.feedUrl⟩
    · rw [hsame.row]
      exact hsteady.declared
    · rw [hsame.feedUrl] at hurl
      rw [hsame.left] at hleft
      rw [hsame.move]
      exact hsteady.arrived url left hurl hleft
  · obtain ⟨hcanonical, hredirects, htag⟩ :=
      h.plain env snapshot req body rfl reaches.carries rfl
    exact hsteady.written hd reaches hcanonical hredirects htag hwritten

/-- The URL that the record takes at this step. -/
def RunStep.taken (guid : String) (s : RunStep) : Option String :=
  if (record (s.operation.next s.before) guid).feedUrl = (record s.before guid).feedUrl then none
  else (record (s.operation.next s.before) guid).feedUrl

/-- A record that is there takes another URL. -/
def RunStep.moves (guid : String) (s : RunStep) : Bool :=
  (record s.before guid).row.isSome && (s.taken guid).isSome

def takenUrls (guid : String) (history : List RunStep) : List String :=
  history.filterMap (RunStep.taken guid)

def submittedUrls (guid : String) (history : List RunStep) : List String :=
  history.filterMap fun s => s.operation.submittedUrl guid

/-- Each URL is taken once: those of the past are left ones, and all were submitted. -/
structure TakesOnce (guid : String) (history : List RunStep) (d : Db) : Prop where
  once : (takenUrls guid history).Nodup
  known : ∀ url ∈ takenUrls guid history,
    (record d guid).feedUrl = some url ∨ (record d guid).left url
  submitted : takenUrls guid history ⊆ submittedUrls guid history
  absent : takenUrls guid history = [] ↔ (record d guid).row = none
  moves : history.countP (RunStep.moves guid) = (takenUrls guid history).length - 1

theorem TakesOnce.step {history : List RunStep} {operation : Operation}
    (h : TakesOnce guid history d) (hok : operation.ServesTags guid tag d)
    (htakes : (record d guid).Takes (record (operation.next d) guid) operation guid) :
    TakesOnce guid ({ before := d, operation := operation } :: history) (operation.next d) := by
  have hmore : submittedUrls guid history ⊆
      submittedUrls guid ({ before := d, operation := operation } :: history) :=
    ((List.sublist_cons_self _ history).filterMap _).subset
  have hknown : ∀ url ∈ takenUrls guid history,
      (record (operation.next d) guid).feedUrl = some url ∨
        (record (operation.next d) guid).left url := by
    intro url hurl
    refine (operation.change d guid).keepsLeft (h.known url hurl) (hok.leaves.stays ?_)
    rw [Option.isSome_iff_ne_none]
    exact fun hnone => List.ne_nil_of_mem hurl (h.absent.mpr hnone)
  cases htakes with
  | stays same =>
    have htaken : RunStep.taken guid { before := d, operation := operation } = none :=
      if_pos same
    have hmoves : RunStep.moves guid { before := d, operation := operation } = false := by
      rw [RunStep.moves, htaken]
      exact Bool.and_false _
    have htakenUrls : takenUrls guid ({ before := d, operation := operation } :: history) =
        takenUrls guid history := List.filterMap_cons_none htaken
    have hrow : (record (operation.next d) guid).row = none ↔ (record d guid).row = none := by
      rw [← Record.feedUrl_eq_none, same, Record.feedUrl_eq_none]
    constructor
    · rw [htakenUrls]
      exact h.once
    · rw [htakenUrls]
      exact hknown
    · rw [htakenUrls]
      exact fun url hurl => hmore (h.submitted hurl)
    · rw [htakenUrls, hrow]
      exact h.absent
    · rw [htakenUrls, List.countP_cons, hmoves, ← h.moves]
      rfl
  | admitted url absent now submits =>
    have hnone : (record d guid).feedUrl = none := Record.feedUrl_eq_none.mpr absent
    have htaken : RunStep.taken guid { before := d, operation := operation } = some url := by
      rw [RunStep.taken, now, hnone, if_neg (by simp)]
    have hmoves : RunStep.moves guid { before := d, operation := operation } = false := by
      rw [RunStep.moves, absent]
      rfl
    have hempty := h.absent.mpr absent
    have htakenUrls : takenUrls guid ({ before := d, operation := operation } :: history) =
        [url] := by
      rw [takenUrls, List.filterMap_cons_some htaken]
      exact congrArg _ hempty
    constructor
    · rw [htakenUrls]
      exact List.nodup_singleton url
    · intro url' hurl
      rw [htakenUrls, List.mem_singleton] at hurl
      exact .inl (hurl ▸ now)
    · intro url' hurl
      rw [htakenUrls, List.mem_singleton] at hurl
      exact List.mem_filterMap.mpr ⟨_, List.mem_cons_self, hurl ▸ submits⟩
    · rw [htakenUrls, ← Option.not_isSome_iff_eq_none]
      exact iff_of_false (by simp) (not_not.mpr (Record.row_of_feedUrl now))
    · rw [htakenUrls, List.countP_cons, hmoves, h.moves, hempty]
      rfl
  | moved oldUrl newUrl old now elsewhere fresh submits =>
    have htaken : RunStep.taken guid { before := d, operation := operation } = some newUrl := by
      rw [RunStep.taken, now, old, if_neg (by simpa using elsewhere)]
    have hstored : (record d guid).row.isSome = true := Record.row_of_feedUrl old
    have hmoves : RunStep.moves guid { before := d, operation := operation } = true := by
      rw [RunStep.moves, hstored, htaken]
      rfl
    have htakenUrls : takenUrls guid ({ before := d, operation := operation } :: history) =
        newUrl :: takenUrls guid history := List.filterMap_cons_some htaken
    have hnonempty : takenUrls guid history ≠ [] := by
      rw [ne_eq, h.absent, ← ne_eq, ← Option.isSome_iff_ne_none]
      exact hstored
    constructor
    · rw [htakenUrls, List.nodup_cons]
      refine ⟨fun htwice => ?_, h.once⟩
      rcases h.known newUrl htwice with hcurrent | hleft
      · rw [old] at hcurrent
        exact elsewhere (Option.some.inj hcurrent).symm
      · exact fresh hleft
    · intro url hurl
      rw [htakenUrls] at hurl
      rcases List.mem_cons.mp hurl with rfl | hurl
      · exact .inl now
      · exact hknown url hurl
    · rw [htakenUrls]
      intro url hurl
      rcases List.mem_cons.mp hurl with rfl | hurl
      · exact List.mem_filterMap.mpr ⟨_, List.mem_cons_self, submits⟩
      · exact hmore (h.submitted hurl)
    · rw [htakenUrls, ← Option.not_isSome_iff_eq_none]
      exact iff_of_false (by simp) (not_not.mpr (Record.row_of_feedUrl now))
    · have hlength := List.length_pos_iff.mpr hnonempty
      rw [htakenUrls, List.countP_cons, hmoves, h.moves, List.length_cons, if_pos rfl]
      omega

theorem run_steady {history : List RunStep}
    (hrun : PrimaryRun (fun d operation => operation.ServesTags guid tag d) history d) :
    (record d guid).Steady tag ∧ TakesOnce guid history d := by
  induction hrun with
  | empty =>
    refine ⟨by rw [record_emptyDatabase]; exact Record.steady_empty, ?_⟩
    exact ⟨.nil, fun _ hurl => absurd hurl List.not_mem_nil, List.nil_subset _,
      iff_of_true rfl rfl, rfl⟩
  | step operation hrest hok ih =>
    obtain ⟨hsteady, htakes⟩ := hok.step (run_settled hrest) ih.1
    exact ⟨hsteady, ih.2.step hok htakes⟩

/-- When each URL keeps its tag, a record never goes back to a URL that it left, takes no URL
twice and moves less often than there are submitted URLs. -/
theorem run_takesOnce (guid : String) (tag : String → Option String) {history : List RunStep}
    (hrun : PrimaryRun (fun d operation => operation.ServesTags guid tag d) history d) :
    (∀ s ∈ history, ∀ oldUrl newUrl, (record s.before guid).feedUrl = some oldUrl →
        (record (s.operation.next s.before) guid).feedUrl = some newUrl → newUrl ≠ oldUrl →
          newUrl ∉ getLeftUrls s.before guid) ∧
      (takenUrls guid history).Nodup ∧
      history.countP (RunStep.moves guid) ≤ (submittedUrls guid history).dedup.length - 1 := by
  obtain ⟨-, htakes⟩ := run_steady hrun
  refine ⟨fun s hs oldUrl newUrl hold hnew hne hleft => ?_, htakes.once, ?_⟩
  · obtain ⟨hok, earlier, hearlier⟩ := hrun.before hs
    obtain ⟨hsteady, -⟩ := run_steady hearlier
    cases (hok.step (run_settled hearlier) hsteady).2 with
    | stays same =>
      rw [hold, hnew] at same
      exact hne (Option.some.inj same)
    | admitted url absent =>
      rw [Record.feedUrl, absent] at hold
      cases hold
    | moved _ url _ now _ fresh =>
      rw [hnew] at now
      cases now
      exact fresh (mem_getLeftUrls.mp hleft)
  · have hsubset : takenUrls guid history ⊆ (submittedUrls guid history).dedup :=
      fun url hurl => List.mem_dedup.mpr (htakes.submitted hurl)
    have hlength := (List.subperm_of_subset htakes.once hsubset).length_le
    rw [htakes.moves]
    omega

end

section Sample

attribute [local instance] runPlatform

/-- The first URL serves the second one as its tag, and the second URL serves none. -/
def sampleTag (url : String) : Option String := if url = sampleUrl then some otherUrl else none

/-- The record leaves its first URL once. -/
theorem run_takesOnce_movedDb :
    (record movedDb "f1").feedUrl = some otherUrl ∧
      (takenUrls "f1" movingHistory).Nodup ∧
        movingHistory.countP (RunStep.moves "f1") ≤
          (submittedUrls "f1" movingHistory).dedup.length - 1 := by
  have hrecords : (record namedDb "f1").row.isSome = true ∧
      (record movedDb "f1").feedUrl = some otherUrl := by decide +kernel
  have hrun : PrimaryRun (fun d operation => operation.ServesTags "f1" sampleTag d) movingHistory
      movedDb := by
    apply movedDb_run
    · refine ⟨leavesRecord_ingest hrecords.1, fun env snapshot req body h hbody _ => ?_⟩
      cases h
      cases hbody
      exact ⟨rfl, rfl, rfl⟩
    · refine ⟨leavesRecord_ingest (Record.row_of_feedUrl hrecords.2),
        fun env snapshot req body h hbody _ => ?_⟩
      cases h
      cases hbody
      exact ⟨rfl, rfl, rfl⟩
  exact ⟨hrecords.2, (run_takesOnce "f1" sampleTag hrun).2⟩

end Sample

end Stophammer
