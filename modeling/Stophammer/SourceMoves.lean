import Stophammer.RecordChange
import Stophammer.Recording

/-!
# When a record moves

The conditions of a move, the URLs that a record left, and what a mirror that is no move
can change.
-/

namespace Stophammer

open Relational Statement

section

variable [Platform] {d : Db} {guid sourceUrl canonicalUrl : String}
  {redirects : List RedirectHop} {body : IngestFeedData} {now : Int} {target : MoveTarget}

/-- A move to the URL that permanent redirects from the stored one lead to. -/
structure RedirectMove (d : Db) (guid sourceUrl canonicalUrl : String)
    (redirects : List RedirectHop) (now : Int) (target : MoveTarget) : Prop where
  update : classifySubmission d guid sourceUrl canonicalUrl = .update
  source : (record d guid).feedUrl = some sourceUrl
  hops : redirects ≠ []
  permanent : ∀ hop ∈ redirects, hop.status = 301 ∨ hop.status = 308
  lands : target.newFeedUrl = canonicalUrl
  trigger : target.trigger = "permanent redirect"
  elsewhere : canonicalUrl ≠ sourceUrl
  returns : (record d guid).left canonicalUrl →
    isWaiting (getMoveState d guid) now = false ∧
      target.returnValues = some (nextReturnValues (getMoveState d guid) now)
  arrives : ¬ (record d guid).left canonicalUrl → target.returnValues = none

/-- A move of a mirror to the URL that the declarations of the record name.  To a left URL
the body must name it too. -/
structure DeclaredMove (d : Db) (guid sourceUrl canonicalUrl : String) (body : IngestFeedData)
    (now : Int) (target : MoveTarget) : Prop where
  mirror : ∃ stored, (record d guid).feedUrl = some stored ∧
    classifySubmission d guid sourceUrl canonicalUrl = .mirror stored ∧ target.newFeedUrl ≠ stored
  declared : mirrorTarget d guid sourceUrl canonicalUrl = some { target with returnValues := none }
  returns : (record d guid).left target.newFeedUrl →
    target.trigger = "new-feed-url" ∧ body.newFeedUrl = some target.newFeedUrl ∧
      (getMoveState d guid).arrivalTag ≠ some target.newFeedUrl ∧
        isWaiting (getMoveState d guid) now = false ∧
          target.returnValues = some (nextReturnValues (getMoveState d guid) now)
  arrives : ¬ (record d guid).left target.newFeedUrl → target.returnValues = none

theorem redirectDecision_redirectMove
    (hclass : classifySubmission d guid sourceUrl canonicalUrl = .update)
    (h : redirectDecision d guid sourceUrl canonicalUrl redirects now = .move target) :
    RedirectMove d guid sourceUrl canonicalUrl redirects now target := by
  unfold redirectDecision at h
  cases hstored : getFeedByGuid d guid with
  | none =>
    rw [hstored] at h
    cases h
  | some stored =>
    rw [hstored] at h
    simp only [Option.map_some] at h
    split at h
    · cases h
    · rename_i hguard
      simp only [Bool.or_eq_true, bne_iff_ne, beq_iff_eq, Bool.not_eq_true', not_or, ne_eq,
        not_not, List.isEmpty_iff, Bool.not_eq_false, List.all_eq_true] at hguard
      obtain ⟨⟨⟨hsource, hhops⟩, helsewhere⟩, hpermanent⟩ := hguard
      have hurl : (record d guid).feedUrl = some sourceUrl := by
        rw [hsource]
        have hmap := congrArg (Option.map Feed.feedUrl) hstored
        rwa [getFeedByGuid_record, Option.map_map] at hmap
      split at h
      · rename_i hleft
        split at h
        · cases h
        · rename_i hwaiting
          cases h
          exact {
            update := hclass
            source := hurl
            hops := hhops
            permanent := hpermanent
            lands := rfl
            trigger := rfl
            elsewhere := hsource ▸ helsewhere
            returns := fun _ => ⟨Bool.not_eq_true _ ▸ hwaiting, rfl⟩
            arrives := fun hnot => absurd (mem_getLeftUrls.mp hleft) hnot }
      · rename_i hleft
        cases h
        exact {
          update := hclass
          source := hurl
          hops := hhops
          permanent := hpermanent
          lands := rfl
          trigger := rfl
          elsewhere := hsource ▸ helsewhere
          returns := fun hyes => absurd (mem_getLeftUrls.mpr hyes) hleft
          arrives := fun _ => rfl }

theorem mirrorDecision_declaredMove {stored : String}
    (hclass : classifySubmission d guid sourceUrl canonicalUrl = .mirror stored)
    (h : mirrorDecision d guid sourceUrl canonicalUrl body now = .move target) :
    DeclaredMove d guid sourceUrl canonicalUrl body now target := by
  obtain ⟨-, feed, hfeed, hurl, hsource, hcanonical⟩ := classifySubmission_mirror.mp hclass
  have hstored : (record d guid).feedUrl = some stored := by
    have hmap := congrArg (Option.map Feed.feedUrl) hfeed
    rwa [getFeedByGuid_record, Option.map_map, Option.map_some, hurl] at hmap
  unfold mirrorDecision at h
  cases htarget : mirrorTarget d guid sourceUrl canonicalUrl with
  | none =>
    rw [htarget] at h
    cases h
  | some own =>
    rw [htarget] at h
    obtain ⟨hown, hnone⟩ := mirrorTarget_own htarget
    have hne : own.newFeedUrl ≠ stored := by
      intro heq
      rcases hown with hown | hown
      · exact hsource (heq.symm.trans hown)
      · exact hcanonical (heq.symm.trans hown)
    have hsame : { own with returnValues := none } = own := by
      rw [← hnone]
    simp only at h
    split at h
    · rename_i hleft
      cases h
      exact {
        mirror := ⟨stored, hstored, hclass, hne⟩
        declared := by rw [htarget, hsame]
        returns := fun hyes => absurd (mem_getLeftUrls.mpr hyes) hleft
        arrives := fun _ => hnone }
    · rename_i hleft
      split at h
      · rename_i hguard
        simp only [Bool.and_eq_true, beq_iff_eq, bne_iff_ne, Bool.not_eq_true'] at hguard
        obtain ⟨⟨⟨htrigger, htag⟩, harrival⟩, hwaiting⟩ := hguard
        cases h
        exact {
          mirror := ⟨stored, hstored, hclass, hne⟩
          declared := by rw [htarget, hsame]
          returns := fun _ => ⟨htrigger, htag, harrival, hwaiting, rfl⟩
          arrives := fun hnot => absurd (mem_getLeftUrls.mp (not_not.mp hleft)) hnot }
      · cases h

theorem moveTarget_move
    (h : moveTarget d guid sourceUrl canonicalUrl redirects body now = .move target) :
    RedirectMove d guid sourceUrl canonicalUrl redirects now target ∨
      DeclaredMove d guid sourceUrl canonicalUrl body now target := by
  unfold moveTarget at h
  cases hclass : classifySubmission d guid sourceUrl canonicalUrl with
  | update =>
    rw [hclass] at h
    exact .inl (redirectDecision_redirectMove hclass h)
  | mirror stored =>
    rw [hclass] at h
    exact .inr (mirrorDecision_declaredMove hclass h)
  | recordConflict =>
    rw [hclass] at h
    cases h
  | guidChange heldGuid =>
    rw [hclass] at h
    cases h
  | newFeed =>
    rw [hclass] at h
    cases h

theorem contentFeed_feedUrl {env : IngestEnv} {req : IngestFeedRequest}
    {recordMove : Option RecordMove} :
    (contentFeed env req body d recordMove).feedUrl =
      chooseFeedUrl d req body.feedGuid recordMove := rfl

theorem Record.written_feedUrl {r : Record} {feed : Feed} {recordMove : Option RecordMove} :
    (r.written feed body recordMove).feedUrl = some feed.feedUrl := by
  unfold Record.written Record.feedUrl Record.storedRow
  cases r.row <;> rfl

omit [Platform] in
theorem feedUrl_getFeedByGuid :
    (record d guid).feedUrl = (getFeedByGuid d guid).map Feed.feedUrl := by
  rw [getFeedByGuid_record, Option.map_map]
  rfl

omit [Platform] in
theorem Record.feedUrl_eq_none {r : Record} : r.feedUrl = none ↔ r.row = none :=
  Option.map_eq_none_iff

omit [Platform] in
theorem Record.row_of_feedUrl {r : Record} {url : String} (h : r.feedUrl = some url) :
    r.row.isSome = true := by
  rw [← Option.isSome_map, ← Record.feedUrl, h]
  rfl

theorem admittedMove_eq_some {env : IngestEnv} {req : IngestFeedRequest} {mv : RecordMove}
    (h : admittedMove env req body d = some mv) :
    ∃ target, moveTarget d body.feedGuid req.sourceUrl req.canonicalUrl req.redirects body
        (env.now .writeMove) = .move target ∧
      (record d body.feedGuid).feedUrl = some mv.oldFeedUrl ∧
        mv.newFeedUrl = target.newFeedUrl ∧ mv.returnValues = target.returnValues ∧
          mv.newFeedUrl ≠ mv.oldFeedUrl := by
  unfold admittedMove at h
  cases hmove : moveTarget d body.feedGuid req.sourceUrl req.canonicalUrl req.redirects body
      (env.now .writeMove) with
  | move target =>
    rw [hmove] at h
    obtain ⟨stored, hstored, rfl⟩ := Option.map_eq_some_iff.mp h
    have hurl : (record d body.feedGuid).feedUrl = some stored.feedUrl := by
      rw [feedUrl_getFeedByGuid, hstored, Option.map_some]
    refine ⟨target, rfl, hurl, rfl, rfl, ?_⟩
    rcases moveTarget_move hmove with hredirect | hdeclared
    · have hsource := hredirect.source.symm.trans hurl
      simp only [Option.some.injEq] at hsource
      rw [hredirect.lands, ← hsource]
      exact hredirect.elsewhere
    · obtain ⟨url, hold, -, hne⟩ := hdeclared.mirror
      have hsame := hold.symm.trans hurl
      simp only [Option.some.injEq] at hsame
      rw [← hsame]
      exact hne
  | noTrigger =>
    rw [hmove] at h
    cases h
  | refused targetUrl =>
    rw [hmove] at h
    cases h
  | waitingRedirect targetUrl =>
    rw [hmove] at h
    cases h

/-- The operation moves the record of the GUID to the URL: by the decision about a move,
or for the operator. -/
inductive MovesTo (d : Db) (guid newUrl : String) : Operation → Prop
  | submission {env : IngestEnv} {snapshot : Db} {req : IngestFeedRequest} {body : IngestFeedData}
      {target : MoveTarget} (reaches : ReachesContent env snapshot d req body)
      (own : guid = body.feedGuid)
      (decided : moveTarget d guid req.sourceUrl req.canonicalUrl req.redirects body
        (env.now .writeMove) = .move target)
      (lands : target.newFeedUrl = newUrl) : MovesTo d guid newUrl (.ingest env snapshot req)
  | operator {env : OperatorEnv} {request : AdminRequest} (relocates : request.Relocates guid) :
      MovesTo d guid newUrl (.admin env true request)

theorem Change.feedUrl {operation : Operation} {r : Record} {oldUrl newUrl : String}
    (h : Change d guid operation r) (hold : (record d guid).feedUrl = some oldUrl)
    (hnew : r.feedUrl = some newUrl) (hne : newUrl ≠ oldUrl) : MovesTo d guid newUrl operation := by
  cases h with
  | same =>
    rw [hold] at hnew
    cases hnew
    exact absurd rfl hne
  | answered =>
    have hsame : (record d guid).feedUrl = some newUrl := hnew
    rw [hold] at hsame
    cases hsame
    exact absurd rfl hne
  | sourceGone => cases hnew
  | sourceBlocked => cases hnew
  | superseded => cases hnew
  | retired => cases hnew
  | relocated url relocates stored => exact .operator relocates
  | @content env snapshot req body reaches own =>
    subst own
    rw [Record.written_feedUrl, contentFeed_feedUrl] at hnew
    cases hmove : admittedMove env req body d with
    | none =>
      rw [hmove, chooseFeedUrl, ← feedUrl_getFeedByGuid, hold] at hnew
      cases hnew
      exact absurd rfl hne
    | some mv =>
      obtain ⟨target, hdecided, -, hlands, -, -⟩ := admittedMove_eq_some hmove
      rw [hmove] at hnew
      cases hnew
      exact .submission reaches rfl hdecided hlands.symm

/-- The URL of an existing record changes only when the write phase decides for a move of
that record, or when the operator relocates it. -/
theorem feedUrl_changes (operation : Operation) {oldUrl newUrl : String}
    (hold : (record d guid).feedUrl = some oldUrl)
    (hnew : (record (operation.next d) guid).feedUrl = some newUrl) (hne : newUrl ≠ oldUrl) :
    MovesTo d guid newUrl operation := (operation.change d guid).feedUrl hold hnew hne

end

section

variable [Platform] {env : IngestEnv} {req : IngestFeedRequest} {body : IngestFeedData} {d : Db}

theorem mirror_observesOnly {snapshot : Db} {stored : String} (hbody : req.feedData = some body)
    (hclass : classifySubmission d body.feedGuid req.sourceUrl req.canonicalUrl = .mirror stored)
    (hmove : (∃ warnings, readPhase env snapshot req = .verified warnings) →
      (moveTarget d body.feedGuid req.sourceUrl req.canonicalUrl req.redirects body
        (env.now .writeMove)).isMove = false) :
    Logs observationTables observationTypes d (handleIngestFeed env snapshot req d).2 := by
  unfold handleIngestFeed
  cases env.chain.authenticate req with
  | some reason => exact refl_of (Logs observationTables observationTypes) d
  | none =>
    have hreport : isGoneReport req = false := by
      rw [isGoneReport, hbody]
      rfl
    simp only [hreport, Bool.false_eq_true, if_false]
    cases hphase : readPhase env snapshot req with
    | rejected reason => exact refl_of (Logs observationTables observationTypes) d
    | noChange => exact (handleNoChange_observes d).logs
    | verified warnings =>
      simp only [writePhase, hbody]
      apply Steps.after
      · unfold decideCase
        rw [read_bind_run, hclass]
        exact (decideMirror_observes.mono fun _ _ h => h.logs : Steps (Logs _ _) _) d
      · intro decision e hrun
        cases decision with
        | answer output => exact refl_of (Logs observationTables observationTypes) e
        | admitted admission =>
          have hadmits := (decideCase_admits hrun).1.1
          rw [admitsContent, hclass] at hadmits
          simp only [hmove ⟨warnings, hphase⟩, Bool.false_eq_true] at hadmits

/-- A record gets another URL by a decided move or by the operator only, and a mirror that is no
move changes no record and no content. -/
theorem source_keepsRecord (d : Db) :
    (∀ operation guid oldUrl newUrl, (record d guid).feedUrl = some oldUrl →
        (record (operation.next d) guid).feedUrl = some newUrl → newUrl ≠ oldUrl →
          MovesTo d guid newUrl operation) ∧
      ∀ env snapshot req body stored, req.feedData = some body →
        classifySubmission d body.feedGuid req.sourceUrl req.canonicalUrl = .mirror stored →
          ((∃ warnings, readPhase env snapshot req = .verified warnings) →
            (moveTarget d body.feedGuid req.sourceUrl req.canonicalUrl req.redirects body
              (env.now .writeMove)).isMove = false) →
            Logs observationTables observationTypes d (handleIngestFeed env snapshot req d).2 :=
  ⟨fun operation _ _ _ hold hnew hne => feedUrl_changes operation hold hnew hne,
    fun _ _ _ _ _ hbody hclass hmove => mirror_observesOnly hbody hclass hmove⟩

end

section Sample

attribute [local instance] copyPlatform

/-- The other URL serves the body of the record and is no move of it. -/
theorem mirror_keepsRecord :
    Logs observationTables observationTypes copiedDb mirroredDb ∧
      (record copiedDb "f1").feedUrl = some sampleUrl ∧
      (record mirroredDb "f1").feedUrl = some sampleUrl ∧
      (copiedDb .events : List StoredEvent).length = 2 ∧
      (mirroredDb .events : List StoredEvent).length = 4 := by
  have hobserves : Logs observationTables observationTypes copiedDb mirroredDb :=
    (source_keepsRecord copiedDb).2 (copyRecording.env 'm' 2) copiedDb mirrorRequest
      (runBody "f1" none none) sampleUrl rfl (by decide +kernel) fun _ => by decide +kernel
  exact ⟨hobserves, by decide +kernel⟩

end Sample

section LeftUrls

variable [Platform] {d : Db} {guid : String}

/-- The URL of the record is not one that it left, and a GUID with no record has no state of
moves. -/
structure Record.Settled (r : Record) : Prop where
  current : ∀ url, r.feedUrl = some url → ¬ r.left url
  absent : r.row = none → (∀ url, ¬ r.left url) ∧ r.move = none

omit [Platform] in
theorem Record.settled_empty : Record.empty.Settled where
  current _ h := by cases h
  absent _ := ⟨fun _ => id, rfl⟩

theorem Change.settled {operation : Operation} {r : Record} (h : Change d guid operation r)
    (hd : (record d guid).Settled) : r.Settled := by
  cases h with
  | same => exact hd
  | answered report => exact ⟨hd.current, hd.absent⟩
  | sourceGone => exact Record.settled_empty
  | sourceBlocked => exact Record.settled_empty
  | superseded => exact Record.settled_empty
  | retired => exact Record.settled_empty
  | relocated newUrl relocates stored =>
    refine ⟨fun url hurl hleft => ?_, fun habsent => ?_⟩
    · rw [Record.feedUrl, Record.relocated, stored] at hurl
      cases hurl
      exact hleft.2 rfl
    · rw [Record.relocated, stored] at habsent
      cases habsent
  | @content env snapshot req body reaches own =>
    subst own
    refine ⟨fun url hurl hleft => ?_, fun habsent => by cases habsent⟩
    rw [Record.written_feedUrl, contentFeed_feedUrl] at hurl
    cases hmove : admittedMove env req body d with
    | some mv =>
      rw [hmove] at hurl hleft
      cases hurl
      exact hleft.2 rfl
    | none =>
      rw [hmove] at hurl hleft
      rw [chooseFeedUrl, ← feedUrl_getFeedByGuid] at hurl
      cases hstored : (record d body.feedGuid).feedUrl with
      | some stored =>
        rw [hstored] at hurl
        cases hurl
        exact hd.current _ hstored hleft
      | none => exact (hd.absent (Option.map_eq_none_iff.mp hstored)).1 url hleft

/-- The record has been there at the URL since its admission. -/
def hadUrl (guid : String) : List RunStep → Db → String → Prop
  | [], d, url => (record d guid).feedUrl = some url
  | s :: earlier, d, url =>
    (record d guid).feedUrl = some url ∨
      (record d guid).row.isSome = true ∧ hadUrl guid earlier s.before url

theorem Change.keepsLeft {operation : Operation} {r : Record} (h : Change d guid operation r)
    {url : String} (hurl : (record d guid).feedUrl = some url ∨ (record d guid).left url)
    (hstays : r.row.isSome = true) : r.feedUrl = some url ∨ r.left url := by
  cases h with
  | same => exact hurl
  | answered report => exact hurl
  | sourceGone => cases hstays
  | sourceBlocked => cases hstays
  | superseded => cases hstays
  | retired => cases hstays
  | @relocated _ _ row newUrl relocates stored =>
    by_cases hnew : url = newUrl
    · left
      rw [Record.feedUrl, Record.relocated, stored, hnew]
      rfl
    · refine .inr ⟨?_, hnew⟩
      rw [Record.feedUrl, stored] at hurl
      exact hurl.symm.imp_right fun h => (Option.some.inj h).symm
  | @content env snapshot req body reaches own =>
    subst own
    rw [Record.written_feedUrl, contentFeed_feedUrl]
    cases hmove : admittedMove env req body d with
    | some mv =>
      obtain ⟨target, -, hold, -, -, -⟩ := admittedMove_eq_some hmove
      by_cases hnew : url = mv.newFeedUrl
      · exact .inl (by rw [hnew]; rfl)
      · refine .inr ⟨?_, hnew⟩
        rw [hold] at hurl
        exact hurl.symm.imp_right fun h => (Option.some.inj h).symm
    | none =>
      rcases hurl with hcurrent | hleft
      · left
        rw [chooseFeedUrl, ← feedUrl_getFeedByGuid, hcurrent]
        rfl
      · exact .inr hleft

/-- A move back to a left URL: a permanent redirect from the stored URL, or the tag of the
record and of the body itself. -/
def ReturnsByTagOrRedirect (d : Db) (guid newUrl : String) (env : IngestEnv)
    (req : IngestFeedRequest) (body : IngestFeedData) : Prop :=
  ∃ target : MoveTarget, target.newFeedUrl = newUrl ∧
    (RedirectMove d guid req.sourceUrl req.canonicalUrl req.redirects (env.now .writeMove) target ∨
      DeclaredMove d guid req.sourceUrl req.canonicalUrl body (env.now .writeMove) target ∧
        target.trigger = "new-feed-url" ∧ getDeclaredNewFeedUrl d guid = some newUrl ∧
          body.newFeedUrl = some newUrl)

omit [Platform] in
theorem mirrorTarget_newFeedUrl {sourceUrl canonicalUrl : String} {target : MoveTarget}
    (h : mirrorTarget d guid sourceUrl canonicalUrl = some target)
    (htrigger : target.trigger = "new-feed-url") :
    getDeclaredNewFeedUrl d guid = some target.newFeedUrl := by
  simp only [mirrorTarget] at h
  split at h
  · rename_i hurl
    cases h
    exact (Option.filter_eq_some_iff.mp hurl).1
  · split at h
    · cases h
      exact absurd htrigger (show ("self link" : String) ≠ "new-feed-url" by decide)
    · cases h

theorem MovesTo.returns {env : IngestEnv} {snapshot : Db} {req : IngestFeedRequest}
    {newUrl : String} (h : MovesTo d guid newUrl (.ingest env snapshot req))
    (hleft : newUrl ∈ getLeftUrls d guid) :
    ∃ body, req.feedData = some body ∧ body.feedGuid = guid ∧
      ReturnsByTagOrRedirect d guid newUrl env req body := by
  cases h with
  | @submission _ _ _ body target reaches own decided lands =>
    refine ⟨body, reaches.carries, own.symm, target, lands, ?_⟩
    rcases moveTarget_move decided with hredirect | hdeclared
    · exact .inl hredirect
    · have hreturn := hdeclared.returns (by rw [lands]; exact mem_getLeftUrls.mp hleft)
      have hnamed := mirrorTarget_newFeedUrl hdeclared.declared hreturn.1
      exact .inr ⟨hdeclared, hreturn.1, lands ▸ hnamed, lands ▸ hreturn.2.1⟩

theorem run_settled {ok : Db → Operation → Prop} {history : List RunStep}
    (hrun : PrimaryRun ok history d) : (record d guid).Settled :=
  hrun.keeps (I := fun d => (record d guid).Settled)
    (by rw [record_emptyDatabase]; exact Record.settled_empty)
    fun d operation _ hd => (operation.change d guid).settled hd

theorem run_keepsLeft {ok : Db → Operation → Prop} {history : List RunStep}
    (hrun : PrimaryRun ok history d) {url : String} (hhad : hadUrl guid history d url) :
    (record d guid).feedUrl = some url ∨ (record d guid).left url := by
  induction hrun with
  | empty => exact .inl hhad
  | @step earlier d operation _ _ ih =>
    rcases hhad with hcurrent | ⟨hstays, hearlier⟩
    · exact .inl hcurrent
    · exact (operation.change d guid).keepsLeft (ih hearlier) hstays

/-- After every run a record is not at a URL that it left, the URLs that it had since its
admission are its own or left ones, and a submission takes it back to a left one by a permanent
redirect or by the tag. -/
theorem run_leftUrls {history : List RunStep} (hrun : PrimaryRun (fun _ _ => True) history d)
    (guid : String) :
    (∀ url, (record d guid).feedUrl = some url → url ∉ getLeftUrls d guid) ∧
      (∀ url, hadUrl guid history d url → (record d guid).feedUrl ≠ some url →
        url ∈ getLeftUrls d guid) ∧
      ∀ env snapshot req oldUrl newUrl, (record d guid).feedUrl = some oldUrl →
        (record (handleIngestFeed env snapshot req d).2 guid).feedUrl = some newUrl →
          newUrl ≠ oldUrl → newUrl ∈ getLeftUrls d guid →
            ∃ body, req.feedData = some body ∧ body.feedGuid = guid ∧
              ReturnsByTagOrRedirect d guid newUrl env req body := by
  refine ⟨fun url hurl hleft => ?_, fun url hhad hne => ?_, ?_⟩
  · exact (run_settled hrun).current url hurl (mem_getLeftUrls.mp hleft)
  · exact mem_getLeftUrls.mpr ((run_keepsLeft hrun hhad).resolve_left hne)
  · intro env snapshot req oldUrl newUrl hold hnew hne hleft
    exact (feedUrl_changes (.ingest env snapshot req) hold hnew hne).returns hleft

/-- The record stays: no retirement takes it away, and a relocation by the operator fails. -/
structure Operation.LeavesRecord (guid : String) (d : Db) (operation : Operation) : Prop where
  unmoved : ∀ env request, operation = .admin env true request →
    AdminRequest.Relocates guid request → record (operation.next d) guid = record d guid
  stays : (record d guid).row.isSome = true → (record (operation.next d) guid).row.isSome = true

/-- The row, the move state and the left URLs are the same. -/
structure Record.SameSource (before after : Record) : Prop where
  row : after.row = before.row
  move : after.move = before.move
  left : after.left = before.left

omit [Platform] in
theorem Record.SameSource.of_eq {before after : Record} (h : after = before) :
    before.SameSource after := ⟨congrArg _ h, congrArg _ h, congrArg _ h⟩

omit [Platform] in
theorem Record.SameSource.feedUrl {before after : Record} (h : before.SameSource after) :
    after.feedUrl = before.feedUrl := by
  rw [Record.feedUrl, Record.feedUrl, h.row]

theorem Operation.LeavesRecord.change {operation : Operation}
    (h : operation.LeavesRecord guid d) (hd : (record d guid).Settled) :
    (record d guid).SameSource (record (operation.next d) guid) ∨
      ∃ env snapshot req body, operation = .ingest env snapshot req ∧
        ReachesContent env snapshot d req body ∧ guid = body.feedGuid ∧
          record (operation.next d) guid =
            (record d guid).written (contentFeed env req body d (admittedMove env req body d))
              body (admittedMove env req body d) := by
  obtain ⟨hmoved, hstays⟩ := h
  have hchange := operation.change d guid
  generalize record (operation.next d) guid = r at *
  have hempty : r = Record.empty → (record d guid).SameSource r := by
    intro hr
    have hrow : (record d guid).row = none := by
      cases hrow : (record d guid).row with
      | none => rfl
      | some row =>
        rw [hrow, hr] at hstays
        exact absurd (hstays rfl) (by simp [Record.empty])
    obtain ⟨hleft, hmove⟩ := hd.absent hrow
    rw [hr]
    refine ⟨hrow.symm, hmove.symm, funext fun url => propext ?_⟩
    exact iff_of_false id (hleft url)
  cases hchange with
  | same => exact .inl (.of_eq rfl)
  | answered report => exact .inl ⟨rfl, rfl, rfl⟩
  | sourceGone => exact .inl (hempty rfl)
  | sourceBlocked => exact .inl (hempty rfl)
  | superseded => exact .inl (hempty rfl)
  | retired => exact .inl (hempty rfl)
  | relocated newUrl relocates stored => exact .inl (.of_eq (hmoved _ _ rfl relocates))
  | content reaches own => exact .inr ⟨_, _, _, _, rfl, reaches, own, rfl⟩

theorem leavesRecord_ingest {env : IngestEnv} {snapshot : Db} {req : IngestFeedRequest}
    (h : ((record (Operation.next (.ingest env snapshot req) d) guid).row).isSome = true) :
    Operation.LeavesRecord guid d (.ingest env snapshot req) where
  unmoved _ _ hadmin := by cases hadmin
  stays _ := h

end LeftUrls

section Sample

attribute [local instance] runPlatform

/-- The first URL names the second one. -/
def namingIngest : Operation :=
  .ingest (runEnv 'a' 1) (Database.empty schema)
    (runRequest sampleUrl sampleUrl [] (runBody "f1" (some otherUrl) none))

def namedDb : Db := namingIngest.next (Database.empty schema)

/-- The second URL serves the record and names no URL. -/
def movingIngest : Operation :=
  .ingest (runEnv 'v' 3) namedDb (runRequest otherUrl otherUrl [] (runBody "f1" none none))

def movedDb : Db := movingIngest.next namedDb

/-- The second URL redirects to the first one for good. -/
def returningRequest : IngestFeedRequest :=
  runRequest otherUrl sampleUrl [{ url := sampleUrl, status := 301 }]
    (runBody "f1" (some otherUrl) none)

def returningIngest : Operation := .ingest (runEnv 'w' 4) movedDb returningRequest

def returnedDb : Db := returningIngest.next movedDb

/-- One hour later the first URL redirects to the second one for good. -/
def secondReturn : Operation :=
  .ingest (runEnv 'x' 3604) returnedDb
    (runRequest sampleUrl otherUrl [{ url := otherUrl, status := 308 }] (runBody "f1" none none))

def movingHistory : List RunStep :=
  [{ before := namedDb, operation := movingIngest },
    { before := Database.empty schema, operation := namingIngest }]

theorem movedDb_run {ok : Db → Operation → Prop} (hnamed : ok (Database.empty schema) namingIngest)
    (hmoved : ok namedDb movingIngest) : PrimaryRun ok movingHistory movedDb :=
  .step movingIngest (.step namingIngest .empty hnamed) hmoved

theorem run_leftUrls_movedDb :
    sampleUrl ∈ getLeftUrls movedDb "f1" ∧
      ∃ body, returningRequest.feedData = some body ∧ body.feedGuid = "f1" ∧
        ReturnsByTagOrRedirect movedDb "f1" sampleUrl (runEnv 'w' 4) returningRequest body := by
  have hrun : PrimaryRun (fun _ _ => True) movingHistory movedDb := movedDb_run trivial trivial
  have hleft : sampleUrl ∈ getLeftUrls movedDb "f1" := by decide +kernel
  have hold : (record movedDb "f1").feedUrl = some otherUrl := by decide +kernel
  have hnew : (record (handleIngestFeed (runEnv 'w' 4) movedDb returningRequest movedDb).2
      "f1").feedUrl = some sampleUrl := by decide +kernel
  exact ⟨hleft, (run_leftUrls hrun "f1").2.2 _ _ _ _ _ hold hnew (by decide) hleft⟩

end Sample

end Stophammer
