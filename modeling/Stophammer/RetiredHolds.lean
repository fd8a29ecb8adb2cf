import Stophammer.GuidChange
import Stophammer.Relational.Keys

/-!
# Holds on retired GUIDs

A retirement with no block keeps a hold on the GUID, so that the GUID comes back from the
URL that it had.  Only the admission of the record deletes the hold.
-/

namespace Stophammer

open Relational Statement

/-- A hold of this GUID in lower case, active or released. -/
abbrev HasHold (lowerGuid : String) (d : Db) : Prop := d.Has (.hold lowerGuid)

section

variable [Platform]

/-- From `d` to `e` only the GUIDs of `G` come in, and a hold leaves only for one of them that
has a record then. -/
structure AdmitsOnly (G : String → Prop) (d e : Db) : Prop where
  feeds : ∀ guid, HasFeed guid e → HasFeed guid d ∨ G guid
  stays : ∀ guid, G guid → HasFeed guid d → HasFeed guid e
  holds : ∀ lowerGuid, HasHold lowerGuid d →
    HasHold lowerGuid e ∨ ∃ guid, G guid ∧ toLowercase guid = lowerGuid ∧ HasFeed guid e

namespace AdmitsOnly

variable {G : String → Prop}

instance : IsPreorder Db (AdmitsOnly G) where
  refl _ := ⟨fun _ => .inl, fun _ _ => id, fun _ => .inl⟩
  trans d e f hde hef := by
    refine ⟨fun guid hf => ?_, fun guid hG hd => ?_, fun lowerGuid hd => ?_⟩
    · rcases hef.feeds guid hf with he | hG
      · exact hde.feeds guid he
      · exact .inr hG
    · exact hef.stays guid hG (hde.stays guid hG hd)
    · rcases hde.holds lowerGuid hd with he | ⟨guid, hG, hlower, he⟩
      · exact hef.holds lowerGuid he
      · exact .inr ⟨guid, hG, hlower, hef.stays guid hG he⟩

theorem of_keys {d e : Db} (hfeeds : ∀ guid, HasFeed guid e ↔ HasFeed guid d)
    (hholds : ∀ lowerGuid, HasHold lowerGuid d → HasHold lowerGuid e) : AdmitsOnly G d e where
  feeds guid he := .inl ((hfeeds guid).mp he)
  stays guid _ hd := (hfeeds guid).mpr hd
  holds lowerGuid hd := .inl (hholds lowerGuid hd)

theorem of_same {d e : Db} (hfeeds : e .feeds = d .feeds)
    (hholds : e .retiredSourceHolds = d .retiredSourceHolds) : AdmitsOnly G d e :=
  of_keys (fun _ => hasFeed_congr hfeeds) fun lowerGuid =>
    (Database.has_congr (S := schema) (k := .hold lowerGuid) hholds).mpr

theorem of_sameOutside {ts : List Table} {d e : Db}
    (h : SameOutside (S := schema) ts d e)
    (hts : ∀ t ∈ [Table.feeds, .retiredSourceHolds], t ∉ ts) : AdmitsOnly G d e :=
  of_same (h _ (hts .feeds (by simp))) (h _ (hts .retiredSourceHolds (by simp)))

theorem of_writes {ts : List Table} {α : Type} {x : Stmt α} (hx : Writes (S := schema) ts x)
    (hts : ∀ t ∈ [Table.feeds, .retiredSourceHolds], t ∉ ts) : Steps (AdmitsOnly G) x :=
  fun _ => of_sameOutside (fun _ hu => hx _ hu _) hts

end AdmitsOnly

section Statements

variable {G : String → Prop}

theorem writeHold_keeps {feedGuid payloadJson lowerGuid : String} {createdAt : Int}
    {sourceUrl : Option String} :
    Steps (Keeps (HasHold lowerGuid)) (writeHold feedGuid payloadJson createdAt sourceUrl) := by
  cases sourceUrl with
  | none => exact .pure _
  | some url =>
    have hreason : Steps (Keeps (HasHold lowerGuid)) (retiredReason payloadJson) := by
      unfold retiredReason
      split
      · exact .pure _
      · exact .fail _
    apply hreason.bind
    intro reason
    apply insertOrReplace_keeps (S := schema) (t := .retiredSourceHolds) (k := .hold lowerGuid)
    intro r' k' hk' hshared hk
    rw [List.mem_singleton.mp hk'] at hshared
    rw [List.mem_singleton.mp hk, ← List.mem_singleton.mp hshared]
    exact List.mem_singleton.mpr rfl

theorem deleteFeedSql_admits {guid : String} (hG : ¬ G guid) :
    Steps (AdmitsOnly G) (deleteFeedSql guid) := by
  intro d
  obtain ⟨_, e, hrun⟩ := deleteFeedSql_ends guid d
  have hfeeds := deleteFeedSql_feeds hrun
  have hmem : ∀ other, HasFeed other e → HasFeed other d := by
    intro other he
    rw [show e = (deleteFeedSql guid d).2 by rw [hrun]] at he
    exact deleteFeedSql_shrinks.has he
  rw [hrun]
  refine ⟨fun other he => .inl (hmem other he), fun other hother hd => ?_, fun lowerGuid hd => .inl ?_⟩
  · rw [HasFeed, Database.has_iff (show schema.home (.feed other) = Table.feeds from rfl)] at hd ⊢
    obtain ⟨r, hr, hk⟩ := hd
    refine ⟨r, ?_, hk⟩
    have hguid : other = r.feed.feedGuid := by simpa [Table.keys] using hk
    rw [hfeeds, List.mem_filter]
    refine ⟨hr, ?_⟩
    have hne : r.feed.feedGuid ≠ guid := by
      rintro rfl
      exact hG (hguid ▸ hother)
    simpa using hne
  · exact (Database.has_congr (S := schema) (k := .hold lowerGuid)
      ((deleteFeedSql_writes .retiredSourceHolds (by decide)).run hrun)).mpr hd

theorem writeHold_admits {feedGuid payloadJson : String} {createdAt : Int}
    {sourceUrl : Option String} :
    Steps (AdmitsOnly G) (writeHold feedGuid payloadJson createdAt sourceUrl) := fun d =>
  .of_keys (fun _ => hasFeed_congr (writeHold_writes .feeds (by decide) d))
    fun _ => writeHold_keeps d

theorem deleteFeedWithEvent_admits {signer : NodeSigner} {feedGuid : String} {row : EventRow}
    {blocks : List (FeedBlock × String)} (hG : ¬ G feedGuid) :
    Steps (AdmitsOnly G) (deleteFeedWithEvent signer feedGuid row blocks) := by
  apply Steps.transaction
  apply Steps.read_then
  intro holdSourceUrl
  apply (deleteFeedSql_admits hG).bind
  intro _
  apply writeHold_admits.bind
  intro _
  apply (AdmitsOnly.of_writes signEventRow_writes (by decide)).bind
  intro signed
  refine Steps.bind signedEvent_steps fun retired => ?_
  exact (AdmitsOnly.of_writes signBlocks_writes (by decide)).bind fun _ => .pure _

theorem guidChangeTransition_admits {signer : NodeSigner} {uuid : Nat → String}
    {oldGuid newGuid sourceUrl : String} {now : Int} (hG : ¬ G oldGuid) :
    Steps (AdmitsOnly G) (guidChangeTransition signer uuid oldGuid newGuid sourceUrl now) := by
  have hsupersede : Writes (S := schema) [Table.feedGuidSupersessions]
      (insertGuidSupersession oldGuid newGuid sourceUrl now) :=
    (Writes.insertOrIgnore (by decide)).bind fun _ => Writes.pure _
  have hdelete : Writes (S := schema) [Table.feedGuidChanges] (deleteGuidChange sourceUrl) :=
    Writes.delete (by decide)
  have hsign : ∀ row, Steps (AdmitsOnly G) (signEventRow signer row) :=
    fun _ => AdmitsOnly.of_writes signEventRow_writes (by decide)
  apply Steps.transaction
  apply (deleteFeedSql_admits hG).bind
  intro _
  apply (hsign _).bind
  intro retired
  apply (AdmitsOnly.of_writes hsupersede (by decide)).bind
  intro _
  apply (hsign _).bind
  intro superseded
  apply Steps.read_then
  intro row
  cases row with
  | none => exact .pure _
  | some _ =>
    apply (AdmitsOnly.of_writes hdelete (by decide)).bind
    intro _
    exact (hsign _).bind fun _ => .pure _

theorem writeFeed_admits {feed : Feed} (hG : G feed.feedGuid) :
    Steps (AdmitsOnly G) (writeFeed feed) := by
  have hgone : Writes (S := schema) [Table.sourceGoneAnswers]
      (delete (S := schema) .sourceGoneAnswers fun r : SourceGoneAnswer =>
        r.feedGuid == feed.feedGuid) := Writes.delete (by decide)
  have hupsert : Writes (S := schema) [Table.feeds] (upsertFeed feed) := Writes.upsert (by decide)
  have hhold : Writes (S := schema) [Table.retiredSourceHolds]
      (delete (S := schema) .retiredSourceHolds fun r : RetiredSourceHold =>
        r.feedGuid == toLowercase feed.feedGuid) := Writes.delete (by decide)
  intro d
  apply Steps.after
  · refine ⟨fun guid he => ?_, fun guid _ hd => ?_, fun lowerGuid hd => .inl ?_⟩
    · by_cases hguid : guid = feed.feedGuid
      · exact .inr (hguid ▸ hG)
      · refine .inl (upsert_gains (S := schema) (t := .feeds) (k := .feed guid) ?_ ?_ he)
        · simp [Table.keys, hguid]
        · intro r _ hk
          simp [Table.keys, hguid] at hk
    · refine upsert_keeps (S := schema) (t := .feeds) (k := .feed guid) ?_ d hd
      intro r hp hk
      simp only [beq_iff_eq] at hp
      simpa [Table.keys, hp] using hk
    · exact (Database.has_congr (S := schema) (k := .hold lowerGuid)
        (hupsert .retiredSourceHolds (by decide) d)).mpr hd
  · rintro ⟨⟩ t hrun
    have hfeed : HasFeed feed.feedGuid t := by
      refine upsert_has (S := schema) (t := .feeds) (k := .feed feed.feedGuid) hrun ?_ ?_
      · simp [Table.keys]
      · simp [Table.keys]
    apply Steps.after (AdmitsOnly.of_writes hgone (by decide) t)
    rintro ⟨⟩ u hdelete
    have hstays : HasFeed feed.feedGuid
        (delete (S := schema) .retiredSourceHolds (fun r : RetiredSourceHold =>
          r.feedGuid == toLowercase feed.feedGuid) u).2 := by
      refine (hasFeed_congr (hhold .feeds (by decide) u)).mpr ?_
      exact (hasFeed_congr ((hgone .feeds (by decide)).run hdelete)).mpr hfeed
    refine ⟨fun guid he => .inl ?_, fun guid _ hd => ?_, fun lowerGuid hd => ?_⟩
    · exact (hasFeed_congr (hhold .feeds (by decide) u)).mp he
    · exact (hasFeed_congr (hhold .feeds (by decide) u)).mpr hd
    · by_cases hlower : toLowercase feed.feedGuid = lowerGuid
      · exact .inr ⟨feed.feedGuid, hG, hlower, hstays⟩
      · left
        refine delete_keeps (S := schema) (t := .retiredSourceHolds) (k := .hold lowerGuid) ?_ u hd
        intro r hk
        have hguid : lowerGuid = r.feedGuid := by simpa [Table.keys] using hk
        rw [← hguid]
        simpa using Ne.symm hlower

theorem ingestTransaction_admits {env : PrimaryEnv} {removalUuid : Nat → String}
    {c : IngestContent} {eventRows : List EventRow} {feedMove : Option FeedMoveWrite}
    (hG : G c.feed.feedGuid) :
    Steps (AdmitsOnly G) (ingestTransaction env removalUuid c eventRows feedMove) := by
  have hother : ∀ {ts : List Table} {α : Type} {x : Stmt α}, Writes (S := schema) ts x →
      (∀ t ∈ [Table.feeds, .retiredSourceHolds], t ∉ ts) → Steps (AdmitsOnly G) x :=
    AdmitsOnly.of_writes
  apply Steps.transaction
  apply (writeFeed_admits hG).bind
  intro _
  apply (hother replaceFeedSets_writes (by decide)).bind
  intro _
  apply Steps.read_then
  intro staleGuids
  apply (hother (Writes.forEach fun _ => writeTrack_writes) (by decide)).bind
  intro _
  apply (hother (Writes.forEach fun _ => removeStaleTrack_writes) (by decide)).bind
  intro _
  apply (hother insertEvents_writes (by decide)).bind
  intro seqs
  apply (hother syncSourceReadModelsForFeed_writes (by decide)).bind
  intro _
  cases feedMove with
  | none => exact (Steps.pure ()).bind fun _ => .pure _
  | some mv => exact (hother writeFeedMove_writes (by decide)).bind fun _ => .pure _

theorem writeDeclarations_admits {body : IngestFeedData} {isMove : Bool} :
    Steps (AdmitsOnly G) (writeDeclarations body isMove) := by
  intro d
  refine .of_keys (fun guid => ?_) fun lowerGuid => ?_
  · exact iff_of_eq (writeDeclarations_leaves_feed d)
  · exact (Database.has_congr (S := schema) (k := .hold lowerGuid) 
      (writeDeclarations_sameOutside d .retiredSourceHolds (by decide))).mpr

end Statements

/-- The submission gets as far as its content, and its GUID is this one. -/
def AdmitsGuid (env : IngestEnv) (snapshot d : Db) (req : IngestFeedRequest) (guid : String) :
    Prop := ∃ body, ReachesContent env snapshot d req body ∧ body.feedGuid = guid

theorem ingest_admits (env : IngestEnv) (snapshot d : Db) (req : IngestFeedRequest) :
    AdmitsOnly (AdmitsGuid env snapshot d req) d (handleIngestFeed env snapshot req d).2 := by
  apply ingest_steps (R := AdmitsOnly (AdmitsGuid env snapshot d req))
  · intro _ hreport
    have hnone : ∀ guid, ¬ AdmitsGuid env snapshot d req guid := by
      rintro guid ⟨body, hreach, -⟩
      rw [isGoneReport, hreach.carries] at hreport
      simp at hreport
    have hgone : Steps (AdmitsOnly (AdmitsGuid env snapshot d req))
        (handleSourceGoneReport env req) := by
      apply Steps.read_then
      intro block
      refine .ite (.pure _) (Steps.read_then fun feedGuid => ?_)
      cases feedGuid with
      | none => exact .pure _
      | some feedGuid =>
        refine Steps.read_then fun existing => .ite ?_ ?_
        · exact (deleteFeedWithEvent_admits (hnone _)).mapError.bind fun _ => .pure _
        · have hrecord : Writes (S := schema) [Table.sourceGoneAnswers]
              (recordSourceGoneAnswer feedGuid req.sourceUrl (env.now .goneReport)
                req.httpStatus) := Writes.upsert (by decide)
          exact (AdmitsOnly.of_writes hrecord (by decide)).mapError.bind fun _ => .pure _
    exact hgone d
  · exact fun s t h => AdmitsOnly.of_sameOutside h.logs.frame (by decide)
  · intro body warnings hverified hclass _ hblocks
    apply deleteFeedWithEvent_admits
    rintro ⟨body', hreach, hguid⟩
    cases hverified.carries.symm.trans hreach.carries
    have hadmits := hreach.admits
    rw [admitsContent, hclass, hblocks] at hadmits
    simp at hadmits
  · exact fun body _ _ _ _ =>
      AdmitsOnly.of_writes recordGuidChangeReturnForIngest_writes (by decide) d
  · exact fun body _ _ _ _ =>
      AdmitsOnly.of_writes recordGuidChangePendingForIngest_writes (by decide) d
  · intro body admission e hreach hheld _ _ _
    have hG : AdmitsGuid env snapshot d req body.feedGuid := ⟨body, hreach, rfl⟩
    apply admitContent_steps
    · intro heldGuid hadmission
      apply guidChangeTransition_admits
      rintro ⟨body', hreach', hguid⟩
      cases hreach.carries.symm.trans hreach'.carries
      have hclass := SubmissionClass.held_eq_some.mp (hheld ▸ hadmission)
      have hconflict := (classifySubmission_guidChange hclass).2
      obtain ⟨feed, hfeed⟩ := hasFeed_iff.mp (conflictingGuid_hasFeed hconflict)
      rw [← hguid, (classifySubmission_guidChange hclass).1] at hfeed
      cases hfeed
    · exact fun eventRows _ => ingestTransaction_admits hG
    · exact fun isMove => writeDeclarations_admits
    · exact fun s t h => AdmitsOnly.of_sameOutside h.logs.frame (by decide)

section Admin

variable {env : OperatorEnv} {G : String → Prop}

theorem updateFeeds_admits {p : FeedRow → Bool} {f : FeedRow → FeedRow}
    (hguid : ∀ r : FeedRow, (f r).feed.feedGuid = r.feed.feedGuid) :
    Steps (AdmitsOnly G) (update (S := schema) .feeds p f) := by
  have hwrites : Writes (S := schema) [Table.feeds] (update (S := schema) .feeds p f) :=
    Writes.update (by decide)
  intro d
  refine .of_keys (fun guid => iff_of_eq (updateFeeds_leaves_feed hguid d)) fun lowerGuid => ?_
  exact (Database.has_congr (S := schema) (k := .hold lowerGuid)
    (hwrites .retiredSourceHolds (by decide) d)).mpr

theorem relocateFeed_admits {feedGuid newUrl reason eventId : String} :
    Steps (AdmitsOnly G) (relocateFeed env feedGuid newUrl reason eventId) := by
  apply Steps.read_then
  intro conflicts
  refine .ite (.pure _) (Steps.read_then fun old => ?_)
  cases old with
  | none => exact .fail _
  | some old =>
    have hself : Steps (AdmitsOnly G) (setDeclaredSelfUrl feedGuid none) :=
      updateFeeds_admits fun _ => rfl
    have hmove : Steps (AdmitsOnly G) (clearDeclaredNewFeedUrl feedGuid) :=
      updateFeeds_admits fun _ => rfl
    refine Steps.bind (updateFeeds_admits ?_) fun _ => ?_
    · exact fun _ => rfl
    apply hself.bind
    intro _
    apply hmove.bind
    intro _
    apply (AdmitsOnly.of_writes writeRelocationState_writes (by decide)).bind
    intro _
    apply Steps.read_then
    intro feed
    cases feed with
    | none => exact .fail _
    | some feed =>
      exact (AdmitsOnly.of_writes signEventRow_writes (by decide)).bind fun _ => .pure _

theorem releaseRetiredSourceHold_admits {feedGuid : String} {releasedAt : Int} :
    Steps (AdmitsOnly G) (releaseRetiredSourceHold feedGuid releasedAt) := by
  have hupdate : ∀ {p : RetiredSourceHold → Bool}, Steps (AdmitsOnly G)
      (update (S := schema) .retiredSourceHolds p
        fun r : RetiredSourceHold => { r with releasedAt := some releasedAt }) := by
    intro p d
    have hwrites : Writes (S := schema) [Table.retiredSourceHolds]
        (update (S := schema) .retiredSourceHolds p
          fun r : RetiredSourceHold => { r with releasedAt := some releasedAt }) :=
      Writes.update (by decide)
    refine .of_keys (fun guid => hasFeed_congr (hwrites .feeds (by decide) d)) fun lowerGuid => ?_
    have hsame := update_leaves_has (S := schema) (t := .retiredSourceHolds)
      (k := .hold lowerGuid) (p := p)
      (f := fun r : RetiredSourceHold => { r with releasedAt := some releasedAt })
      fun _ _ => Iff.rfl
    exact (iff_of_eq (hsame d)).mpr
  apply Steps.read_then
  intro changed
  exact hupdate.bind fun _ => .pure _

theorem fillRetiredSourceHolds_admits : Steps (AdmitsOnly G) fillRetiredSourceHolds := by
  apply fillRetiredSourceHolds_steps
  intro hold d
  have hwrites : Writes (S := schema) [Table.retiredSourceHolds]
      (insertOrIgnore (S := schema) .retiredSourceHolds hold) := Writes.insertOrIgnore (by decide)
  exact .of_keys (fun _ => hasFeed_congr (hwrites .feeds (by decide) d)) fun _ =>
    insertOrIgnore_keeps d

theorem handleAdmin_admits {tokenAccepted : Bool} {request : AdminRequest} {d : Db} :
    AdmitsOnly (fun _ => False) d (handleAdmin env tokenAccepted request d).2 := by
  unfold handleAdmin
  split
  · apply AdminRequest.steps
    · exact fun s t h => AdmitsOnly.of_sameOutside h.frame (by decide)
    · exact fun _ _ _ _ _ _ => deleteFeedWithEvent_admits (fun h => h) d
    · exact fun _ _ _ _ _ => relocateFeed_admits d
    · exact fun _ => releaseRetiredSourceHold_admits d
    · exact fun _ _ _ _ => AdmitsOnly.of_writes (decideGuidChangeRow_writes env) (by decide) d
  · exact refl_of (AdmitsOnly fun _ => False) d

end Admin

def Operation.AdmitsGuid (d : Db) : Operation → String → Prop
  | .ingest env snapshot req => Stophammer.AdmitsGuid env snapshot d req
  | _ => fun _ => False

theorem Operation.admits (operation : Operation) (d : Db) :
    AdmitsOnly (operation.AdmitsGuid d) d (operation.next d) := by
  cases operation with
  | ingest env snapshot req => exact ingest_admits env snapshot d req
  | admin env tokenAccepted request => exact handleAdmin_admits
  | seedBlocks env entries => exact AdmitsOnly.of_sameOutside (seedBlocks_logs d).frame (by decide)
  | fillRetiredSourceHolds => exact fillRetiredSourceHolds_admits d
  | peers write only => exact AdmitsOnly.of_writes only (by decide) d

omit [Platform] in
theorem hasHold_iff {lowerGuid : String} {d : Db} : HasHold lowerGuid d ↔
    ((d .retiredSourceHolds).find? fun r : RetiredSourceHold =>
      r.feedGuid == lowerGuid).isSome := by
  rw [HasHold, Database.has_iff (show schema.home (.hold lowerGuid) = Table.retiredSourceHolds
    from rfl), List.find?_isSome]
  refine exists_congr fun r => and_congr_right fun _ => ?_
  have hkey : Key.hold lowerGuid ∈ [Key.hold r.feedGuid] ↔ r.feedGuid = lowerGuid := by
    rw [List.mem_singleton, Key.hold.injEq, eq_comm]
  exact hkey.trans beq_iff_eq.symm

/-- A submission of the GUID with the URL as one of its own. -/
def Operation.SubmitsFrom (guid url : String) : Operation → Prop
  | .ingest _ _ req => (∃ body, req.feedData = some body ∧ body.feedGuid = guid) ∧
      (req.sourceUrl = url ∨ req.canonicalUrl = url)
  | _ => False

/-- A GUID with an active hold comes in from the held URL only, and a hold leaves only with the
admission of its GUID. -/
structure RespectsHolds (d : Db) (operation : Operation) : Prop where
  admits : ∀ guid hold, getRetiredSourceHold d guid = some hold → hold.releasedAt = none →
    ¬ HasFeed guid d → HasFeed guid (operation.next d) →
      operation.SubmitsFrom guid hold.sourceUrl
  removes : ∀ lowerGuid, HasHold lowerGuid d → ¬ HasHold lowerGuid (operation.next d) →
    ∃ guid, toLowercase guid = lowerGuid ∧ ¬ HasFeed guid d ∧ HasFeed guid (operation.next d)

/-- Content that goes in meets the hold of its GUID: a GUID change does not come from another
URL, and the GUID of a record that is there has no hold. -/
def Operation.MeetsHold (d : Db) : Operation → Prop
  | .ingest env snapshot req => ∀ body, ReachesContent env snapshot d req body →
      ((∃ heldGuid, classifySubmission d body.feedGuid req.sourceUrl req.canonicalUrl =
        .guidChange heldGuid) → isRetiredSourceConflict req body d = false) ∧
      (HasFeed body.feedGuid d → ¬ HasHold (toLowercase body.feedGuid) d)
  | _ => True

theorem ReachesContent.heldUrl {env : IngestEnv} {snapshot d : Db} {req : IngestFeedRequest}
    {body : IngestFeedData} (h : ReachesContent env snapshot d req body)
    (hnew : ¬ HasFeed body.feedGuid d)
    (hchange : (∃ heldGuid, classifySubmission d body.feedGuid req.sourceUrl req.canonicalUrl =
      .guidChange heldGuid) → isRetiredSourceConflict req body d = false) :
    isRetiredSourceConflict req body d = false := by
  have hnone : getFeedByGuid d body.feedGuid = none := by
    rw [← Option.not_isSome_iff_eq_none, Option.isSome_iff_exists]
    exact fun hfeed => hnew (hasFeed_iff.mpr hfeed)
  have hadmits := h.admits
  unfold admitsContent at hadmits
  cases hclass : classifySubmission d body.feedGuid req.sourceUrl req.canonicalUrl with
  | newFeed =>
    rw [hclass] at hadmits
    simp only [Bool.and_eq_true, Bool.not_eq_true'] at hadmits
    exact hadmits.1
  | guidChange heldGuid => exact hchange ⟨heldGuid, hclass⟩
  | recordConflict =>
    rw [hclass] at hadmits
    cases hadmits
  | update =>
    unfold classifySubmission at hclass
    rw [hnone] at hclass
    revert hclass
    cases conflictingGuid d body.feedGuid req.sourceUrl req.canonicalUrl <;> simp
  | mirror sourceUrl =>
    unfold classifySubmission at hclass
    rw [hnone] at hclass
    revert hclass
    cases conflictingGuid d body.feedGuid req.sourceUrl req.canonicalUrl <;> simp

theorem respectsHolds_of_meetsHold {d : Db} {operation : Operation} (h : operation.MeetsHold d) :
    RespectsHolds d operation := by
  have hadmits := operation.admits d
  constructor
  · intro guid hold hhold hactive hnew hnext
    rcases hadmits.feeds guid hnext with hold' | hG
    · exact absurd hold' hnew
    · cases operation with
      | ingest env snapshot req =>
        obtain ⟨body, hreach, rfl⟩ := hG
        have hfree := hreach.heldUrl hnew (h body hreach).1
        refine ⟨⟨body, hreach.carries, rfl⟩, ?_⟩
        rw [isRetiredSourceConflict, hhold, Option.any_some, hactive] at hfree
        by_contra hother
        rw [not_or] at hother
        simp [Ne.symm hother.1, Ne.symm hother.2] at hfree
      | _ => exact absurd hG id
  · intro lowerGuid hhold hgone
    rcases hadmits.holds lowerGuid hhold with hstays | ⟨guid, hG, rfl, hnext⟩
    · exact absurd hstays hgone
    · refine ⟨guid, rfl, fun hpresent => ?_, hnext⟩
      cases operation with
      | ingest env snapshot req =>
        obtain ⟨body, hreach, rfl⟩ := hG
        exact (h body hreach).2 hpresent hhold
      | _ => exact hG

/-- In a run whose operations meet the holds, each one respects them. -/
theorem run_respectsHolds {history : List RunStep} {d : Db}
    (hrun : PrimaryRun (fun d operation => operation.MeetsHold d) history d) :
    ∀ s ∈ history, RespectsHolds s.before s.operation :=
  fun _ hs => respectsHolds_of_meetsHold (hrun.before hs).1

theorem meetsHold_of_noHolds {d : Db} (operation : Operation) (h : d .retiredSourceHolds = []) :
    operation.MeetsHold d := by
  cases operation with
  | ingest env snapshot req =>
    intro body _
    constructor
    · intro _
      rw [isRetiredSourceConflict, getRetiredSourceHold, h]
      rfl
    · intro _ hhold
      rw [hasHold_iff, h] at hhold
      cases hhold
  | _ => trivial

theorem meetsHold_of_newFeed {env : IngestEnv} {snapshot d : Db} {req : IngestFeedRequest}
    {body : IngestFeedData} (hbody : req.feedData = some body)
    (hclass : classifySubmission d body.feedGuid req.sourceUrl req.canonicalUrl = .newFeed)
    (hnew : ¬ HasFeed body.feedGuid d) : (Operation.ingest env snapshot req).MeetsHold d := by
  intro body' hreach
  cases hbody.symm.trans hreach.carries
  constructor
  · rintro ⟨heldGuid, hchange⟩
    rw [hclass] at hchange
    cases hchange
  · exact fun hfeed => absurd hfeed hnew

theorem not_respectsHolds {d : Db} {operation : Operation} {guid url : String}
    (hhold : (getRetiredSourceHold d guid).any fun hold =>
      hold.sourceUrl == url && hold.releasedAt.isNone)
    (hadmitted : ¬ HasFeed guid d ∧ HasFeed guid (operation.next d))
    (hother : ¬ operation.SubmitsFrom guid url) : ¬ RespectsHolds d operation := by
  intro h
  obtain ⟨hold, hsome, hvalues⟩ := (Option.any_eq_true _ _).mp hhold
  rw [Bool.and_eq_true, beq_iff_eq, Option.isNone_iff_eq_none] at hvalues
  have hfrom := h.admits guid hold hsome hvalues.2 hadmitted.1 hadmitted.2
  rw [hvalues.1] at hfrom
  exact hother hfrom

end

section Sample

attribute [local instance] runPlatform

/-- The feed of the UUIDv5 of the first URL, at the second URL. -/
def secondIngest : Operation :=
  .ingest (runEnv 'e' 2) oneFeedDb
    { sampleRequest sampleGuid [] with canonicalUrl := otherUrl, sourceUrl := otherUrl }

def twoFeedDb : Db := secondIngest.next oneFeedDb

/-- The operator retires the second feed with no block. -/
def retireSecond : Operation :=
  .admin (runOperatorEnv 'r' 3) true (.retireFeed sampleGuid (some false))

def heldDb : Db := retireSecond.next twoFeedDb

/-- The first URL serves the held GUID, which is its own UUIDv5. -/
def changeToHeld : Operation := .ingest (runEnv 'b' 5) heldDb (sampleRequest sampleGuid [])

def heldHistory : List RunStep :=
  [{ before := twoFeedDb, operation := retireSecond },
    { before := oneFeedDb, operation := secondIngest },
    { before := Database.empty schema, operation := firstIngest }]

theorem heldDb_run {ok : Db → Operation → Prop} (hfirst : ok (Database.empty schema) firstIngest)
    (hsecond : ok oneFeedDb secondIngest) (hretire : ok twoFeedDb retireSecond) :
    PrimaryRun ok heldHistory heldDb :=
  .step retireSecond (.step secondIngest (.step firstIngest .empty hfirst) hsecond) hretire

/-- The GUID change admits the held GUID from a URL that is not the held one. -/
theorem heldGuid_admitted :
    ¬ ∀ (history : List RunStep) (d : Db),
      PrimaryRun (fun _ operation => operation.SignedBy runSigner) history d →
        ∀ s ∈ history, RespectsHolds s.before s.operation := by
  intro hall
  have hrun : PrimaryRun (fun _ operation => operation.SignedBy runSigner)
      ({ before := heldDb, operation := changeToHeld } :: heldHistory)
      (changeToHeld.next heldDb) := .step changeToHeld (heldDb_run rfl rfl rfl) rfl
  have hrespects := forall_steps_last (P := RespectsHolds) (hall _ _ hrun)
  have hother : ¬ changeToHeld.SubmitsFrom sampleGuid otherUrl :=
    fun hfrom => absurd hfrom.2 (by decide)
  exact not_respectsHolds (by decide +kernel) (by decide +kernel) hother hrespects

/-- A third URL serves the held GUID: it is not the URL of a record. -/
def submitFromThird : Operation :=
  .ingest (runEnv 'd' 4) heldDb
    { sampleRequest sampleGuid [] with canonicalUrl := thirdUrl, sourceUrl := thirdUrl }

def heldRefusedDb : Db := submitFromThird.next heldDb

/-- The held URL serves its GUID again. -/
def returnToHeld : Operation :=
  .ingest (runEnv 'h' 5) heldRefusedDb
    { sampleRequest sampleGuid [] with canonicalUrl := otherUrl, sourceUrl := otherUrl }

def heldReturnedDb : Db := returnToHeld.next heldRefusedDb

def heldReturnedHistory : List RunStep :=
  { before := heldRefusedDb, operation := returnToHeld } ::
    { before := heldDb, operation := submitFromThird } :: heldHistory

theorem heldReturnedDb_facts :
    (oneFeedDb .retiredSourceHolds : List RetiredSourceHold) = [] ∧
      classifySubmission heldDb sampleGuid thirdUrl thirdUrl = .newFeed ∧
      classifySubmission heldRefusedDb sampleGuid otherUrl otherUrl = .newFeed ∧
      (HasHold sampleGuid heldDb ∧ HasHold sampleGuid heldRefusedDb ∧
        ¬ HasHold sampleGuid heldReturnedDb) ∧
      ¬ HasFeed sampleGuid heldDb ∧ ¬ HasFeed sampleGuid heldRefusedDb ∧
      HasFeed sampleGuid heldReturnedDb := by
  decide +kernel

/-- The hold keeps the GUID from the third URL, and the held URL brings it back. -/
theorem run_respectsHolds_held :
    PrimaryRun (fun d operation => operation.MeetsHold d) heldReturnedHistory heldReturnedDb ∧
      (∀ s ∈ heldReturnedHistory, RespectsHolds s.before s.operation) ∧
      (HasHold sampleGuid heldDb ∧ HasHold sampleGuid heldRefusedDb ∧
        ¬ HasHold sampleGuid heldReturnedDb) ∧
      ¬ HasFeed sampleGuid heldDb ∧ ¬ HasFeed sampleGuid heldRefusedDb ∧
      HasFeed sampleGuid heldReturnedDb := by
  obtain ⟨hnone, hthird, hother, hholds⟩ := heldReturnedDb_facts
  have hheld : PrimaryRun (fun d operation => operation.MeetsHold d) heldHistory heldDb :=
    heldDb_run (meetsHold_of_noHolds _ rfl) (meetsHold_of_noHolds _ hnone) trivial
  have hrefused : submitFromThird.MeetsHold heldDb := meetsHold_of_newFeed rfl hthird hholds.2.1
  have hreturned : returnToHeld.MeetsHold heldRefusedDb :=
    meetsHold_of_newFeed rfl hother hholds.2.2.1
  have hrun : PrimaryRun (fun d operation => operation.MeetsHold d) heldReturnedHistory
      heldReturnedDb := .step returnToHeld (.step submitFromThird hheld hrefused) hreturned
  exact ⟨hrun, run_respectsHolds hrun, hholds⟩

end Sample

end Stophammer
