import Stophammer.Db.Cascade
import Stophammer.Primary
import Stophammer.Relational.Lookup

/-!
# The record of a GUID

What the node keeps about the source of a feed: its row, the URLs that it left, the state
of its moves and the gone answers of its source.  Each operation changes the record of a
GUID in one of a few ways.
-/

namespace Stophammer

open Relational Statement

@[ext]
structure Record where
  row : Option FeedRow
  move : Option MoveStateRow
  left : String → Prop
  gone : Option SourceGoneAnswer

def moveRow (d : Db) (feedGuid : String) : Option MoveStateRow :=
  (d .feedMoveState).find? fun r : MoveStateRow => r.feedGuid == feedGuid

def record (d : Db) (feedGuid : String) : Record where
  row := feedRow d feedGuid
  move := moveRow d feedGuid
  left url := ({ feedGuid := feedGuid, url := url } : LeftUrlRow) ∈ d .feedLeftUrls
  gone := getSourceGoneAnswer d feedGuid

namespace Record

def empty : Record where
  row := none
  move := none
  left _ := False
  gone := none

def feedUrl (r : Record) : Option String := r.row.map fun row => row.feed.feedUrl

/-- A move adds the old URL to the left ones and takes the new one away. -/
def leave (left : String → Prop) (oldUrl newUrl url : String) : Prop :=
  (left url ∨ url = oldUrl) ∧ url ≠ newUrl

section

variable [Platform]

/-- The row of a feed with new content. -/
def storedRow (row : Option FeedRow) (feed : Feed) : FeedRow :=
  match row with
  | some r =>
    { r with
      feed := { feed with createdAt := r.feed.createdAt }
      titleSort := some (sortKey feed.title)
      feedHost := some (feedHostOf feed.feedUrl) }
  | none =>
    { feed := feed
      declaredSelfUrl := none
      declaredNewFeedUrl := none
      podcastLocked := none
      lockedOwner := none
      titleSort := some (sortKey feed.title)
      feedHost := some (feedHostOf feed.feedUrl) }

end

/-- The row with the declarations of a body. -/
def declared (body : IngestFeedData) (row : FeedRow) : FeedRow :=
  { row with
    declaredSelfUrl :=
      (body.links.find? fun link => link.linkType == "self_feed").map IngestLink.url
    declaredNewFeedUrl := body.newFeedUrl
    podcastLocked := body.locked
    lockedOwner := body.lockedOwner }

/-- The move state after a body with this tag, at the same URL. -/
def stayed (tag : Option String) (move : MoveStateRow) : MoveStateRow :=
  { move with
    arrivalTag :=
      if move.arrivalPending then tag else if move.arrivalTag = tag then move.arrivalTag else none
    arrivalPending := false }

/-- The move state after a move. -/
def moved (feedGuid : String) (mv : FeedMoveWrite) (move : Option MoveStateRow) : MoveStateRow :=
  let arrived : MoveStateRow :=
    match move with
    | some m => { m with arrivalTag := mv.arrivalTag, arrivalPending := false }
    | none =>
      { feedGuid := feedGuid
        arrivalTag := mv.arrivalTag
        returnCount := 0
        lastReturnAt := none
        arrivalPending := false }
  match mv.returnValues with
  | some (count, returnedAt) =>
    { arrived with returnCount := count, lastReturnAt := some returnedAt }
  | none => arrived

section

variable [Platform]

/-- The record after the transaction of a content, before the declarations of the body. -/
def stored (r : Record) (feed : Feed) (feedMove : Option FeedMoveWrite) : Record where
  row := some (storedRow r.row feed)
  move :=
    match feedMove with
    | some mv => some (moved feed.feedGuid mv r.move)
    | none => r.move
  left :=
    match feedMove with
    | some mv => leave r.left mv.oldUrl mv.newUrl
    | none => r.left
  gone := none

/-- The record after the content of a body. -/
def written (r : Record) (feed : Feed) (body : IngestFeedData) (recordMove : Option RecordMove) :
    Record where
  row := some (declared body (storedRow r.row feed))
  move :=
    match recordMove with
    | some mv => some (moved feed.feedGuid (feedMoveWrite body mv) r.move)
    | none => r.move.map (stayed body.newFeedUrl)
  left :=
    match recordMove with
    | some mv => leave r.left mv.oldFeedUrl mv.newFeedUrl
    | none => r.left
  gone := none

/-- The move state after a relocation. -/
def awaiting (feedGuid : String) (move : Option MoveStateRow) : MoveStateRow :=
  match move with
  | some m => { m with arrivalTag := none, returnCount := 0, arrivalPending := true }
  | none =>
    { feedGuid := feedGuid
      arrivalTag := none
      returnCount := 0
      lastReturnAt := none
      arrivalPending := true }

/-- The record after a relocation by the operator. -/
def relocated (r : Record) (feedGuid oldUrl newUrl : String) : Record where
  row := r.row.map fun row =>
    { row with
      feed := { row.feed with feedUrl := newUrl, lastBuildDate := none }
      feedHost := some (feedHostOf newUrl)
      declaredSelfUrl := none
      declaredNewFeedUrl := none }
  move := some (awaiting feedGuid r.move)
  left := leave r.left oldUrl newUrl
  gone := r.gone

end

/-- The record after a gone answer. -/
def answered (r : Record) (feedGuid sourceUrl : String) (now : Int) (status : Nat) : Record :=
  { r with
    gone := some
      (match r.gone with
        | some answer => { answer with lastGoneAt := now, lastStatus := status }
        | none =>
          { feedGuid := feedGuid
            sourceUrl := sourceUrl
            firstGoneAt := now
            lastGoneAt := now
            lastStatus := status }) }

end Record

theorem record_congr {d e : Db} (h : ∀ t ∈ recordTables, e t = d t) (feedGuid : String) :
    record e feedGuid = record d feedGuid := by
  have hfeeds : e .feeds = d .feeds := h .feeds (by decide)
  have hleft : e .feedLeftUrls = d .feedLeftUrls := h .feedLeftUrls (by decide)
  have hmove : e .feedMoveState = d .feedMoveState := h .feedMoveState (by decide)
  have hgone : e .sourceGoneAnswers = d .sourceGoneAnswers := h .sourceGoneAnswers (by decide)
  rw [record, record, feedRow, feedRow, moveRow, moveRow, getSourceGoneAnswer,
    getSourceGoneAnswer, hfeeds, hleft, hmove, hgone]

theorem record_emptyDatabase (feedGuid : String) :
    record (Database.empty schema) feedGuid = Record.empty := by
  ext1
  · rfl
  · rfl
  · funext url
    exact propext (iff_of_false (List.not_mem_nil) id)
  · rfl

theorem record_sameOutside {ts : List Table} {d e : Db} (h : SameOutside (S := schema) ts d e)
    (hts : ∀ t ∈ recordTables, t ∉ ts) (feedGuid : String) :
    record e feedGuid = record d feedGuid := record_congr (fun t ht => h t (hts t ht)) feedGuid

theorem getFeedByGuid_record (d : Db) (feedGuid : String) :
    getFeedByGuid d feedGuid = (record d feedGuid).row.map FeedRow.feed := rfl

theorem mem_getLeftUrls {d : Db} {feedGuid url : String} :
    url ∈ getLeftUrls d feedGuid ↔ (record d feedGuid).left url := by
  rw [getLeftUrls, (orderBy_perm _ _).mem_iff, List.mem_map]
  constructor
  · rintro ⟨r, hr, rfl⟩
    obtain ⟨hmem, hguid⟩ := List.mem_filter.mp hr
    rw [beq_iff_eq] at hguid
    subst hguid
    exact hmem
  · intro hleft
    exact ⟨_, List.mem_filter.mpr ⟨hleft, beq_self_eq_true _⟩, rfl⟩

section Tables

variable {d e : Db} {feedGuid guid : String}

theorem record_feeds (h : SameOutside (S := schema) [Table.feeds] d e) :
    record e guid = { record d guid with row := feedRow e guid } := by
  have hleft : e .feedLeftUrls = d .feedLeftUrls := h _ (by decide)
  have hmove : e .feedMoveState = d .feedMoveState := h _ (by decide)
  have hgone : e .sourceGoneAnswers = d .sourceGoneAnswers := h _ (by decide)
  simp only [record, moveRow, getSourceGoneAnswer, hleft, hmove, hgone]

theorem record_moveState (h : SameOutside (S := schema) [Table.feedMoveState] d e) :
    record e guid = { record d guid with move := moveRow e guid } := by
  have hfeeds : e .feeds = d .feeds := h _ (by decide)
  have hleft : e .feedLeftUrls = d .feedLeftUrls := h _ (by decide)
  have hgone : e .sourceGoneAnswers = d .sourceGoneAnswers := h _ (by decide)
  simp only [record, feedRow, getSourceGoneAnswer, hfeeds, hleft, hgone]

theorem record_leftUrls (h : SameOutside (S := schema) [Table.feedLeftUrls] d e) :
    record e guid =
      { record d guid with
        left := fun url =>
          ({ feedGuid := guid, url := url } : LeftUrlRow) ∈ e .feedLeftUrls } := by
  have hfeeds : e .feeds = d .feeds := h _ (by decide)
  have hmove : e .feedMoveState = d .feedMoveState := h _ (by decide)
  have hgone : e .sourceGoneAnswers = d .sourceGoneAnswers := h _ (by decide)
  simp only [record, feedRow, moveRow, getSourceGoneAnswer, hfeeds, hmove, hgone]

theorem record_answers (h : SameOutside (S := schema) [Table.sourceGoneAnswers] d e) :
    record e guid = { record d guid with gone := getSourceGoneAnswer e guid } := by
  have hfeeds : e .feeds = d .feeds := h _ (by decide)
  have hleft : e .feedLeftUrls = d .feedLeftUrls := h _ (by decide)
  have hmove : e .feedMoveState = d .feedMoveState := h _ (by decide)
  simp only [record, feedRow, moveRow, hfeeds, hleft, hmove]

theorem sameOutside_of_run {t : Table} {α : Type} {x : Stmt α}
    (hx : Writes (S := schema) [t] x) {r : Except DbError α} (h : x d = (r, e)) :
    SameOutside (S := schema) [t] d e := (hx.sameOutside (List.Subset.refl _)).run h

theorem deleteFeedSql_record [Platform] (h : deleteFeedSql feedGuid d = (.ok (), e)) :
    record e guid = if guid = feedGuid then Record.empty else record d guid := by
  have hrow : feedRow e guid = if guid = feedGuid then none else feedRow d guid := by
    rw [feedRow, deleteFeedSql_feeds h]
    exact find_delete (d .feeds)
  have hmove : moveRow e guid = if guid = feedGuid then none else moveRow d guid := by
    rw [moveRow, deleteFeedSql_moveState h]
    exact find_delete (d .feedMoveState)
  have hgone : getSourceGoneAnswer e guid =
      if guid = feedGuid then none else getSourceGoneAnswer d guid := by
    rw [getSourceGoneAnswer, deleteFeedSql_answers h]
    exact find_delete (d .sourceGoneAnswers)
  have hleft : ∀ url, (record e guid).left url ↔ guid ≠ feedGuid ∧ (record d guid).left url := by
    intro url
    change _ ∈ e .feedLeftUrls ↔ _
    rw [deleteFeedSql_leftUrls h, List.mem_filter, and_comm]
    simp [record]
  by_cases hguid : guid = feedGuid
  · rw [if_pos hguid] at hrow hmove hgone ⊢
    ext1
    · exact hrow
    · exact hmove
    · funext url
      exact propext ((hleft url).trans (iff_of_false (fun h => h.1 hguid) id))
    · exact hgone
  · rw [if_neg hguid] at hrow hmove hgone ⊢
    ext1
    · exact hrow
    · exact hmove
    · funext url
      simp [hleft, hguid]
    · exact hgone

theorem updateFeeds_record {f : FeedRow → FeedRow} {a : Unit}
    (h : update (S := schema) .feeds (fun r : FeedRow => r.feed.feedGuid == feedGuid) f d =
      (.ok a, e))
    (hf : ∀ r, (f r).feed.feedGuid = r.feed.feedGuid) :
    record e guid =
      if guid = feedGuid then { record d guid with row := (record d guid).row.map f }
      else record d guid := by
  have hrow := update_lookup (S := schema) (t := .feeds) (fun r : FeedRow => r.feed.feedGuid) h
    (fun r hr => (hf r).trans hr) guid
  rw [record_feeds (sameOutside_of_run (Writes.update (by decide)) h), feedRow, hrow]
  split
  · rfl
  · rfl

theorem updateMoveState_record {f : MoveStateRow → MoveStateRow} {a : Unit}
    (h : update (S := schema) .feedMoveState (fun r : MoveStateRow => r.feedGuid == feedGuid) f d =
      (.ok a, e))
    (hf : ∀ r, (f r).feedGuid = r.feedGuid) :
    record e guid =
      if guid = feedGuid then { record d guid with move := (record d guid).move.map f }
      else record d guid := by
  have hrow := update_lookup (S := schema) (t := .feedMoveState)
    (fun r : MoveStateRow => r.feedGuid) h (fun r hr => (hf r).trans hr) guid
  rw [record_moveState (sameOutside_of_run (Writes.update (by decide)) h), moveRow, hrow]
  split
  · rfl
  · rfl

theorem upsertMoveState_record {r : MoveStateRow} {f : MoveStateRow → MoveStateRow} {a : Unit}
    (h : upsert (S := schema) .feedMoveState (fun r' : MoveStateRow => r'.feedGuid == feedGuid)
      r f d = (.ok a, e))
    (hr : r.feedGuid = feedGuid) (hf : ∀ r', (f r').feedGuid = r'.feedGuid) :
    record e guid =
      if guid = feedGuid then
        { record d guid with move := some (((record d guid).move.map f).getD r) }
      else record d guid := by
  have hrow := upsert_lookup (S := schema) (t := .feedMoveState)
    (fun r : MoveStateRow => r.feedGuid) h hr (fun r' hr' => (hf r').trans hr') guid
  rw [record_moveState (sameOutside_of_run (Writes.upsert (by decide)) h), moveRow, hrow]
  split
  · rfl
  · rfl

theorem leaveUrl_record {oldUrl newUrl : String} {a : Unit}
    (h : (addLeftUrl feedGuid oldUrl >>= fun _ => removeLeftUrl feedGuid newUrl) d = (.ok a, e)) :
    record e guid =
      if guid = feedGuid then
        { record d guid with left := Record.leave (record d guid).left oldUrl newUrl }
      else record d guid := by
  have hsame : SameOutside (S := schema) [Table.feedLeftUrls] d e :=
    sameOutside_of_run
      (((Writes.insertOrIgnore (by decide)).bind fun _ => Writes.pure _).bind fun _ =>
        Writes.delete (by decide)) h
  obtain ⟨_, d₁, hadd, hremove⟩ := bind_ok h
  obtain ⟨b, d₂, hinsert, hpure⟩ := bind_ok hadd
  cases hpure
  have hrow : ∀ r, r ∈ e .feedLeftUrls ↔
      (r ∈ d .feedLeftUrls ∨ r = { feedGuid := feedGuid, url := oldUrl }) ∧
        ¬ (r.feedGuid = feedGuid ∧ r.url = newUrl) := by
    intro r
    have hkey : ∀ (r' : LeftUrlRow) (k : Key),
        k ∈ Table.keys .feedLeftUrls { feedGuid := feedGuid, url := oldUrl } →
          k ∈ Table.keys .feedLeftUrls r' → r' = { feedGuid := feedGuid, url := oldUrl } := by
      intro r' k hk hk'
      simp only [Table.keys, List.mem_singleton] at hk hk'
      cases hk.symm.trans hk'
      rfl
    rw [← insertOrIgnore_mem (S := schema) (t := .feedLeftUrls) hinsert rfl hkey r,
      modify_ok_rows (S := schema) (t := .feedLeftUrls) hremove, List.mem_filter]
    simp [imp_iff_not_or]
  rw [record_leftUrls hsame]
  by_cases hguid : guid = feedGuid
  · rw [if_pos hguid]
    ext1
    · rfl
    · rfl
    · funext url
      apply propext
      simp only [hrow, hguid, LeftUrlRow.mk.injEq, true_and, Record.leave]
      rfl
    · rfl
  · rw [if_neg hguid]
    ext1
    · rfl
    · rfl
    · funext url
      apply propext
      simp only [hrow, hguid, LeftUrlRow.mk.injEq, false_and, or_false, not_false_eq_true, and_true]
      rfl
    · rfl

theorem writeFeedMove_record {mv : FeedMoveWrite} {a : Unit}
    (h : writeFeedMove feedGuid mv d = (.ok a, e)) :
    record e guid =
      if guid = feedGuid then
        { record d guid with
          left := Record.leave (record d guid).left mv.oldUrl mv.newUrl
          move := some (Record.moved feedGuid mv (record d guid).move) }
      else record d guid := by
  have hsplit : writeFeedMove feedGuid mv =
      (addLeftUrl feedGuid mv.oldUrl >>= fun _ => removeLeftUrl feedGuid mv.newUrl) >>= fun _ =>
        upsert (S := schema) .feedMoveState (fun r : MoveStateRow => r.feedGuid == feedGuid)
          { feedGuid := feedGuid
            arrivalTag := mv.arrivalTag
            returnCount := 0
            lastReturnAt := none
            arrivalPending := false }
          (fun r : MoveStateRow => { r with arrivalTag := mv.arrivalTag, arrivalPending := false })
        >>= fun _ =>
          match mv.returnValues with
          | some (count, returnedAt) =>
            update (S := schema) .feedMoveState (fun r : MoveStateRow => r.feedGuid == feedGuid)
              (fun r : MoveStateRow =>
                { r with returnCount := count, lastReturnAt := some returnedAt })
          | none => pure () := by
    rw [bind_assoc]
    rfl
  rw [hsplit] at h
  obtain ⟨_, d₁, hleave, hrest⟩ := bind_ok h
  obtain ⟨_, d₂, harrive, hreturn⟩ := bind_ok hrest
  have hleft : record d₁ guid = _ := leaveUrl_record hleave
  have hmove : record d₂ guid = _ := upsertMoveState_record harrive rfl fun _ => rfl
  by_cases hguid : guid = feedGuid
  · rw [if_pos hguid] at hleft ⊢
    rw [if_pos hguid, hleft] at hmove
    cases hvalues : mv.returnValues with
    | none =>
      rw [hvalues] at hreturn
      cases hreturn
      rw [hmove]
      simp only [Record.moved, hvalues]
      cases (record d guid).move <;> rfl
    | some values =>
      rw [hvalues] at hreturn
      rw [updateMoveState_record hreturn fun _ => rfl, if_pos hguid, hmove]
      simp only [Record.moved, hvalues]
      cases (record d guid).move <;> rfl
  · rw [if_neg hguid] at hleft ⊢
    rw [if_neg hguid, hleft] at hmove
    cases hvalues : mv.returnValues with
    | none =>
      rw [hvalues] at hreturn
      cases hreturn
      exact hmove
    | some values =>
      rw [hvalues] at hreturn
      rw [updateMoveState_record hreturn fun _ => rfl, if_neg hguid, hmove]

section

variable [Platform]

theorem writeFeed_record {feed : Feed} {a : Unit} (h : writeFeed feed d = (.ok a, e)) :
    record e guid =
      if guid = feed.feedGuid then
        { record d guid with
          row := some (Record.storedRow (record d guid).row feed)
          gone := none }
      else record d guid := by
  obtain ⟨_, d₁, hupsert, hrest⟩ := bind_ok h
  obtain ⟨_, d₂, hanswers, hholds⟩ := bind_ok hrest
  have hrow : feedRow d₁ guid = _ := upsert_lookup (S := schema) (t := .feeds)
    (fun r : FeedRow => r.feed.feedGuid) hupsert rfl (fun _ _ => rfl) guid
  have hfeeds : record d₁ guid = _ :=
    record_feeds (sameOutside_of_run (Writes.upsert (by decide)) hupsert)
  have hgone : getSourceGoneAnswer d₂ guid = _ := delete_lookup (S := schema)
    (t := .sourceGoneAnswers) (fun r : SourceGoneAnswer => r.feedGuid) hanswers guid
  have hanswered : record d₂ guid = _ :=
    record_answers (sameOutside_of_run (Writes.delete (by decide)) hanswers)
  have hholds : SameOutside (S := schema) [Table.retiredSourceHolds] d₂ e :=
    sameOutside_of_run (Writes.delete (by decide)) hholds
  have hsame : record e guid = record d₂ guid := record_sameOutside hholds (by decide) guid
  rw [hsame, hanswered, hgone, hfeeds, hrow]
  by_cases hguid : guid = feed.feedGuid
  · rw [if_pos hguid, if_pos hguid, if_pos hguid]
    simp only [record, feedRow]
    cases (d .feeds).find? fun r : FeedRow => r.feed.feedGuid == guid with
    | none => rfl
    | some r => rfl
  · rw [if_neg hguid, if_neg hguid, if_neg hguid]
    have hkeep : getSourceGoneAnswer d₁ guid = getSourceGoneAnswer d guid :=
      congrArg Record.gone hfeeds
    rw [← getSourceGoneAnswer, hkeep]
    rfl

theorem ingestTransaction_record {env : PrimaryEnv} {removalUuid : Nat → String}
    {c : IngestContent} {eventRows : List EventRow} {feedMove : Option FeedMoveWrite}
    {seqs : List (Int × String × String)}
    (h : ingestTransaction env removalUuid c eventRows feedMove d = (.ok seqs, e)) :
    record e guid =
      if guid = c.feed.feedGuid then (record d guid).stored c.feed feedMove else record d guid := by
  have h := transaction_ok.mp h
  obtain ⟨_, d₁, hfeed, h⟩ := bind_ok h
  obtain ⟨_, d₂, hsets, h⟩ := bind_ok h
  obtain ⟨stale, d₃, hstale, h⟩ := bind_ok h
  cases hstale
  obtain ⟨_, d₄, htracks, h⟩ := bind_ok h
  obtain ⟨_, d₅, hremoved, h⟩ := bind_ok h
  obtain ⟨seqs', d₆, hevents, h⟩ := bind_ok h
  obtain ⟨_, d₇, hmodels, h⟩ := bind_ok h
  have hothers : record d₇ guid = record d₁ guid := by
    have hsame : ∀ {ts : List Table} {α : Type} {x : Stmt α} {d e : Db} {a : α},
        Writes (S := schema) ts x → x d = (.ok a, e) → (∀ t ∈ recordTables, t ∉ ts) →
          record e guid = record d guid := by
      intro ts α x d e a hx hrun hts
      exact record_sameOutside ((hx.sameOutside (List.Subset.refl _)).run hrun) hts guid
    rw [hsame syncSourceReadModelsForFeed_writes hmodels (by decide),
      hsame insertEvents_writes hevents (by decide),
      hsame (Writes.forEach fun _ => removeStaleTrack_writes) hremoved (by decide),
      hsame (Writes.forEach fun _ => writeTrack_writes) htracks (by decide),
      hsame replaceFeedSets_writes hsets (by decide)]
  have hstored : record d₁ guid = _ := writeFeed_record hfeed
  cases feedMove with
  | none =>
    cases h
    rw [hothers, hstored]
    rfl
  | some mv =>
    obtain ⟨_, d₈, hmove, hpure⟩ := bind_ok h
    cases hpure
    rw [writeFeedMove_record hmove, hothers, hstored]
    split
    · rfl
    · rfl

end

end Tables

end Stophammer
