import Stophammer.Recording
import Stophammer.Replay
import Stophammer.Words

/-!
# Blocks

The operator blocks a GUID or a URL and lifts a block again.  Each request normalizes its
value, the lookup of a submission normalizes the values that it checks, and each replica
normalizes the value of the event.
-/

namespace Stophammer

open Relational Statement

section

variable [Platform] {d e : Db}

/-- Lower-casing a lower-cased text leaves it, and lower-casing puts no white space at an
end of a text. -/
structure LowercaseLaw : Prop where
  again : ∀ text, toLowercase (toLowercase text) = toLowercase text
  ends : ∀ text, trim (toLowercase (trim text)) = toLowercase (trim text)

theorem normalize_normalize (hlower : LowercaseLaw) (kind : FeedBlockKind) (value : String) :
    kind.normalize (kind.normalize value) = kind.normalize value := by
  cases kind with
  | guid => exact (congrArg toLowercase (hlower.ends value)).trans (hlower.again _)
  | url => exact trim_trim value

def FeedBlock.stored (block : FeedBlock) : FeedBlock :=
  { block with value := block.kind.normalize block.value }

/-- A row has the id of the block or its pair of kind and value. -/
def FeedBlock.taken (rows : List FeedBlock) (block : FeedBlock) : Bool :=
  rows.any fun r => r.blockId == block.blockId ||
    (r.kind == block.kind && r.value == block.kind.normalize block.value)

omit [Platform] in
theorem insertOrIgnore_run {S : Schema} {t : S.Table} {r : S.Row t} (hrefs : S.refs t r = [])
    (hcheck : S.check t r = true) (d : Database S) :
    ∃ e, insertOrIgnore t r d = (.ok (decide (∀ k ∈ S.keys t r, ¬ d.Has k)), e) ∧
      e.contents = if ∀ k ∈ S.keys t r, ¬ d.Has k then d.contents.set t (d t ++ [r])
        else d.contents := by
  by_cases hfresh : ∀ k ∈ S.keys t r, ¬ d.Has k
  · have hadmits : d.Admits t r := by
      refine ⟨hfresh, hcheck, fun k hk => ?_⟩
      rw [hrefs] at hk
      cases hk
    obtain ⟨e, hrun, hcontents⟩ := insertOrIgnore_ok d hadmits
    exact ⟨e, by rw [hrun, decide_eq_true hfresh], by rw [hcontents, if_pos hfresh]⟩
  · refine ⟨d, ?_, by rw [if_neg hfresh]⟩
    rw [insertOrIgnore_skip d fun h => hfresh h.1, decide_eq_false hfresh]

omit [Platform] in
theorem has_block (d : Db) (blockId : String) :
    d.Has (S := schema) (.block blockId) ↔ ∃ r ∈ d .feedBlocks, r.blockId = blockId := by
  have hkey (r : FeedBlock) : Key.block blockId ∈ schema.keys .feedBlocks r ↔
      r.blockId = blockId := by
    simp [schema, Table.keys, eq_comm]
  simp only [Database.has_iff (S := schema) (t := .feedBlocks) (k := .block blockId) rfl, hkey]

omit [Platform] in
theorem has_blockValue (d : Db) (kind : FeedBlockKind) (value : String) :
    d.Has (S := schema) (.blockValue kind value) ↔
      ∃ r ∈ d .feedBlocks, r.kind = kind ∧ r.value = value := by
  have hkey (r : FeedBlock) : Key.blockValue kind value ∈ schema.keys .feedBlocks r ↔
      r.kind = kind ∧ r.value = value := by
    simp [schema, Table.keys, eq_comm]
  simp only [Database.has_iff (S := schema) (t := .feedBlocks) (k := .blockValue kind value) rfl,
    hkey]

theorem fresh_iff_taken (d : Db) (block : FeedBlock) :
    (∀ k ∈ schema.keys .feedBlocks block.stored, ¬ d.Has k) ↔
      block.taken (d .feedBlocks) = false := by
  have hkeys : schema.keys .feedBlocks block.stored =
      [.block block.blockId, .blockValue block.kind (block.kind.normalize block.value)] := rfl
  rw [hkeys, FeedBlock.taken, List.any_eq_false]
  simp only [List.mem_cons, List.not_mem_nil, or_false, forall_eq_or_imp, forall_eq, has_block,
    has_blockValue, not_exists, not_and, Bool.or_eq_true, Bool.and_eq_true, beq_iff_eq, not_or]
  exact forall₂_and.symm

theorem insertFeedBlock_eq (block : FeedBlock) :
    insertFeedBlock block = (insertOrIgnore (S := schema) .feedBlocks block.stored >>= fun changed =>
      (if changed && block.kind == .url then
        delete (S := schema) .feedCopies fun r : FeedCopyRow =>
          r.url == block.kind.normalize block.value
      else pure ()) >>= fun _ => pure changed) := by
  rw [insertFeedBlock]
  congr 1
  funext changed
  split <;> rfl

theorem insertFeedBlock_run (block : FeedBlock) (d : Db) :
    ∃ e, insertFeedBlock block d = (.ok (!block.taken (d .feedBlocks)), e) ∧
      e .feedBlocks = (if block.taken (d .feedBlocks) then d .feedBlocks
        else d .feedBlocks ++ [block.stored]) ∧
      (block.taken (d .feedBlocks) = true → e = d) := by
  obtain ⟨t, hrun, hcontents⟩ := insertOrIgnore_run (S := schema) (t := .feedBlocks)
    (r := block.stored) rfl rfl d
  rw [insertFeedBlock_eq, bind_run_ok hrun]
  cases htaken : block.taken (d .feedBlocks) with
  | true =>
    have hold : ¬ ∀ k ∈ schema.keys .feedBlocks block.stored, ¬ d.Has k := by
      rw [fresh_iff_taken, htaken]
      exact Bool.noConfusion
    rw [if_neg hold] at hcontents
    have hsame : t = d := Database.ext fun u => congrFun hcontents u
    refine ⟨d, ?_, rfl, fun _ => rfl⟩
    rw [decide_eq_false hold, hsame]
    rfl
  | false =>
    have hnew : ∀ k ∈ schema.keys .feedBlocks block.stored, ¬ d.Has k :=
      (fresh_iff_taken d block).mpr htaken
    rw [if_pos hnew] at hcontents
    rw [decide_eq_true hnew]
    have hrows : t .feedBlocks = d .feedBlocks ++ [block.stored] := by
      rw [hcontents, Contents.set_same]
    cases hkind : (block.kind == .url) with
    | false =>
      refine ⟨t, ?_, hrows, fun h => by cases h⟩
      simp [pure_bind_run, pure_run]
    | true =>
      have hends : Ends (delete (S := schema) .feedCopies fun r : FeedCopyRow =>
          r.url == block.kind.normalize block.value) := ends_delete (by decide)
      obtain ⟨_, u, hdelete⟩ := hends t
      refine ⟨u, ?_, ?_, fun h => by cases h⟩
      · simp only [Bool.true_and, if_true]
        rw [bind_run_ok hdelete]
        rfl
      · have hwrites : Writes (S := schema) [Table.feedCopies] (delete (S := schema) .feedCopies
            fun r : FeedCopyRow => r.url == block.kind.normalize block.value) :=
          Writes.delete (by decide)
        rw [← hrows]
        exact (hwrites .feedBlocks (by decide)).run hdelete

omit [Platform] in
theorem deleteFeedBlock_run (blockId : String) (d : Db) :
    ∃ e, deleteFeedBlock blockId d = (.ok (), e) ∧
      e .feedBlocks = (d .feedBlocks).filter (fun r : FeedBlock => !(r.blockId == blockId)) ∧
      e .events = d .events := by
  have hleaf : Database.Leaf (S := schema) .feedBlocks :=
    leaf_of_ne (by decide) (by decide)
  obtain ⟨e, hrun, hcontents⟩ := delete_ok d hleaf fun r : FeedBlock => r.blockId == blockId
  refine ⟨e, hrun, ?_, ?_⟩
  · rw [hcontents, Contents.set_same]
  · rw [hcontents, Contents.set_other (by decide)]

def blockTypes : List EventType := [.feedBlocked, .feedUnblocked]

def FeedBlockedPayload.block (p : FeedBlockedPayload) : FeedBlock where
  blockId := p.blockId
  kind := p.kind
  value := p.value
  reason := p.reason
  blockedAt := p.blockedAt

/-- What the event of the payload makes of the rows. -/
def replayBlocks (rows : List FeedBlock) : EventPayload → List FeedBlock
  | .feedBlocked p => if p.block.taken rows then rows else rows ++ [p.block.stored]
  | .feedUnblocked p => rows.filter fun r => !(r.blockId == p.blockId)
  | _ => rows

theorem replayBlocks_other {rows : List FeedBlock} {payload : EventPayload}
    (h : payload.eventType ∉ blockTypes) : replayBlocks rows payload = rows := by
  cases payload with
  | feedBlocked p => exact absurd List.mem_cons_self h
  | feedUnblocked p => exact absurd (List.mem_cons_of_mem _ List.mem_cons_self) h
  | _ => rfl

theorem applyPayload_feedBlocks (createdAt : Int) (payload : EventPayload) (d : Db) :
    (applyPayload createdAt payload d).2 .feedBlocks = replayBlocks (d .feedBlocks) payload := by
  by_cases htype : payload.eventType ∈ blockTypes
  · cases payload with
    | feedBlocked p =>
      obtain ⟨e, hrun, hrows, -⟩ := insertFeedBlock_run p.block d
      change ((insertFeedBlock p.block >>= fun _ => pure ()) d).2 .feedBlocks = _
      rw [bind_run_ok hrun]
      exact hrows
    | feedUnblocked p =>
      obtain ⟨e, hrun, hrows, -⟩ := deleteFeedBlock_run p.blockId d
      rw [applyPayload, hrun]
      exact hrows
    | _ => simp [blockTypes, EventPayload.eventType] at htype
  · rw [replayBlocks_other htype]
    refine applyPayload_writes_of createdAt payload .feedBlocks ?_ d
    generalize payload.eventType = τ at htype
    cases τ with
    | feedBlocked => exact absurd List.mem_cons_self htype
    | feedUnblocked => exact absurd (List.mem_cons_of_mem _ List.mem_cons_self) htype
    | _ => decide

/-- The rows of the blocks, which the nodes share. -/
def blocksView : SharedView (List FeedBlock) where
  view d := d .feedBlocks
  tables := [.feedBlocks]
  types := blockTypes
  replay := replayBlocks
  Applies _ := True
  tables_shared := by decide
  types_stored := by decide
  view_congr _ _ h := h .feedBlocks List.mem_cons_self
  replay_other _ _ := replayBlocks_other
  applies_other _ _ := trivial
  view_applyPayload createdAt payload d _ := applyPayload_feedBlocks createdAt payload d

/-- What a request did to the blocks: the id, the kind and the value of the request for a new
row, and the id for a row that it removed. -/
inductive BlockChange where
  | inserted (blockId : String) (kind : FeedBlockKind) (value : String)
  | removed (blockId : String)
deriving DecidableEq

def AdminRequest.blockChange (env : OperatorEnv) (d : Db) : AdminRequest → Option BlockChange
  | .createBlock kind value reason =>
    if (kind.normalize value).isEmpty || (trim reason).isEmpty then none
    else
      match (Stophammer.createBlock env kind (kind.normalize value) (trim reason) d).1 with
      | .ok (.created block _) => some (.inserted block.blockId kind value)
      | _ => none
  | .deleteBlock blockId =>
    match (removeBlock env blockId d).1 with
    | .ok (some _) => some (.removed blockId)
    | _ => none
  | _ => none

def RunStep.blockChange (s : RunStep) : Option BlockChange :=
  match s.operation with
  | .admin env true request => request.blockChange env s.before
  | _ => none

/-- The changes of a run, the first one first. -/
def blockChanges : List RunStep → List BlockChange
  | [] => []
  | s :: history => blockChanges history ++ s.blockChange.toList

/-- The block was inserted and not removed since. -/
def Standing (changes : List BlockChange) (blockId : String) (kind : FeedBlockKind)
    (value : String) : Prop :=
  ∃ before after, changes = before ++ .inserted blockId kind value :: after ∧
    .removed blockId ∉ after

omit [Platform] in
theorem standing_append {changes : List BlockChange} {change : BlockChange}
    {blockId value : String} {kind : FeedBlockKind} :
    Standing (changes ++ [change]) blockId kind value ↔
      Standing changes blockId kind value ∧ change ≠ .removed blockId ∨
        change = .inserted blockId kind value := by
  constructor
  · rintro ⟨before, after, heq, hnot⟩
    rcases List.eq_nil_or_concat' after with rfl | ⟨init, last, rfl⟩
    · exact Or.inr (List.singleton_inj.mp (List.append_inj' heq rfl).2)
    · rw [← List.cons_append, ← List.append_assoc] at heq
      obtain ⟨hchanges, hlast⟩ := List.append_inj' heq rfl
      rw [List.singleton_inj.mp hlast]
      refine Or.inl ⟨⟨before, init, hchanges, fun h => hnot (List.mem_append_left _ h)⟩, ?_⟩
      rintro rfl
      exact hnot (List.mem_append_right _ (List.mem_singleton_self _))
  · rintro (⟨⟨before, after, rfl, hnot⟩, hother⟩ | rfl)
    · refine ⟨before, after ++ [change], by simp, ?_⟩
      simpa [hnot] using Ne.symm hother
    · exact ⟨changes, [], rfl, List.not_mem_nil⟩

def requestedBlock (env : OperatorEnv) (kind : FeedBlockKind) (value reason : String) :
    FeedBlock where
  blockId := env.uuid 0
  kind := kind
  value := value
  reason := reason
  blockedAt := env.now

theorem createBlock_cases (env : OperatorEnv) (kind : FeedBlockKind) (value reason : String)
    (d : Db) :
    ((createBlock env kind value reason d).2 = d ∧
      ∀ block signed, (createBlock env kind value reason d).1 ≠ .ok (.created block signed)) ∨
    ∃ b t signed e, getFeedBlockByPair d kind value = none ∧
      insertFeedBlock (requestedBlock env kind value reason) d = (.ok b, t) ∧
      signEventRow env.signer
        (feedBlockedEventRow (requestedBlock env kind value reason) env.now (env.uuid 1)) t =
          (.ok signed, e) ∧
      createBlock env kind value reason d =
        (.ok (.created (requestedBlock env kind value reason) signed), e) := by
  rcases hrun : createBlock env kind value reason d with ⟨err | outcome, e⟩
  · exact Or.inl ⟨transaction_error hrun, fun _ _ h => by cases h⟩
  · have hbody := transaction_ok.mp hrun
    rw [read_bind_run] at hbody
    cases hpair : getFeedBlockByPair d kind value with
    | some existing =>
      rw [hpair] at hbody
      cases hbody
      exact Or.inl ⟨rfl, fun _ _ h => by cases h⟩
    | none =>
      rw [hpair] at hbody
      obtain ⟨b, t, hinsert, hrest⟩ := bind_ok hbody
      obtain ⟨signed, u, hsign, hpure⟩ := bind_ok hrest
      cases hpure
      exact Or.inr ⟨b, t, signed, e, rfl, hinsert, hsign, rfl⟩

theorem removeBlock_cases (env : OperatorEnv) (blockId : String) (d : Db) :
    ((removeBlock env blockId d).2 = d ∧
      ∀ signed, (removeBlock env blockId d).1 ≠ .ok (some signed)) ∨
    ∃ t signed e, deleteFeedBlock blockId d = (.ok (), t) ∧
      signEventRow env.signer (eventDraft (.feedUnblocked { blockId := blockId }) blockId env.now []
        (env.uuid 0)) t = (.ok signed, e) ∧
      removeBlock env blockId d = (.ok (some signed), e) := by
  rcases hrun : removeBlock env blockId d with ⟨err | outcome, e⟩
  · exact Or.inl ⟨transaction_error hrun, fun _ h => by cases h⟩
  · have hbody := transaction_ok.mp hrun
    rw [read_bind_run] at hbody
    split at hbody
    · obtain ⟨_, t, hdelete, hrest⟩ := bind_ok hbody
      obtain ⟨signed, u, hsign, hpure⟩ := bind_ok hrest
      cases hpure
      exact Or.inr ⟨t, signed, e, hdelete, hsign, rfl⟩
    · cases hbody
      exact Or.inl ⟨rfl, fun _ h => by cases h⟩

/-- A row of `feed_blocks` stands for a block that was inserted and not removed, and no such
block has an empty value. -/
structure RowsStand (changes : List BlockChange) (d : Db) : Prop where
  rows : ∀ blockId kind stored,
    (∃ r ∈ d .feedBlocks, r.blockId = blockId ∧ r.kind = kind ∧ r.value = stored) ↔
      ∃ value, Standing changes blockId kind value ∧ kind.normalize value = stored
  full : ∀ blockId kind value, Standing changes blockId kind value → kind.normalize value ≠ ""

/-- An operation of a run in which only requests change blocks.  The id of a new block is no
id of another. -/
def Operation.BlockRequest (d : Db) : Operation → Prop
  | .admin env _ (.createBlock _ _ _) =>
    ∀ r ∈ d .feedBlocks, r.blockId ≠ env.uuid 0
  | .admin _ _ (.deleteBlock _) => True
  | operation => operation.next d .feedBlocks = d .feedBlocks ∧
      rowsOf blockTypes (operation.next d) = rowsOf blockTypes d

/-- A step of a run: the rows still stand for the blocks, and their events still give them. -/
structure BlockStep (d e : Db) (change : Option BlockChange) : Prop where
  stands : ∀ changes, RowsStand changes d → RowsStand (changes ++ change.toList) e
  replays : blocksView.Replays d → blocksView.Replays e

theorem BlockStep.same (hrows : e .feedBlocks = d .feedBlocks)
    (hlog : rowsOf blockTypes e = rowsOf blockTypes d) : BlockStep d e none where
  stands changes h := by
    rw [Option.toList_none, List.append_nil]
    exact ⟨by rw [hrows]; exact h.rows, h.full⟩
  replays h := h.same hlog hrows

theorem BlockStep.refl : BlockStep d d none := .same rfl rfl

theorem BlockStep.inserted (hlower : LowercaseLaw) {env : OperatorEnv} {kind : FeedBlockKind}
    {value reason : String} {b : Bool} {t : Db} {signed : SignedEventRow}
    (hvalue : kind.normalize value ≠ "")
    (hid : ∀ r ∈ d .feedBlocks, r.blockId ≠ env.uuid 0)
    (hpair : getFeedBlockByPair d kind (kind.normalize value) = none)
    (hinsert : insertFeedBlock (requestedBlock env kind (kind.normalize value) reason) d = (.ok b, t))
    (hsign : signEventRow env.signer (feedBlockedEventRow
      (requestedBlock env kind (kind.normalize value) reason) env.now (env.uuid 1)) t =
        (.ok signed, e)) :
    BlockStep d e (some (.inserted (env.uuid 0) kind value)) := by
  have hnormal := normalize_normalize hlower kind value
  have htaken : (requestedBlock env kind (kind.normalize value) reason).taken (d .feedBlocks) =
      false := by
    rw [FeedBlock.taken, List.any_eq_false]
    intro r hr
    have hother := List.find?_eq_none.mp hpair r hr
    simp only [requestedBlock, Bool.or_eq_true, beq_iff_eq, not_or]
    exact ⟨hid r hr, by simpa using hother⟩
  obtain ⟨u, hrun, hrows, -⟩ :=
    insertFeedBlock_run (requestedBlock env kind (kind.normalize value) reason) d
  rw [hinsert] at hrun
  cases hrun
  rw [htaken, if_neg Bool.false_ne_true] at hrows
  have hlog : t .events = d .events :=
    (insertFeedBlock_writes .events (by decide)).run hinsert
  have hlater : e .feedBlocks = t .feedBlocks :=
    (signEventRow_writes .feedBlocks (by decide)).run hsign
  have hstored : (requestedBlock env kind (kind.normalize value) reason).stored =
      requestedBlock env kind (kind.normalize value) reason := by
    rw [FeedBlock.stored, requestedBlock, hnormal]
  rw [hstored] at hrows
  constructor
  · intro changes hstands
    constructor
    · intro blockId kind' stored
      rw [hlater, hrows]
      simp only [Option.toList_some, standing_append, List.mem_append, List.mem_singleton,
        or_and_right, exists_or, exists_eq_left, hstands.rows blockId kind' stored, requestedBlock,
        BlockChange.inserted.injEq, reduceCtorEq, ne_eq, not_false_eq_true, and_true]
      apply or_congr Iff.rfl
      constructor
      · rintro ⟨hid', rfl, hstored'⟩
        exact ⟨value, ⟨hid', rfl, rfl⟩, hstored'⟩
      · rintro ⟨new, ⟨hid', rfl, rfl⟩, hstored'⟩
        exact ⟨hid', rfl, hstored'⟩
    · intro blockId kind' value' hstanding
      rcases standing_append.mp hstanding with ⟨hold, -⟩ | hnew
      · exact hstands.full blockId kind' value' hold
      · cases hnew
        exact hvalue
  · intro hreplays
    have hreplay : replayBlocks (d .feedBlocks) (.feedBlocked
        ⟨env.uuid 0, kind, kind.normalize value, reason, env.now⟩) =
          d .feedBlocks ++ [requestedBlock env kind (kind.normalize value) reason] := by
      change (if (requestedBlock env kind (kind.normalize value) reason).taken (d .feedBlocks) = true
        then _ else _ ++ [(requestedBlock env kind (kind.normalize value) reason).stored]) = _
      rw [htaken, if_neg Bool.false_ne_true, hstored]
    exact hreplays.sign hsign List.mem_cons_self trivial hlog (hrows.trans hreplay.symm)

theorem BlockStep.removed {env : OperatorEnv} {blockId : String} {t : Db}
    {signed : SignedEventRow} (hdelete : deleteFeedBlock blockId d = (.ok (), t))
    (hsign : signEventRow env.signer (eventDraft (.feedUnblocked { blockId := blockId }) blockId
      env.now [] (env.uuid 0)) t = (.ok signed, e)) :
    BlockStep d e (some (.removed blockId)) := by
  obtain ⟨u, hrun, hrows, hlog⟩ := deleteFeedBlock_run blockId d
  rw [hdelete] at hrun
  cases hrun
  have hlater : e .feedBlocks = t .feedBlocks :=
    (signEventRow_writes .feedBlocks (by decide)).run hsign
  constructor
  · intro changes hstands
    constructor
    · intro id kind stored
      have hold := hstands.rows id kind stored
      rw [hlater, hrows]
      simp only [Option.toList_some, standing_append, List.mem_filter, Bool.not_eq_true',
        beq_eq_false_iff_ne, BlockChange.removed.injEq, reduceCtorEq, or_false, ne_eq]
      constructor
      · rintro ⟨r, ⟨hr, hne⟩, hid, hkind, hstored⟩
        obtain ⟨value, hstanding, hnormal⟩ := hold.mp ⟨r, hr, hid, hkind, hstored⟩
        exact ⟨value, ⟨hstanding, fun heq => hne (hid.trans heq.symm)⟩, hnormal⟩
      · rintro ⟨value, ⟨hstanding, hne⟩, hnormal⟩
        obtain ⟨r, hr, hid, hkind, hstored⟩ := hold.mpr ⟨value, hstanding, hnormal⟩
        exact ⟨r, ⟨hr, fun heq => hne (heq.symm.trans hid)⟩, hid, hkind, hstored⟩
    · intro id kind value hstanding
      rcases standing_append.mp hstanding with ⟨hold, -⟩ | hnew
      · exact hstands.full id kind value hold
      · cases hnew
  · intro hreplays
    have hreplay : replayBlocks (d .feedBlocks) (.feedUnblocked { blockId := blockId }) =
        (d .feedBlocks).filter fun r : FeedBlock => !(r.blockId == blockId) := rfl
    exact hreplays.sign hsign (List.mem_cons_of_mem _ List.mem_cons_self) trivial hlog
      (hrows.trans hreplay.symm)

theorem handleCreateBlock_state (env : OperatorEnv) (kind : FeedBlockKind) (value reason : String)
    (d : Db) : (handleCreateBlock env kind value reason d).2 =
      if (kind.normalize value).isEmpty || (trim reason).isEmpty then d
      else (createBlock env kind (kind.normalize value) (trim reason) d).2 := by
  unfold handleCreateBlock
  dsimp only
  split
  · rfl
  · rcases hrun : createBlock env kind (kind.normalize value) (trim reason) d with
      ⟨err | outcome, t⟩
    · have hstep : dbStep (createBlock env kind (kind.normalize value) (trim reason)) d =
          (.error (ApiError.ofDb err), t) := mapError_run_error ApiError.ofDb hrun
      rw [bind_run_error hstep]
    · have hstep : dbStep (createBlock env kind (kind.normalize value) (trim reason)) d =
          (.ok outcome, t) := mapError_ok.mpr hrun
      rw [bind_run_ok hstep]
      cases outcome with
      | conflict blockId => rfl
      | created block signed =>
        have hleaves : Leaves id (dbStep (signedEvent signed)) :=
          dbStep_leaves (by unfold signedEvent; split <;> first | exact .pure _ | exact .fail _)
        exact (hleaves.bind fun ev => .pure [ev]) t

theorem handleDeleteBlock_state (env : OperatorEnv) (blockId : String) (d : Db) :
    (handleDeleteBlock env blockId d).2 = (removeBlock env blockId d).2 := by
  unfold handleDeleteBlock
  rcases hrun : removeBlock env blockId d with ⟨err | outcome, t⟩
  · have hstep : dbStep (removeBlock env blockId) d = (.error (ApiError.ofDb err), t) :=
      mapError_run_error ApiError.ofDb hrun
    rw [bind_run_error hstep]
  · have hstep : dbStep (removeBlock env blockId) d = (.ok outcome, t) := mapError_ok.mpr hrun
    rw [bind_run_ok hstep]
    cases outcome with
    | none => rfl
    | some signed =>
      have hleaves : Leaves id (dbStep (signedEvent signed)) :=
        dbStep_leaves (by unfold signedEvent; split <;> first | exact .pure _ | exact .fail _)
      exact (hleaves.bind fun ev => .pure [ev]) t

theorem blockRequest_step (hlower : LowercaseLaw) (env : OperatorEnv) (kind : FeedBlockKind)
    (value reason : String) (d : Db) (hid : ∀ r ∈ d .feedBlocks, r.blockId ≠ env.uuid 0) :
    BlockStep d (handleCreateBlock env kind value reason d).2
      (AdminRequest.blockChange env d (.createBlock kind value reason)) := by
  rw [handleCreateBlock_state, AdminRequest.blockChange]
  split
  · exact .refl
  · rename_i hfull
    rcases createBlock_cases env kind (kind.normalize value) (trim reason) d with
      ⟨hsame, hnone⟩ | ⟨b, t, signed, e, hpair, hinsert, hsign, hrun⟩
    · rw [hsame]
      split
      · rename_i block signed hcreated
        exact absurd hcreated (hnone block signed)
      · exact .refl
    · rw [hrun]
      have hvalue : kind.normalize value ≠ "" := by
        intro hempty
        simp [hempty] at hfull
      exact .inserted hlower hvalue hid hpair hinsert hsign

theorem unblockRequest_step (env : OperatorEnv) (blockId : String) (d : Db) :
    BlockStep d (handleDeleteBlock env blockId d).2
      (AdminRequest.blockChange env d (.deleteBlock blockId)) := by
  rw [handleDeleteBlock_state, AdminRequest.blockChange]
  rcases removeBlock_cases env blockId d with
    ⟨hsame, hnone⟩ | ⟨t, signed, e, hdelete, hsign, hrun⟩
  · rw [hsame]
    split
    · rename_i signed hremoved
      exact absurd hremoved (hnone signed)
    · exact .refl
  · rw [hrun]
    exact .removed hdelete hsign

theorem Operation.blockStep (hlower : LowercaseLaw) (operation : Operation) (d : Db)
    (hrequest : operation.BlockRequest d) :
    BlockStep d (operation.next d) (RunStep.blockChange ⟨d, operation⟩) := by
  cases operation with
  | admin env tokenAccepted request =>
    cases tokenAccepted with
    | false => exact .refl
    | true =>
      cases request with
      | createBlock kind value reason => exact blockRequest_step hlower env kind value reason d hrequest
      | deleteBlock blockId => exact unblockRequest_step env blockId d
      | _ => exact .same hrequest.1 hrequest.2
  | _ => exact .same hrequest.1 hrequest.2

theorem run_blocks (hlower : LowercaseLaw) {ok : Db → Operation → Prop}
    (hok : ∀ d operation, ok d operation → operation.BlockRequest d) {history : List RunStep}
    (hrun : PrimaryRun ok history d) :
    RowsStand (blockChanges history) d ∧ blocksView.Replays d := by
  induction hrun with
  | empty =>
    have hnone : ∀ blockId kind value, ¬ Standing [] blockId kind value := by
      rintro blockId kind value ⟨before, after, heq, -⟩
      simp at heq
    refine ⟨⟨fun blockId kind stored => ?_, fun _ _ _ h => absurd h (hnone _ _ _)⟩,
      blocksView.replays_empty⟩
    constructor
    · rintro ⟨r, hr, -⟩
      cases hr
    · rintro ⟨value, hstanding, -⟩
      exact absurd hstanding (hnone _ _ _)
  | step operation _ hallowed ih =>
    have hstep := operation.blockStep hlower _ (hok _ _ hallowed)
    exact ⟨hstep.stands _ ih.1, hstep.replays ih.2⟩

/-- The value is the GUID, or one of the URLs, up to normalization. -/
def AskedFor (feedGuid : Option String) (urls : List String) (kind : FeedBlockKind)
    (value : String) : Prop :=
  ∃ asked, (kind = .guid ∧ feedGuid = some asked ∨ kind = .url ∧ asked ∈ urls) ∧
    kind.normalize value = kind.normalize asked

theorem getFeedBlockByPair_isSome (d : Db) (kind : FeedBlockKind) (value : String) :
    (getFeedBlockByPair d kind value).isSome = true ↔
      ∃ r ∈ d .feedBlocks, r.kind = kind ∧ r.value = kind.normalize value := by
  rw [getFeedBlockByPair, List.find?_isSome]
  simp only [Bool.and_eq_true, beq_iff_eq]

theorem findFeedBlock_isSome (d : Db) (feedGuid : Option String) (urls : List String) :
    (findFeedBlock d feedGuid urls).isSome = true ↔
      (∃ guid, feedGuid = some guid ∧ (getFeedBlockByPair d .guid guid).isSome = true) ∨
        ∃ url ∈ urls, url ≠ "" ∧ (getFeedBlockByPair d .url url).isSome = true := by
  rw [findFeedBlock, Option.isSome_or, Bool.or_eq_true]
  apply or_congr
  · cases feedGuid <;> simp
  · rw [List.findSome?_isSome_iff]
    simp [List.mem_filter, and_assoc]

theorem RowsStand.pair {changes : List BlockChange} (h : RowsStand changes d)
    (kind : FeedBlockKind) (asked : String) :
    (getFeedBlockByPair d kind asked).isSome = true ↔
      ∃ blockId value, Standing changes blockId kind value ∧
        kind.normalize value = kind.normalize asked := by
  rw [getFeedBlockByPair_isSome]
  constructor
  · rintro ⟨r, hr, hkind, hvalue⟩
    obtain ⟨value, hstanding, hnormal⟩ := (h.rows _ _ _).mp ⟨r, hr, rfl, hkind, hvalue⟩
    exact ⟨_, value, hstanding, hnormal⟩
  · rintro ⟨blockId, value, hstanding, hnormal⟩
    obtain ⟨r, hr, -, hkind, hvalue⟩ := (h.rows _ _ _).mpr ⟨value, hstanding, hnormal⟩
    exact ⟨r, hr, hkind, hvalue⟩

theorem RowsStand.find {changes : List BlockChange} (h : RowsStand changes d)
    (feedGuid : Option String) (urls : List String) :
    (findFeedBlock d feedGuid urls).isSome = true ↔
      ∃ blockId kind value, Standing changes blockId kind value ∧
        AskedFor feedGuid urls kind value := by
  rw [findFeedBlock_isSome]
  simp only [h.pair]
  constructor
  · rintro (⟨guid, hguid, blockId, value, hstanding, hnormal⟩ |
      ⟨url, hurl, -, blockId, value, hstanding, hnormal⟩)
    · exact ⟨blockId, .guid, value, hstanding, guid, Or.inl ⟨rfl, hguid⟩, hnormal⟩
    · exact ⟨blockId, .url, value, hstanding, url, Or.inr ⟨rfl, hurl⟩, hnormal⟩
  · rintro ⟨blockId, kind, value, hstanding, asked, ⟨rfl, hguid⟩ | ⟨rfl, hurl⟩, hnormal⟩
    · exact Or.inl ⟨asked, hguid, blockId, value, hstanding, hnormal⟩
    · refine Or.inr ⟨asked, hurl, ?_, blockId, value, hstanding, hnormal⟩
      rintro rfl
      exact h.full blockId .url value hstanding (hnormal.trans (show trim "" = "" by decide))

/-- In a run in which only requests change blocks: a value is found exactly when a block that
normalizes to the same value was inserted and not removed, an insert of a pair that has a row
changes nothing, and a replica with the whole log has the same rows. -/
theorem blocks_refine (hlower : LowercaseLaw) {signer : NodeSigner} (hsound : signer.Sound)
    (hjson : JsonNonempty) {history : List RunStep}
    (hrun : PrimaryRun (fun d operation => operation.SignedBy signer ∧ operation.BlockRequest d)
      history d) :
    (∀ feedGuid urls, (findFeedBlock d feedGuid urls).isSome = true ↔
      ∃ blockId kind value, Standing (blockChanges history) blockId kind value ∧
        AskedFor feedGuid urls kind value) ∧
    (∀ block : FeedBlock, (getFeedBlockByPair d block.kind block.value).isSome = true →
      insertFeedBlock block d = (.ok false, d)) ∧
    (ReadsRows blockTypes d → ∀ (batches : List (List Event)) (limit : Int),
      (d .events).length ≤ limit → getEventsSince d 0 limit = .ok batches.flatten →
        deliverAll (batches.map (Delivery.batch true)) (Database.empty schema) .feedBlocks =
          d .feedBlocks) := by
  obtain ⟨hstands, hreplays⟩ := run_blocks hlower (fun _ _ h => h.2) hrun
  refine ⟨hstands.find, ?_, ?_⟩
  · intro block hpair
    obtain ⟨r, hr, hkind, hvalue⟩ := (getFeedBlockByPair_isSome d _ _).mp hpair
    have htaken : block.taken (d .feedBlocks) = true := by
      rw [FeedBlock.taken, List.any_eq_true]
      exact ⟨r, hr, by simp [hkind, hvalue]⟩
    obtain ⟨e, hinsert, -, hsame⟩ := insertFeedBlock_run block d
    rw [hinsert, htaken, hsame htaken]
    rfl
  · intro hreads batches limit hlimit hserved
    have hlog : SignedLog d := log_signed hsound hjson (hrun.mono fun _ _ h => h.1)
    exact hreplays.replica hlog hreads hlimit hserved

end

/-- The events of three blocks, the last of which is removed. -/
def blockRecording : Recording where
  texts :=
    [(.feedBlocked
        { blockId := "i", kind := .guid, value := "f1", reason := "spam", blockedAt := 1 },
      "\x7b\"block_id\":\"i\",\"kind\":\"guid\",\"value\":\"f1\",\"reason\":\"spam\",\"" ++
        "blocked_at\":1\x7d"),
      (.feedBlocked
         { blockId := "j", kind := .url, value := sampleUrl, reason := "spam", blockedAt := 2 },
       "\x7b\"block_id\":\"j\",\"kind\":\"url\",\"value\":\"https://a.example/feed\",\"r" ++
         "eason\":\"spam\",\"blocked_at\":2\x7d"),
      (.feedBlocked
         { blockId := "k", kind := .guid, value := "f2", reason := "spam", blockedAt := 3 },
       "\x7b\"block_id\":\"k\",\"kind\":\"guid\",\"value\":\"f2\",\"reason\":\"spam\",\"" ++
         "blocked_at\":3\x7d"),
      (.feedUnblocked { blockId := "k" },
       "\x7b\"block_id\":\"k\"\x7d")]
  signatures :=
    [{ eventId := "i0"
       payload :=
         .feedBlocked
           { blockId := "i", kind := .guid, value := "f1", reason := "spam", blockedAt := 1 }
       subjectGuid := "i"
       createdAt := 1
       seq := 1
       signature :=
         "f0199b2fe3a2eaf5509a79e6083b3a7946e938f631e253094703d0738280bae102e5054a1824a663" ++
           "fac3d5bca34b1aff79bce636c6baaa6befbc28afda88f701" },
      { eventId := "j0"
        payload :=
          .feedBlocked
            { blockId := "j", kind := .url, value := sampleUrl, reason := "spam", blockedAt := 2 }
        subjectGuid := "j"
        createdAt := 2
        seq := 2
        signature :=
          "b6655756af497b5885c8bc3598095577f41abd4ef3c283a358a14e15ca8703f095af480ef64baf4a" ++
            "be5d1926f122e8c9bedae53abd234bc473c91751016cfa01" },
      { eventId := "k0"
        payload :=
          .feedBlocked
            { blockId := "k", kind := .guid, value := "f2", reason := "spam", blockedAt := 3 }
        subjectGuid := "k"
        createdAt := 3
        seq := 3
        signature :=
          "f54442f6254691d2b43c9e68dfe201c483c57061929a7c463ce03caf0b58aee198bc0425d0ec8e3e" ++
            "62776bf7ee1b3135e0da796443a23aa10159e5d7538d220b" },
      { eventId := "o"
        payload := .feedUnblocked { blockId := "k" }
        subjectGuid := "k"
        createdAt := 4
        seq := 4
        signature :=
          "0753fe3c65f9f35866abbba3b51e377dd05975a962de6626c53b09b22f3ea2d9d1297909e33dc745" ++
            "96b320428fbc5732ff060e4a195b019c5f81b8dda7c7ce06" }]

/-- The libraries on the values of the three blocks, with the letter case of ASCII. -/
@[reducible] def blockPlatform : Platform :=
  { blockRecording.platform with toLowercase := toAsciiLowercase }

section Sample

attribute [local instance] blockPlatform

theorem blockPlatform_lowercase : LowercaseLaw where
  again := toAsciiLowercase_idem
  ends text := (trim_toAsciiLowercase (trim text)).trans (congrArg _ (trim_trim text))

def blocking (tag : Char) (now : Int) (kind : FeedBlockKind) (value : String) : Operation :=
  .admin (blockRecording.operatorEnv tag now) true (.createBlock kind value "spam")

def guidBlockedDb : Db := (blocking 'i' 1 .guid " F1 ").next (Database.empty schema)

def urlBlockedDb : Db := (blocking 'j' 2 .url "https://a.example/feed ").next guidBlockedDb

def threeBlocksDb : Db := (blocking 'k' 3 .guid "f2").next urlBlockedDb

def unblockingGuid : Operation :=
  .admin (blockRecording.operatorEnv 'o' 4) true (.deleteBlock "k")

def twoBlocksDb : Db := unblockingGuid.next threeBlocksDb

def blockHistory : List RunStep :=
  [{ before := threeBlocksDb, operation := unblockingGuid },
    { before := urlBlockedDb, operation := blocking 'k' 3 .guid "f2" },
    { before := guidBlockedDb, operation := blocking 'j' 2 .url "https://a.example/feed " },
    { before := Database.empty schema, operation := blocking 'i' 1 .guid " F1 " }]

def guidBlock (value : String) : FeedBlock where
  blockId := "i"
  kind := .guid
  value := value
  reason := "spam"
  blockedAt := 1

def urlBlock : FeedBlock where
  blockId := "j"
  kind := .url
  value := sampleUrl
  reason := "spam"
  blockedAt := 2

theorem twoBlocksDb_facts :
    (∀ r ∈ guidBlockedDb .feedBlocks, r.blockId ≠ "j") ∧
      (∀ r ∈ urlBlockedDb .feedBlocks, r.blockId ≠ "k") ∧
      (∀ r ∈ twoBlocksDb .events, r.payloadJson ≠ "null" ∧
        (Platform.decodePayload r.eventType r.payloadJson).map EventPayload.eventType =
          some r.eventType) ∧
      (twoBlocksDb .events).length = 4 ∧
      (getEventsSince twoBlocksDb 0 4).isOk = true ∧
      twoBlocksDb .feedBlocks = [guidBlock "f1", urlBlock] := by
  decide +kernel

theorem twoBlocksDb_finds :
    (findFeedBlock twoBlocksDb (some "F1\n") []).isSome = true ∧
      (findFeedBlock twoBlocksDb none ["https://a.example/feed\n"]).isSome = true ∧
      (findFeedBlock twoBlocksDb (some "F2") ["https://A.example/feed"]).isSome = false ∧
      (getFeedBlockByPair twoBlocksDb .guid "F1").isSome = true := by
  decide +kernel

theorem twoBlocksDb_run :
    PrimaryRun (fun d operation => operation.SignedBy blockRecording.signer ∧
      operation.BlockRequest d) blockHistory twoBlocksDb := by
  obtain ⟨hsecond, hthird, -⟩ := twoBlocksDb_facts
  refine .step unblockingGuid (.step (blocking 'k' 3 .guid "f2") (.step
    (blocking 'j' 2 .url "https://a.example/feed ") (.step (blocking 'i' 1 .guid " F1 ") .empty ?_)
      ?_) ?_) ?_
  · exact ⟨rfl, fun r hr => absurd hr List.not_mem_nil⟩
  · exact ⟨rfl, hsecond⟩
  · exact ⟨rfl, hthird⟩
  · exact ⟨rfl, trivial⟩

theorem twoBlocksDb_reads : ReadsRows blockTypes twoBlocksDb := by
  obtain ⟨-, -, hall, -⟩ := twoBlocksDb_facts
  exact .of_texts (fun _ => blockRecording.text_decodes (by decide)) hall

theorem blocks_refine_sample :
    (∃ blockId kind value, Standing (blockChanges blockHistory) blockId kind value ∧
        AskedFor (some "F1\n") [] kind value) ∧
      (∃ blockId kind value, Standing (blockChanges blockHistory) blockId kind value ∧
        AskedFor none ["https://a.example/feed\n"] kind value) ∧
      (¬ ∃ blockId kind value, Standing (blockChanges blockHistory) blockId kind value ∧
        AskedFor (some "F2") ["https://A.example/feed"] kind value) ∧
      insertFeedBlock (guidBlock "F1") twoBlocksDb = (.ok false, twoBlocksDb) ∧
      ∃ events, getEventsSince twoBlocksDb 0 4 = .ok events ∧
        deliverAll [Delivery.batch true events] (Database.empty schema) .feedBlocks =
          [guidBlock "f1", urlBlock] := by
  obtain ⟨-, -, -, hlength, hserved, hrows⟩ := twoBlocksDb_facts
  obtain ⟨hguid, hurl, hnone, hpair⟩ := twoBlocksDb_finds
  obtain ⟨hfind, hinsert, hreplica⟩ := blocks_refine blockPlatform_lowercase
    blockRecording.signer_sound (blockRecording.text_nonempty (by decide)) twoBlocksDb_run
  refine ⟨(hfind _ _).mp hguid, (hfind _ _).mp hurl, fun h => ?_, hinsert (guidBlock "F1") hpair,
    ?_⟩
  · rw [(hfind _ _).mpr h] at hnone
    cases hnone
  · cases hevents : getEventsSince twoBlocksDb 0 4 with
    | error err =>
      rw [hevents] at hserved
      cases hserved
    | ok events =>
      refine ⟨events, rfl, ?_⟩
      rw [← hrows]
      exact hreplica twoBlocksDb_reads [events] 4 (by rw [hlength]; rfl) (by simpa using hevents)

end Sample

end Stophammer
