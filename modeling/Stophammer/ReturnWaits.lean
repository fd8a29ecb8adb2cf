import Mathlib.Algebra.Order.Ring.Int
import Stophammer.SourceMoves

/-!
# The waits between returns

A record goes back to a URL that it left only after a wait, which doubles with each return.
-/

namespace Stophammer

open Relational Statement

def returnWait (count : Int) : Int :=
  min (returnWaitBaseSecs * 2 ^ min (count - 1).toNat 20) returnWaitLimitSecs

theorem returnWait_mono {count count' : Int} (h : count ≤ count') :
    returnWait count ≤ returnWait count' := by
  have hshift : min (count - 1).toNat 20 ≤ min (count' - 1).toNat 20 := by omega
  have hpow : (2 : Int) ^ min (count - 1).toNat 20 ≤ 2 ^ min (count' - 1).toNat 20 :=
    pow_le_pow_right₀ (by decide) hshift
  unfold returnWait returnWaitBaseSecs
  omega

theorem returnWait_bounds (count : Int) :
    returnWaitBaseSecs ≤ returnWait count ∧ returnWait count ≤ returnWaitLimitSecs := by
  have hpow : (1 : Int) ≤ 2 ^ min (count - 1).toNat 20 := one_le_pow₀ (by decide)
  unfold returnWait returnWaitBaseSecs returnWaitLimitSecs
  omega

/-- A value of 64 bits. -/
def IsI64 (n : Int) : Prop := i64Min ≤ n ∧ n ≤ i64Max

instance (n : Int) : Decidable (IsI64 n) := inferInstanceAs (Decidable (_ ∧ _))

theorem effectiveReturnCount_of_lt {count last now : Int} (hcount : 0 < count)
    (h : now - last < returnCountResetSecs) :
    effectiveReturnCount count (some last) now = count := by
  have hsaturate : saturate (now - last) < returnCountResetSecs := by
    unfold saturate i64Min i64Max returnCountResetSecs at *
    omega
  rw [effectiveReturnCount, if_pos ⟨hcount, hsaturate⟩]

theorem effectiveReturnCount_cases (count last now : Int) :
    (effectiveReturnCount count (some last) now = 0 ∧
        (count ≤ 0 ∨ returnCountResetSecs ≤ now - last)) ∨
      effectiveReturnCount count (some last) now = count ∧ 0 < count ∧
        now - last < returnCountResetSecs := by
  unfold effectiveReturnCount saturate i64Min i64Max returnCountResetSecs
  simp only
  split <;> omega

theorem returnCooldownEnd_some (count last now : Int) :
    returnCooldownEnd count (some last) now =
      if effectiveReturnCount count (some last) now < 1 then none
      else some (saturate
        (last + returnWait (effectiveReturnCount count (some last) now))) := rfl

theorem returnCooldownEnd_mono {count count' waitEnd : Int} {last : Option Int} {now : Int}
    (h : count ≤ count') (hend : returnCooldownEnd count last now = some waitEnd) :
    ∃ waitEnd', returnCooldownEnd count' last now = some waitEnd' ∧ waitEnd ≤ waitEnd' := by
  cases last with
  | none => cases hend
  | some last =>
    rw [returnCooldownEnd_some] at hend ⊢
    rcases effectiveReturnCount_cases count last now with ⟨hzero, -⟩ | ⟨heff, hpos, hrecent⟩
    · rw [hzero, if_pos (by decide)] at hend
      cases hend
    · have hpos' : 0 < count' := by omega
      rw [heff, if_neg (by omega)] at hend
      cases hend
      rw [effectiveReturnCount_of_lt hpos' hrecent, if_neg (by omega)]
      refine ⟨_, rfl, ?_⟩
      have hwait := returnWait_mono h
      unfold saturate
      omega

/-- A result that 64 bits do not hold is an overflow. -/
def checked (n : Int) : Option Int := if IsI64 n then some n else none

/-- A shift of 64 or more panics, and the bits above leave. -/
def shiftLeft64 (n : Int) (shift : Nat) : Option Int :=
  if shift < 64 then some (Int.bmod (n * 2 ^ shift) (2 ^ 64)) else none

def u32Max : Nat := 4294967295

/-- `u32::try_from(n).unwrap_or(u32::MAX)`. -/
def toU32 (n : Int) : Nat := if 0 ≤ n ∧ n ≤ u32Max then n.toNat else u32Max

/-- `return_cooldown_end` with each operation checked. -/
def checkedCooldownEnd (count : Int) (lastReturnAt : Option Int) (now : Int) :
    Option (Option Int) :=
  let effective := effectiveReturnCount count lastReturnAt now
  if effective < 1 then some none
  else do
    let above ← checked (effective - 1)
    let shifted ← shiftLeft64 returnWaitBaseSecs (min (toU32 above) 20)
    some (lastReturnAt.map fun last => saturate (last + min shifted returnWaitLimitSecs))

theorem checkedCooldownEnd_eq {count : Int} (hcount : IsI64 count) (lastReturnAt : Option Int)
    (now : Int) :
    checkedCooldownEnd count lastReturnAt now = some (returnCooldownEnd count lastReturnAt now) := by
  cases lastReturnAt with
  | none => rfl
  | some last =>
    rw [returnCooldownEnd_some, checkedCooldownEnd]
    rcases effectiveReturnCount_cases count last now with ⟨hzero, -⟩ | ⟨heff, hpos, -⟩
    · simp [hzero]
    · have hcheck : checked (count - 1) = some (count - 1) := by
        rw [checked, if_pos]
        unfold IsI64 i64Min i64Max at *
        omega
      have hshift : min (toU32 (count - 1)) 20 = min (count - 1).toNat 20 := by
        unfold toU32 u32Max
        split <;> omega
      have hbound : (2 : Int) ^ min (count - 1).toNat 20 ≤ 2 ^ 20 :=
        pow_le_pow_right₀ (by decide) (by omega)
      have hnonneg : (0 : Int) < 2 ^ min (count - 1).toNat 20 := pow_pos (by decide) _
      have hshifted : shiftLeft64 returnWaitBaseSecs (min (count - 1).toNat 20) =
          some (returnWaitBaseSecs * 2 ^ min (count - 1).toNat 20) := by
        rw [shiftLeft64, if_pos (by omega), Int.bmod_eq_of_le]
        · unfold returnWaitBaseSecs
          omega
        · unfold returnWaitBaseSecs
          omega
      simp only [heff, if_neg (show ¬ count < 1 by omega), hcheck, hshift, hshifted,
        Option.bind_eq_bind, Option.bind_some, Option.map_some, returnWait]

/-- The count of returns with the time of the last one. -/
def Record.returns (r : Record) : Int × Option Int :=
  match r.move with
  | some m => (m.returnCount, m.lastReturnAt)
  | none => (0, none)

theorem getMoveState_returns (d : Db) (guid : String) :
    ((getMoveState d guid).returnCount, (getMoveState d guid).lastReturnAt) =
      (record d guid).returns := by
  unfold getMoveState Record.returns record moveRow
  cases (d .feedMoveState).find? fun r : MoveStateRow => r.feedGuid == guid <;> rfl

/-- The record goes to a URL that it left, and stores the count and the time of it. -/
structure Record.ReturnsTo (before after : Record) (count returnedAt : Int) : Prop where
  moved : ∃ oldUrl newUrl, before.feedUrl = some oldUrl ∧ after.feedUrl = some newUrl ∧
    newUrl ≠ oldUrl ∧ before.left newUrl
  stored : after.returns = (count, some returnedAt)

/-- No wait is active, and the values are those of the next return. -/
def Record.MayReturn (r : Record) (count returnedAt : Int) : Prop :=
  (∀ waitEnd, returnCooldownEnd r.returns.1 r.returns.2 returnedAt = some waitEnd →
      waitEnd ≤ returnedAt) ∧
    count = saturate (effectiveReturnCount r.returns.1 r.returns.2 returnedAt + 1)

section

variable [Platform] {d : Db} {guid : String}

def Operation.moveTime : Operation → Option Int
  | .ingest env _ _ => some (env.now .writeMove)
  | _ => none

omit [Platform] in
theorem mayReturn_of_target {now : Int} {target : MoveTarget} {values : Int × Int}
    (hwaiting : isWaiting (getMoveState d guid) now = false)
    (hreturns : target.returnValues = some (nextReturnValues (getMoveState d guid) now))
    (hvalues : target.returnValues = some values) :
    values.2 = now ∧ (record d guid).MayReturn values.1 now := by
  have hstate := getMoveState_returns d guid
  rw [hreturns] at hvalues
  cases hvalues
  refine ⟨rfl, fun waitEnd hend => ?_, ?_⟩
  · rw [← hstate] at hend
    rw [isWaiting, hend] at hwaiting
    simpa using hwaiting
  · rw [← hstate]
    rfl

theorem admittedMove_returns {env : IngestEnv} {req : IngestFeedRequest} {body : IngestFeedData}
    {mv : RecordMove} (h : admittedMove env req body d = some mv) :
    (¬ (record d body.feedGuid).left mv.newFeedUrl ∧ mv.returnValues = none) ∨
      (record d body.feedGuid).left mv.newFeedUrl ∧ ∃ count,
        mv.returnValues = some (count, env.now .writeMove) ∧
          (record d body.feedGuid).MayReturn count (env.now .writeMove) := by
  obtain ⟨target, hdecided, -, hlands, hvalues, -⟩ := admittedMove_eq_some h
  rw [hlands, hvalues]
  rcases moveTarget_move hdecided with hredirect | hdeclared
  · rw [hredirect.lands]
    by_cases hleft : (record d body.feedGuid).left req.canonicalUrl
    · obtain ⟨hwaiting, hnext⟩ := hredirect.returns hleft
      exact .inr ⟨hleft, _, hnext, (mayReturn_of_target hwaiting hnext hnext).2⟩
    · exact .inl ⟨hleft, hredirect.arrives hleft⟩
  · by_cases hleft : (record d body.feedGuid).left target.newFeedUrl
    · obtain ⟨-, -, -, hwaiting, hnext⟩ := hdeclared.returns hleft
      exact .inr ⟨hleft, _, hnext, (mayReturn_of_target hwaiting hnext hnext).2⟩
    · exact .inl ⟨hleft, hdeclared.arrives hleft⟩

theorem Record.written_returns {r : Record} {feed : Feed} {body : IngestFeedData}
    {recordMove : Option RecordMove} :
    (r.written feed body recordMove).returns =
      match recordMove.bind RecordMove.returnValues with
      | some (count, returnedAt) => (count, some returnedAt)
      | none => r.returns := by
  unfold Record.returns Record.written
  cases recordMove with
  | none => cases r.move <;> rfl
  | some mv =>
    simp only [Record.moved, feedMoveWrite, Option.bind_some]
    cases mv.returnValues with
    | none => cases r.move <;> rfl
    | some values => rfl

theorem Operation.LeavesRecord.returns {operation : Operation}
    (h : operation.LeavesRecord guid d) (hd : (record d guid).Settled) :
    ((record (operation.next d) guid).returns = (record d guid).returns ∧
        ∀ count returnedAt,
          ¬ (record d guid).ReturnsTo (record (operation.next d) guid) count returnedAt) ∨
      ∃ count returnedAt, operation.moveTime = some returnedAt ∧
        (record (operation.next d) guid).returns = (count, some returnedAt) ∧
          (record d guid).MayReturn count returnedAt := by
  rcases h.change hd with hsame | ⟨env, snapshot, req, body, rfl, reaches, rfl, hwritten⟩
  · refine .inl ⟨?_, fun count returnedAt hto => ?_⟩
    · rw [Record.returns, Record.returns, hsame.move]
    · obtain ⟨oldUrl, newUrl, hold, hnew, hne, -⟩ := hto.moved
      rw [hsame.feedUrl, hold] at hnew
      exact hne (Option.some.inj hnew).symm
  · rw [hwritten, Record.written_returns]
    cases hmove : admittedMove env req body d with
    | none =>
      refine .inl ⟨rfl, fun count returnedAt hto => ?_⟩
      obtain ⟨oldUrl, newUrl, hold, hnew, hne, -⟩ := hto.moved
      rw [Record.written_feedUrl, contentFeed_feedUrl, chooseFeedUrl, ← feedUrl_getFeedByGuid,
        hold] at hnew
      exact hne (Option.some.inj hnew).symm
    | some mv =>
      rcases admittedMove_returns hmove with ⟨hfresh, hnone⟩ | ⟨hleft, count, hvalues, hmay⟩
      · left
        rw [Option.bind_some, hnone]
        refine ⟨rfl, fun count returnedAt hto => hfresh ?_⟩
        obtain ⟨oldUrl, newUrl, hold, hnew, hne, hleft⟩ := hto.moved
        rw [Record.written_feedUrl, contentFeed_feedUrl] at hnew
        cases hnew
        exact hleft
      · right
        rw [Option.bind_some, hvalues]
        exact ⟨count, env.now .writeMove, rfl, rfl, hmay⟩

/-- The wait of the first return is over, and inside of 7 days the count goes up. -/
def WaitsBetween (count returnedAt count' returnedAt' : Int) : Prop :=
  returnedAt + returnWait count ≤ returnedAt' ∧
    (returnedAt' - returnedAt ≤ returnWaitLimitSecs → min (count + 1) 9 ≤ count')

omit [Platform] in
theorem WaitsBetween.trans {c t c' t' c'' t'' : Int} (h : WaitsBetween c t c' t')
    (h' : WaitsBetween c' t' c'' t'') : WaitsBetween c t c'' t'' := by
  obtain ⟨hwait, hcount⟩ := h
  obtain ⟨hwait', hcount'⟩ := h'
  have hpos := (returnWait_bounds c).1
  have hpos' := (returnWait_bounds c').1
  unfold returnWaitBaseSecs at hpos hpos'
  refine ⟨by omega, fun hwindow => ?_⟩
  have hfirst := hcount (by omega)
  have hsecond := hcount' (by omega)
  omega

omit [Platform] in
theorem Record.MayReturn.waits {r : Record} {count returnedAt count' returnedAt' : Int}
    (h : r.MayReturn count' returnedAt') (hstored : r.returns = (count, some returnedAt))
    (hcount : 0 < count) (hclock : returnedAt' < i64Max) :
    WaitsBetween count returnedAt count' returnedAt' := by
  obtain ⟨hover, hnext⟩ := h
  rw [hstored] at hover hnext
  have hwait := returnWait_bounds count
  rw [returnCooldownEnd_some] at hover
  simp only at hover hnext
  unfold saturate at hover hnext
  unfold i64Max i64Min at *
  unfold WaitsBetween returnWaitLimitSecs
  unfold returnWaitBaseSecs returnWaitLimitSecs at hwait
  rcases effectiveReturnCount_cases count returnedAt returnedAt' with
    ⟨heff, hlate⟩ | ⟨heff, -, hrecent⟩
  · unfold returnCountResetSecs at hlate
    rw [heff] at hnext
    omega
  · rw [heff] at hnext hover
    rw [if_neg (by omega)] at hover
    have hend := hover _ rfl
    omega

/-- The operation gives the record back to a left URL, with this count at this time. -/
def RunStep.Returns (guid : String) (s : RunStep) (count returnedAt : Int) : Prop :=
  (record s.before guid).ReturnsTo (record (s.operation.next s.before) guid) count returnedAt

/-- The record stays, and the clock is not at the end of 64 bits. -/
def Operation.LeavesRecordInTime (guid : String) (d : Db) (operation : Operation) : Prop :=
  operation.LeavesRecord guid d ∧ ∀ now, operation.moveTime = some now → now < i64Max

theorem RunStep.Returns.eq {s : RunStep} {count returnedAt count' returnedAt' : Int}
    (h : s.Returns guid count returnedAt)
    (hstored : (record (s.operation.next s.before) guid).returns = (count', some returnedAt')) :
    count = count' ∧ returnedAt = returnedAt' := by
  have hsame := h.stored.symm.trans hstored
  simpa using hsame

omit [Platform] in
theorem Record.MayReturn.count_pos {r : Record} {count returnedAt : Int}
    (h : r.MayReturn count returnedAt) : 0 < count := by
  have hnonneg : 0 ≤ effectiveReturnCount r.returns.1 r.returns.2 returnedAt := by
    unfold effectiveReturnCount
    split
    · split <;> omega
    · omega
  rw [h.2]
  unfold saturate i64Min i64Max
  omega

/-- The stored values are those of the last return, and each earlier one waited for it. -/
structure ReturnsInTime (guid : String) (history : List RunStep) (d : Db) : Prop where
  waits : history.Pairwise fun later earlier => ∀ count returnedAt count' returnedAt',
    earlier.Returns guid count returnedAt → later.Returns guid count' returnedAt' →
      WaitsBetween count returnedAt count' returnedAt'
  positive : ∀ s ∈ history, ∀ count returnedAt, s.Returns guid count returnedAt → 0 < count
  last : ∀ s ∈ history, ∀ count returnedAt, s.Returns guid count returnedAt →
    ∃ count' returnedAt', (record d guid).returns = (count', some returnedAt') ∧ 0 < count' ∧
      ((count, returnedAt) = (count', returnedAt') ∨
        WaitsBetween count returnedAt count' returnedAt')

theorem ReturnsInTime.step {history : List RunStep} {operation : Operation}
    (h : ReturnsInTime guid history d) (hd : (record d guid).Settled)
    (hok : operation.LeavesRecordInTime guid d) :
    ReturnsInTime guid ({ before := d, operation := operation } :: history)
      (operation.next d) := by
  obtain ⟨hleaves, hclock⟩ := hok
  rcases hleaves.returns hd with
    ⟨hsame, hnone⟩ | ⟨count, returnedAt, htime, hstored, hmay⟩
  · refine ⟨List.pairwise_cons.mpr ⟨?_, h.waits⟩, ?_, ?_⟩
    · intro s _ c t c' t' _ hreturns
      exact absurd hreturns (hnone c' t')
    · intro s hs c t hreturns
      rcases List.mem_cons.mp hs with rfl | hs
      · exact absurd hreturns (hnone c t)
      · exact h.positive s hs c t hreturns
    · intro s hs c t hreturns
      rw [hsame]
      rcases List.mem_cons.mp hs with rfl | hs
      · exact absurd hreturns (hnone c t)
      · exact h.last s hs c t hreturns
  · have hwaits : ∀ s ∈ history, ∀ c t, s.Returns guid c t →
        WaitsBetween c t count returnedAt := by
      intro s hs c t hreturns
      obtain ⟨c', t', hlast, hpos, hbetween⟩ := h.last s hs c t hreturns
      have hnext := hmay.waits hlast hpos (hclock _ htime)
      rcases hbetween with heq | hbetween
      · cases heq
        exact hnext
      · exact hbetween.trans hnext
    refine ⟨List.pairwise_cons.mpr ⟨?_, h.waits⟩, ?_, ?_⟩
    · intro s hs c t c' t' hearlier hreturns
      obtain ⟨rfl, rfl⟩ := hreturns.eq hstored
      exact hwaits s hs c t hearlier
    · intro s hs c t hreturns
      rcases List.mem_cons.mp hs with rfl | hs
      · obtain ⟨rfl, rfl⟩ := hreturns.eq hstored
        exact hmay.count_pos
      · exact h.positive s hs c t hreturns
    · intro s hs c t hreturns
      refine ⟨count, returnedAt, hstored, hmay.count_pos, ?_⟩
      rcases List.mem_cons.mp hs with rfl | hs
      · obtain ⟨rfl, rfl⟩ := hreturns.eq hstored
        exact .inl rfl
      · exact .inr (hwaits s hs c t hreturns)

theorem run_returnsInTime {history : List RunStep}
    (hrun : PrimaryRun (fun d operation => operation.LeavesRecordInTime guid d) history d) :
    ReturnsInTime guid history d := by
  induction hrun with
  | empty =>
    exact ⟨.nil, fun _ hs => absurd hs List.not_mem_nil, fun _ hs => absurd hs List.not_mem_nil⟩
  | step operation hrest hok ih => exact ih.step (run_settled hrest) hok

omit [Platform] in
theorem returnWait_eq (count : Int) :
    returnWait count = min (3600 * 2 ^ (count - 1).toNat) 604800 := by
  unfold returnWait returnWaitBaseSecs returnWaitLimitSecs
  rcases le_total (count - 1).toNat 20 with hsmall | hlarge
  · rw [min_eq_left hsmall]
  · have hpow : (2 : Int) ^ 20 ≤ 2 ^ (count - 1).toNat := pow_le_pow_right₀ (by decide) hlarge
    rw [min_eq_right hlarge]
    omega

omit [Platform] in
theorem returnWait_ge {n : Nat} (hn : n ≤ 7) {count : Int} (h : (n : Int) + 1 ≤ count) :
    3600 * 2 ^ n ≤ returnWait count := by
  have hmono := returnWait_mono h
  have hpow : (2 : Int) ^ n ≤ 2 ^ 7 := pow_le_pow_right₀ (by decide) hn
  have hshift : ((n : Int) + 1 - 1).toNat = n := by omega
  rw [returnWait_eq, hshift] at hmono
  omega

omit [Platform] in
theorem window_returns (start : Int) {returns : List (Int × Int)}
    (hwaits : returns.Pairwise fun later earlier =>
      WaitsBetween earlier.1 earlier.2 later.1 later.2)
    (hpositive : ∀ r ∈ returns, 0 < r.1)
    (hwindow : ∀ r ∈ returns, start ≤ r.2 ∧ r.2 ≤ start + returnWaitLimitSecs) :
    returns.length ≤ 8 ∧ ∀ r ∈ returns.head?, (returns.length : Int) ≤ r.1 ∧
      start + 3600 * (2 ^ (returns.length - 1) - 1) ≤ r.2 := by
  induction returns with
  | nil => exact ⟨by decide, fun _ hr => by cases hr⟩
  | cons r returns ih =>
    obtain ⟨hhead, htail⟩ := List.pairwise_cons.mp hwaits
    obtain ⟨hlength, hbounds⟩ := ih htail (fun r' hr => hpositive r' (List.mem_cons_of_mem _ hr))
      (fun r' hr => hwindow r' (List.mem_cons_of_mem _ hr))
    have hr := hwindow r List.mem_cons_self
    have hpos : 1 ≤ r.1 := hpositive r List.mem_cons_self
    cases returns with
    | nil => simp [hr.1, hpos]
    | cons last rest =>
      obtain ⟨hcount, htime⟩ := hbounds last rfl
      obtain ⟨hwait, hup⟩ := hhead last List.mem_cons_self
      have hlast := hwindow last (List.mem_cons_of_mem _ List.mem_cons_self)
      have hnext := hup (by omega)
      simp only [List.head?_cons, Option.mem_some_iff, forall_eq', List.length_cons,
        Nat.add_sub_cancel] at *
      generalize rest.length = n at *
      have hn : n ≤ 7 := by omega
      have hge : 3600 * 2 ^ n ≤ returnWait last.1 := returnWait_ge hn (by omega)
      have hpow : (2 : Int) ^ (n + 1) = 2 * 2 ^ n := by rw [pow_succ, mul_comm]
      have hshort : n ≠ 7 := by
        rintro rfl
        unfold returnWaitLimitSecs at hr
        omega
      rw [hpow]
      omega

theorem ReturnsInTime.window {history steps : List RunStep} (h : ReturnsInTime guid history d)
    (hsteps : steps.Sublist history) {start : Int}
    (hwindow : ∀ s ∈ steps, ∃ count returnedAt, s.Returns guid count returnedAt ∧
      start ≤ returnedAt ∧ returnedAt ≤ start + returnWaitLimitSecs) : steps.length ≤ 8 := by
  choose! count returnedAt hreturns hin using hwindow
  suffices hpairs : (steps.map fun s => (count s, returnedAt s)).length ≤ 8 by simpa using hpairs
  refine (window_returns start ?_ ?_ ?_).1
  · rw [List.pairwise_map]
    refine (h.waits.sublist hsteps).imp_of_mem ?_
    intro later earlier hlater hearlier hwaits
    exact hwaits _ _ _ _ (hreturns earlier hearlier) (hreturns later hlater)
  · intro r hr
    obtain ⟨s, hs, rfl⟩ := List.mem_map.mp hr
    exact h.positive s (hsteps.subset hs) _ _ (hreturns s hs)
  · intro r hr
    obtain ⟨s, hs, rfl⟩ := List.mem_map.mp hr
    exact hin s hs

/-- Each return of a record waits for the return in front of it, a window of 7 days has at most
8 of them, and the end of a wait needs no more than 64 bits and grows with the count. -/
theorem run_returnWaits (guid : String) {history : List RunStep}
    (hrun : PrimaryRun (fun d operation => operation.LeavesRecordInTime guid d) history d) :
    (history.Pairwise fun later earlier => ∀ count returnedAt count' returnedAt',
        earlier.Returns guid count returnedAt → later.Returns guid count' returnedAt' →
          returnedAt + min (3600 * 2 ^ (count - 1).toNat) 604800 ≤ returnedAt') ∧
      (∀ (start : Int) (steps : List RunStep), steps.Sublist history →
        (∀ s ∈ steps, ∃ count returnedAt, s.Returns guid count returnedAt ∧
          start ≤ returnedAt ∧ returnedAt ≤ start + 604800) → steps.length ≤ 8) ∧
      (∀ count lastReturnAt now, IsI64 count →
        checkedCooldownEnd count lastReturnAt now =
          some (returnCooldownEnd count lastReturnAt now)) ∧
      ∀ count count' lastReturnAt now waitEnd, count ≤ count' →
        returnCooldownEnd count lastReturnAt now = some waitEnd →
          ∃ waitEnd', returnCooldownEnd count' lastReturnAt now = some waitEnd' ∧
            waitEnd ≤ waitEnd' := by
  have hreturns := run_returnsInTime hrun
  refine ⟨?_, fun start steps hsteps hin => hreturns.window hsteps hin,
    fun count last now hcount => checkedCooldownEnd_eq hcount last now,
    fun count count' last now waitEnd h hend => returnCooldownEnd_mono h hend⟩
  refine hreturns.waits.imp ?_
  intro later earlier hwaits count returnedAt count' returnedAt' hearlier hlater
  have hwait := (hwaits count returnedAt count' returnedAt' hearlier hlater).1
  rwa [returnWait_eq] at hwait

theorem leavesRecordInTime_ingest {env : IngestEnv} {snapshot : Db} {req : IngestFeedRequest}
    (hstays : ((record (Operation.next (.ingest env snapshot req) d) guid).row).isSome = true)
    (hclock : env.now .writeMove < i64Max) :
    Operation.LeavesRecordInTime guid d (.ingest env snapshot req) := by
  refine ⟨leavesRecord_ingest hstays, fun now htime => ?_⟩
  cases htime
  exact hclock

theorem returns_of_urls {operation : Operation} {count returnedAt : Int} {oldUrl newUrl : String}
    (hold : (record d guid).feedUrl = some oldUrl)
    (hnew : (record (operation.next d) guid).feedUrl = some newUrl)
    (hne : newUrl ≠ oldUrl) (hleft : newUrl ∈ getLeftUrls d guid)
    (hstored : (record (operation.next d) guid).returns = (count, some returnedAt)) :
    RunStep.Returns guid { before := d, operation := operation } count returnedAt :=
  ⟨⟨oldUrl, newUrl, hold, hnew, hne, mem_getLeftUrls.mp hleft⟩, hstored⟩

end

section Sample

attribute [local instance] runPlatform

def returnHistory : List RunStep :=
  { before := returnedDb, operation := secondReturn } ::
    { before := movedDb, operation := returningIngest } :: movingHistory

theorem returnHistory_run {ok : Db → Operation → Prop} (hmoved : PrimaryRun ok movingHistory movedDb)
    (hreturned : ok movedDb returningIngest) (hsecond : ok returnedDb secondReturn) :
    PrimaryRun ok returnHistory (secondReturn.next returnedDb) :=
  .step secondReturn (.step returningIngest hmoved hreturned) hsecond

theorem returnHistory_records :
    ((record namedDb "f1").row.isSome = true ∧
        (record movedDb "f1").feedUrl = some otherUrl ∧
          sampleUrl ∈ getLeftUrls movedDb "f1") ∧
      ((record returnedDb "f1").feedUrl = some sampleUrl ∧
        (record returnedDb "f1").returns = (1, some 4) ∧
          otherUrl ∈ getLeftUrls returnedDb "f1") ∧
      (record (secondReturn.next returnedDb) "f1").feedUrl = some otherUrl ∧
        (record (secondReturn.next returnedDb) "f1").returns = (2, some 3604) := by
  decide +kernel

/-- The second return comes when the hour of the first one is over. -/
theorem run_returnWaits_returnHistory :
    RunStep.Returns "f1" { before := movedDb, operation := returningIngest } 1 4 ∧
      RunStep.Returns "f1" { before := returnedDb, operation := secondReturn } 2 3604 ∧
      returnHistory.Pairwise fun later earlier => ∀ count returnedAt count' returnedAt',
        earlier.Returns "f1" count returnedAt → later.Returns "f1" count' returnedAt' →
          returnedAt + min (3600 * 2 ^ (count - 1).toNat) 604800 ≤ returnedAt' := by
  obtain ⟨⟨hnamed, hmoved, hleft⟩, ⟨hreturned, hfirst, hother⟩, hlast, hsecond⟩ :=
    returnHistory_records
  have hrun : PrimaryRun (fun d operation => operation.LeavesRecordInTime "f1" d) returnHistory
      (secondReturn.next returnedDb) := by
    apply returnHistory_run
    · apply movedDb_run
      · exact leavesRecordInTime_ingest hnamed (by decide)
      · exact leavesRecordInTime_ingest (Record.row_of_feedUrl hmoved) (by decide)
    · exact leavesRecordInTime_ingest (Record.row_of_feedUrl hreturned) (by decide)
    · exact leavesRecordInTime_ingest (Record.row_of_feedUrl hlast) (by decide)
  exact ⟨returns_of_urls hmoved hreturned (by decide) hleft hfirst,
    returns_of_urls hreturned hlast (by decide) hother hsecond, (run_returnWaits "f1" hrun).1⟩

end Sample

end Stophammer
