import Stophammer.Community
import Stophammer.Ingest.Handler
import Stophammer.Redelivery

/-!
# Reconcile

A node that was away sends the events it has and gets the ones it is missing, page after
page.  A page looks at 50,000 references and sends 10,000 events at most, and the next
page starts at the last reference.
-/

namespace Stophammer

open Relational Statement

structure EventRef where
  eventId : String
  seq : Int
deriving DecidableEq

structure ReconcileRequest where
  haveRefs : List EventRef
  sinceSeq : Int
deriving DecidableEq

structure ReconcileResponse where
  sendToNode : List Event
  unknownToUs : List EventRef
  hasMore : Bool
  nextSeq : Int
deriving DecidableEq

def maxReconcileHave : Nat := 10000

def maxReconcileRefs : Int := 50000

def maxReconcileEvents : Int := 10000

/-- The rows of the log from `sinceSeq` on, in the order of their seqs. -/
def rowsFrom (d : Db) (sinceSeq : Int) : List StoredEvent :=
  ((d .events).filter fun r : StoredEvent => sinceSeq ≤ r.seq).insertionSort
    fun a b => a.seq ≤ b.seq

/-- The references of a page, and whether there are more. -/
def getEventRefsSince (d : Db) (sinceSeq limit : Int) : List EventRef × Bool :=
  let limit := max limit 1
  let refs := ((rowsFrom d sinceSeq).take (limit + 1).toNat).map fun r =>
    ({ eventId := r.eventId, seq := r.seq } : EventRef)
  let truncated : Bool := decide (limit < refs.length)
  (if truncated then refs.take limit.toNat else refs, truncated)

section

variable [Platform]

/-- `POST /sync/reconcile` of a caller with the sync token. -/
def handleSyncReconcile (d : Db) (req : ReconcileRequest) : Except ApiError ReconcileResponse :=
  if maxReconcileHave < req.haveRefs.length then
    .error
      { status := 400
        message := "have array exceeds maximum size of " ++ toString maxReconcileHave }
  else
    let (ourRefs, refsTruncated) := getEventRefsSince d req.sinceSeq maxReconcileRefs
    let ourIds := ourRefs.map EventRef.eventId
    let theirIds := req.haveRefs.map EventRef.eventId
    match getEventsSince d req.sinceSeq maxReconcileEvents with
    | .error e => .error (ApiError.ofDb e)
    | .ok allEvents =>
      let eventsCapped : Bool := decide (maxReconcileEvents ≤ allEvents.length)
      .ok
        { sendToNode :=
            allEvents.filter fun e => decide (e.eventId ∈ ourIds) && decide (e.eventId ∉ theirIds)
          unknownToUs := req.haveRefs.filter fun r => decide (r.eventId ∉ ourIds)
          hasMore := refsTruncated || eventsCapped
          nextSeq := (ourRefs.map EventRef.seq).max?.getD req.sinceSeq }

/-- A client that asks again from `next_seq` while there is more: the events it gets, and
none where it gets an error or is not done after `fuel` requests. -/
def reconcileAll (d : Db) (haveRefs : List EventRef) : Nat → Int → Option (List Event)
  | 0, _ => none
  | fuel + 1, sinceSeq =>
    match handleSyncReconcile d { haveRefs := haveRefs, sinceSeq := sinceSeq } with
    | .error _ => none
    | .ok response =>
      if response.hasMore then
        (reconcileAll d haveRefs fuel response.nextSeq).map (response.sendToNode ++ ·)
      else some response.sendToNode

/-- The client comes to an end and has every event from `sinceSeq` on that it had not. -/
def Reconciles (d : Db) (haveRefs : List EventRef) (sinceSeq : Int) : Prop :=
  ∃ fuel events, reconcileAll d haveRefs fuel sinceSeq = some events ∧
    ∀ r ∈ d .events, sinceSeq ≤ r.seq → r.eventId ∉ haveRefs.map EventRef.eventId →
      ∃ ev ∈ events, logRow ev = r

end

/-- The seqs go up from row to row. -/
def Ascending (rows : List StoredEvent) : Prop := rows.Pairwise fun a b => a.seq < b.seq

theorem Ascending.ext {xs ys : List StoredEvent} (hx : Ascending xs) (hy : Ascending ys)
    (h : ∀ r, r ∈ xs ↔ r ∈ ys) : xs = ys := by
  have hnodup : ∀ {zs : List StoredEvent}, Ascending zs → zs.Nodup := by
    intro zs hz
    apply hz.imp
    intro a b hlt heq
    rw [heq] at hlt
    omega
  have hperm := (List.perm_ext_iff_of_nodup (hnodup hx) (hnodup hy)).mpr h
  apply hperm.eq_of_pairwise _ hx hy
  intro a b _ _ hab hba
  omega

theorem seqs_differ (d : Db) : (d .events).Pairwise fun a b => a.seq ≠ b.seq := by
  have hkeys := (List.nodup_flatMap.mp (d.valid.unique .events)).2
  apply hkeys.imp
  intro a b hdisjoint hseq
  exact hdisjoint (a := Key.eventSeq a.seq) (by simp [schema, Table.keys])
    (by simp [schema, Table.keys, hseq])

theorem sorted_ascending (d : Db) (p : StoredEvent → Bool) :
    Ascending (((d .events).filter p).insertionSort fun a b => a.seq ≤ b.seq) := by
  have hle := sort_pairwise StoredEvent.seq ((d .events).filter p)
  have hne : (((d .events).filter p).insertionSort fun a b => a.seq ≤ b.seq).Pairwise
      fun a b => a.seq ≠ b.seq := by
    apply (List.Perm.pairwise_iff (fun h => Ne.symm h) (List.perm_insertionSort _ _)).mpr
    exact (seqs_differ d).filter p
  apply (hle.and hne).imp
  rintro a b ⟨hab, hne⟩
  omega

theorem mem_rowsFrom {d : Db} {sinceSeq : Int} {r : StoredEvent} :
    r ∈ rowsFrom d sinceSeq ↔ r ∈ d .events ∧ sinceSeq ≤ r.seq := by
  unfold rowsFrom
  rw [List.mem_insertionSort, List.mem_filter, decide_eq_true_eq]

theorem rowsFrom_ascending (d : Db) (sinceSeq : Int) : Ascending (rowsFrom d sinceSeq) :=
  sorted_ascending d _

theorem rowsFrom_split {d : Db} {sinceSeq : Int} {before after : List StoredEvent}
    {y : StoredEvent} (h : rowsFrom d sinceSeq = before ++ y :: after) :
    rowsFrom d y.seq = y :: after := by
  have hup := rowsFrom_ascending d sinceSeq
  rw [h] at hup
  obtain ⟨-, hafter, hbefore⟩ := List.pairwise_append.mp hup
  apply (rowsFrom_ascending d y.seq).ext hafter
  intro r
  have hmem : r ∈ before ++ y :: after ↔ r ∈ d .events ∧ sinceSeq ≤ r.seq := by
    rw [← h, mem_rowsFrom]
  have hy : sinceSeq ≤ y.seq := (mem_rowsFrom.mp (h ▸ by simp : y ∈ rowsFrom d sinceSeq)).2
  rw [mem_rowsFrom]
  constructor
  · rintro ⟨hr, hle⟩
    rcases List.mem_append.mp (hmem.mpr ⟨hr, by omega⟩) with hold | hnew
    · have hlt := hbefore r hold y (by simp)
      omega
    · exact hnew
  · intro hr
    refine ⟨(hmem.mp (List.mem_append_right _ hr)).1, ?_⟩
    rcases List.mem_cons.mp hr with rfl | hr
    · exact Int.le_refl _
    · exact Int.le_of_lt ((List.pairwise_cons.mp hafter).1 r hr)

/-- The rows of the log after `sinceSeq`. -/
def rowsAfter (d : Db) (sinceSeq : Int) : List StoredEvent :=
  (rowsFrom d sinceSeq).filter fun r => sinceSeq < r.seq

theorem mem_rowsAfter {d : Db} {sinceSeq : Int} {r : StoredEvent} :
    r ∈ rowsAfter d sinceSeq ↔ r ∈ d .events ∧ sinceSeq < r.seq := by
  unfold rowsAfter
  rw [List.mem_filter, mem_rowsFrom, decide_eq_true_eq]
  constructor
  · exact fun h => ⟨h.1.1, h.2⟩
  · exact fun h => ⟨⟨h.1, by omega⟩, h.2⟩

theorem storedEventsSince_eq (d : Db) (sinceSeq limit : Int) :
    storedEventsSince d sinceSeq limit = (rowsAfter d sinceSeq).take (max limit 1).toNat := by
  unfold storedEventsSince
  congr 1
  apply (sorted_ascending d _).ext ((rowsFrom_ascending d sinceSeq).filter _)
  intro r
  change _ ↔ r ∈ rowsAfter d sinceSeq
  rw [mem_rowsAfter, List.mem_insertionSort, List.mem_filter, decide_eq_true_eq]

theorem rowsAfter_eq_drop (d : Db) (sinceSeq : Int) :
    ∃ k ≤ 1, rowsAfter d sinceSeq = (rowsFrom d sinceSeq).drop k := by
  unfold rowsAfter
  have hup := rowsFrom_ascending d sinceSeq
  have hge : ∀ r ∈ rowsFrom d sinceSeq, sinceSeq ≤ r.seq := fun r hr => (mem_rowsFrom.mp hr).2
  rcases hrows : rowsFrom d sinceSeq with _ | ⟨x, rest⟩
  · exact ⟨0, by omega, rfl⟩
  · rw [hrows] at hup hge
    obtain ⟨hfirst, -⟩ := List.pairwise_cons.mp hup
    have hx := hge x (by simp)
    have hrest : rest.filter (fun r => sinceSeq < r.seq) = rest := by
      rw [List.filter_eq_self]
      intro r hr
      have hlt := hfirst r hr
      rw [decide_eq_true_eq]
      omega
    by_cases hanchor : sinceSeq < x.seq
    · refine ⟨0, by omega, ?_⟩
      rw [List.filter_cons_of_pos (by simpa using hanchor), hrest]
      rfl
    · refine ⟨1, Nat.le_refl 1, ?_⟩
      rw [List.filter_cons_of_neg (by simpa using hanchor), hrest]
      rfl

theorem Ascending.max_seq {rows : List StoredEvent} (h : Ascending rows) :
    (rows.map StoredEvent.seq).max? = rows.getLast?.map StoredEvent.seq := by
  rcases List.eq_nil_or_concat rows with rfl | ⟨init, y, rfl⟩
  · rfl
  · rw [List.concat_eq_append] at h ⊢
    rw [List.getLast?_concat, Option.map_some, List.max?_eq_some_iff]
    refine ⟨by simp, fun b hb => ?_⟩
    obtain ⟨r, hr, rfl⟩ := List.mem_map.mp hb
    rcases List.mem_append.mp hr with hr | hr
    · exact Int.le_of_lt ((List.pairwise_append.mp h).2.2 r hr y (by simp))
    · rw [List.mem_singleton.mp hr]

theorem getEventRefsSince_eq (d : Db) (sinceSeq : Int) :
    getEventRefsSince d sinceSeq maxReconcileRefs =
      (((rowsFrom d sinceSeq).take 50000).map fun r =>
          ({ eventId := r.eventId, seq := r.seq } : EventRef),
        decide (50000 < (rowsFrom d sinceSeq).length)) := by
  have hlimit : max maxReconcileRefs 1 = 50000 := rfl
  unfold getEventRefsSince
  simp only [hlimit, show ((50000 : Int) + 1).toNat = 50001 from rfl,
    show (50000 : Int).toNat = 50000 from rfl, List.length_map, List.length_take]
  have htruncated : ((50000 : Int) < (min 50001 (rowsFrom d sinceSeq).length : Nat)) ↔
      50000 < (rowsFrom d sinceSeq).length := by
    omega
  by_cases hlong : 50000 < (rowsFrom d sinceSeq).length
  · rw [if_pos (decide_eq_true (htruncated.mpr hlong)), decide_eq_true (htruncated.mpr hlong),
      decide_eq_true hlong, ← List.map_take, List.take_take]
    rfl
  · have hshort : ¬ decide ((50000 : Int) < (min 50001 (rowsFrom d sinceSeq).length : Nat)) = true := by
      rw [decide_eq_true_eq, htruncated]
      exact hlong
    rw [if_neg hshort, decide_eq_false (fun h => hlong (htruncated.mp h)), decide_eq_false hlong,
      List.take_of_length_le (by omega), List.take_of_length_le (by omega)]

section

variable [Platform]

theorem LogDecodes.mapM {d : Db} (hd : LogDecodes d) {rows : List StoredEvent}
    (hrows : ∀ r ∈ rows, r ∈ d .events) : ∃ events, rows.mapM eventOfRow = .ok events := by
  induction rows with
  | nil => exact ⟨[], rfl⟩
  | cons r rows ih =>
    obtain ⟨events, hevents⟩ := ih fun r' hr' => hrows r' (by simp [hr'])
    have hdec := hd r (hrows r (by simp))
    rw [Platform.decodePayload, Option.isSome_map] at hdec
    obtain ⟨typed, htyped⟩ := Option.isSome_iff_exists.mp hdec
    have hone : ∃ ev, eventOfRow r = .ok ev := by
      unfold eventOfRow
      rw [htyped]
      exact ⟨_, rfl⟩
    obtain ⟨ev, hev⟩ := hone
    refine ⟨ev :: events, ?_⟩
    rw [List.mapM_cons, hev, hevents]
    rfl

/-- The row has an event that the caller does not have. -/
def isMissing (haveRefs : List EventRef) (r : StoredEvent) : Bool :=
  decide (r.eventId ∉ haveRefs.map EventRef.eventId)

theorem handleSyncReconcile_page {d : Db} (hd : LogDecodes d) {haveRefs : List EventRef}
    (hhave : haveRefs.length ≤ maxReconcileHave) (sinceSeq : Int) :
    ∃ response,
      handleSyncReconcile d { haveRefs := haveRefs, sinceSeq := sinceSeq } = .ok response ∧
      response.sendToNode.map logRow =
        ((rowsAfter d sinceSeq).take 10000).filter (isMissing haveRefs) ∧
      (response.hasMore = true ↔
        50000 < (rowsFrom d sinceSeq).length ∨ 10000 ≤ (rowsAfter d sinceSeq).length) ∧
      response.nextSeq =
        (((rowsFrom d sinceSeq).take 50000).getLast?.map StoredEvent.seq).getD sinceSeq := by
  have hstored : storedEventsSince d sinceSeq maxReconcileEvents =
      (rowsAfter d sinceSeq).take 10000 := storedEventsSince_eq d sinceSeq maxReconcileEvents
  have hin : ∀ r ∈ (rowsAfter d sinceSeq).take 10000, r ∈ d .events :=
    fun r hr => (mem_rowsAfter.mp (List.mem_of_mem_take hr)).1
  obtain ⟨events, hevents⟩ := hd.mapM hin
  have hrows : events.map logRow = (rowsAfter d sinceSeq).take 10000 := mapM_eventOfRow hevents
  have hlen : events.length = min 10000 (rowsAfter d sinceSeq).length := by
    rw [← List.length_take, ← hrows, List.length_map]
  have hget : getEventsSince d sinceSeq maxReconcileEvents = .ok events := by
    unfold getEventsSince
    rw [hstored, hevents]
  -- the references of the page have every event that it reads
  have hrefs : ∀ r ∈ (rowsAfter d sinceSeq).take 10000, r ∈ (rowsFrom d sinceSeq).take 50000 := by
    intro r hr
    obtain ⟨k, hk, hdrop⟩ := rowsAfter_eq_drop d sinceSeq
    rw [hdrop, List.take_drop] at hr
    exact List.take_subset_take_left _ (by omega) (List.mem_of_mem_drop hr)
  unfold handleSyncReconcile
  rw [if_neg (Nat.not_lt.mpr hhave), hget, getEventRefsSince_eq]
  refine ⟨_, rfl, ?_, ?_, ?_⟩
  · rw [← hrows, List.filter_map]
    congr 1
    apply List.filter_congr
    intro ev hev
    have hmem := hrefs (logRow ev) (hrows ▸ List.mem_map_of_mem hev)
    have hours : ev.eventId ∈ (((rowsFrom d sinceSeq).take 50000).map fun r =>
        ({ eventId := r.eventId, seq := r.seq } : EventRef)).map EventRef.eventId := by
      rw [List.map_map]
      exact List.mem_map.mpr ⟨logRow ev, hmem, rfl⟩
    simp only [hours, decide_true, Bool.true_and]
    rfl
  · simp only [Bool.or_eq_true, decide_eq_true_eq, maxReconcileEvents, hlen]
    omega
  · have hup : Ascending ((rowsFrom d sinceSeq).take 50000) :=
      (rowsFrom_ascending d sinceSeq).sublist (List.take_sublist _ _)
    simp only [List.map_map]
    rw [← hup.max_seq]
    rfl

/-- What the pages send of the rows after the last reference of the page before. -/
def sentAfter (rows : List StoredEvent) : List StoredEvent :=
  if 50000 ≤ rows.length then rows.take 10000 ++ sentAfter (rows.drop 49999)
  else rows.take 10000
termination_by rows.length
decreasing_by
  rw [List.length_drop]
  omega

omit [Platform] in
theorem mem_sentAfter {rows : List StoredEvent} {r : StoredEvent} :
    r ∈ sentAfter rows ↔ ∃ i, rows[i]? = some r ∧ i % 49999 < 10000 := by
  have htake : ∀ rows : List StoredEvent,
      r ∈ rows.take 10000 ↔ ∃ i, rows[i]? = some r ∧ i < 10000 := by
    intro rows
    rw [List.mem_iff_getElem?]
    constructor
    · rintro ⟨i, hi⟩
      rw [List.getElem?_take] at hi
      split at hi
      · exact ⟨i, hi, by assumption⟩
      · cases hi
    · rintro ⟨i, hi, hlt⟩
      exact ⟨i, by rw [List.getElem?_take, if_pos hlt]; exact hi⟩
  induction rows using sentAfter.induct with
  | case1 rows hlong ih =>
    have hrest : r ∈ sentAfter (rows.drop 49999) ↔
        ∃ i, (rows.drop 49999)[i]? = some r ∧ i % 49999 < 10000 := ih
    rw [sentAfter, if_pos hlong, List.mem_append, htake, hrest]
    constructor
    · rintro (⟨i, hi, hlt⟩ | ⟨i, hi, hlt⟩)
      · exact ⟨i, hi, by omega⟩
      · rw [List.getElem?_drop] at hi
        exact ⟨49999 + i, hi, by omega⟩
    · rintro ⟨i, hi, hlt⟩
      by_cases hfirst : i < 49999
      · exact .inl ⟨i, hi, by omega⟩
      · refine .inr ⟨i - 49999, ?_, by omega⟩
        rw [List.getElem?_drop, show 49999 + (i - 49999) = i by omega]
        exact hi
  | case2 rows hshort =>
    rw [sentAfter, if_neg hshort, htake]
    constructor
    · rintro ⟨i, hi, hlt⟩
      exact ⟨i, hi, by omega⟩
    · rintro ⟨i, hi, hlt⟩
      have hlength : i < rows.length := (List.getElem?_eq_some_iff.mp hi).1
      exact ⟨i, hi, by omega⟩

theorem reconcileAll_last {d : Db} {haveRefs : List EventRef} {sinceSeq : Int}
    {response : ReconcileResponse}
    (hpage : handleSyncReconcile d { haveRefs := haveRefs, sinceSeq := sinceSeq } = .ok response)
    (hmore : response.hasMore = false) :
    reconcileAll d haveRefs 1 sinceSeq = some response.sendToNode := by
  unfold reconcileAll
  rw [hpage]
  simp only [hmore, Bool.false_eq_true, if_false]

theorem reconcileAll_more {d : Db} {haveRefs : List EventRef} {sinceSeq : Int}
    {response : ReconcileResponse} {fuel : Nat} {events : List Event}
    (hpage : handleSyncReconcile d { haveRefs := haveRefs, sinceSeq := sinceSeq } = .ok response)
    (hmore : response.hasMore = true)
    (hrest : reconcileAll d haveRefs fuel response.nextSeq = some events) :
    reconcileAll d haveRefs (fuel + 1) sinceSeq = some (response.sendToNode ++ events) := by
  unfold reconcileAll
  rw [hpage]
  simp only [hmore, if_true, hrest, Option.map_some]

omit [Platform] in
theorem nextSeq_long {d : Db} {sinceSeq : Int} (h : 50000 < (rowsFrom d sinceSeq).length) :
    ∃ y, rowsFrom d y.seq = y :: (rowsFrom d sinceSeq).drop 50000 ∧
      (((rowsFrom d sinceSeq).take 50000).getLast?.map StoredEvent.seq).getD sinceSeq = y.seq := by
  have hlt : 49999 < (rowsFrom d sinceSeq).length := by omega
  have hsplit : rowsFrom d sinceSeq = (rowsFrom d sinceSeq).take 49999 ++
      (rowsFrom d sinceSeq)[49999] :: (rowsFrom d sinceSeq).drop 50000 := by
    rw [← List.drop_eq_getElem_cons hlt, List.take_append_drop]
  refine ⟨(rowsFrom d sinceSeq)[49999], rowsFrom_split hsplit, ?_⟩
  rw [List.getLast?_take, if_neg (by decide), List.getElem?_eq_getElem hlt]
  rfl

omit [Platform] in
theorem nextSeq_short {d : Db} {sinceSeq : Int} (h : (rowsFrom d sinceSeq).length ≤ 50000)
    (hne : rowsFrom d sinceSeq ≠ []) :
    ∃ y, rowsFrom d y.seq = [y] ∧
      (((rowsFrom d sinceSeq).take 50000).getLast?.map StoredEvent.seq).getD sinceSeq = y.seq := by
  have hsplit := (List.dropLast_append_getLast hne).symm
  refine ⟨(rowsFrom d sinceSeq).getLast hne, rowsFrom_split hsplit, ?_⟩
  rw [List.take_of_length_le h, List.getLast?_eq_some_getLast hne]
  rfl

omit [Platform] in
theorem rowsAfter_anchored {d : Db} {x : StoredEvent} {rows : List StoredEvent}
    (h : rowsFrom d x.seq = x :: rows) : rowsAfter d x.seq = rows := by
  have hup := rowsFrom_ascending d x.seq
  unfold rowsAfter
  rw [h] at hup ⊢
  rw [List.filter_cons_of_neg (by simp), List.filter_eq_self]
  intro r hr
  exact decide_eq_true ((List.pairwise_cons.mp hup).1 r hr)

section Pages

variable {d : Db} {haveRefs : List EventRef}

theorem reconcileAll_lastRow (hd : LogDecodes d) (hhave : haveRefs.length ≤ maxReconcileHave)
    {y : StoredEvent} (h : rowsFrom d y.seq = [y]) :
    reconcileAll d haveRefs 1 y.seq = some [] := by
  obtain ⟨response, hpage, hsent, hmore, -⟩ := handleSyncReconcile_page hd hhave y.seq
  rw [rowsAfter_anchored h] at hsent hmore
  rw [h] at hmore
  have hnil : response.sendToNode = [] := List.map_eq_nil_iff.mp hsent
  have hlast : response.hasMore = false := by
    rw [Bool.eq_false_iff]
    intro hm
    have hlong := hmore.mp hm
    simp only [List.length_singleton, List.length_nil] at hlong
    omega
  rw [reconcileAll_last hpage hlast, hnil]

theorem reconcileAll_end (hd : LogDecodes d) (hhave : haveRefs.length ≤ maxReconcileHave)
    {sinceSeq : Int} (h : (rowsFrom d sinceSeq).length ≤ 50000) :
    ∃ fuel events, reconcileAll d haveRefs fuel sinceSeq = some events ∧
      events.map logRow = ((rowsAfter d sinceSeq).take 10000).filter (isMissing haveRefs) := by
  obtain ⟨response, hpage, hsent, hmore, hnext⟩ := handleSyncReconcile_page hd hhave sinceSeq
  by_cases hm : response.hasMore = true
  · have hlong : 10000 ≤ (rowsAfter d sinceSeq).length := by
      rcases hmore.mp hm with hlong | hlong
      · omega
      · exact hlong
    have hne : rowsFrom d sinceSeq ≠ [] := by
      intro hnil
      unfold rowsAfter at hlong
      rw [hnil] at hlong
      simp at hlong
    obtain ⟨y, hy, hseq⟩ := nextSeq_short h hne
    have hrest := reconcileAll_lastRow hd hhave hy
    rw [← hseq, ← hnext] at hrest
    refine ⟨2, response.sendToNode ++ [], reconcileAll_more hpage hm hrest, ?_⟩
    rw [List.append_nil, hsent]
  · refine ⟨1, response.sendToNode, ?_, hsent⟩
    exact reconcileAll_last hpage (Bool.eq_false_iff.mpr hm)

theorem reconcileAll_full (hd : LogDecodes d) (hhave : haveRefs.length ≤ maxReconcileHave)
    {sinceSeq : Int} (h : 50000 < (rowsFrom d sinceSeq).length) {rest : List StoredEvent}
    (hrest : ∀ y, rowsFrom d y.seq = y :: (rowsFrom d sinceSeq).drop 50000 →
      ∃ fuel events, reconcileAll d haveRefs fuel y.seq = some events ∧
        events.map logRow = rest.filter (isMissing haveRefs)) :
    ∃ fuel events, reconcileAll d haveRefs fuel sinceSeq = some events ∧
      events.map logRow =
        ((rowsAfter d sinceSeq).take 10000 ++ rest).filter (isMissing haveRefs) := by
  obtain ⟨response, hpage, hsent, hmore, hnext⟩ := handleSyncReconcile_page hd hhave sinceSeq
  obtain ⟨y, hy, hseq⟩ := nextSeq_long h
  obtain ⟨fuel, events, hrun, hevents⟩ := hrest y hy
  rw [← hseq, ← hnext] at hrun
  refine ⟨fuel + 1, response.sendToNode ++ events,
    reconcileAll_more hpage (hmore.mpr (.inl h)) hrun, ?_⟩
  rw [List.map_append, hsent, hevents, List.filter_append]

theorem reconcileAll_anchored (hd : LogDecodes d) (hhave : haveRefs.length ≤ maxReconcileHave)
    (rows : List StoredEvent) : ∀ x : StoredEvent, rowsFrom d x.seq = x :: rows →
    ∃ fuel events, reconcileAll d haveRefs fuel x.seq = some events ∧
      events.map logRow = (sentAfter rows).filter (isMissing haveRefs) := by
  induction rows using sentAfter.induct with
  | case1 rows hlong ih =>
    intro x hx
    have hfull : 50000 < (rowsFrom d x.seq).length := by
      rw [hx, List.length_cons]
      omega
    have hdrop : (rowsFrom d x.seq).drop 50000 = rows.drop 49999 := by
      rw [hx]
      rfl
    rw [sentAfter, if_pos hlong]
    have hrun := reconcileAll_full hd hhave hfull fun y hy => ih y (by rw [← hdrop]; exact hy)
    rw [rowsAfter_anchored hx] at hrun
    exact hrun
  | case2 rows hshort =>
    intro x hx
    have hend : (rowsFrom d x.seq).length ≤ 50000 := by
      rw [hx, List.length_cons]
      omega
    have hrun := reconcileAll_end hd hhave hend
    rw [rowsAfter_anchored hx] at hrun
    rw [sentAfter, if_neg hshort]
    exact hrun

theorem reconcileAll_unique {fuel fuel' : Nat} {sinceSeq : Int} {events events' : List Event}
    (h : reconcileAll d haveRefs fuel sinceSeq = some events)
    (h' : reconcileAll d haveRefs fuel' sinceSeq = some events') : events = events' := by
  induction fuel generalizing fuel' sinceSeq events events' with
  | zero => cases h
  | succ fuel ih =>
    cases fuel' with
    | zero => cases h'
    | succ fuel' =>
      unfold reconcileAll at h h'
      rcases hpage : handleSyncReconcile d { haveRefs := haveRefs, sinceSeq := sinceSeq } with
        e | response
      · rw [hpage] at h
        cases h
      · rw [hpage] at h h'
        simp only at h h'
        by_cases hm : response.hasMore = true
        · rw [if_pos hm] at h h'
          obtain ⟨rest, hrest, rfl⟩ := Option.map_eq_some_iff.mp h
          obtain ⟨rest', hrest', rfl⟩ := Option.map_eq_some_iff.mp h'
          rw [ih hrest hrest']
        · rw [if_neg hm] at h h'
          exact Option.some.inj (h.symm.trans h')

end Pages

/-- The number of rows of the log between `sinceSeq` and the row. -/
def rank (d : Db) (sinceSeq : Int) (r : StoredEvent) : Nat :=
  (d .events).countP fun r' : StoredEvent => decide (sinceSeq < r'.seq) && decide (r'.seq < r.seq)

/-- The row is among the 10,000 events that one of the pages sends.  A row at
`sinceSeq` itself is in the references of the first page and never in its events. -/
def Reaches (d : Db) (sinceSeq : Int) (r : StoredEvent) : Prop :=
  if ∃ a ∈ d .events, a.seq = sinceSeq then sinceSeq < r.seq ∧ rank d sinceSeq r % 49999 < 10000
  else
    rank d sinceSeq r < 10000 ∨
      50000 ≤ rank d sinceSeq r ∧ (rank d sinceSeq r - 50000) % 49999 < 10000

instance (d : Db) (sinceSeq : Int) (r : StoredEvent) : Decidable (Reaches d sinceSeq r) := by
  unfold Reaches
  exact inferInstance

omit [Platform] in
theorem rank_eq_countP (d : Db) (sinceSeq : Int) (r : StoredEvent) :
    rank d sinceSeq r = (rowsAfter d sinceSeq).countP fun r' => decide (r'.seq < r.seq) := by
  unfold rank rowsAfter rowsFrom
  rw [List.countP_filter, (List.perm_insertionSort _ _).countP_eq, List.countP_filter]
  apply List.countP_congr
  intro r' _
  simp only [Bool.and_eq_true, decide_eq_true_eq]
  omega

omit [Platform] in
theorem rowsAfter_getElem?_iff {d : Db} {sinceSeq : Int} {i : Nat} {r : StoredEvent} :
    (rowsAfter d sinceSeq)[i]? = some r ↔ r ∈ rowsAfter d sinceSeq ∧ rank d sinceSeq r = i := by
  have hplace : ∀ j, (rowsAfter d sinceSeq)[j]? = some r → rank d sinceSeq r = j := by
    intro j hj
    obtain ⟨hlt, hget⟩ := List.getElem?_eq_some_iff.mp hj
    have hsplit : rowsAfter d sinceSeq =
        (rowsAfter d sinceSeq).take j ++ r :: (rowsAfter d sinceSeq).drop (j + 1) := by
      rw [← hget, ← List.drop_eq_getElem_cons hlt, List.take_append_drop]
    have hup : Ascending (rowsAfter d sinceSeq) := (rowsFrom_ascending d sinceSeq).filter _
    rw [hsplit] at hup
    obtain ⟨-, hafter, hbefore⟩ := List.pairwise_append.mp hup
    have hall : ((rowsAfter d sinceSeq).take j).countP (fun r' => decide (r'.seq < r.seq)) = j := by
      rw [List.countP_eq_length.mpr, List.length_take]
      · omega
      · intro r' hr'
        exact decide_eq_true (hbefore r' hr' r (by simp))
    have hnone : (r :: (rowsAfter d sinceSeq).drop (j + 1)).countP
        (fun r' => decide (r'.seq < r.seq)) = 0 := by
      rw [List.countP_eq_zero]
      intro r' hr'
      rw [decide_eq_true_eq]
      rcases List.mem_cons.mp hr' with rfl | hr'
      · omega
      · have hlt' := (List.pairwise_cons.mp hafter).1 r' hr'
        omega
    rw [rank_eq_countP, hsplit, List.countP_append, hall, hnone, Nat.add_zero]
  constructor
  · exact fun h => ⟨List.mem_of_getElem? h, hplace i h⟩
  · rintro ⟨hmem, hrank⟩
    obtain ⟨j, hj⟩ := List.mem_iff_getElem?.mp hmem
    rw [← hrank, hplace j hj]
    exact hj

theorem reconcileAll_reaches {d : Db} (hd : LogDecodes d) {haveRefs : List EventRef}
    (hhave : haveRefs.length ≤ maxReconcileHave) (sinceSeq : Int) :
    ∃ fuel events, reconcileAll d haveRefs fuel sinceSeq = some events ∧
      ∀ r ∈ d .events, sinceSeq ≤ r.seq → isMissing haveRefs r = true →
        ((∃ ev ∈ events, logRow ev = r) ↔ Reaches d sinceSeq r) := by
  have hreceived : ∀ {events : List Event} {sent : List StoredEvent} {r : StoredEvent},
      events.map logRow = sent.filter (isMissing haveRefs) → isMissing haveRefs r = true →
      ((∃ ev ∈ events, logRow ev = r) ↔ r ∈ sent) := by
    intro events sent r hevents hmissing
    rw [← List.mem_map, hevents, List.mem_filter]
    exact and_iff_left hmissing
  have hrows : ∀ {r : StoredEvent}, r ∈ rowsAfter d sinceSeq →
      ∀ i, (rowsAfter d sinceSeq)[i]? = some r ↔ rank d sinceSeq r = i := by
    intro r hr i
    rw [rowsAfter_getElem?_iff]
    exact and_iff_right hr
  by_cases hanchor : ∃ a ∈ d .events, a.seq = sinceSeq
  · obtain ⟨a, ha, rfl⟩ := hanchor
    -- no row of the page comes before the one at its start
    obtain ⟨rows, hfrom⟩ : ∃ rows, rowsFrom d a.seq = a :: rows := by
      have hmem : a ∈ rowsFrom d a.seq := mem_rowsFrom.mpr ⟨ha, Int.le_refl _⟩
      obtain ⟨before, after, hsplit⟩ := List.append_of_mem hmem
      exact ⟨after, rowsFrom_split hsplit⟩
    obtain ⟨fuel, events, hrun, hevents⟩ := reconcileAll_anchored hd hhave rows a hfrom
    refine ⟨fuel, events, hrun, fun r hr hle hmissing => ?_⟩
    rw [hreceived hevents hmissing, mem_sentAfter, ← rowsAfter_anchored hfrom, Reaches,
      if_pos ⟨a, ha, rfl⟩]
    constructor
    · rintro ⟨i, hi, hlt⟩
      obtain ⟨hmem, hrank⟩ := rowsAfter_getElem?_iff.mp hi
      exact ⟨(mem_rowsAfter.mp hmem).2, by rw [hrank]; exact hlt⟩
    · rintro ⟨hafter, hlt⟩
      exact ⟨_, (hrows (mem_rowsAfter.mpr ⟨hr, hafter⟩) _).mpr rfl, hlt⟩
  · have hafter : rowsAfter d sinceSeq = rowsFrom d sinceSeq := by
      unfold rowsAfter
      rw [List.filter_eq_self]
      intro r hr
      obtain ⟨hmem, hle⟩ := mem_rowsFrom.mp hr
      have hne : r.seq ≠ sinceSeq := fun heq => hanchor ⟨r, hmem, heq⟩
      rw [decide_eq_true_eq]
      omega
    have hfirst : ∀ {r : StoredEvent}, r ∈ rowsAfter d sinceSeq →
        (r ∈ (rowsAfter d sinceSeq).take 10000 ↔ rank d sinceSeq r < 10000) := by
      intro r hr
      rw [List.mem_iff_getElem?]
      constructor
      · rintro ⟨i, hi⟩
        rw [List.getElem?_take] at hi
        split at hi
        · rw [(hrows hr i).mp hi]
          assumption
        · cases hi
      · intro hlt
        refine ⟨rank d sinceSeq r, ?_⟩
        rw [List.getElem?_take, if_pos hlt]
        exact (hrows hr _).mpr rfl
    have hmemAfter : ∀ {r : StoredEvent}, r ∈ d .events → sinceSeq ≤ r.seq →
        r ∈ rowsAfter d sinceSeq := by
      intro r hr hle
      rw [hafter]
      exact mem_rowsFrom.mpr ⟨hr, hle⟩
    by_cases hlong : 50000 < (rowsFrom d sinceSeq).length
    · obtain ⟨fuel, events, hrun, hevents⟩ := reconcileAll_full hd hhave hlong fun y hy =>
        reconcileAll_anchored hd hhave _ y hy
      refine ⟨fuel, events, hrun, fun r hr hle hmissing => ?_⟩
      have hmem := hmemAfter hr hle
      rw [hreceived hevents hmissing, List.mem_append, hfirst hmem, mem_sentAfter, Reaches,
        if_neg hanchor, ← hafter]
      apply or_congr Iff.rfl
      constructor
      · rintro ⟨i, hi, hlt⟩
        rw [List.getElem?_drop, hrows hmem] at hi
        rw [hi]
        omega
      · rintro ⟨hge, hlt⟩
        refine ⟨rank d sinceSeq r - 50000, ?_, hlt⟩
        rw [List.getElem?_drop, hrows hmem]
        omega
    · obtain ⟨fuel, events, hrun, hevents⟩ := reconcileAll_end hd hhave (Nat.not_lt.mp hlong)
      refine ⟨fuel, events, hrun, fun r hr hle hmissing => ?_⟩
      have hmem := hmemAfter hr hle
      have hrank : rank d sinceSeq r < 50000 := by
        have hplace := (hrows hmem _).mpr rfl
        have hlt := (List.getElem?_eq_some_iff.mp hplace).1
        rw [hafter] at hlt
        omega
      rw [hreceived hevents hmissing, hfirst hmem, Reaches, if_neg hanchor]
      omega

/-- The client has everything if and only if the pages reach all that it is missing. -/
theorem reconciles_iff {d : Db} {haveRefs : List EventRef} {sinceSeq : Int} (hd : LogDecodes d)
    (hhave : haveRefs.length ≤ maxReconcileHave) :
    Reconciles d haveRefs sinceSeq ↔
      ∀ r ∈ d .events, sinceSeq ≤ r.seq → r.eventId ∉ haveRefs.map EventRef.eventId →
        Reaches d sinceSeq r := by
  obtain ⟨fuel, events, hrun, hreaches⟩ := reconcileAll_reaches hd hhave sinceSeq
  constructor
  · rintro ⟨fuel', events', hrun', hall⟩ r hr hle hmissing
    have hsame : events' = events := reconcileAll_unique hrun' hrun
    rw [hsame] at hall
    exact (hreaches r hr hle (decide_eq_true hmissing)).mp (hall r hr hle hmissing)
  · intro hall
    refine ⟨fuel, events, hrun, fun r hr hle hmissing => ?_⟩
    exact (hreaches r hr hle (decide_eq_true hmissing)).mpr (hall r hr hle hmissing)

end

section Sample

attribute [local instance] samplePlatform

def threeEventNode : Db :=
  deliverAll [.batch true [observedFirst, observedSecond], .batch true [sampleFeedRetired]]
    (Database.empty schema)

/-- A client with the first event gets the other two from seq 0 on.  From seq 2 on it does not
get the event of seq 2. -/
theorem threeEvents_reconcile :
    (threeEventNode .events : List StoredEvent).length = 3 ∧
      Reconciles threeEventNode [{ eventId := observedFirst.eventId, seq := 1 }] 0 ∧
      ¬ Reconciles threeEventNode [{ eventId := observedFirst.eventId, seq := 1 }] 2 := by
  have hdecodes : LogDecodes threeEventNode := LogDecodes.empty.deliverAll _
  refine ⟨by decide +kernel, ?_, ?_⟩
  · rw [reconciles_iff hdecodes (by decide)]
    decide +kernel
  · rw [reconciles_iff hdecodes (by decide)]
    decide +kernel

def oneEventNode : Db := deliverAll [.batch true [observedFirst]] (Database.empty schema)

/-- A client with nothing does not get the event from seq 1 on. -/
theorem oneEvent_skipped :
    storedEvent 1 observedFirst ∈ oneEventNode .events ∧ ¬ Reconciles oneEventNode [] 1 := by
  refine ⟨by decide +kernel, ?_⟩
  rintro ⟨fuel, events, hrun, hall⟩
  have hfirst : reconcileAll oneEventNode [] 1 1 = some [] := by decide +kernel
  rw [reconcileAll_unique hrun hfirst] at hall
  obtain ⟨ev, hev, -⟩ := hall (storedEvent 1 observedFirst) (by decide +kernel) (by decide)
    (by decide)
  cases hev

end Sample

end Stophammer
