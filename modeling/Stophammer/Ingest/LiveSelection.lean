import Mathlib
import Stophammer.Ingest.Content
import Stophammer.Relational.OrderBy

/-!
# The selected live items

Which live items of a submission are kept, read on the submitted list alone, and when each kept
item fits its table.
-/

namespace Stophammer

open IngestLiveItemData Relational

def IngestLiveItemData.start (item : IngestLiveItemData) : WithBot Int :=
  match item.startAt with
  | some startAt => (startAt : WithBot Int)
  | none => ⊥

/-- The item has a known status, no item of `front` with a known status has its GUID, and the ban
does not apply to it. -/
def survives (front : List IngestLiveItemData) (item : IngestLiveItemData) : Bool :=
  item.knownStatus && !item.isBannedLiveItem &&
    front.all fun other => !(other.knownStatus && other.liveItemGuid == item.liveItemGuid)

/-- The items of a list behind `front` that survive. -/
def survivorsAfter : List IngestLiveItemData → List IngestLiveItemData → List IngestLiveItemData
  | _, [] => []
  | front, item :: items =>
    if survives front item then item :: survivorsAfter (front ++ [item]) items
    else survivorsAfter (front ++ [item]) items

/-- The item between `front` and `back` is kept: it survives, and fewer items than the cap go
before it. -/
structure Selected (front : List IngestLiveItemData) (item : IngestLiveItemData)
    (back : List IngestLiveItemData) : Prop where
  survives : survives front item = true
  active : item.isEnded = false →
    ((survivorsAfter [] front).countP fun other => !other.isEnded) < maxActiveLiveRows
  ended : item.isEnded = true →
    ((survivorsAfter [] front).countP fun other => other.isEnded && item.start ≤ other.start) +
      ((survivorsAfter (front ++ [item]) back).countP fun other =>
        other.isEnded && item.start < other.start) < maxEndedLiveRows

def IngestLiveItemData.IsWarning (item : IngestLiveItemData) (warning : String) : Prop :=
  warning ∈ [item.unknownStatusWarning, item.duplicateWarning, item.bannedWarning,
    item.activeCapWarning, item.endedCapWarning]

structure LiveSelection (items kept : List IngestLiveItemData) (warnings : List String) :
    Prop where
  inOrder : kept.Sublist items
  guids : (kept.map liveItemGuid).Nodup
  active : kept.filter (!·.isEnded) =
    ((survivorsAfter [] items).filter (!·.isEnded)).take maxActiveLiveRows
  ended : (kept.filter isEnded).length ≤ maxEndedLiveRows
  newest : ∀ item ∈ survivorsAfter [] items, item.isEnded = true → item ∉ kept →
    ∀ other ∈ kept, other.isEnded = true → item.start ≤ other.start
  warned : ∃ dropped : List (IngestLiveItemData × String),
    items.Perm (kept ++ dropped.map Prod.fst) ∧ warnings = dropped.map Prod.snd ∧
      ∀ drop ∈ dropped, drop.1.IsWarning drop.2

theorem survivorsAfter_sublist (front items : List IngestLiveItemData) :
    (survivorsAfter front items).Sublist items := by
  induction items generalizing front with
  | nil => exact List.Sublist.refl []
  | cons item items ih =>
    unfold survivorsAfter
    split
    · exact (ih _).cons_cons item
    · exact (ih _).cons item

theorem survivorsAfter_append (front items back : List IngestLiveItemData) :
    survivorsAfter front (items ++ back) =
      survivorsAfter front items ++ survivorsAfter (front ++ items) back := by
  induction items generalizing front with
  | nil => simp [survivorsAfter]
  | cons item items ih =>
    rw [List.cons_append, survivorsAfter, survivorsAfter, ih, List.append_assoc,
      List.singleton_append]
    split <;> rfl

theorem survivorsAfter_split {front : List IngestLiveItemData} {item : IngestLiveItemData}
    (h : survives front item = true) (back : List IngestLiveItemData) :
    survivorsAfter [] (front ++ item :: back) =
      survivorsAfter [] front ++ item :: survivorsAfter (front ++ [item]) back := by
  rw [survivorsAfter_append, List.nil_append, survivorsAfter, if_pos h]

theorem mem_survivorsAfter {front items : List IngestLiveItemData} {item : IngestLiveItemData} :
    item ∈ survivorsAfter front items ↔
      ∃ before behind, items = before ++ item :: behind ∧
        survives (front ++ before) item = true := by
  induction items generalizing front with
  | nil => simp [survivorsAfter]
  | cons first items ih =>
    have hlater : (∃ before behind, first :: items = before ++ item :: behind ∧
        survives (front ++ before) item = true) ↔
          (first = item ∧ survives front item = true) ∨
            item ∈ survivorsAfter (front ++ [first]) items := by
      rw [ih]
      constructor
      · rintro ⟨before, behind, hitems, hsurvives⟩
        cases before with
        | nil =>
          obtain ⟨rfl, -⟩ := List.cons.inj hitems
          exact .inl ⟨rfl, by simpa using hsurvives⟩
        | cons b before =>
          obtain ⟨rfl, rfl⟩ := List.cons.inj hitems
          exact .inr ⟨before, behind, rfl, by simpa using hsurvives⟩
      · rintro (⟨rfl, hsurvives⟩ | ⟨before, behind, rfl, hsurvives⟩)
        · exact ⟨[], items, rfl, by simpa using hsurvives⟩
        · exact ⟨first :: before, behind, rfl, by simpa using hsurvives⟩
    rw [hlater, survivorsAfter]
    split
    · rename_i hfirst
      rw [List.mem_cons]
      refine or_congr ⟨?_, fun h => h.1.symm⟩ Iff.rfl
      rintro rfl
      exact ⟨rfl, hfirst⟩
    · rename_i hfirst
      refine (or_iff_right ?_).symm
      rintro ⟨rfl, hsurvives⟩
      exact hfirst hsurvives

/-- The GUIDs that are taken behind `front`. -/
def knownGuids (front : List IngestLiveItemData) : List String :=
  (front.filter knownStatus).map liveItemGuid

theorem survives_iff {front : List IngestLiveItemData} {item : IngestLiveItemData} :
    survives front item = true ↔ item.knownStatus = true ∧ item.isBannedLiveItem = false ∧
      item.liveItemGuid ∉ knownGuids front := by
  have hguids : item.liveItemGuid ∉ knownGuids front ↔
      ∀ other ∈ front, other.knownStatus = true → ¬other.liveItemGuid = item.liveItemGuid := by
    simp [knownGuids]
  rw [hguids]
  simp [survives, and_assoc, imp_iff_not_or]

theorem knownGuids_append_of_known {item : IngestLiveItemData} (h : item.knownStatus = true)
    (front : List IngestLiveItemData) :
    knownGuids (front ++ [item]) = knownGuids front ++ [item.liveItemGuid] := by
  simp [knownGuids, h]

theorem knownGuids_append_of_not {item : IngestLiveItemData} (h : ¬item.knownStatus = true)
    (front : List IngestLiveItemData) : knownGuids (front ++ [item]) = knownGuids front := by
  simp [knownGuids, h]

theorem survivors_behind (front items : List IngestLiveItemData) :
    (dedupeBy liveItemGuid (knownGuids front) (items.filter knownStatus)).filter
      (!·.isBannedLiveItem) = survivorsAfter front items := by
  induction items generalizing front with
  | nil => rfl
  | cons item items ih =>
    have hnext := ih (front ++ [item])
    rw [survivorsAfter, ← hnext]
    by_cases hknown : item.knownStatus = true
    · rw [List.filter_cons_of_pos hknown, dedupeBy, knownGuids_append_of_known hknown]
      by_cases hold : item.liveItemGuid ∈ knownGuids front
      · -- the GUID is taken already
        have hsame : dedupeBy liveItemGuid (knownGuids front) (items.filter knownStatus) =
            dedupeBy liveItemGuid (knownGuids front ++ [item.liveItemGuid])
              (items.filter knownStatus) := by
          refine dedupeBy_congr (fun guid => ?_) _
          rw [List.mem_append, List.mem_singleton]
          refine (or_iff_left_of_imp ?_).symm
          rintro rfl
          exact hold
        rw [if_pos hold, if_neg fun h => (survives_iff.mp h).2.2 hold, hsame]
      · have hcons : dedupeBy liveItemGuid (item.liveItemGuid :: knownGuids front)
            (items.filter knownStatus) =
            dedupeBy liveItemGuid (knownGuids front ++ [item.liveItemGuid])
              (items.filter knownStatus) :=
          dedupeBy_congr (fun guid => by simp [or_comm]) _
        rw [if_neg hold, hcons]
        by_cases hbanned : item.isBannedLiveItem = true
        · rw [List.filter_cons_of_neg (by simp [hbanned]), if_neg fun h => by
              rw [(survives_iff.mp h).2.1] at hbanned
              cases hbanned]
        · rw [Bool.not_eq_true] at hbanned
          rw [List.filter_cons_of_pos (by simp [hbanned]), 
            if_pos (survives_iff.mpr ⟨hknown, hbanned, hold⟩)]
    · rw [List.filter_cons_of_neg hknown, if_neg fun h => hknown (survives_iff.mp h).1,
        knownGuids_append_of_not hknown]

theorem survivors_eq (items : List IngestLiveItemData) :
    (dedupeBy liveItemGuid [] (items.filter knownStatus)).filter (!·.isBannedLiveItem) =
      survivorsAfter [] items :=
  survivors_behind [] items

theorem survivors_nodup (items : List IngestLiveItemData) :
    ((survivorsAfter [] items).map liveItemGuid).Nodup := by
  rw [← survivors_eq]
  exact (dedupeBy_nodup [] _).1.sublist (List.filter_sublist.map _)

theorem startsLater_iff {a b : IngestLiveItemData} :
    startsLater a b = true ↔ b.start ≤ a.start := by
  unfold startsLater start
  cases a.startAt <;> cases b.startAt <;> simp

instance : IsTrans IngestLiveItemData fun a b => startsLater a b = true :=
  ⟨fun _ _ _ hab hbc => startsLater_iff.mpr
    ((startsLater_iff.mp hbc).trans (startsLater_iff.mp hab))⟩

instance : Std.Total fun a b : IngestLiveItemData => startsLater a b = true :=
  ⟨fun a b => by
    rw [startsLater_iff, startsLater_iff]
    exact le_total b.start a.start⟩

section

variable (items : List IngestLiveItemData)

def activeSurvivors : List IngestLiveItemData :=
  (survivorsAfter [] items).filter (!·.isEnded)

/-- The ended items, the newest start first. -/
def endedSurvivors : List IngestLiveItemData :=
  ((survivorsAfter [] items).filter isEnded).insertionSort fun a b => startsLater a b

/-- The items below the caps. -/
def cappedItems : List IngestLiveItemData :=
  (activeSurvivors items).take maxActiveLiveRows ++ (endedSurvivors items).take maxEndedLiveRows

theorem mem_activeSurvivors {item : IngestLiveItemData} : item ∈ activeSurvivors items ↔
    item ∈ survivorsAfter [] items ∧ item.isEnded = false := by
  simp [activeSurvivors]

theorem mem_endedSurvivors {item : IngestLiveItemData} : item ∈ endedSurvivors items ↔
    item ∈ survivorsAfter [] items ∧ item.isEnded = true := by
  simp [endedSurvivors]

theorem capped_sublist :
    (cappedItems items).Sublist (activeSurvivors items ++ endedSurvivors items) :=
  (List.take_sublist _ _).append (List.take_sublist _ _)

theorem split_perm :
    (activeSurvivors items ++ endedSurvivors items).Perm (survivorsAfter [] items) := by
  have hended := List.perm_insertionSort (fun a b => startsLater a b = true)
    ((survivorsAfter [] items).filter isEnded)
  refine ((List.Perm.append_left _ hended).trans List.perm_append_comm).trans ?_
  exact List.filter_append_perm isEnded _

theorem mem_survivors_of_capped {item : IngestLiveItemData} (h : item ∈ cappedItems items) :
    item ∈ survivorsAfter [] items :=
  (split_perm items).subset ((capped_sublist items).subset h)

theorem split_nodup : (activeSurvivors items ++ endedSurvivors items).Nodup :=
  (split_perm items).nodup_iff.mpr (survivors_nodup items).of_map

theorem selectLiveItems_kept : (selectLiveItems items).1 =
    (survivorsAfter [] items).filter fun item =>
      item.liveItemGuid ∈ (cappedItems items).map liveItemGuid := by
  rw [selectLiveItems]
  simp only [survivors_eq]
  rfl

theorem guid_mem_capped {item : IngestLiveItemData} (h : item ∈ survivorsAfter [] items) :
    item.liveItemGuid ∈ (cappedItems items).map liveItemGuid ↔ item ∈ cappedItems items := by
  refine ⟨fun hguid => ?_, List.mem_map_of_mem⟩
  obtain ⟨other, hother, hsame⟩ := List.mem_map.mp hguid
  have heq : other = item := List.inj_on_of_nodup_map (survivors_nodup items)
    (mem_survivors_of_capped items hother) h hsame
  exact heq ▸ hother

theorem mem_selectLiveItems {item : IngestLiveItemData} :
    item ∈ (selectLiveItems items).1 ↔ item ∈ cappedItems items := by
  rw [selectLiveItems_kept, List.mem_filter, decide_eq_true_eq]
  constructor
  · rintro ⟨hitem, hguid⟩
    exact (guid_mem_capped items hitem).mp hguid
  · intro h
    have hitem := mem_survivors_of_capped items h
    exact ⟨hitem, (guid_mem_capped items hitem).mpr h⟩

theorem kept_sublist : (selectLiveItems items).1.Sublist (survivorsAfter [] items) := by
  rw [selectLiveItems_kept]
  exact List.filter_sublist

theorem kept_guids_nodup : ((selectLiveItems items).1.map liveItemGuid).Nodup :=
  (survivors_nodup items).sublist ((kept_sublist items).map _)

theorem kept_perm : (selectLiveItems items).1.Perm (cappedItems items) :=
  (List.perm_ext_iff_of_nodup (kept_guids_nodup items).of_map
    ((split_nodup items).sublist (capped_sublist items))).mpr fun _ => mem_selectLiveItems items

theorem active_take_ended {item : IngestLiveItemData}
    (h : item ∈ (activeSurvivors items).take maxActiveLiveRows) : item.isEnded = false :=
  ((mem_activeSurvivors items).mp (List.mem_of_mem_take h)).2

theorem ended_take_ended {item : IngestLiveItemData}
    (h : item ∈ (endedSurvivors items).take maxEndedLiveRows) : item.isEnded = true :=
  ((mem_endedSurvivors items).mp (List.mem_of_mem_take h)).2

theorem kept_active :
    (selectLiveItems items).1.filter (!·.isEnded) =
      (activeSurvivors items).take maxActiveLiveRows := by
  have htake := List.take_append_drop maxActiveLiveRows (activeSurvivors items)
  have hnodup : (activeSurvivors items).Nodup := (List.nodup_append.mp (split_nodup items)).1
  have hkept : (selectLiveItems items).1.filter (!·.isEnded) = (activeSurvivors items).filter
      fun item => item.liveItemGuid ∈ (cappedItems items).map liveItemGuid := by
    rw [selectLiveItems_kept, activeSurvivors, List.filter_filter, List.filter_filter]
    exact List.filter_congr fun _ _ => Bool.and_comm _ _
  rw [hkept]
  nth_rewrite 1 [← htake]
  rw [List.filter_append, List.filter_eq_self.mpr, List.filter_eq_nil_iff.mpr, List.append_nil]
  · intro item hdrop hguid
    have hitem := ((mem_activeSurvivors items).mp (List.mem_of_mem_drop hdrop))
    rw [decide_eq_true_eq, guid_mem_capped items hitem.1] at hguid
    rcases List.mem_append.mp hguid with hmem | hmem
    · exact List.disjoint_take_drop hnodup le_rfl hmem hdrop
    · rw [ended_take_ended items hmem] at hitem
      cases hitem.2
  · intro item hitem
    exact decide_eq_true (List.mem_map_of_mem (List.mem_append_left _ hitem))

theorem kept_ended :
    ((selectLiveItems items).1.filter isEnded).Perm
      ((endedSurvivors items).take maxEndedLiveRows) := by
  have hactive : ((activeSurvivors items).take maxActiveLiveRows).filter isEnded = [] := by
    rw [List.filter_eq_nil_iff]
    intro item hitem
    rw [active_take_ended items hitem]
    simp
  have hended : ((endedSurvivors items).take maxEndedLiveRows).filter isEnded =
      (endedSurvivors items).take maxEndedLiveRows :=
    List.filter_eq_self.mpr fun item hitem => ended_take_ended items hitem
  have hfilter := (kept_perm items).filter isEnded
  rwa [cappedItems, List.filter_append, hactive, hended, List.nil_append] at hfilter

theorem dropped_start {item other : IngestLiveItemData} (hitem : item ∈ survivorsAfter [] items)
    (hended : item.isEnded = true) (hdropped : item ∉ (selectLiveItems items).1)
    (hother : other ∈ (selectLiveItems items).1) (hotherEnded : other.isEnded = true) :
    item.start ≤ other.start := by
  have htake := List.take_append_drop maxEndedLiveRows (endedSurvivors items)
  have hsorted : (endedSurvivors items).Pairwise fun a b => startsLater a b = true :=
    List.pairwise_insertionSort _ _
  rw [← htake] at hsorted
  obtain ⟨-, -, hall⟩ := List.pairwise_append.mp hsorted
  have hbehind : item ∈ (endedSurvivors items).drop maxEndedLiveRows := by
    have hmem := (mem_endedSurvivors items).mpr ⟨hitem, hended⟩
    rw [← htake] at hmem
    refine (List.mem_append.mp hmem).resolve_left fun hfront => hdropped ?_
    exact (mem_selectLiveItems items).mpr (List.mem_append_right _ hfront)
  have hfront : other ∈ (endedSurvivors items).take maxEndedLiveRows :=
    (kept_ended items).subset (List.mem_filter.mpr ⟨hother, hotherEnded⟩)
  exact startsLater_iff.mp (hall other hfront item hbehind)

theorem dedupeBy_repeats {α κ : Type} [DecidableEq κ] (key : α → κ) (seen : List κ)
    (as : List α) : (dedupeBy key seen as ++ repeatsBy key seen as).Perm as := by
  induction as generalizing seen with
  | nil => exact List.Perm.refl []
  | cons a as ih =>
    unfold dedupeBy repeatsBy
    split
    · exact List.perm_middle.trans ((ih seen).cons a)
    · exact (ih (key a :: seen)).cons a

def droppedItems : List (IngestLiveItemData × String) :=
  (items.filter (!·.knownStatus)).map (fun item => (item, item.unknownStatusWarning)) ++
    (repeatsBy liveItemGuid [] (items.filter knownStatus)).map
      (fun item => (item, item.duplicateWarning)) ++
    ((dedupeBy liveItemGuid [] (items.filter knownStatus)).filter isBannedLiveItem).map
      (fun item => (item, item.bannedWarning)) ++
    ((activeSurvivors items).drop maxActiveLiveRows).map
      (fun item => (item, item.activeCapWarning)) ++
    ((endedSurvivors items).drop maxEndedLiveRows).map fun item => (item, item.endedCapWarning)

theorem warnings_eq : (selectLiveItems items).2 = (droppedItems items).map Prod.snd := by
  simp only [selectLiveItems, survivors_eq, droppedItems, List.map_append, List.map_map]
  rfl

theorem droppedItems_warning {drop : IngestLiveItemData × String}
    (h : drop ∈ droppedItems items) : drop.1.IsWarning drop.2 := by
  have hlist : ∀ {dropped : List IngestLiveItemData} {warning : IngestLiveItemData → String},
      (∀ item : IngestLiveItemData, item.IsWarning (warning item)) →
        drop ∈ dropped.map (fun item => (item, warning item)) → drop.1.IsWarning drop.2 := by
    intro dropped warning hwarning hdrop
    obtain ⟨item, -, rfl⟩ := List.mem_map.mp hdrop
    exact hwarning item
  simp only [droppedItems, List.mem_append] at h
  rcases h with (((h | h) | h) | h) | h
  all_goals
    refine hlist (fun item => ?_) h
    simp [IsWarning]

theorem kept_dropped_perm :
    items.Perm ((selectLiveItems items).1 ++ (droppedItems items).map Prod.fst) := by
  have hfst : ∀ (dropped : List IngestLiveItemData) (warning : IngestLiveItemData → String),
      (dropped.map fun item => (item, warning item)).map Prod.fst = dropped := by
    intro dropped warning
    rw [List.map_map]
    exact List.map_id dropped
  have hknown := List.filter_append_perm knownStatus items
  have hguids := dedupeBy_repeats liveItemGuid [] (items.filter knownStatus)
  have hbanned := List.filter_append_perm isBannedLiveItem
    (dedupeBy liveItemGuid [] (items.filter knownStatus))
  rw [survivors_eq] at hbanned
  classical
  -- each filter parts its list in two, and so do the caps
  rw [List.perm_iff_count]
  intro a
  have hactive := congrArg (List.count a)
    (List.take_append_drop maxActiveLiveRows (activeSurvivors items))
  have hended := congrArg (List.count a)
    (List.take_append_drop maxEndedLiveRows (endedSurvivors items))
  have h1 := hknown.count_eq a
  have h2 := hguids.count_eq a
  have h3 := hbanned.count_eq a
  have h4 := (split_perm items).count_eq a
  have h5 := (kept_perm items).count_eq a
  simp only [cappedItems, List.count_append] at hactive hended h1 h2 h3 h4 h5
  simp only [droppedItems, List.map_append, hfst, List.count_append]
  omega

theorem mem_take_split {α : Type} {front back : List α} {a : α}
    (hnodup : (front ++ a :: back).Nodup) (n : Nat) :
    a ∈ (front ++ a :: back).take n ↔ front.length < n := by
  rw [List.take_append, List.mem_append]
  constructor
  · rintro (hfront | hback)
    · have hdisjoint := (List.nodup_append.mp hnodup).2.2
      exact absurd rfl (hdisjoint a (List.mem_of_mem_take hfront) a List.mem_cons_self)
    · have hpos : n - front.length ≠ 0 := by
        intro hzero
        rw [hzero, List.take_zero] at hback
        cases hback
      omega
  · intro hlength
    obtain ⟨k, hk⟩ : ∃ k, n - front.length = k + 1 := ⟨n - front.length - 1, by omega⟩
    rw [hk, List.take_succ_cons]
    exact .inr List.mem_cons_self

end

theorem mem_capped_split {front back : List IngestLiveItemData} {item : IngestLiveItemData}
    (h : survives front item = true) :
    item ∈ cappedItems (front ++ item :: back) ↔ Selected front item back := by
  have hsplit := survivorsAfter_split h back
  have hnodup := List.nodup_append.mp (split_nodup (front ++ item :: back))
  cases hended : item.isEnded with
  | false =>
    have hactive : activeSurvivors (front ++ item :: back) =
        (survivorsAfter [] front).filter (!·.isEnded) ++ item ::
          (survivorsAfter (front ++ [item]) back).filter (!·.isEnded) := by
      rw [activeSurvivors, hsplit, List.filter_append, List.filter_cons_of_pos (by simp [hended])]
    have hother : item ∉ (endedSurvivors (front ++ item :: back)).take maxEndedLiveRows := by
      intro hmem
      rw [ended_take_ended _ hmem] at hended
      cases hended
    have hrank := mem_take_split (hactive ▸ hnodup.1) maxActiveLiveRows
    rw [cappedItems, List.mem_append, or_iff_left hother, hactive, hrank,
      ← List.countP_eq_length_filter]
    exact ⟨fun hcount => ⟨h, fun _ => hcount, fun hcontra => by simp [hended] at hcontra⟩,
      fun hselected => hselected.active hended⟩
  | true =>
    obtain ⟨before, after, hsort, hlength⟩ := insertionSort_split
      (r := fun a b => startsLater a b = true) ((survivorsAfter [] front).filter isEnded)
      ((survivorsAfter (front ++ [item]) back).filter isEnded) item
    have hsorted : endedSurvivors (front ++ item :: back) = before ++ item :: after := by
      rw [endedSurvivors, hsplit, List.filter_append, List.filter_cons_of_pos hended, hsort]
    have hother : item ∉ (activeSurvivors (front ++ item :: back)).take maxActiveLiveRows := by
      intro hmem
      rw [active_take_ended _ hmem] at hended
      cases hended
    have hrank := mem_take_split (hsorted ▸ hnodup.2.1) maxEndedLiveRows
    have hfront : ((survivorsAfter [] front).filter isEnded).countP
        (fun other => startsLater other item = true) =
          (survivorsAfter [] front).countP fun other =>
            other.isEnded && item.start ≤ other.start := by
      rw [List.countP_filter]
      exact List.countP_congr fun other _ => by simp [startsLater_iff, and_comm]
    have hback : ((survivorsAfter (front ++ [item]) back).filter isEnded).countP
        (fun other => ¬startsLater item other = true) =
          (survivorsAfter (front ++ [item]) back).countP fun other =>
            other.isEnded && item.start < other.start := by
      rw [List.countP_filter]
      exact List.countP_congr fun other _ => by simp [startsLater_iff, and_comm]
    rw [cappedItems, List.mem_append, or_iff_right hother, hsorted, hrank, hlength, hfront, hback]
    exact ⟨fun hcount => ⟨h, fun hcontra => by simp [hended] at hcontra, fun _ => hcount⟩,
      fun hselected => hselected.ended hended⟩

theorem mem_selectLiveItems_iff {items : List IngestLiveItemData} {item : IngestLiveItemData} :
    item ∈ (selectLiveItems items).1 ↔
      ∃ front back, items = front ++ item :: back ∧ Selected front item back := by
  rw [mem_selectLiveItems]
  constructor
  · intro h
    obtain ⟨front, back, rfl, hsurvives⟩ :=
      mem_survivorsAfter.mp (mem_survivors_of_capped items h)
    exact ⟨front, back, rfl, (mem_capped_split hsurvives).mp h⟩
  · rintro ⟨front, back, rfl, hselected⟩
    exact (mem_capped_split hselected.survives).mpr hselected

theorem selectLiveItems_selection (items : List IngestLiveItemData) :
    LiveSelection items (selectLiveItems items).1 (selectLiveItems items).2 where
  inOrder := (kept_sublist items).trans (survivorsAfter_sublist [] items)
  guids := kept_guids_nodup items
  active := kept_active items
  ended := by
    rw [(kept_ended items).length_eq, List.length_take]
    exact Nat.min_le_left _ _
  newest _ hitem hended hdropped _ hother hotherEnded :=
    dropped_start items hitem hended hdropped hother hotherEnded
  warned := ⟨droppedItems items, kept_dropped_perm items, warnings_eq items,
    fun _ => droppedItems_warning items⟩

/-- The selection keeps its rules on every list.  Each kept item fits its table exactly when the
status of each selected item is in lower case. -/
theorem selectLiveItems_fit (i : BuildInput) (items : List IngestLiveItemData) :
    LiveSelection items (selectLiveItems items).1 (selectLiveItems items).2 ∧
      ((∀ item ∈ (selectLiveItems items).1, Table.check .liveEvents (i.liveEvent item) = true) ↔
        ∀ front item back, items = front ++ item :: back → Selected front item back →
          item.status ∈ ["pending", "live", "ended"]) := by
  refine ⟨selectLiveItems_selection items, ?_⟩
  have hcheck : ∀ item : IngestLiveItemData,
      Table.check .liveEvents (i.liveEvent item) = true ↔
        item.status ∈ ["pending", "live", "ended"] := by
    intro item
    simp [Table.check, BuildInput.liveEvent]
  simp only [hcheck, mem_selectLiveItems_iff]
  constructor
  · exact fun h front item back hitems hselected => h item ⟨front, back, hitems, hselected⟩
  · rintro h item ⟨front, back, hitems, hselected⟩
    exact h front item back hitems hselected

section Sample

def shoutedItem : IngestLiveItemData where
  liveItemGuid := "show-1"
  title := "Show"
  status := "LIVE"
  startAt := none
  endAt := none
  contentLink := none
  pubDate := none
  enclosureUrl := none
  enclosureType := none
  enclosureBytes := none
  alternateEnclosures := []
  description := none
  liveValueUri := some "https://relay.example/show"
  liveValueProtocol := none
  persons := []
  entityIds := []
  links := []
  transcripts := []

def shoutedInput : BuildInput where
  feedData := {
    feedGuid := "917393e3-1b1e-5cef-ace4-edaa54e1f810"
    title := "Band"
    description := none
    imageUrl := none
    language := none
    explicit := false
    itunesType := none
    rawMedium := some "music"
    authorName := none
    ownerName := none
    pubDate := none
    lastBuildDate := none
    newFeedUrl := none
    locked := none
    lockedOwner := none
    remoteItems := []
    persons := []
    entityIds := []
    links := []
    feedPaymentRoutes := []
    liveItems := [shoutedItem]
    blocks := []
    tracks := [] }
  canonicalUrl := "https://band.example/feed"
  feedUrl := "https://band.example/feed"
  now := 0

/-- The item is kept, and its row breaks the constraint on the status. -/
theorem selectLiveItems_shouted :
    ¬(LiveSelection shoutedInput.rawLiveItems (selectLiveItems shoutedInput.rawLiveItems).1
        (selectLiveItems shoutedInput.rawLiveItems).2 ∧
      ∀ item ∈ (selectLiveItems shoutedInput.rawLiveItems).1,
        Table.check .liveEvents (shoutedInput.liveEvent item) = true) := by
  rintro ⟨-, hcheck⟩
  exact absurd hcheck (by decide +kernel)

end Sample

end Stophammer
