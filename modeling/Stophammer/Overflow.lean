import Stophammer.CheckedInt
import Stophammer.Ingest.LiveSelection
import Stophammer.Ingest.Verify

/-!
# Times and splits at their limits

The places where the code computes with times and splits that a submission or a request gives.
Here each of them has no result when a value leaves the range of `i64`.
-/

namespace Stophammer

open IngestLiveItemData CheckedInt

/-- `is_banned_live_item` with a checked difference. -/
def IngestLiveItemData.checkedIsBanned (item : IngestLiveItemData) : Option Bool :=
  if !eqIgnoreAsciiCase item.status "live" || item.hasRelayLink then some false
  else
    match item.startAt, item.endAt with
    | some startAt, some endAt => (sub endAt startAt).map (maxUnrelayedLiveSecs < ·)
    | _, _ => some true

/-- The items that the third step of the selection reads. -/
def examinedLiveItems (items : List IngestLiveItemData) : List IngestLiveItemData :=
  dedupeBy liveItemGuid [] (items.filter knownStatus)

def liveEndMarginSecs : Int := 3600

def pendingStartMarginSecs : Int := 3600

def LiveEvent.inNowView (row : LiveEvent) (now : Int) (confirming : Bool) : Option Bool :=
  if !eqIgnoreAsciiCase row.status "live" then some false
  else if confirming then some true
  else
    match row.scheduledEnd with
    | none => some true
    | some scheduledEnd => (add scheduledEnd liveEndMarginSecs).map (now < ·)

def LiveEvent.inUpcomingView (row : LiveEvent) (now : Int) : Option Bool :=
  if !eqIgnoreAsciiCase row.status "pending" then some false
  else
    match row.scheduledEnd with
    | some scheduledEnd => some (now < scheduledEnd)
    | none =>
      match row.scheduledStart with
      | some scheduledStart => (add scheduledStart pendingStartMarginSecs).map (now < ·)
      | none => some false

def syncRegisterMaxSkewSecs : Int := 600

/-- The test of `signed_at` in `handle_sync_register`. -/
def outsideRegisterSkew (now signedAt : Int) : Option Bool :=
  ((sub now signedAt).bind abs).map (syncRegisterMaxSkewSecs < ·)

def IngestTrackData.splits (track : IngestTrackData) : List Int :=
  track.paymentRoutes.map IngestPaymentRoute.split

/-- `PaymentRouteSumVerifier::verify` over the tracks. -/
def verifySplitSums : List IngestTrackData → Option VerifyResult
  | [] => some .pass
  | track :: tracks =>
    if track.paymentRoutes.isEmpty then verifySplitSums tracks
    else
      (CheckedInt.sum track.splits).bind fun sum =>
        if sum ≠ 100 then
          some (.fail ("track '" ++ track.trackGuid ++ "' payment splits sum to " ++
            toString sum ++ " (expected 100)"))
        else verifySplitSums tracks

def verifyPaymentRouteSum (ctx : IngestContext) : Option VerifyResult :=
  match ctx.request.feedData with
  | none => some .pass
  | some feedData => verifySplitSums feedData.tracks

def IngestLiveItemData.WindowFits (item : IngestLiveItemData) : Prop :=
  eqIgnoreAsciiCase item.status "live" = true → item.hasRelayLink = false →
    ∀ startAt ∈ item.startAt, ∀ endAt ∈ item.endAt, InRange (endAt - startAt)

theorem checkedIsBanned_isSome {item : IngestLiveItemData} :
    item.checkedIsBanned.isSome = true ↔ item.WindowFits := by
  unfold checkedIsBanned WindowFits
  split
  · rename_i h
    refine iff_of_true rfl fun hlive hrelay => ?_
    rw [hlive, hrelay] at h
    cases h
  · rename_i h
    simp only [Bool.or_eq_true, Bool.not_eq_true', not_or, Bool.not_eq_false,
      Bool.not_eq_true] at h
    rw [forall_prop_of_true h.1, forall_prop_of_true h.2]
    rcases item.startAt with _ | startAt <;> rcases item.endAt with _ | endAt <;>
      simp [sub, ofInt_isSome]

theorem wrappingSub_of_inRange {a b : Int} (h : InRange (a - b)) : wrappingSub a b = a - b := by
  obtain ⟨hlower, hupper⟩ := h
  rw [wrappingSub, Int.bmod_eq_of_le (by omega) (by omega)]

theorem checkedIsBanned_eq {item : IngestLiveItemData} {banned : Bool}
    (h : item.checkedIsBanned = some banned) : item.isBannedLiveItem = banned := by
  have hfits := checkedIsBanned_isSome.mp (by rw [h, Option.isSome_some])
  unfold checkedIsBanned at h
  unfold isBannedLiveItem
  split at h
  · rename_i hother
    rw [if_pos hother]
    exact Option.some.inj h
  · rename_i hlive
    have hparts := hlive
    simp only [Bool.or_eq_true, Bool.not_eq_true', not_or, Bool.not_eq_false,
      Bool.not_eq_true] at hparts
    rw [if_neg hlive]
    rcases hstart : item.startAt with _ | startAt <;> rcases hend : item.endAt with _ | endAt <;>
      rw [hstart, hend] at h
    case some.some =>
      have hrange := hfits hparts.1 hparts.2 startAt hstart endAt hend
      simp only [sub, ofInt, if_pos hrange, Option.map_some, Option.some.injEq] at h
      simp only [wrappingSub_of_inRange hrange, h]
    all_goals exact Option.some.inj h

theorem mem_examinedLiveItems {items : List IngestLiveItemData} {item : IngestLiveItemData} :
    item ∈ examinedLiveItems items ↔ ∃ front back, items = front ++ item :: back ∧
      item.knownStatus = true ∧
        ∀ other ∈ front, other.knownStatus = true → other.liveItemGuid ≠ item.liveItemGuid := by
  rw [examinedLiveItems, mem_dedupeBy_split]
  constructor
  · rintro ⟨front, back, hknown, -, hfirst⟩
    obtain ⟨before, rest, rfl, rfl, hrest⟩ := List.filter_eq_append_iff.mp hknown
    obtain ⟨gap, behind, rfl, hgap, hitem, -⟩ := List.filter_eq_cons_iff.mp hrest
    refine ⟨before ++ gap, behind, by rw [List.append_assoc], hitem, fun other hother hk => ?_⟩
    rcases List.mem_append.mp hother with hother | hother
    · exact hfirst other (List.mem_filter.mpr ⟨hother, hk⟩)
    · exact absurd hk (hgap other hother)
  · rintro ⟨front, back, rfl, hitem, hfirst⟩
    refine ⟨front.filter knownStatus, back.filter knownStatus, ?_, List.not_mem_nil,
      fun other hother => ?_⟩
    · rw [List.filter_append, List.filter_cons_of_pos hitem]
    · obtain ⟨hother, hk⟩ := List.mem_filter.mp hother
      exact hfirst other hother hk

theorem inNowView_isSome {row : LiveEvent} {now : Int} {confirming : Bool} :
    (row.inNowView now confirming).isSome = true ↔
      (eqIgnoreAsciiCase row.status "live" = true → confirming = false →
        ∀ scheduledEnd ∈ row.scheduledEnd, InRange (scheduledEnd + liveEndMarginSecs)) := by
  unfold LiveEvent.inNowView
  cases hlive : eqIgnoreAsciiCase row.status "live" <;> cases confirming <;>
    rcases row.scheduledEnd with _ | scheduledEnd <;> simp [add, ofInt_isSome]

theorem inUpcomingView_isSome {row : LiveEvent} {now : Int} :
    (row.inUpcomingView now).isSome = true ↔
      (eqIgnoreAsciiCase row.status "pending" = true → row.scheduledEnd = none →
        ∀ scheduledStart ∈ row.scheduledStart,
          InRange (scheduledStart + pendingStartMarginSecs)) := by
  unfold LiveEvent.inUpcomingView
  cases hpending : eqIgnoreAsciiCase row.status "pending" <;>
    rcases row.scheduledEnd with _ | scheduledEnd <;>
    rcases row.scheduledStart with _ | scheduledStart <;> simp [add, ofInt_isSome]

theorem outsideRegisterSkew_isSome {now signedAt : Int} :
    (outsideRegisterSkew now signedAt).isSome = true ↔ |now - signedAt| < 2 ^ 63 := by
  rw [outsideRegisterSkew, Option.isSome_map, abs_sub_isSome]

/-- Each track behind tracks whose splits sum to 100 has all its partial sums in range. -/
def SplitsFit (tracks : List IngestTrackData) : Prop :=
  ∀ front track back, tracks = front ++ track :: back →
    (∀ other ∈ front, other.paymentRoutes = [] ∨ other.splits.sum = 100) →
      ∀ part, part <+: track.splits → InRange part.sum

theorem splitsFit_cons {track : IngestTrackData} {tracks : List IngestTrackData} :
    SplitsFit (track :: tracks) ↔ (∀ part, part <+: track.splits → InRange part.sum) ∧
      (track.paymentRoutes = [] ∨ track.splits.sum = 100 → SplitsFit tracks) := by
  constructor
  · intro h
    refine ⟨h [] track tracks rfl (List.forall_mem_nil _), ?_⟩
    rintro hsum front other back rfl hfront
    exact h (track :: front) other back rfl (List.forall_mem_cons.mpr ⟨hsum, hfront⟩)
  · rintro ⟨hfirst, hlater⟩ front other back htracks hfront
    cases front with
    | nil =>
      obtain ⟨rfl, -⟩ := List.cons.inj htracks
      exact hfirst
    | cons first front =>
      obtain ⟨rfl, rfl⟩ := List.cons.inj htracks
      obtain ⟨hsum, hfront⟩ := List.forall_mem_cons.mp hfront
      exact hlater hsum front other back rfl hfront

theorem verifySplitSums_isSome {tracks : List IngestTrackData} :
    (verifySplitSums tracks).isSome = true ↔ SplitsFit tracks := by
  induction tracks with
  | nil => exact iff_of_true rfl fun front track back h => by simp at h
  | cons track tracks ih =>
    rw [verifySplitSums, splitsFit_cons]
    split
    · rename_i hempty
      rw [List.isEmpty_iff] at hempty
      have hparts : ∀ part, part <+: track.splits → InRange part.sum := by
        intro part hpart
        rw [IngestTrackData.splits, hempty, List.map_nil, List.prefix_nil] at hpart
        rw [hpart]
        exact inRange_zero
      rw [ih, and_iff_right hparts, forall_prop_of_true (.inl hempty)]
    · rename_i hroutes
      rw [List.isEmpty_iff] at hroutes
      rw [← sum_isSome, or_iff_right hroutes]
      cases hsum : CheckedInt.sum track.splits with
      | none => exact iff_of_false (by simp) (by simp)
      | some total =>
        rw [Option.bind_some, ← sum_eq_some hsum, Option.isSome_some, and_iff_right rfl]
        split
        · rename_i hother
          exact iff_of_true rfl fun h => absurd h hother
        · rename_i h100
          rw [ih, forall_prop_of_true (not_not.mp h100)]

theorem verifyPaymentRouteSum_isSome {ctx : IngestContext} :
    (verifyPaymentRouteSum ctx).isSome = true ↔
      ∀ feedData ∈ ctx.request.feedData, SplitsFit feedData.tracks := by
  unfold verifyPaymentRouteSum
  rcases ctx.request.feedData with _ | feedData
  · simp
  · simp [verifySplitSums_isSome]

/-- When no computation on submitted times and splits leaves the range of `i64`: the window of each
examined item, the times of a row with their margins, the skew of a signed request, and each partial
sum of splits. -/
theorem arithmetic_inRange_iff (items : List IngestLiveItemData) (row : LiveEvent)
    (now signedAt : Int) (confirming : Bool) (ctx : IngestContext) :
    ((∀ item ∈ examinedLiveItems items, item.checkedIsBanned.isSome = true) ↔
      ∀ front item back, items = front ++ item :: back → item.knownStatus = true →
        (∀ other ∈ front, other.knownStatus = true →
          other.liveItemGuid ≠ item.liveItemGuid) → item.WindowFits) ∧
    ((row.inNowView now confirming).isSome = true ↔
      (eqIgnoreAsciiCase row.status "live" = true → confirming = false →
        ∀ scheduledEnd ∈ row.scheduledEnd, InRange (scheduledEnd + liveEndMarginSecs))) ∧
    ((row.inUpcomingView now).isSome = true ↔
      (eqIgnoreAsciiCase row.status "pending" = true → row.scheduledEnd = none →
        ∀ scheduledStart ∈ row.scheduledStart,
          InRange (scheduledStart + pendingStartMarginSecs))) ∧
    ((outsideRegisterSkew now signedAt).isSome = true ↔ |now - signedAt| < 2 ^ 63) ∧
    ((verifyPaymentRouteSum ctx).isSome = true ↔
      ∀ feedData ∈ ctx.request.feedData, SplitsFit feedData.tracks) := by
  refine ⟨?_, inNowView_isSome, inUpcomingView_isSome, outsideRegisterSkew_isSome,
    verifyPaymentRouteSum_isSome⟩
  simp only [checkedIsBanned_isSome, mem_examinedLiveItems]
  constructor
  · exact fun h front item back hitems hknown hfirst =>
      h item ⟨front, back, hitems, hknown, hfirst⟩
  · rintro h item ⟨front, back, hitems, hknown, hfirst⟩
    exact h front item back hitems hknown hfirst

section Sample

/-- A live item from the first to the last second that `i64` holds. -/
def widestItem : IngestLiveItemData :=
  { shoutedItem with
    status := "live"
    startAt := some (-2 ^ 63)
    endAt := some (2 ^ 63 - 1)
    liveValueUri := none }

theorem examined_widestItem :
    ¬∀ item ∈ examinedLiveItems [widestItem], item.checkedIsBanned.isSome = true := by
  decide +kernel

end Sample

end Stophammer
