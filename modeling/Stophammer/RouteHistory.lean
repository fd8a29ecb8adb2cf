import Mathlib.Data.List.Destutter
import Stophammer.Operator
import Stophammer.Reconcile

/-!
# The history of payment recipients

The read of the events that carry a route set of a feed or of its tracks, and the entries
that are made of them.  For each subject the entries are the changes of its recipient set.
-/

namespace Stophammer

open Relational Statement

section Changes

variable {α : Type} [DecidableEq α]

/-- The values that differ from the one before them.  `last` comes before the first one. -/
def changesAfter : Option α → List α → List α
  | _, [] => []
  | last, a :: as =>
    if last = some a then changesAfter last as else a :: changesAfter (some a) as

theorem cons_changesAfter (a : α) (xs : List α) :
    a :: changesAfter (some a) xs = xs.destutter' (· ≠ ·) a := by
  induction xs generalizing a with
  | nil => rfl
  | cons x xs ih =>
    rw [List.destutter'_cons, changesAfter]
    by_cases hx : a = x
    · rw [if_pos (congrArg some hx), if_neg (not_not.mpr hx), ih]
    · rw [if_neg fun h => hx (Option.some.inj h), if_pos hx, ih]

theorem changesAfter_eq_destutter (xs : List α) : changesAfter none xs = xs.destutter (· ≠ ·) := by
  cases xs with
  | nil => rfl
  | cons x xs => exact cons_changesAfter x xs

end Changes

def PaymentRoute.recipient (r : PaymentRoute) : RouteRecipient where
  address := r.address
  customKey := r.customKey
  customValue := r.customValue
  split := r.split

def FeedPaymentRoute.recipient (r : FeedPaymentRoute) : RouteRecipient where
  address := r.address
  customKey := r.customKey
  customValue := r.customValue
  split := r.split

def recipientSet (routes : List PaymentRoute) : List RouteRecipient :=
  routes.map PaymentRoute.recipient

def feedRecipientSet (routes : List FeedPaymentRoute) : List RouteRecipient :=
  routes.map FeedPaymentRoute.recipient

inductive RouteHistorySubject where
  | feed
  | track
deriving DecidableEq

structure RouteHistoryEntry where
  subject : RouteHistorySubject
  /-- Absent for the feed itself. -/
  trackGuid : Option String
  eventId : String
  seq : Int
  changedAt : Int
  /-- Absent for the first set of the subject. -/
  oldRecipients : Option (List RouteRecipient)
  newRecipients : List RouteRecipient
deriving DecidableEq

/-- The track of the payload, or none for the feed, and the set that the payload names. -/
def routeSet : EventPayload → Option (Option String × List RouteRecipient)
  | .feedRoutesReplaced p => some (none, feedRecipientSet p.routes)
  | .routesReplaced p => some (some p.trackGuid, recipientSet p.routes)
  | .trackUpserted p => some (some p.track.trackGuid, recipientSet p.routes)
  | _ => none

structure LastSets where
  feed : Option (List RouteRecipient)
  tracks : String → Option (List RouteRecipient)

namespace LastSets

def empty : LastSets where
  feed := none
  tracks _ := none

def get (last : LastSets) : Option String → Option (List RouteRecipient)
  | none => last.feed
  | some trackGuid => last.tracks trackGuid

def insert (last : LastSets) : Option String → List RouteRecipient → LastSets
  | none, newSet => { last with feed := some newSet }
  | some trackGuid, newSet =>
    { last with tracks := Function.update last.tracks trackGuid (some newSet) }

theorem get_insert (last : LastSets) (trackGuid trackGuid' : Option String)
    (newSet : List RouteRecipient) :
    (last.insert trackGuid newSet).get trackGuid' =
      if trackGuid' = trackGuid then some newSet else last.get trackGuid' := by
  rcases trackGuid with _ | t <;> rcases trackGuid' with _ | t'
  · rfl
  · rfl
  · rfl
  · simp [get, insert, Function.update_apply]

end LastSets

def routeHistoryEntry (ev : Event) (trackGuid : Option String)
    (last : Option (List RouteRecipient)) (newSet : List RouteRecipient) :
    RouteHistoryEntry where
  subject := if trackGuid.isNone then .feed else .track
  trackGuid := trackGuid
  eventId := ev.eventId
  seq := ev.seq
  changedAt := ev.createdAt
  oldRecipients := last
  newRecipients := newSet

def routeHistoryFrom (last : LastSets) : List Event → List RouteHistoryEntry
  | [] => []
  | ev :: events =>
    match routeSet ev.payload with
    | none => routeHistoryFrom last events
    | some (trackGuid, newSet) =>
      if last.get trackGuid = some newSet then routeHistoryFrom last events
      else
        routeHistoryEntry ev trackGuid (last.get trackGuid) newSet ::
          routeHistoryFrom (last.insert trackGuid newSet) events

def buildRouteHistoryEntries (events : List Event) : List RouteHistoryEntry :=
  routeHistoryFrom .empty events

/-- The entries of the feed itself, or of one track. -/
def entriesOf (subject : Option String) (entries : List RouteHistoryEntry) :
    List RouteHistoryEntry := entries.filter fun entry => entry.trackGuid == subject

/-- The set of a payload, when it is about the subject. -/
def setFor (subject : Option String) (payload : EventPayload) : Option (List RouteRecipient) :=
  ((routeSet payload).filter fun entry => entry.1 == subject).map Prod.snd

/-- Each old set is the new set of the entry before. -/
def Chained : Option (List RouteRecipient) → List RouteHistoryEntry → Prop
  | _, [] => True
  | last, entry :: entries =>
    entry.oldRecipients = last ∧ Chained (some entry.newRecipients) entries

theorem routeHistoryFrom_entriesOf (subject : Option String) (last : LastSets)
    (events : List Event) :
    (entriesOf subject (routeHistoryFrom last events)).map RouteHistoryEntry.newRecipients =
        changesAfter (last.get subject)
          (events.filterMap fun ev => setFor subject ev.payload) ∧
      Chained (last.get subject) (entriesOf subject (routeHistoryFrom last events)) := by
  induction events generalizing last with
  | nil => exact ⟨rfl, trivial⟩
  | cons ev events ih =>
    unfold routeHistoryFrom
    cases hset : routeSet ev.payload with
    | none =>
      rw [List.filterMap_cons_none (by simp [setFor, hset])]
      exact ih last
    | some entry =>
      obtain ⟨trackGuid, newSet⟩ := entry
      simp only
      by_cases hsubject : trackGuid = subject
      · have hfor : setFor subject ev.payload = some newSet := by simp [setFor, hset, hsubject]
        subst hsubject
        simp only [List.filterMap_cons, hfor, changesAfter]
        split
        · exact ih last
        · have hrest := ih (last.insert trackGuid newSet)
          rw [last.get_insert, if_pos rfl] at hrest
          rw [entriesOf, List.filter_cons_of_pos (by simp [routeHistoryEntry]), List.map_cons]
          exact ⟨congrArg (newSet :: ·) hrest.1, rfl, hrest.2⟩
      · have hfor : setFor subject ev.payload = none := by simp [setFor, hset, hsubject]
        simp only [List.filterMap_cons, hfor]
        split
        · exact ih last
        · have hrest := ih (last.insert trackGuid newSet)
          rw [last.get_insert, if_neg fun h => hsubject h.symm] at hrest
          rw [entriesOf, List.filter_cons_of_neg (by simp [routeHistoryEntry, hsubject])]
          exact hrest

theorem buildRouteHistoryEntries_entriesOf (subject : Option String) (events : List Event) :
    (entriesOf subject (buildRouteHistoryEntries events)).map RouteHistoryEntry.newRecipients =
        (events.filterMap fun ev => setFor subject ev.payload).destutter (· ≠ ·) ∧
      Chained none (entriesOf subject (buildRouteHistoryEntries events)) := by
  obtain ⟨hnew, hchained⟩ := routeHistoryFrom_entriesOf subject .empty events
  have hempty : LastSets.empty.get subject = none := by cases subject <;> rfl
  rw [hempty] at hnew hchained
  exact ⟨hnew.trans (changesAfter_eq_destutter _), hchained⟩

section Read

variable (jsonExtract : String → String → Option String)

/-- The condition of the query.  `jsonExtract` is the function of SQLite: the text of a
JSON at a path. -/
def isRouteHistoryRow (feedGuid : String) (r : StoredEvent) : Bool :=
  match r.eventType with
  | .feedRoutesReplaced => r.subjectGuid == feedGuid
  | .routesReplaced => jsonExtract r.payloadJson "$.feed_guid" == some feedGuid
  | .trackUpserted => jsonExtract r.payloadJson "$.track.feed_guid" == some feedGuid
  | _ => false

def routeHistoryRows (d : Db) (feedGuid : String) : List StoredEvent :=
  ((d .events).filter (isRouteHistoryRow jsonExtract feedGuid)).insertionSort
    fun a b => a.seq ≤ b.seq

variable [Platform]

def getRouteHistoryEventsForFeed (d : Db) (feedGuid : String) : Except DbError (List Event) :=
  (routeHistoryRows jsonExtract d feedGuid).mapM eventOfRow

end Read

theorem routeHistoryRows_append {jsonExtract : String → String → Option String} {d e : Db}
    {feedGuid : String} {rows : List StoredEvent} (hlog : e .events = d .events ++ rows)
    (hup : Ascending rows) (hnew : ∀ r ∈ rows, nextSeq d ≤ r.seq) :
    routeHistoryRows jsonExtract e feedGuid = routeHistoryRows jsonExtract d feedGuid ++
      rows.filter (isRouteHistoryRow jsonExtract feedGuid) := by
  have hold : Ascending (routeHistoryRows jsonExtract d feedGuid) := sorted_ascending d _
  have hmem : ∀ {d : Db} {r}, r ∈ routeHistoryRows jsonExtract d feedGuid ↔
      r ∈ d .events ∧ isRouteHistoryRow jsonExtract feedGuid r = true := by
    intro d r
    rw [routeHistoryRows, List.mem_insertionSort, List.mem_filter]
  have hboth : Ascending (routeHistoryRows jsonExtract d feedGuid ++
      rows.filter (isRouteHistoryRow jsonExtract feedGuid)) := by
    refine List.pairwise_append.mpr ⟨hold, hup.filter _, ?_⟩
    intro a ha b hb
    have hlt := seq_lt_nextSeq d (hmem.mp ha).1
    have hle := hnew b (List.mem_filter.mp hb).1
    omega
  apply Ascending.ext (sorted_ascending e _) hboth
  intro r
  change r ∈ routeHistoryRows jsonExtract e feedGuid ↔ _
  rw [hmem, List.mem_append, hmem, List.mem_filter, hlog, List.mem_append]
  tauto

end Stophammer
