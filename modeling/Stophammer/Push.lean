import Stophammer.Community
import Mathlib.Data.List.Basic
import Mathlib.Tactic.Linarith

/-!
# Push deliveries

The primary posts each batch of new events to every peer of its push cache.  The
deliveries of several ingests run side by side, each with up to three attempts, and
each ends in a write of the peer's failure counter.
-/

namespace Stophammer

def maxPeerFailures : Int := 10

def pushMaxAttempts : Nat := 3

/-- The body of an answer as `check_push_response_rejections` reads it. -/
inductive PushBody where
  | unreadable
  | notPushResponse
  | pushResponse (r : PushResponse)
deriving DecidableEq

inductive PushAnswer where
  | sendError
  | response (status : Nat) (body : PushBody)
deriving DecidableEq

def isSuccess (status : Nat) : Bool := decide (200 ≤ status ∧ status < 300)

def PushBody.reportsRejected : PushBody → Bool
  | .pushResponse r => decide (0 < r.rejected)
  | _ => false

def PushAnswer.reportsRejected : PushAnswer → Bool
  | .response status body => isSuccess status && body.reportsRejected
  | .sendError => false

/-- A 2xx answer that reports none. -/
def PushAnswer.delivers : PushAnswer → Bool
  | .response status body => isSuccess status && !body.reportsRejected
  | .sendError => false

/-- Where the task of one delivery is: before an attempt, at the failure write inside
`check_push_response_rejections`, behind the loop, or at its end.  A restart of the node
loses the tasks that are not at their end. -/
inductive PushPhase where
  | skipped
  | sending (attempt : Nat)
  | rejectedEvents
  | loopLeft (success : Bool)
  | done
  | lost
deriving DecidableEq

structure PushTask where
  pubkey : String
  pushUrl : String
  phase : PushPhase
deriving DecidableEq

/-- The parts of a primary that pushes touch.  `registering` holds the registrations
between their database write and their entry in the push cache. -/
structure PushNode where
  peers : List PeerNode
  subscribers : List (String × String)
  registering : List (String × String)
  tasks : List PushTask
deriving DecidableEq

def PushNode.start : PushNode := ⟨[], [], [], []⟩

def findPeer (peers : List PeerNode) (pubkey : String) : Option PeerNode :=
  peers.find? (·.nodePubkey == pubkey)

/-- `SELECT consecutive_failures`, `0` for a peer without a row. -/
def consecutiveFailures (peers : List PeerNode) (pubkey : String) : Int :=
  ((findPeer peers pubkey).map (·.consecutiveFailures)).getD 0

def updatePeer (pubkey : String) (f : PeerNode → PeerNode) (peers : List PeerNode) :
    List PeerNode :=
  peers.map fun row => if row.nodePubkey = pubkey then f row else row

def upsertPeerNode (pubkey url : String) (now : Int) (peers : List PeerNode) : List PeerNode :=
  match findPeer peers pubkey with
  | some _ => updatePeer pubkey (fun row => { row with nodeUrl := url }) peers
  | none => peers ++ [⟨pubkey, url, now, none, 0⟩]

def resetPeerFailures (pubkey : String) : List PeerNode → List PeerNode :=
  updatePeer pubkey fun row => { row with consecutiveFailures := 0 }

def incrementPeerFailures (pubkey : String) : List PeerNode → List PeerNode :=
  updatePeer pubkey fun row => { row with consecutiveFailures := row.consecutiveFailures + 1 }

def recordPushSuccess (pubkey : String) (now : Int) : List PeerNode → List PeerNode :=
  updatePeer pubkey fun row => { row with lastPushAt := some now, consecutiveFailures := 0 }

def getPushPeers (peers : List PeerNode) : List PeerNode :=
  peers.filter fun row => decide (row.consecutiveFailures < maxPeerFailures)

def pushSubscribersAtStart (peers : List PeerNode) : List (String × String) :=
  (getPushPeers peers).map fun row => (row.nodePubkey, row.nodeUrl)

def PushPhase.nextAttempt (attempt : Nat) : PushPhase :=
  if attempt + 1 < pushMaxAttempts then .sending (attempt + 1) else .loopLeft false

/-- The match on the answer of one attempt. -/
def PushPhase.afterAnswer (attempt : Nat) : PushAnswer → PushPhase
  | .response status body =>
    if isSuccess status then
      if body.reportsRejected then .rejectedEvents else .loopLeft true
    else nextAttempt attempt
  | .sendError => nextAttempt attempt

def PushPhase.atRestart : PushPhase → PushPhase
  | .skipped => .skipped
  | .done => .done
  | _ => .lost

namespace PushNode

def setPhase (s : PushNode) (i : Nat) (phase : PushPhase) : PushNode :=
  { s with tasks := s.tasks.modify i fun task => { task with phase := phase } }

/-- One failed delivery: the counter goes up, and at the threshold the peer leaves the
push cache.  The writer lock is held over all of it. -/
def handlePushFailure (s : PushNode) (pubkey : String) : PushNode :=
  let peers := incrementPeerFailures pubkey s.peers
  { s with
    peers := peers
    subscribers :=
      if maxPeerFailures ≤ consecutiveFailures peers pubkey then
        s.subscribers.filter fun sub => sub.1 ≠ pubkey
      else s.subscribers }

/-- The tasks of one fan-out: one for each subscriber, over before its first attempt when
the URL is not safe. -/
def fanOutTasks (urlSafe : String → Bool) (s : PushNode) : List PushTask :=
  s.subscribers.map fun sub =>
    ⟨sub.1, sub.2, if urlSafe sub.2 then .sending 0 else .skipped⟩

end PushNode

inductive PushAction where
  | register (pubkey url : String) (now : Int)
  | subscribe (k : Nat)
  | restart
  | fanOut
  | answer (i : Nat) (answer : PushAnswer)
  | count (i : Nat) (now : Int)
deriving DecidableEq

/-- One step of the node.  `register` is the database write of `handle_sync_register` and
`subscribe` its entry in the push cache; `answer` ends an attempt and `count` is the next
database write of a delivery. -/
def pushStep (urlSafe : String → Bool) (s : PushNode) : PushAction → Option PushNode
  | .register pubkey url now =>
    some { s with
      peers := resetPeerFailures pubkey (upsertPeerNode pubkey url now s.peers)
      registering := s.registering ++ [(pubkey, url)] }
  | .subscribe k =>
    match s.registering[k]? with
    | some sub => some { s with
        subscribers := s.subscribers.filter (fun old => old.1 ≠ sub.1) ++ [sub]
        registering := s.registering.eraseIdx k }
    | none => none
  | .restart =>
    some { s with
      subscribers := pushSubscribersAtStart s.peers
      registering := []
      tasks := s.tasks.map fun task => { task with phase := task.phase.atRestart } }
  | .fanOut => some { s with tasks := s.tasks ++ s.fanOutTasks urlSafe }
  | .answer i answer =>
    match s.tasks[i]? with
    | some task =>
      match task.phase with
      | .sending attempt => some (s.setPhase i (.afterAnswer attempt answer))
      | _ => none
    | none => none
  | .count i now =>
    match s.tasks[i]? with
    | some task =>
      match task.phase with
      | .rejectedEvents => some ((s.handlePushFailure task.pubkey).setPhase i (.loopLeft false))
      | .loopLeft true =>
        some ({ s with peers := recordPushSuccess task.pubkey now s.peers }.setPhase i .done)
      | .loopLeft false => some ((s.handlePushFailure task.pubkey).setPhase i .done)
      | _ => none
    | none => none

structure PushStep where
  before : PushNode
  action : PushAction
  after : PushNode
deriving DecidableEq

/-- The steps of a run from a node without peers, oldest first, and its state. -/
inductive Pushes (urlSafe : String → Bool) : List PushStep → PushNode → Prop where
  | start : Pushes urlSafe [] .start
  | step {hist : List PushStep} {s t : PushNode} {a : PushAction} :
      Pushes urlSafe hist s → pushStep urlSafe s a = some t →
      Pushes urlSafe (hist ++ [⟨s, a, t⟩]) t

/-- The answers that the delivery of task `i` got. -/
def answersOf (hist : List PushStep) (i : Nat) : List PushAnswer :=
  hist.filterMap fun st =>
    match st.action with
    | .answer j answer => if j = i then some answer else none
    | _ => none

/-- The counter of peer `p` before and after each database write of task `i`. -/
def changesOf (hist : List PushStep) (i : Nat) (p : String) : List (Int × Int) :=
  hist.filterMap fun st =>
    match st.action with
    | .count j _ =>
      if j = i then some (consecutiveFailures st.before.peers p,
        consecutiveFailures st.after.peers p)
      else none
    | _ => none

/-- The last answer of a delivery delivered the batch. -/
def delivered (answers : List PushAnswer) : Bool := answers.getLast?.any (·.delivers)

/-- The delivery of task `i` to `p` changes the counter once: by one when it failed, to
zero when it succeeded. -/
def CountsOnce (hist : List PushStep) (i : Nat) (p : String) : Prop :=
  ∃ before : Int, changesOf hist i p =
    [(before, if delivered (answersOf hist i) then 0 else before + 1)]

/-- The failed deliveries to `p` after a step, in a row. -/
def PushStep.failedInARow (p : String) (n : Nat) (st : PushStep) : Nat :=
  match st.action with
  | .register pubkey _ _ => if pubkey = p then 0 else n
  | .count i _ =>
    match st.before.tasks[i]? with
    | some task =>
      if task.pubkey = p then
        match task.phase with
        | .loopLeft true => 0
        | .loopLeft false => n + 1
        | _ => n
      else n
    | none => n
  | _ => n

def failedInARow (p : String) (hist : List PushStep) : Nat :=
  hist.foldl (PushStep.failedInARow p) 0

/-- The peer is in the push cache. -/
def PushNode.Subscribed (s : PushNode) (p : String) : Prop := p ∈ s.subscribers.map (·.1)

/-- No answer of the run reports rejected events. -/
def NoneRejected (hist : List PushStep) : Prop :=
  ∀ st ∈ hist, ∀ i answer, st.action = .answer i answer → answer.reportsRejected = false

theorem findPeer_update_self {pubkey : String} {f : PeerNode → PeerNode}
    (hkey : ∀ row, (f row).nodePubkey = row.nodePubkey) (peers : List PeerNode) :
    findPeer (updatePeer pubkey f peers) pubkey = (findPeer peers pubkey).map f := by
  induction peers with
  | nil => rfl
  | cons row rest ih =>
    unfold findPeer updatePeer at ih ⊢
    by_cases h : row.nodePubkey = pubkey
    · simp [h, hkey]
    · simpa [List.find?_cons, h] using ih

theorem findPeer_update_other {pubkey p : String} {f : PeerNode → PeerNode}
    (hkey : ∀ row, (f row).nodePubkey = row.nodePubkey) (peers : List PeerNode)
    (hne : pubkey ≠ p) : findPeer (updatePeer pubkey f peers) p = findPeer peers p := by
  induction peers with
  | nil => rfl
  | cons row rest ih =>
    unfold findPeer updatePeer at ih ⊢
    by_cases h : row.nodePubkey = pubkey
    · have hp : row.nodePubkey ≠ p := fun heq => hne (h.symm.trans heq)
      simpa [List.find?_cons, h, hkey, hne] using ih
    · by_cases hp : row.nodePubkey = p
      · have hq : p ≠ pubkey := hne.symm
        simp [hp, hq]
      · simpa [List.find?_cons, h, hp] using ih

theorem updatePeer_isSome (pubkey p : String) {f : PeerNode → PeerNode}
    (hkey : ∀ row, (f row).nodePubkey = row.nodePubkey) (peers : List PeerNode) :
    (findPeer (updatePeer pubkey f peers) p).isSome = (findPeer peers p).isSome := by
  by_cases h : pubkey = p
  · subst h
    rw [findPeer_update_self hkey, Option.isSome_map]
  · rw [findPeer_update_other hkey peers h]

theorem incrementPeerFailures_self {peers : List PeerNode} {p : String}
    (hrow : (findPeer peers p).isSome) :
    consecutiveFailures (incrementPeerFailures p peers) p = consecutiveFailures peers p + 1 := by
  obtain ⟨row, hfind⟩ := Option.isSome_iff_exists.mp hrow
  unfold consecutiveFailures incrementPeerFailures
  rw [findPeer_update_self, hfind]
  · rfl
  · exact fun _ => rfl

theorem recordPushSuccess_self (peers : List PeerNode) (p : String) (now : Int) :
    consecutiveFailures (recordPushSuccess p now peers) p = 0 := by
  unfold consecutiveFailures recordPushSuccess
  rw [findPeer_update_self]
  · cases findPeer peers p <;> rfl
  · exact fun _ => rfl

theorem resetPeerFailures_self (peers : List PeerNode) (p : String) :
    consecutiveFailures (resetPeerFailures p peers) p = 0 := by
  unfold consecutiveFailures resetPeerFailures
  rw [findPeer_update_self]
  · cases findPeer peers p <;> rfl
  · exact fun _ => rfl

theorem updatePeer_failures_other {pubkey p : String} {f : PeerNode → PeerNode}
    (hkey : ∀ row, (f row).nodePubkey = row.nodePubkey) (peers : List PeerNode)
    (hne : pubkey ≠ p) :
    consecutiveFailures (updatePeer pubkey f peers) p = consecutiveFailures peers p := by
  unfold consecutiveFailures
  rw [findPeer_update_other hkey peers hne]

theorem findPeer_append (peers : List PeerNode) (row : PeerNode) (p : String) :
    findPeer (peers ++ [row]) p =
      (findPeer peers p).or (if row.nodePubkey = p then some row else none) := by
  unfold findPeer
  rw [List.find?_append]
  by_cases h : row.nodePubkey = p <;> simp [h]

theorem upsertPeerNode_isSome (pubkey url p : String) (now : Int) (peers : List PeerNode) :
    (findPeer (upsertPeerNode pubkey url now peers) p).isSome =
      ((findPeer peers p).isSome || decide (pubkey = p)) := by
  unfold upsertPeerNode
  rcases hfind : findPeer peers pubkey with _ | row
  · simp only [findPeer_append]
    by_cases h : pubkey = p <;> cases findPeer peers p <;> simp [h]
  · dsimp only
    rw [updatePeer_isSome]
    · by_cases h : pubkey = p
      · subst h
        simp [hfind]
      · simp [h]
    · exact fun _ => rfl

theorem upsertPeerNode_other {pubkey p : String} (url : String) (now : Int)
    (peers : List PeerNode) (hne : pubkey ≠ p) :
    findPeer (upsertPeerNode pubkey url now peers) p = findPeer peers p := by
  unfold upsertPeerNode
  cases findPeer peers pubkey with
  | none => simp [findPeer_append, hne]
  | some row =>
    apply findPeer_update_other
    · exact fun _ => rfl
    · exact hne

@[simp] theorem PushNode.setPhase_peers (s : PushNode) (i : Nat) (phase : PushPhase) :
    (s.setPhase i phase).peers = s.peers := rfl

@[simp] theorem PushNode.setPhase_subscribers (s : PushNode) (i : Nat) (phase : PushPhase) :
    (s.setPhase i phase).subscribers = s.subscribers := rfl

@[simp] theorem PushNode.setPhase_registering (s : PushNode) (i : Nat) (phase : PushPhase) :
    (s.setPhase i phase).registering = s.registering := rfl

theorem pushStep_answer {urlSafe : String → Bool} {s t : PushNode} {i : Nat}
    {answer : PushAnswer} (h : pushStep urlSafe s (.answer i answer) = some t) :
    ∃ task attempt, s.tasks[i]? = some task ∧ task.phase = .sending attempt ∧
      t = s.setPhase i (.afterAnswer attempt answer) := by
  simp only [pushStep] at h
  rcases htask : s.tasks[i]? with _ | task
  · simp [htask] at h
  · rcases hphase : task.phase with _ | attempt | _ | _ | _ | _
    all_goals simp only [htask, hphase] at h
    case sending => exact ⟨task, attempt, rfl, hphase, (Option.some.inj h).symm⟩
    all_goals cases h

theorem pushStep_count {urlSafe : String → Bool} {s t : PushNode} {i : Nat} {now : Int}
    (h : pushStep urlSafe s (.count i now) = some t) :
    ∃ task, s.tasks[i]? = some task ∧
      (task.phase = .rejectedEvents ∧
        t = (s.handlePushFailure task.pubkey).setPhase i (.loopLeft false) ∨
      task.phase = .loopLeft true ∧
        t = { s with peers := recordPushSuccess task.pubkey now s.peers }.setPhase i .done ∨
      task.phase = .loopLeft false ∧
        t = (s.handlePushFailure task.pubkey).setPhase i .done) := by
  simp only [pushStep] at h
  rcases htask : s.tasks[i]? with _ | task
  · simp [htask] at h
  · refine ⟨task, rfl, ?_⟩
    rcases hphase : task.phase with _ | _ | _ | _ | _ | _
    all_goals simp only [htask, hphase] at h
    case rejectedEvents => exact Or.inl ⟨rfl, (Option.some.inj h).symm⟩
    case loopLeft success =>
      cases success with
      | true => exact Or.inr (Or.inl ⟨rfl, (Option.some.inj h).symm⟩)
      | false => exact Or.inr (Or.inr ⟨rfl, (Option.some.inj h).symm⟩)
    all_goals cases h

/-- Every answer let the loop try again. -/
def AllRetried (answers : List PushAnswer) : Prop :=
  ∀ a ∈ answers, a.reportsRejected = false ∧ a.delivers = false

/-- The answers and the counter writes of a delivery at each place of its task. -/
inductive Progress : PushPhase → List PushAnswer → List (Int × Int) → Prop where
  | skipped : Progress .skipped [] []
  | sending {attempt : Nat} {answers : List PushAnswer} (hretried : AllRetried answers) :
      Progress (.sending attempt) answers []
  | rejectedEvents {answers : List PushAnswer} {a : PushAnswer} (ha : a.reportsRejected = true) :
      Progress .rejectedEvents (answers ++ [a]) []
  | rejectedOnce {answers : List PushAnswer} {a : PushAnswer} (ha : a.reportsRejected = true)
      (change : Int × Int) : Progress (.loopLeft false) (answers ++ [a]) [change]
  | failed {answers : List PushAnswer} (hretried : AllRetried answers) :
      Progress (.loopLeft false) answers []
  | succeeded {answers : List PushAnswer} {a : PushAnswer} (hretried : AllRetried answers)
      (ha : a.delivers = true) : Progress (.loopLeft true) (answers ++ [a]) []
  | doneRejected {answers : List PushAnswer} {a : PushAnswer} (ha : a.reportsRejected = true)
      (first second : Int × Int) : Progress .done (answers ++ [a]) [first, second]
  | doneFailed {answers : List PushAnswer} (hretried : AllRetried answers) (before : Int) :
      Progress .done answers [(before, before + 1)]
  | doneSucceeded {answers : List PushAnswer} {a : PushAnswer} (hretried : AllRetried answers)
      (ha : a.delivers = true) (before : Int) : Progress .done (answers ++ [a]) [(before, 0)]
  | lost (answers : List PushAnswer) (changes : List (Int × Int)) : Progress .lost answers changes

theorem PushAnswer.delivers_not_rejected {a : PushAnswer} (h : a.delivers = true) :
    a.reportsRejected = false := by
  cases a with
  | sendError => rfl
  | response status body =>
    cases hs : isSuccess status <;> cases hb : body.reportsRejected <;>
      simp_all [PushAnswer.delivers, PushAnswer.reportsRejected]

theorem delivered_retried {answers : List PushAnswer} (h : AllRetried answers) :
    delivered answers = false := by
  unfold delivered
  rcases hlast : answers.getLast? with _ | a
  · rfl
  · exact (h a (List.mem_of_getLast? hlast)).2

theorem delivered_last {answers : List PushAnswer} {a : PushAnswer} :
    delivered (answers ++ [a]) = a.delivers := by
  simp [delivered]

theorem Progress.afterAnswer {attempt : Nat} {answers : List PushAnswer} (a : PushAnswer)
    (hretried : AllRetried answers) :
    Progress (.afterAnswer attempt a) (answers ++ [a]) [] := by
  have hnext (hr : a.reportsRejected = false) (hd : a.delivers = false) :
      Progress (.nextAttempt attempt) (answers ++ [a]) [] := by
    have hall : AllRetried (answers ++ [a]) := by
      intro b hb
      rcases List.mem_append.mp hb with hb | hb
      · exact hretried b hb
      · rw [List.mem_singleton.mp hb]
        exact ⟨hr, hd⟩
    unfold PushPhase.nextAttempt
    split
    · exact .sending hall
    · exact .failed hall
  cases a with
  | sendError => exact hnext rfl rfl
  | response status body =>
    simp only [PushPhase.afterAnswer]
    by_cases hs : isSuccess status
    · by_cases hb : body.reportsRejected
      · rw [if_pos hs, if_pos hb]
        exact .rejectedEvents (by simp [PushAnswer.reportsRejected, hs, hb])
      · rw [if_pos hs, if_neg hb]
        exact .succeeded hretried (by simp [PushAnswer.delivers, hs, hb])
    · rw [if_neg hs]
      exact hnext (by simp [PushAnswer.reportsRejected, hs]) (by simp [PushAnswer.delivers, hs])

theorem Progress.countsOnce {hist : List PushStep} {i : Nat} {p : String}
    (h : Progress .done (answersOf hist i) (changesOf hist i p)) :
    CountsOnce hist i p ↔ ∀ a ∈ answersOf hist i, a.reportsRejected = false := by
  unfold CountsOnce
  generalize answersOf hist i = answers at h
  generalize changesOf hist i p = changes at h
  cases h with
  | doneRejected ha first second =>
    constructor
    · rintro ⟨before, hlist⟩
      cases hlist
    · intro hnone
      have := hnone _ (List.mem_append_right _ (List.mem_singleton_self _))
      rw [ha] at this
      cases this
  | doneFailed hretried before =>
    constructor
    · intro _ a ha
      exact (hretried a ha).1
    · intro _
      exact ⟨before, by rw [delivered_retried hretried]; rfl⟩
  | @doneSucceeded answers a hretried ha before =>
    constructor
    · intro _ b hb
      rcases List.mem_append.mp hb with hb | hb
      · exact (hretried b hb).1
      · rw [List.mem_singleton.mp hb]
        exact PushAnswer.delivers_not_rejected ha
    · intro _
      exact ⟨before, by rw [delivered_last, ha]; rfl⟩

theorem answersOf_append (hist : List PushStep) (st : PushStep) (i : Nat) :
    answersOf (hist ++ [st]) i = answersOf hist i ++ answersOf [st] i :=
  List.filterMap_append ..

theorem changesOf_append (hist : List PushStep) (st : PushStep) (i : Nat) (p : String) :
    changesOf (hist ++ [st]) i p = changesOf hist i p ++ changesOf [st] i p :=
  List.filterMap_append ..

theorem PushNode.setPhase_task (s : PushNode) (i j : Nat) (phase : PushPhase) :
    (s.setPhase i phase).tasks[j]? =
      s.tasks[j]?.map fun task => if i = j then { task with phase := phase } else task := by
  simp only [PushNode.setPhase, List.getElem?_modify]
  rfl

theorem PushNode.setPhase_pubkeys (s : PushNode) (i : Nat) (phase : PushPhase) :
    (s.setPhase i phase).tasks.map (·.pubkey) = s.tasks.map (·.pubkey) := by
  apply List.ext_getElem?
  intro j
  rw [List.getElem?_map, List.getElem?_map, PushNode.setPhase_task]
  cases s.tasks[j]? with
  | none => rfl
  | some task =>
    by_cases h : i = j <;> simp [h]

def PushNode.Reaches (s : PushNode) (p : String) : Prop :=
  s.Subscribed p ∨ p ∈ s.registering.map (·.1) ∨ p ∈ s.tasks.map (·.pubkey)

theorem PushNode.handlePushFailure_subscribed {s : PushNode} {pubkey p : String}
    (h : (s.handlePushFailure pubkey).Subscribed p) : s.Subscribed p := by
  unfold PushNode.Subscribed PushNode.handlePushFailure at h
  dsimp only at h
  split at h
  · obtain ⟨sub, hsub, rfl⟩ := List.mem_map.mp h
    exact List.mem_map_of_mem (List.mem_of_mem_filter hsub)
  · exact h

theorem incrementPeerFailures_isSome (pubkey p : String) (peers : List PeerNode) :
    (findPeer (incrementPeerFailures pubkey peers) p).isSome = (findPeer peers p).isSome := by
  apply updatePeer_isSome
  exact fun _ => rfl

theorem recordPushSuccess_isSome (pubkey p : String) (now : Int) (peers : List PeerNode) :
    (findPeer (recordPushSuccess pubkey now peers) p).isSome = (findPeer peers p).isSome := by
  apply updatePeer_isSome
  exact fun _ => rfl

theorem resetPeerFailures_isSome (pubkey p : String) (peers : List PeerNode) :
    (findPeer (resetPeerFailures pubkey peers) p).isSome = (findPeer peers p).isSome := by
  apply updatePeer_isSome
  exact fun _ => rfl

theorem pushStep_keeps_row {urlSafe : String → Bool} {s t : PushNode} {a : PushAction}
    (h : pushStep urlSafe s a = some t) {p : String} (hrow : (findPeer s.peers p).isSome) :
    (findPeer t.peers p).isSome := by
  cases a with
  | register pubkey url now =>
    cases h
    rw [resetPeerFailures_isSome, upsertPeerNode_isSome, hrow]
    rfl
  | subscribe k =>
    simp only [pushStep] at h
    split at h
    · cases h
      exact hrow
    · cases h
  | restart =>
    cases h
    exact hrow
  | fanOut =>
    cases h
    exact hrow
  | answer i answer =>
    obtain ⟨task, attempt, -, -, rfl⟩ := pushStep_answer h
    exact hrow
  | count i now =>
    obtain ⟨task, -, ⟨-, rfl⟩ | ⟨-, rfl⟩ | ⟨-, rfl⟩⟩ := pushStep_count h
    · exact (incrementPeerFailures_isSome ..).trans hrow
    · exact (recordPushSuccess_isSome ..).trans hrow
    · exact (incrementPeerFailures_isSome ..).trans hrow

theorem pushStep_reaches {urlSafe : String → Bool} {s t : PushNode} {a : PushAction}
    (h : pushStep urlSafe s a = some t) {p : String} (hp : t.Reaches p) :
    s.Reaches p ∨ (findPeer t.peers p).isSome := by
  cases a with
  | register pubkey url now =>
    cases h
    rcases hp with hsub | hreg | htask
    · exact Or.inl (Or.inl hsub)
    · rw [List.map_append, List.mem_append] at hreg
      rcases hreg with hreg | hnew
      · exact Or.inl (Or.inr (Or.inl hreg))
      · have heq : pubkey = p := (List.mem_singleton.mp hnew).symm
        refine Or.inr ?_
        rw [resetPeerFailures_isSome, upsertPeerNode_isSome]
        simp [heq]
    · exact Or.inl (Or.inr (Or.inr htask))
  | subscribe k =>
    simp only [pushStep] at h
    split at h
    · rename_i sub hsub
      cases h
      rcases hp with hp | hreg | htask
      · unfold PushNode.Subscribed at hp
        rw [List.map_append, List.mem_append] at hp
        rcases hp with hold | hnew
        · obtain ⟨old, hmem, heq⟩ := List.mem_map.mp hold
          rw [← heq]
          exact Or.inl (Or.inl (List.mem_map_of_mem (List.mem_of_mem_filter hmem)))
        · have heq : p = sub.1 := List.mem_singleton.mp hnew
          rw [heq]
          exact Or.inl (Or.inr (Or.inl (List.mem_map_of_mem (List.mem_of_getElem? hsub))))
      · obtain ⟨old, hmem, heq⟩ := List.mem_map.mp hreg
        rw [← heq]
        exact Or.inl (Or.inr (Or.inl (List.mem_map_of_mem (List.mem_of_mem_eraseIdx hmem))))
      · exact Or.inl (Or.inr (Or.inr htask))
    · cases h
  | restart =>
    cases h
    rcases hp with hsub | hreg | htask
    · refine Or.inr ?_
      unfold PushNode.Subscribed pushSubscribersAtStart getPushPeers at hsub
      obtain ⟨sub, hmem, heq⟩ := List.mem_map.mp hsub
      obtain ⟨row, hrow, hsubscriber⟩ := List.mem_map.mp hmem
      have hkey : row.nodePubkey = p := by
        rw [← heq, ← hsubscriber]
      exact List.find?_isSome.mpr ⟨row, List.mem_of_mem_filter hrow, by simp [hkey]⟩
    · cases hreg
    · rw [List.map_map] at htask
      exact Or.inl (Or.inr (Or.inr htask))
  | fanOut =>
    cases h
    rcases hp with hsub | hreg | htask
    · exact Or.inl (Or.inl hsub)
    · exact Or.inl (Or.inr (Or.inl hreg))
    · rw [List.map_append, List.mem_append] at htask
      rcases htask with htask | hnew
      · exact Or.inl (Or.inr (Or.inr htask))
      · unfold PushNode.fanOutTasks at hnew
        rw [List.map_map] at hnew
        exact Or.inl (Or.inl hnew)
  | answer i answer =>
    obtain ⟨task, attempt, -, -, rfl⟩ := pushStep_answer h
    rcases hp with hsub | hreg | htask
    · exact Or.inl (Or.inl hsub)
    · exact Or.inl (Or.inr (Or.inl hreg))
    · rw [PushNode.setPhase_pubkeys] at htask
      exact Or.inl (Or.inr (Or.inr htask))
  | count i now =>
    have hwrite (u : PushNode) (phase : PushPhase) (hsubs : u.Subscribed p → s.Subscribed p)
        (hregs : u.registering = s.registering) (htasks : u.tasks = s.tasks)
        (hp : (u.setPhase i phase).Reaches p) : s.Reaches p := by
      rcases hp with hsub | hreg | htask
      · exact Or.inl (hsubs hsub)
      · exact Or.inr (Or.inl (hregs ▸ hreg))
      · rw [PushNode.setPhase_pubkeys, htasks] at htask
        exact Or.inr (Or.inr htask)
    obtain ⟨task, -, ⟨-, rfl⟩ | ⟨-, rfl⟩ | ⟨-, rfl⟩⟩ := pushStep_count h
    · exact Or.inl (hwrite _ _ PushNode.handlePushFailure_subscribed rfl rfl hp)
    · exact Or.inl (hwrite { s with peers := _ } _ id rfl rfl hp)
    · exact Or.inl (hwrite _ _ PushNode.handlePushFailure_subscribed rfl rfl hp)

theorem Pushes.hasRow {urlSafe : String → Bool} {hist : List PushStep} {s : PushNode}
    (h : Pushes urlSafe hist s) {p : String} (hp : s.Reaches p) :
    (findPeer s.peers p).isSome := by
  induction h generalizing p with
  | start => rcases hp with hp | hp | hp <;> cases hp
  | step _ hstep ih =>
    rcases pushStep_reaches hstep hp with hp | hrow
    · exact pushStep_keeps_row hstep (ih hp)
    · exact hrow

theorem Progress.atRestart {phase : PushPhase} {answers : List PushAnswer}
    {changes : List (Int × Int)} (h : Progress phase answers changes) :
    Progress phase.atRestart answers changes := by
  cases h with
  | skipped => exact .skipped
  | doneRejected ha first second => exact .doneRejected ha first second
  | doneFailed hretried before => exact .doneFailed hretried before
  | doneSucceeded hretried ha before => exact .doneSucceeded hretried ha before
  | _ => exact .lost _ _

/-- What the history holds of task `i`, which need not exist yet. -/
def TaskProgress (hist : List PushStep) (i : Nat) : Option PushTask → Prop
  | some task => Progress task.phase (answersOf hist i) (changesOf hist i task.pubkey)
  | none => answersOf hist i = [] ∧ ∀ p, changesOf hist i p = []

theorem TaskProgress.append {hist : List PushStep} {i : Nat} {task : Option PushTask}
    (h : TaskProgress hist i task) {st : PushStep} (hanswers : answersOf [st] i = [])
    (hchanges : ∀ p, changesOf [st] i p = []) : TaskProgress (hist ++ [st]) i task := by
  cases task with
  | none =>
    constructor
    · rw [answersOf_append, h.1, hanswers]
      rfl
    · intro p
      rw [changesOf_append, h.2, hchanges]
      rfl
  | some task =>
    change Progress _ _ _
    rw [answersOf_append, changesOf_append, hanswers, hchanges, List.append_nil, List.append_nil]
    exact h

theorem PushNode.handlePushFailure_failures {s : PushNode} {p : String}
    (hrow : (findPeer s.peers p).isSome) :
    consecutiveFailures (s.handlePushFailure p).peers p = consecutiveFailures s.peers p + 1 :=
  incrementPeerFailures_self hrow

theorem Progress.answer {hist : List PushStep} {s : PushNode} {i attempt : Nat}
    {task : PushTask} (htask : s.tasks[i]? = some task) (hphase : task.phase = .sending attempt)
    (h : TaskProgress hist i (some task)) (answer : PushAnswer) :
    TaskProgress (hist ++ [⟨s, .answer i answer, s.setPhase i (.afterAnswer attempt answer)⟩]) i
      ((s.setPhase i (.afterAnswer attempt answer)).tasks[i]?) := by
  have hprogress : Progress (.sending attempt) (answersOf hist i)
      (changesOf hist i task.pubkey) := hphase ▸ h
  rw [PushNode.setPhase_task, htask]
  simp only [Option.map_some, if_true]
  change Progress _ _ _
  rw [answersOf_append, changesOf_append]
  generalize answersOf hist i = answers at hprogress
  generalize changesOf hist i task.pubkey = changes at hprogress
  cases hprogress with
  | sending hretried =>
    have hnext : Progress (.afterAnswer attempt answer) (answers ++ [answer]) [] :=
      Progress.afterAnswer answer hretried
    simpa [answersOf, changesOf] using hnext

theorem Progress.count {hist : List PushStep} {s u : PushNode} {i : Nat} {now : Int}
    {task : PushTask} {phase : PushPhase} (htask : u.tasks[i]? = some task)
    (h : ∀ answers changes, answersOf hist i = answers → changesOf hist i task.pubkey = changes →
      Progress task.phase answers changes → Progress phase answers (changes ++
        [(consecutiveFailures s.peers task.pubkey, consecutiveFailures u.peers task.pubkey)]))
    (hprogress : TaskProgress hist i (some task)) :
    TaskProgress (hist ++ [⟨s, .count i now, u.setPhase i phase⟩]) i
      ((u.setPhase i phase).tasks[i]?) := by
  rw [PushNode.setPhase_task, htask]
  simp only [Option.map_some, if_true]
  change Progress _ _ _
  rw [answersOf_append, changesOf_append]
  have hnext := h _ _ rfl rfl hprogress
  simpa [answersOf, changesOf] using hnext

theorem PushNode.setPhase_other {s : PushNode} {i j : Nat} {phase : PushPhase} (h : i ≠ j) :
    (s.setPhase i phase).tasks[j]? = s.tasks[j]? := by
  rw [PushNode.setPhase_task]
  cases s.tasks[j]? with
  | none => rfl
  | some task => rw [Option.map_some, if_neg h]

theorem TaskProgress.map_atRestart {hist : List PushStep} {i : Nat} {tasks : List PushTask}
    (h : TaskProgress hist i tasks[i]?) :
    TaskProgress hist i
      (tasks.map fun task => { task with phase := task.phase.atRestart })[i]? := by
  rw [List.getElem?_map]
  cases htask : tasks[i]? with
  | none => rw [htask] at h; exact h
  | some task => rw [htask] at h; exact Progress.atRestart h

theorem TaskProgress.fanOut {hist : List PushStep} {i : Nat} {urlSafe : String → Bool}
    {s : PushNode} (h : TaskProgress hist i s.tasks[i]?) :
    TaskProgress hist i (s.tasks ++ s.fanOutTasks urlSafe)[i]? := by
  rcases Nat.lt_or_ge i s.tasks.length with hold | hnew
  · rw [List.getElem?_append_left hold]
    exact h
  · rw [List.getElem?_append_right hnew]
    rw [List.getElem?_eq_none hnew] at h
    rcases htask : (s.fanOutTasks urlSafe)[i - s.tasks.length]? with _ | task
    · exact h
    · obtain ⟨sub, -, hsub⟩ := List.mem_map.mp (List.mem_of_getElem? htask)
      change Progress _ _ _
      rw [h.1, h.2, ← hsub]
      dsimp only
      split
      · exact .sending (by simp [AllRetried])
      · exact .skipped

theorem pushStep_progress {urlSafe : String → Bool} {hist : List PushStep} {s t : PushNode}
    {a : PushAction} (h : pushStep urlSafe s a = some t)
    (hrow : ∀ p, s.Reaches p → (findPeer s.peers p).isSome)
    (hprogress : ∀ i, TaskProgress hist i s.tasks[i]?) (i : Nat) :
    TaskProgress (hist ++ [⟨s, a, t⟩]) i t.tasks[i]? := by
  cases a with
  | register pubkey url now =>
    cases h
    exact (hprogress i).append rfl fun _ => rfl
  | subscribe k =>
    simp only [pushStep] at h
    split at h
    · cases h
      exact (hprogress i).append rfl fun _ => rfl
    · cases h
  | restart =>
    cases h
    exact (hprogress i).map_atRestart.append rfl fun _ => rfl
  | fanOut =>
    cases h
    exact (hprogress i).fanOut.append rfl fun _ => rfl
  | answer j answer =>
    obtain ⟨task, attempt, htask, hphase, rfl⟩ := pushStep_answer h
    by_cases hij : j = i
    · subst hij
      exact Progress.answer htask hphase (htask ▸ hprogress j) answer
    · rw [PushNode.setPhase_other hij]
      exact (hprogress i).append (by simp [answersOf, hij]) fun _ => rfl
  | count j now =>
    obtain ⟨task, htask, hcases⟩ := pushStep_count h
    by_cases hij : j = i
    · subst hij
      have hj : TaskProgress hist j (some task) := htask ▸ hprogress j
      have hp : (findPeer s.peers task.pubkey).isSome :=
        hrow _ (Or.inr (Or.inr (List.mem_map_of_mem (List.mem_of_getElem? htask))))
      have hfailure := PushNode.handlePushFailure_failures hp
      rcases hcases with ⟨hphase, rfl⟩ | ⟨hphase, rfl⟩ | ⟨hphase, rfl⟩
      · refine Progress.count (u := s.handlePushFailure task.pubkey) htask ?_ hj
        intro answers changes _ _ hnow
        rw [hphase] at hnow
        cases hnow with
        | rejectedEvents ha => exact .rejectedOnce ha _
      · refine Progress.count (u := { s with peers := recordPushSuccess task.pubkey now s.peers })
          htask ?_ hj
        intro answers changes _ _ hnow
        rw [hphase] at hnow
        cases hnow with
        | succeeded hretried ha =>
          rw [recordPushSuccess_self]
          exact .doneSucceeded hretried ha _
      · refine Progress.count (u := s.handlePushFailure task.pubkey) htask ?_ hj
        intro answers changes _ _ hnow
        rw [hphase] at hnow
        cases hnow with
        | rejectedOnce ha change => exact .doneRejected ha change _
        | failed hretried =>
          rw [hfailure]
          exact .doneFailed hretried _
    · have hother : t.tasks[i]? = s.tasks[i]? := by
        rcases hcases with ⟨-, rfl⟩ | ⟨-, rfl⟩ | ⟨-, rfl⟩ <;> rw [PushNode.setPhase_other hij] <;> rfl
      rw [hother]
      exact (hprogress i).append rfl fun p => by simp [changesOf, hij]

theorem Pushes.progress {urlSafe : String → Bool} {hist : List PushStep} {s : PushNode}
    (h : Pushes urlSafe hist s) (i : Nat) : TaskProgress hist i s.tasks[i]? := by
  induction h generalizing i with
  | start => exact ⟨rfl, fun _ => rfl⟩
  | step hrun hstep ih => exact pushStep_progress hstep (fun _ hp => hrun.hasRow hp) ih i

theorem failedInARow_append (p : String) (hist : List PushStep) (st : PushStep) :
    failedInARow p (hist ++ [st]) = st.failedInARow p (failedInARow p hist) := by
  simp [failedInARow]

theorem NoneRejected.answersOf {hist : List PushStep} (h : NoneRejected hist) {i : Nat}
    {a : PushAnswer} (ha : a ∈ answersOf hist i) : a.reportsRejected = false := by
  obtain ⟨st, hst, heq⟩ := List.mem_filterMap.mp ha
  rcases haction : st.action with _ | _ | _ | _ | ⟨j, answer⟩ | _
  all_goals simp only [haction] at heq
  case answer =>
    split at heq
    · cases heq
      exact h st hst _ _ haction
    · cases heq
  all_goals cases heq

theorem NoneRejected.init {hist : List PushStep} {st : PushStep}
    (h : NoneRejected (hist ++ [st])) : NoneRejected hist :=
  fun st' hst => h st' (List.mem_append_left _ hst)

theorem Pushes.phase_ne_rejected {urlSafe : String → Bool} {hist : List PushStep} {s : PushNode}
    (h : Pushes urlSafe hist s) (hnone : NoneRejected hist) {i : Nat} {task : PushTask}
    (htask : s.tasks[i]? = some task) : task.phase ≠ .rejectedEvents := by
  intro hphase
  have hprogress : TaskProgress hist i (some task) := htask ▸ h.progress i
  change Progress _ _ _ at hprogress
  rw [hphase] at hprogress
  generalize hanswers : Stophammer.answersOf hist i = answers at hprogress
  generalize changesOf hist i task.pubkey = changes at hprogress
  cases hprogress with
  | @rejectedEvents answers a ha =>
    have hmem : a ∈ Stophammer.answersOf hist i := by
      rw [hanswers]
      exact List.mem_append_right _ (List.mem_singleton_self _)
    rw [hnone.answersOf hmem] at ha
    cases ha

theorem register_failures (peers : List PeerNode) (pubkey url p : String) (now : Int) :
    consecutiveFailures (resetPeerFailures pubkey (upsertPeerNode pubkey url now peers)) p =
      if pubkey = p then 0 else consecutiveFailures peers p := by
  by_cases h : pubkey = p
  · subst h
    rw [if_pos rfl, resetPeerFailures_self]
  · rw [if_neg h]
    have hother : consecutiveFailures (resetPeerFailures pubkey (upsertPeerNode pubkey url now peers)) p =
        consecutiveFailures (upsertPeerNode pubkey url now peers) p := by
      apply updatePeer_failures_other
      · exact fun _ => rfl
      · exact h
    rw [hother, consecutiveFailures, upsertPeerNode_other url now peers h]
    rfl

theorem pushStep_failures {urlSafe : String → Bool} {s t : PushNode} {a : PushAction}
    (h : pushStep urlSafe s a = some t)
    (hrow : ∀ p, s.Reaches p → (findPeer s.peers p).isSome)
    (hphase : ∀ (i : Nat) (task : PushTask), s.tasks[i]? = some task →
      task.phase ≠ .rejectedEvents) {p : String}
    {n : Nat} (hn : consecutiveFailures s.peers p = n) :
    consecutiveFailures t.peers p = (PushStep.failedInARow p n ⟨s, a, t⟩ : Nat) := by
  cases a with
  | register pubkey url now =>
    cases h
    rw [register_failures]
    by_cases heq : pubkey = p <;> simp [PushStep.failedInARow, heq, hn]
  | subscribe k =>
    simp only [pushStep] at h
    split at h
    · cases h
      exact hn
    · cases h
  | restart =>
    cases h
    exact hn
  | fanOut =>
    cases h
    exact hn
  | answer i answer =>
    obtain ⟨task, attempt, -, -, rfl⟩ := pushStep_answer h
    exact hn
  | count i now =>
    obtain ⟨task, htask, hcases⟩ := pushStep_count h
    have hp : (findPeer s.peers task.pubkey).isSome :=
      hrow _ (Or.inr (Or.inr (List.mem_map_of_mem (List.mem_of_getElem? htask))))
    by_cases heq : task.pubkey = p
    · rcases hcases with ⟨hat, rfl⟩ | ⟨hat, rfl⟩ | ⟨hat, rfl⟩
      · exact absurd hat (hphase i task htask)
      · simp [PushStep.failedInARow, htask, heq, hat, recordPushSuccess_self]
      · subst heq
        rw [PushNode.setPhase_peers, PushNode.handlePushFailure_failures hp, hn]
        simp [PushStep.failedInARow, htask, hat]
    · have hsame : consecutiveFailures t.peers p = consecutiveFailures s.peers p := by
        rcases hcases with ⟨-, rfl⟩ | ⟨-, rfl⟩ | ⟨-, rfl⟩
        all_goals
          apply updatePeer_failures_other
          · exact fun _ => rfl
          · exact heq
      rw [hsame, hn]
      simp [PushStep.failedInARow, htask, heq]

theorem Pushes.failures {urlSafe : String → Bool} {hist : List PushStep} {s : PushNode}
    (h : Pushes urlSafe hist s) (hnone : NoneRejected hist) (p : String) :
    consecutiveFailures s.peers p = (failedInARow p hist : Nat) := by
  induction h with
  | start => rfl
  | step hrun hstep ih =>
    rw [failedInARow_append]
    exact pushStep_failures hstep (fun _ hp => hrun.hasRow hp)
      (fun _ _ => hrun.phase_ne_rejected hnone.init) (ih hnone.init)

theorem pushStep_leaves {urlSafe : String → Bool} {s t : PushNode} {a : PushAction}
    (h : pushStep urlSafe s a = some t) {p : String} (hrow : (findPeer s.peers p).isSome)
    (hin : s.Subscribed p) (hout : ¬ t.Subscribed p) :
    maxPeerFailures ≤ consecutiveFailures t.peers p := by
  have hfailure (pubkey : String) (hleft : ¬ (s.handlePushFailure pubkey).Subscribed p) :
      maxPeerFailures ≤ consecutiveFailures (s.handlePushFailure pubkey).peers p := by
    unfold PushNode.Subscribed PushNode.handlePushFailure at hleft
    dsimp only at hleft
    split at hleft
    · rename_i hmax
      by_cases heq : pubkey = p
      · subst heq
        exact hmax
      · obtain ⟨sub, hsub, rfl⟩ := List.mem_map.mp hin
        exact absurd (List.mem_map_of_mem (List.mem_filter.mpr ⟨hsub, by simpa using Ne.symm heq⟩))
          hleft
    · exact absurd hin hleft
  cases a with
  | register pubkey url now =>
    cases h
    exact absurd hin hout
  | subscribe k =>
    simp only [pushStep] at h
    split at h
    · rename_i sub hsub
      cases h
      refine absurd ?_ hout
      unfold PushNode.Subscribed
      rw [List.map_append, List.mem_append]
      obtain ⟨old, hold, rfl⟩ := List.mem_map.mp hin
      by_cases heq : old.1 = sub.1
      · exact Or.inr (by simp [heq])
      · exact Or.inl (List.mem_map_of_mem (List.mem_filter.mpr ⟨hold, by simpa using heq⟩))
    · cases h
  | restart =>
    cases h
    obtain ⟨row, hfind⟩ := Option.isSome_iff_exists.mp hrow
    have hkey : row.nodePubkey = p := by simpa using List.find?_some hfind
    by_contra hlow
    apply hout
    have hless : row.consecutiveFailures < maxPeerFailures := by
      have : consecutiveFailures s.peers p = row.consecutiveFailures := by
        rw [consecutiveFailures, hfind]
        rfl
      simp only [this, not_le] at hlow
      exact hlow
    unfold PushNode.Subscribed pushSubscribersAtStart getPushPeers
    rw [List.map_map]
    exact List.mem_map.mpr ⟨row,
      List.mem_filter.mpr ⟨List.mem_of_find?_eq_some hfind, decide_eq_true hless⟩, hkey⟩
  | fanOut =>
    cases h
    exact absurd hin hout
  | answer i answer =>
    obtain ⟨task, attempt, -, -, rfl⟩ := pushStep_answer h
    exact absurd hin hout
  | count i now =>
    obtain ⟨task, -, ⟨-, rfl⟩ | ⟨-, rfl⟩ | ⟨-, rfl⟩⟩ := pushStep_count h
    · exact hfailure _ hout
    · exact absurd hin hout
    · exact hfailure _ hout

/-- Each finished delivery counts once if and only if none of its answers reports rejected
events, and in a run without such answers a peer leaves the push cache only after ten
failed deliveries in a row. -/
theorem deliveries_count {urlSafe : String → Bool} {hist : List PushStep} {s : PushNode}
    (h : Pushes urlSafe hist s) :
    (∀ i task, s.tasks[i]? = some task → task.phase = .done →
      (CountsOnce hist i task.pubkey ↔ ∀ a ∈ answersOf hist i, a.reportsRejected = false)) ∧
    (NoneRejected hist → ∀ a t, pushStep urlSafe s a = some t →
      ∀ p, s.Subscribed p → ¬ t.Subscribed p →
        maxPeerFailures ≤ (failedInARow p (hist ++ [⟨s, a, t⟩]) : Nat)) := by
  constructor
  · intro i task htask hdone
    have hprogress : TaskProgress hist i (some task) := htask ▸ h.progress i
    change Progress _ _ _ at hprogress
    rw [hdone] at hprogress
    exact hprogress.countsOnce
  · intro hnone a t hstep p hin hout
    have hcounter := pushStep_leaves hstep (h.hasRow (Or.inl hin)) hin hout
    rwa [pushStep_failures hstep (fun _ hp => h.hasRow hp)
      (fun _ _ => h.phase_ne_rejected hnone) (h.failures hnone p), ← failedInARow_append]
      at hcounter

/-- The history of a list of actions, while each can run. -/
def pushRun (urlSafe : String → Bool) :
    List PushStep → PushNode → List PushAction → Option (List PushStep × PushNode)
  | hist, s, [] => some (hist, s)
  | hist, s, a :: rest =>
    match pushStep urlSafe s a with
    | some t => pushRun urlSafe (hist ++ [⟨s, a, t⟩]) t rest
    | none => none

theorem pushRun_pushes {urlSafe : String → Bool} {actions : List PushAction}
    {hist hist' : List PushStep} {s t : PushNode} (h : Pushes urlSafe hist s)
    (hrun : pushRun urlSafe hist s actions = some (hist', t)) : Pushes urlSafe hist' t := by
  induction actions generalizing hist s with
  | nil =>
    cases hrun
    exact h
  | cons a rest ih =>
    rw [pushRun] at hrun
    split at hrun
    · rename_i next hstep
      exact ih (h.step hstep) hrun
    · cases hrun

def registerPeer : List PushAction :=
  [.register "peer" "https://peer.example/sync/push" 1, .subscribe 0]

/-- A delivery that the peer answers with five rejected events. -/
def rejectedDelivery (i : Nat) : List PushAction :=
  [.fanOut, .answer i (.response 200 (.pushResponse ⟨0, 5, 0⟩)), .count i 7, .count i 7]

/-- A delivery with three answers that are not 2xx. -/
def failedDelivery (i : Nat) : List PushAction :=
  [.fanOut, .answer i (.response 503 .unreadable), .answer i .sendError,
   .answer i (.response 500 .notPushResponse), .count i 7]

def historyOf (actions : List PushAction) : List PushStep × PushNode :=
  (pushRun (fun _ => true) [] .start actions).getD ([], .start)

theorem historyOf_pushes {actions : List PushAction}
    (h : (pushRun (fun _ => true) [] .start actions).isSome = true) :
    Pushes (fun _ => true) (historyOf actions).1 (historyOf actions).2 := by
  obtain ⟨run, hrun⟩ := Option.isSome_iff_exists.mp h
  have hpair : historyOf actions = run := by rw [historyOf, hrun]; rfl
  rw [hpair]
  exact pushRun_pushes .start hrun

/-- Ten failed deliveries but for the last counter write. -/
def beforeEviction : List PushAction :=
  registerPeer ++ (List.range 9).flatMap failedDelivery ++ (failedDelivery 9).dropLast

theorem beforeEviction_noneRejected : NoneRejected (historyOf beforeEviction).1 := by
  have hall : (historyOf beforeEviction).1.all (fun st =>
      match st.action with
      | .answer _ answer => !answer.reportsRejected
      | _ => true) = true := by decide +kernel
  intro st hst i answer haction
  have hst := List.all_eq_true.mp hall st hst
  rw [haction] at hst
  simpa using hst

theorem deliveries_count_sample :
    CountsOnce (historyOf (registerPeer ++ failedDelivery 0)).1 0 "peer" ∧
    10 ≤ failedInARow "peer" ((historyOf beforeEviction).1 ++
      [⟨(historyOf beforeEviction).2, .count 9 7, (historyOf (beforeEviction ++ [.count 9 7])).2⟩]) := by
  constructor
  · exact ((deliveries_count (historyOf_pushes (by decide +kernel :
      (pushRun (fun _ => true) [] .start (registerPeer ++ failedDelivery 0)).isSome = true))).1 0
      ⟨"peer", "https://peer.example/sync/push", .done⟩ (by decide +kernel) rfl).mpr
      (by decide +kernel)
  · have hten := (deliveries_count (historyOf_pushes (by decide +kernel :
      (pushRun (fun _ => true) [] .start beforeEviction).isSome = true))).2
      beforeEviction_noneRejected (.count 9 7) (historyOf (beforeEviction ++ [.count 9 7])).2
      (by decide +kernel) "peer" (by unfold PushNode.Subscribed; decide +kernel)
      (by unfold PushNode.Subscribed; decide +kernel)
    exact Int.ofNat_le.mp hten

/-- One delivery whose answer reports rejected events counts twice, and five of them put
the peer out of the push cache. -/
theorem rejected_delivery_counts_twice :
    changesOf (historyOf (registerPeer ++ rejectedDelivery 0)).1 0 "peer" = [(0, 1), (1, 2)] ∧
    ¬ CountsOnce (historyOf (registerPeer ++ rejectedDelivery 0)).1 0 "peer" ∧
    (historyOf (registerPeer ++ (List.range 5).flatMap rejectedDelivery)).2.subscribers = [] ∧
    failedInARow "peer" (historyOf (registerPeer ++ (List.range 5).flatMap rejectedDelivery)).1 =
      5 := by
  have htwice : changesOf (historyOf (registerPeer ++ rejectedDelivery 0)).1 0 "peer" =
      [(0, 1), (1, 2)] := by decide +kernel
  refine ⟨htwice, ?_, by decide +kernel, by decide +kernel⟩
  rintro ⟨before, honce⟩
  rw [htwice] at honce
  cases honce

end Stophammer
