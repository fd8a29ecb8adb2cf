import Stophammer.FetchGuard
import Stophammer.Ingest.Handler
import Stophammer.Overflow
import Stophammer.Push
import Stophammer.Sample
import Mathlib.Algebra.Order.Group.Unbundled.Int

/-!
# Registration of push peers

`POST /sync/register`: what the handler checks in front of its database write, and what every
entry of the push cache and every delivery traces back to.
-/

namespace Stophammer

structure RegisterRequest where
  nodePubkey : String
  nodeUrl : String
  signedAt : Option Int64
  signature : Option String
deriving DecidableEq

structure RegisterSigningPayload where
  nodePubkey : String
  nodeUrl : String
  signedAt : Int64
deriving DecidableEq

/-- `verify_json_signature` over a registration. -/
class RegisterVerifier where
  verifyJsonSignature : String → RegisterSigningPayload → String → Except String Unit

/-- What `GET /node/info` gives: the status with its text and the key in a readable body. -/
inductive NodeInfoAnswer where
  | sendError (e : String)
  | response (status : Nat) (statusText : String) (nodePubkey : Except String String)

/-- The node and its surroundings at one request.  The resolver can answer the two lookups
differently. -/
structure RegisterEnv where
  syncToken : Option String
  syncTokenHeader : Option String
  now : Int64
  resolveNodeUrl : Resolver
  resolveNodeInfo : Resolver
  /-- The answer at a URL for a client that reaches a host at the given addresses only. -/
  get : String → String × List SocketAddr → NodeInfoAnswer

def unprocessable (message : String) : ApiError := ⟨422, message⟩

def trimEndMatches (c : Char) (s : String) : String :=
  String.ofList (s.toList.reverse.dropWhile (· == c)).reverse

def stripSuffix (s suffix : String) : Option String :=
  if suffix.toList.isSuffixOf s.toList then
    some (String.ofList (s.toList.take (s.toList.length - suffix.toList.length)))
  else none

section

variable [Platform]

def checkSyncToken (header syncToken : Option String) : Except ApiError Unit :=
  match syncToken with
  | none => .error ⟨403, "sync token not configured on this node"⟩
  | some expected =>
    if expected.isEmpty then .error ⟨403, "sync token not configured on this node"⟩
    else if tokenMatches (header.getD "") expected then .ok ()
    else .error ⟨403, "invalid or missing X-Sync-Token"⟩

end

section

variable [UrlParser]

def syncRegisterNodeInfoUrl (nodeUrl : String) : Except String String :=
  match UrlParser.parse nodeUrl with
  | .error e => .error ("invalid node URL: " ++ e)
  | .ok url =>
    match stripSuffix (trimEndMatches '/' url.path) "/sync/push" with
    | none => .error "node URL must end with /sync/push"
    | some basePath =>
      .ok (UrlParser.text (url.withPath
        (if basePath.isEmpty then "/node/info" else basePath ++ "/node/info")))

def resolveNodeInfoUrl (resolve : Resolver) (nodeInfoUrl : String) :
    Except String (String × List SocketAddr) :=
  match UrlParser.parse nodeInfoUrl with
  | .error e => .error ("invalid node/info URL: " ++ e)
  | .ok url => resolveAndValidateUrl resolve url

def verifySyncRegisterTarget (env : RegisterEnv) (nodeUrl expectedPubkey : String) :
    Except ApiError Unit :=
  match syncRegisterNodeInfoUrl nodeUrl with
  | .error e => .error (unprocessable e)
  | .ok nodeInfoUrl =>
    match resolveNodeInfoUrl env.resolveNodeInfo nodeInfoUrl with
    | .error e => .error (unprocessable ("node/info URL rejected: " ++ e))
    | .ok pinned =>
      match env.get nodeInfoUrl pinned with
      | .sendError e =>
        .error (unprocessable
          ("failed to verify node URL ownership via " ++ nodeInfoUrl ++ ": " ++ e))
      | .response status statusText info =>
        if !isSuccess status then
          .error (unprocessable
            ("node URL ownership check returned HTTP " ++ statusText ++ " from " ++ nodeInfoUrl))
        else
          match info with
          | .error e =>
            .error (unprocessable
              ("invalid node/info response from " ++ nodeInfoUrl ++ ": " ++ e))
          | .ok pubkey =>
            if pubkey ≠ expectedPubkey then
              .error (unprocessable ("node/info pubkey mismatch for " ++ nodeInfoUrl ++
                ": expected " ++ expectedPubkey ++ ", got " ++ pubkey))
            else .ok ()

variable [Platform] [RegisterVerifier]

/-- The checks of `handle_sync_register`, and the database write that follows them.  The
difference of the times wraps around, as in a release build. -/
def handleSyncRegister (env : RegisterEnv) (req : RegisterRequest) :
    Except ApiError PushAction := do
  checkSyncToken env.syncTokenHeader env.syncToken
  match req.signedAt, req.signature with
  | some signedAt, some signatureHex =>
    if syncRegisterMaxSkewSecs < (env.now - signedAt).abs.toInt then
      .error ⟨400, "sync/register signed_at is outside the allowed skew window of " ++
        toString syncRegisterMaxSkewSecs ++ " seconds"⟩
    else
      (RegisterVerifier.verifyJsonSignature req.nodePubkey
        ⟨req.nodePubkey, req.nodeUrl, signedAt⟩ signatureHex).mapError
          fun e => ⟨403, "invalid sync/register signature: " ++ e⟩
      (validateNodeUrl env.resolveNodeUrl req.nodeUrl).mapError unprocessable
      verifySyncRegisterTarget env req.nodeUrl req.nodePubkey
      .ok (.register req.nodePubkey req.nodeUrl env.now.toInt)
  | _, _ => .error ⟨400, "sync/register requires signed_at and signature"⟩

end

/-- A registration that the handler accepted. -/
structure Registration where
  env : RegisterEnv
  req : RegisterRequest

/-- The signed time is near the clock, or the difference of the two is no 64-bit number. -/
def Fresh (now signedAt : Int64) : Prop :=
  |now.toInt - signedAt.toInt| ≤ 600 ∨ 2 ^ 63 ≤ |now.toInt - signedAt.toInt|

theorem abs_toInt {d : Int64} (hmin : d.toInt ≠ -2 ^ 63) : d.abs.toInt = |d.toInt| := by
  have hbits : d.abs.toInt = d.toBitVec.abs.toInt := rfl
  rw [hbits, BitVec.toInt_abs_eq_natAbs_of_ne_intMin, Int.natCast_natAbs]
  · rfl
  · intro heq
    have hval : d.toInt = d.toBitVec.toInt := rfl
    rw [hval, heq] at hmin
    exact hmin (by decide)

theorem fresh_of_abs {now signedAt : Int64}
    (h : ¬ syncRegisterMaxSkewSecs < (now - signedAt).abs.toInt) : Fresh now signedAt := by
  by_cases hrange : |now.toInt - signedAt.toInt| < 2 ^ 63
  · refine Or.inl ?_
    obtain ⟨hlow, hhigh⟩ := abs_lt.mp hrange
    have hdiff : (now - signedAt).toInt = now.toInt - signedAt.toInt := by
      rw [Int64.toInt_sub, Int.bmod_eq_of_le] <;> omega
    have hle : (now - signedAt).abs.toInt ≤ 600 := not_lt.mp h
    rwa [abs_toInt (by omega), hdiff] at hle
  · exact Or.inr (not_lt.mp hrange)

section

variable [UrlParser] [Platform] [RegisterVerifier]

/-- The key signed its URL a moment ago; the URL leads out of the network, and a node at the
same host, asked at public addresses only, gave the key as its own. -/
structure Registration.Vouched (r : Registration) : Prop where
  token : ∃ expected, r.env.syncToken = some expected ∧ expected ≠ "" ∧
    tokenMatches (r.env.syncTokenHeader.getD "") expected = true
  signature : ∃ signedAt signatureHex, r.req.signedAt = some signedAt ∧
    r.req.signature = some signatureHex ∧ Fresh r.env.now signedAt ∧
    RegisterVerifier.verifyJsonSignature r.req.nodePubkey
      ⟨r.req.nodePubkey, r.req.nodeUrl, signedAt⟩ signatureHex = .ok ()
  target : ∃ url basePath host addrs status statusText,
    UrlParser.parse r.req.nodeUrl = .ok url ∧ url.LeadsOut r.env.resolveNodeUrl ∧
    trimEndMatches '/' url.path = basePath ++ "/sync/push" ∧
    url.host = some host ∧ addrs ≠ [] ∧ (∀ addr ∈ addrs, ¬ addr.ip.Refused) ∧
    isSuccess status = true ∧
    r.env.get (UrlParser.text (url.withPath (basePath ++ "/node/info"))) (host, addrs) =
      .response status statusText (.ok r.req.nodePubkey)

end

theorem stripSuffix_eq_some {s suffix base : String} (h : stripSuffix s suffix = some base) :
    s = base ++ suffix := by
  unfold stripSuffix at h
  split at h
  · rename_i hsuffix
    obtain ⟨front, hfront⟩ := List.isSuffixOf_iff_suffix.mp hsuffix
    have hlength : s.toList.length - suffix.toList.length = front.length := by
      rw [← hfront, List.length_append, Nat.add_sub_cancel]
    rw [hlength, ← hfront, List.take_left, Option.some.injEq] at h
    apply String.toList_inj.mp
    rw [String.toList_append, ← h, String.toList_ofList, hfront]
  · cases h

section

variable [Platform]

theorem checkSyncToken_ok {header syncToken : Option String}
    (h : checkSyncToken header syncToken = .ok ()) :
    ∃ expected, syncToken = some expected ∧ expected ≠ "" ∧
      tokenMatches (header.getD "") expected = true := by
  unfold checkSyncToken at h
  cases syncToken with
  | none => cases h
  | some expected =>
    dsimp only at h
    split at h
    · cases h
    rename_i hempty
    split at h
    · rename_i hmatch
      exact ⟨expected, rfl, by simpa using hempty, hmatch⟩
    · cases h

end

section

variable [UrlParser]

theorem syncRegisterNodeInfoUrl_ok {nodeUrl nodeInfoUrl : String}
    (h : syncRegisterNodeInfoUrl nodeUrl = .ok nodeInfoUrl) :
    ∃ url basePath, UrlParser.parse nodeUrl = .ok url ∧
      trimEndMatches '/' url.path = basePath ++ "/sync/push" ∧
      nodeInfoUrl = UrlParser.text (url.withPath (basePath ++ "/node/info")) := by
  unfold syncRegisterNodeInfoUrl at h
  cases hparse : UrlParser.parse nodeUrl with
  | error e =>
    rw [hparse] at h
    cases h
  | ok url =>
    rw [hparse] at h
    dsimp only at h
    cases hstrip : stripSuffix (trimEndMatches '/' url.path) "/sync/push" with
    | none =>
      rw [hstrip] at h
      cases h
    | some basePath =>
      rw [hstrip] at h
      refine ⟨url, basePath, rfl, stripSuffix_eq_some hstrip, ?_⟩
      have hpath : (if basePath.isEmpty then "/node/info" else basePath ++ "/node/info") =
          basePath ++ "/node/info" := by
        split
        · rename_i hempty
          rw [String.isEmpty_iff.mp hempty]
          rfl
        · rfl
      rw [← Except.ok.inj h, hpath]

theorem verifySyncRegisterTarget_ok {env : RegisterEnv} {nodeUrl pubkey : String}
    (h : verifySyncRegisterTarget env nodeUrl pubkey = .ok ()) :
    ∃ nodeInfoUrl url host addrs status statusText,
      syncRegisterNodeInfoUrl nodeUrl = .ok nodeInfoUrl ∧
      UrlParser.parse nodeInfoUrl = .ok url ∧
      resolveAndValidateUrl env.resolveNodeInfo url = .ok (host, addrs) ∧
      isSuccess status = true ∧
      env.get nodeInfoUrl (host, addrs) = .response status statusText (.ok pubkey) := by
  unfold verifySyncRegisterTarget at h
  cases hinfo : syncRegisterNodeInfoUrl nodeUrl with
  | error e =>
    rw [hinfo] at h
    cases h
  | ok nodeInfoUrl =>
    rw [hinfo] at h
    dsimp only at h
    unfold resolveNodeInfoUrl at h
    cases hparse : UrlParser.parse nodeInfoUrl with
    | error e =>
      rw [hparse] at h
      cases h
    | ok url =>
      rw [hparse] at h
      dsimp only at h
      cases hresolve : resolveAndValidateUrl env.resolveNodeInfo url with
      | error e =>
        rw [hresolve] at h
        cases h
      | ok pinned =>
        rw [hresolve] at h
        dsimp only at h
        cases hget : env.get nodeInfoUrl pinned with
        | sendError e =>
          rw [hget] at h
          cases h
        | response status statusText info =>
          rw [hget] at h
          dsimp only at h
          split at h
          · cases h
          rename_i hstatus
          rw [Bool.not_eq_true, Bool.not_eq_false'] at hstatus
          cases info with
          | error e => cases h
          | ok answered =>
            dsimp only at h
            split at h
            · cases h
            · rename_i hkey
              rw [not_not.mp hkey] at hget
              exact ⟨nodeInfoUrl, url, pinned.1, pinned.2, status, statusText, rfl, hparse,
                hresolve, hstatus, hget⟩

end

theorem Except.bind_eq_ok {ε α β : Type} {x : Except ε α} {f : α → Except ε β} {b : β}
    (h : x >>= f = .ok b) : ∃ a, x = .ok a ∧ f a = .ok b := by
  cases x with
  | error e => cases h
  | ok a => exact ⟨a, rfl, h⟩

theorem Except.mapError_eq_ok {ε ε' α : Type} {x : Except ε α} {f : ε → ε'} {a : α}
    (h : x.mapError f = .ok a) : x = .ok a := by
  cases x with
  | error e => cases h
  | ok b => exact congrArg _ (Except.ok.inj h)

section

variable [UrlParser] [LawfulUrlParser] [Platform] [RegisterVerifier]

theorem handleSyncRegister_ok {r : Registration} {action : PushAction}
    (h : handleSyncRegister r.env r.req = .ok action) :
    action = .register r.req.nodePubkey r.req.nodeUrl r.env.now.toInt ∧ r.Vouched := by
  unfold handleSyncRegister at h
  obtain ⟨_, htoken, h⟩ := Except.bind_eq_ok h
  split at h
  · rename_i signedAt signatureHex hsignedAt hsignature
    split at h
    · cases h
    rename_i hskew
    obtain ⟨_, hverify, h⟩ := Except.bind_eq_ok h
    obtain ⟨_, hurl, h⟩ := Except.bind_eq_ok h
    obtain ⟨_, htarget, h⟩ := Except.bind_eq_ok h
    refine ⟨(Except.ok.inj h).symm, checkSyncToken_ok htoken, ?_, ?_⟩
    · exact ⟨signedAt, signatureHex, hsignedAt, hsignature, fresh_of_abs hskew,
        Except.mapError_eq_ok hverify⟩
    · obtain ⟨url, hparse, hleads⟩ := validateNodeUrl_ok (Except.mapError_eq_ok hurl)
      obtain ⟨nodeInfoUrl, infoUrl, host, addrs, status, statusText, hinfo, hinfoParse, hresolve,
        hstatus, hget⟩ := verifySyncRegisterTarget_ok htarget
      obtain ⟨url', basePath, hparse', hpath, rfl⟩ := syncRegisterNodeInfoUrl_ok hinfo
      obtain rfl : url' = url := Except.ok.inj (hparse'.symm.trans hparse)
      rw [LawfulUrlParser.parse_text _ hparse] at hinfoParse
      obtain rfl := Except.ok.inj hinfoParse
      obtain ⟨hhost, -, hsome, hpublic⟩ := resolveAndValidateUrl_ok hresolve
      exact ⟨url', basePath, host, addrs, status, statusText, hparse, hleads, hpath, hhost, hsome,
        hpublic, hstatus, hget⟩
  · cases h

end

section

variable [UrlParser] [Platform] [RegisterVerifier]

/-- A run of a primary that serves registrations: each database write of a registration follows
the checks of its request. -/
inductive PeerRun (urlSafe : String → Bool) : List Registration → PushNode → Prop where
  | start : PeerRun urlSafe [] .start
  | register {regs : List Registration} {s t : PushNode} {r : Registration} {a : PushAction} :
      PeerRun urlSafe regs s → handleSyncRegister r.env r.req = .ok a →
      pushStep urlSafe s a = some t → PeerRun urlSafe (regs ++ [r]) t
  | other {regs : List Registration} {s t : PushNode} {a : PushAction} :
      PeerRun urlSafe regs s → (∀ pubkey url now, a ≠ .register pubkey url now) →
      pushStep urlSafe s a = some t → PeerRun urlSafe regs t

end

def lastUrl (regs : List Registration) (pubkey : String) : Option String :=
  (regs.reverse.find? (·.req.nodePubkey == pubkey)).map (·.req.nodeUrl)

/-- Some registration gave the key this URL. -/
def Registered (regs : List Registration) (pubkey url : String) : Prop :=
  ∃ r ∈ regs, r.req.nodePubkey = pubkey ∧ r.req.nodeUrl = url

/-- The node has the peer in its table, in its push cache or on the way into it, or it has a
delivery to it. -/
def PushNode.Knows (s : PushNode) (pubkey url : String) : Prop :=
  (∃ row ∈ s.peers, row.nodePubkey = pubkey ∧ row.nodeUrl = url) ∨
    (pubkey, url) ∈ s.subscribers ∨ (pubkey, url) ∈ s.registering ∨
    ∃ task ∈ s.tasks, task.pubkey = pubkey ∧ task.pushUrl = url

/-- All that the node keeps about peers comes from registrations, and a row has the URL of the
last one of its key. -/
structure Backed (regs : List Registration) (s : PushNode) : Prop where
  rows : ∀ row ∈ s.peers, lastUrl regs row.nodePubkey = some row.nodeUrl
  subscribers : ∀ sub ∈ s.subscribers, Registered regs sub.1 sub.2
  registering : ∀ sub ∈ s.registering, Registered regs sub.1 sub.2
  tasks : ∀ task ∈ s.tasks, Registered regs task.pubkey task.pushUrl

theorem lastUrl_registered {regs : List Registration} {pubkey url : String}
    (h : lastUrl regs pubkey = some url) : Registered regs pubkey url := by
  obtain ⟨r, hfind, rfl⟩ := Option.map_eq_some_iff.mp h
  refine ⟨r, List.mem_reverse.mp (List.mem_of_find?_eq_some hfind), ?_, rfl⟩
  simpa using List.find?_some hfind

theorem lastUrl_append (regs : List Registration) (r : Registration) (pubkey : String) :
    lastUrl (regs ++ [r]) pubkey =
      if r.req.nodePubkey = pubkey then some r.req.nodeUrl else lastUrl regs pubkey := by
  unfold lastUrl
  rw [List.reverse_append, List.reverse_singleton, List.singleton_append, List.find?_cons]
  by_cases hkey : r.req.nodePubkey = pubkey
  · rw [if_pos hkey, beq_iff_eq.mpr hkey]
    rfl
  · rw [if_neg hkey, beq_eq_false_iff_ne.mpr hkey]

theorem Registered.append {regs : List Registration} {pubkey url : String}
    (h : Registered regs pubkey url) (r : Registration) : Registered (regs ++ [r]) pubkey url := by
  obtain ⟨old, hold, hkey, hurl⟩ := h
  exact ⟨old, List.mem_append_left _ hold, hkey, hurl⟩

theorem Backed.start : Backed [] .start := by
  constructor <;> exact fun _ hmem => absurd hmem List.not_mem_nil

theorem mem_updatePeer {pubkey : String} {f : PeerNode → PeerNode} {peers : List PeerNode}
    {row : PeerNode} (hrow : row ∈ updatePeer pubkey f peers) :
    ∃ old ∈ peers, row = if old.nodePubkey = pubkey then f old else old := by
  obtain ⟨old, hold, hset⟩ := List.mem_map.mp hrow
  exact ⟨old, hold, hset.symm⟩

theorem updatePeer_rows {pubkey : String} {f : PeerNode → PeerNode} {peers : List PeerNode}
    {P : String → String → Prop}
    (hsame : ∀ row, (f row).nodePubkey = row.nodePubkey ∧ (f row).nodeUrl = row.nodeUrl)
    (hrows : ∀ row ∈ peers, P row.nodePubkey row.nodeUrl) :
    ∀ row ∈ updatePeer pubkey f peers, P row.nodePubkey row.nodeUrl := by
  intro row hrow
  obtain ⟨old, hold, rfl⟩ := mem_updatePeer hrow
  split
  · rw [(hsame old).1, (hsame old).2]
    exact hrows old hold
  · exact hrows old hold

theorem upsertPeerNode_rows {pubkey url : String} {now : Int} {peers : List PeerNode}
    {row : PeerNode} (hrow : row ∈ upsertPeerNode pubkey url now peers) :
    (row.nodePubkey = pubkey ∧ row.nodeUrl = url) ∨ row ∈ peers ∧ row.nodePubkey ≠ pubkey := by
  unfold upsertPeerNode at hrow
  cases hfind : findPeer peers pubkey with
  | some found =>
    rw [hfind] at hrow
    obtain ⟨old, hold, rfl⟩ := mem_updatePeer hrow
    split
    · rename_i hkey
      exact Or.inl ⟨hkey, rfl⟩
    · rename_i hkey
      exact Or.inr ⟨hold, hkey⟩
  | none =>
    rw [hfind] at hrow
    rcases List.mem_append.mp hrow with hold | hnew
    · refine Or.inr ⟨hold, ?_⟩
      have hnone := List.find?_eq_none.mp hfind row hold
      simpa using hnone
    · rw [List.mem_singleton.mp hnew]
      exact Or.inl ⟨rfl, rfl⟩

theorem setPhase_tasks {s : PushNode} {i : Nat} {phase : PushPhase} {P : String → String → Prop}
    (htasks : ∀ task ∈ s.tasks, P task.pubkey task.pushUrl) :
    ∀ task ∈ (s.setPhase i phase).tasks, P task.pubkey task.pushUrl := by
  intro task htask
  obtain ⟨j, hj⟩ := List.mem_iff_getElem?.mp htask
  rw [PushNode.setPhase, List.getElem?_modify, Option.map_eq_map, Option.map_eq_some_iff] at hj
  obtain ⟨old, hold, rfl⟩ := hj
  have hmem := htasks old (List.mem_of_getElem? hold)
  split <;> exact hmem

theorem handlePushFailure_subscribers {s : PushNode} {pubkey : String} {sub : String × String}
    (hsub : sub ∈ (s.handlePushFailure pubkey).subscribers) : sub ∈ s.subscribers := by
  unfold PushNode.handlePushFailure at hsub
  dsimp only at hsub
  split at hsub
  · exact List.mem_of_mem_filter hsub
  · exact hsub

theorem Backed.register {urlSafe : String → Bool} {regs : List Registration} {s t : PushNode}
    (hs : Backed regs s) (r : Registration)
    (hstep : pushStep urlSafe s (.register r.req.nodePubkey r.req.nodeUrl r.env.now.toInt) =
      some t) : Backed (regs ++ [r]) t := by
  obtain rfl := Option.some.inj hstep
  constructor
  · apply updatePeer_rows (P := fun p u => lastUrl (regs ++ [r]) p = some u)
    · exact fun _ => ⟨rfl, rfl⟩
    · intro row hrow
      rw [lastUrl_append]
      rcases upsertPeerNode_rows hrow with ⟨hkey, hurl⟩ | ⟨hold, hkey⟩
      · rw [if_pos hkey.symm, hurl]
      · rw [if_neg (Ne.symm hkey)]
        exact hs.rows row hold
  · exact fun sub hsub => (hs.subscribers sub hsub).append r
  · intro sub hsub
    rcases List.mem_append.mp hsub with hold | hnew
    · exact (hs.registering sub hold).append r
    · rw [List.mem_singleton.mp hnew]
      exact ⟨r, List.mem_append_right _ (List.mem_singleton.mpr rfl), rfl, rfl⟩
  · exact fun task htask => (hs.tasks task htask).append r

theorem Backed.step {urlSafe : String → Bool} {regs : List Registration} {s t : PushNode}
    {a : PushAction} (hs : Backed regs s) (hother : ∀ pubkey url now, a ≠ .register pubkey url now)
    (hstep : pushStep urlSafe s a = some t) : Backed regs t := by
  cases a with
  | register pubkey url now => exact absurd rfl (hother pubkey url now)
  | subscribe k =>
    simp only [pushStep] at hstep
    cases hsub : s.registering[k]? with
    | none =>
      rw [hsub] at hstep
      cases hstep
    | some sub =>
      rw [hsub] at hstep
      obtain rfl := Option.some.inj hstep
      refine ⟨hs.rows, ?_, ?_, hs.tasks⟩
      · intro new hnew
        rcases List.mem_append.mp hnew with hold | hnew
        · exact hs.subscribers new (List.mem_of_mem_filter hold)
        · rw [List.mem_singleton.mp hnew]
          exact hs.registering sub (List.mem_of_getElem? hsub)
      · exact fun new hnew => hs.registering new (List.mem_of_mem_eraseIdx hnew)
  | restart =>
    obtain rfl := Option.some.inj hstep
    refine ⟨hs.rows, ?_, fun _ hmem => absurd hmem List.not_mem_nil, ?_⟩
    · intro sub hsub
      obtain ⟨row, hrow, rfl⟩ := List.mem_map.mp hsub
      exact lastUrl_registered (hs.rows row (List.mem_of_mem_filter hrow))
    · intro task htask
      obtain ⟨old, hold, rfl⟩ := List.mem_map.mp htask
      exact hs.tasks old hold
  | fanOut =>
    obtain rfl := Option.some.inj hstep
    refine ⟨hs.rows, hs.subscribers, hs.registering, ?_⟩
    intro task htask
    rcases List.mem_append.mp htask with hold | hnew
    · exact hs.tasks task hold
    · obtain ⟨sub, hsub, rfl⟩ := List.mem_map.mp hnew
      exact hs.subscribers sub hsub
  | answer i answer =>
    obtain ⟨task, attempt, -, -, rfl⟩ := pushStep_answer hstep
    exact ⟨hs.rows, hs.subscribers, hs.registering, setPhase_tasks hs.tasks⟩
  | count i now =>
    have hfail : ∀ pubkey phase, Backed regs ((s.handlePushFailure pubkey).setPhase i phase) := by
      intro pubkey phase
      refine ⟨?_, ?_, hs.registering, setPhase_tasks hs.tasks⟩
      · exact updatePeer_rows (P := fun p u => lastUrl regs p = some u)
          (fun _ => ⟨rfl, rfl⟩) hs.rows
      · exact fun sub hsub => hs.subscribers sub (handlePushFailure_subscribers hsub)
    obtain ⟨task, -, ⟨-, rfl⟩ | ⟨-, rfl⟩ | ⟨-, rfl⟩⟩ := pushStep_count hstep
    · exact hfail _ _
    · refine ⟨?_, hs.subscribers, hs.registering, setPhase_tasks hs.tasks⟩
      exact updatePeer_rows (P := fun p u => lastUrl regs p = some u)
        (fun _ => ⟨rfl, rfl⟩) hs.rows
    · exact hfail _ _

section

variable [UrlParser] [LawfulUrlParser] [Platform] [RegisterVerifier]

theorem PeerRun.backed {urlSafe : String → Bool} {regs : List Registration} {s : PushNode}
    (hrun : PeerRun urlSafe regs s) : Backed regs s ∧ ∀ r ∈ regs, r.Vouched := by
  induction hrun with
  | start => exact ⟨.start, fun r hr => absurd hr List.not_mem_nil⟩
  | @register regs s t r a hrun hok hstep ih =>
    obtain ⟨rfl, hvouched⟩ := handleSyncRegister_ok hok
    refine ⟨ih.1.register r hstep, ?_⟩
    intro old hold
    rcases List.mem_append.mp hold with hold | hnew
    · exact ih.2 old hold
    · rw [List.mem_singleton.mp hnew]
      exact hvouched
  | other hrun hother hstep ih => exact ⟨ih.1.step hother hstep, ih.2⟩

/-- Every peer that the node keeps, pushes to or is about to push to has a registration that
vouches for key and URL, whatever interleaving led there; and a row has the URL of the last
registration of its key. -/
theorem peerRun_vouched {urlSafe : String → Bool} {regs : List Registration} {s : PushNode}
    (hrun : PeerRun urlSafe regs s) :
    (∀ pubkey url, s.Knows pubkey url →
      ∃ r ∈ regs, r.req.nodePubkey = pubkey ∧ r.req.nodeUrl = url ∧ r.Vouched) ∧
    ∀ row ∈ s.peers, lastUrl regs row.nodePubkey = some row.nodeUrl := by
  obtain ⟨hback, hvouched⟩ := hrun.backed
  refine ⟨?_, hback.rows⟩
  intro pubkey url hknows
  have hreg : Registered regs pubkey url := by
    rcases hknows with ⟨row, hrow, rfl, rfl⟩ | hsub | hsub | ⟨task, htask, rfl, rfl⟩
    · exact lastUrl_registered (hback.rows row hrow)
    · exact hback.subscribers _ hsub
    · exact hback.registering _ hsub
    · exact hback.tasks task htask
  obtain ⟨r, hr, hkey, hurl⟩ := hreg
  exact ⟨r, hr, hkey, hurl, hvouched r hr⟩

end

def peerOrigin : String := "https://peer.example"

def peerPushUrl : String := "https://peer.example/sync/push"

def peerKey : String := "8139770ea87d175f56a35466c34c7ecccb8d8a91b4ee37a25df60f5b8fc9b394"

/-- Where the peer is later. -/
def movedPushUrl : String := "https://peer.example/b/sync/push"

def peerRequest : RegisterRequest where
  nodePubkey := peerKey
  nodeUrl := peerPushUrl
  signedAt := some 100
  signature := some ("cca1f7649ded6f4b0e770c866586eaf6be00cdbb7591918ed3b4cf1abc56e133" ++
    "305f3b5b28af38c5562504cbae91e114d2626b14b2a3d6789dbc13ac4a9d420d")

def movedRequest : RegisterRequest where
  nodePubkey := peerKey
  nodeUrl := movedPushUrl
  signedAt := some 200
  signature := some ("a758d8c0d4ea1c498ab4e58992ab0810642b5919fa690592568dd598481b97d7" ++
    "a2fcff495455b2d7d9a627df8d84d3feea686fb9cf35de67aa35e062e388030f")

/-- The parser on the URLs of one host that have a plain path. -/
@[reducible] def peerParser : UrlParser where
  parse text :=
    if peerOrigin.toList.isPrefixOf text.toList then
      .ok ⟨"https", "", none, some "peer.example", some 443,
        String.ofList (text.toList.drop peerOrigin.toList.length), none, none⟩
    else .error "relative URL without a base"
  text url := peerOrigin ++ url.path
  encodePath path := path
  parseIp _ := none
  ipText _ := ""

theorem peerParser_lawful : @LawfulUrlParser peerParser := by
  refine @LawfulUrlParser.mk peerParser ?_
  intro text url path hparse
  change (if peerOrigin.toList.isPrefixOf text.toList = true then _ else _) = _ at hparse
  split at hparse
  · obtain rfl := Except.ok.inj hparse
    have hprefix : peerOrigin.toList.isPrefixOf (peerOrigin ++ path).toList = true := by
      rw [String.toList_append]
      exact List.isPrefixOf_iff_prefix.mpr (List.prefix_append _ _)
    have hrest : String.ofList ((peerOrigin ++ path).toList.drop peerOrigin.toList.length) =
        path := by
      rw [String.toList_append, List.drop_left, String.ofList_toList]
    change (if peerOrigin.toList.isPrefixOf (peerOrigin ++ path).toList = true then _ else _) = _
    rw [if_pos hprefix]
    exact congrArg (fun rest => Except.ok
      (⟨"https", "", none, some "peer.example", some 443, rest, none, none⟩ : Url)) hrest
  · cases hparse

/-- The verifier knows the two signatures of the peer. -/
@[reducible] def peerVerifier : RegisterVerifier where
  verifyJsonSignature key payload signature :=
    if key == peerKey &&
      (payload == ⟨peerKey, peerPushUrl, 100⟩ && some signature == peerRequest.signature ||
        payload == ⟨peerKey, movedPushUrl, 200⟩ && some signature == movedRequest.signature)
    then .ok ()
    else .error "signature error"

def peerEnv (now : Int64) : RegisterEnv where
  syncToken := some "t"
  syncTokenHeader := some "t"
  now := now
  resolveNodeUrl _ := .ok [⟨.v4 0x5db8d822, 443⟩]
  resolveNodeInfo _ := .ok [⟨.v4 0x5db8d822, 443⟩]
  get url _ :=
    if url == "https://peer.example/node/info" || url == "https://peer.example/b/node/info" then
      .response 200 "200 OK" (.ok peerKey)
    else .response 404 "404 Not Found" (.error "expected value at line 1 column 1")

attribute [local instance] peerParser peerParser_lawful peerVerifier samplePlatform

theorem peerRequest_accepted :
    handleSyncRegister (peerEnv 130) peerRequest = .ok (.register peerKey peerPushUrl 130) := by
  rfl

theorem movedRequest_accepted :
    handleSyncRegister (peerEnv 230) movedRequest = .ok (.register peerKey movedPushUrl 230) := by
  rfl

def peerRegistrations : List Registration :=
  [⟨peerEnv 130, peerRequest⟩, ⟨peerEnv 230, movedRequest⟩]

/-- The node with the row of the peer at this URL. -/
def nodeWithPeer (url : String) (subscribers registering : List (String × String))
    (tasks : List PushTask) : PushNode where
  peers := [⟨peerKey, url, 130, none, 0⟩]
  subscribers := subscribers
  registering := registering
  tasks := tasks

/-- The peer moves while a delivery to its first URL waits for its answer, and the node restarts
before the new URL is in its push cache. -/
theorem peerRun_sample : PeerRun (fun _ => true) peerRegistrations
    (nodeWithPeer movedPushUrl [(peerKey, movedPushUrl)] []
      [⟨peerKey, peerPushUrl, .lost⟩]) := by
  have hfirst : PeerRun (fun _ => true) [⟨peerEnv 130, peerRequest⟩]
      (nodeWithPeer peerPushUrl [] [(peerKey, peerPushUrl)] []) :=
    .register (r := ⟨peerEnv 130, peerRequest⟩) .start peerRequest_accepted (by decide +kernel)
  have hcached : PeerRun (fun _ => true) [⟨peerEnv 130, peerRequest⟩]
      (nodeWithPeer peerPushUrl [(peerKey, peerPushUrl)] [] []) :=
    .other (a := .subscribe 0) hfirst (fun _ _ _ => nofun) (by decide +kernel)
  have hpushing : PeerRun (fun _ => true) [⟨peerEnv 130, peerRequest⟩]
      (nodeWithPeer peerPushUrl [(peerKey, peerPushUrl)] []
        [⟨peerKey, peerPushUrl, .sending 0⟩]) :=
    .other (a := .fanOut) hcached (fun _ _ _ => nofun) (by decide +kernel)
  have hmoved : PeerRun (fun _ => true) peerRegistrations
      (nodeWithPeer movedPushUrl [(peerKey, peerPushUrl)] [(peerKey, movedPushUrl)]
        [⟨peerKey, peerPushUrl, .sending 0⟩]) :=
    .register (r := ⟨peerEnv 230, movedRequest⟩) hpushing movedRequest_accepted (by decide +kernel)
  have hanswered : PeerRun (fun _ => true) peerRegistrations
      (nodeWithPeer movedPushUrl [(peerKey, peerPushUrl)] [(peerKey, movedPushUrl)]
        [⟨peerKey, peerPushUrl, .sending 1⟩]) :=
    .other (a := .answer 0 .sendError) hmoved (fun _ _ _ => nofun) (by decide +kernel)
  exact .other (a := .restart) hanswered (fun _ _ _ => nofun) (by decide +kernel)

theorem peerRun_vouched_sample :
    (∀ url ∈ [peerPushUrl, movedPushUrl], ∃ r ∈ peerRegistrations,
      r.req.nodePubkey = peerKey ∧ r.req.nodeUrl = url ∧ r.Vouched) ∧
      lastUrl peerRegistrations peerKey = some movedPushUrl := by
  obtain ⟨hknown, hrows⟩ := peerRun_vouched peerRun_sample
  refine ⟨fun url hurl => hknown peerKey url ?_, hrows _ (List.mem_singleton_self _)⟩
  rcases List.mem_pair.mp hurl with rfl | rfl
  · exact Or.inr (Or.inr (Or.inr ⟨_, List.mem_singleton_self _, rfl, rfl⟩))
  · exact Or.inl ⟨_, List.mem_singleton_self _, rfl, rfl⟩

end Stophammer
