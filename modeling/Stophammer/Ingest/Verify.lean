import Stophammer.Ingest.Request
import Stophammer.Schema

/-!
# Verifier chain

The check of the crawl token, and the quality rules that run on a read-only snapshot
before the first write.
-/

namespace Stophammer

inductive VerifyResult where
  | pass
  | warn (message : String)
  | fail (message : String)
deriving DecidableEq

/-- What a verifier reads: the request, a snapshot of the database and the feed that is
stored at the canonical URL. -/
structure IngestContext where
  request : IngestFeedRequest
  db : Db
  existing : Option Feed

structure Verifier where
  name : String
  verify : IngestContext → VerifyResult

/-- The crawl token is not in the configurable list. -/
structure VerifierChain where
  crawlToken : String
  verifiers : List Verifier

/-- The text of a verifier with its name before it. -/
def Verifier.label (v : Verifier) (message : String) : String :=
  "[" ++ v.name ++ "] " ++ message

/-- The warnings of all verifiers, or the reason of the first failure. -/
def runVerifiers (ctx : IngestContext) : List Verifier → Except String (List String)
  | [] => .ok []
  | v :: vs =>
    match v.verify ctx with
    | .pass => runVerifiers ctx vs
    | .warn message => (runVerifiers ctx vs).map (v.label message :: ·)
    | .fail message => .error (v.label message)

def VerifierChain.run (chain : VerifierChain) (ctx : IngestContext) :
    Except String (List String) := runVerifiers ctx chain.verifiers

section

variable [Platform]

/-- The digests are compared, not the tokens. -/
def tokenMatches (provided expected : String) : Bool :=
  sha256Hex (.text provided) == sha256Hex (.text expected)

/-- The reason of the refusal, when the token does not match. -/
def VerifierChain.authenticate (chain : VerifierChain) (req : IngestFeedRequest) :
    Option String :=
  if tokenMatches req.crawlToken chain.crawlToken then none
  else some "[crawl_token] invalid crawl token"

end

def contentHashName : String := "content_hash"

def noChangeSentinel : String := "NO_CHANGE"

/-- The hash of the body that the URL gave at its last ingest. -/
def lastContentHash (d : Db) (feedUrl : String) : Option String :=
  ((d .feedCrawlCache).find? fun r : CrawlCacheRow => r.feedUrl == feedUrl).map
    CrawlCacheRow.contentHash

/-- A body that did not change is not read again.  A forced submission and a publisher feed
are. -/
def contentHashVerifier : Verifier where
  name := contentHashName
  verify ctx :=
    if ctx.request.forceReingest then .pass
    else if ctx.request.feedData.any fun feed => isPublisher feed.rawMedium then .pass
    else if lastContentHash ctx.db ctx.request.canonicalUrl == some ctx.request.contentHash then
      .fail noChangeSentinel
    else .pass

/-- The failure of the content-hash verifier is not a rejection. -/
def isNoChangeReason (reason : String) : Bool :=
  reason == "[" ++ contentHashName ++ "] " ++ noChangeSentinel

end Stophammer
