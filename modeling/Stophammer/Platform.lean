import Stophammer.Event
import Stophammer.Text

/-!
# What the code takes from outside

The functions of libraries that are not part of the repository: JSON, SHA-256 and
Ed25519, the URL parser, the Unicode case table and SipHash.  The laws that a
result needs are stated beside it.
-/

namespace Stophammer

/-- What is hashed: a text, or the serialized parts of a copy summary. -/
inductive DigestInput where
  | text (value : String)
  | summary (itemGuids : List String) (feedRecipients : List RouteRecipient)
      (trackRecipients : List (String × List RouteRecipient))
  | remoteItems (entries : List CopyRemoteItem)
deriving DecidableEq

class Platform where
  /-- `serde_json::to_string` of the struct inside the payload. -/
  encodePayload : EventPayload → String
  /-- `serde_json::from_str` of the payload text tagged with the event type. -/
  decodeTyped : EventType → String → Option TypedPayload
  /-- Whether the text alone is JSON for SQLite. -/
  jsonValid : String → Bool
  /-- The double that the JSON parser reads from the text of a double. -/
  reparse : Double → Double
  /-- Ed25519 over the SHA-256 of the JSON: key, payload and signature in hex. -/
  verifySignature : String → EventSigningPayload → String → Bool
  sha256Hex : DigestInput → String
  uuidV5 : String → String
  /-- The host that the URL parser reads. -/
  urlHost : String → Option String
  /-- The scheme that the URL parser reads, when it accepts the text. -/
  urlScheme : String → Option String
  toLowercase : String → String
  rowidFor : String → String → Int
  /-- The place of a row with this text in a scan whose order no query names. -/
  scanRank : String → Nat

export Platform (sha256Hex uuidV5 urlHost urlScheme toLowercase rowidFor reparse scanRank)

/-- The payload of a text, without the `id`s of its rows. -/
def Platform.decodePayload [Platform] (eventType : EventType) (text : String) :
    Option EventPayload :=
  (Platform.decodeTyped eventType text).map TypedPayload.payload

structure NodeSigner where
  pubkeyHex : String
  sign : EventSigningPayload → String

section

variable [Platform]

/-- The signatures of the key verify under it. -/
def NodeSigner.Sound (signer : NodeSigner) : Prop :=
  ∀ p, Platform.verifySignature signer.pubkeyHex p (signer.sign p)

def verifyEventSignature (ev : Event) : Bool :=
  !ev.payloadJson.isEmpty &&
    Platform.verifySignature ev.signedBy ev.signingPayload ev.signature

/-- The payload of the signed text.  The typed `payload` is not read. -/
def deserializeVerifiedPayload (ev : Event) : Option EventPayload :=
  Platform.decodePayload ev.eventType ev.payloadJson

def sortKey (text : String) : String := toLowercase (joinWith " " (splitWhitespace text))

def trimEndDots (s : String) : String :=
  String.ofList (s.toList.reverse.dropWhile (· == '.')).reverse

def feedHostOf (feedUrl : String) : String :=
  match urlHost feedUrl with
  | some host => trimEndDots (toLowercase host)
  | none => ""

/-- The UUIDv5 of the URL without its scheme and one slash at its end. -/
def guidOriginMatches (feedGuid url : String) : Bool :=
  eqIgnoreAsciiCase (uuidV5 (String.ofList (stripFinalSlash (afterScheme url.toList)))) feedGuid

def isWebScheme (scheme : String) : Bool := scheme == "http" || scheme == "https"

def webUrlOrNone (value : Option String) : Option String :=
  value.filter fun raw => (urlScheme raw).any isWebScheme

def FeedBlockKind.normalize : FeedBlockKind → String → String
  | .guid, value => toLowercase (trim value)
  | .url, value => trim value

end
end Stophammer
