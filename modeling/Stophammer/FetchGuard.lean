import Stophammer.Net.Blocks
import Stophammer.Platform

/-!
# Guard of outgoing requests

The addresses to which a node makes requests, and the URLs that lead only to them.
-/

namespace Stophammer

open Net

inductive IpAddr where
  | v4 (a : BitVec 32)
  | v6 (a : BitVec 128)
deriving DecidableEq

/-- `octets()[i]`. -/
def octet (a : BitVec 32) (i : Nat) : BitVec 8 := a.extractLsb' (24 - 8 * i) 8

def isLoopback (a : BitVec 32) : Bool := octet a 0 == 127

def isPrivate (a : BitVec 32) : Bool :=
  octet a 0 == 10 || (octet a 0 == 172 && 16 ≤ octet a 1 && octet a 1 ≤ 31) ||
    (octet a 0 == 192 && octet a 1 == 168)

def isLinkLocal (a : BitVec 32) : Bool := octet a 0 == 169 && octet a 1 == 254

def isBroadcast (a : BitVec 32) : Bool := a == 0xffffffff

def isUnspecified (a : BitVec 32) : Bool := a == 0

def isMulticast (a : BitVec 32) : Bool := 224 ≤ octet a 0 && octet a 0 ≤ 239

def isDocumentation (a : BitVec 32) : Bool :=
  (octet a 0 == 192 && octet a 1 == 0 && octet a 2 == 2) ||
    (octet a 0 == 198 && octet a 1 == 51 && octet a 2 == 100) ||
    (octet a 0 == 203 && octet a 1 == 0 && octet a 2 == 113)

def isBenchmark (a : BitVec 32) : Bool := octet a 0 == 198 && (octet a 1 &&& 0xfe) == 18

def isCgnat (a : BitVec 32) : Bool := octet a 0 == 100 && (octet a 1 &&& 0xc0) == 64

def isPublicIpv4 (a : BitVec 32) : Bool :=
  !(isLoopback a || isPrivate a || isLinkLocal a || isBroadcast a || isUnspecified a ||
    isMulticast a || isDocumentation a || isBenchmark a || isCgnat a)

/-- `segments()[i]`. -/
def segment (a : BitVec 128) (i : Nat) : BitVec 16 := a.extractLsb' (112 - 16 * i) 16

/-- The IPv4 address in the last 32 bits. -/
def embeddedIpv4 (a : BitVec 128) : BitVec 32 := segment a 6 ++ segment a 7

def isPublicIpv6 (a : BitVec 128) : Bool :=
  if a == 0 || a == 1 then false
  else
    let s := segment a
    let isV4Mapped := s 0 == 0 && s 1 == 0 && s 2 == 0 && s 3 == 0 && s 4 == 0 && s 5 == 0xffff
    let isV4Compatible := s 0 == 0 && s 1 == 0 && s 2 == 0 && s 3 == 0 && s 4 == 0 && s 5 == 0
    let isNat64 :=
      s 0 == 0x0064 && s 1 == 0xff9b && s 2 == 0 && s 3 == 0 && s 4 == 0 && s 5 == 0
    if isV4Mapped || isV4Compatible || isNat64 then isPublicIpv4 (embeddedIpv4 a)
    else
      let ula := (s 0 &&& 0xfe00) == 0xfc00
      let linkLocal := (s 0 &&& 0xffc0) == 0xfe80
      let multicast := (s 0 &&& 0xff00) == 0xff00
      let documentation := s 0 == 0x2001 && s 1 == 0x0db8
      !(ula || linkLocal || multicast || documentation)

def isPublicIp : IpAddr → Bool
  | .v4 a => isPublicIpv4 a
  | .v6 a => isPublicIpv6 a

/-- The blocks of ADR 0054: loopback, private, link-local, broadcast, unspecified, multicast,
documentation, benchmark and CGNAT. -/
def refusedIpv4 : List (Block 32) :=
  [⟨0x7f000000, 8, by decide⟩, ⟨0x0a000000, 8, by decide⟩, ⟨0xac100000, 12, by decide⟩,
    ⟨0xc0a80000, 16, by decide⟩, ⟨0xa9fe0000, 16, by decide⟩, ⟨0xffffffff, 32, by decide⟩,
    ⟨0, 32, by decide⟩, ⟨0xe0000000, 4, by decide⟩, ⟨0xc0000200, 24, by decide⟩,
    ⟨0xc6336400, 24, by decide⟩, ⟨0xcb007100, 24, by decide⟩, ⟨0xc6120000, 15, by decide⟩,
    ⟨0x64400000, 10, by decide⟩]

/-- The prefixes of the IPv6 addresses that carry an IPv4 address: mapped, compatible and
NAT64. -/
def embeddingPrefixes : List (BitVec 96) := [0xffff, 0, 0x0064ff9b0000000000000000]

/-- The blocks of ADR 0054: unspecified, loopback, ULA, link-local, multicast and
documentation, and the refused IPv4 blocks behind each embedding prefix. -/
def refusedIpv6 : List (Block 128) :=
  [⟨0, 128, by decide⟩, ⟨1, 128, by decide⟩, ⟨0xfc00 <<< 112, 7, by decide⟩,
    ⟨0xfe80 <<< 112, 10, by decide⟩, ⟨0xff00 <<< 112, 8, by decide⟩,
    ⟨0x20010db8 <<< 96, 32, by decide⟩] ++
  embeddingPrefixes.flatMap fun leading => refusedIpv4.map (Block.behind leading)

def IpAddr.Refused : IpAddr → Prop
  | .v4 a => Block.InAny refusedIpv4 a
  | .v6 a => Block.InAny refusedIpv6 a

theorem octet_toNat (a : BitVec 32) {i : Nat} :
    (octet a i).toNat = a.toNat / 2 ^ (24 - 8 * i) % 256 := by
  rw [octet, BitVec.extractLsb'_toNat, Nat.shiftRight_eq_div_pow]

theorem segment_toNat (a : BitVec 128) {i : Nat} :
    (segment a i).toNat = a.toNat / 2 ^ (112 - 16 * i) % 65536 := by
  rw [segment, BitVec.extractLsb'_toNat, Nat.shiftRight_eq_div_pow]

theorem isLoopback_iff {a : BitVec 32} :
    isLoopback a = true ↔ Block.Contains ⟨0x7f000000, 8, by decide⟩ a := by
  simp [Block.contains_iff_range, isLoopback, BitVec.toNat_eq, octet_toNat, Block.first,
    Block.size]
  omega

theorem isPrivate_iff {a : BitVec 32} :
    isPrivate a = true ↔ Block.Contains ⟨0x0a000000, 8, by decide⟩ a ∨
      Block.Contains ⟨0xac100000, 12, by decide⟩ a ∨
      Block.Contains ⟨0xc0a80000, 16, by decide⟩ a := by
  simp [Block.contains_iff_range, isPrivate, BitVec.toNat_eq, BitVec.le_def, octet_toNat,
    Block.first, Block.size]
  omega

theorem isLinkLocal_iff {a : BitVec 32} :
    isLinkLocal a = true ↔ Block.Contains ⟨0xa9fe0000, 16, by decide⟩ a := by
  simp [Block.contains_iff_range, isLinkLocal, BitVec.toNat_eq, octet_toNat, Block.first,
    Block.size]
  omega

theorem isBroadcast_iff {a : BitVec 32} :
    isBroadcast a = true ↔ Block.Contains ⟨0xffffffff, 32, by decide⟩ a := by
  simp [Block.contains_iff_range, isBroadcast, BitVec.toNat_eq, Block.first, Block.size]
  omega

theorem isUnspecified_iff {a : BitVec 32} :
    isUnspecified a = true ↔ Block.Contains ⟨0, 32, by decide⟩ a := by
  simp [Block.contains_iff_range, isUnspecified, BitVec.toNat_eq, Block.first, Block.size]

theorem isMulticast_iff {a : BitVec 32} :
    isMulticast a = true ↔ Block.Contains ⟨0xe0000000, 4, by decide⟩ a := by
  simp [Block.contains_iff_range, isMulticast, BitVec.le_def, octet_toNat, Block.first,
    Block.size]
  omega

theorem isDocumentation_iff {a : BitVec 32} :
    isDocumentation a = true ↔ Block.Contains ⟨0xc0000200, 24, by decide⟩ a ∨
      Block.Contains ⟨0xc6336400, 24, by decide⟩ a ∨
      Block.Contains ⟨0xcb007100, 24, by decide⟩ a := by
  simp [Block.contains_iff_range, isDocumentation, BitVec.toNat_eq, octet_toNat, Block.first,
    Block.size]
  omega

theorem mask_eq_iff {w : Nat} {b : Block w} {o m v : BitVec w} (hm : b.mask = m)
    (hv : b.base &&& m = v) : (o &&& m == v) = true ↔ b.Contains o := by
  rw [Block.contains_iff_mask, beq_iff_eq, hm, hv]

theorem isBenchmark_iff {a : BitVec 32} :
    isBenchmark a = true ↔ Block.Contains ⟨0xc6120000, 15, by decide⟩ a := by
  have hmask := mask_eq_iff (b := ⟨18, 7, by decide⟩) (o := octet a 1) (m := 0xfe) (v := 18)
    (by decide) (by decide)
  rw [isBenchmark, Bool.and_eq_true, hmask]
  simp [Block.contains_iff_range, BitVec.toNat_eq, octet_toNat, Block.first, Block.size]
  omega

theorem isCgnat_iff {a : BitVec 32} :
    isCgnat a = true ↔ Block.Contains ⟨0x64400000, 10, by decide⟩ a := by
  have hmask := mask_eq_iff (b := ⟨64, 2, by decide⟩) (o := octet a 1) (m := 0xc0) (v := 64)
    (by decide) (by decide)
  rw [isCgnat, Bool.and_eq_true, hmask]
  simp [Block.contains_iff_range, BitVec.toNat_eq, octet_toNat, Block.first, Block.size]
  omega

theorem isPublicIpv4_iff {a : BitVec 32} :
    isPublicIpv4 a = true ↔ ¬ Block.InAny refusedIpv4 a := by
  rw [isPublicIpv4, Bool.not_eq_true', ← Bool.not_eq_true]
  simp only [Bool.or_eq_true, isLoopback_iff, isPrivate_iff, isLinkLocal_iff, isBroadcast_iff,
    isUnspecified_iff, isMulticast_iff, isDocumentation_iff, isBenchmark_iff, isCgnat_iff,
    refusedIpv4, Block.inAny_cons, Block.inAny_nil, or_false, or_assoc]

theorem embeddedIpv4_eq (a : BitVec 128) : embeddedIpv4 a = a.setWidth 32 := by
  apply BitVec.eq_of_getLsbD_eq
  intro i hi
  simp only [embeddedIpv4, segment, BitVec.getLsbD_append, BitVec.getLsbD_extractLsb',
    BitVec.getLsbD_setWidth, hi, decide_true, Bool.true_and]
  by_cases hlow : i < 16
  · simp [hlow]
  · have hdiff : i - 16 < 16 := by omega
    have hplace : 16 + (i - 16) = i := by omega
    simp [hlow, hdiff, hplace]

theorem leading_iff {a : BitVec 128} {p : BitVec 96} :
    a.extractLsb' 32 96 = p ↔
      segment a 0 = p.extractLsb' 80 16 ∧ segment a 1 = p.extractLsb' 64 16 ∧
      segment a 2 = p.extractLsb' 48 16 ∧ segment a 3 = p.extractLsb' 32 16 ∧
      segment a 4 = p.extractLsb' 16 16 ∧ segment a 5 = p.extractLsb' 0 16 := by
  simp only [BitVec.toNat_eq, segment_toNat, BitVec.extractLsb'_toNat, Nat.shiftRight_eq_div_pow]
  have hp := p.isLt
  have ha := a.isLt
  omega

theorem isUla_iff {a : BitVec 128} :
    (segment a 0 &&& 0xfe00 == 0xfc00) = true ↔
      Block.Contains ⟨0xfc00 <<< 112, 7, by decide⟩ a := by
  rw [mask_eq_iff (b := ⟨0xfc00, 7, by decide⟩) (by decide) (by decide)]
  simp [Block.contains_iff_range, segment_toNat, Block.first, Block.size]
  omega

theorem isUnicastLinkLocal_iff {a : BitVec 128} :
    (segment a 0 &&& 0xffc0 == 0xfe80) = true ↔
      Block.Contains ⟨0xfe80 <<< 112, 10, by decide⟩ a := by
  rw [mask_eq_iff (b := ⟨0xfe80, 10, by decide⟩) (by decide) (by decide)]
  simp [Block.contains_iff_range, segment_toNat, Block.first, Block.size]
  omega

theorem isMulticastIpv6_iff {a : BitVec 128} :
    (segment a 0 &&& 0xff00 == 0xff00) = true ↔
      Block.Contains ⟨0xff00 <<< 112, 8, by decide⟩ a := by
  rw [mask_eq_iff (b := ⟨0xff00, 8, by decide⟩) (by decide) (by decide)]
  simp [Block.contains_iff_range, segment_toNat, Block.first, Block.size]
  omega

theorem isDocumentationIpv6_iff {a : BitVec 128} :
    (segment a 0 == 0x2001 && segment a 1 == 0x0db8) = true ↔
      Block.Contains ⟨0x20010db8 <<< 96, 32, by decide⟩ a := by
  simp [Block.contains_iff_range, BitVec.toNat_eq, segment_toNat, Block.first, Block.size]
  omega

theorem single_contains {v a : BitVec 128} : Block.Contains ⟨v, 128, by decide⟩ a ↔ a = v := by
  rw [Block.Contains, Nat.sub_self, BitVec.ushiftRight_zero, BitVec.ushiftRight_zero]

theorem inAny_refusedIpv6 {a : BitVec 128} :
    Block.InAny refusedIpv6 a ↔
      (a = 0 ∨ a = 1 ∨
        (segment a 0 &&& 0xfe00 == 0xfc00) = true ∨
        (segment a 0 &&& 0xffc0 == 0xfe80) = true ∨
        (segment a 0 &&& 0xff00 == 0xff00) = true ∨
        (segment a 0 == 0x2001 && segment a 1 == 0x0db8) = true) ∨
      a.extractLsb' 32 96 ∈ embeddingPrefixes ∧ Block.InAny refusedIpv4 (a.setWidth 32) := by
  have hbehind : ∀ leading : BitVec 96, Block.InAny (refusedIpv4.map (Block.behind leading)) a ↔
      a.extractLsb' 32 96 = leading ∧ Block.InAny refusedIpv4 (a.setWidth 32) :=
    fun leading => Block.inAny_behind
  rw [isUla_iff, isUnicastLinkLocal_iff, isMulticastIpv6_iff, isDocumentationIpv6_iff]
  simp only [refusedIpv6, embeddingPrefixes, List.flatMap_cons, List.flatMap_nil,
    List.append_nil, Block.inAny_append, Block.inAny_cons, Block.inAny_nil, or_false,
    single_contains, hbehind, List.mem_cons, List.not_mem_nil, or_and_right]

theorem embedding_iff {a : BitVec 128} :
    (segment a 0 == 0 && segment a 1 == 0 && segment a 2 == 0 && segment a 3 == 0 &&
        segment a 4 == 0 && segment a 5 == 0xffff ||
      segment a 0 == 0 && segment a 1 == 0 && segment a 2 == 0 && segment a 3 == 0 &&
        segment a 4 == 0 && segment a 5 == 0 ||
      segment a 0 == 0x0064 && segment a 1 == 0xff9b && segment a 2 == 0 && segment a 3 == 0 &&
        segment a 4 == 0 && segment a 5 == 0) = true ↔
      a.extractLsb' 32 96 ∈ embeddingPrefixes := by
  have hmapped : a.extractLsb' 32 96 = 0xffff ↔ segment a 0 = 0 ∧ segment a 1 = 0 ∧
      segment a 2 = 0 ∧ segment a 3 = 0 ∧ segment a 4 = 0 ∧ segment a 5 = 0xffff := leading_iff
  have hcompatible : a.extractLsb' 32 96 = 0 ↔ segment a 0 = 0 ∧ segment a 1 = 0 ∧
      segment a 2 = 0 ∧ segment a 3 = 0 ∧ segment a 4 = 0 ∧ segment a 5 = 0 := leading_iff
  have hnat64 : a.extractLsb' 32 96 = 0x0064ff9b0000000000000000 ↔ segment a 0 = 0x0064 ∧
      segment a 1 = 0xff9b ∧ segment a 2 = 0 ∧ segment a 3 = 0 ∧ segment a 4 = 0 ∧
      segment a 5 = 0 := leading_iff
  simp only [embeddingPrefixes, List.mem_cons, List.not_mem_nil, or_false, hmapped, hcompatible,
    hnat64, Bool.or_eq_true, Bool.and_eq_true, beq_iff_eq, and_assoc, or_assoc]

theorem embedding_segment {a : BitVec 128} (h : a.extractLsb' 32 96 ∈ embeddingPrefixes) :
    segment a 0 = 0 ∨ segment a 0 = 0x0064 := by
  simp only [embeddingPrefixes, List.mem_cons, List.not_mem_nil, or_false] at h
  rcases h with h | h | h
  · exact Or.inl (leading_iff.mp h).1
  · exact Or.inl (leading_iff.mp h).1
  · exact Or.inr (leading_iff.mp h).1

theorem isPublicIpv6_iff {a : BitVec 128} :
    isPublicIpv6 a = true ↔ ¬ Block.InAny refusedIpv6 a := by
  rw [inAny_refusedIpv6, isPublicIpv6]
  dsimp only
  by_cases hsingle : (a == 0 || a == 1) = true
  · rw [if_pos hsingle]
    simp only [Bool.or_eq_true, beq_iff_eq] at hsingle
    rcases hsingle with rfl | rfl <;> simp
  rw [if_neg hsingle]
  simp only [Bool.or_eq_true, beq_iff_eq] at hsingle
  obtain ⟨hzero, hone⟩ := not_or.mp hsingle
  by_cases hembed : a.extractLsb' 32 96 ∈ embeddingPrefixes
  · have hother : ¬ ((segment a 0 &&& 0xfe00 == 0xfc00) = true ∨
        (segment a 0 &&& 0xffc0 == 0xfe80) = true ∨
        (segment a 0 &&& 0xff00 == 0xff00) = true ∨
        (segment a 0 == 0x2001 && segment a 1 == 0x0db8) = true) := by
      rcases embedding_segment hembed with h | h <;> rw [h] <;> simp
    rw [if_pos (embedding_iff.mpr hembed), isPublicIpv4_iff, embeddedIpv4_eq]
    simp only [hzero, hone, hother, hembed, false_or, true_and]
  · rw [if_neg (mt embedding_iff.mp hembed), Bool.not_eq_true', ← Bool.not_eq_true]
    simp only [hzero, hone, hembed, false_or, false_and, or_false, Bool.or_eq_true, or_assoc]

theorem isPublicIp_iff (ip : IpAddr) : isPublicIp ip = true ↔ ¬ ip.Refused := by
  cases ip with
  | v4 a => exact isPublicIpv4_iff
  | v6 a => exact isPublicIpv6_iff

/-- A URL as the parser reads it.  `port` is `port_or_known_default`. -/
structure Url where
  scheme : String
  username : String
  password : Option String
  host : Option String
  port : Option Nat
  path : String
  query : Option String
  fragment : Option String
deriving DecidableEq

structure SocketAddr where
  ip : IpAddr
  port : Nat
deriving DecidableEq

/-- The URL parser and the text form of addresses. -/
class UrlParser where
  parse : String → Except String Url
  text : Url → String
  /-- The path as `set_path` stores it. -/
  encodePath : String → String
  parseIp : String → Option IpAddr
  ipText : IpAddr → String

/-- `to_socket_addrs` at one moment. -/
abbrev Resolver : Type := String → Except String (List SocketAddr)

/-- `set_path`, `set_query(None)` and `set_fragment(None)`. -/
def Url.withPath [UrlParser] (url : Url) (path : String) : Url :=
  { url with path := UrlParser.encodePath path, query := none, fragment := none }

/-- The text of a parsed URL with another path reads back as that URL. -/
class LawfulUrlParser [UrlParser] : Prop where
  parse_text : ∀ {text : String} {url : Url} (path : String), UrlParser.parse text = .ok url →
    UrlParser.parse (UrlParser.text (url.withPath path)) = .ok (url.withPath path)

def isPrivateIp (ip : IpAddr) : Bool := !isPublicIp ip

theorem not_isPrivateIp {ip : IpAddr} : isPrivateIp ip = false ↔ ¬ ip.Refused := by
  rw [isPrivateIp, Bool.not_eq_false', isPublicIp_iff]

section

variable [UrlParser]

def Url.socketText (url : Url) (host : String) : String :=
  host ++ ":" ++ toString (url.port.getD 443)

def isUrlSsrfSafe (resolve : Resolver) (url : Url) : Bool :=
  if !isWebScheme url.scheme then false
  else if !url.username.isEmpty || url.password.isSome then false
  else
    match url.host with
    | none => false
    | some host =>
      match UrlParser.parseIp host with
      | some ip => !isPrivateIp ip
      | none =>
        match resolve (url.socketText host) with
        | .error _ => false
        | .ok addrs => !addrs.isEmpty && !addrs.any fun addr => isPrivateIp addr.ip

/-- The host and the addresses that the client may connect to. -/
def resolveAndValidateUrl (resolve : Resolver) (url : Url) :
    Except String (String × List SocketAddr) :=
  if !isWebScheme url.scheme then .error ("disallowed URL scheme: " ++ url.scheme)
  else
    match url.host with
    | none => .error "URL has no host"
    | some host =>
      match UrlParser.parseIp host with
      | some ip =>
        if isPrivateIp ip then
          .error ("URL targets a private/reserved IP: " ++ UrlParser.ipText ip)
        else .ok (host, [⟨ip, url.port.getD 443⟩])
      | none =>
        match resolve (url.socketText host) with
        | .error e => .error ("DNS resolution failed for " ++ host ++ ": " ++ e)
        | .ok addrs =>
          if addrs.isEmpty then .error ("DNS resolution returned no addresses for " ++ host)
          else
            match addrs.find? fun addr => isPrivateIp addr.ip with
            | some addr =>
              .error ("URL hostname resolves to private/reserved IP: " ++
                UrlParser.ipText addr.ip)
            | none => .ok (host, addrs)

def validateNodeUrl (resolve : Resolver) (nodeUrl : String) : Except String Unit :=
  match UrlParser.parse nodeUrl with
  | .error e => .error ("invalid node URL: " ++ e)
  | .ok url =>
    if !isUrlSsrfSafe resolve url then
      .error ("node URL rejected: targets a private/reserved address or uses a disallowed " ++
        "scheme: " ++ nodeUrl)
    else .ok ()

/-- Where the host of a URL leads: the address it names, or those that the resolver gives. -/
def Url.addresses (resolve : Resolver) (url : Url) (host : String) : List SocketAddr :=
  match UrlParser.parseIp host with
  | some ip => [⟨ip, url.port.getD 443⟩]
  | none => (resolve (url.socketText host)).toOption.getD []

/-- A web URL without a user that leads to public addresses only. -/
structure Url.LeadsOut (resolve : Resolver) (url : Url) : Prop where
  scheme : isWebScheme url.scheme = true
  username : url.username = ""
  password : url.password = none
  addresses : ∃ host, url.host = some host ∧ url.addresses resolve host ≠ [] ∧
    ∀ addr ∈ url.addresses resolve host, ¬ addr.ip.Refused

theorem hostCheck_iff {resolve : Resolver} {url : Url} {host : String} :
    (match UrlParser.parseIp host with
      | some ip => !isPrivateIp ip
      | none =>
        match resolve (url.socketText host) with
        | .error _ => false
        | .ok addrs => !addrs.isEmpty && !addrs.any fun addr => isPrivateIp addr.ip) = true ↔
      url.addresses resolve host ≠ [] ∧
        ∀ addr ∈ url.addresses resolve host, ¬ addr.ip.Refused := by
  unfold Url.addresses
  cases UrlParser.parseIp host with
  | some ip => simp [not_isPrivateIp]
  | none =>
    dsimp only
    cases resolve (url.socketText host) with
    | error e => simp [Except.toOption]
    | ok addrs => simp [Except.toOption, not_isPrivateIp]

theorem leadsOut_of_isUrlSsrfSafe {resolve : Resolver} {url : Url}
    (h : isUrlSsrfSafe resolve url = true) : url.LeadsOut resolve := by
  unfold isUrlSsrfSafe at h
  split at h
  · cases h
  rename_i hscheme
  split at h
  · cases h
  rename_i huser
  rw [Bool.not_eq_true, Bool.not_eq_false'] at hscheme
  simp only [Bool.or_eq_true, Bool.not_eq_true', not_or, Bool.not_eq_false,
    Option.isSome_iff_ne_none, ne_eq, not_not, String.isEmpty_iff] at huser
  refine ⟨hscheme, huser.1, huser.2, ?_⟩
  cases hhost : url.host with
  | none =>
    rw [hhost] at h
    cases h
  | some host =>
    rw [hhost] at h
    exact ⟨host, rfl, hostCheck_iff.mp h⟩

theorem isUrlSsrfSafe_of_leadsOut {resolve : Resolver} {url : Url} (h : url.LeadsOut resolve) :
    isUrlSsrfSafe resolve url = true := by
  obtain ⟨hscheme, huser, hpassword, host, hhost, hpublic⟩ := h
  have hname : "".isEmpty = true := rfl
  unfold isUrlSsrfSafe
  rw [hscheme, huser, hpassword, hhost, hname]
  exact hostCheck_iff.mpr hpublic

/-- The guard lets through the web URLs without a user whose host leads outside the refused
blocks only. -/
theorem isUrlSsrfSafe_iff (resolve : Resolver) (url : Url) :
    isUrlSsrfSafe resolve url = true ↔ url.LeadsOut resolve :=
  ⟨leadsOut_of_isUrlSsrfSafe, isUrlSsrfSafe_of_leadsOut⟩

theorem resolveAndValidateUrl_ok {resolve : Resolver} {url : Url} {host : String}
    {addrs : List SocketAddr} (h : resolveAndValidateUrl resolve url = .ok (host, addrs)) :
    url.host = some host ∧ addrs = url.addresses resolve host ∧ addrs ≠ [] ∧
      ∀ addr ∈ addrs, ¬ addr.ip.Refused := by
  unfold resolveAndValidateUrl at h
  split at h
  · cases h
  cases hhost : url.host with
  | none =>
    rw [hhost] at h
    cases h
  | some named =>
    rw [hhost] at h
    dsimp only at h
    cases hip : UrlParser.parseIp named with
    | some ip =>
      rw [hip] at h
      dsimp only at h
      split at h
      · cases h
      rename_i hprivate
      obtain ⟨rfl, rfl⟩ := Prod.mk.inj (Except.ok.inj h)
      rw [Bool.not_eq_true, not_isPrivateIp] at hprivate
      refine ⟨rfl, ?_, List.cons_ne_nil _ _, by simpa using hprivate⟩
      rw [Url.addresses, hip]
    | none =>
      rw [hip] at h
      dsimp only at h
      cases haddrs : resolve (url.socketText named) with
      | error e =>
        rw [haddrs] at h
        cases h
      | ok found =>
        rw [haddrs] at h
        dsimp only at h
        split at h
        · cases h
        rename_i hempty
        split at h
        · cases h
        rename_i hnone
        obtain ⟨rfl, rfl⟩ := Prod.mk.inj (Except.ok.inj h)
        refine ⟨rfl, ?_, by simpa using hempty, ?_⟩
        · rw [Url.addresses, hip, haddrs]
          rfl
        · intro addr haddr
          have hpublic := List.find?_eq_none.mp hnone addr haddr
          rwa [Bool.not_eq_true, not_isPrivateIp] at hpublic

theorem validateNodeUrl_ok {resolve : Resolver} {nodeUrl : String}
    (h : validateNodeUrl resolve nodeUrl = .ok ()) :
    ∃ url, UrlParser.parse nodeUrl = .ok url ∧ url.LeadsOut resolve := by
  unfold validateNodeUrl at h
  cases hparse : UrlParser.parse nodeUrl with
  | error e =>
    rw [hparse] at h
    cases h
  | ok url =>
    rw [hparse] at h
    dsimp only at h
    split at h
    · cases h
    · rename_i hsafe
      rw [Bool.not_eq_true, Bool.not_eq_false'] at hsafe
      exact ⟨url, rfl, leadsOut_of_isUrlSsrfSafe hsafe⟩

end

end Stophammer
