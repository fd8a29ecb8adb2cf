import Mathlib.Logic.Basic

/-!
# Text functions

The functions of the standard string type that the source uses, on code points.
-/

namespace Stophammer

/-- The Unicode property `White_Space`. -/
def isWhitespace (c : Char) : Bool :=
  let n := c.toNat
  (9 ≤ n && n ≤ 13) || n == 0x20 || n == 0x85 || n == 0xA0 || n == 0x1680 ||
    (0x2000 ≤ n && n ≤ 0x200A) || n == 0x2028 || n == 0x2029 || n == 0x202F || n == 0x205F ||
    n == 0x3000

def trimChars (cs : List Char) : List Char :=
  ((cs.dropWhile isWhitespace).reverse.dropWhile isWhitespace).reverse

def trim (s : String) : String := String.ofList (trimChars s.toList)

/-- The maximal runs of `cs` with no white space, after the run `acc` read so far. -/
def splitWords : List Char → List Char → List (List Char)
  | acc, [] => if acc = [] then [] else [acc.reverse]
  | acc, c :: cs =>
    if isWhitespace c then
      if acc = [] then splitWords [] cs else acc.reverse :: splitWords [] cs
    else splitWords (c :: acc) cs

def splitWhitespace (s : String) : List String := (splitWords [] s.toList).map String.ofList

def joinWith (sep : String) : List String → String
  | [] => ""
  | [w] => w
  | w :: ws => w ++ sep ++ joinWith sep ws

def toAsciiLower (c : Char) : Char :=
  if 'A' ≤ c ∧ c ≤ 'Z' then Char.ofNat (c.toNat + 32) else c

def toAsciiLowercase (s : String) : String := String.ofList (s.toList.map toAsciiLower)

def eqIgnoreAsciiCase (s t : String) : Bool :=
  s.toList.map toAsciiLower == t.toList.map toAsciiLower

def nonEmptyTrimmed (value : Option String) : Option String :=
  (value.map trim).filter (!·.isEmpty)

/-- The text after the first `://`, or the whole text. -/
def afterScheme (cs : List Char) : List Char := go cs
where
  go : List Char → List Char
    | ':' :: '/' :: '/' :: rest => rest
    | [] => cs
    | _ :: rest => go rest

def stripFinalSlash (cs : List Char) : List Char :=
  if cs.getLast? = some '/' then cs.dropLast else cs

/-- The digit of `n < 16`. -/
def hexDigit (n : Nat) : Char := if n < 10 then Char.ofNat (48 + n) else Char.ofNat (87 + n)

def jsonEscape (c : Char) : List Char :=
  if c = '"' then ['\\', '"']
  else if c = '\\' then ['\\', '\\']
  else if c.toNat = 8 then ['\\', 'b']
  else if c.toNat = 9 then ['\\', 't']
  else if c.toNat = 10 then ['\\', 'n']
  else if c.toNat = 12 then ['\\', 'f']
  else if c.toNat = 13 then ['\\', 'r']
  else if c.toNat < 32 then ['\\', 'u', '0', '0', hexDigit (c.toNat / 16), hexDigit (c.toNat % 16)]
  else [c]

def jsonString (s : String) : String :=
  String.ofList ('"' :: s.toList.flatMap jsonEscape ++ ['"'])

/-- The internal key of a track in the search and quality rows. -/
def canonicalTrackEntityId (feedGuid trackGuid : String) : String :=
  "[" ++ jsonString feedGuid ++ "," ++ jsonString trackGuid ++ "]"

/-- The longest prefix of at most `limit` bytes. -/
def truncateChars : Nat → List Char → List Char
  | _, [] => []
  | limit, c :: cs =>
    if c.utf8Size ≤ limit then c :: truncateChars (limit - c.utf8Size) cs else []

def maxFtsFieldBytes : Nat := 10000

def truncateFtsField (s : String) : String :=
  if s.utf8ByteSize ≤ maxFtsFieldBytes then s
  else String.ofList (truncateChars maxFtsFieldBytes s.toList)

def isMusic (rawMedium : Option String) : Bool := rawMedium.any (eqIgnoreAsciiCase · "music")

def isPublisher (rawMedium : Option String) : Bool :=
  rawMedium.any (eqIgnoreAsciiCase · "publisher")

def isMusicl (rawMedium : Option String) : Bool := rawMedium.any (eqIgnoreAsciiCase · "musicL")

def paymentExempt (rawMedium : Option String) : Bool := isPublisher rawMedium || isMusicl rawMedium

end Stophammer
