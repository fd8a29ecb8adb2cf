import Mathlib.Data.List.Basic

/-!
# Bytes as base64

The URL-safe alphabet without padding.  A text that was written is read back as the same bytes,
and a text whose last digit holds other bits than zero is no text of bytes.
-/

namespace Text.Base64

def alphabet : List Char :=
  "ABCDEFGHIJKLMNOPQRSTUVWXYZabcdefghijklmnopqrstuvwxyz0123456789-_".toList

/-- The digit of `n < 64`. -/
def digit (n : Nat) : Char := alphabet.getD n 'A'

def value (c : Char) : Option Nat := alphabet.idxOf? c

/-- Three bytes are four digits. -/
def encode : List Nat → List Char
  | a :: b :: c :: rest =>
    digit (a / 4) :: digit (a % 4 * 16 + b / 16) :: digit (b % 16 * 4 + c / 64) ::
      digit (c % 64) :: encode rest
  | [a, b] => [digit (a / 4), digit (a % 4 * 16 + b / 16), digit (b % 16 * 4)]
  | [a] => [digit (a / 4), digit (a % 4 * 16)]
  | [] => []

def decode : List Char → Option (List Nat)
  | w :: x :: y :: z :: rest =>
    match value w, value x, value y, value z, decode rest with
    | some w, some x, some y, some z, some rest =>
      some ((w * 4 + x / 16) :: (x % 16 * 16 + y / 4) :: (y % 4 * 64 + z) :: rest)
    | _, _, _, _, _ => none
  | [w, x, y] =>
    match value w, value x, value y with
    | some w, some x, some y =>
      if y % 4 = 0 then some [w * 4 + x / 16, x % 16 * 16 + y / 4] else none
    | _, _, _ => none
  | [w, x] =>
    match value w, value x with
    | some w, some x => if x % 16 = 0 then some [w * 4 + x / 16] else none
    | _, _ => none
  | [_] => none
  | [] => some []

theorem value_digit {n : Nat} (hn : n < 64) : value (digit n) = some n := by
  have hall : ∀ m : Fin 64, value (digit m) = some m.val := by decide +kernel
  exact hall ⟨n, hn⟩

theorem decode_encode (bytes : List Nat) (hbytes : ∀ b ∈ bytes, b < 256) :
    decode (encode bytes) = some bytes := by
  induction bytes using encode.induct with
  | case1 a b c rest ih =>
    have ha := hbytes a (by simp)
    have hb := hbytes b (by simp)
    have hc := hbytes c (by simp)
    have hrest := ih fun b hb => hbytes b (by simp [hb])
    have hfirst : a / 4 * 4 + (a % 4 * 16 + b / 16) / 16 = a := by omega
    have hsecond : (a % 4 * 16 + b / 16) % 16 * 16 + (b % 16 * 4 + c / 64) / 4 = b := by omega
    have hthird : (b % 16 * 4 + c / 64) % 4 * 64 + c % 64 = c := by omega
    simp (disch := omega) only [encode, decode, value_digit, hrest, hfirst, hsecond, hthird]
  | case2 a b =>
    have ha := hbytes a (by simp)
    have hb := hbytes b (by simp)
    have hfirst : a / 4 * 4 + (a % 4 * 16 + b / 16) / 16 = a := by omega
    have hsecond : (a % 4 * 16 + b / 16) % 16 * 16 + b % 16 * 4 / 4 = b := by omega
    have hzero : b % 16 * 4 % 4 = 0 := by omega
    simp (disch := omega) only [encode, decode, value_digit, hfirst, hsecond, hzero, if_true]
  | case3 a =>
    have ha := hbytes a (by simp)
    have hfirst : a / 4 * 4 + a % 4 * 16 / 16 = a := by omega
    have hzero : a % 4 * 16 % 16 = 0 := by omega
    simp (disch := omega) only [encode, decode, value_digit, hfirst, hzero, if_true]
  | case4 => rw [encode, decode]

end Text.Base64
