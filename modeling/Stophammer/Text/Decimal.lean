import Stophammer.CheckedInt

/-!
# Decimal texts

The text of an integer in decimal digits, and the parser of a signed 64-bit integer.
-/

namespace Text.Decimal

def readNat (digits : List Char) : Option Nat :=
  if digits.isEmpty || !digits.all Char.isDigit then none
  else some (Nat.ofDigitChars 10 digits 0)

/-- Digits, with one sign in front of them or none. -/
def readInt : List Char → Option Int
  | '-' :: digits => (readNat digits).map Int.negOfNat
  | '+' :: digits => (readNat digits).map Int.ofNat
  | digits => (readNat digits).map Int.ofNat

/-- The integer of a text, when it is in the range of 64 bits. -/
def parse (text : String) : Option Int := (readInt text.toList).bind CheckedInt.ofInt

/-- The parser of an unsigned 64-bit integer. -/
def parseUnsigned (text : String) : Option Nat :=
  (match text.toList with
    | '+' :: digits => readNat digits
    | digits => readNat digits).filter (· < 2 ^ 64)

theorem readNat_toDigits (n : Nat) : readNat (Nat.toDigits 10 n) = some n := by
  have hdigits : (Nat.toDigits 10 n).all Char.isDigit = true :=
    List.all_eq_true.mpr fun _ hc => Nat.isDigit_of_mem_toDigits (by decide) (by decide) hc
  have hne : (Nat.toDigits 10 n).isEmpty = false := by simp
  rw [readNat, hdigits, hne, if_neg (by decide), Nat.ofDigitChars_ten_toDigits]

theorem readInt_toDigits (n : Nat) : readInt (Nat.toDigits 10 n) = some (n : Int) := by
  unfold readInt
  split
  · rename_i digits hsign
    have hdigit : ('-' : Char).isDigit = true :=
      Nat.isDigit_of_mem_toDigits (by decide) (by decide) (hsign ▸ List.mem_cons_self)
    exact absurd hdigit (by decide)
  · rename_i digits hsign
    have hdigit : ('+' : Char).isDigit = true :=
      Nat.isDigit_of_mem_toDigits (by decide) (by decide) (hsign ▸ List.mem_cons_self)
    exact absurd hdigit (by decide)
  · rw [readNat_toDigits]
    rfl

theorem readInt_toString (n : Int) : readInt (toString n).toList = some n := by
  cases n with
  | ofNat n =>
    have htext : (toString (Int.ofNat n)).toList = Nat.toDigits 10 n := by
      rw [← Nat.toList_repr]
      rfl
    rw [htext, readInt_toDigits]
    rfl
  | negSucc n =>
    have htext : (toString (Int.negSucc n)).toList = '-' :: Nat.toDigits 10 (n + 1) := by
      rw [← Nat.toList_repr]
      change ("-" ++ Nat.repr (n + 1)).toList = _
      rw [String.toList_append]
      rfl
    rw [htext, readInt, readNat_toDigits]
    rfl

theorem parse_toString {n : Int} (h : CheckedInt.InRange n) : parse (toString n) = some n := by
  rw [parse, readInt_toString, Option.bind_some, CheckedInt.ofInt, if_pos h]

theorem parseUnsigned_toString {n : Nat} (h : n < 2 ^ 64) : parseUnsigned (toString n) = some n := by
  have htext : (toString n).toList = Nat.toDigits 10 n := Nat.toList_repr
  have hread : (match Nat.toDigits 10 n with
      | '+' :: digits => readNat digits
      | digits => readNat digits) = some n := by
    split
    · rename_i digits hsign
      have hdigit : ('+' : Char).isDigit = true :=
        Nat.isDigit_of_mem_toDigits (by decide) (by decide) (hsign ▸ List.mem_cons_self)
      exact absurd hdigit (by decide)
    · exact readNat_toDigits n
  rw [parseUnsigned, htext, hread, Option.filter_some, decide_eq_true h]
  rfl

theorem toString_ne_empty (n : Int) : toString n ≠ "" := by
  intro h
  have hread := readInt_toString n
  rw [h] at hread
  cases hread

theorem mem_toString {n : Int} {c : Char} (h : c ∈ (toString n).toList) :
    c.isDigit = true ∨ c = '-' := by
  cases n with
  | ofNat n =>
    rw [show (toString (Int.ofNat n)).toList = (Nat.repr n).toList from rfl,
      Nat.toList_repr] at h
    exact .inl (Nat.isDigit_of_mem_toDigits (by decide) (by decide) h)
  | negSucc n =>
    rw [show (toString (Int.negSucc n)).toList = ("-" ++ Nat.repr (n + 1)).toList from rfl,
      String.toList_append, List.mem_append, Nat.toList_repr] at h
    rcases h with h | h
    · exact .inr (by simpa using h)
    · exact .inl (Nat.isDigit_of_mem_toDigits (by decide) (by decide) h)

end Text.Decimal
