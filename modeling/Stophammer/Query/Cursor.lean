import Stophammer.Operator
import Stophammer.Text.Base64
import Stophammer.Text.Split

/-!
# Cursors

A cursor is the base64 of the keys of a row, joined by NUL.  It is read back as the same keys when
no key but the last holds a NUL.
-/

namespace Stophammer

def encodeCursor (value : String) : String :=
  String.ofList (Text.Base64.encode (value.toUTF8.data.toList.map UInt8.toNat))

def decodeCursor (cursor : String) : Except ApiError String :=
  match Text.Base64.decode cursor.toList with
  | none => .error (badRequest "invalid cursor")
  | some bytes =>
    match String.fromUTF8? ⟨(bytes.map UInt8.ofNat).toArray⟩ with
    | none => .error (badRequest "invalid cursor encoding")
    | some value => .ok value

/-- The most rows of a list answer. -/
def listLimitMax : Int := 200

def cappedLimit (limit : Option Int) : Nat := (max 1 (min (limit.getD 50) listLimitMax)).toNat

theorem cappedLimit_pos (limit : Option Int) : 0 < cappedLimit limit := by
  unfold cappedLimit
  omega

theorem decodeCursor_encode (value : String) : decodeCursor (encodeCursor value) = .ok value := by
  have hbytes : ∀ b ∈ value.toUTF8.data.toList.map UInt8.toNat, b < 256 := by
    intro b hb
    obtain ⟨byte, -, rfl⟩ := List.mem_map.mp hb
    exact byte.toNat_lt
  have hsame : (value.toUTF8.data.toList.map UInt8.toNat).map UInt8.ofNat =
      value.toUTF8.data.toList := by
    simp [Function.comp_def]
  have hread : String.fromUTF8? ⟨value.toUTF8.data⟩ = some value := by
    unfold String.fromUTF8?
    exact dif_pos value.isValidUTF8
  unfold decodeCursor encodeCursor
  rw [String.toList_ofList, Text.Base64.decode_encode _ hbytes]
  simp only [hsame, Array.toArray_toList, hread]

/-- The separator of the keys. -/
def nul : Char := '\x00'

/-- `splitn(n, '\0')`. -/
def splitKeys (n : Nat) (text : String) : List String :=
  (Text.splitn nul n text.toList).map String.ofList

def cursorText (first second : String) : String := first ++ "\x00" ++ second

theorem cursorText_toList (first second : String) :
    (cursorText first second).toList = first.toList ++ nul :: second.toList := by
  simp [cursorText, nul]

theorem splitKeys_one (text : String) : splitKeys 1 text = [text] := by
  rw [splitKeys, Text.splitn_one, List.map_singleton, String.ofList_toList]

theorem splitKeys_cursorText {first second : String} (h : nul ∉ first.toList) (n : Nat) :
    splitKeys (n + 2) (cursorText first second) = first :: splitKeys (n + 1) second := by
  rw [splitKeys, cursorText_toList, Text.splitn_sep h, List.map_cons, String.ofList_toList]
  rfl

theorem splitKeys_first {n : Nat} {text first : String} {keys : List String}
    (h : splitKeys (n + 2) text = first :: keys) : nul ∉ first.toList := by
  obtain ⟨part, parts, hparts, rfl, -⟩ := List.map_eq_cons_iff.mp h
  rw [String.toList_ofList]
  exact Text.splitn_first hparts

end Stophammer
