import Stophammer.Text.Split

/-!
# FTS5 query texts

The tokens of an FTS5 query.  A string stands between two double quotes, and a doubled quote in it
is one quote.  Outside strings there are white space, barewords (the operators are among them) and
the marks of column filters, prefixes and groups.
-/

namespace Fts5

inductive Token where
  | string (text : List Char)
  | bareword (text : List Char)
  | mark (c : Char)
deriving DecidableEq, Repr

/-- Where the reader stands.  The text of an open token is reversed. -/
inductive Reading where
  | between
  | inString (text : List Char)
  | afterQuote (text : List Char)
  | inBareword (text : List Char)
deriving DecidableEq, Repr

def isSpace (c : Char) : Bool := c ∈ [' ', '\t', '\n', '\r']

def isMark (c : Char) : Bool := c ∈ ['(', ')', '{', '}', ':', ',', '+', '*', '-', '^']

def isBareword (c : Char) : Bool :=
  c.isAlphanum || c = '_' || c.toNat = 0x1A || 0x80 ≤ c.toNat

/-- The first character of a token, or white space.  No other character may stand there. -/
def start (c : Char) : Option (Reading × List Token) :=
  if isSpace c then some (.between, [])
  else if isMark c then some (.between, [.mark c])
  else if c = '"' then some (.inString [], [])
  else if isBareword c then some (.inBareword [c], [])
  else none

def step : Reading → Char → Option (Reading × List Token)
  | .between, c => start c
  | .inString text, c =>
    if c = '"' then some (.afterQuote text, []) else some (.inString (c :: text), [])
  | .afterQuote text, c =>
    -- a second quote is a quote of the string, anything else ends the string
    if c = '"' then some (.inString ('"' :: text), [])
    else (start c).map fun next => (next.1, .string text.reverse :: next.2)
  | .inBareword text, c =>
    if isBareword c then some (.inBareword (c :: text), [])
    else (start c).map fun next => (next.1, .bareword text.reverse :: next.2)

/-- The end of the query.  A string that is still open is an error. -/
def finish : Reading → Option (List Token)
  | .between => some []
  | .inString _ => none
  | .afterQuote text => some [.string text.reverse]
  | .inBareword text => some [.bareword text.reverse]

def tokensFrom : Reading → List Char → Option (List Token)
  | reading, [] => finish reading
  | reading, c :: cs =>
    (step reading c).bind fun next => (tokensFrom next.1 cs).map (next.2 ++ ·)

def tokens (query : List Char) : Option (List Token) := tokensFrom .between query

/-- Each quote of the text is doubled. -/
def double (text : List Char) : List Char :=
  text.flatMap fun c => if c = '"' then ['"', '"'] else [c]

/-- The text as a string of the grammar. -/
def quote (text : List Char) : List Char := '"' :: double text ++ ['"']

theorem double_cons (c : Char) (text : List Char) :
    double (c :: text) = (if c = '"' then ['"', '"'] else [c]) ++ double text := by
  simp [double]

theorem double_of_not_mem {text : List Char} (h : '"' ∉ text) : double text = text := by
  induction text with
  | nil => rfl
  | cons c text ih =>
    obtain ⟨hc, htext⟩ := List.ne_and_not_mem_of_not_mem_cons h
    rw [double_cons, if_neg hc.symm, ih htext, List.singleton_append]

theorem tokensFrom_char {reading next : Reading} {c : Char} {cs : List Char}
    (h : step reading c = some (next, [])) :
    tokensFrom reading (c :: cs) = tokensFrom next cs := by
  rw [tokensFrom, h, Option.bind_some]
  exact Option.map_id'

theorem tokensFrom_double (acc text cs : List Char) :
    tokensFrom (.inString acc) (double text ++ cs) =
      tokensFrom (.inString (text.reverse ++ acc)) cs := by
  induction text generalizing acc with
  | nil => rfl
  | cons c text ih =>
    have hnext : tokensFrom (.inString acc) (double (c :: text) ++ cs) =
        tokensFrom (.inString (c :: acc)) (double text ++ cs) := by
      rw [double_cons]
      by_cases hc : c = '"'
      · subst hc
        rw [if_pos rfl, List.cons_append, List.cons_append, List.cons_append, List.cons_append,
          List.nil_append, tokensFrom_char rfl, tokensFrom_char rfl]
      · have hstep : step (.inString acc) c = some (.inString (c :: acc), []) := if_neg hc
        rw [if_neg hc, List.cons_append, List.cons_append, List.nil_append, tokensFrom_char hstep]
    rw [hnext, ih, List.reverse_cons, List.append_assoc, List.singleton_append]

theorem tokensFrom_quote (text cs : List Char) :
    tokensFrom .between (quote text ++ cs) = tokensFrom (.afterQuote text.reverse) cs := by
  have hopen : tokensFrom .between (quote text ++ cs) =
      tokensFrom (.inString []) (double text ++ ('"' :: cs)) := by
    simp [quote, tokensFrom, step, start, isSpace, isMark]
  rw [hopen, tokensFrom_double, List.append_nil]
  simp [tokensFrom, step]

theorem tokens_join_quote (texts : List (List Char)) :
    tokens (Text.join [' '] (texts.map quote)) = some (texts.map .string) := by
  unfold tokens
  induction texts with
  | nil => rfl
  | cons text texts ih =>
    cases texts with
    | nil =>
      have hlast := tokensFrom_quote text []
      rw [List.append_nil] at hlast
      rw [List.map_singleton, Text.join, hlast]
      simp [tokensFrom, finish]
    | cons next texts =>
      have hspace : ∀ cs, tokensFrom (.afterQuote text.reverse) (' ' :: cs) =
          (tokensFrom .between cs).map (.string text :: ·) := by
        intro cs
        simp [tokensFrom, step, start, isSpace]
      rw [List.map_cons, List.map_cons, Text.join, List.append_assoc, tokensFrom_quote,
        List.singleton_append, hspace, ← List.map_cons, ih]
      rfl

example : tokens "\"a \"\"b\" \"c\"".toList = some [.string "a \"b".toList, .string ['c']] := by
  decide

end Fts5
