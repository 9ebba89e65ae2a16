import Mathlib.Data.List.Basic

/-!
# SQL text as the table builder writes it

`Table` assembles its statements in a `strings.Builder`: text the code writes itself
(`" WHERE "`, `" OR "`, `"NOT ("`), names the caller handed over (the table, a join, a column)
and the condition strings given to `Where`, `OrWhere` and `NotWhere`. A `Text` keeps those
pieces apart, and `Text.render` is the string the builder returns.

The meaning of a WHERE clause is read off the pieces: the code's own text is lexed into SQL
tokens, and every caller's condition is one opaque atom. That is the reading the code's
parenthesisation is judged by: conditions are black boxes, and only the connectives the code
writes between them count.

**The law** the reading follows is SQL's: `NOT` binds tighter than `AND`, `AND` tighter than
`OR`, and both connectives associate to the left.
-/

namespace Xlorm

/-- A piece of statement text: SQL the code writes or pastes in as a name, or a caller's
condition. -/
inductive Piece where
  | sql (s : String)
  | cond (s : String)
  deriving Repr, DecidableEq

/-- Statement text, piece by piece. -/
abbrev Text := List Piece

/-- The characters of a piece. -/
def Piece.render : Piece → String
  | .sql s => s
  | .cond s => s

/-- The string the builder returns. -/
def Text.render : Text → String
  | [] => ""
  | p :: t => p.render ++ Text.render t

/-- A text that starts with some code's own text is not empty. -/
theorem Text.render_sql_cons_ne_empty {s : String} (hs : s ≠ "") (w : Text) :
    Text.render (.sql s :: w) ≠ "" := by
  intro h
  apply hs
  have := congrArg String.length h
  rw [Text.render, Piece.render, String.length_append, String.length_empty] at this
  obtain ⟨l⟩ := s
  cases l with
  | nil => rfl
  | cons c l => exact absurd this (by rw [String.length_mk, List.length_cons]; omega)

/-- Texts joined by one separator piece, one join at a time. -/
theorem intercalate_cons_cons (sep : Piece) (w v : Text) (ws : List Text) :
    List.intercalate [sep] (w :: v :: ws) = w ++ sep :: List.intercalate [sep] (v :: ws) := by
  simp [List.intercalate]

/-- A piece of joined texts is the separator or a piece of one of them. -/
theorem mem_intercalate {sep p : Piece} {ws : List Text} (hp : p ∈ List.intercalate [sep] ws) :
    p = sep ∨ ∃ w ∈ ws, p ∈ w := by
  match ws, hp with
  | [w], hp => exact .inr ⟨w, by simp, by simpa [List.intercalate] using hp⟩
  | w :: v :: ws, hp =>
    rw [intercalate_cons_cons] at hp
    rcases List.mem_append.mp hp with hp | hp
    · exact .inr ⟨w, by simp, hp⟩
    · rcases List.mem_cons.mp hp with rfl | hp
      · exact .inl rfl
      · rcases mem_intercalate hp with h | ⟨u, hu, hpu⟩
        · exact .inl h
        · exact .inr ⟨u, List.mem_cons_of_mem _ hu, hpu⟩

/-! ## Tokens -/

/-- A token of a WHERE clause. -/
inductive Token where
  | lparen
  | rparen
  | kwAnd
  | kwOr
  | kwNot
  | kwWhere
  | word (w : String)
  | atom (c : String)
  deriving Repr, DecidableEq

/-- A word of the code's text: a keyword, or some other word. -/
def keyword (w : String) : Token :=
  if w = "AND" then .kwAnd
  else if w = "OR" then .kwOr
  else if w = "NOT" then .kwNot
  else if w = "WHERE" then .kwWhere
  else .word w

/-- The word collected so far (reversed), as at most one token. -/
def flushWord (acc : List Char) : List Token :=
  if acc = [] then [] else [keyword (String.mk acc.reverse)]

/-- Lex the code's own text: words run between blanks and parentheses. -/
def lexChars : List Char → List Char → List Token
  | [], acc => flushWord acc
  | c :: cs, acc =>
    if c = ' ' then flushWord acc ++ lexChars cs []
    else if c = '(' then flushWord acc ++ .lparen :: lexChars cs []
    else if c = ')' then flushWord acc ++ .rparen :: lexChars cs []
    else lexChars cs (c :: acc)

/-- The tokens of a piece: the code's text lexed, a caller's condition one atom. -/
def Piece.tokens : Piece → List Token
  | .sql s => lexChars s.toList []
  | .cond c => [.atom c]

/-- The tokens of a text. -/
def Text.tokens (t : Text) : List Token := t.flatMap Piece.tokens

/-! ## Conditions and their parser -/

/-- A boolean combination of opaque conditions. -/
inductive Cond where
  | atom (c : String)
  | not (e : Cond)
  | and (a b : Cond)
  | or (a b : Cond)
  deriving Repr, DecidableEq

/-- The truth of a combination under an assignment to the opaque conditions. -/
def Cond.eval (σ : String → Bool) : Cond → Bool
  | .atom c => σ c
  | .not e => !e.eval σ
  | .and a b => a.eval σ && b.eval σ
  | .or a b => a.eval σ || b.eval σ

/-- Where the precedence parser stands: an OR-chain, the rest of an OR-chain after its left
operand, an AND-chain and its rest, a negation, a primary. -/
inductive Level where
  | disj
  | disjRest (a : Cond)
  | conj
  | conjRest (a : Cond)
  | neg
  | prim

/-- Precedence climbing over tokens, with fuel: the condition parsed at a level and the tokens
after it. -/
def parseCond : Nat → Level → List Token → Option (Cond × List Token)
  | 0, _, _ => none
  | n + 1, .disj, ts =>
    (parseCond n .conj ts).bind fun (a, r) => parseCond n (.disjRest a) r
  | n + 1, .disjRest a, .kwOr :: ts =>
    (parseCond n .conj ts).bind fun (b, r) => parseCond n (.disjRest (.or a b)) r
  | _ + 1, .disjRest a, ts => some (a, ts)
  | n + 1, .conj, ts =>
    (parseCond n .neg ts).bind fun (a, r) => parseCond n (.conjRest a) r
  | n + 1, .conjRest a, .kwAnd :: ts =>
    (parseCond n .neg ts).bind fun (b, r) => parseCond n (.conjRest (.and a b)) r
  | _ + 1, .conjRest a, ts => some (a, ts)
  | n + 1, .neg, .kwNot :: ts => (parseCond n .neg ts).map fun (e, r) => (.not e, r)
  | n + 1, .neg, ts => parseCond n .prim ts
  | n + 1, .prim, .lparen :: ts =>
    match parseCond n .disj ts with
    | some (e, .rparen :: r) => some (e, r)
    | _ => none
  | _ + 1, .prim, .atom c :: ts => some (.atom c, ts)
  | _ + 1, .prim, _ => none

/-- The condition a WHERE clause denotes: an optional leading `WHERE`, then one expression that
takes every remaining token. -/
def Text.whereCond (w : Text) : Option Cond :=
  let ts := match w.tokens with
    | .kwWhere :: ts => ts
    | ts => ts
  match parseCond (4 * ts.length + 4) .disj ts with
  | some (e, []) => some e
  | _ => none

/-! ## Quoted identifiers -/

/-- The backtick, MySQL's identifier quote. -/
def backtick : Char := Char.ofNat 96

/-- Where a scan of a statement stands: outside an identifier, inside one, or just after a
backtick inside one, which closes it unless a second backtick follows. -/
inductive Quote where
  | outside
  | inside
  | closing
  deriving Repr, DecidableEq

/-- The text of a statement outside backtick-quoted identifiers; a doubled backtick inside an
identifier stands for one backtick. `none` when an identifier is left open. -/
def outsideQuotes : Quote → List Char → Option (List Char)
  | .inside, [] => none
  | _, [] => some []
  | .inside, c :: cs =>
    if c = backtick then outsideQuotes .closing cs else outsideQuotes .inside cs
  | _, c :: cs =>
    if c = backtick then outsideQuotes .inside cs else (outsideQuotes .outside cs).map (c :: ·)

/-- Inside an identifier, a run without backticks is skipped up to the next backtick. -/
theorem outsideQuotes_inside {cs : List Char} (h : backtick ∉ cs) (rest : List Char) :
    outsideQuotes .inside (cs ++ backtick :: rest) = outsideQuotes .closing rest := by
  induction cs with
  | nil => simp [outsideQuotes]
  | cons c cs ih =>
    have hc : c ≠ backtick := fun e => h (by simp [e])
    simpa [outsideQuotes, hc] using ih fun e => h (List.mem_cons_of_mem c e)

/-- After a closing backtick the scan goes on as outside an identifier: a second backtick
reopens it, as a doubled one stands for one backtick. -/
theorem outsideQuotes_closing (cs : List Char) :
    outsideQuotes .closing cs = outsideQuotes .outside cs := by
  cases cs <;> rfl

theorem outsideQuotes_outside_cons (c : Char) (cs : List Char) :
    outsideQuotes .outside (c :: cs) =
      if c = backtick then outsideQuotes .inside cs else (outsideQuotes .outside cs).map (c :: ·) :=
  rfl

/-- Outside an identifier, a run without backticks is kept as it is. -/
theorem outsideQuotes_plain_append {cs : List Char} (h : backtick ∉ cs) (rest : List Char) :
    outsideQuotes .outside (cs ++ rest) = (outsideQuotes .outside rest).map (cs ++ ·) := by
  induction cs with
  | nil => simp
  | cons c cs ih =>
    have hc : c ≠ backtick := fun e => h (e ▸ List.mem_cons_self c cs)
    rw [List.cons_append, outsideQuotes_outside_cons, if_neg hc,
      ih fun e => h (List.mem_cons_of_mem c e), Option.map_map]
    rfl

end Xlorm
