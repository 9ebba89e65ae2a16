import Xlorm.Sql.Table

/-!
# What the WHERE clause of `GetWhere` means

A chain `db.M(name).Where(..).OrWhere(..).NotWhere(..)` is a fold of condition calls over the
table `DB.Table` returns (`Table.applyCond`). Each accepted call appends its text and its
arguments and sets its bit of the mask; a refused one leaves the table as it was. `GetWhere` then
writes the conditions joined by `OR` or by `AND`, in parentheses or not, as the mask says.

`getWhere_denotes_joinedCond` reads that clause back through the token parser of `Sql.Text`:
for every chain, the clause denotes `joinedCond`, the conditions of the accepted calls (each
`NotWhere` negated) joined by `OR` as soon as one `OrWhere` was accepted and by `AND` otherwise,
and `GetWhere`'s arguments are the accepted calls' arguments in call order.

The proof has two layers. The first follows the mask along the chain (`applyCond_spec`,
`foldl_applyCond`). The second is the parser's adequacy on the token shapes the builder writes:
one operand, an `AND`-chain, an `OR`-chain, a parenthesised clause, each with the fuel it needs
stated as room (`2 * length + k ≤ fuel`), so that the fuel `Text.whereCond` gives is enough.

**The law**: a clause `GetWhere` writes parses back to the join of its conditions; the
connective is the mask's, never a call's own.
-/

namespace Xlorm

/-! ## Chains of condition calls -/

/-- Which condition method a call is. -/
inductive CondKind where
  /-- `Where`. -/
  | and
  /-- `OrWhere`. -/
  | or
  /-- `NotWhere`. -/
  | not
  deriving Repr, DecidableEq

/-- One call of a chain: the method, its condition and its arguments. -/
structure CondCall where
  kind : CondKind
  condition : String
  args : List Value
  deriving Repr, DecidableEq

/-- The method a call names, applied to a table. -/
def Table.applyCond (t : Table) (c : CondCall) : Table :=
  match c.kind with
  | .and => t.Where c.condition c.args
  | .or => t.OrWhere c.condition c.args
  | .not => t.NotWhere c.condition c.args

namespace CondCall

/-- The call passes the checks `addCondition` makes: a condition that is not empty, with as many
`?` as arguments and no injection character. -/
def accepted (c : CondCall) : Bool :=
  c.condition != "" && (Table.conditionRejection c.condition c.args).isNone

/-- The text an accepted call appends to `where`. -/
def text (c : CondCall) : Text :=
  match c.kind with
  | .not => [.sql "NOT (", .cond c.condition, .sql ")"]
  | _ => [.cond c.condition]

/-- What that text denotes. -/
def cond (c : CondCall) : Cond :=
  match c.kind with
  | .not => .not (.atom c.condition)
  | _ => .atom c.condition

end CondCall

/-- The conditions of the accepted calls joined as `GetWhere` joins them: by `OR` once an
`OrWhere` was accepted, by `AND` otherwise; no condition, no clause. -/
def joinedCond (cs : List CondCall) : Option Cond :=
  match cs.filter CondCall.accepted with
  | [] => none
  | c :: rest =>
    some (if (c :: rest).any (·.kind = .or) then rest.foldl (fun e d => .or e d.cond) c.cond
      else rest.foldl (fun e d => .and e d.cond) c.cond)

/-! ## The mask along a chain -/

theorem and_condOR_ne_zero (x : BitVec 64) : x &&& condOR ≠ 0 ↔ x.getLsbD 1 = true := by
  have hpow : BitVec.twoPow 64 1 ≠ 0 := by decide
  rw [show condOR = BitVec.twoPow 64 1 by decide, BitVec.and_twoPow]
  split <;> simp_all

namespace Table

theorem addCondition_eq (t : Table) (condition : String) (args : List Value) (text : Text)
    (flags : BitVec 64) :
    t.addCondition condition args text flags =
      if condition != "" && (conditionRejection condition args).isNone then
        { t with «where» := t.«where» ++ [text], args := t.args ++ args,
                 conditionFlags := flags, conditionIndex := t.conditionIndex + 1 }
      else t := by
  unfold addCondition
  split
  · simp_all
  · split <;> simp_all

/-- One call: an accepted one appends its text and arguments, and sets `condOR` if it is an
`OrWhere` (`condAND` and `condNOT` are other bits); a refused one changes nothing. -/
theorem applyCond_spec (t : Table) (c : CondCall) :
    (t.applyCond c).«where» = (if c.accepted then t.«where» ++ [c.text] else t.«where») ∧
    (t.applyCond c).args = (if c.accepted then t.args ++ c.args else t.args) ∧
    (t.applyCond c).conditionFlags.getLsbD 1 =
      (t.conditionFlags.getLsbD 1 || c.accepted && c.kind = .or) := by
  obtain ⟨kind, condition, args⟩ := c
  cases ha : CondCall.accepted ⟨kind, condition, args⟩ <;>
    cases kind <;>
    simp_all [applyCond, Where, OrWhere, NotWhere, addCondition_eq, CondCall.accepted,
      CondCall.text, condAND, condOR, condNOT] <;>
    split <;> simp_all

/-- A whole chain: the accepted calls' texts and arguments, in order, and `condOR` set exactly
when an `OrWhere` was accepted. -/
theorem foldl_applyCond (cs : List CondCall) (t : Table) :
    (cs.foldl applyCond t).«where» = t.«where» ++ (cs.filter CondCall.accepted).map CondCall.text ∧
    (cs.foldl applyCond t).args = t.args ++ (cs.filter CondCall.accepted).flatMap CondCall.args ∧
    (cs.foldl applyCond t).conditionFlags.getLsbD 1 =
      (t.conditionFlags.getLsbD 1 || (cs.filter CondCall.accepted).any (·.kind = .or)) := by
  induction cs generalizing t with
  | nil => simp
  | cons c cs ih =>
    obtain ⟨hw, ha, h1⟩ := applyCond_spec t c
    obtain ⟨iw, ia, i1⟩ := ih (t.applyCond c)
    rw [List.foldl_cons, iw, ia, i1, hw, ha, h1]
    cases hc : c.accepted <;> simp [List.filter_cons, hc, Bool.or_assoc]

end Table

/-! ## The parser on the clauses the builder writes -/

section Parse

variable {fuel : Nat} {rest : List Token}

@[simp] theorem tokens_and : Piece.tokens (.sql " AND ") = [.kwAnd] := by decide
@[simp] theorem tokens_or : Piece.tokens (.sql " OR ") = [.kwOr] := by decide
@[simp] theorem tokens_where : Piece.tokens (.sql " WHERE ") = [.kwWhere] := by decide
@[simp] theorem tokens_lparen : Piece.tokens (.sql "(") = [.lparen] := by decide
@[simp] theorem tokens_rparen : Piece.tokens (.sql ")") = [.rparen] := by decide
@[simp] theorem tokens_not : Piece.tokens (.sql "NOT (") = [.kwNot, .lparen] := by decide

@[simp] theorem Text.tokens_append (a b : Text) : Text.tokens (a ++ b) = a.tokens ++ b.tokens := by
  simp [Text.tokens]

@[simp] theorem Text.tokens_cons (p : Piece) (t : Text) :
    Text.tokens (p :: t) = p.tokens ++ Text.tokens t := by
  simp [Text.tokens]

@[simp] theorem Text.tokens_nil : Text.tokens [] = [] := rfl

/-- The tokens of texts joined by one separator piece. -/
theorem tokens_intercalate (sep : Piece) (w : Text) (ws : List Text) :
    Text.tokens (List.intercalate [sep] (w :: ws)) =
      w.tokens ++ ws.flatMap fun v => sep.tokens ++ v.tokens := by
  induction ws generalizing w with
  | nil => simp [List.intercalate]
  | cons v ws ih =>
    rw [intercalate_cons_cons, Text.tokens_append, Text.tokens_cons, ih]
    simp

@[simp] theorem Piece.tokens_cond (c : String) : Piece.tokens (.cond c) = [.atom c] := rfl

/-- An accepted call's text, parsed at the negation level. -/
theorem parseCond_neg_text (c : CondCall) (room : 2 * c.text.tokens.length ≤ fuel) :
    parseCond fuel .neg (c.text.tokens ++ rest) = some (c.cond, rest) := by
  obtain ⟨kind, condition, args⟩ := c
  obtain ⟨m, rfl⟩ := Nat.exists_eq_add_of_le' room
  cases kind <;> rfl

/-- The tokens of an `AND`-chain after its first operand. -/
def andChain (cs : List CondCall) : List Token := cs.flatMap fun c => .kwAnd :: c.text.tokens

/-- The tokens of an `OR`-chain after its first operand. -/
def orChain (cs : List CondCall) : List Token := cs.flatMap fun c => .kwOr :: c.text.tokens

@[simp] theorem andChain_nil : andChain [] = [] := rfl
@[simp] theorem orChain_nil : orChain [] = [] := rfl

theorem andChain_cons (c : CondCall) (cs : List CondCall) :
    andChain (c :: cs) = .kwAnd :: (c.text.tokens ++ andChain cs) := rfl

theorem orChain_cons (c : CondCall) (cs : List CondCall) :
    orChain (c :: cs) = .kwOr :: (c.text.tokens ++ orChain cs) := rfl

theorem head_orChain_append (cs : List CondCall) (hand : rest.head? ≠ some .kwAnd) :
    (orChain cs ++ rest).head? ≠ some .kwAnd := by
  cases cs <;> simp_all [orChain_cons]

theorem parseCond_conjRest (cs : List CondCall) (a : Cond) (hrest : rest.head? ≠ some .kwAnd)
    (room : 2 * (andChain cs).length + 1 ≤ fuel) :
    parseCond fuel (.conjRest a) (andChain cs ++ rest) =
      some (cs.foldl (fun e d => .and e d.cond) a, rest) := by
  induction cs generalizing a fuel with
  | nil =>
    obtain ⟨m, rfl⟩ := Nat.exists_eq_add_of_le' room
    rcases rest with _ | ⟨_ | _ | _ | _ | _ | _ | _ | _, _⟩ <;> simp_all [parseCond]
  | cons c cs ih =>
    rw [andChain_cons] at room ⊢
    simp only [List.length_cons, List.length_append] at room
    obtain ⟨m, rfl⟩ := Nat.exists_eq_add_of_le' (show 1 ≤ fuel by omega)
    rw [List.cons_append, List.append_assoc, parseCond, parseCond_neg_text c (by omega),
      Option.some_bind]
    exact ih _ (by omega)

theorem parseCond_conj (c : CondCall) (cs : List CondCall) (hrest : rest.head? ≠ some .kwAnd)
    (room : 2 * (c.text.tokens ++ andChain cs).length + 2 ≤ fuel) :
    parseCond fuel .conj (c.text.tokens ++ andChain cs ++ rest) =
      some (cs.foldl (fun e d => .and e d.cond) c.cond, rest) := by
  simp only [List.length_append] at room
  obtain ⟨m, rfl⟩ := Nat.exists_eq_add_of_le' (show 1 ≤ fuel by omega)
  rw [parseCond, List.append_assoc, parseCond_neg_text c (by omega), Option.some_bind]
  exact parseCond_conjRest cs _ hrest (by omega)

/-- One operand followed by what is not `AND`: a conjunction of one. -/
theorem parseCond_conj_text (c : CondCall) (hrest : rest.head? ≠ some .kwAnd)
    (room : 2 * c.text.tokens.length + 2 ≤ fuel) :
    parseCond fuel .conj (c.text.tokens ++ rest) = some (c.cond, rest) := by
  simpa using parseCond_conj c [] hrest (by simpa using room)

theorem parseCond_disjRest (cs : List CondCall) (a : Cond) (hand : rest.head? ≠ some .kwAnd)
    (hor : rest.head? ≠ some .kwOr) (room : 2 * (orChain cs).length + 1 ≤ fuel) :
    parseCond fuel (.disjRest a) (orChain cs ++ rest) =
      some (cs.foldl (fun e d => .or e d.cond) a, rest) := by
  induction cs generalizing a fuel with
  | nil =>
    obtain ⟨m, rfl⟩ := Nat.exists_eq_add_of_le' room
    rcases rest with _ | ⟨_ | _ | _ | _ | _ | _ | _ | _, _⟩ <;> simp_all [parseCond]
  | cons c cs ih =>
    rw [orChain_cons] at room ⊢
    simp only [List.length_cons, List.length_append] at room
    obtain ⟨m, rfl⟩ := Nat.exists_eq_add_of_le' (show 1 ≤ fuel by omega)
    rw [List.cons_append, List.append_assoc, parseCond,
      parseCond_conj_text c (head_orChain_append cs hand) (by omega), Option.some_bind]
    exact ih _ (by omega)

/-- An `AND`-joined clause is one expression. -/
theorem parseCond_disj_and (c : CondCall) (cs : List CondCall) (hand : rest.head? ≠ some .kwAnd)
    (hor : rest.head? ≠ some .kwOr) (room : 2 * (c.text.tokens ++ andChain cs).length + 3 ≤ fuel) :
    parseCond fuel .disj (c.text.tokens ++ andChain cs ++ rest) =
      some (cs.foldl (fun e d => .and e d.cond) c.cond, rest) := by
  obtain ⟨m, rfl⟩ := Nat.exists_eq_add_of_le' (show 1 ≤ fuel by omega)
  rw [parseCond, parseCond_conj c cs hand (by omega), Option.some_bind]
  simpa using parseCond_disjRest [] _ hand hor (by simp; omega)

/-- An `OR`-joined clause is one expression. -/
theorem parseCond_disj_or (c : CondCall) (cs : List CondCall) (hand : rest.head? ≠ some .kwAnd)
    (hor : rest.head? ≠ some .kwOr) (room : 2 * (c.text.tokens ++ orChain cs).length + 3 ≤ fuel) :
    parseCond fuel .disj (c.text.tokens ++ orChain cs ++ rest) =
      some (cs.foldl (fun e d => .or e d.cond) c.cond, rest) := by
  simp only [List.length_append] at room
  obtain ⟨m, rfl⟩ := Nat.exists_eq_add_of_le' (show 1 ≤ fuel by omega)
  rw [parseCond, List.append_assoc,
    parseCond_conj_text c (head_orChain_append cs hand) (by omega), Option.some_bind]
  exact parseCond_disjRest cs _ hand hor (by omega)

/-- A clause in parentheses, followed by the end of the tokens. -/
theorem parseCond_paren {ts : List Token} {e : Cond} (room : 4 ≤ fuel)
    (h : parseCond (fuel - 4) .disj (ts ++ [.rparen]) = some (e, [.rparen])) :
    parseCond fuel .disj (.lparen :: ts ++ [.rparen]) = some (e, []) := by
  obtain ⟨m, rfl⟩ := Nat.exists_eq_add_of_le' room
  simp only [Nat.add_sub_cancel] at h
  simp [parseCond, h]

end Parse

theorem head_text_append (c : CondCall) (l : List Token) :
    (c.text.tokens ++ l).head? ≠ some .kwWhere := by
  obtain ⟨kind, condition, args⟩ := c
  cases kind <;> simp [CondCall.text]

/-- A clause, with or without its leading `WHERE`, whose tokens parse whole with the fuel
`Text.whereCond` gives. -/
theorem whereCond_eq {body : Text} {e : Cond} (addPreStr : Bool)
    (hb : body.tokens.head? ≠ some .kwWhere)
    (h : parseCond (4 * body.tokens.length + 4) .disj body.tokens = some (e, [])) :
    Text.whereCond ((if addPreStr then [.sql " WHERE "] else []) ++ body) = some e := by
  unfold Text.whereCond
  cases addPreStr
  · simp only [Bool.false_eq_true, if_false, List.nil_append]
    generalize body.tokens = ts at hb h
    rcases ts with _ | ⟨_ | _ | _ | _ | _ | _ | _ | _, _⟩ <;> simp_all
  · simp [h]

/-- A clause in parentheses, with or without its leading `WHERE`. -/
theorem whereCond_paren {body : Text} {e : Cond} (addPreStr : Bool) (ts : List Token)
    (hbody : body.tokens = .lparen :: ts ++ [.rparen])
    (h : ∀ fuel, 2 * ts.length + 3 ≤ fuel →
      parseCond fuel .disj (ts ++ [.rparen]) = some (e, [.rparen])) :
    Text.whereCond ((if addPreStr then [.sql " WHERE "] else []) ++ body) = some e := by
  refine whereCond_eq addPreStr (by simp [hbody]) ?_
  rw [hbody]
  exact parseCond_paren (by omega) (h _ (by simp; omega))

theorem tokens_intercalate_or (c : CondCall) (cs : List CondCall) :
    Text.tokens (List.intercalate [.sql " OR "] (c.text :: cs.map CondCall.text)) =
      c.text.tokens ++ orChain cs := by
  simp [tokens_intercalate, orChain, List.flatMap_map]

theorem tokens_intercalate_and (c : CondCall) (cs : List CondCall) :
    Text.tokens (List.intercalate [.sql " AND "] (c.text :: cs.map CondCall.text)) =
      c.text.tokens ++ andChain cs := by
  simp [tokens_intercalate, andChain, List.flatMap_map]

/-! ## The clause of a chain -/

/-- Whatever the chain of `Where`, `OrWhere` and `NotWhere` calls on a table `DB.Table` made, the
clause `GetWhere` writes (with or without its leading `WHERE`) denotes `joinedCond`, and its
arguments are the accepted calls' arguments in call order. -/
theorem getWhere_denotes_joinedCond (db : DB) (name : String) (cs : List CondCall)
    (addPreStr : Bool) :
    ((cs.foldl Table.applyCond (db.table name)).getWhere addPreStr).2.1.whereCond = joinedCond cs ∧
    ((cs.foldl Table.applyCond (db.table name)).getWhere addPreStr).2.2 =
      (cs.filter CondCall.accepted).flatMap CondCall.args := by
  have h0 : (db.table name).«where» = [] ∧ (db.table name).args = [] ∧
      (db.table name).conditionFlags = 0 := by
    unfold DB.table; split <;> exact ⟨rfl, rfl, rfl⟩
  obtain ⟨hw, ha, h1⟩ := Table.foldl_applyCond cs (db.table name)
  rw [h0.1, List.nil_append] at hw
  rw [h0.2.1, List.nil_append] at ha
  rw [h0.2.2, show (0 : BitVec 64).getLsbD 1 = false by decide, Bool.false_or] at h1
  unfold joinedCond
  generalize cs.filter CondCall.accepted = acc at hw ha h1
  rcases acc with _ | ⟨c, rest⟩
  · simp only [Table.getWhere, hw, List.map_nil, List.isEmpty_nil, if_true]
    exact ⟨rfl, rfl⟩
  · refine ⟨?_, by simp [Table.getWhere, hw, ha]⟩
    simp only [Table.getWhere, hw, List.map_cons, List.isEmpty_cons, Bool.false_eq_true, if_false,
      and_condOR_ne_zero, h1]
    by_cases hor : ((c :: rest).any fun x => decide (x.kind = .or)) = true
    · rw [if_pos hor, if_pos hor]
      refine whereCond_paren addPreStr (c.text.tokens ++ orChain rest)
        (by simp [tokens_intercalate_or]) fun fuel room => ?_
      exact parseCond_disj_or c rest (by simp) (by simp) room
    rw [if_neg hor, if_neg hor]
    by_cases hnot : (cs.foldl Table.applyCond (db.table name)).conditionFlags &&& condNOT ≠ 0
    · rw [if_pos hnot]
      refine whereCond_paren addPreStr (c.text.tokens ++ andChain rest)
        (by simp [tokens_intercalate_and]) fun fuel room => ?_
      exact parseCond_disj_and c rest (by simp) (by simp) room
    · rw [if_neg hnot]
      refine whereCond_eq addPreStr
        (by rw [tokens_intercalate_and]; exact head_text_append c _) ?_
      rw [tokens_intercalate_and, ← List.append_nil (_ ++ _)]
      exact parseCond_disj_and c rest (by simp) (by simp) (by simp; omega)

end Xlorm
