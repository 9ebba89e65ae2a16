import Xlorm.Sql.Where

/-!
# The query builder (`error.go`, `builder`)

`db.NewBuilder(table)` hands out a reset `builder` from `builderPool`; chained calls collect a
`SELECT`'s parts, and `Build` writes the statement and returns it with the arguments and the
errors joined. Unlike `Table`, a refused call is recorded in `errs`, with a message naming what
it refused, and `Build` still writes the statement. The condition methods keep the same mask as
`Table`'s; `OrWhere`, however, stores its condition as `"OR " + condition`, and `GetWhere` joins
the conditions with `" OR "` once the mask has `condOR`. `LIMIT` and `OFFSET` are written each on
its own. The pool and the deferred `ReleaseBuilder` of `Build` are left out: `Build` reads the
builder before releasing it.

As in `Sql.Text`, a statement is kept as pieces: the code's own text and the callers' names are
`.sql`, a condition is `.cond`, and `Text.render` is the string `Build` returns.

**The law** (`build_args`, `build_orWhere_unparsable`): whatever the chain, `Build`'s arguments
are the accepted conditions' arguments in call order; but as soon as one `OrWhere` is accepted,
the WHERE clause `Build` writes is no expression of SQL's grammar, its `OR` doubled or leading.
-/

namespace Xlorm

/-- `builder`. -/
structure Builder where
  groupBy : String
  having : String
  orderBy : String
  table : String
  fields : List String
  «where» : List Text
  joins : List String
  args : List Value
  limit : BitVec 64
  offset : BitVec 64
  forUpdate : Bool
  errs : List String
  conditionFlags : BitVec 64
  conditionIndex : Nat

namespace Builder

/-- `Reset`: every field at its zero value. -/
def reset : Builder := ⟨"", "", "", "", [], [], [], [], 0, 0, false, [], 0, 0⟩

/-- A builder with one more error. -/
def addError (b : Builder) (err : String) : Builder := { b with errs := b.errs ++ [err] }

end Builder

/-- `db.NewBuilder`: a reset builder, and the table unless it is empty or holds `;` or NUL, which
is an error. The DB itself is not read. -/
def newBuilder (table : String) : Builder :=
  if table = "" then Builder.reset.addError "table名称不能为空"
  else if hasInjectionChar table then
    Builder.reset.addError ("table检测到可能的SQL注入尝试: " ++ table)
  else { Builder.reset with table := table }

namespace Builder

/-- `Fields`: the names appended in order, empty ones skipped; an invalid one is an error, and
the names after it are still appended. -/
def Fields (b : Builder) : List String → Builder
  | [] => b
  | field :: fields =>
    if field = "" then b.Fields fields
    else if !isValidFieldName field then (b.addError ("fields包含非法字符: " ++ field)).Fields fields
    else { b with fields := b.fields ++ [field] }.Fields fields

/-- The body the three condition methods share: ignore an empty condition, record `countError`
when its `?` do not match its arguments and `injectionError` when it holds `;` or NUL, and
otherwise append its text and arguments, store the new flags and count the condition. -/
def addCondition (b : Builder) (condition : String) (args : List Value)
    (countError injectionError : String) (text : Text) (flags : BitVec 64) : Builder :=
  if condition = "" then b
  else if countPlaceholders condition ≠ args.length then b.addError countError
  else if hasInjectionChar condition then b.addError injectionError
  else
    { b with «where» := b.«where» ++ [text], args := b.args ++ args, conditionFlags := flags,
             conditionIndex := b.conditionIndex + 1 }

/-- `Where` (Go's capital kept: `where` is the field). The first condition sets `condAND`. -/
def Where (b : Builder) (condition : String) (args : List Value) : Builder :=
  b.addCondition condition args
    ("where条件参数数量不匹配: condition:" ++ condition ++ ",args_count:" ++ toString args.length)
    ("where检测到可能的SQL注入尝试: condition:" ++ condition) [.cond condition]
    (if b.conditionIndex = 0 then b.conditionFlags ||| condAND else b.conditionFlags)

/-- `OrWhere`: the condition stored as `fmt.Sprintf("OR %s", condition)`. -/
def OrWhere (b : Builder) (condition : String) (args : List Value) : Builder :=
  b.addCondition condition args
    ("OrWhere条件参数数量不匹配: condition:" ++ condition ++ ",args_count:" ++ toString args.length)
    ("OrWhere检测到可能的SQL注入尝试: " ++ condition) [.sql "OR ", .cond condition]
    (b.conditionFlags ||| condOR)

/-- `NotWhere`: the condition stored as `"NOT (" + condition + ")"`. -/
def NotWhere (b : Builder) (condition : String) (args : List Value) : Builder :=
  b.addCondition condition args
    ("NotWhere条件参数数量不匹配: condition:" ++ condition ++ ",args_count:" ++ toString args.length)
    ("NotWhere检测到可能的SQL注入尝试: " ++ condition) [.sql "NOT (", .cond condition, .sql ")"]
    (b.conditionFlags ||| condNOT)

/-- The body `Join`, `GroupBy` and `Having` share: ignore an empty text, record `injectionError`
for one with `;` or NUL, and store any other. -/
def setChecked (b : Builder) (s injectionError : String) (store : Builder → String → Builder) :
    Builder :=
  if s = "" then b
  else if hasInjectionChar s then b.addError injectionError
  else store b s

/-- `Join`. -/
def Join (b : Builder) (join : String) : Builder :=
  b.setChecked join ("Join检测到可能的SQL注入尝试: " ++ join) fun b join =>
    { b with joins := b.joins ++ [join] }

/-- `GroupBy`. -/
def GroupBy (b : Builder) (groupBy : String) : Builder :=
  b.setChecked groupBy ("GroupBy检测到可能的SQL注入尝试: " ++ groupBy) fun b groupBy =>
    { b with groupBy := groupBy }

/-- `Having`. -/
def Having (b : Builder) (having : String) : Builder :=
  b.setChecked having ("Having检测到可能的SQL注入尝试: " ++ having) fun b having =>
    { b with having := having }

/-- `OrderBy`, over Go's `unicode.IsLetter` and `unicode.IsDigit`: first the character check,
then the injection check, each an error of its own. -/
def OrderBy (isLetter isDigit : Char → Bool) (b : Builder) (order : String) : Builder :=
  if order = "" then b
  else if !isValidSafeOrderBy isLetter isDigit order then
    b.addError ("OrderBy检测到不可用的排序字段: " ++ order)
  else if hasInjectionChar order then b.addError ("OrderBy检测到可能的SQL注入尝试: " ++ order)
  else { b with orderBy := order }

/-- `Limit`: a limit that is not positive is ignored. -/
def Limit (b : Builder) (limit : BitVec 64) : Builder :=
  if limit.toInt ≤ 0 then b else { b with limit := limit }

/-- `Offset`: a negative offset is ignored. -/
def Offset (b : Builder) (offset : BitVec 64) : Builder :=
  if offset.toInt < 0 then b else { b with offset := offset }

/-- `ForUpdate`. -/
def ForUpdate (b : Builder) (forUpdate : Bool) : Builder := { b with forUpdate := forUpdate }

/-- `Page`: both positive, or an error; the offset is computed in `int64`. -/
def Page (b : Builder) (page pageSize : BitVec 64) : Builder :=
  if page.toInt ≤ 0 ∨ pageSize.toInt ≤ 0 then
    b.addError ("page和pageSize必须为正数: page=" ++ toString page.toInt ++ ", pageSize=" ++
      toString pageSize.toInt)
  else { b with limit := pageSize, offset := (page - 1) * pageSize }

/-- `GetWhere`: the conditions joined by `OR` in parentheses once `condOR` is set, by `AND` in
parentheses once `condNOT` is, by bare `AND` otherwise; the flags and the index are cleared.
No conditions: no clause and no arguments, and nothing cleared. -/
def getWhere (b : Builder) (addPreStr : Bool) : Builder × Text × List Value :=
  if b.«where».isEmpty then (b, [], [])
  else
    let body : Text :=
      if b.conditionFlags &&& condOR ≠ 0 then
        .sql "(" :: List.intercalate [.sql " OR "] b.«where» ++ [.sql ")"]
      else if b.conditionFlags &&& condNOT ≠ 0 then
        .sql "(" :: List.intercalate [.sql " AND "] b.«where» ++ [.sql ")"]
      else List.intercalate [.sql " AND "] b.«where»
    ({ b with conditionFlags := 0, conditionIndex := 0 },
      (if addPreStr then [.sql " WHERE "] else []) ++ body, b.args)

/-- `Build`: the statement, the arguments, and the errors `errors.Join` joins (none: `nil`). -/
def build (b : Builder) : Text × List Value × List String :=
  let head : Text :=
    .sql "SELECT " ::
      (if b.fields.isEmpty then [.sql "*"]
       else [.sql "`", .sql (String.intercalate "`, `" b.fields), .sql "`"]) ++
      [.sql " FROM ", .sql b.table]
  let joins : Text := if b.joins.isEmpty then [] else [.sql " ", .sql (String.intercalate " " b.joins)]
  let whereText : Text :=
    if b.«where».isEmpty then []
    else
      let whereString := (b.getWhere true).2.1
      if whereString.render = "" then [] else whereString
  let tail : Text :=
    (if b.groupBy = "" then [] else [.sql " GROUP BY ", .sql b.groupBy]) ++
    (if b.having = "" then [] else [.sql " HAVING ", .sql b.having]) ++
    (if b.orderBy = "" then [] else [.sql " ORDER BY ", .sql b.orderBy]) ++
    (if 0 < b.limit.toInt then [.sql " LIMIT ", .sql (Table.formatInt b.limit)] else []) ++
    (if 0 < b.offset.toInt then [.sql " OFFSET ", .sql (Table.formatInt b.offset)] else []) ++
    (if b.forUpdate then [.sql " FOR UPDATE"] else [])
  (head ++ joins ++ whereText ++ tail, b.args, b.errs)

end Builder

/-- One chained call on a builder; a condition call is a `CondCall`, its kind naming `Where`,
`OrWhere` or `NotWhere`. -/
inductive BuilderCall where
  | fields (fields : List String)
  | cond (c : CondCall)
  | join (join : String)
  | groupBy (groupBy : String)
  | having (having : String)
  | orderBy (order : String)
  | limit (limit : BitVec 64)
  | offset (offset : BitVec 64)
  | forUpdate (forUpdate : Bool)
  | page (page pageSize : BitVec 64)

/-- The text the builder stores for an accepted condition call. -/
def CondCall.builderText (c : CondCall) : Text :=
  match c.kind with
  | .and => [.cond c.condition]
  | .or => [.sql "OR ", .cond c.condition]
  | .not => [.sql "NOT (", .cond c.condition, .sql ")"]

section Unicode

variable (isLetter isDigit : Char → Bool)

/-- The method a call names, applied to a builder (`OrderBy` over Go's `unicode` classes). -/
def Builder.call (b : Builder) : BuilderCall → Builder
  | .fields fields => b.Fields fields
  | .cond c =>
    match c.kind with
    | .and => b.Where c.condition c.args
    | .or => b.OrWhere c.condition c.args
    | .not => b.NotWhere c.condition c.args
  | .join join => b.Join join
  | .groupBy groupBy => b.GroupBy groupBy
  | .having having => b.Having having
  | .orderBy order => b.OrderBy isLetter isDigit order
  | .limit limit => b.Limit limit
  | .offset offset => b.Offset offset
  | .forUpdate forUpdate => b.ForUpdate forUpdate
  | .page page pageSize => b.Page page pageSize

end Unicode

/-! ## Along a chain -/

/-- The conditions a call adds: its own, if it is an accepted condition call. -/
def BuilderCall.acceptedConds : BuilderCall → List CondCall
  | .cond c => if c.accepted then [c] else []
  | _ => []

namespace Builder

theorem addCondition_spec (b : Builder) (condition : String) (args : List Value)
    (countError injectionError : String) (text : Text) (flags : BitVec 64) :
    let b' := b.addCondition condition args countError injectionError text flags
    let ok := condition != "" && (Table.conditionRejection condition args).isNone
    b'.«where» = (if ok then b.«where» ++ [text] else b.«where») ∧
      b'.args = (if ok then b.args ++ args else b.args) ∧
      b'.conditionFlags = (if ok then flags else b.conditionFlags) := by
  unfold addCondition Table.conditionRejection
  by_cases h0 : condition = "" <;>
    by_cases h1 : countPlaceholders condition ≠ args.length <;>
    by_cases h2 : hasInjectionChar condition <;> simp [h0, h1, h2, addError]

theorem Fields_spec (b : Builder) (fields : List String) :
    (b.Fields fields).«where» = b.«where» ∧ (b.Fields fields).args = b.args ∧
      (b.Fields fields).conditionFlags = b.conditionFlags := by
  induction fields generalizing b with
  | nil => exact ⟨rfl, rfl, rfl⟩
  | cons f fs ih =>
    unfold Builder.Fields
    split
    · exact ih b
    · split
      · exact ih _
      · exact ih _

theorem setChecked_where (b : Builder) (s injectionError : String)
    (store : Builder → String → Builder) (h : (store b s).«where» = b.«where») :
    (b.setChecked s injectionError store).«where» = b.«where» := by
  unfold setChecked; split_ifs <;> first | rfl | exact h

theorem setChecked_args (b : Builder) (s injectionError : String)
    (store : Builder → String → Builder) (h : (store b s).args = b.args) :
    (b.setChecked s injectionError store).args = b.args := by
  unfold setChecked; split_ifs <;> first | rfl | exact h

theorem setChecked_conditionFlags (b : Builder) (s injectionError : String)
    (store : Builder → String → Builder) (h : (store b s).conditionFlags = b.conditionFlags) :
    (b.setChecked s injectionError store).conditionFlags = b.conditionFlags := by
  unfold setChecked; split_ifs <;> first | rfl | exact h

section Unicode

variable (isLetter isDigit : Char → Bool)

/-- A condition call is `addCondition` with the call's text, and flags whose `condOR` bit is set
exactly when it was set or the call is an `OrWhere`. -/
theorem call_cond (b : Builder) (c : CondCall) :
    ∃ e₁ e₂ flags, b.call isLetter isDigit (.cond c) =
        b.addCondition c.condition c.args e₁ e₂ c.builderText flags ∧
      flags.getLsbD 1 = (b.conditionFlags.getLsbD 1 || decide (c.kind = .or)) := by
  obtain ⟨kind, condition, args⟩ := c
  cases kind
  · refine ⟨_, _, _, rfl, ?_⟩
    split <;> simp [condAND]
  · exact ⟨_, _, _, rfl, by simp [condOR]⟩
  · exact ⟨_, _, _, rfl, by simp [condNOT]⟩

/-- One call: an accepted condition appends its text and its arguments and sets `condOR` if it is
an `OrWhere`; every other call, and a refused condition, leaves the conditions, their arguments
and that bit alone. -/
theorem call_spec (b : Builder) : ∀ c : BuilderCall,
    (b.call isLetter isDigit c).«where» =
        b.«where» ++ c.acceptedConds.map CondCall.builderText ∧
      (b.call isLetter isDigit c).args = b.args ++ c.acceptedConds.flatMap CondCall.args ∧
      (b.call isLetter isDigit c).conditionFlags.getLsbD 1 =
        (b.conditionFlags.getLsbD 1 || c.acceptedConds.any (·.kind = .or))
  | .cond c => by
    obtain ⟨e₁, e₂, flags, heq, hbit⟩ := b.call_cond isLetter isDigit c
    obtain ⟨hw, ha, hf⟩ := addCondition_spec b c.condition c.args e₁ e₂ c.builderText flags
    simp only [heq, BuilderCall.acceptedConds]
    rw [hw, ha, hf]
    split <;> simp_all [CondCall.accepted]
  | .fields fields => by
    obtain ⟨h1, h2, h3⟩ := b.Fields_spec fields
    simp [call, BuilderCall.acceptedConds, h1, h2, h3]
  | .join _ | .groupBy _ | .having _ => by
    simp [call, BuilderCall.acceptedConds, Join, GroupBy, Having, setChecked_where,
      setChecked_args, setChecked_conditionFlags]
  | .orderBy _ | .limit _ | .offset _ | .page _ _ => by
    simp only [call, BuilderCall.acceptedConds, OrderBy, Limit, Offset, Page]
    split_ifs <;> simp [addError]
  | .forUpdate _ => by simp [call, BuilderCall.acceptedConds, ForUpdate]

/-- A whole chain: the accepted conditions' texts and arguments in call order, and `condOR` set
exactly when an `OrWhere` was accepted. -/
theorem foldl_call (calls : List BuilderCall) (b : Builder) :
    let b' := calls.foldl (Builder.call isLetter isDigit) b
    let acc := calls.flatMap BuilderCall.acceptedConds
    b'.«where» = b.«where» ++ acc.map CondCall.builderText ∧ b'.args = b.args ++ acc.flatMap CondCall.args ∧
      b'.conditionFlags.getLsbD 1 = (b.conditionFlags.getLsbD 1 || acc.any (·.kind = .or)) := by
  induction calls generalizing b with
  | nil => simp
  | cons c cs ih =>
    obtain ⟨hw, ha, hf⟩ := b.call_spec isLetter isDigit c
    obtain ⟨iw, ia, i1⟩ := ih (b.call isLetter isDigit c)
    simp only [List.foldl_cons, List.flatMap_cons, List.map_append, List.flatMap_append,
      List.any_append] at iw ia i1 ⊢
    rw [iw, ia, i1, hw, ha, hf]
    simp [Bool.or_assoc]

end Unicode

theorem newBuilder_empty (table : String) :
    (newBuilder table).«where» = [] ∧ (newBuilder table).args = [] ∧
      (newBuilder table).conditionFlags = 0 := by
  unfold newBuilder
  split_ifs <;> exact ⟨rfl, rfl, rfl⟩

end Builder

/-- Whatever the chain after `db.NewBuilder(table)`, `Build` returns the accepted conditions'
arguments, in call order. -/
theorem build_args (isLetter isDigit : Char → Bool) (table : String) (calls : List BuilderCall) :
    ((calls.foldl (Builder.call isLetter isDigit) (newBuilder table)).build).2.1 =
      (calls.flatMap BuilderCall.acceptedConds).flatMap CondCall.args := by
  obtain ⟨-, ha, -⟩ := Builder.foldl_call isLetter isDigit calls (newBuilder table)
  show (calls.foldl (Builder.call isLetter isDigit) (newBuilder table)).args = _
  rw [ha, (Builder.newBuilder_empty table).2.1, List.nil_append]

/-! ## The clause of an `OrWhere` -/

section Parse

variable {fuel : Nat}

@[simp] theorem tokens_orPrefix : Piece.tokens (.sql "OR ") = [.kwOr] := by decide

theorem parseCond_neg_kwOr (n : Nat) (ts : List Token) : parseCond n .neg (.kwOr :: ts) = none := by
  rcases n with _ | _ | n <;> rfl

theorem parseCond_conj_kwOr (n : Nat) (ts : List Token) : parseCond n .conj (.kwOr :: ts) = none := by
  rcases n with _ | n <;> simp [parseCond, parseCond_neg_kwOr]

theorem parseCond_disj_kwOr (n : Nat) (ts : List Token) : parseCond n .disj (.kwOr :: ts) = none := by
  rcases n with _ | n <;> simp [parseCond, parseCond_conj_kwOr]

/-- After an operand, `OR OR`: the second `OR` starts no operand. -/
theorem parseCond_disjRest_orOr (cs : List CondCall) (a : Cond) (rest : List Token)
    (room : 2 * (orChain cs).length + 1 ≤ fuel) :
    parseCond fuel (.disjRest a) (orChain cs ++ .kwOr :: .kwOr :: rest) = none := by
  induction cs generalizing a fuel with
  | nil => rcases fuel with _ | fuel <;> simp [parseCond, parseCond_conj_kwOr]
  | cons c cs ih =>
    rw [orChain_cons] at room ⊢
    simp only [List.length_cons, List.length_append] at room
    obtain ⟨m, rfl⟩ := Nat.exists_eq_add_of_le' (show 1 ≤ fuel by omega)
    rw [List.cons_append, List.append_assoc, parseCond,
      parseCond_conj_text c (head_orChain_append cs (by simp)) (by omega), Option.some_bind]
    exact ih _ (by omega)

theorem parseCond_disj_orOr (c : CondCall) (cs : List CondCall) (rest : List Token)
    (room : 2 * (c.text.tokens ++ orChain cs).length + 3 ≤ fuel) :
    parseCond fuel .disj (c.text.tokens ++ orChain cs ++ .kwOr :: .kwOr :: rest) = none := by
  simp only [List.length_append] at room
  obtain ⟨m, rfl⟩ := Nat.exists_eq_add_of_le' (show 1 ≤ fuel by omega)
  rw [parseCond, List.append_assoc,
    parseCond_conj_text c (head_orChain_append cs (by simp)) (by omega), Option.some_bind]
  exact parseCond_disjRest_orOr cs _ rest (by omega)

/-- A clause in parentheses whose inside is no expression is none either. -/
theorem parseCond_paren_none {ts : List Token} (room : 4 ≤ fuel)
    (h : parseCond (fuel - 4) .disj ts = none) : parseCond fuel .disj (.lparen :: ts) = none := by
  obtain ⟨m, rfl⟩ := Nat.exists_eq_add_of_le' room
  simp only [Nat.add_sub_cancel] at h
  simp [parseCond, h]

end Parse

theorem CondCall.builderText_of_ne_or {c : CondCall} (h : c.kind ≠ .or) : c.builderText = c.text := by
  obtain ⟨kind, condition, args⟩ := c
  cases kind
  · rfl
  · exact absurd rfl h
  · rfl

theorem CondCall.tokens_builderText_or {c : CondCall} (h : c.kind = .or) :
    Text.tokens c.builderText = [.kwOr, .atom c.condition] := by
  simp [CondCall.builderText, h]

/-- Conditions joined by `OR` in parentheses, the first `OrWhere` among them after the calls
`pre`: whether it leads the clause or follows ` OR `, the `OR` it stores starts no operand, so the
clause is no expression. -/
theorem whereCond_orWhere (pre : List CondCall) (c : CondCall) (post : List Text)
    (hpre : ∀ d ∈ pre, d.kind ≠ .or) (hc : c.kind = .or) :
    Text.whereCond ([.sql " WHERE "] ++ (.sql "(" :: List.intercalate [.sql " OR "]
      (pre.map CondCall.builderText ++ c.builderText :: post) ++ [.sql ")"])) = none := by
  have hpre' : pre.map CondCall.builderText = pre.map CondCall.text :=
    List.map_congr_left fun d hd => CondCall.builderText_of_ne_or (hpre d hd)
  rw [hpre']
  obtain ⟨T, hT, hinner⟩ : ∃ T, Text.tokens (List.intercalate [.sql " OR "]
      (pre.map CondCall.text ++ c.builderText :: post)) = T ∧
      ∀ n, 2 * T.length + 3 ≤ n → parseCond n .disj (T ++ [.rparen]) = none := by
    refine ⟨_, rfl, fun n hn => ?_⟩
    rcases pre with _ | ⟨p, ps⟩
    · rw [List.map_nil, List.nil_append, tokens_intercalate, CondCall.tokens_builderText_or hc]
      exact parseCond_disj_kwOr n _
    · have hsplit : Text.tokens (List.intercalate [.sql " OR "]
          ((p :: ps).map CondCall.text ++ c.builderText :: post)) ++ [.rparen] =
          p.text.tokens ++ orChain ps ++ .kwOr :: .kwOr :: .atom c.condition ::
            ((post.flatMap fun v => Piece.tokens (.sql " OR ") ++ v.tokens) ++ [.rparen]) := by
        simp [tokens_intercalate, CondCall.tokens_builderText_or hc, orChain, List.flatMap_map]
      have hlen := congrArg List.length hsplit
      simp only [List.length_append, List.length_cons, List.length_singleton] at hlen
      rw [hsplit]
      exact parseCond_disj_orOr p ps _ (by simp only [List.length_append]; omega)
  unfold Text.whereCond
  simp only [Text.tokens_append, Text.tokens_cons, tokens_where, tokens_lparen, tokens_rparen,
    Text.tokens_nil, List.append_nil, hT, List.singleton_append, List.cons_append, List.nil_append]
  rw [parseCond_paren_none (by omega) (hinner _ (by simp; omega))]

/-- The first `OrWhere` of a list of calls, and the calls before it. -/
theorem exists_first_or {l : List CondCall} (h : ∃ c ∈ l, c.kind = .or) :
    ∃ pre c post, l = pre ++ c :: post ∧ c.kind = .or ∧ ∀ d ∈ pre, d.kind ≠ .or := by
  induction l with
  | nil => simp at h
  | cons d l ih =>
    by_cases hd : d.kind = .or
    · exact ⟨[], d, l, rfl, hd, nofun⟩
    · obtain ⟨pre, c, post, rfl, hc, hpre⟩ := ih (by simpa [hd] using h)
      refine ⟨d :: pre, c, post, rfl, hc, fun e he => ?_⟩
      rcases List.mem_cons.mp he with rfl | he
      · exact hd
      · exact hpre e he

/-- With a condition stored and a clause `GetWhere` renders non-empty, `Build` writes that clause
between the `FROM` part and the tail. -/
theorem Builder.build_where (b : Builder) (hne : b.«where».isEmpty = false)
    (hrender : (b.getWhere true).2.1.render ≠ "") :
    ∃ pre post, b.build.1 = pre ++ (b.getWhere true).2.1 ++ post := by
  simp only [Builder.build, hne, Bool.false_eq_true, if_false, hrender]
  exact ⟨_, _, rfl⟩

/-- Whatever the chain after `db.NewBuilder(table)`, once it has an accepted `OrWhere`: `Build`
writes the clause `GetWhere` gives, and that clause is no expression of SQL's grammar. -/
theorem build_orWhere_unparsable (isLetter isDigit : Char → Bool) (table : String)
    (calls : List BuilderCall)
    (hor : ∃ c ∈ calls.flatMap BuilderCall.acceptedConds, c.kind = .or) :
    let b := calls.foldl (Builder.call isLetter isDigit) (newBuilder table)
    (∃ pre post, b.build.1 = pre ++ (b.getWhere true).2.1 ++ post) ∧
      (b.getWhere true).2.1.whereCond = none := by
  intro b
  obtain ⟨hw, -, hf⟩ := Builder.foldl_call isLetter isDigit calls (newBuilder table)
  change b.«where» = _ at hw
  change b.conditionFlags.getLsbD 1 = _ at hf
  obtain ⟨hw0, -, hf0⟩ := Builder.newBuilder_empty table
  rw [hw0, List.nil_append] at hw
  rw [hf0, show (0 : BitVec 64).getLsbD 1 = false by decide, Bool.false_or] at hf
  obtain ⟨pre, c, post, hacc, hc, hpre⟩ := exists_first_or hor
  have hany : (calls.flatMap BuilderCall.acceptedConds).any (·.kind = .or) = true :=
    List.any_eq_true.mpr ⟨c, by rw [hacc]; simp, by simp [hc]⟩
  have hne : b.«where».isEmpty = false := by rw [hw, hacc]; simp
  have hor' : b.conditionFlags &&& condOR ≠ 0 := (and_condOR_ne_zero _).mpr (hf.trans hany)
  have htext : (b.getWhere true).2.1 = [.sql " WHERE "] ++ (.sql "(" :: List.intercalate
      [.sql " OR "] (pre.map CondCall.builderText ++ c.builderText :: post.map CondCall.builderText) ++
      [.sql ")"]) := by
    simp only [Builder.getWhere, hne, Bool.false_eq_true, if_false, if_pos hor', if_true]
    rw [hw, hacc, List.map_append, List.map_cons]
  have hrender : (b.getWhere true).2.1.render ≠ "" := by
    rw [htext]; exact Text.render_sql_cons_ne_empty (by decide) _
  exact ⟨b.build_where hne hrender, by rw [htext]; exact whereCond_orWhere pre c _ hpre hc⟩

/-- `Where(a).OrWhere(c)`, the only accepted `OrWhere` second. -/
theorem build_orWhere_unparsable_second :
    (∃ c ∈ [BuilderCall.cond ⟨.and, "a = ?", [.int 1]⟩, .cond ⟨.or, "c = ?", [.int 2]⟩].flatMap
        BuilderCall.acceptedConds, c.kind = .or) ∧
      let b := [BuilderCall.cond ⟨.and, "a = ?", [.int 1]⟩, .cond ⟨.or, "c = ?", [.int 2]⟩].foldl
        (Builder.call Char.isAlpha Char.isDigit) (newBuilder "users")
      (∃ pre post, b.build.1 = pre ++ (b.getWhere true).2.1 ++ post) ∧
        (b.getWhere true).2.1.whereCond = none :=
  have hor : ∃ c ∈ [BuilderCall.cond ⟨.and, "a = ?", [.int 1]⟩, .cond ⟨.or, "c = ?", [.int 2]⟩].flatMap
      BuilderCall.acceptedConds, c.kind = .or :=
    ⟨⟨.or, "c = ?", [.int 2]⟩, by decide, rfl⟩
  ⟨hor, build_orWhere_unparsable Char.isAlpha Char.isDigit "users" _ hor⟩

/-- `Where("a = ?", 1).OrWhere("c = ?", 2)` records no error and builds `(a = ? OR OR c = ?)`,
which the grammar's expression parser refuses, where the documented `a = ? OR c = ?` parses; and
`Offset(5)` alone records no error and builds `OFFSET 5` with no `LIMIT`. -/
theorem build_orWhereAndOffset_leaveGrammar :
    (((newBuilder "users").Where "a = ?" [.int 1]).OrWhere "c = ?" [.int 2]).build.1.render =
        "SELECT * FROM users WHERE (a = ? OR OR c = ?)" ∧
      (((newBuilder "users").Where "a = ?" [.int 1]).OrWhere "c = ?" [.int 2]).build.2 =
        ([.int 1, .int 2], []) ∧
      ((((newBuilder "users").Where "a = ?" [.int 1]).OrWhere "c = ?" [.int 2]).getWhere
        true).2.1.whereCond = none ∧
      Text.whereCond [.sql " WHERE ", .cond "a = ?", .sql " OR ", .cond "c = ?"] =
        some (.or (.atom "a = ?") (.atom "c = ?")) ∧
      ((newBuilder "users").Offset 5).build.1.render = "SELECT * FROM users OFFSET 5" ∧
      ((newBuilder "users").Offset 5).build.2 = ([], []) :=
  ⟨rfl, rfl, by decide, by decide, rfl, rfl⟩

/-- `Page(2^62, 4)`: the rows to skip are `(2^62 - 1) * 4 = 2^64 - 4`, but the stored `int64`
offset is `-4`, so neither `buildQuery` nor `Build` writes an `OFFSET`: both statements read the
first page, and `Build` records no error. -/
theorem page_offsetWraps :
    let t : Table := ((DB.mk "").table "users").Page (BitVec.ofNat 64 (2 ^ 62)) 4
    let b : Builder := (newBuilder "users").Page (BitVec.ofNat 64 (2 ^ 62)) 4
    (max (BitVec.ofNat 64 (2 ^ 62)).toInt 1 - 1) * 4 = 2 ^ 64 - 4 ∧
      t.offset.toInt = -4 ∧ (t.buildQuery "SELECT").2.1.render = "SELECT * FROM `users` LIMIT 4" ∧
      b.offset.toInt = -4 ∧ b.build.1.render = "SELECT * FROM users LIMIT 4" ∧ b.build.2.2 = [] :=
  ⟨by decide, by decide, rfl, by decide, rfl, rfl⟩

end Xlorm
