import Mathlib.Data.List.Sort
import Mathlib.Data.Nat.Digits
import Mathlib.Data.String.Basic
import Xlorm.Sql.Text

/-!
# The table builder (`table.go`, `DB.Table`)

A `Table` collects a query's parts through chained calls and renders them into a statement
when the chain ends in `Find`, `Count`, `Update` or `Delete`. Each chained method either
accepts its argument or logs a rejection and returns the table as it was: nothing of a
rejection reaches the statement or the caller's error. `conditionRejection` and
`DB.tableRejection` give the message each check logs; the logger itself is not modelled.

The condition methods keep a bit mask beside the conditions: `Where` sets `condAND` for the
first condition, `OrWhere` sets `condOR`, `NotWhere` sets `condNOT`, and `GetWhere` chooses
how to join the conditions from the mask alone, then clears it.

**The law** of the rendering: `GetWhere` joins *all* conditions with `OR` as soon as one
`OrWhere` was accepted, and with `AND` otherwise; a connective of one call never stays with
its own condition.
-/

namespace Xlorm

/-- A Go `interface{}` argument, as the statements hand it to the driver. -/
inductive Value where
  | null
  | int (i : Int)
  | str (s : String)
  | bool (b : Bool)
  deriving Repr, DecidableEq

/-- The condition bits. -/
def condAND : BitVec 64 := 1
/-- `condOR`. -/
def condOR : BitVec 64 := 2
/-- `condNOT`. -/
def condNOT : BitVec 64 := 4

/-- The part of a `DB` the builder reads: the table prefix. -/
structure DB where
  tablePre : String
  deriving Repr, DecidableEq

/-- `Table`, without its `db` pointer. -/
structure Table where
  tableName : String
  orderBy : String
  groupBy : String
  having : String
  fields : List String
  «where» : List Text
  joins : List String
  args : List Value
  total : BitVec 64
  limit : BitVec 64
  offset : BitVec 64
  hasTotal : Bool
  conditionFlags : BitVec 64
  conditionIndex : Nat
  deriving Repr, DecidableEq

/-- `Reset`: every field at its zero value. -/
def Table.reset : Table :=
  ⟨"", "", "", "", [], [], [], [], 0, 0, 0, false, 0, 0⟩

/-- `strings.ContainsAny(s, ";\x00")`. -/
def hasInjectionChar (s : String) : Bool :=
  s.toList.any fun c => c = ';' || c = Char.ofNat 0

/-- `strings.Count(s, "?")`. -/
def countPlaceholders (s : String) : Nat :=
  s.toList.count '?'

theorem countPlaceholders_append (s t : String) :
    countPlaceholders (s ++ t) = countPlaceholders s + countPlaceholders t := by
  simp [countPlaceholders, List.count_append]

theorem countPlaceholders_join (l : List String) :
    countPlaceholders (String.join l) = (l.map countPlaceholders).sum := by
  suffices ∀ acc, countPlaceholders (l.foldl (· ++ ·) acc) =
      countPlaceholders acc + (l.map countPlaceholders).sum by
    simpa [String.join, show countPlaceholders "" = 0 from rfl] using this ""
  induction l with
  | nil => simp
  | cons s l ih => intro acc; simp [ih, countPlaceholders_append, Nat.add_assoc]

/-- `strings.TrimSuffix`. -/
def trimSuffix (s suffix : String) : String :=
  if suffix.toList.isSuffixOf s.toList then String.mk (s.toList.take (s.length - suffix.length))
  else s

/-- `strings.HasPrefix`. -/
def hasPrefix (s pre : String) : Bool := pre.data.isPrefixOf s.data

/-- `strings.HasSuffix`. -/
def hasSuffix (s suffix : String) : Bool := suffix.data.isSuffixOf s.data

/-- `strings.TrimPrefix`. -/
def trimPrefix (s pre : String) : String :=
  if hasPrefix s pre then String.mk (s.data.drop pre.length) else s

/-- `strings.Split(s, sep)` for a one-character separator. -/
def splitChar (s : String) (sep : Char) : List String := (s.data.splitOn sep).map String.mk

/-- `GetTableName`: the prefixed name between backticks. -/
def DB.getTableName (db : DB) (tableName : String) : String :=
  "`" ++ db.tablePre ++ tableName ++ "`"

section Unicode

variable (isLetter isDigit : Char → Bool) (toLower : String → String)

/-- `escapeSQLIdentifier`, over Go's `unicode.IsLetter`, `unicode.IsDigit` and `strings.ToLower`:
a reserved word becomes `invalid`; another name keeps its letters, digits, underscores and dots,
between backticks. -/
def escapeSQLIdentifier (name : String) : String :=
  if toLower name ∈ ["select", "insert", "update", "delete"] then "`invalid`"
  else
    let safeName := name.toList.filter fun r => isLetter r || isDigit r || r = '_' || r = '.'
    if safeName.isEmpty then "``" else "`" ++ String.mk safeName ++ "`"

/-- `isValidSafeOrderBy`: letters, digits, `_`, `,` and blanks only. -/
def isValidSafeOrderBy (s : String) : Bool :=
  s.toList.all fun c => isLetter c || isDigit c || c = '_' || c = ',' || c = ' '

end Unicode

/-- `isValidFieldName`: a non-empty name of ASCII letters, digits, `_` and `.`. The code checks
byte by byte against an ASCII table, so a character outside ASCII fails as well. -/
def isValidFieldName (field : String) : Bool :=
  !field.isEmpty && field.toList.all fun c => c.isLower || c.isUpper || c.isDigit || c = '_' || c = '.'

/-- What `DB.Table` logs when it refuses a table name. -/
def DB.tableRejection (tableName : String) : Option String :=
  if tableName = "" then some "tableName不能为空"
  else if hasInjectionChar tableName then some "检测到可能的SQL注入尝试"
  else none

/-- `DB.Table`: a reset table, named unless the name is refused. -/
def DB.table (db : DB) (tableName : String) : Table :=
  match DB.tableRejection tableName with
  | some _ => Table.reset
  | none => { Table.reset with tableName := db.getTableName tableName }

/-- `DB.M`. -/
def DB.m (db : DB) (tableName : String) : Table := db.table tableName

namespace Table

/-! ## Conditions -/

/-- What a condition method logs when it refuses a (non-empty) condition. -/
def conditionRejection (condition : String) (args : List Value) : Option String :=
  if countPlaceholders condition ≠ args.length then some "条件参数数量不匹配"
  else if hasInjectionChar condition then some "检测到可能的SQL注入尝试"
  else none

/-- The body the three condition methods share: ignore an empty condition, keep the table on a
rejection, and otherwise append the condition's text and arguments, store the new flags and
count the condition. -/
def addCondition (t : Table) (condition : String) (args : List Value) (text : Text)
    (flags : BitVec 64) : Table :=
  if condition = "" then t
  else match conditionRejection condition args with
    | some _ => t
    | none =>
      { t with «where» := t.«where» ++ [text], args := t.args ++ args,
               conditionFlags := flags, conditionIndex := t.conditionIndex + 1 }

/-- `Where` (Go's capital kept: `where` is the field). The first condition sets `condAND`. -/
def Where (t : Table) (condition : String) (args : List Value) : Table :=
  t.addCondition condition args [.cond condition]
    (if t.conditionIndex = 0 then t.conditionFlags ||| condAND else t.conditionFlags)

/-- `OrWhere`. -/
def OrWhere (t : Table) (condition : String) (args : List Value) : Table :=
  t.addCondition condition args [.cond condition] (t.conditionFlags ||| condOR)

/-- `NotWhere`: the condition wrapped as `NOT (condition)`. -/
def NotWhere (t : Table) (condition : String) (args : List Value) : Table :=
  t.addCondition condition args [.sql "NOT (", .cond condition, .sql ")"]
    (t.conditionFlags ||| condNOT)

/-- `GetWhere`: the conditions joined by `OR` in parentheses once `condOR` is set, by `AND` in
parentheses once `condNOT` is, by bare `AND` otherwise; the flags and the index are cleared.
No conditions: no clause, and nothing cleared. -/
def getWhere (t : Table) (addPreStr : Bool) : Table × Text × List Value :=
  if t.«where».isEmpty then (t, [], [])
  else
    let body : Text :=
      if t.conditionFlags &&& condOR ≠ 0 then
        .sql "(" :: List.intercalate [.sql " OR "] t.«where» ++ [.sql ")"]
      else if t.conditionFlags &&& condNOT ≠ 0 then
        .sql "(" :: List.intercalate [.sql " AND "] t.«where» ++ [.sql ")"]
      else List.intercalate [.sql " AND "] t.«where»
    ({ t with conditionFlags := 0, conditionIndex := 0 },
      (if addPreStr then [.sql " WHERE "] else []) ++ body, t.args)

/-- The README's chain `Where(a).NotWhere(b).OrWhere(c)`, documented as
`(a AND NOT (b)) OR c`: the clause `GetWhere` writes is `(a OR NOT (b) OR c)`, true when all
three conditions are false, where the documented reading is false. -/
theorem getWhere_orWhere_disjoinsEarlierWhere :
    ∃ w : Text, (((((DB.table ⟨""⟩ "users").Where "age > ?" [.int 18]).NotWhere "status = ?"
        [.str "banned"]).OrWhere "vip = ?" [.bool true]).getWhere true).2.1 = w ∧
      w.render = " WHERE (age > ? OR NOT (status = ?) OR vip = ?)" ∧
      w.whereCond.map (Cond.eval fun _ => false) = some true ∧
      (Cond.or (.and (.atom "age > ?") (.not (.atom "status = ?"))) (.atom "vip = ?")).eval
        (fun _ => false) = false :=
  ⟨_, rfl, by decide, by decide, by decide⟩

/-! ## The other chained methods

Go's capitals are kept for the methods whose lower-case names are fields of `Table`. -/

/-- What `Join`, `GroupBy`, `Having` and `OrderBy` log when they refuse a text with `;` or NUL. -/
def injectionRejection (s : String) : Option String :=
  if hasInjectionChar s then some "检测到可能的SQL注入尝试" else none

/-- The body `Join`, `GroupBy` and `Having` share: ignore an empty text, refuse one with `;` or
NUL, and store any other. -/
def setChecked (t : Table) (s : String) (store : Table → String → Table) : Table :=
  if s = "" then t
  else match injectionRejection s with
    | some _ => t
    | none => store t s

/-- `Join`: the join text appended to the joins. -/
def Join (t : Table) (join : String) : Table :=
  t.setChecked join fun t join => { t with joins := t.joins ++ [join] }

/-- `GroupBy`. -/
def GroupBy (t : Table) (groupBy : String) : Table :=
  t.setChecked groupBy fun t groupBy => { t with groupBy := groupBy }

/-- `Having`. -/
def Having (t : Table) (having : String) : Table :=
  t.setChecked having fun t having => { t with having := having }

section Unicode

variable (isLetter isDigit : Char → Bool)

/-- What `OrderBy` logs when it refuses an order: first the character check, then the
injection check. -/
def orderByRejection (order : String) : Option String :=
  if !isValidSafeOrderBy isLetter isDigit order then some "非法排序字段"
  else injectionRejection order

/-- `OrderBy`, over Go's `unicode.IsLetter` and `unicode.IsDigit`. -/
def OrderBy (t : Table) (order : String) : Table :=
  if order = "" then t
  else match orderByRejection isLetter isDigit order with
    | some _ => t
    | none => { t with orderBy := order }

end Unicode

/-- What `Limit` logs for a negative limit. -/
def limitRejection (limit : BitVec 64) : Option String :=
  if limit.toInt < 0 then some "limit不能为负数" else none

/-- `Limit`. -/
def Limit (t : Table) (limit : BitVec 64) : Table :=
  match limitRejection limit with
  | some _ => t
  | none => { t with limit := limit }

/-- `Page`: a page below 1 is 1, a size below 1 is 20; the offset is computed in `int64`. -/
def Page (t : Table) (page pageSize : BitVec 64) : Table :=
  let page := if page.toInt < 1 then 1 else page
  let pageSize := if pageSize.toInt < 1 then 20 else pageSize
  { t with limit := pageSize, offset := (page - 1) * pageSize }

/-- What `Offset` logs for a negative offset. -/
def offsetRejection (offset : BitVec 64) : Option String :=
  if offset.toInt < 0 then some "offset不能为负数" else none

/-- `Offset`. -/
def Offset (t : Table) (offset : BitVec 64) : Table :=
  match offsetRejection offset with
  | some _ => t
  | none => { t with offset := offset }

/-- `Fields`: the names appended in order, empty ones skipped, until an invalid one, which is
logged with `检测到可能的SQL注入尝试` and ends the call; the names before it stay appended. -/
def Fields (t : Table) : List String → Table
  | [] => t
  | field :: fields =>
    if field = "" then t.Fields fields
    else if !isValidFieldName field then t
    else { t with fields := t.fields ++ [field] }.Fields fields

/-- `HasTotal`. -/
def HasTotal (t : Table) (need : Bool) : Table := { t with hasTotal := need }

/-! ## Statements -/

/-- `strconv.FormatInt(x, 10)` of an `int64`. -/
def formatInt (x : BitVec 64) : String := toString x.toInt

/-- `buildQuery`: the statement of a `SELECT`, `COUNT` or `DELETE`, with its arguments (`none`
is Go's nil slice, left so when there is no WHERE clause). Another type is refused with the
log line `不支持的查询类型` and an empty statement. -/
def buildQuery (t : Table) (queryType : String) : Table × Text × Option (List Value) :=
  let head : Option Text :=
    if queryType = "SELECT" then
      some (.sql "SELECT " ::
        (if t.fields.isEmpty then [.sql "*"]
         else [.sql "`", .sql (String.intercalate "`, `" t.fields), .sql "`"]) ++
        [.sql " FROM ", .sql t.tableName])
    else if queryType = "COUNT" then some [.sql "SELECT COUNT(*) FROM ", .sql t.tableName]
    else if queryType = "DELETE" then some [.sql "DELETE FROM ", .sql t.tableName]
    else none
  match head with
  | none => (t, [], none)
  | some head =>
    let joins : Text := t.joins.flatMap fun join => [.sql " ", .sql join]
    let (t', whereText, args) : Table × Text × Option (List Value) :=
      if t.«where».isEmpty then (t, [], none)
      else
        let (t', whereString, whereArgs) := t.getWhere true
        if whereString.render = "" then (t', [], none) else (t', whereString, some whereArgs)
    let group : Text :=
      if t.groupBy = "" then []
      else [.sql " GROUP BY ", .sql t.groupBy] ++
        (if t.having = "" then [] else [.sql " HAVING ", .sql t.having])
    let order : Text := if t.orderBy = "" then [] else [.sql " ORDER BY ", .sql t.orderBy]
    let limit : Text :=
      if 0 < t.limit.toInt then
        [.sql " LIMIT ", .sql (formatInt t.limit)] ++
          (if 0 < t.offset.toInt then [.sql " OFFSET ", .sql (formatInt t.offset)] else [])
      else []
    (t', head ++ joins ++ whereText ++ group ++ order ++ limit, args)

/-- `buildUpdateSQL`: `UPDATE name SET `f` = ?, ... WHERE ...` with the WHERE arguments, or the
error for no fields or no WHERE clause. -/
def buildUpdateSQL (t : Table) (fields : List String) :
    Table × Except String (Text × List Value) :=
  if fields.isEmpty then (t, .error "更新操作必须指定字段")
  else
    let (t', whereClause, whereArgs) := t.getWhere true
    if whereClause.render = "" then (t', .error "更新操作必须指定 WHERE 条件")
    else
      let clause := String.join (fields.map fun field => "`" ++ field ++ "` = ?,")
      (t', .ok ([.sql "UPDATE ", .sql t.tableName, .sql " SET ", .sql (trimSuffix clause ",")] ++
        whereClause, whereArgs))

end Table

/-- A mapped `Except` that succeeded: the value before the map. -/
theorem except_map_eq_ok {ε α β : Type} {f : α → β} :
    ∀ {x : Except ε α} {b : β}, x.map f = .ok b → ∃ a, x = .ok a ∧ f a = b
  | .ok a, _, h => ⟨a, rfl, by cases h; rfl⟩
  | .error _, _, h => by cases h

/-- A Go `map[string]interface{}`: its entries, one per key. -/
abbrev Record := List (String × Value)

/-- `extractFromMap`: the keys in sorted order and their values in that order. -/
def extractFromMap (m : Record) : List String × List Value :=
  let fields := (m.map Prod.fst).insertionSort (· ≤ ·)
  (fields, fields.map fun field => (m.lookup field).getD .null)

namespace Table

/-- `update` with map data: the statement it executes with its arguments (the map's values,
then the WHERE arguments), or the error it returns before executing anything. -/
def update (t : Table) (data : Record) : Except String (Text × List Value) :=
  let (fields, values) := extractFromMap data
  match (t.buildUpdateSQL fields).2 with
  | .error e => .error e
  | .ok (query, whereArgs) => .ok (query, values ++ whereArgs)

/-- A map key is pasted between backticks as it is: the key ``role` = 1, `name`` closes its
quote, and `= 1` becomes an assignment outside every identifier. -/
theorem update_key_closesQuote :
    (((DB.table ⟨""⟩ "users").Where "id = ?" [.int 1]).update
        [("role` = 1, `name", .str "bob")]).map (fun r => (r.1.render, r.2)) =
      .ok ("UPDATE `users` SET `role` = 1, `name` = ? WHERE id = ?", [.str "bob", .int 1]) ∧
    (outsideQuotes .outside
        "UPDATE `users` SET `role` = 1, `name` = ? WHERE id = ?".toList).map String.mk =
      some "UPDATE  SET  = 1,  = ? WHERE id = ?" :=
  ⟨rfl, by decide⟩

/-- `delete`: the statement it executes with its arguments, or its error for an empty statement
or a nil argument list. -/
def delete (t : Table) : Except String (Text × List Value) :=
  match t.buildQuery "DELETE" with
  | (_, query, some args) =>
    if query.render = "" then .error "构建查询语句失败，查询语句或参数为空" else .ok (query, args)
  | (_, _, none) => .error "构建查询语句失败，查询语句或参数为空"

/-- A rejected condition is only logged: the delete runs with the conditions that were
accepted, here on every row of the tenant. -/
theorem delete_runsWithoutRejectedCondition :
    (((DB.table ⟨""⟩ "users").Where "tenant = ?" [.int 1]).Where "id IN (?, ?)"
        [.int 5]).delete.map (fun r => (r.1.render, r.2)) =
      .ok ("DELETE FROM `users` WHERE tenant = ?", [.int 1]) :=
  rfl

end Table

end Xlorm
