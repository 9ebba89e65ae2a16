import Xlorm.Metrics.Accounting
import Xlorm.Sql.Write

/-!
# What the database calls record (`DB.Begin`, `PrepareContext`, `Query`, `QueryWithContext`,
`Exec`, and the table's `Count`, `Find`, `findAllWithContext`, `FindAllWithCursor`, `insert`,
`update`, `delete`)

Every call that reaches the driver hands `asyncDBMetrics` closures for what happened.
`RecordError` is recorded when a driver call fails. `RecordQueryDuration` is recorded under the
call's own type when the call succeeds. `PrepareContext`, `Query`, `QueryWithContext`, `Exec`
and the two reads also record `RecordSlowQuery` past the threshold. A failure before the driver
records nothing: a nil connection, an empty query, or a statement that cannot be built. The
driver's answers and the clock are inputs. A `Reply` is the driver's error, if any, and the
`time.Since(startTime)` the method reads after it. The rows and results the driver hands back
pass through to the caller and are left out, and so are the logger's lines.

The methods of `DB` compare `duration > db.slowQueryThreshold`. The reads of `Table` compare
`duration >= t.db.slowQueryThreshold`. Both are signed comparisons of `time.Duration`s. A read
with `HasTotal` runs the count table's `Count` first, which records its own closures.
`FindAllWithCursor` files its duration under `findAllWithContext`. `Find` hands back
`sql.ErrNoRows` for a read that found no row, after recording it as a query. An `insert` whose
`LastInsertId` fails has run its statement but records nothing.

**The law** (`meteredRun_accounting`): for every run of these calls, with `ResetDBMetrics`
between any of them, the aggregator fed their closures in order holds what the calls since the
last reset recorded. In that log `slow_queries` never exceeds `total_queries`, there is at most
one error per call that returned an error, and at least one query per call that returned nil.
-/

namespace Xlorm

/-- What the driver and the clock give a method that reaches the driver: the driver's error (none
for nil), and the `time.Since(startTime)` the method reads after it. -/
structure Reply where
  err : Option String
  duration : Duration
  deriving Repr, DecidableEq

/-- The fields of `DB` the metered methods read: whether the connection `db.DB` is set (false
also for a nil `db`), and `slowQueryThreshold`. -/
structure MeteredDB where
  connected : Bool
  slowQueryThreshold : Duration
  deriving Repr, DecidableEq

/-- What a metered method does: the error it returns (none for nil), and the closures it hands
to `asyncDBMetrics`, in order. -/
abbrev Metered := Option String × List MetricOp

namespace MeteredDB

/-- The error of every method of `DB` on a nil connection. -/
def nilConnection : String := "数据库连接为空"

/-- What `PrepareContext`, `Query`, `QueryWithContext` and `Exec` do once the query goes to the
driver: a failure is recorded and returned in the method's words; a success is recorded under the
method's type and, past the threshold, as a slow query. -/
def driverCall (db : MeteredDB) (failure queryType : String) (reply : Reply) : Metered :=
  match reply.err with
  | some e => (some (failure ++ e), [.error])
  | none => (none, .queryDuration queryType reply.duration ::
      if db.slowQueryThreshold.slt reply.duration then [.slowQuery] else [])

/-- The body `PrepareContext`, `Query`, `QueryWithContext` and `Exec` share: the nil check, the
empty-query check of the two that have one (`emptyQuery` is its error), then the driver. -/
def call (db : MeteredDB) (emptyQuery : Option String) (failure queryType query : String)
    (reply : Reply) : Metered :=
  if !db.connected then (some nilConnection, [])
  else
    match emptyQuery with
    | some e => if query = "" then (some e, []) else db.driverCall failure queryType reply
    | none => db.driverCall failure queryType reply

/-- `PrepareContext`. -/
def prepareContext (db : MeteredDB) (query : String) (reply : Reply) : Metered :=
  db.call none "预处理SQL语句失败: " "prepare" query reply

/-- `Query`. -/
def query (db : MeteredDB) (query : String) (reply : Reply) : Metered :=
  db.call (some "执行查询失败，查询语句为空") "查询失败: " "query" query reply

/-- `QueryWithContext`. -/
def queryWithContext (db : MeteredDB) (query : String) (reply : Reply) : Metered :=
  db.call none "查询失败: " "queryWithContext" query reply

/-- `Exec`. -/
def exec (db : MeteredDB) (query : String) (reply : Reply) : Metered :=
  db.call (some "执行更新失败，查询语句为空") "更新失败: " "exec" query reply

/-- `Begin`: the nil check, then the driver's `Begin`; a failure is recorded and returned with the
trace id, a success is recorded under `begin_transaction`, with no slow check. -/
def begin (db : MeteredDB) (traceID : String) (reply : Reply) : Metered :=
  if !db.connected then (some nilConnection, [])
  else
    match reply.err with
    | some e => (some ("开始事务失败: " ++ e ++ ", trace_id:" ++ traceID), [.error])
    | none => (none, [.queryDuration "begin_transaction" reply.duration])

end MeteredDB

namespace Metered

/-- `Table.Count`: `buildQuery("COUNT")` always builds; the `QueryRow(...).Scan` fails, recorded
and returned wrapped, or succeeds, recorded under `count` with no slow check. -/
def count (reply : Reply) : Metered :=
  match reply.err with
  | some e => (some ("执行查询失败: " ++ e), [.error])
  | none => (none, [.queryDuration "count" reply.duration])

/-- A driver call of a read after its statement is sent: `QueryContext`, `rows.Columns()`, a
`rows.Scan`, or `rows.Err()`. -/
inductive ReadStep where
  | queryContext
  | columns
  | scan
  | rowsErr
  deriving Repr, DecidableEq

/-- The words a read wraps a failed step's error in. -/
def ReadStep.failure : ReadStep → String
  | .queryContext => "执行查询失败: "
  | .columns => "获取列信息失败: "
  | .scan => "扫描数据失败: "
  | .rowsErr => "遍历结果集失败: "

/-- How a read ends: at the first driver step that fails, with its error; for
`FindAllWithCursor`, at the first row the caller's handler refuses, with the handler's error; or
with every row read. -/
inductive ReadEnd where
  | stepFailed (step : ReadStep) (e : String)
  | handlerFailed (e : String)
  | done
  deriving Repr, DecidableEq

/-- The body `findAllWithContext` and `FindAllWithCursor` share: with `HasTotal`, the count
table's `Count` first, its failure returned wrapped; then the read. A failed driver step is
recorded and returned wrapped, a handler's error is returned as it is, and a read that ends is
recorded under its type and, from the threshold on, as a slow query. -/
def read (db : MeteredDB) (hasTotal : Bool) (findType : String) (countReply : Reply)
    (ending : ReadEnd) (duration : Duration) : Metered :=
  match if hasTotal then count countReply else (none, []) with
  | (some e, ops) => (some ("获取记录总数失败: " ++ e), ops)
  | (none, ops) =>
    match ending with
    | .stepFailed step e => (some (step.failure ++ e), ops ++ [.error])
    | .handlerFailed e => (some e, ops)
    | .done => (none, ops ++ .queryDuration findType duration ::
        if db.slowQueryThreshold.sle duration then [.slowQuery] else [])

/-- `findAllWithContext(ctx, findType)`, behind `FindAll` (`findAll`) and `FindAllWithContext`
(`findAllWithContext`); the empty type is `findAllWithContext`. -/
def findAllWithContext (db : MeteredDB) (t : Table) (findType : String) (countReply : Reply)
    (failure : Option (ReadStep × String)) (duration : Duration) : Metered :=
  read db t.hasTotal (if findType = "" then "findAllWithContext" else findType) countReply
    (match failure with
      | some (step, e) => .stepFailed step e
      | none => .done)
    duration

/-- `sql.ErrNoRows`. -/
def errNoRows : String := "sql: no rows in result set"

/-- `Find`: `findAllWithContext` of type `find` on the table with `HasTotal` off; a read that found
no row returns `sql.ErrNoRows`. -/
def Find (db : MeteredDB) (t : Table) (countReply : Reply) (failure : Option (ReadStep × String))
    (duration : Duration) (noRows : Bool) : Metered :=
  match findAllWithContext db { t with hasTotal := false } "find" countReply failure duration with
  | (none, ops) => (if noRows then some errNoRows else none, ops)
  | r => r

/-- `FindAllWithCursor`: the read, filed under `findAllWithContext`. -/
def FindAllWithCursor (db : MeteredDB) (t : Table) (countReply : Reply) (ending : ReadEnd)
    (duration : Duration) : Metered :=
  read db t.hasTotal "findAllWithContext" countReply ending duration

/-- The body `update` and `delete` share once their statement is built: its error returned with
nothing recorded; `ExecContext`'s error recorded and returned as it is; a success recorded
under the method's type, with no slow check. -/
def execContext {α : Type} (queryType : String) (built : Except String α) (reply : Reply) :
    Metered :=
  match built with
  | .error e => (some e, [])
  | .ok _ =>
    match reply.err with
    | some e => (some e, [.error])
    | none => (none, [.queryDuration queryType reply.duration])

/-- `update`, for every shape of `data`. -/
def update (t : Table) (data : WriteData) (reply : Reply) : Metered :=
  execContext "update" (t.Update data) reply

/-- `delete`. -/
def delete (t : Table) (reply : Reply) : Metered :=
  execContext "delete" t.delete reply

/-- `insert` once its statement is built (`built`, what `Table.insert` returns where it does not
panic): its error returned with nothing recorded; `ExecContext`'s error recorded and returned;
`LastInsertId`'s error returned with nothing recorded; a success recorded under `insert`. -/
def insertExec (built : Except String (String × List Value)) (reply : Reply)
    (lastInsertIdErr : Option String) : Metered :=
  match built with
  | .error e => (some e, [])
  | .ok _ =>
    match reply.err, lastInsertIdErr with
    | some e, _ => (some e, [.error])
    | none, some e => (some e, [])
    | none, none => (none, [.queryDuration "insert" reply.duration])

/-- `insert`: `Table.insert`'s statement, then the driver; `none` where building it panics. -/
def insert (sum32 : String → UInt32) (t : Table) (data : WriteData) (insertType : String)
    (placeholderCache : ShardedCache) (reply : Reply) (lastInsertIdErr : Option String) :
    ShardedCache × Option Metered :=
  let built := t.insert sum32 data insertType placeholderCache
  (built.1, built.2.map fun b => insertExec b reply lastInsertIdErr)

end Metered

open Metered

/-- A call on the database whose closures reach `asyncDBMetrics`, with what the driver and the
clock give it. `insert` carries the statement `Table.insert` built. -/
inductive DBCall where
  | begin (traceID : String) (reply : Reply)
  | prepareContext (query : String) (reply : Reply)
  | query (query : String) (reply : Reply)
  | queryWithContext (query : String) (reply : Reply)
  | exec (query : String) (reply : Reply)
  | count (reply : Reply)
  | find (t : Table) (countReply : Reply) (failure : Option (ReadStep × String))
      (duration : Duration) (noRows : Bool)
  | findAllWithContext (t : Table) (findType : String) (countReply : Reply)
      (failure : Option (ReadStep × String)) (duration : Duration)
  | findAllWithCursor (t : Table) (countReply : Reply) (ending : ReadEnd) (duration : Duration)
  | insert (built : Except String (String × List Value)) (reply : Reply)
      (lastInsertIdErr : Option String)
  | update (t : Table) (data : WriteData) (reply : Reply)
  | delete (t : Table) (reply : Reply)

/-- What a call does. -/
def DBCall.run (db : MeteredDB) : DBCall → Metered
  | .begin traceID reply => db.begin traceID reply
  | .prepareContext q reply => db.prepareContext q reply
  | .query q reply => db.query q reply
  | .queryWithContext q reply => db.queryWithContext q reply
  | .exec q reply => db.exec q reply
  | .count reply => Metered.count reply
  | .find t countReply failure duration noRows =>
    Metered.Find db t countReply failure duration noRows
  | .findAllWithContext t findType countReply failure duration =>
    Metered.findAllWithContext db t findType countReply failure duration
  | .findAllWithCursor t countReply ending duration =>
    Metered.FindAllWithCursor db t countReply ending duration
  | .insert built reply lastInsertIdErr => Metered.insertExec built reply lastInsertIdErr
  | .update t data reply => Metered.update t data reply
  | .delete t reply => Metered.delete t reply

/-- A step of a run on the database: a metered call, or `ResetDBMetrics` between calls. -/
inductive DBStep where
  | call (c : DBCall)
  | reset

/-- The calls a step makes on the aggregator, through the single consumer. -/
def DBStep.metricsCalls (db : MeteredDB) : DBStep → List MetricsCall
  | .call c => (c.run db).2.map MetricsCall.op
  | .reset => [.reset]

/-- One step on the calls since the last reset: a reset forgets them. -/
def DBStep.logStep (calls : List DBCall) : DBStep → List DBCall
  | .call c => calls ++ [c]
  | .reset => []

/-- The calls of a run since its last reset. -/
def DBStep.sinceReset (steps : List DBStep) : List DBCall := steps.foldl DBStep.logStep []

/-! ## The closures of one call -/

open MetricsCall

/-- The counts of one call's closures: no more slow queries than queries; an error only when
the call returns one, and at most one; and a query when it returns nil. -/
structure Counted (r : Metered) : Prop where
  slow_le : slowCount (r.2.map op) ≤ queryCount (r.2.map op)
  error_le : errorCount (r.2.map op) ≤ if r.1.isSome then 1 else 0
  query_of_ok : r.1 = none → 1 ≤ queryCount (r.2.map op)

theorem counted_error (e : String) : Counted (some e, [.error]) := ⟨le_refl _, le_refl _, nofun⟩

theorem counted_refused (e : String) : Counted (some e, []) := ⟨le_refl _, Nat.zero_le _, nofun⟩

/-- A success recorded as one query, with or without a slow query after it. -/
theorem counted_query (queryType : String) (duration : Duration) (slow : Bool) :
    Counted (none, .queryDuration queryType duration :: if slow then [.slowQuery] else []) := by
  cases slow <;> exact ⟨by simp [slowCount, queryCount], by simp [errorCount], fun _ => by
    simp [queryCount]⟩

theorem counted_driverCall (db : MeteredDB) (failure queryType : String) (reply : Reply) :
    Counted (db.driverCall failure queryType reply) := by
  unfold MeteredDB.driverCall
  split
  · exact counted_error _
  · exact counted_query _ _ _

theorem counted_call (db : MeteredDB) (emptyQuery : Option String)
    (failure queryType query : String) (reply : Reply) :
    Counted (db.call emptyQuery failure queryType query reply) := by
  unfold MeteredDB.call
  split
  · exact counted_refused _
  · split
    · split
      · exact counted_refused _
      · exact counted_driverCall _ _ _ _
    · exact counted_driverCall _ _ _ _

theorem counted_begin (db : MeteredDB) (traceID : String) (reply : Reply) :
    Counted (db.begin traceID reply) := by
  unfold MeteredDB.begin
  split
  · exact counted_refused _
  · split
    · exact counted_error _
    · exact counted_query "begin_transaction" _ false

theorem counted_count (reply : Reply) : Counted (Metered.count reply) := by
  unfold Metered.count
  split
  · exact counted_error _
  · exact counted_query "count" _ false

/-- The prefix a read's count leaves: no error, and at most one query, which makes the read's
counts go one further at most. -/
theorem counted_read (db : MeteredDB) (hasTotal : Bool) (findType : String) (countReply : Reply)
    (ending : ReadEnd) (duration : Duration) :
    Counted (Metered.read db hasTotal findType countReply ending duration) := by
  unfold Metered.read Metered.count
  cases hasTotal <;> cases countReply.err <;> cases ending <;>
    simp only [Bool.false_eq_true, if_false, if_true] <;>
    first
    | exact counted_error _
    | exact counted_refused _
    | refine ⟨?_, ?_, ?_⟩ <;> (try split) <;> simp_all [slowCount, queryCount, errorCount]

theorem counted_findAllWithContext (db : MeteredDB) (t : Table) (findType : String)
    (countReply : Reply) (failure : Option (ReadStep × String)) (duration : Duration) :
    Counted (Metered.findAllWithContext db t findType countReply failure duration) :=
  counted_read _ _ _ _ _ _

/-- `Find` turns a nil into `sql.ErrNoRows` on an empty read, which keeps the counts. -/
theorem counted_Find (db : MeteredDB) (t : Table) (countReply : Reply)
    (failure : Option (ReadStep × String)) (duration : Duration) (noRows : Bool) :
    Counted (Metered.Find db t countReply failure duration noRows) := by
  have h := counted_findAllWithContext db { t with hasTotal := false } "find" countReply failure
    duration
  unfold Metered.Find
  split
  · next ops heq =>
    rw [heq] at h
    refine ⟨h.slow_le, le_trans h.error_le (by simp), fun _ => h.query_of_ok rfl⟩
  · exact h

theorem counted_FindAllWithCursor (db : MeteredDB) (t : Table) (countReply : Reply)
    (ending : ReadEnd) (duration : Duration) :
    Counted (Metered.FindAllWithCursor db t countReply ending duration) :=
  counted_read _ _ _ _ _ _

theorem counted_execContext {α : Type} (queryType : String) (built : Except String α)
    (reply : Reply) : Counted (Metered.execContext queryType built reply) := by
  unfold Metered.execContext
  split
  · exact counted_refused _
  · split
    · exact counted_error _
    · exact counted_query queryType _ false

theorem counted_insertExec (built : Except String (String × List Value)) (reply : Reply)
    (lastInsertIdErr : Option String) : Counted (Metered.insertExec built reply lastInsertIdErr) := by
  unfold Metered.insertExec
  split
  · exact counted_refused _
  · split
    · exact counted_error _
    · exact counted_refused _
    · exact counted_query "insert" _ false

/-- Every call counts as `Counted` says. -/
theorem DBCall.counted (db : MeteredDB) : ∀ c : DBCall, Counted (c.run db)
  | .begin .. => counted_begin ..
  | .prepareContext q reply => counted_call db none _ _ q reply
  | .query q reply => counted_call db (some _) _ _ q reply
  | .queryWithContext q reply => counted_call db none _ _ q reply
  | .exec q reply => counted_call db (some _) _ _ q reply
  | .count .. => counted_count ..
  | .find .. => counted_Find ..
  | .findAllWithContext .. => counted_findAllWithContext ..
  | .findAllWithCursor .. => counted_FindAllWithCursor ..
  | .insert .. => counted_insertExec ..
  | .update .. | .delete .. => counted_execContext ..

/-! ## A run of calls -/

/-- The aggregator's log since its last reset is the closures of the calls since the run's last
reset. -/
theorem foldl_logStep_flatMap (db : MeteredDB) : ∀ (steps : List DBStep) (acc : List DBCall),
    (steps.flatMap (DBStep.metricsCalls db)).foldl logStep
        (acc.flatMap fun c => (c.run db).2.map op) =
      (steps.foldl DBStep.logStep acc).flatMap fun c => (c.run db).2.map op
  | [], _ => rfl
  | .call c :: steps, acc => by
    rw [List.flatMap_cons, List.foldl_append, DBStep.metricsCalls, foldl_logStep_ops,
      ← List.flatMap_singleton (fun c => (c.run db).2.map op) c, ← List.flatMap_append,
      foldl_logStep_flatMap db steps]
    rfl
  | .reset :: steps, acc => by
    rw [List.flatMap_cons, List.foldl_append, DBStep.metricsCalls]
    exact foldl_logStep_flatMap db steps []

/-- The counts of a run's closures, call by call. -/
theorem counted_flatMap (db : MeteredDB) : ∀ calls : List DBCall,
    let log := calls.flatMap fun c => (c.run db).2.map op
    slowCount log ≤ queryCount log ∧
      errorCount log ≤ (calls.filter fun c => (c.run db).1.isSome).length ∧
      (calls.filter fun c => (c.run db).1.isNone).length ≤ queryCount log
  | [] => ⟨le_refl _, le_refl _, le_refl _⟩
  | c :: calls => by
    obtain ⟨hslow, herr, hok⟩ := counted_flatMap db calls
    have hc := c.counted db
    simp only [List.flatMap_cons, slowCount_append, queryCount_append, errorCount_append,
      List.filter_cons]
    refine ⟨Nat.add_le_add hc.slow_le hslow, ?_, ?_⟩ <;>
      cases herr' : (c.run db).1 <;> simp only [herr', Option.isSome_none, Option.isSome_some,
        Option.isNone_none, Option.isNone_some, if_true, Bool.false_eq_true, if_false,
        List.length_cons] at hc ⊢
    · have := hc.error_le
      simp only [herr', Option.isSome_none, Bool.false_eq_true, if_false] at this
      omega
    · have := hc.error_le
      simp only [herr', Option.isSome_some, if_true] at this
      omega
    · have := hc.query_of_ok herr'
      omega
    · omega

/-- For every run of calls on the database (`Begin`, `PrepareContext`, `Query`,
`QueryWithContext`, `Exec`, `Count`, `Find`, `FindAll`, `FindAllWithContext`,
`FindAllWithCursor`, `insert`, `update`, `delete`, with any answers of the driver and any
durations), with `ResetDBMetrics` between any of them, and the single consumer applying their
closures in order: the aggregator holds what the calls since the last reset recorded. In that
log there are no more slow queries than queries, at most one error per call that returned an
error, and at least one query per call that returned nil. -/
theorem meteredRun_accounting (db : MeteredDB) (dbname : String) (steps : List DBStep) :
    let m : DBMetrics := (steps.flatMap (DBStep.metricsCalls db)).foldl MetricsCall.apply
      (DBMetrics.newDBMetrics dbname)
    let calls := DBStep.sinceReset steps
    let log := calls.flatMap fun c => (c.run db).2.map MetricsCall.op
    m.Holds log ∧ slowCount log ≤ queryCount log ∧
      errorCount log ≤ (calls.filter fun c => (c.run db).1.isSome).length ∧
      (calls.filter fun c => (c.run db).1.isNone).length ≤ queryCount log := by
  intro m calls log
  have h := DBMetrics.Holds.foldl (steps.flatMap (DBStep.metricsCalls db))
    (DBMetrics.holds_newDBMetrics dbname)
  have hlog : (steps.flatMap (DBStep.metricsCalls db)).foldl logStep [] = log :=
    foldl_logStep_flatMap db steps []
  rw [hlog] at h
  exact ⟨h, counted_flatMap db calls⟩

/-- At exactly a one-second threshold, `Query` (compared with `>`) records no slow query, while a
read of `Table` (compared with `>=`) records one. -/
example :
    ((⟨true, 1000000000⟩ : MeteredDB).query "SELECT 1" ⟨none, 1000000000⟩).2 =
        [.queryDuration "query" 1000000000] ∧
      (Metered.findAllWithContext ⟨true, 1000000000⟩ (DB.table ⟨""⟩ "users") "findAll"
          ⟨none, 0⟩ none 1000000000).2 = [.queryDuration "findAll" 1000000000, .slowQuery] :=
  ⟨rfl, rfl⟩

/-! ## Through the pipeline -/

/-- For every sequence of calls on the database whose closures go through the asynchronous
pipeline, in any interleaving with the consumer's loop and `Stop`: the aggregator holds a
subsequence of the calls' closures in call order, so it counts no more errors than calls that
returned one and no more queries than the calls recorded. At a quiescent point where the buffer
is empty and nothing was dropped (fewer than `2 ^ 64` closures), it holds all of them, with no
more slow queries than queries and at least one query per call that returned nil. -/
theorem meteredPipeline_accounting (db : MeteredDB) (dbname : String) (bufferSize : Int)
    (calls : List DBCall) {steps : List MetricsStep}
    (hrec : recorded steps = calls.flatMap fun c => (c.run db).2) {s : AsyncDBMetrics}
    (hrun : (newAsyncDBMetrics dbname bufferSize).run steps = some s) :
    let log := calls.flatMap fun c => (c.run db).2.map MetricsCall.op
    (∃ applied : List MetricsCall, applied.Sublist log ∧ s.dbMetrics.Holds applied ∧
      errorCount applied ≤ (calls.filter fun c => (c.run db).1.isSome).length ∧
      queryCount applied ≤ queryCount log) ∧
    (s.Quiescent → s.buffer.count = 0 → s.droppedMetrics = 0 → log.length < 2 ^ 64 →
      s.dbMetrics.Holds log ∧ slowCount log ≤ queryCount log ∧
        (calls.filter fun c => (c.run db).1.isNone).length ≤ queryCount log) := by
  intro log
  obtain ⟨applied, hsub, hm, hdrain⟩ := AsyncDBMetrics.run_applies dbname bufferSize steps hrun
  have hlog : (recorded steps).map op = log := by rw [hrec, List.map_flatMap]
  have hsub' : (applied.map op).Sublist log := hlog ▸ hsub.map op
  obtain ⟨hslow, herr, hok⟩ := counted_flatMap db calls
  refine ⟨⟨applied.map op, hsub', hm ▸ holds_foldl_ops dbname applied,
    (hsub'.countP_le _).trans herr, hsub'.countP_le _⟩, fun hq h0 hd hlt => ?_⟩
  have hlen : (recorded steps).length < 2 ^ 64 := by rwa [← List.length_map _ op, hlog]
  rw [hdrain hq h0 hd hlen] at hm
  exact ⟨hm ▸ hlog ▸ holds_foldl_ops dbname _, hslow, hok⟩

/-- `meteredPipeline_accounting` at a failed `Exec` and a `Query` under the threshold, drained
one closure at a time. -/
theorem meteredPipeline_accounting_drained :
    let db : MeteredDB := ⟨true, 1000⟩
    let calls : List DBCall := [.exec "UPDATE t SET a = 1" ⟨some "timeout", 0⟩, .query "SELECT 1" ⟨none, 5⟩]
    let steps : List MetricsStep := [.record .error, .select, .dequeue, .apply,
      .record (.queryDuration "query" 5), .select, .dequeue, .apply]
    recorded steps = (calls.flatMap fun c => (c.run db).2) ∧
    ∃ s : AsyncDBMetrics, (newAsyncDBMetrics "master" 1).run steps = some s ∧
      let log := calls.flatMap fun c => (c.run db).2.map MetricsCall.op
      (∃ applied : List MetricsCall, applied.Sublist log ∧ s.dbMetrics.Holds applied ∧
        errorCount applied ≤ (calls.filter fun c => (c.run db).1.isSome).length ∧
        queryCount applied ≤ queryCount log) ∧
      (s.Quiescent → s.buffer.count = 0 → s.droppedMetrics = 0 → log.length < 2 ^ 64 →
        s.dbMetrics.Holds log ∧ slowCount log ≤ queryCount log ∧
          (calls.filter fun c => (c.run db).1.isNone).length ≤ queryCount log) :=
  by
  intro db calls steps
  exact ⟨rfl, _, rfl, @meteredPipeline_accounting db "master" 1 calls steps rfl _ rfl⟩

/-- With a buffer of one slot, one `Query` slower than the threshold: its `RecordSlowQuery`
overwrites its `RecordQueryDuration` in the full buffer, and once the consumer has drained the
buffer the aggregator counts a slow query and no query, the drop that
`meteredPipeline_accounting` allows for. -/
example :
    let db : MeteredDB := ⟨true, 1⟩
    let calls : List DBCall := [.query "SELECT 1" ⟨none, 2⟩]
    let steps : List MetricsStep := [.record (.queryDuration "query" 2), .record .slowQuery,
      .countDrop, .select, .dequeue, .apply]
    recorded steps = (calls.flatMap fun c => (c.run db).2) ∧
    ∃ s : AsyncDBMetrics, (newAsyncDBMetrics "master" 1).run steps = some s ∧ s.Quiescent ∧
      s.buffer.count = 0 ∧ s.dbMetrics.slowQueries = 1 ∧ s.dbMetrics.totalQueries = 0 :=
  ⟨rfl, _, rfl, ⟨rfl, .inl rfl⟩, rfl, rfl, rfl⟩

end Xlorm
