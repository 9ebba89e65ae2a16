import Xlorm.Machine
import Xlorm.Sql.Table

/-!
# Opening a DB, and the context its loops watch (`New`, `newMySQL`, `WithContext`)

`New` validates the configuration, fills in its defaults and hands a `mysql` configuration to
`newMySQL`. `newMySQL` opens the pool and pings the server under
`context.WithTimeout(context.Background(), ConnTimeout)`, whose `cancel` it defers; it reads the
log level and builds the `DB` with that context as `db.ctx` and that `cancel` as `db.cancel`,
then starts `collectPoolStats` when `EnablePoolStats` is set and always starts `startKeepAlive`.
Both loops leave through the `db.ctx.Done()` case of their `select`, and `Close` is meant to
reach it by calling `db.cancel()`. `WithContext`, on the DB or on a table, stores its argument
as `db.ctx`.

Contexts are numbered in the order they are made, and a run's `Contexts` says which are done.
What `sql.Open` and `PingContext` return is an input: the error, if any. The DSN, the pool
settings, the logger, the metrics and the caches that `newMySQL` builds are not modelled, and
neither are `Config.Password` and `Config.LogRotationEnabled`, which only they read.

**The law** the loops are measured against: the context they watch is done only once `Close`
cancels it. `New` breaks it (`New_loopsSeeDoneContext`): the deferred `cancel` runs as
`newMySQL` returns, so the context is done before either loop reaches its first `select`; and
`WithContext` hands the loops' exit to whatever context a caller passes.
-/

namespace Xlorm

namespace Time

/-- `time.Second`, in nanoseconds. -/
def second : Int := 1000000000
/-- `time.Minute`. -/
def minute : Int := 60 * second
/-- `time.Hour`. -/
def hour : Int := 60 * minute

end Time

/-- `slog.Level`: `LevelDebug` is `-4`, `LevelInfo` `0`, `LevelWarn` `4`, `LevelError` `8`. -/
abbrev SlogLevel := Int

/-- `logLevelMap`. -/
def logLevelMap : List (String × SlogLevel) :=
  [("debug", -4), ("info", 0), ("warn", 4), ("error", 8)]

/-- `Config`, with Go's zero values; durations are in nanoseconds. -/
structure Config where
  dbName : String := ""
  driver : String := ""
  host : String := ""
  username : String := ""
  database : String := ""
  charset : String := ""
  tablePrefix : String := ""
  logDir : String := ""
  logLevel : String := ""
  connMaxLifetime : Int := 0
  connMaxIdleTime : Int := 0
  connTimeout : Int := 0
  readTimeout : Int := 0
  writeTimeout : Int := 0
  slowQueryTime : Int := 0
  poolStatsInterval : Int := 0
  port : Int := 0
  logBufferSize : Int := 0
  maxOpenConns : Int := 0
  maxIdleConns : Int := 0
  logRotationMaxAge : Int := 0
  dbMetricsBufferSize : Int := 0
  enablePoolStats : Bool := false
  debug : Bool := false
  deriving DecidableEq

/-- Which of a run's contexts are done, by number. -/
abbrev Contexts := List Bool

/-- `context.WithTimeout`: a new context, number `ctxs.length`, not yet done. -/
def Contexts.withTimeout (ctxs : Contexts) : Contexts := ctxs ++ [false]

/-- A context's `cancel`: the context is done. -/
def Contexts.cancel (ctxs : Contexts) (ctx : Nat) : Contexts := ctxs.set ctx true

/-- Whether `ctx.Done()` is closed. -/
def Contexts.done (ctxs : Contexts) (ctx : Nat) : Bool := ctxs.getD ctx false

/-- What `newMySQL` puts in a `DB` and its lifecycle reads: the builder's view, `dbName`, the
log level, the context the loops watch and the one `db.cancel` cancels, the slow-query
threshold, the pool-stats switch and interval, `debug`, and the `closed` flag. -/
structure DBHandle extends DB where
  dbName : String
  logLevel : SlogLevel
  ctx : Nat
  cancel : Nat
  slowQueryThreshold : Int
  poolStatsEnabled : Bool
  poolStatsInterval : Int
  debug : Bool
  closed : Bool
  deriving Repr, DecidableEq

/-- The goroutines `newMySQL` starts: `startKeepAlive` and `collectPoolStats`. -/
inductive Loop where
  | keepAlive
  | poolStats
  deriving Repr, DecidableEq

/-- The cases of a loop's `select`: the ticker, `poolStatsStop` closed, `db.ctx.Done()`. -/
inductive LoopCase where
  | tick
  | stop
  | ctxDone
  deriving Repr, DecidableEq

/-- A loop's `select` taking a case: `none` when the case is not ready or the loop has none
such, otherwise whether the loop returns. A tick only ends the pool-stats loop, once the stats
were switched off; the keep-alive loop has no `poolStatsStop` case. -/
def Loop.select (ctxs : Contexts) (db : DBHandle) (stopClosed : Bool) : Loop → LoopCase → Option Bool
  | .keepAlive, .tick => some false
  | .keepAlive, .stop => none
  | .poolStats, .tick => some !db.poolStatsEnabled
  | .poolStats, .stop => if stopClosed then some true else none
  | _, .ctxDone => if ctxs.done db.ctx then some true else none

/-- `DB.WithContext`. -/
def DBHandle.withContext (db : DBHandle) (ctx : Nat) : DBHandle := { db with ctx := ctx }

/-- `Table.WithContext`: the table as it was, its DB's context replaced. -/
def Table.withContext (t : Table) (db : DBHandle) (ctx : Nat) : Table × DBHandle :=
  (t, db.withContext ctx)

section Unicode

variable (toLower : String → String)

/-- The error of `parseLogLevel`. -/
def invalidLogLevel (level : String) : String :=
  "无效的日志级别: " ++ level ++ ",可选值:debug|info|warn|error"

/-- `parseLogLevel`, over Go's `strings.ToLower`. -/
def parseLogLevel (level : String) : Except String SlogLevel :=
  match logLevelMap.lookup (toLower level) with
  | some l => if level = "" then .error (invalidLogLevel level) else .ok l
  | none => .error (invalidLogLevel level)

/-- `Config.Validate`: the configuration with its log level defaulted to `debug`; `none` is a
nil configuration. -/
def Config.validate : Option Config → Except String Config
  | none => .error "配置不能为空"
  | some cfg =>
    if cfg.host = "" then .error "数据库主机不能为空"
    else if cfg.port ≤ 0 ∨ cfg.port > 65535 then .error "无效端口号"
    else if cfg.username = "" then .error "数据库用户名不能为空"
    else if cfg.database = "" then .error "数据库名称不能为空"
    else
      let cfg := if cfg.logLevel = "" then { cfg with logLevel := "debug" } else cfg
      match parseLogLevel toLower cfg.logLevel with
      | .error e => .error e
      | .ok _ => .ok cfg

/-- The defaults `New` fills in. -/
def Config.withDefaults (cfg : Config) : Config :=
  { cfg with
    dbName := if cfg.dbName = "" then "master" else cfg.dbName
    driver := if cfg.driver = "" then "mysql" else toLower cfg.driver
    charset := if cfg.charset = "" then "utf8mb4" else cfg.charset
    maxOpenConns := if cfg.maxOpenConns = 0 then 10 else cfg.maxOpenConns
    maxIdleConns := if cfg.maxIdleConns = 0 then 5 else cfg.maxIdleConns
    connMaxLifetime := if cfg.connMaxLifetime = 0 then Time.hour * 1 else cfg.connMaxLifetime
    connMaxIdleTime := if cfg.connMaxIdleTime = 0 then Time.minute * 30 else cfg.connMaxIdleTime
    connTimeout := if cfg.connTimeout = 0 then Time.second * 1 else cfg.connTimeout
    readTimeout := if cfg.readTimeout = 0 then Time.second * 30 else cfg.readTimeout
    writeTimeout := if cfg.writeTimeout = 0 then Time.second * 30 else cfg.writeTimeout
    slowQueryTime := if cfg.slowQueryTime = 0 then Time.second * 1 else cfg.slowQueryTime
    poolStatsInterval :=
      if cfg.enablePoolStats ∧ (cfg.poolStatsInterval = 0 ∨ cfg.poolStatsInterval < Time.second)
      then 60 * Time.second else cfg.poolStatsInterval
    dbMetricsBufferSize := if cfg.dbMetricsBufferSize = 0 then 1000 else cfg.dbMetricsBufferSize
    logDir := if cfg.logDir = "" then "./logs" else cfg.logDir
    logRotationMaxAge := if cfg.logRotationMaxAge ≤ 0 then 30 else cfg.logRotationMaxAge
    logBufferSize := if cfg.logBufferSize = 0 then 5000 else cfg.logBufferSize }

/-- `newMySQL`, given what `sql.Open` and `PingContext` return: the contexts after it returns,
and the DB with the loops it started. The ping's context is made after `sql.Open` succeeds, and
the deferred `cancel` runs on every return after that. -/
def newMySQL (cfg : Config) (openErr pingErr : Option String) (ctxs : Contexts) :
    Contexts × Except String (DBHandle × List Loop) :=
  match openErr with
  | some e => (ctxs, .error ("连接数据库失败: " ++ e))
  | none =>
    let ctx := ctxs.length
    let opened : Except String (DBHandle × List Loop) :=
      match pingErr with
      | some e => .error ("测试数据库连接失败: " ++ e)
      | none =>
        match parseLogLevel toLower cfg.logLevel with
        | .error e => .error ("日志级别设置失败: " ++ e)
        | .ok level =>
          .ok ({ tablePre := cfg.tablePrefix, dbName := cfg.dbName, logLevel := level,
                  ctx := ctx, cancel := ctx, slowQueryThreshold := cfg.slowQueryTime,
                  poolStatsEnabled := cfg.enablePoolStats,
                  poolStatsInterval := cfg.poolStatsInterval, debug := cfg.debug,
                  closed := false },
            (if cfg.enablePoolStats then [.poolStats] else []) ++ [.keepAlive])
    (ctxs.withTimeout.cancel ctx, opened)

/-- `New`. -/
def New (cfg : Option Config) (openErr pingErr : Option String) (ctxs : Contexts) :
    Contexts × Except String (DBHandle × List Loop) :=
  match Config.validate toLower cfg with
  | .error e => (ctxs, .error ("数据库参数配置有误: " ++ e))
  | .ok cfg =>
    let cfg := cfg.withDefaults toLower
    if cfg.driver = "mysql" then newMySQL toLower cfg openErr pingErr ctxs
    else (ctxs, .error ("不支持的数据库驱动: " ++ cfg.driver))

/-- A DB `newMySQL` returns watches the context it pinged under, which its deferred `cancel`
has already made done; it keeps `cancel` for that same context, and always runs the keep-alive
loop. -/
theorem newMySQL_ok {cfg : Config} {openErr pingErr : Option String} {ctxs ctxs' : Contexts}
    {db : DBHandle} {loops : List Loop}
    (h : newMySQL toLower cfg openErr pingErr ctxs = (ctxs', .ok (db, loops))) :
    ctxs' = ctxs.withTimeout.cancel ctxs.length ∧ db.ctx = ctxs.length ∧
      db.cancel = ctxs.length ∧ Loop.keepAlive ∈ loops := by
  unfold newMySQL at h
  rcases openErr with _ | e
  · rcases pingErr with _ | e
    · dsimp only at h
      split at h
      · cases h
      · simp only [Prod.mk.injEq, Except.ok.injEq] at h
        obtain ⟨rfl, rfl, rfl⟩ := h
        simp
    · cases h
  · cases h

/-- A successful `New` is a successful `newMySQL`, on the configuration validated and
defaulted. -/
theorem New_ok {cfg : Option Config} {openErr pingErr : Option String} {ctxs ctxs' : Contexts}
    {r : DBHandle × List Loop} (h : New toLower cfg openErr pingErr ctxs = (ctxs', .ok r)) :
    ∃ cfg', newMySQL toLower cfg' openErr pingErr ctxs = (ctxs', .ok r) := by
  unfold New at h
  split at h
  · cases h
  · dsimp only at h
    split at h
    · exact ⟨_, h⟩
    · cases h

end Unicode

/-- The context a fresh `WithTimeout` made, once cancelled, is done. -/
theorem done_cancel_withTimeout (ctxs : Contexts) :
    (ctxs.withTimeout.cancel ctxs.length).done ctxs.length = true := by
  simp [Contexts.done, Contexts.cancel, Contexts.withTimeout, getD_set]

/-- Both loops leave through `db.ctx.Done()` exactly when the DB's current context is done. -/
theorem select_ctxDone (ctxs : Contexts) (db : DBHandle) (stopClosed : Bool) (l : Loop) :
    l.select ctxs db stopClosed .ctxDone = if ctxs.done db.ctx then some true else none := by
  cases l <;> rfl

/-- So the `db.ctx.Done()` case is ready exactly when the DB's current context is done. -/
theorem isSome_select_ctxDone (ctxs : Contexts) (db : DBHandle) (stopClosed : Bool) (l : Loop) :
    (l.select ctxs db stopClosed .ctxDone).isSome = ctxs.done db.ctx := by
  rw [select_ctxDone]; split <;> simp_all

/-- Every DB a successful `New` returns watches a context that is already done, so each of its
loops, the keep-alive loop always among them, can return at its first `select`, before any
`Close`. `WithContext` on the DB or on a table then decides that exit by the caller's context
alone. -/
theorem New_loopsSeeDoneContext (toLower : String → String) {cfg : Option Config}
    {openErr pingErr : Option String} {ctxs ctxs' : Contexts} {db : DBHandle} {loops : List Loop}
    (h : New toLower cfg openErr pingErr ctxs = (ctxs', .ok (db, loops))) :
    ctxs'.done db.ctx = true ∧ Loop.keepAlive ∈ loops ∧
      (∀ l ∈ loops, ∀ stopClosed, l.select ctxs' db stopClosed .ctxDone = some true) ∧
      ∀ (t : Table) (ctx : Nat) (l : Loop) (stopClosed : Bool),
        (l.select ctxs' (db.withContext ctx) stopClosed .ctxDone).isSome = ctxs'.done ctx ∧
        (l.select ctxs' (t.withContext db ctx).2 stopClosed .ctxDone).isSome = ctxs'.done ctx := by
  obtain ⟨_, hmy⟩ := New_ok toLower h
  obtain ⟨rfl, hctx, -, hkeep⟩ := newMySQL_ok toLower hmy
  have hdone : (ctxs.withTimeout.cancel ctxs.length).done db.ctx = true :=
    hctx ▸ done_cancel_withTimeout ctxs
  exact ⟨hdone, hkeep, fun l _ b => by rw [select_ctxDone, hdone, if_pos rfl],
    fun t ctx l b => ⟨isSome_select_ctxDone _ _ b l, isSome_select_ctxDone _ _ b l⟩⟩

/-- A configuration with only a host, a port, a user and a database opens, with the pool-stats
loop off, and its keep-alive loop already watches a done context. -/
theorem New_localDB_watchesDoneContext :
    ∃ db, New (fun s => String.mk (s.toList.map Char.toLower))
        (some { host := "localhost", port := 3306, username := "root", database := "app" })
        none none [] = ([true], .ok (db, [.keepAlive])) ∧
      Contexts.done [true] db.ctx = true :=
  ⟨_, rfl, (@New_loopsSeeDoneContext (fun s => String.mk (s.toList.map Char.toLower))
    (some { host := "localhost", port := 3306, username := "root", database := "app" }) none none
    [] [true] _ [.keepAlive] rfl).1⟩

end Xlorm
