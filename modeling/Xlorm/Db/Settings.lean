import Xlorm.Db.Lifecycle
import Xlorm.Machine

/-!
# The DB's switches (`SetLogLevel`, `GetLogLevel`, `SetDebug`, `IsDebug`), and what `New` sets

`SetLogLevel(level)` parses the level with `parseLogLevel` and, when it names `debug`, `info`,
`warn` or `error` in any case, stores it in the handler's `slog.LevelVar`; otherwise it returns
the parse error and leaves the level alone. `GetLogLevel` lowers what `slog.Level.String` gives.
`SetDebug` never reads its argument and switches debug on; `IsDebug` reads it back. The locks
around the calls are left out: each call is one step of a sequence.

`strings.ToLower` is `Lifecycle`'s parameter `toLower`; the law asks of it only that it lowers
ASCII letters on ASCII strings, as Go's does.

**The law** (`settings_run`): after every sequence of `SetLogLevel` and `SetDebug` calls,
`GetLogLevel` gives the lowered name of the latest level `SetLogLevel` accepted (the DB's own
when none was), `IsDebug` is true exactly when the DB started with debug on or some `SetDebug`
call was made, whatever it asked for, and no other field of the DB has changed.

What the switches start from is what `New` read from the configuration (`New_configured`): it
opens a DB exactly when `Validate`'s field checks pass, the level (`debug` when unset) names a
level, the driver is unset or `mysql` in any case, and `sql.Open` and the ping succeed. Its own
parse of the level in `newMySQL` then cannot fail. The DB reports the configured level, debug
flag, database name (`master` when unset) and table prefix, and runs the loops the configuration
asks for.
-/

namespace Xlorm

/-- `slog.Level.String`: the name of the level at or below, followed by the distance from it
when that is not zero. -/
def slogLevelString (l : SlogLevel) : String :=
  let str := fun (base : String) (val : Int) =>
    if val = 0 then base else base ++ (if 0 < val then "+" else "") ++ toString val
  if l < 0 then str "DEBUG" (l + 4)
  else if l < 4 then str "INFO" l
  else if l < 8 then str "WARN" (l - 4)
  else str "ERROR" (l - 8)

/-- A call on the DB's switches. -/
inductive SettingsCall where
  | setLogLevel (level : String)
  | setDebug (enable : Bool)

/-- Whether a call is a `SetDebug`. -/
def SettingsCall.isSetDebug : SettingsCall → Bool
  | .setDebug _ => true
  | .setLogLevel _ => false

namespace DBHandle

section Unicode

variable (toLower : String → String)

/-- `SetLogLevel`: the parsed level stored, or the parse error with nothing changed. -/
def setLogLevel (db : DBHandle) (level : String) : DBHandle × Option String :=
  match parseLogLevel toLower level with
  | .ok l => ({ db with logLevel := l }, none)
  | .error e => (db, some e)

/-- `GetLogLevel`. -/
def getLogLevel (db : DBHandle) : String := toLower (slogLevelString db.logLevel)

end Unicode

/-- `SetDebug`: whatever its argument, debug is on. -/
def setDebug (db : DBHandle) (_enable : Bool) : DBHandle := { db with debug := true }

/-- `IsDebug`. -/
def isDebug (db : DBHandle) : Bool := db.debug

/-- `GetDBName`. -/
def getDBName (db : DBHandle) : String := db.dbName

/-- One call on the switches and what it returns. -/
def settingsCall (toLower : String → String) (db : DBHandle) : SettingsCall → DBHandle × Option String
  | .setLogLevel level => db.setLogLevel toLower level
  | .setDebug enable => (db.setDebug enable, none)

end DBHandle

/-- The level name a sequence of calls leaves in force: the latest one `parseLogLevel` accepts,
lowered, or `current` when it accepts none. -/
def latestLevel (toLower : String → String) (current : String) : List SettingsCall → String
  | [] => current
  | .setLogLevel level :: calls =>
    latestLevel toLower
      (match parseLogLevel toLower level with
        | .ok _ => toLower level
        | .error _ => current) calls
  | .setDebug _ :: calls => latestLevel toLower current calls

/-- Every name of `logLevelMap` is ASCII, and is what `slog.Level.String` gives its level,
lowered. -/
theorem logLevelMap_names : ∀ p ∈ logLevelMap,
    ((slogLevelString p.2).data.all fun c => c.toNat < 128) = true ∧
      (⟨(slogLevelString p.2).data.map Char.toLower⟩ : String) = p.1 := by
  decide

section Unicode

variable {toLower : String → String}
  (hascii : ∀ s : String, (s.data.all fun c => c.toNat < 128) = true →
    toLower s = ⟨s.data.map Char.toLower⟩)
include hascii

/-- What `SetLogLevel` accepts, `GetLogLevel` gives back lowered. -/
theorem getLogLevel_of_parse {level : String} {l : SlogLevel}
    (h : parseLogLevel toLower level = .ok l) : toLower (slogLevelString l) = toLower level := by
  unfold parseLogLevel at h
  split at h
  · rename_i hl
    split_ifs at h
    cases h
    obtain ⟨l₁, l₂, hsplit, -⟩ := List.lookup_eq_some_iff.mp hl
    obtain ⟨hasc, hname⟩ :=
      logLevelMap_names _ (hsplit ▸ List.mem_append_right l₁ (List.mem_cons_self _ _))
    rw [hascii _ hasc]
    exact hname
  · cases h

/-- One call keeps `GetLogLevel` at the latest accepted name and changes nothing but the level
and the debug flag. -/
theorem settingsCall_spec (db : DBHandle) (c : SettingsCall) :
    ((db.settingsCall toLower c).1.getLogLevel toLower =
      latestLevel toLower (db.getLogLevel toLower) [c]) ∧
    (db.settingsCall toLower c).1.isDebug = (db.isDebug || c.isSetDebug) ∧
    (db.settingsCall toLower c).1 =
      { db with logLevel := (db.settingsCall toLower c).1.logLevel,
                debug := (db.settingsCall toLower c).1.debug } := by
  cases c with
  | setLogLevel level =>
    simp only [DBHandle.settingsCall, DBHandle.setLogLevel, latestLevel, SettingsCall.isSetDebug,
      Bool.or_false]
    cases hp : parseLogLevel toLower level with
    | ok l => exact ⟨getLogLevel_of_parse hascii hp, rfl, rfl⟩
    | error e => exact ⟨rfl, rfl, rfl⟩
  | setDebug enable =>
    exact ⟨rfl, (Bool.or_true _).symm, rfl⟩

end Unicode

/-- After every sequence of `SetLogLevel` and `SetDebug` calls on a DB: `GetLogLevel` gives the
lowered name of the latest level `SetLogLevel` accepted, or the DB's own when it accepted none;
`IsDebug` is true exactly when the DB started with debug on or some `SetDebug` call was made,
whatever its argument; and no other field of the DB has changed. -/
theorem settings_run {toLower : String → String}
    (hascii : ∀ s : String, (s.data.all fun c => c.toNat < 128) = true →
      toLower s = ⟨s.data.map Char.toLower⟩)
    (db : DBHandle) (calls : List SettingsCall) :
    let r := runCalls (DBHandle.settingsCall toLower) db calls
    r.1.getLogLevel toLower = latestLevel toLower (db.getLogLevel toLower) calls ∧
    r.1.isDebug = (db.isDebug || calls.any SettingsCall.isSetDebug) ∧
    r.1 = { db with logLevel := r.1.logLevel, debug := r.1.debug } := by
  induction calls generalizing db with
  | nil => exact ⟨rfl, (Bool.or_false _).symm, rfl⟩
  | cons c calls ih =>
    obtain ⟨hlevel, hdebug, hframe⟩ := settingsCall_spec hascii db c
    obtain ⟨ih1, ih2, ih3⟩ := ih (db.settingsCall toLower c).1
    simp only [runCalls_cons, List.any_cons]
    refine ⟨?_, ?_, ?_⟩
    · rw [ih1, hlevel]
      cases c <;> rfl
    · rw [ih2, hdebug, Bool.or_assoc]
    · rw [ih3, hframe]

/-- `settings_run` over Go's lowering of ASCII, from the level `info` with debug off:
`SetLogLevel("Warn")`, `SetLogLevel("verbose")` (refused) and `SetDebug(false)`. -/
theorem settings_run_warn :
    let toLower : String → String := fun s => ⟨s.data.map Char.toLower⟩
    let db : DBHandle :=
      { tablePre := "", dbName := "app", logLevel := 0, ctx := 0, cancel := 0,
        slowQueryThreshold := 0, poolStatsEnabled := false, poolStatsInterval := 0,
        debug := false, closed := false }
    let calls : List SettingsCall := [.setLogLevel "Warn", .setLogLevel "verbose", .setDebug false]
    (∀ s : String, (s.data.all fun c => c.toNat < 128) = true →
      toLower s = ⟨s.data.map Char.toLower⟩) ∧
    let r := runCalls (DBHandle.settingsCall toLower) db calls
    r.1.getLogLevel toLower = latestLevel toLower (db.getLogLevel toLower) calls ∧
    r.1.isDebug = (db.isDebug || calls.any SettingsCall.isSetDebug) ∧
    r.1 = { db with logLevel := r.1.logLevel, debug := r.1.debug } :=
  ⟨fun _ _ => rfl, settings_run (fun _ _ => rfl) _ _⟩

section Unicode

variable {toLower : String → String}

/-- `parseLogLevel` accepts a non-empty level exactly when its lowered form names a level. -/
theorem parseLogLevel_isOk {level : String} (hlevel : level ≠ "") :
    (parseLogLevel toLower level).isOk = (logLevelMap.lookup (toLower level)).isSome := by
  unfold parseLogLevel
  cases logLevelMap.lookup (toLower level) with
  | none => rfl
  | some l => dsimp only; rw [if_neg hlevel]; rfl

/-- On a configuration that passes its field checks, `Validate` is the parse of the level,
defaulted to `debug`, giving back the configuration with that level. -/
theorem validate_of_checks (cfg : Config)
    (hchecks : cfg.host ≠ "" ∧ 0 < cfg.port ∧ cfg.port ≤ 65535 ∧ cfg.username ≠ "" ∧
      cfg.database ≠ "") :
    Config.validate toLower (some cfg) =
      (parseLogLevel toLower (if cfg.logLevel = "" then "debug" else cfg.logLevel)).map
        fun _ => { cfg with logLevel := if cfg.logLevel = "" then "debug" else cfg.logLevel } := by
  obtain ⟨hh, hp, hp', hu, hd⟩ := hchecks
  dsimp only [Config.validate]
  rw [if_neg hh, if_neg (by omega), if_neg hu, if_neg hd]
  split_ifs <;> cases parseLogLevel toLower _ <;> rfl

/-- A configuration that fails a field check is refused by `Validate`. -/
theorem validate_of_not_checks (cfg : Config)
    (hchecks : ¬(cfg.host ≠ "" ∧ 0 < cfg.port ∧ cfg.port ≤ 65535 ∧ cfg.username ≠ "" ∧
      cfg.database ≠ "")) :
    ∃ e, Config.validate toLower (some cfg) = .error e := by
  dsimp only [Config.validate]
  by_cases hh : cfg.host = ""
  · rw [if_pos hh]; exact ⟨_, rfl⟩
  by_cases hp : cfg.port ≤ 0 ∨ cfg.port > 65535
  · rw [if_neg hh, if_pos hp]; exact ⟨_, rfl⟩
  by_cases hu : cfg.username = ""
  · rw [if_neg hh, if_neg hp, if_pos hu]; exact ⟨_, rfl⟩
  by_cases hd : cfg.database = ""
  · rw [if_neg hh, if_neg hp, if_neg hu, if_pos hd]; exact ⟨_, rfl⟩
  exact absurd ⟨hh, by omega, by omega, hu, hd⟩ hchecks

end Unicode

/-- An error meets every specification of what a call that succeeds returns, and its check holds
exactly when the conditions for success, here false, do. -/
theorem error_meets_spec {α β : Type} {e : String} {ok : Prop} {P : α → β → Prop} (h : ¬ok) :
    ((Except.error e : Except String (α × β)).isOk = true ↔ ok) ∧
      ∀ a b, (Except.error e : Except String (α × β)) = .ok (a, b) → P a b :=
  ⟨iff_of_false Bool.false_ne_true h, fun _ _ h => Except.noConfusion h⟩

/-- `New` opens a DB exactly when the configuration passes `Validate`'s field checks, its level
(`debug` when unset) names a level, its driver is unset or `mysql` once lowered, and `sql.Open`
and the ping succeed. The DB it opens then gives `GetLogLevel` the configured level lowered,
`IsDebug` the configured flag and `GetDBName` the configured name, `master` when unset; it
prefixes tables with the configured prefix, logs slow queries from the configured threshold, one
second when unset, is not closed, and runs the pool-stats loop exactly when asked to. -/
theorem New_configured {toLower : String → String}
    (hascii : ∀ s : String, (s.data.all fun c => c.toNat < 128) = true →
      toLower s = ⟨s.data.map Char.toLower⟩)
    (cfg : Config) (openErr pingErr : Option String) (ctxs : Contexts) :
    let level := if cfg.logLevel = "" then "debug" else cfg.logLevel
    let opened := (New toLower (some cfg) openErr pingErr ctxs).2
    (opened.isOk = true ↔
      (cfg.host ≠ "" ∧ 0 < cfg.port ∧ cfg.port ≤ 65535 ∧ cfg.username ≠ "" ∧ cfg.database ≠ "") ∧
        (logLevelMap.lookup (toLower level)).isSome ∧
        (cfg.driver = "" ∨ toLower cfg.driver = "mysql") ∧ openErr = none ∧ pingErr = none) ∧
    ∀ db loops, opened = .ok (db, loops) →
      db.getLogLevel toLower = toLower level ∧ db.isDebug = cfg.debug ∧
      db.getDBName = (if cfg.dbName = "" then "master" else cfg.dbName) ∧
      db.tablePre = cfg.tablePrefix ∧
      db.slowQueryThreshold =
        (if cfg.slowQueryTime = 0 then Time.second * 1 else cfg.slowQueryTime) ∧
      db.closed = false ∧
      loops = (if cfg.enablePoolStats then [.poolStats] else []) ++ [.keepAlive] := by
  intro level
  have hlevel : level ≠ "" := by
    show (if cfg.logLevel = "" then "debug" else cfg.logLevel) ≠ ""
    split
    exacts [nofun, ‹_›]
  unfold New
  by_cases hchecks : cfg.host ≠ "" ∧ 0 < cfg.port ∧ cfg.port ≤ 65535 ∧ cfg.username ≠ "" ∧
      cfg.database ≠ ""
  case neg =>
    obtain ⟨e, he⟩ := @validate_of_not_checks toLower cfg hchecks
    rw [he]
    exact error_meets_spec fun h => hchecks h.1
  case pos =>
    have hv : Config.validate toLower (some cfg) =
        (parseLogLevel toLower level).map fun _ => { cfg with logLevel := level } :=
      validate_of_checks cfg hchecks
    have hname := @parseLogLevel_isOk toLower level hlevel
    rw [hv]
    cases hp : parseLogLevel toLower level with
    | error e =>
      rw [hp] at hname
      exact error_meets_spec fun h => Bool.false_ne_true (hname.trans h.2.1)
    | ok l =>
      dsimp only [Except.map]
      set c := { cfg with logLevel := level }.withDefaults toLower
      have hdriver : c.driver = "mysql" ↔ cfg.driver = "" ∨ toLower cfg.driver = "mysql" := by
        show (if cfg.driver = "" then "mysql" else toLower cfg.driver) = "mysql" ↔ _
        split
        exacts [iff_of_true rfl (.inl ‹_›), (or_iff_right ‹_›).symm]
      by_cases hd : c.driver = "mysql"
      case neg =>
        rw [if_neg hd]
        exact error_meets_spec fun h => hd (hdriver.mpr h.2.2.1)
      case pos =>
        rw [if_pos hd]
        rcases openErr with _ | e
        · rcases pingErr with _ | e
          · have hpc : parseLogLevel toLower c.logLevel = .ok l := hp
            dsimp only [newMySQL]
            rw [hpc]
            refine ⟨iff_of_true rfl ⟨hchecks, ?_, hdriver.mp hd, rfl, rfl⟩, ?_⟩
            · rw [← hname, hp]; rfl
            rintro _ _ ⟨⟩
            exact ⟨getLogLevel_of_parse hascii hp, rfl, rfl, rfl, rfl, rfl, rfl⟩
          · exact error_meets_spec fun h => nomatch h.2.2.2.2
        · exact error_meets_spec fun h => nomatch h.2.2.2.1

/-- `New_configured` over Go's lowering of ASCII, for a configuration with the driver written
`MySQL`, the level `WARN` and debug on. -/
theorem New_configured_warn :
    let toLower : String → String := fun s => ⟨s.data.map Char.toLower⟩
    let cfg : Config :=
      { host := "localhost", port := 3306, username := "root", database := "app",
        driver := "MySQL", logLevel := "WARN", debug := true }
    (∀ s : String, (s.data.all fun c => c.toNat < 128) = true →
      toLower s = ⟨s.data.map Char.toLower⟩) ∧
    let level := if cfg.logLevel = "" then "debug" else cfg.logLevel
    let opened := (New toLower (some cfg) none none []).2
    (opened.isOk = true ↔
      (cfg.host ≠ "" ∧ 0 < cfg.port ∧ cfg.port ≤ 65535 ∧ cfg.username ≠ "" ∧ cfg.database ≠ "") ∧
        (logLevelMap.lookup (toLower level)).isSome ∧
        (cfg.driver = "" ∨ toLower cfg.driver = "mysql") ∧
        (none : Option String) = none ∧ (none : Option String) = none) ∧
    ∀ db loops, opened = .ok (db, loops) →
      db.getLogLevel toLower = toLower level ∧ db.isDebug = cfg.debug ∧
      db.getDBName = (if cfg.dbName = "" then "master" else cfg.dbName) ∧
      db.tablePre = cfg.tablePrefix ∧
      db.slowQueryThreshold =
        (if cfg.slowQueryTime = 0 then Time.second * 1 else cfg.slowQueryTime) ∧
      db.closed = false ∧
      loops = (if cfg.enablePoolStats then [.poolStats] else []) ++ [.keepAlive] :=
  ⟨fun _ _ => rfl, New_configured (fun _ _ => rfl) _ none none []⟩

end Xlorm
