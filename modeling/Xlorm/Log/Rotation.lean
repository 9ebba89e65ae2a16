import Xlorm.Log.AsyncLogger

/-!
# Log files (`rotatingFileHandler`) and the DB's log sink

`rotatingFileHandler` keeps one file open, `{dir}/{base}_{date}.log` with rotation on: each
`Write` first calls `openNewFileIfNeeded`, which on a new wall-clock date closes the file and
opens the one of the new date. `NewRotatingFileHandler` opens the first file and binds a
`slog.JSONHandler` to that `*os.File`; `newMySQL` hands that JSON handler, not the rotating
handler, to `NewAsyncLogger`, so the DB's records are written to the file open at construction
and `Write` is never reached on the logging path.

The file system is what these functions touch: the files open, and the records written to each.
What it answers one operation, an `os.MkdirAll` error, an `os.OpenFile` error or an error of the
write, is an input (`FsReply`), as the driver's replies are elsewhere. `openNewFileIfNeeded`
returns such an error after it has closed the old file, which the handler then still holds, and
`Write` returns it with nothing written. `Sync` and `Close` errors are dropped by the code
itself. The level and the retention sweep are left out, and `joinPath` is `filepath.Join` for a
directory already clean. Times are local wall-clock seconds since 1970-01-01 00:00, as
`time.Now().Format` reads them.

**The law** of `Write`, over runs in which the file system's calls succeed: each record is
written to the file of the date it is written at, every `Write` returns nil, and afterwards
exactly that file is open.
-/

namespace Xlorm

/-- Local wall-clock time, in seconds since 1970-01-01 00:00. -/
abbrev WallClock := Nat

/-- Days since 1970-01-01 as a proleptic Gregorian (year, month, day). -/
def civilFromDays (days : Nat) : Nat × Nat × Nat :=
  let z := days + 719468
  let era := z / 146097
  let doe := z - era * 146097
  let yoe := (doe - doe / 1460 + doe / 36524 - doe / 146096) / 365
  let doy := doe - (365 * yoe + yoe / 4 - yoe / 100)
  let mp := (5 * doy + 2) / 153
  let d := doy - (153 * mp + 2) / 5 + 1
  let m := if mp < 10 then mp + 3 else mp - 9
  let y := yoe + era * 400
  (if m ≤ 2 then y + 1 else y, m, d)

/-- The decimal digits of `n`, zero-padded to `width`. -/
def padNat (width n : Nat) : String :=
  let s := toString n
  String.mk (List.replicate (width - s.length) '0') ++ s

/-- `t.Format("2006-01-02")`. -/
def formatDate (t : WallClock) : String :=
  let (y, m, d) := civilFromDays (t / 86400)
  padNat 4 y ++ "-" ++ padNat 2 m ++ "-" ++ padNat 2 d

/-- `filepath.Join(dir, name)`, for a clean `dir`. -/
def joinPath (dir name : String) : String :=
  if dir = "" then name else dir ++ "/" ++ name

/-- The files open, and the records written to each. -/
structure FileSystem where
  openFiles : List String
  contents : String → List LogRecord

namespace FileSystem

/-- `os.OpenFile(path, O_CREATE|O_APPEND|O_WRONLY, 0644)`. -/
def openFile (fs : FileSystem) (path : String) : FileSystem :=
  { fs with openFiles := fs.openFiles ++ [path] }

/-- `Sync` then `Close` of an open file. -/
def closeFile (fs : FileSystem) (path : String) : FileSystem :=
  { fs with openFiles := fs.openFiles.erase path }

/-- A record appended to a file. -/
def append (fs : FileSystem) (path : String) (x : LogRecord) : FileSystem :=
  { fs with contents := Function.update fs.contents path (fs.contents path ++ [x]) }

end FileSystem

/-- What the file system answers one operation of the handler: the error of `os.MkdirAll`, of
`os.OpenFile` and of the write to the open file, each `none` when it succeeds. -/
structure FsReply where
  mkdirErr : Option String := none
  openErr : Option String := none
  writeErr : Option String := none
  deriving Repr, DecidableEq

/-- `rotatingFileHandler` without its mutex, level and retention: the directory, the base
name, the date and file it has open, whether rotation is on, and the file its JSON handler
was bound to. -/
structure RotatingFileHandler where
  dir : String
  baseFileName : String
  currentDate : String
  currentFile : Option String
  logRotationEnabled : Bool
  handlerFile : Option String

/-- The file of a date, `{dir}/{base}_{date}.log`. -/
def datedFile (dir baseFileName date : String) : String :=
  joinPath dir (baseFileName ++ "_" ++ date ++ ".log")

namespace RotatingFileHandler

/-- `openNewFileIfNeeded` at wall-clock `now`, the file system answering `reply`: the handler,
the files, and the error it returns. -/
def openNewFileIfNeeded (r : RotatingFileHandler) (fs : FileSystem) (now : WallClock)
    (reply : FsReply) : RotatingFileHandler × FileSystem × Option String :=
  if r.logRotationEnabled then
    let currentDate := formatDate now
    if currentDate ≠ r.currentDate then
      let fs := match r.currentFile with
        | some f => fs.closeFile f
        | none => fs
      match reply.mkdirErr, reply.openErr with
      | some e, _ => (r, fs, some e)
      | none, some e => (r, fs, some e)
      | none, none =>
        let filename := datedFile r.dir r.baseFileName currentDate
        ({ r with currentFile := some filename, currentDate := currentDate }, fs.openFile filename,
          none)
    else (r, fs, none)
  else
    match r.currentFile with
    | some _ => (r, fs, none)
    | none =>
      match reply.mkdirErr, reply.openErr with
      | some e, _ => (r, fs, some e)
      | none, some e => (r, fs, some ("无法打开日志文件: " ++ e))
      | none, none =>
        let filename := joinPath r.dir (r.baseFileName ++ ".log")
        ({ r with currentFile := some filename, currentDate := "" }, fs.openFile filename, none)

/-- `Write` at wall-clock `now`: the file of the day, then the record into it; the error of
`openNewFileIfNeeded`, of a write to a file already closed (`os.ErrClosed`), or of the write. -/
def write (r : RotatingFileHandler) (fs : FileSystem) (now : WallClock) (x : LogRecord)
    (reply : FsReply) : RotatingFileHandler × FileSystem × Option String :=
  match r.openNewFileIfNeeded fs now reply with
  | (r, fs, some e) => (r, fs, some e)
  | (r, fs, none) =>
    match r.currentFile with
    | none => (r, fs, some "invalid argument")
    | some f =>
      if f ∈ fs.openFiles then
        match reply.writeErr with
        | some e => (r, fs, some e)
        | none => (r, fs.append f x, none)
      else (r, fs, some ("write " ++ f ++ ": file already closed"))

/-- Writes one after another, each at its wall-clock time and with the file system's answers,
and the error each returned. -/
def writeAll (r : RotatingFileHandler) (fs : FileSystem) :
    List (WallClock × LogRecord × FsReply) → RotatingFileHandler × FileSystem × List (Option String)
  | [] => (r, fs, [])
  | (now, x, reply) :: ws =>
    let w := r.write fs now x reply
    let rest := w.1.writeAll w.2.1 ws
    (rest.1, rest.2.1, w.2.2 :: rest.2.2)

end RotatingFileHandler

/-- `NewRotatingFileHandler` at wall-clock `now`: the first file opened, its error dropped, and
the JSON handler bound to the file then held, nil if the open failed. -/
def newRotatingFileHandler (dir baseFileName : String) (logRotationEnabled : Bool)
    (fs : FileSystem) (now : WallClock) (reply : FsReply) : RotatingFileHandler × FileSystem :=
  let q := (⟨dir, baseFileName, "", none, logRotationEnabled, none⟩ :
    RotatingFileHandler).openNewFileIfNeeded fs now reply
  ({ q.1 with handlerFile := q.1.currentFile }, q.2.1)

/-- The base handler of the DB's logger, the JSON handler `newMySQL` took from the rotating
handler: a record handled at any time goes to the file it was bound to. -/
def dbLogSink (r : RotatingFileHandler) (fs : FileSystem) (record : WallClock × LogRecord) :
    FileSystem :=
  match r.handlerFile with
  | some f => fs.append f record.2
  | none => fs

/-! ## Rotation on the `Write` path -/

theorem formatDate_ne_empty (t : WallClock) : formatDate t ≠ "" := by
  unfold formatDate
  generalize civilFromDays (t / 86400) = p
  obtain ⟨y, m, d⟩ := p
  intro h
  have h1 := congrArg String.length h
  have h2 : "-".length = 1 := rfl
  have h3 : "".length = 0 := rfl
  simp only [String.length_append, h2, h3] at h1
  omega

namespace RotatingFileHandler

variable {r : RotatingFileHandler} {fs : FileSystem} {now : WallClock}

theorem openNewFileIfNeeded_same (hen : r.logRotationEnabled = true)
    (hd : formatDate now = r.currentDate) (reply : FsReply) :
    r.openNewFileIfNeeded fs now reply = (r, fs, none) := by
  simp [openNewFileIfNeeded, hen, hd]

theorem openNewFileIfNeeded_new (hen : r.logRotationEnabled = true)
    (hd : formatDate now ≠ r.currentDate) :
    r.openNewFileIfNeeded fs now {} =
      ({ r with currentFile := some (datedFile r.dir r.baseFileName (formatDate now)),
                currentDate := formatDate now },
        (match r.currentFile with
          | some f => fs.closeFile f
          | none => fs).openFile (datedFile r.dir r.baseFileName (formatDate now)), none) := by
  simp only [openNewFileIfNeeded, hen, if_true, ne_eq, hd, not_false_eq_true]

end RotatingFileHandler

section Rotation

variable (dir baseFileName : String)

/-- With rotation on, the handler holds the file of its date, and that file alone is open. -/
structure RotationInv (r : RotatingFileHandler) (fs : FileSystem) : Prop where
  enabled : r.logRotationEnabled = true
  dir_eq : r.dir = dir
  base_eq : r.baseFileName = baseFileName
  current : r.currentFile = some (datedFile dir baseFileName r.currentDate)
  only_open : fs.openFiles = [datedFile dir baseFileName r.currentDate]

variable {dir baseFileName}

/-- One `Write` the file system answers without error: the record goes to the file of its date,
which is then the one open, and `Write` returns nil. -/
theorem write_spec {r : RotatingFileHandler} {fs : FileSystem}
    (h : RotationInv dir baseFileName r fs) (now : WallClock) (x : LogRecord) :
    RotationInv dir baseFileName (r.write fs now x {}).1 (r.write fs now x {}).2.1 ∧
    (r.write fs now x {}).1.currentDate = formatDate now ∧
    (r.write fs now x {}).2.1.contents =
      (fs.append (datedFile dir baseFileName (formatDate now)) x).contents ∧
    (r.write fs now x {}).2.2 = none := by
  obtain ⟨hen, hdir, hbase, hcur, hopen⟩ := h
  unfold RotatingFileHandler.write
  by_cases hd : formatDate now = r.currentDate
  · rw [RotatingFileHandler.openNewFileIfNeeded_same hen hd]
    dsimp only
    rw [hcur]
    dsimp only
    rw [if_pos (by simp [hopen]), hd]
    exact ⟨⟨hen, hdir, hbase, hcur, hopen⟩, rfl, rfl, rfl⟩
  · rw [RotatingFileHandler.openNewFileIfNeeded_new hen hd]
    subst hdir hbase
    dsimp only
    rw [hcur, if_pos (by simp [FileSystem.openFile])]
    dsimp only
    refine ⟨⟨hen, rfl, rfl, rfl, ?_⟩, rfl, rfl, rfl⟩
    simp [FileSystem.openFile, FileSystem.closeFile, FileSystem.append, hopen, hcur]

/-- The handler `NewRotatingFileHandler` makes with rotation on, from no open file, when the
file system's calls succeed. -/
theorem newRotatingFileHandler_inv (contents : String → List LogRecord) (now : WallClock) :
    RotationInv dir baseFileName
      (newRotatingFileHandler dir baseFileName true ⟨[], contents⟩ now {}).1
      (newRotatingFileHandler dir baseFileName true ⟨[], contents⟩ now {}).2 ∧
    (newRotatingFileHandler dir baseFileName true ⟨[], contents⟩ now {}).1.currentDate =
      formatDate now ∧
    (newRotatingFileHandler dir baseFileName true ⟨[], contents⟩ now {}).2.contents = contents := by
  unfold newRotatingFileHandler
  rw [RotatingFileHandler.openNewFileIfNeeded_new rfl (formatDate_ne_empty now)]
  exact ⟨⟨rfl, rfl, rfl, rfl, rfl⟩, rfl, rfl⟩

/-- Over any writes the file system answers without error, each record lands in the file of the
date it was written at, each `Write` returns nil, and afterwards the file of the last write's
date is the one open. -/
theorem writeAll_rotates {r : RotatingFileHandler} {fs : FileSystem}
    (h : RotationInv dir baseFileName r fs) :
    ∀ writes : List (WallClock × LogRecord × FsReply), (∀ w ∈ writes, w.2.2 = {}) →
      RotationInv dir baseFileName (r.writeAll fs writes).1 (r.writeAll fs writes).2.1 ∧
      (r.writeAll fs writes).1.currentDate =
        (writes.getLast?.map fun w => formatDate w.1).getD r.currentDate ∧
      (∀ f, (r.writeAll fs writes).2.1.contents f = fs.contents f ++
        (writes.filter fun w => datedFile dir baseFileName (formatDate w.1) = f).map
          fun w => w.2.1) ∧
      (r.writeAll fs writes).2.2 = writes.map fun _ => none
  | [], _ => ⟨h, rfl, fun f => by simp [RotatingFileHandler.writeAll], rfl⟩
  | (now, x, reply) :: ws, hok => by
    obtain rfl : reply = {} := hok _ (List.mem_cons_self _ _)
    obtain ⟨h1, hdate, hcontents, herr⟩ := write_spec h now x
    obtain ⟨ih1, ih2, ih3, ih4⟩ :=
      writeAll_rotates h1 ws fun w hw => hok w (List.mem_cons_of_mem _ hw)
    refine ⟨ih1, ?_, fun f => ?_, ?_⟩
    · rw [RotatingFileHandler.writeAll, ih2, hdate]
      cases ws <;> simp [List.getLast?_cons]
    · rw [RotatingFileHandler.writeAll, ih3, hcontents]
      by_cases hf : datedFile dir baseFileName (formatDate now) = f
      · subst hf; simp [FileSystem.append]
      · simp [FileSystem.append, Function.update_noteq (Ne.symm hf), hf]
    · rw [RotatingFileHandler.writeAll, ih4, herr, List.map_cons]

end Rotation

/-- A write on a new date whose directory cannot be made returns the error, writes nothing, and
leaves the handler holding the old file it has just closed. -/
example :
    let h₀ := newRotatingFileHandler "logs" "db" true ⟨[], fun _ => []⟩ 0 {}
    let w := h₀.1.write h₀.2 86400 7 { mkdirErr := some "mkdir logs: read-only file system" }
    w.2.2 = some "mkdir logs: read-only file system" ∧ w.2.1.openFiles = [] ∧
      w.1.currentFile = some "logs/db_1970-01-01.log" :=
  ⟨rfl, rfl, rfl⟩

/-! ## The DB's sink -/

/-- The DB's sink writes every record, whenever it is handled, to the file its JSON handler was
bound to, and opens or closes nothing. -/
theorem foldl_dbLogSink {r : RotatingFileHandler} {f : String} (hf : r.handlerFile = some f) :
    ∀ (records : List (WallClock × LogRecord)) (fs : FileSystem),
      (records.foldl (dbLogSink r) fs).openFiles = fs.openFiles ∧
      (records.foldl (dbLogSink r) fs).contents f = fs.contents f ++ records.map Prod.snd
  | [], fs => ⟨rfl, by simp⟩
  | x :: xs, fs => by
    obtain ⟨h1, h2⟩ := foldl_dbLogSink hf xs (dbLogSink r fs x)
    rw [List.foldl_cons, h1, h2]
    simp [dbLogSink, hf, FileSystem.append]

/-- The DB made at 1970-01-01 00:00 with rotation on logs a record at once and one a day
later: both go to `logs/db_1970-01-01.log`, which stays the only file open. -/
theorem dbLogSink_staysOnFirstDay :
    ∃ r fs, newRotatingFileHandler "logs" "db" true ⟨[], fun _ => []⟩ 0 {} = (r, fs) ∧
      ([(0, 1), (86400, 2)].foldl (dbLogSink r) fs).contents "logs/db_1970-01-01.log" = [1, 2] ∧
      ([(0, 1), (86400, 2)].foldl (dbLogSink r) fs).contents "logs/db_1970-01-02.log" = [] ∧
      ([(0, 1), (86400, 2)].foldl (dbLogSink r) fs).openFiles = ["logs/db_1970-01-01.log"] ∧
      formatDate 86400 = "1970-01-02" :=
  ⟨_, _, rfl, by decide, by decide, by decide, by decide⟩

end Xlorm
