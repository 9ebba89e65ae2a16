import Xlorm.Log.Rotation
import Xlorm.Sql.Table

/-!
# The retention sweep (`rotatingFileHandler.cleanupOldLogs`)

With rotation on, `cleanupOldLogs` reads the log directory and removes each entry that is not a
directory, whose name starts with the base name and ends in `.log`, whose second `_`-separated
part ends in `.log` and, with that suffix trimmed, parses by `time.Parse("2006-01-02", ·)`, and
whose modification time is before `now - maxAge`. The sweep is modelled by the paths it hands to
`os.Remove`, in the order `os.ReadDir` lists the entries; a `ReadDir` failure removes nothing and
an entry whose `Info()` fails is skipped. Times are the wall-clock seconds of `Rotation`, and
`maxAge` is counted in the same unit.

The name test reads the name through `strings.Split(name, "_")`, not through the pattern the
handler writes names by (`{base}_{date}.log`): the part it parses is the one after the first `_`
of the whole name, wherever the base name ends.

**The law** (`isExpired_datedName`): for a base name and a `d` with no `_`, an old entry named
`{base}_{d}.log` is removed exactly when `d` is a date; and `cleanupOldLogs_missesGrammar` shows
the two ways the law fails around it, a foreign name removed and the handler's own name kept.
-/

namespace Xlorm

/-- Go's `isLeap`. -/
def isLeap (year : Nat) : Bool := year % 4 = 0 && (year % 100 ≠ 0 || year % 400 = 0)

/-- Go's `daysIn`, for a month in `1..12`. -/
def daysIn (month year : Nat) : Nat :=
  if month = 2 ∧ isLeap year then 29
  else [31, 28, 31, 30, 31, 30, 31, 31, 30, 31, 30, 31].getD (month - 1) 0

/-- The value of a decimal digit. -/
def digitVal (c : Char) : Nat := c.toNat - 48

/-- `time.Parse("2006-01-02", value)`: four digits of year, `-`, two digits of a month in
`1..12`, `-`, two digits of a day in `1..daysIn`, and no text after. -/
def parseDate (value : List Char) : Option (Nat × Nat × Nat) :=
  match value with
  | [y₁, y₂, y₃, y₄, '-', m₁, m₂, '-', d₁, d₂] =>
    if [y₁, y₂, y₃, y₄, m₁, m₂, d₁, d₂].all Char.isDigit then
      let year := 1000 * digitVal y₁ + 100 * digitVal y₂ + 10 * digitVal y₃ + digitVal y₄
      let month := 10 * digitVal m₁ + digitVal m₂
      let day := 10 * digitVal d₁ + digitVal d₂
      if 1 ≤ month ∧ month ≤ 12 ∧ 1 ≤ day ∧ day ≤ daysIn month year then some (year, month, day)
      else none
    else none
  | _ => none

/-- An entry `os.ReadDir` lists: its name, whether it is a directory, and the modification time
`Info()` reads, none when `Info()` fails. -/
structure DirEntry where
  name : String
  isDir : Bool
  modTime : Option WallClock
  deriving Repr, DecidableEq

/-- Whether `cleanupOldLogs` removes an entry, against `cutoffTime`. -/
def DirEntry.isExpired (baseFileName : String) (cutoffTime : Int) (file : DirEntry) : Bool :=
  !file.isDir && hasPrefix file.name baseFileName && hasSuffix file.name ".log" &&
    match splitChar file.name '_' with
    | _ :: part :: _ =>
      hasSuffix part ".log" && (parseDate (trimSuffix part ".log").data).isSome &&
        match file.modTime with
        | some modTime => decide ((modTime : Int) < cutoffTime)
        | none => false
    | _ => false

/-- `cleanupOldLogs` at wall-clock `now`, over what `os.ReadDir(r.dir)` returns (none: an
error): the paths it removes. -/
def RotatingFileHandler.cleanupOldLogs (r : RotatingFileHandler) (maxAge : Int) (now : WallClock)
    (files : Option (List DirEntry)) : List String :=
  if !r.logRotationEnabled then []
  else
    match files with
    | none => []
    | some files =>
      (files.filter (DirEntry.isExpired r.baseFileName (now - maxAge))).map
        fun file => joinPath r.dir file.name

/-! ## The names the sweep reads -/

/-- Splitting on a separator the first part does not hold. -/
theorem splitChar_append_sep {a : String} {sep : Char} (ha : sep ∉ a.data) (b : String) :
    splitChar (a ++ String.singleton sep ++ b) sep = a :: splitChar b sep := by
  have h : ∀ x ∈ a.data, ¬(x == sep) = true := fun x hx hs => ha (beq_iff_eq.mp hs ▸ hx)
  simp only [splitChar, String.data_append, List.append_assoc]
  exact congrArg (List.map String.mk) (List.splitOnP_first _ _ h sep (beq_self_eq_true sep) _)

/-- A string without the separator splits into itself. -/
theorem splitChar_of_not_mem {s : String} {sep : Char} (hs : sep ∉ s.data) :
    splitChar s sep = [s] := by
  have h : ∀ x ∈ s.data, ¬(x == sep) = true := fun x hx hx' => hs (beq_iff_eq.mp hx' ▸ hx)
  simp only [splitChar]
  rw [List.splitOn, List.splitOnP_eq_single _ _ h]
  rfl

/-- `strings.TrimSuffix` takes back a suffix appended. -/
theorem trimSuffix_append (s t : String) : trimSuffix (s ++ t) t = s := by
  have hsuf : t.toList.isSuffixOf (s ++ t).toList = true :=
    List.isSuffixOf_iff_suffix.mpr (by simp [String.toList, String.data_append])
  simp only [trimSuffix, hsuf, if_true, String.length_append, Nat.add_sub_cancel]
  show String.mk ((s.data ++ t.data).take s.data.length) = s
  rw [List.take_left]

/-- For a base name and a `d` with no `_`: the sweep removes an entry named `{base}_{d}.log`
exactly when it is no directory, `d` parses as a date, and `Info()` reads a time before the
cutoff. -/
theorem isExpired_datedName {baseFileName d : String} (hb : '_' ∉ baseFileName.data)
    (hd : '_' ∉ d.data) (cutoffTime : Int) (isDir : Bool) (modTime : Option WallClock) :
    DirEntry.isExpired baseFileName cutoffTime ⟨baseFileName ++ "_" ++ d ++ ".log", isDir, modTime⟩ =
      (!isDir && (parseDate d.data).isSome &&
        match modTime with
        | some t => decide ((t : Int) < cutoffTime)
        | none => false) := by
  have hsplit :
      splitChar (baseFileName ++ "_" ++ d ++ ".log") '_' = [baseFileName, d ++ ".log"] := by
    rw [String.append_assoc, show ("_" : String) = String.singleton '_' from rfl,
      splitChar_append_sep hb, splitChar_of_not_mem]
    simpa [String.data_append] using hd
  have hpre : hasPrefix (baseFileName ++ "_" ++ d ++ ".log") baseFileName = true :=
    List.isPrefixOf_iff_prefix.mpr (by simp [String.data_append])
  have hsuf : ∀ s : String, hasSuffix (s ++ ".log") ".log" = true := fun s =>
    List.isSuffixOf_iff_suffix.mpr (by simp [String.data_append])
  simp only [DirEntry.isExpired, hsplit, hpre, hsuf, trimSuffix_append, Bool.true_and,
    Bool.and_true, Bool.and_assoc]

/-- `isExpired_datedName` at base `db` and the date `2024-01-01`. -/
theorem isExpired_datedName_db :
    ('_' ∉ "db".data ∧ '_' ∉ "2024-01-01".data) ∧
      DirEntry.isExpired "db" 10 ⟨"db" ++ "_" ++ "2024-01-01" ++ ".log", false, some 5⟩ =
        (!false && (parseDate "2024-01-01".data).isSome && decide ((5 : Int) < 10)) :=
  ⟨⟨by decide, by decide⟩, isExpired_datedName (by decide) (by decide) 10 false (some 5)⟩

/-! ## Where the name test leaves the handler's grammar -/

/-- Two days after 2024-01-01, with a day of retention: the handler with base `db` removes the
old `dbx_2024-01-01.log`, which is `db_{d}.log` for no `d`; the handler with base `my_app`
keeps the old `my_app_2024-01-01.log` that its own `openNewFileIfNeeded` opened on 2024-01-01,
although `2024-01-01` parses as a date. -/
theorem cleanupOldLogs_missesGrammar :
    let day : WallClock := 19723 * 86400
    let db : RotatingFileHandler := ⟨"logs", "db", "", none, true, none⟩
    let myApp : RotatingFileHandler := ⟨"logs", "my_app", "", none, true, none⟩
    db.cleanupOldLogs 86400 (day + 2 * 86400) (some [⟨"dbx_2024-01-01.log", false, some day⟩]) =
        ["logs/dbx_2024-01-01.log"] ∧
      (∀ d, "dbx_2024-01-01.log" ≠ "db" ++ "_" ++ d ++ ".log") ∧
      (myApp.openNewFileIfNeeded ⟨[], fun _ => []⟩ day {}).2.1.openFiles =
        ["logs/my_app_2024-01-01.log"] ∧
      parseDate "2024-01-01".data = some (2024, 1, 1) ∧
      myApp.cleanupOldLogs 86400 (day + 2 * 86400)
        (some [⟨"my_app_2024-01-01.log", false, some day⟩]) = [] := by
  refine ⟨by decide, fun d h => ?_, by decide, by decide, by decide⟩
  have h2 := congrArg (fun s : String => s.data.get? 2) h
  simp [String.data_append] at h2

end Xlorm
