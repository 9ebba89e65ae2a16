import Xlorm.Sql.Placeholder

/-!
# Inserts and updates (`insert`, `update`, `GetUpdateSQL`)

`Insert` and `Update` take `data` of three shapes (`extractFieldsAndValues`): a map, whose keys
are sorted; a slice of maps, whose columns are the first map's sorted keys and whose values are
every map's values under them; or a struct, through `StructMapper.StructToMap`, whose result (a
map, or its error) is the data here. Whatever the shape, `buildInsertSQL` writes one placeholder
group and `buildUpdateSQL` one `?` per column.

`GetUpdateSQL`, `FormatUpdateSQL` and `PrintUpdateSQL` build the update on the table itself:
`buildUpdateSQL` calls `GetWhere`, which clears the condition flags, and the table they return is
the one a later `Update` builds from. `GetQuerySQL` builds on a copy. `formatSQL` puts the
arguments in place of the `?`s for the log.

**The law** (`insert_maps`, `Update_maps`): for a slice of `n` maps whose first map has `F` keys,
`insert` executes one group of `F` placeholders and `Update` `F` SET placeholders, each with the
`n·F` values of all the maps (`Update` adds the WHERE arguments).
-/

namespace Xlorm

/-- The `data` of `Insert` and `Update`: a map, a slice of maps, or a struct, given by what
`StructMapper.StructToMap` makes of it. -/
inductive WriteData where
  | map (m : Record)
  | maps (ms : List Record)
  | struct (mapped : Except String Record)

/-- `extractFromMapSlice`: the sorted keys of the first map, and every map's values under them,
`nil` where a map lacks a key. -/
def extractFromMapSlice (maps : List Record) : Except String (List String × List Value) :=
  match maps with
  | [] => .error "数据不能为空"
  | first :: _ =>
    let fields := (extractFromMap first).1
    .ok (fields, maps.flatMap fun m => fields.map fun field => (m.lookup field).getD .null)

/-- `extractFieldsAndValues`. -/
def extractFieldsAndValues : WriteData → Except String (List String × List Value)
  | .map m => .ok (extractFromMap m)
  | .maps ms => extractFromMapSlice ms
  | .struct mapped => mapped.map extractFromMap

/-- The text `formatSQL` writes for an argument. -/
def formatArg : Value → String
  | .null => "NULL"
  | .int i => toString i
  | .str s => "'" ++ s ++ "'"
  | .bool b => if b then "TRUE" else "FALSE"

namespace Table

/-- `formatSQL`: each `?` replaced by the next argument's text, `NULL` once they run out. -/
def formatSQL : List Char → List Value → String
  | [], _ => ""
  | '?' :: query, [] => "NULL" ++ formatSQL query []
  | '?' :: query, arg :: args => formatArg arg ++ formatSQL query args
  | c :: query, args => c.toString ++ formatSQL query args

section Cache

variable (sum32 : String → UInt32)

/-- `buildInsertSQL`: ``insertType INTO name (`f1`,`f2`) VALUES `` with the one group of
`buildPlaceholders(len(fields), 1)`; `none` where that panics. -/
def buildInsertSQL (t : Table) (insertType : String) (fields : List String)
    (placeholderCache : ShardedCache) : ShardedCache × Option (Except String String) :=
  if fields.isEmpty then (placeholderCache, some (.error "插入的数据不能为空"))
  else
    let placeholders := buildPlaceholders sum32 fields.length 1 placeholderCache
    (placeholders.1, placeholders.2.map fun ps => .ok (insertType ++ " INTO " ++ t.tableName ++
      " (`" ++ String.intercalate "`,`" fields ++ "`) VALUES " ++ String.intercalate "," ps))

/-- `insert`: the statement it executes with its arguments, or the error it returns before
executing; `none` where it panics. -/
def insert (t : Table) (data : WriteData) (insertType : String) (placeholderCache : ShardedCache) :
    ShardedCache × Option (Except String (String × List Value)) :=
  match extractFieldsAndValues data with
  | .error e => (placeholderCache, some (.error e))
  | .ok (fields, values) =>
    if fields.isEmpty then (placeholderCache, some (.error "插入的数据不能为空，字段名为空"))
    else
      let built := t.buildInsertSQL sum32 insertType fields placeholderCache
      (built.1, built.2.map fun r => r.map fun query => (query, values))

/-- `Insert`. -/
def Insert (t : Table) (data : WriteData) (placeholderCache : ShardedCache) :
    ShardedCache × Option (Except String (String × List Value)) :=
  t.insert sum32 data "INSERT" placeholderCache

end Cache

/-- `Update` for every shape of `data`: the statement it executes with its arguments, the values
followed by the WHERE arguments, or its error. -/
def Update (t : Table) (data : WriteData) : Except String (Text × List Value) :=
  match extractFieldsAndValues data with
  | .error e => .error e
  | .ok (fields, values) => (t.buildUpdateSQL fields).2.map fun r => (r.1, values ++ r.2)

/-- `GetUpdateSQL`: the statement `Update` would execute, as text, built on the table itself; the
table comes back as `buildUpdateSQL` left it. -/
def getUpdateSQL (t : Table) (data : WriteData) : Table × Except String (String × List Value) :=
  match extractFieldsAndValues data with
  | .error e => (t, .error e)
  | .ok (fields, values) =>
    ((t.buildUpdateSQL fields).1, (t.buildUpdateSQL fields).2.map fun r => (r.1.render, values ++ r.2))

/-- `FormatUpdateSQL`. -/
def formatUpdateSQL (t : Table) (data : WriteData) : Table × Except String String :=
  ((t.getUpdateSQL data).1, (t.getUpdateSQL data).2.map fun r => formatSQL r.1.toList r.2)

/-- `PrintUpdateSQL`: the formatted statement goes to the log and to the standard output; the
error is returned. -/
def printUpdateSQL (t : Table) (data : WriteData) : Table × Option String :=
  ((t.formatUpdateSQL data).1, match (t.formatUpdateSQL data).2 with
    | .error e => some e
    | .ok _ => none)

/-- `GetQuerySQL`: `buildQuery` on a copy of the table, which is left as it was. -/
def getQuerySQL (t : Table) (queryType : String) : String × Option (List Value) :=
  ((t.buildQuery queryType).2.1.render, (t.buildQuery queryType).2.2)

end Table

/-! ## What the statements carry -/

/-- `update` with map data is `Update` of a map. -/
theorem Table.Update_map (t : Table) (m : Record) : t.Update (.map m) = t.update m := by
  simp only [Table.Update, Table.update, extractFieldsAndValues]
  obtain ⟨fields, values⟩ := extractFromMap m
  cases (t.buildUpdateSQL fields).2 <;> rfl

theorem length_extractFromMap (m : Record) : (extractFromMap m).1.length = m.length := by
  simp [extractFromMap, List.length_insertionSort]

/-- For a slice of maps, `insert` executes one group of the first map's width with the values of
every map. -/
theorem Table.insert_maps (sum32 : String → UInt32) (t : Table) (insertType : String)
    (first : Record) (rest : List Record) (c : ShardedCache) (hfirst : first ≠ []) :
    (t.insert sum32 (.maps (first :: rest)) insertType c).2 =
      (getCachedPlaceholder sum32 first.length c).2.map fun p =>
        .ok (insertType ++ " INTO " ++ t.tableName ++ " (`" ++
            String.intercalate "`,`" (extractFromMap first).1 ++ "`) VALUES " ++ p,
          (first :: rest).flatMap fun m =>
            (extractFromMap first).1.map fun field => (m.lookup field).getD .null) := by
  have hne : (extractFromMap first).1.isEmpty = false := by
    rw [List.isEmpty_eq_false_iff_exists_mem]
    obtain ⟨kv, hkv⟩ := List.exists_mem_of_ne_nil _ hfirst
    refine ⟨kv.1, (List.perm_insertionSort _ _).symm.subset (List.mem_map_of_mem _ hkv)⟩
  simp only [Table.insert, extractFieldsAndValues, extractFromMapSlice, hne, Table.buildInsertSQL,
    buildPlaceholders_one, length_extractFromMap, Bool.false_eq_true, if_false]
  cases (getCachedPlaceholder sum32 first.length c).2 <;> rfl

/-- For a slice of maps, `Update` sets the first map's columns, one `?` each, and passes the values
of every map under them, then the WHERE arguments. -/
theorem Table.Update_maps {t : Table} {first : Record} {rest : List Record} {query : Text}
    {args : List Value} (h : t.Update (.maps (first :: rest)) = .ok (query, args)) :
    query = [.sql "UPDATE ", .sql t.tableName, .sql " SET ",
        .sql (trimSuffix (String.join ((extractFromMap first).1.map fun field =>
          "`" ++ field ++ "` = ?,")) ",")] ++ (t.getWhere true).2.1 ∧
      args.length = (rest.length + 1) * first.length + t.args.length := by
  simp only [Table.Update, extractFieldsAndValues, extractFromMapSlice, Table.buildUpdateSQL] at h
  split at h
  · cases h
  · split at h
    · cases h
    · next hr =>
      have hw : (t.getWhere true).2.2 = t.args := by
        by_cases hwe : t.«where».isEmpty
        · simp only [Table.getWhere, hwe, if_true] at hr
          exact absurd rfl hr
        · simp [Table.getWhere, hwe]
      simp only [Except.map, Except.ok.injEq, Prod.mk.injEq] at h
      obtain ⟨rfl, rfl⟩ := h
      refine ⟨rfl, ?_⟩
      simp [hw, length_extractFromMap, Function.comp_def, Nat.succ_mul, Nat.add_comm,
        Nat.add_left_comm]

/-- A slice of two maps: the insert has one placeholder for two values, and the update two for
three arguments. -/
theorem insert_update_mapSliceMismatch (sum32 : String → UInt32) :
    ((DB.table ⟨""⟩ "users").Insert sum32 (.maps [[("a", .int 1)], [("a", .int 2)]])
        (newShardedCache 1)).2 = some (.ok ("INSERT INTO `users` (`a`) VALUES (?)", [.int 1, .int 2])) ∧
    (((DB.table ⟨""⟩ "users").Where "id = ?" [.int 9]).Update
        (.maps [[("a", .int 1)], [("a", .int 2)]])).map (fun r => (r.1.render, r.2)) =
      .ok ("UPDATE `users` SET `a` = ? WHERE id = ?", [.int 1, .int 2, .int 9]) := by
  refine ⟨?_, rfl⟩
  simp only [Table.Insert, Table.insert, Table.buildInsertSQL, buildPlaceholders_one,
    getCachedPlaceholder_newShardedCache]
  rfl

/-! ## Rendering on the table itself -/

/-- After an `OrWhere`, a second `GetWhere` and an `Update` after `GetUpdateSQL` join the
conditions with `AND`, where the first call joined them with `OR`. -/
theorem getWhere_getUpdateSQL_changeLaterStatements :
    ((((DB.table ⟨""⟩ "users").Where "a = ?" [.int 1]).OrWhere "b = ?" [.int 2]).getWhere
        true).2.1.render = " WHERE (a = ? OR b = ?)" ∧
    (((((DB.table ⟨""⟩ "users").Where "a = ?" [.int 1]).OrWhere "b = ?" [.int 2]).getWhere
        true).1.getWhere true).2.1.render = " WHERE a = ? AND b = ?" ∧
    ((((DB.table ⟨""⟩ "users").Where "a = ?" [.int 1]).OrWhere "b = ?" [.int 2]).getUpdateSQL
        (.map [("x", .int 0)])).2 =
      .ok ("UPDATE `users` SET `x` = ? WHERE (a = ? OR b = ?)", [.int 0, .int 1, .int 2]) ∧
    (((((DB.table ⟨""⟩ "users").Where "a = ?" [.int 1]).OrWhere "b = ?" [.int 2]).getUpdateSQL
        (.map [("x", .int 0)])).1.Update (.map [("x", .int 0)])).map (fun r => (r.1.render, r.2)) =
      .ok ("UPDATE `users` SET `x` = ? WHERE a = ? AND b = ?", [.int 0, .int 1, .int 2]) :=
  ⟨rfl, rfl, rfl, rfl⟩

end Xlorm
