import Xlorm.Sql.Write

/-!
# The statement previews (`GetInsertSQL`, `GetBatchInsertSQL` and their `Format` forms, `FormatQuerySQL`)

`GetInsertSQL` takes `insert`'s first steps on the same data: `extractFieldsAndValues`, then
`buildInsertSQL` with `INSERT`. It skips `insert`'s own check that there is a field, so data
without fields fails with `buildInsertSQL`'s message instead. `GetBatchInsertSQL` writes a
statement of its own: the first item's fields, bare and joined by `, `, then one group of that
many `?`s per item; its arguments are every item's own values, each item under its own fields.
The `Format` forms put the arguments in place with `formatSQL`, and `FormatQuerySQL` does so for
`GetQuerySQL`, with the same text for every kind of argument the model has. The `Print` forms
only log these texts and return the error.

**The law** (`getInsertSQL_agreesWithInsert`): for all data and every placeholder cache,
`GetInsertSQL` returns the statement and the arguments `Insert` executes, and leaves the cache as
`Insert` does; the two differ only for data without fields, in the text of the error. For a slice
of maps with the same keys (`getBatchInsertSQL_maps`), `GetBatchInsertSQL` binds the values
`extractFromMapSlice` gives, one `?` each.
-/

namespace Xlorm

namespace Table

section Cache

variable (sum32 : String → UInt32)

/-- `GetInsertSQL`: `insert`'s statement and arguments, without its check that there is a
field; `none` where `buildInsertSQL` panics. -/
def getInsertSQL (t : Table) (data : WriteData) (placeholderCache : ShardedCache) :
    ShardedCache × Option (Except String (String × List Value)) :=
  match extractFieldsAndValues data with
  | .error e => (placeholderCache, some (.error e))
  | .ok (fields, values) =>
    let built := t.buildInsertSQL sum32 "INSERT" fields placeholderCache
    (built.1, built.2.map fun r => r.map fun query => (query, values))

/-- `FormatInsertSQL`. -/
def formatInsertSQL (t : Table) (data : WriteData) (placeholderCache : ShardedCache) :
    ShardedCache × Option (Except String String) :=
  let r := t.getInsertSQL sum32 data placeholderCache
  (r.1, r.2.map fun r => r.map fun r => formatSQL r.1.toList r.2)

end Cache

/-- `GetBatchInsertSQL`: the first item's fields, bare, and one group of as many `?`s per item,
bound to every item's own values; `("", [])` for no items. -/
def getBatchInsertSQL (t : Table) (data : List WriteData) : Except String (String × List Value) :=
  match data with
  | [] => .ok ("", [])
  | first :: _ => do
    let (fields, _) ← extractFieldsAndValues first
    let placeholderGroup :=
      "(" ++ String.intercalate ", " (List.replicate fields.length "?") ++ ")"
    let itemValues ← data.mapM fun item => Prod.snd <$> extractFieldsAndValues item
    pure ("INSERT INTO " ++ t.tableName ++ " (" ++ String.intercalate ", " fields ++ ") VALUES " ++
      String.intercalate ", " (List.replicate data.length placeholderGroup), itemValues.flatten)

/-- `FormatBatchInsertSQL`. -/
def formatBatchInsertSQL (t : Table) (data : List WriteData) : Except String String :=
  (t.getBatchInsertSQL data).map fun r => formatSQL r.1.toList r.2

/-- `FormatQuerySQL`: `GetQuerySQL` with its arguments in place; a query type `buildQuery` does not
know gives no arguments. -/
def formatQuerySQL (t : Table) (queryType : String) : String :=
  formatSQL (t.getQuerySQL queryType).1.toList ((t.getQuerySQL queryType).2.getD [])

end Table

/-- For all data and every placeholder cache, `GetInsertSQL` gives what `Insert` executes and
leaves the cache as `Insert` does, except for data without fields: there both fail, with
different messages, and leave the cache alone. -/
theorem getInsertSQL_agreesWithInsert (sum32 : String → UInt32) (t : Table) (data : WriteData)
    (c : ShardedCache) :
    t.getInsertSQL sum32 data c = t.Insert sum32 data c ∨
      (∃ values, extractFieldsAndValues data = .ok ([], values)) ∧
        t.getInsertSQL sum32 data c = (c, some (.error "插入的数据不能为空")) ∧
        t.Insert sum32 data c = (c, some (.error "插入的数据不能为空，字段名为空")) := by
  unfold Table.getInsertSQL Table.Insert Table.insert
  cases hx : extractFieldsAndValues data with
  | error e => exact .inl rfl
  | ok r =>
    obtain ⟨fields, values⟩ := r
    cases fields with
    | nil => exact .inr ⟨⟨values, rfl⟩, rfl, rfl⟩
    | cons f fs => exact .inl rfl

theorem countPlaceholders_intercalateGo {sep : String} (hsep : countPlaceholders sep = 0) :
    ∀ (acc : String) (l : List String), countPlaceholders (String.intercalate.go acc sep l) =
      countPlaceholders acc + (l.map countPlaceholders).sum
  | _, [] => rfl
  | acc, g :: gs => by
    rw [String.intercalate.go, countPlaceholders_intercalateGo hsep, countPlaceholders_append,
      countPlaceholders_append, hsep, List.map_cons, List.sum_cons, Nat.add_zero, Nat.add_assoc]

/-- A separator without `?` adds none: the placeholders of a joined list are its items'. -/
theorem countPlaceholders_intercalate_sum (sep : String) (hsep : countPlaceholders sep = 0) :
    ∀ l : List String, countPlaceholders (String.intercalate sep l) = (l.map countPlaceholders).sum
  | [] => rfl
  | f :: fs => countPlaceholders_intercalateGo hsep f fs

/-- An `Except` traversal whose every step succeeds succeeds with the mapped list. -/
theorem mapM_map_except_ok {α β γ ε : Type} {f : β → Except ε γ} {h : α → β} {g : α → γ} :
    ∀ {l : List α}, (∀ a ∈ l, f (h a) = .ok (g a)) → (l.map h).mapM f = .ok (l.map g)
  | [], _ => rfl
  | a :: l, hl => by
    rw [List.map_cons, List.mapM_cons, hl a (List.mem_cons_self a l),
      mapM_map_except_ok fun b hb => hl b (List.mem_cons_of_mem a hb)]
    rfl

/-- For a slice of maps that all have the first map's keys, with no `?` in the table's name or in
a key, `GetBatchInsertSQL` binds the values `extractFromMapSlice` gives, and its statement has one
`?` for each of them. -/
theorem getBatchInsertSQL_maps (t : Table) (first : Record) (rest : List Record)
    (hkeys : ∀ m ∈ rest, (extractFromMap m).1 = (extractFromMap first).1)
    (hnames : countPlaceholders t.tableName = 0 ∧
      ∀ field ∈ (extractFromMap first).1, countPlaceholders field = 0) :
    ∃ query values, t.getBatchInsertSQL ((first :: rest).map .map) = .ok (query, values) ∧
      extractFromMapSlice (first :: rest) = .ok ((extractFromMap first).1, values) ∧
      countPlaceholders query = values.length := by
  let fields := (extractFromMap first).1
  have hvalues : ((first :: rest).map .map).mapM
      (fun item => Prod.snd <$> extractFieldsAndValues item) =
      .ok ((first :: rest).map fun m => fields.map fun field => (m.lookup field).getD .null) := by
    refine mapM_map_except_ok fun m hm => ?_
    rcases List.mem_cons.mp hm with rfl | hm
    · rfl
    · show Except.ok (List.map _ (extractFromMap m).1) = _
      rw [hkeys m hm]
  have hfields : (fields.map countPlaceholders).sum = 0 :=
    List.sum_eq_zero fun n hn => by
      obtain ⟨f, hf, rfl⟩ := List.mem_map.mp hn
      exact hnames.2 f hf
  have hgroup : countPlaceholders
      ("(" ++ String.intercalate ", " (List.replicate fields.length "?") ++ ")") = fields.length := by
    rw [countPlaceholders_append, countPlaceholders_append,
      countPlaceholders_intercalate_sum ", " rfl, List.map_replicate, List.sum_replicate]
    simp [countPlaceholders]
  simp only [Table.getBatchInsertSQL]
  rw [hvalues]
  refine ⟨_, _, rfl, rfl, ?_⟩
  simp only [countPlaceholders_append, countPlaceholders_intercalate_sum ", " rfl, hnames.1, hfields,
    List.map_replicate, List.sum_replicate, hgroup, List.length_flatten, List.map_map,
    Function.comp_def, List.length_map, List.map_const', List.length_cons, smul_eq_mul]
  have hwords : countPlaceholders "INSERT INTO " + countPlaceholders " (" +
      countPlaceholders ") VALUES " = 0 := rfl
  omega

/-- `getBatchInsertSQL_maps` for two rows of one column. -/
theorem getBatchInsertSQL_maps_twoRows :
    (∀ m ∈ [[("a", Value.int 2)]], (extractFromMap m).1 = (extractFromMap [("a", .int 1)]).1) ∧
    (countPlaceholders (DB.table ⟨""⟩ "users").tableName = 0 ∧
      ∀ field ∈ (extractFromMap [("a", .int 1)]).1, countPlaceholders field = 0) ∧
    ∃ query values, (DB.table ⟨""⟩ "users").getBatchInsertSQL
        ([[("a", .int 1)], [("a", .int 2)]].map .map) = .ok (query, values) ∧
      extractFromMapSlice [[("a", .int 1)], [("a", .int 2)]] =
        .ok ((extractFromMap [("a", .int 1)]).1, values) ∧
      countPlaceholders query = values.length :=
  ⟨by decide, by decide, getBatchInsertSQL_maps _ _ _ (by decide) (by decide)⟩

/-- For maps with other keys the preview shows the second map's value under the first map's
column, where `BatchInsert` binds `NULL`. -/
example : (DB.table ⟨""⟩ "users").getBatchInsertSQL [.map [("a", .int 1)], .map [("b", .int 2)]] =
    .ok ("INSERT INTO `users` (a) VALUES (?), (?)", [.int 1, .int 2]) := rfl

end Xlorm
