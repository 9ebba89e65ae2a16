import Xlorm.Sql.BatchUpdate
import Xlorm.Sql.Placeholder

/-!
# Batch inserts (`BatchInsert`, `extractBatchFields`)

`BatchInsert` writes the records in slices of `batchSize` (1000 when it is 0), all in one
transaction. The columns are the first record's keys, each through `escapeSQLIdentifier`
(`extractBatchFields`); each record gives one group of the columns' width, and its value for a
column is looked up under the column's name with the backticks trimmed (`rowValues`). Only key
counts are checked: every record of the first slice against the first record, and then the first
record of every slice.

The argument slice is made once, before the slice loop, and each slice's values are appended to
it (`insertChunks`). So the `Exec` of slice `i` carries the values of slices `0` to `i`
(`insertChunks_spec`, against `chunkStatements`).

**The law** (`batchInsert_atomic`): whatever the driver answers, `BatchInsert` commits only after
every earlier call succeeded, and rolls back after every error and every panic once `Begin` has
succeeded. It panics exactly where Go does (`batchInsert_panicked_iff`).
-/

namespace Xlorm

/-- `strings.Trim(s, "`")`: the backticks at both ends removed. -/
def trimBackticks (s : String) : String :=
  String.mk ((s.toList.dropWhile (· = backtick)).reverse.dropWhile (· = backtick)).reverse

/-- The arguments of a slice: for each record, its value under each column's name with the
backticks trimmed, `nil` when the record lacks it. -/
def rowValues (checkFields : List String) (batchData : List Record) : List Value :=
  batchData.flatMap fun item => checkFields.map fun field => (item.lookup (trimBackticks field)).getD .null

@[simp] theorem rowValues_nil (checkFields : List String) : rowValues checkFields [] = [] := rfl

theorem rowValues_append (checkFields : List String) (a b : List Record) :
    rowValues checkFields (a ++ b) = rowValues checkFields a ++ rowValues checkFields b :=
  List.flatMap_append _ _ _

section BatchInsert

variable (isLetter isDigit : Char → Bool) (toLower : String → String) (sum32 : String → UInt32)
  (driver : Driver) (traceID : String)

/-- `extractBatchFields`: the escaped keys of the first record, in the map's order, or an error
for no records or for the first record whose key count differs from the first one's. -/
def extractBatchFields (data : List Record) : Except String (List String) :=
  match data with
  | [] => .error "数据为空"
  | first :: rest =>
    let fields := first.map fun kv => escapeSQLIdentifier isLetter isDigit toLower kv.1
    match rest.find? (·.length ≠ fields.length) with
    | some item => .error ("批量插入数据字段不一致：第一条记录有 " ++ toString fields.length ++
        " 个字段，当前记录有 " ++ toString item.length ++ " 个字段")
    | none => .ok fields

/-- The slice loop of `BatchInsert`: a slice whose first record has another key count ends it
with `字段数量不匹配`; otherwise the slice's values are appended to `args`, which the loop carries
from slice to slice, and the base query with one group per record is executed with all of `args`.
A failed `Exec` ends the loop. The rows affected are summed in `int64`. -/
def insertChunks (checkFields : List String) (baseQuery placeholder : String) :
    List (List Record) → List Value → BitVec 64 → List TxEvent →
      List TxEvent × BitVec 64 × Option String
  | [], _, total, log => (log, total, none)
  | batchData :: rest, args, total, log =>
    if (batchData.headD []).length ≠ checkFields.length then (log, total, some "字段数量不匹配")
    else
      let args := args ++ rowValues checkFields batchData
      let query := baseQuery ++ String.intercalate "," (List.replicate batchData.length placeholder)
      match callDriver driver log (.exec query args) with
      | (log, .error e) => (log, total, some ("批次插入失败: " ++ e))
      | (log, .ok rowsAffected) =>
        insertChunks checkFields baseQuery placeholder rest args (total + rowsAffected) log

/-- The body of `BatchInsert` after `Begin`: a negative `batchSize` panics at
`data[0:batchSize]`; the first slice's columns are checked, the group of their width fetched
(`getCachedPlaceholder` panics for no columns on a miss), the slice loop runs, then `Commit`. -/
def Table.insertBody (t : Table) (data : List Record) (batchSize : Int)
    (placeholderCache : ShardedCache) (log : List TxEvent) :
    List TxEvent × Ending (BitVec 64) × ShardedCache :=
  if batchSize < 0 then (log, .panicked, placeholderCache)
  else
    match extractBatchFields isLetter isDigit toLower (data.take batchSize.toNat) with
    | .error e => (log, .returned 0 (some e), placeholderCache)
    | .ok checkFields =>
      let cached := getCachedPlaceholder sum32 checkFields.length placeholderCache
      match cached.2 with
      | none => (log, .panicked, cached.1)
      | some placeholder =>
        let baseQuery := "INSERT INTO " ++ t.tableName ++ " (" ++ String.intercalate ", " checkFields ++
          ") VALUES "
        let loop := insertChunks driver checkFields baseQuery placeholder
          (batches batchSize.toNat data.length data) [] 0 log
        match loop.2.2 with
        | some e => (loop.1, .returned loop.2.1 (some e), cached.1)
        | none =>
          let commit := Transaction.commit driver traceID loop.1
          (commit.1, .returned loop.2.1 (commit.2.map ("提交事务失败: " ++ ·)), cached.1)

/-- `BatchInsert`: nothing for no records; then `Begin` and the body. The deferred closure rolls
back after an error or a panic. The DB's placeholder cache comes back as the body left it. -/
def Table.batchInsert (t : Table) (data : List Record) (batchSize : Int)
    (placeholderCache : ShardedCache) : List TxEvent × Ending (BitVec 64) × ShardedCache :=
  let batchSize := if batchSize = 0 then defaultBatchSize else batchSize
  if data.isEmpty then ([], .returned 0 none, placeholderCache)
  else
    let begin := DB.begin driver traceID []
    match begin.2 with
    | some e => (begin.1, .returned 0 (some ("开启事务失败: " ++ e)), placeholderCache)
    | none =>
      let body := t.insertBody isLetter isDigit toLower sum32 driver traceID data batchSize
        placeholderCache begin.1
      (rollbackOnFailure driver traceID body.1 body.2.1, body.2.1, body.2.2)

end BatchInsert

/-! ## What the slice loop executes -/

/-- The statements the slice loop makes when every `Exec` succeeds: slice `i` with its own groups,
and the values of slices `0` to `i` as arguments. -/
def chunkStatements (checkFields : List String) (baseQuery placeholder : String)
    (chunks : List (List Record)) (args : List Value) : List TxCall :=
  (List.range chunks.length).map fun i =>
    .exec (baseQuery ++ String.intercalate "," (List.replicate (chunks.getD i []).length placeholder))
      (args ++ rowValues checkFields (chunks.take (i + 1)).flatten)

theorem chunkStatements_cons (checkFields : List String) (baseQuery placeholder : String)
    (c : List Record) (cs : List (List Record)) (args : List Value) :
    chunkStatements checkFields baseQuery placeholder (c :: cs) args =
      .exec (baseQuery ++ String.intercalate "," (List.replicate c.length placeholder))
          (args ++ rowValues checkFields c) ::
        chunkStatements checkFields baseQuery placeholder cs (args ++ rowValues checkFields c) := by
  simp [chunkStatements, List.range_succ_eq_map, rowValues_append]

/-- What the slice loop adds to the log: statements only, a prefix of `chunkStatements`, all of
which succeeded when the loop ends without error. -/
theorem insertChunks_spec (driver : Driver) (checkFields : List String)
    (baseQuery placeholder : String) :
    ∀ (chunks : List (List Record)) (args : List Value) (total : BitVec 64) (log : List TxEvent),
      ∃ events, (insertChunks driver checkFields baseQuery placeholder chunks args total log).1 =
          log ++ events ∧ NoCommit events ∧
        ((insertChunks driver checkFields baseQuery placeholder chunks args total log).2.2 = none →
          ∀ x ∈ events, x.ok) ∧
        events.filterMap TxEvent.callOf <+: chunkStatements checkFields baseQuery placeholder chunks args
  | [], _, _, log => ⟨[], by simp [insertChunks, NoCommit]⟩
  | c :: cs, args, total, log => by
    unfold insertChunks
    split
    · exact ⟨[], by simp [NoCommit]⟩
    · dsimp only
      rw [chunkStatements_cons]
      generalize hq : TxCall.exec _ _ = call
      cases h : driver log call with
      | error e =>
        simp only [callDriver, h]
        refine ⟨[.call call (.error e)], rfl, ?_, by simp, by simp [TxEvent.callOf]⟩
        subst hq
        simp [NoCommit]
      | ok n =>
        simp only [callDriver, h]
        obtain ⟨events, he, hc, hok, hpre⟩ := insertChunks_spec driver checkFields baseQuery
          placeholder cs (args ++ rowValues checkFields c) (total + n) (log ++ [.call call (.ok n)])
        refine ⟨.call call (.ok n) :: events, by rw [he]; simp, ?_, ?_, ?_⟩
        · subst hq
          simpa [NoCommit] using hc
        · intro hnone x hx
          rcases List.mem_cons.mp hx with rfl | hx
          · rfl
          · exact hok hnone x hx
        · simpa [TxEvent.callOf] using hpre

/-! ## The transaction -/

section Transaction

variable (isLetter isDigit : Char → Bool) (toLower : String → String) (sum32 : String → UInt32)
  (driver : Driver) (traceID : String)

theorem insertBody_commitsAfterSuccess (t : Table) (data : List Record) (batchSize : Int)
    (c : ShardedCache) (n : BitVec 64) :
    CommitsAfterSuccess (t.insertBody isLetter isDigit toLower sum32 driver traceID data batchSize c
      [.call .begin (.ok n)]).1 := by
  have hbegin : CommitsAfterSuccess [.call .begin (.ok n)] :=
    commitsAfterSuccess_of_noCommit (by simp [NoCommit])
  unfold Table.insertBody
  split
  · exact hbegin
  split
  · exact hbegin
  · dsimp only
    split
    · exact hbegin
    · obtain ⟨events, he, hc, hok, -⟩ := insertChunks_spec driver _ _ _
        (batches batchSize.toNat data.length data) [] 0 [.call .begin (.ok n)]
      split
      · rw [he]; exact commitsAfterSuccess_begin_append hc
      · next hnone =>
        simp only [Transaction.commit, wrapCall, he]
        exact commitsAfterSuccess_begin_commit hc (hok hnone) _

/-- `BatchInsert` keeps the transaction discipline, whatever the driver answers. -/
theorem batchInsert_atomic (t : Table) (data : List Record) (batchSize : Int) (c : ShardedCache) :
    Atomic (t.batchInsert isLetter isDigit toLower sum32 driver traceID data batchSize c).1
      (t.batchInsert isLetter isDigit toLower sum32 driver traceID data batchSize c).2.1.failed := by
  unfold Table.batchInsert
  dsimp only
  generalize (if batchSize = 0 then defaultBatchSize else batchSize) = size
  split
  · exact ⟨commitsAfterSuccess_of_noCommit (by simp [NoCommit]), fun _ ⟨_, hn⟩ => by simp at hn⟩
  cases hb : driver [] .begin with
  | error e =>
    simp only [DB.begin, wrapCall, hb, Answer.err, Option.map_some', List.nil_append]
    exact atomic_beginFailed _
  | ok n =>
    simp only [DB.begin, wrapCall, hb, Answer.err, Option.map_none', List.nil_append]
    exact atomic_rollbackOnFailure driver traceID _
      (insertBody_commitsAfterSuccess isLetter isDigit toLower sum32 driver traceID t data size c n)

/-- `BatchInsert` panics exactly where Go does: after a `Begin` that succeeded, at
`data[0:batchSize]` for a negative size, or in `getCachedPlaceholder` for the first slice's
columns. -/
theorem batchInsert_panicked_iff (t : Table) (data : List Record) (batchSize : Int)
    (c : ShardedCache) :
    (t.batchInsert isLetter isDigit toLower sum32 driver traceID data batchSize c).2.1 = .panicked ↔
      data ≠ [] ∧ (driver [] .begin).err = none ∧
        ((if batchSize = 0 then defaultBatchSize else batchSize) < 0 ∨
          ∃ checkFields, extractBatchFields isLetter isDigit toLower
              (data.take (if batchSize = 0 then defaultBatchSize else batchSize).toNat) =
                .ok checkFields ∧
            (getCachedPlaceholder sum32 checkFields.length c).2 = none) := by
  unfold Table.batchInsert
  dsimp only
  generalize (if batchSize = 0 then defaultBatchSize else batchSize) = size
  by_cases hd : data = []
  · simp [hd]
  have hempty : data.isEmpty = false := by simpa using hd
  cases hb : driver [] .begin with
  | error e => simp [hempty, DB.begin, wrapCall, hb, Answer.err]
  | ok n =>
    simp only [hempty, hd, DB.begin, wrapCall, hb, Answer.err, Option.map_none', List.nil_append,
      Bool.false_eq_true, if_false, ne_eq, not_false_eq_true, true_and]
    unfold Table.insertBody
    by_cases hs : size < 0
    · simp [hs]
    · simp only [hs, if_false, false_or]
      cases he : extractBatchFields isLetter isDigit toLower (data.take size.toNat) with
      | error e => simp
      | ok checkFields =>
        cases hc : (getCachedPlaceholder sum32 checkFields.length c).2 with
        | none => simp [hc]
        | some p =>
          simp only [hc]
          split <;> simp [hc]

end Transaction

/-! ## What the slices carry -/

/-- Two records in slices of one: the second `Exec` carries both records' values for its single
placeholder. -/
theorem batchInsert_secondSliceCarriesFirst (sum32 : String → UInt32) :
    ((DB.table ⟨""⟩ "users").batchInsert Char.isAlpha Char.isDigit
        (fun s => String.mk (s.toList.map Char.toLower)) sum32 (fun _ _ => .ok 1) "t"
        [[("a", .int 1)], [("a", .int 2)]] 1 (newShardedCache 1)).1.filterMap TxEvent.callOf =
      [.begin, .exec "INSERT INTO `users` (`a`) VALUES (?)" [.int 1],
        .exec "INSERT INTO `users` (`a`) VALUES (?)" [.int 1, .int 2], .commit] ∧
    countPlaceholders "INSERT INTO `users` (`a`) VALUES (?)" = 1 := by
  refine ⟨?_, by decide⟩
  simp only [Table.batchInsert, Table.insertBody, getCachedPlaceholder_newShardedCache]
  rfl

/-- Keys are checked by count only and looked up by their escaped names: a key that
`escapeSQLIdentifier` rewrites binds `NULL`, and so does a record whose key differs from the first
record's. Both inserts commit without error. -/
theorem batchInsert_bindsNullForOtherKeys (sum32 : String → UInt32) :
    ((DB.table ⟨""⟩ "users").batchInsert Char.isAlpha Char.isDigit
        (fun s => String.mk (s.toList.map Char.toLower)) sum32 (fun _ _ => .ok 1) "t"
        [[("user-name", .int 1)]] 0 (newShardedCache 1)).1.filterMap TxEvent.callOf =
      [.begin, .exec "INSERT INTO `users` (`username`) VALUES (?)" [.null], .commit] ∧
    ((DB.table ⟨""⟩ "users").batchInsert Char.isAlpha Char.isDigit
        (fun s => String.mk (s.toList.map Char.toLower)) sum32 (fun _ _ => .ok 1) "t"
        [[("user-name", .int 1)]] 0 (newShardedCache 1)).2.1 = .returned 1 none ∧
    ((DB.table ⟨""⟩ "users").batchInsert Char.isAlpha Char.isDigit
        (fun s => String.mk (s.toList.map Char.toLower)) sum32 (fun _ _ => .ok 1) "t"
        [[("a", .int 1)], [("b", .int 2)]] 0 (newShardedCache 1)).1.filterMap TxEvent.callOf =
      [.begin, .exec "INSERT INTO `users` (`a`) VALUES (?),(?)" [.int 1, .null], .commit] ∧
    ((DB.table ⟨""⟩ "users").batchInsert Char.isAlpha Char.isDigit
        (fun s => String.mk (s.toList.map Char.toLower)) sum32 (fun _ _ => .ok 1) "t"
        [[("a", .int 1)], [("b", .int 2)]] 0 (newShardedCache 1)).2.1 = .returned 1 none := by
  simp only [Table.batchInsert, Table.insertBody, getCachedPlaceholder_newShardedCache]
  exact ⟨rfl, rfl, rfl, rfl⟩

/-- `BatchInsert` panics for a negative batch size and for a first record without keys, and
`BatchUpdate` for a negative batch size; each rolls back first. -/
theorem batchInsert_batchUpdate_panic (sum32 : String → UInt32) :
    ((DB.table ⟨""⟩ "users").batchInsert Char.isAlpha Char.isDigit
        (fun s => String.mk (s.toList.map Char.toLower)) sum32 (fun _ _ => .ok 1) "t"
        [[("a", .int 1)]] (-1) (newShardedCache 1)).2.1 = .panicked ∧
    ((DB.table ⟨""⟩ "users").batchInsert Char.isAlpha Char.isDigit
        (fun s => String.mk (s.toList.map Char.toLower)) sum32 (fun _ _ => .ok 1) "t"
        [[]] 0 (newShardedCache 1)).2.1 = .panicked ∧
    ((DB.table ⟨""⟩ "users").batchUpdateTx (fun _ _ => .ok 1) "t"
        [[("id", .int 1), ("name", .str "a")]] "id" (-1)) =
      ([.call .begin (.ok 1), .call .rollback (.ok 1)], .panicked) := by
  simp only [Table.batchInsert, Table.insertBody, getCachedPlaceholder_newShardedCache]
  exact ⟨rfl, rfl, rfl⟩

/-- `ExecTx`, `BatchInsert` and `BatchUpdate` keep the transaction discipline for every input and
every answer of the driver. -/
theorem transactions_commitAfterSuccess_rollbackOnFailure :
    (∀ (driver : Driver) (traceID : String) (fn : Ending Unit),
      Atomic (DB.execTx driver traceID fn).1 (DB.execTx driver traceID fn).2.failed) ∧
    (∀ (isLetter isDigit : Char → Bool) (toLower : String → String) (sum32 : String → UInt32)
        (driver : Driver) (traceID : String) (t : Table) (data : List Record) (batchSize : Int)
        (c : ShardedCache),
      Atomic (t.batchInsert isLetter isDigit toLower sum32 driver traceID data batchSize c).1
        (t.batchInsert isLetter isDigit toLower sum32 driver traceID data batchSize c).2.1.failed) ∧
    (∀ (driver : Driver) (traceID : String) (t : Table) (records : List Record) (keyField : String)
        (batchSize : Int),
      Atomic (t.batchUpdateTx driver traceID records keyField batchSize).1
        (t.batchUpdateTx driver traceID records keyField batchSize).2.failed) :=
  ⟨execTx_atomic, batchInsert_atomic, batchUpdateTx_atomic⟩

end Xlorm
