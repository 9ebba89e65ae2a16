import Xlorm.Sql.Chain

/-!
# The total of a query (`findAllWithContext`, `FindAllWithCursor`, `copyQueryConditions`)

With `HasTotal(true)`, `findAllWithContext` (behind `FindAll` and `FindAllWithContext`) and
`FindAllWithCursor` first count the rows: they take a fresh table `db.M(t.tableName)`, copy the
query conditions onto it (`copyQueryConditions`) and run its `Count`; then they run the table's own
`SELECT`. The driver's answers and the rows read back are left out: the model is the statements
issued, in order, and how MySQL reads their backtick-quoted names (`outsideQuotes`).

`t.tableName` is already `GetTableName`'s quoted, prefixed name, and `DB.M` quotes and prefixes it
again; `copyQueryConditions` copies the conditions but not the flags that choose their connective.

`Release`, deferred by both, resets the table and returns it to `tablePool` before the caller can
read `GetTotal`; the second part of the module models the pool.

**The law** (`countTable_eq`): the count table is the table's query with its name passed through
`DB.M` a second time and its condition flags cleared, so its conditions are always joined by a
bare `AND` (`countTable_getWhere`). And (`findAll_countRefused`) the `COUNT` names the table
quoted twice, which leaves the name outside every identifier: MySQL refuses the statement, so a
call with `HasTotal(true)` never returns rows and a total. Whatever it returned, `GetTotal` after
it reads the reset table, which the pool may already have handed to another caller.
-/

namespace Xlorm

namespace Table

/-- `copyQueryConditions`: the conditions, their arguments and the joins (each only when not
empty), the grouping and the `HAVING` copied onto `target`; not the condition flags. -/
def copyQueryConditions (t target : Table) : Table :=
  { target with
    «where» := if t.«where».isEmpty then target.«where» else t.«where»,
    args := if t.args.isEmpty then target.args else t.args,
    joins := if t.joins.isEmpty then target.joins else t.joins,
    groupBy := t.groupBy,
    having := t.having }

/-- The table the `HasTotal` branch counts on: `db.M(t.tableName)` with the conditions copied. -/
def countTable (db : DB) (t : Table) : Table := t.copyQueryConditions (db.m t.tableName)

/-- The body `findAllWithContext` and `FindAllWithCursor` share: with `hasTotal`, the count
table's `COUNT` first, then the table's `SELECT`. -/
def totalThenSelect (db : DB) (t : Table) : List (Text × Option (List Value)) :=
  (if t.hasTotal then [((t.countTable db).buildQuery "COUNT").2] else []) ++
    [(t.buildQuery "SELECT").2]

/-- `findAllWithContext`: its statements. -/
def findAllWithContext (db : DB) (t : Table) : List (Text × Option (List Value)) :=
  t.totalThenSelect db

/-- `FindAllWithCursor`: its statements. -/
def FindAllWithCursor (db : DB) (t : Table) : List (Text × Option (List Value)) :=
  t.totalThenSelect db

end Table

/-- The count table is the table's query with its name passed through `DB.M` once more and its
condition flags cleared. -/
theorem Table.countTable_eq (db : DB) (t : Table) (h : DB.tableRejection t.tableName = none) :
    t.countTable db =
      { Table.reset with
        tableName := db.getTableName t.tableName
        «where» := t.«where»
        args := t.args
        joins := t.joins
        groupBy := t.groupBy
        having := t.having } := by
  simp only [Table.countTable, Table.copyQueryConditions, DB.m, DB.table, h]
  congr 1 <;> split <;> simp_all [Table.reset]

/-- The count table joins its conditions with a bare `AND`, whatever the table's flags. -/
theorem Table.countTable_getWhere (db : DB) (t : Table) (h : DB.tableRejection t.tableName = none) :
    ((t.countTable db).getWhere true).2 =
      if t.«where».isEmpty then ([], [])
      else ([.sql " WHERE "] ++ List.intercalate [.sql " AND "] t.«where», t.args) := by
  rw [Table.countTable_eq db t h]
  by_cases hw : t.«where».isEmpty <;> simp [Table.getWhere, Table.reset, hw]

/-- After `Where(a).OrWhere(b).HasTotal(true)`, `FindAll` counts on the table named ``users``,
which MySQL reads as the word `users` between two empty identifiers, with `a AND b`, and then
selects from `users` with `a OR b`; with `a` true and `b` false the two conditions disagree. -/
theorem findAll_countDisagreesWithSelect :
    (((((DB.mk "").m "users").Where "a = ?" [.int 1]).OrWhere "b = ?" [.int 2]).HasTotal
        true).findAllWithContext ⟨""⟩ =
      [([.sql "SELECT COUNT(*) FROM ", .sql "``users``", .sql " WHERE ", .cond "a = ?", .sql " AND ",
          .cond "b = ?"], some [.int 1, .int 2]),
        ([.sql "SELECT ", .sql "*", .sql " FROM ", .sql "`users`", .sql " WHERE ", .sql "(",
          .cond "a = ?", .sql " OR ", .cond "b = ?", .sql ")"], some [.int 1, .int 2])] ∧
    (outsideQuotes .outside "``users``".toList).map String.mk = some "users" ∧
    ((Text.whereCond [.sql " WHERE ", .cond "a = ?", .sql " AND ", .cond "b = ?"]).map
        (Cond.eval fun c => c = "a = ?")) = some false ∧
    ((Text.whereCond [.sql " WHERE ", .sql "(", .cond "a = ?", .sql " OR ", .cond "b = ?",
        .sql ")"]).map (Cond.eval fun c => c = "a = ?")) = some true :=
  ⟨rfl, by decide, by decide, by decide⟩

/-! ## The table after the call, and `tablePool`

`findAllWithContext` and `FindAllWithCursor` begin with `defer t.Release()`: `Release` resets the
table and puts it back into `tablePool`, whose next `Get` may hand it to any caller. A program's
tables are objects at addresses; `PoolEvent` is one step a goroutine takes on them, and a call to
`FindAll` ends with its `Release`. The count table the `HasTotal` branch takes with
`db.M` goes back to the pool reset by its own `Count`, as every pooled object is, so its round
trip is left out. -/

namespace Table

/-- `GetTotal`: the total, once `HasTotal(true)` was called, and `0` otherwise. -/
def getTotal (t : Table) : BitVec 64 := if !t.hasTotal then 0 else t.total

/-- `Release`: `Reset`, before the object goes back into `tablePool`. -/
def release (_ : Table) : Table := Table.reset

end Table

/-- The `*Table` objects of a program, by address, and the addresses `tablePool` holds. -/
structure TableHeap where
  objects : List Table
  pool : List Nat

/-- A step a goroutine takes on the table objects. -/
inductive PoolEvent where
  /-- `db.Table(name)` or `db.M(name)`, `tablePool.Get` handing out the pooled object `pick` or,
  if `pick` names none, a new one. -/
  | table (name : String) (pick : Option Nat)
  /-- A chained call on the object at `p`. -/
  | call (p : Nat) (c : TableCall)
  /-- The deferred `Release` of that call. -/
  | release (p : Nat)

namespace TableHeap

/-- The object at an address, a reset one past the end. -/
def object (h : TableHeap) (p : Nat) : Table := h.objects.getD p Table.reset

/-- The address `tablePool.Get` hands out: the object picked if the pool holds it, else a new
one. -/
def getAddress (h : TableHeap) (pick : Option Nat) : Nat :=
  match pick with
  | some p => if p ∈ h.pool then p else h.objects.length
  | none => h.objects.length

section Step

variable (isLetter isDigit : Char → Bool) (db : DB)

/-- One step (`OrderBy` over Go's `unicode` classes). -/
def step (h : TableHeap) : PoolEvent → TableHeap
  | .table name pick =>
    if h.getAddress pick < h.objects.length then
      { objects := h.objects.set (h.getAddress pick) (db.table name),
        pool := h.pool.erase (h.getAddress pick) }
    else { h with objects := h.objects ++ [db.table name] }
  | .call p c => { h with objects := h.objects.set p ((h.object p).call isLetter isDigit c) }
  | .release p => { objects := h.objects.set p (h.object p).release, pool := p :: h.pool }

end Step

theorem object_set {h : TableHeap} {objects : List Table} (p : Nat) (t : Table)
    (hobj : objects = h.objects.set p t) (hp : p < h.objects.length) (pool : List Nat) :
    TableHeap.object ⟨objects, pool⟩ p = t := by
  simp [object, hobj, List.getD_eq_getElem?_getD, hp]

end TableHeap

/-- A `COUNT` statement begins with its table reference. -/
theorem Table.buildQuery_count_head (t : Table) :
    ((t.buildQuery "COUNT").2.1).take 2 = [.sql "SELECT COUNT(*) FROM ", .sql t.tableName] := by
  unfold Table.buildQuery
  rw [if_neg (by decide), if_pos rfl]
  rfl

/-- A name quoted once with no backtick inside is one identifier, nothing outside it; quoted a
second time, the name itself stands outside every identifier. -/
theorem outsideQuotes_getTableName (db : DB) {name : String}
    (hb : backtick ∉ (db.tablePre ++ name).data) :
    outsideQuotes .outside (db.getTableName name).data = some [] ∧
      outsideQuotes .outside (db.getTableName (db.getTableName name)).data =
        some (db.tablePre ++ name).data := by
  have hpre : backtick ∉ db.tablePre.data := fun h => hb (by simp [String.data_append, h])
  have h1 : (db.getTableName name).data = backtick :: ((db.tablePre ++ name).data ++ [backtick]) := by
    simp [DB.getTableName, String.data_append, backtick]
  have h2 : (db.getTableName (db.getTableName name)).data =
      backtick :: (db.tablePre.data ++ backtick :: ((db.tablePre ++ name).data ++
        backtick :: backtick :: [])) := by
    simp [DB.getTableName, String.data_append, backtick]
  constructor
  · rw [h1, outsideQuotes_outside_cons, if_pos rfl, outsideQuotes_inside hb]
    rfl
  · have hempty : outsideQuotes .outside [backtick, backtick] = some [] := by decide
    rw [h2, outsideQuotes_outside_cons, if_pos rfl, outsideQuotes_inside hpre,
      outsideQuotes_closing, outsideQuotes_plain_append hb, hempty]
    simp

/-- With `HasTotal(true)`, on every table whose name `db.M` gave from a prefix and a name without
backticks, `FindAll` (`findAllWithContext`) and `FindAllWithCursor` send the count table's `COUNT`
first, and its table reference is the name quoted twice: read as MySQL reads backticks, it leaves
the prefixed name outside every quoted identifier, after `prefix` and before an empty one, where
the table's own reference is one identifier. MySQL refuses that reference, so the call returns the
count's error, with no rows and no total. Whatever it returned, its deferred `Release` has reset
the table and put it back into `tablePool`: `GetTotal` on it reads `0`, and the next `db.Table`
may hand the same object to another caller. -/
theorem findAll_countRefused (isLetter isDigit : Char → Bool) (db : DB) (name : String)
    (t : Table) (hname : t.tableName = db.getTableName name)
    (hclean : DB.tableRejection t.tableName = none) (hb : backtick ∉ (db.tablePre ++ name).data)
    (htotal : t.hasTotal = true) (h : TableHeap) (p : Nat) (hp : p < h.objects.length)
    (other : String) :
    let count := ((t.countTable db).buildQuery "COUNT").2
    t.findAllWithContext db = [count, (t.buildQuery "SELECT").2] ∧
      t.FindAllWithCursor db = [count, (t.buildQuery "SELECT").2] ∧
      count.1.take 2 = [.sql "SELECT COUNT(*) FROM ", .sql (db.getTableName t.tableName)] ∧
      outsideQuotes .outside (db.getTableName t.tableName).data =
        some (db.tablePre ++ name).data ∧
      outsideQuotes .outside t.tableName.data = some [] ∧
      let h₁ := h.step isLetter isDigit db (.release p)
      (h₁.object p).getTotal = 0 ∧ p ∈ h₁.pool ∧
        (h₁.step isLetter isDigit db (.table other (some p))).object p = db.table other := by
  intro count
  have hstmts : t.totalThenSelect db = [count, (t.buildQuery "SELECT").2] := by
    simp only [Table.totalThenSelect, htotal, if_true]; rfl
  have hquote := outsideQuotes_getTableName db hb
  have hcount : count.1.take 2 = [.sql "SELECT COUNT(*) FROM ", .sql (db.getTableName t.tableName)] := by
    rw [Table.buildQuery_count_head, Table.countTable_eq db t hclean]
  refine ⟨hstmts, hstmts, hcount, hname ▸ hquote.2, hname ▸ hquote.1, ?_⟩
  intro h₁
  have hlen : h₁.objects.length = h.objects.length := by simp [h₁, TableHeap.step]
  have hobj : h₁.object p = Table.reset :=
    TableHeap.object_set p _ rfl (by simpa [TableHeap.step] using hp) _
  have hpool : p ∈ h₁.pool := List.mem_cons_self _ _
  have haddr : h₁.getAddress (some p) = p := if_pos hpool
  refine ⟨by rw [hobj]; rfl, hpool, ?_⟩
  simp only [TableHeap.step, haddr, hlen, if_pos hp]
  exact TableHeap.object_set p _ rfl (hlen ▸ hp) _

/-- `findAll_countRefused` on `users` with no prefix: the `COUNT` reads the word `users` outside
every identifier, and `GetTotal` after the call reads `0`. -/
theorem findAll_countRefused_users :
    outsideQuotes .outside
        ((DB.mk "").getTableName ((((DB.mk "").m "users").HasTotal true).tableName)).data =
      some "users".data ∧
    ((TableHeap.mk [Table.reset] []).step Char.isAlpha Char.isDigit ⟨""⟩ (.release 0)
      |>.object 0).getTotal = 0 :=
  have h := findAll_countRefused Char.isAlpha Char.isDigit ⟨""⟩ "users"
    (((DB.mk "").m "users").HasTotal true) rfl (by decide) (by decide) rfl ⟨[Table.reset], []⟩ 0
    (by decide) "orders"
  ⟨h.2.2.2.1, h.2.2.2.2.2.1⟩

end Xlorm
