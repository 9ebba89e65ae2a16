import Mathlib.Data.String.Basic
import Xlorm.Sql.Transaction

/-!
# Batch updates (`BatchUpdate`, `updateBatch`)

`BatchUpdate` cuts the records into slices of `batchSize` and runs one statement per slice in
a transaction. A slice's statement sets every field of the slice's *first* record through a
`CASE` on the key column:

    UPDATE`t` SET `f` = CASE `k` WHEN ? THEN ?  WHEN ? THEN ?  END, … WHERE `k` IN (?,?)

Under SQL's reading (`CaseUpdate.execRow`) a `CASE` takes its first matching arm, and `IN`
restricts the rows touched; both compare with MySQL's `=`, a parameter `eq`. The reading the
batch is measured against is one plain update per record, in list order (`specUpdate`), under
the same `=`.

A slice's statement is also read as the server reads it, with the DSN's server-side prepare: its
`?` outside backtick-quoted names, left to right, take its arguments in order.
`caseUpdateLayout` says which argument each `?` should take, as pieces of text and bound
arguments (`Bound`); `updateBatch` writes exactly that layout, and when no name holds a backtick,
every name stays inside its quotes and the `?` outside them are exactly the arguments.

**The law**: when no value is `=` to the keys of two records and all records have the same
fields, the batch statements leave exactly the state the per-record updates leave, whatever the
batch size. Duplicate keys inside one slice resolve to the first record, not the last.
-/

namespace Xlorm

/-- `defaultBatchSize`. -/
def defaultBatchSize : Int := 1000

/-- The statement `updateBatch` writes: the table, the key column, each field with its
`WHEN key THEN value` arms, and the keys of the `IN` list. -/
structure CaseUpdate where
  tableName : String
  keyField : String
  arms : List (String × List (Value × Value))
  keys : List Value
  deriving Repr, DecidableEq

/-- The text and the arguments of a `CaseUpdate`, as `updateBatch` writes them. -/
def CaseUpdate.render (u : CaseUpdate) : String × List Value :=
  ("UPDATE" ++ u.tableName ++ " SET " ++
      String.intercalate ", " (u.arms.map fun arm =>
        "`" ++ arm.1 ++ "` = CASE `" ++ u.keyField ++ "`" ++
          String.join (arm.2.map fun _ => " WHEN ? THEN ? ") ++ " END") ++
      " WHERE `" ++ u.keyField ++ "` IN (" ++ String.intercalate "," (u.keys.map fun _ => "?") ++
      ")",
    (u.arms.flatMap fun arm => arm.2.flatMap fun w => [w.1, w.2]) ++ u.keys)

/-- `record[keyField]`: the key's value, `nil` when it is missing. -/
def keyOf (keyField : String) (record : Record) : Value :=
  (record.lookup keyField).getD .null

/-- The `WHEN ? THEN ?` arguments of one field, record by record, or the error of the first
record that lacks the key or the field. -/
def whenArgs (keyField field : String) : List Record → Except String (List (Value × Value))
  | [] => .ok []
  | record :: records =>
    match record.lookup keyField, record.lookup field with
    | none, _ => .error ("记录缺少主键字段: " ++ keyField)
    | some _, none => .error ("记录缺少更新字段: " ++ field)
    | some keyValue, some value => (whenArgs keyField field records).map ((keyValue, value) :: ·)

/-- The arms of the fields, field by field. -/
def caseArms (keyField : String) (records : List Record) :
    List String → Except String (List (String × List (Value × Value)))
  | [] => .ok []
  | field :: fields =>
    match whenArgs keyField field records with
    | .error e => .error e
    | .ok whens => (caseArms keyField records fields).map ((field, whens) :: ·)

/-- `updateBatch`: nothing for no records; otherwise the statement over the fields of the first
record other than the key (in the map's iteration order), or the error of a missing field. -/
def Table.updateBatch (t : Table) (records : List Record) (keyField : String) :
    Except String (Option CaseUpdate) :=
  match records with
  | [] => .ok none
  | first :: _ =>
    let updateFields := (first.map Prod.fst).filter (· ≠ keyField)
    if updateFields.isEmpty then .error "没有要更新的字段"
    else (caseArms keyField records updateFields).map fun arms =>
      some ⟨t.tableName, keyField, arms, records.map (keyOf keyField)⟩

/-- The slices `records[i:min(i + size, len)]` for `i = 0, size, 2·size, …`, with fuel. -/
def batches {α : Type} (size : Nat) : Nat → List α → List (List α)
  | 0, _ => []
  | _ + 1, [] => []
  | n + 1, l@(_ :: _) => l.take size :: batches size n (l.drop size)

/-- The loop of `BatchUpdate` over its slices: the statements, or the first error. -/
def Table.updateBatches (t : Table) (keyField : String) :
    List (List Record) → Except String (List CaseUpdate)
  | [] => .ok []
  | batch :: rest =>
    match t.updateBatch batch keyField with
    | .error e => .error e
    | .ok u => (t.updateBatches keyField rest).map (u.toList ++ ·)

/-- `BatchUpdate`: the statements it executes in its transaction, or the error on which it rolls
back; `none` where Go panics, a negative `batchSize` slicing `records[0:batchSize]`. -/
def Table.batchUpdate (t : Table) (records : List Record) (keyField : String) (batchSize : Int) :
    Option (Except String (List CaseUpdate)) :=
  let batchSize := if batchSize = 0 then defaultBatchSize else batchSize
  if records.isEmpty then some (.ok [])
  else if keyField = "" then some (.error "必须指定主键字段")
  else if batchSize < 0 then none
  else some (t.updateBatches keyField (batches batchSize.toNat records.length records))

/-! ## SQL's reading

MySQL's `=` between a column's value and an argument is a parameter `eq` of the reading: it
compares a string with a number numerically (`'01' = 1`) and strings under the column's
collation, so two different arguments may both equal one value. -/

/-- A row: a value in every column. -/
abbrev Row := String → Value

/-- `=` where MySQL compares exactly, between values of one kind (integers, or strings under a
binary collation): `NULL` equals nothing. -/
def sqlEq : Value → Value → Bool
  | .null, _ => false
  | _, .null => false
  | a, b => a = b

section Reading

variable (eq : Value → Value → Bool)

/-- `CASE k WHEN … END`: the value of the first arm whose key equals `k`. -/
def caseValue (k : Value) : List (Value × Value) → Value
  | [] => .null
  | (w, v) :: arms => if eq k w then v else caseValue k arms

/-- A `CaseUpdate` on one row: a row whose key is in the `IN` list gets every field set by its
`CASE`. The right-hand sides read only the key column, which no arm sets, so the assignments
are simultaneous. -/
def CaseUpdate.execRow (u : CaseUpdate) (row : Row) : Row :=
  if u.keys.any (eq (row u.keyField)) then
    fun col => match u.arms.lookup col with
      | some whens => caseValue eq (row u.keyField) whens
      | none => row col
  else row

/-- The statements run one after another on the table's rows. -/
def execAll (stmts : List CaseUpdate) (rows : List Row) : List Row :=
  stmts.foldl (fun rows u => rows.map (u.execRow eq)) rows

/-- `UPDATE t SET f = r[f] (every key f of r but the key) WHERE keyField = r[keyField]`, on one
row. -/
def recordUpdate (keyField : String) (r : Record) (row : Row) : Row :=
  if eq (row keyField) (keyOf keyField r) then
    fun col => if col = keyField then row col else (r.lookup col).getD (row col)
  else row

/-- One such update per record, in list order. -/
def specUpdate (keyField : String) (records : List Record) (rows : List Row) : List Row :=
  records.foldl (fun rows r => rows.map (recordUpdate eq keyField r)) rows

end Reading

/-! ## What a successful slice writes -/

theorem sqlEq_iff {a b : Value} : sqlEq a b = true ↔ a ≠ .null ∧ a = b := by
  cases a <;> cases b <;> simp [sqlEq]

/-- Under `sqlEq` no value equals two different keys. -/
theorem sqlEq_of_ne {a b : Value} (h : a ≠ b) (x : Value) (ha : sqlEq x a = true) :
    sqlEq x b = false := by
  rw [sqlEq_iff] at ha
  cases hb : sqlEq x b
  · rfl
  · exact absurd ((sqlEq_iff.mp hb).2 ▸ ha.2) (Ne.symm h)

theorem lookup_eq_none_iff_not_mem {a : String} {l : List (String × Value)} :
    l.lookup a = none ↔ a ∉ l.map Prod.fst := by
  simp only [List.lookup_eq_none_iff, List.mem_map, not_exists, not_and, bne_iff_ne, ne_eq]
  exact ⟨fun h p hp e => h p hp e.symm, fun h p hp e => h p hp e.symm⟩

theorem whenArgs_ok {keyField field : String} :
    ∀ {records : List Record} {whens}, whenArgs keyField field records = .ok whens →
      whens = records.map fun r => (keyOf keyField r, (r.lookup field).getD .null)
  | [], _, h => by cases h; rfl
  | r :: rs, whens, h => by
    unfold whenArgs at h
    split at h
    · cases h
    · cases h
    · next keyValue value hk hv =>
      obtain ⟨ws, hw, rfl⟩ := except_map_eq_ok h
      simp [keyOf, hk, hv, whenArgs_ok hw]

theorem caseArms_ok {keyField : String} {records : List Record} :
    ∀ {fields : List String} {arms}, caseArms keyField records fields = .ok arms →
      arms = fields.map fun f =>
        (f, records.map fun r => (keyOf keyField r, (r.lookup f).getD .null))
  | [], _, h => by cases h; rfl
  | f :: fs, arms, h => by
    unfold caseArms at h
    split at h
    · cases h
    · next whens hw =>
      obtain ⟨as, ha, rfl⟩ := except_map_eq_ok h
      simp [whenArgs_ok hw, caseArms_ok ha]

/-- A successful slice writes the arms of its first record's fields other than the key, and the
`IN` list of its keys. -/
theorem updateBatch_ok {t : Table} {keyField : String} {first : Record} {rest : List Record}
    {u : Option CaseUpdate} (h : t.updateBatch (first :: rest) keyField = .ok u) :
    u = some ⟨t.tableName, keyField,
      ((first.map Prod.fst).filter (· ≠ keyField)).map fun f =>
        (f, (first :: rest).map fun r => (keyOf keyField r, (r.lookup f).getD .null)),
      (first :: rest).map (keyOf keyField)⟩ := by
  unfold Table.updateBatch at h
  dsimp only at h
  split at h
  · cases h
  · obtain ⟨arms, ha, rfl⟩ := except_map_eq_ok h
    rw [caseArms_ok ha]

/-! ## The placeholders of a slice -/

theorem intercalate_singleton_cons {α : Type} (x : α) (y : List α) :
    ∀ ys : List (List α), List.intercalate [x] (y :: ys) = y ++ ys.flatMap (x :: ·)
  | [] => by simp [List.intercalate]
  | z :: zs => by
    rw [List.intercalate, List.intersperse_cons₂, List.flatten_cons, List.flatten_cons,
      ← List.intercalate, intercalate_singleton_cons x z zs]
    simp

theorem mem_intercalate_singleton {α : Type} {a x : α} :
    ∀ {xss : List (List α)}, a ∈ List.intercalate [x] xss → a = x ∨ ∃ xs ∈ xss, a ∈ xs
  | [], h => by simp [List.intercalate] at h
  | y :: ys, h => by
    rw [intercalate_singleton_cons, List.mem_append, List.mem_flatMap] at h
    rcases h with h | ⟨z, hz, h⟩
    · exact .inr ⟨y, List.mem_cons_self _ _, h⟩
    · rcases List.mem_cons.mp h with rfl | h
      · exact .inl rfl
      · exact .inr ⟨z, List.mem_cons_of_mem _ hz, h⟩

theorem length_flatMap_const {α β : Type} {f : α → List β} {c : Nat}
    (hf : ∀ x, (f x).length = c) : ∀ l : List α, (l.flatMap f).length = l.length * c
  | [] => by simp
  | x :: l => by simp [hf, length_flatMap_const hf l, Nat.succ_mul, Nat.add_comm]

theorem join_append (a b : List String) :
    String.join (a ++ b) = String.join a ++ String.join b :=
  String.ext (by simp)

theorem join_cons (a : String) (l : List String) : String.join (a :: l) = a ++ String.join l :=
  String.ext (by simp)

theorem intercalate_cons (s a : String) (l : List String) :
    String.intercalate s (a :: l) = a ++ String.join (l.map (s ++ ·)) := by
  suffices ∀ acc, String.intercalate.go acc s l = acc ++ String.join (l.map (s ++ ·)) from this a
  induction l with
  | nil => intro acc; exact (String.append_empty acc).symm
  | cons b l ih => intro acc; apply String.ext; simp [String.intercalate.go, ih]

/-- A piece of a statement: text, or a `?` with the argument it binds. -/
inductive Bound where
  | lit (s : String)
  | arg (v : Value)
  deriving Repr, DecidableEq

/-- A piece's text: `?` for an argument. -/
def Bound.text : Bound → String
  | .lit s => s
  | .arg _ => "?"

/-- A piece's argument, if any. -/
def Bound.args : Bound → List Value
  | .lit _ => []
  | .arg v => [v]

/-- A statement from its pieces: the text, and the arguments in order. -/
def Bound.render (bs : List Bound) : String × List Value :=
  (String.join (bs.map Bound.text), bs.flatMap Bound.args)

@[simp] theorem Bound.render_nil : Bound.render [] = ("", []) := rfl

@[simp] theorem Bound.render_cons (b : Bound) (bs : List Bound) :
    Bound.render (b :: bs) = (b.text ++ (Bound.render bs).1, b.args ++ (Bound.render bs).2) := by
  simp [Bound.render, join_cons]

theorem Bound.render_append (a b : List Bound) :
    Bound.render (a ++ b) = ((Bound.render a).1 ++ (Bound.render b).1,
      (Bound.render a).2 ++ (Bound.render b).2) := by
  simp [Bound.render, join_append]

theorem Bound.render_flatMap {α : Type} (f : α → List Bound) :
    ∀ l : List α, Bound.render (l.flatMap f) =
      (String.join (l.map fun x => (Bound.render (f x)).1),
        l.flatMap fun x => (Bound.render (f x)).2)
  | [] => rfl
  | x :: l => by
    rw [List.flatMap_cons, Bound.render_append, Bound.render_flatMap f l]
    simp [join_cons]

theorem Bound.render_intercalate (sep : String) :
    ∀ xs : List (List Bound), Bound.render (List.intercalate [.lit sep] xs) =
      (String.intercalate sep (xs.map fun y => (Bound.render y).1),
        xs.flatMap fun y => (Bound.render y).2)
  | [] => rfl
  | x :: xs => by
    rw [intercalate_singleton_cons, Bound.render_append, Bound.render_flatMap]
    simp [intercalate_cons, Bound.text, Bound.args, Function.comp_def]

/-- Text that, read from outside every identifier, ends outside one, and leaves there a stretch
without `?`. -/
def Quiet (cs : List Char) : Prop :=
  ∃ p : List Char, '?' ∉ p ∧
    ∀ rest, outsideQuotes .outside (cs ++ rest) = (outsideQuotes .outside rest).map (p ++ ·)

theorem Quiet.nil : Quiet [] := ⟨[], nofun, fun _ => by simp⟩

/-- Plain text in front of quiet text: neither a backtick nor a `?`. -/
theorem Quiet.plain {cs rest : List Char} (hcs : ∀ c ∈ cs, c ≠ backtick ∧ c ≠ '?')
    (h : Quiet rest) : Quiet (cs ++ rest) := by
  induction cs with
  | nil => simpa using h
  | cons c cs ih =>
    obtain ⟨p, hp, hrest⟩ := ih fun d hd => hcs d (List.mem_cons_of_mem c hd)
    obtain ⟨hb, hq⟩ := hcs c (List.mem_cons_self c cs)
    refine ⟨c :: p, by simp [hq, hp, Ne.symm hq], fun r => ?_⟩
    rw [List.cons_append, List.cons_append, outsideQuotes_outside_cons, if_neg hb, hrest,
      Option.map_map]
    rfl

/-- A quoted name without backticks in front of quiet text. -/
theorem Quiet.quote {n rest : List Char} (hn : backtick ∉ n) (h : Quiet rest) :
    Quiet (backtick :: (n ++ backtick :: rest)) := by
  obtain ⟨p, hp, hrest⟩ := h
  refine ⟨p, hp, fun r => ?_⟩
  rw [List.cons_append, outsideQuotes_outside_cons, if_pos rfl, List.append_assoc,
    List.cons_append, outsideQuotes_inside hn, outsideQuotes_closing, hrest]

theorem Quiet.append {a b : List Char} (ha : Quiet a) (hb : Quiet b) : Quiet (a ++ b) := by
  obtain ⟨p, hp, hpa⟩ := ha
  obtain ⟨q, hq, hqb⟩ := hb
  refine ⟨p ++ q, by simp [hp, hq], fun r => ?_⟩
  rw [List.append_assoc, hpa, hqb, Option.map_map]
  simp [Function.comp_def]

/-- When every text piece is quiet, the `?` outside identifiers are the argument pieces. -/
theorem count_outsideQuotes_render :
    ∀ {bs : List Bound}, (∀ s, Bound.lit s ∈ bs → Quiet s.data) →
      (outsideQuotes .outside (Bound.render bs).1.data).map (·.count '?') =
        some (Bound.render bs).2.length
  | [], _ => rfl
  | b :: bs, h => by
    have ih := count_outsideQuotes_render fun s hs => h s (List.mem_cons_of_mem b hs)
    rw [Bound.render_cons]
    obtain ⟨x, hx, hcount⟩ := Option.map_eq_some'.mp ih
    cases b with
    | lit s =>
      obtain ⟨p, hp, hs⟩ := h s (List.mem_cons_self _ _)
      show ((outsideQuotes .outside (s.data ++ (Bound.render bs).1.data)).map _) = _
      rw [hs, hx]
      simp [List.count_eq_zero_of_not_mem hp, Bound.args, hcount]
    | arg v =>
      show ((outsideQuotes .outside ('?' :: (Bound.render bs).1.data)).map _) = _
      rw [outsideQuotes_outside_cons, if_neg (by decide), hx]
      simp [Bound.args, hcount, Nat.add_comm]

/-- A slice's statement as its placeholders should bind: for each field, its `CASE` with one
`WHEN ? THEN ?` per record, in record order, binding that record's key and value; then the
`IN` list, binding the records' keys in record order. -/
def caseUpdateLayout (tableName keyField : String) (fields : List String)
    (records : List Record) : List Bound :=
  [.lit ("UPDATE" ++ tableName ++ " SET ")] ++
    List.intercalate [.lit ", "] (fields.map fun f =>
      [.lit ("`" ++ f ++ "` = CASE `" ++ keyField ++ "`")] ++
        records.flatMap (fun r => [.lit " WHEN ", .arg (keyOf keyField r), .lit " THEN ",
          .arg ((r.lookup f).getD .null), .lit " "]) ++
        [.lit " END"]) ++
    [.lit (" WHERE `" ++ keyField ++ "` IN (")] ++
    List.intercalate [.lit ","] (records.map fun r => [.arg (keyOf keyField r)]) ++ [.lit ")"]

/-- The statement of a slice is its layout. -/
theorem render_caseUpdateLayout (name k : String) (fields : List String)
    (records : List Record) :
    CaseUpdate.render ⟨name, k, fields.map fun f =>
        (f, records.map fun r => (keyOf k r, (r.lookup f).getD .null)),
      records.map (keyOf k)⟩ = Bound.render (caseUpdateLayout name k fields records) := by
  have hwhen : ∀ a b : Value,
      Bound.render [.lit " WHEN ", .arg a, .lit " THEN ", .arg b, .lit " "] =
        (" WHEN ? THEN ? ", [a, b]) := fun _ _ => rfl
  simp only [caseUpdateLayout, CaseUpdate.render, Bound.render_append, Bound.render_intercalate,
    Bound.render_flatMap, hwhen, Bound.render_cons, Bound.render_nil, Bound.text, Bound.args,
    List.map_map, Function.comp_def, String.append_empty, List.nil_append, List.append_nil,
    String.append_assoc, List.flatMap_map, List.flatMap_cons, List.flatMap_nil, List.cons_append]
  rw [← List.map_eq_flatMap]

/-- The layout's text pieces are quiet when the table is one quoted name and no name holds a
backtick. -/
theorem quiet_caseUpdateLayout {name k : String} {fields : List String} (records : List Record)
    (hname : ∃ n : String, name = "`" ++ n ++ "`" ∧ backtick ∉ n.data) (hkey : backtick ∉ k.data)
    (hfields : ∀ f ∈ fields, backtick ∉ f.data) :
    ∀ s, Bound.lit s ∈ caseUpdateLayout name k fields records → Quiet s.data := by
  have plain : ∀ s : String, (∀ c ∈ s.data, c ≠ backtick ∧ c ≠ '?') → Quiet s.data :=
    fun s h => by simpa using Quiet.plain h Quiet.nil
  intro s hs
  simp only [caseUpdateLayout, List.mem_append, List.mem_singleton] at hs
  rcases hs with (((hs | hs) | hs) | hs) | hs
  · obtain ⟨n, rfl, hn⟩ := hname
    cases hs
    have hdata : ("UPDATE" ++ ("`" ++ n ++ "`") ++ " SET ").data =
        "UPDATE".data ++ backtick :: (n.data ++ backtick :: " SET ".data) := by
      simp [String.data_append, backtick]
    rw [hdata]
    exact Quiet.plain (by decide) (Quiet.quote hn (plain _ (by decide)))
  · rcases mem_intercalate_singleton hs with h | ⟨xs, hxs, h⟩
    · cases h; exact plain _ (by decide)
    · obtain ⟨f, hf, rfl⟩ := List.mem_map.mp hxs
      simp only [List.mem_append, List.mem_singleton, List.mem_flatMap, List.mem_cons,
        List.not_mem_nil, or_false] at h
      rcases h with (h | ⟨r, -, h | h | h | h | h⟩) | h <;> cases h
      · have hdata : ("`" ++ f ++ "` = CASE `" ++ k ++ "`").data =
            backtick :: (f.data ++ backtick :: (" = CASE ".data ++ backtick :: (k.data ++ [backtick]))) := by
          simp [String.data_append, backtick]
        rw [hdata]
        exact Quiet.quote (hfields f hf) (Quiet.plain (by decide) (Quiet.quote hkey Quiet.nil))
      all_goals exact plain _ (by decide)
  · cases hs
    have hdata : (" WHERE `" ++ k ++ "` IN (").data =
        " WHERE ".data ++ backtick :: (k.data ++ backtick :: " IN (".data) := by
      simp [String.data_append, backtick]
    rw [hdata]
    exact Quiet.plain (by decide) (Quiet.quote hkey (plain _ (by decide)))
  · rcases mem_intercalate_singleton hs with h | ⟨xs, hxs, h⟩
    · cases h; exact plain _ (by decide)
    · obtain ⟨r, -, rfl⟩ := List.mem_map.mp hxs
      cases List.mem_singleton.mp h
  · cases hs; exact plain _ (by decide)

/-- Every statement `updateBatch` builds for a slice is the slice's layout, whatever the names,
with `|records| · (2 · |fields| + 1)` arguments. When the table is one quoted name and neither
its name, the key field nor a field holds a backtick, each name stays inside its quotes, and the
`?` the server reads outside them are exactly the arguments. -/
theorem updateBatch_bindsRecordsInOrder {t : Table} {first : Record} {rest : List Record}
    {keyField : String} {u : Option CaseUpdate}
    (h : t.updateBatch (first :: rest) keyField = .ok u) :
    let fields := (first.map Prod.fst).filter (· ≠ keyField)
    ∃ stmt, u = some stmt ∧
      stmt.render = Bound.render (caseUpdateLayout t.tableName keyField fields (first :: rest)) ∧
      stmt.render.2.length = (rest.length + 1) * (2 * fields.length + 1) ∧
      ((∃ n : String, t.tableName = "`" ++ n ++ "`" ∧ backtick ∉ n.data) →
        backtick ∉ keyField.data → (∀ f ∈ fields, backtick ∉ f.data) →
        (outsideQuotes .outside stmt.render.1.data).map (·.count '?') =
          some stmt.render.2.length) := by
  intro fields
  obtain rfl := updateBatch_ok h
  have hr := render_caseUpdateLayout t.tableName keyField fields (first :: rest)
  refine ⟨_, rfl, hr, ?_, fun hname hkey hfields => ?_⟩
  · have hrec : ∀ f, (((first :: rest).map fun r =>
        (keyOf keyField r, (r.lookup f).getD .null)).flatMap fun w => [w.1, w.2]).length =
          (rest.length + 1) * 2 := fun f => by
      rw [List.flatMap_map]; apply length_flatMap_const; intro; rfl
    simp only [CaseUpdate.render]
    rw [List.length_append, List.flatMap_map, length_flatMap_const hrec, List.length_map,
      List.length_cons, Nat.mul_add, Nat.mul_one, Nat.mul_left_comm, Nat.mul_comm 2]
  · rw [hr]
    exact count_outsideQuotes_render (quiet_caseUpdateLayout _ hname hkey hfields)

/-- Two records on `users`: six placeholders outside the quoted names, six arguments. -/
theorem updateBatch_bindsRecordsInOrder_twoRecords :
    ∃ stmt, ((DB.mk "").m "users").updateBatch
        [[("id", .int 1), ("name", .str "a")], [("id", .int 2), ("name", .str "b")]] "id" =
        .ok (some stmt) ∧
      (outsideQuotes .outside stmt.render.1.data).map (·.count '?') = some 6 ∧
      stmt.render.2.length = 6 := by
  obtain ⟨stmt, hu, -, hl, hc⟩ := updateBatch_bindsRecordsInOrder
    (show ((DB.mk "").m "users").updateBatch
      [[("id", .int 1), ("name", .str "a")], [("id", .int 2), ("name", .str "b")]] "id" =
        .ok _ from rfl)
  exact ⟨stmt, hu ▸ rfl, (hc ⟨"users", rfl, by decide⟩ (by decide) (by decide)).trans
    (congrArg some hl), hl⟩

/-- A field whose name closes its backticks writes a placeholder, outside every quoted name,
that no argument binds: four `?` against three arguments. -/
theorem updateBatch_quoteBreakingField_miscounts :
    ∃ stmt, ((DB.mk "").m "t").updateBatch [[("id", .int 1), ("x` = ?, `y", .int 2)]] "id" =
        .ok (some stmt) ∧
      countPlaceholders stmt.render.1 = 4 ∧
      (outsideQuotes .outside stmt.render.1.toList).map (·.count '?') = some 4 ∧
      stmt.render.2.length = 3 :=
  ⟨_, rfl, by decide, by decide, rfl⟩

/-! ## One slice against the per-record updates -/

section Reading

variable {eq : Value → Value → Bool}

theorem caseValue_map {k : String} {x : Value} (g : Record → Value) :
    ∀ records : List Record, caseValue eq x (records.map fun r => (keyOf k r, g r)) =
      ((records.find? fun r => eq x (keyOf k r)).map g).getD .null
  | [] => rfl
  | r :: rs => by
    by_cases h : eq x (keyOf k r) = true
    · simp [caseValue, h]
    · simp [caseValue, h, caseValue_map g rs]

theorem lookup_map_pair {β : Type} (g : String → β) (col : String) :
    ∀ fields : List String,
      (fields.map fun f => (f, g f)).lookup col = if col ∈ fields then some (g col) else none
  | [] => rfl
  | f :: fs => by
    by_cases hc : col = f
    · subst hc; simp
    · rw [List.map_cons, List.lookup_cons, beq_false_of_ne hc]
      simp [lookup_map_pair g col fs, hc]

/-- A slice's statement on a row: the first record whose key the row's key equals gives every
field of the statement its value. -/
theorem execRow_slice (name k : String) (fields : List String) (records : List Record)
    (row : Row) :
    CaseUpdate.execRow eq ⟨name, k, fields.map fun f =>
        (f, records.map fun r => (keyOf k r, (r.lookup f).getD .null)),
      records.map (keyOf k)⟩ row =
      match records.find? fun r => eq (row k) (keyOf k r) with
      | some r => fun col => if col ∈ fields then (r.lookup col).getD .null else row col
      | none => row := by
  unfold CaseUpdate.execRow
  cases hf : records.find? fun r => eq (row k) (keyOf k r) with
  | none =>
    have hno := List.find?_eq_none.mp hf
    simp only [List.any_map, Function.comp_def]
    rw [if_neg]
    simpa [List.any_eq_true] using hno
  | some r =>
    have hany : (records.map (keyOf k)).any (eq (row k)) = true :=
      List.any_eq_true.mpr
        ⟨_, List.mem_map_of_mem _ (List.mem_of_find?_eq_some hf), (List.find?_some hf :)⟩
    simp only [hany, if_true]
    funext col
    by_cases hc : col ∈ fields <;> simp [hc, lookup_map_pair, caseValue_map, hf]

theorem recordUpdate_key (k : String) (r : Record) (row : Row) :
    recordUpdate eq k r row k = row k := by
  unfold recordUpdate
  split <;> simp

theorem foldl_recordUpdate_of_none {k : String} {row : Row} :
    ∀ {rs : List Record}, (∀ r ∈ rs, eq (row k) (keyOf k r) = false) →
      rs.foldl (fun row r => recordUpdate eq k r row) row = row
  | [], _ => rfl
  | r :: rs, h => by
    have hr : recordUpdate eq k r row = row := by simp [recordUpdate, h r (List.mem_cons_self _ _)]
    rw [List.foldl_cons, hr]
    exact foldl_recordUpdate_of_none fun r' hr' => h r' (List.mem_cons_of_mem _ hr')

/-- Per-record updates on a row, keys pairwise distinct: only the first record whose key the
row's key equals changes it. -/
theorem foldl_recordUpdate {k : String} :
    ∀ {records : List Record}, records.Pairwise (fun r r' => ∀ x, eq x (keyOf k r) = true → eq x (keyOf k r') = false) →
      ∀ row : Row, records.foldl (fun row r => recordUpdate eq k r row) row =
        match records.find? fun r => eq (row k) (keyOf k r) with
        | some r => recordUpdate eq k r row
        | none => row
  | [], _, _ => rfl
  | r :: rs, hd, row => by
    rw [List.pairwise_cons] at hd
    cases h : eq (row k) (keyOf k r) with
    | true =>
      simp only [List.foldl_cons, List.find?_cons, h]
      refine foldl_recordUpdate_of_none fun r' hr' => ?_
      rw [recordUpdate_key]
      exact hd.1 r' hr' _ h
    | false =>
      have hr : recordUpdate eq k r row = row := by simp [recordUpdate, h]
      simp only [List.foldl_cons, List.find?_cons, h, hr]
      exact foldl_recordUpdate hd.2 row

theorem specUpdate_eq_map (k : String) :
    ∀ (records : List Record) (rows : List Row),
      specUpdate eq k records rows = rows.map fun row => records.foldl (fun row r => recordUpdate eq k r row) row
  | [], rows => by simp [specUpdate]
  | r :: rs, rows => by
    simp only [specUpdate, List.foldl_cons] at *
    rw [← specUpdate, specUpdate_eq_map k rs, List.map_map]
    rfl

/-- The hypotheses the law needs of a list of records: no value that MySQL's `=` makes equal to
the keys of two records, and every record with the fields of every other. -/
structure DistinctUniform (eq : Value → Value → Bool) (keyField : String) (records : List Record) :
    Prop where
  distinct : records.Pairwise fun r r' =>
    ∀ x, eq x (keyOf keyField r) = true → eq x (keyOf keyField r') = false
  uniform : ∀ r ∈ records, ∀ r' ∈ records, r.map Prod.fst ⊆ r'.map Prod.fst

theorem DistinctUniform.sublist {k : String} {l l' : List Record} (h : DistinctUniform eq k l')
    (hs : l.Sublist l') : DistinctUniform eq k l :=
  ⟨h.distinct.sublist hs, fun r hr r' hr' => h.uniform r (hs.subset hr) r' (hs.subset hr')⟩

/-- One slice: its statement does what its per-record updates do. -/
theorem execAll_updateBatch {t : Table} {k : String} {batch : List Record}
    {u : Option CaseUpdate} (h : t.updateBatch batch k = .ok u) (hb : DistinctUniform eq k batch)
    (rows : List Row) : execAll eq u.toList rows = specUpdate eq k batch rows := by
  cases batch with
  | nil => cases h; rfl
  | cons first rest =>
    rw [updateBatch_ok h, specUpdate_eq_map]
    refine List.map_congr_left fun row _ => ?_
    rw [execRow_slice, foldl_recordUpdate hb.distinct]
    cases hf : (first :: rest).find? fun r => eq (row k) (keyOf k r) with
    | none => rfl
    | some r =>
      have hr : eq (row k) (keyOf k r) = true := (List.find?_some hf :)
      have hmem := List.mem_of_find?_eq_some hf
      funext col
      simp only [recordUpdate, hr, if_true, List.mem_filter, decide_eq_true_eq]
      by_cases hc : col = k
      · simp [hc]
      · have hiff : col ∈ first.map Prod.fst ↔ col ∈ r.map Prod.fst :=
          ⟨fun h => hb.uniform _ (List.mem_cons_self _ _) _ hmem h,
           fun h => hb.uniform _ hmem _ (List.mem_cons_self _ _) h⟩
        cases hl : r.lookup col with
        | none => simp [hc, hiff, lookup_eq_none_iff_not_mem.mp hl]
        | some v =>
          have : col ∈ r.map Prod.fst := by
            by_contra hn
            simp [lookup_eq_none_iff_not_mem.mpr hn] at hl
          simp [hc, hiff, this]

theorem execAll_append (a b : List CaseUpdate) (rows : List Row) :
    execAll eq (a ++ b) rows = execAll eq b (execAll eq a rows) :=
  List.foldl_append _ _ _ _

theorem specUpdate_append (k : String) (a b : List Record) (rows : List Row) :
    specUpdate eq k (a ++ b) rows = specUpdate eq k b (specUpdate eq k a rows) :=
  List.foldl_append _ _ _ _

/-- The loop over the slices does what the per-record updates of all of them do. -/
theorem execAll_updateBatches {t : Table} {k : String} :
    ∀ {bs : List (List Record)} {stmts : List CaseUpdate}, t.updateBatches k bs = .ok stmts →
      DistinctUniform eq k bs.flatten → ∀ rows, execAll eq stmts rows = specUpdate eq k bs.flatten rows
  | [], _, h, _, rows => by cases h; rfl
  | b :: bs, stmts, h, hd, rows => by
    unfold Table.updateBatches at h
    split at h
    · cases h
    · next u hu =>
      obtain ⟨rest, hr, rfl⟩ := except_map_eq_ok h
      rw [List.flatten_cons] at hd ⊢
      rw [execAll_append, specUpdate_append,
        execAll_updateBatch hu (hd.sublist (List.sublist_append_left _ _)),
        execAll_updateBatches hr (hd.sublist (List.sublist_append_right _ _))]

end Reading

theorem flatten_batches {α : Type} {size : Nat} (hs : 1 ≤ size) :
    ∀ (n : Nat) (l : List α), l.length ≤ n → (batches size n l).flatten = l
  | 0, [], _ => rfl
  | 0, _ :: _, h => absurd h (by simp)
  | _ + 1, [], _ => rfl
  | n + 1, a :: l, h => by
    rw [batches, List.flatten_cons, flatten_batches hs n _ (by simp at h ⊢; omega),
      List.take_append_drop]

/-- Every slice of a positive size holds between one and `size` records. -/
theorem length_mem_batches {α : Type} {size : Nat} (hs : 1 ≤ size) :
    ∀ (n : Nat) (l : List α), ∀ b ∈ batches size n l, 1 ≤ b.length ∧ b.length ≤ size
  | 0, _, b, hb => by simp [batches] at hb
  | _ + 1, [], b, hb => by simp [batches] at hb
  | n + 1, a :: l, b, hb => by
    rw [batches, List.mem_cons] at hb
    rcases hb with rfl | hb
    · simp only [List.length_take, List.length_cons]
      omega
    · exact length_mem_batches hs n _ b hb

/-- A `BatchUpdate` without error: no records, or the loop over slices of a positive size. -/
theorem batchUpdate_ok {t : Table} {records : List Record} {keyField : String} {batchSize : Int}
    {stmts : List CaseUpdate} (h : t.batchUpdate records keyField batchSize = some (.ok stmts)) :
    (records = [] ∧ stmts = []) ∨
      ∃ size, 1 ≤ size ∧ t.updateBatches keyField (batches size records.length records) = .ok stmts := by
  unfold Table.batchUpdate at h
  by_cases hnil : records.isEmpty
  · rw [if_pos hnil] at h
    cases h
    exact .inl ⟨List.isEmpty_iff.mp hnil, rfl⟩
  · rw [if_neg hnil] at h
    by_cases hk : keyField = ""
    · rw [if_pos hk] at h; cases h
    · rw [if_neg hk] at h
      have hsz : (if batchSize = 0 then defaultBatchSize else batchSize) ≠ 0 := by
        split <;> simp only [defaultBatchSize] at * <;> omega
      generalize (if batchSize = 0 then defaultBatchSize else batchSize) = size at h hsz
      by_cases hneg : size < 0
      · rw [if_pos hneg] at h; cases h
      · rw [if_neg hneg] at h
        exact .inr ⟨_, by omega, Option.some.inj h⟩

section Transaction

variable (driver : Driver) (traceID : String)

/-- The slice loop on the transaction: each slice's statement executed, until the first error,
`updateBatch`'s own or the driver's (wrapped as `执行SQL失败: …`). The rows affected are summed in
`int64`. -/
def Table.updateChunks (t : Table) (keyField : String) :
    List (List Record) → BitVec 64 → List TxEvent → List TxEvent × BitVec 64 × Option String
  | [], total, log => (log, total, none)
  | batch :: rest, total, log =>
    match t.updateBatch batch keyField with
    | .error e => (log, total, some e)
    | .ok none => t.updateChunks keyField rest total log
    | .ok (some u) =>
      match callDriver driver log (.exec u.render.1 u.render.2) with
      | (log, .error e) => (log, total, some ("执行SQL失败: " ++ e))
      | (log, .ok affected) => t.updateChunks keyField rest (total + affected) log

/-- `BatchUpdate` with its transaction: nothing for no records, an error for no key field, then
`Begin`; a negative `batchSize` panics at `records[0:batchSize]`; otherwise the slice loop, then
`Commit`. The deferred closure rolls back after an error or a panic. -/
def Table.batchUpdateTx (t : Table) (records : List Record) (keyField : String) (batchSize : Int) :
    List TxEvent × Ending (BitVec 64) :=
  let batchSize := if batchSize = 0 then defaultBatchSize else batchSize
  if records.isEmpty then ([], .returned 0 none)
  else if keyField = "" then ([], .returned 0 (some "必须指定主键字段"))
  else
    let begin := DB.begin driver traceID []
    match begin.2 with
    | some e => (begin.1, .returned 0 (some ("开启事务失败: " ++ e)))
    | none =>
      let body : List TxEvent × Ending (BitVec 64) :=
        if batchSize < 0 then (begin.1, .panicked)
        else
          let loop := t.updateChunks driver keyField (batches batchSize.toNat records.length records) 0
            begin.1
          match loop.2.2 with
          | some e => (loop.1, .returned loop.2.1 (some e))
          | none =>
            let commit := Transaction.commit driver traceID loop.1
            (commit.1, .returned loop.2.1 (commit.2.map ("提交事务失败: " ++ ·)))
      (rollbackOnFailure driver traceID body.1 body.2, body.2)

end Transaction

/-- The slice loop adds statements only, and all of them succeeded when it ends without error. -/
theorem updateChunks_log (driver : Driver) (t : Table) (keyField : String) :
    ∀ (bs : List (List Record)) (total : BitVec 64) (log : List TxEvent),
      ∃ events, (t.updateChunks driver keyField bs total log).1 = log ++ events ∧ NoCommit events ∧
        ((t.updateChunks driver keyField bs total log).2.2 = none → ∀ x ∈ events, x.ok)
  | [], _, log => ⟨[], by simp [Table.updateChunks, NoCommit]⟩
  | batch :: rest, total, log => by
    unfold Table.updateChunks
    split
    · exact ⟨[], by simp [NoCommit]⟩
    · exact updateChunks_log driver t keyField rest total log
    · next u _ =>
      cases h : driver log (.exec u.render.1 u.render.2) with
      | error e => exact ⟨[.call (.exec u.render.1 u.render.2) (.error e)], by simp [callDriver, h, NoCommit]⟩
      | ok n =>
        simp only [callDriver, h]
        obtain ⟨events, he, hc, hok⟩ := updateChunks_log driver t keyField rest (total + n)
          (log ++ [.call (.exec u.render.1 u.render.2) (.ok n)])
        refine ⟨.call (.exec u.render.1 u.render.2) (.ok n) :: events, by simp [he], ?_, ?_⟩
        · simpa [NoCommit] using hc
        · intro hnone x hx
          rcases List.mem_cons.mp hx with rfl | hx
          · rfl
          · exact hok hnone x hx

/-- `BatchUpdate` keeps the transaction discipline, whatever the driver answers. -/
theorem batchUpdateTx_atomic (driver : Driver) (traceID : String) (t : Table)
    (records : List Record) (keyField : String) (batchSize : Int) :
    Atomic (t.batchUpdateTx driver traceID records keyField batchSize).1
      (t.batchUpdateTx driver traceID records keyField batchSize).2.failed := by
  unfold Table.batchUpdateTx
  dsimp only
  generalize (if batchSize = 0 then defaultBatchSize else batchSize) = size
  split
  · exact ⟨commitsAfterSuccess_of_noCommit (by simp [NoCommit]), fun _ ⟨_, hn⟩ => by simp at hn⟩
  split
  · exact ⟨commitsAfterSuccess_of_noCommit (by simp [NoCommit]), fun _ ⟨_, hn⟩ => by simp at hn⟩
  cases hb : driver [] .begin with
  | error e =>
    simp only [DB.begin, wrapCall, hb, Answer.err, Option.map_some', List.nil_append]
    exact atomic_beginFailed _
  | ok n =>
    simp only [DB.begin, wrapCall, hb, Answer.err, Option.map_none', List.nil_append]
    apply atomic_rollbackOnFailure
    split
    · exact commitsAfterSuccess_begin_append (by simp [NoCommit] : NoCommit [])
    · obtain ⟨events, he, hc, hok⟩ := updateChunks_log driver t keyField
        (batches _ records.length records) 0 [.call .begin (.ok n)]
      split
      · rw [he]; exact commitsAfterSuccess_begin_append hc
      · next hnone =>
        simp only [Transaction.commit, wrapCall, he]
        exact commitsAfterSuccess_begin_commit hc (hok hnone) _

/-- With a driver that answers every call, the slice loop executes the statements of
`Table.updateBatches`, or stops with its error. -/
theorem updateChunks_allOk {driver : Driver} (hd : driver.AllOk) (t : Table) (keyField : String) :
    ∀ (bs : List (List Record)) (total : BitVec 64) (log : List TxEvent),
      match t.updateBatches keyField bs with
      | .ok stmts => (t.updateChunks driver keyField bs total log).2.2 = none ∧
          (t.updateChunks driver keyField bs total log).1.filterMap TxEvent.callOf =
            log.filterMap TxEvent.callOf ++ stmts.map fun u => .exec u.render.1 u.render.2
      | .error e => (t.updateChunks driver keyField bs total log).2.2 = some e
  | [], _, _ => by simp [Table.updateBatches, Table.updateChunks]
  | b :: bs, total, log => by
    unfold Table.updateBatches Table.updateChunks
    cases hb : t.updateBatch b keyField with
    | error e => rfl
    | ok u =>
      cases u with
      | none =>
        have ih := updateChunks_allOk hd t keyField bs total log
        cases hr : t.updateBatches keyField bs <;> simp_all [Except.map]
      | some u =>
        obtain ⟨n, hn⟩ := hd.eq_ok log (.exec u.render.1 u.render.2)
        have ih := updateChunks_allOk hd t keyField bs (total + n)
          (log ++ [.call (.exec u.render.1 u.render.2) (.ok n)])
        simp only [callDriver, hn]
        cases hr : t.updateBatches keyField bs <;> simp_all [Except.map, TxEvent.callOf]

/-- With a driver that answers every call, `BatchUpdate`'s transaction executes the statements of
`Table.batchUpdate` between `Begin` and `Commit`, and returns no error. -/
theorem batchUpdateTx_allOk {driver : Driver} (hd : driver.AllOk) (traceID : String) (t : Table)
    {records : List Record} {keyField : String} {batchSize : Int} {stmts : List CaseUpdate}
    (hne : records ≠ []) (h : t.batchUpdate records keyField batchSize = some (.ok stmts)) :
    (t.batchUpdateTx driver traceID records keyField batchSize).1.filterMap TxEvent.callOf =
        .begin :: stmts.map (fun u => .exec u.render.1 u.render.2) ++ [.commit] ∧
      ∃ total, (t.batchUpdateTx driver traceID records keyField batchSize).2 = .returned total none := by
  have hempty : records.isEmpty = false := by simpa using hne
  unfold Table.batchUpdate at h
  unfold Table.batchUpdateTx
  dsimp only at h ⊢
  generalize (if batchSize = 0 then defaultBatchSize else batchSize) = size at h ⊢
  rw [hempty] at h ⊢
  by_cases hk : keyField = ""
  · simp [hk] at h
  by_cases hs : size < 0
  · simp [hk, hs] at h
  simp only [hk, hs, if_false, Option.some.injEq, Bool.false_eq_true] at h ⊢
  obtain ⟨n, hn⟩ := hd.eq_ok [] .begin
  have hloop := updateChunks_allOk hd t keyField (batches size.toNat records.length records) 0
    [.call .begin (.ok n)]
  rw [h] at hloop
  obtain ⟨hnone, hcalls⟩ := hloop
  obtain ⟨m, hm⟩ := hd.eq_ok (t.updateChunks driver keyField
    (batches size.toNat records.length records) 0 [.call .begin (.ok n)]).1 .commit
  simp only [DB.begin, wrapCall, hn, Answer.err, Option.map_none', List.nil_append, hnone,
    Transaction.commit, hm, rollbackOnFailure, Ending.failed, Option.isSome_none, if_false,
    Bool.false_eq_true]
  refine ⟨?_, _, rfl⟩
  simpa [TxEvent.callOf] using congrArg (· ++ [TxCall.commit]) hcalls

/-- Two records in slices of one, every call answered: `Begin`, one `Exec` per slice, `Commit`. -/
theorem batchUpdateTx_allOk_twoSlices :
    ∃ stmts, (DB.table ⟨""⟩ "users").batchUpdate
        [[("id", .int 1), ("name", .str "a")], [("id", .int 2), ("name", .str "b")]] "id" 1 =
        some (.ok stmts) ∧
      ((DB.table ⟨""⟩ "users").batchUpdateTx (fun _ _ => .ok 1) "t"
          [[("id", .int 1), ("name", .str "a")], [("id", .int 2), ("name", .str "b")]] "id"
          1).1.filterMap TxEvent.callOf =
        .begin :: stmts.map (fun u => .exec u.render.1 u.render.2) ++ [.commit] ∧
      ∃ total, ((DB.table ⟨""⟩ "users").batchUpdateTx (fun _ _ => .ok 1) "t"
          [[("id", .int 1), ("name", .str "a")], [("id", .int 2), ("name", .str "b")]] "id"
          1).2 = .returned total none :=
  ⟨_, rfl, @batchUpdateTx_allOk (fun _ _ => .ok 1) (fun _ _ => rfl) "t" _ _ _ _ _ (by simp) rfl⟩

end Xlorm
