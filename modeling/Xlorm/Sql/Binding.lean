import Xlorm.Sql.Chain

/-!
# Which argument each `?` binds (`buildQuery`)

The driver binds a statement's arguments to its `?` placeholders from left to right. The
arguments of the `SELECT`, `COUNT` or `DELETE` that `buildQuery` writes after a chain of builder
calls are those of the accepted condition calls, in call order. The `?` come from the
conditions, which `Where`, `OrWhere` and `NotWhere` accept only with as many `?` as arguments,
and from nothing else as long as the table name, the joins, the grouping and the `HAVING` hold
none: the code's own text has no `?`, a field is an ASCII name, an order passes
`isValidSafeOrderBy` and the limit and offset are digits.

`Text.markOwners` says, for each `?` of a statement in order, which of its condition pieces holds
it; `argOwners` says, for each argument in order, which accepted call supplied it. `Table.Unmarked`
is the invariant of the chain: no text the table holds outside its conditions has a `?`.

**The law** (`buildQuery_bindsConditionArgs`): the two lists are equal, and the `k`-th condition
piece of the statement is the condition of the `k`-th accepted call; so the statement has
exactly as many `?` as arguments, and the `i`-th `?` lies in the condition that supplied the
`i`-th argument.
-/

namespace Xlorm

/-! ## Placeholders and their owners -/

/-- For each `?` of a text, in order: the index, counted from `k`, of the condition piece that
holds it among the text's condition pieces; `none` for a `?` of the code's own text or a name. -/
def Text.markOwners : Nat → Text → List (Option Nat)
  | _, [] => []
  | k, .sql s :: w => List.replicate (countPlaceholders s) none ++ Text.markOwners k w
  | k, .cond c :: w => List.replicate (countPlaceholders c) (some k) ++ Text.markOwners (k + 1) w

/-- The condition pieces of a text, in order. -/
def Text.conds : Text → List String
  | [] => []
  | .sql _ :: w => Text.conds w
  | .cond c :: w => c :: Text.conds w

/-- For each argument of a list of calls, in order: the index, counted from `k`, of the call that
supplied it. -/
def argOwners : Nat → List CondCall → List (Option Nat)
  | _, [] => []
  | k, c :: cs => List.replicate c.args.length (some k) ++ argOwners (k + 1) cs

/-- A piece of the code's own text, or a name, with no `?`. -/
def Piece.Unmarked : Piece → Prop
  | .sql s => countPlaceholders s = 0
  | .cond _ => False

instance (p : Piece) : Decidable p.Unmarked :=
  match p with
  | .sql s => inferInstanceAs (Decidable (countPlaceholders s = 0))
  | .cond _ => isFalse id

@[simp] theorem Piece.unmarked_sql (s : String) : (Piece.sql s).Unmarked ↔ countPlaceholders s = 0 :=
  Iff.rfl

@[simp] theorem Piece.unmarked_cond (c : String) : (Piece.cond c).Unmarked ↔ False := Iff.rfl

/-- A text of the code's own words and names, with no `?` and no condition. -/
def Text.Unmarked (w : Text) : Prop := ∀ p ∈ w, p.Unmarked

instance (w : Text) : Decidable w.Unmarked := inferInstanceAs (Decidable (∀ p ∈ w, p.Unmarked))

@[simp] theorem Text.unmarked_nil : Text.Unmarked [] ↔ True := by simp [Text.Unmarked]

@[simp] theorem Text.unmarked_cons (p : Piece) (w : Text) :
    Text.Unmarked (p :: w) ↔ p.Unmarked ∧ Text.Unmarked w := List.forall_mem_cons

@[simp] theorem Text.unmarked_append (a b : Text) :
    Text.Unmarked (a ++ b) ↔ Text.Unmarked a ∧ Text.Unmarked b := List.forall_mem_append

@[simp] theorem Text.unmarked_ite (c : Prop) [Decidable c] (a b : Text) :
    Text.Unmarked (if c then a else b) ↔ (c → Text.Unmarked a) ∧ (¬c → Text.Unmarked b) := by
  split_ifs with h <;> simp [h]

@[simp] theorem Text.unmarked_flatMap (l : List String) (f : String → Text) :
    Text.Unmarked (l.flatMap f) ↔ ∀ x ∈ l, Text.Unmarked (f x) := by
  simp only [Text.Unmarked, List.mem_flatMap]
  exact ⟨fun h x hx p hp => h p ⟨x, hx, hp⟩, fun h p ⟨x, hx, hp⟩ => h x hx p hp⟩

@[simp] theorem Text.conds_append (a b : Text) : (a ++ b).conds = a.conds ++ b.conds := by
  induction a with
  | nil => rfl
  | cons p a ih => cases p <;> simp [Text.conds, ih]

theorem Text.markOwners_append (k : Nat) (a b : Text) :
    (a ++ b).markOwners k = a.markOwners k ++ b.markOwners (k + a.conds.length) := by
  induction a generalizing k with
  | nil => simp [Text.markOwners, Text.conds]
  | cons p a ih =>
    cases p with
    | sql s => simp [Text.markOwners, Text.conds, ih]
    | cond c => simp [Text.markOwners, Text.conds, ih, Nat.add_assoc, Nat.add_comm 1]

/-- A text all of whose pieces are unmarked has no `?` and no condition. -/
theorem Text.markOwners_unmarked {w : Text} (h : w.Unmarked) (k : Nat) :
    w.markOwners k = [] ∧ w.conds = [] := by
  induction w with
  | nil => exact ⟨rfl, rfl⟩
  | cons p w ih =>
    obtain ⟨hp, hw⟩ := List.forall_mem_cons.mp h
    cases p with
    | sql s => simp_all [Text.markOwners, Text.conds]
    | cond c => exact hp.elim

/-- An unmarked text before another adds no `?` and no condition. -/
theorem Text.markOwners_unmarked_append {a : Text} (ha : a.Unmarked) (w : Text) (k : Nat) :
    (a ++ w).markOwners k = w.markOwners k ∧ (a ++ w).conds = w.conds := by
  obtain ⟨h1, h2⟩ := Text.markOwners_unmarked ha k
  simp [Text.markOwners_append, h1, h2]

/-- Nor does one after it. -/
theorem Text.markOwners_append_unmarked {b : Text} (hb : b.Unmarked) (w : Text) (k : Nat) :
    (w ++ b).markOwners k = w.markOwners k ∧ (w ++ b).conds = w.conds := by
  obtain ⟨h1, h2⟩ := Text.markOwners_unmarked hb (k + w.conds.length)
  simp [Text.markOwners_append, h1, h2]

/-- Every `?` of a text is counted once. -/
theorem Text.length_markOwners (k : Nat) (w : Text) :
    (w.markOwners k).length = countPlaceholders w.render := by
  induction w generalizing k with
  | nil => rfl
  | cons p w ih =>
    cases p <;> simp [Text.markOwners, Text.render, Piece.render, countPlaceholders_append, ih]

theorem length_argOwners (k : Nat) (cs : List CondCall) :
    (argOwners k cs).length = (cs.flatMap CondCall.args).length := by
  induction cs generalizing k with
  | nil => rfl
  | cons c cs ih => simp [argOwners, ih]

/-! ## The clause of the accepted conditions -/

namespace CondCall

/-- An accepted call's condition holds one `?` per argument. -/
theorem countPlaceholders_condition {c : CondCall} (h : c.accepted = true) :
    countPlaceholders c.condition = c.args.length := by
  simp only [accepted, Bool.and_eq_true, Option.isNone_iff_eq_none, Table.conditionRejection] at h
  split_ifs at h with h1 <;> simp_all

/-- The text of an accepted call puts its arguments' `?` in its one condition piece. -/
theorem markOwners_text {c : CondCall} (h : c.accepted = true) (k : Nat) :
    c.text.markOwners k = List.replicate c.args.length (some k) ∧ c.text.conds = [c.condition] := by
  have hnot : countPlaceholders "NOT (" = 0 ∧ countPlaceholders ")" = 0 := by decide
  rw [← countPlaceholders_condition h]
  obtain ⟨kind, condition, args⟩ := c
  cases kind <;> simp [text, Text.markOwners, Text.conds, hnot]

end CondCall

/-- Accepted conditions joined by an unmarked separator: their `?`, owned call by call. -/
theorem markOwners_intercalate {sep : Piece} (hsep : sep.Unmarked) :
    ∀ (cs : List CondCall), (∀ c ∈ cs, c.accepted = true) → ∀ k,
      Text.markOwners k (List.intercalate [sep] (cs.map CondCall.text)) = argOwners k cs ∧
      Text.conds (List.intercalate [sep] (cs.map CondCall.text)) = cs.map CondCall.condition
  | [], _, _ => ⟨rfl, rfl⟩
  | [c], h, k => by
    obtain ⟨h1, h2⟩ := CondCall.markOwners_text (h c (List.mem_singleton_self c)) k
    simp [List.intercalate, h1, h2, argOwners]
  | c :: d :: cs, h, k => by
    obtain ⟨h1, h2⟩ := CondCall.markOwners_text (h c (List.mem_cons_self _ _)) k
    have hs : Text.Unmarked [sep] := by simpa using hsep
    have hs1 : ∀ j, Text.markOwners j [sep] = [] := fun j => (Text.markOwners_unmarked hs j).1
    obtain ⟨i1, i2⟩ := markOwners_intercalate hsep (d :: cs)
      (fun e he => h e (List.mem_cons_of_mem _ he)) (k + 1)
    rw [List.map_cons, List.map_cons, intercalate_cons_cons, ← List.singleton_append,
      ← List.map_cons]
    simp only [Text.markOwners_append, Text.conds_append, h1, h2, hs1, (Text.markOwners_unmarked hs 0).2,
      List.length_singleton, List.length_nil, Nat.add_zero, i1, i2, List.nil_append]
    exact ⟨rfl, rfl⟩

namespace Table

/-- The clause `GetWhere` writes: ` WHERE `, the conditions joined by a separator, and unmarked
text around them. -/
theorem getWhere_text (t : Table) (hne : t.«where».isEmpty = false) :
    ∃ sep a b, sep.Unmarked ∧ Text.Unmarked a ∧ Text.Unmarked b ∧
      (t.getWhere true).2.1 = .sql " WHERE " :: (a ++ List.intercalate [sep] t.«where» ++ b) ∧
      (t.getWhere true).2.2 = t.args := by
  unfold getWhere
  rw [if_neg (by simp [hne]), if_pos (rfl : true = true)]
  split_ifs
  · exact ⟨.sql " OR ", [.sql "("], [.sql ")"], by decide, by decide, by decide, rfl, rfl⟩
  · exact ⟨.sql " AND ", [.sql "("], [.sql ")"], by decide, by decide, by decide, rfl, rfl⟩
  · exact ⟨.sql " AND ", [], [], by decide, nofun, nofun, by simp, rfl⟩

/-- `GetWhere` writes the accepted conditions' `?` and nothing else, after a ` WHERE `. -/
theorem getWhere_markOwners (t : Table) (cs : List CondCall) (hacc : ∀ c ∈ cs, c.accepted = true)
    (hw : t.«where» = cs.map CondCall.text) (hne : t.«where».isEmpty = false) :
    ((t.getWhere true).2.1).markOwners 0 = argOwners 0 cs ∧
      ((t.getWhere true).2.1).conds = cs.map CondCall.condition ∧
      (t.getWhere true).2.2 = t.args ∧ (t.getWhere true).2.1.render ≠ "" := by
  obtain ⟨sep, a, b, hsep, ha, hb, htext, hargs⟩ := getWhere_text t hne
  obtain ⟨i1, i2⟩ := markOwners_intercalate hsep cs hacc 0
  have hwhere : Text.Unmarked (.sql " WHERE " :: a) := (Text.unmarked_cons _ _).mpr ⟨by decide, ha⟩
  obtain ⟨f1, f2⟩ := Text.markOwners_unmarked_append hwhere (List.intercalate [sep] t.«where» ++ b) 0
  obtain ⟨g1, g2⟩ := Text.markOwners_append_unmarked hb (List.intercalate [sep] t.«where») 0
  rw [htext, hargs, List.append_assoc, ← List.cons_append, f1, f2, g1, g2, hw, i1, i2]
  exact ⟨rfl, rfl, rfl, Text.render_sql_cons_ne_empty (by decide) _⟩

end Table

/-! ## Names without a `?` -/

theorem countPlaceholders_of_valid {field : String} (h : isValidFieldName field = true) :
    countPlaceholders field = 0 := by
  simp only [isValidFieldName, Bool.and_eq_true, List.all_eq_true] at h
  exact List.count_eq_zero.mpr fun hq => absurd (h.2 '?' hq) (by decide)

theorem countPlaceholders_of_validOrderBy {isLetter isDigit : Char → Bool}
    (hl : isLetter '?' = false) (hd : isDigit '?' = false) {order : String}
    (h : isValidSafeOrderBy isLetter isDigit order = true) : countPlaceholders order = 0 := by
  refine List.count_eq_zero.mpr fun hq => ?_
  have := List.all_eq_true.mp h '?' hq
  simp +decide [hl, hd] at this

/-- `strconv.FormatInt` writes a sign and digits only. -/
theorem countPlaceholders_formatInt (x : BitVec 64) : countPlaceholders (Table.formatInt x) = 0 := by
  have hnat : ∀ n : Nat, countPlaceholders n.repr = 0 := fun n =>
    List.count_eq_zero.mpr fun hq =>
      absurd (isDigit_toDigitsCore (n + 1) n [] (by simp) '?' hq) (by decide)
  unfold Table.formatInt
  generalize x.toInt = i
  cases i with
  | ofNat n => exact hnat n
  | negSucc n => simpa [Int.repr, countPlaceholders_append] using hnat (n + 1)

theorem countPlaceholders_intercalate (sep : String) (fields : List String)
    (hsep : countPlaceholders sep = 0) (hf : ∀ f ∈ fields, countPlaceholders f = 0) :
    countPlaceholders (String.intercalate sep fields) = 0 := by
  rcases fields with _ | ⟨f, fs⟩
  · rfl
  · have key : ∀ (acc : String) (fs : List String), countPlaceholders acc = 0 →
        (∀ f ∈ fs, countPlaceholders f = 0) →
        countPlaceholders (String.intercalate.go acc sep fs) = 0 := by
      intro acc fs hacc hfs
      induction fs generalizing acc with
      | nil => exact hacc
      | cons g gs ih =>
        exact ih _ (by simp [countPlaceholders_append, hacc, hsep, hfs g (by simp)])
          fun f hf => hfs f (by simp [hf])
    exact key f fs (hf f (by simp)) fun g hg => hf g (by simp [hg])

/-! ## The invariant of a chain -/

namespace TableCall

/-- The conditions a chained call adds: its own, if it is an accepted condition call. -/
def acceptedConds : TableCall → List CondCall
  | .cond c => if c.accepted then [c] else []
  | _ => []

/-- A call whose join, grouping or `HAVING` holds no `?`. -/
def Unmarked : TableCall → Prop
  | .join j => countPlaceholders j = 0
  | .groupBy g => countPlaceholders g = 0
  | .having h => countPlaceholders h = 0
  | _ => True

theorem accepted_of_mem_acceptedConds {call : TableCall} {c : CondCall}
    (h : c ∈ call.acceptedConds) : c.accepted = true := by
  cases call with
  | cond d =>
    simp only [acceptedConds] at h
    split at h
    · next hd => rw [List.mem_singleton.mp h]; exact hd
    · cases h
  | _ => cases h

end TableCall

/-- Every text a table holds for its statements, the conditions apart, is free of `?`. -/
structure Table.Unmarked (t : Table) : Prop where
  tableName : countPlaceholders t.tableName = 0
  fields : ∀ f ∈ t.fields, countPlaceholders f = 0
  joins : ∀ j ∈ t.joins, countPlaceholders j = 0
  groupBy : countPlaceholders t.groupBy = 0
  having : countPlaceholders t.having = 0
  orderBy : countPlaceholders t.orderBy = 0

namespace Table

variable {t : Table}

/-- A table that holds the same texts as an unmarked one is unmarked. -/
theorem Unmarked.frame {t' : Table} (h : t.Unmarked) (h1 : t'.tableName = t.tableName)
    (h2 : t'.fields = t.fields) (h3 : t'.joins = t.joins) (h4 : t'.groupBy = t.groupBy)
    (h5 : t'.having = t.having) (h6 : t'.orderBy = t.orderBy) : t'.Unmarked :=
  ⟨h1 ▸ h.tableName, h2 ▸ h.fields, h3 ▸ h.joins, h4 ▸ h.groupBy, h5 ▸ h.having, h6 ▸ h.orderBy⟩

theorem Fields_conds (t : Table) (fields : List String) :
    (t.Fields fields).«where» = t.«where» ∧ (t.Fields fields).args = t.args := by
  induction fields generalizing t with
  | nil => exact ⟨rfl, rfl⟩
  | cons f fs ih =>
    unfold Table.Fields
    split
    · exact ih t
    · split
      · exact ⟨rfl, rfl⟩
      · exact ih _

theorem Unmarked.Fields (h : t.Unmarked) (fields : List String) : (t.Fields fields).Unmarked := by
  induction fields generalizing t with
  | nil => exact h
  | cons f fs ih =>
    unfold Table.Fields
    split
    · exact ih h
    · split
      · exact h
      · next hf =>
        refine ih ⟨h.tableName, fun g hg => ?_, h.joins, h.groupBy, h.having, h.orderBy⟩
        rcases List.mem_append.mp hg with hg | hg
        · exact h.fields g hg
        · rw [List.mem_singleton.mp hg]
          exact countPlaceholders_of_valid (by simpa using hf)

theorem setChecked_conds (t : Table) (s : String) (store : Table → String → Table)
    (hstore : (store t s).«where» = t.«where» ∧ (store t s).args = t.args) :
    (t.setChecked s store).«where» = t.«where» ∧ (t.setChecked s store).args = t.args := by
  unfold setChecked
  split
  · exact ⟨rfl, rfl⟩
  · split
    · exact ⟨rfl, rfl⟩
    · exact hstore

theorem Unmarked.setChecked (h : t.Unmarked) (s : String) (store : Table → String → Table)
    (hstore : (store t s).Unmarked) : (t.setChecked s store).Unmarked := by
  unfold Table.setChecked
  split
  · exact h
  · split
    · exact h
    · exact hstore

section Unicode

variable (isLetter isDigit : Char → Bool)

/-- One call: an accepted condition appends its text and its arguments; every other call leaves
the conditions and their arguments as they were. -/
theorem call_conds (t : Table) : ∀ c : TableCall,
    (t.call isLetter isDigit c).«where» = t.«where» ++ c.acceptedConds.map CondCall.text ∧
    (t.call isLetter isDigit c).args = t.args ++ c.acceptedConds.flatMap CondCall.args
  | .cond c => by
    obtain ⟨hw, ha, -⟩ := applyCond_spec t c
    simp only [Table.call, TableCall.acceptedConds, hw, ha]
    split <;> simp
  | .orderBy order => by
    simp only [Table.call, TableCall.acceptedConds, List.map_nil, List.flatMap_nil, List.append_nil]
    unfold Table.OrderBy
    split
    · exact ⟨rfl, rfl⟩
    · split <;> exact ⟨rfl, rfl⟩
  | .limit _ | .offset _ => by
    simp only [Table.call, TableCall.acceptedConds, List.map_nil, List.flatMap_nil, List.append_nil,
      Table.Limit, Table.Offset]
    split <;> exact ⟨rfl, rfl⟩
  | .page _ _ => by simp [Table.call, TableCall.acceptedConds, Table.Page]
  | .fields fields => by simpa [Table.call, TableCall.acceptedConds] using t.Fields_conds fields
  | .join s | .groupBy s | .having s => by
    simpa [Table.call, TableCall.acceptedConds, Table.Join, Table.GroupBy, Table.Having] using
      t.setChecked_conds s _ ⟨rfl, rfl⟩
  | .hasTotal _ => by simp [Table.call, TableCall.acceptedConds, Table.HasTotal]

variable {isLetter isDigit}

/-- One call keeps a table unmarked, when `?` is no letter and no digit and the call's join,
grouping or `HAVING` has none. -/
theorem Unmarked.call (hl : isLetter '?' = false) (hd : isDigit '?' = false) (h : t.Unmarked) :
    ∀ c : TableCall, c.Unmarked → (t.call isLetter isDigit c).Unmarked
  | .cond c, _ => by
    obtain ⟨h1, h2, h3, h4, h5, h6⟩ := t.applyCond_frame c
    exact h.frame h1 h2 h3 h4 h5 h6
  | .orderBy order, _ => by
    show (t.OrderBy isLetter isDigit order).Unmarked
    unfold Table.OrderBy
    split
    · exact h
    · split
      · exact h
      · next hr =>
        unfold orderByRejection at hr
        split at hr
        · cases hr
        · next hv =>
          exact ⟨h.tableName, h.fields, h.joins, h.groupBy, h.having,
            countPlaceholders_of_validOrderBy hl hd (by simpa using hv)⟩
  | .limit _, _ | .offset _, _ => by
    simp only [Table.call, Table.Limit, Table.Offset]
    split <;> exact h.frame rfl rfl rfl rfl rfl rfl
  | .page _ _, _ => h.frame rfl rfl rfl rfl rfl rfl
  | .fields fields, _ => h.Fields fields
  | .join j, (hj : countPlaceholders j = 0) =>
    h.setChecked j (fun t join => { t with joins := t.joins ++ [join] })
    ⟨h.tableName, h.fields, fun k hk => (List.mem_append.mp hk).elim (h.joins k)
      fun hk => (List.mem_singleton.mp hk) ▸ hj, h.groupBy, h.having, h.orderBy⟩
  | .groupBy g, (hg : countPlaceholders g = 0) =>
    h.setChecked g (fun t groupBy => { t with groupBy := groupBy })
    ⟨h.tableName, h.fields, h.joins, hg, h.having, h.orderBy⟩
  | .having g, (hg : countPlaceholders g = 0) =>
    h.setChecked g (fun t having => { t with having := having })
    ⟨h.tableName, h.fields, h.joins, h.groupBy, hg, h.orderBy⟩
  | .hasTotal _, _ => h.frame rfl rfl rfl rfl rfl rfl

/-- A whole chain: the accepted conditions' texts and arguments, in call order. -/
theorem foldl_call_conds (calls : List TableCall) (t : Table) :
    (calls.foldl (Table.call isLetter isDigit) t).«where» =
      t.«where» ++ (calls.flatMap TableCall.acceptedConds).map CondCall.text ∧
    (calls.foldl (Table.call isLetter isDigit) t).args =
      t.args ++ (calls.flatMap TableCall.acceptedConds).flatMap CondCall.args := by
  induction calls generalizing t with
  | nil => simp
  | cons c cs ih =>
    obtain ⟨hw, ha⟩ := t.call_conds isLetter isDigit c
    obtain ⟨iw, ia⟩ := ih (t.call isLetter isDigit c)
    rw [List.foldl_cons, iw, ia, hw, ha]
    simp

end Unicode

variable {queryType : String}

/-- The statement of an unmarked table whose conditions are those of accepted calls: the `?` of
each call's condition, in call order, and those calls' arguments. -/
theorem Unmarked.buildQuery (h : t.Unmarked) (cs : List CondCall)
    (hacc : ∀ c ∈ cs, c.accepted = true) (hw : t.«where» = cs.map CondCall.text)
    (ha : t.args = cs.flatMap CondCall.args)
    (hq : queryType = "SELECT" ∨ queryType = "COUNT" ∨ queryType = "DELETE") :
    ((t.buildQuery queryType).2.1).markOwners 0 = argOwners 0 cs ∧
      ((t.buildQuery queryType).2.1).conds = cs.map CondCall.condition ∧
      ((t.buildQuery queryType).2.2).getD [] = cs.flatMap CondCall.args := by
  have hf : countPlaceholders (String.intercalate "`, `" t.fields) = 0 :=
    countPlaceholders_intercalate _ _ (by decide) h.fields
  have hj : Text.Unmarked (t.joins.flatMap fun join => [.sql " ", .sql join]) := by
    simp only [Text.unmarked_flatMap, Text.unmarked_cons, Text.unmarked_nil, and_true,
      Piece.unmarked_sql]
    exact fun j hj => ⟨by decide, h.joins j hj⟩
  unfold Table.buildQuery
  dsimp only
  split
  · next hhead => rcases hq with rfl | rfl | rfl <;> simp at hhead
  · next head hhead =>
    have hh : Text.Unmarked head := by
      split_ifs at hhead <;> cases hhead <;> simp +decide [h.tableName, hf]
    have hrest : Text.Unmarked ((if t.groupBy = "" then []
        else [Piece.sql " GROUP BY ", .sql t.groupBy] ++
          (if t.having = "" then [] else [.sql " HAVING ", .sql t.having])) ++
        ((if t.orderBy = "" then [] else [.sql " ORDER BY ", .sql t.orderBy]) ++
        (if 0 < t.limit.toInt then
          [.sql " LIMIT ", .sql (formatInt t.limit)] ++
            (if 0 < t.offset.toInt then [.sql " OFFSET ", .sql (formatInt t.offset)] else [])
        else []))) := by
      simp +decide [h.groupBy, h.having, h.orderBy, countPlaceholders_formatInt]
    by_cases hemp : t.«where».isEmpty = true
    · have hcs : cs = [] := by simpa [hw] using hemp
      subst hcs
      simp only [hemp, if_true, List.append_nil, List.append_assoc]
      obtain ⟨u1, u2⟩ := Text.markOwners_unmarked (k := 0)
        ((Text.unmarked_append _ _).mpr ⟨hh, (Text.unmarked_append _ _).mpr ⟨hj, hrest⟩⟩)
      exact ⟨u1, u2, rfl⟩
    · obtain ⟨m1, m2, m3, m4⟩ := getWhere_markOwners t cs hacc hw (by simpa using hemp)
      simp only [hemp, if_false, m4, List.append_assoc]
      rw [(Text.markOwners_unmarked_append hh _ 0).1, (Text.markOwners_unmarked_append hh _ 0).2,
        (Text.markOwners_unmarked_append hj _ 0).1, (Text.markOwners_unmarked_append hj _ 0).2,
        (Text.markOwners_append_unmarked hrest _ 0).1, (Text.markOwners_append_unmarked hrest _ 0).2]
      exact ⟨m1, m2, by simp [m3, ha]⟩

theorem unmarked_table (db : DB) (name : String)
    (hname : countPlaceholders (db.getTableName name) = 0) : (db.table name).Unmarked := by
  unfold DB.table
  split
  · exact ⟨rfl, nofun, nofun, rfl, rfl, rfl⟩
  · exact ⟨hname, nofun, nofun, rfl, rfl, rfl⟩

theorem table_conds (db : DB) (name : String) :
    (db.table name).«where» = [] ∧ (db.table name).args = [] := by
  unfold DB.table
  split <;> exact ⟨rfl, rfl⟩

end Table

/-- Whatever chain of builder calls follows `DB.Table`, if the table name and the chain's joins,
groupings and `HAVING`s hold no `?`, and Go's `unicode` counts `?` neither a letter nor a digit:
the `SELECT`, `COUNT` or `DELETE` that `buildQuery` writes has exactly as many `?` as arguments,
the `i`-th `?` lies in the `k`-th condition of the statement where the `k`-th accepted condition
call supplied the `i`-th argument, and that condition is the call's own. -/
theorem buildQuery_bindsConditionArgs (isLetter isDigit : Char → Bool)
    (hl : isLetter '?' = false) (hd : isDigit '?' = false) (db : DB) (name : String)
    (calls : List TableCall) (queryType : String)
    (hname : countPlaceholders (db.getTableName name) = 0) (hcalls : ∀ c ∈ calls, c.Unmarked)
    (hq : queryType = "SELECT" ∨ queryType = "COUNT" ∨ queryType = "DELETE") :
    let stmt := (calls.foldl (Table.call isLetter isDigit) (db.table name)).buildQuery queryType
    let accepted := calls.flatMap TableCall.acceptedConds
    countPlaceholders stmt.2.1.render = (stmt.2.2.getD []).length ∧
      stmt.2.1.markOwners 0 = argOwners 0 accepted ∧
      stmt.2.1.conds = accepted.map CondCall.condition ∧
      stmt.2.2.getD [] = accepted.flatMap CondCall.args := by
  intro stmt accepted
  have hu := List.foldlRecOn (motive := Table.Unmarked) calls (Table.call isLetter isDigit) _
    (Table.unmarked_table db name hname) fun _ ht c hc => ht.call hl hd c (hcalls c hc)
  obtain ⟨hw, ha⟩ := Table.foldl_call_conds calls (db.table name)
  obtain ⟨hw0, ha0⟩ := Table.table_conds db name
  have hacc : ∀ c ∈ accepted, c.accepted = true := fun c hc => by
    obtain ⟨call, -, hc⟩ := List.mem_flatMap.mp hc
    exact TableCall.accepted_of_mem_acceptedConds hc
  obtain ⟨m1, m2, m3⟩ := hu.buildQuery accepted hacc (by rw [hw, hw0, List.nil_append])
    (by rw [ha, ha0, List.nil_append]) hq
  refine ⟨?_, m1, m2, m3⟩
  rw [← Text.length_markOwners 0, m1, length_argOwners, m3]

/-- A condition, a join and an `OrWhere` with two arguments: three `?`, the first bound by the
first condition's argument, the other two by the second's. -/
theorem buildQuery_bindsConditionArgs_threeArgs :
    Char.isAlpha '?' = false ∧ Char.isDigit '?' = false ∧
      countPlaceholders ((DB.mk "").getTableName "users") = 0 ∧
      (∀ c ∈ [TableCall.cond ⟨.and, "age > ?", [.int 18]⟩, .join "JOIN t2 ON t2.id = users.id",
        .cond ⟨.or, "id IN (?, ?)", [.int 1, .int 2]⟩], c.Unmarked) ∧
      ("SELECT" = "SELECT" ∨ "SELECT" = "COUNT" ∨ "SELECT" = "DELETE") ∧
      (let stmt := ([TableCall.cond ⟨.and, "age > ?", [.int 18]⟩,
          .join "JOIN t2 ON t2.id = users.id", .cond ⟨.or, "id IN (?, ?)", [.int 1, .int 2]⟩].foldl
          (Table.call Char.isAlpha Char.isDigit) ((DB.mk "").table "users")).buildQuery "SELECT"
        let accepted := [TableCall.cond ⟨.and, "age > ?", [.int 18]⟩,
          .join "JOIN t2 ON t2.id = users.id",
          .cond ⟨.or, "id IN (?, ?)", [.int 1, .int 2]⟩].flatMap TableCall.acceptedConds
        countPlaceholders stmt.2.1.render = (stmt.2.2.getD []).length ∧
          stmt.2.1.markOwners 0 = argOwners 0 accepted ∧
          stmt.2.1.conds = accepted.map CondCall.condition ∧
          stmt.2.2.getD [] = accepted.flatMap CondCall.args) :=
  have hcalls : ∀ c ∈ [TableCall.cond ⟨.and, "age > ?", [.int 18]⟩,
      .join "JOIN t2 ON t2.id = users.id", .cond ⟨.or, "id IN (?, ?)", [.int 1, .int 2]⟩],
      c.Unmarked := by
    intro c hc
    simp only [List.mem_cons, List.mem_singleton, List.mem_nil_iff, or_false] at hc
    rcases hc with rfl | rfl | rfl
    · trivial
    · exact (by decide : countPlaceholders "JOIN t2 ON t2.id = users.id" = 0)
    · trivial
  ⟨by decide, by decide, by decide, hcalls, .inl rfl,
    buildQuery_bindsConditionArgs Char.isAlpha Char.isDigit (by decide) (by decide) (DB.mk "")
      "users" _ "SELECT" (by decide) hcalls (.inl rfl)⟩

end Xlorm
