import Xlorm.Sql.Where

/-!
# Chains of builder calls, and what they keep out of a statement

`db.M(name)` followed by any chain of `Where`, `OrWhere`, `NotWhere`, `OrderBy`, `Limit`, `Page`,
`Offset`, `Fields`, `Join`, `GroupBy`, `Having` and `HasTotal` is a fold of `TableCall`s over the
table `DB.Table` returns. Every method that stores a caller's text checks it first: a condition,
a join, a grouping, a `HAVING` and an order are refused when they hold `;` or NUL, a field when it
is not an ASCII name, and `DB.Table` refuses such a table name.

`Table.Clean` collects those checks as one invariant of the table; every call keeps it
(`Clean.call`), so every table a chain reaches has it (`Clean.foldl_call`). `buildQuery` writes
nothing else but its own keywords, the table's texts and `strconv.FormatInt` digits, so
`buildQuery_noSeparator` follows: whatever the chain, the `SELECT`, `COUNT` or `DELETE` it
builds holds no `;` and no NUL unless the DB's table prefix, which nothing checks, does.

**The law**: the injection checks of the chained methods, taken together, keep the statement
separator and NUL out of every statement `buildQuery` writes.
-/

namespace Xlorm

/-- One chained call on a table. -/
inductive TableCall where
  | cond (c : CondCall)
  | orderBy (order : String)
  | limit (limit : BitVec 64)
  | page (page pageSize : BitVec 64)
  | offset (offset : BitVec 64)
  | fields (fields : List String)
  | join (join : String)
  | groupBy (groupBy : String)
  | having (having : String)
  | hasTotal (need : Bool)

section Unicode

variable (isLetter isDigit : Char → Bool)

/-- The method a call names, applied to a table (`OrderBy` over Go's `unicode` classes). -/
def Table.call (t : Table) : TableCall → Table
  | .cond c => t.applyCond c
  | .orderBy order => t.OrderBy isLetter isDigit order
  | .limit limit => t.Limit limit
  | .page page pageSize => t.Page page pageSize
  | .offset offset => t.Offset offset
  | .fields fields => t.Fields fields
  | .join join => t.Join join
  | .groupBy groupBy => t.GroupBy groupBy
  | .having having => t.Having having
  | .hasTotal need => t.HasTotal need

end Unicode

/-! ## Texts without a separator -/

/-- The NUL character. -/
def nul : Char := Char.ofNat 0

theorem hasInjectionChar_eq_false {s : String} :
    hasInjectionChar s = false ↔ ∀ c ∈ s.toList, c ≠ ';' ∧ c ≠ nul := by
  simp [hasInjectionChar, nul]

@[simp] theorem hasInjectionChar_append (a b : String) :
    hasInjectionChar (a ++ b) = (hasInjectionChar a || hasInjectionChar b) := by
  simp [hasInjectionChar, List.any_append]

theorem hasInjectionChar_render (w : Text) :
    hasInjectionChar w.render = false ↔ ∀ p ∈ w, hasInjectionChar p.render = false := by
  induction w with
  | nil => simp [Text.render, hasInjectionChar]
  | cons p w ih => simp [Text.render, ih]

theorem hasInjectionChar_of_valid {field : String} (h : isValidFieldName field = true) :
    hasInjectionChar field = false := by
  simp only [isValidFieldName, Bool.and_eq_true, List.all_eq_true] at h
  refine hasInjectionChar_eq_false.mpr fun c hc => ?_
  have := h.2 c hc
  constructor <;> rintro rfl <;> revert this <;> decide

theorem hasInjectionChar_intercalate (sep : String) (fields : List String)
    (hsep : hasInjectionChar sep = false) (hf : ∀ f ∈ fields, hasInjectionChar f = false) :
    hasInjectionChar (String.intercalate sep fields) = false := by
  rcases fields with _ | ⟨f, fs⟩
  · rfl
  · have key : ∀ (acc : String) (fs : List String), hasInjectionChar acc = false →
        (∀ f ∈ fs, hasInjectionChar f = false) →
        hasInjectionChar (String.intercalate.go acc sep fs) = false := by
      intro acc fs hacc hfs
      induction fs generalizing acc with
      | nil => exact hacc
      | cons g gs ih =>
        exact ih _ (by simp [hacc, hsep, hfs g (by simp)]) fun f hf => hfs f (by simp [hf])
    exact key f fs (hf f (by simp)) fun g hg => hf g (by simp [hg])

theorem isDigit_digitChar : ∀ k < 10, (Nat.digitChar k).isDigit = true := by decide

theorem isDigit_toDigitsCore (fuel n : Nat) (ds : List Char) (hds : ∀ c ∈ ds, c.isDigit = true) :
    ∀ c ∈ Nat.toDigitsCore 10 fuel n ds, c.isDigit = true := by
  induction fuel generalizing n ds with
  | zero => exact hds
  | succ fuel ih =>
    have hd : (Nat.digitChar (n % 10)).isDigit = true := isDigit_digitChar _ (Nat.mod_lt _ (by omega))
    have hds' : ∀ c ∈ Nat.digitChar (n % 10) :: ds, c.isDigit = true :=
      fun c hc => (List.mem_cons.mp hc).elim (· ▸ hd) (hds c)
    simp only [Nat.toDigitsCore]
    split
    · exact hds'
    · exact ih _ _ hds'

/-- `strconv.FormatInt` writes a sign and digits only. -/
theorem hasInjectionChar_formatInt (x : BitVec 64) : hasInjectionChar (Table.formatInt x) = false := by
  have hnat : ∀ n : Nat, hasInjectionChar n.repr = false := fun n => by
    refine hasInjectionChar_eq_false.mpr fun c hc => ?_
    have := isDigit_toDigitsCore (n + 1) n [] (by simp) c hc
    constructor <;> rintro rfl <;> revert this <;> decide
  unfold Table.formatInt
  generalize x.toInt = i
  cases i with
  | ofNat n => exact hnat n
  | negSucc n => simpa [Int.repr] using hnat (n + 1)

/-! ## The invariant of a chain -/

/-- Every text a table holds for its statements is free of `;` and NUL, and every field is an
ASCII name. -/
structure Table.Clean (t : Table) : Prop where
  tableName : hasInjectionChar t.tableName = false
  fields : ∀ f ∈ t.fields, isValidFieldName f = true
  «where» : ∀ w ∈ t.«where», ∀ p ∈ w, hasInjectionChar p.render = false
  joins : ∀ j ∈ t.joins, hasInjectionChar j = false
  groupBy : hasInjectionChar t.groupBy = false
  having : hasInjectionChar t.having = false
  orderBy : hasInjectionChar t.orderBy = false

namespace Table

variable {t : Table}

/-- `DB.Table` makes a clean table when the prefix is clean: the name it pastes in passed its
check. -/
theorem clean_table (db : DB) (name : String) (hpre : hasInjectionChar db.tablePre = false) :
    (db.table name).Clean := by
  unfold DB.table DB.tableRejection
  split
  · exact ⟨rfl, nofun, nofun, nofun, rfl, rfl, rfl⟩
  · next h =>
    split at h
    · cases h
    · split at h
      · cases h
      · exact ⟨by simp_all [DB.getTableName, hasInjectionChar], nofun, nofun, nofun, rfl, rfl, rfl⟩

/-- A table that holds the same texts as a clean one is clean. -/
theorem Clean.frame {t' : Table} (h : t.Clean) (h1 : t'.tableName = t.tableName)
    (h2 : t'.fields = t.fields) (h3 : t'.«where» = t.«where») (h4 : t'.joins = t.joins)
    (h5 : t'.groupBy = t.groupBy) (h6 : t'.having = t.having) (h7 : t'.orderBy = t.orderBy) :
    t'.Clean :=
  ⟨h1 ▸ h.tableName, h2 ▸ h.fields, h3 ▸ h.where, h4 ▸ h.joins, h5 ▸ h.groupBy, h6 ▸ h.having,
    h7 ▸ h.orderBy⟩

/-- A condition call changes the conditions, their arguments and the mask, and nothing else a
statement reads. -/
theorem applyCond_frame (t : Table) (c : CondCall) :
    (t.applyCond c).tableName = t.tableName ∧ (t.applyCond c).fields = t.fields ∧
      (t.applyCond c).joins = t.joins ∧ (t.applyCond c).groupBy = t.groupBy ∧
      (t.applyCond c).having = t.having ∧ (t.applyCond c).orderBy = t.orderBy := by
  obtain ⟨kind, condition, args⟩ := c
  cases kind <;>
    simp only [Table.applyCond, Where, OrWhere, NotWhere, addCondition_eq] <;>
    split <;> simp

theorem Clean.applyCond (h : t.Clean) (c : CondCall) : (t.applyCond c).Clean := by
  obtain ⟨hw, -, -⟩ := applyCond_spec t c
  obtain ⟨h1, h2, h3, h4, h5, h6⟩ := t.applyCond_frame c
  refine ⟨h1 ▸ h.tableName, h2 ▸ h.fields, ?_, h3 ▸ h.joins, h4 ▸ h.groupBy, h5 ▸ h.having,
    h6 ▸ h.orderBy⟩
  rw [hw]
  split
  · next hacc =>
    have hcond : hasInjectionChar c.condition = false := by
      simp only [CondCall.accepted, Bool.and_eq_true, Option.isNone_iff_eq_none,
        conditionRejection] at hacc
      split_ifs at hacc with h1 h2 <;> simp_all
    intro w hw p hp
    rcases List.mem_append.mp hw with hw | hw
    · exact h.where w hw p hp
    · obtain ⟨kind, condition, args⟩ := c
      rw [List.mem_singleton.mp hw] at hp
      cases kind <;> simp [CondCall.text] at hp <;> rcases hp with rfl | rfl | rfl <;>
        first | rfl | exact hcond
  · exact h.where

theorem injectionRejection_eq_none {s : String} (h : injectionRejection s = none) :
    hasInjectionChar s = false := by
  unfold injectionRejection at h
  split at h <;> simp_all

theorem Clean.setChecked (h : t.Clean) (s : String) (store : Table → String → Table)
    (hstore : hasInjectionChar s = false → (store t s).Clean) : (t.setChecked s store).Clean := by
  unfold Table.setChecked
  split
  · exact h
  · split
    · exact h
    · next hr => exact hstore (injectionRejection_eq_none hr)

theorem Clean.OrderBy (isLetter isDigit : Char → Bool) (h : t.Clean) (order : String) :
    (t.OrderBy isLetter isDigit order).Clean := by
  unfold Table.OrderBy
  split
  · exact h
  · split
    · exact h
    · next hr =>
      unfold orderByRejection at hr
      split at hr
      · cases hr
      · exact ⟨h.tableName, h.fields, h.where, h.joins, h.groupBy, h.having,
          injectionRejection_eq_none hr⟩

theorem Clean.Fields (h : t.Clean) (fields : List String) : (t.Fields fields).Clean := by
  induction fields generalizing t with
  | nil => exact h
  | cons f fs ih =>
    unfold Table.Fields
    split
    · exact ih h
    · split
      · exact h
      · next hf =>
        refine ih ⟨h.tableName, fun g hg => ?_, h.where, h.joins, h.groupBy, h.having, h.orderBy⟩
        rcases List.mem_append.mp hg with hg | hg
        · exact h.fields g hg
        · simp_all

/-- One call keeps a table clean. -/
theorem Clean.call (isLetter isDigit : Char → Bool) (h : t.Clean) (c : TableCall) :
    (t.call isLetter isDigit c).Clean := by
  cases c with
  | cond c => exact h.applyCond c
  | orderBy order => exact h.OrderBy isLetter isDigit order
  | limit limit =>
    show (t.Limit limit).Clean
    unfold Table.Limit
    split
    · exact h
    · exact h.frame rfl rfl rfl rfl rfl rfl rfl
  | page page pageSize => exact h.frame rfl rfl rfl rfl rfl rfl rfl
  | offset offset =>
    show (t.Offset offset).Clean
    unfold Table.Offset
    split
    · exact h
    · exact h.frame rfl rfl rfl rfl rfl rfl rfl
  | fields fields => exact h.Fields fields
  | join join =>
    apply h.setChecked
    intro hj
    refine ⟨h.tableName, h.fields, h.where, fun j hj' => ?_, h.groupBy, h.having, h.orderBy⟩
    rcases List.mem_append.mp hj' with hj' | hj'
    · exact h.joins j hj'
    · exact (List.mem_singleton.mp hj') ▸ hj
  | groupBy groupBy =>
    apply h.setChecked
    exact fun hg => ⟨h.tableName, h.fields, h.where, h.joins, hg, h.having, h.orderBy⟩
  | having having =>
    apply h.setChecked
    exact fun hh => ⟨h.tableName, h.fields, h.where, h.joins, h.groupBy, hh, h.orderBy⟩
  | hasTotal need => exact h.frame rfl rfl rfl rfl rfl rfl rfl

/-- Every table a chain reaches from a clean one is clean. -/
theorem Clean.foldl_call (isLetter isDigit : Char → Bool) (calls : List TableCall) (h : t.Clean) :
    (calls.foldl (Table.call isLetter isDigit) t).Clean := by
  induction calls generalizing t with
  | nil => exact h
  | cons c cs ih => exact ih (h.call isLetter isDigit c)

/-! ## The statements of a clean table -/

/-- A text none of whose pieces holds `;` or NUL. -/
def CleanText (w : Text) : Prop := ∀ p ∈ w, hasInjectionChar p.render = false

@[simp] theorem cleanText_nil : CleanText [] ↔ True := by simp [CleanText]

@[simp] theorem cleanText_cons (p : Piece) (w : Text) :
    CleanText (p :: w) ↔ hasInjectionChar p.render = false ∧ CleanText w := by
  simp [CleanText]

@[simp] theorem cleanText_append (a b : Text) :
    CleanText (a ++ b) ↔ CleanText a ∧ CleanText b := by
  simp [CleanText, or_imp, forall_and]

@[simp] theorem cleanText_flatMap (l : List String) (f : String → Text) :
    CleanText (l.flatMap f) ↔ ∀ x ∈ l, CleanText (f x) := by
  simp [CleanText]
  exact ⟨fun h x hx p hp => h p x hx hp, fun h p x hx hp => h x hx p hp⟩

@[simp] theorem cleanText_ite (c : Prop) [Decidable c] (a b : Text) :
    CleanText (if c then a else b) ↔ (c → CleanText a) ∧ (¬c → CleanText b) := by
  split_ifs with h <;> simp [h]

theorem cleanText_intercalate (sep : Piece) (ws : List Text)
    (hsep : hasInjectionChar sep.render = false) (hws : ∀ w ∈ ws, CleanText w) :
    CleanText (List.intercalate [sep] ws) := fun p hp => by
  rcases mem_intercalate hp with rfl | ⟨w, hw, hpw⟩
  · exact hsep
  · exact hws w hw p hpw

/-- `GetWhere` writes its own keywords and the pieces of the conditions. -/
theorem Clean.getWhere (h : t.Clean) (addPreStr : Bool) : CleanText (t.getWhere addPreStr).2.1 := by
  have hor : CleanText (List.intercalate [.sql " OR "] t.«where») :=
    cleanText_intercalate _ _ (by decide) h.where
  have hand : CleanText (List.intercalate [.sql " AND "] t.«where») :=
    cleanText_intercalate _ _ (by decide) h.where
  unfold Table.getWhere
  split
  · simp
  · simp only [cleanText_append]
    refine ⟨by cases addPreStr <;> simp +decide [Piece.render], ?_⟩
    split_ifs <;> simp +decide [Piece.render, hor, hand]

/-- `buildQuery` writes its own keywords, the table's texts and the digits of the limit and the
offset. -/
theorem Clean.buildQuery (h : t.Clean) (queryType : String) :
    CleanText (t.buildQuery queryType).2.1 := by
  have hw := h.getWhere true
  have hf : hasInjectionChar (String.intercalate "`, `" t.fields) = false :=
    hasInjectionChar_intercalate _ _ (by decide) fun f hf => hasInjectionChar_of_valid (h.fields f hf)
  have hrest : CleanText ((if t.groupBy = "" then []
      else [Piece.sql " GROUP BY ", .sql t.groupBy] ++
        (if t.having = "" then [] else [.sql " HAVING ", .sql t.having])) ++
      (if t.orderBy = "" then [] else [.sql " ORDER BY ", .sql t.orderBy]) ++
      (if 0 < t.limit.toInt then
        [.sql " LIMIT ", .sql (formatInt t.limit)] ++
          (if 0 < t.offset.toInt then [.sql " OFFSET ", .sql (formatInt t.offset)] else [])
      else [])) := by
    simp +decide [Piece.render, h.groupBy, h.having, h.orderBy, hasInjectionChar_formatInt]
  have hj : CleanText (t.joins.flatMap fun join => [.sql " ", .sql join]) := by
    simp only [cleanText_flatMap, cleanText_cons, cleanText_nil, and_true, Piece.render]
    exact fun j hj => ⟨by decide, h.joins j hj⟩
  unfold Table.buildQuery
  dsimp only
  split
  · simp
  · next head hhead =>
    have hh : CleanText head := by
      split_ifs at hhead <;> cases hhead <;> simp +decide [Piece.render, h.tableName, hf]
    simp only [cleanText_append] at hrest
    split
    · simp only [List.append_nil, cleanText_append, hh, hj, hrest, and_self]
    · split <;> simp only [List.append_nil, cleanText_append, hh, hj, hw, hrest, and_self]

end Table

/-- Whatever the chain of builder calls on a table `DB.Table` made, the `SELECT`, `COUNT` or
`DELETE` statement `buildQuery` writes holds no `;` and no NUL, as long as the table prefix holds
none. -/
theorem buildQuery_noSeparator (isLetter isDigit : Char → Bool) (db : DB) (name : String)
    (calls : List TableCall) (queryType : String) (hpre : hasInjectionChar db.tablePre = false) :
    hasInjectionChar ((calls.foldl (Table.call isLetter isDigit) (db.table name)).buildQuery
      queryType).2.1.render = false :=
  (hasInjectionChar_render _).mpr
    ((Table.Clean.foldl_call isLetter isDigit calls (Table.clean_table db name hpre)).buildQuery
      queryType)

/-- A chain whose join, condition, order and second field try to smuggle in a second statement:
each is refused, and the `SELECT` holds no `;`. -/
theorem buildQuery_noSeparator_refused :
    hasInjectionChar (DB.mk "app_").tablePre = false ∧
      hasInjectionChar (([.join "JOIN t2 ON 1; DROP TABLE users", .cond ⟨.or, "1 = 1; --", []⟩,
        .orderBy "id; DROP", .fields ["name", "x;y"], .limit 10].foldl
          (Table.call Char.isAlpha Char.isDigit) ((DB.mk "app_").table "users")).buildQuery
            "SELECT").2.1.render = false :=
  ⟨by decide, buildQuery_noSeparator Char.isAlpha Char.isDigit (DB.mk "app_") "users"
    [.join "JOIN t2 ON 1; DROP TABLE users", .cond ⟨.or, "1 = 1; --", []⟩, .orderBy "id; DROP",
      .fields ["name", "x;y"], .limit 10] "SELECT" (by decide)⟩

end Xlorm
