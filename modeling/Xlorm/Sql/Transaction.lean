import Xlorm.Sql.Table

/-!
# Transactions (`DB.Begin`, `Transaction.Commit`, `Transaction.Rollback`, `DB.ExecTx`)

A transactional method talks to the driver through one `sql.Tx`: `Begin`, statements, then
`Commit` or `Rollback`. The driver is any function from what happened so far to its answer for
the next call (`Driver`), so each point of failure is one choice of driver. A run records what
happened, in order (`TxEvent`): each call with the driver's answer, and, for `ExecTx`, the
caller's function returning. It ends as a Go call ends (`Ending`): it returns a result and an
error, or it panics. A deferred closure that recovers a panic, rolls back and panics again is
modelled by the calls it makes after the body has ended. The nil checks on the `DB` and on the
`Transaction` are left out: a transaction here always comes from a `Begin` that succeeded, and
the trace id is the one `Begin` draws.

**The law** (`Atomic`): a method commits only after every earlier step succeeded, and once
`Begin` has succeeded, every failure (an error returned, or a panic) comes with a rollback,
unless it was the commit that failed. `execTx_atomic` shows it for `ExecTx`; the batch methods
keep it as well (`Sql.BatchUpdate`, `Sql.BatchInsert`).
-/

namespace Xlorm

/-- A call a method makes on its transaction. -/
inductive TxCall where
  | begin
  | exec (query : String) (args : List Value)
  | commit
  | rollback
  deriving Repr, DecidableEq

/-- The driver's answer to a call: the rows it affected, or its error. -/
inductive Answer where
  | ok (rowsAffected : BitVec 64)
  | error (e : String)
  deriving Repr, DecidableEq

/-- The error of an answer, if any. -/
def Answer.err : Answer → Option String
  | .ok _ => none
  | .error e => some e

/-- What a run records: a call with the driver's answer, or the caller's function returning
(nil, or its error). -/
inductive TxEvent where
  | call (c : TxCall) (answer : Answer)
  | fnReturned (err : Option String)
  deriving Repr, DecidableEq

/-- The call an event records, if it is one. -/
def TxEvent.callOf : TxEvent → Option TxCall
  | .call c _ => some c
  | .fnReturned _ => none

/-- The driver: its answer to a call, given everything that happened before it. -/
def Driver := List TxEvent → TxCall → Answer

/-- A driver that answers every call without error. -/
def Driver.AllOk (driver : Driver) : Prop := ∀ log c, (driver log c).err = none

theorem Driver.AllOk.eq_ok {driver : Driver} (hd : driver.AllOk) (log : List TxEvent) (c : TxCall) :
    ∃ n, driver log c = .ok n := by
  have := hd log c
  revert this
  cases driver log c with
  | ok n => exact fun _ => ⟨n, rfl⟩
  | error e => intro h; cases h

/-- How a Go call ends: it returns a result with an error (`none` for nil), or it panics. -/
inductive Ending (α : Type) where
  | returned (result : α) (err : Option String)
  | panicked
  deriving Repr, DecidableEq

/-- An ending that is a failure: an error returned, or a panic. -/
def Ending.failed {α : Type} : Ending α → Bool
  | .returned _ err => err.isSome
  | .panicked => true

section Calls

variable (driver : Driver) (traceID : String)

/-- One call: the driver answers it from the events before it, and the call joins the log. -/
def callDriver (log : List TxEvent) (c : TxCall) : List TxEvent × Answer :=
  (log ++ [.call c (driver log c)], driver log c)

/-- The body `Begin`, `Commit` and `Rollback` share: the driver's call, its error wrapped with
the step's words and the trace id. -/
def wrapCall (c : TxCall) (failure : String) (log : List TxEvent) : List TxEvent × Option String :=
  (log ++ [.call c (driver log c)],
    (driver log c).err.map fun e => failure ++ e ++ ", trace_id:" ++ traceID)

/-- `DB.Begin`. -/
def DB.begin : List TxEvent → List TxEvent × Option String :=
  wrapCall driver traceID .begin "开始事务失败: "

/-- `Transaction.Commit`. -/
def Transaction.commit : List TxEvent → List TxEvent × Option String :=
  wrapCall driver traceID .commit "提交事务失败: "

/-- `Transaction.Rollback`. -/
def Transaction.rollback : List TxEvent → List TxEvent × Option String :=
  wrapCall driver traceID .rollback "回滚事务失败: "

/-- `DB.ExecTx`: `Begin`, then the caller's function, which returns (nil or an error) or panics.
An error rolls back; a panic is recovered, rolled back and raised again; nil commits, and a failed
commit is returned as it is, without a rollback. -/
def DB.execTx (fn : Ending Unit) : List TxEvent × Ending Unit :=
  let begin := DB.begin driver traceID []
  match begin.2 with
  | some e => (begin.1, .returned () (some e))
  | none =>
    match fn with
    | .panicked => ((Transaction.rollback driver traceID begin.1).1, .panicked)
    | .returned _ (some err) =>
      let rollback := Transaction.rollback driver traceID (begin.1 ++ [.fnReturned (some err)])
      (rollback.1, .returned () (some (match rollback.2 with
        | some rbErr => "执行事务失败: " ++ err ++ ", 回滚失败: " ++ rbErr ++ ", trace_id:" ++ traceID
        | none => "执行事务失败: " ++ err ++ ", trace_id:" ++ traceID)))
    | .returned _ none =>
      let commit := Transaction.commit driver traceID (begin.1 ++ [.fnReturned none])
      (commit.1, .returned () (commit.2.map fun e => "提交事务失败: " ++ e ++ ", trace_id:" ++ traceID))

/-- The deferred closure of `BatchInsert` and `BatchUpdate`: after a panic or an error, roll back
(the rollback's own error is dropped). -/
def rollbackOnFailure {α : Type} (log : List TxEvent) (ending : Ending α) : List TxEvent :=
  if ending.failed then (Transaction.rollback driver traceID log).1 else log

end Calls

/-! ## The discipline -/

/-- A step that succeeded: a call the driver answered without error, or the caller's function
returning nil. -/
def TxEvent.ok : TxEvent → Bool
  | .call _ (.ok _) => true
  | .call _ (.error _) => false
  | .fnReturned err => err.isNone

/-- Every commit of a log comes after events that all succeeded. -/
def CommitsAfterSuccess (log : List TxEvent) : Prop :=
  ∀ pre answer post, log = pre ++ .call .commit answer :: post → ∀ e ∈ pre, e.ok

/-- The discipline of a transactional run, over its log and whether it failed: it commits only
after every earlier step succeeded, and once `Begin` has succeeded, a failed run has rolled
back, unless its commit failed. -/
structure Atomic (log : List TxEvent) (failed : Bool) : Prop where
  commitsAfterSuccess : CommitsAfterSuccess log
  rollsBack : failed = true → (∃ n, .call .begin (.ok n) ∈ log) →
    (∃ answer, .call .rollback answer ∈ log) ∨ ∃ e, .call .commit (.error e) ∈ log

/-- No event of the list is a commit. -/
def NoCommit (events : List TxEvent) : Prop := ∀ answer, .call .commit answer ∉ events

theorem commitsAfterSuccess_of_noCommit {log : List TxEvent} (h : NoCommit log) :
    CommitsAfterSuccess log := by
  rintro pre answer post rfl
  exact absurd (List.mem_append_right _ (List.mem_cons_self _ _)) (h answer)

/-- The log grows by one event; a commit has to come after events that all succeeded. -/
theorem CommitsAfterSuccess.snoc {log : List TxEvent} {e : TxEvent} (h : CommitsAfterSuccess log)
    (he : ∀ answer, e = .call .commit answer → ∀ x ∈ log, x.ok) :
    CommitsAfterSuccess (log ++ [e]) := by
  intro pre answer post hl
  rcases List.eq_nil_or_concat post with rfl | ⟨post, z, rfl⟩
  · obtain ⟨rfl, he'⟩ := List.append_inj' hl rfl
    exact he answer (List.singleton_inj.mp he')
  · rw [List.concat_eq_append, ← List.cons_append, ← List.append_assoc] at hl
    exact h pre answer post (List.append_inj' hl rfl).1

/-- Events without a commit join the log. -/
theorem CommitsAfterSuccess.append {log events : List TxEvent} (h : CommitsAfterSuccess log)
    (he : NoCommit events) : CommitsAfterSuccess (log ++ events) := by
  induction events generalizing log with
  | nil => simpa using h
  | cons e events ih =>
    rw [← List.singleton_append, ← List.append_assoc]
    refine ih (h.snoc fun answer he' => ?_) fun answer hm => he answer (List.mem_cons_of_mem _ hm)
    exact absurd (he' ▸ List.mem_cons_self _ _) (he answer)

/-- The call `Rollback` adds to the log. -/
theorem rollback_mem (driver : Driver) (traceID : String) (log : List TxEvent) :
    .call .rollback (driver log .rollback) ∈ (Transaction.rollback driver traceID log).1 := by
  simp [Transaction.rollback, wrapCall]

/-- A batch body so far: `Begin` succeeded, then statements and no commit. -/
theorem commitsAfterSuccess_begin_append {n : BitVec 64} {events : List TxEvent}
    (h : NoCommit events) : CommitsAfterSuccess (.call .begin (.ok n) :: events) := by
  have hbegin : CommitsAfterSuccess [.call .begin (.ok n)] :=
    commitsAfterSuccess_of_noCommit (by simp [NoCommit])
  exact hbegin.append h

/-- A batch body that commits: `Begin` succeeded, then statements that all succeeded, then the
commit. -/
theorem commitsAfterSuccess_begin_commit {n : BitVec 64} {events : List TxEvent}
    (h : NoCommit events) (hok : ∀ x ∈ events, x.ok) (answer : Answer) :
    CommitsAfterSuccess (.call .begin (.ok n) :: events ++ [.call .commit answer]) := by
  refine (commitsAfterSuccess_begin_append h).snoc fun _ _ x hx => ?_
  rcases List.mem_cons.mp hx with rfl | hx
  · rfl
  · exact hok x hx

/-- The deferred rollback turns a log whose commits came after success into an atomic run. -/
theorem atomic_rollbackOnFailure (driver : Driver) (traceID : String) {α : Type}
    {log : List TxEvent} (ending : Ending α) (h : CommitsAfterSuccess log) :
    Atomic (rollbackOnFailure driver traceID log ending) ending.failed := by
  unfold rollbackOnFailure
  by_cases hf : ending.failed = true
  · rw [if_pos hf]
    exact ⟨h.snoc fun _ he => (by cases he), fun _ _ => .inl ⟨_, rollback_mem driver traceID log⟩⟩
  · rw [if_neg hf]
    exact ⟨h, fun hf' => absurd hf' hf⟩

/-- A run whose `Begin` failed and that made no other call. -/
theorem atomic_beginFailed {e : String} (failed : Bool) : Atomic [.call .begin (.error e)] failed :=
  ⟨commitsAfterSuccess_of_noCommit (by simp [NoCommit]), fun _ ⟨_, hn⟩ => by simp at hn⟩

/-- `ExecTx` keeps the discipline, whatever the driver answers and whatever the caller's function
does. -/
theorem execTx_atomic (driver : Driver) (traceID : String) (fn : Ending Unit) :
    Atomic (DB.execTx driver traceID fn).1 (DB.execTx driver traceID fn).2.failed := by
  cases hb : driver [] .begin with
  | error e =>
    simp only [DB.execTx, DB.begin, wrapCall, hb, Answer.err, Option.map_some', List.nil_append]
    exact atomic_beginFailed _
  | ok n =>
    have hbegin : CommitsAfterSuccess [.call .begin (.ok n)] :=
      commitsAfterSuccess_of_noCommit (by simp [NoCommit])
    have hfn : ∀ err, CommitsAfterSuccess [.call .begin (.ok n), .fnReturned err] :=
      fun err => hbegin.snoc fun _ h => (by cases h)
    simp only [DB.execTx, DB.begin, wrapCall, hb, Answer.err, Option.map_none', List.nil_append]
    cases fn with
    | panicked => exact atomic_rollbackOnFailure driver traceID Ending.panicked hbegin
    | returned u err =>
      cases err with
      | some err =>
        exact ⟨(hfn _).snoc fun _ h => (by cases h), fun _ _ => .inl ⟨_, rollback_mem driver traceID _⟩⟩
      | none =>
        have hok : ∀ x ∈ [TxEvent.call .begin (.ok n), .fnReturned none], x.ok := by
          simp [TxEvent.ok]
        simp only [Transaction.commit, wrapCall, List.singleton_append]
        cases driver [.call .begin (.ok n), .fnReturned none] .commit with
        | ok m => exact ⟨(hfn _).snoc fun _ _ => hok, fun hf => by simp [Answer.err, Ending.failed] at hf⟩
        | error e => exact ⟨(hfn _).snoc fun _ _ => hok, fun _ _ => .inr ⟨e, by simp⟩⟩

end Xlorm
