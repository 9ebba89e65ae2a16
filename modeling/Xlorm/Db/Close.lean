import Xlorm.Db.Lifecycle

/-!
# Shutting a DB down (`DB.Close`)

`Close` returns `nil` at once when `db.closed` is set. Otherwise it defers
`asyncDBMetrics.Stop()`, which runs `close(am.stopChan)`, cancels `db.cancel`, waits for the
loops, closes the pool, closes the asynchronous log handler, switches the pool stats off,
clears the caches, and last stores `db.closed`. `asyncLogger.Close` reads its own `closed`
flag and then swaps it with `CompareAndSwap(false, true)`; only the call that swaps it runs
`close(al.ch)`, and a call that loses the swap returns `日志处理器已关闭`.
`SetDBMetricsEnable(false)` runs under `poolStatsMutex` and, only while the stats are on,
switches them off, closes `db.poolStatsStop` and puts a fresh channel in its place.

`Close` calls from several goroutines run as one schedule: a step begins a call or runs one
statement of a call, so any interleaving of the calls is some schedule. The calls share a
`CloseWorld`; each call has its own stage and the errors it has gathered. A `close` is counted
on the channel it closes, and a second `close` of `stopChan` panics the program, after which
nothing steps. The pool's `Close` (no error is modelled), `wg.Wait` (the loops' context is
already done, see `Lifecycle`), the cache clearing and the log handler's drain are not steps of
their own.

**The law** of a shutdown: whatever the interleaving of `Close` calls, every channel is closed
at most once. It holds for the log channel and `poolStatsStop` over every schedule
(`run_closesChannelsOnce`), and for `stopChan` when the calls do not overlap
(`runSequential_closesStopChanOnce`). Two overlapping calls both pass the `closed` check, which is
only stored at the end, and the second `Stop` closes `stopChan` again
(`close_overlappingCallsCloseStopChanTwice`).
-/

namespace Xlorm

/-- Where a `Close` call stands. -/
inductive CloseStage where
  /-- At `if db.closed.Load()`. -/
  | start
  /-- `Stop` deferred; at `db.cancel()`. -/
  | cancel
  /-- In `asyncLogger.Close`, at `al.closed.Load()`. -/
  | loggerLoad
  /-- At `al.closed.CompareAndSwap(false, true)`, then `close(al.ch)`. -/
  | loggerSwap
  /-- At `db.SetDBMetricsEnable(false)`. -/
  | disableMetrics
  /-- The caches cleared; at `db.closed.Store(true)`. -/
  | storeClosed
  /-- Returning: the deferred `asyncDBMetrics.Stop()`, `close(am.stopChan)`. -/
  | stop
  /-- Returned; `acted` when the call passed the `closed` check. -/
  | returned (acted : Bool)
  deriving Repr, DecidableEq, Inhabited

/-- The call has returned. -/
def CloseStage.isReturned : CloseStage → Bool
  | .returned _ => true
  | _ => false

/-- A `Close` call: where it stands, and the errors it has gathered. -/
structure CloseCall where
  stage : CloseStage
  errs : List String
  deriving Repr, DecidableEq, Inhabited

/-- What a returned call gives back: `nil`, or its errors in one error, as `%v` prints a slice. -/
def CloseCall.err (call : CloseCall) : Option String :=
  if call.errs = [] then none
  else some ("关闭过程中发生错误: [" ++ " ".intercalate call.errs ++ "]")

/-- What the calls share: the contexts, the DB's fields, the log handler's `closed` flag, how
many times each channel was closed, and whether the program panicked. -/
structure CloseWorld where
  ctxs : Contexts
  db : DBHandle
  loggerClosed : Bool
  logChCloses : Nat
  poolStatsStopCloses : Nat
  stopChanCloses : Nat
  panicked : Bool
  deriving Repr, DecidableEq

/-- The shared state and every `Close` call made so far. -/
structure Shutdown where
  world : CloseWorld
  calls : List CloseCall
  deriving Repr, DecidableEq

/-- A DB as `New` returns it, before any `Close`. -/
def Shutdown.ofDB (ctxs : Contexts) (db : DBHandle) : Shutdown :=
  ⟨⟨ctxs, db, false, 0, 0, 0, false⟩, []⟩

/-- A step of the schedule. -/
inductive CloseAction where
  /-- A goroutine calls `db.Close()`. -/
  | close
  /-- Call `c` runs its next statement. -/
  | step (c : Nat)
  deriving Repr, DecidableEq

/-- The error of a log handler `Close` that loses the swap, as `DB.Close` wraps it. -/
def loggerClosedError : String := "关闭日志处理器失败: " ++ "日志处理器已关闭"

/-- The next statement of a call at `stage` with errors `errs`: the shared state after it, and
the call after it; `none` once the call has returned. -/
def CloseWorld.advance (w : CloseWorld) (errs : List String) :
    CloseStage → Option (CloseWorld × CloseCall)
  | .start => some (w, ⟨if w.db.closed then .returned false else .cancel, errs⟩)
  | .cancel => some ({ w with ctxs := w.ctxs.cancel w.db.cancel }, ⟨.loggerLoad, errs⟩)
  | .loggerLoad => some (w, ⟨if w.loggerClosed then .disableMetrics else .loggerSwap, errs⟩)
  | .loggerSwap =>
    if w.loggerClosed then some (w, ⟨.disableMetrics, errs ++ [loggerClosedError]⟩)
    else
      some ({ w with loggerClosed := true, logChCloses := w.logChCloses + 1 },
        ⟨.disableMetrics, errs⟩)
  | .disableMetrics =>
    if w.db.poolStatsEnabled then
      some ({ w with
          db := { w.db with poolStatsEnabled := false }
          poolStatsStopCloses := w.poolStatsStopCloses + 1 },
        ⟨.storeClosed, errs⟩)
    else some (w, ⟨.storeClosed, errs⟩)
  | .storeClosed => some ({ w with db := { w.db with closed := true } }, ⟨.stop, errs⟩)
  | .stop =>
    if 0 < w.stopChanCloses then
      some ({ w with stopChanCloses := w.stopChanCloses + 1, panicked := true }, ⟨.stop, errs⟩)
    else some ({ w with stopChanCloses := 1 }, ⟨.returned true, errs⟩)
  | .returned _ => none

/-- One step of the schedule; `none` when it is not enabled, and nothing is after a panic. -/
def Shutdown.step (s : Shutdown) : CloseAction → Option Shutdown
  | .close =>
    if s.world.panicked then none else some { s with calls := s.calls ++ [⟨.start, []⟩] }
  | .step c =>
    if s.world.panicked ∨ s.calls.length ≤ c then none
    else
      let call := s.calls.getD c default
      (s.world.advance call.errs call.stage).map fun r => ⟨r.1, s.calls.set c r.2⟩

/-- A step of a schedule whose calls do not overlap: a call begins only once every call before
it has returned. -/
def Shutdown.stepSequential (s : Shutdown) : CloseAction → Option Shutdown
  | .close => if s.calls.all (·.stage.isReturned) then s.step .close else none
  | .step c => s.step (.step c)

/-- A call that has not returned always has a next statement. -/
theorem advance_eq_none_iff (w : CloseWorld) (errs : List String) (stage : CloseStage) :
    w.advance errs stage = none ↔ stage.isReturned = true := by
  cases stage <;> simp only [CloseWorld.advance, CloseStage.isReturned] <;> (try split) <;> simp

/-! ### The log channel and `poolStatsStop`, over every schedule -/

/-- The log channel was closed once exactly when the log handler is marked closed, and
`poolStatsStop` at most once, and not while the stats are on. -/
def CloseWorld.Inv (w : CloseWorld) : Prop :=
  w.logChCloses = (if w.loggerClosed then 1 else 0) ∧
    w.poolStatsStopCloses + (if w.db.poolStatsEnabled then 1 else 0) ≤ 1

theorem advance_inv {w : CloseWorld} {errs : List String} {stage : CloseStage}
    {r : CloseWorld × CloseCall} (h : w.Inv) (ha : w.advance errs stage = some r) : r.1.Inv := by
  obtain ⟨hlog, hstop⟩ := h
  cases stage with
  | loggerSwap =>
    simp only [CloseWorld.advance] at ha
    split at ha <;> cases ha
    · exact ⟨hlog, hstop⟩
    · rename_i hc; simp only [hc] at hlog; exact ⟨by simp [hlog], hstop⟩
  | disableMetrics =>
    simp only [CloseWorld.advance] at ha
    split at ha <;> cases ha
    · rename_i hc; simp only [hc, if_true] at hstop; exact ⟨hlog, by simpa using hstop⟩
    · exact ⟨hlog, hstop⟩
  | stop =>
    simp only [CloseWorld.advance] at ha
    split at ha <;> cases ha <;> exact ⟨hlog, hstop⟩
  | returned => cases ha
  | _ => cases ha; exact ⟨hlog, hstop⟩

theorem step_inv {s s' : Shutdown} {a : CloseAction} (h : s.world.Inv) (hs : s.step a = some s') :
    s'.world.Inv := by
  cases a with
  | close =>
    simp only [Shutdown.step] at hs
    split at hs
    · cases hs
    · cases hs; exact h
  | step c =>
    simp only [Shutdown.step] at hs
    split at hs
    · cases hs
    · obtain ⟨r, hr, rfl⟩ := Option.map_eq_some'.mp hs
      exact advance_inv h hr

/-- Over every interleaving of `Close` calls, the log channel and `poolStatsStop` are each
closed at most once. -/
theorem run_closesChannelsOnce (ctxs : Contexts) (db : DBHandle) (sched : List CloseAction)
    {s : Shutdown} (h : runSteps Shutdown.step (Shutdown.ofDB ctxs db) sched = some s) :
    s.world.logChCloses ≤ 1 ∧ s.world.poolStatsStopCloses ≤ 1 := by
  have hinit : (Shutdown.ofDB ctxs db).world.Inv :=
    ⟨rfl, by show 0 + _ ≤ 1; split <;> omega⟩
  obtain ⟨hlog, hstop⟩ := runSteps_inv (fun s : Shutdown => s.world.Inv)
    (fun _ _ _ => step_inv) sched hinit h
  constructor
  · rw [hlog]; split <;> simp
  · omega

/-- Two overlapping calls, up to the panic: the log channel and `poolStatsStop` were each
closed once. -/
theorem run_closesChannelsOnce_overlapping :
    ∃ s, runSteps Shutdown.step (Shutdown.ofDB [true]
          { tablePre := "", dbName := "master", logLevel := -4, ctx := 0, cancel := 0,
            slowQueryThreshold := Time.second, poolStatsEnabled := true,
            poolStatsInterval := 60 * Time.second, debug := false, closed := false })
        [.close, .close, .step 0, .step 1, .step 0, .step 0, .step 0, .step 0, .step 0, .step 0,
          .step 1, .step 1, .step 1, .step 1, .step 1] = some s ∧
      s.world.logChCloses ≤ 1 ∧ s.world.poolStatsStopCloses ≤ 1 :=
  ⟨_, rfl, run_closesChannelsOnce [true]
    { tablePre := "", dbName := "master", logLevel := -4, ctx := 0, cancel := 0,
      slowQueryThreshold := Time.second, poolStatsEnabled := true,
      poolStatsInterval := 60 * Time.second, debug := false, closed := false }
    [.close, .close, .step 0, .step 1, .step 0, .step 0, .step 0, .step 0, .step 0, .step 0,
      .step 1, .step 1, .step 1, .step 1, .step 1] rfl⟩

/-! ### `stopChan`, when the calls do not overlap -/

/-- What the stage of the one running call says of the shared state: from the `closed` check to
the store, `closed` is clear and `stopChan` open; at `Stop`, `closed` is set and `stopChan`
still open. -/
def CloseStage.Before (w : CloseWorld) : CloseStage → Prop
  | .cancel | .loggerLoad | .loggerSwap | .disableMetrics | .storeClosed =>
    w.db.closed = false ∧ w.stopChanCloses = 0
  | .stop => w.db.closed = true ∧ w.stopChanCloses = 0
  | .start | .returned _ => True

/-- The shared state of non-overlapping calls: `stopChan` closed at most once, and only after
`closed` was stored, and no panic. -/
def CloseWorld.SeqOk (w : CloseWorld) : Prop :=
  w.stopChanCloses ≤ 1 ∧ (w.stopChanCloses = 1 → w.db.closed = true) ∧ w.panicked = false

/-- One statement of the running call keeps what its stage says and the shared state sound. -/
theorem advance_seqOk {w : CloseWorld} {errs : List String} {stage : CloseStage}
    {r : CloseWorld × CloseCall} (hw : w.SeqOk) (hb : stage.Before w)
    (ha : w.advance errs stage = some r) : r.1.SeqOk ∧ r.2.stage.Before r.1 := by
  obtain ⟨hle, hclosed, hpanic⟩ := hw
  cases stage with
  | start =>
    cases ha
    dsimp only
    refine ⟨⟨hle, hclosed, hpanic⟩, ?_⟩
    split
    · trivial
    · rename_i hc
      have : w.stopChanCloses ≠ 1 := fun h1 => hc (hclosed h1)
      exact ⟨by simpa using hc, by omega⟩
  | cancel => cases ha; exact ⟨⟨hle, hclosed, hpanic⟩, hb⟩
  | loggerLoad => cases ha; exact ⟨⟨hle, hclosed, hpanic⟩, by split <;> exact hb⟩
  | loggerSwap =>
    simp only [CloseWorld.advance] at ha
    split at ha <;> cases ha <;> exact ⟨⟨hle, hclosed, hpanic⟩, hb⟩
  | disableMetrics =>
    simp only [CloseWorld.advance] at ha
    split at ha <;> cases ha <;> exact ⟨⟨hle, hclosed, hpanic⟩, hb⟩
  | storeClosed => cases ha; exact ⟨⟨hle, fun _ => rfl, hpanic⟩, rfl, hb.2⟩
  | stop =>
    simp only [CloseWorld.advance] at ha
    split at ha
    · exact absurd hb.2 (by omega)
    · cases ha; exact ⟨⟨le_refl _, fun _ => hb.1, hpanic⟩, trivial⟩
  | returned => cases ha

/-- Non-overlapping calls: every call but the last has returned, what the last one's stage says
of the shared state holds, and the shared state is sound. -/
def Shutdown.SeqInv (s : Shutdown) : Prop :=
  (∀ i, i + 1 < s.calls.length → (s.calls.getD i default).stage.isReturned = true) ∧
    (s.calls.getD (s.calls.length - 1) default).stage.Before s.world ∧ s.world.SeqOk

theorem stepSequential_seqInv {s s' : Shutdown} {a : CloseAction} (h : s.SeqInv)
    (hs : s.stepSequential a = some s') : s'.SeqInv := by
  obtain ⟨hret, hlast, hw⟩ := h
  cases a with
  | close =>
    simp only [Shutdown.stepSequential, Shutdown.step, List.all_eq_true] at hs
    split at hs
    · rename_i hall
      rw [if_neg (by simp [hw.2.2])] at hs
      cases hs
      refine ⟨fun i hi => ?_, by simp [List.getD_append_right, CloseStage.Before], hw⟩
      have hi' : i < s.calls.length := by
        rw [List.length_append, List.length_singleton] at hi; omega
      rw [List.getD_append _ _ _ _ hi']
      exact hall _ (List.getD_eq_getElem _ _ hi' ▸ List.getElem_mem hi')
    · cases hs
  | step c =>
    simp only [Shutdown.stepSequential, Shutdown.step] at hs
    split at hs
    · cases hs
    · obtain ⟨r, hr, rfl⟩ := Option.map_eq_some'.mp hs
      have hrun : (s.calls.getD c default).stage.isReturned = false := by
        cases h' : (s.calls.getD c default).stage.isReturned
        · rfl
        · rw [(advance_eq_none_iff _ _ _).mpr h'] at hr; cases hr
      have hc : c = s.calls.length - 1 := by
        by_contra hne
        exact absurd (hret c (by omega)) (by rw [hrun]; decide)
      subst hc
      obtain ⟨hw', hb'⟩ := advance_seqOk hw hlast hr
      refine ⟨fun i hi => ?_, ?_, hw'⟩
      · rw [List.length_set] at hi
        rw [getD_set, if_neg (by omega)]
        exact hret i hi
      · rw [List.length_set, getD_set, if_pos ⟨rfl, by omega⟩]
        exact hb'

/-- `Close` calls that do not overlap never close `stopChan` twice, nor any other channel, and
never panic. -/
theorem runSequential_closesStopChanOnce (ctxs : Contexts) (db : DBHandle)
    (sched : List CloseAction) {s : Shutdown}
    (h : runSteps Shutdown.stepSequential (Shutdown.ofDB ctxs db) sched = some s) :
    s.world.panicked = false ∧ s.world.stopChanCloses ≤ 1 ∧ s.world.logChCloses ≤ 1 ∧
      s.world.poolStatsStopCloses ≤ 1 := by
  have hinit : (Shutdown.ofDB ctxs db).SeqInv :=
    ⟨fun _ hi => absurd hi (Nat.not_lt_zero _), trivial, by simp [CloseWorld.SeqOk, Shutdown.ofDB]⟩
  obtain ⟨-, -, hle, -, hpanic⟩ := runSteps_inv Shutdown.SeqInv
    (fun _ _ _ => stepSequential_seqInv) sched hinit h
  have hsub : ∀ s a s', Shutdown.stepSequential s a = some s' → s.step a = some s' := by
    intro s a s' hs
    cases a with
    | close => simp only [Shutdown.stepSequential] at hs; split at hs <;> simp_all
    | step c => exact hs
  exact ⟨hpanic, hle, run_closesChannelsOnce ctxs db sched (runSteps_mono hsub sched h)⟩

/-- Two calls one after the other: the first shuts the DB down, the second returns at the
`closed` check, and nothing is closed twice. -/
theorem runSequential_closesStopChanOnce_twoCalls :
    ∃ s, runSteps Shutdown.stepSequential (Shutdown.ofDB [true]
          { tablePre := "", dbName := "master", logLevel := -4, ctx := 0, cancel := 0,
            slowQueryThreshold := Time.second, poolStatsEnabled := true,
            poolStatsInterval := 60 * Time.second, debug := false, closed := false })
        [.close, .step 0, .step 0, .step 0, .step 0, .step 0, .step 0, .step 0, .close,
          .step 1] = some s ∧
      s.world.panicked = false ∧ s.world.stopChanCloses ≤ 1 ∧ s.world.logChCloses ≤ 1 ∧
        s.world.poolStatsStopCloses ≤ 1 :=
  ⟨_, rfl, runSequential_closesStopChanOnce [true]
    { tablePre := "", dbName := "master", logLevel := -4, ctx := 0, cancel := 0,
      slowQueryThreshold := Time.second, poolStatsEnabled := true,
      poolStatsInterval := 60 * Time.second, debug := false, closed := false }
    [.close, .step 0, .step 0, .step 0, .step 0, .step 0, .step 0, .step 0, .close, .step 1] rfl⟩

/-! ### Overlapping calls -/

/-- Two `Close` calls on an open DB with the pool stats on, both past the `closed` check before
either stores it: the first runs to its end and closes `stopChan`; the second finds the log
handler and the stats already off, stores `closed` again, and its `Stop` closes `stopChan` a
second time, which panics. Both calls acted. -/
theorem close_overlappingCallsCloseStopChanTwice :
    ∃ s, runSteps Shutdown.step (Shutdown.ofDB [true]
          { tablePre := "", dbName := "master", logLevel := -4, ctx := 0, cancel := 0,
            slowQueryThreshold := Time.second, poolStatsEnabled := true,
            poolStatsInterval := 60 * Time.second, debug := false, closed := false })
        [.close, .close, .step 0, .step 1, .step 0, .step 0, .step 0, .step 0, .step 0, .step 0,
          .step 1, .step 1, .step 1, .step 1, .step 1] = some s ∧
      s.world.stopChanCloses = 2 ∧ s.world.panicked = true ∧
      (s.calls.getD 0 default).stage = .returned true ∧ (s.calls.getD 1 default).stage = .stop :=
  ⟨_, rfl, rfl, rfl, rfl, rfl⟩

end Xlorm
