import Xlorm.Db.Lifecycle

/-!
# Switching the pool statistics (`SetDBMetricsEnable`, `collectPoolStats`)

`SetDBMetricsEnable(enable)` takes `poolStatsMutex` and returns at once when `poolStatsEnabled`
already equals `enable`. Otherwise it stores `enable` and then either starts a
`collectPoolStats` goroutine, or closes `poolStatsStop` and puts a fresh channel in its place.
All of it runs under the mutex. `collectPoolStats` takes the same mutex and, through its
deferred `Unlock`, holds it for as long as its loop runs. The loop returns on a tick that finds
`poolStatsEnabled` false, on a closed `poolStatsStop`, or once `db.ctx` is done, reading
`db.ctx` afresh at every `select`. `New` with `EnablePoolStats` stores true and starts the
goroutine. `db.cancel` cancels the context `newMySQL` made, which its own deferred `cancel`
already cancels as it returns (`Lifecycle`); `WithContext` replaces `db.ctx` with a caller's
context, which `db.cancel` does not cancel.

Goroutines are numbered in the order they start, and a schedule is a list of steps that
`PoolStatsWorld.step` refuses when the goroutine cannot take them. A setter's body is one step
with its `Lock`, as nothing else runs under the mutex meanwhile. Contexts are numbered as in
`Lifecycle`; a step cancels one of them, whoever holds its `cancel`. The ticker, `poolStats` and
the `WaitGroup` are left out; the channels are counted by generation, the current one being
`stop`.

**The law** (`setDBMetricsEnable_blocksWhileCollecting`): once a collector holds the mutex with
the statistics on and `db.ctx` not done, no schedule that neither cancels `db.ctx` nor replaces
it lets a `SetDBMetricsEnable` call return, whatever it asks for. After `WithContext`, a
`db.cancel()`, which is what `Close` runs, is such a step.
-/

namespace Xlorm

/-- Where a goroutine stands: a `SetDBMetricsEnable(enable)` call at its `Lock()` or returned; a
`collectPoolStats` goroutine at its `Lock()`, in its loop, or returned. -/
inductive PoolGoroutine where
  | setter (enable : Bool) (returned : Bool)
  | collectorAtLock
  | collectorInLoop
  | collectorReturned
  deriving Repr, DecidableEq

/-- The fields the goroutines share: who holds `poolStatsMutex`, `poolStatsEnabled`, the
generation of the current `poolStatsStop` and those closed, which contexts are done, `db.ctx`,
and the context `db.cancel` cancels. -/
structure PoolStatsWorld where
  goroutines : List PoolGoroutine
  holder : Option Nat
  enabled : Bool
  stop : Nat
  closes : List Nat
  contexts : Contexts
  ctx : Nat
  cancelCtx : Nat
  deriving Repr, DecidableEq

/-- What `newMySQL` leaves as it starts the collector, before its deferred `cancel`: with
`EnablePoolStats`, the statistics on and a collector started; `db.ctx` and `db.cancel` are the
ping's context, number 0. -/
def newPoolStats (enablePoolStats : Bool) : PoolStatsWorld :=
  { goroutines := if enablePoolStats then [.collectorAtLock] else [],
    holder := none, enabled := enablePoolStats, stop := 0, closes := [], contexts := [false],
    ctx := 0, cancelCtx := 0 }

/-- A step of one goroutine. -/
inductive PoolStatsStep where
  /-- A goroutine calls `SetDBMetricsEnable(enable)`. -/
  | setDBMetricsEnable (enable : Bool)
  /-- Goroutine `g` takes the mutex and, a setter, runs its body and returns. -/
  | lock (g : Nat)
  /-- Collector `g`'s ticker fires. -/
  | tick (g : Nat)
  /-- Collector `g`'s `select` takes `poolStatsStop`. -/
  | stopped (g : Nat)
  /-- Collector `g`'s `select` takes `db.ctx.Done()`. -/
  | ctxDone (g : Nat)
  /-- The `cancel` of context `k` runs: `db.cancel()` when `k` is `cancelCtx`, as `Close` and
  `newMySQL`'s defer run it, or a caller's own. -/
  | cancel (k : Nat)
  /-- `DB.WithContext` with a caller's new context. -/
  | withContext
  deriving Repr, DecidableEq

namespace PoolStatsWorld

/-- The body of `SetDBMetricsEnable(enable)` under the mutex. -/
def setBody (w : PoolStatsWorld) (enable : Bool) : PoolStatsWorld :=
  if w.enabled = enable then w
  else if enable then
    { w with enabled := true,
             goroutines := w.goroutines ++ [.collectorAtLock] }
  else { w with enabled := false, closes := w.closes ++ [w.stop], stop := w.stop + 1 }

/-- Collector `g` leaves its loop: it returns and its deferred `Unlock` frees the mutex. -/
def exitLoop (w : PoolStatsWorld) (g : Nat) : PoolStatsWorld :=
  { w with goroutines := w.goroutines.set g .collectorReturned, holder := none }

/-- The step a schedule takes next, or `none` if its goroutine cannot take it. -/
def step (w : PoolStatsWorld) : PoolStatsStep → Option PoolStatsWorld
  | .setDBMetricsEnable enable => some { w with goroutines := w.goroutines ++ [.setter enable false] }
  | .lock g =>
    match w.holder, w.goroutines[g]? with
    | none, some (.setter enable false) =>
      some ({ w with goroutines := w.goroutines.set g (.setter enable true) }.setBody enable)
    | none, some .collectorAtLock =>
      some { w with goroutines := w.goroutines.set g .collectorInLoop,
                    holder := some g }
    | _, _ => none
  | .tick g =>
    match w.goroutines[g]? with
    | some .collectorInLoop => some (if w.enabled then w else w.exitLoop g)
    | _ => none
  | .stopped g =>
    match w.goroutines[g]? with
    | some .collectorInLoop => if w.stop ∈ w.closes then some (w.exitLoop g) else none
    | _ => none
  | .ctxDone g =>
    match w.goroutines[g]? with
    | some .collectorInLoop => if w.contexts.done w.ctx then some (w.exitLoop g) else none
    | _ => none
  | .cancel k => some { w with contexts := w.contexts.cancel k }
  | .withContext => some { w with contexts := w.contexts.withTimeout, ctx := w.contexts.length }

/-- Run a schedule; `none` if some step of it cannot be taken. -/
def run : PoolStatsWorld → List PoolStatsStep → Option PoolStatsWorld := runSteps step

/-! ## Where the goroutines stand -/

/-- Appending something other than `y` finds `y` where the list did. -/
theorem getElem?_append_singleton_eq_some {α : Type} {l : List α} {x y : α} (h : x ≠ y) (i : Nat) :
    (l ++ [x])[i]? = some y ↔ l[i]? = some y := by
  rw [List.getElem?_append]
  split
  · rfl
  · rename_i hi
    rw [List.getElem?_eq_none (Nat.le_of_not_lt hi)]
    cases i - l.length <;> simp [h]

/-- Setting something other than `y` finds `y` where the list did, off the index set. -/
theorem getElem?_set_eq_some_of_ne {α : Type} {l : List α} {g : Nat} {x y : α} (h : x ≠ y)
    (i : Nat) : (l.set g x)[i]? = some y ↔ i ≠ g ∧ l[i]? = some y := by
  rw [List.getElem?_set]
  by_cases hi : g = i
  · subst hi
    by_cases hg : g < l.length <;> simp [hg, h, List.getElem?_eq_none]
  · simp [hi, Ne.symm hi]

/-- Setting `x` at an index of the list finds `x` there and where the list had it. -/
theorem getElem?_set_eq_some_self {α : Type} {l : List α} {g : Nat} {x : α} (hg : g < l.length)
    (i : Nat) : (l.set g x)[i]? = some x ↔ i = g ∨ l[i]? = some x := by
  rw [List.getElem?_set]
  by_cases hi : g = i
  · subst hi
    simp [hg]
  · simp [hi, Ne.symm hi]

/-- What every reachable world keeps: a goroutine is in the collector's loop exactly when it
holds the mutex, every closed `poolStatsStop` is of an older generation than the current one,
and `db.ctx` is a context made so far. -/
structure Inv (w : PoolStatsWorld) : Prop where
  inLoop : ∀ i, w.goroutines[i]? = some .collectorInLoop ↔ w.holder = some i
  closes : ∀ k ∈ w.closes, k < w.stop
  ctx_lt : w.ctx < w.contexts.length

theorem inv_newPoolStats (enablePoolStats : Bool) : (newPoolStats enablePoolStats).Inv where
  inLoop i := by cases enablePoolStats <;> cases i <;> simp [newPoolStats]
  closes := by simp [newPoolStats]
  ctx_lt := Nat.zero_lt_one

/-- Starting a goroutine that is not in the loop keeps `Inv`. -/
theorem Inv.append {w : PoolStatsWorld} (h : w.Inv) (x : PoolGoroutine)
    (hx : x ≠ .collectorInLoop) : { w with goroutines := w.goroutines ++ [x] }.Inv :=
  ⟨fun i => (getElem?_append_singleton_eq_some hx i).trans (h.inLoop i), h.closes, h.ctx_lt⟩

theorem Inv.setBody {w : PoolStatsWorld} (h : w.Inv) (enable : Bool) : (w.setBody enable).Inv := by
  unfold PoolStatsWorld.setBody
  split_ifs
  · exact h
  · exact ⟨(h.append .collectorAtLock nofun).inLoop, h.closes, h.ctx_lt⟩
  · refine ⟨h.inLoop, fun k hk => ?_, h.ctx_lt⟩
    show k < w.stop + 1
    rcases List.mem_append.mp hk with hk | hk
    · exact Nat.lt_succ_of_lt (h.closes k hk)
    · have := List.mem_singleton.mp hk
      omega

theorem Inv.exitLoop {w : PoolStatsWorld} (h : w.Inv) {g : Nat}
    (hg : w.goroutines[g]? = some .collectorInLoop) : (w.exitLoop g).Inv where
  inLoop i := by
    simp only [PoolStatsWorld.exitLoop, getElem?_set_eq_some_of_ne
      (nofun : PoolGoroutine.collectorReturned ≠ .collectorInLoop), h.inLoop, (h.inLoop g).mp hg,
      Option.some.injEq]
    exact ⟨fun ⟨hi, hgi⟩ => absurd hgi.symm hi, nofun⟩
  closes := h.closes
  ctx_lt := h.ctx_lt

/-- Every step keeps `Inv`. -/
theorem Inv.step {w w' : PoolStatsWorld} (h : w.Inv) {a : PoolStatsStep}
    (hs : w.step a = some w') : w'.Inv := by
  cases a with
  | setDBMetricsEnable enable =>
    cases hs
    exact h.append _ nofun
  | lock g =>
    simp only [PoolStatsWorld.step] at hs
    split at hs
    · -- a setter takes the free mutex, runs its body and returns
      rename_i enable hfree hg
      cases hs
      apply Inv.setBody
      refine ⟨fun i => ?_, h.closes, h.ctx_lt⟩
      simp only [getElem?_set_eq_some_of_ne
        (nofun : PoolGoroutine.setter enable true ≠ .collectorInLoop), h.inLoop, hfree]
      exact ⟨And.right, nofun⟩
    · -- a collector takes the free mutex and enters its loop
      rename_i hfree hg
      cases hs
      refine ⟨fun i => ?_, h.closes, h.ctx_lt⟩
      have hlt : g < w.goroutines.length := (List.getElem?_eq_some_iff.mp hg).1
      simp only [getElem?_set_eq_some_self hlt, h.inLoop, hfree]
      simp [eq_comm]
    · cases hs
  | tick g | stopped g | ctxDone g =>
    simp only [PoolStatsWorld.step] at hs
    split at hs
    · rename_i hg
      split_ifs at hs <;> cases hs
      all_goals first | exact h | exact h.exitLoop hg
    · cases hs
  | cancel k =>
    cases hs
    exact ⟨h.inLoop, h.closes, by simpa [Contexts.cancel] using h.ctx_lt⟩
  | withContext =>
    cases hs
    exact ⟨h.inLoop, h.closes, by simp [Contexts.withTimeout]⟩

/-- Every world a schedule reaches from `New` keeps `Inv`. -/
theorem inv_run {enablePoolStats : Bool} {steps : List PoolStatsStep} {w : PoolStatsWorld}
    (h : (newPoolStats enablePoolStats).run steps = some w) : w.Inv :=
  runSteps_inv Inv (fun _ _ _ hi hs => hi.step hs) steps (inv_newPoolStats enablePoolStats) h

/-! ## A collector in its loop -/

/-- The worlds that a collector in its loop lets through from `w₀`: `w₀` with setters started,
each still at its `Lock()`, other contexts cancelled, and `db.ctx` the same and still not
done. -/
structure Waiting (w₀ w : PoolStatsWorld) : Prop where
  goroutines : ∃ waiting, w.goroutines = w₀.goroutines ++ waiting ∧
    ∀ x ∈ waiting, ∃ enable, x = .setter enable false
  holder : w.holder = w₀.holder
  enabled : w.enabled = w₀.enabled
  stop : w.stop = w₀.stop
  closes : w.closes = w₀.closes
  ctx : w.ctx = w₀.ctx
  contexts_length : w.contexts.length = w₀.contexts.length
  ctxLive : w.contexts.done w₀.ctx = false

/-- While a collector holds the mutex with the statistics on, the current channel open and
`db.ctx` not done, every step but one that cancels `db.ctx` or replaces it keeps the world
`Waiting`: a setter may start, a tick finds the statistics on, another context may be cancelled,
and nothing else is enabled. -/
theorem Waiting.step {w₀ w w' : PoolStatsWorld} (hw : Waiting w₀ w) {c : Nat}
    (hc : w₀.holder = some c) (hon : w₀.enabled = true) (hstop : w₀.stop ∉ w₀.closes)
    {a : PoolStatsStep} (ha : a ≠ .cancel w₀.ctx ∧ a ≠ .withContext)
    (hs : w.step a = some w') : Waiting w₀ w' := by
  obtain ⟨⟨waiting, hgs, hwaiting⟩, hholder, henabled, hstop', hcloses, hctx, hlen, hlive⟩ := hw
  cases a with
  | setDBMetricsEnable enable =>
    cases hs
    refine ⟨⟨waiting ++ [.setter enable false], by simp [hgs], fun x hx => ?_⟩, hholder,
      henabled, hstop', hcloses, hctx, hlen, hlive⟩
    rcases List.mem_append.mp hx with hx | hx
    · exact hwaiting x hx
    · exact ⟨enable, List.mem_singleton.mp hx⟩
  | lock g => simp [PoolStatsWorld.step, hholder, hc] at hs
  | tick g =>
    simp only [PoolStatsWorld.step, henabled, hon, if_true] at hs
    split at hs
    · cases hs
      exact ⟨⟨waiting, hgs, hwaiting⟩, hholder, henabled, hstop', hcloses, hctx, hlen, hlive⟩
    · cases hs
  | stopped g | ctxDone g =>
    simp only [PoolStatsWorld.step, hstop', hcloses, hstop, hctx, hlive, if_false,
      Bool.false_eq_true] at hs
    split at hs <;> cases hs
  | cancel k =>
    cases hs
    have hk : k ≠ w₀.ctx := fun h => ha.1 (h ▸ rfl)
    refine ⟨⟨waiting, hgs, hwaiting⟩, hholder, henabled, hstop', hcloses, hctx,
      by simpa [Contexts.cancel] using hlen, ?_⟩
    simp only [Contexts.done, Contexts.cancel, getD_set, hk, false_and, if_false]
    exact hlive
  | withContext => exact absurd rfl ha.2

/-- Once a collector holds the mutex with the statistics on and `db.ctx` not done, in a world
reached from `New`, every schedule that neither cancels `db.ctx` nor replaces it leaves the
mutex with the collector and returns no `SetDBMetricsEnable` call that had not returned already;
cancelling `db.ctx` then lets the collector leave its loop and free the mutex. -/
theorem setDBMetricsEnable_blocksWhileCollecting {enablePoolStats : Bool}
    {pre : List PoolStatsStep} {w : PoolStatsWorld}
    (hpre : (newPoolStats enablePoolStats).run pre = some w) {c : Nat} (hc : w.holder = some c)
    (hon : w.enabled = true) (hlive : w.contexts.done w.ctx = false) {steps : List PoolStatsStep}
    (hsteps : ∀ a ∈ steps, a ≠ .cancel w.ctx ∧ a ≠ .withContext) {w' : PoolStatsWorld}
    (hrun : w.run steps = some w') :
    w'.holder = some c ∧
      (∀ (i : Nat) (enable : Bool), w'.goroutines[i]? = some (.setter enable true) →
        w.goroutines[i]? = some (.setter enable true)) ∧
      ∃ w'', w'.run [.cancel w.ctx, .ctxDone c] = some w'' ∧ w''.holder = none := by
  have hinv := inv_run hpre
  have hstop : w.stop ∉ w.closes := fun h => Nat.lt_irrefl _ (hinv.closes _ h)
  obtain ⟨⟨waiting, hgs, hwaiting⟩, hholder, -, -, -, hctx, hlen, -⟩ :=
    runSteps_inv_of_forall (fun a => a ≠ .cancel w.ctx ∧ a ≠ .withContext) (Waiting w)
      (fun _ _ _ ha hs h => Waiting.step hs hc hon hstop ha h) steps hsteps
      ⟨⟨[], by simp, by simp⟩, rfl, rfl, rfl, rfl, rfl, rfl, hlive⟩ hrun
  have hloop : w'.goroutines[c]? = some .collectorInLoop := by
    have hg := (hinv.inLoop c).mpr hc
    rwa [hgs, List.getElem?_append_left (List.getElem?_eq_some_iff.mp hg).1]
  have hdone : (w'.contexts.cancel w.ctx).done w'.ctx = true := by
    rw [hctx, Contexts.done, Contexts.cancel, getD_set, if_pos ⟨rfl, hlen ▸ hinv.ctx_lt⟩]
  refine ⟨hholder.trans hc, fun i enable hi => ?_,
    { w' with contexts := w'.contexts.cancel w.ctx }.exitLoop c, ?_, rfl⟩
  · rw [hgs, List.getElem?_append] at hi
    split at hi
    · exact hi
    · obtain ⟨e, he⟩ := hwaiting _ (List.mem_iff_getElem?.mpr ⟨_, hi⟩)
      cases he
  · simp only [PoolStatsWorld.run, runSteps, PoolStatsWorld.step, Option.some_bind, hloop, hdone,
      if_true]

/-- From `New` with `EnablePoolStats`: `newMySQL`'s deferred `cancel` runs, `WithContext` gives
the DB a caller's context, and the collector takes the mutex; then a
`SetDBMetricsEnable(false)` call, `Close`'s `db.cancel()` and a tick leave the call at its
`Lock()`. -/
theorem setDBMetricsEnable_blocksWhileCollecting_afterWithContext :
    let w : PoolStatsWorld := ⟨[.collectorInLoop], some 0, true, 0, [], [true, false], 1, 0⟩
    let w' : PoolStatsWorld :=
      ⟨[.collectorInLoop, .setter false false], some 0, true, 0, [], [true, false], 1, 0⟩
    let steps : List PoolStatsStep := [.setDBMetricsEnable false, .cancel w.cancelCtx, .tick 0]
    ((newPoolStats true).run [.cancel 0, .withContext, .lock 0] = some w ∧ w.holder = some 0 ∧
      w.enabled = true ∧ w.contexts.done w.ctx = false ∧
      (∀ a ∈ steps, a ≠ .cancel w.ctx ∧ a ≠ .withContext) ∧ w.run steps = some w') ∧
    (w'.holder = some 0 ∧
      (∀ (i : Nat) (enable : Bool), w'.goroutines[i]? = some (.setter enable true) →
        w.goroutines[i]? = some (.setter enable true)) ∧
      ∃ w'', w'.run [.cancel w.ctx, .ctxDone 0] = some w'' ∧ w''.holder = none) :=
  ⟨⟨rfl, rfl, rfl, rfl, by decide, rfl⟩,
    @setDBMetricsEnable_blocksWhileCollecting true [.cancel 0, .withContext, .lock 0] _ rfl 0 rfl
      rfl rfl [.setDBMetricsEnable false, .cancel 0, .tick 0] (by decide) _ rfl⟩

end PoolStatsWorld

end Xlorm
