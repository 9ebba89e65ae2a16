import Xlorm.Metrics.Pipeline

/-!
# What the metrics say (`dbMetrics` and `asyncDBMetrics`, read off their calls)

`dbMetrics` is a summary of the calls made on it. This module states that summary as a function
of the calls alone: the calls since the last `ResetDBMetrics` (`sinceReset`), the durations they
file under each type, in order (`durationsOf`), and how many of each kind they hold.
`DBMetrics.Holds m log` says that the aggregator `m` holds exactly what `log` says.

`asyncDBMetrics` hands the closures to the aggregator through its ring buffer. The closures of a
schedule are its `record` steps, in order (`recorded`), and the `i`-th of them is the one with
identity `i`. Besides `Inv` the pipeline keeps a ghost invariant, `Tracks`. Every closure in a
slot of the backing slice, or in the consumer's hands, carries the op of its call. The
aggregator is the ops of the applied calls, applied in order. `Dequeue` does not clear the slot
it reads, so the invariant speaks of every slot, live or stale.

**The law** (`dbMetrics_refines_log`, `asyncDBMetrics_appliesRecorded`): after every sequence of
calls the aggregator holds what the calls since the last reset say, and `GetDBMetrics` reports,
for exactly the types with a duration since the reset, their count and total time from them.
After every schedule of the pipeline, the aggregator is the synchronous one over a subsequence of
the recorded closures, kept in call order. At a drained quiescent point with no drop counted,
that subsequence is all of them.
-/

namespace Xlorm

/-- The type `RecordQueryDuration` files a duration under: the empty type is `"unknown"`. -/
def recordedType (queryType : String) : String := if queryType = "" then "unknown" else queryType

namespace MetricsCall

/-- One call on the log of the calls since the last reset: a reset forgets the log. -/
def logStep (log : List MetricsCall) : MetricsCall → List MetricsCall
  | .op o => log ++ [.op o]
  | .affectedRows rows => log ++ [.affectedRows rows]
  | .reset => []

/-- The calls the aggregator answers for after `calls`: those since the last reset. -/
def sinceReset (calls : List MetricsCall) : List MetricsCall := calls.foldl logStep []

/-- The durations a log files under the type `k`, in call order. -/
def durationsOf (k : String) (log : List MetricsCall) : List Duration :=
  log.filterMap fun
    | .op (.queryDuration queryType duration) =>
      if recordedType queryType = k then some duration else none
    | _ => none

/-- The `RecordQueryDuration` calls of a log. -/
def queryCount (log : List MetricsCall) : Nat :=
  log.countP fun
    | .op (.queryDuration _ _) => true
    | _ => false

/-- The `RecordError` calls of a log. -/
def errorCount (log : List MetricsCall) : Nat :=
  log.countP fun
    | .op .error => true
    | _ => false

/-- The `RecordSlowQuery` calls of a log. -/
def slowCount (log : List MetricsCall) : Nat :=
  log.countP fun
    | .op .slowQuery => true
    | _ => false

/-- The rows of a log's `RecordAffectedRows` calls, summed as `int64`s. -/
def affectedRowsOf (log : List MetricsCall) : BitVec 64 :=
  (log.filterMap fun
    | .affectedRows rows => some rows
    | _ => none).foldl (· + ·) 0

end MetricsCall

open MetricsCall

/-- The aggregator holds what a log says: under each type the durations the log files there (no
entry when there are none), and as counters the log's queries, errors and slow queries and the
sum of its rows, as `int64`s. -/
structure DBMetrics.Holds (m : DBMetrics) (log : List MetricsCall) : Prop where
  lookup : ∀ k, m.queryDurations.lookup k =
    if durationsOf k log = [] then none else some (durationsOf k log)
  totalQueries : m.totalQueries = BitVec.ofNat 64 (queryCount log)
  errors : m.errors = BitVec.ofNat 64 (errorCount log)
  slowQueries : m.slowQueries = BitVec.ofNat 64 (slowCount log)
  affectedRows : m.affectedRows = affectedRowsOf log

/-! ## The log's summaries, one call at a time -/

@[simp] theorem durationsOf_append (k : String) (l l' : List MetricsCall) :
    durationsOf k (l ++ l') = durationsOf k l ++ durationsOf k l' :=
  List.filterMap_append _ _ _

@[simp] theorem queryCount_append (l l' : List MetricsCall) :
    queryCount (l ++ l') = queryCount l + queryCount l' :=
  List.countP_append _ _ _

@[simp] theorem errorCount_append (l l' : List MetricsCall) :
    errorCount (l ++ l') = errorCount l + errorCount l' :=
  List.countP_append _ _ _

@[simp] theorem slowCount_append (l l' : List MetricsCall) :
    slowCount (l ++ l') = slowCount l + slowCount l' :=
  List.countP_append _ _ _

@[simp] theorem affectedRowsOf_snoc_op (l : List MetricsCall) (o : MetricOp) :
    affectedRowsOf (l ++ [.op o]) = affectedRowsOf l := by
  simp [affectedRowsOf]

@[simp] theorem affectedRowsOf_snoc_affectedRows (l : List MetricsCall) (rows : BitVec 64) :
    affectedRowsOf (l ++ [.affectedRows rows]) = affectedRowsOf l + rows := by
  simp [affectedRowsOf]

theorem durationsOf_queryDuration (k queryType : String) (duration : Duration) :
    durationsOf k [.op (.queryDuration queryType duration)] =
      if recordedType queryType = k then [duration] else [] := by
  unfold durationsOf
  split_ifs <;> simp [*]

theorem durationsOf_error (k : String) : durationsOf k [.op .error] = [] := rfl

theorem durationsOf_slowQuery (k : String) : durationsOf k [.op .slowQuery] = [] := rfl

theorem durationsOf_affectedRows (k : String) (rows : BitVec 64) :
    durationsOf k [.affectedRows rows] = [] := rfl

namespace DBMetrics

/-- `RecordQueryDuration` appends the duration to the list of its recorded type and to no other. -/
theorem lookup_recordQueryDuration (m : DBMetrics) (queryType : String) (duration : Duration)
    (k : String) : (m.recordQueryDuration queryType duration).queryDurations.lookup k =
      if recordedType queryType = k then some ((m.queryDurations.lookup k).getD [] ++ [duration])
      else m.queryDurations.lookup k := by
  show (m.queryDurations.insert (recordedType queryType)
    (match m.queryDurations.lookup (recordedType queryType) with
      | some durations => durations ++ [duration]
      | none => [duration])).lookup k = _
  generalize recordedType queryType = r
  by_cases hk : r = k
  · subst hk
    rw [AList.lookup_insert, if_pos rfl]
    cases m.queryDurations.lookup r <;> rfl
  · rw [AList.lookup_insert_ne (Ne.symm hk), if_neg hk]

theorem holds_newDBMetrics (dbname : String) : (newDBMetrics dbname).Holds [] :=
  ⟨fun k => AList.lookup_empty k, rfl, rfl, rfl, rfl⟩

theorem holds_resetDBMetrics (m : DBMetrics) : m.resetDBMetrics.Holds [] :=
  ⟨fun k => AList.lookup_empty k, rfl, rfl, rfl, rfl⟩

/-- A counter one past what a log counts counts the log with one more call. -/
theorem ofNat_succ (x : Nat) : BitVec.ofNat 64 x + 1 = BitVec.ofNat 64 (x + 1) :=
  (BitVec.ofNat_add x 1).symm

/-- Every call keeps the aggregator holding the log, the call logged. -/
theorem Holds.apply {m : DBMetrics} {log : List MetricsCall} (h : m.Holds log) :
    ∀ c : MetricsCall, (c.apply m).Holds (logStep log c)
  | .op (.queryDuration queryType duration) => by
    refine ⟨fun k => ?_, ?_, ?_, ?_, ?_⟩ <;> simp only [logStep, durationsOf_append,
      queryCount_append, errorCount_append, slowCount_append, affectedRowsOf_snoc_op,
      affectedRowsOf_snoc_affectedRows]
    · rw [MetricsCall.apply, MetricOp.apply, lookup_recordQueryDuration, h.lookup,
        durationsOf_queryDuration]
      by_cases hk : recordedType queryType = k
      · by_cases hd : durationsOf k log = [] <;> simp [hk, hd]
      · simp [hk]
    · show m.totalQueries + 1 = _
      rw [h.totalQueries, ofNat_succ]
      rfl
    · exact h.errors
    · exact h.slowQueries
    · exact h.affectedRows
  | .op .error => by
    refine ⟨fun k => ?_, ?_, ?_, ?_, ?_⟩ <;> simp only [logStep, durationsOf_append,
      queryCount_append, errorCount_append, slowCount_append, affectedRowsOf_snoc_op,
      affectedRowsOf_snoc_affectedRows]
    · rw [durationsOf_error, List.append_nil]
      exact h.lookup k
    · exact h.totalQueries
    · show m.errors + 1 = _
      rw [h.errors, ofNat_succ]
      rfl
    · exact h.slowQueries
    · exact h.affectedRows
  | .op .slowQuery => by
    refine ⟨fun k => ?_, ?_, ?_, ?_, ?_⟩ <;> simp only [logStep, durationsOf_append,
      queryCount_append, errorCount_append, slowCount_append, affectedRowsOf_snoc_op,
      affectedRowsOf_snoc_affectedRows]
    · rw [durationsOf_slowQuery, List.append_nil]
      exact h.lookup k
    · exact h.totalQueries
    · exact h.errors
    · show m.slowQueries + 1 = _
      rw [h.slowQueries, ofNat_succ]
      rfl
    · exact h.affectedRows
  | .affectedRows rows => by
    refine ⟨fun k => ?_, ?_, ?_, ?_, ?_⟩ <;> simp only [logStep, durationsOf_append,
      queryCount_append, errorCount_append, slowCount_append, affectedRowsOf_snoc_op,
      affectedRowsOf_snoc_affectedRows]
    · rw [durationsOf_affectedRows, List.append_nil]
      exact h.lookup k
    · exact h.totalQueries
    · exact h.errors
    · exact h.slowQueries
    · exact congrArg (· + rows) h.affectedRows
  | .reset => holds_resetDBMetrics m

theorem Holds.foldl : ∀ (calls : List MetricsCall) {m : DBMetrics} {log : List MetricsCall},
    m.Holds log → (calls.foldl MetricsCall.apply m).Holds (calls.foldl logStep log)
  | [], _, _, h => h
  | c :: calls, _, _, h => Holds.foldl calls (h.apply c)

end DBMetrics

/-- Where the `Range` of `GetDBMetrics` does not panic, its statistics are those of the entries,
one per entry. -/
theorem rangeQueryStats_mem : ∀ {l : List (Sigma fun _ : String => List Duration)}
    {stats : List (String × QueryStat)}, rangeQueryStats l = some stats →
      ∀ k s, (k, s) ∈ stats ↔ ∃ durations, ⟨k, durations⟩ ∈ l ∧ queryStat durations = some s
  | [], _, h, k, s => by cases h; simp
  | ⟨k', durations'⟩ :: rest, stats, h, k, s => by
    obtain ⟨s', hs', hrest⟩ := Option.bind_eq_some.mp h
    obtain ⟨st, hst, rfl⟩ := Option.map_eq_some'.mp hrest
    rw [List.mem_cons, rangeQueryStats_mem hst k s, Prod.mk.injEq]
    constructor
    · rintro (⟨rfl, rfl⟩ | ⟨ds, hds, hq⟩)
      · exact ⟨durations', List.mem_cons_self _ _, hs'⟩
      · exact ⟨ds, List.mem_cons_of_mem _ hds, hq⟩
    · rintro ⟨ds, hds, hq⟩
      rcases List.mem_cons.mp hds with he | hds
      · obtain ⟨rfl, h'⟩ := Sigma.mk.inj_iff.mp he
        cases eq_of_heq h'
        exact Or.inl ⟨rfl, Option.some_injective _ (hq.symm.trans hs')⟩
      · exact Or.inr ⟨ds, hds, hq⟩

/-- The statistics of a non-empty list of durations: its length and its wrapped sum. -/
theorem queryStat_of_ne_nil {durations : List Duration} (h : durations ≠ []) :
    ∃ s, queryStat durations = some s ∧ s.count = durations.length ∧
      s.totalTime = durations.foldl (· + ·) 0 := by
  simp [queryStat, h]

/-- After every sequence of calls on `dbMetrics` (recordings of any type, the empty one included,
errors, slow queries, affected rows and resets, in any order), the aggregator holds what the calls
since the last reset say: under each type the durations filed there in call order, and counters
that count those calls as `int64`s. `GetDBMetrics` does not panic and reports, for each type with
a duration since the reset and for no other, their count and their wrapped sum. -/
theorem dbMetrics_refines_log (dbname : String) (calls : List MetricsCall) :
    let m : DBMetrics := calls.foldl MetricsCall.apply (DBMetrics.newDBMetrics dbname)
    let log := sinceReset calls
    m.Holds log ∧ ∃ r, m.getDBMetrics = some r ∧
      (∀ k s, (k, s) ∈ r.queryStats → durationsOf k log ≠ [] ∧
        s.count = (durationsOf k log).length ∧ s.totalTime = (durationsOf k log).foldl (· + ·) 0) ∧
      ∀ k, durationsOf k log ≠ [] → ∃ s, (k, s) ∈ r.queryStats := by
  intro m log
  have h : m.Holds log := DBMetrics.Holds.foldl calls (DBMetrics.holds_newDBMetrics dbname)
  have hentry : ∀ k durations, ⟨k, durations⟩ ∈ m.queryDurations.entries →
      durations = durationsOf k log ∧ durations ≠ [] := by
    intro k durations he
    have hl : m.queryDurations.lookup k = some durations := AList.mem_lookup_iff.mpr he
    rw [h.lookup] at hl
    by_cases hd : durationsOf k log = []
    · rw [if_pos hd] at hl
      cases hl
    · rw [if_neg hd, Option.some.injEq] at hl
      exact ⟨hl.symm, hl ▸ hd⟩
  obtain ⟨stats, hstats, -⟩ := rangeQueryStats_of_nonempty m.queryDurations.entries
    fun e he => (hentry e.1 e.2 he).2
  refine ⟨h, _, by rw [DBMetrics.getDBMetrics, hstats]; rfl, fun k s hs => ?_, fun k hk => ?_⟩
  · obtain ⟨durations, he, hq⟩ := (rangeQueryStats_mem hstats k s).mp hs
    obtain ⟨rfl, hne⟩ := hentry k durations he
    obtain ⟨s', hs', hcount, htotal⟩ := queryStat_of_ne_nil hne
    cases hq.symm.trans hs'
    exact ⟨hne, hcount, htotal⟩
  · obtain ⟨s, hs, -⟩ := queryStat_of_ne_nil hk
    have hl : m.queryDurations.lookup k = some (durationsOf k log) := by rw [h.lookup, if_neg hk]
    exact ⟨s, (rangeQueryStats_mem hstats k s).mpr ⟨_, AList.mem_lookup_iff.mp hl, hs⟩⟩

/-! ## The pipeline applies the recorded closures in call order -/

/-- The ops of the closures a schedule hands to `recordMetric`, in call order. -/
def recorded (steps : List MetricsStep) : List MetricOp :=
  steps.filterMap fun
    | .record o => some o
    | _ => none

theorem recorded_append (steps steps' : List MetricsStep) :
    recorded (steps ++ steps') = recorded steps ++ recorded steps' :=
  List.filterMap_append _ _ _

/-- An entry of a log is an entry of every longer log. -/
theorem getElem?_append_of_eq_some {α : Type} {l : List α} {i : Nat} {a : α} (l' : List α)
    (h : l[i]? = some a) : (l ++ l')[i]? = some a := by
  obtain ⟨hi, -⟩ := List.getElem?_eq_some_iff.mp h
  rw [List.getElem?_append_left hi, h]

/-- Reading every identity of a log in turn gives the log back. -/
theorem filterMap_getElem?_range {α : Type} : ∀ l : List α,
    (List.range l.length).filterMap (fun i => l[i]?) = l
  | [] => rfl
  | a :: l => by
    rw [List.length_cons, List.range_succ_eq_map, List.filterMap_cons, List.getElem?_cons_zero,
      List.filterMap_map]
    simp only [Function.comp_def, List.getElem?_cons_succ]
    exact congrArg (a :: ·) (filterMap_getElem?_range l)

/-- A slot read by `getD` with the nil default, holding a closure, is a slot of the slice. -/
theorem mem_of_getD_eq_some {l : List (Option Closure)} {i : Nat} {c : Closure}
    (h : l.getD i none = some c) : some c ∈ l := by
  rw [List.getD_eq_getElem?_getD, Option.getD_eq_iff] at h
  rcases h with h | ⟨-, h⟩
  · exact List.getElem?_mem h
  · cases h

namespace AsyncDBMetrics

/-- The ghost invariant against the log of the recorded ops: there is one call per entry; every
closure in a slot of the backing slice or in the consumer's hands carries the op its call
recorded; the applied calls are calls of the log; and the aggregator is their ops applied in
order to `m₀`. -/
structure Tracks (m₀ : DBMetrics) (log : List MetricOp) (s : AsyncDBMetrics) : Prop where
  calls : s.calls = log.length
  slots : ∀ c, some c ∈ s.buffer.buffer → log[c.id]? = some c.op
  held : ∀ c, s.consumer = .applying (some c) → log[c.id]? = some c.op
  applied_lt : ∀ i ∈ s.applied, i < log.length
  dbMetrics : s.dbMetrics =
    ((s.applied.filterMap fun i => log[i]?).map MetricsCall.op).foldl MetricsCall.apply m₀

theorem tracks_newAsyncDBMetrics (dbname : String) (bufferSize : Int) :
    (newAsyncDBMetrics dbname bufferSize).Tracks (DBMetrics.newDBMetrics dbname) [] := by
  refine ⟨rfl, fun c hc => ?_, nofun, nofun, rfl⟩
  simp [newAsyncDBMetrics, newRingBuffer] at hc

section Tracks

variable {m₀ : DBMetrics} {log : List MetricOp} {s s' : AsyncDBMetrics}

theorem tracks_record (h : s.Tracks m₀ log) {op : MetricOp} (hs : s.step (.record op) = some s') :
    s'.Tracks m₀ (log ++ [op]) := by
  simp only [step, Option.some.injEq] at hs
  subst hs
  have hbuf : (s.buffer.enqueue (some ⟨s.calls, op⟩)).1.buffer =
      s.buffer.buffer.set s.buffer.tail (some ⟨s.calls, op⟩) := by
    unfold RingBuffer.enqueue
    split <;> rfl
  refine ⟨by simp [h.calls], fun c hc => ?_, fun c hc => getElem?_append_of_eq_some _ (h.held c hc),
    fun i hi => by simpa using Nat.lt_succ_of_lt (h.applied_lt i hi), ?_⟩
  · rw [hbuf] at hc
    rcases List.mem_or_eq_of_mem_set hc with hc | hc
    · exact getElem?_append_of_eq_some _ (h.slots c hc)
    · cases hc
      simp [h.calls]
  · rw [h.dbMetrics, List.filterMap_congr fun i hi => List.getElem?_append_left (h.applied_lt i hi)]

theorem tracks_dequeue (h : s.Tracks m₀ log) (hs : s.step .dequeue = some s') : s'.Tracks m₀ log := by
  have hpoll : s.consumer = .polling := by
    cases hc : s.consumer <;> simp [step, hc] at hs ⊢
  simp only [step, hpoll, Option.some.injEq] at hs
  subst hs
  have hbuf : s.buffer.dequeue.1.buffer = s.buffer.buffer := by
    unfold RingBuffer.dequeue
    split <;> rfl
  refine ⟨h.calls, fun c hc => h.slots c (hbuf ▸ hc), fun c hc => h.slots c ?_, h.applied_lt,
    h.dbMetrics⟩
  dsimp only at hc
  unfold RingBuffer.dequeue at hc
  split at hc
  · cases hc
  · simp only [if_true, Consumer.applying.injEq] at hc
    exact mem_of_getD_eq_some hc

theorem tracks_apply (h : s.Tracks m₀ log) (hs : s.step .apply = some s') : s'.Tracks m₀ log := by
  obtain ⟨c, hc⟩ : ∃ c, s.consumer = .applying (some c) := by
    cases hc : s.consumer with
    | applying f =>
      cases f with
      | none => simp [step, hc] at hs
      | some c => exact ⟨c, rfl⟩
    | _ => simp [step, hc] at hs
  simp only [step, hc, Option.some.injEq] at hs
  subst hs
  have hop := h.held c hc
  refine ⟨h.calls, h.slots, nofun, fun i hi => ?_, ?_⟩ <;> dsimp only at *
  · rcases List.mem_append.mp hi with hi | hi
    · exact h.applied_lt i hi
    · obtain ⟨hlt, -⟩ := List.getElem?_eq_some_iff.mp hop
      rw [List.mem_singleton.mp hi]
      exact hlt
  · rw [List.filterMap_append, List.map_append, List.foldl_append, ← h.dbMetrics]
    simp [hop, MetricsCall.apply]

/-- A step that leaves the calls, the buffer's slice, the applied calls and the aggregator alone,
and puts the consumer in no `applying` state it was not in, keeps the invariant. -/
theorem Tracks.frame (h : s.Tracks m₀ log) (hcalls : s'.calls = s.calls)
    (hbuf : s'.buffer.buffer = s.buffer.buffer)
    (hheld : ∀ c, s'.consumer = .applying (some c) → s.consumer = .applying (some c))
    (happ : s'.applied = s.applied) (hm : s'.dbMetrics = s.dbMetrics) : s'.Tracks m₀ log :=
  ⟨hcalls.trans h.calls, fun c hc => h.slots c (hbuf ▸ hc), fun c hc => h.held c (hheld c hc),
    happ ▸ h.applied_lt, by rw [hm, happ, h.dbMetrics]⟩

/-- Every step keeps the invariant, against the log with the step's own op, if any, appended. -/
theorem Tracks.step (h : s.Tracks m₀ log) {a : MetricsStep} (hs : s.step a = some s') :
    s'.Tracks m₀ (log ++ recorded [a]) := by
  cases a with
  | record op => simpa [recorded] using tracks_record h hs
  | dequeue => simpa [recorded] using tracks_dequeue h hs
  | apply => simpa [recorded] using tracks_apply h hs
  | countDrop =>
    simp only [AsyncDBMetrics.step] at hs
    split at hs
    · cases hs
    · cases hs
      simp only [recorded, List.filterMap_cons, List.filterMap_nil, List.append_nil]
      exact h.frame rfl rfl (fun _ hc => hc) rfl rfl
  | select =>
    have hloop : s.consumer = .loop := by
      cases hc : s.consumer <;> simp [AsyncDBMetrics.step, hc] at hs ⊢
    simp only [AsyncDBMetrics.step, hloop, Option.some.injEq] at hs
    subst hs
    simp only [recorded, List.filterMap_cons, List.filterMap_nil, List.append_nil]
    exact h.frame rfl rfl (fun c hc => by split at hc <;> cases hc) rfl rfl
  | stopClose =>
    cases hst : s.stop <;> simp [AsyncDBMetrics.step, hst] at hs
    subst hs
    simp only [recorded, List.filterMap_cons, List.filterMap_nil, List.append_nil]
    exact h.frame rfl rfl (fun _ hc => hc) rfl rfl
  | stopReturn =>
    cases hst : s.stop <;> cases hc : s.consumer <;> simp [AsyncDBMetrics.step, hst, hc] at hs
    subst hs
    simp only [recorded, List.filterMap_cons, List.filterMap_nil, List.append_nil]
    exact h.frame rfl rfl (fun _ hc => nomatch hc) rfl rfl

theorem Tracks.run : ∀ (steps : List MetricsStep) {log : List MetricOp} {s s' : AsyncDBMetrics},
    s.Tracks m₀ log → s.run steps = some s' → s'.Tracks m₀ (log ++ recorded steps)
  | [], _, _, _, h, hr => by cases hr; simpa [recorded] using h
  | a :: as, log, s, s', h, hr => by
    rw [run_cons] at hr
    obtain ⟨t, ht, hr'⟩ := Option.bind_eq_some.mp hr
    rw [← List.singleton_append, recorded_append, ← List.append_assoc]
    exact Tracks.run as (h.step ht) hr'

end Tracks

end AsyncDBMetrics

/-- The closures of one call go to the log of the calls since the last reset as they are. -/
theorem foldl_logStep_ops : ∀ (acc : List MetricsCall) (ops : List MetricOp),
    (ops.map MetricsCall.op).foldl logStep acc = acc ++ ops.map MetricsCall.op
  | acc, [] => (List.append_nil acc).symm
  | acc, o :: ops => by
    rw [List.map_cons, List.foldl_cons, logStep, foldl_logStep_ops, List.append_assoc]
    rfl

/-- The aggregator over a list of closures, from a fresh one, holds that list. -/
theorem holds_foldl_ops (dbname : String) (ops : List MetricOp) :
    ((ops.map MetricsCall.op).foldl MetricsCall.apply (DBMetrics.newDBMetrics dbname)).Holds
      (ops.map MetricsCall.op) := by
  simpa only [foldl_logStep_ops, List.nil_append] using
    DBMetrics.Holds.foldl (ops.map MetricsCall.op) (DBMetrics.holds_newDBMetrics dbname)

/-- What a schedule leaves in the aggregator: the synchronous one over a subsequence of the
recorded closures, and over every one of them at a quiescent, drained point without drops. -/
theorem AsyncDBMetrics.run_applies (dbname : String) (bufferSize : Int)
    (steps : List MetricsStep) {s : AsyncDBMetrics}
    (hrun : (newAsyncDBMetrics dbname bufferSize).run steps = some s) :
    ∃ applied : List MetricOp, applied.Sublist (recorded steps) ∧
      s.dbMetrics = (applied.map MetricsCall.op).foldl MetricsCall.apply
        (DBMetrics.newDBMetrics dbname) ∧
      (s.Quiescent → s.buffer.count = 0 → s.droppedMetrics = 0 →
        (recorded steps).length < 2 ^ 64 → applied = recorded steps) := by
  have hinv := AsyncDBMetrics.run_inv steps (AsyncDBMetrics.newAsyncDBMetrics_inv dbname bufferSize)
    hrun
  have ht := (AsyncDBMetrics.tracks_newAsyncDBMetrics dbname bufferSize).run steps hrun
  rw [List.nil_append] at ht
  have hsub : s.applied.Sublist (List.range s.calls) :=
    ((List.sublist_append_left _ _).trans (List.sublist_append_left _ _)).trans hinv.in_order
  refine ⟨s.applied.filterMap fun i => (recorded steps)[i]?, ?_, ht.dbMetrics,
    fun hq h0 hd hlt => ?_⟩
  · have := hsub.filterMap fun i => (recorded steps)[i]?
    rwa [ht.calls, filterMap_getElem?_range] at this
  · obtain ⟨d, hdrop, hcalls⟩ := AsyncDBMetrics.calls_of_quiescent hinv hq
    rw [hd] at hdrop
    have hc := ht.calls
    have hd0 : d = 0 := by
      rw [Nat.mod_eq_of_lt (by omega : d < 2 ^ 64)] at hdrop
      exact hdrop.symm
    have happ : s.applied = List.range s.calls :=
      hsub.eq_of_length (by rw [List.length_range]; omega)
    rw [happ, ht.calls, filterMap_getElem?_range]

/-- After every schedule of the pipeline from `newAsyncDBMetrics` (producers' `recordMetric`
calls, the consumer's loop and `Stop`, interleaved in any order), the aggregator is the
synchronous one, from a fresh `dbMetrics`, over a subsequence of the recorded closures kept in
call order. At a quiescent point where the buffer is empty and `droppedMetrics` reads 0, and
fewer than `2 ^ 64` closures were recorded, that subsequence is every recorded closure. -/
theorem asyncDBMetrics_appliesRecorded (dbname : String) (bufferSize : Int)
    (steps : List MetricsStep) {s : AsyncDBMetrics}
    (hrun : (newAsyncDBMetrics dbname bufferSize).run steps = some s) :
    ∃ applied : List MetricOp, applied.Sublist (recorded steps) ∧
      s.dbMetrics = (applied.map MetricsCall.op).foldl MetricsCall.apply
        (DBMetrics.newDBMetrics dbname) ∧
      s.dbMetrics.Holds (applied.map MetricsCall.op) ∧
      (s.Quiescent → s.buffer.count = 0 → s.droppedMetrics = 0 →
        (recorded steps).length < 2 ^ 64 →
          applied = recorded steps ∧ s.dbMetrics.Holds ((recorded steps).map MetricsCall.op)) := by
  obtain ⟨applied, hsub, hm, hdrain⟩ := AsyncDBMetrics.run_applies dbname bufferSize steps hrun
  have hholds : s.dbMetrics.Holds (applied.map MetricsCall.op) := hm ▸ holds_foldl_ops dbname _
  exact ⟨applied, hsub, hm, hholds, fun hq h0 hd hlt =>
    have happ := hdrain hq h0 hd hlt
    ⟨happ, happ ▸ hholds⟩⟩

/-- `asyncDBMetrics_appliesRecorded` on a schedule of two recordings, both applied. -/
theorem asyncDBMetrics_appliesRecorded_drained :
    let steps : List MetricsStep :=
      [.record .error, .record .slowQuery, .select, .dequeue, .apply, .select, .dequeue, .apply]
    ∃ s : AsyncDBMetrics, (newAsyncDBMetrics "master" 2).run steps = some s ∧
      ∃ applied : List MetricOp, applied.Sublist (recorded steps) ∧
        s.dbMetrics = (applied.map MetricsCall.op).foldl MetricsCall.apply
          (DBMetrics.newDBMetrics "master") ∧
        s.dbMetrics.Holds (applied.map MetricsCall.op) ∧
        (s.Quiescent → s.buffer.count = 0 → s.droppedMetrics = 0 →
          (recorded steps).length < 2 ^ 64 →
            applied = recorded steps ∧ s.dbMetrics.Holds ((recorded steps).map MetricsCall.op)) :=
  ⟨_, rfl, asyncDBMetrics_appliesRecorded "master" 2 _ rfl⟩

end Xlorm
