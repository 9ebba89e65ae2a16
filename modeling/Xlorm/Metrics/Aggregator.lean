import Mathlib.Data.List.AList
import Mathlib.Algebra.Order.Ring.Nat

/-!
# The metrics aggregator (`metrics.go`, `dbMetrics`)

`dbMetrics` keeps a per-operation list of durations in a `sync.Map` and four `atomic.Int64`
counters. The asynchronous pipeline hands it closures made by `RecordQueryDuration`,
`RecordError` and `RecordSlowQuery`; one consumer applies them.

The counters are two's-complement 64-bit words, so they are `BitVec 64` and an `Add` wraps as
Go's does. `time.Duration` is an `int64` of nanoseconds, a `BitVec 64` too. The `sync.Map` is
an association list: `Store` replaces the entry of its key, and the order `Range` visits
entries in is not fixed, which the list order does not pretend to fix either.

`GetDBMetrics` divides each type's total time by its count, so it panics on an empty list.
`RecordAffectedRows` and `ResetDBMetrics` are called on `dbMetrics` directly, the others
through the pipeline's closures; the law is about the single consumer applying any of them.

**The law** (`getDBMetrics_countsAddUp`): along every sequence of calls, every list the map
holds is non-empty and `totalQueries` counts their durations, so the report never divides by
zero and its per-type counts add up to its `total_queries`.
-/

namespace Xlorm

/-- `time.Duration`: a signed 64-bit count of nanoseconds. -/
abbrev Duration := BitVec 64

/-- `dbMetrics`. -/
structure DBMetrics where
  dbname : String
  queryDurations : AList (fun _ : String => List Duration)
  affectedRows : BitVec 64
  totalQueries : BitVec 64
  slowQueries : BitVec 64
  errors : BitVec 64

namespace DBMetrics

/-- `newDBMetrics`: an empty map and zero counters. -/
def newDBMetrics (dbname : String) : DBMetrics :=
  ⟨dbname, ∅, 0, 0, 0, 0⟩

/-- `RecordQueryDuration`: count the query and append its duration to the list of its type;
the empty type is recorded as `"unknown"`. -/
def recordQueryDuration (m : DBMetrics) (queryType : String) (duration : Duration) : DBMetrics :=
  let queryType := if queryType = "" then "unknown" else queryType
  let durs := match m.queryDurations.lookup queryType with
    | some durations => durations ++ [duration]
    | none => [duration]
  { m with totalQueries := m.totalQueries + 1,
           queryDurations := m.queryDurations.insert queryType durs }

/-- `RecordAffectedRows`. -/
def recordAffectedRows (m : DBMetrics) (rows : BitVec 64) : DBMetrics :=
  { m with affectedRows := m.affectedRows + rows }

/-- `RecordError`. -/
def recordError (m : DBMetrics) : DBMetrics :=
  { m with errors := m.errors + 1 }

/-- `RecordSlowQuery`. -/
def recordSlowQuery (m : DBMetrics) : DBMetrics :=
  { m with slowQueries := m.slowQueries + 1 }

/-- `ResetDBMetrics`: a fresh map and zero counters. -/
def resetDBMetrics (m : DBMetrics) : DBMetrics :=
  { m with queryDurations := ∅, affectedRows := 0, totalQueries := 0, slowQueries := 0,
           errors := 0 }

end DBMetrics

/-- The body of a closure the asynchronous wrappers hand to `recordMetric`: which
`dbMetrics` method it calls, with the arguments it captured. -/
inductive MetricOp where
  | queryDuration (queryType : String) (duration : Duration)
  | error
  | slowQuery
  deriving Repr, DecidableEq

/-- Running a closure on the aggregator. -/
def MetricOp.apply : MetricOp → DBMetrics → DBMetrics
  | .queryDuration queryType duration, m => m.recordQueryDuration queryType duration
  | .error, m => m.recordError
  | .slowQuery, m => m.recordSlowQuery

/-! ## The single consumer's calls, and the report -/

/-- A call the single consumer makes on the aggregator: a closure of the pipeline, or one of the
methods called on `dbMetrics` directly. -/
inductive MetricsCall where
  | op (op : MetricOp)
  | affectedRows (rows : BitVec 64)
  | reset

/-- Running a call on the aggregator. -/
def MetricsCall.apply (m : DBMetrics) : MetricsCall → DBMetrics
  | .op o => o.apply m
  | .affectedRows rows => m.recordAffectedRows rows
  | .reset => m.resetDBMetrics

/-- What `GetDBMetrics` reports for one query type. -/
structure QueryStat where
  count : Nat
  totalTime : Duration
  averageTime : Duration

/-- The statistics of one list of durations: their wrapped `int64` sum, and that sum divided by
`time.Duration(len(durations))` with Go's truncating `int64` division; `none` where the division
panics. The length of a Go slice is an `int` below `2^63`, so as a `Duration` it is zero only
for an empty slice. -/
def queryStat (durations : List Duration) : Option QueryStat :=
  if durations.isEmpty then none
  else
    let total := durations.foldl (· + ·) 0
    some ⟨durations.length, total, total.sdiv (BitVec.ofNat 64 durations.length)⟩

/-- The `Range` over `queryDurations`, entry by entry, up to the first panic. -/
def rangeQueryStats : List (Sigma fun _ : String => List Duration) → Option (List (String × QueryStat))
  | [] => some []
  | ⟨queryType, durations⟩ :: rest =>
    (queryStat durations).bind fun s => (rangeQueryStats rest).map ((queryType, s) :: ·)

/-- The map `GetDBMetrics` builds. -/
structure MetricsReport where
  dbName : String
  queryStats : List (String × QueryStat)
  totalAffectedRows : BitVec 64
  totalQueries : BitVec 64
  slowQueries : BitVec 64
  totalErrors : BitVec 64

/-- `GetDBMetrics`; `none` where it panics. -/
def DBMetrics.getDBMetrics (m : DBMetrics) : Option MetricsReport :=
  (rangeQueryStats m.queryDurations.entries).map fun stats =>
    ⟨m.dbname, stats, m.affectedRows, m.totalQueries, m.slowQueries, m.errors⟩

namespace DBMetrics

/-- The durations recorded, over every query type. -/
def recordedCount (m : DBMetrics) : Nat := (m.queryDurations.entries.map fun e => e.2.length).sum

/-- The invariant of the aggregator: no query type holds an empty list, and `totalQueries` is the
number of durations recorded, as an `int64`. -/
structure Inv (m : DBMetrics) : Prop where
  nonempty : ∀ e ∈ m.queryDurations.entries, e.2 ≠ []
  totalQueries : m.totalQueries = BitVec.ofNat 64 m.recordedCount

/-- Erasing a key takes its list out of the count. -/
theorem sum_kerase (k : String) : ∀ l : List (Sigma fun _ : String => List Duration),
    (l.map fun e => e.2.length).sum =
      ((l.dlookup k).map List.length).getD 0 + ((l.kerase k).map fun e => e.2.length).sum
  | [] => rfl
  | ⟨a, b⟩ :: l => by
    by_cases h : k = a
    · subst h
      simp [List.dlookup_cons_eq, List.kerase_cons_eq]
    · simp only [List.dlookup_cons_ne l ⟨a, b⟩ h, List.kerase_cons_ne (β := fun _ => List Duration) (s := ⟨a, b⟩) h,
        List.map_cons, List.sum_cons, sum_kerase k l]
      omega

theorem newDBMetrics_inv (dbname : String) : (newDBMetrics dbname).Inv :=
  ⟨nofun, rfl⟩

/-- Storing a non-empty list under a key, one duration longer than what the key held, while
counting one query more, keeps the invariant. -/
theorem Inv.insert {m : DBMetrics} (h : m.Inv) (k : String) (durs : List Duration)
    (hne : durs ≠ []) (hlen : durs.length = ((m.queryDurations.lookup k).map List.length).getD 0 + 1) :
    ({ m with totalQueries := m.totalQueries + 1,
              queryDurations := m.queryDurations.insert k durs } : DBMetrics).Inv := by
  have hsucc : ∀ x : Nat, BitVec.ofNat 64 x + 1 = BitVec.ofNat 64 (x + 1) :=
    fun x => (BitVec.ofNat_add x 1).symm
  refine ⟨?_, ?_⟩
  · simp only [AList.insert_entries, List.mem_cons]
    rintro e (rfl | he)
    · exact hne
    · exact h.nonempty e ((List.kerase_sublist _ _).subset he)
  · simp only [recordedCount, AList.insert_entries, List.map_cons, List.sum_cons]
    rw [h.totalQueries, recordedCount, sum_kerase k, hlen, hsucc, Nat.add_right_comm]
    rfl

/-- A recorded duration lands in a non-empty list and is counted once. -/
theorem Inv.recordQueryDuration {m : DBMetrics} (h : m.Inv) (queryType : String)
    (duration : Duration) : (m.recordQueryDuration queryType duration).Inv := by
  unfold DBMetrics.recordQueryDuration
  generalize (if queryType = "" then "unknown" else queryType) = k
  dsimp only
  cases hk : m.queryDurations.lookup k with
  | none => exact h.insert k [duration] (List.cons_ne_nil _ _) (by simp [hk])
  | some old => exact h.insert k (old ++ [duration]) (by simp) (by simp [hk])

/-- Every call of the single consumer keeps the invariant. -/
theorem Inv.apply {m : DBMetrics} (h : m.Inv) : ∀ c : MetricsCall, (c.apply m).Inv
  | .op (.queryDuration queryType duration) => h.recordQueryDuration queryType duration
  | .op .error => ⟨h.nonempty, h.totalQueries⟩
  | .op .slowQuery => ⟨h.nonempty, h.totalQueries⟩
  | .affectedRows _ => ⟨h.nonempty, h.totalQueries⟩
  | .reset => ⟨nofun, rfl⟩

end DBMetrics

/-- Over lists that are all non-empty the `Range` does not panic: one statistic per list, counting
its durations, its average its total divided by its count. -/
theorem rangeQueryStats_of_nonempty : ∀ l : List (Sigma fun _ : String => List Duration),
    (∀ e ∈ l, e.2 ≠ []) → ∃ stats, rangeQueryStats l = some stats ∧
      stats.map (·.2.count) = l.map (·.2.length) ∧
      ∀ s ∈ stats, 1 ≤ s.2.count ∧ s.2.averageTime = s.2.totalTime.sdiv (BitVec.ofNat 64 s.2.count)
  | [], _ => ⟨[], rfl, rfl, nofun⟩
  | ⟨queryType, durations⟩ :: rest, h => by
    obtain ⟨stats, hrest, hcount, havg⟩ :=
      rangeQueryStats_of_nonempty rest fun e he => h e (List.mem_cons_of_mem _ he)
    have hne : durations ≠ [] := h _ (List.mem_cons_self _ _)
    refine ⟨(queryType, ⟨durations.length, durations.foldl (· + ·) 0,
      (durations.foldl (· + ·) 0).sdiv (BitVec.ofNat 64 durations.length)⟩) :: stats,
      by simp [rangeQueryStats, queryStat, hne, hrest], by simp [hcount], fun s hs => ?_⟩
    rcases List.mem_cons.mp hs with rfl | hs
    · exact ⟨List.length_pos.mpr hne, rfl⟩
    · exact havg s hs

/-- For every sequence of calls of the single consumer, recordings of any type (the empty one
included), errors, slow queries, affected rows and resets in any order: every list of
`queryDurations` is non-empty and `totalQueries` counts them all, so `GetDBMetrics` does not
panic, its per-type counts add up to `total_queries`, and each `average_time` is that type's
`total_time` divided by its count. -/
theorem getDBMetrics_countsAddUp (dbname : String) (calls : List MetricsCall) :
    let m := calls.foldl MetricsCall.apply (DBMetrics.newDBMetrics dbname)
    (∀ e ∈ m.queryDurations.entries, e.2 ≠ []) ∧ m.totalQueries = BitVec.ofNat 64 m.recordedCount ∧
    ∃ r, m.getDBMetrics = some r ∧
      r.totalQueries = BitVec.ofNat 64 (r.queryStats.map (·.2.count)).sum ∧
      ∀ s ∈ r.queryStats,
        1 ≤ s.2.count ∧ s.2.averageTime = s.2.totalTime.sdiv (BitVec.ofNat 64 s.2.count) := by
  intro m
  have h : m.Inv := List.foldlRecOn (motive := DBMetrics.Inv) calls MetricsCall.apply _
    (DBMetrics.newDBMetrics_inv dbname) fun _ hm c _ => hm.apply c
  obtain ⟨stats, hstats, hcount, havg⟩ := rangeQueryStats_of_nonempty _ h.nonempty
  refine ⟨h.nonempty, h.totalQueries, _, by rw [DBMetrics.getDBMetrics, hstats]; rfl, ?_, havg⟩
  rw [h.totalQueries, DBMetrics.recordedCount, ← hcount]

end Xlorm
