import Xlorm.Metrics.RingBuffer
import Xlorm.Metrics.Aggregator

/-!
# The asynchronous metrics pipeline (`metrics.go`, `asyncDBMetrics`)

Producers call `recordMetric` through `RecordQueryDuration`, `RecordError` and
`RecordSlowQuery`; each call enqueues a fresh closure into the ring buffer and, if `Enqueue`
answered `false`, increments `droppedMetrics`. The two are separate steps: the increment runs
after the buffer's lock is released, so other goroutines can run between them. One consumer,
started by `start`, loops: a `select` that returns once `stopChan` is closed, otherwise a
`Dequeue` and, on success, a call of the closure. `Stop` closes `stopChan` and waits for the
consumer to return.

The state below holds every goroutine's program counter: the consumer's, `Stop`'s, and the
number of producers between a failed `Enqueue` and their increment. A schedule is a list of
`MetricsStep`s, and `AsyncDBMetrics.step` refuses a step its goroutine cannot take. Two
fields are bookkeeping that Go does not store: `calls`, the number of `recordMetric` calls
made, which is also the identity given to each call's closure, and `applied`, the identities of
the closures the consumer has run, in order.

**The law** (`asyncDBMetrics_accounting`): after every schedule, at every quiescent point (no
producer between its two steps, no consumer iteration under way) the calls are the applied
closures plus the buffered ones plus `droppedMetrics`, modulo `2 ^ 64`, and exactly so while
fewer than `2 ^ 64` closures were dropped; no closure is applied twice; and once `Stop` has
returned no schedule applies another closure. `droppedMetrics` is an `atomic.Uint64`, and
`droppedMetrics_wraps` is the schedule that shows the bound is needed.
-/

namespace Xlorm

/-- A closure handed to `recordMetric`. Go allocates a fresh func value per call; `id`, the
serial number of the call, is that value's identity. -/
structure Closure where
  id : Nat
  op : MetricOp
  deriving Repr, DecidableEq

/-- Where the consumer goroutine of `start` stands. `applying none` would be a call of a nil
func; `AsyncDBMetrics.Inv` shows it never happens. -/
inductive Consumer where
  | loop
  | polling
  | applying (metricFunc : Option Closure)
  | exited
  deriving Repr, DecidableEq

/-- How far `Stop` has got: not called, `stopChan` closed and waiting, returned. -/
inductive StopPhase where
  | notCalled
  | waiting
  | returned
  deriving Repr, DecidableEq

/-- `asyncDBMetrics` with its goroutines' program counters. The buffer holds Go func values;
`none` is the nil func the slots start as. -/
structure AsyncDBMetrics where
  buffer : RingBuffer (Option Closure)
  stopClosed : Bool
  dbMetrics : DBMetrics
  droppedMetrics : BitVec 64
  consumer : Consumer
  stop : StopPhase
  pendingDrops : Nat
  calls : Nat
  applied : List Nat

/-- `newAsyncDBMetrics`: a non-positive size means 1000; the consumer starts at its loop. -/
def newAsyncDBMetrics (dbname : String) (bufferSize : Int) : AsyncDBMetrics :=
  let bufferSize := if bufferSize ≤ 0 then 1000 else bufferSize
  { buffer := newRingBuffer bufferSize.toNat, stopClosed := false,
    dbMetrics := DBMetrics.newDBMetrics dbname, droppedMetrics := 0, consumer := .loop,
    stop := .notCalled, pendingDrops := 0, calls := 0, applied := [] }

/-- One atomic step of one goroutine. -/
inductive MetricsStep where
  /-- A producer's `recordMetric`, up to and including its `Enqueue`. -/
  | record (op : MetricOp)
  /-- A producer whose `Enqueue` failed runs `droppedMetrics.Add(1)`. -/
  | countDrop
  /-- The consumer's `select` on `stopChan`. -/
  | select
  /-- The consumer's `Dequeue`. -/
  | dequeue
  /-- The consumer calls the closure it dequeued. -/
  | apply
  /-- `Stop` closes `stopChan`. -/
  | stopClose
  /-- `Stop`'s `wg.Wait` returns. -/
  | stopReturn
  deriving Repr, DecidableEq

namespace AsyncDBMetrics

/-- The step a schedule takes next, or `none` if its goroutine cannot take it. -/
def step (s : AsyncDBMetrics) : MetricsStep → Option AsyncDBMetrics
  | .record op =>
    let r := s.buffer.enqueue (some ⟨s.calls, op⟩)
    some { s with buffer := r.1, calls := s.calls + 1,
                  pendingDrops := if r.2 then s.pendingDrops else s.pendingDrops + 1 }
  | .countDrop =>
    if s.pendingDrops = 0 then none
    else some { s with droppedMetrics := s.droppedMetrics + 1, pendingDrops := s.pendingDrops - 1 }
  | .select =>
    match s.consumer with
    | .loop => some { s with consumer := if s.stopClosed then .exited else .polling }
    | _ => none
  | .dequeue =>
    match s.consumer with
    | .polling =>
      let r := s.buffer.dequeue
      some { s with buffer := r.1, consumer := if r.2.2 then .applying r.2.1 else .loop }
    | _ => none
  | .apply =>
    match s.consumer with
    | .applying (some c) =>
      some { s with dbMetrics := c.op.apply s.dbMetrics, applied := s.applied ++ [c.id],
                    consumer := .loop }
    | _ => none
  | .stopClose =>
    match s.stop with
    | .notCalled => some { s with stopClosed := true, stop := .waiting }
    | _ => none
  | .stopReturn =>
    match s.stop, s.consumer with
    | .waiting, .exited => some { s with stop := .returned }
    | _, _ => none

/-- Run a schedule; `none` if some step of it cannot be taken. -/
def run (s : AsyncDBMetrics) : List MetricsStep → Option AsyncDBMetrics
  | [] => some s
  | a :: as => (s.step a).bind (·.run as)

@[simp] theorem run_nil (s : AsyncDBMetrics) : s.run [] = some s := rfl

theorem run_cons (s : AsyncDBMetrics) (a : MetricsStep) (as : List MetricsStep) :
    s.run (a :: as) = (s.step a).bind (·.run as) := rfl

theorem run_append (s : AsyncDBMetrics) (as bs : List MetricsStep) :
    s.run (as ++ bs) = (s.run as).bind (·.run bs) := by
  induction as generalizing s with
  | nil => rfl
  | cons a as ih =>
    simp only [List.cons_append, run_cons, ih]
    cases s.step a <;> rfl

/-- No producer is between its `Enqueue` and its increment, and the consumer is not inside
an iteration. -/
def Quiescent (s : AsyncDBMetrics) : Prop :=
  s.pendingDrops = 0 ∧ (s.consumer = .loop ∨ s.consumer = .exited)

end AsyncDBMetrics

/-- The closure the consumer holds between `Dequeue` and its call. -/
def Consumer.held : Consumer → List Nat
  | .applying (some c) => [c.id]
  | _ => []

/-- The identities of the closures in a list of buffer slots. -/
def closureIds (l : List (Option Closure)) : List Nat :=
  l.filterMap fun f => f.map Closure.id

@[simp] theorem closureIds_append (l l' : List (Option Closure)) :
    closureIds (l ++ l') = closureIds l ++ closureIds l' := by
  simp [closureIds]

@[simp] theorem closureIds_some (c : Closure) : closureIds [some c] = [c.id] := rfl

@[simp] theorem closureIds_cons_some (c : Closure) (l : List (Option Closure)) :
    closureIds (some c :: l) = c.id :: closureIds l := rfl

theorem closureIds_tail {l : List (Option Closure)} (h : none ∉ l) :
    closureIds l.tail = (closureIds l).tail := by
  match l, h with
  | [], _ => rfl
  | some _ :: _, _ => rfl
  | none :: _, h => exact absurd (List.mem_cons_self _ _) h

namespace AsyncDBMetrics

/-- The pipeline invariant. Every buffered slot holds a closure; the applied, held and
buffered closures are distinct calls in call order; every call is applied, held, buffered,
waiting for its drop to be counted, or counted in `droppedMetrics` (a wrapping counter of `d`
drops); and a returned `Stop` has seen the consumer exit. -/
structure Inv (s : AsyncDBMetrics) : Prop where
  buffer_inv : s.buffer.Inv
  no_nil : none ∉ s.buffer.view
  no_nil_call : s.consumer ≠ .applying none
  in_order : (s.applied ++ s.consumer.held ++ closureIds s.buffer.view).Sublist (List.range s.calls)
  accounted : ∃ d, s.droppedMetrics = BitVec.ofNat 64 d ∧
    s.calls = s.applied.length + s.consumer.held.length + s.buffer.count + s.pendingDrops + d
  exited_of_returned : s.stop = .returned → s.consumer = .exited

theorem newAsyncDBMetrics_inv (dbname : String) (bufferSize : Int) :
    (newAsyncDBMetrics dbname bufferSize).Inv := by
  have hsize : 1 ≤ (if bufferSize ≤ 0 then (1000 : Int) else bufferSize).toNat := by
    split <;> omega
  refine ⟨(newRingBuffer_abstracts hsize).1, ?_, by simp [newAsyncDBMetrics],
    by simp [newAsyncDBMetrics, Consumer.held, closureIds, RingBuffer.view, newRingBuffer],
    ⟨0, rfl, by simp [newAsyncDBMetrics, Consumer.held, newRingBuffer]⟩,
    by simp [newAsyncDBMetrics]⟩
  simp [newAsyncDBMetrics, RingBuffer.view, newRingBuffer]

/-! ## One step at a time -/

theorem inv_record {s s' : AsyncDBMetrics} (h : s.Inv) {op : MetricOp}
    (hs : s.step (.record op) = some s') : s'.Inv := by
  simp only [step, Option.some.injEq] at hs
  subst hs
  obtain ⟨hb, hnil, hcall, hord, ⟨d, hd, hcount⟩, hret⟩ := h
  have hle := hb.count_le
  rcases Nat.lt_or_ge s.buffer.count s.buffer.size with hlt | hge
  · -- room: the closure is appended
    have hview := RingBuffer.view_enqueue_of_lt hb (some ⟨s.calls, op⟩) hlt
    have hne : s.buffer.count ≠ s.buffer.size := Nat.ne_of_lt hlt
    refine ⟨RingBuffer.enqueue_inv hb _, ?_, hcall, ?_, ⟨d, hd, ?_⟩, hret⟩ <;> dsimp only
    · simp [hview, hnil]
    · rw [hview, closureIds_append, closureIds_some, List.range_succ, ← List.append_assoc]
      exact hord.append (List.Sublist.refl _)
    · simp only [RingBuffer.enqueue, hne, if_false, if_true]
      omega
  · -- full: the oldest closure is overwritten
    have hfull : s.buffer.count = s.buffer.size := by omega
    have hview := RingBuffer.view_enqueue_of_full hb (some ⟨s.calls, op⟩) hfull
    have hnil' : none ∉ s.buffer.view ++ [some ⟨s.calls, op⟩] := by simp [hnil]
    refine ⟨RingBuffer.enqueue_inv hb _, ?_, hcall, ?_, ⟨d, hd, ?_⟩, hret⟩ <;> dsimp only
    · rw [hview]
      exact fun hmem => hnil' (List.mem_of_mem_tail hmem)
    · rw [hview, closureIds_tail hnil', closureIds_append, closureIds_some, List.range_succ]
      have := (List.tail_sublist (closureIds s.buffer.view ++ [s.calls])).append_left
        (s.applied ++ s.consumer.held)
      exact this.trans (by rw [← List.append_assoc]; exact hord.append (List.Sublist.refl _))
    · simp only [RingBuffer.enqueue, hfull, if_true, Bool.false_eq_true, if_false]
      omega

theorem inv_countDrop {s s' : AsyncDBMetrics} (h : s.Inv)
    (hs : s.step .countDrop = some s') : s'.Inv := by
  simp only [step] at hs
  split at hs
  · cases hs
  · next hpos =>
    cases hs
    obtain ⟨hb, hnil, hcall, hord, ⟨d, hd, hcount⟩, hret⟩ := h
    refine ⟨hb, hnil, hcall, hord, ⟨d + 1, ?_, ?_⟩, hret⟩ <;> dsimp only
    · rw [hd, BitVec.ofNat_add]
      rfl
    · omega

theorem inv_select {s s' : AsyncDBMetrics} (h : s.Inv)
    (hs : s.step .select = some s') : s'.Inv := by
  obtain ⟨hb, hnil, hcall, hord, hacc, hret⟩ := h
  have hloop : s.consumer = .loop := by
    cases hc : s.consumer <;> simp [step, hc] at hs ⊢
  simp only [step, hloop, Option.some.injEq] at hs
  subst hs
  rw [hloop] at hord hacc
  have hheld : (if s.stopClosed then Consumer.exited else .polling).held = [] := by
    split <;> rfl
  refine ⟨hb, hnil, by split <;> simp, ?_, ?_, fun hr => absurd (hret hr) (by simp [hloop])⟩ <;>
    dsimp only <;> rw [hheld]
  · exact hord
  · exact hacc

theorem inv_dequeue {s s' : AsyncDBMetrics} (h : s.Inv)
    (hs : s.step .dequeue = some s') : s'.Inv := by
  obtain ⟨hb, hnil, hcall, hord, ⟨d, hd, hcount⟩, hret⟩ := h
  have hpoll : s.consumer = .polling := by
    cases hc : s.consumer <;> simp [step, hc] at hs ⊢
  simp only [step, hpoll, Option.some.injEq] at hs
  subst hs
  rw [hpoll] at hord hcount
  have hret' : s.stop ≠ .returned := fun hr => by simp [hpoll] at hret; exact hret hr
  by_cases h0 : s.buffer.count = 0
  · -- empty: `Dequeue` answers `(nil, false)` and the consumer sleeps
    have hdq : s.buffer.dequeue = (s.buffer, (none, false)) := by simp [RingBuffer.dequeue, h0]; rfl
    simp only [hdq]
    exact ⟨hb, hnil, by simp, hord, ⟨d, hd, hcount⟩, fun hr => absurd hr hret'⟩
  · -- the head slot holds a closure, which the consumer now holds
    have hview := RingBuffer.view_of_dequeue hb h0
    obtain ⟨c, hc⟩ : ∃ c, s.buffer.buffer.getD s.buffer.head default = some c :=
      Option.ne_none_iff_exists'.mp fun hn => hnil (by rw [hview, hn]; exact List.mem_cons_self _ _)
    have hdq : s.buffer.dequeue.2 = (some c, true) := by
      simp only [RingBuffer.dequeue, h0, if_false, hc]
    have hcnt : s.buffer.dequeue.1.count = s.buffer.count - 1 := by simp [RingBuffer.dequeue, h0]
    rw [hview, hc] at hnil hord
    refine ⟨RingBuffer.dequeue_inv hb, ?_, ?_, ?_, ⟨d, hd, ?_⟩, fun hr => absurd hr hret'⟩ <;>
      dsimp only <;> (try simp only [hdq, if_true])
    · exact fun hm => hnil (List.mem_cons_of_mem _ hm)
    · simp
    · simpa [Consumer.held] using hord
    · simp only [Consumer.held, List.length_singleton, List.length_nil, hcnt] at hcount ⊢
      omega

theorem inv_apply {s s' : AsyncDBMetrics} (h : s.Inv)
    (hs : s.step .apply = some s') : s'.Inv := by
  obtain ⟨hb, hnil, hcall, hord, ⟨d, hd, hcount⟩, hret⟩ := h
  obtain ⟨c, hc⟩ : ∃ c, s.consumer = .applying (some c) := by
    cases hc : s.consumer with
    | applying f =>
      cases f with
      | none => simp [step, hc] at hs
      | some c => exact ⟨c, rfl⟩
    | _ => simp [step, hc] at hs
  simp only [step, hc, Option.some.injEq] at hs
  subst hs
  rw [hc] at hord hcount
  refine ⟨hb, hnil, by simp, ?_, ⟨d, hd, ?_⟩, fun hr => absurd (hret hr) (by simp [hc])⟩ <;>
    dsimp only
  · simpa [Consumer.held] using hord
  · simp only [Consumer.held, List.length_append, List.length_singleton, List.length_nil] at hcount ⊢
    omega

theorem inv_stopClose {s s' : AsyncDBMetrics} (h : s.Inv)
    (hs : s.step .stopClose = some s') : s'.Inv := by
  obtain ⟨hb, hnil, hcall, hord, hacc, -⟩ := h
  have hnc : s.stop = .notCalled := by
    cases hc : s.stop <;> simp [step, hc] at hs ⊢
  simp only [step, hnc, Option.some.injEq] at hs
  subst hs
  exact ⟨hb, hnil, hcall, hord, hacc, fun hr => by cases hr⟩

theorem inv_stopReturn {s s' : AsyncDBMetrics} (h : s.Inv)
    (hs : s.step .stopReturn = some s') : s'.Inv := by
  obtain ⟨hb, hnil, hcall, hord, hacc, -⟩ := h
  have hw : s.stop = .waiting ∧ s.consumer = .exited := by
    cases hc : s.stop <;> cases hc' : s.consumer <;> simp [step, hc, hc'] at hs ⊢
  simp only [step, hw.1, hw.2, Option.some.injEq] at hs
  subst hs
  rw [hw.2] at hord hacc
  exact ⟨hb, hnil, by simp, hord, hacc, fun _ => rfl⟩

theorem step_inv {s s' : AsyncDBMetrics} (h : s.Inv) {a : MetricsStep}
    (hs : s.step a = some s') : s'.Inv := by
  cases a with
  | record op => exact inv_record h hs
  | countDrop => exact inv_countDrop h hs
  | select => exact inv_select h hs
  | dequeue => exact inv_dequeue h hs
  | apply => exact inv_apply h hs
  | stopClose => exact inv_stopClose h hs
  | stopReturn => exact inv_stopReturn h hs

theorem run_inv : ∀ (steps : List MetricsStep) {s s' : AsyncDBMetrics},
    s.Inv → s.run steps = some s' → s'.Inv
  | [], _, _, h, hr => by cases hr; exact h
  | a :: as, s, s', h, hr => by
    rw [run_cons] at hr
    obtain ⟨t, ht, hr'⟩ := Option.bind_eq_some.mp hr
    exact run_inv as (step_inv h ht) hr'

/-! ## After `Stop` returns -/

/-- An exited consumer stays exited, and no step applies a closure. -/
theorem step_of_exited {s s' : AsyncDBMetrics} (hc : s.consumer = .exited) {a : MetricsStep}
    (hs : s.step a = some s') : s'.consumer = .exited ∧ s'.applied = s.applied := by
  cases a with
  | record op =>
    simp only [step, Option.some.injEq] at hs
    subst hs
    exact ⟨hc, rfl⟩
  | countDrop =>
    simp only [step] at hs
    split at hs
    · cases hs
    · cases hs
      exact ⟨hc, rfl⟩
  | stopClose =>
    cases hst : s.stop <;> simp [step, hst] at hs
    subst hs
    exact ⟨hc, rfl⟩
  | stopReturn =>
    cases hst : s.stop <;> simp [step, hst, hc] at hs
    subst hs
    exact ⟨rfl, rfl⟩
  | select | dequeue | apply => simp [step, hc] at hs

theorem run_of_exited : ∀ (steps : List MetricsStep) {s s' : AsyncDBMetrics},
    s.consumer = .exited → s.run steps = some s' → s'.applied = s.applied
  | [], _, _, _, hr => by cases hr; rfl
  | a :: as, s, s', hc, hr => by
    rw [run_cons] at hr
    obtain ⟨t, ht, hr'⟩ := Option.bind_eq_some.mp hr
    obtain ⟨htc, hta⟩ := step_of_exited hc ht
    exact (run_of_exited as htc hr').trans hta

/-! ## The accounting -/

/-- At a quiescent point every call is applied, buffered, or one of the `d` drops
`droppedMetrics` has counted, modulo `2 ^ 64`. -/
theorem calls_of_quiescent {s : AsyncDBMetrics} (h : s.Inv) (hq : s.Quiescent) :
    ∃ d, s.droppedMetrics.toNat = d % 2 ^ 64 ∧ s.calls = s.applied.length + s.buffer.count + d := by
  obtain ⟨d, hd, hcount⟩ := h.accounted
  have hheld : s.consumer.held = [] := by rcases hq.2 with hc | hc <;> rw [hc] <;> rfl
  refine ⟨d, by rw [hd, BitVec.toNat_ofNat], ?_⟩
  rw [hheld, hq.1] at hcount
  simpa using hcount

end AsyncDBMetrics

/-- After every schedule: at a quiescent point the `recordMetric` calls are the applied plus
the buffered closures plus `droppedMetrics` modulo `2 ^ 64`, and exactly so while fewer than
`2 ^ 64` closures were dropped; no closure is applied twice; and once `Stop` has returned, no
continuation applies another closure. -/
theorem asyncDBMetrics_accounting (dbname : String) (bufferSize : Int) (steps : List MetricsStep)
    {s : AsyncDBMetrics} (hrun : (newAsyncDBMetrics dbname bufferSize).run steps = some s) :
    (s.Quiescent →
      s.calls % 2 ^ 64 = (s.applied.length + s.buffer.count + s.droppedMetrics.toNat) % 2 ^ 64 ∧
      (s.calls < s.applied.length + s.buffer.count + 2 ^ 64 →
        s.calls = s.applied.length + s.buffer.count + s.droppedMetrics.toNat)) ∧
    s.applied.Nodup ∧
    (s.stop = .returned → ∀ more s', s.run more = some s' → s'.applied = s.applied) := by
  have h := AsyncDBMetrics.run_inv steps (AsyncDBMetrics.newAsyncDBMetrics_inv dbname bufferSize) hrun
  refine ⟨fun hq => ?_, ?_, fun hr more _ hmore => AsyncDBMetrics.run_of_exited more
    (h.exited_of_returned hr) hmore⟩
  · obtain ⟨d, hd, hcalls⟩ := AsyncDBMetrics.calls_of_quiescent h hq
    rw [hd, hcalls]
    exact ⟨by omega, fun hlt => by rw [Nat.mod_eq_of_lt (by omega)]⟩
  · exact (((List.sublist_append_left _ _).trans (List.sublist_append_left _ _)).trans
      h.in_order).nodup (List.nodup_range _)

/-- A sample schedule: capacity 2, three calls, the third overwriting the first, one drop
counted and one closure applied; the equation holds exactly there. -/
theorem asyncDBMetrics_accounting_sample : ∃ s : AsyncDBMetrics,
    (newAsyncDBMetrics "master" 2).run [.record .error, .record .slowQuery, .record .error,
      .countDrop, .select, .dequeue, .apply] = some s ∧ s.Quiescent ∧
    s.calls = s.applied.length + s.buffer.count + s.droppedMetrics.toNat := by
  refine ⟨_, rfl, ⟨rfl, Or.inl rfl⟩, ?_⟩
  exact ((asyncDBMetrics_accounting "master" 2 [.record .error, .record .slowQuery, .record .error,
      .countDrop, .select, .dequeue, .apply] rfl).1 ⟨rfl, Or.inl rfl⟩).2 (by decide)

namespace AsyncDBMetrics

/-- On a full buffer, `k` producers that each enqueue and then count their drop add `k` calls
and `k` drops, and change nothing else the accounting reads. -/
theorem run_overwrites (op : MetricOp) : ∀ (k : Nat) (s : AsyncDBMetrics),
    s.buffer.count = s.buffer.size →
    ∃ s', s.run (List.replicate k [.record op, .countDrop]).flatten = some s' ∧
      s'.calls = s.calls + k ∧ s'.droppedMetrics = s.droppedMetrics + BitVec.ofNat 64 k ∧
      s'.applied = s.applied ∧ s'.buffer.count = s.buffer.count ∧
      s'.pendingDrops = s.pendingDrops ∧ s'.consumer = s.consumer
  | 0, s, _ => ⟨s, rfl, rfl, by simp, rfl, rfl, rfl, rfl⟩
  | k + 1, s, hfull => by
    have hcnt : (s.buffer.enqueue (some ⟨s.calls, op⟩)).1.count = s.buffer.count := by
      simp [RingBuffer.enqueue, hfull]
    have hsz : (s.buffer.enqueue (some ⟨s.calls, op⟩)).1.size = s.buffer.size := by
      simp [RingBuffer.enqueue, hfull]
    have hok : (s.buffer.enqueue (some ⟨s.calls, op⟩)).2 = false := by
      simp [RingBuffer.enqueue, hfull]
    obtain ⟨s', hrun, h1, h2, h3, h4, h5, h6⟩ := run_overwrites op k
      { s with buffer := (s.buffer.enqueue (some ⟨s.calls, op⟩)).1, calls := s.calls + 1,
               droppedMetrics := s.droppedMetrics + 1 } (by simp only [hcnt, hsz, hfull])
    dsimp only at h1 h2 h3 h4 h5 h6
    refine ⟨s', ?_, by rw [h1]; omega, ?_, h3, h4.trans hcnt, h5, h6⟩
    · rw [List.replicate_succ, List.flatten_cons, List.cons_append, List.cons_append, run_cons]
      simp only [step, hok, Bool.false_eq_true, if_false, Option.bind_some, run_cons,
        Nat.add_one_ne_zero, Nat.add_sub_cancel, List.nil_append]
      exact hrun
    · rw [h2, BitVec.ofNat_add]
      ac_rfl
end AsyncDBMetrics

/-- The exact equation fails: `droppedMetrics` is an `atomic.Uint64`. With capacity 1, one
call fills the buffer and `2 ^ 64` more calls each overwrite the oldest closure and count a
drop; at that quiescent point there were `2 ^ 64 + 1` calls, one buffered closure, none
applied, and `droppedMetrics` reads 0. -/
theorem droppedMetrics_wraps : ¬ ∀ (dbname : String) (bufferSize : Int) (steps : List MetricsStep)
    (s : AsyncDBMetrics), (newAsyncDBMetrics dbname bufferSize).run steps = some s → s.Quiescent →
      s.calls = s.applied.length + s.buffer.count + s.droppedMetrics.toNat := by
  intro H
  obtain ⟨s₁, hs₁, hfull, hloop, hpend₁, hcalls₁, hdrop₁, happ₁, hcnt₁⟩ :
      ∃ s₁, (newAsyncDBMetrics "master" 1).step (.record .error) = some s₁ ∧
        s₁.buffer.count = s₁.buffer.size ∧ s₁.consumer = .loop ∧ s₁.pendingDrops = 0 ∧
        s₁.calls = 1 ∧ s₁.droppedMetrics = 0 ∧ s₁.applied = [] ∧ s₁.buffer.count = 1 :=
    ⟨_, rfl, rfl, rfl, rfl, rfl, rfl, rfl, rfl⟩
  obtain ⟨s', hrun, hcalls, hdrop, happ, hcnt, hpend, hcons⟩ :=
    AsyncDBMetrics.run_overwrites .error (2 ^ 64) s₁ hfull
  have := H "master" 1 (.record .error :: (List.replicate (2 ^ 64) [.record .error, .countDrop]).flatten)
    s' (by rw [AsyncDBMetrics.run_cons, hs₁, Option.some_bind]; exact hrun)
    ⟨hpend.trans hpend₁, Or.inl (hcons.trans hloop)⟩
  rw [hcalls, hdrop, happ, hcnt, hcalls₁, hdrop₁, happ₁, hcnt₁] at this
  simp at this

end Xlorm
