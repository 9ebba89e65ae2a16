import Mathlib.Data.List.Basic
import Xlorm.Machine

/-!
# The asynchronous log pipeline (`asyncLogger`)

`NewAsyncLogger` starts one consumer, `process`, on a buffered channel. `Handle` reads the
handler's `closed` flag, then selects without blocking between a send on the channel, the
context's `Done` and a default that counts a drop and reports it on the error channel. `Close`
sets the flag, closes the channel, cancels the context and drains what is left in a goroutine
while `process` may still be consuming too; it returns once the drain sends on `done`, or with
its timeout error after five seconds, the drain running on. `WithAttrs` and `WithGroup` return a new `asyncLogger` that shares
the channel, the context and the wait group, with a `closed` flag and counters of its own and
no error channel.

Each goroutine is a program counter inside one state, and a schedule is a list of steps, each
enabled or not. A Go `select` with several ready cases may take any of them, so each case is a
step of its own, enabled when its case is ready; a default only when no case is. A step that
sends on a closed channel panics, and nothing runs after it. The base handler is the sink:
`delivered` lists the records passed to its `Handle`, in order, and `sent` is a ghost list of
the records sends put into the pipeline. The base handler's own errors are not modelled.

**The law** the pipeline is measured against: no step sends on a closed channel, and every
record a `Handle` sent reaches the base handler once, in the order of the sends.
-/

namespace Xlorm

/-- A log record, by the number a schedule gives it. -/
abbrev LogRecord := Nat

/-- The capacity of the error channel. -/
def errChCapacity : Nat := 100

/-- What one handler value owns: its `closed` flag, its two counters, and whether it holds the
root's error channel (a derived handler's is nil). -/
structure HandlerVars where
  closed : Bool
  dropped : BitVec 64
  total : BitVec 64
  hasErrCh : Bool
  deriving Repr, DecidableEq, Inhabited

/-- How a `Handle` call returns: the closed error, nil after a send, the context's error, or
nil after a drop. -/
inductive HandleResult where
  | closedError
  | ok
  | ctxError
  | dropped
  deriving Repr, DecidableEq

/-- Where a `Handle` call stands. -/
inductive HandlePc where
  | start
  | selecting
  | sent
  | dropping
  | reporting
  | returned (res : HandleResult)
  deriving Repr, DecidableEq

/-- A `Handle` call: the handler it was made on, its record, and where it stands. -/
structure HandleCall where
  handler : Nat
  record : LogRecord
  pc : HandlePc
  deriving Repr, DecidableEq

instance : Inhabited HandleCall := ⟨⟨0, 0, .returned .ok⟩⟩

/-- Where `process` stands: blocked in its `select`, holding a received record, or gone. -/
inductive ProcessPc where
  | waiting
  | handling (r : LogRecord)
  | exited
  deriving Repr, DecidableEq

/-- Where `Close` stands, its drain goroutine included. -/
inductive ClosePc where
  | idle
  | loading
  | swapping
  | closingCh
  | cancelling
  | draining
  | drainHandling (r : LogRecord)
  | waitingProcess
  | returned
  deriving Repr, DecidableEq

/-- `Close`'s drain goroutine has started and has not yet sent on `done`: `Close` is in its last
`select`, between `done` and `time.After(5 * time.Second)`. -/
@[simp] def ClosePc.awaitingDone : ClosePc → Bool
  | .draining | .drainHandling _ | .waitingProcess => true
  | _ => false

/-- `Close` has swapped the flag. -/
@[simp] def ClosePc.swapped : ClosePc → Bool
  | .idle | .loading | .swapping => false
  | _ => true

/-- `Close` has closed the channel. -/
@[simp] def ClosePc.chClosed : ClosePc → Bool
  | .idle | .loading | .swapping | .closingCh => false
  | _ => true

/-- The drain has found the channel empty. -/
@[simp] def ClosePc.drained : ClosePc → Bool
  | .waitingProcess | .returned => true
  | _ => false

/-- The pipeline: the handler values (the root first), the channel, the context, the error
channel's fill, the goroutines, and the sink. -/
structure LogPipeline where
  capacity : Nat
  handlers : List HandlerVars
  ch : List LogRecord
  chClosed : Bool
  ctxDone : Bool
  errCh : Nat
  errChClosed : Bool
  process : ProcessPc
  close : ClosePc
  timedOut : Bool
  calls : List HandleCall
  delivered : List LogRecord
  sent : List LogRecord
  panicked : Bool
  deriving Repr, DecidableEq

/-- `NewAsyncLogger`: the root handler, an empty channel of `bufferSize`, `process` started. -/
def newAsyncLogger (bufferSize : Nat) : LogPipeline :=
  ⟨bufferSize, [⟨false, 0, 0, true⟩], [], false, false, 0, false, .waiting, .idle, false, [], [],
    [], false⟩

/-- A step of one goroutine. -/
inductive LogStep where
  /-- `WithAttrs` or `WithGroup` on handler `h`. -/
  | derive (h : Nat)
  /-- A `Handle` call on handler `h` begins. -/
  | handle (h : Nat) (r : LogRecord)
  /-- Call `c` reads its handler's `closed` flag. -/
  | loadClosed (c : Nat)
  /-- Call `c` takes the send case of its `select`. -/
  | sendCase (c : Nat)
  /-- Call `c` takes the `ctx.Done()` case. -/
  | doneCase (c : Nat)
  /-- Call `c` takes the default. -/
  | defaultCase (c : Nat)
  /-- Call `c` runs `total.Add(1)`. -/
  | addTotal (c : Nat)
  /-- Call `c` runs `dropped.Add(1)`. -/
  | addDropped (c : Nat)
  /-- Call `c` runs its `select` on the error channel. -/
  | report (c : Nat)
  /-- `process` takes its receive case. -/
  | receive
  /-- `process` takes its `ctx.Done()` case. -/
  | processDone
  /-- `process` passes its record to the base handler. -/
  | processHandle
  /-- `Close` is called on the root. -/
  | close
  /-- `Close` reads the flag. -/
  | closeLoad
  /-- `Close` compares and swaps the flag. -/
  | closeSwap
  /-- `Close` closes the channel. -/
  | closeChannel
  /-- `Close` cancels the context and starts the drain. -/
  | closeCancel
  /-- The drain takes its receive case. -/
  | drainReceive
  /-- The drain passes its record to the base handler. -/
  | drainHandle
  /-- `Close` sees `process` gone and returns. -/
  | closeReturn
  /-- `Close`'s `select` takes `time.After(5 * time.Second)`: it returns the timeout error,
  and its drain goroutine runs on. -/
  | closeTimeout
  deriving Repr, DecidableEq

namespace LogPipeline

/-- The handler of a call. -/
def handlerOf (s : LogPipeline) (c : HandleCall) : HandlerVars := s.handlers.getD c.handler default

/-- Call `c` moves to `pc`. -/
def setPc (s : LogPipeline) (c : Nat) (pc : HandlePc) : LogPipeline :=
  { s with calls := s.calls.set c { s.calls.getD c default with pc := pc } }

/-- Handler `h` changed by `f`. -/
def modifyHandler (s : LogPipeline) (h : Nat) (f : HandlerVars → HandlerVars) : LogPipeline :=
  { s with handlers := s.handlers.set h (f (s.handlers.getD h default)) }

/-- `process` returns: its deferred `close(errCh)` and `wg.Done()`. -/
def processExit (s : LogPipeline) : LogPipeline :=
  { s with errChClosed := true, process := .exited }

/-- A send on a closed channel. -/
def panic (s : LogPipeline) : LogPipeline := { s with panicked := true }

/-- An unbuffered send meets `process` blocked in its `select`. -/
def rendezvous (s : LogPipeline) : Bool :=
  s.capacity = 0 && s.process = .waiting && !s.ctxDone

/-- The send case of call `c`'s `select`. -/
def sendStep (s : LogPipeline) (c : Nat) (r : LogRecord) : Option LogPipeline :=
  if s.chClosed then some s.panic
  else if s.ch.length < s.capacity then
    some ({ s with ch := s.ch ++ [r], sent := s.sent ++ [r] }.setPc c .sent)
  else if s.rendezvous then
    some ({ s with process := .handling r, sent := s.sent ++ [r] }.setPc c .sent)
  else none

/-- The error report of call `c`: a send on the root's error channel, or the default. -/
def reportStep (s : LogPipeline) (c : Nat) (h : HandlerVars) : LogPipeline :=
  if !h.hasErrCh then s.setPc c (.returned .dropped)
  else if s.errChClosed then s.panic
  else if s.errCh < errChCapacity then
    { s with errCh := s.errCh + 1 }.setPc c (.returned .dropped)
  else s.setPc c (.returned .dropped)

/-- One step of a pipeline that has not panicked, or `none` when it is not enabled. -/
def stepLive (s : LogPipeline) : LogStep → Option LogPipeline
  | .derive h =>
    if h < s.handlers.length then
      some { s with handlers := s.handlers ++ [⟨false, 0, 0, false⟩] }
    else none
  | .handle h r =>
    if h < s.handlers.length then some { s with calls := s.calls ++ [⟨h, r, .start⟩] } else none
  | .loadClosed c =>
    let call := s.calls.getD c default
    if c < s.calls.length ∧ call.pc = .start then
      some (s.setPc c (if (s.handlerOf call).closed then .returned .closedError else .selecting))
    else none
  | .sendCase c =>
    let call := s.calls.getD c default
    if c < s.calls.length ∧ call.pc = .selecting then s.sendStep c call.record else none
  | .doneCase c =>
    if c < s.calls.length ∧ (s.calls.getD c default).pc = .selecting ∧ s.ctxDone then
      some (s.setPc c (.returned .ctxError))
    else none
  | .defaultCase c =>
    if c < s.calls.length ∧ (s.calls.getD c default).pc = .selecting ∧ !s.chClosed ∧
        s.capacity ≤ s.ch.length ∧ !s.rendezvous ∧ !s.ctxDone then
      some (s.setPc c .dropping)
    else none
  | .addTotal c =>
    let call := s.calls.getD c default
    if c < s.calls.length ∧ call.pc = .sent then
      some ((s.modifyHandler call.handler fun h => { h with total := h.total + 1 }).setPc c
        (.returned .ok))
    else none
  | .addDropped c =>
    let call := s.calls.getD c default
    if c < s.calls.length ∧ call.pc = .dropping then
      some ((s.modifyHandler call.handler fun h => { h with dropped := h.dropped + 1 }).setPc c
        .reporting)
    else none
  | .report c =>
    let call := s.calls.getD c default
    if c < s.calls.length ∧ call.pc = .reporting then some (s.reportStep c (s.handlerOf call))
    else none
  | .receive =>
    match s.process, s.ch with
    | .waiting, r :: rest => some { s with process := .handling r, ch := rest }
    | .waiting, [] => if s.chClosed then some s.processExit else none
    | _, _ => none
  | .processDone =>
    if s.process = .waiting ∧ s.ctxDone then some s.processExit else none
  | .processHandle =>
    match s.process with
    | .handling r => some { s with delivered := s.delivered ++ [r], process := .waiting }
    | _ => none
  | .close => if s.close = .idle then some { s with close := .loading } else none
  | .closeLoad =>
    if s.close = .loading then
      some { s with close := if (s.handlers.getD 0 default).closed then .returned else .swapping }
    else none
  | .closeSwap =>
    if s.close = .swapping then
      if (s.handlers.getD 0 default).closed then some { s with close := .returned }
      else some { s.modifyHandler 0 fun h => { h with closed := true } with close := .closingCh }
    else none
  | .closeChannel =>
    if s.close = .closingCh then
      if s.chClosed then some s.panic else some { s with chClosed := true, close := .cancelling }
    else none
  | .closeCancel =>
    if s.close = .cancelling then some { s with ctxDone := true, close := .draining } else none
  | .drainReceive =>
    match s.close, s.ch with
    | .draining, r :: rest => some { s with close := .drainHandling r, ch := rest }
    | .draining, [] => some { s with close := .waitingProcess }
    | _, _ => none
  | .drainHandle =>
    match s.close with
    | .drainHandling r => some { s with delivered := s.delivered ++ [r], close := .draining }
    | _ => none
  | .closeReturn =>
    if s.close = .waitingProcess ∧ s.process = .exited then some { s with close := .returned }
    else none
  | .closeTimeout =>
    if s.close.awaitingDone ∧ !s.timedOut then some { s with timedOut := true } else none

/-- One step; nothing runs after a panic. -/
def step (s : LogPipeline) (a : LogStep) : Option LogPipeline :=
  if s.panicked then none else s.stepLive a

/-- A schedule run step by step; `none` once a step is not enabled. -/
def run (s : LogPipeline) : List LogStep → Option LogPipeline
  | [] => some s
  | a :: as => (s.step a).bind fun s' => s'.run as

/-- `GetTotalLogsCount` of the root handler. -/
def getTotalLogsCount (s : LogPipeline) : BitVec 64 := (s.handlers.getD 0 default).total

/-- `GetDroppedLogsCount` of the root handler. -/
def getDroppedLogsCount (s : LogPipeline) : BitVec 64 := (s.handlers.getD 0 default).dropped

/-- `GetLogMetrics` of the root handler. -/
def getLogMetrics (s : LogPipeline) : List (String × BitVec 64) :=
  [("total_logs", s.getTotalLogsCount), ("dropped_logs", s.getDroppedLogsCount),
    ("channel_depth", BitVec.ofNat 64 s.ch.length)]

/-- Three schedules that send on a closed channel: a root `Handle` that read the flag before
`Close` set it; a derived handler's `Handle` after `Close`, its own flag never set; and a drop
report on the error channel `process` closed on its way out. -/
theorem handle_sendsOnClosedChannel :
    (∃ s, (newAsyncLogger 1).run [.handle 0 0, .loadClosed 0, .close, .closeLoad, .closeSwap,
        .closeChannel, .sendCase 0] = some s ∧ s.panicked) ∧
    (∃ s, (newAsyncLogger 1).run [.derive 0, .close, .closeLoad, .closeSwap, .closeChannel,
        .closeCancel, .handle 1 0, .loadClosed 0, .sendCase 0] = some s ∧ s.panicked) ∧
    (∃ s, (newAsyncLogger 1).run [.handle 0 0, .loadClosed 0, .sendCase 0, .addTotal 0,
        .handle 0 1, .loadClosed 1, .defaultCase 1, .addDropped 1, .close, .closeLoad,
        .closeSwap, .closeChannel, .closeCancel, .processDone, .report 1] = some s ∧
      s.panicked) :=
  ⟨⟨_, rfl, rfl⟩, ⟨_, rfl, rfl⟩, ⟨_, rfl, rfl⟩⟩

/-- A record sent through a derived handler is delivered but never counted by the root; and
two records sent through the root reach the base handler in reverse order when `Close`'s drain
and `process` take one each. -/
theorem pipeline_losesCountsAndOrder :
    (∃ s, (newAsyncLogger 1).run [.derive 0, .handle 1 7, .loadClosed 0, .sendCase 0,
        .addTotal 0, .receive, .processHandle] = some s ∧
      s.sent = [7] ∧ s.delivered = [7] ∧ s.getTotalLogsCount = 0) ∧
    (∃ s, (newAsyncLogger 2).run [.handle 0 1, .loadClosed 0, .sendCase 0, .addTotal 0,
        .handle 0 2, .loadClosed 1, .sendCase 1, .addTotal 1, .close, .closeLoad, .closeSwap,
        .closeChannel, .closeCancel, .drainReceive, .receive, .processHandle, .drainHandle,
        .drainReceive, .receive, .closeReturn] = some s ∧
      s.close = .returned ∧ s.sent = [1, 2] ∧ s.delivered = [2, 1] ∧ s.getTotalLogsCount = 2) :=
  ⟨⟨_, rfl, rfl, rfl, rfl⟩, ⟨_, rfl, rfl, rfl, rfl, rfl⟩⟩

/-! ## No record lost or duplicated -/

/-- The records `process` or the drain has received and not yet passed on. -/
def held (s : LogPipeline) : List LogRecord :=
  (match s.process with
    | .handling r => [r]
    | _ => []) ++
  (match s.close with
    | .drainHandling r => [r]
    | _ => [])

/-- What every reachable state keeps: the records sent are those delivered, held or buffered;
only `Close` sets the root's flag and closes the channel; the drain ends on an empty channel;
and `Close` returns after `process`. -/
structure Inv (s : LogPipeline) : Prop where
  conserved : (s.delivered ++ s.held ++ s.ch).Perm s.sent
  root_closed : (s.handlers.getD 0 default).closed = true → s.close.swapped = true
  ch_closed : s.close.chClosed = true → s.chClosed = true
  drained : s.close.drained = true → s.ch = []
  exited : s.close = .returned → s.process = .exited

theorem newAsyncLogger_inv (bufferSize : Nat) : (newAsyncLogger bufferSize).Inv :=
  ⟨List.Perm.refl _, (by intro h; cases h), (by intro h; cases h), (by intro h; cases h),
    (by intro h; cases h)⟩

/-- A step that touches none of the fields `Inv` reads keeps it. -/
theorem Inv.frame {s s' : LogPipeline} (h : s.Inv) (hd : s'.delivered = s.delivered)
    (hp : s'.process = s.process) (hc : s'.close = s.close) (hch : s'.ch = s.ch)
    (hs : s'.sent = s.sent) (hcc : s'.chClosed = s.chClosed)
    (hr : (s'.handlers.getD 0 default).closed = (s.handlers.getD 0 default).closed) : s'.Inv := by
  obtain ⟨h1, h2, h3, h4, h5⟩ := h
  have hheld : s'.held = s.held := by simp only [held, hp, hc]
  exact ⟨by rwa [hd, hheld, hch, hs], by rw [hr, hc]; exact h2, by rw [hc, hcc]; exact h3,
    by rw [hc, hch]; exact h4, by rw [hc, hp]; exact h5⟩

/-- A step that moves records between the delivered list, the holders and the channel, and
sends `new`, keeps the records conserved. -/
theorem conserved_of_count {s s' : LogPipeline} (h : s.Inv) (new : List LogRecord)
    (hsent : s'.sent = s.sent ++ new)
    (hc : ∀ a, (s'.delivered ++ s'.held ++ s'.ch).count a =
      (s.delivered ++ s.held ++ s.ch).count a + new.count a) :
    (s'.delivered ++ s'.held ++ s'.ch).Perm s'.sent :=
  List.perm_iff_count.mpr fun a => by rw [hc, hsent, h.conserved.count_eq, List.count_append]

theorem closed_modifyHandler (s : LogPipeline) (h : Nat) {f : HandlerVars → HandlerVars}
    (hf : ∀ v, (f v).closed = v.closed) :
    ((s.modifyHandler h f).handlers.getD 0 default).closed = (s.handlers.getD 0 default).closed := by
  unfold modifyHandler
  rw [getD_set]
  split
  · next h0 => rw [hf, h0.1]
  · rfl

theorem inv_modifyHandler {s : LogPipeline} (h : s.Inv) (i : Nat) {f : HandlerVars → HandlerVars}
    (hf : ∀ v, (f v).closed = v.closed) : (s.modifyHandler i f).Inv :=
  h.frame rfl rfl rfl rfl rfl rfl (closed_modifyHandler s i hf)

theorem inv_setPc {s : LogPipeline} (h : s.Inv) (c : Nat) (pc : HandlePc) : (s.setPc c pc).Inv :=
  h.frame rfl rfl rfl rfl rfl rfl rfl

theorem inv_panic {s : LogPipeline} (h : s.Inv) : s.panic.Inv :=
  h.frame rfl rfl rfl rfl rfl rfl rfl

theorem inv_sendStep {s s' : LogPipeline} {c : Nat} {r : LogRecord} (h : s.Inv)
    (hs : s.sendStep c r = some s') : s'.Inv := by
  unfold sendStep at hs
  split at hs
  · cases hs; exact inv_panic h
  · next hcl =>
    split at hs
    · cases hs
      obtain ⟨h1, h2, h3, h4, h5⟩ := h
      refine inv_setPc (s := { s with ch := s.ch ++ [r], sent := s.sent ++ [r] })
        ⟨?_, h2, h3, fun hdr => absurd (h3 ?_) hcl, h5⟩ c .sent
      · simpa [← List.append_assoc] using h1.append_right [r]
      · cases hc : s.close <;> simp_all [ClosePc.drained, ClosePc.chClosed]
    · split at hs
      · next hrv =>
        cases hs
        have hw : s.process = .waiting := by simp [rendezvous] at hrv; exact hrv.1.2
        refine inv_setPc (s := { s with process := .handling r, sent := s.sent ++ [r] })
          ⟨conserved_of_count h [r] rfl fun a => ?_, h.root_closed, h.ch_closed, h.drained,
            fun hr => absurd (h.exited hr) (by simp [hw])⟩ c .sent
        simp only [held, hw, List.count_append, List.count_nil]
        omega
      · cases hs

theorem inv_reportStep {s : LogPipeline} (h : s.Inv) (c : Nat) (v : HandlerVars) :
    (s.reportStep c v).Inv := by
  unfold reportStep
  split
  · exact inv_setPc h _ _
  · split
    · exact inv_panic h
    · split
      · exact inv_setPc (s := { s with errCh := s.errCh + 1 })
          (h.frame rfl rfl rfl rfl rfl rfl rfl) _ _
      · exact inv_setPc h _ _

theorem inv_processExit {s : LogPipeline} (h : s.Inv) (hw : s.process = .waiting) :
    s.processExit.Inv :=
  ⟨by simpa [held, processExit, hw] using h.conserved, h.root_closed, h.ch_closed, h.drained,
    fun _ => rfl⟩

/-- One step of a live pipeline keeps `Inv`. -/
theorem stepLive_inv {s s' : LogPipeline} (h : s.Inv) :
    ∀ {a : LogStep}, s.stepLive a = some s' → s'.Inv := by
  obtain ⟨-, h2, h3, h4, h5⟩ := id h
  intro a hs
  cases a with
  | derive i =>
    simp only [stepLive] at hs
    split at hs <;> cases hs
    refine h.frame rfl rfl rfl rfl rfl rfl ?_
    cases hl : s.handlers <;> rfl
  | handle i r => simp only [stepLive] at hs; split at hs <;> cases hs; exact h.frame rfl rfl rfl rfl rfl rfl rfl
  | loadClosed c | doneCase c | defaultCase c =>
    simp only [stepLive] at hs; split at hs <;> cases hs; exact inv_setPc h _ _
  | sendCase c => simp only [stepLive] at hs; split at hs; exact inv_sendStep h hs; cases hs
  | addTotal c | addDropped c =>
    simp only [stepLive] at hs
    split at hs <;> cases hs
    refine inv_setPc (inv_modifyHandler h _ ?_) _ _
    exact fun _ => rfl
  | report c => simp only [stepLive] at hs; split at hs <;> cases hs; exact inv_reportStep h _ _
  | receive =>
    simp only [stepLive] at hs
    split at hs
    · next hw hch =>
      cases hs
      refine ⟨conserved_of_count h [] (List.append_nil _).symm fun a => ?_, h2, h3,
        fun hd => absurd (h4 hd) (by simp [hch]), fun hr => absurd (h5 hr) (by simp [hw])⟩
      simp only [held, hw, hch, List.count_append, List.count_cons, List.count_nil]
      omega
    · next hw _ => split at hs <;> cases hs; exact inv_processExit h hw
    · cases hs
  | processDone => simp only [stepLive] at hs; split at hs <;> cases hs; rename_i hc; exact inv_processExit h hc.1
  | processHandle =>
    simp only [stepLive] at hs
    split at hs
    · next r hp =>
      cases hs
      refine ⟨conserved_of_count h [] (List.append_nil _).symm fun a => ?_, h2, h3, h4,
        fun hr => absurd (h5 hr) (by simp [hp])⟩
      simp only [held, hp, List.count_append, List.count_cons, List.count_nil]
      omega
    · cases hs
  | close =>
    simp only [stepLive] at hs
    split at hs <;> cases hs
    rename_i hc
    exact ⟨by simpa [held, hc] using h.conserved, fun hr => absurd (h2 hr) (by simp [hc]),
      (fun hcl => by cases hcl), (fun hd => by cases hd), (fun hr => by cases hr)⟩
  | closeLoad =>
    simp only [stepLive] at hs
    split at hs <;> cases hs
    rename_i hc
    have hr : (s.handlers.getD 0 default).closed = false := by
      cases hr : (s.handlers.getD 0 default).closed
      · rfl
      · exact absurd (h2 hr) (by simp [hc])
    simp only [hr, if_false, Bool.false_eq_true]
    exact ⟨by simpa [held, hc] using h.conserved, fun hr' => absurd (hr'.symm.trans hr) (by decide),
      (fun hcl => by cases hcl), (fun hd => by cases hd), (fun hr => by cases hr)⟩
  | closeSwap =>
    simp only [stepLive] at hs
    split at hs
    · next hc =>
      split at hs
      · next hr => exact absurd (h2 hr) (by simp [hc])
      · cases hs
        exact ⟨by simpa [held, hc] using h.conserved, fun _ => rfl, (fun hcl => by cases hcl),
          (fun hd => by cases hd), (fun hr => by cases hr)⟩
    · cases hs
  | closeChannel =>
    simp only [stepLive] at hs
    split at hs
    · next hc =>
      split at hs <;> cases hs
      · exact inv_panic h
      · exact ⟨by simpa [held, hc] using h.conserved, fun _ => rfl, fun _ => rfl,
          (fun hd => by cases hd), (fun hr => by cases hr)⟩
    · cases hs
  | closeCancel =>
    simp only [stepLive] at hs
    split at hs <;> cases hs
    rename_i hc
    exact ⟨by simpa [held, hc] using h.conserved, fun _ => rfl, fun _ => h3 (by simp [hc]),
      (fun hd => by cases hd), (fun hr => by cases hr)⟩
  | drainReceive =>
    simp only [stepLive] at hs
    split at hs
    · next hc hch =>
      cases hs
      refine ⟨conserved_of_count h [] (List.append_nil _).symm fun a => ?_, fun _ => rfl,
        fun _ => h3 (by simp [hc]), (fun hd => by cases hd), (fun hr => by cases hr)⟩
      simp only [held, hc, hch, List.count_append, List.count_cons, List.count_nil]
      omega
    · next hc hch =>
      cases hs
      exact ⟨by simpa [held, hc] using h.conserved, fun _ => rfl, fun _ => h3 (by simp [hc]),
        fun _ => hch, (fun hr => by cases hr)⟩
    · cases hs
  | drainHandle =>
    simp only [stepLive] at hs
    split at hs
    · next r hc =>
      cases hs
      refine ⟨conserved_of_count h [] (List.append_nil _).symm fun a => ?_, fun _ => rfl,
        fun _ => h3 (by simp [hc]), (fun hd => by cases hd), (fun hr => by cases hr)⟩
      simp only [held, hc, List.count_append, List.count_cons, List.count_nil]
      omega
    · cases hs
  | closeReturn =>
    simp only [stepLive] at hs
    split at hs <;> cases hs
    rename_i hc
    exact ⟨by simpa [held, hc.1] using h.conserved, fun _ => rfl, fun _ => h3 (by simp [hc.1]),
      fun _ => h4 (by simp [hc.1]), fun _ => hc.2⟩
  | closeTimeout =>
    simp only [stepLive] at hs
    split at hs <;> cases hs
    exact h.frame rfl rfl rfl rfl rfl rfl rfl

/-- One step keeps `Inv`. -/
theorem step_inv {s s' : LogPipeline} {a : LogStep} (h : s.Inv) (hs : s.step a = some s') :
    s'.Inv := by
  unfold step at hs
  split at hs
  · cases hs
  · exact stepLive_inv h hs

/-- A whole schedule keeps `Inv`. -/
theorem run_inv {s s' : LogPipeline} {as : List LogStep} (h : s.Inv) (hs : s.run as = some s') :
    s'.Inv := by
  induction as generalizing s with
  | nil => exact Option.some.inj hs ▸ h
  | cons a as ih =>
    obtain ⟨t, ht, hrun⟩ := Option.bind_eq_some.mp hs
    exact ih (step_inv h ht) hrun

/-- Under every interleaving of `Handle`, `process` and `Close`, `Close`'s five-second timeout
included, each record sent into the pipeline is delivered, held or buffered exactly once. Once
`Close`'s drain goroutine has sent on `done` (`close = .returned`, which is when a `Close` that
did not time out returns), each has been delivered exactly once. -/
theorem run_conservesRecords (bufferSize : Nat) (as : List LogStep) (s : LogPipeline)
    (hs : (newAsyncLogger bufferSize).run as = some s) :
    (s.delivered ++ s.held ++ s.ch).Perm s.sent ∧ (s.close = .returned → s.delivered.Perm s.sent) := by
  have h := run_inv (newAsyncLogger_inv bufferSize) hs
  refine ⟨h.conserved, fun hr => ?_⟩
  have hheld : s.held = [] := by simp [held, h.exited hr, hr]
  simpa [hheld, h.drained (by simp [hr])] using h.conserved

/-- One record sent through a one-slot buffer and drained by `Close` reaches the base handler. -/
theorem run_conservesRecords_drained :
    ∃ s, (newAsyncLogger 1).run [.handle 0 1, .loadClosed 0, .sendCase 0, .addTotal 0, .close,
        .closeLoad, .closeSwap, .closeChannel, .closeCancel, .drainReceive, .drainHandle,
        .drainReceive, .receive, .closeReturn] = some s ∧ s.close = .returned ∧
      s.delivered.Perm s.sent :=
  ⟨_, rfl, rfl, (run_conservesRecords 1 [.handle 0 1, .loadClosed 0, .sendCase 0, .addTotal 0,
    .close, .closeLoad, .closeSwap, .closeChannel, .closeCancel, .drainReceive, .drainHandle,
    .drainReceive, .receive, .closeReturn] _ rfl).2 rfl⟩

/-- A `Close` that times out before its drain has run returns with the record still in the
buffer; the drain delivers it afterwards. -/
example :
    ((newAsyncLogger 1).run [.handle 0 1, .loadClosed 0, .sendCase 0, .addTotal 0, .close,
        .closeLoad, .closeSwap, .closeChannel, .closeCancel, .closeTimeout]).map
      (fun s => (s.timedOut, s.delivered, s.ch)) = some (true, [], [1]) ∧
    ((newAsyncLogger 1).run [.handle 0 1, .loadClosed 0, .sendCase 0, .addTotal 0, .close,
        .closeLoad, .closeSwap, .closeChannel, .closeCancel, .closeTimeout, .drainReceive,
        .drainHandle]).map (fun s => s.delivered) = some [1] :=
  ⟨rfl, rfl⟩

end LogPipeline

end Xlorm
