import Mathlib.Data.Nat.ModEq
import Xlorm.Machine

/-!
# The metrics ring buffer (`metrics.go`)

`ringBuffer` is the lock-protected circular queue that carries deferred metric closures from
the producers to the one consumer of `asyncDBMetrics`. `Enqueue` writes at `tail`; when the
buffer is full it also advances `head`, so the oldest closure is overwritten and the call
answers `false`. `Dequeue` reads at `head`.

The Go fields are `int`. Here they are naturals: the invariant keeps `head` and `tail` below
`size`, so the only arithmetic, `+ 1` before `% size`, never approaches the 64-bit bound, and
`count--` runs only when `count ≠ 0`. A slot read past the end (a Go panic) is read as the
zero value; `RingBuffer.Inv` shows no reachable call does it.

**The law** (`ringBuffer_refines_boundedQueue`): from `newRingBuffer size` with `1 ≤ size`,
every sequence of calls keeps the representation invariant, the view
`[buffer[(head + i) % size] | i < count]` is the state of a bounded FIFO queue that evicts its
oldest item, and every call answers as that queue does.
-/

namespace Xlorm

/-- `ringBuffer`: the backing slice and its three cursors. -/
structure RingBuffer (α : Type) where
  buffer : List α
  size : Nat
  head : Nat
  tail : Nat
  count : Nat
  deriving Repr, DecidableEq

variable {α : Type} [Inhabited α]

/-- `newRingBuffer`: `size` nil slots (Go's zero value is `default`), all cursors at zero. -/
def newRingBuffer (size : Nat) : RingBuffer α :=
  { buffer := List.replicate size default, size := size, head := 0, tail := 0, count := 0 }

namespace RingBuffer

/-- `Enqueue`: on a full buffer overwrite the slot at `tail` and advance both cursors,
answering `false`; otherwise append at `tail` and answer `true`. -/
def enqueue (rb : RingBuffer α) (item : α) : RingBuffer α × Bool :=
  if rb.count = rb.size then
    ({ rb with head := (rb.head + 1) % rb.size, buffer := rb.buffer.set rb.tail item,
               tail := (rb.tail + 1) % rb.size }, false)
  else
    ({ rb with buffer := rb.buffer.set rb.tail item, tail := (rb.tail + 1) % rb.size,
               count := rb.count + 1 }, true)

/-- `Dequeue`: `(nil, false)` on an empty buffer, otherwise the slot at `head`. -/
def dequeue (rb : RingBuffer α) : RingBuffer α × (α × Bool) :=
  if rb.count = 0 then (rb, (default, false))
  else ({ rb with head := (rb.head + 1) % rb.size, count := rb.count - 1 },
        (rb.buffer.getD rb.head default, true))

/-- The queue a ring buffer holds: the `count` slots read from `head` on, wrapping. -/
def view (rb : RingBuffer α) : List α :=
  (List.range rb.count).map fun i => rb.buffer.getD ((rb.head + i) % rb.size) default

/-- The representation invariant: the cursors index real slots and `tail` is `count` slots
past `head`. -/
structure Inv (rb : RingBuffer α) : Prop where
  size_pos : 0 < rb.size
  length_eq : rb.buffer.length = rb.size
  count_le : rb.count ≤ rb.size
  head_lt : rb.head < rb.size
  tail_eq : rb.tail = (rb.head + rb.count) % rb.size

@[simp] theorem length_view (rb : RingBuffer α) : rb.view.length = rb.count := by
  simp [view]

theorem getElem_view (rb : RingBuffer α) (i : Nat) (h : i < rb.view.length) :
    rb.view[i] = rb.buffer.getD ((rb.head + i) % rb.size) default := by
  simp [view]

end RingBuffer

/-! ## Slot arithmetic -/

/-- Two offsets from one head less than a revolution apart name different slots. -/
theorem add_mod_ne {h i j n : Nat} (hij : i < j) (hj : j < n) : (h + i) % n ≠ (h + j) % n :=
  fun heq => Nat.ne_of_lt hij
    ((Nat.ModEq.add_left_cancel' h heq).eq_of_lt_of_lt (Nat.lt_trans hij hj) hj)

/-- Reading a list at an index other than the one just written. -/
theorem getD_set_ne {l : List α} {i j : Nat} (a : α) (hij : i ≠ j) :
    (l.set i a).getD j default = l.getD j default := by
  simp [List.getD_eq_getElem?_getD, List.getElem?_set, hij]

/-- Reading a list at the index just written. -/
theorem getD_set_self {l : List α} {i : Nat} (a : α) (hi : i < l.length) :
    (l.set i a).getD i default = a := by
  simp [List.getD_eq_getElem?_getD, hi]

namespace RingBuffer

/-! ## One call at a time -/

omit [Inhabited α] in
theorem enqueue_inv {rb : RingBuffer α} (h : rb.Inv) (x : α) : (rb.enqueue x).1.Inv := by
  obtain ⟨hpos, hlen, hle, hhead, htail⟩ := h
  unfold enqueue
  split <;> dsimp only
  · refine ⟨hpos, by simp [hlen], hle, Nat.mod_lt _ hpos, ?_⟩
    rw [htail, Nat.mod_add_mod, Nat.mod_add_mod, Nat.add_right_comm]
  · exact ⟨hpos, by simp [hlen], by dsimp only; omega, hhead, by rw [htail, Nat.mod_add_mod]; rfl⟩

theorem dequeue_inv {rb : RingBuffer α} (h : rb.Inv) : rb.dequeue.1.Inv := by
  obtain ⟨hpos, hlen, hle, hhead, htail⟩ := h
  unfold dequeue
  split <;> dsimp only
  · exact ⟨hpos, hlen, hle, hhead, htail⟩
  · refine ⟨hpos, hlen, by dsimp only; omega, Nat.mod_lt _ hpos, ?_⟩
    dsimp only
    rw [htail, Nat.mod_add_mod]
    congr 1
    omega

/-- Below capacity, `Enqueue` appends to the view. -/
theorem view_enqueue_of_lt {rb : RingBuffer α} (h : rb.Inv) (x : α) (hlt : rb.count < rb.size) :
    (rb.enqueue x).1.view = rb.view ++ [x] := by
  have hne : rb.count ≠ rb.size := Nat.ne_of_lt hlt
  apply List.ext_getElem (by simp [enqueue, hne])
  intro i h₁ h₂
  simp only [enqueue, hne, if_false] at h₁ ⊢
  rw [getElem_view]
  simp only [length_view] at h₁
  rcases Nat.lt_succ_iff_lt_or_eq.mp h₁ with hi | rfl
  · rw [List.getElem_append_left (by simpa using hi), getElem_view, h.tail_eq]
    exact getD_set_ne x (add_mod_ne hi hlt).symm
  · rw [List.getElem_append_right (by simp), h.tail_eq]
    simp only [length_view, Nat.sub_self, List.getElem_singleton]
    exact getD_set_self x (by rw [h.length_eq]; exact Nat.mod_lt _ h.size_pos)

/-- At capacity, `Enqueue` appends and drops the oldest item. -/
theorem view_enqueue_of_full {rb : RingBuffer α} (h : rb.Inv) (x : α) (hfull : rb.count = rb.size) :
    (rb.enqueue x).1.view = (rb.view ++ [x]).tail := by
  have htail : rb.tail = rb.head := by
    rw [h.tail_eq, hfull, Nat.add_mod_right, Nat.mod_eq_of_lt h.head_lt]
  apply List.ext_getElem (by simp [enqueue, hfull])
  intro i h₁ h₂
  simp only [enqueue, hfull, if_true] at h₁ ⊢
  rw [getElem_view, List.getElem_tail]
  simp only [length_view] at h₁
  simp only [Nat.mod_add_mod, Nat.add_right_comm rb.head 1 i, Nat.add_assoc]
  rcases Nat.lt_or_ge (i + 1) rb.size with hi | hi
  · rw [List.getElem_append_left (by simpa [hfull] using hi), getElem_view, htail]
    refine getD_set_ne x ?_
    have := add_mod_ne (h := rb.head) (Nat.succ_pos i) hi
    rwa [Nat.add_zero, Nat.mod_eq_of_lt h.head_lt] at this
  · have hidx : (rb.head + (i + 1)) % rb.size = rb.tail := by
      rw [show i + 1 = rb.size by omega, Nat.add_mod_right, Nat.mod_eq_of_lt h.head_lt, htail]
    rw [List.getElem_append_right (by simp [hfull]; omega), hidx, List.getElem_singleton]
    exact getD_set_self x (by rw [h.length_eq, htail]; exact h.head_lt)

/-- A non-empty view starts at `head`, and `Dequeue` leaves the rest. -/
theorem view_of_dequeue {rb : RingBuffer α} (h : rb.Inv) (hpos : rb.count ≠ 0) :
    rb.view = rb.buffer.getD rb.head default :: rb.dequeue.1.view := by
  apply List.ext_getElem (by simp [dequeue, hpos]; omega)
  intro i h₁ h₂
  cases i with
  | zero => simp [getElem_view, Nat.mod_eq_of_lt h.head_lt]
  | succ i =>
    simp only [List.getElem_cons_succ, getElem_view, dequeue, hpos, if_false, Nat.mod_add_mod]
    congr 2
    omega

end RingBuffer

/-! ## The bounded FIFO queue the buffer refines -/

/-- A FIFO queue of at most `capacity` items; the bound is part of the value. -/
structure BoundedQueue (α : Type) where
  capacity : Nat
  items : List α
  bounded : items.length ≤ capacity

namespace BoundedQueue

/-- The empty queue of a given capacity. -/
def empty (capacity : Nat) : BoundedQueue α := ⟨capacity, [], Nat.zero_le _⟩

/-- Below capacity append and answer `true`; at capacity append, evict the oldest item and
answer `false`. -/
def enqueue (q : BoundedQueue α) (x : α) : BoundedQueue α × Bool :=
  if h : q.items.length < q.capacity then
    (⟨q.capacity, q.items ++ [x], by simp; omega⟩, true)
  else
    (⟨q.capacity, (q.items ++ [x]).tail, by simpa using q.bounded⟩, false)

/-- The first item and `true`, or the zero value and `false` exactly when empty. -/
def dequeue (q : BoundedQueue α) : BoundedQueue α × (α × Bool) :=
  match q with
  | ⟨c, [], h⟩ => (⟨c, [], h⟩, (default, false))
  | ⟨c, x :: xs, h⟩ => (⟨c, xs, Nat.le_of_succ_le h⟩, (x, true))

end BoundedQueue

/-- A call on the buffer. -/
inductive RingCall (α : Type) where
  | enqueue (item : α)
  | dequeue
  deriving Repr, DecidableEq

/-- What a call answers: `Enqueue`'s flag, or `Dequeue`'s item and flag. -/
inductive RingReply (α : Type) where
  | enqueued (ok : Bool)
  | dequeued (item : α) (ok : Bool)
  deriving Repr, DecidableEq

/-- One call on the ring buffer. -/
def RingBuffer.call (rb : RingBuffer α) : RingCall α → RingBuffer α × RingReply α
  | .enqueue x => ((rb.enqueue x).1, .enqueued (rb.enqueue x).2)
  | .dequeue => (rb.dequeue.1, .dequeued rb.dequeue.2.1 rb.dequeue.2.2)

/-- One call on the abstract queue. -/
def BoundedQueue.call (q : BoundedQueue α) : RingCall α → BoundedQueue α × RingReply α
  | .enqueue x => ((q.enqueue x).1, .enqueued (q.enqueue x).2)
  | .dequeue => (q.dequeue.1, .dequeued q.dequeue.2.1 q.dequeue.2.2)

/-- The abstraction: a valid buffer of the queue's capacity whose view is the queue. -/
def RingBuffer.Abstracts (rb : RingBuffer α) (q : BoundedQueue α) : Prop :=
  rb.Inv ∧ rb.size = q.capacity ∧ rb.view = q.items

namespace RingBuffer

theorem abstracts_enqueue {rb : RingBuffer α} {q : BoundedQueue α} (h : rb.Abstracts q) (x : α) :
    (rb.enqueue x).1.Abstracts (q.enqueue x).1 ∧ (rb.enqueue x).2 = (q.enqueue x).2 := by
  obtain ⟨hinv, hcap, hview⟩ := h
  have hcount : rb.count = q.items.length := by rw [← hview, length_view]
  refine ⟨⟨enqueue_inv hinv x, ?_, ?_⟩, ?_⟩
  · unfold enqueue BoundedQueue.enqueue; split <;> split <;> simpa using hcap
  · rcases Nat.lt_or_ge rb.count rb.size with hlt | hge
    · rw [view_enqueue_of_lt hinv x hlt, hview, BoundedQueue.enqueue, dif_pos (by omega)]
    · rw [view_enqueue_of_full hinv x (by have := hinv.count_le; omega), hview,
        BoundedQueue.enqueue, dif_neg (by omega)]
  · have := hinv.count_le
    unfold enqueue BoundedQueue.enqueue
    split <;> split <;> first | rfl | omega

theorem abstracts_dequeue {rb : RingBuffer α} {q : BoundedQueue α} (h : rb.Abstracts q) :
    rb.dequeue.1.Abstracts q.dequeue.1 ∧ rb.dequeue.2 = q.dequeue.2 := by
  obtain ⟨hinv, hcap, hview⟩ := h
  obtain ⟨c, items, hb⟩ := q
  cases items with
  | nil =>
    have h0 : rb.count = 0 := by simpa using congrArg List.length hview
    have hd : rb.dequeue = (rb, (default, false)) := by simp [dequeue, h0]
    rw [hd]
    exact ⟨⟨hinv, hcap, hview⟩, rfl⟩
  | cons y ys =>
    have hpos : rb.count ≠ 0 := by
      have := congrArg List.length hview
      simp only [length_view, List.length_cons] at this
      omega
    rw [view_of_dequeue hinv hpos, List.cons.injEq] at hview
    refine ⟨⟨dequeue_inv hinv, by simpa [dequeue, hpos] using hcap, hview.2⟩, ?_⟩
    simp only [dequeue, hpos, if_false, BoundedQueue.dequeue, hview.1]

theorem abstracts_call {rb : RingBuffer α} {q : BoundedQueue α} (h : rb.Abstracts q) :
    ∀ c, (rb.call c).1.Abstracts (q.call c).1 ∧ (rb.call c).2 = (q.call c).2
  | .enqueue x => by
    obtain ⟨h', hr⟩ := abstracts_enqueue h x
    exact ⟨h', by simp only [call, BoundedQueue.call, hr]⟩
  | .dequeue => by
    obtain ⟨h', hr⟩ := abstracts_dequeue h
    exact ⟨h', by simp only [call, BoundedQueue.call, hr]⟩

end RingBuffer

theorem newRingBuffer_abstracts {size : Nat} (hsize : 1 ≤ size) :
    (newRingBuffer size : RingBuffer α).Abstracts (BoundedQueue.empty size) :=
  ⟨⟨hsize, by simp [newRingBuffer], Nat.zero_le _, hsize, by simp [newRingBuffer]⟩, rfl, rfl⟩

/-- From `newRingBuffer size`, every sequence of `Enqueue`/`Dequeue` calls keeps the
representation invariant, leaves as view the state of the bounded evict-oldest FIFO queue run
on the same calls, and answers every call as that queue does. -/
theorem ringBuffer_refines_boundedQueue (size : Nat) (hsize : 1 ≤ size) (calls : List (RingCall α)) :
    (runCalls RingBuffer.call (newRingBuffer size) calls).1.Inv ∧
      (runCalls RingBuffer.call (newRingBuffer size) calls).1.view =
        (runCalls BoundedQueue.call (BoundedQueue.empty size) calls).1.items ∧
      (runCalls RingBuffer.call (newRingBuffer size) calls).2 =
        (runCalls BoundedQueue.call (BoundedQueue.empty size) calls).2 := by
  obtain ⟨⟨hinv, -, hview⟩, hreplies⟩ :=
    runCalls_simulation RingBuffer.Abstracts (fun _ _ c h => RingBuffer.abstracts_call h c) calls
      (newRingBuffer_abstracts hsize)
  exact ⟨hinv, hview, hreplies⟩

/-- The spec's sample run: capacity 2, three enqueues, then a drain, gives the last two items
in order. -/
theorem ringBuffer_refines_boundedQueue_two : 1 ≤ 2 ∧
    (runCalls RingBuffer.call (newRingBuffer 2 : RingBuffer Nat)
      [.enqueue 1, .enqueue 2, .enqueue 3, .dequeue, .dequeue, .dequeue]).2 =
      [.enqueued true, .enqueued true, .enqueued false, .dequeued 2 true, .dequeued 3 true,
        .dequeued 0 false] :=
  ⟨by decide, by
    rw [(ringBuffer_refines_boundedQueue 2 (by decide) _).2.2]
    rfl⟩

end Xlorm
