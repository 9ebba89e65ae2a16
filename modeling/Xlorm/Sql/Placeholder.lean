import Mathlib.Algebra.BigOperators.Group.List
import Xlorm.Cache.Sharded
import Xlorm.Sql.Table

/-!
# Placeholder groups (`getCachedPlaceholder`, `buildPlaceholders`)

A multi-row `INSERT` writes one group `(?,…,?)` per row. `getCachedPlaceholder` keeps the group
of each width in the DB's `placeholderCache` under the key `placeholder:n`: a hit returns the
first string stored there (`v[0]`, which panics on an empty value), a miss builds the group with
`strings.Repeat("?,", n-1)` and stores it. For `n = 0` a miss panics, `strings.Repeat` refusing
the count `-1`. `buildPlaceholders` fills a slice of groups by doubling copies. The callers pass
lengths, so the widths and counts are natural numbers.

**The law** (`countPlaceholders_placeholder`): the group built for a width `n ≥ 1` holds exactly
`n` placeholders.
-/

namespace Xlorm

/-- The group `getCachedPlaceholder` builds for `fieldCount` columns:
`"(" + strings.Repeat("?,", fieldCount-1) + "?)"`. -/
def placeholder (fieldCount : Nat) : String :=
  "(" ++ String.join (List.replicate (fieldCount - 1) "?,") ++ "?)"

/-- The cache key of a width, `fmt.Sprintf("placeholder:%d", fieldCount)`. -/
def placeholderKey (fieldCount : Nat) : String := "placeholder:" ++ toString fieldCount

/-- The number a decimal numeral spells, read digit by digit. -/
def decimalValue (ds : List Char) : Nat := ds.foldl (fun n c => 10 * n + (c.toNat - 48)) 0

theorem toDigitsCore_append (fuel n : Nat) (ds : List Char) :
    Nat.toDigitsCore 10 fuel n ds = Nat.toDigitsCore 10 fuel n [] ++ ds := by
  induction fuel generalizing n ds with
  | zero => rfl
  | succ fuel ih =>
    simp only [Nat.toDigitsCore]
    split
    · rfl
    · rw [ih _ (_ :: ds), ih _ [_], List.append_assoc, List.singleton_append]

theorem decimalValue_toDigitsCore (fuel n : Nat) (h : n < fuel) :
    decimalValue (Nat.toDigitsCore 10 fuel n []) = n := by
  have hdigit : ∀ k < 10, (Nat.digitChar k).toNat - 48 = k := by decide
  induction fuel generalizing n with
  | zero => omega
  | succ fuel ih =>
    have hd := hdigit (n % 10) (Nat.mod_lt n (by omega))
    simp only [Nat.toDigitsCore]
    split
    · simp only [decimalValue, List.foldl_cons, List.foldl_nil, hd]
      omega
    · rw [toDigitsCore_append, decimalValue, List.foldl_append, ← decimalValue, ih _ (by omega)]
      simp only [List.foldl_cons, List.foldl_nil, hd]
      omega

/-- `toString` of a number reads back as that number. -/
theorem decimalValue_toString (n : Nat) : decimalValue (toString n).toList = n :=
  decimalValue_toDigitsCore (n + 1) n (by omega)

/-- Two widths share a cache key only if they are equal. -/
theorem placeholderKey_inj {n m : Nat} (h : placeholderKey n = placeholderKey m) : n = m := by
  have key : ∀ k, decimalValue ((placeholderKey k).data.drop 12) = k := fun k => by
    rw [placeholderKey, String.data_append, @List.drop_left' _ "placeholder:".data _ 12 rfl]
    exact decimalValue_toString k
  rw [← key n, ← key m, h]

/-- The group built for a width `n ≥ 1` holds `n` placeholders. -/
theorem countPlaceholders_placeholder {n : Nat} (hn : 1 ≤ n) :
    countPlaceholders (placeholder n) = n := by
  have h1 : countPlaceholders "(" = 0 := by decide
  have h2 : countPlaceholders "?," = 1 := by decide
  have h3 : countPlaceholders "?)" = 1 := by decide
  simp [placeholder, countPlaceholders_append, countPlaceholders_join, h1, h2, h3]
  omega

section Cache

variable (sum32 : String → UInt32)

/-- `getCachedPlaceholder`: the stored group on a hit, or on a miss the group built and stored;
`none` where Go panics. The cache comes back as `Get` left it, counters included. -/
def getCachedPlaceholder (fieldCount : Nat) (placeholderCache : ShardedCache) :
    ShardedCache × Option String :=
  match placeholderCache.get sum32 (placeholderKey fieldCount) with
  | (c, v, true) => (c, v.head?)
  | (c, _, false) =>
    if fieldCount = 0 then (c, none)
    else (c.set sum32 (placeholderKey fieldCount) [placeholder fieldCount], some (placeholder fieldCount))

/-- The loop `for i := 1; i < recordCount; i *= 2 { copy(placeholders[i:], placeholders[:i]) }`,
from `i`; `copy` writes `min(recordCount - i, i)` elements. -/
def copyDoubling (recordCount : Nat) (placeholders : List String) (i : Nat) : List String :=
  if 0 < i ∧ i < recordCount then
    copyDoubling recordCount (placeholders.take i ++ placeholders.take (min (recordCount - i) i) ++
      placeholders.drop (i + min (recordCount - i) i)) (2 * i)
  else placeholders
termination_by recordCount - i
decreasing_by omega

/-- `buildPlaceholders`: `recordCount` slots, the first filled by `getCachedPlaceholder` and the
rest by the doubling copies; `none` where `getCachedPlaceholder` panics. -/
def buildPlaceholders (fieldCount recordCount : Nat) (placeholderCache : ShardedCache) :
    ShardedCache × Option (List String) :=
  if 0 < recordCount then
    match getCachedPlaceholder sum32 fieldCount placeholderCache with
    | (c, some p) => (c, some (copyDoubling recordCount (p :: List.replicate (recordCount - 1) "") 1))
    | (c, none) => (c, none)
  else (placeholderCache, some [])

end Cache

/-- On a cache that refines a map, `getCachedPlaceholder` answers from the map: the first string
stored on a hit; on a miss the group it builds, or a panic for no columns. -/
theorem getCachedPlaceholder_of_refines {sum32 : String → UInt32} {c : ShardedCache}
    {M : String → Option (List String)} (hr : c.Refines sum32 M) (fieldCount : Nat) :
    (getCachedPlaceholder sum32 fieldCount c).2 = match M (placeholderKey fieldCount) with
      | some v => v.head?
      | none => if fieldCount = 0 then none else some (placeholder fieldCount) := by
  have hget := (ShardedCache.get_refines hr (placeholderKey fieldCount)).2
  unfold getCachedPlaceholder
  generalize c.get sum32 (placeholderKey fieldCount) = r at hget ⊢
  obtain ⟨c', v, b⟩ := r
  cases hM : M (placeholderKey fieldCount) with
  | some w => rw [hM] at hget; cases hget; rfl
  | none =>
    rw [hM] at hget
    cases hget
    by_cases h0 : fieldCount = 0 <;> simp [h0]

/-- A fresh cache misses: the group built for the width, or a panic for no columns. -/
theorem getCachedPlaceholder_newShardedCache (sum32 : String → UInt32) (numCPU : Int)
    (fieldCount : Nat) :
    (getCachedPlaceholder sum32 fieldCount (newShardedCache numCPU)).2 =
      if fieldCount = 0 then none else some (placeholder fieldCount) :=
  getCachedPlaceholder_of_refines (ShardedCache.newShardedCache_refines sum32 numCPU) fieldCount

theorem copyDoubling_of_le {recordCount i : Nat} (h : recordCount ≤ i) (placeholders : List String) :
    copyDoubling recordCount placeholders i = placeholders := by
  rw [copyDoubling, if_neg (by omega)]

/-- One record: the slice is the group `getCachedPlaceholder` gives. -/
theorem buildPlaceholders_one (sum32 : String → UInt32) (fieldCount : Nat) (c : ShardedCache) :
    buildPlaceholders sum32 fieldCount 1 c =
      ((getCachedPlaceholder sum32 fieldCount c).1,
        (getCachedPlaceholder sum32 fieldCount c).2.map ([·])) := by
  unfold buildPlaceholders
  rw [if_pos Nat.one_pos]
  rcases getCachedPlaceholder sum32 fieldCount c with ⟨c', _ | p⟩
  · rfl
  · simp [copyDoubling_of_le le_rfl]

/-! ## The cache along a run -/

/-- What the DB's `placeholderCache` goes through: a `getCachedPlaceholder` call of some width,
the `Clear` of `Close`, or an eviction the LRU tier of a shard makes on its own. -/
inductive PlaceholderEvent where
  | get (fieldCount : Nat)
  | clear
  | evict (i : Nat) (key : String)

section Run

variable (sum32 : String → UInt32)

/-- The cache after an event. -/
def PlaceholderEvent.apply (c : ShardedCache) : PlaceholderEvent → ShardedCache
  | .get fieldCount => (getCachedPlaceholder sum32 fieldCount c).1
  | .clear => c.clear
  | .evict i key => c.evict i key

/-- A cache as the placeholder path leaves it: it refines a map that holds, under the key of
each width, nothing or the group of that width. -/
def PlaceholderCache (c : ShardedCache) : Prop :=
  ∃ M, c.Refines sum32 M ∧
    ∀ n, M (placeholderKey n) = none ∨ M (placeholderKey n) = some [placeholder n]

variable {sum32}

/-- Every event keeps the cache a placeholder cache: a miss stores the group of its own width
under its own key, and keys of different widths differ. -/
theorem PlaceholderCache.apply {c : ShardedCache} (h : PlaceholderCache sum32 c)
    (e : PlaceholderEvent) : PlaceholderCache sum32 (e.apply sum32 c) := by
  obtain ⟨M, hr, hM⟩ := h
  cases e with
  | get fieldCount =>
    obtain ⟨hr', -⟩ := ShardedCache.get_refines hr (placeholderKey fieldCount)
    show PlaceholderCache sum32 (getCachedPlaceholder sum32 fieldCount c).1
    unfold getCachedPlaceholder
    generalize c.get sum32 (placeholderKey fieldCount) = r at hr' ⊢
    obtain ⟨c', v, _ | _⟩ := r
    · dsimp only
      split
      · exact ⟨M, hr', hM⟩
      · refine ⟨_, ShardedCache.set_refines hr' _ _, fun n => ?_⟩
        by_cases hn : placeholderKey n = placeholderKey fieldCount
        · rw [hn, Function.update_same, placeholderKey_inj hn]
          exact .inr rfl
        · rw [Function.update_noteq hn]
          exact hM n
    · exact ⟨M, hr', hM⟩
  | clear => exact ⟨_, ShardedCache.clear_refines hr, fun _ => .inl rfl⟩
  | evict i key => exact ⟨M, ShardedCache.evict_refines hr i key, hM⟩

/-- On every cache reached from `newShardedCache` by any history of `getCachedPlaceholder` calls of
any widths, clears and evictions, `getCachedPlaceholder` of a width `n ≥ 1` returns the group the
uncached path builds, with its `n` placeholders. -/
theorem getCachedPlaceholder_reachable (sum32 : String → UInt32) (numCPU : Int)
    (events : List PlaceholderEvent) {n : Nat} (hn : 1 ≤ n) :
    (getCachedPlaceholder sum32 n
        (events.foldl (PlaceholderEvent.apply sum32) (newShardedCache numCPU))).2 =
      some (placeholder n) ∧ countPlaceholders (placeholder n) = n := by
  obtain ⟨M, hr, hM⟩ := List.foldlRecOn (motive := PlaceholderCache sum32) events
    (PlaceholderEvent.apply sum32) _
    ⟨_, ShardedCache.newShardedCache_refines sum32 numCPU, fun _ => .inl rfl⟩
    fun _ hc e _ => hc.apply e
  refine ⟨?_, countPlaceholders_placeholder hn⟩
  rw [getCachedPlaceholder_of_refines hr]
  rcases hM n with h | h <;> rw [h]
  · rw [if_neg (by omega)]
  · rfl

/-- After widths 2 and 0 (a panic), a clear and width 3, width 3 is served from the cache, as the
uncached group. -/
theorem getCachedPlaceholder_reachable_afterClear :
    1 ≤ 3 ∧ ((getCachedPlaceholder (fun _ => 0) 3
        ([.get 2, .get 0, .clear, .get 3].foldl (PlaceholderEvent.apply fun _ => 0)
          (newShardedCache 4))).2 = some (placeholder 3) ∧ countPlaceholders (placeholder 3) = 3) :=
  ⟨by decide, getCachedPlaceholder_reachable (fun _ => 0) 4 [.get 2, .get 0, .clear, .get 3]
    (by decide)⟩

end Run

/-! ## The doubling copy -/

/-- One pass of the doubling copy on a slice whose first `i` slots hold `p`: `copy` writes the
first `min (recordCount - i) i` of them after the `i`-th slot, so the first `min (2 * i)
recordCount` slots hold `p` afterwards. -/
theorem copyPass_replicate {recordCount i : Nat} {p : String} {rest : List String}
    (hlen : i + rest.length = recordCount) :
    (List.replicate i p ++ rest).take i ++
        (List.replicate i p ++ rest).take (min (recordCount - i) i) ++
        (List.replicate i p ++ rest).drop (i + min (recordCount - i) i) =
      List.replicate (min (2 * i) recordCount) p ++ rest.drop (min (recordCount - i) i) := by
  have hk : min (recordCount - i) i ≤ (List.replicate i p).length := by simp
  rw [List.take_left' (List.length_replicate i p), List.take_append_of_le_length hk,
    List.take_replicate, List.drop_append_eq_append_drop, List.length_replicate,
    List.drop_eq_nil_of_le (by simp), List.nil_append, ← List.replicate_add]
  congr 2 <;> omega

/-- The doubling copy fills a slice whose first slot holds `p`: every pass doubles the filled
prefix (`copyPass_replicate`), until it covers all `recordCount` slots. -/
theorem copyDoubling_replicate (recordCount : Nat) (p : String) (placeholders : List String)
    (i : Nat) : 0 < i → ∀ rest, placeholders = List.replicate (min i recordCount) p ++ rest →
      min i recordCount + rest.length = recordCount →
      copyDoubling recordCount placeholders i = List.replicate recordCount p := by
  induction placeholders, i using copyDoubling.induct recordCount with
  | case1 placeholders i hi ih =>
    intro _ rest hl hlen
    rw [Nat.min_eq_left hi.2.le] at hl hlen
    subst hl
    rw [copyDoubling, if_pos hi]
    exact ih (by omega) _ (copyPass_replicate hlen) (by simp only [List.length_drop]; omega)
  | case2 placeholders i hi =>
    intro hpos rest hl hlen
    rw [copyDoubling, if_neg hi, hl, Nat.min_eq_right (by omega),
      List.eq_nil_of_length_eq_zero (by omega : rest.length = 0), List.append_nil]

/-- `buildPlaceholders` returns `recordCount` copies of the group `getCachedPlaceholder` gives, as
`List.replicate` does, and panics exactly where `getCachedPlaceholder` does; no record, no call. -/
theorem buildPlaceholders_eq_replicate (sum32 : String → UInt32) (fieldCount recordCount : Nat)
    (c : ShardedCache) :
    (buildPlaceholders sum32 fieldCount recordCount c).2 =
      if recordCount = 0 then some []
      else (getCachedPlaceholder sum32 fieldCount c).2.map (List.replicate recordCount) := by
  unfold buildPlaceholders
  by_cases h0 : recordCount = 0
  · simp [h0]
  · rw [if_pos (Nat.pos_of_ne_zero h0), if_neg h0]
    rcases getCachedPlaceholder sum32 fieldCount c with ⟨c', _ | p⟩
    · rfl
    · simp only [Option.map_some']
      rw [copyDoubling_replicate recordCount p _ 1 Nat.one_pos (List.replicate (recordCount - 1) "")
        (by rw [Nat.min_eq_left (by omega)]; rfl) (by simp only [List.length_replicate]; omega)]

end Xlorm
