import Xlorm.Cache.Sharded

/-!
# The cache's counters (`shardedCache.Stats`)

Every `Get` adds one to its shard's `hits` when it answers a value, from the LRU tier or from the
map, and one to its `misses` otherwise. `Clear` stores zero in both counters of every shard;
`Set`, `Delete` and the tier's own evictions leave them alone. `Stats` reads both counters of
every shard below `shardCount` into a map under `shard_{i}_hits` and `shard_{i}_misses`; that map
is modelled by the assignments its loop makes, in order. The counters are `atomic.Uint64`, so
they count modulo `2^64`.

**The law** (`shardedCache_stats`): from `newShardedCache numCPU`, after every history of calls,
`Stats` gives every shard the number of `Get`s since the latest `Clear` whose key hashes to it,
split by whether a single map given the same history answers them with a value.
-/

namespace Xlorm

namespace ShardedCache

/-- `Stats`: the assignments its loop makes into the map it returns, in order. -/
def stats (c : ShardedCache) : List (String × BitVec 64) :=
  (List.range c.shardCount).flatMap fun i =>
    let shard := c.shards.getD i default
    [("shard_" ++ toString i ++ "_hits", shard.hits),
      ("shard_" ++ toString i ++ "_misses", shard.misses)]

end ShardedCache

/-- What the counters read off one call and its reply: a `Get` adds its key and its flag, a
`Clear` empties the list. -/
def CacheCall.logGet (log : List (String × Bool)) : CacheCall × CacheReply → List (String × Bool)
  | (.get key, .got _ ok) => log ++ [(key, ok)]
  | (.clear, _) => []
  | _ => log

/-- The `Get`s of a history of calls and replies since its latest `Clear`. -/
def getsSinceClear (history : List (CacheCall × CacheReply)) : List (String × Bool) :=
  history.foldl CacheCall.logGet []

/-- The `Get`s of a log that land in shard `i` of `n` and answer `ok`. -/
def countGets (sum32 : String → UInt32) (n i : Nat) (ok : Bool) (log : List (String × Bool)) :
    Nat :=
  log.countP fun g => (sum32 g.1).toNat % n == i && g.2 == ok

theorem countGets_snoc (sum32 : String → UInt32) (n i : Nat) (ok : Bool)
    (log : List (String × Bool)) (key : String) (flag : Bool) :
    countGets sum32 n i ok (log ++ [(key, flag)]) =
      countGets sum32 n i ok log + if (sum32 key).toNat % n = i ∧ flag = ok then 1 else 0 := by
  simp only [countGets, List.countP_append, List.countP_singleton, Bool.and_eq_true, beq_iff_eq]

namespace ShardedCache

section Counters

variable {sum32 : String → UInt32}

/-- The counters of every shard of `n` count the `Get`s of `log` that land in it. -/
structure Counts (sum32 : String → UInt32) (n : Nat) (c : ShardedCache)
    (log : List (String × Bool)) : Prop where
  shardCount : c.shardCount = n
  counters : ∀ i < n, (c.shards.getD i default).hits = BitVec.ofNat 64 (countGets sum32 n i true log) ∧
    (c.shards.getD i default).misses = BitVec.ofNat 64 (countGets sum32 n i false log)

/-- `Get` bumps one counter of its own shard, by the flag it answers. -/
theorem get_shards (c : ShardedCache) (key : String) :
    (c.get sum32 key).1.shardCount = c.shardCount ∧
    (c.get sum32 key).1.shards = c.shards.set (c.hash sum32 key)
      (let shard := c.shards.getD (c.hash sum32 key) default
       if (c.get sum32 key).2.2 then { shard with hits := shard.hits + 1 }
       else { shard with misses := shard.misses + 1 }) := by
  unfold get
  dsimp only
  split
  · exact ⟨rfl, rfl⟩
  · split <;> exact ⟨rfl, rfl⟩

/-- A new map for one shard leaves every counter where it was. -/
theorem counters_set_m (l : List Shard) (si i : Nat) (m : String → Option (List String)) :
    ((l.set si { l.getD si default with m := m }).getD i default).hits = (l.getD i default).hits ∧
    ((l.set si { l.getD si default with m := m }).getD i default).misses =
      (l.getD i default).misses := by
  rw [getD_set]
  split
  · next h => rw [h.1]; exact ⟨rfl, rfl⟩
  · exact ⟨rfl, rfl⟩

/-- A shard `Clear` has passed is empty, in range or not. -/
theorem clearShard_getD (c : ShardedCache) (j i : Nat) :
    (c.clearShard j).shards.getD i default =
      if i = j then Shard.empty else c.shards.getD i default := by
  rw [clearShard, getD_set]
  by_cases hij : i = j
  · subst hij
    by_cases hlt : i < c.shards.length
    · simp [hlt]
    · simp only [and_false, if_false, if_true, hlt]
      exact List.getD_eq_default _ _ (Nat.le_of_not_lt hlt)
  · rw [if_neg fun h => hij h.1.symm, if_neg hij]

theorem foldl_clearShard_getD (l : List Nat) : ∀ (c : ShardedCache) (i : Nat),
    (l.foldl clearShard c).shards.getD i default =
      if i ∈ l then Shard.empty else c.shards.getD i default := by
  induction l with
  | nil => simp
  | cons j l ih =>
    intro c i
    rw [List.foldl_cons, ih, clearShard_getD]
    by_cases hi : i ∈ l <;> by_cases hij : i = j <;> simp [hi, hij]

/-- One call keeps the counters counting, the call logged. -/
theorem Counts.call {n : Nat} {c : ShardedCache} {log : List (String × Bool)} (hi : c.Inv sum32)
    (h : c.Counts sum32 n log) (cl : CacheCall) :
    (c.call sum32 cl).1.Counts sum32 n (CacheCall.logGet log (cl, (c.call sum32 cl).2)) := by
  cases cl with
  | get key =>
    obtain ⟨hcount, hshards⟩ := @get_shards sum32 c key
    have hlt : c.hash sum32 key < c.shards.length := hi.shards_length ▸ hash_lt hi key
    have hkey : (sum32 key).toNat % n = c.hash sum32 key := by rw [hash, h.shardCount]
    refine ⟨hcount.trans h.shardCount, fun i hin => ?_⟩
    simp only [ShardedCache.call, CacheCall.logGet, hshards, getD_set, countGets_snoc, hkey,
      ← BitVec.ofNat_add_ofNat, ← (h.counters i hin).1, ← (h.counters i hin).2]
    by_cases hki : c.hash sum32 key = i
    · subst hki
      cases (c.get sum32 key).2.2 <;> simp [hlt]
    · simp [hki]
  | set key _ | delete key =>
    refine ⟨h.shardCount, fun i hin => ?_⟩
    simp only [ShardedCache.call, CacheCall.logGet, ← (h.counters i hin).1,
      ← (h.counters i hin).2]
    exact counters_set_m c.shards _ i _
  | clear =>
    obtain ⟨h1, -⟩ := foldl_clearShard (List.range c.shardCount) c
    refine ⟨h1.trans h.shardCount, fun i hin => ?_⟩
    have hmem : i ∈ List.range c.shardCount := List.mem_range.mpr (h.shardCount ▸ hin)
    simp only [ShardedCache.call, ShardedCache.clear, CacheCall.logGet, foldl_clearShard_getD,
      hmem, if_true]
    exact ⟨rfl, rfl⟩
  | evict j key => exact ⟨h.shardCount, h.counters⟩

/-- Every call keeps the cache's invariant. -/
theorem inv_call {c : ShardedCache} (h : c.Inv sum32) (cl : CacheCall) :
    (c.call sum32 cl).1.Inv sum32 :=
  (call_refines ⟨h, fun _ => rfl⟩ cl).1.1

/-- Every history keeps the counters counting, each call logged with its own reply. -/
theorem counts_runCalls {n : Nat} : ∀ (calls : List CacheCall) {c : ShardedCache}
    {log : List (String × Bool)}, c.Inv sum32 → c.Counts sum32 n log →
    (runCalls (call sum32) c calls).1.Counts sum32 n
      ((calls.zip (runCalls (call sum32) c calls).2).foldl CacheCall.logGet log)
  | [], _, _, _, h => h
  | cl :: calls, _, _, hi, h => by
    simpa only [runCalls_cons, List.zip_cons_cons, List.foldl_cons] using
      counts_runCalls calls (inv_call hi cl) (h.call hi cl)

theorem counts_newShardedCache (numCPU : Int) :
    (newShardedCache numCPU).Counts sum32 (newShardedCache numCPU).shardCount [] := by
  refine ⟨rfl, fun i _ => ?_⟩
  have hempty : (newShardedCache numCPU).shards.getD i default = Shard.empty := by
    rw [newShardedCache, List.getD_eq_getElem?_getD]
    exact List.getElem?_getD_replicate_default_eq _ _ _
  rw [hempty]
  exact ⟨rfl, rfl⟩

end Counters

end ShardedCache

/-- From `newShardedCache numCPU`, after every history of calls: `Stats` gives every shard `i`
the number, modulo `2^64`, of `Get`s since the latest `Clear` whose key hashes to `i` and that
a single map given the same history answers with a value, as its hits, and the number of the
others as its misses. -/
theorem shardedCache_stats (sum32 : String → UInt32) (numCPU : Int) (calls : List CacheCall) :
    let n := (newShardedCache numCPU).shardCount
    let gets := getsSinceClear (calls.zip (runCalls MapCache.call (fun _ => none) calls).2)
    (runCalls (ShardedCache.call sum32) (newShardedCache numCPU) calls).1.stats =
      (List.range n).flatMap fun i =>
        [("shard_" ++ toString i ++ "_hits", BitVec.ofNat 64 (countGets sum32 n i true gets)),
          ("shard_" ++ toString i ++ "_misses", BitVec.ofNat 64 (countGets sum32 n i false gets))] := by
  intro n gets
  obtain ⟨-, hreplies⟩ := runCalls_simulation (ShardedCache.Refines sum32)
    (fun _ _ cl h => ShardedCache.call_refines h cl) calls
    (ShardedCache.newShardedCache_refines sum32 numCPU)
  have h := ShardedCache.counts_runCalls calls
    (ShardedCache.newShardedCache_refines sum32 numCPU).1
    (ShardedCache.counts_newShardedCache numCPU)
  rw [hreplies] at h
  rw [ShardedCache.stats, h.shardCount]
  exact congrArg List.flatten (List.map_congr_left fun i hi => by
    dsimp only
    rw [(h.counters i (List.mem_range.mp hi)).1, (h.counters i (List.mem_range.mp hi)).2]; rfl)

end Xlorm
