import Mathlib.Logic.Function.Basic
import Mathlib.Data.List.GetD
import Xlorm.Cache.Lru
import Xlorm.Machine

/-!
# The sharded cache (`shardedCache`)

The key space is split over `shardCount` shards, one per CPU between 1 and 64. A key's shard
is `murmur3.Sum32(key) % shardCount`. Each shard holds a plain map, the store of record, and
an LRU tier in front of it: `Get` reads the tier first and, on a miss there, the map,
promoting a map hit into the tier; `Set` writes both; `Delete` removes from both; `Clear` empties
every shard in turn.

`murmur3` is a library, so its hash is the section variable `sum32`. The tier may also drop
any entry at any time (its own capacity policy, or any other): `CacheCall.evict` lets the
environment do so between calls. The locks are left out: each call below is one critical
section, and the law is about sequences of calls.

**The law** (`shardedCache_refines_map`): from `newShardedCache numCPU`, for every shard count
the clamp can give, every sequence of calls keeps the invariant (every key lives only in its
own shard, and every pair in a shard's tier is in that shard's map), answers every call as a
single map does, and a final `Get(k)` finds `v` exactly when the latest `Set(k, v)` comes after
every `Delete(k)` and every `Clear`.
-/

namespace Xlorm

/-- `shard`: the plain map and its counters. -/
structure Shard where
  m : String → Option (List String)
  hits : BitVec 64
  misses : BitVec 64

/-- The empty shard: what `newShardedCache` and `Clear` put in every slot. -/
def Shard.empty : Shard := ⟨fun _ => none, 0, 0⟩

instance : Inhabited Shard := ⟨Shard.empty⟩

/-- `shardedCache`. -/
structure ShardedCache where
  shards : List Shard
  shardCount : Nat
  lruCaches : List (Lru (List String))

/-- `defaultLRUCacheSize`. -/
def defaultLRUCacheSize : Nat := 1024

/-- `newShardedCache`: one shard per CPU, clamped to `[1, 64]`. `lru.New` fails only for a
non-positive size, so its `panic` is unreachable at 1024. -/
def newShardedCache (numCPU : Int) : ShardedCache :=
  let numShards := if numCPU < 1 then 1 else if numCPU > 64 then 64 else numCPU
  { shards := List.replicate numShards.toNat Shard.empty,
    shardCount := numShards.toNat,
    lruCaches := List.replicate numShards.toNat (Lru.new defaultLRUCacheSize) }

/-- A call on the cache, or an eviction the LRU tier of one shard makes on its own. -/
inductive CacheCall where
  | get (key : String)
  | set (key : String) (value : List String)
  | delete (key : String)
  | clear
  | evict (shard : Nat) (key : String)

/-- What a call answers: `Get`'s value and flag, or nothing (`Delete`'s error is always nil). -/
inductive CacheReply where
  | got (value : List String) (ok : Bool)
  | done
  deriving DecidableEq

namespace ShardedCache

section Calls

variable (sum32 : String → UInt32)

/-- `hash`: the key's `murmur3.Sum32` modulo the shard count. -/
def hash (c : ShardedCache) (key : String) : Nat := (sum32 key).toNat % c.shardCount

/-- `Get`. -/
def get (c : ShardedCache) (key : String) : ShardedCache × (List String × Bool) :=
  let shardIndex := c.hash sum32 key
  let shard := c.shards.getD shardIndex default
  let lruCache := c.lruCaches.getD shardIndex default
  match (lruCache.get key).2 with
  | some value =>
    ({ c with lruCaches := c.lruCaches.set shardIndex (lruCache.get key).1,
              shards := c.shards.set shardIndex { shard with hits := shard.hits + 1 } },
      (value, true))
  | none =>
    match shard.m key with
    | some value =>
      ({ c with lruCaches := c.lruCaches.set shardIndex (lruCache.add key value),
                shards := c.shards.set shardIndex { shard with hits := shard.hits + 1 } },
        (value, true))
    | none =>
      ({ c with shards := c.shards.set shardIndex { shard with misses := shard.misses + 1 } },
        ([], false))

/-- `Set`. -/
def set (c : ShardedCache) (key : String) (value : List String) : ShardedCache :=
  let shardIndex := c.hash sum32 key
  let shard := c.shards.getD shardIndex default
  let lruCache := c.lruCaches.getD shardIndex default
  { c with shards := c.shards.set shardIndex { shard with m := Function.update shard.m key (some value) },
           lruCaches := c.lruCaches.set shardIndex (lruCache.add key value) }

/-- `Delete`; its error is always nil. -/
def delete (c : ShardedCache) (key : String) : ShardedCache :=
  let shardIndex := c.hash sum32 key
  let shard := c.shards.getD shardIndex default
  let lruCache := c.lruCaches.getD shardIndex default
  { c with shards := c.shards.set shardIndex { shard with m := Function.update shard.m key none },
           lruCaches := c.lruCaches.set shardIndex (lruCache.remove key) }

end Calls

/-- One iteration of `Clear`'s loop: a fresh map, zero counters, a purged tier. -/
def clearShard (c : ShardedCache) (i : Nat) : ShardedCache :=
  { c with shards := c.shards.set i Shard.empty,
           lruCaches := c.lruCaches.set i (c.lruCaches.getD i default).purge }

/-- `Clear`: every shard in turn. -/
def clear (c : ShardedCache) : ShardedCache := (List.range c.shardCount).foldl clearShard c

/-- The tier of shard `i` drops `key` on its own. -/
def evict (c : ShardedCache) (i : Nat) (key : String) : ShardedCache :=
  { c with lruCaches := c.lruCaches.set i ((c.lruCaches.getD i default).remove key) }

/-- One call. -/
def call (sum32 : String → UInt32) (c : ShardedCache) : CacheCall → ShardedCache × CacheReply
  | .get key => ((c.get sum32 key).1, .got (c.get sum32 key).2.1 (c.get sum32 key).2.2)
  | .set key value => (c.set sum32 key value, .done)
  | .delete key => (c.delete sum32 key, .done)
  | .clear => (c.clear, .done)
  | .evict i key => (c.evict i key, .done)

/-- The value a key has in the cache: its entry in its own shard's map. -/
def lookup (sum32 : String → UInt32) (c : ShardedCache) (key : String) : Option (List String) :=
  (c.shards.getD (c.hash sum32 key) default).m key

/-- The cache invariant: one shard and one tier per shard index, every key only in its own
shard, every pair of a shard's tier in that shard's map. -/
structure Inv (sum32 : String → UInt32) (c : ShardedCache) : Prop where
  count_pos : 0 < c.shardCount
  shards_length : c.shards.length = c.shardCount
  lru_length : c.lruCaches.length = c.shardCount
  home : ∀ i key, ((c.shards.getD i default).m key).isSome → c.hash sum32 key = i
  lru_within : ∀ i, ∀ p ∈ (c.lruCaches.getD i default).entries,
    (c.shards.getD i default).m p.1 = some p.2

end ShardedCache

/-! ## The single map the cache refines -/

/-- A map from keys to values, answering the same calls. -/
def MapCache.call (M : String → Option (List String)) :
    CacheCall → (String → Option (List String)) × CacheReply
  | .get key => (M, match M key with
      | some v => .got v true
      | none => .got [] false)
  | .set key value => (Function.update M key (some value), .done)
  | .delete key => (Function.update M key none, .done)
  | .clear => (fun _ => none, .done)
  | .evict _ _ => (M, .done)

/-- Scanning a history back from its latest call: the value of the first `Set(key, v)` met,
unless a `Delete(key)` or a `Clear` is met first. -/
def latestSetRev (key : String) : List CacheCall → Option (List String)
  | [] => none
  | .set k v :: rest => if k = key then some v else latestSetRev key rest
  | .delete k :: rest => if k = key then none else latestSetRev key rest
  | .clear :: _ => none
  | _ :: rest => latestSetRev key rest

/-- The value of the latest `Set(key, v)` of a history that no later `Delete(key)` or `Clear`
undoes. -/
def latestSet (key : String) (calls : List CacheCall) : Option (List String) :=
  latestSetRev key calls.reverse

namespace ShardedCache

/-- A cache refines a map when it keeps the invariant and gives every key the map's value. -/
def Refines (sum32 : String → UInt32) (c : ShardedCache) (M : String → Option (List String)) :
    Prop :=
  c.Inv sum32 ∧ ∀ key, c.lookup sum32 key = M key

section Refinement

variable {sum32 : String → UInt32} {c : ShardedCache}

theorem hash_lt (h : c.Inv sum32) (key : String) : c.hash sum32 key < c.shardCount :=
  Nat.mod_lt _ h.count_pos

/-- Shard `i` gets a new map and a new tier that keep both invariant clauses for it. -/
theorem inv_replace (h : c.Inv sum32) {i : Nat} (sh : Shard) (l : Lru (List String))
    (hhome : ∀ key, (sh.m key).isSome → c.hash sum32 key = i)
    (hwithin : ∀ p ∈ l.entries, sh.m p.1 = some p.2) :
    Inv sum32 { c with shards := c.shards.set i sh, lruCaches := c.lruCaches.set i l } := by
  refine ⟨h.count_pos, by simp [h.shards_length], by simp [h.lru_length], ?_, ?_⟩ <;>
    intro j <;> dsimp only <;> simp only [getD_set, h.shards_length, h.lru_length]
  · intro key hj
    split at hj
    · next hij => exact hij.1 ▸ hhome key hj
    · exact h.home j key hj
  · intro p hp
    split at hp <;> split
    · exact hwithin p hp
    · next hij hij' => exact absurd hij hij'
    · next hij hij' => exact absurd hij' hij
    · exact h.lru_within j p hp

theorem lookup_replace (h : c.Inv sum32) {i : Nat} (hi : i < c.shardCount) (sh : Shard)
    (l : Lru (List String)) (key : String) :
    lookup sum32 { c with shards := c.shards.set i sh, lruCaches := c.lruCaches.set i l } key =
      if c.hash sum32 key = i then sh.m key else c.lookup sum32 key := by
  change ((c.shards.set i sh).getD (c.hash sum32 key) default).m key = _
  rw [getD_set, h.shards_length]
  by_cases hk : c.hash sum32 key = i
  · simp [hk, hi]
  · rw [if_neg fun hh => hk hh.1.symm, if_neg hk]
    rfl

/-- Maps kept, tiers shrunk: the invariant and every key's value survive. -/
theorem refines_of_sub {c' : ShardedCache} {M : String → Option (List String)}
    (hr : c.Refines sum32 M) (hcount : c'.shardCount = c.shardCount)
    (hlen : c'.shards.length = c.shards.length) (hlen' : c'.lruCaches.length = c.lruCaches.length)
    (hmaps : ∀ j, (c'.shards.getD j default).m = (c.shards.getD j default).m)
    (hsub : ∀ j, ∀ p ∈ (c'.lruCaches.getD j default).entries, p ∈ (c.lruCaches.getD j default).entries) :
    c'.Refines sum32 M := by
  obtain ⟨h, hM⟩ := hr
  have hhash : ∀ key, c'.hash sum32 key = c.hash sum32 key := by simp [hash, hcount]
  refine ⟨⟨hcount ▸ h.count_pos, by rw [hlen, hcount, h.shards_length],
    by rw [hlen', hcount, h.lru_length], fun i key hk => ?_, fun i p hp => ?_⟩, fun key => ?_⟩
  · rw [hhash]; rw [hmaps] at hk; exact h.home i key hk
  · rw [hmaps]; exact h.lru_within i p (hsub i p hp)
  · rw [← hM, lookup, lookup, hhash, hmaps]

theorem set_refines {M : String → Option (List String)} (hr : c.Refines sum32 M) (key : String)
    (value : List String) :
    (c.set sum32 key value).Refines sum32 (Function.update M key (some value)) := by
  obtain ⟨h, hM⟩ := hr
  have hi := hash_lt h key
  refine ⟨inv_replace h _ _ (fun k hk => ?_) (fun p hp => ?_), fun k => ?_⟩
  · by_cases hkk : k = key
    · rw [hkk]
    · dsimp only at hk
      rw [Function.update_noteq hkk] at hk
      exact h.home _ k hk
  · rcases Lru.mem_add hp with rfl | ⟨hp, hne⟩
    · simp
    · dsimp only
      rw [Function.update_noteq hne]
      exact h.lru_within _ p hp
  · rw [set, lookup_replace h hi]
    dsimp only
    by_cases hkk : k = key
    · subst hkk
      simp
    · rw [Function.update_noteq hkk, Function.update_noteq hkk, ← hM k]
      split
      · next hk => rw [lookup, hk]
      · rfl

theorem delete_refines {M : String → Option (List String)} (hr : c.Refines sum32 M) (key : String) :
    (c.delete sum32 key).Refines sum32 (Function.update M key none) := by
  obtain ⟨h, hM⟩ := hr
  have hi := hash_lt h key
  refine ⟨inv_replace h _ _ (fun k hk => ?_) (fun p hp => ?_), fun k => ?_⟩
  · dsimp only at hk
    by_cases hkk : k = key
    · subst hkk
      simp at hk
    · rw [Function.update_noteq hkk] at hk
      exact h.home _ k hk
  · obtain ⟨hp, hne⟩ := Lru.mem_remove hp
    dsimp only
    rw [Function.update_noteq hne]
    exact h.lru_within _ p hp
  · rw [delete, lookup_replace h hi]
    dsimp only
    by_cases hkk : k = key
    · subst hkk
      simp
    · rw [Function.update_noteq hkk, Function.update_noteq hkk, ← hM k]
      split
      · next hk => rw [lookup, hk]
      · rfl

theorem maps_set_same {l : List Shard} {i : Nat} {sh : Shard} (hsh : sh.m = (l.getD i default).m)
    (j : Nat) : ((l.set i sh).getD j default).m = (l.getD j default).m := by
  rw [getD_set]
  split
  · next hij => rw [← hij.1]; exact hsh
  · rfl

theorem entries_set_sub {l : List (Lru (List String))} {i : Nat} {x : Lru (List String)}
    (hx : ∀ p ∈ x.entries, p ∈ (l.getD i default).entries) (j : Nat) :
    ∀ p ∈ ((l.set i x).getD j default).entries, p ∈ (l.getD j default).entries := by
  rw [getD_set]
  split
  · next hij => rw [← hij.1]; exact hx
  · exact fun _ hp => hp

theorem get_refines {M : String → Option (List String)} (hr : c.Refines sum32 M) (key : String) :
    (c.get sum32 key).1.Refines sum32 M ∧
      (c.get sum32 key).2 = match M key with
        | some v => (v, true)
        | none => ([], false) := by
  obtain ⟨h, hM⟩ := hr
  have hi := hash_lt h key
  rw [← hM key]
  unfold get
  dsimp only
  split
  · -- a hit in the tier: its pair is in the map
    next value hv =>
    have hval : c.lookup sum32 key = some value := h.lru_within _ _ (Lru.get_some hv)
    refine ⟨refines_of_sub ⟨h, hM⟩ rfl (by simp) (by simp) (maps_set_same rfl)
      (entries_set_sub fun _ => Lru.mem_get), by rw [hval]⟩
  · split
    · -- a hit in the map, promoted into the tier
      next value hval =>
      refine ⟨⟨inv_replace h _ _ (h.home _) fun p hp => ?_, fun k => ?_⟩, by rw [lookup, hval]⟩
      · rcases Lru.mem_add hp with rfl | ⟨hp, -⟩
        · exact hval
        · exact h.lru_within _ p hp
      · rw [lookup_replace h hi, ← hM k]
        split
        · next hk => rw [lookup, hk]
        · rfl
    · -- a miss everywhere
      next hval =>
      exact ⟨refines_of_sub ⟨h, hM⟩ rfl (by simp) rfl (maps_set_same rfl)
        (fun _ _ hp => hp), by rw [lookup, hval]⟩

theorem evict_refines {M : String → Option (List String)} (hr : c.Refines sum32 M) (i : Nat)
    (key : String) : (c.evict i key).Refines sum32 M :=
  refines_of_sub hr rfl rfl (by simp [evict]) (fun _ => rfl)
    (entries_set_sub (fun _ hp => (Lru.mem_remove hp).1))

theorem clearShard_m (c : ShardedCache) (j i : Nat) :
    ((c.clearShard j).shards.getD i default).m =
      if i = j then fun _ => none else (c.shards.getD i default).m := by
  rw [clearShard, getD_set]
  by_cases hij : i = j
  · subst hij
    rw [if_pos rfl]
    by_cases hlt : i < c.shards.length
    · rw [if_pos ⟨rfl, hlt⟩]; rfl
    · rw [if_neg fun h => hlt h.2, List.getD_eq_default _ _ (Nat.le_of_not_lt hlt)]; rfl
  · rw [if_neg fun h => hij h.1.symm, if_neg hij]

theorem clearShard_entries (c : ShardedCache) (j i : Nat) :
    ((c.clearShard j).lruCaches.getD i default).entries =
      if i = j then [] else (c.lruCaches.getD i default).entries := by
  rw [clearShard, getD_set]
  by_cases hij : i = j
  · subst hij
    rw [if_pos rfl]
    by_cases hlt : i < c.lruCaches.length
    · rw [if_pos ⟨rfl, hlt⟩]; rfl
    · rw [if_neg fun h => hlt h.2, List.getD_eq_default _ _ (Nat.le_of_not_lt hlt)]; rfl
  · rw [if_neg fun h => hij h.1.symm, if_neg hij]

theorem foldl_clearShard (l : List Nat) : ∀ (c : ShardedCache),
    (l.foldl clearShard c).shardCount = c.shardCount ∧
    (l.foldl clearShard c).shards.length = c.shards.length ∧
    (l.foldl clearShard c).lruCaches.length = c.lruCaches.length ∧
    ∀ i, ((l.foldl clearShard c).shards.getD i default).m =
        (if i ∈ l then fun _ => none else (c.shards.getD i default).m) ∧
      ((l.foldl clearShard c).lruCaches.getD i default).entries =
        (if i ∈ l then [] else (c.lruCaches.getD i default).entries) := by
  induction l with
  | nil => simp
  | cons j l ih =>
    intro c
    obtain ⟨h1, h2, h3, h4⟩ := ih (c.clearShard j)
    refine ⟨h1, by simpa [clearShard] using h2, by simpa [clearShard] using h3, fun i => ?_⟩
    rw [List.foldl_cons, (h4 i).1, (h4 i).2, clearShard_m, clearShard_entries]
    by_cases hi : i ∈ l <;> by_cases hij : i = j <;> simp [hi, hij]

theorem clear_refines {M : String → Option (List String)} (hr : c.Refines sum32 M) :
    c.clear.Refines sum32 fun _ => none := by
  obtain ⟨h, -⟩ := hr
  obtain ⟨h1, h2, h3, h4⟩ := foldl_clearShard (List.range c.shardCount) c
  have hempty : ∀ i, (c.clear.shards.getD i default).m = fun _ => none := fun i => by
    rw [clear, (h4 i).1]
    split
    · rfl
    · next hi =>
      rw [List.getD_eq_default _ _ (by rw [h.shards_length]; simpa using hi)]
      rfl
  have hnil : ∀ i, (c.clear.lruCaches.getD i default).entries = [] := fun i => by
    rw [clear, (h4 i).2]
    split
    · rfl
    · next hi =>
      rw [List.getD_eq_default _ _ (by rw [h.lru_length]; simpa using hi)]
      rfl
  refine ⟨⟨?_, ?_, ?_, fun i key hk => ?_, fun i p hp => ?_⟩, fun key => ?_⟩
  · rw [clear, h1]; exact h.count_pos
  · rw [clear, h1, h2, h.shards_length]
  · rw [clear, h1, h3, h.lru_length]
  · rw [hempty] at hk; simp at hk
  · rw [hnil] at hp; simp at hp
  · rw [lookup, hempty]

end Refinement

theorem replicate_m (n i : Nat) : ((List.replicate n Shard.empty).getD i default).m = fun _ => none := by
  rw [List.getD_eq_getElem?_getD, List.getElem?_replicate]
  split <;> rfl

theorem replicate_entries (n i : Nat) :
    ((List.replicate n (Lru.new defaultLRUCacheSize : Lru (List String))).getD i default).entries = [] := by
  rw [List.getD_eq_getElem?_getD, List.getElem?_replicate]
  split <;> rfl

theorem newShardedCache_refines (sum32 : String → UInt32) (numCPU : Int) :
    (newShardedCache numCPU).Refines sum32 fun _ => none := by
  have hpos : 0 < (if numCPU < 1 then (1 : Int) else if numCPU > 64 then 64 else numCPU).toNat := by
    split
    · decide
    · split <;> omega
  have hm : ∀ i, ((newShardedCache numCPU).shards.getD i default).m = fun _ => none :=
    fun i => replicate_m _ i
  have he : ∀ i, ((newShardedCache numCPU).lruCaches.getD i default).entries = [] :=
    fun i => replicate_entries _ i
  refine ⟨⟨hpos, by simp [newShardedCache], by simp [newShardedCache], fun i key hk => ?_,
    fun i p hp => ?_⟩, fun key => ?_⟩
  · rw [hm] at hk; simp at hk
  · rw [he] at hp; simp at hp
  · rw [lookup, hm]

/-- One call of the cache is one call of the map. -/
theorem call_refines {sum32 : String → UInt32} {c : ShardedCache} {M : String → Option (List String)}
    (hr : c.Refines sum32 M) : ∀ cl : CacheCall,
    (c.call sum32 cl).1.Refines sum32 (MapCache.call M cl).1 ∧
      (c.call sum32 cl).2 = (MapCache.call M cl).2
  | .get key => by
    obtain ⟨h', hreply⟩ := get_refines hr key
    refine ⟨h', ?_⟩
    simp only [call, MapCache.call, hreply]
    split <;> rfl
  | .set key value => ⟨set_refines hr key value, rfl⟩
  | .delete key => ⟨delete_refines hr key, rfl⟩
  | .clear => ⟨clear_refines hr, rfl⟩
  | .evict i key => ⟨evict_refines hr i key, rfl⟩

end ShardedCache

/-- The map a history of calls leaves holds, at every key, the latest `Set` no later `Delete`
or `Clear` undid. -/
theorem mapCache_latestSet (calls : List CacheCall) (key : String) :
    (runCalls MapCache.call (fun _ => none) calls).1 key = latestSet key calls := by
  induction calls using List.reverseRecOn with
  | nil => rfl
  | append_singleton calls cl ih =>
    rw [runCalls_append_fst, latestSet, List.reverse_append, List.reverse_singleton,
      List.singleton_append]
    cases cl with
    | get k => exact ih
    | set k v =>
      by_cases hk : k = key
      · subst hk
        simp [MapCache.call, latestSetRev]
      · simp [MapCache.call, latestSetRev, hk, Function.update_noteq (Ne.symm hk), ih, latestSet]
    | delete k =>
      by_cases hk : k = key
      · subst hk
        simp [MapCache.call, latestSetRev]
      · simp [MapCache.call, latestSetRev, hk, Function.update_noteq (Ne.symm hk), ih, latestSet]
    | clear => rfl
    | evict i k => exact ih

/-- From `newShardedCache numCPU`, for every shard count and every history of `Get`, `Set`,
`Delete`, `Clear` and evictions by the LRU tier: the invariant holds, every call answers as
one map does, and `Get(key)` answers `(v, true)` exactly when the latest `Set(key, v)` comes
after every `Delete(key)` and every `Clear`, and `(nil, false)` otherwise. -/
theorem shardedCache_refines_map (sum32 : String → UInt32) (numCPU : Int) (calls : List CacheCall)
    (key : String) :
    (runCalls (ShardedCache.call sum32) (newShardedCache numCPU) calls).1.Inv sum32 ∧
    (runCalls (ShardedCache.call sum32) (newShardedCache numCPU) calls).2 =
      (runCalls MapCache.call (fun _ => none) calls).2 ∧
    ((runCalls (ShardedCache.call sum32) (newShardedCache numCPU) calls).1.get sum32 key).2 =
      match latestSet key calls with
      | some v => (v, true)
      | none => ([], false) := by
  obtain ⟨hr, hreplies⟩ := runCalls_simulation (ShardedCache.Refines sum32)
    (fun _ _ cl h => ShardedCache.call_refines h cl) calls
    (ShardedCache.newShardedCache_refines sum32 numCPU)
  refine ⟨hr.1, hreplies, ?_⟩
  rw [(ShardedCache.get_refines hr key).2, mapCache_latestSet]

end Xlorm
