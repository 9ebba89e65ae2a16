import Mathlib.Data.List.Basic

/-!
# The LRU tier (`golang-lru/v2`, as `shardedCache` uses it)

Each shard of the cache keeps a `lru.Cache[string, []string]` of size 1024 beside its plain map.
The library is not part of this repository; this module models the four calls the cache
makes, with the library's documented behaviour: entries are kept most recent first, `Add`
of a present key replaces its value and moves it to the front, `Add` of a new key puts it in
front and evicts the oldest entry once the size is exceeded, `Get` moves a hit to the front,
`Remove` drops a key and `Purge` drops everything.

What the cache's refinement needs of the tier is one fact per call about which key-value
pairs it can hold afterwards (`mem_add`, `mem_get`, `mem_remove`): none of them invents a pair,
and `Add` and `Remove` leave no stale pair of their key behind.
-/

namespace Xlorm

/-- A bounded LRU cache from strings, its entries most recent first. -/
structure Lru (V : Type) where
  size : Nat
  entries : List (String × V)

variable {V : Type}

instance : Inhabited (Lru V) := ⟨⟨0, []⟩⟩

namespace Lru

/-- `lru.New`: an empty cache of the given size. -/
def new (size : Nat) : Lru V := ⟨size, []⟩

/-- The entries other than those of `key`. -/
def without (c : Lru V) (key : String) : List (String × V) :=
  c.entries.filter fun p => p.1 != key

/-- `Add`: a present key gets its new value at the front; a new key goes in front, and the
oldest entry is evicted once there are more than `size`. -/
def add (c : Lru V) (key : String) (value : V) : Lru V :=
  match c.entries.lookup key with
  | some _ => { c with entries := (key, value) :: c.without key }
  | none =>
    let es := (key, value) :: c.entries
    { c with entries := if es.length > c.size then es.dropLast else es }

/-- `Get`: a hit moves to the front. -/
def get (c : Lru V) (key : String) : Lru V × Option V :=
  match c.entries.lookup key with
  | some value => ({ c with entries := (key, value) :: c.without key }, some value)
  | none => (c, none)

/-- `Remove`. -/
def remove (c : Lru V) (key : String) : Lru V := { c with entries := c.without key }

/-- `Purge`. -/
def purge (c : Lru V) : Lru V := { c with entries := [] }

/-! ## Which pairs the tier can hold -/

theorem mem_of_lookup : ∀ {l : List (String × V)} {k : String} {v : V},
    l.lookup k = some v → (k, v) ∈ l
  | [], _, _, h => by cases h
  | (k', v') :: l, k, v, h => by
    by_cases hk : k = k'
    · subst hk
      rw [List.lookup_cons_self, Option.some.injEq] at h
      simp [h]
    · rw [List.lookup_cons, beq_false_of_ne hk] at h
      exact List.mem_cons_of_mem _ (mem_of_lookup h)

theorem ne_of_lookup_none : ∀ {l : List (String × V)} {k : String},
    l.lookup k = none → ∀ p ∈ l, p.1 ≠ k
  | [], _, _, p, hp => absurd hp (List.not_mem_nil p)
  | (k', v') :: l, k, h, p, hp => by
    by_cases hk : k = k'
    · subst hk
      simp at h
    · rw [List.lookup_cons, beq_false_of_ne hk] at h
      rcases List.mem_cons.mp hp with rfl | hp
      · exact Ne.symm hk
      · exact ne_of_lookup_none h p hp

theorem mem_without {c : Lru V} {key : String} {p : String × V} :
    p ∈ c.without key ↔ p ∈ c.entries ∧ p.1 ≠ key := by
  simp [without]

theorem mem_add {c : Lru V} {key : String} {value : V} {p : String × V}
    (hp : p ∈ (c.add key value).entries) : p = (key, value) ∨ (p ∈ c.entries ∧ p.1 ≠ key) := by
  unfold add at hp
  split at hp
  · exact (List.mem_cons.mp hp).imp_right mem_without.mp
  · next hnone =>
    have hp' : p ∈ (key, value) :: c.entries := by
      dsimp only at hp
      split at hp
      · exact (List.dropLast_sublist _).subset hp
      · exact hp
    exact (List.mem_cons.mp hp').imp_right fun h => ⟨h, ne_of_lookup_none hnone p h⟩

theorem mem_get {c : Lru V} {key : String} {p : String × V}
    (hp : p ∈ (c.get key).1.entries) : p ∈ c.entries := by
  unfold get at hp
  split at hp
  · next value hv =>
    rcases List.mem_cons.mp hp with rfl | hp
    · exact mem_of_lookup hv
    · exact (mem_without.mp hp).1
  · exact hp

theorem get_some {c : Lru V} {key : String} {value : V}
    (h : (c.get key).2 = some value) : (key, value) ∈ c.entries := by
  unfold get at h
  split at h
  · next hv => exact (Option.some.inj h) ▸ mem_of_lookup hv
  · cases h

theorem get_none {c : Lru V} {key : String} (h : (c.get key).2 = none) : (c.get key).1 = c := by
  unfold get at h ⊢
  split at h
  · cases h
  · next hv => simp [hv]

theorem mem_remove {c : Lru V} {key : String} {p : String × V}
    (hp : p ∈ (c.remove key).entries) : p ∈ c.entries ∧ p.1 ≠ key :=
  mem_without.mp hp

end Lru

end Xlorm
