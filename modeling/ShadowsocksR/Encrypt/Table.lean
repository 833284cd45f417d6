/-
  ShadowsocksR.Encrypt.Table — the `table` cipher's tables (`encrypt.c`: `random_compare`,
  `merge`, `merge_sort`, `enc_table_init`).

  `enc_table_init` starts from the identity table, sorts it 1023 times with
  `merge_sort`, the pass number `i` as the salt and a key read from the password's MD5
  digest, and then writes `dec_table[enc_table[i]] = i`. The comparator
  `random_compare` is `a % (x + i) - a % (y + i)` in 64 bits cut to an `int`: not an
  order, so nothing here assumes one. MD5 is the library's (`Crypto.md5`).

  `merge_sort` keeps `middle` in a `uint8_t`, so on 512 bytes or more its recursion can
  stop halving; `mergeSort` runs the recursion with a depth bound one past the length,
  and `none` stands for a recursion that does not end.

  Proved: `merge` is core's `List.merge` and `merge_sort` core's `List.mergeSort` with
  `random_compare ≤ 0` as the comparison, for every salt and key, on every array shorter
  than 512 bytes (`merge_eq`, `mergeSort_eq`); so every pass returns a permutation, the
  1023 passes end with a permutation of the identity table (`sortPasses_perm`), and the
  decryption table is its inverse on both sides (`decTableOf_encTable`,
  `encTable_decTableOf`).
-/

import ShadowsocksR.Crypto
import ShadowsocksR.Lib.CString

namespace ShadowsocksR.Encrypt

open Bytes

/-- `random_compare(&x, &y, i, a)`: `x + i` is an `unsigned int`, the remainders and their
difference are `uint64_t`, and the result is cut to an `int`. -/
def randomCompare (x y : UInt8) (i : UInt32) (a : UInt64) : Int32 :=
  (a % (x.toUInt32 + i).toUInt64 - a % (y.toUInt32 + i).toUInt64).toUInt32.toInt32

/-- The test `merge` makes: take from the left run when `random_compare` is at most 0. -/
def randomLe (salt : UInt32) (key : UInt64) (x y : UInt8) : Bool :=
  decide (randomCompare x y salt key ≤ 0)

/-- `merge(left, llength, right, rlength, salt, key)`: both runs copied out, then written
back one byte at a time from the run the comparison picks; the rest of the run that is
left over is copied after. -/
def merge (left right : List UInt8) (salt : UInt32) (key : UInt64) : List UInt8 :=
  match left, right with
  | [], right => right
  | left, [] => left
  | l :: ls, r :: rs =>
    if randomLe salt key l r then l :: merge ls (r :: rs) salt key
    else r :: merge (l :: ls) rs salt key
termination_by left.length + right.length

/-- `merge_sort(array, length, salt, key)` on the `length` bytes of `array`, sorted in
place: the left part of `length - middle` bytes, then the right part of `middle`. The
recursion may go `fuel` levels deep; `none` when that is not enough. -/
def mergeSortGo (salt : UInt32) (key : UInt64) : Nat → List UInt8 → Option (List UInt8)
  | 0, _ => none
  | fuel + 1, array =>
    if array.length ≤ 1 then some array
    else
      -- `middle` is a `uint8_t`
      let middle := array.length / 2 % 256
      let llength := array.length - middle
      do
        let left ← mergeSortGo salt key fuel (array.take llength)
        let right ← mergeSortGo salt key fuel (array.drop llength)
        pure (merge left right salt key)

/-- `merge_sort` on the whole of `array`: every recursion that ends does so within one level
per byte. -/
def mergeSort (array : List UInt8) (salt : UInt32) (key : UInt64) : Option (List UInt8) :=
  mergeSortGo salt key (array.length + 1) array

/-- The key `enc_table_init` sums: `OFFSET_ROL(digest, i)` is byte `i` shifted left by
`8 * i`, so the key is the first eight digest bytes read little-endian. -/
def tableKey (digest : Vector UInt8 16) : UInt64 :=
  (List.range 8).foldl (fun key i => key + (byteAt digest.toList i).toUInt64 <<< (8 * i).toUInt64) 0

/-- `env->enc_table[i] = (uint8_t)i`. -/
def identityTable : List UInt8 := (List.range 256).map Nat.toUInt8

/-- The sorting passes `merge_sort(env->enc_table, 256, i, key)` for `i` from 1 to 1023. -/
def sortPasses (key : UInt64) (table : List UInt8) : Option (List UInt8) :=
  (List.range' 1 1023).foldlM (fun t i => mergeSort t i.toUInt32 key) table

/-- `env->dec_table[env->enc_table[i]] = (uint8_t)i` for `i` from 0 to 255, over the zeros of
`calloc`. -/
def decTableOf (encTable : List UInt8) : List UInt8 :=
  (List.range 256).foldl (fun dec i => dec.set (byteAt encTable i).toNat i.toUInt8)
    (List.replicate 256 0)

/-- `enc_table_init`'s two tables, for the password `pass` (a C string). -/
def encTableInit (crypto : Crypto) (pass : List UInt8) : Option (List UInt8 × List UInt8) := do
  let key := tableKey (crypto.md5 (CString.cstr pass))
  let encTable ← sortPasses key identityTable
  pure (encTable, decTableOf encTable)

/-- The `table` branch of `ss_encrypt`, `ss_decrypt` and their `_all` forms:
`*ptr = table[(uint8_t)*ptr]` over the buffer. -/
def tableTranslate (table : List UInt8) (buf : List UInt8) : List UInt8 :=
  buf.map fun b => byteAt table b.toNat

/-! ## The sort is core's merge sort -/

section Sorting

variable (salt : UInt32) (key : UInt64)

theorem merge_eq (left right : List UInt8) :
    merge left right salt key = left.merge right (randomLe salt key) := by
  induction left generalizing right with
  | nil => simp [merge]
  | cons l ls ih =>
    induction right with
    | nil => simp [merge]
    | cons r rs ihr =>
      rw [merge, List.cons_merge_cons]
      split
      · rw [ih]
      · rw [ihr]

/-- With the length below 512 the `uint8_t` middle is `length / 2`, so the left part has
`(length + 1) / 2` bytes, the split core's merge sort makes. -/
theorem llength_eq {n : Nat} (h : n < 512) : n - n / 2 % 256 = (n + 1) / 2 := by
  omega

/-- The code's merge sort, given more levels than the array has bytes, returns core's
merge sort of it. -/
theorem mergeSortGo_eq :
    ∀ (fuel : Nat) (array : List UInt8), array.length < fuel → array.length < 512 →
      mergeSortGo salt key fuel array = some (array.mergeSort (randomLe salt key)) := by
  intro fuel
  induction fuel with
  | zero => intro array h; omega
  | succ fuel ih =>
    intro array hf h512
    match array with
    | [] => simp [mergeSortGo]
    | [a] => simp [mergeSortGo]
    | a :: b :: xs =>
      have hl := llength_eq h512
      have hn : ¬ (a :: b :: xs).length ≤ 1 := by simp
      rw [mergeSortGo, if_neg hn, List.mergeSort]
      simp only [List.MergeSort.Internal.splitInTwo_fst, List.MergeSort.Internal.splitInTwo_snd]
      simp only [List.length_cons] at hl hf h512
      rw [List.length_cons, List.length_cons, hl,
        ih _ (by simp only [List.length_take, List.length_cons]; omega)
          (by simp only [List.length_take, List.length_cons]; omega),
        ih _ (by simp only [List.length_drop, List.length_cons]; omega)
          (by simp only [List.length_drop, List.length_cons]; omega)]
      simp [merge_eq]

theorem mergeSort_eq {array : List UInt8} (h : array.length < 512) :
    mergeSort array salt key = some (array.mergeSort (randomLe salt key)) :=
  mergeSortGo_eq salt key _ array (Nat.lt_succ_self _) h

end Sorting

/-- Sorting passes over any salts return a permutation of the table they start from. -/
theorem foldlM_mergeSort_perm (key : UInt64) :
    ∀ (salts : List Nat) (table : List UInt8), table.length < 512 →
      ∃ t, salts.foldlM (fun t i => mergeSort t i.toUInt32 key) table = some t ∧ t.Perm table := by
  intro salts
  induction salts with
  | nil => intro table _; exact ⟨table, rfl, List.Perm.refl _⟩
  | cons i is ih =>
    intro table h
    have hp := List.mergeSort_perm table (randomLe i.toUInt32 key)
    obtain ⟨t, ht, htp⟩ := ih _ (by rw [hp.length_eq]; exact h)
    refine ⟨t, ?_, htp.trans hp⟩
    rw [List.foldlM_cons, mergeSort_eq _ _ h]
    exact ht

theorem identityTable_length : identityTable.length = 256 := by
  simp [identityTable]

theorem sortPasses_perm (key : UInt64) :
    ∃ t, sortPasses key identityTable = some t ∧ t.Perm identityTable :=
  foldlM_mergeSort_perm key _ _ (by rw [identityTable_length]; omega)

/-! ## The decryption table -/

section Inverse

/-- What a permutation of the identity table gives the inverse: it has 256 distinct
entries, and every byte is one of them. -/
structure IsPermTable (t : List UInt8) : Prop where
  length : t.length = 256
  nodup : t.Nodup
  mem : ∀ x : UInt8, x ∈ t

theorem toNat_toUInt8_of_lt {i : Nat} (h : i < 256) : i.toUInt8.toNat = i := by
  rw [Nat.toUInt8, UInt8.toNat_ofNat', Nat.mod_eq_of_lt (by simpa using h)]

theorem identityTable_mem (x : UInt8) : x ∈ identityTable := by
  simp only [identityTable, List.mem_map, List.mem_range]
  exact ⟨x.toNat, x.toNat_lt, UInt8.ofNat_toNat⟩

theorem identityTable_nodup : identityTable.Nodup := by
  refine List.Nodup.map_on (fun i hi j hj hij => ?_) List.nodup_range
  rw [← toNat_toUInt8_of_lt (List.mem_range.mp hi), hij,
    toNat_toUInt8_of_lt (List.mem_range.mp hj)]

theorem isPermTable_of_perm {t : List UInt8} (h : t.Perm identityTable) : IsPermTable t where
  length := by rw [h.length_eq, identityTable_length]
  nodup := h.nodup_iff.mpr identityTable_nodup
  mem x := h.mem_iff.mpr (identityTable_mem x)

/-- Writes at other positions leave position `p` alone. -/
theorem foldl_set_of_ne (g : Nat → Nat) (v : Nat → UInt8) {p : Nat} :
    ∀ (is : List Nat) (d : List UInt8), (∀ i ∈ is, g i ≠ p) →
      byteAt (is.foldl (fun d i => d.set (g i) (v i)) d) p = byteAt d p := by
  intro is
  induction is with
  | nil => intro d _; rfl
  | cons i is ih =>
    intro d h
    rw [List.foldl_cons, ih _ (fun j hj => h j (List.mem_cons_of_mem _ hj)), byteAt_set,
      if_neg (fun he => h i List.mem_cons_self he.1.symm)]

/-- A position written by exactly one of the writes ends up with that write's value. -/
theorem foldl_set_of_mem (g : Nat → Nat) (v : Nat → UInt8) :
    ∀ (is : List Nat) (d : List UInt8), is.Nodup → (∀ i ∈ is, ∀ j ∈ is, g i = g j → i = j) →
      (∀ i ∈ is, g i < d.length) →
      ∀ i ∈ is, byteAt (is.foldl (fun d i => d.set (g i) (v i)) d) (g i) = v i := by
  intro is
  induction is with
  | nil => intro d _ _ _ i hi; cases hi
  | cons j js ih =>
    intro d hnd hinj hlt i hi
    rw [List.nodup_cons] at hnd
    have hinj' : ∀ i ∈ js, ∀ k ∈ js, g i = g k → i = k := fun i hi k hk =>
      hinj i (List.mem_cons_of_mem _ hi) k (List.mem_cons_of_mem _ hk)
    rw [List.foldl_cons]
    rcases List.mem_cons.mp hi with rfl | hi
    · -- the later writes all land elsewhere
      have hne : ∀ k ∈ js, g k ≠ g i := fun k hk he =>
        hnd.1 (hinj k (List.mem_cons_of_mem _ hk) i List.mem_cons_self he ▸ hk)
      rw [foldl_set_of_ne g v js _ hne, byteAt_set, if_pos ⟨rfl, hlt i List.mem_cons_self⟩]
    · exact ih _ hnd.2 hinj' (fun k hk => by
        rw [List.length_set]; exact hlt k (List.mem_cons_of_mem _ hk)) i hi

variable {encTable : List UInt8} (ht : IsPermTable encTable)
include ht

theorem byteAt_injective {i j : Nat} (hi : i < 256) (hj : j < 256)
    (h : byteAt encTable i = byteAt encTable j) : i = j := by
  have hi' : i < encTable.length := by rw [ht.length]; exact hi
  have hj' : j < encTable.length := by rw [ht.length]; exact hj
  rw [byteAt_eq_getElem hi', byteAt_eq_getElem hj'] at h
  exact (ht.nodup.getElem_inj_iff).mp h

/-- `dec_table[enc_table[i]] = i` for every entry `i`. -/
theorem decTableOf_byteAt {i : Nat} (hi : i < 256) :
    byteAt (decTableOf encTable) (byteAt encTable i).toNat = i.toUInt8 := by
  unfold decTableOf
  refine foldl_set_of_mem (fun i => (byteAt encTable i).toNat) Nat.toUInt8 _ _
    List.nodup_range ?_ ?_ i (List.mem_range.mpr hi)
  · intro a ha b hb hab
    exact byteAt_injective ht (List.mem_range.mp ha) (List.mem_range.mp hb) (UInt8.toNat_inj.mp hab)
  · intro a _
    simp only [List.length_replicate]
    exact (byteAt encTable a).toNat_lt

/-- Decrypting an encrypted byte gives it back. -/
theorem decTableOf_encTable (x : UInt8) :
    byteAt (decTableOf encTable) (byteAt encTable x.toNat).toNat = x := by
  rw [decTableOf_byteAt ht x.toNat_lt]
  exact UInt8.ofNat_toNat

/-- Encrypting a decrypted byte gives it back: every byte is some entry `enc_table[i]`. -/
theorem encTable_decTableOf (x : UInt8) :
    byteAt encTable (byteAt (decTableOf encTable) x.toNat).toNat = x := by
  obtain ⟨i, hi, hx⟩ := List.getElem_of_mem (ht.mem x)
  have hi' : i < 256 := by rw [← ht.length]; exact hi
  rw [← hx, ← byteAt_eq_getElem hi, decTableOf_byteAt ht hi', toNat_toUInt8_of_lt hi']

theorem tableTranslate_decrypt_encrypt (buf : List UInt8) :
    tableTranslate (decTableOf encTable) (tableTranslate encTable buf) = buf := by
  simp only [tableTranslate, List.map_map]
  refine (List.map_congr_left fun x _ => ?_).trans (List.map_id buf)
  rw [Function.comp_apply, id_eq]
  exact decTableOf_encTable ht x

end Inverse

/-- `enc_table_init` always builds its tables, and the encryption table is a permutation of
the identity table. -/
theorem encTableInit_spec (crypto : Crypto) (pass : List UInt8) :
    ∃ encTable, encTableInit crypto pass = some (encTable, decTableOf encTable) ∧
      encTable.Perm identityTable := by
  obtain ⟨t, ht, hp⟩ := sortPasses_perm (tableKey (crypto.md5 (CString.cstr pass)))
  refine ⟨t, ?_, hp⟩
  simp only [encTableInit, ht]
  rfl

end ShadowsocksR.Encrypt
