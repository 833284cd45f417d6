/-
  ShadowsocksR.Buffer — `struct buffer_t` and its operations (`ssrbuffer.c`).

  A buffer owns an allocation of `capacity + 1` bytes of which the first `len` are its
  contents. Most plugins read only the contents, and are modelled over lists of
  bytes; two read past `len` (the `tls1.2_ticket` server on its copy of the
  ClientHello, the `auth_chain` server on its receive buffer), and for them the bytes
  past `len` matter: `buffer_create` and `buffer_clone` allocate with `calloc` (zeros),
  `buffer_shorten` writes a 0 at the new end, and every other byte past `len` keeps
  whatever was last written there. `Buffer` carries its allocation `mem` with that
  size as a field, so every operation must keep it.

  `realloc`'s new bytes are indeterminate in C; here they are zeros. No modelled path
  reads them: the reads past `len` above are of bytes the buffer's own operations wrote.

  Proved here: each operation's effect on the contents (`data_bufferConcatenate`,
  `data_bufferShorten`, `data_bufferStore`, `data_bufferInsert`, …), as simp lemmas, and
  on the allocation past them (`byteAt_bufferClone`, `byteAt_bufferShorten`), so that the
  plugins' proofs never unfold a buffer operation. Together they are the list model of
  `buffer_t` (`buffer_operations_follow_the_list_model`), with `buffer_compare` zero
  exactly on equal contents and antisymmetric in sign. A store from the buffer's own
  bytes is a copy of them unless it needs the allocation grown: storing the whole
  allocation into itself reads after `realloc` (`bufferStoreSelf_whole_allocation`, at a
  `buffer_create(2048)` buffer `store_of_the_whole_allocation_reads_after_realloc`).
-/

import ShadowsocksR.Lib.Bytes

namespace ShadowsocksR

open Bytes

/-- `memmove(mem + pos, data, n)` where `data` holds the `n` bytes. -/
def writeAt (mem : List UInt8) (pos : Nat) (data : List UInt8) : List UInt8 :=
  mem.take pos ++ data ++ mem.drop (pos + data.length)

theorem writeAt_length {mem : List UInt8} {pos : Nat} {data : List UInt8}
    (h : pos + data.length ≤ mem.length) : (writeAt mem pos data).length = mem.length := by
  simp only [writeAt, List.length_append, List.length_take, List.length_drop]
  omega

/-- `struct buffer_t`: the allocation and the length of its contents. -/
structure Buffer where
  mem : List UInt8
  len : Nat
  capacity : Nat
  mem_length : mem.length = capacity + 1
  len_le : len ≤ capacity

namespace Buffer

/-- The contents, `buffer[0 .. len)`. -/
def data (b : Buffer) : List UInt8 := b.mem.take b.len

/-- The `n` bytes of the allocation from `off` on, as `memcpy` or a pointer cast reads
them, whether or not they lie inside the contents. -/
def read (b : Buffer) (off n : Nat) : List UInt8 :=
  (List.range n).map fun i => Bytes.byteAt b.mem (off + i)

@[simp] theorem data_length (b : Buffer) : b.data.length = b.len := by
  simp only [data, List.length_take, b.mem_length]
  have := b.len_le
  omega

end Buffer

/-- `buffer_create`: `calloc(capacity + 1)`. -/
def bufferCreate (capacity : Nat) : Buffer :=
  ⟨List.replicate (capacity + 1) 0, 0, capacity, by simp, Nat.zero_le _⟩

/-- `buffer_realloc`: grows the allocation to at least `capacity` and zeros its new last
byte; shrinking is never done. -/
def bufferRealloc (b : Buffer) (capacity : Nat) : Buffer :=
  if h : b.capacity < capacity then
    ⟨b.mem ++ List.replicate (capacity - b.capacity) 0, b.len, capacity,
      by simp [b.mem_length]; omega, by have := b.len_le; omega⟩
  else b

theorem bufferRealloc_capacity_ge (b : Buffer) (capacity : Nat) :
    capacity ≤ (bufferRealloc b capacity).capacity := by
  unfold bufferRealloc
  split
  · exact Nat.le_refl _
  · omega

theorem bufferRealloc_capacity_ge_self (b : Buffer) (capacity : Nat) :
    b.capacity ≤ (bufferRealloc b capacity).capacity := by
  unfold bufferRealloc
  split
  · exact Nat.le_of_lt ‹_›
  · exact Nat.le_refl _

@[simp] theorem bufferRealloc_len (b : Buffer) (capacity : Nat) :
    (bufferRealloc b capacity).len = b.len := by
  unfold bufferRealloc
  split <;> rfl

/-- Growing keeps the bytes the allocation had. -/
theorem bufferRealloc_mem_take (b : Buffer) (capacity : Nat) (n : Nat) (h : n ≤ b.mem.length) :
    (bufferRealloc b capacity).mem.take n = b.mem.take n := by
  unfold bufferRealloc
  split
  · exact List.take_append_of_le_length h
  · rfl

@[simp] theorem data_bufferRealloc (b : Buffer) (capacity : Nat) :
    (bufferRealloc b capacity).data = b.data := by
  have := b.len_le
  simp only [Buffer.data, bufferRealloc_len]
  exact bufferRealloc_mem_take b capacity b.len (by rw [b.mem_length]; omega)

/-- `memmove(ptr->buffer, data, size); ptr->len = size` into an allocation that holds
`data`. -/
def storeInto (r : Buffer) (data : List UInt8) (h : data.length ≤ r.capacity) : Buffer :=
  ⟨writeAt r.mem 0 data, data.length, r.capacity,
    by rw [writeAt_length (by rw [r.mem_length]; omega), r.mem_length], h⟩

/-- `memmove(ptr->buffer + ptr->len, data, size); ptr->len += size` into an allocation
that holds the result. -/
def appendInto (r : Buffer) (data : List UInt8) (h : r.len + data.length ≤ r.capacity) :
    Buffer :=
  ⟨writeAt r.mem r.len data, r.len + data.length, r.capacity,
    by rw [writeAt_length (by rw [r.mem_length]; omega), r.mem_length], h⟩

/-- `buffer_store`: the contents become `data`. -/
def bufferStore (b : Buffer) (data : List UInt8) : Buffer :=
  storeInto (bufferRealloc b data.length) data (bufferRealloc_capacity_ge b data.length)

/-- `buffer_concatenate`: `data` appended to the contents. -/
def bufferConcatenate (b : Buffer) (data : List UInt8) : Buffer :=
  appendInto (bufferRealloc b (b.len + data.length)) data
    (by rw [bufferRealloc_len]; exact bufferRealloc_capacity_ge b (b.len + data.length))

/-- `buffer_shorten(ptr, begin, len)`: when `begin` and `len` lie inside the contents,
they become `buffer[begin .. begin + len)`, and a 0 is written after them; otherwise
nothing changes. -/
def bufferShorten (b : Buffer) (start len : Nat) : Buffer :=
  if h : start ≤ b.len ∧ len ≤ b.len - start then
    let moved := writeAt b.mem 0 ((b.mem.drop start).take len)
    ⟨moved.set len 0, len, b.capacity,
      by
        have := b.len_le
        have hw : 0 + ((b.mem.drop start).take len).length ≤ b.mem.length := by
          simp only [List.length_take, List.length_drop, b.mem_length]
          omega
        rw [List.length_set, writeAt_length hw, b.mem_length],
      by have := b.len_le; omega⟩
  else b

/-- `buffer_reset`: no contents, and the first `capacity` bytes zeroed. -/
def bufferReset (b : Buffer) : Buffer :=
  ⟨List.replicate b.capacity 0 ++ b.mem.drop b.capacity, 0, b.capacity,
    by simp [b.mem_length], Nat.zero_le _⟩

/-- `buffer_clone`: a fresh `calloc`'d allocation of `max(capacity, len)` with the same
contents. -/
def bufferClone (b : Buffer) : Buffer :=
  storeInto (bufferCreate (max b.capacity b.len)) b.data
    (by rw [Buffer.data_length]; exact Nat.le_max_right _ _)

/-- `buffer_create_from`: a buffer of capacity 2048 holding `data`. -/
def bufferCreateFrom (data : List UInt8) : Buffer := bufferStore (bufferCreate 2048) data

/-- `buffer_store(ptr, ptr->buffer + off, size)`: a store from the buffer's own allocation.
The copy reads the bytes as they are before it writes, as `memmove` does, unless
`buffer_realloc` has grown the allocation first: `realloc` may then have moved it, and
the source pointer is left pointing into the freed block. `none` is that case, and a
source that runs past the allocation. -/
def bufferStoreSelf (b : Buffer) (off size : Nat) : Option Buffer :=
  if off + size ≤ b.capacity + 1 ∧ size ≤ b.capacity then some (bufferStore b (b.read off size))
  else none

theorem insert_mem_length (r : Buffer) {pos : Nat} (data : List UInt8) (hpos : pos ≤ r.len)
    (h : r.len + data.length ≤ r.capacity) :
    (writeAt (writeAt r.mem (pos + data.length) ((r.mem.drop pos).take (r.len - pos))) pos data).length =
      r.capacity + 1 := by
  have hml := r.mem_length
  have hmoved : (writeAt r.mem (pos + data.length) ((r.mem.drop pos).take (r.len - pos))).length =
      r.mem.length :=
    writeAt_length (by simp only [List.length_take, List.length_drop]; omega)
  rw [writeAt_length (by rw [hmoved]; omega), hmoved, hml]

/-- `memmove(ptr->buffer + pos + size, ptr->buffer + pos, ptr->len - pos)`, then `data`
written at `pos`, into an allocation that holds the result. -/
def insertInto (r : Buffer) (pos : Nat) (data : List UInt8) (hpos : pos ≤ r.len)
    (h : r.len + data.length ≤ r.capacity) : Buffer :=
  ⟨writeAt (writeAt r.mem (pos + data.length) ((r.mem.drop pos).take (r.len - pos))) pos data,
    r.len + data.length, r.capacity, insert_mem_length r data hpos h, h⟩

/-- `buffer_insert(ptr, pos, data, size)`: nothing for no bytes; otherwise `pos` is
clamped to the contents and `data` goes in there. -/
def bufferInsert (b : Buffer) (pos : Nat) (data : List UInt8) : Buffer :=
  if data = [] then b
  else
    insertInto (bufferRealloc b (b.len + data.length)) (min pos b.len) data
      (by rw [bufferRealloc_len]; exact Nat.min_le_right _ _)
      (by rw [bufferRealloc_len]; exact bufferRealloc_capacity_ge b (b.len + data.length))

/-- `buffer_replace(dst, src)`: `src`'s contents, or a reset for a NULL `src`. -/
def bufferReplace (dst : Buffer) (src : Option Buffer) : Buffer :=
  match src with
  | some src => bufferStore dst src.data
  | none => bufferReset dst

/-- `SIZE_MAX`. -/
def sizeMax : Nat := 2 ^ 64 - 1

/-- `buffer_compare(ptr1, ptr2, size)`: NULL before any buffer; two buffers by `memcmp` of
their first `size` bytes (all of them for `SIZE_MAX`), and on a tie the one whose
compared length is the shorter compares greater. -/
def bufferCompare (ptr1 ptr2 : Option Buffer) (size : Nat) : Int :=
  match ptr1, ptr2 with
  | none, none => 0
  | some _, none => -1
  | none, some _ => 1
  | some ptr1, some ptr2 =>
    let size1 := if size = sizeMax then ptr1.len else min size ptr1.len
    let size2 := if size = sizeMax then ptr2.len else min size ptr2.len
    let size0 := min size1 size2
    let ret := memcmp ptr1.mem ptr2.mem size0
    if ret ≠ 0 then ret else if size1 = size2 then 0 else if size0 = size1 then 1 else -1

/-! ## What each operation does to the contents -/

theorem take_writeAt (mem data : List UInt8) {pos : Nat} (h : pos ≤ mem.length) :
    (writeAt mem pos data).take (pos + data.length) = mem.take pos ++ data :=
  List.take_left' (by simp; omega)

@[simp] theorem data_storeInto (r : Buffer) (data : List UInt8) (h : data.length ≤ r.capacity) :
    (storeInto r data h).data = data := by
  simpa [storeInto, Buffer.data] using take_writeAt r.mem data (Nat.zero_le _)

theorem data_appendInto (r : Buffer) (data : List UInt8) (h : r.len + data.length ≤ r.capacity) :
    (appendInto r data h).data = r.data ++ data := by
  have := r.mem_length
  simp only [appendInto, Buffer.data]
  exact take_writeAt _ _ (by omega)

@[simp] theorem data_bufferStore (b : Buffer) (data : List UInt8) :
    (bufferStore b data).data = data := data_storeInto _ _ _

@[simp] theorem bufferStore_len (b : Buffer) (data : List UInt8) :
    (bufferStore b data).len = data.length := rfl

@[simp] theorem bufferCreateFrom_data (r : List UInt8) : (bufferCreateFrom r).data = r :=
  data_bufferStore _ _

@[simp] theorem bufferCreateFrom_len (r : List UInt8) : (bufferCreateFrom r).len = r.length := rfl

@[simp] theorem data_bufferConcatenate (b : Buffer) (data : List UInt8) :
    (bufferConcatenate b data).data = b.data ++ data := by
  rw [bufferConcatenate, data_appendInto, data_bufferRealloc]

@[simp] theorem bufferConcatenate_len (b : Buffer) (data : List UInt8) :
    (bufferConcatenate b data).len = b.len + data.length := by
  simp [bufferConcatenate, appendInto]

theorem data_bufferShorten {b : Buffer} {start len : Nat} (h : start ≤ b.len)
    (hlen : len ≤ b.len - start) :
    (bufferShorten b start len).data = (b.data.drop start).take len := by
  have := b.len_le
  have hml := b.mem_length
  have hmoved : ((b.mem.drop start).take len).length = len := by simp; omega
  simp only [bufferShorten, h, hlen, and_self, dite_true, Buffer.data]
  rw [List.take_set_of_le (Nat.le_refl _)]
  have := take_writeAt b.mem ((b.mem.drop start).take len) (Nat.zero_le _)
  rw [hmoved, Nat.zero_add] at this
  rw [this, List.take_zero, List.nil_append, List.drop_take, List.take_take, Nat.min_eq_left hlen]

theorem bufferShorten_of_not {b : Buffer} {start len : Nat} (h : ¬ (start ≤ b.len ∧ len ≤ b.len - start)) :
    bufferShorten b start len = b := by
  simp [bufferShorten, h]

@[simp] theorem data_bufferReset (b : Buffer) : (bufferReset b).data = [] := rfl

@[simp] theorem data_bufferClone (b : Buffer) : (bufferClone b).data = b.data :=
  data_storeInto _ _ _

@[simp] theorem data_bufferCreate (capacity : Nat) : (bufferCreate capacity).data = [] := rfl

@[simp] theorem bufferClone_len (b : Buffer) : (bufferClone b).len = b.len := by
  simp [bufferClone, storeInto]

theorem bufferShorten_len {b : Buffer} {start len : Nat} (h : start ≤ b.len)
    (hlen : len ≤ b.len - start) : (bufferShorten b start len).len = len := by
  simp only [bufferShorten, h, hlen, and_self, dite_true]

/-- The bytes up to `k` past a write: those before it, the data, and what follows. -/
theorem take_writeAt_add (mem data : List UInt8) {pos : Nat} (h : pos ≤ mem.length) (k : Nat) :
    (writeAt mem pos data).take (pos + data.length + k) =
      mem.take pos ++ data ++ (mem.drop (pos + data.length)).take k := by
  have hl : (mem.take pos ++ data).length = pos + data.length := by simp; omega
  rw [writeAt, ← hl, List.take_length_add_append]

theorem take_writeAt_of_le (mem data : List UInt8) {pos k : Nat} (hk : k ≤ pos) (h : pos ≤ mem.length) :
    (writeAt mem pos data).take k = mem.take k := by
  have hl : k ≤ (mem.take pos).length := by simp; omega
  rw [writeAt, List.append_assoc, List.take_append_of_le_length hl, List.take_take, Nat.min_eq_left hk]

theorem drop_writeAt (mem data : List UInt8) {pos : Nat} (h : pos ≤ mem.length) :
    (writeAt mem pos data).drop pos = data ++ mem.drop (pos + data.length) := by
  have hl : (mem.take pos).length = pos := by simp; omega
  rw [writeAt, List.append_assoc]
  exact List.drop_left' hl

/-- Past the end of a write the allocation is as it was. -/
theorem drop_writeAt_of_le (mem data : List UInt8) {pos k : Nat} (h : pos ≤ mem.length)
    (hk : pos + data.length ≤ k) : (writeAt mem pos data).drop k = mem.drop k := by
  have hl : (mem.take pos ++ data).length = pos + data.length := by simp; omega
  obtain ⟨j, rfl⟩ := Nat.exists_eq_add_of_le hk
  rw [writeAt, ← hl, ← List.drop_drop, List.drop_left, List.drop_drop, hl]

/-- The inserted bytes land between the contents before `pos` and the tail moved up. -/
theorem data_insertInto (r : Buffer) (pos : Nat) (data : List UInt8) (hpos : pos ≤ r.len)
    (h : r.len + data.length ≤ r.capacity) :
    (insertInto r pos data hpos h).data = r.data.take pos ++ data ++ r.data.drop pos := by
  have hml := r.mem_length
  have hle := r.len_le
  have htail : ((r.mem.drop pos).take (r.len - pos)).length = r.len - pos := by simp; omega
  have hmoved : (writeAt r.mem (pos + data.length) ((r.mem.drop pos).take (r.len - pos))).length =
      r.mem.length :=
    writeAt_length (by rw [htail]; omega)
  have hsplit : r.len + data.length = pos + data.length + (r.len - pos) := by omega
  simp only [insertInto, Buffer.data]
  rw [hsplit, take_writeAt_add _ _ (by omega), take_writeAt_of_le _ _ (by omega) (by omega),
    drop_writeAt _ _ (by omega), htail, List.take_left' htail, List.take_take, Nat.min_eq_left hpos,
    List.drop_take]

theorem data_bufferInsert (b : Buffer) (pos : Nat) {data : List UInt8} (hd : data ≠ []) :
    (bufferInsert b pos data).data =
      b.data.take (min pos b.len) ++ data ++ b.data.drop (min pos b.len) := by
  rw [bufferInsert, if_neg hd, data_insertInto, data_bufferRealloc]

@[simp] theorem data_bufferReplace_some (dst src : Buffer) :
    (bufferReplace dst (some src)).data = src.data := data_bufferStore _ _

@[simp] theorem data_bufferReplace_none (dst : Buffer) : (bufferReplace dst none).data = [] := rfl

/-- A store from the buffer's own bytes that needs no growth copies them as they were. -/
theorem bufferStoreSelf_of_le {b : Buffer} {off size : Nat} (hoff : off + size ≤ b.capacity + 1)
    (hsize : size ≤ b.capacity) :
    bufferStoreSelf b off size = some (bufferStore b (b.read off size)) := by
  simp [bufferStoreSelf, hoff, hsize]

/-! ## Comparing buffers -/

theorem memcmp_data {a b : Buffer} {n : Nat} (ha : n ≤ a.len) (hb : n ≤ b.len) :
    memcmp a.mem b.mem n = 0 ↔ a.data.take n = b.data.take n := by
  have := a.len_le
  have := b.len_le
  rw [memcmp_eq_zero_iff (by rw [a.mem_length]; omega) (by rw [b.mem_length]; omega), Buffer.data,
    Buffer.data, List.take_take, List.take_take, Nat.min_eq_left ha, Nat.min_eq_left hb]

/-- Over all of both buffers, `buffer_compare` is 0 exactly when the contents agree. -/
theorem bufferCompare_eq_zero_iff (a b : Buffer) :
    bufferCompare (some a) (some b) sizeMax = 0 ↔ a.data = b.data := by
  simp only [bufferCompare, ↓reduceIte]
  have hcmp := memcmp_data (a := a) (b := b) (Nat.min_le_left a.len b.len) (Nat.min_le_right a.len b.len)
  constructor
  · intro h
    by_cases hr : memcmp a.mem b.mem (min a.len b.len) = 0
    · rw [if_neg (not_not_intro hr)] at h
      by_cases hl : a.len = b.len
      · have ht := hcmp.mp hr
        rw [hl, Nat.min_self, List.take_of_length_le (by simp [hl]), List.take_of_length_le (by simp)] at ht
        exact ht
      · rw [if_neg hl] at h
        split at h <;> omega
    · rw [if_pos hr] at h
      exact absurd h hr
  · intro h
    have hl : a.len = b.len := by rw [← a.data_length, ← b.data_length, h]
    have hr : memcmp a.mem b.mem (min a.len b.len) = 0 := hcmp.mpr (by rw [h])
    rw [if_neg (not_not_intro hr), if_pos hl]

/-- Swapping the buffers flips the sign of `buffer_compare`, NULLs included. -/
theorem bufferCompare_swap_sign (a b : Option Buffer) (size : Nat) :
    (bufferCompare b a size).sign = -(bufferCompare a b size).sign := by
  rcases a with _ | a <;> rcases b with _ | b
  · rfl
  · rfl
  · rfl
  · simp only [bufferCompare]
    generalize (if size = sizeMax then a.len else min size a.len) = s1
    generalize (if size = sizeMax then b.len else min size b.len) = s2
    rw [Nat.min_comm s2 s1, memcmp_swap a.mem b.mem]
    generalize memcmp a.mem b.mem (min s1 s2) = r
    by_cases hr : r = 0
    · subst hr
      simp only [neg_zero, ne_eq, not_true_eq_false, if_false]
      by_cases h12 : s1 = s2
      · simp [h12]
      · rw [if_neg (Ne.symm h12), if_neg h12]
        by_cases h1 : min s1 s2 = s1
        · rw [if_pos h1, if_neg (by omega)]
          rfl
        · rw [if_neg h1, if_pos (by omega)]
          rfl
    · rw [if_pos (neg_ne_zero.mpr hr), if_pos hr, Int.sign_neg]

/-! ## What each operation leaves in the allocation -/

/-- The clone's allocation holds the contents and zeros after them. -/
theorem byteAt_bufferClone (b : Buffer) (i : Nat) :
    byteAt (bufferClone b).mem i = byteAt b.data i := by
  simp only [bufferClone, storeInto, bufferCreate, writeAt, List.take_zero, List.nil_append,
    Nat.zero_add, List.drop_replicate]
  exact byteAt_append_replicate_zero _ _ _

/-- `buffer_shorten` moves the kept bytes to the front, writes a 0 after them and
leaves the rest of the allocation as it was. -/
theorem byteAt_bufferShorten {b : Buffer} {start len : Nat} (h : start ≤ b.len)
    (hlen : len ≤ b.len - start) (i : Nat) :
    byteAt (bufferShorten b start len).mem i =
      if i < len then byteAt b.mem (start + i) else if i = len then 0 else byteAt b.mem i := by
  have := b.len_le
  have hml := b.mem_length
  have hmoved : ((b.mem.drop start).take len).length = len := by simp; omega
  simp only [bufferShorten, h, hlen, and_self, dite_true, writeAt, List.take_zero,
    List.nil_append, Nat.zero_add, hmoved]
  have hlen' : len < ((b.mem.drop start).take len ++ b.mem.drop len).length := by
    simp only [List.length_append, hmoved, List.length_drop]; omega
  rw [byteAt_set]
  rcases Nat.lt_trichotomy i len with hi | rfl | hi
  · -- inside the kept bytes
    have hne : i ≠ len := Nat.ne_of_lt hi
    rw [if_neg (fun hc => hne hc.1), if_pos hi, byteAt_append_left (by rw [hmoved]; exact hi)]
    simp [byteAt, List.getD_eq_getElem?_getD, hi]
  · rw [if_pos ⟨rfl, hlen'⟩, if_neg (Nat.lt_irrefl _), if_pos rfl]
  · -- past the terminator: the allocation as it was
    have hne : i ≠ len := Nat.ne_of_gt hi
    rw [if_neg (fun hc => hne hc.1), if_neg (Nat.not_lt.mpr (Nat.le_of_lt hi)), if_neg hne]
    obtain ⟨j, rfl⟩ := Nat.exists_eq_add_of_le (Nat.le_of_lt hi)
    have hright := byteAt_append_right ((b.mem.drop start).take len) (b.mem.drop len) j
    rw [hmoved] at hright
    rw [hright]
    simp [byteAt, List.getD_eq_getElem?_getD]

theorem Buffer.read_two (b : Buffer) (off : Nat) :
    b.read off 2 = [byteAt b.mem off, byteAt b.mem (off + 1)] := rfl

/-- A read inside the contents is a slice of them. -/
theorem Buffer.read_of_le_len {b : Buffer} {off n : Nat} (h : off + n ≤ b.len) :
    b.read off n = (b.data.drop off).take n := by
  have := b.len_le
  have hml := b.mem_length
  apply List.ext_getElem
  · simp only [Buffer.read, List.length_map, List.length_range, List.length_take,
      List.length_drop, Buffer.data_length]
    omega
  · intro i h1 h2
    simp only [Buffer.read, List.length_map, List.length_range] at h1
    simp only [Buffer.read, List.getElem_map, List.getElem_range, List.getElem_take,
      List.getElem_drop, Buffer.data, List.getElem_take]
    exact byteAt_eq_getElem (by omega)

/-! ## The list model of `buffer_t` -/

/-- Every buffer keeps `len ≤ capacity` (a field of `Buffer`, so every operation that
returns one keeps it), and each operation changes the contents as the list model says:
a store gives the stored bytes, also from the buffer's own bytes when no growth is needed;
a concatenation appends; an insert of at least one byte splices it in at the clamped
position; a shorten inside the contents keeps the slice and otherwise does nothing; a
replace copies the source or empties; a reset empties; a realloc never shrinks and keeps
the contents; and `buffer_compare` over `SIZE_MAX` is 0 exactly on equal contents, with
its sign flipped when the buffers are swapped. -/
theorem buffer_operations_follow_the_list_model :
    (∀ b : Buffer, b.len ≤ b.capacity) ∧
    (∀ capacity, (bufferCreate capacity).data = []) ∧
    (∀ data, (bufferCreateFrom data).data = data) ∧
    (∀ b, (bufferClone b).data = b.data) ∧
    (∀ b data, (bufferStore b data).data = data) ∧
    (∀ b off size, off + size ≤ b.capacity + 1 → size ≤ b.capacity →
      ∃ b', bufferStoreSelf b off size = some b' ∧ b'.data = b.read off size) ∧
    (∀ b data, (bufferConcatenate b data).data = b.data ++ data) ∧
    (∀ b pos data, data ≠ [] →
      (bufferInsert b pos data).data =
        b.data.take (min pos b.len) ++ data ++ b.data.drop (min pos b.len)) ∧
    (∀ b start len, start ≤ b.len → len ≤ b.len - start →
      (bufferShorten b start len).data = (b.data.drop start).take len) ∧
    (∀ b start len, ¬ (start ≤ b.len ∧ len ≤ b.len - start) → bufferShorten b start len = b) ∧
    (∀ dst src, (bufferReplace dst (some src)).data = src.data) ∧
    (∀ dst, (bufferReplace dst none).data = []) ∧
    (∀ b, (bufferReset b).data = []) ∧
    (∀ b capacity, b.capacity ≤ (bufferRealloc b capacity).capacity ∧
      (bufferRealloc b capacity).data = b.data) ∧
    (∀ a b, bufferCompare (some a) (some b) sizeMax = 0 ↔ a.data = b.data) ∧
    (∀ a b size, (bufferCompare b a size).sign = -(bufferCompare a b size).sign) := by
  refine ⟨fun b => b.len_le, data_bufferCreate, fun data => data_bufferStore _ data, data_bufferClone,
    data_bufferStore, ?_, data_bufferConcatenate, fun b pos _ hd => data_bufferInsert b pos hd,
    fun _ _ _ h hlen => data_bufferShorten h hlen, fun _ _ _ h => bufferShorten_of_not h,
    data_bufferReplace_some, data_bufferReplace_none, data_bufferReset,
    fun b capacity => ⟨bufferRealloc_capacity_ge_self b capacity, data_bufferRealloc b capacity⟩,
    bufferCompare_eq_zero_iff, bufferCompare_swap_sign⟩
  intro b off size hoff hsize
  exact ⟨_, bufferStoreSelf_of_le hoff hsize, data_bufferStore _ _⟩

/-- `buffer_store(ptr, ptr->buffer, ptr->capacity + 1)`, a store of the whole allocation
into itself: `buffer_realloc` grows the allocation before `memmove` reads the source,
so the source may already be freed. -/
theorem bufferStoreSelf_whole_allocation (b : Buffer) :
    bufferStoreSelf b 0 (b.capacity + 1) = none := by
  simp [bufferStoreSelf]

/-- The whole allocation of a `buffer_create(2048)` buffer stored into itself. -/
theorem store_of_the_whole_allocation_reads_after_realloc :
    bufferStoreSelf (bufferCreate 2048) 0 2049 = none :=
  bufferStoreSelf_whole_allocation (bufferCreate 2048)

end ShadowsocksR
