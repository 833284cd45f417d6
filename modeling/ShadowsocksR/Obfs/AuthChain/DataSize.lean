/-
  ShadowsocksR.Obfs.AuthChain.DataSize — how `auth_chain_a` … `auth_chain_f` choose the
  length of a frame's random padding (`auth_chain.c`: `shift128plus_*`,
  `auth_chain_find_pos`, `auth_chain_{a,b,c,d,e}_get_rand_len`, the `init_data_size`
  of `b`, `c`, `d` and `f`).

  Both ends of a connection seed a `shift128plus` generator from the previous frame's
  hash and the frame's data length, so they draw the same padding length. `b` to `f`
  also keep lists of frame sizes, drawn once from the server key in `set_server_info`
  and sorted with `qsort`; the padding then makes a frame one of those sizes. `qsort`
  is the C library's and a parameter here: any function that returns a sorted
  permutation (`IsSort`). `e` uses `d`'s lists and `f` uses `e`'s padding.

  What C leaves undefined is a `Trap`: an index past a list, a division by zero, or a
  write past a buffer. The padding length is an `unsigned int`, so a negative
  difference would wrap to about 2^32.

  Proved: `auth_chain_find_pos` is `lower_bound` on every non-empty sorted array: it
  returns the first position whose size is at least the key, or the length when the last
  size is below it (`auth_chain_find_pos_is_lower_bound`); a run of its loop keeps
  whatever each halving keeps (`findPosLoop_inv`). Every list `b`, `c` and `d` build is
  non-empty, sorted and of sizes in `[0, 1440)`, and `d`'s has at most 64 entries and
  ends at 1300 or more unless it has 64 (`authChainBInitDataSize_spec`,
  `authChainCInitDataSize_spec`,
  `authChainDInitDataSize_spec`); over such lists every variant's padding length is
  found without a trap, is below 1440, and keeps a frame of fewer than 4096 bytes below
  4096 (`authChainAGetRandLen_ok` … `authChainEGetRandLen_ok`). `f` builds `d`'s kind
  of list for keys of 8 to 16 bytes (`authChainFInitDataSize_spec`), and writes past a
  16-byte stack buffer for every longer key,
  such as the 32-byte key of `aes-256-cfb` (`auth_chain_f_overflows_its_seed_buffer`).
-/

import ShadowsocksR.Obfs.ObfsUtil

namespace ShadowsocksR.AuthChain

open Bytes

/-- What the C does not define: reading past the end of a list, dividing by zero, writing
past the end of a buffer. -/
inductive Trap where
  | indexPastList
  | divisionByZero
  | bufferOverflow
  deriving DecidableEq, Repr

/-- `shift128plus_next`: the value drawn and the generator after the draw. -/
def shift128plusNext (ctx : Shift128) : UInt64 × Shift128 :=
  let x := ctx.s0
  let y := ctx.s1
  let x := x ^^^ (x <<< 23)
  let x := x ^^^ (y ^^^ (x >>> 17) ^^^ (y >>> 26))
  (x + y, ⟨y, x⟩)

/-- Eight bytes read as a little-endian `uint64_t`: what `memcpy(ctx, fill_bin, 16)` makes
of each word on a little-endian host, and `i64_memcpy` on a big-endian one. -/
def rdLe64 (l : List UInt8) (i : Nat) : UInt64 :=
  (List.range 8).foldl (fun v k => v ||| (byteAt l (i + k)).toUInt64 <<< (8 * k).toUInt64) 0

/-- The generator seeded from 16 bytes. -/
def shift128plusOfFill (fill : List UInt8) : Shift128 := ⟨rdLe64 fill 0, rdLe64 fill 8⟩

/-- `shift128plus_init_from_bin(ctx, bin, bin_size)`: `bin_size` bytes copied into the
16-byte `fill_bin`, the rest of it zero; more than 16 write past it. -/
def shift128plusInitFromBin (bin : List UInt8) (binSize : Nat) : Except Trap Shift128 :=
  if binSize ≤ 16 then
    pure (shift128plusOfFill ((List.range 16).map fun i => if i < binSize then byteAt bin i else 0))
  else throw .bufferOverflow

/-- `shift128plus_init_from_bin_datalen(ctx, bin, 16, datalen)`: the 16 bytes of `bin`
with the low two replaced by the data length, then four draws thrown away. -/
def shift128plusInitFromBinDatalen (bin : List UInt8) (datalen : Nat) : Shift128 :=
  let fill := (((List.range 16).map (byteAt bin)).set 0 datalen.toUInt8).set 1 (datalen / 256).toUInt8
  let ctx := shift128plusOfFill fill
  (shift128plusNext (shift128plusNext (shift128plusNext (shift128plusNext ctx).2).2).2).2

/-- `list[i]`. -/
def listAt (list : List Int) (i : Nat) : Except Trap Int :=
  if h : i < list.length then pure list[i] else throw .indexPastList

/-- `a % b` on `size_t`. -/
def modT (a b : Nat) : Except Trap Nat :=
  if b = 0 then throw .divisionByZero else pure (a % b)

/-- An `int` returned as an `unsigned int`. -/
def toUnsigned (x : Int) : Nat := (x % 2 ^ 32).toNat

/-- The draws of the padding length past the lists: fewer bytes of padding the longer the
data. -/
def tailRandLen (datalength : Nat) (r : UInt64) : Nat :=
  if datalength > 1300 then r.toNat % 31
  else if datalength > 900 then r.toNat % 127
  else if datalength > 400 then r.toNat % 521
  else r.toNat % 1021

/-- The loop of `auth_chain_find_pos`: `low` moves past sizes below `key`, `high` down to
sizes at or above it. (The code's `else if (key <= arr[middle])` always holds where it
is tested.) -/
def findPosLoop (arr : List Int) (key : Int) (low high : Nat) : Except Trap Nat :=
  if low < high then do
    let middle := (low + high) / 2
    let v ← listAt arr middle
    if key > v then findPosLoop arr key (middle + 1) high
    else findPosLoop arr key low middle
  else pure low
termination_by high - low

/-- `auth_chain_find_pos(arr, length, key)`: the first position whose size is at least
`key`, or `length` when every size is below it. `high` is the `size_t` `length - 1`. -/
def authChainFindPos (arr : List Int) (key : Int) : Except Trap Nat := do
  let high := sizeSub arr.length 1
  let last ← listAt arr high
  if key > last then pure arr.length else findPosLoop arr key 0 high

/-- `auth_chain_a_get_rand_len(local, datalength, random, last_hash)`. -/
def authChainAGetRandLen (datalength : Nat) (random : Shift128) (lastHash : List UInt8) :
    Nat × Shift128 :=
  if datalength > 1440 then (0, random)
  else
    let (r, random) := shift128plusNext (shift128plusInitFromBinDatalen lastHash datalength)
    (tailRandLen datalength r, random)

/-- `struct auth_chain_b_context`: the two size lists. -/
structure AuthChainB where
  dataSizeList : List Int
  dataSizeList2 : List Int

/-- `auth_chain_b_get_rand_len`: a size at or above the frame picked at random from the
first list, else from the second, else a draw as in `a`. -/
def authChainBGetRandLen (b : AuthChainB) (overhead datalength : Nat) (random : Shift128)
    (lastHash : List UInt8) : Except Trap (Nat × Shift128) := do
  if datalength ≥ 1440 then return (0, random)
  let random := shift128plusInitFromBinDatalen lastHash datalength
  let pos ← authChainFindPos b.dataSizeList (datalength + overhead)
  let (r, random) := shift128plusNext random
  let finalPos := pos + (← modT r.toNat b.dataSizeList.length)
  if finalPos < b.dataSizeList.length then
    return (toUnsigned ((← listAt b.dataSizeList finalPos) - datalength - overhead), random)
  let pos2 ← authChainFindPos b.dataSizeList2 (datalength + overhead)
  let (r, random) := shift128plusNext random
  let finalPos2 := pos2 + (← modT r.toNat b.dataSizeList2.length)
  if finalPos2 < b.dataSizeList2.length then
    return (toUnsigned ((← listAt b.dataSizeList2 finalPos2) - datalength - overhead), random)
  if finalPos2 < pos2 + b.dataSizeList2.length - 1 then return (0, random)
  let (r, random) := shift128plusNext random
  return (tailRandLen datalength r, random)

/-- `auth_chain_c_get_rand_len`: a size at or above the frame picked at random from the
list, or, for a frame at or above the largest size, a draw as in `a`. The generator is
reseeded before any draw. -/
def authChainCGetRandLen (list0 : List Int) (overhead datalength : Nat) (_random : Shift128)
    (lastHash : List UInt8) : Except Trap (Nat × Shift128) := do
  let otherDataSize : Int := datalength + overhead
  let random := shift128plusInitFromBinDatalen lastHash datalength
  if otherDataSize ≥ (← listAt list0 (sizeSub list0.length 1)) then
    if datalength > 1440 then return (0, random)
    let (r, random) := shift128plusNext random
    return (tailRandLen datalength r, random)
  let pos ← authChainFindPos list0 otherDataSize
  let (r, random) := shift128plusNext random
  let finalPos := pos + (← modT r.toNat (sizeSub list0.length pos))
  return (toUnsigned ((← listAt list0 finalPos) - otherDataSize), random)

/-- `auth_chain_d_get_rand_len`: as `c`, with no padding for a frame at or above the
largest size. -/
def authChainDGetRandLen (list0 : List Int) (overhead datalength : Nat) (random : Shift128)
    (lastHash : List UInt8) : Except Trap (Nat × Shift128) := do
  let otherDataSize : Int := datalength + overhead
  if otherDataSize ≥ (← listAt list0 (sizeSub list0.length 1)) then return (0, random)
  let random := shift128plusInitFromBinDatalen lastHash datalength
  let pos ← authChainFindPos list0 otherDataSize
  let (r, random) := shift128plusNext random
  let finalPos := pos + (← modT r.toNat (sizeSub list0.length pos))
  return (toUnsigned ((← listAt list0 finalPos) - otherDataSize), random)

/-- `auth_chain_e_get_rand_len`: the smallest size at or above the frame, no padding for
a frame at or above the largest. The generator is reseeded and not drawn from. -/
def authChainEGetRandLen (list0 : List Int) (overhead datalength : Nat) (_random : Shift128)
    (lastHash : List UInt8) : Except Trap (Nat × Shift128) := do
  let random := shift128plusInitFromBinDatalen lastHash datalength
  let otherDataSize : Int := datalength + overhead
  if otherDataSize ≥ (← listAt list0 (sizeSub list0.length 1)) then return (0, random)
  let pos ← authChainFindPos list0 otherDataSize
  return (toUnsigned ((← listAt list0 pos) - otherDataSize), random)

/-! ## The size lists -/

/-- `n` sizes `shift128plus_next(random) % 2340 % 2040 % 1440`, one per loop pass. -/
def drawSizes : Nat → Shift128 → List Int × Shift128
  | 0, random => ([], random)
  | n + 1, random =>
    let (r, random) := shift128plusNext random
    let (rest, random) := drawSizes n random
    (((r.toNat % 2340 % 2040 % 1440 : Nat) : Int) :: rest, random)

/-- `auth_chain_b_init_data_size`: 4 to 11 sizes, and 8 to 23 more, each list sorted. -/
def authChainBInitDataSize (qsort : List Int → List Int) (key : List UInt8) :
    Except Trap AuthChainB := do
  let random ← shift128plusInitFromBin key 16
  let (r, random) := shift128plusNext random
  let (list, random) := drawSizes (r.toNat % 8 + 4) random
  let (r, random) := shift128plusNext random
  let (list2, _) := drawSizes (r.toNat % 16 + 8) random
  pure ⟨qsort list, qsort list2⟩

/-- 12 to 35 sizes, sorted: the list of `auth_chain_c_init_data_size`, and the start of
`d`'s and `f`'s. -/
def cSizeList (qsort : List Int → List Int) (random : Shift128) : List Int × Shift128 :=
  let (r, random) := shift128plusNext random
  let (list0, random) := drawSizes (r.toNat % (8 + 16) + (4 + 8)) random
  (qsort list0, random)

/-- `auth_chain_c_init_data_size`. -/
def authChainCInitDataSize (qsort : List Int → List Int) (key : List UInt8) :
    Except Trap (List Int) := do
  let random ← shift128plusInitFromBin key 16
  pure (cSizeList qsort random).1

/-- `AUTH_CHAIN_D_MAX_DATA_SIZE_LIST_LIMIT_SIZE`. -/
def dMaxDataSizeListLimitSize : Nat := 64

/-- `auth_chain_d_check_and_patch_data_size`: sizes appended while the last one is below
1300 and the list has room. -/
def authChainDCheckAndPatchDataSize (list0 : List Int) (random : Shift128) : List Int × Shift128 :=
  if list0.getD (list0.length - 1) 0 < 1300 ∧ list0.length < dMaxDataSizeListLimitSize then
    let (r, random) := shift128plusNext random
    authChainDCheckAndPatchDataSize (list0 ++ [((r.toNat % 2340 % 2040 % 1440 : Nat) : Int)]) random
  else (list0, random)
termination_by dMaxDataSizeListLimitSize - list0.length

/-- What `d` and `f` make of their seeded generator: `c`'s list, patched, and sorted again
if the patch added to it. -/
def dSizeList (qsort : List Int → List Int) (random : Shift128) : List Int :=
  let (list0, random) := cSizeList qsort random
  let oldLen := list0.length
  let (list0, _) := authChainDCheckAndPatchDataSize list0 random
  if oldLen ≠ list0.length then qsort list0 else list0

/-- `auth_chain_d_init_data_size`. -/
def authChainDInitDataSize (qsort : List Int → List Int) (key : List UInt8) :
    Except Trap (List Int) := do
  let random ← shift128plusInitFromBin key 16
  pure (dSizeList qsort random)

/-- `key_change_datetime_key_bytes`: the day number, big-endian. -/
def keyChangeDatetimeKeyBytes (datetimeKey : UInt64) : List UInt8 :=
  (List.range 8).map fun j => (datetimeKey >>> (8 * (7 - j)).toUInt64).toUInt8

/-- `auth_chain_f_init_data_size(obfs, key_change_datetime_key_bytes)`: the key of
`key_len` bytes with its first 8 XORed with the day's, all `key_len` of them seeding the
generator, then `d`'s list. -/
def authChainFInitDataSize (qsort : List Int → List Int) (key : List UInt8) (keyLen : Nat)
    (datetimeKeyBytes : List UInt8) : Except Trap (List Int) := do
  -- `newKey[i] ^= key_change_datetime_key_bytes[i]` for `i < 8` in a `key_len`-byte buffer
  if keyLen < 8 then throw .bufferOverflow
  let newKey := (List.range keyLen).map fun i =>
    if i < 8 then byteAt key i ^^^ byteAt datetimeKeyBytes i else byteAt key i
  let random ← shift128plusInitFromBin newKey keyLen
  pure (dSizeList qsort random)

/-! ## Lookups -/

theorem listAt_of_lt {list : List Int} {i : Nat} (h : i < list.length) : listAt list i = pure list[i] := by
  simp [listAt, h]

theorem modT_of_pos {a b : Nat} (h : 0 < b) : modT a b = pure (a % b) := by
  simp [modT, Nat.pos_iff_ne_zero.mp h]

theorem toUnsigned_of_lt {x : Int} (h0 : 0 ≤ x) (h : x < 2 ^ 32) : toUnsigned x = x.toNat := by
  rw [toUnsigned, Int.emod_eq_of_lt h0 h]

theorem tailRandLen_lt (datalength : Nat) (r : UInt64) : tailRandLen datalength r < 1021 := by
  unfold tailRandLen
  split_ifs <;> omega

/-- In a sorted list a size is at most every size after it. -/
theorem getElem_le_of_sorted {l : List Int} (hs : l.Pairwise (· ≤ ·)) {i j : Nat} (hj : j < l.length)
    (hij : i ≤ j) : l[i] ≤ l[j] := by
  rcases Nat.lt_or_eq_of_le hij with hlt | rfl
  · exact List.pairwise_iff_getElem.mp hs i j (by omega) hj hlt
  · exact le_refl _

/-- The lists `set_server_info` leaves: non-empty, sorted, at most 64 sizes, each in
`[0, 1440)`. -/
structure SizeList (l : List Int) : Prop where
  ne_nil : l ≠ []
  sorted : l.Pairwise (· ≤ ·)
  length_le : l.length ≤ 64
  bounds : ∀ x ∈ l, 0 ≤ x ∧ x < 1440

section SizeList

variable {l : List Int} (h : SizeList l)
include h

theorem SizeList.length_pos : 0 < l.length := List.length_pos_iff.mpr h.ne_nil

theorem SizeList.last_lt : l.length - 1 < l.length := by
  have := h.length_pos
  omega

theorem SizeList.sizeSub_last : sizeSub l.length 1 = l.length - 1 :=
  sizeSub_of_le h.length_pos (by have := h.length_le; omega)

theorem SizeList.getElem_le {i j : Nat} (hi : i < l.length) (hj : j < l.length) (hij : i ≤ j) :
    l[i] ≤ l[j] :=
  getElem_le_of_sorted h.sorted hj hij

theorem SizeList.getElem_bounds {i : Nat} (hi : i < l.length) : 0 ≤ l[i] ∧ l[i] < 1440 :=
  h.bounds _ (List.getElem_mem hi)

/-- Every size is at most the last. -/
theorem SizeList.le_last {x : Int} (hx : x ∈ l) (hl : l.length - 1 < l.length) :
    x ≤ l[l.length - 1] := by
  obtain ⟨i, hi, rfl⟩ := List.getElem_of_mem hx
  exact h.getElem_le hi hl (by omega)

end SizeList

/-! ## The lower-bound search -/

/-- The search keeps `low ≤ high` with `high` inside the list and its size at least `key`. -/
def FindPosInv (arr : List Int) (key : Int) (low high : Nat) : Prop :=
  low ≤ high ∧ ∃ h : high < arr.length, key ≤ arr[high]

/-- A run of the search keeps whatever each halving keeps, given the size in the middle,
and stops with `low = high`. -/
theorem findPosLoop_inv (arr : List Int) (key : Int) (P : Nat → Nat → Prop)
    (hle : ∀ low high, P low high → low ≤ high)
    (hmid : ∀ low high, P low high → low < high → (low + high) / 2 < arr.length)
    (hstep : ∀ low high (hm : (low + high) / 2 < arr.length), P low high → low < high →
      if key > arr[(low + high) / 2] then P ((low + high) / 2 + 1) high
      else P low ((low + high) / 2)) :
    ∀ low high, P low high → ∃ pos, findPosLoop arr key low high = pure pos ∧ P pos pos := by
  intro low high
  induction low, high using findPosLoop.induct with
  | case1 low high hlt middle ihUp ihDown =>
    intro hp
    have hm := hmid low high hp hlt
    have hs := hstep low high hm hp hlt
    rw [findPosLoop, if_pos hlt]
    simp only [listAt_of_lt hm, pure_bind]
    split
    · exact ihUp (by rwa [if_pos ‹_›] at hs)
    · exact ihDown (by rwa [if_neg ‹_›] at hs)
  | case2 low high hnlt =>
    intro hp
    have heq : low = high := by have := hle low high hp; omega
    subst heq
    rw [findPosLoop, if_neg hnlt]
    exact ⟨low, rfl, hp⟩

theorem findPosInv_step {arr : List Int} {key : Int} {low high : Nat}
    (hm : (low + high) / 2 < arr.length) (h : FindPosInv arr key low high) (hlt : low < high) :
    if key > arr[(low + high) / 2] then FindPosInv arr key ((low + high) / 2 + 1) high
    else FindPosInv arr key low ((low + high) / 2) := by
  obtain ⟨_, hhl, hkey⟩ := h
  split
  · exact ⟨by omega, hhl, hkey⟩
  · exact ⟨by omega, hm, by omega⟩

theorem findPosLoop_spec (arr : List Int) (key : Int) :
    ∀ n low high, high - low = n → FindPosInv arr key low high →
      ∃ pos, findPosLoop arr key low high = pure pos ∧ FindPosInv arr key pos pos := by
  intro _ low high _ h
  refine findPosLoop_inv arr key (FindPosInv arr key) (fun _ _ h => h.1) ?_
    (fun _ _ hm h hlt => findPosInv_step hm h hlt) low high h
  intro _ _ ⟨_, hhl, _⟩ hlt
  omega

/-- `auth_chain_find_pos` on a size list: no trap, and a position whose size is at least
`key`, inside the list whenever the last size is at least `key`. -/
theorem authChainFindPos_spec {arr : List Int} (ha : SizeList arr) (key : Int) :
    ∃ pos, authChainFindPos arr key = pure pos ∧ pos ≤ arr.length ∧
      (∀ hp : pos < arr.length, key ≤ arr[pos]) ∧
      (∀ hl : arr.length - 1 < arr.length, key ≤ arr[arr.length - 1] → pos < arr.length) := by
  unfold authChainFindPos
  simp only [ha.sizeSub_last, listAt_of_lt ha.last_lt, pure_bind]
  split
  · exact ⟨arr.length, rfl, le_refl _, fun hp => absurd hp (Nat.lt_irrefl _), fun _ h => by omega⟩
  · obtain ⟨pos, hpos, hle, hlt, hkey⟩ :=
      findPosLoop_spec arr key _ 0 (arr.length - 1) rfl ⟨Nat.zero_le _, ha.last_lt, by omega⟩
    exact ⟨pos, hpos, by omega, fun _ => hkey, fun _ _ => hlt⟩

/-- `FindPosInv`, and every size before `low` below `key`: the search never passes the
first size at least `key`. -/
def LowerBoundInv (arr : List Int) (key : Int) (low high : Nat) : Prop :=
  FindPosInv arr key low high ∧ ∀ i (hi : i < arr.length), i < low → arr[i] < key

theorem lowerBoundInv_step {arr : List Int} (hs : arr.Pairwise (· ≤ ·)) {key : Int} {low high : Nat}
    (hm : (low + high) / 2 < arr.length) (h : LowerBoundInv arr key low high) (hlt : low < high) :
    if key > arr[(low + high) / 2] then LowerBoundInv arr key ((low + high) / 2 + 1) high
    else LowerBoundInv arr key low ((low + high) / 2) := by
  obtain ⟨hf, hbelow⟩ := h
  have hf' := findPosInv_step hm hf hlt
  split
  · next hgt =>
    rw [if_pos hgt] at hf'
    -- every size up to the middle is at most the middle's, which is below `key`
    refine ⟨hf', fun i hi hle => ?_⟩
    exact lt_of_le_of_lt (getElem_le_of_sorted hs hm (by omega)) hgt
  · next hngt =>
    rw [if_neg hngt] at hf'
    exact ⟨hf', hbelow⟩

/-- `auth_chain_find_pos` is `lower_bound`: over every non-empty sorted array whose length
is a `size_t`, for every key, it returns the first position whose size is at least the
key, or the length when the last size is below it. -/
theorem auth_chain_find_pos_is_lower_bound {arr : List Int} (hne : arr ≠ [])
    (hsorted : arr.Pairwise (· ≤ ·)) (hlen : arr.length < 2 ^ 64) (key : Int) :
    ∃ pos, authChainFindPos arr key = pure pos ∧
      ((∃ hp : pos < arr.length, key ≤ arr[pos] ∧ ∀ i (hi : i < pos), arr[i] < key) ∨
        (pos = arr.length ∧ arr.getLast hne < key)) := by
  have hpos : 0 < arr.length := List.length_pos_iff.mpr hne
  have hlast : arr.length - 1 < arr.length := by omega
  unfold authChainFindPos
  simp only [sizeSub_of_le hpos hlen, listAt_of_lt hlast, pure_bind]
  split
  · next hgt => exact ⟨arr.length, rfl, .inr ⟨rfl, by rwa [List.getLast_eq_getElem]⟩⟩
  · next hle =>
    have hinit : LowerBoundInv arr key 0 (arr.length - 1) :=
      ⟨⟨Nat.zero_le _, hlast, by omega⟩, fun _ _ h => absurd h (Nat.not_lt_zero _)⟩
    obtain ⟨pos, hp, ⟨_, hlt, hkey⟩, hbelow⟩ :=
      findPosLoop_inv arr key (LowerBoundInv arr key) (fun _ _ h => h.1.1)
        (fun _ _ h hlt => by have := h.1.2.1; omega)
        (fun _ _ hm h hlt => lowerBoundInv_step hsorted hm h hlt) 0 (arr.length - 1) hinit
    exact ⟨pos, hp, .inl ⟨hlt, hkey, fun i hi => hbelow i (by omega) hi⟩⟩

/-- Sizes with a repeat, as `set_server_info` draws them. -/
def repeatedSizes : List Int := [1, 3, 4, 4, 8]

theorem find_pos_stops_at_the_first_repeat :
    repeatedSizes ≠ [] ∧ repeatedSizes.Pairwise (· ≤ ·) ∧ repeatedSizes.length < 2 ^ 64 ∧
      ∃ pos, authChainFindPos repeatedSizes 4 = pure pos ∧
        ((∃ hp : pos < repeatedSizes.length, 4 ≤ repeatedSizes[pos] ∧
            ∀ i (hi : i < pos), repeatedSizes[i] < 4) ∨
          (pos = repeatedSizes.length ∧ repeatedSizes.getLast (by decide) < 4)) :=
  ⟨by decide, by decide, by decide,
    auth_chain_find_pos_is_lower_bound (by decide) (by decide) (by decide) 4⟩

/-! ## The padding lengths -/

/-- A padding length in range: below 1440, and keeping a frame of fewer than 4096 bytes
below 4096. -/
def RandLenOk (datalength r : Nat) : Prop := r < 1440 ∧ (datalength < 4096 → datalength + r < 4096)

theorem randLenOk_zero (datalength : Nat) : RandLenOk datalength 0 :=
  ⟨by omega, fun h => by omega⟩

theorem randLenOk_tail {datalength : Nat} (h : datalength ≤ 1440) (r : UInt64) :
    RandLenOk datalength (tailRandLen datalength r) := by
  have := tailRandLen_lt datalength r
  exact ⟨by omega, fun _ => by omega⟩

/-- A size `v` at or above `key = datalength + overhead` leaves `v - key` of padding. -/
theorem randLenOk_size {datalength overhead : Nat} {v : Int} (hv : 0 ≤ v ∧ v < 1440)
    (hkey : (datalength + overhead : Int) ≤ v) :
    toUnsigned (v - (datalength + overhead : Int)) = (v - (datalength + overhead : Int)).toNat ∧
      RandLenOk datalength (v - (datalength + overhead : Int)).toNat := by
  refine ⟨toUnsigned_of_lt (by omega) (by omega), by omega, fun _ => by omega⟩

theorem authChainAGetRandLen_ok (datalength : Nat) (random : Shift128) (lastHash : List UInt8) :
    RandLenOk datalength (authChainAGetRandLen datalength random lastHash).1 := by
  unfold authChainAGetRandLen
  split
  · exact randLenOk_zero datalength
  · exact randLenOk_tail (by omega) _

/-- A size picked at or after the lower bound of `key` in a size list is at least `key`. -/
theorem pick_spec {arr : List Int} (ha : SizeList arr) {key : Int} {pos finalPos : Nat}
    (hpos : ∀ hp : pos < arr.length, key ≤ arr[pos]) (hle : pos ≤ finalPos)
    (hfin : finalPos < arr.length) : key ≤ arr[finalPos] :=
  le_trans (hpos (by omega)) (ha.getElem_le (by omega) hfin hle)

theorem authChainBGetRandLen_ok {b : AuthChainB} (h1 : SizeList b.dataSizeList)
    (h2 : SizeList b.dataSizeList2) (overhead datalength : Nat) (random : Shift128)
    (lastHash : List UInt8) :
    ∃ r random', authChainBGetRandLen b overhead datalength random lastHash = pure (r, random') ∧
      RandLenOk datalength r := by
  unfold authChainBGetRandLen
  split
  · exact ⟨0, random, rfl, randLenOk_zero datalength⟩
  · rename_i hdl
    obtain ⟨pos, hp, hple, hpk, -⟩ := authChainFindPos_spec h1 (datalength + overhead)
    obtain ⟨pos2, hp2, hple2, hpk2, -⟩ := authChainFindPos_spec h2 (datalength + overhead)
    simp only [hp, pure_bind, modT_of_pos h1.length_pos, modT_of_pos h2.length_pos]
    split
    · -- a size from the first list
      rename_i hfin
      simp only [listAt_of_lt hfin, pure_bind]
      have hv := randLenOk_size (h1.getElem_bounds hfin)
        (pick_spec h1 hpk (Nat.le_add_right _ _) hfin)
      rw [Int.sub_sub, hv.1]
      exact ⟨_, _, rfl, hv.2⟩
    · simp only [hp2, pure_bind]
      split
      · rename_i hfin
        simp only [listAt_of_lt hfin, pure_bind]
        have hv := randLenOk_size (h2.getElem_bounds hfin)
          (pick_spec h2 hpk2 (Nat.le_add_right _ _) hfin)
        rw [Int.sub_sub, hv.1]
        exact ⟨_, _, rfl, hv.2⟩
      · split
        · exact ⟨0, _, rfl, randLenOk_zero datalength⟩
        · exact ⟨_, _, rfl, randLenOk_tail (by omega) _⟩

/-- `c`, `d` and `e` pick a size at or after the lower bound of a frame below the largest
size: it is inside the list and at least the frame. -/
theorem pickBelowLast_spec {list0 : List Int} (h : SizeList list0) {key : Int} {pos : Nat}
    (hpos : ∀ hp : pos < list0.length, key ≤ list0[pos])
    (hin : ∀ hl : list0.length - 1 < list0.length, key ≤ list0[list0.length - 1] → pos < list0.length)
    (hl : list0.length - 1 < list0.length) (hlt : key < list0[list0.length - 1]) (r : Nat) :
    ∃ hfin : pos + r % (list0.length - pos) < list0.length,
      key ≤ list0[pos + r % (list0.length - pos)] := by
  have hp := hin hl (le_of_lt hlt)
  have hfin : pos + r % (list0.length - pos) < list0.length := by
    have := Nat.mod_lt r (show 0 < list0.length - pos by omega)
    omega
  exact ⟨hfin, pick_spec h hpos (Nat.le_add_right _ _) hfin⟩

theorem authChainCGetRandLen_ok {list0 : List Int} (h : SizeList list0) (overhead datalength : Nat)
    (random : Shift128) (lastHash : List UInt8) :
    ∃ r random', authChainCGetRandLen list0 overhead datalength random lastHash = pure (r, random') ∧
      RandLenOk datalength r := by
  unfold authChainCGetRandLen
  simp only [h.sizeSub_last, listAt_of_lt h.last_lt, pure_bind]
  split
  · -- at or above the largest size: a draw as in `a`, none past 1440
    split
    · exact ⟨0, _, rfl, randLenOk_zero datalength⟩
    · exact ⟨_, _, rfl, randLenOk_tail (by omega) _⟩
  · rename_i hlt
    obtain ⟨pos, hp, -, hpk, hin⟩ := authChainFindPos_spec h (datalength + overhead)
    have hpl := hin h.last_lt (by omega)
    obtain ⟨hfin, hkey⟩ := pickBelowLast_spec h hpk hin h.last_lt (by omega)
      (shift128plusNext (shift128plusInitFromBinDatalen lastHash datalength)).1.toNat
    have hv := randLenOk_size (h.getElem_bounds hfin) hkey
    simp only [hp, pure_bind, sizeSub_of_le (Nat.le_of_lt hpl) (by have := h.length_le; omega),
      modT_of_pos (show 0 < list0.length - pos by omega), listAt_of_lt hfin, hv.1]
    exact ⟨_, _, rfl, hv.2⟩

theorem authChainDGetRandLen_ok {list0 : List Int} (h : SizeList list0) (overhead datalength : Nat)
    (random : Shift128) (lastHash : List UInt8) :
    ∃ r random', authChainDGetRandLen list0 overhead datalength random lastHash = pure (r, random') ∧
      RandLenOk datalength r := by
  unfold authChainDGetRandLen
  simp only [h.sizeSub_last, listAt_of_lt h.last_lt, pure_bind]
  split
  · exact ⟨0, random, rfl, randLenOk_zero datalength⟩
  · rename_i hlt
    obtain ⟨pos, hp, -, hpk, hin⟩ := authChainFindPos_spec h (datalength + overhead)
    have hpl := hin h.last_lt (by omega)
    obtain ⟨hfin, hkey⟩ := pickBelowLast_spec h hpk hin h.last_lt (by omega)
      (shift128plusNext (shift128plusInitFromBinDatalen lastHash datalength)).1.toNat
    have hv := randLenOk_size (h.getElem_bounds hfin) hkey
    simp only [hp, pure_bind, sizeSub_of_le (Nat.le_of_lt hpl) (by have := h.length_le; omega),
      modT_of_pos (show 0 < list0.length - pos by omega), listAt_of_lt hfin, hv.1]
    exact ⟨_, _, rfl, hv.2⟩

theorem authChainEGetRandLen_ok {list0 : List Int} (h : SizeList list0) (overhead datalength : Nat)
    (random : Shift128) (lastHash : List UInt8) :
    ∃ r random', authChainEGetRandLen list0 overhead datalength random lastHash = pure (r, random') ∧
      RandLenOk datalength r := by
  unfold authChainEGetRandLen
  simp only [h.sizeSub_last, listAt_of_lt h.last_lt, pure_bind]
  split
  · exact ⟨0, _, rfl, randLenOk_zero datalength⟩
  · rename_i hlt
    obtain ⟨pos, hp, -, hpk, hin⟩ := authChainFindPos_spec h (datalength + overhead)
    have hpl := hin h.last_lt (by omega)
    have hv := randLenOk_size (h.getElem_bounds hpl) (hpk hpl)
    simp only [hp, pure_bind, listAt_of_lt hpl, hv.1]
    exact ⟨_, _, rfl, hv.2⟩

/-! ## The size lists -/

/-- What `qsort` with `data_size_list_compare` is taken to do: return a sorted permutation. -/
structure IsSort (qsort : List Int → List Int) : Prop where
  perm : ∀ l, (qsort l).Perm l
  sorted : ∀ l, (qsort l).Pairwise (· ≤ ·)

/-- `List.mergeSort` on `≤` is such a sort. -/
theorem isSort_mergeSort : IsSort fun l => l.mergeSort fun a b => decide (a ≤ b) where
  perm l := List.mergeSort_perm l _
  sorted l := List.pairwise_mergeSort' (· ≤ ·) l

/-- Sizes in the range every draw lands in. -/
def InRange (l : List Int) : Prop := ∀ x ∈ l, 0 ≤ x ∧ x < 1440

theorem inRange_draw (r : UInt64) : InRange [((r.toNat % 2340 % 2040 % 1440 : Nat) : Int)] := by
  intro x hx
  rw [List.mem_singleton] at hx
  subst hx
  omega

theorem inRange_append {l l' : List Int} (h : InRange l) (h' : InRange l') : InRange (l ++ l') := by
  intro x hx
  rcases List.mem_append.mp hx with hx | hx
  · exact h x hx
  · exact h' x hx

theorem drawSizes_length : ∀ (n : Nat) (random : Shift128), (drawSizes n random).1.length = n
  | 0, _ => rfl
  | n + 1, random => by simp [drawSizes, drawSizes_length n]

theorem drawSizes_inRange : ∀ (n : Nat) (random : Shift128), InRange (drawSizes n random).1
  | 0, _ => fun _ h => absurd h List.not_mem_nil
  | n + 1, random => by
    simp only [drawSizes]
    exact inRange_append (l := [_]) (inRange_draw _) (drawSizes_inRange n _)

variable {qsort : List Int → List Int}

theorem sizeList_sort (hq : IsSort qsort) {l : List Int} (hne : l ≠ []) (hlen : l.length ≤ 64)
    (hb : InRange l) : SizeList (qsort l) where
  ne_nil := by
    rw [← List.length_pos_iff, (hq.perm l).length_eq]
    exact List.length_pos_iff.mpr hne
  sorted := hq.sorted l
  length_le := (hq.perm l).length_eq ▸ hlen
  bounds := fun x hx => hb x ((hq.perm l).mem_iff.mp hx)

/-- `n` drawn sizes, sorted, for `0 < n ≤ 64`. -/
theorem sizeList_drawSizes (hq : IsSort qsort) {n : Nat} (h0 : 0 < n) (hn : n ≤ 64)
    (random : Shift128) : SizeList (qsort (drawSizes n random).1) := by
  have hlen := drawSizes_length n random
  refine sizeList_sort hq ?_ (by omega) (drawSizes_inRange n random)
  rw [← List.length_pos_iff]
  omega

theorem shift128plusInitFromBin_of_le (bin : List UInt8) {binSize : Nat} (h : binSize ≤ 16) :
    shift128plusInitFromBin bin binSize =
      pure (shift128plusOfFill ((List.range 16).map fun i => if i < binSize then byteAt bin i else 0)) :=
  if_pos h

theorem shift128plusInitFromBin_of_lt {bin : List UInt8} {binSize : Nat} (h : 16 < binSize) :
    shift128plusInitFromBin bin binSize = throw .bufferOverflow :=
  if_neg (by omega)

/-- `auth_chain_b_init_data_size` on any key: two size lists. -/
theorem authChainBInitDataSize_spec (hq : IsSort qsort) (key : List UInt8) :
    ∃ b, authChainBInitDataSize qsort key = pure b ∧
      SizeList b.dataSizeList ∧ SizeList b.dataSizeList2 := by
  simp only [authChainBInitDataSize, shift128plusInitFromBin_of_le key (le_refl 16), pure_bind]
  exact ⟨_, rfl, sizeList_drawSizes hq (by omega) (by omega) _,
    sizeList_drawSizes hq (by omega) (by omega) _⟩

/-- 12 to 35 sizes, sorted. -/
theorem cSizeList_spec (hq : IsSort qsort) (random : Shift128) :
    SizeList (cSizeList qsort random).1 ∧ 12 ≤ (cSizeList qsort random).1.length := by
  simp only [cSizeList]
  refine ⟨sizeList_drawSizes hq (by omega) (by omega) _, ?_⟩
  rw [(hq.perm _).length_eq, drawSizes_length]
  omega

theorem authChainCInitDataSize_spec (hq : IsSort qsort) (key : List UInt8) :
    ∃ l, authChainCInitDataSize qsort key = pure l ∧ SizeList l := by
  simp only [authChainCInitDataSize, shift128plusInitFromBin_of_le key (le_refl 16), pure_bind]
  exact ⟨_, rfl, (cSizeList_spec hq _).1⟩

/-- What the patch loop leaves: the list it was given with sizes appended, at most 64 of
them, ending at 1300 or more unless there are 64. -/
structure Patched (list0 out : List Int) : Prop where
  extends_list : ∃ extra, out = list0 ++ extra
  length_le : out.length ≤ 64
  inRange : InRange out
  ends : out.length = 64 ∨ ∃ x ∈ out, 1300 ≤ x

/-- The patch loop, by its own recursion: each pass appends one drawn size. -/
theorem authChainDCheckAndPatchDataSize_spec (list0 : List Int) (random : Shift128)
    (hne : list0 ≠ []) (hlen : list0.length ≤ 64) (hb : InRange list0) :
    Patched list0 (authChainDCheckAndPatchDataSize list0 random).1 := by
  fun_induction authChainDCheckAndPatchDataSize list0 random with
  | case1 list0 random hcond r random' _ ih =>
    have hlen' : (list0 ++ [((r.toNat % 2340 % 2040 % 1440 : Nat) : Int)]).length ≤ 64 := by
      simp only [List.length_append, List.length_singleton]
      exact hcond.2
    obtain ⟨⟨extra, hext⟩, hl, hr, he⟩ :=
      ih (by simp) hlen' (inRange_append hb (inRange_draw r))
    exact ⟨⟨_ :: extra, by rw [hext, List.append_assoc, List.singleton_append]⟩, hl, hr, he⟩
  | case2 list0 random hcond =>
    dsimp only
    refine ⟨⟨[], (List.append_nil _).symm⟩, hlen, hb, ?_⟩
    -- the loop stops at a last size of 1300 or more, or at 64 sizes
    have hpos : 0 < list0.length := List.length_pos_iff.mpr hne
    by_cases hlast : list0.getD (list0.length - 1) 0 < 1300
    · left
      have : ¬ list0.length < dMaxDataSizeListLimitSize := fun h => hcond ⟨hlast, h⟩
      rw [dMaxDataSizeListLimitSize] at this
      omega
    · right
      refine ⟨list0[list0.length - 1], List.getElem_mem _, ?_⟩
      rw [List.getD_eq_getElem _ _ (by omega)] at hlast
      omega

/-- A size list with a size of 1300 or more ends at 1300 or more. -/
theorem SizeList.ends {l : List Int} (h : SizeList l) (hend : l.length = 64 ∨ ∃ x ∈ l, 1300 ≤ x) :
    l.length = 64 ∨ 1300 ≤ l.getD (l.length - 1) 0 := by
  rcases hend with h64 | ⟨x, hx, hx1300⟩
  · exact Or.inl h64
  · right
    rw [List.getD_eq_getElem _ _ h.last_lt]
    exact le_trans hx1300 (h.le_last hx h.last_lt)

/-- `d`'s list: a size list of at most 64 sizes, ending at 1300 or more unless it has 64. -/
def DSizeList (l : List Int) : Prop :=
  SizeList l ∧ (l.length = 64 ∨ 1300 ≤ l.getD (l.length - 1) 0)

theorem dSizeList_spec (hq : IsSort qsort) (random : Shift128) : DSizeList (dSizeList qsort random) := by
  obtain ⟨hc, -⟩ := cSizeList_spec hq random
  have hp := authChainDCheckAndPatchDataSize_spec _ ((cSizeList qsort random).2) hc.ne_nil hc.length_le hc.bounds
  simp only [dSizeList]
  generalize (authChainDCheckAndPatchDataSize (cSizeList qsort random).1 (cSizeList qsort random).2).1 = out at hp ⊢
  obtain ⟨⟨extra, rfl⟩, hl, hr, he⟩ := hp
  split
  · -- the patch appended: sorted again
    have hs := sizeList_sort hq (by simp [hc.ne_nil]) hl hr
    refine ⟨hs, hs.ends ?_⟩
    rw [(hq.perm _).length_eq]
    rcases he with h64 | ⟨x, hx, hx1300⟩
    · exact Or.inl h64
    · exact Or.inr ⟨x, (hq.perm _).mem_iff.mpr hx, hx1300⟩
  · -- nothing appended: the list is still the sorted one
    rename_i hsame
    have hextra : extra = [] := by
      rw [List.length_append] at hsame
      exact List.eq_nil_of_length_eq_zero (by omega)
    subst hextra
    rw [List.append_nil] at he ⊢
    exact ⟨hc, hc.ends he⟩

theorem authChainDInitDataSize_spec (hq : IsSort qsort) (key : List UInt8) :
    ∃ l, authChainDInitDataSize qsort key = pure l ∧ DSizeList l := by
  simp only [authChainDInitDataSize, shift128plusInitFromBin_of_le key (le_refl 16), pure_bind]
  exact ⟨_, rfl, dSizeList_spec hq _⟩

/-- `f` on a key of 8 to 16 bytes builds `d`'s kind of list. -/
theorem authChainFInitDataSize_spec (hq : IsSort qsort) (key : List UInt8) {keyLen : Nat}
    (h8 : 8 ≤ keyLen) (h16 : keyLen ≤ 16) (datetimeKeyBytes : List UInt8) :
    ∃ l, authChainFInitDataSize qsort key keyLen datetimeKeyBytes = pure l ∧ DSizeList l := by
  simp only [authChainFInitDataSize, if_neg (show ¬ keyLen < 8 by omega),
    shift128plusInitFromBin_of_le _ h16, pure_bind]
  exact ⟨_, rfl, dSizeList_spec hq _⟩

/-- `auth_chain_f_init_data_size` copies all `key_len` bytes of the key into the 16-byte
seed buffer of `shift128plus_init_from_bin`: every key longer than 16 bytes writes past
it, whatever the day. -/
theorem auth_chain_f_overflows_its_seed_buffer (key : List UInt8) {keyLen : Nat} (h16 : 16 < keyLen)
    (datetimeKeyBytes : List UInt8) :
    authChainFInitDataSize qsort key keyLen datetimeKeyBytes = throw .bufferOverflow := by
  simp only [authChainFInitDataSize, if_neg (show ¬ keyLen < 8 by omega)]
  rw [shift128plusInitFromBin_of_lt h16]
  rfl

/-- The 32-byte key of `aes-256-cfb` on the first day of 1970. -/
theorem aes256_key_overflows_f_seed :
    16 < 32 ∧ authChainFInitDataSize id (List.replicate 32 7) 32 (keyChangeDatetimeKeyBytes 0) =
      throw .bufferOverflow :=
  ⟨by decide, auth_chain_f_overflows_its_seed_buffer (List.replicate 32 7) (by decide) _⟩

end ShadowsocksR.AuthChain
