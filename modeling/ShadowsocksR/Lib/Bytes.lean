/-
  Bytes — fixed-width integer fields in byte buffers.

  A wire format stores a 16- or 32-bit field as its bytes, low byte first (little
  endian) or high byte first (big endian), written the way C writes them:
  `out[0] = (char)x; out[1] = (char)(x >> 8)`. A reader takes the bytes back with
  shifts and ors, or with arithmetic. Buffers are lists of `UInt8`; a read at an
  index past the end yields 0 (`byteAt`), which is what a zero-filled allocation holds.

  Proved here, for any buffer that holds a field between a prefix and a suffix:
  - `ofLe32_toNat`: the or-of-shifts reading of four bytes is their positional value;
  - `rdLe32_le32`, `rdLe16_le16`, `rdBe16_be16`: reading a field back at the offset
    it was written to gives the value (16-bit fields up to `2 ^ 16`);
  - `byteAt_append_left` / `byteAt_append_right` / `byteAt_append_field`: where an index lands
    in a concatenation.
-/

import Mathlib

namespace Bytes

/-! ## Reading a buffer by index -/

/-- The byte at `i`, 0 past the end of the buffer. -/
def byteAt (l : List UInt8) (i : Nat) : UInt8 := l.getD i 0

theorem byteAt_append_left {l r : List UInt8} {i : Nat} (h : i < l.length) :
    byteAt (l ++ r) i = byteAt l i := by
  simp [byteAt, List.getD_eq_getElem?_getD, List.getElem?_append_left h]

theorem byteAt_append_right (l r : List UInt8) (i : Nat) :
    byteAt (l ++ r) (l.length + i) = byteAt r i := by
  simp [byteAt, List.getD_eq_getElem?_getD, List.getElem?_append_right]

/-- A field placed after `pre`: its `i`-th byte sits at `pre.length + i`. -/
theorem byteAt_append_field (pre f post : List UInt8) {i : Nat} (h : i < f.length) :
    byteAt (pre ++ f ++ post) (pre.length + i) = byteAt f i := by
  rw [List.append_assoc, byteAt_append_right, byteAt_append_left h]

/-- The field placed after `pre`, read back by dropping `pre` and taking its length. -/
theorem take_drop_append_field (pre f post : List UInt8) :
    ((pre ++ f ++ post).drop pre.length).take f.length = f := by
  simp

@[simp] theorem byteAt_cons_zero (b : UInt8) (l : List UInt8) : byteAt (b :: l) 0 = b := rfl

@[simp] theorem byteAt_cons_succ (b : UInt8) (l : List UInt8) (i : Nat) :
    byteAt (b :: l) (i + 1) = byteAt l i := rfl

@[simp] theorem byteAt_nil (i : Nat) : byteAt [] i = 0 := by
  simp [byteAt]

theorem byteAt_eq_getElem {l : List UInt8} {i : Nat} (h : i < l.length) : byteAt l i = l[i] := by
  simp [byteAt, List.getD_eq_getElem?_getD, List.getElem?_eq_getElem h]

theorem byteAt_mem {l : List UInt8} {i : Nat} (h : i < l.length) : byteAt l i ∈ l := by
  rw [byteAt_eq_getElem h]
  exact List.getElem_mem h

theorem byteAt_drop (l : List UInt8) (n i : Nat) : byteAt (l.drop n) i = byteAt l (n + i) := by
  simp [byteAt, List.getD_eq_getElem?_getD, List.getElem?_drop]

theorem byteAt_eq_zero_of_le {l : List UInt8} {i : Nat} (h : l.length ≤ i) : byteAt l i = 0 := by
  simp [byteAt, List.getD_eq_getElem?_getD, List.getElem?_eq_none h]

theorem byteAt_set (l : List UInt8) (j : Nat) (v : UInt8) (i : Nat) :
    byteAt (l.set j v) i = if i = j ∧ j < l.length then v else byteAt l i := by
  simp only [byteAt, List.getD_eq_getElem?_getD, List.getElem?_set]
  by_cases hij : j = i
  · subst hij
    by_cases hj : j < l.length
    · simp [hj]
    · simp [hj]
  · simp [hij, Ne.symm hij]

/-- Zeros after a buffer read as the buffer's own default. -/
theorem byteAt_append_replicate_zero (l : List UInt8) (k i : Nat) :
    byteAt (l ++ List.replicate k 0) i = byteAt l i := by
  by_cases h : i < l.length
  · exact byteAt_append_left h
  · obtain ⟨j, rfl⟩ := Nat.exists_eq_add_of_le (Nat.not_lt.mp h)
    rw [byteAt_append_right, byteAt_eq_zero_of_le (Nat.le_add_right _ _)]
    simp only [byteAt, List.getD_eq_getElem?_getD, List.getElem?_replicate]
    split <;> rfl

/-! ## Writing fields -/

/-- A 16-bit field, low byte first: `out[0] = (char)x; out[1] = (char)(x >> 8)`. -/
def le16 (x : Nat) : List UInt8 := [x.toUInt8, (x >>> 8).toUInt8]

/-- A 16-bit field, high byte first: `out[0] = (char)(x >> 8); out[1] = (char)x`. -/
def be16 (x : Nat) : List UInt8 := [(x >>> 8).toUInt8, x.toUInt8]

/-- A 32-bit field, low byte first. -/
def le32 (x : UInt32) : List UInt8 :=
  [x.toUInt8, (x >>> 8).toUInt8, (x >>> 16).toUInt8, (x >>> 24).toUInt8]

/-- A 32-bit field, high byte first (`htonl`). -/
def be32 (x : UInt32) : List UInt8 :=
  [(x >>> 24).toUInt8, (x >>> 16).toUInt8, (x >>> 8).toUInt8, x.toUInt8]

/-- A 32-bit field, low byte first, into a four-byte array (`memintcopy_lt`). -/
def le32Vec (x : UInt32) : Vector UInt8 4 := ⟨(le32 x).toArray, rfl⟩

@[simp] theorem le16_length (x : Nat) : (le16 x).length = 2 := rfl
@[simp] theorem be16_length (x : Nat) : (be16 x).length = 2 := rfl
@[simp] theorem le32_length (x : UInt32) : (le32 x).length = 4 := rfl
@[simp] theorem be32_length (x : UInt32) : (be32 x).length = 4 := rfl
@[simp] theorem le32Vec_toList (x : UInt32) : (le32Vec x).toList = le32 x := rfl

/-! ## Reading fields -/

/-- `((uint32_t)b3 << 24) | ((uint32_t)b2 << 16) | ((uint32_t)b1 << 8) | (uint32_t)b0`. -/
def ofLe32 (b0 b1 b2 b3 : UInt8) : UInt32 :=
  (b3.toUInt32 <<< 24) ||| (b2.toUInt32 <<< 16) ||| (b1.toUInt32 <<< 8) ||| b0.toUInt32

/-- A 32-bit little-endian field at offset `i` (a host-order `uint32_t` load on a
little-endian host). -/
def rdLe32 (l : List UInt8) (i : Nat) : UInt32 :=
  ofLe32 (byteAt l i) (byteAt l (i + 1)) (byteAt l (i + 2)) (byteAt l (i + 3))

/-- A 16-bit little-endian field at offset `i`. -/
def rdLe16 (l : List UInt8) (i : Nat) : Nat := (byteAt l i).toNat + (byteAt l (i + 1)).toNat * 256

/-- A 32-bit big-endian field at offset `i` (`ntohl` of a load). -/
def rdBe32 (l : List UInt8) (i : Nat) : UInt32 :=
  ofLe32 (byteAt l (i + 3)) (byteAt l (i + 2)) (byteAt l (i + 1)) (byteAt l i)

/-- A 16-bit big-endian field at offset `i`. -/
def rdBe16 (l : List UInt8) (i : Nat) : Nat := (byteAt l i).toNat * 256 + (byteAt l (i + 1)).toNat

/-- `a - b` on `size_t`: modulo `2 ^ 64`, so it wraps when `b > a`. -/
def sizeSub (a b : Nat) : Nat := (a + 2 ^ 64 - b % 2 ^ 64) % 2 ^ 64

theorem sizeSub_of_le {a b : Nat} (h : b ≤ a) (ha : a < 2 ^ 64) : sizeSub a b = a - b := by
  unfold sizeSub
  rw [Nat.mod_eq_of_lt (by omega : b < 2 ^ 64)]
  omega

theorem sizeSub_of_lt {a b : Nat} (h : a < b) (hb : b < 2 ^ 64) : sizeSub a b = 2 ^ 64 + a - b := by
  unfold sizeSub
  rw [Nat.mod_eq_of_lt hb, Nat.mod_eq_of_lt (by omega : a + 2 ^ 64 - b < 2 ^ 64)]
  omega

/-! ## Or of disjoint bit ranges is a sum -/

theorem or_eq_add_of_lt {x y k : Nat} (hx : x % 2 ^ k = 0) (hy : y < 2 ^ k) :
    x ||| y = x + y := by
  obtain ⟨q, rfl⟩ : ∃ q, x = 2 ^ k * q :=
    ⟨x / 2 ^ k, (Nat.mul_div_cancel' (Nat.dvd_of_mod_eq_zero hx)).symm⟩
  exact (Nat.two_pow_add_eq_or_of_lt hy q).symm

theorem shiftLeft_mod_eq {b k : Nat} (hb : b < 2 ^ 8) (hk : k ≤ 24) :
    (b <<< k) % 2 ^ 32 = b * 2 ^ k := by
  rw [Nat.shiftLeft_eq, Nat.mod_eq_of_lt]
  calc b * 2 ^ k < 2 ^ 8 * 2 ^ k := Nat.mul_lt_mul_of_pos_right hb (Nat.two_pow_pos k)
    _ = 2 ^ (8 + k) := (Nat.pow_add 2 8 k).symm
    _ ≤ 2 ^ 32 := Nat.pow_le_pow_right (by decide) (by omega)

theorem ofLe32_toNat (b0 b1 b2 b3 : UInt8) :
    (ofLe32 b0 b1 b2 b3).toNat =
      b3.toNat * 2 ^ 24 + b2.toNat * 2 ^ 16 + b1.toNat * 2 ^ 8 + b0.toNat := by
  have h0 := b0.toNat_lt
  have h1 := b1.toNat_lt
  have h2 := b2.toNat_lt
  have h3 := b3.toNat_lt
  -- the shift amounts, taken modulo the width by `<<<`
  have e24 : (24 : UInt32).toNat % 32 = 24 := rfl
  have e16 : (16 : UInt32).toNat % 32 = 16 := rfl
  have e8 : (8 : UInt32).toNat % 32 = 8 := rfl
  simp only [ofLe32, UInt32.toNat_or, UInt32.toNat_shiftLeft, UInt8.toNat_toUInt32]
  rw [e24, e16, e8, shiftLeft_mod_eq h3 (by omega), shiftLeft_mod_eq h2 (by omega),
    shiftLeft_mod_eq h1 (by omega)]
  -- the three ors, innermost first: each right operand fits below the left one's low bit
  rw [or_eq_add_of_lt (x := b3.toNat * 2 ^ 24) (k := 24) (by omega) (by omega),
    or_eq_add_of_lt (x := b3.toNat * 2 ^ 24 + _) (k := 16) (by omega) (by omega),
    or_eq_add_of_lt (k := 8) (by omega) (by omega)]

/-! ## Reading a prefix -/

theorem byteAt_of_prefix_lt {q l : List UInt8} (h : q <+: l) {i : Nat} (hi : i < q.length) :
    byteAt q i = byteAt l i := by
  obtain ⟨t, rfl⟩ := h
  exact (byteAt_append_left hi).symm

theorem rdBe16_of_prefix_lt {q l : List UInt8} (h : q <+: l) {i : Nat} (hi : i + 1 < q.length) :
    rdBe16 q i = rdBe16 l i := by
  simp only [rdBe16, byteAt_of_prefix_lt h (Nat.lt_of_succ_lt hi), byteAt_of_prefix_lt h hi]

theorem rdLe16_of_prefix_lt {q l : List UInt8} (h : q <+: l) {i : Nat} (hi : i + 1 < q.length) :
    rdLe16 q i = rdLe16 l i := by
  simp only [rdLe16, byteAt_of_prefix_lt h (Nat.lt_of_succ_lt hi), byteAt_of_prefix_lt h hi]

theorem rdLe32_of_prefix_lt {q l : List UInt8} (h : q <+: l) {i : Nat} (hi : i + 3 < q.length) :
    rdLe32 q i = rdLe32 l i := by
  simp only [rdLe32, byteAt_of_prefix_lt h (by omega : i < q.length),
    byteAt_of_prefix_lt h (by omega : i + 1 < q.length),
    byteAt_of_prefix_lt h (by omega : i + 2 < q.length), byteAt_of_prefix_lt h hi]

theorem take_of_prefix_le {q l : List UInt8} (h : q <+: l) {n : Nat} (hn : n ≤ q.length) :
    q.take n = l.take n := by
  obtain ⟨t, rfl⟩ := h
  exact (List.take_append_of_le_length hn).symm

theorem take_drop_of_prefix_le {q l : List UInt8} (h : q <+: l) {i n : Nat} (hn : i + n ≤ q.length) :
    (q.drop i).take n = (l.drop i).take n := by
  rw [List.take_drop, take_of_prefix_le h hn, ← List.take_drop]

/-! ## Round trips -/

theorem rdLe32_le32 (pre post : List UInt8) (x : UInt32) :
    rdLe32 (pre ++ le32 x ++ post) pre.length = x := by
  have e0 : byteAt (pre ++ le32 x ++ post) pre.length = x.toUInt8 :=
    byteAt_append_field pre (le32 x) post (i := 0) (by simp)
  have e1 : byteAt (pre ++ le32 x ++ post) (pre.length + 1) = (x >>> 8).toUInt8 :=
    byteAt_append_field pre (le32 x) post (i := 1) (by simp)
  have e2 : byteAt (pre ++ le32 x ++ post) (pre.length + 2) = (x >>> 16).toUInt8 :=
    byteAt_append_field pre (le32 x) post (i := 2) (by simp)
  have e3 : byteAt (pre ++ le32 x ++ post) (pre.length + 3) = (x >>> 24).toUInt8 :=
    byteAt_append_field pre (le32 x) post (i := 3) (by simp)
  apply UInt32.toNat.inj
  have hx := x.toNat_lt
  simp only [rdLe32, e0, e1, e2, e3, ofLe32_toNat]
  simp [Nat.shiftRight_eq_div_pow]
  omega

/-- A four-byte field placed after `pre` reads as it reads on its own. -/
theorem rdLe32_append_field (pre f post : List UInt8) (hf : f.length = 4) :
    rdLe32 (pre ++ f ++ post) pre.length = rdLe32 f 0 := by
  have e : ∀ i, i < 4 → byteAt (pre ++ f ++ post) (pre.length + i) = byteAt f i :=
    fun i hi => byteAt_append_field pre f post (by omega)
  have e0 := e 0 (by omega)
  rw [Nat.add_zero] at e0
  simp only [rdLe32, Nat.zero_add]
  rw [e0, e 1 (by omega), e 2 (by omega), e 3 (by omega)]

/-- A 16-bit field keeps the low 16 bits of what is written into it. -/
theorem rdLe16_le16_mod (pre post : List UInt8) (x : Nat) :
    rdLe16 (pre ++ le16 x ++ post) pre.length = x % 2 ^ 16 := by
  have e0 : byteAt (pre ++ le16 x ++ post) pre.length = x.toUInt8 :=
    byteAt_append_field pre (le16 x) post (i := 0) (by simp)
  have e1 : byteAt (pre ++ le16 x ++ post) (pre.length + 1) = (x >>> 8).toUInt8 :=
    byteAt_append_field pre (le16 x) post (i := 1) (by simp)
  simp only [rdLe16, e0, e1]
  simp [Nat.shiftRight_eq_div_pow]
  omega

theorem rdLe16_le16 (pre post : List UInt8) {x : Nat} (hx : x < 2 ^ 16) :
    rdLe16 (pre ++ le16 x ++ post) pre.length = x := by
  rw [rdLe16_le16_mod, Nat.mod_eq_of_lt hx]

theorem rdBe16_be16 (pre post : List UInt8) {x : Nat} (hx : x < 2 ^ 16) :
    rdBe16 (pre ++ be16 x ++ post) pre.length = x := by
  have e0 : byteAt (pre ++ be16 x ++ post) pre.length = (x >>> 8).toUInt8 :=
    byteAt_append_field pre (be16 x) post (i := 0) (by simp)
  have e1 : byteAt (pre ++ be16 x ++ post) (pre.length + 1) = x.toUInt8 :=
    byteAt_append_field pre (be16 x) post (i := 1) (by simp)
  simp only [rdBe16, e0, e1]
  simp [Nat.shiftRight_eq_div_pow]
  omega

/-- A 16-bit field read from a buffer fits a `uint16_t`. -/
theorem toNat_toUInt16_rdBe16 (data : List UInt8) (i : Nat) :
    (rdBe16 data i).toUInt16.toNat = rdBe16 data i := by
  have h₁ := (byteAt data i).toNat_lt
  have h₂ := (byteAt data (i + 1)).toNat_lt
  rw [Nat.toUInt16_eq, UInt16.toNat_ofNat_of_lt' (by unfold rdBe16; simp [UInt16.size]; omega)]

/-- A `uint16_t` written high byte first reads back. -/
theorem toUInt16_rdBe16_be16 (pre post : List UInt8) (p : UInt16) :
    (rdBe16 (pre ++ be16 p.toNat ++ post) pre.length).toUInt16 = p := by
  rw [rdBe16_be16 pre post p.toNat_lt]
  exact UInt16.ofNat_toNat

/-- A field read from a buffer, written back, gives the two bytes it was read from. -/
theorem be16_rdBe16 {data : List UInt8} {i : Nat} (hi : i + 1 < data.length) :
    be16 (rdBe16 data i) = (data.drop i).take 2 := by
  have h₁ := (byteAt data i).toNat_lt
  have h₂ := (byteAt data (i + 1)).toNat_lt
  have e₁ : rdBe16 data i >>> 8 = (byteAt data i).toNat := by
    rw [rdBe16, Nat.shiftRight_eq_div_pow]; omega
  have e₂ : (rdBe16 data i).toUInt8 = byteAt data (i + 1) := by
    apply UInt8.toNat_inj.mp
    rw [Nat.toUInt8_eq, UInt8.toNat_ofNat', rdBe16]
    omega
  have hd : (data.drop i).take 2 = [byteAt data i, byteAt data (i + 1)] := by
    rw [List.drop_eq_getElem_cons (show i < data.length by omega), List.drop_eq_getElem_cons hi]
    simp only [List.take_succ_cons, List.take_zero, byteAt_eq_getElem hi,
      byteAt_eq_getElem (show i < data.length by omega)]
  rw [be16, e₁, e₂, hd, Nat.toUInt8_eq, UInt8.ofNat_toNat]

/-! ## Comparing prefixes -/

/-- `memcmp(p1, p2, n)`: the difference of the first differing pair among the first `n`
bytes, 0 when they agree. C fixes only the sign of the result. -/
def memcmp : List UInt8 → List UInt8 → Nat → Int
  | a :: l1, b :: l2, n + 1 => if a = b then memcmp l1 l2 n else (a.toNat : Int) - b.toNat
  | _, _, _ => 0

theorem memcmp_swap : ∀ (l1 l2 : List UInt8) (n : Nat), memcmp l2 l1 n = -memcmp l1 l2 n
  | a :: l1, b :: l2, n + 1 => by
    by_cases h : a = b
    · subst h
      simp only [memcmp, if_true]
      exact memcmp_swap l1 l2 n
    · rw [memcmp, memcmp, if_neg h, if_neg (Ne.symm h)]
      omega
  | [], _, _ => by cases ‹List UInt8› <;> rfl
  | _ :: _, [], _ => rfl
  | _ :: _, _ :: _, 0 => rfl

theorem memcmp_eq_zero_iff : ∀ {l1 l2 : List UInt8} {n : Nat}, n ≤ l1.length → n ≤ l2.length →
    (memcmp l1 l2 n = 0 ↔ l1.take n = l2.take n)
  | a :: l1, b :: l2, n + 1, h1, h2 => by
    have ih := @memcmp_eq_zero_iff l1 l2 n (by simp at h1; omega) (by simp at h2; omega)
    by_cases h : a = b
    · subst h
      simp only [memcmp, if_true, List.take_succ_cons, List.cons.injEq, true_and]
      exact ih
    · have hne : (a.toNat : Int) - b.toNat ≠ 0 := by
        have : a.toNat ≠ b.toNat := fun hab => h (UInt8.toNat_inj.mp hab)
        omega
      simp only [memcmp, List.take_succ_cons, List.cons.injEq, h, false_and, iff_false]
      exact hne
  | [], _, n, h1, _ => by
    obtain rfl : n = 0 := by simpa using h1
    simp [memcmp]
  | _ :: _, [], n, _, h2 => by
    obtain rfl : n = 0 := by simpa using h2
    simp [memcmp]
  | _ :: _, _ :: _, 0, _, _ => by simp [memcmp]

end Bytes
