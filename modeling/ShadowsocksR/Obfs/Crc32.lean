/-
  ShadowsocksR.Obfs.Crc32 — the checksums of the `auth_*` frames (`crc32.c`).

  `crc32_imp` is the reflected CRC-32 (polynomial `0xedb88320`) from a table of 256
  words that `init_crc32_table` fills once; here a table entry is the function that
  computes it. `adler32` sums in runs of at most `NMAX = 5552` bytes, reducing modulo
  65521 after each run, so that the 32-bit sums never wrap. `filladler32` writes the
  checksum of all but the last four bytes of a buffer into them, little-endian, and
  `checkadler32` compares.

  A frame's receiver recomputes each checksum over the bytes the sender computed it
  over, so the round trips need no property of the checksums beyond their being
  functions: `checkadler32_filled` is the one fact the frame proofs use.

  Proved:
  (1) The seal residue (`crc32_seal`): `fillcrc32` writes the CRC register before its
      final inversion after the bytes, and `crc32_imp` over the bytes and those four
      returns `0xFFFFFFFF`, for every byte string. Each of the four bytes cancels the
      register's low octet, and the table's entry 0 is 0 (`foldl_crc32Update_le32`).
  (2) Adler-32 (`adler32_matches_sums`): `adler32` returns `B * 65536 + A` for the sums
      `A` and `B` of its definition, for every length. The machine sums of a run of at
      most `NMAX` bytes from reduced values are the exact sums (`foldl_adlerStep_exact`),
      reducing between runs keeps the sums modulo 65521 (`foldl_adlerSums_mod`), and the
      loop is one run after another (`adler32Loop_toNat`).
  The tests after the definitions are the standard check values.
-/

import ShadowsocksR.Lib.Bytes
import ShadowsocksR.Lib.CString
import ShadowsocksR.Buffer

namespace ShadowsocksR

open Bytes

/-! ## CRC-32 -/

/-- `crc32_table[i]`: eight shifts of `i`, with the polynomial folded in at every set
low bit. -/
def crc32TableEntry (i : UInt32) : UInt32 :=
  (List.range 8).foldl
    (fun (c : UInt32) _ =>
      if c &&& 1 ≠ 0 then (0xedb88320 : UInt32) ^^^ (c >>> 1) else c >>> 1) i

/-- `crc32_imp(buffer, size)`. -/
def crc32Imp (buffer : List UInt8) : UInt32 :=
  buffer.foldl (fun crc b => crc32TableEntry ((crc ^^^ b.toUInt32) &&& 0xFF) ^^^ (crc >>> 8))
    0xFFFFFFFF ^^^ 0xFFFFFFFF

/-- `fillcrc32to(buffer, size, outbuffer)`: the CRC of the buffer, little-endian. -/
def fillcrc32to (buffer : List UInt8) : List UInt8 := le32 (crc32Imp buffer)

/-- One byte of the loop of `crc32_imp`, `fillcrc32to` and `fillcrc32`. -/
def crc32Update (crc : UInt32) (b : UInt8) : UInt32 :=
  crc32TableEntry ((crc ^^^ b.toUInt32) &&& 0xFF) ^^^ (crc >>> 8)

theorem crc32Imp_eq_foldl (buffer : List UInt8) :
    crc32Imp buffer = buffer.foldl crc32Update 0xFFFFFFFF ^^^ 0xFFFFFFFF := rfl

/-- `fillcrc32(buffer, size)`: the register over the first `size - 4` bytes, without the
final inversion, written little-endian into the four after them. Its callers pass
`size ≥ 4`. -/
def fillcrc32 (buffer : List UInt8) (size : Nat) : List UInt8 :=
  let size := size - 4
  writeAt buffer size (le32 ((buffer.take size).foldl crc32Update 0xFFFFFFFF))

example : crc32Imp (CString.ascii "123456789") = 0xcbf43926 := by decide +kernel

/-! ## The seal residue -/

theorem crc32TableEntry_zero : crc32TableEntry 0 = 0 := by decide

theorem toUInt32_toUInt8_eq_and (c : UInt32) : c.toUInt8.toUInt32 = c &&& 0xFF := by
  apply UInt32.toNat_inj.mp
  rw [UInt32.toNat_and, UInt32.toUInt32_toUInt8, UInt32.toNat_mod]
  exact (Nat.and_two_pow_sub_one_eq_mod _ 8).symm

/-- The register's own low octet selects entry 0, so the step only shifts. -/
theorem crc32Update_low_byte (c : UInt32) : crc32Update c c.toUInt8 = c >>> 8 := by
  have hcancel : (c ^^^ c.toUInt8.toUInt32) &&& 0xFF = 0 := by
    rw [toUInt32_toUInt8_eq_and]
    apply UInt32.toBitVec_inj.mp
    ext i hi
    simp only [UInt32.toBitVec_and, UInt32.toBitVec_xor, BitVec.getElem_and, BitVec.getElem_xor]
    cases (0xFF : UInt32).toBitVec[i] <;> simp
  rw [crc32Update, hcancel, crc32TableEntry_zero, UInt32.zero_xor]

theorem shiftRight_shiftRight_eight (c n : UInt32) (hn : n.toNat < 24) :
    (c >>> n) >>> 8 = c >>> (n + 8) := by
  apply UInt32.toNat_inj.mp
  have h8 : (n + 8).toNat = n.toNat + 8 := by rw [UInt32.toNat_add]; simp; omega
  simp only [UInt32.toNat_shiftRight, h8, ← Nat.shiftRight_add]
  congr 1
  simp; omega

/-- The register's four bytes, low first, bring it to 0. -/
theorem foldl_crc32Update_le32 (r : UInt32) : (le32 r).foldl crc32Update r = 0 := by
  have h16 : (r >>> 8) >>> 8 = r >>> 16 := shiftRight_shiftRight_eight r 8 (by decide)
  have h24 : (r >>> 16) >>> 8 = r >>> 24 := shiftRight_shiftRight_eight r 16 (by decide)
  have h32 : (r >>> 24) >>> 8 = 0 := by
    apply UInt32.toNat_inj.mp
    have := r.toNat_lt
    simp only [UInt32.toNat_shiftRight, Nat.shiftRight_eq_div_pow]
    simp; omega
  simp only [le32, List.foldl_cons, List.foldl_nil, crc32Update_low_byte, h16, h24, h32]

theorem fillcrc32_append (m : List UInt8) (t : Vector UInt8 4) :
    fillcrc32 (m ++ t.toList) (m.length + 4) = m ++ le32 (m.foldl crc32Update 0xFFFFFFFF) := by
  have ht : t.toList.length = 4 := by simp
  simp only [fillcrc32, writeAt, Nat.add_sub_cancel, List.take_left, le32_length]
  rw [List.drop_eq_nil_of_le (by simp [ht]), List.append_nil]

theorem crc32_seal (m : List UInt8) (t : Vector UInt8 4) :
    crc32Imp (fillcrc32 (m ++ t.toList) (m.length + 4)) = 0xFFFFFFFF ∧
      fillcrc32to m = le32 (crc32Imp m) := by
  refine ⟨?_, rfl⟩
  rw [fillcrc32_append, crc32Imp_eq_foldl, List.foldl_append, foldl_crc32Update_le32]
  rfl

/-! ## Adler-32 -/

/-- `adler32_short`: one run of sums, then both reduced. -/
def adler32Short (ab : UInt32 × UInt32) (buffer : List UInt8) : UInt32 × UInt32 :=
  let (a, b) := buffer.foldl (fun (a, b) x => (a + x.toUInt32, b + (a + x.toUInt32))) ab
  (a % 65521, b % 65521)

/-- One byte of the loop of `adler32_short`. -/
def adlerStep : UInt32 × UInt32 → UInt8 → UInt32 × UInt32
  | (a, b), x => (a + x.toUInt32, b + (a + x.toUInt32))

theorem adler32Short_eq (ab : UInt32 × UInt32) (buffer : List UInt8) :
    adler32Short ab buffer =
      ((buffer.foldl adlerStep ab).1 % 65521, (buffer.foldl adlerStep ab).2 % 65521) := rfl

/-- `NMAX`: the longest run whose sums cannot wrap. -/
def adlerNmax : Nat := 5552

/-- The loop of `adler32`: runs of `NMAX` while that many remain, then the rest. Every
round takes `NMAX` bytes, so the buffer's length is enough fuel. -/
def adler32Loop : Nat → UInt32 × UInt32 → List UInt8 → UInt32 × UInt32
  | 0, ab, buffer => adler32Short ab buffer
  | fuel + 1, ab, buffer =>
    if buffer.length ≥ adlerNmax then
      adler32Loop fuel (adler32Short ab (buffer.take adlerNmax)) (buffer.drop adlerNmax)
    else adler32Short ab buffer

/-- `adler32(buffer, size)`. -/
def adler32 (buffer : List UInt8) : UInt32 :=
  let (a, b) := adler32Loop buffer.length (1, 0) buffer
  (b <<< 16) + a

example : adler32 (CString.ascii "Wikipedia") = 0x11e60398 := by decide +kernel

/-- `filladler32(buffer, size)` on a buffer whose first `size - 4` bytes are `body`: the
four bytes it writes after them. -/
def filladler32 (body : List UInt8) : List UInt8 := le32 (adler32 body)

/-- `checkadler32(buffer, size)`: the checksum of the first `size - 4` bytes against the
four after them. Its callers only call it with `size ≥ 7`. -/
def checkadler32 (buffer : List UInt8) (size : Nat) : Bool :=
  adler32 (buffer.take (size - 4)) == rdLe32 buffer (size - 4)

/-- A frame closed by `filladler32` passes `checkadler32` over its own length, whatever
follows it. -/
theorem checkadler32_filled (body rest : List UInt8) :
    checkadler32 (body ++ filladler32 body ++ rest) (body.length + 4) = true := by
  have hlen : body.length + 4 - 4 = body.length := by omega
  rw [checkadler32, hlen, List.append_assoc, List.take_left, ← List.append_assoc, filladler32,
    rdLe32_le32]
  exact beq_self_eq_true _

/-! ## Adler-32 as defined

The two sums of the definition over `Nat`, with no wrap and no reduction: `A` is one plus
the sum of the bytes, `B` the sum of the values `A` takes after each byte. -/

/-- One byte of the two running sums. -/
def adlerSums : Nat × Nat → Nat → Nat × Nat
  | (a, b), x => (a + x, b + (a + x))

/-- `A`, modulo 65521. -/
def adlerA (s : List UInt8) : Nat := (1 + (s.map UInt8.toNat).sum) % 65521

/-- `B`: the sum, over the non-empty prefixes, of one plus the prefix's sum, modulo
65521. -/
def adlerB (s : List UInt8) : Nat :=
  ((List.range s.length).map fun k => 1 + ((s.take (k + 1)).map UInt8.toNat).sum).sum % 65521

theorem foldl_adlerSums_fst (l : List Nat) (a b : Nat) :
    (l.foldl adlerSums (a, b)).1 = a + l.sum := by
  induction l generalizing a b with
  | nil => simp
  | cons x l ih => rw [List.foldl_cons, adlerSums, ih, List.sum_cons, Nat.add_assoc]

theorem foldl_adlerSums_snd (l : List Nat) (a b : Nat) :
    (l.foldl adlerSums (a, b)).2 =
      b + ((List.range l.length).map fun k => a + (l.take (k + 1)).sum).sum := by
  induction l generalizing a b with
  | nil => simp
  | cons x l ih =>
    rw [List.foldl_cons, adlerSums, ih, List.length_cons, List.range_succ_eq_map]
    simp [List.map_map, Function.comp_def, List.take_succ_cons, Nat.add_assoc]

/-- `B` is linear in where the sums start. -/
theorem foldl_adlerSums_snd_linear (l : List Nat) (a b : Nat) :
    (l.foldl adlerSums (a, b)).2 = b + l.length * a + (l.foldl adlerSums (0, 0)).2 := by
  induction l generalizing a b with
  | nil => simp
  | cons x l ih =>
    simp only [List.foldl_cons, adlerSums, List.length_cons, Nat.zero_add]
    rw [ih, ih x]
    have h₁ : l.length * (a + x) = l.length * a + l.length * x := Nat.mul_add _ _ _
    have h₂ : (l.length + 1) * a = l.length * a + a := Nat.succ_mul _ _
    omega

/-- Reducing where the sums start keeps them modulo 65521. -/
theorem foldl_adlerSums_mod (l : List Nat) (a b : Nat) :
    (l.foldl adlerSums (a % 65521, b % 65521)).1 % 65521 =
        (l.foldl adlerSums (a, b)).1 % 65521 ∧
      (l.foldl adlerSums (a % 65521, b % 65521)).2 % 65521 =
        (l.foldl adlerSums (a, b)).2 % 65521 := by
  rw [foldl_adlerSums_fst, foldl_adlerSums_fst, foldl_adlerSums_snd_linear,
    foldl_adlerSums_snd_linear l a b]
  exact ⟨Nat.mod_add_mod _ _ _,
    (((Nat.mod_modEq b 65521).add ((Nat.mod_modEq a 65521).mul_left _)).add_right _)⟩

/-- From 0, `B` is at most 255 times the triangle number of the length. -/
theorem two_mul_foldl_adlerSums_le (l : List Nat) (hl : ∀ x ∈ l, x ≤ 255) :
    2 * (l.foldl adlerSums (0, 0)).2 ≤ 255 * (l.length * (l.length + 1)) := by
  induction l with
  | nil => simp
  | cons x l ih =>
    have hx : x ≤ 255 := hl x List.mem_cons_self
    have ih := ih fun y hy => hl y (List.mem_cons_of_mem x hy)
    simp only [List.foldl_cons, adlerSums, List.length_cons]
    rw [Nat.zero_add, Nat.zero_add, foldl_adlerSums_snd_linear]
    have h₁ : l.length * x ≤ l.length * 255 := Nat.mul_le_mul_left _ hx
    have h₂ : (l.length + 1) * (l.length + 1 + 1) =
        l.length * (l.length + 1) + 2 * (l.length + 1) := by ring
    omega

/-! ## The machine sums -/

/-- The 32-bit sums are the exact sums modulo `2 ^ 32`. -/
theorem foldl_adlerStep (l : List UInt8) (a b : Nat) :
    l.foldl adlerStep (UInt32.ofNat a, UInt32.ofNat b) =
      (UInt32.ofNat ((l.map UInt8.toNat).foldl adlerSums (a, b)).1,
        UInt32.ofNat ((l.map UInt8.toNat).foldl adlerSums (a, b)).2) := by
  induction l generalizing a b with
  | nil => rfl
  | cons x l ih =>
    have hx : x.toUInt32 = UInt32.ofNat x.toNat := by
      apply UInt32.toNat_inj.mp
      rw [UInt8.toNat_toUInt32, UInt32.toNat_ofNat_of_lt' (Nat.lt_trans x.toNat_lt (by decide))]
    rw [List.foldl_cons, adlerStep, hx, ← UInt32.ofNat_add, ← UInt32.ofNat_add, ih]
    rfl

/-- **No wrap.** A run of at most `NMAX` bytes from reduced sums computes the exact sums. -/
theorem foldl_adlerStep_exact {a b : UInt32} (ha : a.toNat < 65521) (hb : b.toNat < 65521)
    {buffer : List UInt8} (hn : buffer.length ≤ adlerNmax) :
    let r := (buffer.map UInt8.toNat).foldl adlerSums (a.toNat, b.toNat)
    (buffer.foldl adlerStep (a, b)).1.toNat = r.1 ∧
      (buffer.foldl adlerStep (a, b)).2.toNat = r.2 := by
  intro r
  have hbytes : ∀ x ∈ buffer.map UInt8.toNat, x ≤ 255 := by
    simp only [List.mem_map]
    rintro _ ⟨x, -, rfl⟩
    have := x.toNat_lt
    omega
  have hlen : (buffer.map UInt8.toNat).length ≤ 5552 := by simpa [adlerNmax] using hn
  -- the exact sums of a run of at most NMAX bytes from reduced values fit in 32 bits
  have hfst : r.1 < 4294967296 := by
    have hsum := List.sum_le_card_nsmul _ 255 hbytes
    simp only [smul_eq_mul] at hsum
    simp only [r, foldl_adlerSums_fst]
    omega
  have hsnd : r.2 < 4294967296 := by
    have hW := two_mul_foldl_adlerSums_le _ hbytes
    have h₁ := Nat.mul_le_mul hlen (show a.toNat ≤ 65520 by omega)
    have h₂ := Nat.mul_le_mul hlen (show (buffer.map UInt8.toNat).length + 1 ≤ 5553 by omega)
    have hlin := foldl_adlerSums_snd_linear (buffer.map UInt8.toNat) a.toNat b.toNat
    simp only [r, hlin]
    omega
  have hfold := foldl_adlerStep buffer a.toNat b.toNat
  rw [UInt32.ofNat_toNat, UInt32.ofNat_toNat] at hfold
  rw [hfold]
  exact ⟨UInt32.toNat_ofNat_of_lt' hfst, UInt32.toNat_ofNat_of_lt' hsnd⟩

theorem adler32Short_toNat {a b : UInt32} (ha : a.toNat < 65521) (hb : b.toNat < 65521)
    {buffer : List UInt8} (hn : buffer.length ≤ adlerNmax) :
    let r := (buffer.map UInt8.toNat).foldl adlerSums (a.toNat, b.toNat)
    (adler32Short (a, b) buffer).1.toNat = r.1 % 65521 ∧
      (adler32Short (a, b) buffer).2.toNat = r.2 % 65521 := by
  obtain ⟨h₁, h₂⟩ := foldl_adlerStep_exact ha hb hn
  rw [adler32Short_eq, UInt32.toNat_mod, UInt32.toNat_mod, h₁, h₂]
  exact ⟨rfl, rfl⟩

/-- The loop of `adler32` from reduced sums: the exact sums of the whole buffer, reduced. -/
theorem adler32Loop_toNat : ∀ (fuel : Nat) (a b : UInt32) (buffer : List UInt8),
    a.toNat < 65521 → b.toNat < 65521 → buffer.length ≤ fuel * adlerNmax + adlerNmax →
    let r := (buffer.map UInt8.toNat).foldl adlerSums (a.toNat, b.toNat)
    (adler32Loop fuel (a, b) buffer).1.toNat = r.1 % 65521 ∧
      (adler32Loop fuel (a, b) buffer).2.toNat = r.2 % 65521 := by
  intro fuel
  induction fuel with
  | zero =>
    intro a b buffer ha hb hn
    exact adler32Short_toNat ha hb (by simpa using hn)
  | succ fuel ih =>
    intro a b buffer ha hb hn
    by_cases hge : buffer.length ≥ adlerNmax
    case neg =>
      rw [adler32Loop, if_neg hge]
      exact adler32Short_toNat ha hb (by omega)
    case pos =>
      rw [adler32Loop, if_pos hge]
      -- one run of NMAX bytes, then the loop on the rest from the reduced sums
      obtain ⟨h₁, h₂⟩ := adler32Short_toNat ha hb (List.length_take_le adlerNmax buffer)
      generalize adler32Short (a, b) (buffer.take adlerNmax) = ab at h₁ h₂
      obtain ⟨a', b'⟩ := ab
      have hrest : (buffer.drop adlerNmax).length ≤ fuel * adlerNmax + adlerNmax := by
        rw [List.length_drop]
        rw [Nat.succ_mul] at hn
        omega
      obtain ⟨h₁', h₂'⟩ := ih a' b' (buffer.drop adlerNmax)
        (by rw [h₁]; exact Nat.mod_lt _ (by decide))
        (by rw [h₂]; exact Nat.mod_lt _ (by decide)) hrest
      -- the rest starts from the first run's sums reduced, which is as good as unreduced
      generalize hr₀ : ((buffer.take adlerNmax).map UInt8.toNat).foldl adlerSums
        (a.toNat, b.toNat) = r₀ at h₁ h₂
      obtain ⟨m₁, m₂⟩ := foldl_adlerSums_mod ((buffer.drop adlerNmax).map UInt8.toNat) r₀.1 r₀.2
      rw [h₁, h₂] at h₁' h₂'
      have hwhole : ((buffer.drop adlerNmax).map UInt8.toNat).foldl adlerSums (r₀.1, r₀.2) =
          (buffer.map UInt8.toNat).foldl adlerSums (a.toNat, b.toNat) := by
        rw [Prod.mk.eta, ← hr₀, ← List.foldl_append, ← List.map_append, List.take_append_drop]
      rw [hwhole] at m₁ m₂
      exact ⟨h₁'.trans m₁, h₂'.trans m₂⟩

/-- `adler32` is the Adler-32 of its definition for every input, the sums of each run
computed exactly. -/
theorem adler32_matches_sums :
    (∀ s : List UInt8, (adler32 s).toNat = adlerB s * 65536 + adlerA s) ∧
      ∀ (a b : UInt32) (buffer : List UInt8), a.toNat < 65521 → b.toNat < 65521 →
        buffer.length ≤ adlerNmax →
        (buffer.foldl adlerStep (a, b)).1.toNat =
            ((buffer.map UInt8.toNat).foldl adlerSums (a.toNat, b.toNat)).1 ∧
          (buffer.foldl adlerStep (a, b)).2.toNat =
            ((buffer.map UInt8.toNat).foldl adlerSums (a.toNat, b.toNat)).2 := by
  refine ⟨fun s => ?_, fun a b buffer ha hb hn => foldl_adlerStep_exact ha hb hn⟩
  obtain ⟨h₁, h₂⟩ := adler32Loop_toNat s.length 1 0 s (by decide) (by decide)
    (by unfold adlerNmax; omega)
  have hA : ((s.map UInt8.toNat).foldl adlerSums (1, 0)).1 % 65521 = adlerA s := by
    rw [foldl_adlerSums_fst]; rfl
  have hB : ((s.map UInt8.toNat).foldl adlerSums (1, 0)).2 % 65521 = adlerB s := by
    rw [foldl_adlerSums_snd, Nat.zero_add, List.length_map]
    simp only [adlerB, List.map_take]
  have hA' : adlerA s < 65521 := Nat.mod_lt _ (by decide)
  have hB' : adlerB s < 65521 := Nat.mod_lt _ (by decide)
  unfold adler32
  generalize adler32Loop s.length (1, 0) s = ab at h₁ h₂
  obtain ⟨a, b⟩ := ab
  simp only [UInt32.toNat_one, UInt32.toNat_zero, hA, hB] at h₁ h₂
  have h16 : (16 : UInt32).toNat % 32 = 16 := rfl
  rw [UInt32.toNat_add, UInt32.toNat_shiftLeft, h₁, h₂, h16, Nat.shiftLeft_eq]
  omega

example : adlerB (CString.ascii "Wikipedia") * 65536 + adlerA (CString.ascii "Wikipedia") =
    0x11e60398 := by decide

end ShadowsocksR
