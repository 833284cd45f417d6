/-
  ShadowsocksR.Executive.Header — `pre_parse_header` (`ssr_executive.c`), which the server's
  `do_prepare_parse` runs on the first decrypted bytes of a tunnel to strip the reference
  implementation's optional headers before the SOCKS5 address: `0x80` (one length byte of
  random data), `0x81` (the type byte alone), `0x82` (a big-endian 16-bit length of random
  data) and `0x88` (a CRC-32 sealed block of `data_size` bytes whose fourth byte gives the
  offset of the kept data). It works in place: `memmove` inside `data->buffer` and a new
  `data->len`.

  A `memmove` reads its source bytes as they were before it writes (`memmoveWithin`), and
  is undefined when either range runs past the allocation (`none`). `crc32_imp` reads its
  `data_size` bytes of the allocation whatever `len` is. The result keeps the flag and
  the allocation and `len` it leaves (`PreParsed`).

  Proved: each header type is stripped as the reference does it, and a header too short
  for its own length, or a `0x88` block with a bad CRC, leaves the buffer as it was and
  returns false (`pre_parse_header_strips_each_reference_header`). Three inputs go
  wrong (`pre_parse_header_passes_0x77_and_runs_past_the_allocation`): the complement
  test `~datatype == 0x88` is on the promoted `int`, so the `0x77` form is never stripped
  (`complement_ne_0x88`); a `data_size` past the allocation makes `crc32_imp` read past
  it; and a CRC-valid block whose offset `3 + d[3]` leaves fewer than four bytes of it
  wraps `data->len = data_size - (4 + start_pos)` and moves that many bytes.
-/

import ShadowsocksR.Buffer
import ShadowsocksR.Obfs.Crc32

namespace ShadowsocksR

open Bytes

/-- `memmove(mem + dst, mem + src, n)` inside one allocation: the `n` bytes at `src`, as
they were before the copy, land at `dst`; `none` when either range runs past the
allocation. -/
def memmoveWithin (mem : List UInt8) (dst src n : Nat) : Option (List UInt8) :=
  if src + n ≤ mem.length ∧ dst + n ≤ mem.length then
    some (writeAt mem dst ((mem.drop src).take n))
  else none

/-- What `pre_parse_header` leaves: its result, and the allocation and `len` of `data`. -/
structure PreParsed where
  ok : Bool
  mem : List UInt8
  len : Nat

/-- The contents `pre_parse_header` leaves, `buffer[0 .. len)`. -/
def PreParsed.data (r : PreParsed) : List UInt8 := r.mem.take r.len

/-- `pre_parse_header(data)`. -/
def preParseHeader (d : Buffer) : Option PreParsed :=
  let unchanged (ok : Bool) : PreParsed := ⟨ok, d.mem, d.len⟩
  if d.len = 0 then some (unchanged false) else
  let datatype := byteAt d.mem 0
  if datatype = 0x80 then
    if d.len ≤ 2 then some (unchanged false) else
    let hdrLen := (byteAt d.mem 1).toNat + 2
    if d.len ≤ hdrLen then some (unchanged false) else
    (memmoveWithin d.mem 0 hdrLen (d.len - hdrLen)).map fun mem => ⟨true, mem, d.len - hdrLen⟩
  else if datatype = 0x81 then
    (memmoveWithin d.mem 0 1 (d.len - 1)).map fun mem => ⟨true, mem, d.len - 1⟩
  else if datatype = 0x82 then
    if d.len ≤ 3 then some (unchanged false) else
    let hdrLen := rdBe16 d.mem 1 + 3
    if d.len ≤ hdrLen then some (unchanged false) else
    (memmoveWithin d.mem 0 hdrLen (d.len - hdrLen)).map fun mem => ⟨true, mem, d.len - hdrLen⟩
  -- `~datatype` complements the byte after its promotion to `int`
  else if datatype = 0x88 ∨ ~~~(datatype.toNat : Int) = 0x88 then
    if d.len ≤ 7 + 7 then some (unchanged false) else
    let dataSize := rdBe16 d.mem 1
    if d.capacity + 1 < dataSize then none else
    if crc32Imp (d.read 0 dataSize) ≠ 0xffffffff then some (unchanged false) else
    let startPos := 3 + (byteAt d.mem 3).toNat
    let len := sizeSub dataSize (4 + startPos)
    match memmoveWithin d.mem 0 startPos len with
    | none => none
    | some mem =>
      if dataSize < d.len then
        let len2 := d.len - dataSize
        (memmoveWithin mem len dataSize len2).map fun mem => ⟨true, mem, len + len2⟩
      else some ⟨true, mem, len⟩
  else some (unchanged true)

/-! ## The moves -/

theorem memmoveWithin_of_le {mem : List UInt8} {dst src n : Nat} (hs : src + n ≤ mem.length)
    (hd : dst + n ≤ mem.length) :
    memmoveWithin mem dst src n = some (writeAt mem dst ((mem.drop src).take n)) := by
  simp [memmoveWithin, hs, hd]

theorem memmoveWithin_of_lt {mem : List UInt8} {dst src n : Nat} (h : mem.length < src + n) :
    memmoveWithin mem dst src n = none := by
  have : ¬ (src + n ≤ mem.length ∧ dst + n ≤ mem.length) := fun hc => by omega
  simp only [memmoveWithin, this, if_false]

/-- Moving the contents past the first `off` bytes down to the front leaves the contents
without those bytes. -/
theorem take_moveDown (mem : List UInt8) {off len : Nat} (hl : len ≤ mem.length) :
    (writeAt mem 0 ((mem.drop off).take (len - off))).take (len - off) = (mem.take len).drop off := by
  have hn : ((mem.drop off).take (len - off)).length = len - off := by simp; omega
  have hw := take_writeAt mem ((mem.drop off).take (len - off)) (Nat.zero_le _)
  rw [hn, Nat.zero_add, List.take_zero, List.nil_append] at hw
  rw [hw, List.drop_take]

/-- The moves of the one-length headers: what follows the header, at the front. -/
theorem moveDown_data (d : Buffer) {hdr : Nat} (h : hdr ≤ d.len) :
    ∃ mem, memmoveWithin d.mem 0 hdr (d.len - hdr) = some mem ∧
      mem.take (d.len - hdr) = d.data.drop hdr := by
  have := d.len_le
  have hml := d.mem_length
  refine ⟨_, memmoveWithin_of_le (by omega) (by omega), ?_⟩
  rw [take_moveDown d.mem (by omega), Buffer.data]

/-- The bytes of a move to the front, as they now stand at the front. -/
theorem take_writeAt_zero (mem data : List UInt8) :
    (writeAt mem 0 data).take data.length = data := by
  simpa using take_writeAt mem data (Nat.zero_le _)

/-- A slice inside the contents is a slice of the allocation. -/
theorem data_drop_take (d : Buffer) {off n : Nat} (h : off + n ≤ d.len) :
    (d.data.drop off).take n = (d.mem.drop off).take n := by
  rw [Buffer.data, List.drop_take, List.take_take, Nat.min_eq_left (by omega)]

/-- The contents from `off` on are the allocation's up to `len`. -/
theorem data_drop (d : Buffer) (off : Nat) : d.data.drop off = (d.mem.drop off).take (d.len - off) := by
  rw [Buffer.data, List.drop_take]

theorem rdBe16_lt (l : List UInt8) (i : Nat) : rdBe16 l i < 2 ^ 16 := by
  have h0 := (byteAt l i).toNat_lt
  have h1 := (byteAt l (i + 1)).toNat_lt
  simp only [rdBe16]
  omega

/-! ## The `int` complement -/

/-- The complement of a promoted byte is negative, never `0x88`. -/
theorem complement_ne_0x88 (b : UInt8) : ~~~(b.toNat : Int) ≠ 0x88 := by
  show Int.negSucc b.toNat ≠ 0x88
  exact Int.noConfusion

/-! ## Each header type -/

section Branches

variable {d : Buffer}

/-- `0x80`: `data->len <= 2` is one of the cases of a length byte that covers the buffer. -/
theorem preParseHeader_0x80 (hpos : 0 < d.len) (h0 : byteAt d.mem 0 = 0x80) :
    preParseHeader d =
      if d.len ≤ (byteAt d.mem 1).toNat + 2 then some ⟨false, d.mem, d.len⟩
      else (memmoveWithin d.mem 0 ((byteAt d.mem 1).toNat + 2) (d.len - ((byteAt d.mem 1).toNat + 2))).map
        fun mem => ⟨true, mem, d.len - ((byteAt d.mem 1).toNat + 2)⟩ := by
  simp only [preParseHeader, Nat.pos_iff_ne_zero.mp hpos, h0, if_false, if_true]
  split
  · rw [if_pos (by omega)]
  · rfl

theorem preParseHeader_0x81 (hpos : 0 < d.len) (h0 : byteAt d.mem 0 = 0x81) :
    preParseHeader d = (memmoveWithin d.mem 0 1 (d.len - 1)).map fun mem => ⟨true, mem, d.len - 1⟩ := by
  simp [preParseHeader, Nat.pos_iff_ne_zero.mp hpos, h0]

/-- `0x82`: as `0x80`, with a 16-bit length. -/
theorem preParseHeader_0x82 (hpos : 0 < d.len) (h0 : byteAt d.mem 0 = 0x82) :
    preParseHeader d =
      if d.len ≤ rdBe16 d.mem 1 + 3 then some ⟨false, d.mem, d.len⟩
      else (memmoveWithin d.mem 0 (rdBe16 d.mem 1 + 3) (d.len - (rdBe16 d.mem 1 + 3))).map
        fun mem => ⟨true, mem, d.len - (rdBe16 d.mem 1 + 3)⟩ := by
  simp +decide only [preParseHeader, Nat.pos_iff_ne_zero.mp hpos, h0, if_false, if_true]
  split
  · rw [if_pos (by omega)]
  · rfl

/-- Every other type byte, the complement form `0x77` among them, passes the buffer on. -/
theorem preParseHeader_other (hpos : 0 < d.len) (h0 : byteAt d.mem 0 ∉ [0x80, 0x81, 0x82, 0x88]) :
    preParseHeader d = some ⟨true, d.mem, d.len⟩ := by
  simp only [List.mem_cons, List.not_mem_nil, or_false, not_or] at h0
  obtain ⟨h80, h81, h82, h88⟩ := h0
  simp only [preParseHeader, Nat.pos_iff_ne_zero.mp hpos, h80, h81, h82, h88, complement_ne_0x88,
    or_self, if_false]

/-- A header whose length covers the buffer is refused and the buffer left as it was;
otherwise the bytes after it are moved to the front. -/
theorem preParseHeader_strip {hdr : Nat} (hpre : preParseHeader d =
      if d.len ≤ hdr then some ⟨false, d.mem, d.len⟩
      else (memmoveWithin d.mem 0 hdr (d.len - hdr)).map fun mem => ⟨true, mem, d.len - hdr⟩) :
    (d.len ≤ hdr → preParseHeader d = some ⟨false, d.mem, d.len⟩) ∧
      (hdr < d.len → ∃ r, preParseHeader d = some r ∧ r.ok = true ∧ r.data = d.data.drop hdr) := by
  refine ⟨fun h => by rw [hpre, if_pos h], fun h => ?_⟩
  obtain ⟨mem, hm, hdata⟩ := moveDown_data d (Nat.le_of_lt h)
  rw [hpre, if_neg (by omega), hm]
  exact ⟨_, rfl, rfl, hdata⟩

end Branches

/-! ## The sealed block -/

section Sealed

variable {d : Buffer} (hpos : 0 < d.len) (h0 : byteAt d.mem 0 = 0x88)
include hpos h0

theorem preParseHeader_0x88_short (hshort : d.len ≤ 7 + 7) :
    preParseHeader d = some ⟨false, d.mem, d.len⟩ := by
  simp +decide only [preParseHeader, Nat.pos_iff_ne_zero.mp hpos, h0, if_false, true_or, if_true,
    hshort]

/-- A `data_size` past the allocation: `crc32_imp` reads past it. -/
theorem preParseHeader_0x88_past (hlen : 14 < d.len) (hds : d.capacity + 1 < rdBe16 d.mem 1) :
    preParseHeader d = none := by
  have hshort : ¬ d.len ≤ 7 + 7 := by omega
  simp +decide only [preParseHeader, Nat.pos_iff_ne_zero.mp hpos, h0, if_false, true_or, if_true,
    hshort, hds]

theorem preParseHeader_0x88_bad_crc (hlen : 14 < d.len) (hds : rdBe16 d.mem 1 ≤ d.capacity + 1)
    (hcrc : crc32Imp (d.read 0 (rdBe16 d.mem 1)) ≠ 0xffffffff) :
    preParseHeader d = some ⟨false, d.mem, d.len⟩ := by
  have hshort : ¬ d.len ≤ 7 + 7 := by omega
  have hpast : ¬ d.capacity + 1 < rdBe16 d.mem 1 := by omega
  simp +decide only [preParseHeader, Nat.pos_iff_ne_zero.mp hpos, h0, if_false, true_or, if_true,
    hshort, hpast, hcrc, ne_eq, not_false_eq_true]

/-- A CRC-valid block whose offset leaves fewer than four of its bytes: `data->len`
wraps, and the move of that many bytes runs past the allocation. -/
theorem preParseHeader_0x88_wrap (hlen : 14 < d.len) (hds : rdBe16 d.mem 1 ≤ d.capacity + 1)
    (hcrc : crc32Imp (d.read 0 (rdBe16 d.mem 1)) = 0xffffffff)
    (hwrap : rdBe16 d.mem 1 < 4 + (3 + (byteAt d.mem 3).toNat)) (hcap : d.capacity < 2 ^ 63) :
    preParseHeader d = none := by
  have hshort : ¬ d.len ≤ 7 + 7 := by omega
  have hpast : ¬ d.capacity + 1 < rdBe16 d.mem 1 := by omega
  have hsp : 4 + (3 + (byteAt d.mem 3).toNat) < 2 ^ 64 := by
    have := (byteAt d.mem 3).toNat_lt
    omega
  have hsub := sizeSub_of_lt hwrap hsp
  have hml := d.mem_length
  have hmove : memmoveWithin d.mem 0 (3 + (byteAt d.mem 3).toNat)
      (sizeSub (rdBe16 d.mem 1) (4 + (3 + (byteAt d.mem 3).toNat))) = none :=
    memmoveWithin_of_lt (by rw [hsub, hml]; omega)
  simp +decide only [preParseHeader, Nat.pos_iff_ne_zero.mp hpos, h0, if_false, true_or, if_true,
    hshort, hpast, hcrc, ne_eq, hmove]

theorem preParseHeader_0x88_strip (hlen : 14 < d.len) (hds : rdBe16 d.mem 1 ≤ d.len)
    (hcrc : crc32Imp (d.data.take (rdBe16 d.mem 1)) = 0xffffffff)
    (hsp : 4 + (3 + (byteAt d.mem 3).toNat) ≤ rdBe16 d.mem 1) :
    ∃ r, preParseHeader d = some r ∧ r.ok = true ∧
      r.data = (d.data.drop (3 + (byteAt d.mem 3).toNat)).take
          (rdBe16 d.mem 1 - (4 + (3 + (byteAt d.mem 3).toNat))) ++ d.data.drop (rdBe16 d.mem 1) := by
  have := d.len_le
  have hml := d.mem_length
  have hshort : ¬ d.len ≤ 7 + 7 := by omega
  have hpast : ¬ d.capacity + 1 < rdBe16 d.mem 1 := by omega
  have hread : d.read 0 (rdBe16 d.mem 1) = d.data.take (rdBe16 d.mem 1) := by
    rw [Buffer.read_of_le_len (by omega), List.drop_zero]
  have hsub : sizeSub (rdBe16 d.mem 1) (4 + (3 + (byteAt d.mem 3).toNat)) =
      rdBe16 d.mem 1 - (4 + (3 + (byteAt d.mem 3).toNat)) :=
    sizeSub_of_le hsp (by have := rdBe16_lt d.mem 1; omega)
  simp +decide only [preParseHeader, Nat.pos_iff_ne_zero.mp hpos, h0, if_false, true_or, if_true,
    hshort, hpast, hread, hcrc, ne_eq, hsub]
  generalize rdBe16 d.mem 1 = ds at *
  generalize 3 + (byteAt d.mem 3).toNat = sp at *
  rw [memmoveWithin_of_le (by omega) (by omega)]
  dsimp only
  -- the block's kept bytes, now at the front, and the allocation after the block
  have hn : ((d.mem.drop sp).take (ds - (4 + sp))).length = ds - (4 + sp) := by simp; omega
  have hm1 : (writeAt d.mem 0 ((d.mem.drop sp).take (ds - (4 + sp)))).length = d.capacity + 1 := by
    rw [writeAt_length (by omega), hml]
  have hkeep := take_writeAt_zero d.mem ((d.mem.drop sp).take (ds - (4 + sp)))
  have htail := drop_writeAt_of_le d.mem ((d.mem.drop sp).take (ds - (4 + sp))) (Nat.zero_le _)
    (k := ds) (by omega)
  rw [hn] at hkeep
  rw [data_drop_take d (by omega)]
  split
  · next hlt =>
    rw [memmoveWithin_of_le (by omega) (by omega)]
    refine ⟨_, rfl, rfl, ?_⟩
    have hrest : ((List.drop ds (writeAt d.mem 0 ((d.mem.drop sp).take (ds - (4 + sp))))).take
        (d.len - ds)).length = d.len - ds := by rw [htail]; simp; omega
    have hw := @take_writeAt (writeAt d.mem 0 ((d.mem.drop sp).take (ds - (4 + sp))))
      ((List.drop ds (writeAt d.mem 0 ((d.mem.drop sp).take (ds - (4 + sp))))).take (d.len - ds))
      (ds - (4 + sp)) (by omega)
    rw [hrest] at hw
    rw [PreParsed.data, hw, hkeep, htail, data_drop d]
  · next hge =>
    have hnil : d.data.drop ds = [] := List.drop_eq_nil_of_le (by rw [Buffer.data_length]; omega)
    refine ⟨_, rfl, rfl, ?_⟩
    rw [PreParsed.data, hkeep, hnil, List.append_nil]

end Sealed

/-! ## The reference headers, and where the code departs from them -/

/-- On a non-empty buffer each reference header is stripped from the contents when it
fits; a header whose length covers the buffer, a sealed block of 14 bytes or fewer, and
a sealed block with a bad CRC leave the buffer as it was and return false; and any
other type byte leaves it as it was and returns true. -/
theorem pre_parse_header_strips_each_reference_header (d : Buffer) (hpos : 0 < d.len) :
    (byteAt d.mem 0 = 0x80 →
      ((byteAt d.mem 1).toNat + 2 < d.len → ∃ r, preParseHeader d = some r ∧ r.ok = true ∧
          r.data = d.data.drop ((byteAt d.mem 1).toNat + 2)) ∧
        (d.len ≤ (byteAt d.mem 1).toNat + 2 → preParseHeader d = some ⟨false, d.mem, d.len⟩)) ∧
    (byteAt d.mem 0 = 0x81 →
      ∃ r, preParseHeader d = some r ∧ r.ok = true ∧ r.data = d.data.drop 1) ∧
    (byteAt d.mem 0 = 0x82 →
      (rdBe16 d.mem 1 + 3 < d.len → ∃ r, preParseHeader d = some r ∧ r.ok = true ∧
          r.data = d.data.drop (rdBe16 d.mem 1 + 3)) ∧
        (d.len ≤ rdBe16 d.mem 1 + 3 → preParseHeader d = some ⟨false, d.mem, d.len⟩)) ∧
    (byteAt d.mem 0 = 0x88 → d.len ≤ 14 → preParseHeader d = some ⟨false, d.mem, d.len⟩) ∧
    (byteAt d.mem 0 = 0x88 → 14 < d.len → rdBe16 d.mem 1 ≤ d.len →
      (crc32Imp (d.data.take (rdBe16 d.mem 1)) ≠ 0xffffffff →
          preParseHeader d = some ⟨false, d.mem, d.len⟩) ∧
        (crc32Imp (d.data.take (rdBe16 d.mem 1)) = 0xffffffff →
          4 + (3 + (byteAt d.mem 3).toNat) ≤ rdBe16 d.mem 1 →
          ∃ r, preParseHeader d = some r ∧ r.ok = true ∧
            r.data = (d.data.drop (3 + (byteAt d.mem 3).toNat)).take
                (rdBe16 d.mem 1 - (4 + (3 + (byteAt d.mem 3).toNat))) ++
              d.data.drop (rdBe16 d.mem 1))) ∧
    (byteAt d.mem 0 ∉ [0x80, 0x81, 0x82, 0x88] → preParseHeader d = some ⟨true, d.mem, d.len⟩) := by
  refine ⟨fun h0 => ?_, fun h0 => ?_, fun h0 => ?_, fun h0 hshort => ?_, fun h0 hlen hds => ?_,
    preParseHeader_other hpos⟩
  · obtain ⟨hcovers, hfits⟩ := preParseHeader_strip (preParseHeader_0x80 hpos h0)
    exact ⟨hfits, hcovers⟩
  · -- `0x81` moves even a buffer of the type byte alone
    obtain ⟨mem, hm, hdata⟩ := @moveDown_data d 1 hpos
    rw [preParseHeader_0x81 hpos h0, hm]
    exact ⟨_, rfl, rfl, hdata⟩
  · obtain ⟨hcovers, hfits⟩ := preParseHeader_strip (preParseHeader_0x82 hpos h0)
    exact ⟨hfits, hcovers⟩
  · exact preParseHeader_0x88_short hpos h0 hshort
  · have hread : d.read 0 (rdBe16 d.mem 1) = d.data.take (rdBe16 d.mem 1) := by
      rw [Buffer.read_of_le_len (by omega), List.drop_zero]
    have hcap : rdBe16 d.mem 1 ≤ d.capacity + 1 := by have := d.len_le; omega
    refine ⟨fun hcrc => ?_, fun hcrc hsp => preParseHeader_0x88_strip hpos h0 hlen hds hcrc hsp⟩
    exact preParseHeader_0x88_bad_crc hpos h0 hlen hcap (by rwa [hread])

/-- A `0x81` block before an IPv4 header for 127.0.0.1:80: the type byte goes and the
header is left at the start. -/
theorem typed_block_loses_its_type_byte :
    ∃ r, preParseHeader (bufferCreateFrom [0x81, 0x01, 0x7f, 0x00, 0x00, 0x01, 0x00, 0x50]) = some r ∧
      r.ok = true ∧ r.data = [0x01, 0x7f, 0x00, 0x00, 0x01, 0x00, 0x50] := by
  obtain ⟨r, hr, hok, hdata⟩ :=
    (pre_parse_header_strips_each_reference_header
      (bufferCreateFrom [0x81, 0x01, 0x7f, 0x00, 0x00, 0x01, 0x00, 0x50]) (by decide +kernel)).2.1
      (by decide +kernel)
  exact ⟨r, hr, hok, by rw [hdata]; decide +kernel⟩

/-- Three departures from the reference: a `0x77` block is never stripped, since
`~datatype` is the complement of the promoted `int`; a `data_size` past the allocation
makes `crc32_imp` read past it; and a CRC-valid block whose offset `3 + d[3]` leaves
fewer than four of its bytes wraps `data->len` and moves past the allocation. -/
theorem pre_parse_header_passes_0x77_and_runs_past_the_allocation :
    (∀ d : Buffer, 0 < d.len → byteAt d.mem 0 = 0x77 →
        preParseHeader d = some ⟨true, d.mem, d.len⟩) ∧
      (∀ d : Buffer, byteAt d.mem 0 = 0x88 → 14 < d.len → d.capacity + 1 < rdBe16 d.mem 1 →
        preParseHeader d = none) ∧
      (∀ d : Buffer, byteAt d.mem 0 = 0x88 → 14 < d.len → rdBe16 d.mem 1 ≤ d.capacity + 1 →
        crc32Imp (d.read 0 (rdBe16 d.mem 1)) = 0xffffffff →
        rdBe16 d.mem 1 < 4 + (3 + (byteAt d.mem 3).toNat) → d.capacity < 2 ^ 63 →
        preParseHeader d = none) := by
  refine ⟨fun d hpos h0 => preParseHeader_other hpos (by rw [h0]; decide), fun d h0 hlen hds => ?_,
    fun d h0 hlen hds hcrc hwrap hcap => ?_⟩
  · exact preParseHeader_0x88_past (by omega) h0 hlen hds
  · exact preParseHeader_0x88_wrap (by omega) h0 hlen hds hcrc hwrap hcap

/-- A 20-byte sealed block with `d[3] = 0xff`: its data would start at 258. -/
def wrappingBlock : List UInt8 :=
  fillcrc32 ([0x88, 0x00, 0x14, 0xff] ++ List.replicate 12 0 ++ [0, 0, 0, 0]) 20

theorem wrapping_block_overruns : preParseHeader (bufferCreateFrom wrappingBlock) = none :=
  pre_parse_header_passes_0x77_and_runs_past_the_allocation.2.2 _ (by decide +kernel)
    (by decide +kernel) (by decide +kernel) (by decide +kernel) (by decide +kernel) (by decide +kernel)

end ShadowsocksR
