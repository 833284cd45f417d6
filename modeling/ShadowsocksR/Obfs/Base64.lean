/-
  ShadowsocksR.Obfs.Base64 — base64.c: the Apache base64 coder and its URL-safe wrapper,
  which `ssr_qr_code` uses for ssr:// links.

  `std_base64_encode` turns each three bytes into four characters of `basis_64` and pads a
  last group of one or two bytes with '='. `std_base64_decode` counts the characters
  `pr2six` maps below 64, decodes them four at a time while more than four are left, then
  the last two to four, and returns `((nprbytes + 3) / 4) * 3 - ((4 - nprbytes) & 3)`.
  The URL-safe pair maps '+', '/' to '-', '_' and drops the '=' padding (turning it into
  NUL bytes); its decoder maps them back, puts the padding back from the length mod 4, and
  decodes.

  Proved (`base64_round_trips`): for every byte string `s` of length `n`,
  - `url_safe_base64_encode(s)` writes a string of `ceil(4n/3)` characters of
    `[A-Za-z0-9_-]`, never of length 1 mod 4, and returns that length;
  - `url_safe_base64_decode` of what it wrote writes `s` and a NUL and returns `n`;
  - `std_base64_decode(std_base64_encode(s))` writes `s` and a NUL and returns `n`, and
    `std_base64_encode` returns `std_base64_encode_len(n) - 1`.
  The characters are the 6-bit groups of `s` (`sextets`) through `basis_64`
  (`stdBase64EncodeLoop_eq`); `pr2six` undoes `basis_64` on them and the decoder's loop and
  tail put the groups back together (`stdBase64Decode_of_sextets`).

  C's `int` lengths are natural numbers here: the functions are modelled for strings whose
  encoded length fits an `int`.
-/

import ShadowsocksR.Lib.CString
import ShadowsocksR.Lib.Bytes

namespace ShadowsocksR.Base64

open CString Bytes

/-- `pr2six`: the value of each base64 character, 64 for any other byte. -/
def pr2six : List UInt8 :=
  [64, 64, 64, 64, 64, 64, 64, 64, 64, 64, 64, 64, 64, 64, 64, 64,
    64, 64, 64, 64, 64, 64, 64, 64, 64, 64, 64, 64, 64, 64, 64, 64,
    64, 64, 64, 64, 64, 64, 64, 64, 64, 64, 64, 62, 64, 64, 64, 63,
    52, 53, 54, 55, 56, 57, 58, 59, 60, 61, 64, 64, 64, 64, 64, 64,
    64, 0, 1, 2, 3, 4, 5, 6, 7, 8, 9, 10, 11, 12, 13, 14,
    15, 16, 17, 18, 19, 20, 21, 22, 23, 24, 25, 64, 64, 64, 64, 64,
    64, 26, 27, 28, 29, 30, 31, 32, 33, 34, 35, 36, 37, 38, 39, 40,
    41, 42, 43, 44, 45, 46, 47, 48, 49, 50, 51, 64, 64, 64, 64, 64,
    64, 64, 64, 64, 64, 64, 64, 64, 64, 64, 64, 64, 64, 64, 64, 64,
    64, 64, 64, 64, 64, 64, 64, 64, 64, 64, 64, 64, 64, 64, 64, 64,
    64, 64, 64, 64, 64, 64, 64, 64, 64, 64, 64, 64, 64, 64, 64, 64,
    64, 64, 64, 64, 64, 64, 64, 64, 64, 64, 64, 64, 64, 64, 64, 64,
    64, 64, 64, 64, 64, 64, 64, 64, 64, 64, 64, 64, 64, 64, 64, 64,
    64, 64, 64, 64, 64, 64, 64, 64, 64, 64, 64, 64, 64, 64, 64, 64,
    64, 64, 64, 64, 64, 64, 64, 64, 64, 64, 64, 64, 64, 64, 64, 64,
    64, 64, 64, 64, 64, 64, 64, 64, 64, 64, 64, 64, 64, 64, 64, 64]

/-- `pr2six[c]`, promoted to `int`. -/
def pr2sixAt (c : UInt8) : Nat := (byteAt pr2six c.toNat).toNat

/-- `basis_64`. -/
def basis64 : List UInt8 := ascii "ABCDEFGHIJKLMNOPQRSTUVWXYZabcdefghijklmnopqrstuvwxyz0123456789+/"

def eqSign : UInt8 := 0x3d
def plus : UInt8 := 0x2b
def slash : UInt8 := 0x2f
def minus : UInt8 := 0x2d
def underscore : UInt8 := 0x5f

/-! ## Encoding -/

/-- `std_base64_encode_len(len)`. -/
def stdBase64EncodeLen (len : Nat) : Nat := ((len + 2) / 3) * 4 + 1

/-- The characters `std_base64_encode` writes: the `for` loop over whole groups of three
bytes, then the `if (i < len)` tail of one or two bytes with its '=' padding. -/
def stdBase64EncodeLoop : List UInt8 → List UInt8
  | a :: b :: c :: rest =>
    [byteAt basis64 ((a.toNat >>> 2) &&& 0x3F),
      byteAt basis64 (((a.toNat &&& 0x3) <<< 4) ||| ((b.toNat &&& 0xF0) >>> 4)),
      byteAt basis64 (((b.toNat &&& 0xF) <<< 2) ||| ((c.toNat &&& 0xC0) >>> 6)),
      byteAt basis64 (c.toNat &&& 0x3F)] ++ stdBase64EncodeLoop rest
  | [a] =>
    [byteAt basis64 ((a.toNat >>> 2) &&& 0x3F), byteAt basis64 ((a.toNat &&& 0x3) <<< 4), eqSign,
      eqSign]
  | [a, b] =>
    [byteAt basis64 ((a.toNat >>> 2) &&& 0x3F),
      byteAt basis64 (((a.toNat &&& 0x3) <<< 4) ||| ((b.toNat &&& 0xF0) >>> 4)),
      byteAt basis64 ((b.toNat &&& 0xF) <<< 2), eqSign]
  | [] => []

/-- `std_base64_encode(string, len, encoded)`: what it writes to `encoded`, and the
length it returns. -/
def stdBase64Encode (string : List UInt8) : List UInt8 × Nat :=
  let chars := stdBase64EncodeLoop string
  (chars ++ [0], chars.length)

/-- One byte of `str_replace_char`: `if (*str == old_char) *str = new_char;`. -/
def replaceByte (oldChar newChar b : UInt8) : UInt8 := if b = oldChar then newChar else b

/-- `str_replace_char(str, old_char, new_char)`: every `old_char` before the string's
NUL becomes `new_char`. -/
def strReplaceChar (str : List UInt8) (oldChar newChar : UInt8) : List UInt8 :=
  (cstr str).map (replaceByte oldChar newChar) ++ str.drop (strlen str)

/-- `url_safe_base64_encode(plain_src, len_plain_src, coded_dst)`. -/
def urlSafeBase64Encode (plainSrc : List UInt8) : List UInt8 × Nat :=
  let codedDst := (stdBase64Encode plainSrc).1
  let codedDst := strReplaceChar codedDst plus minus
  let codedDst := strReplaceChar codedDst slash underscore
  let codedDst := strReplaceChar codedDst eqSign 0
  (codedDst, strlen codedDst)

/-! ## Decoding -/

/-- The three bytes a group of four values makes, each cast to `unsigned char`. -/
def decodeByte0 (p0 p1 : Nat) : UInt8 := ((p0 <<< 2) ||| (p1 >>> 4)).toUInt8
def decodeByte1 (p1 p2 : Nat) : UInt8 := ((p1 <<< 4) ||| (p2 >>> 2)).toUInt8
def decodeByte2 (p2 p3 : Nat) : UInt8 := ((p2 <<< 6) ||| p3).toUInt8

/-- The body of the `while (nprbytes > 4)` loop, on the four characters at `bufin`. -/
def decodeQuad (bufin : List UInt8) : List UInt8 :=
  [decodeByte0 (pr2sixAt (byteAt bufin 0)) (pr2sixAt (byteAt bufin 1)),
    decodeByte1 (pr2sixAt (byteAt bufin 1)) (pr2sixAt (byteAt bufin 2)),
    decodeByte2 (pr2sixAt (byteAt bufin 2)) (pr2sixAt (byteAt bufin 3))]

/-- `while (nprbytes > 4)`: the bytes written, and `bufin` and `nprbytes` after it. -/
def stdBase64DecodeLoop : List UInt8 → Nat → List UInt8 × List UInt8 × Nat
  | bufin, n + 5 =>
    let r := stdBase64DecodeLoop (bufin.drop 4) (n + 1)
    (decodeQuad bufin ++ r.1, r.2.1, r.2.2)
  | bufin, nprbytes => ([], bufin, nprbytes)

/-- The last two to four characters: one byte for each after the first. -/
def decodeTail (bufin : List UInt8) (nprbytes : Nat) : List UInt8 :=
  let p k := pr2sixAt (byteAt bufin k)
  (if nprbytes > 1 then [decodeByte0 (p 0) (p 1)] else []) ++
    (if nprbytes > 2 then [decodeByte1 (p 1) (p 2)] else []) ++
    (if nprbytes > 3 then [decodeByte2 (p 2) (p 3)] else [])

/-- `while (pr2six[*(bufin++)] <= 63);`: the characters before the first other byte. -/
def countSextets (bufcoded : List UInt8) : Nat :=
  (bufcoded.takeWhile fun c => pr2sixAt c ≤ 63).length

/-- `std_base64_decode(bufcoded, bufplain)`: what it writes to `bufplain`, and what it
returns. -/
def stdBase64Decode (bufcoded : List UInt8) : List UInt8 × Nat :=
  let nprbytes := countSextets bufcoded
  let nbytesdecoded := ((nprbytes + 3) / 4) * 3
  let loop := stdBase64DecodeLoop bufcoded nprbytes
  (loop.1 ++ decodeTail loop.2.1 loop.2.2 ++ [0], nbytesdecoded - ((4 - loop.2.2) &&& 3))

/-- `str_url_safe_base64_to_std_base64(coded_src)`; `assert(0)` on a length of 1 mod 4
aborts. -/
def strUrlSafeBase64ToStdBase64 (codedSrc : List UInt8) : Option (List UInt8) :=
  let codedSrc := strReplaceChar codedSrc minus plus
  let codedSrc := strReplaceChar codedSrc underscore slash
  let len := strlen codedSrc
  match len % 4 with
  | 1 => none
  | 2 => some (((codedSrc.set len eqSign).set (len + 1) eqSign).set (len + 2) 0)
  | 3 => some ((codedSrc.set len eqSign).set (len + 1) 0)
  | _ => some codedSrc

/-- `url_safe_base64_decode(coded_src, plain_dst)`: the copy `calloc`'d with four more zero
bytes, made standard, and decoded. -/
def urlSafeBase64Decode (codedSrc : List UInt8) : Option (List UInt8 × Nat) :=
  let len := strlen codedSrc
  let newBuf := codedSrc.take len ++ List.replicate 4 0
  (strUrlSafeBase64ToStdBase64 newBuf).map stdBase64Decode

example : stdBase64Encode (ascii "Man") = (ascii "TWFu" ++ [0], 4) := by decide

example : stdBase64Decode (ascii "TWE=" ++ [0]) = (ascii "Ma" ++ [0], 2) := by decide

/-! ## The 6-bit groups -/

/-- The 6-bit groups of a byte string, big-endian, three bytes to four groups, the last
one or two bytes padded with zero bits. -/
def sextets : List UInt8 → List Nat
  | a :: b :: c :: rest =>
    [a.toNat / 4, a.toNat % 4 * 16 + b.toNat / 16, b.toNat % 16 * 4 + c.toNat / 64, c.toNat % 64] ++
      sextets rest
  | [a] => [a.toNat / 4, a.toNat % 4 * 16]
  | [a, b] => [a.toNat / 4, a.toNat % 4 * 16 + b.toNat / 16, b.toNat % 16 * 4]
  | [] => []

/-- The '=' a last group of one or two bytes is padded with. -/
def padding : List UInt8 → Nat
  | _ :: _ :: _ :: rest => padding rest
  | [_] => 2
  | [_, _] => 1
  | [] => 0

/-- The groups back to bytes: four to three, the last three to two, the last two to one. -/
def unsextets : List Nat → List UInt8
  | p0 :: p1 :: p2 :: p3 :: rest =>
    [decodeByte0 p0 p1, decodeByte1 p1 p2, decodeByte2 p2 p3] ++ unsextets rest
  | [p0, p1, p2] => [decodeByte0 p0 p1, decodeByte1 p1 p2]
  | [p0, p1] => [decodeByte0 p0 p1]
  | _ => []

theorem sextets_lt (s : List UInt8) : ∀ x ∈ sextets s, x < 64 := by
  fun_induction sextets s with
  | case1 a b c rest ih =>
    intro x hx
    simp only [List.cons_append, List.mem_cons, List.nil_append] at hx
    have ha := a.toNat_lt
    have hb := b.toNat_lt
    have hc := c.toNat_lt
    rcases hx with rfl | rfl | rfl | rfl | hx
    · omega
    · omega
    · omega
    · omega
    · exact ih x hx
  | case2 a =>
    have ha := a.toNat_lt
    intro x hx
    simp only [List.mem_cons, List.not_mem_nil, or_false] at hx
    omega
  | case3 a b =>
    have ha := a.toNat_lt
    have hb := b.toNat_lt
    intro x hx
    simp only [List.mem_cons, List.not_mem_nil, or_false] at hx
    omega
  | case4 => simp

theorem length_sextets (s : List UInt8) : (sextets s).length = (4 * s.length + 2) / 3 := by
  fun_induction sextets s with
  | case1 a b c rest ih =>
    simp only [List.cons_append, List.length_cons, List.nil_append, ih]
    omega
  | case2 a => simp
  | case3 a b => simp
  | case4 => rfl

theorem length_sextets_add_padding (s : List UInt8) :
    (sextets s).length + padding s = (s.length + 2) / 3 * 4 := by
  fun_induction sextets s with
  | case1 a b c rest ih =>
    simp only [padding, List.cons_append, List.length_cons, List.nil_append] at ih ⊢
    omega
  | case2 a => simp [padding]
  | case3 a b => simp [padding]
  | case4 => rfl

/-! ## The encoder's index arithmetic -/

section ByteFacts

set_option maxRecDepth 4096

theorem and_f0_shiftRight : ∀ n < 256, (n &&& 0xF0) >>> 4 = n / 16 := by decide

theorem and_c0_shiftRight : ∀ n < 256, (n &&& 0xC0) >>> 6 = n / 64 := by decide

theorem shiftRight_two_and_3f : ∀ n < 256, (n >>> 2) &&& 0x3F = n / 4 := by decide

end ByteFacts

theorem and_3_shiftLeft (n : Nat) : (n &&& 0x3) <<< 4 = n % 4 * 16 := by
  rw [Nat.shiftLeft_eq, show (0x3 : Nat) = 2 ^ 2 - 1 by rfl, Nat.and_two_pow_sub_one_eq_mod]

theorem and_f_shiftLeft (n : Nat) : (n &&& 0xF) <<< 2 = n % 16 * 4 := by
  rw [Nat.shiftLeft_eq, show (0xF : Nat) = 2 ^ 4 - 1 by rfl, Nat.and_two_pow_sub_one_eq_mod]

theorem and_3f (n : Nat) : n &&& 0x3F = n % 64 := by
  rw [show (0x3F : Nat) = 2 ^ 6 - 1 by rfl, Nat.and_two_pow_sub_one_eq_mod]

theorem sextet0_eq (a : UInt8) : (a.toNat >>> 2) &&& 0x3F = a.toNat / 4 :=
  shiftRight_two_and_3f _ a.toNat_lt

theorem sextet1_eq (a b : UInt8) :
    ((a.toNat &&& 0x3) <<< 4) ||| ((b.toNat &&& 0xF0) >>> 4) = a.toNat % 4 * 16 + b.toNat / 16 := by
  rw [and_3_shiftLeft, and_f0_shiftRight _ b.toNat_lt]
  exact or_eq_add_of_lt (k := 4) (by omega) (by have := b.toNat_lt; omega)

theorem sextet2_eq (b c : UInt8) :
    ((b.toNat &&& 0xF) <<< 2) ||| ((c.toNat &&& 0xC0) >>> 6) = b.toNat % 16 * 4 + c.toNat / 64 := by
  rw [and_f_shiftLeft, and_c0_shiftRight _ c.toNat_lt]
  exact or_eq_add_of_lt (k := 2) (by omega) (by have := c.toNat_lt; omega)

/-- The encoder writes the groups through `basis_64`, then the padding. -/
theorem stdBase64EncodeLoop_eq (s : List UInt8) :
    stdBase64EncodeLoop s = (sextets s).map (byteAt basis64) ++ List.replicate (padding s) eqSign := by
  fun_induction stdBase64EncodeLoop s with
  | case1 a b c rest ih =>
    rw [sextets, padding, ih, sextet0_eq, sextet1_eq, sextet2_eq, and_3f]
    simp
  | case2 a =>
    rw [sextet0_eq, and_3_shiftLeft]
    rfl
  | case3 a b =>
    rw [sextet0_eq, sextet1_eq, and_f_shiftLeft]
    rfl
  | case4 => rfl

/-! ## The decoder -/

section Tables

set_option maxRecDepth 4096

/-- `pr2six` undoes `basis_64`. -/
theorem pr2six_basis64 : ∀ i < 64, pr2sixAt (byteAt basis64 i) = i := by decide

theorem basis64_ne_zero : ∀ i < 64, byteAt basis64 i ≠ 0 := by decide

end Tables

theorem pr2sixAt_eqSign : pr2sixAt eqSign = 64 := by decide

theorem pr2sixAt_zero : pr2sixAt 0 = 64 := by decide

theorem toUInt8_of_mod {n : Nat} {a : UInt8} (h : n % 256 = a.toNat) : n.toUInt8 = a := by
  apply UInt8.toNat.inj
  rw [← h]
  simp [Nat.toUInt8]

theorem decodeByte0_eq (a : UInt8) {y : Nat} (hy : y < 16) :
    decodeByte0 (a.toNat / 4) (a.toNat % 4 * 16 + y) = a := by
  have ha := a.toNat_lt
  apply toUInt8_of_mod
  have hlow : (a.toNat % 4 * 16 + y) >>> 4 = a.toNat % 4 := by
    rw [Nat.shiftRight_eq_div_pow]
    omega
  rw [Nat.shiftLeft_eq, hlow, or_eq_add_of_lt (k := 2) (by omega) (by omega)]
  omega

theorem decodeByte1_eq (a b : UInt8) {z : Nat} (hz : z < 4) :
    decodeByte1 (a.toNat % 4 * 16 + b.toNat / 16) (b.toNat % 16 * 4 + z) = b := by
  have hb := b.toNat_lt
  apply toUInt8_of_mod
  have hlow : (b.toNat % 16 * 4 + z) >>> 2 = b.toNat % 16 := by
    rw [Nat.shiftRight_eq_div_pow]
    omega
  rw [Nat.shiftLeft_eq, hlow, or_eq_add_of_lt (k := 4) (by omega) (by omega)]
  omega

theorem decodeByte2_eq (b c : UInt8) :
    decodeByte2 (b.toNat % 16 * 4 + c.toNat / 64) (c.toNat % 64) = c := by
  have hc := c.toNat_lt
  apply toUInt8_of_mod
  rw [Nat.shiftLeft_eq, or_eq_add_of_lt (k := 6) (by omega) (by omega)]
  omega

theorem unsextets_sextets (s : List UInt8) : unsextets (sextets s) = s := by
  fun_induction sextets s with
  | case1 a b c rest ih =>
    have hb : b.toNat / 16 < 16 := by have := b.toNat_lt; omega
    have hc : c.toNat / 64 < 4 := by have := c.toNat_lt; omega
    simp only [List.cons_append, List.nil_append, unsextets, ih, decodeByte0_eq a hb,
      decodeByte1_eq a b hc, decodeByte2_eq]
  | case2 a =>
    have h0 := decodeByte0_eq a (y := 0) (by omega)
    rw [Nat.add_zero] at h0
    simp [unsextets, h0]
  | case3 a b =>
    have hb : b.toNat / 16 < 16 := by have := b.toNat_lt; omega
    have h1 := decodeByte1_eq a b (z := 0) (by omega)
    rw [Nat.add_zero] at h1
    simp [unsextets, decodeByte0_eq a hb, h1]
  | case4 => rfl

/-- The last two to four characters, read only where they are. -/
theorem decodeTail_eq {buf : List UInt8} {npr : Nat} (h4 : npr ≤ 4) (hlen : npr ≤ buf.length) :
    decodeTail buf npr = unsextets ((buf.take npr).map pr2sixAt) := by
  rcases buf with _ | ⟨b0, _ | ⟨b1, _ | ⟨b2, _ | ⟨b3, rest⟩⟩⟩⟩ <;>
    simp only [List.length_nil, List.length_cons] at hlen <;>
    interval_cases npr <;> simp [decodeTail, unsextets, byteAt]

/-- The decoder's loop and tail put the groups back together, and the loop stops with one
to four characters left. -/
theorem stdBase64DecodeLoop_spec : ∀ (npr : Nat) (buf : List UInt8), npr ≤ buf.length →
    (stdBase64DecodeLoop buf npr).1 ++
        decodeTail (stdBase64DecodeLoop buf npr).2.1 (stdBase64DecodeLoop buf npr).2.2 =
      unsextets ((buf.take npr).map pr2sixAt) ∧
    (stdBase64DecodeLoop buf npr).2.2 = if npr = 0 then 0 else (npr - 1) % 4 + 1 := by
  intro npr buf hlen
  fun_induction stdBase64DecodeLoop buf npr with
  | case1 buf n r ih =>
    obtain ⟨hout, hnpr⟩ := ih (by simp only [List.length_drop]; omega)
    simp only [r]
    rcases buf with _ | ⟨b0, _ | ⟨b1, _ | ⟨b2, _ | ⟨b3, rest⟩⟩⟩⟩
    all_goals simp only [List.length_nil, List.length_cons] at hlen
    all_goals try omega
    refine ⟨?_, by rw [hnpr, if_neg (by omega), if_neg (by omega)]; omega⟩
    rw [List.append_assoc, hout]
    simp [decodeQuad, unsextets, byteAt]
  | case2 buf npr hnot =>
    have h4 : npr ≤ 4 := by
      by_contra hgt
      exact hnot (npr - 5) (by omega)
    refine ⟨by simpa using decodeTail_eq h4 hlen, ?_⟩
    dsimp only
    split <;> omega

/-- The return value: `((nprbytes + 3) / 4) * 3` less what the last group lacks. -/
theorem decoded_count (n : Nat) :
    (((4 * n + 2) / 3 + 3) / 4) * 3 -
        ((4 - if (4 * n + 2) / 3 = 0 then 0 else ((4 * n + 2) / 3 - 1) % 4 + 1) &&& 3) = n := by
  have hand : ∀ x : Nat, x &&& 3 = x % 4 := fun x => Nat.and_two_pow_sub_one_eq_mod x 2
  rw [hand]
  -- whole groups, one byte left, two bytes left
  obtain ⟨k, j, hj, rfl⟩ : ∃ k j, j < 3 ∧ n = 3 * k + j :=
    ⟨n / 3, n % 3, Nat.mod_lt _ (by omega), (Nat.div_add_mod n 3).symm⟩
  interval_cases j
  · rcases Nat.eq_zero_or_pos k with rfl | hk
    · rfl
    · have h1 : (4 * (3 * k + 0) + 2) / 3 = 4 * k := by omega
      rw [h1, if_neg (by omega)]
      have h2 : (4 * k - 1) % 4 + 1 = 4 := by omega
      rw [h2]
      omega
  · have h1 : (4 * (3 * k + 1) + 2) / 3 = 4 * k + 2 := by omega
    rw [h1, if_neg (by omega)]
    have h2 : (4 * k + 2 - 1) % 4 + 1 = 2 := by omega
    rw [h2]
    omega
  · have h1 : (4 * (3 * k + 2) + 2) / 3 = 4 * k + 3 := by omega
    rw [h1, if_neg (by omega)]
    have h2 : (4 * k + 3 - 1) % 4 + 1 = 3 := by omega
    rw [h2]
    omega

/-- Decoding the groups' characters, up to a byte that is not one: the bytes back, and
their count. -/
theorem stdBase64Decode_of_sextets (s : List UInt8) {stop : UInt8} (hstop : 63 < pr2sixAt stop)
    (rest : List UInt8) :
    stdBase64Decode ((sextets s).map (byteAt basis64) ++ stop :: rest) = (s ++ [0], s.length) := by
  have hpr : ∀ x ∈ sextets s, pr2sixAt (byteAt basis64 x) = x :=
    fun x hx => pr2six_basis64 x (sextets_lt s x hx)
  have hcount : countSextets ((sextets s).map (byteAt basis64) ++ stop :: rest) =
      (sextets s).length := by
    unfold countSextets
    rw [List.takeWhile_append_of_pos]
    · simp [Nat.not_le.mpr hstop]
    · intro c hc
      obtain ⟨x, hx, rfl⟩ := List.mem_map.mp hc
      have := sextets_lt s x hx
      simp [hpr x hx]
      omega
  have hmap : (((sextets s).map (byteAt basis64) ++ stop :: rest).take (sextets s).length).map
      pr2sixAt = sextets s := by
    rw [List.take_append_of_le_length (by simp), List.take_of_length_le (by simp), List.map_map]
    exact (List.map_congr_left (g := id) fun x hx => hpr x hx).trans (List.map_id _)
  obtain ⟨hout, hnpr⟩ := stdBase64DecodeLoop_spec (sextets s).length
    ((sextets s).map (byteAt basis64) ++ stop :: rest) (by simp)
  unfold stdBase64Decode
  simp only [hcount]
  rw [hout, hmap, unsextets_sextets, hnpr, length_sextets, decoded_count]

/-! ## The round trips -/

/-- The URL-safe alphabet `[A-Za-z0-9_-]`, in the order of `basis_64`. -/
def urlSafeBasis64 : List UInt8 := ascii "ABCDEFGHIJKLMNOPQRSTUVWXYZabcdefghijklmnopqrstuvwxyz0123456789-_"

section UrlTables

set_option maxRecDepth 4096

/-- The three passes of `url_safe_base64_encode` take `basis_64` to the URL-safe alphabet. -/
theorem urlSafe_of_basis64 : ∀ i < 64,
    replaceByte eqSign 0 (replaceByte slash underscore (replaceByte plus minus (byteAt basis64 i))) =
      byteAt urlSafeBasis64 i := by decide

/-- The two passes of `str_url_safe_base64_to_std_base64` take it back. -/
theorem basis64_of_urlSafe : ∀ i < 64,
    replaceByte underscore slash (replaceByte minus plus (byteAt urlSafeBasis64 i)) = byteAt basis64 i := by
  decide

theorem urlSafeBasis64_ne_zero : ∀ i < 64, byteAt urlSafeBasis64 i ≠ 0 := by decide

theorem length_urlSafeBasis64 : urlSafeBasis64.length = 64 := by decide

end UrlTables

/-- `str_replace_char` on a NUL-terminated text maps the text and stops at its NUL. -/
theorem strReplaceChar_append_zero {t : List UInt8} (ht : NoNul t) (r : List UInt8) (oldChar newChar : UInt8) :
    strReplaceChar (t ++ 0 :: r) oldChar newChar = t.map (replaceByte oldChar newChar) ++ 0 :: r := by
  have hlen : strlen (t ++ 0 :: r) = t.length := by
    rw [strlen, cstr_append_zero_cons, cstr_of_noNul ht]
  rw [strReplaceChar, cstr_append_zero_cons, cstr_of_noNul ht, hlen, List.drop_left]

theorem noNul_map_replaceByte {t : List UInt8} (ht : NoNul t) (oldChar : UInt8) {newChar : UInt8}
    (hnew : newChar ≠ 0) : NoNul (t.map (replaceByte oldChar newChar)) := by
  intro b hb
  obtain ⟨x, hx, rfl⟩ := List.mem_map.mp hb
  unfold replaceByte
  split
  · exact hnew
  · exact ht x hx

theorem noNul_map_sextets (s : List UInt8) {f : Nat → UInt8} (hf : ∀ i < 64, f i ≠ 0) :
    NoNul ((sextets s).map f) := by
  intro b hb
  obtain ⟨x, hx, rfl⟩ := List.mem_map.mp hb
  exact hf x (sextets_lt s x hx)

theorem map_sextets_congr (s : List UInt8) {f g : Nat → UInt8} (h : ∀ i < 64, f i = g i) :
    (sextets s).map f = (sextets s).map g :=
  List.map_congr_left fun i hi => h i (sextets_lt s i hi)

theorem stdBase64Encode_eq (s : List UInt8) :
    stdBase64Encode s =
      ((sextets s).map (byteAt basis64) ++ List.replicate (padding s) eqSign ++ [0],
        stdBase64EncodeLen s.length - 1) := by
  rw [stdBase64Encode, stdBase64EncodeLoop_eq]
  simp only [List.length_append, List.length_map, List.length_replicate, Prod.mk.injEq, true_and]
  rw [length_sextets_add_padding, stdBase64EncodeLen]
  omega

/-- The characters and padding `std_base64_encode` writes before its NUL. -/
theorem noNul_encoded (s : List UInt8) :
    NoNul ((sextets s).map (byteAt basis64) ++ List.replicate (padding s) eqSign) := by
  refine noNul_append.mpr ⟨noNul_map_sextets s basis64_ne_zero, fun b hb => ?_⟩
  rw [List.eq_of_mem_replicate hb]
  decide

/-- What `std_base64_encode` writes ends in '=' or NUL right after the groups' characters. -/
theorem padding_append_zero (s : List UInt8) :
    ∃ stop rest, 63 < pr2sixAt stop ∧ List.replicate (padding s) eqSign ++ [0] = stop :: rest := by
  cases padding s with
  | zero => exact ⟨0, [], by rw [pr2sixAt_zero]; omega, rfl⟩
  | succ p => exact ⟨eqSign, List.replicate p eqSign ++ [0], by rw [pr2sixAt_eqSign]; omega, rfl⟩

theorem urlSafeBase64Encode_eq (s : List UInt8) :
    urlSafeBase64Encode s =
      ((sextets s).map (byteAt urlSafeBasis64) ++ 0 :: List.replicate (padding s) 0,
        (sextets s).length) := by
  have ht := noNul_encoded s
  have ht1 := noNul_map_replaceByte ht plus (by decide : minus ≠ 0)
  have ht2 := noNul_map_replaceByte ht1 slash (by decide : underscore ≠ 0)
  have hpad : replaceByte eqSign 0 (replaceByte slash underscore (replaceByte plus minus eqSign)) = 0 := by
    decide
  have hurl := noNul_map_sextets s urlSafeBasis64_ne_zero
  have hmapped :
      (((sextets s).map (byteAt basis64) ++ List.replicate (padding s) eqSign).map
          (replaceByte plus minus) |>.map (replaceByte slash underscore) |>.map (replaceByte eqSign 0)) =
        (sextets s).map (byteAt urlSafeBasis64) ++ List.replicate (padding s) 0 := by
    simp only [List.map_append, List.map_map, List.map_replicate, Function.comp_def, hpad]
    rw [map_sextets_congr s urlSafe_of_basis64]
  unfold urlSafeBase64Encode
  rw [stdBase64Encode_eq]
  dsimp only
  rw [strReplaceChar_append_zero ht, strReplaceChar_append_zero ht1,
    strReplaceChar_append_zero ht2, hmapped, List.append_assoc, ← List.replicate_succ',
    List.replicate_succ, strlen, cstr_append_zero_cons, cstr_of_noNul hurl,
    List.length_map]

theorem set_append_of_eq (l r : List UInt8) {i : Nat} (k : Nat) (hi : i = l.length + k) (v : UInt8) :
    (l ++ r).set i v = l ++ r.set k v := by
  rw [List.set_append_right _ _ (by omega), hi, Nat.add_sub_cancel_left]

/-- `url_safe_base64_decode` of the URL-safe characters of the groups, NUL-terminated. -/
theorem urlSafeBase64Decode_of_sextets (s r : List UInt8) :
    urlSafeBase64Decode ((sextets s).map (byteAt urlSafeBasis64) ++ 0 :: r) = some (s ++ [0], s.length) := by
  have hu := noNul_map_sextets s urlSafeBasis64_ne_zero
  have hstd := noNul_map_sextets s basis64_ne_zero
  have hback : (((sextets s).map (byteAt urlSafeBasis64)).map (replaceByte minus plus)).map
      (replaceByte underscore slash) = (sextets s).map (byteAt basis64) := by
    simp only [List.map_map, Function.comp_def]
    exact map_sextets_congr s basis64_of_urlSafe
  have hlen : strlen ((sextets s).map (byteAt urlSafeBasis64) ++ 0 :: r) = (sextets s).length := by
    rw [strlen, cstr_append_zero_cons, cstr_of_noNul hu, List.length_map]
  have hlen' : strlen ((sextets s).map (byteAt basis64) ++ 0 :: [0, 0, 0]) = (sextets s).length := by
    rw [strlen, cstr_append_zero_cons, cstr_of_noNul hstd, List.length_map]
  have htake : ((sextets s).map (byteAt urlSafeBasis64) ++ 0 :: r).take (sextets s).length =
      (sextets s).map (byteAt urlSafeBasis64) := by
    rw [List.take_append_of_le_length (by simp), List.take_of_length_le (by simp)]
  have hL := length_sextets s
  have heq : 63 < pr2sixAt eqSign := by rw [pr2sixAt_eqSign]; omega
  have hzero : 63 < pr2sixAt 0 := by rw [pr2sixAt_zero]; omega
  unfold urlSafeBase64Decode strUrlSafeBase64ToStdBase64
  simp only [hlen, htake]
  rw [show List.replicate 4 (0 : UInt8) = 0 :: [0, 0, 0] from rfl, strReplaceChar_append_zero hu,
    strReplaceChar_append_zero (noNul_map_replaceByte hu _ (by decide)), hback, hlen']
  -- the length of the groups' characters is never 1 mod 4
  have hmod : (sextets s).length % 4 = 0 ∨ (sextets s).length % 4 = 2 ∨ (sextets s).length % 4 = 3 := by
    omega
  rcases hmod with h | h | h
  · simp only [h, Option.map_some]
    rw [stdBase64Decode_of_sextets s hzero]
  · simp only [h, Option.map_some]
    rw [set_append_of_eq _ _ 0 (i := (sextets s).length) (by simp),
      set_append_of_eq _ _ 1 (i := (sextets s).length + 1) (by simp),
      set_append_of_eq _ _ 2 (i := (sextets s).length + 2) (by simp)]
    exact congrArg some (stdBase64Decode_of_sextets s heq _)
  · simp only [h, Option.map_some]
    rw [set_append_of_eq _ _ 0 (i := (sextets s).length) (by simp),
      set_append_of_eq _ _ 1 (i := (sextets s).length + 1) (by simp)]
    exact congrArg some (stdBase64Decode_of_sextets s heq _)

/-- The string `url_safe_base64_encode` writes: the groups' URL-safe characters. -/
theorem cstr_urlSafeBase64Encode (s : List UInt8) :
    cstr (urlSafeBase64Encode s).1 = (sextets s).map (byteAt urlSafeBasis64) := by
  rw [urlSafeBase64Encode_eq, cstr_append_zero_cons,
    cstr_of_noNul (noNul_map_sextets s urlSafeBasis64_ne_zero)]

theorem mem_urlSafeBasis64_of_encoded {s : List UInt8} {c : UInt8}
    (hc : c ∈ cstr (urlSafeBase64Encode s).1) : c ∈ urlSafeBasis64 := by
  rw [cstr_urlSafeBase64Encode] at hc
  obtain ⟨i, hi, rfl⟩ := List.mem_map.1 hc
  exact byteAt_mem (length_urlSafeBasis64 ▸ sextets_lt s i hi)

/-- `url_safe_base64_decode` reads only the string its buffer holds. -/
theorem urlSafeBase64Decode_cstr (l : List UInt8) :
    urlSafeBase64Decode (cstr l) = urlSafeBase64Decode l := by
  have h : (cstr l).take (strlen (cstr l)) = l.take (strlen l) := by
    rw [take_strlen, take_strlen, cstr_of_noNul (noNul_cstr l)]
  simp only [urlSafeBase64Decode, h]

/-- The string `url_safe_base64_encode` writes decodes to what it encoded, wherever it ends. -/
theorem urlSafeBase64Decode_encoded (s : List UInt8) :
    urlSafeBase64Decode (cstr (urlSafeBase64Encode s).1) = some (s ++ [0], s.length) := by
  rw [urlSafeBase64Decode_cstr, urlSafeBase64Encode_eq]
  exact urlSafeBase64Decode_of_sextets s _

/-- The URL-safe pair and the standard pair are inverse on every byte string, with the
lengths the C code returns. -/
theorem base64_round_trips (s : List UInt8) :
    (urlSafeBase64Encode s).2 = (4 * s.length + 2) / 3 ∧ (urlSafeBase64Encode s).2 % 4 ≠ 1 ∧
      strlen (urlSafeBase64Encode s).1 = (urlSafeBase64Encode s).2 ∧
      (∀ c ∈ cstr (urlSafeBase64Encode s).1, c ∈ urlSafeBasis64) ∧
      urlSafeBase64Decode (urlSafeBase64Encode s).1 = some (s ++ [0], s.length) ∧
      stdBase64Decode (stdBase64Encode s).1 = (s ++ [0], s.length) ∧
      (stdBase64Encode s).2 = stdBase64EncodeLen s.length - 1 := by
  have hL := length_sextets s
  have hcstr := cstr_urlSafeBase64Encode s
  obtain ⟨stop, rest, hstop, hpad⟩ := padding_append_zero s
  refine ⟨?_, ?_, ?_, ?_, ?_, ?_, ?_⟩
  · rw [urlSafeBase64Encode_eq, hL]
  · rw [urlSafeBase64Encode_eq, hL]
    omega
  · rw [strlen, hcstr, urlSafeBase64Encode_eq, List.length_map]
  · exact fun c hc => mem_urlSafeBasis64_of_encoded hc
  · rw [urlSafeBase64Encode_eq]
    exact urlSafeBase64Decode_of_sextets s _
  · rw [stdBase64Encode_eq, List.append_assoc, hpad]
    exact stdBase64Decode_of_sextets s hstop rest
  · rw [stdBase64Encode_eq]

end ShadowsocksR.Base64
