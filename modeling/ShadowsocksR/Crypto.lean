/-
  ShadowsocksR.Crypto — what the plugins take from the crypto library.

  The digests, keyed digests and the AES block cipher come from mbedTLS (the default
  build; OpenSSL in another), and `rand_bytes` from libsodium; none is in the tree. A
  plugin is modelled over a `Crypto` value whose functions stand for the library's,
  so a result proved here holds for every function the library could be. Where a
  proof needs a property of one of them (AES decryption undoes encryption), the
  theorem states it as a hypothesis.

  `rand_bytes` draws from a process-wide generator; an `Entropy` is an arbitrary
  stream of bytes with a cursor, so a result proved for every `Entropy` holds for
  whatever the generator yields. `rand_integer` is `abs` of four such bytes read as
  an `int`; C's `abs(INT_MIN)` is `INT_MIN`, and the value keeps its sign until a
  caller converts it to `size_t` (`sizeT`).
-/

import ShadowsocksR.Lib.Bytes

namespace ShadowsocksR

/-- The crypto library's functions the plugins call: `ss_md5_hash_func`,
`ss_sha1_hash_func`, `ss_md5_hmac_with_key` and `ss_sha1_hmac_with_key` (key first),
and AES-128 in CBC mode with a zero IV on one 16-byte block (`ss_aes_128_cbc_encrypt`
and `ss_aes_128_cbc_decrypt`, key first). -/
structure Crypto where
  md5 : List UInt8 → Vector UInt8 16
  sha1 : List UInt8 → Vector UInt8 20
  hmacMd5 : List UInt8 → List UInt8 → Vector UInt8 16
  hmacSha1 : List UInt8 → List UInt8 → Vector UInt8 20
  aes128CbcEncrypt : Vector UInt8 16 → Vector UInt8 16 → Vector UInt8 16
  aes128CbcDecrypt : Vector UInt8 16 → Vector UInt8 16 → Vector UInt8 16

/-- A digest known only on the messages a given run asks for, as a table of the values the
library returns for them (0 elsewhere): the shape of the functions that instantiate a
`Crypto` at a concrete run. -/
def tableDigest {n : Nat} (t : List (List UInt8 × Vector UInt8 n)) (m : List UInt8) :
    Vector UInt8 n :=
  (t.lookup m).getD (Vector.replicate n 0)

/-- A keyed digest known on the key and message pairs of a table. -/
def tableKeyed {n : Nat} (t : List ((List UInt8 × List UInt8) × Vector UInt8 n))
    (k m : List UInt8) : Vector UInt8 n :=
  (t.lookup (k, m)).getD (Vector.replicate n 0)

/-- The bytes `rand_bytes` hands out, from the cursor `pos` on. -/
structure Entropy where
  src : Nat → UInt8
  pos : Nat

/-- `rand_bytes(output, n)`. -/
def randBytes (e : Entropy) (n : Nat) : List UInt8 × Entropy :=
  ((List.range n).map (fun i => e.src (e.pos + i)), ⟨e.src, e.pos + n⟩)

@[simp] theorem randBytes_length (e : Entropy) (n : Nat) : (randBytes e n).1.length = n := by
  simp [randBytes]

/-- `rand_bytes` into a fixed-size array. -/
def randVector (e : Entropy) (n : Nat) : Vector UInt8 n × Entropy :=
  (⟨(randBytes e n).1.toArray, by simp⟩, (randBytes e n).2)

/-- Four bytes read as a little-endian `int`. -/
def int32OfBytes (b : List UInt8) : Int :=
  let u := (Bytes.rdLe32 b 0).toNat
  if u < 2 ^ 31 then u else (u : Int) - 2 ^ 32

/-- `rand_integer`: `abs` of a random `int`; `abs(INT_MIN)` stays `INT_MIN`. -/
def randInteger (e : Entropy) : Int × Entropy :=
  let (b, e) := randBytes e 4
  let v := int32OfBytes b
  (if v = -2 ^ 31 then v else v.natAbs, e)

/-- An `int` converted to `size_t`: modulo `2 ^ 64`. -/
def sizeT (i : Int) : Nat := (i % 2 ^ 64).toNat

end ShadowsocksR
