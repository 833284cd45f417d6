/-
  ShadowsocksR.Obfs.AuthSimple — what the `auth_*` protocols of `auth.c` share: the
  process-wide client id and connection counter (`auth_simple_global_data`), the per-
  connection state (`auth_simple_local_data`), and the escaped padding length every frame
  carries.

  A frame's random padding starts with its own length: one byte when it is below 128,
  else `FF` and the length in two bytes (big-endian in `auth_sha1_v4`, little-endian in
  `auth_aes128_*`). A receiver reads the byte, and where it is 255 reads the two after it.
  `padEnd_padField` says the receiver finds the end of the padding the sender wrote, for
  every length from 1 to 65535 and either byte order; the frame proofs of both protocols
  use it.
-/

import ShadowsocksR.Crypto
import ShadowsocksR.Lib.CString
import ShadowsocksR.Obfs.ObfsUtil

namespace ShadowsocksR

open Bytes CString

/-! ## The state -/

/-- `auth_simple_global_data`: the client id sent in every header, and the counter of
connections. -/
structure AuthGlobal where
  localClientId : Vector UInt8 8
  connectionId : UInt32

/-- `auth_simple_pack_unit_size`: the longest data a client frame carries. -/
def authSimplePackUnitSize : Nat := 2000

/-- The longest frame the `auth_sha1_v4` and `auth_aes128_*` senders write: a data frame of
2000 bytes, whose padding is a single byte. -/
def maxFrameLength : Nat := 2009

/-- `auth_simple_init_data`: a random client id, and a random 24-bit counter. -/
def authSimpleInitData (entropy : Entropy) : AuthGlobal × Entropy :=
  let (id, entropy) := randVector entropy 8
  let (c, entropy) := randBytes entropy 4
  (⟨id, rdLe32 c 0 &&& 0xFFFFFF⟩, entropy)

/-- The counter update of a header (`++global->connection_id`): near the top of its range
it starts again from a fresh random id and counter. -/
def nextConnectionId (g : AuthGlobal) (entropy : Entropy) : AuthGlobal × Entropy :=
  let g := { g with connectionId := g.connectionId + 1 }
  if g.connectionId > 0xFF000000 then authSimpleInitData entropy else (g, entropy)

/-- The digest an `auth_aes128_*` connection keys its frames with (`local->hmac`,
`local->hash`, `local->hash_len`, set by its `*_new_obfs` and never changed); the other
protocols leave them `NULL` and never call them. -/
inductive AuthDigest where
  | md5
  | sha1
  deriving DecidableEq, Repr

/-- `local->hmac(hash, msg, key)`, as the bytes it writes. -/
def AuthDigest.hmac (crypto : Crypto) : AuthDigest → List UInt8 → List UInt8 → List UInt8
  | .md5, key, msg => (crypto.hmacMd5 key msg).toList
  | .sha1, key, msg => (crypto.hmacSha1 key msg).toList

/-- `local->hash(hash, msg, len)`. -/
def AuthDigest.hash (crypto : Crypto) : AuthDigest → List UInt8 → List UInt8
  | .md5, msg => (crypto.md5 msg).toList
  | .sha1, msg => (crypto.sha1 msg).toList

/-- `local->hash_len`. -/
def AuthDigest.hashLen : AuthDigest → Nat
  | .md5 => 16
  | .sha1 => 20

@[simp] theorem AuthDigest.hmac_length (crypto : Crypto) (d : AuthDigest) (key msg : List UInt8) :
    (d.hmac crypto key msg).length = d.hashLen := by
  cases d <;> simp [AuthDigest.hmac, AuthDigest.hashLen]

/-- Every digest is long enough for the six bytes a header takes of it. -/
theorem AuthDigest.six_le_hashLen (d : AuthDigest) : 6 ≤ d.hashLen := by
  cases d <;> decide

/-- `auth_simple_local_data`, the fields the modelled protocols read. `recv_buffer` is its
contents, `user_key` the key the frames are keyed with once the header is built, `uid`
the four bytes of user id the `auth_aes128` header carries. The digest functions are the
protocol's (`AuthDigest`), passed to its functions. -/
structure AuthSimpleLocal where
  hasSentHeader : Bool
  recvBuffer : List UInt8
  recvId : UInt32
  packId : UInt32
  salt : List UInt8
  userKey : List UInt8
  uid : Vector UInt8 4
  lastDataLen : Nat
  unitLen : Nat
  hasRecvHeader : Bool
  extraWaitSize : Nat
  maxTimeDif : Nat
  clientId : UInt32
  connectionId : UInt32

/-- `auth_simple_local_data_init`, with the salt the protocol's `*_new_obfs` then sets.
`uid` is not initialised by the code; it is never read before the first header sets it. -/
def authSimpleLocalDataInit (salt : List UInt8) (entropy : Entropy) : AuthSimpleLocal × Entropy :=
  let (w, entropy) := randBytes entropy 2
  ({ hasSentHeader := false, recvBuffer := [], recvId := 1, packId := 1, salt := salt,
     userKey := [], uid := #v[0, 0, 0, 0], lastDataLen := 0,
     unitLen := 2000, hasRecvHeader := false, extraWaitSize := rdLe16 w 0 % 1024,
     maxTimeDif := 60 * 60 * 24, clientId := 0, connectionId := 0 }, entropy)

/-- `abs((int)time(NULL) - (int)utc_time)`, both read as `int`. -/
def timeDif (now utcTime : UInt32) : Nat := (now.toInt32.toInt - utcTime.toInt32.toInt).natAbs

/-- A server's state after a header sent with the process-wide ids `global`: the ids it
carries, and that it has come. -/
def afterHeader (s : AuthSimpleLocal) (global : AuthGlobal) : AuthSimpleLocal :=
  { s with clientId := rdLe32 (global.localClientId.toList.take 4) 0,
           connectionId := global.connectionId, hasRecvHeader := true }

/-- What a receiver's loop goes on from, and what it has buffered: the state with its buffer
taken out, and the buffer. -/
def recvView (ld : AuthSimpleLocal) : AuthSimpleLocal × List UInt8 :=
  ({ ld with recvBuffer := [] }, ld.recvBuffer)

theorem recvBuffer_nil_eq {ld : AuthSimpleLocal} (h : ld.recvBuffer = []) :
    { ld with recvBuffer := [] } = ld := by
  cases ld
  subst h
  rfl

theorem recvView_of_empty {ld : AuthSimpleLocal} (h : ld.recvBuffer = []) :
    recvView ld = (ld, []) := by
  rw [recvView, recvBuffer_nil_eq h, h]

/-! ## The user key -/

/-- The user key and id a header goes out with (the `local->user_key->len == 0` branch of
the `*_pack_auth_data` functions): from a `uid:password` parameter the id `strtol` reads
before the colon and `keyOf` of the password; where that leaves no key, a random id and the
server's key. Once set they are kept. -/
def userKeyOf (keyOf : List UInt8 → List UInt8) (server : ServerInfo) (ld : AuthSimpleLocal)
    (entropy : Entropy) : List UInt8 × Vector UInt8 4 × Entropy :=
  if ld.userKey.length = 0 then
    let (key, uid) : List UInt8 × Vector UInt8 4 :=
      match server.param with
      | some param =>
        match strchr param 0x3a with
        | some i =>
          (keyOf (cstr (param.drop (i + 1))), le32Vec (UInt32.ofInt (strtol10 (param.take i))))
        | none => ([], ld.uid)
      | none => ([], ld.uid)
    if key.length = 0 then
      let (uid, entropy) := randVector entropy 4
      (server.key, uid, entropy)
    else (key, uid, entropy)
  else (ld.userKey, ld.uid, entropy)

/-- Without a colon in the parameter the header goes out with the server's key. -/
theorem userKeyOf_of_no_colon (keyOf : List UInt8 → List UInt8) {server : ServerInfo}
    (hparam : ∀ p, server.param = some p → strchr p 0x3a = none) {ld : AuthSimpleLocal}
    (hkey : ld.userKey = []) (entropy : Entropy) :
    (userKeyOf keyOf server ld entropy).1 = server.key := by
  unfold userKeyOf
  rw [hkey, if_pos List.length_nil]
  cases hp : server.param with
  | none => rfl
  | some p => simp only [hparam p hp]; rfl

/-! ## The header's AES key -/

/-- `bytes_to_key_with_size(pass, len, md, 16)`: the MD5 of the pass (the loop that extends
the key runs only past 16 bytes). -/
def bytesToKey16 (crypto : Crypto) (pass : List UInt8) : Vector UInt8 16 := crypto.md5 pass

/-! ## Base64 -/

/-- `basis_64`. -/
def basis64 : List UInt8 :=
  ascii "ABCDEFGHIJKLMNOPQRSTUVWXYZabcdefghijklmnopqrstuvwxyz0123456789+/"

/-- The character of `basis_64` for a six-bit value. -/
def b64 (x : UInt8) : UInt8 := byteAt basis64 x.toNat

/-- `std_base64_encode`: every three bytes as four characters, the last one or two bytes
padded with `=`. -/
def stdBase64Encode : List UInt8 → List UInt8
  | a :: b :: c :: rest =>
    [b64 (a >>> 2), b64 (((a &&& 3) <<< 4) ||| (b >>> 4)), b64 (((b &&& 0xF) <<< 2) ||| (c >>> 6)),
      b64 (c &&& 0x3F)] ++ stdBase64Encode rest
  | [a, b] => [b64 (a >>> 2), b64 (((a &&& 3) <<< 4) ||| (b >>> 4)), b64 ((b &&& 0xF) <<< 2), 0x3d]
  | [a] => [b64 (a >>> 2), b64 ((a &&& 3) <<< 4), 0x3d, 0x3d]
  | [] => []

example : stdBase64Encode (ascii "key") = ascii "a2V5" := by decide
example : stdBase64Encode (ascii "ke") = ascii "a2U=" := by decide

/-! ## The padding length -/

/-- The padding a sender writes at the start of a frame's random bytes `raw`: its length
`randLen` in one byte below 128, else `FF` and the length as `wide` writes it. -/
def padField (wide : Nat → List UInt8) (randLen : Nat) (raw : List UInt8) : List UInt8 :=
  if randLen < 128 then randLen.toUInt8 :: raw.drop 1 else 0xFF :: wide randLen ++ raw.drop 3

/-- Where a receiver finds a frame's data, from the padding length field at `k`: the byte
there, or where it is 255 the two after it as `rd` reads them, plus `k`. -/
def padEnd (rd : List UInt8 → Nat → Nat) (buffer : List UInt8) (k : Nat) : Nat :=
  let pos := (byteAt buffer k).toNat
  if pos < 255 then pos + k else rd buffer (k + 1) + k

theorem padField_length {wide : Nat → List UInt8} (hw : ∀ x, (wide x).length = 2)
    {randLen : Nat} {raw : List UInt8} (hpos : 1 ≤ randLen) (hraw : raw.length = randLen) :
    (padField wide randLen raw).length = randLen := by
  unfold padField
  split
  · simp only [List.length_cons, List.length_drop, hraw]; omega
  · simp only [List.length_cons, List.length_append, hw, List.length_drop, hraw]; omega

section PadEnd

variable {wide : Nat → List UInt8} {rd : List UInt8 → Nat → Nat}

/-- The receiver finds the end of the padding the sender wrote, when `rd` reads back what
`wide` writes. -/
theorem padEnd_padField
    (hrd : ∀ pre post x, x < 2 ^ 16 → rd (pre ++ wide x ++ post) pre.length = x)
    (pre post raw : List UInt8) {randLen : Nat} (hpos : 1 ≤ randLen) (hlt : randLen < 2 ^ 16)
    (hraw : raw.length = randLen) :
    padEnd rd (pre ++ padField wide randLen raw ++ post) pre.length = randLen + pre.length := by
  unfold padEnd padField
  by_cases hsmall : randLen < 128
  case pos =>
    -- one byte: the length itself, below 255
    have hb : byteAt (pre ++ (randLen.toUInt8 :: raw.drop 1) ++ post) pre.length =
        randLen.toUInt8 := by
      have := byteAt_append_field pre (randLen.toUInt8 :: raw.drop 1) post (i := 0) (by simp)
      simpa using this
    have hval : randLen.toUInt8.toNat = randLen := by
      rw [Nat.toUInt8_eq, UInt8.toNat_ofNat']; omega
    rw [if_pos hsmall, hb, hval, if_pos (by omega)]
  case neg =>
    -- `FF`, then the length as `wide` writes it
    have hb : byteAt (pre ++ (0xFF :: wide randLen ++ raw.drop 3) ++ post) pre.length = 0xFF := by
      have := byteAt_append_field pre (0xFF :: wide randLen ++ raw.drop 3) post (i := 0) (by simp)
      simpa using this
    have hwide : rd (pre ++ (0xFF :: wide randLen ++ raw.drop 3) ++ post) (pre.length + 1) =
        randLen := by
      have := hrd (pre ++ [0xFF]) (raw.drop 3 ++ post) randLen hlt
      simpa [List.append_assoc] using this
    rw [if_neg hsmall, hb, hwide]
    rfl

end PadEnd

end ShadowsocksR
