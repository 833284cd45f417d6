/-
  ShadowsocksR.Obfs.AuthChain.Tcp — auth_chain's TCP stream (`auth_chain.c`:
  `get_rand_start_pos`, `auth_chain_a_rnd_data`, `auth_chain_a_pack_client_data`,
  `auth_chain_a_pack_server_data`, `auth_chain_a_pack_auth_data`,
  `auth_chain_a_client_pre_encrypt`, `auth_chain_a_client_post_decrypt`,
  `auth_chain_a_server_pre_encrypt`, `auth_chain_a_server_post_decrypt`), for all six
  variants.

  A frame is `len | padding | data | padding | mac`: the data's length in two bytes,
  little-endian, XORed with the last two bytes of the previous frame's hash; the data,
  RC4-encrypted, at a random position in `rand_len` bytes of padding; and two bytes of the
  HMAC-MD5 of all of it under the user key and the frame's number. The hash becomes the next
  frame's, and `rand_len` and the position are drawn from a generator seeded by that hash and
  the data's length (`get_tcp_rand_len`, the variant's; `DataSize`), so both ends draw
  them alike. A variant's function is a `TcpRandLen`: it carries what both ends rely on,
  that the length it draws does not depend on the generator it is handed, nor anything at
  all once it pads.

  The receivers buffer what arrives and cut frames off the front (`Framing.drainAll` of
  `serverStep`, `clientStep`). The client's loop runs while more than four bytes are
  buffered. The server's runs while any byte is: with one byte buffered it reads the
  length's second byte from `recv_buffer->buffer[1]`, past the data, where `buffer_shorten`
  wrote its terminating 0 or the last cut frame's byte stayed, and takes a length of 4096 or
  more for a bad frame.

  RC4 has no IV, so `ss_encrypt_buffer` and `ss_decrypt_buffer` on `local->cipher` XOR its
  keystream; a context is where it stands in the keystream (`StreamCipher.xorFrom`). The
  keystream of a password is a parameter (`rc4`), as the crypto library's digests are.

  Proved: the client's frame is the masked length, the data at the drawn position in the
  padding, and two bytes of its HMAC (`authChainAPackClientData_spec`); the server, synced with
  the client's context, cuts such a frame followed by anything and hands on its data
  (`serverStep_clientFrame`); and a read ending one byte past a frame is rejected where the
  frame's hash masks the byte left past it to a length of 4096 or more
  (`server_fails_on_one_byte_tail`).
-/

import ShadowsocksR.Crypto
import ShadowsocksR.Lib.CString
import ShadowsocksR.Lib.Framing
import ShadowsocksR.Lib.StreamCipher
import ShadowsocksR.Obfs.AuthSimple
import ShadowsocksR.Obfs.AuthChain.DataSize

namespace ShadowsocksR.AuthChain

open Bytes CString Framing StreamCipher

/-! ## The padding -/

/-- A padding length as the C computes it without a trap; on a trap (which the size lists
`set_server_info` builds never reach) no padding and the generator left. -/
def orZero (x : Except Trap (Nat × Shift128)) (random : Shift128) : Nat × Shift128 :=
  match x with
  | .ok p => p
  | .error _ => (0, random)

@[simp] theorem orZero_pure (p : Nat × Shift128) (random : Shift128) : orZero (pure p) random = p :=
  rfl

/-- For each length and hash, a variant's padding function either pads nothing and leaves the
generator as it was, or ignores the generator it is given (it reseeds it first). -/
def Reseeds (f : Nat → Shift128 → List UInt8 → Except Trap (Nat × Shift128)) : Prop :=
  ∀ datalength lastHash, (∀ random, f datalength random lastHash = pure (0, random)) ∨
    ∀ random random', f datalength random lastHash = f datalength random' lastHash

/-- `local->get_tcp_rand_len` of a variant, with the size lists and the overhead it reads
fixed: the padding length and the generator after it. Both ends of a connection hold their
own generator, so what they rely on is part of the structure: the length drawn does not
depend on the generator handed in, nothing does once there is padding, and a frame under
4096 bytes stays under 4096. -/
structure TcpRandLen where
  run : Nat → Shift128 → List UInt8 → Nat × Shift128
  fst_indep : ∀ datalength random random' lastHash,
    (run datalength random lastHash).1 = (run datalength random' lastHash).1
  indep_of_pos : ∀ datalength random random' lastHash, 0 < (run datalength random lastHash).1 →
    run datalength random' lastHash = run datalength random lastHash
  ok : ∀ datalength random lastHash, RandLenOk datalength (run datalength random lastHash).1

/-- A variant's `get_rand_len` that reseeds and never traps. -/
def TcpRandLen.ofExcept (f : Nat → Shift128 → List UInt8 → Except Trap (Nat × Shift128))
    (hf : Reseeds f)
    (hok : ∀ datalength random lastHash, ∃ r random',
      f datalength random lastHash = pure (r, random') ∧ RandLenOk datalength r) : TcpRandLen where
  run datalength random lastHash := orZero (f datalength random lastHash) random
  fst_indep datalength random random' lastHash := by
    rcases hf datalength lastHash with h0 | hind
    · rw [h0 random, h0 random', orZero_pure, orZero_pure]
    · obtain ⟨r, s, hr, -⟩ := hok datalength random' lastHash
      rw [hind random random', hr, orZero_pure, orZero_pure]
  indep_of_pos datalength random random' lastHash hpos := by
    rcases hf datalength lastHash with h0 | hind
    · rw [h0 random, orZero_pure] at hpos
      exact absurd hpos (Nat.lt_irrefl 0)
    · obtain ⟨r, s, hr, -⟩ := hok datalength random lastHash
      rw [hind random' random, hr, orZero_pure, orZero_pure]
  ok datalength random lastHash := by
    obtain ⟨r, s, hr, hok⟩ := hok datalength random lastHash
    rw [hr, orZero_pure]
    exact hok

/-- `auth_chain_a_get_rand_len`. -/
def aTcpRandLen : TcpRandLen :=
  .ofExcept (fun datalength random lastHash => pure (authChainAGetRandLen datalength random lastHash))
    (by
      intro datalength lastHash
      by_cases h : datalength > 1440
      · exact .inl fun random => by simp [authChainAGetRandLen, h]
      · exact .inr fun random random' => by simp [authChainAGetRandLen, h])
    (fun datalength random lastHash => ⟨_, _, rfl, authChainAGetRandLen_ok datalength random lastHash⟩)

/-- `auth_chain_b_get_rand_len`, over lists `auth_chain_b_init_data_size` builds. -/
def bTcpRandLen (b : AuthChainB) (h1 : SizeList b.dataSizeList) (h2 : SizeList b.dataSizeList2)
    (overhead : Nat) : TcpRandLen :=
  .ofExcept (authChainBGetRandLen b overhead)
    (by
      intro datalength lastHash
      by_cases h : datalength ≥ 1440
      · exact .inl fun random => by simp [authChainBGetRandLen, h]
      · exact .inr fun random random' => by simp only [authChainBGetRandLen, if_neg h])
    (authChainBGetRandLen_ok h1 h2 overhead)

/-- `auth_chain_c_get_rand_len`, over a list `auth_chain_c_init_data_size` builds. -/
def cTcpRandLen (list0 : List Int) (h : SizeList list0) (overhead : Nat) : TcpRandLen :=
  .ofExcept (authChainCGetRandLen list0 overhead)
    (fun _ _ => .inr fun _ _ => rfl) (authChainCGetRandLen_ok h overhead)

/-- `auth_chain_d_get_rand_len`, over a list `auth_chain_d_init_data_size` builds. -/
def dTcpRandLen (list0 : List Int) (h : SizeList list0) (overhead : Nat) : TcpRandLen :=
  .ofExcept (authChainDGetRandLen list0 overhead)
    (by
      intro datalength lastHash
      obtain ⟨v, hv⟩ : ∃ v, listAt list0 (sizeSub list0.length 1) = pure v :=
        ⟨_, by rw [h.sizeSub_last, listAt_of_lt h.last_lt]⟩
      by_cases hl : (datalength + overhead : Int) ≥ v
      · exact .inl fun random => by simp [authChainDGetRandLen, hv, hl]
      · exact .inr fun random random' => by simp [authChainDGetRandLen, hv, hl])
    (authChainDGetRandLen_ok h overhead)

/-- `auth_chain_e_get_rand_len`, over a list `auth_chain_d_init_data_size` builds; `f` pads
as `e` over the list `auth_chain_f_init_data_size` builds. -/
def eTcpRandLen (list0 : List Int) (h : SizeList list0) (overhead : Nat) : TcpRandLen :=
  .ofExcept (authChainEGetRandLen list0 overhead)
    (fun _ _ => .inr fun _ _ => rfl) (authChainEGetRandLen_ok h overhead)

/-! ## The connection -/

/-- The fields of `struct auth_chain_a_context` the TCP stream reads and writes. `keystream`
is `local->cipher`'s (NULL before the header, which comes first at both ends), and
`encryptPos`, `decryptPos` are where `encrypt_ctx` and `decrypt_ctx` stand in it. -/
structure TcpLocal where
  hasSentHeader : Bool
  hasRecvHeader : Bool
  recvBuffer : List UInt8
  /-- `recv_buffer->buffer[1]` while at most one byte is buffered: 0 after `buffer_reset`
  and after a `buffer_shorten` to one byte, which writes its terminating 0 there; after one
  to no bytes, the byte the buffer held there. -/
  recvByte1 : UInt8
  recvId : UInt32
  packId : UInt32
  salt : List UInt8
  userKey : List UInt8
  uid : Vector UInt8 4
  lastDataLen : Nat
  lastClientHash : List UInt8
  lastServerHash : List UInt8
  randomClient : Shift128
  randomServer : Shift128
  keystream : Nat → UInt8
  encryptPos : Nat
  decryptPos : Nat
  userIdNum : UInt32
  clientOverHead : Nat
  unitLen : Nat
  maxTimeDif : Nat
  clientId : UInt32
  connectionId : UInt32

/-- `struct obfs_t` of a connection: its `server_info_t` and its context. -/
structure ChainObfs where
  server : ServerInfo
  ld : TcpLocal

/-- `struct auth_chain_global_data`, the process-wide ids. -/
structure ChainGlobal where
  localClientId : Vector UInt8 4
  connectionId : UInt32

/-- `auth_chain_a_context_init` with the salt of a variant's `*_new_obfs`, in the context
`calloc` zeroed. -/
def authChainAContextInit (salt : List UInt8) : TcpLocal where
  hasSentHeader := false
  hasRecvHeader := false
  recvBuffer := []
  recvByte1 := 0
  recvId := 1
  packId := 1
  salt := salt
  userKey := []
  uid := Vector.replicate 4 0
  lastDataLen := 0
  lastClientHash := List.replicate 16 0
  lastServerHash := List.replicate 16 0
  randomClient := ⟨0, 0⟩
  randomServer := ⟨0, 0⟩
  keystream := fun _ => 0
  encryptPos := 0
  decryptPos := 0
  userIdNum := 0
  clientOverHead := 0
  unitLen := 0
  maxTimeDif := 60 * 60 * 24
  clientId := 0
  connectionId := 0

/-! ## Frames -/

/-- `get_rand_start_pos(rand_len, random)`: where the data starts in the padding. -/
def getRandStartPos (randLen : Nat) (random : Shift128) : Nat × Shift128 :=
  if randLen > 0 then
    let (r, random) := shift128plusNext random
    (r.toNat % 8589934609 % randLen, random)
  else (0, random)

/-- The key of frame number `id`: the user key, then the number, little-endian. -/
def frameKey (userKey : List UInt8) (id : UInt32) : List UInt8 := userKey ++ le32 id

/-- A frame's first two bytes: the data's length, little-endian, XORed with the last two
bytes of the previous frame's hash. -/
def maskLength (datalength : Nat) (lastHash : List UInt8) : List UInt8 :=
  [datalength.toUInt8 ^^^ byteAt lastHash 14, (datalength >>> 8).toUInt8 ^^^ byteAt lastHash 15]

/-- The length both receivers read from a frame's first two bytes `b0 b1`. -/
def unmaskLength (b0 b1 : UInt8) (lastHash : List UInt8) : Nat :=
  (b0 ^^^ byteAt lastHash 14).toNat + (b1 ^^^ byteAt lastHash 15).toNat * 256

section Senders

variable (v : TcpRandLen) (crypto : Crypto)

/-- `auth_chain_a_pack_client_data(obfs, data, datalength, outdata)`: the frame, the context
and the `rand_bytes` source after it. `key_len` is a `uint8_t`; no user key reaches 252
bytes. -/
def authChainAPackClientData (ld : TcpLocal) (entropy : Entropy) (data : List UInt8) :
    List UInt8 × TcpLocal × Entropy :=
  let datalength := data.length
  let (randLen, randomClient) := v.run datalength ld.randomClient ld.lastClientHash
  let head := maskLength datalength ld.lastClientHash
  let (rndData, entropy) := randBytes entropy randLen
  let (body, randomClient) :=
    if datalength > 0 then
      let (startPos, randomClient) := getRandStartPos randLen randomClient
      (rndData.take startPos ++ xorFrom ld.keystream ld.encryptPos data ++ rndData.drop startPos,
        randomClient)
    else (rndData, randomClient)
  let hash := (crypto.hmacMd5 (frameKey ld.userKey ld.packId) (head ++ body)).toList
  (head ++ body ++ hash.take 2,
    { ld with randomClient, encryptPos := ld.encryptPos + datalength, packId := ld.packId + 1,
              lastClientHash := hash },
    entropy)

/-- `auth_chain_a_rnd_data(obfs, buf, random, last_hash)`: the data inside its padding, and the
generator and source after it. -/
def authChainARndData (random : Shift128) (lastHash : List UInt8) (entropy : Entropy)
    (buf : List UInt8) : List UInt8 × Shift128 × Entropy :=
  let (randLen, random) := v.run buf.length random lastHash
  let (rndDataBuf, entropy) := randBytes entropy randLen
  if buf.length = 0 then (rndDataBuf, random, entropy)
  else if randLen > 0 then
    let (startPos, random) := getRandStartPos randLen random
    (rndDataBuf.take startPos ++ buf ++ rndDataBuf.drop startPos, random, entropy)
  else (buf, random, entropy)

/-- `auth_chain_a_pack_server_data(obfs, buf)`. -/
def authChainAPackServerData (ld : TcpLocal) (entropy : Entropy) (buf : List UInt8) :
    List UInt8 × TcpLocal × Entropy :=
  let inBuf := xorFrom ld.keystream ld.encryptPos buf
  let (data, randomServer, entropy) := authChainARndData v ld.randomServer ld.lastServerHash entropy inBuf
  let data := maskLength inBuf.length ld.lastServerHash ++ data
  let hash := (crypto.hmacMd5 (frameKey ld.userKey ld.packId) data).toList
  (data ++ hash.take 2,
    { ld with encryptPos := ld.encryptPos + buf.length, randomServer, lastServerHash := hash,
              packId := ld.packId + 1 },
    entropy)

/-- The loop of `auth_chain_a_client_pre_encrypt` past the header: frames of `unit_size`
bytes while more is left, then one for the rest, if any. With a unit of no bytes and data
left the loop never moves on: each pass writes one more frame into the `out_buffer` sized
from `datalength`, until the writes run past its end. -/
def packClientFrames (unitSize : Nat) (ld : TcpLocal) (entropy : Entropy) (data : List UInt8) :
    Except Trap (List UInt8 × TcpLocal × Entropy) :=
  if data.length > unitSize then
    if unitSize = 0 then throw .bufferOverflow
    else do
      let (out, ld, entropy) := authChainAPackClientData v crypto ld entropy (data.take unitSize)
      let (rest, ld, entropy) ← packClientFrames unitSize ld entropy (data.drop unitSize)
      pure (out ++ rest, ld, entropy)
  else if data.length > 0 then pure (authChainAPackClientData v crypto ld entropy data)
  else pure ([], ld, entropy)
termination_by data.length
decreasing_by simp only [List.length_drop]; omega

/-- The loop of `auth_chain_a_server_pre_encrypt`: frames of `unit_len` bytes while more is
left, then one for the rest, sent even when nothing is left. With a unit of no bytes and
something left the loop never ends: each pass concatenates one more frame to `ret` and
`buffer_shorten` leaves `tmp_buf` as it was. `none` is that run, which returns nothing. -/
def packServerFrames (unitLen : Nat) (ld : TcpLocal) (entropy : Entropy) (buf : List UInt8) :
    Option (List UInt8 × TcpLocal × Entropy) :=
  if buf.length > unitLen then
    if unitLen = 0 then none
    else do
      let (out, ld, entropy) := authChainAPackServerData v crypto ld entropy (buf.take unitLen)
      let (rest, ld, entropy) ← packServerFrames unitLen ld entropy (buf.drop unitLen)
      pure (out ++ rest, ld, entropy)
  else some (authChainAPackServerData v crypto ld entropy buf)
termination_by buf.length
decreasing_by simp only [List.length_drop]; omega

/-- `auth_chain_a_server_pre_encrypt(obfs, buf)`: the first call puts `server->tcp_mss` in
front and sets `unit_len` from it and the client's overhead; `none` where the loop never
returns. -/
def authChainAServerPreEncrypt (o : ChainObfs) (entropy : Entropy) (buf : List UInt8) :
    Option (List UInt8 × ChainObfs × Entropy) := do
  let (tmpBuf, ld) :=
    if o.ld.packId = 1 then
      (le16 o.server.tcpMss ++ buf, { o.ld with unitLen := sizeSub o.server.tcpMss o.ld.clientOverHead })
    else (buf, o.ld)
  let (ret, ld, entropy) ← packServerFrames v crypto ld.unitLen ld entropy tmpBuf
  pure (ret, { o with ld }, entropy)

/-- The user key and id the client's header goes out with (the `local->user_key->len == 0`
branch of `auth_chain_a_pack_auth_data`): from a `uid:password` parameter the id `strtol`
reads before the colon, copied into `char uid_str[16]`, and the password, copied into
`char key_str[128]`; a longer id or password is a write past its buffer. Where that leaves
no key, a random id and the server's key. Once set they are kept. -/
def authChainUserKey (server : ServerInfo) (ld : TcpLocal) (entropy : Entropy) :
    Except Trap (List UInt8 × Vector UInt8 4 × Entropy) := do
  if ld.userKey.length ≠ 0 then return (ld.userKey, ld.uid, entropy)
  let (key, uid) ← match server.param with
    | some param =>
      if byteAt param 0 = 0 then pure ([], ld.uid)
      else
        match strchr param 0x3a with
        | some i =>
          if 16 ≤ i ∨ 128 < strlen (param.drop (i + 1)) + 1 then throw .bufferOverflow
          else pure (cstr (param.drop (i + 1)), le32Vec (UInt32.ofInt (strtol10 (param.take i))))
        | none => pure ([], ld.uid)
    | none => pure ([], ld.uid)
  if key.length = 0 then
    let (uid, entropy) := randVector entropy 4
    return (server.key, uid, entropy)
  return (key, uid, entropy)

/-- `auth_chain_a_pack_auth_data(obfs, data, datalength, outdata)` at the time `now`, with
`rc4` the keystream of a password: the 36-byte header, then the first frame. The header's
key, `char encrypt_key_base64[256]` and `char password[256]` are written past where the
server's key or the user key is too long. -/
def authChainAPackAuthData (rc4 : List UInt8 → Nat → UInt8) (server : ServerInfo)
    (global : ChainGlobal) (now : UInt32) (ld : TcpLocal) (entropy : Entropy) (data : List UInt8) :
    Except Trap (List UInt8 × TcpLocal × ChainGlobal × Entropy) := do
  let global := { global with connectionId := global.connectionId + 1 }
  let (global, entropy) :=
    if global.connectionId > (0xFF000000 : UInt32) then
      -- `rand_bytes(global->local_client_id, 8)` fills the id and the `connection_id` after
      -- it, which is then drawn again
      let (ids, entropy) := randBytes entropy 8
      let (conn, entropy) := randBytes entropy 4
      (⟨Vector.ofFn fun i => byteAt ids i.val, rdLe32 conn 0 &&& 0xFFFFFF⟩, entropy)
    else (global, entropy)
  if 255 < server.iv.length + server.key.length then throw .bufferOverflow
  let key := server.iv ++ server.key
  let encrypt := le32 now ++ global.localClientId.toList ++ le32 global.connectionId ++
    [server.overhead.toUInt8, (server.overhead >>> 8).toUInt8, 0, 0]
  let (r4, entropy) := randBytes entropy 4
  let lastClientHash := (crypto.hmacMd5 key r4).toList
  let (userKey, uid, entropy) ← authChainUserKey server ld entropy
  let uidMasked := (List.range 4).map fun i => byteAt uid.toList i ^^^ byteAt lastClientHash (8 + i)
  let keyBase64 := stdBase64Encode userKey
  if 256 < keyBase64.length + ld.salt.length ∨ 256 < keyBase64.length + 25 then throw .bufferOverflow
  let encKey := bytesToKey16 crypto (keyBase64 ++ ld.salt)
  let encryptData := crypto.aes128CbcEncrypt encKey (Vector.ofFn fun i => byteAt encrypt i.val)
  let encrypt := uidMasked ++ encryptData.toList
  let lastServerHash := (crypto.hmacMd5 userKey encrypt).toList
  let password := keyBase64 ++ stdBase64Encode lastClientHash
  let ld := { ld with userKey, uid, lastClientHash, lastServerHash, keystream := rc4 password,
                      encryptPos := 0, decryptPos := 0 }
  let (frame, ld, entropy) := authChainAPackClientData v crypto ld entropy data
  pure (r4 ++ lastClientHash.take 8 ++ encrypt ++ lastServerHash.take 4 ++ frame, ld, global, entropy)

/-- `auth_chain_a_client_pre_encrypt(obfs, &plaindata, datalength, &capacity)` at the time
`now`: on the first call with data the header carrying its first 1200 bytes, then frames of
`unit_size = tcp_mss - overhead` bytes. -/
def authChainAClientPreEncrypt (rc4 : List UInt8 → Nat → UInt8) (global : ChainGlobal)
    (now : UInt32) (o : ChainObfs) (entropy : Entropy) (plaindata : List UInt8) :
    Except Trap (List UInt8 × ChainObfs × ChainGlobal × Entropy) := do
  let (head, data, ld, global, entropy) ←
    if plaindata.length > 0 ∧ o.ld.hasSentHeader = false then do
      let headSize := min 1200 plaindata.length
      let (out, ld, global, entropy) ←
        authChainAPackAuthData v crypto rc4 o.server global now o.ld entropy (plaindata.take headSize)
      pure (out, plaindata.drop headSize, { ld with hasSentHeader := true }, global, entropy)
    else pure ([], plaindata, o.ld, global, entropy)
  let (frames, ld, entropy) ←
    packClientFrames v crypto (sizeSub o.server.tcpMss o.server.overhead) ld entropy data
  pure (head ++ frames, { o with ld := { ld with lastDataLen := plaindata.length } }, global, entropy)

end Senders

/-! ## Receivers -/

section Receivers

variable (v : TcpRandLen) (crypto : Crypto)

/-- One pass of the loop of `auth_chain_a_client_post_decrypt`, which runs on more than four
buffered bytes: the frame's data (the first frame's first two bytes go to
`server->tcp_mss`), a wait, or an error that empties the buffer. -/
def clientStep (o : ChainObfs) (buffer : List UInt8) : Step ChainObfs UInt8 (List UInt8) :=
  if buffer.length ≤ 4 then .more o
  else
    let ld := o.ld
    let dataLen := unmaskLength (byteAt buffer 0) (byteAt buffer 1) ld.lastServerHash
    let (randLen, randomServer) := v.run dataLen ld.randomServer ld.lastServerHash
    let o := { o with ld := { ld with randomServer } }
    let len := randLen + dataLen
    if len ≥ ssrBuffSize * 2 then .fail o []
    else if len + 4 > buffer.length then .more o
    else
      let hash := (crypto.hmacMd5 (frameKey ld.userKey ld.recvId) (buffer.take (len + 2))).toList
      if hash.take 2 ≠ (buffer.drop (len + 2)).take 2 then .fail o []
      else
        let (pos, randomServer) :=
          if dataLen > 0 ∧ randLen > 0 then
            let (startPos, randomServer) := getRandStartPos randLen randomServer
            (2 + startPos, randomServer)
          else (2, randomServer)
        let out := xorFrom ld.keystream ld.decryptPos ((buffer.drop pos).take dataLen)
        let (out, tcpMss) :=
          if ld.recvId = 1 then (out.drop 2, rdLe16 out 0) else (out, o.server.tcpMss)
        .frame (len + 4) out
          { server := { o.server with tcpMss },
            ld := { ld with randomServer, decryptPos := ld.decryptPos + dataLen,
                            lastServerHash := hash, recvId := ld.recvId + 1 } }

/-- `auth_chain_a_client_post_decrypt(obfs, &plaindata, datalength, &capacity)`: `-1`
(`none`) when the read would fill the receive buffer past its 16384 bytes or a frame is
bad, else the frames' data. -/
def authChainAClientPostDecrypt (o : ChainObfs) (plaindata : List UInt8) :
    ChainObfs × Option (List UInt8) :=
  if o.ld.recvBuffer.length + plaindata.length > 16384 then (o, none)
  else
    let r := drainAll (clientStep v crypto) { o with ld := { o.ld with recvBuffer := [] } }
      (o.ld.recvBuffer ++ plaindata)
    ({ r.state with ld := { r.state.ld with recvBuffer := r.rest } },
      if r.ok then some r.out.flatten else none)

/-- One pass of the data loop of `auth_chain_a_server_post_decrypt`, which runs while any byte
is buffered: the frame's data and whether it carried none (`need_feedback`), a wait, or a
rejection that resets the buffer. With one byte buffered the length's second byte is
`recv_buffer->buffer[1]` past it. -/
def serverStep (s : TcpLocal) (buffer : List UInt8) : Step TcpLocal UInt8 (List UInt8 × Bool) :=
  if buffer.length = 0 then .more s
  else
    let dataLen := unmaskLength (byteAt buffer 0)
      (if buffer.length = 1 then s.recvByte1 else byteAt buffer 1) s.lastClientHash
    let (randLen, randomClient) := v.run dataLen s.randomClient s.lastClientHash
    let s := { s with randomClient }
    let length := dataLen + randLen
    if length ≥ 4096 then .fail { s with recvByte1 := 0 } []
    else if length + 4 > buffer.length then .more s
    else
      let clientHash :=
        (crypto.hmacMd5 (frameKey s.userKey s.recvId) (buffer.take (length + 2))).toList
      if clientHash.take 2 ≠ (buffer.drop (length + 2)).take 2 then .fail { s with recvByte1 := 0 } []
      else
        let (pos, randomClient) :=
          if dataLen > 0 ∧ randLen > 0 then
            let (startPos, randomClient) := getRandStartPos randLen randomClient
            (2 + startPos, randomClient)
          else (2, randomClient)
        .frame (length + 4)
          (xorFrom s.keystream s.decryptPos ((buffer.drop pos).take dataLen), dataLen == 0)
          { s with recvId := s.recvId + 1, randomClient, decryptPos := s.decryptPos + dataLen,
                   lastClientHash := clientHash,
                   recvByte1 := if buffer.length - (length + 4) = 1 then 0 else byteAt buffer 1 }

/-- The header branch of `auth_chain_a_server_post_decrypt` on the buffered bytes, at the time
`now`: the context, and whether the header was taken. A failed check returns at once,
keeping what the branch set before it. -/
def authChainAServerHeader (rc4 : List UInt8 → Nat → UInt8) (server : ServerInfo) (now : UInt32)
    (ld : TcpLocal) : TcpLocal × Bool :=
  let recv := ld.recvBuffer
  let len := recv.length
  let md5data := (crypto.hmacMd5 (server.recvIv ++ server.key) (recv.take 4)).toList
  let recvLen := min len 12
  if (len ≥ 12 ∨ len = 7 ∨ len = 8) ∧
      md5data.take (recvLen - 4) ≠ (recv.drop 4).take (recvLen - 4) then (ld, false)
  else if len < 12 + 24 then (ld, false)
  else
    let ld := { ld with lastClientHash := md5data, userIdNum := rdLe32 recv 12 ^^^ rdLe32 md5data 8,
                        userKey := server.key }
    let md5data := (crypto.hmacMd5 ld.userKey ((recv.drop 12).take 20)).toList
    if md5data.take 4 ≠ (recv.drop 32).take 4 then (ld, false)
    else
      let encKey := bytesToKey16 crypto (stdBase64Encode ld.userKey ++ ld.salt)
      let head := (crypto.aes128CbcDecrypt encKey (Vector.ofFn fun i => byteAt recv (16 + i.val))).toList
      let ld := { ld with lastServerHash := md5data, clientOverHead := rdLe16 head 12 }
      if timeDif now (rdLe32 head 0) > ld.maxTimeDif then (ld, false)
      else
        let password := stdBase64Encode ld.userKey ++ stdBase64Encode ld.lastClientHash
        ({ ld with clientId := rdLe32 head 4, connectionId := rdLe32 head 8, recvBuffer := recv.drop 36,
                   recvByte1 := if len - 36 = 1 then 0 else byteAt recv 1, hasRecvHeader := true,
                   keystream := rc4 password, encryptPos := 0, decryptPos := 0 }, true)

/-- `auth_chain_a_server_post_decrypt(obfs, buf, &need_feedback)` at the time `now`:
`out_buf` (`none` for `NULL`) and `*need_feedback`. Until the header is taken it returns an
empty buffer; a bad frame returns `NULL` (an empty buffer while `recv_id` is 0). -/
def authChainAServerPostDecrypt (rc4 : List UInt8 → Nat → UInt8) (now : UInt32) (o : ChainObfs)
    (buf : List UInt8) : ChainObfs × Option (List UInt8) × Bool :=
  let ld := { o.ld with recvBuffer := o.ld.recvBuffer ++ buf }
  let (ld, go, headerFeedback) :=
    if ld.hasRecvHeader then (ld, true, false)
    else
      let (ld, taken) := authChainAServerHeader crypto rc4 o.server now ld
      (ld, taken, taken)
  if go = false then ({ o with ld }, some [], false)
  else
    let r := drainAll (serverStep v crypto) { ld with recvBuffer := [] } ld.recvBuffer
    let ld := { r.state with recvBuffer := r.rest }
    ({ o with ld },
      if r.ok then some (r.out.map (·.1)).flatten else if ld.recvId = 0 then some [] else none,
      headerFeedback || r.out.any (·.2))

end Receivers

/-! ## What the senders write -/

/-- Where a frame's data starts in its `n` bytes of padding: what `get_rand_start_pos` draws
from `r`, when there are data and padding. -/
def startOf (n d : Nat) (r : Shift128) : Nat := if d > 0 ∧ n > 0 then (getRandStartPos n r).1 else 0

/-- A frame before its HMAC: the masked length, then the data `enc` at `st` in the padding. -/
def frameMsg (len : Nat) (lastHash rnd : List UInt8) (st : Nat) (enc : List UInt8) : List UInt8 :=
  maskLength len lastHash ++ (rnd.take st ++ enc ++ rnd.drop st)

/-- The HMAC-MD5 a frame ends with two bytes of, and the next frame follows. -/
def frameHash (crypto : Crypto) (key msg : List UInt8) : List UInt8 := (crypto.hmacMd5 key msg).toList

theorem startOf_of_pos {n d : Nat} (hd : 0 < d) (r : Shift128) :
    startOf n d r = (getRandStartPos n r).1 := by
  unfold startOf getRandStartPos
  by_cases hn : n > 0
  · simp [hd, hn]
  · simp [hn]

theorem startOf_of_zero (n : Nat) (r : Shift128) : startOf n 0 r = 0 := by simp [startOf]

theorem startOf_le (n d : Nat) (r : Shift128) : startOf n d r ≤ n := by
  unfold startOf getRandStartPos
  split
  · next h => simp only [if_pos h.2]; exact le_of_lt (Nat.mod_lt _ h.2)
  · exact Nat.zero_le n

theorem startOf_zero_pad (d : Nat) (r : Shift128) : startOf 0 d r = 0 := by simp [startOf]

theorem unmaskLength_maskLength {d : Nat} (hd : d < 2 ^ 16) (h : List UInt8) :
    unmaskLength (byteAt (maskLength d h) 0) (byteAt (maskLength d h) 1) h = d := by
  simp only [unmaskLength, maskLength, byteAt_cons_zero, byteAt_cons_succ]
  rw [UInt8.xor_assoc, UInt8.xor_self, UInt8.xor_zero, UInt8.xor_assoc, UInt8.xor_self, UInt8.xor_zero]
  simp [Nat.shiftRight_eq_div_pow]
  omega

@[simp] theorem maskLength_length (d : Nat) (h : List UInt8) : (maskLength d h).length = 2 := rfl

@[simp] theorem frameHash_length (crypto : Crypto) (key msg : List UInt8) :
    (frameHash crypto key msg).length = 16 := by
  simp [frameHash]

theorem frameMsg_length {len : Nat} {lastHash rnd : List UInt8} {st : Nat} (hst : st ≤ rnd.length)
    (enc : List UInt8) : (frameMsg len lastHash rnd st enc).length = 2 + rnd.length + enc.length := by
  simp only [frameMsg, List.length_append, maskLength_length, List.length_take, List.length_drop]
  omega

section Frames

variable {len : Nat} {lastHash rnd : List UInt8} {st : Nat} {enc : List UInt8}

theorem frameMsg_append_take (hst : st ≤ rnd.length) (henc : enc.length = len) (rest : List UInt8) :
    (frameMsg len lastHash rnd st enc ++ rest).take (len + rnd.length + 2) =
      frameMsg len lastHash rnd st enc :=
  List.take_left' (by rw [frameMsg_length hst]; omega)

theorem frameMsg_append_drop (hst : st ≤ rnd.length) (henc : enc.length = len) (rest : List UInt8) :
    (frameMsg len lastHash rnd st enc ++ rest).drop (len + rnd.length + 2) = rest :=
  List.drop_left' (by rw [frameMsg_length hst]; omega)

theorem frameMsg_append_data (hst : st ≤ rnd.length) (henc : enc.length = len) (rest : List UInt8) :
    ((frameMsg len lastHash rnd st enc ++ rest).drop (2 + st)).take len = enc := by
  have split : frameMsg len lastHash rnd st enc ++ rest =
      (maskLength len lastHash ++ rnd.take st) ++ (enc ++ (rnd.drop st ++ rest)) := by
    simp [frameMsg]
  rw [split, List.drop_left' (by simp; omega), List.take_left' henc]

theorem frameMsg_append_byteAt {i : Nat} (hi : i < 2) (rest : List UInt8) :
    byteAt (frameMsg len lastHash rnd st enc ++ rest) i = byteAt (maskLength len lastHash) i := by
  rw [frameMsg, List.append_assoc]
  exact byteAt_append_left (by simpa using hi)

end Frames

section Senders

variable (v : TcpRandLen) (crypto : Crypto)

/-- Where the data starts does not depend on the generator either. -/
theorem startOf_run_indep (d : Nat) (random random' : Shift128) (h : List UInt8) :
    startOf (v.run d random' h).1 d (v.run d random' h).2 =
      startOf (v.run d random h).1 d (v.run d random h).2 := by
  by_cases hn : 0 < (v.run d random h).1
  · rw [v.indep_of_pos d random random' h hn]
  · have h0 : (v.run d random h).1 = 0 := by omega
    rw [v.fst_indep d random' random h, h0, startOf_zero_pad, startOf_zero_pad]

/-- `auth_chain_a_pack_client_data` writes a frame of the data after the context's hash: the
padding `rand_bytes` gave, the data encrypted from where the context stands, and its HMAC
under the frame's number, which becomes the context's hash. -/
theorem authChainAPackClientData_spec (ld : TcpLocal) (entropy : Entropy) (data : List UInt8) :
    let p := v.run data.length ld.randomClient ld.lastClientHash
    ∃ rnd random entropy', rnd.length = p.1 ∧
      let msg := frameMsg data.length ld.lastClientHash rnd (startOf p.1 data.length p.2)
        (xorFrom ld.keystream ld.encryptPos data)
      let hash := frameHash crypto (frameKey ld.userKey ld.packId) msg
      authChainAPackClientData v crypto ld entropy data =
        (msg ++ hash.take 2,
         { ld with randomClient := random, encryptPos := ld.encryptPos + data.length,
                   packId := ld.packId + 1, lastClientHash := hash }, entropy') := by
  intro p
  by_cases hd : 0 < data.length
  · refine ⟨(randBytes entropy p.1).1, (getRandStartPos p.1 p.2).2, (randBytes entropy p.1).2,
      randBytes_length _ _, ?_⟩
    simp only [authChainAPackClientData, if_pos hd, startOf_of_pos hd, frameMsg, frameHash, p]
  · obtain rfl : data = [] := List.eq_nil_of_length_eq_zero (by omega)
    refine ⟨(randBytes entropy p.1).1, p.2, (randBytes entropy p.1).2, randBytes_length _ _, ?_⟩
    simp [authChainAPackClientData, startOf_of_zero, frameMsg, frameHash, p]

theorem authChainAPackClientData_length (ld : TcpLocal) (entropy : Entropy) (data : List UInt8) :
    (authChainAPackClientData v crypto ld entropy data).1.length =
      data.length + (v.run data.length ld.randomClient ld.lastClientHash).1 + 4 := by
  obtain ⟨rnd, random, e', hrnd, h⟩ := authChainAPackClientData_spec v crypto ld entropy data
  have hst : startOf (v.run data.length ld.randomClient ld.lastClientHash).1 data.length
      (v.run data.length ld.randomClient ld.lastClientHash).2 ≤ rnd.length := hrnd ▸ startOf_le _ _ _
  rw [h]
  simp only [List.length_append, frameMsg_length hst, xorFrom_length, List.length_take, frameHash_length]
  omega

theorem authChainAPackClientData_packId (ld : TcpLocal) (entropy : Entropy) (data : List UInt8) :
    (authChainAPackClientData v crypto ld entropy data).2.1.packId = ld.packId + 1 := by
  obtain ⟨rnd, random, e', hrnd, h⟩ := authChainAPackClientData_spec v crypto ld entropy data
  rw [h]

/-- Once the header is out, the client's pre-encrypt is its frame loop. -/
theorem authChainAClientPreEncrypt_sent (rc4 : List UInt8 → Nat → UInt8) (global : ChainGlobal)
    (now : UInt32) {o : ChainObfs} (hsent : o.ld.hasSentHeader = true) (entropy : Entropy)
    (plaindata : List UInt8) :
    authChainAClientPreEncrypt v crypto rc4 global now o entropy plaindata =
      (packClientFrames v crypto (sizeSub o.server.tcpMss o.server.overhead) o.ld entropy plaindata).map
        fun p => (p.1, { o with ld := { p.2.1 with lastDataLen := plaindata.length } }, global, p.2.2) := by
  simp only [authChainAClientPreEncrypt, hsent, Bool.true_eq_false, and_false, if_false, pure_bind]
  cases packClientFrames v crypto (sizeSub o.server.tcpMss o.server.overhead) o.ld entropy plaindata <;> rfl

/-- What a pre-encrypt past the header that returns comes from: a run of the frame loop that
returns the same frames, and the client's context it leaves. -/
theorem packClientFrames_of_preEncrypt {rc4 : List UInt8 → Nat → UInt8} {global global' : ChainGlobal}
    {now : UInt32} {o o' : ChainObfs} (hsent : o.ld.hasSentHeader = true) {entropy entropy' : Entropy}
    {plaindata f : List UInt8}
    (hpre : authChainAClientPreEncrypt v crypto rc4 global now o entropy plaindata = .ok (f, o', global', entropy')) :
    ∃ ld', packClientFrames v crypto (sizeSub o.server.tcpMss o.server.overhead) o.ld entropy plaindata =
        .ok (f, ld', entropy') ∧ o' = { o with ld := { ld' with lastDataLen := plaindata.length } } := by
  rw [authChainAClientPreEncrypt_sent v crypto rc4 global now hsent] at hpre
  generalize packClientFrames v crypto (sizeSub o.server.tcpMss o.server.overhead) o.ld entropy plaindata = r
    at hpre ⊢
  rcases r with t | ⟨f₀, ld₀, e₀⟩
  · cases hpre
  · simp only [Except.map, Except.ok.injEq, Prod.mk.injEq] at hpre
    obtain ⟨rfl, rfl, -, rfl⟩ := hpre
    exact ⟨ld₀, rfl, rfl⟩

theorem packClientFrames_single {unitSize : Nat} (ld : TcpLocal) (entropy : Entropy)
    {data : List UInt8} (h0 : 0 < data.length) (hle : data.length ≤ unitSize) :
    packClientFrames v crypto unitSize ld entropy data = .ok (authChainAPackClientData v crypto ld entropy data) := by
  rw [packClientFrames, if_neg (by omega), if_pos h0]
  rfl

end Senders

/-! ## The server's passes -/

/-- The context with its generators and the byte past the buffer dropped: the receivers'
passes depend on neither, except the server's on the byte when one byte is buffered. -/
def TcpLocal.settle (ld : TcpLocal) : TcpLocal :=
  { ld with randomClient := ⟨0, 0⟩, randomServer := ⟨0, 0⟩, recvByte1 := 0 }

@[simp] theorem TcpLocal.settle_settle (ld : TcpLocal) : ld.settle.settle = ld.settle := rfl

/-- What the server's context agrees on with the client's before the client's next frame: the
hash the length is masked with, the frame's number, the key, and where both stand in the
keystream. -/
structure Synced (c s : TcpLocal) : Prop where
  hash : s.lastClientHash = c.lastClientHash
  id : s.recvId = c.packId
  key : s.userKey = c.userKey
  keystream : s.keystream = c.keystream
  pos : s.decryptPos = c.encryptPos

/-- The server's context moved on to where the client's context `c` stands. -/
def TcpLocal.follow (s c : TcpLocal) : TcpLocal :=
  { s with recvId := c.packId, decryptPos := c.encryptPos, lastClientHash := c.lastClientHash }

theorem Synced.settle {c s : TcpLocal} (hs : Synced c s) : Synced c s.settle :=
  ⟨hs.hash, hs.id, hs.key, hs.keystream, hs.pos⟩

section ServerPasses

variable (v : TcpRandLen) (crypto : Crypto)

/-- The server's loop body seen through `settle`. -/
def settledServerStep (s : TcpLocal) (buffer : List UInt8) : Step TcpLocal UInt8 (List UInt8 × Bool) :=
  (serverStep v crypto s buffer).map TcpLocal.settle

theorem serverStep_nil (s : TcpLocal) : serverStep v crypto s [] = .more s := by
  simp [serverStep]

/-- With one byte buffered the length's second byte is the one past it; where that masks to 16
or more the length is 4096 or more, and the pass rejects. -/
theorem serverStep_one_byte {s : TcpLocal} (b : UInt8)
    (hb : 16 ≤ (s.recvByte1 ^^^ byteAt s.lastClientHash 15).toNat) :
    ∃ t, serverStep v crypto s [b] = .fail t [] ∧ t.recvId = s.recvId := by
  unfold serverStep
  rw [if_neg (by simp)]
  simp only [List.length_singleton, if_true, byteAt_cons_zero]
  have hge : 4096 ≤ unmaskLength b s.recvByte1 s.lastClientHash := by
    unfold unmaskLength
    omega
  rw [if_pos (by omega)]
  exact ⟨_, rfl, rfl⟩

theorem serverStep_wait {s : TcpLocal} {buffer : List UInt8} {d n : Nat} {r : Shift128}
    (h2 : 2 ≤ buffer.length)
    (hd : unmaskLength (byteAt buffer 0) (byteAt buffer 1) s.lastClientHash = d)
    (hp : v.run d s.randomClient s.lastClientHash = (n, r)) (hlt : d + n < 4096)
    (hshort : buffer.length < d + n + 4) :
    serverStep v crypto s buffer = .more { s with randomClient := r } := by
  unfold serverStep
  rw [if_neg (by omega), if_neg (by omega), hd]
  simp only [hp]
  rw [if_neg (by omega), if_pos (by omega)]

theorem serverStep_cut {s : TcpLocal} {buffer : List UInt8} {d n : Nat} {r : Shift128}
    (h2 : 2 ≤ buffer.length)
    (hd : unmaskLength (byteAt buffer 0) (byteAt buffer 1) s.lastClientHash = d)
    (hp : v.run d s.randomClient s.lastClientHash = (n, r)) (hlt : d + n < 4096)
    (hlong : d + n + 4 ≤ buffer.length)
    (hmac : (frameHash crypto (frameKey s.userKey s.recvId) (buffer.take (d + n + 2))).take 2 =
      (buffer.drop (d + n + 2)).take 2) :
    serverStep v crypto s buffer =
      .frame (d + n + 4) (xorFrom s.keystream s.decryptPos ((buffer.drop (2 + startOf n d r)).take d), d == 0)
        { s with recvId := s.recvId + 1,
                 randomClient := if d > 0 ∧ n > 0 then (getRandStartPos n r).2 else r,
                 decryptPos := s.decryptPos + d,
                 lastClientHash := frameHash crypto (frameKey s.userKey s.recvId) (buffer.take (d + n + 2)),
                 recvByte1 := if buffer.length - (d + n + 4) = 1 then 0 else byteAt buffer 1 } := by
  unfold serverStep
  rw [if_neg (by omega), if_neg (by omega), hd]
  simp only [hp]
  rw [if_neg (by omega), if_neg (by omega)]
  unfold frameHash at hmac
  rw [if_neg (by simpa using hmac)]
  by_cases hpos : d > 0 ∧ n > 0
  · simp only [if_pos hpos, startOf, frameHash]
  · simp only [if_neg hpos, startOf, frameHash]

/-- The server cuts a frame the client packed from a synced context, whatever follows it, and
hands on its data: it ends where the client's context stands, and past the frame it remembers a 0
when one byte follows, else the frame's second byte. -/
theorem serverStep_clientFrame {c s c' : TcpLocal} {e e' : Entropy} {data f : List UInt8}
    (hs : Synced c s) (hlen : data.length < 4096)
    (hpack : authChainAPackClientData v crypto c e data = (f, c', e')) (r : List UInt8) :
    ∃ random, serverStep v crypto s (f ++ r) =
      .frame f.length (data, data.length == 0)
        { s.follow c' with randomClient := random,
                           recvByte1 := if r.length = 1 then 0 else byteAt f 1 } := by
  obtain ⟨rnd, random, e'', hrnd, hspec⟩ := authChainAPackClientData_spec v crypto c e data
  rw [hpack] at hspec
  simp only [Prod.mk.injEq] at hspec
  obtain ⟨rfl, rfl, -⟩ := hspec
  set d := data.length with hd
  set p := v.run d c.randomClient c.lastClientHash with hp
  have hst : startOf p.1 d p.2 ≤ rnd.length := hrnd ▸ startOf_le _ _ _
  have henc : (xorFrom c.keystream c.encryptPos data).length = d := xorFrom_length _ _ _
  have hok : d + p.1 < 4096 := (v.ok d c.randomClient c.lastClientHash).2 hlen
  obtain ⟨n, r', hrun⟩ : ∃ n r', v.run d s.randomClient s.lastClientHash = (n, r') := ⟨_, _, rfl⟩
  have hrun' : v.run d s.randomClient c.lastClientHash = (n, r') := hs.hash ▸ hrun
  have hn : n = rnd.length := by
    rw [hrnd, hp, v.fst_indep d c.randomClient s.randomClient, hrun']
  have hstart : startOf n d r' = startOf p.1 d p.2 := by
    have h := startOf_run_indep v d c.randomClient s.randomClient c.lastClientHash
    rwa [hrun'] at h
  have hlen' : (frameMsg d c.lastClientHash rnd (startOf p.1 d p.2)
      (xorFrom c.keystream c.encryptPos data)).length = 2 + rnd.length + d := by
    rw [frameMsg_length hst, henc]
  refine ⟨if d > 0 ∧ n > 0 then (getRandStartPos n r').2 else r', ?_⟩
  rw [List.append_assoc]
  rw [serverStep_cut v crypto (d := d) (n := n) (r := r') (by simp [hlen']; omega)
    (by rw [frameMsg_append_byteAt (by omega), frameMsg_append_byteAt (by omega), hs.hash,
      unmaskLength_maskLength (by omega)]) hrun (by omega) (by simp [hlen']; omega)
    (by rw [hn, frameMsg_append_take hst henc, frameMsg_append_drop hst henc, hs.key, hs.id,
      List.take_left' (by simp)])]
  rw [hstart, frameMsg_append_data hst henc, hs.keystream, hs.pos, xorFrom_xorFrom]
  simp only [Step.frame.injEq, TcpLocal.follow, TcpLocal.mk.injEq, true_and, and_true, hs.id, hs.key,
    List.length_append, hlen']
  have h2 : (List.take 2 (frameHash crypto (frameKey c.userKey c.packId) (frameMsg d c.lastClientHash
      rnd (startOf p.1 d p.2) (xorFrom c.keystream c.encryptPos data)))).length = 2 := by simp
  refine ⟨by rw [h2, hn]; omega, ?_, by rw [hn, frameMsg_append_take hst henc], hs.keystream.symm⟩
  rw [h2, frameMsg_append_byteAt (by omega), frameMsg_append_byteAt (by omega),
    show 2 + rnd.length + d + (2 + r.length) - (d + n + 4) = r.length by omega]

/-- Past the header the server's post-decrypt appends the read and drains the buffer. -/
theorem authChainAServerPostDecrypt_of_header (rc4 : List UInt8 → Nat → UInt8) (now : UInt32)
    {o : ChainObfs} (hhead : o.ld.hasRecvHeader = true) (buf : List UInt8) :
    let r := drainAll (serverStep v crypto) { o.ld with recvBuffer := [] } (o.ld.recvBuffer ++ buf)
    authChainAServerPostDecrypt v crypto rc4 now o buf =
      ({ o with ld := { r.state with recvBuffer := r.rest } },
       if r.ok then some (r.out.map (·.1)).flatten else if r.state.recvId = 0 then some [] else none,
       r.out.any (·.2)) := by
  intro r
  unfold authChainAServerPostDecrypt
  dsimp only
  rw [if_pos hhead]
  simp only [Bool.true_eq_false, if_false, Bool.false_or]
  rfl

/-- Past the header, a frame the client's pre-encrypt writes from a synced context comes back
whole when read alone; read with one more byte, the frame's hash masks the byte `buffer_shorten`
left past that byte, and where it masks to 16 or more the whole read returns `NULL`. -/
theorem server_fails_on_one_byte_tail {server : ServerInfo} {oc oc' : ChainObfs} {s : TcpLocal}
    {global global' : ChainGlobal} {now : UInt32} {rc4 : List UInt8 → Nat → UInt8} {e e' : Entropy}
    {data f : List UInt8}
    (hsent : oc.ld.hasSentHeader = true) (h0 : 0 < data.length)
    (hunit : data.length ≤ sizeSub oc.server.tcpMss oc.server.overhead) (hlen : data.length < 4096)
    (hpre : authChainAClientPreEncrypt v crypto rc4 global now oc e data = .ok (f, oc', global', e'))
    (hs : Synced oc.ld s) (hhead : s.hasRecvHeader = true) (hbuf : s.recvBuffer = [])
    (hid : oc.ld.packId + 1 ≠ 0) (hhash : 16 ≤ (byteAt oc'.ld.lastClientHash 15).toNat) (b : UInt8) :
    (authChainAServerPostDecrypt v crypto rc4 now ⟨server, s⟩ f).2.1 = some data ∧
      (authChainAServerPostDecrypt v crypto rc4 now ⟨server, s⟩ (f ++ [b])).2.1 = none := by
  rw [authChainAClientPreEncrypt_sent v crypto rc4 global now hsent, packClientFrames_single v crypto _ _ h0 hunit] at hpre
  generalize hp : authChainAPackClientData v crypto oc.ld e data = p at hpre
  obtain ⟨f₀, c₀, e₀⟩ := p
  simp only [Except.map, Except.ok.injEq, Prod.mk.injEq] at hpre
  obtain ⟨rfl, rfl, -, -⟩ := hpre
  obtain ⟨rnd₁, h₁⟩ := serverStep_clientFrame v crypto (s := { s with recvBuffer := [] })
    ⟨hs.hash, hs.id, hs.key, hs.keystream, hs.pos⟩ hlen hp []
  obtain ⟨rnd₂, h₂⟩ := serverStep_clientFrame v crypto (s := { s with recvBuffer := [] })
    ⟨hs.hash, hs.id, hs.key, hs.keystream, hs.pos⟩ hlen hp [b]
  rw [List.append_nil] at h₁
  rw [authChainAServerPostDecrypt_of_header v crypto rc4 now (o := ⟨server, s⟩) hhead,
    authChainAServerPostDecrypt_of_header v crypto rc4 now (o := ⟨server, s⟩) hhead]
  have hf₀ := authChainAPackClientData_length v crypto oc.ld e data
  have hid₀ := authChainAPackClientData_packId v crypto oc.ld e data
  rw [hp] at hf₀ hid₀
  simp only at hf₀ hid₀ hhash
  obtain ⟨t₁, ht₁, h₁⟩ : ∃ t₁, t₁ = _ ∧ serverStep v crypto _ f₀ = .frame _ _ t₁ := ⟨_, rfl, h₁⟩
  obtain ⟨t₂, ht₂, h₂⟩ : ∃ t₂, t₂ = _ ∧ serverStep v crypto _ (f₀ ++ [b]) = .frame _ _ t₂ := ⟨_, rfl, h₂⟩
  obtain ⟨t, hfail, hrecv⟩ := serverStep_one_byte v crypto (s := t₂) b
    (by simpa [ht₂, TcpLocal.follow] using hhash)
  have hd₁ : f₀.drop (data.length + (v.run data.length oc.ld.randomClient oc.ld.lastClientHash).1 + 4) = [] :=
    List.drop_eq_nil_of_le (by omega)
  have hd₂ : (f₀ ++ [b]).drop (data.length + (v.run data.length oc.ld.randomClient oc.ld.lastClientHash).1 + 4) = [b] :=
    List.drop_left' hf₀
  simp only [hbuf, List.nil_append, drainAll, List.length_append, List.length_singleton, hf₀, drain, h₁,
    h₂, hd₁, hd₂, serverStep_nil, hfail]
  have ht : t.recvId ≠ 0 := by
    rw [hrecv, ht₂]
    simpa [TcpLocal.follow, hid₀] using hid
  simp [ht]

end ServerPasses

/-! ### A sample connection -/

/-- The user key of the sample: the server's key. -/
def sampleKey : List UInt8 := CString.ascii "key"

/-- The first 32 bytes of the keystream `cipher_env_new_instance(password, "rc4")` makes for
the password `auth_chain_a_pack_auth_data` builds from the user key `key` and `sampleHash`,
both in base64: `a2V5rBOBVvFSPK+aGfgVM2ZxdA==`. `bytes_to_key` makes its MD5 the RC4 key. -/
def sampleKeystream (i : Nat) : UInt8 :=
  byteAt [0xb4, 0x2b, 0x2f, 0x33, 0x58, 0xd8, 0x1e, 0x31, 0x92, 0xcc, 0x96, 0x6b, 0xb2, 0x13, 0xd0, 0xc2,
    0x15, 0x86, 0x9d, 0xaf, 0x7b, 0x50, 0x50, 0x24, 0xa1, 0x21, 0xce, 0x87, 0x50, 0xb1, 0x78, 0x4b] i

/-- The hash of the sample connection's first frame. -/
def sampleHash : List UInt8 :=
  [0xac, 0x13, 0x81, 0x56, 0xf1, 0x52, 0x3c, 0xaf, 0x9a, 0x19, 0xf8, 0x15, 0x33, 0x66, 0x71, 0x74]

/-- The client's second payload. -/
def sampleRequest : List UInt8 := CString.ascii "GET / HTTP/1.1\r\n"

def sampleServer : ServerInfo :=
  { host := CString.ascii "example.com", port := 8388, param := none, iv := [], recvIv := [],
    key := sampleKey, headLen := 7, tcpMss := 1460, overhead := 4, bufferSize := 2048 }

def sampleEntropy : Entropy := ⟨fun i => i.toUInt8, 0⟩

/-- The client past its header and a first frame of 16 bytes. -/
def sampleClient : ChainObfs :=
  ⟨sampleServer, { authChainAContextInit (CString.ascii "auth_chain_a") with
    hasSentHeader := true, userKey := sampleKey, packId := 2, lastClientHash := sampleHash,
    keystream := sampleKeystream, encryptPos := 16 }⟩

/-- The server past the same header and frame, with nothing buffered. -/
def sampleServerLocal : TcpLocal :=
  { sampleClient.ld with hasRecvHeader := true, recvId := 2, decryptPos := 16 }

/-- HMAC-MD5 as the library computes it on the sample's second frame. -/
def sampleCrypto : Crypto where
  md5 := tableDigest []
  sha1 := tableDigest []
  hmacMd5 := tableKeyed [
    ((frameKey sampleKey 2, [0x61, 0x74, 0x52, 0xc3, 0xc9, 0x8f, 0x54, 0x70, 0x18, 0x70, 0xf5, 0x71,
        0xe1, 0xb6, 0x7e, 0x80, 0x75, 0x41, 0x00]),
      #v[0xcd, 0x55, 0x71, 0x7b, 0x93, 0x86, 0xa3, 0x63, 0xcd, 0x6a, 0xfb, 0x56, 0x5b, 0xde, 0xcd, 0x21])]
  hmacSha1 := tableKeyed []
  aes128CbcEncrypt := fun _ b => b
  aes128CbcDecrypt := fun _ b => b

/-- The sample's second frame, as `auth_chain_a_pack_client_data` writes it. -/
def sampleSent : List UInt8 × TcpLocal × Entropy :=
  authChainAPackClientData aTcpRandLen sampleCrypto sampleClient.ld sampleEntropy sampleRequest

theorem sample_frame_then_one_byte_is_rejected :
    (authChainAServerPostDecrypt aTcpRandLen sampleCrypto (fun _ _ => 0) 0 ⟨sampleServer, sampleServerLocal⟩
        sampleSent.1).2.1 = some sampleRequest ∧
      (authChainAServerPostDecrypt aTcpRandLen sampleCrypto (fun _ _ => 0) 0 ⟨sampleServer, sampleServerLocal⟩
        (sampleSent.1 ++ [0x00])).2.1 = none :=
  @server_fails_on_one_byte_tail aTcpRandLen sampleCrypto sampleServer sampleClient
    { sampleClient with ld := { sampleSent.2.1 with lastDataLen := 16 } } sampleServerLocal
    ⟨Vector.replicate 4 0, 0⟩ ⟨Vector.replicate 4 0, 0⟩ 0 (fun _ _ => 0) sampleEntropy sampleSent.2.2 sampleRequest
    sampleSent.1 rfl (by decide) (by decide) (by decide)
    (by
      rw [authChainAClientPreEncrypt_sent _ _ _ _ _ rfl,
        packClientFrames_single _ _ _ _ (by decide) (by decide)]
      rfl)
    ⟨rfl, rfl, rfl, rfl, rfl⟩ rfl rfl (by decide) (by decide +kernel) 0

end ShadowsocksR.AuthChain
