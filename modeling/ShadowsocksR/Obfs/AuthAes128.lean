/-
  ShadowsocksR.Obfs.AuthAes128 — the `auth_aes128_md5` and `auth_aes128_sha1` protocols
  (`auth.c`): one model for both, over the digest `d` their HMACs use and the salt it picks.

  A data frame is `len | mac | padding | data | check`: the frame's length in two bytes,
  little-endian; two bytes of the HMAC of the length; the padding, starting with its own
  length (`padField`, little-endian past 127); the data; and four bytes of the HMAC of
  everything before. Both HMACs are keyed with the user key and the frame's number
  (`pack_id` at the sender, `recv_id` at the receiver), so the frames of a stream are read in
  the order they are written.

  The client's first frame, the header, is `r | mac | uid | block | mac | padding | data |
  check`: a random byte and six bytes of its HMAC under the IV and the key; the user id;
  sixteen bytes encrypted with AES-128 under a key made from the user key and the salt,
  holding the time, the client id, the counter, the header's length and the padding's; four
  bytes of the HMAC of the id and the block; the padding; the data; and four bytes of the
  HMAC of all of it under the user key.

  The receivers buffer what arrives and cut frames off the front (`Framing.drainAll` of
  `serverStep`, `clientStep`). The server reads the header's fields as they arrive: the first
  byte's HMAC on 2, 3 or at least 7 bytes, the block's HMAC on 31, then the block for the
  length. It stores the user key before it knows the length, so a header that waits for its
  last bytes, or fails past that point, leaves the key stored: the wait is `Step.more` in the
  keyed state.
-/

import ShadowsocksR.Lib.Framing
import ShadowsocksR.Obfs.AuthSimple

namespace ShadowsocksR.AuthAes128

open Bytes CString Framing

/-! ## The connection -/

/-- The salt `auth_aes128_md5_new_obfs` and `auth_aes128_sha1_new_obfs` set. -/
def authAes128Salt : AuthDigest → List UInt8
  | .md5 => ascii "auth_aes128_md5"
  | .sha1 => ascii "auth_aes128_sha1"

/-- The connection state `auth_aes128_md5_new_obfs` (`auth_aes128_sha1_new_obfs`) makes. -/
def authAes128NewObfs (d : AuthDigest) (entropy : Entropy) : AuthSimpleLocal × Entropy :=
  authSimpleLocalDataInit (authAes128Salt d) entropy

/-- The key of frame number `id`: the user key, then the number, little-endian. -/
def frameKey (userKey : List UInt8) (id : UInt32) : List UInt8 := userKey ++ le32 id

/-- The header's AES key: `bytes_to_key_with_size` of the user key in base64 and the salt. -/
def headerAesKey (crypto : Crypto) (userKey salt : List UInt8) : Vector UInt8 16 :=
  bytesToKey16 crypto (stdBase64Encode userKey ++ salt)

/-- Sixteen bytes of a buffer, as the block AES reads. -/
def block16 (l : List UInt8) : Vector UInt8 16 := Vector.ofFn fun i => byteAt l i.val

theorem block16_of_prefix_le {q l : List UInt8} (h : q <+: l) (hq : 16 ≤ q.length) :
    block16 q = block16 l := by
  unfold block16
  congr 1
  funext i
  exact byteAt_of_prefix_lt h (by omega)

@[simp] theorem block16_toList_append (v : Vector UInt8 16) (rest : List UInt8) :
    block16 (v.toList ++ rest) = v := by
  apply Vector.ext
  intro i hi
  have hv : i < v.toList.length := by simpa using hi
  simp only [block16, Vector.getElem_ofFn, byteAt_append_left hv]
  simp [byteAt, List.getElem?_eq_getElem hv]

theorem toList_block16 {l : List UInt8} (hl : l.length = 16) : (block16 l).toList = l := by
  apply List.ext_getElem (by simp [hl])
  intro i h₁ h₂
  simp [block16, byteAt, List.getElem?_eq_getElem h₂]

/-! ## The senders -/

/-- `get_rand_len`: no padding beyond the length byte for long data, after a long payload or
for a payload that fills the buffer; otherwise fewer random bits the more data there is. -/
def getRandLen (datalength fulldatalength : Nat) (ld : AuthSimpleLocal) (server : ServerInfo)
    (rng : Shift128) : Nat × Shift128 :=
  if datalength > 1300 ∨ ld.lastDataLen > 1300 ∨ fulldatalength ≥ server.bufferSize then (0, rng)
  else
    let (x, rng) := xorshift128plus rng
    ((if datalength > 1100 then x &&& 0x7F
      else if datalength > 900 then x &&& 0xFF
      else if datalength > 400 then x &&& 0x1FF
      else x &&& 0x3FF).toNat, rng)

/-- The bytes `auth_aes128_sha1_pack_data` writes for a padding of `randLen` bytes over
`raw`, keyed with `key`. -/
def packDataFrame (d : AuthDigest) (crypto : Crypto) (key : List UInt8) (randLen : Nat)
    (raw data : List UInt8) : List UInt8 :=
  let outSize := randLen + data.length + 8
  let body := le16 outSize ++ (d.hmac crypto key (le16 outSize)).take 2 ++
    padField le16 randLen raw ++ data
  body ++ (d.hmac crypto key body).take 4

/-- `auth_aes128_sha1_pack_data`: the padding drawn by `get_rand_len` and `rand_bytes`, the
frame keyed with `pack_id`, which then moves on. -/
def authAes128Sha1PackData (d : AuthDigest) (crypto : Crypto) (data : List UInt8)
    (fulldatalength : Nat) (ld : AuthSimpleLocal) (server : ServerInfo) (rng : Shift128)
    (entropy : Entropy) : List UInt8 × AuthSimpleLocal × Shift128 × Entropy :=
  let (r, rng) := getRandLen data.length fulldatalength ld server rng
  let (raw, entropy) := randBytes entropy (r + 1)
  (packDataFrame d crypto (frameKey ld.userKey ld.packId) (r + 1) raw data,
    { ld with packId := ld.packId + 1 }, rng, entropy)

/-- The sixteen bytes the header encrypts: the time, four bytes of the client id, the
counter, the header's length and the padding's, little-endian. -/
def headerPlain (now : UInt32) (global : AuthGlobal) (outSize randLen : Nat) : List UInt8 :=
  le32 now ++ global.localClientId.toList.take 4 ++ le32 global.connectionId ++ le16 outSize ++
    le16 randLen

/-- The key of the header's HMACs under the IV and the key: `key_len` bytes of the two, a
`uint8_t`. -/
def headerMacKey (server : ServerInfo) : List UInt8 :=
  (server.iv ++ server.key).take ((server.iv.length + server.key.length) % 256)

/-- The twenty bytes `encrypt` of the header: the user id, then the fields `plain` under AES. -/
def headerEncrypt (crypto : Crypto) (uid : Vector UInt8 4) (userKey salt plain : List UInt8) :
    List UInt8 :=
  uid.toList ++ (crypto.aes128CbcEncrypt (headerAesKey crypto userKey salt) (block16 plain)).toList

/-- The bytes `auth_aes128_sha1_pack_auth_data` writes, for the random byte `r0`, a padding
`raw` of `randLen` bytes, the user id and key, the time and the ids. -/
def packAuthFrame (d : AuthDigest) (crypto : Crypto) (server : ServerInfo) (salt : List UInt8)
    (r0 : UInt8) (randLen : Nat) (raw : List UInt8) (uid : Vector UInt8 4) (userKey : List UInt8)
    (now : UInt32) (global : AuthGlobal) (data : List UInt8) : List UInt8 :=
  let outSize := randLen + 31 + data.length + 4
  let key := headerMacKey server
  let encrypt := headerEncrypt crypto uid userKey salt (headerPlain now global outSize randLen)
  let body := [r0] ++ (d.hmac crypto key [r0]).take 6 ++ encrypt ++ (d.hmac crypto key encrypt).take 4 ++
    raw ++ data
  body ++ (d.hmac crypto userKey body).take 4

/-- `auth_aes128_sha1_pack_auth_data`, drawing in the code's order: the padding length, the
padding, the counter's update, the user id where none is set, and the first byte. -/
def authAes128Sha1PackAuthData (d : AuthDigest) (crypto : Crypto) (global : AuthGlobal)
    (server : ServerInfo) (ld : AuthSimpleLocal) (data : List UInt8) (rng : Shift128)
    (now : UInt32) (entropy : Entropy) :
    List UInt8 × AuthGlobal × AuthSimpleLocal × Shift128 × Entropy :=
  let (x, rng) := xorshift128plus rng
  let randLen := (if data.length > 400 then x &&& 0x1FF else x &&& 0x3FF).toNat
  let (raw, entropy) := randBytes entropy randLen
  let (global, entropy) := nextConnectionId global entropy
  let (userKey, uid, entropy) := userKeyOf (d.hash crypto) server ld entropy
  let (r0, entropy) := randBytes entropy 1
  (packAuthFrame d crypto server ld.salt (byteAt r0 0) randLen raw uid userKey now global data,
    global, { ld with userKey := userKey, uid := uid }, rng, entropy)

/-- The loop `while (len > unit_len) pack_data(unit_len)` of both senders: the frames, the
state after them and the bytes left. Every round takes `unit` bytes, so the data's length is
enough fuel. -/
def packFrames (d : AuthDigest) (crypto : Crypto) (server : ServerInfo) (unit full : Nat) :
    Nat → AuthSimpleLocal → Shift128 → Entropy → List UInt8 →
      List UInt8 × AuthSimpleLocal × Shift128 × Entropy × List UInt8
  | 0, ld, rng, entropy, data => ([], ld, rng, entropy, data)
  | fuel + 1, ld, rng, entropy, data =>
    if data.length > unit then
      let (frame, ld, rng, entropy) :=
        authAes128Sha1PackData d crypto (data.take unit) full ld server rng entropy
      let (out, ld, rng, entropy, rest) :=
        packFrames d crypto server unit full fuel ld rng entropy (data.drop unit)
      (frame ++ out, ld, rng, entropy, rest)
    else ([], ld, rng, entropy, data)

/-- Both senders' data: frames of `unit` bytes, then a last one for the rest if any is left;
`full` is the whole payload's length, which `get_rand_len` reads. -/
def packData (d : AuthDigest) (crypto : Crypto) (server : ServerInfo) (unit full : Nat)
    (ld : AuthSimpleLocal) (rng : Shift128) (entropy : Entropy) (data : List UInt8) :
    List UInt8 × AuthSimpleLocal × Shift128 × Entropy :=
  let (frames, ld, rng, entropy, rest) :=
    packFrames d crypto server unit full data.length ld rng entropy data
  let (last, ld, rng, entropy) :=
    if rest.length > 0 then authAes128Sha1PackData d crypto rest full ld server rng entropy
    else ([], ld, rng, entropy)
  (frames ++ last, ld, rng, entropy)

/-- What the client's encoder leaves: its state, the process-wide state and the bytes. -/
structure ClientPacked where
  localData : AuthSimpleLocal
  global : AuthGlobal
  rng : Shift128
  entropy : Entropy
  out : List UInt8

/-- `auth_aes128_sha1_client_pre_encrypt`: a header carrying up to 1200 bytes before the
first data, then frames of 2000 bytes and a last one; the payload's length is kept for the
next call's `get_rand_len`. -/
def authAes128Sha1ClientPreEncrypt (d : AuthDigest) (crypto : Crypto) (server : ServerInfo)
    (now : UInt32) (ld : AuthSimpleLocal) (global : AuthGlobal) (rng : Shift128)
    (entropy : Entropy) (plaindata : List UInt8) : ClientPacked :=
  let (header, ld, global, rng, entropy, data) :=
    if plaindata.length > 0 ∧ ld.hasSentHeader = false then
      let headSize := min 1200 plaindata.length
      let (header, global, ld, rng, entropy) :=
        authAes128Sha1PackAuthData d crypto global server ld (plaindata.take headSize) rng now
          entropy
      (header, { ld with hasSentHeader := true }, global, rng, entropy, plaindata.drop headSize)
    else ([], ld, global, rng, entropy, plaindata)
  let (body, ld, rng, entropy) :=
    packData d crypto server authSimplePackUnitSize plaindata.length ld rng entropy data
  ⟨{ ld with lastDataLen := plaindata.length }, global, rng, entropy, header ++ body⟩

/-- `auth_aes128_sha1_server_pre_encrypt`: frames of `unit_len` bytes and a last one. -/
def authAes128Sha1ServerPreEncrypt (d : AuthDigest) (crypto : Crypto) (server : ServerInfo)
    (ld : AuthSimpleLocal) (rng : Shift128) (entropy : Entropy) (buf : List UInt8) :
    List UInt8 × AuthSimpleLocal × Shift128 × Entropy :=
  packData d crypto server ld.unitLen buf.length ld rng entropy buf

/-! ## The receivers -/

/-- What the data-frame loops find at the front of the buffer. -/
inductive DataFrame where
  /-- the HMAC of the length does not match -/
  | badMac
  /-- the length is out of `[minLength, 8192)` -/
  | badLength
  /-- the frame has not all arrived -/
  | incomplete
  /-- the HMAC of the frame does not match -/
  | badChecksum
  /-- a whole frame of `length` bytes carrying `data` -/
  | whole (length : Nat) (data : List UInt8)
  deriving DecidableEq, Repr

/-- The body of both receivers' data-frame loops, on more than four buffered bytes, with the
frame's key and the shortest length the receiver takes (7 at the server, 8 at the client). -/
def dataFrame (d : AuthDigest) (crypto : Crypto) (key : List UInt8) (minLength : Nat)
    (buffer : List UInt8) : DataFrame :=
  if (d.hmac crypto key (buffer.take 2)).take 2 ≠ (buffer.drop 2).take 2 then .badMac
  else
    let length := rdLe16 buffer 0
    if length ≥ 8192 ∨ length < minLength then .badLength
    else if length > buffer.length then .incomplete
    else if (d.hmac crypto key (buffer.take (length - 4))).take 4 ≠
        (buffer.drop (length - 4)).take 4 then .badChecksum
    else
      let pos := padEnd rdLe16 buffer 4
      .whole length ((buffer.drop pos).take (length - 4 - pos))

/-- The header pass of `auth_aes128_sha1_server_post_decrypt`. A failure leaves the buffer;
`user_key` is stored once the block's HMAC passes, before the length is known. -/
def serverHeaderStep (d : AuthDigest) (crypto : Crypto) (server : ServerInfo) (now : UInt32)
    (s : AuthSimpleLocal) (buffer : List UInt8) : Step AuthSimpleLocal UInt8 (List UInt8) :=
  let len := buffer.length
  let macKey := server.recvIv ++ server.key
  if (len ≥ 7 ∨ len = 2 ∨ len = 3) ∧
      (d.hmac crypto macKey (buffer.take 1)).take (min len 7 - 1) ≠
        (buffer.drop 1).take (min len 7 - 1) then .fail s buffer
  else if len < 31 then .more s
  else if (d.hmac crypto macKey ((buffer.drop 7).take 20)).take 4 ≠ (buffer.drop 27).take 4 then
    if len < 31 + s.extraWaitSize then .more s else .fail s buffer
  else
    let s := { s with userKey := server.key }
    let head := (crypto.aes128CbcDecrypt (headerAesKey crypto s.userKey s.salt)
      (block16 (buffer.drop 11))).toList
    let length := rdLe16 head 12
    if len < length then .more s
    else if (d.hmac crypto s.userKey (buffer.take (length - 4))).take 4 ≠
        (buffer.drop (length - 4)).take 4 then .fail s buffer
    else if timeDif now (rdLe32 head 0) > s.maxTimeDif then .fail s buffer
    else
      let rndLen := rdLe16 head 14
      .frame length ((buffer.drop (31 + rndLen)).take (length - 4 - (31 + rndLen)))
        { s with hasRecvHeader := true, clientId := rdLe32 head 4, connectionId := rdLe32 head 8 }

/-- One pass of the server's loop: the header first, then data frames. A bad length HMAC
leaves the buffer; a bad length or frame HMAC empties it. -/
def serverStep (d : AuthDigest) (crypto : Crypto) (server : ServerInfo) (now : UInt32)
    (s : AuthSimpleLocal) (buffer : List UInt8) : Step AuthSimpleLocal UInt8 (List UInt8) :=
  if s.hasRecvHeader = false then serverHeaderStep d crypto server now s buffer
  else if buffer.length ≤ 4 then .more s
  else
    match dataFrame d crypto (frameKey s.userKey s.recvId) 7 buffer with
    | .badMac => .fail s buffer
    | .incomplete => .more s
    | .whole length data => .frame length data { s with recvId := s.recvId + 1 }
    | _ => .fail s []

/-- `auth_aes128_sha1_server_post_decrypt` at the time `now`: the loop over the buffered
bytes and the new ones, and `out_buf`; `none` stands for the buffer of `SSR_BUFF_SIZE` bytes
`E` that `auth_aes128_not_match_return` hands back. -/
def authAes128Sha1ServerPostDecrypt (d : AuthDigest) (crypto : Crypto) (server : ServerInfo)
    (now : UInt32) (ld : AuthSimpleLocal) (buf : List UInt8) :
    AuthSimpleLocal × Option (List UInt8) :=
  let r := drainAll (serverStep d crypto server now) { ld with recvBuffer := [] }
    (ld.recvBuffer ++ buf)
  ({ r.state with recvBuffer := r.rest }, if r.ok then some r.out.flatten else none)

/-- One pass of the client's loop: data frames only; every error empties the buffer. -/
def clientStep (d : AuthDigest) (crypto : Crypto) (s : AuthSimpleLocal) (buffer : List UInt8) :
    Step AuthSimpleLocal UInt8 (List UInt8) :=
  if buffer.length ≤ 4 then .more s
  else
    match dataFrame d crypto (frameKey s.userKey s.recvId) 8 buffer with
    | .incomplete => .more s
    | .whole length data => .frame length data { s with recvId := s.recvId + 1 }
    | _ => .fail s []

/-- `auth_aes128_sha1_client_post_decrypt`: `-1` (`none`) when the read would fill the
receive buffer past its 16384 bytes, else the loop. -/
def authAes128Sha1ClientPostDecrypt (d : AuthDigest) (crypto : Crypto) (ld : AuthSimpleLocal)
    (buf : List UInt8) : AuthSimpleLocal × Option (List UInt8) :=
  if ld.recvBuffer.length + buf.length > 16384 then (ld, none)
  else
    let r := drainAll (clientStep d crypto) { ld with recvBuffer := [] } (ld.recvBuffer ++ buf)
    ({ r.state with recvBuffer := r.rest }, if r.ok then some r.out.flatten else none)

/-! ## Reading a data frame -/

section DataFrames

variable (d : AuthDigest) (crypto : Crypto) (key : List UInt8) {randLen : Nat}
  {raw data : List UInt8}

theorem packDataFrame_length (hpos : 1 ≤ randLen) (hraw : raw.length = randLen) :
    (packDataFrame d crypto key randLen raw data).length = randLen + data.length + 8 := by
  have h6 := d.six_le_hashLen
  simp only [packDataFrame, List.length_append, le16_length, List.length_take,
    AuthDigest.hmac_length, padField_length (fun x => le16_length x) hpos hraw]
  omega

/-- The head of a data frame: its length, and two bytes of the HMAC of the length. -/
theorem packDataFrame_head (hlen : randLen + data.length + 8 < 2 ^ 16) (rest : List UInt8) :
    let frame := packDataFrame d crypto key randLen raw data ++ rest
    frame.take 2 = le16 (randLen + data.length + 8) ∧
      (frame.drop 2).take 2 = (d.hmac crypto key (le16 (randLen + data.length + 8))).take 2 ∧
      rdLe16 frame 0 = randLen + data.length + 8 := by
  intro frame
  have h6 := d.six_le_hashLen
  generalize hL : randLen + data.length + 8 = L at hlen
  generalize hmac : (d.hmac crypto key (le16 L)).take 2 = mac
  have hmac2 : mac.length = 2 := by rw [← hmac, List.length_take, AuthDigest.hmac_length]; omega
  have hF : ∃ X, frame = le16 L ++ mac ++ X := by
    simp only [frame, packDataFrame, hL, hmac, List.append_assoc]
    exact ⟨_, rfl⟩
  obtain ⟨X, hF⟩ := hF
  rw [hF]
  refine ⟨?take, ?mac, ?length⟩
  case take => rw [List.append_assoc]; exact List.take_left' (le16_length L)
  case mac => simpa only [le16_length, hmac2] using take_drop_append_field (le16 L) mac X
  case length =>
    have := rdLe16_le16 [] (mac ++ X) hlen
    simpa only [List.append_assoc, List.nil_append, List.length_nil] using this

/-- What the receivers make of bytes that start like a frame of length `L`, by how many
of them there are. -/
theorem dataFrame_of_head {minLength : Nat} {buffer : List UInt8} {L : Nat}
    (hL : minLength ≤ L ∧ L < 8192) (htake : buffer.take 2 = le16 L)
    (hmac : (buffer.drop 2).take 2 = (d.hmac crypto key (le16 L)).take 2)
    (hlength : rdLe16 buffer 0 = L) :
    dataFrame d crypto key minLength buffer =
      if L > buffer.length then .incomplete
      else if (d.hmac crypto key (buffer.take (L - 4))).take 4 ≠ (buffer.drop (L - 4)).take 4 then
        .badChecksum
      else .whole L ((buffer.drop (padEnd rdLe16 buffer 4)).take
        (L - 4 - padEnd rdLe16 buffer 4)) := by
  unfold dataFrame
  rw [htake, hmac, if_neg (fun h => h rfl), hlength, if_neg (by omega)]

/-- The receivers read a data frame back, whatever follows it. -/
theorem dataFrame_whole {minLength : Nat} (hpos : 1 ≤ randLen) (hraw : raw.length = randLen)
    (hmin : minLength ≤ randLen + data.length + 8) (hlen : randLen + data.length + 8 < 8192)
    (rest : List UInt8) :
    dataFrame d crypto key minLength (packDataFrame d crypto key randLen raw data ++ rest) =
      .whole (randLen + data.length + 8) data := by
  obtain ⟨htake, hmac, hlength⟩ :=
    @packDataFrame_head d crypto key randLen raw data (by omega) rest
  have h6 := d.six_le_hashLen
  have hpad : (padField le16 randLen raw).length = randLen :=
    padField_length (fun x => le16_length x) hpos hraw
  rw [dataFrame_of_head d crypto key ⟨hmin, hlen⟩ htake hmac hlength]
  generalize hL : randLen + data.length + 8 = L at hlen hmin
  generalize hm : (d.hmac crypto key (le16 L)).take 2 = mac
  have hmac2 : mac.length = 2 := by rw [← hm, List.length_take, AuthDigest.hmac_length]; omega
  -- the frame: `body | check`, then what follows
  generalize hB : le16 L ++ mac ++ padField le16 randLen raw ++ data = body
  have hF : packDataFrame d crypto key randLen raw data ++ rest =
      body ++ (d.hmac crypto key body).take 4 ++ rest := by
    simp only [packDataFrame, hL, hm, hB]
  generalize ht : (d.hmac crypto key body).take 4 = check at hF
  have hcheck : check.length = 4 := by rw [← ht, List.length_take, AuthDigest.hmac_length]; omega
  have hbody : body.length + 4 = L := by
    rw [← hB]; simp only [List.length_append, le16_length, hmac2, hpad]; omega
  rw [hF]
  have hend : padEnd rdLe16 (body ++ check ++ rest) 4 = randLen + 4 := by
    have := padEnd_padField (fun pre post x hx => rdLe16_le16 pre post hx)
      (le16 L ++ mac) (data ++ check ++ rest) raw hpos (by omega) hraw
    simpa only [← hB, List.append_assoc, List.length_append, le16_length, hmac2] using this
  have hdata : ((body ++ check ++ rest).drop (randLen + 4)).take data.length = data := by
    have := take_drop_append_field (le16 L ++ mac ++ padField le16 randLen raw) data
      (check ++ rest)
    simpa only [← hB, List.length_append, le16_length, hmac2, hpad, ← List.append_assoc,
      show 2 + 2 + randLen = randLen + 4 by omega] using this
  have hsigned : ((body ++ check ++ rest).drop (L - 4)).take 4 = check := by
    have := take_drop_append_field body check rest
    rwa [hcheck, show body.length = L - 4 by omega] at this
  have hFlen : L ≤ (body ++ check ++ rest).length := by
    simp only [List.length_append, hcheck]; omega
  rw [if_neg (by omega), List.append_assoc, List.take_left' (by omega), ← List.append_assoc,
    hsigned, ht, if_neg (fun h => h rfl), hend, show L - 4 - (randLen + 4) = data.length by omega,
    hdata]

/-- A data frame that has not all arrived waits, once its head is there. -/
theorem dataFrame_incomplete {minLength : Nat} (hmin : minLength ≤ randLen + data.length + 8)
    (hlen : randLen + data.length + 8 < 8192) {q : List UInt8}
    (hq : q <+: packDataFrame d crypto key randLen raw data) (h4 : 4 < q.length)
    (hshort : q.length < randLen + data.length + 8) :
    dataFrame d crypto key minLength q = .incomplete := by
  obtain ⟨htake, hmac, hlength⟩ :=
    @packDataFrame_head d crypto key randLen raw data (by omega) []
  rw [List.append_nil] at htake hmac hlength
  have hmac' : (q.drop 2).take 2 = (d.hmac crypto key (le16 (randLen + data.length + 8))).take 2 := by
    rw [← hmac, List.take_drop, List.take_drop, take_of_prefix_le hq (by omega)]
  rw [dataFrame_of_head d crypto key ⟨hmin, hlen⟩ (by rw [take_of_prefix_le hq (by omega)]; exact htake)
    hmac' (by rw [rdLe16_of_prefix_lt hq (by omega)]; exact hlength), if_pos hshort]

/-- A loop body that waits on four bytes or fewer and otherwise follows `dataFrame` on
waits and whole frames reads every data frame, going on to `t`. -/
theorem reads_packDataFrame
    {st : AuthSimpleLocal → List UInt8 → Step AuthSimpleLocal UInt8 (List UInt8)}
    {s t : AuthSimpleLocal} {minLength : Nat} (hshort : ∀ q, q.length ≤ 4 → st s q = .more s)
    (hinc : ∀ q, 4 < q.length → dataFrame d crypto key minLength q = .incomplete →
      st s q = .more s)
    (hwhole : ∀ q L x, 4 < q.length → dataFrame d crypto key minLength q = .whole L x →
      st s q = .frame L x t)
    (hpos : 1 ≤ randLen) (hraw : raw.length = randLen) (hmin : minLength ≤ 9)
    (hlen : randLen + data.length + 8 < 8192) :
    Reads st s (packDataFrame d crypto key randLen raw data) data t where
  pos := by rw [packDataFrame_length d crypto key hpos hraw]; omega
  whole r := by
    rw [packDataFrame_length d crypto key hpos hraw]
    exact hwhole _ _ _
      (by simp only [List.length_append, packDataFrame_length d crypto key hpos hraw]; omega)
      (dataFrame_whole d crypto key hpos hraw (by omega) hlen r)
  part q hq hlt := by
    rw [packDataFrame_length d crypto key hpos hraw] at hlt
    by_cases h4 : q.length ≤ 4
    · exact hshort q h4
    · exact hinc q (by omega) (dataFrame_incomplete d crypto key (by omega) hlen hq (by omega) hlt)

end DataFrames

section Receivers

variable (d : AuthDigest) (crypto : Crypto) {randLen : Nat} {raw data : List UInt8}

/-- The client reads every data frame keyed with its key and number, and moves to the next
number. -/
theorem clientStep_reads (s : AuthSimpleLocal) (hpos : 1 ≤ randLen) (hraw : raw.length = randLen)
    (hlen : randLen + data.length + 8 < 8192) :
    Reads (clientStep d crypto) s
      (packDataFrame d crypto (frameKey s.userKey s.recvId) randLen raw data) data
      { s with recvId := s.recvId + 1 } :=
  reads_packDataFrame d crypto _ (fun q h4 => by rw [clientStep, if_pos h4])
    (fun q h4 h => by rw [clientStep, if_neg (by omega), h])
    (fun q L x h4 h => by rw [clientStep, if_neg (by omega), h]) hpos hraw (by decide) hlen

/-- Once the header is in, so does the server. -/
theorem serverStep_reads (server : ServerInfo) (now : UInt32) {s : AuthSimpleLocal}
    (hs : s.hasRecvHeader = true) (hpos : 1 ≤ randLen) (hraw : raw.length = randLen)
    (hlen : randLen + data.length + 8 < 8192) :
    Reads (serverStep d crypto server now) s
      (packDataFrame d crypto (frameKey s.userKey s.recvId) randLen raw data) data
      { s with recvId := s.recvId + 1 } :=
  reads_packDataFrame d crypto _ (fun q h4 => by rw [serverStep, hs, if_neg (by decide), if_pos h4])
    (fun q h4 h => by rw [serverStep, hs, if_neg (by decide), if_neg (by omega), h])
    (fun q L x h4 h => by rw [serverStep, hs, if_neg (by decide), if_neg (by omega), h])
    hpos hraw (by decide) hlen

end Receivers

/-! ## Reading the header -/

section Header

variable (d : AuthDigest) (crypto : Crypto) (server : ServerInfo) (salt : List UInt8)
  (r0 : UInt8) {randLen : Nat} (raw : List UInt8) (uid : Vector UInt8 4) (userKey : List UInt8)
  (now : UInt32) (global : AuthGlobal) (data : List UInt8)

theorem headerPlain_length (outSize : Nat) :
    (headerPlain now global outSize randLen).length = 16 := by
  simp [headerPlain]

/-- The fields of the block, as the server reads them. -/
theorem headerPlain_fields {outSize : Nat} (ho : outSize < 2 ^ 16) (hr : randLen < 2 ^ 16) :
    let plain := headerPlain now global outSize randLen
    rdLe32 plain 0 = now ∧ rdLe32 plain 4 = rdLe32 (global.localClientId.toList.take 4) 0 ∧
      rdLe32 plain 8 = global.connectionId ∧ rdLe16 plain 12 = outSize ∧
      rdLe16 plain 14 = randLen := by
  intro plain
  simp only [plain, headerPlain]
  have hid : (global.localClientId.toList.take 4).length = 4 := by simp
  generalize global.localClientId.toList.take 4 = id4 at hid ⊢
  have h8 : (le32 now ++ id4).length = 8 := by simp [hid]
  have h12 : (le32 now ++ id4 ++ le32 global.connectionId).length = 12 := by simp [hid]
  refine ⟨?time, ?client, ?conn, ?length, ?pad⟩
  case time =>
    have := rdLe32_le32 [] (id4 ++ le32 global.connectionId ++ le16 outSize ++ le16 randLen) now
    simpa only [List.nil_append, List.length_nil, List.append_assoc] using this
  case client =>
    have := rdLe32_append_field (le32 now) id4
      (le32 global.connectionId ++ le16 outSize ++ le16 randLen) hid
    simpa only [le32_length, List.append_assoc] using this
  case conn =>
    have := rdLe32_le32 (le32 now ++ id4) (le16 outSize ++ le16 randLen) global.connectionId
    rw [h8] at this
    simpa only [List.append_assoc] using this
  case length =>
    have := rdLe16_le16 (le32 now ++ id4 ++ le32 global.connectionId) (le16 randLen) ho
    rwa [h12] at this
  case pad =>
    have := rdLe16_le16 (le32 now ++ id4 ++ le32 global.connectionId ++ le16 outSize) [] hr
    simpa only [List.length_append, h12, le16_length, List.append_nil] using this

@[simp] theorem headerEncrypt_length (plain : List UInt8) :
    (headerEncrypt crypto uid userKey salt plain).length = 20 := by
  simp [headerEncrypt]

/-- A header is the fields before the data, the data, and four bytes of the HMAC of both
under the user key. -/
theorem packAuthFrame_split (hraw : raw.length = randLen) :
    ∃ P, packAuthFrame d crypto server salt r0 randLen raw uid userKey now global data =
      P ++ data ++ (d.hmac crypto userKey (P ++ data)).take 4 ∧ P.length = 31 + randLen := by
  refine ⟨_, rfl, ?_⟩
  have h6 := d.six_le_hashLen
  simp only [List.length_append, List.length_singleton, List.length_take, AuthDigest.hmac_length,
    headerEncrypt_length, hraw]
  omega

theorem packAuthFrame_length (hraw : raw.length = randLen) :
    (packAuthFrame d crypto server salt r0 randLen raw uid userKey now global data).length =
      randLen + 31 + data.length + 4 := by
  obtain ⟨P, hF, hP⟩ := packAuthFrame_split d crypto server salt r0 raw uid userKey now global data hraw
  have h6 := d.six_le_hashLen
  rw [hF]
  simp only [List.length_append, hP, List.length_take, AuthDigest.hmac_length]
  omega

/-- A header closes with four bytes of the HMAC of everything before them. -/
theorem packAuthFrame_check (hraw : raw.length = randLen) (rest : List UInt8) :
    (d.hmac crypto userKey
        ((packAuthFrame d crypto server salt r0 randLen raw uid userKey now global data ++ rest).take
          (randLen + 31 + data.length + 4 - 4))).take 4 =
      ((packAuthFrame d crypto server salt r0 randLen raw uid userKey now global data ++ rest).drop
        (randLen + 31 + data.length + 4 - 4)).take 4 := by
  obtain ⟨P, hF, hP⟩ := packAuthFrame_split d crypto server salt r0 raw uid userKey now global data hraw
  have h6 := d.six_le_hashLen
  have hB : (P ++ data).length = randLen + 31 + data.length + 4 - 4 := by
    simp only [List.length_append, hP]; omega
  rw [hF, ← hB, List.append_assoc, List.take_left, List.drop_left,
    List.take_append_of_le_length (by simp; omega)]
  simp

/-- After the random padding a header carries the data, up to its HMAC. -/
theorem packAuthFrame_data (hraw : raw.length = randLen) (rest : List UInt8) :
    ((packAuthFrame d crypto server salt r0 randLen raw uid userKey now global data ++ rest).drop
        (31 + randLen)).take (randLen + 31 + data.length + 4 - 4 - (31 + randLen)) = data := by
  obtain ⟨P, hF, hP⟩ := packAuthFrame_split d crypto server salt r0 raw uid userKey now global data hraw
  have := take_drop_append_field P data ((d.hmac crypto userKey (P ++ data)).take 4 ++ rest)
  rw [hP, ← List.append_assoc, ← hF] at this
  rwa [show randLen + 31 + data.length + 4 - 4 - (31 + randLen) = data.length by omega]

/-- A header and what follows it, as the server's first checks read it: the random byte and
six bytes of its HMAC, the user id and the block, four bytes of their HMAC. -/
theorem packAuthFrame_append (rest : List UInt8) :
    ∃ T, packAuthFrame d crypto server salt r0 randLen raw uid userKey now global data ++ rest =
      r0 :: ((d.hmac crypto (headerMacKey server) [r0]).take 6 ++
        (headerEncrypt crypto uid userKey salt
            (headerPlain now global (randLen + 31 + data.length + 4) randLen) ++
          ((d.hmac crypto (headerMacKey server) (headerEncrypt crypto uid userKey salt
            (headerPlain now global (randLen + 31 + data.length + 4) randLen))).take 4 ++ T))) := by
  simp only [packAuthFrame, List.append_assoc, List.singleton_append]
  exact ⟨_, rfl⟩

/-- The first byte's HMAC passes on every prefix of a header. -/
theorem packAuthFrame_firstMac (rest : List UInt8) {q : List UInt8}
    (hq : q <+: packAuthFrame d crypto server salt r0 randLen raw uid userKey now global data ++ rest) :
    (d.hmac crypto (headerMacKey server) (q.take 1)).take (min q.length 7 - 1) =
      (q.drop 1).take (min q.length 7 - 1) := by
  obtain ⟨T, hF⟩ := packAuthFrame_append d crypto server salt r0 raw uid userKey now global data rest
  rw [hF] at hq
  have h6 := d.six_le_hashLen
  cases q with
  | nil => simp
  | cons b q =>
    obtain ⟨rfl, hq⟩ := List.cons_prefix_cons.mp hq
    -- the bytes after the first are six bytes of its HMAC
    show (d.hmac crypto (headerMacKey server) [b]).take (min (q.length + 1) 7 - 1) =
      q.take (min (q.length + 1) 7 - 1)
    rw [take_of_prefix_le hq (by omega), List.take_append_of_le_length (by simp; omega),
      List.take_take, Nat.min_eq_left (show min (q.length + 1) 7 - 1 ≤ 6 by omega)]

/-- Once 31 bytes of a header have come, the HMAC of the user id and the block passes. -/
theorem packAuthFrame_blockMac (rest : List UInt8) {q : List UInt8}
    (hq : q <+: packAuthFrame d crypto server salt r0 randLen raw uid userKey now global data ++ rest)
    (h31 : 31 ≤ q.length) :
    (d.hmac crypto (headerMacKey server) ((q.drop 7).take 20)).take 4 = (q.drop 27).take 4 := by
  obtain ⟨T, hF⟩ := packAuthFrame_append d crypto server salt r0 raw uid userKey now global data rest
  rw [hF] at hq
  have h6 := d.six_le_hashLen
  have hM6 : ((d.hmac crypto (headerMacKey server) [r0]).take 6).length = 6 := by simp; omega
  generalize (d.hmac crypto (headerMacKey server) [r0]).take 6 = M6 at hq hM6
  have hE := headerEncrypt_length crypto salt uid userKey
    (headerPlain now global (randLen + 31 + data.length + 4) randLen)
  generalize headerEncrypt crypto uid userKey salt
    (headerPlain now global (randLen + 31 + data.length + 4) randLen) = E at hq hE
  generalize hM4 : (d.hmac crypto (headerMacKey server) E).take 4 = M4 at hq
  have h4 : M4.length = 4 := by rw [← hM4]; simp; omega
  -- seven bytes in, the user id and the block; then four bytes of their HMAC
  have hblock : (q.drop 7).take 20 = E := by
    have := take_drop_append_field (r0 :: M6) E (M4 ++ T)
    rw [List.length_cons, hM6, hE] at this
    rw [take_drop_of_prefix_le hq (by omega),
      show r0 :: (M6 ++ (E ++ (M4 ++ T))) = r0 :: M6 ++ E ++ (M4 ++ T) by simp]
    exact this
  have hmac4 : (q.drop 27).take 4 = M4 := by
    have := take_drop_append_field (r0 :: M6 ++ E) M4 T
    rw [List.length_append, List.length_cons, hM6, hE, h4] at this
    rw [take_drop_of_prefix_le hq (by omega),
      show r0 :: (M6 ++ (E ++ (M4 ++ T))) = r0 :: M6 ++ E ++ M4 ++ T by simp]
    exact this
  rw [hblock, hmac4, hM4]

/-- Once 27 bytes of a header have come, the block is the fields under AES. -/
theorem packAuthFrame_block (rest : List UInt8) {q : List UInt8}
    (hq : q <+: packAuthFrame d crypto server salt r0 randLen raw uid userKey now global data ++ rest)
    (h27 : 27 ≤ q.length) :
    block16 (q.drop 11) = crypto.aes128CbcEncrypt (headerAesKey crypto userKey salt)
      (block16 (headerPlain now global (randLen + 31 + data.length + 4) randLen)) := by
  obtain ⟨T, hF⟩ := packAuthFrame_append d crypto server salt r0 raw uid userKey now global data rest
  have h6 := d.six_le_hashLen
  rw [block16_of_prefix_le (hq.drop 11) (by simp only [List.length_drop]; omega), hF, headerEncrypt]
  -- eleven bytes in: past the random byte, six bytes of its HMAC and the user id
  have h11 : (r0 :: ((d.hmac crypto (headerMacKey server) [r0]).take 6 ++ uid.toList)).length =
      11 := by
    simp; omega
  rw [show ∀ A B C : List UInt8, r0 :: (A ++ (uid.toList ++ B ++ C)) =
      r0 :: (A ++ uid.toList) ++ (B ++ C) by simp, List.drop_left' h11, block16_toList_append]

/-- The server decrypts the block of a header into its fields, where AES decryption undoes
encryption. -/
theorem packAuthFrame_decrypt
    (haes : ∀ k b, crypto.aes128CbcDecrypt k (crypto.aes128CbcEncrypt k b) = b)
    (rest : List UInt8) {q : List UInt8}
    (hq : q <+: packAuthFrame d crypto server salt r0 randLen raw uid userKey now global data ++ rest)
    (h27 : 27 ≤ q.length) :
    (crypto.aes128CbcDecrypt (headerAesKey crypto userKey salt) (block16 (q.drop 11))).toList =
      headerPlain now global (randLen + 31 + data.length + 4) randLen := by
  rw [packAuthFrame_block d crypto server salt r0 raw uid userKey now global data rest hq h27, haes, toList_block16 (headerPlain_length now global _)]

variable {server' : ServerInfo} {now' : UInt32} {s : AuthSimpleLocal}

/-- The server waits on every proper prefix of a header sent with its key, IV and salt, from a
state that holds the key its header pass stores. -/
theorem serverStep_header_waits (hs : s.hasRecvHeader = false) (hu : s.userKey = userKey)
    (hkey : server'.key = userKey) (hsalt : s.salt = salt)
    (hmk : server'.recvIv ++ server'.key = headerMacKey server)
    (haes : ∀ k b, crypto.aes128CbcDecrypt k (crypto.aes128CbcEncrypt k b) = b)
    (hlen : randLen + 31 + data.length + 4 < 2 ^ 16) {q : List UInt8}
    (hq : q <+: packAuthFrame d crypto server salt r0 randLen raw uid userKey now global data)
    (hshort : q.length < randLen + 31 + data.length + 4) :
    serverStep d crypto server' now' s q = .more s := by
  have hq' : q <+: packAuthFrame d crypto server salt r0 randLen raw uid userKey now global data ++
      [] := by rwa [List.append_nil]
  subst hsalt hu
  unfold serverStep serverHeaderStep
  rw [if_pos hs]
  dsimp only
  rw [hmk, packAuthFrame_firstMac d crypto server _ r0 raw uid _ now global data [] hq',
    if_neg (fun h => h.2 rfl)]
  by_cases h31 : q.length < 31
  case pos => rw [if_pos h31]
  case neg =>
    -- the block has come: its HMAC passes, and it gives the header's length
    obtain ⟨-, -, -, hlength, -⟩ := headerPlain_fields now global hlen (by omega : randLen < 2 ^ 16)
    rw [if_neg h31, packAuthFrame_blockMac d crypto server _ r0 raw uid _ now global data [] hq' (by omega),
      if_neg (fun h => h rfl), hkey,
      packAuthFrame_decrypt d crypto server _ r0 raw uid _ now global data haes [] hq' (by omega),
      hlength, if_pos hshort]

/-- The server reads a header sent with its key, IV and salt and a time within `max_time_dif`
of its clock, whatever follows it. -/
theorem serverStep_header (hs : s.hasRecvHeader = false) (hu : s.userKey = userKey)
    (hkey : server'.key = userKey) (hsalt : s.salt = salt)
    (hmk : server'.recvIv ++ server'.key = headerMacKey server)
    (haes : ∀ k b, crypto.aes128CbcDecrypt k (crypto.aes128CbcEncrypt k b) = b)
    (htime : timeDif now' now ≤ s.maxTimeDif) (hraw : raw.length = randLen)
    (hlen : randLen + 31 + data.length + 4 < 2 ^ 16) (rest : List UInt8) :
    serverStep d crypto server' now' s
        (packAuthFrame d crypto server salt r0 randLen raw uid userKey now global data ++ rest) =
      .frame (randLen + 31 + data.length + 4) data (afterHeader s global) := by
  have hq := List.prefix_refl
    (packAuthFrame d crypto server salt r0 randLen raw uid userKey now global data ++ rest)
  have hFlen : randLen + 31 + data.length + 4 ≤
      (packAuthFrame d crypto server salt r0 randLen raw uid userKey now global data ++ rest).length := by
    rw [List.length_append, packAuthFrame_length d crypto server salt r0 raw uid userKey now global data hraw]; omega
  obtain ⟨htime0, hclient, hconn, hlength, hpad⟩ :=
    headerPlain_fields now global hlen (by omega : randLen < 2 ^ 16)
  subst hsalt hu
  unfold serverStep serverHeaderStep
  rw [if_pos hs]
  dsimp only
  -- both HMACs under the IV and the key pass, the block gives the fields, the last HMAC passes
  rw [hmk, packAuthFrame_firstMac d crypto server _ r0 raw uid _ now global data rest hq, if_neg (fun h => h.2 rfl), if_neg (by omega),
    packAuthFrame_blockMac d crypto server _ r0 raw uid _ now global data rest hq (by omega), if_neg (fun h => h rfl), hkey,
    packAuthFrame_decrypt d crypto server _ r0 raw uid _ now global data haes rest hq (by omega), hlength, if_neg (by omega),
    packAuthFrame_check d crypto server _ r0 raw uid _ now global data hraw rest, if_neg (fun h => h rfl), htime0, if_neg (by omega), hpad,
    packAuthFrame_data d crypto server _ r0 raw uid _ now global data hraw rest, hclient, hconn]
  -- the key it stores is the one the state has
  rfl

/-- Before the header, the server reads it as one frame, going on to the data frames. -/
theorem header_reads (hs : s.hasRecvHeader = false) (hu : s.userKey = userKey)
    (hkey : server'.key = userKey) (hsalt : s.salt = salt)
    (hmk : server'.recvIv ++ server'.key = headerMacKey server)
    (haes : ∀ k b, crypto.aes128CbcDecrypt k (crypto.aes128CbcEncrypt k b) = b)
    (htime : timeDif now' now ≤ s.maxTimeDif) (hraw : raw.length = randLen)
    (hlen : randLen + 31 + data.length + 4 < 2 ^ 16) :
    Reads (serverStep d crypto server' now') s
      (packAuthFrame d crypto server salt r0 randLen raw uid userKey now global data) data
      (afterHeader s global) where
  pos := by rw [packAuthFrame_length d crypto server salt r0 raw uid userKey now global data hraw]; omega
  whole r := by
    rw [packAuthFrame_length d crypto server salt r0 raw uid userKey now global data hraw]
    exact serverStep_header d crypto server salt r0 raw uid userKey now global data hs hu hkey hsalt hmk haes htime hraw hlen r
  part q hq hlt := by
    rw [packAuthFrame_length d crypto server salt r0 raw uid userKey now global data hraw] at hlt
    exact serverStep_header_waits d crypto server salt r0 raw uid userKey now global data hs hu hkey hsalt hmk haes hlen hq hlt

end Header

/-! ## The frames the senders write -/

/-- `get_rand_len` leaves room for the data: with at most 2000 bytes the padding's random
part and the data come to at most 2000. -/
theorem getRandLen_add_le {datalength : Nat} (hd : datalength ≤ 2000) (fulldatalength : Nat)
    (ld : AuthSimpleLocal) (server : ServerInfo) (rng : Shift128) :
    (getRandLen datalength fulldatalength ld server rng).1 + datalength ≤ 2000 := by
  unfold getRandLen
  split
  case isTrue => dsimp only; omega
  case isFalse hlong =>
    generalize xorshift128plus rng = draw
    obtain ⟨x, g⟩ := draw
    -- the draw masked to 7, 8, 9 or 10 bits, the fewer the longer the data
    have h7 : (x &&& 0x7F).toNat ≤ 127 := by rw [UInt64.toNat_and]; exact Nat.and_le_right
    have h8 : (x &&& 0xFF).toNat ≤ 255 := by rw [UInt64.toNat_and]; exact Nat.and_le_right
    have h9 : (x &&& 0x1FF).toNat ≤ 511 := by rw [UInt64.toNat_and]; exact Nat.and_le_right
    have h10 : (x &&& 0x3FF).toNat ≤ 1023 := by rw [UInt64.toNat_and]; exact Nat.and_le_right
    dsimp only
    split_ifs <;> omega

section Senders

variable (d : AuthDigest) (crypto : Crypto) (server : ServerInfo)

/-- What `auth_aes128_sha1_pack_data` writes: a data frame keyed with the sender's key and
number, with a padding of at least one byte that leaves room for the data; only the number
moves on. -/
theorem authAes128Sha1PackData_spec (data : List UInt8) (full : Nat) (ld : AuthSimpleLocal)
    (rng : Shift128) (entropy : Entropy) :
    let r := authAes128Sha1PackData d crypto data full ld server rng entropy
    ∃ n raw, r.1 = packDataFrame d crypto (frameKey ld.userKey ld.packId) n raw data ∧
      r.2.1 = { ld with packId := ld.packId + 1 } ∧ raw.length = n ∧ 1 ≤ n ∧
      (data.length ≤ 2000 → n + data.length ≤ 2001) :=
  ⟨(getRandLen data.length full ld server rng).1 + 1,
    (randBytes entropy ((getRandLen data.length full ld server rng).1 + 1)).1, rfl, rfl,
    randBytes_length _ _, by omega,
    fun hd => by have := getRandLen_add_le hd full ld server rng; omega⟩

/-- What `auth_aes128_sha1_pack_auth_data` writes: a header for the counter after its update,
sent with the user key and id it stores, with a padding of at most 1023 bytes, 511 past 400
bytes of data. -/
theorem authAes128Sha1PackAuthData_spec (global : AuthGlobal) (ld : AuthSimpleLocal)
    (data : List UInt8) (rng : Shift128) (now : UInt32) (entropy : Entropy) :
    let r := authAes128Sha1PackAuthData d crypto global server ld data rng now entropy
    ∃ r0 n raw uid userKey e,
      r.1 = packAuthFrame d crypto server ld.salt r0 n raw uid userKey now r.2.1 data ∧
      r.2.2.1 = { ld with userKey := userKey, uid := uid } ∧
      userKey = (userKeyOf (d.hash crypto) server ld e).1 ∧ raw.length = n ∧ n ≤ 1023 ∧
      (data.length > 400 → n ≤ 511) := by
  intro r
  unfold r authAes128Sha1PackAuthData
  generalize xorshift128plus rng = draw
  obtain ⟨x, g⟩ := draw
  have h9 : (x &&& 0x1FF).toNat ≤ 511 := by rw [UInt64.toNat_and]; exact Nat.and_le_right
  have h10 : (x &&& 0x3FF).toNat ≤ 1023 := by rw [UInt64.toNat_and]; exact Nat.and_le_right
  refine ⟨_, _, _, _, _, _, rfl, rfl, rfl, randBytes_length _ _, ?_, ?_⟩
  · split_ifs <;> omega
  · intro hd; rw [if_pos hd]; exact h9

/-- A sender and a receiver on the same frame: the receiver checks the next frame with the key
and number the sender writes it with. -/
structure Keyed (ld s : AuthSimpleLocal) : Prop where
  key : ld.userKey = s.userKey
  id : ld.packId = s.recvId

/-- After one frame both numbers move on. -/
theorem Keyed.next {ld s : AuthSimpleLocal} (h : Keyed ld s) :
    Keyed { ld with packId := ld.packId + 1 } { s with recvId := s.recvId + 1 } :=
  ⟨h.key, by simp only [h.id]⟩

/-- A relation between a sender and a receiver that keeps them on the same frame: the
receiver reads every data frame the sender keys with its key and number, and one frame on
both sides keeps the relation. -/
structure FrameSync (d : AuthDigest) (crypto : Crypto)
    (st : AuthSimpleLocal → List UInt8 → Step AuthSimpleLocal UInt8 (List UInt8))
    (K : AuthSimpleLocal → AuthSimpleLocal → Prop) : Prop where
  reads : ∀ {ld s : AuthSimpleLocal} {randLen : Nat} {raw data : List UInt8}, K ld s →
    1 ≤ randLen → raw.length = randLen → randLen + data.length + 8 < 8192 →
    Reads st s (packDataFrame d crypto (frameKey ld.userKey ld.packId) randLen raw data) data
      { s with recvId := s.recvId + 1 }
  next : ∀ ld s, K ld s → K { ld with packId := ld.packId + 1 } { s with recvId := s.recvId + 1 }

/-- A round of the senders' loop, with the tuples taken apart. -/
theorem packFrames_succ {unit full fuel : Nat} {ld : AuthSimpleLocal} {rng : Shift128}
    {entropy : Entropy} {data : List UInt8} (h : data.length > unit) :
    packFrames d crypto server unit full (fuel + 1) ld rng entropy data =
      let r := authAes128Sha1PackData d crypto (data.take unit) full ld server rng entropy
      let q := packFrames d crypto server unit full fuel r.2.1 r.2.2.1 r.2.2.2 (data.drop unit)
      (r.1 ++ q.1, q.2) := by
  rw [packFrames, if_pos h]

theorem packFrames_stop {unit full fuel : Nat} {ld : AuthSimpleLocal} {rng : Shift128}
    {entropy : Entropy} {data : List UInt8} (h : ¬ data.length > unit) :
    packFrames d crypto server unit full fuel ld rng entropy data = ([], ld, rng, entropy, data) := by
  cases fuel with
  | zero => rfl
  | succ fuel => rw [packFrames, if_neg h]

/-- The loop's rest is at most one unit once the fuel covers the data. -/
theorem packFrames_rest_length {unit full : Nat} :
    ∀ fuel ld rng entropy (data : List UInt8), data.length ≤ fuel * unit + unit →
      (packFrames d crypto server unit full fuel ld rng entropy data).2.2.2.2.length ≤ unit := by
  intro fuel
  induction fuel with
  | zero => intro ld rng entropy data h; show data.length ≤ unit; omega
  | succ fuel ih =>
    intro ld rng entropy data h
    by_cases hgt : data.length > unit
    · rw [packFrames_succ d crypto server hgt]
      exact ih _ _ _ _ (by rw [List.length_drop, Nat.succ_mul] at *; omega)
    · rw [packFrames_stop d crypto server hgt]; show data.length ≤ unit; omega

variable {st : AuthSimpleLocal → List UInt8 → Step AuthSimpleLocal UInt8 (List UInt8)}
  {K : AuthSimpleLocal → AuthSimpleLocal → Prop}

/-- One data frame of at most 2000 bytes is read back by a receiver on the same frame, is no
longer than `maxFrameLength`, and moves both on by one frame. -/
theorem authAes128Sha1PackData_chain (hK : FrameSync d crypto st K) {ld s : AuthSimpleLocal}
    (hk : K ld s) {data : List UInt8} (hd : data.length ≤ authSimplePackUnitSize) (full : Nat)
    (rng : Shift128) (entropy : Entropy) :
    let r := authAes128Sha1PackData d crypto data full ld server rng entropy
    Chain st s [(r.1, data)] { s with recvId := s.recvId + 1 } ∧ r.1.length ≤ maxFrameLength ∧
      r.2.1 = { ld with packId := ld.packId + 1 } := by
  intro r
  obtain ⟨n, raw, hframe, hld, hraw, h1, hroom⟩ :=
    authAes128Sha1PackData_spec d crypto server data full ld rng entropy
  have hroom := hroom (by rw [authSimplePackUnitSize] at hd; exact hd)
  refine ⟨?chain, ?length, hld⟩
  case chain =>
    rw [hframe]
    exact .cons (hK.reads hk h1 hraw (by omega)) (.nil _)
  case length =>
    rw [hframe, packDataFrame_length d crypto _ h1 hraw, maxFrameLength]
    omega

/-- The senders' loop writes frames a receiver on the same frame reads one after another,
carrying the data up to what it leaves, and leaves the two on the same frame. -/
theorem packFrames_chain (hK : FrameSync d crypto st K) {unit : Nat}
    (hunit : unit ≤ authSimplePackUnitSize) (full : Nat) :
    ∀ fuel ld rng entropy data s, K ld s →
      let q := packFrames d crypto server unit full fuel ld rng entropy data
      ∃ fs u, Chain st s fs u ∧ wire fs = q.1 ∧ (outs fs).flatten ++ q.2.2.2.2 = data ∧
        Bounded maxFrameLength fs ∧ K q.2.1 u := by
  intro fuel
  induction fuel with
  | zero => intro ld rng entropy data s hk; exact ⟨[], s, .nil s, rfl, rfl, by simp, hk⟩
  | succ fuel ih =>
    intro ld rng entropy data s hk
    by_cases hgt : data.length > unit
    case neg =>
      rw [packFrames_stop d crypto server hgt]
      exact ⟨[], s, .nil s, rfl, rfl, by simp, hk⟩
    case pos =>
      -- the first unit is one frame; the rest is the loop again, one frame on
      rw [packFrames_succ d crypto server hgt]
      obtain ⟨hc, hl, hld⟩ := authAes128Sha1PackData_chain d crypto server hK hk
        (show (data.take unit).length ≤ authSimplePackUnitSize by rw [List.length_take]; omega)
        full rng entropy
      generalize authAes128Sha1PackData d crypto (data.take unit) full ld server rng entropy = R
        at hc hl hld ⊢
      obtain ⟨frame, ld', rng', entropy'⟩ := R
      dsimp only at hc hl hld ⊢
      subst hld
      obtain ⟨fs, u, hfs, hw, ho, hb, hku⟩ :=
        ih _ rng' entropy' (data.drop unit) _ (hK.next ld s hk)
      refine ⟨_ :: fs, u, hc.append hfs, ?_, ?_, bounded_cons.mpr ⟨hl, hb⟩, hku⟩
      · simp only [wire_cons, hw]
      · simp only [outs_cons, List.flatten_cons, List.append_assoc, ho, List.take_append_drop]

/-- Both senders' data, frames and a last one for the rest, is read back by a receiver on the
same frame, which ends on the same frame as the sender. -/
theorem packData_chain (hK : FrameSync d crypto st K) {unit : Nat} (hunit : 0 < unit)
    (hunit' : unit ≤ authSimplePackUnitSize) (full : Nat) (ld : AuthSimpleLocal) (rng : Shift128)
    (entropy : Entropy) (data : List UInt8) {s : AuthSimpleLocal} (hk : K ld s) :
    let q := packData d crypto server unit full ld rng entropy data
    ∃ fs u, Chain st s fs u ∧ wire fs = q.1 ∧ (outs fs).flatten = data ∧
      Bounded maxFrameLength fs ∧ K q.2.1 u := by
  intro q
  obtain ⟨fs, u, hfs, hw, ho, hb, hku⟩ :=
    packFrames_chain d crypto server hK hunit' full data.length ld rng entropy data s hk
  have hrest := @packFrames_rest_length d crypto server unit full data.length ld rng entropy data
    (Nat.le_add_right_of_le (Nat.le_mul_of_pos_right _ hunit))
  unfold q packData
  generalize packFrames d crypto server unit full data.length ld rng entropy data = F
    at hw ho hrest hku ⊢
  obtain ⟨frames, ld', rng', entropy', rest⟩ := F
  dsimp only at hw ho hrest hku ⊢
  by_cases hpos : rest.length > 0
  case neg =>
    -- nothing is left: no last frame
    have hnil : rest = [] := List.eq_nil_of_length_eq_zero (by omega)
    rw [if_neg hpos]
    exact ⟨fs, u, hfs, by simp [hw], by simpa [hnil] using ho, hb, hku⟩
  case pos =>
    rw [if_pos hpos]
    obtain ⟨hc, hl, hld⟩ := authAes128Sha1PackData_chain d crypto server hK hku
      (show rest.length ≤ authSimplePackUnitSize by omega) full rng' entropy'
    generalize authAes128Sha1PackData d crypto rest full ld' server rng' entropy' = R
      at hc hl hld ⊢
    obtain ⟨last, ld'', rng'', entropy''⟩ := R
    dsimp only at hc hl hld ⊢
    subst hld
    refine ⟨fs ++ [(last, rest)], _, hfs.append hc, by simp [hw], by simp [ho],
      hb.append (bounded_cons.mpr ⟨hl, bounded_nil _⟩), hK.next _ _ hku⟩

/-- A data frame is longer than its data. -/
theorem authAes128Sha1PackData_length_ge (data : List UInt8) (full : Nat) (ld : AuthSimpleLocal)
    (rng : Shift128) (entropy : Entropy) :
    data.length ≤ (authAes128Sha1PackData d crypto data full ld server rng entropy).1.length := by
  obtain ⟨n, raw, heq, -, hraw, h1, -⟩ :=
    authAes128Sha1PackData_spec d crypto server data full ld rng entropy
  rw [heq, packDataFrame_length d crypto _ h1 hraw]
  omega

/-- The loop's frames and what it leaves are at least as long as the data. -/
theorem packFrames_length_ge {unit full : Nat} :
    ∀ fuel ld rng entropy (data : List UInt8), data.length ≤
      (packFrames d crypto server unit full fuel ld rng entropy data).1.length +
        (packFrames d crypto server unit full fuel ld rng entropy data).2.2.2.2.length := by
  intro fuel
  induction fuel with
  | zero => intro ld rng entropy data; show data.length ≤ 0 + data.length; omega
  | succ fuel ih =>
    intro ld rng entropy data
    by_cases hgt : data.length > unit
    case neg => rw [packFrames_stop d crypto server hgt]; show data.length ≤ 0 + data.length; omega
    case pos =>
      rw [packFrames_succ d crypto server hgt]
      have hframe := authAes128Sha1PackData_length_ge d crypto server (data.take unit) full ld rng
        entropy
      generalize authAes128Sha1PackData d crypto (data.take unit) full ld server rng entropy = R
        at hframe ⊢
      have hrest := ih R.2.1 R.2.2.1 R.2.2.2 (data.drop unit)
      simp only [List.length_append, List.length_take, List.length_drop] at hframe hrest ⊢
      omega

/-- Both senders write at least as many bytes as they are given. -/
theorem packData_length_ge {unit full : Nat} (ld : AuthSimpleLocal) (rng : Shift128)
    (entropy : Entropy) (data : List UInt8) :
    data.length ≤ (packData d crypto server unit full ld rng entropy data).1.length := by
  have hframes := @packFrames_length_ge d crypto server unit full data.length ld rng entropy data
  unfold packData
  generalize packFrames d crypto server unit full data.length ld rng entropy data = F at hframes
  obtain ⟨frames, ld', rng', entropy', rest⟩ := F
  have hlast := authAes128Sha1PackData_length_ge d crypto server rest full ld' rng' entropy'
  dsimp only at hframes ⊢
  split_ifs with hpos
  · rw [List.length_append]; omega
  · simp only [List.append_nil]; omega

end Senders

/-! ## The server's loop, call by call -/

/-- What the server's loop goes on from, as far as its passes can tell: nothing buffered, and
before the header the key the header pass stores (it reads the state's key only after storing
it). -/
def serverNorm (key : List UInt8) (s : AuthSimpleLocal) : AuthSimpleLocal :=
  if s.hasRecvHeader then { s with recvBuffer := [] } else { s with recvBuffer := [], userKey := key }

/-- Two server states no pass of the loop tells apart. -/
def SameServer (key : List UInt8) (a b : AuthSimpleLocal) : Prop :=
  serverNorm key a = serverNorm key b

/-- A state the loop goes on from as it is: nothing buffered, and before the header the
server's key. -/
def ServerNormal (key : List UInt8) (s : AuthSimpleLocal) : Prop :=
  s.recvBuffer = [] ∧ (s.hasRecvHeader = false → s.userKey = key)

theorem serverNorm_of_normal {key : List UInt8} {s : AuthSimpleLocal} (h : ServerNormal key s) :
    serverNorm key s = s := by
  obtain ⟨he, hk⟩ := h
  unfold serverNorm
  split
  case isTrue => rw [← he]
  case isFalse hh => rw [← hk (by simpa using hh), ← he]

theorem serverNormal_serverNorm (key : List UInt8) (s : AuthSimpleLocal) :
    ServerNormal key (serverNorm key s) := by
  unfold serverNorm
  cases s.hasRecvHeader <;> simp [ServerNormal]

/-- The view does not see the buffer. -/
@[simp] theorem serverNorm_recvBuffer (key : List UInt8) (s : AuthSimpleLocal) (b : List UInt8) :
    serverNorm key { s with recvBuffer := b } = serverNorm key s := by
  unfold serverNorm
  split <;> rfl

@[simp] theorem serverNorm_hasRecvHeader (key : List UInt8) (s : AuthSimpleLocal) :
    (serverNorm key s).hasRecvHeader = s.hasRecvHeader := by
  unfold serverNorm; split <;> rfl

@[simp] theorem serverNorm_packId (key : List UInt8) (s : AuthSimpleLocal) :
    (serverNorm key s).packId = s.packId := by
  unfold serverNorm; split <;> rfl

@[simp] theorem serverNorm_unitLen (key : List UInt8) (s : AuthSimpleLocal) :
    (serverNorm key s).unitLen = s.unitLen := by
  unfold serverNorm; split <;> rfl

/-- After the header the view keeps the key. -/
theorem serverNorm_userKey {key : List UInt8} {s : AuthSimpleLocal} (h : s.hasRecvHeader = true) :
    (serverNorm key s).userKey = s.userKey := by
  rw [serverNorm, if_pos h]

/-- A server connection as its loop sees it: the state up to what no pass reads, and what is
buffered. -/
def serverView (key : List UInt8) (ld : AuthSimpleLocal) : AuthSimpleLocal × List UInt8 :=
  (serverNorm key ld, ld.recvBuffer)

section ServerLoop

variable (d : AuthDigest) (crypto : Crypto) (server : ServerInfo) (now : UInt32)

/-- Every pass of the server's loop from a state agrees, up to `SameServer`, with the pass from
what the loop can tell of it. -/
theorem serverStep_norm (s : AuthSimpleLocal) (buf : List UInt8) :
    StepRel (SameServer server.key) (serverStep d crypto server now s buf)
      (serverStep d crypto server now (serverNorm server.key s) buf) := by
  cases hh : s.hasRecvHeader
  case false =>
    -- the header pass stores the server's key before it reads the state's
    have hN : serverNorm server.key s = { s with recvBuffer := [], userKey := server.key } := by
      simp [serverNorm, hh]
    rw [hN]
    unfold serverStep serverHeaderStep
    simp only [hh]
    split_ifs <;> simp [StepRel, SameServer, serverNorm, hh]
  case true =>
    -- the data passes read the key and the number, which the view keeps
    have hN : serverNorm server.key s = { s with recvBuffer := [] } := by simp [serverNorm, hh]
    rw [hN]
    unfold serverStep
    simp only [hh, Bool.true_eq_false, reduceIte]
    split_ifs
    case pos => simp [StepRel, SameServer, serverNorm, hh]
    case neg =>
      generalize dataFrame d crypto (frameKey s.userKey s.recvId) 7 buf = r
      cases r <;> simp [StepRel, SameServer, serverNorm, hh]

/-- Every pass of the server's loop keeps a state the loop goes on from as it is. -/
theorem serverStep_keeps_normal (s : AuthSimpleLocal) (buf : List UInt8)
    (hs : ServerNormal server.key s) :
    Keeps (ServerNormal server.key) (serverStep d crypto server now s buf) := by
  obtain ⟨he, hk⟩ := hs
  unfold serverStep
  by_cases hh : s.hasRecvHeader = false
  case pos =>
    -- the header pass goes on from the state, or from it with the server's key stored
    rw [if_pos hh]
    unfold serverHeaderStep
    dsimp only
    split_ifs <;> simp [Keeps, ServerNormal, he, hk hh]
  case neg =>
    rw [if_neg hh]
    split_ifs
    · simp [Keeps, ServerNormal, he, hh]
    · split <;> simp [Keeps, ServerNormal, he, hh]

/-- Passes from states no pass tells apart agree. -/
theorem serverStep_rel (s s' : AuthSimpleLocal) (buf : List UInt8)
    (h : SameServer server.key s s') :
    StepRel (SameServer server.key) (serverStep d crypto server now s buf)
      (serverStep d crypto server now s' buf) := by
  have h₂ := serverStep_norm d crypto server now s' buf
  rw [← show serverNorm server.key s = serverNorm server.key s' from h] at h₂
  exact StepRel.trans (R := SameServer server.key) (fun _ _ _ h₁ h₂ => Eq.trans h₁ h₂)
    (serverStep_norm d crypto server now s buf)
    (StepRel.symm (R := SameServer server.key) (fun _ _ h => Eq.symm h) h₂)

/-- `auth_aes128_sha1_server_post_decrypt` drains every chunk it is given, as its view sees
the connection. -/
theorem serverPostDecrypt_drains :
    Drains (serverStep d crypto server now) (authAes128Sha1ServerPostDecrypt d crypto server now)
      (serverView server.key) (fun _ _ => True) id := by
  intro t c _
  simp only [serverView]
  -- the code's loop starts from the state; the view's from what the loop can tell of it
  obtain ⟨hok, hrest, hout, hst⟩ := drain_rel (SameServer server.key)
    (serverStep_rel d crypto server now) ((t.recvBuffer ++ c).length + 1)
    { t with recvBuffer := [] } (serverNorm server.key t) (t.recvBuffer ++ c)
    (by rw [SameServer, serverNorm_recvBuffer, serverNorm_of_normal (serverNormal_serverNorm _ _)])
  have hkeep := drain_keeps (ServerNormal server.key) (serverStep_keeps_normal d crypto server now)
    ((t.recvBuffer ++ c).length + 1) (serverNorm server.key t) (t.recvBuffer ++ c)
    (serverNormal_serverNorm _ _)
  unfold authAes128Sha1ServerPostDecrypt drainAll
  generalize drain (serverStep d crypto server now) ((t.recvBuffer ++ c).length + 1)
    { t with recvBuffer := [] } (t.recvBuffer ++ c) = r at hok hrest hout hst ⊢
  generalize drain (serverStep d crypto server now) ((t.recvBuffer ++ c).length + 1)
    (serverNorm server.key t) (t.recvBuffer ++ c) = r' at hok hrest hout hst hkeep ⊢
  refine ⟨fun h => by simp [hok, h], fun h => ⟨by simp [hok, h, hout, List.flatMap_id], ?_⟩⟩
  simp only [serverNorm_recvBuffer]
  rw [show serverNorm server.key r.state = serverNorm server.key r'.state from hst,
    serverNorm_of_normal hkeep, hrest]

end ServerLoop

@[simp] theorem serverStep_nil (d : AuthDigest) (crypto : Crypto) (server : ServerInfo)
    (now : UInt32) (s : AuthSimpleLocal) : serverStep d crypto server now s [] = .more s := by
  unfold serverStep serverHeaderStep
  split <;> rfl

@[simp] theorem clientStep_nil (d : AuthDigest) (crypto : Crypto) (s : AuthSimpleLocal) :
    clientStep d crypto s [] = .more s := rfl

/-! ## Streams -/

/-- What one call of the client's encoder reads besides its connection's state: the clock, and
the process-wide ids, generator and entropy, which other connections move between calls. -/
structure ClientWorld where
  now : UInt32
  global : AuthGlobal
  rng : Shift128
  entropy : Entropy

/-- The client's encoder called on payloads in order, the `k`-th call finding `world k`: its
state after them, and the bytes it sends, back to back. -/
def clientSends (d : AuthDigest) (crypto : Crypto) (server : ServerInfo) :
    (Nat → ClientWorld) → AuthSimpleLocal → List (List UInt8) → AuthSimpleLocal × List UInt8
  | _, ld, [] => (ld, [])
  | world, ld, p :: ps =>
    let r := authAes128Sha1ClientPreEncrypt d crypto server (world 0).now ld (world 0).global
      (world 0).rng (world 0).entropy p
    let q := clientSends d crypto server (fun k => world (k + 1)) r.localData ps
    (q.1, r.out ++ q.2)

/-- The server's encoder called on payloads in order, the `k`-th call drawing from
`draws k`: its state after them, and the bytes it sends, back to back. -/
def serverSends (d : AuthDigest) (crypto : Crypto) (server : ServerInfo) :
    (Nat → Shift128 × Entropy) → AuthSimpleLocal → List (List UInt8) →
      AuthSimpleLocal × List UInt8
  | _, ld, [] => (ld, [])
  | draws, ld, p :: ps =>
    let r := authAes128Sha1ServerPreEncrypt d crypto server ld (draws 0).1 (draws 0).2 p
    let q := serverSends d crypto server (fun k => draws (k + 1)) r.2.1 ps
    (q.1, r.1 ++ q.2)

/-- A client connection and the server's loop state for it agree, `key` being the server's
own key. -/
structure Synced (key : List UInt8) (ld s : AuthSimpleLocal) : Prop where
  /-- the header has been sent exactly when it has come -/
  header : ld.hasSentHeader = s.hasRecvHeader
  /-- the server checks the header with the client's salt -/
  salt : s.salt = ld.salt
  /-- the server checks the next frame with the number the client writes it with -/
  id : ld.packId = s.recvId
  /-- after the header both key the frames with the key it went out with -/
  sent : ld.hasSentHeader = true → ld.userKey = s.userKey
  /-- before it the client has no key, and the server's loop holds the server's -/
  fresh : ld.hasSentHeader = false → ld.userKey = [] ∧ s.userKey = key
  /-- the client has read nothing, and will read from the number the server sends from -/
  reply : ld.recvId = s.packId
  empty : ld.recvBuffer = []
  /-- the server's frames carry 2000 bytes, and it allows a day of clock skew -/
  unit : s.unitLen = authSimplePackUnitSize
  clock : s.maxTimeDif = 60 * 60 * 24

theorem synced_init (d : AuthDigest) (key : List UInt8) (clientEntropy serverEntropy : Entropy) :
    Synced key (authAes128NewObfs d clientEntropy).1
      (serverNorm key (authAes128NewObfs d serverEntropy).1) where
  header := rfl
  salt := rfl
  id := rfl
  sent h := absurd h Bool.false_ne_true
  fresh _ := ⟨rfl, rfl⟩
  reply := rfl
  empty := rfl
  unit := rfl
  clock := rfl

/-- The payload's length is kept for the next call; nothing the two agree on reads it. -/
theorem Synced.lastDataLen {key : List UInt8} {ld s : AuthSimpleLocal} (h : Synced key ld s)
    (n : Nat) : Synced key { ld with lastDataLen := n } s :=
  ⟨h.header, h.salt, h.id, h.sent, h.fresh, h.reply, h.empty, h.unit, h.clock⟩

section ClientStream

variable (d : AuthDigest) (crypto : Crypto) {server server' : ServerInfo} {now' : UInt32}

/-- After the header, the server's loop reads the client's data frames. -/
theorem sent_frameSync :
    FrameSync d crypto (serverStep d crypto server' now')
      (fun ld s => Synced server'.key ld s ∧ ld.hasSentHeader = true) where
  reads := by
    intro ld s randLen raw data ⟨hs, hsent⟩ h1 hraw hlen
    rw [hs.sent hsent, hs.id]
    exact serverStep_reads d crypto server' now' (hs.header.symm.trans hsent) h1 hraw hlen
  next := by
    intro ld s ⟨hs, hsent⟩
    exact ⟨⟨hs.header, hs.salt, by simp only [hs.id], hs.sent, hs.fresh, hs.reply, hs.empty,
      hs.unit, hs.clock⟩, hsent⟩

/-- The key of the header's first HMACs, as the server builds it from its receive IV and key. -/
theorem macKey_eq (hkey : server'.key = server.key) (hiv : server'.recvIv = server.iv)
    (hsizes : server.iv.length + server.key.length < 256) :
    server'.recvIv ++ server'.key = headerMacKey server := by
  rw [hiv, hkey, headerMacKey, Nat.mod_eq_of_lt hsizes, ← List.length_append, List.take_length]

variable (hkey : server'.key = server.key) (hiv : server'.recvIv = server.iv)
  (hparam : ∀ p, server.param = some p → strchr p 0x3a = none)
  (hsizes : server.iv.length + server.key.length < 256)
  (haes : ∀ k b, crypto.aes128CbcDecrypt k (crypto.aes128CbcEncrypt k b) = b)

include hkey hiv hparam hsizes haes in
/-- The first header, carrying at most 1200 bytes, is read by the server's loop, is no longer
than `maxFrameLength`, and goes out with the server's key. -/
theorem packAuthData_chain {now : UInt32} {ld s : AuthSimpleLocal}
    (hsync : Synced server'.key ld s) (hfresh : ld.hasSentHeader = false)
    (htime : timeDif now' now ≤ 60 * 60 * 24) (global : AuthGlobal) {data : List UInt8}
    (hd : data.length ≤ 1200) (rng : Shift128) (entropy : Entropy) :
    let r := authAes128Sha1PackAuthData d crypto global server ld data rng now entropy
    Chain (serverStep d crypto server' now') s [(r.1, data)] (afterHeader s r.2.1) ∧
      r.1.length ≤ maxFrameLength ∧ r.2.2.1 = { ld with userKey := server.key, uid := r.2.2.1.uid } := by
  intro r
  obtain ⟨r0, n, raw, uid, userKey, e, hframe, hld, hkeyOf, hraw, h1023, h511⟩ :=
    authAes128Sha1PackAuthData_spec d crypto server global ld data rng now entropy
  -- without a colon in the parameter the header goes out with the server's key
  have hu : userKey = server.key :=
    hkeyOf.trans (userKeyOf_of_no_colon (d.hash crypto) hparam (hsync.fresh hfresh).1 e)
  subst hu
  have hs : s.hasRecvHeader = false := hsync.header.symm.trans hfresh
  have hlen : n + 31 + data.length + 4 ≤ 1746 := by
    by_cases h400 : data.length > 400
    · have := h511 h400; omega
    · omega
  refine ⟨?chain, ?length, ?state⟩
  case chain =>
    rw [hframe]
    exact .cons (header_reads d crypto server ld.salt r0 raw uid server.key now r.2.1 data hs
      ((hsync.fresh hfresh).2.trans hkey) hkey hsync.salt (macKey_eq hkey hiv hsizes) haes
      (by rw [hsync.clock]; exact htime) hraw (by omega)) (.nil _)
  case length =>
    rw [hframe, packAuthFrame_length d crypto server ld.salt r0 raw uid _ now _ data hraw,
      maxFrameLength]
    omega
  case state => rw [hld]

include hkey hiv hparam hsizes haes in
/-- One call of the client's encoder writes frames the server's loop reads, carrying the
payload, and leaves the two in agreement; either it writes nothing or the header is in. -/
theorem clientPreEncrypt_chain {now : UInt32} {ld s : AuthSimpleLocal}
    (hsync : Synced server'.key ld s) (htime : timeDif now' now ≤ 60 * 60 * 24)
    (global : AuthGlobal) (rng : Shift128) (entropy : Entropy) (plaindata : List UInt8) :
    let r := authAes128Sha1ClientPreEncrypt d crypto server now ld global rng entropy plaindata
    ∃ fs u, Chain (serverStep d crypto server' now') s fs u ∧ wire fs = r.out ∧
      (outs fs).flatten = plaindata ∧ Bounded maxFrameLength fs ∧
      Synced server'.key r.localData u ∧ (fs = [] ∨ u.hasRecvHeader = true) := by
  intro r
  unfold r authAes128Sha1ClientPreEncrypt
  have hunit : 0 < authSimplePackUnitSize := by decide
  by_cases hc : plaindata.length > 0 ∧ ld.hasSentHeader = false
  case pos =>
    -- the first data: the header, then frames of what it leaves
    rw [if_pos hc]
    dsimp only
    obtain ⟨hc₁, hl₁, hld₁⟩ := packAuthData_chain d crypto hkey hiv hparam hsizes haes hsync hc.2
      htime global
      (show (plaindata.take (min 1200 plaindata.length)).length ≤ 1200 by
        rw [List.length_take]; omega) rng entropy
    generalize authAes128Sha1PackAuthData d crypto global server ld
      (plaindata.take (min 1200 plaindata.length)) rng now entropy = H at hc₁ hl₁ hld₁ ⊢
    obtain ⟨header, global', ld', rng', entropy'⟩ := H
    dsimp only at hc₁ hl₁ hld₁ ⊢
    -- after the header both go on with the server's key
    have hsync' : Synced server'.key { ld' with hasSentHeader := true } (afterHeader s global') := by
      rw [hld₁]
      exact ⟨rfl, hsync.salt, hsync.id, fun _ => ((hsync.fresh hc.2).2.trans hkey).symm,
        fun h => by simp at h, hsync.reply, hsync.empty, hsync.unit, hsync.clock⟩
    obtain ⟨fs, u, hfs, hw, ho, hb, hK⟩ := packData_chain d crypto server
      (@sent_frameSync d crypto server' now') hunit le_rfl plaindata.length
      { ld' with hasSentHeader := true } rng' entropy' (plaindata.drop (min 1200 plaindata.length))
      ⟨hsync', rfl⟩
    generalize packData d crypto server authSimplePackUnitSize plaindata.length
      { ld' with hasSentHeader := true } rng' entropy'
      (plaindata.drop (min 1200 plaindata.length)) = D at hw hK ⊢
    obtain ⟨body, ld'', rng'', entropy''⟩ := D
    dsimp only at hw hK ⊢
    exact ⟨(header, plaindata.take (min 1200 plaindata.length)) :: fs, u, hc₁.append hfs,
      by simp [hw], by simp [ho], bounded_cons.mpr ⟨hl₁, hb⟩, hK.1.lastDataLen _,
      .inr (hK.1.header.symm.trans hK.2)⟩
  case neg =>
    rw [if_neg hc]
    dsimp only
    by_cases hsent : ld.hasSentHeader = true
    case pos =>
      -- the header has gone before: data frames only
      obtain ⟨fs, u, hfs, hw, ho, hb, hK⟩ := packData_chain d crypto server
        (@sent_frameSync d crypto server' now') hunit le_rfl plaindata.length ld rng entropy
        plaindata ⟨hsync, hsent⟩
      generalize packData d crypto server authSimplePackUnitSize plaindata.length ld rng entropy
        plaindata = D at hw hK ⊢
      obtain ⟨body, ld'', rng'', entropy''⟩ := D
      dsimp only at hw hK ⊢
      exact ⟨fs, u, hfs, by simp [hw], ho, hb, hK.1.lastDataLen _,
        .inr (hK.1.header.symm.trans hK.2)⟩
    case neg =>
      -- no header yet and nothing to send: nothing is written
      have hnil : plaindata = [] := by
        apply List.eq_nil_of_length_eq_zero
        cases h : ld.hasSentHeader <;> simp_all
      subst hnil
      exact ⟨[], s, .nil s, rfl, rfl, bounded_nil _, hsync.lastDataLen _, .inl rfl⟩

include hkey hiv hparam hsizes haes in
/-- The client's whole stream is frames the server's loop reads, carrying the payloads, when
every call's clock is within a day of the server's; the two end in agreement. -/
theorem clientSends_chain (payloads : List (List UInt8)) :
    ∀ (world : Nat → ClientWorld) {ld s : AuthSimpleLocal}, Synced server'.key ld s →
      (∀ k, timeDif now' (world k).now ≤ 60 * 60 * 24) →
      ∃ fs u, Chain (serverStep d crypto server' now') s fs u ∧
        wire fs = (clientSends d crypto server world ld payloads).2 ∧
        (outs fs).flatten = payloads.flatten ∧ Bounded maxFrameLength fs ∧
        Synced server'.key (clientSends d crypto server world ld payloads).1 u ∧
        (fs = [] ∨ u.hasRecvHeader = true) := by
  induction payloads with
  | nil =>
    intro world ld s hsync _
    exact ⟨[], s, .nil s, rfl, rfl, bounded_nil _, hsync, .inl rfl⟩
  | cons p ps ih =>
    intro world ld s hsync htime
    -- the first call, then the rest from the states it leaves
    obtain ⟨fs, u, hfs, hw, ho, hb, hsync', hor⟩ := clientPreEncrypt_chain d crypto hkey hiv
      hparam hsizes haes hsync (htime 0) (world 0).global (world 0).rng (world 0).entropy p
    obtain ⟨gs, v, hgs, hw', ho', hb', hsync'', hor'⟩ :=
      ih (fun k => world (k + 1)) hsync' (fun k => htime (k + 1))
    refine ⟨fs ++ gs, v, hfs.append hgs, ?_, ?_, hb.append hb', hsync'', ?_⟩
    · rw [wire_append, hw, hw', clientSends]
    · rw [outs_append, List.flatten_append, ho, ho', List.flatten_cons]
    · -- nothing was sent, or the header is in and stays in
      rcases hor' with rfl | hv
      · rw [← hgs.nil_eq, List.append_nil]; exact hor
      · exact .inr hv

end ClientStream

/-! ## The server's stream, read by the client -/

section ServerStream

variable (d : AuthDigest) (crypto : Crypto) (server : ServerInfo)

/-- The client's loop reads the data frames of a server on the same frame whose frames carry
2000 bytes. -/
theorem reply_frameSync :
    FrameSync d crypto (clientStep d crypto)
      (fun ld s => Keyed ld s ∧ ld.unitLen = authSimplePackUnitSize) where
  reads := by
    intro ld s randLen raw data ⟨hk, _⟩ h1 hraw hlen
    rw [hk.key, hk.id]
    exact clientStep_reads d crypto s h1 hraw hlen
  next := by
    intro ld s ⟨hk, hu⟩
    exact ⟨hk.next, hu⟩

/-- The server's whole stream is data frames the client's loop reads, carrying the payloads,
from a client on the server's frame. -/
theorem serverSends_chain (payloads : List (List UInt8)) :
    ∀ (draws : Nat → Shift128 × Entropy) {ld s : AuthSimpleLocal}, Keyed ld s →
      ld.unitLen = authSimplePackUnitSize →
      ∃ fs u, Chain (clientStep d crypto) s fs u ∧
        wire fs = (serverSends d crypto server draws ld payloads).2 ∧
        (outs fs).flatten = payloads.flatten ∧ Bounded maxFrameLength fs := by
  induction payloads with
  | nil => intro draws ld s _ _; exact ⟨[], s, .nil s, rfl, rfl, bounded_nil _⟩
  | cons p ps ih =>
    intro draws ld s hk hu
    -- one call: frames of `unit_len` bytes and a last one, then the rest of the calls
    obtain ⟨fs, u, hfs, hw, ho, hb, hk', hu'⟩ := packData_chain d crypto server
      (reply_frameSync d crypto) (by rw [hu]; decide) hu.le p.length ld (draws 0).1 (draws 0).2 p
      ⟨hk, hu⟩
    obtain ⟨gs, v, hgs, hw', ho', hb'⟩ := ih (fun k => draws (k + 1)) hk' hu'
    refine ⟨fs ++ gs, v, hfs.append hgs, ?_, ?_, hb.append hb'⟩
    · rw [wire_append, hw, hw']; rfl
    · rw [outs_append, List.flatten_append, ho, ho', List.flatten_cons]

end ServerStream

/-! ## The receivers, call by call -/

section Calls

variable (d : AuthDigest) (crypto : Crypto)

theorem clientStep_keeps_recvBuffer (s : AuthSimpleLocal) (buf : List UInt8)
    (hs : s.recvBuffer = []) : Keeps (fun s => s.recvBuffer = []) (clientStep d crypto s buf) := by
  unfold clientStep
  split_ifs
  all_goals (try split) <;> simp only [Keeps, hs]

/-- `auth_aes128_sha1_client_post_decrypt` drains every chunk that fits its 16384-byte buffer
with what is buffered. -/
theorem clientPostDecrypt_drains :
    Drains (clientStep d crypto) (authAes128Sha1ClientPostDecrypt d crypto) recvView
      (fun q c => q.length + c.length ≤ 16384) id := by
  intro t c hfit
  have hkeep : (drainAll (clientStep d crypto) { t with recvBuffer := [] }
      (t.recvBuffer ++ c)).state.recvBuffer = [] :=
    drain_keeps _ (clientStep_keeps_recvBuffer d crypto) _ _ _ rfl
  unfold authAes128Sha1ClientPostDecrypt
  simp only [recvView] at hfit ⊢
  rw [if_neg (by omega)]
  generalize drainAll (clientStep d crypto) { t with recvBuffer := [] } (t.recvBuffer ++ c) = r
    at hkeep ⊢
  refine ⟨fun hok => by simp [hok], fun hok => ⟨by simp [hok, List.flatMap_id], ?_⟩⟩
  rw [recvBuffer_nil_eq hkeep]

/-- A chunk with no bytes leaves a server connection that has buffered nothing as it is. -/
theorem serverPostDecrypt_nil (server : ServerInfo) (now : UInt32) {t : AuthSimpleLocal}
    (h : t.recvBuffer = []) :
    authAes128Sha1ServerPostDecrypt d crypto server now t [] = (t, some []) := by
  have ht : { t with recvBuffer := [] } = t := recvBuffer_nil_eq h
  simp [authAes128Sha1ServerPostDecrypt, drainAll, drain, h, ht]

/-- Chunks with no bytes at all leave it as it is. -/
theorem run_serverPostDecrypt_of_flatten_nil (server : ServerInfo) (now : UInt32) :
    ∀ (cs : List (List UInt8)) (t : AuthSimpleLocal), cs.flatten = [] → t.recvBuffer = [] →
      (run (authAes128Sha1ServerPostDecrypt d crypto server now) t cs).1 = t := by
  intro cs
  induction cs with
  | nil => intro t _ _; rfl
  | cons c cs ih =>
    intro t hcs ht
    obtain ⟨rfl, hcs'⟩ : c = [] ∧ cs.flatten = [] := by simpa using hcs
    rw [run, serverPostDecrypt_nil d crypto server now ht]
    exact ih t hcs' ht

/-- The client refuses a read that would fill its buffer past 16384 bytes, and keeps its
state. -/
theorem authAes128Sha1ClientPostDecrypt_of_full {ld : AuthSimpleLocal} {buf : List UInt8}
    (h : ld.recvBuffer.length + buf.length > 16384) :
    authAes128Sha1ClientPostDecrypt d crypto ld buf = (ld, none) := by
  rw [authAes128Sha1ClientPostDecrypt, if_pos h]

end Calls

/-! ## The round trip -/

/-- **`auth_aes128_md5` and `auth_aes128_sha1` carry both directions under every segmentation,
within their limits.** Take a client and a server made by `auth_aes128_*_new_obfs` with the same
key, the client's IV as the server's receive IV (IV and key under 256 bytes together, as every
cipher's are) and a parameter without a colon, and any HMAC with an AES whose decryption undoes
its encryption. The client's encoder, called on any payloads in order (any clocks, process-wide
ids, generators and entropy at each call), writes a stream that the server's decoder, given it
cut into any reads, turns back into the payloads without handing back the `E` buffer, provided
every client clock is within `max_time_dif` (a day) of the server's. From there, the server's
encoder, on any replies, writes a stream that the client's decoder turns back into the replies
without returning `-1`, provided no read is over 14376 bytes (a pending frame is at most 2008
bytes, and the client refuses to buffer more than 16384). -/
theorem aes128_round_trip_within_clock_and_buffer (d : AuthDigest) (crypto : Crypto)
    (server server' : ServerInfo) (hkey : server'.key = server.key)
    (hiv : server'.recvIv = server.iv)
    (hparam : ∀ p, server.param = some p → strchr p 0x3a = none)
    (hsizes : server.iv.length + server.key.length < 256)
    (haes : ∀ k b, crypto.aes128CbcDecrypt k (crypto.aes128CbcEncrypt k b) = b)
    (clientEntropy serverEntropy : Entropy) (serverNow : UInt32) (world : Nat → ClientWorld)
    (payloads cs : List (List UInt8))
    (htime : ∀ k, timeDif serverNow (world k).now ≤ 60 * 60 * 24)
    (hcs : cs.flatten =
      (clientSends d crypto server world (authAes128NewObfs d clientEntropy).1 payloads).2) :
    let served := run (authAes128Sha1ServerPostDecrypt d crypto server' serverNow)
      (authAes128NewObfs d serverEntropy).1 cs
    served.2 = some payloads.flatten ∧
      ∀ (draws : Nat → Shift128 × Entropy) (replies rs : List (List UInt8)),
        (∀ r ∈ rs, r.length ≤ 14376) →
        rs.flatten = (serverSends d crypto server' draws served.1 replies).2 →
        (run (authAes128Sha1ClientPostDecrypt d crypto)
          (clientSends d crypto server world (authAes128NewObfs d clientEntropy).1 payloads).1
          rs).2 = some replies.flatten := by
  intro served
  -- the client's stream is a chain of frames from what the server's loop starts from ...
  obtain ⟨fs, u, hch, hw, ho, hb, hsync, hor⟩ := clientSends_chain d crypto hkey hiv hparam hsizes
    haes payloads world (synced_init d server'.key clientEntropy serverEntropy) htime
  -- ... and the server's decoder reads every cut of a chain
  have hrun := run_chain (serverPostDecrypt_drains d crypto server' serverNow) hch
    (serverStep_nil d crypto server' serverNow u) hb (fun _ _ _ _ => trivial) (hcs.trans hw.symm)
    (t := (authAes128NewObfs d serverEntropy).1) rfl
  refine ⟨by rw [hrun.2, List.flatMap_id, ho], ?_⟩
  intro draws replies rs hread hrs
  obtain ⟨hnorm, -⟩ := Prod.mk.inj hrun.1
  generalize clientSends d crypto server world (authAes128NewObfs d clientEntropy).1 payloads = C
    at hsync ⊢
  -- the server replies on the frame the client reads from
  have hkeyed : Keyed served.1 C.1 := by
    refine ⟨?key, by rw [← serverNorm_packId server'.key, hnorm, hsync.reply]⟩
    cases hh : C.1.hasSentHeader
    case true =>
      have hu : served.1.hasRecvHeader = true := by
        rw [← serverNorm_hasRecvHeader server'.key, hnorm, ← hsync.header, hh]
      rw [← serverNorm_userKey hu, hnorm, hsync.sent hh]
    case false =>
      -- no header went out, so nothing did, and the server is where it started
      have hfs : fs = [] := hor.resolve_right (by rw [← hsync.header, hh]; decide)
      have hnil : cs.flatten = [] := by rw [hcs, ← hw, hfs, wire_nil]
      rw [(hsync.fresh hh).1]
      exact congrArg AuthSimpleLocal.userKey (run_serverPostDecrypt_of_flatten_nil d crypto server'
        serverNow cs _ hnil rfl)
  have hunit : served.1.unitLen = authSimplePackUnitSize := by
    rw [← serverNorm_unitLen server'.key, hnorm, hsync.unit]
  obtain ⟨gs, v, hgs, hw', ho', hb'⟩ := serverSends_chain d crypto server' replies draws hkeyed hunit
  -- whatever is pending is a proper prefix of a frame, so every read fits the buffer
  have hfit : ∀ q : List UInt8, q.length < maxFrameLength ∨ q = [] →
      ∀ c ∈ rs, q.length + c.length ≤ 16384 := by
    intro q hq c hc
    have := hread c hc
    rw [maxFrameLength] at hq
    rcases hq with hq | rfl
    · omega
    · simp only [List.length_nil]; omega
  have hrun' := run_chain (clientPostDecrypt_drains d crypto) hgs (clientStep_nil d crypto v) hb'
    hfit (hrs.trans hw'.symm) (recvView_of_empty hsync.empty)
  rw [hrun'.2, List.flatMap_id, ho']

/-! ## A sample run -/

def sampleKey : List UInt8 := ascii "key"

def sampleIv : List UInt8 := (List.range 16).map Nat.toUInt8

/-- One `server_info` for both ends: the client's IV is the server's receive IV. -/
def sampleServer : ServerInfo :=
  { host := ascii "example.com", port := 8388, param := none, iv := sampleIv, recvIv := sampleIv,
    key := sampleKey, headLen := 7, tcpMss := 1460, overhead := 0, bufferSize := 2048 }

def sampleEntropy : Entropy := ⟨fun i => i.toUInt8, 0⟩

/-- What the client's calls find: a clock, the process-wide ids, and a generator whose next
draw is 0, so that the header has no padding. -/
def sampleWorld : ClientWorld :=
  { now := 0x5f5e1000, global := ⟨Vector.ofFn fun i => (0x40 + i.val).toUInt8, 0x10⟩,
    rng := ⟨0, 0⟩, entropy := sampleEntropy }

/-- A request: the address 127.0.0.1 port 80, then five bytes of data. -/
def samplePayload : List UInt8 := [1, 127, 0, 0, 1, 0, 80] ++ ascii "GET /"

def sampleReply : List UInt8 := ascii "HTTP/1.1 200 OK"

/-- The header's AES key, `MD5` of the key in base64 and the salt. -/
def sampleAesKey : Vector UInt8 16 :=
  #v[0x6c, 0x45, 0xbd, 0x47, 0xd3, 0x64, 0x28, 0xeb, 0x0b, 0x62, 0x6f, 0xe7, 0x76, 0x65, 0xbd, 0x2f]

/-- The header's sixteen plain bytes: the time, the client id, the counter 0x11, the
header's 47 bytes and no padding. -/
def samplePlain : Vector UInt8 16 :=
  #v[0x00, 0x10, 0x5e, 0x5f, 0x40, 0x41, 0x42, 0x43, 0x11, 0x00, 0x00, 0x00, 0x2f, 0x00, 0x00, 0x00]

/-- The block AES-128 makes of them under the key. -/
def sampleCipher : Vector UInt8 16 :=
  #v[0x65, 0xa2, 0x68, 0x5e, 0x0a, 0x87, 0x5c, 0x5a, 0x23, 0xd7, 0x3a, 0x2a, 0x2b, 0xd3, 0xd6, 0x56]

/-- AES-128 known on the run's one block: it swaps the plain block and its cipher under the
run's key, so that decryption undoes encryption on every block. -/
def sampleAes (k b : Vector UInt8 16) : Vector UInt8 16 :=
  if k = sampleAesKey ∧ b = samplePlain then sampleCipher
  else if k = sampleAesKey ∧ b = sampleCipher then samplePlain
  else b

theorem sampleAes_sampleAes (k b : Vector UInt8 16) : sampleAes k (sampleAes k b) = b := by
  by_cases h₁ : k = sampleAesKey ∧ b = samplePlain
  · obtain ⟨rfl, rfl⟩ := h₁; decide
  · by_cases h₂ : k = sampleAesKey ∧ b = sampleCipher
    · obtain ⟨rfl, rfl⟩ := h₂; decide
    · have hb : sampleAes k b = b := by rw [sampleAes, if_neg h₁, if_neg h₂]
      rw [hb, hb]

/-- `MD5`, HMAC-MD5 and AES-128 as the library computes them on the messages of the run: the
header's key, its two HMACs under the IV and the key and its checksum, and the reply's two. -/
def sampleCrypto : Crypto where
  md5 := tableDigest [(stdBase64Encode sampleKey ++ authAes128Salt .md5, sampleAesKey)]
  sha1 := tableDigest []
  hmacMd5 := tableKeyed [
    ((sampleIv ++ sampleKey, [0x04]),
      #v[0xc0, 0x39, 0x5e, 0x8d, 0xdb, 0xef, 0x66, 0x51, 0x0c, 0x07, 0xae, 0xbe, 0x3d, 0xdc,
       0xb4, 0x74]),
    ((sampleIv ++ sampleKey, [0x00, 0x01, 0x02, 0x03] ++ sampleCipher.toList),
      #v[0xbf, 0xcf, 0x84, 0x12, 0xbd, 0x6f, 0x3e, 0xa3, 0x1f, 0x7c, 0x8e, 0x6d, 0xf5, 0xed,
       0x7e, 0x07]),
    ((sampleKey, [0x04, 0xc0, 0x39, 0x5e, 0x8d, 0xdb, 0xef, 0x00, 0x01, 0x02, 0x03] ++
        sampleCipher.toList ++ [0xbf, 0xcf, 0x84, 0x12] ++ samplePayload),
      #v[0x72, 0xd8, 0x01, 0x66, 0x0b, 0x7a, 0xa8, 0x67, 0x23, 0xf2, 0xa9, 0x1b, 0x5a, 0x78,
       0xe0, 0xee]),
    ((frameKey sampleKey 1, [0x18, 0x00]),
      #v[0x9e, 0x08, 0x35, 0x93, 0x3a, 0xe8, 0x94, 0x7b, 0x9a, 0x66, 0xb8, 0xa8, 0xc8, 0x52,
       0x3f, 0x81]),
    ((frameKey sampleKey 1, [0x18, 0x00, 0x9e, 0x08, 0x01] ++ sampleReply),
      #v[0xfb, 0x67, 0x8f, 0x4e, 0x03, 0x91, 0xf5, 0x85, 0xae, 0x9c, 0x54, 0x51, 0x1f, 0xfb,
       0x44, 0x74])
  ]
  hmacSha1 := tableKeyed []
  aes128CbcEncrypt := sampleAes
  aes128CbcDecrypt := sampleAes

/-- The client's 47 bytes: a header carrying the whole request. -/
def sampleClientStream : List UInt8 :=
  (clientSends .md5 sampleCrypto sampleServer (fun _ => sampleWorld)
    (authAes128NewObfs .md5 sampleEntropy).1 [samplePayload]).2

/-- The server's state after reading the request as 20 bytes and 27. -/
def sampleServed : AuthSimpleLocal × Option (List UInt8) :=
  run (authAes128Sha1ServerPostDecrypt .md5 sampleCrypto sampleServer sampleWorld.now)
    (authAes128NewObfs .md5 sampleEntropy).1 [sampleClientStream.take 20, sampleClientStream.drop 20]

/-- The server's 24 bytes: one data frame carrying the reply. -/
def sampleServerStream : List UInt8 :=
  (serverSends .md5 sampleCrypto sampleServer (fun _ => (⟨0, 0⟩, sampleEntropy)) sampleServed.1
    [sampleReply]).2

/-- On the sample run the client's stream, read as 20 bytes and 27, and the server's reply,
read as 3 bytes and the rest, come back whole. -/
theorem aes128_round_trip_on_sample_run :
    sampleServed.2 = some [samplePayload].flatten ∧
      (run (authAes128Sha1ClientPostDecrypt .md5 sampleCrypto)
        (clientSends .md5 sampleCrypto sampleServer (fun _ => sampleWorld)
          (authAes128NewObfs .md5 sampleEntropy).1 [samplePayload]).1
        [sampleServerStream.take 3, sampleServerStream.drop 3]).2 = some [sampleReply].flatten :=
  (aes128_round_trip_within_clock_and_buffer .md5 sampleCrypto sampleServer sampleServer rfl rfl
    (fun _ hp => by cases hp) (by decide) sampleAes_sampleAes sampleEntropy sampleEntropy
    sampleWorld.now (fun _ => sampleWorld) [samplePayload] _ (fun _ => by decide)
    (by simp [sampleClientStream])).imp_right
    fun h => h (fun _ => (⟨0, 0⟩, sampleEntropy)) [sampleReply] _ (by decide +kernel)
      (by simp [sampleServerStream, sampleServed])

/-- The round trip as first claimed fails at both limits: the server returns the not-match
buffer of `E`s for the sample request when its clock is a day and a second ahead of the
client's, and the client returns `-1` for a reply of 16385 bytes read at once. -/
theorem aes128_late_clock_or_long_read_rejects :
    (run (authAes128Sha1ServerPostDecrypt .md5 sampleCrypto sampleServer (sampleWorld.now + 86401))
        (authAes128NewObfs .md5 sampleEntropy).1 [sampleClientStream]).2 = none ∧
      (run (authAes128Sha1ClientPostDecrypt .md5 sampleCrypto)
        (clientSends .md5 sampleCrypto sampleServer (fun _ => sampleWorld)
          (authAes128NewObfs .md5 sampleEntropy).1 [samplePayload]).1
        [(serverSends .md5 sampleCrypto sampleServer (fun _ => (⟨0, 0⟩, sampleEntropy))
          sampleServed.1 [List.replicate 16385 0]).2]).2 = none := by
  refine ⟨by decide +kernel, ?_⟩
  -- the reply's frames are longer than its 16385 bytes, so the one read overflows the buffer
  have hlong : (List.replicate 16385 (0 : UInt8)).length ≤
      (authAes128Sha1ServerPreEncrypt .md5 sampleCrypto sampleServer sampleServed.1 ⟨0, 0⟩
        sampleEntropy (List.replicate 16385 0)).1.length :=
    packData_length_ge .md5 sampleCrypto sampleServer _ _ _ _
  have hsent : (clientSends .md5 sampleCrypto sampleServer (fun _ => sampleWorld)
      (authAes128NewObfs .md5 sampleEntropy).1 [samplePayload]).1.recvBuffer = [] := by
    decide +kernel
  rw [List.length_replicate] at hlong
  simp only [serverSends, List.append_nil]
  rw [run, authAes128Sha1ClientPostDecrypt_of_full .md5 sampleCrypto
    (by rw [hsent, List.length_nil]; omega)]

end ShadowsocksR.AuthAes128
