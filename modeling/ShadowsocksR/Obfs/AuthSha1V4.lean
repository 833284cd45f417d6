/-
  ShadowsocksR.Obfs.AuthSha1V4 — the `auth_sha1_v4` protocol (`auth.c`).

  Every frame the protocol sends is `len | crc | padding | data | check`: the frame's
  length in two bytes, big-endian; a checksum of those two bytes; random padding that
  starts with its own length (`padField`); the data; and a trailer over everything
  before it. A data frame's checksum is the low 16 bits of a CRC-32 and its trailer an
  Adler-32 (`auth_sha1_v4_pack_data`). The client's first frame, the header, has a
  CRC-32 of the length, the salt and the key, then after the padding the time, the
  client id and the connection counter, and closes with ten bytes of an HMAC-SHA1 keyed
  with the IV and the key (`auth_sha1_v4_pack_auth_data`).

  The receivers (`auth_sha1_v4_server_post_decrypt`, `auth_sha1_v4_client_post_decrypt`)
  buffer what arrives and cut frames off the front while enough bytes are buffered to
  read the next one's head; each pass of their loops is a `Framing.Step`, and the loops
  are `Framing.drainAll` of it. The senders write into fresh buffers: the client's is
  `malloc`'d, so the padding it does not write holds whatever was there (`junk`); the
  server's is `calloc`'d.

  Proved here: both receivers read every frame their peer's sender writes, and wait on
  every proper prefix of it (`header_reads`, `data_frame_reads`), so by `Framing.run_chain`
  every cut of the sender's bytes into reads gives back the payloads. Two conditions
  of the code bound this: the server rejects a header whose time is more than
  `max_time_dif` (a day) from its own clock, and the client refuses a read that would
  fill its receive buffer past 16384 bytes.
-/

import ShadowsocksR.Lib.Framing
import ShadowsocksR.Obfs.AuthSimple
import ShadowsocksR.Obfs.Crc32
import ShadowsocksR.Obfs.ObfsUtil

namespace ShadowsocksR.AuthSha1V4

open Bytes CString Framing

/-! ## The sender -/

/-- The salt of `auth_sha1_v4`: the literal of `auth_sha1_v4_pack_auth_data`, and the
`salt` that `auth_sha1_v4_new_obfs` sets for the server. -/
def authSha1V4Salt : List UInt8 := ascii "auth_sha1_v4"

/-- The connection state `auth_sha1_v4_new_obfs` makes: `auth_simple_local_data_init`, then
the protocol's salt; no HMAC. -/
def authSha1V4NewObfs (entropy : Entropy) : AuthSimpleLocal × Entropy :=
  authSimpleLocalDataInit authSha1V4Salt entropy

/-- The server's frames are as long as the client's. -/
theorem authSha1V4NewObfs_unitLen (entropy : Entropy) :
    (authSha1V4NewObfs entropy).1.unitLen = authSimplePackUnitSize := rfl

/-- The random padding length of a frame of `datalength` bytes: 1 above 1300, at most 128
above 400, at most 1024 otherwise; `xorshift128plus` is drawn only where it is used. -/
def randLen (datalength : Nat) (rng : Shift128) : Nat × Shift128 :=
  if datalength > 1300 then (1, rng)
  else
    let (x, rng) := xorshift128plus rng
    ((if datalength > 400 then (x &&& 0x7F).toNat else (x &&& 0x3FF).toNat) + 1, rng)

/-- The bytes of the output buffer from `start` on, `n` of them, before anything is written. -/
def junkBytes (junk : Nat → UInt8) (start n : Nat) : List UInt8 :=
  (List.range n).map fun i => junk (start + i)

/-- The bytes `auth_sha1_v4_pack_data` writes for a padding of `randLen` bytes over `raw`. -/
def packDataFrame (randLen : Nat) (raw data : List UInt8) : List UInt8 :=
  let outSize := randLen + data.length + 8
  let body := be16 outSize ++ le16 (crc32Imp (be16 outSize)).toNat ++
    padField be16 randLen raw ++ data
  body ++ filladler32 body

/-- `auth_sha1_v4_pack_data` into a buffer that held `junk`. -/
def authSha1V4PackData (data : List UInt8) (rng : Shift128) (junk : Nat → UInt8) :
    List UInt8 × Shift128 :=
  let (randLen, rng) := randLen data.length rng
  (packDataFrame randLen (junkBytes junk 4 randLen) data, rng)

/-- The bytes `auth_sha1_v4_pack_auth_data` writes for a padding of `randLen` bytes over
`raw`, the time `now` and the process-wide ids `global`. -/
def packAuthFrame (crypto : Crypto) (server : ServerInfo) (randLen : Nat) (raw : List UInt8)
    (now : UInt32) (global : AuthGlobal) (data : List UInt8) : List UInt8 :=
  let dataOffset := randLen + 4 + 2
  let outSize := dataOffset + data.length + 12 + obfsHmacSha1Len
  let body := be16 outSize ++ fillcrc32to (be16 outSize ++ authSha1V4Salt ++ server.key) ++
    padField be16 randLen raw ++ le32 now ++
    global.localClientId.toList.take 4 ++ le32 global.connectionId ++ data
  body ++ (crypto.hmacSha1 (server.iv ++ server.key) body).toList.take obfsHmacSha1Len

/-- `auth_sha1_v4_pack_auth_data`: the header, with the time `now` and the counter after
its update. -/
def authSha1V4PackAuthData (crypto : Crypto) (global : AuthGlobal) (server : ServerInfo)
    (data : List UInt8) (rng : Shift128) (now : UInt32) (entropy : Entropy)
    (junk : Nat → UInt8) : List UInt8 × AuthGlobal × Shift128 × Entropy :=
  let (randLen, rng) := randLen data.length rng
  let (global, entropy) := nextConnectionId global entropy
  (packAuthFrame crypto server randLen (junkBytes junk 6 randLen) now global data,
    global, rng, entropy)

/-- The loop `while (len > unit) pack(unit)` of both senders: the frames, the generator
after them and the bytes left. Every round takes `unit` bytes, so the data's length is
enough fuel. -/
def packFrames (unit : Nat) : Nat → Shift128 → (Nat → UInt8) → List UInt8 →
    List UInt8 × Shift128 × List UInt8
  | 0, rng, _, data => ([], rng, data)
  | fuel + 1, rng, junk, data =>
    if data.length > unit then
      let (frame, rng) := authSha1V4PackData (data.take unit) rng junk
      let (out, rng, rest) :=
        packFrames unit fuel rng (fun i => junk (frame.length + i)) (data.drop unit)
      (frame ++ out, rng, rest)
    else ([], rng, data)

/-- What the client's encoder leaves: its state, the process-wide state and the bytes. -/
structure ClientPacked where
  localData : AuthSimpleLocal
  global : AuthGlobal
  rng : Shift128
  entropy : Entropy
  out : List UInt8

/-- The data part of `auth_sha1_v4_client_pre_encrypt`: frames of 2000 bytes, then a last
one for the rest if any is left. -/
def packClientData (rng : Shift128) (junk : Nat → UInt8) (data : List UInt8) :
    List UInt8 × Shift128 :=
  let (frames, rng, rest) := packFrames authSimplePackUnitSize data.length rng junk data
  let (last, rng) :=
    if rest.length > 0 then authSha1V4PackData rest rng (fun i => junk (frames.length + i))
    else ([], rng)
  (frames ++ last, rng)

/-- `auth_sha1_v4_client_pre_encrypt`: the header before the first data, carrying the
payload's SOCKS5 address (`get_s5_head_size`, 30 bytes when unknown), then the data. -/
def authSha1V4ClientPreEncrypt (crypto : Crypto) (server : ServerInfo) (now : UInt32)
    (ld : AuthSimpleLocal) (global : AuthGlobal) (rng : Shift128) (entropy : Entropy)
    (junk : Nat → UInt8) (plaindata : List UInt8) : ClientPacked :=
  let (header, ld, global, rng, entropy, data) :=
    if plaindata.length > 0 ∧ ld.hasSentHeader = false then
      let headSize := min (getS5HeadSize plaindata 30) plaindata.length
      let (header, global, rng, entropy) :=
        authSha1V4PackAuthData crypto global server (plaindata.take headSize) rng now entropy junk
      (header, { ld with hasSentHeader := true }, global, rng, entropy, plaindata.drop headSize)
    else ([], ld, global, rng, entropy, plaindata)
  let (body, rng) := packClientData rng (fun i => junk (header.length + i)) data
  ⟨ld, global, rng, entropy, header ++ body⟩

/-- `auth_sha1_v4_server_pre_encrypt`: frames of `unit_len` bytes and a last one for the
rest, sent even when nothing is left; the buffer is `calloc`'d. -/
def authSha1V4ServerPreEncrypt (ld : AuthSimpleLocal) (rng : Shift128) (buf : List UInt8) :
    List UInt8 × Shift128 :=
  let (frames, rng, rest) := packFrames ld.unitLen buf.length rng (fun _ => 0) buf
  let (last, rng) := authSha1V4PackData rest rng (fun _ => 0)
  (frames ++ last, rng)

/-! ## The receivers -/

/-- What the data-frame loops find at the front of the buffer. -/
inductive DataFrame where
  /-- the checksum of the length does not match -/
  | badCrc
  /-- the length is out of `[7, 8192)` -/
  | badLength
  /-- the frame has not all arrived -/
  | incomplete
  /-- the trailer does not match -/
  | badChecksum
  /-- a whole frame of `length` bytes carrying `data` -/
  | whole (length : Nat) (data : List UInt8)
  deriving DecidableEq, Repr

/-- The body of the data-frame loops of both receivers, on more than four buffered bytes. -/
def dataFrame (buffer : List UInt8) : DataFrame :=
  if rdLe16 buffer 2 ≠ (crc32Imp (buffer.take 2)).toNat % 2 ^ 16 then .badCrc
  else
    let length := rdBe16 buffer 0
    if length ≥ 8192 ∨ length < 7 then .badLength
    else if length > buffer.length then .incomplete
    else if checkadler32 buffer length = false then .badChecksum
    else
      let pos := padEnd rdBe16 buffer 4
      .whole length ((buffer.drop pos).take (length - pos - 4))

/-- One pass of the server's loop. Before the header: more than six bytes to check its
CRC, then the whole header for its HMAC, the time and the ids; after it, data frames. A
failed CRC or HMAC leaves the buffer, a bad data frame empties it. -/
def serverStep (crypto : Crypto) (server : ServerInfo) (now : UInt32) (s : AuthSimpleLocal)
    (buffer : List UInt8) : Step AuthSimpleLocal UInt8 (List UInt8) :=
  if s.hasRecvHeader = false then
    if buffer.length ≤ 6 then .more s
    else if crc32Imp (buffer.take 2 ++ s.salt ++ server.key) ≠ rdLe32 buffer 2 then
      .fail s buffer
    else
      let length := rdBe16 buffer 0
      if length > buffer.length then .more s
      else if (crypto.hmacSha1 (server.recvIv ++ server.key) (buffer.take (length - 10))).toList.take
          obfsHmacSha1Len ≠ (buffer.drop (length - 10)).take obfsHmacSha1Len then .fail s buffer
      else
        let pos := padEnd rdBe16 buffer 6
        let out := (buffer.drop pos).take (length - 10 - pos)
        if out.length < 12 then .fail s buffer
        else if timeDif now (rdLe32 out 0) > s.maxTimeDif then .fail s buffer
        else .frame length (out.drop 12)
          { s with clientId := rdLe32 out 4, connectionId := rdLe32 out 8, hasRecvHeader := true }
  else if buffer.length ≤ 4 then .more s
  else
    match dataFrame buffer with
    | .badCrc => .fail s buffer
    | .incomplete => .more s
    | .whole length data => .frame length data s
    | _ => .fail s []

/-- `auth_sha1_v4_server_post_decrypt` at the time `now`: the loop over the buffered bytes
and the new one, and `out_buf` (`none` for `NULL`). The loop's state is the connection's
other fields; its buffer is the bytes it works on. -/
def authSha1V4ServerPostDecrypt (crypto : Crypto) (server : ServerInfo) (now : UInt32)
    (ld : AuthSimpleLocal) (buf : List UInt8) : AuthSimpleLocal × Option (List UInt8) :=
  let r := drainAll (serverStep crypto server now) { ld with recvBuffer := [] } (ld.recvBuffer ++ buf)
  ({ r.state with recvBuffer := r.rest }, if r.ok then some r.out.flatten else none)

/-- One pass of the client's loop: data frames only; every error empties the buffer. -/
def clientStep (s : AuthSimpleLocal) (buffer : List UInt8) : Step AuthSimpleLocal UInt8 (List UInt8) :=
  if buffer.length ≤ 4 then .more s
  else
    match dataFrame buffer with
    | .incomplete => .more s
    | .whole length data => .frame length data s
    | _ => .fail s []

/-- `auth_sha1_v4_client_post_decrypt`: `-1` (`none`) when the read would fill the receive
buffer past its 16384 bytes, else the loop. -/
def authSha1V4ClientPostDecrypt (ld : AuthSimpleLocal) (buf : List UInt8) :
    AuthSimpleLocal × Option (List UInt8) :=
  if ld.recvBuffer.length + buf.length > 16384 then (ld, none)
  else
    let r := drainAll clientStep { ld with recvBuffer := [] } (ld.recvBuffer ++ buf)
    ({ r.state with recvBuffer := r.rest }, if r.ok then some r.out.flatten else none)

/-! ## Reading a data frame -/

/-- The padding is 1 to 1024 bytes: 1 for data over 1300 bytes, at most 128 over 400. -/
theorem randLen_bounds (datalength : Nat) (rng : Shift128) :
    1 ≤ (randLen datalength rng).1 ∧ (randLen datalength rng).1 ≤ 1024 ∧
      (datalength > 1300 → (randLen datalength rng).1 = 1) ∧
      (datalength > 400 → (randLen datalength rng).1 ≤ 128) := by
  unfold randLen
  by_cases hbig : datalength > 1300
  · rw [if_pos hbig]; omega
  · rw [if_neg hbig]
    generalize xorshift128plus rng = draw
    obtain ⟨x, g⟩ := draw
    -- the draw masked to 7 or 10 bits
    have h7 : (x &&& 0x7F).toNat ≤ 127 := by rw [UInt64.toNat_and]; exact Nat.and_le_right
    have h3 : (x &&& 0x3FF).toNat ≤ 1023 := by rw [UInt64.toNat_and]; exact Nat.and_le_right
    dsimp only
    split <;> omega

section DataFrames

variable {randLen : Nat} {raw data : List UInt8}

theorem packDataFrame_length (hpos : 1 ≤ randLen) (hraw : raw.length = randLen) :
    (packDataFrame randLen raw data).length = randLen + data.length + 8 := by
  simp only [packDataFrame, filladler32, List.length_append, be16_length, le16_length,
    le32_length, padField_length (fun x => be16_length x) hpos hraw]
  omega

/-- The head of a data frame: its length, and the checksum of the length. -/
theorem packDataFrame_head (hlen : randLen + data.length + 8 < 2 ^ 16) (rest : List UInt8) :
    let frame := packDataFrame randLen raw data ++ rest
    frame.take 2 = be16 (randLen + data.length + 8) ∧
      rdLe16 frame 2 = (crc32Imp (be16 (randLen + data.length + 8))).toNat % 2 ^ 16 ∧
      rdBe16 frame 0 = randLen + data.length + 8 := by
  intro frame
  generalize hL : randLen + data.length + 8 = L at hlen
  generalize hc : (crc32Imp (be16 L)).toNat = c
  generalize hX : padField be16 randLen raw ++ data ++
    filladler32 (be16 L ++ le16 c ++ padField be16 randLen raw ++ data) ++ rest = X
  have hF : frame = be16 L ++ le16 c ++ X := by
    simp only [frame, packDataFrame, hL, hc, ← hX, List.append_assoc]
  rw [hF]
  refine ⟨?take, ?crc, ?length⟩
  case take => rw [List.append_assoc]; exact List.take_left' (be16_length L)
  case crc => exact rdLe16_le16_mod (be16 L) X c
  case length =>
    have := rdBe16_be16 [] (le16 c ++ X) hlen
    simpa only [List.append_assoc, List.nil_append, List.length_nil] using this

/-- What the receivers make of bytes that start like a frame of length `L`, by how many
of them there are. -/
theorem dataFrame_of_head {buffer : List UInt8} {L : Nat} (hL : 7 ≤ L ∧ L < 8192)
    (htake : buffer.take 2 = be16 L)
    (hcrc : rdLe16 buffer 2 = (crc32Imp (be16 L)).toNat % 2 ^ 16)
    (hlength : rdBe16 buffer 0 = L) :
    dataFrame buffer =
      if L > buffer.length then .incomplete
      else if checkadler32 buffer L = false then .badChecksum
      else .whole L ((buffer.drop (padEnd rdBe16 buffer 4)).take
        (L - padEnd rdBe16 buffer 4 - 4)) := by
  unfold dataFrame
  rw [htake, hcrc, if_neg (fun h => h rfl), hlength, if_neg (by omega)]

/-- The receivers read a data frame back, whatever follows it. -/
theorem dataFrame_whole (hpos : 1 ≤ randLen) (hraw : raw.length = randLen)
    (hlen : randLen + data.length + 8 < 8192) (rest : List UInt8) :
    dataFrame (packDataFrame randLen raw data ++ rest) = .whole (randLen + data.length + 8) data := by
  obtain ⟨htake, hcrc, hlength⟩ :=
    @packDataFrame_head randLen raw data (by omega) rest
  have hpad : (padField be16 randLen raw).length = randLen :=
    padField_length (fun x => be16_length x) hpos hraw
  rw [dataFrame_of_head ⟨by omega, hlen⟩ htake hcrc hlength]
  generalize hL : randLen + data.length + 8 = L at hlen
  generalize hc : (crc32Imp (be16 L)).toNat = c
  -- the frame: `len | crc | padding | data | trailer`, then what follows
  have hF : packDataFrame randLen raw data ++ rest =
      be16 L ++ le16 c ++ padField be16 randLen raw ++ data ++
        filladler32 (be16 L ++ le16 c ++ padField be16 randLen raw ++ data) ++ rest := by
    simp only [packDataFrame, hL, hc]
  have hbody : (be16 L ++ le16 c ++ padField be16 randLen raw ++ data).length + 4 = L := by
    simp only [List.length_append, be16_length, le16_length, hpad]; omega
  rw [hF]
  have hadler := checkadler32_filled (be16 L ++ le16 c ++ padField be16 randLen raw ++ data) rest
  rw [hbody] at hadler
  have hend : padEnd rdBe16 (be16 L ++ le16 c ++ padField be16 randLen raw ++ data ++
      filladler32 (be16 L ++ le16 c ++ padField be16 randLen raw ++ data) ++ rest) 4 =
      randLen + 4 := by
    have := padEnd_padField (fun pre post x hx => rdBe16_be16 pre post hx)
      (be16 L ++ le16 c) (data ++ filladler32 (be16 L ++ le16 c ++ padField be16 randLen raw ++ data) ++
        rest) raw hpos (by omega) hraw
    simpa only [List.append_assoc, List.length_append, be16_length, le16_length] using this
  have hdata := take_drop_append_field (be16 L ++ le16 c ++ padField be16 randLen raw) data
    (filladler32 (be16 L ++ le16 c ++ padField be16 randLen raw ++ data) ++ rest)
  simp only [List.length_append, be16_length, le16_length, hpad, ← List.append_assoc] at hdata
  have hFlen : L ≤ (be16 L ++ le16 c ++ padField be16 randLen raw ++ data ++
      filladler32 (be16 L ++ le16 c ++ padField be16 randLen raw ++ data) ++ rest).length := by
    simp only [List.length_append, filladler32, le32_length] at hbody ⊢; omega
  generalize be16 L ++ le16 c ++ padField be16 randLen raw ++ data ++
      filladler32 (be16 L ++ le16 c ++ padField be16 randLen raw ++ data) ++ rest = F
    at hadler hend hdata hFlen
  rw [if_neg (by omega), hadler, if_neg (by decide), hend,
    show L - (randLen + 4) - 4 = data.length by omega, show randLen + 4 = 2 + 2 + randLen by omega,
    hdata]

/-- A data frame that has not all arrived waits, once its head is there. -/
theorem dataFrame_incomplete (hpos : 1 ≤ randLen) (hraw : raw.length = randLen)
    (hlen : randLen + data.length + 8 < 8192) {q : List UInt8}
    (hq : q <+: packDataFrame randLen raw data) (h4 : 4 < q.length)
    (hshort : q.length < randLen + data.length + 8) : dataFrame q = .incomplete := by
  obtain ⟨htake, hcrc, hlength⟩ :=
    @packDataFrame_head randLen raw data (by omega) []
  rw [List.append_nil] at htake hcrc hlength
  rw [dataFrame_of_head ⟨by omega, hlen⟩ (by rw [take_of_prefix_le hq (by omega)]; exact htake)
    (by rw [rdLe16_of_prefix_lt hq (by omega)]; exact hcrc)
    (by rw [rdBe16_of_prefix_lt hq (by omega)]; exact hlength), if_pos hshort]

/-- A loop body that waits on four bytes or fewer and otherwise follows `dataFrame` on
waits and whole frames reads every data frame. -/
theorem reads_packDataFrame {st : AuthSimpleLocal → List UInt8 → Step AuthSimpleLocal UInt8 (List UInt8)}
    {s : AuthSimpleLocal} (hshort : ∀ q, q.length ≤ 4 → st s q = .more s)
    (hinc : ∀ q, 4 < q.length → dataFrame q = .incomplete → st s q = .more s)
    (hwhole : ∀ q L d, 4 < q.length → dataFrame q = .whole L d → st s q = .frame L d s)
    (hpos : 1 ≤ randLen) (hraw : raw.length = randLen) (hlen : randLen + data.length + 8 < 8192) :
    Reads st s (packDataFrame randLen raw data) data s where
  pos := by rw [packDataFrame_length hpos hraw]; omega
  whole r := by
    rw [packDataFrame_length hpos hraw]
    exact hwhole _ _ _ (by simp only [List.length_append, packDataFrame_length hpos hraw]; omega)
      (dataFrame_whole hpos hraw hlen r)
  part q hq hlt := by
    rw [packDataFrame_length hpos hraw] at hlt
    by_cases h4 : q.length ≤ 4
    · exact hshort q h4
    · exact hinc q (by omega) (dataFrame_incomplete hpos hraw hlen hq (by omega) hlt)

end DataFrames

/-- The client reads every data frame a sender writes. -/
theorem clientStep_reads (s : AuthSimpleLocal) {randLen : Nat} {raw data : List UInt8}
    (hpos : 1 ≤ randLen) (hraw : raw.length = randLen) (hlen : randLen + data.length + 8 < 8192) :
    Reads clientStep s (packDataFrame randLen raw data) data s :=
  reads_packDataFrame (fun q h4 => by rw [clientStep, if_pos h4])
    (fun q h4 h => by rw [clientStep, if_neg (by omega), h])
    (fun q L d h4 h => by rw [clientStep, if_neg (by omega), h]) hpos hraw hlen

/-- Once the header is in, the server reads every data frame a sender writes. -/
theorem serverStep_reads (crypto : Crypto) (server : ServerInfo) (now : UInt32)
    {s : AuthSimpleLocal} (hs : s.hasRecvHeader = true) {randLen : Nat} {raw data : List UInt8}
    (hpos : 1 ≤ randLen) (hraw : raw.length = randLen) (hlen : randLen + data.length + 8 < 8192) :
    Reads (serverStep crypto server now) s (packDataFrame randLen raw data) data s :=
  reads_packDataFrame (fun q h4 => by rw [serverStep, hs, if_neg (by decide), if_pos h4])
    (fun q h4 h => by rw [serverStep, hs, if_neg (by decide), if_neg (by omega), h])
    (fun q L d h4 h => by rw [serverStep, hs, if_neg (by decide), if_neg (by omega), h])
    hpos hraw hlen


/-! ## Reading the header -/

section Header

variable (crypto : Crypto) (server : ServerInfo) {randLen : Nat} (raw : List UInt8)
  (now : UInt32) (global : AuthGlobal) (data : List UInt8)

theorem packAuthFrame_length (hpos : 1 ≤ randLen) (hraw : raw.length = randLen) :
    (packAuthFrame crypto server randLen raw now global data).length =
      randLen + data.length + 28 := by
  simp only [packAuthFrame, fillcrc32to, obfsHmacSha1Len, List.length_append, be16_length,
    le32_length, padField_length (fun x => be16_length x) hpos hraw, List.length_take,
    Vector.length_toList]
  omega

/-- The head of a header: its length, and the CRC-32 of the length, the salt and the key. -/
theorem packAuthFrame_head (hlen : randLen + data.length + 28 < 2 ^ 16) (rest : List UInt8) :
    let frame := packAuthFrame crypto server randLen raw now global data ++ rest
    frame.take 2 = be16 (randLen + data.length + 28) ∧
      rdLe32 frame 2 = crc32Imp (be16 (randLen + data.length + 28) ++ authSha1V4Salt ++ server.key) ∧
      rdBe16 frame 0 = randLen + data.length + 28 := by
  intro frame
  generalize hL : randLen + data.length + 28 = L at hlen
  have hsize : randLen + 4 + 2 + data.length + 12 + obfsHmacSha1Len = L := by
    rw [obfsHmacSha1Len]; omega
  have hF : ∃ X, frame = be16 L ++ fillcrc32to (be16 L ++ authSha1V4Salt ++ server.key) ++ X := by
    simp only [frame, packAuthFrame, hsize, List.append_assoc]
    exact ⟨_, rfl⟩
  obtain ⟨X, hF⟩ := hF
  rw [hF]
  refine ⟨?take, ?crc, ?length⟩
  case take => rw [List.append_assoc]; exact List.take_left' (be16_length L)
  case crc => exact rdLe32_le32 (be16 L) X _
  case length =>
    have := rdBe16_be16 [] (fillcrc32to (be16 L ++ authSha1V4Salt ++ server.key) ++ X) hlen
    simpa only [List.append_assoc, List.nil_append, List.length_nil] using this

/-- A header closes with ten bytes of the HMAC of everything before them. -/
theorem packAuthFrame_hmac (hpos : 1 ≤ randLen) (hraw : raw.length = randLen)
    (rest : List UInt8) :
    let frame := packAuthFrame crypto server randLen raw now global data ++ rest
    (crypto.hmacSha1 (server.iv ++ server.key)
        (frame.take (randLen + data.length + 28 - 10))).toList.take obfsHmacSha1Len =
      (frame.drop (randLen + data.length + 28 - 10)).take obfsHmacSha1Len := by
  intro frame
  have hF : ∃ B, frame = B ++
      (crypto.hmacSha1 (server.iv ++ server.key) B).toList.take obfsHmacSha1Len ++ rest := by
    simp only [frame, packAuthFrame]
    exact ⟨_, rfl⟩
  obtain ⟨B, hF⟩ := hF
  -- the body is all but the ten bytes of the tag
  have hB : B.length = randLen + data.length + 28 - 10 := by
    have h := packAuthFrame_length crypto server raw now global data hpos hraw
    have hlen := congrArg List.length hF
    simp only [frame, List.length_append, h, List.length_take, Vector.length_toList,
      obfsHmacSha1Len] at hlen
    omega
  rw [hF, ← hB, List.append_assoc, List.take_left, List.drop_left,
    List.take_append_of_le_length (by simp [obfsHmacSha1Len])]
  simp [obfsHmacSha1Len]

/-- After its padding a header carries the time, four bytes of the client id, the counter
and the data, up to the HMAC. -/
theorem packAuthFrame_payload (hpos : 1 ≤ randLen) (hlt : randLen < 2 ^ 16)
    (hraw : raw.length = randLen) (rest : List UInt8) :
    let frame := packAuthFrame crypto server randLen raw now global data ++ rest
    padEnd rdBe16 frame 6 = randLen + 6 ∧
      (frame.drop (randLen + 6)).take (randLen + data.length + 28 - 10 - (randLen + 6)) =
        le32 now ++ global.localClientId.toList.take 4 ++ le32 global.connectionId ++ data := by
  intro frame
  generalize hmid : le32 now ++ global.localClientId.toList.take 4 ++
    le32 global.connectionId ++ data = mid
  have hmidlen : mid.length = data.length + 12 := by
    simp only [← hmid, List.length_append, le32_length, List.length_take, Vector.length_toList]
    omega
  have hsize : randLen + 4 + 2 + data.length + 12 + obfsHmacSha1Len = randLen + data.length + 28 := by
    rw [obfsHmacSha1Len]; omega
  -- the six bytes of length and CRC, the padding, then the fields up to the tag
  have hF : ∃ (c : UInt32) (T : List UInt8),
      frame = be16 (randLen + data.length + 28) ++ le32 c ++ padField be16 randLen raw ++ (mid ++ T) := by
    rw [← hmid]
    simp only [frame, packAuthFrame, fillcrc32to, hsize, List.append_assoc]
    exact ⟨_, _, rfl⟩
  obtain ⟨c, T, hF⟩ := hF
  generalize hpre : be16 (randLen + data.length + 28) ++ le32 c = pre at hF
  have hprelen : pre.length = 6 := by rw [← hpre]; simp
  rw [hF]
  constructor
  · have := padEnd_padField (fun pre post x hx => rdBe16_be16 pre post hx)
      pre (mid ++ T) raw hpos hlt hraw
    rwa [hprelen] at this
  · have hdata := take_drop_append_field (pre ++ padField be16 randLen raw) mid T
    simp only [List.length_append, hprelen, padField_length (fun x => be16_length x) hpos hraw]
      at hdata
    rw [show randLen + 6 = 6 + randLen by omega,
      show randLen + data.length + 28 - 10 - (6 + randLen) = mid.length by omega,
      ← List.append_assoc (pre ++ padField be16 randLen raw) mid T, hdata]

/-- The fields after the padding, as the server reads them. -/
theorem header_fields (now conn : UInt32) (id4 data : List UInt8) (hid : id4.length = 4) :
    (le32 now ++ id4 ++ le32 conn ++ data).length = data.length + 12 ∧
      rdLe32 (le32 now ++ id4 ++ le32 conn ++ data) 0 = now ∧
      rdLe32 (le32 now ++ id4 ++ le32 conn ++ data) 4 = rdLe32 id4 0 ∧
      rdLe32 (le32 now ++ id4 ++ le32 conn ++ data) 8 = conn ∧
      (le32 now ++ id4 ++ le32 conn ++ data).drop 12 = data := by
  refine ⟨?length, ?time, ?client, ?conn, ?data⟩
  case length => simp only [List.length_append, le32_length, hid]; omega
  case time =>
    have := rdLe32_le32 [] (id4 ++ le32 conn ++ data) now
    simpa only [List.nil_append, List.length_nil, List.append_assoc] using this
  case client =>
    have := rdLe32_append_field (le32 now) id4 (le32 conn ++ data) hid
    simpa only [le32_length, List.append_assoc] using this
  case conn =>
    have h8 : (le32 now ++ id4).length = 8 := by simp [hid]
    have := rdLe32_le32 (le32 now ++ id4) data conn
    rwa [h8] at this
  case data =>
    have h12 : (le32 now ++ id4 ++ le32 conn).length = 12 := by simp [hid]
    exact List.drop_left' h12

variable {server' : ServerInfo} {now' : UInt32} {s : AuthSimpleLocal}

/-- The server reads a header whose key, IV and salt are its own and whose time is
within `max_time_dif` of its clock, whatever follows it. -/
theorem serverStep_header (hs : s.hasRecvHeader = false) (hsalt : s.salt = authSha1V4Salt)
    (hkey : server'.key = server.key) (hiv : server'.recvIv = server.iv)
    (htime : timeDif now' now ≤ s.maxTimeDif) (hpos : 1 ≤ randLen)
    (hraw : raw.length = randLen) (hlen : randLen + data.length + 28 < 2 ^ 16)
    (rest : List UInt8) :
    serverStep crypto server' now' s (packAuthFrame crypto server randLen raw now global data ++ rest) =
      .frame (randLen + data.length + 28) data (afterHeader s global) := by
  obtain ⟨htake, hcrc, hlength⟩ := packAuthFrame_head crypto server raw now global data hlen rest
  have hmac := packAuthFrame_hmac crypto server raw now global data hpos hraw rest
  obtain ⟨hend, hout⟩ := packAuthFrame_payload crypto server raw now global data hpos
    (by omega) hraw rest
  obtain ⟨hlen12, htime0, hclient, hconn, hdata⟩ := header_fields now global.connectionId
    (global.localClientId.toList.take 4) data (by simp)
  have hFlen : randLen + data.length + 28 ≤
      (packAuthFrame crypto server randLen raw now global data ++ rest).length := by
    rw [List.length_append, packAuthFrame_length crypto server raw now global data hpos hraw]; omega
  generalize packAuthFrame crypto server randLen raw now global data ++ rest = F
    at htake hcrc hlength hmac hend hout hFlen
  unfold serverStep
  dsimp only
  -- the CRC, the length and the HMAC pass, and the fields after the padding are the sender's
  rw [if_pos hs, if_neg (by omega), htake, hsalt, hkey, hcrc, if_neg (fun h => h rfl), hlength,
    if_neg (by omega), hiv, hmac, if_neg (fun h => h rfl), hend, hout, if_neg (by omega),
    htime0, if_neg (by omega), hclient, hconn, hdata]
  -- the salt was rewritten in the state too
  rw [afterHeader, hsalt]

/-- The server waits on every proper prefix of a header that has its salt and key. -/
theorem serverStep_header_waits (hs : s.hasRecvHeader = false) (hsalt : s.salt = authSha1V4Salt)
    (hkey : server'.key = server.key) (hlen : randLen + data.length + 28 < 2 ^ 16)
    {q : List UInt8} (hq : q <+: packAuthFrame crypto server randLen raw now global data)
    (hshort : q.length < randLen + data.length + 28) :
    serverStep crypto server' now' s q = .more s := by
  obtain ⟨htake, hcrc, hlength⟩ := packAuthFrame_head crypto server raw now global data hlen []
  rw [List.append_nil] at htake hcrc hlength
  unfold serverStep
  rw [if_pos hs]
  by_cases h6 : q.length ≤ 6
  case pos => rw [if_pos h6]
  case neg =>
    -- the head is there: its CRC passes, and the length it gives is more than has come
    rw [if_neg h6, take_of_prefix_le hq (by omega), htake, hsalt, hkey,
      rdLe32_of_prefix_lt hq (by omega), hcrc, if_neg (fun h => h rfl)]
    dsimp only
    rw [rdBe16_of_prefix_lt hq (by omega), hlength, if_pos hshort]

/-- Before the header the server reads it as one frame, going on to the data frames. -/
theorem header_reads (hs : s.hasRecvHeader = false) (hsalt : s.salt = authSha1V4Salt)
    (hkey : server'.key = server.key) (hiv : server'.recvIv = server.iv)
    (htime : timeDif now' now ≤ s.maxTimeDif) (hpos : 1 ≤ randLen)
    (hraw : raw.length = randLen) (hlen : randLen + data.length + 28 < 2 ^ 16) :
    Reads (serverStep crypto server' now') s (packAuthFrame crypto server randLen raw now global data)
      data (afterHeader s global) where
  pos := by rw [packAuthFrame_length crypto server raw now global data hpos hraw]; omega
  whole r := by
    rw [packAuthFrame_length crypto server raw now global data hpos hraw]
    exact serverStep_header crypto server raw now global data hs hsalt hkey hiv htime hpos hraw hlen r
  part q hq hlt := by
    rw [packAuthFrame_length crypto server raw now global data hpos hraw] at hlt
    exact serverStep_header_waits crypto server raw now global data hs hsalt hkey hlen hq hlt

end Header


/-! ## The frames the senders write -/

/-- What `auth_sha1_v4_pack_data` writes: a data frame, with a padding length as
`randLen_bounds` bounds it. -/
theorem authSha1V4PackData_spec (data : List UInt8) (rng : Shift128) (junk : Nat → UInt8) :
    ∃ n, (authSha1V4PackData data rng junk).1 = packDataFrame n (junkBytes junk 4 n) data ∧
      1 ≤ n ∧ n ≤ 1024 ∧ (data.length > 1300 → n = 1) ∧ (data.length > 400 → n ≤ 128) :=
  ⟨(randLen data.length rng).1, rfl, randLen_bounds data.length rng⟩

@[simp] theorem junkBytes_length (junk : Nat → UInt8) (start n : Nat) :
    (junkBytes junk start n).length = n := by
  simp [junkBytes]

/-- A loop body that reads every data frame from `s`, coming back to `s`. -/
def ReadsData (st : AuthSimpleLocal → List UInt8 → Step AuthSimpleLocal UInt8 (List UInt8))
    (s : AuthSimpleLocal) : Prop :=
  ∀ {randLen : Nat} {raw data : List UInt8}, 1 ≤ randLen → raw.length = randLen →
    randLen + data.length + 8 < 8192 → Reads st s (packDataFrame randLen raw data) data s

/-- A round of the senders' loop, with the pairs taken apart. -/
theorem packFrames_succ {unit fuel : Nat} {rng : Shift128} {junk : Nat → UInt8}
    {data : List UInt8} (h : data.length > unit) :
    packFrames unit (fuel + 1) rng junk data =
      let r := authSha1V4PackData (data.take unit) rng junk
      let q := packFrames unit fuel r.2 (fun i => junk (r.1.length + i)) (data.drop unit)
      (r.1 ++ q.1, q.2.1, q.2.2) := by
  rw [packFrames, if_pos h]

theorem packFrames_stop {unit fuel : Nat} {rng : Shift128} {junk : Nat → UInt8}
    {data : List UInt8} (h : ¬ data.length > unit) :
    packFrames unit fuel rng junk data = ([], rng, data) := by
  cases fuel with
  | zero => rfl
  | succ fuel => rw [packFrames, if_neg h]

/-- The loop's rest is at most one unit once the fuel covers the data. -/
theorem packFrames_rest_length {unit : Nat} :
    ∀ fuel rng junk (data : List UInt8), data.length ≤ fuel * unit + unit →
      (packFrames unit fuel rng junk data).2.2.length ≤ unit := by
  intro fuel
  induction fuel with
  | zero => intro rng junk data h; show data.length ≤ unit; omega
  | succ fuel ih =>
    intro rng junk data h
    by_cases hgt : data.length > unit
    · rw [packFrames_succ hgt]
      exact ih _ _ _ (by rw [List.length_drop, Nat.succ_mul] at *; omega)
    · rw [packFrames_stop hgt]; show data.length ≤ unit; omega

section Senders

variable {st : AuthSimpleLocal → List UInt8 → Step AuthSimpleLocal UInt8 (List UInt8)}
  {s : AuthSimpleLocal}

/-- One data frame of at most 2000 bytes is read back, and is no longer than
`maxFrameLength`. -/
theorem packData_chain (hreads : ReadsData st s) {data : List UInt8}
    (hd : data.length ≤ authSimplePackUnitSize) (rng : Shift128) (junk : Nat → UInt8) :
    Chain st s [((authSha1V4PackData data rng junk).1, data)] s ∧
      (authSha1V4PackData data rng junk).1.length ≤ maxFrameLength := by
  obtain ⟨n, heq, h1, h1024, hbig, hmid⟩ := authSha1V4PackData_spec data rng junk
  rw [heq]
  have hlen : (packDataFrame n (junkBytes junk 4 n) data).length = n + data.length + 8 :=
    packDataFrame_length h1 (junkBytes_length junk 4 n)
  -- the padding is short where the data is long: 1 above 1300 bytes, 128 above 400
  have hbound : n + data.length + 8 ≤ maxFrameLength := by
    rw [authSimplePackUnitSize] at hd
    rw [maxFrameLength]
    by_cases h1300 : data.length > 1300
    · have := hbig h1300; omega
    · by_cases h400 : data.length > 400
      · have := hmid h400; omega
      · omega
  refine ⟨.cons (hreads h1 (junkBytes_length junk 4 n) ?_) (.nil s), by omega⟩
  rw [maxFrameLength] at hbound
  omega

/-- The senders' loop writes frames the body reads one after another, carrying the data up
to what it leaves. -/
theorem packFrames_chain (hreads : ReadsData st s) {unit : Nat}
    (hunit : unit ≤ authSimplePackUnitSize) :
    ∀ fuel rng junk data, ∃ fs, Chain st s fs s ∧ wire fs = (packFrames unit fuel rng junk data).1 ∧
      (outs fs).flatten ++ (packFrames unit fuel rng junk data).2.2 = data ∧
      Bounded maxFrameLength fs := by
  intro fuel
  induction fuel with
  | zero => intro rng junk data; exact ⟨[], .nil s, rfl, rfl, by simp⟩
  | succ fuel ih =>
    intro rng junk data
    by_cases hgt : data.length > unit
    case neg => rw [packFrames_stop hgt]; exact ⟨[], .nil s, rfl, rfl, by simp⟩
    case pos =>
      -- the first unit is one frame; the rest is the loop again
      rw [packFrames_succ hgt]
      obtain ⟨hc, hl⟩ := packData_chain hreads
        (show (data.take unit).length ≤ authSimplePackUnitSize by rw [List.length_take]; omega)
        rng junk
      obtain ⟨fs, hfs, hw, ho, hb⟩ := ih (authSha1V4PackData (data.take unit) rng junk).2
        (fun i => junk ((authSha1V4PackData (data.take unit) rng junk).1.length + i))
        (data.drop unit)
      refine ⟨_ :: fs, hc.append hfs, ?_, ?_, bounded_cons.mpr ⟨hl, hb⟩⟩
      · simp only [wire_cons, hw]
      · simp only [outs_cons, List.flatten_cons, List.append_assoc, ho, List.take_append_drop]

/-- The last frame the senders write, for a rest of at most one unit. -/
theorem packLast_chain (hreads : ReadsData st s) {rest : List UInt8}
    (hrest : rest.length ≤ authSimplePackUnitSize) (rng : Shift128) (junk : Nat → UInt8) :
    ∃ fs, Chain st s fs s ∧ wire fs = (authSha1V4PackData rest rng junk).1 ∧
      (outs fs).flatten = rest ∧ Bounded maxFrameLength fs := by
  obtain ⟨hc, hl⟩ := packData_chain hreads hrest rng junk
  exact ⟨_, hc, by simp, by simp, by simpa using hl⟩

/-- Frames, then a last one for what they leave, carry the data. -/
theorem frames_last_chain {fs gs : List (List UInt8 × List UInt8)} (hfs : Chain st s fs s)
    (hgs : Chain st s gs s) {rest data : List UInt8}
    (ho : (outs fs).flatten ++ rest = data) (hl : (outs gs).flatten = rest)
    (hb : Bounded maxFrameLength fs)
    (hb' : Bounded maxFrameLength gs) :
    Chain st s (fs ++ gs) s ∧ (outs (fs ++ gs)).flatten = data ∧
      Bounded maxFrameLength (fs ++ gs) := by
  exact ⟨hfs.append hgs, by simp [hl, ho], hb.append hb'⟩

/-- The client's data part writes frames the body reads, carrying the data. -/
theorem packClientData_chain (hreads : ReadsData st s) (rng : Shift128) (junk : Nat → UInt8)
    (data : List UInt8) :
    ∃ fs, Chain st s fs s ∧ wire fs = (packClientData rng junk data).1 ∧
      (outs fs).flatten = data ∧ Bounded maxFrameLength fs := by
  obtain ⟨fs, hfs, hw, ho, hb⟩ := packFrames_chain hreads le_rfl data.length rng junk data
  have hrest : (packFrames authSimplePackUnitSize data.length rng junk data).2.2.length ≤
      authSimplePackUnitSize :=
    packFrames_rest_length data.length rng junk data (by rw [authSimplePackUnitSize]; omega)
  unfold packClientData
  generalize packFrames authSimplePackUnitSize data.length rng junk data = P at hw ho hrest
  obtain ⟨frames, rng', rest⟩ := P
  dsimp only at hw ho hrest ⊢
  by_cases hpos : rest.length > 0
  case neg =>
    -- nothing is left: no last frame
    have hnil : rest = [] := List.eq_nil_of_length_eq_zero (by omega)
    rw [if_neg hpos]
    refine ⟨fs, hfs, by simp [hw], by simpa [hnil] using ho, hb⟩
  case pos =>
    rw [if_pos hpos]
    obtain ⟨gs, hgs, hw', hl, hb'⟩ := packLast_chain hreads hrest rng'
      (fun i => junk (frames.length + i))
    obtain ⟨hc, ho', hb''⟩ := frames_last_chain hfs hgs ho hl hb hb'
    exact ⟨fs ++ gs, hc, by simp [hw, hw'], ho', hb''⟩

/-- `auth_sha1_v4_server_pre_encrypt` writes frames the body reads, carrying the data, when
its unit is at most 2000 bytes. -/
theorem serverPreEncrypt_chain (hreads : ReadsData st s) {ld : AuthSimpleLocal}
    (hunit : 0 < ld.unitLen) (hunit' : ld.unitLen ≤ authSimplePackUnitSize) (rng : Shift128)
    (buf : List UInt8) :
    ∃ fs, Chain st s fs s ∧ wire fs = (authSha1V4ServerPreEncrypt ld rng buf).1 ∧
      (outs fs).flatten = buf ∧ Bounded maxFrameLength fs := by
  obtain ⟨fs, hfs, hw, ho, hb⟩ := packFrames_chain hreads hunit' buf.length rng (fun _ => 0) buf
  have hrest := packFrames_rest_length buf.length rng (fun _ => 0) buf
    (Nat.le_add_right_of_le (Nat.le_mul_of_pos_right _ hunit))
  unfold authSha1V4ServerPreEncrypt
  generalize packFrames ld.unitLen buf.length rng (fun _ => 0) buf = P at hw ho hrest
  obtain ⟨frames, rng', rest⟩ := P
  dsimp only at hw ho hrest ⊢
  -- the last frame is written even when nothing is left
  obtain ⟨gs, hgs, hw', hl, hb'⟩ :=
    packLast_chain hreads (show rest.length ≤ authSimplePackUnitSize by omega) rng' (fun _ => 0)
  obtain ⟨hc, ho', hb''⟩ := frames_last_chain hfs hgs ho hl hb hb'
  exact ⟨fs ++ gs, hc, by simp [hw, hw'], ho', hb''⟩

end Senders


/-! ## Streams -/

/-- What one call of the client's encoder reads besides its connection's state: the clock,
the process-wide ids, generator and entropy (which other connections move between calls),
and what its fresh buffer held. -/
structure ClientWorld where
  now : UInt32
  global : AuthGlobal
  rng : Shift128
  entropy : Entropy
  junk : Nat → UInt8

/-- The client's encoder called on payloads in order, the `k`-th call finding `world k`: the
bytes it sends, back to back. -/
def clientSends (crypto : Crypto) (server : ServerInfo) :
    (Nat → ClientWorld) → AuthSimpleLocal → List (List UInt8) → List UInt8
  | _, _, [] => []
  | world, ld, p :: ps =>
    let r := authSha1V4ClientPreEncrypt crypto server (world 0).now ld (world 0).global
      (world 0).rng (world 0).entropy (world 0).junk p
    r.out ++ clientSends crypto server (fun k => world (k + 1)) r.localData ps

/-- The server's encoder called on payloads in order, the `k`-th call drawing from
`rngs k`. It reads nothing of the connection's state but `unit_len`, which only
`auth_simple_local_data_init` writes, so one state `ld` stands for all calls. -/
def serverSends (ld : AuthSimpleLocal) : (Nat → Shift128) → List (List UInt8) → List UInt8
  | _, [] => []
  | rngs, p :: ps => (authSha1V4ServerPreEncrypt ld (rngs 0) p).1 ++ serverSends ld (fun k => rngs (k + 1)) ps

/-! ## The client's stream, read by the server -/

/-- What `auth_sha1_v4_pack_auth_data` writes: a header for the counter after its update,
with a padding length of 1 to 1024. -/
theorem authSha1V4PackAuthData_spec (crypto : Crypto) (global : AuthGlobal) (server : ServerInfo)
    (data : List UInt8) (rng : Shift128) (now : UInt32) (entropy : Entropy) (junk : Nat → UInt8) :
    ∃ n, (authSha1V4PackAuthData crypto global server data rng now entropy junk).1 =
        packAuthFrame crypto server n (junkBytes junk 6 n) now (nextConnectionId global entropy).1
          data ∧
      (authSha1V4PackAuthData crypto global server data rng now entropy junk).2.1 =
        (nextConnectionId global entropy).1 ∧ 1 ≤ n ∧ n ≤ 1024 :=
  ⟨(randLen data.length rng).1, rfl, rfl, (randLen_bounds _ _).1, (randLen_bounds _ _).2.1⟩

/-- A client connection and the server's state for it agree: the header has been sent
exactly when it has come, and the server checks headers with the protocol's salt. -/
structure Synced (ld s : AuthSimpleLocal) : Prop where
  header : ld.hasSentHeader = s.hasRecvHeader
  salt : s.salt = authSha1V4Salt

section ClientStream

variable (crypto : Crypto) {server server' : ServerInfo} (hkey : server'.key = server.key)
  (hiv : server'.recvIv = server.iv) {now now' : UInt32}

include hkey hiv in
/-- A header carrying at most 259 bytes is read by a server that expects it, and is no
longer than `maxFrameLength`. -/
theorem packAuthData_chain {s : AuthSimpleLocal} (hs : s.hasRecvHeader = false)
    (hsalt : s.salt = authSha1V4Salt) (htime : timeDif now' now ≤ s.maxTimeDif)
    (global : AuthGlobal) {data : List UInt8} (hd : data.length ≤ 259) (rng : Shift128)
    (entropy : Entropy) (junk : Nat → UInt8) :
    Chain (serverStep crypto server' now') s
        [((authSha1V4PackAuthData crypto global server data rng now entropy junk).1, data)]
        (afterHeader s (authSha1V4PackAuthData crypto global server data rng now entropy junk).2.1) ∧
      (authSha1V4PackAuthData crypto global server data rng now entropy junk).1.length ≤
        maxFrameLength := by
  obtain ⟨n, hframe, hglobal, h1, h1024⟩ :=
    authSha1V4PackAuthData_spec crypto global server data rng now entropy junk
  rw [hframe, hglobal]
  have hlen := packAuthFrame_length crypto server (junkBytes junk 6 n) now
    (nextConnectionId global entropy).1 data h1 (junkBytes_length junk 6 n)
  refine ⟨.cons (header_reads crypto server (junkBytes junk 6 n) now _ data hs hsalt hkey hiv htime h1
    (junkBytes_length junk 6 n) (by omega)) (.nil _), ?_⟩
  rw [hlen, maxFrameLength]
  omega

@[simp] theorem packClientData_nil (rng : Shift128) (junk : Nat → UInt8) :
    packClientData rng junk [] = ([], rng) := rfl

include hkey hiv in
/-- One call of the client's encoder writes frames the server reads, carrying the payload,
from a state that agrees with the client's to one that agrees with the client's next. -/
theorem clientPreEncrypt_chain {ld s : AuthSimpleLocal} (hsync : Synced ld s)
    (htime : timeDif now' now ≤ s.maxTimeDif) (global : AuthGlobal) (rng : Shift128)
    (entropy : Entropy) (junk : Nat → UInt8) (plaindata : List UInt8) :
    let r := authSha1V4ClientPreEncrypt crypto server now ld global rng entropy junk plaindata
    ∃ fs u, Chain (serverStep crypto server' now') s fs u ∧ wire fs = r.out ∧
      (outs fs).flatten = plaindata ∧ Bounded maxFrameLength fs ∧
      Synced r.localData u ∧ u.maxTimeDif = s.maxTimeDif := by
  intro r
  unfold r authSha1V4ClientPreEncrypt
  by_cases hc : plaindata.length > 0 ∧ ld.hasSentHeader = false
  case pos =>
    -- the first data: the header, then the data after the address
    rw [if_pos hc]
    dsimp only
    have hs : s.hasRecvHeader = false := hsync.header ▸ hc.2
    generalize hh : min (getS5HeadSize plaindata 30) plaindata.length = headSize
    have hhs : headSize ≤ 259 := by
      have := getS5HeadSize_le plaindata 30; omega
    obtain ⟨hc₁, hl₁⟩ := packAuthData_chain crypto hkey hiv hs hsync.salt htime global
      (show (plaindata.take headSize).length ≤ 259 by rw [List.length_take]; omega) rng entropy
      junk
    generalize authSha1V4PackAuthData crypto global server (plaindata.take headSize) rng now
      entropy junk = H at hc₁ hl₁ ⊢
    obtain ⟨header, global', rng', entropy'⟩ := H
    dsimp only at hc₁ hl₁ ⊢
    have hreads : ReadsData (serverStep crypto server' now') (afterHeader s global') :=
      fun h1 hraw hlen => serverStep_reads crypto server' now' rfl h1 hraw hlen
    obtain ⟨fs, hfs, hw, ho, hb⟩ := packClientData_chain hreads rng'
      (fun i => junk (header.length + i)) (plaindata.drop headSize)
    generalize packClientData rng' (fun i => junk (header.length + i)) (plaindata.drop headSize) = D
      at hw ⊢
    obtain ⟨body, rng''⟩ := D
    exact ⟨(header, plaindata.take headSize) :: fs, afterHeader s global', hc₁.append hfs,
      by simp [hw], by simp [ho], bounded_cons.mpr ⟨hl₁, hb⟩, ⟨rfl, hsync.salt⟩, rfl⟩
  case neg =>
    rw [if_neg hc]
    dsimp only
    by_cases hsent : ld.hasSentHeader = true
    case pos =>
      -- the header has gone before: data frames only
      have hs : s.hasRecvHeader = true := hsync.header ▸ hsent
      have hreads : ReadsData (serverStep crypto server' now') s :=
        fun h1 hraw hlen => serverStep_reads crypto server' now' hs h1 hraw hlen
      obtain ⟨fs, hfs, hw, ho, hb⟩ := packClientData_chain hreads rng
        (fun i => junk ([].length + i)) plaindata
      generalize packClientData rng (fun i => junk ([].length + i)) plaindata = D at hw ⊢
      obtain ⟨body, rng'⟩ := D
      exact ⟨fs, s, hfs, by simp [hw], ho, hb, hsync, rfl⟩
    case neg =>
      -- no header yet and nothing to send: nothing is written
      have hnil : plaindata = [] := by
        apply List.eq_nil_of_length_eq_zero
        cases h : ld.hasSentHeader <;> simp_all
      subst hnil
      exact ⟨[], s, .nil s, by simp, rfl, by simp, hsync, rfl⟩

include hkey hiv in
/-- The whole stream of the client is frames the server reads, carrying the payloads, when
every call's clock is within the server's `max_time_dif` of the server's. -/
theorem clientSends_chain (payloads : List (List UInt8)) :
    ∀ (world : Nat → ClientWorld) {ld s : AuthSimpleLocal}, Synced ld s →
      (∀ k, timeDif now' (world k).now ≤ s.maxTimeDif) →
      ∃ fs u, Chain (serverStep crypto server' now') s fs u ∧
        wire fs = clientSends crypto server world ld payloads ∧
        (outs fs).flatten = payloads.flatten ∧ Bounded maxFrameLength fs := by
  induction payloads with
  | nil => intro world ld s _ _; exact ⟨[], s, .nil s, rfl, rfl, by simp⟩
  | cons p ps ih =>
    intro world ld s hsync htime
    -- the first call, then the rest from the states it leaves
    obtain ⟨fs, u, hfs, hw, ho, hb, hsync', hmax⟩ := clientPreEncrypt_chain crypto hkey hiv
      hsync (htime 0) (world 0).global (world 0).rng (world 0).entropy
      (world 0).junk p
    obtain ⟨gs, v, hgs, hw', ho', hb'⟩ :=
      ih (fun k => world (k + 1)) hsync' (fun k => hmax ▸ htime (k + 1))
    refine ⟨fs ++ gs, v, hfs.append hgs, ?_, ?_, hb.append hb'⟩
    · rw [wire_append, hw, hw', clientSends]
    · rw [outs_append, List.flatten_append, ho, ho', List.flatten_cons]

end ClientStream


/-! ## The receivers, call by call -/

/-- No pass of the server's loop touches the receive buffer of the state it goes on from. -/
theorem serverStep_keeps_recvBuffer (crypto : Crypto) (server : ServerInfo) (now : UInt32)
    (s : AuthSimpleLocal) (buf : List UInt8) (hs : s.recvBuffer = []) :
    Keeps (fun s => s.recvBuffer = []) (serverStep crypto server now s buf) := by
  unfold serverStep
  dsimp only
  -- every pass goes on from `s`, or from `s` with the header's fields set
  split_ifs
  all_goals (try split) <;> simp only [Keeps, hs]

theorem clientStep_keeps_recvBuffer (s : AuthSimpleLocal) (buf : List UInt8)
    (hs : s.recvBuffer = []) : Keeps (fun s => s.recvBuffer = []) (clientStep s buf) := by
  unfold clientStep
  split_ifs
  all_goals (try split) <;> simp only [Keeps, hs]

/-- `auth_sha1_v4_server_post_decrypt` drains every chunk it is given. -/
theorem serverPostDecrypt_drains (crypto : Crypto) (server : ServerInfo) (now : UInt32) :
    Drains (serverStep crypto server now) (authSha1V4ServerPostDecrypt crypto server now) recvView
      (fun _ _ => True) id := by
  intro t c _
  -- the loop starts from a state with nothing buffered, and every pass keeps it so
  have hkeep : (drainAll (serverStep crypto server now) { t with recvBuffer := [] }
      (t.recvBuffer ++ c)).state.recvBuffer = [] :=
    drain_keeps _ (serverStep_keeps_recvBuffer crypto server now) _ _ _ rfl
  unfold authSha1V4ServerPostDecrypt
  simp only [recvView]
  generalize drainAll (serverStep crypto server now) { t with recvBuffer := [] }
    (t.recvBuffer ++ c) = r at hkeep ⊢
  refine ⟨fun hok => by simp [hok], fun hok => ⟨by simp [hok, List.flatMap_id], ?_⟩⟩
  rw [recvBuffer_nil_eq hkeep]

/-- `auth_sha1_v4_client_post_decrypt` drains every chunk that fits its 16384-byte buffer
with what is buffered. -/
theorem clientPostDecrypt_drains :
    Drains clientStep authSha1V4ClientPostDecrypt recvView
      (fun q c => q.length + c.length ≤ 16384) id := by
  intro t c hfit
  have hkeep : (drainAll clientStep { t with recvBuffer := [] }
      (t.recvBuffer ++ c)).state.recvBuffer = [] :=
    drain_keeps _ clientStep_keeps_recvBuffer _ _ _ rfl
  unfold authSha1V4ClientPostDecrypt
  simp only [recvView] at hfit ⊢
  rw [if_neg (by omega)]
  generalize drainAll clientStep { t with recvBuffer := [] } (t.recvBuffer ++ c) = r at hkeep ⊢
  refine ⟨fun hok => by simp [hok], fun hok => ⟨by simp [hok, List.flatMap_id], ?_⟩⟩
  rw [recvBuffer_nil_eq hkeep]

@[simp] theorem serverStep_nil (crypto : Crypto) (server : ServerInfo) (now : UInt32)
    (s : AuthSimpleLocal) : serverStep crypto server now s [] = .more s := by
  unfold serverStep
  split <;> rfl

@[simp] theorem clientStep_nil (s : AuthSimpleLocal) : clientStep s [] = .more s := rfl

/-- The whole stream of the server is data frames the client reads from any state,
carrying the payloads. -/
theorem serverSends_chain {ld : AuthSimpleLocal} (hunit : 0 < ld.unitLen)
    (hunit' : ld.unitLen ≤ authSimplePackUnitSize) (s : AuthSimpleLocal)
    (payloads : List (List UInt8)) :
    ∀ rngs : Nat → Shift128, ∃ fs, Chain clientStep s fs s ∧ wire fs = serverSends ld rngs payloads ∧
      (outs fs).flatten = payloads.flatten ∧ Bounded maxFrameLength fs := by
  have hreads : ReadsData clientStep s := fun h1 hraw hlen => clientStep_reads s h1 hraw hlen
  induction payloads with
  | nil => intro rngs; exact ⟨[], .nil s, rfl, rfl, by simp⟩
  | cons p ps ih =>
    intro rngs
    obtain ⟨fs, hfs, hw, ho, hb⟩ := serverPreEncrypt_chain hreads hunit hunit' (rngs 0) p
    obtain ⟨gs, hgs, hw', ho', hb'⟩ := ih (fun k => rngs (k + 1))
    refine ⟨fs ++ gs, hfs.append hgs, ?_, ?_, hb.append hb'⟩
    · rw [wire_append, hw, hw', serverSends]
    · rw [outs_append, List.flatten_append, ho, ho', List.flatten_cons]

/-! ## What each direction reads and writes

The client's encoder and its receiver share the connection's state but no field of it: the
encoder reads and writes only `has_sent_header`, the receiver only `recv_buffer`. -/

/-- The client's encoder writes only `has_sent_header`, which the first call with data sets. -/
theorem authSha1V4ClientPreEncrypt_localData (crypto : Crypto) (server : ServerInfo) (now : UInt32)
    (ld : AuthSimpleLocal) (global : AuthGlobal) (rng : Shift128) (entropy : Entropy)
    (junk : Nat → UInt8) (plaindata : List UInt8) :
    (authSha1V4ClientPreEncrypt crypto server now ld global rng entropy junk plaindata).localData =
      { ld with hasSentHeader := ld.hasSentHeader || decide (plaindata.length > 0) } := by
  unfold authSha1V4ClientPreEncrypt
  by_cases h : plaindata.length > 0 ∧ ld.hasSentHeader = false
  · rw [if_pos h]
    simp [h.1, h.2]
  · rw [if_neg h]
    -- the header is sent already, or there is nothing to send: the flag stays
    have hflag : (ld.hasSentHeader || decide (plaindata.length > 0)) = ld.hasSentHeader := by
      cases hs : ld.hasSentHeader <;> simp_all
    rw [hflag]

/-- What the client's encoder writes depends on the connection's state only through
`has_sent_header`. -/
theorem authSha1V4ClientPreEncrypt_out_congr (crypto : Crypto) (server : ServerInfo) (now : UInt32)
    {ld ld' : AuthSimpleLocal} (h : ld.hasSentHeader = ld'.hasSentHeader) (global : AuthGlobal)
    (rng : Shift128) (entropy : Entropy) (junk : Nat → UInt8) (plaindata : List UInt8) :
    (authSha1V4ClientPreEncrypt crypto server now ld global rng entropy junk plaindata).out =
      (authSha1V4ClientPreEncrypt crypto server now ld' global rng entropy junk plaindata).out := by
  unfold authSha1V4ClientPreEncrypt
  rw [h]
  split_ifs <;> rfl

/-- A pass of the client's loop goes on from the state it was given, whatever that is. -/
theorem clientStep_map_const (s s' : AuthSimpleLocal) (buf : List UInt8) :
    (clientStep s buf).map (fun _ => s') = clientStep s' buf := by
  unfold clientStep
  split_ifs
  · rfl
  · split <;> rfl

theorem clientStep_keeps_state (s : AuthSimpleLocal) (buf : List UInt8) :
    Keeps (· = s) (clientStep s buf) := by
  unfold clientStep
  split_ifs
  all_goals (try split) <;> simp only [Keeps]

/-- The server's encoder reads nothing of the connection's state but `unit_len`. -/
theorem authSha1V4ServerPreEncrypt_congr {ld ld' : AuthSimpleLocal} (h : ld.unitLen = ld'.unitLen)
    (rng : Shift128) (buf : List UInt8) :
    authSha1V4ServerPreEncrypt ld rng buf = authSha1V4ServerPreEncrypt ld' rng buf := by
  simp only [authSha1V4ServerPreEncrypt, h]

theorem serverStep_keeps_unitLen (crypto : Crypto) (server : ServerInfo) (now : UInt32)
    (s : AuthSimpleLocal) (buf : List UInt8) :
    Keeps (fun t => t.unitLen = s.unitLen) (serverStep crypto server now s buf) := by
  unfold serverStep
  dsimp only
  -- every pass goes on from `s`, or from `s` with the header's fields set
  split_ifs
  all_goals (try split) <;> simp only [Keeps]

/-- The server's receiver never writes `unit_len`. -/
theorem authSha1V4ServerPostDecrypt_unitLen (crypto : Crypto) (server : ServerInfo) (now : UInt32)
    (ld : AuthSimpleLocal) (buf : List UInt8) :
    (authSha1V4ServerPostDecrypt crypto server now ld buf).1.unitLen = ld.unitLen :=
  drain_keeps (fun t : AuthSimpleLocal => t.unitLen = ld.unitLen)
    (fun s b hs => by
      have hk := serverStep_keeps_unitLen crypto server now s b
      rw [hs] at hk
      exact hk) _ _ _ rfl

/-- `auth_sha1_v4_client_post_decrypt` writes only `recv_buffer`. -/
theorem authSha1V4ClientPostDecrypt_fst (ld : AuthSimpleLocal) (buf : List UInt8) :
    (authSha1V4ClientPostDecrypt ld buf).1 =
      { ld with recvBuffer := (authSha1V4ClientPostDecrypt ld buf).1.recvBuffer } := by
  unfold authSha1V4ClientPostDecrypt
  split_ifs
  · cases ld
    rfl
  · -- the loop ends in the state it started from
    have hs := @drain_keeps _ _ _ clientStep (fun t => t = { ld with recvBuffer := [] })
      (fun s b hs => by subst hs; exact clientStep_keeps_state _ b) ((ld.recvBuffer ++ buf).length + 1)
      _ (ld.recvBuffer ++ buf) rfl
    dsimp only at hs ⊢
    unfold drainAll
    rw [hs]

/-- What the client's receiver hands on, and the receive buffer it leaves, depend on the
connection's state only through `recv_buffer`. -/
theorem authSha1V4ClientPostDecrypt_congr {ld ld' : AuthSimpleLocal}
    (h : ld.recvBuffer = ld'.recvBuffer) (buf : List UInt8) :
    (authSha1V4ClientPostDecrypt ld buf).2 = (authSha1V4ClientPostDecrypt ld' buf).2 ∧
      (authSha1V4ClientPostDecrypt ld buf).1.recvBuffer = (authSha1V4ClientPostDecrypt ld' buf).1.recvBuffer := by
  unfold authSha1V4ClientPostDecrypt
  rw [h]
  split_ifs
  · exact ⟨rfl, h⟩
  · -- the two loops differ only in the state they carry along
    have hm := drainAll_map (fun _ => { ld' with recvBuffer := [] })
      (fun s b => clientStep_map_const s _ b) { ld with recvBuffer := [] } (ld'.recvBuffer ++ buf)
    rw [← hm]
    exact ⟨rfl, rfl⟩

/-! ## Lengths -/

/-- A data frame is longer than its data. -/
theorem authSha1V4PackData_length_ge (data : List UInt8) (rng : Shift128) (junk : Nat → UInt8) :
    data.length ≤ (authSha1V4PackData data rng junk).1.length := by
  obtain ⟨n, heq, h1, -⟩ := authSha1V4PackData_spec data rng junk
  rw [heq, packDataFrame_length h1 (junkBytes_length junk 4 n)]
  omega

/-- The loop's frames and what it leaves are at least as long as the data. -/
theorem packFrames_length_ge {unit : Nat} :
    ∀ fuel rng junk (data : List UInt8), data.length ≤
      (packFrames unit fuel rng junk data).1.length + (packFrames unit fuel rng junk data).2.2.length := by
  intro fuel
  induction fuel with
  | zero => intro rng junk data; show data.length ≤ 0 + data.length; omega
  | succ fuel ih =>
    intro rng junk data
    by_cases hgt : data.length > unit
    case neg => rw [packFrames_stop hgt]; show data.length ≤ 0 + data.length; omega
    case pos =>
      rw [packFrames_succ hgt]
      have hframe := authSha1V4PackData_length_ge (data.take unit) rng junk
      have hrest := ih (authSha1V4PackData (data.take unit) rng junk).2
        (fun i => junk ((authSha1V4PackData (data.take unit) rng junk).1.length + i)) (data.drop unit)
      simp only [List.length_append, List.length_take, List.length_drop] at hframe hrest ⊢
      omega

/-- `auth_sha1_v4_server_pre_encrypt` writes at least as many bytes as it is given. -/
theorem authSha1V4ServerPreEncrypt_length_ge (ld : AuthSimpleLocal) (rng : Shift128)
    (buf : List UInt8) : buf.length ≤ (authSha1V4ServerPreEncrypt ld rng buf).1.length := by
  have hframes : buf.length ≤ (packFrames ld.unitLen buf.length rng (fun _ => 0) buf).1.length +
      (packFrames ld.unitLen buf.length rng (fun _ => 0) buf).2.2.length :=
    packFrames_length_ge buf.length rng (fun _ => 0) buf
  unfold authSha1V4ServerPreEncrypt
  generalize packFrames ld.unitLen buf.length rng (fun _ => 0) buf = P at hframes
  obtain ⟨frames, rng', rest⟩ := P
  have hlast := authSha1V4PackData_length_ge rest rng' (fun _ => 0)
  dsimp only at hframes ⊢
  rw [List.length_append]
  omega

/-- A data frame is never empty, even for no data. -/
theorem authSha1V4PackData_ne_nil (data : List UInt8) (rng : Shift128) (junk : Nat → UInt8) :
    (authSha1V4PackData data rng junk).1 ≠ [] := by
  obtain ⟨n, heq, h1, -⟩ := authSha1V4PackData_spec data rng junk
  rw [heq, ← List.length_pos_iff, packDataFrame_length h1 (junkBytes_length junk 4 n)]
  omega

/-- `auth_sha1_v4_server_pre_encrypt` always writes its last frame, so it writes something on
every buffer, the empty one included. -/
theorem authSha1V4ServerPreEncrypt_ne_nil (ld : AuthSimpleLocal) (rng : Shift128)
    (buf : List UInt8) : (authSha1V4ServerPreEncrypt ld rng buf).1 ≠ [] := by
  unfold authSha1V4ServerPreEncrypt
  generalize packFrames ld.unitLen buf.length rng (fun _ => 0) buf = P
  obtain ⟨frames, rng', rest⟩ := P
  exact List.append_ne_nil_of_right_ne_nil frames (authSha1V4PackData_ne_nil rest rng' _)

/-- The client refuses a read that would fill its buffer past 16384 bytes, and keeps its
state. -/
theorem authSha1V4ClientPostDecrypt_of_full {ld : AuthSimpleLocal} {buf : List UInt8}
    (h : ld.recvBuffer.length + buf.length > 16384) :
    authSha1V4ClientPostDecrypt ld buf = (ld, none) := by
  rw [authSha1V4ClientPostDecrypt, if_pos h]

/-! ## The round trip -/

/-- **`auth_sha1_v4` carries both directions under every segmentation, within its two
limits.** For a client and a server made by `auth_sha1_v4_new_obfs` with the same key and the
client's IV as the server's receive IV:
- the client's encoder, called on any payloads in order (any clocks, process-wide ids,
  generators and buffer contents at each call), writes a stream that the server's decoder,
  given it cut into any reads, turns back into the payloads without rejecting, provided every
  client clock is within `max_time_dif` (a day) of the server's;
- the server's encoder, on any payloads, writes a stream that the client's decoder turns back
  into the payloads without returning `-1`, provided no read is over 14376 bytes (a pending
  frame is at most 2008 bytes, and the client refuses to buffer more than 16384). -/
theorem sha1v4_round_trip_within_clock_and_buffer (crypto : Crypto) (server server' : ServerInfo)
    (hkey : server'.key = server.key) (hiv : server'.recvIv = server.iv)
    (clientEntropy serverEntropy : Entropy) :
    (∀ (serverNow : UInt32) (world : Nat → ClientWorld) (payloads cs : List (List UInt8)),
      (∀ k, timeDif serverNow (world k).now ≤ 60 * 60 * 24) →
      cs.flatten = clientSends crypto server world (authSha1V4NewObfs clientEntropy).1 payloads →
      (run (authSha1V4ServerPostDecrypt crypto server' serverNow)
        (authSha1V4NewObfs serverEntropy).1 cs).2 = some payloads.flatten) ∧
    (∀ (rngs : Nat → Shift128) (payloads cs : List (List UInt8)),
      (∀ c ∈ cs, c.length ≤ 14376) →
      cs.flatten = serverSends (authSha1V4NewObfs serverEntropy).1 rngs payloads →
      (run authSha1V4ClientPostDecrypt (authSha1V4NewObfs clientEntropy).1 cs).2 =
        some payloads.flatten) := by
  constructor
  case left =>
    intro serverNow world payloads cs htime hcs
    -- the client's stream is a chain of frames from the server's first state ...
    obtain ⟨fs, u, hch, hw, ho, hb⟩ := clientSends_chain crypto hkey hiv payloads world
      (show Synced (authSha1V4NewObfs clientEntropy).1 (authSha1V4NewObfs serverEntropy).1
        from ⟨rfl, rfl⟩) htime
    -- ... and the server's decoder reads every cut of a chain
    have hrun := run_chain (serverPostDecrypt_drains crypto server' serverNow) hch
      (serverStep_nil crypto server' serverNow u) hb (fun _ _ _ _ => trivial) (hcs.trans hw.symm)
      (recvView_of_empty rfl)
    rw [hrun.2, List.flatMap_id, ho]
  case right =>
    intro rngs payloads cs hread hcs
    have hunit := authSha1V4NewObfs_unitLen serverEntropy
    obtain ⟨fs, hch, hw, ho, hb⟩ := serverSends_chain
      (by rw [hunit, authSimplePackUnitSize]; decide) hunit.le
      (authSha1V4NewObfs clientEntropy).1 payloads rngs
    -- whatever is pending is a proper prefix of a frame, so every read fits the buffer
    have hfit : ∀ q : List UInt8, q.length < maxFrameLength ∨ q = [] →
        ∀ c ∈ cs, q.length + c.length ≤ 16384 := by
      intro q hq c hc
      have := hread c hc
      rw [maxFrameLength] at hq
      rcases hq with hq | rfl
      · omega
      · simp only [List.length_nil]; omega
    have hrun := run_chain clientPostDecrypt_drains hch (clientStep_nil _) hb hfit
      (hcs.trans hw.symm) (recvView_of_empty rfl)
    rw [hrun.2, List.flatMap_id, ho]

/-! ## A sample run -/

def sampleKey : List UInt8 := ascii "key"

def sampleIv : List UInt8 := (List.range 16).map Nat.toUInt8

/-- One `server_info` for both ends: the client's IV is the server's receive IV. -/
def sampleServer : ServerInfo :=
  { host := ascii "example.com", port := 8388, param := none, iv := sampleIv, recvIv := sampleIv,
    key := sampleKey, headLen := 7, tcpMss := 1460, overhead := 0, bufferSize := 0 }

def sampleEntropy : Entropy := ⟨fun i => i.toUInt8, 0⟩

/-- What the client's calls find: a clock, the process-wide ids, a generator whose next draw is
0 (so every padding is one byte), and a zeroed buffer. -/
def sampleWorld : ClientWorld :=
  { now := 0x5f5e1000, global := ⟨Vector.ofFn fun i => (0x40 + i.val).toUInt8, 0x10⟩,
    rng := ⟨0, 0⟩, entropy := sampleEntropy, junk := fun _ => 0 }

/-- A request: the address 127.0.0.1 port 80, then five bytes of data. -/
def samplePayload : List UInt8 := [1, 127, 0, 0, 1, 0, 80] ++ ascii "GET /"

def sampleReply : List UInt8 := ascii "HTTP/1.1 200 OK"

/-- HMAC-SHA1 as the library computes it on the one header of the run. -/
def sampleCrypto : Crypto where
  md5 := tableDigest []
  sha1 := tableDigest []
  hmacMd5 := tableKeyed []
  hmacSha1 := tableKeyed [
    ((sampleIv ++ sampleKey,
      [0x00, 0x24, 0x86, 0x01, 0xff, 0x49, 0x01, 0x00, 0x10, 0x5e, 0x5f, 0x40, 0x41, 0x42,
       0x43, 0x11, 0x00, 0x00, 0x00, 0x01, 0x7f, 0x00, 0x00, 0x01, 0x00, 0x50]),
      #v[0xbb, 0x81, 0xbe, 0x9b, 0xaa, 0x8a, 0xd9, 0x1d, 0x52, 0x7b, 0x81, 0x34, 0xb5, 0xe3,
       0x9c, 0xc0, 0x6c, 0x61, 0xe2, 0x73])
  ]
  aes128CbcEncrypt _ b := b
  aes128CbcDecrypt _ b := b

/-- The client's 50 bytes: a header of 36 carrying the address, and a data frame of 14. -/
def sampleClientStream : List UInt8 :=
  clientSends sampleCrypto sampleServer (fun _ => sampleWorld) (authSha1V4NewObfs sampleEntropy).1
    [samplePayload]

def sampleServerStream : List UInt8 :=
  serverSends (authSha1V4NewObfs sampleEntropy).1 (fun _ => ⟨0, 0⟩) [sampleReply]

/-- On the sample run the client's stream, read as 20 bytes and 30, and the server's reply,
read as 3 bytes and the rest, come back whole. -/
theorem sha1v4_round_trip_on_sample_run :
    (run (authSha1V4ServerPostDecrypt sampleCrypto sampleServer sampleWorld.now)
        (authSha1V4NewObfs sampleEntropy).1
        [sampleClientStream.take 20, sampleClientStream.drop 20]).2 = some [samplePayload].flatten ∧
      (run authSha1V4ClientPostDecrypt (authSha1V4NewObfs sampleEntropy).1
        [sampleServerStream.take 3, sampleServerStream.drop 3]).2 = some [sampleReply].flatten :=
  ⟨(sha1v4_round_trip_within_clock_and_buffer sampleCrypto sampleServer sampleServer rfl rfl
      sampleEntropy sampleEntropy).1 sampleWorld.now (fun _ => sampleWorld) [samplePayload] _
      (fun _ => by decide) (by simp [sampleClientStream]),
    (sha1v4_round_trip_within_clock_and_buffer sampleCrypto sampleServer sampleServer rfl rfl
      sampleEntropy sampleEntropy).2 (fun _ => ⟨0, 0⟩) [sampleReply] _ (by decide)
      (by simp [sampleServerStream])⟩

/-- The round trip as first claimed fails at both limits: the server returns `NULL` for the
sample request when its clock is a day and a second ahead of the client's, and the client
returns `-1` for a reply of 16385 bytes read at once. -/
theorem sha1v4_late_clock_or_long_read_rejects :
    (run (authSha1V4ServerPostDecrypt sampleCrypto sampleServer (sampleWorld.now + 86401))
        (authSha1V4NewObfs sampleEntropy).1 [sampleClientStream]).2 = none ∧
      (run authSha1V4ClientPostDecrypt (authSha1V4NewObfs sampleEntropy).1
        [serverSends (authSha1V4NewObfs sampleEntropy).1 (fun _ => ⟨0, 0⟩)
          [List.replicate 16385 0]]).2 = none := by
  refine ⟨by decide +kernel, ?_⟩
  -- the reply's frames are longer than its 16385 bytes, so the one read overflows the buffer
  have hlong := authSha1V4ServerPreEncrypt_length_ge (authSha1V4NewObfs sampleEntropy).1 ⟨0, 0⟩
    (List.replicate 16385 0)
  have hinit : (authSha1V4NewObfs sampleEntropy).1.recvBuffer = [] := rfl
  rw [List.length_replicate] at hlong
  simp only [serverSends, List.append_nil]
  rw [run, authSha1V4ClientPostDecrypt_of_full (by rw [hinit, List.length_nil]; omega)]

end ShadowsocksR.AuthSha1V4
