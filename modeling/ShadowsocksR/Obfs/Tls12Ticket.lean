/-
  ShadowsocksR.Obfs.Tls12Ticket — the `tls1.2_ticket_auth` obfs (`tls1.2_ticket.c`).

  The client's first packet is a TLS 1.2 ClientHello whose random and session id
  carry an HMAC-SHA1 tag (`tls12_ticket_pack_auth_data`); the payloads it is asked to
  send meanwhile are kept in `data_sent_buffer`. The server answers with ServerHello,
  an optional NewSessionTicket, ChangeCipherSpec and Finished, tagged with an HMAC over
  all of it; the client then sends its own ChangeCipherSpec and Finished, and from then
  on both sides wrap data in application-data records `17 03 03 len`.
  `handshake_status` is a bit set: 1 hello sent or parsed, 2 Finished built, 4 Finished
  sent or checked, 8 the server's side done; -1 marks a server that gave up on the
  peer (`decode_error_return`), which from then on passes bytes through.

  The server decoder is a three-phase machine over the bytes it has buffered. In the
  first phase it works on a copy of the buffer (`buf_copy`): it strips the 3-byte record
  prefix, reads the record length from the first two bytes of the copy and compares it
  with `buf_copy->len - 2`, a `size_t` that wraps when fewer than 5 bytes have come.
  After a first read of just the 3-byte prefix the copy is empty, the length is read
  from the bytes left in its memory (`00 03`), the wrapped bound lets it through, and
  the ClientHello check that follows fails: the server gives up on a client that only
  had its first segment cut short.

  Proved here:
  - `clientHello_record`, `tls12TicketAuthClientEncode_hello`: the client's first packet
    is one handshake record `16 03 01 len body`, whatever the keys, the random draws and
    the payload;
  - `serverDecodeHello_prefix_only`, `tls12TicketAuthServerDecode_prefix_only`: a server
    in its first phase whose buffered bytes are exactly `16 03 01` ends in
    `decode_error_return` (status -1, 2048 bytes of `E`, `need_decrypt` off), and
    `tls12TicketAuthServerDecode_of_error`: from then on it passes reads through;
  - `tls12_first_read_of_three_bytes_is_rejected`: the two together, for every client
    and every server.
-/

import ShadowsocksR.Buffer
import ShadowsocksR.Crypto
import ShadowsocksR.Lib.CString
import ShadowsocksR.Obfs.ObfsUtil

namespace ShadowsocksR.Tls12Ticket

open Bytes CString

/-! ## The plugin's state -/

/-- `struct tls12_ticket_auth_local_data`. `send_buffer` and `max_time_dif` are not read
by the code (the time check is commented out). -/
structure Tls12Local where
  handshakeStatus : Int32
  recvBuffer : Buffer
  clientId : List UInt8
  dataSentBuffer : List (List UInt8)
  sendId : Nat
  fastauth : Bool

/-- `tls12_ticket_auth_local_data_init`; `fastauth` is set by the `fastauth` variant. -/
def tls12TicketAuthLocalDataInit (fastauth : Bool) : Tls12Local :=
  ⟨0, bufferCreate ssrBuffSize, [], [], 0, fastauth⟩

/-- `(local->handshake_status & bit) == bit`. -/
def Tls12Local.has (ld : Tls12Local) (bit : Int32) : Bool := (ld.handshakeStatus &&& bit) == bit

/-- `tls_version`. -/
def tlsVersion : List UInt8 := [0x03, 0x03]

/-- `tls12_sha1_hmac`: HMAC-SHA1 keyed with the server key followed by a client id. -/
def tls12Sha1Hmac (crypto : Crypto) (server : ServerInfo) (clientId msg : List UInt8) :
    List UInt8 :=
  (crypto.hmacSha1 (server.key ++ clientId) msg).toList

/-- `tls12_ticket_pack_auth_data`: the time, 18 random bytes, and the first 10 bytes of
their HMAC. -/
def tls12TicketPackAuthData (crypto : Crypto) (server : ServerInfo) (now : UInt32)
    (entropy : Entropy) (clientId : List UInt8) : List UInt8 × Entropy :=
  let (rnd, entropy) := randBytes entropy 18
  let msg := be32 now ++ rnd
  (msg ++ (tls12Sha1Hmac crypto server clientId msg).take obfsHmacSha1Len, entropy)

/-- `tls12_ticket_auth_sni`: the server-name extension for one host. -/
def tls12TicketAuthSni (url : List UInt8) : List UInt8 :=
  let url := cstr url
  let len0 := 1 + 2 + url.length
  [0, 0] ++ be16 (len0 + 2) ++ be16 len0 ++ [0] ++ be16 url.length ++ url

/-- `_pack_data`: one application-data record. -/
def packData (data : List UInt8) : List UInt8 := [0x17, 0x03, 0x03] ++ be16 data.length ++ data

/-- The loops of the client's data phase: while more than `above` bytes remain, cut a
record of `rand_integer() % modulus + base` bytes (at most what remains). Every round
cuts at least one byte, so the payload's length is enough fuel. -/
def packRecords (above modulus base : Nat) : Nat → Entropy → List UInt8 →
    List UInt8 × Entropy × List UInt8
  | 0, entropy, rest => ([], entropy, rest)
  | fuel + 1, entropy, rest =>
    if rest.length > above then
      let (r, entropy) := randInteger entropy
      let len := min (sizeT r % modulus + base) rest.length
      let (out, entropy, rest') := packRecords above modulus base fuel entropy (rest.drop len)
      (packData (rest.take len) ++ out, entropy, rest')
    else ([], entropy, rest)

/-! ## The client's packets -/

def tlsData0 : List UInt8 :=
  [0x00, 0x1c, 0xc0, 0x2b, 0xc0, 0x2f, 0xcc, 0xa9, 0xcc, 0xa8, 0xcc, 0x14, 0xcc, 0x13, 0xc0, 0x0a,
   0xc0, 0x14, 0xc0, 0x09, 0xc0, 0x13, 0x00, 0x9c, 0x00, 0x35, 0x00, 0x2f, 0x00, 0x0a, 0x01, 0x00]

def tlsData1 : List UInt8 := [0xff, 0x01, 0x00, 0x01, 0x00]

def tlsData2 : List UInt8 := [0x00, 0x17, 0x00, 0x00, 0x00, 0x23]

def tlsData3 : List UInt8 :=
  [0x00, 0x0d, 0x00, 0x16, 0x00, 0x14, 0x06, 0x01, 0x06, 0x03, 0x05, 0x01, 0x05, 0x03, 0x04, 0x01,
   0x04, 0x03, 0x03, 0x01, 0x03, 0x03, 0x02, 0x01, 0x02, 0x03, 0x00, 0x05, 0x00, 0x05, 0x01, 0x00,
   0x00, 0x00, 0x00, 0x00, 0x12, 0x00, 0x00, 0x75, 0x50, 0x00, 0x00, 0x00, 0x0b, 0x00, 0x02, 0x01,
   0x00, 0x00, 0x0a, 0x00, 0x06, 0x00, 0x04, 0x00, 0x17, 0x00, 0x18]

/-- The host list split at `,`. -/
def splitAtComma : List UInt8 → List (List UInt8)
  | [] => [[]]
  | c :: r =>
    match splitAtComma r with
    | h :: t => if c = 44 then [] :: h :: t else (c :: h) :: t
    | [] => [[c]]

/-- Whether `calloc` of `n` bytes returns `NULL`: glibc refuses every request past
`PTRDIFF_MAX`; the model takes every smaller one to succeed. -/
def callocFails (n : Nat) : Bool := decide (2 ^ 63 ≤ n)

/-- The ClientHello: the random carrying the HMAC tag, the session id (the client id),
the cipher suites and the extensions with the server name and a random ticket, each
length prefixed as TLS requires; and whether the ticket's `calloc(ticket_size + 1, 1)`
returned `NULL`, which `rand_bytes` then writes through. -/
def clientHello (crypto : Crypto) (server : ServerInfo) (localClientId : List UInt8)
    (now : UInt32) (entropy : Entropy) : List UInt8 × Entropy × Bool :=
  let (auth, entropy) := tls12TicketPackAuthData crypto server now entropy localClientId
  let result := auth ++ [32] ++ localClientId ++ tlsData0
  let param := match server.param with
    | some p => if strlen p > 0 then cstr p else cstr server.host
    | none => cstr server.host
  let phost := splitAtComma param
  let (r, entropy) := randInteger entropy
  let sni := tls12TicketAuthSni (phost.getD (sizeT r % phost.length) [])
  let (r, entropy) := randInteger entropy
  let ticketSize := sizeT ((32 + r.tmod (196 - 32)) * 2)
  let nullTicket := callocFails (sizeT (ticketSize + 1))
  let (ticket, entropy) := randBytes entropy ticketSize
  let ext := tlsData1 ++ sni ++ tlsData2 ++ be16 ticketSize ++ ticket ++ tlsData3
  let ext := be16 ext.length ++ ext
  let result := tlsVersion ++ (result ++ ext)
  let result := [0x01, 0x00] ++ be16 result.length ++ result
  ([0x16, 0x03, 0x01] ++ be16 result.length ++ result, entropy, nullTicket)

/-- The client's ChangeCipherSpec and Finished, with 22 random bytes and a tag. -/
def clientFinish (crypto : Crypto) (server : ServerInfo) (localClientId : List UInt8)
    (entropy : Entropy) : List UInt8 × Entropy :=
  -- `finish_len_set` has one entry, so the index drawn is always 0
  let (_, entropy) := randInteger entropy
  let finishLen := 32
  let (rnd, entropy) := randBytes entropy (finishLen - 10)
  let hmacData := [0x14, 0x03, 0x03, 0x00, 0x01, 0x01, 0x16, 0x03, 0x03] ++ be16 finishLen ++ rnd
  (hmacData ++ (tls12Sha1Hmac crypto server localClientId hmacData).take obfsHmacSha1Len, entropy)

/-- What `tls12_ticket_auth_client_encode` returns, with the plugin and the random
source after it. -/
structure ClientEncoded where
  localData : Tls12Local
  out : List UInt8
  entropy : Entropy
  /-- `rand_bytes` wrote through a `NULL` from `calloc`: the process faults there, and `out`
  is never sent. -/
  nullWrite : Bool

/-- `tls12_ticket_auth_client_encode`. `localClientId` is the process-wide
`local_client_id`, `now` is `time(NULL)`. -/
def tls12TicketAuthClientEncode (crypto : Crypto) (server : ServerInfo)
    (localClientId : List UInt8) (now : UInt32) (entropy : Entropy) (ld : Tls12Local)
    (buf : List UInt8) : ClientEncoded :=
  if ld.handshakeStatus = -1 then ⟨ld, buf, entropy, false⟩
  else if ld.has 4 then
    -- the data phase; `send_id` is never raised, so the first loop runs while
    -- more than 256 bytes remain
    let (out1, entropy, rest) :=
      if ld.sendId ≤ 4 then packRecords 256 512 64 buf.length entropy buf
      else ([], entropy, buf)
    let (out2, entropy, rest) := packRecords ssrBuffSize 4096 100 rest.length entropy rest
    ⟨ld, out1 ++ out2 ++ (if rest.length > 0 then packData rest else []), entropy, false⟩
  else
    let sent := if buf.length > 0 then ld.dataSentBuffer ++ [packData buf] else ld.dataSentBuffer
    let ld := { ld with dataSentBuffer := sent }
    if (ld.handshakeStatus &&& 3) ≠ 0 then
      let (ld, entropy) :=
        if !ld.has 2 then
          let (finish, entropy) := clientFinish crypto server localClientId entropy
          ({ ld with dataSentBuffer := finish :: ld.dataSentBuffer,
                     handshakeStatus := ld.handshakeStatus ||| 2 }, entropy)
        else (ld, entropy)
      let (ld, out) :=
        if buf.length = 0 || ld.fastauth then
          ({ ld with dataSentBuffer := [] }, ld.dataSentBuffer.flatten)
        else (ld, [])
      let ld := if buf.length = 0 then { ld with handshakeStatus := ld.handshakeStatus ||| 4 } else ld
      ⟨ld, out, entropy, false⟩
    else
      let (hello, entropy, nullTicket) := clientHello crypto server localClientId now entropy
      ⟨{ ld with handshakeStatus := ld.handshakeStatus ||| 1 }, hello, entropy, nullTicket⟩

/-! ## The client's decoder -/

/-- The application-data loop: whole `17 03 03 len` records are taken off the buffer, which
it leaves shortened past them; a record of another type is an error (`none`, the records
before it already gone), a partial one waits. Every round takes at least 5 bytes, so the
buffer's length is enough fuel. -/
def takeRecords : Nat → Buffer → Buffer × Option (List UInt8)
  | 0, recv => (recv, some [])
  | fuel + 1, recv =>
    if recv.len > 5 then
      if byteAt recv.data 0 ≠ 0x17 then (recv, none)
      else
        let size := rdBe16 recv.data 3
        if size + 5 > recv.len then (recv, some [])
        else
          let (recv', out) := takeRecords fuel (bufferShorten recv (5 + size) (recv.len - (5 + size)))
          (recv', out.map ((recv.data.drop 5).take size ++ ·))
    else (recv, some [])

/-- The walk over the handshake records (`0x14` and `0x16`) when the tag over the whole
buffer does not match: their end, or `none` when the buffer ends inside one (then the
decoder hands back its input). -/
def handshakeEnd (recv : List UInt8) : Nat → Nat → Option Nat
  | 0, hl => some hl
  | fuel + 1, hl =>
    if hl < recv.length ∧ (byteAt recv hl = 0x14 ∨ byteAt recv hl = 0x16) then
      let hl := hl + 5
      if hl ≥ recv.length then none
      else
        let hl := hl + rdBe16 recv (hl - 2)
        if hl > recv.length then none else handshakeEnd recv fuel hl
    else some hl

/-- What `tls12_ticket_auth_client_decode` returns: the buffer (`none` for NULL) and
`needsendback`. -/
structure ClientDecoded where
  result : Option (List UInt8)
  needsendback : Bool

/-- The decoder's data phase on the plugin's buffer. -/
def clientRecords (ld : Tls12Local) : Tls12Local × Option (List UInt8) :=
  let (recv, out) := takeRecords ld.recvBuffer.len ld.recvBuffer
  ({ ld with recvBuffer := recv }, out)

/-- Where the server's handshake ends in the buffer `data`: at its end when the tag over
all of it matches, else after the walk over its records, whose own tag must match
(`some none` when it does not); `none` when the walk runs past the buffer. -/
def handshakeLength (tag : List UInt8 → List UInt8) (data : List UInt8) :
    Option (Option Nat) :=
  if (data.drop (data.length - 10)).take 10 = tag (data.take (data.length - 10)) then
    some (some data.length)
  else
    match handshakeEnd data data.length 0 with
    | none => none
    | some hl =>
      -- `headerlength - 10` is a `size_t`
      if (data.drop (sizeSub hl 10)).take 10 = tag (data.take (sizeSub hl 10)) then some (some hl)
      else some none

/-- `tls12_ticket_auth_client_decode`. -/
def tls12TicketAuthClientDecode (crypto : Crypto) (server : ServerInfo)
    (localClientId : List UInt8) (ld : Tls12Local) (buf : List UInt8) :
    Tls12Local × ClientDecoded :=
  let recv := bufferConcatenate ld.recvBuffer buf
  let ld := { ld with recvBuffer := recv }
  let tag (msg : List UInt8) :=
    (tls12Sha1Hmac crypto server localClientId msg).take obfsHmacSha1Len
  if ld.has 8 then
    let (ld, out) := clientRecords ld
    (ld, ⟨out, false⟩)
  else if recv.len < 11 + 32 + 1 + 32 then (ld, ⟨some [], false⟩)
  else if (recv.data.drop 33).take 10 ≠ tag ((recv.data.drop 11).take 22) then
    (ld, ⟨none, false⟩)
  else
    match handshakeLength tag recv.data with
    -- the handshake runs past what has arrived: the input is handed back as data
    | none => (ld, ⟨some buf, false⟩)
    | some none => (ld, ⟨none, false⟩)
    | some (some hl) =>
      let ld := { ld with recvBuffer := bufferShorten recv hl (recv.len - hl),
                          handshakeStatus := ld.handshakeStatus ||| 8 }
      let (ld, out) := clientRecords ld
      (ld, ⟨out, true⟩)

/-! ## The server's packets -/

/-- The application-data records of the server's data phase: while more than 2048
bytes remain, a record of `ntohs(two random bytes) % 4096 + 100` bytes. -/
def serverRecords : Nat → Entropy → List UInt8 → List UInt8 × Entropy
  | 0, entropy, input => (if input.length > 0 then packData input else [], entropy)
  | fuel + 1, entropy, input =>
    if input.length > ssrBuffSize then
      let (rnd, entropy) := randBytes entropy 2
      let size := min (rdBe16 rnd 0 % 4096 + 100) input.length
      let (out, entropy) := serverRecords fuel entropy (input.drop size)
      (packData (input.take size) ++ out, entropy)
    else (if input.length > 0 then packData input else [], entropy)

/-- The ServerHello record, the first of the server's handshake: the tagged random, the
client's session id and the cipher suite. -/
def serverHello (crypto : Crypto) (server : ServerInfo) (now : UInt32) (entropy : Entropy)
    (clientId : List UInt8) : List UInt8 × Entropy :=
  let (auth, entropy) := tls12TicketPackAuthData crypto server now entropy clientId
  let chunk1 := tlsVersion ++ auth ++ [0x20] ++ clientId ++
    [0xc0, 0x2f, 0x00, 0x00, 0x05, 0xff, 0x01, 0x00, 0x01, 0x00]
  let chunk2 := [0x02, 0x00] ++ be16 chunk1.length ++ chunk1
  ([0x16] ++ tlsVersion ++ be16 chunk2.length ++ chunk2, entropy)

/-- The server's handshake: ServerHello, an optional NewSessionTicket (one time in
eight), ChangeCipherSpec, a Finished of random length, and the tag over all of it. -/
def serverHandshake (crypto : Crypto) (server : ServerInfo) (now : UInt32) (entropy : Entropy)
    (clientId : List UInt8) : List UInt8 × Entropy :=
  let (data, entropy) := serverHello crypto server now entropy clientId
  let (r, entropy) := randInteger entropy
  let (data, entropy) :=
    if r.tmod 8 < 1 then
      let (rnd, entropy) := randBytes entropy 2
      let size := rdBe16 rnd 0 % 164 * 2 + 64
      let (ticket, entropy) := randBytes entropy size
      (data ++ [0x16] ++ tlsVersion ++ be16 (size + 4) ++ [0x04, 0x00] ++ be16 size ++ ticket,
        entropy)
    else (data, entropy)
  let data := data ++ [0x14] ++ tlsVersion ++ [0x00, 0x01, 0x01]
  let (r, entropy) := randInteger entropy
  -- `(uint16_t)((rand_integer() % 8) + 32)`
  let finishLen := ((r.tmod 8 + 32) % 2 ^ 16).toNat
  let (rnd, entropy) := randBytes entropy (finishLen - 10)
  let data := data ++ [0x16] ++ tlsVersion ++ be16 finishLen ++ rnd
  (data ++ (tls12Sha1Hmac crypto server clientId data).take obfsHmacSha1Len, entropy)

/-- `tls12_ticket_auth_server_encode`. -/
def tls12TicketAuthServerEncode (crypto : Crypto) (server : ServerInfo) (now : UInt32)
    (entropy : Entropy) (ld : Tls12Local) (buf : List UInt8) :
    Tls12Local × List UInt8 × Entropy :=
  if ld.handshakeStatus = -1 then (ld, buf, entropy)
  else if ld.has 8 then
    let (out, entropy) := serverRecords buf.length entropy buf
    (ld, out, entropy)
  else
    let ld := { ld with handshakeStatus := ld.handshakeStatus ||| 8 }
    let (data, entropy) := serverHandshake crypto server now entropy ld.clientId
    -- the data that came with the call follows in records, now that status has 8
    let (out, entropy) :=
      if buf.length > 0 then serverRecords buf.length entropy buf else ([], entropy)
    (ld, data ++ out, entropy)

/-! ## The server's decoder -/

/-- What `tls12_ticket_auth_server_decode` returns: the buffer (`none` for NULL) and its
two flags. -/
structure ServerDecoded where
  result : Option (List UInt8)
  needDecrypt : Bool
  needFeedback : Bool
  deriving Repr, DecidableEq

/-- `decode_error_return`: the plugin gives up (`handshake_status = -1`, no overhead) and
returns 2048 bytes of `E`. -/
def decodeErrorReturn (server : ServerInfo) (ld : Tls12Local) :
    (ServerInfo × Tls12Local) × ServerDecoded :=
  (({ server with overhead := 0 }, { ld with handshakeStatus := -1 }),
    ⟨some (List.replicate ssrBuffSize 0x45), false, false⟩)

/-- The third phase: whole `17 03 03 len` records, taken off the buffer; another prefix is an
error, the records before it already gone. -/
def serverRecordsIn : Nat → Buffer → Buffer × Option (List UInt8)
  | 0, recv => (recv, some [])
  | fuel + 1, recv =>
    if recv.len > 5 then
      if recv.data.take 3 ≠ [0x17, 0x03, 0x03] then (recv, none)
      else
        let size := rdBe16 recv.data 3
        if recv.len < size + 5 then (recv, some [])
        else
          let (recv', out) := serverRecordsIn fuel (bufferShorten recv (size + 5) (recv.len - (size + 5)))
          (recv', out.map ((recv.data.drop 5).take size ++ ·))
    else (recv, some [])

/-- The third phase of `tls12_ticket_auth_server_decode` (`handshake_status & 4`). -/
def serverDecodeData (server : ServerInfo) (ld : Tls12Local) (buf : List UInt8)
    (needDecrypt needFeedback : Bool) : (ServerInfo × Tls12Local) × ServerDecoded :=
  let recv := bufferConcatenate ld.recvBuffer buf
  let (recv, out) := serverRecordsIn recv.len recv
  ((server, { ld with recvBuffer := recv }), ⟨out, needDecrypt, needFeedback⟩)

/-- The second phase (`handshake_status & 1`): the client's ChangeCipherSpec and
Finished with their tag, then the third phase on what follows. -/
def serverDecodeFinish (crypto : Crypto) (server : ServerInfo) (ld : Tls12Local)
    (buf : List UInt8) : (ServerInfo × Tls12Local) × ServerDecoded :=
  let recv := bufferConcatenate ld.recvBuffer buf
  let ld := { ld with recvBuffer := recv }
  let verify := recv.data
  if recv.len < 11 then ((server, ld), ⟨none, true, false⟩)
  else if recv.data.take 6 ≠ [0x14] ++ tlsVersion ++ [0x00, 0x01, 0x01] then
    ((server, ld), ⟨none, true, false⟩)
  else if (recv.data.drop 6).take 4 ≠ [0x16] ++ tlsVersion ++ [0x00] then
    ((server, ld), ⟨none, true, false⟩)
  else
    let verifyLen := rdBe16 recv.data 9 + 1
    if verify.length < verifyLen + 10 then ((server, ld), ⟨some [], false, false⟩)
    else if (tls12Sha1Hmac crypto server ld.clientId (verify.take verifyLen)).take 10 ≠
        (verify.drop verifyLen).take 10 then ((server, ld), ⟨none, true, false⟩)
    else
      let ld := { ld with recvBuffer := bufferStore recv (verify.drop (verifyLen + 10)),
                          handshakeStatus := ld.handshakeStatus ||| 4 }
      serverDecodeData server ld [] true false

/-- The first phase: the ClientHello, parsed on `buf_copy`, a clone of the buffered
bytes. The lengths it reads are loads from the copy's memory (`ntohs(*(uint16_t *)…)`),
and the bounds it compares them with are `size_t` differences. -/
def serverDecodeHello (crypto : Crypto) (server : ServerInfo) (ld : Tls12Local)
    (buf : List UInt8) : (ServerInfo × Tls12Local) × ServerDecoded :=
  let recv := bufferConcatenate ld.recvBuffer buf
  let ld := { ld with recvBuffer := recv }
  let bufCopy := bufferClone recv
  if bufCopy.len < 3 then ((server, ld), ⟨some [], false, false⟩)
  else if bufCopy.data.take 3 ≠ [0x16, 0x03, 0x01] then decodeErrorReturn server ld
  else
    let bufCopy := bufferShorten bufCopy 3 (sizeSub bufCopy.len 3)
    let headerLen := rdBe16 bufCopy.mem 0
    if headerLen > sizeSub bufCopy.len 2 then ((server, ld), ⟨some [], false, false⟩)
    else
      let ld := { ld with recvBuffer := bufferShorten recv (headerLen + 5)
                                          (sizeSub recv.len (headerLen + 5)),
                          handshakeStatus := 1 }
      let bufCopy := bufferShorten bufCopy 2 headerLen
      if bufCopy.read 0 2 ≠ [0x01, 0x00] then decodeErrorReturn server ld
      else
        let bufCopy := bufferShorten bufCopy 2 (sizeSub bufCopy.len 2)
        let msgSize := rdBe16 bufCopy.mem 0
        if msgSize ≠ sizeSub bufCopy.len 2 then decodeErrorReturn server ld
        else
          let bufCopy := bufferShorten bufCopy 2 (sizeSub bufCopy.len 2)
          if bufCopy.read 0 2 ≠ tlsVersion then decodeErrorReturn server ld
          else
            let bufCopy := bufferShorten bufCopy 2 (sizeSub bufCopy.len 2)
            let verifyid := bufCopy.read 0 32
            let bufCopy := bufferShorten bufCopy 32 (sizeSub bufCopy.len 32)
            let sessionidLen := (byteAt bufCopy.mem 0).toNat
            if sessionidLen < 32 then decodeErrorReturn server ld
            else
              let sessionid := bufCopy.read 1 sessionidLen
              let ld := { ld with clientId := sessionid }
              if (tls12Sha1Hmac crypto server ld.clientId (verifyid.take 22)).take 10 ≠
                  (verifyid.drop 22).take 10 then decodeErrorReturn server ld
              else if ld.recvBuffer.len ≥ 11 then
                -- the Finished came with the hello: the second phase runs on it now
                let (st, r) := serverDecodeFinish crypto server ld []
                (st, { r with needDecrypt := true, needFeedback := true })
              else ((server, ld), ⟨some [], false, true⟩)

/-- `tls12_ticket_auth_server_decode`: by `handshake_status`, pass-through after an
error, the data phase, the Finished phase or the hello phase. -/
def tls12TicketAuthServerDecode (crypto : Crypto) (server : ServerInfo) (ld : Tls12Local)
    (buf : List UInt8) : (ServerInfo × Tls12Local) × ServerDecoded :=
  if ld.handshakeStatus = -1 then ((server, ld), ⟨some buf, true, false⟩)
  else if ld.has 4 then serverDecodeData server ld buf true false
  else if ld.has 1 then serverDecodeFinish crypto server ld buf
  else serverDecodeHello crypto server ld buf

/-! ## A hello whose first segment is the record prefix

The client's first packet is one handshake record, so a network that delivers its first
three bytes alone hands the server exactly `16 03 01`. -/

/-- The ClientHello is one handshake record. -/
theorem clientHello_record (crypto : Crypto) (server : ServerInfo) (localClientId : List UInt8)
    (now : UInt32) (entropy : Entropy) :
    ∃ body, (clientHello crypto server localClientId now entropy).1 =
      [0x16, 0x03, 0x01] ++ be16 body.length ++ body := by
  simp only [clientHello]
  exact ⟨_, rfl⟩

/-- A fresh client's first call sends the hello, whatever it is asked to send, and faults
where the hello's ticket does. -/
theorem tls12TicketAuthClientEncode_hello (crypto : Crypto) (server : ServerInfo)
    (localClientId : List UInt8) (now : UInt32) (entropy : Entropy) (fastauth : Bool)
    (buf : List UInt8) :
    (tls12TicketAuthClientEncode crypto server localClientId now entropy
        (tls12TicketAuthLocalDataInit fastauth) buf).out =
        (clientHello crypto server localClientId now entropy).1 ∧
      (tls12TicketAuthClientEncode crypto server localClientId now entropy
        (tls12TicketAuthLocalDataInit fastauth) buf).nullWrite =
        (clientHello crypto server localClientId now entropy).2.2 := by
  have hst : (tls12TicketAuthLocalDataInit fastauth).handshakeStatus = 0 := rfl
  have hne : ¬ ((0 : Int32) = -1) := by decide
  have h4 : ((0 : Int32) &&& 4 == 4) = false := by decide
  have h3 : ¬ ((0 : Int32) &&& 3 ≠ 0) := by decide
  simp only [tls12TicketAuthClientEncode, Tls12Local.has, hst, hne, h4, h3, if_false,
    Bool.false_eq_true, and_self]

/-- When the buffered hello is just the record prefix, its copy is emptied by the first
`buffer_shorten`, and the length field is then read from the two bytes of the copy's
memory that this left: the terminator written at 0 and the prefix's `03` at 1. -/
theorem serverDecodeHello_prefix_only (crypto : Crypto) (server : ServerInfo) (ld : Tls12Local)
    (buf : List UInt8) (h : ld.recvBuffer.data ++ buf = [0x16, 0x03, 0x01]) :
    serverDecodeHello crypto server ld buf =
      decodeErrorReturn server
        { ld with recvBuffer := bufferConcatenate ld.recvBuffer buf, handshakeStatus := 1 } := by
  have hdata : (bufferConcatenate ld.recvBuffer buf).data = [0x16, 0x03, 0x01] := by
    rw [data_bufferConcatenate, h]
  have hlen : (bufferConcatenate ld.recvBuffer buf).len = 3 := by
    rw [← Buffer.data_length, hdata]; rfl
  -- the copy after its prefix is cut: empty, with `00 03` left at its front
  generalize hc : bufferClone (bufferConcatenate ld.recvBuffer buf) = c
  have hc_len : c.len = 3 := by rw [← hc, bufferClone_len, hlen]
  have hc_data : c.data = [0x16, 0x03, 0x01] := by rw [← hc, data_bufferClone, hdata]
  have hsub3 : sizeSub c.len 3 = 0 := by rw [hc_len]; rfl
  have hs : 3 ≤ c.len ∧ 0 ≤ c.len - 3 := by omega
  generalize hc1 : bufferShorten c 3 0 = c1
  have hc1_len : c1.len = 0 := by rw [← hc1, bufferShorten_len hs.1 hs.2]
  have hc1_0 : byteAt c1.mem 0 = 0 := by rw [← hc1, byteAt_bufferShorten hs.1 hs.2]; rfl
  have hc1_1 : byteAt c1.mem 1 = 3 := by
    rw [← hc1, byteAt_bufferShorten hs.1 hs.2, if_neg (by omega), if_neg (by omega), ← hc,
      byteAt_bufferClone, hdata]
    rfl
  have hhead : rdBe16 c1.mem 0 = 3 := by simp only [rdBe16, hc1_0, hc1_1]; rfl
  -- the wrapped bound `buf_copy->len - 2` lets the length through
  have hbound : ¬ rdBe16 c1.mem 0 > sizeSub c1.len 2 := by rw [hhead, hc1_len]; decide
  have hc2 : bufferShorten c1 2 (rdBe16 c1.mem 0) = c1 := bufferShorten_of_not (by omega)
  have hread : (bufferShorten c1 2 (rdBe16 c1.mem 0)).read 0 2 ≠ [0x01, 0x00] := by
    rw [hc2, Buffer.read_two, hc1_0, hc1_1]; decide
  have hrecv : bufferShorten (bufferConcatenate ld.recvBuffer buf) (rdBe16 c1.mem 0 + 5)
      (sizeSub (bufferConcatenate ld.recvBuffer buf).len (rdBe16 c1.mem 0 + 5)) =
      bufferConcatenate ld.recvBuffer buf := bufferShorten_of_not (by omega)
  unfold serverDecodeHello
  simp only [hc, hsub3, hc1]
  have htake : c.data.take 3 = [0x16, 0x03, 0x01] := by rw [hc_data]; rfl
  rw [if_neg (by omega), if_neg (not_not_intro htake), if_neg hbound, if_pos hread, hrecv]

/-- After `decode_error_return` every read is passed through as it came. -/
theorem tls12TicketAuthServerDecode_of_error (crypto : Crypto) (server : ServerInfo)
    (ld : Tls12Local) (buf : List UInt8) (hst : ld.handshakeStatus = -1) :
    (tls12TicketAuthServerDecode crypto server ld buf).2 = ⟨some buf, true, false⟩ := by
  simp only [tls12TicketAuthServerDecode, hst, if_true]

/-- A server still waiting for the hello gives up when all it has buffered is the
record prefix. -/
theorem tls12TicketAuthServerDecode_prefix_only (crypto : Crypto) (server : ServerInfo)
    (ld : Tls12Local) (buf : List UInt8) (hst : ld.handshakeStatus = 0)
    (h : ld.recvBuffer.data ++ buf = [0x16, 0x03, 0x01]) :
    tls12TicketAuthServerDecode crypto server ld buf =
      decodeErrorReturn server
        { ld with recvBuffer := bufferConcatenate ld.recvBuffer buf, handshakeStatus := 1 } := by
  have hne : ¬ ((0 : Int32) = -1) := by decide
  have h4 : ((0 : Int32) &&& 4 == 4) = false := by decide
  have h1 : ((0 : Int32) &&& 1 == 1) = false := by decide
  simp only [tls12TicketAuthServerDecode, Tls12Local.has, hst, hne, h4, h1, if_false,
    Bool.false_eq_true]
  exact serverDecodeHello_prefix_only crypto server ld buf h

theorem tls12_first_read_of_three_bytes_is_rejected (crypto : Crypto) (client server : ServerInfo)
    (localClientId : List UInt8) (now : UInt32) (entropy : Entropy)
    (clientFastauth serverFastauth : Bool) (payload : List UInt8) :
    let out := (tls12TicketAuthClientEncode crypto client localClientId now entropy
      (tls12TicketAuthLocalDataInit clientFastauth) payload).out
    let first := tls12TicketAuthServerDecode crypto server
      (tls12TicketAuthLocalDataInit serverFastauth) (out.take 3)
    3 < out.length ∧
      first.1.2.handshakeStatus = -1 ∧
      first.2 = ⟨some (List.replicate ssrBuffSize 0x45), false, false⟩ ∧
      (tls12TicketAuthServerDecode crypto first.1.1 first.1.2 (out.drop 3)).2 =
        ⟨some (out.drop 3), true, false⟩ := by
  intro out first
  obtain ⟨body, hbody⟩ := clientHello_record crypto client localClientId now entropy
  have hout : out = [0x16, 0x03, 0x01] ++ be16 body.length ++ body := by
    rw [← hbody]; exact (tls12TicketAuthClientEncode_hello _ _ _ _ _ _ _).1
  have htake : out.take 3 = [0x16, 0x03, 0x01] := by
    rw [hout, List.append_assoc]; rfl
  have hfirst : first = decodeErrorReturn server
      { tls12TicketAuthLocalDataInit serverFastauth with
        recvBuffer := bufferConcatenate (bufferCreate ssrBuffSize) (out.take 3),
        handshakeStatus := 1 } :=
    tls12TicketAuthServerDecode_prefix_only _ _ _ _ rfl (by rw [htake]; rfl)
  refine ⟨?long, ?status, ?result, ?rest⟩
  case long => rw [hout]; simp
  case status => rw [hfirst]; rfl
  case result => rw [hfirst]; rfl
  case rest => exact tls12TicketAuthServerDecode_of_error _ _ _ _ (by rw [hfirst]; rfl)

/-! ## A server handshake whose first segment ends inside the ServerHello -/

/-- The ServerHello's body: version, random, tag, session id, cipher suite. -/
theorem serverHello_eq (crypto : Crypto) (server : ServerInfo) (now : UInt32) (entropy : Entropy)
    (clientId : List UInt8) :
    let msg := be32 now ++ (randBytes entropy 18).1
    let chunk1 := tlsVersion ++ (msg ++ (tls12Sha1Hmac crypto server clientId msg).take obfsHmacSha1Len) ++
      [0x20] ++ clientId ++ [0xc0, 0x2f, 0x00, 0x00, 0x05, 0xff, 0x01, 0x00, 0x01, 0x00]
    (serverHello crypto server now entropy clientId).1 =
      [0x16, 0x03, 0x03] ++ be16 (chunk1.length + 4) ++ [0x02, 0x00] ++ be16 chunk1.length ++ chunk1 := by
  intro msg chunk1
  have h2 : ([0x02, 0x00] ++ be16 chunk1.length ++ chunk1).length = chunk1.length + 4 := by
    simp only [List.length_append, be16_length, List.length_cons, List.length_nil]; omega
  simp only [serverHello, tls12TicketPackAuthData]
  rw [h2]
  rfl

/-- With a 32-byte session id the ServerHello is 86 bytes. Its first 76 bytes, up to the
end of the session id, announce a record of 81 bytes and carry the tagged random at 11. -/
theorem serverHello_head (crypto : Crypto) (server : ServerInfo) (now : UInt32)
    (entropy : Entropy) (clientId : List UInt8) (hid : clientId.length = 32) :
    ∃ head, (serverHello crypto server now entropy clientId).1 =
        head ++ [0xc0, 0x2f, 0x00, 0x00, 0x05, 0xff, 0x01, 0x00, 0x01, 0x00] ∧
      head.length = 76 ∧ byteAt head 0 = 0x16 ∧ rdBe16 head 3 = 81 ∧
      (head.drop 33).take 10 =
        (tls12Sha1Hmac crypto server clientId ((head.drop 11).take 22)).take obfsHmacSha1Len := by
  have hmsg : (be32 now ++ (randBytes entropy 18).1).length = 22 := by simp
  have htag : ∀ msg, ((tls12Sha1Hmac crypto server clientId msg).take obfsHmacSha1Len).length = 10 := by
    intro msg; simp [tls12Sha1Hmac, obfsHmacSha1Len]
  have hc1 : (tlsVersion ++ (be32 now ++ (randBytes entropy 18).1 ++
      (tls12Sha1Hmac crypto server clientId (be32 now ++ (randBytes entropy 18).1)).take
        obfsHmacSha1Len) ++ [0x20] ++ clientId ++
      [0xc0, 0x2f, 0x00, 0x00, 0x05, 0xff, 0x01, 0x00, 0x01, 0x00]).length = 77 := by
    simp only [List.length_append, hmsg, htag, hid, tlsVersion, List.length_cons, List.length_nil]
  refine ⟨[0x16, 0x03, 0x03] ++ be16 81 ++ [0x02, 0x00] ++ be16 77 ++ tlsVersion ++
    (be32 now ++ (randBytes entropy 18).1) ++
    (tls12Sha1Hmac crypto server clientId (be32 now ++ (randBytes entropy 18).1)).take
      obfsHmacSha1Len ++ [0x20] ++ clientId, ?eq, ?len, ?type, ?size, ?random⟩
  case eq =>
    rw [serverHello_eq]
    simp only [hc1]
    simp only [List.append_assoc]
  case len => simp only [List.length_append, hmsg, htag, hid]; rfl
  case type => rfl
  case size => exact rdBe16_be16 [0x16, 0x03, 0x03] _ (by norm_num)
  case random =>
    -- the 11 bytes before the random, then the random, then its tag
    generalize be32 now ++ (randBytes entropy 18).1 = msg at hmsg ⊢
    have h11 : ([0x16, 0x03, 0x03] ++ be16 81 ++ [0x02, 0x00] ++ be16 77 ++ tlsVersion :
      List UInt8).length = 11 := rfl
    have hm := take_drop_append_field
      ([0x16, 0x03, 0x03] ++ be16 81 ++ [0x02, 0x00] ++ be16 77 ++ tlsVersion) msg
      ((tls12Sha1Hmac crypto server clientId msg).take obfsHmacSha1Len ++ [0x20] ++ clientId)
    have ht := take_drop_append_field
      ([0x16, 0x03, 0x03] ++ be16 81 ++ [0x02, 0x00] ++ be16 77 ++ tlsVersion ++ msg)
      ((tls12Sha1Hmac crypto server clientId msg).take obfsHmacSha1Len) ([0x20] ++ clientId)
    rw [h11, hmsg] at hm
    rw [List.length_append, h11, hmsg, htag] at ht
    simp only [List.append_assoc] at hm ht ⊢
    rw [hm, ht]

/-- Whatever follows, the server's first packet opens with its ServerHello. -/
theorem serverHello_opens_handshake (crypto : Crypto) (server : ServerInfo) (now : UInt32)
    (entropy : Entropy) (clientId : List UInt8) :
    (serverHello crypto server now entropy clientId).1 <+:
      (serverHandshake crypto server now entropy clientId).1 := by
  simp only [serverHandshake]
  -- with or without the NewSessionTicket, the records are appended to the ServerHello
  split <;> simp only [List.append_assoc] <;> exact List.prefix_append _ _

theorem tls12TicketAuthServerEncode_hello (crypto : Crypto) (server : ServerInfo) (now : UInt32)
    (entropy : Entropy) (ld : Tls12Local) (buf : List UInt8) (hst : ld.handshakeStatus ≠ -1)
    (h8 : ld.has 8 = false) :
    (serverHello crypto server now entropy ld.clientId).1 <+:
      (tls12TicketAuthServerEncode crypto server now entropy ld buf).2.1 := by
  simp only [tls12TicketAuthServerEncode, hst, h8, if_false, Bool.false_eq_true]
  exact (serverHello_opens_handshake crypto server now entropy ld.clientId).trans (List.prefix_append _ _)

/-- The walk gives up when the buffer ends inside its first handshake record. -/
theorem handshakeEnd_first_cut (recv : List UInt8) (fuel : Nat) (h0 : byteAt recv 0 = 0x16)
    (h5 : 5 < recv.length) (hcut : recv.length < 5 + rdBe16 recv 3) :
    handshakeEnd recv (fuel + 1) 0 = none := by
  have hin : 0 < recv.length ∧ (byteAt recv 0 = 0x14 ∨ byteAt recv 0 = 0x16) :=
    ⟨by omega, Or.inr h0⟩
  rw [handshakeEnd, if_pos hin, if_neg (by omega), if_pos (by omega)]

theorem handshakeLength_of_tag (tag : List UInt8 → List UInt8) (data : List UInt8)
    (htag : (data.drop (data.length - 10)).take 10 = tag (data.take (data.length - 10))) :
    handshakeLength tag data = some (some data.length) := by
  rw [handshakeLength, if_pos htag]

theorem handshakeLength_of_cut (tag : List UInt8 → List UInt8) (data : List UInt8)
    (htag : (data.drop (data.length - 10)).take 10 ≠ tag (data.take (data.length - 10)))
    (hwalk : handshakeEnd data data.length 0 = none) :
    handshakeLength tag data = none := by
  rw [handshakeLength, if_neg htag, hwalk]

/-- A status bit that was just set is set. -/
theorem flag_or_and (s bit : Int32) : (s ||| bit) &&& bit = bit := by
  apply Int32.toBitVec_inj.1
  ext i hi
  simp only [Int32.toBitVec_and, Int32.toBitVec_or, BitVec.getElem_and, BitVec.getElem_or]
  cases s.toBitVec[i] <;> cases bit.toBitVec[i] <;> rfl

theorem clientRecords_of_empty (ld : Tls12Local) (h : ld.recvBuffer.len = 0) :
    clientRecords ld = (ld, some []) := by
  simp only [clientRecords, h, takeRecords]

/-- A data phase whose buffer does not start with an application-data record fails. -/
theorem clientRecords_of_not_record (ld : Tls12Local) (h5 : 5 < ld.recvBuffer.len)
    (hb : byteAt ld.recvBuffer.data 0 ≠ 0x17) : clientRecords ld = (ld, none) := by
  obtain ⟨n, hn⟩ := Nat.exists_eq_add_of_lt h5
  have hrecords : takeRecords ld.recvBuffer.len ld.recvBuffer = (ld.recvBuffer, none) := by
    rw [hn, takeRecords, if_pos h5, if_pos hb]
  simp only [clientRecords, hrecords]

section ClientDecode

variable (crypto : Crypto) (server : ServerInfo) (localClientId : List UInt8) (ld : Tls12Local)
  (buf : List UInt8)

/-- What a client before the data phase has buffered passes the check of the server's
random: it is long enough and the tag at 33 is the one over the 22 bytes at 11. -/
def RandomChecks : Prop :=
  76 ≤ (ld.recvBuffer.data ++ buf).length ∧
    ((ld.recvBuffer.data ++ buf).drop 33).take 10 =
      (tls12Sha1Hmac crypto server localClientId
        (((ld.recvBuffer.data ++ buf).drop 11).take 22)).take obfsHmacSha1Len

/-- When the walk over the handshake runs past what has arrived, the decoder hands back
its input. -/
theorem tls12TicketAuthClientDecode_returns_input (h8 : ld.has 8 = false)
    (hrand : RandomChecks crypto server localClientId ld buf)
    (hwalk : handshakeLength
      (fun msg => (tls12Sha1Hmac crypto server localClientId msg).take obfsHmacSha1Len)
      (ld.recvBuffer.data ++ buf) = none) :
    (tls12TicketAuthClientDecode crypto server localClientId ld buf).2 = ⟨some buf, false⟩ := by
  obtain ⟨hlen, hauth⟩ := hrand
  have hrecv := data_bufferConcatenate ld.recvBuffer buf
  have hrlen : (bufferConcatenate ld.recvBuffer buf).len = (ld.recvBuffer.data ++ buf).length := by
    rw [← hrecv, Buffer.data_length]
  simp only [tls12TicketAuthClientDecode, Tls12Local.has] at h8 ⊢
  rw [h8, if_neg Bool.false_ne_true, if_neg (by omega), hrecv, if_neg (not_not_intro hauth), hwalk]

/-- When the tag over everything buffered matches, all of it is taken as the handshake:
the decoder enters its data phase with nothing left over. -/
theorem tls12TicketAuthClientDecode_ends_handshake (h8 : ld.has 8 = false)
    (hrand : RandomChecks crypto server localClientId ld buf)
    (htag : let data := ld.recvBuffer.data ++ buf
      (data.drop (data.length - 10)).take 10 =
        (tls12Sha1Hmac crypto server localClientId (data.take (data.length - 10))).take
          obfsHmacSha1Len) :
    let next := (tls12TicketAuthClientDecode crypto server localClientId ld buf).1
    next.has 8 = true ∧ next.recvBuffer.data = [] := by
  obtain ⟨hlen, hauth⟩ := hrand
  have hrecv := data_bufferConcatenate ld.recvBuffer buf
  have hrlen : (bufferConcatenate ld.recvBuffer buf).len = (ld.recvBuffer.data ++ buf).length := by
    rw [← hrecv, Buffer.data_length]
  simp only [tls12TicketAuthClientDecode, Tls12Local.has] at h8 ⊢
  rw [h8, if_neg Bool.false_ne_true, if_neg (by omega), hrecv, if_neg (not_not_intro hauth),
    handshakeLength_of_tag _ _ htag]
  -- the whole buffer is cut off: the data phase starts on an empty buffer
  have hempty : (bufferShorten (bufferConcatenate ld.recvBuffer buf)
      (ld.recvBuffer.data ++ buf).length 0).len = 0 := bufferShorten_len (by omega) (by omega)
  simp only [hrlen, Nat.sub_self]
  rw [clientRecords_of_empty _ hempty]
  refine ⟨?status, ?empty⟩
  case status =>
    show ((ld.handshakeStatus ||| 8) &&& 8 == 8) = true
    rw [flag_or_and]
    exact beq_self_eq_true _
  case empty => exact List.eq_nil_of_length_eq_zero (by rw [Buffer.data_length]; exact hempty)

/-- In the data phase, bytes that do not start an application-data record are an error. -/
theorem tls12TicketAuthClientDecode_not_record (h8 : ld.has 8 = true)
    (h5 : 5 < (ld.recvBuffer.data ++ buf).length)
    (hb : byteAt (ld.recvBuffer.data ++ buf) 0 ≠ 0x17) :
    (tls12TicketAuthClientDecode crypto server localClientId ld buf).2.result = none := by
  have hrecv := data_bufferConcatenate ld.recvBuffer buf
  have hrlen : (bufferConcatenate ld.recvBuffer buf).len = (ld.recvBuffer.data ++ buf).length := by
    rw [← hrecv, Buffer.data_length]
  simp only [tls12TicketAuthClientDecode, Tls12Local.has] at h8 ⊢
  rw [h8, if_pos rfl, clientRecords_of_not_record _ (by rw [hrlen]; exact h5)
    (by rw [hrecv]; exact hb)]

end ClientDecode

/-! ## A server handshake cut inside its ServerHello

The client looks for the end of the server's handshake once 76 bytes have come, the
length it needs to check the tag of the random; the ServerHello alone is 86. When the
first segment is its first 76 bytes the tag over all of them does not match, the walk over
the records finds the ServerHello running past the buffer, and the decoder hands back its
input: handshake bytes go up as data. Only if that tag happens to match is the segment
taken as the whole handshake, and then the rest of the ServerHello is not a record. -/

theorem tls12_server_hello_cut_reaches_client_as_data (crypto : Crypto) (client server : ServerInfo)
    (localClientId : Vector UInt8 32) (now : UInt32) (entropy : Entropy) (sld cld : Tls12Local)
    (payload : List UInt8) (hkey : server.key = client.key)
    (hid : sld.clientId = localClientId.toList) (hs1 : sld.handshakeStatus ≠ -1)
    (hs8 : sld.has 8 = false) (hc8 : cld.has 8 = false) (hrecv : cld.recvBuffer.data = []) :
    let out := (tls12TicketAuthServerEncode crypto server now entropy sld payload).2.1
    let first := tls12TicketAuthClientDecode crypto client localClientId.toList cld (out.take 76)
    let second := tls12TicketAuthClientDecode crypto client localClientId.toList first.1 (out.drop 76)
    76 < out.length ∧ (first.2.result = some (out.take 76) ∨ second.2.result = none) := by
  intro out first second
  obtain ⟨head, hhello, hlen, htype, hsize, hrandom⟩ :=
    serverHello_head crypto server now entropy sld.clientId (by rw [hid, Vector.length_toList])
  obtain ⟨rest, hout⟩ :=
    tls12TicketAuthServerEncode_hello crypto server now entropy sld payload hs1 hs8
  have hsplit : out = head ++ ([0xc0, 0x2f, 0x00, 0x00, 0x05, 0xff, 0x01, 0x00, 0x01, 0x00] ++ rest) := by
    rw [← List.append_assoc, ← hhello]; exact hout.symm
  have htake : out.take 76 = head := by rw [hsplit]; exact List.take_left' hlen
  have hdrop : out.drop 76 = [0xc0, 0x2f, 0x00, 0x00, 0x05, 0xff, 0x01, 0x00, 0x01, 0x00] ++ rest := by
    rw [hsplit]; exact List.drop_left' hlen
  have hD : cld.recvBuffer.data ++ out.take 76 = head := by rw [hrecv, htake, List.nil_append]
  -- the client's key and id are the server's: its tags are the server's
  have hmac : ∀ msg, tls12Sha1Hmac crypto client localClientId.toList msg =
      tls12Sha1Hmac crypto server sld.clientId msg := by
    intro msg; simp only [tls12Sha1Hmac, hkey, hid]
  have hrand : RandomChecks crypto client localClientId.toList cld (out.take 76) := by
    rw [RandomChecks, hD, hmac]; exact ⟨Nat.le_of_eq hlen.symm, hrandom⟩
  refine ⟨by rw [hsplit]; simp [hlen], ?_⟩
  by_cases htag : let data := cld.recvBuffer.data ++ out.take 76
    (data.drop (data.length - 10)).take 10 =
      (tls12Sha1Hmac crypto client localClientId.toList (data.take (data.length - 10))).take
        obfsHmacSha1Len
  case neg =>
    left
    have hwalk : handshakeEnd (cld.recvBuffer.data ++ out.take 76)
        (cld.recvBuffer.data ++ out.take 76).length 0 = none := by
      rw [hD, hlen]
      exact handshakeEnd_first_cut head 75 htype (by omega) (by omega)
    exact congrArg ClientDecoded.result (tls12TicketAuthClientDecode_returns_input crypto client
      localClientId.toList cld (out.take 76) hc8 hrand (handshakeLength_of_cut _ _ htag hwalk))
  case pos =>
    right
    obtain ⟨h8, hempty⟩ := tls12TicketAuthClientDecode_ends_handshake crypto client
      localClientId.toList cld (out.take 76) hc8 hrand htag
    have hnext : first.1.recvBuffer.data ++ out.drop 76 =
        [0xc0, 0x2f, 0x00, 0x00, 0x05, 0xff, 0x01, 0x00, 0x01, 0x00] ++ rest := by
      rw [hempty, hdrop, List.nil_append]
    exact tls12TicketAuthClientDecode_not_record crypto client localClientId.toList first.1
      (out.drop 76) h8 (by rw [hnext]; simp) (by rw [hnext, List.cons_append, byteAt_cons_zero]; decide)

/-- A run of the cut: key `"key"`, client id `40 41 … 5f`, time `0x5f5e1000`, and the
random bytes `00 01 02 …` in order; the server draws no ticket and a Finished of 38. -/
def sampleKey : List UInt8 := ascii "key"

def sampleClientId : Vector UInt8 32 := Vector.ofFn fun i => (0x40 + i.val).toUInt8

def sampleServer : ServerInfo :=
  { host := ascii "example.com", port := 443, param := none, iv := [], recvIv := [],
    key := sampleKey, headLen := 0, tcpMss := 1460, overhead := 0, bufferSize := 0 }

def sampleEntropy : Entropy := ⟨fun i => i.toUInt8, 0⟩

/-- HMAC-SHA1 as the library computes it on the three messages the run asks for. -/
def sampleCrypto : Crypto where
  md5 := tableDigest []
  sha1 := tableDigest []
  hmacMd5 := tableKeyed []
  hmacSha1 := tableKeyed [
    -- the random
    ((sampleKey ++ sampleClientId.toList,
      [0x5f, 0x5e, 0x10, 0x00, 0x00, 0x01, 0x02, 0x03, 0x04, 0x05, 0x06, 0x07, 0x08, 0x09,
       0x0a, 0x0b, 0x0c, 0x0d, 0x0e, 0x0f, 0x10, 0x11]),
      #v[0xfc, 0xba, 0xa9, 0xf0, 0x7a, 0xc0, 0x6a, 0x39, 0x98, 0x7e, 0x2d, 0xaa, 0x5f, 0x25,
       0x91, 0xcd, 0x58, 0xb3, 0x62, 0xd9]),
    -- the handshake
    ((sampleKey ++ sampleClientId.toList,
      [0x16, 0x03, 0x03, 0x00, 0x51, 0x02, 0x00, 0x00, 0x4d, 0x03, 0x03, 0x5f, 0x5e, 0x10,
       0x00, 0x00, 0x01, 0x02, 0x03, 0x04, 0x05, 0x06, 0x07, 0x08, 0x09, 0x0a, 0x0b, 0x0c,
       0x0d, 0x0e, 0x0f, 0x10, 0x11, 0xfc, 0xba, 0xa9, 0xf0, 0x7a, 0xc0, 0x6a, 0x39, 0x98,
       0x7e, 0x20, 0x40, 0x41, 0x42, 0x43, 0x44, 0x45, 0x46, 0x47, 0x48, 0x49, 0x4a, 0x4b,
       0x4c, 0x4d, 0x4e, 0x4f, 0x50, 0x51, 0x52, 0x53, 0x54, 0x55, 0x56, 0x57, 0x58, 0x59,
       0x5a, 0x5b, 0x5c, 0x5d, 0x5e, 0x5f, 0xc0, 0x2f, 0x00, 0x00, 0x05, 0xff, 0x01, 0x00,
       0x01, 0x00, 0x14, 0x03, 0x03, 0x00, 0x01, 0x01, 0x16, 0x03, 0x03, 0x00, 0x26, 0x1a,
       0x1b, 0x1c, 0x1d, 0x1e, 0x1f, 0x20, 0x21, 0x22, 0x23, 0x24, 0x25, 0x26, 0x27, 0x28,
       0x29, 0x2a, 0x2b, 0x2c, 0x2d, 0x2e, 0x2f, 0x30, 0x31, 0x32, 0x33, 0x34, 0x35]),
      #v[0xf6, 0x35, 0x3e, 0xec, 0xb5, 0x64, 0x2c, 0x87, 0x78, 0x09, 0x98, 0xe0, 0xa3, 0x1e,
       0x3d, 0x3b, 0xaa, 0xcc, 0x6f, 0xf8]),
    -- the first 66 bytes of the ServerHello
    ((sampleKey ++ sampleClientId.toList,
      [0x16, 0x03, 0x03, 0x00, 0x51, 0x02, 0x00, 0x00, 0x4d, 0x03, 0x03, 0x5f, 0x5e, 0x10,
       0x00, 0x00, 0x01, 0x02, 0x03, 0x04, 0x05, 0x06, 0x07, 0x08, 0x09, 0x0a, 0x0b, 0x0c,
       0x0d, 0x0e, 0x0f, 0x10, 0x11, 0xfc, 0xba, 0xa9, 0xf0, 0x7a, 0xc0, 0x6a, 0x39, 0x98,
       0x7e, 0x20, 0x40, 0x41, 0x42, 0x43, 0x44, 0x45, 0x46, 0x47, 0x48, 0x49, 0x4a, 0x4b,
       0x4c, 0x4d, 0x4e, 0x4f, 0x50, 0x51, 0x52, 0x53, 0x54, 0x55]),
      #v[0xc7, 0xdc, 0xa2, 0xe6, 0x78, 0xfb, 0x81, 0xfa, 0x70, 0x7d, 0xf6, 0x3a, 0xb1, 0xb4,
       0x11, 0xb9, 0x2c, 0x62, 0x00, 0x3f])
  ]
  aes128CbcEncrypt _ b := b
  aes128CbcDecrypt _ b := b

/-- A server that has parsed the client's hello, and the client that sent it. -/
def sampleServerLocal : Tls12Local :=
  { tls12TicketAuthLocalDataInit false with handshakeStatus := 1, clientId := sampleClientId.toList }

def sampleClientLocal : Tls12Local := { tls12TicketAuthLocalDataInit false with handshakeStatus := 1 }

theorem tls12_server_hello_cut_on_sample_run :
    (sampleServer.key = sampleServer.key ∧ sampleServerLocal.clientId = sampleClientId.toList ∧
      sampleServerLocal.handshakeStatus ≠ -1 ∧ sampleServerLocal.has 8 = false ∧
      sampleClientLocal.has 8 = false ∧ sampleClientLocal.recvBuffer.data = []) ∧
    let out := (tls12TicketAuthServerEncode sampleCrypto sampleServer 0x5f5e1000 sampleEntropy
      sampleServerLocal []).2.1
    let first := tls12TicketAuthClientDecode sampleCrypto sampleServer sampleClientId.toList
      sampleClientLocal (out.take 76)
    let second := tls12TicketAuthClientDecode sampleCrypto sampleServer sampleClientId.toList
      first.1 (out.drop 76)
    76 < out.length ∧ (first.2.result = some (out.take 76) ∨ second.2.result = none) :=
  ⟨⟨rfl, rfl, by decide, rfl, rfl, rfl⟩,
    tls12_server_hello_cut_reaches_client_as_data sampleCrypto sampleServer sampleServer
      sampleClientId 0x5f5e1000 sampleEntropy sampleServerLocal sampleClientLocal [] rfl rfl
      (by decide) rfl rfl rfl⟩

/-- On the sample run the tag over the 76 bytes does not match: they come back as data. -/
example :
    let out := (tls12TicketAuthServerEncode sampleCrypto sampleServer 0x5f5e1000 sampleEntropy
      sampleServerLocal []).2.1
    (tls12TicketAuthClientDecode sampleCrypto sampleServer sampleClientId.toList
      sampleClientLocal (out.take 76)).2.result = some (out.take 76) := by
  decide +kernel

/-- The same 135 bytes in one read complete the handshake. -/
example :
    let out := (tls12TicketAuthServerEncode sampleCrypto sampleServer 0x5f5e1000 sampleEntropy
      sampleServerLocal []).2.1
    out.length = 135 ∧ (tls12TicketAuthClientDecode sampleCrypto sampleServer
      sampleClientId.toList sampleClientLocal out).2.needsendback = true := by
  decide +kernel

end ShadowsocksR.Tls12Ticket
