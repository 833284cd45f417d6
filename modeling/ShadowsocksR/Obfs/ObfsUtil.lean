/-
  ShadowsocksR.Obfs.ObfsUtil — what every obfs and protocol plugin shares (`obfs.h`,
  `obfsutil.c`).

  `ServerInfo` is `struct server_info_t`, the settings and keys a plugin is created
  with; its `recv_iv` is the server's copy of the client's IV, which the server pipeline
  fills in after the first read. `xorshift128plus` is the process-wide generator the
  plugins draw padding lengths from; its state is passed explicitly here. Its seed is
  `time(NULL)`, so a result that holds for every state holds for every run.

  `get_s5_head_size` reads the SOCKS5 address type of a payload to decide how much of
  it goes into the first, authenticated packet.
-/

import ShadowsocksR.Lib.Bytes

namespace ShadowsocksR

/-- `SSR_BUFF_SIZE`: the size of a socket read and of most scratch buffers. -/
def ssrBuffSize : Nat := 2048

/-- `OBFS_HMAC_SHA1_LEN`: the bytes of an HMAC-SHA1 tag that go on the wire. -/
def obfsHmacSha1Len : Nat := 10

/-- `struct server_info_t`, the fields the modelled plugins read. Byte strings are the
arrays with their lengths (`iv`/`iv_len`, `key`/`key_len`, `recv_iv`/`recv_iv_len`);
`param` is `NULL` or a C string. -/
structure ServerInfo where
  host : List UInt8
  port : Nat
  param : Option (List UInt8)
  iv : List UInt8
  recvIv : List UInt8
  key : List UInt8
  headLen : Nat
  tcpMss : Nat
  overhead : Nat
  bufferSize : Nat
  deriving Repr, DecidableEq

/-! ## `xorshift128plus` -/

/-- `shift128plus_s`, the generator's two words. -/
structure Shift128 where
  s0 : UInt64
  s1 : UInt64
  deriving Repr, DecidableEq

/-- `xorshift128plus`: the value drawn and the generator after the draw. -/
def xorshift128plus (g : Shift128) : UInt64 × Shift128 :=
  let x := g.s0
  let y := g.s1
  let x := x ^^^ (x <<< 23)
  let x := x ^^^ (x >>> 17)
  let x := x ^^^ (y ^^^ (y >>> 26))
  (x + y, ⟨y, x⟩)

/-- `init_shift128plus` from the seed `(uint32_t)time(NULL)`. -/
def initShift128plus (seed : UInt32) : Shift128 :=
  ⟨seed.toUInt64 ||| 0x100000000, (seed.toUInt64 <<< 32) ||| 1⟩

/-! ## `get_s5_head_size` -/

/-- `get_s5_head_size`: the length of a SOCKS5 address header (`ATYP|ADDR|PORT`) at
the start of a payload, by the low three bits of its type byte; `def_size` when the
payload is shorter than two bytes or the type is unknown. -/
def getS5HeadSize (plaindata : List UInt8) (defSize : Nat) : Nat :=
  if plaindata.length < 2 then defSize
  else
    match (Bytes.byteAt plaindata 0 &&& 7).toNat with
    | 1 => 7
    | 4 => 19
    | 3 => 4 + (Bytes.byteAt plaindata 1).toNat
    | _ => defSize

/-- An address header is at most 259 bytes: a domain of 255 bytes with its type, length and
port. -/
theorem getS5HeadSize_le (plaindata : List UInt8) (defSize : Nat) :
    getS5HeadSize plaindata defSize ≤ max defSize 259 := by
  unfold getS5HeadSize
  split
  case isTrue => omega
  case isFalse =>
    have hb := (Bytes.byteAt plaindata 1).toNat_lt
    split <;> omega

end ShadowsocksR
