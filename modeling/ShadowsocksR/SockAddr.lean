/-
  ShadowsocksR.SockAddr — SOCKS5 addresses as the relay header carries them
  (`sockaddr_universal.c`), and the three places that read or write the header: the
  client's `initial_package_create` and `do_parse_s5_request`, the server's `do_parse`.

  The header is `ATYP | DST.ADDR | DST.PORT`: a type byte, four or sixteen octets or a
  length byte and that many name bytes, and the port high byte first.
  `socks5_address_parse` reads it from `data` for `len` bytes into a `socks5_address`,
  whose address is a union of 256 bytes; a name is copied into the zeroed union, so the
  struct holds it NUL-terminated, and `socks5_address_size` and `socks5_address_binary`
  measure it with `strlen`. The parse is modelled over the memory from `data` on, which may
  hold more than `len` bytes, and it returns the offsets it reads, so that a read past
  `len` is visible.

  Proved:
  (1) The codec (`socks5AddressParse_binary`): every well-formed address written by
      `socks5_address_binary` is parsed back, from exactly the bytes written, whatever
      follows them. A parse that succeeds reads exactly its header, inside `len`, which
      `get_s5_head_size` measures too (`socks5AddressParse_ok`), and for a name without a
      0 byte `socks5_address_size` and `socks5_address_binary` give that header back
      (`socks5AddressParse_header`). The client writes
      every name up to its first 0 (`initial_package_create` uses `strlen`), so the
      server's `do_parse` strips exactly the client's header (`initialPackageCreate_parses`,
      in the server's handshake).
  (2) `socks5_address_size_undercounts_nul_name`: a header whose name holds a 0 byte is
      parsed, and `get_s5_head_size` counts all of it, but `socks5_address_size` counts the
      name only to the 0; `do_parse` then strips too little and passes the rest of the
      header on as payload.
  (3) Reads inside `len`: the parse reads only offsets below `len` but in one case
      (`socks5AddressParse_reads_lt`): `socks5_address_parse_reads_past_len` is that case,
      `len = 1` with type 3, where the length byte at offset 1 is read before the check;
      and `do_parse_s5_request` passes `size - 3` as a `size_t`, which wraps for a read of
      one or two bytes, so the parse reads the read buffer past the read and may succeed
      on what it finds there.
-/

import ShadowsocksR.Lib.Bytes
import ShadowsocksR.Lib.CString
import ShadowsocksR.Obfs.ObfsUtil
import ShadowsocksR.Client.S5

namespace ShadowsocksR.SockAddr

open Bytes CString

/-! ## The address (`sockaddr_universal.h`) -/

/-- `enum SOCKS5_ADDRTYPE`. -/
inductive Socks5Addrtype where
  | invalid
  | ipv4
  | domainname
  | ipv6
  deriving DecidableEq, Repr

/-- The enumerators' values, which are the type bytes of the header. -/
def Socks5Addrtype.code : Socks5Addrtype → UInt8
  | .invalid => 0x00
  | .ipv4 => 0x01
  | .domainname => 0x03
  | .ipv6 => 0x04

/-- `struct socks5_address`: the union `addr` as its 256 bytes (`ipv4` is the first 4 of
them, `ipv6` the first 16, `domainname` all), the type and the port. -/
structure Socks5Address where
  addr : Vector UInt8 256
  addrType : Socks5Addrtype
  port : UInt16
  deriving DecidableEq, Repr

/-- A `socks5_address` cleared by `memset`. -/
def Socks5Address.zero : Socks5Address := ⟨Vector.replicate 256 0, .invalid, 0⟩

/-- The address an address's type reads from the union: four or sixteen octets, or the
name up to its first 0. -/
def Socks5Address.bytes (a : Socks5Address) : List UInt8 :=
  match a.addrType with
  | .ipv4 => a.addr.toList.take 4
  | .domainname => cstr a.addr.toList
  | .ipv6 => a.addr.toList.take 16
  | .invalid => []

/-- What `socks5_address_parse` leaves: its result, the address it wrote, and the offsets
of `data` it read, in the order it reads them. -/
structure Parsed where
  ok : Bool
  addr : Socks5Address
  reads : List Nat
  deriving Repr

/-! ## The functions (`sockaddr_universal.c`) -/

/-- `memcpy(&addr->addr, data + off, n)`: the first `n` bytes of the union from `data` at
`off`, the others as they were. -/
def copyAddr (u : Vector UInt8 256) (data : List UInt8) (off n : Nat) : Vector UInt8 256 :=
  Vector.ofFn fun i => if i.val < n then byteAt data (off + i.val) else u[i]

/-- `socks5_address_parse(data, len, addr)`, on the memory from `data` on. The `NULL`
checks are left out: no caller passes `NULL`. -/
def socks5AddressParse (data : List UInt8) (len : Nat) (addr : Socks5Address) : Parsed :=
  if len = 0 then ⟨false, addr, []⟩
  else
    match byteAt data 0 with
    | 0x01 =>
      if len < 1 + 4 + 2 then ⟨false, addr, [0]⟩
      else ⟨true, { addr with addrType := .ipv4, addr := copyAddr addr.addr data 1 4,
                              port := (rdBe16 data 5).toUInt16 }, List.range 7⟩
    | 0x03 =>
      -- `addr_size = (size_t)data[offset++]` comes before the length check
      let size := (byteAt data 1).toNat
      if len < 1 + 1 + size + 2 then ⟨false, addr, [0, 1]⟩
      else ⟨true, { addr with addrType := .domainname,
                              addr := copyAddr (Vector.replicate 256 0) data 2 size,
                              port := (rdBe16 data (2 + size)).toUInt16 },
        List.range (4 + size)⟩
    | 0x04 =>
      if len < 1 + 16 + 2 then ⟨false, addr, [0]⟩
      else ⟨true, { addr with addrType := .ipv6, addr := copyAddr addr.addr data 1 16,
                              port := (rdBe16 data 17).toUInt16 }, List.range 19⟩
    | _ => ⟨false, { addr with addrType := .invalid }, [0]⟩

/-- `socks5_address_size`: 0 for an invalid type. -/
def socks5AddressSize (addr : Socks5Address) : Nat :=
  match addr.addrType with
  | .ipv4 => 1 + 4 + 2
  | .domainname => 1 + 1 + strlen addr.addr.toList + 2
  | .ipv6 => 1 + 16 + 2
  | .invalid => 0

/-- `socks5_address_binary(addr, buffer, size)`: the bytes it writes at the start of
`buffer`, or `NULL`. -/
def socks5AddressBinary (addr : Socks5Address) (size : Nat) : Option (List UInt8) :=
  if size = 0 ∨ size < socks5AddressSize addr then none
  else
    let body : Option (List UInt8) :=
      match addr.addrType with
      | .ipv4 => some (addr.addr.toList.take 4)
      | .domainname =>
        let addrSize := strlen addr.addr.toList
        some (addrSize.toUInt8 :: addr.addr.toList.take addrSize)
      | .ipv6 => some (addr.addr.toList.take 16)
      | .invalid => none
    body.map fun b => [addr.addrType.code] ++ b ++ be16 addr.port.toNat

/-! ## The callers -/

/-- The client's `initial_package_create(parser)`: the relay header from the fields
`s5_parse` filled; a name's length is its `strlen`, as a `uint8_t`. -/
def initialPackageCreate (cx : S5.S5Ctx) : List UInt8 :=
  let body : List UInt8 :=
    match cx.atyp with
    | some .ipv4 => cx.daddr.toList.take 4
    | some .ipv6 => cx.daddr.toList.take 16
    | some .host =>
      let len := (strlen cx.daddr.toList).toUInt8
      len :: cx.daddr.toList.take len.toNat
    -- `ASSERT(0)`
    | none => []
  [(cx.atyp.map S5.S5Atyp.code).getD 0] ++ body ++ be16 cx.dport

/-- The address part of the server's `do_parse`: the first package parsed into a cleared
address, then `buffer_shorten` from `socks5_address_size` on; `none` is the
`tunnel_shutdown` of a package that does not parse. -/
def doParse (pkg : List UInt8) : Option (Socks5Address × List UInt8) :=
  let r := socks5AddressParse pkg pkg.length Socks5Address.zero
  if r.ok then some (r.addr, pkg.drop (socks5AddressSize r.addr)) else none

/-- The client's `do_parse_s5_request` calls `socks5_address_parse(data + 3, size - 3, ...)`
on a read of `size` bytes into the buffer `data`; `size - 3` is a `size_t`. -/
def doParseS5RequestAddress (data : List UInt8) (size : Nat) (addr : Socks5Address) : Parsed :=
  socks5AddressParse (data.drop 3) (sizeSub size 3) addr

/-! ## Reading the header -/

theorem socks5AddressParse_ipv4 {data : List UInt8} {len : Nat} (addr : Socks5Address)
    (h0 : byteAt data 0 = 1) (hlen : 7 ≤ len) :
    socks5AddressParse data len addr =
      ⟨true, { addr with addrType := .ipv4, addr := copyAddr addr.addr data 1 4,
                         port := (rdBe16 data 5).toUInt16 }, List.range 7⟩ := by
  rw [socks5AddressParse, if_neg (by omega), h0]
  exact if_neg (by omega)

theorem socks5AddressParse_domainname {data : List UInt8} {len : Nat} (addr : Socks5Address)
    (h0 : byteAt data 0 = 3) (hlen : 4 + (byteAt data 1).toNat ≤ len) :
    socks5AddressParse data len addr =
      ⟨true, { addr with addrType := .domainname,
                         addr := copyAddr (Vector.replicate 256 0) data 2 (byteAt data 1).toNat,
                         port := (rdBe16 data (2 + (byteAt data 1).toNat)).toUInt16 },
        List.range (4 + (byteAt data 1).toNat)⟩ := by
  rw [socks5AddressParse, if_neg (by omega), h0]
  exact if_neg (by omega)

theorem socks5AddressParse_ipv6 {data : List UInt8} {len : Nat} (addr : Socks5Address)
    (h0 : byteAt data 0 = 4) (hlen : 19 ≤ len) :
    socks5AddressParse data len addr =
      ⟨true, { addr with addrType := .ipv6, addr := copyAddr addr.addr data 1 16,
                         port := (rdBe16 data 17).toUInt16 }, List.range 19⟩ := by
  rw [socks5AddressParse, if_neg (by omega), h0]
  exact if_neg (by omega)

theorem socks5AddressParse_ok_cases {data : List UInt8} {len : Nat} {addr : Socks5Address}
    (hok : (socks5AddressParse data len addr).ok = true) :
    (byteAt data 0 = 1 ∧ 7 ≤ len) ∨
      (byteAt data 0 = 3 ∧ 4 + (byteAt data 1).toNat ≤ len) ∨
      (byteAt data 0 = 4 ∧ 19 ≤ len) := by
  unfold socks5AddressParse at hok
  by_cases hlen0 : len = 0
  · simp [hlen0] at hok
  rw [if_neg hlen0] at hok
  split at hok
  next h1 =>
    refine .inl ⟨h1, Nat.le_of_not_lt fun hlt => ?_⟩
    rw [if_pos hlt] at hok
    simp at hok
  next h3 =>
    refine .inr (.inl ⟨h3, Nat.le_of_not_lt fun hlt => ?_⟩)
    dsimp only at hok
    rw [if_pos (by omega)] at hok
    simp at hok
  next h4 =>
    refine .inr (.inr ⟨h4, Nat.le_of_not_lt fun hlt => ?_⟩)
    rw [if_pos hlt] at hok
    simp at hok
  next => simp at hok

theorem zero_mem_reads {data : List UInt8} {len : Nat} (addr : Socks5Address) (h : len ≠ 0) :
    0 ∈ (socks5AddressParse data len addr).reads := by
  unfold socks5AddressParse
  rw [if_neg h]
  split
  all_goals (try dsimp only)
  all_goals (try split)
  all_goals simp

theorem socks5AddressParse_reads_lt {data : List UInt8} {len : Nat} (addr : Socks5Address)
    (h : ¬ (len = 1 ∧ byteAt data 0 = 3)) :
    ∀ i ∈ (socks5AddressParse data len addr).reads, i < len := by
  unfold socks5AddressParse
  split
  case isTrue => simp
  case isFalse hlen =>
    split
    next =>
      split
      case isTrue => intro i hi; simp at hi; omega
      case isFalse hfit => intro i hi; simp at hi; omega
    next htype =>
      -- the length byte at offset 1 is inside unless `len = 1`
      have h2 : 2 ≤ len := by
        have : len ≠ 1 := fun h1 => h ⟨h1, htype⟩
        omega
      dsimp only
      split
      case isTrue => intro i hi; simp at hi; omega
      case isFalse hfit => intro i hi; simp at hi; omega
    next =>
      split
      case isTrue => intro i hi; simp at hi; omega
      case isFalse hfit => intro i hi; simp at hi; omega
    next => intro i hi; simp at hi; omega

theorem socks5AddressParse_ok {data : List UInt8} {len : Nat} {addr : Socks5Address}
    (hlen : len ≤ data.length) (h : (socks5AddressParse data len addr).ok = true) :
    ∃ n, (socks5AddressParse data len addr).reads = List.range n ∧ n ≤ len ∧
      getS5HeadSize data 0 = n := by
  rcases socks5AddressParse_ok_cases h with ⟨h1, h7⟩ | ⟨h3, hL⟩ | ⟨h4, h19⟩
  · refine ⟨7, by rw [socks5AddressParse_ipv4 addr h1 h7], h7, ?_⟩
    simp [getS5HeadSize, show ¬ data.length < 2 by omega, h1]
  · refine ⟨_, by rw [socks5AddressParse_domainname addr h3 hL], hL, ?_⟩
    simp [getS5HeadSize, show ¬ data.length < 2 by omega, h3]
  · refine ⟨19, by rw [socks5AddressParse_ipv6 addr h4 h19], h19, ?_⟩
    simp [getS5HeadSize, show ¬ data.length < 2 by omega, h4]

/-- What a parse reads: offsets below `len` but in one case, and when it succeeds exactly
its header. -/
theorem socks5_address_parse_reads_its_header_inside_len (data : List UInt8) (len : Nat)
    (addr : Socks5Address) :
    (¬ (len = 1 ∧ byteAt data 0 = 3) → ∀ i ∈ (socks5AddressParse data len addr).reads, i < len) ∧
      (len ≤ data.length → (socks5AddressParse data len addr).ok = true →
        ∃ n, (socks5AddressParse data len addr).reads = List.range n ∧ n ≤ len ∧
          getS5HeadSize data 0 = n) :=
  ⟨socks5AddressParse_reads_lt addr, socks5AddressParse_ok⟩

/-- An IPv4 header for 127.0.0.1:80 is read whole, from its seven bytes. -/
theorem ipv4_header_is_read_whole :
    (∀ i ∈ (socks5AddressParse [1, 127, 0, 0, 1, 0, 80] 7 .zero).reads, i < 7) ∧
      ∃ n, (socks5AddressParse [1, 127, 0, 0, 1, 0, 80] 7 .zero).reads = List.range n ∧ n ≤ 7 ∧
        getS5HeadSize [1, 127, 0, 0, 1, 0, 80] 0 = n :=
  ⟨(socks5_address_parse_reads_its_header_inside_len [1, 127, 0, 0, 1, 0, 80] 7 .zero).1 (by decide),
    (socks5_address_parse_reads_its_header_inside_len [1, 127, 0, 0, 1, 0, 80] 7 .zero).2 (by decide)
      (by decide)⟩

/-- `socks5_address_parse` reads past `len`: with `len = 1` and type 3 it reads the length
byte at offset 1 before it checks the length. And `do_parse_s5_request` passes `size - 3`
for a read of one or two bytes, which wraps to nearly `2 ^ 64`: the parse reads the read
buffer from offset 3 on, past the read, and takes an address from what it finds there. -/
theorem socks5_address_parse_reads_past_len :
    (∀ (data : List UInt8) (addr : Socks5Address), byteAt data 0 = 3 →
      (socks5AddressParse data 1 addr).ok = false ∧
        (socks5AddressParse data 1 addr).reads = [0, 1]) ∧
    (∀ (data : List UInt8) (size : Nat) (addr : Socks5Address), 0 < size → size < 3 →
      sizeSub size 3 = 2 ^ 64 - 3 + size ∧
        0 ∈ (doParseS5RequestAddress data size addr).reads ∧
        (byteAt data 3 = 1 → (doParseS5RequestAddress data size addr).ok = true)) := by
  refine ⟨fun data addr h3 => ?_, fun data size addr hpos hlt => ?_⟩
  · simp [socks5AddressParse, h3]
  · have hsub : sizeSub size 3 = 2 ^ 64 - 3 + size := by unfold sizeSub; omega
    refine ⟨hsub, zero_mem_reads addr (by rw [hsub]; omega), fun h1 => ?_⟩
    have h0 : byteAt (data.drop 3) 0 = 1 := by rw [byteAt_drop]; exact h1
    rw [doParseS5RequestAddress, socks5AddressParse_ipv4 addr h0 (by rw [hsub]; omega)]

/-- A read of two bytes into a buffer that still holds a request to 127.0.0.1:80 from
before: the length wraps, and the parse takes that address from the stale bytes. -/
theorem stale_request_after_two_byte_read :
    0 < 2 ∧ 2 < 3 ∧
      (sizeSub 2 3 = 2 ^ 64 - 3 + 2 ∧
        0 ∈ (doParseS5RequestAddress [5, 1, 0, 1, 127, 0, 0, 1, 0, 80] 2 .zero).reads ∧
        (byteAt [5, 1, 0, 1, 127, 0, 0, 1, 0, 80] 3 = 1 →
          (doParseS5RequestAddress [5, 1, 0, 1, 127, 0, 0, 1, 0, 80] 2 .zero).ok = true)) :=
  ⟨by decide, by decide,
    socks5_address_parse_reads_past_len.2 [5, 1, 0, 1, 127, 0, 0, 1, 0, 80] 2 .zero
      (by decide) (by decide)⟩

/-! ## The codec -/

theorem copyAddr_replicate (data : List UInt8) {off n : Nat} (hn : n ≤ 256)
    (hd : off + n ≤ data.length) :
    (copyAddr (Vector.replicate 256 0) data off n).toList =
      (data.drop off).take n ++ List.replicate (256 - n) 0 := by
  apply List.ext_getElem (by simp; omega)
  intro i h₁ h₂
  simp only [copyAddr, Vector.getElem_toList, Vector.getElem_ofFn]
  by_cases hi : i < n
  · rw [if_pos hi, List.getElem_append_left (by simp; omega)]
    simp [byteAt_eq_getElem (show off + i < data.length by omega)]
  · rw [if_neg hi, List.getElem_append_right (by simp; omega)]
    simp

theorem take_copyAddr (u : Vector UInt8 256) (data : List UInt8) {off n : Nat} (hn : n ≤ 256)
    (hd : off + n ≤ data.length) :
    (copyAddr u data off n).toList.take n = (data.drop off).take n := by
  apply List.ext_getElem (by simp; omega)
  intro i h₁ h₂
  have hi : i < n := by simp at h₁; omega
  simp only [List.getElem_take, copyAddr, Vector.getElem_toList, Vector.getElem_ofFn, if_pos hi]
  simp [byteAt_eq_getElem (show off + i < data.length by omega)]

theorem take_header {data : List UInt8} {n : Nat} (h : 1 + n + 2 ≤ data.length) :
    data.take (1 + n + 2) =
      [byteAt data 0] ++ (data.drop 1).take n ++ (data.drop (1 + n)).take 2 := by
  rw [List.take_add, List.take_add]
  cases data with
  | nil => simp at h
  | cons b rest => simp [Nat.add_comm]

/-- An address `socks5_address_binary` can write and the parse can read back: a known type,
and a name of at most 255 bytes before its 0. -/
structure WellFormed (a : Socks5Address) : Prop where
  valid : a.addrType ≠ .invalid
  name : a.addrType = .domainname → strlen a.addr.toList ≤ 255

theorem socks5AddressParse_binary {a : Socks5Address} (ha : WellFormed a) {size : Nat}
    {b : List UInt8} (hb : socks5AddressBinary a size = some b) (rest : List UInt8) {len : Nat}
    (hlen : b.length ≤ len) (addr0 : Socks5Address) :
    let r := socks5AddressParse (b ++ rest) len addr0
    r.ok = true ∧ r.reads = List.range b.length ∧ r.addr.addrType = a.addrType ∧
      r.addr.port = a.port ∧ r.addr.bytes = a.bytes := by
  unfold socks5AddressBinary at hb
  split at hb
  case isTrue => simp at hb
  case isFalse =>
    cases hty : a.addrType with
    | invalid => exact absurd hty ha.valid
    | ipv4 =>
      simp only [hty, Option.map_some, Option.some.injEq] at hb
      subst hb
      intro r
      have hpre : ([Socks5Addrtype.ipv4.code] ++ a.addr.toList.take 4).length = 5 := by simp
      have hr : r = _ := socks5AddressParse_ipv4 addr0 rfl (by simp at hlen; omega)
      have hport := toUInt16_rdBe16_be16 ([Socks5Addrtype.ipv4.code] ++ a.addr.toList.take 4) rest
        a.port
      rw [hpre] at hport
      refine ⟨by rw [hr], by rw [hr]; simp, by rw [hr], by rw [hr]; exact hport, ?_⟩
      rw [hr]
      simp only [Socks5Address.bytes, hty]
      rw [take_copyAddr _ _ (by omega) (by simp)]
      simp
    | domainname =>
      simp only [hty, Option.map_some, Option.some.injEq] at hb
      subst hb
      have hL : strlen a.addr.toList ≤ 255 := ha.name hty
      generalize hLdef : strlen a.addr.toList = L at hL hlen
      intro r
      have hLb : L.toUInt8.toNat = L := by simp; omega
      have hname : a.addr.toList.take L = cstr a.addr.toList := by rw [← hLdef, take_strlen]
      have htake : (a.addr.toList.take L).length = L := by simp; omega
      have hr : r = _ := socks5AddressParse_domainname addr0 rfl
        (by rw [show byteAt _ 1 = L.toUInt8 from rfl, hLb]; simp at hlen; omega)
      rw [show byteAt _ 1 = L.toUInt8 from rfl, hLb] at hr
      have hpre : ([Socks5Addrtype.domainname.code] ++ (L.toUInt8 :: a.addr.toList.take L)).length =
          2 + L := by simp; omega
      have hport := toUInt16_rdBe16_be16
        ([Socks5Addrtype.domainname.code] ++ (L.toUInt8 :: a.addr.toList.take L)) rest a.port
      rw [hpre] at hport
      have hblen : ([Socks5Addrtype.domainname.code] ++ (L.toUInt8 :: a.addr.toList.take L) ++
          be16 a.port.toNat).length = 4 + L := by simp; omega
      refine ⟨by rw [hr], by rw [hr, hblen], by rw [hr], by rw [hr]; exact hport, ?_⟩
      -- the name lands in the cleared union, so a 0 follows it there
      rw [hr]
      simp only [Socks5Address.bytes, hty]
      rw [copyAddr_replicate _ (by omega) (by simp; omega)]
      have hdrop : ((([Socks5Addrtype.domainname.code] ++ (L.toUInt8 :: a.addr.toList.take L)) ++
          be16 a.port.toNat ++ rest).drop 2).take L = cstr a.addr.toList := by
        show (a.addr.toList.take L ++ be16 a.port.toNat ++ rest).take L = _
        rw [List.append_assoc, List.take_left' htake, hname]
      rw [hdrop, show 256 - L = (255 - L) + 1 by omega, List.replicate_succ,
        cstr_append_zero_cons, cstr_of_noNul (noNul_cstr _)]
    | ipv6 =>
      simp only [hty, Option.map_some, Option.some.injEq] at hb
      subst hb
      intro r
      have hpre : ([Socks5Addrtype.ipv6.code] ++ a.addr.toList.take 16).length = 17 := by simp
      have hr : r = _ := socks5AddressParse_ipv6 addr0 rfl (by simp at hlen; omega)
      have hport := toUInt16_rdBe16_be16 ([Socks5Addrtype.ipv6.code] ++ a.addr.toList.take 16) rest
        a.port
      rw [hpre] at hport
      refine ⟨by rw [hr], by rw [hr]; simp, by rw [hr], by rw [hr]; exact hport, ?_⟩
      rw [hr]
      simp only [Socks5Address.bytes, hty]
      rw [take_copyAddr _ _ (by omega) (by simp)]
      simp

/-- `example.com`, port 80. -/
def sampleNameAddress : Socks5Address :=
  ⟨⟨#[0x65, 0x78, 0x61, 0x6d, 0x70, 0x6c, 0x65, 0x2e, 0x63, 0x6f, 0x6d] ++ Array.replicate 245 0,
    by simp⟩, .domainname, 80⟩

/-- The header `socks5_address_binary` writes for it: type 3, length 11, the name, port 80. -/
def sampleNameHeader : List UInt8 :=
  [3, 11, 0x65, 0x78, 0x61, 0x6d, 0x70, 0x6c, 0x65, 0x2e, 0x63, 0x6f, 0x6d, 0, 80]

/-- Written into 15 bytes, the header is parsed back from a package with a byte after it. -/
theorem example_com_header_is_parsed_back :
    let r := socks5AddressParse (sampleNameHeader ++ [0x47]) 15 .zero
    r.ok = true ∧ r.reads = List.range sampleNameHeader.length ∧
      r.addr.addrType = sampleNameAddress.addrType ∧ r.addr.port = sampleNameAddress.port ∧
      r.addr.bytes = sampleNameAddress.bytes :=
  @socks5AddressParse_binary sampleNameAddress ⟨by decide, fun _ => by decide +kernel⟩ 15
    sampleNameHeader (by decide +kernel) [0x47] 15 (by decide) .zero

theorem socks5AddressParse_header {data : List UInt8} {len : Nat} {addr : Socks5Address}
    (hlen : len ≤ data.length) (hok : (socks5AddressParse data len addr).ok = true)
    (hname : byteAt data 0 = 3 → NoNul ((data.drop 2).take (byteAt data 1).toNat)) :
    let r := socks5AddressParse data len addr
    socks5AddressSize r.addr = getS5HeadSize data 0 ∧
      socks5AddressBinary r.addr (getS5HeadSize data 0) =
        some (data.take (getS5HeadSize data 0)) := by
  intro r
  rcases socks5AddressParse_ok_cases hok with ⟨h1, h7⟩ | ⟨h3, hL⟩ | ⟨h4, h19⟩
  · have hr : r = _ := socks5AddressParse_ipv4 addr h1 h7
    have hg : getS5HeadSize data 0 = 7 := by
      simp [getS5HeadSize, h1, show ¬ data.length < 2 by omega]
    rw [hr, hg]
    refine ⟨rfl, ?_⟩
    simp only [socks5AddressBinary, socks5AddressSize]
    rw [take_copyAddr _ _ (by omega) (by omega), toNat_toUInt16_rdBe16, be16_rdBe16 (by omega),
      @take_header data 4 (by omega), h1]
    rfl
  · have hr : r = _ := socks5AddressParse_domainname addr h3 hL
    have hnul := hname h3
    have hLlt := (byteAt data 1).toNat_lt
    set L := (byteAt data 1).toNat with hLdef
    have hg : getS5HeadSize data 0 = 1 + (1 + L) + 2 := by
      simp [getS5HeadSize, h3, show ¬ data.length < 2 by omega, hLdef]
      omega
    -- the name has no 0, so the cleared union measures it whole
    have htake : ((data.drop 2).take L).length = L := by simp; omega
    have hstrlen : strlen (copyAddr (Vector.replicate 256 0) data 2 L).toList = L := by
      rw [copyAddr_replicate _ (by omega) (by omega),
        show 256 - L = (255 - L) + 1 by omega, List.replicate_succ, strlen,
        cstr_append_zero_cons, cstr_of_noNul hnul, htake]
    have hname1 : (data.drop 1).take (1 + L) = [byteAt data 1] ++ (data.drop 2).take L := by
      rw [List.take_add, List.drop_drop]
      cases hd : data.drop 1 with
      | nil => have := List.drop_eq_nil_iff.mp hd; omega
      | cons b rest =>
        have hb : byteAt data 1 = b := by
          rw [show byteAt data 1 = byteAt (data.drop 1) 0 by rw [byteAt_drop], hd]
          rfl
        simp [hb]
    rw [hr, hg]
    have hsize : socks5AddressSize
        { addr with addrType := .domainname, addr := copyAddr (Vector.replicate 256 0) data 2 L,
                    port := (rdBe16 data (2 + L)).toUInt16 } = 1 + (1 + L) + 2 := by
      simp only [socks5AddressSize, hstrlen]
      omega
    have hLb : L.toUInt8 = byteAt data 1 := by rw [hLdef, Nat.toUInt8_eq, UInt8.ofNat_toNat]
    refine ⟨hsize, ?_⟩
    rw [socks5AddressBinary, hsize, if_neg (by omega)]
    dsimp only
    rw [hstrlen, take_copyAddr _ _ (by omega) (by omega), toNat_toUInt16_rdBe16,
      be16_rdBe16 (by omega), @take_header data (1 + L) (by omega), hname1, h3,
      show 1 + (1 + L) = 2 + L by omega, hLb]
    rfl
  · have hr : r = _ := socks5AddressParse_ipv6 addr h4 h19
    have hg : getS5HeadSize data 0 = 19 := by
      simp [getS5HeadSize, h4, show ¬ data.length < 2 by omega]
    rw [hr, hg]
    refine ⟨rfl, ?_⟩
    simp only [socks5AddressBinary, socks5AddressSize]
    rw [take_copyAddr _ _ (by omega) (by omega), toNat_toUInt16_rdBe16, be16_rdBe16 (by omega),
      @take_header data 16 (by omega), h4]
    rfl

/-- The name of a parsed header holds a 0 byte: `socks5_address_size` counts it to the 0
only, though `get_s5_head_size` and the parse count all of it, and `do_parse` passes the
rest of the header on as payload. -/
theorem socks5_address_size_undercounts_nul_name (name : List UInt8) (p0 p1 : UInt8)
    (rest : List UInt8) (hlen : name.length ≤ 255) (hnul : ¬ NoNul name) :
    let d := [3, name.length.toUInt8] ++ name ++ [p0, p1] ++ rest
    let r := socks5AddressParse d d.length Socks5Address.zero
    r.ok = true ∧ r.reads = List.range (4 + name.length) ∧
      getS5HeadSize d 0 = 4 + name.length ∧
      socks5AddressSize r.addr = 4 + strlen name ∧ strlen name < name.length ∧
      doParse d = some (r.addr, d.drop (4 + strlen name)) := by
  intro d r
  have hL : (name.length.toUInt8).toNat = name.length := by simp; omega
  have hr : r = _ := socks5AddressParse_domainname Socks5Address.zero rfl
    (by rw [show byteAt d 1 = name.length.toUInt8 from rfl, hL]; simp [d]; omega)
  rw [show byteAt d 1 = name.length.toUInt8 from rfl, hL] at hr
  have hcopy : (copyAddr (Vector.replicate 256 0) d 2 name.length).toList =
      name ++ List.replicate (256 - name.length) 0 := by
    rw [copyAddr_replicate _ (by omega) (by simp [d]; omega)]
    simp [d]
  have hstrlen :
      strlen (copyAddr (Vector.replicate 256 0) d 2 name.length).toList = strlen name := by
    rw [hcopy, show 256 - name.length = (255 - name.length) + 1 by omega, List.replicate_succ,
      strlen, cstr_append_zero_cons]
    rfl
  have hsize : socks5AddressSize r.addr = 4 + strlen name := by
    rw [hr]; simp only [socks5AddressSize, hstrlen]; omega
  refine ⟨by rw [hr], by rw [hr], ?_, hsize, strlen_lt_of_not_noNul hnul, ?_⟩
  · simp [getS5HeadSize, d, hL]
  · rw [doParse, ← hsize]
    simp only [r] at hr ⊢
    rw [hr]
    rfl

/-- The header `03 01 00 00 50`: a name of one 0 byte, port 80. -/
theorem nul_name_on_port_80 :
    ([0] : List UInt8).length ≤ 255 ∧ ¬ NoNul ([0] : List UInt8) ∧
      let d := [3, ([0] : List UInt8).length.toUInt8] ++ [0] ++ [0, 80] ++ []
      let r := socks5AddressParse d d.length Socks5Address.zero
      r.ok = true ∧ r.reads = List.range (4 + ([0] : List UInt8).length) ∧
        getS5HeadSize d 0 = 4 + ([0] : List UInt8).length ∧
        socks5AddressSize r.addr = 4 + strlen [0] ∧ strlen [0] < ([0] : List UInt8).length ∧
        doParse d = some (r.addr, d.drop (4 + strlen [0])) :=
  ⟨by decide, by decide,
    socks5_address_size_undercounts_nul_name [0] 0 80 [] (by decide) (by decide)⟩

end ShadowsocksR.SockAddr
