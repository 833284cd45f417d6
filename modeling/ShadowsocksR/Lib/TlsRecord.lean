/-
  TlsRecord — a TLS ClientHello as it stands on the wire.

  A TLS record is a content type, a record version and a 16-bit length, then the
  fragment (RFC 5246 §6.2.1). A handshake message in it is a type and a 24-bit length
  (§7.4); a ClientHello (§7.4.1.2) is the client version, 32 random bytes and four
  vectors, each behind the length of what it holds: the session id (8 bits), the cipher
  suites (16), the compression methods (8) and the extensions (16). An extension is a
  16-bit type and a 16-bit length before its body; the body of `server_name` (type 0,
  RFC 6066 §3) is a 16-bit-length list of entries, each a name type (0 for `host_name`)
  and a 16-bit length before the name.

  `ClientHello.record` lays a hello out; `ClientHello.Fits` says that every length fits
  its field, so that no length is cut. The layout is given from the back
  (`fromSessionId`, `fromCipherSuites`, …: what stands from each length field on), so
  that a reader that has walked up to a field finds the rest of the layout by `drop`.

  Proved here, for every hello and every list of extensions:
  - `ClientHello.drop_record_fromSessionId` and the `drop_from…` lemmas: where each field
    of the layout stands;
  - `ClientHello.Fits.body_lt`, `Fits.extensions_lt`, `Fits.cipherSuites_lt`: in a fitting
    hello the body, the cipher suites and the extension list fit 16 bits;
  - `Extension.type_bytes_eq_zero_iff`: the two type bytes are both 0 exactly for
    `server_name`;
  - `byteAt_of_drop`, `rdBe16_of_drop`, `drop_of_drop`: reading at a cursor whose rest of
    the buffer is known.
-/

import Mathlib
import ShadowsocksR.Lib.Bytes

namespace TlsRecord

open Bytes

/-! ## Reading at a cursor -/

section Cursor

variable {data rest : List UInt8} {k : Nat}

theorem byteAt_of_drop {b : UInt8} (h : data.drop k = b :: rest) : byteAt data k = b := by
  rw [← Nat.add_zero k, ← byteAt_drop, h, byteAt_cons_zero]

theorem rdBe16_of_drop {x : Nat} (hx : x < 2 ^ 16) (h : data.drop k = be16 x ++ rest) :
    rdBe16 data k = x := by
  have e0 : byteAt data k = byteAt (be16 x ++ rest) 0 := by rw [← h, byteAt_drop, Nat.add_zero]
  have e1 : byteAt data (k + 1) = byteAt (be16 x ++ rest) 1 := by rw [← h, byteAt_drop]
  have hr := rdBe16_be16 [] rest hx
  simp only [rdBe16, List.nil_append, List.length_nil, Nat.zero_add] at hr ⊢
  rw [e0, e1, hr]

theorem drop_of_drop {a : List UInt8} (h : data.drop k = a ++ rest) :
    data.drop (k + a.length) = rest := by
  rw [← List.drop_drop, h, List.drop_left]

end Cursor

/-! ## Fields -/

/-- A 24-bit big-endian field. -/
def be24 (x : Nat) : List UInt8 := [(x >>> 16).toUInt8, (x >>> 8).toUInt8, x.toUInt8]

@[simp] theorem be24_length (x : Nat) : (be24 x).length = 3 := rfl

/-- Below `2 ^ 16` the 24-bit field is a zero byte before the 16-bit one. -/
theorem be24_of_lt {x : Nat} (h : x < 2 ^ 16) : be24 x = 0 :: be16 x := by
  have hx : x >>> 16 = 0 := by
    rw [Nat.shiftRight_eq_div_pow]
    exact Nat.div_eq_of_lt h
  simp [be24, be16, hx]

/-! ## Extensions -/

structure Extension where
  type : UInt16
  body : List UInt8
  deriving DecidableEq, Repr

/-- The type, the length of the body, the body. -/
def Extension.encode (e : Extension) : List UInt8 := be16 e.type.toNat ++ be16 e.body.length ++ e.body

/-- An extension list, the extensions one after the other. -/
def encodeAll (exts : List Extension) : List UInt8 := exts.flatMap Extension.encode

/-- A `host_name` entry of a server name list. -/
def hostName (name : List UInt8) : List UInt8 := [0] ++ be16 name.length ++ name

/-- A `ServerNameList` of `host_name` entries. -/
def serverNameList (names : List (List UInt8)) : List UInt8 :=
  be16 (names.flatMap hostName).length ++ names.flatMap hostName

/-- The `server_name` extension. -/
def serverName (names : List (List UInt8)) : Extension := ⟨0, serverNameList names⟩

@[simp] theorem Extension.encode_length (e : Extension) : e.encode.length = 4 + e.body.length := by
  simp [Extension.encode]; omega

@[simp] theorem encodeAll_nil : encodeAll [] = [] := rfl

@[simp] theorem encodeAll_cons (e : Extension) (exts : List Extension) :
    encodeAll (e :: exts) = e.encode ++ encodeAll exts := rfl

@[simp] theorem encodeAll_append (pre post : List Extension) :
    encodeAll (pre ++ post) = encodeAll pre ++ encodeAll post := by
  simp [encodeAll]

@[simp] theorem hostName_length (name : List UInt8) : (hostName name).length = 3 + name.length := by
  simp [hostName]; omega

theorem serverNameList_cons (name : List UInt8) (names : List (List UInt8)) :
    serverNameList (name :: names) =
      be16 (3 + name.length + (names.flatMap hostName).length) ++ hostName name ++
        names.flatMap hostName := by
  simp [serverNameList]

@[simp] theorem serverNameList_length (names : List (List UInt8)) :
    (serverNameList names).length = 2 + (names.flatMap hostName).length := by
  simp [serverNameList]

/-- The type field is `00 00` exactly for `server_name`. -/
theorem Extension.type_bytes_eq_zero_iff (t : UInt16) :
    ((t.toNat >>> 8).toUInt8 = 0 ∧ t.toNat.toUInt8 = 0) ↔ t = 0 := by
  have ht := t.toNat_lt
  rw [← UInt16.toNat_inj, UInt16.toNat_zero]
  simp only [← UInt8.toNat_inj, UInt8.toNat_zero, Nat.toUInt8, UInt8.toNat_ofNat',
    Nat.shiftRight_eq_div_pow]
  omega

/-! ## The ClientHello -/

structure ClientHello where
  random : List UInt8
  sessionId : List UInt8
  cipherSuites : List UInt8
  compressionMethods : List UInt8
  extensions : List Extension
  deriving DecidableEq, Repr

namespace ClientHello

variable (m : ClientHello)

def fromExtensions : List UInt8 := be16 (encodeAll m.extensions).length ++ encodeAll m.extensions

def fromCompression : List UInt8 :=
  [m.compressionMethods.length.toUInt8] ++ m.compressionMethods ++ m.fromExtensions

def fromCipherSuites : List UInt8 := be16 m.cipherSuites.length ++ m.cipherSuites ++ m.fromCompression

def fromSessionId : List UInt8 := [m.sessionId.length.toUInt8] ++ m.sessionId ++ m.fromCipherSuites

/-- Client version 3.3 (TLS 1.2), the random, and the vectors. -/
def body : List UInt8 := [0x03, 0x03] ++ m.random ++ m.fromSessionId

/-- Handshake type 1, `client_hello`. -/
def handshake : List UInt8 := [0x01] ++ be24 m.body.length ++ m.body

/-- Content type 22, handshake, in a record of version 3.1 (RFC 5246 App. E.1). -/
def record : List UInt8 := [0x16, 0x03, 0x01] ++ be16 m.handshake.length ++ m.handshake

/-- Every length fits its field. -/
structure Fits : Prop where
  random : m.random.length = 32
  sessionId : m.sessionId.length < 2 ^ 8
  compression : m.compressionMethods.length < 2 ^ 8
  bodies : ∀ e ∈ m.extensions, e.body.length < 2 ^ 16
  handshake : m.handshake.length < 2 ^ 16

@[simp] theorem fromExtensions_length :
    m.fromExtensions.length = 2 + (encodeAll m.extensions).length := by
  simp [fromExtensions]

@[simp] theorem fromCompression_length :
    m.fromCompression.length = 1 + m.compressionMethods.length + m.fromExtensions.length := by
  simp [fromCompression]; omega

@[simp] theorem fromCipherSuites_length :
    m.fromCipherSuites.length = 2 + m.cipherSuites.length + m.fromCompression.length := by
  simp [fromCipherSuites]; omega

@[simp] theorem fromSessionId_length :
    m.fromSessionId.length = 1 + m.sessionId.length + m.fromCipherSuites.length := by
  simp [fromSessionId]; omega

@[simp] theorem body_length : m.body.length = 2 + m.random.length + m.fromSessionId.length := by
  simp [body]; omega

@[simp] theorem handshake_length : m.handshake.length = 4 + m.body.length := by
  simp [handshake]; omega

@[simp] theorem record_length : m.record.length = 5 + m.handshake.length := by
  simp [record]; omega

/-! ### Where each field stands -/

theorem drop_record_fromSessionId (h : m.random.length = 32) : m.record.drop 43 = m.fromSessionId := by
  have e : m.record =
      ([0x16, 0x03, 0x01] ++ be16 m.handshake.length ++ [0x01] ++ be24 m.body.length ++
        [0x03, 0x03] ++ m.random) ++ m.fromSessionId := by
    simp [record, handshake, body]
  rw [e, List.drop_left']
  simp [h]

theorem drop_fromSessionId : m.fromSessionId.drop (1 + m.sessionId.length) = m.fromCipherSuites := by
  rw [fromSessionId, List.drop_left']
  simp; omega

theorem drop_fromCipherSuites :
    m.fromCipherSuites.drop (2 + m.cipherSuites.length) = m.fromCompression := by
  rw [fromCipherSuites, List.drop_left']
  simp

theorem drop_fromCompression :
    m.fromCompression.drop (1 + m.compressionMethods.length) = m.fromExtensions := by
  rw [fromCompression, List.drop_left']
  simp; omega

theorem drop_fromExtensions : m.fromExtensions.drop 2 = encodeAll m.extensions := by
  rw [fromExtensions, List.drop_left']
  simp

/-! ### What a fitting hello's lengths fit -/

variable {m}

theorem Fits.body_lt (hm : m.Fits) : m.body.length < 2 ^ 16 := by
  have := hm.handshake
  simp only [handshake_length] at this
  omega

theorem Fits.extensions_lt (hm : m.Fits) : (encodeAll m.extensions).length < 2 ^ 16 := by
  have := hm.body_lt
  simp only [body_length, fromSessionId_length, fromCipherSuites_length, fromCompression_length,
    fromExtensions_length] at this
  omega

theorem Fits.cipherSuites_lt (hm : m.Fits) : m.cipherSuites.length < 2 ^ 16 := by
  have := hm.body_lt
  simp only [body_length, fromSessionId_length, fromCipherSuites_length] at this
  omega


end ClientHello

end TlsRecord
