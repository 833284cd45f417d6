/-
  ShadowsocksR.Tls — the SNI parser of `tls.c`.

  `parse_tls_header` reads the server name out of a TLS ClientHello: it checks the
  record header, steps over the hello's fixed fields and its vectors by their lengths,
  walks the extensions (`parse_extensions`) up to the first `server_name`, and returns
  the first `host_name` of its list (`parse_server_name_extension`), copied by `strncpy`
  into a fresh buffer of `len + 1` bytes. Every step checks the length it is about to
  use against what is left of the record.

  A parse returns the C return value and the name left in `*hostname`: the name's
  length with the name, 0 for an empty buffer, -1 for an incomplete record, -2 for a
  hello that names no host, -5 for one that is malformed. `char` is signed, as on the
  usual targets; only the version test reads it as a number.

  Proved here:
  - `parseExtensionsLoop_skip` and `parseExtensionsLoop_skipAll`: the walk steps over
    every extension that is not `server_name`; `parseExtensionsLoop_serverName`: it
    hands the first `server_name` to `parse_server_name_extension`, which
    (`parseServerNameExtension_serverNameList`) returns the first entry's name;
  - `parseTlsHeader_eq_parseExtensions`: on the record of a fitting hello the header
    walk ends on its extension list, and `parseTlsHeader_record`: the parse returns the
    first name of the first `server_name` extension, when that name is not empty;
  - `parse_tls_header_waits_on_a_cut_hello`: a read that stops short of the end of a
    fitting hello's record gets -1, the answer on which `local.c` waits for more.
-/

import Mathlib
import ShadowsocksR.Lib.Bytes
import ShadowsocksR.Lib.CString
import ShadowsocksR.Lib.TlsRecord

namespace ShadowsocksR.Tls

open Bytes CString TlsRecord

def tlsHeaderLen : Nat := 5

def tlsHandshakeContentType : UInt8 := 0x16

def tlsHandshakeTypeClientHello : UInt8 := 0x01

/-- A `char` as a number. -/
def signedChar (b : UInt8) : Int := if b < 0x80 then b.toNat else (b.toNat : Int) - 256

/-- The loop of `parse_server_name_extension`, at the entry that starts at `pos`. -/
def parseServerNameLoop (data : List UInt8) (dataLen pos : Nat) : Int × Option (List UInt8) :=
  if pos + 3 < dataLen then
    let len := rdBe16 data (pos + 1)
    if pos + 3 + len > dataLen then (-5, none)
    -- `host_name`: `malloc(len + 1)`, `strncpy` of `len` bytes, the terminator at `len`
    else if byteAt data pos = 0 then ((len : Int), some (cstr ((data.drop (pos + 3)).take len)))
    else parseServerNameLoop data dataLen (pos + 3 + len)
  else if pos ≠ dataLen then (-5, none)
  else (-2, none)
termination_by dataLen - pos

/-- `parse_server_name_extension`: the entries start past the list's 2-byte length. -/
def parseServerNameExtension (data : List UInt8) (dataLen : Nat) : Int × Option (List UInt8) :=
  parseServerNameLoop data dataLen 2

/-- The loop of `parse_extensions`, at the extension that starts at `pos`. -/
def parseExtensionsLoop (data : List UInt8) (dataLen pos : Nat) : Int × Option (List UInt8) :=
  if pos + 4 ≤ dataLen then
    let len := rdBe16 data (pos + 2)
    if byteAt data pos = 0 ∧ byteAt data (pos + 1) = 0 then
      if pos + 4 + len > dataLen then (-5, none)
      else parseServerNameExtension (data.drop (pos + 4)) len
    else parseExtensionsLoop data dataLen (pos + 4 + len)
  else if pos ≠ dataLen then (-5, none)
  else (-2, none)
termination_by dataLen - pos

/-- `parse_extensions`. -/
def parseExtensions (data : List UInt8) (dataLen : Nat) : Int × Option (List UInt8) :=
  parseExtensionsLoop data dataLen 0

/-- `parse_tls_header`, for a non-null `hostname`. -/
def parseTlsHeader (data : List UInt8) (dataLen : Nat) : Int × Option (List UInt8) :=
  if dataLen = 0 then (0, none)
  else if dataLen < tlsHeaderLen then (-1, none)
  -- an SSL 2.0 hello: the high bit of the length and the type byte 1
  else if byteAt data 0 &&& 0x80 ≠ 0 ∧ byteAt data 2 = 1 then (-2, none)
  else if byteAt data 0 ≠ tlsHandshakeContentType then (-5, none)
  else if signedChar (byteAt data 1) < 3 then (-2, none)
  else
    let len := rdBe16 data 3 + tlsHeaderLen
    let dataLen := min dataLen len
    if dataLen < len then (-1, none)
    else if tlsHeaderLen + 1 > dataLen then (-5, none)
    else if byteAt data tlsHeaderLen ≠ tlsHandshakeTypeClientHello then (-5, none)
    else
      -- the handshake type and length, the version, the random
      let pos := tlsHeaderLen + 38
      if pos + 1 > dataLen then (-5, none)
      else
        let pos := pos + 1 + (byteAt data pos).toNat
        if pos + 2 > dataLen then (-5, none)
        else
          let pos := pos + 2 + rdBe16 data pos
          if pos + 1 > dataLen then (-5, none)
          else
            let pos := pos + 1 + (byteAt data pos).toNat
            if pos = dataLen ∧ byteAt data 1 = 3 ∧ byteAt data 2 = 0 then (-2, none)
            else if pos + 2 > dataLen then (-5, none)
            else
              let len := rdBe16 data pos
              let pos := pos + 2
              if pos + len > dataLen then (-5, none)
              else parseExtensions (data.drop pos) len

/-! ## The server name list -/

section ServerName

variable {data rest : List UInt8}

theorem parseServerNameLoop_hostName {name : List UInt8} {dataLen pos : Nat}
    (h : data.drop pos = hostName name ++ rest) (hne : name ≠ []) (hlt : name.length < 2 ^ 16)
    (hlen : pos + 3 + name.length ≤ dataLen) :
    parseServerNameLoop data dataLen pos = ((name.length : Int), some (cstr name)) := by
  have hpos : pos + 3 < dataLen := by
    have := List.length_pos_iff.mpr hne
    omega
  have h0 : data.drop pos = 0 :: (be16 name.length ++ (name ++ rest)) := by
    rw [h]; simp [hostName]
  have h1 : data.drop (pos + 1) = be16 name.length ++ (name ++ rest) := drop_of_drop (a := [0]) h0
  have h3 : data.drop (pos + 1 + 2) = name ++ rest := drop_of_drop h1
  have hl : rdBe16 data (pos + 1) = name.length := rdBe16_of_drop hlt h1
  have hname : (data.drop (pos + 3)).take name.length = name := by
    rw [show pos + 3 = pos + 1 + 2 by omega, h3, List.take_left]
  rw [parseServerNameLoop, if_pos hpos]
  simp only [hl, byteAt_of_drop h0, if_neg (show ¬ (pos + 3 + name.length > dataLen) by omega),
    if_true, hname]

theorem parseServerNameExtension_serverNameList {host : List UInt8} {names : List (List UInt8)}
    (h : data = serverNameList (host :: names) ++ rest) (hne : host ≠ [])
    (hlt : (serverNameList (host :: names)).length < 2 ^ 16) :
    parseServerNameExtension data (serverNameList (host :: names)).length =
      ((host.length : Int), some (cstr host)) := by
  have hd : data.drop 2 = hostName host ++ (names.flatMap hostName ++ rest) := by
    have e : data = be16 (3 + host.length + (names.flatMap hostName).length) ++
        (hostName host ++ (names.flatMap hostName ++ rest)) := by
      rw [h, serverNameList_cons]; simp
    rw [e, List.drop_left']
    rfl
  have hsize := serverNameList_length (host :: names)
  simp only [List.flatMap_cons, List.length_append, hostName_length] at hsize
  have hhost : host.length < 2 ^ 16 := by omega
  have hend : 2 + 3 + host.length ≤ (serverNameList (host :: names)).length := by omega
  exact parseServerNameLoop_hostName hd hne hhost hend

end ServerName

/-! ## The extension walk -/

section Extensions

variable {data rest : List UInt8} {dataLen pos : Nat}

/-- The first two bytes of an encoded extension, its type. -/
theorem encode_append_eq (e : Extension) (rest : List UInt8) :
    e.encode ++ rest = (e.type.toNat >>> 8).toUInt8 :: e.type.toNat.toUInt8 ::
      (be16 e.body.length ++ (e.body ++ rest)) := by
  simp [Extension.encode, be16]

theorem parseExtensionsLoop_skip {e : Extension} (h : data.drop pos = e.encode ++ rest)
    (he : e.type ≠ 0) (hlt : e.body.length < 2 ^ 16) (hlen : pos + e.encode.length ≤ dataLen) :
    parseExtensionsLoop data dataLen pos = parseExtensionsLoop data dataLen (pos + e.encode.length) := by
  rw [encode_append_eq] at h
  have h1 : data.drop (pos + 1) = e.type.toNat.toUInt8 :: (be16 e.body.length ++ (e.body ++ rest)) :=
    drop_of_drop (a := [_]) h
  have h2 : data.drop (pos + 1 + 1) = be16 e.body.length ++ (e.body ++ rest) := drop_of_drop (a := [_]) h1
  have hl : rdBe16 data (pos + 2) = e.body.length := rdBe16_of_drop hlt h2
  have htype : ¬ (byteAt data pos = 0 ∧ byteAt data (pos + 1) = 0) := by
    rw [byteAt_of_drop h, byteAt_of_drop h1, Extension.type_bytes_eq_zero_iff]
    exact he
  simp only [Extension.encode_length] at hlen ⊢
  rw [parseExtensionsLoop, if_pos (by omega)]
  simp only [hl, if_neg htype]
  congr 1
  omega

theorem parseExtensionsLoop_skipAll :
    ∀ (pre : List Extension) {pos : Nat}, data.drop pos = encodeAll pre ++ rest →
      (∀ e ∈ pre, e.type ≠ 0 ∧ e.body.length < 2 ^ 16) → pos + (encodeAll pre).length ≤ dataLen →
      parseExtensionsLoop data dataLen pos =
        parseExtensionsLoop data dataLen (pos + (encodeAll pre).length)
  | [], _, _, _, _ => rfl
  | e :: pre, pos, h, hpre, hlen => by
    have he := hpre e List.mem_cons_self
    rw [encodeAll_cons, List.append_assoc] at h
    rw [encodeAll_cons, List.length_append] at hlen ⊢
    rw [parseExtensionsLoop_skip h he.1 he.2 (by omega),
      parseExtensionsLoop_skipAll pre (drop_of_drop h) (fun e' h' => hpre e' (List.mem_cons_of_mem e h'))
        (by omega), Nat.add_assoc]

theorem parseExtensionsLoop_serverName {host : List UInt8} {names : List (List UInt8)}
    (h : data.drop pos = (serverName (host :: names)).encode ++ rest) (hne : host ≠ [])
    (hlt : (serverNameList (host :: names)).length < 2 ^ 16)
    (hlen : pos + (serverName (host :: names)).encode.length ≤ dataLen) :
    parseExtensionsLoop data dataLen pos = ((host.length : Int), some (cstr host)) := by
  rw [encode_append_eq] at h
  have h1 : data.drop (pos + 1) = (serverName (host :: names)).type.toNat.toUInt8 ::
      (be16 (serverName (host :: names)).body.length ++ ((serverName (host :: names)).body ++ rest)) :=
    drop_of_drop (a := [_]) h
  have h2 : data.drop (pos + 1 + 1) = be16 (serverName (host :: names)).body.length ++
      ((serverName (host :: names)).body ++ rest) := drop_of_drop (a := [_]) h1
  have h4 := drop_of_drop h2
  have hl : rdBe16 data (pos + 2) = (serverNameList (host :: names)).length := rdBe16_of_drop hlt h2
  have htype : byteAt data pos = 0 ∧ byteAt data (pos + 1) = 0 := by
    rw [byteAt_of_drop h, byteAt_of_drop h1, Extension.type_bytes_eq_zero_iff]
    rfl
  simp only [Extension.encode_length, serverName] at hlen h4
  rw [parseExtensionsLoop, if_pos (by omega)]
  simp only [hl, if_pos htype, if_neg (show ¬ (pos + 4 + (serverNameList (host :: names)).length > dataLen) by omega)]
  rw [show pos + 4 = pos + 1 + 1 + 2 by omega]
  exact parseServerNameExtension_serverNameList h4 hne hlt

/-- The walk over an extension list finds the first `server_name` and its first name. -/
theorem parseExtensions_serverName {exts pre post : List Extension} {host : List UInt8}
    {names : List (List UInt8)} (hext : exts = pre ++ serverName (host :: names) :: post)
    (hpre : ∀ e ∈ pre, e.type ≠ 0) (hfit : ∀ e ∈ exts, e.body.length < 2 ^ 16) (hne : host ≠ []) :
    parseExtensions (encodeAll exts) (encodeAll exts).length = ((host.length : Int), some (cstr host)) := by
  have hsn : serverName (host :: names) ∈ exts := by simp [hext]
  have hall : encodeAll exts = encodeAll pre ++ ((serverName (host :: names)).encode ++ encodeAll post) := by
    simp [hext]
  have hlt := hfit _ hsn
  have hlen : (encodeAll exts).length =
      (encodeAll pre).length + (serverName (host :: names)).encode.length + (encodeAll post).length := by
    rw [hall]; simp; omega
  rw [parseExtensions, parseExtensionsLoop_skipAll pre (by rw [List.drop_zero, hall])
    (fun e he => ⟨hpre e he, hfit e (by simp [hext, he])⟩) (by omega)]
  exact parseExtensionsLoop_serverName (drop_of_drop (by rw [List.drop_zero, hall])) hne hlt (by omega)

end Extensions

/-! ## The record -/

section Record

open ClientHello

variable {m : ClientHello}

/-- A handshake record of version 3.1 passes the checks of the record header. -/
theorem recordHeader_checks :
    ¬ ((0x16 : UInt8) &&& 0x80 ≠ 0) ∧ ¬ (0x16 : UInt8) ≠ tlsHandshakeContentType ∧
      ¬ signedChar 0x03 < 3 ∧ ¬ (0x01 : UInt8) ≠ tlsHandshakeTypeClientHello := by
  decide

theorem byteAt_record_head (m : ClientHello) :
    byteAt m.record 0 = 0x16 ∧ byteAt m.record 1 = 0x03 ∧ byteAt m.record 2 = 0x01 :=
  ⟨rfl, rfl, rfl⟩

/-- On the record of a fitting hello, `parse_tls_header` walks the header up to the
extension list and hands all of it to `parse_extensions`. -/
theorem parseTlsHeader_eq_parseExtensions (hm : m.Fits) :
    parseTlsHeader m.record m.record.length =
      parseExtensions (encodeAll m.extensions) (encodeAll m.extensions).length := by
  -- where the walk's cursor stands after each field
  have d43 : m.record.drop (tlsHeaderLen + 38) = m.fromSessionId := m.drop_record_fromSessionId hm.random
  have dcs : m.record.drop (tlsHeaderLen + 38 + 1 + m.sessionId.length) = m.fromCipherSuites := by
    rw [Nat.add_assoc _ 1, ← List.drop_drop, d43, drop_fromSessionId]
  have dcm : m.record.drop (tlsHeaderLen + 38 + 1 + m.sessionId.length + 2 + m.cipherSuites.length) =
      m.fromCompression := by
    rw [Nat.add_assoc _ 2, ← List.drop_drop, dcs, drop_fromCipherSuites]
  have dext : m.record.drop (tlsHeaderLen + 38 + 1 + m.sessionId.length + 2 + m.cipherSuites.length + 1 +
      m.compressionMethods.length) = m.fromExtensions := by
    rw [Nat.add_assoc _ 1, ← List.drop_drop, dcm, drop_fromCompression]
  have dall : m.record.drop (tlsHeaderLen + 38 + 1 + m.sessionId.length + 2 + m.cipherSuites.length + 1 +
      m.compressionMethods.length + 2) = encodeAll m.extensions := by
    rw [← List.drop_drop, dext, drop_fromExtensions]
  -- and the length it reads there
  have rsid : (byteAt m.record (tlsHeaderLen + 38)).toNat = m.sessionId.length := by
    rw [byteAt_of_drop (d43.trans rfl)]
    simp only [Nat.toUInt8, UInt8.toNat_ofNat']
    exact Nat.mod_eq_of_lt hm.sessionId
  have rcs : rdBe16 m.record (tlsHeaderLen + 38 + 1 + m.sessionId.length) = m.cipherSuites.length :=
    rdBe16_of_drop hm.cipherSuites_lt (dcs.trans (List.append_assoc _ _ _))
  have rcm : (byteAt m.record (tlsHeaderLen + 38 + 1 + m.sessionId.length + 2 +
      m.cipherSuites.length)).toNat = m.compressionMethods.length := by
    rw [byteAt_of_drop (dcm.trans rfl)]
    simp only [Nat.toUInt8, UInt8.toNat_ofNat']
    exact Nat.mod_eq_of_lt hm.compression
  have rext : rdBe16 m.record (tlsHeaderLen + 38 + 1 + m.sessionId.length + 2 + m.cipherSuites.length + 1 +
      m.compressionMethods.length) = (encodeAll m.extensions).length :=
    rdBe16_of_drop hm.extensions_lt dext
  have rH : rdBe16 m.record 3 = m.handshake.length :=
    rdBe16_be16 [0x16, 0x03, 0x01] m.handshake hm.handshake
  have b5 : byteAt m.record tlsHeaderLen = 0x01 :=
    byteAt_of_drop (show m.record.drop 5 = 0x01 :: (be24 m.body.length ++ m.body) from rfl)
  obtain ⟨b0, b1, b2⟩ := byteAt_record_head m
  have hrl := m.record_length
  have hlen := m.record_length
  simp only [handshake_length, body_length, fromSessionId_length, fromCipherSuites_length,
    fromCompression_length, fromExtensions_length, hm.random] at hlen
  have hmin : min m.record.length (m.handshake.length + tlsHeaderLen) = m.record.length := by
    rw [hrl, tlsHeaderLen]; omega
  simp only [parseTlsHeader, rsid, rcs, rcm, rext, rH, b0, b1, b2, b5, dall, hmin, recordHeader_checks,
    false_and, if_false]
  -- every bound the walk checks holds: the record is as long as its fields
  simp (disch := simp only [tlsHeaderLen] at *; omega) only [if_neg]

/-- `parse_tls_header` on the record of a fitting hello returns the first name of its
first `server_name` extension. -/
theorem parseTlsHeader_record (hm : m.Fits) {pre post : List Extension} {host : List UInt8}
    {names : List (List UInt8)} (hext : m.extensions = pre ++ serverName (host :: names) :: post)
    (hpre : ∀ e ∈ pre, e.type ≠ 0) (hne : host ≠ []) :
    parseTlsHeader m.record m.record.length = ((host.length : Int), some (cstr host)) := by
  rw [parseTlsHeader_eq_parseExtensions hm]
  exact parseExtensions_serverName hext hpre hm.bodies hne

/-- A read that holds only the first `n` bytes of a fitting hello's record is
incomplete. -/
theorem parse_tls_header_waits_on_a_cut_hello (hm : m.Fits) {n : Nat} (hn0 : 0 < n)
    (hn : n < m.record.length) :
    parseTlsHeader (m.record.take n) n = (-1, none) := by
  have hrl := m.record_length
  by_cases h5 : n < tlsHeaderLen
  · rw [parseTlsHeader, if_neg (by omega), if_pos h5]
  · have hq : m.record.take n <+: m.record := List.take_prefix n m.record
    have hqn : (m.record.take n).length = n := by rw [List.length_take]; omega
    obtain ⟨b0, b1, b2⟩ := byteAt_record_head m
    have q0 : byteAt (m.record.take n) 0 = 0x16 := by
      rw [byteAt_of_prefix_lt hq (by simp only [tlsHeaderLen] at h5; omega), b0]
    have q1 : byteAt (m.record.take n) 1 = 0x03 := by
      rw [byteAt_of_prefix_lt hq (by simp only [tlsHeaderLen] at h5; omega), b1]
    have q2 : byteAt (m.record.take n) 2 = 0x01 := by
      rw [byteAt_of_prefix_lt hq (by simp only [tlsHeaderLen] at h5; omega), b2]
    have qH : rdBe16 (m.record.take n) 3 = m.handshake.length := by
      rw [rdBe16_of_prefix_lt hq (by simp only [tlsHeaderLen] at h5; omega)]
      exact rdBe16_be16 [0x16, 0x03, 0x01] m.handshake hm.handshake
    have hmin : min n (m.handshake.length + tlsHeaderLen) = n := by
      rw [tlsHeaderLen]; omega
    have hshort : n < m.handshake.length + tlsHeaderLen := by
      rw [tlsHeaderLen]; omega
    simp only [parseTlsHeader, q0, q1, q2, qH, hmin, recordHeader_checks, false_and, if_false,
      if_pos hshort, if_neg (show ¬ n = 0 by omega), if_neg h5]

/-- A TLS 1.3 hello for the host `a`, with one cipher suite and null compression. -/
def sampleHello : ClientHello := ⟨List.replicate 32 0, [], [0x13, 0x01], [0], [serverName [[0x61]]]⟩

/-- Its first ten bytes are incomplete. -/
theorem ten_bytes_of_a_hello_are_incomplete :
    parseTlsHeader (sampleHello.record.take 10) 10 = (-1, none) :=
  parse_tls_header_waits_on_a_cut_hello (m := sampleHello)
    ⟨rfl, by decide, by decide, by decide, by decide⟩ (n := 10) (by decide) (by decide)

end Record

end ShadowsocksR.Tls
