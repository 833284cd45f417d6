/-
  ShadowsocksR.Obfs.HttpSimple — the `http_simple` obfs (`http_simple.c`).

  The client's first packet is dressed as an HTTP GET: the first `head_size` bytes of
  the payload are percent-encoded into the request path (`%xx` in lower-case hex), the
  request headers follow, and the rest of the payload is the body after the blank
  line. Later packets are sent as they are. The server buffers the request in
  `recv_buffer` until it holds the blank line `\r\n\r\n`, decodes the `%xx` run of the
  header (`get_data_from_http_header`) and appends the body; from then on it passes
  data through. The server's reply is a fixed HTTP response header before the data;
  the client drops everything up to the first blank line of a read.

  `http_simple_server_decode` sets `has_recv_header` before it knows the header is
  complete. A first read of at most 10 bytes, or one without the blank line, returns
  nothing but leaves the flag set, so the next read is passed through as data: the
  rest of the HTTP header reaches the cipher as if it were payload.

  Proved here:
  - `httpSimpleServerDecode_passes_through`: once `has_recv_header` is set, every read
    is returned as it is;
  - `httpSimpleServerDecode_short_first_read`: a first read of at most 10 bytes
    returns nothing and sets the flag;
  - `httpSimpleClientEncode_first`: the client's first packet is `GET /` and the
    percent-encoded head, then at least the rest of the payload;
  - `http_simple_split_header_reaches_cipher`: for every first payload, every server
    setting and every random draw, the client's first packet read by the server as
    its first four bytes `GET ` and then the rest makes the server return the raw
    rest, which is longer than the payload.
-/

import ShadowsocksR.Lib.CString
import ShadowsocksR.Obfs.ObfsUtil
import ShadowsocksR.Crypto

namespace ShadowsocksR.HttpSimple

open CString Bytes

/-! ## The plugin's state -/

/-- `struct http_simple_local_data`; `encode_buffer` is scratch of one call. -/
structure HttpSimpleLocal where
  hasSentHeader : Bool
  hasRecvHeader : Bool
  recvBuffer : List UInt8
  deriving Repr, DecidableEq

/-- `http_simple_local_data_init`. -/
def httpSimpleLocalDataInit : HttpSimpleLocal := ⟨false, false, []⟩

/-! ## Percent encoding -/

/-- `http_simple_hex`: a nibble as a lower-case hex digit. -/
def httpSimpleHex (c : UInt8) : UInt8 := if c < 10 then c + 48 else c - 10 + 97

/-- C's `isdigit` and `tolower` on a byte. -/
def isdigit (ch : UInt8) : Bool := 48 ≤ ch && ch ≤ 57

def tolower (ch : UInt8) : UInt8 := if 65 ≤ ch && ch ≤ 90 then ch + 32 else ch

/-- `from_hex`. -/
def fromHex (ch : UInt8) : UInt8 := if isdigit ch then ch - 48 else tolower ch - 97 + 10

/-- `http_simple_encode_head`: each byte as `%` and two hex digits. -/
def httpSimpleEncodeHead (data : List UInt8) : List UInt8 :=
  data.flatMap fun (b : UInt8) =>
    ([37, httpSimpleHex (b >>> 4), httpSimpleHex (b &&& 0xF)] : List UInt8)

/-- The loop of `get_data_from_http_header` from a `%` at offset `i` of the buffer's
memory: decode the two digits after it, step three bytes, and go on while the byte
there is `%` again. Every round needs a `%` inside the buffer, so the buffer's length
is enough fuel. -/
def decodeFrom (mem : List UInt8) : Nat → Nat → List UInt8
  | 0, _ => []
  | fuel + 1, i =>
    let b := (fromHex (byteAt mem (i + 1)) <<< 4) ||| fromHex (byteAt mem (i + 2))
    if byteAt mem (i + 3) ≠ 37 then [b] else b :: decodeFrom mem fuel (i + 3)

/-- `get_data_from_http_header`: the `%xx` run that starts at the first `%` of the
header string. -/
def getDataFromHttpHeader (mem : List UInt8) : List UInt8 :=
  match strchr mem 37 with
  | none => []
  | some i => decodeFrom mem mem.length i

/-! ## The client's first packet -/

/-- `request_path`: pairs of a path prefix and suffix around the encoded head. -/
def requestPath : List (List UInt8) :=
  [ascii "", ascii "",
   ascii "login.php?redir=", ascii "",
   ascii "register.php?code=", ascii "",
   ascii "?keyword=", ascii "",
   ascii "search?src=typd&q=", ascii "&lang=en",
   ascii "s?ie=utf-8&f=8&rsv_bp=1&rsv_idx=1&ch=&bar=&wd=", ascii "&rn=",
   ascii "post.php?id=", ascii "&goto=view.php"]

/-- `g_useragent`. -/
def gUseragent : List (List UInt8) :=
  [ascii "Mozilla/5.0 (Windows NT 6.3; WOW64; rv:40.0) Gecko/20100101 Firefox/40.0",
   ascii "Mozilla/5.0 (Windows NT 6.3; WOW64; rv:40.0) Gecko/20100101 Firefox/44.0",
   ascii "Mozilla/5.0 (Windows NT 6.1) AppleWebKit/537.36 (KHTML, like Gecko) Chrome/41.0.2228.0 Safari/537.36",
   ascii "Mozilla/5.0 (X11; Linux x86_64) AppleWebKit/535.11 (KHTML, like Gecko) Ubuntu/11.10 Chromium/27.0.1453.93 Chrome/27.0.1453.93 Safari/537.36",
   ascii "Mozilla/5.0 (X11; Ubuntu; Linux x86_64; rv:35.0) Gecko/20100101 Firefox/35.0",
   ascii "Mozilla/5.0 (compatible; WOW64; MSIE 10.0; Windows NT 6.2)",
   ascii "Mozilla/5.0 (Windows; U; Windows NT 6.1; en-US) AppleWebKit/533.20.25 (KHTML, like Gecko) Version/5.0.4 Safari/533.20.27",
   ascii "Mozilla/4.0 (compatible; MSIE 7.0; Windows NT 6.3; Trident/7.0; .NET4.0E; .NET4.0C)",
   ascii "Mozilla/5.0 (Windows NT 6.3; Trident/7.0; rv:11.0) like Gecko",
   ascii "Mozilla/5.0 (Linux; Android 4.4; Nexus 5 Build/BuildID) AppleWebKit/537.36 (KHTML, like Gecko) Version/4.0 Chrome/30.0.0.0 Mobile Safari/537.36",
   ascii "Mozilla/5.0 (iPad; CPU OS 5_0 like Mac OS X) AppleWebKit/534.46 (KHTML, like Gecko) Version/5.1 Mobile/9A334 Safari/7534.48.3",
   ascii "Mozilla/5.0 (iPhone; CPU iPhone OS 5_0 like Mac OS X) AppleWebKit/534.46 (KHTML, like Gecko) Version/5.1 Mobile/9A334 Safari/7534.48.3"]

/-- `fake_request_data`: a path prefix and suffix chosen by `rand_integer()` (here
`r`, converted to `size_t` by the `%`) around the encoded head. -/
def fakeRequestData (r : Int) (urlEncodedData : List UInt8) : List UInt8 :=
  let index := sizeT r % (requestPath.length / 2) * 2
  cstr (requestPath.getD index []) ++ cstr urlEncodedData ++ cstr (requestPath.getD (index + 1) [])

/-- The custom header after `#` in the host list, with its escapes: `\\` is a
backslash, `\n` a CRLF, another escaped byte keeps its backslash, and a raw newline
becomes a CRLF. `transChar` is the loop's flag for a pending backslash. -/
def customHeader : Bool → List UInt8 → List UInt8
  | _, [] => []
  | true, c :: r =>
    (if c = 92 then [92] else if c = 110 then [13, 10] else [92, c]) ++ customHeader false r
  | false, c :: r =>
    if c = 92 then customHeader true r
    else (if c = 10 then [13, 10] else [c]) ++ customHeader false r

/-- The loop over `hosts`: the host names split at `,`, and the custom header when a
`#` ends the list. -/
def splitHosts : List UInt8 → List (List UInt8) × Option (List UInt8)
  | [] => ([[]], none)
  | c :: r =>
    if c = 44 then
      let (hs, body) := splitHosts r
      ([] :: hs, body)
    else if c = 35 then ([[]], some (customHeader false r))
    else
      let (hs, body) := splitHosts r
      match hs with
      | h :: t => ((c :: h) :: t, body)
      | [] => ([[c]], body)

/-- `hostport`: the chosen host, with `:port` unless the port is 80. -/
def hostPort (host : List UInt8) (port : Nat) : List UInt8 :=
  if port = 80 then host else host ++ ascii ":" ++ ascii (toString port)

/-- The request header `sprintf` writes, with a custom header or the default one. -/
def requestHeader (fakePath hostport : List UInt8) (body : Option (List UInt8))
    (useragent : List UInt8) : List UInt8 :=
  match body with
  | some body =>
    ascii "GET /" ++ fakePath ++ ascii " HTTP/1.1\r\nHost: " ++ hostport ++ ascii "\r\n" ++
      body ++ ascii "\r\n\r\n"
  | none =>
    ascii "GET /" ++ fakePath ++ ascii " HTTP/1.1\r\nHost: " ++ hostport ++
      ascii "\r\nUser-Agent: " ++ useragent ++
      ascii "\r\nAccept: text/html,application/xhtml+xml,application/xml;q=0.9,*/*;q=0.8\r\nAccept-Language: en-US,en;q=0.8\r\nAccept-Encoding: gzip, deflate\r\nDNT: 1\r\nConnection: keep-alive\r\n\r\n"

/-- What `http_simple_client_encode` returns, with the plugin and the random sources
after it. -/
structure ClientEncoded where
  localData : HttpSimpleLocal
  out : List UInt8
  rng : Shift128
  entropy : Entropy

/-- `http_simple_client_encode`. `xorshift128plus` is drawn for the head size and for
the host, `rand_integer` for the path; `useragentIndex` is the process-wide
`g_useragent_index`. -/
def httpSimpleClientEncode (server : ServerInfo) (useragentIndex : Fin 12) (rng : Shift128)
    (entropy : Entropy) (ld : HttpSimpleLocal) (buf : List UInt8) : ClientEncoded :=
  if ld.hasSentHeader then ⟨ld, buf, rng, entropy⟩
  else
    let (x, rng) := xorshift128plus rng
    let headSize := min (server.headLen + (x &&& 0x3F).toNat) buf.length
    let encoded := httpSimpleEncodeHead (buf.take headSize)
    -- an empty `obfs_param` counts as none
    let param := match server.param with
      | some p => if strlen p = 0 then none else some p
      | none => none
    let hosts := (cstr (param.getD server.host)).take (ssrBuffSize / 2)
    let (phost, body) := splitHosts hosts
    let (x, rng) := xorshift128plus rng
    let host := phost.getD (x % phost.length.toUInt64).toNat []
    let (r, entropy) := randInteger entropy
    let fakePath := fakeRequestData r encoded
    let header := requestHeader fakePath (hostPort host server.port) body
      (gUseragent.getD useragentIndex [])
    ⟨{ ld with hasSentHeader := true }, cstr header ++ buf.drop headSize, rng, entropy⟩

/-! ## The server side -/

/-- `match_http_header`: the buffer starts with `GET ` or `POST `. -/
def matchHttpHeader (buf : List UInt8) : Bool :=
  !buf.isEmpty && ((ascii "GET ").isPrefixOf buf || (ascii "POST ").isPrefixOf buf)

/-- What `http_simple_server_decode` returns, with its two flags. -/
structure ServerDecoded where
  ret : List UInt8
  needDecrypt : Bool
  needFeedback : Bool
  deriving Repr, DecidableEq

/-- `http_simple_server_decode`. -/
def httpSimpleServerDecode (ld : HttpSimpleLocal) (buf : List UInt8) :
    HttpSimpleLocal × ServerDecoded :=
  if ld.hasRecvHeader then (ld, ⟨buf, true, false⟩)
  else
    -- the flag is set before the header is known to be complete
    let ld := { ld with hasRecvHeader := true, recvBuffer := ld.recvBuffer ++ buf }
    let inBuf := ld.recvBuffer
    if inBuf.length ≤ 10 then (ld, ⟨[], true, false⟩)
    else if !matchHttpHeader inBuf then ({ ld with recvBuffer := [] }, ⟨[], true, false⟩)
    else if inBuf.length > 65536 then ({ ld with recvBuffer := [] }, ⟨[], false, false⟩)
    else
      match strstr inBuf (ascii "\r\n\r\n") with
      | none => (ld, ⟨[], true, false⟩)
      | some i =>
        -- `*real_data = 0` ends the header string where the blank line starts
        let mem := inBuf.set i 0
        let ret := getDataFromHttpHeader mem ++ inBuf.drop (i + 4)
        -- not_match_return: fewer than 13 bytes is no SSR header
        if ret.length < 13 then (ld, ⟨buf, true, false⟩) else (ld, ⟨ret, true, false⟩)

/-- `http_simple_client_decode`: the response header is looked for in this read only. -/
def httpSimpleClientDecode (ld : HttpSimpleLocal) (buf : List UInt8) :
    HttpSimpleLocal × List UInt8 :=
  if ld.hasRecvHeader then (ld, buf)
  else
    match strstr buf (ascii "\r\n\r\n") with
    | some i => ({ ld with hasRecvHeader := true }, buf.drop (i + 4))
    | none => (ld, [])

/-- `http_simple_server_encode`; `date` is the `strftime` text of the current time. -/
def httpSimpleServerEncode (date : List UInt8) (ld : HttpSimpleLocal) (buf : List UInt8) :
    HttpSimpleLocal × List UInt8 :=
  if ld.hasSentHeader then (ld, buf)
  else
    ({ ld with hasSentHeader := true },
      ascii "HTTP/1.1 200 OK\r\nConnection: keep-alive\r\nContent-Encoding: gzip\r\nContent-Type: text/html\r\nDate: " ++
        cstr date ++ ascii "\r\nServer: nginx\r\nVary: Accept-Encoding\r\n\r\n" ++ buf)

/-- The server plugin over a sequence of reads: the buffers it returns, concatenated. -/
def serverDecodeAll : HttpSimpleLocal → List (List UInt8) → List UInt8
  | _, [] => []
  | ld, r :: rs =>
    let (ld', d) := httpSimpleServerDecode ld r
    d.ret ++ serverDecodeAll ld' rs

/-! ## The server passes data through once the flag is set -/

theorem httpSimpleServerDecode_passes_through {ld : HttpSimpleLocal} (h : ld.hasRecvHeader = true)
    (buf : List UInt8) : httpSimpleServerDecode ld buf = (ld, ⟨buf, true, false⟩) := by
  simp [httpSimpleServerDecode, h]

/-- A first read of at most 10 bytes is buffered, but the flag is set all the same. -/
theorem httpSimpleServerDecode_short_first_read (ld : HttpSimpleLocal)
    (h : ld.hasRecvHeader = false) (buf : List UInt8) (hlen : (ld.recvBuffer ++ buf).length ≤ 10) :
    httpSimpleServerDecode ld buf =
      ({ ld with hasRecvHeader := true, recvBuffer := ld.recvBuffer ++ buf }, ⟨[], true, false⟩) := by
  have hlen' : ld.recvBuffer.length + buf.length ≤ 10 := by simpa using hlen
  simp [httpSimpleServerDecode, h, hlen']

/-! ## The client's first packet -/

@[simp] theorem httpSimpleEncodeHead_length (data : List UInt8) :
    (httpSimpleEncodeHead data).length = 3 * data.length := by
  induction data with
  | nil => rfl
  | cons b data ih =>
    simp only [httpSimpleEncodeHead, List.flatMap_cons, List.length_append] at ih ⊢
    rw [ih]
    simp
    omega

/-- A hex digit is never the byte 0: digits are `0`..`9` and `a`..`f`. -/
theorem httpSimpleHex_ne_zero {c : UInt8} (h : c < 16) : httpSimpleHex c ≠ 0 := by
  have hc : c.toNat < 16 := UInt8.lt_iff_toNat_lt.mp h
  unfold httpSimpleHex
  split
  · intro h0
    have := congrArg UInt8.toNat h0
    simp [UInt8.toNat_add] at this
    omega
  · rename_i h10
    have h10' : 10 ≤ c.toNat := by simpa [UInt8.lt_iff_toNat_lt] using h10
    intro h0
    have := congrArg UInt8.toNat h0
    simp [UInt8.toNat_add, UInt8.toNat_sub_of_le, UInt8.le_iff_toNat_le, h10'] at this
    omega

theorem shiftRight_four_lt (b : UInt8) : b >>> 4 < 16 := by
  have := b.toNat_lt
  simp only [UInt8.lt_iff_toNat_lt, UInt8.toNat_shiftRight]
  simp [Nat.shiftRight_eq_div_pow]
  omega

theorem and_fifteen_lt (b : UInt8) : b &&& 0xF < 16 := by
  simp only [UInt8.lt_iff_toNat_lt, UInt8.toNat_and]
  simp
  exact Nat.lt_succ_of_le Nat.and_le_right

theorem noNul_httpSimpleEncodeHead (data : List UInt8) : NoNul (httpSimpleEncodeHead data) := by
  intro c hc
  obtain ⟨b, -, hb⟩ := List.mem_flatMap.mp hc
  simp only [List.mem_cons, List.not_mem_nil, or_false] at hb
  rcases hb with rfl | rfl | rfl
  · decide
  · exact httpSimpleHex_ne_zero (shiftRight_four_lt b)
  · exact httpSimpleHex_ne_zero (and_fifteen_lt b)

theorem requestHeader_prefix (fakePath hostport : List UInt8) (body : Option (List UInt8))
    (useragent : List UInt8) :
    ascii "GET /" ++ fakePath <+: requestHeader fakePath hostport body useragent := by
  cases body <;>
    simp only [requestHeader, List.append_assoc, List.prefix_append_right_inj, List.prefix_append]

theorem fakeRequestData_length (r : Int) (data : List UInt8) :
    3 * data.length ≤ (fakeRequestData r (httpSimpleEncodeHead data)).length := by
  simp only [fakeRequestData, List.length_append, cstr_of_noNul (noNul_httpSimpleEncodeHead data),
    httpSimpleEncodeHead_length]
  omega

theorem noNul_fakeRequestData (r : Int) (data : List UInt8) :
    NoNul (fakeRequestData r data) := by
  simp only [fakeRequestData, noNul_append]
  exact ⟨⟨noNul_cstr _, noNul_cstr _⟩, noNul_cstr _⟩

/-- The client's first packet is the request header `sprintf` writes, up to its first 0
byte, then the payload after the encoded head. -/
theorem httpSimpleClientEncode_out (server : ServerInfo) (useragentIndex : Fin 12)
    (rng : Shift128) (entropy : Entropy) (ld : HttpSimpleLocal) (h : ld.hasSentHeader = false)
    (buf : List UInt8) :
    ∃ headSize r hostport body useragent, headSize ≤ buf.length ∧
      (httpSimpleClientEncode server useragentIndex rng entropy ld buf).out =
        cstr (requestHeader (fakeRequestData r (httpSimpleEncodeHead (buf.take headSize)))
          hostport body useragent) ++ buf.drop headSize := by
  rw [httpSimpleClientEncode, if_neg (by simp [h])]
  exact ⟨_, _, _, _, _, Nat.min_le_right _ _, rfl⟩

/-- The client's first packet: `GET /`, a path that holds the percent-encoded head (three
bytes for each byte of it), and the rest of the payload. -/
theorem httpSimpleClientEncode_first (server : ServerInfo) (useragentIndex : Fin 12)
    (rng : Shift128) (entropy : Entropy) (ld : HttpSimpleLocal) (h : ld.hasSentHeader = false)
    (buf : List UInt8) :
    ∃ headSize path, headSize ≤ buf.length ∧ 3 * headSize ≤ path.length ∧
      (httpSimpleClientEncode server useragentIndex rng entropy ld buf).out =
        ascii "GET /" ++ path ++ buf.drop headSize := by
  obtain ⟨headSize, r, hostport, body, useragent, hlen, hout⟩ :=
    httpSimpleClientEncode_out server useragentIndex rng entropy ld h buf
  -- the path is NUL-free, so the header string runs at least to its end
  generalize hfp : fakeRequestData r (httpSimpleEncodeHead (buf.take headSize)) = fp at hout
  have hfpLen : 3 * headSize ≤ fp.length := by
    have := fakeRequestData_length r (buf.take headSize)
    rw [hfp, List.length_take, Nat.min_eq_left hlen] at this
    exact this
  have hfpNul : NoNul fp := hfp ▸ noNul_fakeRequestData _ _
  obtain ⟨tail, htail⟩ := requestHeader_prefix fp hostport body useragent
  refine ⟨headSize, fp ++ cstr tail, hlen, by simp only [List.length_append]; omega, ?_⟩
  rw [hout, ← htail, List.append_assoc, cstr_append_of_noNul (noNul_of_all rfl),
    cstr_append_of_noNul hfpNul]

/-! ## A request header split after `GET ` -/

/-- The server plugin from its initial state over the reads `GET ` and the rest. -/
theorem serverDecodeAll_get_then_rest (rest : List UInt8) :
    serverDecodeAll httpSimpleLocalDataInit [ascii "GET ", rest] = rest := by
  have h1 := httpSimpleServerDecode_short_first_read httpSimpleLocalDataInit rfl
    (ascii "GET ") (by decide)
  simp only [serverDecodeAll, h1, List.nil_append]
  rw [httpSimpleServerDecode_passes_through rfl]
  simp

/-- For every first payload `D`, every server setting and every random draw: the client's
first packet, read by the server as its first four bytes and then the rest, comes out
of `http_simple_server_decode` as the raw rest, HTTP header text included, which is
longer than `D`; the cipher is handed header text instead of `D`. -/
theorem http_simple_split_header_reaches_cipher (server : ServerInfo) (useragentIndex : Fin 12)
    (rng : Shift128) (entropy : Entropy) (D : List UInt8) :
    let out := (httpSimpleClientEncode server useragentIndex rng entropy
      httpSimpleLocalDataInit D).out
    out.take 4 = ascii "GET " ∧
    serverDecodeAll httpSimpleLocalDataInit [out.take 4, out.drop 4] = out.drop 4 ∧
    D.length < (out.drop 4).length ∧
    serverDecodeAll httpSimpleLocalDataInit [out.take 4, out.drop 4] ≠ D := by
  obtain ⟨headSize, path, hle, hpath, hout⟩ :=
    httpSimpleClientEncode_first server useragentIndex rng entropy httpSimpleLocalDataInit rfl D
  intro out
  have htake : out.take 4 = ascii "GET " := by
    show (httpSimpleClientEncode server useragentIndex rng entropy _ D).out.take 4 = _
    rw [hout]
    rfl
  have hlonger : D.length < (out.drop 4).length := by
    show D.length <
      ((httpSimpleClientEncode server useragentIndex rng entropy _ D).out.drop 4).length
    rw [hout]
    simp only [List.length_drop, List.length_append]
    have h5 : (ascii "GET /").length = 5 := by decide
    omega
  have hruns := serverDecodeAll_get_then_rest (out.drop 4)
  rw [← htake] at hruns
  refine ⟨htake, hruns, hlonger, ?_⟩
  rw [hruns]
  intro heq
  rw [heq] at hlonger
  exact Nat.lt_irrefl _ hlonger

end ShadowsocksR.HttpSimple
