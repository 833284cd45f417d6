/-
  ShadowsocksR.SsrQrCode — ssr_qr_code.c: the ssr:// and ss:// links of a server
  configuration.

  `ssr_qr_code_encode` writes `host:port:protocol:method:obfs:base64(password)`, then `/?`
  and the query `obfsparam=…&protoparam=…&remarks=…` (each value URL-safe base64, each
  parameter only when it is set and not empty) or `/` alone, and returns `ssr://` before
  the URL-safe base64 of that text. `decode_ssr` undoes it: it decodes the text after the
  header, cuts it at the first `/` (and a `?` right after it), takes the password, obfs,
  method, protocol and port from the right with five `strrchr(':')`, so that the host may
  hold `:`, and reads the `key=value` items of the query between `&`s.
  `ssr_qr_code_decode` dispatches on the `ss://` and `ssr://` headers; `decode_shadowsocks`
  reads the older `ss://base64(method:password@hostname:port)#remarks`.

  A decoder's `assert` on a base64 text of length 1 mod 4 stops the process: that is
  `Decoded.aborted`, apart from `NULL`.

  Proved (`ssr_link_round_trips`): for every configuration whose host holds no `/`, whose
  protocol, method and obfs names hold neither `:` nor `/`, whose port is not 0 and whose
  host, method, password, protocol and obfs are set, `ssr_qr_code_decode` of
  `ssr_qr_code_encode`'s link is a configuration with the same host, port, protocol,
  method, obfs and password, and with each of obfs_param, protocol_param and remarks as it
  was when it was set and not empty, `NULL` otherwise. On the way:
  - `splitPath_resultText`: the first `/` is the one the encoder wrote;
  - `splitBasic_basicText`: the five cuts from the right give the fields back;
  - `readOptional_optionalText`: the `&` scan reads each item the encoder wrote into its
    own field.

  The `SSR_BUFF_SIZE` buffers are not modelled: texts are lists, so the model is the C code
  for configurations whose link fits them.
-/

import Mathlib
import ShadowsocksR.Lib.CString
import ShadowsocksR.Obfs.Base64

namespace ShadowsocksR.SsrQrCode

open CString Base64

def colon : UInt8 := 0x3a
def question : UInt8 := 0x3f
def ampersand : UInt8 := 0x26
def hash : UInt8 := 0x23
def atSign : UInt8 := 0x40

def ssHeader : List UInt8 := ascii "ss://"
def ssrHeader : List UInt8 := ascii "ssr://"

/-! ## The configuration -/

/-- `struct server_config`; a `char *` field is `NULL` or a string. -/
structure ServerConfig where
  listenHost : Option Str
  listenPort : UInt16
  remoteHost : Option Str
  remotePort : UInt16
  password : Option Str
  method : Option Str
  protocol : Option Str
  protocolParam : Option Str
  obfs : Option Str
  obfsParam : Option Str
  overTlsEnable : Bool
  overTlsServerDomain : Option Str
  overTlsPath : Option Str
  overTlsRootCertFile : Option Str
  udp : Bool
  idleTimeout : UInt32
  remarks : Option Str
  deriving DecidableEq

/-- `config_create`: all zero, then `DEFAULT_BIND_HOST`, `DEFAULT_METHOD`,
`DEFAULT_BIND_PORT` and `DEFAULT_IDLE_TIMEOUT`. -/
def configCreate : ServerConfig where
  listenHost := some (strdup (ascii "127.0.0.1"))
  listenPort := 1080
  remoteHost := none
  remotePort := 0
  password := none
  method := some (strdup (ascii "rc4-md5"))
  protocol := none
  protocolParam := none
  obfs := none
  obfsParam := none
  overTlsEnable := false
  overTlsServerDomain := none
  overTlsPath := none
  overTlsRootCertFile := none
  udp := false
  idleTimeout := 60 * 1000
  remarks := none

/-- An `int` stored to an `unsigned short`: its low 16 bits. -/
def toUnsignedShort (x : Int) : UInt16 := UInt16.ofNat (x % 2 ^ 16).toNat

/-! ## Encoding -/

/-- What `url_safe_base64_encode` writes, as `%s` reads it. -/
def base64Text (s : List UInt8) : List UInt8 := cstr (urlSafeBase64Encode s).1

/-- `sprintf(basic, "%s:%d:%s:%s:%s:%s", …)`. -/
def basicText (remoteHost : Str) (remotePort : UInt16) (protocol method obfs : Str)
    (base64Pass : List UInt8) : List UInt8 :=
  remoteHost.bytes ++ ascii ":" ++ ascii (toString remotePort.toNat) ++ ascii ":" ++
    protocol.bytes ++ ascii ":" ++ method.bytes ++ ascii ":" ++ obfs.bytes ++ ascii ":" ++ base64Pass

/-- One `if (param != NULL && strlen(param) != 0)` block: `name=base64(param)` after
`optional` with `fmt0`, or behind a `&` with `fmt1` when `optional` is not empty. -/
def appendParam (optional name : List UInt8) (param : Option Str) : List UInt8 :=
  match param with
  | some p =>
    if p.bytes.length ≠ 0 then
      optional ++ (if optional.length ≠ 0 then ascii "&" else []) ++ name ++ ascii "=" ++
        base64Text p.bytes
    else optional
  | none => optional

/-- The three parameter blocks; `group`, `udpport` and `uot` are not written. -/
def optionalText (config : ServerConfig) : List UInt8 :=
  let optional := appendParam [] (ascii "obfsparam") config.obfsParam
  let optional := appendParam optional (ascii "protoparam") config.protocolParam
  appendParam optional (ascii "remarks") config.remarks

/-- `sprintf(result, strlen(optional) ? "%s/?%s" : "%s/%s", basic, optional)`. -/
def resultText (basic optional : List UInt8) : List UInt8 :=
  basic ++ (if optional.length ≠ 0 then ascii "/?" else ascii "/") ++ optional

/-- `ssr_qr_code_encode`; `none` is `NULL`. -/
def ssrQrCodeEncode (config : ServerConfig) : Option (List UInt8) :=
  match config.remoteHost, config.method, config.password, config.protocol, config.obfs with
  | some remoteHost, some method, some password, some protocol, some obfs =>
    if config.remotePort = 0 then none
    else
      let basic := basicText remoteHost config.remotePort protocol method obfs
        (base64Text password.bytes)
      some (ssrHeader ++ base64Text (resultText basic (optionalText config)))
  | _, _, _, _, _ => none

/-! ## Decoding -/

/-- What a decoder comes to: a configuration, `NULL`, or an `assert` that stopped the
process. -/
inductive Decoded where
  | config (c : ServerConfig)
  | null
  | aborted
  deriving DecidableEq

/-- `*p++ = '\0'` at offset `i` of a string: the string before it and the one after it. -/
def cutAt (s : List UInt8) (i : Nat) : List UInt8 × List UInt8 := (s.take i, s.drop (i + 1))

/-- `p = strrchr(s, c)` and, when it finds one, the cut there. -/
def cutLast (s : List UInt8) (c : UInt8) : Option (List UInt8 × List UInt8) :=
  (strrchr s c).map (cutAt (cstr s))

/-- `url_safe_base64_decode(value, swap_buf)` and `string_safe_assign` of `swap_buf`. The
decoder writes its own NUL, so what `swap_buf` held before is never read; `none` when it
aborts. -/
def decodeValue (value : List UInt8) : Option Str := (urlSafeBase64Decode value).map fun r => strdup r.1

/-- `optional = strchr(plain_text, '/')`: the basic part before it, and the query after it
and a `?`; no query when there is no `/`. -/
def splitPath (plainText : List UInt8) : List UInt8 × Option (List UInt8) :=
  match strchr plainText slash with
  | none => (cstr plainText, none)
  | some i =>
    let (basic, optional) := cutAt (cstr plainText) i
    (basic, some (if optional.head? = some question then optional.drop 1 else optional))

/-- The fields `decode_ssr` cuts from the basic part. -/
structure BasicFields where
  host : List UInt8
  port : List UInt8
  protocol : List UInt8
  method : List UInt8
  obfs : List UInt8
  base64pass : List UInt8
  deriving DecidableEq

/-- The five `strrchr(basic, ':')`, from the right; `none` at the first that finds none. -/
def splitBasic (basic : List UInt8) : Option BasicFields := do
  let (basic, base64pass) ← cutLast basic colon
  let (basic, obfs) ← cutLast basic colon
  let (basic, method) ← cutLast basic colon
  let (basic, protocol) ← cutLast basic colon
  let (host, port) ← cutLast basic colon
  pure ⟨host, port, protocol, method, obfs, base64pass⟩

/-- `params[]`, the keys `decode_ssr` knows. -/
def params : List (List UInt8) :=
  [ascii "obfsparam", ascii "protoparam", ascii "remarks", ascii "group", ascii "udpport",
    ascii "uot"]

/-- One `key=value` item of the query: the first key of `params` equal to `key` picks the
case of the `switch`. -/
def readParam (config : ServerConfig) (item : List UInt8) : Option ServerConfig :=
  match strchr item eqSign with
  | none => some config
  | some i =>
    let (key, value) := cutAt (cstr item) i
    match params.findIdx? (· == key) with
    | some 0 => (decodeValue value).map fun v => { config with obfsParam := some v }
    | some 1 => (decodeValue value).map fun v => { config with protocolParam := some v }
    | some 2 => (decodeValue value).map fun v => { config with remarks := some v }
    -- `group`, `udpport`, `uot` and unknown keys
    | _ => some config

/-- The `do … while (iter)` over the items between `&`s. -/
def readQuery (config : ServerConfig) (optional : List UInt8) : Option ServerConfig :=
  (optional.splitOn ampersand).foldlM readParam config

/-- `if (optional==NULL || strlen(optional)==0) break;`, then the query. -/
def readOptional (config : ServerConfig) : Option (List UInt8) → Option ServerConfig
  | none => some config
  | some optional => if optional.length = 0 then some config else readQuery config optional

/-- `decode_ssr` from the text the link's base64 decoded to. -/
def decodeSsrPlain (plainText : List UInt8) : Decoded :=
  let (basic, optional) := splitPath plainText
  match splitBasic basic with
  | none => .null
  | some f =>
    match decodeValue f.base64pass with
    | none => .aborted
    | some password =>
      let config := { configCreate with
        remoteHost := some (strdup f.host), remotePort := toUnsignedShort (atoi f.port),
        protocol := some (strdup f.protocol), method := some (strdup f.method),
        obfs := some (strdup f.obfs), password := some password }
      match readOptional config optional with
      | none => .aborted
      | some config => .config config

/-- `decode_ssr`. -/
def decodeSsr (text : List UInt8) : Decoded :=
  if strlen text = 0 then .null
  else if !ssrHeader.isPrefixOf (cstr text) then .null
  else
    match urlSafeBase64Decode ((cstr text).drop ssrHeader.length) with
    | none => .aborted
    | some (plainText, _) => decodeSsrPlain plainText

/-- `decode_shadowsocks`, with protocol `origin` and obfs `plain`. -/
def decodeShadowsocks (text : List UInt8) : Decoded :=
  if strlen text = 0 then .null
  else if !ssHeader.isPrefixOf (cstr text) then .null
  else
    let contents := (cstr text).drop ssHeader.length
    let (contents, remarks) : List UInt8 × Option (List UInt8) :=
      match strchr contents hash with
      | some i => let (c, r) := cutAt contents i; (c, some r)
      | none => (contents, none)
    -- an AEAD link, which is not supported
    if strcspn contents (ascii "@:/?") ≠ strlen contents then .null
    else
      match urlSafeBase64Decode contents with
      | none => .aborted
      | some (plainText, _) =>
        match strchr plainText colon with
        | none => .null
        | some i =>
          let (method, password) := cutAt (cstr plainText) i
          match cutLast password colon with
          | none => .null
          | some (password, port) =>
            match cutLast password atSign with
            | none => .null
            | some (password, hostname) =>
              .config { configCreate with
                method := some (strdup method), password := some (strdup password),
                remoteHost := some (strdup hostname), remotePort := toUnsignedShort (atoi port),
                remarks := remarks.map strdup, protocol := some (strdup (ascii "origin")),
                obfs := some (strdup (ascii "plain")) }

/-- `ssr_qr_code_decode`. -/
def ssrQrCodeDecode (text : List UInt8) : Decoded :=
  if strlen text = 0 then .null
  else if ssHeader.isPrefixOf (cstr text) then decodeShadowsocks text
  else if ssrHeader.isPrefixOf (cstr text) then decodeSsr text
  else .null

/-! ## The texts the encoder writes -/

theorem ascii_colon : ascii ":" = [colon] := rfl
theorem ascii_ampersand : ascii "&" = [ampersand] := rfl
theorem ascii_eqSign : ascii "=" = [eqSign] := rfl
theorem ascii_slash_question : ascii "/?" = [slash, question] := rfl
theorem ascii_slash : ascii "/" = [slash] := rfl

theorem urlSafeBasis64_separators :
    colon ∉ urlSafeBasis64 ∧ slash ∉ urlSafeBasis64 ∧ ampersand ∉ urlSafeBasis64 ∧
      eqSign ∉ urlSafeBasis64 := by
  decide

theorem noNul_base64Text (s : List UInt8) : NoNul (base64Text s) := noNul_cstr _

theorem not_mem_base64Text {c : UInt8} (hc : c ∉ urlSafeBasis64) (s : List UInt8) :
    c ∉ base64Text s :=
  fun h => hc (mem_urlSafeBasis64_of_encoded h)

theorem not_mem_ascii_toString {c : UInt8} (hc : ¬(0x30 ≤ c ∧ c ≤ 0x39)) (n : Nat) :
    c ∉ ascii (toString n) :=
  fun h => hc ((digitsValue_ascii_toString n).1 c h)

/-! ## Cutting a string where the encoder joined it -/

theorem cutAt_split (l u : List UInt8) (c : UInt8) : cutAt (l ++ c :: u) l.length = (l, u) := by
  simp [cutAt]

theorem cutLast_split {l u : List UInt8} {c : UInt8} (ht : NoNul (l ++ c :: u)) (hu : c ∉ u) :
    cutLast (l ++ c :: u) c = some (l, u) := by
  rw [cutLast, strrchr_of_split ht rfl hu, cstr_of_noNul ht, Option.map_some, cutAt_split]

theorem noNul_resultText {basic optional : List UInt8} (hb : NoNul basic) (ho : NoNul optional) :
    NoNul (resultText basic optional) := by
  have hsep : NoNul (if optional.length ≠ 0 then ascii "/?" else ascii "/") := by
    split <;> exact noNul_of_all rfl
  rw [resultText, noNul_append, noNul_append]
  exact ⟨⟨hb, hsep⟩, ho⟩

/-- The first `/` of the decoded text is the one after the basic part. -/
theorem splitPath_resultText {basic optional : List UInt8} (hb : NoNul basic) (hs : slash ∉ basic)
    (ho : NoNul optional) : splitPath (resultText basic optional ++ [0]) = (basic, some optional) := by
  have hr := noNul_resultText hb ho
  by_cases h : optional.length = 0
  · have he : optional = [] := List.eq_nil_of_length_eq_zero h
    have hres : resultText basic optional = basic ++ slash :: [] := by
      simp [resultText, he, ascii_slash]
    rw [hres] at hr ⊢
    rw [splitPath, strchr_append_cons hr rfl hs, cstr_append_zero_cons, cstr_of_noNul hr]
    simp [cutAt_split, he]
  · have hres : resultText basic optional = basic ++ slash :: (question :: optional) := by
      simp [resultText, h, ascii_slash_question]
    rw [hres] at hr ⊢
    rw [splitPath, strchr_append_cons hr rfl hs, cstr_append_zero_cons, cstr_of_noNul hr]
    simp [cutAt_split]

theorem noNul_join {l u : List UInt8} (hl : NoNul l) (hu : NoNul u) : NoNul (l ++ colon :: u) :=
  noNul_append.2 ⟨hl, noNul_cons.2 ⟨by decide, hu⟩⟩

theorem basicText_eq (remoteHost : Str) (remotePort : UInt16) (protocol method obfs : Str)
    (base64Pass : List UInt8) :
    basicText remoteHost remotePort protocol method obfs base64Pass =
      ((((remoteHost.bytes ++ colon :: ascii (toString remotePort.toNat)) ++ colon :: protocol.bytes) ++
        colon :: method.bytes) ++ colon :: obfs.bytes) ++ colon :: base64Pass := by
  simp [basicText, ascii_colon]

theorem noNul_basicText (remoteHost : Str) (remotePort : UInt16) (protocol method obfs : Str)
    {base64Pass : List UInt8} (hpass : NoNul base64Pass) :
    NoNul (basicText remoteHost remotePort protocol method obfs base64Pass) := by
  rw [basicText_eq]
  exact noNul_join (noNul_join (noNul_join (noNul_join (noNul_join remoteHost.noNul
    (noNul_ascii_toString _)) protocol.noNul) method.noNul) obfs.noNul) hpass

theorem not_mem_join {c : UInt8} {l u : List UInt8} (hl : c ∉ l) (hc : c ≠ colon) (hu : c ∉ u) :
    c ∉ l ++ colon :: u := by
  simp [hl, hc, hu]

theorem slash_not_mem_basicText {remoteHost protocol method obfs : Str} (remotePort : UInt16)
    {base64Pass : List UInt8} (hhost : slash ∉ remoteHost.bytes) (hprotocol : slash ∉ protocol.bytes)
    (hmethod : slash ∉ method.bytes) (hobfs : slash ∉ obfs.bytes) (hpass : slash ∉ base64Pass) :
    slash ∉ basicText remoteHost remotePort protocol method obfs base64Pass := by
  have hport := not_mem_ascii_toString (c := slash) (by decide) remotePort.toNat
  have hc : slash ≠ colon := by decide
  rw [basicText_eq]
  exact not_mem_join (not_mem_join (not_mem_join (not_mem_join (not_mem_join hhost hc hport) hc
    hprotocol) hc hmethod) hc hobfs) hc hpass

/-- The five cuts from the right give back the fields `sprintf` joined, whatever `:` the
host holds. -/
theorem splitBasic_basicText (remoteHost : Str) (remotePort : UInt16) {protocol method obfs : Str}
    {base64Pass : List UInt8} (hpass : NoNul base64Pass) (hc : colon ∉ base64Pass)
    (hprotocol : colon ∉ protocol.bytes) (hmethod : colon ∉ method.bytes) (hobfs : colon ∉ obfs.bytes) :
    splitBasic (basicText remoteHost remotePort protocol method obfs base64Pass) =
      some ⟨remoteHost.bytes, ascii (toString remotePort.toNat), protocol.bytes, method.bytes,
        obfs.bytes, base64Pass⟩ := by
  have hport := not_mem_ascii_toString (c := colon) (by decide) remotePort.toNat
  have n1 := noNul_join remoteHost.noNul (noNul_ascii_toString remotePort.toNat)
  have n2 := noNul_join n1 protocol.noNul
  have n3 := noNul_join n2 method.noNul
  have n4 := noNul_join n3 obfs.noNul
  rw [basicText_eq]
  simp only [splitBasic, Option.bind_eq_bind, Option.bind_some, Option.pure_def,
    cutLast_split (noNul_join n4 hpass) hc, cutLast_split n4 hobfs, cutLast_split n3 hmethod,
    cutLast_split n2 hprotocol, cutLast_split n1 hport]

/-! ## The query -/

/-- The three parameters a link carries, in the order of `params[]`. -/
inductive LinkParam where
  | obfsparam
  | protoparam
  | remarks
  deriving DecidableEq, Repr

namespace LinkParam

def name : LinkParam → List UInt8
  | obfsparam => ascii "obfsparam"
  | protoparam => ascii "protoparam"
  | remarks => ascii "remarks"

/-- The case of `decode_ssr`'s `switch` that reads the parameter. -/
def index : LinkParam → Nat
  | obfsparam => 0
  | protoparam => 1
  | remarks => 2

def get : LinkParam → ServerConfig → Option Str
  | obfsparam, config => config.obfsParam
  | protoparam, config => config.protocolParam
  | remarks, config => config.remarks

def set : LinkParam → ServerConfig → Option Str → ServerConfig
  | obfsparam, config, v => { config with obfsParam := v }
  | protoparam, config, v => { config with protocolParam := v }
  | remarks, config, v => { config with remarks := v }

theorem set_none {p : LinkParam} {config : ServerConfig} (h : p.get config = none) :
    p.set config none = config := by
  cases p <;> cases config <;> simp_all [get, set]

theorem findIdx_params (p : LinkParam) : params.findIdx? (· == p.name) = some p.index := by
  cases p <;> decide

theorem name_separators (p : LinkParam) : NoNul p.name ∧ eqSign ∉ p.name ∧ ampersand ∉ p.name := by
  cases p <;> exact ⟨noNul_of_all rfl, by decide, by decide⟩

end LinkParam

/-- A parameter as a link carries it: set and not empty. -/
def carried (param : Option Str) : Option Str := param.filter fun v => !v.bytes.isEmpty

/-- The item the encoder writes for a parameter, when it carries it. -/
def queryItem (name : List UInt8) (param : Option Str) : List (List UInt8) :=
  (carried param).toList.map fun v => name ++ eqSign :: base64Text v.bytes

/-- The items of the query the encoder writes, in its order. -/
def queryItems (config : ServerConfig) : List (List UInt8) :=
  queryItem LinkParam.obfsparam.name config.obfsParam ++
    queryItem LinkParam.protoparam.name config.protocolParam ++
    queryItem LinkParam.remarks.name config.remarks

theorem decodeValue_base64Text (v : Str) : decodeValue (base64Text v.bytes) = some v := by
  rw [decodeValue, base64Text, urlSafeBase64Decode_encoded, Option.map_some, strdup_append_zero]

theorem intercalate_cons_ne_nil (s : UInt8) {y : List UInt8} (hy : y ≠ []) (ys : List (List UInt8)) :
    [s].intercalate (y :: ys) ≠ [] := by
  cases ys with
  | nil => simpa using hy
  | cons z zs => simp [List.intercalate_cons_cons, hy]

theorem intercalate_append_singleton (s : UInt8) (x : List UInt8) :
    ∀ {l : List (List UInt8)}, l ≠ [] → [s].intercalate (l ++ [x]) = [s].intercalate l ++ s :: x
  | [y], _ => by simp [List.intercalate_cons_cons]
  | y :: z :: zs, _ => by
    have ih : [s].intercalate (z :: (zs ++ [x])) = [s].intercalate (z :: zs) ++ s :: x := by
      rw [← List.cons_append]
      exact intercalate_append_singleton s x (List.cons_ne_nil z zs)
    simp only [List.cons_append, List.intercalate_cons_cons, ih]
    simp

theorem queryItem_ne_nil {name : List UInt8} {param : Option Str} :
    ∀ x ∈ queryItem name param, x ≠ [] := by
  intro x hx
  obtain ⟨v, -, rfl⟩ := List.mem_map.1 hx
  simp

/-- Each block of the encoder adds its item to the query, behind a `&` when there is one
before it. -/
theorem appendParam_intercalate (name : List UInt8) (param : Option Str) {items : List (List UInt8)}
    (hitems : ∀ x ∈ items, x ≠ []) :
    appendParam ([ampersand].intercalate items) name param =
      [ampersand].intercalate (items ++ queryItem name param) := by
  have hitem (v : Str) : name ++ ascii "=" ++ base64Text v.bytes = name ++ eqSign :: base64Text v.bytes := by
    simp [ascii_eqSign]
  cases param with
  | none => simp [appendParam, queryItem, carried]
  | some v =>
    by_cases hv : v.bytes = []
    · simp [appendParam, queryItem, carried, Option.filter_some, hv]
    · have hq : queryItem name (some v) = [name ++ eqSign :: base64Text v.bytes] := by
        simp [queryItem, carried, Option.filter_some, hv]
      rw [hq]
      cases items with
      | nil => simp [appendParam, hv, hitem]
      | cons y ys =>
        have hy := intercalate_cons_ne_nil ampersand (hitems y List.mem_cons_self) ys
        rw [intercalate_append_singleton ampersand _ (List.cons_ne_nil y ys)]
        simp [appendParam, hv, hy, ascii_ampersand, ascii_eqSign]

theorem optionalText_eq (config : ServerConfig) :
    optionalText config = [ampersand].intercalate (queryItems config) := by
  have h0 : appendParam [] (ascii "obfsparam") config.obfsParam =
      [ampersand].intercalate ([] ++ queryItem (ascii "obfsparam") config.obfsParam) :=
    @appendParam_intercalate (ascii "obfsparam") config.obfsParam [] (by simp)
  have h1 : ∀ x ∈ [] ++ queryItem (ascii "obfsparam") config.obfsParam, x ≠ [] := by
    simpa using queryItem_ne_nil
  have h2 : ∀ x ∈ [] ++ queryItem (ascii "obfsparam") config.obfsParam ++
      queryItem (ascii "protoparam") config.protocolParam, x ≠ [] := by
    intro x hx
    simp only [List.nil_append, List.mem_append] at hx
    rcases hx with hx | hx <;> exact queryItem_ne_nil x hx
  simp only [optionalText]
  rw [h0, appendParam_intercalate _ _ h1, appendParam_intercalate _ _ h2]
  rfl

/-- The item of a parameter is read into the parameter's field. -/
theorem readParam_item (p : LinkParam) (config : ServerConfig) (v : Str) :
    readParam config (p.name ++ eqSign :: base64Text v.bytes) = some (p.set config (some v)) := by
  obtain ⟨hn, he, -⟩ := p.name_separators
  have hitem : NoNul (p.name ++ eqSign :: base64Text v.bytes) :=
    noNul_append.2 ⟨hn, noNul_cons.2 ⟨by decide, noNul_base64Text _⟩⟩
  unfold readParam
  rw [strchr_of_split hitem rfl he, cstr_of_noNul hitem]
  dsimp only
  rw [cutAt_split]
  dsimp only
  rw [LinkParam.findIdx_params]
  cases p <;> simp [LinkParam.index, LinkParam.set, decodeValue_base64Text]

theorem foldlM_queryItem (p : LinkParam) (param : Option Str) {config : ServerConfig}
    (hnone : p.get config = none) :
    (queryItem p.name param).foldlM readParam config = some (p.set config (carried param)) := by
  cases h : carried param with
  | none => simp [queryItem, h, LinkParam.set_none hnone]
  | some v => simp [queryItem, h, readParam_item]

/-- A query the encoder wrote is scanned item by item. -/
theorem readOptional_intercalate (config : ServerConfig) {items : List (List UInt8)}
    (hne : ∀ x ∈ items, x ≠ []) (hamp : ∀ x ∈ items, ampersand ∉ x) :
    readOptional config (some ([ampersand].intercalate items)) = items.foldlM readParam config := by
  cases items with
  | nil => simp [readOptional]
  | cons y ys =>
    have hy := intercalate_cons_ne_nil ampersand (hne y List.mem_cons_self) ys
    rw [readOptional, if_neg (by simpa using hy), readQuery,
      List.splitOn_intercalate _ hamp (List.cons_ne_nil y ys)]

theorem queryItems_separators (config : ServerConfig) :
    ∀ x ∈ queryItems config, x ≠ [] ∧ ampersand ∉ x := by
  have hq (p : LinkParam) (param : Option Str) : ∀ x ∈ queryItem p.name param, x ≠ [] ∧ ampersand ∉ x := by
    intro x hx
    obtain ⟨v, -, rfl⟩ := List.mem_map.1 hx
    obtain ⟨-, -, ha⟩ := p.name_separators
    refine ⟨by simp, ?_⟩
    simp only [List.mem_append, List.mem_cons, not_or]
    exact ⟨ha, by decide, not_mem_base64Text urlSafeBasis64_separators.2.2.1 _⟩
  intro x hx
  simp only [queryItems, List.mem_append] at hx
  rcases hx with (hx | hx) | hx
  · exact hq _ _ x hx
  · exact hq _ _ x hx
  · exact hq _ _ x hx

/-- The query the encoder writes is read back into the three fields, each as the link
carries it. -/
theorem readOptional_optionalText (config cfg : ServerConfig)
    (hcfg : cfg.obfsParam = none ∧ cfg.protocolParam = none ∧ cfg.remarks = none) :
    readOptional cfg (some (optionalText config)) =
      some { cfg with
        obfsParam := carried config.obfsParam, protocolParam := carried config.protocolParam,
        remarks := carried config.remarks } := by
  obtain ⟨h1, h2, h3⟩ := hcfg
  have hsep := queryItems_separators config
  rw [optionalText_eq, readOptional_intercalate cfg (fun x hx => (hsep x hx).1)
    (fun x hx => (hsep x hx).2), queryItems, List.foldlM_append, List.foldlM_append,
    foldlM_queryItem .obfsparam _ h1]
  simp only [Option.bind_eq_bind, Option.bind_some]
  rw [foldlM_queryItem .protoparam _ (by simp [LinkParam.get, LinkParam.set, h2])]
  simp only [Option.bind_some]
  rw [foldlM_queryItem .remarks _ (by simp [LinkParam.get, LinkParam.set, h3])]
  rfl

theorem noNul_appendParam {optional name : List UInt8} (ho : NoNul optional) (hn : NoNul name)
    (param : Option Str) : NoNul (appendParam optional name param) := by
  have hamp : NoNul (if optional.length ≠ 0 then ascii "&" else []) := by
    split
    · exact noNul_of_all rfl
    · exact noNul_nil
  unfold appendParam
  split
  · split
    · simp only [noNul_append]
      exact ⟨⟨⟨⟨ho, hamp⟩, hn⟩, noNul_of_all rfl⟩, noNul_base64Text _⟩
    · exact ho
  · exact ho

theorem noNul_optionalText (config : ServerConfig) : NoNul (optionalText config) :=
  noNul_appendParam (noNul_appendParam (noNul_appendParam noNul_nil (noNul_of_all rfl) _)
    (noNul_of_all rfl) _) (noNul_of_all rfl) _

/-! ## The round trip -/

theorem toUnsignedShort_atoi (port : UInt16) :
    toUnsignedShort (atoi (ascii (toString port.toNat))) = port := by
  have h := port.toNat_lt
  rw [atoi_ascii_toString (by omega), toUnsignedShort, Int.emod_eq_of_lt (by omega) (by omega),
    Int.toNat_natCast, UInt16.ofNat_toNat]

/-- What `decode_ssr` reads from the text the encoder joined. -/
theorem decodeSsrPlain_resultText (config : ServerConfig) {host protocol method obfs : Str}
    (password : Str) (port : UInt16) (hhost : slash ∉ host.bytes)
    (hprotocol : colon ∉ protocol.bytes ∧ slash ∉ protocol.bytes)
    (hmethod : colon ∉ method.bytes ∧ slash ∉ method.bytes)
    (hobfs : colon ∉ obfs.bytes ∧ slash ∉ obfs.bytes) :
    decodeSsrPlain (resultText (basicText host port protocol method obfs (base64Text password.bytes))
        (optionalText config) ++ [0]) =
      .config { configCreate with
        remoteHost := some host, remotePort := port, protocol := some protocol,
        method := some method, obfs := some obfs, password := some password,
        obfsParam := carried config.obfsParam, protocolParam := carried config.protocolParam,
        remarks := carried config.remarks } := by
  have hbasic := noNul_basicText host port protocol method obfs (noNul_base64Text password.bytes)
  have hslash := slash_not_mem_basicText port hhost hprotocol.2 hmethod.2 hobfs.2
    (not_mem_base64Text urlSafeBasis64_separators.2.1 password.bytes)
  unfold decodeSsrPlain
  rw [splitPath_resultText hbasic hslash (noNul_optionalText config)]
  dsimp only
  rw [splitBasic_basicText host port (noNul_base64Text _)
    (not_mem_base64Text urlSafeBasis64_separators.1 _) hprotocol.1 hmethod.1 hobfs.1]
  dsimp only
  rw [decodeValue_base64Text]
  dsimp only
  rw [readOptional_optionalText config _ ⟨rfl, rfl, rfl⟩]
  simp only [strdup_bytes, toUnsignedShort_atoi]

theorem ssHeader_eq : ssHeader = [0x73, 0x73, 0x3a, 0x2f, 0x2f] := rfl
theorem ssrHeader_eq : ssrHeader = [0x73, 0x73, 0x72, 0x3a, 0x2f, 0x2f] := rfl

theorem noNul_ssrHeader : NoNul ssrHeader := noNul_of_all rfl

/-- `decode_ssr` of a link: the text after the header is decoded whole. -/
theorem decodeSsr_link (result : List UInt8) :
    decodeSsr (ssrHeader ++ base64Text result) = decodeSsrPlain (result ++ [0]) := by
  have hl : NoNul (ssrHeader ++ base64Text result) := noNul_append.2 ⟨noNul_ssrHeader, noNul_base64Text _⟩
  have hlen : strlen (ssrHeader ++ base64Text result) ≠ 0 := by
    rw [strlen_of_noNul hl, List.length_append]
    exact Nat.pos_iff_ne_zero.1 (Nat.add_pos_left (by decide) _)
  have hpre : ssrHeader.isPrefixOf (ssrHeader ++ base64Text result) = true :=
    isPrefixOf_iff.2 (List.prefix_append _ _)
  unfold decodeSsr
  rw [if_neg hlen, cstr_of_noNul hl, hpre, List.drop_left, base64Text, urlSafeBase64Decode_encoded]
  rfl

/-- An `ssr://` text is not taken for an `ss://` one. -/
theorem ssrQrCodeDecode_ssr {t : List UInt8} (ht : NoNul t) :
    ssrQrCodeDecode (ssrHeader ++ t) = decodeSsr (ssrHeader ++ t) := by
  have hl : NoNul (ssrHeader ++ t) := noNul_append.2 ⟨noNul_ssrHeader, ht⟩
  have hlen : strlen (ssrHeader ++ t) ≠ 0 := by
    rw [strlen_of_noNul hl, List.length_append]
    exact Nat.pos_iff_ne_zero.1 (Nat.add_pos_left (by decide) _)
  have hss : ssHeader.isPrefixOf (ssrHeader ++ t) = false := by
    simp [ssHeader_eq, ssrHeader_eq, List.isPrefixOf_cons_cons]
  have hssr : ssrHeader.isPrefixOf (ssrHeader ++ t) = true := isPrefixOf_iff.2 (List.prefix_append _ _)
  rw [ssrQrCodeDecode, if_neg hlen, cstr_of_noNul hl, hss, hssr]
  simp

theorem ssrQrCodeEncode_eq {config : ServerConfig} {host method password protocol obfs : Str}
    (hhost : config.remoteHost = some host) (hmethod : config.method = some method)
    (hpassword : config.password = some password) (hprotocol : config.protocol = some protocol)
    (hobfs : config.obfs = some obfs) (hport : config.remotePort ≠ 0) :
    ssrQrCodeEncode config = some (ssrHeader ++ base64Text (resultText
      (basicText host config.remotePort protocol method obfs (base64Text password.bytes))
      (optionalText config))) := by
  simp [ssrQrCodeEncode, hhost, hmethod, hpassword, hprotocol, hobfs, hport]

theorem ssr_link_round_trips (config : ServerConfig) {host protocol method obfs password : Str}
    (hhost : config.remoteHost = some host) (hprotocol : config.protocol = some protocol)
    (hmethod : config.method = some method) (hobfs : config.obfs = some obfs)
    (hpassword : config.password = some password) (hport : config.remotePort ≠ 0)
    (hhostSlash : slash ∉ host.bytes)
    (hnames : ∀ name ∈ [protocol, method, obfs], colon ∉ name.bytes ∧ slash ∉ name.bytes) :
    ∃ link decoded, ssrQrCodeEncode config = some link ∧ ssrQrCodeDecode link = .config decoded ∧
      decoded.remoteHost = config.remoteHost ∧ decoded.remotePort = config.remotePort ∧
      decoded.protocol = config.protocol ∧ decoded.method = config.method ∧
      decoded.obfs = config.obfs ∧ decoded.password = config.password ∧
      decoded.obfsParam = carried config.obfsParam ∧
      decoded.protocolParam = carried config.protocolParam ∧ decoded.remarks = carried config.remarks := by
  have hres := noNul_resultText
    (noNul_basicText host config.remotePort protocol method obfs (noNul_base64Text password.bytes))
    (noNul_optionalText config)
  have hdec := decodeSsrPlain_resultText config password config.remotePort hhostSlash
    (hnames protocol (by simp)) (hnames method (by simp)) (hnames obfs (by simp))
  rw [← decodeSsr_link, ← ssrQrCodeDecode_ssr (noNul_base64Text _)] at hdec
  exact ⟨_, _, ssrQrCodeEncode_eq hhost hmethod hpassword hprotocol hobfs hport, hdec, hhost.symm,
    rfl, hprotocol.symm, hmethod.symm, hobfs.symm, hpassword.symm, rfl, rfl, rfl⟩

/-- An IPv6 host, an obfs parameter, an empty protocol parameter and no remarks. -/
def ipv6Config : ServerConfig :=
  { configCreate with
    remoteHost := some ⟨ascii "::1", noNul_of_all rfl⟩, remotePort := 8388,
    password := some ⟨ascii "secret", noNul_of_all rfl⟩,
    method := some ⟨ascii "aes-256-cfb", noNul_of_all rfl⟩,
    protocol := some ⟨ascii "auth_aes128_md5", noNul_of_all rfl⟩,
    obfs := some ⟨ascii "tls1.2_ticket_auth", noNul_of_all rfl⟩,
    obfsParam := some ⟨ascii "cloudflare.com", noNul_of_all rfl⟩,
    protocolParam := some ⟨[], noNul_nil⟩ }

theorem ipv6_link_round_trips :
    ∃ link decoded, ssrQrCodeEncode ipv6Config = some link ∧
      ssrQrCodeDecode link = .config decoded ∧
      decoded.remoteHost = ipv6Config.remoteHost ∧ decoded.remotePort = ipv6Config.remotePort ∧
      decoded.protocol = ipv6Config.protocol ∧ decoded.method = ipv6Config.method ∧
      decoded.obfs = ipv6Config.obfs ∧ decoded.password = ipv6Config.password ∧
      decoded.obfsParam = carried ipv6Config.obfsParam ∧
      decoded.protocolParam = carried ipv6Config.protocolParam ∧
      decoded.remarks = carried ipv6Config.remarks :=
  ssr_link_round_trips ipv6Config rfl rfl rfl rfl rfl (by decide) (by decide) (by decide)

end ShadowsocksR.SsrQrCode
